import Mathlib.Tactic.Common
import BlobRoyale.Library.DecimalText

/-!
# Host and Origin authorities

The normal forms the server compares: a canonical address or a lower-cased DNS name, and a port. A text
is a list of bytes; a refused one has the empty normal form. Boost's addresses are a parameter.
-/

namespace BlobRoyale.Server

def minimumPort : Nat := 1
def maximumPort : Nat := 65535
def configurationAllowlistEntryMaximumByteCount : Nat := 255

/-- What Boost.Asio answers of numeric addresses. -/
structure AddressPlatform (A : Type) where
  /-- `make_address`, none on an error. -/
  makeAddress : List Char → Option A
  toText : A → List Char
  isV4 : A → Bool
  isLoopback : A → Bool
  isUnspecified : A → Bool
  toBytes : A → List Nat

section Characters

def isAsciiDigit (character : Char) : Bool := '0' ≤ character && character ≤ '9'

def isAsciiAlpha (character : Char) : Bool :=
  ('A' ≤ character && character ≤ 'Z') || ('a' ≤ character && character ≤ 'z')

def toAsciiLower (character : Char) : Char :=
  if 'A' ≤ character && character ≤ 'Z' then Char.ofNat (character.toNat + ('a'.toNat - 'A'.toNat)) else character

end Characters

section DnsNames

/-- The locals of `is_valid_dns_name`'s loop. -/
structure DnsScan where
  labelLength : Nat
  labelStartsWithHyphen : Bool
  previous : Char

def scanDnsName (scan : DnsScan) : List Char → Bool
  | [] =>
      0 < scan.labelLength && scan.labelLength ≤ 63 && !scan.labelStartsWithHyphen && scan.previous != '-'
  | character :: rest =>
      if character = '.' then
        if scan.labelLength = 0 || 63 < scan.labelLength || scan.labelStartsWithHyphen || scan.previous = '-' then false
        else scanDnsName ⟨0, false, character⟩ rest
      else if !isAsciiAlpha character && !isAsciiDigit character && character != '-' then false
      else
        scanDnsName ⟨scan.labelLength + 1,
          if scan.labelLength = 0 then character = '-' else scan.labelStartsWithHyphen, character⟩ rest

def isValidDnsName (host : List Char) : Bool :=
  if host.isEmpty || 253 < host.length || host.head? = some '.' || host.getLast? = some '.' then false
  else scanDnsName ⟨0, false, '\x00'⟩ host

end DnsNames

section Ports

/-- The loop of `normalize_port_suffix`. -/
def readPort (port : Nat) : List Char → Option Nat
  | [] => some port
  | character :: rest =>
      if !isAsciiDigit character then none
      else
        let next := port * 10 + (character.toNat - '0'.toNat)
        if maximumPort < next then none else readPort next rest

def normalizePortSuffix (suffix : List Char) (defaultPort : Option Nat) : Option (List Char) :=
  match suffix with
  | [] =>
      match defaultPort with
      | none => some []
      | some port => some (':' :: Nat.toDigits 10 port)
  | front :: digits =>
      if front ≠ ':' || digits.isEmpty || (1 < digits.length && digits.head? = some '0') then none
      else
        match readPort 0 digits with
        | none => none
        | some port => if port < minimumPort then none else some (front :: digits)

end Ports

variable {A : Type} (platform : AddressPlatform A)

def parseCanonicalAddress (text : List Char) : Option A :=
  if text.isEmpty || text.contains '%' then none
  else
    match platform.makeAddress text with
    | none => none
    | some address => if platform.toText address = text then some address else none

/-- The bytes `normalize_authority` refuses anywhere. -/
def authorityDelimiters : List Char := ['@', '/', '?', '#', ' ', '\t', '\r', '\n']

def normalizeBracketed (rest : List Char) (defaultPort : Option Nat) : List Char :=
  match rest.dropWhile (· ≠ ']') with
  | [] => []
  | _ :: suffix =>
      let addressText := rest.takeWhile (· ≠ ']')
      match parseCanonicalAddress platform addressText with
      | none => []
      | some address =>
          if platform.isV4 address then []
          else
            match normalizePortSuffix suffix defaultPort with
            | none => []
            | some port => '[' :: addressText ++ ']' :: port

def normalizeUnbracketed (authority : List Char) (defaultPort : Option Nat) : List Char :=
  if 1 < authority.count ':' then []
  else
    let host := authority.takeWhile (· ≠ ':')
    match normalizePortSuffix (authority.dropWhile (· ≠ ':')) defaultPort with
    | none => []
    | some port =>
        if host.isEmpty then []
        else
          match parseCanonicalAddress platform host with
          | some address => if platform.isV4 address then host ++ port else []
          | none =>
              let normalizedHost := host.map toAsciiLower
              if isValidDnsName normalizedHost then normalizedHost ++ port else []

def normalizeAuthority (authority : List Char) (defaultPort : Option Nat) : List Char :=
  if authority.isEmpty || configurationAllowlistEntryMaximumByteCount < authority.length ||
      authority.any (authorityDelimiters.contains ·) then []
  else if authority.head? = some '[' then normalizeBracketed platform authority.tail defaultPort
  else normalizeUnbracketed platform authority defaultPort

def normalizeHostAuthority (authority : List Char) (defaultPort : Nat) : List Char :=
  normalizeAuthority platform authority (some defaultPort)

inductive OriginScheme where
  | http
  | https
  deriving DecidableEq, Repr

namespace OriginScheme

def text : OriginScheme → List Char
  | http => ['h', 't', 't', 'p', ':', '/', '/']
  | https => ['h', 't', 't', 'p', 's', ':', '/', '/']

def defaultPort : OriginScheme → Nat
  | http => 80
  | https => 443

end OriginScheme

/-- The scheme an origin's first bytes spell in any case. -/
def originScheme (origin : List Char) : Option OriginScheme :=
  if 7 ≤ origin.length then
    let opening := (origin.take 8).map toAsciiLower
    if OriginScheme.http.text.isPrefixOf opening then some .http
    else if OriginScheme.https.text.isPrefixOf opening then some .https
    else none
  else none

def normalizeSerializedOrigin (origin : List Char) : List Char :=
  if configurationAllowlistEntryMaximumByteCount < origin.length || origin = ['n', 'u', 'l', 'l'] then []
  else
    match originScheme origin with
    | none => []
    | some scheme =>
        if origin.length ≤ scheme.text.length then []
        else
          let normalizedAuthority :=
            normalizeAuthority platform (origin.drop scheme.text.length) (some scheme.defaultPort)
          if normalizedAuthority.isEmpty then [] else scheme.text ++ normalizedAuthority

end BlobRoyale.Server

/-!
# What an authority names

The hosts and ports an authority's text denotes, stated apart from the code: DNS names by their labels,
addresses by their canonical texts, ports by their numerals.
-/

namespace BlobRoyale.Server

section DnsNames

variable {name label rest : List Char} {scan : DnsScan} {character : Char}

def DnsByte (character : Char) : Prop :=
  isAsciiAlpha character = true ∨ isAsciiDigit character = true ∨ character = '-'

/-- One to sixty-three letters, digits and inner hyphens. -/
structure DnsLabel (label : List Char) : Prop where
  written : label ≠ []
  short : label.length ≤ 63
  bytes : ∀ character ∈ label, DnsByte character
  opens : label.head? ≠ some '-'
  closes : label.getLast? ≠ some '-'

/-- Labels between dots, of at most 253 bytes together. -/
structure DnsName (name : List Char) : Prop where
  short : name.length ≤ 253
  labels : ∀ label ∈ name.splitOn '.', DnsLabel label

/-- The scan after part of a label. -/
structure Scans (scan : DnsScan) (label : List Char) : Prop where
  length : scan.labelLength = label.length
  opens : scan.labelStartsWithHyphen = true ↔ label.head? = some '-'
  closes : scan.previous = '-' ↔ label.getLast? = some '-'
  bytes : ∀ character ∈ label, DnsByte character

theorem Scans.nil {previous : Char} (other : previous ≠ '-') : Scans ⟨0, false, previous⟩ [] :=
  ⟨rfl, by simp, by simp [other], by simp⟩

theorem not_dnsByte_iff :
    (!isAsciiAlpha character && !isAsciiDigit character && character != '-') = true ↔ ¬ DnsByte character := by
  unfold DnsByte
  simp only [Bool.and_eq_true, Bool.not_eq_true', bne_iff_ne, ne_eq, not_or, Bool.not_eq_true, and_assoc]

theorem not_dnsByte_dot : ¬ DnsByte '.' := by
  unfold DnsByte
  decide

theorem Scans.dot_not_mem (scans : Scans scan label) : '.' ∉ label :=
  fun member => not_dnsByte_dot (scans.bytes '.' member)

theorem Scans.concat (scans : Scans scan label) (byte : DnsByte character) :
    Scans ⟨scan.labelLength + 1, if scan.labelLength = 0 then character = '-' else scan.labelStartsWithHyphen, character⟩
      (label ++ [character]) := by
  obtain ⟨length, opens, closes, bytes⟩ := scans
  refine ⟨by simp [length], ?_, by simp, ?_⟩
  · dsimp only
    rw [length]
    cases label with
    | nil => simp
    | cons first others => simpa using opens
  · intro other member
    obtain earlier | last := List.mem_append.mp member
    · exact bytes other earlier
    · rw [List.mem_singleton.mp last]
      exact byte

theorem Scans.label_iff (scans : Scans scan label) :
    DnsLabel label ↔ (scan.labelLength ≠ 0 ∧ scan.labelLength ≤ 63) ∧
      scan.labelStartsWithHyphen = false ∧ scan.previous ≠ '-' := by
  obtain ⟨length, opens, closes, bytes⟩ := scans
  rw [length, ← Bool.not_eq_true, opens, ne_eq, ne_eq, closes, List.length_eq_zero_iff]
  exact ⟨fun label => ⟨⟨label.written, label.short⟩, label.opens, label.closes⟩,
    fun ⟨⟨written, short⟩, opens, closes⟩ => ⟨written, short, bytes, opens, closes⟩⟩

theorem exists_mem_splitOn {text : List Char} {separator : Char} (member : character ∈ text)
    (other : character ≠ separator) : ∃ piece ∈ text.splitOn separator, character ∈ piece := by
  rw [← @List.intercalate_splitOn _ text _ _ separator] at member
  generalize text.splitOn separator = pieces at member
  induction pieces with
  | nil => cases member
  | cons piece pieces ih =>
    cases pieces with
    | nil => exact ⟨piece, List.mem_singleton_self _, by simpa [List.intercalate] using member⟩
    | cons next pieces =>
      rw [List.intercalate_cons_cons, List.append_assoc, List.mem_append, List.mem_append] at member
      obtain first | separates | later := member
      · exact ⟨piece, List.mem_cons_self, first⟩
      · exact absurd (List.mem_singleton.mp separates) other
      · obtain ⟨found, among, within⟩ := ih later
        exact ⟨found, List.mem_cons_of_mem _ among, within⟩

theorem scanDnsName_iff (scans : Scans scan label) :
    scanDnsName scan rest = true ↔ ∀ piece ∈ (label ++ rest).splitOn '.', DnsLabel piece := by
  induction rest generalizing scan label with
  | nil =>
    rw [List.append_nil, List.splitOn_eq_singleton scans.dot_not_mem, List.forall_mem_singleton, scans.label_iff]
    simp [scanDnsName, Nat.pos_iff_ne_zero, and_assoc]
  | cons character rest ih =>
    rw [scanDnsName]
    by_cases dot : character = '.'
    · subst dot
      rw [if_pos rfl, List.splitOn_append_cons_self_of_not_mem scans.dot_not_mem, List.forall_mem_cons,
        scans.label_iff]
      have fresh : Scans ⟨0, false, '.'⟩ [] := Scans.nil (by decide)
      have others := ih fresh
      rw [List.nil_append] at others
      rw [← others]
      split
      · next refused => simp only [Bool.or_eq_true, decide_eq_true_eq] at refused; grind
      · next accepted => simp only [Bool.or_eq_true, decide_eq_true_eq] at accepted; grind
    · rw [if_neg dot]
      by_cases byte : DnsByte character
      · rw [if_neg (fun refused => not_dnsByte_iff.mp refused byte), ih (scans.concat byte), List.append_assoc,
          List.singleton_append]
      · rw [if_pos (not_dnsByte_iff.mpr byte)]
        refine iff_of_false Bool.false_ne_true fun labels => ?_
        obtain ⟨piece, among, within⟩ := @exists_mem_splitOn _ (label ++ character :: rest) _
          (List.mem_append_right _ List.mem_cons_self) dot
        exact byte ((labels piece among).bytes character within)

theorem isValidDnsName_iff : isValidDnsName name = true ↔ DnsName name := by
  have starts : Scans ⟨0, false, '\x00'⟩ [] := Scans.nil (by decide)
  have scanned := @scanDnsName_iff _ name _ starts
  rw [List.nil_append] at scanned
  rw [isValidDnsName]
  split
  · next refused =>
    refine iff_of_false Bool.false_ne_true fun ⟨short, labels⟩ => ?_
    simp only [Bool.or_eq_true, List.isEmpty_iff, decide_eq_true_eq] at refused
    obtain ((empty | long) | opens) | closes := refused
    · subst empty
      exact (labels [] (List.mem_singleton_self _)).written rfl
    · omega
    · obtain ⟨rest, rfl⟩ := List.head?_eq_some_iff.mp opens
      rw [← List.nil_append ('.' :: rest), List.splitOn_append_cons_self] at labels
      exact (labels [] (List.mem_append_left _ (List.mem_singleton_self _))).written rfl
    · obtain ⟨front, rfl⟩ := List.getLast?_eq_some_iff.mp closes
      rw [List.splitOn_append_cons_self] at labels
      exact (labels [] (List.mem_append_right _ (List.mem_singleton_self _))).written rfl
  · next accepted =>
    simp only [Bool.or_eq_true, decide_eq_true_eq, not_or] at accepted
    rw [scanned]
    exact ⟨fun labels => ⟨by omega, labels⟩, DnsName.labels⟩

theorem DnsName.bytes (dns : DnsName name) (member : character ∈ name) : DnsByte character ∨ character = '.' := by
  by_cases dot : character = '.'
  · exact .inr dot
  · obtain ⟨piece, among, within⟩ := exists_mem_splitOn member dot
    exact .inl ((dns.labels piece among).bytes character within)

theorem DnsName.written (dns : DnsName name) : name ≠ [] := by
  rintro rfl
  exact (dns.labels [] (List.mem_singleton_self _)).written rfl

end DnsNames

section Ports

/-- A suffix that spells a port, or leaves the default. -/
inductive PortText (defaultPort : Nat) : List Char → Nat → Prop where
  | implied : PortText defaultPort [] defaultPort
  | explicit (port : Nat) (positive : minimumPort ≤ port) (within : port ≤ maximumPort) :
      PortText defaultPort (':' :: Nat.toDigits 10 port) port

end Ports

section Hosts

variable {A : Type}

/-- A numeric address, or a DNS name as it was written. -/
inductive Host (A : Type) where
  | address (address : A)
  | dnsName (name : List Char)

/-- The same address, or DNS names equal up to ASCII case. -/
def Host.Same : Host A → Host A → Prop
  | .address first, .address second => first = second
  | .dnsName first, .dnsName second => first.map toAsciiLower = second.map toAsciiLower
  | .address _, .dnsName _ | .dnsName _, .address _ => False

variable (platform : AddressPlatform A)

/-- The text is the address's own, and names no zone. -/
structure CanonicalText (text : List Char) (address : A) : Prop where
  written : text ≠ []
  unzoned : '%' ∉ text
  parses : platform.makeAddress text = some address
  prints : platform.toText address = text

inductive HostText : List Char → Host A → Prop where
  | bracketed {text : List Char} {address : A} (canonical : CanonicalText platform text address)
      (v6 : platform.isV4 address = false) : HostText ('[' :: text ++ [']']) (.address address)
  | dotted {text : List Char} {address : A} (canonical : CanonicalText platform text address)
      (v4 : platform.isV4 address = true) : HostText text (.address address)
  | named {name : List Char} (dns : DnsName name) (unnumbered : ∀ address, ¬ CanonicalText platform name address) :
      HostText name (.dnsName name)

/-- The authority's text is of the host and the effective port. -/
def Denotes (defaultPort : Nat) (authority : List Char) (host : Host A) (port : Nat) : Prop :=
  ∃ text suffix, authority = text ++ suffix ∧ HostText platform text host ∧ PortText defaultPort suffix port

def isHexadecimal (character : Char) : Bool :=
  isAsciiDigit character || ('a' ≤ character && character ≤ 'f') || ('A' ≤ character && character ≤ 'F')

/-- How Boost spells canonical addresses: four decimal bytes between dots, or hexadecimal groups between colons
that may end in such bytes. -/
structure AddressPlatform.Lawful : Prop where
  v4Text : ∀ {text address}, CanonicalText platform text address → platform.isV4 address = true →
    ∀ character ∈ text, isAsciiDigit character = true ∨ character = '.'
  v6Colon : ∀ {text address}, CanonicalText platform text address → platform.isV4 address = false → ':' ∈ text
  v6Text : ∀ {text address}, CanonicalText platform text address → platform.isV4 address = false →
    ∀ character ∈ text, isHexadecimal character = true ∨ character = ':' ∨ character = '.'

end Hosts

end BlobRoyale.Server
