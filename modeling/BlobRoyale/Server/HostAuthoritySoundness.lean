import Mathlib.Tactic.IntervalCases
import BlobRoyale.Library.DelimitedText
import BlobRoyale.Server.HostAuthority

/-!
# Normal forms name their authorities

An accepted authority's normal form is its host's one text and its port's numeral, and normal forms are
read back unchanged.
-/

namespace BlobRoyale.Server

open DelimitedText

section Characters

variable {character : Char}

theorem isAsciiDigit_eq : isAsciiDigit character = character.isDigit := rfl

theorem isAsciiUpper_cases (upper : ('A' ≤ character && character ≤ 'Z') = true) :
    ∃ index < 26, character = Char.ofNat ('A'.toNat + index) := by
  simp only [Bool.and_eq_true, decide_eq_true_eq] at upper
  obtain ⟨low, high⟩ := upper
  have lower : 65 ≤ character.toNat := low
  have upper : character.toNat ≤ 90 := high
  refine ⟨character.toNat - 65, by omega, ?_⟩
  have same : 'A'.toNat + (character.toNat - 65) = character.toNat := by
    show 65 + (character.toNat - 65) = character.toNat
    omega
  rw [same, Char.ofNat_toNat]

theorem toAsciiLower_cases (character : Char) :
    toAsciiLower character = character ∨
      (isAsciiAlpha character = true ∧ isAsciiAlpha (toAsciiLower character) = true ∧
        toAsciiLower (toAsciiLower character) = toAsciiLower character) := by
  by_cases upper : ('A' ≤ character && character ≤ 'Z') = true
  · obtain ⟨index, below, rfl⟩ := isAsciiUpper_cases upper
    refine .inr ?_
    clear upper
    interval_cases index <;> decide
  · refine .inl ?_
    rw [toAsciiLower, if_neg upper]

theorem toAsciiLower_idem (character : Char) : toAsciiLower (toAsciiLower character) = toAsciiLower character := by
  obtain same | ⟨-, -, settled⟩ := toAsciiLower_cases character
  · rw [same, same]
  · exact settled

theorem eq_of_toAsciiLower {other : Char} (same : toAsciiLower character = other) (plain : isAsciiAlpha other = false) :
    character = other := by
  obtain kept | ⟨-, letter, -⟩ := toAsciiLower_cases character
  · exact kept.symm.trans same
  · rw [same, plain] at letter
    cases letter

theorem dnsByte_toAsciiLower : DnsByte (toAsciiLower character) ↔ DnsByte character := by
  obtain same | ⟨letter, lowered, -⟩ := toAsciiLower_cases character
  · rw [same]
  · exact ⟨fun _ => .inl letter, fun _ => .inl lowered⟩

theorem not_alpha_of_digit (digit : isAsciiDigit character = true) : isAsciiAlpha character = false := by
  simp only [isAsciiDigit, Bool.and_eq_true, decide_eq_true_eq] at digit
  have high : character.toNat ≤ 57 := digit.2
  simp only [isAsciiAlpha, Bool.or_eq_false_iff, Bool.and_eq_false_iff, decide_eq_false_iff_not]
  have capital : ¬ 'A' ≤ character := fun low => absurd (show 65 ≤ character.toNat from low) (by omega)
  have small : ¬ 'a' ≤ character := fun low => absurd (show 97 ≤ character.toNat from low) (by omega)
  exact ⟨.inl capital, .inl small⟩

theorem scanDnsName_lower {rest : List Char} {scan other : DnsScan} (length : scan.labelLength = other.labelLength)
    (opens : scan.labelStartsWithHyphen = other.labelStartsWithHyphen)
    (closes : scan.previous = '-' ↔ other.previous = '-') :
    scanDnsName scan (rest.map toAsciiLower) = scanDnsName other rest := by
  induction rest generalizing scan other with
  | nil =>
    have previous : (scan.previous != '-') = (other.previous != '-') := by
      rw [Bool.eq_iff_iff, bne_iff_ne, bne_iff_ne, ne_eq, closes]
    rw [List.map_nil, scanDnsName, scanDnsName, length, opens, previous]
  | cons character rest ih =>
    rw [List.map_cons, scanDnsName, scanDnsName]
    by_cases dot : character = '.'
    · subst dot
      rw [if_pos (by decide), if_pos rfl, length, opens]
      have next := @ih ⟨0, false, toAsciiLower '.'⟩ ⟨0, false, '.'⟩ rfl rfl (by decide)
      simp only [closes, next]
    · rw [if_neg (fun lowered => dot (eq_of_toAsciiLower lowered (by decide))), if_neg dot]
      by_cases byte : DnsByte character
      · rw [if_neg (fun refused => not_dnsByte_iff.mp refused (dnsByte_toAsciiLower.mpr byte)),
          if_neg (fun refused => not_dnsByte_iff.mp refused byte)]
        have hyphen : toAsciiLower character = '-' ↔ character = '-' :=
          ⟨fun lowered => eq_of_toAsciiLower lowered (by decide), fun same => by rw [same]; decide⟩
        refine ih ?_ ?_ hyphen
        · dsimp only
          rw [length]
        · dsimp only
          rw [length, opens, decide_eq_decide.mpr hyphen]
      · rw [if_pos (not_dnsByte_iff.mpr (fun lowered => byte (dnsByte_toAsciiLower.mp lowered))),
          if_pos (not_dnsByte_iff.mpr byte)]

theorem map_toAsciiLower_idem (name : List Char) :
    (name.map toAsciiLower).map toAsciiLower = name.map toAsciiLower := by
  rw [List.map_map]
  exact List.map_congr_left fun character _ => toAsciiLower_idem character

theorem dnsName_lower {name : List Char} : DnsName (name.map toAsciiLower) ↔ DnsName name := by
  have starts : Scans ⟨0, false, '\x00'⟩ [] := Scans.nil (by decide)
  have scanned := fun text : List Char => @scanDnsName_iff _ text _ starts
  have same := @scanDnsName_lower name ⟨0, false, '\x00'⟩ ⟨0, false, '\x00'⟩ rfl rfl Iff.rfl
  constructor
  · intro ⟨short, labels⟩
    refine ⟨by rwa [List.length_map] at short, (scanned name).mp ?_⟩
    rw [← same]
    exact (scanned _).mpr labels
  · intro ⟨short, labels⟩
    refine ⟨by rwa [List.length_map], (scanned _).mp ?_⟩
    rw [same]
    exact (scanned name).mpr labels

end Characters

section Ports

variable {digits suffix text : List Char} {port value defaultPort : Nat}

theorem le_ofDigitChars (port : Nat) : port ≤ Nat.ofDigitChars 10 digits port := by
  induction digits generalizing port with
  | nil => exact le_rfl
  | cons digit rest ih =>
    rw [Nat.ofDigitChars_cons]
    exact le_trans (by omega) (ih _)

theorem readPort_eq_some_iff (within : port ≤ maximumPort) :
    readPort port digits = some value ↔
      (∀ digit ∈ digits, isAsciiDigit digit = true) ∧ Nat.ofDigitChars 10 digits port = value ∧ value ≤ maximumPort := by
  induction digits generalizing port with
  | nil =>
    rw [readPort, Option.some_inj, Nat.ofDigitChars_nil]
    constructor
    · rintro rfl
      exact ⟨by simp, rfl, within⟩
    · exact fun read => read.2.1
  | cons digit rest ih =>
    rw [readPort, Nat.ofDigitChars_cons, Nat.mul_comm 10]
    dsimp only
    split
    · next refused =>
      refine iff_of_false (Option.some_ne_none _).symm fun read => ?_
      rw [read.1 digit List.mem_cons_self] at refused
      cases refused
    · next accepted =>
      rw [Bool.not_eq_true, Bool.not_eq_false'] at accepted
      split
      · next above =>
        refine iff_of_false (Option.some_ne_none _).symm fun read => ?_
        have grown := @le_ofDigitChars rest (port * 10 + (digit.toNat - '0'.toNat))
        rw [read.2.1] at grown
        exact absurd (le_trans grown read.2.2) (by omega)
      · next under =>
        rw [ih (by omega), List.forall_mem_cons, accepted]
        simp

theorem normalizePortSuffix_eq_some_iff :
    normalizePortSuffix suffix (some defaultPort) = some text ↔
      ∃ port, PortText defaultPort suffix port ∧ text = ':' :: Nat.toDigits 10 port := by
  cases suffix with
  | nil =>
    rw [normalizePortSuffix, Option.some_inj, eq_comm]
    constructor
    · exact fun same => ⟨defaultPort, .implied, same⟩
    · rintro ⟨port, spelled, rfl⟩
      cases spelled
      rfl
  | cons front digits =>
    rw [normalizePortSuffix]
    split
    · next refused =>
      refine iff_of_false (Option.some_ne_none _).symm ?_
      rintro ⟨port, spelled, -⟩
      cases spelled with
      | explicit _ positive within =>
        simp only [Bool.or_eq_true, decide_eq_true_eq, Bool.and_eq_true, List.isEmpty_iff] at refused
        obtain (colon | empty) | ⟨-, leading⟩ := refused
        · exact colon rfl
        · exact Nat.toDigits_ne_nil empty
        · exact DecimalText.head_toDigits positive leading
    · next accepted =>
      simp only [Bool.or_eq_true, decide_eq_true_eq, Bool.and_eq_true, List.isEmpty_iff, not_or, not_and, not_not] at accepted
      obtain ⟨⟨colon, written⟩, single⟩ := accepted
      subst colon
      cases read : readPort 0 digits with
      | none =>
        refine iff_of_false (Option.some_ne_none _).symm ?_
        rintro ⟨port, spelled, -⟩
        cases spelled with
        | explicit _ positive within =>
          have reads : readPort 0 (Nat.toDigits 10 port) = some port := (readPort_eq_some_iff (Nat.zero_le _)).mpr
            ⟨fun digit member => DecimalText.isDigit_of_mem_toDigits member, Nat.ofDigitChars_ten_toDigits, within⟩
          rw [reads] at read
          cases read
      | some port =>
        obtain ⟨isDigits, value, within⟩ := (readPort_eq_some_iff (Nat.zero_le _)).mp read
        dsimp only
        split
        · next low =>
          refine iff_of_false (Option.some_ne_none _).symm ?_
          rintro ⟨port, spelled, -⟩
          cases spelled with
          | explicit _ positive within =>
            rw [Nat.ofDigitChars_ten_toDigits] at value
            omega
        · next positive =>
          have leading : digits.head? ≠ some '0' := by
            intro zero
            have short : ¬ 1 < digits.length := fun long => single long zero
            obtain ⟨rest, rfl⟩ := List.head?_eq_some_iff.mp zero
            have none : rest = [] := by
              rw [List.length_cons] at short
              exact List.length_eq_zero_iff.mp (by omega)
            subst none
            exact positive (by rw [← value]; decide)
          have numeral := (DecimalText.toDigits_value isDigits leading written).2
          rw [value] at numeral
          rw [Option.some_inj]
          constructor
          · rintro rfl
            refine ⟨port, ?_, by rw [numeral]⟩
            have spelled : PortText defaultPort _ port := PortText.explicit port (not_lt.mp positive) within
            rwa [numeral] at spelled
          · rintro ⟨other, spelled, rfl⟩
            cases spelled
            rfl

theorem PortText.colonless (spelled : PortText defaultPort suffix port) :
    suffix = [] ∨ ∃ digits, suffix = ':' :: digits ∧ ':' ∉ digits := by
  cases spelled with
  | implied => exact .inl rfl
  | explicit _ positive within =>
    refine .inr ⟨_, rfl, fun member => ?_⟩
    exact absurd (DecimalText.isDigit_of_mem_toDigits member) (by decide)

end Ports

section Hosts

variable {A : Type} {platform : AddressPlatform A} {defaultPort port : Nat} {authority text suffix name : List Char}
  {host : Host A} {address : A}

theorem parseCanonicalAddress_eq_some_iff :
    parseCanonicalAddress platform text = some address ↔ CanonicalText platform text address := by
  rw [parseCanonicalAddress]
  split
  · next refused =>
    simp only [Bool.or_eq_true, List.isEmpty_iff, List.contains_iff_mem] at refused
    refine iff_of_false (Option.some_ne_none _).symm fun canonical => ?_
    obtain empty | zoned := refused
    · exact canonical.written empty
    · exact canonical.unzoned zoned
  · next accepted =>
    simp only [Bool.or_eq_true, List.isEmpty_iff, List.contains_iff_mem, not_or] at accepted
    cases made : platform.makeAddress text with
    | none =>
      refine iff_of_false (Option.some_ne_none _).symm fun canonical => ?_
      rw [canonical.parses] at made
      cases made
    | some other =>
      dsimp only
      split
      · next prints =>
        rw [Option.some_inj]
        constructor
        · rintro rfl
          exact ⟨accepted.1, accepted.2, made, prints⟩
        · exact fun canonical => Option.some_inj.mp (made.symm.trans canonical.parses)
      · next differs =>
        refine iff_of_false (Option.some_ne_none _).symm fun canonical => differs ?_
        rw [Option.some_inj.mp (made.symm.trans canonical.parses), canonical.prints]

theorem parseCanonicalAddress_eq_none_iff :
    parseCanonicalAddress platform text = none ↔ ∀ address, ¬ CanonicalText platform text address := by
  rw [Option.eq_none_iff_forall_ne_some]
  exact forall_congr' fun address => not_congr parseCanonicalAddress_eq_some_iff

def Host.normalText (platform : AddressPlatform A) : Host A → List Char
  | .address address =>
      if platform.isV4 address then platform.toText address else '[' :: platform.toText address ++ [']']
  | .dnsName name => name.map toAsciiLower

def normalForm (platform : AddressPlatform A) (host : Host A) (port : Nat) : List Char :=
  host.normalText platform ++ ':' :: Nat.toDigits 10 port

theorem exists_denotes (accepted : normalizeAuthority platform authority (some defaultPort) ≠ []) :
    ∃ host port, Denotes platform defaultPort authority host port := by
  rw [normalizeAuthority] at accepted
  split at accepted
  · exact absurd rfl accepted
  split at accepted
  · next bracket =>
    obtain ⟨rest, rfl⟩ := List.head?_eq_some_iff.mp bracket
    rw [List.tail_cons, normalizeBracketed] at accepted
    split at accepted
    · exact absurd rfl accepted
    · next closing suffix closes =>
      have closing' : closing = ']' := by
        have stops := List.head?_dropWhile_not (fun c => decide (c ≠ ']')) rest
        rw [closes] at stops
        simpa using stops
      subst closing'
      dsimp only at accepted
      split at accepted
      · exact absurd rfl accepted
      · next address parsed =>
        split at accepted
        · exact absurd rfl accepted
        · next v6 =>
          cases read : normalizePortSuffix suffix (some defaultPort) with
          | none =>
            rw [read] at accepted
            exact absurd rfl accepted
          | some text =>
            obtain ⟨port, spelled, -⟩ := normalizePortSuffix_eq_some_iff.mp read
            refine ⟨.address address, port, '[' :: rest.takeWhile (· ≠ ']') ++ [']'], suffix, ?_, ?_, spelled⟩
            · rw [List.append_assoc, List.cons_append, List.singleton_append, ← closes, List.takeWhile_append_dropWhile]
            · exact .bracketed (parseCanonicalAddress_eq_some_iff.mp parsed) (Bool.eq_false_iff.mpr v6)
  · rw [normalizeUnbracketed] at accepted
    split at accepted
    · exact absurd rfl accepted
    dsimp only at accepted
    split at accepted
    · exact absurd rfl accepted
    · next text read =>
      obtain ⟨port, spelled, -⟩ := normalizePortSuffix_eq_some_iff.mp read
      have whole := List.takeWhile_append_dropWhile (p := fun c => decide (c ≠ ':')) (l := authority)
      split at accepted
      · exact absurd rfl accepted
      split at accepted
      · next address parsed =>
        split at accepted
        · next v4 =>
          exact ⟨.address address, port, _, _, whole.symm, .dotted (parseCanonicalAddress_eq_some_iff.mp parsed) v4, spelled⟩
        · exact absurd rfl accepted
      · next unparsed =>
        split at accepted
        · next valid =>
          refine ⟨.dnsName _, port, _, _, whole.symm, .named ?_ ?_, spelled⟩
          · exact dnsName_lower.mp (isValidDnsName_iff.mp valid)
          · exact parseCanonicalAddress_eq_none_iff.mp unparsed
        · exact absurd rfl accepted

theorem guards_of_accepted (accepted : normalizeAuthority platform authority (some defaultPort) ≠ []) :
    authority.length ≤ configurationAllowlistEntryMaximumByteCount ∧
      authority.any (authorityDelimiters.contains ·) = false := by
  rw [normalizeAuthority] at accepted
  split at accepted
  · exact absurd rfl accepted
  · next open' =>
    simp only [Bool.or_eq_true, decide_eq_true_eq, not_or, Bool.not_eq_true] at open'
    exact ⟨not_lt.mp open'.1.2, open'.2⟩

theorem HostText.unbracketed (lawful : platform.Lawful) (hosts : HostText platform text host)
    (opens : text.head? ≠ some '[') : text ≠ [] ∧ ':' ∉ text := by
  cases hosts with
  | bracketed canonical v6 => exact absurd rfl opens
  | dotted canonical v4 =>
    refine ⟨canonical.written, fun colon => ?_⟩
    obtain digit | dot := lawful.v4Text canonical v4 _ colon
    · exact absurd digit (by decide)
    · exact absurd dot (by decide)
  | named dns unnumbered =>
    refine ⟨dns.written, fun colon => ?_⟩
    obtain byte | dot := dns.bytes colon
    · exact absurd byte (by unfold DnsByte; decide)
    · exact absurd dot (by decide)

theorem takeWhile_host (colonless : ':' ∉ text) (spelled : PortText defaultPort suffix port) :
    (text ++ suffix).takeWhile (· ≠ ':') = text ∧ (text ++ suffix).dropWhile (· ≠ ':') = suffix ∧
      (text ++ suffix).count ':' ≤ 1 := by
  have uncounted := List.count_eq_zero.mpr colonless
  obtain rfl | ⟨digits, rfl, digitless⟩ := spelled.colonless
  · have all : ∀ c ∈ text, decide (c ≠ ':') = true := fun c member => decide_eq_true fun same => colonless (same ▸ member)
    rw [List.append_nil, uncounted]
    exact ⟨List.takeWhile_eq_self_iff.mpr all, List.dropWhile_eq_nil_iff.mpr all, Nat.zero_le _⟩
  · refine ⟨takeWhile_delimited colonless, dropWhile_delimited colonless, ?_⟩
    rw [List.count_append, uncounted, List.count_cons_self, List.count_eq_zero.mpr digitless]

theorem Denotes.normalizeAuthority_eq (lawful : platform.Lawful) (denotes : Denotes platform defaultPort authority host port)
    (short : authority.length ≤ configurationAllowlistEntryMaximumByteCount)
    (plain : authority.any (authorityDelimiters.contains ·) = false) :
    normalizeAuthority platform authority (some defaultPort) = normalForm platform host port := by
  obtain ⟨text, suffix, rfl, hosts, spelled⟩ := denotes
  have read := normalizePortSuffix_eq_some_iff.mpr ⟨port, spelled, rfl⟩
  have written : (text ++ suffix).isEmpty = false := by
    rw [List.isEmpty_eq_false_iff]
    refine List.append_ne_nil_of_left_ne_nil ?_ _
    cases hosts with
    | bracketed canonical v6 => simp
    | dotted canonical v4 => exact canonical.written
    | named dns unnumbered => exact dns.written
  rw [normalizeAuthority, written, plain, decide_eq_false (not_lt.mpr short), Bool.or_self, Bool.or_self,
    if_neg Bool.false_ne_true]
  by_cases opens : text.head? = some '['
  · cases hosts with
    | @bracketed text address canonical v6 =>
      have unclosed : ']' ∉ text := by
        intro member
        have spelled := lawful.v6Text canonical v6 _ member
        exact absurd spelled (by decide)
      have brackets : ('[' :: text ++ [']'] ++ suffix).tail = text ++ ']' :: suffix := by
        rw [List.append_assoc]
        rfl
      have head : ('[' :: text ++ [']'] ++ suffix).head? = some '[' := rfl
      rw [if_pos head, brackets, normalizeBracketed, takeWhile_delimited unclosed, dropWhile_delimited unclosed]
      dsimp only
      rw [parseCanonicalAddress_eq_some_iff.mpr canonical]
      dsimp only
      rw [v6, if_neg Bool.false_ne_true, read, normalForm, Host.normalText, v6, if_neg Bool.false_ne_true,
        canonical.prints, List.append_assoc]
      rfl
    | dotted canonical v4 =>
      obtain ⟨rest, rfl⟩ := List.head?_eq_some_iff.mp opens
      have spelled := lawful.v4Text canonical v4 '[' List.mem_cons_self
      exact absurd spelled (by decide)
    | named dns unnumbered =>
      obtain ⟨rest, rfl⟩ := List.head?_eq_some_iff.mp opens
      have byte : DnsByte '[' ∨ '[' = '.' := dns.bytes List.mem_cons_self
      exact absurd byte (by unfold DnsByte; decide)
  · obtain ⟨written, colonless⟩ := hosts.unbracketed lawful opens
    obtain ⟨taken, dropped, counted⟩ := takeWhile_host colonless spelled
    have head : ¬ (text ++ suffix).head? = some '[' := by rwa [DecimalText.head_append _ written]
    rw [if_neg head, normalizeUnbracketed, if_neg (not_lt.mpr counted), taken, dropped, read]
    dsimp only
    rw [List.isEmpty_eq_false_iff.mpr written, if_neg Bool.false_ne_true]
    cases hosts with
    | bracketed canonical v6 => exact absurd rfl opens
    | dotted canonical v4 =>
      rw [parseCanonicalAddress_eq_some_iff.mpr canonical]
      dsimp only
      rw [if_pos v4, normalForm, Host.normalText, if_pos v4, canonical.prints]
    | named dns unnumbered =>
      rw [parseCanonicalAddress_eq_none_iff.mpr unnumbered]
      dsimp only
      rw [if_pos (isValidDnsName_iff.mpr (dnsName_lower.mpr dns)), normalForm, Host.normalText]

theorem normalText_ne (lawful : platform.Lawful) {addressText : List Char}
    (canonical : CanonicalText platform addressText address) (dns : DnsName name)
    (unnumbered : ∀ address, ¬ CanonicalText platform name address) :
    (Host.address address).normalText platform ≠ (Host.dnsName name).normalText platform := by
  have bytes : ∀ c ∈ name.map toAsciiLower, DnsByte c ∨ c = '.' := fun c member => (dnsName_lower.mpr dns).bytes member
  rw [Host.normalText, Host.normalText, canonical.prints]
  split
  · next v4 =>
    intro same
    have kept : name.map toAsciiLower = name := by
      refine (List.map_congr_left fun c member => ?_).trans (List.map_id name)
      have lowered : toAsciiLower c ∈ addressText := same ▸ List.mem_map_of_mem member
      obtain digit | dot := lawful.v4Text canonical v4 _ lowered
      · exact (eq_of_toAsciiLower rfl (not_alpha_of_digit digit)).symm
      · exact dot.trans (eq_of_toAsciiLower dot (by decide)).symm
    rw [kept] at same
    exact unnumbered address (same ▸ canonical)
  · intro same
    have bracket : '[' ∈ name.map toAsciiLower := same ▸ List.mem_cons_self
    exact absurd (bytes _ bracket) (by unfold DnsByte; decide)

theorem HostText.normalText_eq_iff (lawful : platform.Lawful) {other : List Char} {otherHost : Host A}
    (hosts : HostText platform text host) (otherHosts : HostText platform other otherHost) :
    host.normalText platform = otherHost.normalText platform ↔ host.Same otherHost := by
  have addresses : ∀ {text other : List Char} {first second : A}, CanonicalText platform text first →
      CanonicalText platform other second →
      ((Host.address first).normalText platform = (Host.address second).normalText platform ↔ first = second) := by
    intro text other first second canonical otherCanonical
    refine ⟨fun same => ?_, fun same => by rw [same]⟩
    have texts : text = other := by
      rw [Host.normalText, Host.normalText, canonical.prints, otherCanonical.prints] at same
      split at same
      · next v4 =>
        split at same
        · exact same
        · have bracket : '[' ∈ text := same ▸ List.mem_cons_self
          exact absurd (lawful.v4Text canonical v4 _ bracket) (by decide)
      · split at same
        · next v4 =>
          have bracket : '[' ∈ other := same ▸ List.mem_cons_self
          exact absurd (lawful.v4Text otherCanonical v4 _ bracket) (by decide)
        · exact List.append_cancel_right (List.cons.inj same).2
    exact Option.some_inj.mp (canonical.parses.symm.trans (texts ▸ otherCanonical.parses))
  cases hosts with
  | bracketed canonical v6 =>
    cases otherHosts with
    | bracketed otherCanonical otherV6 => exact addresses canonical otherCanonical
    | dotted otherCanonical otherV4 => exact addresses canonical otherCanonical
    | named dns unnumbered => exact iff_of_false (normalText_ne lawful canonical dns unnumbered) id
  | dotted canonical v4 =>
    cases otherHosts with
    | bracketed otherCanonical otherV6 => exact addresses canonical otherCanonical
    | dotted otherCanonical otherV4 => exact addresses canonical otherCanonical
    | named dns unnumbered => exact iff_of_false (normalText_ne lawful canonical dns unnumbered) id
  | named dns unnumbered =>
    cases otherHosts with
    | bracketed otherCanonical otherV6 =>
      exact iff_of_false (normalText_ne lawful otherCanonical dns unnumbered).symm id
    | dotted otherCanonical otherV4 =>
      exact iff_of_false (normalText_ne lawful otherCanonical dns unnumbered).symm id
    | named otherDns otherUnnumbered => exact Iff.rfl

theorem append_colon_inj {first second digits others : List Char} (digitless : ':' ∉ digits) (otherless : ':' ∉ others) :
    first ++ ':' :: digits = second ++ ':' :: others ↔ first = second ∧ digits = others := by
  refine ⟨fun same => ?_, fun ⟨same, others⟩ => by rw [same, others]⟩
  obtain ⟨middle, extended, rests⟩ | ⟨middle, extended, rests⟩ := List.append_eq_append_iff.mp same
  · cases middle with
    | nil =>
      rw [List.append_nil] at extended
      exact ⟨extended.symm, (List.cons.inj rests).2⟩
    | cons colon middle =>
      refine absurd ?_ digitless
      rw [(List.cons.inj rests).2]
      exact List.mem_append_right _ List.mem_cons_self
  · cases middle with
    | nil =>
      rw [List.append_nil] at extended
      exact ⟨extended, (List.cons.inj rests).2.symm⟩
    | cons colon middle =>
      refine absurd ?_ otherless
      rw [(List.cons.inj rests).2]
      exact List.mem_append_right _ List.mem_cons_self

theorem numeral_colonless (port : Nat) : ':' ∉ Nat.toDigits 10 port :=
  fun member => absurd (DecimalText.isDigit_of_mem_toDigits member) (by decide)

theorem Denotes.normalForm_eq_iff (lawful : platform.Lawful) {otherDefault otherPort : Nat} {other : List Char}
    {otherHost : Host A} (denotes : Denotes platform defaultPort authority host port)
    (others : Denotes platform otherDefault other otherHost otherPort) :
    normalForm platform host port = normalForm platform otherHost otherPort ↔ host.Same otherHost ∧ port = otherPort := by
  obtain ⟨text, suffix, rfl, hosts, spelled⟩ := denotes
  obtain ⟨otherText, otherSuffix, rfl, otherHosts, otherSpelled⟩ := others
  rw [normalForm, normalForm, append_colon_inj (numeral_colonless port) (numeral_colonless otherPort),
    hosts.normalText_eq_iff lawful otherHosts]
  exact and_congr_right fun _ => ⟨DecimalText.toDigits_injective, fun same => by rw [same]⟩

end Hosts

end BlobRoyale.Server
