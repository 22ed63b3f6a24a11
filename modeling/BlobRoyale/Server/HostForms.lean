import BlobRoyale.Server.HostAuthoritySoundness

/-!
# Normal forms are canonical

Normal forms of authorities and of origins are read back unchanged, and two accepted origins agree exactly
when scheme, host and port do.
-/

namespace BlobRoyale.Server

variable {A : Type} {platform : AddressPlatform A} {defaultPort otherDefault port : Nat}
  {authority text origin : List Char} {host : Host A} {scheme : OriginScheme}

section Authorities

theorem accepted_eq_normalForm (lawful : platform.Lawful) (denotes : Denotes platform defaultPort authority host port)
    (accepted : normalizeAuthority platform authority (some defaultPort) ≠ []) :
    normalizeAuthority platform authority (some defaultPort) = normalForm platform host port :=
  denotes.normalizeAuthority_eq lawful (guards_of_accepted accepted).1 (guards_of_accepted accepted).2

theorem HostText.normalText_hosts (lawful : platform.Lawful) (hosts : HostText platform text host) :
    ∃ settled, HostText platform (host.normalText platform) settled ∧
      settled.normalText platform = host.normalText platform := by
  cases hosts with
  | @bracketed text address canonical v6 =>
    refine ⟨.address address, ?_, rfl⟩
    rw [Host.normalText, v6, if_neg Bool.false_ne_true, canonical.prints]
    exact .bracketed canonical v6
  | @dotted text address canonical v4 =>
    refine ⟨.address address, ?_, rfl⟩
    rw [Host.normalText, if_pos v4, canonical.prints]
    exact .dotted canonical v4
  | named dns unnumbered =>
    refine ⟨.dnsName (text.map toAsciiLower), .named (dnsName_lower.mpr dns) fun address canonical => ?_,
      map_toAsciiLower_idem text⟩
    have same : text.map toAsciiLower = (Host.address address).normalText platform := by
      cases family : platform.isV4 address with
      | true =>
        rw [Host.normalText, if_pos family, canonical.prints]
        rfl
      | false =>
        obtain byte | dot := (dnsName_lower.mpr dns).bytes (lawful.v6Colon canonical family)
        · exact absurd byte (by unfold DnsByte; decide)
        · exact absurd dot (by decide)
    exact normalText_ne lawful canonical dns unnumbered same.symm

def isHostByte (character : Char) : Bool :=
  isAsciiAlpha character || isAsciiDigit character || character = '-' || character = '.' || character = ':' ||
    character = '[' || character = ']'

theorem isHostByte_not_delimiter {character : Char} (hostByte : isHostByte character = true) :
    authorityDelimiters.contains character = false := by
  rw [← Bool.not_eq_true, List.contains_iff_mem]
  intro member
  simp only [authorityDelimiters, List.mem_cons, List.not_mem_nil, or_false] at member
  obtain rfl | rfl | rfl | rfl | rfl | rfl | rfl | rfl := member <;> exact absurd hostByte (by decide)

theorem isAsciiAlpha_of_isHexadecimal {character : Char} (hexadecimal : isHexadecimal character = true) :
    isAsciiAlpha character = true ∨ isAsciiDigit character = true := by
  simp only [isHexadecimal, Bool.or_eq_true, Bool.and_eq_true, decide_eq_true_eq] at hexadecimal
  obtain (digit | ⟨low, high⟩) | ⟨low, high⟩ := hexadecimal
  · exact .inr digit
  · refine .inl ?_
    simp only [isAsciiAlpha, Bool.or_eq_true, Bool.and_eq_true, decide_eq_true_eq]
    exact .inr ⟨low, Char.le_trans high (by decide)⟩
  · refine .inl ?_
    simp only [isAsciiAlpha, Bool.or_eq_true, Bool.and_eq_true, decide_eq_true_eq]
    exact .inl ⟨low, Char.le_trans high (by decide)⟩

theorem HostText.isHostByte (lawful : platform.Lawful) (hosts : HostText platform text host) {character : Char}
    (member : character ∈ text) : isHostByte character = true := by
  simp only [Server.isHostByte, Bool.or_eq_true, decide_eq_true_eq]
  cases hosts with
  | bracketed canonical v6 =>
    rw [List.cons_append, List.mem_cons, List.mem_append, List.mem_singleton] at member
    obtain opening | within | closing := member
    · exact .inl (.inr opening)
    · obtain hexadecimal | colon | dot := lawful.v6Text canonical v6 _ within
      · obtain letter | digit := isAsciiAlpha_of_isHexadecimal hexadecimal
        · simp [letter]
        · simp [digit]
      · simp [colon]
      · simp [dot]
    · exact .inr closing
  | dotted canonical v4 =>
    obtain digit | dot := lawful.v4Text canonical v4 _ member
    · simp [digit]
    · simp [dot]
  | named dns unnumbered =>
    obtain (letter | digit | hyphen) | dot := dns.bytes member
    · simp [letter]
    · simp [digit]
    · simp [hyphen]
    · simp [dot]

theorem Denotes.normalForm_denotes (lawful : platform.Lawful)
    (denotes : Denotes platform defaultPort authority host port) (positive : minimumPort ≤ port)
    (within : port ≤ maximumPort) (otherDefault : Nat) :
    ∃ settled, Denotes platform otherDefault (normalForm platform host port) settled port ∧
      normalForm platform settled port = normalForm platform host port ∧
      (normalForm platform host port).any (authorityDelimiters.contains ·) = false := by
  obtain ⟨text, suffix, rfl, hosts, spelled⟩ := denotes
  obtain ⟨settled, settles, same⟩ := hosts.normalText_hosts lawful
  refine ⟨settled, ⟨_, _, rfl, settles, .explicit port positive within⟩, by rw [normalForm, same, normalForm], ?_⟩
  refine List.any_eq_false.mpr fun character member => ?_
  rw [normalForm, List.mem_append, List.mem_cons] at member
  rw [Bool.not_eq_true]
  refine isHostByte_not_delimiter ?_
  obtain inHost | colon | digit := member
  · exact settles.isHostByte lawful inHost
  · rw [colon]
    decide
  · have isDigit := DecimalText.isDigit_of_mem_toDigits digit
    simp [isHostByte, isAsciiDigit_eq, isDigit]

theorem PortText.bounds {suffix : List Char} (spelled : PortText defaultPort suffix port)
    (positive : minimumPort ≤ defaultPort) (within : defaultPort ≤ maximumPort) :
    minimumPort ≤ port ∧ port ≤ maximumPort := by
  cases spelled with
  | implied => exact ⟨positive, within⟩
  | explicit _ positive within => exact ⟨positive, within⟩

theorem normalizeAuthority_idem (lawful : platform.Lawful) (positive : minimumPort ≤ defaultPort)
    (within : defaultPort ≤ maximumPort) (otherDefault : Nat)
    (short : (normalizeAuthority platform authority (some defaultPort)).length ≤
      configurationAllowlistEntryMaximumByteCount) :
    normalizeAuthority platform (normalizeAuthority platform authority (some defaultPort)) (some otherDefault) =
      normalizeAuthority platform authority (some defaultPort) := by
  by_cases accepted : normalizeAuthority platform authority (some defaultPort) = []
  · rw [accepted]
    rfl
  · obtain ⟨host, port, denotes⟩ := exists_denotes accepted
    have form := accepted_eq_normalForm lawful denotes accepted
    obtain ⟨_, _, _, _, spelled⟩ := id denotes
    obtain ⟨low, high⟩ := spelled.bounds positive within
    obtain ⟨settled, settles, same, plain⟩ := denotes.normalForm_denotes lawful low high otherDefault
    rw [form] at short ⊢
    rw [settles.normalizeAuthority_eq lawful short plain, same]

theorem Denotes.normalizes_alike_iff (lawful : platform.Lawful) {other : List Char} {otherHost : Host A} {otherPort : Nat}
    (denotes : Denotes platform defaultPort authority host port)
    (others : Denotes platform defaultPort other otherHost otherPort)
    (accepted : normalizeHostAuthority platform authority defaultPort ≠ [])
    (otherAccepted : normalizeHostAuthority platform other defaultPort ≠ []) :
    normalizeHostAuthority platform authority defaultPort = normalizeHostAuthority platform other defaultPort ↔
      host.Same otherHost ∧ port = otherPort := by
  rw [normalizeHostAuthority, normalizeHostAuthority, accepted_eq_normalForm lawful denotes accepted,
    accepted_eq_normalForm lawful others otherAccepted]
  exact denotes.normalForm_eq_iff lawful others

end Authorities

section Origins

/-- The origin's text is of the scheme, the host and the effective port. -/
def OriginDenotes (platform : AddressPlatform A) (origin : List Char) (scheme : OriginScheme) (host : Host A)
    (port : Nat) : Prop :=
  ∃ opening authority, origin = opening ++ authority ∧ opening.map toAsciiLower = scheme.text ∧
    Denotes platform scheme.defaultPort authority host port

theorem OriginScheme.defaultPort_bounds (scheme : OriginScheme) :
    minimumPort ≤ scheme.defaultPort ∧ scheme.defaultPort ≤ maximumPort := by
  cases scheme <;> decide

theorem OriginScheme.text_append_inj {first second : OriginScheme} {rest others : List Char} :
    first.text ++ rest = second.text ++ others ↔ first = second ∧ rest = others := by
  cases first with
  | http =>
    cases second with
    | http => simp [text]
    | https => simp [text]
  | https =>
    cases second with
    | http => simp [text]
    | https => simp [text]

theorem originScheme_eq_some_iff :
    originScheme origin = some scheme ↔
      ∃ opening authority, origin = opening ++ authority ∧ opening.map toAsciiLower = scheme.text := by
  have cut : ∀ length ≤ 8, ((origin.take 8).map toAsciiLower).take length = (origin.take length).map toAsciiLower := by
    intro length below
    rw [← List.map_take, List.take_take, min_eq_left below]
  have spelled : ∀ scheme : OriginScheme, scheme.text.isPrefixOf ((origin.take 8).map toAsciiLower) = true ↔
      (origin.take scheme.text.length).map toAsciiLower = scheme.text := by
    intro scheme
    rw [List.isPrefixOf_iff_prefix, List.prefix_iff_eq_take, cut _ (by cases scheme <;> decide), eq_comm]
  have found : (∃ opening authority, origin = opening ++ authority ∧ opening.map toAsciiLower = scheme.text) ↔
      (origin.take scheme.text.length).map toAsciiLower = scheme.text := by
    constructor
    · rintro ⟨opening, authority, rfl, spells⟩
      have length : opening.length = scheme.text.length := by rw [← spells, List.length_map]
      rw [← length, List.take_left]
      exact spells
    · exact fun spells => ⟨_, _, (List.take_append_drop scheme.text.length origin).symm, spells⟩
  have long : (origin.take scheme.text.length).map toAsciiLower = scheme.text → 7 ≤ origin.length := by
    intro spells
    have length := congrArg List.length spells
    rw [List.length_map, List.length_take] at length
    have seven : 7 ≤ scheme.text.length := by cases scheme <;> decide
    omega
  rw [found, originScheme]
  dsimp only
  by_cases reaches : 7 ≤ origin.length
  · rw [if_pos reaches]
    by_cases plain : (origin.take OriginScheme.http.text.length).map toAsciiLower = OriginScheme.http.text
    · rw [if_pos ((spelled .http).mpr plain), Option.some_inj]
      cases scheme with
      | http => exact iff_of_true rfl plain
      | https =>
        refine iff_of_false (by decide) fun secure => ?_
        have cutAgain := congrArg (List.take OriginScheme.http.text.length) secure
        rw [← List.map_take, List.take_take, min_eq_left (by decide), plain] at cutAgain
        exact absurd cutAgain (by decide)
    · rw [if_neg (fun opens => plain ((spelled .http).mp opens))]
      by_cases secure : (origin.take OriginScheme.https.text.length).map toAsciiLower = OriginScheme.https.text
      · rw [if_pos ((spelled .https).mpr secure), Option.some_inj]
        cases scheme with
        | http => exact iff_of_false (by decide) plain
        | https => exact iff_of_true rfl secure
      · rw [if_neg (fun opens => secure ((spelled .https).mp opens))]
        cases scheme with
        | http => exact iff_of_false (by simp) plain
        | https => exact iff_of_false (by simp) secure
  · rw [if_neg reaches]
    exact iff_of_false (by simp) fun spells => reaches (long spells)

theorem exists_accepted_authority (accepted : normalizeSerializedOrigin platform origin ≠ []) :
    ∃ (scheme : OriginScheme) (opening authority : List Char), origin = opening ++ authority ∧ opening.map toAsciiLower = scheme.text ∧
      normalizeAuthority platform authority (some scheme.defaultPort) ≠ [] ∧
      normalizeSerializedOrigin platform origin =
        scheme.text ++ normalizeAuthority platform authority (some scheme.defaultPort) := by
  rw [normalizeSerializedOrigin] at accepted ⊢
  split at accepted
  · exact absurd rfl accepted
  · next plain =>
    rw [if_neg plain]
    cases found : originScheme origin with
    | none =>
      rw [found] at accepted
      exact absurd rfl accepted
    | some scheme =>
      rw [found] at accepted
      dsimp only at accepted ⊢
      split at accepted
      · exact absurd rfl accepted
      · next reaches =>
        rw [if_neg reaches]
        split at accepted
        · exact absurd rfl accepted
        · next written =>
          rw [if_neg written]
          obtain ⟨opening, authority, rfl, spells⟩ := originScheme_eq_some_iff.mp found
          have length : scheme.text.length = opening.length := by rw [← spells, List.length_map]
          rw [length, List.drop_left] at written ⊢
          exact ⟨scheme, opening, authority, rfl, spells, fun none => written (List.isEmpty_iff.mpr none), rfl⟩

theorem exists_originDenotes (accepted : normalizeSerializedOrigin platform origin ≠ []) :
    ∃ scheme host port, OriginDenotes platform origin scheme host port := by
  obtain ⟨scheme, opening, authority, same, spells, written, -⟩ := exists_accepted_authority accepted
  obtain ⟨host, port, denotes⟩ := exists_denotes written
  exact ⟨scheme, host, port, opening, authority, same, spells, denotes⟩

theorem OriginDenotes.normalizeSerializedOrigin_eq (lawful : platform.Lawful)
    (denotes : OriginDenotes platform origin scheme host port)
    (accepted : normalizeSerializedOrigin platform origin ≠ []) :
    normalizeSerializedOrigin platform origin = scheme.text ++ normalForm platform host port := by
  obtain ⟨opening, authority, same, spells, denotes⟩ := denotes
  obtain ⟨other, otherOpening, otherAuthority, otherSame, otherSpells, written, form⟩ :=
    exists_accepted_authority accepted
  have schemes : some scheme = some other := by
    rw [← originScheme_eq_some_iff.mpr ⟨opening, authority, same, spells⟩,
      originScheme_eq_some_iff.mpr ⟨otherOpening, otherAuthority, otherSame, otherSpells⟩]
  cases schemes
  have lengths : opening.length = otherOpening.length := by
    rw [← List.length_map (f := toAsciiLower), spells, ← otherSpells, List.length_map]
  obtain ⟨-, rfl⟩ := List.append_inj (same.symm.trans otherSame) lengths
  rw [form, accepted_eq_normalForm lawful denotes written]

theorem OriginDenotes.normalizes_alike_iff (lawful : platform.Lawful) {other : List Char} {otherScheme : OriginScheme}
    {otherHost : Host A} {otherPort : Nat} (denotes : OriginDenotes platform origin scheme host port)
    (others : OriginDenotes platform other otherScheme otherHost otherPort)
    (accepted : normalizeSerializedOrigin platform origin ≠ [])
    (otherAccepted : normalizeSerializedOrigin platform other ≠ []) :
    normalizeSerializedOrigin platform origin = normalizeSerializedOrigin platform other ↔
      scheme = otherScheme ∧ host.Same otherHost ∧ port = otherPort := by
  rw [denotes.normalizeSerializedOrigin_eq lawful accepted, others.normalizeSerializedOrigin_eq lawful otherAccepted,
    OriginScheme.text_append_inj]
  obtain ⟨_, _, -, -, authorityDenotes⟩ := denotes
  obtain ⟨_, _, -, -, otherDenotes⟩ := others
  rw [authorityDenotes.normalForm_eq_iff lawful otherDenotes]

theorem normalizeSerializedOrigin_idem (lawful : platform.Lawful)
    (short : (normalizeSerializedOrigin platform origin).length ≤ configurationAllowlistEntryMaximumByteCount) :
    normalizeSerializedOrigin platform (normalizeSerializedOrigin platform origin) =
      normalizeSerializedOrigin platform origin := by
  by_cases accepted : normalizeSerializedOrigin platform origin = []
  · rw [accepted]
    rfl
  · obtain ⟨scheme, opening, authority, -, -, written, form⟩ := exists_accepted_authority accepted
    rw [form] at short ⊢
    rw [List.length_append] at short
    have room : (normalizeAuthority platform authority (some scheme.defaultPort)).length ≤
        configurationAllowlistEntryMaximumByteCount := by omega
    have settled := normalizeAuthority_idem lawful scheme.defaultPort_bounds.1 scheme.defaultPort_bounds.2
      scheme.defaultPort room
    have found : originScheme (scheme.text ++ normalizeAuthority platform authority (some scheme.defaultPort)) = some scheme :=
      originScheme_eq_some_iff.mpr ⟨scheme.text, _, rfl, by cases scheme <;> decide⟩
    have plain : ¬ (decide (configurationAllowlistEntryMaximumByteCount <
          (scheme.text ++ normalizeAuthority platform authority (some scheme.defaultPort)).length) ||
        decide (scheme.text ++ normalizeAuthority platform authority (some scheme.defaultPort) = ['n', 'u', 'l', 'l'])) = true := by
      rw [Bool.or_eq_true, decide_eq_true_eq, decide_eq_true_eq, List.length_append, not_or]
      exact ⟨by omega, by cases scheme <;> simp [OriginScheme.text]⟩
    have reaches : ¬ (scheme.text ++ normalizeAuthority platform authority (some scheme.defaultPort)).length ≤
        scheme.text.length := by
      have positive := List.length_pos_of_ne_nil written
      rw [List.length_append]
      omega
    rw [normalizeSerializedOrigin, if_neg plain, found]
    dsimp only
    rw [if_neg reaches, List.drop_left, settled, if_neg (fun none => written (List.isEmpty_iff.mp none))]

end Origins

end BlobRoyale.Server
