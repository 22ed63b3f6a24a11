import Mathlib.Data.Char
import Mathlib.Data.List.Lex
import BlobRoyale.Server.HostForms
import BlobRoyale.Simulation.Scalar

/-!
# The server configuration

The validated listener, protocol and trust boundary: allowlists are normalised, sorted and searched for
exact entries, so a Host or an Origin is allowed when a configured entry denotes the same.
-/

namespace BlobRoyale.Server

open BlobRoyale.Simulation

def minimumSnapshotsPerSecond : Nat := 1
def maximumSnapshotsPerSecond : Nat := 60
def maximumPublicWorldDimension : Nat := 1000000000
def configurationAllowlistMaximumEntryCount : Nat := 32
def configurationAllowlistMaximumAggregateByteCount : Nat := 4096

inductive ServerConfigValidationCode where
  | bindAddressInvalid
  | portOutOfRange
  | presentationRateOutOfRange
  | publicConfigurationInvalid
  | hostAllowlistInvalid
  | originAllowlistInvalid
  | trustedProxyAllowlistInvalid
  | nonLoopbackPolicyInvalid
  deriving DecidableEq, Repr

structure ServerConfigValidationError where
  code : ServerConfigValidationCode
  context : String
  detail : String
  deriving DecidableEq, Repr

section Allowlists

/-- The loop of `normalize_allowlist`, after entries of some total size. -/
def normalizeEntries (code : ServerConfigValidationCode) (context : String) (normalize : List Char → List Char)
    (aggregateSize : Nat) : List (List Char) → Except ServerConfigValidationError (List (List Char))
  | [] => .ok []
  | entry :: rest =>
      if entry.isEmpty || configurationAllowlistEntryMaximumByteCount < entry.length then
        .error ⟨code, context, "an allowlist entry has an invalid byte length"⟩
      else
        let normalized := normalize entry
        if normalized.isEmpty then
          .error ⟨code, context, "an allowlist entry is not canonical or has invalid syntax"⟩
        else
          let aggregateSize := aggregateSize + normalized.length
          if configurationAllowlistMaximumAggregateByteCount < aggregateSize then
            .error ⟨code, context, "aggregate allowlist bytes exceed the accepted bound"⟩
          else
            match normalizeEntries code context normalize aggregateSize rest with
            | .error refusal => .error refusal
            | .ok others => .ok (normalized :: others)

/-- `adjacent_find` of a pair of equal entries. -/
def hasAdjacentDuplicate : List (List Char) → Bool
  | first :: second :: rest => first = second || hasAdjacentDuplicate (second :: rest)
  | _ => false

def normalizeAllowlist (entries : List (List Char)) (code : ServerConfigValidationCode) (context : String)
    (requiresNonempty : Bool) (normalize : List Char → List Char) :
    Except ServerConfigValidationError (List (List Char)) :=
  if (requiresNonempty && entries.isEmpty) || configurationAllowlistMaximumEntryCount < entries.length then
    .error ⟨code, context, "allowlist entry count is outside the accepted bound"⟩
  else
    match normalizeEntries code context normalize 0 entries with
    | .error refusal => .error refusal
    | .ok normalized =>
        let sorted := normalized.mergeSort fun first second => decide (first ≤ second)
        if hasAdjacentDuplicate sorted then
          .error ⟨code, context, "allowlist contains a duplicate canonical entry"⟩
        else .ok sorted

/-- The entry `lower_bound` finds in a sorted list is the candidate. -/
def containsExact (values : List (List Char)) (candidate : List Char) : Bool :=
  match values.dropWhile fun value => decide (value < candidate) with
  | [] => false
  | entry :: _ => entry = candidate

end Allowlists

section Configuration

variable {A S : Type} (platform : AddressPlatform A)

def isPrivateIpv4 (address : A) : Bool :=
  match platform.toBytes address with
  | first :: second :: _ =>
      first = 10 || (first = 172 && 16 ≤ second && second ≤ 31) || (first = 192 && second = 168)
  | _ => false

def isPrivateIpv6 (address : A) : Bool :=
  match platform.toBytes address with
  | first :: _ => first &&& 0xFE = 0xFC
  | _ => false

def isSupportedBindAddress (address : A) : Bool :=
  if platform.isLoopback address || platform.isUnspecified address then true
  else if platform.isV4 address then isPrivateIpv4 platform address
  else isPrivateIpv6 platform address

def parseBindAddress (bindAddress : List Char) : Except ServerConfigValidationError A :=
  match (parseCanonicalAddress platform bindAddress).filter (isSupportedBindAddress platform) with
  | some address => .ok address
  | none =>
      .error ⟨.bindAddressInvalid, "server.bind_address",
        "value must be a canonical loopback, unspecified, or private numeric address"⟩

def normalizeProxyAddress (address : List Char) : List Char :=
  match parseCanonicalAddress platform address with
  | some _ => address
  | none => []

structure PublicConfiguration (S : Type) where
  worldWidth : S
  worldHeight : S
  playerRadius : S
  snapshotsPerSecond : Nat

section

variable [Scalar S]

/-- `require_public_world_scalar`; an error is its context and detail. -/
def requirePublicWorldScalar (value : S) (context : String) : Except (String × String) Unit :=
  if !Scalar.isFinite value || value ≤ 0 || ((maximumPublicWorldDimension : Nat) : S) < value then
    .error (context, "value must be finite, greater than zero, and at most 1000000000")
  else .ok ()

def PublicConfiguration.create (worldWidth worldHeight playerRadius : S) (snapshotsPerSecond : Nat) :
    Except (String × String) (PublicConfiguration S) := do
  requirePublicWorldScalar worldWidth "configuration.world.width_world_units"
  requirePublicWorldScalar worldHeight "configuration.world.height_world_units"
  requirePublicWorldScalar playerRadius "configuration.world.player_radius_world_units"
  if worldWidth ≤ ((2 : Nat) : S) * playerRadius || worldHeight ≤ ((2 : Nat) : S) * playerRadius then
    .error ("configuration.world", "width and height must each be greater than twice the player radius")
  else if snapshotsPerSecond < minimumSnapshotsPerSecond || maximumSnapshotsPerSecond < snapshotsPerSecond then
    .error ("configuration.presentation.snapshots_per_second", "value must be between 1 and 60")
  else .ok ⟨worldWidth, worldHeight, playerRadius, snapshotsPerSecond⟩

end

structure ServerConfig (S : Type) where
  bindAddress : List Char
  port : Nat
  snapshotsPerSecond : Nat
  publicConfiguration : PublicConfiguration S
  allowedHosts : List (List Char)
  allowedOrigins : List (List Char)
  trustedProxyAddresses : List (List Char)
  bindsLoopback : Bool

namespace ServerConfig

def create [Scalar S] (bindAddress : List Char) (port snapshotsPerSecond : Nat)
    (worldWidth worldHeight playerRadius : S)
    (allowedHosts allowedOrigins trustedProxyAddresses : List (List Char)) :
    Except ServerConfigValidationError (ServerConfig S) := do
  let parsedBindAddress ← parseBindAddress platform bindAddress
  if port < minimumPort || maximumPort < port then
    .error ⟨.portOutOfRange, "server.port", "value must be between 1 and 65535"⟩
  else if snapshotsPerSecond < minimumSnapshotsPerSecond || maximumSnapshotsPerSecond < snapshotsPerSecond then
    .error ⟨.presentationRateOutOfRange, "presentation.snapshots_per_second", "value must be between 1 and 60"⟩
  else do
    let publicConfiguration ←
      (PublicConfiguration.create worldWidth worldHeight playerRadius snapshotsPerSecond).mapError
        fun refusal => ⟨.publicConfigurationInvalid, refusal.1, refusal.2⟩
    let allowedHosts ← normalizeAllowlist allowedHosts .hostAllowlistInvalid "server.allowed_hosts" true
      fun authority => normalizeAuthority platform authority (some port)
    let allowedOrigins ← normalizeAllowlist allowedOrigins .originAllowlistInvalid "server.allowed_origins" false
      (normalizeSerializedOrigin platform)
    let trustedProxyAddresses ← normalizeAllowlist trustedProxyAddresses .trustedProxyAllowlistInvalid
      "server.trusted_proxy_addresses" false (normalizeProxyAddress platform)
    let bindsLoopback := platform.isLoopback parsedBindAddress
    if !bindsLoopback && (allowedOrigins.isEmpty || trustedProxyAddresses.isEmpty) then
      .error ⟨.nonLoopbackPolicyInvalid, "server.bind_address",
        "non-loopback binding requires nonempty Origin and trusted-proxy allowlists"⟩
    else
      .ok ⟨bindAddress, port, snapshotsPerSecond, publicConfiguration, allowedHosts, allowedOrigins,
        trustedProxyAddresses, bindsLoopback⟩

def allowsHost (config : ServerConfig S) (normalizedAuthority : List Char) : Bool :=
  containsExact config.allowedHosts normalizedAuthority

def allowsOrigin (config : ServerConfig S) (normalizedOrigin : List Char) : Bool :=
  containsExact config.allowedOrigins normalizedOrigin

end ServerConfig

end Configuration

section Searches

variable {code : ServerConfigValidationCode} {context : String} {normalize : List Char → List Char}
  {entries values normalized : List (List Char)} {candidate : List Char} {aggregateSize : Nat} {requiresNonempty : Bool}

theorem normalizeEntries_eq_ok (accepted : normalizeEntries code context normalize aggregateSize entries = .ok normalized) :
    normalized = entries.map normalize ∧ ∀ entry ∈ entries, normalize entry ≠ [] := by
  induction entries generalizing aggregateSize normalized with
  | nil =>
    cases accepted
    exact ⟨rfl, by simp⟩
  | cons entry rest ih =>
    rw [normalizeEntries] at accepted
    split at accepted
    · cases accepted
    dsimp only at accepted
    split at accepted
    · cases accepted
    next written =>
    split at accepted
    · cases accepted
    split at accepted
    · cases accepted
    · next others read =>
      cases accepted
      obtain ⟨same, kept⟩ := ih read
      refine ⟨by rw [same, List.map_cons], List.forall_mem_cons.mpr ⟨?_, kept⟩⟩
      exact fun none => written (List.isEmpty_iff.mpr none)

theorem normalizeAllowlist_eq_ok
    (accepted : normalizeAllowlist entries code context requiresNonempty normalize = .ok values) :
    values.Pairwise (· ≤ ·) ∧ (∀ text, text ∈ values ↔ ∃ entry ∈ entries, normalize entry = text) ∧
      ∀ entry ∈ entries, normalize entry ≠ [] := by
  rw [normalizeAllowlist] at accepted
  split at accepted
  · cases accepted
  split at accepted
  · cases accepted
  · next normalized read =>
    obtain ⟨rfl, written⟩ := normalizeEntries_eq_ok read
    dsimp only at accepted
    split at accepted
    · cases accepted
    · cases accepted
      refine ⟨?_, fun text => ?_, written⟩
      · have sorted := @List.pairwise_mergeSort (List Char) (fun first second => decide (first ≤ second))
          (fun first second third => by simpa using le_trans) (fun first second => by simpa using le_total first second)
          (entries.map normalize)
        exact sorted.imp fun {first second} ordered => by simpa using ordered
      · rw [List.mem_mergeSort, List.mem_map]

theorem containsExact_iff (sorted : values.Pairwise (· ≤ ·)) : containsExact values candidate = true ↔ candidate ∈ values := by
  induction values with
  | nil => simp [containsExact]
  | cons entry rest ih =>
    obtain ⟨least, sorted⟩ := List.pairwise_cons.mp sorted
    by_cases below : entry < candidate
    · have searched : containsExact (entry :: rest) candidate = containsExact rest candidate := by
        rw [containsExact, List.dropWhile_cons_of_pos (by simpa using below), containsExact]
      rw [searched, ih sorted, List.mem_cons]
      exact ⟨.inr, fun member => member.resolve_left below.ne'⟩
    · have found : containsExact (entry :: rest) candidate = decide (entry = candidate) := by
        rw [containsExact, List.dropWhile_cons_of_neg (by simpa using below)]
      rw [found, decide_eq_true_eq, List.mem_cons]
      constructor
      · exact fun same => .inl same.symm
      · rintro (same | later)
        · exact same.symm
        · exact le_antisymm (least candidate later) (not_lt.mp below)

end Searches

section Decisions

variable {A S : Type} [Scalar S] {platform : AddressPlatform A} {config : ServerConfig S}
  {bindAddress : List Char} {port snapshotsPerSecond : Nat} {worldWidth worldHeight playerRadius : S}
  {allowedHosts allowedOrigins trustedProxyAddresses : List (List Char)}

theorem ServerConfig.create_eq_ok
    (created : create platform bindAddress port snapshotsPerSecond worldWidth worldHeight playerRadius allowedHosts
      allowedOrigins trustedProxyAddresses = .ok config) :
    config.port = port ∧ (minimumPort ≤ port ∧ port ≤ maximumPort) ∧
      normalizeAllowlist allowedHosts .hostAllowlistInvalid "server.allowed_hosts" true
        (fun authority => normalizeAuthority platform authority (some port)) = .ok config.allowedHosts ∧
      normalizeAllowlist allowedOrigins .originAllowlistInvalid "server.allowed_origins" false
        (normalizeSerializedOrigin platform) = .ok config.allowedOrigins := by
  rw [create] at created
  obtain ⟨address, -, created⟩ := bind_eq_ok.mp created
  split at created
  · cases created
  next ported =>
  split at created
  · cases created
  obtain ⟨publicConfiguration, -, created⟩ := bind_eq_ok.mp created
  obtain ⟨hosts, hostsRead, created⟩ := bind_eq_ok.mp created
  obtain ⟨origins, originsRead, created⟩ := bind_eq_ok.mp created
  obtain ⟨proxies, -, created⟩ := bind_eq_ok.mp created
  dsimp only at created
  split at created
  · cases created
  · cases created
    refine ⟨rfl, ?_, hostsRead, originsRead⟩
    simp only [Bool.or_eq_true, decide_eq_true_eq, not_or, not_lt] at ported
    exact ported

theorem ServerConfig.allowsHost_iff (lawful : platform.Lawful)
    (created : create platform bindAddress port snapshotsPerSecond worldWidth worldHeight playerRadius allowedHosts
      allowedOrigins trustedProxyAddresses = .ok config) {authority : List Char}
    (accepted : normalizeHostAuthority platform authority config.port ≠ []) :
    config.allowsHost (normalizeHostAuthority platform authority config.port) = true ↔
      ∃ entry ∈ allowedHosts, ∃ host entryHost port, Denotes platform config.port authority host port ∧
        Denotes platform config.port entry entryHost port ∧ host.Same entryHost := by
  obtain ⟨same, -, hosts, -⟩ := create_eq_ok created
  rw [same] at accepted ⊢
  obtain ⟨sorted, entries, written⟩ := normalizeAllowlist_eq_ok hosts
  rw [allowsHost, containsExact_iff sorted, entries]
  refine exists_congr fun entry => and_congr_right fun configured => ?_
  have entryAccepted := written entry configured
  constructor
  · intro alike
    obtain ⟨host, hostPort, denotes⟩ := exists_denotes accepted
    obtain ⟨entryHost, entryPort, entryDenotes⟩ := exists_denotes entryAccepted
    rw [normalizeHostAuthority, accepted_eq_normalForm lawful denotes accepted,
      accepted_eq_normalForm lawful entryDenotes entryAccepted] at alike
    obtain ⟨hosts, ports⟩ := (denotes.normalForm_eq_iff lawful entryDenotes).mp alike.symm
    exact ⟨host, entryHost, hostPort, denotes, ports ▸ entryDenotes, hosts⟩
  · rintro ⟨host, entryHost, hostPort, denotes, entryDenotes, hosts⟩
    rw [normalizeHostAuthority, accepted_eq_normalForm lawful denotes accepted,
      accepted_eq_normalForm lawful entryDenotes entryAccepted]
    exact ((denotes.normalForm_eq_iff lawful entryDenotes).mpr ⟨hosts, rfl⟩).symm

/-- A normalised Origin is allowed when a configured entry denotes its scheme, host and port. -/
theorem ServerConfig.allowsOrigin_iff (lawful : platform.Lawful)
    (created : create platform bindAddress port snapshotsPerSecond worldWidth worldHeight playerRadius allowedHosts
      allowedOrigins trustedProxyAddresses = .ok config) {origin : List Char}
    (accepted : normalizeSerializedOrigin platform origin ≠ []) :
    config.allowsOrigin (normalizeSerializedOrigin platform origin) = true ↔
      ∃ entry ∈ allowedOrigins, ∃ scheme host entryHost port, OriginDenotes platform origin scheme host port ∧
        OriginDenotes platform entry scheme entryHost port ∧ host.Same entryHost := by
  obtain ⟨-, -, -, origins⟩ := create_eq_ok created
  obtain ⟨sorted, entries, written⟩ := normalizeAllowlist_eq_ok origins
  rw [allowsOrigin, containsExact_iff sorted, entries]
  refine exists_congr fun entry => and_congr_right fun configured => ?_
  have entryAccepted := written entry configured
  constructor
  · intro alike
    obtain ⟨scheme, host, port, denotes⟩ := exists_originDenotes accepted
    obtain ⟨entryScheme, entryHost, entryPort, entryDenotes⟩ := exists_originDenotes entryAccepted
    obtain ⟨schemes, hosts, ports⟩ := (denotes.normalizes_alike_iff lawful entryDenotes accepted entryAccepted).mp alike.symm
    subst schemes ports
    exact ⟨scheme, host, entryHost, port, denotes, entryDenotes, hosts⟩
  · rintro ⟨scheme, host, entryHost, port, denotes, entryDenotes, hosts⟩
    exact ((denotes.normalizes_alike_iff lawful entryDenotes accepted entryAccepted).mpr ⟨rfl, hosts, rfl⟩).symm

/-- Host and Origin checks are canonical: accepted texts normalise alike exactly when they denote the same,
normal forms within the byte limit are read back, and a configuration allows what its entries denote. -/
theorem host_checks_canonical (lawful : platform.Lawful) :
    (∀ defaultPort first second, normalizeHostAuthority platform first defaultPort ≠ [] →
      normalizeHostAuthority platform second defaultPort ≠ [] →
        (∃ host port, Denotes platform defaultPort first host port) ∧
        ∀ host port otherHost otherPort, Denotes platform defaultPort first host port →
          Denotes platform defaultPort second otherHost otherPort →
          (normalizeHostAuthority platform first defaultPort = normalizeHostAuthority platform second defaultPort ↔
            host.Same otherHost ∧ port = otherPort)) ∧
    (∀ first second, normalizeSerializedOrigin platform first ≠ [] → normalizeSerializedOrigin platform second ≠ [] →
        (∃ scheme host port, OriginDenotes platform first scheme host port) ∧
        ∀ scheme host port otherScheme otherHost otherPort, OriginDenotes platform first scheme host port →
          OriginDenotes platform second otherScheme otherHost otherPort →
          (normalizeSerializedOrigin platform first = normalizeSerializedOrigin platform second ↔
            scheme = otherScheme ∧ host.Same otherHost ∧ port = otherPort)) ∧
    (∀ defaultPort authority, minimumPort ≤ defaultPort → defaultPort ≤ maximumPort →
      (normalizeHostAuthority platform authority defaultPort).length ≤ configurationAllowlistEntryMaximumByteCount →
        normalizeHostAuthority platform (normalizeHostAuthority platform authority defaultPort) defaultPort =
          normalizeHostAuthority platform authority defaultPort) ∧
    (∀ origin, (normalizeSerializedOrigin platform origin).length ≤ configurationAllowlistEntryMaximumByteCount →
        normalizeSerializedOrigin platform (normalizeSerializedOrigin platform origin) =
          normalizeSerializedOrigin platform origin) ∧
    ∀ bindAddress port snapshotsPerSecond (worldWidth worldHeight playerRadius : S) allowedHosts allowedOrigins
      trustedProxyAddresses config,
      ServerConfig.create platform bindAddress port snapshotsPerSecond worldWidth worldHeight playerRadius allowedHosts
        allowedOrigins trustedProxyAddresses = .ok config →
      (∀ authority, normalizeHostAuthority platform authority config.port ≠ [] →
        (config.allowsHost (normalizeHostAuthority platform authority config.port) = true ↔
          ∃ entry ∈ allowedHosts, ∃ host entryHost port, Denotes platform config.port authority host port ∧
            Denotes platform config.port entry entryHost port ∧ host.Same entryHost)) ∧
      ∀ origin, normalizeSerializedOrigin platform origin ≠ [] →
        (config.allowsOrigin (normalizeSerializedOrigin platform origin) = true ↔
          ∃ entry ∈ allowedOrigins, ∃ scheme host entryHost port, OriginDenotes platform origin scheme host port ∧
            OriginDenotes platform entry scheme entryHost port ∧ host.Same entryHost) := by
  refine ⟨fun defaultPort first second accepted otherAccepted => ⟨exists_denotes accepted, ?_⟩,
    fun first second accepted otherAccepted => ⟨exists_originDenotes accepted, ?_⟩,
    fun defaultPort authority positive within short => normalizeAuthority_idem lawful positive within defaultPort short,
    fun origin short => normalizeSerializedOrigin_idem lawful short, ?_⟩
  · intro host port otherHost otherPort denotes others
    exact denotes.normalizes_alike_iff lawful others accepted otherAccepted
  · intro scheme host port otherScheme otherHost otherPort denotes others
    exact denotes.normalizes_alike_iff lawful others accepted otherAccepted
  · intro bindAddress port snapshotsPerSecond worldWidth worldHeight playerRadius allowedHosts allowedOrigins
      trustedProxyAddresses config created
    exact ⟨fun authority accepted => ServerConfig.allowsHost_iff lawful created accepted,
      fun origin accepted => ServerConfig.allowsOrigin_iff lawful created accepted⟩

/-- A platform that reads the two loopback addresses, the first of IPv4. -/
def loopbackPlatform : AddressPlatform Bool where
  makeAddress text :=
    if text = ['1', '2', '7', '.', '0', '.', '0', '.', '1'] then some true
    else if text = [':', ':', '1'] then some false
    else none
  toText isV4 := if isV4 then ['1', '2', '7', '.', '0', '.', '0', '.', '1'] else [':', ':', '1']
  isV4 isV4 := isV4
  isLoopback _ := true
  isUnspecified _ := false
  toBytes isV4 := if isV4 then [127, 0, 0, 1] else [0, 0, 0, 0, 0, 0, 0, 0, 0, 0, 0, 0, 0, 0, 0, 1]

theorem loopbackPlatform_lawful : loopbackPlatform.Lawful where
  v4Text {text address} canonical v4 := by
    cases (show address = true from v4)
    rw [← canonical.prints]
    simp [loopbackPlatform, isAsciiDigit]
  v6Colon {text address} canonical v6 := by
    cases (show address = false from v6)
    rw [← canonical.prints]
    decide
  v6Text {text address} canonical v6 := by
    cases (show address = false from v6)
    rw [← canonical.prints]
    simp [loopbackPlatform, isHexadecimal, isAsciiDigit]

/-- Two spellings of one host under the default port 80. -/
theorem host_checks_canonical_spellings :
    normalizeHostAuthority loopbackPlatform ['A'] 80 =
        normalizeHostAuthority loopbackPlatform ['a', ':', '8', '0'] 80 ↔
      (Host.dnsName ['A'] : Host Bool).Same (.dnsName ['a']) ∧ 80 = 80 := by
  have checks := (host_checks_canonical (S := ℚ) loopbackPlatform_lawful).1 80 ['A'] ['a', ':', '8', '0']
    (by decide) (by decide)
  refine checks.2 (.dnsName ['A']) 80 (.dnsName ['a']) 80 ⟨['A'], [], rfl, ?_, .implied⟩ ⟨['a'], [':', '8', '0'], rfl, ?_, ?_⟩
  · exact .named (isValidDnsName_iff.mp (by decide)) (parseCanonicalAddress_eq_none_iff.mp (by decide))
  · exact .named (isValidDnsName_iff.mp (by decide)) (parseCanonicalAddress_eq_none_iff.mp (by decide))
  · exact .explicit 80 (by decide) (by decide)

/-- Under the default port zero a normal form is refused. -/
theorem normal_form_of_port_zero :
    ¬ ∀ defaultPort ≤ maximumPort, ∀ authority,
      (normalizeHostAuthority loopbackPlatform authority defaultPort).length ≤ configurationAllowlistEntryMaximumByteCount →
        normalizeHostAuthority loopbackPlatform (normalizeHostAuthority loopbackPlatform authority defaultPort) defaultPort =
          normalizeHostAuthority loopbackPlatform authority defaultPort := by
  intro idempotent
  have read := idempotent 0 (by decide) ['a'] (by decide)
  exact absurd read (by decide)

end Decisions

end BlobRoyale.Server
