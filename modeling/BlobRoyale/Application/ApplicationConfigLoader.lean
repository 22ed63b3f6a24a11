import BlobRoyale.Application.IniReadBack

/-!
# The tables of the server configuration

The closed sections and keys of the server configuration, and the two families whose instances a
configuration declares.
-/

namespace BlobRoyale.Application

open DelimitedText

inductive ConfigField where
  | serverBindAddress
  | serverPort
  | serverAllowedHosts
  | serverAllowedOrigins
  | serverTrustedProxyAddresses
  | presentationSnapshotsPerSecond
  | simulationTicksPerSecond
  | simulationDragPerSecond
  | worldWidth
  | worldHeight
  | worldPlayerRadius
  | spatialGridColumns
  | spatialGridRows
  | matchMode
  | matchMap
  | matchMapsDirectory
  | matchSeed
  | matchLobbySeatCount
  | matchBots
  | movementAcceleration
  | movementNormalTopSpeed
  | abilitiesShieldDurationSeconds
  | abilitiesShieldPerfectWindowSeconds
  | abilitiesShieldCooldownSeconds
  | abilitiesParryStunDurationSeconds
  | abilitiesChargeCooldownSeconds
  | abilitiesChargeSpeedFraction
  | abilitiesChargeSafetyEnvelopeSpeed
  | abilitiesChargeActiveDurationSeconds
  | abilitiesChargeHitStunDurationSeconds
  | royaleZoneMinimumRadius
  | royaleZoneShrinkSeconds
  | royaleEliminationGraceSeconds
  | royaleCountdownSeconds
  | royaleRestartDelaySeconds
  | kingOfTheHillHillRadius
  | kingOfTheHillHillDwellSeconds
  | kingOfTheHillHillTravelSeconds
  | kingOfTheHillPointIntervalSeconds
  | kingOfTheHillPointsToWin
  | kingOfTheHillContestedHillScores
  | kingOfTheHillTimeLimitSeconds
  | kingOfTheHillRespawnDelaySeconds
  | kingOfTheHillCountdownSeconds
  | kingOfTheHillRestartDelaySeconds
  | kingOfTheHillMotion
  | kingOfTheHillSpeedMinimum
  | kingOfTheHillSpeedMaximum
  | kingOfTheHillRetargetMinimumSeconds
  | kingOfTheHillRetargetMaximumSeconds
  | raceRoad
  | raceCheckpointRadius
  | raceRespawnDelaySeconds
  | raceFinishWindowSeconds
  | raceTimeLimitSeconds
  | raceCountdownSeconds
  | raceRestartDelaySeconds
  | lobbiesCount
  | sandboxRespawnDelaySeconds
  deriving DecidableEq

def configFields : List ConfigField := [
  .serverBindAddress, .serverPort, .serverAllowedHosts, .serverAllowedOrigins,
  .serverTrustedProxyAddresses, .presentationSnapshotsPerSecond, .simulationTicksPerSecond,
  .simulationDragPerSecond, .worldWidth, .worldHeight, .worldPlayerRadius, .spatialGridColumns,
  .spatialGridRows, .matchMode, .matchMap, .matchMapsDirectory, .matchSeed, .matchLobbySeatCount,
  .matchBots, .movementAcceleration, .movementNormalTopSpeed, .abilitiesShieldDurationSeconds,
  .abilitiesShieldPerfectWindowSeconds, .abilitiesShieldCooldownSeconds,
  .abilitiesParryStunDurationSeconds, .abilitiesChargeCooldownSeconds, .abilitiesChargeSpeedFraction,
  .abilitiesChargeSafetyEnvelopeSpeed, .abilitiesChargeActiveDurationSeconds,
  .abilitiesChargeHitStunDurationSeconds, .royaleZoneMinimumRadius, .royaleZoneShrinkSeconds,
  .royaleEliminationGraceSeconds, .royaleCountdownSeconds, .royaleRestartDelaySeconds,
  .kingOfTheHillHillRadius, .kingOfTheHillHillDwellSeconds, .kingOfTheHillHillTravelSeconds,
  .kingOfTheHillPointIntervalSeconds, .kingOfTheHillPointsToWin, .kingOfTheHillContestedHillScores,
  .kingOfTheHillTimeLimitSeconds, .kingOfTheHillRespawnDelaySeconds, .kingOfTheHillCountdownSeconds,
  .kingOfTheHillRestartDelaySeconds, .kingOfTheHillMotion, .kingOfTheHillSpeedMinimum,
  .kingOfTheHillSpeedMaximum, .kingOfTheHillRetargetMinimumSeconds, .kingOfTheHillRetargetMaximumSeconds,
  .raceRoad, .raceCheckpointRadius, .raceRespawnDelaySeconds, .raceFinishWindowSeconds,
  .raceTimeLimitSeconds, .raceCountdownSeconds, .raceRestartDelaySeconds, .lobbiesCount,
  .sandboxRespawnDelaySeconds]

def configSections : List Text := [
  "server".toList, "presentation".toList, "simulation".toList, "world".toList, "spatial_grid".toList, "match".toList,
  "movement".toList, "abilities".toList, "royale".toList, "king_of_the_hill".toList, "race".toList, "lobbies".toList, "sandbox".toList]

abbrev ConfigSection := Fin configSections.length

def configFieldSpec : ConfigField → IniFieldSpec
  | .serverBindAddress => ⟨"server".toList, "bind_address".toList, .singleValue⟩
  | .serverPort => ⟨"server".toList, "port".toList, .singleValue⟩
  | .serverAllowedHosts => ⟨"server".toList, "allowed_hosts".toList, .commaDelimitedList⟩
  | .serverAllowedOrigins => ⟨"server".toList, "allowed_origins".toList, .commaDelimitedList⟩
  | .serverTrustedProxyAddresses => ⟨"server".toList, "trusted_proxy_addresses".toList, .commaDelimitedList⟩
  | .presentationSnapshotsPerSecond => ⟨"presentation".toList, "snapshots_per_second".toList, .singleValue⟩
  | .simulationTicksPerSecond => ⟨"simulation".toList, "ticks_per_second".toList, .singleValue⟩
  | .simulationDragPerSecond => ⟨"simulation".toList, "drag_per_second".toList, .singleValue⟩
  | .worldWidth => ⟨"world".toList, "width_world_units".toList, .singleValue⟩
  | .worldHeight => ⟨"world".toList, "height_world_units".toList, .singleValue⟩
  | .worldPlayerRadius => ⟨"world".toList, "player_radius_world_units".toList, .singleValue⟩
  | .spatialGridColumns => ⟨"spatial_grid".toList, "columns".toList, .singleValue⟩
  | .spatialGridRows => ⟨"spatial_grid".toList, "rows".toList, .singleValue⟩
  | .matchMode => ⟨"match".toList, "mode".toList, .singleValue⟩
  | .matchMap => ⟨"match".toList, "map".toList, .singleValue⟩
  | .matchMapsDirectory => ⟨"match".toList, "maps_directory".toList, .singleValue⟩
  | .matchSeed => ⟨"match".toList, "seed".toList, .singleValue⟩
  | .matchLobbySeatCount => ⟨"match".toList, "lobby_seat_count".toList, .singleValue⟩
  | .matchBots => ⟨"match".toList, "bots".toList, .commaDelimitedList⟩
  | .movementAcceleration => ⟨"movement".toList, "acceleration_world_units_per_second_squared".toList, .singleValue⟩
  | .movementNormalTopSpeed => ⟨"movement".toList, "normal_top_speed_world_units_per_second".toList, .singleValue⟩
  | .abilitiesShieldDurationSeconds => ⟨"abilities".toList, "shield_duration_seconds".toList, .singleValue⟩
  | .abilitiesShieldPerfectWindowSeconds => ⟨"abilities".toList, "shield_perfect_window_seconds".toList, .singleValue⟩
  | .abilitiesShieldCooldownSeconds => ⟨"abilities".toList, "shield_cooldown_seconds".toList, .singleValue⟩
  | .abilitiesParryStunDurationSeconds => ⟨"abilities".toList, "parry_stun_duration_seconds".toList, .singleValue⟩
  | .abilitiesChargeCooldownSeconds => ⟨"abilities".toList, "charge_cooldown_seconds".toList, .singleValue⟩
  | .abilitiesChargeSpeedFraction => ⟨"abilities".toList, "charge_speed_fraction".toList, .singleValue⟩
  | .abilitiesChargeSafetyEnvelopeSpeed => ⟨"abilities".toList, "charge_safety_envelope_speed".toList, .singleValue⟩
  | .abilitiesChargeActiveDurationSeconds => ⟨"abilities".toList, "charge_active_duration_seconds".toList, .singleValue⟩
  | .abilitiesChargeHitStunDurationSeconds => ⟨"abilities".toList, "charge_hit_stun_duration_seconds".toList, .singleValue⟩
  | .royaleZoneMinimumRadius => ⟨"royale".toList, "zone_minimum_radius_world_units".toList, .singleValue⟩
  | .royaleZoneShrinkSeconds => ⟨"royale".toList, "zone_shrink_seconds".toList, .singleValue⟩
  | .royaleEliminationGraceSeconds => ⟨"royale".toList, "elimination_grace_seconds".toList, .singleValue⟩
  | .royaleCountdownSeconds => ⟨"royale".toList, "countdown_seconds".toList, .singleValue⟩
  | .royaleRestartDelaySeconds => ⟨"royale".toList, "restart_delay_seconds".toList, .singleValue⟩
  | .kingOfTheHillHillRadius => ⟨"king_of_the_hill".toList, "hill_radius_world_units".toList, .singleValue⟩
  | .kingOfTheHillHillDwellSeconds => ⟨"king_of_the_hill".toList, "hill_dwell_seconds".toList, .singleValue⟩
  | .kingOfTheHillHillTravelSeconds => ⟨"king_of_the_hill".toList, "hill_travel_seconds".toList, .singleValue⟩
  | .kingOfTheHillPointIntervalSeconds => ⟨"king_of_the_hill".toList, "point_interval_seconds".toList, .singleValue⟩
  | .kingOfTheHillPointsToWin => ⟨"king_of_the_hill".toList, "points_to_win".toList, .singleValue⟩
  | .kingOfTheHillContestedHillScores => ⟨"king_of_the_hill".toList, "contested_hill_scores".toList, .singleValue⟩
  | .kingOfTheHillTimeLimitSeconds => ⟨"king_of_the_hill".toList, "time_limit_seconds".toList, .singleValue⟩
  | .kingOfTheHillRespawnDelaySeconds => ⟨"king_of_the_hill".toList, "respawn_delay_seconds".toList, .singleValue⟩
  | .kingOfTheHillCountdownSeconds => ⟨"king_of_the_hill".toList, "countdown_seconds".toList, .singleValue⟩
  | .kingOfTheHillRestartDelaySeconds => ⟨"king_of_the_hill".toList, "restart_delay_seconds".toList, .singleValue⟩
  | .kingOfTheHillMotion => ⟨"king_of_the_hill".toList, "hill_motion".toList, .singleValue⟩
  | .kingOfTheHillSpeedMinimum => ⟨"king_of_the_hill".toList, "hill_speed_minimum".toList, .singleValue⟩
  | .kingOfTheHillSpeedMaximum => ⟨"king_of_the_hill".toList, "hill_speed_maximum".toList, .singleValue⟩
  | .kingOfTheHillRetargetMinimumSeconds => ⟨"king_of_the_hill".toList, "hill_retarget_minimum_seconds".toList, .singleValue⟩
  | .kingOfTheHillRetargetMaximumSeconds => ⟨"king_of_the_hill".toList, "hill_retarget_maximum_seconds".toList, .singleValue⟩
  | .raceRoad => ⟨"race".toList, "road".toList, .singleValue⟩
  | .raceCheckpointRadius => ⟨"race".toList, "checkpoint_radius_world_units".toList, .singleValue⟩
  | .raceRespawnDelaySeconds => ⟨"race".toList, "respawn_delay_seconds".toList, .singleValue⟩
  | .raceFinishWindowSeconds => ⟨"race".toList, "finish_window_seconds".toList, .singleValue⟩
  | .raceTimeLimitSeconds => ⟨"race".toList, "time_limit_seconds".toList, .singleValue⟩
  | .raceCountdownSeconds => ⟨"race".toList, "countdown_seconds".toList, .singleValue⟩
  | .raceRestartDelaySeconds => ⟨"race".toList, "restart_delay_seconds".toList, .singleValue⟩
  | .lobbiesCount => ⟨"lobbies".toList, "count".toList, .singleValue⟩
  | .sandboxRespawnDelaySeconds => ⟨"sandbox".toList, "respawn_delay_seconds".toList, .singleValue⟩

inductive ConfigSectionFamily where
  | hazard
  | botProfile
  deriving DecidableEq

inductive ConfigFamilyField where
  | hazardRadius
  | hazardMass
  | hazardRestitution
  | hazardSpeed
  | hazardSpawnInterval
  | hazardLethalOnContact
  | hazardContactEffectPolicy
  | hazardSpeedVariation
  | botProfileObjectiveSeekProbability
  | botProfileReactionDelayTicks
  | botProfileAimError
  | botProfileTargetPersistenceTicks
  | botProfileObjectiveWeightHill
  | botProfileObjectiveWeightZone
  | botProfileObjectiveWeightRaceGate
  | botProfileObjectiveWeightRaceRecovery
  | botProfileObjectiveWeightShoveSetup
  | botProfileRiskTolerance
  | botProfilePredictionHorizonTicks
  | botProfileChargeScreenDiagonalFraction
  | botProfileShieldAnticipationTicks
  | botProfileRoadCautionFraction
  | botProfileArrivalBrakeFraction
  | botProfileExposurePreference
  | botProfileMinimumOpening
  deriving DecidableEq

def configFamilyFields : List ConfigFamilyField := [
  .hazardRadius, .hazardMass, .hazardRestitution, .hazardSpeed, .hazardSpawnInterval,
  .hazardLethalOnContact, .hazardContactEffectPolicy, .hazardSpeedVariation,
  .botProfileObjectiveSeekProbability, .botProfileReactionDelayTicks, .botProfileAimError,
  .botProfileTargetPersistenceTicks, .botProfileObjectiveWeightHill, .botProfileObjectiveWeightZone,
  .botProfileObjectiveWeightRaceGate, .botProfileObjectiveWeightRaceRecovery,
  .botProfileObjectiveWeightShoveSetup, .botProfileRiskTolerance, .botProfilePredictionHorizonTicks,
  .botProfileChargeScreenDiagonalFraction, .botProfileShieldAnticipationTicks,
  .botProfileRoadCautionFraction, .botProfileArrivalBrakeFraction, .botProfileExposurePreference,
  .botProfileMinimumOpening]

def configFamilyFieldSpec : ConfigFamilyField → IniFamilyFieldSpec ConfigSectionFamily
  | .hazardRadius => ⟨.hazard, "radius_world_units".toList, .singleValue⟩
  | .hazardMass => ⟨.hazard, "mass".toList, .singleValue⟩
  | .hazardRestitution => ⟨.hazard, "restitution".toList, .singleValue⟩
  | .hazardSpeed => ⟨.hazard, "speed_world_units_per_second".toList, .singleValue⟩
  | .hazardSpawnInterval => ⟨.hazard, "spawn_interval_seconds".toList, .singleValue⟩
  | .hazardLethalOnContact => ⟨.hazard, "lethal_on_contact".toList, .singleValue⟩
  | .hazardContactEffectPolicy => ⟨.hazard, "contact_effect_policy".toList, .singleValue⟩
  | .hazardSpeedVariation => ⟨.hazard, "speed_variation_fraction".toList, .singleValue⟩
  | .botProfileObjectiveSeekProbability => ⟨.botProfile, "objective_seek_probability".toList, .singleValue⟩
  | .botProfileReactionDelayTicks => ⟨.botProfile, "reaction_delay_ticks".toList, .singleValue⟩
  | .botProfileAimError => ⟨.botProfile, "aim_error".toList, .singleValue⟩
  | .botProfileTargetPersistenceTicks => ⟨.botProfile, "target_persistence_ticks".toList, .singleValue⟩
  | .botProfileObjectiveWeightHill => ⟨.botProfile, "objective_weight_hill".toList, .singleValue⟩
  | .botProfileObjectiveWeightZone => ⟨.botProfile, "objective_weight_zone".toList, .singleValue⟩
  | .botProfileObjectiveWeightRaceGate => ⟨.botProfile, "objective_weight_race_gate".toList, .singleValue⟩
  | .botProfileObjectiveWeightRaceRecovery => ⟨.botProfile, "objective_weight_race_recovery".toList, .singleValue⟩
  | .botProfileObjectiveWeightShoveSetup => ⟨.botProfile, "objective_weight_shove_setup".toList, .singleValue⟩
  | .botProfileRiskTolerance => ⟨.botProfile, "risk_tolerance".toList, .singleValue⟩
  | .botProfilePredictionHorizonTicks => ⟨.botProfile, "prediction_horizon_ticks".toList, .singleValue⟩
  | .botProfileChargeScreenDiagonalFraction => ⟨.botProfile, "charge_screen_diagonal_fraction".toList, .singleValue⟩
  | .botProfileShieldAnticipationTicks => ⟨.botProfile, "shield_anticipation_ticks".toList, .singleValue⟩
  | .botProfileRoadCautionFraction => ⟨.botProfile, "road_caution_fraction".toList, .singleValue⟩
  | .botProfileArrivalBrakeFraction => ⟨.botProfile, "arrival_brake_fraction".toList, .singleValue⟩
  | .botProfileExposurePreference => ⟨.botProfile, "exposure_preference".toList, .singleValue⟩
  | .botProfileMinimumOpening => ⟨.botProfile, "minimum_opening".toList, .singleValue⟩

def configSectionFamilies : List ConfigSectionFamily := [.hazard, .botProfile]

/-- `kConfigSectionFamilies`. -/
def configSectionFamilyName : ConfigSectionFamily → Text
  | .hazard => "hazard".toList
  | .botProfile => "bot_profile".toList

/-- `kMaximumConfigSectionFamilyInstanceCount`. -/
def maximumConfigSectionFamilyInstanceCount : Nat := 64

/-- A section name is split at its first separator, and what stands before it is a declared family. -/
def findSectionFamily (name : Text) : Option (ConfigSectionFamily × Text) :=
  match name.dropWhile (· ≠ '.') with
  | [] => none
  | _ :: instanceName =>
    if instanceName = [] then none
    else
      (configSectionFamilies.find? fun family => configSectionFamilyName family = name.takeWhile (· ≠ '.')).map
        fun family => (family, instanceName)

def configComplaint : IniFault → ApplicationInputErrorCode × String
  | .headerForm =>
    (.configurationSyntaxInvalid, "section header must have the exact form [lower_case_name]")
  | .sectionDuplicate => (.configurationSectionDuplicate, "each section may occur exactly once")
  | .sectionUnknown =>
    (.configurationSectionUnknown, "section is not part of the accepted configuration schema")
  | .sectionLimitExceeded =>
    (.configurationSectionLimitExceeded,
      "a configuration may declare at most " ++ toString maximumConfigSectionFamilyInstanceCount ++
        " family instance sections in total")
  | .outsideSection =>
    (.configurationSyntaxInvalid, "a key-value pair must appear inside a known section")
  | .equalsSigns => (.configurationSyntaxInvalid, "a key-value pair must contain exactly one equals sign")
  | .keyEmpty => (.configurationValueInvalid, "configuration keys must not be empty")
  | .keyUnknown => (.configurationKeyUnknown, "key is not valid in its section")
  | .keyDuplicate => (.configurationKeyDuplicate, "each configuration key may occur exactly once")
  | .valueEmpty => (.configurationValueInvalid, "configuration value must not be empty")

def configSchema : IniSchema ConfigSection ConfigField ConfigSectionFamily ConfigFamilyField where
  sections := List.finRange configSections.length
  sectionName := configSections.get
  fields := configFields
  fieldSpec := configFieldSpec
  familyFields := configFamilyFields
  familyFieldSpec := configFamilyFieldSpec
  familyPrefix := fun family => configSectionFamilyName family ++ ['.']
  findSectionFamily := findSectionFamily
  namesEmptyKeys := true
  instanceLimit := some maximumConfigSectionFamilyInstanceCount
  complaint := configComplaint
  missingCode := .configurationKeyMissing
  missingContext := fun _ => "configuration"
  missingDetail := "required keys are missing: "

/-- `StrictIniDocument::parse`. -/
def StrictIniDocument.parse (contents : Text) (sourcePath : String) :
    Except ApplicationInputError
      (IniDocument ConfigSection ConfigField ConfigSectionFamily ConfigFamilyField) :=
  configSchema.parse contents sourcePath

section Tables

theorem configFields_complete (field : ConfigField) : field ∈ configFields := by
  cases field <;> decide

theorem configFamilyFields_complete (field : ConfigFamilyField) : field ∈ configFamilyFields := by
  cases field <;> decide

theorem configTables_checked :
    (configFields.map fun field =>
      ((configFieldSpec field).sectionName, (configFieldSpec field).key)).Nodup ∧
    (configFamilyFields.map fun field =>
      ((configFamilyFieldSpec field).family, (configFamilyFieldSpec field).key)).Nodup ∧
    configSections.Nodup ∧
    (∀ name ∈ configSections, name ≠ [] ∧ name.all isKeyCharacter = true) ∧
    (∀ field ∈ configFields,
      (configFieldSpec field).key ≠ [] ∧ (configFieldSpec field).key.all isKeyCharacter = true) ∧
    (∀ field ∈ configFamilyFields,
      (configFamilyFieldSpec field).key ≠ [] ∧ (configFamilyFieldSpec field).key.all isKeyCharacter = true) ∧
    (∀ field ∈ configFields, (configFieldSpec field).sectionName ∈ configSections) ∧
    ∀ name ∈ configSections, ∃ field ∈ configFields, (configFieldSpec field).sectionName = name := by
  decide +kernel

theorem configSections_plain : ∀ name ∈ configSections, name ≠ [] ∧ name.all isKeyCharacter = true :=
  configTables_checked.2.2.2.1

theorem configSectionFamilyName_undotted (family : ConfigSectionFamily) :
    '.' ∉ configSectionFamilyName family := by
  cases family <;> decide

theorem findSectionFamily_eq_some (text : Text) (family : ConfigSectionFamily) (name : Text) :
    findSectionFamily text = some (family, name) ↔
      text = configSectionFamilyName family ++ ['.'] ++ name ∧ name ≠ [] := by
  constructor
  · intro found
    have whole := @List.takeWhile_append_dropWhile _ (fun x => decide (x ≠ '.')) text
    have head := List.head?_dropWhile_not (fun x => decide (x ≠ '.')) text
    unfold findSectionFamily at found
    split at found
    · cases found
    · next separator instanceName cut =>
      rw [cut] at whole head
      have same : separator = '.' := by simpa using head
      split at found
      · cases found
      · next written =>
        obtain ⟨resolved, search, pair⟩ := Option.map_eq_some_iff.mp found
        cases pair
        have accepted := List.find?_some search
        have named := of_decide_eq_true accepted
        refine ⟨?_, written⟩
        subst same
        rw [named, List.append_assoc, List.singleton_append]
        exact whole.symm
  · rintro ⟨rfl, written⟩
    have undotted := configSectionFamilyName_undotted family
    rw [List.append_assoc, List.singleton_append, findSectionFamily]
    simp only [dropWhile_delimited undotted, takeWhile_delimited undotted, if_neg written]
    cases family with
    | hazard => rfl
    | botProfile => rfl

theorem configSchema_lawful : configSchema.Lawful := by
  obtain ⟨keys, familyKeys, sections, -, plain, familyPlain, owned, filled⟩ := configTables_checked
  refine {
    sections := List.mem_finRange
    sectionsNodup := List.nodup_finRange _
    fields := configFields_complete
    fieldsNodup := keys.of_map
    familyFields := configFamilyFields_complete
    familyFieldsNodup := familyKeys.of_map
    sectionNames := fun current other same => sections.injective_get same
    keys := ?_
    familyKeys := ?_
    owned := fun field => List.mem_iff_get.mp (owned field (configFields_complete field))
    filled := ?_
    resolves := findSectionFamily_eq_some
    apart := ?_
    sectionPlain := ?_
    familyPlain := ?_
    keyPlain := ?_
    familyKeyPlain := ?_ }
  · intro field other sameSection sameKey
    exact List.inj_on_of_nodup_map keys (configFields_complete field) (configFields_complete other)
      (Prod.ext sameSection sameKey)
  · intro field other sameFamily sameKey
    exact List.inj_on_of_nodup_map familyKeys (configFamilyFields_complete field)
      (configFamilyFields_complete other) (Prod.ext sameFamily sameKey)
  · intro current
    obtain ⟨field, -, ofSection⟩ := filled _ (List.get_mem configSections current)
    exact ⟨field, ofSection⟩
  · intro current family name same
    have letters := (configSections_plain _ (List.get_mem configSections current)).2
    have dotted : '.' ∈ configSections.get current := by
      rw [show configSections.get current = _ from same]
      exact List.mem_append_left _ (List.mem_append_right _ (List.mem_singleton.mpr rfl))
    exact absurd (List.all_eq_true.mp letters '.' dotted) (by decide)
  · intro current
    obtain ⟨written, letters⟩ := configSections_plain _ (List.get_mem configSections current)
    refine ⟨written, fun member => ?_, fun member => ?_⟩
    · exact absurd (List.all_eq_true.mp letters '\n' member) (by decide)
    · exact absurd (List.all_eq_true.mp letters ']' member) (by decide)
  · intro family
    cases family with
    | hazard => decide
    | botProfile => decide
  · intro field
    have letters := plain field (configFields_complete field)
    exact PlainKey.of_letters letters.1 letters.2
  · intro field
    have letters := familyPlain field (configFamilyFields_complete field)
    exact PlainKey.of_letters letters.1 letters.2

end Tables

end BlobRoyale.Application
