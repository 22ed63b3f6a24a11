import BlobRoyale.Gameplay.ChargeContactSystem

/-!
# Charge landing

What the charge contact pass leaves: each attacker's first counted candidate alone decides what becomes of
its charge and whether a stun is requested.
-/

namespace BlobRoyale.Gameplay

open Simulation ChargeContactSystem

variable {S : Type} [Scalar S]

namespace ChargeContactSystem

/-- An attacker's charge with the first of its candidates that names it while it is active. -/
def firstHit (world : GameWorld S) (tick : TickSequence) (attacker : EntityId) :
    Option (Charge × ChargeContactCandidate) :=
  ((world.stores .charge).find attacker).bind fun charge =>
    ((candidatesOf world.events).find? fun candidate =>
      candidate.attacker = attacker ∧ Counts charge candidate tick).map (Prod.mk charge)

def hitStunOf (world : GameWorld S) (attacker : EntityId) : Nat :=
  (((world.stores .charge).find attacker).map (·.hitStunDurationTicks)).getD 0

/-- One tick's landed candidates, and the world they leave. -/
structure Landing (world next : GameWorld S) (tick : TickSequence) (landed : List ChargeContactCandidate) :
    Prop where
  ordered : landed.Sublist (candidatesOf world.events)
  single : (landed.map (·.attacker)).Nodup
  lands : ∀ candidate, candidate ∈ landed ↔ candidate.outcome = .successfulHit ∧
    ∃ charge, firstHit world tick candidate.attacker = some (charge, candidate)
  emitted : next.events = world.events ++
    landed.map fun candidate => .stunRequest candidate.target (hitStunOf world candidate.attacker)
  untouched : ∀ attacker, firstHit world tick attacker = none →
    (next.stores .charge).find attacker = (world.stores .charge).find attacker
  consumed : ∀ attacker charge candidate, firstHit world tick attacker = some (charge, candidate) →
    candidate.outcome = .successfulHit → (next.stores .charge).find attacker = none
  ended : ∀ attacker charge candidate, firstHit world tick attacker = some (charge, candidate) →
    candidate.outcome = .blockedByShield → attacker ∉ landed.map (·.attacker) ∧
      ∃ left, (next.stores .charge).find attacker = some left ∧ left.cooldownWindow = charge.cooldownWindow ∧
        left.hitStunDurationTicks = charge.hitStunDurationTicks ∧
        left.activeWindow.activationTick = charge.activeWindow.activationTick ∧
        left.activeWindow.expiryTick = tick
  others : ∀ kind, kind ≠ .charge → next.stores kind = world.stores kind
  kept : next.matchState = world.matchState ∧ next.random = world.random ∧
    next.reservation = world.reservation

/-- The hits of the tick's candidates, by attacker. -/
def hits (world : GameWorld S) (tick : TickSequence) : List (EntityId × ChargeContactCandidate × Nat) :=
  (action tick).output (candidatesOf world.events) (world.stores .charge).find

theorem emitAll_eq_ok {requests : List StunRequest} {world next : GameWorld S} :
    requests.foldlM (fun world request => world.emit request.event) world = .ok next ↔
      (requests = [] ∨ world.events.length + requests.length ≤ maximumWorldEventCount) ∧
        next = { world with events := world.events ++ requests.map StunRequest.event } := by
  induction requests generalizing world with
  | nil =>
    rw [List.foldlM_nil, List.map_nil, List.append_nil]
    constructor
    · intro same
      cases same
      exact ⟨.inl rfl, rfl⟩
    · rintro ⟨-, rfl⟩
      rfl
  | cons request rest ih =>
    rw [List.foldlM_cons]
    have lengths : (request :: rest).length = rest.length + 1 := rfl
    constructor
    · intro emitted
      obtain ⟨middle, first, later⟩ := bind_eq_ok.mp emitted
      unfold GameWorld.emit at first
      split at first
      · next room =>
        cases first
        obtain ⟨bound, rfl⟩ := ih.mp later
        refine ⟨.inr ?_, ?_⟩
        · obtain rfl | bound := bound
          · exact room
          · rw [List.length_append, List.length_singleton] at bound
            omega
        · rw [List.map_cons, List.append_assoc, List.singleton_append]
      · cases first
    · rintro ⟨bound, rfl⟩
      have total := bound.resolve_left (List.cons_ne_nil _ _)
      refine bind_eq_ok.mpr ⟨_, if_pos (by omega), ih.mpr ⟨.inr ?_, ?_⟩⟩
      · rw [List.length_append, List.length_singleton]
        omega
      · rw [List.map_cons, List.append_assoc, List.singleton_append]

theorem apply_eq_ok {world next : GameWorld S} {context : TickContext S} :
    apply world context = .ok next ↔
      (hits world context.tickSequence = [] ∨
        world.events.length + (hits world context.tickSequence).length ≤ maximumWorldEventCount) ∧
      (next.stores .charge).find =
        (action context.tickSequence).run (candidatesOf world.events) (world.stores .charge).find ∧
      next = { world.withStore .charge (next.stores .charge) with
        events := world.events ++ (hits world context.tickSequence).map fun hit => (requestOf hit).event } := by
  obtain ⟨walk, walked, charges, requested⟩ := foldlM_visit context.tickSequence world.events
    ⟨world.stores .charge, []⟩
  have applied : apply world context = walk.requested.foldlM
      (fun world request => world.emit request.event) (world.withStore .charge walk.charges) := by
    rw [apply, walked]
    rfl
  rw [applied, emitAll_eq_ok, requested, List.nil_append, GameWorld.withStore_events, List.length_map,
    List.map_map, List.map_eq_nil_iff]
  refine and_congr_right fun _ => ?_
  constructor
  · rintro rfl
    have same : (world.withStore .charge walk.charges).stores .charge = walk.charges :=
      @GameWorld.withStore_same S _ world .charge walk.charges
    refine ⟨?_, ?_⟩
    · dsimp only
      rw [same]
      exact charges
    · dsimp only
      rw [same]
      rfl
  · rintro ⟨found, same⟩
    have stores : next.stores .charge = walk.charges :=
      ComponentStore.ext_find fun entity => by rw [found, ← charges]
    rw [same, stores]
    rfl

theorem firstHit_eq (world : GameWorld S) (tick : TickSequence) (attacker : EntityId) :
    firstHit world tick attacker = ((world.stores .charge).find attacker).bind fun charge =>
      (firstCounted tick charge ((action tick).ofKey attacker (candidatesOf world.events))).map
        (Prod.mk charge) := by
  unfold firstHit
  congr 1
  funext charge
  rw [firstCounted, KeyedFold.Action.ofKey, List.find?_filter]
  congr 2
  funext candidate
  simp only [decide_eq_true_eq]
  rfl

section OfAttacker

variable {world : GameWorld S} {tick : TickSequence} {attacker : EntityId}

theorem run_of_attacker : (action tick).run (candidatesOf world.events) (world.stores .charge).find attacker =
    ((world.stores .charge).find attacker).bind fun charge =>
      chargeLeft tick charge ((firstHit world tick attacker).map Prod.snd) := by
  rw [KeyedFold.Action.run_apply, firstHit_eq]
  cases (world.stores .charge).find attacker with
  | none => exact (alone_without_charge tick _).1
  | some charge =>
    rw [(alone_with_charge _ charge).1, Option.bind_some, Option.bind_some, Option.map_map]
    exact congrArg _ Option.map_id'.symm

theorem landed_of_attacker : (action tick).aloneOutput ((action tick).ofKey attacker (candidatesOf world.events))
    ((world.stores .charge).find attacker) = ((world.stores .charge).find attacker).toList.flatMap fun charge =>
      hitLanded charge ((firstHit world tick attacker).map Prod.snd) := by
  rw [firstHit_eq]
  cases (world.stores .charge).find attacker with
  | none => exact (alone_without_charge tick _).2
  | some charge =>
    rw [(alone_with_charge _ charge).2, Option.bind_some, Option.map_map, Option.toList_some,
      List.flatMap_singleton]
    exact congrArg _ Option.map_id'.symm

theorem charge_of_firstHit {charge : Charge} {candidate : ChargeContactCandidate}
    (first : firstHit world tick attacker = some (charge, candidate)) :
    (world.stores .charge).find attacker = some charge ∧ candidate.attacker = attacker ∧
      candidate ∈ candidatesOf world.events ∧ Counts charge candidate tick := by
  obtain ⟨stored, found, named⟩ := Option.bind_eq_some_iff.mp first
  obtain ⟨counted, searched, same⟩ := Option.map_eq_some_iff.mp named
  cases same
  have both := List.find?_some searched
  obtain ⟨own, counts⟩ := of_decide_eq_true both
  exact ⟨found, own, List.mem_of_find?_eq_some searched, counts⟩

theorem mem_hits {candidate : ChargeContactCandidate} {duration : Nat} :
    (attacker, candidate, duration) ∈ hits world tick ↔ candidate.outcome = .successfulHit ∧
      ∃ charge, firstHit world tick attacker = some (charge, candidate) ∧
        duration = charge.hitStunDurationTicks := by
  rw [hits, KeyedFold.Action.mem_output, landed_of_attacker]
  constructor
  · intro member
    obtain ⟨charge, stored, landed⟩ := List.mem_flatMap.mp member
    rw [Option.mem_toList] at stored
    cases first : firstHit world tick attacker with
    | none =>
      rw [first] at landed
      cases landed
    | some named =>
      obtain ⟨own, counted⟩ := named
      have same : own = charge := Option.some.inj ((charge_of_firstHit first).1.symm.trans stored)
      rw [first, Option.map_some, hitLanded] at landed
      split at landed
      · next success =>
        cases List.mem_singleton.mp landed
        exact ⟨success, charge, by rw [same], rfl⟩
      · cases landed
  · rintro ⟨success, charge, first, rfl⟩
    refine List.mem_flatMap.mpr ⟨charge, Option.mem_toList.mpr (charge_of_firstHit first).1, ?_⟩
    rw [first, Option.map_some, hitLanded, if_pos success]
    exact List.mem_singleton_self _

end OfAttacker

def landedOf (world : GameWorld S) (tick : TickSequence) : List ChargeContactCandidate :=
  (hits world tick).map fun hit => hit.2.1

theorem hits_named {world : GameWorld S} {tick : TickSequence} {hit : EntityId × ChargeContactCandidate × Nat}
    (member : hit ∈ hits world tick) : hit.2.1.attacker = hit.1 ∧ hit.2.2 = hitStunOf world hit.1 := by
  obtain ⟨attacker, candidate, duration⟩ := hit
  obtain ⟨-, charge, first, rfl⟩ := mem_hits.mp member
  obtain ⟨found, named, -, -⟩ := charge_of_firstHit first
  exact ⟨named, by rw [hitStunOf, found]; rfl⟩

theorem hits_single (world : GameWorld S) (tick : TickSequence) : ((hits world tick).map Prod.fst).Nodup := by
  refine KeyedFold.Action.output_keys_nodup fun attacker => ?_
  rw [landed_of_attacker]
  cases (world.stores .charge).find attacker with
  | none => exact Nat.zero_le _
  | some charge =>
    rw [Option.toList_some, List.flatMap_singleton]
    cases (firstHit world tick attacker).map Prod.snd with
    | none => exact Nat.zero_le _
    | some first =>
      rw [hitLanded]
      split <;> simp

theorem landedOf_sublist (world : GameWorld S) (tick : TickSequence) :
    (landedOf world tick).Sublist (candidatesOf world.events) := by
  refine KeyedFold.Action.output_sublist Prod.fst fun candidate part => ?_
  cases part with
  | none => exact List.nil_sublist _
  | some charge =>
    simp only [action, Option.toList_some, List.flatMap_singleton]
    split <;> simp

theorem attackers_of_landed (world : GameWorld S) (tick : TickSequence) :
    (landedOf world tick).map (·.attacker) = (hits world tick).map Prod.fst := by
  rw [landedOf, List.map_map]
  exact List.map_congr_left fun hit member => (hits_named member).1

theorem mem_landedOf {world : GameWorld S} {tick : TickSequence} {candidate : ChargeContactCandidate} :
    candidate ∈ landedOf world tick ↔ candidate.outcome = .successfulHit ∧
      ∃ charge, firstHit world tick candidate.attacker = some (charge, candidate) := by
  constructor
  · intro member
    obtain ⟨⟨attacker, landed, duration⟩, hit, rfl⟩ := List.mem_map.mp member
    obtain ⟨success, charge, first, -⟩ := mem_hits.mp hit
    have named : landed.attacker = attacker := (hits_named hit).1
    exact ⟨success, charge, by rw [named]; exact first⟩
  · rintro ⟨success, charge, first⟩
    exact List.mem_map.mpr ⟨(candidate.attacker, candidate, charge.hitStunDurationTicks),
      mem_hits.mpr ⟨success, charge, first, rfl⟩, rfl⟩

theorem landing_of_apply {world next : GameWorld S} {context : TickContext S}
    (applied : apply world context = .ok next) :
    Landing world next context.tickSequence (landedOf world context.tickSequence) := by
  obtain ⟨-, charges, shape⟩ := apply_eq_ok.mp applied
  have left (attacker : EntityId) : (next.stores .charge).find attacker =
      ((world.stores .charge).find attacker).bind fun charge =>
        chargeLeft context.tickSequence charge
          ((firstHit world context.tickSequence attacker).map Prod.snd) := by
    rw [charges, run_of_attacker]
  refine ⟨landedOf_sublist .., ?_, fun candidate => mem_landedOf, ?_, ?_, ?_, ?_, ?_, ?_⟩
  · rw [attackers_of_landed]
    exact hits_single ..
  · rw [shape]
    dsimp only
    rw [landedOf, List.map_map]
    refine congrArg _ (List.map_congr_left fun hit member => ?_)
    obtain ⟨named, duration⟩ := hits_named member
    rw [Function.comp_apply, named, ← duration]
    rfl
  · intro attacker none
    rw [left, none]
    cases (world.stores .charge).find attacker <;> rfl
  · intro attacker charge candidate first success
    rw [left, first, (charge_of_firstHit first).1, Option.bind_some, Option.map_some, chargeLeft, success]
  · intro attacker charge candidate first blocked
    obtain ⟨found, -, -, counts⟩ := charge_of_firstHit first
    refine ⟨fun member => ?_, charge.cutAt context.tickSequence, ?_, rfl, rfl,
      TickWindow.cutAt_activationTick, ?_⟩
    · obtain ⟨landed, lands, rfl⟩ := List.mem_map.mp member
      obtain ⟨success, own, again⟩ := mem_landedOf.mp lands
      cases first.symm.trans again
      rw [success] at blocked
      cases blocked
    · rw [left, first, found, Option.bind_some, Option.map_some, chargeLeft, blocked]
    · exact congrArg TickWindow.expiryTick (TickWindow.cutAt_of_contains counts.2)
  · intro kind other
    rw [shape]
    exact GameWorld.withStore_other _ other
  · rw [shape]
    exact ⟨rfl, rfl, rfl⟩

def ownCandidates (events : List (WorldEvent S)) (attacker : EntityId) : List ChargeContactCandidate :=
  (candidatesOf events).filter fun candidate => candidate.attacker = attacker

section Locality

variable {world other : GameWorld S} {tick : TickSequence} {attacker : EntityId}

theorem landedOf_of_attacker : (landedOf world tick).filter (fun candidate => candidate.attacker = attacker) =
    ((action tick).aloneOutput (ownCandidates world.events attacker)
      ((world.stores .charge).find attacker)).map Prod.fst := by
  have tagged : (landedOf world tick).filter (fun candidate => candidate.attacker = attacker) =
      ((hits world tick).filter fun hit => hit.1 = attacker).map fun hit => hit.2.1 := by
    rw [landedOf, List.filter_map]
    refine congrArg _ (List.filter_congr fun hit member => ?_)
    rw [Function.comp_apply, (hits_named member).1]
  rw [tagged, hits, KeyedFold.Action.output_ofKey, List.map_map]
  rfl

theorem charge_of_attacker {next : GameWorld S} {context : TickContext S}
    (applied : apply world context = .ok next) : (next.stores .charge).find attacker =
      (action context.tickSequence).alone (ownCandidates world.events attacker)
        ((world.stores .charge).find attacker) := by
  rw [(apply_eq_ok.mp applied).2.1, KeyedFold.Action.run_apply]
  rfl

theorem returns_iff {context : TickContext S} : (∃ next, apply world context = .ok next) ↔
    landedOf world context.tickSequence = [] ∨
      world.events.length + (landedOf world context.tickSequence).length ≤ maximumWorldEventCount := by
  obtain ⟨walk, -, charges, -⟩ := foldlM_visit context.tickSequence world.events
    ⟨world.stores .charge, []⟩
  have same : (world.withStore .charge walk.charges).stores .charge = walk.charges :=
    @GameWorld.withStore_same S _ world .charge walk.charges
  rw [landedOf, List.map_eq_nil_iff, List.length_map]
  constructor
  · rintro ⟨next, applied⟩
    exact (apply_eq_ok.mp applied).1
  · intro room
    refine ⟨{ world.withStore .charge walk.charges with
      events := world.events ++ (hits world context.tickSequence).map fun hit => (requestOf hit).event },
      apply_eq_ok.mpr ⟨room, ?_, ?_⟩⟩
    · dsimp only
      rw [same]
      exact charges
    · dsimp only
      rw [same]

end Locality

theorem apply_reordered {world next : GameWorld S} {context : TickContext S} {events : List (WorldEvent S)}
    (reordered : world.events.Perm events)
    (own : ∀ attacker, ownCandidates world.events attacker = ownCandidates events attacker)
    (applied : apply world context = .ok next) :
    ∃ requests reorderedRequests : List (WorldEvent S), requests.Perm reorderedRequests ∧
      next.events = world.events ++ requests ∧
      apply { world with events := events } context = .ok { next with events := events ++ reorderedRequests } := by
  obtain ⟨room, charges, shape⟩ := apply_eq_ok.mp applied
  have alike : (hits world context.tickSequence).Perm
      (hits { world with events := events } context.tickSequence) := KeyedFold.Action.output_perm own
  refine ⟨_, _, alike.map fun hit => (requestOf hit).event, congrArg GameWorld.events shape,
    apply_eq_ok.mpr ⟨?_, ?_, ?_⟩⟩
  · obtain empty | room := room
    · exact .inl (List.perm_nil.mp (empty ▸ alike.symm))
    · exact .inr (by rwa [← reordered.length_eq, ← alike.length_eq])
  · exact charges.trans (KeyedFold.Action.run_congr own)
  · rw [shape]
    dsimp only
    rw [GameWorld.withStore_same]
    rfl

end ChargeContactSystem

/-- Each attacker's first counted candidate alone decides what becomes of its charge and what is requested. -/
theorem charge_lands_at_most_once (world : GameWorld S) (context : TickContext S) :
    ((∃ next, apply world context = .ok next) ↔ landedOf world context.tickSequence = [] ∨
      world.events.length + (landedOf world context.tickSequence).length ≤ maximumWorldEventCount) ∧
    (∀ next, apply world context = .ok next →
      Landing world next context.tickSequence (landedOf world context.tickSequence)) ∧
    (∀ (other otherNext next : GameWorld S) (otherContext : TickContext S) (attacker : EntityId),
      otherContext.tickSequence = context.tickSequence →
      (other.stores .charge).find attacker = (world.stores .charge).find attacker →
      ownCandidates other.events attacker = ownCandidates world.events attacker →
      apply world context = .ok next → apply other otherContext = .ok otherNext →
      (otherNext.stores .charge).find attacker = (next.stores .charge).find attacker ∧
      (landedOf other context.tickSequence).filter (fun candidate => candidate.attacker = attacker) =
        (landedOf world context.tickSequence).filter fun candidate => candidate.attacker = attacker) ∧
    (∀ (next : GameWorld S) (events : List (WorldEvent S)), world.events.Perm events →
      (∀ attacker, ownCandidates world.events attacker = ownCandidates events attacker) →
      apply world context = .ok next →
      ∃ requests reorderedRequests : List (WorldEvent S), requests.Perm reorderedRequests ∧
        next.events = world.events ++ requests ∧
        apply { world with events := events } context =
          .ok { next with events := events ++ reorderedRequests }) ∧
    ∀ (next : GameWorld S) (first second : EntityId) (firstCharge secondCharge : Charge)
      (firstCandidate secondCandidate : ChargeContactCandidate), apply world context = .ok next →
      firstHit world context.tickSequence first = some (firstCharge, firstCandidate) →
      firstCandidate.outcome = .successfulHit → firstCandidate.target = second →
      firstHit world context.tickSequence second = some (secondCharge, secondCandidate) →
      secondCandidate.outcome = .successfulHit → secondCandidate.target = first →
      ∃ requests : List (WorldEvent S), next.events = world.events ++ requests ∧
        .stunRequest second firstCharge.hitStunDurationTicks ∈ requests ∧
        .stunRequest first secondCharge.hitStunDurationTicks ∈ requests := by
  refine ⟨returns_iff, fun next => landing_of_apply, ?_, fun next events => apply_reordered, ?_⟩
  · intro other otherNext next otherContext attacker ticks charges own applied otherApplied
    refine ⟨?_, ?_⟩
    · rw [charge_of_attacker applied, charge_of_attacker otherApplied, ticks, charges, own]
    · rw [landedOf_of_attacker, landedOf_of_attacker, charges, own]
  · intro next first second firstCharge secondCharge firstCandidate secondCandidate applied firstNamed
      firstLands firstTarget secondNamed secondLands secondTarget
    have requested : ∀ attacker charge candidate,
        firstHit world context.tickSequence attacker = some (charge, candidate) →
        candidate.outcome = .successfulHit →
        (WorldEvent.stunRequest candidate.target charge.hitStunDurationTicks : WorldEvent S) ∈
          (landedOf world context.tickSequence).map fun candidate =>
            .stunRequest candidate.target (hitStunOf world candidate.attacker) := by
      intro attacker charge candidate named lands
      obtain ⟨found, own, -, -⟩ := charge_of_firstHit named
      refine List.mem_map.mpr ⟨candidate, mem_landedOf.mpr ⟨lands, charge, own ▸ named⟩, ?_⟩
      rw [hitStunOf, own, found]
      rfl
    refine ⟨_, (landing_of_apply applied).emitted, ?_, ?_⟩
    · exact firstTarget ▸ requested first firstCharge firstCandidate firstNamed firstLands
    · exact secondTarget ▸ requested second secondCharge secondCandidate secondNamed secondLands

end BlobRoyale.Gameplay
