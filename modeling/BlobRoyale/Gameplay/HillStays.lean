import BlobRoyale.Gameplay.AbilityIndependence
import BlobRoyale.Gameplay.HillScoring
import BlobRoyale.Gameplay.RespawnSystem
import BlobRoyale.Library.MaximalRuns
import Mathlib.Algebra.BigOperators.Group.List.Basic
import Mathlib.Tactic.Push

/-!
# Stays in the hill

What an entity has scored after any run of running ticks, in terms of its maximal stays: a stay is broken by
a tick outside and by the loss of the body, and is worth its scored ticks over the point interval.
-/

namespace BlobRoyale.Gameplay

open Simulation

/-- One running tick as an entity sees it. -/
structure HillTick where
  inside : Bool
  scored : Bool
  /-- The tick leaves it without a body. -/
  lost : Bool
  deriving DecidableEq

namespace HillTick

/-- The later tick belongs to the stay of the earlier one. -/
def continues (earlier later : HillTick) : Bool := earlier.inside && !earlier.lost && later.inside

/-- The maximal stays of a run of consecutive ticks. -/
def stays (ticks : List HillTick) : List (List HillTick) :=
  (ticks.splitBy continues).filter fun group => group.all inside

def worth (configuration : KingOfTheHillConfiguration) (stay : List HillTick) : Nat :=
  stay.countP scored / max configuration.pointIntervalTicks 1

def total (configuration : KingOfTheHillConfiguration) (groups : List (List HillTick)) : Nat :=
  ((groups.filter fun group => group.all inside).map (worth configuration)).sum

variable {configuration : KingOfTheHillConfiguration} {ticks : List HillTick} {closed : List (List HillTick)}
  {run : List HillTick} {last tick : HillTick}

theorem total_concat (group : List HillTick) : total configuration (closed ++ [group]) =
    total configuration closed + if group.all inside = true then worth configuration group else 0 := by
  rw [total, List.filter_append, List.map_append, List.sum_append, ← total]
  cases inside : group.all HillTick.inside <;> simp [inside]

theorem inside_of_chain (chain : (run ++ [last]).IsChain fun earlier later => continues earlier later = true) :
    ∀ tick ∈ run, tick.inside = true := by
  induction run with
  | nil => exact fun _ member => nomatch member
  | cons first rest ih =>
    rw [List.cons_append, List.isChain_cons] at chain
    obtain ⟨heads, chain⟩ := chain
    intro tick member
    obtain rfl | later := List.mem_cons.mp member
    · obtain ⟨second, others, split⟩ := List.exists_cons_of_ne_nil (show rest ++ [last] ≠ [] by simp)
      have joined := heads second (by rw [split]; rfl)
      simp only [continues, Bool.and_eq_true] at joined
      exact joined.1.1
    · exact ih chain tick later

open HillScoringSystem

/-- One tick of an entity's standing: the visit, and the sweep if the body is lost. -/
def advance (configuration : KingOfTheHillConfiguration) (standing : Standing) (tick : HillTick) : Standing :=
  let visited := visited configuration tick.scored tick.inside standing
  if tick.lost then (none, visited.2) else visited

theorem count_next (interval counted : Nat) :
    (interval ≤ counted % max interval 1 + 1 → (counted + 1) % max interval 1 = 0 ∧
      (counted + 1) / max interval 1 = counted / max interval 1 + 1) ∧
    (¬ interval ≤ counted % max interval 1 + 1 → (counted + 1) % max interval 1 = counted % max interval 1 + 1 ∧
      (counted + 1) / max interval 1 = counted / max interval 1) := by
  obtain ⟨width, known⟩ : ∃ width, width = max interval 1 := ⟨_, rfl⟩
  rw [← known]
  have positive : 0 < width := by omega
  have below := Nat.mod_lt counted positive
  have parts := Nat.div_add_mod counted width
  constructor
  · intro full
    have next : counted + 1 = width * (counted / width + 1) := by
      rw [Nat.mul_succ]
      omega
    rw [next]
    exact ⟨Nat.mul_mod_right .., Nat.mul_div_cancel_left _ positive⟩
  · intro short
    have room : counted % width + 1 < width := by omega
    have next : counted + 1 = width * (counted / width) + (counted % width + 1) := by omega
    constructor
    · calc (counted + 1) % width = (width * (counted / width) + (counted % width + 1)) % width := by rw [← next]
        _ = counted % width + 1 := by rw [Nat.mul_add_mod, Nat.mod_eq_of_lt room]
    · calc (counted + 1) / width = (width * (counted / width) + (counted % width + 1)) / width := by rw [← next]
        _ = counted / width := by rw [Nat.mul_add_div positive, Nat.div_eq_of_lt room, Nat.add_zero]

theorem visited_counts {standing : Standing} {counted : Nat} (scored : Bool)
    (held : standing.presence = counted % max configuration.pointIntervalTicks 1) :
    (visited configuration scored true standing).presence =
        (counted + scored.toNat) % max configuration.pointIntervalTicks 1 ∧
      (visited configuration scored true standing).points + (counted / max configuration.pointIntervalTicks 1 : Nat) =
        standing.points + ((counted + scored.toNat) / max configuration.pointIntervalTicks 1 : Nat) := by
  obtain ⟨full, short⟩ := count_next configuration.pointIntervalTicks counted
  unfold visited
  rw [if_neg (by decide)]
  cases scored with
  | false => exact ⟨held, rfl⟩
  | true =>
    rw [if_neg (by decide), held]
    rw [Bool.toNat_true]
    split
    · next point =>
      obtain ⟨remainder, quotient⟩ := full point
      rw [remainder, quotient]
      refine ⟨rfl, ?_⟩
      show standing.points + 1 + _ = _
      omega
    · next progress =>
      obtain ⟨remainder, quotient⟩ := short progress
      rw [remainder, quotient]
      exact ⟨rfl, rfl⟩

/-- What a standing says of the ticks behind it: the worth of their stays, and the part of the open one that
is not worth a point yet. -/
structure Accounts (configuration : KingOfTheHillConfiguration) (initial : Int) (ticks : List HillTick)
    (standing : Standing) : Prop where
  points : standing.points = initial + (total configuration (ticks.splitBy continues) : Nat)
  presence : ∀ closed run last, ticks.splitBy continues = closed ++ [run ++ [last]] →
    standing.presence = if (last.inside && !last.lost) = true then
      (run ++ [last]).countP scored % max configuration.pointIntervalTicks 1 else 0
  fresh : ticks = [] → standing.presence = 0

theorem advance_group {standing : Standing} {base : Int}
    (inside : tick.inside = true → (∀ earlier ∈ run, earlier.inside = true) ∧
      standing.presence = run.countP scored % max configuration.pointIntervalTicks 1)
    (points : standing.points = base + (if tick.inside = true then worth configuration run else 0 : Nat)) :
    (advance configuration standing tick).points = base +
        (if (run ++ [tick]).all HillTick.inside = true then worth configuration (run ++ [tick]) else 0 : Nat) ∧
      (advance configuration standing tick).presence = if (tick.inside && !tick.lost) = true then
        (run ++ [tick]).countP scored % max configuration.pointIntervalTicks 1 else 0 := by
  have count : (run ++ [tick]).countP scored = run.countP scored + tick.scored.toNat := by
    rw [List.countP_append, List.countP_singleton]
    cases tick.scored <;> rfl
  have lostPoints : ∀ standing : Standing, (advance configuration standing tick).points =
      (visited configuration tick.scored tick.inside standing).points := by
    intro standing
    unfold advance
    dsimp only
    split <;> rfl
  rw [lostPoints, count]
  cases here : tick.inside with
  | false =>
    rw [here] at points
    have outside : (run ++ [tick]).all HillTick.inside = false := by
      rw [List.all_append, List.all_cons, here, Bool.false_and, Bool.and_false]
    rw [outside]
    refine ⟨points, ?_⟩
    rw [advance, here]
    split <;> rfl
  | true =>
    rw [here] at points
    obtain ⟨earlier, held⟩ := inside here
    obtain ⟨presence, scoredPoints⟩ := @visited_counts configuration _ _ tick.scored held
    have whole : (run ++ [tick]).all HillTick.inside = true := by
      rw [List.all_append, List.all_cons, here, List.all_eq_true.mpr earlier]
      rfl
    rw [whole, if_pos rfl, worth, count]
    rw [if_pos rfl, worth] at points
    refine ⟨by omega, ?_⟩
    rw [advance, here]
    cases tick.lost with
    | false => exact presence
    | true => rfl

theorem Accounts.next {initial : Int} {standing : Standing} (accounts : Accounts configuration initial ticks standing) :
    Accounts configuration initial (ticks ++ [tick]) (advance configuration standing tick) := by
  suffices grouped : ∃ closed run, (ticks ++ [tick]).splitBy continues = closed ++ [run ++ [tick]] ∧
      (tick.inside = true → (∀ earlier ∈ run, earlier.inside = true) ∧
        standing.presence = run.countP scored % max configuration.pointIntervalTicks 1) ∧
      standing.points = initial + (total configuration closed : Nat) +
        (if tick.inside = true then worth configuration run else 0 : Nat) by
    obtain ⟨closed, run, split, inside, points⟩ := grouped
    obtain ⟨gained, present⟩ := advance_group inside points
    refine ⟨?_, ?_, fun impossible => absurd impossible (by simp)⟩
    · rw [gained, split, total_concat]
      omega
    · intro others other last same
      rw [split] at same
      obtain ⟨groups, group⟩ := List.append_inj' same rfl
      obtain ⟨front, ends⟩ := List.append_inj' (List.singleton_injective group) rfl
      cases List.singleton_injective ends
      cases front
      exact present
  have nothing : worth configuration [] = 0 := Nat.zero_div _
  obtain rfl | ⟨earlier, last, rfl⟩ := List.eq_nil_or_concat' ticks
  · refine ⟨[], [], rfl, fun _ => ⟨fun _ impossible => absurd impossible List.not_mem_nil, ?_⟩, ?_⟩
    · rw [accounts.fresh rfl, List.countP_nil, Nat.zero_mod]
    · rw [nothing, accounts.points]
      simp [total]
  · obtain ⟨closed, run, split⟩ := MaximalRuns.splitBy_last continues earlier last
    have held := accounts.presence closed run last split
    have points := accounts.points
    cases joins : continues last tick with
    | true =>
      simp only [continues, Bool.and_eq_true] at joins
      have everywhere : ∀ earlier ∈ run ++ [last], earlier.inside = true := by
        have chain := List.isChain_of_mem_splitBy (split ▸ List.mem_append_right closed (List.mem_singleton_self _))
        intro earlier member
        obtain before | here := List.mem_append.mp member
        · exact inside_of_chain chain earlier before
        · rw [List.mem_singleton.mp here]
          exact joins.1.1
      rw [split, total_concat, List.all_eq_true.mpr everywhere, if_pos rfl] at points
      rw [joins.1.1, joins.1.2] at held
      refine ⟨closed, run ++ [last], MaximalRuns.splitBy_concat_joined split ?_, fun _ => ⟨everywhere, held⟩, ?_⟩
      · simp only [continues, Bool.and_eq_true]
        exact joins
      · rw [joins.2, if_pos rfl]
        omega
    | false =>
      refine ⟨_, [], MaximalRuns.splitBy_concat_apart ?_, fun here => ⟨fun _ impossible => absurd impossible List.not_mem_nil, ?_⟩, ?_⟩
      · intro other ends
        rw [List.getLast?_concat] at ends
        cases ends
        exact joins
      · rw [continues, here, Bool.and_true] at joins
        rw [held, joins, List.countP_nil, Nat.zero_mod]
        rfl
      · rw [nothing, points]
        simp

end HillTick

section Runs

open HillScoringSystem HillTick

variable {S : Type} [Scalar S] {configuration : KingOfTheHillConfiguration} {entity : EntityId} {initial : Int}

/-- A run of consecutive running ticks, from one tick's scoring to the next one's. Whatever else a tick does, only
the return pass takes a body or touches the entity's standing after it was scored. -/
inductive HillRun (configuration : KingOfTheHillConfiguration) (entity : EntityId) (initial : Int) :
    List HillTick → GameWorld S → Prop where
  | start {world : GameWorld S} : (standings world entity).1 = none →
      (standings world entity).points = initial → HillRun configuration entity initial [] world
  | tick {ticks : List HillTick} {world scored settled returned next : GameWorld S} :
      HillRun configuration entity initial ticks world →
      world.matchState.phase = .running → (world.controllables.find entity).isSome = true →
      HillScoringSystem.apply configuration world = .ok scored →
      standings settled entity = standings scored entity →
      (scored.bodies.find entity = none → settled.bodies.find entity = none) →
      RespawnSystem.apply configuration.respawnDelayTicks settled = .ok returned →
      standings next entity = standings returned entity →
      HillRun configuration entity initial
        (ticks ++ [⟨isInside world entity, tickScores configuration world, (returned.bodies.find entity).isNone⟩]) next

theorem returned_standings {respawnDelayTicks : Nat} {settled returned : GameWorld S}
    (applied : RespawnSystem.apply respawnDelayTicks settled = .ok returned) (entity : EntityId) :
    standings returned entity =
      (if (returned.bodies.find entity).isSome = true then (standings settled entity).1 else none,
        (standings settled entity).2) := by
  have passed := RespawnSystem.apply_eq_ok applied
  refine Prod.ext (passed.bound .hillPresence entity rfl) ?_
  exact congrArg (fun store : ComponentStore Score => store.find entity)
    (passed.rest .score (by decide) (by decide) rfl)

theorem advanced {world scored settled returned : GameWorld S} (running : world.matchState.phase = .running)
    (linked : (world.controllables.find entity).isSome = true)
    (applied : HillScoringSystem.apply configuration world = .ok scored)
    (kept : standings settled entity = standings scored entity)
    (bodyless : scored.bodies.find entity = none → settled.bodies.find entity = none)
    (swept : RespawnSystem.apply configuration.respawnDelayTicks settled = .ok returned) :
    standings returned entity = advance configuration (standings world entity)
      ⟨isInside world entity, tickScores configuration world, (returned.bodies.find entity).isNone⟩ := by
  have visits := apply_standings running applied entity
  have bodies : scored.bodies = world.bodies :=
    (apply_frame running applied).rest .physicsBody (by decide) (by decide)
  rw [returned_standings swept, kept, visits]
  cases bodied : world.bodies.find entity with
  | none =>
    have outside : isInside world entity = false := by
      unfold isInside
      rw [bodied]
      split <;> simp_all
    have gone : returned.bodies.find entity = none := by
      rw [(RespawnSystem.apply_eq_ok swept).bodies entity]
      split
      · rfl
      · exact bodyless (bodies ▸ bodied)
    rw [gone, outside]
    rfl
  | some body =>
    have visitable : (some body).isSome = true ∧ (world.controllables.find entity).isSome = true := ⟨rfl, linked⟩
    rw [if_pos visitable]
    cases returned.bodies.find entity with
    | none => rfl
    | some kept => rfl

theorem HillRun.accounts {ticks : List HillTick} {world : GameWorld S}
    (run : HillRun configuration entity initial ticks world) :
    Accounts configuration initial ticks (standings world entity) := by
  induction run with
  | start absent points =>
    refine ⟨?_, fun _ _ _ split => absurd split (by simp), fun _ => ?_⟩
    · rw [points]
      simp [total]
    · rw [Standing.presence, absent]
      rfl
  | tick _ running linked applied kept bodyless swept carried ih =>
    rw [carried, advanced running linked applied kept bodyless swept]
    exact ih.next

end Runs

section LostStay

open HillScoringSystem HillTick
open AbilitySystem (alone restingBody nowhere)

/-- The world a step returned. -/
abbrev worldOf {ε : Type} (result : Except ε (GameWorld ℚ)) : GameWorld ℚ := returnedOr (GameWorld.empty 0) result

/-- A point every second tick, no contested scoring, and no delay. -/
def twoTickPoint : KingOfTheHillConfiguration := ⟨2, false, 0⟩

/-- A running match with one player on the hill's center. -/
def heldHill : GameWorld ℚ :=
  ((((GameWorld.empty 0).withMatch { MatchState.initial with phase := .running }).withBodies
    (alone restingBody)).withControllables (alone (Controllable.linked .first))).withStore .hill (alone ⟨nowhere, 0⟩)

def eliminated (world : GameWorld ℚ) : GameWorld ℚ := { world with events := [.elimination .first] }

/-- The player scored a tick, was knocked out on it, and sits on the center again. -/
def seatedAgain : GameWorld ℚ :=
  (worldOf (RespawnSystem.apply 0 (eliminated (worldOf (HillScoringSystem.apply twoTickPoint
    heldHill))))).closeTick.withBodies (alone restingBody)

def heldAgain : GameWorld ℚ := worldOf (RespawnSystem.apply 0 (worldOf (HillScoringSystem.apply twoTickPoint seatedAgain)))

def second : EntityId := (Identity.create .entity 2).toOption.getD .first

def third : EntityId := (Identity.create .entity 3).toOption.getD .first

end LostStay

end BlobRoyale.Gameplay
