import BlobRoyale.Gameplay.RoyaleMode
import BlobRoyale.Simulation.IntakeProvision
import BlobRoyale.Simulation.MatchLifecycleLaw

/-!
# The royale field

What every world of a royale tick satisfies, and how its players can change: a zone stands alone, a lifetime is
nobody's player, and a counter belongs to a player. Between two countdowns players only leave.
-/

namespace BlobRoyale.Gameplay

open Simulation Transition

variable {S : Type} [Scalar S]

def carried (world : GameWorld S) (entity : EntityId) (kind : ComponentKind) : Bool :=
  ((world.stores kind).find entity).isSome

/-- What the kinds of one entity allow each other. -/
structure Coherent (has : ComponentKind → Bool) : Prop where
  zone : has .zone = true → has .physicsBody = false ∧ has .controllable = false ∧ has .lifetime = false
  lifetime : has .lifetime = true → has .controllable = false
  exposure : has .zoneExposure = true → has .controllable = true

structure RoyaleSound (world : GameWorld S) : Prop where
  sole : SoleZone world
  coherent : ∀ entity, Coherent (carried world entity)

def isTracked : ComponentKind → Bool
  | .physicsBody | .controllable | .lifetime | .zone | .zoneExposure => true
  | _ => false

/-- Nobody comes alive, and whoever stays keeps their counter. -/
structure Fewer (before after : GameWorld S) : Prop where
  alive : ∀ entity ∈ aliveEntities after, entity ∈ aliveEntities before
  exposure : ∀ entity ∈ aliveEntities after,
    (after.stores .zoneExposure).find entity = (before.stores .zoneExposure).find entity

def Fades (before after : GameWorld S) : Prop :=
  ∀ entity, carried after entity .zoneExposure = true → carried before entity .zoneExposure = true

section Basics

variable {world before after next : GameWorld S} {entity : EntityId}

theorem mem_alive_iff : entity ∈ aliveEntities world ↔
    carried world entity .physicsBody = true ∧ carried world entity .controllable = true := mem_aliveEntities

theorem carried_controllable : carried world entity .controllable = (world.controllerOf entity).isSome := by
  rw [GameWorld.controllerOf, Option.isSome_map]
  rfl

theorem carried_of_fresh (fresh : world.contains entity = false) (kind : ComponentKind) :
    carried world entity kind = false := by
  refine Bool.eq_false_iff.mpr fun held => ?_
  have live := GameWorld.contains_iff.mpr ⟨kind, held⟩
  rw [fresh] at live
  cases live

theorem find_of_fresh (fresh : world.contains entity = false) (kind : ComponentKind) :
    (world.stores kind).find entity = none :=
  Option.not_isSome_iff_eq_none.mp (Bool.eq_false_iff.mp (carried_of_fresh fresh kind))

theorem RoyaleSound.of_carried (sound : RoyaleSound before)
    (same : ∀ kind, isTracked kind = true → ∀ entity, carried after entity kind = carried before entity kind) :
    RoyaleSound after := by
  refine ⟨fun first second left right => ?_, fun entity => ?_⟩
  · exact sound.sole first second ((same .zone rfl first).symm.trans left) ((same .zone rfl second).symm.trans right)
  · obtain ⟨zone, lifetime, exposure⟩ := sound.coherent entity
    refine ⟨?_, ?_, ?_⟩
    · rw [same .zone rfl, same .physicsBody rfl, same .controllable rfl, same .lifetime rfl]
      exact zone
    · rw [same .controllable rfl, same .lifetime rfl]
      exact lifetime
    · rw [same .controllable rfl, same .zoneExposure rfl]
      exact exposure

theorem Coherent.nothing {has : ComponentKind → Bool} (nothing : ∀ kind, isTracked kind = true → has kind = false) :
    Coherent has := by
  refine ⟨fun held => ?_, fun held => ?_, fun held => ?_⟩
  · rw [nothing .zone rfl] at held
    cases held
  · rw [nothing .lifetime rfl] at held
    cases held
  · rw [nothing .zoneExposure rfl] at held
    cases held

/-- Entities that are gone, all of their components with them. -/
def Gone (gone : EntityId → Prop) [DecidablePred gone] (before after : GameWorld S) : Prop :=
  ∀ kind entity, (after.stores kind).find entity = if gone entity then none else (before.stores kind).find entity

theorem gone_destroyed (entities : List EntityId) (world : GameWorld S) :
    Gone (· ∈ entities) world (entities.foldl GameWorld.destroyEntity world) :=
  fun kind entity => GameWorld.destroyEntities_find entities world entity kind

section Gone

variable {gone : EntityId → Prop} [DecidablePred gone]

theorem Gone.carried (leave : Gone gone before after) (entity : EntityId) (kind : ComponentKind) :
    carried after entity kind = if gone entity then false else carried before entity kind := by
  rw [Gameplay.carried, leave kind entity]
  split <;> rfl

theorem Gone.sound (leave : Gone gone before after) (sound : RoyaleSound before) : RoyaleSound after := by
  have kept : ∀ entity kind, Gameplay.carried after entity kind = true → ¬ gone entity ∧
      Gameplay.carried before entity kind = true := by
    intro entity kind held
    rw [leave.carried] at held
    split at held
    · cases held
    · next stays => exact ⟨stays, held⟩
  refine ⟨fun first second left right => ?_, fun entity => ?_⟩
  · exact sound.sole first second (kept first .zone left).2 (kept second .zone right).2
  · by_cases leaves : gone entity
    · exact .nothing fun kind _ => (leave.carried entity kind).trans (if_pos leaves)
    · have same : Gameplay.carried after entity = Gameplay.carried before entity :=
        funext fun kind => (leave.carried entity kind).trans (if_neg leaves)
      rw [same]
      exact sound.coherent entity

theorem Gone.mem_alive (leave : Gone gone before after) : entity ∈ aliveEntities after ↔
    entity ∈ aliveEntities before ∧ ¬ gone entity := by
  rw [mem_alive_iff, mem_alive_iff, leave.carried, leave.carried]
  split
  · next leaves => simp [leaves]
  · next stays => simp [stays]

theorem Gone.fewer (leave : Gone gone before after) : Fewer before after where
  alive _ member := (leave.mem_alive.mp member).1
  exposure entity member := (leave .zoneExposure entity).trans (if_neg (leave.mem_alive.mp member).2)

theorem Gone.fades (leave : Gone gone before after) : Fades before after := by
  intro entity held
  rw [leave.carried] at held
  split at held
  · cases held
  · exact held

end Gone

theorem Fewer.trans {first second third : GameWorld S} (left : Fewer first second) (right : Fewer second third) :
    Fewer first third where
  alive entity member := left.alive entity (right.alive entity member)
  exposure entity member := (right.exposure entity member).trans (left.exposure entity (right.alive entity member))

theorem Fades.trans {first second third : GameWorld S} (left : Fades first second) (right : Fades second third) :
    Fades first third := fun entity held => left entity (right entity held)

/-- A created entity, and what it carries of the tracked kinds. -/
structure Born (created : EntityId) (before after : GameWorld S) : Prop where
  fresh : before.contains created = false
  others : ∀ kind, isTracked kind = true → ∀ entity, entity ≠ created →
    (after.stores kind).find entity = (before.stores kind).find entity
  coherent : Coherent (carried after created)
  bodilessOrUndriven : carried after created .physicsBody = false ∨ carried after created .controllable = false

namespace Born

variable {created : EntityId}

theorem carried (born : Born created before after) {kind : ComponentKind} (tracked : isTracked kind = true)
    (other : entity ≠ created) : carried after entity kind = Gameplay.carried before entity kind := by
  rw [Gameplay.carried, Gameplay.carried, born.others kind tracked entity other]

theorem sound (born : Born created before after) (sound : RoyaleSound before)
    (sole : Gameplay.carried after created .zone = true → ∀ entity, Gameplay.carried before entity .zone = false) :
    RoyaleSound after := by
  refine ⟨fun first second left right => ?_, fun entity => ?_⟩
  · have elsewhere : ∀ entity, entity ≠ created → Gameplay.carried after entity .zone = true →
        Gameplay.carried before entity .zone = true :=
      fun entity other held => (born.carried rfl other).symm.trans held
    have other : ∀ entity, entity ≠ created → Gameplay.carried after entity .zone = true →
        Gameplay.carried after created .zone = false := by
      intro entity different held
      refine Bool.eq_false_iff.mpr fun own => ?_
      have absent := sole own entity
      rw [elsewhere entity different held] at absent
      cases absent
    by_cases isFirst : first = created
    · by_cases isSecond : second = created
      · exact isFirst.trans isSecond.symm
      · rw [isFirst] at left
        exact absurd left (Bool.eq_false_iff.mp (other second isSecond right))
    · by_cases isSecond : second = created
      · rw [isSecond] at right
        exact absurd right (Bool.eq_false_iff.mp (other first isFirst left))
      · exact sound.sole first second (elsewhere first isFirst left) (elsewhere second isSecond right)
  · by_cases own : entity = created
    · rw [own]
      exact born.coherent
    · obtain ⟨zone, lifetime, exposure⟩ := sound.coherent entity
      refine ⟨?_, ?_, ?_⟩
      · rw [born.carried rfl own, born.carried rfl own, born.carried rfl own, born.carried rfl own]
        exact zone
      · rw [born.carried rfl own, born.carried rfl own]
        exact lifetime
      · rw [born.carried rfl own, born.carried rfl own]
        exact exposure

theorem mem_alive (born : Born created before after) : entity ∈ aliveEntities after ↔ entity ∈ aliveEntities before := by
  rw [mem_alive_iff, mem_alive_iff]
  by_cases own : entity = created
  · rw [own, carried_of_fresh born.fresh]
    obtain bodiless | undriven := born.bodilessOrUndriven
    · simp [bodiless]
    · simp [undriven]
  · rw [born.carried rfl own, born.carried rfl own]

theorem fewer (born : Born created before after) : Fewer before after where
  alive _ member := born.mem_alive.mp member
  exposure entity member := by
    refine born.others .zoneExposure rfl entity fun own => ?_
    have lived := (mem_alive_iff.mp (born.mem_alive.mp member)).1
    rw [own, carried_of_fresh born.fresh] at lived
    cases lived

theorem fades (born : Born created before after) (bare : Gameplay.carried after created .zoneExposure = false) :
    Fades before after := by
  intro entity held
  by_cases own : entity = created
  · rw [own, bare] at held
    cases held
  · exact (born.carried rfl own).symm.trans held

end Born

namespace FieldKept

theorem carried (kept : FieldKept before after) {kind : ComponentKind} (tracked : isTracked kind = true)
    (entity : EntityId) : carried after entity kind = Gameplay.carried before entity kind := by
  by_cases body : kind = .physicsBody
  · subst body
    exact kept.embodied entity
  · by_cases link : kind = .controllable
    · subst link
      rw [carried_controllable, carried_controllable, kept.linked entity]
    · rw [Gameplay.carried, Gameplay.carried, kept.rest kind ?_]
      cases kind <;> first | rfl | exact absurd rfl body | exact absurd rfl link | cases tracked

theorem sound (kept : FieldKept before after) (sound : RoyaleSound before) : RoyaleSound after :=
  sound.of_carried fun _ tracked entity => kept.carried tracked entity

theorem mem_alive (kept : FieldKept before after) : entity ∈ aliveEntities after ↔ entity ∈ aliveEntities before := by
  rw [mem_alive_iff, mem_alive_iff, kept.carried rfl, kept.carried rfl]

theorem exposures (kept : FieldKept before after) : after.stores .zoneExposure = before.stores .zoneExposure :=
  kept.rest .zoneExposure rfl

theorem fewer (kept : FieldKept before after) : Fewer before after :=
  ⟨fun _ member => kept.mem_alive.mp member, fun entity _ => congrArg (·.find entity) kept.exposures⟩

theorem fades (kept : FieldKept before after) : Fades before after :=
  fun entity held => (kept.carried rfl entity).symm.trans held

end FieldKept

theorem aliveEntities_congr (same : ∀ entity, entity ∈ aliveEntities after ↔ entity ∈ aliveEntities before) :
    aliveEntities after = aliveEntities before := by
  have distinct (world : GameWorld S) : (aliveEntities world).Nodup := (aliveEntities_ascending world).imp ne_of_lt
  have permuted := (List.perm_ext_iff_of_nodup (distinct after) (distinct before)).mpr same
  exact permuted.eq_of_pairwise (fun _ _ _ _ less greater => absurd less (lt_asymm greater))
    (aliveEntities_ascending after) (aliveEntities_ascending before)

end Basics

end BlobRoyale.Gameplay
