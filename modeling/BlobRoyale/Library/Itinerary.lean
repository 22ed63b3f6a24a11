import Mathlib.Data.List.Chain
import Mathlib.Order.Lattice

/-!
# Itineraries

Legs one after the other, each departing from the point where the one before it arrived. Where the points carry
a time, the legs leave no instant between the first departure and the last arrival to chance.
-/

namespace Itinerary

variable {L P T : Type*} {departure arrival : L → P} {origin goal : P} {legs : List L} {leg : L}

inductive Leads (departure arrival : L → P) : P → List L → P → Prop
  | stay (point : P) : Leads departure arrival point [] point
  | go (leg : L) {legs : List L} {goal : P} (onward : Leads departure arrival (arrival leg) legs goal) :
      Leads departure arrival (departure leg) (leg :: legs) goal

theorem Leads.concat (leads : Leads departure arrival origin legs (departure leg)) :
    Leads departure arrival origin (legs ++ [leg]) (arrival leg) := by
  generalize reached : departure leg = point at leads
  induction leads with
  | stay point =>
    subst reached
    exact .go leg (.stay _)
  | go first _ ih => exact .go first (ih reached)

theorem Leads.departs (leads : Leads departure arrival origin legs goal) (first : legs.head? = some leg) :
    departure leg = origin := by
  cases leads with
  | stay => cases first
  | go => rw [Option.some.inj first]

theorem Leads.stays (leads : Leads departure arrival origin [] goal) : goal = origin := by
  cases leads
  rfl

theorem Leads.arrives (leads : Leads departure arrival origin legs goal) (last : legs.getLast? = some leg) :
    arrival leg = goal := by
  induction leads with
  | stay => cases last
  | @go first legs goal onward ih =>
    cases legs with
    | nil =>
      have same : first = leg := Option.some.inj last
      rw [← same, onward.stays]
    | cons next further =>
      rw [List.getLast?_cons_cons] at last
      exact ih last

theorem Leads.chain (leads : Leads departure arrival origin legs goal) :
    legs.IsChain fun before after => departure after = arrival before := by
  induction leads with
  | stay => exact .nil
  | @go first legs goal onward ih =>
    cases legs with
    | nil => exact .singleton first
    | cons next further => exact .cons_cons (onward.departs rfl) ih

theorem Leads.covers [LinearOrder T] (clock : P → T) (leads : Leads departure arrival origin legs goal) {time : T}
    (begun : clock origin ≤ time) (before : time < clock goal) :
    ∃ leg ∈ legs, clock (departure leg) ≤ time ∧ time < clock (arrival leg) := by
  induction leads with
  | stay => exact absurd before (not_lt.mpr begun)
  | go first onward ih =>
    obtain here | later := lt_or_ge time (clock (arrival first))
    · exact ⟨first, List.mem_cons_self, begun, here⟩
    · obtain ⟨leg, member, within⟩ := ih later before
      exact ⟨leg, List.mem_cons_of_mem _ member, within⟩

end Itinerary
