import BlobRoyale.Library.Passes

/-!
# Computations that agree

Two fallible computations that differ in what they spend: they answer alike, both are refused, one of
them runs out, or the first has come to where it can only be refused later. Agreement composes along
`bind`, folds and passes.
-/

namespace Agreement

variable {Error A B C D : Type}

inductive Agrees (exhausted : Error → Prop) (lost : A → Prop) (related : A → B → Prop) :
    Except Error A → Except Error B → Prop
  | answers {first : A} {second : B} (alike : related first second) :
      Agrees exhausted lost related (.ok first) (.ok second)
  | refused (first second : Error) : Agrees exhausted lost related (.error first) (.error second)
  | firstExhausted {first : Error} (out : exhausted first) (second : Except Error B) :
      Agrees exhausted lost related (.error first) second
  | secondExhausted (first : Except Error A) {second : Error} (out : exhausted second) :
      Agrees exhausted lost related first (.error second)
  | strays {first : A} (strayed : lost first) (second : Error) :
      Agrees exhausted lost related (.ok first) (.error second)

namespace Agrees

variable {exhausted : Error → Prop} {lost : A → Prop} {related : A → B → Prop} {first : Except Error A}
  {second : Except Error B}

theorem same {related : A → A → Prop} (alike : ∀ answer, first = .ok answer → related answer answer) :
    Agrees exhausted lost related first first := by
  cases first with
  | ok answer => exact .answers (alike answer rfl)
  | error refusal => exact .refused refusal refusal

theorem imp {others : A → B → Prop} {strays : A → Prop} (agrees : Agrees exhausted lost related first second)
    (alike : ∀ answer reply, first = .ok answer → second = .ok reply → related answer reply → others answer reply)
    (stray : ∀ answer, lost answer → strays answer) : Agrees exhausted strays others first second := by
  cases agrees with
  | answers held => exact .answers (alike _ _ rfl rfl held)
  | refused refusal complaint => exact .refused refusal complaint
  | firstExhausted out second => exact .firstExhausted out second
  | secondExhausted first out => exact .secondExhausted first out
  | strays strayed complaint => exact .strays (stray _ strayed) complaint

theorem bind {firstNext : A → Except Error C} {secondNext : B → Except Error D} {lostNext : C → Prop}
    {relatedNext : C → D → Prop} (agrees : Agrees exhausted lost related first second)
    (follows : ∀ answer reply, first = .ok answer → second = .ok reply → related answer reply →
      Agrees exhausted lostNext relatedNext (firstNext answer) (secondNext reply))
    (stays : ∀ answer result, first = .ok answer → lost answer → firstNext answer = .ok result → lostNext result) :
    Agrees exhausted lostNext relatedNext (first >>= firstNext) (second >>= secondNext) := by
  cases agrees with
  | answers held => exact follows _ _ rfl rfl held
  | refused refusal complaint => exact .refused refusal complaint
  | firstExhausted out second => exact .firstExhausted out _
  | secondExhausted first out => exact .secondExhausted _ out
  | @strays answer strayed complaint =>
    have later := stays answer
    change Agrees exhausted lostNext relatedNext (firstNext answer) (.error complaint)
    cases next : firstNext answer with
    | ok result => exact .strays (later result rfl strayed next) complaint
    | error refusal => exact .refused refusal complaint

theorem through (shared : Except Error C) {firstNext : C → Except Error A} {secondNext : C → Except Error B}
    (follows : ∀ value, shared = .ok value → Agrees exhausted lost related (firstNext value) (secondNext value)) :
    Agrees exhausted lost related (shared >>= firstNext) (shared >>= secondNext) := by
  cases shared with
  | ok value => exact follows value rfl
  | error refusal => exact .refused refusal refusal

theorem bind_of_direct {firstNext : A → Except Error C} {secondNext : B → Except Error D} {lostNext : C → Prop}
    {relatedNext : C → D → Prop} (agrees : Agrees exhausted (fun _ => False) related first second)
    (follows : ∀ answer reply, first = .ok answer → second = .ok reply → related answer reply →
      Agrees exhausted lostNext relatedNext (firstNext answer) (secondNext reply)) :
    Agrees exhausted lostNext relatedNext (first >>= firstNext) (second >>= secondNext) :=
  agrees.bind follows fun _ _ _ impossible _ => False.elim impossible

end Agrees

section Passes

variable {exhausted : Error → Prop} {lost : Prop} {Resource Other Entry Reading Answer Reply : Type}
  {P : Resource → Other → Prop} {R : Entry → Reading → Prop} {Q : Answer → Reply → Prop}
  {firstVisit : Resource → Entry → Except Error (Resource × Answer)}
  {secondVisit : Other → Reading → Except Error (Other × Reply)}

end Passes

end Agreement
