import BlobRoyale.Library.Occurrence
import BlobRoyale.Server.HttpSession

/-!
# The raw header check before the parser

Whether the first header section of a buffer is complete, too large or folded over lines, and what more bytes
change about the answer.
-/

namespace BlobRoyale.Server

open Occurrence

def headerSectionMaximumByteCount : Nat := 16384

def headerTerminator : List UInt8 := [13, 10, 13, 10]
def lineTerminator : List UInt8 := [13, 10]

structure HttpHeaderPreflightResult where
  status : HttpHeaderPreflightStatus
  headerByteCount : Nat
  deriving DecidableEq, Repr

theorem lineEnd_advances {bytes : List UInt8} {position lineEnd : Nat}
    (found : find bytes lineTerminator position = some lineEnd) : position < lineEnd + lineTerminator.length :=
  (find_eq_some found).1.trans_lt (Nat.lt_add_of_pos_right (by decide))

namespace HttpHeaderPreflight

/-- Whether a line break from a position on is followed by a space or a tab among the inspected bytes. -/
def foldsFrom (bufferedBytes : List UInt8) (inspectedByteCount position : Nat) : Bool :=
  match _found : find bufferedBytes lineTerminator position with
  | none => false
  | some lineEnd =>
    if _inspected : lineEnd + lineTerminator.length < inspectedByteCount then
      if bufferedBytes[lineEnd + lineTerminator.length]? = some 32 ∨
          bufferedBytes[lineEnd + lineTerminator.length]? = some 9 then
        true
      else
        foldsFrom bufferedBytes inspectedByteCount (lineEnd + lineTerminator.length)
    else
      false
termination_by inspectedByteCount - position
decreasing_by
  have advances := lineEnd_advances _found
  omega

def inspect (bufferedBytes : List UInt8) : HttpHeaderPreflightResult :=
  let terminatorOffset := find bufferedBytes headerTerminator 0
  let complete := terminatorOffset.isSome
  let headerByteCount := terminatorOffset.elim 0 (· + headerTerminator.length)
  let inspectedByteCount := if complete then headerByteCount else bufferedBytes.length
  if (complete ∧ headerSectionMaximumByteCount < headerByteCount) ∨
      (¬ complete ∧ headerSectionMaximumByteCount ≤ bufferedBytes.length) then
    ⟨.headerTooLarge, headerByteCount⟩
  else if foldsFrom bufferedBytes inspectedByteCount 0 then
    ⟨.obsoleteLineFolding, headerByteCount⟩
  else if complete then
    ⟨.ready, headerByteCount⟩
  else
    ⟨.needsMoreData, 0⟩

end HttpHeaderPreflight

/-- What an answer settles: nothing yet, the length of a section, or a rejection. -/
def HttpHeaderPreflightResult.settled (result : HttpHeaderPreflightResult) : Option (Option Nat) :=
  match result.status with
  | .needsMoreData => none
  | .ready => some (some result.headerByteCount)
  | .obsoleteLineFolding | .headerTooLarge => some none

/-- A line break of the bytes is followed by a space or a tab. -/
def Folded (bytes : List UInt8) : Prop := ∃ lineEnd, OccursAt lineTerminator bytes lineEnd ∧
  (bytes[lineEnd + lineTerminator.length]? = some 32 ∨ bytes[lineEnd + lineTerminator.length]? = some 9)

/-- The length of the section up to and including the first header terminator. -/
def SectionLength (bytes : List UInt8) (count : Nat) : Prop :=
  ∃ offset, find bytes headerTerminator 0 = some offset ∧ count = offset + headerTerminator.length

/-- The terminator's bytes a buffer does not end with yet. -/
def terminatorMissing (bytes : List UInt8) : Nat := headerTerminator.length - overlap headerTerminator bytes

/-- A buffer inspected after each piece it is delivered in, until an answer settles it. -/
def deliver (buffered : List UInt8) : List (List UInt8) → HttpHeaderPreflightResult
  | [] => HttpHeaderPreflight.inspect buffered
  | piece :: rest =>
    if (HttpHeaderPreflight.inspect buffered).status = .needsMoreData then deliver (buffered ++ piece) rest
    else HttpHeaderPreflight.inspect buffered

section Folding

variable {bytes more : List UInt8} {count position : Nat}

theorem headerTerminator_proper : headerTerminator ≠ [] := by decide

theorem lineTerminator_proper : lineTerminator ≠ [] := by decide

theorem lineEnd_next {lineEnd later : Nat} (first : OccursAt lineTerminator bytes lineEnd)
    (second : OccursAt lineTerminator bytes later) (after : lineEnd < later) :
    lineEnd + lineTerminator.length ≤ later := by
  by_contra overlaps
  have adjacent : later = lineEnd + 1 := by
    have length : lineTerminator.length = 2 := rfl
    omega
  have feed : bytes[lineEnd + 1]? = some 10 := first.getElem? (by decide)
  have break_ : bytes[later + 0]? = some 13 := second.getElem? (by decide)
  rw [adjacent, Nat.add_zero, feed] at break_
  cases break_

theorem foldsFrom_iff : HttpHeaderPreflight.foldsFrom bytes count position = true ↔
    ∃ lineEnd, position ≤ lineEnd ∧ OccursAt lineTerminator bytes lineEnd ∧
      lineEnd + lineTerminator.length < count ∧ (bytes[lineEnd + lineTerminator.length]? = some 32 ∨
        bytes[lineEnd + lineTerminator.length]? = some 9) := by
  fun_induction HttpHeaderPreflight.foldsFrom bytes count position with
  | case1 position none =>
    refine iff_of_false Bool.false_ne_true ?_
    rintro ⟨lineEnd, after, stands, -, -⟩
    exact find_eq_none none after stands
  | case2 position lineEnd found inspected folded =>
    obtain ⟨after, stands, -⟩ := find_eq_some found
    exact iff_of_true rfl ⟨lineEnd, after, stands, inspected, folded⟩
  | case3 position lineEnd found inspected straight ih =>
    obtain ⟨after, stands, missed⟩ := find_eq_some found
    rw [ih]
    constructor
    · rintro ⟨later, beyond, rest⟩
      exact ⟨later, by omega, rest⟩
    · rintro ⟨later, beyond, occurs, within, folded⟩
      refine ⟨later, ?_, occurs, within, folded⟩
      obtain before | rfl | behind := lt_trichotomy later lineEnd
      · exact absurd occurs (missed later beyond before)
      · exact absurd folded straight
      · exact lineEnd_next stands occurs behind
  | case4 position lineEnd found outside =>
    obtain ⟨after, stands, missed⟩ := find_eq_some found
    refine iff_of_false Bool.false_ne_true ?_
    rintro ⟨later, beyond, occurs, within, -⟩
    exact missed later beyond (by omega) occurs

theorem foldsFrom_zero (_bound : count ≤ bytes.length) :
    HttpHeaderPreflight.foldsFrom bytes count 0 = true ↔ Folded (bytes.take count) := by
  rw [foldsFrom_iff]
  constructor
  · rintro ⟨lineEnd, -, stands, within, folded⟩
    refine ⟨lineEnd, (occursAt_take lineTerminator_proper).mpr ⟨stands, within.le⟩, ?_⟩
    rw [List.getElem?_take_of_lt within]
    exact folded
  · rintro ⟨lineEnd, stands, folded⟩
    obtain ⟨occurs, fits⟩ := (occursAt_take lineTerminator_proper).mp stands
    have within : lineEnd + lineTerminator.length < count := by
      by_contra outside
      rw [List.getElem?_take_eq_none (by omega)] at folded
      obtain impossible | impossible := folded <;> cases impossible
    rw [List.getElem?_take_of_lt within] at folded
    exact ⟨lineEnd, Nat.zero_le _, occurs, within, folded⟩

theorem Folded.append (folded : Folded bytes) : Folded (bytes ++ more) := by
  obtain ⟨lineEnd, stands, blank⟩ := folded
  refine ⟨lineEnd, stands.append lineTerminator_proper, ?_⟩
  have inside : lineEnd + lineTerminator.length < bytes.length := by
    by_contra outside
    rw [List.getElem?_eq_none (by omega)] at blank
    obtain impossible | impossible := blank <;> cases impossible
  rw [List.getElem?_append_left inside]
  exact blank

theorem Folded.of_append (folded : Folded (bytes ++ more)) (plain : ∀ byte ∈ more, byte ≠ 32 ∧ byte ≠ 9) :
    Folded bytes := by
  obtain ⟨lineEnd, stands, blank⟩ := folded
  have inside : lineEnd + lineTerminator.length < bytes.length := by
    by_contra outside
    rw [List.getElem?_append_right (by omega)] at blank
    obtain space | tab := blank
    · exact (plain _ (List.mem_of_getElem? space)).1 rfl
    · exact (plain _ (List.mem_of_getElem? tab)).2 rfl
  rw [List.getElem?_append_left inside] at blank
  exact ⟨lineEnd, stands.of_append inside.le, blank⟩

end Folding

section Inspection

open HttpHeaderPreflight

variable {bytes more : List UInt8} {count : Nat}

theorem SectionLength.bounded (complete : SectionLength bytes count) : count ≤ bytes.length := by
  obtain ⟨offset, found, rfl⟩ := complete
  exact (find_eq_some found).2.1.within headerTerminator_proper

theorem SectionLength.append (complete : SectionLength bytes count) : SectionLength (bytes ++ more) count := by
  obtain ⟨offset, found, rfl⟩ := complete
  exact ⟨offset, find_append found headerTerminator_proper, rfl⟩

theorem inspect_complete (complete : SectionLength bytes count) :
    (headerSectionMaximumByteCount < count ∧ inspect bytes = ⟨.headerTooLarge, count⟩) ∨
    (count ≤ headerSectionMaximumByteCount ∧ Folded (bytes.take count) ∧
      inspect bytes = ⟨.obsoleteLineFolding, count⟩) ∨
    (count ≤ headerSectionMaximumByteCount ∧ ¬ Folded (bytes.take count) ∧ inspect bytes = ⟨.ready, count⟩) := by
  have folds := foldsFrom_zero complete.bounded
  obtain ⟨offset, found, rfl⟩ := complete
  unfold inspect
  rw [found]
  simp only [Option.isSome_some, Option.elim_some, if_true, true_and, not_true, false_and, or_false]
  split
  · next large => exact .inl ⟨large, rfl⟩
  · next small =>
    split
    · next folded => exact .inr (.inl ⟨not_lt.mp small, folds.mp folded, rfl⟩)
    · next straight => exact .inr (.inr ⟨not_lt.mp small, folds.not.mp straight, rfl⟩)

theorem inspect_incomplete (lacks : find bytes headerTerminator 0 = none) :
    (headerSectionMaximumByteCount ≤ bytes.length ∧ inspect bytes = ⟨.headerTooLarge, 0⟩) ∨
    (bytes.length < headerSectionMaximumByteCount ∧ Folded bytes ∧ inspect bytes = ⟨.obsoleteLineFolding, 0⟩) ∨
    (bytes.length < headerSectionMaximumByteCount ∧ ¬ Folded bytes ∧ inspect bytes = ⟨.needsMoreData, 0⟩) := by
  have folds := foldsFrom_zero (Nat.le_refl bytes.length)
  rw [List.take_length] at folds
  unfold inspect
  rw [lacks]
  simp only [Option.isSome_none, Option.elim_none, Bool.false_eq_true, if_false, not_false_eq_true, true_and,
    false_and, false_or]
  split
  · next large => exact .inl ⟨large, rfl⟩
  · next small =>
    split
    · next folded => exact .inr (.inl ⟨not_le.mp small, folds.mp folded, rfl⟩)
    · next straight => exact .inr (.inr ⟨not_le.mp small, folds.not.mp straight, rfl⟩)

theorem complete_or_lacks (bytes : List UInt8) :
    (∃ count, SectionLength bytes count) ∨ find bytes headerTerminator 0 = none := by
  cases found : find bytes headerTerminator 0 with
  | none => exact .inr rfl
  | some offset => exact .inl ⟨_, offset, found, rfl⟩

theorem inspect_eq_ready : inspect bytes = ⟨.ready, count⟩ ↔ SectionLength bytes count ∧
    count ≤ headerSectionMaximumByteCount ∧ ¬ Folded (bytes.take count) := by
  constructor
  · intro ready
    obtain ⟨length, complete⟩ | lacks := complete_or_lacks bytes
    · obtain ⟨-, answer⟩ | ⟨-, -, answer⟩ | ⟨small, straight, answer⟩ := inspect_complete complete <;>
        rw [answer] at ready <;> cases ready
      exact ⟨complete, small, straight⟩
    · obtain ⟨-, answer⟩ | ⟨-, -, answer⟩ | ⟨-, -, answer⟩ := inspect_incomplete lacks <;>
        rw [answer] at ready <;> cases ready
  · rintro ⟨complete, small, straight⟩
    obtain ⟨large, -⟩ | ⟨-, folded, -⟩ | ⟨-, -, answer⟩ := inspect_complete complete
    · exact absurd small (not_le.mpr large)
    · exact absurd folded straight
    · exact answer

theorem settled_eq_ready : (inspect bytes).settled = some (some count) ↔ inspect bytes = ⟨.ready, count⟩ := by
  constructor
  · intro settled
    generalize inspect bytes = answer at settled ⊢
    obtain ⟨status, length⟩ := answer
    cases status <;> cases settled
    rfl
  · intro ready
    rw [ready]
    rfl

theorem settled_eq_none : (inspect bytes).settled = none ↔ (inspect bytes).status = .needsMoreData := by
  generalize inspect bytes = answer
  obtain ⟨status, length⟩ := answer
  cases status <;> simp [HttpHeaderPreflightResult.settled]

theorem inspect_needsMoreData : (inspect bytes).status = .needsMoreData ↔ find bytes headerTerminator 0 = none ∧
    bytes.length < headerSectionMaximumByteCount ∧ ¬ Folded bytes := by
  constructor
  · intro waits
    obtain ⟨length, complete⟩ | lacks := complete_or_lacks bytes
    · obtain ⟨-, answer⟩ | ⟨-, -, answer⟩ | ⟨-, -, answer⟩ := inspect_complete complete <;>
        rw [answer] at waits <;> cases waits
    · obtain ⟨-, answer⟩ | ⟨-, -, answer⟩ | ⟨small, straight, -⟩ := inspect_incomplete lacks
      · rw [answer] at waits
        cases waits
      · rw [answer] at waits
        cases waits
      · exact ⟨lacks, small, straight⟩
  · rintro ⟨lacks, small, straight⟩
    obtain ⟨large, -⟩ | ⟨-, folded, -⟩ | ⟨-, -, answer⟩ := inspect_incomplete lacks
    · exact absurd small (not_lt.mpr large)
    · exact absurd folded straight
    · rw [answer]

theorem inspect_ready_append (ready : inspect bytes = ⟨.ready, count⟩) :
    inspect (bytes ++ more) = ⟨.ready, count⟩ := by
  obtain ⟨complete, small, straight⟩ := inspect_eq_ready.mp ready
  refine inspect_eq_ready.mpr ⟨complete.append, small, ?_⟩
  rw [List.take_append_of_le_length complete.bounded]
  exact straight

theorem SectionLength.beyond (complete : SectionLength (bytes ++ more) count)
    (lacks : find bytes headerTerminator 0 = none) :
    bytes.length + terminatorMissing bytes ≤ count ∧ bytes.length < count := by
  obtain ⟨offset, found, rfl⟩ := complete
  have absent : ∀ position, ¬ OccursAt headerTerminator bytes position :=
    fun position => find_eq_none lacks (Nat.zero_le position)
  have stands := (find_eq_some found).2.1
  refine ⟨stands.overlap_bound absent, ?_⟩
  by_contra inside
  exact absent offset (stands.of_append (not_lt.mp inside))

theorem settled_eq_rejected : (inspect bytes).settled = some none ↔
    (∃ count, SectionLength bytes count ∧
      (headerSectionMaximumByteCount < count ∨ Folded (bytes.take count))) ∨
    (find bytes headerTerminator 0 = none ∧ (headerSectionMaximumByteCount ≤ bytes.length ∨ Folded bytes)) := by
  obtain ⟨length, complete⟩ | lacks := complete_or_lacks bytes
  · obtain ⟨offset, found, is⟩ := id complete
    rw [found, or_iff_left fun absurd => by cases absurd.1]
    have same : ∀ count, SectionLength bytes count → count = length := by
      rintro count ⟨other, again, rfl⟩
      rw [is, Option.some.inj (found.symm.trans again)]
    obtain ⟨large, answer⟩ | ⟨-, folded, answer⟩ | ⟨small, straight, answer⟩ := inspect_complete complete
    · exact iff_of_true (by rw [answer]; rfl) ⟨length, complete, .inl large⟩
    · exact iff_of_true (by rw [answer]; rfl) ⟨length, complete, .inr folded⟩
    · refine iff_of_false (by rw [answer]; exact fun settled => by cases settled) ?_
      rintro ⟨count, section_, reason⟩
      rw [same count section_] at reason
      exact reason.elim (not_lt.mpr small) straight
  · have incomplete : ¬ ∃ count, SectionLength bytes count ∧
        (headerSectionMaximumByteCount < count ∨ Folded (bytes.take count)) := by
      rintro ⟨count, ⟨offset, found, -⟩, -⟩
      rw [lacks] at found
      cases found
    rw [or_iff_right incomplete, and_iff_right lacks]
    obtain ⟨large, answer⟩ | ⟨-, folded, answer⟩ | ⟨small, straight, answer⟩ := inspect_incomplete lacks
    · exact iff_of_true (by rw [answer]; rfl) (.inl large)
    · exact iff_of_true (by rw [answer]; rfl) (.inr folded)
    · exact iff_of_false (by rw [answer]; exact fun settled => by cases settled)
        (not_or.mpr ⟨not_le.mpr small, straight⟩)

theorem rejected_append (rejected : (inspect bytes).settled = some none) :
    (inspect (bytes ++ more)).settled = some none := by
  rw [settled_eq_rejected] at rejected ⊢
  obtain ⟨count, complete, reason⟩ | ⟨lacks, reason⟩ := rejected
  · refine .inl ⟨count, complete.append, ?_⟩
    rw [List.take_append_of_le_length complete.bounded]
    exact reason
  · obtain ⟨count, complete⟩ | still := complete_or_lacks (bytes ++ more)
    · have beyond := (complete.beyond lacks).2
      refine .inl ⟨count, complete, reason.imp (fun large => large.trans_lt beyond) fun folded => ?_⟩
      rw [List.take_append, List.take_of_length_le beyond.le]
      exact folded.append
    · refine .inr ⟨still, reason.imp (fun large => large.trans ?_) Folded.append⟩
      rw [List.length_append]
      exact Nat.le_add_right _ _

/-- A buffer that waits becomes ready by some bytes exactly when the rest of its terminator still fits. -/
theorem ready_extension (waits : (inspect bytes).status = .needsMoreData) :
    (∃ more, (inspect (bytes ++ more)).status = .ready) ↔
      bytes.length + terminatorMissing bytes ≤ headerSectionMaximumByteCount := by
  obtain ⟨lacks, -, straight⟩ := inspect_needsMoreData.mp waits
  constructor
  · rintro ⟨more, ready⟩
    have answer : inspect (bytes ++ more) = ⟨.ready, (inspect (bytes ++ more)).headerByteCount⟩ := by rw [← ready]
    obtain ⟨complete, small, -⟩ := inspect_eq_ready.mp answer
    exact (complete.beyond lacks).1.trans small
  · intro fits
    have absent : ∀ position, ¬ OccursAt headerTerminator bytes position :=
      fun position => find_eq_none lacks (Nat.zero_le position)
    have bound := overlap_le headerTerminator bytes
    have ends := (overlap_suffix headerTerminator bytes).length_le
    rw [List.length_take, min_eq_left bound] at ends
    have complete : SectionLength (bytes ++ headerTerminator.drop (overlap headerTerminator bytes))
        (bytes.length + terminatorMissing bytes) := by
      refine ⟨_, find_completion absent, ?_⟩
      unfold terminatorMissing
      omega
    refine ⟨headerTerminator.drop (overlap headerTerminator bytes), ?_⟩
    have length : (bytes ++ headerTerminator.drop (overlap headerTerminator bytes)).length =
        bytes.length + terminatorMissing bytes := by
      rw [List.length_append, List.length_drop, terminatorMissing]
    rw [inspect_eq_ready.mpr ⟨complete, fits, ?_⟩]
    rw [List.take_of_length_le length.le]
    refine fun folded => straight (folded.of_append fun byte member => ?_)
    have plain : ∀ byte ∈ headerTerminator, byte ≠ 32 ∧ byte ≠ 9 := by simp [headerTerminator]
    exact plain byte (List.mem_of_mem_drop member)

theorem waits_of_ready_extension (unready : (inspect bytes).status ≠ .ready)
    (ready : (inspect (bytes ++ more)).status = .ready) : (inspect bytes).status = .needsMoreData := by
  by_contra settled
  have rejected : (inspect bytes).settled = some none := by
    unfold HttpHeaderPreflightResult.settled
    revert unready settled
    cases (inspect bytes).status <;> simp
  have still := @rejected_append bytes more rejected
  unfold HttpHeaderPreflightResult.settled at still
  rw [ready] at still
  cases still

theorem settled_append {outcome : Option Nat} (settled : (inspect bytes).settled = some outcome) :
    (inspect (bytes ++ more)).settled = some outcome := by
  cases outcome with
  | none => exact rejected_append settled
  | some count => exact settled_eq_ready.mpr (inspect_ready_append (settled_eq_ready.mp settled))

theorem deliver_settled (pieces : List (List UInt8)) : ∀ buffered,
    (deliver buffered pieces).settled = (inspect (buffered ++ pieces.flatten)).settled := by
  induction pieces with
  | nil =>
    intro buffered
    rw [List.flatten_nil, List.append_nil]
    rfl
  | cons piece rest ih =>
    intro buffered
    rw [deliver]
    split
    · rw [ih, List.flatten_cons, List.append_assoc]
    · next settled =>
      rw [← settled_eq_none] at settled
      obtain ⟨outcome, is⟩ := Option.ne_none_iff_exists'.mp settled
      rw [is, settled_append is]

end Inspection

section Claims

open HttpHeaderPreflight

/-- The check is the same however the bytes arrive. A rejection is final; a buffer is ready exactly when its first
section is complete, fits and is not folded, with that section's length whatever follows; a buffer waits exactly
when nothing is settled, and more bytes can make it ready exactly when the rest of its terminator fits. -/
theorem inspect_splits (bytes : List UInt8) :
    (∀ more, (inspect bytes).settled = some none → (inspect (bytes ++ more)).settled = some none) ∧
    (∀ count, inspect bytes = ⟨.ready, count⟩ ↔ SectionLength bytes count ∧
      count ≤ headerSectionMaximumByteCount ∧ ¬ Folded (bytes.take count)) ∧
    (∀ count more, inspect bytes = ⟨.ready, count⟩ → inspect (bytes ++ more) = ⟨.ready, count⟩) ∧
    (((inspect bytes).status ≠ .ready ∧ ∃ more, (inspect (bytes ++ more)).status = .ready) ↔
      (inspect bytes).status = .needsMoreData ∧
        bytes.length + terminatorMissing bytes ≤ headerSectionMaximumByteCount) ∧
    (∀ pieces, pieces.flatten = bytes → (deliver [] pieces).settled = (inspect bytes).settled) := by
  refine ⟨fun more => rejected_append, fun count => inspect_eq_ready, fun count more => inspect_ready_append, ?_, ?_⟩
  · constructor
    · rintro ⟨unready, more, ready⟩
      have waits := waits_of_ready_extension unready ready
      exact ⟨waits, (ready_extension waits).mp ⟨more, ready⟩⟩
    · rintro ⟨waits, fits⟩
      exact ⟨by rw [waits]; decide, (ready_extension waits).mpr fits⟩
  · rintro pieces rfl
    exact deliver_settled pieces []

theorem plain_lacks {pattern : List UInt8} (begins : pattern.head? = some 13) (count : Nat) {size : Nat}
    (nonempty : 0 < size) : ¬ pattern.take size <:+: List.replicate count 97 := by
  intro part
  cases pattern with
  | nil => cases begins
  | cons byte rest =>
    cases begins
    have member : 13 ∈ (13 :: rest).take size := by
      obtain ⟨size, rfl⟩ := Nat.exists_eq_add_one_of_ne_zero nonempty.ne'
      exact List.mem_cons_self
    cases List.eq_of_mem_replicate (part.subset member)

/-- One byte below the maximum and no part of a terminator: the answer waits for what cannot come. -/
theorem inspect_waits_in_vain :
    (inspect (List.replicate (headerSectionMaximumByteCount - 1) 97)).status = .needsMoreData ∧
    ∀ more, (inspect (List.replicate (headerSectionMaximumByteCount - 1) 97 ++ more)).status ≠ .ready := by
  have plain : ∀ {pattern : List UInt8} {position : Nat}, pattern.head? = some 13 →
      ¬ OccursAt pattern (List.replicate (headerSectionMaximumByteCount - 1) 97) position := by
    intro pattern position begins occurs
    refine plain_lacks begins (headerSectionMaximumByteCount - 1) (show 0 < pattern.length from ?_) ?_
    · cases pattern with
      | nil => cases begins
      | cons byte rest => exact Nat.succ_pos _
    · rw [List.take_length]
      exact occurs.isInfix.trans (List.drop_suffix _ _).isInfix
  have waits : (inspect (List.replicate (headerSectionMaximumByteCount - 1) 97)).status = .needsMoreData := by
    refine inspect_needsMoreData.mpr ⟨?_, ?_, ?_⟩
    · cases found : find (List.replicate (headerSectionMaximumByteCount - 1) 97) headerTerminator 0 with
      | none => rfl
      | some offset => exact absurd (find_eq_some found).2.1 (plain rfl)
    · rw [List.length_replicate]
      decide
    · rintro ⟨lineEnd, stands, -⟩
      exact plain rfl stands
  refine ⟨waits, fun more ready => ?_⟩
  have fits := (ready_extension waits).mp ⟨more, ready⟩
  have apart : overlap headerTerminator (List.replicate (headerSectionMaximumByteCount - 1) 97) = 0 := by
    by_contra some_
    exact plain_lacks rfl _ (Nat.pos_of_ne_zero some_) (overlap_suffix _ _).isInfix
  rw [terminatorMissing, apart, List.length_replicate] at fits
  exact absurd fits (by decide)

end Claims

end BlobRoyale.Server
