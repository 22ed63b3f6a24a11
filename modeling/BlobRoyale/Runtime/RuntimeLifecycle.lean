import BlobRoyale.Library.Transition

/-!
# The runtime's lifecycle

The worker and the callers of `start`, `pause` and `stop`, one critical section a step. The callers take turns, so
one operation at most is under way. A caller is woken when its condition holds, the worker too.
-/

namespace BlobRoyale.Runtime

inductive SimulationRuntimeState where
  | ready
  | running
  | pausing
  | paused
  | stopping
  | stopped
  | failed
  deriving DecidableEq, Repr

/-- Where the worker stands: in its outer wait, inside a tick, past it and before the lock, asleep until the next
deadline, or returned. -/
inductive WorkerPlace where
  | waiting
  | stepping
  | stepped
  | sleeping
  | finished
  deriving DecidableEq, Repr

/-- An operation that has the transition lock and waits: for `pausing` to end, or for the worker to return. -/
inductive LifecycleOperation where
  | starting
  | pausing
  | stopping
  deriving DecidableEq, Repr

/-- The runtime, as far as its lifecycle goes. Ticks are told by their numbers. -/
structure RuntimeLifecycle (E : Type) where
  lifecycleState : SimulationRuntimeState
  isReady : Bool
  published : Nat
  committed : Nat
  workerFailure : Option E
  workerJoined : Bool
  stopRequested : Bool
  worker : WorkerPlace
  operation : Option LifecycleOperation
  deriving DecidableEq

inductive LifecycleEvent (E : Type) where
  | start
  | startEntered
  | pause
  | pauseEnded
  | stop
  | stopJoined
  | workerWoken
  | tickCommitted
  | tickPublished
  | tickFailed (failure : E)
  | workerRoused

namespace RuntimeLifecycle

variable {E : Type}

def initial : RuntimeLifecycle E := ⟨.ready, false, 0, 0, none, false, false, .waiting, none⟩

/-- `transition_to_running`, once nothing is pausing: a failure is rethrown and a stopped runtime refused. -/
def enterRunning (runtime : RuntimeLifecycle E) : RuntimeLifecycle E :=
  if runtime.workerFailure.isSome then { runtime with operation := none }
  else if runtime.lifecycleState = .stopped ∨ runtime.lifecycleState = .stopping then { runtime with operation := none }
  else { runtime with lifecycleState := .running, operation := none }

/-- `pause`, up to its wait. -/
def beginPause (runtime : RuntimeLifecycle E) : RuntimeLifecycle E :=
  if runtime.workerFailure.isSome then runtime
  else match runtime.lifecycleState with
    | .ready => { runtime with isReady := false, lifecycleState := .paused }
    | .paused | .stopped | .stopping => runtime
    | .running => { runtime with lifecycleState := .pausing, operation := some .pausing }
    | .pausing | .failed => { runtime with operation := some .pausing }

/-- `stop`, up to its join. -/
def beginStop (runtime : RuntimeLifecycle E) : RuntimeLifecycle E :=
  if runtime.workerJoined then runtime
  else
    { runtime with
      isReady := false
      lifecycleState := if runtime.lifecycleState = .failed then .failed else .stopping
      stopRequested := true
      operation := some .stopping }

def endStop (runtime : RuntimeLifecycle E) : RuntimeLifecycle E :=
  { runtime with
    workerJoined := true
    lifecycleState := if runtime.lifecycleState = .failed then .failed else .stopped
    operation := none }

def wake (runtime : RuntimeLifecycle E) : RuntimeLifecycle E :=
  if runtime.stopRequested ∨ runtime.lifecycleState = .stopping then { runtime with worker := .finished }
  else { runtime with worker := .stepping }

/-- The tick committed is published, unless the runtime is stopping. -/
def publish (runtime : RuntimeLifecycle E) : RuntimeLifecycle E :=
  if runtime.stopRequested ∨ runtime.lifecycleState = .stopping then { runtime with worker := .finished }
  else if runtime.lifecycleState = .pausing then
    { runtime with published := runtime.committed, isReady := false, lifecycleState := .paused, worker := .waiting }
  else { runtime with published := runtime.committed, isReady := true, worker := .sleeping }

def fail (failure : E) (runtime : RuntimeLifecycle E) : RuntimeLifecycle E :=
  { runtime with isReady := false, workerFailure := some failure, lifecycleState := .failed, worker := .finished }

/-- The worker's deadline passes or the state changes. -/
def rouse (runtime : RuntimeLifecycle E) : RuntimeLifecycle E :=
  let noticed := if runtime.lifecycleState = .pausing then { runtime with isReady := false, lifecycleState := .paused }
    else runtime
  if noticed.stopRequested then { noticed with worker := .finished }
  else if noticed.lifecycleState = .running then { noticed with worker := .stepping }
  else { noticed with worker := .waiting }

def step (runtime : RuntimeLifecycle E) : LifecycleEvent E → Option (RuntimeLifecycle E)
  | .start => if runtime.operation = none then some { runtime with operation := some .starting } else none
  | .startEntered =>
      if runtime.operation = some .starting ∧ runtime.lifecycleState ≠ .pausing then some runtime.enterRunning else none
  | .pause => if runtime.operation = none then some runtime.beginPause else none
  | .pauseEnded =>
      if runtime.operation = some .pausing ∧ runtime.lifecycleState ≠ .pausing ∧ runtime.lifecycleState ≠ .stopping then
        some { runtime with operation := none }
      else none
  | .stop => if runtime.operation = none then some runtime.beginStop else none
  | .stopJoined =>
      if runtime.operation = some .stopping ∧ runtime.worker = .finished then some runtime.endStop else none
  | .workerWoken =>
      if runtime.worker = .waiting ∧ (runtime.stopRequested ∨ runtime.lifecycleState = .running ∨
          runtime.lifecycleState = .stopping) then some runtime.wake
      else none
  | .tickCommitted =>
      if runtime.worker = .stepping then some { runtime with committed := runtime.committed + 1, worker := .stepped }
      else none
  | .tickPublished => if runtime.worker = .stepped then some runtime.publish else none
  | .tickFailed failure =>
      if runtime.worker = .stepping ∨ runtime.worker = .stepped then some (runtime.fail failure) else none
  | .workerRoused => if runtime.worker = .sleeping then some runtime.rouse else none

/-- What a critical section needs of the state it is entered in, and what it leaves. -/
inductive Effect (runtime : RuntimeLifecycle E) : LifecycleEvent E → RuntimeLifecycle E → Prop where
  | start (free : runtime.operation = none) : Effect runtime .start { runtime with operation := some .starting }
  | startEntered (begun : runtime.operation = some .starting) (settled : runtime.lifecycleState ≠ .pausing) :
      Effect runtime .startEntered runtime.enterRunning
  | pause (free : runtime.operation = none) : Effect runtime .pause runtime.beginPause
  | pauseEnded (held : runtime.operation = some .pausing) (settled : runtime.lifecycleState ≠ .pausing)
      (going : runtime.lifecycleState ≠ .stopping) : Effect runtime .pauseEnded { runtime with operation := none }
  | stop (free : runtime.operation = none) : Effect runtime .stop runtime.beginStop
  | stopJoined (held : runtime.operation = some .stopping) (returned : runtime.worker = .finished) :
      Effect runtime .stopJoined runtime.endStop
  | workerWoken (waiting : runtime.worker = .waiting) (woken : runtime.stopRequested = true ∨
        runtime.lifecycleState = .running ∨ runtime.lifecycleState = .stopping) :
      Effect runtime .workerWoken runtime.wake
  | tickCommitted (stepping : runtime.worker = .stepping) :
      Effect runtime .tickCommitted { runtime with committed := runtime.committed + 1, worker := .stepped }
  | tickPublished (stepped : runtime.worker = .stepped) : Effect runtime .tickPublished runtime.publish
  | tickFailed (ticking : runtime.worker = .stepping ∨ runtime.worker = .stepped) (failure : E) :
      Effect runtime (.tickFailed failure) (runtime.fail failure)
  | workerRoused (sleeping : runtime.worker = .sleeping) : Effect runtime .workerRoused runtime.rouse

theorem step_effect {runtime next : RuntimeLifecycle E} {event : LifecycleEvent E}
    (stepped : runtime.step event = some next) : runtime.Effect event next := by
  cases event with
  | start | pause | stop | tickCommitted | tickPublished | tickFailed | workerRoused =>
    obtain ⟨enabled, ⟨⟩⟩ := Option.ite_none_right_eq_some.mp stepped
    constructor
    exact enabled
  | startEntered | stopJoined | workerWoken =>
    obtain ⟨⟨place, rest⟩, ⟨⟩⟩ := Option.ite_none_right_eq_some.mp stepped
    constructor
    · exact place
    · exact rest
  | pauseEnded =>
    obtain ⟨⟨held, settled, going⟩, ⟨⟩⟩ := Option.ite_none_right_eq_some.mp stepped
    exact .pauseEnded held settled going

/-- What holds between any two critical sections. -/
structure Sound (runtime : RuntimeLifecycle E) : Prop where
  quiescent : runtime.lifecycleState = .ready ∨ runtime.lifecycleState = .paused →
    runtime.worker = .waiting ∧ runtime.isReady = false
  active : runtime.isReady = true →
    (runtime.lifecycleState = .running ∨ runtime.lifecycleState = .pausing) ∧ 1 ≤ runtime.published
  failure : runtime.workerFailure.isSome = true ↔ runtime.lifecycleState = .failed
  failed : runtime.lifecycleState = .failed → runtime.worker = .finished
  finished : runtime.worker = .finished → runtime.lifecycleState = .stopping ∨ runtime.lifecycleState = .stopped ∨
    runtime.lifecycleState = .failed
  pausing : runtime.lifecycleState = .pausing → runtime.operation = some .pausing
  pauses : runtime.operation = some .pausing → runtime.lifecycleState = .pausing ∨ runtime.lifecycleState = .paused ∨
    runtime.lifecycleState = .failed
  stopping : runtime.lifecycleState = .stopping → runtime.operation = some .stopping
  stops : runtime.operation = some .stopping → runtime.stopRequested = true
  requested : runtime.stopRequested = true → runtime.lifecycleState = .stopping ∨ runtime.lifecycleState = .stopped ∨
    runtime.lifecycleState = .failed
  stopped : runtime.lifecycleState = .stopped → runtime.worker = .finished ∧ runtime.workerJoined = true
  joined : runtime.workerJoined = true → runtime.worker = .finished
  numbered : runtime.committed = runtime.published + 1 ∨ runtime.committed = runtime.published
  caught : runtime.worker ≠ .stepped → runtime.worker ≠ .finished → runtime.committed = runtime.published
  uncaught : runtime.worker = .stepped → runtime.committed = runtime.published + 1

theorem sound_initial : (initial : RuntimeLifecycle E).Sound := by
  constructor <;> simp [initial]

section Operations

variable {runtime next : RuntimeLifecycle E}

/-- A stop leaves no pause pending. -/
theorem Sound.unstopped (sound : runtime.Sound) (pausing : runtime.lifecycleState = .pausing) :
    runtime.stopRequested = false := by
  cases requested : runtime.stopRequested with
  | false => rfl
  | true => grind [sound.requested requested]

theorem Sound.ends (sound : runtime.Sound) (settled : runtime.lifecycleState ≠ .pausing)
    (going : runtime.lifecycleState ≠ .stopping) : Sound { runtime with operation := none } := by
  cases sound
  constructor <;> grind

theorem Sound.returns (sound : runtime.Sound)
    (asked : runtime.stopRequested = true ∨ runtime.lifecycleState = .stopping) :
    Sound { runtime with worker := .finished } := by
  cases sound
  constructor <;> grind

theorem Sound.begins (sound : runtime.Sound) (idle : runtime.worker = .waiting ∨ runtime.worker = .sleeping)
    (running : runtime.lifecycleState = .running) : Sound { runtime with worker := .stepping } := by
  cases sound
  constructor <;> grind

theorem Sound.enterRunning (sound : runtime.Sound) (begun : runtime.operation = some .starting)
    (settled : runtime.lifecycleState ≠ .pausing) : runtime.enterRunning.Sound := by
  have going : runtime.lifecycleState ≠ .stopping := by grind [sound.stopping]
  unfold RuntimeLifecycle.enterRunning
  split
  · exact sound.ends settled going
  · split
    · exact sound.ends settled going
    · cases sound
      constructor <;> grind

theorem Sound.beginPause (sound : runtime.Sound) (free : runtime.operation = none) : runtime.beginPause.Sound := by
  unfold RuntimeLifecycle.beginPause
  split
  · exact sound
  · split
    · cases sound
      constructor <;> grind
    · exact sound
    · exact sound
    · exact sound
    · cases sound
      constructor <;> grind
    · next pausing => grind [sound.pausing pausing]
    · next failed => grind [sound.failure.mpr failed]

theorem Sound.beginStop (sound : runtime.Sound) (free : runtime.operation = none) : runtime.beginStop.Sound := by
  unfold RuntimeLifecycle.beginStop
  split
  · exact sound
  · cases sound
    constructor <;> grind

theorem Sound.endStop (sound : runtime.Sound) (returned : runtime.worker = .finished) : runtime.endStop.Sound := by
  cases sound
  unfold RuntimeLifecycle.endStop
  constructor <;> grind

theorem Sound.wake (sound : runtime.Sound) (waiting : runtime.worker = .waiting)
    (woken : runtime.stopRequested = true ∨ runtime.lifecycleState = .running ∨ runtime.lifecycleState = .stopping) :
    runtime.wake.Sound := by
  unfold RuntimeLifecycle.wake
  split
  · next asked => exact sound.returns asked
  · next unasked => exact sound.begins (.inl waiting) (by grind)

theorem Sound.publish (sound : runtime.Sound) (stepped : runtime.worker = .stepped) : runtime.publish.Sound := by
  unfold RuntimeLifecycle.publish
  split
  · next asked => exact sound.returns asked
  · split
    · cases sound
      constructor <;> grind
    · next going unpaused =>
      have running : runtime.lifecycleState = .running := by
        cases sound
        cases state : runtime.lifecycleState <;> grind
      cases sound
      constructor <;> grind

theorem Sound.fail (sound : runtime.Sound) (ticking : runtime.worker = .stepping ∨ runtime.worker = .stepped)
    (failure : E) : (runtime.fail failure).Sound := by
  cases sound
  unfold RuntimeLifecycle.fail
  constructor <;> grind

theorem Sound.rouse (sound : runtime.Sound) (sleeping : runtime.worker = .sleeping) : runtime.rouse.Sound := by
  unfold RuntimeLifecycle.rouse
  by_cases pausing : runtime.lifecycleState = .pausing
  · have unstopped : runtime.stopRequested = false := sound.unstopped pausing
    simp only [pausing, if_true, unstopped, Bool.false_eq_true, if_false, reduceCtorEq]
    cases sound
    constructor <;> grind
  · simp only [pausing, if_false]
    split
    · next asked => exact sound.returns (.inl asked)
    · split
      · next running => exact sound.begins (.inr sleeping) running
      · cases sound
        constructor <;> grind

theorem Sound.step (sound : runtime.Sound) {event : LifecycleEvent E} (stepped : runtime.step event = some next) :
    next.Sound := by
  cases step_effect stepped with
  | start free =>
    cases sound
    constructor <;> grind
  | startEntered begun settled => exact sound.enterRunning begun settled
  | pause free => exact sound.beginPause free
  | pauseEnded held settled going => exact sound.ends settled going
  | stop free => exact sound.beginStop free
  | stopJoined held returned => exact sound.endStop returned
  | workerWoken waiting woken => exact sound.wake waiting woken
  | tickCommitted stepping =>
    cases sound
    constructor <;> grind
  | tickPublished place => exact sound.publish place
  | tickFailed ticking failure => exact sound.fail ticking failure
  | workerRoused sleeping => exact sound.rouse sleeping

/-- The simulation is where the last published snapshot left it, and stays there. -/
structure Resting (runtime : RuntimeLifecycle E) : Prop where
  worker : runtime.worker = .waiting ∨ runtime.worker = .finished
  state : runtime.lifecycleState ≠ .running ∧ runtime.lifecycleState ≠ .pausing
  unready : runtime.isReady = false

theorem Sound.resting_of_quiescent (sound : runtime.Sound)
    (quiescent : runtime.lifecycleState = .ready ∨ runtime.lifecycleState = .paused) : runtime.Resting := by
  obtain ⟨waiting, unready⟩ := sound.quiescent quiescent
  exact ⟨.inl waiting, by grind, unready⟩

theorem Resting.step (resting : runtime.Resting) {event : LifecycleEvent E} (stepped : runtime.step event = some next)
    (unstarted : event ≠ .startEntered) :
    next.Resting ∧ next.published = runtime.published ∧ next.committed = runtime.committed := by
  obtain ⟨worker, state, unready⟩ := resting
  cases step_effect stepped with
  | start free => exact ⟨⟨worker, state, unready⟩, rfl, rfl⟩
  | startEntered begun settled => exact absurd rfl unstarted
  | pause free =>
    refine ⟨?_, by grind [RuntimeLifecycle.beginPause], by grind [RuntimeLifecycle.beginPause]⟩
    constructor <;> grind [RuntimeLifecycle.beginPause]
  | pauseEnded held settled going => exact ⟨⟨worker, state, unready⟩, rfl, rfl⟩
  | stop free =>
    refine ⟨?_, by grind [RuntimeLifecycle.beginStop], by grind [RuntimeLifecycle.beginStop]⟩
    constructor <;> grind [RuntimeLifecycle.beginStop]
  | stopJoined held returned =>
    refine ⟨?_, rfl, rfl⟩
    constructor <;> grind [RuntimeLifecycle.endStop]
  | workerWoken waiting woken =>
    have stopping : runtime.wake = { runtime with worker := .finished } := if_pos (by grind)
    rw [stopping]
    exact ⟨⟨.inr rfl, state, unready⟩, rfl, rfl⟩
  -- a worker at rest is nowhere in a tick, and does not sleep
  | tickCommitted place | tickPublished place | tickFailed place | workerRoused place => grind

theorem Sound.ended_step (sound : runtime.Sound)
    (ended : runtime.lifecycleState = .failed ∨ runtime.lifecycleState = .stopped) {event : LifecycleEvent E}
    (stepped : runtime.step event = some next) :
    next.lifecycleState = runtime.lifecycleState ∧ next.workerFailure = runtime.workerFailure ∧
      next.published = runtime.published ∧ next.committed = runtime.committed := by
  have finished : runtime.worker = .finished := ended.elim sound.failed fun stopped => (sound.stopped stopped).1
  have recorded : runtime.lifecycleState = .failed → runtime.workerFailure.isSome = true := sound.failure.mpr
  have joined : runtime.lifecycleState = .stopped → runtime.workerJoined = true :=
    fun stopped => (sound.stopped stopped).2
  cases step_effect stepped with
  | start | pauseEnded => exact ⟨rfl, rfl, rfl, rfl⟩
  | startEntered begun settled => grind [RuntimeLifecycle.enterRunning]
  | pause free => grind [RuntimeLifecycle.beginPause]
  | stop free => grind [RuntimeLifecycle.beginStop]
  | stopJoined held returned => grind [RuntimeLifecycle.endStop]
  | workerWoken place | tickCommitted place | tickPublished place | tickFailed place | workerRoused place => grind

/-- No event is enabled exactly where a pause waits for a worker that has not left its outer wait. -/
theorem Sound.stuck_iff (sound : runtime.Sound) :
    (∀ event, runtime.step event = none) ↔ runtime.lifecycleState = .pausing ∧ runtime.worker = .waiting := by
  constructor
  · intro stuck
    have disabled {P : Prop} [Decidable P] {after : RuntimeLifecycle E} (refused : (if P then some after else none) = none) :
        ¬ P := fun holds => Option.some_ne_none _ ((if_pos holds).symm.trans refused)
    have unticked : runtime.worker ≠ .stepping ∧ runtime.worker ≠ .stepped ∧ runtime.worker ≠ .sleeping :=
      ⟨disabled (stuck .tickCommitted), disabled (stuck .tickPublished), disabled (stuck .workerRoused)⟩
    have unwoken := disabled (stuck .workerWoken)
    cases operation : runtime.operation with
    | none => exact absurd operation (disabled (stuck .start))
    | some held =>
      cases held with
      | starting =>
        have begun := disabled (stuck .startEntered)
        grind [sound.pausing]
      | pausing =>
        have ended := disabled (stuck .pauseEnded)
        have pausing : runtime.lifecycleState = .pausing := by grind [sound.pauses operation]
        have unfinished : runtime.worker ≠ .finished := by grind [sound.finished]
        exact ⟨pausing, by cases worker : runtime.worker <;> grind⟩
      | stopping =>
        have joined := disabled (stuck .stopJoined)
        have requested : runtime.stopRequested = true := sound.stops operation
        cases worker : runtime.worker <;> grind
  · rintro ⟨pausing, waiting⟩ event
    have held : runtime.operation = some .pausing := sound.pausing pausing
    have unstopped : runtime.stopRequested = false := sound.unstopped pausing
    cases event <;> simp [RuntimeLifecycle.step, held, pausing, waiting, unstopped]

theorem Sound.pause_step (sound : runtime.Sound) (pausing : runtime.lifecycleState = .pausing)
    {event : LifecycleEvent E} (stepped : runtime.step event = some next) :
    (runtime.worker = .stepping ∧ next.lifecycleState = .pausing ∧ next.worker = .stepped) ∨
      next.lifecycleState = .paused ∨ next.lifecycleState = .failed := by
  have held : runtime.operation = some .pausing := sound.pausing pausing
  have unstopped : runtime.stopRequested = false := sound.unstopped pausing
  cases step_effect stepped with
  | start | startEntered | pause | pauseEnded | stop | stopJoined | workerWoken => grind
  | tickCommitted stepping => exact .inl ⟨stepping, pausing, rfl⟩
  | tickPublished place => grind [RuntimeLifecycle.publish]
  | tickFailed ticking failure => exact .inr (.inr rfl)
  | workerRoused sleeping => grind [RuntimeLifecycle.rouse]

end Operations

/-- One critical section, between the state before it and the state after. -/
def Moves (before : RuntimeLifecycle E) (event : LifecycleEvent E) (after : RuntimeLifecycle E) : Prop :=
  before.step event = some after

section Runs

variable {length : Nat} (run : Transition.Run (Moves (E := E)) length)

theorem run_sound (starts : run.state 0 = initial) :
    ∀ position, position ≤ length → (run.state position).Sound :=
  run.invariant (starts ▸ sound_initial) fun sound moved => sound.step moved

/-- Between its ticks the simulation is what was last published. A snapshot is announced only while ticks are
running, a ready or paused simulation moves only once a start has gone through, and a failed or stopped one never. -/
theorem lifecycle_safe (starts : run.state 0 = initial) :
    (∀ position, position ≤ length →
      ((run.state position).isReady = true → 1 ≤ (run.state position).published ∧
        ((run.state position).lifecycleState = .running ∨ (run.state position).lifecycleState = .pausing)) ∧
      ((run.state position).committed ≠ (run.state position).published →
        (run.state position).committed = (run.state position).published + 1 ∧
          ((run.state position).worker = .stepped ∨ (run.state position).worker = .finished))) ∧
    (∀ first last, first ≤ last → last ≤ length →
      (run.state first).lifecycleState = .ready ∨ (run.state first).lifecycleState = .paused →
      (∀ position, first ≤ position → position < last → run.label position ≠ .startEntered) →
      (run.state last).isReady = false ∧ (run.state last).published = (run.state first).published ∧
        (run.state last).committed = (run.state first).committed) ∧
    (∀ first last, first ≤ last → last ≤ length →
      (run.state first).lifecycleState = .failed ∨ (run.state first).lifecycleState = .stopped →
      (run.state last).lifecycleState = (run.state first).lifecycleState ∧
        (run.state last).workerFailure = (run.state first).workerFailure ∧
        (run.state last).published = (run.state first).published ∧
        (run.state last).committed = (run.state first).committed) := by
  have sound := run_sound run starts
  refine ⟨fun position within => ?_, fun first last ordered within quiescent unstarted => ?_,
    fun first last ordered within ended => ?_⟩
  · obtain ⟨quiescent, active, failure, failed, finished, pausing, pauses, stopping, stops, requested, stopped, joined,
      numbered, caught, uncaught⟩ := sound position within
    refine ⟨fun announced => (active announced).symm, fun differ => ⟨numbered.resolve_right differ, ?_⟩⟩
    by_contra elsewhere
    exact differ (caught (fun stepped => elsewhere (.inl stepped)) fun finished => elsewhere (.inr finished))
  · have rests := run.persists (P := fun state => state.Resting ∧ state.published = (run.state first).published ∧
        state.committed = (run.state first).committed) ordered within
      ⟨(sound first (ordered.trans within)).resting_of_quiescent quiescent, rfl, rfl⟩
      fun position lower upper kept moved => by
        obtain ⟨resting, published, committed⟩ := kept.1.step moved (unstarted position lower upper)
        exact ⟨resting, published.trans kept.2.1, committed.trans kept.2.2⟩
    exact ⟨rests.1.unready, rests.2⟩
  · refine run.persists (P := fun state => state.lifecycleState = (run.state first).lifecycleState ∧
        state.workerFailure = (run.state first).workerFailure ∧ state.published = (run.state first).published ∧
        state.committed = (run.state first).committed) ordered within ⟨rfl, rfl, rfl, rfl⟩
      fun position lower upper kept moved => ?_
    obtain ⟨state, failure, published, committed⟩ :=
      (sound position (by omega)).ended_step (kept.1.symm ▸ ended) moved
    exact ⟨state.trans kept.1, failure.trans kept.2.1, published.trans kept.2.2.1, committed.trans kept.2.2.2⟩

/-- A run blocks only in a pause whose worker never left its outer wait, and there for good: no operation gets the
lock and the worker's condition does not hold. Past that wait, two of the worker's steps end any pause. -/
theorem lifecycle_stuck_iff (starts : run.state 0 = initial) (position : Nat) (within : position ≤ length) :
    ((∀ event, (run.state position).step event = none) ↔
      (run.state position).lifecycleState = .pausing ∧ (run.state position).worker = .waiting) ∧
    ((run.state position).lifecycleState = .pausing → ∀ event next, (run.state position).step event = some next →
      (next.lifecycleState = .paused ∨ next.lifecycleState = .failed) ∨
        ∀ event' last, next.step event' = some last →
          last.lifecycleState = .paused ∨ last.lifecycleState = .failed) := by
  have sound := run_sound run starts position within
  refine ⟨sound.stuck_iff, fun pausing event next moved => ?_⟩
  obtain ⟨-, still, stepped⟩ | ended := sound.pause_step pausing moved
  · refine .inr fun event' last followed => ?_
    obtain ⟨stepping, -⟩ | ended := (sound.step moved).pause_step still followed
    · rw [stepped] at stepping
      cases stepping
    · exact ended
  · exact .inl ended

end Runs

/-- A tick after a start, and a pause while the worker sleeps. -/
theorem lifecycle_safe_paused :
    ∃ run : Transition.Run (Moves (E := Unit)) 7, run.state 0 = initial ∧ (run.state 7).lifecycleState = .paused ∧
      (run.state 7).published = 1 ∧ (run.state 7).isReady = false := by
  have started : Moves (E := Unit) initial .start
      ⟨.ready, false, 0, 0, none, false, false, .waiting, some .starting⟩ := rfl
  have entered : Moves (E := Unit) ⟨.ready, false, 0, 0, none, false, false, .waiting, some .starting⟩ .startEntered
      ⟨.running, false, 0, 0, none, false, false, .waiting, none⟩ := rfl
  have woken : Moves (E := Unit) ⟨.running, false, 0, 0, none, false, false, .waiting, none⟩ .workerWoken
      ⟨.running, false, 0, 0, none, false, false, .stepping, none⟩ := rfl
  have committed : Moves (E := Unit) ⟨.running, false, 0, 0, none, false, false, .stepping, none⟩ .tickCommitted
      ⟨.running, false, 0, 1, none, false, false, .stepped, none⟩ := rfl
  have published : Moves (E := Unit) ⟨.running, false, 0, 1, none, false, false, .stepped, none⟩ .tickPublished
      ⟨.running, true, 1, 1, none, false, false, .sleeping, none⟩ := rfl
  have pauses : Moves (E := Unit) ⟨.running, true, 1, 1, none, false, false, .sleeping, none⟩ .pause
      ⟨.pausing, true, 1, 1, none, false, false, .sleeping, some .pausing⟩ := rfl
  have roused : Moves (E := Unit) ⟨.pausing, true, 1, 1, none, false, false, .sleeping, some .pausing⟩ .workerRoused
      ⟨.paused, false, 1, 1, none, false, false, .waiting, some .pausing⟩ := rfl
  let run := ((((((Transition.Run.single roused).cons pauses).cons published).cons committed).cons woken).cons
    entered).cons started
  obtain ⟨unready, -⟩ := (lifecycle_safe run rfl).2.1 7 7 (Nat.le_refl 7) (Nat.le_refl 7) (.inr rfl)
    fun position lower upper => absurd lower (Nat.not_le_of_lt upper)
  exact ⟨run, rfl, rfl, rfl, unready⟩

/-- A pause issued behind a start, before the worker has woken. -/
theorem lifecycle_stuck_iff_unwoken :
    ∃ run : Transition.Run (Moves (E := Unit)) 3, run.state 0 = initial ∧
      (run.label 0 = .start ∧ run.label 1 = .startEntered ∧ run.label 2 = .pause) ∧
      ∀ event, (run.state 3).step event = none := by
  have started : Moves (E := Unit) initial .start
      ⟨.ready, false, 0, 0, none, false, false, .waiting, some .starting⟩ := rfl
  have entered : Moves (E := Unit) ⟨.ready, false, 0, 0, none, false, false, .waiting, some .starting⟩ .startEntered
      ⟨.running, false, 0, 0, none, false, false, .waiting, none⟩ := rfl
  have pauses : Moves (E := Unit) ⟨.running, false, 0, 0, none, false, false, .waiting, none⟩ .pause
      ⟨.pausing, false, 0, 0, none, false, false, .waiting, some .pausing⟩ := rfl
  let run := ((Transition.Run.single pauses).cons entered).cons started
  exact ⟨run, rfl, ⟨rfl, rfl, rfl⟩, (lifecycle_stuck_iff run rfl 3 (Nat.le_refl 3)).1.mpr ⟨rfl, rfl⟩⟩

end RuntimeLifecycle

end BlobRoyale.Runtime
