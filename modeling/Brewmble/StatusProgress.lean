import Brewmble.StatusTargets

/-!
# The progress that the status command reports to the terminal

A terminal shows the last progress that was written to it. The status command writes that
its progress is unknown while it discovers nodes, then what its bar says, then success or an
error, and at last that there is nothing to show. It returns early where it cannot build its
client, and what it has not cleared by then is cleared when the reporter is dropped.

The main thread reports after it has lengthened the bar, and each worker at its end. A
report reads the position, reads the length, writes, and then marks the reporter as active,
and each of these is a step of its own, in any order with those of the other threads and
with the steps of the scope. The quotient of the position and the length is computed with
floating-point numbers and is a parameter.
-/

namespace Brewmble.StatusProgress

open Execution StatusSummary StatusTargets
open CliCommands hiding Event

section Reporter

/-- `9;4` with its two numbers. -/
structure Sequence where
  state : Nat
  progress : Nat
  deriving DecidableEq, Repr

/-- What is written to the terminal. -/
def Sequence.text (sequence : Sequence) : String :=
  "\x1b]9;4;" ++ toString sequence.state ++ ";" ++ toString sequence.progress ++ "\x07"

/-- `NativeProgress`, with what it has written. -/
structure NativeProgress where
  supported : Bool
  active : Bool
  written : List Sequence
  deriving DecidableEq, Repr

namespace NativeProgress

/-- `with_writer`. -/
def new (supported : Bool) : NativeProgress := ⟨supported, false, []⟩

def write (native : NativeProgress) (sequence : Sequence) : NativeProgress :=
  { native with written := native.written ++ [sequence] }

def store (native : NativeProgress) (sequence : Sequence) : NativeProgress :=
  { native with active := decide (sequence.state ≠ 0) }

/-- `emit`, where no other thread is between its two accesses. -/
def emit (native : NativeProgress) (state progress : Nat) : NativeProgress :=
  if !native.supported then native else (native.write ⟨state, progress⟩).store ⟨state, progress⟩

def setIndeterminate (native : NativeProgress) : NativeProgress := native.emit 3 0

def finishSuccess (native : NativeProgress) : NativeProgress := native.emit 1 100

def finishError (native : NativeProgress) : NativeProgress := native.emit 2 100

def clear (native : NativeProgress) : NativeProgress := native.emit 0 0

def drop (native : NativeProgress) : NativeProgress :=
  if native.supported && native.active then native.write ⟨0, 0⟩ else native

/-- Nothing is shown: nothing was written, or that there is nothing to show. -/
def Off (native : NativeProgress) : Prop := native.written = [] ∨ native.written.getLast? = some ⟨0, 0⟩

end NativeProgress

/-- What `set_progress` emits, with the percentage before it is clamped. -/
def setProgress (percent : Nat → Nat → Nat) (position length : Nat) : Sequence :=
  if length = 0 then ⟨3, 0⟩ else ⟨1, min (percent position length) 100⟩

end Reporter

/-- Where a thread stands in a report. -/
inductive Draw where
  | idle
  | asked
  | position (position : Nat)
  | both (position length : Nat)
  | wrote (sequence : Sequence)
  | done
  deriving DecidableEq, Repr

inductive Thread where
  | receiver
  | worker (index : Nat)
  deriving DecidableEq, Repr

/-- The scope with the reports of its threads. -/
structure State where
  scope : StatusWorkers.State
  native : NativeProgress
  draws : Thread → Draw
  anyFailed : Bool

inductive Event where
  | scope (event : StatusWorkers.Event)
  | drew (thread : Thread)
  deriving DecidableEq, Repr

def State.draw (state : State) (thread : Thread) (draw : Draw) : State :=
  { state with draws := Function.update state.draws thread draw }

/-- `native` before the scope. -/
def prologue (supported discoverAll : Bool) : NativeProgress :=
  if discoverAll then (NativeProgress.new supported).setIndeterminate else .new supported

/-- The scope is entered. -/
def enterScope (supported : Bool) (env : Environment) (args : StatusArgs) (initial : List Target) : State where
  scope := enter env args initial
  native := prologue supported args.discoverAll
  draws _ := .idle
  anyFailed := false

section Steps

variable (display : Rest.StatusCode → String) (answers : String → Answer) (percent : Nat → Nat → Nat)

/-- What a step of the scope entails, of a thread that is not within a report. A worker that
has queried stores a failure, which is read after the scope only. -/
def follow (state : State) (event : StatusWorkers.Event) (reached : StatusWorkers.State) : Option State :=
  match event with
  | .lengthened =>
    if state.draws .receiver = .idle then some ({ state with scope := reached }.draw .receiver .asked) else none
  | .spawned =>
    if state.draws .receiver = .done then some ({ state with scope := reached }.draw .receiver .idle) else none
  | .advanced index =>
    match state.scope.workers[index]? with
    | some ⟨target, .querying⟩ =>
      some { state with
        scope := reached
        anyFailed := state.anyFailed || (queryStatus display (answers target.address)).failed }
    | some ⟨_, .reported⟩ | some ⟨_, .skipping⟩ =>
      if state.draws (.worker index) = .idle then
        some ({ state with scope := reached }.draw (.worker index) .asked)
      else none
    | _ => some { state with scope := reached }
  | _ => some { state with scope := reached }

/-- The next access of a report. -/
def drawn (state : State) (thread : Thread) : Draw → Option State
  | .asked => some (state.draw thread (.position state.scope.position))
  | .position position => some (state.draw thread (.both position state.scope.length))
  | .both position length =>
    if state.native.supported then
      let sequence := setProgress percent position length
      some ({ state with native := state.native.write sequence }.draw thread (.wrote sequence))
    else some (state.draw thread .done)
  | .wrote sequence => some ({ state with native := state.native.store sequence }.draw thread .done)
  | .idle | .done => none

def next (state : State) : Event → Option State
  | .scope event => (StatusWorkers.next display answers state.scope event).bind (follow display answers state event)
  | .drew thread => drawn percent state thread (state.draws thread)

/-- No thread is within a report. -/
def Quiet (state : State) : Prop := ∀ thread, state.draws thread = .idle ∨ state.draws thread = .done

/-- `native` after the scope, until it is dropped. -/
def epilogue (state : State) : NativeProgress :=
  if state.native.supported then
    (if state.anyFailed then state.native.finishError else state.native.finishSuccess).clear
  else state.native

end Steps

section Lawful

variable (display : Rest.StatusCode → String) (answers : String → Answer) (percent : Nat → Nat → Nat)
variable (supported : Bool) (env : Environment) (args : StatusArgs) (initial : List Target)

/-- A percentage of a position that the length has not been passed by. -/
def Drawn (sequence : Sequence) : Prop :=
  ∃ position length, position ≤ length ∧ 0 < length ∧ sequence = ⟨1, min (percent position length) 100⟩

/-- What a thread has read and written in a report, given the length of the bar. -/
def Fits (length : Nat) : Draw → Prop
  | .idle | .done => True
  | .asked => 0 < length
  | .position position => position ≤ length ∧ 0 < length
  | .both position read => position ≤ read ∧ 0 < read
  | .wrote sequence => Drawn percent sequence

structure Lawful (state : State) : Prop where
  follows : ∃ events, run (StatusWorkers.next display answers) (enter env args initial) events = some state.scope
  draws : ∀ thread, Fits percent state.scope.length (state.draws thread)
  written : ∃ drawn, state.native.written = (prologue supported args.discoverAll).written ++ drawn ∧
    ∀ sequence ∈ drawn, Drawn percent sequence
  marked : state.native.written = [] ∨ state.native.active = true ∨
    ∃ thread sequence, state.draws thread = .wrote sequence
  failed : state.anyFailed = state.scope.queries.any (·.2.failed)
  same : state.native.supported = supported
  silent : supported = false → state.native.written = []

variable {display answers percent supported env args initial} {state reached : State}

theorem enter_lawful : Lawful display answers percent supported env args initial
    (enterScope supported env args initial) where
  follows := ⟨[], rfl⟩
  draws _ := trivial
  written := ⟨[], (List.append_nil _).symm, by simp⟩
  marked := by
    cases supported <;> cases all : args.discoverAll <;>
      simp [enterScope, prologue, all, NativeProgress.new, NativeProgress.setIndeterminate, NativeProgress.emit,
        NativeProgress.write, NativeProgress.store]
  failed := rfl
  same := by
    cases supported <;> cases all : args.discoverAll <;> simp [enterScope, prologue, all] <;> rfl
  silent := by
    rintro rfl
    cases all : args.discoverAll <;> simp [enterScope, prologue, all] <;> rfl

theorem draw_self {thread : Thread} {draw : Draw} : (state.draw thread draw).draws thread = draw :=
  Function.update_self ..

theorem draw_other {thread other : Thread} {draw : Draw} (different : other ≠ thread) :
    (state.draw thread draw).draws other = state.draws other := Function.update_of_ne different ..

/-- The bar is never shortened. -/
theorem next_length {scope after : StatusWorkers.State} {event : StatusWorkers.Event}
    (step : StatusWorkers.next display answers scope event = some after) : scope.length ≤ after.length := by
  cases StatusWorkers.step_of_next step with
  | lengthened took => exact Nat.le_succ _
  | advanced found accessed => exact (StatusWorkers.advance_frame accessed).2.2.2.2.ge
  | sent pending => exact le_refl _
  | hungUp pending => exact le_refl _
  | received receiving waiting => exact le_refl _
  | spawned lengthened => exact le_refl _
  | disconnected receiving empty hungUp => exact le_refl _

theorem fits_longer {length longer : Nat} (less : length ≤ longer) {draw : Draw}
    (fits : Fits percent length draw) : Fits percent longer draw := by
  cases draw with
  | asked => exact lt_of_lt_of_le fits less
  | position position => exact ⟨fits.1.trans less, lt_of_lt_of_le fits.2 less⟩
  | both position read => exact fits
  | wrote sequence => exact fits
  | idle => trivial
  | done => trivial

/-- A thread begins a report, or has ended one. -/
def Turned (state : State) (event : StatusWorkers.Event) (before after : Draw) : Prop :=
  after = before ∨ before = .done ∧ after = .idle ∨
    before = .idle ∧ after = .asked ∧ (event = .lengthened ∨ state.scope.workers ≠ [])

/-- What a step of the scope makes of the rest. -/
structure Followed (display : Rest.StatusCode → String) (answers : String → Answer) (state : State)
    (event : StatusWorkers.Event) (after : StatusWorkers.State) (reached : State) : Prop where
  scope : reached.scope = after
  native : reached.native = state.native
  draws : ∀ thread, Turned state event (state.draws thread) (reached.draws thread)
  failed : ∃ queried, after.queries = state.scope.queries ++ queried ∧
    reached.anyFailed = (state.anyFailed || queried.any (·.2.failed))

theorem kept_followed {event : StatusWorkers.Event} {after : StatusWorkers.State}
    (queries : after.queries = state.scope.queries) :
    Followed display answers state event after { state with scope := after } where
  scope := rfl
  native := rfl
  draws _ := .inl rfl
  failed := ⟨[], by rw [queries, List.append_nil], by simp⟩

theorem drawn_followed {event : StatusWorkers.Event} {after : StatusWorkers.State} {thread : Thread} {draw : Draw}
    (queries : after.queries = state.scope.queries) (turned : Turned state event (state.draws thread) draw) :
    Followed display answers state event after ({ state with scope := after }.draw thread draw) where
  scope := rfl
  native := rfl
  draws other := by
    by_cases own : other = thread
    · rw [own, draw_self]
      exact turned
    · rw [draw_other own]
      exact .inl rfl
  failed := ⟨[], by rw [queries, List.append_nil], by simp [State.draw]⟩

theorem follow_advanced {after : StatusWorkers.State} {index : Nat} {target : Target} {phase : StatusWorkers.Phase}
    (found : state.scope.workers[index]? = some ⟨target, phase⟩)
    (accessed : StatusWorkers.advance display answers state.scope index ⟨target, phase⟩ = some after)
    (followed : follow display answers state (.advanced index) after = some reached) :
    Followed display answers state (.advanced index) after reached := by
  have present : state.scope.workers ≠ [] := by
    intro empty
    simp [empty] at found
  simp only [follow, found] at followed
  cases phase with
  | spawned =>
    obtain rfl := Option.some.inj followed
    apply kept_followed
    simp only [StatusWorkers.advance] at accessed
    split at accessed <;> exact Option.some.inj accessed ▸ rfl
  | querying =>
    obtain rfl := Option.some.inj followed
    obtain rfl := Option.some.inj accessed
    exact ⟨rfl, rfl, fun _ => .inl rfl,
      [(target.address, queryStatus display (answers target.address))], rfl, by simp⟩
  | queried =>
    obtain rfl := Option.some.inj followed
    exact kept_followed (Option.some.inj accessed ▸ rfl)
  | reported =>
    obtain ⟨idle, same⟩ := Option.ite_none_right_eq_some.mp followed
    obtain rfl := Option.some.inj same
    exact drawn_followed (Option.some.inj accessed ▸ rfl) (.inr (.inr ⟨idle, rfl, .inr present⟩))
  | skipping =>
    obtain ⟨idle, same⟩ := Option.ite_none_right_eq_some.mp followed
    obtain rfl := Option.some.inj same
    exact drawn_followed (Option.some.inj accessed ▸ rfl) (.inr (.inr ⟨idle, rfl, .inr present⟩))
  | counted => cases accessed
  | skipped => cases accessed

theorem follow_followed {event : StatusWorkers.Event} {after : StatusWorkers.State}
    (step : StatusWorkers.next display answers state.scope event = some after)
    (followed : follow display answers state event after = some reached) :
    Followed display answers state event after reached := by
  cases StatusWorkers.step_of_next step with
  | advanced found accessed => exact follow_advanced found accessed followed
  | lengthened took =>
    obtain ⟨idle, same⟩ := Option.ite_none_right_eq_some.mp followed
    obtain rfl := Option.some.inj same
    exact drawn_followed rfl (.inr (.inr ⟨idle, rfl, .inl rfl⟩))
  | spawned lengthened =>
    obtain ⟨ended, same⟩ := Option.ite_none_right_eq_some.mp followed
    obtain rfl := Option.some.inj same
    exact drawn_followed rfl (.inr (.inl ⟨ended, rfl⟩))
  | sent pending =>
    obtain rfl := Option.some.inj followed
    exact kept_followed rfl
  | hungUp pending =>
    obtain rfl := Option.some.inj followed
    exact kept_followed rfl
  | received receiving waiting =>
    obtain rfl := Option.some.inj followed
    exact kept_followed rfl
  | disconnected receiving empty hungUp =>
    obtain rfl := Option.some.inj followed
    exact kept_followed rfl

/-- Where a worker is spawned or the bar lengthened, the bar has a length. -/
theorem asked_length (lawful : Lawful display answers percent supported env args initial state)
    {event : StatusWorkers.Event} {after : StatusWorkers.State}
    (step : StatusWorkers.next display answers state.scope event = some after)
    (asks : event = .lengthened ∨ state.scope.workers ≠ []) : 0 < after.length := by
  obtain rfl | present := asks
  · cases StatusWorkers.step_of_next step with
    | lengthened took => exact Nat.succ_pos _
  · obtain ⟨events, ran⟩ := lawful.follows
    have counted := (scope_invariant ran).1.length
    have workers := List.length_pos_iff.mpr present
    have longer := next_length step
    omega

theorem scope_lawful (lawful : Lawful display answers percent supported env args initial state)
    {event : StatusWorkers.Event} {after : StatusWorkers.State}
    (step : StatusWorkers.next display answers state.scope event = some after)
    (followed : Followed display answers state event after reached) :
    Lawful display answers percent supported env args initial reached := by
  obtain ⟨rfl, native, draws, queried, queries, failed⟩ := followed
  constructor
  · obtain ⟨events, ran⟩ := lawful.follows
    exact ⟨events ++ [event], run_append _ ran (run_one _ step)⟩
  · intro thread
    obtain same | ⟨_, idle⟩ | ⟨_, asked, asks⟩ := draws thread
    · rw [same]
      exact fits_longer (next_length step) (lawful.draws thread)
    · rw [idle]
      trivial
    · rw [asked]
      exact asked_length lawful step asks
  · rw [native]
    exact lawful.written
  · rw [native]
    obtain nothing | active | ⟨thread, sequence, wrote⟩ := lawful.marked
    · exact .inl nothing
    · exact .inr (.inl active)
    · obtain same | ⟨done, _⟩ | ⟨idle, _⟩ := draws thread
      · exact .inr (.inr ⟨thread, sequence, same.trans wrote⟩)
      · rw [wrote] at done
        cases done
      · rw [wrote] at idle
        cases idle
  · rw [failed, queries, List.any_append, lawful.failed]
  · rw [native]
    exact lawful.same
  · rw [native]
    exact lawful.silent

/-- A report goes on without a write. -/
theorem draw_lawful (lawful : Lawful display answers percent supported env args initial state) {thread : Thread}
    {draw : Draw} (unwritten : ∀ sequence, state.draws thread ≠ .wrote sequence)
    (fits : Fits percent state.scope.length draw) :
    Lawful display answers percent supported env args initial (state.draw thread draw) where
  follows := lawful.follows
  draws other := by
    by_cases own : other = thread
    · rw [own, draw_self]
      exact fits
    · rw [draw_other own]
      exact lawful.draws other
  written := lawful.written
  marked := by
    obtain nothing | active | ⟨other, sequence, wrote⟩ := lawful.marked
    · exact .inl nothing
    · exact .inr (.inl active)
    · have different : other ≠ thread := by
        rintro rfl
        exact unwritten sequence wrote
      exact .inr (.inr ⟨other, sequence, (draw_other different).trans wrote⟩)
  failed := lawful.failed
  same := lawful.same
  silent := lawful.silent

/-- A thread that is within a report and has not just written. -/
theorem wrote_ne {draw : Draw} {thread : Thread} (stands : state.draws thread = draw)
    (other : ∀ sequence, draw ≠ .wrote sequence) : ∀ sequence, state.draws thread ≠ .wrote sequence := by
  rw [stands]
  exact other

theorem setProgress_drawn {position length : Nat} (within : position ≤ length) (positive : 0 < length) :
    Drawn percent (setProgress percent position length) :=
  ⟨position, length, within, positive, if_neg positive.ne'⟩

theorem write_lawful (lawful : Lawful display answers percent supported env args initial state) {thread : Thread}
    {sequence : Sequence} (supports : state.native.supported = true) (made : Drawn percent sequence) :
    Lawful display answers percent supported env args initial
      ({ state with native := state.native.write sequence }.draw thread (.wrote sequence)) where
  follows := lawful.follows
  draws other := by
    by_cases own : other = thread
    · rw [own, draw_self]
      exact made
    · rw [draw_other own]
      exact lawful.draws other
  written := by
    obtain ⟨drawn, written, all⟩ := lawful.written
    refine ⟨drawn ++ [sequence], ?_, ?_⟩
    · rw [← List.append_assoc, ← written]
      rfl
    · exact List.forall_mem_append.mpr ⟨all, by simpa using made⟩
  marked := .inr (.inr ⟨thread, sequence, draw_self⟩)
  failed := lawful.failed
  same := lawful.same
  silent unsupported := by
    rw [lawful.same, unsupported] at supports
    cases supports

/-- The reporter is active after a percentage. -/
theorem store_lawful (lawful : Lawful display answers percent supported env args initial state) {thread : Thread}
    {sequence : Sequence} (made : Drawn percent sequence) :
    Lawful display answers percent supported env args initial
      ({ state with native := state.native.store sequence }.draw thread .done) where
  follows := lawful.follows
  draws other := by
    by_cases own : other = thread
    · rw [own, draw_self]
      trivial
    · rw [draw_other own]
      exact lawful.draws other
  written := lawful.written
  marked := by
    obtain ⟨_, _, _, _, rfl⟩ := made
    exact .inr (.inl rfl)
  failed := lawful.failed
  same := lawful.same
  silent := lawful.silent

theorem drawn_lawful (lawful : Lawful display answers percent supported env args initial state) {thread : Thread}
    (step : drawn percent state thread (state.draws thread) = some reached) :
    Lawful display answers percent supported env args initial reached := by
  have fits := lawful.draws thread
  cases stands : state.draws thread with
  | idle =>
    rw [stands] at step
    cases step
  | done =>
    rw [stands] at step
    cases step
  | asked =>
    rw [stands] at step fits
    obtain rfl := Option.some.inj step
    obtain ⟨events, ran⟩ := lawful.follows
    exact draw_lawful lawful (wrote_ne stands (by simp)) ⟨position_le_length ran, fits⟩
  | position position =>
    rw [stands] at step fits
    obtain rfl := Option.some.inj step
    exact draw_lawful lawful (wrote_ne stands (by simp)) fits
  | both position length =>
    rw [stands] at step fits
    simp only [drawn] at step
    split at step
    · rename_i supports
      obtain rfl := Option.some.inj step
      exact write_lawful lawful supports (setProgress_drawn fits.1 fits.2)
    · obtain rfl := Option.some.inj step
      exact draw_lawful lawful (wrote_ne stands (by simp)) trivial
  | wrote sequence =>
    rw [stands] at step fits
    obtain rfl := Option.some.inj step
    exact store_lawful lawful fits

theorem step_lawful (lawful : Lawful display answers percent supported env args initial state) {event : Event}
    (step : next display answers percent state event = some reached) :
    Lawful display answers percent supported env args initial reached := by
  cases event with
  | scope event =>
    obtain ⟨after, stepped, followed⟩ := Option.bind_eq_some_iff.mp step
    exact scope_lawful lawful stepped (follow_followed stepped followed)
  | drew thread => exact drawn_lawful lawful step

theorem run_lawful {events : List Event}
    (ran : run (next display answers percent) (enterScope supported env args initial) events = some reached) :
    Lawful display answers percent supported env args initial reached :=
  run_preserves (next display answers percent) (Lawful display answers percent supported env args initial)
    (fun _ _ _ lawful step => step_lawful lawful step) enter_lawful ran

end Lawful

section Indicator

variable {display : Rest.StatusCode → String} {answers : String → Answer} {percent : Nat → Nat → Nat}
variable {supported : Bool} {env : Environment} {args : StatusArgs} {initial : List Target}
variable {events : List Event} {reached : State}

/-- What has been shown is cleared by the drop, if the reporter is active then. -/
theorem drop_off {native : NativeProgress} (marked : native.written = [] ∨ native.active = true)
    (silent : native.supported = false → native.written = []) : native.drop.Off := by
  unfold NativeProgress.drop
  by_cases clears : (native.supported && native.active) = true
  · rw [if_pos clears]
    exact .inr (by simp [NativeProgress.write])
  · rw [if_neg clears]
    obtain nothing | active := marked
    · exact .inl nothing
    · exact .inl (silent (by simpa [active] using clears))

theorem quiet_drop (lawful : Lawful display answers percent supported env args initial reached)
    (quiet : Quiet reached) : reached.native.drop.Off := by
  refine drop_off ?_ fun unsupported => lawful.silent (lawful.same ▸ unsupported)
  obtain nothing | active | ⟨thread, sequence, wrote⟩ := lawful.marked
  · exact .inl nothing
  · exact .inr active
  · obtain idle | done := quiet thread
    · rw [wrote] at idle
      cases idle
    · rw [wrote] at done
      cases done

/-- The flag says at the end whether some report is of a failure. -/
theorem failed_reports (lawful : Lawful display answers percent supported env args initial reached)
    (ended : reached.scope.Ended) :
    reached.anyFailed = reached.scope.nodeReports.any fun entry => entry.2.failed := by
  obtain ⟨events, ran⟩ := lawful.follows
  obtain ⟨_, queries, reports, _⟩ := scope_ended ran ended
  have queried := queries.any_eq (f := fun query => query.2.failed)
  have reported := reports.any_eq (f := fun entry => entry.2.failed)
  rw [lawful.failed, queried, reported, List.any_map, List.any_map]
  rfl

theorem prologue_off (supported discoverAll : Bool) : (prologue supported discoverAll).drop.Off := by
  cases supported <;> cases discoverAll
  · exact .inl rfl
  · exact .inl rfl
  · exact .inl rfl
  · exact .inr rfl

/-- After success or an error has been shown, nothing is shown. -/
theorem epilogue_written (supports : reached.native.supported = true) :
    (epilogue reached).drop.written =
      reached.native.written ++ [⟨if reached.anyFailed then 2 else 1, 100⟩, ⟨0, 0⟩] := by
  cases failed : reached.anyFailed <;>
    simp [epilogue, supports, failed, NativeProgress.finishError, NativeProgress.finishSuccess, NativeProgress.clear,
      NativeProgress.emit, NativeProgress.write, NativeProgress.store, NativeProgress.drop]

/-- The terminal is left as it was found. Let the status command report its progress, in any
interleaving of its threads.

Where the command returns before the scope, nothing is shown after it. In the scope, only
percentages of a position and a length are written, of which the length is positive and the
position at most the length. Whenever no thread is within a report, as when the scope has
ended or a panic has ended its threads, a drop leaves nothing shown. When the scope has
ended, an error is shown if some report is of a failure and success otherwise, and then
nothing. Without support nothing is written at all.

Proof: the scope of these runs is one of the scope alone, in which the position is at most
the length. Each write is of a percentage and is followed by the mark of its thread. -/
theorem indicator_cleared
    (ran : run (next display answers percent) (enterScope supported env args initial) events = some reached) :
    (prologue supported args.discoverAll).drop.Off ∧
    (∃ drawn, reached.native.written = (prologue supported args.discoverAll).written ++ drawn ∧
      ∀ sequence ∈ drawn, Drawn percent sequence) ∧
    (Quiet reached → reached.native.drop.Off) ∧
    (supported = false → (epilogue reached).drop.written = []) ∧
    (supported = true → reached.scope.Ended → (epilogue reached).drop.written = reached.native.written ++
      [⟨if reached.scope.nodeReports.any fun entry => entry.2.failed then 2 else 1, 100⟩, ⟨0, 0⟩]) := by
  have lawful := run_lawful ran
  refine ⟨prologue_off supported args.discoverAll, lawful.written, quiet_drop lawful, ?_, ?_⟩
  · intro unsupported
    have off : reached.native.supported = false := lawful.same.trans unsupported
    simp [epilogue, off, NativeProgress.drop, lawful.silent unsupported]
  · intro supports ended
    rw [epilogue_written (lawful.same.trans supports), failed_reports lawful ended]

/-- One node that cannot be reached is queried. -/
def onePiEvents : List Event :=
  [.scope .received, .scope .lengthened, .drew .receiver, .drew .receiver, .drew .receiver, .drew .receiver,
    .scope .spawned, .scope (.advanced 0), .scope .disconnected, .scope (.advanced 0), .scope (.advanced 0),
    .scope (.advanced 0), .drew (.worker 0), .drew (.worker 0), .drew (.worker 0), .drew (.worker 0)]

theorem one_pi_cleared :
    ∃ reached, run (next (fun _ => "") (fun _ => .unreachable "timeout") fun position length => position * 100 / length)
        (enterScope true findsTwice ⟨false, ["pi"]⟩ [⟨"10.0.0.2:3625", some "pi"⟩]) onePiEvents = some reached ∧
      (epilogue reached).drop.written = [⟨1, 0⟩, ⟨1, 100⟩, ⟨2, 100⟩, ⟨0, 0⟩] := by
  have ran : run (next (fun _ => "") (fun _ => .unreachable "timeout") fun position length => position * 100 / length)
      (enterScope true findsTwice ⟨false, ["pi"]⟩ [⟨"10.0.0.2:3625", some "pi"⟩]) onePiEvents = some _ := rfl
  obtain ⟨_, _, _, _, shown⟩ := indicator_cleared ran
  exact ⟨_, ran, (shown rfl (by decide)).trans rfl⟩

end Indicator

end Brewmble.StatusProgress
