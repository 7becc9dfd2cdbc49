import Brewmble.Execution
import Brewmble.StatusSummary
import Mathlib.Algebra.GroupWithZero.Nat

/-!
# The concurrent part of the status command

Three kinds of threads take part in the status query. The discovery thread sends
what it found through the channel and hangs up. The main thread receives targets,
lengthens the progress bar by one for each and spawns a worker for it; it ends
when the channel is empty and closed. A worker inserts its address into the shared
set of seen addresses. Where the address is new it queries the daemon, pushes its
report and advances the bar; where it is not, it only advances the bar.

A state holds what these threads share and where each of them stands. Every access
to a shared value is a step of its own, and the steps of different threads occur in
any order. The order in which the workers passed the seen set is recorded beside the
code's values, as are each query with its address and its result, and the address of
each pushed report.

An address is queried at most once, as proved below, so what a query yields is a
function of the address. Native progress, printing and the flag of the final
progress state are not modelled.
-/

namespace Brewmble.StatusWorkers

open Execution StatusSummary

/-- What a worker has done. -/
inductive Phase where
  | spawned
  | querying
  | queried (result : QueryResult)
  | reported
  | counted
  | skipping
  | skipped
  deriving DecidableEq, Repr

namespace Phase

/-- The worker has tried to insert its address into the seen set. -/
def started : Phase → Bool
  | .spawned => false
  | _ => true

/-- The worker's address was new. -/
def admitted : Phase → Bool
  | .querying | .queried _ | .reported | .counted => true
  | _ => false

def hasQueried : Phase → Bool
  | .queried _ | .reported | .counted => true
  | _ => false

def hasReported : Phase → Bool
  | .reported | .counted => true
  | _ => false

def finished : Phase → Bool
  | .counted | .skipped => true
  | _ => false

end Phase

structure Worker where
  target : Target
  phase : Phase
  deriving DecidableEq, Repr

/-- Where the receive loop of the main thread stands. -/
inductive Receiver where
  | receiving
  /-- A target is received and the bar is not lengthened yet. -/
  | took (target : Target)
  | lengthened (target : Target)
  | done
  deriving DecidableEq, Repr

/-- The target between its receipt and its worker. -/
def Receiver.held : Receiver → List Target
  | .took target | .lengthened target => [target]
  | _ => []

/-- How far the bar is ahead of the spawned workers. -/
def Receiver.ahead : Receiver → Nat
  | .lengthened _ => 1
  | _ => 0

structure State where
  /-- What the discovery thread has yet to send, until it hangs up. -/
  discovery : Option (List Target)
  channel : List Target
  receiver : Receiver
  workers : List Worker
  seenTargets : List String
  /-- The targets of the workers in the order in which they passed the seen set. -/
  passed : List Target
  queries : List (String × QueryResult)
  /-- Each pushed report beside the address that it is about. -/
  nodeReports : List (String × Report)
  length : Nat
  position : Nat
  deriving DecidableEq, Repr

/-- The scope is entered with the initial targets in the channel. -/
def start (initial : List Target) (discovery : Option (List Target)) : State where
  discovery := discovery
  channel := initial
  receiver := .receiving
  workers := []
  seenTargets := []
  passed := []
  queries := []
  nodeReports := []
  length := 0
  position := 0

inductive Event where
  | sent
  | hungUp
  | received
  | lengthened
  | spawned
  | disconnected
  | advanced (worker : Nat)
  deriving DecidableEq, Repr

variable (display : Rest.StatusCode → String) (answers : String → Answer)

/-- The phase of one worker is set. -/
def State.enter (state : State) (index : Nat) (target : Target) (phase : Phase) : State :=
  { state with workers := state.workers.set index ⟨target, phase⟩ }

/-- The next access of the worker with the given index. -/
def advance (state : State) (index : Nat) : Worker → Option State
  | ⟨target, .spawned⟩ =>
    if target.address ∈ state.seenTargets then
      -- The source lengthens the bar by zero here.
      some { state.enter index target .skipping with
        passed := state.passed ++ [target]
        length := state.length + 0 }
    else
      some { state.enter index target .querying with
        seenTargets := target.address :: state.seenTargets
        passed := state.passed ++ [target] }
  | ⟨target, .querying⟩ =>
    let result := queryStatus display (answers target.address)
    some { state.enter index target (.queried result) with
      queries := state.queries ++ [(target.address, result)] }
  | ⟨target, .queried result⟩ =>
    some { state.enter index target .reported with
      nodeReports := state.nodeReports ++ [(target.address, target.report result)] }
  | ⟨target, .reported⟩ =>
    some { state.enter index target .counted with position := state.position + 1 }
  | ⟨target, .skipping⟩ =>
    some { state.enter index target .skipped with position := state.position + 1 }
  | ⟨_, .counted⟩ | ⟨_, .skipped⟩ => none

def next (state : State) : Event → Option State
  | .sent =>
    match state.discovery with
    | some (target :: rest) =>
      some { state with discovery := some rest, channel := state.channel ++ [target] }
    | _ => none
  | .hungUp =>
    match state.discovery with
    | some [] => some { state with discovery := none }
    | _ => none
  | .received =>
    match state.receiver, state.channel with
    | .receiving, target :: rest => some { state with receiver := .took target, channel := rest }
    | _, _ => none
  | .lengthened =>
    match state.receiver with
    | .took target =>
      some { state with receiver := .lengthened target, length := state.length + 1 }
    | _ => none
  | .spawned =>
    match state.receiver with
    | .lengthened target =>
      some { state with
        receiver := .receiving
        workers := state.workers ++ [⟨target, .spawned⟩] }
    | _ => none
  | .disconnected =>
    match state.receiver, state.channel, state.discovery with
    | .receiving, [], none => some { state with receiver := .done }
    | _, _, _ => none
  | .advanced index =>
    match state.workers[index]? with
    | some worker => advance display answers state index worker
    | none => none

/-- The steps of the three kinds of threads. -/
inductive Step (state : State) : Event → State → Prop where
  | sent {target : Target} {rest : List Target} (pending : state.discovery = some (target :: rest)) :
      Step state .sent
        { state with discovery := some rest, channel := state.channel ++ [target] }
  | hungUp (pending : state.discovery = some []) :
      Step state .hungUp { state with discovery := none }
  | received {target : Target} {rest : List Target} (receiving : state.receiver = .receiving)
      (waiting : state.channel = target :: rest) :
      Step state .received { state with receiver := .took target, channel := rest }
  | lengthened {target : Target} (took : state.receiver = .took target) :
      Step state .lengthened
        { state with receiver := .lengthened target, length := state.length + 1 }
  | spawned {target : Target} (lengthened : state.receiver = .lengthened target) :
      Step state .spawned
        { state with
          receiver := .receiving
          workers := state.workers ++ [⟨target, .spawned⟩] }
  | disconnected (receiving : state.receiver = .receiving) (empty : state.channel = [])
      (hungUp : state.discovery = none) :
      Step state .disconnected { state with receiver := .done }
  | advanced {index : Nat} {target : Target} {phase : Phase} {reached : State}
      (found : state.workers[index]? = some ⟨target, phase⟩)
      (accessed : advance display answers state index ⟨target, phase⟩ = some reached) :
      Step state (.advanced index) reached

theorem step_of_next {display : Rest.StatusCode → String} {answers : String → Answer}
    {state reached : State} {event : Event}
    (step : next display answers state event = some reached) :
    Step display answers state event reached := by
  cases event with
  | sent =>
    simp only [next] at step
    split at step
    · next target rest pending => exact Option.some.inj step ▸ .sent pending
    · cases step
  | hungUp =>
    simp only [next] at step
    split at step
    · next pending => exact Option.some.inj step ▸ .hungUp pending
    · cases step
  | received =>
    simp only [next] at step
    split at step
    · next target rest receiving waiting =>
      exact Option.some.inj step ▸ .received receiving waiting
    · cases step
  | lengthened =>
    simp only [next] at step
    split at step
    · next target took => exact Option.some.inj step ▸ .lengthened took
    · cases step
  | spawned =>
    simp only [next] at step
    split at step
    · next target lengthened => exact Option.some.inj step ▸ .spawned lengthened
    · cases step
  | disconnected =>
    simp only [next] at step
    split at step
    · next receiving empty hungUp =>
      exact Option.some.inj step ▸ .disconnected receiving empty hungUp
    · cases step
  | advanced index =>
    simp only [next] at step
    split at step
    · next worker found => exact .advanced found step
    · cases step

/-- The scope ends when the loop has ended and every worker has finished. -/
def State.Ended (state : State) : Prop :=
  state.receiver = .done ∧ ∀ worker ∈ state.workers, worker.phase.finished = true

instance (state : State) : Decidable state.Ended :=
  inferInstanceAs (Decidable (_ ∧ _))

/-- How many targets the loop has received. -/
def State.received (state : State) : Nat := state.workers.length + state.receiver.held.length

/-- The targets of the workers whose phase has the given property. -/
def targetsIn (property : Phase → Bool) (workers : List Worker) : List Target :=
  (workers.filter fun worker => property worker.phase).map (·.target)

section Workers

variable {workers : List Worker} {index : Nat} {target : Target} {phase reachedPhase : Phase}

/-- Setting a phase replaces one entry in the middle. -/
theorem set_split (found : workers[index]? = some ⟨target, phase⟩) :
    ∃ before after, workers = before ++ ⟨target, phase⟩ :: after ∧
      ∀ replacement, workers.set index replacement = before ++ replacement :: after := by
  obtain ⟨inside, entry⟩ := List.getElem?_eq_some_iff.mp found
  refine ⟨workers.take index, workers.drop (index + 1), ?_, ?_⟩
  · rw [← entry, ← List.drop_eq_getElem_cons inside, List.take_append_drop]
  · intro replacement
    exact List.set_eq_take_append_cons_drop.trans (if_pos inside)

theorem set_targets (found : workers[index]? = some ⟨target, phase⟩) :
    (workers.set index ⟨target, reachedPhase⟩).map (·.target) = workers.map (·.target) := by
  obtain ⟨before, after, split, replaced⟩ := set_split found
  rw [replaced, split, List.map_append, List.map_append, List.map_cons, List.map_cons]

/-- The targets that a property gains when one worker leaves a phase for another. -/
def gains (property : Phase → Bool) (phase reachedPhase : Phase) (target : Target) : List Target :=
  if property phase = property reachedPhase then [] else [target]

/-- A property that the worker does not lose has its targets and what it gains. -/
theorem targetsIn_set (property : Phase → Bool)
    (found : workers[index]? = some ⟨target, phase⟩)
    (lasting : property phase = true → property reachedPhase = true) :
    (targetsIn property (workers.set index ⟨target, reachedPhase⟩)).Perm
      (targetsIn property workers ++ gains property phase reachedPhase target) := by
  obtain ⟨before, after, split, replaced⟩ := set_split found
  rw [replaced, split]
  cases had : property phase with
  | true => simp [targetsIn, gains, had, lasting had]
  | false =>
    cases has : property reachedPhase with
    | false => simp [targetsIn, gains, had, has]
    | true =>
      simp only [targetsIn, gains, had, has, List.filter_append, List.filter_cons, List.map_append,
        if_true, if_false, List.map_cons, Bool.false_eq_true, List.append_assoc]
      exact List.Perm.append_left _ (List.perm_append_singleton target _).symm

/-- A worker is spawned without the property. -/
theorem targetsIn_spawned (property : Phase → Bool) (lacked : property .spawned = false) :
    targetsIn property (workers ++ [⟨target, .spawned⟩]) = targetsIn property workers := by
  simp [targetsIn, lacked]

/-- Once every worker has the property, it has all targets. -/
theorem targetsIn_all {property : Phase → Bool}
    (all : ∀ worker ∈ workers, property worker.phase = true) :
    targetsIn property workers = workers.map (·.target) := by
  rw [targetsIn, List.filter_eq_self.mpr all]

/-- A property that implies another among these workers has the same targets
where it is implied in turn. -/
theorem targetsIn_congr {property other : Phase → Bool}
    (same : ∀ worker ∈ workers, property worker.phase = other worker.phase) :
    targetsIn property workers = targetsIn other workers := by
  rw [targetsIn, targetsIn, List.filter_congr same]

end Workers

/-- Every target of the queue is in one place: with a worker, held by the main
thread, in the channel or still with the discovery thread, in the order in which
it is received. -/
structure Delivered (queue : List Target) (state : State) : Prop where
  order : state.workers.map (·.target) ++ state.receiver.held ++ state.channel ++
    state.discovery.getD [] = queue
  length : state.length = state.workers.length + state.receiver.ahead
  closed : state.receiver = .done → state.channel = [] ∧ state.discovery = none

/-- What the workers share agrees with their phases. -/
structure Accounted (state : State) : Prop where
  seen : ∀ address, address ∈ state.seenTargets ↔ address ∈ state.passed.map (·.address)
  passed : state.passed.Perm (targetsIn Phase.started state.workers)
  admitted : (firstSeen [] state.passed).Perm (targetsIn Phase.admitted state.workers)
  queries : state.queries.Perm ((targetsIn Phase.hasQueried state.workers).map fun target =>
    (target.address, queryStatus display (answers target.address)))
  reports : state.nodeReports.Perm ((targetsIn Phase.hasReported state.workers).map fun target =>
    (target.address, report display answers target))
  position : state.position = (targetsIn Phase.finished state.workers).length
  results : ∀ target result, ⟨target, .queried result⟩ ∈ state.workers →
    result = queryStatus display (answers target.address)

theorem start_delivered (initial : List Target) (discovery : Option (List Target)) :
    Delivered (initial ++ discovery.getD []) (start initial discovery) where
  order := rfl
  length := rfl
  closed := nofun

theorem start_accounted (initial : List Target) (discovery : Option (List Target)) :
    Accounted display answers (start initial discovery) where
  seen := by simp [start]
  passed := .refl _
  admitted := .refl _
  queries := .refl _
  reports := .refl _
  position := rfl
  results := by simp [start]

section Steps

variable {display answers} {state reached : State} {queue : List Target}

/-- A worker's access changes only its own phase among the workers, and nothing of
the loop, the channel, the discovery thread and the length. -/
theorem advance_frame {index : Nat} {target : Target} {phase : Phase}
    (step : advance display answers state index ⟨target, phase⟩ = some reached) :
    (∃ reachedPhase, reached.workers = state.workers.set index ⟨target, reachedPhase⟩) ∧
      reached.receiver = state.receiver ∧ reached.channel = state.channel ∧
      reached.discovery = state.discovery ∧ reached.length = state.length := by
  cases phase with
  | spawned =>
    simp only [advance] at step
    split at step <;> obtain rfl := Option.some.inj step <;> exact ⟨⟨_, rfl⟩, rfl, rfl, rfl, rfl⟩
  | querying | queried result | reported | skipping =>
    obtain rfl := Option.some.inj step
    exact ⟨⟨_, rfl⟩, rfl, rfl, rfl, rfl⟩
  | counted | skipped => cases step

/-- No step loses, doubles or reorders a target. -/
theorem next_delivered (delivered : Delivered queue state) {event : Event}
    (step : next display answers state event = some reached) : Delivered queue reached := by
  obtain ⟨order, length, closed⟩ := delivered
  cases step_of_next step with
  | sent pending =>
    refine ⟨?_, length, fun ended => ?_⟩
    · simpa [pending] using order
    · have hungUp := (closed ended).2
      rw [pending] at hungUp
      cases hungUp
  | hungUp pending =>
    exact ⟨by simpa [pending] using order, length, fun ended => ⟨(closed ended).1, rfl⟩⟩
  | received receiving waiting =>
    refine ⟨?_, ?_, nofun⟩
    · simpa [receiving, waiting, Receiver.held] using order
    · simpa [receiving, Receiver.ahead] using length
  | lengthened took =>
    refine ⟨?_, ?_, nofun⟩
    · simpa [took, Receiver.held] using order
    · simpa [took, Receiver.ahead] using length
  | spawned lengthened =>
    refine ⟨?_, ?_, nofun⟩
    · simpa [lengthened, Receiver.held] using order
    · simpa [lengthened, Receiver.ahead] using length
  | disconnected receiving empty hungUp =>
    refine ⟨?_, ?_, fun _ => ⟨empty, hungUp⟩⟩
    · simpa [receiving, Receiver.held] using order
    · simpa [receiving, Receiver.ahead] using length
  | advanced found accessed =>
    obtain ⟨⟨_, workers⟩, receiver, channel, discovery, reachedLength⟩ := advance_frame accessed
    refine ⟨?_, ?_, ?_⟩
    · rw [workers, set_targets found, receiver, channel, discovery]
      exact order
    · rw [reachedLength, workers, List.length_set, receiver]
      exact length
    · rw [receiver, channel, discovery]
      exact closed

/-- The account is kept when a worker leaves a phase for a later one and the shared
values gain what the properties of the phases gain. -/
theorem Accounted.move (accounted : Accounted display answers state) {index : Nat}
    {target : Target} {phase reachedPhase : Phase}
    (found : state.workers[index]? = some ⟨target, phase⟩)
    (workers : reached.workers = state.workers.set index ⟨target, reachedPhase⟩)
    (later : ∀ property ∈ [Phase.started, Phase.admitted, Phase.hasQueried, Phase.hasReported,
      Phase.finished], property phase = true → property reachedPhase = true)
    (seen : ∀ address,
      address ∈ reached.seenTargets ↔ address ∈ reached.passed.map (·.address))
    (passed : reached.passed = state.passed ++ gains Phase.started phase reachedPhase target)
    (admitted : firstSeen [] reached.passed =
      firstSeen [] state.passed ++ gains Phase.admitted phase reachedPhase target)
    (queries : reached.queries = state.queries ++
      (gains Phase.hasQueried phase reachedPhase target).map fun target =>
        (target.address, queryStatus display (answers target.address)))
    (reports : reached.nodeReports = state.nodeReports ++
      (gains Phase.hasReported phase reachedPhase target).map fun target =>
        (target.address, report display answers target))
    (position : reached.position = state.position +
      (gains Phase.finished phase reachedPhase target).length)
    (yields : ∀ result, reachedPhase = .queried result →
      result = queryStatus display (answers target.address)) :
    Accounted display answers reached := by
  have moved (property : Phase → Bool)
      (lasting : property phase = true → property reachedPhase = true) :
      (targetsIn property state.workers ++ gains property phase reachedPhase target).Perm
        (targetsIn property reached.workers) := by
    rw [workers]
    exact (targetsIn_set property found lasting).symm
  refine ⟨seen, ?_, ?_, ?_, ?_, ?_, ?_⟩
  · rw [passed]
    exact (accounted.passed.append_right _).trans (moved _ (later _ (by simp)))
  · rw [admitted]
    exact (accounted.admitted.append_right _).trans (moved _ (later _ (by simp)))
  · have gained := (moved Phase.hasQueried (later _ (by simp))).map fun target =>
      (target.address, queryStatus display (answers target.address))
    rw [List.map_append] at gained
    rw [queries]
    exact (accounted.queries.append_right _).trans gained
  · have gained := (moved Phase.hasReported (later _ (by simp))).map fun target =>
      (target.address, report display answers target)
    rw [List.map_append] at gained
    rw [reports]
    exact (accounted.reports.append_right _).trans gained
  · have gained := (moved Phase.finished (later _ (by simp))).length_eq
    rw [List.length_append] at gained
    rw [position, accounted.position, gained]
  · intro other result member
    rw [workers] at member
    obtain kept | own := List.mem_or_eq_of_mem_set member
    · exact accounted.results other result kept
    · obtain ⟨rfl, same⟩ := Worker.mk.inj own
      exact yields result same.symm

/-- A worker's access keeps the account of what the workers share.

Proof: one case for each phase. What the properties of phases gain by the access is
what the access records. -/
theorem advance_accounted (accounted : Accounted display answers state) {index : Nat}
    {target : Target} {phase : Phase} (found : state.workers[index]? = some ⟨target, phase⟩)
    (step : advance display answers state index ⟨target, phase⟩ = some reached) :
    Accounted display answers reached := by
  have lasts (result : QueryResult) : ∀ property ∈ [Phase.started, Phase.admitted, Phase.hasQueried,
      Phase.hasReported, Phase.finished],
      (property .querying = true → property (.queried result) = true) ∧
        (property (.queried result) = true → property .reported = true) := by
    simp [Phase.started, Phase.admitted, Phase.hasQueried, Phase.hasReported, Phase.finished]
  cases phase with
  | spawned =>
    have known : target.address ∈ state.seenTargets ↔
        target.address ∈ ([] : List String) ∨ target.address ∈ state.passed.map (·.address) := by
      simp [accounted.seen]
    simp only [advance] at step
    split at step
    · next repeated =>
      obtain rfl := Option.some.inj step
      have seen (address : String) : address ∈ state.seenTargets ↔
          address ∈ (state.passed ++ [target]).map (·.address) := by
        rw [List.map_append, List.mem_append, ← accounted.seen, List.map_singleton,
          List.mem_singleton]
        exact ⟨.inl, fun either => either.elim id fun same => same ▸ repeated⟩
      have admitted : firstSeen [] (state.passed ++ [target]) = firstSeen [] state.passed ++ [] := by
        rw [firstSeen_concat, if_pos (known.mp repeated)]
      exact accounted.move found rfl (by decide) seen rfl admitted (List.append_nil _).symm
        (List.append_nil _).symm rfl (by simp)
    · next fresh =>
      obtain rfl := Option.some.inj step
      have seen (address : String) : address ∈ target.address :: state.seenTargets ↔
          address ∈ (state.passed ++ [target]).map (·.address) := by
        rw [List.map_append, List.mem_append, ← accounted.seen, List.map_singleton,
          List.mem_singleton, List.mem_cons]
        exact or_comm
      have admitted : firstSeen [] (state.passed ++ [target]) =
          firstSeen [] state.passed ++ [target] := by
        rw [firstSeen_concat, if_neg fun already => fresh (known.mpr already)]
      exact accounted.move found rfl (by decide) seen rfl admitted (List.append_nil _).symm
        (List.append_nil _).symm rfl (by simp)
  | querying =>
    obtain rfl := Option.some.inj step
    exact accounted.move found rfl (fun property listed => (lasts _ property listed).1) accounted.seen
      (List.append_nil _).symm (List.append_nil _).symm rfl (List.append_nil _).symm rfl
      fun result same => (Phase.queried.inj same).symm
  | queried result =>
    obtain rfl := Option.some.inj step
    obtain rfl := accounted.results target result (List.mem_of_getElem? found)
    exact accounted.move found rfl (fun property listed => (lasts _ property listed).2) accounted.seen
      (List.append_nil _).symm (List.append_nil _).symm (List.append_nil _).symm rfl rfl (by simp)
  | reported =>
    obtain rfl := Option.some.inj step
    exact accounted.move found rfl (by decide) accounted.seen (List.append_nil _).symm
      (List.append_nil _).symm (List.append_nil _).symm (List.append_nil _).symm rfl (by simp)
  | skipping =>
    obtain rfl := Option.some.inj step
    exact accounted.move found rfl (by decide) accounted.seen (List.append_nil _).symm
      (List.append_nil _).symm (List.append_nil _).symm (List.append_nil _).symm rfl (by simp)
  | counted => cases step
  | skipped => cases step

/-- Every step keeps the account of what the workers share: only a worker's own
access touches it, and a new worker has none of the properties. -/
theorem next_accounted (accounted : Accounted display answers state) {event : Event}
    (step : next display answers state event = some reached) :
    Accounted display answers reached := by
  have ⟨seen, passed, admitted, queries, reports, position, results⟩ := accounted
  cases step_of_next step with
  | sent | hungUp | received | lengthened | disconnected =>
    exact ⟨seen, passed, admitted, queries, reports, position, results⟩
  | spawned lengthened =>
    refine ⟨seen, ?_, ?_, ?_, ?_, ?_, ?_⟩
    · exact (targetsIn_spawned Phase.started rfl).symm ▸ passed
    · exact (targetsIn_spawned Phase.admitted rfl).symm ▸ admitted
    · exact (targetsIn_spawned Phase.hasQueried rfl).symm ▸ queries
    · exact (targetsIn_spawned Phase.hasReported rfl).symm ▸ reports
    · exact (targetsIn_spawned Phase.finished rfl).symm ▸ position
    · intro target result member
      exact results target result (by simpa using member)
  | advanced found accessed => exact advance_accounted accounted found accessed

/-- Only a receipt adds to the received targets. -/
theorem next_received {event : Event} (step : next display answers state event = some reached) :
    reached.received = state.received + if event = .received then 1 else 0 := by
  cases step_of_next step with
  | sent | hungUp => simp [State.received]
  | received receiving => simp [State.received, Receiver.held, receiving]
  | lengthened took => simp [State.received, Receiver.held, took]
  | spawned lengthened => simp [State.received, Receiver.held, lengthened]
  | disconnected receiving => simp [State.received, Receiver.held, receiving]
  | advanced found accessed =>
    obtain ⟨⟨_, workers⟩, receiver, _⟩ := advance_frame accessed
    simp [State.received, workers, receiver]

/-- The targets received in a run are as many as its receipts. -/
theorem run_received {events : List Event}
    (ran : run (next display answers) state events = some reached) :
    reached.received = state.received + events.count .received := by
  induction events generalizing state with
  | nil =>
    obtain rfl := Option.some.inj ran
    rfl
  | cons event rest inductionHypothesis =>
    obtain ⟨middle, step, remaining⟩ := (run_cons_iff _ _ _ _ _).mp ran
    rw [inductionHypothesis remaining, next_received step, List.count_cons, beq_eq_decide]
    by_cases receipt : event = .received
    · simp only [receipt, if_true, decide_true]
      omega
    · simp only [receipt, if_false, decide_false, Bool.false_eq_true]
      omega

end Steps

section Ending

/-- How many accesses a worker has left, at most. -/
def Phase.remaining : Phase → Nat
  | .spawned => 4
  | .querying => 3
  | .queried _ => 2
  | .reported | .skipping => 1
  | .counted | .skipped => 0

/-- How many steps are left of the target that the main thread is at. -/
def Receiver.remaining : Receiver → Nat
  | .receiving => 1
  | .took _ => 7
  | .lengthened _ => 6
  | .done => 0

/-- How many steps the discovery thread causes. -/
def discoveryRemaining : Option (List Target) → Nat
  | some pending => 8 * pending.length + 1
  | none => 0

/-- A bound on the steps that are left. -/
def State.remaining (state : State) : Nat :=
  discoveryRemaining state.discovery + 7 * state.channel.length + state.receiver.remaining +
    (state.workers.map (·.phase.remaining)).sum

variable {display answers} {state reached : State}

/-- A worker's access takes it to a phase with fewer accesses left. -/
theorem advance_remaining {index : Nat} {target : Target} {phase : Phase}
    (found : state.workers[index]? = some ⟨target, phase⟩)
    (step : advance display answers state index ⟨target, phase⟩ = some reached) :
    (reached.workers.map (·.phase.remaining)).sum <
      (state.workers.map (·.phase.remaining)).sum := by
  have moved (reachedPhase : Phase) (fewer : reachedPhase.remaining < phase.remaining) :
      ((state.workers.set index ⟨target, reachedPhase⟩).map (·.phase.remaining)).sum <
        (state.workers.map (·.phase.remaining)).sum := by
    obtain ⟨before, after, split, replaced⟩ := set_split found
    rw [replaced, split]
    simp only [List.map_append, List.map_cons, List.sum_append, List.sum_cons]
    omega
  cases phase with
  | spawned =>
    simp only [advance] at step
    split at step <;> obtain rfl := Option.some.inj step
    · exact moved .skipping (by decide)
    · exact moved .querying (by decide)
  | querying =>
    obtain rfl := Option.some.inj step
    exact moved (.queried _) (by simp [Phase.remaining])
  | queried result =>
    obtain rfl := Option.some.inj step
    exact moved .reported (by simp [Phase.remaining])
  | reported =>
    obtain rfl := Option.some.inj step
    exact moved .counted (by decide)
  | skipping =>
    obtain rfl := Option.some.inj step
    exact moved .skipped (by decide)
  | counted => cases step
  | skipped => cases step

/-- Every step leaves fewer steps. -/
theorem next_remaining {event : Event} (step : next display answers state event = some reached) :
    reached.remaining < state.remaining := by
  cases step_of_next step with
  | sent pending =>
    simp only [State.remaining, discoveryRemaining, pending, List.length_append, List.length_cons,
      List.length_nil]
    omega
  | hungUp pending =>
    simp only [State.remaining, discoveryRemaining, pending, List.length_nil]
    omega
  | received receiving waiting =>
    simp only [State.remaining, Receiver.remaining, receiving, waiting, List.length_cons]
    omega
  | lengthened took =>
    simp only [State.remaining, Receiver.remaining, took]
    omega
  | spawned lengthened =>
    simp only [State.remaining, Receiver.remaining, Phase.remaining, lengthened, List.map_append,
      List.map_cons, List.map_nil, List.sum_append, List.sum_cons, List.sum_nil]
    omega
  | disconnected receiving empty hungUp =>
    simp only [State.remaining, Receiver.remaining, receiving]
    omega
  | advanced found accessed =>
    obtain ⟨_, receiver, channel, discovery, _⟩ := advance_frame accessed
    have fewer := advance_remaining found accessed
    simp only [State.remaining, receiver, channel, discovery]
    omega

/-- No run is longer than the bound of the state that it starts in. -/
theorem run_bounded {events : List Event}
    (ran : run (next display answers) state events = some reached) :
    events.length + reached.remaining ≤ state.remaining := by
  induction events generalizing state with
  | nil =>
    obtain rfl := Option.some.inj ran
    simp
  | cons event rest inductionHypothesis =>
    obtain ⟨middle, step, remaining⟩ := (run_cons_iff _ _ _ _ _).mp ran
    have fewer := next_remaining step
    have bound := inductionHypothesis remaining
    rw [List.length_cons]
    omega

/-- A worker that has not finished has an access to make. -/
theorem advance_enabled (display : Rest.StatusCode → String) (answers : String → Answer)
    (state : State) (index : Nat) (worker : Worker) (unfinished : worker.phase.finished ≠ true) :
    ∃ reached, advance display answers state index worker = some reached := by
  obtain ⟨target, phase⟩ := worker
  cases phase with
  | spawned =>
    by_cases repeated : target.address ∈ state.seenTargets
    · exact ⟨_, if_pos repeated⟩
    · exact ⟨_, if_neg repeated⟩
  | querying | queried result | reported | skipping => exact ⟨_, rfl⟩
  | counted | skipped => exact absurd rfl unfinished

/-- The scope does not get stuck before it ends.

Proof: follow the main thread. Where it waits for a target, the channel holds one or
the discovery thread has a step; where it has ended, some worker has not finished. -/
theorem next_enabled (display : Rest.StatusCode → String) (answers : String → Answer)
    (state : State) (unfinished : ¬ state.Ended) :
    ∃ event reached, next display answers state event = some reached := by
  cases receiver : state.receiver with
  | receiving =>
    cases channel : state.channel with
    | cons target rest => exact ⟨.received, _, by simp only [next, receiver, channel]; rfl⟩
    | nil =>
      cases discovery : state.discovery with
      | none => exact ⟨.disconnected, _, by simp only [next, receiver, channel, discovery]; rfl⟩
      | some pending =>
        cases pending with
        | nil => exact ⟨.hungUp, _, by simp only [next, discovery]; rfl⟩
        | cons target rest => exact ⟨.sent, _, by simp only [next, discovery]; rfl⟩
  | took target => exact ⟨.lengthened, _, by simp only [next, receiver]; rfl⟩
  | lengthened target => exact ⟨.spawned, _, by simp only [next, receiver]; rfl⟩
  | done =>
    have working : ∃ worker ∈ state.workers, worker.phase.finished ≠ true := by
      by_contra none
      exact unfinished ⟨receiver, fun worker member =>
        by_contra fun notFinished => none ⟨worker, member, notFinished⟩⟩
    obtain ⟨worker, member, notFinished⟩ := working
    obtain ⟨index, found⟩ := List.getElem?_of_mem member
    obtain ⟨reached, step⟩ := advance_enabled display answers state index worker notFinished
    exact ⟨.advanced index, reached, by simp only [next, found, step]⟩

end Ending

end Brewmble.StatusWorkers
