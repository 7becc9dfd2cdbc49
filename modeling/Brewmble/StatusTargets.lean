import Brewmble.CliSteps
import Brewmble.StatusWorkers

/-!
# Each status target is queried once

The targets come from three sources: the arguments, where a name or an address of a
node stands for the address of the first such node; the whole profile, without
arguments and discovery; and discovery. The first two are a set that is iterated in
any order, the third is a list that may repeat addresses of its own and of the set.
The scope runs the concurrent part of the command on them.

Once the scope ends, the addresses that were queried are those of the three sources,
each once, and so are the addresses that reports were pushed for. What is reported is what
the query of the address yields. The scope can
always continue until it ends, and its length is bounded by its targets.
-/

namespace Brewmble.StatusTargets

open CliConfig Execution StatusSummary StatusWorkers
open CliCommands hiding Event

variable (env : Environment) (args : StatusArgs) (profileNodes : List NodeConfig)

/-- An address that the status command is to query. -/
def Wanted (address : String) : Prop :=
  Asked args profileNodes address ∨ Discovered env args address

/-- Every wanted address occurs once, and no other one does. -/
def Once (addresses : List String) : Prop :=
  ∀ address, (Wanted env args profileNodes address → addresses.count address = 1) ∧
    (¬ Wanted env args profileNodes address → address ∉ addresses)

/-- The initial targets with the names of their first nodes. -/
def initialQueue : List Target :=
  (initialTargets args profileNodes).map fun address =>
    ⟨address, (profileNodes.find? (·.address = address)).bind (·.name)⟩

/-- The scope is entered with the initial targets sent in some order, and with
discovery running where all nodes are asked for. -/
def enter (initial : List Target) : State :=
  start initial (if args.discoverAll then some (discoveredTargets env args) else none)

theorem enter_queue (initial : List Target) :
    Delivered (initial ++ discoveredTargets env args) (enter env args initial) := by
  have delivered := start_delivered initial
    (if args.discoverAll then some (discoveredTargets env args) else none)
  by_cases all : args.discoverAll = true
  · simpa [enter, all] using delivered
  · simpa [enter, all, discoveredTargets] using delivered

/-- The addresses that pass the seen set first are the wanted ones, once each. -/
theorem firstSeen_once {order : List Target}
    (arranged : order.Perm (statusQueue env args profileNodes)) :
    Once env args profileNodes ((firstSeen [] order).map (·.address)) := by
  have listed (address : String) : address ∈ (firstSeen [] order).map (·.address) ↔
      Wanted env args profileNodes address := by
    rw [firstSeen_addresses, (arranged.map (·.address)).mem_iff, mem_statusQueue]
    simp [Wanted]
  intro address
  refine ⟨fun wanted => ?_, fun unwanted member => unwanted ((listed address).mp member)⟩
  exact List.count_eq_one_of_mem (firstSeen_distinct order []) ((listed address).mpr wanted)

theorem Once.perm {addresses others : List String} (once : Once env args profileNodes addresses)
    (same : others.Perm addresses) : Once env args profileNodes others := by
  intro address
  rw [same.count_eq, same.mem_iff]
  exact once address

section Scope

variable {env args profileNodes}
variable {display : Rest.StatusCode → String} {answers : String → Answer}
variable {initial : List Target} {events : List Event} {reached : State}

/-- The state of a run agrees with its queue and with the phases of its workers. -/
theorem scope_invariant
    (ran : run (next display answers) (enter env args initial) events = some reached) :
    Delivered (initial ++ discoveredTargets env args) reached ∧
      Accounted display answers reached :=
  ⟨run_preserves _ (Delivered (initial ++ discoveredTargets env args))
      (fun _ _ _ delivered step => next_delivered delivered step) (enter_queue env args initial) ran,
    run_preserves _ (Accounted display answers)
      (fun _ _ _ accounted step => next_accounted accounted step) (start_accounted _ _ _ _) ran⟩

/-- The position never passes the length: a counted worker was announced. -/
theorem position_le_length
    (ran : run (next display answers) (enter env args initial) events = some reached) :
    reached.position ≤ reached.length := by
  obtain ⟨delivered, accounted⟩ := scope_invariant ran
  have counted : (targetsIn Phase.finished reached.workers).length ≤ reached.workers.length := by
    rw [targetsIn, List.length_map]
    exact List.length_filter_le _ _
  rw [accounted.position, delivered.length]
  omega

/-- What has been queried is recorded with what the query yields. -/
theorem queries_yield
    (ran : run (next display answers) (enter env args initial) events = some reached) :
    ∀ query ∈ reached.queries, query.2 = queryStatus display (answers query.1) := by
  intro query member
  obtain ⟨target, _, rfl⟩ :=
    List.mem_map.mp ((scope_invariant ran).2.queries.mem_iff.mp member)
  rfl

/-- When the scope ends, all targets of the queue have passed the seen set, the
first of each address has been queried and reported, and the bar is full. -/
theorem scope_ended
    (ran : run (next display answers) (enter env args initial) events = some reached)
    (ended : reached.Ended) :
    reached.passed.Perm (initial ++ discoveredTargets env args) ∧
      reached.queries.Perm ((firstSeen [] reached.passed).map fun target =>
        (target.address, queryStatus display (answers target.address))) ∧
      reached.nodeReports.Perm ((firstSeen [] reached.passed).map fun target =>
        (target.address, report display answers target)) ∧
      reached.position = reached.received ∧ reached.length = reached.received := by
  obtain ⟨delivered, accounted⟩ := scope_invariant ran
  obtain ⟨loopDone, workersDone⟩ := ended
  obtain ⟨drained, hungUp⟩ := delivered.closed loopDone
  have all : reached.workers.map (·.target) = initial ++ discoveredTargets env args := by
    simpa [loopDone, drained, hungUp, Receiver.held] using delivered.order
  have everyStarted : ∀ worker ∈ reached.workers, worker.phase.started = true := by
    intro worker member
    have finished := workersDone worker member
    revert finished
    cases worker.phase <;> simp [Phase.finished, Phase.started]
  have sameAs (property : Phase → Bool)
      (same : ∀ phase : Phase, phase.finished = true → property phase = phase.admitted) :
      targetsIn property reached.workers = targetsIn Phase.admitted reached.workers :=
    targetsIn_congr fun worker member => same worker.phase (workersDone worker member)
  have received : reached.received = reached.workers.length := by
    simp [State.received, loopDone, Receiver.held]
  refine ⟨?_, ?_, ?_, ?_, ?_⟩
  · have passed := accounted.passed
    rw [targetsIn_all everyStarted, all] at passed
    exact passed
  · have queried := sameAs Phase.hasQueried fun phase => by
      cases phase <;> simp [Phase.finished, Phase.hasQueried, Phase.admitted]
    have queries := accounted.queries
    rw [queried] at queries
    exact queries.trans (accounted.admitted.symm.map _)
  · have pushed := sameAs Phase.hasReported fun phase => by
      cases phase <;> simp [Phase.finished, Phase.hasReported, Phase.admitted]
    have reports := accounted.reports
    rw [pushed] at reports
    exact reports.trans (accounted.admitted.symm.map _)
  · rw [accounted.position, targetsIn_all workersDone, List.length_map, received]
  · simp [delivered.length, received, loopDone, Receiver.ahead]

/-- The sequential account of the status command contacts the addresses that the
scope queries. -/
theorem scope_contacts
    (arranged : initial.Perm (initialQueue args profileNodes))
    (ran : run (next display answers) (enter env args initial) events = some reached)
    (ended : reached.Ended) :
    (reached.queries.map (·.1)).Perm
      ((firstSeen [] (env.schedule.arrange (statusQueue env args profileNodes))).map
        (·.address)) := by
  obtain ⟨passed, recorded, _⟩ := scope_ended ran ended
  have queries := recorded.map (·.1)
  rw [List.map_map] at queries
  have order : reached.passed.Perm (statusQueue env args profileNodes) :=
    passed.trans (arranged.append_right _)
  refine queries.trans ((List.perm_ext_iff_of_nodup (firstSeen_distinct _ _)
    (firstSeen_distinct _ _)).mpr ?_)
  intro address
  rw [firstSeen_addresses, firstSeen_addresses, (order.map (·.address)).mem_iff,
    ((env.schedule.perm _).map (·.address)).mem_iff]

end Scope

/-- Each status target is queried once, whatever the schedule.

In every state of every run the position is at most the length. When the scope has
ended, every wanted address was queried once and reported once, no other address
was, what was queried is what the query of the address yields, both counters are the
number of received targets, and the reports are those of one status command over the
queue. Until the scope ends some step is enabled, and no run is longer than the bound of
its targets.

Proof: the queue is distributed over the threads without loss, and what the workers
recorded is what their phases say. At the end every worker has passed the seen set,
so the admitted ones are the first of each address. -/
theorem status_targets_queried_once (display : Rest.StatusCode → String)
    (answers : String → Answer) (initial : List Target)
    (arranged : initial.Perm (initialQueue args profileNodes)) (events : List Event)
    (reached : State)
    (ran : run (next display answers) (enter env args initial) events = some reached) :
    reached.position ≤ reached.length ∧
      (reached.Ended →
        Once env args profileNodes (reached.queries.map (·.1)) ∧
        (∀ query ∈ reached.queries, query.2 = queryStatus display (answers query.1)) ∧
        Once env args profileNodes (reached.nodeReports.map (·.1)) ∧
        reached.position = events.count .received ∧
        reached.length = events.count .received ∧
        Reported display answers (statusQueue env args profileNodes)
          (reached.nodeReports.map (·.2))) ∧
      (¬ reached.Ended → ∃ event later, next display answers reached event = some later) ∧
      events.length + reached.remaining ≤ (enter env args initial).remaining := by
  refine ⟨position_le_length ran, fun ended => ?_, next_enabled display answers reached,
    run_bounded ran⟩
  obtain ⟨passed, recorded, reports, position, length⟩ := scope_ended ran ended
  have queries := recorded.map (·.1)
  rw [List.map_map] at queries
  have order : reached.passed.Perm (statusQueue env args profileNodes) :=
    passed.trans (arranged.append_right _)
  have once := firstSeen_once env args profileNodes order
  have received : reached.received = events.count .received := by
    rw [run_received ran]
    simp [enter, start, State.received, Receiver.held]
  have reportedAddresses : (reached.nodeReports.map (·.1)).Perm
      ((firstSeen [] reached.passed).map (·.address)) := by
    have mapped := reports.map (·.1)
    rwa [List.map_map] at mapped
  have pushed : (reached.nodeReports.map (·.2)).Perm
      ((firstSeen [] reached.passed).map (report display answers)) := by
    have mapped := reports.map (·.2)
    rwa [List.map_map] at mapped
  exact ⟨once.perm env args profileNodes queries, queries_yield ran,
    once.perm env args profileNodes reportedAddresses, position.trans received,
    length.trans received, reached.passed, order, pushed⟩

/-- Discovery finds the node at its address twice and one more node. -/
def findsTwice : Environment where
  fetch := fun _ _ _ => .error "no fetch"
  saveFault := none
  clientFault := none
  discovered := .ok [("10.0.0.2:3625", "pi"), ("10.0.0.3:3625", "nas"), ("10.0.0.2:3625", "pi")]
  schedule := ⟨id, fun _ => .refl _⟩

/-- A profile with one named node. -/
def onePi : List NodeConfig := [⟨some "pi", "10.0.0.2:3625", none⟩]

/-- The worker of a discovered target passes the seen set before that of the named
node at the same address, and a third one comes last. -/
def overtaken : List StatusWorkers.Event :=
  [.received, .sent, .lengthened, .spawned, .received, .sent, .lengthened, .spawned,
    .advanced 1, .advanced 0, .advanced 0, .sent, .received, .hungUp, .lengthened, .spawned,
    .advanced 2, .received, .advanced 2, .advanced 1, .lengthened, .spawned, .disconnected,
    .advanced 3, .advanced 3, .advanced 1, .advanced 1, .advanced 2, .advanced 2]

/-- Both nodes are queried once, though four targets are received and the named
node is queried for a discovered target. -/
theorem overtaken_queried_once :
    ∃ reached, run (next (fun _ => "") fun _ => .unreachable "timeout")
        (enter findsTwice ⟨true, ["pi"]⟩ [⟨"10.0.0.2:3625", some "pi"⟩]) overtaken = some reached ∧
      reached.Ended ∧ reached.queries.map (·.1) = ["10.0.0.3:3625", "10.0.0.2:3625"] ∧
      Once findsTwice ⟨true, ["pi"]⟩ onePi (reached.queries.map (·.1)) ∧
      reached.position = 4 ∧ reached.length = 4 := by
  have completed : ∃ reached, run (next (fun _ => "") fun _ => .unreachable "timeout")
      (enter findsTwice ⟨true, ["pi"]⟩ [⟨"10.0.0.2:3625", some "pi"⟩]) overtaken = some reached ∧
      reached.Ended ∧ reached.queries.map (·.1) = ["10.0.0.3:3625", "10.0.0.2:3625"] :=
    ⟨_, rfl, by decide, rfl⟩
  obtain ⟨reached, ran, ended, queries⟩ := completed
  obtain ⟨_, whenEnded, _⟩ := status_targets_queried_once findsTwice ⟨true, ["pi"]⟩ onePi _ _
    [⟨"10.0.0.2:3625", some "pi"⟩] (.refl _) overtaken reached ran
  obtain ⟨once, _, _, position, length, _⟩ := whenEnded ended
  exact ⟨reached, ran, ended, queries, once, position, length⟩

end Brewmble.StatusTargets
