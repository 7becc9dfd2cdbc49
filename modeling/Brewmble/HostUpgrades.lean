import Brewmble.FullUpgrade
import Brewmble.UpgradeLock
import Mathlib.Data.List.Nodup

/-!
# The upgrades of one host are serial

The daemon's upgrade tasks run the commands of the package manager. A task that has
called `full_upgrade` is at one point of the script; it gives a command, awaits the reply
and goes on by it, and it returns what the script is done with. A panic may return from
any point between two commands. Every step of a script may come between any steps of the
handlers and of the other tasks.

Nothing in a script looks at the other tasks. That the commands of two upgrades are never
mixed rests on the lock alone, and what is known of one script holds for the block of
its commands in the common log.

The log has the commands of `full_upgrade` only. A status request or a dry run looks for
updates with commands of its own, which no lock keeps apart from those of an upgrade; they
are not modelled here, nor is the abort of a task at the end of the daemon.
-/

namespace Brewmble.HostUpgrades

open CommandLines Daemon FullUpgrade Scripts Execution UpgradeLock

/-- The package managers that the daemon chooses between. -/
inductive Manager where
  | apt
  | brew
  deriving DecidableEq, Repr

namespace Manager

def fullUpgrade : Manager → Bool → Bool → Commands (Except String Unit)
  | .apt => Apt.fullUpgrade
  | .brew => Brew.fullUpgrade

def upgrader : Manager → Upgrader
  | .apt => FullUpgrade.apt
  | .brew => FullUpgrade.brew

theorem fullUpgrade_eq (manager : Manager) (clean remove : Bool) :
    manager.fullUpgrade clean remove = manager.upgrader.fullUpgrade clean remove := by
  cases manager with
  | apt => exact apt_upgrade clean remove
  | brew => exact brew_upgrade clean remove

end Manager

/-- Where the task of one request stands in the script. -/
inductive Thread where
  | absent
  | ready (script : Commands (Except String Unit))
  | awaiting (command : CommandLine) (next : Reply → Commands (Except String Unit))

/-- How the end of a script is returned. A panic may come from anywhere. -/
def finishes : Commands (Except String Unit) → Outcome → Bool
  | _, .panic => true
  | .done (.ok ()), .ok => true
  | .done (.error err), .err message => decide (err = message)
  | _, _ => false

/-- What upgrades have given and got. -/
inductive Entry where
  | issued (request : Nat) (command : CommandLine)
  | replied (request : Nat) (command : CommandLine) (reply : Reply)
  deriving DecidableEq, Repr

structure Host where
  daemon : Daemon.State
  threads : Nat → Thread
  log : List Entry

def initial : Host where
  daemon := Daemon.initial
  threads _ := .absent
  log := []

def Host.setThread (host : Host) (request : Nat) (thread : Thread) : Host :=
  { host with threads := Function.update host.threads request thread }

inductive Event where
  | daemon (event : Daemon.Event)
  | issued (request : Nat)
  | replied (request : Nat) (reply : Reply)

section Steps

variable (manager : Manager) (state : AppState)

def next (host : Host) : Event → Option Host
  | .daemon (.upgradeStarted request) =>
    (Daemon.next state host.daemon (.upgradeStarted request)).map fun daemon =>
      { host.setThread request (.ready (manager.fullUpgrade state.autoClean state.autoRemove)) with
        daemon := daemon }
  | .daemon (.upgradeReturned request outcome) =>
    match host.threads request with
    | .ready script =>
      if finishes script outcome then
        (Daemon.next state host.daemon (.upgradeReturned request outcome)).map fun daemon =>
          { host.setThread request .absent with daemon := daemon }
      else none
    | _ => none
  | .daemon event =>
    (Daemon.next state host.daemon event).map fun daemon => { host with daemon := daemon }
  | .issued request =>
    match host.threads request with
    | .ready (.perform command rest) =>
      some { host.setThread request (.awaiting command rest) with
        log := host.log ++ [.issued request command] }
    | _ => none
  | .replied request reply =>
    match host.threads request with
    | .awaiting command rest =>
      some { host.setThread request (.ready (rest reply)) with
        log := host.log ++ [.replied request command reply] }
    | _ => none

/-- The steps of a host. -/
inductive Step (host : Host) : Event → Host → Prop
  | began (request : Nat) {daemon : Daemon.State} (stands : host.daemon.upgrades request = .ready)
      (step : Daemon.next state host.daemon (.upgradeStarted request) = some daemon) :
      Step host (.daemon (.upgradeStarted request))
        { host.setThread request (.ready (manager.fullUpgrade state.autoClean state.autoRemove)) with
          daemon := daemon }
  | returned (request : Nat) (outcome : Outcome) {daemon : Daemon.State}
      {script : Commands (Except String Unit)} (thread : host.threads request = .ready script)
      (finished : finishes script outcome = true)
      (step : Daemon.next state host.daemon (.upgradeReturned request outcome) = some daemon) :
      Step host (.daemon (.upgradeReturned request outcome))
        { host.setThread request .absent with daemon := daemon }
  | other (event : Daemon.Event) {daemon : Daemon.State}
      (notStarted : ∀ request, event ≠ .upgradeStarted request)
      (notReturned : ∀ request outcome, event ≠ .upgradeReturned request outcome)
      (step : Daemon.next state host.daemon event = some daemon) :
      Step host (.daemon event) { host with daemon := daemon }
  | issued (request : Nat) {command : CommandLine} {rest : Reply → Commands (Except String Unit)}
      (thread : host.threads request = .ready (.perform command rest)) :
      Step host (.issued request) { host.setThread request (.awaiting command rest) with
        log := host.log ++ [.issued request command] }
  | replied (request : Nat) (reply : Reply) {command : CommandLine}
      {rest : Reply → Commands (Except String Unit)}
      (thread : host.threads request = .awaiting command rest) :
      Step host (.replied request reply) { host.setThread request (.ready (rest reply)) with
        log := host.log ++ [.replied request command reply] }

variable {manager state} {host reached : Host} {event : Event}

theorem step_of_next (step : next manager state host event = some reached) :
    Step manager state host event reached := by
  cases event with
  | daemon event =>
    cases event with
    | upgradeStarted request =>
      obtain ⟨daemon, moved, rfl⟩ := Option.map_eq_some_iff.mp step
      have stands : host.daemon.upgrades request = .ready := by
        cases Daemon.step_of_next moved with
        | moved _ _ _ _ handled =>
          obtain impossible | ⟨_, impossible⟩ := handled <;> cases impossible
        | started _ stands => exact stands
      exact .began request stands moved
    | upgradeReturned request outcome =>
      simp only [next] at step
      split at step
      · next script thread =>
        obtain ⟨finished, step⟩ := Option.ite_none_right_eq_some.mp step
        obtain ⟨daemon, moved, rfl⟩ := Option.map_eq_some_iff.mp step
        exact .returned request outcome thread finished moved
      · cases step
    | _ =>
      obtain ⟨daemon, moved, rfl⟩ := Option.map_eq_some_iff.mp step
      exact .other _ (by simp) (by simp) moved
  | issued request =>
    simp only [next] at step
    split at step
    · next command rest thread => exact Option.some.inj step ▸ .issued request thread
    · cases step
  | replied request reply =>
    simp only [next] at step
    split at step
    · next command rest thread => exact Option.some.inj step ▸ .replied request reply thread
    · cases step

variable {request : Nat} {command : CommandLine} {rest : Reply → Commands (Except String Unit)}
  {script : Commands (Except String Unit)} {outcome : Outcome}

theorem next_issued (thread : host.threads request = .ready (.perform command rest)) :
    next manager state host (.issued request) =
      some { host.setThread request (.awaiting command rest) with
        log := host.log ++ [.issued request command] } := by
  simp only [next, thread]

theorem next_replied (thread : host.threads request = .awaiting command rest) (reply : Reply) :
    next manager state host (.replied request reply) =
      some { host.setThread request (.ready (rest reply)) with
        log := host.log ++ [.replied request command reply] } := by
  simp only [next, thread]

theorem next_started (ready : host.daemon.upgrades request = .ready) :
    next manager state host (.daemon (.upgradeStarted request)) =
      some { host.setThread request (.ready (manager.fullUpgrade state.autoClean state.autoRemove)) with
        daemon := { host.daemon.setUpgrade request .upgrading with
          fullUpgradeCalls := request :: host.daemon.fullUpgradeCalls } } := by
  simp only [next, Daemon.next, ready, if_true, Option.map_some]

theorem next_returned (thread : host.threads request = .ready script)
    (finished : finishes script outcome = true) (upgrading : host.daemon.upgrades request = .upgrading) :
    next manager state host (.daemon (.upgradeReturned request outcome)) =
      some { host.setThread request .absent with
        daemon := host.daemon.setUpgrade request (.returned outcome) } := by
  simp only [next, thread, finished, Daemon.next, upgrading, if_true, Option.map_some]

end Steps

section Blocks

/-- The commands of one request: those that got a reply, and the one that awaits it. -/
structure Block where
  request : Nat
  trace : List (CommandLine × Reply)
  pending : Option CommandLine

def Block.entries (block : Block) : List Entry :=
  block.trace.flatMap (fun given =>
    [.issued block.request given.1, .replied block.request given.1 given.2]) ++
    (block.pending.map (Entry.issued block.request)).toList

/-- What the block of a request tells about its task and its thread. -/
inductive Stands (script : Commands (Except String Unit)) (block : Block) : UpgradeTask → Thread → Prop
  | ready {left : Commands (Except String Unit)} (plays : Plays script block.trace left)
      (answered : block.pending = none) : Stands script block .upgrading (.ready left)
  | awaiting {command : CommandLine} {rest : Reply → Commands (Except String Unit)}
      (plays : Plays script block.trace (.perform command rest))
      (pending : block.pending = some command) : Stands script block .upgrading (.awaiting command rest)
  | returned {left : Commands (Except String Unit)} {outcome : Outcome}
      (plays : Plays script block.trace left) (answered : block.pending = none)
      (finished : finishes left outcome = true) : Stands script block (.returned outcome) .absent
  | ended {left : Commands (Except String Unit)} {outcome : Outcome}
      (plays : Plays script block.trace left) (answered : block.pending = none)
      (finished : finishes left outcome = true) : Stands script block (.ended outcome) .absent

/-- The log is made of the blocks of the calls in their order, and all tasks but the last
one have ended. -/
structure Serial (script : Commands (Except String Unit)) (host : Host) (blocks : List Block) : Prop where
  calls : blocks.map Block.request = host.daemon.fullUpgradeCalls.reverse
  log : host.log = blocks.flatMap Block.entries
  stands : ∀ block ∈ blocks,
    Stands script block (host.daemon.upgrades block.request) (host.threads block.request)
  ended : ∀ block ∈ blocks.dropLast, ∃ outcome, host.daemon.upgrades block.request = .ended outcome
  absent : ∀ request, request ∉ host.daemon.fullUpgradeCalls → host.threads request = .absent

variable {script : Commands (Except String Unit)} {host : Host} {blocks : List Block}

theorem initial_serial (script : Commands (Except String Unit)) : Serial script initial [] where
  calls := rfl
  log := rfl
  stands := by simp
  ended := by simp
  absent _ _ := rfl

/-- Where a thread is under way, its task is upgrading and its block is the last one.

Proof: the request has called, so it has a block. A block before the last one belongs to
an ended task, whose thread is absent. -/
theorem running_last (serial : Serial script host blocks) {request : Nat}
    (running : host.threads request ≠ .absent) :
    ∃ earlier last, blocks = earlier ++ [last] ∧ last.request = request ∧
      host.daemon.upgrades request = .upgrading := by
  have called : request ∈ blocks.map Block.request := by
    rw [serial.calls, List.mem_reverse]
    by_contra notCalled
    exact running (serial.absent request notCalled)
  obtain ⟨block, member, rfl⟩ := List.mem_map.mp called
  have upgrading : host.daemon.upgrades block.request = .upgrading := by
    have stands := serial.stands block member
    generalize host.daemon.upgrades block.request = task at stands
    generalize host.threads block.request = thread at stands running
    cases stands with
    | ready _ _ => rfl
    | awaiting _ _ => rfl
    | returned _ _ _ => exact absurd rfl running
    | ended _ _ _ => exact absurd rfl running
  have nonempty : blocks ≠ [] := List.ne_nil_of_mem member
  refine ⟨blocks.dropLast, blocks.getLast nonempty, (List.dropLast_concat_getLast nonempty).symm,
    ?_, upgrading⟩
  rw [← List.dropLast_concat_getLast nonempty, List.mem_append, List.mem_singleton] at member
  obtain before | same := member
  · obtain ⟨outcome, ended⟩ := serial.ended block before
    rw [upgrading] at ended
    cases ended
  · rw [← same]

/-- An entry of the running upgrade continues its block. -/
theorem serial_continues {earlier : List Block} {last continued : Block} {entry : Entry} {thread : Thread}
    (serial : Serial script host (earlier ++ [last])) (same : continued.request = last.request)
    (upgrading : host.daemon.upgrades last.request = .upgrading)
    (entries : continued.entries = last.entries ++ [entry])
    (stands : Stands script continued .upgrading thread) :
    Serial script { host.setThread last.request thread with log := host.log ++ [entry] }
      (earlier ++ [continued]) where
  calls := by simpa [same, Host.setThread] using serial.calls
  log := by simp [serial.log, entries]
  stands := by
    intro block member
    obtain before | rfl := List.mem_append.mp member |>.imp_right List.mem_singleton.mp
    · obtain ⟨outcome, ended⟩ := serial.ended block (by simpa using before)
      have distinct : block.request ≠ last.request := by
        intro equal
        rw [equal, upgrading] at ended
        cases ended
      simpa [Host.setThread, distinct] using serial.stands block (by simp [before])
    · simpa [Host.setThread, same, upgrading] using stands
  ended := by
    intro block before
    exact serial.ended block (by simpa using before)
  absent := by
    intro request notCalled
    have distinct : request ≠ last.request := by
      rintro rfl
      have called : last.request ∈ (earlier ++ [last]).map Block.request := by simp
      rw [serial.calls, List.mem_reverse] at called
      exact notCalled called
    simpa [Host.setThread, distinct] using serial.absent request notCalled

end Blocks

section Runs

variable {manager : Manager} {state : AppState} {host reached : Host} {event : Event}
  {blocks : List Block}

/-- A daemon step that neither starts nor returns an upgrade keeps the calls and the tasks
that have called, up to the drop of a guard. -/
theorem tasks_kept {daemon moved : Daemon.State} {event : Daemon.Event} (tracked : Tracked state daemon)
    (notStarted : ∀ request, event ≠ .upgradeStarted request)
    (notReturned : ∀ request outcome, event ≠ .upgradeReturned request outcome)
    (step : Daemon.next state daemon event = some moved) :
    moved.fullUpgradeCalls = daemon.fullUpgradeCalls ∧
      ∀ request, (daemon.upgrades request).called = true →
        moved.upgrades request = daemon.upgrades request ∨
          ∃ outcome, daemon.upgrades request = .returned outcome ∧
            moved.upgrades request = .ended outcome := by
  cases Daemon.step_of_next step with
  | spawned spawning stands =>
    refine ⟨rfl, fun request called => .inl ?_⟩
    have distinct : request ≠ spawning := by
      rintro rfl
      have notPast : ¬ (daemon.handlers request).pastSpawn = true := by simp [stands, Handler.pastSpawn]
      refine notPast ((tracked.spawned request).mp ?_)
      intro absent
      rw [absent] at called
      cases called
    simp [distinct]
  | started request stands => exact absurd rfl (notStarted request)
  | returned request outcome stands => exact absurd rfl (notReturned request outcome)
  | dropped dropping outcome stands =>
    refine ⟨rfl, fun request called => ?_⟩
    by_cases same : request = dropping
    · subst same
      exact .inr ⟨outcome, stands, by simp⟩
    · exact .inl (by simp [same])
  | _ => exact ⟨rfl, fun _ _ => .inl rfl⟩

/-- A started task is the only one in flight, so all tasks that have called before it have
ended. -/
theorem called_ended {daemon : Daemon.State} {owner : Option Nat} (lock : Represents daemon owner)
    {request other : Nat} (ready : daemon.upgrades request = .ready)
    (called : (daemon.upgrades other).called = true) :
    ∃ outcome, daemon.upgrades other = .ended outcome := by
  have distinct : other ≠ request := by
    rintro rfl
    rw [ready] at called
    cases called
  have landed (flying : (daemon.upgrades other).inFlight = true) : False :=
    distinct (holder_unique lock (.inr flying) (.inr (by rw [ready]; rfl)))
  cases task : daemon.upgrades other with
  | absent => rw [task] at called; cases called
  | ready => rw [task] at called; cases called
  | upgrading => exact (landed (by rw [task]; rfl)).elim
  | returned outcome => exact (landed (by rw [task]; rfl)).elim
  | ended outcome => exact ⟨outcome, rfl⟩

theorem called_iff {daemon : Daemon.State} (tracked : Tracked state daemon) (request : Nat) :
    (daemon.upgrades request).called = true ↔ request ∈ daemon.fullUpgradeCalls := by
  rw [← List.count_pos_iff, tracked.counted request]
  cases (daemon.upgrades request).called <;> simp

theorem block_called {script : Commands (Except String Unit)} (tracked : Tracked state host.daemon)
    (serial : Serial script host blocks) {block : Block} (member : block ∈ blocks) :
    (host.daemon.upgrades block.request).called = true := by
  rw [called_iff tracked, ← List.mem_reverse, ← serial.calls]
  exact List.mem_map_of_mem member

/-- The start of a task adds a block. -/
theorem serial_began {script : Commands (Except String Unit)} {owner : Option Nat}
    (tracked : Tracked state host.daemon) (lock : Represents host.daemon owner)
    (serial : Serial script host blocks) {request : Nat} (ready : host.daemon.upgrades request = .ready) :
    Serial script { host.setThread request (.ready script) with
        daemon := { host.daemon.setUpgrade request .upgrading with
          fullUpgradeCalls := request :: host.daemon.fullUpgradeCalls } }
      (blocks ++ [⟨request, [], none⟩]) := by
  have new {block : Block} (member : block ∈ blocks) : block.request ≠ request := by
    intro same
    have calledBefore := block_called tracked serial member
    rw [same, ready] at calledBefore
    cases calledBefore
  refine ⟨?_, ?_, ?_, ?_, ?_⟩
  · simp [serial.calls]
  · simp [serial.log, Host.setThread, Block.entries]
  · intro block member
    obtain before | rfl := List.mem_append.mp member |>.imp_right List.mem_singleton.mp
    · simpa [Host.setThread, new before] using serial.stands block before
    · simpa [Host.setThread] using
        (Stands.ready (.start _) rfl : Stands _ ⟨request, [], none⟩ .upgrading (.ready _))
  · intro block before
    have member : block ∈ blocks := by simpa using before
    simpa [new member] using called_ended lock ready (block_called tracked serial member)
  · intro other notCalled
    obtain ⟨distinct, notBefore⟩ := not_or.mp (fun either => notCalled (List.mem_cons.mpr either))
    simpa [Host.setThread, distinct] using serial.absent other notBefore

/-- The return of the last block's task closes the block. -/
theorem serial_returned {script : Commands (Except String Unit)} {earlier : List Block} {last : Block}
    (serial : Serial script host (earlier ++ [last])) {left : Commands (Except String Unit)}
    {outcome : Outcome} (upgrading : host.daemon.upgrades last.request = .upgrading)
    (thread : host.threads last.request = .ready left) (finished : finishes left outcome = true) :
    Serial script { host.setThread last.request .absent with
      daemon := host.daemon.setUpgrade last.request (.returned outcome) } (earlier ++ [last]) := by
  refine ⟨serial.calls, serial.log, ?_, ?_, ?_⟩
  · intro block member
    by_cases same : block.request = last.request
    · have stands := serial.stands block member
      rw [same, upgrading, thread] at stands
      cases stands with
      | ready plays answered =>
        simpa [Host.setThread, same] using Stands.returned plays answered finished
    · simpa [Host.setThread, same] using serial.stands block member
  · intro block before
    obtain ⟨ending, ended⟩ := serial.ended block before
    have distinct : block.request ≠ last.request := by
      intro same
      rw [same, upgrading] at ended
      cases ended
    exact ⟨ending, by simpa [distinct] using ended⟩
  · intro request notCalled
    by_cases same : request = last.request
    · simp [Host.setThread, same]
    · simpa [Host.setThread, same] using serial.absent request notCalled

/-- The other steps of the daemon keep the blocks. -/
theorem serial_kept {script : Commands (Except String Unit)} (tracked : Tracked state host.daemon)
    (serial : Serial script host blocks) {daemon : Daemon.State} {event : Daemon.Event}
    (notStarted : ∀ request, event ≠ .upgradeStarted request)
    (notReturned : ∀ request outcome, event ≠ .upgradeReturned request outcome)
    (step : Daemon.next state host.daemon event = some daemon) :
    Serial script { host with daemon := daemon } blocks := by
  obtain ⟨calls, kept⟩ := tasks_kept tracked notStarted notReturned step
  refine ⟨by simpa [calls] using serial.calls, serial.log, ?_, ?_, ?_⟩
  · intro block member
    obtain same | ⟨outcome, before, after⟩ := kept block.request (block_called tracked serial member)
    · simpa [same] using serial.stands block member
    · have stands := serial.stands block member
      rw [before] at stands
      dsimp only
      rw [after]
      generalize host.threads block.request = thread at stands
      cases stands with
      | returned plays answered finished => exact .ended plays answered finished
  · intro block before
    obtain ⟨outcome, ended⟩ := serial.ended block before
    refine ⟨outcome, ?_⟩
    obtain same | ⟨_, before, _⟩ := kept block.request (by rw [ended]; rfl)
    · exact same.trans ended
    · rw [ended] at before
      cases before
  · simpa [calls] using serial.absent

/-- A step on a host keeps its upgrades serial.

Proof: by the kind of the step. A command and its reply continue the last block, the start
of a task adds one, and all others keep the blocks. -/
theorem step_serial {owner : Option Nat} (tracked : Tracked state host.daemon)
    (lock : Represents host.daemon owner)
    (serial : Serial (manager.fullUpgrade state.autoClean state.autoRemove) host blocks)
    (step : Step manager state host event reached) :
    ∃ after, Serial (manager.fullUpgrade state.autoClean state.autoRemove) reached after := by
  cases step with
  | @began request daemon ready step =>
    obtain rfl : daemon = { host.daemon.setUpgrade request .upgrading with
        fullUpgradeCalls := request :: host.daemon.fullUpgradeCalls } := by
      simpa [Daemon.next, ready] using step.symm
    exact ⟨_, serial_began tracked lock serial ready⟩
  | @returned request outcome daemon left thread finished step =>
    obtain ⟨earlier, last, rfl, rfl, upgrading⟩ := running_last serial (by rw [thread]; simp)
    obtain rfl : daemon = host.daemon.setUpgrade last.request (.returned outcome) := by
      simpa [Daemon.next, upgrading] using step.symm
    exact ⟨_, serial_returned serial upgrading thread finished⟩
  | @other event daemon notStarted notReturned step =>
    exact ⟨blocks, serial_kept tracked serial notStarted notReturned step⟩
  | @issued request command rest thread =>
    obtain ⟨earlier, last, rfl, rfl, upgrading⟩ := running_last serial (by rw [thread]; simp)
    have stands := serial.stands last (by simp)
    rw [upgrading, thread] at stands
    cases stands with
    | ready plays answered =>
      exact ⟨_, @serial_continues _ host earlier last ⟨last.request, last.trace, some command⟩
        (.issued last.request command) (.awaiting command rest) serial rfl upgrading
        (by simp [Block.entries, answered]) (.awaiting plays rfl)⟩
  | @replied request reply command rest thread =>
    obtain ⟨earlier, last, rfl, rfl, upgrading⟩ := running_last serial (by rw [thread]; simp)
    have stands := serial.stands last (by simp)
    rw [upgrading, thread] at stands
    cases stands with
    | awaiting plays pending =>
      exact ⟨_, @serial_continues _ host earlier last
        ⟨last.request, last.trace ++ [(command, reply)], none⟩
        (.replied last.request command reply) (.ready (rest reply)) serial rfl upgrading
        (by simp [Block.entries, pending]) (.ready (plays.concat reply) rfl)⟩

/-- A host reaches what its daemon alone can reach. -/
theorem run_daemon {events : List Event}
    (completed : run (next manager state) initial events = some host) :
    ∃ moves, run (Daemon.next state) Daemon.initial moves = some host.daemon := by
  obtain ⟨moves, daemon, moved, rfl⟩ := run_simulated (next manager state) (Daemon.next state)
    (fun host daemon => host.daemon = daemon)
    (fun host daemon event reached same step => by
      subst same
      cases step_of_next step with
      | began request ready moved => exact ⟨[_], _, run_one _ moved, rfl⟩
      | returned request outcome thread finished moved => exact ⟨[_], _, run_one _ moved, rfl⟩
      | other event notStarted notReturned moved => exact ⟨[_], _, run_one _ moved, rfl⟩
      | issued request thread => exact ⟨[], _, rfl, rfl⟩
      | replied request reply thread => exact ⟨[], _, rfl, rfl⟩)
    (show initial.daemon = Daemon.initial from rfl) completed
  exact ⟨moves, moved⟩

theorem run_serial {events : List Event}
    (completed : run (next manager state) initial events = some host) :
    ∃ blocks, Serial (manager.fullUpgrade state.autoClean state.autoRemove) host blocks := by
  have both := run_preserves (next manager state)
    (fun host => (∃ events, run (next manager state) initial events = some host) ∧
      ∃ blocks, Serial (manager.fullUpgrade state.autoClean state.autoRemove) host blocks)
    (fun host event reached ⟨⟨events, before⟩, ⟨_, serial⟩⟩ step => by
      obtain ⟨moves, moved⟩ := run_daemon before
      obtain ⟨_, owner, _, lock⟩ := run_represents moved
      exact ⟨⟨events ++ [event], run_append _ before (run_one _ step)⟩,
        step_serial (run_tracked moved) lock serial (step_of_next step)⟩)
    ⟨⟨[], rfl⟩, ⟨[], initial_serial _⟩⟩ completed
  exact both.2

end Runs

section Accounts

/-- The commands of a block so far are the beginning of a whole course, and all of it
once the task has returned, with the outcome of the course. -/
structure Accounts (upgrader : Upgrader) (clean remove : Bool) (block : Block) (task : UpgradeTask) :
    Prop where
  begins : ∃ rest result, Course upgrader clean remove (block.trace ++ rest) result ∧
    ∀ command, block.pending = some command → ∃ reply others, rest = (command, reply) :: others
  answered : ∀ outcome, task = .returned outcome ∨ task = .ended outcome → block.pending = none
  completed : task = .returned .ok ∨ task = .ended .ok → Course upgrader clean remove block.trace (.ok ())
  failed : ∀ message, task = .returned (.err message) ∨ task = .ended (.err message) →
    Course upgrader clean remove block.trace (.error message)

variable {manager : Manager} {clean remove : Bool} {block : Block} {task : UpgradeTask} {thread : Thread}

theorem plays_course {trace : List (CommandLine × Reply)} {result : Except String Unit} :
    Plays (manager.fullUpgrade clean remove) trace (.done result) ↔
      Course manager.upgrader clean remove trace result := by
  rw [manager.fullUpgrade_eq]
  exact plays_fullUpgrade clean remove

/-- A script that finishes with an outcome other than a panic is done with it. -/
theorem done_of_finishes {left : Commands (Except String Unit)} {outcome : Outcome}
    (finished : finishes left outcome = true) :
    (outcome = .ok → left = .done (.ok ())) ∧
      ∀ message, outcome = .err message → left = .done (.error message) := by
  constructor
  · rintro rfl
    cases left with
    | perform command next => cases finished
    | done result =>
      cases result with
      | ok _ => rfl
      | error err => cases finished
  · rintro message rfl
    cases left with
    | perform command next => cases finished
    | done result =>
      cases result with
      | ok _ => cases finished
      | error err =>
        obtain rfl : err = message := by simpa [finishes] using finished
        rfl

/-- What a block tells of its script, it tells of the course. -/
theorem accounts_of_stands (stands : Stands (manager.fullUpgrade clean remove) block task thread) :
    Accounts manager.upgrader clean remove block task := by
  have finished {left : Commands (Except String Unit)} {outcome : Outcome}
      (plays : Plays (manager.fullUpgrade clean remove) block.trace left)
      (answered : block.pending = none) (finished : finishes left outcome = true)
      (same : ∀ other, task = .returned other ∨ task = .ended other → other = outcome) :
      Accounts manager.upgrader clean remove block task := by
    obtain ⟨succeeds, fails⟩ := done_of_finishes finished
    obtain ⟨rest, result, whole⟩ := plays.extends
    refine ⟨⟨rest, result, plays_course.mp whole, by simp [answered]⟩, fun _ _ => answered, ?_, ?_⟩
    · intro returned
      have ended := plays
      rw [succeeds (same _ returned).symm] at ended
      exact plays_course.mp ended
    · intro message returned
      have ended := plays
      rw [fails message (same _ returned).symm] at ended
      exact plays_course.mp ended
  cases stands with
  | ready plays answered =>
    obtain ⟨rest, result, whole⟩ := plays.extends
    exact ⟨⟨rest, result, plays_course.mp whole, by simp [answered]⟩, by simp, by simp, by simp⟩
  | @awaiting command rest plays pending =>
    obtain ⟨others, result, whole⟩ := (plays.concat default).extends
    refine ⟨⟨(command, default) :: others, result, plays_course.mp (by simpa using whole), ?_⟩,
      by simp, by simp, by simp⟩
    intro other same
    obtain rfl : command = other := by simpa [pending] using same
    exact ⟨default, others, rfl⟩
  | returned plays answered finishing =>
    exact finished plays answered finishing (by
      rintro other (same | same)
      · exact (UpgradeTask.returned.inj same).symm
      · cases same)
  | ended plays answered finishing =>
    exact finished plays answered finishing (by
      rintro other (same | same)
      · cases same
      · exact (UpgradeTask.ended.inj same).symm)

/-- At most every program is tried. -/
theorem attempts_length {args : List String} {env : List (String × String)} {programs : List String}
    {trace : List (CommandLine × Reply)} {reply : Reply}
    (attempts : Attempts args env programs trace reply) : trace.length ≤ programs.length := by
  induction attempts with
  | spawned program rest output => simp
  | last program err => simp
  | missing program err later inductionHypothesis => simpa using inductionHypothesis

theorem cleanup_length {enabled : Bool} {args : List String} {programs : List String}
    {trace : List (CommandLine × Reply)} (cleanup : Cleanup enabled args programs trace) :
    trace.length ≤ programs.length := by
  cases enabled with
  | false =>
    obtain rfl : trace = [] := by simpa [Cleanup] using cleanup
    simp
  | true =>
    obtain ⟨reply, attempts⟩ : ∃ reply, Attempts args [] programs trace reply := by
      simpa [Cleanup] using cleanup
    exact attempts_length attempts

theorem course_length {upgrader : Upgrader} {trace : List (CommandLine × Reply)}
    {result : Except String Unit} (course : Course upgrader clean remove trace result) :
    trace.length ≤ 3 * upgrader.programs.length := by
  cases course with
  | unspawned tried =>
    have few := attempts_length tried
    omega
  | exited tried fails =>
    have few := attempts_length tried
    omega
  | upgraded spawned success cleaning removing =>
    have tried := attempts_length spawned
    have cleaned := cleanup_length cleaning
    have removed := cleanup_length removing
    simp only [List.length_append]
    omega

end Accounts

/-- The upgrades of a host are serial. After every interleaving of handlers, tasks and
commands, for both package managers:

* the log of the commands of upgrades is made of one block for each call of `full_upgrade`, in
  the order of the calls, no request calls twice, and all but the last have dropped their
  guards;
* each block is the beginning of a course of the upgrade, has the whole course once its task
  has returned without a panic, and never has more than three commands for each program;
* while a command is awaited, the flag is set.

Proof: the lock has one owner, so a block is begun only where all tasks before it have
ended. What a block holds is a play of its script, which is a course. -/
theorem upgrades_serial (manager : Manager) (state : AppState) (events : List Event) (host : Host)
    (reached : run (next manager state) initial events = some host) :
    (∃ blocks : List Block,
      blocks.map Block.request = host.daemon.fullUpgradeCalls.reverse ∧
      host.daemon.fullUpgradeCalls.Nodup ∧
      host.log = blocks.flatMap Block.entries ∧
      (∀ block ∈ blocks.dropLast, ∃ outcome, host.daemon.upgrades block.request = .ended outcome) ∧
      ∀ block ∈ blocks,
        Accounts manager.upgrader state.autoClean state.autoRemove block
          (host.daemon.upgrades block.request) ∧
        block.trace.length ≤ 3 * manager.upgrader.programs.length) ∧
    ∀ request command rest, host.threads request = .awaiting command rest →
      host.daemon.isUpgrading = true := by
  obtain ⟨moves, moved⟩ := run_daemon reached
  have tracked : Tracked state host.daemon := run_tracked moved
  obtain ⟨_, owner, _, lock⟩ := run_represents moved
  obtain ⟨blocks, serial⟩ := run_serial reached
  refine ⟨⟨blocks, serial.calls, ?_, serial.log, serial.ended, ?_⟩, ?_⟩
  · rw [List.nodup_iff_count_le_one]
    intro request
    rw [tracked.counted request]
    split <;> omega
  · intro block member
    have accounts := accounts_of_stands (serial.stands block member)
    refine ⟨accounts, ?_⟩
    obtain ⟨rest, result, whole, _⟩ := accounts.begins
    have few := course_length whole
    rw [List.length_append] at few
    omega
  · intro request command rest awaiting
    obtain ⟨_, _, _, _, upgrading⟩ := running_last serial (by rw [awaiting]; simp)
    have owned : owner = some request := (lock.2 request).mp (.inr (by rw [upgrading]; rfl))
    rw [lock.1, owned]
    rfl

/-- Cleaning is enabled, and reboots are not allowed. -/
def cleaning : AppState := ⟨false, true, false, "brew", true⟩

/-- A first upgrade finds brew at the second path and cleans up in vain, a second request
is refused meanwhile, and a third one fails. -/
def twoUpgrades : List Event :=
  [.daemon (.received 0 (.fullUpgrade ⟨false⟩)), .daemon (.received 1 (.fullUpgrade ⟨false⟩)),
    .daemon (.advanced 0), .daemon (.advanced 0), .daemon (.upgradeStarted 0), .issued 0,
    .daemon (.advanced 1), .replied 0 (.error "missing"), .daemon (.advanced 0), .issued 0,
    .replied 0 (.ok ⟨⟨true, "exit status: 0"⟩, "", ""⟩), .issued 0, .daemon (.advanced 0),
    .replied 0 (.ok ⟨⟨false, "exit status: 1"⟩, "", ""⟩), .daemon (.upgradeReturned 0 .ok),
    .daemon (.guardDropped 0), .daemon (.received 2 (.fullUpgrade ⟨false⟩)), .daemon (.advanced 2),
    .daemon (.advanced 2), .daemon (.upgradeStarted 2), .issued 2]

/-- The third request is at its first command, after the three of the first one. -/
theorem two_upgrades_serial :
    ∃ host, run (next .brew cleaning) initial twoUpgrades = some host ∧
      host.daemon.fullUpgradeCalls = [2, 0] ∧ host.log.length = 7 ∧ host.daemon.isUpgrading = true :=
  ⟨_, rfl, rfl, rfl, (upgrades_serial .brew cleaning twoUpgrades _ rfl).2 2 _ _ rfl⟩

section Endings

variable {manager : Manager} {state : AppState} (replies : Host → Reply)

/-- Each reply is the one that is chosen on the host as it is. -/
def Answers (host : Host) (event : Event) : Prop :=
  ∀ request reply, event = .replied request reply → reply = replies host

/-- With such replies the host gets to a state in which the flag is clear. -/
def CanEnd (manager : Manager) (state : AppState) (host : Host) : Prop :=
  ∃ later ended, Guarded (next manager state) (Answers replies) host later ∧
    run (next manager state) host later = some ended ∧ ended.daemon.isUpgrading = false

variable {replies} {host middle : Host} {event : Event}

theorem canEnd_step (answers : Answers replies host event)
    (step : next manager state host event = some middle) (can : CanEnd replies manager state middle) :
    CanEnd replies manager state host := by
  obtain ⟨later, ended, guarded, completed, clear⟩ := can
  refine ⟨event :: later, ended, ⟨answers, ?_⟩, ?_, clear⟩
  · intro reached other
    obtain rfl : middle = reached := Option.some.inj (step.symm.trans other)
    exact guarded
  · exact (run_cons_iff _ _ _ _ _).mpr ⟨middle, step, completed⟩

theorem answers_daemon (move : Daemon.Event) : Answers replies host (.daemon move) := by
  intro request reply same
  cases same

theorem canEnd_returned {request : Nat} {outcome : Outcome}
    (returned : host.daemon.upgrades request = .returned outcome) : CanEnd replies manager state host :=
  ⟨[.daemon (.guardDropped request)], _, ⟨answers_daemon _, fun _ _ => trivial⟩,
    run_one _ (by simp only [next, Daemon.next, returned, Option.map_some]; rfl), rfl⟩

/-- Proof: induct on what is left of the script. Any reply goes on with a smaller rest. -/
theorem canEnd_ready {request : Nat} (script : Commands (Except String Unit))
    (thread : host.threads request = .ready script)
    (upgrading : host.daemon.upgrades request = .upgrading) : CanEnd replies manager state host := by
  induction script generalizing host with
  | done result =>
    obtain ⟨outcome, finished⟩ : ∃ outcome, finishes (.done result) outcome = true := by
      cases result with
      | ok _ => exact ⟨.ok, rfl⟩
      | error err => exact ⟨.err err, by simp [finishes]⟩
    obtain ⟨middle, step, returned⟩ : ∃ middle,
        next manager state host (.daemon (.upgradeReturned request outcome)) = some middle ∧
          middle.daemon.upgrades request = .returned outcome :=
      ⟨_, next_returned thread finished upgrading, by simp⟩
    exact canEnd_step (answers_daemon _) step (canEnd_returned returned)
  | perform command rest inductionHypothesis =>
    obtain ⟨asked, step, awaiting, stays⟩ : ∃ asked,
        next manager state host (.issued request) = some asked ∧
          asked.threads request = .awaiting command rest ∧
          asked.daemon.upgrades request = .upgrading :=
      ⟨_, next_issued thread, by simp [Host.setThread], upgrading⟩
    obtain ⟨answered, further, ready, remains⟩ : ∃ answered,
        next manager state asked (.replied request (replies asked)) = some answered ∧
          answered.threads request = .ready (rest (replies asked)) ∧
          answered.daemon.upgrades request = .upgrading :=
      ⟨_, next_replied awaiting _, by simp [Host.setThread], stays⟩
    have can : CanEnd replies manager state asked := by
      refine canEnd_step ?_ further (inductionHypothesis (replies asked) ready remains)
      rintro other reply same
      exact (Event.replied.inj same).2.symm
    exact canEnd_step (fun other reply same => by cases same) step can

theorem canEnd_started {request : Nat} (ready : host.daemon.upgrades request = .ready) :
    CanEnd replies manager state host := by
  obtain ⟨middle, step, thread, upgrading⟩ : ∃ middle,
      next manager state host (.daemon (.upgradeStarted request)) = some middle ∧
        middle.threads request = .ready (manager.fullUpgrade state.autoClean state.autoRemove) ∧
        middle.daemon.upgrades request = .upgrading :=
    ⟨_, next_started ready, by simp [Host.setThread], by simp⟩
  exact canEnd_step (answers_daemon _) step (canEnd_ready _ thread upgrading)

/-- A claim is followed by the spawn of its task, and this by its start. -/
theorem canEnd_claimed {request : Nat} (claimed : host.daemon.handlers request = .upgradeClaimed) :
    CanEnd replies manager state host := by
  obtain ⟨middle, step, ready⟩ : ∃ middle,
      next manager state host (.daemon (.advanced request)) = some middle ∧
        middle.daemon.upgrades request = .ready :=
    ⟨_, by simp only [next, Daemon.next, advance, claimed, Option.map_some]; rfl, by simp⟩
  exact canEnd_step (answers_daemon _) step (canEnd_started ready)

end Endings

/-- No upgrade blocks the host. In every state that is reached, and whatever replies the
commands get from there on, there is a continuation after which the flag is clear.

Proof: the flag is held by one request. From where its handler or its task stands, it goes
on by itself: it is spawned and started, its script gets smaller with every reply, and it
drops the guard when it has returned. -/
theorem upgrade_can_end (manager : Manager) (state : AppState) (events : List Event) (host : Host)
    (reached : run (next manager state) initial events = some host) (replies : Host → Reply) :
    ∃ later ended, Guarded (next manager state) (Answers replies) host later ∧
      run (next manager state) host later = some ended ∧ ended.daemon.isUpgrading = false := by
  obtain ⟨moves, moved⟩ := run_daemon reached
  have tracked : Tracked state host.daemon := run_tracked moved
  obtain ⟨_, owner, _, lock⟩ := run_represents moved
  obtain ⟨blocks, serial⟩ := run_serial reached
  cases owner with
  | none => exact ⟨[], host, trivial, rfl, lock.1⟩
  | some request =>
    obtain claimed | flying := (lock.2 request).mpr rfl
    · exact canEnd_claimed claimed
    · have running (called : (host.daemon.upgrades request).called = true) :
          ∃ block ∈ blocks, block.request = request := by
        rw [called_iff tracked, ← List.mem_reverse, ← serial.calls] at called
        exact List.mem_map.mp called
      cases task : host.daemon.upgrades request with
      | absent => rw [task] at flying; cases flying
      | ready => exact canEnd_started task
      | returned outcome => exact canEnd_returned task
      | ended outcome => rw [task] at flying; cases flying
      | upgrading =>
        obtain ⟨block, member, rfl⟩ := running (by rw [task]; rfl)
        have stands := serial.stands block member
        rw [task] at stands
        cases thread : host.threads block.request with
        | absent => rw [thread] at stands; cases stands
        | ready script => exact canEnd_ready script thread task
        | awaiting command rest =>
          obtain ⟨answered, further, ready, remains⟩ : ∃ answered,
              next manager state host (.replied block.request (replies host)) = some answered ∧
                answered.threads block.request = .ready (rest (replies host)) ∧
                answered.daemon.upgrades block.request = .upgrading :=
            ⟨_, next_replied thread _, by simp [Host.setThread], task⟩
          refine canEnd_step ?_ further (canEnd_ready _ ready remains)
          rintro other reply same
          exact (Event.replied.inj same).2.symm

/-- The third request's upgrade ends where nothing can be spawned any more. -/
theorem failing_upgrade_ends :
    ∃ host, run (next .brew cleaning) initial twoUpgrades = some host ∧
      ∃ later ended, Guarded (next .brew cleaning) (Answers fun _ => .error "missing") host later ∧
        run (next .brew cleaning) host later = some ended ∧ ended.daemon.isUpgrading = false :=
  ⟨_, rfl, upgrade_can_end .brew cleaning twoUpgrades _ rfl _⟩

end Brewmble.HostUpgrades
