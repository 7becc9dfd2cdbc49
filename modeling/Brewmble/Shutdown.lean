import Brewmble.UpgradeHandle

/-!
# How the daemon's main function ends

The server ends by itself or by a signal. Then `main` takes the stored handle and
awaits its task for at most thirty seconds, with the lock on the handle held, before
it returns and the runtime ends. Handlers and tasks go on meanwhile, but no handler
gets past its store while the lock is held, so no request is told then that its
upgrade has been triggered.

An upgrade that was acknowledged before the take has ended when the runtime ends, or
`main` has given it the thirty seconds and has aborted it. This rests on the handle:
a store that replaces the handle of a running task lets the runtime end in the midst
of it without any waiting.
-/

namespace Brewmble.Shutdown

open Rest Daemon Execution UpgradeLock UpgradeHandle

/-- What has become of the taken task when `main` goes on. -/
inductive Verdict where
  /-- No handle was stored. -/
  | nothing
  /-- The task has returned; an error of the package manager is no failure of it. -/
  | finished (request : Nat)
  | failed (request : Nat)
  /-- The task did not finish in time. -/
  | aborted (request : Nat)
  deriving DecidableEq, Repr

/-- What the awaited handle reports of a task that has ended. -/
def Verdict.joined (request : Nat) : Outcome → Verdict
  | .panic => .failed request
  | .ok | .err _ => .finished request

/-- Where `main` stands once the server has been started. -/
inductive Phase where
  | serving
  /-- The server has ended, or a signal has come. -/
  | stopped
  /-- The handle is taken, its lock is held, and its task is awaited. -/
  | awaiting (request : Nat)
  /-- The lock is released, and `main` returns. -/
  | returning (verdict : Verdict)
  /-- The runtime has ended, and every task with it. -/
  | exited (verdict : Verdict)
  deriving DecidableEq, Repr

/-- The handle has not been taken yet. -/
def Phase.early : Phase → Bool
  | .serving | .stopped => true
  | .awaiting _ | .returning _ | .exited _ => false

/-- The daemon's handlers and tasks, and where `main` stands beside them. -/
structure System where
  daemon : State
  phase : Phase

def start : System := ⟨initial, .serving⟩

inductive Event where
  | daemon (event : Daemon.Event)
  | stopped
  | handleTaken
  | joined
  | timedOut
  | cancelled
  | exited

/-- A handler waits at its store while `main` holds the lock. -/
def blocked (system : System) : Daemon.Event → Bool
  | .advanced request =>
    match system.phase with
    | .awaiting _ => system.daemon.handlers request = .upgradeSpawned
    | _ => false
  | _ => false

/-- The runtime drops an aborted task where it awaits the package manager, and its
guard with it. To everyone else the task has panicked there. -/
def cancel (daemon : State) (request : Nat) : State :=
  { daemon.setUpgrade request (.ended .panic) with isUpgrading := false }

/-- One step of the daemon or of the end of its `main`. The handlers and tasks may go
on until the runtime ends, also those of requests that arrive late. The timeout may
elapse at any step, also when the task has just ended. -/
def next (state : AppState) (system : System) : Event → Option System
  | .daemon event =>
    match system.phase with
    | .exited _ => none
    | _ =>
      if blocked system event then none
      else (Daemon.next state system.daemon event).map fun daemon => { system with daemon := daemon }
  | .stopped => if system.phase = .serving then some { system with phase := .stopped } else none
  | .handleTaken =>
    if system.phase = .stopped then
      let (taken, daemon) := shutdown system.daemon
      match taken with
      | some request => some ⟨daemon, .awaiting request⟩
      | none => some ⟨daemon, .returning .nothing⟩
    else none
  | .joined =>
    match system.phase with
    | .awaiting request =>
      match system.daemon.upgrades request with
      | .ended outcome => some { system with phase := .returning (.joined request outcome) }
      | _ => none
    | _ => none
  | .timedOut =>
    match system.phase with
    | .awaiting request => some { system with phase := .returning (.aborted request) }
    | _ => none
  | .cancelled =>
    match system.phase with
    | .returning (.aborted request) =>
      -- a task that is dropped before its first poll has no guard and just never starts
      if system.daemon.upgrades request = .upgrading then
        some { system with daemon := cancel system.daemon request }
      else none
    | _ => none
  | .exited =>
    match system.phase with
    | .returning verdict => some { system with phase := .exited verdict }
    | _ => none

/-- The steps of the system, each with what it needs. -/
inductive Step (state : AppState) (system : System) : Event → System → Prop where
  | daemon (event : Daemon.Event) (reached : State) (running : ∀ verdict, system.phase ≠ .exited verdict)
      (free : blocked system event = false)
      (step : Daemon.next state system.daemon event = some reached) :
      Step state system (.daemon event) { system with daemon := reached }
  | stopped (serving : system.phase = .serving) :
      Step state system .stopped { system with phase := .stopped }
  | taken (request : Nat) (stopped : system.phase = .stopped)
      (held : system.daemon.upgradeHandle = some request) :
      Step state system .handleTaken ⟨{ system.daemon with upgradeHandle := none }, .awaiting request⟩
  | nothing (stopped : system.phase = .stopped) (empty : system.daemon.upgradeHandle = none) :
      Step state system .handleTaken ⟨{ system.daemon with upgradeHandle := none }, .returning .nothing⟩
  | joined (request : Nat) (outcome : Outcome) (awaiting : system.phase = .awaiting request)
      (ended : system.daemon.upgrades request = .ended outcome) :
      Step state system .joined { system with phase := .returning (.joined request outcome) }
  | timedOut (request : Nat) (awaiting : system.phase = .awaiting request) :
      Step state system .timedOut { system with phase := .returning (.aborted request) }
  | cancelled (request : Nat) (aborted : system.phase = .returning (.aborted request))
      (upgrading : system.daemon.upgrades request = .upgrading) :
      Step state system .cancelled { system with daemon := cancel system.daemon request }
  | exited (verdict : Verdict) (returning : system.phase = .returning verdict) :
      Step state system .exited { system with phase := .exited verdict }

theorem step_of_next {state : AppState} {system reached : System} {event : Event}
    (step : next state system event = some reached) : Step state system event reached := by
  cases event with
  | daemon event =>
    have split : (∀ verdict, system.phase ≠ .exited verdict) ∧ (if blocked system event then none
        else (Daemon.next state system.daemon event).map fun daemon =>
          ({ system with daemon := daemon } : System)) = some reached := by
      cases stands : system.phase with
      | exited verdict => simp [next, stands] at step
      | _ => exact ⟨by simp, by simpa only [next, stands] using step⟩
    obtain ⟨running, step⟩ := split
    obtain ⟨free, step⟩ := Option.ite_none_left_eq_some.mp step
    obtain ⟨daemon, moved, rfl⟩ := Option.map_eq_some_iff.mp step
    exact .daemon event daemon running (by simpa using free) moved
  | stopped =>
    obtain ⟨serving, step⟩ := Option.ite_none_right_eq_some.mp step
    exact Option.some.inj step ▸ .stopped serving
  | handleTaken =>
    obtain ⟨stopped, step⟩ := Option.ite_none_right_eq_some.mp step
    cases held : system.daemon.upgradeHandle with
    | none =>
      simp only [held] at step
      exact Option.some.inj step ▸ .nothing stopped held
    | some request =>
      simp only [held] at step
      exact Option.some.inj step ▸ .taken request stopped held
  | joined =>
    simp only [next] at step
    split at step
    · next request awaiting =>
      split at step
      · next outcome ended => exact Option.some.inj step ▸ .joined request outcome awaiting ended
      · cases step
    · cases step
  | timedOut =>
    simp only [next] at step
    split at step
    · next request awaiting => exact Option.some.inj step ▸ .timedOut request awaiting
    · cases step
  | cancelled =>
    simp only [next] at step
    split at step
    · next request aborted =>
      obtain ⟨upgrading, step⟩ := Option.ite_none_right_eq_some.mp step
      exact Option.some.inj step ▸ .cancelled request aborted upgrading
    · cases step
  | exited =>
    simp only [next] at step
    split at step
    · next verdict returning => exact Option.some.inj step ▸ .exited verdict returning
    · cases step

section DaemonSteps

variable {state : AppState} {daemon reached : State} {event : Daemon.Event} {request : Nat}

/-- The handle of the request is stored; its acceptance is answered, or is next. -/
def Acknowledged (daemon : State) (request : Nat) : Prop :=
  daemon.handlers request = .upgradeStored ∨ daemon.handlers request = .answered triggered

theorem acknowledged_past (acknowledged : Acknowledged daemon request) :
    (daemon.handlers request).pastSpawn = true := by
  obtain stored | answered := acknowledged
  · rw [stored]
    rfl
  · simp [answered, Handler.pastSpawn]

theorem acknowledged_not_spawned (acknowledged : Acknowledged daemon request) :
    daemon.handlers request ≠ .upgradeSpawned := by
  obtain stored | answered := acknowledged
  · simp [stored]
  · simp [answered]

theorem acknowledged_setHandler {moved : Nat} {after : Handler}
    (same : Acknowledged daemon moved ↔ after = .upgradeStored ∨ after = .answered triggered) :
    Acknowledged (daemon.setHandler moved after) request ↔ Acknowledged daemon request := by
  by_cases equal : request = moved
  · subst equal
    simpa [Acknowledged] using same.symm
  · simp [Acknowledged, equal]

/-- Only the store acknowledges a request, and then its handle is stored. -/
theorem step_acknowledged (request : Nat) (step : Daemon.Step state daemon event reached) :
    (Acknowledged reached request ↔ Acknowledged daemon request) ∨
      event = .advanced request ∧ daemon.handlers request = .upgradeSpawned ∧
        reached.upgradeHandle = some request := by
  cases step with
  | arrived received body fresh =>
    refine .inl (acknowledged_setHandler ?_)
    cases body <;> simp [Acknowledged, fresh, Handler.start]
  | moved event handler before after handled stands move =>
    refine .inl (acknowledged_setHandler ?_)
    rw [Acknowledged, stands]
    cases move <;> simp_all
  | claimed claiming payload stands available wet clear =>
    exact .inl (acknowledged_setHandler (by simp [Acknowledged, stands]))
  | spawned spawning stands =>
    exact .inl (acknowledged_setHandler (by simp [Acknowledged, stands]))
  | stored storing stands =>
    by_cases equal : request = storing
    · subst equal
      exact .inr ⟨rfl, stands, rfl⟩
    · exact .inl (by simp [Acknowledged, equal])
  | rebootSpawned spawning delay stands allowed =>
    exact .inl (acknowledged_setHandler (by simp [Acknowledged, stands]))
  | _ => exact .inl Iff.rfl

/-- A stored handle is replaced by another one, never removed. -/
theorem step_handle (held : daemon.upgradeHandle ≠ none)
    (step : Daemon.Step state daemon event reached) : reached.upgradeHandle ≠ none := by
  cases step with
  | stored storing stands => simp
  | _ => exact held

theorem ended_setUpgrade {moved : Nat} {task : UpgradeTask} {outcome : Outcome}
    (unended : ∀ outcome, daemon.upgrades moved ≠ .ended outcome)
    (ended : daemon.upgrades request = .ended outcome) :
    (daemon.setUpgrade moved task).upgrades request = .ended outcome := by
  have distinct : request ≠ moved := by
    rintro rfl
    exact unended outcome ended
  simpa [distinct] using ended

/-- A task that has ended stays so. Its handler is past the spawn, so it is not the one
that spawns. -/
theorem step_ended (tracked : Tracked state daemon) {outcome : Outcome}
    (ended : daemon.upgrades request = .ended outcome)
    (step : Daemon.Step state daemon event reached) : reached.upgrades request = .ended outcome := by
  cases step with
  | spawned spawning stands =>
    refine ended_setUpgrade ?_ ended
    intro other present
    have past := (tracked.spawned spawning).mp (by simp [present])
    rw [stands] at past
    cases past
  | started starting stands => exact ended_setUpgrade (by simp [stands]) ended
  | returned returning outcome stands => exact ended_setUpgrade (by simp [stands]) ended
  | dropped dropping outcome stands => exact ended_setUpgrade (by simp [stands]) ended
  | _ => exact ended

end DaemonSteps

section BeforeTheTake

variable {state : AppState} {system : System} {events : List Event}

/-- A step before the take is one of the handlers and tasks, or leaves them alone. -/
theorem early_step {reached : System} {event : Event} (step : next state system event = some reached)
    (early : reached.phase.early = true) : system.phase.early = true ∧
      ((∃ moving, event = .daemon moving ∧
        Daemon.next state system.daemon moving = some reached.daemon) ∨
      reached.daemon = system.daemon) := by
  cases step_of_next step with
  | daemon event daemon running free moved => exact ⟨early, .inl ⟨event, rfl, moved⟩⟩
  | stopped serving => exact ⟨by rw [serving]; rfl, .inr rfl⟩
  | cancelled request aborted upgrading =>
    have late : system.phase.early = true := early
    rw [aborted] at late
    cases late
  | _ => cases early

/-- Until the take the handlers and tasks run as without `main`. -/
theorem early_run (completed : run (next state) start events = some system)
    (early : system.phase.early = true) :
    ∃ events, run (Daemon.next state) initial events = some system.daemon := by
  refine run_preserves (next state) (fun system => system.phase.early = true →
    ∃ events, run (Daemon.next state) initial events = some system.daemon) ?_ (fun _ => ⟨[], rfl⟩)
    completed early
  intro system event reached followed step early
  obtain ⟨before, ⟨moving, _, moved⟩ | same⟩ := early_step step early
  · obtain ⟨events, completed⟩ := followed before
    exact ⟨events ++ [moving], run_append _ completed (run_one _ moved)⟩
  · exact same ▸ followed before

/-- The condition on the stores of an execution. -/
def KeepsRunning (system : System) : Event → Prop
  | .daemon event => UpgradeHandle.KeepsRunning system.daemon event
  | _ => True

instance (system : System) (event : Event) : Decidable (KeepsRunning system event) :=
  match event with
  | .daemon event => inferInstanceAs (Decidable (UpgradeHandle.KeepsRunning system.daemon event))
  | .stopped | .handleTaken | .joined | .timedOut | .cancelled | .exited => isTrue trivial

theorem early_accounted (completed : run (next state) start events = some system)
    (guarded : Guarded (next state) KeepsRunning start events) (early : system.phase.early = true) :
    Accounted system.daemon := by
  refine guarded_preserves (next state) KeepsRunning (fun _ => True)
    (fun system => system.phase.early = true → Accounted system.daemon) (fun _ _ _ _ _ => trivial) ?_
    trivial (fun _ => initial_accounted) guarded completed early
  intro system event reached _ accounted keeps step early
  obtain ⟨before, ⟨moving, rfl, moved⟩ | same⟩ := early_step step early
  · exact step_accounted (accounted before) keeps (Daemon.step_of_next moved)
  · exact same ▸ accounted before

/-- Once a request is acknowledged, some handle is stored. -/
theorem acknowledged_handle {daemon : State} {events : List Daemon.Event}
    (completed : run (Daemon.next state) initial events = some daemon) {request : Nat}
    (acknowledged : Acknowledged daemon request) : daemon.upgradeHandle ≠ none := by
  refine run_preserves (Daemon.next state) (fun daemon => ∀ request, Acknowledged daemon request →
    daemon.upgradeHandle ≠ none) ?_ (by simp [Acknowledged, initial]) completed request acknowledged
  intro daemon event reached stored step request acknowledged
  have step := Daemon.step_of_next step
  obtain same | ⟨_, _, held⟩ := step_acknowledged request step
  · exact step_handle (stored request (same.mp acknowledged)) step
  · simp [held]

/-- A task whose handler is past the spawn has ended, or it is in flight. -/
theorem task_past_spawn {daemon : State} (tracked : Tracked state daemon) {request : Nat}
    (past : (daemon.handlers request).pastSpawn = true) :
    (daemon.upgrades request).inFlight = true ∨ ∃ outcome, daemon.upgrades request = .ended outcome := by
  have present := (tracked.spawned request).mpr past
  cases task : daemon.upgrades request with
  | absent => exact absurd task present
  | ended outcome => exact .inr ⟨outcome, rfl⟩
  | _ => exact .inl rfl

end BeforeTheTake

section SinceTheTake

/-- The verdict is true of the handle that was stored and of the tasks. -/
inductive Tells (handle : Option Nat) (daemon : State) : Verdict → Prop where
  | nothing (empty : handle = none) : Tells handle daemon .nothing
  | finished (request : Nat) (outcome : Outcome) (held : handle = some request)
      (ended : daemon.upgrades request = .ended outcome) (returned : outcome ≠ .panic) :
      Tells handle daemon (.finished request)
  | failed (request : Nat) (held : handle = some request)
      (ended : daemon.upgrades request = .ended .panic) : Tells handle daemon (.failed request)
  | aborted (request : Nat) (held : handle = some request) : Tells handle daemon (.aborted request)

/-- What holds at each phase of `main` since it has taken the handle. -/
inductive Stands (taking daemon : State) : Phase → Prop where
  | awaiting (request : Nat) (held : taking.upgradeHandle = some request)
      (closed : ∀ request, Acknowledged daemon request → Acknowledged taking request) :
      Stands taking daemon (.awaiting request)
  | returning (verdict : Verdict) (tells : Tells taking.upgradeHandle daemon verdict) :
      Stands taking daemon (.returning verdict)
  | exited (verdict : Verdict) (tells : Tells taking.upgradeHandle daemon verdict) :
      Stands taking daemon (.exited verdict)

/-- The system since the take: tasks that had ended then are still so. -/
structure Since (state : AppState) (taking : State) (system : System) : Prop where
  tracked : Tracked state system.daemon
  ended : ∀ request outcome, taking.upgrades request = .ended outcome →
    system.daemon.upgrades request = .ended outcome
  stands : Stands taking system.daemon system.phase

variable {state : AppState} {taking : State} {system reached : System} {event : Event}

theorem tells_kept {handle : Option Nat} {daemon moved : State} {verdict : Verdict}
    (tells : Tells handle daemon verdict)
    (kept : ∀ request outcome, daemon.upgrades request = .ended outcome →
      moved.upgrades request = .ended outcome) : Tells handle moved verdict := by
  cases tells with
  | nothing empty => exact .nothing empty
  | finished request outcome held ended returned =>
    exact .finished request outcome held (kept request outcome ended) returned
  | failed request held ended => exact .failed request held (kept request .panic ended)
  | aborted request held => exact .aborted request held

theorem tells_joined {handle : Option Nat} {daemon : State} {request : Nat} {outcome : Outcome}
    (held : handle = some request) (ended : daemon.upgrades request = .ended outcome) :
    Tells handle daemon (.joined request outcome) := by
  cases outcome with
  | panic => exact .failed request held ended
  | ok => exact .finished request .ok held ended (by simp)
  | err message => exact .finished request (.err message) held ended (by simp)

/-- The take itself. -/
theorem taken_since {system took : System} (tracked : Tracked state system.daemon)
    (take : next state system .handleTaken = some took) : Since state system.daemon took := by
  have cleared : Tracked state { system.daemon with upgradeHandle := none } :=
    ⟨tracked.spawned, tracked.asked, tracked.accepted, by simp, tracked.counted⟩
  cases step_of_next take with
  | taken request stopped held =>
    exact ⟨cleared, fun _ _ ended => ended, .awaiting request held fun _ acknowledged => acknowledged⟩
  | nothing stopped empty =>
    exact ⟨cleared, fun _ _ ended => ended, .returning .nothing (.nothing empty)⟩

/-- A step of a handler or a task. While `main` awaits, the only step that would
acknowledge a request is blocked. -/
theorem daemon_since {event : Daemon.Event} {daemon : State} (since : Since state taking system)
    (running : ∀ verdict, system.phase ≠ .exited verdict) (free : blocked system event = false)
    (moved : Daemon.next state system.daemon event = some daemon) :
    Since state taking { system with daemon := daemon } := by
  have step := Daemon.step_of_next moved
  have kept (request : Nat) (outcome : Outcome)
      (ended : system.daemon.upgrades request = .ended outcome) :
      daemon.upgrades request = .ended outcome := step_ended since.tracked ended step
  refine ⟨step_tracked since.tracked step,
    fun request outcome ended => kept request outcome (since.ended request outcome ended), ?_⟩
  obtain ⟨before, phase⟩ := system
  cases since.stands with
  | awaiting taken held closed =>
    refine .awaiting taken held ?_
    intro request acknowledged
    obtain same | ⟨rfl, spawned, _⟩ := step_acknowledged request step
    · exact closed request (same.mp acknowledged)
    · exact absurd spawned (by simpa [blocked] using free)
  | returning verdict tells => exact .returning verdict (tells_kept tells kept)
  | exited verdict tells => exact absurd rfl (running verdict)

theorem cancel_since {request : Nat} (since : Since state taking system)
    (aborted : system.phase = .returning (.aborted request))
    (upgrading : system.daemon.upgrades request = .upgrading) :
    Since state taking { system with daemon := cancel system.daemon request } := by
  have moved : Tracked state (system.daemon.setUpgrade request (.ended .panic)) :=
    tracked_setUpgrade since.tracked (by simp [upgrading]) (by simp) (by rw [upgrading]; rfl)
  have kept (other : Nat) (outcome : Outcome)
      (ended : system.daemon.upgrades other = .ended outcome) :
      (cancel system.daemon request).upgrades other = .ended outcome :=
    ended_setUpgrade (by simp [upgrading]) ended
  refine ⟨⟨moved.spawned, moved.asked, moved.accepted, moved.stored, moved.counted⟩,
    fun other outcome ended => kept other outcome (since.ended other outcome ended), ?_⟩
  have stands := since.stands
  rw [aborted] at stands
  cases stands with
  | returning verdict tells =>
    show Stands taking (cancel system.daemon request) system.phase
    rw [aborted]
    exact .returning _ (tells_kept tells kept)

/-- Each step of the system keeps what holds since the take. -/
theorem step_since (since : Since state taking system)
    (step : next state system event = some reached) : Since state taking reached := by
  have stands := since.stands
  cases step_of_next step with
  | daemon event daemon running free moved => exact daemon_since since running free moved
  | stopped serving =>
    rw [serving] at stands
    cases stands
  | taken request stopped held =>
    rw [stopped] at stands
    cases stands
  | nothing stopped empty =>
    rw [stopped] at stands
    cases stands
  | joined request outcome awaiting ended =>
    rw [awaiting] at stands
    cases stands with
    | awaiting request held closed =>
      exact ⟨since.tracked, since.ended, .returning _ (tells_joined held ended)⟩
  | timedOut request awaiting =>
    rw [awaiting] at stands
    cases stands with
    | awaiting request held closed =>
      exact ⟨since.tracked, since.ended, .returning _ (.aborted request held)⟩
  | cancelled request aborted upgrading => exact cancel_since since aborted upgrading
  | exited verdict returning =>
    rw [returning] at stands
    cases stands with
    | returning verdict tells => exact ⟨since.tracked, since.ended, .exited verdict tells⟩

/-- Whatever happens after the take, it keeps what holds since then. -/
theorem run_since {system took : System} {events : List Event} (tracked : Tracked state system.daemon)
    (take : next state system .handleTaken = some took)
    (completed : run (next state) took events = some reached) : Since state system.daemon reached :=
  run_preserves (next state) (Since state system.daemon) (fun _ _ _ since step => step_since since step)
    (taken_since tracked take) completed

end SinceTheTake

/-- What the end of the runtime leaves of the upgrades that were acknowledged before the
take. -/
structure Settled (taking final : State) (verdict : Verdict) : Prop where
  tells : Tells taking.upgradeHandle final verdict
  nothing : verdict = .nothing → ∀ request, ¬ Acknowledged taking request
  acknowledged : ∀ request, Acknowledged taking request →
    (∃ outcome, final.upgrades request = .ended outcome) ∨ verdict = .aborted request

section Endings

variable {state : AppState} {system took final : System} {before after : List Event}

/-- The take happens early, so it follows a run of the handlers and tasks alone. -/
theorem take_early (take : next state system .handleTaken = some took) :
    system.phase.early = true := by
  cases step_of_next take with
  | taken request stopped held => simp [stopped, Phase.early]
  | nothing stopped empty => simp [stopped, Phase.early]

/-- With orderly stores every acknowledged upgrade in flight is the one that is awaited.
The others have ended before, and stay so. -/
theorem exit_settled (completed : run (next state) start before = some system)
    (guarded : Guarded (next state) KeepsRunning start before)
    (take : next state system .handleTaken = some took)
    (ended : run (next state) took after = some final) {verdict : Verdict}
    (exited : final.phase = .exited verdict) : Settled system.daemon final.daemon verdict := by
  obtain ⟨events, alone⟩ := early_run completed (take_early take)
  have tracked : Tracked state system.daemon := run_tracked alone
  have since := run_since tracked take ended
  have stands := since.stands
  rw [exited] at stands
  cases stands with
  | exited verdict tells =>
    refine ⟨tells, ?_, ?_⟩
    · rintro rfl request acknowledged
      cases tells with
      | nothing empty => exact acknowledged_handle alone acknowledged empty
    · intro request acknowledged
      obtain flying | ⟨outcome, complete⟩ := task_past_spawn tracked (acknowledged_past acknowledged)
      · have held : system.daemon.upgradeHandle = some request := by
          have accounted := early_accounted completed guarded (take_early take)
          exact (accounted request flying).resolve_left (acknowledged_not_spawned acknowledged)
        cases tells with
        | nothing empty => simp [empty] at held
        | finished taken outcome stored complete returned =>
          obtain rfl : request = taken := Option.some.inj (held.symm.trans stored)
          exact .inl ⟨outcome, complete⟩
        | failed taken stored complete =>
          obtain rfl : request = taken := Option.some.inj (held.symm.trans stored)
          exact .inl ⟨.panic, complete⟩
        | aborted taken stored =>
          obtain rfl : request = taken := Option.some.inj (held.symm.trans stored)
          exact .inr rfl
      · exact .inl ⟨outcome, since.ended request outcome complete⟩

/-- While `main` awaits the task, no request is acknowledged. -/
theorem awaiting_closed (completed : run (next state) start before = some system)
    (take : next state system .handleTaken = some took)
    (waited : run (next state) took after = some final) {taken : Nat}
    (awaiting : final.phase = .awaiting taken) {request : Nat}
    (acknowledged : Acknowledged final.daemon request) : Acknowledged system.daemon request := by
  obtain ⟨events, alone⟩ := early_run completed (take_early take)
  have stands := (run_since (run_tracked alone) take waited).stands
  rw [awaiting] at stands
  cases stands with
  | awaiting taken held closed => exact closed request acknowledged

/-- What is left of the end of `main` without any step of a handler or task. -/
def Phase.ending : Phase → List Event
  | .serving => [.stopped, .handleTaken, .joined, .exited]
  | .stopped => [.handleTaken, .joined, .exited]
  | .awaiting _ => [.joined, .exited]
  | .returning _ => [.exited]
  | .exited _ => []

/-- A store over the handle of a running task. The task that is stored now cannot be in
flight beside it, so it has ended; `main` finds it so and returns at once. -/
theorem broken_store_exits {moving : Daemon.Event} {reached : System}
    (completed : run (next state) start before = some system) (early : system.phase.early = true)
    (breaks : ¬ UpgradeHandle.KeepsRunning system.daemon moving)
    (step : next state system (.daemon moving) = some reached) :
    ∃ final verdict request,
      run (next state) reached system.phase.ending = some final ∧
        final.phase = .exited verdict ∧ Acknowledged reached.daemon request ∧
        (final.daemon.upgrades request).inFlight = true ∧ verdict ≠ .aborted request := by
  obtain ⟨events, alone⟩ := early_run completed early
  have tracked : Tracked state system.daemon := run_tracked alone
  obtain ⟨_, owner, _, lock⟩ := run_represents alone
  simp only [UpgradeHandle.KeepsRunning, not_forall] at breaks
  obtain ⟨request, advances, spawned, held, stored, flying⟩ := breaks
  obtain rfl : moving = .advanced request := eq_advanced advances
  have inFlight : (system.daemon.upgrades held).inFlight = true := by simpa using flying
  obtain ⟨past, notSpawned⟩ := tracked.stored held stored
  have distinct : held ≠ request := by
    intro same
    exact notSpawned (same ▸ spawned)
  have complete : ∃ outcome, system.daemon.upgrades request = .ended outcome := by
    have pastToo : (system.daemon.handlers request).pastSpawn = true := by simp [spawned, Handler.pastSpawn]
    obtain alive | complete := task_past_spawn tracked pastToo
    · exact absurd (holder_unique lock (.inr inFlight) (.inr alive)) distinct
    · exact complete
  obtain ⟨outcome, complete⟩ := complete
  have acknowledged : Acknowledged system.daemon held := by
    cases handler : system.daemon.handlers held with
    | upgradeSpawned => exact absurd handler notSpawned
    | upgradeStored => exact .inl handler
    | answered response =>
      rw [handler] at past
      exact .inr (by simpa [Handler.pastSpawn, handler] using past)
    | _ =>
      rw [handler] at past
      cases past
  have after : reached = ⟨{ system.daemon.setHandler request .upgradeStored with
      upgradeHandle := some request }, system.phase⟩ := by
    cases stands : system.phase with
    | serving | stopped =>
      simpa [next, stands, blocked, Daemon.next, advance, spawned] using step.symm
    | _ =>
      rw [stands] at early
      cases early
  subst after
  refine ⟨⟨{ system.daemon.setHandler request .upgradeStored with upgradeHandle := none },
    .exited (.joined request outcome)⟩, .joined request outcome, held, ?_, rfl, ?_, inFlight, ?_⟩
  · cases stands : system.phase with
    | serving | stopped => simp [Phase.ending, run, next, shutdown, complete]
    | _ =>
      rw [stands] at early
      cases early
  · simpa [Acknowledged, distinct] using acknowledged
  · cases outcome <;> simp [Verdict.joined]

end Endings

/-- How the daemon's `main` ends, in every interleaving with handlers and tasks.

First, if no store has replaced the handle of a running task, then every upgrade that was
acknowledged before `main` took the handle has ended when the runtime ends, or it has been
awaited for the whole timeout and aborted; the verdict is true, and without a stored handle
nothing was acknowledged. Second, while `main` awaits, no request is acknowledged. Third,
the condition on the stores cannot be relaxed: from a store that breaks it, before the signal
or after it, `main` can end without any waiting and without a step of any handler or task, in
the midst of an acknowledged upgrade. -/
theorem shutdown_waits (state : AppState) :
    (∀ before system took after final verdict,
      run (next state) start before = some system → Guarded (next state) KeepsRunning start before →
      next state system .handleTaken = some took → run (next state) took after = some final →
      final.phase = .exited verdict → Settled system.daemon final.daemon verdict) ∧
    (∀ before system took after waiting taken request,
      run (next state) start before = some system → next state system .handleTaken = some took →
      run (next state) took after = some waiting → waiting.phase = .awaiting taken →
      Acknowledged waiting.daemon request → Acknowledged system.daemon request) ∧
    (∀ before system moving reached,
      run (next state) start before = some system → system.phase.early = true →
      ¬ UpgradeHandle.KeepsRunning system.daemon moving →
      next state system (.daemon moving) = some reached →
      ∃ final verdict request,
        run (next state) reached system.phase.ending = some final ∧
          final.phase = .exited verdict ∧ Acknowledged reached.daemon request ∧
          (final.daemon.upgrades request).inFlight = true ∧ verdict ≠ .aborted request) := by
  refine ⟨?_, ?_, ?_⟩
  · intro before system took after final verdict completed guarded take ended exited
    exact exit_settled completed guarded take ended exited
  · intro before system took after waiting taken request completed take waited awaiting acknowledged
    exact awaiting_closed completed take waited awaiting acknowledged
  · intro before system moving reached completed early breaks step
    exact broken_store_exits completed early breaks step

/-- An upgrade runs when the signal comes; a second request, refused, arrives meanwhile. -/
def upgradeAtSignal : List Event :=
  [.daemon (.received 0 (.fullUpgrade ⟨false⟩)), .daemon (.advanced 0), .daemon (.advanced 0),
    .daemon (.advanced 0), .daemon (.advanced 0), .daemon (.upgradeStarted 0), .stopped]

def endedInTime : List Event :=
  [.daemon (.received 1 (.fullUpgrade ⟨false⟩)), .daemon (.advanced 1),
    .daemon (.upgradeReturned 0 .ok), .daemon (.guardDropped 0), .joined, .exited]

/-- The law applies to it: the upgrade has ended when the runtime does. -/
theorem upgrade_awaited :
    ∃ system took final, run (next permissive) start upgradeAtSignal = some system ∧
      next permissive system .handleTaken = some took ∧
      run (next permissive) took endedInTime = some final ∧ final.phase = .exited (.finished 0) ∧
      Settled system.daemon final.daemon (.finished 0) :=
  ⟨_, _, _, rfl, rfl, rfl, rfl,
    (shutdown_waits permissive).1 upgradeAtSignal _ _ endedInTime _ _ rfl (by decide) rfl rfl rfl⟩

end Brewmble.Shutdown
