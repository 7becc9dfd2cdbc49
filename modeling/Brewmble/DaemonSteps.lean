import Brewmble.Daemon

/-!
# What one step of the daemon can do

Every enabled event is one of the steps listed here, with the guards the source
tests. A step either moves one handler between states that concern no task, or
changes one task, or does one of the three things that tie a handler to shared
state: claim the flag, spawn an upgrade, store its handle. Laws about executions
case on this list and never unfold the handlers.

The lifecycle invariant ties each upgrade task to its handler and its request.
It holds in every reached state, whatever the order of events.
-/

namespace Brewmble.Daemon

open Rest Execution

section Updates

variable (daemon : State) (request : Nat)

@[simp] theorem setHandler_handlers (handler : Handler) :
    (daemon.setHandler request handler).handlers =
      Function.update daemon.handlers request handler := rfl

@[simp] theorem setHandler_upgrades (handler : Handler) :
    (daemon.setHandler request handler).upgrades = daemon.upgrades := rfl

@[simp] theorem setHandler_reboots (handler : Handler) :
    (daemon.setHandler request handler).reboots = daemon.reboots := rfl

@[simp] theorem setHandler_requests (handler : Handler) :
    (daemon.setHandler request handler).requests = daemon.requests := rfl

@[simp] theorem setHandler_isUpgrading (handler : Handler) :
    (daemon.setHandler request handler).isUpgrading = daemon.isUpgrading := rfl

@[simp] theorem setHandler_upgradeHandle (handler : Handler) :
    (daemon.setHandler request handler).upgradeHandle = daemon.upgradeHandle := rfl

@[simp] theorem setHandler_calls (handler : Handler) :
    (daemon.setHandler request handler).fullUpgradeCalls = daemon.fullUpgradeCalls := rfl

@[simp] theorem setHandler_issued (handler : Handler) :
    (daemon.setHandler request handler).issued = daemon.issued := rfl

@[simp] theorem setUpgrade_upgrades (task : UpgradeTask) :
    (daemon.setUpgrade request task).upgrades = Function.update daemon.upgrades request task := rfl

@[simp] theorem setUpgrade_handlers (task : UpgradeTask) :
    (daemon.setUpgrade request task).handlers = daemon.handlers := rfl

@[simp] theorem setUpgrade_reboots (task : UpgradeTask) :
    (daemon.setUpgrade request task).reboots = daemon.reboots := rfl

@[simp] theorem setUpgrade_requests (task : UpgradeTask) :
    (daemon.setUpgrade request task).requests = daemon.requests := rfl

@[simp] theorem setUpgrade_isUpgrading (task : UpgradeTask) :
    (daemon.setUpgrade request task).isUpgrading = daemon.isUpgrading := rfl

@[simp] theorem setUpgrade_upgradeHandle (task : UpgradeTask) :
    (daemon.setUpgrade request task).upgradeHandle = daemon.upgradeHandle := rfl

@[simp] theorem setUpgrade_calls (task : UpgradeTask) :
    (daemon.setUpgrade request task).fullUpgradeCalls = daemon.fullUpgradeCalls := rfl

@[simp] theorem setUpgrade_issued (task : UpgradeTask) :
    (daemon.setUpgrade request task).issued = daemon.issued := rfl

@[simp] theorem setReboot_reboots (task : RebootTask) :
    (daemon.setReboot request task).reboots = Function.update daemon.reboots request task := rfl

@[simp] theorem setReboot_handlers (task : RebootTask) :
    (daemon.setReboot request task).handlers = daemon.handlers := rfl

@[simp] theorem setReboot_upgrades (task : RebootTask) :
    (daemon.setReboot request task).upgrades = daemon.upgrades := rfl

@[simp] theorem setReboot_requests (task : RebootTask) :
    (daemon.setReboot request task).requests = daemon.requests := rfl

@[simp] theorem setReboot_isUpgrading (task : RebootTask) :
    (daemon.setReboot request task).isUpgrading = daemon.isUpgrading := rfl

@[simp] theorem setReboot_upgradeHandle (task : RebootTask) :
    (daemon.setReboot request task).upgradeHandle = daemon.upgradeHandle := rfl

@[simp] theorem setReboot_calls (task : RebootTask) :
    (daemon.setReboot request task).fullUpgradeCalls = daemon.fullUpgradeCalls := rfl

@[simp] theorem setReboot_issued (task : RebootTask) :
    (daemon.setReboot request task).issued = daemon.issued := rfl

end Updates

/-- A handler step that writes no shared cell and starts no task. The flag is
the value the step loads; a refusal never carries the acceptance answer. -/
inductive LocalMove (state : AppState) (isUpgrading : Bool) : Handler → Handler → Prop where
  | upgradeRefused (payload : UpgradeRequest) (response : Response)
      (reason : state.pmAvailable = false ∨ payload.dryRun = false ∧ isUpgrading = true)
      (refused : response ≠ triggered) :
      LocalMove state isUpgrading (.upgradeReceived payload) (.answered response)
  | upgradeDryRun (payload : UpgradeRequest) (available : state.pmAvailable = true)
      (dry : payload.dryRun = true) :
      LocalMove state isUpgrading (.upgradeReceived payload) .dryRunning
  | dryRunAnswered (response : Response) (refused : response ≠ triggered) :
      LocalMove state isUpgrading .dryRunning (.answered response)
  | upgradeAnswered : LocalMove state isUpgrading .upgradeStored (.answered triggered)
  | rebootRefused (payload : RebootRequest) (response : Response)
      (reason : state.pmAvailable = false ∨ isUpgrading = true)
      (refused : response ≠ triggered) :
      LocalMove state isUpgrading (.rebootReceived payload) (.answered response)
  | rebootPassed (payload : RebootRequest) (available : state.pmAvailable = true)
      (clear : isUpgrading = false) :
      LocalMove state isUpgrading (.rebootReceived payload) (.rebootPassed payload.delaySecs)
  | rebootForbidden (delay : Option Nat) (response : Response)
      (reason : state.allowReboot = false) (refused : response ≠ triggered) :
      LocalMove state isUpgrading (.rebootPassed delay) (.answered response)
  | rebootAnswered (response : Response) (refused : response ≠ triggered) :
      LocalMove state isUpgrading .rebootSpawned (.answered response)

/-- The steps of the whole daemon. -/
inductive Step (state : AppState) (daemon : State) : Event → State → Prop where
  | arrived (request : Nat) (body : Request) (fresh : daemon.handlers request = .idle) :
      Step state daemon (.received request body)
        { daemon.setHandler request (Handler.start body) with
          requests := Function.update daemon.requests request (some body) }
  | moved (event : Event) (request : Nat) (before after : Handler)
      (handled : event = .advanced request ∨ ∃ result, event = .dryRunReturned request result)
      (stands : daemon.handlers request = before)
      (move : LocalMove state daemon.isUpgrading before after) :
      Step state daemon event (daemon.setHandler request after)
  | claimed (request : Nat) (payload : UpgradeRequest)
      (stands : daemon.handlers request = .upgradeReceived payload)
      (available : state.pmAvailable = true) (wet : payload.dryRun = false)
      (clear : daemon.isUpgrading = false) :
      Step state daemon (.advanced request)
        { daemon.setHandler request .upgradeClaimed with isUpgrading := true }
  | spawned (request : Nat) (stands : daemon.handlers request = .upgradeClaimed) :
      Step state daemon (.advanced request)
        ((daemon.setUpgrade request .ready).setHandler request .upgradeSpawned)
  | stored (request : Nat) (stands : daemon.handlers request = .upgradeSpawned) :
      Step state daemon (.advanced request)
        { daemon.setHandler request .upgradeStored with upgradeHandle := some request }
  | rebootSpawned (request : Nat) (delay : Option Nat)
      (stands : daemon.handlers request = .rebootPassed delay)
      (allowed : state.allowReboot = true) :
      Step state daemon (.advanced request)
        ((daemon.setReboot request (.start delay)).setHandler request .rebootSpawned)
  | started (request : Nat) (stands : daemon.upgrades request = .ready) :
      Step state daemon (.upgradeStarted request)
        { daemon.setUpgrade request .upgrading with
          fullUpgradeCalls := request :: daemon.fullUpgradeCalls }
  | returned (request : Nat) (outcome : Outcome)
      (stands : daemon.upgrades request = .upgrading) :
      Step state daemon (.upgradeReturned request outcome)
        (daemon.setUpgrade request (.returned outcome))
  | dropped (request : Nat) (outcome : Outcome)
      (stands : daemon.upgrades request = .returned outcome) :
      Step state daemon (.guardDropped request)
        { daemon.setUpgrade request (.ended outcome) with isUpgrading := false }
  | elapsed (request seconds : Nat) (stands : daemon.reboots request = .sleeping seconds) :
      Step state daemon (.delayElapsed request)
        (daemon.setReboot request (.issuing .systemctl))
  | issued (request : Nat) (command : RebootCommand)
      (stands : daemon.reboots request = .issuing command) :
      Step state daemon (.commandIssued request)
        { daemon.setReboot request (.awaiting command) with
          issued := ⟨request, command, daemon.isUpgrading⟩ :: daemon.issued }
  | completed (request : Nat) (command : RebootCommand) (result : CommandResult)
      (stands : daemon.reboots request = .awaiting command) :
      Step state daemon (.commandReturned request result)
        (daemon.setReboot request (.afterCommand command result))

/-- A refusal text differs from the acceptance text, whatever the name of the
package manager: the status codes already differ. -/
theorem refusal_is_not_triggered (status : StatusCode) (body : UpgradeResponse)
    (failed : status ≠ .ok) : Response.upgrade status body ≠ triggered := by
  intro same
  exact failed (Response.upgrade.inj same).1

theorem reboot_is_not_triggered (status : StatusCode) (body : RebootResponse) :
    Response.reboot status body ≠ triggered := by
  intro impossible
  cases impossible

theorem dry_run_is_not_triggered (result : Except String (List String)) :
    dryRunResponse result ≠ triggered := by
  cases result with
  | ok updates =>
    intro same
    have text : "dry-run completed" = triggeredMessage :=
      congrArg UpgradeResponse.message (Response.upgrade.inj same).2
    exact absurd text (by decide)
  | error err => exact refusal_is_not_triggered _ _ (by decide)

/-- An advancing handler takes one of the listed steps. The cases follow where
the handler stands and then the tests in the order of the source. -/
theorem step_of_advance {state : AppState} {daemon reached : State} {request : Nat}
    (step : advance state daemon request = some reached) :
    Step state daemon (.advanced request) reached := by
  unfold advance at step
  split at step
  · next payload stands =>
    split at step
    · next missing =>
      obtain rfl := Option.some.inj step
      exact .moved _ request _ _ (.inl rfl) stands
        (.upgradeRefused payload _ (.inl (by simpa using missing))
          (refusal_is_not_triggered _ _ (by decide)))
    · next present =>
      have available : state.pmAvailable = true := by simpa using present
      split at step
      · next dry =>
        obtain rfl := Option.some.inj step
        exact .moved _ request _ _ (.inl rfl) stands (.upgradeDryRun payload available dry)
      · next notDry =>
        have wet : payload.dryRun = false := by simpa using notDry
        split at step
        · next busy =>
          obtain rfl := Option.some.inj step
          exact .moved _ request _ _ (.inl rfl) stands (.upgradeRefused payload _ (.inr ⟨wet, busy⟩)
            (refusal_is_not_triggered _ _ (by decide)))
        · next free =>
          obtain rfl := Option.some.inj step
          exact .claimed request payload stands available wet (by simpa using free)
  · next stands =>
    obtain rfl := Option.some.inj step
    exact .spawned request stands
  · next stands =>
    obtain rfl := Option.some.inj step
    exact .stored request stands
  · next stands =>
    obtain rfl := Option.some.inj step
    exact .moved _ request _ _ (.inl rfl) stands .upgradeAnswered
  · next payload stands =>
    split at step
    · next missing =>
      obtain rfl := Option.some.inj step
      exact .moved _ request _ _ (.inl rfl) stands (.rebootRefused payload _ (.inl (by simpa using missing))
        (reboot_is_not_triggered _ _))
    · next present =>
      split at step
      · next busy =>
        obtain rfl := Option.some.inj step
        exact .moved _ request _ _ (.inl rfl) stands (.rebootRefused payload _ (.inr busy)
          (reboot_is_not_triggered _ _))
      · next free =>
        obtain rfl := Option.some.inj step
        exact .moved _ request _ _ (.inl rfl) stands
          (.rebootPassed payload (by simpa using present) (by simpa using free))
  · next delay stands =>
    split at step
    · next disabled =>
      obtain rfl := Option.some.inj step
      exact .moved _ request _ _ (.inl rfl) stands (.rebootForbidden delay _ (by simpa using disabled)
        (reboot_is_not_triggered _ _))
    · next enabled =>
      obtain rfl := Option.some.inj step
      exact .rebootSpawned request delay stands (by simpa using enabled)
  · next stands =>
    obtain rfl := Option.some.inj step
    exact .moved _ request _ _ (.inl rfl) stands (.rebootAnswered _ (reboot_is_not_triggered _ _))
  all_goals cases step

/-- Only an advance advances a handler. -/
theorem eq_advanced {event : Event} {request : Nat} (advances : event.advancing = some request) :
    event = .advanced request := by
  cases event with
  | advanced advancing =>
    have same : advancing = request := Option.some.inj advances
    rw [same]
  | _ => cases advances

/-- Every enabled event is a listed step. -/
theorem step_of_next {state : AppState} {daemon reached : State} {event : Event}
    (step : next state daemon event = some reached) : Step state daemon event reached := by
  cases event with
  | received request body =>
    simp only [next, Option.ite_none_right_eq_some] at step
    obtain ⟨fresh, same⟩ := step
    exact Option.some.inj same ▸ .arrived request body fresh
  | advanced request => exact step_of_advance step
  | dryRunReturned request result =>
    simp only [next, Option.ite_none_right_eq_some] at step
    obtain ⟨stands, same⟩ := step
    exact Option.some.inj same ▸
      .moved _ request _ _ (.inr ⟨result, rfl⟩) stands (.dryRunAnswered _ (dry_run_is_not_triggered result))
  | upgradeStarted request =>
    simp only [next, Option.ite_none_right_eq_some] at step
    obtain ⟨stands, same⟩ := step
    exact Option.some.inj same ▸ .started request stands
  | upgradeReturned request outcome =>
    simp only [next, Option.ite_none_right_eq_some] at step
    obtain ⟨stands, same⟩ := step
    exact Option.some.inj same ▸ .returned request outcome stands
  | guardDropped request =>
    simp only [next] at step
    split at step
    · next outcome stands => exact Option.some.inj step ▸ .dropped request outcome stands
    · cases step
  | delayElapsed request =>
    simp only [next] at step
    split at step
    · next seconds stands => exact Option.some.inj step ▸ .elapsed request seconds stands
    · cases step
  | commandIssued request =>
    simp only [next] at step
    split at step
    · next command stands => exact Option.some.inj step ▸ .issued request command stands
    · cases step
  | commandReturned request result =>
    simp only [next] at step
    split at step
    · next command stands => exact Option.some.inj step ▸ .completed request command result stands
    · cases step

/-- The handler has spawned an upgrade task: it holds or has stored the handle,
or has given the acceptance answer. -/
def Handler.pastSpawn : Handler → Bool
  | .upgradeSpawned | .upgradeStored => true
  | .answered response => response = triggered
  | _ => false

namespace LocalMove

variable {state : AppState} {isUpgrading : Bool} {before after : Handler}

/-- A local move neither passes the spawn nor returns from it. -/
theorem pastSpawn_eq (move : LocalMove state isUpgrading before after) :
    after.pastSpawn = before.pastSpawn := by
  cases move <;> simp_all [Handler.pastSpawn]

theorem not_claimed (move : LocalMove state isUpgrading before after) :
    before ≠ .upgradeClaimed ∧ after ≠ .upgradeClaimed := by
  cases move <;> simp

theorem not_spawned (move : LocalMove state isUpgrading before after) :
    before ≠ .upgradeSpawned ∧ after ≠ .upgradeSpawned := by
  cases move <;> simp

theorem not_received (move : LocalMove state isUpgrading before after)
    (payload : UpgradeRequest) : after ≠ .upgradeReceived payload := by
  cases move <;> simp

/-- A local move ends in a permitted reboot only when the loaded flag was false. -/
theorem passed_clear (move : LocalMove state isUpgrading before after) (delay : Option Nat)
    (passed : after = .rebootPassed delay) : isUpgrading = false := by
  cases move with
  | rebootPassed payload available clear => exact clear
  | _ => cases passed

end LocalMove

theorem start_pastSpawn (body : Request) : (Handler.start body).pastSpawn = false := by
  cases body <;> rfl

theorem start_not_claimed (body : Request) : Handler.start body ≠ .upgradeClaimed := by
  cases body <;> simp [Handler.start]

/-- How handlers, upgrade tasks, stored handles and calls belong together. A task
exists exactly past the spawn of its handler, only for a request that asked for
a real upgrade on an available package manager, and has made one call once it
has started. -/
structure Tracked (state : AppState) (daemon : State) : Prop where
  spawned : ∀ request, daemon.upgrades request ≠ .absent ↔
    (daemon.handlers request).pastSpawn = true
  asked : ∀ request payload, daemon.handlers request = .upgradeReceived payload →
    daemon.requests request = some (.fullUpgrade payload)
  accepted : ∀ request, daemon.handlers request = .upgradeClaimed ∨
    (daemon.handlers request).pastSpawn = true →
    daemon.requests request = some (.fullUpgrade ⟨false⟩) ∧ state.pmAvailable = true
  stored : ∀ request, daemon.upgradeHandle = some request →
    (daemon.handlers request).pastSpawn = true ∧ daemon.handlers request ≠ .upgradeSpawned
  counted : ∀ request, daemon.fullUpgradeCalls.count request =
    if (daemon.upgrades request).called then 1 else 0

theorem initial_tracked (state : AppState) : Tracked state initial where
  spawned := by simp [initial, Handler.pastSpawn]
  asked := by simp [initial]
  accepted := by simp [initial, Handler.pastSpawn]
  stored := by simp [initial]
  counted := by simp [initial, UpgradeTask.called]

/-- Replacing one task by another that is also present, with no change in
whether it has called, keeps the lifecycle invariant. -/
theorem tracked_setUpgrade {state : AppState} {daemon : State} {request : Nat}
    {task : UpgradeTask} (tracked : Tracked state daemon)
    (before : daemon.upgrades request ≠ .absent) (present : task ≠ .absent)
    (sameCall : task.called = (daemon.upgrades request).called) :
    Tracked state (daemon.setUpgrade request task) where
  spawned := by
    intro other
    by_cases same : other = request
    · subst same
      simpa [present] using (tracked.spawned other).mp before
    · simpa [same] using tracked.spawned other
  asked := tracked.asked
  accepted := tracked.accepted
  stored := tracked.stored
  counted := by
    intro other
    by_cases same : other = request
    · subst same
      simpa [sameCall] using tracked.counted other
    · simpa [same] using tracked.counted other

/-- Moving a handler within one side of the spawn leaves it on the side of its task. -/
theorem spawned_setHandler {state : AppState} {daemon : State} {request : Nat}
    {after : Handler} (tracked : Tracked state daemon)
    (side : after.pastSpawn = (daemon.handlers request).pastSpawn) (other : Nat) :
    daemon.upgrades other ≠ .absent ↔
      (Function.update daemon.handlers request after other).pastSpawn = true := by
  by_cases same : other = request
  · subst same
    simpa [side] using tracked.spawned other
  · simpa [same] using tracked.spawned other

/-- A handler before its spawn has stored no handle, so wherever it moves, the
stored handle is that of another request. -/
theorem stored_setHandler {state : AppState} {daemon : State} {request : Nat}
    {after : Handler} (tracked : Tracked state daemon)
    (notPast : (daemon.handlers request).pastSpawn = false) (other : Nat)
    (held : daemon.upgradeHandle = some other) :
    (Function.update daemon.handlers request after other).pastSpawn = true ∧
      Function.update daemon.handlers request after other ≠ .upgradeSpawned := by
  have distinct : other ≠ request := by
    intro same
    have past := (tracked.stored other held).1
    rw [same, notPast] at past
    cases past
  simpa [distinct] using tracked.stored other held

/-- Moving a handler to a state that is no received upgrade request leaves every
received request on record. -/
theorem asked_setHandler {state : AppState} {daemon : State} {request : Nat}
    {after : Handler} (tracked : Tracked state daemon)
    (notReceived : ∀ payload, after ≠ .upgradeReceived payload) (other : Nat)
    (payload : UpgradeRequest)
    (stands : Function.update daemon.handlers request after other = .upgradeReceived payload) :
    daemon.requests other = some (.fullUpgrade payload) := by
  have distinct : other ≠ request := by
    intro same
    subst same
    exact notReceived payload (by simpa using stands)
  exact tracked.asked other payload (by simpa [distinct] using stands)

/-- Moving a handler to a state that is accepted only where its request was leaves
every accepted request on record. -/
theorem accepted_setHandler {state : AppState} {daemon : State} {request : Nat}
    {after : Handler} (tracked : Tracked state daemon)
    (own : after = .upgradeClaimed ∨ after.pastSpawn = true →
      daemon.requests request = some (.fullUpgrade ⟨false⟩) ∧ state.pmAvailable = true)
    (other : Nat) (accepted : Function.update daemon.handlers request after other = .upgradeClaimed ∨
      (Function.update daemon.handlers request after other).pastSpawn = true) :
    daemon.requests other = some (.fullUpgrade ⟨false⟩) ∧ state.pmAvailable = true := by
  by_cases same : other = request
  · subst same
    exact own (by simpa using accepted)
  · exact tracked.accepted other (by simpa [same] using accepted)

/-- Moving a handler within one side of the spawn, to a state that is no upgrade
state, keeps the lifecycle invariant. -/
theorem tracked_setHandler {state : AppState} {daemon : State} {request : Nat}
    {after : Handler} (tracked : Tracked state daemon)
    (side : after.pastSpawn = (daemon.handlers request).pastSpawn)
    (notClaimed : after ≠ .upgradeClaimed) (notSpawned : after ≠ .upgradeSpawned)
    (notReceived : ∀ payload, after ≠ .upgradeReceived payload) :
    Tracked state (daemon.setHandler request after) where
  spawned := spawned_setHandler tracked side
  asked := asked_setHandler tracked notReceived
  accepted := by
    apply accepted_setHandler tracked
    intro stands
    have past : (daemon.handlers request).pastSpawn = true := by
      simpa [notClaimed, side] using stands
    exact tracked.accepted request (.inr past)
  stored := by
    intro other held
    by_cases same : other = request
    · subst same
      simpa [side, notSpawned] using (tracked.stored other held).1
    · simpa [same] using tracked.stored other held
  counted := tracked.counted

/-- Every step keeps the lifecycle invariant. -/
theorem step_tracked {state : AppState} {daemon reached : State} {event : Event}
    (tracked : Tracked state daemon) (step : Step state daemon event reached) :
    Tracked state reached := by
  cases step with
  | arrived request body fresh =>
    have notPast : (daemon.handlers request).pastSpawn = false := by rw [fresh]; rfl
    have side : (Handler.start body).pastSpawn = (daemon.handlers request).pastSpawn := by
      rw [start_pastSpawn, notPast]
    refine ⟨spawned_setHandler tracked side, ?_, ?_, stored_setHandler tracked notPast,
      tracked.counted⟩
    · intro other payload stands
      by_cases same : other = request
      · subst same
        cases body with
        | fullUpgrade asked =>
          have equal : asked = payload := by simpa [Handler.start] using stands
          simp [equal]
        | reboot asked => simp [Handler.start] at stands
      · simpa [same] using tracked.asked other payload (by simpa [same] using stands)
    · intro other stands
      by_cases same : other = request
      · subst same
        simp [start_pastSpawn, start_not_claimed] at stands
      · simpa [same] using tracked.accepted other (by simpa [same] using stands)
  | moved event request before after handled stands move =>
    exact tracked_setHandler tracked (by rw [stands]; exact move.pastSpawn_eq)
      move.not_claimed.2 move.not_spawned.2 move.not_received
  | claimed request payload stands available wet clear =>
    have notPast : (daemon.handlers request).pastSpawn = false := by rw [stands]; rfl
    have side : Handler.pastSpawn .upgradeClaimed = (daemon.handlers request).pastSpawn := by
      rw [notPast]
      rfl
    have plain : payload = ⟨false⟩ := by
      cases payload
      simpa using wet
    have own := tracked.asked request payload stands
    rw [plain] at own
    exact ⟨spawned_setHandler tracked side, asked_setHandler tracked (by simp),
      accepted_setHandler tracked fun _ => ⟨own, available⟩, stored_setHandler tracked notPast,
      tracked.counted⟩
  | spawned request stands =>
    have notPast : (daemon.handlers request).pastSpawn = false := by rw [stands]; rfl
    have absent : daemon.upgrades request = .absent := by
      have spawned := tracked.spawned request
      simp only [notPast, Bool.false_eq_true, iff_false, ne_eq, not_not] at spawned
      exact spawned
    have own := tracked.accepted request (.inl stands)
    refine ⟨?_, @asked_setHandler state daemon request .upgradeSpawned tracked (by simp),
      @accepted_setHandler state daemon request .upgradeSpawned tracked fun _ => own,
      @stored_setHandler state daemon request .upgradeSpawned tracked notPast, ?_⟩
    · intro other
      by_cases same : other = request
      · subst same
        simp [Handler.pastSpawn]
      · simpa [same] using tracked.spawned other
    · intro other
      by_cases same : other = request
      · subst same
        simpa [absent, UpgradeTask.called] using tracked.counted other
      · simpa [same] using tracked.counted other
  | stored request stands =>
    have past : (daemon.handlers request).pastSpawn = true := by rw [stands]; rfl
    have moved : Tracked state (daemon.setHandler request .upgradeStored) :=
      tracked_setHandler tracked past.symm (by simp) (by simp) (by simp)
    refine ⟨moved.spawned, moved.asked, moved.accepted, ?_, moved.counted⟩
    intro other held
    obtain rfl : request = other := by simpa using held
    simp [Handler.pastSpawn]
  | rebootSpawned request delay stands allowed =>
    have moved : Tracked state (daemon.setHandler request .rebootSpawned) :=
      tracked_setHandler tracked (by rw [stands]; rfl) (by simp) (by simp) (by simp)
    exact ⟨moved.spawned, moved.asked, moved.accepted, moved.stored, moved.counted⟩
  | started request stands =>
    refine ⟨?_, tracked.asked, tracked.accepted, tracked.stored, ?_⟩
    · intro other
      by_cases same : other = request
      · subst same
        simpa using (tracked.spawned other).mp (by simp [stands])
      · simpa [same] using tracked.spawned other
    · intro other
      by_cases same : other = request
      · subst same
        simpa [stands, UpgradeTask.called] using tracked.counted other
      · have distinct : request ≠ other := fun equal => same equal.symm
        simpa [same, distinct] using tracked.counted other
  | returned request outcome stands =>
    exact tracked_setUpgrade tracked (by simp [stands]) (by simp) (by rw [stands]; rfl)
  | dropped request outcome stands =>
    have moved : Tracked state (daemon.setUpgrade request (.ended outcome)) :=
      tracked_setUpgrade tracked (by simp [stands]) (by simp) (by rw [stands]; rfl)
    exact ⟨moved.spawned, moved.asked, moved.accepted, moved.stored, moved.counted⟩
  | elapsed request seconds stands =>
    exact ⟨tracked.spawned, tracked.asked, tracked.accepted, tracked.stored, tracked.counted⟩
  | issued request command stands =>
    exact ⟨tracked.spawned, tracked.asked, tracked.accepted, tracked.stored, tracked.counted⟩
  | completed request command result stands =>
    exact ⟨tracked.spawned, tracked.asked, tracked.accepted, tracked.stored, tracked.counted⟩

/-- The lifecycle invariant holds in every reached state. -/
theorem run_tracked {state : AppState} {events : List Event} {daemon : State}
    (reached : run (next state) initial events = some daemon) : Tracked state daemon :=
  run_preserves (next state) (Tracked state)
    (fun _ _ _ tracked step => step_tracked tracked (step_of_next step))
    (initial_tracked state) reached

end Brewmble.Daemon
