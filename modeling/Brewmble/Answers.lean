import Brewmble.UpgradeLock

/-!
# What an answer tells

The life of a request is described by its body, its handler, its two tasks and the reboot
commands that it has issued. It begins with the arrival; it either ends with a refusal and
no task, or a task is spawned before the acceptance is given. Every step of the daemon
concerns the life of one request only.

An answer is final, so what it says about the tasks of its request holds for ever. A refusal
because of a running upgrade also tells about another request: this one has won the flag, and
nothing takes this back.
-/

namespace Brewmble.Answers

open Rest Daemon Execution UpgradeLock

/-- The single acceptance answer of `reboot_handler`. -/
def rebootTriggered : Response := .reboot .ok ⟨"reboot triggered"⟩

/-- The answers to requests for which nothing is started. -/
inductive Refusal (state : AppState) : Request → Response → Prop
  | unavailable (payload : UpgradeRequest) (missing : state.pmAvailable = false) :
      Refusal state (.fullUpgrade payload) (.upgrade .preconditionFailed ⟨state.notThisSystem, none⟩)
  | dryRun (result : Except String (List String)) :
      Refusal state (.fullUpgrade ⟨true⟩) (dryRunResponse result)
  | running : Refusal state (.fullUpgrade ⟨false⟩) (.upgrade .preconditionFailed ⟨upgradeRunningMessage, none⟩)
  | rebootUnavailable (payload : RebootRequest) (missing : state.pmAvailable = false) :
      Refusal state (.reboot payload) (.reboot .preconditionFailed ⟨state.notThisSystem⟩)
  | locked (payload : RebootRequest) :
      Refusal state (.reboot payload) (.reboot .locked ⟨upgradeRunningMessage⟩)
  | forbidden (payload : RebootRequest) (disabled : state.allowReboot = false) :
      Refusal state (.reboot payload) (.reboot .forbidden ⟨"reboot is not enabled on this daemon"⟩)

/-- The handlers before an answer, for which nothing has been started yet. -/
inductive Waiting : Request → Handler → Prop
  | upgradeReceived (payload : UpgradeRequest) : Waiting (.fullUpgrade payload) (.upgradeReceived payload)
  | dryRunning : Waiting (.fullUpgrade ⟨true⟩) .dryRunning
  | upgradeClaimed : Waiting (.fullUpgrade ⟨false⟩) .upgradeClaimed
  | rebootReceived (payload : RebootRequest) : Waiting (.reboot payload) (.rebootReceived payload)
  | rebootPassed (payload : RebootRequest) : Waiting (.reboot payload) (.rebootPassed payload.delaySecs)

/-- A reboot task and the commands that it has issued, the last one first. -/
inductive Issues : RebootTask → List RebootCommand → Prop
  | sleeping (seconds : Nat) : Issues (.sleeping seconds) []
  | ready : Issues (.issuing .systemctl) []
  | awaiting : Issues (.awaiting .systemctl) [.systemctl]
  | failed : Issues (.issuing .fallback) [.systemctl]
  | again : Issues (.awaiting .fallback) [.fallback, .systemctl]
  | succeeded : Issues .finished [.systemctl]
  | exhausted : Issues .finished [.fallback, .systemctl]

/-- The life of a request: its body, its handler, its tasks and its commands. -/
inductive Life (state : AppState) :
    Option Request → Handler → UpgradeTask → RebootTask → List RebootCommand → Prop
  | idle : Life state none .idle .absent .absent []
  | waiting {body : Request} {handler : Handler} (waits : Waiting body handler) :
      Life state (some body) handler .absent .absent []
  | refused {body : Request} {response : Response} (refusal : Refusal state body response) :
      Life state (some body) (.answered response) .absent .absent []
  | upgrading {handler : Handler} {task : UpgradeTask} (past : handler.pastSpawn = true)
      (present : task ≠ .absent) : Life state (some (.fullUpgrade ⟨false⟩)) handler task .absent []
  | rebooting {payload : RebootRequest} {handler : Handler} {task : RebootTask}
      {commands : List RebootCommand}
      (spawned : handler = .rebootSpawned ∨ handler = .answered rebootTriggered)
      (allowed : state.allowReboot = true) (issues : Issues task commands) :
      Life state (some (.reboot payload)) handler .absent task commands

/-- The reboot commands of one request, the last one first. -/
def commandsOf (daemon : State) (request : Nat) : List RebootCommand :=
  (daemon.issued.filter fun issued => issued.request = request).map (·.command)

/-- The life of the request as it is now. -/
def Lives (state : AppState) (daemon : State) (request : Nat) : Prop :=
  Life state (daemon.requests request) (daemon.handlers request) (daemon.upgrades request)
    (daemon.reboots request) (commandsOf daemon request)

theorem initial_lives (state : AppState) (request : Nat) : Lives state initial request := .idle

section Steps

variable {state : AppState} {daemon reached : State} {request : Nat} {body : Option Request}
  {handler : Handler} {upgrade : UpgradeTask} {reboot : RebootTask} {commands : List RebootCommand}

/-- A life with no answer and no task is that of a request that waits, or of none. -/
theorem life_waits (life : Life state body handler upgrade reboot commands)
    (unanswered : ∀ response, handler ≠ .answered response) (notPast : handler.pastSpawn = false)
    (notSpawned : handler ≠ .rebootSpawned) :
    upgrade = .absent ∧ reboot = .absent ∧ commands = [] ∧
      (body = none ∧ handler = .idle ∨ ∃ asked, body = some asked ∧ Waiting asked handler) := by
  cases life with
  | idle => exact ⟨rfl, rfl, rfl, .inl ⟨rfl, rfl⟩⟩
  | waiting waits => exact ⟨rfl, rfl, rfl, .inr ⟨_, rfl, waits⟩⟩
  | @refused _ response refusal => exact absurd rfl (unanswered response)
  | upgrading past present =>
    rw [notPast] at past
    cases past
  | rebooting spawned allowed issues =>
    obtain same | same := spawned
    · exact absurd same notSpawned
    · exact absurd same (unanswered _)

/-- An upgrade task is spawned for an accepted upgrade only. -/
theorem life_upgrades (life : Life state body handler upgrade reboot commands)
    (present : upgrade ≠ .absent) :
    body = some (.fullUpgrade ⟨false⟩) ∧ handler.pastSpawn = true ∧ reboot = .absent ∧ commands = [] := by
  cases life with
  | upgrading past present => exact ⟨rfl, past, rfl, rfl⟩
  | _ => exact absurd rfl present

theorem life_reboots (life : Life state body handler upgrade reboot commands)
    (present : reboot ≠ .absent) :
    (∃ payload, body = some (.reboot payload)) ∧
      (handler = .rebootSpawned ∨ handler = .answered rebootTriggered) ∧
      state.allowReboot = true ∧ upgrade = .absent ∧ Issues reboot commands := by
  cases life with
  | rebooting spawned allowed issues => exact ⟨⟨_, rfl⟩, spawned, allowed, rfl, issues⟩
  | _ => exact absurd rfl present

/-- Only the life of this request changes in a step. -/
structure Apart (request : Nat) (daemon reached : State) : Prop where
  requests : ∀ other, other ≠ request → reached.requests other = daemon.requests other
  handlers : ∀ other, other ≠ request → reached.handlers other = daemon.handlers other
  upgrades : ∀ other, other ≠ request → reached.upgrades other = daemon.upgrades other
  reboots : ∀ other, other ≠ request → reached.reboots other = daemon.reboots other
  commands : ∀ other, other ≠ request → commandsOf reached other = commandsOf daemon other

theorem lives_apart (apart : Apart request daemon reached) (own : Lives state reached request)
    (lives : ∀ other, Lives state daemon other) (other : Nat) : Lives state reached other := by
  by_cases same : other = request
  · exact same ▸ own
  · have before := lives other
    unfold Lives at before ⊢
    rwa [apart.requests other same, apart.handlers other same, apart.upgrades other same,
      apart.reboots other same, apart.commands other same]

/-- What an advancing handler does to the life of its request.

Proof: by where the handler stands, and by the tests of the source in their order. -/
theorem advance_lives (lives : Lives state daemon request)
    (step : advance state daemon request = some reached) :
    Apart request daemon reached ∧ Lives state reached request := by
  have apart (after : Handler) : Apart request daemon (daemon.setHandler request after) :=
    ⟨by simp, fun other distinct => by simp [distinct], by simp, by simp, fun _ _ => rfl⟩
  unfold Lives at lives
  generalize asked : daemon.requests request = body at lives
  generalize stands : daemon.handlers request = handler at lives
  generalize task : daemon.upgrades request = upgrade at lives
  generalize rebooting : daemon.reboots request = reboot at lives
  generalize given : commandsOf daemon request = commands at lives
  have moves (after : Handler) (life : Life state body after upgrade reboot commands) :
      Apart request daemon (daemon.setHandler request after) ∧
        Lives state (daemon.setHandler request after) request := by
    refine ⟨apart after, ?_⟩
    have whole : commandsOf (daemon.setHandler request after) request = commands := given
    unfold Lives
    simpa [asked, task, rebooting, whole] using life
  unfold advance at step
  rw [stands] at step
  cases lives with
  | idle => cases step
  | refused refusal => cases step
  | waiting waits =>
    cases waits with
    | dryRunning => cases step
    | upgradeReceived payload =>
      dsimp only at step
      split at step
      · next missing =>
        obtain rfl := Option.some.inj step
        exact moves _ (.refused (.unavailable payload (by simpa using missing)))
      · split at step
        · next dry =>
          obtain rfl := Option.some.inj step
          have plain : payload = ⟨true⟩ := by cases payload; simpa using dry
          exact moves _ (.waiting (plain ▸ .dryRunning))
        · next notDry =>
          have plain : payload = ⟨false⟩ := by cases payload; simpa using notDry
          subst plain
          split at step
          · obtain rfl := Option.some.inj step
            exact moves _ (.refused .running)
          · obtain rfl := Option.some.inj step
            have moved := moves _ (.waiting .upgradeClaimed)
            exact ⟨⟨moved.1.requests, moved.1.handlers, moved.1.upgrades, moved.1.reboots,
              moved.1.commands⟩, moved.2⟩
    | upgradeClaimed =>
      obtain rfl := Option.some.inj step
      refine ⟨⟨by simp, fun other distinct => by simp [distinct],
        fun other distinct => by simp [distinct], by simp, fun _ _ => rfl⟩, ?_⟩
      have whole : commandsOf ((daemon.setUpgrade request .ready).setHandler request .upgradeSpawned)
          request = [] := given
      have life : Life state (some (.fullUpgrade ⟨false⟩)) .upgradeSpawned .ready .absent [] :=
        .upgrading rfl (by simp)
      unfold Lives
      simpa [asked, rebooting, whole] using life
    | rebootReceived payload =>
      dsimp only at step
      split at step
      · next missing =>
        obtain rfl := Option.some.inj step
        exact moves _ (.refused (.rebootUnavailable payload (by simpa using missing)))
      · split at step
        · obtain rfl := Option.some.inj step
          exact moves _ (.refused (.locked payload))
        · obtain rfl := Option.some.inj step
          exact moves _ (.waiting (.rebootPassed payload))
    | rebootPassed payload =>
      dsimp only at step
      split at step
      · next disabled =>
        obtain rfl := Option.some.inj step
        exact moves _ (.refused (.forbidden payload (by simpa using disabled)))
      · next enabled =>
        obtain rfl := Option.some.inj step
        refine ⟨⟨by simp, fun other distinct => by simp [distinct], by simp,
          fun other distinct => by simp [distinct], fun _ _ => rfl⟩, ?_⟩
        have whole : commandsOf ((daemon.setReboot request (.start payload.delaySecs)).setHandler
            request .rebootSpawned) request = [] := given
        have issues : Issues (.start payload.delaySecs) [] := by
          cases payload.delaySecs with
          | none => exact .ready
          | some seconds => exact .sleeping seconds
        have life : Life state (some (.reboot payload)) .rebootSpawned .absent
            (.start payload.delaySecs) [] :=
          .rebooting (.inl rfl) (by simpa using enabled) issues
        unfold Lives
        simpa [asked, task, whole] using life
  | upgrading past present =>
    cases handler with
    | upgradeSpawned =>
      obtain rfl := Option.some.inj step
      have moved := moves .upgradeStored (.upgrading rfl present)
      exact ⟨⟨moved.1.requests, moved.1.handlers, moved.1.upgrades, moved.1.reboots,
        moved.1.commands⟩, moved.2⟩
    | upgradeStored =>
      obtain rfl := Option.some.inj step
      exact moves _ (.upgrading (by simp [Handler.pastSpawn]) present)
    | answered response => cases step
    | _ => cases past
  | rebooting spawned allowed issues =>
    obtain rfl | rfl := spawned
    · obtain rfl := Option.some.inj step
      exact moves _ (.rebooting (.inr rfl) allowed issues)
    · cases step

/-- A task in place of one that was there before goes on with the same life. -/
theorem lives_upgradeTask {moved : State} (lives : ∀ request, Lives state daemon request)
    (before : daemon.upgrades request ≠ .absent) (present : upgrade ≠ .absent)
    (requests : moved.requests = daemon.requests) (handlers : moved.handlers = daemon.handlers)
    (upgrades : moved.upgrades = Function.update daemon.upgrades request upgrade)
    (reboots : moved.reboots = daemon.reboots) (issued : moved.issued = daemon.issued) :
    ∀ other, Lives state moved other := by
  have commands (other : Nat) : commandsOf moved other = commandsOf daemon other := by
    rw [commandsOf, issued]
    rfl
  have apart : Apart request daemon moved :=
    ⟨by simp [requests], by simp [handlers], fun other distinct => by simp [upgrades, distinct],
      by simp [reboots], fun other _ => commands other⟩
  refine lives_apart apart ?_ lives
  obtain ⟨asked, past, rebooting, given⟩ := life_upgrades (lives request) before
  unfold Lives
  rw [requests, handlers, upgrades, reboots, commands, asked, rebooting, given, Function.update_self]
  exact .upgrading past present

theorem lives_rebootTask {moved : State} (lives : ∀ request, Lives state daemon request)
    (before : daemon.reboots request ≠ .absent)
    (issues : Issues (daemon.reboots request) (commandsOf daemon request) →
      Issues reboot (commandsOf moved request))
    (requests : moved.requests = daemon.requests) (handlers : moved.handlers = daemon.handlers)
    (upgrades : moved.upgrades = daemon.upgrades)
    (reboots : moved.reboots = Function.update daemon.reboots request reboot)
    (commands : ∀ other, other ≠ request → commandsOf moved other = commandsOf daemon other) :
    ∀ other, Lives state moved other := by
  have apart : Apart request daemon moved :=
    ⟨by simp [requests], by simp [handlers], by simp [upgrades],
      fun other distinct => by simp [reboots, distinct], commands⟩
  refine lives_apart apart ?_ lives
  obtain ⟨⟨payload, asked⟩, spawned, allowed, absent, issued⟩ := life_reboots (lives request) before
  unfold Lives
  rw [requests, handlers, upgrades, reboots, asked, absent, Function.update_self]
  exact .rebooting spawned allowed (issues issued)

theorem issues_elapsed {seconds : Nat} (issues : Issues (.sleeping seconds) commands) :
    Issues (.issuing .systemctl) commands := by
  cases issues
  exact .ready

theorem issues_issued {command : RebootCommand} (issues : Issues (.issuing command) commands) :
    Issues (.awaiting command) (command :: commands) := by
  cases issues with
  | ready => exact .awaiting
  | failed => exact .again

theorem issues_returned {command : RebootCommand} (issues : Issues (.awaiting command) commands)
    (result : CommandResult) : Issues (.afterCommand command result) commands := by
  cases issues with
  | awaiting => cases result with
    | success => exact .succeeded
    | failure status => exact .failed
    | error message => exact .failed
  | again => cases result with
    | success => exact .exhausted
    | failure status => exact .exhausted
    | error message => exact .exhausted

/-- Every step concerns the life of one request, which goes on.

Proof: by the event. Where it is about a task, the task is present, which fixes the rest of
the life. -/
theorem step_lives {event : Event} (lives : ∀ request, Lives state daemon request)
    (step : next state daemon event = some reached) (other : Nat) : Lives state reached other := by
  cases event with
  | received request body =>
    obtain ⟨fresh, step⟩ := Option.ite_none_right_eq_some.mp step
    obtain rfl := Option.some.inj step
    have apart : Apart request daemon { daemon.setHandler request (Handler.start body) with
        requests := Function.update daemon.requests request (some body) } :=
      ⟨fun other distinct => by simp [distinct], fun other distinct => by simp [distinct],
        by simp, by simp, fun _ _ => rfl⟩
    refine lives_apart apart ?_ lives other
    have life := lives request
    unfold Lives at life
    rw [fresh] at life
    obtain ⟨absent, none, given, _⟩ := life_waits life (by simp) rfl (by simp)
    have waits : Waiting body (Handler.start body) := by
      cases body with
      | fullUpgrade payload => exact .upgradeReceived payload
      | reboot payload => exact .rebootReceived payload
    change Life state (Function.update daemon.requests request (some body) request)
      (Function.update daemon.handlers request (Handler.start body) request) (daemon.upgrades request)
      (daemon.reboots request) (commandsOf daemon request)
    rw [Function.update_self, Function.update_self, absent, none, given]
    exact .waiting waits
  | advanced request =>
    obtain ⟨apart, own⟩ := advance_lives (lives request) step
    exact lives_apart apart own lives other
  | dryRunReturned request result =>
    obtain ⟨stands, step⟩ := Option.ite_none_right_eq_some.mp step
    obtain rfl := Option.some.inj step
    have apart : Apart request daemon (daemon.setHandler request (.answered (dryRunResponse result))) :=
      ⟨by simp, fun other distinct => by simp [distinct], by simp, by simp, fun _ _ => rfl⟩
    refine lives_apart apart ?_ lives other
    have life := lives request
    unfold Lives at life
    rw [stands] at life
    obtain ⟨absent, none, given, impossible | ⟨body, asked, waits⟩⟩ :=
      life_waits life (by simp) rfl (by simp)
    · cases impossible.2
    · cases waits with
      | dryRunning =>
        have whole : commandsOf (daemon.setHandler request (.answered (dryRunResponse result)))
            request = [] := given
        have life : Life state (some (.fullUpgrade ⟨true⟩)) (.answered (dryRunResponse result))
            .absent .absent [] := .refused (.dryRun result)
        unfold Lives
        simpa [asked, absent, none, whole] using life
  | upgradeStarted request =>
    obtain ⟨stands, step⟩ := Option.ite_none_right_eq_some.mp step
    obtain rfl := Option.some.inj step
    apply @lives_upgradeTask state daemon request .upgrading _ lives (by simp [stands]) (by simp) <;> rfl
  | upgradeReturned request outcome =>
    obtain ⟨stands, step⟩ := Option.ite_none_right_eq_some.mp step
    obtain rfl := Option.some.inj step
    apply @lives_upgradeTask state daemon request (.returned outcome) _ lives (by simp [stands]) (by simp) <;> rfl
  | guardDropped request =>
    simp only [next] at step
    split at step
    · next outcome stands =>
      obtain rfl := Option.some.inj step
      apply @lives_upgradeTask state daemon request (.ended outcome) _ lives (by simp [stands]) (by simp) <;> rfl
    · cases step
  | delayElapsed request =>
    simp only [next] at step
    split at step
    · next seconds stands =>
      obtain rfl := Option.some.inj step
      apply @lives_rebootTask state daemon request (.issuing .systemctl) _ lives (by simp [stands])
      · intro issues
        exact issues_elapsed (stands ▸ issues)
      all_goals intros; rfl
    · cases step
  | commandIssued request =>
    simp only [next] at step
    split at step
    · next command stands =>
      obtain rfl := Option.some.inj step
      apply @lives_rebootTask state daemon request (.awaiting command) _ lives (by simp [stands])
      · intro issues
        have given : Issues (.issuing command) (commandsOf daemon request) := stands ▸ issues
        simpa [commandsOf] using issues_issued given
      · rfl
      · rfl
      · rfl
      · rfl
      · intro other distinct
        simp [commandsOf, Ne.symm distinct]
    · cases step
  | commandReturned request result =>
    simp only [next] at step
    split at step
    · next command stands =>
      obtain rfl := Option.some.inj step
      apply @lives_rebootTask state daemon request (.afterCommand command result) _ lives
        (by simp [stands])
      · intro issues
        exact issues_returned (stands ▸ issues) result
      all_goals intros; rfl
    · cases step

end Steps

def rebootMessage : String := "reboot triggered"

/-- What the body of an answer says. -/
def message : Response → String
  | .upgrade _ body => body.message
  | .reboot _ body => body.message

section Texts

variable {state : AppState} {body : Request} {response : Response}

theorem append_first {text : String} {first : Char} (begins : text.toList.head? = some first)
    (rest : String) : (text ++ rest).toList.head? = some first := by
  rw [String.toList_append, List.head?_append, begins]
  rfl

/-- No name of a package manager makes the refusal another text, by the first letter. -/
theorem system_first (state : AppState) : state.notThisSystem.toList.head? = some 't' :=
  append_first (append_first (by decide) _) _

theorem dry_run_first (result : Except String (List String)) :
    (message (dryRunResponse result)).toList.head? = some 'd' := by
  cases result with
  | ok updates => exact (by decide : "dry-run completed".toList.head? = some 'd')
  | error err => exact append_first (by decide) err

/-- A refusal never reads like an acceptance. -/
theorem refusal_message (refusal : Refusal state body response) :
    message response ≠ triggeredMessage ∧ message response ≠ rebootMessage := by
  have differs {text other : String} {first : Char} (begins : text.toList.head? = some first)
      (not : other.toList.head? ≠ some first) : text ≠ other := by
    rintro rfl
    exact not begins
  cases refusal with
  | unavailable payload missing =>
    exact ⟨differs (system_first state) (by decide), differs (system_first state) (by decide)⟩
  | dryRun result =>
    exact ⟨differs (dry_run_first result) (by decide), differs (dry_run_first result) (by decide)⟩
  | running => exact ⟨by decide, by decide⟩
  | rebootUnavailable payload missing =>
    exact ⟨differs (system_first state) (by decide), differs (system_first state) (by decide)⟩
  | locked payload => exact ⟨by decide, by decide⟩
  | forbidden payload disabled => exact ⟨by decide, by decide⟩

/-- The refusal because of a running upgrade is given where the flag is loaded as set.

Proof: by the tests of the source. Every other answer has another text. -/
theorem advance_running {daemon reached : State} {request : Nat}
    (step : advance state daemon request = some reached)
    (answered : reached.handlers request = .answered response)
    (running : message response = upgradeRunningMessage) : daemon.isUpgrading = true := by
  have first : (message response).toList.head? = some 'a' := by rw [running]; decide
  have system : (AppState.notThisSystem state).toList.head? ≠ some 'a' := by
    rw [system_first]
    decide
  unfold advance at step
  split at step
  · next payload stands =>
    split at step
    · obtain rfl := Option.some.inj step
      obtain rfl : _ = response := by simpa using answered
      exact absurd first system
    · split at step
      · obtain rfl := Option.some.inj step
        simp at answered
      · split at step
        · next busy => exact busy
        · obtain rfl := Option.some.inj step
          simp at answered
  · obtain rfl := Option.some.inj step
    simp at answered
  · obtain rfl := Option.some.inj step
    simp at answered
  · obtain rfl := Option.some.inj step
    obtain rfl : triggered = response := by simpa using answered
    exact absurd running (by decide)
  · next payload stands =>
    split at step
    · obtain rfl := Option.some.inj step
      obtain rfl : _ = response := by simpa using answered
      exact absurd first system
    · split at step
      · next busy => exact busy
      · obtain rfl := Option.some.inj step
        simp at answered
  · next delay stands =>
    split at step
    · obtain rfl := Option.some.inj step
      obtain rfl : _ = response := by simpa using answered
      exact absurd running (by decide)
    · obtain rfl := Option.some.inj step
      simp at answered
  · obtain rfl := Option.some.inj step
    obtain rfl : _ = response := by simpa using answered
    exact absurd running (by decide)
  all_goals cases step

end Texts

section Refusals

variable {state : AppState} {daemon reached : State}

/-- The request has won the flag; its task is spawned or will be. -/
def Accepted (daemon : State) (request : Nat) : Prop :=
  daemon.handlers request = .upgradeClaimed ∨ (daemon.handlers request).pastSpawn = true

/-- Nothing takes an acceptance back. -/
theorem accepted_stays {event : Event} {request : Nat} (accepted : Accepted daemon request)
    (step : next state daemon event = some reached) : Accepted reached request := by
  have kept {moved : Nat} {after : Handler} {handlers : Nat → Handler}
      (same : handlers = Function.update daemon.handlers moved after)
      (own : Accepted daemon moved → after = .upgradeClaimed ∨ after.pastSpawn = true) :
      handlers request = .upgradeClaimed ∨ (handlers request).pastSpawn = true := by
    by_cases equal : request = moved
    · subst equal
      rw [same, Function.update_self]
      exact own accepted
    · rw [same, Function.update_of_ne equal]
      exact accepted
  cases step_of_next step with
  | arrived received body fresh =>
    exact kept rfl (by simp [Accepted, fresh, Handler.pastSpawn])
  | moved event handler stood after handled stands move =>
    refine kept rfl fun before => .inr ?_
    obtain claimed | past := before
    · exact absurd (stands.symm.trans claimed) move.not_claimed.1
    · rw [move.pastSpawn_eq, ← stands]
      exact past
  | claimed claiming payload stands available wet clear => exact kept rfl fun _ => .inl rfl
  | spawned spawning stands => exact kept rfl fun _ => .inr rfl
  | stored storing stands => exact kept rfl fun _ => .inr rfl
  | rebootSpawned spawning delay stands allowed =>
    exact kept rfl (by simp [Accepted, stands, Handler.pastSpawn])
  | _ => exact accepted

/-- Where the flag is set, a request that is not yet accepted is not the one that set it. -/
theorem running_other (tracked : Tracked state daemon) {owner : Option Nat}
    (lock : Represents daemon owner) (running : daemon.isUpgrading = true) :
    ∃ other, Accepted daemon other := by
  have held := lock.1.symm.trans running
  obtain ⟨other, rfl⟩ := Option.isSome_iff_exists.mp held
  obtain claimed | flying := (lock.2 other).mpr rfl
  · exact ⟨other, .inl claimed⟩
  · refine ⟨other, .inr ((tracked.spawned other).mp ?_)⟩
    intro absent
    rw [absent] at flying
    cases flying

/-- An answer is given by the step of its own handler, or by the end of its dry run. -/
theorem answered_by {event : Event} {request : Nat} {response : Response}
    (step : next state daemon event = some reached)
    (answered : reached.handlers request = .answered response)
    (before : daemon.handlers request ≠ .answered response) :
    event = .advanced request ∨ ∃ result, response = dryRunResponse result := by
  have moved {other : Nat} {after : Handler}
      (same : reached.handlers = Function.update daemon.handlers other after) :
      other = request ∧ after = .answered response := by
    by_cases equal : request = other
    · subst equal
      rw [same, Function.update_self] at answered
      exact ⟨rfl, answered⟩
    · rw [same, Function.update_of_ne equal] at answered
      exact absurd answered before
  cases step_of_next step with
  | arrived received body fresh =>
    obtain ⟨_, same⟩ := moved rfl
    cases body <;> cases same
  | moved event handler stood after handled stands move =>
    obtain ⟨rfl, rfl⟩ := moved rfl
    obtain rfl | ⟨result, rfl⟩ := handled
    · exact .inl rfl
    · obtain ⟨_, step⟩ := Option.ite_none_right_eq_some.mp step
      have same := congrArg (fun daemon => daemon.handlers handler) (Option.some.inj step)
      exact .inr ⟨result, by simpa using same.symm⟩
  | claimed claiming payload stands available wet clear => cases (moved rfl).2
  | spawned spawning stands => cases (moved rfl).2
  | stored storing stands => cases (moved rfl).2
  | rebootSpawned spawning delay stands allowed => cases (moved rfl).2
  | _ => exact absurd answered before

/-- An answered handler takes no step. -/
theorem answer_stays {event : Event} {request : Nat} {response : Response}
    (answered : daemon.handlers request = .answered response)
    (step : next state daemon event = some reached) : reached.handlers request = .answered response := by
  have kept {moved : Nat} {after : Handler} (not : ∀ response, daemon.handlers moved ≠ .answered response) :
      Function.update daemon.handlers moved after request = .answered response := by
    have distinct : request ≠ moved := by
      rintro rfl
      exact not response answered
    rw [Function.update_of_ne distinct]
    exact answered
  cases step_of_next step with
  | arrived received body fresh => exact kept (by simp [fresh])
  | moved event handler stood after handled stands move =>
    refine kept fun response same => ?_
    rw [stands] at same
    subst same
    cases move
  | claimed claiming payload stands available wet clear => exact kept (by simp [stands])
  | spawned spawning stands => exact kept (by simp [stands])
  | stored storing stands => exact kept (by simp [stands])
  | rebootSpawned spawning delay stands allowed => exact kept (by simp [stands])
  | _ => exact answered

/-- Where a running upgrade is given as the reason, a request has been accepted. -/
def Blames (daemon : State) : Prop :=
  ∀ request response, daemon.handlers request = .answered response →
    message response = upgradeRunningMessage → ∃ other, Accepted daemon other

theorem step_blames {event : Event} {owner : Option Nat} (tracked : Tracked state daemon)
    (lock : Represents daemon owner) (blames : Blames daemon)
    (step : next state daemon event = some reached) : Blames reached := by
  intro request response answered running
  suffices accepted : ∃ other, Accepted daemon other by
    obtain ⟨other, accepted⟩ := accepted
    exact ⟨other, accepted_stays accepted step⟩
  by_cases before : daemon.handlers request = .answered response
  · exact blames request response before running
  · obtain rfl | ⟨result, rfl⟩ := answered_by step answered before
    · exact running_other tracked lock (advance_running step answered running)
    · have first := dry_run_first result
      rw [running] at first
      exact absurd first (by decide)

/-- What an answer says about its request, by its text. -/
structure Tells (state : AppState) (daemon : State) (request : Nat) (response : Response) : Prop where
  upgrade : daemon.upgrades request ≠ .absent ↔ message response = triggeredMessage
  reboot : daemon.reboots request ≠ .absent ↔ message response = rebootMessage
  calls : daemon.fullUpgradeCalls.count request ≤ if message response = triggeredMessage then 1 else 0
  commands : commandsOf daemon request = [] ∨ message response = rebootMessage ∧
    (commandsOf daemon request = [.systemctl] ∨ commandsOf daemon request = [.fallback, .systemctl])
  upgradeAsked : message response = triggeredMessage →
    daemon.requests request = some (.fullUpgrade ⟨false⟩) ∧ state.pmAvailable = true
  rebootAsked : message response = rebootMessage →
    (∃ payload, daemon.requests request = some (.reboot payload)) ∧ state.allowReboot = true
  running : message response = upgradeRunningMessage → ∃ other, other ≠ request ∧
    daemon.requests other = some (.fullUpgrade ⟨false⟩) ∧ Accepted daemon other

theorem tells_of_lives {request : Nat} {response : Response} (tracked : Tracked state daemon)
    (lives : Lives state daemon request) (blames : Blames daemon)
    (answered : daemon.handlers request = .answered response) : Tells state daemon request response := by
  have counted := tracked.counted request
  have accepts (other : Nat) (accepted : Accepted daemon other) := tracked.accepted other accepted
  have other (running : message response = upgradeRunningMessage) : ∃ other, other ≠ request ∧
      daemon.requests other = some (.fullUpgrade ⟨false⟩) ∧ Accepted daemon other := by
    obtain ⟨other, accepted⟩ := blames request response answered running
    refine ⟨other, ?_, (accepts other accepted).1, accepted⟩
    rintro rfl
    rw [Accepted, answered] at accepted
    obtain impossible | past := accepted
    · cases impossible
    · obtain rfl : response = triggered := by simpa [Handler.pastSpawn] using past
      exact absurd running (by decide)
  unfold Lives at lives
  rw [answered] at lives
  generalize asked : daemon.requests request = body at lives
  generalize task : daemon.upgrades request = upgrade at lives
  generalize rebooting : daemon.reboots request = reboot at lives
  generalize given : commandsOf daemon request = commands at lives
  cases lives with
  | waiting waits => cases waits
  | refused refusal =>
    obtain ⟨notTriggered, notReboot⟩ := refusal_message refusal
    refine ⟨by simp [task, notTriggered], by simp [rebooting, notReboot], ?_, .inl given,
      fun triggered => absurd triggered notTriggered, fun triggered => absurd triggered notReboot, other⟩
    rw [counted, task]
    exact Nat.zero_le _
  | upgrading past present =>
    obtain rfl : response = triggered := by simpa [Handler.pastSpawn] using past
    have upgradeText : message triggered = triggeredMessage := rfl
    have rebootText : message triggered ≠ rebootMessage := by decide
    refine ⟨by simp [task, present, upgradeText], by simp [rebooting, rebootText], ?_, .inl given,
      fun _ => ⟨asked, ?_⟩, fun same => absurd same rebootText, other⟩
    · rw [counted, if_pos upgradeText]
      split <;> omega
    · exact (tracked.accepted request (.inr (by rw [answered]; exact past))).2
  | @rebooting payload _ _ _ spawned allowed issues =>
    obtain impossible | same := spawned
    · cases impossible
    · obtain rfl : response = rebootTriggered := Handler.answered.inj same
      have upgradeText : message rebootTriggered ≠ triggeredMessage := by decide
      have rebootText : message rebootTriggered = rebootMessage := rfl
      have present : reboot ≠ .absent := by
        rintro rfl
        cases issues
      refine ⟨by simp [task, upgradeText], by simp [rebooting, present, rebootText], ?_, ?_,
        fun same => absurd same upgradeText, fun _ => ⟨⟨payload, asked⟩, allowed⟩, other⟩
      · rw [counted, task]
        exact Nat.zero_le _
      · rw [given]
        cases issues <;> simp [rebootText]

theorem run_lives {events : List Event} (completed : run (next state) initial events = some daemon) :
    (∀ request, Lives state daemon request) ∧ Blames daemon := by
  have all := run_preserves (next state)
    (fun daemon => (∃ events, run (next state) initial events = some daemon) ∧
      (∀ request, Lives state daemon request) ∧ Blames daemon)
    (fun daemon event reached ⟨⟨events, before⟩, lives, blames⟩ step => by
      obtain ⟨_, owner, _, lock⟩ := run_represents before
      exact ⟨⟨events ++ [event], run_append _ before (run_one _ step)⟩, step_lives lives step,
        step_blames (run_tracked before) lock blames step⟩)
    ⟨⟨[], rfl⟩, initial_lives state, fun request response answered => by cases answered⟩ completed
  exact all.2

/-- In every run, the text of an answer tells what has come of the request. -/
theorem run_tells {events : List Event} (completed : run (next state) initial events = some daemon)
    {request : Nat} {response : Response} (answered : daemon.handlers request = .answered response) :
    Tells state daemon request response := by
  obtain ⟨lives, blames⟩ := run_lives completed
  exact tells_of_lives (run_tracked completed) (lives request) blames answered

end Refusals

/-- An answer is final, and what it tells holds for ever. Once a request has got an answer
in any run of the daemon, then in every state that is reached from there on it has this
answer, and by the text of it:

* an upgrade task exists exactly where the upgrade is said to be triggered, which is for a
  real upgrade, and it calls `full_upgrade` at most once;
* a reboot task exists exactly where the reboot is said to be triggered, on a daemon that
  allows it, and it gives the first command once and then the fallback at most once;
* a running upgrade is given as the reason only where another request has been accepted.

Proof: the life of a request is kept by all steps, and its answer fixes which one it is. -/
theorem answers_are_final (state : AppState) (events later : List Event) (before after : State)
    (reached : run (next state) initial events = some before)
    (continued : run (next state) before later = some after) (request : Nat) (response : Response)
    (answered : before.handlers request = .answered response) :
    after.handlers request = .answered response ∧ Tells state after request response := by
  have final : after.handlers request = .answered response :=
    run_preserves (next state) (fun daemon => daemon.handlers request = .answered response)
      (fun _ _ _ stands step => answer_stays stands step) answered continued
  exact ⟨final, run_tells (run_append (next state) reached continued) final⟩

/-- A first request is accepted, and a second one is refused because of it. -/
def refusedBeside : List Event :=
  [.received 0 (.fullUpgrade ⟨false⟩), .received 1 (.fullUpgrade ⟨false⟩), .advanced 0, .advanced 1]

/-- The refusal tells about the first request, also after this one's upgrade has ended. -/
theorem refusal_tells :
    ∃ before after, run (next permissive) initial refusedBeside = some before ∧
      run (next permissive) before [.advanced 0, .upgradeStarted 0, .upgradeReturned 0 .panic,
        .guardDropped 0, .advanced 0] = some after ∧
      ∃ other, other ≠ 1 ∧ after.requests other = some (.fullUpgrade ⟨false⟩) ∧ Accepted after other :=
  ⟨_, _, rfl, rfl, (answers_are_final permissive refusedBeside [.advanced 0, .upgradeStarted 0,
    .upgradeReturned 0 .panic, .guardDropped 0, .advanced 0] _ _ rfl rfl 1 _ rfl).2.running rfl⟩

end Brewmble.Answers
