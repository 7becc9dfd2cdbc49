import Brewmble.UpgradeLock

/-!
# Reboot commands beside a running upgrade

A reboot request loads the upgrading flag once, before its task is spawned. The
task issues its commands later: after the requested delay, and a second time
when the first command fails. Nothing tests the flag again, and nothing stops an
upgrade request from winning it in between.

The exact condition concerns the compare-exchange of upgrade requests: it must
not succeed while a permitted reboot has a command ahead of it. Executions that
respect it issue every reboot command with the flag clear. Any claim that breaks
it can be followed, without a further request, to a command issued under a set
flag.
-/

namespace Brewmble.RebootExclusion

open Rest Daemon Execution UpgradeLock

/-- Every reboot command so far was issued while no upgrade held the flag. -/
def Excluded (daemon : State) : Prop :=
  ∀ command ∈ daemon.issued, command.whileUpgrading = false

/-- A reboot task that will issue a command, or may issue the fallback. -/
def commandAhead : RebootTask → Bool
  | .sleeping _ | .issuing _ | .awaiting .systemctl => true
  | .absent | .awaiting .fallback | .finished => false

/-- The request has passed the flag test on a daemon that permits reboots, and a
command of it is still ahead. -/
def RebootPending (state : AppState) (daemon : State) (request : Nat) : Prop :=
  (state.allowReboot = true ∧ ∃ delay, daemon.handlers request = .rebootPassed delay) ∨
    commandAhead (daemon.reboots request) = true

/-- The compare-exchange of this request's handler would succeed. -/
def Claims (state : AppState) (daemon : State) (request : Nat) : Prop :=
  state.pmAvailable = true ∧ daemon.isUpgrading = false ∧
    daemon.handlers request = .upgradeReceived ⟨false⟩

/-- The event is no successful compare-exchange beside a pending reboot. -/
def ClaimsApart (state : AppState) (daemon : State) (event : Event) : Prop :=
  ∀ request ∈ event.advancing, Claims state daemon request →
    ∀ other, ¬ RebootPending state daemon other

/-- Past commands were issued with the flag clear, and it is clear as long as
another command is ahead. -/
structure Separate (state : AppState) (daemon : State) : Prop where
  excluded : Excluded daemon
  clear : ∀ request, RebootPending state daemon request → daemon.isUpgrading = false

theorem initial_separate (state : AppState) : Separate state initial where
  excluded := by simp [Excluded, initial]
  clear := by simp [RebootPending, initial, commandAhead]

/-- Moving a handler keeps the separation when the move can only make a request
pending under a clear flag. -/
theorem separate_setHandler {state : AppState} {daemon : State} {request : Nat} {after : Handler}
    (separate : Separate state daemon)
    (passes : ∀ delay, after = .rebootPassed delay → daemon.isUpgrading = false) :
    Separate state (daemon.setHandler request after) where
  excluded := separate.excluded
  clear := by
    intro other pending
    by_cases same : other = request
    · subst same
      obtain ⟨_, delay, stands⟩ | ahead := pending
      · exact passes delay (by simpa using stands)
      · exact separate.clear other (.inr ahead)
    · exact separate.clear other (by simpa [RebootPending, same] using pending)

/-- Replacing a reboot task keeps the separation when a command was ahead of that
request before, wherever one is ahead of it afterwards. -/
theorem separate_setReboot {state : AppState} {daemon : State} {request : Nat} {task : RebootTask}
    (separate : Separate state daemon)
    (was : commandAhead task = true → RebootPending state daemon request) :
    Separate state (daemon.setReboot request task) where
  excluded := separate.excluded
  clear := by
    intro other pending
    by_cases same : other = request
    · subst same
      obtain passed | ahead := pending
      · exact separate.clear other (.inl passed)
      · exact separate.clear other (was (by simpa using ahead))
    · exact separate.clear other (by simpa [RebootPending, same] using pending)

/-- After either command a further one is ahead only if the first was awaited. -/
theorem afterCommand_ahead (command : RebootCommand) (result : CommandResult)
    (ahead : commandAhead (.afterCommand command result) = true) :
    commandAhead (.awaiting command) = true := by
  cases command with
  | systemctl => rfl
  | fallback => cases result <;> cases ahead

/-- A step that respects the condition keeps the separation. The claim uses the
condition; a reboot passes only under a clear flag; a command is issued only by
a pending reboot. -/
theorem step_separate {state : AppState} {daemon reached : State} {event : Event}
    (separate : Separate state daemon) (apart : ClaimsApart state daemon event)
    (step : Step state daemon event reached) : Separate state reached := by
  cases step with
  | arrived request body fresh =>
    have moved : Separate state (daemon.setHandler request (Handler.start body)) := by
      apply separate_setHandler separate
      intro delay same
      cases body <;> cases same
    exact ⟨moved.excluded, moved.clear⟩
  | moved event request before after handled stands move =>
    exact separate_setHandler separate move.passed_clear
  | claimed request payload stands available wet clear =>
    refine ⟨separate.excluded, ?_⟩
    intro other pending
    have plain : payload = ⟨false⟩ := by
      cases payload
      simpa using wet
    have claims : Claims state daemon request := ⟨available, clear, plain ▸ stands⟩
    have notPending : ¬ RebootPending state daemon other := apart request rfl claims other
    have before : RebootPending state daemon other := by
      by_cases same : other = request
      · subst same
        exact .inr (by simpa [RebootPending] using pending)
      · simpa [RebootPending, same] using pending
    exact absurd before notPending
  | spawned request stands =>
    have moved : Separate state (daemon.setHandler request .upgradeSpawned) := by
      apply separate_setHandler separate
      simp
    exact ⟨moved.excluded, moved.clear⟩
  | stored request stands =>
    have moved : Separate state (daemon.setHandler request .upgradeStored) := by
      apply separate_setHandler separate
      simp
    exact ⟨moved.excluded, moved.clear⟩
  | rebootSpawned request delay stands allowed =>
    have pending : RebootPending state daemon request := .inl ⟨allowed, delay, stands⟩
    apply separate_setHandler (separate_setReboot separate fun _ => pending)
    simp
  | started request stands => exact ⟨separate.excluded, separate.clear⟩
  | returned request outcome stands => exact ⟨separate.excluded, separate.clear⟩
  | dropped request outcome stands => exact ⟨separate.excluded, fun _ _ => rfl⟩
  | elapsed request seconds stands =>
    apply separate_setReboot separate
    intro ahead
    exact .inr (by rw [stands]; rfl)
  | issued request command stands =>
    have pending : RebootPending state daemon request := .inr (by rw [stands]; rfl)
    have clear : daemon.isUpgrading = false := separate.clear request pending
    have moved := separate_setReboot separate fun _ : commandAhead (.awaiting command) = true => pending
    refine ⟨?_, moved.clear⟩
    intro command member
    obtain rfl | earlier := List.mem_cons.mp member
    · exact clear
    · exact separate.excluded command earlier
  | completed request command result stands =>
    apply separate_setReboot separate
    intro ahead
    exact .inr (by rw [stands]; exact afterCommand_ahead command result ahead)

/-- A command issued under a set flag ends the exclusion. -/
theorem issuing_violates (state : AppState) {daemon : State} {request : Nat}
    {command : RebootCommand} (upgrading : daemon.isUpgrading = true)
    (stands : daemon.reboots request = .issuing command) :
    ∃ events settled, run (next state) daemon events = some settled ∧ ¬ Excluded settled := by
  have step : next state daemon (.commandIssued request) =
      some { daemon.setReboot request (.awaiting command) with
        issued := ⟨request, command, daemon.isUpgrading⟩ :: daemon.issued } := by
    simp only [next, stands]
  refine ⟨[.commandIssued request], _, run_one _ step, ?_⟩
  intro excluded
  have cleared : daemon.isUpgrading = false :=
    excluded ⟨request, command, daemon.isUpgrading⟩ List.mem_cons_self
  rw [upgrading] at cleared
  cases cleared

/-- Under a set flag, every task with a command ahead can go on to issue it. -/
theorem ahead_violates (state : AppState) {daemon : State} {request : Nat}
    (upgrading : daemon.isUpgrading = true)
    (ahead : commandAhead (daemon.reboots request) = true) :
    ∃ events settled, run (next state) daemon events = some settled ∧ ¬ Excluded settled := by
  have onward (event : Event) (command : RebootCommand)
      (step : next state daemon event = some (daemon.setReboot request (.issuing command))) :
      ∃ events settled, run (next state) daemon events = some settled ∧ ¬ Excluded settled := by
    have stands : (daemon.setReboot request (.issuing command)).reboots request =
        .issuing command := by simp
    have flag : (daemon.setReboot request (.issuing command)).isUpgrading = true := upgrading
    obtain ⟨events, settled, completed, violated⟩ := issuing_violates state flag stands
    exact ⟨event :: events, settled, run_append _ (run_one _ step) completed, violated⟩
  cases stands : daemon.reboots request with
  | absent => simp [stands, commandAhead] at ahead
  | sleeping seconds =>
    exact onward (.delayElapsed request) .systemctl (by simp only [next, stands])
  | issuing command => exact issuing_violates state upgrading stands
  | awaiting command =>
    cases command with
    | systemctl =>
      exact onward (.commandReturned request (.failure "exit status: 1")) .fallback
        (by simp only [next, stands, RebootTask.afterCommand])
    | fallback => simp [stands, commandAhead] at ahead
  | finished => simp [stands, commandAhead] at ahead

/-- Under a set flag, a pending reboot can go on to issue a command. A handler
that has passed the flag test first spawns its task. -/
theorem pending_violates (state : AppState) {daemon : State} {request : Nat}
    (upgrading : daemon.isUpgrading = true) (pending : RebootPending state daemon request) :
    ∃ events settled, run (next state) daemon events = some settled ∧ ¬ Excluded settled := by
  obtain ⟨allowed, delay, stands⟩ | ahead := pending
  · have step : next state daemon (.advanced request) =
        some ((daemon.setReboot request (.start delay)).setHandler request .rebootSpawned) := by
      simp [next, advance, stands, allowed]
    have started : commandAhead (.start delay) = true := by
      cases delay <;> rfl
    obtain ⟨spawned, spawn⟩ : ∃ spawned, spawned =
        (daemon.setReboot request (.start delay)).setHandler request .rebootSpawned := ⟨_, rfl⟩
    have flag : spawned.isUpgrading = true := by rw [spawn]; exact upgrading
    have ahead : commandAhead (spawned.reboots request) = true := by simpa [spawn] using started
    obtain ⟨events, settled, completed, violated⟩ := ahead_violates state flag ahead
    exact ⟨_, settled, run_append _ (run_one _ (spawn ▸ step)) completed, violated⟩
  · exact ahead_violates state upgrading ahead

/-- The condition under which no reboot command is issued during an upgrade.

First, in every execution whose upgrade requests win the flag only while no
reboot is pending, every reboot command was issued with the flag clear. Second,
the condition cannot be relaxed: in any state, a claim that breaks it leads on
to a reboot command issued under a set flag.

Proof: the first part carries the separation along the guarded execution. For
the second, the claim sets the flag and leaves the other request pending, which
spawns, sleeps out its delay and issues, or falls back and issues. -/
theorem reboot_excludes_upgrade (state : AppState) :
    (∀ events daemon, run (next state) initial events = some daemon →
      Guarded (next state) (ClaimsApart state) initial events → Excluded daemon) ∧
    (∀ daemon event reached, ¬ ClaimsApart state daemon event →
      next state daemon event = some reached →
      ∃ later settled, run (next state) reached later = some settled ∧ ¬ Excluded settled) := by
  constructor
  · intro events daemon completed guarded
    have separate : Separate state daemon :=
      guarded_preserves (next state) (ClaimsApart state) (fun _ => True) (Separate state)
        (fun _ _ _ _ _ => trivial)
        (fun _ _ _ _ separate apart step => step_separate separate apart (step_of_next step))
        trivial (initial_separate state) guarded completed
    exact separate.excluded
  · intro daemon event reached breaks step
    simp only [ClaimsApart, not_forall, not_not] at breaks
    obtain ⟨request, advances, ⟨available, clear, stands⟩, other, pending⟩ := breaks
    obtain rfl : event = .advanced request := eq_advanced advances
    have after : reached =
        { daemon.setHandler request .upgradeClaimed with isUpgrading := true } := by
      simpa [next, advance, stands, available, clear] using step.symm
    subst after
    suffices still : RebootPending state
        { daemon.setHandler request .upgradeClaimed with isUpgrading := true } other from
      pending_violates state rfl still
    obtain ⟨allowed, delay, passed⟩ | ahead := pending
    · have distinct : other ≠ request := by
        intro same
        rw [same, stands] at passed
        cases passed
      exact .inl ⟨allowed, delay, by simpa [distinct] using passed⟩
    · exact .inr ahead

/-- A delayed reboot passes the flag test, then an upgrade is accepted and starts,
then the delay elapses and the command is issued. -/
def delayedReboot : List Event :=
  [.received 0 (.reboot ⟨some 60⟩), .advanced 0, .advanced 0, .advanced 0,
    .received 1 (.fullUpgrade ⟨false⟩), .advanced 1, .advanced 1, .advanced 1, .advanced 1,
    .upgradeStarted 1, .delayElapsed 0, .commandIssued 0]

/-- The delayed reboot issues its command while the upgrade is running. -/
theorem delayed_reboot_interrupts :
    ¬ ∀ state events daemon, run (next state) initial events = some daemon → Excluded daemon := by
  intro claimed
  have excluded := claimed permissive delayedReboot _ rfl
  exact absurd (excluded ⟨0, .systemctl, true⟩ List.mem_cons_self) (by decide)

/-- The event is no successful compare-exchange at all. -/
def NoClaim (state : AppState) (daemon : State) (event : Event) : Prop :=
  ∀ request ∈ event.advancing, ¬ Claims state daemon request

instance (state : AppState) (daemon : State) (request : Nat) :
    Decidable (Claims state daemon request) :=
  inferInstanceAs (Decidable (_ ∧ _ ∧ _))

instance (state : AppState) (daemon : State) (event : Event) :
    Decidable (NoClaim state daemon event) :=
  inferInstanceAs (Decidable (∀ request ∈ event.advancing, _))

/-- Both commands of a reboot fail; then an upgrade request arrives. -/
def failedReboot : List Event :=
  [.received 0 (.reboot ⟨some 60⟩), .advanced 0, .advanced 0, .advanced 0, .delayElapsed 0,
    .commandIssued 0, .commandReturned 0 (.failure "exit status: 1"), .commandIssued 0,
    .commandReturned 0 (.error "not found"), .received 1 (.fullUpgrade ⟨false⟩)]

/-- The upgrade request claims the flag, spawns and starts its task. -/
def upgradeAfterwards : List Event := [.advanced 1, .advanced 1, .upgradeStarted 1]

/-- By the one claim of this execution the reboot task has finished. -/
theorem failed_reboot_guarded :
    Guarded (next permissive) (ClaimsApart permissive) initial
      (failedReboot ++ upgradeAfterwards) := by
  have unclaimed (daemon : State) (event : Event) (none : NoClaim permissive daemon event) :
      ClaimsApart permissive daemon event :=
    fun request advances claims => absurd claims (none request advances)
  have before : Guarded (next permissive) (ClaimsApart permissive) initial failedReboot :=
    guarded_weaken (next permissive) unclaimed (by decide)
  apply guarded_append (next permissive) (ClaimsApart permissive) before rfl
  constructor
  · rintro request advances claims other (⟨_, delay, passed⟩ | ahead)
    · by_cases second : other = 1
      · subst second
        cases passed
      · by_cases first : other = 0
        · subst first
          cases passed
        · simp [initial, first, second] at passed
    · by_cases first : other = 0
      · subst first
        cases ahead
      · simp [initial, first, commandAhead] at ahead
  · intro reached step
    obtain rfl := Option.some.inj step
    exact guarded_weaken (next permissive) unclaimed (by decide)

/-- Both commands of the failed reboot were issued before the upgrade began. -/
theorem failed_reboot_excluded :
    ∃ daemon, run (next permissive) initial (failedReboot ++ upgradeAfterwards) = some daemon ∧
      daemon.issued.length = 2 ∧ Excluded daemon :=
  ⟨_, rfl, rfl, (reboot_excludes_upgrade permissive).1 _ _ rfl failed_reboot_guarded⟩

end Brewmble.RebootExclusion
