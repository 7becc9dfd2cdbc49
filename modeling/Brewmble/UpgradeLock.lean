import Brewmble.DaemonSteps

/-!
# The upgrading flag is a lock with one owner

The abstract lock is free or owned by one request; only a free lock is acquired
and only its owner releases it. The daemon refines it: the flag is set exactly
while the lock is owned, and the owner is the one request that has won the
compare-exchange and whose task has not dropped its guard. Between the two the
owner may be a handler that has not spawned its task yet, a task that has not
created its guard yet, or a task that has already returned.

The refinement covers every interleaving of handlers and tasks and every way a
task ends. It needs no fairness: that a held lock can be released is stated as
an execution that releases it, not as a promise that the scheduler takes it.
-/

namespace Brewmble.UpgradeLock

open Rest Daemon Execution

/-- What may be done to the abstract lock. -/
inductive Action where
  | acquire (owner : Nat)
  | release (owner : Nat)
  deriving DecidableEq, Repr

/-- The abstract lock: its owner, if any. -/
def perform : Option Nat → Action → Option (Option Nat)
  | none, .acquire owner => some (some owner)
  | some owner, .release released => if owner = released then some none else none
  | _, _ => none

/-- The request has won the compare-exchange and its guard is not dropped. -/
def Holds (daemon : State) (request : Nat) : Prop :=
  daemon.handlers request = .upgradeClaimed ∨ (daemon.upgrades request).inFlight = true

/-- The daemon represents a lock with this owner. -/
def Represents (daemon : State) (owner : Option Nat) : Prop :=
  daemon.isUpgrading = owner.isSome ∧ ∀ request, Holds daemon request ↔ owner = some request

theorem initial_free : Represents initial none := by
  refine ⟨rfl, ?_⟩
  intro request
  simp [Holds, initial, UpgradeTask.inFlight]

/-- Two owners of one lock are the same request. -/
theorem holder_unique {daemon : State} {owner : Option Nat} (lock : Represents daemon owner)
    {first second : Nat} (left : Holds daemon first) (right : Holds daemon second) :
    first = second := by
  have owned : owner = some first := (lock.2 first).mp left
  have alsoOwned : owner = some second := (lock.2 second).mp right
  exact Option.some.inj (owned.symm.trans alsoOwned)

/-- A step that keeps the flag and every request's hold keeps the owner. -/
theorem represents_of_same {daemon reached : State} {owner : Option Nat}
    (lock : Represents daemon owner) (flag : reached.isUpgrading = daemon.isUpgrading)
    (same : ∀ request, Holds reached request ↔ Holds daemon request) :
    Represents reached owner :=
  ⟨flag.trans lock.1, fun request => (same request).trans (lock.2 request)⟩

/-- Moving a handler outside the claimed state leaves every hold as it was. -/
theorem holds_setHandler (daemon : State) (request : Nat) (after : Handler)
    (was : daemon.handlers request ≠ .upgradeClaimed) (becomes : after ≠ .upgradeClaimed)
    (other : Nat) : Holds (daemon.setHandler request after) other ↔ Holds daemon other := by
  by_cases same : other = request
  · subst same
    simp [Holds, was, becomes]
  · simp [Holds, same]

/-- Replacing a task by one that is as much in flight leaves every hold as it was. -/
theorem holds_setUpgrade (daemon : State) (request : Nat) (task : UpgradeTask)
    (sameFlight : task.inFlight = (daemon.upgrades request).inFlight) (other : Nat) :
    Holds (daemon.setUpgrade request task) other ↔ Holds daemon other := by
  by_cases same : other = request
  · subst same
    simp [Holds, sameFlight]
  · simp [Holds, same]

/-- Spawning hands the claim over to the task. -/
theorem holds_spawn {daemon : State} {request : Nat}
    (stands : daemon.handlers request = .upgradeClaimed) (other : Nat) :
    Holds ((daemon.setUpgrade request .ready).setHandler request .upgradeSpawned) other ↔
      Holds daemon other := by
  by_cases same : other = request
  · subst same
    simp [Holds, stands, UpgradeTask.inFlight]
  · simp [Holds, same]

/-- Winning the compare-exchange acquires the free lock. -/
theorem claim_acquires {daemon : State} {owner : Option Nat} (request : Nat)
    (lock : Represents daemon owner) (clear : daemon.isUpgrading = false) :
    owner = none ∧ Represents
      { daemon.setHandler request .upgradeClaimed with isUpgrading := true } (some request) := by
  have free : owner = none := by
    have flag : owner.isSome = false := lock.1.symm.trans clear
    simpa using flag
  subst free
  refine ⟨rfl, rfl, ?_⟩
  intro other
  have none_holds : ¬ Holds daemon other := fun holds => by
    simpa using (lock.2 other).mp holds
  by_cases same : other = request
  · subst same
    simp [Holds]
  · have distinct : request ≠ other := fun equal => same equal.symm
    simpa [Holds, same, distinct] using none_holds

/-- Dropping the guard releases the lock that its task held. -/
theorem drop_releases {state : AppState} {daemon : State} {owner : Option Nat} {request : Nat}
    {outcome : Outcome} (tracked : Tracked state daemon) (lock : Represents daemon owner)
    (stands : daemon.upgrades request = .returned outcome) :
    owner = some request ∧ Represents
      { daemon.setUpgrade request (.ended outcome) with isUpgrading := false } none := by
  have held : Holds daemon request := .inr (by rw [stands]; rfl)
  have owned : owner = some request := (lock.2 request).mp held
  refine ⟨owned, rfl, ?_⟩
  intro other
  by_cases same : other = request
  · subst same
    have past : (daemon.handlers other).pastSpawn = true :=
      (tracked.spawned other).mp (by simp [stands])
    have notClaimed : daemon.handlers other ≠ .upgradeClaimed := by
      intro claimed
      rw [claimed] at past
      cases past
    simp [Holds, notClaimed, UpgradeTask.inFlight]
  · have notHeld : ¬ Holds daemon other := fun holds =>
      same (holder_unique lock holds held)
    simpa [Holds, same] using notHeld

/-- One step of the daemon is one action on the lock, or none. Only the claim and
the drop act; all other steps keep the flag and every hold. -/
theorem step_represents {state : AppState} {daemon reached : State} {event : Event}
    {owner : Option Nat} (tracked : Tracked state daemon) (lock : Represents daemon owner)
    (step : Step state daemon event reached) :
    ∃ actions result, run perform owner actions = some result ∧ Represents reached result := by
  have idle (kept : Represents reached owner) :
      ∃ actions result, run perform owner actions = some result ∧ Represents reached result :=
    ⟨[], owner, rfl, kept⟩
  cases step with
  | arrived request body fresh =>
    exact idle (represents_of_same lock rfl
      (holds_setHandler daemon request _ (by simp [fresh]) (start_not_claimed body)))
  | moved event request before after handled stands move =>
    exact idle (represents_of_same lock rfl
      (holds_setHandler daemon request _ (by rw [stands]; exact move.not_claimed.1) move.not_claimed.2))
  | claimed request payload stands available wet clear =>
    obtain ⟨rfl, acquired⟩ := claim_acquires request lock clear
    exact ⟨[.acquire request], some request, rfl, acquired⟩
  | spawned request stands =>
    exact idle (represents_of_same lock rfl (holds_spawn stands))
  | stored request stands =>
    exact idle (represents_of_same lock rfl (holds_setHandler daemon request _ (by simp [stands]) (by simp)))
  | rebootSpawned request delay stands allowed =>
    exact idle (represents_of_same lock rfl (holds_setHandler daemon request _ (by simp [stands]) (by simp)))
  | started request stands =>
    exact idle (represents_of_same lock rfl
      (holds_setUpgrade daemon request .upgrading (by rw [stands]; rfl)))
  | returned request outcome stands =>
    exact idle (represents_of_same lock rfl
      (holds_setUpgrade daemon request (.returned outcome) (by rw [stands]; rfl)))
  | dropped request outcome stands =>
    obtain ⟨rfl, released⟩ := drop_releases tracked lock stands
    exact ⟨[.release request], none, by simp [run, perform], released⟩
  | elapsed request seconds stands => exact idle lock
  | issued request command stands => exact idle lock
  | completed request command result stands => exact idle lock

/-- Every execution of the daemon is an execution of the lock. The lifecycle
invariant supplies, at each drop, that the handler is past its claim. -/
theorem run_represents {state : AppState} {events : List Event} {daemon : State}
    (reached : run (next state) initial events = some daemon) :
    ∃ actions owner, run perform none actions = some owner ∧ Represents daemon owner := by
  obtain ⟨actions, owner, performed, _, lock⟩ := run_simulated (next state) perform
    (fun reached owner => Tracked state reached ∧ Represents reached owner)
    (fun _ _ _ _ related step =>
      have listed := step_of_next step
      have ⟨actions, result, performed, lock⟩ := step_represents related.1 related.2 listed
      ⟨actions, result, performed, step_tracked related.1 listed, lock⟩)
    ⟨initial_tracked state, initial_free⟩ reached
  exact ⟨actions, owner, performed, lock⟩

/-- The calls of `full_upgrade` against the answers given. A request calls at
most once. A request that was answered otherwise than by the acceptance, or that
asked for anything but a real upgrade, never calls. An accepted request has
called exactly once, or its task is still waiting to be polled. -/
structure CallsMatchAnswers (daemon : State) : Prop where
  once : ∀ request, daemon.fullUpgradeCalls.count request ≤ 1
  rejected : ∀ request response, daemon.handlers request = .answered response →
    response ≠ triggered → request ∉ daemon.fullUpgradeCalls
  otherwise : ∀ request, daemon.requests request ≠ some (.fullUpgrade ⟨false⟩) →
    request ∉ daemon.fullUpgradeCalls
  accepted : ∀ request, daemon.handlers request = .answered triggered →
    daemon.fullUpgradeCalls.count request = 1 ∨ daemon.upgrades request = .ready

theorem calls_match_answers {state : AppState} {daemon : State}
    (tracked : Tracked state daemon) : CallsMatchAnswers daemon := by
  have past (request : Nat) (member : request ∈ daemon.fullUpgradeCalls) :
      (daemon.handlers request).pastSpawn = true := by
    have positive : 0 < daemon.fullUpgradeCalls.count request := List.count_pos_iff.mpr member
    have counted := tracked.counted request
    apply (tracked.spawned request).mp
    intro absent
    rw [absent] at counted
    simp only [UpgradeTask.called, Bool.false_eq_true, if_false] at counted
    omega
  refine ⟨?_, ?_, ?_, ?_⟩
  · intro request
    rw [tracked.counted request]
    split <;> omega
  · intro request response answered refused member
    have side := past request member
    rw [answered] at side
    exact refused (by simpa [Handler.pastSpawn] using side)
  · intro request notAsked member
    exact notAsked (tracked.accepted request (.inr (past request member))).1
  · intro request answered
    have present : daemon.upgrades request ≠ .absent :=
      (tracked.spawned request).mpr (by simp [answered, Handler.pastSpawn])
    have counted := tracked.counted request
    cases task : daemon.upgrades request with
    | absent => exact absurd task present
    | ready => exact .inr rfl
    | upgrading => exact .inl (by simpa [task, UpgradeTask.called] using counted)
    | returned outcome => exact .inl (by simpa [task, UpgradeTask.called] using counted)
    | ended outcome => exact .inl (by simpa [task, UpgradeTask.called] using counted)

/-- A task that waits to be polled makes its one call as soon as it is. -/
theorem ready_task_calls {state : AppState} {daemon : State} {request : Nat}
    (tracked : Tracked state daemon) (stands : daemon.upgrades request = .ready) :
    ∃ started, next state daemon (.upgradeStarted request) = some started ∧
      started.fullUpgradeCalls.count request = 1 := by
  have counted := tracked.counted request
  simpa [next, stands, UpgradeTask.called] using counted

/-- A fresh request for a real upgrade is accepted while the flag is clear. -/
theorem clear_flag_accepts {state : AppState} {daemon : State} (fresh : Nat)
    (available : state.pmAvailable = true) (clear : daemon.isUpgrading = false)
    (idle : daemon.handlers fresh = .idle) :
    ∃ accepted, run (next state) daemon
        [.received fresh (.fullUpgrade ⟨false⟩), .advanced fresh, .advanced fresh,
          .advanced fresh, .advanced fresh] = some accepted ∧
      accepted.handlers fresh = .answered triggered ∧ accepted.upgrades fresh = .ready := by
  simp [run, next, advance, idle, available, clear, Handler.start]

/-- A task in flight can always be run to its end, which clears the flag. -/
theorem flight_can_end {state : AppState} {daemon : State} {request : Nat}
    (flying : (daemon.upgrades request).inFlight = true) :
    ∃ events ended outcome, run (next state) daemon events = some ended ∧
      ended.upgrades request = .ended outcome ∧ ended.isUpgrading = false := by
  cases stands : daemon.upgrades request with
  | absent => simp [stands, UpgradeTask.inFlight] at flying
  | ready =>
    refine ⟨[.upgradeStarted request, .upgradeReturned request .ok, .guardDropped request], ?_⟩
    simp [run, next, stands]
  | upgrading =>
    refine ⟨[.upgradeReturned request .ok, .guardDropped request], ?_⟩
    simp [run, next, stands]
  | returned outcome =>
    refine ⟨[.guardDropped request], ?_⟩
    simp [run, next, stands]
  | ended outcome => simp [stands, UpgradeTask.inFlight] at flying

/-- Upgrade mutual exclusion without wedging. In every state that any
interleaving of requests, handlers and tasks reaches:

* at most one upgrade task is in flight;
* the flag is set exactly while some request has won the compare-exchange and
  its task has not ended, and that request is unique;
* calls of `full_upgrade` correspond to acceptances, and a task whose call is
  still to come makes it when it starts;
* every end of a task, by success, error or panic, leaves a state in which any
  fresh request for a real upgrade is accepted again, and a task in flight can
  always be brought to such an end.

Proof: the daemon refines the one-owner lock, and the lifecycle invariant counts
the calls. -/
theorem upgrade_mutual_exclusion (state : AppState) (events : List Event) (daemon : State)
    (reached : run (next state) initial events = some daemon) :
    (∀ first second, (daemon.upgrades first).inFlight = true →
      (daemon.upgrades second).inFlight = true → first = second) ∧
    (daemon.isUpgrading = true ↔ ∃ request, Holds daemon request) ∧
    (∀ first second, Holds daemon first → Holds daemon second → first = second) ∧
    CallsMatchAnswers daemon ∧
    (∀ request, daemon.upgrades request = .ready →
      ∃ started, next state daemon (.upgradeStarted request) = some started ∧
        started.fullUpgradeCalls.count request = 1) ∧
    (∀ request ended, next state daemon (.guardDropped request) = some ended →
      ∀ fresh, ended.handlers fresh = .idle →
        ∃ accepted, run (next state) ended
            [.received fresh (.fullUpgrade ⟨false⟩), .advanced fresh, .advanced fresh,
              .advanced fresh, .advanced fresh] = some accepted ∧
          accepted.handlers fresh = .answered triggered ∧ accepted.upgrades fresh = .ready) ∧
    (∀ request, (daemon.upgrades request).inFlight = true →
      ∃ later ended outcome, run (next state) daemon later = some ended ∧
        ended.upgrades request = .ended outcome ∧ ended.isUpgrading = false) := by
  have tracked : Tracked state daemon := run_tracked reached
  obtain ⟨actions, owner, performed, lock⟩ := run_represents reached
  refine ⟨?_, ?_, ?_, calls_match_answers tracked, ?_, ?_, ?_⟩
  · intro first second left right
    exact holder_unique lock (.inr left) (.inr right)
  · rw [lock.1, Option.isSome_iff_exists]
    exact exists_congr fun request => (lock.2 request).symm
  · intro first second
    exact holder_unique lock
  · intro request stands
    exact ready_task_calls tracked stands
  · intro request ended step fresh idle
    have listed := step_of_next step
    cases listed with
    | moved event handler before after handled stands move =>
      obtain impossible | ⟨result, impossible⟩ := handled <;> cases impossible
    | dropped request outcome stands =>
      have past : (daemon.handlers request).pastSpawn = true :=
        (tracked.spawned request).mp (by simp [stands])
      exact clear_flag_accepts fresh (tracked.accepted request (.inr past)).2 rfl idle
  · intro request flying
    exact flight_can_end flying

/-- A daemon on which every feature is available and allowed. -/
def permissive : AppState := ⟨true, false, false, "apt", true⟩

/-- A panicking upgrade beside a refused one and a dry run. -/
def panickingUpgrade : List Event :=
  [.received 0 (.fullUpgrade ⟨false⟩), .received 1 (.fullUpgrade ⟨false⟩),
    .received 2 (.fullUpgrade ⟨true⟩), .advanced 0, .advanced 1, .advanced 2, .advanced 0,
    .upgradeStarted 0, .upgradeReturned 0 .panic, .advanced 0, .advanced 0, .guardDropped 0]

/-- The law applies to the state reached, in which only the first request has called. -/
theorem panicking_upgrade_reopens :
    ∃ daemon, run (next permissive) initial panickingUpgrade = some daemon ∧
      daemon.fullUpgradeCalls = [0] ∧ daemon.isUpgrading = false ∧ CallsMatchAnswers daemon :=
  ⟨_, rfl, rfl, rfl, (upgrade_mutual_exclusion permissive panickingUpgrade _ rfl).2.2.2.1⟩

end Brewmble.UpgradeLock
