import Brewmble.UpgradeLock

/-!
# The stored handle and the running upgrade

On shutdown the daemon takes the stored handle and awaits or aborts that task.
The store is the last step of a handler that has spawned: between the spawn and
the store the task may end, another request may win the flag, spawn and store,
and the first store then puts a finished handle over the running one.

The exact condition concerns the store alone: it must not replace the handle of
a task that is still in flight. Executions that respect it always know the
running upgrade when no handler is between its spawn and its store. Any single
store that breaks it can be followed, without any further request, to a state
that no handler is about to store in and whose running task is not the stored one.
-/

namespace Brewmble.UpgradeHandle

open Rest Daemon Execution UpgradeLock

/-- The shutdown path of `main`: take the stored handle; the task it names is
awaited for at most thirty seconds and then aborted. -/
def shutdown (daemon : State) : Option Nat × State :=
  (daemon.upgradeHandle, { daemon with upgradeHandle := none })

/-- No handler stands between its spawn and its store. -/
def Quiet (daemon : State) : Prop := ∀ request, daemon.handlers request ≠ .upgradeSpawned

/-- Every upgrade task in flight is the one the shutdown path takes. -/
def KnowsRunning (daemon : State) : Prop :=
  ∀ request, (daemon.upgrades request).inFlight = true →
    (shutdown daemon).1 = some request

/-- The event is no store over the handle of a task in flight. -/
def KeepsRunning (daemon : State) (event : Event) : Prop :=
  ∀ request ∈ event.advancing, daemon.handlers request = .upgradeSpawned →
    ∀ held ∈ daemon.upgradeHandle, (daemon.upgrades held).inFlight = false

instance (daemon : State) (event : Event) : Decidable (KeepsRunning daemon event) :=
  inferInstanceAs (Decidable (∀ request ∈ event.advancing, _ → ∀ held ∈ daemon.upgradeHandle, _))

/-- Every task in flight is stored, or its handler is about to store it. -/
def Accounted (daemon : State) : Prop :=
  ∀ request, (daemon.upgrades request).inFlight = true →
    daemon.handlers request = .upgradeSpawned ∨ daemon.upgradeHandle = some request

theorem initial_accounted : Accounted initial := by
  intro request flying
  simp [initial, UpgradeTask.inFlight] at flying

/-- Moving a handler that is not about to store keeps the accounting. -/
theorem accounted_setHandler {daemon : State} {request : Nat} {after : Handler}
    (accounted : Accounted daemon) (was : daemon.handlers request ≠ .upgradeSpawned) :
    Accounted (daemon.setHandler request after) := by
  intro other flying
  obtain spawned | held := accounted other flying
  · have distinct : other ≠ request := by
      intro same
      exact was (same ▸ spawned)
    exact .inl (by simpa [distinct] using spawned)
  · exact .inr held

/-- Replacing a task by one that is no more in flight keeps the accounting. -/
theorem accounted_setUpgrade {daemon : State} {request : Nat} {task : UpgradeTask}
    (accounted : Accounted daemon)
    (landed : task.inFlight = true → (daemon.upgrades request).inFlight = true) :
    Accounted (daemon.setUpgrade request task) := by
  intro other flying
  by_cases same : other = request
  · subst same
    exact accounted other (landed (by simpa using flying))
  · exact accounted other (by simpa [same] using flying)

/-- A step that respects the condition keeps the accounting. The store is the
only case that uses it: the handle it replaces belongs to no task in flight, so
every task in flight is the stored one or still about to be. -/
theorem step_accounted {state : AppState} {daemon reached : State} {event : Event}
    (accounted : Accounted daemon) (keeps : KeepsRunning daemon event)
    (step : Step state daemon event reached) : Accounted reached := by
  cases step with
  | arrived request body fresh => exact accounted_setHandler accounted (by simp [fresh])
  | moved event request before after handled stands move =>
    exact accounted_setHandler accounted (by rw [stands]; exact move.not_spawned.1)
  | claimed request payload stands available wet clear =>
    exact accounted_setHandler accounted (by simp [stands])
  | spawned request stands =>
    intro other flying
    by_cases same : other = request
    · subst same
      exact .inl (by simp)
    · simpa [same] using accounted other (by simpa [same] using flying)
  | stored request stands =>
    intro other flying
    by_cases same : other = request
    · subst same
      exact .inr rfl
    · obtain spawned | held := accounted other flying
      · exact .inl (by simpa [same] using spawned)
      · have landed := keeps request rfl stands other held
        exact absurd flying (by simp [landed])
  | rebootSpawned request delay stands allowed =>
    exact accounted_setHandler accounted (by simp [stands])
  | started request stands =>
    exact accounted_setUpgrade accounted (by simp [stands, UpgradeTask.inFlight])
  | returned request outcome stands =>
    exact accounted_setUpgrade accounted (by simp [stands, UpgradeTask.inFlight])
  | dropped request outcome stands =>
    exact accounted_setUpgrade accounted (by simp [UpgradeTask.inFlight])
  | elapsed request seconds stands => exact accounted
  | issued request command stands => exact accounted
  | completed request command result stands => exact accounted

/-- With every task accounted for, a quiet daemon knows the running one. -/
theorem accounted_knows {daemon : State} (accounted : Accounted daemon) (quiet : Quiet daemon) :
    KnowsRunning daemon := by
  intro request flying
  obtain spawned | held := accounted request flying
  · exact absurd spawned (quiet request)
  · exact held

/-- Only finitely many request numbers have arrived. -/
def Bounded (daemon : State) : Prop := ∃ bound, ∀ request, bound ≤ request →
  daemon.handlers request = .idle

theorem bounded_setHandler {daemon : State} (request : Nat) (after : Handler)
    (bounded : Bounded daemon) : Bounded (daemon.setHandler request after) := by
  obtain ⟨bound, idle⟩ := bounded
  refine ⟨max bound (request + 1), ?_⟩
  intro other large
  have distinct : other ≠ request := by omega
  simpa [distinct] using idle other (by omega)

theorem step_bounded {state : AppState} {daemon reached : State} {event : Event}
    (bounded : Bounded daemon) (step : Step state daemon event reached) : Bounded reached := by
  cases step with
  | arrived request body fresh => exact bounded_setHandler request _ bounded
  | moved event request before after handled stands move =>
    exact bounded_setHandler request _ bounded
  | claimed request payload stands available wet clear =>
    exact bounded_setHandler request _ bounded
  | spawned request stands => exact bounded_setHandler request .upgradeSpawned bounded
  | stored request stands => exact bounded_setHandler request _ bounded
  | rebootSpawned request delay stands allowed =>
    exact bounded_setHandler request .rebootSpawned bounded
  | _ => exact bounded

theorem run_bounded {state : AppState} {events : List Event} {daemon : State}
    (reached : run (next state) initial events = some daemon) : Bounded daemon :=
  run_preserves (next state) Bounded
    (fun _ _ _ bounded step => step_bounded bounded (step_of_next step))
    ⟨0, fun _ _ => rfl⟩ reached

/-- The task is in flight, its handler has stored, and another handle is stored. -/
def Lost (daemon : State) (task : Nat) : Prop :=
  (daemon.upgrades task).inFlight = true ∧ daemon.handlers task ≠ .upgradeSpawned ∧
    daemon.upgradeHandle ≠ some task

/-- The remaining stores below a bound can all take place. None of them is the
lost task's own, so the task stays lost.

Proof: induct on the bound. The handler just below it stores if it stands before
its store; no other handler changes. -/
theorem lost_after_stores (state : AppState) (task bound : Nat) (daemon : State)
    (lost : Lost daemon task) :
    ∃ events settled, run (next state) daemon events = some settled ∧ Lost settled task ∧
      (∀ request, request < bound → settled.handlers request ≠ .upgradeSpawned) ∧
      ∀ request, daemon.handlers request ≠ .upgradeSpawned →
        settled.handlers request = daemon.handlers request := by
  induction bound with
  | zero => exact ⟨[], daemon, rfl, lost, by simp, fun _ _ => rfl⟩
  | succ bound inductionHypothesis =>
    obtain ⟨events, middle, before, stillLost, below, kept⟩ := inductionHypothesis
    by_cases spawned : middle.handlers bound = .upgradeSpawned
    · have distinct : task ≠ bound := by
        intro same
        exact stillLost.2.1 (same ▸ spawned)
      have step : next state middle (.advanced bound) =
          some { middle.setHandler bound .upgradeStored with upgradeHandle := some bound } := by
        simp only [next, advance, spawned]
      refine ⟨events ++ [.advanced bound], _, run_append _ before (run_one _ step), ?_, ?_, ?_⟩
      · refine ⟨stillLost.1, by simpa [distinct] using stillLost.2.1, ?_⟩
        intro same
        exact distinct (Option.some.inj same).symm
      · intro request small
        by_cases same : request = bound
        · subst same
          simp
        · simpa [same] using below request (by omega)
      · intro request notSpawned
        have other : request ≠ bound := by
          intro same
          rw [same] at notSpawned
          exact notSpawned (by
            by_contra changed
            exact changed ((kept bound changed).symm.trans spawned))
        simpa [other] using kept request notSpawned
    · refine ⟨events, middle, before, stillLost, ?_, kept⟩
      intro request small
      by_cases same : request = bound
      · exact same ▸ spawned
      · exact below request (by omega)

/-- A reached state that has lost its running task settles into a quiet one that
still has. -/
theorem lost_settles (state : AppState) {daemon : State} (bounded : Bounded daemon) {task : Nat}
    (lost : Lost daemon task) :
    ∃ events settled, run (next state) daemon events = some settled ∧ Quiet settled ∧
      ¬ KnowsRunning settled := by
  obtain ⟨bound, idle⟩ := bounded
  obtain ⟨events, settled, completed, stillLost, below, kept⟩ :=
    lost_after_stores state task bound daemon lost
  refine ⟨events, settled, completed, ?_, ?_⟩
  · intro request
    by_cases small : request < bound
    · exact below request small
    · have unborn := idle request (by omega)
      rw [kept request (by simp [unborn]), unborn]
      simp
  · intro knows
    exact stillLost.2.2 (knows task stillLost.1)

/-- The condition under which the shutdown path knows the running upgrade.

First, in every execution whose stores never replace the handle of a task in
flight, each state that no handler is about to store in has its running task
stored. Second, the condition cannot be relaxed: in any reached state, a step
that breaks it leads on to a quiet state whose running task is not stored.

Proof: the first part carries the accounting along the guarded execution. For
the second, the broken store leaves the previous holder's task in flight with
its own store behind it; the finitely many stores still due change neither. -/
theorem shutdown_knows_running (state : AppState) :
    (∀ events daemon, run (next state) initial events = some daemon →
      Guarded (next state) KeepsRunning initial events → Quiet daemon → KnowsRunning daemon) ∧
    (∀ events daemon event reached, run (next state) initial events = some daemon →
      ¬ KeepsRunning daemon event → next state daemon event = some reached →
      ∃ later settled, run (next state) reached later = some settled ∧ Quiet settled ∧
        ¬ KnowsRunning settled) := by
  constructor
  · intro events daemon completed guarded quiet
    have accounted : Accounted daemon :=
      guarded_preserves (next state) KeepsRunning (fun _ => True) Accounted
        (fun _ _ _ _ _ => trivial)
        (fun _ _ _ _ accounted keeps step => step_accounted accounted keeps (step_of_next step))
        trivial initial_accounted guarded completed
    exact accounted_knows accounted quiet
  · intro events daemon event reached completed breaks step
    have tracked : Tracked state daemon := run_tracked completed
    have bounded : Bounded daemon := run_bounded completed
    simp only [KeepsRunning, not_forall] at breaks
    obtain ⟨request, advances, spawned, held, stored, flying⟩ := breaks
    obtain rfl : event = .advanced request := eq_advanced advances
    have inFlight : (daemon.upgrades held).inFlight = true := by simpa using flying
    obtain ⟨_, notSpawned⟩ := tracked.stored held stored
    have distinct : held ≠ request := by
      intro same
      exact notSpawned (same ▸ spawned)
    have listed := step_of_next step
    have after : reached =
        { daemon.setHandler request .upgradeStored with upgradeHandle := some request } := by
      simpa [next, advance, spawned] using step.symm
    have lost : Lost reached held := by
      subst after
      refine ⟨inFlight, by simpa [distinct] using notSpawned, ?_⟩
      intro same
      exact distinct (Option.some.inj same).symm
    exact lost_settles state (step_bounded bounded listed) lost

/-- Where none but two requests have arrived, their handlers decide. -/
theorem quiet_of_two {daemon : State} (first : daemon.handlers 0 ≠ .upgradeSpawned)
    (second : daemon.handlers 1 ≠ .upgradeSpawned)
    (others : ∀ request, request ≠ 0 → request ≠ 1 → daemon.handlers request = .idle) : Quiet daemon := by
  intro request
  by_cases isFirst : request = 0
  · exact isFirst ▸ first
  by_cases isSecond : request = 1
  · exact isSecond ▸ second
  simp [others request isFirst isSecond]

/-- The first request stores its handle only after its task has ended and the
second request has spawned and stored. -/
def lateStore : List Event :=
  [.received 0 (.fullUpgrade ⟨false⟩), .advanced 0, .advanced 0, .upgradeStarted 0,
    .upgradeReturned 0 .ok, .guardDropped 0, .received 1 (.fullUpgrade ⟨false⟩), .advanced 1,
    .advanced 1, .advanced 1, .upgradeStarted 1, .advanced 0]

/-- The late store leaves a quiet daemon whose shutdown takes the finished task
while the second upgrade runs. -/
theorem late_store_hides_running :
    ¬ ∀ state events daemon, run (next state) initial events = some daemon → Quiet daemon →
      KnowsRunning daemon := by
  intro claimed
  have known := claimed permissive lateStore _ rfl
    (quiet_of_two (by decide) (by decide) fun request first second => by simp [initial, first, second])
  exact absurd (known 1 rfl) (by decide)

/-- The same two upgrades with each handle stored at once respect the condition. -/
def promptStores : List Event :=
  [.received 0 (.fullUpgrade ⟨false⟩), .advanced 0, .advanced 0, .advanced 0, .upgradeStarted 0,
    .upgradeReturned 0 .ok, .guardDropped 0, .received 1 (.fullUpgrade ⟨false⟩), .advanced 1,
    .advanced 1, .advanced 1, .upgradeStarted 1]

/-- With prompt stores the shutdown path takes the second, running task. -/
theorem prompt_stores_known :
    ∃ daemon, run (next permissive) initial promptStores = some daemon ∧
      (daemon.upgrades 1).inFlight = true ∧ Quiet daemon ∧ KnowsRunning daemon := by
  obtain ⟨daemon, completed, flying, quiet⟩ : ∃ daemon,
      run (next permissive) initial promptStores = some daemon ∧
        (daemon.upgrades 1).inFlight = true ∧ Quiet daemon := by
    refine ⟨_, rfl, rfl, quiet_of_two (by decide) (by decide) fun request first second => ?_⟩
    dsimp only
    simp [initial, first, second]
  exact ⟨daemon, completed, flying, quiet,
    (shutdown_knows_running permissive).1 promptStores daemon completed (by decide) quiet⟩

end Brewmble.UpgradeHandle
