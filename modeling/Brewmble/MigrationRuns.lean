import Brewmble.Migration

/-!
# Rehearsing and repeating a migration

Where no call fails, the status of an account is decided by its two slots alone. So a
dry run reports what a real run on the same stores does, although each has its own
branch in the source.

A real run moves every value that only the legacy store has. Afterwards no account is
left to be moved: a second run finds the moved values already present, and decides
about every other account as before.
-/

namespace Brewmble.MigrationRuns

open Credentials Fallible Migration

/-- No call fails. -/
def unfaulted : Account → MigrationFaults := fun _ => ⟨none, none, none, none⟩

variable {V : Type}

section Moving

variable (world : World V)

/-- The stores after a migration in which no call fails. -/
def migratedWorld : World V where
  store account := (world.store account).or (world.legacy account)
  legacy account := if world.store account = none then none else world.legacy account
  calls := world.calls

/-- Nothing is left to be moved after a real run. -/
theorem migrated_again : migratedWorld (migratedWorld world) = migratedWorld world := by
  have stored : ∀ account, ((migratedWorld world).store account).or
      ((migratedWorld world).legacy account) = (migratedWorld world).store account := by
    intro account
    cases current : world.store account <;> simp [migratedWorld, current]
  have left : ∀ account, (migratedWorld world).store account = none →
      (migratedWorld world).legacy account = none := by
    intro account
    cases current : world.store account <;> simp [migratedWorld, current]
  have kept : ∀ account, (if (migratedWorld world).store account = none then none
      else (migratedWorld world).legacy account) = (migratedWorld world).legacy account := by
    intro account
    by_cases empty : (migratedWorld world).store account = none
    · rw [if_pos empty, left account empty]
    · rw [if_neg empty]
  calc migratedWorld (migratedWorld world)
      = ⟨_, _, (migratedWorld world).calls⟩ := rfl
    _ = migratedWorld world := by rw [funext stored, funext kept]

end Moving

variable [DecidableEq V]

/-- The status of an account by the value in the new store and the legacy one. -/
def statusOf (current legacyValue : Option V) : MigrationStatus :=
  match current, legacyValue with
  | some cur, some leg => if cur = leg then .alreadyPresent else .conflict
  | some _, none => .alreadyPresent
  | none, some _ => .migrated
  | none, none => .notFound

/-- What a second run reports in place of a status. -/
def repeated : MigrationStatus → MigrationStatus
  | .migrated => .alreadyPresent
  | status => status

/-- The entries of a migration by the slots before it. -/
def entriesOf (accounts : List Account) (world : World V) : List MigrationEntry :=
  accounts.map fun account => ⟨account, statusOf (world.store account) (world.legacy account)⟩

section Statuses

/-- A dry run and a real run report the same status. -/
theorem account_status (account : Account) (dryRun : Bool) (world : World V) :
    (migrateAccount (unfaulted account) account dryRun world).1 =
      .ok (statusOf (world.store account) (world.legacy account)) := by
  cases current : world.store account with
  | some cur =>
    cases legacyValue : world.legacy account with
    | none => simp [migrateAccount, unfaulted, current, legacyValue, statusOf]
    | some leg =>
      by_cases same : cur = leg <;>
        simp [migrateAccount, unfaulted, current, legacyValue, statusOf, same]
  | none =>
    cases legacyValue : world.legacy account with
    | none => simp [migrateAccount, unfaulted, current, legacyValue, statusOf]
    | some value =>
      cases dryRun <;> simp [migrateAccount, unfaulted, current, legacyValue, statusOf]

/-- The statuses of distinct accounts are decided by the slots before the migration.

Proof: induct on the accounts. The first one leaves the slots of the others. -/
theorem accounts_statuses (dryRun : Bool) (accounts : List Account) (distinct : accounts.Nodup)
    (world : World V) :
    (migrateAccounts unfaulted dryRun accounts world).1 = .ok (entriesOf accounts world) := by
  induction accounts generalizing world with
  | nil => rfl
  | cons first rest inductionHypothesis =>
    obtain ⟨notRepeated, restDistinct⟩ := List.nodup_cons.mp distinct
    have own := account_migrated (unfaulted first) dryRun first world
    have status := account_status first dryRun world
    cases migrated : migrateAccount (unfaulted first) first dryRun world with
    | mk result middle =>
    rw [migrated] at own status
    obtain rfl : result = .ok _ := status
    have others : entriesOf rest middle = entriesOf rest world := by
      apply List.map_congr_left
      intro account member
      have other : account ≠ first := ne_of_mem_of_not_mem member notRepeated
      rw [own.otherStore account other, own.otherLegacy account other]
    have remaining := inductionHypothesis restDistinct middle
    cases continued : migrateAccounts unfaulted dryRun rest middle with
    | mk entries after =>
    rw [continued, others] at remaining
    obtain rfl : entries = .ok _ := remaining
    simp [migrateAccounts, migrated, continued, entriesOf]

end Statuses

section Runs

variable (world : World V)

/-- A dry run leaves the stores, and a real one moves what only the legacy store has. -/
theorem unfaulted_run (dryRun : Bool) :
    migrateCaWithStores unfaulted dryRun world =
      (.ok (entriesOf migrationAccounts world), if dryRun then world else migratedWorld world) := by
  obtain ⟨entries, after, returned, calls, migrated⟩ := ca_migrated unfaulted dryRun world
  have statuses := accounts_statuses dryRun migrationAccounts (by decide) world
  change (migrateCaWithStores unfaulted dryRun world).1 = _ at statuses
  rw [returned] at statuses ⊢
  obtain rfl : entries = entriesOf migrationAccounts world := Except.ok.inj statuses
  have stored : after.store = fun account =>
      (world.store account).or (if dryRun then none else world.legacy account) := by
    funext account
    rw [(migrated account).store]
    cases dryRun <;> rfl
  have left : after.legacy = fun account =>
      if world.store account = none ∧ dryRun = false then none else world.legacy account := by
    funext account
    rw [(migrated account).legacy]
    cases dryRun <;> simp [takes, unfaulted]
  have reached : after = ⟨after.store, after.legacy, after.calls⟩ := rfl
  rw [reached, stored, left, calls]
  cases dryRun <;> simp [migratedWorld]

/-- The status after a real run is the repeated one. -/
theorem status_repeated (account : Account) :
    statusOf ((migratedWorld world).store account) ((migratedWorld world).legacy account) =
      repeated (statusOf (world.store account) (world.legacy account)) := by
  cases current : world.store account with
  | some cur =>
    cases legacyValue : world.legacy account with
    | none => simp [migratedWorld, current, legacyValue, statusOf, repeated]
    | some leg =>
      by_cases same : cur = leg <;>
        simp [migratedWorld, current, legacyValue, statusOf, repeated, same]
  | none =>
    cases legacyValue : world.legacy account <;>
      simp [migratedWorld, current, legacyValue, statusOf, repeated]

/-- An account whose status is that it was migrated has only a legacy value. -/
theorem status_migrated {current legacyValue : Option V}
    (migrated : statusOf current legacyValue = .migrated) :
    current = none ∧ ∃ value, legacyValue = some value := by
  cases current <;> cases legacyValue <;> simp [statusOf] at migrated ⊢
  · split at migrated <;> cases migrated

/-- An account that is present or was migrated has a value in one of the stores. -/
theorem status_present {current legacyValue : Option V}
    (present : statusOf current legacyValue = .alreadyPresent ∨
      statusOf current legacyValue = .migrated) : current.or legacyValue ≠ none := by
  cases current <;> cases legacyValue <;> simp [statusOf] at present ⊢

/-- The CA is ready only if both of its accounts are present or migrated. -/
theorem ready_statuses (ready : caReady (entriesOf migrationAccounts world) = true) :
    ∀ account, account = .caCert ∨ account = .caKey →
      statusOf (world.store account) (world.legacy account) = .alreadyPresent ∨
        statusOf (world.store account) (world.legacy account) = .migrated := by
  simp only [caReady, List.all_eq_true, List.mem_filter] at ready
  intro account ofCa
  have listed : account ∈ migrationAccounts := by
    obtain rfl | rfl := ofCa <;> decide
  have member : (⟨account, statusOf (world.store account) (world.legacy account)⟩ : MigrationEntry) ∈
      entriesOf migrationAccounts world := List.mem_map_of_mem listed
  simpa using ready _ ⟨member, by simpa using ofCa⟩

/-- Where no call fails, a dry run changes neither store and reports for each account,
and about the CA, what the real run reports: the status that the two slots of the account
decide. The real run changes no value of the new
store, and every migrated account has its legacy value there. A second real run changes
neither store; it finds the migrated accounts already present and reports the others as
before. A real run that reports the CA ready leaves both of its accounts present.

Proof: the statuses are decided by the slots of each account before the run, and so are
the slots after it. -/
theorem migration_rehearsed_and_repeated :
    ∃ entries after,
      migrateCaWithStores unfaulted true world = (.ok entries, world) ∧
      migrateCaWithStores unfaulted false world = (.ok entries, after) ∧
      entries.map (·.account) = migrationAccounts ∧
      (∀ entry ∈ entries, entry.status =
        statusOf (world.store entry.account) (world.legacy entry.account)) ∧
      (∀ account value, world.store account = some value → after.store account = some value) ∧
      (∀ entry ∈ entries, entry.status = .migrated →
        ∃ value, world.legacy entry.account = some value ∧
          after.store entry.account = some value) ∧
      migrateCaWithStores unfaulted false after =
        (.ok (entries.map fun entry => ⟨entry.account, repeated entry.status⟩), after) ∧
      (caReady entries = true → after.store .caCert ≠ none ∧ after.store .caKey ≠ none) := by
  refine ⟨entriesOf migrationAccounts world, migratedWorld world, unfaulted_run world true,
    unfaulted_run world false, rfl, ?_, ?_, ?_, ?_, ?_⟩
  · intro entry member
    obtain ⟨account, _, rfl⟩ := List.mem_map.mp member
    rfl
  · intro account value present
    simp [migratedWorld, present]
  · intro entry member migrated
    obtain ⟨account, _, rfl⟩ := List.mem_map.mp member
    obtain ⟨absent, value, held⟩ := status_migrated migrated
    exact ⟨value, held, by simp [migratedWorld, absent, held]⟩
  · have again : entriesOf migrationAccounts (migratedWorld world) =
        (entriesOf migrationAccounts world).map
          fun entry => ⟨entry.account, repeated entry.status⟩ := by
      simp [entriesOf, status_repeated]
    rw [unfaulted_run, again, migrated_again]
    rfl
  · intro ready
    have statuses := ready_statuses world ready
    exact ⟨status_present (statuses .caCert (.inl rfl)), status_present (statuses .caKey (.inr rfl))⟩

end Runs

/-- Only the CA of an older version is there. -/
def olderCa : World String where
  store _ := none
  legacy
    | .caCert => some "certificate"
    | .caKey => some "key"
    | _ => none
  calls := 0

/-- It is moved, and a second run finds it present. -/
theorem older_ca_migrated :
    ∃ entries after, migrateCaWithStores unfaulted false olderCa = (.ok entries, after) ∧
      entries.map (·.status) = [.migrated, .migrated, .notFound, .notFound] ∧
      after.store .caCert = some "certificate" ∧ after.store .caKey = some "key" ∧
      migrateCaWithStores unfaulted false after =
        (.ok (entries.map fun entry => ⟨entry.account, repeated entry.status⟩), after) := by
  obtain ⟨entries, after, _, moves, _, _, _, _, again, _⟩ := migration_rehearsed_and_repeated olderCa
  have statuses : (migrateCaWithStores unfaulted false olderCa).1.map (·.map (·.status)) =
      .ok [.migrated, .migrated, .notFound, .notFound] := rfl
  have certificate : (migrateCaWithStores unfaulted false olderCa).2.store .caCert =
      some "certificate" := by decide
  have key : (migrateCaWithStores unfaulted false olderCa).2.store .caKey = some "key" := by decide
  rw [moves] at statuses certificate key
  exact ⟨entries, after, moves, Except.ok.inj statuses, certificate, key, again⟩

end Brewmble.MigrationRuns
