import Brewmble.Migration
import Brewmble.PairedSlots

/-!
# What ensuring and issuing do to each pair of slots

The certificate and key of the CA are one pair of slots, those of the client
another. Each operation acts on a pair by the laws of two slots: ensuring the CA
writes a generated pair, issuing to a client writes another, a forced
initialization erases before it writes, and a migration fills empty slots.

Each law states everything its operation can change, with the conditions on the
faults and on the slots before it. Later proofs use the laws alone.
-/

namespace Brewmble.CredentialSteps

open Credentials Fallible PairedSlots Migration

def caSlots {V : Type} (slots : Account → Option V) : Slots V V :=
  ⟨slots .caCert, slots .caKey⟩

def clientSlots {V : Type} (slots : Account → Option V) : Slots V V :=
  ⟨slots .clientCert, slots .clientKey⟩

section Storing

variable (setCert setKey : Fault) (certAccount keyAccount : Account) (cert key : Pem)
  (world : World Pem)

/-- The stores after a certificate and then its key were set, as far as both calls
succeed. -/
def pairStored : World Pem :=
  { world with
    store :=
      if setCert.isSome then world.store
      else if setKey.isSome then Function.update world.store certAccount (some cert)
      else Function.update (Function.update world.store certAccount (some cert)) keyAccount (some key) }

/-- What is returned by setting a certificate and then its key. -/
def pairReturned : Except String (Pem × Pem) :=
  match setCert, setKey with
  | some err, _ => .error err
  | none, some err => .error err
  | none, none => .ok (cert, key)

variable {setCert setKey certAccount keyAccount cert key world}

theorem pairStored_slots (distinct : keyAccount ≠ certAccount) :
    (⟨(pairStored setCert setKey certAccount keyAccount cert key world).store certAccount,
      (pairStored setCert setKey certAccount keyAccount cert key world).store keyAccount⟩ :
        Slots Pem Pem) =
      (⟨world.store certAccount, world.store keyAccount⟩ : Slots Pem Pem).write setCert.isSome
        setKey.isSome cert key := by
  cases setCert with
  | some err => rfl
  | none => cases setKey <;> simp [pairStored, Slots.write, distinct, distinct.symm]

theorem pairStored_other {other : Account} (notCert : other ≠ certAccount)
    (notKey : other ≠ keyAccount) :
    (pairStored setCert setKey certAccount keyAccount cert key world).store other =
      world.store other := by
  cases setCert with
  | some err => rfl
  | none => cases setKey <;> simp [pairStored, notCert, notKey]

theorem pairReturned_ok {pair : Pem × Pem} :
    pairReturned setCert setKey cert key = .ok pair ↔
      setCert = none ∧ setKey = none ∧ (cert, key) = pair := by
  cases setCert <;> cases setKey <;> simp [pairReturned]

end Storing

/-- Both slots of the CA are read and at least one is empty, so a new CA is
generated, and generating it succeeds. -/
def generates (faults : EnsureFaults) (world : World Pem) : Bool :=
  faults.getCert.isNone && faults.getKey.isNone && faults.generate.isNone &&
    !((world.store .caCert).isSome && (world.store .caKey).isSome)

/-- `ensure_ca` returns a CA: the stored one, or a new one that is stored. -/
def ensures (faults : EnsureFaults) (world : World Pem) : Bool :=
  faults.getCert.isNone && faults.getKey.isNone &&
    ((world.store .caCert).isSome && (world.store .caKey).isSome ||
      generates faults world && faults.setCert.isNone && faults.setKey.isNone)

/-- What ensuring the CA changes. The new pair is written certificate first. -/
structure Ensured (faults : EnsureFaults) (before : World Pem)
    (result : Except String (Pem × Pem) × World Pem) : Prop where
  ca : caSlots result.2.store =
    if generates faults before then
      (caSlots before.store).write faults.setCert.isSome faults.setKey.isSome
        (.caCert before.calls) (.caKey before.calls)
    else caSlots before.store
  client : clientSlots result.2.store = clientSlots before.store
  legacy : result.2.legacy = before.legacy
  calls : result.2.calls = before.calls + if generates faults before then 1 else 0
  returned : ∀ cert key, result.1 = .ok (cert, key) →
    caSlots result.2.store = ⟨some cert, some key⟩
  returns : ensures faults before = true ↔ ∃ pair, result.1 = .ok pair

/-- An error that is returned before anything was generated changes nothing. -/
theorem failed_ensured {faults : EnsureFaults} {world : World Pem} (err : String)
    (stays : generates faults world = false) (fails : ensures faults world = false) :
    Ensured faults world (.error err, world) := by
  constructor
  · rw [stays]
    rfl
  · rfl
  · rfl
  · rw [stays]
    rfl
  · rintro cert key ⟨⟩
  · simp [fails]

theorem new_ca_run (faults : EnsureFaults) (world : World Pem) :
    storeNewCa faults world =
      match faults.generate with
      | some err => (.error err, world)
      | none => (pairReturned faults.setCert faults.setKey (.caCert world.calls) (.caKey world.calls),
          pairStored faults.setCert faults.setKey .caCert .caKey (.caCert world.calls)
            (.caKey world.calls) { world with calls := world.calls + 1 }) := by
  obtain ⟨getCert, getKey, generate, setCert, setKey⟩ := faults
  cases generate with
  | some err => rfl
  | none =>
    cases setCert with
    | some err => rfl
    | none => cases setKey <;> rfl

/-- Storing a new CA is a write of the generated pair. -/
theorem new_ca_ensured (faults : EnsureFaults) (world : World Pem)
    (reads : faults.getCert = none ∧ faults.getKey = none)
    (missing : ((world.store .caCert).isSome && (world.store .caKey).isSome) = false) :
    Ensured faults world (storeNewCa faults world) := by
  rw [new_ca_run]
  obtain ⟨getCert, getKey, generate, setCert, setKey⟩ := faults
  obtain ⟨rfl, rfl⟩ := reads
  cases generate with
  | some err =>
    exact failed_ensured err rfl (by simp [ensures, generates, missing])
  | none =>
    have new : generates ⟨none, none, none, setCert, setKey⟩ world = true := by
      simp [generates, missing]
    have written := @pairStored_slots setCert setKey .caCert .caKey (.caCert world.calls)
      (.caKey world.calls) { world with calls := world.calls + 1 } (by decide)
    constructor
    · rw [new]
      exact written
    · exact congrArg₂ Slots.mk (pairStored_other (by decide) (by decide))
        (pairStored_other (by decide) (by decide))
    · rfl
    · rw [new]
      rfl
    · intro cert key returned
      obtain ⟨rfl, rfl, ⟨⟩⟩ := pairReturned_ok.mp returned
      exact written
    · simp [ensures, missing, new, pairReturned_ok]

/-- The cases follow the two reads and the stored pair. -/
theorem ca_ensured (faults : EnsureFaults) (world : World Pem) :
    Ensured faults world (ensureCaWithStore faults world) := by
  obtain ⟨getCert, getKey, generate, setCert, setKey⟩ := faults
  cases getCert with
  | some err => exact failed_ensured err rfl rfl
  | none =>
    cases getKey with
    | some err => exact failed_ensured err rfl rfl
    | none =>
      cases certificate : world.store .caCert with
      | none =>
        have new : ensureCaWithStore ⟨none, none, generate, setCert, setKey⟩ world =
            storeNewCa ⟨none, none, generate, setCert, setKey⟩ world := by
          simp [ensureCaWithStore, certificate]
        rw [new]
        exact new_ca_ensured _ world ⟨rfl, rfl⟩ (by simp [certificate])
      | some cert =>
        cases keyText : world.store .caKey with
        | none =>
          have new : ensureCaWithStore ⟨none, none, generate, setCert, setKey⟩ world =
              storeNewCa ⟨none, none, generate, setCert, setKey⟩ world := by
            simp [ensureCaWithStore, certificate, keyText]
          rw [new]
          exact new_ca_ensured _ world ⟨rfl, rfl⟩ (by simp [keyText])
        | some key =>
          have run : ensureCaWithStore ⟨none, none, generate, setCert, setKey⟩ world =
              (.ok (cert, key), world) := by
            simp [ensureCaWithStore, certificate, keyText]
          have stays : generates ⟨none, none, generate, setCert, setKey⟩ world = false := by
            simp [generates, certificate, keyText]
          rw [run]
          constructor
          · rw [stays]
            rfl
          · rfl
          · rfl
          · rw [stays]
            rfl
          · rintro _ _ ⟨⟩
            rw [caSlots, certificate, keyText]
          · simp [ensures, certificate, keyText]

/-- A CA that has been ensured is found again: nothing more is generated. -/
theorem ensured_found {faults : EnsureFaults} {before after : World Pem} {pair : Pem × Pem}
    (returned : ensureCaWithStore faults before = (.ok pair, after)) (again : EnsureFaults) :
    generates again after = false := by
  have stored := (ca_ensured faults before).returned pair.1 pair.2 (by rw [returned])
  rw [returned] at stored
  have certificate : after.store .caCert = some pair.1 := congrArg Slots.left stored
  have key : after.store .caKey = some pair.2 := congrArg Slots.right stored
  simp [generates, certificate, key]

/-- A client leaf is generated, and its pair is written certificate first. -/
def storesLeaf (faults : LeafFaults) (kind : LeafKind) (world : World Pem) : Bool :=
  ensures faults.ensure world && faults.generate.isNone && decide (kind = .client)

/-- What issuing a leaf changes, given the world that ensuring the CA leaves. -/
structure LeafIssued (faults : LeafFaults) (cn : String) (kind : LeafKind)
    (before ensured : World Pem) (result : Except String (Pem × Pem) × World Pem) : Prop where
  ca : caSlots result.2.store = caSlots ensured.store
  stored : storesLeaf faults kind before = true → ensured.calls < result.2.calls ∧
    ∃ signer, clientSlots result.2.store =
      (clientSlots ensured.store).write faults.setCert.isSome faults.setKey.isSome
        (.leafCert ensured.calls cn kind signer) (.leafKey ensured.calls)
  unstored : storesLeaf faults kind before = false →
    clientSlots result.2.store = clientSlots ensured.store
  legacy : result.2.legacy = ensured.legacy
  calls : ensured.calls ≤ result.2.calls
  returned : ∀ cert key, result.1 = .ok (cert, key) → ensures faults.ensure before = true ∧
    ∃ caCert caKey call, caSlots ensured.store = ⟨some caCert, some caKey⟩ ∧
      cert = .leafCert call cn kind caKey

theorem leaf_run {faults : LeafFaults} {world ensured : World Pem} {caCert caKey : Pem}
    (run : ensureCaWithStore faults.ensure world = (.ok (caCert, caKey), ensured)) (cn : String)
    (kind : LeafKind) :
    issueLeafWithStore faults cn kind world =
      match faults.generate, kind with
      | some err, _ => (.error err, ensured)
      | none, .daemon => (.ok (.leafCert ensured.calls cn .daemon caKey, .leafKey ensured.calls),
          { ensured with calls := ensured.calls + 1 })
      | none, .client =>
        (pairReturned faults.setCert faults.setKey (.leafCert ensured.calls cn .client caKey)
            (.leafKey ensured.calls),
          pairStored faults.setCert faults.setKey .clientCert .clientKey
            (.leafCert ensured.calls cn .client caKey) (.leafKey ensured.calls)
            { ensured with calls := ensured.calls + 1 }) := by
  obtain ⟨ensure, generate, setCert, setKey⟩ := faults
  simp only [issueLeafWithStore, bind_apply, run]
  cases generate with
  | some err => rfl
  | none =>
    cases kind with
    | daemon => rfl
    | client =>
      cases setCert with
      | some err => rfl
      | none => cases setKey <;> rfl

/-- The cases follow the outcome of ensuring the CA, the generator and the kind of leaf. -/
theorem leaf_issued (faults : LeafFaults) (cn : String) (kind : LeafKind) (world : World Pem) :
    LeafIssued faults cn kind world (ensureCaWithStore faults.ensure world).2
      (issueLeafWithStore faults cn kind world) := by
  have law := ca_ensured faults.ensure world
  cases run : ensureCaWithStore faults.ensure world with
  | mk outcome ensured =>
  rw [run] at law
  cases outcome with
  | error err =>
    have unensured : ensures faults.ensure world = false := by simpa using law.returns
    have unstored : storesLeaf faults kind world = false := by simp [storesLeaf, unensured]
    have stops : issueLeafWithStore faults cn kind world = (.error err, ensured) := by
      simp only [issueLeafWithStore, bind_apply, run]
    rw [stops]
    refine ⟨rfl, ?_, fun _ => rfl, rfl, Nat.le_refl _, ?_⟩
    · rw [unstored]
      rintro ⟨⟩
    · rintro cert key ⟨⟩
  | ok pair =>
    obtain ⟨caCert, caKey⟩ := pair
    have isEnsured : ensures faults.ensure world = true := law.returns.mpr ⟨(caCert, caKey), rfl⟩
    have stored : caSlots ensured.store = ⟨some caCert, some caKey⟩ := law.returned caCert caKey rfl
    rw [leaf_run run]
    obtain ⟨ensure, generate, setCert, setKey⟩ := faults
    cases generate with
    | some err =>
      have unstored : storesLeaf ⟨ensure, some err, setCert, setKey⟩ kind world = false := by
        simp [storesLeaf]
      refine ⟨rfl, ?_, fun _ => rfl, rfl, Nat.le_refl _, ?_⟩
      · rw [unstored]
        rintro ⟨⟩
      · rintro cert key ⟨⟩
    | none =>
      cases kind with
      | daemon =>
        refine ⟨rfl, ?_, fun _ => rfl, rfl, Nat.le_succ _, ?_⟩
        · simp [storesLeaf]
        · rintro cert key ⟨⟩
          exact ⟨isEnsured, caCert, caKey, ensured.calls, stored, rfl⟩
      | client =>
        have kept : caSlots (pairStored setCert setKey .clientCert .clientKey
            (.leafCert ensured.calls cn .client caKey) (.leafKey ensured.calls)
            { ensured with calls := ensured.calls + 1 }).store = caSlots ensured.store :=
          congrArg₂ Slots.mk (pairStored_other (by decide) (by decide))
            (pairStored_other (by decide) (by decide))
        refine ⟨kept, fun _ => ⟨Nat.lt_succ_self _, caKey, ?_⟩, ?_, rfl, Nat.le_succ _, ?_⟩
        · exact pairStored_slots (by decide)
        · simp [storesLeaf, isEnsured]
        · intro cert key returned
          obtain ⟨_, _, ⟨⟩⟩ := pairReturned_ok.mp returned
          exact ⟨isEnsured, caCert, caKey, ensured.calls, stored, rfl⟩

/-- The CA certificate is found when `ca init` looks for it. -/
def rootFound (faults : InitFaults) (world : World Pem) : Bool :=
  faults.root.isNone && (world.store .caCert).isSome

/-- The world after the deletions of a forced initialization. -/
def cleared (faults : InitFaults) (world : World Pem) : World Pem :=
  let afterCert := ((Store.delete faults.deleteCert .caCert) world).2
  ((Store.delete faults.deleteKey .caKey) afterCert).2

/-- Where an initialization goes on to ensure the CA, if it does. -/
def initStart (faults : InitFaults) (force : Bool) (world : World Pem) : Option (World Pem) :=
  if force then some (cleared faults world)
  else if rootFound faults world then none
  else some world

/-- An initialization either stops or ensures the CA from where it starts. -/
theorem init_run (faults : InitFaults) (force : Bool) (world : World Pem) :
    caInit faults force world =
      match initStart faults force world with
      | none => (.error "cluster CA already exists; use --force to overwrite", world)
      | some start => ensureCaWithStore faults.ensure start := by
  obtain ⟨root, deleteCert, deleteKey, ensure⟩ := faults
  cases force with
  | true => simp [caInit, initStart, cleared]
  | false =>
    cases root with
    | some err => simp [caInit, initStart, rootFound, isOk]
    | none =>
      cases certificate : world.store .caCert <;>
        simp [caInit, initStart, rootFound, isOk, certificate]

theorem init_world (faults : InitFaults) (force : Bool) (world : World Pem) :
    (caInit faults force world).2 =
      match initStart faults force world with
      | none => world
      | some start => (ensureCaWithStore faults.ensure start).2 := by
  rw [init_run]
  cases initStart faults force world <;> rfl

/-- Clearing erases each CA slot whose deletion succeeds and nothing else. -/
theorem cleared_slots (faults : InitFaults) (world : World Pem) :
    caSlots (cleared faults world).store =
        (caSlots world.store).erase faults.deleteCert.isSome faults.deleteKey.isSome ∧
      clientSlots (cleared faults world).store = clientSlots world.store ∧
      (cleared faults world).legacy = world.legacy ∧
      (cleared faults world).calls = world.calls := by
  obtain ⟨root, deleteCert, deleteKey, ensure⟩ := faults
  cases deleteCert <;> cases deleteKey <;>
    simp [cleared, caSlots, clientSlots, Slots.erase]

/-- Where issuing a leaf to a daemon leaves the stores: its own ensuring of the CA
decides whether the leaf is issued. -/
theorem daemon_world (faults : DaemonFaults) (cn : String) (world : World Pem) :
    (certIssueDaemon faults cn world).2 =
      if faults.prepare.isSome then world
      else
        let ensured := (ensureCaWithStore faults.ensure world).2
        if ensures faults.ensure world then (issueLeafWithStore faults.leaf cn .daemon ensured).2
        else ensured := by
  have law := ca_ensured faults.ensure world
  obtain ⟨prepare, ensure, leaf, write⟩ := faults
  cases prepare with
  | some err => simp [certIssueDaemon]
  | none =>
    cases run : ensureCaWithStore ensure world with
    | mk outcome ensured =>
    rw [run] at law
    cases outcome with
    | error err =>
      have unensured : ensures ensure world = false := by simpa using law.returns
      simp [certIssueDaemon, run, unensured]
    | ok pair =>
      have isEnsured : ensures ensure world = true := law.returns.mpr ⟨pair, rfl⟩
      cases issue : issueLeafWithStore leaf cn .daemon ensured with
      | mk issued after =>
        cases issued with
        | error err => simp [certIssueDaemon, run, isEnsured, issue]
        | ok pair => cases write <;> simp [certIssueDaemon, run, isEnsured, issue]

/-- A client certificate is found when `cert issue` looks for it. -/
def clientFound (faults : ClientFaults) (world : World Pem) : Bool :=
  faults.present.isNone && (world.store .clientCert).isSome

/-- Issuing to a client either stops at the certificate it finds or issues. -/
theorem client_world (faults : ClientFaults) (hostname : String) (force : Bool)
    (world : World Pem) :
    (certIssueClient faults hostname force world).2 =
      if !force && clientFound faults world then world
      else (issueLeafWithStore faults.leaf hostname .client world).2 := by
  obtain ⟨present, leaf⟩ := faults
  cases force with
  | true => simp [certIssueClient]
  | false =>
    cases present with
    | some err => simp [certIssueClient, clientFound, isOk]
    | none =>
      cases certificate : world.store .clientCert <;>
        simp [certIssueClient, clientFound, isOk, certificate]

/-- A migration fills each pair from the legacy pair and only shrinks the latter. -/
structure PairsMigrated (faults : Account → MigrationFaults) (dryRun : Bool)
    (before after : World Pem) : Prop where
  ca : caSlots after.store = (caSlots before.store).fill (moves (faults .caCert) dryRun)
    (moves (faults .caKey) dryRun) (caSlots before.legacy)
  client : clientSlots after.store = (clientSlots before.store).fill
    (moves (faults .clientCert) dryRun) (moves (faults .clientKey) dryRun)
    (clientSlots before.legacy)
  shrinks : ∀ account pem, after.legacy account = some pem → before.legacy account = some pem
  calls : after.calls = before.calls

theorem pairs_migrated (faults : Account → MigrationFaults) (dryRun : Bool) (world : World Pem) :
    PairsMigrated faults dryRun world (caMigrate faults dryRun world).2 := by
  obtain ⟨entries, after, returned, calls, migrated⟩ := ca_migrated faults dryRun world
  have same : (caMigrate faults dryRun world).2 = after := by
    cases ready : caReady entries <;> simp [caMigrate, returned, ready]
  rw [same]
  refine ⟨?_, ?_, ?_, calls⟩
  · simp [caSlots, Slots.fill, (migrated .caCert).store, (migrated .caKey).store]
  · simp [clientSlots, Slots.fill, (migrated .clientCert).store, (migrated .clientKey).store]
  · intro account pem stored
    rw [(migrated account).legacy] at stored
    split at stored
    · cases stored
    · exact stored

end Brewmble.CredentialSteps
