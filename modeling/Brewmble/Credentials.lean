import Brewmble.Fallible
import Mathlib.Logic.Function.Basic

/-!
# The credential store and its operations

Four accounts are kept in the credential store; older versions kept them in a
legacy store. Every call on either store may fail with an error text. A failing
call leaves its slot unchanged. Each call site has a fault of its own, so a
family of faults is any pattern of failures.

The operations follow the source call by call in the error monad over the world,
whose counter numbers the calls of the two generators. A generated value carries
its call's number, and a leaf certificate also the key text it was signed with;
no further cryptography is modelled. Migration is stated for values of any type
with decidable equality, since it compares stored texts only.
-/

namespace Brewmble.Credentials

open Fallible

inductive Account where
  | caCert
  | caKey
  | clientCert
  | clientKey
  deriving DecidableEq, Repr

/-- The account name in either store. -/
def Account.name : Account → String
  | .caCert => "cluster-ca-cert"
  | .caKey => "cluster-ca-key"
  | .clientCert => "client-cert"
  | .clientKey => "client-key"

/-- `MIGRATION_ACCOUNTS` in its order. -/
def migrationAccounts : List Account := [.caCert, .caKey, .clientCert, .clientKey]

/-- The error of one call, if that call fails. -/
abbrev Fault := Option String

/-- Both stores and the number of generator calls so far. -/
structure World (V : Type) where
  store : Account → Option V
  legacy : Account → Option V
  calls : Nat

/-- A call on the stores, which may fail with a text. -/
abbrev StoreCall (V Value : Type) := Call String (World V) Value

section Calls

variable {V : Type} (fault : Fault) (account : Account)

@[simp] def Store.get : StoreCall V (Option V) := do
  Call.attempt fault
  Call.read fun world => world.store account

@[simp] def Store.set (value : V) : StoreCall V Unit := do
  Call.attempt fault
  Call.modify fun world =>
    { world with store := Function.update world.store account (some value) }

/-- `delete_credential`. -/
@[simp] def Store.delete : StoreCall V Unit := do
  Call.attempt fault
  Call.modify fun world => { world with store := Function.update world.store account none }

@[simp] def Legacy.read : StoreCall V (Option V) := do
  Call.attempt fault
  Call.read fun world => world.legacy account

@[simp] def Legacy.delete : StoreCall V Unit := do
  Call.attempt fault
  Call.modify fun world => { world with legacy := Function.update world.legacy account none }

end Calls

section Migration

inductive MigrationStatus where
  | alreadyPresent
  | migrated
  | notFound
  | conflict
  | failed (err : String)
  deriving DecidableEq, Repr

def MigrationStatus.text : MigrationStatus → String
  | .alreadyPresent => "already present"
  | .migrated => "migrated"
  | .notFound => "not found in legacy store"
  | .conflict => "conflict (different value in new store)"
  | .failed err => "failed: " ++ err

structure MigrationEntry where
  account : Account
  status : MigrationStatus
  deriving DecidableEq, Repr

/-- `MigrationReport::ca_ready`. -/
def caReady (entries : List MigrationEntry) : Bool :=
  (entries.filter fun entry => entry.account = .caCert || entry.account = .caKey).all
    fun entry => entry.status = .alreadyPresent || entry.status = .migrated

/-- The faults of the four calls made for one account. -/
structure MigrationFaults where
  get : Fault
  read : Fault
  delete : Fault
  set : Fault
  deriving DecidableEq, Repr

variable {V : Type} [DecidableEq V]

/-- `migrate_account`: the legacy slot is deleted before the new one is set. -/
def migrateAccount (faults : MigrationFaults) (account : Account) (dryRun : Bool) :
    StoreCall V MigrationStatus := do
  match ← (Store.get faults.get account).outcome with
  | .error err => return .failed err
  | .ok current =>
    match ← (Legacy.read faults.read account).outcome with
    | .error err => return .failed err
    | .ok legacyValue =>
      match current, legacyValue with
      | some cur, some leg => if cur ≠ leg then return .conflict else return .alreadyPresent
      | some _, none => return .alreadyPresent
      | none, none => return .notFound
      | none, some value =>
        if dryRun then return .migrated
        match ← (Legacy.delete faults.delete account).outcome with
        | .error err => return .failed ("legacy delete: " ++ err)
        | .ok () =>
          match ← (Store.set faults.set account value).outcome with
          | .ok () => return .migrated
          | .error err => return .failed err

/-- The accounts of a migration one after another. -/
def migrateAccounts (faults : Account → MigrationFaults) (dryRun : Bool) :
    List Account → StoreCall V (List MigrationEntry)
  | [] => return []
  | account :: rest => do
    let status ← migrateAccount (faults account) account dryRun
    return ⟨account, status⟩ :: (← migrateAccounts faults dryRun rest)

/-- `migrate_ca_with_stores`. -/
def migrateCaWithStores (faults : Account → MigrationFaults) (dryRun : Bool) :
    StoreCall V (List MigrationEntry) :=
  migrateAccounts faults dryRun migrationAccounts

/-- `run_ca` for `ca migrate`. -/
def caMigrate (faults : Account → MigrationFaults) (dryRun : Bool) : StoreCall V Unit := do
  let entries ← migrateCaWithStores faults dryRun
  if !caReady entries then
    Call.fail "CA certificate or key still missing after migration; run `brewmble ca init`"

end Migration

inductive LeafKind where
  | daemon
  | client
  deriving DecidableEq, Repr

/-- A generated text. The number is that of the generator's call, which produced
a certificate and its key together. -/
inductive Pem where
  | caCert (call : Nat)
  | caKey (call : Nat)
  | leafCert (call : Nat) (cn : String) (kind : LeafKind) (signer : Pem)
  | leafKey (call : Nat)
  deriving DecidableEq, Repr

/-- `generate_ca`. -/
def generateCa (fault : Fault) : StoreCall Pem (Pem × Pem) := do
  Call.attempt fault
  let call ← Call.read World.calls
  Call.modify fun world => { world with calls := call + 1 }
  return (.caCert call, .caKey call)

/-- `generate_leaf` signs with the given key; the CA certificate is not used. -/
def generateLeaf (fault : Fault) (cn : String) (kind : LeafKind) (_caCertPem caKeyPem : Pem) :
    StoreCall Pem (Pem × Pem) := do
  Call.attempt fault
  let call ← Call.read World.calls
  Call.modify fun world => { world with calls := call + 1 }
  return (.leafCert call cn kind caKeyPem, .leafKey call)

structure EnsureFaults where
  getCert : Fault
  getKey : Fault
  generate : Fault
  setCert : Fault
  setKey : Fault
  deriving DecidableEq, Repr

/-- The second half of `ensure_ca_with_store`, reached unless both slots are
occupied. -/
def storeNewCa (faults : EnsureFaults) : StoreCall Pem (Pem × Pem) := do
  let (cert, key) ← generateCa faults.generate
  Store.set faults.setCert .caCert cert
  Store.set faults.setKey .caKey key
  return (cert, key)

/-- `ensure_ca_with_store`. -/
def ensureCaWithStore (faults : EnsureFaults) : StoreCall Pem (Pem × Pem) := do
  let cert ← Store.get faults.getCert .caCert
  let key ← Store.get faults.getKey .caKey
  match cert, key with
  | some cert, some key => return (cert, key)
  | _, _ => storeNewCa faults

structure LeafFaults where
  ensure : EnsureFaults
  generate : Fault
  setCert : Fault
  setKey : Fault
  deriving DecidableEq, Repr

/-- `issue_leaf_with_store`: only a client leaf is stored. -/
def issueLeafWithStore (faults : LeafFaults) (cn : String) (kind : LeafKind) :
    StoreCall Pem (Pem × Pem) := do
  let (caCertPem, caKeyPem) ← ensureCaWithStore faults.ensure
  let (cert, key) ← generateLeaf faults.generate cn kind caCertPem caKeyPem
  if kind = .client then
    Store.set faults.setCert .clientCert cert
    Store.set faults.setKey .clientKey key
  return (cert, key)

structure InitFaults where
  root : Fault
  deleteCert : Fault
  deleteKey : Fault
  ensure : EnsureFaults
  deriving DecidableEq, Repr

/-- A stored certificate is found: its call succeeds and its slot is occupied. -/
def isOk {V : Type} : Except String (Option V) → Bool
  | .ok (some _) => true
  | _ => false

/-- `run_ca` for `ca init`, up to the report on the CA that it returns. Both
deletions of a forced one may fail unnoticed. -/
def caInit (faults : InitFaults) (force : Bool) : StoreCall Pem (Pem × Pem) := do
  if !force then
    if isOk (← (Store.get faults.root .caCert).outcome) then
      Call.fail "cluster CA already exists; use --force to overwrite"
  if force then
    let _ ← (Store.delete faults.deleteCert .caCert).outcome
    let _ ← (Store.delete faults.deleteKey .caKey).outcome
  ensureCaWithStore faults.ensure

structure DaemonFaults where
  /-- The directory cannot be made, or its files exist and are not overwritten. -/
  prepare : Fault
  ensure : EnsureFaults
  leaf : LeafFaults
  write : Fault
  deriving DecidableEq, Repr

/-- `run_cert` for a daemon: the CA is ensured once more before the leaf is issued. -/
def certIssueDaemon (faults : DaemonFaults) (cn : String) : StoreCall Pem (Pem × Pem) := do
  Call.attempt faults.prepare
  let _ ← ensureCaWithStore faults.ensure
  let leaf ← issueLeafWithStore faults.leaf cn .daemon
  Call.attempt faults.write
  return leaf

structure ClientFaults where
  present : Fault
  leaf : LeafFaults
  deriving DecidableEq, Repr

/-- `run_cert` for a client of this host. -/
def certIssueClient (faults : ClientFaults) (hostname : String) (force : Bool) :
    StoreCall Pem (Pem × Pem) := do
  if !force then
    if isOk (← (Store.get faults.present .clientCert).outcome) then
      Call.fail "client certificate already exists; use --force to re-issue"
  issueLeafWithStore faults.leaf hostname .client

end Brewmble.Credentials
