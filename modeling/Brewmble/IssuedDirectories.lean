import Brewmble.CredentialPairs

/-!
# Certificates that daemons are given

A certificate that is issued for a daemon is written into a directory beside its key and
the certificate of the CA; the daemon reads the three files from there. The CA and the
client's own certificate stay in the credential store of the command line tool.

A command that fails leaves what it has done: a CA that was made on the way, and files
of which some are new, some old, and one may be torn. Up to its directory, issuing to a
daemon is the operation on the stores that was modelled before.

On a connection both sides present a leaf with its usage, and each checks the other's by
its own root. Here a root vouches for the leaves that its key has signed. The times in
the certificates, the pinned fingerprints and what a daemon has read before its directory
changes are not modelled.
-/

namespace Brewmble.IssuedDirectories

open Credentials CredentialSteps CredentialPairs Execution Fallible PairedSlots

/-- A file of an output directory. -/
inductive DirectoryFile where
  | ca
  | cert
  | key
  deriving DecidableEq, Repr

def DirectoryFile.name : DirectoryFile → String
  | .ca => "ca.pem"
  | .cert => "daemon.pem"
  | .key => "daemon-key.pem"

/-- What is found in place of a file. -/
inductive Written where
  | missing
  /-- What a failed write has left of a file that it had opened. -/
  | torn
  | whole (pem : Pem)
  deriving DecidableEq, Repr

abbrev Directory := DirectoryFile → Written

/-- One of the three files exists. -/
def Directory.occupied (directory : Directory) : Bool :=
  directory .ca ≠ .missing || directory .cert ≠ .missing || directory .key ≠ .missing

/-- How a write fails. -/
structure WriteFault where
  err : String
  /-- The file had been opened before, and so emptied. -/
  opened : Bool
  deriving DecidableEq, Repr

/-- The credential stores and the output directories by their paths, with the permissions
of the key file in each. -/
structure Site where
  world : World Pem
  directories : String → Directory
  keyModes : String → Nat

/-- A call on a site, which may fail with a text. -/
abbrev SiteCall (Value : Type) := Call String Site Value

def onStores {Value : Type} (call : StoreCall Pem Value) : SiteCall Value := fun site =>
  ((call site.world).1, { site with world := (call site.world).2 })

/-- A key file that did not exist is created with these permissions. -/
def Site.put (created : Nat) (outDir : String) (file : DirectoryFile) (written : Written) (site : Site) :
    Site :=
  { site with
    directories := Function.update site.directories outDir
      (Function.update (site.directories outDir) file written)
    keyModes :=
      if file = .key ∧ site.directories outDir .key = .missing then
        Function.update site.keyModes outDir created
      else site.keyModes }

/-- `std::fs::write`. -/
def writeFile (created : Nat) (outDir : String) (file : DirectoryFile) (pem : Pem) :
    Option WriteFault → SiteCall Unit
  | none => Call.modify fun site => site.put created outDir file (.whole pem)
  | some fault => do
    if fault.opened then Call.modify fun site => site.put created outDir file .torn
    Call.fail fault.err

structure IssueFaults where
  createDir : Fault
  ensure : EnsureFaults
  leaf : LeafFaults
  write : DirectoryFile → Option WriteFault
  permissions : Fault
  /-- The permissions of a file that is created. -/
  created : Nat

/-- The writes of `run_cert` for a daemon, and then the permissions of the key. -/
def writeFiles (faults : IssueFaults) (outDir : String) (caCert cert key : Pem) : SiteCall Unit := do
  writeFile faults.created outDir .ca caCert (faults.write .ca)
  writeFile faults.created outDir .cert cert (faults.write .cert)
  writeFile faults.created outDir .key key (faults.write .key)
  Call.attempt faults.permissions
  Call.modify fun site => { site with keyModes := Function.update site.keyModes outDir 0o600 }

/-- The calls on the stores, and the writes after them. -/
def issueFiles (faults : IssueFaults) (cn outDir : String) : SiteCall (Pem × Pem) := do
  let (caCert, _caKey) ← onStores (ensureCaWithStore faults.ensure)
  let (cert, key) ← onStores (issueLeafWithStore faults.leaf cn .daemon)
  writeFiles faults outDir caCert cert key
  return (cert, key)

/-- `run_cert` for a daemon. -/
def certIssueInto (faults : IssueFaults) (cn outDir : String) (force : Bool) : SiteCall (Pem × Pem) := do
  Call.attempt faults.createDir
  if !force && (← Call.read fun site => (site.directories outDir).occupied) then
    Call.fail "output files already exist; use --force to overwrite"
  issueFiles faults cn outDir

inductive Command where
  | caInit (force : Bool) (faults : InitFaults)
  | issueDaemon (cn outDir : String) (force : Bool) (faults : IssueFaults)
  | issueClient (hostname : String) (force : Bool) (faults : ClientFaults)
  | migrate (dryRun : Bool) (faults : Account → MigrationFaults)

/-- The site a command leaves, whether it succeeds or not. -/
def perform (site : Site) : Command → Site
  | .caInit force faults => { site with world := (caInit faults force site.world).2 }
  | .issueDaemon cn outDir force faults => (certIssueInto faults cn outDir force site).2
  | .issueClient hostname force faults =>
    { site with world := (certIssueClient faults hostname force site.world).2 }
  | .migrate dryRun faults => { site with world := (caMigrate faults dryRun site.world).2 }

/-- Commands are always enabled. -/
def next (site : Site) (command : Command) : Option Site := some (perform site command)

/-- The files of this directory are not written. -/
def Command.spares (outDir : String) : Command → Prop
  | .issueDaemon _ other _ _ => other ≠ outDir
  | _ => True

/-- No certificate is issued to the client. -/
def Command.sparesClient : Command → Prop
  | .issueClient _ _ _ => False
  | _ => True

/-- Why issuing stops before the stores are asked. -/
def prepareFault (faults : IssueFaults) (outDir : String) (force : Bool) (site : Site) : Fault :=
  match faults.createDir with
  | some err => some err
  | none =>
    if !force && (site.directories outDir).occupied then
      some "output files already exist; use --force to overwrite"
    else none

/-- A command as an operation on the stores. -/
def Command.operation (site : Site) : Command → Operation
  | .caInit force faults => .caInit force faults
  | .issueDaemon cn outDir force faults =>
    .issueDaemon cn ⟨prepareFault faults outDir force site, faults.ensure, faults.leaf, none⟩
  | .issueClient hostname force faults => .issueClient hostname force faults
  | .migrate dryRun faults => .migrate dryRun faults

/-- The command keeps the pairs in the stores. -/
def Keeps (site : Site) (command : Command) : Prop := KeepsPairs site.world (command.operation site)

instance (site : Site) (command : Command) : Decidable (Keeps site command) :=
  inferInstanceAs (Decidable (KeepsPairs ..))

section Issuing

variable {outDir : String} {site : Site}

/-- Nothing is changed outside of the directory. -/
structure WritesOnly (outDir : String) (before after : Site) : Prop where
  world : after.world = before.world
  others : ∀ other, other ≠ outDir → after.directories other = before.directories other ∧
    after.keyModes other = before.keyModes other

theorem WritesOnly.trans {before middle after : Site} (first : WritesOnly outDir before middle)
    (second : WritesOnly outDir middle after) : WritesOnly outDir before after where
  world := second.world.trans first.world
  others other different :=
    ⟨(second.others other different).1.trans (first.others other different).1,
      (second.others other different).2.trans (first.others other different).2⟩

/-- The call changes nothing outside of the directory. -/
def StaysIn (outDir : String) {Value : Type} (call : SiteCall Value) : Prop :=
  ∀ site, WritesOnly outDir site (call site).2

theorem staysIn_bind {Value Next : Type} {first : SiteCall Value} {next : Value → SiteCall Next}
    (stays : StaysIn outDir first) (continues : ∀ value, StaysIn outDir (next value)) :
    StaysIn outDir (first >>= next) := by
  intro site
  have before := stays site
  rw [bind_apply]
  cases run : first site with
  | mk result reached =>
  rw [run] at before
  cases result with
  | error err => exact before
  | ok value => exact before.trans (continues value reached)

theorem attempt_stays (fault : Fault) : StaysIn outDir (Call.attempt fault) := by
  intro site
  cases fault <;> exact ⟨rfl, fun _ _ => ⟨rfl, rfl⟩⟩

theorem restrict_stays :
    StaysIn outDir (Call.modify fun site => { site with keyModes := Function.update site.keyModes outDir 0o600 }) :=
  fun _ => ⟨rfl, fun _ different => ⟨rfl, Function.update_of_ne different ..⟩⟩

theorem put_stays (created : Nat) (file : DirectoryFile) (written : Written) :
    StaysIn outDir (Call.modify fun site => site.put created outDir file written) := by
  intro site
  refine ⟨rfl, fun other different => ⟨Function.update_of_ne different .., ?_⟩⟩
  simp only [modify_apply, Site.put]
  split
  · exact Function.update_of_ne different ..
  · rfl

theorem writeFile_stays (created : Nat) (file : DirectoryFile) (pem : Pem) (fault : Option WriteFault) :
    StaysIn outDir (writeFile created outDir file pem fault) := by
  cases fault with
  | none => exact put_stays created file (.whole pem)
  | some fault =>
    obtain ⟨err, opened⟩ := fault
    cases opened with
    | false => exact fun _ => ⟨rfl, fun _ _ => ⟨rfl, rfl⟩⟩
    | true => exact fun site => put_stays created file .torn site

theorem writeFiles_stays (faults : IssueFaults) (caCert cert key : Pem) :
    StaysIn outDir (writeFiles faults outDir caCert cert key) :=
  staysIn_bind (writeFile_stays _ _ _ _) fun _ => staysIn_bind (writeFile_stays _ _ _ _) fun _ =>
    staysIn_bind (writeFile_stays _ _ _ _) fun _ => staysIn_bind (attempt_stays _) fun _ => restrict_stays

/-- The directory after all three writes. -/
def issuedDirectory (caCert cert key : Pem) : Directory
  | .ca => .whole caCert
  | .cert => .whole cert
  | .key => .whole key

theorem put_three (created : Nat) (caCert cert key : Pem) :
    (((site.put created outDir .ca (.whole caCert)).put created outDir .cert (.whole cert)).put created
      outDir .key (.whole key)).directories outDir = issuedDirectory caCert cert key := by
  funext file
  cases file <;> simp [Site.put, issuedDirectory, Function.update]

/-- What issuing to a daemon changes: the stores as the operation on them does, and
beside them this directory only, which holds the three texts if the command succeeds. -/
structure Issued (faults : IssueFaults) (cn outDir : String) (force : Bool) (before : Site)
    (result : Except String (Pem × Pem) × Site) : Prop where
  world : result.2.world = (certIssueDaemon
    ⟨prepareFault faults outDir force before, faults.ensure, faults.leaf, none⟩ cn before.world).2
  others : ∀ other, other ≠ outDir → result.2.directories other = before.directories other ∧
    result.2.keyModes other = before.keyModes other
  written : ∀ cert key, result.1 = .ok (cert, key) → ∃ caCert caKey ensured,
    ensureCaWithStore faults.ensure before.world = (.ok (caCert, caKey), ensured) ∧
    issueLeafWithStore faults.leaf cn .daemon ensured = (.ok (cert, key), result.2.world) ∧
    result.2.directories outDir = issuedDirectory caCert cert key ∧ result.2.keyModes outDir = 0o600

/-- Writes that all succeed leave the three texts, and a key that only its owner may read. -/
theorem writeFiles_ok {faults : IssueFaults} {caCert cert key : Pem}
    (written : (writeFiles faults outDir caCert cert key site).1 = .ok ()) :
    (writeFiles faults outDir caCert cert key site).2.directories outDir = issuedDirectory caCert cert key ∧
      (writeFiles faults outDir caCert cert key site).2.keyModes outDir = 0o600 := by
  obtain ⟨createDir, ensure, leaf, write, permissions, created⟩ := faults
  simp only [writeFiles, bind_apply] at written ⊢
  cases first : write .ca with
  | some fault => cases opened : fault.opened <;> simp [writeFile, first, opened] at written
  | none =>
    cases second : write .cert with
    | some fault => cases opened : fault.opened <;> simp [writeFile, first, second, opened] at written
    | none =>
      cases third : write .key with
      | some fault =>
        cases opened : fault.opened <;> simp [writeFile, first, second, third, opened] at written
      | none =>
        cases permissions with
        | some err => simp [writeFile, first, second, third] at written
        | none => exact ⟨put_three created caCert cert key, Function.update_self ..⟩

/-- Issuing to a daemon stops before the stores are asked, or goes on to both calls on them. -/
theorem issue_run (faults : IssueFaults) (cn : String) (force : Bool) :
    certIssueInto faults cn outDir force site =
      match prepareFault faults outDir force site with
      | some err => (.error err, site)
      | none => issueFiles faults cn outDir site := by
  obtain ⟨createDir, ensure, leaf, write, permissions, created⟩ := faults
  cases createDir with
  | some err => rfl
  | none =>
    cases force <;> cases occupied : (site.directories outDir).occupied <;>
      simp [certIssueInto, prepareFault, occupied]

theorem issued (faults : IssueFaults) (cn : String) (force : Bool) :
    Issued faults cn outDir force site (certIssueInto faults cn outDir force site) := by
  rw [issue_run]
  cases prepare : prepareFault faults outDir force site with
  | some err =>
    refine ⟨?_, fun _ _ => ⟨rfl, rfl⟩, ?_⟩
    · rw [prepare]
      rfl
    · rintro cert key ⟨⟩
  | none =>
    simp only [issueFiles, bind_apply, onStores]
    cases ensured : ensureCaWithStore faults.ensure site.world with
    | mk result middle =>
    cases result with
    | error err =>
      refine ⟨?_, fun _ _ => ⟨rfl, rfl⟩, ?_⟩
      · simp [certIssueDaemon, prepare, ensured]
      · rintro cert key ⟨⟩
    | ok pair =>
      obtain ⟨caCert, caKey⟩ := pair
      simp only
      cases leaf : issueLeafWithStore faults.leaf cn .daemon middle with
      | mk result after =>
      have world : (certIssueDaemon ⟨prepareFault faults outDir force site, faults.ensure, faults.leaf, none⟩
          cn site.world).2 = after := by
        cases result <;> simp [certIssueDaemon, prepare, ensured, leaf]
      cases result with
      | error err =>
        refine ⟨world.symm, fun _ _ => ⟨rfl, rfl⟩, ?_⟩
        rintro cert key ⟨⟩
      | ok pair =>
        obtain ⟨cert, key⟩ := pair
        have stays : WritesOnly outDir { site with world := after }
            (writeFiles faults outDir caCert cert key { site with world := after }).2 :=
          writeFiles_stays faults caCert cert key _
        have whole (written : (writeFiles faults outDir caCert cert key { site with world := after }).1 = .ok ()) :=
          writeFiles_ok written
        simp only
        cases writes : writeFiles faults outDir caCert cert key { site with world := after } with
        | mk result written =>
        rw [writes] at stays whole
        cases result with
        | error err =>
          refine ⟨stays.world.trans world.symm, stays.others, ?_⟩
          rintro cert key ⟨⟩
        | ok _ =>
          refine ⟨stays.world.trans world.symm, stays.others, ?_⟩
          rintro _ _ ⟨⟩
          have same : written.world = after := stays.world
          exact ⟨caCert, caKey, middle, ensured, same ▸ leaf, whole rfl⟩

/-- On the stores, each command is the operation that it stands for. -/
theorem perform_world (command : Command) :
    (perform site command).world = CredentialPairs.perform site.world (command.operation site) := by
  cases command with
  | issueDaemon cn outDir force faults => exact (issued faults cn force).world
  | caInit force faults => rfl
  | issueClient hostname force faults => rfl
  | migrate dryRun faults => rfl

/-- A directory is as it was after every command that spares it. -/
theorem perform_spares {command : Command} (spares : command.spares outDir) :
    (perform site command).directories outDir = site.directories outDir ∧
      (perform site command).keyModes outDir = site.keyModes outDir := by
  cases command with
  | issueDaemon cn other force faults => exact (issued faults cn force).others outDir (Ne.symm spares)
  | caInit force faults => exact ⟨rfl, rfl⟩
  | issueClient hostname force faults => exact ⟨rfl, rfl⟩
  | migrate dryRun faults => exact ⟨rfl, rfl⟩

end Issuing

section Connecting

/-- A root vouches for leaves of a kind that its key has signed. -/
def vouches (kind : LeafKind) : Pem → Pem → Bool
  | .caCert call, .leafCert _ _ issued (.caKey signer) => issued = kind && signer = call
  | _, _ => false

/-- The root and the leaf that the daemon of a directory loads: all three files are there,
and the TLS library finds that the key belongs to the leaf. -/
def served (directory : Directory) : Option (Pem × Pem) :=
  match directory .ca, directory .cert, directory .key with
  | .whole root, .whole cert, .whole key => if SameLeaf cert key then some (root, cert) else none
  | _, _, _ => none

/-- The root and the leaf that `build_client` gives to the TLS library. -/
def identity (world : World Pem) : Option (Pem × Pem) :=
  match world.store .caCert, world.store .clientCert, world.store .clientKey with
  | some root, some cert, some key => if SameLeaf cert key then some (root, cert) else none
  | _, _, _ => none

/-- A connection of the client to the daemon of a directory comes about: each side vouches
for the other's leaf. -/
def connects (outDir : String) (site : Site) : Bool :=
  match served (site.directories outDir), identity site.world with
  | some (daemonRoot, daemonLeaf), some (clientRoot, clientLeaf) =>
    vouches .daemon clientRoot daemonLeaf && vouches .client daemonRoot clientLeaf
  | _, _ => false

end Connecting

end Brewmble.IssuedDirectories
