import Brewmble.IssuedDirectories

/-!
# How long a daemon and the client trust each other

What is issued belongs to the CA that is stored at that time. So a directory and a client
certificate that have not been issued anew connect exactly while the stored CA certificate
is still the one that both were issued under.

A CA certificate that has been replaced does not come back. New ones have numbers of their
own, and the legacy store, from which a migration may fill an empty slot, never holds the
certificate that is stored: it has given it away. A replacement is therefore final for all
that was issued before, as long as the commands up to the issue have kept the stored pairs
together. Without this, a certificate may be issued with a key that does not belong to the
stored certificate, and a later command may bring the key's own certificate into the store.
-/

namespace Brewmble.CaRotation

open CredentialPairs hiding next perform
open Credentials CredentialSteps Execution IssuedDirectories Migration PairedSlots

section Roots

/-- Where the stored CA certificate comes from: it was stored, it is new, or it has been
taken out of the legacy store. -/
structure RootChanges (before after : World Pem) : Prop where
  origin : ∀ root, after.store .caCert = some root →
    before.store .caCert = some root ∨ before.calls ≤ callOf root ∨
      before.legacy .caCert = some root ∧ after.legacy .caCert = none
  legacy : ∀ root, after.legacy .caCert = some root → before.legacy .caCert = some root
  calls : before.calls ≤ after.calls

variable {before middle after world : World Pem} {root : Pem}

theorem RootChanges.trans (first : RootChanges before middle) (second : RootChanges middle after) :
    RootChanges before after where
  origin root stored := by
    obtain kept | new | ⟨given, emptied⟩ := second.origin root stored
    · obtain kept | new | ⟨given, emptied⟩ := first.origin root kept
      · exact .inl kept
      · exact .inr (.inl new)
      · refine .inr (.inr ⟨given, ?_⟩)
        cases left : after.legacy .caCert with
        | none => rfl
        | some other => exact absurd (second.legacy other left) (by simp [emptied])
    · exact .inr (.inl (Nat.le_trans first.calls new))
    · exact .inr (.inr ⟨first.legacy root given, emptied⟩)
  legacy root stored := first.legacy root (second.legacy root stored)
  calls := Nat.le_trans first.calls second.calls

/-- Nothing but a slot that may be emptied changes. -/
theorem root_kept (store : after.store .caCert = before.store .caCert ∨ after.store .caCert = none)
    (legacy : after.legacy = before.legacy) (calls : before.calls ≤ after.calls) :
    RootChanges before after where
  origin root stored := by
    obtain same | empty := store
    · exact .inl (same ▸ stored)
    · rw [empty] at stored
      cases stored
  legacy root stored := legacy ▸ stored
  calls := calls

theorem ensure_root (faults : EnsureFaults) : RootChanges world (ensureCaWithStore faults world).2 := by
  have law := ca_ensured faults world
  have slot : (ensureCaWithStore faults world).2.store .caCert = _ := congrArg Slots.left law.ca
  have calls : world.calls ≤ (ensureCaWithStore faults world).2.calls := by
    rw [law.calls]
    exact Nat.le_add_right _ _
  refine ⟨?_, fun root stored => law.legacy ▸ stored, calls⟩
  intro root stored
  rw [slot] at stored
  split at stored
  · unfold Slots.write at stored
    split at stored
    · exact .inl stored
    · split at stored <;> exact .inr (.inl (Option.some.inj stored ▸ Nat.le_refl _))
  · exact .inl stored

theorem leaf_root (faults : LeafFaults) (cn : String) (kind : LeafKind) :
    RootChanges world (issueLeafWithStore faults cn kind world).2 := by
  have law := leaf_issued faults cn kind world
  refine (ensure_root faults.ensure).trans (root_kept (.inl ?_) law.legacy law.calls)
  exact congrArg Slots.left law.ca

theorem cleared_root (faults : InitFaults) : RootChanges world (cleared faults world) := by
  obtain ⟨ca, _, legacy, calls⟩ := cleared_slots faults world
  refine root_kept ?_ legacy (Nat.le_of_eq calls.symm)
  have slot : (cleared faults world).store .caCert = _ := congrArg Slots.left ca
  rw [slot]
  cases faults.deleteCert <;> simp [Slots.erase, caSlots]

theorem migrate_root (faults : Account → MigrationFaults) (dryRun : Bool) :
    RootChanges world (caMigrate faults dryRun world).2 := by
  obtain ⟨entries, after, returned, calls, migrated⟩ := ca_migrated faults dryRun world
  have same : (caMigrate faults dryRun world).2 = after := by
    cases ready : caReady entries <;> simp [caMigrate, returned, ready]
  rw [same]
  have law := migrated .caCert
  refine ⟨?_, ?_, Nat.le_of_eq calls.symm⟩
  · intro root stored
    rw [law.store] at stored
    cases held : world.store .caCert with
    | some cur =>
      rw [held] at stored
      exact .inl stored
    | none =>
      rw [held, Option.none_or] at stored
      obtain ⟨moved, given⟩ := Option.ite_none_right_eq_some.mp stored
      have takes : takes (faults .caCert) dryRun = true := by
        simp only [moves, Bool.and_eq_true] at moved
        exact moved.1
      exact .inr (.inr ⟨given, by rw [law.legacy, if_pos ⟨held, takes⟩]⟩)
  · intro root stored
    rw [law.legacy] at stored
    exact (Option.ite_none_left_eq_some.mp stored).2

/-- Each command changes the stored CA certificate in these ways only. -/
theorem perform_root (operation : Operation) : RootChanges world (CredentialPairs.perform world operation) := by
  have unchanged : RootChanges world world := root_kept (.inl rfl) rfl (Nat.le_refl _)
  cases operation with
  | caInit force faults =>
    simp only [CredentialPairs.perform, init_world, initStart]
    cases force with
    | true => exact (cleared_root faults).trans (ensure_root faults.ensure)
    | false =>
      cases rootFound faults world with
      | true => exact unchanged
      | false => exact ensure_root faults.ensure
  | issueDaemon cn faults =>
    simp only [CredentialPairs.perform, daemon_world]
    split
    · exact unchanged
    · split
      · exact (ensure_root faults.ensure).trans (leaf_root faults.leaf cn .daemon)
      · exact ensure_root faults.ensure
  | issueClient hostname force faults =>
    simp only [CredentialPairs.perform, client_world]
    split
    · exact unchanged
    · exact leaf_root faults.leaf hostname .client
  | migrate dryRun faults => exact migrate_root faults dryRun

/-- The stored CA certificate is not in the legacy store as well. -/
def Sole (world : World Pem) : Prop :=
  ∀ root, world.store .caCert = some root → world.legacy .caCert ≠ some root

theorem sole_after (supported : Supported before) (sole : Sole before) (changes : RootChanges before after) :
    Sole after := by
  intro root stored other
  have given := changes.legacy root other
  obtain kept | new | ⟨_, emptied⟩ := changes.origin root stored
  · exact sole root kept given
  · have earlier : callOf root < before.calls := supported.legacyEarlier.ca.1 root given
    omega
  · rw [emptied] at other
    cases other

end Roots

section Runs

variable {start site reached issued final : Site} {commands later : List Command} {outDir : String}

/-- What holds in every site that is reached from the start. -/
structure Reached (site : Site) : Prop where
  supported : Supported site.world
  sole : Sole site.world

theorem step_reached {command : Command} (before : Reached site) (step : next site command = some reached) :
    Reached reached := by
  obtain rfl : perform site command = reached := Option.some.inj step
  constructor
  · rw [perform_world]
    exact step_supported _ before.supported
  · rw [perform_world]
    exact sole_after before.supported before.sole (perform_root _)

theorem run_reached (before : Reached site) (completed : run next site commands = some final) :
    Reached final :=
  run_preserves next Reached (fun _ _ _ before step => step_reached before step) before completed

theorem start_reached (begins : Start start.world) : Reached start where
  supported := (start_supported begins).1
  sole := by
    intro root stored
    rw [begins.empty] at stored
    cases stored

/-- Commands that keep the pairs lead to sites with matching pairs. -/
theorem run_paired (begins : Start start.world) (completed : run next start commands = some site)
    (keeps : Guarded next Keeps start commands) : Paired site.world.store := by
  refine guarded_preserves next Keeps Reached (fun site => Paired site.world.store)
    (fun _ _ _ before step => step_reached before step) ?_ (start_reached begins)
    (start_supported begins).2 keeps completed
  intro site command reached before paired keeps step
  obtain rfl : perform site command = reached := Option.some.inj step
  rw [perform_world]
  exact (step_paired_iff _ before.supported paired).mpr keeps

/-- A directory is as it was after a run that spares it. -/
theorem run_spares (completed : run next issued later = some final)
    (spares : ∀ command ∈ later, command.spares outDir) :
    final.directories outDir = issued.directories outDir ∧ final.keyModes outDir = issued.keyModes outDir := by
  refine run_preserves_of_all next (Command.spares outDir)
    (fun site => site.directories outDir = issued.directories outDir ∧
      site.keyModes outDir = issued.keyModes outDir) ?_ ⟨rfl, rfl⟩ spares completed
  intro site command reached spares same step
  obtain rfl : perform site command = reached := Option.some.inj step
  exact ⟨(perform_spares spares).1.trans same.1, (perform_spares spares).2.trans same.2⟩

end Runs

section Issues

variable {site : Site} {outDir cn hostname : String} {force : Bool}

/-- The files of a directory that was written under the CA of this call. -/
def issuedUnder (ca call : Nat) (cn : String) : Directory :=
  issuedDirectory (.caCert ca) (.leafCert call cn .daemon (.caKey ca)) (.leafKey call)

/-- A client certificate and its key, issued under the CA of this call. -/
def clientUnder (ca call : Nat) (hostname : String) : Slots Pem Pem :=
  ⟨some (.leafCert call hostname .client (.caKey ca)), some (.leafKey call)⟩

/-- A leaf that is returned comes with its key, signed by the CA that is then stored. -/
theorem leaf_under {faults : LeafFaults} {kind : LeafKind} {world : World Pem} (supported : Supported world)
    (paired : Paired world.store) {cert key : Pem}
    (returned : (issueLeafWithStore faults cn kind world).1 = .ok (cert, key)) :
    ∃ ca call, (issueLeafWithStore faults cn kind world).2.store .caCert = some (.caCert ca) ∧
      cert = .leafCert call cn kind (.caKey ca) ∧ key = .leafKey call ∧
      (kind = .client → clientSlots (issueLeafWithStore faults cn kind world).2.store = ⟨some cert, some key⟩) := by
  obtain ⟨ca, call, stored, signed⟩ := leaf_signed cn supported paired returned
  refine ⟨ca, call, stored, signed, ?_⟩
  cases ensured : ensureCaWithStore faults.ensure world with
  | mk result middle =>
  cases result with
  | error err => simp [issueLeafWithStore, ensured] at returned
  | ok pair =>
    obtain ⟨caCert, caKey⟩ := pair
    rw [leaf_run ensured] at returned ⊢
    obtain ⟨ensure, generate, setCert, setKey⟩ := faults
    cases generate with
    | some err => cases returned
    | none =>
      cases kind with
      | daemon =>
        obtain ⟨rfl, rfl⟩ := Prod.mk.inj (Except.ok.inj returned)
        obtain ⟨rfl, -⟩ := Pem.leafCert.inj signed
        exact ⟨rfl, fun other => absurd other (by decide)⟩
      | client =>
        obtain ⟨rfl, rfl, same⟩ : setCert = none ∧ setKey = none ∧ _ := pairReturned_ok.mp returned
        obtain ⟨rfl, rfl⟩ := Prod.mk.inj same
        obtain ⟨rfl, -⟩ := Pem.leafCert.inj signed
        exact ⟨rfl, fun _ => pairStored_slots (by decide)⟩

/-- A command that has issued into a directory has issued under the CA that is then stored. -/
theorem issued_under {faults : IssueFaults} {pair : Pem × Pem} (reached : Reached site)
    (paired : Paired site.world.store) (succeeds : (certIssueInto faults cn outDir force site).1 = .ok pair) :
    ∃ ca call, (certIssueInto faults cn outDir force site).2.world.store .caCert = some (.caCert ca) ∧
      (certIssueInto faults cn outDir force site).2.directories outDir = issuedUnder ca call cn ∧
      (certIssueInto faults cn outDir force site).2.keyModes outDir = 0o600 := by
  obtain ⟨cert, key⟩ := pair
  obtain ⟨caCert, caKey, ensured, ensures, leaf, directory, mode⟩ := (issued faults cn force).written cert key succeeds
  have law := ca_ensured faults.ensure site.world
  have isEnsured := law.returns.mpr ⟨_, congrArg Prod.fst ensures⟩
  have keeps := (ensure_paired_iff reached.supported paired).mpr (ensures_keeps isEnsured)
  have supported : Supported (ensureCaWithStore faults.ensure site.world).2 := ensure_supported reached.supported
  have stored := law.returned caCert caKey (congrArg Prod.fst ensures)
  rw [ensures] at keeps supported stored
  obtain ⟨ca, call, root, signed, key, _⟩ := leaf_under supported keeps (congrArg Prod.fst leaf)
  -- the leaf's own ensuring of the CA finds the one that has just been ensured
  have found : generates faults.leaf.ensure ensured = false := ensured_found ensures faults.leaf.ensure
  have same : caSlots (issueLeafWithStore faults.leaf cn .daemon ensured).2.store = caSlots ensured.store := by
    rw [(leaf_issued faults.leaf cn .daemon ensured).ca, (ca_ensured faults.leaf.ensure ensured).ca, found]
    rfl
  have certificate : some caCert = some (.caCert ca) := by
    have slot := congrArg Slots.left (same.trans stored)
    exact slot.symm.trans root
  rw [leaf] at root
  refine ⟨ca, call, root, ?_, mode⟩
  rw [directory, Option.some.inj certificate, signed, key]
  rfl

/-- Issuing to the client stops at a certificate that it finds, or is issuing a leaf. -/
theorem client_run (faults : ClientFaults) (world : World Pem) :
    certIssueClient faults hostname force world =
      if !force && clientFound faults world then
        (.error "client certificate already exists; use --force to re-issue", world)
      else issueLeafWithStore faults.leaf hostname .client world := by
  obtain ⟨present, leaf⟩ := faults
  cases force with
  | true => simp [certIssueClient]
  | false =>
    cases present with
    | some err => simp [certIssueClient, clientFound, isOk]
    | none =>
      cases certificate : world.store .clientCert <;>
        simp [certIssueClient, clientFound, isOk, certificate]

/-- A command that has issued to the client has issued under the CA that is then stored. -/
theorem client_under {faults : ClientFaults} {pair : Pem × Pem} (reached : Reached site)
    (paired : Paired site.world.store) (succeeds : (certIssueClient faults hostname force site.world).1 = .ok pair) :
    ∃ ca call, (certIssueClient faults hostname force site.world).2.store .caCert = some (.caCert ca) ∧
      clientSlots (certIssueClient faults hostname force site.world).2.store = clientUnder ca call hostname := by
  obtain ⟨cert, key⟩ := pair
  rw [client_run] at succeeds ⊢
  split at succeeds
  · cases succeeds
  · rename_i proceeds
    rw [if_neg proceeds]
    obtain ⟨ca, call, root, rfl, rfl, slots⟩ := leaf_under reached.supported paired succeeds
    exact ⟨ca, call, root, slots rfl⟩

/-- A client certificate with its key stays in the store, unless a client certificate is issued. -/
theorem client_kept {command : Command} {cert key : Pem} (spares : command.sparesClient)
    (held : clientSlots site.world.store = ⟨some cert, some key⟩) :
    clientSlots (perform site command).world.store = ⟨some cert, some key⟩ := by
  rw [perform_world]
  cases command with
  | caInit force faults =>
    simp only [Command.operation, CredentialPairs.perform, init_world, initStart]
    cases force with
    | true =>
      exact (ca_ensured faults.ensure _).client.trans ((cleared_slots faults site.world).2.1.trans held)
    | false =>
      cases rootFound faults site.world with
      | true => exact held
      | false => exact (ca_ensured faults.ensure _).client.trans held
  | issueDaemon cn other force faults =>
    simp only [Command.operation, CredentialPairs.perform, daemon_world]
    have ensured := (ca_ensured faults.ensure site.world).client
    split
    · exact held
    · split
      · have law := leaf_issued faults.leaf cn .daemon (ensureCaWithStore faults.ensure site.world).2
        have unstored := law.unstored (by simp [storesLeaf])
        exact unstored.trans ((ca_ensured faults.leaf.ensure _).client.trans (ensured.trans held))
      · exact ensured.trans held
  | issueClient hostname force faults => exact absurd spares id
  | migrate dryRun faults =>
    refine (pairs_migrated faults dryRun site.world).client.trans ?_
    rw [held]
    rfl

end Issues

section Connections

variable {start issued clientIssued site final : Site} {outDir : String}

/-- Commands that keep the pairs have led from the start to a successful issue into the directory,
and later ones have not written into it. -/
def IssuedInto (start : Site) (outDir : String) (issued final : Site) : Prop :=
  ∃ commands site cn force faults pair later,
    run next start commands = some site ∧ Guarded next Keeps start commands ∧
    (certIssueInto faults cn outDir force site).1 = .ok pair ∧
    perform site (.issueDaemon cn outDir force faults) = issued ∧
    run next issued later = some final ∧ ∀ command ∈ later, command.spares outDir

/-- Commands that keep the pairs have led from the start to a successful issue to the client,
and later ones have not issued to it. -/
def IssuedClient (start issued final : Site) : Prop :=
  ∃ commands site hostname force faults pair later,
    run next start commands = some site ∧ Guarded next Keeps start commands ∧
    (certIssueClient faults hostname force site.world).1 = .ok pair ∧
    perform site (.issueClient hostname force faults) = issued ∧
    run next issued later = some final ∧ ∀ command ∈ later, command.sparesClient

theorem issuedInto_files (begins : Start start.world) (into : IssuedInto start outDir issued final) :
    ∃ ca call cn, issued.world.store .caCert = some (.caCert ca) ∧
      final.directories outDir = issuedUnder ca call cn ∧ final.keyModes outDir = 0o600 := by
  obtain ⟨commands, site, cn, force, faults, pair, later, led, keeps, succeeds, rfl, continues, spares⟩ := into
  have reached : Reached site := run_reached (start_reached begins) led
  obtain ⟨ca, call, root, files, mode⟩ := issued_under reached (run_paired begins led keeps) succeeds
  obtain ⟨kept, keptMode⟩ := run_spares continues spares
  exact ⟨ca, call, cn, root, kept.trans files, keptMode.trans mode⟩

theorem run_client {later : List Command} {cert key : Pem} (completed : run next issued later = some final)
    (spares : ∀ command ∈ later, command.sparesClient)
    (held : clientSlots issued.world.store = ⟨some cert, some key⟩) :
    clientSlots final.world.store = ⟨some cert, some key⟩ := by
  refine run_preserves_of_all next Command.sparesClient
    (fun site => clientSlots site.world.store = ⟨some cert, some key⟩) ?_ held spares completed
  intro site command reached spares held step
  obtain rfl : perform site command = reached := Option.some.inj step
  exact client_kept spares held

theorem issuedClient_slots (begins : Start start.world) (client : IssuedClient start issued final) :
    ∃ ca call hostname, issued.world.store .caCert = some (.caCert ca) ∧
      clientSlots final.world.store = clientUnder ca call hostname := by
  obtain ⟨commands, site, hostname, force, faults, pair, later, led, keeps, succeeds, rfl, continues, spares⟩ := client
  have reached : Reached site := run_reached (start_reached begins) led
  obtain ⟨ca, call, root, slots⟩ := client_under reached (run_paired begins led keeps) succeeds
  exact ⟨ca, call, hostname, root, run_client continues spares slots⟩

/-- With what was issued under two CAs, a connection comes about exactly when both are the
one whose certificate is stored. -/
theorem connects_under {ca call client clientCall : Nat} {cn hostname : String}
    (files : site.directories outDir = issuedUnder ca call cn)
    (slots : clientSlots site.world.store = clientUnder client clientCall hostname) :
    connects outDir site = true ↔ site.world.store .caCert = some (.caCert ca) ∧ client = ca := by
  have served : served (site.directories outDir) = some (.caCert ca, .leafCert call cn .daemon (.caKey ca)) := by
    rw [files]
    exact if_pos ⟨rfl, rfl⟩
  have cert : site.world.store .clientCert = _ := congrArg Slots.left slots
  have key : site.world.store .clientKey = _ := congrArg Slots.right slots
  have same : SameLeaf (.leafCert clientCall hostname .client (.caKey client)) (.leafKey clientCall) := ⟨rfl, rfl⟩
  unfold connects identity
  rw [served, cert, key]
  cases stored : site.world.store .caCert with
  | none => simp
  | some root =>
    cases root with
    | caCert number =>
      have vouched : ca = number ∧ client = ca ↔ number = ca ∧ client = ca := by
        constructor <;> rintro ⟨rfl, rfl⟩ <;> exact ⟨rfl, rfl⟩
      simpa [clientUnder, same, vouches] using vouched
    | caKey _ => simp [clientUnder, same, vouches]
    | leafCert _ _ _ _ => simp [clientUnder, same, vouches]
    | leafKey _ => simp [clientUnder, same, vouches]

/-- How long daemon and client trust each other. In a site where a directory and the client
have been issued to, and not again since, a connection comes about exactly while the stored
CA certificate is the one that was stored when the directory was issued, and the one that
was stored when the client was issued.

Proof: what is issued is signed by the key of the CA that is stored then, and stays in its
place. Either root vouches for the other leaf where the numbers of the CAs agree. -/
theorem connects_while_ca_stays (begins : Start start.world) (into : IssuedInto start outDir issued final)
    (client : IssuedClient start clientIssued final) :
    connects outDir final = true ↔
      final.world.store .caCert = issued.world.store .caCert ∧
      final.world.store .caCert = clientIssued.world.store .caCert := by
  obtain ⟨ca, call, cn, root, files, _⟩ := issuedInto_files begins into
  obtain ⟨clientCa, clientCall, hostname, clientRoot, slots⟩ := issuedClient_slots begins client
  rw [connects_under files slots, root, clientRoot]
  constructor
  · rintro ⟨stored, rfl⟩
    exact ⟨stored, stored⟩
  · rintro ⟨stored, also⟩
    exact ⟨stored, Pem.caCert.inj (Option.some.inj (also.symm.trans stored))⟩

/-- Nothing is stored or written yet. -/
def emptySite : Site := ⟨emptyWorld, fun _ _ => .missing, fun _ => 0o644⟩

def reliableIssue : IssueFaults := ⟨none, reliable, ⟨reliable, none, none, none⟩, fun _ => none, none, 0o644⟩

def newCa (force : Bool) : Command := .caInit force ⟨none, none, none, reliable⟩

def newDaemon : Command := .issueDaemon "node" "/tls" false reliableIssue

def newClient : Command := .issueClient "laptop" false ⟨none, reliable, none, none, none⟩

/-- Without a failure, the daemon and the client connect once both have their certificates. -/
theorem new_client_connects :
    connects "/tls" (perform (perform (perform emptySite (newCa false)) newDaemon) newClient) = true :=
  (connects_while_ca_stays empty_start
    ⟨[newCa false], _, "node", false, reliableIssue, _, [newClient], rfl, by decide, rfl, rfl, rfl,
      by simp [newClient, Command.spares]⟩
    ⟨[newCa false, newDaemon], _, "laptop", false, ⟨none, reliable, none, none, none⟩, _, [], rfl, by decide,
      rfl, rfl, rfl, by simp⟩).mpr ⟨rfl, rfl⟩

end Connections

end Brewmble.CaRotation
