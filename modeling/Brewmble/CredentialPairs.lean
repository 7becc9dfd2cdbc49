import Brewmble.CredentialSteps
import Brewmble.Execution

/-!
# Stored certificates and keys that belong together

The stored CA certificate and key must come from one generator call, and so must
the stored client certificate and key. Each pair is written by two calls of which
the second may fail, deleted by two calls whose failures are ignored, and
migrated slot by slot.

An operation keeps the pairs exactly when none of its writes leaves a new
certificate beside an old key, and no migration fills half a pair beside a stored
half of another. Sequences of operations that respect this keep both pairs, and
every leaf issued in them is signed by the key of the stored CA certificate.

The legacy values come from generator calls before the ones considered here.
-/

namespace Brewmble.CredentialPairs

open Credentials Fallible PairedSlots Migration CredentialSteps Execution

/-- The generator call that produced a text. -/
def callOf : Pem → Nat
  | .caCert call | .caKey call | .leafCert call _ _ _ | .leafKey call => call

def isLeafCert : Pem → Bool
  | .leafCert _ _ _ _ => true
  | _ => false

/-- A CA certificate and a CA key of the same `generate_ca` call. -/
def SameCa (cert key : Pem) : Prop := cert = .caCert (callOf cert) ∧ key = .caKey (callOf cert)

/-- A leaf certificate and a leaf key of the same `generate_leaf` call. -/
def SameLeaf (cert key : Pem) : Prop := isLeafCert cert = true ∧ key = .leafKey (callOf cert)

instance (cert key : Pem) : Decidable (SameCa cert key) := inferInstanceAs (Decidable (_ ∧ _))

instance (cert key : Pem) : Decidable (SameLeaf cert key) := inferInstanceAs (Decidable (_ ∧ _))

/-- Wherever both slots of a pair are occupied, they belong together. -/
structure Paired (slots : Account → Option Pem) : Prop where
  ca : Matched SameCa (caSlots slots)
  client : Matched SameLeaf (clientSlots slots)

/-- All values in the slots come from generator calls below the bound. -/
structure Earlier (bound : Nat) (slots : Account → Option Pem) : Prop where
  ca : Within (callOf · < bound) (callOf · < bound) (caSlots slots)
  client : Within (callOf · < bound) (callOf · < bound) (clientSlots slots)

/-- What every operation preserves unconditionally: the legacy pairs match, and
no value is numbered ahead of the generator calls. -/
structure Supported (world : World Pem) : Prop where
  legacy : Paired world.legacy
  storeEarlier : Earlier world.calls world.store
  legacyEarlier : Earlier world.calls world.legacy

theorem earlier_weaken {slots : Account → Option Pem} {bound larger : Nat}
    (earlier : Earlier bound slots) (grows : bound ≤ larger) : Earlier larger slots where
  ca := within_weaken earlier.ca (fun _ below => by omega) (fun _ below => by omega)
  client := within_weaken earlier.client (fun _ below => by omega) (fun _ below => by omega)

/-- Ensuring the CA writes no new certificate beside an old key. -/
def EnsureKeeps (faults : EnsureFaults) (world : World Pem) : Prop :=
  generates faults world = true → faults.setCert = none → faults.setKey ≠ none →
    world.store .caKey = none

/-- Issuing a leaf keeps the CA pair and writes no new client certificate beside
an old client key. -/
def LeafKeeps (faults : LeafFaults) (kind : LeafKind) (world : World Pem) : Prop :=
  EnsureKeeps faults.ensure world ∧
    (storesLeaf faults kind world = true → faults.setCert = none → faults.setKey ≠ none →
      world.store .clientKey = none)

/-- A migration puts no half of a pair beside a stored half that it does not
belong to. -/
def FillKeeps (belongs : Pem → Pem → Prop) (fillCert fillKey : Bool) (stored legacy : Slots Pem Pem) :
    Prop :=
  (stored.left = none → fillCert = true → ∀ cert ∈ legacy.left, ∀ key ∈ stored.right,
    belongs cert key) ∧
  (stored.right = none → fillKey = true → ∀ key ∈ legacy.right, ∀ cert ∈ stored.left,
    belongs cert key)

section Ensuring

variable {faults : EnsureFaults} {world : World Pem}

theorem ensure_supported (supported : Supported world) :
    Supported (ensureCaWithStore faults world).2 := by
  have law := ca_ensured faults world
  have grows : world.calls ≤ (ensureCaWithStore faults world).2.calls := by
    rw [law.calls]
    omega
  refine ⟨?_, ⟨?_, ?_⟩, ?_⟩
  · rw [law.legacy]
    exact supported.legacy
  · rw [law.ca]
    split
    · next generated =>
      have newCert : callOf (.caCert world.calls) < (ensureCaWithStore faults world).2.calls := by
        rw [law.calls, if_pos generated]
        exact Nat.lt_succ_self world.calls
      have newKey : callOf (.caKey world.calls) < (ensureCaWithStore faults world).2.calls := newCert
      exact within_write (earlier_weaken supported.storeEarlier grows).ca newCert newKey _ _
    · exact (earlier_weaken supported.storeEarlier grows).ca
  · rw [law.client]
    exact (earlier_weaken supported.storeEarlier grows).client
  · rw [law.legacy]
    exact earlier_weaken supported.legacyEarlier grows

/-- The CA pair stays matched exactly when no new certificate stands beside an old
key. The new certificate belongs to no stored key: its call is a later one. -/
theorem ensure_ca_iff (supported : Supported world) (paired : Paired world.store) :
    Matched SameCa (caSlots (ensureCaWithStore faults world).2.store) ↔
      EnsureKeeps faults world := by
  have law := ca_ensured faults world
  rw [law.ca]
  by_cases generated : generates faults world = true
  · have fresh : ∀ stored ∈ (caSlots world.store).right, ¬ SameCa (.caCert world.calls) stored := by
      rintro stored inSlot ⟨_, rfl⟩
      exact absurd (supported.storeEarlier.ca.2 _ inSlot) (Nat.lt_irrefl world.calls)
    have pair : SameCa (.caCert world.calls) (.caKey world.calls) := ⟨rfl, rfl⟩
    rw [if_pos generated, write_matched_iff paired.ca pair fresh]
    simp [EnsureKeeps, generated, caSlots, Option.isSome_iff_ne_none]
  · rw [if_neg generated]
    simp [EnsureKeeps, generated, paired.ca]

/-- An ensuring that returns a CA has written both halves or neither. -/
theorem ensures_keeps (returns : ensures faults world = true) : EnsureKeeps faults world := by
  intro generated certSet keyFails
  simp only [generates, Bool.and_eq_true, Bool.not_eq_true'] at generated
  simp only [ensures, generated.2, Bool.false_or, Bool.and_eq_true] at returns
  exact absurd (Option.isNone_iff_eq_none.mp returns.2.2) keyFails

/-- Ensuring the CA leaves the client pair alone. -/
theorem ensure_paired_iff (supported : Supported world) (paired : Paired world.store) :
    Paired (ensureCaWithStore faults world).2.store ↔ EnsureKeeps faults world := by
  have law := ca_ensured faults world
  constructor
  · intro after
    exact (ensure_ca_iff supported paired).mp after.ca
  · intro keeps
    exact ⟨(ensure_ca_iff supported paired).mpr keeps, law.client ▸ paired.client⟩

end Ensuring

section Issuing

variable {faults : LeafFaults} {kind : LeafKind} {world : World Pem} (cn : String)

theorem leaf_supported (supported : Supported world) :
    Supported (issueLeafWithStore faults cn kind world).2 := by
  have law := leaf_issued faults cn kind world
  have ensured : Supported (ensureCaWithStore faults.ensure world).2 := ensure_supported supported
  refine ⟨?_, ⟨?_, ?_⟩, ?_⟩
  · rw [law.legacy]
    exact ensured.legacy
  · rw [law.ca]
    exact (earlier_weaken ensured.storeEarlier law.calls).ca
  · cases stores : storesLeaf faults kind world with
    | true =>
      obtain ⟨bound, signer, slots⟩ := law.stored stores
      have newCert : callOf (.leafCert (ensureCaWithStore faults.ensure world).2.calls cn kind
          signer) < (issueLeafWithStore faults cn kind world).2.calls := bound
      have newKey : callOf (.leafKey (ensureCaWithStore faults.ensure world).2.calls) <
          (issueLeafWithStore faults cn kind world).2.calls := bound
      rw [slots]
      exact within_write (earlier_weaken ensured.storeEarlier law.calls).client newCert newKey _ _
    | false =>
      rw [law.unstored stores]
      exact (earlier_weaken ensured.storeEarlier law.calls).client
  · rw [law.legacy]
    exact earlier_weaken ensured.legacyEarlier law.calls

/-- Issuing a leaf keeps both pairs exactly when its ensuring does and no new
client certificate stands beside an old client key. -/
theorem leaf_paired_iff (supported : Supported world) (paired : Paired world.store) :
    Paired (issueLeafWithStore faults cn kind world).2.store ↔ LeafKeeps faults kind world := by
  have law := leaf_issued faults cn kind world
  have ensured : Supported (ensureCaWithStore faults.ensure world).2 := ensure_supported supported
  have clientSame := (ca_ensured faults.ensure world).client
  have clientPaired : Matched SameLeaf
      (clientSlots (ensureCaWithStore faults.ensure world).2.store) := clientSame ▸ paired.client
  have caIff : Matched SameCa (caSlots (issueLeafWithStore faults cn kind world).2.store) ↔
      EnsureKeeps faults.ensure world := by
    rw [law.ca]
    exact ensure_ca_iff supported paired
  have clientIff : Matched SameLeaf
        (clientSlots (issueLeafWithStore faults cn kind world).2.store) ↔
      (storesLeaf faults kind world = true → faults.setCert = none → faults.setKey ≠ none →
        world.store .clientKey = none) := by
    cases stores : storesLeaf faults kind world with
    | true =>
      obtain ⟨_, signer, slots⟩ := law.stored stores
      have pair : SameLeaf (.leafCert (ensureCaWithStore faults.ensure world).2.calls cn kind signer)
          (.leafKey (ensureCaWithStore faults.ensure world).2.calls) := ⟨rfl, rfl⟩
      have fresh : ∀ stored ∈ (clientSlots (ensureCaWithStore faults.ensure world).2.store).right,
          ¬ SameLeaf (.leafCert (ensureCaWithStore faults.ensure world).2.calls cn kind signer)
            stored := by
        rintro stored inSlot ⟨_, rfl⟩
        exact absurd (ensured.storeEarlier.client.2 _ inSlot) (Nat.lt_irrefl _)
      rw [slots, write_matched_iff clientPaired pair fresh, clientSame]
      simp [clientSlots, Option.isSome_iff_ne_none]
    | false =>
      rw [law.unstored stores]
      simp [clientPaired]
  constructor
  · intro after
    exact ⟨caIff.mp after.ca, clientIff.mp after.client⟩
  · rintro ⟨ensureKeeps, writeKeeps⟩
    exact ⟨caIff.mpr ensureKeeps, clientIff.mpr writeKeeps⟩

/-- A leaf that is returned is signed by the key of the stored CA certificate,
provided the stored pair was matched when the leaf was asked for. -/
theorem leaf_signed (supported : Supported world) (paired : Paired world.store) {cert key : Pem}
    (returned : (issueLeafWithStore faults cn kind world).1 = .ok (cert, key)) :
    ∃ ca call, (issueLeafWithStore faults cn kind world).2.store .caCert = some (.caCert ca) ∧
      cert = .leafCert call cn kind (.caKey ca) := by
  have law := leaf_issued faults cn kind world
  obtain ⟨ensured, caCert, caKey, call, stored, signed⟩ := law.returned cert key returned
  have matched := (ensure_ca_iff supported paired).mpr (ensures_keeps ensured)
  rw [stored] at matched
  obtain ⟨certificate, keyText⟩ := matched caCert rfl caKey rfl
  refine ⟨callOf caCert, call, ?_, ?_⟩
  · have slot := congrArg Slots.left (law.ca.trans stored)
    rw [← certificate]
    exact slot
  · rw [signed, ← keyText]

end Issuing

/-- A command on the credentials, with the faults of its calls. -/
inductive Operation where
  | caInit (force : Bool) (faults : InitFaults)
  | issueDaemon (cn : String) (faults : DaemonFaults)
  | issueClient (hostname : String) (force : Bool) (faults : ClientFaults)
  | migrate (dryRun : Bool) (faults : Account → MigrationFaults)

/-- The world a command leaves, whether it succeeds or not. -/
def perform (world : World Pem) : Operation → World Pem
  | .caInit force faults => (caInit faults force world).2
  | .issueDaemon cn faults => (certIssueDaemon faults cn world).2
  | .issueClient hostname force faults => (certIssueClient faults hostname force world).2
  | .migrate dryRun faults => (caMigrate faults dryRun world).2

/-- Commands are always enabled. -/
def next (world : World Pem) (operation : Operation) : Option (World Pem) :=
  some (perform world operation)

/-- The command leaves no new certificate beside an old key, and no migrated half
beside a stored half that it does not belong to. -/
def KeepsPairs (world : World Pem) : Operation → Prop
  | .caInit force faults => ∀ start ∈ initStart faults force world,
      EnsureKeeps faults.ensure start
  | .issueDaemon _ faults => faults.prepare = none → EnsureKeeps faults.ensure world
  | .issueClient _ force faults => (!force && clientFound faults world) = false →
      LeafKeeps faults.leaf .client world
  | .migrate dryRun faults =>
      FillKeeps SameCa (moves (faults .caCert) dryRun) (moves (faults .caKey) dryRun)
        (caSlots world.store) (caSlots world.legacy) ∧
      FillKeeps SameLeaf (moves (faults .clientCert) dryRun) (moves (faults .clientKey) dryRun)
        (clientSlots world.store) (clientSlots world.legacy)

instance decidableEnsureKeeps (faults : EnsureFaults) (world : World Pem) :
    Decidable (EnsureKeeps faults world) :=
  inferInstanceAs (Decidable (_ = true → faults.setCert = none → _ → world.store .caKey = none))

instance decidableLeafKeeps (faults : LeafFaults) (kind : LeafKind) (world : World Pem) :
    Decidable (LeafKeeps faults kind world) :=
  inferInstanceAs (Decidable (EnsureKeeps faults.ensure world ∧
    (_ = true → faults.setCert = none → _ → world.store .clientKey = none)))

instance decidableFillKeeps (belongs : Pem → Pem → Prop) [∀ cert key, Decidable (belongs cert key)]
    (fillCert fillKey : Bool) (stored legacy : Slots Pem Pem) :
    Decidable (FillKeeps belongs fillCert fillKey stored legacy) :=
  inferInstanceAs (Decidable ((_ → _ → ∀ cert ∈ legacy.left, ∀ key ∈ stored.right,
      belongs cert key) ∧ (_ → _ → ∀ key ∈ legacy.right, ∀ cert ∈ stored.left, belongs cert key)))

instance decidableKeepsPairs (world : World Pem) :
    (operation : Operation) → Decidable (KeepsPairs world operation)
  | .caInit force faults =>
    inferInstanceAs (Decidable (∀ start ∈ initStart faults force world, _))
  | .issueDaemon _ faults =>
    inferInstanceAs (Decidable (faults.prepare = none → EnsureKeeps faults.ensure world))
  | .issueClient _ force faults =>
    inferInstanceAs (Decidable ((!force && clientFound faults world) = false → LeafKeeps ..))
  | .migrate _ _ => inferInstanceAs (Decidable (FillKeeps .. ∧ FillKeeps ..))

section Commands

variable {world : World Pem}

/-- The deletions of a forced initialization keep what every operation keeps. -/
theorem cleared_supported (faults : InitFaults) (supported : Supported world) :
    Supported (cleared faults world) := by
  obtain ⟨ca, client, legacy, calls⟩ := cleared_slots faults world
  refine ⟨?_, ⟨?_, ?_⟩, ?_⟩
  · rw [legacy]
    exact supported.legacy
  · rw [ca, calls]
    exact within_erase supported.storeEarlier.ca _ _
  · rw [client, calls]
    exact supported.storeEarlier.client
  · rw [legacy, calls]
    exact supported.legacyEarlier

theorem cleared_paired (faults : InitFaults) (paired : Paired world.store) :
    Paired (cleared faults world).store := by
  obtain ⟨ca, client, _, _⟩ := cleared_slots faults world
  constructor
  · rw [ca]
    exact erase_matched paired.ca _ _
  · rw [client]
    exact paired.client

theorem migrate_supported (faults : Account → MigrationFaults) (dryRun : Bool)
    (supported : Supported world) : Supported (caMigrate faults dryRun world).2 := by
  have law := pairs_migrated faults dryRun world
  refine ⟨⟨?_, ?_⟩, ⟨?_, ?_⟩, ⟨?_, ?_⟩⟩
  · exact matched_of_subset supported.legacy.ca (law.shrinks .caCert) (law.shrinks .caKey)
  · exact matched_of_subset supported.legacy.client (law.shrinks .clientCert)
      (law.shrinks .clientKey)
  · rw [law.ca, law.calls]
    exact within_fill supported.storeEarlier.ca supported.legacyEarlier.ca _ _
  · rw [law.client, law.calls]
    exact within_fill supported.storeEarlier.client supported.legacyEarlier.client _ _
  · rw [law.calls]
    exact ⟨fun pem stored => supported.legacyEarlier.ca.1 pem (law.shrinks .caCert pem stored),
      fun pem stored => supported.legacyEarlier.ca.2 pem (law.shrinks .caKey pem stored)⟩
  · rw [law.calls]
    exact ⟨fun pem stored => supported.legacyEarlier.client.1 pem (law.shrinks .clientCert pem stored),
      fun pem stored => supported.legacyEarlier.client.2 pem (law.shrinks .clientKey pem stored)⟩

/-- Every command keeps the legacy pairs matched and the values numbered below the
generator calls. -/
theorem step_supported (operation : Operation) (supported : Supported world) :
    Supported (perform world operation) := by
  cases operation with
  | caInit force faults =>
    simp only [perform, init_world, initStart]
    cases force with
    | true => exact ensure_supported (cleared_supported faults supported)
    | false =>
      cases rootFound faults world with
      | true => exact supported
      | false => exact ensure_supported supported
  | issueDaemon cn faults =>
    have ensured : Supported (ensureCaWithStore faults.ensure world).2 :=
      ensure_supported supported
    simp only [perform, daemon_world]
    split
    · exact supported
    · split
      · exact leaf_supported cn ensured
      · exact ensured
  | issueClient hostname force faults =>
    simp only [perform, client_world]
    split
    · exact supported
    · exact leaf_supported hostname supported
  | migrate dryRun faults => exact migrate_supported faults dryRun supported

/-- A daemon leaf issued where the CA has just been ensured writes nothing. -/
theorem daemon_leaf_keeps {ensure : EnsureFaults} (returns : ensures ensure world = true)
    (faults : LeafFaults) : LeafKeeps faults .daemon (ensureCaWithStore ensure world).2 := by
  obtain ⟨pair, returned⟩ := (ca_ensured ensure world).returns.mp returns
  have found : generates faults.ensure (ensureCaWithStore ensure world).2 = false :=
    ensured_found (Prod.ext returned rfl) faults.ensure
  constructor
  · intro generated
    rw [found] at generated
    cases generated
  · intro stores
    simp [storesLeaf] at stores

/-- From matched pairs a command leads to matched pairs exactly when it respects
the condition.

Proof: each command is an ensuring, a leaf or a filling from the world in which
it starts to write; a stopped command changes nothing and has no condition. -/
theorem step_paired_iff (operation : Operation) (supported : Supported world)
    (paired : Paired world.store) :
    Paired (perform world operation).store ↔ KeepsPairs world operation := by
  cases operation with
  | caInit force faults =>
    simp only [perform, init_world, KeepsPairs, initStart]
    cases force with
    | true =>
      simpa using ensure_paired_iff (cleared_supported faults supported)
        (cleared_paired faults paired)
    | false =>
      cases rootFound faults world with
      | true => simpa using paired
      | false => simpa using ensure_paired_iff supported paired
  | issueDaemon cn faults =>
    simp only [perform, daemon_world, KeepsPairs]
    cases prepare : faults.prepare with
    | some err => simpa using paired
    | none =>
      have ensuredIff : Paired (ensureCaWithStore faults.ensure world).2.store ↔
          EnsureKeeps faults.ensure world := ensure_paired_iff supported paired
      cases returns : ensures faults.ensure world with
      | false => simpa [returns] using ensuredIff
      | true =>
        have keeps : EnsureKeeps faults.ensure world := ensures_keeps returns
        have issuedPaired := (leaf_paired_iff cn (ensure_supported supported)
          (ensuredIff.mpr keeps)).mpr (daemon_leaf_keeps returns faults.leaf)
        simpa [returns, keeps] using issuedPaired
  | issueClient hostname force faults =>
    simp only [perform, client_world, KeepsPairs]
    cases stops : !force && clientFound faults world with
    | true => simpa [stops] using paired
    | false => simpa [stops] using leaf_paired_iff hostname supported paired
  | migrate dryRun faults =>
    have law := pairs_migrated faults dryRun world
    simp only [perform, KeepsPairs]
    constructor
    · intro after
      have ca := after.ca
      have client := after.client
      rw [law.ca] at ca
      rw [law.client] at client
      exact ⟨(fill_matched_iff paired.ca supported.legacy.ca _ _).mp ca,
        (fill_matched_iff paired.client supported.legacy.client _ _).mp client⟩
    · rintro ⟨ca, client⟩
      constructor
      · rw [law.ca]
        exact (fill_matched_iff paired.ca supported.legacy.ca _ _).mpr ca
      · rw [law.client]
        exact (fill_matched_iff paired.client supported.legacy.client _ _).mpr client

end Commands

/-- Every leaf issued from this world is signed by the key of the CA certificate
that is stored when it is returned. -/
def IssuesSigned (world : World Pem) : Prop :=
  ∀ faults cn kind cert key, (issueLeafWithStore faults cn kind world).1 = .ok (cert, key) →
    ∃ ca call, (issueLeafWithStore faults cn kind world).2.store .caCert = some (.caCert ca) ∧
      cert = .leafCert call cn kind (.caKey ca)

/-- A leaf is issued from a reached world, or from there after the CA has been
ensured, as for a daemon. -/
def AllIssuesSigned (world : World Pem) : Prop :=
  IssuesSigned world ∧ ∀ faults pair ensured, ensureCaWithStore faults world = (.ok pair, ensured) →
    IssuesSigned ensured

theorem all_issues_signed {world : World Pem} (supported : Supported world)
    (paired : Paired world.store) : AllIssuesSigned world := by
  constructor
  · intro faults cn kind cert key returned
    exact leaf_signed cn supported paired returned
  · intro ensure pair ensured returned faults cn kind cert key issued
    have law := ca_ensured ensure world
    have returns : ensures ensure world = true := law.returns.mpr ⟨pair, by rw [returned]⟩
    have ensuredSupported : Supported (ensureCaWithStore ensure world).2 :=
      ensure_supported supported
    have ensuredPaired := (ensure_paired_iff supported paired).mpr (ensures_keeps returns)
    rw [returned] at ensuredSupported ensuredPaired
    exact leaf_signed cn ensuredSupported ensuredPaired issued

/-- An empty store beside a legacy store of matching pairs from earlier calls. -/
structure Start (world : World Pem) : Prop where
  empty : ∀ account, world.store account = none
  legacy : Paired world.legacy
  earlier : Earlier world.calls world.legacy

theorem start_supported {world : World Pem} (start : Start world) :
    Supported world ∧ Paired world.store := by
  have caEmpty : caSlots world.store = ⟨none, none⟩ := by
    simp [caSlots, start.empty]
  have clientEmpty : clientSlots world.store = ⟨none, none⟩ := by
    simp [clientSlots, start.empty]
  refine ⟨⟨start.legacy, ⟨?_, ?_⟩, start.earlier⟩, ⟨?_, ?_⟩⟩
  · simp [caEmpty, Within]
  · simp [clientEmpty, Within]
  · exact matched_of_left_empty (congrArg Slots.left caEmpty)
  · exact matched_of_left_empty (congrArg Slots.left clientEmpty)

/-- The condition under which stored certificates and keys belong together.

First, in every sequence of commands that all respect the condition, both pairs
belong together in each world reached, and every leaf issued there is signed by
the key of the stored CA certificate. Second, the condition is exact: whatever
the earlier commands were, from a world with matched pairs a command leads to
matched pairs if and only if it respects the condition.

Proof: what every command keeps supports the step law, which decides the pairs
command by command. -/
theorem pairs_belong_together (start : World Pem) (begins : Start start) :
    (∀ operations world, run next start operations = some world →
      Guarded next KeepsPairs start operations → Paired world.store ∧ AllIssuesSigned world) ∧
    (∀ operations world operation, run next start operations = some world → Paired world.store →
      (Paired (perform world operation).store ↔ KeepsPairs world operation)) := by
  obtain ⟨startSupported, startPaired⟩ := start_supported begins
  have supports : ∀ world operation reached, Supported world →
      next world operation = some reached → Supported reached := by
    intro world operation reached supported step
    obtain rfl := Option.some.inj step
    exact step_supported operation supported
  have reachedSupported {operations : List Operation} {world : World Pem}
      (completed : run next start operations = some world) : Supported world :=
    run_preserves next Supported supports startSupported completed
  constructor
  · intro operations world completed guarded
    have paired : Paired world.store :=
      guarded_preserves next KeepsPairs Supported (fun world => Paired world.store) supports
        (fun world operation reached supported paired keeps step =>
          Option.some.inj step ▸ (step_paired_iff operation supported paired).mpr keeps)
        startSupported startPaired guarded completed
    exact ⟨paired, all_issues_signed (reachedSupported completed) paired⟩
  · intro operations world operation completed paired
    exact step_paired_iff operation (reachedSupported completed) paired

/-- Both stores are empty. -/
def emptyWorld : World Pem := ⟨fun _ => none, fun _ => none, 0⟩

theorem empty_start : Start emptyWorld where
  empty := fun _ => rfl
  legacy := ⟨matched_of_left_empty rfl, matched_of_left_empty rfl⟩
  earlier := by constructor <;> simp [emptyWorld, caSlots, clientSlots, Within]

def reliable : EnsureFaults := ⟨none, none, none, none, none⟩

/-- A CA is created; then a forced initialization can neither delete nor overwrite
the key, but does replace the certificate. -/
def halfForced : List Operation :=
  [.caInit false ⟨none, none, none, reliable⟩,
    .caInit true ⟨none, none, some "access denied", { reliable with setKey := some "access denied" }⟩]

/-- The certificate of the second CA is stored beside the key of the first. -/
theorem half_forced_mismatch :
    ¬ ∀ start operations world, Start start → run next start operations = some world →
      Paired world.store := by
  intro claimed
  have paired := claimed emptyWorld halfForced _ empty_start rfl
  have same : SameCa (.caCert 1) (.caKey 0) := paired.ca (.caCert 1) rfl (.caKey 0) rfl
  exact absurd same (by decide)

/-- The key cannot be deleted but is overwritten, and a client leaf is issued. -/
def fullForced : List Operation :=
  [.caInit false ⟨none, none, none, reliable⟩,
    .caInit true ⟨none, none, some "access denied", reliable⟩,
    .issueClient "laptop" false ⟨none, reliable, none, none, none⟩]

/-- After the overwriting initialization the second CA's pair is stored. -/
theorem full_forced_paired :
    ∃ world, run next emptyWorld fullForced = some world ∧
      world.store .caKey = some (.caKey 1) ∧ Paired world.store :=
  ⟨_, rfl, rfl, ((pairs_belong_together emptyWorld empty_start).1 fullForced _ rfl (by decide)).1⟩

end Brewmble.CredentialPairs
