import Brewmble.CredentialSteps
import Brewmble.Fingerprints

/-!
# What the initialization of the CA reports

After the CA is ensured, `ca init` reports that it was created. Ensuring the CA returns
a stored pair where it finds one, so the report is wrong exactly when the pair that was
stored before is still there and is found: a forced initialization whose deletions both
failed, or another one that could not see the stored certificate at first.

A generated text differs from all that is stored when it is generated; this is assumed
of the generator. How certificates are read from a text is a parameter, as is the
digest.
-/

namespace Brewmble.CaInit

open Credentials CredentialSteps Fallible Fingerprints PairedSlots

/-- The digest of a certificate, and the certificates that a text holds. -/
structure Reading where
  sha256 : List UInt8 → Digest
  certs : Pem → Except String (List (List UInt8))

/-- `CA_VALIDITY_DAYS`. -/
def caValidityDays : Nat := 365 * 10

variable (reading : Reading)

/-- `fingerprint`: that of the first certificate in the text. -/
def fingerprint (certPem : Pem) : Except String String := do
  match ← reading.certs certPem with
  | [] => .error "no certificate found in PEM"
  | cert :: _ => return formatFingerprint reading.sha256 cert

/-- What `ca init` prints when it succeeds. -/
def initLines (printed : String) : List String :=
  ["Cluster CA created.", "  CN:   brewmble-cluster-ca", "  Days: " ++ toString caValidityDays,
    "  SHA256 fingerprint: " ++ printed]

/-- `run_ca` for `ca init` with its report. A fingerprint that cannot be made is an
error, after the CA was ensured. -/
def runCaInit (faults : InitFaults) (force : Bool) : StoreCall Pem (List String) := do
  let (cert, _) ← caInit faults force
  match fingerprint reading cert with
  | .ok printed => return initLines printed
  | .error err => Call.fail err

/-- No stored text of the CA is one that the next call of the generator makes. -/
def Fresh (world : World Pem) : Prop :=
  world.store .caCert ≠ some (.caCert world.calls) ∧ world.store .caKey ≠ some (.caKey world.calls)

/-- A success means that certificate and key are stored as this run generated them, that
neither is what was stored before, and that the printed fingerprint is that of the
stored certificate. A certificate that is found without force is an error and is kept
with all else. -/
structure Truthful (faults : InitFaults) (force : Bool) (before : World Pem)
    (result : Except String (List String) × World Pem) : Prop where
  created : ∀ lines, result.1 = .ok lines →
    result.2.store .caCert = some (.caCert before.calls) ∧
    result.2.store .caKey = some (.caKey before.calls) ∧
    before.store .caCert ≠ result.2.store .caCert ∧ before.store .caKey ≠ result.2.store .caKey ∧
    ∃ cert printed, result.2.store .caCert = some cert ∧
      fingerprint reading cert = .ok printed ∧ lines = initLines printed
  refused : force = false → faults.root = none → before.store .caCert ≠ none →
    (∃ err, result.1 = .error err) ∧ result.2.store = before.store

/-- A stored pair is not deleted and not seen before the CA is ensured. -/
def Unnoticed (faults : InitFaults) (force : Bool) : Prop :=
  if force then faults.deleteCert ≠ none ∧ faults.deleteKey ≠ none else faults.root ≠ none

/-- A stored pair is unnoticed at first, but found when the CA is ensured, and its
certificate has a fingerprint. -/
structure Stale (faults : InitFaults) (force : Bool) (world : World Pem) : Prop where
  unnoticed : Unnoticed faults force
  read : faults.ensure.getCert = none ∧ faults.ensure.getKey = none
  cert : ∃ cert printed, world.store .caCert = some cert ∧ fingerprint reading cert = .ok printed
  key : world.store .caKey ≠ none

section Outcomes

/-- What ensuring the CA returns: an error, the new pair or the stored one. -/
inductive Outcome (faults : EnsureFaults) (start : World Pem) :
    Except String (Pem × Pem) × World Pem → Prop
  | failed (err : String) (after : World Pem)
      (unread : faults.getCert = none → faults.getKey = none →
        start.store .caCert = none ∨ start.store .caKey = none) :
      Outcome faults start (.error err, after)
  | created (after : World Pem) (missing : start.store .caCert = none ∨ start.store .caKey = none)
      (stored : caSlots after.store = ⟨some (.caCert start.calls), some (.caKey start.calls)⟩) :
      Outcome faults start (.ok (.caCert start.calls, .caKey start.calls), after)
  | found (cert key : Pem) (after : World Pem)
      (read : faults.getCert = none ∧ faults.getKey = none)
      (stored : caSlots start.store = ⟨some cert, some key⟩)
      (kept : caSlots after.store = ⟨some cert, some key⟩) :
      Outcome faults start (.ok (cert, key), after)

/-- The cases follow whether the CA is generated. -/
theorem ensure_outcome (faults : EnsureFaults) (start : World Pem) :
    Outcome faults start (ensureCaWithStore faults start) := by
  have law := ca_ensured faults start
  cases run : ensureCaWithStore faults start with
  | mk outcome after =>
  rw [run] at law
  cases outcome with
  | error err =>
    refine .failed err after ?_
    intro certRead keyRead
    by_contra occupied
    obtain ⟨cert, key⟩ := not_or.mp occupied
    have ensured : ensures faults start = true := by
      simp [ensures, certRead, keyRead, Option.isSome_iff_ne_none.mpr cert,
        Option.isSome_iff_ne_none.mpr key]
    obtain ⟨pair, returned⟩ := law.returns.mp ensured
    cases returned
  | ok pair =>
    obtain ⟨cert, key⟩ := pair
    have ensured : ensures faults start = true := law.returns.mpr ⟨(cert, key), rfl⟩
    have stored : caSlots after.store = ⟨some cert, some key⟩ := law.returned cert key rfl
    have written := law.ca
    by_cases generated : generates faults start = true
    · have missing : start.store .caCert = none ∨ start.store .caKey = none := by
        have unpaired : ((start.store .caCert).isSome && (start.store .caKey).isSome) = false := by
          simp only [generates, Bool.and_eq_true, Bool.not_eq_true'] at generated
          exact generated.2
        simpa only [Bool.and_eq_false_iff, Option.isSome_eq_false_iff, Option.isNone_iff_eq_none]
          using unpaired
      have succeed : faults.setCert.isSome = false ∧ faults.setKey.isSome = false := by
        simp only [generates, Bool.and_eq_true, Bool.not_eq_true'] at generated
        simp only [ensures, generated.2, Bool.false_or, Bool.and_eq_true] at ensured
        rw [Option.isSome_eq_false_iff, Option.isSome_eq_false_iff]
        exact ⟨ensured.2.1.2, ensured.2.2⟩
      have new : caSlots after.store = ⟨some (.caCert start.calls), some (.caKey start.calls)⟩ := by
        simpa [generated, succeed, Slots.write] using written
      obtain ⟨sameCert, sameKey⟩ := Slots.mk.inj (stored.symm.trans new)
      obtain rfl := Option.some.inj sameCert
      obtain rfl := Option.some.inj sameKey
      exact .created after missing new
    · have kept : caSlots after.store = caSlots start.store := by
        simpa [generated] using written
      have read : faults.getCert = none ∧ faults.getKey = none := by
        simp only [ensures, Bool.and_eq_true, Option.isNone_iff_eq_none] at ensured
        exact ensured.1
      exact .found cert key after read (kept.symm.trans stored) stored

end Outcomes

section Reports

variable {reading : Reading} {faults : InitFaults} {force : Bool} {world : World Pem}

/-- The CA is ensured from where nothing was stored that is not stored now. -/
theorem start_slots {start : World Pem} (starts : initStart faults force world = some start) :
    start.calls = world.calls ∧
      (start.store .caCert = none ∨ start.store .caCert = world.store .caCert) ∧
      (start.store .caKey = none ∨ start.store .caKey = world.store .caKey) ∧
      (start.store .caCert ≠ none → start.store .caKey ≠ none → Unnoticed faults force) ∧
      (Unnoticed faults force → caSlots start.store = caSlots world.store) := by
  unfold initStart at starts
  cases force with
  | true =>
    obtain rfl : cleared faults world = start := Option.some.inj starts
    obtain ⟨slots, _, _, calls⟩ := cleared_slots faults world
    have cert : (cleared faults world).store .caCert = _ := congrArg Slots.left slots
    have key : (cleared faults world).store .caKey = _ := congrArg Slots.right slots
    refine ⟨calls, ?_, ?_, ?_, ?_⟩
    · cases deleted : faults.deleteCert <;> simp [cert, caSlots, Slots.erase, deleted]
    · cases deleted : faults.deleteKey <;> simp [key, caSlots, Slots.erase, deleted]
    · cases deletedCert : faults.deleteCert <;> cases deletedKey : faults.deleteKey <;>
        simp [cert, key, caSlots, Slots.erase, Unnoticed, deletedCert, deletedKey]
    · rintro ⟨certKept, keyKept⟩
      rw [slots]
      simp [Slots.erase, Option.isSome_iff_ne_none.mpr certKept, Option.isSome_iff_ne_none.mpr keyKept]
  | false =>
    cases seen : rootFound faults world with
    | true => simp [seen] at starts
    | false =>
      obtain rfl : world = start := by simpa [seen] using starts
      refine ⟨rfl, .inr rfl, .inr rfl, ?_, fun _ => rfl⟩
      intro occupied _ readable
      simp [rootFound, readable, Option.isSome_iff_ne_none.mpr occupied] at seen

/-- Where an initialization stops, it has found the certificate. -/
theorem start_none (stops : initStart faults force world = none) :
    force = false ∧ faults.root = none := by
  unfold initStart at stops
  cases force with
  | true => cases stops
  | false =>
    refine ⟨rfl, ?_⟩
    by_contra unreadable
    simp [rootFound, unreadable] at stops

/-- What an initialization finds without force, it stops at. -/
theorem start_unrefused {start : World Pem} (starts : initStart faults force world = some start)
    (unforced : force = false) (readable : faults.root = none) : world.store .caCert = none := by
  by_contra occupied
  simp [initStart, unforced, rootFound, readable, Option.isSome_iff_ne_none.mpr occupied] at starts

/-- Where an initialization has started, it reports the certificate of what ensuring the
CA returned. -/
theorem run_init {start : World Pem} (starts : initStart faults force world = some start) :
    runCaInit reading faults force world =
      ((ensureCaWithStore faults.ensure start).1.bind fun pair =>
          (fingerprint reading pair.1).map initLines,
        (ensureCaWithStore faults.ensure start).2) := by
  rw [runCaInit, bind_apply, init_run, starts]
  cases run : ensureCaWithStore faults.ensure start with
  | mk result after =>
  cases result with
  | error err => simp [run, Except.bind]
  | ok pair =>
    cases found : fingerprint reading pair.1 <;> simp [run, found, Except.bind, Except.map]

/-- A stale pair is what the CA is ensured from. -/
theorem not_stale {start : World Pem} (starts : initStart faults force world = some start)
    (missing : start.store .caCert = none ∨ start.store .caKey = none) :
    ¬ Stale reading faults force world := by
  intro stale
  obtain ⟨_, _, _, _, kept⟩ := start_slots starts
  have same := kept stale.unnoticed
  have cert : start.store .caCert = world.store .caCert := congrArg Slots.left same
  have key : start.store .caKey = world.store .caKey := congrArg Slots.right same
  obtain ⟨pem, _, stored, _⟩ := stale.cert
  obtain absent | absent := missing
  · rw [cert, stored] at absent
    cases absent
  · exact stale.key (key.symm.trans absent)

end Reports

variable (faults : InitFaults) (force : Bool) (world : World Pem)

/-- The report of an initialization is true exactly when no stale pair is found.

Proof: an initialization that goes on starts from the stored slots or from what the
deletions left of them. It ends in an error, with a new pair, or with the pair that it
started from, and the last happens where this pair is stale. -/
theorem init_truthful_iff (fresh : Fresh world) :
    Truthful reading faults force world (runCaInit reading faults force world) ↔
      ¬ Stale reading faults force world := by
  cases starts : initStart faults force world with
  | none =>
    have stopped : runCaInit reading faults force world =
        (.error "cluster CA already exists; use --force to overwrite", world) := by
      rw [runCaInit, bind_apply, init_run, starts]
    obtain ⟨unforced, readable⟩ := start_none starts
    rw [stopped]
    refine iff_of_true ⟨?_, fun _ _ _ => ⟨⟨_, rfl⟩, rfl⟩⟩ ?_
    · rintro lines ⟨⟩
    · intro stale
      have unreadable : faults.root ≠ none := by simpa [Unnoticed, unforced] using stale.unnoticed
      exact unreadable readable
  | some start =>
    obtain ⟨calls, certBefore, keyBefore, unnoticed, _⟩ := start_slots starts
    have unrefused {result : Except String (List String) × World Pem} : force = false →
        faults.root = none → world.store .caCert ≠ none →
        (∃ err, result.1 = .error err) ∧ result.2.store = world.store :=
      fun unforced readable occupied => absurd (start_unrefused starts unforced readable) occupied
    have outcome := ensure_outcome faults.ensure start
    rw [run_init starts]
    generalize ensureCaWithStore faults.ensure start = ensured at outcome ⊢
    cases outcome with
    | failed err after unread =>
      refine iff_of_true ⟨?_, unrefused⟩ ?_
      · rintro lines ⟨⟩
      · intro stale
        exact not_stale starts (unread stale.read.1 stale.read.2) stale
    | created after missing stored =>
      rw [calls] at stored ⊢
      have certStored : after.store .caCert = some (.caCert world.calls) := congrArg Slots.left stored
      have keyStored : after.store .caKey = some (.caKey world.calls) := congrArg Slots.right stored
      refine iff_of_true ⟨?_, unrefused⟩ (not_stale starts missing)
      intro lines returned
      cases found : fingerprint reading (.caCert world.calls) with
      | error err => simp [found, Except.bind, Except.map] at returned
      | ok printed =>
        obtain rfl : initLines printed = lines := by
          simpa [found, Except.bind, Except.map] using returned
        exact ⟨certStored, keyStored, certStored ▸ fresh.1, keyStored ▸ fresh.2,
          .caCert world.calls, printed, certStored, found, rfl⟩
    | found cert key after read stored kept =>
      have certStart : start.store .caCert = some cert := congrArg Slots.left stored
      have keyStart : start.store .caKey = some key := congrArg Slots.right stored
      have certHere : world.store .caCert = some cert := by
        simpa [certStart, eq_comm] using certBefore
      have keyHere : world.store .caKey = some key := by
        simpa [keyStart, eq_comm] using keyBefore
      cases found : fingerprint reading cert with
      | error err =>
        refine iff_of_true ⟨?_, unrefused⟩ ?_
        · simp [found, Except.bind, Except.map]
        · intro stale
          obtain ⟨other, printed, there, made⟩ := stale.cert
          obtain rfl : cert = other := Option.some.inj (certHere.symm.trans there)
          simp [found] at made
      | ok printed =>
        have stale : Stale reading faults force world :=
          ⟨unnoticed (by simp [certStart]) (by simp [keyStart]), read, ⟨cert, printed, certHere, found⟩,
            by simp [keyHere]⟩
        refine iff_of_false ?_ (not_not_intro stale)
        intro truthful
        have replaced := (truthful.created (initLines printed)
          (by simp [found, Except.bind, Except.map])).2.2.1
        have same : after.store .caCert = world.store .caCert :=
          (congrArg Slots.left kept).trans certHere.symm
        exact replaced same.symm

/-- A keyring with a CA that it no longer lets anyone delete. -/
def keptCa : World Pem where
  store := fun account =>
    if account = .caCert then some (.caCert 0) else if account = .caKey then some (.caKey 0) else none
  legacy := fun _ => none
  calls := 1

/-- Both deletions fail and every other call succeeds. -/
def undeletable : InitFaults where
  root := none
  deleteCert := some "keyring locked"
  deleteKey := some "keyring locked"
  ensure := ⟨none, none, none, none, none⟩

/-- Each text holds one certificate. -/
def oneCertificate : Reading where
  sha256 := knownDigests
  certs _ := .ok [[0x61, 0x62, 0x63]]

/-- The CA that was to be replaced is reported as created. -/
theorem undeleted_reported_created :
    ¬ ∀ reading faults force world, Fresh world →
      Truthful reading faults force world (runCaInit reading faults force world) := by
  intro claimed
  have truthful := claimed oneCertificate undeletable true keptCa ⟨by decide, by decide⟩
  exact (truthful.created _ rfl).2.2.1 rfl

/-- With deletions that succeed the CA is replaced. -/
theorem deleted_reported_created :
    Truthful oneCertificate { undeletable with deleteCert := none, deleteKey := none } true keptCa
      (runCaInit oneCertificate { undeletable with deleteCert := none, deleteKey := none } true
        keptCa) :=
  (init_truthful_iff oneCertificate _ true keptCa ⟨by decide, by decide⟩).mpr
    fun stale => stale.unnoticed.1 rfl

end Brewmble.CaInit
