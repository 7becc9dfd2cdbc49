import Brewmble.CaRotation
import Brewmble.ServedLeaf

/-!
# What a daemon makes of the certificate that it was issued

A certificate is valid from one day before it is generated, and 397 days from there. The
daemon that is configured with the three files of the directory checks them when it starts.
Each file holds one block, so that the first block is the leaf that is served.

Times are whole seconds, as they are in a certificate. The current time of the source also
has a fraction of a second, which is left out: within the second of a bound it may already
be past the bound. What the TLS library makes of generated certificates and keys is taken
as it is meant: a CA certificate is a root, and a leaf and its key are a pair.
-/

namespace Brewmble.IssuedValidity

open CaRotation Credentials ConfigValidation IssuedDirectories PemFile ServedLeaf
open CredentialPairs (Start empty_start)

def day : Int := 24 * 60 * 60

/-- `LEAF_VALIDITY_DAYS`. -/
def leafValidityDays : Int := 397

/-- `CA_VALIDITY_DAYS`. -/
def caValidityDays : Int := 365 * 10

/-- `not_before` and `not_after`, which `generate_ca` and `generate_leaf` set from the time of the call. -/
def validity (generated days : Int) (usage : Option ExtendedKeyUsage) : Certificate where
  notBefore := generated - day
  notAfter := generated - day + days * day
  extendedKeyUsage := .ok usage

/-- What a generated text says. The times are those of the generator's calls. -/
def contentsOf (times : Nat → Int) : Pem → Contents
  | .caCert call => .certificate (validity (times call) caValidityDays none)
  | .leafCert call _ kind _ => .certificate (validity (times call) leafValidityDays (some ⟨kind = .daemon⟩))
  | .caKey call => .other ("CA key " ++ toString call)
  | .leafKey call => .other ("leaf key " ++ toString call)

/-- `cert.pem()` and `key.serialize_pem()`. -/
def pemText (times : Nat → Int) (pem : Pem) : List Segment :=
  match pem with
  | .caCert _ | .leafCert _ _ _ _ => [.block "CERTIFICATE" (contentsOf times pem)]
  | .caKey _ | .leafKey _ => [.block "PRIVATE KEY" (contentsOf times pem)]

/-- What the daemon finds in place of a file. A torn one has nothing that it can read. -/
def fileState (times : Nat → Int) : Written → FileState
  | .missing => .missing
  | .torn => .contents []
  | .whole pem => .contents (pemText times pem)

/-- `out_dir.join`. -/
def joined (outDir : String) (file : DirectoryFile) : String := outDir ++ "/" ++ file.name

/-- The bit of a mode that marks a regular file. -/
def regularFile : Nat := 0o100000

/-- The files that the daemon sees are those of the directory. -/
structure Mounted (times : Nat → Int) (outDir : String) (site : Site) (files : FileSystem) : Prop where
  file : ∀ file, files.file (joined outDir file) = fileState times (site.directories outDir file)
  mode : files.mode (joined outDir .key) = some (regularFile ||| site.keyModes outDir)

/-- The configuration names these files. -/
def tlsOf (outDir : String) : TlsConfig := ⟨joined outDir .ca, joined outDir .cert, joined outDir .key⟩

/-- The TLS library takes generated certificates and keys for what they are. -/
structure Takes (rustls : Rustls) (times : Nat → Int) : Prop where
  addRoot : ∀ call, rustls.addRoot (contentsOf times (.caCert call)) = .ok ()
  buildVerifier : ∀ call, rustls.buildVerifier (contentsOf times (.caCert call)) = .ok ()
  withSingleCert : ∀ call cn kind signer, rustls.withSingleCert
    [contentsOf times (.leafCert call cn kind signer)] (contentsOf times (.leafKey call)) = .ok ()

section Reports

variable {rustls : Rustls} {times : Nat → Int} {outDir : String} {site : Site} {files : FileSystem}
  {ca call : Nat} {cn : String}

/-- The three files hold one block each. -/
theorem issued_files (mounted : Mounted times outDir site files)
    (directory : site.directories outDir = issuedUnder ca call cn) :
    files.file (joined outDir .ca) = .contents [.block "CERTIFICATE" (contentsOf times (.caCert ca))] ∧
    files.file (joined outDir .cert) =
      .contents [.block "CERTIFICATE" (contentsOf times (.leafCert call cn .daemon (.caKey ca)))] ∧
    files.file (joined outDir .key) = .contents [.block "PRIVATE KEY" (contentsOf times (.leafKey call))] := by
  rw [mounted.file, mounted.file, mounted.file, directory]
  exact ⟨rfl, rfl, rfl⟩

theorem certs_block (contents : Contents) : certs [.block "CERTIFICATE" contents] = .ok [contents] := rfl

theorem privateKey_block (contents : Contents) : privateKey [.block "PRIVATE KEY" contents] = .ok (some contents) := by
  have labelled : "PRIVATE KEY" ∈ privateKeyLabels := by decide
  exact if_pos labelled

/-- The configuration of an issued directory loads. -/
theorem issued_loads (takes : Takes rustls times) (mounted : Mounted times outDir site files)
    (directory : site.directories outDir = issuedUnder ca call cn) :
    loadTlsConfig rustls files (tlsOf outDir) =
      .ok ⟨contentsOf times (.caCert ca), contentsOf times (.leafCert call cn .daemon (.caKey ca)), [],
        contentsOf times (.leafKey call), ["h2", "http/1.1"]⟩ := by
  obtain ⟨caFile, certFile, keyFile⟩ := issued_files mounted directory
  have chain := takes.withSingleCert call cn .daemon (.caKey ca)
  simp only [loadTlsConfig, tlsOf, caFile, certFile, keyFile, readToString, withContext, certs_block,
    privateKey_block, takes.addRoot, takes.buildVerifier, chain, bind, Except.bind, pure, Except.pure]

/-- What is reported about a leaf that was generated at this time. -/
def reportAt (displayTime : Int → String) (generated now : Int) : ValidationReport :=
  let notBefore := generated - day
  let notAfter := generated + 396 * day
  if now < notBefore then
    ⟨["TLS daemon certificate is not yet valid (valid from " ++ displayTime notBefore ++ ")"], []⟩
  else if notAfter < now then ⟨["TLS daemon certificate expired on " ++ displayTime notAfter], []⟩
  else if generated + 366 * day < now ∧ now < notAfter then
    ⟨[], ["TLS daemon certificate expires on " ++ displayTime notAfter ++ " (less than 30 days)"]⟩
  else ⟨[], []⟩

/-- A file of one certificate block passes its check. -/
theorem checkCerts_block {path : String} {contents : Contents}
    (file : files.file path = .contents [.block "CERTIFICATE" contents]) (name : String)
    (report : ValidationReport) : checkCerts name path files report = report := by
  simp [checkCerts, file, FileState.isPresent, readToString, certs_block]

/-- A key file that only its owner may read passes its check without a warning. -/
theorem checkKey_block {path : String} {contents : Contents}
    (file : files.file path = .contents [.block "PRIVATE KEY" contents])
    (mode : files.mode path = some (regularFile ||| 0o600)) (report : ValidationReport) :
    checkKey path files report = report := by
  have restricted : (regularFile ||| 0o600) &&& 0o077 = 0 := by decide
  simp [checkKey, file, FileState.isPresent, readToString, privateKey_block, checkKeyMode, mode, restricted]

/-- The checks of an issued leaf report what is to be reported. -/
theorem checkLeaf_issued (displayTime : Int → String) (generated now : Int) :
    checkServerAuth (validity generated leafValidityDays (some ⟨true⟩))
      (checkValidity displayTime now (validity generated leafValidityDays (some ⟨true⟩)) .empty) =
      reportAt displayTime generated now := by
  have notAfter : generated - day + leafValidityDays * day = generated + 396 * day := by
    rw [leafValidityDays]
    omega
  have thirty : thirtyDays = 30 * day := by decide
  have left : ((timeDifference (generated + 396 * day) now).map fun left => decide (left < thirtyDays)).getD false =
      decide (generated + 366 * day < now ∧ now < generated + 396 * day) := by
    unfold timeDifference
    by_cases later : generated + 396 * day > now
    · have within : generated + 396 * day - now < 30 * day ↔ generated + 366 * day < now := by omega
      simp only [later, if_true, Option.map_some, Option.getD_some, thirty, within, and_true]
    · simp [later]
  have usage : hasServerAuth (validity generated leafValidityDays (some ⟨true⟩)) = true := rfl
  unfold checkServerAuth checkValidity reportAt
  rw [if_pos usage]
  simp only [validity, notAfter, left, decide_eq_true_eq]
  rfl

/-- Once the files pass, the report is the one on the leaf. -/
theorem issued_report (takes : Takes rustls times) (mounted : Mounted times outDir site files)
    (directory : site.directories outDir = issuedUnder ca call cn) (mode : site.keyModes outDir = 0o600)
    (displayTime : Int → String) (server : ServerConfig) (port : server.port ≠ some 0) (now : Int) :
    validateConfig rustls displayTime files ⟨server, tlsOf outDir⟩ now = reportAt displayTime (times call) now := by
  obtain ⟨caFile, certFile, keyFile⟩ := issued_files mounted directory
  have modes : files.mode (joined outDir .key) = some (regularFile ||| 0o600) := mode ▸ mounted.mode
  have ported : checkPort server .empty = .empty := by
    unfold checkPort
    cases given : server.port with
    | none => rfl
    | some value => exact if_neg fun zero => port (given.trans (congrArg some zero))
  have rooted : checkCaCert (joined outDir .ca) files .empty = .empty := checkCerts_block caFile _ _
  have certified : checkDaemonCert (joined outDir .cert) files .empty = .empty := checkCerts_block certFile _ _
  have keyed : checkKey (joined outDir .key) files .empty = .empty := checkKey_block keyFile modes _
  have loaded : checkLoad rustls files (tlsOf outDir) .empty = .empty := by
    unfold checkLoad
    rw [issued_loads takes mounted directory]
    rfl
  calc validateConfig rustls displayTime files ⟨server, tlsOf outDir⟩ now
      = checkLeaf displayTime now files (joined outDir .cert) .empty := by
        simp only [validateConfig, ported, tlsOf, rooted, certified, keyed]
        exact congrArg _ loaded
    _ = checkServerAuth _ (checkValidity displayTime now _ .empty) := by
        simp only [checkLeaf, certFile]
        rfl
    _ = reportAt displayTime (times call) now := checkLeaf_issued displayTime (times call) now

/-- The report of an issued leaf has no errors during 397 days, of which one is before. -/
theorem reportAt_clean (displayTime : Int → String) (generated now : Int) :
    (reportAt displayTime generated now).errors = [] ↔
      generated - day ≤ now ∧ now ≤ generated + 396 * day := by
  unfold reportAt
  by_cases early : now < generated - day
  · have notYet : ¬ generated - day ≤ now := by omega
    simp [early, notYet]
  · have begun : generated - day ≤ now := by omega
    by_cases late : generated + 396 * day < now
    · have ended : ¬ now ≤ generated + 396 * day := by omega
      simp [early, late, ended]
    · have lasts : now ≤ generated + 396 * day := by omega
      simp only [early, late, if_false, begun, lasts, and_self, iff_true]
      split <;> rfl

end Reports

/-- What the command line tool issues, the daemon accepts. In every site where a directory
has been issued to and not again since, a daemon that is configured with its three files and
a usable port loads them and serves the issued leaf. At any time its validation reports
exactly what is to be reported about this leaf: it starts from one day before the leaf was
generated until 396 days after, and without a warning until 366 days after and in the very
last second.

Proof: the directory holds one block in each file and a private key, so each check passes
up to those of the leaf, which is both the first block and the one that is served. -/
theorem issued_directory_accepted {start issued final : Site} {outDir : String} {rustls : Rustls}
    {times : Nat → Int} {files : FileSystem} (begins : Start start.world)
    (into : IssuedInto start outDir issued final) (mounted : Mounted times outDir final files)
    (takes : Takes rustls times) (server : ServerConfig) (port : server.port ≠ some 0) :
    ∃ call cn signer, final.directories outDir .cert = .whole (.leafCert call cn .daemon signer) ∧
      (∃ served, loadTlsConfig rustls files (tlsOf outDir) = .ok served ∧
        served.leaf = contentsOf times (.leafCert call cn .daemon signer)) ∧
      ∀ displayTime now,
        validateConfig rustls displayTime files ⟨server, tlsOf outDir⟩ now =
          reportAt displayTime (times call) now ∧
        (ensureValidConfig rustls displayTime files ⟨server, tlsOf outDir⟩ now = .ok () ↔
          times call - day ≤ now ∧ now ≤ times call + 396 * day) := by
  obtain ⟨ca, call, cn, _, directory, mode⟩ := issuedInto_files begins into
  refine ⟨call, cn, .caKey ca, ?_, ⟨_, issued_loads takes mounted directory, rfl⟩, ?_⟩
  · rw [directory]
    rfl
  · intro displayTime now
    have report := issued_report takes mounted directory mode displayTime server port now
    refine ⟨report, ?_⟩
    rw [ensure_valid_iff, report]
    exact reportAt_clean displayTime (times call) now

/-- The files of one directory. -/
def filesOf (times : Nat → Int) (outDir : String) (site : Site) : FileSystem where
  file path :=
    if path = joined outDir .ca then fileState times (site.directories outDir .ca)
    else if path = joined outDir .cert then fileState times (site.directories outDir .cert)
    else if path = joined outDir .key then fileState times (site.directories outDir .key)
    else .missing
  mode path := if path = joined outDir .key then some (regularFile ||| site.keyModes outDir) else none

theorem filesOf_mounted (times : Nat → Int) (site : Site) : Mounted times "/tls" site (filesOf times "/tls" site) where
  file file := by
    cases file <;> rfl
  mode := by rfl

/-- A leaf from the second call of the generators, one day after this call. -/
theorem new_daemon_starts :
    ensureValidConfig accepting (fun _ => "")
      (filesOf (fun call => call * day) "/tls" (perform (perform emptySite (newCa false)) newDaemon))
      ⟨⟨none⟩, tlsOf "/tls"⟩ (2 * day) = .ok () := by
  have into : IssuedInto emptySite "/tls" (perform (perform emptySite (newCa false)) newDaemon)
      (perform (perform emptySite (newCa false)) newDaemon) :=
    ⟨[newCa false], _, "node", false, reliableIssue, _, [], rfl, by decide, rfl, rfl, rfl, by simp⟩
  have takes : Takes accepting fun call => call * day := ⟨fun _ => rfl, fun _ => rfl, fun _ _ _ _ => rfl⟩
  obtain ⟨call, cn, signer, leaf, _, reports⟩ :=
    issued_directory_accepted empty_start into (filesOf_mounted _ _) takes ⟨none⟩ (by decide)
  obtain ⟨rfl, _⟩ : 1 = call ∧ _ := Pem.leafCert.inj (Written.whole.inj leaf)
  exact (reports _ _).2.mpr (by decide)

end Brewmble.IssuedValidity
