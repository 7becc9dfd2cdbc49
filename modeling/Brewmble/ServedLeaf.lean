import Brewmble.ConfigValidation
import Mathlib.Logic.Basic

/-!
# Validation and the certificate that is served

The leaf that the daemon serves is the first block with the certificate label.
Validation checks validity and usage on the first block whatever its label, and
skips these checks when that block does not decode to a certificate. The two
agree on files that begin with the served leaf.

Each check of the validation only adds errors, so a report without errors is
exactly one whose every check found nothing. From this the condition under which
a clean report is right about the served leaf follows by comparing the two blocks.
-/

namespace Brewmble.ServedLeaf

open PemFile ConfigValidation

/-- In date at this moment, and usable as a server certificate. -/
def Usable (now : Int) (cert : Certificate) : Prop :=
  cert.notBefore ≤ now ∧ now ≤ cert.notAfter ∧ hasServerAuth cert = true

instance (now : Int) (cert : Certificate) : Decidable (Usable now cert) :=
  inferInstanceAs (Decidable (_ ∧ _ ∧ _))

/-- The first certificate block of the file at this path. -/
def servedLeaf (files : FileSystem) (path : String) : Option Contents :=
  match readToString (files.file path) with
  | .ok pem =>
    match certs pem with
    | .ok (leaf :: _) => some leaf
    | _ => none
  | .error _ => none

/-- The first block of the file at this path. -/
def firstBlock (files : FileSystem) (path : String) : Option Contents :=
  match readToString (files.file path) with
  | .ok pem =>
    match parseX509Pem pem with
    | .ok contents => some contents
    | .error _ => none
  | .error _ => none

section Checks

variable (files : FileSystem) (report : ValidationReport)

theorem error_not_clean (message : String) : (report.error message).errors ≠ [] := by
  simp [ValidationReport.error]

theorem checkPort_clean (server : ServerConfig) :
    (checkPort server report).errors = [] ↔ report.errors = [] ∧ server.port ≠ some 0 := by
  unfold checkPort
  cases server.port with
  | none => simp
  | some port =>
    by_cases zero : port = 0
    · simp [zero, error_not_clean]
    · simp [zero]

/-- The certificate file check is clean when the file holds a certificate block. -/
theorem checkCerts_clean (name path : String) :
    (checkCerts name path files report).errors = [] ↔
      report.errors = [] ∧ ∃ leaf, servedLeaf files path = some leaf := by
  unfold checkCerts servedLeaf
  cases files.file path with
  | missing => simp [FileState.isPresent, readToString, error_not_clean]
  | unreadable err => simp [FileState.isPresent, readToString, error_not_clean]
  | contents segments =>
    simp only [FileState.isPresent, readToString]
    cases certs segments with
    | error err => simp [error_not_clean]
    | ok found => cases found <;> simp [error_not_clean]

theorem checkKeyMode_errors (path : String) :
    (checkKeyMode path files report).errors = report.errors := by
  unfold checkKeyMode
  cases files.mode path with
  | none => rfl
  | some mode =>
    by_cases permissive : mode &&& 0o077 ≠ 0
    · simp [permissive, ValidationReport.warning]
    · simp [permissive]

/-- The key file check is clean when the file holds a private key. -/
theorem checkKey_clean (path : String) :
    (checkKey path files report).errors = [] ↔
      report.errors = [] ∧ ∃ pem key, readToString (files.file path) = .ok pem ∧
        privateKey pem = .ok (some key) := by
  unfold checkKey
  cases files.file path with
  | missing => simp [FileState.isPresent, readToString, error_not_clean]
  | unreadable err => simp [FileState.isPresent, readToString, error_not_clean]
  | contents segments =>
    simp only [FileState.isPresent, readToString]
    cases found : privateKey segments with
    | error err => simp [error_not_clean, found]
    | ok key => cases key <;> simp [error_not_clean, checkKeyMode_errors, found]

theorem checkLoad_clean (rustls : Rustls) (tls : TlsConfig) :
    (checkLoad rustls files tls report).errors = [] ↔
      report.errors = [] ∧ ∃ served, loadTlsConfig rustls files tls = .ok served := by
  unfold checkLoad ValidationReport.isValid
  by_cases clean : report.errors = []
  · cases loadTlsConfig rustls files tls <;> simp [clean, error_not_clean]
  · simp [clean]

/-- The validity checks report nothing exactly in between the two times. -/
theorem checkValidity_clean (displayTime : Int → String) (now : Int) (cert : Certificate) :
    (checkValidity displayTime now cert report).errors = [] ↔
      report.errors = [] ∧ cert.notBefore ≤ now ∧ now ≤ cert.notAfter := by
  unfold checkValidity
  by_cases early : now < cert.notBefore
  · have notYet : ¬ cert.notBefore ≤ now := by omega
    simp [early, error_not_clean, notYet]
  · have begun : cert.notBefore ≤ now := by omega
    by_cases late : now > cert.notAfter
    · have ended : ¬ now ≤ cert.notAfter := by omega
      simp [early, late, error_not_clean, ended]
    · have lasts : now ≤ cert.notAfter := by omega
      rw [if_neg early, if_neg late]
      split <;> simp [ValidationReport.warning, begun, lasts]

/-- The two checks on one certificate are clean exactly when it is usable. -/
theorem checkCertificate_clean (displayTime : Int → String) (now : Int) (cert : Certificate) :
    (checkServerAuth cert (checkValidity displayTime now cert report)).errors = [] ↔
      report.errors = [] ∧ Usable now cert := by
  unfold checkServerAuth
  by_cases serverAuth : hasServerAuth cert = true
  · rw [if_pos serverAuth, checkValidity_clean]
    simp [Usable, serverAuth]
  · simp [serverAuth, error_not_clean, Usable]

/-- The leaf check is clean when the first block, if it decodes, is usable. -/
theorem checkLeaf_clean (displayTime : Int → String) (now : Int) (path : String) :
    (checkLeaf displayTime now files path report).errors = [] ↔ report.errors = [] ∧
      ∀ cert, firstBlock files path = some (.certificate cert) → Usable now cert := by
  unfold checkLeaf firstBlock ValidationReport.isValid
  by_cases clean : report.errors = []
  · cases readToString (files.file path) with
    | error err => simp [clean]
    | ok pem =>
      cases parsed : parseX509Pem pem with
      | error err => simp [clean, parsed]
      | ok contents =>
        cases contents with
        | other data => simp [clean, parsed, parseX509]
        | certificate cert => simp [clean, parsed, parseX509, checkCertificate_clean]
  · simp [clean]

end Checks

section Loading

variable {rustls : Rustls} {files : FileSystem} {tls : TlsConfig} {served : ServerTls}

theorem withContext_ok {Value : Type} {context : String} {result : Except String Value}
    {value : Value} : withContext context result = .ok value ↔ result = .ok value := by
  cases result <;> simp [withContext]

/-- The first step of a successful sequence succeeds, and so does the rest. -/
theorem except_bind_ok {First Next : Type} {first : Except String First}
    {next : First → Except String Next} {value : Next} :
    (first >>= next) = .ok value ↔ ∃ middle, first = .ok middle ∧ next middle = .ok value := by
  cases first <;> simp [bind, Except.bind]

/-- A loaded configuration serves the first certificate block, and its files hold
a CA certificate and a private key. -/
theorem load_reads (loaded : loadTlsConfig rustls files tls = .ok served) :
    servedLeaf files tls.caCert = some served.root ∧
      servedLeaf files tls.cert = some served.leaf ∧
      ∃ pem, readToString (files.file tls.key) = .ok pem ∧
        privateKey pem = .ok (some served.key) := by
  simp only [loadTlsConfig, except_bind_ok, withContext_ok] at loaded
  obtain ⟨caPem, readCa, certPem, readCert, keyPem, readKey, caCerts, parsedCa, loaded⟩ := loaded
  cases caCerts with
  | nil => cases loaded
  | cons caCert otherRoots =>
    simp only [except_bind_ok, withContext_ok] at loaded
    obtain ⟨_, added, daemonCerts, parsedCerts, loaded⟩ := loaded
    cases daemonCerts with
    | nil => cases loaded
    | cons leaf intermediates =>
      simp only [except_bind_ok] at loaded
      obtain ⟨daemonKey, parsedKey, loaded⟩ := loaded
      cases daemonKey with
      | none => cases loaded
      | some key =>
        simp only [except_bind_ok] at loaded
        obtain ⟨_, built, _, accepted, same⟩ := loaded
        obtain rfl := Except.ok.inj same
        exact ⟨by simp [servedLeaf, readCa, parsedCa], by simp [servedLeaf, readCert, parsedCerts],
          keyPem, readKey, parsedKey⟩

end Loading

/-- A report has no errors exactly when the port is usable, the configuration
loads, and the first block of the certificate file, if it decodes, is usable.

Proof: each check is clean or not; what loads has passed the checks of the files. -/
theorem validate_clean (rustls : Rustls) (displayTime : Int → String) (files : FileSystem)
    (config : DaemonConfig) (now : Int) :
    (validateConfig rustls displayTime files config now).errors = [] ↔
      config.server.port ≠ some 0 ∧
      (∃ served, loadTlsConfig rustls files config.tls = .ok served) ∧
      ∀ cert, firstBlock files config.tls.cert = some (.certificate cert) → Usable now cert := by
  simp only [validateConfig, checkLeaf_clean, checkLoad_clean, checkKey_clean, checkDaemonCert,
    checkCaCert, checkCerts_clean, checkPort_clean, ValidationReport.empty, true_and]
  constructor
  · rintro ⟨⟨⟨⟨⟨port, _⟩, _⟩, _⟩, loads⟩, first⟩
    exact ⟨port, loads, first⟩
  · rintro ⟨port, ⟨served, loaded⟩, first⟩
    obtain ⟨root, leaf, pem, read, parsed⟩ := load_reads loaded
    exact ⟨⟨⟨⟨⟨port, served.root, root⟩, served.leaf, leaf⟩, pem, served.key, read, parsed⟩, served,
      loaded⟩, first⟩

/-- What a clean report promises: the configuration loads, and the leaf it serves
is a usable certificate. -/
def Sound (rustls : Rustls) (displayTime : Int → String) (files : FileSystem)
    (config : DaemonConfig) (now : Int) : Prop :=
  (validateConfig rustls displayTime files config now).errors = [] →
    ∃ served cert, loadTlsConfig rustls files config.tls = .ok served ∧
      served.leaf = .certificate cert ∧ Usable now cert

/-- The first block decodes to a certificate, and this is the served leaf or is
itself refused by the checks. -/
def Inspected (files : FileSystem) (path : String) (now : Int) : Prop :=
  ∃ cert, firstBlock files path = some (.certificate cert) ∧
    (servedLeaf files path = some (.certificate cert) ∨ ¬ Usable now cert)

/-- A file that begins with the served leaf, as one that decodes, is judged rightly. -/
theorem first_block_served_sound {rustls : Rustls} {displayTime : Int → String} {files : FileSystem}
    {config : DaemonConfig} {now : Int} {cert : Certificate}
    (first : firstBlock files config.tls.cert = some (.certificate cert))
    (same : servedLeaf files config.tls.cert = some (.certificate cert)) :
    Sound rustls displayTime files config now := by
  intro clean
  obtain ⟨_, ⟨served, loaded⟩, checked⟩ := (validate_clean rustls displayTime files config now).mp clean
  have leaf := (load_reads loaded).2.1
  exact ⟨served, cert, loaded, Option.some.inj (leaf.symm.trans same), checked cert first⟩

/-- The condition under which a clean report is right: unless the port is refused
or the configuration does not load, either the first block decodes and is the
served leaf or is itself refused, or the served leaf happens to be usable.

Proof: a clean report means that the first block is usable where it decodes. If
it is the served leaf, that is the promise; any other usable or undecodable first
block leaves the served leaf unchecked. -/
theorem validation_sound_iff (rustls : Rustls) (displayTime : Int → String) (files : FileSystem)
    (config : DaemonConfig) (now : Int) :
    Sound rustls displayTime files config now ↔
      (config.server.port ≠ some 0 →
        (∃ served, loadTlsConfig rustls files config.tls = .ok served) →
        Inspected files config.tls.cert now ∨
          ∃ cert, servedLeaf files config.tls.cert = some (.certificate cert) ∧ Usable now cert) := by
  constructor
  · intro sound port loads
    by_cases checked : ∀ cert, firstBlock files config.tls.cert = some (.certificate cert) →
        Usable now cert
    · have clean := (validate_clean rustls displayTime files config now).mpr ⟨port, loads, checked⟩
      obtain ⟨served, cert, loaded, leaf, usable⟩ := sound clean
      have first := (load_reads loaded).2.1
      exact .inr ⟨cert, leaf ▸ first, usable⟩
    · simp only [not_forall] at checked
      obtain ⟨cert, first, refused⟩ := checked
      exact .inl ⟨cert, first, .inr refused⟩
  · intro condition clean
    obtain ⟨port, ⟨served, loaded⟩, checked⟩ :=
      (validate_clean rustls displayTime files config now).mp clean
    obtain ⟨cert, first, same | refused⟩ | ⟨cert, same, usable⟩ := condition port ⟨served, loaded⟩
    · exact first_block_served_sound first same clean
    · exact absurd (checked cert first) refused
    · have leaf := (load_reads loaded).2.1
      exact ⟨served, cert, loaded, Option.some.inj (leaf.symm.trans same), usable⟩

/-- A TLS library that accepts what it is given. -/
def accepting : Rustls := ⟨fun _ => .ok (), fun _ => .ok (), fun _ _ => .ok ()⟩

/-- A server certificate of the first thousand seconds. -/
def briefCertificate : Certificate := ⟨0, 1000, .ok (some ⟨true⟩)⟩

/-- The certificate file begins with the parameters block that some tools write
before the certificate. -/
def parametersFirst : FileSystem where
  file path :=
    if path = "daemon.pem" then
      .contents [.block "EC PARAMETERS" (.other "prime256v1"),
        .block "CERTIFICATE" (.certificate briefCertificate)]
    else if path = "ca.pem" then .contents [.block "CERTIFICATE" (.certificate briefCertificate)]
    else .contents [.block "PRIVATE KEY" (.other "key")]
  mode _ := some 0o600

def exampleConfig : DaemonConfig := ⟨⟨some 3625⟩, ⟨"ca.pem", "daemon.pem", "daemon-key.pem"⟩⟩

/-- Long after the leaf has expired its file is still reported valid. -/
theorem expired_leaf_reported_valid :
    ¬ ∀ rustls displayTime files config now, Sound rustls displayTime files config now := by
  intro claimed
  obtain ⟨served, cert, loaded, leaf, usable⟩ :=
    claimed accepting (fun _ => "") parametersFirst exampleConfig 5000 rfl
  obtain rfl := Except.ok.inj loaded
  obtain rfl := Contents.certificate.inj leaf
  exact absurd usable (by decide)

end Brewmble.ServedLeaf
