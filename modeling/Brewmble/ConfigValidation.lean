import Brewmble.PemFile

/-!
# Loading and validating the daemon's TLS configuration

The three TLS files are named by the configuration and read from a file system.
Loading picks the served certificates from the certificate file and builds the
server configuration; validation repeats the readers with messages of its own,
then loads, and then checks validity and usage on a certificate that it picks
with another reader.

What the TLS library accepts as a root, as a verifier and as a chain with its key
is a parameter, and so is the text of a time. The current time is the one moment
at which validation asks for it.
-/

namespace Brewmble.ConfigValidation

open PemFile

structure ServerConfig where
  port : Option UInt16
  deriving DecidableEq, Repr

structure TlsConfig where
  caCert : String
  cert : String
  key : String
  deriving DecidableEq, Repr

/-- The part of the configuration that validation reads. -/
structure DaemonConfig where
  server : ServerConfig
  tls : TlsConfig
  deriving DecidableEq, Repr

/-- What is found at a path. -/
inductive FileState where
  | missing
  | unreadable (err : String)
  | contents (segments : List Segment)

/-- Files by path, and their permission bits where these can be read. -/
structure FileSystem where
  file : String → FileState
  mode : String → Option Nat

def FileState.isPresent : FileState → Bool
  | .missing => false
  | _ => true

/-- `std::fs::read_to_string`. -/
def readToString : FileState → Except String (List Segment)
  | .missing => .error "No such file or directory (os error 2)"
  | .unreadable err => .error err
  | .contents segments => .ok segments

/-- What the TLS library decides. -/
structure Rustls where
  addRoot : Contents → Except String Unit
  buildVerifier : Contents → Except String Unit
  withSingleCert : List Contents → Contents → Except String Unit

/-- The loaded configuration: the trusted root, the served chain and its key. -/
structure ServerTls where
  root : Contents
  leaf : Contents
  intermediates : List Contents
  key : Contents
  alpnProtocols : List String

/-- The chain as it is handed to the TLS library. -/
def ServerTls.chain (served : ServerTls) : List Contents := served.leaf :: served.intermediates

/-- Prefix an error, as `map_err` with a format string. -/
def withContext {Value : Type} (context : String) : Except String Value → Except String Value
  | .ok value => .ok value
  | .error err => .error (context ++ err)

/-- `load_tls_config`. -/
def loadTlsConfig (rustls : Rustls) (files : FileSystem) (tls : TlsConfig) :
    Except String ServerTls := do
  let caPem ← withContext ("failed to read CA cert file '" ++ tls.caCert ++ "': ")
    (readToString (files.file tls.caCert))
  let certPem ← withContext ("failed to read daemon cert file '" ++ tls.cert ++ "': ")
    (readToString (files.file tls.cert))
  let keyPem ← withContext ("failed to read daemon key file '" ++ tls.key ++ "': ")
    (readToString (files.file tls.key))
  let caCerts ← withContext "failed to parse CA cert: " (certs caPem)
  match caCerts with
  | [] => .error "CA cert file is empty"
  | caCert :: _ =>
    rustls.addRoot caCert
    let daemonCerts ← withContext "failed to parse daemon cert: " (certs certPem)
    match daemonCerts with
    | [] => .error "daemon cert file is empty"
    | leaf :: intermediates =>
      match ← privateKey keyPem with
      | none => .error "daemon key file is empty or unparseable"
      | some daemonKey =>
        rustls.buildVerifier caCert
        rustls.withSingleCert (leaf :: intermediates) daemonKey
        return ⟨caCert, leaf, intermediates, daemonKey, ["h2", "http/1.1"]⟩

structure ValidationReport where
  errors : List String
  warnings : List String
  deriving DecidableEq, Repr

namespace ValidationReport

def isValid (report : ValidationReport) : Bool := report.errors.isEmpty

def empty : ValidationReport := ⟨[], []⟩

def error (report : ValidationReport) (message : String) : ValidationReport :=
  { report with errors := report.errors ++ [message] }

def warning (report : ValidationReport) (message : String) : ValidationReport :=
  { report with warnings := report.warnings ++ [message] }

end ValidationReport

def checkPort (server : ServerConfig) (report : ValidationReport) : ValidationReport :=
  match server.port with
  | some port => if port = 0 then report.error "server.port cannot be 0" else report
  | none => report

/-- The check of a file that must hold certificates. The two such files differ in
how the messages name them. -/
def checkCerts (name path : String) (files : FileSystem) (report : ValidationReport) :
    ValidationReport :=
  if !(files.file path).isPresent then
    report.error (name ++ " file '" ++ path ++ "' does not exist")
  else
    match readToString (files.file path) with
    | .ok pem =>
      match certs pem with
      | .ok [] => report.error (name ++ " file '" ++ path ++ "' contains no valid certificates")
      | .error err => report.error (name ++ " file '" ++ path ++ "' is invalid: " ++ err)
      | .ok (_ :: _) => report
    | .error err => report.error (name ++ " file '" ++ path ++ "' cannot be read: " ++ err)

def checkCaCert : String → FileSystem → ValidationReport → ValidationReport :=
  checkCerts "TLS CA certificate"

def checkDaemonCert : String → FileSystem → ValidationReport → ValidationReport :=
  checkCerts "TLS daemon certificate"

/-- An octal number with at least four digits. -/
def octal (number : Nat) : String :=
  String.ofList ((Nat.toDigits 8 number).leftpad 4 '0')

/-- A key that others may read is warned about. -/
def checkKeyMode (path : String) (files : FileSystem) (report : ValidationReport) :
    ValidationReport :=
  match files.mode path with
  | some mode =>
    if mode &&& 0o077 ≠ 0 then
      report.warning ("TLS daemon private key file '" ++ path ++
        "' has permissive permissions (" ++ octal (mode &&& 0o777) ++ "); recommended is 0600")
    else report
  | none => report

def checkKey (path : String) (files : FileSystem) (report : ValidationReport) :
    ValidationReport :=
  if !(files.file path).isPresent then
    report.error ("TLS daemon private key file '" ++ path ++ "' does not exist")
  else
    match readToString (files.file path) with
    | .ok pem =>
      match privateKey pem with
      | .ok (some _) => checkKeyMode path files report
      | .ok none =>
        report.error ("TLS daemon private key file '" ++ path ++ "' contains no valid private key")
      | .error err =>
        report.error ("TLS daemon private key file '" ++ path ++ "' is invalid: " ++ err)
    | .error err =>
      report.error ("TLS daemon private key file '" ++ path ++ "' cannot be read: " ++ err)

/-- The load check, made only on a report without errors. -/
def checkLoad (rustls : Rustls) (files : FileSystem) (tls : TlsConfig)
    (report : ValidationReport) : ValidationReport :=
  if report.isValid then
    match loadTlsConfig rustls files tls with
    | .ok _ => report
    | .error err => report.error ("TLS configuration is invalid: " ++ err)
  else report

/-- The difference of two times, where the first is later. -/
def timeDifference (later now : Int) : Option Int :=
  if later > now then some (later - now) else none

def thirtyDays : Int := 30 * 24 * 60 * 60

/-- `has_server_auth`. -/
def hasServerAuth (cert : Certificate) : Bool :=
  match cert.extendedKeyUsage with
  | .ok (some usage) => usage.serverAuth
  | _ => false

/-- The validity checks, of which at most one reports. -/
def checkValidity (displayTime : Int → String) (now : Int) (cert : Certificate)
    (report : ValidationReport) : ValidationReport :=
  if now < cert.notBefore then
    report.error ("TLS daemon certificate is not yet valid (valid from " ++
      displayTime cert.notBefore ++ ")")
  else if now > cert.notAfter then
    report.error ("TLS daemon certificate expired on " ++ displayTime cert.notAfter)
  else if ((timeDifference cert.notAfter now).map fun left => decide (left < thirtyDays)).getD
      false then
    report.warning ("TLS daemon certificate expires on " ++ displayTime cert.notAfter ++
      " (less than 30 days)")
  else report

def checkServerAuth (cert : Certificate) (report : ValidationReport) : ValidationReport :=
  if hasServerAuth cert then report
  else report.error "TLS daemon certificate missing required ExtendedKeyUsage ServerAuth"

/-- The expiry and usage checks, made only on a report without errors and only on
a first block that decodes. -/
def checkLeaf (displayTime : Int → String) (now : Int) (files : FileSystem) (path : String)
    (report : ValidationReport) : ValidationReport :=
  if report.isValid then
    match readToString (files.file path) with
    | .ok pem =>
      match parseX509Pem pem with
      | .ok contents =>
        match parseX509 contents with
        | .ok cert => checkServerAuth cert (checkValidity displayTime now cert report)
        | .error _ => report
      | .error _ => report
    | .error _ => report
  else report

/-- `validate_config`: the checks in their order. -/
def validateConfig (rustls : Rustls) (displayTime : Int → String) (files : FileSystem)
    (config : DaemonConfig) (now : Int) : ValidationReport :=
  let ported := checkPort config.server .empty
  let rooted := checkCaCert config.tls.caCert files ported
  let certified := checkDaemonCert config.tls.cert files rooted
  let keyed := checkKey config.tls.key files certified
  let loaded := checkLoad rustls files config.tls keyed
  checkLeaf displayTime now files config.tls.cert loaded

/-- `ensure_valid_config`. -/
def ensureValidConfig (rustls : Rustls) (displayTime : Int → String) (files : FileSystem)
    (config : DaemonConfig) (now : Int) : Except (List String) Unit :=
  let report := validateConfig rustls displayTime files config now
  if !report.isValid then .error report.errors else .ok ()

/-- A configuration is accepted exactly when its report has no errors. -/
theorem ensure_valid_iff (rustls : Rustls) (displayTime : Int → String) (files : FileSystem)
    (config : DaemonConfig) (now : Int) :
    ensureValidConfig rustls displayTime files config now = .ok () ↔
      (validateConfig rustls displayTime files config now).errors = [] := by
  cases found : (validateConfig rustls displayTime files config now).errors <;>
    simp [ensureValidConfig, ValidationReport.isValid, found]

end Brewmble.ConfigValidation
