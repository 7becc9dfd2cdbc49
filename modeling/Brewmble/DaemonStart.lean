import Brewmble.Announcement
import Brewmble.Daemon
import Brewmble.DaemonFiles
import Brewmble.RefreshInterval

/-!
# Starting daemons on one host

A daemon finds, loads and validates its configuration, looks for a port that it can bind,
loads the TLS configuration, announces itself and then binds the port again to serve it.
Between the two binds it does not hold the port. Any number of daemons start, serve and stop
on one host, in any interleaving of these steps, and a bind may be refused for any reason.

Two sockets of one address are never bound at the same time, and which other addresses
exclude each other is a parameter. What a daemon reads from files is read from the same
files each time: they do not change while it starts. Requests and the wait for a running
upgrade are modelled elsewhere.
-/

namespace Brewmble.DaemonStart

open Announcement CacheRefresh ConfigPaths ConfigValidation DaemonFiles Execution IpAddress RefreshInterval ServedLeaf

/-- The configuration with all that `main` reads of it. -/
structure StartConfig extends LoadedConfig where
  hostname : Option String
  ip : Option IpAddr
  bindAddress : Option IpAddr
  mdns : Bool
  allowReboot : Bool

/-- What a start finds on its machine, with the libraries. -/
structure Machine where
  view : View
  home : Option String
  explicitPath : Option PathText
  /-- `serde_yaml_ng::from_str`. -/
  parse : String → Except String StartConfig
  rustls : Rustls
  displayTime : Int → String
  files : FileSystem
  now : Int
  /-- `gethostname`. -/
  system : String
  build : Build
  macos : Bool
  brewAvailable : Bool
  aptAvailable : Bool

section Preparing

variable (machine : Machine)

/-- `load_config`. -/
def loadConfig (parse : String → Except String StartConfig) : Option FileContent → Except ConfigError StartConfig
  | some (.text content) =>
    match parse content with
    | .ok config => .ok config
    | .error err => .error (.parse err)
  | some (.unreadable err) => .error (.reading err)
  | none => .error (.reading "No such file or directory (os error 2)")

/-- The path and the configuration at it. -/
def resolveAndLoad : Except ConfigError (PathText × StartConfig) := do
  let path ← resolveConfigPath machine.view machine.home machine.explicitPath
  let config ← loadConfig machine.parse (machine.view path)
  return (path, config)

/-- A loaded configuration, unless it is invalid. -/
def validated (config : StartConfig) : Except ConfigError StartConfig :=
  match ensureValidConfig machine.rustls machine.displayTime machine.files config.toDaemonConfig machine.now with
  | .ok () => .ok config
  | .error errors => .error (.validation errors)

/-- `main`, up to the configuration that is valid. -/
def prepare : Except ConfigError StartConfig := do
  let found ← resolveAndLoad machine
  validated machine found.2

/-- `run_config_validate`: the line that it prints. -/
def runConfigValidate : Except String String :=
  match resolveAndLoad machine with
  | .error err => .error err.message
  | .ok (path, config) =>
    let report := validateConfig machine.rustls machine.displayTime machine.files config.toDaemonConfig machine.now
    if !report.isValid then .error "Configuration validation failed"
    else .ok ("Configuration at '" ++ path.text ++ "' is valid.")

def defaultPort : UInt16 := 4712

def serverBindIp (config : StartConfig) : IpAddr := config.bindAddress.getD (.v4 ⟨0, 0, 0, 0⟩)

/-- `SocketAddr::from`. -/
def socketAddr (ip : IpAddr) (port : UInt16) : SocketAddr :=
  match ip with
  | .v4 ip => .v4 ip port
  | .v6 ip => .v6 ip port

/-- What decides about the announcement on this port. -/
def announcer (config : StartConfig) (port : UInt16) : Announcer :=
  ⟨config.hostname, machine.system, port, config.ip⟩

/-- `get_package_manager`, with its name and whether it is available, if the build does not
panic. -/
def getPackageManager (config : StartConfig) : Option (String × Bool × Manager) :=
  let autoClean := config.features.autoClean
  let autoRemove := config.features.autoRemove
  let interval := config.packageManager.updateIntervalMins
  match Brew.new machine.build autoClean autoRemove interval with
  | none => none
  | some brew =>
    if machine.macos || machine.brewAvailable then some ("brew", machine.brewAvailable, brew)
    else (Apt.new machine.build autoClean autoRemove interval).map fun apt => ("apt", machine.aptAvailable, apt)

/-- The state that the handlers are given. -/
def appState (config : StartConfig) (name : String) (available : Bool) : Daemon.AppState where
  allowReboot := config.allowReboot
  autoClean := config.features.autoClean
  autoRemove := config.features.autoRemove
  packageManager := name
  pmAvailable := available

end Preparing

/-- Which sockets cannot be bound at the same time. -/
structure Exclusion where
  excludes : SocketAddr → SocketAddr → Bool
  self : ∀ addr, excludes addr addr = true
  symm : ∀ addr other, excludes addr other = excludes other addr

/-- What is served, and where. -/
structure Service where
  addr : SocketAddr
  tls : ServerTls
  state : Daemon.AppState
  manager : Manager

inductive Failure where
  | config (err : ConfigError)
  | port (err : String)
  | tls (err : String)
  /-- The interval of the package manager overflows. -/
  | panicked
  | killed
  deriving DecidableEq, Repr

/-- Where a daemon stands, with what it has computed so far. -/
inductive Phase where
  | initial
  /-- About to bind this port. -/
  | probing (config : StartConfig) (port : UInt16)
  /-- The listener of the probe is bound, to be dropped. -/
  | holding (config : StartConfig) (port : UInt16)
  | found (config : StartConfig) (port : UInt16)
  /-- About to bind the port again, with an announcement unless there is none. -/
  | announced (config : StartConfig) (port : UInt16) (tls : ServerTls) (info : Option ServiceInfo)
  | serving (service : Service) (info : Option ServiceInfo)
  /-- The server has ended, and the announcement is to be withdrawn. -/
  | closing (info : Option ServiceInfo)
  | exited
  | failed (failure : Failure)

structure State where
  phase : Nat → Phase
  /-- The sockets that are bound, each with its daemon. -/
  sockets : List (Nat × SocketAddr)
  /-- The ports that a daemon has logged as in use, in this order. -/
  tried : Nat → List UInt16

def State.initial : State := ⟨fun _ => .initial, [], fun _ => []⟩

inductive Event where
  | started (daemon : Nat)
  | bound (daemon : Nat)
  | refused (daemon : Nat) (err : String)
  | dropped (daemon : Nat)
  /-- TLS is loaded, and the announcement, if there is to be one, succeeds or not. -/
  | registered (daemon : Nat) (succeeds : Bool)
  | panicked (daemon : Nat)
  | listened (daemon : Nat)
  /-- The server cannot bind its port. -/
  | deaf (daemon : Nat)
  /-- A signal has arrived, or the server has failed. -/
  | stopped (daemon : Nat)
  | closed (daemon : Nat)
  | killed (daemon : Nat)
  deriving DecidableEq, Repr

def State.set (state : State) (daemon : Nat) (phase : Phase) : State :=
  { state with phase := Function.update state.phase daemon phase }

def State.free (exclusion : Exclusion) (state : State) (addr : SocketAddr) : Bool :=
  state.sockets.all fun socket => !exclusion.excludes addr socket.2

def State.bind (state : State) (daemon : Nat) (addr : SocketAddr) : State :=
  { state with sockets := (daemon, addr) :: state.sockets }

/-- Close the sockets of a daemon. -/
def State.unbind (state : State) (daemon : Nat) : State :=
  { state with sockets := state.sockets.filter fun socket => socket.1 ≠ daemon }

def State.log (state : State) (daemon : Nat) (port : UInt16) : State :=
  { state with tried := Function.update state.tried daemon (state.tried daemon ++ [port]) }

/-- One step of one daemon. -/
def next (machines : Nat → Machine) (exclusion : Exclusion) (state : State) : Event → Option State
  | .started daemon =>
    match state.phase daemon with
    | .initial =>
      match prepare (machines daemon) with
      | .ok config => some (state.set daemon (.probing config (config.server.port.getD defaultPort)))
      | .error err => some (state.set daemon (.failed (.config err)))
    | _ => none
  | .bound daemon =>
    match state.phase daemon with
    | .probing config port =>
      let addr := socketAddr (serverBindIp config) port
      if state.free exclusion addr then some ((state.bind daemon addr).set daemon (.holding config port)) else none
    | _ => none
  | .refused daemon err =>
    match state.phase daemon with
    | .probing config port =>
      match config.server.port with
      | some _ => some (state.set daemon (.failed (.port err)))
      | none =>
        if port = 65535 then some (state.set daemon (.failed (.port err)))
        else some ((state.log daemon port).set daemon (.probing config (port + 1)))
    | _ => none
  | .dropped daemon =>
    match state.phase daemon with
    | .holding config port => some ((state.unbind daemon).set daemon (.found config port))
    | _ => none
  | .registered daemon succeeds =>
    match state.phase daemon with
    | .found config port =>
      match loadTlsConfig (machines daemon).rustls (machines daemon).files config.tls with
      | .error err => some (state.set daemon (.failed (.tls err)))
      | .ok tls =>
        let info := if config.mdns && succeeds then some (announcer (machines daemon) config port).info else none
        some (state.set daemon (.announced config port tls info))
    | _ => none
  | .panicked daemon =>
    match state.phase daemon with
    | .announced config _ _ _ =>
      match getPackageManager (machines daemon) config with
      | none => some (state.set daemon (.failed .panicked))
      | some _ => none
    | _ => none
  | .listened daemon =>
    match state.phase daemon with
    | .announced config port tls info =>
      match getPackageManager (machines daemon) config with
      | none => none
      | some (name, available, manager) =>
        let addr := socketAddr (serverBindIp config) port
        if state.free exclusion addr then
          some ((state.bind daemon addr).set daemon
            (.serving ⟨addr, tls, appState config name available, manager⟩ info))
        else none
    | _ => none
  | .deaf daemon =>
    match state.phase daemon with
    | .announced config _ _ info =>
      match getPackageManager (machines daemon) config with
      | none => none
      | some _ => some (state.set daemon (.closing info))
    | _ => none
  | .stopped daemon =>
    match state.phase daemon with
    | .serving _ info => some ((state.unbind daemon).set daemon (.closing info))
    | _ => none
  | .closed daemon =>
    match state.phase daemon with
    | .closing _ => some (state.set daemon .exited)
    | _ => none
  | .killed daemon =>
    match state.phase daemon with
    | .exited | .failed _ => none
    | _ => some ((state.unbind daemon).set daemon (.failed .killed))

section Lawful

variable {machines : Nat → Machine} {exclusion : Exclusion}

/-- The ports from the default one on, in their order. -/
def Logged (tried : List UInt16) : Prop :=
  tried.map UInt16.toNat = List.range' 4712 tried.length ∧ tried.length ≤ 60823

/-- How the search has come to this port. -/
def Searched (config : StartConfig) (port : UInt16) (tried : List UInt16) : Prop :=
  match config.server.port with
  | some configured => port = configured ∧ tried = []
  | none => port.toNat = 4712 + tried.length

/-- An announcement is made where it is configured, for this port. -/
def Shows (machine : Machine) (config : StartConfig) (port : UInt16) (info : Option ServiceInfo) : Prop :=
  ∀ shown, info = some shown → config.mdns = true ∧ shown = (announcer machine config port).info

/-- What is served after a search that has come to this port. -/
structure Serves (machine : Machine) (config : StartConfig) (port : UInt16) (service : Service) : Prop where
  addr : service.addr = socketAddr (serverBindIp config) port
  tls : loadTlsConfig machine.rustls machine.files config.tls = .ok service.tls
  handlers : ∃ name available, getPackageManager machine config = some (name, available, service.manager) ∧
    service.state = appState config name available

/-- What a daemon has done by the time it stands there. -/
def Fits (machine : Machine) (tried : List UInt16) : Phase → Prop
  | .initial => tried = []
  | .probing config port | .holding config port | .found config port =>
    prepare machine = .ok config ∧ Searched config port tried
  | .announced config port tls info =>
    (prepare machine = .ok config ∧ Searched config port tried) ∧
      loadTlsConfig machine.rustls machine.files config.tls = .ok tls ∧ Shows machine config port info
  | .serving service info => ∃ config port, (prepare machine = .ok config ∧ Searched config port tried) ∧
      Serves machine config port service ∧ Shows machine config port info
  | .closing info => ∃ config port, (prepare machine = .ok config ∧ Searched config port tried) ∧
      Shows machine config port info
  | .failed (.config err) => prepare machine = .error err
  | .failed (.port _) => ∃ config, prepare machine = .ok config ∧
      ∃ port, Searched config port tried ∧ (config.server.port = none → port = 65535)
  | .failed (.tls _) => False
  | .failed _ | .exited => True

/-- The socket that a daemon has bound. -/
def boundAt : Phase → Option SocketAddr
  | .holding config port => some (socketAddr (serverBindIp config) port)
  | .serving service _ => some service.addr
  | _ => none

structure Lawful (machines : Nat → Machine) (exclusion : Exclusion) (state : State) : Prop where
  fits : ∀ daemon, Fits (machines daemon) (state.tried daemon) (state.phase daemon)
  logged : ∀ daemon, Logged (state.tried daemon)
  sockets : ∀ daemon addr, (daemon, addr) ∈ state.sockets ↔ boundAt (state.phase daemon) = some addr
  apart : state.sockets.Pairwise fun socket other => exclusion.excludes socket.2 other.2 = false

theorem initial_lawful : Lawful machines exclusion .initial where
  fits _ := rfl
  logged _ := ⟨rfl, Nat.zero_le _⟩
  sockets _ _ := by simp [State.initial, boundAt]
  apart := List.Pairwise.nil

variable {state : State} {daemon : Nat} {phase : Phase}

theorem set_self : (state.set daemon phase).phase daemon = phase := Function.update_self ..

theorem set_other {other : Nat} (different : other ≠ daemon) :
    (state.set daemon phase).phase other = state.phase other := Function.update_of_ne different ..

/-- A step of one daemon, by what it does to its sockets. -/
theorem change_lawful (daemon : Nat) (lawful : Lawful machines exclusion state) {reached : State}
    (fits : Fits (machines daemon) (reached.tried daemon) (reached.phase daemon))
    (logged : Logged (reached.tried daemon))
    (others : ∀ other, other ≠ daemon → reached.phase other = state.phase other ∧
      reached.tried other = state.tried other ∧
      ∀ addr, (other, addr) ∈ reached.sockets ↔ (other, addr) ∈ state.sockets)
    (own : ∀ addr, (daemon, addr) ∈ reached.sockets ↔ boundAt (reached.phase daemon) = some addr)
    (apart : reached.sockets.Pairwise fun socket other => exclusion.excludes socket.2 other.2 = false) :
    Lawful machines exclusion reached where
  fits other := by
    by_cases same : other = daemon
    · exact same ▸ fits
    · obtain ⟨phase, tried, _⟩ := others other same
      rw [phase, tried]
      exact lawful.fits other
  logged other := by
    by_cases same : other = daemon
    · exact same ▸ logged
    · rw [(others other same).2.1]
      exact lawful.logged other
  sockets other addr := by
    by_cases same : other = daemon
    · exact same ▸ own addr
    · obtain ⟨phase, _, taken⟩ := others other same
      rw [phase]
      exact (taken addr).trans (lawful.sockets other addr)
  apart := apart

/-- A step that leaves the sockets of the host alone. -/
theorem set_lawful (lawful : Lawful machines exclusion state)
    (fits : Fits (machines daemon) (state.tried daemon) phase)
    (same : boundAt phase = boundAt (state.phase daemon)) : Lawful machines exclusion (state.set daemon phase) := by
  refine change_lawful daemon lawful ?_ (lawful.logged daemon) ?_ ?_ lawful.apart
  · rw [set_self]
    exact fits
  · exact fun other different => ⟨set_other different, rfl, fun addr => Iff.rfl⟩
  · intro addr
    rw [set_self, same]
    exact lawful.sockets daemon addr

/-- A port that is in use is logged, and the next one is tried. -/
theorem log_lawful (lawful : Lawful machines exclusion state) {port : UInt16}
    (fits : Fits (machines daemon) (state.tried daemon ++ [port]) phase)
    (logged : Logged (state.tried daemon ++ [port]))
    (same : boundAt phase = boundAt (state.phase daemon)) :
    Lawful machines exclusion ((state.log daemon port).set daemon phase) := by
  refine change_lawful daemon lawful ?_ ?_ ?_ ?_ lawful.apart
  · rw [set_self]
    simpa [State.set, State.log] using fits
  · simpa [State.set, State.log] using logged
  · exact fun other different => ⟨set_other different, by simp [State.set, State.log, different], fun addr => Iff.rfl⟩
  · intro addr
    rw [set_self, same]
    exact lawful.sockets daemon addr

theorem bind_lawful (lawful : Lawful machines exclusion state) {addr : SocketAddr}
    (fits : Fits (machines daemon) (state.tried daemon) phase) (unbound : boundAt (state.phase daemon) = none)
    (bound : boundAt phase = some addr) (free : state.free exclusion addr = true) :
    Lawful machines exclusion ((state.bind daemon addr).set daemon phase) := by
  refine change_lawful daemon lawful ?_ (lawful.logged daemon) ?_ ?_ ?_
  · rw [set_self]
    exact fits
  · exact fun other different => ⟨set_other different, rfl, by simp [State.set, State.bind, different]⟩
  · intro taken
    have earlier := lawful.sockets daemon taken
    rw [unbound] at earlier
    rw [set_self, bound]
    simpa [State.set, State.bind, earlier] using eq_comm
  · refine List.pairwise_cons.mpr ⟨?_, lawful.apart⟩
    intro socket member
    simpa using List.all_eq_true.mp free socket member

theorem unbind_lawful (lawful : Lawful machines exclusion state)
    (fits : Fits (machines daemon) (state.tried daemon) phase) (unbound : boundAt phase = none) :
    Lawful machines exclusion ((state.unbind daemon).set daemon phase) := by
  refine change_lawful daemon lawful ?_ (lawful.logged daemon) ?_ ?_ (lawful.apart.filter _)
  · rw [set_self]
    exact fits
  · exact fun other different => ⟨set_other different, rfl, by simp [State.set, State.unbind, different]⟩
  · intro addr
    rw [set_self, unbound]
    simp [State.set, State.unbind]

end Lawful

section Steps

variable {machines : Nat → Machine} {exclusion : Exclusion} {state reached : State}

/-- The search begins at the configured port, or at the default one. -/
theorem searched_first (config : StartConfig) : Searched config (config.server.port.getD defaultPort) [] := by
  unfold Searched
  cases config.server.port with
  | some port => exact ⟨rfl, rfl⟩
  | none => rfl

theorem searched_next {config : StartConfig} {port : UInt16} {tried : List UInt16}
    (searched : Searched config port tried) (logged : Logged tried) (unset : config.server.port = none)
    (more : port ≠ 65535) : Searched config (port + 1) (tried ++ [port]) ∧ Logged (tried ++ [port]) := by
  simp only [Searched, unset] at searched ⊢
  obtain ⟨ports, _⟩ := logged
  have below : port.toNat < 65535 := by
    have bounded := port.toNat_lt
    have other : port.toNat ≠ 65535 := fun same => more (UInt16.toNat_inj.mp same)
    omega
  refine ⟨?_, ?_, ?_⟩
  · have one : (1 : UInt16).toNat = 1 := rfl
    rw [UInt16.toNat_add, List.length_append, List.length_singleton]
    omega
  · rw [List.map_append, ports, List.length_append, List.length_singleton, List.range'_concat]
    simp [searched]
  · rw [List.length_append, List.length_singleton]
    omega

def errorsOf (machine : Machine) (config : StartConfig) : List String :=
  (validateConfig machine.rustls machine.displayTime machine.files config.toDaemonConfig machine.now).errors

theorem validated_iff {machine : Machine} {config same : StartConfig} :
    validated machine config = .ok same ↔ config = same ∧ errorsOf machine config = [] := by
  have accepts : ensureValidConfig machine.rustls machine.displayTime machine.files config.toDaemonConfig
      machine.now = .ok () ↔ errorsOf machine config = [] := ensure_valid_iff ..
  rw [← accepts]
  unfold validated
  cases ensureValidConfig machine.rustls machine.displayTime machine.files config.toDaemonConfig machine.now <;> simp

/-- The configuration that a start goes on with is the loaded one, if it is valid. -/
theorem prepare_iff {machine : Machine} {config : StartConfig} : prepare machine = .ok config ↔
    ∃ path, resolveAndLoad machine = .ok (path, config) ∧ errorsOf machine config = [] := by
  unfold prepare
  cases loaded : resolveAndLoad machine with
  | error err =>
    have stops : (Except.error err >>= fun found : PathText × StartConfig => validated machine found.2) =
        .error err := rfl
    simp [stops]
  | ok found =>
    have goes : (Except.ok found >>= fun found => validated machine found.2) = validated machine found.2 := rfl
    rw [goes, validated_iff]
    constructor
    · rintro ⟨rfl, valid⟩
      exact ⟨found.1, rfl, valid⟩
    · rintro ⟨path, same, valid⟩
      obtain rfl := Except.ok.inj same
      exact ⟨rfl, valid⟩

theorem prepare_loads {machine : Machine} {config : StartConfig} (prepared : prepare machine = .ok config) :
    ∃ tls, loadTlsConfig machine.rustls machine.files config.tls = .ok tls := by
  obtain ⟨_, _, valid⟩ := prepare_iff.mp prepared
  exact ((validate_clean ..).mp valid).2.1

theorem shows_announcer (machine : Machine) (config : StartConfig) (port : UInt16) (succeeds : Bool) :
    Shows machine config port
      (if config.mdns && succeeds then some (announcer machine config port).info else none) := by
  intro shown made
  by_cases announces : (config.mdns && succeeds) = true
  · rw [if_pos announces] at made
    exact ⟨(Bool.and_eq_true_iff.mp announces).1, (Option.some.inj made).symm⟩
  · rw [if_neg announces] at made
    cases made

/-- Where the search ends without a port, all of them have been refused. -/
theorem refused_lawful (lawful : Lawful machines exclusion state) {daemon : Nat} {err : String}
    (step : next machines exclusion state (.refused daemon err) = some reached) :
    Lawful machines exclusion reached := by
  simp only [next] at step
  split at step
  · rename_i config port stands
    have fits : Fits (machines daemon) (state.tried daemon) (.probing config port) := stands ▸ lawful.fits daemon
    obtain ⟨prepared, searched⟩ := fits
    have unbound : boundAt (state.phase daemon) = none := stands ▸ rfl
    split at step
    · rename_i configured given
      obtain rfl := Option.some.inj step
      refine set_lawful lawful ⟨config, prepared, port, searched, ?_⟩ unbound.symm
      intro unset
      rw [unset] at given
      cases given
    · rename_i unset
      split at step
      · rename_i last
        obtain rfl := Option.some.inj step
        exact set_lawful lawful ⟨config, prepared, port, searched, fun _ => last⟩ unbound.symm
      · rename_i more
        obtain rfl := Option.some.inj step
        obtain ⟨searched', logged⟩ := searched_next searched (lawful.logged daemon) unset more
        exact log_lawful lawful ⟨prepared, searched'⟩ logged unbound.symm
  · cases step

theorem started_lawful (lawful : Lawful machines exclusion state) {daemon : Nat}
    (step : next machines exclusion state (.started daemon) = some reached) :
    Lawful machines exclusion reached := by
  simp only [next] at step
  split at step
  · rename_i stands
    have fits : Fits (machines daemon) (state.tried daemon) .initial := stands ▸ lawful.fits daemon
    have untried : state.tried daemon = [] := fits
    have unbound : boundAt (state.phase daemon) = none := stands ▸ rfl
    split at step
    · rename_i config prepared
      obtain rfl := Option.some.inj step
      refine set_lawful lawful ⟨prepared, ?_⟩ unbound.symm
      rw [untried]
      exact searched_first config
    · rename_i err refused
      obtain rfl := Option.some.inj step
      exact set_lawful lawful refused unbound.symm
  · cases step

theorem registered_lawful (lawful : Lawful machines exclusion state) {daemon : Nat} {succeeds : Bool}
    (step : next machines exclusion state (.registered daemon succeeds) = some reached) :
    Lawful machines exclusion reached := by
  simp only [next] at step
  split at step
  · rename_i config port stands
    have fits : Fits (machines daemon) (state.tried daemon) (.found config port) := stands ▸ lawful.fits daemon
    have unbound : boundAt (state.phase daemon) = none := stands ▸ rfl
    obtain ⟨tls, loads⟩ := prepare_loads fits.1
    rw [loads] at step
    obtain rfl := Option.some.inj step
    exact set_lawful lawful ⟨fits, loads, shows_announcer _ config port succeeds⟩ unbound.symm
  · cases step

theorem listened_lawful (lawful : Lawful machines exclusion state) {daemon : Nat}
    (step : next machines exclusion state (.listened daemon) = some reached) :
    Lawful machines exclusion reached := by
  simp only [next] at step
  split at step
  · rename_i config port tls info stands
    have fits : Fits (machines daemon) (state.tried daemon) (.announced config port tls info) :=
      stands ▸ lawful.fits daemon
    have unbound : boundAt (state.phase daemon) = none := stands ▸ rfl
    split at step
    · cases step
    · rename_i name available manager made
      obtain ⟨free, same⟩ := Option.ite_none_right_eq_some.mp step
      obtain rfl := Option.some.inj same
      obtain ⟨begun, loads, shows⟩ := fits
      exact bind_lawful lawful ⟨config, port, begun, ⟨rfl, loads, name, available, made, rfl⟩, shows⟩ unbound rfl free
  · cases step

/-- Whatever one daemon does, the host stays lawful. -/
theorem step_lawful (lawful : Lawful machines exclusion state) {event : Event}
    (step : next machines exclusion state event = some reached) : Lawful machines exclusion reached := by
  cases event with
  | started daemon => exact started_lawful lawful step
  | refused daemon err => exact refused_lawful lawful step
  | registered daemon succeeds => exact registered_lawful lawful step
  | listened daemon => exact listened_lawful lawful step
  | bound daemon =>
    simp only [next] at step
    split at step
    · rename_i config port stands
      obtain ⟨free, same⟩ := Option.ite_none_right_eq_some.mp step
      obtain rfl := Option.some.inj same
      have fits : Fits (machines daemon) (state.tried daemon) (.probing config port) := stands ▸ lawful.fits daemon
      exact bind_lawful lawful fits (stands ▸ rfl) rfl free
    · cases step
  | dropped daemon =>
    simp only [next] at step
    split at step
    · rename_i config port stands
      obtain rfl := Option.some.inj step
      have fits : Fits (machines daemon) (state.tried daemon) (.holding config port) := stands ▸ lawful.fits daemon
      exact unbind_lawful lawful fits rfl
    · cases step
  | panicked daemon =>
    simp only [next] at step
    split at step
    · rename_i config port tls info stands
      split at step
      · obtain rfl := Option.some.inj step
        exact set_lawful lawful trivial (stands ▸ rfl)
      · cases step
    · cases step
  | deaf daemon =>
    simp only [next] at step
    split at step
    · rename_i config port tls info stands
      split at step
      · cases step
      · obtain rfl := Option.some.inj step
        have fits : Fits (machines daemon) (state.tried daemon) (.announced config port tls info) :=
          stands ▸ lawful.fits daemon
        exact set_lawful lawful ⟨config, port, fits.1, fits.2.2⟩ (stands ▸ rfl)
    · cases step
  | stopped daemon =>
    simp only [next] at step
    split at step
    · rename_i service info stands
      obtain rfl := Option.some.inj step
      have fits : Fits (machines daemon) (state.tried daemon) (.serving service info) := stands ▸ lawful.fits daemon
      obtain ⟨config, port, begun, _, shows⟩ := fits
      exact unbind_lawful lawful ⟨config, port, begun, shows⟩ rfl
    · cases step
  | closed daemon =>
    simp only [next] at step
    split at step
    · rename_i info stands
      obtain rfl := Option.some.inj step
      exact set_lawful lawful trivial (stands ▸ rfl)
    · cases step
  | killed daemon =>
    simp only [next] at step
    split at step
    · cases step
    · cases step
    · obtain rfl := Option.some.inj step
      exact unbind_lawful lawful trivial rfl

/-- `config validate` accepts what a start goes on with. -/
theorem validate_agrees (machine : Machine) :
    (∃ line, runConfigValidate machine = .ok line) ↔ ∃ config, prepare machine = .ok config := by
  simp only [prepare_iff, runConfigValidate]
  cases resolveAndLoad machine with
  | error err => simp
  | ok found =>
    have errors : (validateConfig machine.rustls machine.displayTime machine.files found.2.toDaemonConfig
        machine.now).errors = errorsOf machine found.2 := rfl
    simp only [ValidationReport.isValid, errors]
    cases valid : errorsOf machine found.2 with
    | nil => exact ⟨fun _ => ⟨found.2, found.1, rfl, valid⟩, fun _ => ⟨_, rfl⟩⟩
    | cons err errs =>
      constructor
      · rintro ⟨line, accepted⟩
        cases accepted
      · rintro ⟨config, path, same, none⟩
        obtain rfl := Except.ok.inj same
        rw [none] at valid
        cases valid

end Steps

section Runs

variable {machines : Nat → Machine} {exclusion : Exclusion} {events : List Event} {final : State}

/-- The announcement that is in force. -/
def announcement : Phase → Option ServiceInfo
  | .announced _ _ _ info | .serving _ info | .closing info => info
  | _ => none

theorem announcement_made {machine : Machine} {tried : List UInt16} {phase : Phase} {shown : ServiceInfo}
    (fits : Fits machine tried phase) (inForce : announcement phase = some shown) :
    ∃ config port, prepare machine = .ok config ∧ Searched config port tried ∧ config.mdns = true ∧
      shown = (announcer machine config port).info := by
  cases phase with
  | announced config port tls info =>
    obtain ⟨⟨prepared, searched⟩, _, shows⟩ := fits
    exact ⟨config, port, prepared, searched, shows shown inForce⟩
  | serving service info =>
    obtain ⟨config, port, ⟨prepared, searched⟩, _, shows⟩ := fits
    exact ⟨config, port, prepared, searched, shows shown inForce⟩
  | closing info =>
    obtain ⟨config, port, ⟨prepared, searched⟩, shows⟩ := fits
    exact ⟨config, port, prepared, searched, shows shown inForce⟩
  | initial => cases inForce
  | probing config port => cases inForce
  | holding config port => cases inForce
  | found config port => cases inForce
  | exited => cases inForce
  | failed failure => cases inForce

theorem run_lawful (completed : run (next machines exclusion) .initial events = some final) :
    Lawful machines exclusion final :=
  run_preserves (next machines exclusion) (Lawful machines exclusion)
    (fun _ _ _ lawful step => step_lawful lawful step) initial_lawful completed

theorem serving_apart (lawful : Lawful machines exclusion final) {first second : Nat}
    (different : first ≠ second) {service other : Service} {info info' : Option ServiceInfo}
    (serves : final.phase first = .serving service info) (serves' : final.phase second = .serving other info') :
    exclusion.excludes service.addr other.addr = false := by
  have taken : (first, service.addr) ∈ final.sockets := (lawful.sockets first _).mpr (by rw [serves]; rfl)
  have taken' : (second, other.addr) ∈ final.sockets := (lawful.sockets second _).mpr (by rw [serves']; rfl)
  have symmetric : Std.Symm fun socket other : Nat × SocketAddr => exclusion.excludes socket.2 other.2 = false :=
    ⟨fun socket other apart => (exclusion.symm other.2 socket.2).trans apart⟩
  exact lawful.apart.forall taken taken' fun same => different (Prod.mk.inj same).1

/-- Daemons on one host. Let any number of daemons start, serve, stop and be killed, in any
interleaving of their steps, and let binds be refused for any reason.

A daemon that serves has a configuration that it has found, loaded and validated; it serves
what that configuration says, at the configured port or at the first one from the default
port on that it could bind, and its handlers are given the configured features. No two serve
at sockets that exclude each other. An announcement in force is for the port that this
search has come to, so that it is true of a daemon that serves. A search logs the ports from
the default one on, each once, and fails only after the last one. TLS never fails to load
once the configuration is valid, and `config validate` accepts what a start goes on with.

Proof: each step is one of a daemon whose phase says what it has computed so far, and the
sockets are those of the phases. -/
theorem daemons_on_host (completed : run (next machines exclusion) .initial events = some final) :
    (∀ daemon service info, final.phase daemon = .serving service info →
      ∃ config port, prepare (machines daemon) = .ok config ∧ Searched config port (final.tried daemon) ∧
        Serves (machines daemon) config port service ∧ Shows (machines daemon) config port info) ∧
    (∀ first second service other info info', first ≠ second → final.phase first = .serving service info →
      final.phase second = .serving other info' →
        exclusion.excludes service.addr other.addr = false ∧ service.addr ≠ other.addr) ∧
    (∀ daemon shown, announcement (final.phase daemon) = some shown →
      ∃ config port, prepare (machines daemon) = .ok config ∧ Searched config port (final.tried daemon) ∧
        config.mdns = true ∧ shown = (announcer (machines daemon) config port).info) ∧
    (∀ daemon, Logged (final.tried daemon)) ∧
    (∀ daemon err, final.phase daemon = .failed (.port err) → ∃ config, prepare (machines daemon) = .ok config ∧
      (config.server.port = none → (final.tried daemon).length = 60823)) ∧
    (∀ daemon err, final.phase daemon ≠ .failed (.tls err)) ∧
    ∀ daemon, (∃ line, runConfigValidate (machines daemon) = .ok line) ↔
      ∃ config, prepare (machines daemon) = .ok config := by
  have lawful := run_lawful completed
  refine ⟨?_, ?_, ?_, lawful.logged, ?_, ?_, fun daemon => validate_agrees (machines daemon)⟩
  · intro daemon service info serves
    have fits : Fits (machines daemon) (final.tried daemon) (.serving service info) := serves ▸ lawful.fits daemon
    obtain ⟨config, port, ⟨prepared, searched⟩, served, shows⟩ := fits
    exact ⟨config, port, prepared, searched, served, shows⟩
  · intro first second service other info info' different serves serves'
    have apart := serving_apart lawful different serves serves'
    refine ⟨apart, fun same => ?_⟩
    rw [same, exclusion.self] at apart
    cases apart
  · intro daemon shown inForce
    exact announcement_made (lawful.fits daemon) inForce
  · intro daemon err failed
    have fits : Fits (machines daemon) (final.tried daemon) (.failed (.port err)) := failed ▸ lawful.fits daemon
    obtain ⟨config, prepared, port, searched, last⟩ := fits
    refine ⟨config, prepared, fun unset => ?_⟩
    simp only [Searched, unset] at searched
    have end' : port.toNat = 65535 := last unset ▸ rfl
    omega
  · intro daemon err failed
    have fits : Fits (machines daemon) (final.tried daemon) (.failed (.tls err)) := failed ▸ lawful.fits daemon
    exact fits

/-- Only one address excludes itself. -/
def sameAddress : Exclusion where
  excludes addr other := decide (addr = other)
  self _ := decide_eq_true rfl
  symm _ _ := decide_eq_decide.mpr eq_comm

def hostConfig : StartConfig where
  server := ⟨none⟩
  tls := ⟨"ca.pem", "daemon.pem", "daemon-key.pem"⟩
  features := ⟨false, false⟩
  packageManager := ⟨360⟩
  hostname := none
  ip := none
  bindAddress := none
  mdns := true
  allowReboot := false

/-- The text of this configuration, without what it has by default. -/
def hostText : String := "tls:\n  ca_cert: ca.pem\n  cert: daemon.pem\n  key: daemon-key.pem\n"

def hostMachine : Machine where
  view path := if path = systemConfig then some (.text hostText) else none
  home := none
  explicitPath := none
  parse text := if text = hostText then .ok hostConfig else .error "invalid type"
  rustls := accepting
  displayTime _ := ""
  files := parametersFirst
  now := 500
  system := "node"
  build := .release
  macos := false
  brewAvailable := false
  aptAvailable := true

/-- Both find the same port, and the second one announces it, too, but cannot bind it. -/
def raced : List Event :=
  [.started 0, .bound 0, .dropped 0, .started 1, .bound 1, .dropped 1, .registered 1 true, .registered 0 true,
    .listened 0, .deaf 1, .started 2, .refused 2 "in use", .bound 2, .dropped 2, .registered 2 true, .listened 2]

theorem raced_apart : ∃ final service other info info',
    run (next (fun _ => hostMachine) sameAddress) .initial raced = some final ∧
      final.phase 0 = .serving service info ∧ final.phase 2 = .serving other info' ∧
        service.addr ≠ other.addr ∧ Logged (final.tried 2) ∧ final.tried 2 = [4712] := by
  have completed : run (next (fun _ => hostMachine) sameAddress) .initial raced = some _ := rfl
  obtain ⟨_, apart, _, logged, _⟩ := daemons_on_host completed
  exact ⟨_, _, _, _, _, completed, rfl, rfl, (apart 0 2 _ _ _ _ (by decide) rfl rfl).2, logged 2, rfl⟩

end Runs

end Brewmble.DaemonStart
