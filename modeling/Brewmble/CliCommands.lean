import Brewmble.Fallible
import Brewmble.Pin
import Brewmble.Rest
import Brewmble.StatusSummary
import Mathlib.Data.List.Dedup

/-!
# The commands that contact nodes

The status, node and version commands check the stored fingerprints of the nodes
and send requests; the discover command merges what it found. Each follows the
source in the error monad over a session: the configuration in memory and the
file it was loaded from. A session also records what it has done so far, as the
checks and requests in order and the entries of the active profile at each moment
at which some may have changed.

What is fetched may differ from check to check, so a fetch is given the number of
checks before it. Saving and building the client may fail. Responses, printing and
progress are not modelled here; the status workers run in any order.
-/

namespace Brewmble.CliCommands

open CliConfig Pin ResolveUrl Fallible Rest StatusSummary

inductive Request where
  | status
  | upgrade (dryRun : Bool)
  | reboot
  deriving DecidableEq, Repr

def Request.path : Request → String
  | .status => pathStatus
  | .upgrade _ => pathUpgrade
  | .reboot => pathReboot

inductive Event where
  | checked (node : NodeConfig) (outcome : Except String PinOutcome)
  | requested (address url : String) (request : Request)

/-- The order in which the status workers get to their targets. -/
structure Schedule where
  arrange : List Target → List Target
  perm : ∀ targets, (arrange targets).Perm targets

/-- Everything a command depends on beside the configuration and its arguments. -/
structure Environment where
  /-- By the number of earlier checks, the address and its URL. -/
  fetch : Nat → String → String → Except String String
  saveFault : Option String
  clientFault : Option String
  /-- The addresses found by discovery, each with an id or a name. -/
  discovered : Except String (List (String × String))
  schedule : Schedule

structure Session where
  config : Config
  file : Option Config
  checks : Nat
  history : List (List NodeConfig)
  events : List Event
  /-- A save has begun. -/
  saving : Bool

/-- Nothing has been done with this configuration. -/
def Session.start (config : Config) (file : Option Config) : Session where
  config := config
  file := file
  checks := 0
  history := [config.active]
  events := []
  saving := false

/-- A command begins by loading its configuration. -/
def Session.begin (file : Option Config) : Session := .start (loadConfig file) file

abbrev SessionCall (Value : Type) := Call String Session Value

variable (env : Environment)

/-- What the given check of the command makes of a node. -/
def Environment.outcome (check : Nat) (node : NodeConfig) : Except String PinOutcome :=
  checkPinWithFetcher node node.address (env.fetch check node.address)

section Calls

/-- `check_pin`. -/
def checkPin (node : NodeConfig) : SessionCall (Except String PinOutcome) := do
  let outcome := env.outcome (← Call.read Session.checks) node
  Call.modify fun session =>
    { session with
      checks := session.checks + 1
      events := session.events ++ [.checked node outcome] }
  return outcome

/-- The session with a fingerprint written to the first entry at the address. -/
def Session.learn (address fingerprint : String) (session : Session) : Session :=
  let config := updateNodeFingerprint session.config address fingerprint
  { session with config := config, history := session.history ++ [config.active] }

def saveConfig : SessionCall Unit := do
  Call.modify fun session => { session with saving := true }
  Call.attempt env.saveFault
  Call.modify fun session => { session with file := some session.config }

def send (request : Request) (address : String) : SessionCall Unit :=
  Call.modify fun session =>
    { session with
      events := session.events ++
        [.requested address (resolveUrl address ++ request.path) request] }

def sendEach (request : Request) : List String → SessionCall Unit
  | [] => return ()
  | address :: rest => do
    send request address
    sendEach request rest

end Calls

/-- `validate_and_update_pins`: whether a fingerprint was learned. -/
def validateAndUpdatePins : List NodeConfig → SessionCall Bool
  | [] => return false
  | node :: rest => do
    match ← checkPin env node with
    | .ok (.learned fingerprint) =>
      Call.modify (Session.learn node.address fingerprint)
      let _ ← validateAndUpdatePins rest
      return true
    | .ok .matched => validateAndUpdatePins rest
    | .error _ => validateAndUpdatePins rest

/-- The part that the node and status commands share: check the nodes, save what was
learned, build the client and send the request to each address. -/
def contactEach (request : Request) (nodes : List NodeConfig) (addresses : List String) :
    SessionCall Unit := do
  if ← validateAndUpdatePins env nodes then saveConfig env
  Call.attempt env.clientFault
  sendEach request addresses

section Node

structure NodeArgs where
  fullUpgrade : Bool
  reboot : Bool
  dryRun : Bool
  list : Bool
  nodes : List String
  deriving DecidableEq, Repr

/-- The entry that is called by its name, or by its address where it has none. -/
def isCalled (nodeName : String) (node : NodeConfig) : Bool :=
  node.name = some nodeName || node.name = none && node.address = nodeName

def matchNodes (activeProfile : String) (entries : List NodeConfig) :
    List String → Except String (List NodeConfig)
  | [] => .ok []
  | nodeName :: rest =>
    match entries.find? (isCalled nodeName) with
    | some node => (matchNodes activeProfile entries rest).map (node :: ·)
    | none =>
      .error ("Node '" ++ nodeName ++ "' not found in profile '" ++ activeProfile ++ "'")

/-- `resolve_profile_nodes`. -/
def resolveProfileNodes (nodes : List String) (config : Config) :
    Except String (List NodeConfig) :=
  match config.profiles config.activeProfile with
  | none => .error ("Profile '" ++ config.activeProfile ++ "' not found")
  | some profile =>
    if nodes = [] then .ok profile.nodes
    else matchNodes config.activeProfile profile.nodes nodes

def NodeArgs.request (args : NodeArgs) : Request :=
  if args.reboot then .reboot else .upgrade args.dryRun

/-- `run_node`. -/
def runNode (args : NodeArgs) : SessionCall Unit := do
  if !args.fullUpgrade && !args.reboot && !args.list then
    Call.fail "either --full-upgrade (-u), --reboot (-r), or --list (-l) must be specified"
  else if args.dryRun && !args.fullUpgrade then
    Call.fail "--dry-run can only be used with --full-upgrade"
  else
    match resolveProfileNodes args.nodes (← Call.read Session.config) with
    | .error err => Call.fail err
    | .ok targetNodes =>
      if targetNodes.isEmpty || args.list then return ()
      else contactEach env args.request targetNodes (targetNodes.map (·.address))

end Node

section Status

structure StatusArgs where
  discoverAll : Bool
  targets : List String
  deriving DecidableEq, Repr

/-- A target that is a node's address or name stands for the address of the first
such node. -/
def targetAddress (profileNodes : List NodeConfig) (target : String) : String :=
  ((profileNodes.find? fun node => node.address = target || node.name = some target).map
    (·.address)).getD target

/-- `initial_targets`: without targets and discovery, all nodes of the profile. -/
def initialTargets (args : StatusArgs) (profileNodes : List NodeConfig) : List String :=
  let named := (args.targets.map (targetAddress profileNodes)).dedup
  if named = [] && !args.discoverAll then (profileNodes.map (·.address)).dedup else named

/-- `nodes_to_validate`. -/
def nodesToValidate (args : StatusArgs) (profileNodes : List NodeConfig) : List NodeConfig :=
  let initial := initialTargets args profileNodes
  if initial = [] && args.discoverAll then []
  else if initial = [] then profileNodes
  else profileNodes.filter (·.address ∈ initial)

/-- Discovery that fails finds nothing. -/
def discoveredTargets (args : StatusArgs) : List Target :=
  if args.discoverAll then
    match env.discovered with
    | .ok found => found.map fun (address, name) => ⟨address, some name⟩
    | .error _ => []
  else []

/-- What the workers of `run_status` are given. -/
def statusQueue (args : StatusArgs) (profileNodes : List NodeConfig) : List Target :=
  (initialTargets args profileNodes).map (fun address =>
    ⟨address, (profileNodes.find? (·.address = address)).bind (·.name)⟩) ++
  discoveredTargets env args

/-- `run_status` up to the reports: every address is queried once. -/
def runStatus (args : StatusArgs) : SessionCall Unit := do
  let profileNodes := (← Call.read Session.config).active
  contactEach env .status (nodesToValidate args profileNodes)
    ((firstSeen [] (env.schedule.arrange (statusQueue env args profileNodes))).map (·.address))

end Status

section Version

/-- The loop of `run_version`: a node whose check fails is skipped. -/
def queryVersions : List NodeConfig → SessionCall Bool
  | [] => return false
  | node :: rest => do
    match ← checkPin env node with
    | .ok (.learned fingerprint) =>
      Call.modify (Session.learn node.address fingerprint)
      send .status node.address
      let _ ← queryVersions rest
      return true
    | .ok .matched =>
      send .status node.address
      queryVersions rest
    | .error _ => queryVersions rest

/-- `run_version`. -/
def runVersion : SessionCall Unit := do
  let config ← Call.read Session.config
  match config.profiles config.activeProfile with
  | none => return ()
  | some profile =>
    Call.attempt env.clientFault
    if ← queryVersions env profile.nodes then saveConfig env

end Version

section Discover

/-- The entries after each of the merged daemons. -/
def mergeMoments : List (String × String) → List NodeConfig → List (List NodeConfig)
  | [], _ => []
  | (addr, id) :: rest, nodes =>
    let merged := (mergeNode addr id nodes).1
    merged :: mergeMoments rest merged

/-- `run_discover`: the configuration is loaded once more. -/
def runDiscover (updateConfig : Bool) : SessionCall Unit := do
  match env.discovered with
  | .error err => Call.fail err
  | .ok discoveredNodes =>
    if updateConfig then
      let config := loadConfig (← Call.read Session.file)
      let (merged, updated) := mergeNodes config discoveredNodes
      Call.modify fun session =>
        { session with
          config := merged
          history := session.history ++ mergeMoments discoveredNodes config.active }
      if updated then saveConfig env

end Discover

inductive Command where
  | node (args : NodeArgs)
  | status (args : StatusArgs)
  | version
  | discover (updateConfig : Bool)

def runCommand : Command → SessionCall Unit
  | .node args => runNode env args
  | .status args => runStatus env args
  | .version => runVersion env
  | .discover updateConfig => runDiscover env updateConfig

end Brewmble.CliCommands
