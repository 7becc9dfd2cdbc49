import Brewmble.Execution
import Brewmble.Rest

/-!
# The daemon's request handlers and background tasks

Requests carry numbers; any finite number of handlers and tasks may be under way
at once. Every access to a cell that handlers share is a step of its own: the
compare-exchange on the upgrading flag, the load of that flag by a reboot
request, the spawn of a task, the store of its handle. What a handler does
between two such accesses reads only immutable fields and joins the next step.

An upgrade task and a reboot task proceed by their own steps. A panic and an
error of the package manager both return control to the task, whose guard clears
the flag when it is dropped. A reboot task waits for its delay, runs the first
command, and runs the fallback unless the first one succeeded. Time is abstract:
a started delay may elapse at any later step.

Request extraction, the TLS listener, the request timeout layer and the logger
are not modelled. No handler awaits between the compare-exchange and its answer,
so a dropped connection cannot stop it there.
-/

namespace Brewmble.Daemon

open Rest

/-- The fields of the daemon's state that no handler changes. -/
structure AppState where
  allowReboot : Bool
  autoClean : Bool
  autoRemove : Bool
  /-- The package manager's name. -/
  packageManager : String
  pmAvailable : Bool
  deriving DecidableEq, Repr

/-- `CARGO_PKG_VERSION` of the daemon. -/
def packageVersion : String := "0.5.1"

/-- The refusal text shared by all handlers that need the package manager. -/
def AppState.notThisSystem (state : AppState) : String :=
  "the system is not a " ++ state.packageManager ++ " system"

def upgradeRunningMessage : String := "a full upgrade is currently running"

def triggeredMessage : String := "full upgrade triggered"

/-- The status body: the message and updates vary, the flags are the daemon's. -/
def AppState.statusResponse (state : AppState) (isUpgrading : Bool) (message : String)
    (updates : List String) : StatusResponse where
  message := message
  updates := updates
  isUpgrading := isUpgrading
  daemonVersion := some packageVersion
  allowReboot := state.allowReboot
  autoClean := state.autoClean
  autoRemove := state.autoRemove

/-- `status_handler`: the loaded flag and the package manager's answer determine
the response. The package manager is not asked when it is unavailable. -/
def statusHandler (state : AppState) (isUpgrading : Bool)
    (getUpdates : Except String (List String)) : StatusCode × StatusResponse :=
  if !state.pmAvailable then
    (.preconditionFailed, state.statusResponse isUpgrading state.notThisSystem [])
  else
    match getUpdates with
    | .ok updates =>
      let message :=
        if updates.length = 0 then "System is up to date"
        else "System has " ++ toString updates.length ++ " outdated packages"
      (.ok, state.statusResponse isUpgrading message updates)
    | .error err =>
      (.internalServerError,
        state.statusResponse isUpgrading ("Failed to check for updates: " ++ err) [])

/-- The bodies that the two posting endpoints receive. -/
inductive Request where
  | fullUpgrade (payload : UpgradeRequest)
  | reboot (payload : RebootRequest)
  deriving DecidableEq, Repr

inductive Response where
  | upgrade (status : StatusCode) (body : UpgradeResponse)
  | reboot (status : StatusCode) (body : RebootResponse)
  deriving DecidableEq, Repr

/-- The single acceptance answer of `full_upgrade_handler`. -/
def triggered : Response := .upgrade .ok ⟨triggeredMessage, none⟩

/-- Where the handler of one request number stands. -/
inductive Handler where
  | idle
  | upgradeReceived (payload : UpgradeRequest)
  | dryRunning
  /-- The compare-exchange succeeded; the task is not spawned yet. -/
  | upgradeClaimed
  /-- The task is spawned; its handle is still local to the handler. -/
  | upgradeSpawned
  | upgradeStored
  | rebootReceived (payload : RebootRequest)
  /-- The flag was loaded as false. -/
  | rebootPassed (delay : Option Nat)
  | rebootSpawned
  | answered (response : Response)
  deriving DecidableEq, Repr

/-- How the package manager's `full_upgrade` gives back control. -/
inductive Outcome where
  | ok
  | err (message : String)
  | panic
  deriving DecidableEq, Repr

/-- The background task of one accepted upgrade request. -/
inductive UpgradeTask where
  | absent
  /-- Spawned; the guard does not exist yet. -/
  | ready
  /-- The guard exists and `full_upgrade` has been called. -/
  | upgrading
  | returned (outcome : Outcome)
  /-- The guard has been dropped. -/
  | ended (outcome : Outcome)
  deriving DecidableEq, Repr

/-- A spawned task whose guard has not been dropped. -/
def UpgradeTask.inFlight : UpgradeTask → Bool
  | .ready | .upgrading | .returned _ => true
  | .absent | .ended _ => false

/-- The task has called `full_upgrade`. -/
def UpgradeTask.called : UpgradeTask → Bool
  | .upgrading | .returned _ | .ended _ => true
  | .absent | .ready => false

inductive RebootCommand where
  | systemctl
  | fallback
  deriving DecidableEq, Repr

def RebootCommand.program : RebootCommand → String
  | .systemctl | .fallback => "/usr/bin/sudo"

def RebootCommand.args : RebootCommand → List String
  | .systemctl => ["-n", "/usr/bin/systemctl", "reboot"]
  | .fallback => ["-n", "/usr/sbin/reboot"]

/-- What running a reboot command reports. -/
inductive CommandResult where
  | success
  | failure (status : String)
  | error (message : String)
  deriving DecidableEq, Repr

/-- The background task of one permitted reboot request: `execute_reboot`. -/
inductive RebootTask where
  | absent
  | sleeping (seconds : Nat)
  | issuing (command : RebootCommand)
  | awaiting (command : RebootCommand)
  | finished
  deriving DecidableEq, Repr

/-- `execute_reboot` sleeps first exactly when a delay was given. -/
def RebootTask.start : Option Nat → RebootTask
  | some seconds => .sleeping seconds
  | none => .issuing .systemctl

/-- Success ends the task. A failed first command is followed by the fallback. -/
def RebootTask.afterCommand : RebootCommand → CommandResult → RebootTask
  | _, .success => .finished
  | .systemctl, _ => .issuing .fallback
  | .fallback, _ => .finished

/-- One reboot command as it was issued, with the flag at that moment. -/
structure Issued where
  request : Nat
  command : RebootCommand
  whileUpgrading : Bool
  deriving DecidableEq, Repr

/-- The shared cells, every handler and task, and the calls made so far. The last
two fields and `requests` record history that no handler reads. -/
structure State where
  isUpgrading : Bool
  upgradeHandle : Option Nat
  handlers : Nat → Handler
  upgrades : Nat → UpgradeTask
  reboots : Nat → RebootTask
  requests : Nat → Option Request
  fullUpgradeCalls : List Nat
  issued : List Issued

/-- No request has arrived. -/
def initial : State where
  isUpgrading := false
  upgradeHandle := none
  handlers := fun _ => .idle
  upgrades := fun _ => .absent
  reboots := fun _ => .absent
  requests := fun _ => none
  fullUpgradeCalls := []
  issued := []

namespace State

def setHandler (daemon : State) (request : Nat) (handler : Handler) : State :=
  { daemon with handlers := Function.update daemon.handlers request handler }

def setUpgrade (daemon : State) (request : Nat) (task : UpgradeTask) : State :=
  { daemon with upgrades := Function.update daemon.upgrades request task }

def setReboot (daemon : State) (request : Nat) (task : RebootTask) : State :=
  { daemon with reboots := Function.update daemon.reboots request task }

end State

def Handler.start : Request → Handler
  | .fullUpgrade payload => .upgradeReceived payload
  | .reboot payload => .rebootReceived payload

/-- One atomic step of a handler. Both handlers test the package manager first.
A dry run awaits the package manager, so its answer is a separate event. -/
def advance (state : AppState) (daemon : State) (request : Nat) : Option State :=
  match daemon.handlers request with
  | .upgradeReceived payload =>
    if !state.pmAvailable then
      some (daemon.setHandler request
        (.answered (.upgrade .preconditionFailed ⟨state.notThisSystem, none⟩)))
    else if payload.dryRun then some (daemon.setHandler request .dryRunning)
    else if daemon.isUpgrading then
      some (daemon.setHandler request
        (.answered (.upgrade .preconditionFailed ⟨upgradeRunningMessage, none⟩)))
    else some { daemon.setHandler request .upgradeClaimed with isUpgrading := true }
  | .upgradeClaimed =>
    some ((daemon.setUpgrade request .ready).setHandler request .upgradeSpawned)
  | .upgradeSpawned =>
    some { daemon.setHandler request .upgradeStored with upgradeHandle := some request }
  | .upgradeStored => some (daemon.setHandler request (.answered triggered))
  | .rebootReceived payload =>
    if !state.pmAvailable then
      some (daemon.setHandler request
        (.answered (.reboot .preconditionFailed ⟨state.notThisSystem⟩)))
    else if daemon.isUpgrading then
      some (daemon.setHandler request (.answered (.reboot .locked ⟨upgradeRunningMessage⟩)))
    else some (daemon.setHandler request (.rebootPassed payload.delaySecs))
  | .rebootPassed delay =>
    if !state.allowReboot then
      some (daemon.setHandler request
        (.answered (.reboot .forbidden ⟨"reboot is not enabled on this daemon"⟩)))
    else some ((daemon.setReboot request (.start delay)).setHandler request .rebootSpawned)
  | .rebootSpawned =>
    some (daemon.setHandler request (.answered (.reboot .ok ⟨"reboot triggered"⟩)))
  | .idle | .dryRunning | .answered _ => none

/-- The answer to a completed dry run. -/
def dryRunResponse : Except String (List String) → Response
  | .ok updates => .upgrade .ok ⟨"dry-run completed", some updates⟩
  | .error err => .upgrade .internalServerError ⟨"dry-run failed: " ++ err, none⟩

/-- What may happen next anywhere in the daemon. -/
inductive Event where
  | received (request : Nat) (body : Request)
  | advanced (request : Nat)
  | dryRunReturned (request : Nat) (result : Except String (List String))
  | upgradeStarted (request : Nat)
  | upgradeReturned (request : Nat) (outcome : Outcome)
  | guardDropped (request : Nat)
  | delayElapsed (request : Nat)
  | commandIssued (request : Nat)
  | commandReturned (request : Nat) (result : CommandResult)

/-- The request whose handler the event advances, if it does. -/
def Event.advancing : Event → Option Nat
  | .advanced request => some request
  | _ => none

/-- One step of the whole daemon; nothing where the event cannot happen. -/
def next (state : AppState) (daemon : State) : Event → Option State
  | .received request body =>
    if daemon.handlers request = .idle then
      some { daemon.setHandler request (Handler.start body) with
        requests := Function.update daemon.requests request (some body) }
    else none
  | .advanced request => advance state daemon request
  | .dryRunReturned request result =>
    if daemon.handlers request = .dryRunning then
      some (daemon.setHandler request (.answered (dryRunResponse result)))
    else none
  | .upgradeStarted request =>
    if daemon.upgrades request = .ready then
      some { daemon.setUpgrade request .upgrading with
        fullUpgradeCalls := request :: daemon.fullUpgradeCalls }
    else none
  | .upgradeReturned request outcome =>
    if daemon.upgrades request = .upgrading then
      some (daemon.setUpgrade request (.returned outcome))
    else none
  | .guardDropped request =>
    match daemon.upgrades request with
    | .returned outcome =>
      some { daemon.setUpgrade request (.ended outcome) with isUpgrading := false }
    | _ => none
  | .delayElapsed request =>
    match daemon.reboots request with
    | .sleeping _ => some (daemon.setReboot request (.issuing .systemctl))
    | _ => none
  | .commandIssued request =>
    match daemon.reboots request with
    | .issuing command =>
      some { daemon.setReboot request (.awaiting command) with
        issued := ⟨request, command, daemon.isUpgrading⟩ :: daemon.issued }
    | _ => none
  | .commandReturned request result =>
    match daemon.reboots request with
    | .awaiting command => some (daemon.setReboot request (.afterCommand command result))
    | _ => none

end Brewmble.Daemon
