import Brewmble.CommandLines
import Brewmble.Execution
import Mathlib.Data.List.Infix

/-!
# Looking for updates with apt and brew

Both package managers look for updates in the same way: under a lock they compare the
time of the last refresh with the time to live of the cache, then refresh the cache if
it is due and record the time of this, and list what can be upgraded. A command that
cannot be spawned or that exits with a failure ends the call.

A call is a program of such steps, which the source runs between awaits. Any number
of calls share the time of the last refresh; the steps of one may come between those
of another, and time passes between all of them. A command runs on a thread of its own;
what this gives to the command runner is logged, with what it gets. Times are nanoseconds
of a monotonic clock. On other systems than Linux apt looks for nothing, which is not
modelled.
-/

namespace Brewmble.PackageManagers

open CommandLines Scripts

/-- What a call has still to do. -/
inductive Program where
  /-- Under the lock: the time that it is and the one of the last refresh. -/
  | checkLast (next : Nat → Option Nat → Program)
  /-- Under the lock: this is the time of the last refresh. -/
  | recordNow (next : Program)
  /-- What a blocking thread executes, and how the call goes on after it. -/
  | command (execute : Commands Reply) (next : Reply → Program)
  | returned (result : Except String (List String))

def nanosPerSec : Nat := 1000000000

/-- `as_secs`. -/
def asSecs (nanos : Nat) : Nat := nanos / nanosPerSec

section Text

/-- `lines`: a line may end in a line feed, or in a carriage return and a line feed. -/
def linesFrom (current : List Char) : List Char → List (List Char)
  | [] => if current = [] then [] else [current.reverse]
  | '\n' :: rest =>
    (if current.head? = some '\r' then current.tail else current).reverse :: linesFrom [] rest
  | char :: rest => linesFrom (char :: current) rest

def lines (text : String) : List (List Char) := linesFrom [] text.toList

/-- The white space of Unicode. -/
def isWhitespace (char : Char) : Bool :=
  let code := char.toNat
  0x9 ≤ code && code ≤ 0xD || code = 0x20 || code = 0x85 || code = 0xA0 || code = 0x1680 ||
    0x2000 ≤ code && code ≤ 0x200A || code = 0x2028 || code = 0x2029 || code = 0x202F ||
    code = 0x205F || code = 0x3000

def splitWhitespace (text : List Char) : List (List Char) :=
  (text.splitOnP isWhitespace).filter (· ≠ [])

def contains (text pattern : String) : Bool := decide (pattern.toList <:+: text.toList)

end Text

namespace Apt

/-- `Apt::get_updates`. -/
def getUpdates (cacheTtl : Nat) : Program :=
  .checkLast fun now lastUpdate =>
    let shouldUpdate :=
      match lastUpdate with
      | some last => if asSecs cacheTtl > 0 then decide (now - last ≥ cacheTtl) else true
      | none => true
    let listUpdates : Program :=
      .command (Apt.runAsync "sudo" ["apt-get", "-s", "dist-upgrade"])
        fun
        | .error err => .returned (.error err)
        | .ok output =>
          if output.status.success then
            .returned (.ok ((lines output.stdout).filter ("Inst ".toList.isPrefixOf ·)
              |>.filterMap fun line => ((splitWhitespace line)[1]?).map String.ofList))
          else
            .returned (.error ("Failed to determine available updates: " ++ output.status.text ++
              ". stderr: " ++ output.stderr))
    if shouldUpdate then
      .command (Apt.runAsync "sudo" ["apt-get", "update"])
        fun
        | .error err => .returned (.error err)
        | .ok output =>
          if output.status.success then .recordNow listUpdates
          else
            .returned (.error
              (if contains output.stderr "Permission denied" || contains output.stderr "Are you root" then
                "Permission denied when updating apt cache. Are you running as root? stderr: " ++
                  output.stderr
              else
                "Failed to update apt cache: " ++ output.status.text ++ ". stderr: " ++ output.stderr))
    else listUpdates

end Apt

namespace Brew

/-- `Brew::get_updates`. -/
def getUpdates (cacheTtl : Nat) : Program :=
  .checkLast fun now lastUpdate =>
    let shouldUpdate :=
      match lastUpdate with
      | some last => if asSecs cacheTtl > 0 then decide (now - last ≥ cacheTtl) else true
      | none => true
    let listUpdates : Program :=
      .command (Brew.runBrewAsync ["outdated", "--quiet"])
        fun
        | .error err => .returned (.error err)
        | .ok output =>
          if output.status.success then
            .returned (.ok (((lines output.stdout).filter (· ≠ [])).map String.ofList))
          else
            .returned (.error ("brew outdated failed with status: " ++ output.status.text ++
              ". stderr: " ++ output.stderr))
    if shouldUpdate then
      .command (Brew.runBrewAsync ["update"])
        fun
        | .error err => .returned (.error err)
        | .ok output =>
          if output.status.success then .recordNow listUpdates
          else
            .returned (.error ("brew update failed with status: " ++ output.status.text ++
              ". stderr: " ++ output.stderr))
    else listUpdates

end Brew

section Calls

/-- Where a call stands: before its next step, or awaiting a command. -/
inductive Thread where
  | ready (program : Program)
  | awaiting (execute : Commands Reply) (next : Reply → Program)

/-- What calls have done. -/
inductive Entry where
  | checked (call time : Nat) (last : Option Nat)
  /-- A thread begins with this command line, if it runs any. -/
  | started (call : Nat) (line : Option CommandLine)
  /-- A thread has run these command lines. -/
  | finished (call : Nat) (runs : List (CommandLine × Reply)) (outcome : Reply)
  | recorded (call time : Nat)

def Entry.call : Entry → Nat
  | .checked call _ _ | .started call _ | .finished call _ _ | .recorded call _ => call

/-- A package manager with its calls, and what they have done so far. -/
structure State where
  now : Nat
  lastUpdate : Option Nat
  calls : Nat → Thread
  trace : List Entry

inductive Event where
  | passed (nanos : Nat)
  /-- The next step of a call; a thread that it awaits is run with this runner. -/
  | advanced (call : Nat) (runner : Runner)

def State.log (state : State) (entry : Entry) (thread : Thread) : State :=
  { state with
    calls := Function.update state.calls entry.call thread
    trace := state.trace ++ [entry] }

def next (state : State) : Event → Option State
  | .passed nanos => some { state with now := state.now + nanos }
  | .advanced call runner =>
    match state.calls call with
    | .ready (.checkLast next) =>
      some (state.log (.checked call state.now state.lastUpdate)
        (.ready (next state.now state.lastUpdate)))
    | .ready (.recordNow next) =>
      some { state.log (.recorded call state.now) (.ready next) with lastUpdate := some state.now }
    | .ready (.command execute next) =>
      some (state.log (.started call execute.first) (.awaiting execute next))
    | .awaiting execute next =>
      let (runs, outcome) := execute.answer runner
      some (state.log (.finished call runs outcome) (.ready (next outcome)))
    | .ready (.returned _) => none

/-- No call has begun. -/
def initial (getUpdates : Program) (now : Nat) : State where
  now := now
  lastUpdate := none
  calls _ := .ready getUpdates
  trace := []

end Calls

end Brewmble.PackageManagers
