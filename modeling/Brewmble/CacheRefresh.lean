import Brewmble.PackageManagers

/-!
# When the package cache is refreshed

Apt and brew differ in their commands and texts only. What both do is told by where a
call stands, and what it has done so far follows from this.

A call refreshes the cache exactly when the time to live is zero, or no refresh is
recorded at its check, or at least the time to live has passed since the last one that
is. Only successful refreshes are recorded, each with its time, and no other step
changes the record. Any number of calls may run in any interleaving.
-/

namespace Brewmble.CacheRefresh

open CommandLines Execution PackageManagers Scripts

/-- The commands and texts of a package manager. -/
structure Backend extends Search where
  refreshArgs : List String
  listArgs : List String
  distinct : listArgs ≠ refreshArgs
  refreshError : Output → String
  listError : Output → String
  updates : String → List String

namespace Backend

variable (backend : Backend)

def afterList : Reply → Program
  | .error err => .returned (.error err)
  | .ok output =>
    if output.status.success then .returned (.ok (backend.updates output.stdout))
    else .returned (.error (backend.listError output))

def listUpdates : Program :=
  .command (backend.command backend.listArgs []) backend.afterList

def afterRefresh : Reply → Program
  | .error err => .returned (.error err)
  | .ok output =>
    if output.status.success then .recordNow backend.listUpdates
    else .returned (.error (backend.refreshError output))

def refresh : Program :=
  .command (backend.command backend.refreshArgs []) backend.afterRefresh

/-- Whether the cache is due for a refresh. -/
def shouldUpdate (cacheTtl now : Nat) (lastUpdate : Option Nat) : Bool :=
  match lastUpdate with
  | some last => if asSecs cacheTtl > 0 then decide (now - last ≥ cacheTtl) else true
  | none => true

/-- A thread that refreshes the cache begins with this command line. -/
def refreshLine : CommandLine := backend.line backend.refreshArgs []

def listLine : CommandLine := backend.line backend.listArgs []

theorem lines_differ : backend.listLine ≠ backend.refreshLine :=
  fun same => backend.distinct (backend.line_args same)

def getUpdates (cacheTtl : Nat) : Program :=
  .checkLast fun now lastUpdate =>
    if shouldUpdate cacheTtl now lastUpdate then backend.refresh else backend.listUpdates

/-- The same calls, with their search for a program told otherwise. -/
theorem getUpdates_by {command : List String → Commands Reply}
    (same : ∀ args, backend.command args [] = command args) (cacheTtl : Nat) :
    backend.getUpdates cacheTtl =
      .checkLast fun now lastUpdate =>
        let listUpdates : Program := .command (command backend.listArgs) backend.afterList
        if shouldUpdate cacheTtl now lastUpdate then
          .command (command backend.refreshArgs)
            fun
            | .error err => .returned (.error err)
            | .ok output =>
              if output.status.success then .recordNow listUpdates
              else .returned (.error (backend.refreshError output))
        else listUpdates := by
  obtain rfl : (fun args => backend.command args []) = command := funext same
  rfl

end Backend

def apt : Backend where
  toSearch := bySudo
  refreshArgs := ["apt-get", "update"]
  listArgs := ["apt-get", "-s", "dist-upgrade"]
  distinct := by decide
  refreshError output :=
    if contains output.stderr "Permission denied" || contains output.stderr "Are you root" then
      "Permission denied when updating apt cache. Are you running as root? stderr: " ++ output.stderr
    else "Failed to update apt cache: " ++ output.status.text ++ ". stderr: " ++ output.stderr
  listError output :=
    "Failed to determine available updates: " ++ output.status.text ++ ". stderr: " ++ output.stderr
  updates stdout := (lines stdout).filter ("Inst ".toList.isPrefixOf ·)
    |>.filterMap fun line => ((splitWhitespace line)[1]?).map String.ofList

def brew : Backend where
  toSearch := brewPaths
  refreshArgs := ["update"]
  listArgs := ["outdated", "--quiet"]
  distinct := by decide
  refreshError output :=
    "brew update failed with status: " ++ output.status.text ++ ". stderr: " ++ output.stderr
  listError output :=
    "brew outdated failed with status: " ++ output.status.text ++ ". stderr: " ++ output.stderr
  updates stdout := ((lines stdout).filter (· ≠ [])).map String.ofList

/-- Both implementations are the same one, with other programs, commands and texts. -/
theorem getUpdates_eq (cacheTtl : Nat) :
    Apt.getUpdates cacheTtl = apt.getUpdates cacheTtl ∧
      Brew.getUpdates cacheTtl = brew.getUpdates cacheTtl :=
  ⟨(apt.getUpdates_by (fun args => sudo_command args []) cacheTtl).symm,
    (brew.getUpdates_by brew_command cacheTtl).symm⟩

section Courses

variable (backend : Backend) (secs : Nat)

/-- The cache is to be refreshed at this time, given the last refresh. -/
def Due (secs : Nat) (last : Option Nat) (time : Nat) : Prop :=
  secs = 0 ∨ last = none ∨ ∃ recorded, last = some recorded ∧ recorded + secs * nanosPerSec ≤ time

theorem shouldUpdate_iff (now : Nat) (last : Option Nat) :
    Backend.shouldUpdate (secs * nanosPerSec) now last = true ↔ Due secs last now := by
  have whole : asSecs (secs * nanosPerSec) = secs := Nat.mul_div_cancel _ (by decide)
  cases last with
  | none => simp [Backend.shouldUpdate, Due]
  | some recorded =>
    by_cases zero : secs = 0
    · simp [Backend.shouldUpdate, Due, zero]
    · have positive : 0 < secs * nanosPerSec := Nat.mul_pos (Nat.pos_of_ne_zero zero) (by decide)
      have same : now - recorded ≥ secs * nanosPerSec ↔ recorded + secs * nanosPerSec ≤ now := by omega
      simp [Backend.shouldUpdate, Due, whole, zero, Nat.pos_of_ne_zero zero, same]

/-- The command was spawned and exited successfully. -/
def Succeeds (outcome : Reply) : Prop := ∃ output, outcome = .ok output ∧ output.status.success = true

/-- A thread has run these command lines in its search for a program, with these arguments. -/
abbrev Tried (args : List String) (runs : List (CommandLine × Reply)) (outcome : Reply) : Prop :=
  Attempts args [] backend.programs runs outcome

/-- What a call has done before it lists the updates: it found the cache valid, or has
refreshed it. -/
inductive Past (call : Nat) : List Entry → Prop
  | valid {time : Nat} {last : Option Nat} (current : ¬ Due secs last time) :
      Past call [.checked call time last]
  | renewed {time : Nat} {last : Option Nat} (due : Due secs last time)
      {runs : List (CommandLine × Reply)} {outcome : Reply}
      (tried : Tried backend backend.refreshArgs runs outcome) (succeeds : Succeeds outcome)
      (recordedAt : Nat) :
      Past call [.checked call time last, .started call (some backend.refreshLine),
        .finished call runs outcome, .recorded call recordedAt]

/-- What a call has done, and where it stands. -/
inductive Course (call : Nat) : List Entry → Thread → Prop
  | fresh : Course call [] (.ready (backend.getUpdates (secs * nanosPerSec)))
  | due {time : Nat} {last : Option Nat} (due : Due secs last time) :
      Course call [.checked call time last] (.ready backend.refresh)
  | refreshing {time : Nat} {last : Option Nat} (due : Due secs last time) :
      Course call [.checked call time last, .started call (some backend.refreshLine)]
        (.awaiting (backend.command backend.refreshArgs []) backend.afterRefresh)
  | refreshed {time : Nat} {last : Option Nat} (due : Due secs last time)
      {runs : List (CommandLine × Reply)} {outcome : Reply}
      (tried : Tried backend backend.refreshArgs runs outcome) (succeeds : Succeeds outcome) :
      Course call [.checked call time last, .started call (some backend.refreshLine),
        .finished call runs outcome] (.ready (.recordNow backend.listUpdates))
  | failed {time : Nat} {last : Option Nat} (due : Due secs last time)
      {runs : List (CommandLine × Reply)} {outcome : Reply}
      (tried : Tried backend backend.refreshArgs runs outcome) (fails : ¬ Succeeds outcome)
      (err : String) :
      Course call [.checked call time last, .started call (some backend.refreshLine),
        .finished call runs outcome] (.ready (.returned (.error err)))
  | unlisted {entries : List Entry} (past : Past backend secs call entries) :
      Course call entries (.ready backend.listUpdates)
  | listing {entries : List Entry} (past : Past backend secs call entries) :
      Course call (entries ++ [.started call (some backend.listLine)])
        (.awaiting (backend.command backend.listArgs []) backend.afterList)
  | listed {entries : List Entry} (past : Past backend secs call entries)
      {runs : List (CommandLine × Reply)} {outcome : Reply}
      (tried : Tried backend backend.listArgs runs outcome) (result : Except String (List String))
      (ok : (∃ updates, result = .ok updates) ↔ Succeeds outcome) :
      Course call (entries ++ [.started call (some backend.listLine), .finished call runs outcome])
        (.ready (.returned result))

end Courses

section Moving

variable {backend : Backend} {secs call now : Nat} {last : Option Nat}

end Moving

end Brewmble.CacheRefresh
