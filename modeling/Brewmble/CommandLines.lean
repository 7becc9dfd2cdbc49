import Brewmble.Scripts

/-!
# How package managers run their commands

A package manager gives a command runner a program with its arguments, and gets the output
of the program or the error of spawning it. Apt runs every command by sudo. Brew is looked
for at three paths for each command anew, and an error of spawning leads to the next path.

Both are scripts over command lines and their replies. What a script has given to the runner
is its trace. The exit status and the outputs are given as the texts that the source makes of
them.
-/

namespace Brewmble.CommandLines

open Scripts

structure ExitStatus where
  success : Bool
  text : String
  deriving DecidableEq, Repr

structure Output where
  status : ExitStatus
  stdout : String
  stderr : String
  deriving DecidableEq, Repr

/-- A program that is spawned, with what is added to its environment. -/
structure CommandLine where
  program : String
  args : List String
  env : List (String × String)
  deriving DecidableEq, Repr

/-- The output of a command, or the error of spawning it. -/
abbrev Reply := Except String Output

instance : Inhabited Reply := ⟨.error ""⟩

abbrev Commands (Value : Type) := Script CommandLine Reply Value

/-- What the system makes of command lines. -/
abbrev Runner := CommandLine → Reply

/-- `CommandRunner::run`. -/
def CommandRunner.run (program : String) (args : List String) : Commands Reply :=
  .perform ⟨program, args, []⟩ .done

/-- `CommandRunner::run_with_env`. -/
def CommandRunner.runWithEnv (program : String) (args : List String) (env : List (String × String)) :
    Commands Reply :=
  .perform ⟨program, args, env⟩ .done

namespace Apt

def runAsync (program : String) (args : List String) : Commands Reply := CommandRunner.run program args

def runAsyncWithEnv (program : String) (args : List String) (env : List (String × String)) :
    Commands Reply := CommandRunner.runWithEnv program args env

end Apt

namespace Brew

def paths : List String := ["brew", "/opt/homebrew/bin/brew", "/usr/local/bin/brew"]

/-- The loop of `run_brew`, which is also that of `run_brew_async`. -/
def firstSpawned (args : List String) : Option String → List String → Commands Reply
  | lastErr, [] => .done (.error (lastErr.getD "brew not found"))
  | _, path :: rest =>
    (CommandRunner.run path args).andThen fun
      | .ok output => .done (.ok output)
      | .error err => firstSpawned args (some err) rest

def runBrew (args : List String) : Commands Reply := firstSpawned args none paths

def runBrewAsync (args : List String) : Commands Reply := firstSpawned args none paths

end Brew

/-- How a package manager finds its program. -/
structure Search where
  /-- The programs that are tried in this order. -/
  programs : List String
  present : programs ≠ []
  missing : String

namespace Search

variable (search : Search)

/-- The first of the programs that can be spawned. -/
def firstSpawned (args : List String) (env : List (String × String)) :
    Option String → List String → Commands Reply
  | lastErr, [] => .done (.error (lastErr.getD search.missing))
  | _, program :: rest =>
    (CommandRunner.runWithEnv program args env).andThen fun
      | .ok output => .done (.ok output)
      | .error err => firstSpawned args env (some err) rest

def command (args : List String) (env : List (String × String)) : Commands Reply :=
  search.firstSpawned args env none search.programs

/-- The command line that is given first. -/
def line (args : List String) (env : List (String × String)) : CommandLine :=
  ⟨search.programs.head search.present, args, env⟩

theorem command_first (args : List String) (env : List (String × String)) :
    (search.command args env).first = some (search.line args env) := by
  obtain ⟨programs, present, missing⟩ := search
  cases programs with
  | nil => exact absurd rfl present
  | cons program rest => rfl

theorem line_args {args other : List String} {env : List (String × String)}
    (same : search.line args env = search.line other env) : args = other := (CommandLine.mk.inj same).2.1

end Search

/-- Apt tries `sudo` only. -/
def bySudo : Search where
  programs := ["sudo"]
  present := by decide
  missing := ""

/-- A single program is tried once. -/
theorem sudo_command (args : List String) (env : List (String × String)) :
    bySudo.command args env = Apt.runAsyncWithEnv "sudo" args env := by
  simp only [Search.command, bySudo, Search.firstSpawned, CommandRunner.runWithEnv, Apt.runAsyncWithEnv,
    Script.andThen]
  congr 1
  funext reply
  cases reply <;> rfl

def brewPaths : Search where
  programs := Brew.paths
  present := by decide
  missing := "brew not found"

theorem brew_command (args : List String) : brewPaths.command args [] = Brew.runBrew args := by
  have search (lastErr : Option String) (programs : List String) :
      brewPaths.firstSpawned args [] lastErr programs = Brew.firstSpawned args lastErr programs := by
    induction programs generalizing lastErr with
    | nil => rfl
    | cons program rest inductionHypothesis =>
      simp only [Brew.firstSpawned, Search.firstSpawned, inductionHypothesis]
      rfl
  exact search none Brew.paths

section Attempts

/-- Programs are tried in their order until one can be spawned, and this is the reply
that counts. -/
inductive Attempts (args : List String) (env : List (String × String)) :
    List String → List (CommandLine × Reply) → Reply → Prop
  | spawned (program : String) (rest : List String) (output : Output) :
      Attempts args env (program :: rest) [(⟨program, args, env⟩, .ok output)] (.ok output)
  | last (program err : String) :
      Attempts args env [program] [(⟨program, args, env⟩, .error err)] (.error err)
  | missing (program err : String) {rest : List String} {trace : List (CommandLine × Reply)}
      {reply : Reply} (later : Attempts args env rest trace reply) :
      Attempts args env (program :: rest) ((⟨program, args, env⟩, .error err) :: trace) reply

variable {search : Search} {args : List String} {env : List (String × String)}
  {trace : List (CommandLine × Reply)}

/-- Proof: induct on the programs. The first one is either the one that is spawned, or its
error is the last one so far, with which the search goes on or ends. -/
theorem plays_firstSpawned {programs : List String} (nonempty : programs ≠ []) (lastErr : Option String)
    {reply : Reply} :
    Plays (search.firstSpawned args env lastErr programs) trace (.done reply) ↔
      Attempts args env programs trace reply := by
  induction programs generalizing lastErr trace with
  | nil => exact absurd rfl nonempty
  | cons program rest inductionHypothesis =>
    rw [Search.firstSpawned, CommandRunner.runWithEnv, Script.andThen, plays_perform]
    constructor
    · rintro ⟨first, remaining, rfl, plays⟩
      cases first with
      | ok output =>
        obtain ⟨rfl, same⟩ := plays_done.mp plays
        obtain rfl : reply = .ok output := by simpa using same
        exact .spawned program rest output
      | error err =>
        cases rest with
        | nil =>
          obtain ⟨rfl, same⟩ := plays_done.mp plays
          obtain rfl : reply = .error err := by simpa using same
          exact .last program err
        | cons next others =>
          exact .missing program err
            ((inductionHypothesis (List.cons_ne_nil next others) (some err)).mp plays)
    · intro attempts
      cases attempts with
      | spawned _ _ output => exact ⟨.ok output, [], rfl, .start _⟩
      | last _ err => exact ⟨.error err, [], rfl, .start _⟩
      | missing _ err later =>
        have more : rest ≠ [] := by rintro rfl; cases later
        exact ⟨.error err, _, rfl, (inductionHypothesis more _).mpr later⟩

theorem plays_command {reply : Reply} :
    Plays (search.command args env) trace (.done reply) ↔
      Attempts args env search.programs trace reply :=
  plays_firstSpawned search.present none

end Attempts

end Brewmble.CommandLines
