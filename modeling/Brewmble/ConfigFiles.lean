import Brewmble.CommandRuns
import Brewmble.ConfigPaths
import Brewmble.PathChanges

/-!
# Which configuration file a command uses

A command uses the file that is named on its command line, else the one in the home
directory, else the one in the directory that it is run in. Where there is none, it uses
the one in the home directory, which is created as soon as something is saved. A name may be
relative to the directory that the command is run in. A save goes through a temporary file
beside the configuration, which stays there if the save fails after it was opened.

So the commands of one user, run in any directories, share the file of the home directory
once it exists. As long as no file is created, each command has the same file in every run
of it, and on this file it does what it does on the one file of a session. A file that does
not parse stops every command before it begins.

Commands run one after another here. Links from one file to another are not modelled.
-/

namespace Brewmble.ConfigFiles

open AtomicWrite CliConfig CliCommands CommandRuns ConfigPaths PathChanges RepinnedEntry

universe u

/-- What is at a place, if anything. -/
inductive Stored where
  | config (config : Config)
  /-- The file cannot be read or is no configuration. -/
  | broken (err : String)

abbrev Disk (Folder : Type u) := Store (Place Folder) Stored

/-- `home.push`. -/
def homeConfig (home : String) : PathText := ⟨home, yamlName⟩

/-- `local_path`. -/
def localConfig : PathText := ⟨"", yamlName⟩

/-- `resolve_config_path_inner`: the path, and whether it was named or holds a file. -/
def resolveConfigPathInner (present : PathText → Bool) (explicitPath : Option PathText)
    (homeDir : Option String) (localPath : PathText) : PathText × Bool :=
  match explicitPath with
  | some path => (path, true)
  | none =>
    match homeDir with
    | some home =>
      if present (homeConfig home) then (homeConfig home, true)
      else if present localPath then (localPath, true)
      else (homeConfig home, false)
    | none => if present localPath then (localPath, true) else (localPath, false)

/-- What a run of the editor leaves of a file. It may not have been started. -/
abbrev Editor := Stored → Option Stored

inductive Task where
  /-- A command that may change the configuration. -/
  | command (step : CliStep)
  /-- `profile edit`, with the fault of its saving. -/
  | edit (saveFault : Option String) (editor : Editor)
  /-- A command that leaves the configuration alone. -/
  | plain

/-- What a task leaves of the file that it has loaded. -/
def Task.leaves (file : Option Config) : Task → Option Stored
  | .command step => (step.after file).map .config
  | .edit saveFault editor =>
    match file, saveFault with
    | some config, _ => editor (.config config)
    | none, none => editor (.config (loadConfig none))
    | none, some _ => none
  | .plain => file.map .config

/-- The save that a task makes, if any, with its fault. -/
def Task.save (file : Option Config) : Task → Option (Option String)
  | .command step =>
    if (runCli step.env step.command (.begin file)).2.saving then some step.env.saveFault else none
  | .edit saveFault _ => if file.isSome then none else some saveFault
  | .plain => none

/-- One run of the tool. -/
structure Invocation (Folder : Type u) where
  explicitPath : Option PathText
  homeDir : Option String
  directory : Folder
  task : Task
  /-- What a save that fails leaves in the temporary file, if it has opened it. -/
  unsaved : Option Stored

namespace Invocation

variable {Folder : Type u} (host : Host Folder)

/-- The file that `main` resolves. -/
def target (disk : Disk Folder) (invocation : Invocation Folder) : Place Folder :=
  host.locate invocation.directory
    (resolveConfigPathInner (fun path => disk.holds (host.locate invocation.directory path))
      invocation.explicitPath invocation.homeDir localConfig).1

/-- What `main` leaves of this file, which it loads first. -/
def leaves (invocation : Invocation Folder) : Option Stored → Option Stored
  | some (.broken err) => some (.broken err)
  | some (.config config) => invocation.task.leaves (some config)
  | none => invocation.task.leaves none

/-- What becomes of the temporary file beside a file that was saved or was to be saved. -/
def sweep (place : Place Folder) (invocation : Invocation Folder) :
    Option (Option String) → Option (Option Stored)
  | none => none
  | some none => place.renamed
  | some (some _) => invocation.unsaved.map some

def drops (place : Place Folder) (invocation : Invocation Folder) : Option Stored → Option (Option Stored)
  | some (.broken _) => none
  | some (.config config) => invocation.sweep place (invocation.task.save (some config))
  | none => invocation.sweep place (invocation.task.save none)

/-- The file that is named on the command line. -/
def named (invocation : Invocation Folder) : Option (Place Folder) :=
  invocation.explicitPath.map (host.locate invocation.directory)

end Invocation

section Steps

variable {Folder : Type u} {host : Host Folder} {home : String} {disk : Disk Folder}
  {invocation : Invocation Folder}

variable (host) in
/-- Runs of the tool as changes to the file that is used. -/
def commandLine : Tool (Place Folder) Stored (Invocation Folder) where
  target := Invocation.target host
  leaves _ := Invocation.leaves
  beside := Place.temporary
  drops := Invocation.drops

/-- The tool is run by this user, and an editor that is started leaves a file. -/
structure RunBy (home : String) (invocation : Invocation Folder) : Prop where
  home : invocation.homeDir = some home
  edits : ∀ saveFault editor, invocation.task = .edit saveFault editor → ∀ stored, editor stored ≠ none

/-- A command does not remove the file. -/
theorem after_present (step : CliStep) (config : Config) : step.after (some config) ≠ none := by
  obtain same | ⟨saved, written, _⟩ := step_saves step (some config)
  · rw [same]
    exact Option.some_ne_none config
  · rw [written]
    exact Option.some_ne_none saved

theorem leaves_present (runBy : RunBy home invocation) : (commandLine host).Keeping invocation := by
  intro place stored
  unfold commandLine
  cases stored with
  | broken err => exact Option.some_ne_none _
  | config config =>
    cases task : invocation.task with
    | command step => simpa [Invocation.leaves, task, Task.leaves] using after_present step config
    | edit saveFault editor =>
      have edits := runBy.edits saveFault editor task (.config config)
      simpa [Invocation.leaves, task, Task.leaves] using edits
    | plain => simp [Invocation.leaves, task, Task.leaves]

/-- The configurations in directories are no temporary files of others. -/
theorem temporary_ne_config (folder : Folder) (other : Place Folder) :
    other.temporary ≠ (folder, yamlName.name) := Place.temporary_ne (by decide) (by decide) folder other

end Steps

section Runs

variable {Folder : Type u} [DecidableEq Folder] {host : Host Folder} {home : String} {disk : Disk Folder}

variable (host disk) in
/-- The files after the tool has been run again and again. -/
def performAll (invocations : List (Invocation Folder)) : Disk Folder := (commandLine host).applyAll disk invocations

theorem spared_config {invocations : List (Invocation Folder)} (folder : Folder) :
    (commandLine host).Spared disk invocations (folder, yamlName.name) :=
  Tool.spared_of_never fun _ => temporary_ne_config folder _

end Runs

end Brewmble.ConfigFiles
