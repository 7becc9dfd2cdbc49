import Brewmble.ConfigPaths
import Brewmble.PathChanges

/-!
# The configuration files of the daemon

A daemon looks for its configuration in the home directory of its user, then in the
directory of the system, then in the directory that it is run in, unless a file is named.
A template is written to the first of these places, and an editor is opened on the file that
a daemon of the same user would use. A name may be relative to the directory of the run. A
template is written through a temporary file, which stays if the write fails after it was
opened.

Where a template has been written, every daemon of the same user finds that file, from any
directory, whatever is run in between. Only an editor and a forced template change a file
that exists. Runs come one after another, and links from one file to another are not
modelled.
-/

namespace Brewmble.DaemonFiles

open AtomicWrite ConfigPaths PathChanges

universe u

/-- What is at the path of a configuration. -/
inductive FileContent where
  | text (content : String)
  | unreadable (err : String)
  deriving DecidableEq, Repr

abbrev Disk (Folder : Type u) := Store (Place Folder) FileContent

/-- What is at the paths as they are written. -/
abbrev View := Store PathText FileContent

inductive ConfigError where
  | notFound (searchedPaths : List String)
  | explicitFileNotFound (path : String)
  | reading (err : String)
  | parse (err : String)
  | validation (errors : List String)
  deriving DecidableEq, Repr

/-- The `Display` of an error. -/
def ConfigError.message : ConfigError → String
  | .notFound searchedPaths =>
    "No configuration file found in search locations:\n" ++
      String.intercalate "\n" (searchedPaths.map fun path => "  - " ++ path) ++
      "\nRun 'brewmbled config init' to create a template configuration."
  | .explicitFileNotFound path => "Configuration file not found: " ++ path
  | .reading err => "Failed to read configuration file: " ++ err
  | .parse err => "Failed to parse YAML configuration: " ++ err
  | .validation errors =>
    "Configuration validation failed:\n" ++
      String.intercalate "\n" (errors.map fun err => "  - " ++ err)

def daemonYaml : ConfigName where
  name := "brewmbled.yaml".toList
  present := by decide
  named := by decide
  component := by decide

def homeConfig (home : String) : PathText := ⟨pushText (pushText home ".config") "brewmble", daemonYaml⟩

def systemConfig : PathText := ⟨"/etc/brewmble", daemonYaml⟩

def localConfig : PathText := ⟨".", daemonYaml⟩

def searchPaths (home : Option String) : List PathText :=
  (home.map homeConfig).toList ++ [systemConfig, localConfig]

def defaultConfigPath (home : Option String) : PathText := (home.map homeConfig).getD systemConfig

def resolveConfigPath (view : View) (home : Option String) (explicitPath : Option PathText) :
    Except ConfigError PathText :=
  match explicitPath with
  | some path => if view.holds path then .ok path else .error (.explicitFileNotFound path.text)
  | none =>
    match (searchPaths home).find? view.holds with
    | some path => .ok path
    | none => .error (.notFound ((searchPaths home).map PathText.text))

def defaultConfigTemplate : String :=
  String.intercalate "\n" [
    "# brewmble daemon configuration file",
    "# Generated by `brewmbled config init`",
    "",
    "server:",
    "  # Port to listen on. If omitted, the daemon searches for a free port starting at 4712.",
    "  # port: 4712",
    "",
    "  # Hostname to announce via mDNS. Defaults to the system hostname.",
    "  # hostname: \"node-1\"",
    "",
    "  # Explicit IP address to announce via mDNS. Defaults to auto-discovered IP.",
    "  # ip: \"192.168.1.10\"",
    "",
    "  # Local address to bind the HTTPS listener to. Defaults to 0.0.0.0 (all interfaces).",
    "  # bind_address: \"0.0.0.0\"",
    "",
    "  # Enable mDNS service discovery. Defaults to true.",
    "  # mdns: true",
    "",
    "tls:",
    "  # Path to the cluster CA certificate PEM file (required)",
    "  ca_cert: \"/etc/brewmble/tls/ca.pem\"",
    "",
    "  # Path to the daemon certificate PEM file (required)",
    "  cert: \"/etc/brewmble/tls/daemon.pem\"",
    "",
    "  # Path to the daemon private key PEM file (required)",
    "  key: \"/etc/brewmble/tls/daemon-key.pem\"",
    "",
    "features:",
    "  # Allow the daemon to reboot the host when requested via the API (default: false)",
    "  allow_reboot: false",
    "",
    "  # Automatically clean downloaded packages after upgrade (default: false)",
    "  auto_clean: false",
    "",
    "  # Automatically remove unused packages after upgrade (default: false)",
    "  auto_remove: false",
    "",
    "package_manager:",
    "  # Package manager cache update interval in minutes (default: 360)",
    "  update_interval_mins: 360",
    ""]

def template : FileContent := .text defaultConfigTemplate

/-- Why a write fails, and what it leaves in the temporary file, if it has opened it. -/
structure WriteFault where
  err : String
  left : Option FileContent
  deriving DecidableEq, Repr

/-- What a write makes of a file and of the temporary file beside it, if it touches this. -/
structure Written where
  result : Except String Unit
  stored : Option FileContent
  temporary : Option (Option FileContent)

/-- `init_config_file` on what is at the place of the path, which is replaced as a whole. -/
def initConfigFile {Folder : Type u} (writeFault : Option WriteFault) (place : Place Folder) (path : PathText)
    (force : Bool) (stored : Option FileContent) : Written :=
  if stored.isSome && !force then
    ⟨.error ("Configuration file already exists at '" ++ path.text ++ "'; use --force to overwrite"), stored, none⟩
  else
    match writeFault with
    | some fault => ⟨.error fault.err, stored, fault.left.map some⟩
    | none => ⟨.ok (), some template, place.renamed⟩

/-- What a run of the editor leaves of a file. It may not have been started. -/
abbrev Editor := FileContent → Option FileContent

/-- The tasks of a run. Writing the template may fail. -/
inductive Task where
  | init (force : Bool) (writeFault : Option WriteFault)
  | edit (writeFault : Option WriteFault) (editor : Editor)
  /-- `config show`, `config validate`, and starting the daemon. -/
  | reading

/-- One run, by a user with this home directory, in this directory. -/
structure Invocation (Folder : Type u) where
  explicitPath : Option PathText
  home : Option String
  directory : Folder
  task : Task

variable {Folder : Type u}

namespace Invocation

variable (host : Host Folder)

/-- The named path, or the default one. -/
def designated (invocation : Invocation Folder) : PathText :=
  invocation.explicitPath.getD (defaultConfigPath invocation.home)

/-- The path that `run_config_edit` chooses. -/
def editPath (disk : Disk Folder) (invocation : Invocation Folder) : PathText :=
  match invocation.explicitPath with
  | some path => path
  | none =>
    match resolveConfigPath (host.view disk invocation.directory) invocation.home none with
    | .ok path => path
    | .error _ => defaultConfigPath invocation.home

/-- The path that is written to, or the one that would be edited. -/
def path (disk : Disk Folder) (invocation : Invocation Folder) : PathText :=
  match invocation.task with
  | .init _ _ => invocation.designated
  | .edit _ _ => invocation.editPath host disk
  | .reading => invocation.editPath host disk

def target (disk : Disk Folder) (invocation : Invocation Folder) : Place Folder :=
  host.locate invocation.directory (invocation.path host disk)

/-- `run_config_edit` on what is at the path that it has chosen. -/
def runConfigEdit (writeFault : Option WriteFault) (editor : Editor) (place : Place Folder) (path : PathText) :
    Option FileContent → Option FileContent × Option (Option FileContent)
  | some content => (editor content, none)
  | none =>
    let written := initConfigFile writeFault place path false none
    match written.result, written.stored with
    | .ok (), some content => (editor content, written.temporary)
    | _, stored => (stored, written.temporary)

/-- What a run makes of what is at its target, and of the temporary file. A path without a
file is only chosen if it is the designated one. -/
def makes (place : Place Folder) (invocation : Invocation Folder) (stored : Option FileContent) :
    Option FileContent × Option (Option FileContent) :=
  match invocation.task with
  | .init force writeFault =>
    let written := initConfigFile writeFault place invocation.designated force stored
    (written.stored, written.temporary)
  | .edit writeFault editor => runConfigEdit writeFault editor place invocation.designated stored
  | .reading => (stored, none)

end Invocation

variable (host : Host Folder)

/-- The runs as changes to their targets. -/
def daemonRuns : Tool (Place Folder) FileContent (Invocation Folder) where
  target := Invocation.target host
  leaves place invocation stored := (invocation.makes place stored).1
  beside := Place.temporary
  drops place invocation stored := (invocation.makes place stored).2

/-- An editor that is started leaves a file. -/
def LeavesFile (invocation : Invocation Folder) : Prop :=
  ∀ writeFault editor, invocation.task = .edit writeFault editor → ∀ content, editor content ≠ none

def Task.edits : Task → Bool
  | .edit _ _ => true
  | _ => false

/-- The tasks that change a file that exists. -/
def Task.overwrites : Task → Bool
  | .init force _ => force
  | .edit _ _ => true
  | .reading => false

/-- What a write that fails leaves in the temporary file. -/
def Task.unsaved : Task → Option FileContent
  | .init _ writeFault => writeFault.bind WriteFault.left
  | .edit writeFault _ => writeFault.bind WriteFault.left
  | .reading => none

section Tasks

variable {host} {invocation : Invocation Folder}

theorem initConfigFile_present (place : Place Folder) (path : PathText) (writeFault : Option WriteFault)
    (force : Bool) (content : FileContent) :
    (initConfigFile writeFault place path force (some content)).stored = some content ∨
      force = true ∧ (initConfigFile writeFault place path force (some content)).stored = some template := by
  cases force with
  | false => exact .inl rfl
  | true =>
    cases writeFault with
    | none => exact .inr ⟨rfl, rfl⟩
    | some fault => exact .inl rfl

theorem initConfigFile_writes {place : Place Folder} {path : PathText} {force : Bool} {stored : Option FileContent}
    (writes : force = true ∨ stored = none) :
    (initConfigFile none place path force stored).stored = some template := by
  obtain rfl | rfl := writes
  · cases stored <;> rfl
  · rfl

theorem initConfigFile_leaves (place : Place Folder) (path : PathText) (force : Bool)
    (stored : Option FileContent) : (initConfigFile none place path force stored).stored ≠ none := by
  cases stored with
  | none => exact initConfigFile_writes (.inr rfl) ▸ Option.some_ne_none template
  | some content =>
    obtain same | ⟨_, written⟩ := initConfigFile_present place path none force content
    · simp [same]
    · simp [written]

/-- Only a write that fails leaves something in the temporary file. -/
theorem initConfigFile_clean {writeFault : Option WriteFault} (saved : writeFault.bind WriteFault.left = none)
    {place : Place Folder} {path : PathText} {force : Bool} {stored left : Option FileContent}
    (dropped : (initConfigFile writeFault place path force stored).temporary = some left) : left = none := by
  unfold initConfigFile at dropped
  split at dropped
  · cases dropped
  · cases writeFault with
    | none =>
      simp only [Place.renamed, Option.ite_none_left_eq_some] at dropped
      exact (Option.some.inj dropped.2).symm
    | some fault =>
      rw [Option.bind_some] at saved
      simp [saved] at dropped

/-- What a task leaves of a file: the file, unless it overwrites, and the template, unless
an editor is opened. -/
theorem leaves_present (place : Place Folder) (content : FileContent) (unedited : invocation.task.edits = false) :
    (invocation.makes place (some content)).1 = some content ∨
      invocation.task.overwrites = true ∧ (invocation.makes place (some content)).1 = some template := by
  unfold Invocation.makes Task.overwrites
  cases task : invocation.task with
  | init force writeFault => exact initConfigFile_present place invocation.designated writeFault force content
  | edit writeFault editor => simp [task, Task.edits] at unedited
  | reading => exact .inl rfl

theorem leaves_absent (place : Place Folder) (unedited : invocation.task.edits = false) :
    (invocation.makes place none).1 = none ∨ (invocation.makes place none).1 = some template := by
  unfold Invocation.makes
  cases task : invocation.task with
  | init force writeFault => cases writeFault <;> simp [initConfigFile]
  | edit writeFault editor => simp [task, Task.edits] at unedited
  | reading => exact .inl rfl

theorem leavesFile_keeping (edits : LeavesFile invocation) : (daemonRuns host).Keeping invocation := by
  intro place content
  by_cases edited : invocation.task.edits = true
  · cases task : invocation.task with
    | edit writeFault editor =>
      simpa [daemonRuns, Invocation.makes, task, Invocation.runConfigEdit] using edits writeFault editor task content
    | init force writeFault => simp [task, Task.edits] at edited
    | reading => simp [task, Task.edits] at edited
  · obtain same | ⟨_, written⟩ := leaves_present place content (eq_false_of_ne_true edited)
    · simp [daemonRuns, same]
    · simp [daemonRuns, written]

theorem makes_clean (saved : invocation.task.unsaved = none) {place : Place Folder}
    {stored left : Option FileContent} (dropped : (invocation.makes place stored).2 = some left) : left = none := by
  unfold Invocation.makes at dropped
  cases task : invocation.task with
  | init force writeFault =>
    rw [task] at saved dropped
    exact initConfigFile_clean saved dropped
  | edit writeFault editor =>
    rw [task] at saved dropped
    cases stored with
    | some content => cases dropped
    | none =>
      have written : (initConfigFile writeFault place invocation.designated false none).temporary = some left := by
        simp only [Invocation.runConfigEdit] at dropped
        split at dropped <;> exact dropped
      exact initConfigFile_clean saved written
  | reading =>
    rw [task] at dropped
    cases dropped

end Tasks

section Resolving

variable {view : View} {home : Option String}

theorem searchPaths_default (home : Option String) :
    ∃ others, searchPaths home = defaultConfigPath home :: others := by
  unfold searchPaths defaultConfigPath
  cases home with
  | none => exact ⟨_, rfl⟩
  | some home => exact ⟨_, rfl⟩

/-- A file at the default path is found before all others. -/
theorem resolve_default (present : view (defaultConfigPath home) ≠ none) :
    resolveConfigPath view home none = .ok (defaultConfigPath home) := by
  obtain ⟨others, first⟩ := searchPaths_default home
  rw [resolveConfigPath, first, List.find?_cons_of_pos (holds_iff.mpr present)]

theorem resolve_explicit {path : PathText} (present : view path ≠ none) :
    resolveConfigPath view home (some path) = .ok path := if_pos (holds_iff.mpr present)

theorem resolve_named {explicitPath : Option PathText}
    (present : view (explicitPath.getD (defaultConfigPath home)) ≠ none) :
    resolveConfigPath view home explicitPath = .ok (explicitPath.getD (defaultConfigPath home)) := by
  cases explicitPath with
  | none => exact resolve_default present
  | some path => exact resolve_explicit present

/-- What is resolved exists. -/
theorem resolve_present {explicitPath : Option PathText} {path : PathText}
    (resolved : resolveConfigPath view home explicitPath = .ok path) : view path ≠ none := by
  cases explicitPath with
  | some named =>
    by_cases present : view.holds named = true
    · rw [resolveConfigPath, if_pos present] at resolved
      exact Except.ok.inj resolved ▸ holds_iff.mp present
    · rw [resolveConfigPath, if_neg present] at resolved
      cases resolved
  | none =>
    cases found : (searchPaths home).find? view.holds with
    | some first =>
      rw [resolveConfigPath, found] at resolved
      exact Except.ok.inj resolved ▸ holds_iff.mp (List.find?_some found)
    | none =>
      rw [resolveConfigPath, found] at resolved
      cases resolved

variable {disk : Disk Folder} {invocation : Invocation Folder} {host}

/-- Where no file is yet, only the designated path is gone to. -/
theorem editPath_absent (absent : disk (host.locate invocation.directory (invocation.editPath host disk)) = none) :
    invocation.editPath host disk = invocation.designated := by
  unfold Invocation.editPath Invocation.designated at *
  cases named : invocation.explicitPath with
  | some given => simp
  | none =>
    cases resolved : resolveConfigPath (host.view disk invocation.directory) invocation.home none with
    | ok found =>
      have there : disk (host.locate invocation.directory found) ≠ none := resolve_present resolved
      simp only [named, resolved] at absent
      exact absurd absent there
    | error err => rfl

theorem target_absent (absent : disk (invocation.target host disk) = none) :
    invocation.target host disk = host.locate invocation.directory invocation.designated := by
  unfold Invocation.target Invocation.path at *
  cases task : invocation.task with
  | init force writeFault => rfl
  | edit writeFault editor => rw [task] at absent; exact congrArg _ (editPath_absent absent)
  | reading => rw [task] at absent; exact congrArg _ (editPath_absent absent)

theorem target_init {force : Bool} {writeFault : Option WriteFault} (task : invocation.task = .init force writeFault) :
    invocation.target host disk = host.locate invocation.directory invocation.designated := by
  simp only [Invocation.target, Invocation.path, task]

/-- A run that designates the same file: a path that is named leads to the same place, or
none is named and the home directory, if any, is named absolutely. -/
def SameFile (host : Host Folder) (made : Invocation Folder) (directory : Folder) (explicitPath : Option PathText) :
    Prop :=
  match made.explicitPath, explicitPath with
  | some path, some other => host.locate directory other = host.locate made.directory path
  | none, none => ∀ home, made.home = some home → isAbsolute home = true
  | _, _ => False

theorem defaultConfigPath_absolute {home : Option String}
    (rooted : ∀ text, home = some text → isAbsolute text = true) :
    isAbsolute (defaultConfigPath home).parent = true := by
  cases home with
  | none => decide
  | some text => exact pushText_absolute (pushText_absolute (rooted text rfl) _) _

theorem sameFile_locate {made : Invocation Folder} {directory : Folder} {explicitPath : Option PathText}
    (same : SameFile host made directory explicitPath) :
    host.locate directory (explicitPath.getD (defaultConfigPath made.home)) =
      host.locate made.directory made.designated := by
  unfold SameFile at same
  unfold Invocation.designated
  cases given : made.explicitPath with
  | some path =>
    cases explicitPath with
    | some other => simpa [given] using same
    | none => simp [given] at same
  | none =>
    cases explicitPath with
    | some other => simp [given] at same
    | none =>
      simp only [given] at same
      have rooted := defaultConfigPath_absolute same
      simp only [Option.getD_none]
      rw [host.locate_absolute rooted, host.locate_absolute rooted]

end Resolving

section Runs

variable [DecidableEq Folder] (disk : Disk Folder)

/-- The files after the daemon has been run again and again. -/
def performAll (invocations : List (Invocation Folder)) : Disk Folder := (daemonRuns host).applyAll disk invocations

/-- In the run from this disk, some task of this kind goes to the place. -/
def Reached (invocations : List (Invocation Folder)) (place : Place Folder) (kind : Task → Bool) : Prop :=
  ∃ before invocation after, invocations = before ++ invocation :: after ∧
    invocation.target host (performAll host disk before) = place ∧ kind invocation.task = true

/-- In the run from this disk, the place has the name of no temporary file beside a target. -/
def Spared (invocations : List (Invocation Folder)) (place : Place Folder) : Prop :=
  (daemonRuns host).Spared disk invocations place

variable {host disk} {invocations : List (Invocation Folder)} {place : Place Folder}

/-- The configurations that are searched for are no temporary files. -/
theorem spared_config (folder : Folder) : Spared host disk invocations (folder, daemonYaml.name) :=
  Tool.spared_of_never fun _ => Place.temporary_ne (by decide) (by decide) folder _

/-- A file that no task overwrites keeps its content. -/
theorem run_kept (spared : Spared host disk invocations place) {content : FileContent}
    (present : disk place = some content) (untouched : ¬ Reached host disk invocations place Task.overwrites) :
    performAll host disk invocations place = some content := by
  refine Tool.applyAll_preserves (· = some content) spared present ?_
  intro before invocation after split goes still
  have kept : invocation.task.overwrites = false :=
    eq_false_of_ne_true fun overwrites => untouched ⟨before, invocation, after, split, goes, overwrites⟩
  have unedited : invocation.task.edits = false := by
    cases task : invocation.task with
    | edit writeFault editor => simp [task, Task.overwrites] at kept
    | init force writeFault => rfl
    | reading => rfl
  obtain same | ⟨overwrites, _⟩ := leaves_present place content unedited
  · rw [still]
    exact same
  · rw [kept] at overwrites
    cases overwrites

/-- Without an editor, a place holds what it held before or the template. -/
theorem run_unedited (spared : Spared host disk invocations place)
    (unedited : ¬ Reached host disk invocations place Task.edits) :
    performAll host disk invocations place = disk place ∨
      performAll host disk invocations place = some template := by
  refine Tool.applyAll_preserves (fun stored => stored = disk place ∨ stored = some template) spared (.inl rfl) ?_
  intro before invocation after split goes given
  have task : invocation.task.edits = false :=
    eq_false_of_ne_true fun edits => unedited ⟨before, invocation, after, split, goes, edits⟩
  cases found : (daemonRuns host).applyAll disk before place with
  | some content =>
    obtain same | ⟨_, written⟩ := leaves_present place content task
    · rw [found] at given
      exact given.imp (same.trans ·) (same.trans ·)
    · exact .inr written
  | none =>
    obtain same | written := leaves_absent place task
    · rw [found] at given
      exact given.imp (same.trans ·) (same.trans ·)
    · exact .inr written

/-- Only the designated paths of the runs get a file, and the temporary files beside targets
that a failed write leaves. -/
theorem run_created
    (others : ∀ invocation ∈ invocations, host.locate invocation.directory invocation.designated ≠ place)
    (clean : ∀ before invocation after, invocations = before ++ invocation :: after →
      (invocation.target host (performAll host disk before)).temporary = place → invocation.task.unsaved = none)
    (absent : disk place = none) : performAll host disk invocations place = none := by
  refine Tool.applyAll_absent ?_ ?_ absent
  · rintro before invocation after rfl absent goes
    have target : invocation.target host (performAll host disk before) = place := goes
    have missing : performAll host disk before (invocation.target host (performAll host disk before)) = none := by
      rw [target]
      exact absent
    exact others invocation (by simp) ((target_absent missing).symm.trans target)
  · rintro before invocation after split beside target stored left dropped
    exact makes_clean (clean before invocation after split beside) dropped

theorem spared_after {before after : List (Invocation Folder)} {made : Invocation Folder}
    (spared : Spared host disk (before ++ made :: after) place) :
    Spared host (performAll host disk (before ++ [made])) after place := by
  have whole : before ++ made :: after = (before ++ [made]) ++ after := by simp
  unfold Spared at spared
  rw [whole] at spared
  exact (Tool.spared_append spared).2

/-- What `config init` has made of its target, which the write does not touch on its way. -/
theorem init_written {before after : List (Invocation Folder)} {made : Invocation Folder} {force : Bool}
    (task : made.task = .init force none) (same : host.locate made.directory made.designated = place)
    (spared : Spared host disk (before ++ made :: after) place) :
    performAll host disk (before ++ [made]) place =
      (initConfigFile none place made.designated force (performAll host disk before place)).stored := by
  have goes : made.target host (performAll host disk before) = place := (target_init task).trans same
  have apart : place.temporary ≠ place := goes ▸ spared before made after rfl
  have leaves (stored : Option FileContent) :
      (made.makes place stored).1 = (initConfigFile none place made.designated force stored).stored := by
    rw [Invocation.makes, task]
  rw [← leaves]
  exact (daemonRuns host).applyAll_last goes apart

variable (host disk) in
/-- How the configuration of a daemon comes about. Let the daemon be run again and again, by
any users, in any directories, with or without a named file, and by editors that leave a
file.

The files that are searched for are no temporary files. A file that is none of these keeps
its content unless an editor is opened on it or a template is forced to it; without an
editor, its place holds what it held or the template. Only named paths and default paths get
a file, and the temporary files beside targets that a failed write leaves. And when a
template has been written, without an error or over a file that was there, the path of it is
what every daemon of the same user finds, from any directory; it holds the template if no
editor has been opened on it since.

Proof: a run changes its target and the temporary file beside it only, and removes no
configuration. The default path of a user is the first of the paths that are searched, so
that a file there hides all others. -/
theorem template_found (files : ∀ invocation ∈ invocations, LeavesFile invocation) :
    (∀ folder, Spared host disk invocations (folder, daemonYaml.name)) ∧
    (∀ place content, Spared host disk invocations place → disk place = some content →
      ¬ Reached host disk invocations place Task.overwrites →
        performAll host disk invocations place = some content) ∧
    (∀ place, Spared host disk invocations place → ¬ Reached host disk invocations place Task.edits →
      performAll host disk invocations place = disk place ∨
        performAll host disk invocations place = some template) ∧
    (∀ place, (∀ invocation ∈ invocations, host.locate invocation.directory invocation.designated ≠ place) →
      (∀ before invocation after, invocations = before ++ invocation :: after →
        (invocation.target host (performAll host disk before)).temporary = place →
          invocation.task.unsaved = none) →
      disk place = none → performAll host disk invocations place = none) ∧
    ∀ before made after force place, invocations = before ++ made :: after → made.task = .init force none →
      host.locate made.directory made.designated = place → Spared host disk invocations place →
      (∀ directory explicitPath, SameFile host made directory explicitPath → ∃ path,
        resolveConfigPath (host.view (performAll host disk invocations) directory) made.home explicitPath =
          .ok path ∧ host.locate directory path = place) ∧
      (force = true ∨ performAll host disk before place = none →
        ¬ Reached host (performAll host disk (before ++ [made])) after place Task.edits →
          performAll host disk invocations place = some template) := by
  refine ⟨spared_config, fun place content spared present untouched => run_kept spared present untouched,
    fun place spared unedited => run_unedited spared unedited,
    fun place others clean absent => run_created others clean absent, ?_⟩
  rintro before made after force place rfl task same spared
  have written := init_written task same spared
  have remains := spared_after spared
  have split : performAll host disk (before ++ made :: after) =
      performAll host (performAll host disk (before ++ [made])) after :=
    (daemonRuns host).applyAll_through before made after
  have later : ∀ invocation ∈ after, (daemonRuns host).Keeping invocation :=
    fun invocation member => leavesFile_keeping (files invocation (by simp [member]))
  refine ⟨?_, ?_⟩
  · intro directory explicitPath designates
    have leads := (sameFile_locate designates).trans same
    refine ⟨_, resolve_named ?_, leads⟩
    rw [Host.view, leads, split]
    exact Tool.applyAll_present later remains (written ▸ initConfigFile_leaves place made.designated force _)
  · intro writes unedited
    have begins : performAll host disk (before ++ [made]) place = some template :=
      written.trans (initConfigFile_writes writes)
    rw [split]
    obtain kept | again := run_unedited remains unedited
    · exact kept.trans begins
    · exact again

/-- Directories are known by their absolute texts. -/
def piHost : Host String where
  absolute text := text
  relative directory text := if text = "." then directory else pushText directory text

/-- The template of the user `pi` is written, then the daemon runs elsewhere, then a forced
template fails and leaves its temporary file. -/
def piRuns : List (Invocation String) :=
  [⟨none, some "/home/pi", "/home/pi", .init false none⟩, ⟨none, some "/home/pi", "/srv", .reading⟩,
    ⟨none, some "/home/pi", "/", .init true (some ⟨"No space left on device", some (.text "")⟩)⟩]

/-- A configuration in the directory of the second run. -/
def srvDisk : Disk String := fun place =>
  if place = ("/srv", daemonYaml.name) then some (.text "tls:\n") else none

theorem pi_template_found :
    (∃ path, resolveConfigPath (piHost.view (performAll piHost srvDisk piRuns) "/srv") (some "/home/pi") none =
      .ok path ∧ piHost.locate "/srv" path = ("/home/pi/.config/brewmble", daemonYaml.name)) ∧
    performAll piHost srvDisk piRuns ("/home/pi/.config/brewmble", daemonYaml.name) = some template ∧
    performAll piHost srvDisk piRuns ("/home/pi/.config/brewmble", "brewmbled.tmp".toList) = some (.text "") := by
  have files : ∀ invocation ∈ piRuns, LeavesFile invocation := by
    simp [piRuns, LeavesFile]
  obtain ⟨spared, _, _, _, found⟩ := template_found piHost srvDisk files
  obtain ⟨resolved, written⟩ := found [] _ _ false _ rfl rfl rfl (spared "/home/pi/.config/brewmble")
  refine ⟨resolved "/srv" none ?_, written (.inr rfl) ?_, rfl⟩
  · rintro home ⟨⟩
    decide
  rintro ⟨before, invocation, after, split, _, edits⟩
  have member : invocation ∈ before ++ invocation :: after := by simp
  rw [← split] at member
  simp only [List.mem_cons, List.not_mem_nil, or_false] at member
  obtain rfl | rfl := member <;> cases edits

end Runs

end Brewmble.DaemonFiles
