import Brewmble.Growing
import Brewmble.NormalConfig
import Brewmble.PinStore
import Brewmble.RepinnedEntry
import Mathlib.Logic.Relation

/-!
# Configuration files over sequences of commands

Each command loads the configuration file, changes what it loaded, and may save it.
What is saved is normal, so the next command loads just that. From one command to the
next the default profile grows: an entry stays at its position, with its name and
address unless a discover command merges a daemon of this name or address into it, and
what comes after the entries was merged as well. The entries of an older version are
therefore neither lost nor migrated a second time.
-/

namespace Brewmble.CommandRuns

open CliConfig CliCommands Discovery Fallible Growing NormalConfig RepinnedEntry ResolveUrl

section Model

/-- The commands that may change the configuration file, except editing it. -/
inductive CliCommand where
  | contact (command : Command)
  | repin (name : String)
  | profile (command : ProfileCommand)

def runCli (env : Environment) : CliCommand → SessionCall Unit
  | .contact command => runCommand env command
  | .repin name => runRepin env name
  | .profile command => runProfile env command

/-- What a command makes of the events of its discovery. -/
def heard : CliCommand → List ServiceEvent → List (String × String)
  | .contact (.status _), events => discoverTargets events
  | _, events => discoveredNodes events

/-- One command with all that it depends on; discovery goes through the events. -/
structure CliStep where
  env : Environment
  command : CliCommand
  events : Except String (List ServiceEvent)
  hears : env.discovered = events.map (heard command)

/-- The file that a command leaves. -/
def CliStep.after (file : Option Config) (step : CliStep) : Option Config :=
  (runCli step.env step.command (.begin file)).2.file

end Model

section Progress

variable {found : String × String → Prop}

/-- An entry with the name and address of a daemon that was found. -/
def Daemon (found : String × String → Prop) (node : NodeConfig) : Prop :=
  ∃ daemon, found daemon ∧ node.address = daemon.1 ∧ node.name = newName daemon.2

/-- The entry has the address of the daemon, or its name, if it has one. -/
def Belongs (node : NodeConfig) (daemon : String × String) : Prop :=
  node.address = daemon.1 ∨ (newName daemon.2).isSome = true ∧ node.name = newName daemon.2

/-- One change of an entry: its name and address stay, or a daemon that it belongs to gives
it new ones. -/
inductive Changes (found : String × String → Prop) (before after : NodeConfig) : Prop where
  | kept (name : after.name = before.name) (address : after.address = before.address)
  | merged {daemon : String × String} (listed : found daemon) (belongs : Belongs before daemon)
      (address : after.address = daemon.1) (name : after.name = newName daemon.2)

/-- The entry has been changed step by step. -/
abbrev Continues (found : String × String → Prop) : NodeConfig → NodeConfig → Prop :=
  Relation.ReflTransGen (Changes found)

theorem continues_refl (node : NodeConfig) : Continues found node node := .refl

theorem continues_trans (first second third : NodeConfig) (earlier : Continues found first second)
    (later : Continues found second third) : Continues found first third := earlier.trans later

theorem daemon_continues (first second : NodeConfig) (daemon : Daemon found first)
    (continued : Continues found first second) : Daemon found second := by
  induction continued with
  | refl => exact daemon
  | tail _ change inductionHypothesis =>
    cases change with
    | kept name address =>
      obtain ⟨origin, listed, there, named⟩ := inductionHypothesis
      exact ⟨origin, listed, address.trans there, name.trans named⟩
    | merged listed belongs address name => exact ⟨_, listed, address, name⟩

/-- What continues an entry after fewer finds continues it after more. -/
theorem continues_weaken {more : String × String → Prop} (listed : ∀ daemon, found daemon → more daemon)
    (first second : NodeConfig) (continued : Continues found first second) :
    Continues more first second := by
  refine Relation.ReflTransGen.mono (fun _ _ change => ?_) first second continued
  cases change with
  | kept name address => exact .kept name address
  | merged isFound belongs address name => exact .merged (listed _ isFound) belongs address name

/-- The entries stay in their positions, and those after them were found. -/
abbrev Extends (found : String × String → Prop) (before after : List NodeConfig) : Prop :=
  Grows (Continues found) (Daemon found) before after

theorem extends_refl (nodes : List NodeConfig) : Extends found nodes nodes :=
  grows_refl continues_refl nodes

theorem extends_trans {before middle after : List NodeConfig} (first : Extends found before middle)
    (second : Extends found middle after) : Extends found before after :=
  grows_trans continues_trans daemon_continues first second

theorem extends_weaken {more : String × String → Prop} (listed : ∀ daemon, found daemon → more daemon)
    {before after : List NodeConfig} (extended : Extends found before after) : Extends more before after :=
  grows_weaken (continues_weaken listed)
    (fun _ ⟨daemon, isFound, there, named⟩ => ⟨daemon, listed daemon isFound, there, named⟩) extended

/-- A fingerprint does not change which entry it is. -/
theorem extends_pinFirst (address fingerprint : String) (nodes : List NodeConfig) :
    Extends found nodes (pinFirst address fingerprint nodes) :=
  grows_modify continues_refl nodes _ fun _ _ => .single (.kept rfl rfl)

/-- The entry that is found for a daemon belongs to it. -/
theorem foundIndex_belongs {nodes : List NodeConfig} {daemon : String × String} {index : Nat}
    {node : NodeConfig} (isFound : foundIndex nodes daemon.1 (newName daemon.2) = some index)
    (there : nodes[index]? = some node) : Belongs node daemon := by
  unfold foundIndex at isFound
  cases name : newName daemon.2 with
  | none =>
    have located : nodes.findIdx? (·.address = daemon.1) = some index := by
      simpa [name] using isFound
    obtain ⟨inside, has, _⟩ := List.findIdx?_eq_some_iff_getElem.mp located
    obtain rfl : nodes[index] = node := by simpa [inside] using there
    exact .inl (by simpa using has)
  | some called =>
    obtain named | ⟨_, located⟩ := Option.or_eq_some_iff.mp isFound
    · rw [name] at named
      obtain ⟨inside, has, _⟩ := List.findIdx?_eq_some_iff_getElem.mp named
      obtain rfl : nodes[index] = node := by simpa [inside] using there
      exact .inr ⟨by simp [name], by simpa [name] using has⟩
    · obtain ⟨inside, has, _⟩ := List.findIdx?_eq_some_iff_getElem.mp located
      obtain rfl : nodes[index] = node := by simpa [inside] using there
      exact .inl (by simpa using has)

/-- A merged daemon changes the entry that belongs to it, or is added. -/
theorem extends_mergeNode {daemon : String × String} (listed : found daemon)
    (nodes : List NodeConfig) : Extends found nodes (mergeNode daemon.1 daemon.2 nodes).1 := by
  cases index : foundIndex nodes daemon.1 (newName daemon.2) with
  | some index' =>
    simp only [mergeNode, index]
    exact grows_modify continues_refl nodes index' fun _ there =>
      .single (.merged listed (foundIndex_belongs index there) rfl rfl)
  | none =>
    simp only [mergeNode, index]
    apply grows_append continues_refl
    intro node member
    obtain rfl := List.mem_singleton.mp member
    exact ⟨daemon, listed, rfl, rfl⟩

/-- The later configuration is normal, and its default profile extends the earlier one. -/
structure Progress (found : String × String → Prop) (before after : Config) : Prop where
  normal : Normal after
  extended : Extends found (entriesOf before defaultProfileName) (entriesOf after defaultProfileName)

theorem progress_refl {config : Config} (normal : Normal config) : Progress found config config :=
  ⟨normal, extends_refl _⟩

theorem progress_trans {before middle after : Config} (first : Progress found before middle)
    (second : Progress found middle after) : Progress found before after :=
  ⟨second.normal, extends_trans first.extended second.extended⟩

/-- Whether or not the default profile is active, it grows with the entries. -/
theorem extends_setActive (config : Config) {nodes : List NodeConfig}
    (extended : Extends found config.active nodes) :
    Extends found (entriesOf config defaultProfileName)
      (entriesOf (config.setActive nodes) defaultProfileName) := by
  rw [entriesOf_setActive]
  by_cases same : defaultProfileName = config.activeProfile
  · rw [if_pos same, same, entriesOf_active]
    exact extended
  · rw [if_neg same]
    exact extends_refl _

theorem update_progress {config : Config} (normal : Normal config) (address fingerprint : String) :
    Progress found config (updateNodeFingerprint config address fingerprint) where
  normal := update_normal normal address fingerprint
  extended := by
    unfold updateNodeFingerprint
    cases present : config.profiles config.activeProfile with
    | none => exact extends_refl _
    | some profile =>
      have entries : profile.nodes = config.active := by simp [Config.active, present]
      simp only [entries]
      exact extends_setActive config (extends_pinFirst address fingerprint config.active)

theorem merge_progress {config : Config} (normal : Normal config)
    {discovered : List (String × String)} (listed : ∀ daemon ∈ discovered, found daemon)
    (ids : ∀ daemon ∈ discovered, ∃ info, daemon.2 = entryId info) :
    Progress found config (mergeNodes config discovered).1 where
  normal := merge_normal normal ids
  extended := by
    clear normal ids
    induction discovered generalizing config with
    | nil => exact extends_setActive config (extends_refl _)
    | cons daemon rest inductionHypothesis =>
      have first := extends_setActive config
        (extends_mergeNode (listed daemon List.mem_cons_self) config.active)
      exact extends_trans first
        (inductionHypothesis fun later member => listed later (List.mem_cons_of_mem daemon member))

end Progress

section Commands

variable {found : String × String → Prop} (env : Environment)

/-- The file is as it was, or is normal and continues what was loaded from it. -/
def Saves (found : String × String → Prop) (before after : Option Config) : Prop :=
  after = before ∨ ∃ saved, after = some saved ∧ Progress found (loadConfig before) saved

/-- Checks keep the form, whatever they learn. -/
theorem checks_progress {env : Environment} {change : Session → NodeConfig → Session}
    (checking : Checking env change) (nodes : List NodeConfig) {session : Session}
    (normal : Normal session.config) :
    Progress found session.config (nodes.foldl change session).config := by
  induction nodes generalizing session with
  | nil => exact progress_refl normal
  | cons node rest inductionHypothesis =>
    have first : Progress found session.config (change session node).config := by
      rw [(checking session node).1]
      by_cases learned : ∃ fingerprint, env.outcome session.checks node = .ok (.learned fingerprint)
      · obtain ⟨fingerprint, learned⟩ := learned
        rw [(session.check_learned env node learned).1]
        exact update_progress normal node.address fingerprint
      · have unlearned : env.learns session.checks node = false := by
          unfold Environment.learns
          split
          · exact absurd ⟨_, ‹_›⟩ learned
          · rfl
        rw [(session.check_unlearned env node unlearned).1]
        exact progress_refl normal
    exact progress_trans first (inductionHypothesis first.normal)

theorem ran_saves {env : Environment} {file : Option Config} {nodes : List NodeConfig}
    {final : Session} (ran : Ran env (.begin file) nodes final) : Saves found file final.file := by
  obtain ⟨change, checking, _, unsaved, saved⟩ := ran
  by_cases saves : env.saveFault = none
  · obtain written | ⟨unchanged, _⟩ := saved saves
    · have normal : Normal (Session.begin file).config := load_normal file
      exact .inr ⟨_, written, checks_progress checking nodes normal⟩
    · exact .inl unchanged
  · exact .inl (unsaved saves)

/-- A discover command merges what was found into what it has loaded. -/
theorem discover_file (updateConfig : Bool) (file : Option Config) :
    (runDiscover env updateConfig (.begin file)).2.file = file ∨
      updateConfig = true ∧ ∃ discovered, env.discovered = .ok discovered ∧
        (runDiscover env updateConfig (.begin file)).2.file =
          some (mergeNodes (loadConfig file) discovered).1 := by
  cases heard : env.discovered with
  | error err => simp [runDiscover, heard, Session.begin]
  | ok discovered =>
    cases updateConfig with
    | false => simp [runDiscover, heard, Session.begin]
    | true =>
      cases changed : (mergeNodes (loadConfig file) discovered).2 with
      | false => simp [runDiscover, heard, Session.begin, changed]
      | true =>
        cases save : env.saveFault <;>
          simp [runDiscover, heard, Session.begin, changed, saveConfig, save]

theorem command_saves (command : Command) (file : Option Config)
    (listed : command = .discover true → ∀ discovered, env.discovered = .ok discovered →
      ∀ daemon ∈ discovered, found daemon ∧ ∃ info, daemon.2 = entryId info) :
    Saves found file (runCommand env command (.begin file)).2.file := by
  cases command with
  | node args =>
    rw [runCommand]
    by_cases contacts : ∃ nodes, NodeContacts args (loadConfig file) nodes
    · obtain ⟨nodes, contacts⟩ := contacts
      rw [runNode_contacts env (.begin file) contacts]
      exact ran_saves (contactEach_ran env args.request nodes _ (.begin file))
    · rw [runNode_idle env (.begin file) fun nodes contacted => contacts ⟨nodes, contacted⟩]
      exact .inl rfl
  | status args => exact ran_saves (contactEach_ran env .status _ _ (.begin file))
  | version =>
    rw [runCommand]
    by_cases built : env.clientFault = none
    · exact ran_saves (runVersion_ran env (.begin file) built)
    · rw [runVersion_idle env (.begin file) built]
      exact .inl rfl
  | discover updateConfig =>
    obtain unchanged | ⟨updates, discovered, heard, written⟩ := discover_file env updateConfig file
    · exact .inl unchanged
    · have given := listed (congrArg _ updates) discovered heard
      exact .inr ⟨_, written, merge_progress (load_normal file)
        (fun daemon member => (given daemon member).1) fun daemon member => (given daemon member).2⟩

theorem setFirst_clean {nodes : List NodeConfig} (clean : ∀ node ∈ nodes, CleanName node)
    (pin : Option String) (address : String) : ∀ node ∈ setFirst pin address nodes, CleanName node :=
  modify_clean clean _ fun _ kept => kept

/-- A repin saves at most one fingerprint. -/
theorem repin_saves (name : String) (file : Option Config) :
    Saves found file (runRepin env name (.begin file)).2.file := by
  have normal := load_normal file
  cases meant : (loadConfig file).active.find? (isMeant name) with
  | none =>
    have absent : (loadConfig file).active.find?
        (fun node => node.name = some name || node.address = name) = none := meant
    exact .inl (by simp [runRepin, Session.begin, absent])
  | some named =>
    have repinned : Repinned env (.begin file) named.address (runRepin env name (.begin file)) :=
      repin_found env meant
    cases fetched : env.fetch 0 named.address (resolveUrl named.address) with
    | error err => exact .inl (repinned.failed err fetched).2
    | ok observed =>
      cases save : env.saveFault with
      | some err => exact .inl (repinned.unsaved observed err fetched save).2
      | none =>
        refine .inr ⟨_, (repinned.saved observed fetched save).2, ?_, ?_⟩
        · exact setActive_normal normal (setFirst_clean (active_clean normal) _ _)
        · exact extends_setActive _ (extends_pinFirst named.address observed _)

/-- A change of the profiles leaves the default profile alone. -/
theorem change_default {config changed : Config} (change : ProfileChange config changed) :
    entriesOf changed defaultProfileName = entriesOf config defaultProfileName := by
  cases change with
  | used name present => rfl
  | created name absent =>
    rw [entriesOf_setProfile]
    by_cases same : defaultProfileName = name
    · subst same
      simp [entriesOf, absent]
    · rw [if_neg same]
  | deleted name kept inactive => rw [entriesOf_setProfile, if_neg (Ne.symm kept)]

theorem profile_saves (command : ProfileCommand) (file : Option Config) :
    Saves found file (runProfile env command (.begin file)).2.file := by
  obtain unchanged | ⟨change, allowed, changed⟩ := profile_effect env command (.begin file)
  · exact .inl (congrArg Session.file unchanged)
  · rw [changed]
    cases save : env.saveFault with
    | some err => exact .inl (by simp [saveConfig, save, Session.configure, Session.begin])
    | none =>
      refine .inr ⟨change (loadConfig file), ?_, ?_, ?_⟩
      · simp [saveConfig, save, Session.configure, Session.begin]
      · exact change_normal (load_normal file) allowed
      · have kept : entriesOf (change (loadConfig file)) defaultProfileName =
            entriesOf (loadConfig file) defaultProfileName := change_default allowed
        rw [kept]
        exact extends_refl _

end Commands

section Runs

/-- The daemons that the step has found to merge them into the configuration. -/
def CliStep.Finds (step : CliStep) (daemon : String × String) : Prop :=
  step.command = .contact (.discover true) ∧
    ∃ events, step.events = .ok events ∧ daemon ∈ discoveredNodes events

/-- The daemons that some of the steps have found. -/
def Found (steps : List CliStep) (daemon : String × String) : Prop :=
  ∃ step ∈ steps, step.Finds daemon

/-- A step saves what it makes of what it has loaded; only a discover command that updates
the configuration changes entries, by what it has found. -/
theorem step_saves (step : CliStep) (file : Option Config) : Saves step.Finds file (step.after file) := by
  unfold CliStep.after
  cases given : step.command with
  | contact command =>
    apply command_saves
    intro isDiscover discovered heard' daemon isFound
    have hears := step.hears
    rw [given, isDiscover, heard'] at hears
    cases events : step.events with
    | error err => simp [events, Except.map] at hears
    | ok listed =>
      rw [events] at hears
      obtain rfl : discovered = discoveredNodes listed := Except.ok.inj hears
      exact ⟨⟨by rw [given, isDiscover], listed, events, isFound⟩, discovered_id isFound⟩
  | repin name => exact repin_saves step.env name file
  | profile command => exact profile_saves step.env command file

theorem saves_progress {found : String × String → Prop} {before after : Option Config}
    (saves : Saves found before after) : Progress found (loadConfig before) (loadConfig after) := by
  obtain rfl | ⟨saved, rfl, progress⟩ := saves
  · exact progress_refl (load_normal after)
  · rw [load_saved progress.normal]
    exact progress

theorem saves_weaken {found more : String × String → Prop} (listed : ∀ daemon, found daemon → more daemon)
    {before after : Option Config} (saves : Saves found before after) : Saves more before after := by
  obtain unchanged | ⟨saved, written, progress⟩ := saves
  · exact .inl unchanged
  · exact .inr ⟨saved, written, progress.normal, extends_weaken listed progress.extended⟩

/-- Along any commands the file is left as it was or holds a normal configuration, and
what is loaded at the end continues what was loaded at the start.

Proof: induct on the commands with the file arbitrary; a saved configuration is
normal, so that the next command loads it as it is. -/
theorem run_saves (steps : List CliStep) (file : Option Config) :
    Saves (Found steps) file (steps.foldl CliStep.after file) := by
  induction steps generalizing file with
  | nil => exact .inl rfl
  | cons step rest inductionHypothesis =>
    have first : Saves (Found (step :: rest)) file (step.after file) :=
      saves_weaken (fun _ finds => ⟨step, List.mem_cons_self, finds⟩) (step_saves step file)
    have others : Saves (Found (step :: rest)) (step.after file) (rest.foldl CliStep.after (step.after file)) :=
      saves_weaken (fun _ ⟨later, member, finds⟩ => ⟨later, List.mem_cons_of_mem step member, finds⟩)
        (inductionHypothesis (step.after file))
    obtain unchanged | ⟨saved, written, progress⟩ := others
    · rw [List.foldl_cons, unchanged]
      exact first
    · exact .inr ⟨saved, written, progress_trans (saves_progress first) progress⟩

/-- Loading gives the normal form, with the entries in order, their addresses and
fingerprints as they were, and those of the older version after the entries of the
default profile. All changes keep the normal form, and a normal configuration is
loaded as it was saved. One command keeps the entries of the default profile in their
positions, with their names and addresses except where a daemon that it merges has this
name or address, and adds only daemons that it merges; so does every sequence of
commands, and the entries that were loaded at the start are neither lost nor there
twice. -/
theorem configs_stay_normal :
    (∀ config : Config, Normal (loadConfig (some config)) ∧ ∀ name,
      entriesOf (loadConfig (some config)) name =
          (entriesOf config name ++ if name = defaultProfileName then config.nodes else []).map
            NodeConfig.sanitized ∧
        (entriesOf (loadConfig (some config)) name).map (fun node => (node.address, node.fingerprint)) =
          (entriesOf config name ++ if name = defaultProfileName then config.nodes else []).map
            fun node => (node.address, node.fingerprint)) ∧
    (∀ (env : Environment) (command : ProfileCommand) (session : Session),
      Normal session.config → Normal (runProfile env command session).2.config) ∧
    (∀ (config : Config) (address fingerprint : String),
      Normal config → Normal (updateNodeFingerprint config address fingerprint)) ∧
    (∀ (config : Config) (discovered : List (String × String)),
      Normal config → (∀ daemon ∈ discovered, ∃ info, daemon.2 = entryId info) →
        Normal (mergeNodes config discovered).1) ∧
    (∀ (env : Environment) (session : Session), Normal session.config → env.saveFault = none →
      loadConfig (saveConfig env session).2.file = session.config) ∧
    (∀ (file : Option Config) (step : CliStep),
      Extends step.Finds (entriesOf (loadConfig file) defaultProfileName)
        (entriesOf (loadConfig (step.after file)) defaultProfileName)) ∧
    ∀ (file : Option Config) (steps : List CliStep),
      (steps.foldl CliStep.after file = file ∨
        ∃ saved, steps.foldl CliStep.after file = some saved ∧ Normal saved) ∧
      Extends (Found steps) (entriesOf (loadConfig file) defaultProfileName)
        (entriesOf (loadConfig (steps.foldl CliStep.after file)) defaultProfileName) := by
  refine ⟨?_, ?_, ?_, ?_, ?_, ?_, ?_⟩
  · intro config
    refine ⟨load_normal (some config), fun name => ⟨load_entries config name, ?_⟩⟩
    rw [load_entries, List.map_map]
    rfl
  · intro env command session normal
    exact profile_normal env command normal
  · intro config address fingerprint normal
    exact update_normal normal address fingerprint
  · intro config discovered normal ids
    exact merge_normal normal ids
  · intro env session normal saves
    exact save_load env saves normal
  · intro file step
    exact (saves_progress (step_saves step file)).extended
  · intro file steps
    have saves := run_saves steps file
    refine ⟨?_, (saves_progress saves).extended⟩
    obtain unchanged | ⟨saved, written, progress⟩ := saves
    · exact .inl unchanged
    · exact .inr ⟨saved, written, progress.normal⟩

/-- A configuration with an entry of the older version, whose active profile is missing. -/
def olderConfig : Config where
  activeProfile := "lab"
  profiles name :=
    if name = "default" then some ⟨[⟨some "web\x1b", "10.0.0.2:3625", some "aa:01"⟩]⟩ else none
  nodes := [⟨some "db", "10.0.0.3:3625", some "bb:02"⟩]

theorem older_config_loaded : Normal (loadConfig (some olderConfig)) ∧
    entriesOf (loadConfig (some olderConfig)) "default" =
      [⟨some "web", "10.0.0.2:3625", some "aa:01"⟩, ⟨some "db", "10.0.0.3:3625", some "bb:02"⟩] := by
  obtain ⟨normal, entries⟩ := configs_stay_normal.1 olderConfig
  exact ⟨normal, (entries "default").1.trans (by decide)⟩

end Runs

end Brewmble.CommandRuns
