import Brewmble.Discovery
import Brewmble.ProfileCommands

/-!
# The normal form of a configuration

A loaded configuration is normal: its active profile exists, the entries of the older
version have moved to the default profile, and no name has a control character. The
commands keep the normal form, and a normal configuration that is saved is loaded
again as it is. So the older entries are migrated once.
-/

namespace Brewmble.NormalConfig

open CliConfig CliCommands Discovery

section Text

/-- A C0 control, DEL or a C1 control. -/
def isControl (char : Char) : Bool :=
  char.toNat ≤ 0x1F || char.toNat = 0x7F || 0x80 ≤ char.toNat && char.toNat ≤ 0x9F

def Clean (text : String) : Prop := ∀ char ∈ text.toList, isControl char = false

theorem sanitized_clean (text : String) : Clean (sanitizeDisplay text) := by
  intro char member
  have kept : char ∈ text.toList.filter fun char => !isControl char := by
    simpa [sanitizeDisplay, isControl] using member
  simpa using (List.mem_filter.mp kept).2

theorem sanitize_of_clean {text : String} (clean : Clean text) : sanitizeDisplay text = text := by
  have kept : (text.toList.filter fun char => !isControl char) = text.toList :=
    List.filter_eq_self.mpr fun char member => by simp [clean char member]
  have same : sanitizeDisplay text = String.ofList (text.toList.filter fun char => !isControl char) :=
    rfl
  rw [same, kept, String.ofList_toList]

/-- The id of an entry has no control characters. -/
theorem entryId_clean (info : ResolvedService) : Clean (entryId info) := by
  unfold entryId
  cases info.txtProperties.find? (·.1 = "id") with
  | none =>
    rintro char ⟨⟩
  | some property => exact sanitized_clean _

end Text

section Normal

/-- The entries of a profile; a missing profile has none. -/
def entriesOf (config : Config) (name : String) : List NodeConfig :=
  ((config.profiles name).getD .default).nodes

theorem entriesOf_active (config : Config) : entriesOf config config.activeProfile = config.active := rfl

/-- The name of an entry, if it has one, has no control characters. -/
def CleanName (node : NodeConfig) : Prop := ∀ name, node.name = some name → Clean name

structure Normal (config : Config) : Prop where
  present : config.profiles config.activeProfile ≠ none
  migrated : config.nodes = []
  clean : ∀ name, ∀ node ∈ entriesOf config name, CleanName node

theorem sanitized_cleanName (node : NodeConfig) : CleanName node.sanitized := by
  intro name given
  obtain ⟨original, _, rfl⟩ := Option.map_eq_some_iff.mp given
  exact sanitized_clean original

theorem sanitized_of_cleanName {node : NodeConfig} (clean : CleanName node) : node.sanitized = node := by
  have same : node.name.map sanitizeDisplay = node.name := by
    cases given : node.name with
    | none => rfl
    | some name => rw [Option.map_some, sanitize_of_clean (clean name given)]
  rw [NodeConfig.sanitized, same]

variable (config : Config)

theorem migrateNodes_entries (name : String) :
    entriesOf (migrateNodes config) name =
      entriesOf config name ++ if name = defaultProfileName then config.nodes else [] := by
  unfold migrateNodes
  by_cases none : config.nodes = []
  · simp [none]
  · by_cases same : name = defaultProfileName
    · subst same
      simp [none, entriesOf]
    · simp [none, entriesOf, same]

theorem sanitizeNames_entries (name : String) :
    entriesOf (sanitizeNames config) name = (entriesOf config name).map NodeConfig.sanitized := by
  cases found : config.profiles name <;> simp [entriesOf, sanitizeNames, found, ProfileConfig.default]

theorem ensureActive_entries (name : String) :
    entriesOf (ensureActive config) name = entriesOf config name := by
  unfold ensureActive
  cases found : config.profiles config.activeProfile with
  | some profile => rfl
  | none =>
    by_cases same : name = config.activeProfile
    · subst same
      simp [entriesOf, found]
    · simp [entriesOf, same]

/-- A loaded profile has its entries in order, and after them, in the default profile,
those of the older version. -/
theorem load_entries (name : String) :
    entriesOf (loadConfig (some config)) name =
      (entriesOf config name ++ if name = defaultProfileName then config.nodes else []).map
        NodeConfig.sanitized := by
  rw [loadConfig, ensureActive_entries, sanitizeNames_entries, migrateNodes_entries]

theorem ensureActive_present (config : Config) :
    (ensureActive config).profiles (ensureActive config).activeProfile ≠ none ∧
      (ensureActive config).nodes = config.nodes := by
  unfold ensureActive
  cases found : config.profiles config.activeProfile with
  | some profile => simp [found]
  | none => simp

/-- Whatever a file holds, it is loaded in normal form. -/
theorem load_normal (file : Option Config) : Normal (loadConfig file) := by
  cases file with
  | none =>
    refine ⟨by simp [loadConfig, Config.default], rfl, ?_⟩
    intro name node member
    by_cases same : name = defaultProfileName <;>
      simp [loadConfig, Config.default, entriesOf, same, ProfileConfig.default] at member
  | some config =>
    obtain ⟨present, nodes⟩ := ensureActive_present (sanitizeNames (migrateNodes config))
    refine ⟨present, ?_, ?_⟩
    · have emptied : (migrateNodes config).nodes = [] := by
        unfold migrateNodes
        by_cases none : config.nodes = [] <;> simp [none]
      exact nodes.trans emptied
    · intro name node member
      rw [load_entries] at member
      obtain ⟨original, _, rfl⟩ := List.mem_map.mp member
      exact sanitized_cleanName original

variable {config}

/-- A normal configuration is loaded as it was saved. -/
theorem load_saved (normal : Normal config) : loadConfig (some config) = config := by
  have migrated : migrateNodes config = config := if_pos normal.migrated
  have sanitized : sanitizeNames config = config := by
    unfold sanitizeNames
    have profiles : (fun name => (config.profiles name).map fun profile =>
        (⟨profile.nodes.map NodeConfig.sanitized⟩ : ProfileConfig)) = config.profiles := by
      funext name
      cases found : config.profiles name with
      | none => rfl
      | some profile =>
        have clean : ∀ node ∈ profile.nodes, CleanName node := by
          intro node member
          exact normal.clean name node (by simpa [entriesOf, found] using member)
        have entries : profile.nodes.map NodeConfig.sanitized = profile.nodes :=
          (List.map_congr_left fun node member => sanitized_of_cleanName (clean node member)).trans
            (List.map_id _)
        rw [Option.map_some, entries]
    rw [profiles]
  obtain ⟨profile, present⟩ := Option.ne_none_iff_exists'.mp normal.present
  rw [loadConfig, migrated, sanitized, ensureActive]
  simp only [present]

/-- Saving a normal configuration and loading it again gives it back. -/
theorem save_load (env : Environment) {session : Session} (saves : env.saveFault = none)
    (normal : Normal session.config) :
    loadConfig (saveConfig env session).2.file = session.config := by
  simp [saveConfig, saves, load_saved normal]

end Normal

section Keeping

variable {config : Config} {nodes : List NodeConfig}

theorem entriesOf_setActive (config : Config) (nodes : List NodeConfig) (name : String) :
    entriesOf (config.setActive nodes) name =
      if name = config.activeProfile then nodes else entriesOf config name := by
  by_cases same : name = config.activeProfile
  · subst same
    simp [entriesOf, Config.setActive]
  · simp [entriesOf, Config.setActive, same]

/-- Writing entries with clean names to the active profile keeps the normal form. -/
theorem setActive_normal (normal : Normal config) (clean : ∀ node ∈ nodes, CleanName node) :
    Normal (config.setActive nodes) where
  present := by simp [Config.setActive]
  migrated := normal.migrated
  clean := by
    intro name node member
    rw [entriesOf_setActive] at member
    by_cases same : name = config.activeProfile
    · rw [if_pos same] at member
      exact clean node member
    · rw [if_neg same] at member
      exact normal.clean name node member

theorem active_clean (normal : Normal config) : ∀ node ∈ config.active, CleanName node :=
  normal.clean config.activeProfile

/-- A changed entry with a clean name keeps the names clean. -/
theorem modify_clean (clean : ∀ node ∈ nodes, CleanName node) (position : Nat)
    {change : NodeConfig → NodeConfig} (changed : ∀ node, CleanName node → CleanName (change node)) :
    ∀ node ∈ nodes.modify position change, CleanName node := by
  intro node member
  obtain ⟨index, listed⟩ := List.mem_iff_getElem?.mp member
  rw [List.getElem?_modify] at listed
  obtain ⟨original, stood, same⟩ := Option.map_eq_some_iff.mp listed
  have cleanOriginal := clean original (List.mem_of_getElem? stood)
  by_cases here : position = index
  · rw [if_pos here] at same
    exact same ▸ changed original cleanOriginal
  · rw [if_neg here] at same
    exact same ▸ cleanOriginal

/-- A pin update keeps the normal form. -/
theorem update_normal (normal : Normal config) (address fingerprint : String) :
    Normal (updateNodeFingerprint config address fingerprint) := by
  unfold updateNodeFingerprint
  cases found : config.profiles config.activeProfile with
  | none => exact normal
  | some profile =>
    have entries : profile.nodes = config.active := by simp [Config.active, found]
    simp only [entries]
    exact setActive_normal normal (modify_clean (active_clean normal) _ fun node clean => clean)

theorem mergeNode_clean {addr id : String} (cleanId : Clean id)
    (clean : ∀ node ∈ nodes, CleanName node) :
    ∀ node ∈ (mergeNode addr id nodes).1, CleanName node := by
  have cleanNew (node : NodeConfig) (named : node.name = newName id) : CleanName node := by
    intro name given
    rw [named, newName] at given
    split at given
    · cases given
    · obtain rfl := Option.some.inj given
      exact cleanId
  cases found : foundIndex nodes addr (newName id) with
  | some index =>
    simp only [mergeNode, found]
    exact modify_clean clean index fun node _ => cleanNew _ rfl
  | none =>
    intro node member
    simp only [mergeNode, found, List.mem_append, List.mem_singleton] at member
    obtain earlier | rfl := member
    · exact clean node earlier
    · exact cleanNew _ rfl

/-- Merging daemons with the ids of entries keeps the normal form. -/
theorem merge_normal (normal : Normal config) {discovered : List (String × String)}
    (ids : ∀ found ∈ discovered, ∃ info, found.2 = entryId info) :
    Normal (mergeNodes config discovered).1 := by
  induction discovered generalizing config with
  | nil => exact setActive_normal normal (active_clean normal)
  | cons found rest inductionHypothesis =>
    obtain ⟨info, id⟩ := ids found List.mem_cons_self
    have cleanId : Clean found.2 := id ▸ entryId_clean info
    have merged : Normal (config.setActive (mergeNode found.1 found.2 config.active).1) :=
      setActive_normal normal (mergeNode_clean cleanId (active_clean normal))
    exact inductionHypothesis merged fun later member => ids later (List.mem_cons_of_mem found member)

theorem entriesOf_setProfile (config : Config) (name other : String)
    (profile : Option ProfileConfig) :
    entriesOf (setProfile name profile config) other =
      if other = name then (profile.getD .default).nodes else entriesOf config other := by
  by_cases same : other = name
  · subst same
    simp [entriesOf, setProfile]
  · simp [entriesOf, setProfile, same]

/-- Making a profile empty, or removing one that is not active, keeps the normal form. -/
theorem setProfile_normal (normal : Normal config) (name : String) {profile : Option ProfileConfig}
    (empty : (profile.getD .default).nodes = [])
    (remains : profile = none → name ≠ config.activeProfile) :
    Normal (setProfile name profile config) where
  present := by
    by_cases same : config.activeProfile = name
    · have kept : profile ≠ none := fun removed => remains removed same.symm
      simpa [setProfile, same] using kept
    · simpa [setProfile, same] using normal.present
  migrated := normal.migrated
  clean := by
    intro other node member
    rw [entriesOf_setProfile] at member
    by_cases same : other = name
    · simp [same, empty] at member
    · rw [if_neg same] at member
      exact normal.clean other node member

/-- A change of the profiles keeps the normal form. -/
theorem change_normal (normal : Normal config) {changed : Config}
    (change : ProfileChange config changed) : Normal changed := by
  cases change with
  | used name present => exact ⟨present, normal.migrated, normal.clean⟩
  | created name absent => exact setProfile_normal normal name rfl (by simp)
  | deleted name kept inactive => exact setProfile_normal normal name rfl fun _ => inactive

/-- A profile command keeps the normal form, whether or not it is saved. -/
theorem profile_normal (env : Environment) (command : ProfileCommand) {session : Session}
    (normal : Normal session.config) : Normal (runProfile env command session).2.config := by
  obtain unchanged | ⟨change, allowed, changed⟩ := profile_effect env command session
  · rw [unchanged]
    exact normal
  · have saved : (saveConfig env (session.configure change)).2.config = change session.config := by
      cases save : env.saveFault <;> simp [saveConfig, save, Session.configure]
    rw [changed, saved]
    exact change_normal normal allowed

end Keeping

end Brewmble.NormalConfig
