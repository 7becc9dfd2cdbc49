import Mathlib.Logic.Function.Basic

/-!
# The configuration of the command line tool

A configuration has named profiles, one of which is active. Each profile lists
its nodes in order; an entry has an address, and may have a name and a stored
fingerprint. Nothing makes names or addresses distinct.

Two operations change the active profile. A learned fingerprint is written to the
first entry at an address. Discovered daemons are merged one after another: an
entry is found by name first and by address otherwise, and an entry whose address
changes loses its fingerprint. The syntax of the file is not modelled: a file is
the configuration it holds.
-/

namespace Brewmble.CliConfig

structure NodeConfig where
  name : Option String
  address : String
  fingerprint : Option String
  deriving DecidableEq, Repr

structure ProfileConfig where
  nodes : List NodeConfig
  deriving DecidableEq, Repr

structure Config where
  activeProfile : String
  profiles : String → Option ProfileConfig
  /-- The entries of an older version, which had no profiles. -/
  nodes : List NodeConfig

def defaultProfileName : String := "default"

def ProfileConfig.default : ProfileConfig := ⟨[]⟩

/-- `Config::default`. -/
def Config.default : Config where
  activeProfile := defaultProfileName
  profiles := Function.update (fun _ => none) defaultProfileName (some .default)
  nodes := []

/-- The entries of the active profile; a missing profile has none. -/
def Config.active (config : Config) : List NodeConfig :=
  ((config.profiles config.activeProfile).getD .default).nodes

section Loading

/-- `sanitize_display`: control characters are removed. -/
def sanitizeDisplay (text : String) : String :=
  String.ofList (text.toList.filter fun char =>
    !(char.toNat ≤ 0x1F || char.toNat = 0x7F || 0x80 ≤ char.toNat && char.toNat ≤ 0x9F))

/-- The entries of the older version become entries of the default profile. -/
def migrateNodes (config : Config) : Config :=
  if config.nodes = [] then config
  else
    let profile := (config.profiles defaultProfileName).getD .default
    { config with
      profiles := Function.update config.profiles defaultProfileName
        (some ⟨profile.nodes ++ config.nodes⟩)
      nodes := [] }

def NodeConfig.sanitized (node : NodeConfig) : NodeConfig :=
  { node with name := node.name.map sanitizeDisplay }

def sanitizeNames (config : Config) : Config :=
  { config with
    profiles := fun name => (config.profiles name).map fun profile =>
      ⟨profile.nodes.map NodeConfig.sanitized⟩ }

/-- The active profile exists afterwards. -/
def ensureActive (config : Config) : Config :=
  match config.profiles config.activeProfile with
  | some _ => config
  | none =>
    { config with
      profiles := Function.update config.profiles config.activeProfile (some .default) }

/-- `load_config`, given what the file holds, if there is a file. -/
def loadConfig : Option Config → Config
  | none => .default
  | some config => ensureActive (sanitizeNames (migrateNodes config))

end Loading

section Updating

/-- Replace the entries of a profile that exists. -/
def Config.setActive (config : Config) (nodes : List NodeConfig) : Config :=
  { config with
    profiles := Function.update config.profiles config.activeProfile (some ⟨nodes⟩) }

/-- Write the fingerprint to the first entry at the address. -/
def pinFirst (address fingerprint : String) (nodes : List NodeConfig) : List NodeConfig :=
  nodes.modify (nodes.findIdx (·.address = address))
    fun node => { node with fingerprint := some fingerprint }

/-- `update_node_fingerprint`. -/
def updateNodeFingerprint (config : Config) (address fingerprint : String) : Config :=
  match config.profiles config.activeProfile with
  | some profile => config.setActive (pinFirst address fingerprint profile.nodes)
  | none => config

/-- The entry that a discovered daemon belongs to: by name first, if it has one. -/
def foundIndex (nodes : List NodeConfig) (addr : String) (newName : Option String) : Option Nat :=
  (newName.bind fun name => nodes.findIdx? (·.name = some name)).or
    (nodes.findIdx? (·.address = addr))

/-- An entry as a discovered daemon leaves it: a new address clears its fingerprint. -/
def NodeConfig.merged (node : NodeConfig) (addr : String) (newName : Option String) :
    NodeConfig where
  name := newName
  address := addr
  fingerprint := if node.address = addr then node.fingerprint else none

/-- An empty id is no name. -/
def newName (id : String) : Option String := if id = "" then none else some id

/-- One discovered daemon, and whether it changed anything. -/
def mergeNode (addr id : String) (nodes : List NodeConfig) : List NodeConfig × Bool :=
  match foundIndex nodes addr (newName id) with
  | some index =>
    (nodes.modify index (·.merged addr (newName id)),
      nodes[index]?.any fun node => node.address ≠ addr || node.name ≠ newName id)
  | none => (nodes ++ [⟨newName id, addr, none⟩], true)

/-- `merge_nodes`: a missing active profile is made first. -/
def mergeNodes : Config → List (String × String) → Config × Bool
  | config, [] => (config.setActive config.active, false)
  | config, (addr, id) :: rest =>
    let (nodes, changed) := mergeNode addr id config.active
    let (merged, updated) := mergeNodes (config.setActive nodes) rest
    (merged, changed || updated)

end Updating

section Active

variable (config : Config)

@[simp] theorem setActive_active (nodes : List NodeConfig) :
    (config.setActive nodes).active = nodes := by
  simp [Config.setActive, Config.active]

@[simp] theorem setActive_activeProfile (nodes : List NodeConfig) :
    (config.setActive nodes).activeProfile = config.activeProfile := rfl

theorem setActive_setActive (first second : List NodeConfig) :
    (config.setActive first).setActive second = config.setActive second := by
  simp [Config.setActive]

/-- Nothing is pinned in a profile without entries. -/
theorem pinFirst_nil (address fingerprint : String) : pinFirst address fingerprint [] = [] := rfl

/-- The entries after a fingerprint was written, whether or not the profile exists. -/
theorem updateNodeFingerprint_active (address fingerprint : String) :
    (updateNodeFingerprint config address fingerprint).active =
      pinFirst address fingerprint config.active := by
  unfold updateNodeFingerprint
  cases found : config.profiles config.activeProfile with
  | some profile => simp [Config.active, found, Config.setActive]
  | none => simp [Config.active, found, ProfileConfig.default, pinFirst_nil]

/-- The merged entries depend on the entries of the active profile only. -/
theorem mergeNodes_active (discovered : List (String × String)) :
    (mergeNodes config discovered).1.active =
      discovered.foldl (fun nodes found => (mergeNode found.1 found.2 nodes).1) config.active := by
  induction discovered generalizing config with
  | nil => simp [mergeNodes]
  | cons found rest inductionHypothesis => simp [mergeNodes, inductionHypothesis]

/-- A daemon that changes nothing leaves the entries as they are. -/
theorem mergeNode_unchanged (addr id : String) (nodes : List NodeConfig)
    (unchanged : (mergeNode addr id nodes).2 = false) : (mergeNode addr id nodes).1 = nodes := by
  cases found : foundIndex nodes addr (newName id) with
  | none => simp [mergeNode, found] at unchanged
  | some index =>
    simp only [mergeNode, found] at unchanged ⊢
    apply List.ext_getElem?
    intro position
    by_cases same : index = position
    · subst same
      cases listed : nodes[index]? with
      | none => simp [listed]
      | some node =>
        obtain ⟨address, name⟩ : node.address = addr ∧ node.name = newName id := by
          simpa [listed] using unchanged
        simp [listed, NodeConfig.merged, ← address, ← name]
    · simp [same]

/-- Merging that reports no update leaves the entries as they are. -/
theorem mergeNodes_unchanged (discovered : List (String × String))
    (unchanged : (mergeNodes config discovered).2 = false) :
    (mergeNodes config discovered).1.active = config.active := by
  induction discovered generalizing config with
  | nil => simp [mergeNodes]
  | cons found rest inductionHypothesis =>
    obtain ⟨first, later⟩ : (mergeNode found.1 found.2 config.active).2 = false ∧
        (mergeNodes (config.setActive (mergeNode found.1 found.2 config.active).1) rest).2 =
          false := by
      simpa [mergeNodes] using unchanged
    rw [mergeNodes, inductionHypothesis _ later, setActive_active, mergeNode_unchanged _ _ _ first]

end Active

section Loaded

variable (config : Config)

/-- Entries of the older version come after those of the profile they join. -/
theorem migrateNodes_active : ∃ joined, (migrateNodes config).active = config.active ++ joined ∧
    (migrateNodes config).activeProfile = config.activeProfile := by
  unfold migrateNodes
  by_cases none : config.nodes = []
  · exact ⟨[], by simp [none]⟩
  · by_cases same : config.activeProfile = defaultProfileName
    · exact ⟨config.nodes, by simp [none, Config.active, same]⟩
    · exact ⟨[], by simp [none, Config.active, same]⟩

theorem sanitizeNames_active :
    (sanitizeNames config).active = config.active.map NodeConfig.sanitized := by
  cases found : config.profiles config.activeProfile <;>
    simp [sanitizeNames, Config.active, found, ProfileConfig.default]

theorem ensureActive_active : (ensureActive config).active = config.active := by
  unfold ensureActive
  cases found : config.profiles config.activeProfile with
  | some profile => rfl
  | none => simp [Config.active, found, ProfileConfig.default]

/-- A loaded profile has the entries of the file in order with their names sanitized,
and maybe some of the older version after them. -/
theorem loadConfig_active :
    ∃ joined, (loadConfig (some config)).active =
      (config.active ++ joined).map NodeConfig.sanitized := by
  obtain ⟨joined, active, _⟩ := migrateNodes_active config
  exact ⟨joined, by rw [loadConfig, ensureActive_active, sanitizeNames_active, active]⟩

end Loaded

end Brewmble.CliConfig
