import Brewmble.CliSteps

/-!
# Commands on profiles and stored pins

The profile command lists the profiles, selects one, creates or deletes one, and
saves what it changed. The repin option of the node command forgets the fingerprint
of a node, checks the node, and saves the fingerprint that it learned. Both work on
the session of the other commands.

Editing the configuration in an editor is not modelled: it may leave any file.
-/

namespace Brewmble.CliCommands

open CliConfig Fallible

variable (env : Environment)

/-- The session with a changed configuration. -/
def Session.configure (change : Config → Config) (session : Session) : Session :=
  let config := change session.config
  { session with config := config, history := session.history ++ [config.active] }

section Profiles

inductive ProfileCommand where
  | list
  | use (name : String)
  | create (name : String)
  | delete (name : String)
  deriving DecidableEq, Repr

/-- Set or remove a profile. -/
def setProfile (name : String) (profile : Option ProfileConfig) (config : Config) : Config :=
  { config with profiles := Function.update config.profiles name profile }

/-- `run_profile`. -/
def runProfile : ProfileCommand → SessionCall Unit
  | .list => return ()
  | .use name => do
    let config ← Call.read Session.config
    if (config.profiles name).isSome then
      Call.modify (Session.configure fun config => { config with activeProfile := name })
      saveConfig env
    else Call.fail ("Profile '" ++ name ++ "' not found")
  | .create name => do
    let config ← Call.read Session.config
    if (config.profiles name).isSome then
      Call.fail ("Profile '" ++ name ++ "' already exists")
    else
      Call.modify (Session.configure (setProfile name (some .default)))
      saveConfig env
  | .delete name => do
    let config ← Call.read Session.config
    if name = defaultProfileName then Call.fail "Cannot delete the default profile"
    else if name = config.activeProfile then
      Call.fail "Cannot delete the active profile. Switch to another profile first."
    else if (config.profiles name).isSome then
      Call.modify (Session.configure (setProfile name none))
      saveConfig env
    else Call.fail ("Profile '" ++ name ++ "' not found")

/-- The changes that profile commands make: another active profile that exists, a new
profile without entries, and no longer a profile that is neither active nor the
default. -/
inductive ProfileChange (config : Config) : Config → Prop
  | used (name : String) (present : config.profiles name ≠ none) :
      ProfileChange config { config with activeProfile := name }
  | created (name : String) (absent : config.profiles name = none) :
      ProfileChange config (setProfile name (some .default) config)
  | deleted (name : String) (kept : name ≠ defaultProfileName) (inactive : name ≠ config.activeProfile) :
      ProfileChange config (setProfile name none config)

/-- A profile command does nothing, or makes its change and saves it. -/
theorem profile_effect (command : ProfileCommand) (session : Session) :
    (runProfile env command session).2 = session ∨
      ∃ change, ProfileChange session.config (change session.config) ∧
        (runProfile env command session).2 = (saveConfig env (session.configure change)).2 := by
  cases command with
  | list => exact .inl rfl
  | use name =>
    by_cases present : (session.config.profiles name).isSome = true
    · refine .inr ⟨fun config => { config with activeProfile := name },
        .used name (Option.isSome_iff_ne_none.mp present), ?_⟩
      simp [runProfile, present]
    · exact .inl (by simp [runProfile, present])
  | create name =>
    by_cases present : (session.config.profiles name).isSome = true
    · exact .inl (by simp [runProfile, present])
    · refine .inr ⟨setProfile name (some .default), .created name (by simpa using present), ?_⟩
      simp [runProfile, present]
  | delete name =>
    by_cases isDefault : name = defaultProfileName
    · exact .inl (by simp [runProfile, isDefault])
    · by_cases isActive : name = session.config.activeProfile
      · exact .inl (by simp [runProfile, isDefault, ← isActive])
      · by_cases present : (session.config.profiles name).isSome = true
        · refine .inr ⟨setProfile name none, .deleted name isDefault isActive, ?_⟩
          simp [runProfile, isDefault, isActive, present]
        · exact .inl (by simp [runProfile, isDefault, isActive, present])

end Profiles

section Repin

/-- The fingerprint of the first entry at the address is forgotten. -/
def clearFirst (address : String) (nodes : List NodeConfig) : List NodeConfig :=
  nodes.modify (nodes.findIdx (·.address = address)) fun node => { node with fingerprint := none }

/-- The second clearing of `run_repin`. -/
def clearFingerprint (address : String) (config : Config) : Config :=
  match config.profiles config.activeProfile with
  | some profile => config.setActive (clearFirst address profile.nodes)
  | none => config

/-- `run_repin`: the entry is looked up by its name or address, and then by the address
that was found. The last lookup is unwrapped in the source. -/
def runRepin (name : String) : SessionCall Unit := do
  let config ← Call.read Session.config
  match config.active.find? fun node => node.name = some name || node.address = name with
  | none =>
    Call.fail ("Node '" ++ name ++ "' not found in profile '" ++ config.activeProfile ++ "'")
  | some named =>
    Call.modify (Session.learn named.address "")
    Call.modify (Session.configure (clearFingerprint named.address))
    let cleared ← Call.read Session.config
    match cleared.active.find? (·.address = named.address) with
    | none => Call.fail "called `Option::unwrap()` on a `None` value"
    | some node =>
      match ← checkPin env node with
      | .ok (.learned fingerprint) =>
        Call.modify (Session.learn node.address fingerprint)
        saveConfig env
      | .ok .matched => return ()
      | .error err => Call.fail err

end Repin

end Brewmble.CliCommands
