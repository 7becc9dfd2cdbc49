import Brewmble.ProfileCommands

/-!
# What a repin changes

A repin looks an entry up by its name or address, and goes on with the first entry at
the address it found. It contacts that address once, and saves the observed
fingerprint on that first entry; an error leaves the file as it is.

The name that the mismatch message tells the operator to give need not lead back to
the entry: another one may have the same name or address. The condition under which
it does, and under which nothing else changes, is exact.
-/

namespace Brewmble.RepinnedEntry

open CliConfig Pin CliCommands Fallible ResolveUrl

section Entries

variable (address : String) (nodes : List NodeConfig)

def withPin (pin : Option String) (node : NodeConfig) : NodeConfig := { node with fingerprint := pin }

/-- The first entry at the address gets this fingerprint, or none. -/
def setFirst (pin : Option String) (address : String) (nodes : List NodeConfig) : List NodeConfig :=
  nodes.modify (nodes.findIdx (·.address = address)) (withPin pin)

theorem pinFirst_eq (fingerprint : String) :
    pinFirst address fingerprint nodes = setFirst (some fingerprint) address nodes := rfl

theorem clearFirst_eq : clearFirst address nodes = setFirst none address nodes := rfl

/-- A fingerprint does not move the first entry at an address. -/
theorem findIdx_withPin (pin : Option String) (position : Nat) :
    (nodes.modify position (withPin pin)).findIdx (·.address = address) =
      nodes.findIdx (·.address = address) := by
  induction nodes generalizing position with
  | nil => simp
  | cons node rest inductionHypothesis =>
    cases position with
    | zero => simp [List.findIdx_cons, withPin]
    | succ position => simp [List.findIdx_cons, inductionHypothesis]

/-- The last fingerprint that was set is the one that is left. -/
theorem setFirst_setFirst (first second : Option String) :
    setFirst second address (setFirst first address nodes) = setFirst second address nodes := by
  rw [setFirst, setFirst, findIdx_withPin, List.modify_modify_eq]
  rfl

theorem find_setFirst (pin : Option String) :
    (setFirst pin address nodes).find? (·.address = address) =
      (nodes.find? (·.address = address)).map (withPin pin) := by
  rw [List.find?_eq_getElem?_findIdx, List.find?_eq_getElem?_findIdx, setFirst, findIdx_withPin]
  simp

end Entries

section Running

variable (env : Environment) {session : Session} {name : String} {named : NodeConfig}

theorem setActive_profile (config : Config) (nodes : List NodeConfig) :
    (config.setActive nodes).profiles config.activeProfile = some ⟨nodes⟩ := by
  simp [Config.setActive]

/-- An entry is in a profile that exists. -/
theorem active_profile {config : Config} {node : NodeConfig} (member : node ∈ config.active) :
    config.profiles config.activeProfile = some ⟨config.active⟩ := by
  cases found : config.profiles config.activeProfile with
  | some profile => simp [Config.active, found]
  | none => simp [Config.active, found, ProfileConfig.default] at member

theorem update_eq {config : Config} {node : NodeConfig} (member : node ∈ config.active)
    (address fingerprint : String) :
    updateNodeFingerprint config address fingerprint =
      config.setActive (setFirst (some fingerprint) address config.active) := by
  simp [updateNodeFingerprint, active_profile member, pinFirst_eq]

/-- The entry is called so, or has this address. -/
def isMeant (name : String) (node : NodeConfig) : Bool := node.name = some name || node.address = name

/-- What a repin does once it has found an entry: one check of the address, and the
observed fingerprint saved on the first entry there. -/
structure Repinned (session : Session) (address : String)
    (result : Except String Unit × Session) : Prop where
  checked : ∃ node outcome, node.address = address ∧
    result.2.events = session.events ++ [.checked node outcome]
  failed : ∀ err, env.fetch session.checks address (resolveUrl address) = .error err →
    result.1 = .error err ∧ result.2.file = session.file
  unsaved : ∀ observed err, env.fetch session.checks address (resolveUrl address) = .ok observed →
    env.saveFault = some err → result.1 = .error err ∧ result.2.file = session.file
  saved : ∀ observed, env.fetch session.checks address (resolveUrl address) = .ok observed →
    env.saveFault = none → result.1 = .ok () ∧
      result.2.file = some (session.config.setActive
        (setFirst (some observed) address session.config.active))

/-- A repin saves what it observed, or it fails and saves nothing. -/
theorem Repinned.ended {session : Session} {address : String}
    {result : Except String Unit × Session} (ran : Repinned env session address result) :
    (∃ observed, env.fetch session.checks address (resolveUrl address) = .ok observed ∧
      env.saveFault = none ∧ result.1 = .ok () ∧
      result.2.file = some (session.config.setActive
        (setFirst (some observed) address session.config.active))) ∨
    ∃ err, result.1 = .error err ∧ result.2.file = session.file := by
  cases fetched : env.fetch session.checks address (resolveUrl address) with
  | error err => exact .inr ⟨err, ran.failed err fetched⟩
  | ok observed =>
    cases save : env.saveFault with
    | some err => exact .inr ⟨err, ran.unsaved observed err fetched save⟩
    | none => exact .inl ⟨observed, rfl, rfl, ran.saved observed fetched save⟩

/-- After both clearings the first entry at the address is the one without its
fingerprint, and a fingerprint learned then replaces the old one. -/
theorem cleared_config {config : Config} (member : named ∈ config.active) :
    ∃ first, first.address = named.address ∧
      let cleared := clearFingerprint named.address (updateNodeFingerprint config named.address "")
      cleared.active.find? (·.address = named.address) = some (withPin none first) ∧
      ∀ observed, updateNodeFingerprint cleared named.address observed =
        config.setActive (setFirst (some observed) named.address config.active) := by
  have isFound : (config.active.find? (·.address = named.address)).isSome = true :=
    List.find?_isSome.mpr ⟨named, member, by simp⟩
  obtain ⟨first, there⟩ := Option.isSome_iff_exists.mp isFound
  have address : first.address = named.address := by simpa using List.find?_some there
  have cleared : clearFingerprint named.address (updateNodeFingerprint config named.address "") =
      config.setActive (setFirst none named.address config.active) := by
    rw [update_eq member, clearFingerprint]
    simp only [setActive_activeProfile, setActive_profile, clearFirst_eq, setFirst_setFirst,
      setActive_setActive]
  have located : (setFirst none named.address config.active).find? (·.address = named.address) =
      some (withPin none first) := by
    rw [find_setFirst, there]
    rfl
  refine ⟨first, address, ?_, ?_⟩
  · rw [cleared, setActive_active, located]
  · intro observed
    have present : withPin none first ∈
        (config.setActive (setFirst none named.address config.active)).active := by
      rw [setActive_active]
      exact List.mem_of_find?_eq_some located
    rw [cleared, update_eq present, setActive_active, setFirst_setFirst, setActive_setActive]

/-- An entry without a fingerprint learns what is observed. -/
theorem outcome_unpinned (check : Nat) (node : NodeConfig) :
    env.outcome check (withPin none node) =
      (env.fetch check node.address (resolveUrl node.address)).map .learned := by
  unfold Environment.outcome checkPinWithFetcher
  cases fetched : env.fetch check node.address (resolveUrl node.address) <;>
    simp [withPin, fetched, bind, Except.bind, Except.map, pure, Except.pure]

/-- A repin that finds an entry runs as described.

Proof: the two lookups by address lead to the first entry there, without its
fingerprint, so the check learns what it observes. -/
theorem repin_found (found : session.config.active.find? (isMeant name) = some named) :
    Repinned env session named.address (runRepin env name session) := by
  have meant : session.config.active.find?
      (fun node => node.name = some name || node.address = name) = some named := found
  obtain ⟨first, address, located, relearned⟩ := cleared_config (List.mem_of_find?_eq_some found)
  have outcome := outcome_unpinned env session.checks first
  rw [address] at outcome
  have there : (withPin none first).address = named.address := address
  cases fetched : env.fetch session.checks named.address (resolveUrl named.address) with
  | error err =>
    rw [fetched] at outcome
    have checked : (runRepin env name session).2.events =
        session.events ++ [.checked (withPin none first) (.error err)] := by
      simp [runRepin, meant, Session.learn, Session.configure, located, checkPin, outcome,
        Except.map]
    have ended : (runRepin env name session).1 = .error err ∧
        (runRepin env name session).2.file = session.file := by
      simp [runRepin, meant, Session.learn, Session.configure, located, checkPin, outcome,
        Except.map]
    refine ⟨⟨_, _, there, checked⟩, ?_, ?_, ?_⟩
    · intro other same
      rw [fetched] at same
      obtain rfl := Except.error.inj same
      exact ended
    · intro observed err' same
      rw [fetched] at same
      cases same
    · intro observed same
      rw [fetched] at same
      cases same
  | ok observed =>
    rw [fetched] at outcome
    have checked : (runRepin env name session).2.events =
        session.events ++ [.checked (withPin none first) (.ok (.learned observed))] := by
      cases save : env.saveFault <;>
        simp [runRepin, meant, Session.learn, Session.configure, located, checkPin, outcome,
          Except.map, saveConfig, save]
    refine ⟨⟨_, _, there, checked⟩, ?_, ?_, ?_⟩
    · intro err same
      rw [fetched] at same
      cases same
    · intro other err same save
      simp [runRepin, meant, Session.learn, Session.configure, located, checkPin, outcome,
        Except.map, saveConfig, save]
    · intro other same save
      rw [fetched] at same
      obtain rfl := Except.ok.inj same
      simp [runRepin, meant, Session.learn, Session.configure, located, checkPin, outcome,
        Except.map, saveConfig, save, there, relearned]

end Running

section Exactly

variable (env : Environment) (config : Config) (file : Option Config) (position : Nat)
  (node : NodeConfig)

/-- The repin of this entry, by the name in the mismatch message. -/
def repin : Except String Unit × Session := runRepin env (nodeName node) (.start config file)

/-- What the fetch for the entry's address results in. -/
def observation : Except String String := env.fetch 0 node.address (resolveUrl node.address)

/-- Only the entry's address is contacted. If the repin succeeds, the saved
configuration is the previous one with the observed fingerprint on the entry, and
otherwise nothing is saved. -/
structure RepinsOnly : Prop where
  contacted : ∃ checked outcome, checked.address = node.address ∧
    (repin env config file node).2.events = [.checked checked outcome]
  saved : (repin env config file node).1 = .ok () → ∃ observed,
    observation env node = .ok observed ∧
      (repin env config file node).2.file =
        some (config.setActive (config.active.modify position (withPin (some observed))))
  unsaved : ∀ err, (repin env config file node).1 = .error err →
    (repin env config file node).2.file = file

/-- The first entry that has the name or address has the address of this one. If what
is observed there can be saved, this is the first entry at the address, or both have
this fingerprint already. -/
def LeadsBack : Prop :=
  ∃ named, config.active.find? (isMeant (nodeName node)) = some named ∧
    named.address = node.address ∧
    ∀ observed, observation env node = .ok observed → env.saveFault = none →
      config.active.findIdx (·.address = node.address) = position ∨
        ∃ first, config.active.find? (·.address = node.address) = some first ∧
          first.fingerprint = some observed ∧ node.fingerprint = some observed

/-- Changing one element or another comes to the same only where it changes neither. -/
theorem modify_same_iff {Element : Type} {elements : List Element} {change : Element → Element}
    {first second : Nat} {one other : Element} (left : elements[first]? = some one)
    (right : elements[second]? = some other) :
    elements.modify first change = elements.modify second change ↔
      first = second ∨ change one = one ∧ change other = other := by
  by_cases same : first = second
  · simp [same]
  · have distinct : second ≠ first := fun equal => same equal.symm
    constructor
    · intro equal
      have atFirst := congrArg (·[first]?) equal
      have atSecond := congrArg (·[second]?) equal
      simp only [List.getElem?_modify, if_pos, if_neg distinct, if_neg same, left, right,
        Option.map_eq_map, Option.map_some, Option.some.injEq] at atFirst atSecond
      exact .inr ⟨atFirst, atSecond.symm⟩
    · rintro (equal | ⟨keepsOne, keepsOther⟩)
      · exact absurd equal same
      · apply List.ext_getElem?
        intro position
        by_cases here : first = position
        · subst here
          simp [distinct, left, keepsOne]
        · by_cases there : second = position
          · subst there
            simp [same, right, keepsOther]
          · simp [here, there]

theorem withPin_self_iff (pin : Option String) : withPin pin node = node ↔ node.fingerprint = pin := by
  constructor
  · intro same
    rw [← same]
    rfl
  · rintro rfl
    rfl

variable {node}

theorem meant_found (listed : config.active[position]? = some node) :
    ∃ named, config.active.find? (isMeant (nodeName node)) = some named := by
  have itself : isMeant (nodeName node) node = true := by
    cases given : node.name <;> simp [isMeant, nodeName, given]
  exact Option.isSome_iff_exists.mp
    (List.find?_isSome.mpr ⟨node, List.mem_of_getElem? listed, itself⟩)

/-- The first entry at the address is this one, or both have the fingerprint already,
exactly where setting it on either comes to the same. -/
theorem setFirst_iff (listed : config.active[position]? = some node) (observed : String) :
    setFirst (some observed) node.address config.active =
        config.active.modify position (withPin (some observed)) ↔
      config.active.findIdx (·.address = node.address) = position ∨
        ∃ first, config.active.find? (·.address = node.address) = some first ∧
          first.fingerprint = some observed ∧ node.fingerprint = some observed := by
  have isFound : (config.active.find? (·.address = node.address)).isSome = true :=
    List.find?_isSome.mpr ⟨node, List.mem_of_getElem? listed, by simp⟩
  obtain ⟨first, there⟩ := Option.isSome_iff_exists.mp isFound
  have located := there
  rw [List.find?_eq_getElem?_findIdx] at located
  rw [setFirst, modify_same_iff located listed, withPin_self_iff, withPin_self_iff]
  simp [there]

/-- A repin by the name of an entry changes this entry and nothing else exactly where
its lookups lead back to it.

Proof: the address that is contacted is the one that was found. What is saved has the
fingerprint on the first entry there. -/
theorem repins_only_iff (listed : config.active[position]? = some node) :
    RepinsOnly env config file position node ↔ LeadsBack env config position node := by
  obtain ⟨named, found⟩ := meant_found config position listed
  have ran : Repinned env (.start config file) named.address (repin env config file node) :=
    repin_found env found
  obtain ⟨checked, outcome, address, events⟩ := ran.checked
  constructor
  · intro only
    obtain ⟨contacted, _, there, contact⟩ := only.contacted
    have same : named.address = node.address := by
      rw [← address, ← there]
      have equal := events.symm.trans contact
      simp only [Session.start_events, List.nil_append, List.cons.injEq, Event.checked.injEq] at equal
      rw [equal.1.1]
    refine ⟨named, found, same, ?_⟩
    intro observed fetched save
    have fetchedThere : env.fetch 0 named.address (resolveUrl named.address) = .ok observed := by
      rw [same]
      exact fetched
    obtain ⟨ended, written⟩ := ran.saved observed fetchedThere save
    obtain ⟨other, fetched', expected⟩ := only.saved ended
    obtain rfl : observed = other := Except.ok.inj (fetched.symm.trans fetched')
    have saved := Option.some.inj (written.symm.trans expected)
    have entries := congrArg Config.active saved
    rw [setActive_active, setActive_active, same] at entries
    exact (setFirst_iff config position listed observed).mp entries
  · rintro ⟨other, found', same, single⟩
    obtain rfl : named = other := Option.some.inj (found.symm.trans found')
    have sameFetch : env.fetch 0 named.address (resolveUrl named.address) =
        observation env node := by
      rw [same]
      rfl
    refine ⟨⟨checked, outcome, address.trans same, events⟩, ?_, ?_⟩
    · intro succeeded
      obtain ⟨observed, fetched, save, _, written⟩ | ⟨err, failed, _⟩ := ran.ended
      · have observes : observation env node = .ok observed := sameFetch.symm.trans fetched
        have entries := (setFirst_iff config position listed observed).mpr
          (single observed observes save)
        refine ⟨observed, observes, written.trans ?_⟩
        rw [same]
        exact congrArg (fun nodes => some (config.setActive nodes)) entries
      · rw [succeeded] at failed
        cases failed
    · intro err failed
      obtain ⟨_, _, _, succeeded, _⟩ | ⟨_, _, kept⟩ := ran.ended
      · rw [failed] at succeeded
        cases succeeded
      · exact kept

end Exactly

/-- Everything works, and a new certificate is presented. -/
def renewed : Environment where
  fetch _ _ _ := .ok "bb:02"
  saveFault := none
  clientFault := none
  discovered := .ok []
  schedule := ⟨id, fun targets => List.Perm.refl targets⟩

/-- Two nodes at one address, each with a fingerprint. -/
def sharedAddress : Config where
  activeProfile := "default"
  profiles name :=
    if name = "default" then
      some ⟨[⟨some "web", "10.0.0.2:3625", some "aa:01"⟩, ⟨some "db", "10.0.0.2:3625", some "cc:03"⟩]⟩
    else none
  nodes := []

/-- The repin of the second node writes to the first one. -/
theorem repin_writes_elsewhere :
    ¬ ∀ env config file position node, config.active[position]? = some node →
      RepinsOnly env config file position node := by
  intro claimed
  obtain ⟨observed, fetched, saved⟩ := (claimed renewed sharedAddress none 1
    ⟨some "db", "10.0.0.2:3625", some "cc:03"⟩ rfl).saved rfl
  obtain rfl := Except.ok.inj fetched
  have entries := congrArg (Option.map Config.active) saved
  exact absurd entries (by decide)

/-- The repin of the first node changes only this one. -/
theorem first_node_repinned :
    RepinsOnly renewed sharedAddress none 0 ⟨some "web", "10.0.0.2:3625", some "aa:01"⟩ :=
  (repins_only_iff renewed sharedAddress none 0 rfl).mpr
    ⟨_, rfl, rfl, fun _ _ _ => .inl rfl⟩

end Brewmble.RepinnedEntry
