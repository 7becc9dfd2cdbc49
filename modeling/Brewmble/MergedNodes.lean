import Brewmble.Claiming
import Brewmble.CliConfig

/-!
# What discovery makes of the entries of a profile

Each discovered daemon is settled in one entry: one that has its name, else one at
its address, else a new one. Daemons with different addresses and ids never take an
entry from each other, so after a merge every one of them is settled, and merging
them again changes nothing.

An entry that no daemon is settled in keeps its address, even if this is the address
of a daemon that was settled in another entry by its name. Addresses that were
distinct remain distinct exactly when there is no such entry.
-/

namespace Brewmble.MergedNodes

open CliConfig Claiming

/-- Two discovered daemons have different addresses, and no id in common. -/
def Apart (first second : String × String) : Prop :=
  first.1 ≠ second.1 ∧ (first.2 ≠ "" → second.2 ≠ first.2)

instance (first second : String × String) : Decidable (Apart first second) :=
  inferInstanceAs (Decidable (_ ∧ _))

theorem Apart.symm {first second : String × String} (apart : Apart first second) :
    Apart second first :=
  ⟨apart.1.symm, fun named same => apart.2 (same ▸ named) same.symm⟩

theorem newName_of_named {id : String} (named : id ≠ "") : newName id = some id := if_neg named

theorem newName_some {id name : String} (given : newName id = some name) : id = name := by
  unfold newName at given
  split at given
  · cases given
  · exact Option.some.inj given

section Finding

variable {nodes : List NodeConfig} {addr id : String}

/-- The entry of a daemon: by its name if it has one, and else by its address. -/
def sought (addr id : String) (node : NodeConfig) : Bool :=
  if id = "" then node.address = addr else node.name = some id

theorem sought_unnamed : sought addr "" = fun node => decide (node.address = addr) := rfl

theorem sought_named (named : id ≠ "") : sought addr id = fun node => decide (node.name = some id) := by
  funext node
  exact if_neg named

/-- What is found has the name or the address, and nothing before it is sought. -/
theorem foundIndex_some {index : Nat} (found : foundIndex nodes addr (newName id) = some index) :
    (∃ node, nodes[index]? = some node ∧
      (id ≠ "" ∧ node.name = some id ∨ node.address = addr)) ∧
    ∀ earlier < index, ∀ node, nodes[earlier]? = some node → sought addr id node = false := by
  unfold foundIndex at found
  by_cases named : id = ""
  · have byAddress : nodes.findIdx? (·.address = addr) = some index := by
      simpa [named, newName] using found
    obtain ⟨⟨node, listed, there⟩, passes⟩ := findIdx?_iff.mp byAddress
    refine ⟨⟨node, listed, .inr (by simpa using there)⟩, ?_⟩
    simpa [sought, named] using passes
  · rw [newName_of_named named, Option.bind_some] at found
    cases byName : nodes.findIdx? (·.name = some id) with
    | some position =>
      obtain rfl : position = index := by simpa [byName] using found
      obtain ⟨⟨node, listed, called⟩, passes⟩ := findIdx?_iff.mp byName
      refine ⟨⟨node, listed, .inl ⟨named, by simpa using called⟩⟩, ?_⟩
      simpa [sought, named] using passes
    | none =>
      have byAddress : nodes.findIdx? (·.address = addr) = some index := by
        simpa [byName] using found
      obtain ⟨⟨node, listed, there⟩, _⟩ := findIdx?_iff.mp byAddress
      refine ⟨⟨node, listed, .inr (by simpa using there)⟩, ?_⟩
      intro earlier _ node listed
      simpa [sought, named] using
        List.findIdx?_eq_none_iff.mp byName node (List.mem_of_getElem? listed)

/-- Where nothing is found, nothing is sought. -/
theorem foundIndex_none (absent : foundIndex nodes addr (newName id) = none) :
    nodes.findIdx? (sought addr id) = none := by
  unfold foundIndex at absent
  obtain ⟨unnamed, unplaced⟩ := Option.or_eq_none_iff.mp absent
  by_cases named : id = ""
  · rw [List.findIdx?_eq_none_iff] at unplaced ⊢
    simpa [sought, named] using unplaced
  · rw [newName_of_named named, Option.bind_some, List.findIdx?_eq_none_iff] at unnamed
    rw [List.findIdx?_eq_none_iff]
    simpa [sought, named] using unnamed

theorem foundIndex_of_sought {index : Nat} (first : nodes.findIdx? (sought addr id) = some index) :
    foundIndex nodes addr (newName id) = some index := by
  unfold foundIndex
  by_cases named : id = ""
  · subst named
    rw [sought_unnamed] at first
    simp [newName, first]
  · rw [sought_named named] at first
    simp [newName_of_named named, first]

end Finding

section Settling

variable {addr id : String} {nodes : List NodeConfig}

/-- The entry that the daemon is looked up in has its address and name. -/
def Settled (addr id : String) (nodes : List NodeConfig) : Prop :=
  ∃ index node, nodes.findIdx? (sought addr id) = some index ∧ nodes[index]? = some node ∧
    node.address = addr ∧ node.name = newName id

theorem sought_merged (addr id : String) (node : NodeConfig) :
    sought addr id (node.merged addr (newName id)) = true := by
  by_cases named : id = ""
  · simp [sought, named, NodeConfig.merged]
  · simp [sought, named, NodeConfig.merged, newName_of_named named]

/-- Merging a daemon settles it. -/
theorem merge_settles (addr id : String) (nodes : List NodeConfig) :
    Settled addr id (mergeNode addr id nodes).1 := by
  cases found : foundIndex nodes addr (newName id) with
  | some index =>
    obtain ⟨⟨node, listed, _⟩, passes⟩ := foundIndex_some found
    refine ⟨index, node.merged addr (newName id), ?_, ?_, rfl, rfl⟩
    · simp only [mergeNode, found]
      exact find_changed listed (sought_merged addr id node) passes
    · simp [mergeNode, found, listed]
  | none =>
    have absent := foundIndex_none found
    have added : sought addr id ⟨newName id, addr, none⟩ = true :=
      sought_merged addr id ⟨none, addr, none⟩
    refine ⟨nodes.length, ⟨newName id, addr, none⟩, ?_, ?_, rfl, rfl⟩
    · simp [mergeNode, found, absent, added]
    · simp [mergeNode, found]

/-- Merging a settled daemon changes nothing. -/
theorem merge_settled (settled : Settled addr id nodes) : mergeNode addr id nodes = (nodes, false) := by
  obtain ⟨index, node, first, listed, address, name⟩ := settled
  have unchanged : (mergeNode addr id nodes).2 = false := by
    simp [mergeNode, foundIndex_of_sought first, listed, address, name]
  exact Prod.ext (mergeNode_unchanged addr id nodes unchanged) unchanged

/-- A daemon that is settled in an entry is not looked up there by another one. -/
theorem sought_apart {other : String × String} (apart : Apart (addr, id) other) (node : NodeConfig) :
    sought addr id (node.merged other.1 (newName other.2)) = false := by
  by_cases named : id = ""
  · have differs : other.1 ≠ addr := apart.1.symm
    simp [sought, named, NodeConfig.merged, differs]
  · have differs : newName other.2 ≠ some id := fun same => apart.2 named (newName_some same)
    simp [sought, named, NodeConfig.merged, differs]

/-- A settled daemon remains settled when another one is merged.

Proof: the other one is found neither by name nor by address in the entry of the
settled one, and the entry that it is settled in is not one that is looked up for the
settled one. -/
theorem settled_kept (settled : Settled addr id nodes) {other : String × String}
    (apart : Apart (addr, id) other) : Settled addr id (mergeNode other.1 other.2 nodes).1 := by
  obtain ⟨index, node, first, listed, address, name⟩ := settled
  cases found : foundIndex nodes other.1 (newName other.2) with
  | some position =>
    obtain ⟨⟨taken, there, reason⟩, _⟩ := foundIndex_some found
    have distinct : position ≠ index := by
      rintro rfl
      obtain rfl : taken = node := Option.some.inj (there.symm.trans listed)
      obtain ⟨named, called⟩ | placed := reason
      · have same : id = other.2 := newName_some (name.symm.trans called)
        exact apart.2 (same ▸ named) same.symm
      · exact apart.1 (address.symm.trans placed)
    refine ⟨index, node, ?_, ?_, address, name⟩
    · simp only [mergeNode, found]
      exact find_kept first distinct fun former _ => sought_apart apart former
    · simpa [mergeNode, found, distinct] using listed
  | none =>
    have inside : index < nodes.length := (List.getElem?_eq_some_iff.mp listed).1
    refine ⟨index, node, ?_, ?_, address, name⟩
    · simp [mergeNode, found, first]
    · simpa [mergeNode, found, List.getElem?_append_left inside] using listed

end Settling

section Merging

/-- The entries after daemons were merged one after another. -/
def mergeAll (discovered : List (String × String)) (nodes : List NodeConfig) : List NodeConfig :=
  discovered.foldl (fun nodes found => (mergeNode found.1 found.2 nodes).1) nodes

theorem merged_active (config : Config) (discovered : List (String × String)) :
    (mergeNodes config discovered).1.active = mergeAll discovered config.active :=
  mergeNodes_active config discovered

variable {discovered : List (String × String)} {nodes : List NodeConfig}

/-- A settled daemon remains settled while others are merged. -/
theorem settled_through {addr id : String} (settled : Settled addr id nodes)
    (apart : ∀ other ∈ discovered, Apart (addr, id) other) :
    Settled addr id (mergeAll discovered nodes) := by
  induction discovered generalizing nodes with
  | nil => exact settled
  | cons other rest inductionHypothesis =>
    have kept : Settled addr id (mergeNode other.1 other.2 nodes).1 :=
      settled_kept settled (apart other List.mem_cons_self)
    exact inductionHypothesis kept fun later member => apart later (List.mem_cons_of_mem other member)

/-- After a merge all of its daemons are settled. -/
theorem all_settled (apart : discovered.Pairwise Apart) :
    ∀ found ∈ discovered, Settled found.1 found.2 (mergeAll discovered nodes) := by
  induction discovered generalizing nodes with
  | nil =>
    rintro found ⟨⟩
  | cons other rest inductionHypothesis =>
    obtain ⟨fromOther, remaining⟩ := List.pairwise_cons.mp apart
    intro found member
    obtain rfl | later := List.mem_cons.mp member
    · have kept : Settled found.1 found.2 (mergeAll rest (mergeNode found.1 found.2 nodes).1) :=
        settled_through (merge_settles found.1 found.2 nodes) fromOther
      exact kept
    · exact inductionHypothesis remaining found later

/-- Writing its own entries to a profile that exists changes nothing. -/
theorem setActive_same {config : Config} (present : config.profiles config.activeProfile ≠ none) :
    config.setActive config.active = config := by
  obtain ⟨profile, found⟩ := Option.ne_none_iff_exists'.mp present
  have same : some ⟨config.active⟩ = config.profiles config.activeProfile := by
    simp [Config.active, found]
  rw [Config.setActive, same, Function.update_eq_self]

/-- A merge replaces the entries of the active profile and nothing else. -/
theorem mergeNodes_frame (config : Config) (discovered : List (String × String)) :
    (mergeNodes config discovered).1 = config.setActive (mergeAll discovered config.active) := by
  induction discovered generalizing config with
  | nil => rfl
  | cons found rest inductionHypothesis =>
    rw [mergeNodes, inductionHypothesis, setActive_active, setActive_setActive]
    rfl

/-- A merge that reports no update leaves a configuration with an active profile as it is. -/
theorem unreported_unchanged {config : Config} {discovered : List (String × String)}
    (present : config.profiles config.activeProfile ≠ none)
    (unreported : (mergeNodes config discovered).2 = false) :
    (mergeNodes config discovered).1 = config := by
  have entries : mergeAll discovered config.active = config.active := by
    rw [← merged_active]
    exact mergeNodes_unchanged config discovered unreported
  rw [mergeNodes_frame, entries, setActive_same present]

/-- Merging daemons that are all settled changes nothing. -/
theorem merge_all_settled {config : Config} (present : config.profiles config.activeProfile ≠ none)
    (settled : ∀ found ∈ discovered, Settled found.1 found.2 config.active) :
    mergeNodes config discovered = (config, false) := by
  induction discovered with
  | nil => rw [mergeNodes, setActive_same present]
  | cons found rest inductionHypothesis =>
    have unchanged := merge_settled (settled found List.mem_cons_self)
    have remaining := inductionHypothesis fun later member =>
      settled later (List.mem_cons_of_mem found member)
    simp only [mergeNodes, unchanged, setActive_same present, remaining, Bool.or_self]

/-- A merge leaves an active profile. -/
theorem merged_present (config : Config) (discovered : List (String × String)) :
    (mergeNodes config discovered).1.profiles (mergeNodes config discovered).1.activeProfile ≠
      none := by
  induction discovered generalizing config with
  | nil => simp [mergeNodes, Config.setActive]
  | cons found rest inductionHypothesis =>
    exact inductionHypothesis (config.setActive (mergeNode found.1 found.2 config.active).1)

/-- Every discovered daemon has an entry with its address and name after a merge, and
merging the same daemons again changes nothing.

Proof: all of them are settled after the merge, and a settled daemon is found again
where it was settled. -/
theorem merge_complete_idempotent (config : Config) (discovered : List (String × String))
    (apart : discovered.Pairwise Apart) :
    (∀ addr id, (addr, id) ∈ discovered →
      ∃ node ∈ (mergeNodes config discovered).1.active,
        node.address = addr ∧ node.name = newName id) ∧
    mergeNodes (mergeNodes config discovered).1 discovered =
      ((mergeNodes config discovered).1, false) := by
  have settled : ∀ found ∈ discovered,
      Settled found.1 found.2 (mergeNodes config discovered).1.active := by
    rw [merged_active]
    exact all_settled apart
  constructor
  · intro addr id member
    obtain ⟨index, node, _, listed, address, name⟩ := settled (addr, id) member
    exact ⟨node, List.mem_of_getElem? listed, address, name⟩
  · exact merge_all_settled (merged_present config discovered) settled

/-- Two entries with one name. -/
def repeatedName : Config where
  activeProfile := "default"
  profiles name :=
    if name = "default" then
      some ⟨[⟨some "web", "10.0.0.2:3625", some "aa:01"⟩, ⟨some "web", "10.0.0.3:3625", none⟩]⟩
    else none
  nodes := []

/-- The named daemon takes the first entry with its name, also the second time. -/
theorem repeated_name_merged :
    mergeNodes
        (mergeNodes repeatedName [("10.0.0.4:3625", "web"), ("10.0.0.5:3625", "")]).1
        [("10.0.0.4:3625", "web"), ("10.0.0.5:3625", "")] =
      ((mergeNodes repeatedName [("10.0.0.4:3625", "web"), ("10.0.0.5:3625", "")]).1, false) :=
  (merge_complete_idempotent repeatedName _ (by decide)).2

end Merging

section Distinct

/-- A daemon takes the entry that it is found in, if there is one. -/
def claim (addr id : String) (entries : List NodeConfig) : List NodeConfig :=
  match foundIndex entries addr (newName id) with
  | some index => entries.eraseIdx index
  | none => entries

/-- The entries that are left when each daemon in turn has taken the first entry that
has its name, or else the first one at its address, from those still left. -/
def unclaimed (discovered : List (String × String)) (entries : List NodeConfig) :
    List NodeConfig :=
  discovered.foldl (fun entries found => claim found.1 found.2 entries) entries

/-- No daemon that is still to come is looked up in one of these entries. -/
def Past (discovered : List (String × String)) (settled : List NodeConfig) : Prop :=
  ∀ node ∈ settled, ∀ found ∈ discovered,
    node.address ≠ found.1 ∧ (found.2 ≠ "" → node.name ≠ some found.2)

variable {settled free nodes : List NodeConfig}

/-- A daemon is found among all entries as among the free ones: not at all, or by a
search that passes over the settled ones. -/
theorem found_woven (woven : Woven settled free nodes) {addr id : String}
    (past : Past [(addr, id)] settled) :
    (foundIndex free addr (newName id) = none ∧ foundIndex nodes addr (newName id) = none) ∨
      ∃ (wanted : NodeConfig → Bool) (index : Nat), (∀ node ∈ settled, wanted node = false) ∧
        free.findIdx? wanted = some index ∧ foundIndex free addr (newName id) = some index ∧
        ∀ position, nodes.findIdx? wanted = some position →
          foundIndex nodes addr (newName id) = some position := by
  have unplaced : ∀ node ∈ settled, decide (node.address = addr) = false := by
    intro node member
    simpa using (past node member (addr, id) List.mem_cons_self).1
  have unnamed : id ≠ "" → ∀ node ∈ settled, decide (node.name = some id) = false := by
    intro named node member
    simpa using (past node member (addr, id) List.mem_cons_self).2 named
  unfold foundIndex
  by_cases named : id = ""
  · cases byAddress : free.findIdx? (·.address = addr) with
    | none => exact .inl (by simp [named, newName, woven.find_none unplaced byAddress])
    | some index =>
      refine .inr ⟨_, index, unplaced, byAddress, by simp [named, newName], ?_⟩
      intro position searched
      simp [named, newName, searched]
  · rw [newName_of_named named]
    cases byName : free.findIdx? (·.name = some id) with
    | some index =>
      refine .inr ⟨_, index, unnamed named, byName, by simp [byName], ?_⟩
      intro position searched
      simp [searched]
    | none =>
      have nowhere := woven.find_none (unnamed named) byName
      cases byAddress : free.findIdx? (·.address = addr) with
      | none => exact .inl (by simp [byName, nowhere, woven.find_none unplaced byAddress])
      | some index =>
        refine .inr ⟨_, index, unplaced, byAddress, by simp [byName], ?_⟩
        intro position searched
        simp [nowhere, searched]

/-- The entry that a daemon is merged into, which it takes from the free ones if it can. -/
def made (addr id : String) (free : List NodeConfig) : NodeConfig :=
  match (foundIndex free addr (newName id)).bind (free[·]?) with
  | some node => node.merged addr (newName id)
  | none => ⟨newName id, addr, none⟩

/-- The entries of the daemons when each in turn takes one from those still left. -/
def madeAll : List (String × String) → List NodeConfig → List NodeConfig
  | [], _ => []
  | found :: rest, free => made found.1 found.2 free :: madeAll rest (claim found.1 found.2 free)

theorem made_address (addr id : String) (free : List NodeConfig) : (made addr id free).address = addr := by
  unfold made
  split <;> rfl

theorem made_name (addr id : String) (free : List NodeConfig) : (made addr id free).name = newName id := by
  unfold made
  split <;> rfl

theorem madeAll_addresses (discovered : List (String × String)) (free : List NodeConfig) :
    (madeAll discovered free).map (·.address) = discovered.map Prod.fst := by
  induction discovered generalizing free with
  | nil => rfl
  | cons found rest inductionHypothesis =>
    rw [madeAll, List.map_cons, List.map_cons, made_address, inductionHypothesis]

/-- A daemon is merged into the entry that it takes from the free ones, or into a new
entry. -/
theorem merge_woven (woven : Woven settled free nodes) {addr id : String}
    (past : Past [(addr, id)] settled) :
    ∃ settled', settled'.Perm (made addr id free :: settled) ∧
      Woven settled' (claim addr id free) (mergeNode addr id nodes).1 := by
  obtain ⟨unfound, absent⟩ | ⟨wanted, index, passed, searched, chosen, whole⟩ :=
    found_woven woven past
  · have new : made addr id free = ⟨newName id, addr, none⟩ := by simp [made, unfound]
    refine ⟨settled ++ [⟨newName id, addr, none⟩], new ▸ List.perm_append_singleton _ _, ?_⟩
    simpa only [claim, unfound, mergeNode, absent] using woven.append ⟨newName id, addr, none⟩
  · obtain ⟨position, node, settled', found, listed, _, perm, rewoven⟩ :=
      woven.find_some passed searched (·.merged addr (newName id))
    have taken : made addr id free = node.merged addr (newName id) := by simp [made, chosen, listed]
    refine ⟨settled', taken ▸ perm, ?_⟩
    simpa only [claim, chosen, mergeNode, whole position found] using rewoven

/-- What is merged consists of an entry for each daemon and the unclaimed entries.

Proof: induct on the daemons with the weaving arbitrary. A settled daemon is past for
those that come after it. -/
theorem merge_all_woven {discovered : List (String × String)} (woven : Woven settled free nodes)
    (past : Past discovered settled) (apart : discovered.Pairwise Apart) :
    ∃ settled', Woven settled' (unclaimed discovered free) (mergeAll discovered nodes) ∧
      settled'.Perm (madeAll discovered free ++ settled) := by
  induction discovered generalizing settled free nodes with
  | nil => exact ⟨settled, woven, .refl _⟩
  | cons found rest inductionHypothesis =>
    obtain ⟨fromFound, remaining⟩ := List.pairwise_cons.mp apart
    have first : Past [found] settled := by
      intro node member other listed
      obtain rfl := List.mem_singleton.mp listed
      exact past node member other List.mem_cons_self
    obtain ⟨settled', perm, rewoven⟩ := merge_woven woven first
    have later : Past rest settled' := by
      intro entry member other listed
      obtain rfl | earlier := List.mem_cons.mp (perm.mem_iff.mp member)
      · rw [made_address, made_name]
        refine ⟨(fromFound other listed).1, ?_⟩
        intro named called
        have same : found.2 = other.2 := newName_some called
        exact (fromFound other listed).2 (same ▸ named) same.symm
      · exact past entry earlier other (List.mem_cons_of_mem found listed)
    obtain ⟨final, wovenFinal, permFinal⟩ := inductionHypothesis rewoven later remaining
    exact ⟨final, wovenFinal, permFinal.trans ((perm.append_left _).trans List.perm_middle)⟩

/-- What is merged is made of the daemons' entries and the unclaimed ones. -/
theorem merged_perm {discovered : List (String × String)} (apart : discovered.Pairwise Apart)
    (nodes : List NodeConfig) :
    (mergeAll discovered nodes).Perm (madeAll discovered nodes ++ unclaimed discovered nodes) := by
  have past : Past discovered [] := by
    rintro node ⟨⟩
  obtain ⟨settled, woven, perm⟩ := merge_all_woven (all_free nodes) past apart
  rw [List.append_nil] at perm
  exact woven.perm.trans (perm.append_right _)

theorem unclaimed_sublist (discovered : List (String × String)) (entries : List NodeConfig) :
    (unclaimed discovered entries).Sublist entries := by
  induction discovered generalizing entries with
  | nil => exact .refl entries
  | cons found rest inductionHypothesis =>
    have first : (claim found.1 found.2 entries).Sublist entries := by
      unfold claim
      split
      · exact List.eraseIdx_sublist _ _
      · exact .refl entries
    exact (inductionHypothesis _).trans first

/-- Distinct addresses remain distinct under a merge exactly when no entry is left
unclaimed at the address of a discovered daemon.

Proof: the merged entries are one at the address of each daemon and the unclaimed
ones at their own addresses. -/
theorem merged_addresses_distinct_iff (config : Config) (discovered : List (String × String))
    (distinct : (config.active.map (·.address)).Nodup) (apart : discovered.Pairwise Apart) :
    ((mergeNodes config discovered).1.active.map (·.address)).Nodup ↔
      ∀ node ∈ unclaimed discovered config.active, node.address ∉ discovered.map Prod.fst := by
  have perm : ((mergeNodes config discovered).1.active.map (·.address)).Perm
      (discovered.map Prod.fst ++ (unclaimed discovered config.active).map (·.address)) := by
    have whole := (merged_perm apart config.active).map (·.address)
    rw [List.map_append, madeAll_addresses] at whole
    rwa [merged_active]
  have daemons : (discovered.map Prod.fst).Nodup :=
    List.pairwise_map.mpr (apart.imp fun both => both.1)
  have remaining : ((unclaimed discovered config.active).map (·.address)).Nodup :=
    distinct.sublist ((unclaimed_sublist discovered config.active).map _)
  rw [perm.nodup_iff, List.nodup_append]
  constructor
  · rintro ⟨_, _, disjoint⟩ node member listed
    exact disjoint node.address listed node.address (List.mem_map_of_mem member) rfl
  · intro free
    refine ⟨daemons, remaining, ?_⟩
    rintro address listed other member rfl
    obtain ⟨node, left, rfl⟩ := List.mem_map.mp member
    exact free node left listed

/-- Two nodes with their addresses in the profile. -/
def twoNodes : Config where
  activeProfile := "default"
  profiles name :=
    if name = "default" then
      some ⟨[⟨some "web", "10.0.0.2:3625", none⟩, ⟨some "db", "10.0.0.3:3625", none⟩]⟩
    else none
  nodes := []

/-- One node has got the address of the other, which is not there any more. -/
theorem moved_onto_address :
    ¬ ∀ config discovered, (config.active.map (·.address)).Nodup →
      discovered.Pairwise Apart → (∀ found ∈ discovered, found.2 ≠ "") →
      ((mergeNodes config discovered).1.active.map (·.address)).Nodup := by
  intro claimed
  exact absurd (claimed twoNodes [("10.0.0.2:3625", "db")] (by decide) (by decide) (by decide))
    (by decide)

/-- Nodes that have exchanged their addresses keep them distinct. -/
theorem exchanged_addresses_distinct :
    ((mergeNodes twoNodes [("10.0.0.2:3625", "db"), ("10.0.0.3:3625", "web")]).1.active.map
      (·.address)).Nodup :=
  (merged_addresses_distinct_iff twoNodes _ (by decide) (by decide)).mpr (by decide)

end Distinct

end Brewmble.MergedNodes
