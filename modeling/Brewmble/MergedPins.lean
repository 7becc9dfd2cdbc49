import Brewmble.MergedNodes

/-!
# What a merge does to the pins of a profile

A merge goes through the discovered daemons, and each of them changes one entry in its
place or adds one. So an entry is followed by its position. Its pin remains exactly as
long as no daemon changes its address. An address that changes and is restored later
has lost the pin on the way, so the pin depends on the whole history of the position
and not on its first and last address.

Only entries of the active profile change. A merge that reports no update leaves the
configuration as it is.
-/

namespace Brewmble.MergedPins

open CliConfig Claiming MergedNodes

/-- The entry is the former one, with the names and addresses of some of the discovered
daemons written to it one after another. -/
inductive Continued (discovered : List (String × String)) (node : NodeConfig) :
    NodeConfig → Prop
  | same : Continued discovered node node
  | merged (before : NodeConfig) (found : String × String) (member : found ∈ discovered)
      (earlier : Continued discovered node before) :
      Continued discovered node (before.merged found.1 (newName found.2))

/-- One of the daemons changes the address of the entry at the position. -/
def Moved (discovered : List (String × String)) (nodes : List NodeConfig) (position : Nat) : Prop :=
  ∃ earlier found later before after, discovered = earlier ++ found :: later ∧
    (mergeAll earlier nodes)[position]? = some before ∧
    (mergeNode found.1 found.2 (mergeAll earlier nodes)).1[position]? = some after ∧
    before.address ≠ after.address

section Step

variable {nodes : List NodeConfig} {position : Nat} {node : NodeConfig}

/-- A daemon leaves an entry or is merged into it, and either way the pin remains
exactly if the address does. -/
theorem merge_entry (addr id : String) (listed : nodes[position]? = some node) :
    ∃ next, (mergeNode addr id nodes).1[position]? = some next ∧
      (next = node ∨ next = node.merged addr (newName id)) ∧
      next.fingerprint = if node.address = next.address then node.fingerprint else none := by
  have inside : position < nodes.length := (List.getElem?_eq_some_iff.mp listed).1
  cases found : foundIndex nodes addr (newName id) with
  | none =>
    refine ⟨node, ?_, .inl rfl, by simp⟩
    simpa [mergeNode, found, List.getElem?_append_left inside] using listed
  | some index =>
    by_cases here : index = position
    · refine ⟨node.merged addr (newName id), ?_, .inr rfl, rfl⟩
      simp [mergeNode, found, here, listed]
    · refine ⟨node, ?_, .inl rfl, by simp⟩
      simpa [mergeNode, found, here] using listed

/-- An entry is at the end of the others when it is new, and it has no pin. -/
theorem merge_new (addr id : String) (unlisted : nodes[position]? = none)
    (listed : (mergeNode addr id nodes).1[position]? = some node) :
    node = ⟨newName id, addr, none⟩ := by
  have outside : nodes.length ≤ position := List.getElem?_eq_none_iff.mp unlisted
  cases found : foundIndex nodes addr (newName id) with
  | none =>
    have added : [(⟨newName id, addr, none⟩ : NodeConfig)][position - nodes.length]? = some node := by
      simpa [mergeNode, found, List.getElem?_append_right outside] using listed
    exact List.mem_singleton.mp (List.mem_of_getElem? added)
  | some index =>
    have changed : (nodes.modify index (·.merged addr (newName id)))[position]? = some node := by
      simpa only [mergeNode, found] using listed
    simp [List.getElem?_modify, unlisted] at changed

/-- What moves an entry is the first daemon or one of the others after it. -/
theorem moved_cons (found : String × String) (rest : List (String × String)) :
    Moved (found :: rest) nodes position ↔
      (∃ before after, nodes[position]? = some before ∧
        (mergeNode found.1 found.2 nodes).1[position]? = some after ∧
        before.address ≠ after.address) ∨
      Moved rest (mergeNode found.1 found.2 nodes).1 position := by
  constructor
  · rintro ⟨earlier, other, later, before, after, split, listed, next, changed⟩
    cases earlier with
    | nil =>
      obtain ⟨rfl, rfl⟩ := List.cons.inj split
      exact .inl ⟨before, after, listed, next, changed⟩
    | cons first earlier =>
      obtain ⟨rfl, rfl⟩ := List.cons.inj split
      exact .inr ⟨earlier, other, later, before, after, rfl, listed, next, changed⟩
  · rintro (⟨before, after, listed, next, changed⟩ |
      ⟨earlier, other, later, before, after, rfl, listed, next, changed⟩)
    · exact ⟨[], found, rest, before, after, rfl, listed, next, changed⟩
    · exact ⟨found :: earlier, other, later, before, after, rfl, listed, next, changed⟩

end Step

section Run

variable {discovered : List (String × String)} {nodes : List NodeConfig} {position : Nat}
  {node : NodeConfig}

theorem Continued.weaken {found : String × String} {first last : NodeConfig}
    (continued : Continued discovered first last) : Continued (found :: discovered) first last := by
  induction continued with
  | same => exact .same
  | merged before other member earlier inductionHypothesis =>
    exact .merged before other (List.mem_cons_of_mem found member) inductionHypothesis

theorem Continued.trans {first second third : NodeConfig}
    (before : Continued discovered first second) (after : Continued discovered second third) :
    Continued discovered first third := by
  induction after with
  | same => exact before
  | merged current found member earlier inductionHypothesis =>
    exact .merged current found member inductionHypothesis

/-- An entry without a pin does not get one. -/
theorem Continued.unpinned {last : NodeConfig} (continued : Continued discovered node last)
    (absent : node.fingerprint = none) : last.fingerprint = none := by
  induction continued with
  | same => exact absent
  | merged before found member earlier inductionHypothesis =>
    simp [NodeConfig.merged, inductionHypothesis]

/-- An entry is continued at its position, and its pin remains unless it is moved.

Proof: induct on the daemons with the entries arbitrary. After the first daemon that
moves the entry it has no pin, and it does not get one. -/
theorem merge_continues (listed : nodes[position]? = some node) :
    ∃ last, (mergeAll discovered nodes)[position]? = some last ∧ Continued discovered node last ∧
      (Moved discovered nodes position → last.fingerprint = none) ∧
      (¬ Moved discovered nodes position → last.fingerprint = node.fingerprint) := by
  induction discovered generalizing nodes node with
  | nil =>
    refine ⟨node, listed, .same, ?_, fun _ => rfl⟩
    rintro ⟨earlier, found, later, _, _, split, _⟩
    simp at split
  | cons found rest inductionHypothesis =>
    obtain ⟨next, nextListed, step, pin⟩ := merge_entry found.1 found.2 listed
    obtain ⟨last, lastListed, continued, dropped, kept⟩ := inductionHypothesis nextListed
    have first : Continued (found :: rest) node next := by
      obtain rfl | rfl := step
      · exact .same
      · exact .merged node found List.mem_cons_self .same
    have moves : Moved (found :: rest) nodes position ↔
        node.address ≠ next.address ∨ Moved rest (mergeNode found.1 found.2 nodes).1 position := by
      simp [moved_cons, listed, nextListed]
    refine ⟨last, lastListed, first.trans continued.weaken, ?_, ?_⟩
    · intro moved
      obtain changed | later := moves.mp moved
      · exact continued.unpinned (by rw [pin, if_neg changed])
      · exact dropped later
    · intro unmoved
      obtain ⟨same, still⟩ := not_or.mp (unmoved ∘ moves.mpr)
      rw [kept still, pin, if_pos (not_not.mp same)]

/-- An entry at a new position is one that a daemon added, and others may have been
merged into it; it has no pin. -/
theorem merge_adds (unlisted : nodes[position]? = none)
    (listed : (mergeAll discovered nodes)[position]? = some node) :
    ∃ found ∈ discovered, Continued discovered ⟨newName found.2, found.1, none⟩ node := by
  induction discovered generalizing nodes with
  | nil =>
    have absent : nodes[position]? = some node := listed
    simp [unlisted] at absent
  | cons found rest inductionHypothesis =>
    cases next : (mergeNode found.1 found.2 nodes).1[position]? with
    | none =>
      obtain ⟨other, member, continued⟩ := inductionHypothesis next listed
      exact ⟨other, List.mem_cons_of_mem found member, continued.weaken⟩
    | some added =>
      obtain ⟨last, lastListed, continued, _⟩ := @merge_continues rest _ _ _ next
      obtain rfl : last = node := Option.some.inj (lastListed.symm.trans listed)
      rw [merge_new found.1 found.2 unlisted next] at continued
      exact ⟨found, List.mem_cons_self, continued.weaken⟩

/-- A merge continues every entry at its position, and its pin remains exactly if no
daemon changed its address on the way. Entries that are added have no pin. All else in
the configuration is left as it was, and all of it if no update is reported. -/
theorem merge_keeps_pins (config : Config) (discovered : List (String × String))
    (present : config.profiles config.activeProfile ≠ none) :
    (∀ (position : Nat) node, config.active[position]? = some node →
      ∃ last, (mergeNodes config discovered).1.active[position]? = some last ∧
        Continued discovered node last ∧
        (Moved discovered config.active position → last.fingerprint = none) ∧
        (¬ Moved discovered config.active position → last.fingerprint = node.fingerprint)) ∧
    (∀ (position : Nat) node, config.active[position]? = none →
      (mergeNodes config discovered).1.active[position]? = some node →
      node.fingerprint = none ∧
        ∃ found ∈ discovered, Continued discovered ⟨newName found.2, found.1, none⟩ node) ∧
    (∀ profile, profile ≠ config.activeProfile →
      (mergeNodes config discovered).1.profiles profile = config.profiles profile) ∧
    (mergeNodes config discovered).1.activeProfile = config.activeProfile ∧
    (mergeNodes config discovered).1.nodes = config.nodes ∧
    ((mergeNodes config discovered).2 = false → (mergeNodes config discovered).1 = config) := by
  refine ⟨?_, ?_, ?_, ?_, ?_, unreported_unchanged present⟩
  · intro position node listed
    rw [merged_active]
    exact merge_continues listed
  · intro position node unlisted listed
    rw [merged_active] at listed
    obtain ⟨found, member, continued⟩ := merge_adds unlisted listed
    exact ⟨continued.unpinned rfl, found, member, continued⟩
  · intro profile other
    rw [mergeNodes_frame]
    simp [Config.setActive, other]
  · rw [mergeNodes_frame, setActive_activeProfile]
  · rw [mergeNodes_frame]
    rfl

/-- A pinned node and one without a pin. -/
def pinnedNode : Config where
  activeProfile := "default"
  profiles name :=
    if name = "default" then
      some ⟨[⟨some "web", "10.0.0.2:3625", some "aa:01"⟩, ⟨some "db", "10.0.0.3:3625", none⟩]⟩
    else none
  nodes := []

/-- The address of a node changes and is restored, and its pin is lost. -/
theorem restored_address_unpinned :
    ∃ last, (mergeNodes pinnedNode
        [("10.0.0.9:3625", "web"), ("10.0.0.2:3625", "web")]).1.active[0]? = some last ∧
      last.address = "10.0.0.2:3625" ∧ last.fingerprint = none := by
  obtain ⟨last, listed, _, dropped, _⟩ :=
    (merge_keeps_pins pinnedNode [("10.0.0.9:3625", "web"), ("10.0.0.2:3625", "web")]
      (by decide)).1 0 _ rfl
  have moved : Moved [("10.0.0.9:3625", "web"), ("10.0.0.2:3625", "web")] pinnedNode.active 0 :=
    ⟨[], ("10.0.0.9:3625", "web"), [("10.0.0.2:3625", "web")], _, _, rfl, rfl, rfl, by decide⟩
  have place : some last = some ⟨some "web", "10.0.0.2:3625", none⟩ := listed.symm.trans (by decide)
  exact ⟨last, listed, congrArg NodeConfig.address (Option.some.inj place), dropped moved⟩

end Run

end Brewmble.MergedPins
