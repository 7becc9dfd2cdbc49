import Brewmble.MergedNodes
import Mathlib.Data.List.Induction
import Mathlib.Data.List.Nodup
import Mathlib.Data.List.Pairwise
import Mathlib.Data.List.Perm.Subperm

/-!
# When the order of discovery matters

A daemon takes the entry with its name, and only if there is none left the one at its
address. So a daemon whose name no entry has may take the entry of another one, if it
comes first. The other is displaced: if there is an entry at its own address it takes
this, and may displace a third in turn.

If a displaced daemon would have taken a pinned entry, the pin goes to whoever comes
first. If it takes an entry that no daemon has the name of, this entry is kept or not
by the order. Where neither can happen, any order leaves the same entries.
-/

namespace Brewmble.MergeOrder

open CliConfig Claiming MergedNodes

/-- The entry has the name of the daemon. -/
def Names (found : String × String) (node : NodeConfig) : Prop :=
  found.2 ≠ "" ∧ node.name = some found.2

/-- No entry has the name of the daemon. -/
def Loose (nodes : List NodeConfig) (found : String × String) : Prop :=
  ∀ node ∈ nodes, ¬ Names found node

/-- Another daemon may take the entry of this one before it: one that is loose, or has
itself been displaced, at the address of the entry. -/
inductive Displaced (discovered : List (String × String)) (nodes : List NodeConfig) :
    String × String → Prop
  | first (by' found : String × String) (node : NodeConfig) (listed : by' ∈ discovered)
      (loose : Loose nodes by') (member : found ∈ discovered) (stored : node ∈ nodes)
      (there : node.address = by'.1) (names : Names found node) : Displaced discovered nodes found
  | next (by' found : String × String) (node : NodeConfig) (displaced : Displaced discovered nodes by')
      (member : found ∈ discovered) (stored : node ∈ nodes) (there : node.address = by'.1)
      (names : Names found node) : Displaced discovered nodes found

/-- No displaced daemon has a pinned entry, and at the address of each there is at most
an entry of another daemon. -/
def Orderless (discovered : List (String × String)) (nodes : List NodeConfig) : Prop :=
  ∀ found, Displaced discovered nodes found →
    (∀ node ∈ nodes, Names found node → node.fingerprint = none) ∧
    ∀ node ∈ nodes, node.address = found.1 → ∃ other ∈ discovered, Names other node

/-- Names and addresses of the entries are distinct. -/
structure Distinct (nodes : List NodeConfig) : Prop where
  names : nodes.Pairwise fun first second => first.name ≠ none → second.name ≠ first.name
  addresses : (nodes.map (·.address)).Nodup

section Claims

/-- What one daemon makes of the free entries, by the branches of the search. -/
inductive Taken (found : String × String) (free : List NodeConfig) : Prop
  | named (node : NodeConfig) (member : node ∈ free) (names : Names found node)
      (entry : made found.1 found.2 free = node.merged found.1 (newName found.2))
      (left : ∀ other, other ∈ claim found.1 found.2 free ↔ other ∈ free ∧ other ≠ node)
  | placed (node : NodeConfig) (member : node ∈ free) (unnamed : Loose free found)
      (there : node.address = found.1)
      (entry : made found.1 found.2 free = node.merged found.1 (newName found.2))
      (left : ∀ other, other ∈ claim found.1 found.2 free ↔ other ∈ free ∧ other ≠ node)
  | added (unnamed : Loose free found) (nowhere : ∀ node ∈ free, node.address ≠ found.1)
      (entry : made found.1 found.2 free = ⟨newName found.2, found.1, none⟩)
      (left : claim found.1 found.2 free = free)

variable {free : List NodeConfig}

theorem mem_eraseIdx_nodup (nodup : free.Nodup) {index : Nat} {node : NodeConfig}
    (listed : free[index]? = some node) (other : NodeConfig) :
    other ∈ free.eraseIdx index ↔ other ∈ free ∧ other ≠ node := by
  obtain ⟨inside, rfl⟩ := List.getElem?_eq_some_iff.mp listed
  rw [← List.Nodup.erase_getElem nodup, nodup.mem_erase_iff, and_comm]

theorem loose_iff (found : String × String) :
    (newName found.2).bind (fun name => free.findIdx? (·.name = some name)) = none ↔
      Loose free found := by
  by_cases named : found.2 = ""
  · simp [named, newName, Loose, Names]
  · rw [newName_of_named named, Option.bind_some, List.findIdx?_eq_none_iff]
    simp [Loose, Names, named]

/-- One daemon takes the entry with its name, else the one at its address, else none. -/
theorem claim_taken (nodup : free.Nodup) (found : String × String) : Taken found free := by
  cases byName : (newName found.2).bind fun name => free.findIdx? (·.name = some name) with
  | some index =>
    have chosen : foundIndex free found.1 (newName found.2) = some index := by
      rw [foundIndex, byName, Option.some_or]
    obtain ⟨name, called, searched⟩ := Option.bind_eq_some_iff.mp byName
    obtain ⟨⟨node, listed, named⟩, _⟩ := findIdx?_iff.mp searched
    obtain rfl : found.2 = name := newName_some called
    have present : found.2 ≠ "" := fun empty => by simp [newName, empty] at called
    refine .named node (List.mem_of_getElem? listed) ⟨present, by simpa using named⟩ ?_ ?_
    · simp [made, chosen, listed]
    · simpa [claim, chosen] using mem_eraseIdx_nodup nodup listed
  | none =>
    have unnamed := (loose_iff found).mp byName
    cases byAddress : free.findIdx? (·.address = found.1) with
    | some index =>
      have chosen : foundIndex free found.1 (newName found.2) = some index := by
        rw [foundIndex, byName, Option.none_or, byAddress]
      obtain ⟨⟨node, listed, there⟩, _⟩ := findIdx?_iff.mp byAddress
      refine .placed node (List.mem_of_getElem? listed) unnamed (by simpa using there) ?_ ?_
      · simp [made, chosen, listed]
      · simpa [claim, chosen] using mem_eraseIdx_nodup nodup listed
    | none =>
      have absent : foundIndex free found.1 (newName found.2) = none := by
        rw [foundIndex, byName, Option.none_or, byAddress]
      refine .added unnamed ?_ ?_ ?_
      · simpa [List.findIdx?_eq_none_iff] using byAddress
      · simp [made, absent]
      · simp [claim, absent]

theorem claim_subset (found : String × String) (free : List NodeConfig) :
    claim found.1 found.2 free ⊆ free :=
  (unclaimed_sublist [found] free).subset

theorem loose_subset {free fewer : List NodeConfig} (subset : fewer ⊆ free) {found : String × String}
    (loose : Loose free found) : Loose fewer found :=
  fun node member => loose node (subset member)

/-- What a daemon takes has its name, or is at its address where nothing has its name. -/
theorem claimed_cases (nodup : free.Nodup) {found : String × String} {node : NodeConfig}
    (member : node ∈ free) (claimed : node ∉ claim found.1 found.2 free) :
    Names found node ∨ Loose free found ∧ node.address = found.1 := by
  cases claim_taken nodup found with
  | named taken _ names _ left =>
    obtain rfl : node = taken := by simpa [left, member] using claimed
    exact .inl names
  | placed taken _ unnamed there _ left =>
    obtain rfl : node = taken := by simpa [left, member] using claimed
    exact .inr ⟨unnamed, there⟩
  | added _ _ _ left =>
    rw [left] at claimed
    exact absurd member claimed

/-- What is claimed in the end has the name or the address of one of the daemons. -/
theorem unclaimed_cases (nodup : free.Nodup) {discovered : List (String × String)}
    {node : NodeConfig} (member : node ∈ free) (claimed : node ∉ unclaimed discovered free) :
    ∃ found ∈ discovered, Names found node ∨ node.address = found.1 := by
  induction discovered generalizing free with
  | nil => exact absurd member claimed
  | cons found rest inductionHypothesis =>
    by_cases here : node ∈ claim found.1 found.2 free
    · have fewer := nodup.sublist (unclaimed_sublist [found] free)
      obtain ⟨other, listed, matches'⟩ := inductionHypothesis fewer here claimed
      exact ⟨other, List.mem_cons_of_mem found listed, matches'⟩
    · obtain names | ⟨_, there⟩ := claimed_cases nodup member here
      · exact ⟨found, List.mem_cons_self, .inl names⟩
      · exact ⟨found, List.mem_cons_self, .inr there⟩

end Claims

section Rounds

variable {nodes : List NodeConfig} {discovered earlier : List (String × String)}
  {found : String × String}

theorem unclaimed_concat (earlier : List (String × String)) (found : String × String)
    (nodes : List NodeConfig) :
    unclaimed (earlier ++ [found]) nodes = claim found.1 found.2 (unclaimed earlier nodes) :=
  List.foldl_append

theorem madeAll_append (earlier later : List (String × String)) (nodes : List NodeConfig) :
    madeAll (earlier ++ later) nodes = madeAll earlier nodes ++ madeAll later (unclaimed earlier nodes) := by
  induction earlier generalizing nodes with
  | nil => rfl
  | cons found rest inductionHypothesis =>
    rw [List.cons_append, madeAll, madeAll, inductionHypothesis, List.cons_append]
    rfl

theorem Distinct.same_address (distinct : Distinct nodes) {first second : NodeConfig}
    (firstStored : first ∈ nodes) (secondStored : second ∈ nodes)
    (same : first.address = second.address) : first = second :=
  List.inj_on_of_nodup_map distinct.addresses firstStored secondStored same

theorem Distinct.same_name (distinct : Distinct nodes) {first second : NodeConfig}
    (firstStored : first ∈ nodes) (secondStored : second ∈ nodes) (firstNamed : Names found first)
    (secondNamed : Names found second) : first = second := by
  by_contra different
  have symmetric : Std.Symm fun first second : NodeConfig =>
      first.name ≠ none → second.name ≠ first.name :=
    ⟨fun first second differ named same => differ (same ▸ named) same.symm⟩
  have differ := distinct.names.forall firstStored secondStored different
  exact differ (by simp [firstNamed.2]) (secondNamed.2.trans firstNamed.2.symm)

theorem Distinct.unclaimed_nodup (distinct : Distinct nodes) (earlier : List (String × String)) :
    (unclaimed earlier nodes).Nodup :=
  (List.Nodup.of_map _ distinct.addresses).sublist (unclaimed_sublist earlier nodes)

theorem unclaimed_stored {node : NodeConfig} (free : node ∈ unclaimed earlier nodes) : node ∈ nodes :=
  (unclaimed_sublist earlier nodes).subset free

instance : Std.Symm Apart := ⟨fun _ _ => Apart.symm⟩

/-- Daemons at one address are the same. -/
theorem same_daemon (apart : discovered.Pairwise Apart) {first second : String × String}
    (firstListed : first ∈ discovered) (secondListed : second ∈ discovered)
    (same : first.1 = second.1) : first = second := by
  by_contra different
  exact (apart.forall firstListed secondListed different).1 same

theorem apart_last (apart : (earlier ++ [found]).Pairwise Apart) {other : String × String}
    (member : other ∈ earlier) : Apart other found :=
  (List.pairwise_append.mp apart).2.2 other member found List.mem_cons_self

/-- Daemons with the name of one entry are the same. -/
theorem same_named (apart : discovered.Pairwise Apart) {first second : String × String}
    (firstListed : first ∈ discovered) (secondListed : second ∈ discovered) {node : NodeConfig}
    (firstNames : Names first node) (secondNames : Names second node) : first = second := by
  by_contra different
  have differ := (apart.forall firstListed secondListed different).2 firstNames.1
  exact differ (Option.some.inj (secondNames.2.symm.trans firstNames.2))

/-- No entry with the name of a merged daemon is left.

Proof: induct on the daemons from the last one. It takes the entry with its name, and
names are distinct. -/
theorem named_claimed (distinct : Distinct nodes) (earlier : List (String × String)) :
    ∀ found ∈ earlier, Loose (unclaimed earlier nodes) found := by
  induction earlier using List.reverseRecOn with
  | nil =>
    rintro found ⟨⟩
  | append_singleton earlier last inductionHypothesis =>
    rw [unclaimed_concat]
    have fewer := claim_subset last (unclaimed earlier nodes)
    intro found member
    obtain before | same := List.mem_append.mp member
    · exact loose_subset fewer (inductionHypothesis found before)
    · obtain rfl := List.mem_singleton.mp same
      cases claim_taken (distinct.unclaimed_nodup earlier) found with
      | named node free names _ left =>
        intro other listed otherNames
        obtain ⟨stored, different⟩ := (left other).mp listed
        exact different (distinct.same_name (unclaimed_stored stored) (unclaimed_stored free)
          otherNames names)
      | placed _ _ unnamed => exact loose_subset fewer unnamed
      | added unnamed => exact loose_subset fewer unnamed

theorem displaced_listed (displaced : Displaced discovered nodes found) : found ∈ discovered := by
  cases displaced with
  | first _ _ _ _ _ member => exact member
  | next _ _ _ _ member => exact member

/-- The entry of a displaced daemon is not at its own address.

Proof: induct on how it is displaced. Else it would be displaced by itself. -/
theorem displaced_elsewhere (distinct : Distinct nodes) (apart : discovered.Pairwise Apart)
    (displaced : Displaced discovered nodes found) :
    ∀ node ∈ nodes, node.address = found.1 → ¬ Names found node := by
  induction displaced with
  | first by' found node listed loose member stored there names =>
    intro other otherStored own otherNames
    obtain rfl := distinct.same_name stored otherStored names otherNames
    obtain rfl := same_daemon apart listed member (there.symm.trans own)
    exact loose node stored names
  | next by' found node displaced member stored there names inductionHypothesis =>
    intro other otherStored own otherNames
    obtain rfl := distinct.same_name stored otherStored names otherNames
    obtain rfl := same_daemon apart (displaced_listed displaced) member (there.symm.trans own)
    exact inductionHypothesis node stored there names

end Rounds

section Independence

instance (found : String × String) (node : NodeConfig) : Decidable (Names found node) :=
  inferInstanceAs (Decidable (_ ∧ _))

instance (nodes : List NodeConfig) (found : String × String) : Decidable (Loose nodes found) :=
  inferInstanceAs (Decidable (∀ node ∈ nodes, ¬ Names found node))

/-- The pin that a daemon keeps: that of the entry at its address, if this has its name
or no entry has. -/
def keptPin (nodes : List NodeConfig) (found : String × String) : Option String :=
  (nodes.find? fun node => node.address = found.1 ∧ (Names found node ∨ Loose nodes found)).bind
    (·.fingerprint)

/-- The entry of a daemon in any order. -/
def settledEntry (nodes : List NodeConfig) (found : String × String) : NodeConfig :=
  ⟨newName found.2, found.1, keptPin nodes found⟩

variable {nodes : List NodeConfig} {discovered earlier order : List (String × String)}
  {found : String × String}

theorem keptPin_eq {pin : Option String}
    (kept : ∀ node ∈ nodes, node.address = found.1 → Names found node ∨ Loose nodes found →
      node.fingerprint = pin)
    (held : pin ≠ none → ∃ node ∈ nodes, node.address = found.1 ∧
      (Names found node ∨ Loose nodes found)) : keptPin nodes found = pin := by
  unfold keptPin
  cases search : nodes.find? fun node =>
      node.address = found.1 ∧ (Names found node ∨ Loose nodes found) with
  | some node =>
    obtain ⟨there, its⟩ : node.address = found.1 ∧ (Names found node ∨ Loose nodes found) := by
      simpa using List.find?_some search
    exact kept node (List.mem_of_find?_eq_some search) there its
  | none =>
    by_contra different
    obtain ⟨node, stored, its⟩ := held fun absent => different absent.symm
    have unfound := List.find?_eq_none.mp search node stored
    exact unfound (by simpa using its)

/-- What holds after some of the daemons in an order that does not matter: what was
claimed belongs to one of them, loose daemons have taken what was at their addresses,
and every daemon has the entry that it has in any order. -/
structure Tracked (discovered : List (String × String)) (nodes : List NodeConfig)
    (earlier : List (String × String)) : Prop where
  claimed : ∀ node ∈ nodes, node ∉ unclaimed earlier nodes → ∃ found ∈ earlier,
    Names found node ∨
      node.address = found.1 ∧ (Loose nodes found ∨ Displaced discovered nodes found)
  placed : ∀ found ∈ earlier, Loose nodes found → ∀ node ∈ unclaimed earlier nodes,
    node.address ≠ found.1
  entries : madeAll earlier nodes = earlier.map (settledEntry nodes)

/-- A daemon that finds no entry with its name left, although there was one, has been
displaced. -/
theorem displaced_of_claimed (tracked : Tracked discovered nodes earlier)
    (apart : (earlier ++ [found]).Pairwise Apart) (listed : earlier ++ [found] ⊆ discovered)
    (unnamed : Loose (unclaimed earlier nodes) found) (named : ¬ Loose nodes found) :
    Displaced discovered nodes found := by
  obtain ⟨node, stored, names⟩ : ∃ node ∈ nodes, Names found node := by
    simpa [Loose] using named
  have last : found ∈ earlier ++ [found] := List.mem_append_right earlier List.mem_cons_self
  obtain ⟨other, before, otherNames | ⟨there, cause⟩⟩ :=
    tracked.claimed node stored fun free => unnamed node free names
  · have same : other = found :=
      same_named apart (List.mem_append_left _ before) last otherNames names
    exact absurd (congrArg Prod.fst same) (apart_last apart before).1
  · obtain loose | displaced := cause
    · exact .first other found node (listed (List.mem_append_left _ before)) loose (listed last) stored
        there names
    · exact .next other found node displaced (listed last) stored there names

/-- The entry of a daemon is the one it has in any order.

Proof: by what it takes. If it was displaced, the entry at its address has the name of
another daemon that is displaced in turn, and so has no pin. -/
theorem made_settled (distinct : Distinct nodes) (orderless : Orderless discovered nodes)
    (apartAll : discovered.Pairwise Apart) (tracked : Tracked discovered nodes earlier)
    (apart : (earlier ++ [found]).Pairwise Apart) (listed : earlier ++ [found] ⊆ discovered) :
    made found.1 found.2 (unclaimed earlier nodes) = settledEntry nodes found := by
  have last : found ∈ earlier ++ [found] := List.mem_append_right earlier List.mem_cons_self
  have before {other : String × String} (member : other ∈ earlier) : other.1 ≠ found.1 :=
    (apart_last apart member).1
  cases claim_taken (distinct.unclaimed_nodup earlier) found with
  | named node free names entry _ =>
    have stored := unclaimed_stored free
    rw [entry, settledEntry, NodeConfig.merged, NodeConfig.mk.injEq]
    refine ⟨rfl, rfl, (keptPin_eq ?_ ?_).symm⟩
    · rintro other otherStored own (otherNames | loose)
      · obtain rfl := distinct.same_name stored otherStored names otherNames
        rw [if_pos own]
      · exact absurd names (loose node stored)
    · intro pinned
      by_cases own : node.address = found.1
      · exact ⟨node, stored, own, .inl names⟩
      · exact absurd (if_neg own) pinned
  | placed node free unnamed there entry _ =>
    have stored := unclaimed_stored free
    rw [entry, settledEntry, NodeConfig.merged, NodeConfig.mk.injEq, if_pos there]
    refine ⟨rfl, rfl, ?_⟩
    by_cases loose : Loose nodes found
    · refine (keptPin_eq ?_ fun _ => ⟨node, stored, there, .inr loose⟩).symm
      intro other otherStored own _
      rw [distinct.same_address otherStored stored (own.trans there.symm)]
    · have displaced := displaced_of_claimed tracked apart listed unnamed loose
      obtain ⟨other, member, names⟩ := (orderless found displaced).2 node stored there
      have next : Displaced discovered nodes other := .next found other node displaced member stored there names
      rw [(orderless other next).1 node stored names]
      refine (keptPin_eq ?_ fun pinned => absurd rfl pinned).symm
      rintro own ownStored ownPlace (ownNames | none)
      · exact absurd ownNames (displaced_elsewhere distinct apartAll displaced own ownStored ownPlace)
      · exact absurd none loose
  | added unnamed nowhere entry _ =>
    rw [entry, settledEntry, NodeConfig.mk.injEq]
    refine ⟨rfl, rfl, (keptPin_eq ?_ fun pinned => absurd rfl pinned).symm⟩
    intro node stored own its
    have gone : node ∉ unclaimed earlier nodes := fun free => nowhere node free own
    obtain ⟨other, member, names | ⟨there, _⟩⟩ := tracked.claimed node stored gone
    · have otherListed := listed (List.mem_append_left _ member)
      obtain ownNames | loose := its
      · have same := same_named apart (List.mem_append_left _ member) last names ownNames
        exact absurd (congrArg Prod.fst same) (before member)
      · have displaced : Displaced discovered nodes other :=
          .first found other node (listed last) loose otherListed stored own names
        exact (orderless other displaced).1 node stored names
    · exact absurd (there.symm.trans own) (before member)

/-- One more daemon is tracked. -/
theorem tracked_concat (distinct : Distinct nodes) (orderless : Orderless discovered nodes)
    (apartAll : discovered.Pairwise Apart) (tracked : Tracked discovered nodes earlier)
    (apart : (earlier ++ [found]).Pairwise Apart) (listed : earlier ++ [found] ⊆ discovered) :
    Tracked discovered nodes (earlier ++ [found]) := by
  have nodup := distinct.unclaimed_nodup earlier
  constructor
  · intro node stored claimed
    rw [unclaimed_concat] at claimed
    by_cases free : node ∈ unclaimed earlier nodes
    · refine ⟨found, List.mem_append_right earlier List.mem_cons_self, ?_⟩
      obtain names | ⟨unnamed, there⟩ := claimed_cases nodup free claimed
      · exact .inl names
      · by_cases loose : Loose nodes found
        · exact .inr ⟨there, .inl loose⟩
        · exact .inr ⟨there, .inr (displaced_of_claimed tracked apart listed unnamed loose)⟩
    · obtain ⟨other, member, cause⟩ := tracked.claimed node stored free
      exact ⟨other, List.mem_append_left _ member, cause⟩
  · intro other member loose node free
    rw [unclaimed_concat] at free
    obtain before | same := List.mem_append.mp member
    · exact tracked.placed other before loose node (claim_subset found _ free)
    · obtain rfl := List.mem_singleton.mp same
      intro there
      cases claim_taken nodup other with
      | named taken stored names _ _ => exact loose taken (unclaimed_stored stored) names
      | placed taken stored _ takenThere _ left =>
        obtain ⟨remains, different⟩ := (left node).mp free
        exact different (distinct.same_address (unclaimed_stored remains) (unclaimed_stored stored)
          (there.trans takenThere.symm))
      | added _ nowhere _ left =>
        rw [left] at free
        exact nowhere node free there
  · rw [madeAll_append, List.map_append, tracked.entries, madeAll,
      made_settled distinct orderless apartAll tracked apart listed]
    rfl

/-- All daemons of an order are tracked. -/
theorem order_tracked (distinct : Distinct nodes) (orderless : Orderless discovered nodes)
    (apartAll : discovered.Pairwise Apart) (apart : order.Pairwise Apart) (listed : order ⊆ discovered) :
    Tracked discovered nodes order := by
  induction order using List.reverseRecOn with
  | nil =>
    refine ⟨fun node stored gone => absurd stored gone, ?_, rfl⟩
    rintro found ⟨⟩
  | append_singleton earlier found inductionHypothesis =>
    have tracked := inductionHypothesis (List.pairwise_append.mp apart).1
      (List.Subset.trans (List.subset_append_left _ _) listed)
    exact tracked_concat distinct orderless apartAll tracked apart listed

/-- The entries that are left are those that no daemon has the name of and that no loose
daemon is at the address of. -/
theorem mem_unclaimed_order (distinct : Distinct nodes) (orderless : Orderless discovered nodes)
    (apart : discovered.Pairwise Apart) (perm : order.Perm discovered) (node : NodeConfig) :
    node ∈ unclaimed order nodes ↔ node ∈ nodes ∧ ∀ found ∈ discovered,
      ¬ Names found node ∧ (Loose nodes found → node.address ≠ found.1) := by
  have apartOrder : order.Pairwise Apart := (perm.pairwise_iff Apart.symm).mpr apart
  have tracked := order_tracked distinct orderless apart apartOrder perm.subset
  constructor
  · intro free
    refine ⟨unclaimed_stored free, ?_⟩
    intro found member
    have inOrder : found ∈ order := perm.mem_iff.mpr member
    exact ⟨named_claimed distinct order found inOrder node free,
      fun loose => tracked.placed found inOrder loose node free⟩
  · rintro ⟨stored, unrelated⟩
    by_contra claimed
    obtain ⟨found, member, names | ⟨there, loose | displaced⟩⟩ := tracked.claimed node stored claimed
    · exact (unrelated found (perm.mem_iff.mp member)).1 names
    · exact (unrelated found (perm.mem_iff.mp member)).2 loose there
    · obtain ⟨other, otherMember, names⟩ := (orderless found displaced).2 node stored there
      exact (unrelated other otherMember).1 names

/-- The order does not matter where there is an entry with the name of each daemon. -/
theorem orderless_of_named (named : ∀ found ∈ discovered, ¬ Loose nodes found) :
    Orderless discovered nodes := by
  intro found displaced
  exfalso
  induction displaced with
  | first by' _ _ listed loose => exact named by' listed loose
  | next _ _ _ _ _ _ _ _ inductionHypothesis => exact inductionHypothesis

/-- What is merged, by the daemons and the entries alone. -/
theorem mem_merged_order (distinct : Distinct nodes) (orderless : Orderless discovered nodes)
    (apart : discovered.Pairwise Apart) (perm : order.Perm discovered) (node : NodeConfig) :
    node ∈ mergeAll order nodes ↔ (∃ found ∈ discovered, settledEntry nodes found = node) ∨
      node ∈ nodes ∧ ∀ found ∈ discovered,
        ¬ Names found node ∧ (Loose nodes found → node.address ≠ found.1) := by
  have apartOrder : order.Pairwise Apart := (perm.pairwise_iff Apart.symm).mpr apart
  have tracked := order_tracked distinct orderless apart apartOrder perm.subset
  rw [(merged_perm apartOrder nodes).mem_iff, List.mem_append, tracked.entries, List.mem_map,
    mem_unclaimed_order distinct orderless apart perm]
  simp only [perm.mem_iff]

end Independence

section Dependence

variable {nodes : List NodeConfig} {discovered earlier rest : List (String × String)}
  {found : String × String}

/-- Daemons of which each has taken the entry at its address, so that no entry with the
name of this one is left. -/
structure Clears (discovered : List (String × String)) (nodes : List NodeConfig)
    (earlier : List (String × String)) (found : String × String) : Prop where
  nodup : earlier.Nodup
  listed : earlier ⊆ discovered
  absent : found ∉ earlier
  unnamed : Loose (unclaimed earlier nodes) found
  addresses : ∀ node ∈ nodes, node ∉ unclaimed earlier nodes →
    ∃ other ∈ earlier, node.address = other.1

theorem Clears.nodup_concat (clears : Clears discovered nodes earlier found) :
    (earlier ++ [found]).Nodup :=
  (List.perm_append_singleton found earlier).nodup_iff.mpr
    (List.nodup_cons.mpr ⟨clears.absent, clears.nodup⟩)

/-- The entry at the address of a daemon is left where its way has been cleared. -/
theorem Clears.entry_left (clears : Clears discovered nodes earlier found)
    (apart : discovered.Pairwise Apart) (member : found ∈ discovered) {node : NodeConfig}
    (stored : node ∈ nodes) (there : node.address = found.1) : node ∈ unclaimed earlier nodes := by
  by_contra claimed
  obtain ⟨other, before, its⟩ := clears.addresses node stored claimed
  have same := same_daemon apart (clears.listed before) member (its.symm.trans there)
  exact clears.absent (same ▸ before)

/-- A daemon whose way is clear takes the entry at its address. -/
theorem Clears.takes (clears : Clears discovered nodes earlier found) (distinct : Distinct nodes)
    (apart : discovered.Pairwise Apart) (member : found ∈ discovered) {node : NodeConfig}
    (stored : node ∈ nodes) (there : node.address = found.1) :
    made found.1 found.2 (unclaimed earlier nodes) = ⟨newName found.2, found.1, node.fingerprint⟩ ∧
      node ∉ claim found.1 found.2 (unclaimed earlier nodes) ∧
      ∀ other ∈ unclaimed earlier nodes, other ≠ node →
        other ∈ claim found.1 found.2 (unclaimed earlier nodes) := by
  have free := clears.entry_left apart member stored there
  cases claim_taken (distinct.unclaimed_nodup earlier) found with
  | named taken takenFree names _ _ => exact absurd names (clears.unnamed taken takenFree)
  | placed taken takenFree _ takenThere entry left =>
    obtain rfl := distinct.same_address stored (unclaimed_stored takenFree) (there.trans takenThere.symm)
    refine ⟨?_, ?_, ?_⟩
    · rw [entry, NodeConfig.merged, if_pos there]
    · rw [left]
      exact fun both => both.2 rfl
    · intro other otherFree different
      exact (left other).mpr ⟨otherFree, different⟩
  | added _ nowhere _ _ => exact absurd there (nowhere node free)

/-- The daemon that takes the entry of another one clears its way. -/
theorem Clears.concat {by' : String × String} (clears : Clears discovered nodes earlier by')
    (distinct : Distinct nodes) (apart : discovered.Pairwise Apart) (byListed : by' ∈ discovered)
    {node : NodeConfig} (stored : node ∈ nodes) (there : node.address = by'.1)
    (names : Names found node) : Clears discovered nodes (earlier ++ [by']) found := by
  have free := clears.entry_left apart byListed stored there
  obtain ⟨_, gone, others⟩ := clears.takes distinct apart byListed stored there
  constructor
  · exact clears.nodup_concat
  · intro other member
    obtain before | last := List.mem_append.mp member
    · exact clears.listed before
    · obtain rfl := List.mem_singleton.mp last
      exact byListed
  · intro member
    obtain before | last := List.mem_append.mp member
    · exact named_claimed distinct earlier found before node free names
    · obtain rfl := List.mem_singleton.mp last
      exact clears.unnamed node free names
  · rw [unclaimed_concat]
    intro other left otherNames
    have otherFree := claim_subset by' _ left
    obtain rfl := distinct.same_name stored (unclaimed_stored otherFree) names otherNames
    exact gone left
  · intro other otherStored claimed
    rw [unclaimed_concat] at claimed
    by_cases same : other = node
    · exact ⟨by', List.mem_append_right earlier List.mem_cons_self, same ▸ there⟩
    · obtain ⟨first, before, its⟩ := clears.addresses other otherStored
        fun otherFree => claimed (others other otherFree same)
      exact ⟨first, List.mem_append_left _ before, its⟩

/-- The way of a loose daemon is clear from the start. -/
theorem clears_loose (loose : Loose nodes found) : Clears discovered nodes [] found :=
  ⟨List.nodup_nil, List.nil_subset _, List.not_mem_nil, loose, fun _ stored gone => absurd stored gone⟩

/-- The way of a displaced daemon can be cleared by one that is at the address of its
entry, and whose own way is clear.

Proof: induct on how it is displaced. -/
theorem displaced_clears (distinct : Distinct nodes) (apart : discovered.Pairwise Apart)
    (displaced : Displaced discovered nodes found) :
    ∃ earlier by' node, Clears discovered nodes earlier by' ∧ by' ∈ discovered ∧ node ∈ nodes ∧
      node.address = by'.1 ∧ Names found node := by
  induction displaced with
  | first by' found node listed loose member stored there names =>
    exact ⟨[], by', node, clears_loose loose, listed, stored, there, names⟩
  | next by' found node displaced member stored there names inductionHypothesis =>
    obtain ⟨earlier, first, other, clears, firstListed, otherStored, otherThere, otherNames⟩ :=
      inductionHypothesis
    exact ⟨earlier ++ [first], by', node,
      clears.concat distinct apart firstListed otherStored otherThere otherNames,
      displaced_listed displaced, stored, there, names⟩

/-- Some order begins with these daemons and this one. -/
theorem Clears.order (clears : Clears discovered nodes earlier found) (member : found ∈ discovered) :
    ∃ rest, (earlier ++ found :: rest).Perm discovered := by
  have subset : earlier ++ [found] ⊆ discovered := by
    refine List.append_subset.mpr ⟨clears.listed, ?_⟩
    intro other last
    obtain rfl := List.mem_singleton.mp last
    exact member
  obtain ⟨front, perm, sublist⟩ := List.subperm_of_subset clears.nodup_concat subset
  obtain ⟨rest, split⟩ := sublist.exists_perm_append
  refine ⟨rest, ?_⟩
  rw [List.append_cons]
  exact (perm.symm.append_right rest).trans split.symm

theorem mem_madeAll {order : List (String × String)} {entry : NodeConfig}
    (member : entry ∈ madeAll order nodes) :
    ∃ before other after, order = before ++ other :: after ∧
      entry = made other.1 other.2 (unclaimed before nodes) := by
  induction order generalizing nodes with
  | nil => cases member
  | cons first rest inductionHypothesis =>
    obtain here | later := List.mem_cons.mp member
    · exact ⟨[], first, rest, rfl, here⟩
    · obtain ⟨before, other, after, rfl, same⟩ := inductionHypothesis later
      exact ⟨first :: before, other, after, rfl, same⟩

/-- The entry at the address of a daemon is the one that this has been merged into. -/
theorem made_at (apart : discovered.Pairwise Apart) {order : List (String × String)}
    (perm : order.Perm discovered) (member : found ∈ discovered) {entry : NodeConfig}
    (madeEntry : entry ∈ madeAll order nodes) (there : entry.address = found.1) :
    ∃ before after, order = before ++ found :: after ∧
      entry = made found.1 found.2 (unclaimed before nodes) := by
  obtain ⟨before, last, after, split, rfl⟩ := mem_madeAll madeEntry
  have lastListed : last ∈ discovered := by
    rw [← perm.mem_iff, split]
    exact List.mem_append_right before List.mem_cons_self
  rw [made_address] at there
  obtain rfl := same_daemon apart lastListed member there
  exact ⟨before, after, split, rfl⟩

/-- What the first daemon takes, if there is an entry with its name. -/
theorem claim_named (distinct : Distinct nodes) {node : NodeConfig} (stored : node ∈ nodes)
    (names : Names found node) (other : NodeConfig) :
    other ∈ claim found.1 found.2 nodes ↔ other ∈ nodes ∧ other ≠ node := by
  cases claim_taken (distinct.unclaimed_nodup []) found with
  | named taken takenStored takenNames _ left =>
    obtain rfl := distinct.same_name stored takenStored names takenNames
    exact left other
  | placed _ _ unnamed => exact absurd names (unnamed node stored)
  | added unnamed => exact absurd names (unnamed node stored)

/-- An entry is gone once the daemon with its name came first. -/
theorem named_gone (distinct : Distinct nodes) {node : NodeConfig} (stored : node ∈ nodes)
    (names : Names found node) (before : List (String × String)) :
    node ∉ unclaimed (found :: before) nodes := by
  intro free
  have kept := (unclaimed_sublist before (claim found.1 found.2 nodes)).subset free
  exact ((claim_named distinct stored names node).mp kept).2 rfl

/-- A daemon gets no pin if the entry at its address has been claimed. -/
theorem made_unpinned (distinct : Distinct nodes) {node : NodeConfig} (stored : node ∈ nodes)
    (there : node.address = found.1) (gone : node ∉ unclaimed earlier nodes) :
    (made found.1 found.2 (unclaimed earlier nodes)).fingerprint = none := by
  have elsewhere : ∀ other ∈ unclaimed earlier nodes, other.address ≠ found.1 := by
    intro other free own
    obtain rfl := distinct.same_address stored (unclaimed_stored free) (there.trans own.symm)
    exact gone free
  cases claim_taken (distinct.unclaimed_nodup earlier) found with
  | named taken free _ entry _ =>
    rw [entry, NodeConfig.merged, if_neg (elsewhere taken free)]
  | placed taken free _ takenThere _ _ => exact absurd takenThere (elsewhere taken free)
  | added _ _ entry _ => rw [entry]

/-- Two orders of the daemons leave different entries. -/
def Depends (discovered : List (String × String)) (nodes : List NodeConfig) : Prop :=
  ∃ first second entry, first.Perm discovered ∧ second.Perm discovered ∧
    entry ∈ mergeAll first nodes ∧ entry ∉ mergeAll second nodes

/-- If a displaced daemon has a pinned entry, the pin goes to whoever comes first. -/
theorem pinned_depends (distinct : Distinct nodes) (apart : discovered.Pairwise Apart)
    (displaced : Displaced discovered nodes found) {node : NodeConfig} (stored : node ∈ nodes)
    (names : Names found node) (pinned : node.fingerprint ≠ none) : Depends discovered nodes := by
  obtain ⟨earlier, by', other, clears, byListed, otherStored, there, otherNames⟩ :=
    displaced_clears distinct apart displaced
  obtain rfl := distinct.same_name stored otherStored names otherNames
  obtain ⟨rest, perm⟩ := clears.order byListed
  have permFirst := (List.perm_cons_erase (displaced_listed displaced)).symm
  have apartSecond := (perm.pairwise_iff Apart.symm).mpr apart
  have apartFirst := (permFirst.pairwise_iff Apart.symm).mpr apart
  refine ⟨_, _, ⟨newName by'.2, by'.1, node.fingerprint⟩, perm, permFirst, ?_, ?_⟩
  · have entry := (clears.takes distinct apart byListed stored there).1
    rw [(merged_perm apartSecond nodes).mem_iff, madeAll_append, madeAll, entry]
    simp
  · rw [(merged_perm apartFirst nodes).mem_iff]
    intro listed
    obtain madeEntry | free := List.mem_append.mp listed
    · obtain ⟨before, after, split, entry⟩ := made_at apart permFirst byListed madeEntry rfl
      cases before with
      | nil =>
        obtain ⟨rfl, _⟩ := List.cons.inj split
        exact clears.unnamed node (clears.entry_left apart byListed stored there) names
      | cons first before =>
        obtain ⟨rfl, _⟩ := List.cons.inj split
        have gone := named_gone distinct stored names before
        have unpinned := made_unpinned distinct stored there gone
        exact pinned ((congrArg NodeConfig.fingerprint entry).trans unpinned)
    · have same := distinct.same_address stored (unclaimed_stored free) there
      rw [← same] at free
      exact named_gone distinct stored names _ free

/-- If at the address of a displaced daemon there is an entry that no daemon has the name
of, the order decides whether it is kept. -/
theorem orphan_depends (distinct : Distinct nodes) (apart : discovered.Pairwise Apart)
    (displaced : Displaced discovered nodes found) {node : NodeConfig} (stored : node ∈ nodes)
    (there : node.address = found.1) (orphan : ∀ other ∈ discovered, ¬ Names other node) :
    Depends discovered nodes := by
  have member := displaced_listed displaced
  obtain ⟨earlier, by', own, byClears, byListed, ownStored, ownThere, ownNames⟩ :=
    displaced_clears distinct apart displaced
  have clears := byClears.concat distinct apart byListed ownStored ownThere ownNames
  obtain ⟨rest, perm⟩ := clears.order member
  have permFirst := (List.perm_cons_erase member).symm
  have apartSecond := (perm.pairwise_iff Apart.symm).mpr apart
  have apartFirst := (permFirst.pairwise_iff Apart.symm).mpr apart
  refine ⟨_, _, node, permFirst, perm, ?_, ?_⟩
  · rw [(merged_perm apartFirst nodes).mem_iff]
    refine List.mem_append_right _ ?_
    by_contra claimed
    have different : node ≠ own := by
      rintro rfl
      exact orphan found member ownNames
    have kept := (claim_named distinct ownStored ownNames node).mpr ⟨stored, different⟩
    obtain ⟨other, later, otherNames | otherThere⟩ :=
      unclaimed_cases (distinct.unclaimed_nodup [found]) kept claimed
    · exact orphan other (List.mem_of_mem_erase later) otherNames
    · exact ((List.pairwise_cons.mp apartFirst).1 other later).1 (there.symm.trans otherThere)
  · rw [(merged_perm apartSecond nodes).mem_iff]
    intro listed
    obtain madeEntry | free := List.mem_append.mp listed
    · obtain ⟨before, after, _, entry⟩ := made_at apart perm member madeEntry there
      have name : node.name = newName found.2 := entry ▸ made_name ..
      exact orphan found member ⟨ownNames.1, name.trans (newName_of_named ownNames.1)⟩
    · rw [List.append_cons, unclaimed, List.foldl_append] at free
      have kept := (unclaimed_sublist rest _).subset free
      rw [← unclaimed, unclaimed_concat] at kept
      exact (clears.takes distinct apart member stored there).2.1 kept

end Dependence

/-- Where names and addresses are distinct, the order in which daemons are discovered
does not matter exactly when no displaced daemon has a pinned entry or is at the address
of an entry that no daemon has the name of.

Proof: where it cannot matter, the entries are told by the daemons and the entries
before them alone. Otherwise the displaced daemon comes first in one order, and after
those that clear its way in another. -/
theorem merge_order_iff (config : Config) (discovered : List (String × String))
    (distinct : Distinct config.active) (apart : discovered.Pairwise Apart) :
    (∀ order, order.Perm discovered → ∀ node,
      node ∈ (mergeNodes config order).1.active ↔ node ∈ (mergeNodes config discovered).1.active) ↔
    Orderless discovered config.active := by
  simp only [merged_active]
  constructor
  · intro independent
    have same : ¬ Depends discovered config.active := by
      rintro ⟨first, second, entry, permFirst, permSecond, present, absent⟩
      exact absent ((independent second permSecond entry).mpr
        ((independent first permFirst entry).mp present))
    intro found displaced
    constructor
    · intro node stored names
      by_contra pinned
      exact same (pinned_depends distinct apart displaced stored names pinned)
    · intro node stored there
      by_contra unnamed
      have orphan : ∀ other ∈ discovered, ¬ Names other node := by simpa using unnamed
      exact same (orphan_depends distinct apart displaced stored there orphan)
  · intro orderless order perm node
    rw [mem_merged_order distinct orderless apart perm,
      mem_merged_order distinct orderless apart (.refl discovered)]

/-- Nodes that have exchanged their addresses are merged in any order. -/
theorem exchanged_in_any_order :
    Orderless [("10.0.0.2:3625", "db"), ("10.0.0.3:3625", "web")] twoNodes.active ∧
      ∀ order, order.Perm [("10.0.0.2:3625", "db"), ("10.0.0.3:3625", "web")] → ∀ node,
        node ∈ (mergeNodes twoNodes order).1.active ↔
          node ∈ (mergeNodes twoNodes [("10.0.0.2:3625", "db"), ("10.0.0.3:3625", "web")]).1.active := by
  have orderless : Orderless [("10.0.0.2:3625", "db"), ("10.0.0.3:3625", "web")] twoNodes.active :=
    orderless_of_named (by decide)
  have distinct : Distinct twoNodes.active := ⟨by decide, by decide⟩
  exact ⟨orderless, (merge_order_iff twoNodes _ distinct (by decide)).mpr orderless⟩

/-- One pinned node. -/
def pinnedNode : Config where
  activeProfile := "default"
  profiles name :=
    if name = "default" then some ⟨[⟨some "web", "10.0.0.2:3625", some "aa:01"⟩]⟩ else none
  nodes := []

/-- A new daemon at the old address of a node takes its entry and its pin, unless the
node comes first. -/
theorem newcomer_takes_pin :
    ¬ ∀ (config : Config) (discovered order : List (String × String)),
      (config.active.map (·.name)).Nodup → (config.active.map (·.address)).Nodup →
      (discovered.map Prod.fst).Nodup → (discovered.map Prod.snd).Nodup →
      (∀ found ∈ discovered, found.2 ≠ "") → order.Perm discovered → ∀ node,
      node ∈ (mergeNodes config order).1.active ↔
        node ∈ (mergeNodes config discovered).1.active := by
  intro claimed
  have kept := claimed pinnedNode [("10.0.0.3:3625", "web"), ("10.0.0.2:3625", "db")]
    [("10.0.0.2:3625", "db"), ("10.0.0.3:3625", "web")] (by decide) (by decide) (by decide)
    (by decide) (by decide) (by decide) ⟨some "db", "10.0.0.2:3625", some "aa:01"⟩
  exact absurd (kept.mp (by decide)) (by decide)

end Brewmble.MergeOrder
