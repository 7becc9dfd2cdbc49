import Mathlib.Logic.Function.Basic
import Mathlib.Data.List.Basic

/-!
# Changes to one path at a time

A store has a content at some of its paths. A change goes to one path, which it chooses by
what the store holds, and replaces the content that it finds there. On its way it may use
one more path, which belongs to its target, and may leave something there. Where each change
goes to the same path in every store of a run, a path that belongs to no target holds what
the changes that go to it make of its content, one after another.

A change that never removes a content keeps all paths that have one. If none gets one
during a run either, then whatever is chosen by the paths that have one stays the same.
-/

namespace Brewmble.PathChanges

universe u v w
variable {Path : Type u} {Content : Type v} {Change : Type w}

abbrev Store (Path : Type u) (Content : Type v) := Path → Option Content

def Store.holds (store : Store Path Content) (path : Path) : Bool := (store path).isSome

theorem holds_iff {store : Store Path Content} {path : Path} : store.holds path = true ↔ store path ≠ none :=
  Option.isSome_iff_ne_none

/-- Where a change goes, and what it makes of the content there. -/
structure Tool (Path : Type u) (Content : Type v) (Change : Type w) where
  target : Store Path Content → Change → Path
  leaves : Path → Change → Option Content → Option Content
  /-- The path that is used on the way to a target. -/
  beside : Path → Path
  /-- What becomes of the content there, if it is touched. -/
  drops : Path → Change → Option Content → Option (Option Content)

namespace Tool

variable [DecidableEq Path] (tool : Tool Path Content Change) {store : Store Path Content}
  {changes : List Change} {change : Change} {path : Path}

def apply (store : Store Path Content) (change : Change) : Store Path Content :=
  let target := tool.target store change
  let written := Function.update store target (tool.leaves target change (store target))
  match tool.drops target change (store target) with
  | none => written
  | some left => Function.update written (tool.beside target) left

def applyAll (store : Store Path Content) (changes : List Change) : Store Path Content :=
  changes.foldl tool.apply store

/-- The change does not remove the content that it finds. -/
def Keeping (change : Change) : Prop := ∀ path content, tool.leaves path change (some content) ≠ none

/-- In the run from this store, the path is used on the way to no target. -/
def Spared (store : Store Path Content) (changes : List Change) (path : Path) : Prop :=
  ∀ before change after, changes = before ++ change :: after →
    tool.beside (tool.target (tool.applyAll store before) change) ≠ path

variable {tool}

theorem spared_cons (spared : tool.Spared store (change :: changes) path) :
    tool.beside (tool.target store change) ≠ path ∧ tool.Spared (tool.apply store change) changes path :=
  ⟨spared [] change changes rfl,
    fun before other after split => spared (change :: before) other after (by rw [split]; rfl)⟩

theorem applyAll_append (first second : List Change) :
    tool.applyAll store (first ++ second) = tool.applyAll (tool.applyAll store first) second := List.foldl_append ..

theorem spared_append {first second : List Change} (spared : tool.Spared store (first ++ second) path) :
    tool.Spared store first path ∧ tool.Spared (tool.applyAll store first) second path := by
  constructor
  · intro before change after split
    exact spared before change (after ++ second) (by rw [split, List.append_assoc, List.cons_append])
  · intro before change after split
    rw [← applyAll_append]
    exact spared (first ++ before) change after (by rw [split, List.append_assoc])

/-- A path that is used on the way to no path at all is spared. -/
theorem spared_of_never (never : ∀ target, tool.beside target ≠ path) : tool.Spared store changes path :=
  fun _ _ _ _ => never _

theorem apply_target (spared : tool.beside (tool.target store change) ≠ tool.target store change) :
    tool.apply store change (tool.target store change) =
      tool.leaves (tool.target store change) change (store (tool.target store change)) := by
  unfold apply
  cases drops : tool.drops (tool.target store change) change (store (tool.target store change)) with
  | none => simp
  | some left => simp [Ne.symm spared]

/-- A change leaves a path alone that is neither its target nor used on the way there, or
that it leaves without a content as before. -/
theorem apply_other (other : path ≠ tool.target store change)
    (spared : tool.beside (tool.target store change) = path →
      ∀ left, tool.drops (tool.target store change) change (store (tool.target store change)) = some left →
        left = store path) : tool.apply store change path = store path := by
  unfold apply
  cases drops : tool.drops (tool.target store change) change (store (tool.target store change)) with
  | none => simp [other]
  | some left =>
    by_cases used : tool.beside (tool.target store change) = path
    · simp [used, spared used left drops]
    · simp [Ne.symm used, other]

theorem apply_spared (other : path ≠ tool.target store change)
    (spared : tool.beside (tool.target store change) ≠ path) : tool.apply store change path = store path :=
  apply_other other fun used => absurd used spared

variable (tool) in
theorem applyAll_through (before : List Change) (change : Change) (after : List Change) :
    tool.applyAll store (before ++ change :: after) = tool.applyAll (tool.applyAll store (before ++ [change])) after := by
  rw [← applyAll_append, List.append_assoc, List.singleton_append]

variable (tool) in
/-- What the last change makes of its target. -/
theorem applyAll_last {before : List Change} (goes : tool.target (tool.applyAll store before) change = path)
    (spared : tool.beside path ≠ path) :
    tool.applyAll store (before ++ [change]) path = tool.leaves path change (tool.applyAll store before path) := by
  rw [applyAll_append, ← goes]
  exact apply_target (goes ▸ spared)

/-- What every change that goes to a spared path makes of a good content there is good. -/
theorem applyAll_preserves (good : Option Content → Prop) (spared : tool.Spared store changes path)
    (begins : good (store path))
    (preserved : ∀ before change after, changes = before ++ change :: after →
      tool.target (tool.applyAll store before) change = path → good (tool.applyAll store before path) →
        good (tool.leaves path change (tool.applyAll store before path))) : good (tool.applyAll store changes path) := by
  induction changes generalizing store with
  | nil => exact begins
  | cons change rest inductionHypothesis =>
    obtain ⟨first, others⟩ := spared_cons spared
    refine inductionHypothesis others ?_ ?_
    · by_cases goes : path = tool.target store change
      · rw [goes, apply_target (goes ▸ first), ← goes]
        exact preserved [] change rest rfl goes.symm begins
      · rw [apply_spared goes first]
        exact begins
    · intro before other after split
      exact preserved (change :: before) other after (by rw [split]; rfl)

theorem applyAll_present (keeping : ∀ change ∈ changes, tool.Keeping change)
    (spared : tool.Spared store changes path) (present : store path ≠ none) :
    tool.applyAll store changes path ≠ none := by
  refine applyAll_preserves (· ≠ none) spared present ?_
  rintro before change after rfl _ given
  obtain ⟨content, found⟩ := Option.ne_none_iff_exists'.mp given
  rw [found]
  exact keeping change (by simp) path content

/-- A path gets no content to which no change goes as long as it has none, if none is left
there on the way either. -/
theorem applyAll_absent
    (unused : ∀ before change after, changes = before ++ change :: after →
      tool.applyAll store before path = none → tool.target (tool.applyAll store before) change ≠ path)
    (clean : ∀ before change after, changes = before ++ change :: after →
      tool.beside (tool.target (tool.applyAll store before) change) = path →
        ∀ target stored left, tool.drops target change stored = some left → left = none)
    (absent : store path = none) : tool.applyAll store changes path = none := by
  induction changes generalizing store with
  | nil => exact absent
  | cons change rest inductionHypothesis =>
    refine inductionHypothesis ?_ ?_ ?_
    · exact fun before other after split => unused (change :: before) other after (by rw [split]; rfl)
    · exact fun before other after split => clean (change :: before) other after (by rw [split]; rfl)
    · have elsewhere : path ≠ tool.target store change := Ne.symm (unused [] change rest rfl absent)
      rw [apply_other elsewhere, absent]
      intro used left dropped
      rw [absent, clean [] change rest rfl used _ _ left dropped]

end Tool

end Brewmble.PathChanges
