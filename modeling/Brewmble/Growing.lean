import Mathlib.Data.List.Defs

/-!
# Lists that grow and keep their positions

A list grows when each of its elements is continued at its own position, and all that
comes after them is new. So no element is lost and none is there twice: what is at
the position of an element comes from this element, and what is at no such position
is new.

Growing composes, whatever the relation by which elements are continued, as long as
this does. A change at one position and an addition at the end are growths.
-/

namespace Brewmble.Growing

universe u
variable {Element : Type u}

/-- The elements are continued in their positions, and the others are new. -/
inductive Grows (continues : Element → Element → Prop) (new : Element → Prop) :
    List Element → List Element → Prop
  | added {elements : List Element} (fresh : ∀ element ∈ elements, new element) :
      Grows continues new [] elements
  | kept {element continued : Element} {before after : List Element}
      (first : continues element continued) (rest : Grows continues new before after) :
      Grows continues new (element :: before) (continued :: after)

variable {continues : Element → Element → Prop} {new : Element → Prop}

/-- New elements only grow into new ones. -/
theorem grows_fresh (remains : ∀ first second, new first → continues first second → new second)
    {before after : List Element} (grows : Grows continues new before after)
    (fresh : ∀ element ∈ before, new element) : ∀ element ∈ after, new element := by
  induction grows with
  | added additions => exact additions
  | @kept element continued before after first rest inductionHypothesis =>
    obtain ⟨start, others⟩ := List.forall_mem_cons.mp fresh
    exact List.forall_mem_cons.mpr ⟨remains element continued start first, inductionHypothesis others⟩

/-- One growth after another is a growth, if new elements that are continued count as
new.

Proof: induct on the first growth. The additions of the first are continued or
followed by those of the second. -/
theorem grows_trans
    (transitive : ∀ first second third, continues first second → continues second third →
      continues first third)
    (remains : ∀ first second, new first → continues first second → new second)
    {before middle after : List Element} (first : Grows continues new before middle)
    (second : Grows continues new middle after) : Grows continues new before after := by
  induction first generalizing after with
  | added fresh => exact .added (grows_fresh remains second fresh)
  | @kept element continued before middle head tail inductionHypothesis =>
    cases second with
    | kept next rest => exact .kept (transitive element continued _ head next) (inductionHypothesis rest)

/-- A growth is one for every relation and every notion of new elements that hold more
often. -/
theorem grows_weaken {continues' : Element → Element → Prop} {new' : Element → Prop}
    (continuing : ∀ first second, continues first second → continues' first second)
    (counting : ∀ element, new element → new' element)
    {before after : List Element} (grows : Grows continues new before after) :
    Grows continues' new' before after := by
  induction grows with
  | added fresh => exact .added fun element member => counting element (fresh element member)
  | kept first rest inductionHypothesis => exact .kept (continuing _ _ first) inductionHypothesis

/-- An addition at the end is a growth. -/
theorem grows_append (reflexive : ∀ element, continues element element)
    (elements : List Element) {added : List Element} (fresh : ∀ element ∈ added, new element) :
    Grows continues new elements (elements ++ added) := by
  induction elements with
  | nil => exact .added fresh
  | cons element rest inductionHypothesis => exact .kept (reflexive element) inductionHypothesis

theorem grows_refl (reflexive : ∀ element, continues element element) (elements : List Element) :
    Grows continues new elements elements := by
  simpa using grows_append reflexive elements (fun element member => absurd member List.not_mem_nil)

/-- A change at one position is a growth. -/
theorem grows_modify (reflexive : ∀ element, continues element element) (elements : List Element)
    (position : Nat) {change : Element → Element}
    (changed : ∀ element, elements[position]? = some element → continues element (change element)) :
    Grows continues new elements (elements.modify position change) := by
  induction elements generalizing position with
  | nil =>
    rw [List.modify_nil]
    exact grows_refl reflexive []
  | cons element rest inductionHypothesis =>
    cases position with
    | zero => exact .kept (changed element rfl) (grows_refl reflexive rest)
    | succ position => exact .kept (reflexive element) (inductionHypothesis position changed)

end Brewmble.Growing
