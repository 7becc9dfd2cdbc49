import Mathlib.Data.List.Perm.Basic

/-!
# Claiming the elements of a list one after another

The elements of a list are claimed in some order. A claimed element is changed but
keeps its position, so at any moment the list is two lists woven into one: what was
claimed, and what is still free, each in the order of the whole.

A search that passes over every claimed element finds in the whole list the element
that it finds among the free ones. Claiming this element weaves the list anew.
-/

namespace Brewmble.Claiming

universe u
variable {Element : Type u}

section Search

variable {wanted : Element → Bool} {change : Element → Element} {elements : List Element} {index : Nat}

/-- The first wanted element, and that no element before it is wanted. -/
theorem findIdx?_iff : elements.findIdx? wanted = some index ↔
    (∃ element, elements[index]? = some element ∧ wanted element = true) ∧
      ∀ earlier < index, ∀ element, elements[earlier]? = some element → wanted element = false := by
  rw [List.findIdx?_eq_some_iff_getElem]
  constructor
  · rintro ⟨inside, stops, passes⟩
    refine ⟨⟨elements[index], List.getElem?_eq_getElem inside, stops⟩, ?_⟩
    intro earlier before element listed
    obtain ⟨_, rfl⟩ := List.getElem?_eq_some_iff.mp listed
    simpa using passes earlier before
  · rintro ⟨⟨element, listed, stops⟩, passes⟩
    obtain ⟨inside, rfl⟩ := List.getElem?_eq_some_iff.mp listed
    refine ⟨inside, stops, ?_⟩
    intro earlier before
    simpa using passes earlier before _ (List.getElem?_eq_getElem (Nat.lt_trans before inside))

/-- Changing an element that comes after no wanted one into a wanted one makes it
the first. -/
theorem find_changed {element : Element} (listed : elements[index]? = some element)
    (becomes : wanted (change element) = true)
    (passes : ∀ earlier < index, ∀ element, elements[earlier]? = some element →
      wanted element = false) :
    (elements.modify index change).findIdx? wanted = some index := by
  refine findIdx?_iff.mpr ⟨⟨change element, by simp [listed], becomes⟩, ?_⟩
  intro earlier before other found
  have distinct : index ≠ earlier := by omega
  exact passes earlier before other (by simpa [distinct] using found)

/-- Changing another element into one that is not wanted leaves the first one first. -/
theorem find_kept {other : Nat} (found : elements.findIdx? wanted = some index)
    (distinct : other ≠ index)
    (unwanted : ∀ element, elements[other]? = some element → wanted (change element) = false) :
    (elements.modify other change).findIdx? wanted = some index := by
  obtain ⟨⟨element, listed, stops⟩, passes⟩ := findIdx?_iff.mp found
  refine findIdx?_iff.mpr ⟨⟨element, by simpa [distinct] using listed, stops⟩, ?_⟩
  intro earlier before current held
  by_cases same : other = earlier
  · subst same
    obtain ⟨former, stood, rfl⟩ : ∃ former, elements[other]? = some former ∧ change former = current := by
      simpa using held
    exact unwanted former stood
  · exact passes earlier before current (by simpa [same] using held)

end Search

/-- The whole list is the claimed and the free elements woven together. -/
inductive Woven : List Element → List Element → List Element → Prop where
  | nil : Woven [] [] []
  | claimed (element : Element) {claimed free whole : List Element}
      (rest : Woven claimed free whole) : Woven (element :: claimed) free (element :: whole)
  | free (element : Element) {claimed free whole : List Element}
      (rest : Woven claimed free whole) : Woven claimed (element :: free) (element :: whole)

/-- At first everything is free. -/
theorem all_free (whole : List Element) : Woven [] whole whole := by
  induction whole with
  | nil => exact .nil
  | cons element rest inductionHypothesis => exact .free element inductionHypothesis

namespace Woven

variable {claimed free whole : List Element}

theorem perm (woven : Woven claimed free whole) : whole.Perm (claimed ++ free) := by
  induction woven with
  | nil => exact .nil
  | claimed element rest inductionHypothesis => exact inductionHypothesis.cons element
  | free element rest inductionHypothesis =>
    exact (inductionHypothesis.cons element).trans List.perm_middle.symm

/-- A new element at the end counts as claimed. -/
theorem append (woven : Woven claimed free whole) (element : Element) :
    Woven (claimed ++ [element]) free (whole ++ [element]) := by
  induction woven with
  | nil => exact .claimed element .nil
  | claimed other rest inductionHypothesis => exact .claimed other inductionHypothesis
  | free other rest inductionHypothesis => exact .free other inductionHypothesis

variable {wanted : Element → Bool}

/-- What is not found among the free elements is not found at all. -/
theorem find_none (woven : Woven claimed free whole)
    (passed : ∀ element ∈ claimed, wanted element = false) (absent : free.findIdx? wanted = none) :
    whole.findIdx? wanted = none := by
  rw [List.findIdx?_eq_none_iff] at absent ⊢
  intro element member
  obtain earlier | later := List.mem_append.mp (woven.perm.mem_iff.mp member)
  · exact passed element earlier
  · exact absent element later

/-- What is found among the free elements is found in the whole list, and claiming it
there changes it and takes it out of the free ones.

Proof: induct on the weaving. The search passes over a claimed element, and stops at
a free one exactly when the search of the free elements does. -/
theorem find_some (woven : Woven claimed free whole)
    (passed : ∀ element ∈ claimed, wanted element = false) {index : Nat}
    (found : free.findIdx? wanted = some index) (change : Element → Element) :
    ∃ position element claimed', whole.findIdx? wanted = some position ∧
      free[index]? = some element ∧ whole[position]? = some element ∧
      claimed'.Perm (change element :: claimed) ∧
      Woven claimed' (free.eraseIdx index) (whole.modify position change) := by
  induction woven generalizing index with
  | nil => cases found
  | claimed other rest inductionHypothesis =>
    obtain ⟨position, element, claimed', searched, free', placed, perm, rewoven⟩ :=
      inductionHypothesis (fun element member => passed element (List.mem_cons_of_mem other member))
        found
    refine ⟨position + 1, element, other :: claimed', ?_, free', by simpa using placed, ?_, ?_⟩
    · rw [List.findIdx?_cons, passed other List.mem_cons_self, searched]
      rfl
    · exact (perm.cons other).trans (List.Perm.swap (change element) other _)
    · exact .claimed other rewoven
  | @free other claimed free whole rest inductionHypothesis =>
    rw [List.findIdx?_cons] at found
    cases stops : wanted other with
    | true =>
      rw [stops, if_pos rfl] at found
      obtain rfl := Option.some.inj found
      refine ⟨0, other, change other :: claimed, ?_, rfl, rfl, .refl _, ?_⟩
      · rw [List.findIdx?_cons, stops, if_pos rfl]
      · exact .claimed (change other) rest
    | false =>
      rw [stops] at found
      simp only [Bool.false_eq_true, if_false, Option.map_eq_some_iff] at found
      obtain ⟨index, found, rfl⟩ := found
      obtain ⟨position, element, claimed', searched, free', placed, perm, rewoven⟩ :=
        inductionHypothesis passed found
      refine ⟨position + 1, element, claimed', ?_, by simpa using free', by simpa using placed, perm, ?_⟩
      · rw [List.findIdx?_cons, stops, searched]
        rfl
      · exact .free other rewoven

end Woven

end Brewmble.Claiming
