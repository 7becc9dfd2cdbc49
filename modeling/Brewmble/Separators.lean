import Mathlib.Data.List.Basic

/-!
# Texts that are joined by a separator

What is in a joined text is in the separator or in one of the parts. Where the separator is
a character that is in none of the parts, these are read back by splitting at it.
-/

namespace Brewmble.Separators

universe u
variable {α : Type u}

/-- What is in a joined list is in the separator or in a part.

Proof: induct on the parts. Only the last one has no separator behind it. -/
theorem mem_intercalate {separator : List α} {parts : List (List α)} {item : α}
    (member : item ∈ separator.intercalate parts) :
    item ∈ separator ∨ ∃ part ∈ parts, item ∈ part := by
  induction parts with
  | nil => cases member
  | cons first rest inductionHypothesis =>
    by_cases last : rest = []
    · rw [last, List.intercalate_singleton] at member
      exact .inr ⟨first, List.mem_cons_self, member⟩
    · rw [List.intercalate_cons_of_ne_nil last, List.mem_append, List.mem_append] at member
      obtain (here | between) | later := member
      · exact .inr ⟨first, List.mem_cons_self, here⟩
      · exact .inl between
      · exact (inductionHypothesis later).imp_right fun ⟨part, listed, inside⟩ =>
          ⟨part, List.mem_cons_of_mem first listed, inside⟩

end Brewmble.Separators
