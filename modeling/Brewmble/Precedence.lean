import Mathlib.Data.List.Basic

/-!
# What must come before an event of a trace

A trace is a finite list of events. A requirement says of an event, given the
events before it, whether it may occur there. A trace meets the requirement if
each of its events does at its place.

The laws take a trace apart: into its first event and the rest, into two parts, or
into what the items of a list emit one after another. In each case the later part
is judged after the events of the earlier one.
-/

namespace Brewmble.Precedence

universe u v
variable {Event : Type u} {Item : Type v}

/-- Every event is allowed after the events before it. -/
def Preceded (allowed : List Event → Event → Prop) (trace : List Event) : Prop :=
  ∀ before event after, trace = before ++ event :: after → allowed before event

theorem preceded_nil (allowed : List Event → Event → Prop) : Preceded allowed [] := by
  intro before event after split
  simp at split

/-- The first event is allowed at the start, and the rest after it. -/
theorem preceded_cons (allowed : List Event → Event → Prop) (event : Event)
    (rest : List Event) :
    Preceded allowed (event :: rest) ↔
      allowed [] event ∧ Preceded (fun before => allowed (event :: before)) rest := by
  constructor
  · intro preceded
    refine ⟨preceded [] event rest rfl, ?_⟩
    intro before later after split
    exact preceded (event :: before) later after (by rw [split, List.cons_append])
  · rintro ⟨first, preceded⟩ before later after split
    cases before with
    | nil =>
      obtain ⟨rfl, _⟩ := List.cons.inj split
      exact first
    | cons _ before =>
      obtain ⟨rfl, remaining⟩ := List.cons.inj split
      exact preceded before later after remaining

/-- The second part of a trace is judged after the first.

Proof: induct on the first part with the requirement arbitrary. -/
theorem preceded_append (allowed : List Event → Event → Prop) (first second : List Event) :
    Preceded allowed (first ++ second) ↔
      Preceded allowed first ∧ Preceded (fun before => allowed (first ++ before)) second := by
  induction first generalizing allowed with
  | nil => simp [preceded_nil]
  | cons event rest inductionHypothesis =>
    simp only [List.cons_append, preceded_cons, inductionHypothesis, and_assoc]

/-- What each item emits is judged after what the items before it emitted.

Proof: induct on the items with the requirement arbitrary; the first item is
judged at the start and is before all others. -/
theorem preceded_flatMap (allowed : List Event → Event → Prop) (emit : Item → List Event)
    (items : List Item) :
    Preceded allowed (items.flatMap emit) ↔
      ∀ before item after, items = before ++ item :: after →
        Preceded (fun earlier => allowed (before.flatMap emit ++ earlier)) (emit item) := by
  induction items generalizing allowed with
  | nil =>
    constructor
    · intro _ before item after split
      simp at split
    · intro _
      exact preceded_nil allowed
  | cons first rest inductionHypothesis =>
    rw [List.flatMap_cons, preceded_append, inductionHypothesis]
    constructor
    · rintro ⟨initial, later⟩ before item after split
      cases before with
      | nil =>
        obtain ⟨rfl, _⟩ := List.cons.inj split
        simpa using initial
      | cons _ before =>
        obtain ⟨rfl, remaining⟩ := List.cons.inj split
        simpa [List.append_assoc] using later before item after remaining
    · intro judged
      constructor
      · simpa using judged [] first rest rfl
      · intro before item after split
        have placed := judged (first :: before) item after (by rw [split, List.cons_append])
        simpa [List.append_assoc] using placed

/-- A trace of events that are allowed anywhere meets the requirement. -/
theorem preceded_of_free {allowed : List Event → Event → Prop} {trace : List Event}
    (free : ∀ event ∈ trace, ∀ before, allowed before event) : Preceded allowed trace := by
  intro before event after split
  exact free event (by simp [split]) before

/-- An event of a trace that meets the requirement is allowed after some part of
the trace. -/
theorem preceded_member {allowed : List Event → Event → Prop} {trace : List Event}
    (preceded : Preceded allowed trace) {event : Event} (member : event ∈ trace) :
    ∃ before, before ⊆ trace ∧ allowed before event := by
  obtain ⟨before, after, split⟩ := List.append_of_mem member
  refine ⟨before, ?_, preceded before event after split⟩
  rw [split]
  exact List.subset_append_left before (event :: after)

end Brewmble.Precedence
