import Mathlib.Logic.Function.Basic

/-!
# Finite executions of a labelled transition function

A system is given by one executable function: a state and a label yield the
state reached, or nothing where the label is not enabled. An execution follows a
finite list of labels. Every prefix of an execution is an execution, so a law
stated at the end of an arbitrary execution holds in every state it passes.

A guarded execution takes each of its steps where a stated condition on the
state before the step allows it. Its invariants need preservation only there.
A simulation relates each step to a finite execution of a second system; it
carries over to whole executions by induction on the labels.

Nothing here fixes a state, a label or a scheduling policy. Fairness and
termination are not addressed: every law concerns finite executions.
-/

namespace Brewmble.Execution

universe u v w z
variable {State : Type u} {Label : Type v}

/-- Follow the labels in order. A label that is not enabled ends the attempt. -/
def run (next : State → Label → Option State) : State → List Label → Option State
  | state, [] => some state
  | state, label :: rest => (next state label).bind (fun reached => run next reached rest)

/-- Each step is taken in a state where the condition allows its label. -/
def Guarded (next : State → Label → Option State) (condition : State → Label → Prop) :
    State → List Label → Prop
  | _, [] => True
  | state, label :: rest => condition state label ∧
      ∀ reached, next state label = some reached → Guarded next condition reached rest

/-- A guarded execution is recognized by following it. -/
instance decidableGuarded (next : State → Label → Option State)
    (condition : State → Label → Prop) [∀ state label, Decidable (condition state label)] :
    (state : State) → (labels : List Label) → Decidable (Guarded next condition state labels)
  | _, [] => isTrue trivial
  | state, label :: rest =>
    match found : next state label with
    | none => decidable_of_iff (condition state label) (by simp [Guarded, found])
    | some reached =>
      have := decidableGuarded next condition reached rest
      decidable_of_iff (condition state label ∧ Guarded next condition reached rest)
        (by simp [Guarded, found])

/-- A nonempty execution takes its first step and continues from there. -/
theorem run_cons_iff (next : State → Label → Option State) (state final : State)
    (label : Label) (rest : List Label) :
    run next state (label :: rest) = some final ↔
      ∃ reached, next state label = some reached ∧ run next reached rest = some final := by
  simp only [run, Option.bind_eq_some_iff]

/-- One enabled step is a one-label execution. -/
theorem run_one (next : State → Label → Option State) {state reached : State} {label : Label}
    (step : next state label = some reached) : run next state [label] = some reached := by
  simp only [run, step, Option.bind_some]

/-- Executions compose: the second continues where the first ended. -/
theorem run_append (next : State → Label → Option State) {state middle final : State}
    {first second : List Label} (before : run next state first = some middle)
    (after : run next middle second = some final) :
    run next state (first ++ second) = some final := by
  induction first generalizing state with
  | nil =>
    have same : state = middle := Option.some.inj before
    exact same ▸ after
  | cons label rest inductionHypothesis =>
    obtain ⟨reached, step, remaining⟩ := (run_cons_iff next state middle label rest).mp before
    exact (run_cons_iff next state final label (rest ++ second)).mpr
      ⟨reached, step, inductionHypothesis remaining⟩

/-- A property that every enabled step preserves holds wherever an execution
leads, once it holds at the start. -/
theorem run_preserves (next : State → Label → Option State) (invariant : State → Prop)
    (preserved : ∀ state label reached, invariant state → next state label = some reached →
      invariant reached)
    {state final : State} {labels : List Label} (initial : invariant state)
    (completed : run next state labels = some final) : invariant final := by
  induction labels generalizing state with
  | nil =>
    have same : state = final := Option.some.inj completed
    exact same ▸ initial
  | cons label rest inductionHypothesis =>
    obtain ⟨reached, step, remaining⟩ := (run_cons_iff next state final label rest).mp completed
    exact inductionHypothesis (preserved state label reached initial step) remaining

/-- An execution whose labels all satisfy a condition preserves what each such step does. -/
theorem run_preserves_of_all (next : State → Label → Option State) (condition : Label → Prop)
    (invariant : State → Prop)
    (preserved : ∀ state label reached, condition label → invariant state →
      next state label = some reached → invariant reached)
    {state final : State} {labels : List Label} (initial : invariant state)
    (all : ∀ label ∈ labels, condition label) (completed : run next state labels = some final) :
    invariant final := by
  induction labels generalizing state with
  | nil =>
    have same : state = final := Option.some.inj completed
    exact same ▸ initial
  | cons label rest inductionHypothesis =>
    obtain ⟨reached, step, remaining⟩ := (run_cons_iff next state final label rest).mp completed
    obtain ⟨first, others⟩ := List.forall_mem_cons.mp all
    exact inductionHypothesis (preserved state label reached first initial step) others remaining

/-- In a guarded execution only the allowed steps need to preserve the property.
The supporting invariant is one that every step preserves; it is available at
each guarded step. -/
theorem guarded_preserves (next : State → Label → Option State)
    (condition : State → Label → Prop) (supporting invariant : State → Prop)
    (supported : ∀ state label reached, supporting state → next state label = some reached →
      supporting reached)
    (preserved : ∀ state label reached, supporting state → invariant state →
      condition state label → next state label = some reached → invariant reached)
    {state final : State} {labels : List Label} (support : supporting state)
    (initial : invariant state) (guarded : Guarded next condition state labels)
    (completed : run next state labels = some final) : invariant final := by
  induction labels generalizing state with
  | nil =>
    have same : state = final := Option.some.inj completed
    exact same ▸ initial
  | cons label rest inductionHypothesis =>
    obtain ⟨reached, step, remaining⟩ := (run_cons_iff next state final label rest).mp completed
    exact inductionHypothesis (supported state label reached support step)
      (preserved state label reached support initial guarded.1 step)
      (guarded.2 reached step) remaining

/-- Guarded executions compose where the first one leads. -/
theorem guarded_append (next : State → Label → Option State) (condition : State → Label → Prop)
    {state middle : State} {first second : List Label}
    (before : Guarded next condition state first) (completed : run next state first = some middle)
    (after : Guarded next condition middle second) :
    Guarded next condition state (first ++ second) := by
  induction first generalizing state with
  | nil =>
    have same : state = middle := Option.some.inj completed
    exact same ▸ after
  | cons label rest inductionHypothesis =>
    refine ⟨before.1, ?_⟩
    intro reached step
    have remaining : run next reached rest = some middle := by
      simpa only [run, step, Option.bind_some] using completed
    exact inductionHypothesis (before.2 reached step) remaining

/-- An execution guarded by a stronger condition is guarded by a weaker one. -/
theorem guarded_weaken (next : State → Label → Option State)
    {strong weak : State → Label → Prop}
    (weaker : ∀ state label, strong state label → weak state label) {state : State}
    {labels : List Label} (guarded : Guarded next strong state labels) :
    Guarded next weak state labels := by
  induction labels generalizing state with
  | nil => trivial
  | cons label rest inductionHypothesis =>
    exact ⟨weaker state label guarded.1,
      fun reached step => inductionHypothesis (guarded.2 reached step)⟩

/-- A step relation between two systems extends to their executions: whatever
the first system does, the second has an execution to a related state. -/
theorem run_simulated {Abstract : Type w} {Action : Type z}
    (next : State → Label → Option State) (perform : Abstract → Action → Option Abstract)
    (related : State → Abstract → Prop)
    (simulated : ∀ state abstracted label reached, related state abstracted →
      next state label = some reached →
      ∃ actions result, run perform abstracted actions = some result ∧ related reached result)
    {state final : State} {abstracted : Abstract} {labels : List Label}
    (initial : related state abstracted) (completed : run next state labels = some final) :
    ∃ actions result, run perform abstracted actions = some result ∧ related final result := by
  induction labels generalizing state abstracted with
  | nil =>
    have same : state = final := Option.some.inj completed
    exact ⟨[], abstracted, rfl, same ▸ initial⟩
  | cons label rest inductionHypothesis =>
    obtain ⟨reached, step, remaining⟩ := (run_cons_iff next state final label rest).mp completed
    obtain ⟨first, middle, performed, linked⟩ :=
      simulated state abstracted label reached initial step
    obtain ⟨second, result, continued, ended⟩ := inductionHypothesis linked remaining
    exact ⟨first ++ second, result, run_append perform performed continued, ended⟩

end Brewmble.Execution
