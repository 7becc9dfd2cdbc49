import Mathlib.Data.List.Chain

/-!
# A value that lasts while its key stays

States follow one another in a history. In each state something may have a key and
a value. The value lasts if, over any stretch of the history in which the key stays
the same, the last state has the value of the first.

This is a property of stretches of any length. It holds exactly when each state
passes it on to the next one, which is how a history is judged step by step.
-/

namespace Brewmble.Lasting

universe u v w
variable {State : Type u} {Key : Type v} {Value : Type w}

/-- Where two states agree on the key, the second has the value of the first. -/
def Keeps (key : State → Option Key) (value : State → Option Value) (before after : State) : Prop :=
  ∀ stays held, key before = some stays → value before = some held → key after = some stays →
    value after = some held

/-- The value at the start of a stretch of the history is the value at its end, if
the key stays throughout. -/
def Lasts (key : State → Option Key) (value : State → Option Value) (history : List State) : Prop :=
  ∀ first middle last, (first :: middle ++ [last]) <:+: history →
    ∀ stays held, value first = some held →
      (∀ state ∈ first :: middle ++ [last], key state = some stays) → value last = some held

variable {key : State → Option Key} {value : State → Option Value}

theorem keeps_of_same {before after : State} (same : value after = value before) :
    Keeps key value before after := by
  intro stays held _ holds _
  rw [same, holds]

theorem keeps_of_moved {before after : State} (moved : ∀ stays, key before = some stays →
    key after ≠ some stays) : Keeps key value before after := by
  intro stays held present _ remains
  exact absurd remains (moved stays present)

/-- Along a chain of kept values, a value reaches the end of every stretch.

Proof: induct on the middle of the stretch with its first state arbitrary. -/
theorem chain_reaches {first last : State} {middle : List State}
    (chain : (first :: middle ++ [last]).IsChain (Keeps key value)) {stays : Key} {held : Value}
    (holds : value first = some held)
    (stay : ∀ state ∈ first :: middle ++ [last], key state = some stays) :
    value last = some held := by
  induction middle generalizing first with
  | nil =>
    have kept : Keeps key value first last := by simpa using chain
    exact kept stays held (stay first (by simp)) holds (stay last (by simp))
  | cons next rest inductionHypothesis =>
    obtain ⟨kept, remaining⟩ := List.isChain_cons_cons.mp chain
    have passed : value next = some held :=
      kept stays held (stay first (by simp)) holds (stay next (by simp))
    exact inductionHypothesis remaining passed
      fun state member => stay state (List.mem_cons_of_mem first member)

/-- A value lasts exactly when every state keeps it to the next. -/
theorem lasts_iff_chain (history : List State) :
    Lasts key value history ↔ history.IsChain (Keeps key value) := by
  constructor
  · intro lasts
    induction history with
    | nil => exact List.isChain_nil
    | cons first rest inductionHypothesis =>
      have later : Lasts key value rest := by
        intro start middle last stretch
        exact lasts start middle last (stretch.trans (List.suffix_cons first rest).isInfix)
      cases rest with
      | nil => exact List.isChain_singleton first
      | cons next remaining =>
        refine List.isChain_cons_cons.mpr ⟨?_, inductionHypothesis later⟩
        intro stays held present holds remains
        apply lasts first [] next ⟨[], remaining, rfl⟩ stays held holds
        simp [present, remains]
  · intro chain first middle last stretch stays held holds stay
    have within := List.IsChain.infix chain stretch
    exact chain_reaches within holds stay

end Brewmble.Lasting
