/-!
# Calls that may fail and keep what they did

A call takes a state to a result and a state. An error ends a sequence of calls
but undoes nothing: the changes made before it remain. A caller may also observe
the outcome of a call and continue either way.

Failures are injected: a call that is attempted with a fault fails before it has
any effect. The laws evaluate each construct at a state, so a sequence of calls
is evaluated one call at a time.
-/

namespace Brewmble.Fallible

universe u v w
variable {Err : Type u} {State : Type v} {Value Next : Type w}

/-- A state transformer whose errors keep the state. -/
def Call (Err : Type u) (State : Type v) (Value : Type w) :=
  State → Except Err Value × State

instance monadCall : Monad (Call Err State : Type w → Type (max u v w)) where
  pure value := fun state => (.ok value, state)
  bind first next := fun state =>
    match first state with
    | (.ok value, reached) => next value reached
    | (.error err, reached) => (.error err, reached)

namespace Call

/-- End the sequence with an error. -/
def fail (err : Err) : Call Err State Value := fun state => (.error err, state)

/-- Fail with the fault, where there is one. -/
def attempt : Option Err → Call Err State PUnit
  | some err => fail err
  | none => pure ⟨⟩

/-- Read from the state. -/
def read (view : State → Value) : Call Err State Value := fun state => (.ok (view state), state)

/-- Change the state. -/
def modify (change : State → State) : Call Err State PUnit := fun state => (.ok ⟨⟩, change state)

/-- The result of a call, as a value that its caller can branch on. -/
def outcome (call : Call Err State Value) : Call Err State (Except Err Value) := fun state =>
  (.ok (call state).1, (call state).2)

end Call

section Laws

variable {After : Type w} (state : State)

@[simp] theorem pure_apply (value : Value) :
    (pure value : Call Err State Value) state = (.ok value, state) := rfl

/-- A sequence continues with the value and state of its first call. An error of
the first call ends the sequence where that call left the state. -/
@[simp] theorem bind_apply (first : Call Err State Value) (next : Value → Call Err State After) :
    (first >>= next) state =
      match first state with
      | (.ok value, reached) => next value reached
      | (.error err, reached) => (.error err, reached) := rfl

@[simp] theorem fail_apply (err : Err) :
    (Call.fail err : Call Err State Value) state = (.error err, state) := rfl

@[simp] theorem read_apply (view : State → Value) :
    (Call.read view : Call Err State Value) state = (.ok (view state), state) := rfl

@[simp] theorem modify_apply (change : State → State) :
    (Call.modify change : Call Err State PUnit) state = (.ok ⟨⟩, change state) := rfl

@[simp] theorem outcome_apply (call : Call Err State Value) :
    call.outcome state = (.ok (call state).1, (call state).2) := rfl

@[simp] theorem attempt_none : (Call.attempt none : Call Err State PUnit) state = (.ok ⟨⟩, state) :=
  rfl

@[simp] theorem attempt_some (err : Err) :
    (Call.attempt (some err) : Call Err State PUnit) state = (.error err, state) := rfl

end Laws

end Brewmble.Fallible
