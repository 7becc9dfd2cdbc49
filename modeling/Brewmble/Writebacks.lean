import Brewmble.Execution
import Mathlib.Data.List.Nodup
import Mathlib.Data.List.Sublists

/-!
# Writers that write back what they have read

Any number of writers share a cell. Each reads it once, and may write once, at any time
after, what it makes of what it has read. Where another one writes in between, its
write is discarded together with all that it was based on and the reader had not seen.

What the cell holds is therefore what some of the writers make of the first content,
one after another: the last one that has written, the one whose content this one has
read, and so on. No write is discarded exactly when each writer still finds what it has
read. What the writers make, and when they read and write, is arbitrary.
-/

namespace Brewmble.Writebacks

open Execution

universe u
variable {Content : Type u}

inductive Phase (Content : Type u) where
  | waiting
  /-- What it has read, by whom this was made, and how many had written by then. -/
  | holding (content : Content) (made : List Nat) (writes : Nat)
  | finished

structure State (Content : Type u) where
  content : Content
  /-- The writers that have made the content, in order. -/
  made : List Nat
  /-- All writers that have written, in order. -/
  written : List Nat
  phases : Nat → Phase Content

def start (content : Content) : State Content := ⟨content, [], [], fun _ => .waiting⟩

inductive Event where
  | read (writer : Nat)
  | wrote (writer : Nat)
  deriving DecidableEq, Repr

/-- The writer reads: it holds what is in the cell, and knows how it came there. -/
def State.hold (state : State Content) (writer : Nat) : State Content :=
  let phase := .holding state.content state.made state.written.length
  { state with phases := Function.update state.phases writer phase }

/-- The writer replaces the content by one that it has made from an earlier one. -/
def State.put (state : State Content) (writer : Nat) (content : Content) (made : List Nat) : State Content where
  content := content
  made := made ++ [writer]
  written := state.written ++ [writer]
  phases := Function.update state.phases writer .finished

variable (makes : Nat → Content → Content)

def next (state : State Content) : Event → Option (State Content)
  | .read writer =>
    match state.phases writer with
    | .waiting => some (state.hold writer)
    | _ => none
  | .wrote writer =>
    match state.phases writer with
    | .holding content made _ => some (state.put writer (makes writer content) made)
    | _ => none

/-- What the writers make of a content, one after another. -/
def makeAll (content : Content) (writers : List Nat) : Content :=
  writers.foldl (fun content writer => makes writer content) content

/-- A writer that is about to write has seen every write. -/
def Fresh (state : State Content) : Event → Prop
  | .read _ => True
  | .wrote writer =>
    match state.phases writer with
    | .holding _ _ writes => writes = state.written.length
    | .waiting | .finished => True

instance (state : State Content) (event : Event) : Decidable (Fresh state event) := by
  unfold Fresh
  split
  · exact isTrue trivial
  · split
    · exact inferInstance
    · exact isTrue trivial
    · exact isTrue trivial

section Steps

variable {makes} {initial : Content} {state reached : State Content} {event : Event}

/-- The steps of the writers. -/
inductive Step (makes : Nat → Content → Content) (state : State Content) : Event → State Content → Prop
  | read (writer : Nat) (waiting : state.phases writer = .waiting) :
      Step makes state (.read writer) (state.hold writer)
  | wrote (writer : Nat) (content : Content) (made : List Nat) (writes : Nat)
      (holding : state.phases writer = .holding content made writes) :
      Step makes state (.wrote writer) (state.put writer (makes writer content) made)

theorem step_of_next (step : next makes state event = some reached) : Step makes state event reached := by
  cases event with
  | read writer =>
    simp only [next] at step
    split at step
    · next waiting => exact Option.some.inj step ▸ .read writer waiting
    · cases step
  | wrote writer =>
    simp only [next] at step
    split at step
    · next content made writes holding =>
      exact Option.some.inj step ▸ .wrote writer content made writes holding
    · cases step

/-- A content and its makers belong together, in the cell and for each writer that has
read it. A writer has seen the first of the writes. -/
structure Consistent (makes : Nat → Content → Content) (initial : Content) (state : State Content) : Prop where
  content : state.content = makeAll makes initial state.made
  made : state.made.Sublist state.written
  distinct : state.written.Nodup
  finished : ∀ writer ∈ state.written, state.phases writer = .finished
  holding : ∀ writer content made writes, state.phases writer = .holding content made writes →
    content = makeAll makes initial made ∧ made.Sublist (state.written.take writes) ∧
      writes ≤ state.written.length

theorem start_consistent : Consistent makes initial (start initial) where
  content := rfl
  made := .slnil
  distinct := List.nodup_nil
  finished := by simp [start]
  holding := by simp [start]

theorem makeAll_append (writers : List Nat) (writer : Nat) :
    makeAll makes initial (writers ++ [writer]) = makes writer (makeAll makes initial writers) := by
  simp [makeAll]

/-- What a writer has seen stays the beginning of all that is written. -/
theorem take_written {written : List Nat} {writes : Nat} (seen : writes ≤ written.length) (writer : Nat) :
    (written ++ [writer]).take writes = written.take writes := List.take_append_of_le_length seen

theorem hold_phase {writer other : Nat} {content : Content} {made : List Nat} {writes : Nat}
    (holds : (state.hold writer).phases other = .holding content made writes) :
    (content = state.content ∧ made = state.made ∧ writes = state.written.length) ∨
      state.phases other = .holding content made writes := by
  by_cases same : other = writer
  · subst same
    have phase : .holding state.content state.made state.written.length = Phase.holding content made writes := by
      simpa [State.hold] using holds
    obtain ⟨rfl, rfl, rfl⟩ := Phase.holding.inj phase
    exact .inl ⟨rfl, rfl, rfl⟩
  · exact .inr (by simpa [State.hold, same] using holds)

theorem put_phase {writer other : Nat} {put content : Content} {makers made : List Nat} {writes : Nat}
    (holds : (state.put writer put makers).phases other = .holding content made writes) :
    state.phases other = .holding content made writes := by
  by_cases same : other = writer
  · subst same
    simp [State.put] at holds
  · simpa [State.put, same] using holds

theorem hold_consistent (consistent : Consistent makes initial state) {writer : Nat}
    (waiting : state.phases writer = .waiting) : Consistent makes initial (state.hold writer) where
  content := consistent.content
  made := consistent.made
  distinct := consistent.distinct
  finished := by
    intro other member
    have finished := consistent.finished other member
    have different : other ≠ writer := by
      rintro rfl
      rw [waiting] at finished
      cases finished
    simpa [State.hold, different] using finished
  holding := by
    intro other content made writes holds
    obtain ⟨rfl, rfl, rfl⟩ | before := hold_phase holds
    · refine ⟨consistent.content, ?_, Nat.le_refl _⟩
      rw [State.hold, List.take_length]
      exact consistent.made
    · exact consistent.holding other content made writes before

theorem put_consistent (consistent : Consistent makes initial state) {writer : Nat} {content : Content}
    {made : List Nat} {writes : Nat} (holding : state.phases writer = .holding content made writes) :
    Consistent makes initial (state.put writer (makes writer content) made) := by
  obtain ⟨rfl, sublist, seen⟩ := consistent.holding writer content made writes holding
  have unwritten : writer ∉ state.written := by
    intro member
    have finished := consistent.finished writer member
    rw [holding] at finished
    cases finished
  refine ⟨(makeAll_append made writer).symm, ?_, ?_, ?_, ?_⟩
  · exact (sublist.trans (List.take_sublist ..)).append (List.Sublist.refl _)
  · have distinct : (state.written.concat writer).Nodup :=
      (List.nodup_concat ..).mpr ⟨unwritten, consistent.distinct⟩
    rwa [List.concat_eq_append] at distinct
  · intro other member
    by_cases same : other = writer
    · simp [State.put, same]
    · have earlier : other ∈ state.written := by simpa [State.put, same] using member
      simpa [State.put, same] using consistent.finished other earlier
  · intro other content made writes holds
    obtain ⟨made', within, known⟩ := consistent.holding other content made writes (put_phase holds)
    refine ⟨made', ?_, ?_⟩
    · rw [State.put, take_written known writer]
      exact within
    · rw [State.put, List.length_append]
      exact Nat.le_add_right_of_le known

theorem step_consistent (consistent : Consistent makes initial state)
    (step : next makes state event = some reached) : Consistent makes initial reached := by
  cases step_of_next step with
  | read writer waiting => exact hold_consistent consistent waiting
  | wrote writer content made writes holding => exact put_consistent consistent holding

theorem run_consistent {events : List Event} (completed : run (next makes) (start initial) events = some state) :
    Consistent makes initial state :=
  run_preserves (next makes) (Consistent makes initial)
    (fun _ _ _ consistent step => step_consistent consistent step) start_consistent completed

end Steps

section Discarding

variable {makes} {initial : Content} {state reached : State Content} {event : Event}

/-- No write has been discarded, and none that a writer has seen. -/
structure Complete (state : State Content) : Prop where
  made : state.made = state.written
  holding : ∀ writer content made writes, state.phases writer = .holding content made writes →
    made = state.written.take writes

/-- A write has been discarded, and each writer lacks one or will discard one. -/
structure Behind (state : State Content) : Prop where
  made : state.made.length < state.written.length
  holding : ∀ writer content made writes, state.phases writer = .holding content made writes →
    made.length < writes ∨ writes < state.written.length

theorem start_complete : Complete (start initial) := ⟨rfl, by simp [start]⟩

theorem step_complete (consistent : Consistent makes initial state) (complete : Complete state)
    (fresh : Fresh state event) (step : next makes state event = some reached) : Complete reached := by
  cases step_of_next step with
  | read writer waiting =>
    refine ⟨complete.made, ?_⟩
    intro other content made writes holds
    obtain ⟨rfl, rfl, rfl⟩ | before := hold_phase holds
    · rw [State.hold, List.take_length]
      exact complete.made
    · exact complete.holding other content made writes before
  | wrote writer content made writes holding =>
    have all : writes = state.written.length := by simpa [Fresh, holding] using fresh
    have whole : made = state.written := by
      rw [complete.holding writer content made writes holding, all, List.take_length]
    refine ⟨by rw [State.put, whole], ?_⟩
    intro other content made writes holds
    have before := put_phase holds
    obtain ⟨_, _, known⟩ := consistent.holding other content made writes before
    rw [State.put, take_written known writer]
    exact complete.holding other content made writes before

/-- Where a write is discarded with this one, or one has been before, the others that
have read do not know of this one. -/
theorem put_behind (consistent : Consistent makes initial state) {writer : Nat} {content put : Content}
    {made : List Nat} {writes : Nat} (holding : state.phases writer = .holding content made writes)
    (lacks : made.length < writes ∨ writes < state.written.length) : Behind (state.put writer put made) := by
  obtain ⟨_, sublist, seen⟩ := consistent.holding writer content made writes holding
  have bound : made.length ≤ writes := sublist.length_le.trans (List.length_take_le ..)
  refine ⟨?_, ?_⟩
  · simp only [State.put, List.length_append, List.length_singleton]
    omega
  · intro other content made writes holds
    obtain ⟨_, _, known⟩ := consistent.holding other content made writes (put_phase holds)
    right
    simp only [State.put, List.length_append, List.length_singleton]
    omega

/-- A writer that has not seen every write discards one. -/
theorem stale_behind (consistent : Consistent makes initial state) (stale : ¬ Fresh state event)
    (step : next makes state event = some reached) : Behind reached := by
  cases step_of_next step with
  | read writer waiting => exact absurd trivial stale
  | wrote writer content made writes holding =>
    obtain ⟨_, _, seen⟩ := consistent.holding writer content made writes holding
    have missed : writes ≠ state.written.length := by simpa [Fresh, holding] using stale
    exact put_behind consistent holding (.inr (Nat.lt_of_le_of_ne seen missed))

/-- Nothing brings a discarded write back. -/
theorem step_behind (consistent : Consistent makes initial state) (behind : Behind state)
    (step : next makes state event = some reached) : Behind reached := by
  cases step_of_next step with
  | read writer waiting =>
    refine ⟨behind.made, ?_⟩
    intro other content made writes holds
    obtain ⟨rfl, rfl, rfl⟩ | before := hold_phase holds
    · exact .inl behind.made
    · exact behind.holding other content made writes before
  | wrote writer content made writes holding =>
    exact put_behind consistent holding (behind.holding writer content made writes holding)

/-- Where no write is discarded in the end, each writer has found what it had read.

Proof: induct on the events. The first write that is not fresh would leave the writers
behind, and they stay so. -/
theorem fresh_of_made {events : List Event} (consistent : Consistent makes initial state)
    (completed : run (next makes) state events = some reached) (all : reached.made = reached.written) :
    Guarded (next makes) Fresh state events := by
  induction events generalizing state with
  | nil => trivial
  | cons event rest inductionHypothesis =>
    obtain ⟨middle, step, remaining⟩ := (run_cons_iff (next makes) state reached event rest).mp completed
    have after := step_consistent consistent step
    refine ⟨?_, ?_⟩
    · by_contra stale
      have behind : Consistent makes initial reached ∧ Behind reached :=
        run_preserves (next makes) (fun state => Consistent makes initial state ∧ Behind state)
          (fun _ _ _ both step => ⟨step_consistent both.1 step, step_behind both.1 both.2 step⟩)
          ⟨after, stale_behind consistent stale step⟩ remaining
      have fewer := behind.2.made
      rw [all] at fewer
      exact Nat.lt_irrefl _ fewer
    · intro other moves
      obtain rfl : middle = other := Option.some.inj (step.symm.trans moves)
      exact inductionHypothesis after remaining

end Discarding

/-- What the cell holds is made by some of those that have written, in the order of their
writes, and by all of them exactly if each has found what it had read. -/
theorem written_back {makes : Nat → Content → Content} {initial : Content} {events : List Event}
    {state : State Content} (completed : run (next makes) (start initial) events = some state) :
    state.content = makeAll makes initial state.made ∧ state.made.Sublist state.written ∧
      state.written.Nodup ∧
      (state.made = state.written ↔ Guarded (next makes) Fresh (start initial) events) := by
  have consistent := run_consistent completed
  refine ⟨consistent.content, consistent.made, consistent.distinct, ?_, ?_⟩
  · exact fresh_of_made start_consistent completed
  · intro guarded
    have complete : Complete state :=
      guarded_preserves (next makes) Fresh (Consistent makes initial) Complete
        (fun _ _ _ consistent step => step_consistent consistent step)
        (fun _ _ _ consistent complete fresh step => step_complete consistent complete fresh step)
        start_consistent start_complete guarded completed
    exact complete.made

end Brewmble.Writebacks
