import Brewmble.Execution
import Brewmble.Inodes
import Brewmble.UrlText

/-!
# Writing a configuration file

The configurations of the tool and of the daemon are written by the same steps: a
temporary file beside the configuration is opened and truncated, written in parts,
synced, and renamed to the configuration. Its name depends on the path alone, so that
all calls for one path use the same temporary file.

Calls run in processes of their own, in any interleaving of their steps. A step may
fail, with which the call returns, and a process may die. The directory of the path
and the mode of the file are not modelled.
-/

namespace Brewmble.AtomicWrite

open Inodes ResolveUrl

section Names

/-- A file name, as the last component of a path. -/
structure ConfigName where
  name : List Char
  present : name ≠ []
  named : name ≠ ['.'] ∧ name ≠ ['.', '.']
  component : '/' ∉ name
  deriving DecidableEq

/-- The configuration of the tool. -/
def yamlName : ConfigName where
  name := ".brewmble.yaml".toList
  present := by decide
  named := by decide
  component := by decide

/-- `file_stem` and `extension`: a leading dot does not begin an extension. -/
def splitExtension (name : List Char) : List Char × Option (List Char) :=
  match rsplitOnce '.' name with
  | some (before, after) => if before = [] then (name, none) else (before, some after)
  | none => (name, none)

/-- `with_extension`, for an extension that is not empty. Without its extension, a name
such as `..yaml` is the parent directory and gets no other one. -/
def withExtension (name extension : List Char) : List Char :=
  match splitExtension name with
  | (stem, none) => stem ++ '.' :: extension
  | (stem, some _) => if stem = ['.'] then ['.', '.'] else stem ++ '.' :: extension

def tmpExtension : List Char := ['t', 'm', 'p']

def ConfigName.tmp (path : ConfigName) : List Char := withExtension path.name tmpExtension

/-- The temporary name is the parent directory or has its extension. -/
theorem withExtension_cases (name extension : List Char) :
    withExtension name extension = ['.', '.'] ∨
      withExtension name extension = (splitExtension name).1 ++ '.' :: extension := by
  unfold withExtension
  split
  · rename_i stem split
    exact .inr (by rw [split])
  · rename_i stem previous split
    by_cases dot : stem = ['.']
    · exact .inl (if_pos dot)
    · exact .inr (by rw [if_neg dot, split])

/-- Another extension leads to another name. -/
theorem tmp_differs (path : ConfigName) (other : (splitExtension path.name).2 ≠ some tmpExtension) :
    path.tmp ≠ path.name := by
  intro same
  obtain parent | shaped := withExtension_cases path.name tmpExtension
  · exact path.named.2 (same.symm.trans parent)
  have split : rsplitOnce '.' path.name = some ((splitExtension path.name).1, tmpExtension) := by
    conv_lhs => rw [← same, ConfigName.tmp, shaped]
    exact rsplitOnce_append (by decide)
  by_cases empty : (splitExtension path.name).1 = []
  · have whole : (splitExtension path.name).1 = path.name := by
      rw [empty] at split
      simp [splitExtension, split]
    exact path.present (whole.symm.trans empty)
  · apply other
    generalize (splitExtension path.name).1 = stem at split empty
    simp [splitExtension, split, empty]

/-- That extension leads to the same name, or to no file at all. -/
theorem tmp_same (path : ConfigName) (own : (splitExtension path.name).2 = some tmpExtension)
    (file : path.tmp ≠ ['.', '.']) : path.tmp = path.name := by
  have shaped : path.tmp = (splitExtension path.name).1 ++ '.' :: tmpExtension :=
    (withExtension_cases path.name tmpExtension).resolve_left file
  rw [shaped]
  cases split : rsplitOnce '.' path.name with
  | none => simp [splitExtension, split] at own
  | some parts =>
    obtain ⟨before, after⟩ := parts
    by_cases empty : before = []
    · simp [splitExtension, split, empty] at own
    · obtain rfl : after = tmpExtension := by simpa [splitExtension, split, empty] using own
      have stem : (splitExtension path.name).1 = before := by simp [splitExtension, split, empty]
      rw [stem, rsplitOnce_some split]

end Names

/-- Where a call stands. A call that has returned `Ok` records what its rename put at
the path. -/
inductive Phase where
  | waiting
  | writing (inode offset : Nat)
  | synced
  | returned (put : Option (List UInt8))
  | failed
  | died
  deriving DecidableEq

structure State where
  files : FileSystem (List Char)
  calls : Nat → Phase

inductive Event where
  | opened (call : Nat)
  /-- The handle accepts this many more bytes. -/
  | wrote (call count : Nat)
  | synced (call : Nat)
  | renamed (call : Nat)
  | failed (call : Nat)
  | died (call : Nat)
  deriving DecidableEq

def State.setCall (state : State) (call : Nat) (phase : Phase) : State :=
  { state with calls := Function.update state.calls call phase }

def Phase.live : Phase → Bool
  | .waiting | .writing _ _ | .synced => true
  | .returned _ | .failed | .died => false

/-- One step of `write_config_atomically`, called with these contents. -/
def next (path : ConfigName) (contents : Nat → List UInt8) (state : State) : Event → Option State
  | .opened call =>
    match state.calls call with
    | .waiting =>
      -- A directory is not opened for writing.
      if path.tmp = ['.', '.'] then none
      else
        let (inode, files) := state.files.openTruncated path.tmp
        some (State.setCall { state with files := files } call (.writing inode 0))
    | _ => none
  | .wrote call count =>
    match state.calls call with
    | .writing inode offset =>
      if 0 < count ∧ offset + count ≤ (contents call).length then
        let files := state.files.writeAt inode offset (((contents call).drop offset).take count)
        some (State.setCall { state with files := files } call (.writing inode (offset + count)))
      else none
    | _ => none
  | .synced call =>
    match state.calls call with
    | .writing _ offset =>
      if offset = (contents call).length then some (state.setCall call .synced) else none
    | _ => none
  | .renamed call =>
    match state.calls call with
    | .synced =>
      match state.files.rename path.tmp path.name with
      | some files =>
        some (State.setCall { state with files := files } call (.returned (files.read path.name)))
      | none => some (state.setCall call .failed)
    | _ => none
  | .failed call => if (state.calls call).live then some (state.setCall call .failed) else none
  | .died call => if (state.calls call).live then some (state.setCall call .died) else none

section Steps

variable {path : ConfigName} {contents : Nat → List UInt8} {state reached : State} {call : Nat}

@[simp] theorem setCall_files (state : State) (call : Nat) (phase : Phase) :
    (state.setCall call phase).files = state.files := rfl

theorem setCall_calls (state : State) (call : Nat) (phase : Phase) (other : Nat) :
    (state.setCall call phase).calls other = if other = call then phase else state.calls other :=
  Function.update_apply _ _ _ _

theorem next_opened (step : next path contents state (.opened call) = some reached) :
    state.calls call = .waiting ∧ path.tmp ≠ ['.', '.'] ∧
      ∃ inode files, state.files.openTruncated path.tmp = (inode, files) ∧
        reached = State.setCall { state with files := files } call (.writing inode 0) := by
  simp only [next] at step
  split at step
  · rename_i waits
    rw [Option.ite_none_left_eq_some] at step
    exact ⟨waits, step.1, _, _, rfl, (Option.some.inj step.2).symm⟩
  · cases step

theorem next_wrote {count : Nat} (step : next path contents state (.wrote call count) = some reached) :
    ∃ inode offset, state.calls call = .writing inode offset ∧
      offset + count ≤ (contents call).length ∧
      reached = State.setCall
        { state with
          files := state.files.writeAt inode offset (((contents call).drop offset).take count) }
        call (.writing inode (offset + count)) := by
  simp only [next] at step
  split at step
  · split at step
    · rename_i fits
      exact ⟨_, _, ‹_›, fits.2, (Option.some.inj step).symm⟩
    · cases step
  · cases step

theorem next_synced (step : next path contents state (.synced call) = some reached) :
    ∃ inode, state.calls call = .writing inode (contents call).length ∧
      reached = state.setCall call .synced := by
  simp only [next] at step
  split at step
  · rename_i inode offset found
    split at step
    · rename_i complete
      exact ⟨inode, by rw [found, complete], (Option.some.inj step).symm⟩
    · cases step
  · cases step

theorem next_renamed (step : next path contents state (.renamed call) = some reached) :
    state.calls call = .synced ∧
      ((∃ files, state.files.rename path.tmp path.name = some files ∧
          reached = State.setCall { state with files := files } call (.returned (files.read path.name))) ∨
        reached = state.setCall call .failed) := by
  simp only [next] at step
  split at step
  · split at step
    · exact ⟨‹_›, .inl ⟨_, ‹_›, (Option.some.inj step).symm⟩⟩
    · exact ⟨‹_›, .inr (Option.some.inj step).symm⟩
  · cases step

/-- A call that fails or dies leaves the files. -/
theorem next_ended {event : Event} (ends : event = .failed call ∨ event = .died call)
    (step : next path contents state event = some reached) :
    ∃ phase, (phase = .failed ∨ phase = .died) ∧ reached = state.setCall call phase := by
  obtain rfl | rfl := ends
  · simp only [next, Option.ite_none_right_eq_some] at step
    exact ⟨.failed, .inl rfl, (Option.some.inj step.2).symm⟩
  · simp only [next, Option.ite_none_right_eq_some] at step
    exact ⟨.died, .inr rfl, (Option.some.inj step.2).symm⟩

end Steps

end Brewmble.AtomicWrite
