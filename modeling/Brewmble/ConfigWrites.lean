import Brewmble.AtomicWrite

/-!
# When configuration files are replaced as a whole

A call has the temporary file for itself from its open to its rename, provided that no
other call opens it meanwhile. Then the temporary file holds what the call has
written, and its rename puts its whole contents in the place of the old ones. This
holds whatever fails and whoever dies, as long as the temporary file is another one
than the configuration.

A second call that opens the temporary file truncates the file of the first, which
then renames what it finds there.
-/

namespace Brewmble.ConfigWrites

open AtomicWrite Execution Inodes

variable (path : ConfigName) (contents : Nat → List UInt8) (old : Option (List UInt8))

/-- Nothing has begun, and the configuration is the old one. The temporary file may be
there, but it is no link to the configuration. -/
structure Start (state : State) : Prop where
  waiting : ∀ call, state.calls call = .waiting
  old : state.files.read path.name = old
  bounded : state.files.Bounded
  separate : path.tmp ≠ path.name → state.files.Separate path.tmp path.name

/-- The configuration is the old one, or as a whole that of some call that has begun. -/
def Whole (state : State) : Prop :=
  state.files.read path.name = old ∨
    ∃ call, state.calls call ≠ .waiting ∧ state.files.read path.name = some (contents call)

/-- A call that has returned `Ok` has put its own contents at the path. -/
def OwnPut (state : State) : Prop :=
  ∀ call put, state.calls call = .returned put → put = some (contents call)

/-- The call is between its open and its rename. -/
def Active : Phase → Prop
  | .writing _ _ | .synced => True
  | _ => False

/-- Nobody opens the temporary file while another call is between its open and its
rename. -/
def Alone (state : State) : Event → Prop
  | .opened call => ∀ other, other ≠ call → ¬ Active (state.calls other)
  | _ => True

section Orderly

/-- What a call has in the files, by where it stands. -/
def Holds (files : FileSystem (List Char)) (call : Nat) : Phase → Prop
  | .writing inode offset => files.entries path.tmp = some inode ∧
      files.data inode = (contents call).take offset
  | .synced => files.read path.tmp = some (contents call)
  | .returned put => put = some (contents call)
  | _ => True

/-- What holds while nobody interferes: only one call is active, and it has the
temporary file. -/
structure Orderly (state : State) : Prop where
  bounded : state.files.Bounded
  separate : state.files.Separate path.tmp path.name
  exclusive : ∀ call other, Active (state.calls call) → Active (state.calls other) → call = other
  holds : ∀ call, Holds path contents state.files call (state.calls call)
  whole : Whole path contents old state

variable {path contents old} {state : State}

theorem start_orderly (apart : path.tmp ≠ path.name) (start : Start path old state) :
    Orderly path contents old state where
  bounded := start.bounded
  separate := start.separate apart
  exclusive := by
    intro call other active
    rw [start.waiting call] at active
    cases active
  holds := by
    intro call
    rw [start.waiting call]
    trivial
  whole := .inl start.old

theorem holds_inactive {phase : Phase} (inactive : ¬ Active phase)
    {files reached : FileSystem (List Char)} {call : Nat} (holds : Holds path contents files call phase) :
    Holds path contents reached call phase := by
  cases phase with
  | writing inode offset => exact absurd trivial inactive
  | synced => exact absurd trivial inactive
  | waiting => trivial
  | returned put => exact holds
  | failed => trivial
  | died => trivial

/-- The others are not active while a call is. -/
theorem others_inactive (orderly : Orderly path contents old state) {call : Nat}
    (active : Active (state.calls call)) : ∀ other, other ≠ call → ¬ Active (state.calls other) := by
  intro other different taking
  exact different (orderly.exclusive other call taking active)

variable {files : FileSystem (List Char)} {call : Nat} {phase : Phase}

/-- A step of one call keeps the order if the others are not active, or the files stay
as they are. -/
theorem setCall_orderly (orderly : Orderly path contents old state) (begins : phase ≠ .waiting)
    (bounded : files.Bounded) (separate : files.Separate path.tmp path.name)
    (holds : Holds path contents files call phase)
    (others : ∀ other, other ≠ call → ¬ Active (state.calls other) ∨ ¬ Active phase ∧ files = state.files)
    (put : files.read path.name = state.files.read path.name ∨
      files.read path.name = some (contents call)) :
    Orderly path contents old (State.setCall { state with files := files } call phase) where
  bounded := bounded
  separate := separate
  exclusive := by
    have onlyCall (other : Nat) (taking : Active
        ((State.setCall { state with files := files } call phase).calls other)) (active : Active phase) :
        other = call := by
      by_contra different
      rw [setCall_calls, if_neg different] at taking
      obtain inactive | ⟨inactive, _⟩ := others other different
      · exact inactive taking
      · exact inactive active
    intro first second taking taking'
    by_cases active : Active phase
    · rw [onlyCall first taking active, onlyCall second taking' active]
    · have before (other : Nat) (taking : Active
          ((State.setCall { state with files := files } call phase).calls other)) :
          Active (state.calls other) := by
        rw [setCall_calls] at taking
        by_cases same : other = call
        · rw [if_pos same] at taking
          exact absurd taking active
        · rwa [if_neg same] at taking
      exact orderly.exclusive first second (before first taking) (before second taking')
  holds := by
    intro other
    rw [setCall_calls]
    by_cases same : other = call
    · subst same
      rw [if_pos rfl]
      exact holds
    · rw [if_neg same]
      obtain inactive | ⟨_, unchanged⟩ := others other same
      · exact holds_inactive inactive (orderly.holds other)
      · rw [setCall_files, unchanged]
        exact orderly.holds other
  whole := by
    have begun (other : Nat) (began : state.calls other ≠ .waiting) :
        (State.setCall { state with files := files } call phase).calls other ≠ .waiting := by
      rw [setCall_calls]
      by_cases same : other = call
      · rwa [if_pos same]
      · rwa [if_neg same]
    obtain kept | replaced := put
    · obtain unchanged | ⟨other, began, whole⟩ := orderly.whole
      · exact .inl (kept.trans unchanged)
      · exact .inr ⟨other, begun other began, kept.trans whole⟩
    · exact .inr ⟨call, by simpa [setCall_calls] using begins, replaced⟩

/-- Every step keeps the order, if an open finds the call alone.

Proof: by the event. An open finds no other active call; a write, a sync and a rename
are those of the active call. -/
theorem step_orderly (apart : path.tmp ≠ path.name) {reached : State} {event : Event}
    (orderly : Orderly path contents old state) (alone : Alone state event)
    (step : next path contents state event = some reached) : Orderly path contents old reached := by
  have ended (call : Nat) (ends : event = .failed call ∨ event = .died call) :
      Orderly path contents old reached := by
    obtain ⟨phase, isEnd, rfl⟩ := next_ended ends step
    have inactive : ¬ Active phase := by
      obtain rfl | rfl := isEnd <;> exact id
    have holds : Holds path contents state.files call phase := by
      obtain rfl | rfl := isEnd <;> trivial
    have begins : phase ≠ .waiting := by
      obtain rfl | rfl := isEnd <;> decide
    exact setCall_orderly orderly begins orderly.bounded orderly.separate holds
      (fun _ _ => .inr ⟨inactive, rfl⟩) (.inl rfl)
  cases event with
  | opened call =>
    obtain ⟨_, _, inode, files, opens, rfl⟩ := next_opened step
    obtain ⟨entry, empty, bounded, separate, kept⟩ :=
      openTruncated_spec orderly.bounded orderly.separate apart opens
    exact setCall_orderly orderly (by simp) bounded separate ⟨entry, by rw [empty, List.take_zero]⟩
      (fun other different => .inl (alone other different)) (.inl kept)
  | wrote call count =>
    obtain ⟨inode, offset, writing, within, rfl⟩ := next_wrote step
    have held := orderly.holds call
    rw [writing] at held
    obtain ⟨entry, data⟩ := held
    have sole : ∀ other, other ≠ call → ¬ Active (state.calls other) :=
      others_inactive orderly (by rw [writing]; trivial)
    refine setCall_orderly orderly (by simp) orderly.bounded orderly.separate ⟨entry, ?_⟩
      (fun other different => .inl (sole other different)) (.inl ?_)
    · rw [writeAt_data, data, overwrite_take (contents call) within]
    · exact writeAt_read _ _ _ _ (orderly.separate inode entry)
  | synced call =>
    obtain ⟨inode, writing, rfl⟩ := next_synced step
    have held := orderly.holds call
    rw [writing] at held
    obtain ⟨entry, data⟩ := held
    have sole : ∀ other, other ≠ call → ¬ Active (state.calls other) :=
      others_inactive orderly (by rw [writing]; trivial)
    have written : state.files.read path.tmp = some (contents call) := by
      rw [FileSystem.read, entry, Option.map_some, data, List.take_length]
    exact setCall_orderly orderly (by simp) orderly.bounded orderly.separate written
      (fun other different => .inl (sole other different)) (.inl rfl)
  | renamed call =>
    obtain ⟨synced, ⟨files, renames, rfl⟩ | rfl⟩ := next_renamed step
    · have held := orderly.holds call
      rw [synced] at held
      obtain ⟨put, removed, bounded, _⟩ := rename_spec orderly.bounded apart renames
      have separate : files.Separate path.tmp path.name := by
        intro inode entry
        rw [removed] at entry
        cases entry
      have sole : ∀ other, other ≠ call → ¬ Active (state.calls other) :=
        others_inactive orderly (by rw [synced]; trivial)
      exact setCall_orderly orderly (by simp) bounded separate (put.trans held)
        (fun other different => .inl (sole other different)) (.inr (put.trans held))
    · exact setCall_orderly orderly (by simp) orderly.bounded orderly.separate trivial
        (fun _ _ => .inr ⟨id, rfl⟩) (.inl rfl)
  | failed call => exact ended call (.inl rfl)
  | died call => exact ended call (.inr rfl)

end Orderly

section Runs

/-- The configuration is replaced as a whole, and `Ok` means by one's own contents, in
every run in which no call opens the temporary file of another one between its open
and its rename, for every path with another extension than that of temporary files. -/
theorem writes_atomic (path : ConfigName) (contents : Nat → List UInt8) (old : Option (List UInt8))
    {start final : State} {events : List Event} (starts : Start path old start)
    (extension : (splitExtension path.name).2 ≠ some tmpExtension)
    (alone : Guarded (next path contents) Alone start events)
    (completed : run (next path contents) start events = some final) :
    Whole path contents old final ∧ OwnPut contents final := by
  have apart := tmp_differs path extension
  have orderly : Orderly path contents old final :=
    guarded_preserves (next path contents) Alone (fun _ => True) (Orderly path contents old)
      (fun _ _ _ _ _ => trivial)
      (fun _ _ _ _ orderly sole step => step_orderly apart orderly sole step)
      trivial (start_orderly apart starts) alone completed
  refine ⟨orderly.whole, ?_⟩
  intro call put returned
  have held := orderly.holds call
  rw [returned] at held
  exact held

/-- A configuration that has the extension of temporary files is truncated by every call
that opens it. -/
theorem tmp_path_truncated {path : ConfigName} {contents : Nat → List UInt8} {state reached : State}
    {call : Nat} (extension : (splitExtension path.name).2 = some tmpExtension)
    (step : next path contents state (.opened call) = some reached) :
    reached.files.read path.name = some [] := by
  obtain ⟨_, file, inode, files, opens, rfl⟩ := next_opened step
  rw [tmp_same path extension file, FileSystem.openTruncated] at opens
  cases present : state.files.entries path.name with
  | some held =>
    rw [present] at opens
    obtain ⟨rfl, rfl⟩ := Prod.mk.inj opens
    simp [FileSystem.read, present]
  | none =>
    rw [present] at opens
    obtain ⟨rfl, rfl⟩ := Prod.mk.inj opens
    simp [FileSystem.read]

/-- Two configurations to be written. -/
def twoContents (call : Nat) : List UInt8 := if call = 0 then [1, 1] else [2]

/-- The configuration is there, and no temporary file. -/
def oneFile : State where
  files :=
    { entries := Function.update (fun _ => none) yamlName.name (some 0)
      data := fun _ => [0]
      fresh := 1 }
  calls _ := .waiting

theorem oneFile_start : Start yamlName (some [0]) oneFile where
  waiting _ := rfl
  old := by decide
  bounded := by
    intro name inode listed
    by_cases same : name = yamlName.name
    · subst same
      obtain rfl : 0 = inode := by simpa [oneFile] using listed
      decide
    · simp [oneFile, same] at listed
  separate := by
    intro different inode listed
    simp [oneFile, different] at listed

/-- A call opens the temporary file after another one has synced it, and before its
rename. -/
theorem overlapping_call_truncates :
    ¬ ∀ (path : ConfigName) (contents : Nat → List UInt8) (old : Option (List UInt8))
      (start final : State) (events : List Event), Start path old start →
      run (next path contents) start events = some final →
      Whole path contents old final ∧ OwnPut contents final := by
  intro claimed
  obtain ⟨_, own⟩ := claimed yamlName twoContents (some [0]) oneFile _
    [.opened 0, .wrote 0 2, .synced 0, .opened 1, .renamed 0] oneFile_start rfl
  exact absurd (own 0 (some []) (by decide)) (by decide)

/-- A call dies while it writes, then another one takes all its steps. -/
def afterDeath : List Event :=
  [.opened 1, .wrote 1 1, .died 1, .opened 0, .wrote 0 1, .wrote 0 1, .synced 0, .renamed 0]

/-- The second open finds the temporary file of a call that has died. -/
theorem afterDeath_alone : Guarded (next yamlName twoContents) Alone oneFile afterDeath := by
  refine ⟨fun other _ => id, fun first opened => ⟨trivial, fun second wrote => ⟨trivial, fun third died =>
    ⟨?_, fun _ _ => by simp [Guarded, Alone]⟩⟩⟩⟩
  obtain rfl : _ = first := Option.some.inj opened
  obtain rfl : _ = second := Option.some.inj wrote
  obtain rfl : _ = third := Option.some.inj died
  intro other different
  by_cases dead : other = 1
  · subst dead
    exact id
  · simp [State.setCall, dead, oneFile, Active]

theorem dead_call_replaced :
    ∃ final, run (next yamlName twoContents) oneFile afterDeath = some final ∧
      final.files.read yamlName.name = some [1, 1] ∧
      Whole yamlName twoContents (some [0]) final ∧ OwnPut twoContents final :=
  ⟨_, rfl, rfl, writes_atomic yamlName twoContents (some [0]) oneFile_start (by decide) afterDeath_alone rfl⟩

end Runs

end Brewmble.ConfigWrites
