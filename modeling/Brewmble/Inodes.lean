import Mathlib.Logic.Function.Basic

/-!
# Names and the files they stand for

A directory gives each name at most one inode, and an inode has bytes. Opening a name
for writing keeps the inode it stands for, without its bytes, or makes a new one. A
handle writes at its own offset to its inode, whatever name this has by then; bytes
before the offset that are not there become zeros. Renaming replaces what the new
name stood for.

A file that is written from its start, a part at a time and with no other writer, has
at each moment the part of its contents that was written.
-/

namespace Brewmble.Inodes

universe u
variable {Name : Type u}

structure FileSystem (Name : Type u) where
  entries : Name → Option Nat
  data : Nat → List UInt8
  /-- Inodes from here on are new. -/
  fresh : Nat

namespace FileSystem

variable (files : FileSystem Name) (name : Name)

/-- The bytes of the file with this name. -/
def read : Option (List UInt8) := (files.entries name).map files.data

/-- The inode for writing, created or truncated. -/
def openTruncated [DecidableEq Name] : Nat × FileSystem Name :=
  match files.entries name with
  | some inode => (inode, { files with data := Function.update files.data inode [] })
  | none =>
    (files.fresh,
      { entries := Function.update files.entries name (some files.fresh)
        data := Function.update files.data files.fresh []
        fresh := files.fresh + 1 })

/-- The bytes with others written over them from the offset on. -/
def overwrite (bytes : List UInt8) (offset : Nat) (written : List UInt8) : List UInt8 :=
  bytes.take offset ++ List.replicate (offset - bytes.length) 0 ++ written ++
    bytes.drop (offset + written.length)

def writeAt (inode offset : Nat) (written : List UInt8) : FileSystem Name :=
  { files with
    data := Function.update files.data inode (overwrite (files.data inode) offset written) }

/-- A name without a file cannot be renamed. -/
def rename [DecidableEq Name] (old new : Name) : Option (FileSystem Name) :=
  (files.entries old).map fun inode =>
    { files with
      entries := Function.update (Function.update files.entries old none) new (some inode) }

/-- Inodes with a name are not new. -/
def Bounded : Prop := ∀ name inode, files.entries name = some inode → inode < files.fresh

/-- The names stand for different inodes, if for any. -/
def Separate (first second : Name) : Prop :=
  ∀ inode, files.entries first = some inode → files.entries second ≠ some inode

end FileSystem

open FileSystem

variable {files : FileSystem Name} {name : Name}

/-- Writing the next part after what was written gives the part up to its end. -/
theorem overwrite_take (contents : List UInt8) {offset count : Nat}
    (within : offset + count ≤ contents.length) :
    overwrite (contents.take offset) offset ((contents.drop offset).take count) =
      contents.take (offset + count) := by
  have length : (contents.take offset).length = offset := by
    rw [List.length_take]
    omega
  have whole : (contents.take offset).take offset = contents.take offset :=
    List.take_of_length_le (Nat.le_of_eq length)
  have nothing : (contents.take offset).drop (offset + ((contents.drop offset).take count).length) = [] :=
    List.drop_of_length_le (by omega)
  rw [overwrite, whole, length, nothing, Nat.sub_self, List.replicate_zero, List.append_nil,
    List.append_nil, List.take_add]

section Opening

variable [DecidableEq Name]

/-- An opened name stands for the inode of the handle, which is empty. Other names and
inodes stay, and the handle's inode had no other name than this. -/
theorem openTruncated_spec (bounded : files.Bounded) {other : Name} (separate : files.Separate name other)
    (different : name ≠ other) {inode : Nat} {opened : FileSystem Name}
    (opens : files.openTruncated name = (inode, opened)) :
    opened.entries name = some inode ∧ opened.data inode = [] ∧ opened.Bounded ∧
      opened.Separate name other ∧ opened.read other = files.read other := by
  unfold openTruncated at opens
  cases present : files.entries name with
  | some held =>
    rw [present] at opens
    obtain ⟨rfl, rfl⟩ := Prod.mk.inj opens
    refine ⟨present, by simp, bounded, separate, ?_⟩
    have untouched : files.entries other ≠ some held := separate held present
    cases listed : files.entries other with
    | none => simp [FileSystem.read, listed]
    | some second =>
      have distinct : second ≠ held := by
        rintro rfl
        exact untouched listed
      simp [FileSystem.read, listed, distinct]
  | none =>
    rw [present] at opens
    obtain ⟨rfl, rfl⟩ := Prod.mk.inj opens
    have notFresh : files.entries other ≠ some files.fresh := fun listed =>
      Nat.lt_irrefl _ (bounded other files.fresh listed)
    refine ⟨by simp, by simp, ?_, ?_, ?_⟩
    · intro some inode listed
      by_cases same : some = name
      · subst same
        obtain rfl : files.fresh = inode := by simpa using listed
        exact Nat.lt_succ_self _
      · exact Nat.lt_succ_of_lt (bounded some inode (by simpa [same] using listed))
    · intro inode listed
      obtain rfl : files.fresh = inode := by simpa using listed
      simpa [different.symm] using notFresh
    · cases listed : files.entries other with
      | none => simp [FileSystem.read, listed, different.symm]
      | some second =>
        have distinct : second ≠ files.fresh := by
          rintro rfl
          exact notFresh listed
        simp [FileSystem.read, listed, different.symm, distinct]

end Opening

section Writing

variable (files) (inode offset : Nat) (written : List UInt8)

@[simp] theorem writeAt_entries : (files.writeAt inode offset written).entries = files.entries := rfl

@[simp] theorem writeAt_fresh : (files.writeAt inode offset written).fresh = files.fresh := rfl

@[simp] theorem writeAt_data :
    (files.writeAt inode offset written).data inode = overwrite (files.data inode) offset written := by
  simp [writeAt]

/-- Writing to one inode leaves the files of others. -/
theorem writeAt_read {other : Name} (elsewhere : files.entries other ≠ some inode) :
    (files.writeAt inode offset written).read other = files.read other := by
  cases listed : files.entries other with
  | none => simp [FileSystem.read, writeAt, listed]
  | some second =>
    have distinct : second ≠ inode := by
      rintro rfl
      exact elsewhere listed
    simp [FileSystem.read, writeAt, listed, distinct]

end Writing

section Renaming

variable [DecidableEq Name]

/-- A renamed file is at its new name, and there is none at the old one. -/
theorem rename_spec (bounded : files.Bounded) {old new : Name} (different : old ≠ new)
    {renamed : FileSystem Name} (renames : files.rename old new = some renamed) :
    renamed.read new = files.read old ∧ renamed.entries old = none ∧ renamed.Bounded ∧
      renamed.data = files.data := by
  obtain ⟨inode, present, rfl⟩ := Option.map_eq_some_iff.mp renames
  refine ⟨by simp [FileSystem.read, present], by simp [different], ?_, rfl⟩
  intro name held listed
  by_cases isNew : name = new
  · subst isNew
    obtain rfl : inode = held := by simpa using listed
    exact bounded old inode present
  · by_cases isOld : name = old
    · simp [isOld, different] at listed
    · exact bounded name held (by simpa [isNew, isOld] using listed)

end Renaming

end Brewmble.Inodes
