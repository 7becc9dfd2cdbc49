import Brewmble.AtomicWrite

/-!
# Paths of configuration files

A path is written as a text. The directory that it begins with is named absolutely, or as it
is seen from the working directory, so that one text may stand for several files and several
texts for one file. What directory a text names is up to the host; a file is known by its
directory and its name in it.

A configuration is written to a temporary file first, in the same directory. Where that fails
the temporary file may stay.
-/

namespace Brewmble.ConfigPaths

open AtomicWrite

universe u
variable {Folder : Type u}

/-- `PathBuf::push`, for a relative text. -/
def pushText (parent name : String) : String :=
  if parent = "" || parent.toList.getLast? = some '/' then parent ++ name else parent ++ "/" ++ name

/-- A path as it is written; a bare name has no parent. -/
structure PathText where
  parent : String
  name : ConfigName
  deriving DecidableEq

def PathText.text (path : PathText) : String := pushText path.parent (String.ofList path.name.name)

/-- `is_absolute`. -/
def isAbsolute (text : String) : Bool := text.toList.head? = some '/'

/-- The directories that texts name. -/
structure Host (Folder : Type u) where
  absolute : String → Folder
  /-- Seen from a working directory, which the empty text names. -/
  relative : Folder → String → Folder

/-- A directory and a name in it. -/
abbrev Place (Folder : Type u) := Folder × List Char

namespace Host

def folder (host : Host Folder) (directory : Folder) (text : String) : Folder :=
  if isAbsolute text then host.absolute text else host.relative directory text

/-- The place of a path, seen from a working directory. -/
def locate (host : Host Folder) (directory : Folder) (path : PathText) : Place Folder :=
  (host.folder directory path.parent, path.name.name)

/-- What is at the paths as they are written, seen from a working directory. -/
def view {Content : Type} (host : Host Folder) (disk : Place Folder → Option Content) (directory : Folder)
    (path : PathText) : Option Content := disk (host.locate directory path)

/-- An absolute path leads to one place from everywhere. -/
theorem locate_absolute (host : Host Folder) {path : PathText} (rooted : isAbsolute path.parent = true)
    (directory : Folder) : host.locate directory path = (host.absolute path.parent, path.name.name) := by
  rw [locate, folder, if_pos rooted]

end Host

/-- A path that is pushed to stays absolute. -/
theorem pushText_absolute {parent : String} (rooted : isAbsolute parent = true) (name : String) :
    isAbsolute (pushText parent name) = true := by
  unfold isAbsolute at rooted ⊢
  have begins (tail : String) : (parent ++ tail).toList.head? = parent.toList.head? := by
    rw [String.toList_append]
    cases letters : parent.toList with
    | nil => simp [letters] at rooted
    | cons letter rest => rfl
  unfold pushText
  split
  · rw [begins]
    exact rooted
  · rw [String.append_assoc, begins]
    exact rooted

namespace Place

/-- `path.with_extension("tmp")`. -/
def temporary (place : Place Folder) : Place Folder := (place.1, withExtension place.2 tmpExtension)

/-- What a write that succeeds makes of the temporary file: it has another name then. -/
def renamed {Content : Type} (place : Place Folder) : Option (Option Content) :=
  if withExtension place.2 tmpExtension = place.2 then none else some none

/-- A name with another last letter is not the name of a temporary file. -/
theorem temporary_ne {name : List Char} (last : name.getLast? ≠ some 'p') (parent : name.getLast? ≠ some '.')
    (folder : Folder) (other : Place Folder) : other.temporary ≠ (folder, name) := by
  intro same
  have names : withExtension other.2 tmpExtension = name := congrArg Prod.snd same
  obtain up | shaped := withExtension_cases other.2 tmpExtension
  · exact parent (by rw [← names, up]; rfl)
  · exact last (by rw [← names, shaped]; simp [tmpExtension])

end Place

end Brewmble.ConfigPaths
