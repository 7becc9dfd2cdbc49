import Mathlib.Data.Option.Basic

/-!
# Two slots that must hold a pair

A left and a right slot each hold a value or nothing. A relation says which left
value belongs to which right value; the slots are matched when both are occupied
only by values that belong together. Half a pair beside an empty slot is matched.

Three updates occur: erasing either slot, writing a new pair left before right
where the second write may be missing, and filling empty slots from two other
slots. Erasing always keeps the match. For the other two the laws say exactly
when the slots remain matched: what breaks a pair is a new half put beside an old
one of the other side.
-/

namespace Brewmble.PairedSlots

universe u v
variable {Left : Type u} {Right : Type v}

/-- Two optional values. -/
structure Slots (Left : Type u) (Right : Type v) where
  left : Option Left
  right : Option Right

/-- Where both slots are occupied, their values belong together. -/
def Matched (belongs : Left → Right → Prop) (slots : Slots Left Right) : Prop :=
  ∀ left ∈ slots.left, ∀ right ∈ slots.right, belongs left right

/-- Every stored value satisfies the condition of its side. -/
def Within (left : Left → Prop) (right : Right → Prop) (slots : Slots Left Right) : Prop :=
  (∀ stored ∈ slots.left, left stored) ∧ ∀ stored ∈ slots.right, right stored

namespace Slots

/-- Empty the slots that are not kept. -/
def erase (keepLeft keepRight : Bool) (slots : Slots Left Right) : Slots Left Right where
  left := if keepLeft then slots.left else none
  right := if keepRight then slots.right else none

/-- Write the left value, and then the right one unless the left write failed. -/
def write (leftFails rightFails : Bool) (left : Left) (right : Right)
    (slots : Slots Left Right) : Slots Left Right :=
  if leftFails then slots
  else if rightFails then { slots with left := some left }
  else ⟨some left, some right⟩

/-- Fill each empty slot from the source where that is permitted. -/
def fill (fillLeft fillRight : Bool) (slots source : Slots Left Right) : Slots Left Right where
  left := slots.left.or (if fillLeft then source.left else none)
  right := slots.right.or (if fillRight then source.right else none)

end Slots

variable {belongs : Left → Right → Prop}

theorem matched_of_left_empty {slots : Slots Left Right} (empty : slots.left = none) :
    Matched belongs slots := by
  intro left stored
  rw [empty] at stored
  cases stored

theorem matched_of_right_empty {slots : Slots Left Right} (empty : slots.right = none) :
    Matched belongs slots := by
  intro left _ right stored
  rw [empty] at stored
  cases stored

theorem matched_pair {left : Left} {right : Right} (pair : belongs left right) :
    Matched belongs ⟨some left, some right⟩ := by
  rintro _ ⟨⟩ _ ⟨⟩
  exact pair

/-- Slots with no more in them than matched ones are matched. -/
theorem matched_of_subset {slots smaller : Slots Left Right} (matched : Matched belongs slots)
    (fewerLeft : ∀ left ∈ smaller.left, left ∈ slots.left)
    (fewerRight : ∀ right ∈ smaller.right, right ∈ slots.right) : Matched belongs smaller :=
  fun left inLeft right inRight =>
    matched left (fewerLeft left inLeft) right (fewerRight right inRight)

/-- Erasing keeps the match. -/
theorem erase_matched {slots : Slots Left Right} (matched : Matched belongs slots)
    (keepLeft keepRight : Bool) : Matched belongs (slots.erase keepLeft keepRight) := by
  apply matched_of_subset matched
  · intro left stored
    cases keepLeft with
    | true => exact stored
    | false => cases stored
  · intro right stored
    cases keepRight with
    | true => exact stored
    | false => cases stored

/-- Writing a new pair, of which the left value belongs to no stored right value,
leaves matched slots matched exactly when the left write fails, or the right one
succeeds, or no right value is stored. -/
theorem write_matched_iff {slots : Slots Left Right} {left : Left} {right : Right}
    (matched : Matched belongs slots) (pair : belongs left right)
    (fresh : ∀ stored ∈ slots.right, ¬ belongs left stored) (leftFails rightFails : Bool) :
    Matched belongs (slots.write leftFails rightFails left right) ↔
      (leftFails = false → rightFails = true → slots.right = none) := by
  cases leftFails with
  | true => simpa [Slots.write] using matched
  | false =>
    cases rightFails with
    | false => simpa [Slots.write] using matched_pair pair
    | true =>
      simp only [Slots.write, Bool.false_eq_true, if_false, if_true, true_implies]
      constructor
      · intro written
        cases stored : slots.right with
        | none => rfl
        | some old => exact absurd (written left rfl old stored) (fresh old stored)
      · intro empty
        exact matched_of_right_empty empty

/-- A filled left slot holds the stored value, or the source's where nothing was
stored and filling was permitted. -/
theorem mem_fill_left (fillLeft fillRight : Bool) (source slots : Slots Left Right) (left : Left) :
    left ∈ (slots.fill fillLeft fillRight source).left ↔
      left ∈ slots.left ∨ slots.left = none ∧ fillLeft = true ∧ left ∈ source.left := by
  obtain ⟨stored, _⟩ := slots
  cases stored <;> cases fillLeft <;> simp [Slots.fill]

theorem mem_fill_right (fillLeft fillRight : Bool) (source slots : Slots Left Right)
    (right : Right) :
    right ∈ (slots.fill fillLeft fillRight source).right ↔
      right ∈ slots.right ∨ slots.right = none ∧ fillRight = true ∧ right ∈ source.right := by
  obtain ⟨_, stored⟩ := slots
  cases stored <;> cases fillRight <;> simp [Slots.fill]

/-- Filling from matched slots leaves matched slots matched exactly when neither
a filled left value nor a filled right value stands beside a stored value of the
other side that it does not belong to.

Proof: a value of a filled slot is a stored one or one from the source. Two
stored ones match, and so do two from the source; the mixed pairs are the two
conditions. -/
theorem fill_matched_iff {source slots : Slots Left Right} (matched : Matched belongs slots)
    (sourceMatched : Matched belongs source) (fillLeft fillRight : Bool) :
    Matched belongs (slots.fill fillLeft fillRight source) ↔
      (slots.left = none → fillLeft = true → ∀ left ∈ source.left, ∀ right ∈ slots.right,
        belongs left right) ∧
      (slots.right = none → fillRight = true → ∀ right ∈ source.right, ∀ left ∈ slots.left,
        belongs left right) := by
  constructor
  · intro filled
    constructor
    · intro empty fills left inSource right stored
      exact filled left ((mem_fill_left ..).mpr (.inr ⟨empty, fills, inSource⟩))
        right ((mem_fill_right ..).mpr (.inl stored))
    · intro empty fills right inSource left stored
      exact filled left ((mem_fill_left ..).mpr (.inl stored))
        right ((mem_fill_right ..).mpr (.inr ⟨empty, fills, inSource⟩))
  · rintro ⟨besideRight, besideLeft⟩ left inLeft right inRight
    obtain stored | ⟨empty, fills, inSource⟩ := (mem_fill_left ..).mp inLeft
    · obtain alsoStored | ⟨rightEmpty, rightFills, rightInSource⟩ := (mem_fill_right ..).mp inRight
      · exact matched left stored right alsoStored
      · exact besideLeft rightEmpty rightFills right rightInSource left stored
    · obtain rightStored | ⟨_, _, rightInSource⟩ := (mem_fill_right ..).mp inRight
      · exact besideRight empty fills left inSource right rightStored
      · exact sourceMatched left inSource right rightInSource

section Within

variable {left wideLeft : Left → Prop} {right wideRight : Right → Prop}
variable {slots : Slots Left Right}

/-- A weaker condition holds of the same slots. -/
theorem within_weaken (within : Within left right slots) (weakLeft : ∀ value, left value → wideLeft value)
    (weakRight : ∀ value, right value → wideRight value) : Within wideLeft wideRight slots :=
  ⟨fun stored inLeft => weakLeft stored (within.1 stored inLeft),
    fun stored inRight => weakRight stored (within.2 stored inRight)⟩

theorem within_erase (within : Within left right slots) (keepLeft keepRight : Bool) :
    Within left right (slots.erase keepLeft keepRight) := by
  constructor
  · intro stored inLeft
    cases keepLeft with
    | true => exact within.1 stored inLeft
    | false => cases inLeft
  · intro stored inRight
    cases keepRight with
    | true => exact within.2 stored inRight
    | false => cases inRight

theorem within_write (within : Within left right slots) {newLeft : Left} {newRight : Right}
    (allowedLeft : left newLeft) (allowedRight : right newRight) (leftFails rightFails : Bool) :
    Within left right (slots.write leftFails rightFails newLeft newRight) := by
  cases leftFails with
  | true => exact within
  | false =>
    cases rightFails with
    | true => exact ⟨by rintro _ ⟨⟩; exact allowedLeft, within.2⟩
    | false => exact ⟨by rintro _ ⟨⟩; exact allowedLeft, by rintro _ ⟨⟩; exact allowedRight⟩

theorem within_fill (within : Within left right slots) {source : Slots Left Right}
    (sourceWithin : Within left right source) (fillLeft fillRight : Bool) :
    Within left right (slots.fill fillLeft fillRight source) := by
  constructor
  · intro stored inLeft
    obtain kept | ⟨_, _, inSource⟩ := (mem_fill_left ..).mp inLeft
    · exact within.1 stored kept
    · exact sourceWithin.1 stored inSource
  · intro stored inRight
    obtain kept | ⟨_, _, inSource⟩ := (mem_fill_right ..).mp inRight
    · exact within.2 stored kept
    · exact sourceWithin.2 stored inSource

end Within

end Brewmble.PairedSlots
