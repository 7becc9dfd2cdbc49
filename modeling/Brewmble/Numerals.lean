import Mathlib.Data.Nat.Notation
import Mathlib.Tactic.IntervalCases

/-!
# Numerals in a radix of at most sixteen

The digits of a numeral are characters; letters of either case are digits from ten
on. A numeral is evaluated from the left. Written numerals use lower case and no
leading zeros.

Evaluating what was written gives the number back for every such radix. Writing what
was evaluated gives the numeral back for a radix of at most ten, provided that the
numeral has no leading zero.
-/

namespace Brewmble.Numerals

/-- The value of a digit of any radix. -/
def digitOf (char : Char) : Option Nat :=
  if '0' ≤ char ∧ char ≤ '9' then some (char.toNat - '0'.toNat)
  else if 'a' ≤ char ∧ char ≤ 'f' then some (char.toNat - 'a'.toNat + 10)
  else if 'A' ≤ char ∧ char ≤ 'F' then some (char.toNat - 'A'.toNat + 10)
  else none

/-- `to_digit` for a radix of at most sixteen. -/
def toDigit (radix : Nat) (char : Char) : Option Nat := (digitOf char).filter (· < radix)

def isDigitOf (radix : Nat) (char : Char) : Bool := (toDigit radix char).isSome

/-- The value of a numeral that is preceded by digits of the given value. -/
def valueFrom (radix value : Nat) (digits : List Char) : Nat :=
  digits.foldl (fun value char => value * radix + (toDigit radix char).getD 0) value

def digitsValue (radix : Nat) (digits : List Char) : Nat := valueFrom radix 0 digits

variable {radix : Nat}

theorem digitOf_digitChar : ∀ digit < 16, digitOf (Nat.digitChar digit) = some digit := by decide

theorem toDigit_digitChar (bounded : radix ≤ 16) {digit : Nat} (small : digit < radix) :
    toDigit radix (Nat.digitChar digit) = some digit := by
  rw [toDigit, digitOf_digitChar digit (by omega)]
  simp [small]

/-- A written numeral has digits of its radix.

Proof: strong induction on the number, which loses its last digit. -/
theorem digit_of_mem (base : 1 < radix) (number : Nat) :
    ∀ char ∈ Nat.toDigits radix number, ∃ digit < radix, char = Nat.digitChar digit := by
  induction number using Nat.strong_induction_on with
  | h number inductionHypothesis =>
    intro char member
    rw [Nat.toDigits_eq_if base] at member
    by_cases small : number < radix
    · rw [if_pos small] at member
      exact ⟨number, small, List.mem_singleton.mp member⟩
    · rw [if_neg small] at member
      have smaller : number / radix < number := Nat.div_lt_self (by omega) base
      obtain earlier | last := List.mem_append.mp member
      · exact inductionHypothesis (number / radix) smaller char earlier
      · exact ⟨number % radix, Nat.mod_lt number (by omega), List.mem_singleton.mp last⟩

theorem isDigitOf_toDigits (base : 1 < radix) (bounded : radix ≤ 16) (number : Nat) :
    ∀ char ∈ Nat.toDigits radix number, isDigitOf radix char = true := by
  intro char member
  obtain ⟨digit, small, rfl⟩ := digit_of_mem base number char member
  simp [isDigitOf, toDigit_digitChar bounded small]

/-- A written numeral has no leading zero, unless it is that of zero. -/
theorem head_toDigits (base : 1 < radix) (bounded : radix ≤ 16) {number : Nat}
    (positive : 0 < number) : (Nat.toDigits radix number).head? ≠ some '0' := by
  induction number using Nat.strong_induction_on with
  | h number inductionHypothesis =>
    rw [Nat.toDigits_eq_if base]
    by_cases small : number < radix
    · have nonzero : ∀ digit < 16, 0 < digit → Nat.digitChar digit ≠ '0' := by decide
      simpa [small] using nonzero number (by omega) positive
    · have smaller : number / radix < number := Nat.div_lt_self positive base
      have remains : 0 < number / radix := Nat.div_pos (Nat.le_of_not_lt small) (by omega)
      rw [if_neg small, List.head?_append, Option.or_of_isSome (by simp [Nat.toDigits_ne_nil])]
      exact inductionHypothesis (number / radix) smaller remains

theorem valueFrom_append (value : Nat) (first second : List Char) :
    valueFrom radix value (first ++ second) = valueFrom radix (valueFrom radix value first) second :=
  List.foldl_append

/-- Further digits make a value no smaller. -/
theorem le_valueFrom (base : 0 < radix) (value : Nat) (digits : List Char) :
    value ≤ valueFrom radix value digits := by
  induction digits generalizing value with
  | nil => exact Nat.le_refl value
  | cons first rest inductionHypothesis =>
    calc
      value ≤ value * radix := Nat.le_mul_of_pos_right value base
      _ ≤ value * radix + (toDigit radix first).getD 0 := Nat.le_add_right _ _
      _ ≤ valueFrom radix value (first :: rest) := inductionHypothesis _

/-- Evaluating a written numeral gives its number. -/
theorem digitsValue_toDigits (base : 1 < radix) (bounded : radix ≤ 16) (number : Nat) :
    digitsValue radix (Nat.toDigits radix number) = number := by
  induction number using Nat.strong_induction_on with
  | h number inductionHypothesis =>
    rw [Nat.toDigits_eq_if base]
    by_cases small : number < radix
    · rw [if_pos small]
      simp [digitsValue, valueFrom, toDigit_digitChar bounded small]
    · have smaller : number / radix < number := Nat.div_lt_self (by omega) base
      have last : number % radix < radix := Nat.mod_lt number (by omega)
      have front := inductionHypothesis (number / radix) smaller
      rw [digitsValue] at front
      rw [if_neg small, digitsValue, valueFrom_append, front]
      simp only [valueFrom, List.foldl_cons, List.foldl_nil, toDigit_digitChar bounded last,
        Option.getD_some]
      rw [Nat.mul_comm]
      exact Nat.div_add_mod number radix

/-- A character that is a digit of a radix of at most ten is that digit as written. -/
theorem digitChar_of_toDigit (decimal : radix ≤ 10) {char : Char} {digit : Nat}
    (read : toDigit radix char = some digit) : digit < radix ∧ char = Nat.digitChar digit := by
  obtain ⟨found, small⟩ : digitOf char = some digit ∧ digit < radix := by
    simpa [toDigit, Option.filter_eq_some_iff] using read
  refine ⟨small, ?_⟩
  unfold digitOf at found
  split at found
  · rename_i between
    have low : '0'.toNat ≤ char.toNat := between.1
    have same : char.toNat = digit + 48 := by
      have difference : char.toNat - 48 = digit := by simpa using found
      have least : 48 ≤ char.toNat := low
      omega
    have tiny : digit < 10 := by omega
    rw [← Char.ofNat_toNat char, same]
    clear same found read
    interval_cases digit <;> rfl
  · split at found
    · have large : char.toNat - 'a'.toNat + 10 = digit := by simpa using found
      omega
    · split at found
      · have large : char.toNat - 'A'.toNat + 10 = digit := by simpa using found
        omega
      · cases found

/-- Digits after a number that is not zero are written after it.

Proof: induct on the digits with the number before them arbitrary. -/
theorem toDigits_valueFrom (base : 1 < radix) (decimal : radix ≤ 10) (digits : List Char)
    (allDigits : ∀ char ∈ digits, isDigitOf radix char = true) {value : Nat} (positive : 0 < value) :
    Nat.toDigits radix (valueFrom radix value digits) = Nat.toDigits radix value ++ digits := by
  induction digits generalizing value with
  | nil => simp [valueFrom]
  | cons first rest inductionHypothesis =>
    obtain ⟨digit, read⟩ := Option.isSome_iff_exists.mp (allDigits first List.mem_cons_self)
    obtain ⟨small, written⟩ := digitChar_of_toDigit decimal read
    have larger : 0 < value * radix + digit := by
      have product : 0 < value * radix := Nat.mul_pos positive (by omega)
      omega
    have joined := Nat.toDigits_append_toDigits base positive small
    rw [Nat.toDigits_of_lt_base small, ← written, Nat.mul_comm] at joined
    have remaining := inductionHypothesis
      (fun char member => allDigits char (List.mem_cons_of_mem first member)) larger
    calc
      Nat.toDigits radix (valueFrom radix value (first :: rest)) =
          Nat.toDigits radix (valueFrom radix (value * radix + digit) rest) := by
        simp [valueFrom, read]
      _ = Nat.toDigits radix (value * radix + digit) ++ rest := remaining
      _ = Nat.toDigits radix value ++ first :: rest := by
        rw [← joined, List.append_assoc, List.singleton_append]

/-- Writing an evaluated numeral gives it back, unless it has a leading zero. -/
theorem toDigits_digitsValue (base : 1 < radix) (decimal : radix ≤ 10) (digits : List Char)
    (allDigits : ∀ char ∈ digits, isDigitOf radix char = true) (present : digits ≠ [])
    (canonical : digits.head? = some '0' → digits.length ≤ 1) :
    Nat.toDigits radix (digitsValue radix digits) = digits := by
  cases digits with
  | nil => exact absurd rfl present
  | cons first rest =>
    obtain ⟨digit, read⟩ := Option.isSome_iff_exists.mp (allDigits first List.mem_cons_self)
    obtain ⟨small, written⟩ := digitChar_of_toDigit decimal read
    have evaluated : digitsValue radix (first :: rest) = valueFrom radix digit rest := by
      simp [digitsValue, valueFrom, read]
    rw [evaluated]
    by_cases zero : digit = 0
    · have leading : first = '0' := by rw [written, zero]; rfl
      have alone : rest = [] := by simpa [leading] using canonical
      rw [alone, valueFrom, List.foldl_nil, Nat.toDigits_of_lt_base small, written]
    · have restDigits : ∀ char ∈ rest, isDigitOf radix char = true :=
        fun char member => allDigits char (List.mem_cons_of_mem first member)
      rw [toDigits_valueFrom base decimal rest restDigits (Nat.pos_of_ne_zero zero),
        Nat.toDigits_of_lt_base small, ← written, List.singleton_append]

end Brewmble.Numerals
