import Brewmble.Fingerprints
import Brewmble.Migration
import Brewmble.PackageManagers

/-!
# The credentials of an older version

On macOS the legacy store is the keychain, which is read through a tool of the system. This
tool prints a stored text and ends the line. A text that it takes for binary data, as one
with line ends, it prints in hexadecimal instead, and does not say so. What is read is
therefore trimmed, and taken for hexadecimal where it looks like it.

So a text is read as it was stored unless it is short and was printed in hexadecimal, or was
printed as it is and has white space around it or looks like hexadecimal itself. Where the
stored texts are read as they were stored, a migration moves just them.
-/

namespace Brewmble.LegacyKeychain

open Credentials Fallible Fingerprints Migration Numerals PackageManagers

section Model

/-- What the tool prints, and whether it has found an item. -/
structure Output where
  success : Bool
  stdout : ByteArray

/-- `trim`. -/
def trim (text : String) : String :=
  String.ofList ((text.toList.dropWhile isWhitespace).rdropWhile isWhitespace)

/-- `is_hex_encoding`. -/
def isHexEncoding (text : String) : Bool :=
  text ≠ "" && text.utf8ByteSize % 2 = 0 && 40 ≤ text.utf8ByteSize && text.toList.all (isDigitOf 16)

/-- `u8::from_str_radix` of two digits. -/
def fromStrRadix (pair : List Char) : Option UInt8 :=
  if pair.all (isDigitOf 16) then some (UInt8.ofNat (digitsValue 16 pair)) else none

/-- The bytes of the pairs of digits. -/
def hexBytes : List Char → Option (List UInt8)
  | [] => some []
  | [_] => none
  | first :: second :: rest => do
    let byte ← fromStrRadix [first, second]
    let bytes ← hexBytes rest
    return byte :: bytes

/-- `String::from_utf8`. -/
def fromUtf8 (bytes : List UInt8) : Option String := String.fromUTF8? ⟨bytes.toArray⟩

def decoded (text : String) : Option String := (hexBytes text.toList).bind fromUtf8

/-- `read_legacy`, with the message of a text that is not in UTF-8. -/
def readLegacy (utf8Error : ByteArray → String) (output : Except String Output) : Except String (Option String) := do
  let printed ← output
  if !printed.success then return none
  match String.fromUTF8? printed.stdout with
  | none => .error (utf8Error printed.stdout)
  | some raw =>
    let trimmed := trim raw
    if isHexEncoding trimmed then
      match decoded trimmed with
      | some text => return some text
      | none => return some trimmed
    else return some trimmed

end Model

section Printing

/-- The text in hexadecimal. -/
def hexOf (text : String) : String := String.ofList (text.toUTF8.data.toList.flatMap hexByte)

/-- What the tool prints of a stored text. -/
def printed (hexed : Bool) (text : String) : Output where
  success := true
  stdout := ((if hexed then hexOf text else text) ++ "\n").toUTF8

/-- The condition under which a printed text is read as it was stored. -/
def Restored (hexed : Bool) (text : String) : Prop :=
  if hexed then text = "" ∨ 20 ≤ text.utf8ByteSize
  else trim text = text ∧ ¬ (isHexEncoding text = true ∧ decoded text ≠ none)

end Printing

section Hexadecimal

theorem fromUTF8_toUTF8 (text : String) : String.fromUTF8? text.toUTF8 = some text := dif_pos text.isValidUTF8

theorem hexByte_pair (byte : UInt8) : ∃ first second, hexByte byte = [first, second] := by
  have pairs : ∀ number : Fin 256, ((Nat.toDigits 16 number.val).leftpad 2 '0').length = 2 := by decide +kernel
  exact List.length_eq_two.mp (pairs ⟨byte.toNat, byte.toNat_lt⟩)

theorem hexByte_isDigit (byte : UInt8) : ∀ char ∈ hexByte byte, isDigitOf 16 char = true := by
  intro char member
  obtain ⟨digit, small, rfl⟩ := hexByte_digits byte char member
  simp [isDigitOf, toDigit_digitChar (le_refl 16) small]

theorem fromStrRadix_hexByte (byte : UInt8) : fromStrRadix (hexByte byte) = some byte := by
  have digits : (hexByte byte).all (isDigitOf 16) = true := List.all_eq_true.mpr (hexByte_isDigit byte)
  have value : digitsValue 16 (hexByte byte) = byte.toNat := by
    rw [hexByte, digitsValue_leftpad, digitsValue_toDigits (by decide) (by decide)]
  rw [fromStrRadix, if_pos digits, value, UInt8.ofNat_toNat]

theorem hexBytes_hexByte (bytes : List UInt8) : hexBytes (bytes.flatMap hexByte) = some bytes := by
  induction bytes with
  | nil => rfl
  | cons byte rest inductionHypothesis =>
    obtain ⟨first, second, pair⟩ := hexByte_pair byte
    have read : fromStrRadix [first, second] = some byte := pair ▸ fromStrRadix_hexByte byte
    rw [List.flatMap_cons, pair]
    simp [hexBytes, read, inductionHypothesis]

theorem hexChars_length (bytes : List UInt8) : (bytes.flatMap hexByte).length = 2 * bytes.length := by
  induction bytes with
  | nil => rfl
  | cons byte rest inductionHypothesis =>
    obtain ⟨first, second, pair⟩ := hexByte_pair byte
    rw [List.flatMap_cons, List.length_append, inductionHypothesis, pair, List.length_cons]
    simp only [List.length_cons, List.length_nil]
    omega

/-- The decoded bytes are half as many as the digits. -/
theorem hexBytes_length {digits : List Char} {bytes : List UInt8} (read : hexBytes digits = some bytes) :
    digits.length = 2 * bytes.length := by
  induction digits using hexBytes.induct generalizing bytes with
  | case1 =>
    obtain rfl := Option.some.inj read
    rfl
  | case2 char => cases read
  | case3 first second rest inductionHypothesis =>
    simp only [hexBytes, Option.bind_eq_bind, Option.bind_eq_some_iff] at read
    obtain ⟨byte, _, others, later, same⟩ := read
    obtain rfl := Option.some.inj same
    rw [List.length_cons, List.length_cons, inductionHypothesis later, List.length_cons]
    omega

end Hexadecimal

section Lengths

/-- A text has at most as many characters as bytes, and just as many if all of them are
ASCII characters. -/
theorem bytes_ofList (chars : List Char) : chars.length ≤ (String.ofList chars).utf8ByteSize ∧
    ((∀ char ∈ chars, char.utf8Size = 1) → (String.ofList chars).utf8ByteSize = chars.length) := by
  induction chars with
  | nil => exact ⟨Nat.zero_le _, fun _ => rfl⟩
  | cons char rest inductionHypothesis =>
    have split : String.ofList (char :: rest) = String.singleton char ++ String.ofList rest := by
      apply String.toList_inj.mp
      simp
    obtain ⟨least, exact'⟩ := inductionHypothesis
    have positive := char.utf8Size_pos
    rw [split, String.utf8ByteSize_append, String.utf8ByteSize_singleton, List.length_cons]
    refine ⟨by omega, ?_⟩
    intro ascii
    obtain ⟨first, others⟩ := List.forall_mem_cons.mp ascii
    rw [first, exact' others]
    omega

theorem digit_code {char : Char} (digit : isDigitOf 16 char = true) : 48 ≤ char.toNat ∧ char.toNat ≤ 102 := by
  unfold isDigitOf toDigit digitOf at digit
  have between {first last : Char} (inside : first ≤ char ∧ char ≤ last) :
      first.toNat ≤ char.toNat ∧ char.toNat ≤ last.toNat := inside
  split at digit
  · rename_i inside
    have bounds := between inside
    exact ⟨bounds.1, bounds.2.trans (by decide)⟩
  · split at digit
    · rename_i inside
      have bounds := between inside
      exact ⟨Nat.le_trans (by decide) bounds.1, bounds.2⟩
    · split at digit
      · rename_i inside
        have bounds := between inside
        exact ⟨Nat.le_trans (by decide) bounds.1, bounds.2.trans (by decide)⟩
      · cases digit

theorem digit_ascii {char : Char} (digit : isDigitOf 16 char = true) : char.utf8Size = 1 := by
  have small : char.val.toNat ≤ 102 := (digit_code digit).2
  exact Char.utf8Size_eq_one_iff.mpr (UInt32.le_iff_toNat_le.mpr (small.trans (by decide)))

end Lengths

section Trimming

theorem digit_visible {char : Char} (digit : isDigitOf 16 char = true) : ¬ isWhitespace char = true := by
  obtain ⟨least, most⟩ := digit_code digit
  simp only [isWhitespace, Bool.or_eq_true, Bool.and_eq_true, decide_eq_true_eq]
  omega

/-- The end of the line that the tool prints is trimmed. -/
theorem trim_newline (text : String) : trim (text ++ "\n") = trim text := by
  have chars : (text ++ "\n").toList = text.toList ++ ['\n'] := String.toList_append ..
  have white : isWhitespace '\n' = true := by decide
  rw [trim, trim, chars, List.dropWhile_append]
  split
  · rename_i none
    have nothing : text.toList.dropWhile isWhitespace = [] := by simpa using none
    rw [nothing, List.dropWhile_cons_of_pos white]
    rfl
  · rw [List.rdropWhile_concat_pos _ _ _ white]

theorem trim_digits {chars : List Char} (digits : ∀ char ∈ chars, isDigitOf 16 char = true) :
    trim (String.ofList chars) = String.ofList chars := by
  have visible : ∀ char ∈ chars, ¬ isWhitespace char = true := fun char member => digit_visible (digits char member)
  have front : chars.dropWhile isWhitespace = chars := by
    rw [List.dropWhile_eq_self_iff]
    exact fun some => visible _ (List.getElem_mem some)
  have back : chars.rdropWhile isWhitespace = chars := by
    rw [List.rdropWhile_eq_self_iff]
    exact fun some => visible _ (List.getLast_mem some)
  rw [trim, String.toList_ofList, front, back]

theorem trim_length (text : String) : (trim text).toList.length ≤ text.toList.length := by
  rw [trim, String.toList_ofList]
  exact (List.rdropWhile_prefix _ _).length_le.trans (List.dropWhile_suffix _).length_le

end Trimming

section Reading

/-- What is made of a trimmed text. -/
def readText (trimmed : String) : String :=
  if isHexEncoding trimmed then (decoded trimmed).getD trimmed else trimmed

theorem readLegacy_printed (utf8Error : ByteArray → String) (hexed : Bool) (text : String) :
    readLegacy utf8Error (.ok (printed hexed text)) =
      .ok (some (readText (trim (if hexed then hexOf text else text)))) := by
  have goes (next : Output → Except String (Option String)) :
      (Except.ok (printed hexed text) >>= next) = next (printed hexed text) := rfl
  rw [readLegacy, goes, printed, fromUTF8_toUTF8]
  simp only [trim_newline, readText]
  by_cases hex : isHexEncoding (trim (if hexed then hexOf text else text)) = true
  · rw [if_pos hex, if_pos hex]
    cases decoded (trim (if hexed then hexOf text else text)) <;> rfl
  · rw [if_neg hex, if_neg hex]
    rfl

variable (text : String)

theorem hexOf_digits : ∀ char ∈ text.toUTF8.data.toList.flatMap hexByte, isDigitOf 16 char = true := by
  intro char member
  obtain ⟨byte, _, inside⟩ := List.mem_flatMap.mp member
  exact hexByte_isDigit byte char inside

theorem hexOf_bytes : (hexOf text).utf8ByteSize = 2 * text.utf8ByteSize := by
  rw [hexOf, (bytes_ofList _).2 fun char member => digit_ascii (hexOf_digits text char member), hexChars_length]
  rfl

theorem decoded_hexOf : decoded (hexOf text) = some text := by
  rw [decoded, hexOf, String.toList_ofList, hexBytes_hexByte, Option.bind_some]
  exact fromUTF8_toUTF8 text

theorem trim_hexOf : trim (hexOf text) = hexOf text := trim_digits (hexOf_digits text)

theorem isHexEncoding_hexOf : isHexEncoding (hexOf text) = true ↔ 20 ≤ text.utf8ByteSize := by
  have digits : (hexOf text).toList.all (isDigitOf 16) = true := by
    rw [hexOf, String.toList_ofList]
    exact List.all_eq_true.mpr (hexOf_digits text)
  have even : 2 * text.utf8ByteSize % 2 = 0 := Nat.mul_mod_right 2 _
  have filled (long : 20 ≤ text.utf8ByteSize) : hexOf text ≠ "" := by
    intro empty
    have size := hexOf_bytes text
    rw [empty, String.utf8ByteSize_empty] at size
    omega
  simp only [isHexEncoding, hexOf_bytes, even, digits, Bool.and_eq_true, decide_eq_true_eq, Bool.and_true, decide_true]
  constructor
  · rintro ⟨_, long⟩
    omega
  · intro long
    exact ⟨by simpa using filled long, by omega⟩

/-- A text that is taken for hexadecimal becomes a shorter one. -/
theorem decoded_shorter {digits other : String} (hex : isHexEncoding digits = true)
    (read : decoded digits = some other) : other.toList.length < digits.toList.length := by
  obtain ⟨bytes, paired, utf8⟩ := Option.bind_eq_some_iff.mp read
  have half := hexBytes_length paired
  have size : other.utf8ByteSize = bytes.length := by
    unfold fromUtf8 String.fromUTF8? at utf8
    split at utf8
    · obtain rfl := Option.some.inj utf8
      rfl
    · cases utf8
  have fewer := (bytes_ofList other.toList).1
  rw [String.ofList_toList, size] at fewer
  have long : 0 < digits.toList.length := by
    simp only [isHexEncoding, Bool.and_eq_true, decide_eq_true_eq] at hex
    exact List.length_pos_iff.mpr fun empty => hex.1.1.1 (String.toList_inj.mp empty)
  omega

theorem read_hexed : readText (hexOf text) = text ↔ Restored true text := by
  unfold readText
  by_cases long : 20 ≤ text.utf8ByteSize
  · rw [if_pos ((isHexEncoding_hexOf text).mpr long), decoded_hexOf]
    exact iff_of_true rfl (.inr long)
  · rw [if_neg (mt (isHexEncoding_hexOf text).mp long)]
    constructor
    · intro same
      have size := hexOf_bytes text
      rw [same] at size
      exact .inl (String.utf8ByteSize_eq_zero_iff.mp (by omega))
    · rintro (rfl | bytes)
      · rfl
      · exact absurd bytes long

theorem read_plain : readText (trim text) = text ↔ Restored false text := by
  unfold readText
  by_cases hex : isHexEncoding (trim text) = true
  · rw [if_pos hex]
    cases read : decoded (trim text) with
    | none =>
      constructor
      · intro same
        have trimmed : trim text = text := same
        exact ⟨trimmed, fun both => both.2 (trimmed ▸ read)⟩
      · exact fun restored => restored.1
    | some other =>
      constructor
      · intro same
        obtain rfl : other = text := same
        have shorter := decoded_shorter hex read
        have trimmed := trim_length other
        omega
      · rintro ⟨trimmed, not⟩
        rw [trimmed] at hex read
        exact absurd ⟨hex, by simp [read]⟩ not
  · rw [if_neg hex]
    constructor
    · intro trimmed
      exact ⟨trimmed, fun both => hex (trimmed.symm ▸ both.1)⟩
    · exact fun restored => restored.1

/-- When a printed text is read as it was stored. -/
theorem read_restored_iff (utf8Error : ByteArray → String) (hexed : Bool) :
    readLegacy utf8Error (.ok (printed hexed text)) = .ok (some text) ↔ Restored hexed text := by
  rw [readLegacy_printed, Except.ok.injEq, Option.some.injEq]
  cases hexed with
  | true =>
    have whole : trim (if true then hexOf text else text) = hexOf text := trim_hexOf text
    rw [whole]
    exact read_hexed text
  | false => exact read_plain text

end Reading

section Migrating

/-- The texts that an older version has stored, and which of them are printed in
hexadecimal. -/
structure Keychain where
  texts : Account → Option String
  hexed : Account → Bool

/-- What the tool answers for an account. -/
def Keychain.answer (keychain : Keychain) (account : Account) : Output :=
  match keychain.texts account with
  | some text => printed (keychain.hexed account) text
  | none => ⟨false, ⟨#[]⟩⟩

/-- The legacy store of the migration is what is read of the keychain. -/
def ReadFrom (utf8Error : ByteArray → String) (keychain : Keychain) (world : World String) : Prop :=
  ∀ account, readLegacy utf8Error (.ok (keychain.answer account)) = .ok (world.legacy account)

/-- When a migration from the keychain of an older version is exact. Every stored text is
found, and read as it was stored exactly if it was printed in hexadecimal and is not shorter
than twenty bytes, or printed as it is, has no white space around it and does not decode as
hexadecimal. An account that is moved then holds the stored text, and else another one.

Proof: the digits of the bytes are read back and decode to the text, and whatever decodes is
shorter than its digits, so that a text is never mistaken for itself. -/
theorem legacy_texts_migrated {utf8Error : ByteArray → String} {keychain : Keychain} {world : World String}
    (readFrom : ReadFrom utf8Error keychain world) :
    (∀ account, world.legacy account = none ↔ keychain.texts account = none) ∧
    (∀ account text, keychain.texts account = some text →
      (world.legacy account = some text ↔ Restored (keychain.hexed account) text)) ∧
    ∀ faults dryRun, ∃ entries after, migrateCaWithStores faults dryRun world = (.ok entries, after) ∧
      ∀ account text, keychain.texts account = some text → world.store account = none →
        moves (faults account) dryRun = true → after.store account ≠ none ∧
          (after.store account = some text ↔ Restored (keychain.hexed account) text) := by
  have found : ∀ account text, keychain.texts account = some text →
      world.legacy account ≠ none ∧ (world.legacy account = some text ↔ Restored (keychain.hexed account) text) := by
    intro account text stored
    have read := readFrom account
    rw [Keychain.answer, stored] at read
    have whole := (readLegacy_printed utf8Error (keychain.hexed account) text).symm.trans read
    refine ⟨by simp [← Except.ok.inj whole], ?_⟩
    rw [← read_restored_iff text utf8Error, read, Except.ok.injEq]
  refine ⟨?_, fun account text stored => (found account text stored).2, ?_⟩
  · intro account
    cases stored : keychain.texts account with
    | some text => simp [(found account text stored).1]
    | none =>
      have read := readFrom account
      rw [Keychain.answer, stored] at read
      simp [← Except.ok.inj read]
  · intro faults dryRun
    obtain ⟨entries, after, returned, _, slots⟩ := ca_migrated faults dryRun world
    refine ⟨entries, after, returned, ?_⟩
    intro account text stored empty moved
    have store : after.store account = world.legacy account := by
      rw [(slots account).store, empty, Option.none_or, if_pos moved]
    rw [store]
    exact found account text stored

/-- A certificate that the tool prints in hexadecimal. -/
def olderKeychain : Keychain where
  texts account := if account = .caCert then some "-----BEGIN CERTIFICATE-----\nMIIB\n" else none
  hexed _ := true

def olderWorld : World String where
  store _ := none
  legacy account := if account = .caCert then some "-----BEGIN CERTIFICATE-----\nMIIB\n" else none
  calls := 0

theorem older_certificate_migrated :
    (migrateCaWithStores (fun _ => ⟨none, none, none, none⟩) false olderWorld).2.store .caCert =
      some "-----BEGIN CERTIFICATE-----\nMIIB\n" := by
  have restored : Restored true "-----BEGIN CERTIFICATE-----\nMIIB\n" := .inr (by decide)
  have readFrom : ReadFrom (fun _ => "") olderKeychain olderWorld := by
    intro account
    cases account with
    | caCert => exact (read_restored_iff _ _ true).mpr restored
    | caKey => rfl
    | clientCert => rfl
    | clientKey => rfl
  obtain ⟨_, _, exactly⟩ := legacy_texts_migrated readFrom
  obtain ⟨entries, after, returned, moved⟩ := exactly (fun _ => ⟨none, none, none, none⟩) false
  rw [returned]
  exact (moved .caCert _ rfl rfl rfl).2.mpr restored

end Migrating

end Brewmble.LegacyKeychain
