import Brewmble.AddressText

/-!
# Displayed addresses are read again

Reading a displayed IPv4 or IPv6 address gives the address back and stops after its
text, whatever follows, as long as this cannot be read as more of it. For IPv6 the
text takes one of three forms: all groups, groups around a run of zeros that is left
out, and an embedded IPv4 address.

Displayed groups are read one by one: none of them begins an IPv4 address, because
no dot comes after its digits. The run of zeros that is left out does consist of
zeros, so what is put in its place when the text is read is what was there.
-/

namespace Brewmble.IpAddress

open Numerals

section Reading

variable {rest : List Char}

/-- No digit of the radix comes first. -/
def NoDigit (radix : Nat) (rest : List Char) : Prop :=
  ∀ char ∈ rest.head?, isDigitOf radix char = false

theorem noDigit_cons {radix : Nat} {char : Char} (none : isDigitOf radix char = false) :
    NoDigit radix (char :: rest) := by
  intro first same
  obtain rfl := Option.some.inj same
  exact none

/-- A written number is read again. -/
theorem readNumber_toDigits {radix : Nat} (base : 1 < radix) (sixteen : radix ≤ 16)
    {maxDigits : Option Nat} {allowZeroPrefix : Bool} {bound number : Nat} (fits : number ≤ bound)
    (short : ∀ most, maxDigits = some most → number < radix ^ most ∧ 0 < most)
    (stops : NoDigit radix rest) :
    readNumber radix maxDigits allowZeroPrefix bound (Nat.toDigits radix number ++ rest) =
      some (number, rest) := by
  have digits := isDigitOf_toDigits base sixteen number
  have ends : rest.takeWhile (isDigitOf radix) = [] ∧ rest.dropWhile (isDigitOf radix) = rest := by
    cases rest with
    | nil => exact ⟨rfl, rfl⟩
    | cons first others =>
      have none := stops first rfl
      exact ⟨List.takeWhile_cons_of_neg (by simp [none]), List.dropWhile_cons_of_neg (by simp [none])⟩
  have taken : (Nat.toDigits radix number ++ rest).takeWhile (isDigitOf radix) =
      Nat.toDigits radix number := by
    rw [List.takeWhile_append_of_pos digits, ends.1, List.append_nil]
  have left : (Nat.toDigits radix number ++ rest).dropWhile (isDigitOf radix) = rest := by
    rw [List.dropWhile_append_of_pos digits, ends.2]
  have notLong : maxDigits.any (· < (Nat.toDigits radix number).length) = false := by
    cases limit : maxDigits with
    | none => rfl
    | some most =>
      obtain ⟨small, some⟩ := short most limit
      simpa using (Nat.length_toDigits_le_iff base some).mpr small
  have canonical : (!allowZeroPrefix && (Nat.toDigits radix number).head? = some '0' &&
      1 < (Nat.toDigits radix number).length) = false := by
    by_cases zero : number = 0
    · simp [zero]
    · simp [head_toDigits base sixteen (Nat.pos_of_ne_zero zero)]
  have bounded : ¬ bound < number := Nat.not_lt.mpr fits
  simp only [readNumber, taken, left, notLong, canonical, Nat.toDigits_ne_nil,
    digitsValue_toDigits base sixteen, bounded, if_false, Bool.false_eq_true]

theorem readOctet_decimal (octet : UInt8) (stops : NoDigit 10 rest) :
    readOctet (decimal octet.toNat ++ rest) = some (octet, rest) := by
  have small := octet.toNat_lt
  have read : readNumber 10 (some 3) false 255 (decimal octet.toNat ++ rest) =
      some (octet.toNat, rest) := by
    apply readNumber_toDigits (by decide) (by decide) (by omega) _ stops
    rintro most ⟨⟩
    exact ⟨by omega, by decide⟩
  rw [readOctet, read, Option.map_some]
  simp

/-- A displayed IPv4 address is read again. -/
theorem readIpv4Addr_chars (ip : Ipv4Addr) (stops : NoDigit 10 rest) :
    readIpv4Addr (ip.chars ++ rest) = some (ip, rest) := by
  have dot (more : List Char) : NoDigit 10 ('.' :: more) := noDigit_cons (by decide)
  simp [readIpv4Addr, Ipv4Addr.chars, readSeparator, readGivenChar, readOctet_decimal, dot, stops]

theorem readGroup_hexadecimal (group : UInt16) (stops : NoDigit 16 rest) :
    readGroup (hexadecimal group.toNat ++ rest) = some (group, rest) := by
  have small := group.toNat_lt
  have read : readNumber 16 (some 4) true 65535 (hexadecimal group.toNat ++ rest) =
      some (group.toNat, rest) := by
    apply readNumber_toDigits (by decide) (by decide) (by omega) _ stops
    rintro most ⟨⟩
    exact ⟨by omega, by decide⟩
  rw [readGroup, read, Option.map_some]
  simp

end Reading

section Groups

variable {rest : List Char}

/-- A character that neither is a digit nor makes the digits before it an octet. -/
def Border (rest : List Char) : Prop :=
  ∃ stop after, rest = stop :: after ∧ isDigitOf 16 stop = false ∧ stop ≠ '.'

/-- No group can be read on. -/
structure Ends (rest : List Char) : Prop where
  border : Border rest
  noIpv4 : ∀ index, readSeparator ':' index readIpv4Addr rest = none
  noGroup : ∀ index, readSeparator ':' index readGroup rest = none

theorem border_colon (more : List Char) : Border (':' :: more) := ⟨':', more, rfl, by decide, by decide⟩

theorem noDigit_border (border : Border rest) : NoDigit 16 rest := by
  obtain ⟨stop, after, rfl, none, _⟩ := border
  exact noDigit_cons none

theorem noIpv4_border (border : Border rest) {digits : List Char}
    (allDigits : ∀ char ∈ digits, isDigitOf 16 char = true) : readIpv4Addr (digits ++ rest) = none := by
  obtain ⟨stop, after, rfl, noDigit, noDot⟩ := border
  exact readIpv4Addr_dotless rfl allDigits noDigit noDot

theorem ends_bracket (more : List Char) : Ends (']' :: more) := by
  have border : Border (']' :: more) := ⟨']', more, rfl, by decide, by decide⟩
  have noIpv4 : readIpv4Addr (']' :: more) = none := @noIpv4_border _ border [] (by simp)
  have noGroup : readGroup (']' :: more) = none := rfl
  refine ⟨border, ?_, ?_⟩ <;>
  · intro index
    by_cases later : 0 < index <;> simp [readSeparator, later, readGivenChar, noIpv4, noGroup]

theorem ends_colons (more : List Char) : Ends (':' :: ':' :: more) := by
  have noIpv4 (more : List Char) : readIpv4Addr (':' :: more) = none :=
    @noIpv4_border _ (border_colon more) [] (by simp)
  have noGroup (more : List Char) : readGroup (':' :: more) = none := rfl
  refine ⟨border_colon _, ?_, ?_⟩ <;>
  · intro index
    by_cases later : 0 < index <;> simp [readSeparator, later, readGivenChar, noIpv4, noGroup]

theorem ends_colon : Ends [':'] := by
  have noIpv4 : readIpv4Addr [':'] = none := @noIpv4_border _ (border_colon []) [] (by simp)
  refine ⟨border_colon _, ?_, ?_⟩ <;>
  · intro index
    by_cases later : 0 < index
    · simp only [readSeparator, later, if_true]
      rfl
    · simpa [readSeparator, later] using by first | exact noIpv4 | rfl

/-- The text is over, or no group can be read on. -/
def Closes (rest : List Char) : Prop := rest = [] ∨ Ends rest

theorem noDigit_closes (closes : Closes rest) : NoDigit 16 rest := by
  obtain rfl | ends := closes
  · rintro char ⟨⟩
  · exact noDigit_border ends.border

theorem noIpv4_closes (closes : Closes rest) {digits : List Char}
    (allDigits : ∀ char ∈ digits, isDigitOf 16 char = true) : readIpv4Addr (digits ++ rest) = none := by
  obtain rfl | ends := closes
  · cases read : readIpv4Addr (digits ++ []) with
    | none => rfl
    | some found =>
      have dot : '.' ∈ digits := by
        rw [← List.append_nil digits, readIpv4Addr_some read, Ipv4Addr.chars]
        simp
      exact absurd rfl (ne_of_digit (allDigits '.' dot) (by decide))
  · exact noIpv4_border ends.border allDigits

/-- The text of groups from a position on: a colon precedes all but the first. -/
def groupsText : Nat → List UInt16 → List Char
  | _, [] => []
  | index, group :: groups =>
    (if 0 < index then [':'] else []) ++ hexadecimal group.toNat ++ groupsText (index + 1) groups

theorem groupsText_first (groups : List UInt16) : groupsText 0 groups = segmentChars groups := by
  have later (index : Nat) (group : UInt16) (groups : List UInt16) :
      groupsText (index + 1) (group :: groups) = ':' :: segmentChars (group :: groups) := by
    induction groups generalizing index group with
    | nil => simp [groupsText, segmentChars]
    | cons next more inductionHypothesis =>
      rw [groupsText, inductionHypothesis]
      simp [segmentChars]
  cases groups with
  | nil => rfl
  | cons group groups =>
    cases groups with
    | nil => simp [groupsText, segmentChars]
    | cons next more =>
      rw [groupsText, later]
      simp [segmentChars]

section Once

variable {remaining index : Nat} {input : List Char} {ipv4 : Ipv4Addr} {group : UInt16}

theorem readGroups_ipv4 (two : 1 ≤ remaining)
    (read : readSeparator ':' index readIpv4Addr input = some (ipv4, rest)) :
    readGroups (remaining + 1) index input = (groupsOf ipv4, true, rest) := by
  rw [readGroups, if_pos two, read]

theorem readGroups_group {groups : List UInt16} {more : List Char} {embedded : Bool}
    (noIpv4 : readSeparator ':' index readIpv4Addr input = none)
    (read : readSeparator ':' index readGroup input = some (group, more))
    (others : readGroups remaining (index + 1) more = (groups, embedded, rest)) :
    readGroups (remaining + 1) index input = (group :: groups, embedded, rest) := by
  rw [readGroups, noIpv4, ite_self, read]
  simp only [others]

theorem readGroups_ends (ends : Ends rest) : readGroups remaining index rest = ([], false, rest) := by
  cases remaining with
  | zero => rfl
  | succ remaining => rw [readGroups, ends.noIpv4, ite_self, ends.noGroup]

theorem readGroups_closes (closes : Closes rest) :
    readGroups remaining index rest = ([], false, rest) := by
  obtain rfl | ends := closes
  · by_cases later : 0 < index <;> cases remaining <;>
      simp [readGroups, readSeparator, later, readGivenChar, readIpv4Addr, readOctet, readGroup,
        readNumber]
  · exact readGroups_ends ends

end Once

/-- Displayed groups are read again, one by one.

Proof: induct on the groups with the position arbitrary. What comes after the digits
of a group is a colon or the end, so no group begins an IPv4 address. -/
theorem readGroups_groupsText (groups : List UInt16) (remaining index : Nat)
    (fits : groups.length ≤ remaining) (closes : Closes rest) :
    readGroups remaining index (groupsText index groups ++ rest) = (groups, false, rest) := by
  induction groups generalizing remaining index with
  | nil => exact readGroups_closes closes
  | cons group groups inductionHypothesis =>
    cases remaining with
    | zero => simp at fits
    | succ remaining =>
      have stops : NoDigit 16 (groupsText (index + 1) groups ++ rest) ∧ readIpv4Addr
          (hexadecimal group.toNat ++ (groupsText (index + 1) groups ++ rest)) = none := by
        cases groups with
        | nil => exact ⟨noDigit_closes closes, noIpv4_closes closes (hexadecimal_digits _)⟩
        | cons next more =>
          simp only [groupsText, Nat.succ_pos, if_true, List.cons_append, List.nil_append]
          exact ⟨noDigit_border (border_colon _), noIpv4_border (border_colon _) (hexadecimal_digits _)⟩
      obtain ⟨noDigit, noIpv4⟩ := stops
      have read := readGroup_hexadecimal group noDigit
      have others := inductionHypothesis remaining (index + 1) (by simpa using fits)
      apply readGroups_group _ _ others <;>
        by_cases later : 0 < index <;>
          simp [groupsText, readSeparator, later, readGivenChar, noIpv4, read]

theorem readGroups_segmentChars (groups : List UInt16) (remaining : Nat)
    (fits : groups.length ≤ remaining) (closes : Closes rest) :
    readGroups remaining 0 (segmentChars groups ++ rest) = (groups, false, rest) := by
  rw [← groupsText_first]
  exact readGroups_groupsText groups remaining 0 fits closes

end Groups

section Zeros

/-- The segments of the span are zeros. -/
def Zeros (segments : List UInt16) (span : Span) : Prop :=
  ∃ before after, segments = before ++ List.replicate span.len 0 ++ after ∧ before.length = span.start

/-- The run that ends here consists of zeros. -/
def Running (passed : List UInt16) (current : Span) : Prop :=
  0 < current.len → ∃ before, passed = before ++ List.replicate current.len 0 ∧
    before.length = current.start

/-- The longest run of zeros does consist of zeros.

Proof: induct on the segments that are left. Both the longest run so far and the one
that ends here consist of zeros. -/
theorem longestZeros_zeros (passed rest : List UInt16) (longest current : Span)
    (zeros : Zeros (passed ++ rest) longest) (running : Running passed current) :
    Zeros (passed ++ rest) (longestZeros longest current passed.length rest) := by
  induction rest generalizing passed longest current with
  | nil => exact zeros
  | cons segment rest inductionHypothesis =>
    have shifted : passed ++ segment :: rest = (passed ++ [segment]) ++ rest := by simp
    have next : passed.length + 1 = (passed ++ [segment]).length := by simp
    rw [shifted] at zeros ⊢
    rw [longestZeros, next]
    by_cases zero : segment = 0
    · subst zero
      rw [if_pos rfl]
      have grown : Running (passed ++ [0])
          ⟨if current.len = 0 then passed.length else current.start, current.len + 1⟩ := by
        intro _
        by_cases fresh : current.len = 0
        · exact ⟨passed, by simp [fresh], by simp [fresh]⟩
        · obtain ⟨before, same, start⟩ := running (Nat.pos_of_ne_zero fresh)
          refine ⟨before, ?_, by simp [fresh, start]⟩
          rw [same, List.append_assoc, List.replicate_succ']
      apply inductionHypothesis _ _ _ _ grown
      by_cases longer : current.len + 1 > longest.len
      · obtain ⟨before, same, start⟩ := grown (Nat.succ_pos _)
        simp only [longer, if_true]
        exact ⟨before, rest, by rw [same], start⟩
      · simp only [longer, if_false]
        exact zeros
    · rw [if_neg zero]
      exact inductionHypothesis _ _ _ zeros fun positive => absurd positive (Nat.lt_irrefl 0)

theorem zeros_inside {segments : List UInt16} {span : Span} (zeros : Zeros segments span) :
    span.start + span.len ≤ segments.length := by
  obtain ⟨before, after, rfl, start⟩ := zeros
  simp [← start]

/-- What the text of an address leaves out consists of zeros. -/
theorem leftOut_zeros (ip : Ipv6Addr) :
    Zeros ip.segments (longestZeros ⟨0, 0⟩ ⟨0, 0⟩ 0 ip.segments) :=
  longestZeros_zeros [] ip.segments ⟨0, 0⟩ ⟨0, 0⟩ ⟨[], ip.segments, rfl, rfl⟩
    fun positive => absurd positive (Nat.lt_irrefl 0)

/-- The segments are those before the zeros, the zeros and those after them. -/
theorem zeros_split {segments : List UInt16} {span : Span} (zeros : Zeros segments span) :
    segments = segments.take span.start ++ List.replicate span.len 0 ++
      segments.drop (span.start + span.len) ∧ (segments.take span.start).length = span.start := by
  obtain ⟨before, after, rfl, start⟩ := zeros
  have head : (before ++ List.replicate span.len 0 ++ after).take span.start = before := by
    rw [← start, List.append_assoc, List.take_left]
  have tail : (before ++ List.replicate span.len 0 ++ after).drop (span.start + span.len) = after := by
    have whole : span.start + span.len = (before ++ List.replicate span.len (0 : UInt16)).length := by
      simp [start]
    rw [whole, List.drop_left]
  rw [head, tail]
  exact ⟨rfl, start⟩

/-- The groups around a run of zeros, with zeros put between them. -/
theorem joinGroups_zeros {segments : List UInt16} (eight : segments.length = 8) {span : Span}
    (zeros : Zeros segments span) :
    joinGroups (segments.take span.start) (segments.drop (span.start + span.len)) = segments := by
  obtain ⟨split, start⟩ := zeros_split zeros
  have inside := zeros_inside zeros
  have between : 8 - (segments.take span.start).length -
      (segments.drop (span.start + span.len)).length = span.len := by
    rw [start, List.length_drop, eight]
    rw [eight] at inside
    omega
  rw [joinGroups, between, ← split]
  exact List.take_of_length_le (Nat.le_of_eq eight)

end Zeros

section Ipv6

variable {rest : List Char}

theorem joined_octets (group : UInt16) :
    ((group.toNat / 256).toUInt8.toNat * 256 + (group.toNat % 256).toUInt8.toNat).toUInt16 = group := by
  have small := group.toNat_lt
  have high : (group.toNat / 256).toUInt8.toNat = group.toNat / 256 := by
    simp
    omega
  have low : (group.toNat % 256).toUInt8.toNat = group.toNat % 256 := by
    simp
  rw [high, low, Nat.div_add_mod']
  exact UInt16.ofNat_toNat

theorem toIpv4Mapped_some {segments : List UInt16} {ipv4 : Ipv4Addr}
    (mapped : toIpv4Mapped segments = some ipv4) :
    segments = [0, 0, 0, 0, 0, 0xffff] ++ groupsOf ipv4 := by
  unfold toIpv4Mapped at mapped
  split at mapped
  · obtain rfl := Option.some.inj mapped
    simp only [groupsOf, joined_octets, List.cons_append, List.nil_append]
  · cases mapped

theorem noDigit_decimal (closes : Closes rest) : NoDigit 10 rest := by
  intro char first
  have none := noDigit_closes closes char first
  cases digit : isDigitOf 10 char with
  | false => rfl
  | true => rw [hexadecimal_of_decimal digit] at none; exact none

/-- An embedded IPv4 address is read with the group before it. -/
theorem readGroups_mapped (ipv4 : Ipv4Addr) (closes : Closes rest) :
    readGroups 7 0 ('f' :: 'f' :: 'f' :: 'f' :: ':' :: (ipv4.chars ++ rest)) =
      (0xffff :: groupsOf ipv4, true, rest) := by
  have text : 'f' :: 'f' :: 'f' :: 'f' :: ':' :: (ipv4.chars ++ rest) =
      hexadecimal (0xffff : UInt16).toNat ++ ':' :: (ipv4.chars ++ rest) := rfl
  have border := border_colon (ipv4.chars ++ rest)
  have noIpv4 := noIpv4_border border (hexadecimal_digits (0xffff : UInt16).toNat)
  have group := readGroup_hexadecimal 0xffff (noDigit_border border)
  have embedded := readIpv4Addr_chars ipv4 (noDigit_decimal closes)
  have later : readGroups 6 1 (':' :: (ipv4.chars ++ rest)) = (groupsOf ipv4, true, rest) :=
    readGroups_ipv4 (by decide) (by simp [readSeparator, readGivenChar, embedded])
  rw [text]
  exact readGroups_group noIpv4 group later

/-- Groups around two colons are read with zeros put between them. -/
theorem readIpv6Segments_around {before after : List UInt16} (fits : before.length + after.length ≤ 7)
    (closes : Closes rest) :
    readIpv6Segments (segmentChars before ++ ':' :: ':' :: (segmentChars after ++ rest)) =
      some (joinGroups before after, rest) := by
  have head := readGroups_segmentChars before 8 (by omega)
    (.inr (ends_colons (segmentChars after ++ rest)))
  have tail := readGroups_segmentChars after (7 - before.length) (by omega) closes
  have short : before.length ≠ 8 := by omega
  simp [readIpv6Segments, head, short, tail]

/-- A displayed IPv6 address is read again.

Proof: by the form of the text. Where zeros are left out, the groups before them end
at two colons, and the groups after them are read for themselves. -/
theorem readIpv6Addr_chars (ip : Ipv6Addr) (closes : Closes rest) :
    readIpv6Addr (ip.chars ++ rest) = some (ip, rest) := by
  suffices read : readIpv6Segments (ip.chars ++ rest) = some (ip.segments, rest) by
    simp [readIpv6Addr, read, ip.eight]
  unfold Ipv6Addr.chars
  split
  · rename_i ipv4 mapped
    have start : readGroups 8 0 (':' :: ':' :: 'f' :: 'f' :: 'f' :: 'f' :: ':' :: (ipv4.chars ++ rest)) =
        ([], false, ':' :: ':' :: 'f' :: 'f' :: 'f' :: 'f' :: ':' :: (ipv4.chars ++ rest)) :=
      readGroups_segmentChars [] 8 (Nat.zero_le 8) (.inr (ends_colons _))
    rw [toIpv4Mapped_some mapped]
    simp [readIpv6Segments, start, readGroups_mapped ipv4 closes, joinGroups, groupsOf]
  · have zeros := leftOut_zeros ip
    generalize longestZeros ⟨0, 0⟩ ⟨0, 0⟩ 0 ip.segments = span at zeros
    dsimp only
    by_cases long : span.len > 1
    · have joined := joinGroups_zeros ip.eight zeros
      have inside := zeros_inside zeros
      have fits : (ip.segments.take span.start).length +
          (ip.segments.drop (span.start + span.len)).length ≤ 7 := by
        rw [List.length_take, List.length_drop, ip.eight]
        rw [ip.eight] at inside
        omega
      have around := readIpv6Segments_around fits closes
      simp [long, around, joined]
    · have whole := readGroups_segmentChars ip.segments 8 (Nat.le_of_eq ip.eight) closes
      simp [long, readIpv6Segments, whole, ip.eight]

end Ipv6

end Brewmble.IpAddress
