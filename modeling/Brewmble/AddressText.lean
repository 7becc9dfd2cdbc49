import Brewmble.IpAddress
import Mathlib.Data.List.TakeWhile

/-!
# What address texts are made of

An IPv4 text has digits and dots; an IPv6 text has hexadecimal digits, at least two
colons, and dots only after its first colon. Reading an IPv4 address takes from the
input exactly the text of the address that is read. Reading an IPv6 address takes at
least two colons from it.

From this a text in which an address is followed by a port can be read in one way
only, which is what the conversion to a URL relies on.
-/

namespace Brewmble.IpAddress

open Numerals

section Characters

/-- A digit differs from every character that is none. -/
theorem ne_of_digit {radix : Nat} {char other : Char} (digit : isDigitOf radix char = true)
    (noDigit : isDigitOf radix other = false) : char ≠ other := by
  rintro rfl
  rw [digit] at noDigit
  cases noDigit

theorem decimal_digits (number : Nat) : ∀ char ∈ decimal number, isDigitOf 10 char = true :=
  isDigitOf_toDigits (by decide) (by decide) number

theorem hexadecimal_digits (number : Nat) : ∀ char ∈ hexadecimal number, isDigitOf 16 char = true :=
  isDigitOf_toDigits (by decide) (by decide) number

/-- Decimal digits are hexadecimal ones. -/
theorem hexadecimal_of_decimal {char : Char} (digit : isDigitOf 10 char = true) :
    isDigitOf 16 char = true := by
  obtain ⟨value, read⟩ := Option.isSome_iff_exists.mp digit
  obtain ⟨small, written⟩ := digitChar_of_toDigit (by decide) read
  have sixteen : (16 : Nat) ≤ 16 := Nat.le_refl 16
  rw [written, isDigitOf, toDigit_digitChar sixteen (by omega)]
  rfl

theorem decimal_ne_nil (number : Nat) : decimal number ≠ [] := Nat.toDigits_ne_nil

/-- A character of an IPv4 text is a digit or a dot. -/
theorem Ipv4Addr.mem_chars (ip : Ipv4Addr) {char : Char} (member : char ∈ ip.chars) :
    isDigitOf 10 char = true ∨ char = '.' := by
  simp only [Ipv4Addr.chars, List.append_assoc, List.cons_append, List.mem_append,
    List.mem_cons] at member
  obtain first | rfl | second | rfl | third | rfl | fourth := member
  · exact .inl (decimal_digits _ char first)
  · exact .inr rfl
  · exact .inl (decimal_digits _ char second)
  · exact .inr rfl
  · exact .inl (decimal_digits _ char third)
  · exact .inr rfl
  · exact .inl (decimal_digits _ char fourth)

theorem Ipv4Addr.not_mem_chars (ip : Ipv4Addr) {char : Char} (noDigit : isDigitOf 10 char = false)
    (noDot : char ≠ '.') : char ∉ ip.chars := by
  intro member
  obtain digit | dot := ip.mem_chars member
  · exact ne_of_digit digit noDigit rfl
  · exact noDot dot

/-- A character of a list of segments is a hexadecimal digit or a colon. -/
theorem mem_segmentChars (segments : List UInt16) {char : Char}
    (member : char ∈ segmentChars segments) : isDigitOf 16 char = true ∨ char = ':' := by
  induction segments using segmentChars.induct with
  | case1 => cases member
  | case2 segment => exact .inl (hexadecimal_digits _ char member)
  | case3 segment rest more inductionHypothesis =>
    rw [segmentChars] at member
    · obtain inside | separator | later : char ∈ hexadecimal segment.toNat ∨ char = ':' ∨
          char ∈ segmentChars rest := by simpa using member
      · exact .inl (hexadecimal_digits _ char inside)
      · exact .inr separator
      · exact inductionHypothesis later
    · exact more

theorem Ipv6Addr.mem_chars (ip : Ipv6Addr) {char : Char} (member : char ∈ ip.chars) :
    isDigitOf 16 char = true ∨ char = ':' ∨ char = '.' := by
  have ofSegments (segments : List UInt16) (inside : char ∈ segmentChars segments) :
      isDigitOf 16 char = true ∨ char = ':' ∨ char = '.' := by
    obtain digit | colon := mem_segmentChars segments inside
    · exact .inl digit
    · exact .inr (.inl colon)
  unfold Ipv6Addr.chars at member
  split at member
  · rename_i ipv4 _
    simp only [List.mem_cons] at member
    obtain rfl | rfl | rfl | rfl | rfl | rfl | rfl | inside := member
    any_goals decide
    obtain digit | dot := ipv4.mem_chars inside
    · exact .inl (hexadecimal_of_decimal digit)
    · exact .inr (.inr dot)
  · dsimp only at member
    split at member
    · obtain before | rfl | rfl | after : char ∈ segmentChars _ ∨ char = ':' ∨ char = ':' ∨
          char ∈ segmentChars _ := by simpa using member
      · exact ofSegments _ before
      · exact .inr (.inl rfl)
      · exact .inr (.inl rfl)
      · exact ofSegments _ after
    · exact ofSegments _ member

theorem Ipv6Addr.not_mem_chars (ip : Ipv6Addr) {char : Char} (noDigit : isDigitOf 16 char = false)
    (noColon : char ≠ ':') (noDot : char ≠ '.') : char ∉ ip.chars := by
  intro member
  obtain digit | colon | dot := ip.mem_chars member
  · exact ne_of_digit digit noDigit rfl
  · exact noColon colon
  · exact noDot dot

theorem count_colon_hexadecimal (number : Nat) : (hexadecimal number).count ':' = 0 := by
  apply List.count_eq_zero_of_not_mem
  intro member
  exact ne_of_digit (hexadecimal_digits number ':' member) (by decide) rfl

/-- Segments are separated by colons. -/
theorem count_colon_segmentChars (segments : List UInt16) :
    (segmentChars segments).count ':' = segments.length - 1 := by
  induction segments using segmentChars.induct with
  | case1 => rfl
  | case2 segment => exact count_colon_hexadecimal _
  | case3 segment rest more inductionHypothesis =>
    rw [segmentChars]
    · cases rest with
      | nil => exact absurd rfl more
      | cons next others =>
        simp [count_colon_hexadecimal, inductionHypothesis]
    · exact more

theorem Ipv6Addr.two_colons (ip : Ipv6Addr) : 2 ≤ ip.chars.count ':' := by
  unfold Ipv6Addr.chars
  split
  · simp
  · dsimp only
    split
    · simp
      omega
    · rw [count_colon_segmentChars, ip.eight]
      decide

/-- Before the first colon in or after segments there are digits only. -/
theorem segments_colon_first (segments : List UInt16) (others : List Char) :
    ∃ before after, segmentChars segments ++ ':' :: others = before ++ ':' :: after ∧
      ∀ char ∈ before, isDigitOf 16 char = true := by
  cases segments with
  | nil => exact ⟨[], others, rfl, by simp⟩
  | cons segment rest =>
    cases rest with
    | nil => exact ⟨hexadecimal segment.toNat, others, rfl, hexadecimal_digits _⟩
    | cons next more =>
      exact ⟨hexadecimal segment.toNat, segmentChars (next :: more) ++ ':' :: others,
        by simp [segmentChars], hexadecimal_digits _⟩

/-- Before its first colon, an IPv6 text has digits only. -/
theorem Ipv6Addr.colon_first (ip : Ipv6Addr) :
    ∃ before after, ip.chars = before ++ ':' :: after ∧
      ∀ char ∈ before, isDigitOf 16 char = true := by
  unfold Ipv6Addr.chars
  split
  · exact ⟨[], _, rfl, by simp⟩
  · dsimp only
    split
    · exact segments_colon_first _ _
    · obtain ⟨segments, eight⟩ := ip
      match segments, eight with
      | segment :: next :: more, _ =>
        exact ⟨hexadecimal segment.toNat, segmentChars (next :: more), rfl, hexadecimal_digits _⟩

end Characters

section Reading

variable {input rest : List Char}

/-- A number is read from its digits, which come first in the input. -/
theorem readNumber_some {radix : Nat} {maxDigits : Option Nat} {allowZeroPrefix : Bool}
    {bound value : Nat}
    (read : readNumber radix maxDigits allowZeroPrefix bound input = some (value, rest)) :
    ∃ digits, input = digits ++ rest ∧ (∀ char ∈ digits, isDigitOf radix char = true) ∧
      digits ≠ [] ∧ digitsValue radix digits = value ∧ value ≤ bound ∧
      (allowZeroPrefix = false → digits.head? = some '0' → digits.length ≤ 1) := by
  unfold readNumber at read
  dsimp only at read
  split at read
  · cases read
  · rename_i present
    split at read
    · cases read
    · split at read
      · cases read
      · rename_i canonical
        split at read
        · cases read
        · rename_i bounded
          obtain ⟨rfl, rfl⟩ := Prod.mk.inj (Option.some.inj read)
          refine ⟨_, List.takeWhile_append_dropWhile.symm, ?_, present, rfl, Nat.le_of_not_lt bounded, ?_⟩
          · intro char member
            exact List.mem_takeWhile_imp member
          · intro strict leading
            simp only [strict, Bool.not_false, Bool.true_and, leading, decide_true,
              decide_eq_true_eq] at canonical
            exact Nat.le_of_not_lt canonical

/-- An octet is read from its own text. -/
theorem readOctet_some {octet : UInt8} (read : readOctet input = some (octet, rest)) :
    input = decimal octet.toNat ++ rest := by
  obtain ⟨⟨value, remaining⟩, number, same⟩ := Option.map_eq_some_iff.mp read
  obtain ⟨rfl, rfl⟩ := Prod.mk.inj same
  obtain ⟨digits, split, allDigits, present, evaluated, bounded, canonical⟩ := readNumber_some number
  have small : value.toUInt8.toNat = value := by
    simp
    omega
  rw [split, small, ← evaluated, decimal,
    toDigits_digitsValue (by decide) (by decide) digits allDigits present (canonical rfl)]

theorem readGivenChar_some {given : Char} {read : Unit × List Char}
    (found : readGivenChar given input = some read) : input = given :: read.2 := by
  cases input with
  | nil => cases found
  | cons first remaining =>
    by_cases same : first = given
    · rw [readGivenChar, if_pos same] at found
      rw [← Option.some.inj found, same]
    · rw [readGivenChar, if_neg same] at found
      cases found

/-- After the first reading, a separator is read before each. -/
theorem readSeparator_some {Value : Type} {separator : Char} {index : Nat} {inner : Reader Value}
    {value : Value} (read : readSeparator separator index inner input = some (value, rest)) :
    ∃ body, inner body = some (value, rest) ∧
      input = (if 0 < index then [separator] else []) ++ body := by
  unfold readSeparator at read
  split at read
  · rename_i later
    obtain ⟨⟨_, body⟩, given, inside⟩ := Option.bind_eq_some_iff.mp read
    exact ⟨body, inside, by simp [later, readGivenChar_some given]⟩
  · rename_i first
    exact ⟨input, read, by simp [first]⟩

/-- An IPv4 address is read from its own text. -/
theorem readIpv4Addr_some {ip : Ipv4Addr} (read : readIpv4Addr input = some (ip, rest)) :
    input = ip.chars ++ rest := by
  simp only [readIpv4Addr, Option.bind_eq_bind, Option.bind_eq_some_iff, Option.pure_def,
    Option.some.injEq, Prod.exists, Prod.mk.injEq] at read
  obtain ⟨a, afterA, readA, b, afterB, readB, c, afterC, readC, d, afterD, readD, rfl, rfl⟩ := read
  obtain ⟨bodyA, octetA, rfl⟩ := readSeparator_some readA
  obtain ⟨bodyB, octetB, rfl⟩ := readSeparator_some readB
  obtain ⟨bodyC, octetC, rfl⟩ := readSeparator_some readC
  obtain ⟨bodyD, octetD, rfl⟩ := readSeparator_some readD
  rw [readOctet_some octetA, readOctet_some octetB, readOctet_some octetC, readOctet_some octetD]
  simp [Ipv4Addr.chars]

/-- A text whose digits are not followed by a dot does not begin with an IPv4 address.

Proof: the text read up to its first dot has digits only, so the first character
that is no digit would be both the dot and the one that is there. -/
theorem readIpv4Addr_dotless {before after : List Char} {stop : Char}
    (split : input = before ++ stop :: after) (digits : ∀ char ∈ before, isDigitOf 16 char = true)
    (noDigit : isDigitOf 16 stop = false) (noDot : stop ≠ '.') : readIpv4Addr input = none := by
  cases read : readIpv4Addr input with
  | none => rfl
  | some found =>
    obtain ⟨more, text⟩ : ∃ more, input = decimal found.1.a.toNat ++ '.' :: more := by
      rw [readIpv4Addr_some read, Ipv4Addr.chars]
      simp only [List.append_assoc, List.cons_append]
      exact ⟨_, rfl⟩
    have first := congrArg (List.dropWhile (isDigitOf 16)) (split.symm.trans text)
    have decimalDigits : ∀ char ∈ decimal found.1.a.toNat, isDigitOf 16 char = true :=
      fun char member => hexadecimal_of_decimal (decimal_digits _ char member)
    rw [List.dropWhile_append_of_pos digits, List.dropWhile_append_of_pos decimalDigits,
      List.dropWhile_cons_of_neg (by simp [noDigit]), List.dropWhile_cons_of_neg (by decide)] at first
    exact absurd (List.cons.inj first).1 noDot

theorem count_colon_readNumber {radix : Nat} {maxDigits : Option Nat} {allowZeroPrefix : Bool}
    {bound value : Nat} (noDigit : isDigitOf radix ':' = false)
    (read : readNumber radix maxDigits allowZeroPrefix bound input = some (value, rest)) :
    input.count ':' = rest.count ':' := by
  obtain ⟨digits, rfl, allDigits, _⟩ := readNumber_some read
  have without : ':' ∉ digits := by
    intro member
    exact ne_of_digit (allDigits ':' member) noDigit rfl
  rw [List.count_append, List.count_eq_zero_of_not_mem without, Nat.zero_add]

theorem count_colon_readGroup {group : UInt16} (read : readGroup input = some (group, rest)) :
    input.count ':' = rest.count ':' := by
  obtain ⟨⟨value, remaining⟩, number, same⟩ := Option.map_eq_some_iff.mp read
  obtain ⟨rfl, rfl⟩ := Prod.mk.inj same
  exact count_colon_readNumber (by decide) number

theorem count_colon_readIpv4Addr {ip : Ipv4Addr} (read : readIpv4Addr input = some (ip, rest)) :
    input.count ':' = rest.count ':' := by
  have without : ':' ∉ ip.chars := ip.not_mem_chars (by decide) (by decide)
  rw [readIpv4Addr_some read, List.count_append, List.count_eq_zero_of_not_mem without,
    Nat.zero_add]

theorem count_colon_readSeparator {Value : Type} {index : Nat} {inner : Reader Value}
    {value : Value} (read : readSeparator ':' index inner input = some (value, rest))
    (none : ∀ body, inner body = some (value, rest) → body.count ':' = rest.count ':') :
    input.count ':' = (if 0 < index then 1 else 0) + rest.count ':' := by
  obtain ⟨body, inside, rfl⟩ := readSeparator_some read
  rw [List.count_append, none body inside]
  by_cases later : 0 < index <;> simp [later]

/-- Every group but the first takes a colon from the input, except that an IPv4
address makes two groups.

Proof: induct on the number of groups that remain, for any position. -/
theorem readGroups_colons (remaining index : Nat) (input : List Char) :
    (readGroups remaining index input).1.length + (readGroups remaining index input).2.2.count ':' ≤
        input.count ':' + 1 + (if 0 < index then 0 else 1) ∧
      (readGroups remaining index input).2.2.count ':' ≤ input.count ':' := by
  induction remaining generalizing index input with
  | zero =>
    simp only [readGroups, List.length_nil, Nat.zero_add]
    omega
  | succ remaining inductionHypothesis =>
    unfold readGroups
    split
    · rename_i ipv4 rest embedded
      have read : readSeparator ':' index readIpv4Addr input = some (ipv4, rest) := by
        split at embedded
        · exact embedded
        · cases embedded
      have taken := count_colon_readSeparator read fun body => count_colon_readIpv4Addr
      simp only [groupsOf, List.length_cons, List.length_nil]
      by_cases later : 0 < index
      · rw [if_pos later] at taken ⊢
        omega
      · rw [if_neg later] at taken ⊢
        omega
    · split
      · rename_i group rest read
        have taken := count_colon_readSeparator read fun body => count_colon_readGroup
        obtain ⟨more, fewer⟩ := inductionHypothesis (index + 1) rest
        generalize readGroups remaining (index + 1) rest = found at more fewer
        obtain ⟨groups, ipv4, left⟩ := found
        rw [if_pos (Nat.succ_pos index)] at more
        simp only [List.length_cons] at more fewer ⊢
        by_cases later : 0 < index
        · rw [if_pos later] at taken ⊢
          omega
        · rw [if_neg later] at taken ⊢
          omega
      · simp only [List.length_nil, Nat.zero_add]
        omega

/-- An IPv6 address takes at least two colons from the input. -/
theorem readIpv6Addr_colons {ip : Ipv6Addr} (read : readIpv6Addr input = some (ip, rest)) :
    2 ≤ input.count ':' := by
  obtain ⟨⟨segments, remaining⟩, found, _⟩ := Option.bind_eq_some_iff.mp read
  obtain ⟨groups, colons⟩ := readGroups_colons 8 0 input
  unfold readIpv6Segments at found
  generalize readGroups 8 0 input = read at groups colons found
  obtain ⟨head, headIpv4, left⟩ := read
  dsimp only at groups colons found
  split at found
  · rename_i full
    rw [full] at groups
    simp only [Nat.lt_irrefl, if_false] at groups
    omega
  · split at found
    · cases found
    · split at found
      · simp only [List.count_cons_self] at colons
        omega
      · cases found

/-- A port is read from a colon and its digits. -/
theorem readPort_some {port : UInt16} (read : readPort input = some (port, rest)) :
    ∃ digits, input = ':' :: (digits ++ rest) ∧ port = (digitsValue 10 digits).toUInt16 := by
  obtain ⟨⟨_, body⟩, given, mapped⟩ := Option.bind_eq_some_iff.mp read
  obtain ⟨⟨value, remaining⟩, number, same⟩ := Option.map_eq_some_iff.mp mapped
  obtain ⟨rfl, rfl⟩ := Prod.mk.inj same
  obtain ⟨digits, split, _, _, evaluated, _⟩ := readNumber_some number
  have whole : input = ':' :: body := readGivenChar_some given
  exact ⟨digits, by rw [whole, split], by rw [evaluated]⟩

theorem readGivenChar_none {given : Char} (differs : input.head? ≠ some given) :
    readGivenChar given input = none := by
  cases input with
  | nil => rfl
  | cons first remaining =>
    have other : first ≠ given := by simpa using differs
    rw [readGivenChar, if_neg other]

/-- The text of a socket address without brackets is read as an IPv4 one. -/
theorem parseSocketAddr_some {address : SocketAddr} (unbracketed : input.head? ≠ some '[')
    (parsed : parseSocketAddr input = some address) :
    ∃ ip port digits, address = .v4 ip port ∧ input = ip.chars ++ ':' :: digits ∧
      port = (digitsValue 10 digits).toUInt16 := by
  have noV6 : readSocketAddrV6 input = none := by
    simp [readSocketAddrV6, readGivenChar_none unbracketed]
  unfold parseSocketAddr parseWith orElse at parsed
  rw [noV6, Option.or_none] at parsed
  cases read : readSocketAddrV4 input with
  | none => simp [read] at parsed
  | some found =>
    obtain ⟨value, left⟩ := found
    cases left with
    | cons _ _ => simp [read] at parsed
    | nil =>
      obtain rfl : value = address := by simpa [read] using parsed
      simp only [readSocketAddrV4, Option.bind_eq_bind, Option.bind_eq_some_iff, Option.pure_def,
        Option.some.injEq, Prod.exists, Prod.mk.injEq] at read
      obtain ⟨ip, middle, readIp, port, last, readPort, rfl, rfl⟩ := read
      obtain ⟨digits, rfl, value⟩ := readPort_some readPort
      exact ⟨ip, port, digits, rfl, by simpa using readIpv4Addr_some readIp, value⟩

/-- A text that begins neither with a bracket nor with an IPv4 address is no socket
address. -/
theorem parseSocketAddr_none (unbracketed : input.head? ≠ some '[')
    (noV4 : readIpv4Addr input = none) : parseSocketAddr input = none := by
  simp [parseSocketAddr, parseWith, orElse, readSocketAddrV4, noV4, readSocketAddrV6,
    readGivenChar_none unbracketed]

theorem Ipv4Addr.chars_ne_nil (ip : Ipv4Addr) : ip.chars ≠ [] := by
  simp [Ipv4Addr.chars]

/-- Nothing that begins with a bracket begins with an IPv4 address. -/
theorem readIpv4Addr_bracket : readIpv4Addr ('[' :: input) = none := by
  cases read : readIpv4Addr ('[' :: input) with
  | none => rfl
  | some found =>
    have text := readIpv4Addr_some read
    have leading : found.1.chars.head? = some '[' := by
      cases chars : found.1.chars with
      | nil => exact absurd chars found.1.chars_ne_nil
      | cons first rest =>
        rw [chars] at text
        rw [(List.cons.inj text).1]
        rfl
    exact absurd (List.mem_of_mem_head? leading)
      (found.1.not_mem_chars (by decide) (by decide))

/-- A bracketed text is read as an IPv6 socket address only. -/
theorem parseSocketAddr_bracket {address : SocketAddr}
    (parsed : parseSocketAddr ('[' :: input) = some address) :
    ∃ ip port, address = .v6 ip port := by
  have noV4 : readSocketAddrV4 ('[' :: input) = none := by
    simp [readSocketAddrV4, readIpv4Addr_bracket]
  unfold parseSocketAddr parseWith orElse at parsed
  rw [noV4, Option.none_or] at parsed
  cases read : readSocketAddrV6 ('[' :: input) with
  | none => simp [read] at parsed
  | some found =>
    obtain ⟨value, left⟩ := found
    cases left with
    | cons _ _ => simp [read] at parsed
    | nil =>
      obtain rfl : value = address := by simpa [read] using parsed
      simp only [readSocketAddrV6, Option.bind_eq_bind, Option.bind_eq_some_iff, Option.pure_def,
        Option.some.injEq, Prod.exists, Prod.mk.injEq] at read
      obtain ⟨_, _, _, ip, _, _, _, _, _, port, _, _, rfl, _⟩ := read
      exact ⟨ip, port, rfl⟩

theorem readIpv6Addr_bracket : readIpv6Addr ('[' :: input) = none := by
  have noGroup : readGroup ('[' :: input) = none := rfl
  have groups : readGroups 8 0 ('[' :: input) = ([], false, '[' :: input) := by
    simp [readGroups, readSeparator, readIpv4Addr_bracket, noGroup]
  simp [readIpv6Addr, readIpv6Segments, groups]

/-- A text that reads as an IPv6 address has two colons. -/
theorem parseIpAddr_colons {ip : Ipv6Addr} (parsed : parseIpAddr input = some (.v6 ip)) :
    2 ≤ input.count ':' := by
  unfold parseIpAddr parseWith orElse at parsed
  cases first : readIpv4Addr input with
  | some found =>
    obtain ⟨ipv4, left⟩ := found
    cases left <;> simp [first] at parsed
  | none =>
    cases second : readIpv6Addr input with
    | none => simp [first, second] at parsed
    | some found => exact readIpv6Addr_colons second

end Reading

end Brewmble.IpAddress
