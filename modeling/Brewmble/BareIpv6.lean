import Brewmble.Ipv6Text
import Brewmble.UrlText

/-!
# IPv6 addresses without brackets and port

A bare IPv6 address may be meant with a port. The source takes the last group for one
if it is all decimal digits and the text has more than two colons, although the whole
reads as an address. What is left before it is then put in brackets.

This remains an address only where zeros are left out of the text and at least two
groups are shown after them. Otherwise a group is missing or a single colon is left at
the end, and the URL names a host that is no address.
-/

namespace Brewmble.BareIpv6

open IpAddress Numerals ResolveUrl

/-- A decimal number that fits a port. -/
structure IsPort (text : List Char) : Prop where
  present : text ≠ []
  digits : text.all isAsciiDigit = true
  bounded : digitsValue 10 text ≤ 65535

/-- The text of an IPv6 address. -/
def IsHost (text : List Char) : Prop := ∃ ip, parseIpAddr text = some (.v6 ip)

/-- The URL of a bare address is that of the address, or of a host and a port that its
text consists of, and no bracketed host in it is anything but an address. -/
structure WellResolved (ip : Ipv6Addr) : Prop where
  form : resolveUrl (String.ofList ip.chars) = String.ofList (https ++ '[' :: ip.chars ++ [']']) ∨
    ∃ host port, ip.chars = host ++ ':' :: port ∧ IsHost host ∧ IsPort port ∧
      resolveUrl (String.ofList ip.chars) = String.ofList (bracketed host port)
  named : ∀ host rest, ']' ∉ host →
    resolveUrl (String.ofList ip.chars) = String.ofList (https ++ '[' :: host ++ ']' :: rest) →
    IsHost host

/-- The run of zeros that is left out of the text, if there are at least two of them. -/
def leftOut (ip : Ipv6Addr) : Span := longestZeros ⟨0, 0⟩ ⟨0, 0⟩ 0 ip.segments

/-- The last group of the text is taken for a port, and what is before it is no address:
its digits are decimal, no IPv4 address is embedded, and either nothing is left out or
this begins after at least two groups and at most one group follows it. -/
structure Misread (ip : Ipv6Addr) : Prop where
  unmapped : toIpv4Mapped ip.segments = none
  decimal : ∀ last ∈ ip.segments.getLast?, (hexadecimal last.toNat).all isAsciiDigit = true
  placed : 1 < (leftOut ip).len → 2 ≤ (leftOut ip).start ∧ 7 ≤ (leftOut ip).start + (leftOut ip).len

section Digits

theorem isDigitOf_isAsciiDigit {char : Char} (digit : isAsciiDigit char = true) :
    isDigitOf 10 char = true := by
  obtain ⟨least, most⟩ : '0' ≤ char ∧ char ≤ '9' := by simpa [isAsciiDigit] using digit
  have small : char.toNat ≤ '9'.toNat := most
  have value : char.toNat - 48 < 10 := by
    have nine : '9'.toNat = 57 := rfl
    omega
  simp [isDigitOf, toDigit, digitOf, least, most, Option.filter, value]

/-- Decimal digits have a smaller value in radix ten than in radix sixteen. -/
theorem valueFrom_ten_le (digits : List Char) (allDigits : ∀ char ∈ digits, isDigitOf 10 char = true)
    {value larger : Nat} (order : value ≤ larger) :
    valueFrom 10 value digits ≤ valueFrom 16 larger digits := by
  induction digits generalizing value larger with
  | nil => exact order
  | cons first rest inductionHypothesis =>
    obtain ⟨here, others⟩ := List.forall_mem_cons.mp allDigits
    obtain ⟨digit, read⟩ := Option.isSome_iff_exists.mp here
    obtain ⟨small, written⟩ := digitChar_of_toDigit (by decide) read
    have sixteen : toDigit 16 first = some digit := by
      rw [written]
      exact toDigit_digitChar (Nat.le_refl 16) (by omega)
    have grown : value * 10 + digit ≤ larger * 16 + digit := by omega
    simpa [valueFrom, read, sixteen] using inductionHypothesis others grown

/-- A group that is all decimal digits is a port. -/
theorem isPort_hexadecimal {group : UInt16}
    (digits : (hexadecimal group.toNat).all isAsciiDigit = true) :
    IsPort (hexadecimal group.toNat) := by
  refine ⟨Nat.toDigits_ne_nil, digits, ?_⟩
  have allDigits : ∀ char ∈ hexadecimal group.toNat, isDigitOf 10 char = true :=
    fun char member => isDigitOf_isAsciiDigit (List.all_eq_true.mp digits char member)
  calc
    digitsValue 10 (hexadecimal group.toNat) ≤ digitsValue 16 (hexadecimal group.toNat) :=
      valueFrom_ten_le _ allDigits (Nat.le_refl 0)
    _ = group.toNat := digitsValue_toDigits (by decide) (by decide) _
    _ ≤ 65535 := Nat.le_of_lt_succ group.toNat_lt

end Digits

section Hosts

/-- A text with a colon after its first digits is an address if it reads as one. -/
theorem isHost_iff {text before after : List Char} (colon : text = before ++ ':' :: after)
    (digits : ∀ char ∈ before, isDigitOf 16 char = true) :
    IsHost text ↔ ∃ segments, readIpv6Segments text = some (segments, []) ∧ segments.length = 8 := by
  have noIpv4 : readIpv4Addr text = none := readIpv4Addr_dotless colon digits (by decide) (by decide)
  have whole : parseIpAddr text = parseWith (fun input =>
      (readIpv6Addr input).map fun found => (IpAddr.v6 found.1, found.2)) text := by
    simp [parseIpAddr, parseWith, orElse, noIpv4]
  rw [IsHost, whole]
  cases read : readIpv6Segments text with
  | none => simp [parseWith, readIpv6Addr, read]
  | some found =>
    obtain ⟨segments, rest⟩ := found
    by_cases eight : segments.length = 8
    · cases rest <;> simp [parseWith, readIpv6Addr, read, eight]
    · simp [parseWith, readIpv6Addr, read, eight]

/-- Too few groups with nothing left out are no address. -/
theorem readIpv6Segments_short {groups : List UInt16} {rest : List Char} (short : groups.length < 8)
    (closes : Closes rest) (single : ∀ more, rest ≠ ':' :: ':' :: more) :
    readIpv6Segments (segmentChars groups ++ rest) = none := by
  have read := readGroups_segmentChars groups 8 (Nat.le_of_lt short) closes
  have few : groups.length ≠ 8 := Nat.ne_of_lt short
  simp only [readIpv6Segments, read, few, if_false, Bool.false_eq_true]

theorem segmentChars_concat {segments : List UInt16} (present : segments ≠ []) (last : UInt16) :
    segmentChars (segments ++ [last]) = segmentChars segments ++ ':' :: hexadecimal last.toNat := by
  induction segments using segmentChars.induct with
  | case1 => exact absurd rfl present
  | case2 segment => simp [segmentChars]
  | case3 segment rest more inductionHypothesis =>
    have others : rest ++ [last] ≠ [] := by simp
    rw [List.cons_append, segmentChars.eq_3 _ _ others, segmentChars.eq_3 _ _ more,
      inductionHypothesis more, List.append_assoc, List.cons_append]

/-- Fewer than eight groups are no address. -/
theorem not_isHost_groups {groups : List UInt16} {last : UInt16} (few : groups.length < 7)
    (present : groups ≠ []) : ¬ IsHost (segmentChars (groups ++ [last])) := by
  obtain ⟨before, after, colon, digits⟩ := segments_colon_first groups (hexadecimal last.toNat)
  have short : (groups ++ [last]).length < 8 := by
    rw [List.length_append]
    exact Nat.succ_lt_succ few
  have unread := readIpv6Segments_short short (.inl rfl) (fun _ => by simp)
  rw [List.append_nil] at unread
  rw [isHost_iff (segmentChars_concat present last ▸ colon) digits, unread]
  simp

/-- Groups with a single colon after them are no address. -/
theorem not_isHost_colon {groups : List UInt16} (few : groups.length < 8) :
    ¬ IsHost (segmentChars groups ++ [':']) := by
  obtain ⟨before, after, colon, digits⟩ := segments_colon_first groups []
  rw [isHost_iff colon digits, readIpv6Segments_short few (.inr ends_colon) (fun _ => by simp)]
  simp

/-- Groups around two colons are an address. -/
theorem isHost_around {before after : List UInt16} (fits : before.length + after.length ≤ 7) :
    IsHost (segmentChars before ++ ':' :: ':' :: segmentChars after) := by
  obtain ⟨start, rest, colon, digits⟩ := segments_colon_first before (':' :: segmentChars after)
  have read := readIpv6Segments_around fits (.inl rfl)
  rw [List.append_nil] at read
  refine (isHost_iff colon digits).mpr ⟨_, read, ?_⟩
  simp [joinGroups]
  omega

theorem isHost_chars (ip : Ipv6Addr) : IsHost ip.chars := by
  obtain ⟨before, after, colon, digits⟩ := ip.colon_first
  have noIpv4 : readIpv4Addr ip.chars = none := readIpv4Addr_dotless colon digits (by decide) (by decide)
  have read := readIpv6Addr_chars ip (.inl rfl)
  rw [List.append_nil] at read
  exact ⟨ip, by simp [parseIpAddr, parseWith, orElse, noIpv4, read]⟩

end Hosts

section Resolving

variable {ip : Ipv6Addr} {host port : List Char}

/-- How a bare address is resolved, by the parts at its last colon. -/
theorem resolve_bare (text : ip.chars = host ++ ':' :: port) (noColon : ':' ∉ port) :
    resolveChars ip.chars =
      if 2 < ip.chars.count ':' ∧ port.all isAsciiDigit = true then bracketed host port
      else https ++ '[' :: ip.chars ++ [']'] := by
  have head (char : Char) (noDigit : isDigitOf 16 char = false) (noColon : char ≠ ':')
      (noDot : char ≠ '.') : ip.chars.head? ≠ some char :=
    fun leading => ip.not_mem_chars noDigit noColon noDot (List.mem_of_mem_head? leading)
  have noHttp : http.isPrefixOf ip.chars = false :=
    scheme_not_prefix_of_head (head 'h' (by decide) (by decide) (by decide)) _
  have noHttps : https.isPrefixOf ip.chars = false :=
    scheme_not_prefix_of_head (head 'h' (by decide) (by decide) (by decide)) _
  obtain ⟨before, after, colon, digits⟩ := ip.colon_first
  have noIpv4 : readIpv4Addr ip.chars = none := readIpv4Addr_dotless colon digits (by decide) (by decide)
  have noSocket : parseSocketAddr ip.chars = none :=
    parseSocketAddr_none (head '[' (by decide) (by decide) (by decide)) noIpv4
  have read := readIpv6Addr_chars ip (.inl rfl)
  rw [List.append_nil] at read
  have parsed : parseIpAddr ip.chars = some (.v6 ip) := by
    simp [parseIpAddr, parseWith, orElse, noIpv4, read]
  have parts : rsplitOnce ':' ip.chars = some (host, port) := by
    rw [text]
    exact rsplitOnce_append noColon
  simp only [resolveChars, noHttp, noHttps, Bool.or_self, Bool.false_eq_true, if_false, noSocket,
    parsed, parts]
  by_cases many : 2 < ip.chars.count ':' <;> by_cases decimal : port.all isAsciiDigit = true <;>
    simp [many, decimal]

/-- A URL names one bracketed host. -/
theorem bracketed_inj {first second before after : List Char} (outside : ']' ∉ first)
    (inside : ']' ∉ second)
    (same : https ++ '[' :: first ++ ']' :: before = https ++ '[' :: second ++ ']' :: after) :
    first = second ∧ before = after := by
  have opened : first ++ ']' :: before = second ++ ']' :: after := by
    simpa using same
  have parts : some (first, before) = some (second, after) := by
    rw [← splitOnce_append outside, opened, splitOnce_append inside]
  exact Prod.mk.inj (Option.some.inj parts)

/-- A bare address is resolved well exactly when what is taken for host and port, if
anything is, is a host and a port. -/
theorem wellResolved_iff (text : ip.chars = host ++ ':' :: port) (noColon : ':' ∉ port) :
    WellResolved ip ↔
      (2 < ip.chars.count ':' → port.all isAsciiDigit = true → IsHost host ∧ IsPort port) := by
  have closing : ']' ∉ ip.chars := ip.not_mem_chars (by decide) (by decide) (by decide)
  have hostClosing : ']' ∉ host := by
    intro member
    exact closing (text ▸ List.mem_append_left _ member)
  have resolved := resolve_bare text noColon
  have urls {url : List Char} : resolveUrl (String.ofList ip.chars) = String.ofList url ↔
      resolveChars ip.chars = url := by
    rw [resolveUrl, String.toList_ofList, String.ofList_inj]
  by_cases taken : 2 < ip.chars.count ':' ∧ port.all isAsciiDigit = true
  · rw [if_pos taken] at resolved
    have split : bracketed host port = https ++ '[' :: host ++ ']' :: ':' :: port := rfl
    constructor
    · intro well _ _
      have valid : IsHost host := well.named host (':' :: port) hostClosing (urls.mpr resolved)
      obtain whole | ⟨other, number, consists, _, isPort, made⟩ := well.form
      · have same := (bracketed_inj hostClosing closing
          (split ▸ resolved.symm.trans (urls.mp whole))).2
        cases same
      · have otherClosing : ']' ∉ other := by
          intro member
          exact closing (consists ▸ List.mem_append_left _ member)
        have same := (bracketed_inj hostClosing otherClosing
          (show bracketed host port = bracketed other number from
            resolved.symm.trans (urls.mp made))).2
        exact ⟨valid, (List.cons.inj same).2 ▸ isPort⟩
    · intro valid
      obtain ⟨isHost, isPort⟩ := valid taken.1 taken.2
      refine ⟨.inr ⟨host, port, text, isHost, isPort, urls.mpr resolved⟩, ?_⟩
      intro other rest outside names
      have same := (bracketed_inj hostClosing outside
        (split ▸ resolved.symm.trans (urls.mp names))).1
      exact same ▸ isHost
  · rw [if_neg taken] at resolved
    constructor
    · intro _ many decimal
      exact absurd ⟨many, decimal⟩ taken
    · intro _
      refine ⟨.inl (urls.mpr resolved), ?_⟩
      intro other rest outside names
      have same := (bracketed_inj closing outside (resolved.symm.trans (urls.mp names))).1
      exact same ▸ isHost_chars ip

end Resolving

section Shapes

/-- The forms of a displayed address, with its last group apart. -/
inductive Shape (ip : Ipv6Addr) : Prop
  | mapped (ipv4 : Ipv4Addr) (embedded : toIpv4Mapped ip.segments = some ipv4)
      (text : ip.chars = [':', ':', 'f', 'f', 'f', 'f'] ++ ':' :: ipv4.chars)
  | whole (groups : List UInt16) (last : UInt16) (unmapped : toIpv4Mapped ip.segments = none)
      (short : (leftOut ip).len ≤ 1) (segments : ip.segments = groups ++ [last])
      (text : ip.chars = segmentChars (groups ++ [last]))
  | shortened (before after : List UInt16) (unmapped : toIpv4Mapped ip.segments = none)
      (long : 1 < (leftOut ip).len)
      (segments : ip.segments = before ++ List.replicate (leftOut ip).len 0 ++ after)
      (start : before.length = (leftOut ip).start)
      (text : ip.chars = segmentChars before ++ ':' :: ':' :: segmentChars after)

theorem chars_shape (ip : Ipv6Addr) : Shape ip := by
  cases found : toIpv4Mapped ip.segments with
  | some ipv4 =>
    refine .mapped ipv4 found ?_
    simp [Ipv6Addr.chars, found]
  | none =>
    by_cases long : 1 < (leftOut ip).len
    · obtain ⟨segments, start⟩ := zeros_split (leftOut_zeros ip)
      refine .shortened _ _ found long segments start ?_
      rw [leftOut] at long
      simp [Ipv6Addr.chars, found, long]
    · have present : ip.segments ≠ [] := by
        intro empty
        simpa [empty] using ip.eight
      have segments := List.dropLast_append_getLast present
      refine .whole _ _ found (Nat.le_of_not_lt long) segments.symm ?_
      rw [segments]
      rw [leftOut] at long
      simp [Ipv6Addr.chars, found, long]

variable {ip : Ipv6Addr}

/-- An embedded IPv4 address is not taken for a port. -/
theorem mapped_resolved {ipv4 : Ipv4Addr} (embedded : toIpv4Mapped ip.segments = some ipv4)
    (text : ip.chars = [':', ':', 'f', 'f', 'f', 'f'] ++ ':' :: ipv4.chars) :
    WellResolved ip ↔ ¬ Misread ip := by
  have noColon : ':' ∉ ipv4.chars := ipv4.not_mem_chars (by decide) (by decide)
  have dotted : ipv4.chars.all isAsciiDigit = false := by
    rw [List.all_eq_false]
    refine ⟨'.', ?_, by decide⟩
    simp [Ipv4Addr.chars]
  rw [wellResolved_iff text noColon, dotted]
  constructor
  · intro _ misread
    rw [misread.unmapped] at embedded
    cases embedded
  · rintro _ _ ⟨⟩

theorem hexadecimal_no_colon (group : UInt16) : ':' ∉ hexadecimal group.toNat :=
  List.count_eq_zero.mp (count_colon_hexadecimal group.toNat)

/-- Seven of eight groups are no host. -/
theorem whole_resolved {groups : List UInt16} {last : UInt16}
    (unmapped : toIpv4Mapped ip.segments = none) (short : (leftOut ip).len ≤ 1)
    (segments : ip.segments = groups ++ [last])
    (text : ip.chars = segmentChars (groups ++ [last])) : WellResolved ip ↔ ¬ Misread ip := by
  have seven : groups.length = 7 := by
    have eight := ip.eight
    rw [segments, List.length_append] at eight
    exact Nat.succ.inj eight
  have present : groups ≠ [] := by
    rintro rfl
    cases seven
  have parts : ip.chars = segmentChars groups ++ ':' :: hexadecimal last.toNat := by
    rw [text, segmentChars_concat present]
  have many : 2 < ip.chars.count ':' := by
    rw [text, count_colon_segmentChars, List.length_append, seven, List.length_singleton]
    decide
  have noHost : ¬ IsHost (segmentChars groups) := by
    obtain ⟨others, final, rfl⟩ := (List.eq_nil_or_concat' groups).resolve_left present
    have six : others.length = 6 := by
      rw [List.length_append] at seven
      exact Nat.succ.inj seven
    apply not_isHost_groups (by omega)
    rintro rfl
    cases six
  rw [wellResolved_iff parts (hexadecimal_no_colon last)]
  constructor
  · intro resolved misread
    have decimal := misread.decimal last (by simp [segments])
    exact noHost (resolved many decimal).1
  · intro readWell _ decimal
    refine absurd ⟨unmapped, ?_, fun long => absurd long (Nat.not_lt.mpr short)⟩ readWell
    intro group final
    obtain rfl : last = group := by simpa [segments] using final
    exact decimal

/-- What is before the last colon, after at most one group, ends in a single colon. -/
theorem shortened_single {before after : List UInt16} (unmapped : toIpv4Mapped ip.segments = none)
    (long : 1 < (leftOut ip).len)
    (segments : ip.segments = before ++ List.replicate (leftOut ip).len 0 ++ after)
    (start : before.length = (leftOut ip).start)
    (text : ip.chars = segmentChars before ++ ':' :: ':' :: segmentChars after)
    (single : after.length ≤ 1) : WellResolved ip ↔ ¬ Misread ip := by
  have lengths : before.length + (leftOut ip).len + after.length = 8 := by
    rw [← ip.eight, segments]
    simp [Nat.add_assoc]
  have parts : ip.chars = (segmentChars before ++ [':']) ++ ':' :: segmentChars after := by
    rw [text, List.append_assoc, List.singleton_append]
  have noColon : ':' ∉ segmentChars after := by
    rw [← List.count_eq_zero, count_colon_segmentChars]
    omega
  have colons : ip.chars.count ':' = before.length - 1 + 2 := by
    rw [text, List.count_append, List.count_cons_self, List.count_cons_self,
      List.count_eq_zero.mpr noColon, count_colon_segmentChars]
  have noHost : ¬ IsHost (segmentChars before ++ [':']) := not_isHost_colon (by omega)
  have decimalLast : (∀ last ∈ ip.segments.getLast?, (hexadecimal last.toNat).all isAsciiDigit = true) ↔
      (segmentChars after).all isAsciiDigit = true := by
    match after, single with
    | [], _ =>
      have zero : ip.segments.getLast? = some 0 := by
        obtain ⟨count, more⟩ := Nat.exists_eq_add_of_lt long
        rw [segments, List.append_nil, more, List.replicate_succ']
        simp
      simp only [zero, Option.mem_some_iff, forall_eq', segmentChars, List.all_nil, iff_true]
      decide
    | [last], _ => simp [segments, segmentChars]
  rw [wellResolved_iff parts noColon]
  constructor
  · intro resolved misread
    have placed := misread.placed long
    exact noHost (resolved (by omega) (decimalLast.mp misread.decimal)).1
  · intro readWell many decimal
    exact absurd ⟨unmapped, decimalLast.mpr decimal, fun _ => by omega⟩ readWell

/-- What is before the last colon, after at least two groups, is a host. -/
theorem shortened_several {before after : List UInt16} (long : 1 < (leftOut ip).len)
    (segments : ip.segments = before ++ List.replicate (leftOut ip).len 0 ++ after)
    (start : before.length = (leftOut ip).start)
    (text : ip.chars = segmentChars before ++ ':' :: ':' :: segmentChars after)
    (several : 1 < after.length) : WellResolved ip ↔ ¬ Misread ip := by
  have lengths : before.length + (leftOut ip).len + after.length = 8 := by
    rw [← ip.eight, segments]
    simp [Nat.add_assoc]
  obtain rfl | ⟨groups, last, rfl⟩ := List.eq_nil_or_concat' after
  · simp at several
  rw [List.length_append, List.length_singleton] at several lengths
  have present : groups ≠ [] := by
    rintro rfl
    simp at several
  have parts : ip.chars =
      (segmentChars before ++ ':' :: ':' :: segmentChars groups) ++ ':' :: hexadecimal last.toNat := by
    rw [text, segmentChars_concat present]
    simp
  rw [wellResolved_iff parts (hexadecimal_no_colon last)]
  constructor
  · intro _ misread
    have placed := misread.placed long
    omega
  · intro _ _ decimal
    exact ⟨isHost_around (by omega), isPort_hexadecimal decimal⟩

end Shapes

/-- The URL of a bare IPv6 address is right exactly when its last group is not misread
as a port.

Proof: by the form of the text. What is before its last colon is an address only where
at least two groups follow the zeros that are left out. -/
theorem bare_resolved_iff (ip : Ipv6Addr) : WellResolved ip ↔ ¬ Misread ip := by
  cases chars_shape ip with
  | mapped ipv4 embedded text => exact mapped_resolved embedded text
  | whole groups last unmapped short segments text =>
    exact whole_resolved unmapped short segments text
  | shortened before after unmapped long segments start text =>
    by_cases single : after.length ≤ 1
    · exact shortened_single unmapped long segments start text single
    · exact shortened_several long segments start text (Nat.lt_of_not_le single)

/-- An address with nothing left out and a decimal last group. -/
def documented : Ipv6Addr := ⟨[0x2001, 0xdb8, 1, 2, 3, 4, 5, 6], rfl⟩

/-- Its first seven groups become the host. -/
theorem documented_misread : ¬ ∀ ip, WellResolved ip := by
  intro claimed
  have text : documented.chars = segmentChars ([0x2001, 0xdb8, 1, 2, 3, 4, 5] ++ [6]) := by decide
  have resolved : WellResolved documented ↔ ¬ Misread documented :=
    whole_resolved rfl (by decide) rfl text
  refine resolved.mp (claimed documented) ⟨rfl, ?_, by decide⟩
  rintro last ⟨⟩
  decide

end Brewmble.BareIpv6
