import Brewmble.AddressText
import Brewmble.ResolveUrl

/-!
# The URL of an address and its host and port

An address with a port is a host text, a colon and the port in decimal. A host
without colons is left as it is in the URL, whether or not it reads as an IPv4
address. An IPv6 text as host is put in brackets, whether or not the whole reads as
an IPv6 address. In both cases the host and port are found again in the URL.
-/

namespace Brewmble.ResolveUrl

open IpAddress Numerals

section Splitting

variable {separator : Char} {before after : List Char}

theorem splitOnce_append (without : separator ∉ before) :
    splitOnce separator (before ++ separator :: after) = some (before, after) := by
  induction before with
  | nil => simp [splitOnce]
  | cons first rest inductionHypothesis =>
    obtain ⟨differs, remaining⟩ : separator ≠ first ∧ separator ∉ rest := by simpa using without
    rw [List.cons_append, splitOnce, if_neg differs.symm, inductionHypothesis remaining]
    rfl

theorem rsplitOnce_none (without : separator ∉ after) : rsplitOnce separator after = none := by
  induction after with
  | nil => rfl
  | cons first rest inductionHypothesis =>
    obtain ⟨differs, remaining⟩ : separator ≠ first ∧ separator ∉ rest := by simpa using without
    rw [rsplitOnce, inductionHypothesis remaining]
    exact if_neg differs.symm

theorem rsplitOnce_append (without : separator ∉ after) :
    rsplitOnce separator (before ++ separator :: after) = some (before, after) := by
  induction before with
  | nil => simp [rsplitOnce, rsplitOnce_none without]
  | cons first rest inductionHypothesis =>
    rw [List.cons_append, rsplitOnce, inductionHypothesis]

theorem rsplitOnce_some {text : List Char} (split : rsplitOnce separator text = some (before, after)) :
    text = before ++ separator :: after := by
  induction text generalizing before with
  | nil => cases split
  | cons first rest inductionHypothesis =>
    rw [rsplitOnce] at split
    cases later : rsplitOnce separator rest with
    | some parts =>
      rw [later] at split
      obtain ⟨rfl, rfl⟩ := Prod.mk.inj (Option.some.inj split)
      rw [inductionHypothesis later, List.cons_append]
    | none =>
      rw [later] at split
      by_cases same : first = separator
      · simp only [same, if_true] at split
        obtain ⟨rfl, rfl⟩ := Prod.mk.inj (Option.some.inj split)
        rw [same, List.nil_append]
      · simp [same] at split

theorem stripPrefix_append (start text : List Char) : stripPrefix start (start ++ text) = some text := by
  induction start with
  | nil => rfl
  | cons first rest inductionHypothesis => simp [stripPrefix, inductionHypothesis]

theorem splitOncePair_append {first second : Char} (without : first ∉ before) :
    splitOncePair first second (before ++ first :: second :: after) = some (before, after) := by
  induction before with
  | nil => simp [splitOncePair, stripPrefix]
  | cons head rest inductionHypothesis =>
    obtain ⟨differs, remaining⟩ : first ≠ head ∧ first ∉ rest := by simpa using without
    rw [List.cons_append, splitOncePair, inductionHypothesis remaining]
    simp [stripPrefix, differs.symm]

end Splitting

section Port

variable (port : UInt16)

theorem isAsciiDigit_decimal : (decimal port.toNat).all isAsciiDigit = true := by
  rw [List.all_eq_true]
  intro char member
  obtain ⟨digit, small, rfl⟩ := digit_of_mem (by decide) port.toNat char member
  have digits : ∀ digit < 10, isAsciiDigit (Nat.digitChar digit) = true := by decide
  exact digits digit small

/-- Digits of a number within the bound are parsed one after another. -/
theorem parseDigits_eq (digits : List Char) (value : Nat)
    (allDigits : ∀ char ∈ digits, isDigitOf 10 char = true)
    (bounded : valueFrom 10 value digits ≤ 65535) :
    parseDigits value digits = .ok (valueFrom 10 value digits) := by
  induction digits generalizing value with
  | nil => rfl
  | cons first rest inductionHypothesis =>
    obtain ⟨digit, read⟩ := Option.isSome_iff_exists.mp (allDigits first List.mem_cons_self)
    have whole : valueFrom 10 value (first :: rest) = valueFrom 10 (value * 10 + digit) rest := by
      simp [valueFrom, read]
    rw [whole] at bounded ⊢
    have small : ¬ 65535 < value * 10 + digit := by
      have grows := le_valueFrom (show 0 < 10 by decide) (value * 10 + digit) rest
      omega
    rw [parseDigits, read]
    simp only [small, if_false]
    exact inductionHypothesis _ (fun char member => allDigits char (List.mem_cons_of_mem _ member))
      bounded

theorem digitsValue_decimal : digitsValue 10 (decimal port.toNat) = port.toNat :=
  digitsValue_toDigits (by decide) (by decide) port.toNat

theorem parsePort_decimal : parsePort (decimal port.toNat) = .ok port := by
  have unsigned : (decimal port.toNat).head? ≠ some '+' := by
    intro leading
    have member := List.mem_of_mem_head? leading
    exact ne_of_digit (decimal_digits _ '+' member) (by decide) rfl
  have bounded : valueFrom 10 0 (decimal port.toNat) ≤ 65535 := by
    have value := digitsValue_decimal port
    have range := port.toNat_lt
    rw [digitsValue] at value
    omega
  have parsed := parseDigits_eq (decimal port.toNat) 0 (decimal_digits _) bounded
  rw [← digitsValue, digitsValue_decimal] at parsed
  simp [parsePort, decimal_ne_nil, unsigned, parsed, Except.map]

theorem toUInt16_decimal : (digitsValue 10 (decimal port.toNat)).toUInt16 = port := by
  rw [digitsValue_decimal]
  exact UInt16.ofNat_toNat

theorem not_mem_decimal {char : Char} (noDigit : isDigitOf 10 char = false) :
    char ∉ decimal port.toNat := by
  intro member
  exact ne_of_digit (decimal_digits _ char member) noDigit rfl

end Port

section Resolving

variable {host : List Char} (port : UInt16)

/-- After a host without colons, a port is not the rest of a URL. -/
theorem scheme_not_prefix (scheme : List Char) (noColon : ':' ∉ host) :
    (scheme ++ [':', '/', '/']).isPrefixOf (host ++ ':' :: decimal port.toNat) = false := by
  rw [Bool.eq_false_iff]
  intro isPrefix
  obtain ⟨rest, whole⟩ := List.isPrefixOf_iff_prefix.mp isPrefix
  have split : host ++ ':' :: decimal port.toNat = scheme ++ ':' :: ('/' :: '/' :: rest) := by
    rw [← whole]
    simp
  obtain ⟨_, _, same⟩ :=
    (List.append_cons_inj_of_notMem noColon (not_mem_decimal port (by decide))).mp split
  have slash : '/' ∈ decimal port.toNat := by simp [same]
  exact not_mem_decimal port (by decide) slash

/-- A host without colons is left as it is.

Proof: if the whole reads as an IPv4 socket address, its text is that of the address
and the port. It does not read as an IPv6 address, which has two colons. -/
theorem resolve_host (noColon : ':' ∉ host) (noBracket : host.head? ≠ some '[') :
    resolveChars (host ++ ':' :: decimal port.toNat) = https ++ host ++ ':' :: decimal port.toNat := by
  have unbracketed : (host ++ ':' :: decimal port.toNat).head? ≠ some '[' := by
    cases host with
    | nil => simp
    | cons first rest => simpa using noBracket
  have noHttp : http.isPrefixOf (host ++ ':' :: decimal port.toNat) = false :=
    scheme_not_prefix port ['h', 't', 't', 'p'] noColon
  have noHttps : https.isPrefixOf (host ++ ':' :: decimal port.toNat) = false :=
    scheme_not_prefix port ['h', 't', 't', 'p', 's'] noColon
  have portColon : ':' ∉ decimal port.toNat := not_mem_decimal port (by decide)
  simp only [resolveChars, noHttp, noHttps, Bool.or_self, Bool.false_eq_true, if_false]
  cases parsed : parseSocketAddr (host ++ ':' :: decimal port.toNat) with
  | some address =>
    obtain ⟨ip, read, digits, rfl, text, value⟩ := parseSocketAddr_some unbracketed parsed
    obtain ⟨same, _, written⟩ := (List.append_cons_inj_of_notMem noColon portColon).mp text
    have samePort : read = port := by rw [value, ← written, toUInt16_decimal]
    simp only [samePort, same]
  | none =>
    have other : ∀ ip, parseIpAddr (host ++ ':' :: decimal port.toNat) ≠ some (.v6 ip) := by
      intro ip found
      have colons := parseIpAddr_colons found
      rw [List.count_append, List.count_cons_self, List.count_eq_zero_of_not_mem noColon,
        List.count_eq_zero_of_not_mem portColon] at colons
      omega
    dsimp only
    split
    · exact absurd ‹_› (other _)
    · rw [rsplitOnce_append portColon]
      simp [isAsciiDigit_decimal port, noColon]

/-- A text is no URL unless it begins with the first letter of the scheme. -/
theorem scheme_not_prefix_of_head {text : List Char} (differs : text.head? ≠ some 'h')
    (scheme : List Char) : ('h' :: scheme).isPrefixOf text = false := by
  cases text with
  | nil => rfl
  | cons first rest =>
    have other : 'h' ≠ first := by
      rintro rfl
      exact differs rfl
    simp [List.isPrefixOf, other]

/-- An IPv6 text is put in brackets.

Proof: it does not begin with an IPv4 address and is not bracketed itself, so it does
not read as a socket address. Whether or not the whole reads as an IPv6 address, the
part after its last colon is the port. -/
theorem resolve_v6 (ip : Ipv6Addr) :
    resolveChars (ip.chars ++ ':' :: decimal port.toNat) = bracketed ip.chars (decimal port.toNat) := by
  have portColon : ':' ∉ decimal port.toNat := not_mem_decimal port (by decide)
  have colons := ip.two_colons
  have head (char : Char) (noDigit : isDigitOf 16 char = false) (noColon : char ≠ ':')
      (noDot : char ≠ '.') : (ip.chars ++ ':' :: decimal port.toNat).head? ≠ some char := by
    intro leading
    cases chars : ip.chars with
    | nil => simp [chars] at colons
    | cons first rest =>
      have same : first = char := by simpa [chars] using leading
      exact ip.not_mem_chars noDigit noColon noDot (by simp [chars, same])
  have noHttp : http.isPrefixOf (ip.chars ++ ':' :: decimal port.toNat) = false :=
    scheme_not_prefix_of_head (head 'h' (by decide) (by decide) (by decide)) _
  have noHttps : https.isPrefixOf (ip.chars ++ ':' :: decimal port.toNat) = false :=
    scheme_not_prefix_of_head (head 'h' (by decide) (by decide) (by decide)) _
  have noSocket : parseSocketAddr (ip.chars ++ ':' :: decimal port.toNat) = none := by
    obtain ⟨before, after, text, digits⟩ := ip.colon_first
    apply parseSocketAddr_none (head '[' (by decide) (by decide) (by decide))
    have whole : ip.chars ++ ':' :: decimal port.toNat =
        before ++ ':' :: (after ++ ':' :: decimal port.toNat) := by simp [text]
    exact readIpv4Addr_dotless whole digits (by decide) (by decide)
  have many : 2 < (ip.chars ++ ':' :: decimal port.toNat).count ':' := by
    rw [List.count_append, List.count_cons_self]
    omega
  have hasColon : ':' ∈ ip.chars := List.count_pos_iff.mp (by omega)
  have noBracket : ip.chars.head? ≠ some '[' := by
    intro leading
    exact ip.not_mem_chars (by decide) (by decide) (by decide) (List.mem_of_mem_head? leading)
  simp only [resolveChars, noHttp, noHttps, Bool.or_self, Bool.false_eq_true, if_false, noSocket,
    rsplitOnce_append portColon, many, if_true, isAsciiDigit_decimal port]
  split
  · rfl
  · rw [if_pos ⟨hasColon, noBracket⟩]

/-- A bracketed IPv6 text remains the bracketed text of some address. -/
theorem resolve_bracketed (ip : Ipv6Addr) :
    ∃ (other : Ipv6Addr) (read : UInt16),
      resolveChars ('[' :: ip.chars ++ ']' :: ':' :: decimal port.toNat) =
        bracketed other.chars (decimal read.toNat) := by
  have portColon : ':' ∉ decimal port.toNat := not_mem_decimal port (by decide)
  have noHttp : http.isPrefixOf ('[' :: ip.chars ++ ']' :: ':' :: decimal port.toNat) = false :=
    scheme_not_prefix_of_head (by simp) _
  have noHttps : https.isPrefixOf ('[' :: ip.chars ++ ']' :: ':' :: decimal port.toNat) = false :=
    scheme_not_prefix_of_head (by simp) _
  have regrouped : '[' :: ip.chars ++ ']' :: ':' :: decimal port.toNat =
      ('[' :: ip.chars ++ [']']) ++ ':' :: decimal port.toNat := by simp
  cases parsed : parseSocketAddr ('[' :: ip.chars ++ ']' :: ':' :: decimal port.toNat) with
  | some address =>
    obtain ⟨other, read, rfl⟩ := parseSocketAddr_bracket parsed
    refine ⟨other, read, ?_⟩
    simp only [resolveChars, noHttp, noHttps, Bool.or_self, Bool.false_eq_true, if_false, parsed]
  | none =>
    refine ⟨ip, port, ?_⟩
    have noAddress : parseIpAddr ('[' :: ip.chars ++ ']' :: ':' :: decimal port.toNat) = none := by
      simp [parseIpAddr, parseWith, orElse, readIpv4Addr_bracket, readIpv6Addr_bracket]
    simp only [resolveChars, noHttp, noHttps, Bool.or_self, Bool.false_eq_true, if_false, parsed,
      noAddress]
    rw [regrouped, rsplitOnce_append portColon]
    simp [isAsciiDigit_decimal port, bracketed]

/-- A host without colons and brackets is found again with its port. -/
theorem parseHostPort_host (noColon : ':' ∉ host) (noBracket : host.head? ≠ some '[') :
    parseHostPort (https ++ host ++ ':' :: decimal port.toNat) = .ok (host, port) := by
  have unbracketed : stripPrefix ['['] (host ++ ':' :: decimal port.toNat) = none := by
    cases host with
    | nil => simp [stripPrefix]
    | cons first rest =>
      have other : first ≠ '[' := by simpa using noBracket
      simp [stripPrefix, other]
  rw [parseHostPort, List.append_assoc, stripPrefix_append]
  simp only [unbracketed, splitOnce_append noColon, parsePort_decimal]
  rfl

/-- A bracketed host is found again with its brackets and its port. -/
theorem parseHostPort_bracketed (noBracket : ']' ∉ host) :
    parseHostPort (bracketed host (decimal port.toNat)) = .ok ('[' :: host ++ [']'], port) := by
  have opened : stripPrefix ['['] ('[' :: (host ++ ']' :: ':' :: decimal port.toNat)) =
      some (host ++ ']' :: ':' :: decimal port.toNat) := stripPrefix_append ['['] _
  have regrouped : bracketed host (decimal port.toNat) =
      https ++ '[' :: (host ++ ']' :: ':' :: decimal port.toNat) := by simp [bracketed]
  rw [parseHostPort, regrouped, stripPrefix_append]
  simp only [opened, splitOncePair_append noBracket, parsePort_decimal]
  rfl

end Resolving

section Trimming

variable {char : Char} {text : List Char}

theorem trimStart_without (without : char ∉ text) : trimStart char text = text := by
  cases text with
  | nil => rfl
  | cons first rest =>
    obtain ⟨differs, _⟩ : char ≠ first ∧ char ∉ rest := by simpa using without
    simp [trimStart, differs.symm]

theorem trimEnd_without (without : char ∉ text) : trimEnd char text = text := by
  refine List.rdropWhile_eq_self_iff.mpr fun present last => ?_
  have same : text.getLast present = char := by simpa using last
  exact without (same ▸ List.getLast_mem present)

/-- The brackets of a host are trimmed from it. -/
theorem trim_bracketed {host : List Char} (opening : '[' ∉ host) (closing : ']' ∉ host) :
    trimEnd ']' (trimStart '[' ('[' :: host ++ [']'])) = host := by
  have start : trimStart '[' ('[' :: host ++ [']']) = trimStart '[' (host ++ [']']) := by
    simp [trimStart]
  have inside : '[' ∉ host ++ [']'] := by simp [opening]
  have finish : trimEnd ']' (host ++ [']']) = trimEnd ']' host := by
    exact List.rdropWhile_concat_pos _ _ _ (by simp)
  rw [start, trimStart_without inside, finish, trimEnd_without closing]

end Trimming

end Brewmble.ResolveUrl
