import Brewmble.Separators
import Brewmble.Numerals
import Brewmble.Pin
import Mathlib.Data.List.Forall2

/-!
# Fingerprints of certificates

The fingerprint of a certificate is the text of its digest: two hexadecimal digits for
each byte, with colons between the bytes. It is read back by splitting it at the
colons, so different digests have different fingerprints. All letters in it are lower
case, so this remains true of texts that are compared without regard to case.

The digest itself is a parameter. All that is assumed of it is that it has 32 bytes.
-/

namespace Brewmble.Fingerprints

open CliConfig Numerals Pin ResolveUrl Separators

/-- A digest has 32 bytes. -/
structure Digest where
  bytes : List UInt8
  sized : bytes.length = 32
  deriving DecidableEq

/-- `{:02x}`. -/
def hexByte (byte : UInt8) : List Char := (Nat.toDigits 16 byte.toNat).leftpad 2 '0'

/-- The bytes in hexadecimal with colons between them. -/
def hexText (digest : Digest) : List Char := [':'].intercalate (digest.bytes.map hexByte)

variable (sha256 : List UInt8 → Digest)

/-- `format_fingerprint`. -/
def formatFingerprint (der : List UInt8) : String := String.ofList (hexText (sha256 der))

/-- The text with some of its letters in the other case. -/
def CaseVariant (variant text : String) : Prop :=
  List.Forall₂ (fun char original : Char =>
    char = original ∨ char = original.toUpper ∨ char = original.toLower) variant.toList text.toList

section Reading

/-- Zeros before a numeral do not change its value. -/
theorem digitsValue_leftpad (width : Nat) (digits : List Char) :
    digitsValue 16 (digits.leftpad width '0') = digitsValue 16 digits := by
  have zeros : ∀ count, valueFrom 16 0 (List.replicate count '0') = 0 := by
    intro count
    induction count with
    | zero => rfl
    | succ count inductionHypothesis =>
      rw [List.replicate_succ, valueFrom, List.foldl_cons]
      exact inductionHypothesis
  rw [List.leftpad, digitsValue, valueFrom_append, zeros, digitsValue]

theorem hexByte_injective : Function.Injective hexByte := by
  intro first second same
  have values : digitsValue 16 (hexByte first) = digitsValue 16 (hexByte second) :=
    congrArg (digitsValue 16) same
  simp only [hexByte, digitsValue_leftpad, digitsValue_toDigits (by decide : 1 < 16) (by decide)]
    at values
  exact UInt8.toNat_inj.mp values

theorem hexByte_digits (byte : UInt8) :
    ∀ char ∈ hexByte byte, ∃ digit < 16, char = Nat.digitChar digit := by
  intro char member
  obtain padded | written := List.mem_append.mp member
  · exact ⟨0, by decide, List.eq_of_mem_replicate padded⟩
  · exact digit_of_mem (by decide) byte.toNat char written

theorem colon_not_hex (byte : UInt8) : ':' ∉ hexByte byte := by
  intro member
  obtain ⟨digit, small, same⟩ := hexByte_digits byte ':' member
  have different : ∀ digit < 16, Nat.digitChar digit ≠ ':' := by decide
  exact different digit small same.symm

/-- Different digests have different texts: the text is split at its colons. -/
theorem hexText_injective : Function.Injective hexText := by
  intro first second same
  have split : ∀ digest : Digest, (hexText digest).splitOn ':' = digest.bytes.map hexByte := by
    intro digest
    apply List.splitOn_intercalate ':'
    · intro text member
      obtain ⟨byte, _, rfl⟩ := List.mem_map.mp member
      exact colon_not_hex byte
    · intro empty
      have sized := digest.sized
      simp [List.map_eq_nil_iff.mp empty] at sized
  have bytes : first.bytes = second.bytes := by
    apply List.map_injective_iff.mpr hexByte_injective
    rw [← split first, ← split second, same]
  cases first
  cases second
  cases bytes
  rfl

theorem formatFingerprint_inj (first second : List UInt8) :
    formatFingerprint sha256 first = formatFingerprint sha256 second ↔
      sha256 first = sha256 second := by
  rw [formatFingerprint, formatFingerprint, String.ofList_inj]
  exact hexText_injective.eq_iff

end Reading

section Comparing

/-- A character that is in lower case, and that its upper case is made of. -/
def Lower (char : Char) : Prop := char.toLower = char ∧ char.toUpper.toLower = char

instance (char : Char) : Decidable (Lower char) := inferInstanceAs (Decidable (_ ∧ _))

/-- The letters of a fingerprint are in lower case. -/
theorem hexText_lower (digest : Digest) : ∀ char ∈ hexText digest, Lower char := by
  have digits : ∀ digit < 16, Lower (Nat.digitChar digit) := by decide
  intro char member
  obtain colon | ⟨text, listed, inside⟩ := mem_intercalate member
  · obtain rfl := List.mem_singleton.mp colon
    decide
  · obtain ⟨byte, _, rfl⟩ := List.mem_map.mp listed
    obtain ⟨digit, small, rfl⟩ := hexByte_digits byte char inside
    exact digits digit small

/-- A variant of a text in lower case is this text up to case. -/
theorem variant_lower {variant text : String} (varies : CaseVariant variant text)
    (lower : ∀ char ∈ text.toList, Lower char) : variant.toList.map Char.toLower = text.toList := by
  unfold CaseVariant at varies
  generalize variant.toList = chars, text.toList = originals at varies lower ⊢
  induction varies with
  | nil => rfl
  | cons here later inductionHypothesis =>
    obtain ⟨⟨first, raised⟩, others⟩ := List.forall_mem_cons.mp lower
    rw [List.map_cons, inductionHypothesis others]
    obtain rfl | rfl | rfl := here
    · rw [first]
    · rw [raised]
    · rw [first, first]

theorem variant_refl (text : String) : CaseVariant text text :=
  List.forall₂_same.mpr fun _ _ => .inl rfl

/-- A variant of the fingerprint of one certificate agrees with that of another exactly
when their digests do. -/
theorem variant_agrees {stored : String} {first : List UInt8}
    (varies : CaseVariant stored (formatFingerprint sha256 first)) (second : List UInt8) :
    eqIgnoreAsciiCase stored (formatFingerprint sha256 second) =
      decide (sha256 first = sha256 second) := by
  have lower : ∀ der, ∀ char ∈ (formatFingerprint sha256 der).toList, Lower char := by
    intro der
    rw [formatFingerprint, String.toList_ofList]
    exact hexText_lower (sha256 der)
  rw [eqIgnoreAsciiCase, variant_lower varies (lower first),
    variant_lower (variant_refl _) (lower second), decide_eq_decide, String.toList_inj,
    formatFingerprint_inj]

/-- With a stored variant of one fingerprint the certificates with its digest match and
all others are refused, and nothing is learned. -/
theorem stored_decides {node : NodeConfig} {stored : String} {first : List UInt8}
    (pinned : node.fingerprint = some stored)
    (varies : CaseVariant stored (formatFingerprint sha256 first)) {address : String}
    {fetch : String → Except String String} {second : List UInt8}
    (observed : fetch (resolveUrl address) = .ok (formatFingerprint sha256 second)) :
    checkPinWithFetcher node address fetch =
      if sha256 first = sha256 second then .ok .matched
      else .error (mismatchMessage node stored (formatFingerprint sha256 second)) := by
  have agrees := variant_agrees sha256 varies second
  by_cases same : sha256 first = sha256 second <;>
    simp [checkPinWithFetcher, observed, pinned, agrees, same, bind, Except.bind, pure, Except.pure]

/-- A check that observes the fingerprint of a certificate compares digests. With a
stored fingerprint, in whatever case its letters are, the certificate matches exactly
if it has the digest of the stored one, and is refused otherwise. Without one its
fingerprint is learned, and once stored it matches exactly the certificates with the
same digest. -/
theorem pin_compares_digests (node : NodeConfig) (address : String) (der : List UInt8)
    (fetch : String → Except String String)
    (observed : fetch (resolveUrl address) = .ok (formatFingerprint sha256 der)) :
    (∀ (pinnedDer : List UInt8) (stored : String), node.fingerprint = some stored →
      CaseVariant stored (formatFingerprint sha256 pinnedDer) →
      checkPinWithFetcher node address fetch =
        if sha256 pinnedDer = sha256 der then .ok .matched
        else .error (mismatchMessage node stored (formatFingerprint sha256 der))) ∧
    (node.fingerprint = none →
      ∃ learned, checkPinWithFetcher node address fetch = .ok (.learned learned) ∧
        ∀ (later : List UInt8) (place : String) (fetchLater : String → Except String String),
          fetchLater (resolveUrl place) = .ok (formatFingerprint sha256 later) →
          (checkPinWithFetcher { node with fingerprint := some learned } place fetchLater =
            .ok .matched ↔ sha256 later = sha256 der)) := by
  constructor
  · intro pinnedDer stored pinned varies
    exact stored_decides sha256 pinned varies observed
  · intro unpinned
    refine ⟨formatFingerprint sha256 der, ?_, ?_⟩
    · exact (learned_iff node address _ fetch).mpr ⟨unpinned, observed⟩
    · intro later place fetchLater seen
      have pinned : ({ node with fingerprint := some (formatFingerprint sha256 der) } :
          NodeConfig).fingerprint = some (formatFingerprint sha256 der) := rfl
      rw [stored_decides sha256 pinned (variant_refl _) seen]
      by_cases same : sha256 der = sha256 later
      · simp [same]
      · simp [same, Ne.symm same]

/-- The digests of two short inputs. -/
def knownDigests (der : List UInt8) : Digest :=
  if der = [0x61, 0x62, 0x63] then ⟨[0xba, 0x78, 0x16, 0xbf, 0x8f, 0x01, 0xcf, 0xea, 0x41, 0x41, 0x40, 0xde,
    0x5d, 0xae, 0x22, 0x23, 0xb0, 0x03, 0x61, 0xa3, 0x96, 0x17, 0x7a, 0x9c,
    0xb4, 0x10, 0xff, 0x61, 0xf2, 0x00, 0x15, 0xad], rfl⟩
  else ⟨[0xe3, 0xb0, 0xc4, 0x42, 0x98, 0xfc, 0x1c, 0x14, 0x9a, 0xfb, 0xf4, 0xc8,
    0x99, 0x6f, 0xb9, 0x24, 0x27, 0xae, 0x41, 0xe4, 0x64, 0x9b, 0x93, 0x4c,
    0xa4, 0x95, 0x99, 0x1b, 0x78, 0x52, 0xb8, 0x55], rfl⟩

/-- The fingerprint of the first input in capitals, as an operator may have copied it. -/
def copiedFingerprint : String :=
  String.ofList ((hexText (knownDigests [0x61, 0x62, 0x63])).map Char.toUpper)

/-- The copied fingerprint matches its own input and refuses the other one. -/
theorem copied_fingerprint_compared :
    checkPinWithFetcher ⟨some "web", "10.0.0.2:3625", some copiedFingerprint⟩ "10.0.0.2:3625"
        (fun _ => .ok (formatFingerprint knownDigests [0x61, 0x62, 0x63])) = .ok .matched ∧
      checkPinWithFetcher ⟨some "web", "10.0.0.2:3625", some copiedFingerprint⟩ "10.0.0.2:3625"
        (fun _ => .ok (formatFingerprint knownDigests [])) ≠ .ok .matched := by
  have varies : CaseVariant copiedFingerprint (formatFingerprint knownDigests [0x61, 0x62, 0x63]) := by
    simp only [CaseVariant, copiedFingerprint, formatFingerprint, String.toList_ofList,
      List.forall₂_map_left_iff]
    exact List.forall₂_same.mpr fun _ _ => .inr (.inl rfl)
  constructor
  · have compared := (pin_compares_digests knownDigests
      ⟨some "web", "10.0.0.2:3625", some copiedFingerprint⟩ "10.0.0.2:3625" [0x61, 0x62, 0x63]
      (fun _ => .ok (formatFingerprint knownDigests [0x61, 0x62, 0x63])) rfl).1 _ _ rfl varies
    simpa using compared
  · have compared := (pin_compares_digests knownDigests
      ⟨some "web", "10.0.0.2:3625", some copiedFingerprint⟩ "10.0.0.2:3625" []
      (fun _ => .ok (formatFingerprint knownDigests [])) rfl).1 _ _ rfl varies
    rw [if_neg (by decide)] at compared
    simp [compared]

end Comparing

end Brewmble.Fingerprints
