import Fireball.Tabs.Admission

/-!
# The hexadecimal codec

`encodeUrl` of `session/tab-control.mjs` writes what `DecodeHex` of
`session/fireball-session-runtime.cc` reads.

* `hexValue_some`, `hexDigit_of_hexValue`: the digits that are read;
* `hex_decodePairs`, `decodePairs_iff`: the loop, two characters at a time;
* `hex_codec`: the two are inverse to each other on `HexText`.
-/

namespace Fireball.Tabs

open Foundation

def isLowerHex (b : UInt8) : Bool :=
  ('0'.toUInt8 ≤ b && b ≤ '9'.toUInt8) || ('a'.toUInt8 ≤ b && b ≤ 'f'.toUInt8)

/-- The texts that `DecodeHex` reads. -/
structure HexText (s : Bytes) : Prop where
  nonempty : s ≠ []
  even : s.length % 2 = 0
  fits : s.length ≤ 2 * kMaximumUrlBytes
  digits : ∀ b ∈ s, isLowerHex b = true
  nonzero : ∀ i, s[2 * i]? = some '0'.toUInt8 → s[2 * i + 1]? ≠ some '0'.toUInt8

/-! ## One digit -/

theorem hexValue_some {b n : UInt8} (h : hexValue b = some n) :
    (48 ≤ b.toNat ∧ b.toNat ≤ 57 ∧ n.toNat = b.toNat - 48) ∨
      (97 ≤ b.toNat ∧ b.toNat ≤ 102 ∧ n.toNat = b.toNat - 87) := by
  have digits : '0'.toUInt8 = 48 ∧ '9'.toUInt8 = 57 ∧ 'a'.toUInt8 = 97 ∧ 'f'.toUInt8 = 102 := by decide
  obtain ⟨zero, nine, a, f⟩ := digits
  rw [hexValue, zero, nine, a, f] at h
  split at h
  · rename_i digit
    cases h
    obtain ⟨low, high⟩ := digit
    have low : 48 ≤ b.toNat := low
    have high : b.toNat ≤ 57 := high
    exact .inl ⟨low, high, UInt8.toNat_sub_of_le _ _ low⟩
  · split at h
    · rename_i letter
      cases h
      obtain ⟨low, high⟩ := letter
      have low : 97 ≤ b.toNat := low
      have high : b.toNat ≤ 102 := high
      have less : (b - 97).toNat = b.toNat - 97 := UInt8.toNat_sub_of_le _ _ low
      refine .inr ⟨low, high, ?_⟩
      rw [UInt8.toNat_add, less]
      have ten : (10 : UInt8).toNat = 10 := rfl
      omega
    · cases h

theorem hexValue_inj {a b n : UInt8} (first : hexValue a = some n) (second : hexValue b = some n) : a = b := by
  rw [← UInt8.toNat_inj]
  rcases hexValue_some first with ⟨_, _, _⟩ | ⟨_, _, _⟩ <;>
    rcases hexValue_some second with ⟨_, _, _⟩ | ⟨_, _, _⟩ <;> omega

/-- The digit that is read is the one that is written. -/
theorem hexDigit_of_hexValue {b n : UInt8} (h : hexValue b = some n) :
    n.toNat < 16 ∧ String.utf8EncodeChar (hexDigit n.toNat) = [b] := by
  have small : n.toNat < 16 := by
    rcases hexValue_some h with ⟨_, _, _⟩ | ⟨_, _, _⟩ <;> omega
  obtain ⟨written, one, value⟩ := hexValue_digit small
  rw [Nat.toUInt8_eq, UInt8.ofNat_toNat] at value
  exact ⟨small, hexValue_inj value h ▸ one⟩

theorem hexValue_isSome {b : UInt8} : (∃ n, hexValue b = some n) ↔ isLowerHex b = true := by
  simp only [hexValue, isLowerHex, Bool.or_eq_true, Bool.and_eq_true, decide_eq_true_eq]
  split
  · rename_i digit
    exact iff_of_true ⟨_, rfl⟩ (.inl digit)
  · rename_i other
    split
    · rename_i letter
      exact iff_of_true ⟨_, rfl⟩ (.inr letter)
    · rename_i neither
      exact iff_of_false (by simp) fun either => either.elim other neither

/-! ## Two digits -/

/-- The byte of two digits has them as its halves. -/
theorem byte_halves {high low : UInt8} (first : high.toNat < 16) (second : low.toNat < 16) :
    (high <<< 4 ||| low).toNat = 16 * high.toNat + low.toNat := by
  have byte := nibbles (UInt8.ofNat (16 * high.toNat + low.toNat))
  have small : (UInt8.ofNat (16 * high.toNat + low.toNat)).toNat = 16 * high.toNat + low.toNat :=
    UInt8.toNat_ofNat_of_lt (by rw [UInt8.size]; omega)
  have upper : (16 * high.toNat + low.toNat) / 16 = high.toNat := by omega
  have lower : (16 * high.toNat + low.toNat) % 16 = low.toNat := by omega
  rw [small, upper, lower, Nat.toUInt8_eq, Nat.toUInt8_eq, UInt8.ofNat_toNat, UInt8.ofNat_toNat] at byte
  rw [byte, small]

theorem hexValue_zero {b : UInt8} (h : hexValue b = some 0) : b = '0'.toUInt8 :=
  hexValue_inj h (by decide)

theorem zero_pair {high low h l : UInt8} (first : hexValue high = some h) (second : hexValue low = some l) :
    h <<< 4 ||| l = 0 ↔ high = '0'.toUInt8 ∧ low = '0'.toUInt8 := by
  obtain ⟨smallHigh, -⟩ := hexDigit_of_hexValue first
  obtain ⟨smallLow, -⟩ := hexDigit_of_hexValue second
  have byte := byte_halves smallHigh smallLow
  have zero : (0 : UInt8).toNat = 0 := rfl
  constructor
  · intro same
    rw [same, zero] at byte
    have noHigh : h = 0 := UInt8.toNat_inj.mp (by omega)
    have noLow : l = 0 := UInt8.toNat_inj.mp (by omega)
    exact ⟨hexValue_zero (noHigh ▸ first), hexValue_zero (noLow ▸ second)⟩
  · rintro ⟨rfl, rfl⟩
    have own : hexValue '0'.toUInt8 = some 0 := by decide
    cases own.symm.trans first
    cases own.symm.trans second
    rfl

/-! ## The loop -/

/-- What `DecodeHex` has read is the text of its result. -/
theorem hex_decodePairs {s b : Bytes} (even : s.length % 2 = 0) (h : decodePairs s = some b) :
    utf8 (hex b) = s ∧ 0 ∉ b := by
  induction s using decodePairs.induct generalizing b with
  | case1 high low rest ih =>
    rw [List.length_cons, List.length_cons] at even
    simp only [decodePairs, Option.bind_eq_bind, Option.bind_eq_some_iff] at h
    obtain ⟨upper, first, lower, second, h⟩ := h
    split at h
    · cases h
    · rename_i nonzero
      obtain ⟨bytes, read, eq⟩ := Option.bind_eq_some_iff.mp h
      cases eq
      obtain ⟨written, plain⟩ := ih (by omega) read
      obtain ⟨smallHigh, highText⟩ := hexDigit_of_hexValue first
      obtain ⟨smallLow, lowText⟩ := hexDigit_of_hexValue second
      have byte := byte_halves smallHigh smallLow
      have upperHalf : (upper <<< 4 ||| lower).toNat / 16 = upper.toNat := by omega
      have lowerHalf : (upper <<< 4 ||| lower).toNat % 16 = lower.toNat := by omega
      refine ⟨?_, ?_⟩
      · rw [hex, utf8_ofList] at written ⊢
        rw [List.flatMap_cons, upperHalf, lowerHalf, List.flatMap_append, written]
        simp [highText, lowText]
      · rw [List.mem_cons, not_or]
        exact ⟨Ne.symm nonzero, plain⟩
  | case2 s short =>
    have empty : s = [] := by
      rcases s with _ | ⟨x, _ | ⟨y, rest⟩⟩
      · rfl
      · simp at even
      · exact absurd rfl (short x y rest)
    subst empty
    cases h
    exact ⟨by decide, by simp⟩

theorem decodePairs_iff {s : Bytes} (even : s.length % 2 = 0) :
    (∃ b, decodePairs s = some b) ↔ (∀ b ∈ s, isLowerHex b = true) ∧
      ∀ i, s[2 * i]? = some '0'.toUInt8 → s[2 * i + 1]? ≠ some '0'.toUInt8 := by
  induction s using decodePairs.induct with
  | case1 high low rest ih =>
    rw [List.length_cons, List.length_cons] at even
    have pairs : (∀ i, (high :: low :: rest)[2 * i]? = some '0'.toUInt8 →
          (high :: low :: rest)[2 * i + 1]? ≠ some '0'.toUInt8) ↔
        (high = '0'.toUInt8 → low ≠ '0'.toUInt8) ∧
          ∀ i, rest[2 * i]? = some '0'.toUInt8 → rest[2 * i + 1]? ≠ some '0'.toUInt8 := by
      constructor
      · intro all
        refine ⟨by simpa using all 0, fun i => ?_⟩
        simpa [Nat.mul_add] using all (i + 1)
      · rintro ⟨here, others⟩ (_ | i)
        · simpa using here
        · simpa [Nat.mul_add] using others i
    rw [pairs, List.forall_mem_cons, List.forall_mem_cons, ← hexValue_isSome, ← hexValue_isSome]
    simp only [decodePairs, Option.bind_eq_bind, Option.bind_eq_some_iff]
    constructor
    · rintro ⟨b, upper, first, lower, second, h⟩
      split at h
      · cases h
      · rename_i nonzero
        obtain ⟨bytes, read, -⟩ := Option.bind_eq_some_iff.mp h
        obtain ⟨digits, others⟩ := (ih (by omega)).mp ⟨bytes, read⟩
        exact ⟨⟨⟨upper, first⟩, ⟨lower, second⟩, digits⟩,
          fun high low => nonzero ((zero_pair first second).mpr ⟨high, low⟩), others⟩
    · rintro ⟨⟨⟨upper, first⟩, ⟨lower, second⟩, digits⟩, here, others⟩
      obtain ⟨bytes, read⟩ := (ih (by omega)).mpr ⟨digits, others⟩
      have nonzero : ¬ upper <<< 4 ||| lower = 0 := fun zero =>
        have both := (zero_pair first second).mp zero
        here both.1 both.2
      refine ⟨(upper <<< 4 ||| lower) :: bytes, upper, first, lower, second, ?_⟩
      rw [if_neg nonzero, read]
      rfl
  | case2 s short =>
    have empty : s = [] := by
      rcases s with _ | ⟨x, _ | ⟨y, rest⟩⟩
      · rfl
      · simp at even
      · exact absurd rfl (short x y rest)
    subst empty
    exact iff_of_true ⟨[], rfl⟩ ⟨by simp, by simp⟩

/-! ## The codec -/

theorem decodeHex_some {s b : Bytes} : decodeHex s = some b ↔
    s ≠ [] ∧ s.length ≤ 2 * kMaximumUrlBytes ∧ s.length % 2 = 0 ∧ decodePairs s = some b := by
  rw [decodeHex]
  split
  · rename_i refused
    simp only [reduceCtorEq, false_iff]
    rintro ⟨nonempty, fits, even, -⟩
    rcases refused with empty | long | odd
    · exact nonempty empty
    · omega
    · exact odd even
  · rename_i passed
    rw [not_or, not_or] at passed
    obtain ⟨nonempty, fits, even⟩ := passed
    constructor
    · exact fun read => ⟨nonempty, by omega, by omega, read⟩
    · exact fun all => all.2.2.2

/-- **The encoder and the decoder are inverse to each other** on one format. -/
theorem hex_codec :
    (∀ b : Bytes, 1 ≤ b.length → b.length ≤ 4096 → 0 ∉ b → decodeHex (utf8 (hex b)) = some b) ∧
    (∀ s : Bytes, (∃ b, decodeHex s = some b) ↔ HexText s) ∧
    (∀ s b : Bytes, decodeHex s = some b → utf8 (hex b) = s ∧ 1 ≤ b.length ∧ b.length ≤ 4096 ∧ 0 ∉ b) ∧
    ∀ (parseUrl : String → Option Url) (url text : String), encodeUrl parseUrl url = .ok text →
      ∃ normal, normalizeTabUrl parseUrl (.text url) = .ok normal ∧ text = hex (utf8 normal) := by
  refine ⟨fun b nonempty fits plain => ?_, fun s => ?_, fun s b h => ?_, fun parseUrl url text encoded => ?_⟩
  · exact decodeHex_hex plain (List.length_pos_iff.mp nonempty) fits
  · simp only [decodeHex_some]
    constructor
    · rintro ⟨b, nonempty, fits, even, read⟩
      obtain ⟨digits, nonzero⟩ := (decodePairs_iff even).mp ⟨b, read⟩
      exact ⟨nonempty, even, fits, digits, nonzero⟩
    · intro text
      obtain ⟨b, read⟩ := (decodePairs_iff text.even).mpr ⟨text.digits, text.nonzero⟩
      exact ⟨b, text.nonempty, text.fits, text.even, read⟩
  · obtain ⟨nonempty, fits, even, read⟩ := decodeHex_some.mp h
    obtain ⟨written, plain⟩ := hex_decodePairs even read
    have length := length_hex b
    rw [written] at length
    have positive : 0 < s.length := List.length_pos_iff.mpr nonempty
    have limit : kMaximumUrlBytes = 4096 := rfl
    exact ⟨written, by omega, by omega, plain⟩
  · unfold encodeUrl at encoded
    cases normalized : normalizeTabUrl parseUrl (.text url) with
    | error e =>
      rw [normalized] at encoded
      cases encoded
    | ok normal =>
      rw [normalized] at encoded
      cases encoded
      exact ⟨normal, rfl, rfl⟩

end Fireball.Tabs
