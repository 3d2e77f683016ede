import Mathlib.Data.Nat.Notation

/-!
# Reading UTF-8

The decoder of the Encoding Standard. Bytes that are no UTF-8 are replaced, one character
for each longest piece that could begin one, and the decoder reads on behind it.

* `decode_character`: an encoded character is read as itself;
* `decode_encoded`: so is a text, whatever stands behind it.
-/

namespace Fireball.Foundation.Utf8

/-- A character that has begun: the bytes that it needs, the range of the next one, and the
bits so far. -/
structure Begun where
  needed : Nat
  lower : Nat
  upper : Nat
  codePoint : Nat

def replacement : Char := '\uFFFD'

/-- What a byte between two characters completes, and what it begins. -/
def first (b : Nat) : List Char × Option Begun :=
  if b ≤ 0x7F then ([Char.ofNat b], none)
  else if 0xC2 ≤ b ∧ b ≤ 0xDF then ([], some ⟨1, 0x80, 0xBF, b % 0x20⟩)
  else if 0xE0 ≤ b ∧ b ≤ 0xEF then
    ([], some ⟨2, if b = 0xE0 then 0xA0 else 0x80, if b = 0xED then 0x9F else 0xBF, b % 0x10⟩)
  else if 0xF0 ≤ b ∧ b ≤ 0xF4 then
    ([], some ⟨3, if b = 0xF0 then 0x90 else 0x80, if b = 0xF4 then 0x8F else 0xBF, b % 0x8⟩)
  else ([replacement], none)

/-- The same within a character. A byte that can not go on with it is read once more. -/
def next (begun : Begun) (b : Nat) : List Char × Option Begun :=
  if b < begun.lower ∨ begun.upper < b then (replacement :: (first b).1, (first b).2)
  else if begun.needed = 1 then ([Char.ofNat (64 * begun.codePoint + b % 0x40)], none)
  else ([], some ⟨begun.needed - 1, 0x80, 0xBF, 64 * begun.codePoint + b % 0x40⟩)

def read : Option Begun → Nat → List Char × Option Begun
  | none => first
  | some begun => next begun

def decodeFrom : Option Begun → List UInt8 → List Char
  | none, [] => []
  | some _, [] => [replacement]
  | begun, b :: rest => (read begun b.toNat).1 ++ decodeFrom (read begun b.toNat).2 rest

def decode (bytes : List UInt8) : List Char := decodeFrom none bytes

example : decode [0x61, 0xE2, 0x82, 0x62, 0xFF, 0xC3, 0xA9] = ['a', replacement, 'b', replacement, 'é'] := by decide

variable {n lower upper : Nat} {rest : List UInt8} {begun : Option Begun}

/-! ## Characters -/

theorem decodeFrom_cons {b : Nat} (byte : b < 256) :
    decodeFrom begun (UInt8.ofNat b :: rest) = (read begun b).1 ++ decodeFrom (read begun b).2 rest := by
  have same : (UInt8.ofNat b).toNat = b := Nat.mod_eq_of_lt byte
  cases begun <;> rw [decodeFrom, same]

/-- The last byte of a character. -/
theorem next_last (low : lower ≤ n % 0x40 + 0x80) (high : n % 0x40 + 0x80 ≤ upper) :
    next ⟨1, lower, upper, n / 64⟩ (n % 0x40 + 0x80) = ([Char.ofNat n], none) := by
  have bits : 64 * (n / 64) + (n % 0x40 + 0x80) % 0x40 = n := by omega
  unfold next
  dsimp only
  rw [if_neg (by omega), if_pos rfl, bits]

/-- A byte in the middle of a character. -/
theorem next_middle {needed : Nat} (more : needed ≠ 0) (low : lower ≤ n % 0x40 + 0x80)
    (high : n % 0x40 + 0x80 ≤ upper) :
    next ⟨needed + 1, lower, upper, n / 64⟩ (n % 0x40 + 0x80) = ([], some ⟨needed, 0x80, 0xBF, n⟩) := by
  have bits : 64 * (n / 64) + (n % 0x40 + 0x80) % 0x40 = n := by omega
  unfold next
  dsimp only
  rw [if_neg (by omega), if_neg (by omega), bits, Nat.add_sub_cancel]

theorem first_two (low : 0x7f < n) (high : n ≤ 0x7ff) :
    first (n / 64 % 0x20 + 0xc0) = ([], some ⟨1, 0x80, 0xBF, n / 64⟩) := by
  have bits : (n / 64 % 0x20 + 0xc0) % 0x20 = n / 64 := by omega
  rw [first, if_neg (by omega), if_pos (by omega), bits]

/-- The range of the second byte keeps out the surrogates and what two bytes can encode. -/
theorem first_three (low : 0x7ff < n) (high : n ≤ 0xffff) (valid : n.isValidChar) :
    ∃ lower upper, first (n / 4096 % 0x10 + 0xe0) = ([], some ⟨2, lower, upper, n / 64 / 64⟩) ∧
      lower ≤ n / 64 % 0x40 + 0x80 ∧ n / 64 % 0x40 + 0x80 ≤ upper := by
  have bits : (n / 4096 % 0x10 + 0xe0) % 0x10 = n / 64 / 64 := by omega
  rw [first, if_neg (by omega), if_neg (by omega), if_pos (by omega), bits]
  refine ⟨_, _, rfl, ?_, ?_⟩
  · split <;> omega
  · unfold Nat.isValidChar at valid
    split <;> omega

theorem first_four (low : 0xffff < n) (valid : n.isValidChar) :
    ∃ lower upper, first (n / 262144 % 0x08 + 0xf0) = ([], some ⟨3, lower, upper, n / 64 / 64 / 64⟩) ∧
      lower ≤ n / 64 / 64 % 0x40 + 0x80 ∧ n / 64 / 64 % 0x40 + 0x80 ≤ upper := by
  unfold Nat.isValidChar at valid
  have bits : (n / 262144 % 0x08 + 0xf0) % 0x8 = n / 64 / 64 / 64 := by omega
  rw [first, if_neg (by omega), if_neg (by omega), if_neg (by omega), if_pos (by omega), bits]
  refine ⟨_, _, rfl, ?_, ?_⟩
  · split <;> omega
  · split <;> omega

theorem decode_character (c : Char) :
    decodeFrom none (String.utf8EncodeChar c ++ rest) = c :: decodeFrom none rest := by
  have valid : c.val.toNat.isValidChar := c.valid
  have own : Char.ofNat c.val.toNat = c := Char.ofNat_toNat c
  unfold String.utf8EncodeChar
  dsimp only
  generalize c.val.toNat = n at valid own ⊢
  subst own
  have last : 0x80 ≤ n % 0x40 + 0x80 ∧ n % 0x40 + 0x80 ≤ 0xBF := by omega
  have middle : 0x80 ≤ n / 64 % 0x40 + 0x80 ∧ n / 64 % 0x40 + 0x80 ≤ 0xBF := by omega
  split
  · rename_i one
    rw [List.cons_append, List.nil_append, decodeFrom_cons (by omega), read, first, if_pos one]
    rfl
  · split
    · rename_i more two
      simp only [List.cons_append, List.nil_append]
      rw [decodeFrom_cons (by omega), read, first_two (by omega) two]
      rw [List.nil_append, decodeFrom_cons (by omega), read, next_last last.1 last.2]
      rfl
    · split
      · rename_i more three
        obtain ⟨lower, upper, begun, low, high⟩ := first_three (by omega) three valid
        simp only [List.cons_append, List.nil_append]
        rw [decodeFrom_cons (by omega), read, begun]
        rw [List.nil_append, decodeFrom_cons (by omega), read, next_middle (by decide) low high]
        rw [List.nil_append, decodeFrom_cons (by omega), read, next_last last.1 last.2]
        rfl
      · rename_i more
        obtain ⟨lower, upper, begun, low, high⟩ := first_four (by omega) valid
        have page : n / 4096 = n / 64 / 64 := by omega
        simp only [List.cons_append, List.nil_append]
        rw [decodeFrom_cons (by omega), read, begun, page]
        rw [List.nil_append, decodeFrom_cons (by omega), read, next_middle (by decide) low high]
        rw [List.nil_append, decodeFrom_cons (by omega), read, next_middle (by decide) middle.1 middle.2]
        rw [List.nil_append, decodeFrom_cons (by omega), read, next_last last.1 last.2]
        rfl

theorem decode_encoded (text : List Char) :
    decode (text.flatMap String.utf8EncodeChar ++ rest) = text ++ decode rest := by
  induction text with
  | nil => rfl
  | cons c text ih => rw [List.flatMap_cons, List.append_assoc, decode, decode_character, ← decode, ih, List.cons_append]

end Fireball.Foundation.Utf8
