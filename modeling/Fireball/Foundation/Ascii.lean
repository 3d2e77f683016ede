import Mathlib.Data.Nat.Notation

/-!
# Classes of characters

The classes as ranges of code points.

* `isPrintable`, `isBlank`: the characters of a text without blanks, and those that `trim` removes;
* `ascii_upper`, `ascii_lower`, `ascii_digit`, `ascii_alphanum`: the ranges;
* `toLower_eq`: the characters that have no lower case of their own.
-/

namespace Fireball.Foundation

/-- `[\x21-\x7e]`. -/
def isPrintable (c : Char) : Bool := 0x21 ≤ c.toNat && c.toNat ≤ 0x7e

/-- What `trim` removes: white space and line terminators. -/
def isBlank (c : Char) : Bool :=
  c.toNat ∈ [0x20, 0xA0, 0x1680, 0x2028, 0x2029, 0x202F, 0x205F, 0x3000, 0xFEFF] ||
    (0x9 ≤ c.toNat && c.toNat ≤ 0xD) || (0x2000 ≤ c.toNat && c.toNat ≤ 0x200A)

variable {c : Char}

theorem ascii_upper : c.isUpper = true ↔ 65 ≤ c.toNat ∧ c.toNat ≤ 90 := by
  change decide ('A'.val ≤ c.val ∧ c.val ≤ 'Z'.val) = true ↔ _
  rw [decide_eq_true_iff]
  exact Iff.rfl

theorem ascii_lower : c.isLower = true ↔ 97 ≤ c.toNat ∧ c.toNat ≤ 122 := by
  change (decide ('a'.val ≤ c.val) && decide (c.val ≤ 'z'.val)) = true ↔ _
  rw [Bool.and_eq_true, decide_eq_true_iff, decide_eq_true_iff]
  exact Iff.rfl

theorem ascii_digit : c.isDigit = true ↔ 48 ≤ c.toNat ∧ c.toNat ≤ 57 := by
  change (decide ('0'.val ≤ c.val) && decide (c.val ≤ '9'.val)) = true ↔ _
  rw [Bool.and_eq_true, decide_eq_true_iff, decide_eq_true_iff]
  exact Iff.rfl

theorem isAlphanum_iff : c.isAlphanum = true ↔ (c.isUpper = true ∨ c.isLower = true) ∨ c.isDigit = true := by
  change ((c.isUpper || c.isLower) || c.isDigit) = true ↔ _
  rw [Bool.or_eq_true, Bool.or_eq_true]

theorem ascii_alphanum : c.isAlphanum = true ↔
    (65 ≤ c.toNat ∧ c.toNat ≤ 90 ∨ 97 ≤ c.toNat ∧ c.toNat ≤ 122) ∨ 48 ≤ c.toNat ∧ c.toNat ≤ 57 := by
  rw [isAlphanum_iff, ascii_upper, ascii_lower, ascii_digit]

theorem alphanum_of_upper (upper : c.isUpper = true) : c.isAlphanum = true :=
  isAlphanum_iff.mpr (.inl (.inl upper))

theorem alphanum_of_lower (lower : c.isLower = true) : c.isAlphanum = true :=
  isAlphanum_iff.mpr (.inl (.inr lower))

theorem alphanum_of_digit (digit : c.isDigit = true) : c.isAlphanum = true :=
  isAlphanum_iff.mpr (.inr digit)

theorem toLower_eq : c.toLower = c ↔ c.isUpper = false := by
  rw [Bool.eq_false_iff, ne_eq, ascii_upper]
  change (if h : 'A'.val ≤ c.val ∧ c.val ≤ 'Z'.val then _ else c) = c ↔ _
  split
  · rename_i upper
    refine iff_of_false (fun same => ?_) (not_not_intro upper)
    have value : c.val + ('a'.val - 'A'.val) = c.val := congrArg Char.val same
    have step : ('a'.val - 'A'.val).toNat = 32 := rfl
    have high : c.val.toNat ≤ 90 := upper.2
    have sum := congrArg UInt32.toNat value
    rw [UInt32.toNat_add, step] at sum
    omega
  · rename_i other
    exact iff_of_true rfl other

end Fireball.Foundation
