import Mathlib.Data.List.Induction

/-!
# Decimal text

The texts that `toString` writes for positive numbers, and the numbers they stand for.

* `toDigits_ofDigitChars`: such a text is read and written back;
* `decimal_toDigits`, `toDigits_apart`: what is written is such a text, and only digits;
* `decimal_isPort`, `isPort_toDigits`: the texts of port numbers.
-/

namespace Fireball.Foundation

/-- Digits without a zero in front. -/
structure Decimal (text : List Char) : Prop where
  digits : ∀ c ∈ text, c.isDigit = true
  positive : ∃ first rest, text = first :: rest ∧ first ≠ '0'

/-- `/^[1-9][0-9]{0,4}$/`. -/
def isPort : List Char → Bool
  | [] => false
  | first :: rest => '1' ≤ first && first ≤ '9' && rest.length ≤ 4 && rest.all Char.isDigit

theorem digitChar_of_isDigit {c : Char} (digit : c.isDigit = true) :
    c.toNat - '0'.toNat < 10 ∧ Nat.digitChar (c.toNat - '0'.toNat) = c := by
  simp only [Char.isDigit, Bool.and_eq_true, decide_eq_true_eq] at digit
  obtain ⟨low, high⟩ := digit
  have low : 48 ≤ c.toNat := low
  have high : c.toNat ≤ 57 := high
  have zero : '0'.toNat = 48 := rfl
  rw [zero]
  have small : c.toNat - 48 < 10 := by omega
  refine ⟨small, ?_⟩
  rw [← Char.toNat_inj, Nat.toNat_digitChar_of_lt_ten small]
  omega

theorem ofDigitChars_snoc (text : List Char) (c : Char) :
    Nat.ofDigitChars 10 (text ++ [c]) 0 = 10 * Nat.ofDigitChars 10 text 0 + (c.toNat - '0'.toNat) := by
  rw [Nat.ofDigitChars_append, Nat.ofDigitChars_cons, Nat.ofDigitChars_nil]

theorem ofDigitChars_pos {text : List Char} (decimal : Decimal text) : 0 < Nat.ofDigitChars 10 text 0 := by
  obtain ⟨first, rest, rfl, nonzero⟩ := decimal.positive
  obtain ⟨-, back⟩ := digitChar_of_isDigit (decimal.digits first List.mem_cons_self)
  have leading : first.toNat - '0'.toNat ≠ 0 := fun zero => nonzero (by rw [← back, zero]; rfl)
  rw [Nat.ofDigitChars_cons, Nat.ofDigitChars_eq_ofDigitChars_zero]
  have power : 0 < 10 ^ rest.length := Nat.pow_pos (by decide)
  have product : 0 < 10 ^ rest.length * (10 * 0 + (first.toNat - '0'.toNat)) :=
    Nat.mul_pos power (by omega)
  omega

theorem toDigits_ofDigitChars {text : List Char} (decimal : Decimal text) :
    Nat.toDigits 10 (Nat.ofDigitChars 10 text 0) = text := by
  induction text using List.reverseRecOn with
  | nil =>
    obtain ⟨first, rest, empty, -⟩ := decimal.positive
    cases empty
  | append_singleton text c ih =>
    obtain ⟨small, back⟩ := digitChar_of_isDigit (decimal.digits c (by simp))
    rw [ofDigitChars_snoc]
    cases text with
    | nil => rw [Nat.ofDigitChars_nil, Nat.mul_zero, Nat.zero_add, Nat.toDigits_of_lt_base small, back]; rfl
    | cons first rest =>
      obtain ⟨head, tail, same, nonzero⟩ := decimal.positive
      obtain ⟨rfl, -⟩ := List.cons.inj same
      have front : Decimal (first :: rest) :=
        ⟨fun x mem => decimal.digits x (List.mem_append_left _ mem), first, rest, rfl, nonzero⟩
      have written := Nat.toDigits_append_toDigits (by decide : 1 < 10) (ofDigitChars_pos front) small
      rw [← written, ih front, Nat.toDigits_of_lt_base small, back]

theorem decimal_toDigits {n : Nat} (positive : 0 < n) : Decimal (Nat.toDigits 10 n) where
  digits _ mem := Nat.isDigit_of_mem_toDigits (by decide) (by decide) mem
  positive := by
    induction n using Nat.strongRecOn with
    | ind n ih =>
      by_cases small : n < 10
      · refine ⟨n.digitChar, [], Nat.toDigits_of_lt_base small, fun zero => ?_⟩
        rw [Nat.digitChar_eq_zero] at zero
        omega
      · obtain ⟨first, rest, eq, nonzero⟩ := ih (n / 10) (by omega) (by omega)
        refine ⟨first, rest ++ [(n % 10).digitChar], ?_, nonzero⟩
        rw [Nat.toDigits_of_base_le (by decide) (by omega), eq]
        rfl

theorem decimal_isPort {text : List Char} (h : isPort text = true) : Decimal text := by
  cases text with
  | nil => cases h
  | cons first rest =>
    simp only [isPort, Bool.and_eq_true, decide_eq_true_eq, List.all_eq_true] at h
    obtain ⟨⟨⟨low, high⟩, -⟩, digits⟩ := h
    refine ⟨List.forall_mem_cons.mpr ⟨?_, digits⟩, first, rest, rfl, ?_⟩
    · have zero : '0' ≤ first := Char.le_trans (by decide) low
      simp only [Char.isDigit, Bool.and_eq_true, decide_eq_true_eq]
      exact ⟨zero, high⟩
    · rintro rfl
      exact absurd low (by decide)

theorem isPort_toDigits {port : Nat} (positive : 1 ≤ port) (low : port ≤ 65535) :
    isPort (Nat.toDigits 10 port) = true := by
  have decimal := decimal_toDigits positive
  have short : (Nat.toDigits 10 port).length ≤ 5 :=
    (Nat.length_toDigits_le_iff (by decide) (by decide)).mpr (by omega)
  obtain ⟨first, rest, eq, nonzero⟩ := decimal.positive
  rw [eq] at decimal short ⊢
  rw [List.length_cons] at short
  obtain ⟨digit, digits⟩ := List.forall_mem_cons.mp decimal.digits
  simp only [Char.isDigit, Bool.and_eq_true, decide_eq_true_eq] at digit
  have zero : 48 ≤ first.toNat := digit.1
  have other : first.toNat ≠ 48 := fun same => nonzero (Char.toNat_inj.mp same)
  have one : 49 ≤ first.toNat := by omega
  simp only [isPort, Bool.and_eq_true, decide_eq_true_eq, List.all_eq_true]
  exact ⟨⟨⟨one, digit.2⟩, Nat.le_of_succ_le_succ short⟩, digits⟩

theorem toDigits_apart {n : Nat} {c : Char} (other : c.isDigit = false) : c ∉ Nat.toDigits 10 n := by
  intro mem
  have digit := Nat.isDigit_of_mem_toDigits (by decide) (by decide) mem
  rw [other] at digit
  cases digit

theorem toList_toString {n : Nat} : (toString n).toList = Nat.toDigits 10 n := by
  rw [Nat.toString_eq_ofList_toDigits, String.toList_ofList]

end Fireball.Foundation
