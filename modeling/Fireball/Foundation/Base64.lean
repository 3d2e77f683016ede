import Fireball.Foundation.Bytes

/-!
# Base64url text

`buffer.toString("base64url")`, which writes no padding.

* `length_base64Url`, `base64Url_digits`: how long the text is, and its alphabet.
-/

namespace Fireball.Foundation

def base64Alphabet : List Char :=
  "ABCDEFGHIJKLMNOPQRSTUVWXYZabcdefghijklmnopqrstuvwxyz0123456789-_".toList

def base64Digit (n : Nat) : Char := base64Alphabet.getD n 'A'

/-- Three bytes are four digits; one or two bytes at the end are two or three digits. -/
def base64Digits : Bytes → List Char
  | a :: b :: c :: rest =>
    base64Digit (a.toNat / 4) :: base64Digit (a.toNat % 4 * 16 + b.toNat / 16) ::
      base64Digit (b.toNat % 16 * 4 + c.toNat / 64) :: base64Digit (c.toNat % 64) :: base64Digits rest
  | [a, b] => [base64Digit (a.toNat / 4), base64Digit (a.toNat % 4 * 16 + b.toNat / 16),
      base64Digit (b.toNat % 16 * 4)]
  | [a] => [base64Digit (a.toNat / 4), base64Digit (a.toNat % 4 * 16)]
  | [] => []

def base64Url (b : Bytes) : String := String.ofList (base64Digits b)

theorem base64Digit_mem (n : Nat) : base64Digit n ∈ base64Alphabet := by
  rw [base64Digit, List.getD_eq_getElem?_getD]
  cases found : base64Alphabet[n]? with
  | none => decide
  | some c => exact List.mem_of_getElem? found

theorem base64Url_digits (b : Bytes) : ∀ c ∈ (base64Url b).toList, c ∈ base64Alphabet := by
  rw [base64Url, String.toList_ofList]
  induction b using base64Digits.induct with
  | case1 a b c rest ih =>
    simp only [base64Digits, List.forall_mem_cons]
    exact ⟨base64Digit_mem _, base64Digit_mem _, base64Digit_mem _, base64Digit_mem _, ih⟩
  | case2 a b => simp [base64Digits, base64Digit_mem]
  | case3 a => simp [base64Digits, base64Digit_mem]
  | case4 => simp [base64Digits]

theorem length_base64Url (b : Bytes) : (base64Url b).toList.length = (4 * b.length + 2) / 3 := by
  rw [base64Url, String.toList_ofList]
  induction b using base64Digits.induct with
  | case1 a b c rest ih =>
    simp only [base64Digits, List.length_cons, ih]
    omega
  | case2 a b => simp [base64Digits]
  | case3 a => simp [base64Digits]
  | case4 => rfl

end Fireball.Foundation
