import Fireball.Foundation.Bytes
import Fireball.Foundation.JsMap
import Mathlib.Data.List.Sort

/-!
# JSON values

What `JSON.parse` returns, and the few things the program asks of such a value.
-/

namespace Fireball.Foundation

/-- An object lists its own keys, each once, with their values. -/
inductive Json
  | null
  | boolean (value : Bool)
  | number (value : Rat)
  | string (value : String)
  | array (elements : List Json)
  | object (fields : List (String × Json))

namespace Json

/-- `value.key`, which is undefined for a missing key. -/
def field (fields : List (String × Json)) (key : String) : Option Json := lookupEntry key fields

/-- `value?.key`, for a key that no prototype has. -/
def member (value : Option Json) (key : String) : Option Json :=
  match value with
  | some (.object fields) => field fields key
  | _ => none

theorem member_eq_some {value : Option Json} {key : String} {result : Json} :
    member value key = some result ↔ ∃ fields, value = some (.object fields) ∧ field fields key = some result := by
  unfold member
  split
  · simp
  · rename_i other
    simp only [reduceCtorEq, false_iff, not_exists, not_and]
    exact fun fields object => absurd object (other fields)

/-- `Object.keys(value).sort().join(",")`. -/
def sortedKeys (fields : List (String × Json)) : String :=
  ",".intercalate ((fields.map Prod.fst).insertionSort (· ≤ ·))

/-- How `JSON.stringify` writes one character of a string. -/
def escape (c : Char) : List Char :=
  match c.toNat with
  | 34 => ['\\', c]
  | 92 => ['\\', c]
  | 8 => ['\\', 'b']
  | 9 => ['\\', 't']
  | 10 => ['\\', 'n']
  | 12 => ['\\', 'f']
  | 13 => ['\\', 'r']
  | n => if n < 32 then ['\\', 'u', '0', '0', hexDigit (n / 16), hexDigit (n % 16)] else [c]

/-- `JSON.stringify(value)` on a string. -/
def quote (value : String) : String :=
  "\"" ++ String.ofList (value.toList.flatMap escape) ++ "\""

example : quote "a\"\n" = "\"a\\\"\\n\"" := by decide

end Json

/-! ## Comparisons -/

/-- `value === text`. -/
def isText (value : Option Json) (text : String) : Bool :=
  match value with
  | some (.string s) => s = text
  | _ => false

/-- `value === n`. -/
def isInteger (value : Option Json) (n : Nat) : Bool :=
  match value with
  | some (.number q) => q = n
  | _ => false

theorem isText_iff {value : Option Json} {text : String} :
    isText value text = true ↔ value = some (.string text) := by
  unfold isText
  split <;> simp_all

theorem isInteger_iff {value : Option Json} {n : Nat} :
    isInteger value n = true ↔ value = some (.number n) := by
  unfold isInteger
  split <;> simp_all

/-- `value.length`, in UTF-16 code units. -/
def units (text : List Char) : Nat := (text.map fun c => if c.toNat < 0x10000 then 1 else 2).sum

theorem units_ascii {text : List Char} (h : ∀ c ∈ text, c.toNat < 128) : units text = text.length := by
  induction text with
  | nil => rfl
  | cons c rest ih =>
    obtain ⟨first, others⟩ := List.forall_mem_cons.mp h
    have one : (if c.toNat < 0x10000 then 1 else 2) = 1 := if_pos (by omega)
    have rest' : (rest.map fun c => if c.toNat < 0x10000 then 1 else 2).sum = rest.length := ih others
    rw [units, List.map_cons, List.sum_cons, one, rest', List.length_cons, Nat.add_comm]

theorem length_le_units (text : List Char) : text.length ≤ units text := by
  induction text with
  | nil => exact Nat.le_refl 0
  | cons c rest ih =>
    have one : 1 ≤ if c.toNat < 0x10000 then 1 else 2 := by split <;> decide
    simp only [units, List.map_cons, List.sum_cons, List.length_cons] at ih ⊢
    omega

end Fireball.Foundation
