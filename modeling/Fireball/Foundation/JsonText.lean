import Fireball.Foundation.Bytes
import Fireball.Foundation.Json
import Mathlib.Tactic.Ring

/-!
# JSON text

`JSON.stringify(value, null, 2)`, and how long what it writes can be.

* `object_length`, `array_length`: a text by its parts;
* `stringify_length`: its bytes.
-/

namespace Fireball.Foundation.Json

/-- The parts of an array or an object, each on a line of its own. -/
def enclosed (opening closing : Char) (indent : List Char) (parts : List (List Char)) : List Char :=
  if parts = [] then [opening, closing]
  else opening :: '\n' :: indent ++ ' ' :: ' ' ::
    (',' :: '\n' :: indent ++ [' ', ' ']).intercalate parts ++ '\n' :: indent ++ [closing]

mutual

def pretty (numberText : Rat → String) (indent : List Char) : Json → List Char
  | .null => "null".toList
  | .boolean value => (toString value).toList
  | .number value => (numberText value).toList
  | .string value => (quote value).toList
  | .array elements => enclosed '[' ']' indent (elementTexts numberText (indent ++ [' ', ' ']) elements)
  | .object fields => enclosed '\x7b' '\x7d' indent (fieldTexts numberText (indent ++ [' ', ' ']) fields)

def elementTexts (numberText : Rat → String) (indent : List Char) : List Json → List (List Char)
  | [] => []
  | element :: rest => pretty numberText indent element :: elementTexts numberText indent rest

def fieldTexts (numberText : Rat → String) (indent : List Char) :
    List (String × Json) → List (List Char)
  | [] => []
  | (key, value) :: rest =>
    ((quote key).toList ++ ':' :: ' ' :: pretty numberText indent value) ::
      fieldTexts numberText indent rest

end

/-- `JSON.stringify(value, null, 2)`, with `String(value)` of a number. -/
def stringify (numberText : Rat → String) (value : Json) : String :=
  String.ofList (pretty numberText [] value)

example : stringify (fun q => toString q.num)
    (.object [("a", .array [.number 1, .null]), ("b", .object [])]) =
      "\x7b\n  \"a\": [\n    1,\n    null\n  ],\n  \"b\": \x7b\x7d\n\x7d" := by decide

/-! ## Lengths -/

variable {numberText : Rat → String} {indent : List Char}

theorem escape_length (c : Char) : (escape c).length ≤ 6 := by
  unfold escape
  split <;> try simp
  split <;> simp

theorem quote_length (value : String) : (quote value).toList.length ≤ 6 * value.toList.length + 2 := by
  have body : (value.toList.flatMap escape).length ≤ 6 * value.toList.length := by
    induction value.toList with
    | nil => exact Nat.le_refl 0
    | cons c rest ih =>
      have first := escape_length c
      rw [List.flatMap_cons, List.length_append, List.length_cons]
      omega
  simp only [quote, String.toList_append, String.toList_ofList, List.length_append]
  have mark : "\"".toList.length = 1 := rfl
  omega

theorem intercalate_length {α : Type} (separator first : List α) (rest : List (List α)) :
    (separator.intercalate (first :: rest)).length =
      ((first :: rest).map List.length).sum + rest.length * separator.length := by
  induction rest generalizing first with
  | nil => simp
  | cons next rest ih =>
    rw [List.intercalate_cons_cons, List.length_append, List.length_append, ih]
    simp only [List.map_cons, List.sum_cons, List.length_cons, Nat.add_mul, Nat.one_mul]
    omega

theorem enclosed_length (opening closing : Char) (indent : List Char) (parts : List (List Char)) :
    (enclosed opening closing indent parts).length ≤
      (parts.map List.length).sum + (parts.length + 1) * (indent.length + 4) := by
  unfold enclosed
  cases parts with
  | nil => simp
  | cons first rest =>
    rw [if_neg (List.cons_ne_nil first rest)]
    simp only [List.length_append, List.length_cons, List.length_nil, intercalate_length,
      Nat.add_mul, Nat.one_mul]
    have inner : rest.length * (indent.length + 1 + 1 + (0 + 1 + 1)) = rest.length * (indent.length + 4) := rfl
    omega

/-- An object with keys of at most `k` characters. -/
theorem object_length {fields : List (String × Json)} {k : Nat} {keys : List String} (bounds : List Nat)
    (named : fields.map Prod.fst = keys) (short : ∀ key ∈ keys, key.toList.length ≤ k)
    (values : List.Forall₂ (fun value bound =>
      (pretty numberText (indent ++ [' ', ' ']) value).length ≤ bound) (fields.map Prod.snd) bounds) :
    (pretty numberText indent (.object fields)).length ≤
      bounds.sum + (bounds.length + 1) * (indent.length + 6 * k + 8) := by
  have parts : ((fieldTexts numberText (indent ++ [' ', ' ']) fields).map List.length).sum ≤
        bounds.sum + bounds.length * (6 * k + 4) ∧
      (fieldTexts numberText (indent ++ [' ', ' ']) fields).length = bounds.length := by
    subst named
    induction fields generalizing bounds with
    | nil =>
      cases values
      exact ⟨Nat.zero_le _, rfl⟩
    | cons field rest ih =>
      obtain ⟨key, value⟩ := field
      rw [List.map_cons, List.forall_mem_cons] at short
      obtain - | ⟨bounded, later⟩ := values
      dsimp only at short bounded
      obtain ⟨sum, length⟩ := ih _ later short.2
      have quoted := quote_length key
      refine ⟨?_, congrArg (· + 1) length⟩
      simp only [fieldTexts, List.map_cons, List.sum_cons, List.length_cons, List.length_append,
        Nat.add_mul, Nat.one_mul]
      omega
  obtain ⟨sum, length⟩ := parts
  have whole := enclosed_length '\x7b' '\x7d' indent (fieldTexts numberText (indent ++ [' ', ' ']) fields)
  rw [length] at whole
  rw [pretty]
  have split : (bounds.length + 1) * (indent.length + 6 * k + 8) =
      (bounds.length + 1) * (indent.length + 4) + bounds.length * (6 * k + 4) + (6 * k + 4) := by ring
  omega

theorem array_length {elements : List Json} {bound : Nat}
    (bounded : ∀ element ∈ elements, (pretty numberText (indent ++ [' ', ' ']) element).length ≤ bound) :
    (pretty numberText indent (.array elements)).length ≤
      elements.length * bound + (elements.length + 1) * (indent.length + 4) := by
  have parts : ((elementTexts numberText (indent ++ [' ', ' ']) elements).map List.length).sum ≤
        elements.length * bound ∧
      (elementTexts numberText (indent ++ [' ', ' ']) elements).length = elements.length := by
    induction elements with
    | nil => exact ⟨Nat.zero_le _, rfl⟩
    | cons element rest ih =>
      rw [List.forall_mem_cons] at bounded
      obtain ⟨sum, length⟩ := ih bounded.2
      have first := bounded.1
      refine ⟨?_, congrArg (· + 1) length⟩
      simp only [elementTexts, List.map_cons, List.sum_cons, List.length_cons, Nat.add_mul,
        Nat.one_mul]
      omega
  have whole := enclosed_length '[' ']' indent (elementTexts numberText (indent ++ [' ', ' ']) elements)
  rw [parts.2] at whole
  rw [pretty]
  omega

theorem stringify_length (value : Json) :
    (utf8 (stringify numberText value)).length ≤ 4 * (pretty numberText [] value).length := by
  rw [stringify, utf8_ofList]
  induction pretty numberText [] value with
  | nil => exact Nat.le_refl 0
  | cons c rest ih =>
    have size := c.utf8Size_le_four
    rw [List.flatMap_cons, List.length_append, String.length_utf8EncodeChar, List.length_cons]
    omega

end Fireball.Foundation.Json
