import Fireball.Foundation.Json
import Mathlib.Data.String.Basic

/-!
# JSON Schema

What is valid under a schema, for the keywords of draft 2020-12 that the published schemas
use. A schema is the predicate on values that it stands for. A keyword says nothing about
the values of another type; `allOf` puts the keywords of one schema together.

* `object_iff`: objects without additional properties;
* `sortedKeys_exact`: what the comparison of joined keys says when the expected ones are there.
-/

namespace Fireball.Foundation

namespace Json

/-- The keys of every object are distinct, as those of a parsed text are. -/
inductive WellFormed : Json → Prop
  | null : WellFormed .null
  | boolean (value : Bool) : WellFormed (.boolean value)
  | number (value : Rat) : WellFormed (.number value)
  | string (value : String) : WellFormed (.string value)
  | array {elements : List Json} (each : ∀ element ∈ elements, WellFormed element) : WellFormed (.array elements)
  | object {fields : List (String × Json)} (distinct : (fields.map Prod.fst).Nodup)
      (each : ∀ key value, (key, value) ∈ fields → WellFormed value) : WellFormed (.object fields)

/-- The equality of `const` and `uniqueItems`, for which the order of keys does not matter. -/
inductive DeepEqual : Json → Json → Prop
  | null : DeepEqual .null .null
  | boolean (value : Bool) : DeepEqual (.boolean value) (.boolean value)
  | number (value : Rat) : DeepEqual (.number value) (.number value)
  | string (value : String) : DeepEqual (.string value) (.string value)
  | array {first second : List Json} (length : first.length = second.length)
      (each : ∀ (i : Nat) (x y : Json), first[i]? = some x → second[i]? = some y → DeepEqual x y) :
      DeepEqual (.array first) (.array second)
  | object {first second : List (String × Json)}
      (keys : ∀ key, (field first key).isSome = (field second key).isSome)
      (each : ∀ key x y, field first key = some x → field second key = some y → DeepEqual x y) :
      DeepEqual (.object first) (.object second)

theorem deepEqual_string {text : String} {value : Json} : DeepEqual (.string text) value ↔ value = .string text := by
  constructor
  · intro h
    cases h
    rfl
  · rintro rfl
    exact .string text

theorem deepEqual_number {n : Rat} {value : Json} : DeepEqual (.number n) value ↔ value = .number n := by
  constructor
  · intro h
    cases h
    rfl
  · rintro rfl
    exact .number n

theorem WellFormed.distinct {fields : List (String × Json)} (h : WellFormed (.object fields)) :
    (fields.map Prod.fst).Nodup := by
  cases h with
  | object distinct _ => exact distinct

theorem WellFormed.field {fields : List (String × Json)} (h : WellFormed (.object fields)) {key : String}
    {value : Json} (found : Json.field fields key = some value) : WellFormed value := by
  cases h with
  | object distinct each => exact each key value ((lookupEntry_eq_some distinct).mp found)

theorem WellFormed.element {elements : List Json} (h : WellFormed (.array elements)) {element : Json}
    (mem : element ∈ elements) : WellFormed element := by
  cases h with
  | array each => exact each element mem

end Json

/-! ## Keywords -/

abbrev Schema := Json → Prop

namespace Schema

def allOf (schemas : List Schema) : Schema := fun value => ∀ schema ∈ schemas, schema value

def anyOf (schemas : List Schema) : Schema := fun value => ∃ schema ∈ schemas, schema value

def const (expected : Json) : Schema := Json.DeepEqual expected

def enum (expected : List Json) : Schema := fun value => ∃ element ∈ expected, Json.DeepEqual element value

/-- `"type": "string"`. -/
def isString : Schema := fun value => ∃ text, value = .string text

/-- `"type": "integer"`. -/
def isInteger : Schema := fun value => ∃ n : Int, value = .number n

/-- `"type": "array"`. -/
def isArray : Schema := fun value => ∃ elements, value = .array elements

/-- `"type": "object"`. -/
def isObject : Schema := fun value => ∃ fields, value = .object fields

/-- Lengths are in code points. -/
def minLength (n : Nat) : Schema := fun value => ∀ text, value = .string text → n ≤ text.toList.length

def maxLength (n : Nat) : Schema := fun value => ∀ text, value = .string text → text.toList.length ≤ n

/-- `pattern`, and `format` where it is checked. -/
def pattern (matching : String → Bool) : Schema := fun value => ∀ text, value = .string text → matching text = true

def minimum (n : Nat) : Schema := fun value => ∀ q, value = .number q → (n : Rat) ≤ q

def maximum (n : Nat) : Schema := fun value => ∀ q, value = .number q → q ≤ (n : Rat)

def minItems (n : Nat) : Schema := fun value => ∀ elements, value = .array elements → n ≤ elements.length

def maxItems (n : Nat) : Schema := fun value => ∀ elements, value = .array elements → elements.length ≤ n

def items (schema : Schema) : Schema := fun value =>
  ∀ elements, value = .array elements → ∀ element ∈ elements, schema element

def uniqueItems : Schema := fun value =>
  ∀ elements, value = .array elements → elements.Pairwise fun first second => ¬ Json.DeepEqual first second

def required (keys : List String) : Schema := fun value =>
  ∀ fields, value = .object fields → ∀ key ∈ keys, (Json.field fields key).isSome = true

/-- `properties`, with `"additionalProperties": false`. -/
def properties (schemas : List (String × Schema)) : Schema := fun value =>
  ∀ fields, value = .object fields → ∀ key own, Json.field fields key = some own →
    ∃ schema, lookupEntry key schemas = some schema ∧ schema own

@[simp] theorem allOf_nil {value : Json} : allOf [] value ↔ True := by simp [allOf]

@[simp] theorem allOf_cons {schema : Schema} {schemas : List Schema} {value : Json} :
    allOf (schema :: schemas) value ↔ schema value ∧ allOf schemas value := List.forall_mem_cons

@[simp] theorem anyOf_nil {value : Json} : anyOf [] value ↔ False := by simp [anyOf]

@[simp] theorem anyOf_cons {schema : Schema} {schemas : List Schema} {value : Json} :
    anyOf (schema :: schemas) value ↔ schema value ∨ anyOf schemas value := by
  simp only [anyOf, List.mem_cons, exists_eq_or_imp]

theorem enum_strings {texts : List String} {value : Json} :
    enum (texts.map Json.string) value ↔ ∃ text ∈ texts, value = .string text := by
  simp [enum, Json.deepEqual_string]

/-- `properties`, property by property. -/
theorem properties_iff {schemas : List (String × Schema)} (distinct : (schemas.map Prod.fst).Nodup)
    {fields : List (String × Json)} :
    (∀ key own, Json.field fields key = some own → ∃ schema, lookupEntry key schemas = some schema ∧ schema own) ↔
      (∀ key, (Json.field fields key).isSome = true → key ∈ schemas.map Prod.fst) ∧
        ∀ property ∈ schemas, ∀ own, Json.field fields property.1 = some own → property.2 own := by
  constructor
  · intro h
    constructor
    · intro key own
      obtain ⟨value, found⟩ := Option.isSome_iff_exists.mp own
      obtain ⟨schema, known, -⟩ := h key value found
      exact List.mem_map.mpr ⟨_, (lookupEntry_eq_some distinct).mp known, rfl⟩
    · intro property mem own found
      obtain ⟨schema, known, valid⟩ := h property.1 own found
      have same := (lookupEntry_eq_some distinct).mpr mem
      cases known.symm.trans same
      exact valid
  · rintro ⟨only, each⟩ key own found
    obtain ⟨property, mem, rfl⟩ := List.mem_map.mp (only key (found ▸ rfl))
    exact ⟨property.2, (lookupEntry_eq_some distinct).mpr mem, each property mem own found⟩

theorem object_iff {keys : List String} {schemas : List (String × Schema)} {value : Json} :
    allOf [isObject, required keys, properties schemas] value ↔ ∃ fields, value = .object fields ∧
      (∀ key ∈ keys, (Json.field fields key).isSome = true) ∧
      ∀ key own, Json.field fields key = some own → ∃ schema, lookupEntry key schemas = some schema ∧ schema own := by
  simp only [allOf_cons, allOf_nil, and_true]
  constructor
  · rintro ⟨⟨fields, rfl⟩, present, valid⟩
    exact ⟨fields, rfl, present fields rfl, valid fields rfl⟩
  · rintro ⟨fields, rfl, present, valid⟩
    exact ⟨⟨fields, rfl⟩, fun _ same => by cases same; exact present, fun _ same => by cases same; exact valid⟩

/-- An object that has exactly the keys of the schema is valid property by property. -/
theorem object_each {keys : List String} {schemas : List (String × Schema)} (names : schemas.map Prod.fst = keys)
    (distinct : keys.Nodup) {fields : List (String × Json)}
    (own : ∀ key, (Json.field fields key).isSome = true ↔ key ∈ keys) :
    allOf [isObject, required keys, properties schemas] (.object fields) ↔
      ∀ property ∈ schemas, ∀ value, Json.field fields property.1 = some value → property.2 value := by
  rw [object_iff]
  constructor
  · rintro ⟨_, ⟨⟩, -, valid⟩
    exact ((properties_iff (names ▸ distinct)).mp valid).2
  · intro each
    refine ⟨fields, rfl, fun key mem => (own key).mpr mem, (properties_iff (names ▸ distinct)).mpr ⟨?_, each⟩⟩
    exact fun key some => names ▸ (own key).mp some

/-- An integer in a range. -/
theorem integer_iff {least most : Nat} {value : Json} :
    allOf [isInteger, minimum least, maximum most] value ↔
      ∃ n : Nat, value = .number n ∧ least ≤ n ∧ n ≤ most := by
  simp only [allOf_cons, allOf_nil, and_true]
  constructor
  · rintro ⟨⟨n, rfl⟩, low, high⟩
    have low : (least : Int) ≤ n := by exact_mod_cast low n rfl
    have high : n ≤ (most : Int) := by exact_mod_cast high n rfl
    obtain ⟨m, rfl⟩ := Int.eq_ofNat_of_zero_le (by omega : 0 ≤ n)
    exact ⟨m, rfl, by omega, by omega⟩
  · rintro ⟨n, rfl, low, high⟩
    refine ⟨⟨n, rfl⟩, ?_, ?_⟩
    · rintro _ ⟨⟩
      exact_mod_cast low
    · rintro _ ⟨⟩
      exact_mod_cast high

theorem integer_of_le {least n : Nat} (low : least ≤ n) : allOf [isInteger, minimum least] (.number n) := by
  simp only [allOf_cons, allOf_nil, and_true]
  refine ⟨⟨n, rfl⟩, ?_⟩
  rintro _ ⟨⟩
  exact_mod_cast low

theorem text_iff {matching : String → Bool} {text : String} :
    allOf [isString, pattern matching] (.string text) ↔ matching text = true := by
  simp [isString, pattern]

end Schema

/-! ## Joined keys -/

/-- Keys that are the expected ones once both are sorted. -/
theorem sorted_keys {fields : List (String × Json)} {expected : List String}
    (same : (fields.map Prod.fst).insertionSort (· ≤ ·) = expected.insertionSort (· ≤ ·)) (key : String) :
    (Json.field fields key).isSome = true ↔ key ∈ expected := by
  have perm := (List.perm_insertionSort (· ≤ ·) (fields.map Prod.fst)).symm.trans
    (same ▸ List.perm_insertionSort (· ≤ ·) expected)
  rw [← perm.mem_iff, Json.field, Option.isSome_iff_ne_none, ne_eq, lookupEntry_eq_none, not_not]

/-- The length of joined texts, counting one separator more. -/
theorem length_join {parts : List String} (nonempty : parts ≠ []) :
    (",".intercalate parts).toList.length + 1 = (parts.map fun part => part.toList.length + 1).sum := by
  induction parts with
  | nil => exact absurd rfl nonempty
  | cons part rest ih =>
    cases rest with
    | nil => simp
    | cons next rest =>
      have later := ih (by simp)
      rw [String.intercalate_cons_cons, List.map_cons, List.sum_cons, ← later]
      simp only [String.toList_append, List.length_append]
      have comma : ",".toList.length = 1 := rfl
      omega

theorem length_sorted {parts : List String} (nonempty : parts ≠ []) :
    (",".intercalate (parts.insertionSort (· ≤ ·))).toList.length + 1 =
      (parts.map fun part => part.toList.length + 1).sum := by
  have perm := List.perm_insertionSort (· ≤ ·) parts
  have sorted : parts.insertionSort (· ≤ ·) ≠ [] := by
    intro none
    rw [none] at perm
    exact nonempty perm.nil_eq.symm
  rw [length_join sorted]
  exact (perm.map fun part => part.toList.length + 1).sum_eq

/-- A joined list of keys that has all the expected ones has no other. -/
theorem sortedKeys_exact {fields : List (String × Json)} {expected : List String}
    (distinct : (fields.map Prod.fst).Nodup) (known : expected.Nodup) (nonempty : expected ≠ [])
    (present : ∀ key ∈ expected, (Json.field fields key).isSome = true) :
    Json.sortedKeys fields = ",".intercalate (expected.insertionSort (· ≤ ·)) ↔
      ∀ key, (Json.field fields key).isSome = true → key ∈ expected := by
  have own : ∀ key, (Json.field fields key).isSome = true ↔ key ∈ fields.map Prod.fst := by
    intro key
    rw [Json.field, Option.isSome_iff_ne_none, ne_eq, lookupEntry_eq_none, not_not]
  have subset : expected ⊆ fields.map Prod.fst := fun key mem => (own key).mp (present key mem)
  simp only [own]
  constructor
  · intro same
    obtain ⟨front, perm, sublist⟩ := List.subperm_of_subset known subset
    obtain ⟨extra, split⟩ := sublist.exists_perm_append
    have some : fields.map Prod.fst ≠ [] := fun none => nonempty (List.subset_nil.mp (none ▸ subset))
    have lengths := congrArg (fun text => text.toList.length + 1) same
    simp only [Json.sortedKeys, length_sorted some, length_sorted nonempty] at lengths
    have all := ((split.trans (perm.append_right extra)).map fun part => part.toList.length + 1).sum_eq
    rw [List.map_append, List.sum_append] at all
    have none : extra = [] := by
      cases extra with
      | nil => rfl
      | cons key rest =>
        rw [List.map_cons, List.sum_cons] at all
        omega
    intro key mem
    have inside := (split.trans (perm.append_right extra)).subset mem
    rwa [none, List.append_nil] at inside
  · intro only
    have perm : (fields.map Prod.fst).Perm expected :=
      (List.perm_ext_iff_of_nodup distinct known).mpr fun key => ⟨only key, fun mem => subset mem⟩
    have sorted := ((List.perm_insertionSort (· ≤ ·) (fields.map Prod.fst)).trans perm).trans
      (List.perm_insertionSort (· ≤ ·) expected).symm
    rw [Json.sortedKeys, sorted.eq_of_pairwise' (List.pairwise_insertionSort _ _) (List.pairwise_insertionSort _ _)]

end Fireball.Foundation
