import Fireball.Foundation.Utf8
import Mathlib.Data.List.DropRight

/-!
# Bytes

What one process writes to a pipe and another reads: text as UTF-8, hexadecimal
text, and lines split into words at white space.

* `utf8_append`, `utf8_inj`, `decodeUtf8_utf8`: text through its bytes;
* `splitOn_sep`: the parts on both sides of a separator;
* `words_append`: the words on both sides of white space;
* `toString_inj`: different numbers have different decimal texts.
-/

namespace Fireball.Foundation

abbrev Bytes := List UInt8

instance : LawfulBEq Bytes := inferInstanceAs (LawfulBEq (List UInt8))

def utf8 (s : String) : Bytes := s.toUTF8.data.toList

/-- `buffer.toString("utf8")`. -/
def decodeUtf8 (b : Bytes) : String := String.ofList (Utf8.decode b)

theorem utf8_append (s t : String) : utf8 (s ++ t) = utf8 s ++ utf8 t := by
  simp [utf8, String.toByteArray_append]

theorem utf8_inj {s t : String} : utf8 s = utf8 t ↔ s = t := by
  constructor
  · intro h
    apply String.toByteArray_inj.mp
    apply ByteArray.ext
    exact Array.toList_inj.mp h
  · exact congrArg utf8

theorem utf8_ofList (l : List Char) :
    utf8 (String.ofList l) = l.flatMap String.utf8EncodeChar := by
  simp [utf8, String.toByteArray_ofList, List.utf8Encode]

theorem decodeUtf8_append (s : String) (b : Bytes) : decodeUtf8 (utf8 s ++ b) = s ++ decodeUtf8 b := by
  have bytes : utf8 s = s.toList.flatMap String.utf8EncodeChar := by rw [← utf8_ofList, s.ofList_toList]
  rw [decodeUtf8, bytes, Utf8.decode_encoded, String.ofList_append, s.ofList_toList, decodeUtf8]

theorem decodeUtf8_utf8 (s : String) : decodeUtf8 (utf8 s) = s := by
  have whole := decodeUtf8_append s []
  rw [List.append_nil] at whole
  exact whole.trans (String.append_empty)

theorem forall_mem_chars {p : Char → Prop} [DecidablePred p] {chars : List Char}
    (h : (chars.all fun c => decide (p c)) = true) : ∀ c ∈ chars, p c := fun c mem =>
  of_decide_eq_true (List.all_eq_true.mp h c mem)

/-! ## Separators -/

theorem splitOn_one {α : Type} [BEq α] [LawfulBEq α] {sep : α} {first : List α} (h : sep ∉ first) :
    first.splitOn sep = [first] := by
  refine List.splitOnP_eq_singleton fun x mem => ?_
  have other : x ≠ sep := fun same => h (same ▸ mem)
  simpa using other

theorem splitOn_sep {α : Type} [BEq α] [LawfulBEq α] {sep : α} {first rest : List α}
    (h : sep ∉ first) : (first ++ sep :: rest).splitOn sep = first :: rest.splitOn sep := by
  rw [List.splitOn, List.splitOnP_append_cons _ _ (by simp)]
  exact congrArg (· ++ rest.splitOn sep) (splitOn_one h)

theorem mem_intercalate {α : Type} {separator c : α} {parts : List (List α)}
    (mem : c ∈ [separator].intercalate parts) : c = separator ∨ ∃ part ∈ parts, c ∈ part := by
  induction parts with
  | nil => cases mem
  | cons part rest ih =>
    cases rest with
    | nil => exact .inr ⟨part, List.mem_cons_self, by simpa using mem⟩
    | cons next rest =>
      rw [List.intercalate_cons_cons, List.append_assoc] at mem
      rcases List.mem_append.mp mem with here | later
      · exact .inr ⟨part, List.mem_cons_self, here⟩
      · rcases List.mem_cons.mp later with same | later
        · exact .inl same
        · rcases ih later with same | ⟨other, listed, inside⟩
          · exact .inl same
          · exact .inr ⟨other, List.mem_cons_of_mem _ listed, inside⟩

theorem mem_splitOn {α : Type} [BEq α] [LawfulBEq α] (separator : α) {c : α} {text : List α} (mem : c ∈ text) :
    c = separator ∨ ∃ part ∈ text.splitOn separator, c ∈ part := by
  have joined : [separator].intercalate (text.splitOn separator) = text := List.intercalate_splitOn separator
  rw [← joined] at mem
  exact mem_intercalate mem

/-! ## Hexadecimal text -/

def hexDigit (n : Nat) : Char := "0123456789abcdef".toList.getD n '0'

/-- `buffer.toString("hex")`. -/
def hex (b : Bytes) : String :=
  String.ofList (b.flatMap fun x => [hexDigit (x.toNat / 16), hexDigit (x.toNat % 16)])

/-! ## Words -/

/-- `isspace` of the classic locale. -/
def isSpace (b : UInt8) : Bool := b = 32 || (9 ≤ b && b ≤ 13)

/-- What `stream >> field` reads until the stream is empty. -/
def words (line : Bytes) : List Bytes := (line.splitOnP isSpace).filter (· ≠ [])

def Spaceless (b : Bytes) : Prop := ∀ x ∈ b, isSpace x = false

@[simp] theorem words_nil : words [] = [] := by decide

theorem words_spaceless {w : Bytes} (h : Spaceless w) (nonempty : w ≠ []) : words w = [w] := by
  simp [words, List.splitOnP_eq_singleton h, nonempty]

theorem words_append {s : UInt8} (h : isSpace s = true) (l r : Bytes) :
    words (l ++ s :: r) = words l ++ words r := by
  simp [words, List.splitOnP_append_cons l r h]

theorem words_append_space {s : UInt8} (h : isSpace s = true) (l : Bytes) :
    words (l ++ [s]) = words l := by
  rw [words_append h l [], words_nil, List.append_nil]

/-- White space at the end of a line adds no word. -/
theorem words_rdropWhile {p : UInt8 → Bool} (h : ∀ x, p x = true → isSpace x = true) (l : Bytes) :
    words (l.rdropWhile p) = words l := by
  induction l using List.reverseRecOn with
  | nil => rfl
  | append_singleton l x ih =>
    by_cases hx : p x = true
    · rw [List.rdropWhile_concat_pos _ _ _ hx, ih, words_append_space (h x hx)]
    · rw [List.rdropWhile_concat_neg _ _ _ hx]

theorem spaceless_ofList {l : List Char}
    (h : ∀ c ∈ l, ∀ x ∈ String.utf8EncodeChar c, isSpace x = false) :
    Spaceless (utf8 (String.ofList l)) := by
  intro x hx
  rw [utf8_ofList] at hx
  obtain ⟨c, hc, hcx⟩ := List.mem_flatMap.mp hx
  exact h c hc x hcx

/-! ## Decimal text -/

theorem toString_inj {m n : Nat} : toString m = toString n ↔ m = n := by
  constructor
  · intro h
    rw [Nat.toString_eq_ofList_toDigits, Nat.toString_eq_ofList_toDigits,
      String.ofList_inj] at h
    have value := congrArg (fun digits => Nat.ofDigitChars 10 digits 0) h
    simpa only [Nat.ofDigitChars_ten_toDigits] using value
  · exact congrArg toString

theorem toString_spaceless (n : Nat) : Spaceless (utf8 (toString n)) := by
  rw [Nat.toString_eq_ofList_toDigits]
  apply spaceless_ofList
  intro c hc
  have digit : c.isDigit = true := Nat.isDigit_of_mem_toDigits (by decide) (by decide) hc
  obtain ⟨low, high⟩ : 48 ≤ c.val ∧ c.val ≤ 57 := by simpa [Char.isDigit] using digit
  have one : c.utf8Size = 1 := by
    have ascii : c.val ≤ 0x7f := UInt32.le_trans high (by decide)
    simp [Char.utf8Size, ascii]
  rw [String.utf8EncodeChar_eq_singleton one]
  intro x hx
  cases List.mem_singleton.mp hx
  simp only [isSpace, Bool.or_eq_false_iff, Bool.and_eq_false_iff, decide_eq_false_iff_not,
    ← UInt8.toNat_inj, UInt8.le_iff_toNat_le, UInt32.le_iff_toNat_le, UInt32.toNat_toUInt8] at *
  simp at *
  omega

theorem blank_toString (n : Nat) : ' ' ∉ (toString n).toList := by
  rw [Nat.toString_eq_ofList_toDigits, String.toList_ofList]
  intro mem
  have digit := Nat.isDigit_of_mem_toDigits (by decide) (by decide) mem
  exact absurd digit (by decide)

/-- ASCII text is one byte a character. -/
theorem utf8_ascii {l : List Char} (ascii : ∀ c ∈ l, c.toNat < 128) :
    utf8 (String.ofList l) = l.map fun c => UInt8.ofNat c.toNat := by
  rw [utf8_ofList]
  induction l with
  | nil => rfl
  | cons c l ih =>
    have low : c.val ≤ 0x7f := by
      have small : c.toNat < 128 := ascii c List.mem_cons_self
      exact UInt32.le_iff_toNat_le.mpr (Nat.le_of_lt_succ small)
    have one : c.utf8Size = 1 := by simp [Char.utf8Size, low]
    rw [List.flatMap_cons, String.utf8EncodeChar_eq_singleton one,
      ih fun c' mem => ascii c' (List.mem_cons_of_mem c mem)]
    rfl

/-- The characters that ASCII bytes stand for. -/
theorem ofNat_ascii {c : Char} (ascii : c.toNat < 128) : Char.ofNat (UInt8.ofNat c.toNat).toNat = c := by
  have small : (UInt8.ofNat c.toNat).toNat = c.toNat := Nat.mod_eq_of_lt (by omega)
  rw [small]
  exact Char.ofNat_toNat c

/-- A text whose bytes are ASCII has a character for each. -/
theorem toList_ascii {s : String} (ascii : ∀ b ∈ utf8 s, b.toNat < 128) :
    s.toList = (utf8 s).map fun b => Char.ofNat b.toNat := by
  have small : ∀ b ∈ utf8 s, (Char.ofNat b.toNat).toNat = b.toNat := by
    intro b mem
    have low : ∀ n < 128, (Char.ofNat n).toNat = n := by decide
    exact low b.toNat (ascii b mem)
  have chars : ∀ c ∈ (utf8 s).map (fun b => Char.ofNat b.toNat), c.toNat < 128 := by
    intro c mem
    obtain ⟨b, there, rfl⟩ := List.mem_map.mp mem
    rw [small b there]
    exact ascii b there
  have same : s = String.ofList ((utf8 s).map fun b => Char.ofNat b.toNat) := by
    rw [← utf8_inj, utf8_ascii chars, List.map_map]
    have each : ∀ b ∈ utf8 s, ((fun c : Char => UInt8.ofNat c.toNat) ∘ fun b : UInt8 => Char.ofNat b.toNat) b = b := by
      intro b mem
      show UInt8.ofNat (Char.ofNat b.toNat).toNat = b
      rw [small b mem, UInt8.ofNat_toNat]
    exact ((List.map_congr_left each).trans (List.map_id _)).symm
  exact (congrArg String.toList same).trans String.toList_ofList

theorem toString_ne_nil (n : Nat) : utf8 (toString n) ≠ [] := by
  intro h
  have empty : toString n = "" := utf8_inj.mp h
  rw [Nat.toString_eq_ofList_toDigits, String.ofList_eq_empty_iff] at empty
  exact Nat.toDigits_ne_nil empty

end Fireball.Foundation
