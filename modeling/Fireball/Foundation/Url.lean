import Fireball.Foundation.Bytes

/-!
# URLs

The members of a parsed `URL` that the program reads. The parser itself is a
parameter of each component that uses it.

* `encode_unreserved`, `percent_encode`, `slash_encode`: what `encodeURIComponent` leaves;
* `percentDecode_percentEncode`: a byte through its `%XX`.
-/

namespace Fireball.Foundation

structure Url where
  href : String
  protocol : String
  username : String
  password : String
  hostname : String
  pathname : String
  search : String
  hash : String
  deriving DecidableEq, Repr

/-- The characters that `encodeURIComponent` leaves as they are. -/
def isUriUnreserved (c : Char) : Bool :=
  ('a' ≤ c && c ≤ 'z') || ('A' ≤ c && c ≤ 'Z') || c.isDigit || c ∈ "-_.!~*'()".toList

/-- `%XX`. -/
def percentEncode (b : UInt8) : List Char :=
  let digit := fun n => "0123456789ABCDEF".toList.getD n '0'
  ['%', digit (b.toNat / 16), digit (b.toNat % 16)]

def encodeURIComponent (s : String) : String :=
  String.ofList (s.toList.flatMap fun c =>
    if isUriUnreserved c then [c] else (String.utf8EncodeChar c).flatMap percentEncode)

example : encodeURIComponent "urn:uuid/é" = "urn%3Auuid%2F%C3%A9" := by decide +kernel

theorem encode_unreserved {id : String} (h : ∀ ch ∈ id.toList, isUriUnreserved ch = true) :
    encodeURIComponent id = id := by
  have same : ∀ l : List Char, (∀ ch ∈ l, isUriUnreserved ch = true) →
      l.flatMap (fun c => if isUriUnreserved c then [c]
        else (String.utf8EncodeChar c).flatMap percentEncode) = l := by
    intro l
    induction l with
    | nil => exact fun _ => rfl
    | cons ch rest ih =>
      intro all
      rw [List.flatMap_cons, if_pos (all ch List.mem_cons_self),
        ih fun c mem => all c (List.mem_cons_of_mem _ mem)]
      rfl
  rw [encodeURIComponent, same _ h, String.ofList_toList]

theorem slash_encode (id : String) : '/' ∉ (encodeURIComponent id).toList := by
  have digits : ∀ n, '/' ≠ "0123456789ABCDEF".toList.getD n '0' := by
    intro n same
    have all : '/' ∉ "0123456789ABCDEF".toList := by decide
    rw [List.getD_eq_getElem?_getD] at same
    cases found : "0123456789ABCDEF".toList[n]? with
    | none =>
      rw [found] at same
      exact absurd same (by decide)
    | some d =>
      rw [found] at same
      have digit : '/' = d := same
      exact all (digit ▸ List.mem_of_getElem? found)
  rw [encodeURIComponent, String.toList_ofList]
  intro mem
  obtain ⟨c, -, mem⟩ := List.mem_flatMap.mp mem
  split at mem
  · rename_i unreserved
    cases List.mem_singleton.mp mem
    exact absurd unreserved (by decide)
  · obtain ⟨b, -, digit⟩ := List.mem_flatMap.mp mem
    simp only [percentEncode, List.mem_cons, List.not_mem_nil, or_false] at digit
    rcases digit with percent | high | low
    · exact absurd percent (by decide)
    · exact digits _ high
    · exact digits _ low

/-- Every character that is encoded leaves a `%`. -/
theorem percent_encode {id : String} {ch : Char} (mem : ch ∈ id.toList)
    (reserved : isUriUnreserved ch ≠ true) : '%' ∈ (encodeURIComponent id).toList := by
  obtain ⟨b, byte⟩ := List.exists_mem_of_ne_nil _ (String.utf8EncodeChar_ne_nil (c := ch))
  rw [encodeURIComponent, String.toList_ofList]
  refine List.mem_flatMap.mpr ⟨ch, mem, ?_⟩
  rw [if_neg reserved]
  exact List.mem_flatMap.mpr ⟨b, byte, List.mem_cons_self⟩

/-! ## Decoding -/

def upperHexValue (c : Char) : Nat := "0123456789ABCDEF".toList.idxOf c

/-- The bytes of a text with `%XX` in it. -/
def percentDecode : List Char → Bytes
  | '%' :: high :: low :: rest =>
    UInt8.ofNat (16 * upperHexValue high + upperHexValue low) :: percentDecode rest
  | c :: rest => String.utf8EncodeChar c ++ percentDecode rest
  | [] => []

theorem percentDecode_cons {c : Char} (plain : c ≠ '%') (rest : List Char) :
    percentDecode (c :: rest) = String.utf8EncodeChar c ++ percentDecode rest := by
  rw [percentDecode]
  rintro high low rest rfl
  exact absurd rfl plain

theorem upperHexValue_digit {n : Nat} (low : n < 16) :
    upperHexValue ("0123456789ABCDEF".toList.getD n '0') = n := by
  have digits : ∀ m ∈ List.range 16, upperHexValue ("0123456789ABCDEF".toList.getD m '0') = m := by decide
  exact digits n (List.mem_range.mpr low)

theorem percentDecode_percentEncode (b : UInt8) (rest : List Char) :
    percentDecode (percentEncode b ++ rest) = b :: percentDecode rest := by
  have bound : b.toNat < 256 := b.toNat_lt
  simp only [percentEncode, List.cons_append, List.nil_append, percentDecode]
  rw [upperHexValue_digit (by omega), upperHexValue_digit (by omega)]
  have value : 16 * (b.toNat / 16) + b.toNat % 16 = b.toNat := by omega
  rw [value, UInt8.ofNat_toNat]

theorem percentDecode_flatMap (bytes : Bytes) (rest : List Char) :
    percentDecode (bytes.flatMap percentEncode ++ rest) = bytes ++ percentDecode rest := by
  induction bytes with
  | nil => rfl
  | cons b bytes ih =>
    rw [List.flatMap_cons, List.append_assoc, percentDecode_percentEncode, ih, List.cons_append]

end Fireball.Foundation
