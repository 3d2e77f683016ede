import Mathlib.Data.List.Nodup
import Mathlib.Algebra.BigOperators.Group.List.Basic
import Mathlib.Algebra.GroupWithZero.Nat

/-!
# JavaScript maps and sets

A `Map` keeps its entries in insertion order with each key once; writing a key
that is present keeps its place. A `Set` is a map to `Unit`.

* `get_set`, `get_delete`: reading after a write;
* `keys_set_new`, `keys_set`, `keys_delete`, `size_set_new`: the keys after one write;
* `weight_set_new`, `weight_set`, `weight_delete`: how a sum over the entries
  changes with one write;
* `get_deleteAll`: removing a list of keys one after the other.
-/

namespace Fireball.Foundation

variable {κ ν : Type} [DecidableEq κ]

/-- The value under `k` in an association list. -/
def lookupEntry (k : κ) : List (κ × ν) → Option ν
  | [] => none
  | (k', v) :: rest => if k' = k then some v else lookupEntry k rest

/-- Write `v` under `k`: in place when the key is present, else at the end. -/
def writeEntry (k : κ) (v : ν) : List (κ × ν) → List (κ × ν)
  | [] => [(k, v)]
  | (k', v') :: rest => if k' = k then (k, v) :: rest else (k', v') :: writeEntry k v rest

theorem lookupEntry_eq_none {k : κ} {l : List (κ × ν)} :
    lookupEntry k l = none ↔ k ∉ l.map Prod.fst := by
  induction l with
  | nil => simp [lookupEntry]
  | cons e rest ih =>
    simp only [lookupEntry, List.map_cons, List.mem_cons]
    by_cases h : e.1 = k
    · simp [h]
    · simp [h, ih, Ne.symm h]

theorem lookupEntry_eq_some {k : κ} {v : ν} {l : List (κ × ν)} (hn : (l.map Prod.fst).Nodup) :
    lookupEntry k l = some v ↔ (k, v) ∈ l := by
  induction l with
  | nil => simp [lookupEntry]
  | cons e rest ih =>
    obtain ⟨k', v'⟩ := e
    simp only [List.map_cons, List.nodup_cons] at hn
    simp only [lookupEntry, List.mem_cons, Prod.mk.injEq]
    by_cases h : k' = k
    · subst h
      have absent : (k', v) ∉ rest := fun hm => hn.1 (List.mem_map.mpr ⟨_, hm, rfl⟩)
      simp [absent, eq_comm]
    · simp [h, ih hn.2, Ne.symm h]

theorem lookupEntry_append {κ ν : Type} [DecidableEq κ] {key : κ} {value : ν}
    {l more : List (κ × ν)} (found : lookupEntry key l = some value) :
    lookupEntry key (l ++ more) = some value := by
  induction l with
  | nil => cases found
  | cons entry l ih =>
      simp only [List.cons_append, lookupEntry] at found ⊢
      split at found
      · next same => rwa [if_pos same]
      · next other => rw [if_neg other, ih found]

theorem keys_writeEntry (k : κ) (v : ν) (l : List (κ × ν)) :
    (writeEntry k v l).map Prod.fst =
      if k ∈ l.map Prod.fst then l.map Prod.fst else l.map Prod.fst ++ [k] := by
  induction l with
  | nil => simp [writeEntry]
  | cons e rest ih =>
    simp only [writeEntry]
    by_cases h : e.1 = k
    · simp [h]
    · by_cases hm : k ∈ rest.map Prod.fst <;> simp_all [Ne.symm h]

theorem lookupEntry_writeEntry (k j : κ) (v : ν) (l : List (κ × ν)) :
    lookupEntry j (writeEntry k v l) = if k = j then some v else lookupEntry j l := by
  induction l with
  | nil => simp [writeEntry, lookupEntry]
  | cons e rest ih =>
    simp only [writeEntry]
    by_cases h : e.1 = k
    · subst h
      by_cases hj : e.1 = j <;> simp [lookupEntry, hj]
    · by_cases hj : e.1 = j
      · subst hj; simp [lookupEntry, h, Ne.symm h]
      · simp [lookupEntry, h, hj, ih]

theorem lookupEntry_filter_ne (k j : κ) (l : List (κ × ν)) :
    lookupEntry j (l.filter fun e => e.1 ≠ k) = if k = j then none else lookupEntry j l := by
  induction l with
  | nil => simp [lookupEntry]
  | cons e rest ih =>
    by_cases h : e.1 = k
    · simp only [List.filter_cons, h, ne_eq, not_true_eq_false, decide_false, Bool.false_eq_true,
        if_false]
      rw [ih]
      by_cases hj : k = j <;> simp [lookupEntry, h, hj]
    · simp only [List.filter_cons, ne_eq, h, not_false_eq_true, decide_true, if_true, lookupEntry]
      rw [ih]
      by_cases hj : e.1 = j
      · simp [hj, show k ≠ j from fun e' => h (hj.trans e'.symm)]
      · simp [hj]

/-- A `Map`: entries in insertion order, each key once. -/
structure JsMap (κ ν : Type) where
  entries : List (κ × ν)
  nodup : (entries.map Prod.fst).Nodup
  deriving DecidableEq

/-- A `Set`, in insertion order. -/
abbrev JsSet (κ : Type) := JsMap κ Unit

namespace JsMap

def empty : JsMap κ ν := ⟨[], List.nodup_nil⟩

def get (m : JsMap κ ν) (k : κ) : Option ν := lookupEntry k m.entries

def has (m : JsMap κ ν) (k : κ) : Bool := (m.get k).isSome

def set (m : JsMap κ ν) (k : κ) (v : ν) : JsMap κ ν where
  entries := writeEntry k v m.entries
  nodup := by
    rw [keys_writeEntry]
    split
    · exact m.nodup
    · rename_i absent
      refine List.nodup_append.mpr ⟨m.nodup, List.nodup_singleton k, ?_⟩
      intro a ha b hb
      rw [List.mem_singleton.mp hb]
      rintro rfl
      exact absent ha

def delete (m : JsMap κ ν) (k : κ) : JsMap κ ν where
  entries := m.entries.filter fun e => e.1 ≠ k
  nodup := m.nodup.sublist (List.filter_sublist.map _)

def keys (m : JsMap κ ν) : List κ := m.entries.map Prod.fst

def values (m : JsMap κ ν) : List ν := m.entries.map Prod.snd

def size (m : JsMap κ ν) : Nat := m.entries.length

/-- `set.add`. -/
def add (m : JsSet κ) (k : κ) : JsSet κ := m.set k ()

/-- `for (const k of ks) m.delete(k)`. -/
def deleteAll (m : JsMap κ ν) (ks : List κ) : JsMap κ ν := ks.foldl delete m

/-- Replace every value. -/
def mapValues {ω : Type} (m : JsMap κ ν) (f : κ → ν → ω) : JsMap κ ω where
  entries := m.entries.map fun e => (e.1, f e.1 e.2)
  nodup := by
    rw [List.map_map]
    exact m.nodup

/-- The sum of `w` over the entries. -/
def weight (m : JsMap κ ν) (w : ν → Nat) : Nat := (m.values.map w).sum

variable {m : JsMap κ ν} {k j : κ} {u v : ν}

@[simp] theorem get_empty : (empty : JsMap κ ν).get k = none := rfl

theorem get_set (m : JsMap κ ν) (k j : κ) (v : ν) :
    (m.set k v).get j = if k = j then some v else m.get j :=
  lookupEntry_writeEntry k j v m.entries

@[simp] theorem get_set_self : (m.set k v).get k = some v := by simp [get_set]

theorem get_set_ne (h : k ≠ j) : (m.set k v).get j = m.get j := by simp [get_set, h]

/-- Writing back what is there. -/
theorem set_get_self (h : m.get k = some v) : m.set k v = m := by
  have same : ∀ l : List (κ × ν), lookupEntry k l = some v → writeEntry k v l = l := by
    intro l
    induction l with
    | nil => simp [lookupEntry]
    | cons e rest ih =>
      intro found
      by_cases here : e.1 = k
      · obtain ⟨key, value⟩ := e
        cases here
        simp only [lookupEntry, if_true, Option.some.injEq] at found
        simp only [writeEntry, if_true, found]
      · simp only [lookupEntry, here, if_false] at found
        simp only [writeEntry, here, if_false, ih found]
  cases m
  simpa [set] using same _ h

theorem get_delete (m : JsMap κ ν) (k j : κ) :
    (m.delete k).get j = if k = j then none else m.get j :=
  lookupEntry_filter_ne k j m.entries

@[simp] theorem get_delete_self : (m.delete k).get k = none := by simp [get_delete]

theorem get_delete_ne (h : k ≠ j) : (m.delete k).get j = m.get j := by simp [get_delete, h]

theorem get_eq_some : m.get k = some v ↔ (k, v) ∈ m.entries := lookupEntry_eq_some m.nodup

theorem get_eq_none : m.get k = none ↔ k ∉ m.keys := lookupEntry_eq_none

theorem has_iff : m.has k = true ↔ ∃ v, m.get k = some v := by
  simp [has, Option.isSome_iff_exists]

theorem mem_keys : k ∈ m.keys ↔ ∃ v, m.get k = some v := by
  rw [← not_iff_not, ← get_eq_none]
  cases m.get k <;> simp

omit [DecidableEq κ] in
theorem keys_nodup (m : JsMap κ ν) : m.keys.Nodup := m.nodup

omit [DecidableEq κ] in
theorem length_keys (m : JsMap κ ν) : m.keys.length = m.size := List.length_map ..

theorem keys_set_new (h : m.get k = none) : (m.set k v).keys = m.keys ++ [k] :=
  (keys_writeEntry k v m.entries).trans (if_neg (get_eq_none.mp h))

theorem keys_set (h : m.get k = some u) : (m.set k v).keys = m.keys :=
  (keys_writeEntry k v m.entries).trans (if_pos (mem_keys.mpr ⟨u, h⟩))

theorem keys_delete (m : JsMap κ ν) (k : κ) : (m.delete k).keys = m.keys.filter (· ≠ k) := by
  simp only [keys, delete, List.filter_map]
  rfl

theorem size_set_new (h : m.get k = none) : (m.set k v).size = m.size + 1 := by
  rw [← length_keys, keys_set_new h, List.length_append, length_keys]
  rfl

theorem size_set (h : m.get k = some u) : (m.set k v).size = m.size := by
  rw [← length_keys, keys_set h, length_keys]

theorem size_delete_le (m : JsMap κ ν) (k : κ) : (m.delete k).size ≤ m.size := List.length_filter_le ..

theorem size_pos (h : m.get k = some v) : 1 ≤ m.size := by
  rw [← length_keys]
  exact List.length_pos_of_mem (mem_keys.mpr ⟨v, h⟩)

theorem mem_values : v ∈ m.values ↔ ∃ k, m.get k = some v := by
  simp [values, get_eq_some]

theorem get_mapValues {ω : Type} (m : JsMap κ ν) (f : κ → ν → ω) (k : κ) :
    (m.mapValues f).get k = (m.get k).map (f k) := by
  obtain ⟨entries, nodup⟩ := m
  simp only [mapValues, get]
  clear nodup
  induction entries with
  | nil => rfl
  | cons e rest ih =>
    simp only [List.map_cons, lookupEntry]
    by_cases h : e.1 = k
    · simp [h]
    · simp [h, ih]

theorem get_deleteAll (m : JsMap κ ν) (ks : List κ) (j : κ) :
    (m.deleteAll ks).get j = if j ∈ ks then none else m.get j := by
  induction ks generalizing m with
  | nil => simp [deleteAll]
  | cons k ks ih =>
    have step : (m.deleteAll (k :: ks)) = (m.delete k).deleteAll ks := rfl
    rw [step, ih, get_delete]
    by_cases hk : k = j
    · simp [hk]
    · simp [hk, Ne.symm hk]

theorem has_set (m : JsMap κ ν) (k j : κ) (v : ν) :
    (m.set k v).has j = (decide (k = j) || m.has j) := by
  by_cases h : k = j <;> simp [has, get_set, h]

theorem has_set_known (h : m.get k = some u) (j : κ) : (m.set k v).has j = m.has j := by
  rw [has_set]
  by_cases same : k = j
  · simp [← same, has, h]
  · simp [same]

theorem has_add (m : JsSet κ) (k j : κ) : (m.add k).has j = (decide (k = j) || m.has j) :=
  has_set m k j ()

theorem has_delete (m : JsMap κ ν) (k j : κ) :
    (m.delete k).has j = (!decide (k = j) && m.has j) := by
  by_cases h : k = j <;> simp [has, get_delete, h]

theorem mem_keys_iff_has : k ∈ m.keys ↔ m.has k = true := by rw [mem_keys, has_iff]

private theorem sum_writeEntry_new (w : ν → Nat) (k : κ) (v : ν) (l : List (κ × ν))
    (h : lookupEntry k l = none) :
    ((writeEntry k v l).map (w ∘ Prod.snd)).sum = (l.map (w ∘ Prod.snd)).sum + w v := by
  induction l with
  | nil => simp [writeEntry]
  | cons e rest ih =>
    by_cases he : e.1 = k
    · simp [lookupEntry, he] at h
    · simp only [lookupEntry, he, if_false] at h
      simp [writeEntry, he, ih h, Nat.add_assoc]

private theorem sum_writeEntry_old (w : ν → Nat) (k : κ) (v u : ν) (l : List (κ × ν))
    (h : lookupEntry k l = some u) :
    ((writeEntry k v l).map (w ∘ Prod.snd)).sum + w u = (l.map (w ∘ Prod.snd)).sum + w v := by
  induction l with
  | nil => simp [lookupEntry] at h
  | cons e rest ih =>
    by_cases he : e.1 = k
    · simp only [lookupEntry, he, if_true, Option.some.injEq] at h
      simp only [writeEntry, he, if_true, List.map_cons, List.sum_cons, Function.comp_apply, ← h]
      omega
    · simp only [lookupEntry, he, if_false] at h
      have := ih h
      simp only [writeEntry, he, if_false, List.map_cons, List.sum_cons, Function.comp_apply]
      omega

private theorem sum_filter_ne (w : ν → Nat) (k : κ) (v : ν) (l : List (κ × ν))
    (hn : (l.map Prod.fst).Nodup) (h : lookupEntry k l = some v) :
    ((l.filter fun e => e.1 ≠ k).map (w ∘ Prod.snd)).sum + w v =
      (l.map (w ∘ Prod.snd)).sum := by
  induction l with
  | nil => simp [lookupEntry] at h
  | cons e rest ih =>
    simp only [List.map_cons, List.nodup_cons] at hn
    by_cases he : e.1 = k
    · simp only [lookupEntry, he, if_true, Option.some.injEq] at h
      have keep : rest.filter (fun e => e.1 ≠ k) = rest := by
        apply List.filter_eq_self.mpr
        intro a ha
        have : a.1 ≠ k := fun e' => hn.1 (List.mem_map.mpr ⟨a, ha, by rw [e', he]⟩)
        simpa using this
      simp only [List.filter_cons, he, ne_eq, not_true_eq_false, decide_false, Bool.false_eq_true,
        if_false]
      rw [keep]
      simp [h, Nat.add_comm]
    · simp only [lookupEntry, he, if_false] at h
      have := ih hn.2 h
      simp only [List.filter_cons, ne_eq, he, not_false_eq_true, decide_true, if_true,
        List.map_cons, List.sum_cons, Function.comp_apply]
      simp only [ne_eq] at this
      omega

omit [DecidableEq κ] in
theorem weight_eq (m : JsMap κ ν) (w : ν → Nat) :
    m.weight w = (m.entries.map (w ∘ Prod.snd)).sum := by
  simp [weight, values, List.map_map]

theorem weight_set_new (w : ν → Nat) (h : m.get k = none) :
    (m.set k v).weight w = m.weight w + w v := by
  rw [weight_eq, weight_eq]; exact sum_writeEntry_new w k v m.entries h

theorem weight_set {u : ν} (w : ν → Nat) (h : m.get k = some u) :
    (m.set k v).weight w + w u = m.weight w + w v := by
  rw [weight_eq, weight_eq]; exact sum_writeEntry_old w k v u m.entries h

theorem weight_delete (w : ν → Nat) (h : m.get k = some v) :
    (m.delete k).weight w + w v = m.weight w := by
  rw [weight_eq, weight_eq]; exact sum_filter_ne w k v m.entries m.nodup h

theorem delete_of_get_none (h : m.get k = none) : m.delete k = m := by
  have keep : m.entries.filter (fun e => e.1 ≠ k) = m.entries := by
    apply List.filter_eq_self.mpr
    intro a ha
    have : a.1 ≠ k := fun e => get_eq_none.mp h (List.mem_map.mpr ⟨a, ha, e⟩)
    simpa using this
  cases m
  simpa [delete] using keep

/-- Taking back an entry that was new. -/
theorem delete_set_new (h : m.get k = none) : (m.set k v).delete k = m := by
  have absent : k ∉ m.entries.map Prod.fst := get_eq_none.mp h
  have kept : ∀ l : List (κ × ν), k ∉ l.map Prod.fst →
      (writeEntry k v l).filter (fun e => e.1 ≠ k) = l := by
    intro l
    induction l with
    | nil => simp [writeEntry]
    | cons e rest ih =>
      intro fresh
      simp only [List.map_cons, List.mem_cons, not_or] at fresh
      have differs : decide (e.1 ≠ k) = true := by simpa using Ne.symm fresh.1
      simp only [writeEntry, if_neg (Ne.symm fresh.1), List.filter_cons, differs, if_true, ih fresh.2]
  cases m
  simpa [delete, set] using kept _ absent

theorem weight_set_le (w : ν → Nat) : (m.set k v).weight w ≤ m.weight w + w v := by
  cases h : m.get k with
  | none => exact Nat.le_of_eq (weight_set_new w h)
  | some u => have := weight_set (v := v) w h; omega

theorem weight_delete_le (w : ν → Nat) : (m.delete k).weight w ≤ m.weight w := by
  cases h : m.get k with
  | none => exact Nat.le_of_eq (by rw [delete_of_get_none h])
  | some u => have := weight_delete w h; omega

end JsMap

end Fireball.Foundation
