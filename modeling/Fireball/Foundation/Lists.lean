import Mathlib.Algebra.BigOperators.Group.List.Basic
import Mathlib.Algebra.GroupWithZero.Nat
import Mathlib.Data.List.Forall2
import Mathlib.Data.List.Nodup
import Mathlib.Data.List.TakeWhile

/-!
# Lists

What is asked of lists beside what the library has.

* `tail_grows`, `takeWhile_grows`, `suffix_append`: the parts of a list that goes on;
* `filter_single`, `filter_kept`: filters;
* `find_key`: the element with a key, where no two have the same;
* `mapM_map_some`, `forall₂_exists`, `pairwise_forall₂`: a list beside what is made of it.
-/

namespace Fireball.Foundation

/-! ## Beginnings and ends -/

theorem tail_grows {α : Type} (a b : List α) : a.tail <+: (a ++ b).tail := by
  cases a with
  | nil => exact List.nil_prefix
  | cons x a => exact List.prefix_append a b

theorem suffix_append {α : Type} {x : α} {older es log : List α} (h : x :: older <:+ es ++ log) :
    x :: older <:+ log ∨ x ∈ es ∧ log <:+ older := by
  induction es with
  | nil => exact .inl h
  | cons y es ih =>
    rcases List.suffix_cons_iff.mp h with same | later
    · cases same
      exact .inr ⟨List.mem_cons_self .., List.suffix_append es log⟩
    · rcases ih later with before | ⟨hm, suffix⟩
      · exact .inl before
      · exact .inr ⟨List.mem_cons_of_mem _ hm, suffix⟩

theorem takeWhile_of_mem {α : Type} {p : α → Bool} {l : List α} {x : α} (mem : x ∈ l)
    (stops : p x = false) (more : List α) : (l ++ more).takeWhile p = l.takeWhile p := by
  rw [List.takeWhile_append, if_neg]
  intro all
  have same := List.IsPrefix.eq_of_length (List.takeWhile_prefix p) all
  have holds := List.mem_takeWhile_imp (same.symm ▸ mem)
  rw [stops] at holds
  cases holds

theorem takeWhile_grows {α : Type} (p : α → Bool) (l more : List α) :
    l.takeWhile p <+: (l ++ more).takeWhile p := by
  rw [List.takeWhile_append]
  split
  · exact (List.takeWhile_prefix p).trans (List.prefix_append _ _)
  · exact List.prefix_refl _

theorem intercalate_infix {s part : String} {parts : List String} (mem : part ∈ parts) :
    ∃ before after, s.intercalate parts = before ++ part ++ after := by
  induction parts with
  | nil => cases mem
  | cons head rest ih =>
    cases rest with
    | nil =>
      cases List.mem_singleton.mp mem
      exact ⟨"", "", by simp⟩
    | cons next rest =>
      rw [String.intercalate_cons_cons]
      rcases List.mem_cons.mp mem with rfl | mem
      · exact ⟨"", s ++ s.intercalate (next :: rest), by simp [String.append_assoc]⟩
      · obtain ⟨before, after, eq⟩ := ih mem
        exact ⟨head ++ s ++ before, after, by simp [eq, String.append_assoc]⟩

/-! ## Filters and searches -/

/-- The list has an element of the kind in exactly one place. -/
theorem filter_single {α : Type} {p : α → Bool} {l : List α} {a : α} :
    l.filter p = [a] ↔ ∃ before after, l = before ++ a :: after ∧ p a = true ∧
      ∀ b ∈ before ++ after, ¬ p b = true := by
  rw [List.filter_eq_cons_iff]
  constructor
  · rintro ⟨before, after, rfl, none, own, rest⟩
    refine ⟨before, after, rfl, own, fun b mem => ?_⟩
    rcases List.mem_append.mp mem with mem | mem
    · exact none b mem
    · exact List.filter_eq_nil_iff.mp rest b mem
  · rintro ⟨before, after, rfl, own, none⟩
    exact ⟨before, after, rfl, fun b mem => none b (List.mem_append_left _ mem), own,
      List.filter_eq_nil_iff.mpr fun b mem => none b (List.mem_append_right _ mem)⟩

/-- A filter that keeps the elements of `p` leaves them as they are. -/
theorem filter_kept {α : Type} {p q : α → Bool} {l : List α} (kept : ∀ a ∈ l, p a = true → q a = true) :
    (l.filter q).filter p = l.filter p := by
  rw [List.filter_filter]
  apply List.filter_congr
  intro a mem
  cases hp : p a with
  | false => rfl
  | true => simp [kept a mem hp]

theorem length_filter_eq_sum {α : Type} (p : α → Prop) [DecidablePred p] (l : List α) :
    (l.filter fun a => p a).length = (l.map fun a => if p a then 1 else 0).sum := by
  induction l with
  | nil => rfl
  | cons a l ih =>
    by_cases h : p a
    · simp only [List.filter_cons, h, decide_true, if_true, List.length_cons, ih, List.map_cons,
        List.sum_cons]
      omega
    · simp [h, ih]

theorem find_key {α β : Type} [DecidableEq β] (key : α → β) {l : List α} {a : α}
    (distinct : (l.map key).Nodup) (mem : a ∈ l) : l.find? (fun b => key b = key a) = some a := by
  cases found : l.find? (fun b => key b = key a) with
  | none =>
      have other := List.find?_eq_none.mp found a mem
      simp at other
  | some b =>
      have same : key b = key a := by simpa using List.find?_some found
      rw [List.inj_on_of_nodup_map distinct (List.mem_of_find?_eq_some found) mem same]

theorem mem_of_lookup {α β : Type} [DecidableEq α] {key : α} {value : β} {l : List (α × β)}
    (found : l.lookup key = some value) : (key, value) ∈ l := by
  obtain ⟨before, after, rfl, -⟩ := List.lookup_eq_some_iff.mp found
  exact List.mem_append_right before List.mem_cons_self

/-! ## Element by element -/

theorem mapM_map_some {α β : Type} {read : β → Option α} {write : α → β} {l : List α}
    (h : ∀ a ∈ l, read (write a) = some a) : (l.map write).mapM read = some l := by
  induction l with
  | nil => rfl
  | cons a l ih =>
    rw [List.map_cons, List.mapM_cons, h a List.mem_cons_self, ih fun b mem => h b (List.mem_cons_of_mem _ mem)]
    rfl

theorem forall₂_exists {α β : Type} {related : α → β → Prop} {l : List α} (h : ∀ a ∈ l, ∃ b, related a b) :
    ∃ l', List.Forall₂ related l l' := by
  induction l with
  | nil => exact ⟨[], .nil⟩
  | cons a l ih =>
    obtain ⟨b, first⟩ := h a List.mem_cons_self
    obtain ⟨l', rest⟩ := ih fun a mem => h a (List.mem_cons_of_mem _ mem)
    exact ⟨b :: l', .cons first rest⟩

theorem pairwise_forall₂ {α β : Type} {related : α → β → Prop} {P : α → α → Prop} {Q : β → β → Prop} {l : List α}
    {l' : List β} (h : List.Forall₂ related l l')
    (same : ∀ a b a' b', related a b → related a' b' → (P a a' ↔ Q b b')) : l.Pairwise P ↔ l'.Pairwise Q := by
  induction h with
  | nil => simp
  | @cons a b l l' first rest ih =>
    have each : (∀ a' ∈ l, P a a') ↔ ∀ b' ∈ l', Q b b' := by
      clear ih
      induction rest with
      | nil => simp
      | cons next _ ih => rw [List.forall_mem_cons, List.forall_mem_cons, ih, same _ _ _ _ first next]
    rw [List.pairwise_cons, List.pairwise_cons, ih, each]

end Fireball.Foundation
