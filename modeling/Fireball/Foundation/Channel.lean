import Mathlib.Data.List.Basic
import Mathlib.Data.List.Infix

/-!
# Channels in order

What one side puts in, the other takes out in the same order, each at most once and
at any later time. A channel that breaks is one from which nothing more is taken.

* `received_isPrefix`: what was taken begins what was put in;
* `take?_received`, `put_received`: what the two operations change.
-/

namespace Fireball.Foundation

structure Channel (α : Type) where
  /-- Everything that was put in, oldest first. -/
  sent : List α
  /-- How much of it was taken out. -/
  taken : Nat
  bound : taken ≤ sent.length

namespace Channel

variable {α : Type}

def empty : Channel α := ⟨[], 0, Nat.le_refl _⟩

def put (ch : Channel α) (items : List α) : Channel α where
  sent := ch.sent ++ items
  taken := ch.taken
  bound := by
    rw [List.length_append]
    exact Nat.le_add_right_of_le ch.bound

/-- What was taken out, oldest first. -/
def received (ch : Channel α) : List α := ch.sent.take ch.taken

/-- Take the next item out, if there is one. -/
def take? (ch : Channel α) : Option (α × Channel α) :=
  if h : ch.taken < ch.sent.length then
    some (ch.sent[ch.taken], ⟨ch.sent, ch.taken + 1, h⟩)
  else none

variable {ch later : Channel α} {items : List α} {item : α}

@[simp] theorem empty_sent : (empty : Channel α).sent = [] := rfl

@[simp] theorem empty_received : (empty : Channel α).received = [] := rfl

@[simp] theorem put_sent : (ch.put items).sent = ch.sent ++ items := rfl

@[simp] theorem put_received : (ch.put items).received = ch.received :=
  List.take_append_of_le_length ch.bound

@[simp] theorem put_nil : ch.put [] = ch := by
  simp [put]

theorem received_isPrefix (ch : Channel α) : ch.received <+: ch.sent := List.take_prefix ..

theorem take?_eq_some (h : ch.take? = some (item, later)) :
    ch.sent[ch.taken]? = some item ∧ later.sent = ch.sent ∧ later.taken = ch.taken + 1 := by
  unfold take? at h
  split at h
  · rename_i more
    cases h
    exact ⟨List.getElem?_eq_getElem more, rfl, rfl⟩
  · cases h

theorem take?_sent (h : ch.take? = some (item, later)) : later.sent = ch.sent :=
  (take?_eq_some h).2.1

theorem take?_received (h : ch.take? = some (item, later)) :
    later.received = ch.received ++ [item] := by
  obtain ⟨here, sent, taken⟩ := take?_eq_some h
  rw [received, sent, taken, List.take_add_one, here]
  rfl

/-- The item that is taken continues what was taken before. -/
theorem take?_isPrefix (h : ch.take? = some (item, later)) : ch.received ++ [item] <+: ch.sent := by
  have whole := received_isPrefix later
  rwa [take?_received h, take?_sent h] at whole

theorem take?_isSome (more : ch.received ≠ ch.sent) : ∃ item later, ch.take? = some (item, later) := by
  unfold take?
  by_cases h : ch.taken < ch.sent.length
  · rw [dif_pos h]
    exact ⟨_, _, rfl⟩
  · apply absurd _ more
    apply List.take_of_length_le
    omega

/-- The first item is the one the sender put in first. -/
theorem take?_first {first : α} {rest : List α} (h : ch.take? = some (item, later))
    (fresh : ch.received = []) (sent : ch.sent = first :: rest) : item = first := by
  have whole := take?_isPrefix h
  rw [fresh, sent, List.nil_append] at whole
  exact (List.cons_prefix_cons.mp whole).1

end Channel

end Fireball.Foundation
