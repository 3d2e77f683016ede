import Mathlib.Data.List.Basic

/-!
# Terminated parts

A list that is its parts one after the other, each with a terminator behind it:
lines, or the tokens of an argument file.

* `terminated_partsOf`, `partsOf_terminated`: a terminated list and its parts;
* `idxOf_terminated`: where the first part ends.
-/

namespace Fireball.Foundation

variable {α : Type} {stop : α} {parts rest : List (List α)} {part : List α}

def terminated (stop : α) (parts : List (List α)) : List α := parts.flatMap (· ++ [stop])

@[simp] theorem terminated_nil : terminated stop [] = [] := rfl

@[simp] theorem terminated_cons :
    terminated stop (part :: rest) = part ++ stop :: terminated stop rest := by
  simp [terminated]

@[simp] theorem terminated_append :
    terminated stop (parts ++ rest) = terminated stop parts ++ terminated stop rest :=
  List.flatMap_append

variable (stop parts) in
theorem parts_le_terminated : parts.length ≤ (terminated stop parts).length := by
  induction parts with
  | nil => exact Nat.le_refl 0
  | cons first rest ih =>
      simp only [terminated_cons, List.length_append, List.length_cons]
      omega

theorem terminated_eq_intercalate (nonempty : parts ≠ []) :
    terminated stop parts = [stop].intercalate parts ++ [stop] := by
  induction parts with
  | nil => exact absurd rfl nonempty
  | cons first rest ih =>
      cases rest with
      | nil => simp
      | cons second rest =>
          rw [terminated_cons, ih (List.cons_ne_nil _ _)]
          simp [List.intercalate]

variable [BEq α] [LawfulBEq α]

/-- The parts of a list that ends in a terminator. -/
def partsOf (stop : α) (l : List α) : List (List α) := l.dropLast.splitOn stop

theorem terminated_partsOf {l : List α} (ended : l.getLast? = some stop) :
    terminated stop (partsOf stop l) = l := by
  rw [partsOf, terminated_eq_intercalate (List.splitOn_ne_nil _ _), List.intercalate_splitOn]
  exact List.dropLast_append_getLast? stop ended

theorem partsOf_terminated (free : ∀ part ∈ parts, stop ∉ part) (nonempty : parts ≠ []) :
    partsOf stop (terminated stop parts) = parts := by
  rw [partsOf, terminated_eq_intercalate nonempty, List.dropLast_concat,
    List.splitOn_intercalate stop free nonempty]

theorem splitOn_free (l : List α) : ∀ part ∈ l.splitOn stop, stop ∉ part := by
  induction l with
  | nil => simp
  | cons x l ih =>
      rw [List.splitOn_cons_eq_if_modifyHead]
      split
      · intro part mem
        rcases List.mem_cons.mp mem with rfl | mem
        · exact List.not_mem_nil
        · exact ih part mem
      · next other =>
          cases split : l.splitOn stop with
          | nil => exact absurd split (List.splitOn_ne_nil _ _)
          | cons first rest =>
              rw [split] at ih
              intro part mem
              rcases List.mem_cons.mp mem with rfl | mem
              · have apart : stop ≠ x := fun same => other (by simp [same])
                simpa [apart] using ih first List.mem_cons_self
              · exact ih part (List.mem_cons_of_mem _ mem)

theorem partsOf_free (l : List α) : ∀ part ∈ partsOf stop l, stop ∉ part :=
  splitOn_free l.dropLast

theorem idxOf_terminated {l : List α} (free : stop ∉ part) :
    (part ++ stop :: l).idxOf? stop = some part.length := by
  induction part with
  | nil => simp [List.idxOf?_cons]
  | cons x part ih =>
      obtain ⟨apart, free⟩ := List.ne_and_not_mem_of_not_mem_cons free
      have other : (x == stop) = false := by simpa using Ne.symm apart
      simp [List.idxOf?_cons, other, ih free]

end Fireball.Foundation
