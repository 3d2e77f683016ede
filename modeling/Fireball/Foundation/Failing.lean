import Mathlib.Data.List.Forall2

/-!
# Calls that can fail

What the success of a sequence of calls says of each of them.
-/

namespace Fireball.Foundation

variable {ε α β : Type}

theorem bind_ok {first : Except ε α} {next : α → Except ε β} {b : β} :
    (first >>= next) = .ok b ↔ ∃ a, first = .ok a ∧ next a = .ok b := by
  cases first <;> simp [Bind.bind, Except.bind]

/-- A call that may fail and returns nothing. -/
def check (holds : Bool) (failure : ε) : Except ε Unit :=
  if holds then .ok () else .error failure

theorem check_ok {holds : Bool} {failure : ε} {u : Unit} :
    check holds failure = .ok u ↔ holds = true := by
  cases holds <;> simp [check]

theorem forM_ok {calls : α → Except ε Unit} {l : List α} {u : Unit} :
    l.forM calls = .ok u ↔ ∀ a ∈ l, calls a = .ok () := by
  induction l with
  | nil => simp [List.forM, pure, Except.pure]
  | cons a l ih =>
      change (calls a >>= fun _ => l.forM calls) = .ok u ↔ _
      rw [bind_ok, List.forall_mem_cons]
      constructor
      · rintro ⟨⟨⟩, first, rest⟩
        exact ⟨first, ih.mp rest⟩
      · rintro ⟨first, rest⟩
        exact ⟨(), first, ih.mpr rest⟩

/-- A search that finds nothing has asked everywhere. -/
theorem anyM_false {calls : α → Except ε Bool} {l : List α} :
    l.anyM calls = .ok false ↔ ∀ a ∈ l, calls a = .ok false := by
  induction l with
  | nil => simp [pure, Except.pure]
  | cons a l ih =>
      rw [List.anyM_cons, bind_ok, List.forall_mem_cons, ← ih]
      constructor
      · rintro ⟨found, first, rest⟩
        cases found with
        | true => cases rest
        | false => exact ⟨first, rest⟩
      · rintro ⟨first, rest⟩
        exact ⟨false, first, rest⟩

theorem mapM_ok {calls : α → Except ε β} {l : List α} {results : List β} :
    l.mapM calls = .ok results ↔ List.Forall₂ (fun a b => calls a = .ok b) l results := by
  induction l generalizing results with
  | nil =>
      rw [List.forall₂_nil_left_iff]
      simp [pure, Except.pure, eq_comm]
  | cons a l ih =>
      rw [List.mapM_cons, bind_ok]
      constructor
      · rintro ⟨b, first, rest⟩
        obtain ⟨bs, others, all⟩ := bind_ok.mp rest
        cases all
        exact .cons first (ih.mp others)
      · rintro (_ | ⟨first, rest⟩)
        exact ⟨_, first, bind_ok.mpr ⟨_, ih.mpr rest, rfl⟩⟩

end Fireball.Foundation
