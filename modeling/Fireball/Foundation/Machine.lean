import Mathlib.Order.Defs.Unbundled

/-!
# Machines driven by events

A machine has one initial state and a partial step function: `step s e = none`
says that event `e` cannot happen in `s`. A run may be restricted to the steps
a predicate `allowed` admits, which is how an assumption on the environment or
a condition on the schedule is stated.

* `Reaches.invariant`: what every allowed step preserves holds along a run;
* `Reachable.invariant`: the same from the initial state, with reachability
  itself at hand in the step case;
* `clear_iff_admits`: what a run avoids, step by step;
* `throughout_iff_admits`: what a run keeps from each state on;
* `each_iff_admits`: what is said of every step of a run;
* `runFrom_invariant`: the run rule for what is said about the events so far;
* `reaches_of_runs`: a run given as a list of events is a witness;
* `watched`: the machine beside a history variable, which no step reads.
-/

namespace Fireball.Foundation

structure Machine (σ ε : Type) where
  init : σ
  step : σ → ε → Option σ

namespace Machine

variable {σ ε : Type} (M : Machine σ ε)

/-- `t` is reached from `s` by steps that `allowed` admits. -/
inductive Reaches (allowed : σ → ε → Prop) (s : σ) : σ → Prop
  | refl : Reaches allowed s s
  | step {t u : σ} {e : ε} : Reaches allowed s t → allowed t e → M.step t e = some u →
      Reaches allowed s u

abbrev Reachable (allowed : σ → ε → Prop) : σ → Prop := M.Reaches allowed M.init

variable {M} {allowed : σ → ε → Prop}

theorem Reaches.trans {s t u : σ} (h : M.Reaches allowed s t) (h' : M.Reaches allowed t u) :
    M.Reaches allowed s u := by
  induction h' with
  | refl => exact h
  | step _ ha he ih => exact ih.step ha he

theorem Reaches.mono {allowed' : σ → ε → Prop} (sub : ∀ s e, allowed s e → allowed' s e)
    {s t : σ} (h : M.Reaches allowed s t) : M.Reaches allowed' s t := by
  induction h with
  | refl => exact .refl
  | step _ ha he ih => exact ih.step (sub _ _ ha) he

/-- The run rule: an invariant that every allowed step preserves. -/
theorem Reaches.invariant {I : σ → Prop} {s t : σ} (h : M.Reaches allowed s t) (start : I s)
    (preserved : ∀ t e u, M.Reaches allowed s t → I t → allowed t e → M.step t e = some u → I u) :
    I t := by
  induction h with
  | refl => exact start
  | step hr ha he ih => exact preserved _ _ _ hr ih ha he

theorem Reachable.invariant {I : σ → Prop} {t : σ} (h : M.Reachable allowed t) (start : I M.init)
    (preserved : ∀ t e u, M.Reachable allowed t → I t → allowed t e → M.step t e = some u →
      I u) : I t :=
  Reaches.invariant h start preserved

variable (M)

/-- The state after a list of events, when each can happen in its turn. -/
def runFrom (s : σ) : List ε → Option σ
  | [] => some s
  | e :: es => (M.step s e).bind fun t => runFrom t es

/-- Every step of the run from `s` on these events is admitted. -/
def Admits (allowed : σ → ε → Prop) (s : σ) : List ε → Prop
  | [] => True
  | e :: es => allowed s e ∧ ∀ t, M.step s e = some t → Admits allowed t es

/-- `P` holds of every state of the run from `s` on these events. -/
def Always (P : σ → Prop) (s : σ) : List ε → Prop
  | [] => P s
  | e :: es => P s ∧ ∀ t, M.step s e = some t → Always P t es

/-- `R` holds from every state of the run to itself and to every later one. -/
def Throughout (R : σ → σ → Prop) (s : σ) : List ε → Prop
  | [] => R s s
  | e :: es => M.Always (R s) s (e :: es) ∧ ∀ t, M.step s e = some t → Throughout R t es

/-- `A` holds of every step of the run from `s` on these events. -/
def Each (A : σ → ε → σ → Prop) (s : σ) : List ε → Prop
  | [] => True
  | e :: es => ∀ t, M.step s e = some t → A s e t ∧ Each A t es

/-- An executable form of `Admits`. -/
def admits (allowed : σ → ε → Prop) [∀ s e, Decidable (allowed s e)] (s : σ) : List ε → Bool
  | [] => true
  | e :: es => decide (allowed s e) && match M.step s e with
    | some t => admits allowed t es
    | none => true

variable {M}

theorem admits_sound [∀ s e, Decidable (allowed s e)] {es : List ε} {s : σ}
    (h : M.admits allowed s es = true) : M.Admits allowed s es := by
  induction es generalizing s with
  | nil => trivial
  | cons e es ih =>
    simp only [admits, Bool.and_eq_true, decide_eq_true_eq] at h
    refine ⟨h.1, ?_⟩
    intro t ht
    have rest := h.2
    simp only [ht] at rest
    exact ih rest

/-- The rule for a mark that stays: a run keeps clear of it exactly when each step
meets a condition on the state before it. -/
theorem clear_iff_admits {I bad : σ → Prop} {ok : σ → ε → Prop}
    (one : ∀ s e t, I s → M.step s e = some t → I t ∧ (¬ bad t ↔ ¬ bad s ∧ ok s e))
    {es : List ε} {s t : σ} (inv : I s) (run : M.runFrom s es = some t) :
    ¬ bad t ↔ ¬ bad s ∧ M.Admits ok s es := by
  induction es generalizing s with
  | nil =>
    cases run
    simp only [Admits, and_true]
  | cons e es ih =>
    obtain ⟨m, hm, rest⟩ := Option.bind_eq_some_iff.mp run
    obtain ⟨inv', marked⟩ := one s e m inv hm
    have later : (∀ u, M.step s e = some u → M.Admits ok u es) ↔ M.Admits ok m es := by
      constructor
      · exact fun all => all m hm
      · intro admitted u hu
        cases hm.symm.trans hu
        exact admitted
    rw [ih inv' rest, marked, Admits, later, and_assoc]

theorem Always.here {P : σ → Prop} {s : σ} {es : List ε} (h : M.Always P s es) : P s := by
  cases es with
  | nil => exact h
  | cons => exact h.1

theorem Always.imp {P Q : σ → Prop} (sub : ∀ s, P s → Q s) {es : List ε} {s : σ}
    (h : M.Always P s es) : M.Always Q s es := by
  induction es generalizing s with
  | nil => exact sub s h
  | cons e es ih => exact ⟨sub s h.1, fun t ht => ih (h.2 t ht)⟩

/-- The rule for what a run keeps from each state on: it keeps it exactly when each
step meets a condition on the state before it. -/
theorem throughout_iff_admits {I : σ → Prop} {R : σ → σ → Prop} {ok : σ → ε → Prop}
    (refl : ∀ s, R s s) (trans : ∀ {s t u}, R s t → R t u → R s u)
    (one : ∀ s e t, I s → M.step s e = some t → I t ∧ (R s t ↔ ok s e))
    (idle : ∀ s e, M.step s e = none → ok s e) {es : List ε} {s : σ} (inv : I s) :
    M.Throughout R s es ↔ M.Admits ok s es := by
  induction es generalizing s with
  | nil => exact iff_of_true (refl s) trivial
  | cons e es ih =>
    constructor
    · rintro ⟨always, later⟩
      refine ⟨?_, fun t ht => (ih (one s e t inv ht).1).mp (later t ht)⟩
      cases ht : M.step s e with
      | none => exact idle s e ht
      | some t => exact (one s e t inv ht).2.mp (always.2 t ht).here
    · rintro ⟨admitted, later⟩
      have after : ∀ t, M.step s e = some t → M.Throughout R t es := fun t ht =>
        (ih (one s e t inv ht).1).mpr (later t ht)
      refine ⟨⟨refl s, fun t ht => ?_⟩, after⟩
      have moved := (one s e t inv ht).2.mpr admitted
      have kept : M.Always (R t) t es := by
        have rest := after t ht
        cases es with
        | nil => exact rest
        | cons => exact rest.1
      exact kept.imp fun _ => trans moved

/-- The rule for what is said of each step: it holds of every step of a run exactly when
each meets a condition on the state before it, which also keeps the invariant. -/
theorem each_iff_admits {I : σ → Prop} {A : σ → ε → σ → Prop} {ok : σ → ε → Prop}
    (kept : ∀ s e t, I s → M.step s e = some t → ok s e → A s e t ∧ I t)
    (broken : ∀ s e, I s → ¬ ok s e → ∃ t, M.step s e = some t ∧ ¬ A s e t)
    {es : List ε} {s : σ} (inv : I s) : M.Each A s es ↔ M.Admits ok s es := by
  induction es generalizing s with
  | nil => exact Iff.rfl
  | cons e es ih =>
    constructor
    · intro each
      have admitted : ok s e := by
        refine Classical.byContradiction ?_
        intro refused
        obtain ⟨t, next, breaks⟩ := broken s e inv refused
        exact breaks (each t next).1
      refine ⟨admitted, ?_⟩
      intro t next
      exact (ih (kept s e t inv next admitted).2).mp (each t next).2
    · rintro ⟨admitted, later⟩ t next
      obtain ⟨holds, inv'⟩ := kept s e t inv next admitted
      exact ⟨holds, (ih inv').mpr (later t next)⟩

/-- The run rule for an invariant that tells what has happened so far. -/
theorem runFrom_invariant {I : List ε → σ → Prop}
    (one : ∀ past s e t, I past s → M.step s e = some t → I (past ++ [e]) t)
    {past es : List ε} {s t : σ} (start : I past s) (run : M.runFrom s es = some t) : I (past ++ es) t := by
  induction es generalizing past s with
  | nil =>
    cases run
    rwa [List.append_nil]
  | cons e es ih =>
    obtain ⟨m, hm, rest⟩ := Option.bind_eq_some_iff.mp run
    have next := ih (one past s e m start hm) rest
    rwa [List.append_assoc] at next

/-- What a run keeps, its last step keeps. -/
theorem Throughout.last {R : σ → σ → Prop} {es : List ε} {e : ε} {s t u : σ}
    (h : M.Throughout R s (es ++ [e])) (run : M.runFrom s es = some t)
    (next : M.step t e = some u) : R t u := by
  induction es generalizing s with
  | nil =>
    cases run
    exact h.1.2 u next
  | cons e' es ih =>
    obtain ⟨m, hm, rest⟩ := Option.bind_eq_some_iff.mp run
    exact ih (h.2 m hm) rest

theorem reaches_of_runs {es : List ε} {s t : σ} (admitted : M.Admits allowed s es)
    (runs : M.runFrom s es = some t) : M.Reaches allowed s t := by
  induction es generalizing s with
  | nil =>
    simp only [runFrom, Option.some.injEq] at runs
    exact runs ▸ .refl
  | cons e es ih =>
    simp only [runFrom, Option.bind_eq_some_iff] at runs
    obtain ⟨m, hm, rest⟩ := runs
    exact (Reaches.refl.step admitted.1 hm).trans (ih (admitted.2 m hm) rest)

/-- Without a condition on the schedule. -/
theorem reaches_freely {es : List ε} {s t : σ} (runs : M.runFrom s es = some t) :
    M.Reaches (fun _ _ => True) s t := by
  apply reaches_of_runs _ runs
  clear runs
  induction es generalizing s with
  | nil => trivial
  | cons e es ih => exact ⟨trivial, fun _ _ => ih⟩

/-- The end of a schedule that can be run. -/
theorem reaches_end [∀ s e, Decidable (allowed s e)] {s : σ} {es : List ε}
    (admitted : M.admits allowed s es = true) (runs : (M.runFrom s es).isSome = true) :
    M.Reaches allowed s ((M.runFrom s es).get runs) :=
  reaches_of_runs (admits_sound admitted) (Option.some_get runs).symm

/-! ## History variables -/

variable {ω : Type}

variable (M) in
/-- The machine beside a variable that `note` writes after each step. -/
def watched (start : ω) (note : σ → ε → σ → ω → ω) : Machine (σ × ω) ε where
  init := (M.init, start)
  step s e := (M.step s.1 e).map fun t => (t, note s.1 e t s.2)

/-- The machine's own part of a watched state. -/
def unwatched (allowed : σ → ε → Prop) (s : σ × ω) (e : ε) : Prop := allowed s.1 e

instance [∀ s e, Decidable (allowed s e)] (s : σ × ω) (e : ε) :
    Decidable (unwatched allowed s e) := by unfold unwatched; infer_instance

variable {start : ω} {note : σ → ε → σ → ω → ω}

theorem watched_step {s t : σ × ω} {e : ε} :
    (M.watched start note).step s e = some t ↔
      M.step s.1 e = some t.1 ∧ t.2 = note s.1 e t.1 s.2 := by
  simp only [watched, Option.map_eq_some_iff]
  constructor
  · rintro ⟨u, hu, rfl⟩
    exact ⟨hu, rfl⟩
  · rintro ⟨hu, hw⟩
    exact ⟨t.1, hu, by rw [← hw]⟩

/-- Watching adds no run. -/
theorem Reaches.unwatch {s t : σ × ω}
    (h : (M.watched start note).Reaches (unwatched allowed) s t) : M.Reaches allowed s.1 t.1 := by
  induction h with
  | refl => exact .refl
  | step _ ha he ih => exact ih.step ha (watched_step.mp he).1

variable (note) in
/-- Every run can be watched. -/
theorem Reaches.watch {s t : σ} (h : M.Reaches allowed s t) (w : ω) :
    ∃ w', (M.watched start note).Reaches (unwatched allowed) (s, w) (t, w') := by
  induction h with
  | refl => exact ⟨w, .refl⟩
  | @step t u e _ ha he ih =>
    obtain ⟨w', reached⟩ := ih
    have next : (M.watched start note).step (t, w') e = some (u, note t e u w') :=
      watched_step.mpr ⟨he, rfl⟩
    exact ⟨_, reached.step (show unwatched allowed (t, w') e from ha) next⟩

end Machine

end Fireball.Foundation
