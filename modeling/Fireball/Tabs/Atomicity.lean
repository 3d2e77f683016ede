import Fireball.Tabs.Serial

/-!
# Serialised calls

* `step_snapped`: a rejected call leaves the controller that it found;
* `step_work`, `call_progress`: the chain goes on, whatever became of the calls before;
* `calls_serialised`: all of it, for every run of the chain.
-/

namespace Fireball.Tabs

open Foundation

/-- The controller when call `k` began, and when it ended. -/
structure Snapshots where
  started : Nat → Option TabController
  ended : Nat → Option TabController

def snap (s : Serial) (e : SerialEvent) (t : Serial) (seen : Snapshots) : Snapshots :=
  let ended := fun k => if s.result k = none ∧ t.result k ≠ none then some t.controller
    else seen.ended k
  match e with
  | .begin k => ⟨fun j => if j = k then some s.controller else seen.started j, ended⟩
  | _ => ⟨seen.started, ended⟩

/-- What a rejected call found is what it left. -/
def Restores (seen : Snapshots) (s : Serial) : Prop :=
  ∀ k e, s.result k = some (.error e) →
    ∃ c, seen.started k = some c ∧ seen.ended k = some c

structure Snapped (s : Serial) (seen : Snapshots) : Prop where
  running : ∀ (k : Nat) (call : Call) command rest, s.calls[k]? = some call →
    call.stage = .awaiting command rest → seen.started k = some s.controller
  restores : Restores seen s

/-- The environment does its part, and no operation is called. -/
def SerialEvent.internal : SerialEvent → Bool
  | .call _ => false
  | _ => true

def Call.work (call : Call) : Nat :=
  match call.stage with
  | .chained => 3
  | .awaiting _ _ => 2
  | .ended _ => if call.caught then 0 else 1

/-- The jobs that the chain has left. -/
def Serial.work (s : Serial) : Nat := (s.calls.map Call.work).sum

/-- The chain has a next job until every call has a result, and each job is one of
those that were left. -/
structure Drains (parseUrl : String → Option Url) (env : Nat → Choice) (s : Serial) : Prop where
  next : (∃ k, k < s.calls.length ∧ s.result k = none) →
    ∃ e, e.internal = true ∧ (serialStep parseUrl env s e).isSome = true
  fewer : ∀ e t, e.internal = true → serialStep parseUrl env s e = some t → t.work < s.work

section
variable {parseUrl : String → Option Url} {env : Nat → Choice} {c : TabController} {s t : Serial}
  {n k : Nat} {call call' : Call} {seen : Snapshots}

/-! ## Rejected calls -/

theorem snap_kept {e : SerialEvent} {j : Nat} (result : t.result j = s.result j) :
    (snap s e t seen).ended j = seen.ended j := by
  have same : ¬ (s.result j = none ∧ t.result j ≠ none) := fun new => new.2 (result.trans new.1)
  cases e <;> exact if_neg same

theorem snap_new {e : SerialEvent} {j : Nat} (before : s.result j = none) (after : t.result j ≠ none) :
    (snap s e t seen).ended j = some t.controller := by
  cases e <;> exact if_pos ⟨before, after⟩

/-- An event that neither begins a body nor ends one. -/
theorem snapped_quiet {e : SerialEvent} (snapped : Snapped s seen)
    (started : (snap s e t seen).started = seen.started) (controller : t.controller = s.controller)
    (result : ∀ j, t.result j = s.result j)
    (awaiting : ∀ (j : Nat) (call : Call) command rest, t.calls[j]? = some call →
      call.stage = .awaiting command rest →
      ∃ call, s.calls[j]? = some call ∧ call.stage = .awaiting command rest) :
    Snapped t (snap s e t seen) where
  running := by
    intro j call command rest found stage
    obtain ⟨before, there, same⟩ := awaiting j call command rest found stage
    rw [started, controller]
    exact snapped.running j before command rest there same
  restores := by
    intro j e rejected
    rw [result] at rejected
    rw [started, snap_kept (result j)]
    exact snapped.restores j e rejected

/-- The rest of a body, which ends it. A rejection leaves the controller as it is. -/
theorem snapped_answer {command : DriverCall} {rest : Awaiting} {result : Result}
    (wf : SerialWf parseUrl env c s n) (snapped : Snapped s seen) (found : s.calls[k]? = some call)
    (stage : call.stage = .awaiting command rest) (ended : call'.stage = .ended result)
    (calls : t.calls = (s.put k call').calls)
    (controller : ∀ e, result = .error e → t.controller = s.controller) :
    Snapped t (snap s (.answer k) t seen) := by
  have turn := (wf.begun k call command rest found stage).1
  have unsettled : s.result k = none := by rw [Serial.result, found, Option.bind_some, stage]; rfl
  have results : ∀ j, t.result j = if k = j then some result else s.result j := by
    intro j
    have put : (s.put k call').result j = if k = j then call'.stage.result else s.result j :=
      result_put found j
    rw [ended] at put
    unfold Serial.result at put ⊢
    rw [calls]
    exact put
  constructor
  · intro j other command' rest' there stage'
    rw [calls, get_put found] at there
    split at there
    · cases there
      cases ended.symm.trans stage'
    · rename_i apart
      exact absurd (turn.trans (wf.begun j other command' rest' there stage').1.symm) apart
  · intro j e rejected
    by_cases same : k = j
    · subst same
      have error : result = .error e := by
        rw [results, if_pos rfl] at rejected
        exact Option.some.inj rejected
      refine ⟨s.controller, snapped.running k call command rest found stage, ?_⟩
      rw [snap_new unsettled (by rw [rejected]; simp), controller e error]
    · have result := (results j).trans (if_neg same)
      rw [result] at rejected
      rw [snap_kept result]
      exact snapped.restores j e rejected

theorem step_snapped {e : SerialEvent} (wf : SerialWf parseUrl env c s n) (snapped : Snapped s seen)
    (h : serialStep parseUrl env s e = some t) : Snapped t (snap s e t seen) := by
  cases e with
  | call op =>
    cases h
    refine snapped_quiet snapped rfl rfl (result_call op) ?_
    intro j call command rest found stage
    rcases get_call op found with old | ⟨rfl, rfl⟩
    · exact ⟨call, old, stage⟩
    · cases stage
  | begin k =>
    simp only [serialStep] at h
    split at h
    · rename_i op chainedTo caught found
      split at h
      · rename_i settled
        cases h
        have turn : k = n := begin_turn wf found rfl settled
        have unsettled : s.result k = none := by rw [Serial.result, found]; rfl
        constructor
        · intro j other command rest there stage
          rw [get_put found] at there
          split at there
          · rename_i same
            exact if_pos same.symm
          · rename_i apart
            exact absurd (turn.trans (wf.begun j other command rest there stage).1.symm) apart
        · intro j e rejected
          by_cases same : k = j
          · subst same
            exact ⟨s.controller, if_pos rfl, snap_new unsettled (by rw [rejected]; simp)⟩
          · rw [result_put found, if_neg same] at rejected
            obtain ⟨c, started, ended⟩ := snapped.restores j e rejected
            refine ⟨c, (if_neg (Ne.symm same)).trans started, ?_⟩
            exact (snap_kept ((result_put found j).trans (if_neg same))).trans ended
      · cases h
    · cases h
  | answer k =>
    simp only [serialStep] at h
    split at h
    · rename_i op chainedTo command rest caught found
      split at h
      · cases h
        exact snapped_answer wf snapped found rfl rfl rfl fun _ _ => rfl
      · cases h
        exact snapped_answer wf snapped found rfl rfl rfl (by rintro e ⟨⟩)
    · cases h
  | caught k =>
    simp only [serialStep] at h
    split at h
    · rename_i op chainedTo result found
      cases h
      refine snapped_quiet snapped rfl rfl (fun j => ?_) ?_
      · rw [result_put found]
        split
        · rename_i same
          subst same
          rw [Serial.result, found]
          rfl
        · rfl
      · intro j other command rest there stage
        rw [get_put found] at there
        split at there
        · cases there
          cases stage
        · exact ⟨other, there, stage⟩
    · cases h

/-! ## The chain goes on -/

theorem work_put (found : s.calls[k]? = some call) (less : call'.work < call.work) :
    (s.put k call').work < s.work := by
  have there : (s.calls.map Call.work)[k]? = some call.work := by
    rw [List.getElem?_map, found, Option.map_some]
  obtain ⟨short, same⟩ := List.getElem?_eq_some_iff.mp there
  have before := List.sum_set (s.calls.map Call.work) k call.work
  have after := List.sum_set (s.calls.map Call.work) k call'.work
  rw [← same, List.set_getElem_self, same] at before
  rw [if_pos short] at before after
  unfold Serial.work Serial.put
  rw [List.map_set]
  omega

/-- **One job** of the chain is one less. -/
theorem step_work {e : SerialEvent} (internal : e.internal = true)
    (h : serialStep parseUrl env s e = some t) : t.work < s.work := by
  cases e with
  | call op => cases internal
  | begin k =>
    simp only [serialStep] at h
    split at h
    · rename_i op chainedTo caught found
      split at h
      · cases h
        refine work_put found ?_
        cases s.controller.begin parseUrl (env k).uuid op with
        | settled result => cases caught <;> simp [Call.work, Begun.stage]
        | awaits command rest => simp [Call.work, Begun.stage]
      · cases h
    · cases h
  | answer k =>
    simp only [serialStep] at h
    split at h
    · rename_i op chainedTo command rest caught found
      have less : ∀ result : Result, (Call.mk op chainedTo (.ended result) caught).work <
          (Call.mk op chainedTo (.awaiting command rest) caught).work := by
        intro result
        cases caught <;> simp [Call.work]
      split at h
      · cases h
        exact work_put found (less _)
      · cases h
        exact work_put found (less _)
    · cases h
  | caught k =>
    simp only [serialStep] at h
    split at h
    · rename_i op chainedTo result found
      cases h
      exact work_put found (by simp [Call.work])
    · cases h

/-- **A call without a result** is not kept waiting by those before it. -/
theorem call_progress (wf : SerialWf parseUrl env c s n)
    (waiting : ∃ k, k < s.calls.length ∧ s.result k = none) :
    ∃ e, e.internal = true ∧ (serialStep parseUrl env s e).isSome = true := by
  obtain ⟨k, made, unsettled⟩ := waiting
  have late : n ≤ k := by
    by_contra before
    obtain ⟨result, settled⟩ := wf.result_iff.mpr (Nat.lt_of_not_le before)
    cases unsettled.symm.trans settled
  have inside : n < s.calls.length := by omega
  obtain ⟨⟨op, chainedTo, stage, caught⟩, found⟩ : ∃ call, s.calls[n]? = some call :=
    ⟨_, List.getElem?_eq_getElem inside⟩
  have unsettled : s.result n = none := by
    by_contra settled
    exact Nat.lt_irrefl n (wf.result_iff.mp (Option.ne_none_iff_exists'.mp settled))
  rw [Serial.result, found, Option.bind_some] at unsettled
  have chained := wf.chained n _ found
  cases stage with
  | ended result => cases unsettled
  | awaiting command rest =>
    refine ⟨.answer n, rfl, ?_⟩
    simp only [serialStep, found]
    cases (env n).outcome <;> rfl
  | chained =>
    simp only at chained
    subst chained
    by_cases settled : s.settled chainedTo = true
    · refine ⟨.begin chainedTo, rfl, ?_⟩
      simp only [serialStep, found, settled, if_true]
      rfl
    · cases chainedTo with
      | zero => exact absurd rfl settled
      | succ j =>
        -- the call before has ended, and its `catch` is still to settle
        have ended := wf.result_iff.mpr (Nat.lt_succ_self j)
        obtain ⟨⟨op', chainedTo', stage', caught'⟩, before⟩ : ∃ call, s.calls[j]? = some call :=
          ⟨_, List.getElem?_eq_getElem (by omega)⟩
        simp only [Serial.settled, before] at settled
        obtain ⟨result, ended⟩ := ended
        rw [Serial.result, before] at ended
        refine ⟨.caught j, rfl, ?_⟩
        cases stage' with
        | ended result' =>
          have open_ : caught' = false := by simpa using settled
          subst open_
          simp only [serialStep, before]
          rfl
        | chained | awaiting => cases ended

end

/-! ## Every run -/

/-- At most one command is with the driver. -/
def NoOverlap (s : Serial) : Prop := ∀ j k, s.Commands j → s.Commands k → j = k

/-- The controller and the results are those of the first calls, one after another.
They are all the calls once every call has a result. -/
def InOrder (parseUrl : String → Option Url) (env : Nat → Choice) (c : TabController) (s : Serial) :
    Prop :=
  ∃ n, n ≤ s.calls.length ∧
    s.controller = (sequential parseUrl env c (s.operations.take n)).1 ∧
    ∀ k, s.result k = (sequential parseUrl env c (s.operations.take n)).2[k]?

/-- The chain, with the controller as each call finds and leaves it. -/
def snapping (parseUrl : String → Option Url) (env : Nat → Choice) (c : TabController) :
    Machine (Serial × Snapshots) SerialEvent :=
  (serial parseUrl env c).watched ⟨fun _ => none, fun _ => none⟩ snap

/-- **Calls are serialised** in every run of the chain, with any calls, URLs and
outcomes: commands do not overlap; the state and the results are those of one call
after another, in call order; the tabs are listed in order; a rejected call changes
nothing; and the chain goes on until every call has its result. -/
theorem calls_serialised (parseUrl : String → Option Url) (env : Nat → Choice)
    {maximumTabs : Nat} {id url createdAt : String} {c : TabController}
    (made : TabController.new maximumTabs id url createdAt = .ok c) (fresh : UuidsFresh env id)
    {s : Serial} {seen : Snapshots}
    (reached : (snapping parseUrl env c).Reachable (fun _ _ => True) (s, seen)) :
    NoOverlap s ∧ InOrder parseUrl env c s ∧
      (∃ n, Listed maximumTabs (usedIds env id n) s.controller) ∧ Restores seen s ∧
      Drains parseUrl env s := by
  have kept : (∃ n, SerialWf parseUrl env c s n) ∧ Snapped s seen := by
    refine Machine.Reachable.invariant
      (I := fun s => (∃ n, SerialWf parseUrl env c s.1 n) ∧ Snapped s.1 s.2) reached
      ⟨⟨0, serialWf_initial parseUrl env c⟩, ?_⟩ ?_
    · exact ⟨(fun _ _ _ _ found => nomatch found), fun _ _ rejected => nomatch rejected⟩
    · rintro s e t _ ⟨⟨n, wf⟩, snapped⟩ _ h
      obtain ⟨stepped, noted⟩ := Machine.watched_step.mp h
      rw [noted]
      exact ⟨step_serial wf stepped, step_snapped wf snapped stepped⟩
  obtain ⟨⟨n, wf⟩, snapped⟩ := kept
  refine ⟨?_, ⟨n, wf.bound, wf.state, wf.results⟩, ?_, snapped.restores, call_progress wf,
    fun e t => step_work⟩
  · rintro j k ⟨call, command, rest, found, stage⟩ ⟨call', command', rest', found', stage'⟩
    exact (wf.begun j call command rest found stage).1.trans
      (wf.begun k call' command' rest' found' stage').1.symm
  · rw [wf.state]
    exact ⟨_, listed_of_wf (sequential_wf fresh (wf_new made) _)⟩

/-! ## Overlapping calls -/

/-- The driver answers every call but the first. -/
def sampleEnv (k : Nat) : Choice where
  uuid := String.ofList (List.replicate (k + 1) 'a')
  outcome := if k = 0 then .error ⟨.tabRuntimeFailure, "tab runtime rejected the operation"⟩ else .ok ()
  createdAt := "2026-01-01T00:00:00.000Z"

theorem sampleEnv_fresh : UuidsFresh sampleEnv "" := by
  intro n used
  rcases List.mem_cons.mp used with home | earlier
  · have length := congrArg (·.toList.length) home
    simp [sampleEnv] at length
  · obtain ⟨k, before, same⟩ := List.mem_map.mp earlier
    have length := congrArg (·.toList.length) same
    have less : k < n := List.mem_range.mp before
    simp [sampleEnv] at length
    omega

def sampleController : TabController where
  maximumTabs := 4
  tabs := JsMap.empty.set "" ⟨"", publicHome, "2026-01-01T00:00:00.000Z"⟩
  activeTabId := ""

/-- Two tabs are asked for at once, and the driver rejects the first. -/
def overlapping : List SerialEvent :=
  [.call (.create .undefined), .begin 0, .call (.create .undefined), .answer 0, .caught 0, .begin 1,
    .answer 1]

theorem calls_serialised_overlapping : ∃ s seen,
    (snapping (fun _ => none) sampleEnv sampleController).Reachable (fun _ _ => True) (s, seen) ∧
    s.controller.list.map (·.id) = ["", "aa"] ∧ s.controller.activeTabId = "aa" ∧
    NoOverlap s ∧ Restores seen s := by
  have runs : ((snapping (fun _ => none) sampleEnv sampleController).runFrom
      (snapping (fun _ => none) sampleEnv sampleController).init overlapping).isSome = true := by
    decide
  have reached : (snapping (fun _ => none) sampleEnv sampleController).Reachable (fun _ _ => True) _ :=
    Machine.reaches_end (by decide) runs
  have made : TabController.new 4 "" internalHome "2026-01-01T00:00:00.000Z" =
      .ok sampleController := by decide
  have serialised := calls_serialised (fun _ => none) sampleEnv made sampleEnv_fresh reached
  exact ⟨_, _, reached, by decide, by decide, serialised.1, serialised.2.2.2.1⟩

end Fireball.Tabs
