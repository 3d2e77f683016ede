import Fireball.Docker.Create
import Fireball.Foundation.Json
import Fireball.Foundation.Lists

/-!
# `DockerEngineRuntime.inspect`

The status request is answered with arbitrary JSON, or not at all.

* `inspect_failed_iff`, `inspect_running_iff`: the answers that settle the inspection;
* `inspect_rejects_iff`: every other answer makes it reject.
-/

namespace Fireball.Docker

open Foundation
open Session (RuntimeInspection RuntimeLoss Thrown)

/-- `isObject(value) && value.Id === containerId`. -/
def isContainer (containerId : String) (value : Json) : Bool :=
  isText (Json.member (some value) "Id") containerId

def isOwnedRuntime (resource : Json) (instanceId : String) : Bool :=
  let labels := Json.member (some resource) "Labels"
  isText (Json.member labels "dev.fireball.managed") "true" &&
    isText (Json.member labels "dev.fireball.instance") instanceId

def invalidStatus : Thrown :=
  .orchestrator ⟨.runtimeFailure, "Docker Engine returned an invalid runtime status", 503⟩

def stoppedStates : List String := ["created", "paused", "restarting", "removing", "exited", "dead"]

/-- How the promise of `inspect` is settled by the report of the status request. -/
def inspect (instanceId containerId : String) : Except Thrown Json → Except Thrown RuntimeInspection
  | .error e => .error e
  | .ok (.array response) =>
    match response.filter (isContainer containerId) with
    | [] => .ok (.failed .containerMissing)
    | [container] =>
      if isOwnedRuntime container instanceId then
        let state := Json.member (some container) "State"
        if isText state "running" then .ok .running
        else if stoppedStates.any (isText state) then .ok (.failed .stoppedUnexpectedly)
        else .error invalidStatus
      else .error invalidStatus
    | _ => .error invalidStatus
  | .ok _ => .error invalidStatus

/-! ## The answers that settle it -/

/-- An object with exactly this id. -/
def HasId (containerId : String) (value : Json) : Prop :=
  ∃ summary, value = .object summary ∧ Json.field summary "Id" = some (.string containerId)

/-- An object that carries both ownership labels of the instance. -/
def CarriesLabels (instanceId : String) (value : Json) : Prop :=
  ∃ summary labels, value = .object summary ∧ Json.field summary "Labels" = some (.object labels) ∧
    Json.field labels "dev.fireball.managed" = some (.string "true") ∧
    Json.field labels "dev.fireball.instance" = some (.string instanceId)

/-- An object in one of these states. -/
def InState (states : List String) (value : Json) : Prop :=
  ∃ summary, ∃ state ∈ states, value = .object summary ∧
    Json.field summary "State" = some (.string state)

/-- The answer is an array without the container. -/
def Missing (containerId : String) (report : Except Thrown Json) : Prop :=
  ∃ response, report = .ok (.array response) ∧ ∀ value ∈ response, ¬ HasId containerId value

/-- The answer is an array with the container in exactly one place, where it is owned and
in one of these states. -/
def Settled (instanceId containerId : String) (states : List String) (report : Except Thrown Json) : Prop :=
  ∃ before container after, report = .ok (.array (before ++ container :: after)) ∧
    HasId containerId container ∧ (∀ value ∈ before ++ after, ¬ HasId containerId value) ∧
    CarriesLabels instanceId container ∧ InState states container

theorem isContainer_iff {containerId : String} {value : Json} :
    isContainer containerId value = true ↔ HasId containerId value := by
  rw [isContainer, isText_iff, Json.member_eq_some]
  simp only [Option.some.injEq, HasId]

theorem isOwnedRuntime_iff {instanceId : String} {value : Json} :
    isOwnedRuntime value instanceId = true ↔ CarriesLabels instanceId value := by
  simp only [isOwnedRuntime, Bool.and_eq_true, isText_iff, Json.member_eq_some, Option.some.injEq]
  constructor
  · rintro ⟨⟨labels, ⟨summary, object, own⟩, managed⟩, labels', ⟨summary', object', own'⟩, instance_⟩
    cases object.symm.trans object'
    cases own.symm.trans own'
    exact ⟨summary, labels, object, own, managed, instance_⟩
  · rintro ⟨summary, labels, object, own, managed, instance_⟩
    exact ⟨⟨labels, ⟨summary, object, own⟩, managed⟩, labels, ⟨summary, object, own⟩, instance_⟩

theorem inState_iff {states : List String} {value : Json} :
    states.any (isText (Json.member (some value) "State")) = true ↔ InState states value := by
  simp only [List.any_eq_true, isText_iff, Json.member_eq_some, Option.some.injEq, InState]
  constructor
  · rintro ⟨state, mem, summary, object, own⟩
    exact ⟨summary, state, mem, object, own⟩
  · rintro ⟨summary, state, mem, object, own⟩
    exact ⟨state, mem, summary, object, own⟩

section
variable {instanceId containerId : String} {report : Except Thrown Json}

theorem missing_iff {response : List Json} :
    Missing containerId (.ok (.array response)) ↔ response.filter (isContainer containerId) = [] := by
  simp only [Missing, Except.ok.injEq, Json.array.injEq, exists_eq_left', List.filter_eq_nil_iff, isContainer_iff]

theorem settled_iff {states : List String} {response : List Json} :
    Settled instanceId containerId states (.ok (.array response)) ↔
      ∃ container, response.filter (isContainer containerId) = [container] ∧
        CarriesLabels instanceId container ∧ InState states container := by
  simp only [filter_single, isContainer_iff]
  constructor
  · rintro ⟨before, container, after, eq, own, none, labels, state⟩
    cases eq
    exact ⟨container, ⟨before, after, rfl, own, none⟩, labels, state⟩
  · rintro ⟨container, ⟨before, after, rfl, own, none⟩, labels, state⟩
    exact ⟨before, container, after, rfl, own, none, labels, state⟩

theorem not_missing {states : List String} (settled : Settled instanceId containerId states report) :
    ¬ Missing containerId report := by
  obtain ⟨before, container, after, rfl, own, -⟩ := settled
  rintro ⟨response, eq, none⟩
  cases eq
  exact none container (by simp) own

theorem not_running (stopped : Settled instanceId containerId stoppedStates report) :
    ¬ Settled instanceId containerId ["running"] report := by
  obtain ⟨before, container, after, rfl, -⟩ := id stopped
  obtain ⟨container, one, -, summary, state, mem, object, own⟩ := settled_iff.mp stopped
  intro running
  obtain ⟨container', one', -, summary', state', mem', object', own'⟩ := settled_iff.mp running
  cases one.symm.trans one'
  cases object.symm.trans object'
  cases own.symm.trans own'
  cases List.mem_singleton.mp mem'
  exact absurd mem (by decide)

/-- How an answer settles the inspection. -/
inductive Verdict (instanceId containerId : String) (report : Except Thrown Json) :
    Except Thrown RuntimeInspection → Prop
  | missing : Missing containerId report → Verdict instanceId containerId report (.ok (.failed .containerMissing))
  | running : Settled instanceId containerId ["running"] report →
      Verdict instanceId containerId report (.ok .running)
  | stopped : Settled instanceId containerId stoppedStates report →
      Verdict instanceId containerId report (.ok (.failed .stoppedUnexpectedly))
  | rejected {e : Thrown} : ¬ Missing containerId report →
      ¬ Settled instanceId containerId ["running"] report →
      ¬ Settled instanceId containerId stoppedStates report → Verdict instanceId containerId report (.error e)

theorem rejected_of_no_array {e : Thrown} (none : ∀ response, report ≠ .ok (.array response)) :
    Verdict instanceId containerId report (.error e) := by
  refine .rejected ?_ ?_ ?_
  · rintro ⟨response, eq, -⟩
    exact none response eq
  all_goals
    rintro ⟨before, container, after, eq, -⟩
    exact none _ eq

theorem inspect_verdict (instanceId containerId : String) (report : Except Thrown Json) :
    Verdict instanceId containerId report (inspect instanceId containerId report) := by
  unfold inspect
  split
  · exact rejected_of_no_array fun _ eq => nomatch eq
  · rename_i response
    split
    · rename_i none
      exact .missing (missing_iff.mpr none)
    · rename_i container one
      -- all that is said of the one element found decides
      have decided : ∀ states, Settled instanceId containerId states (.ok (.array response)) →
          CarriesLabels instanceId container ∧ InState states container := fun states settled => by
        obtain ⟨other, one', rest⟩ := settled_iff.mp settled
        cases one.symm.trans one'
        exact rest
      have found : ¬ Missing containerId (.ok (.array response)) := fun missing => by
        cases one.symm.trans (missing_iff.mp missing)
      split
      · rename_i owned
        have labels := isOwnedRuntime_iff.mp owned
        dsimp only
        split
        · rename_i running
          exact .running (settled_iff.mpr ⟨container, one, labels, inState_iff.mp (by simpa using running)⟩)
        · rename_i notRunning
          split
          · rename_i stopped
            exact .stopped (settled_iff.mpr ⟨container, one, labels, inState_iff.mp stopped⟩)
          · rename_i notStopped
            exact .rejected found
              (fun running => notRunning (by simpa using inState_iff.mpr (decided _ running).2))
              (fun stopped => notStopped (inState_iff.mpr (decided _ stopped).2))
      · rename_i foreign
        exact .rejected found (fun running => foreign (isOwnedRuntime_iff.mpr (decided _ running).1))
          (fun stopped => foreign (isOwnedRuntime_iff.mpr (decided _ stopped).1))
    · rename_i notNone notOne
      have several : ∀ states, ¬ Settled instanceId containerId states (.ok (.array response)) :=
        fun states settled => by
          obtain ⟨container, one, -⟩ := settled_iff.mp settled
          exact notOne container one
      exact .rejected (fun missing => notNone (missing_iff.mp missing)) (several _) (several _)
  · rename_i value other
    exact rejected_of_no_array fun response eq => by
      cases eq
      exact other response rfl

theorem inspect_failed_iff {failure : RuntimeLoss} :
    inspect instanceId containerId report = .ok (.failed failure) ↔
      (failure = .containerMissing ∧ Missing containerId report) ∨
      (failure = .stoppedUnexpectedly ∧ Settled instanceId containerId stoppedStates report) := by
  have verdict := inspect_verdict instanceId containerId report
  generalize inspect instanceId containerId report = result at verdict ⊢
  cases verdict with
  | missing missing =>
    constructor
    · rintro ⟨⟩
      exact .inl ⟨rfl, missing⟩
    · rintro (⟨rfl, -⟩ | ⟨-, stopped⟩)
      · rfl
      · exact absurd missing (not_missing stopped)
  | stopped stopped =>
    constructor
    · rintro ⟨⟩
      exact .inr ⟨rfl, stopped⟩
    · rintro (⟨-, missing⟩ | ⟨rfl, -⟩)
      · exact absurd missing (not_missing stopped)
      · rfl
  | running running =>
    simp only [Except.ok.injEq, reduceCtorEq, not_missing running, and_false, false_or, false_iff, not_and]
    exact fun _ stopped => not_running stopped running
  | rejected notMissing notRunning notStopped => simp [notMissing, notStopped]

theorem inspect_running_iff :
    inspect instanceId containerId report = .ok .running ↔ Settled instanceId containerId ["running"] report := by
  have verdict := inspect_verdict instanceId containerId report
  generalize inspect instanceId containerId report = result at verdict ⊢
  cases verdict with
  | missing missing =>
    simp only [Except.ok.injEq, reduceCtorEq, false_iff]
    exact fun running => not_missing running missing
  | stopped stopped => simp [not_running stopped]
  | running running => exact iff_of_true rfl running
  | rejected notMissing notRunning notStopped => simp [notRunning]

/-- Every other answer makes the inspection reject. -/
theorem inspect_rejects_iff :
    (∃ e, inspect instanceId containerId report = .error e) ↔ ¬ Missing containerId report ∧
      ¬ Settled instanceId containerId stoppedStates report ∧
      ¬ Settled instanceId containerId ["running"] report := by
  rw [← inspect_running_iff]
  have missing : inspect instanceId containerId report = .ok (.failed .containerMissing) ↔
      Missing containerId report := by
    simp [inspect_failed_iff]
  have stopped : inspect instanceId containerId report = .ok (.failed .stoppedUnexpectedly) ↔
      Settled instanceId containerId stoppedStates report := by
    simp [inspect_failed_iff]
  rw [← missing, ← stopped]
  cases inspect instanceId containerId report with
  | error e => simp
  | ok inspection =>
    cases inspection with
    | running => simp
    | failed failure => cases failure <;> simp

end

end Fireball.Docker
