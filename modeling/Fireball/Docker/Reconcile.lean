import Fireball.Docker.Create
import Fireball.Foundation.Json
import Fireball.Foundation.Lists

/-!
# `DockerEngineRuntime.reconcile`

The cleanup before the orchestrator listens: what the Engine lists is arbitrary JSON, and
each deletion is accepted or fails.

* `managedResourceId_iff`: the elements that are owned;
* `sweep_eq`: one loop, from the ids that its elements own;
* `reconcile_exact`: the requests, the result and the error of a whole call.
-/

namespace Fireball.Docker

open Foundation
open Session (OrchestratorError Thrown)

/-- The requests of `reconcile`. The containers are deleted with `force=true`. -/
inductive Request
  | listContainers
  | removeContainer (id : String)
  | listNetworks
  | removeNetwork (id : String)
  deriving DecidableEq, Repr

/-- `[A-Za-z0-9_.:-]{1,128}`. -/
def isSafeId (id : String) : Bool :=
  1 ≤ id.length && id.length ≤ 128 && id.toList.all fun c => c.isAlphanum || c ∈ ['_', '.', ':', '-']

def managedResourceId (resource : Json) (instanceId : String) : Option String :=
  match resource with
  | .object summary =>
    let labels := Json.field summary "Labels"
    match Json.member labels "dev.fireball.managed", Json.member labels "dev.fireball.instance",
        Json.field summary "Id" with
    | some (.string managed), some (.string instance_), some (.string id) =>
      if managed = "true" && instance_ = instanceId && isSafeId id then some id else none
    | _, _, _ => none
  | _ => none

/-- What the calls report: the two lists, and the deletions in the order in which they are sent. -/
structure Reports where
  containers : Except Thrown Json
  networks : Except Thrown Json
  deletion : Nat → Except Thrown Unit

/-- The variables of `reconcile`, with the requests that it has sent. -/
structure Sweep where
  requests : List Request
  deletions : Nat
  failures : List String
  deriving DecidableEq, Repr

/-- One of the two loops, which count what they remove. -/
def sweep (instanceId : String) (reports : Reports) (request : String → Request) (kind : String) :
    Sweep × Nat → List Json → Sweep × Nat
  | done, [] => done
  | (s, removed), element :: rest =>
    match managedResourceId element instanceId with
    | none => sweep instanceId reports request kind (s, removed) rest
    | some id =>
      let s' := { s with requests := s.requests ++ [request id], deletions := s.deletions + 1 }
      match reports.deletion s.deletions with
      | .ok _ => sweep instanceId reports request kind (s', removed + 1) rest
      | .error e => sweep instanceId reports request kind
          ({ s' with failures := s.failures ++ [kind ++ " " ++ id ++ ": " ++ errorMessage e] }, removed) rest

structure ReconciliationResult where
  containersRemoved : Nat
  networksRemoved : Nat
  deriving DecidableEq, Repr

def invalidList (kind : String) : Thrown :=
  .orchestrator ⟨.runtimeFailure, "Docker Engine returned an invalid " ++ kind ++ " list", 503⟩

/-- `listManagedContainers` and `listManagedNetworks` after the report. -/
def managedList (kind : String) : Except Thrown Json → Except Thrown (List Json)
  | .error e => .error e
  | .ok (.array elements) => .ok elements
  | .ok _ => .error (invalidList kind)

/-- The requests that are sent, and how the promise is settled. -/
def reconcile (instanceId : String) (reports : Reports) :
    List Request × Except Thrown ReconciliationResult :=
  let s : Sweep := ⟨[.listContainers], 0, []⟩
  match managedList "container" reports.containers with
  | .error e => (s.requests, .error e)
  | .ok containers =>
    let (s, containersRemoved) := sweep instanceId reports .removeContainer "container" (s, 0) containers
    let s := { s with requests := s.requests ++ [.listNetworks] }
    match managedList "network" reports.networks with
    | .error e => (s.requests, .error e)
    | .ok networks =>
      let (s, networksRemoved) := sweep instanceId reports .removeNetwork "network" (s, 0) networks
      (s.requests,
        if s.failures.length > 0 then
          .error (.orchestrator ⟨.runtimeFailure,
            "runtime reconciliation failed: " ++ "; ".intercalate s.failures, 503⟩)
        else .ok ⟨containersRemoved, networksRemoved⟩)

/-! ## What is owned -/

/-- An element that carries the labels of this instance and a safe id. -/
def Owned (instanceId : String) (element : Json) (id : String) : Prop :=
  ∃ summary labels, element = .object summary ∧ Json.field summary "Labels" = some (.object labels) ∧
    Json.field labels "dev.fireball.managed" = some (.string "true") ∧
    Json.field labels "dev.fireball.instance" = some (.string instanceId) ∧
    Json.field summary "Id" = some (.string id) ∧ isSafeId id = true

/-- The ids of the owned elements, in the order of the list. -/
def ownedIds (instanceId : String) (elements : List Json) : List String :=
  elements.filterMap (managedResourceId · instanceId)

theorem managedResourceId_iff {instanceId id : String} {element : Json} :
    managedResourceId element instanceId = some id ↔ Owned instanceId element id := by
  unfold managedResourceId Owned
  split
  · rename_i summary
    dsimp only
    split
    · rename_i managed instance_ id' hm hi hid
      obtain ⟨labels, object, hm⟩ := Json.member_eq_some.mp hm
      rw [object] at hi
      have hi : Json.field labels "dev.fireball.instance" = some (.string instance_) := hi
      constructor
      · intro h
        split at h
        · rename_i good
          simp only [Bool.and_eq_true, decide_eq_true_eq] at good
          cases h
          exact ⟨summary, labels, rfl, object, good.1.1 ▸ hm, good.1.2 ▸ hi, hid, good.2⟩
        · cases h
      · rintro ⟨summary', labels', eq, object', hm', hi', hid', safe⟩
        cases eq
        rw [object] at object'
        cases object'
        rw [hm] at hm'
        rw [hi] at hi'
        rw [hid] at hid'
        cases hm'
        cases hi'
        cases hid'
        simp [safe]
    · rename_i none
      simp only [reduceCtorEq, false_iff, not_exists, not_and]
      rintro summary' labels eq object hm hi hid
      cases eq
      exact absurd hid (none "true" instanceId id (Json.member_eq_some.mpr ⟨labels, object, hm⟩)
        (Json.member_eq_some.mpr ⟨labels, object, hi⟩))
  · rename_i other
    simp only [reduceCtorEq, false_iff, not_exists, not_and]
    exact fun summary labels object => absurd object (other summary)

/-! ## One loop -/

/-- What a failed deletion leaves. -/
def failure (kind id : String) : Except Thrown Unit → Option String
  | .error e => some (kind ++ " " ++ id ++ ": " ++ errorMessage e)
  | .ok _ => none

/-- What the failures among the deletions from number `first` on leave. -/
def failuresFrom (reports : Reports) (kind : String) (first : Nat) (ids : List String) : List String :=
  (ids.zipIdx first).filterMap fun p => failure kind p.1 (reports.deletion p.2)

section
variable {instanceId kind : String} {reports : Reports} {request : String → Request}

theorem mem_failuresFrom {first n : Nat} {ids : List String} {id : String} {e : Thrown}
    (there : ids[n]? = some id) (failed : reports.deletion (first + n) = .error e) :
    kind ++ " " ++ id ++ ": " ++ errorMessage e ∈ failuresFrom reports kind first ids := by
  have mem : (id, first + n) ∈ ids.zipIdx first := List.mk_add_mem_zipIdx_iff_getElem?.mpr there
  exact List.mem_filterMap.mpr ⟨(id, first + n), mem, by simp only [failed, failure]⟩

theorem failuresFrom_nil {first : Nat} {ids : List String} :
    failuresFrom reports kind first ids = [] ↔ ∀ n < ids.length, (reports.deletion (first + n)).isOk = true := by
  rw [failuresFrom, List.filterMap_eq_nil_iff]
  constructor
  · intro none n below
    have mem : (ids[n], first + n) ∈ ids.zipIdx first :=
      List.mk_add_mem_zipIdx_iff_getElem?.mpr (List.getElem?_eq_getElem below)
    have quiet := none _ mem
    cases reported : reports.deletion (first + n) with
    | error e =>
      rw [reported] at quiet
      cases quiet
    | ok u => rfl
  · rintro accepted ⟨id, n⟩ mem
    obtain ⟨low, there⟩ := List.mem_zipIdx_iff_le_and_getElem?_sub.mp mem
    have below : n - first < ids.length := (List.getElem?_eq_some_iff.mp there).1
    have ok := accepted (n - first) below
    rw [show first + (n - first) = n by dsimp only at low; omega] at ok
    cases reported : reports.deletion n with
    | error e =>
      rw [reported] at ok
      cases ok
    | ok u => simp [failure]

variable (instanceId kind reports request) in
/-- **One loop** sends a deletion for each owned element and for no other, in order. -/
theorem sweep_eq (s : Sweep) (removed : Nat) (elements : List Json) :
    ∃ count, sweep instanceId reports request kind (s, removed) elements =
      (⟨s.requests ++ (ownedIds instanceId elements).map request,
        s.deletions + (ownedIds instanceId elements).length,
        s.failures ++ failuresFrom reports kind s.deletions (ownedIds instanceId elements)⟩, removed + count) ∧
      count + (failuresFrom reports kind s.deletions (ownedIds instanceId elements)).length =
        (ownedIds instanceId elements).length := by
  induction elements generalizing s removed with
  | nil => exact ⟨0, by simp [sweep, ownedIds, failuresFrom], rfl⟩
  | cons element rest ih =>
    rw [sweep]
    cases owned : managedResourceId element instanceId with
    | none =>
      have same : ownedIds instanceId (element :: rest) = ownedIds instanceId rest := by
        simp [ownedIds, owned]
      rw [same]
      exact ih s removed
    | some id =>
      have more : ownedIds instanceId (element :: rest) = id :: ownedIds instanceId rest := by
        simp [ownedIds, owned]
      rw [more]
      cases reported : reports.deletion s.deletions with
      | ok u =>
        obtain ⟨count, eq, total⟩ := ih
          { s with requests := s.requests ++ [request id], deletions := s.deletions + 1 } (removed + 1)
        have failures : failuresFrom reports kind s.deletions (id :: ownedIds instanceId rest) =
            failuresFrom reports kind (s.deletions + 1) (ownedIds instanceId rest) := by
          simp [failuresFrom, reported, failure]
        refine ⟨count + 1, ?_, ?_⟩
        · dsimp only
          rw [eq, failures]
          simp [Nat.add_assoc, Nat.add_comm 1]
        · rw [failures, List.length_cons]
          dsimp only at total
          omega
      | error e =>
        obtain ⟨count, eq, total⟩ := ih
          { s with
            requests := s.requests ++ [request id]
            deletions := s.deletions + 1
            failures := s.failures ++ [kind ++ " " ++ id ++ ": " ++ errorMessage e] } removed
        have failures : failuresFrom reports kind s.deletions (id :: ownedIds instanceId rest) =
            (kind ++ " " ++ id ++ ": " ++ errorMessage e) ::
              failuresFrom reports kind (s.deletions + 1) (ownedIds instanceId rest) := by
          simp [failuresFrom, reported, failure]
        refine ⟨count, ?_, ?_⟩
        · dsimp only
          rw [eq, failures]
          simp [Nat.add_assoc, Nat.add_comm 1]
        · rw [failures, List.length_cons, List.length_cons]
          dsimp only at total
          omega

end

/-! ## The whole call -/

/-- The deletions of a call, by kind and id, in the order in which they are sent. -/
def deletions (instanceId : String) (containers networks : List Json) : List (String × String) :=
  (ownedIds instanceId containers).map (("container", ·)) ++
    (ownedIds instanceId networks).map (("network", ·))

/-- The message names the resource with what its deletion failed with. -/
def Names (message kind id : String) (e : Thrown) : Prop :=
  ∃ before after, message = before ++ (kind ++ " " ++ id ++ ": " ++ errorMessage e) ++ after

/-- How the call is settled, from the reports of its deletions. -/
def Settles (instanceId : String) (reports : Reports) (containers networks : List Json)
    (result : Except Thrown ReconciliationResult) : Prop :=
  let sent := deletions instanceId containers networks
  ((∀ n < sent.length, (reports.deletion n).isOk = true) →
    result = .ok ⟨(ownedIds instanceId containers).length, (ownedIds instanceId networks).length⟩) ∧
  ((∃ n < sent.length, (reports.deletion n).isOk = false) →
    ∃ message, result = .error (.orchestrator ⟨.runtimeFailure, message, 503⟩) ∧
      ∀ n kind id e, sent[n]? = some (kind, id) → reports.deletion n = .error e →
        Names message kind id e)

section
variable {instanceId : String} {reports : Reports} {containers networks : List Json}

/-- What the two loops leave in `failures`. -/
def allFailures (instanceId : String) (reports : Reports) (containers networks : List Json) : List String :=
  failuresFrom reports "container" 0 (ownedIds instanceId containers) ++
    failuresFrom reports "network" (ownedIds instanceId containers).length (ownedIds instanceId networks)

theorem deletions_length : (deletions instanceId containers networks).length =
    (ownedIds instanceId containers).length + (ownedIds instanceId networks).length := by
  simp [deletions]

theorem mem_allFailures {n : Nat} {kind id : String} {e : Thrown}
    (sent : (deletions instanceId containers networks)[n]? = some (kind, id))
    (failed : reports.deletion n = .error e) :
    kind ++ " " ++ id ++ ": " ++ errorMessage e ∈ allFailures instanceId reports containers networks := by
  rw [deletions, List.getElem?_append] at sent
  split at sent
  · obtain ⟨id', there, eq⟩ := List.getElem?_map .. ▸ sent |> Option.map_eq_some_iff.mp
    cases eq
    exact List.mem_append_left _ (mem_failuresFrom there (by rwa [Nat.zero_add]))
  · rename_i beyond
    obtain ⟨id', there, eq⟩ := List.getElem?_map .. ▸ sent |> Option.map_eq_some_iff.mp
    cases eq
    rw [List.length_map] at beyond there
    refine List.mem_append_right _ (mem_failuresFrom there ?_)
    rwa [show (ownedIds instanceId containers).length + (n - (ownedIds instanceId containers).length) = n by omega]

theorem allFailures_nil : allFailures instanceId reports containers networks = [] ↔
    ∀ n < (deletions instanceId containers networks).length, (reports.deletion n).isOk = true := by
  rw [allFailures, List.append_eq_nil_iff, failuresFrom_nil, failuresFrom_nil, deletions_length]
  constructor
  · rintro ⟨first, second⟩ n below
    by_cases early : n < (ownedIds instanceId containers).length
    · simpa using first n early
    · have ok := second (n - (ownedIds instanceId containers).length) (by omega)
      rwa [show (ownedIds instanceId containers).length + (n - (ownedIds instanceId containers).length) = n
        by omega] at ok
  · intro all
    exact ⟨fun n below => by simpa using all n (by omega), fun n below => all _ (by omega)⟩

end

/-- **`reconcile` touches exactly what is owned**: the requests that it sends, and how it
is settled. -/
theorem reconcile_exact (instanceId : String) (reports : Reports) :
    (∀ element id, managedResourceId element instanceId = some id ↔ Owned instanceId element id) ∧
    match managedList "container" reports.containers, managedList "network" reports.networks with
    | .error e, _ => reconcile instanceId reports = ([.listContainers], .error e)
    | .ok containers, .error e => reconcile instanceId reports =
        (.listContainers :: (ownedIds instanceId containers).map .removeContainer ++ [.listNetworks], .error e)
    | .ok containers, .ok networks => (reconcile instanceId reports).1 =
          .listContainers :: (ownedIds instanceId containers).map .removeContainer ++
            .listNetworks :: (ownedIds instanceId networks).map .removeNetwork ∧
        Settles instanceId reports containers networks (reconcile instanceId reports).2 := by
  refine ⟨fun element id => managedResourceId_iff, ?_⟩
  unfold reconcile
  cases managedList "container" reports.containers with
  | error e => rfl
  | ok containers =>
    obtain ⟨first, eq, firstTotal⟩ :=
      sweep_eq instanceId "container" reports .removeContainer ⟨[.listContainers], 0, []⟩ 0 containers
    dsimp only
    rw [eq]
    cases managedList "network" reports.networks with
    | error e => simp
    | ok networks =>
      obtain ⟨second, eq, secondTotal⟩ := sweep_eq instanceId "network" reports .removeNetwork
        ⟨.listContainers :: (ownedIds instanceId containers).map .removeContainer ++ [.listNetworks],
          (ownedIds instanceId containers).length,
          failuresFrom reports "container" 0 (ownedIds instanceId containers)⟩ 0 networks
      dsimp only
      simp only [List.singleton_append, Nat.zero_add, List.nil_append] at eq firstTotal secondTotal ⊢
      rw [eq]
      dsimp only
      change _ ∧ Settles instanceId reports containers networks
        (if (allFailures instanceId reports containers networks).length > 0 then _ else _)
      refine ⟨by simp, fun accepted => ?_, fun ⟨n, below, refused⟩ => ?_⟩
      · have none := allFailures_nil.mpr accepted
        rw [none, if_neg (by simp)]
        obtain ⟨noFirst, noSecond⟩ := List.append_eq_nil_iff.mp none
        rw [noFirst] at firstTotal
        rw [noSecond] at secondTotal
        simp only [List.length_nil, Nat.add_zero] at firstTotal secondTotal
        rw [firstTotal, secondTotal]
      · have some : allFailures instanceId reports containers networks ≠ [] := fun none => by
          rw [allFailures_nil.mp none n below] at refused
          cases refused
        rw [if_pos (List.length_pos_iff.mpr some)]
        refine ⟨_, rfl, fun n kind id e sent failed => ?_⟩
        obtain ⟨before, after, eq⟩ := intercalate_infix (s := "; ") (mem_allFailures sent failed)
        refine ⟨"runtime reconciliation failed: " ++ before, after, ?_⟩
        change "runtime reconciliation failed: " ++
          "; ".intercalate (allFailures instanceId reports containers networks) = _
        rw [eq]
        simp only [String.append_assoc]

end Fireball.Docker
