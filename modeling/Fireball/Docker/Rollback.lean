import Fireball.Docker.Create
import Fireball.Foundation.Failing

/-!
# What `create` leaves in the Engine

* `launch_ok`, `waitForHealthy_ok`: when the `try` block comes to its end;
* `launch_containers`, `rollback_containers`, `rollback_networks`: the resources of the
  session after each block;
* `create_transactional`: exactly when `create` keeps to all or nothing;
* `recoverable_of_honest`: it does when no failed call has taken effect.
-/

namespace Fireball.Docker

open Foundation
open Session (CreateRuntimeRequest RuntimeResource Thrown)

/-- All or nothing: the resources of the session after `create`, by its result. -/
def Transactional (sessionId : String) (engine : Engine) : Except Rejection RuntimeResource → Prop
  | .error rejection => rejection.rollbackFailures = [] →
      engine.containersOf sessionId = [] ∧ engine.networksOf sessionId = []
  | .ok resource => ∃ c n, engine.containersOf sessionId = [c] ∧ engine.networksOf sessionId = [n] ∧
      resource.containerId = c.id ∧ resource.containerName = c.name ∧ resource.networkNamespace = n.name

/-- The id in the response to the container request. -/
def Calls.reportedId (calls : Calls) : Option String :=
  match calls.createContainer.report with
  | .error _ => none
  | .ok response => response.id.filter (· ≠ "")

/-- One of the polls from `attempt` on, of which `left` are left, reports the container
healthy, with this response, and each before it reports it starting. -/
def Polled (inspect : Nat → Except Thrown DockerContainerInspectResponse) (attempt left : Nat)
    (response : DockerContainerInspectResponse) : Prop :=
  ∃ k, attempt ≤ k ∧ k < attempt + left ∧
    (∀ j, attempt ≤ j → j < k → ∃ r, inspect j = .ok r ∧ r.status = some "starting") ∧
    inspect k = .ok response ∧ response.status = some "healthy"

/-- What the reports have to be for the `try` block to come to its end. -/
structure Launches (options : DockerEngineOptions) (calls : Calls) : Prop where
  named : ∃ id, calls.reportedId = some id
  started : calls.start.accepted = true
  healthy : ∃ response port, Polled calls.inspect 1 options.startupHealthAttempts response ∧
    publishedSignalingPort response = .ok port

/-- What the rollback deletes, or reports that it could not, is what the calls have left. -/
structure Recoverable (options : DockerEngineOptions) (input : CreateRuntimeRequest) (calls : Calls) :
    Prop where
  /-- There is no rollback yet. -/
  network : calls.createNetwork.accepted = false → calls.createNetwork.effective = false
  /-- The rollback leaves the containers alone. -/
  container : calls.createNetwork.accepted = true → calls.createContainer.accepted = false →
    calls.removeNetwork.accepted = true →
    calls.createContainer.effective = false ∧
      (calls.createNetwork.effective = true → calls.removeNetwork.effective = true)
  launch : calls.createNetwork.accepted = true → calls.createContainer.accepted = true →
    ¬ Launches options calls → calls.removeContainer.accepted = true → calls.removeNetwork.accepted = true →
    (calls.createContainer.effective = true → calls.removeContainer.effective = true ∧
      calls.reportedId.getD (containerName input) ∈ [calls.engineId, containerName input]) ∧
      (calls.createNetwork.effective = true → calls.removeNetwork.effective = true)
  result : calls.createNetwork.accepted = true → Launches options calls →
    calls.createNetwork.effective = true ∧ calls.createContainer.effective = true ∧
      calls.reportedId = some calls.engineId

section
variable {options : DockerEngineOptions} {input : CreateRuntimeRequest} {signalingSecret : String}
  {calls : Calls} {engine : Engine}

theorem accepted_iff {α : Type} {b : Behaviour α} : b.accepted = true ↔ ∃ a, b.report = .ok a := by
  unfold Behaviour.accepted
  cases b.report <;> simp [Except.isOk, Except.toBool]

theorem failures_nil {α : Type} {b : Behaviour α} : b.failures = [] ↔ b.accepted = true := by
  unfold Behaviour.failures Behaviour.accepted
  cases b.report <;> simp [Except.isOk, Except.toBool]

/-! ## The `try` block -/

/-- The poll at `attempt` is the last one, or the others go on. -/
theorem polled_succ {inspect : Nat → Except Thrown DockerContainerInspectResponse} {attempt left : Nat}
    {response : DockerContainerInspectResponse} :
    Polled inspect attempt (left + 1) response ↔ ∃ r, inspect attempt = .ok r ∧
      (r = response ∧ r.status = some "healthy" ∨
        r.status = some "starting" ∧ Polled inspect (attempt + 1) left response) := by
  constructor
  · rintro ⟨k, first, last, before, reported, healthy⟩
    rcases Nat.eq_or_lt_of_le first with rfl | later
    · exact ⟨response, reported, .inl ⟨rfl, healthy⟩⟩
    · obtain ⟨r, polled, starting⟩ := before attempt (Nat.le_refl _) later
      exact ⟨r, polled, .inr ⟨starting, k, later, by omega, fun j low => before j (by omega), reported, healthy⟩⟩
  · rintro ⟨r, polled, ⟨rfl, healthy⟩ | ⟨starting, k, first, last, before, reported, healthy⟩⟩
    · exact ⟨attempt, Nat.le_refl _, by omega, fun j low high => absurd high (by omega), polled, healthy⟩
    · refine ⟨k, by omega, by omega, fun j low high => ?_, reported, healthy⟩
      rcases Nat.eq_or_lt_of_le low with rfl | later
      · exact ⟨r, polled, starting⟩
      · exact before j later high

theorem waitForHealthy_ok {inspect : Nat → Except Thrown DockerContainerInspectResponse} {attempt left : Nat}
    {response : DockerContainerInspectResponse} :
    waitForHealthy inspect attempt left = .ok response ↔ Polled inspect attempt left response := by
  induction left generalizing attempt with
  | zero =>
    constructor
    · intro h
      cases h
    · rintro ⟨k, first, last, -⟩
      omega
  | succ left ih =>
    rw [polled_succ, ← ih, waitForHealthy]
    cases polled : inspect attempt with
    | error e => simp
    | ok r =>
      by_cases healthy : r.status = some "healthy"
      · simp [healthy]
      · by_cases starting : r.status = some "starting"
        · simp [starting]
        · simp [healthy, starting]

theorem launch_progress : (launch options input signalingSecret calls engine).2.1 =
    ⟨calls.createContainer.accepted, calls.reportedId⟩ := by
  unfold launch Calls.reportedId Behaviour.accepted
  cases calls.createContainer.report with
  | error e => rfl
  | ok response =>
    dsimp only
    split <;> rename_i named <;> rw [named] <;> rfl

theorem reported_accepted {id : String} (named : calls.reportedId = some id) :
    calls.createContainer.accepted = true := by
  unfold Calls.reportedId at named
  cases created : calls.createContainer.report with
  | error e =>
    rw [created] at named
    cases named
  | ok response => exact accepted_iff.mpr ⟨response, created⟩

/-- A `try` block without an id fails. -/
theorem launch_none {resource : RuntimeResource} (unnamed : calls.reportedId = none) :
    (launch options input signalingSecret calls engine).2.2 ≠ .ok resource := by
  unfold launch
  unfold Calls.reportedId at unnamed
  cases created : calls.createContainer.report with
  | error e => simp
  | ok response =>
    rw [created] at unnamed
    simp only [unnamed]
    simp

theorem launch_some {id : String} (named : calls.reportedId = some id) :
    (launch options input signalingSecret calls engine).2.2 = (do
      let _ ← calls.start.report
      let inspect ← waitForHealthy calls.inspect 1 options.startupHealthAttempts
      let signalingPort ← publishedSignalingPort inspect
      return {
        containerId := id
        containerName := containerName input
        networkNamespace := networkNamespace input
        storageNamespace := "/run/fireball-session:" ++ id
        signalingEndpoint := "ws://127.0.0.1:" ++ toString signalingPort ++ "/internal/v1/signaling"
        signalingSecret
        tabControlEndpoint := "http://127.0.0.1:" ++ toString signalingPort ++ "/internal/v1/tabs" }) := by
  unfold Calls.reportedId at named
  unfold launch
  cases created : calls.createContainer.report with
  | error e =>
    rw [created] at named
    cases named
  | ok response =>
    rw [created] at named
    simp only [named]

theorem launch_named {resource : RuntimeResource}
    (h : (launch options input signalingSecret calls engine).2.2 = .ok resource) :
    Launches options calls ∧ calls.reportedId = some resource.containerId ∧
      resource.containerName = containerName input ∧ resource.networkNamespace = networkNamespace input := by
  cases named : calls.reportedId with
  | none => exact absurd h (launch_none named)
  | some id =>
    rw [launch_some named] at h
    obtain ⟨_, started, h⟩ := bind_ok.mp h
    obtain ⟨inspect, polled, h⟩ := bind_ok.mp h
    obtain ⟨port, published, h⟩ := bind_ok.mp h
    cases h
    exact ⟨⟨⟨id, named⟩, accepted_iff.mpr ⟨_, started⟩, inspect, port, waitForHealthy_ok.mp polled, published⟩,
      rfl, rfl, rfl⟩

theorem launch_ok (launches : Launches options calls) :
    ∃ resource, (launch options input signalingSecret calls engine).2.2 = .ok resource := by
  obtain ⟨⟨id, named⟩, started, inspect, port, polled, published⟩ := launches
  obtain ⟨response, started⟩ := accepted_iff.mp started
  rw [launch_some named]
  exact ⟨_, bind_ok.mpr ⟨_, started, bind_ok.mpr ⟨_, waitForHealthy_ok.mpr polled,
    bind_ok.mpr ⟨_, published, rfl⟩⟩⟩⟩

variable (options signalingSecret calls) in
/-- The containers of the session that the `try` block leaves. -/
theorem launch_containers (clear : engine.containersOf input.sessionId = []) :
    ∃ running, (launch options input signalingSecret calls engine).1.containersOf input.sessionId =
      if calls.createContainer.effective then
        [⟨calls.engineId, containerName input, isolationLabels input options.instanceId, running⟩]
      else [] := by
  have labelled : sessionLabel input.sessionId ∈ isolationLabels input options.instanceId := by
    simp [isolationLabels]
  let created := calls.createContainer.after
    (·.createContainer ⟨calls.engineId, containerName input, isolationLabels input options.instanceId, false⟩)
    engine
  have containers : created.containersOf input.sessionId = if calls.createContainer.effective then
      [⟨calls.engineId, containerName input, isolationLabels input options.instanceId, false⟩] else [] := by
    unfold created Behaviour.after
    split
    · rw [Engine.containersOf_createContainer _ labelled, clear]
      rfl
    · exact clear
  have started : ∀ reference, ∃ running, (calls.start.after (·.startContainer reference) created).containersOf
      input.sessionId = if calls.createContainer.effective then
        [⟨calls.engineId, containerName input, isolationLabels input options.instanceId, running⟩] else [] := by
    intro reference
    unfold Behaviour.after
    split
    · rw [Engine.containersOf_startContainer, containers]
      split
      · rw [List.map_singleton]
        split <;> exact ⟨_, rfl⟩
      · exact ⟨false, rfl⟩
    · exact ⟨false, containers⟩
  unfold launch
  cases calls.createContainer.report with
  | error e => exact ⟨false, containers⟩
  | ok response =>
    dsimp only
    cases response.id.filter (· ≠ "") with
    | none => exact ⟨false, containers⟩
    | some id => exact started id

variable (options input signalingSecret calls engine) in
theorem launch_networks : (launch options input signalingSecret calls engine).1.networksOf input.sessionId =
    engine.networksOf input.sessionId := by
  unfold launch Behaviour.after
  cases calls.createContainer.report with
  | error e =>
    dsimp only
    split <;> rfl
  | ok response =>
    dsimp only
    cases response.id.filter (· ≠ "") with
    | none => dsimp only; split <;> rfl
    | some id => dsimp only; split <;> split <;> rfl

/-! ## The rollback -/

section
variable {progress : Progress} {error : Thrown}

theorem rollback_failures : (rollback input calls progress error engine).2.rollbackFailures = [] ↔
    (progress.containerCreated = true → calls.removeContainer.accepted = true) ∧
      calls.removeNetwork.accepted = true := by
  simp only [rollback, List.append_eq_nil_iff, failures_nil]
  cases progress.containerCreated <;> simp [failures_nil]

theorem isAt_iff {c : Container} {reference : String} :
    c.isAt reference = true ↔ reference ∈ [c.id, c.name] := by
  simp [Container.isAt, eq_comm (a := reference)]

theorem rollback_containers :
    (rollback input calls progress error engine).1.containersOf input.sessionId =
      if progress.containerCreated && calls.removeContainer.effective then
        (engine.containersOf input.sessionId).filter fun c =>
          !c.isAt (progress.containerId.getD (containerName input))
      else engine.containersOf input.sessionId := by
  unfold rollback Behaviour.after
  cases progress.containerCreated <;> cases calls.removeContainer.effective <;>
    cases calls.removeNetwork.effective <;> simp [Engine.containersOf_removeContainer]

theorem rollback_networks :
    (rollback input calls progress error engine).1.networksOf input.sessionId =
      if calls.removeNetwork.effective then
        (engine.networksOf input.sessionId).filter fun n => n.name ≠ networkNamespace input
      else engine.networksOf input.sessionId := by
  unfold rollback Behaviour.after
  cases progress.containerCreated <;> cases calls.removeContainer.effective <;>
    cases calls.removeNetwork.effective <;> simp [Engine.networksOf_removeNetwork]

end

/-! ## All or nothing -/

variable (options calls) in
/-- The network of the session, if it was created. -/
theorem networks_created (clear : engine.networksOf input.sessionId = []) :
    (calls.createNetwork.after
      (·.createNetwork ⟨networkNamespace input, isolationLabels input options.instanceId⟩) engine).networksOf
        input.sessionId =
      if calls.createNetwork.effective then
        [⟨networkNamespace input, isolationLabels input options.instanceId⟩] else [] := by
  have labelled : sessionLabel input.sessionId ∈ isolationLabels input options.instanceId := by
    simp [isolationLabels]
  unfold Behaviour.after
  split
  · rw [Engine.networksOf_createNetwork _ labelled, clear]
    rfl
  · exact clear

variable (calls) in
theorem containers_created (clear : engine.containersOf input.sessionId = []) (network : Network) :
    (calls.createNetwork.after (·.createNetwork network) engine).containersOf input.sessionId = [] := by
  unfold Behaviour.after
  split
  · exact (Engine.containersOf_createNetwork _ _).trans clear
  · exact clear

variable (signalingSecret) in
/-- The `try` block has come to its end. -/
theorem transactional_ok {resource : RuntimeResource} (network : calls.createNetwork.accepted = true)
    (containers : engine.containersOf input.sessionId = [])
    (networks : engine.networksOf input.sessionId = if calls.createNetwork.effective then
      [⟨networkNamespace input, isolationLabels input options.instanceId⟩] else [])
    (h : (launch options input signalingSecret calls engine).2.2 = .ok resource) :
    Transactional input.sessionId (launch options input signalingSecret calls engine).1 (.ok resource) ↔
      Recoverable options input calls := by
  obtain ⟨launches, named, name, namespaced⟩ := launch_named h
  obtain ⟨running, left⟩ := launch_containers options signalingSecret calls containers
  have kept := (launch_networks options input signalingSecret calls engine).trans networks
  rw [Transactional, left, kept]
  constructor
  · rintro ⟨c, n, container, network', id, -, -⟩
    have created : calls.createContainer.effective = true := by
      by_contra none
      rw [if_neg none] at container
      cases container
    have connected : calls.createNetwork.effective = true := by
      by_contra none
      rw [if_neg none] at network'
      cases network'
    rw [if_pos created] at container
    cases container
    have accepted := reported_accepted named
    exact ⟨fun refused => absurd network (by simp [refused]), fun _ refused => absurd accepted (by simp [refused]),
      fun _ _ failed => absurd launches failed, fun _ _ => ⟨connected, created, named.trans (congrArg some id)⟩⟩
  · intro recoverable
    obtain ⟨connected, created, id⟩ := recoverable.result network launches
    rw [if_pos created, if_pos connected]
    refine ⟨_, _, rfl, rfl, ?_, name, namespaced⟩
    exact Option.some.inj (named.symm.trans id)

variable (signalingSecret) in
/-- The `try` block has failed. -/
theorem transactional_error (error : Thrown) (network : calls.createNetwork.accepted = true)
    (containers : engine.containersOf input.sessionId = [])
    (networks : engine.networksOf input.sessionId = if calls.createNetwork.effective then
      [⟨networkNamespace input, isolationLabels input options.instanceId⟩] else [])
    (failed : ¬ Launches options calls) :
    let (left, progress, _) := launch options input signalingSecret calls engine
    Transactional input.sessionId (rollback input calls progress error left).1
        (.error (rollback input calls progress error left).2) ↔ Recoverable options input calls := by
  obtain ⟨running, left⟩ := launch_containers options signalingSecret calls containers
  have kept := (launch_networks options input signalingSecret calls engine).trans networks
  dsimp only
  rw [Transactional, rollback_failures, rollback_containers, rollback_networks, launch_progress, left, kept]
  have container : ((if calls.createContainer.accepted && calls.removeContainer.effective then
      (if calls.createContainer.effective then
        [(⟨calls.engineId, containerName input, isolationLabels input options.instanceId, running⟩ : Container)]
        else []).filter fun c => !c.isAt (calls.reportedId.getD (containerName input))
      else if calls.createContainer.effective then
        [⟨calls.engineId, containerName input, isolationLabels input options.instanceId, running⟩]
        else []) = []) ↔
      (calls.createContainer.effective = true → calls.createContainer.accepted = true ∧
        calls.removeContainer.effective = true ∧
        calls.reportedId.getD (containerName input) ∈ [calls.engineId, containerName input]) := by
    cases calls.createContainer.effective <;> cases calls.createContainer.accepted <;>
      cases calls.removeContainer.effective <;> simp [isAt_iff]
  have network' : ((if calls.removeNetwork.effective then
      (if calls.createNetwork.effective then
        [(⟨networkNamespace input, isolationLabels input options.instanceId⟩ : Network)] else []).filter
          fun n => n.name ≠ networkNamespace input
      else if calls.createNetwork.effective then
        [⟨networkNamespace input, isolationLabels input options.instanceId⟩] else []) = []) ↔
      (calls.createNetwork.effective = true → calls.removeNetwork.effective = true) := by
    cases calls.createNetwork.effective <;> cases calls.removeNetwork.effective <;> simp
  rw [container, network']
  constructor
  · intro undone
    refine ⟨fun refused => absurd network (by simp [refused]), fun _ refused removed => ?_,
      fun _ accepted _ first second => ?_, fun _ launches => absurd launches failed⟩
    · obtain ⟨none, rest⟩ := undone ⟨by simp [refused], removed⟩
      refine ⟨?_, rest⟩
      by_contra created
      exact absurd (none (by simpa using created)).1 (by simp [refused])
    · obtain ⟨deleted, rest⟩ := undone ⟨fun _ => first, second⟩
      exact ⟨fun created => (deleted created).2, rest⟩
  · rintro recoverable ⟨first, second⟩
    cases accepted : calls.createContainer.accepted with
    | false =>
      obtain ⟨none, rest⟩ := recoverable.container network accepted second
      exact ⟨fun created => absurd created (by simp [none]), rest⟩
    | true =>
      obtain ⟨deleted, rest⟩ := recoverable.launch network accepted failed (first accepted) second
      exact ⟨fun created => ⟨rfl, deleted created⟩, rest⟩

/-- **`create`** leaves all or nothing exactly when what was left can be recovered from the
reports. -/
theorem create_transactional (signalingSecret : String)
    (clear : engine.containersOf input.sessionId = [] ∧ engine.networksOf input.sessionId = []) :
    Transactional input.sessionId (create options input signalingSecret calls engine).1
        (create options input signalingSecret calls engine).2 ↔ Recoverable options input calls := by
  have containers := containers_created calls clear.1
    ⟨networkNamespace input, isolationLabels input options.instanceId⟩
  have networks := networks_created options calls clear.2
  unfold create
  cases reported : calls.createNetwork.report with
  | error e =>
    have refused : calls.createNetwork.accepted = false := by
      simp [Behaviour.accepted, reported, Except.isOk, Except.toBool]
    simp only [Transactional, containers, networks]
    constructor
    · intro nothing
      refine ⟨fun _ => ?_, fun accepted => absurd accepted (by simp [refused]),
        fun accepted => absurd accepted (by simp [refused]), fun accepted => absurd accepted (by simp [refused])⟩
      by_contra created
      simpa [created] using nothing trivial
    · intro recoverable _
      simp [recoverable.network refused]
  | ok response =>
    have network := accepted_iff.mpr ⟨response, reported⟩
    dsimp only
    split
    · rename_i left progress resource ended
      have settled := transactional_ok signalingSecret network containers networks (congrArg (·.2.2) ended)
      rwa [ended] at settled
    · rename_i left progress e ended
      have failed : ¬ Launches options calls := by
        intro launches
        obtain ⟨resource, ok⟩ := launch_ok launches
        rw [ended] at ok
        cases ok
      have settled := transactional_error signalingSecret e network containers networks failed
      rwa [ended] at settled

/-- Calls that fail without an effect, and a response that has the right id. -/
structure Calls.Honest (calls : Calls) : Prop where
  createNetwork : calls.createNetwork.Honest
  createContainer : calls.createContainer.Honest
  removeContainer : calls.removeContainer.Honest
  removeNetwork : calls.removeNetwork.Honest
  named : ∀ id, calls.reportedId = some id → id = calls.engineId

theorem recoverable_of_honest (honest : calls.Honest) : Recoverable options input calls where
  network refused := honest.createNetwork.trans refused
  container _ refused removed :=
    ⟨honest.createContainer.trans refused, fun _ => honest.removeNetwork.trans removed⟩
  launch _ _ _ removed unlinked := by
    refine ⟨fun _ => ⟨honest.removeContainer.trans removed, ?_⟩, fun _ => honest.removeNetwork.trans unlinked⟩
    cases named : calls.reportedId with
    | none => simp
    | some id => simp [honest.named id named]
  result connected launches := by
    obtain ⟨id, named⟩ := launches.named
    refine ⟨honest.createNetwork.trans connected,
      honest.createContainer.trans (reported_accepted named), ?_⟩
    rw [named, honest.named id named]

end

/-- Every call takes effect and is accepted, and the first poll finds the container healthy. -/
def smooth : Calls where
  createNetwork := ⟨true, .ok ()⟩
  createContainer := ⟨true, .ok ⟨some "container-1"⟩⟩
  engineId := "container-1"
  start := ⟨true, .ok ()⟩
  inspect _ := .ok
    ⟨some ⟨some ⟨some "healthy"⟩⟩, some ⟨some [("8444/tcp", some [⟨some "127.0.0.1", some "49152"⟩])]⟩⟩
  removeContainer := ⟨true, .ok ()⟩
  removeNetwork := ⟨true, .ok ()⟩

def sampleRequest : CreateRuntimeRequest :=
  ⟨"d34c2e46-ff85-45f1-b3c4-28dbb1993ed7", "alpha", ⟨512, 512, 128⟩⟩

theorem create_transactional_smooth :
    Transactional sampleRequest.sessionId (create ⟨"test-instance", 60⟩ sampleRequest "secret" smooth ⟨[], []⟩).1
      (create ⟨"test-instance", 60⟩ sampleRequest "secret" smooth ⟨[], []⟩).2 :=
  (create_transactional "secret" ⟨rfl, rfl⟩).mpr
    (recoverable_of_honest ⟨rfl, rfl, rfl, rfl, by rintro _ ⟨⟩; rfl⟩)

/-- The response to the first call is lost. -/
theorem lost_network :
    ¬ Transactional sampleRequest.sessionId
      (create ⟨"test-instance", 60⟩ sampleRequest "secret"
        { smooth with createNetwork := ⟨true, .error (.orchestrator
          ⟨.runtimeFailure, "Docker Engine request timed out", 503⟩)⟩ } ⟨[], []⟩).1
      (create ⟨"test-instance", 60⟩ sampleRequest "secret"
        { smooth with createNetwork := ⟨true, .error (.orchestrator
          ⟨.runtimeFailure, "Docker Engine request timed out", 503⟩)⟩ } ⟨[], []⟩).2 := by
  intro transactional
  exact absurd (transactional rfl).2 (by decide)

end Fireball.Docker
