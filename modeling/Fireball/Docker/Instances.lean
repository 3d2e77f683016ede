import Fireball.Docker.Rollback
import Fireball.Foundation.Lists

/-!
# Orchestrators on one Engine

Several orchestrators, each with its own `instanceId`, and other programs use the same
Engine. What a call of an orchestrator does to the Engine is one step, so that calls of
different operations and different orchestrators interleave freely, and an operation can
end anywhere.

* `orderly_apply`, `others_apply`: one effect keeps the Engine in order, and every resource
  of anyone else;
* `create_under`, `destroy_under`: what the operations come to, as such effects.
-/

namespace Fireball.Docker

open Foundation
open Session (CreateRuntimeRequest OrchestratorError RuntimeResource Thrown)

/-! ## `destroy` -/

/-- `DockerEngineRuntime.destroy`: the second call is made whatever the first one came to. -/
def destroy (resource : RuntimeResource) (removeContainer removeNetwork : Behaviour Unit) (engine : Engine) :
    Engine × Except Thrown Unit :=
  let engine := removeContainer.after (·.removeContainer resource.containerId) engine
  let engine := removeNetwork.after (·.removeNetwork resource.networkNamespace) engine
  let failures := removeContainer.failures ++ removeNetwork.failures
  (engine, if failures.length > 0 then
      .error (.orchestrator ⟨.runtimeFailure, "; ".intercalate failures, 503⟩)
    else .ok ())

/-! ## To whom a resource belongs -/

/-- The instance whose labels a resource carries. -/
def instanceOf (labels : Labels) : Option String :=
  if labels.lookup "dev.fireball.managed" = some "true" then labels.lookup "dev.fireball.instance"
  else none

/-- `[0-9a-f]{64}`, the ids that the Engine gives. -/
def isEngineId (id : String) : Bool :=
  id.toList.length = 64 && id.toList.all fun c => c.isDigit || ('a' ≤ c && c ≤ 'f')

/-- Session ids and the ids of the Engine are given out once: to whom each belongs, and
the id of the network with a name. -/
structure Directory where
  session : String → Option String
  container : String → Option String
  network : String → Option String
  networkId : String → String

namespace Engine

def containersBy (owner : Option String) (e : Engine) : List Container :=
  e.containers.filter fun c => instanceOf c.labels = owner

def networksBy (owner : Option String) (e : Engine) : List Network :=
  e.networks.filter fun n => instanceOf n.labels = owner

/-- The Engine knows a network by its id and by its name. -/
def deleteNetwork (dir : Directory) (reference : String) (e : Engine) : Engine :=
  { e with networks := e.networks.filter fun n =>
      !(n.name = reference || dir.networkId n.name = reference) }

end Engine

/-- Ids are no names, and a resource that has the id or the name of one of an
orchestrator's is one of its own. -/
structure Orderly (dir : Directory) (e : Engine) : Prop where
  containerId : ∀ c ∈ e.containers, isEngineId c.id = true ∧ dir.container c.id = instanceOf c.labels
  containerName : ∀ c ∈ e.containers, isEngineId c.name = false ∧
    ∀ input, c.name = containerName input → dir.session input.sessionId = instanceOf c.labels
  networkId : ∀ n ∈ e.networks, isEngineId (dir.networkId n.name) = true ∧
    dir.network (dir.networkId n.name) = instanceOf n.labels
  networkName : ∀ n ∈ e.networks, isEngineId n.name = false ∧
    ∀ input, n.name = networkNamespace input → dir.session input.sessionId = instanceOf n.labels

/-! ## Effects -/

/-- What a call does to the Engine, when it takes effect. -/
inductive Effect
  | createNetwork (input : CreateRuntimeRequest)
  | createContainer (input : CreateRuntimeRequest) (id : String)
  | startContainer (reference : String)
  | removeContainer (reference : String)
  | removeNetwork (reference : String)
  deriving DecidableEq, Repr

def Effect.apply (dir : Directory) (instanceId : String) (e : Engine) : Effect → Engine
  | .createNetwork input => e.createNetwork ⟨networkNamespace input, isolationLabels input instanceId⟩
  | .createContainer input id =>
    e.createContainer ⟨id, Docker.containerName input, isolationLabels input instanceId, false⟩
  | .startContainer reference => e.startContainer reference
  | .removeContainer reference => e.removeContainer reference
  | .removeNetwork reference => e.deleteNetwork dir reference

/-- A container of the instance, by its id or as the one of a session. -/
def Directory.OwnContainer (dir : Directory) (instanceId reference : String) : Prop :=
  (isEngineId reference = true ∧ dir.container reference = some instanceId) ∨
    ∃ input, reference = Docker.containerName input ∧ dir.session input.sessionId = some instanceId

def Directory.OwnNetwork (dir : Directory) (instanceId reference : String) : Prop :=
  (isEngineId reference = true ∧ dir.network reference = some instanceId) ∨
    ∃ input, reference = networkNamespace input ∧ dir.session input.sessionId = some instanceId

/-- The instance names nothing but its own sessions and what the Engine gave it. -/
def Directory.Own (dir : Directory) (instanceId : String) : Effect → Prop
  | .createNetwork input => dir.session input.sessionId = some instanceId ∧
      isEngineId (dir.networkId (networkNamespace input)) = true ∧
      dir.network (dir.networkId (networkNamespace input)) = some instanceId
  | .createContainer input id => dir.session input.sessionId = some instanceId ∧
      isEngineId id = true ∧ dir.container id = some instanceId
  | .startContainer reference => dir.OwnContainer instanceId reference
  | .removeContainer reference => dir.OwnContainer instanceId reference
  | .removeNetwork reference => dir.OwnNetwork instanceId reference

/-! ## Names -/

theorem fireball_no_id (rest : String) : isEngineId ("fireball-" ++ rest) = false := by
  have letter : 'i' ∈ ("fireball-" ++ rest).toList := by
    rw [String.toList_append]
    exact List.mem_append_left _ (by decide)
  unfold isEngineId
  rw [Bool.and_eq_false_iff]
  right
  rw [List.all_eq_false]
  exact ⟨'i', letter, by decide⟩

theorem containerName_no_id (input : CreateRuntimeRequest) : isEngineId (containerName input) = false :=
  fireball_no_id _

theorem networkNamespace_no_id (input : CreateRuntimeRequest) :
    isEngineId (networkNamespace input) = false := by
  have split : networkNamespace input = "fireball-" ++ ("net-" ++ input.sessionId) := by
    rw [networkNamespace, ← String.append_assoc]
    rfl
  rw [split]
  exact fireball_no_id _

theorem containerName_inj {a b : CreateRuntimeRequest} (same : containerName a = containerName b) :
    a.sessionId = b.sessionId := by
  have texts := congrArg String.toList same
  rw [containerName, containerName, String.toList_append, String.toList_append] at texts
  exact String.toList_inj.mp (List.append_cancel_left texts)

theorem networkNamespace_inj {a b : CreateRuntimeRequest} (same : networkNamespace a = networkNamespace b) :
    a.sessionId = b.sessionId := by
  have texts := congrArg String.toList same
  rw [networkNamespace, networkNamespace, String.toList_append, String.toList_append] at texts
  exact String.toList_inj.mp (List.append_cancel_left texts)

theorem instanceOf_isolationLabels (input : CreateRuntimeRequest) (instanceId : String) :
    instanceOf (isolationLabels input instanceId) = some instanceId := by
  simp [instanceOf, isolationLabels, List.lookup_cons]

section
variable {dir : Directory} {e : Engine} {instanceId reference : String}

/-- A container that a reference of the instance finds is its own. -/
theorem own_container {c : Container} (orderly : Orderly dir e) (mem : c ∈ e.containers)
    (own : dir.OwnContainer instanceId reference) (found : c.isAt reference = true) :
    instanceOf c.labels = some instanceId := by
  obtain ⟨id, given⟩ := orderly.containerId c mem
  obtain ⟨name, session⟩ := orderly.containerName c mem
  simp only [isAt_iff, List.mem_cons, List.not_mem_nil, or_false] at found
  rcases found with rfl | rfl
  · rcases own with ⟨-, own⟩ | ⟨input, named, -⟩
    · exact given.symm.trans own
    · rw [named, containerName_no_id] at id
      cases id
  · rcases own with ⟨other, -⟩ | ⟨input, named, own⟩
    · rw [name] at other
      cases other
    · exact (session input named).symm.trans own

theorem own_network {n : Network} (orderly : Orderly dir e) (mem : n ∈ e.networks)
    (own : dir.OwnNetwork instanceId reference)
    (found : n.name = reference ∨ dir.networkId n.name = reference) :
    instanceOf n.labels = some instanceId := by
  obtain ⟨id, given⟩ := orderly.networkId n mem
  obtain ⟨name, session⟩ := orderly.networkName n mem
  rcases found with rfl | rfl
  · rcases own with ⟨other, -⟩ | ⟨input, named, own⟩
    · rw [name] at other
      cases other
    · exact (session input named).symm.trans own
  · rcases own with ⟨-, own⟩ | ⟨input, named, -⟩
    · exact given.symm.trans own
    · rw [named, networkNamespace_no_id] at id
      cases id

/-- Resources are only taken away, and a container may be started. -/
theorem orderly_sub {e' : Engine} (orderly : Orderly dir e)
    (containers : ∀ c' ∈ e'.containers, ∃ c ∈ e.containers,
      c'.id = c.id ∧ c'.name = c.name ∧ c'.labels = c.labels)
    (networks : ∀ n ∈ e'.networks, n ∈ e.networks) : Orderly dir e' := by
  refine ⟨?_, ?_, fun n mem => orderly.networkId n (networks n mem),
    fun n mem => orderly.networkName n (networks n mem)⟩
  · intro c' mem
    obtain ⟨c, there, id, -, labels⟩ := containers c' mem
    rw [id, labels]
    exact orderly.containerId c there
  · intro c' mem
    obtain ⟨c, there, -, name, labels⟩ := containers c' mem
    rw [name, labels]
    exact orderly.containerName c there

theorem orderly_start (orderly : Orderly dir e) : Orderly dir (e.startContainer reference) := by
  refine orderly_sub orderly ?_ fun _ mem => mem
  intro c' mem
  obtain ⟨c, there, rfl⟩ := List.mem_map.mp mem
  refine ⟨c, there, ?_⟩
  split <;> exact ⟨rfl, rfl, rfl⟩

theorem orderly_removeContainer (orderly : Orderly dir e) : Orderly dir (e.removeContainer reference) :=
  orderly_sub orderly (fun c mem => ⟨c, (List.mem_filter.mp mem).1, rfl, rfl, rfl⟩) fun _ mem => mem

theorem orderly_deleteNetwork (orderly : Orderly dir e) : Orderly dir (e.deleteNetwork dir reference) :=
  orderly_sub orderly (fun c mem => ⟨c, mem, rfl, rfl, rfl⟩) fun _ mem => (List.mem_filter.mp mem).1

/-- **One effect** keeps the Engine in order. -/
theorem orderly_apply {effect : Effect} (orderly : Orderly dir e) (own : dir.Own instanceId effect) :
    Orderly dir (effect.apply dir instanceId e) := by
  cases effect with
  | createNetwork input =>
    obtain ⟨session, id, network⟩ := own
    have labels := instanceOf_isolationLabels input instanceId
    refine ⟨orderly.containerId, orderly.containerName, ?_, ?_⟩
    · intro n mem
      rcases List.mem_append.mp mem with old | new
      · exact orderly.networkId n old
      · cases List.mem_singleton.mp new
        exact ⟨id, network.trans labels.symm⟩
    · intro n mem
      rcases List.mem_append.mp mem with old | new
      · exact orderly.networkName n old
      · cases List.mem_singleton.mp new
        refine ⟨networkNamespace_no_id input, fun input' same => ?_⟩
        rw [← networkNamespace_inj same, session, labels]
  | createContainer input id =>
    obtain ⟨session, given, container⟩ := own
    have labels := instanceOf_isolationLabels input instanceId
    refine ⟨?_, ?_, orderly.networkId, orderly.networkName⟩
    · intro c mem
      rcases List.mem_append.mp mem with old | new
      · exact orderly.containerId c old
      · cases List.mem_singleton.mp new
        exact ⟨given, container.trans labels.symm⟩
    · intro c mem
      rcases List.mem_append.mp mem with old | new
      · exact orderly.containerName c old
      · cases List.mem_singleton.mp new
        refine ⟨containerName_no_id input, fun input' same => ?_⟩
        rw [← containerName_inj same, session, labels]
  | startContainer reference => exact orderly_start orderly
  | removeContainer reference => exact orderly_removeContainer orderly
  | removeNetwork reference => exact orderly_deleteNetwork orderly

/-- The resources of one owner are the same in both. -/
def SameFor (owner : Option String) (e e' : Engine) : Prop :=
  e'.containersBy owner = e.containersBy owner ∧ e'.networksBy owner = e.networksBy owner

theorem sameFor_refl (owner : Option String) (e : Engine) : SameFor owner e e := ⟨rfl, rfl⟩

theorem SameFor.trans {owner : Option String} {e e' e'' : Engine} (h : SameFor owner e e')
    (h' : SameFor owner e' e'') : SameFor owner e e'' :=
  ⟨h'.1.trans h.1, h'.2.trans h.2⟩

/-- **One effect** of an instance leaves the resources of everyone else alone. -/
theorem others_apply {effect : Effect} {owner : Option String} (orderly : Orderly dir e)
    (own : dir.Own instanceId effect) (other : owner ≠ some instanceId) :
    SameFor owner e (effect.apply dir instanceId e) := by
  have labels := fun input => instanceOf_isolationLabels input instanceId
  cases effect with
  | createNetwork input =>
    refine ⟨rfl, ?_⟩
    show List.filter _ (e.networks ++ [_]) = List.filter _ e.networks
    rw [List.filter_append, List.filter_singleton]
    simp [labels input, Ne.symm other]
  | createContainer input id =>
    refine ⟨?_, rfl⟩
    show List.filter _ (e.containers ++ [_]) = List.filter _ e.containers
    rw [List.filter_append, List.filter_singleton]
    simp [labels input, Ne.symm other]
  | startContainer reference =>
    refine ⟨?_, rfl⟩
    show List.filter _ (e.containers.map _) = List.filter _ e.containers
    rw [List.filter_map]
    have same : ∀ c ∈ e.containers.filter fun c => instanceOf c.labels = owner,
        (if c.isAt reference then { c with running := true } else c) = c := by
      intro c mem
      obtain ⟨there, owned⟩ := List.mem_filter.mp mem
      rw [if_neg]
      intro found
      have mine := own_container orderly there own found
      rw [decide_eq_true_eq] at owned
      exact other (owned.symm.trans mine)
    have rest : (e.containers.filter ((fun c => decide (instanceOf c.labels = owner)) ∘
        fun c : Container => if c.isAt reference then { c with running := true } else c)) =
        e.containers.filter fun c => instanceOf c.labels = owner := by
      apply List.filter_congr
      intro c _
      simp only [Function.comp]
      split <;> rfl
    rw [rest]
    exact (List.map_congr_left same).trans (List.map_id _)
  | removeContainer reference =>
    refine ⟨filter_kept ?_, rfl⟩
    intro c mem owned
    rw [decide_eq_true_eq] at owned
    rw [Bool.not_eq_true', ← Bool.not_eq_true]
    intro found
    exact other (owned.symm.trans (own_container orderly mem own found))
  | removeNetwork reference =>
    refine ⟨rfl, filter_kept ?_⟩
    intro n mem owned
    rw [decide_eq_true_eq] at owned
    rw [Bool.not_eq_true', ← Bool.not_eq_true]
    intro found
    simp only [Bool.or_eq_true, decide_eq_true_eq] at found
    exact other (owned.symm.trans (own_network orderly mem own found))

end

/-! ## The operations -/

/-- The effects, one after the other. -/
def Engine.under (dir : Directory) (instanceId : String) (e : Engine) (effects : List Effect) : Engine :=
  effects.foldl (Effect.apply dir instanceId) e

def Behaviour.effects {α : Type} (b : Behaviour α) (effect : Effect) : List Effect :=
  if b.effective then [effect] else []

/-- The `try` block of `create`. -/
def launchEffects (input : CreateRuntimeRequest) (calls : Calls) : List Effect :=
  calls.createContainer.effects (.createContainer input calls.engineId) ++
    match calls.reportedId with
    | none => []
    | some id => calls.start.effects (.startContainer id)

def rollbackEffects (input : CreateRuntimeRequest) (calls : Calls) : List Effect :=
  (if calls.createContainer.accepted
    then calls.removeContainer.effects (.removeContainer (calls.reportedId.getD (containerName input)))
    else []) ++
  calls.removeNetwork.effects (.removeNetwork (networkNamespace input))

/-- How the `try` block ends says nothing about the Engine that it found. -/
def createEffects (options : DockerEngineOptions) (input : CreateRuntimeRequest) (signalingSecret : String)
    (calls : Calls) : List Effect :=
  calls.createNetwork.effects (.createNetwork input) ++
    if calls.createNetwork.accepted then launchEffects input calls ++
      if (launch options input signalingSecret calls ⟨[], []⟩).2.2.isOk then [] else rollbackEffects input calls
    else []

def destroyEffects (resource : RuntimeResource) (removeContainer removeNetwork : Behaviour Unit) : List Effect :=
  removeContainer.effects (.removeContainer resource.containerId) ++
    removeNetwork.effects (.removeNetwork resource.networkNamespace)

/-- What `create` names was given out to its instance, and the Engine reports the id it gave. -/
structure Entrusted (dir : Directory) (instanceId : String) (input : CreateRuntimeRequest) (calls : Calls) :
    Prop where
  session : dir.session input.sessionId = some instanceId
  networkId : isEngineId (dir.networkId (networkNamespace input)) = true
  network : dir.network (dir.networkId (networkNamespace input)) = some instanceId
  engineId : isEngineId calls.engineId = true
  container : dir.container calls.engineId = some instanceId
  named : ∀ id, calls.reportedId = some id → id = calls.engineId

/-- A resource that `create` of the instance has returned. -/
structure Granted (dir : Directory) (instanceId : String) (resource : RuntimeResource) : Prop where
  container : dir.OwnContainer instanceId resource.containerId
  network : ∃ input, resource.networkNamespace = networkNamespace input ∧
    dir.session input.sessionId = some instanceId

section
variable {dir : Directory} {e : Engine} {instanceId : String} {options : DockerEngineOptions}
  {input : CreateRuntimeRequest} {signalingSecret : String} {calls : Calls}

theorem under_append (effects effects' : List Effect) :
    e.under dir instanceId (effects ++ effects') =
      (e.under dir instanceId effects).under dir instanceId effects' :=
  List.foldl_append

/-- Whatever is the instance's own leaves the Engine in order. -/
theorem orderly_under {effects : List Effect} (orderly : Orderly dir e)
    (own : ∀ effect ∈ effects, dir.Own instanceId effect) : Orderly dir (e.under dir instanceId effects) := by
  induction effects generalizing e with
  | nil => exact orderly
  | cons effect rest ih =>
    apply ih (orderly_apply orderly (own effect List.mem_cons_self))
    intro other mem
    exact own other (List.mem_cons_of_mem effect mem)

theorem under_others {effects : List Effect} {owner : Option String} (orderly : Orderly dir e)
    (own : ∀ effect ∈ effects, dir.Own instanceId effect) (other : owner ≠ some instanceId) :
    SameFor owner e (e.under dir instanceId effects) := by
  induction effects generalizing e with
  | nil => exact sameFor_refl owner e
  | cons effect rest ih =>
    have here := own effect List.mem_cons_self
    have later := ih (orderly_apply orderly here) fun other mem => own other (List.mem_cons_of_mem effect mem)
    exact (others_apply orderly here other).trans later

/-- A call, whether it takes effect or not. -/
theorem after_under {α : Type} (b : Behaviour α) {effect : Effect} (change : Engine → Engine)
    (same : change e = effect.apply dir instanceId e) :
    b.after change e = e.under dir instanceId (b.effects effect) := by
  unfold Behaviour.after Behaviour.effects
  by_cases took : b.effective = true
  · rw [if_pos took, if_pos took, same]
    rfl
  · rw [if_neg took, if_neg took]
    rfl

/-- No id of a network is the name of one of an orchestrator's. -/
theorem removeNetwork_named (orderly : Orderly dir e) (input : CreateRuntimeRequest) :
    e.removeNetwork (networkNamespace input) = e.deleteNetwork dir (networkNamespace input) := by
  unfold Engine.removeNetwork Engine.deleteNetwork
  congr 1
  apply List.filter_congr
  intro n mem
  have other : dir.networkId n.name ≠ networkNamespace input := by
    intro same
    have id := (orderly.networkId n mem).1
    rw [same, networkNamespace_no_id] at id
    cases id
  simp [other]

/-! ### Whose effects they are -/

theorem effects_own {α : Type} {b : Behaviour α} {effect : Effect} (own : dir.Own instanceId effect) :
    ∀ done ∈ b.effects effect, dir.Own instanceId done := by
  intro done mem
  unfold Behaviour.effects at mem
  split at mem
  · cases List.mem_singleton.mp mem
    exact own
  · cases mem

theorem append_own {effects effects' : List Effect} (own : ∀ effect ∈ effects, dir.Own instanceId effect)
    (own' : ∀ effect ∈ effects', dir.Own instanceId effect) :
    ∀ effect ∈ effects ++ effects', dir.Own instanceId effect := by
  intro effect mem
  rcases List.mem_append.mp mem with mem | mem
  · exact own effect mem
  · exact own' effect mem

theorem no_effects : ∀ effect ∈ ([] : List Effect), dir.Own instanceId effect := by
  intro effect mem
  cases mem

theorem launchEffects_own (entrusted : Entrusted dir instanceId input calls) :
    ∀ effect ∈ launchEffects input calls, dir.Own instanceId effect := by
  apply append_own
  · exact effects_own ⟨entrusted.session, entrusted.engineId, entrusted.container⟩
  · cases reported : calls.reportedId with
    | none => exact no_effects
    | some id =>
      have same := entrusted.named id reported
      exact effects_own (.inl ⟨same ▸ entrusted.engineId, same ▸ entrusted.container⟩)

/-- The container is named by the id that was reported, and else by its session. -/
theorem rollbackEffects_own (entrusted : Entrusted dir instanceId input calls) :
    ∀ effect ∈ rollbackEffects input calls, dir.Own instanceId effect := by
  apply append_own
  · split
    · apply effects_own
      cases reported : calls.reportedId with
      | none => exact .inr ⟨input, rfl, entrusted.session⟩
      | some id =>
        have same := entrusted.named id reported
        exact .inl ⟨same ▸ entrusted.engineId, same ▸ entrusted.container⟩
    · exact no_effects
  · exact effects_own (.inr ⟨input, rfl, entrusted.session⟩)

theorem createEffects_own (entrusted : Entrusted dir instanceId input calls) :
    ∀ effect ∈ createEffects options input signalingSecret calls, dir.Own instanceId effect := by
  apply append_own
  · exact effects_own ⟨entrusted.session, entrusted.networkId, entrusted.network⟩
  · split
    · apply append_own (launchEffects_own entrusted)
      split
      · exact no_effects
      · exact rollbackEffects_own entrusted
    · exact no_effects

theorem destroyEffects_own {resource : RuntimeResource} {removeContainer removeNetwork : Behaviour Unit}
    (granted : Granted dir instanceId resource) :
    ∀ effect ∈ destroyEffects resource removeContainer removeNetwork, dir.Own instanceId effect := by
  obtain ⟨input, named, session⟩ := granted.network
  apply append_own
  · exact effects_own granted.container
  · exact effects_own (.inr ⟨input, named, session⟩)

/-! ### What an operation comes to -/

theorem launch_under (signalingSecret : String) : (launch options input signalingSecret calls e).1 =
    e.under dir options.instanceId (launchEffects input calls) := by
  rw [launchEffects, under_append, ← after_under calls.createContainer (fun e => e.createContainer
    ⟨calls.engineId, containerName input, isolationLabels input options.instanceId, false⟩) rfl]
  unfold launch Calls.reportedId
  cases calls.createContainer.report with
  | error error => rfl
  | ok response =>
    dsimp only
    cases response.id.filter (· ≠ "") with
    | none => rfl
    | some id => exact after_under calls.start (fun e => e.startContainer id) rfl

theorem launch_ends (e e' : Engine) : (launch options input signalingSecret calls e).2.2 =
    (launch options input signalingSecret calls e').2.2 := by
  unfold launch
  cases calls.createContainer.report with
  | error error => rfl
  | ok response =>
    dsimp only
    cases response.id.filter (· ≠ "") with
    | none => rfl
    | some id => rfl

theorem rollback_under {progress : Progress} (error : Thrown) (orderly : Orderly dir e)
    (known : progress = ⟨calls.createContainer.accepted, calls.reportedId⟩)
    (entrusted : Entrusted dir instanceId input calls) :
    (rollback input calls progress error e).1 = e.under dir instanceId (rollbackEffects input calls) := by
  have own := rollbackEffects_own entrusted
  unfold rollbackEffects at own ⊢
  rw [under_append]
  cases known
  unfold rollback
  dsimp only
  have removed : (if calls.createContainer.accepted then calls.removeContainer.after
        (·.removeContainer (calls.reportedId.getD (containerName input))) e else e) =
      e.under dir instanceId (if calls.createContainer.accepted
        then calls.removeContainer.effects (.removeContainer (calls.reportedId.getD (containerName input)))
        else []) := by
    split
    · exact after_under calls.removeContainer _ rfl
    · rfl
  rw [removed]
  apply after_under
  apply removeNetwork_named
  apply orderly_under orderly
  intro effect mem
  exact own effect (List.mem_append_left _ mem)

/-- **`create`**, whatever its calls come to. -/
theorem create_under (orderly : Orderly dir e) (entrusted : Entrusted dir options.instanceId input calls) :
    (create options input signalingSecret calls e).1 =
      e.under dir options.instanceId (createEffects options input signalingSecret calls) := by
  have connected : calls.createNetwork.after
        (fun e => e.createNetwork ⟨networkNamespace input, isolationLabels input options.instanceId⟩) e =
      e.under dir options.instanceId (calls.createNetwork.effects (.createNetwork input)) :=
    after_under calls.createNetwork _ rfl
  have own : dir.Own options.instanceId (.createNetwork input) :=
    ⟨entrusted.session, entrusted.networkId, entrusted.network⟩
  have orderly' := orderly_under orderly (effects_own (b := calls.createNetwork) own)
  unfold create
  rw [createEffects, under_append, ← connected]
  rw [← connected] at orderly'
  generalize calls.createNetwork.after
    (fun e => e.createNetwork ⟨networkNamespace input, isolationLabels input options.instanceId⟩) e = e' at orderly' ⊢
  unfold Behaviour.accepted
  cases calls.createNetwork.report with
  | error error => rfl
  | ok _ =>
    have accepted : (Except.ok () : Except Thrown Unit).isOk = true := rfl
    rw [if_pos accepted, under_append, ← launch_under signalingSecret]
    have launched := orderly_under orderly' (launchEffects_own entrusted)
    rw [← launch_under signalingSecret] at launched
    have progress : (launch options input signalingSecret calls e').2.1 =
        ⟨calls.createContainer.accepted, calls.reportedId⟩ := launch_progress
    have ends : (launch options input signalingSecret calls ⟨[], []⟩).2.2 =
        (launch options input signalingSecret calls e').2.2 := launch_ends ⟨[], []⟩ e'
    rw [ends]
    dsimp only
    generalize launch options input signalingSecret calls e' = outcome at launched progress ⊢
    obtain ⟨after, known, result⟩ := outcome
    cases result with
    | ok resource => rfl
    | error error => exact rollback_under error launched progress entrusted

/-- **`destroy`** of a resource that the instance was granted. -/
theorem destroy_under {resource : RuntimeResource} {removeContainer removeNetwork : Behaviour Unit}
    (orderly : Orderly dir e) (granted : Granted dir instanceId resource) :
    (destroy resource removeContainer removeNetwork e).1 =
      e.under dir instanceId (destroyEffects resource removeContainer removeNetwork) := by
  obtain ⟨input, named, session⟩ := granted.network
  have removed : removeContainer.after (·.removeContainer resource.containerId) e =
      e.under dir instanceId (removeContainer.effects (.removeContainer resource.containerId)) :=
    after_under removeContainer _ rfl
  rw [destroyEffects, under_append, ← removed]
  have own : dir.Own instanceId (.removeContainer resource.containerId) := granted.container
  have orderly' := orderly_under orderly (effects_own (b := removeContainer) own)
  apply after_under
  rw [← removed] at orderly'
  rw [named]
  exact removeNetwork_named orderly' input

/-- What `create` returns is granted. -/
theorem create_granted {resource : RuntimeResource} (entrusted : Entrusted dir options.instanceId input calls)
    (created : (create options input signalingSecret calls e).2 = .ok resource) :
    Granted dir options.instanceId resource := by
  unfold create at created
  cases report : calls.createNetwork.report with
  | error error =>
    rw [report] at created
    cases created
  | ok _ =>
    rw [report] at created
    dsimp only at created
    split at created
    · rename_i ended
      cases created
      obtain ⟨-, named, -, network⟩ := launch_named (congrArg (·.2.2) ended)
      have same := entrusted.named _ named
      exact ⟨.inl ⟨same ▸ entrusted.engineId, same ▸ entrusted.container⟩,
        input, network, entrusted.session⟩
    · cases created

end

end Fireball.Docker
