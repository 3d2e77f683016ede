import Fireball.Docker.Instances
import Fireball.Docker.Reconcile
import Fireball.Foundation.Ascii

/-!
# A restart

What `reconcile` leaves in an Engine that earlier operations of the instance, finished or
cut off, have left behind. Each of its deletions takes effect or not, and is accepted only
if it did.

* `ownedIds_described`: the ids of an honest list;
* `under_removes`: what is gone after the deletions;
* `reconcile_outcome`: what is sent, and what success says;
* `container_left`, `network_left`: what is left, and why.
-/

namespace Fireball.Docker

open Foundation
open Session (CreateRuntimeRequest OrchestratorError RuntimeResource Thrown)

/-! ## Honest lists -/

/-- The element of a list is about the resource with this id and these labels. -/
def Describes (element : Json) (id : String) (labels : Labels) : Prop :=
  ∃ fields shown, element = .object fields ∧ Json.field fields "Id" = some (.string id) ∧
    Json.field fields "Labels" = some (.object shown) ∧
    ∀ key, Json.field shown key = (labels.lookup key).map Json.string

/-- The list has the containers with the labels of the filter, in some order. -/
def ListsContainers (instanceId : String) (e : Engine) (containers : List Json) : Prop :=
  ∃ shown : List Container, List.Forall₂ (fun element c => Describes element c.id c.labels) containers shown ∧
    shown.Perm (e.containersBy (some instanceId))

def ListsNetworks (dir : Directory) (instanceId : String) (e : Engine) (networks : List Json) : Prop :=
  ∃ shown : List Network,
    List.Forall₂ (fun element n => Describes element (dir.networkId n.name) n.labels) networks shown ∧
      shown.Perm (e.networksBy (some instanceId))

structure Lists (dir : Directory) (instanceId : String) (e : Engine) (containers networks : List Json) :
    Prop where
  containers : ListsContainers instanceId e containers
  networks : ListsNetworks dir instanceId e networks

theorem safe_engineId {id : String} (h : isEngineId id = true) : isSafeId id = true := by
  simp only [isEngineId, Bool.and_eq_true, decide_eq_true_eq, List.all_eq_true] at h
  obtain ⟨length, digits⟩ := h
  have same : id.length = 64 := length
  simp only [isSafeId, same, Bool.and_eq_true, decide_eq_true_eq, List.all_eq_true]
  refine ⟨by decide, fun c mem => ?_⟩
  have digit := digits c mem
  simp only [Bool.or_eq_true, Bool.and_eq_true, decide_eq_true_eq] at digit ⊢
  left
  rcases digit with digit | ⟨low, high⟩
  · exact alphanum_of_digit digit
  · apply alphanum_of_lower
    rw [ascii_lower]
    have low' : 97 ≤ c.toNat := low
    have high' : c.toNat ≤ 102 := high
    omega

theorem instanceOf_eq_some {labels : Labels} {instanceId : String} :
    instanceOf labels = some instanceId ↔ labels.lookup "dev.fireball.managed" = some "true" ∧
      labels.lookup "dev.fireball.instance" = some instanceId := by
  unfold instanceOf
  split
  · rename_i managed
    simp [managed]
  · rename_i other
    simp [other]

theorem managed_described {element : Json} {id instanceId : String} {labels : Labels}
    (described : Describes element id labels) (given : isEngineId id = true)
    (own : instanceOf labels = some instanceId) : managedResourceId element instanceId = some id := by
  obtain ⟨fields, shown, object, idField, labelField, same⟩ := described
  obtain ⟨managed, instance_⟩ := instanceOf_eq_some.mp own
  refine managedResourceId_iff.mpr ⟨fields, shown, object, labelField, ?_, ?_, idField, safe_engineId given⟩
  · rw [same, managed]
    rfl
  · rw [same, instance_]
    rfl

/-- An honest list owns the ids of all that it shows. -/
theorem ownedIds_described {α : Type} {elements : List Json} {shown : List α} {instanceId : String}
    (id : α → String) (labels : α → Labels)
    (described : List.Forall₂ (fun element a => Describes element (id a) (labels a)) elements shown)
    (own : ∀ a ∈ shown, isEngineId (id a) = true ∧ instanceOf (labels a) = some instanceId) :
    ownedIds instanceId elements = shown.map id := by
  induction described with
  | nil => rfl
  | @cons element a elements shown here _ ih =>
    obtain ⟨given, mine⟩ := own a List.mem_cons_self
    have rest := ih fun b mem => own b (List.mem_cons_of_mem a mem)
    rw [ownedIds] at rest ⊢
    rw [List.filterMap_cons, managed_described here given mine, rest]
    rfl

/-! ## The deletions -/

def Request.effect : Request → Option Effect
  | .removeContainer id => some (.removeContainer id)
  | .removeNetwork id => some (.removeNetwork id)
  | _ => none

/-- The effects from number `n` on that take place. -/
def taking (took : Nat → Bool) : Nat → List Effect → List Effect
  | _, [] => []
  | n, effect :: rest =>
    if took n then effect :: taking took (n + 1) rest else taking took (n + 1) rest

def reconcileEffects (instanceId : String) (reports : Reports) (took : Nat → Bool) : List Effect :=
  taking took 0 ((reconcile instanceId reports).1.filterMap Request.effect)

/-- The Engine after a call of `reconcile`. -/
def reconciled (dir : Directory) (instanceId : String) (reports : Reports) (took : Nat → Bool) (e : Engine) :
    Engine :=
  e.under dir instanceId (reconcileEffects instanceId reports took)

/-- The effect only takes resources away. -/
def Effect.Removes : Effect → Prop
  | .removeContainer _ => True
  | .removeNetwork _ => True
  | _ => False

section
variable {dir : Directory} {instanceId : String} {took : Nat → Bool} {e : Engine} {effects : List Effect}

theorem taking_sub {n : Nat} : ∀ effect ∈ taking took n effects, effect ∈ effects := by
  induction effects generalizing n with
  | nil =>
    intro effect mem
    cases mem
  | cons head rest ih =>
    intro effect mem
    rw [taking] at mem
    by_cases first : took n = true
    · rw [if_pos first] at mem
      rcases List.mem_cons.mp mem with rfl | later
      · exact List.mem_cons_self
      · exact List.mem_cons_of_mem head (ih effect later)
    · rw [if_neg first] at mem
      exact List.mem_cons_of_mem head (ih effect mem)

theorem mem_taking {first n : Nat} {effect : Effect} (there : effects[n]? = some effect)
    (done : took (first + n) = true) : effect ∈ taking took first effects := by
  induction effects generalizing first n with
  | nil => cases there
  | cons head rest ih =>
    rw [taking]
    cases n with
    | zero =>
      cases there
      rw [Nat.add_zero] at done
      rw [if_pos done]
      exact List.mem_cons_self
    | succ n =>
      have later : effect ∈ taking took (first + 1) rest := by
        apply ih there
        rwa [Nat.add_assoc, Nat.add_comm 1]
      by_cases here : took first = true
      · rw [if_pos here]
        exact List.mem_cons_of_mem head later
      · rwa [if_neg here]

/-- Nothing is left but what was there. -/
theorem under_sub (removes : ∀ effect ∈ effects, effect.Removes) :
    (∀ c ∈ (e.under dir instanceId effects).containers, c ∈ e.containers) ∧
      ∀ x ∈ (e.under dir instanceId effects).networks, x ∈ e.networks := by
  induction effects generalizing e with
  | nil => exact ⟨fun _ mem => mem, fun _ mem => mem⟩
  | cons effect rest ih =>
    obtain ⟨containers, networks⟩ := ih (e := effect.apply dir instanceId e)
      fun other mem => removes other (List.mem_cons_of_mem effect mem)
    have removing := removes effect List.mem_cons_self
    have here : (∀ c ∈ (effect.apply dir instanceId e).containers, c ∈ e.containers) ∧
        ∀ x ∈ (effect.apply dir instanceId e).networks, x ∈ e.networks := by
      cases effect with
      | removeContainer reference => exact ⟨fun _ mem => (List.mem_filter.mp mem).1, fun _ mem => mem⟩
      | removeNetwork reference => exact ⟨fun _ mem => mem, fun _ mem => (List.mem_filter.mp mem).1⟩
      | createNetwork | createContainer | startContainer => cases removing
    exact ⟨fun c mem => here.1 c (containers c mem), fun x mem => here.2 x (networks x mem)⟩

/-- What a deletion has found is gone. -/
theorem under_removes {effect : Effect} (removes : ∀ effect ∈ effects, effect.Removes)
    (done : effect ∈ effects) :
    (∀ reference, effect = .removeContainer reference →
      ∀ c ∈ (e.under dir instanceId effects).containers, c.isAt reference = false) ∧
    ∀ reference, effect = .removeNetwork reference →
      ∀ x ∈ (e.under dir instanceId effects).networks,
        x.name ≠ reference ∧ dir.networkId x.name ≠ reference := by
  induction effects generalizing e with
  | nil => cases done
  | cons head rest ih =>
    have others : ∀ effect ∈ rest, effect.Removes := fun other mem => removes other (List.mem_cons_of_mem head mem)
    rcases List.mem_cons.mp done with rfl | later
    · have sub : (∀ c ∈ ((effect.apply dir instanceId e).under dir instanceId rest).containers,
          c ∈ (effect.apply dir instanceId e).containers) ∧
          ∀ x ∈ ((effect.apply dir instanceId e).under dir instanceId rest).networks,
            x ∈ (effect.apply dir instanceId e).networks := under_sub others
      obtain ⟨containers, networks⟩ := sub
      constructor
      · rintro reference rfl c mem
        have kept := (List.mem_filter.mp (containers c mem)).2
        simpa using kept
      · rintro reference rfl x mem
        have kept := (List.mem_filter.mp (networks x mem)).2
        simpa using kept
    · exact ih others later

end

/-! ## The whole call -/

theorem deletion_effects (request : String → Request) (effect : String → Effect)
    (of : ∀ id, (request id).effect = some (effect id)) (ids : List String) :
    (ids.map request).filterMap Request.effect = ids.map effect := by
  have same : Request.effect ∘ request = fun id => some (effect id) := funext of
  rw [List.filterMap_map, same]
  exact congrFun List.filterMap_eq_map' ids

/-- **The requests**, and what success says of the deletions. -/
theorem reconcile_outcome {instanceId : String} {reports : Reports} {containers networks : List Json}
    (listed : reports.containers = .ok (.array containers)) (listed' : reports.networks = .ok (.array networks)) :
    (reconcile instanceId reports).1.filterMap Request.effect =
      (ownedIds instanceId containers).map .removeContainer ++ (ownedIds instanceId networks).map .removeNetwork ∧
    ∀ result, (reconcile instanceId reports).2 = .ok result →
      (∀ n < (ownedIds instanceId containers).length + (ownedIds instanceId networks).length,
        (reports.deletion n).isOk = true) ∧
      result = ⟨(ownedIds instanceId containers).length, (ownedIds instanceId networks).length⟩ := by
  obtain ⟨first, eq, firstTotal⟩ :=
    sweep_eq instanceId "container" reports .removeContainer ⟨[.listContainers], 0, []⟩ 0 containers
  obtain ⟨second, eq', secondTotal⟩ := sweep_eq instanceId "network" reports .removeNetwork
    ⟨[.listContainers] ++ (ownedIds instanceId containers).map .removeContainer ++ [.listNetworks],
      0 + (ownedIds instanceId containers).length,
      [] ++ failuresFrom reports "container" 0 (ownedIds instanceId containers)⟩ 0 networks
  unfold reconcile
  rw [listed, listed']
  dsimp only [managedList]
  rw [eq]
  dsimp only
  rw [eq']
  dsimp only
  constructor
  · have lists : [Request.listContainers].filterMap Request.effect = [] ∧
        [Request.listNetworks].filterMap Request.effect = [] := ⟨rfl, rfl⟩
    have containerEffects := deletion_effects .removeContainer .removeContainer (fun _ => rfl) (ownedIds instanceId containers)
    have networkEffects := deletion_effects .removeNetwork .removeNetwork (fun _ => rfl) (ownedIds instanceId networks)
    rw [List.filterMap_append, List.filterMap_append, List.filterMap_append, containerEffects,
      networkEffects, lists.1, lists.2, List.nil_append, List.append_nil]
  · intro result settled
    simp only [Nat.zero_add, List.nil_append] at settled firstTotal secondTotal
    split at settled
    · cases settled
    · rename_i quiet
      cases settled
      rw [List.length_append] at quiet
      have noFirst := List.eq_nil_of_length_eq_zero (l := failuresFrom reports "container" 0
        (ownedIds instanceId containers)) (by omega)
      have noSecond := List.eq_nil_of_length_eq_zero (l := failuresFrom reports "network"
        (ownedIds instanceId containers).length (ownedIds instanceId networks)) (by omega)
      rw [noFirst, List.length_nil, Nat.add_zero] at firstTotal
      rw [noSecond, List.length_nil, Nat.add_zero] at secondTotal
      refine ⟨?_, by rw [firstTotal, secondTotal]⟩
      have first := failuresFrom_nil.mp noFirst
      have second := failuresFrom_nil.mp noSecond
      intro n below
      by_cases early : n < (ownedIds instanceId containers).length
      · simpa using first n early
      · have ok := second (n - (ownedIds instanceId containers).length) (by omega)
        rwa [show (ownedIds instanceId containers).length + (n - (ownedIds instanceId containers).length) = n
          by omega] at ok

section
variable {dir : Directory} {instanceId : String} {reports : Reports} {took : Nat → Bool} {e₀ e : Engine}
  {containers networks : List Json}

theorem mem_containersBy {owner : Option String} {c : Container} :
    c ∈ e.containersBy owner ↔ c ∈ e.containers ∧ instanceOf c.labels = owner := by
  simp [Engine.containersBy]

theorem mem_networksBy {owner : Option String} {n : Network} :
    n ∈ e.networksBy owner ↔ n ∈ e.networks ∧ instanceOf n.labels = owner := by
  simp [Engine.networksBy]

/-- The ids that an honest list owns are those of what the instance has. -/
theorem listed_ids {α : Type} {id : α → String} {labels : α → Labels} {elements : List Json} {all shown : List α}
    (described : List.Forall₂ (fun element a => Describes element (id a) (labels a)) elements shown)
    (same : shown.Perm (all.filter fun a => instanceOf (labels a) = some instanceId))
    (given : ∀ a ∈ all, isEngineId (id a) = true) : (ownedIds instanceId elements).Perm
      ((all.filter fun a => instanceOf (labels a) = some instanceId).map id) := by
  have ids := ownedIds_described id labels described (by
    intro a mem
    obtain ⟨there, own⟩ := List.mem_filter.mp (same.mem_iff.mp mem)
    exact ⟨given a there, of_decide_eq_true own⟩)
  rw [ids]
  exact same.map _

/-- They are ids that the Engine gave to the instance. -/
theorem listed_own {α : Type} {id : α → String} {labels : α → Labels} {elements : List Json} {all shown : List α}
    {owner : String → Option String}
    (described : List.Forall₂ (fun element a => Describes element (id a) (labels a)) elements shown)
    (same : shown.Perm (all.filter fun a => instanceOf (labels a) = some instanceId))
    (directed : ∀ a ∈ all, isEngineId (id a) = true ∧ owner (id a) = instanceOf (labels a)) :
    ∀ reference ∈ ownedIds instanceId elements,
      isEngineId reference = true ∧ owner reference = some instanceId := by
  intro reference mem
  have ids := listed_ids described same fun a there => (directed a there).1
  obtain ⟨a, owned, rfl⟩ := List.mem_map.mp (ids.mem_iff.mp mem)
  obtain ⟨there, own⟩ := List.mem_filter.mp owned
  obtain ⟨given, whose⟩ := directed a there
  exact ⟨given, whose.trans (of_decide_eq_true own)⟩

theorem listed_containers (orderly : Orderly dir e) (lists : ListsContainers instanceId e containers) :
    (ownedIds instanceId containers).Perm ((e.containersBy (some instanceId)).map (·.id)) := by
  obtain ⟨shown, described, same⟩ := lists
  exact listed_ids described same fun c mem => (orderly.containerId c mem).1

theorem listed_networks (orderly : Orderly dir e) (lists : ListsNetworks dir instanceId e networks) :
    (ownedIds instanceId networks).Perm
      ((e.networksBy (some instanceId)).map fun n => dir.networkId n.name) := by
  obtain ⟨shown, described, same⟩ := lists
  exact listed_ids described same fun n mem => (orderly.networkId n mem).1

theorem managedList_ok {kind : String} {report : Except Thrown Json} {elements : List Json}
    (h : managedList kind report = .ok elements) : report = .ok (.array elements) := by
  unfold managedList at h
  split at h
  · cases h
  · cases h
    rfl
  · cases h

/-- Every deletion that is sent is of an id that a list owned. -/
theorem request_listed {request : Request} (sent : request ∈ (reconcile instanceId reports).1) :
    request = .listContainers ∨
    (∃ containers id, reports.containers = .ok (.array containers) ∧ id ∈ ownedIds instanceId containers ∧
      request = .removeContainer id) ∨
    request = .listNetworks ∨
    ∃ networks id, reports.networks = .ok (.array networks) ∧ id ∈ ownedIds instanceId networks ∧
      request = .removeNetwork id := by
  unfold reconcile at sent
  cases list : managedList "container" reports.containers with
  | error e =>
    rw [list] at sent
    exact .inl (List.mem_singleton.mp sent)
  | ok containers =>
    obtain ⟨first, eq, -⟩ :=
      sweep_eq instanceId "container" reports .removeContainer ⟨[.listContainers], 0, []⟩ 0 containers
    rw [list] at sent
    dsimp only at sent
    rw [eq] at sent
    have early : request ∈ [Request.listContainers] ++ (ownedIds instanceId containers).map .removeContainer ++
        [.listNetworks] → request = .listContainers ∨
        (∃ containers id, reports.containers = .ok (.array containers) ∧ id ∈ ownedIds instanceId containers ∧
          request = .removeContainer id) ∨ request = .listNetworks := by
      intro mem
      rcases List.mem_append.mp mem with mem | last
      · rcases List.mem_append.mp mem with first | mem
        · exact .inl (List.mem_singleton.mp first)
        · obtain ⟨id, owned, rfl⟩ := List.mem_map.mp mem
          exact .inr (.inl ⟨containers, id, managedList_ok list, owned, rfl⟩)
      · exact .inr (.inr (List.mem_singleton.mp last))
    cases list' : managedList "network" reports.networks with
    | error e =>
      rw [list'] at sent
      rcases early sent with here | here | here
      · exact .inl here
      · exact .inr (.inl here)
      · exact .inr (.inr (.inl here))
    | ok networks =>
      obtain ⟨second, eq', -⟩ := sweep_eq instanceId "network" reports .removeNetwork
        ⟨[.listContainers] ++ (ownedIds instanceId containers).map .removeContainer ++ [.listNetworks],
          0 + (ownedIds instanceId containers).length,
          [] ++ failuresFrom reports "container" 0 (ownedIds instanceId containers)⟩ 0 networks
      rw [list'] at sent
      dsimp only at sent
      rw [eq'] at sent
      rcases List.mem_append.mp sent with mem | mem
      · rcases early mem with here | here | here
        · exact .inl here
        · exact .inr (.inl here)
        · exact .inr (.inr (.inl here))
      · obtain ⟨id, owned, rfl⟩ := List.mem_map.mp mem
        exact .inr (.inr (.inr ⟨networks, id, managedList_ok list', owned, rfl⟩))

theorem effect_listed {effect : Effect}
    (sent : effect ∈ (reconcile instanceId reports).1.filterMap Request.effect) :
    (∃ containers id, reports.containers = .ok (.array containers) ∧ id ∈ ownedIds instanceId containers ∧
      effect = .removeContainer id) ∨
    ∃ networks id, reports.networks = .ok (.array networks) ∧ id ∈ ownedIds instanceId networks ∧
      effect = .removeNetwork id := by
  obtain ⟨request, mem, same⟩ := List.mem_filterMap.mp sent
  rcases request_listed mem with rfl | ⟨containers, id, list, owned, rfl⟩ | rfl | ⟨networks, id, list, owned, rfl⟩
  · cases same
  · cases same
    exact .inl ⟨containers, id, list, owned, rfl⟩
  · cases same
  · cases same
    exact .inr ⟨networks, id, list, owned, rfl⟩

/-- What `reconcile` deletes is the instance's own, if the lists were honest when they were taken. -/
theorem reconcileEffects_own
    (honest : ∀ containers, reports.containers = .ok (.array containers) →
      ∃ seen, Orderly dir seen ∧ ListsContainers instanceId seen containers)
    (honest' : ∀ networks, reports.networks = .ok (.array networks) →
      ∃ seen, Orderly dir seen ∧ ListsNetworks dir instanceId seen networks) :
    ∀ effect ∈ reconcileEffects instanceId reports took, dir.Own instanceId effect := by
  intro effect mem
  rcases effect_listed (taking_sub effect mem) with ⟨containers, id, list, owned, rfl⟩ |
    ⟨networks, id, list, owned, rfl⟩
  · obtain ⟨seen, orderly, shown, described, same⟩ := honest containers list
    exact .inl (listed_own described same orderly.containerId id owned)
  · obtain ⟨seen, orderly, shown, described, same⟩ := honest' networks list
    exact .inl (listed_own described same orderly.networkId id owned)

theorem all_remove (ids ids' : List String) :
    ∀ effect ∈ ids.map Effect.removeContainer ++ ids'.map Effect.removeNetwork, effect.Removes := by
  intro effect mem
  rcases List.mem_append.mp mem with mem | mem
  · obtain ⟨id, -, rfl⟩ := List.mem_map.mp mem
    trivial
  · obtain ⟨id, -, rfl⟩ := List.mem_map.mp mem
    trivial

theorem taking_removes {effects : List Effect} (took : Nat → Bool) (removes : ∀ effect ∈ effects, effect.Removes) :
    ∀ effect ∈ taking took 0 effects, effect.Removes := by
  intro effect mem
  exact removes effect (taking_sub effect mem)

/-- Where a deletion stands among the containers and the networks. -/
theorem placed {ids ids' : List String} {x : String ⊕ String} (mem : x ∈ ids.map .inl ++ ids'.map .inr) :
    ∃ n : Nat, ∀ {α : Type} (f g : String → α), (ids.map f ++ ids'.map g)[n]? = some (x.elim f g) := by
  obtain ⟨n, there⟩ := List.mem_iff_getElem?.mp mem
  refine ⟨n, fun f g => ?_⟩
  have same : ids.map f ++ ids'.map g = (ids.map Sum.inl ++ ids'.map Sum.inr).map (Sum.elim f g) := by
    simp [Function.comp_def]
  rw [same, List.getElem?_map, there]
  rfl

/-- A deletion that is sent fails, or takes effect. -/
theorem failed_or_taken {x : String ⊕ String} (listed : reports.containers = .ok (.array containers))
    (listed' : reports.networks = .ok (.array networks))
    (honest : ∀ n, (reports.deletion n).isOk = true → took n = true)
    (mem : x ∈ (ownedIds instanceId containers).map .inl ++ (ownedIds instanceId networks).map .inr) :
    (∃ n error, reports.deletion n = .error error ∧
      (deletions instanceId containers networks)[n]? = some (x.elim (("container", ·)) (("network", ·)))) ∨
    x.elim Effect.removeContainer Effect.removeNetwork ∈ reconcileEffects instanceId reports took := by
  obtain ⟨n, there⟩ := placed mem
  cases reported : reports.deletion n with
  | error error => exact .inl ⟨n, error, reported, there _ _⟩
  | ok _ =>
    right
    rw [reconcileEffects, (reconcile_outcome listed listed').1]
    apply mem_taking (there _ _)
    rw [Nat.zero_add]
    apply honest
    rw [reported]
    rfl

variable (instanceId took) in
theorem removes_listed (listed : reports.containers = .ok (.array containers))
    (listed' : reports.networks = .ok (.array networks)) :
    ∀ effect ∈ reconcileEffects instanceId reports took, effect.Removes := by
  rw [reconcileEffects, (reconcile_outcome listed listed').1]
  exact taking_removes took (all_remove _ _)

/-- A container that is left is one whose deletion failed. -/
theorem container_left {c : Container} (orderly : Orderly dir e)
    (lists : Lists dir instanceId e containers networks)
    (listed : reports.containers = .ok (.array containers)) (listed' : reports.networks = .ok (.array networks))
    (honest : ∀ n, (reports.deletion n).isOk = true → took n = true)
    (left : c ∈ (reconciled dir instanceId reports took e).containersBy (some instanceId)) :
    ∃ n error, reports.deletion n = .error error ∧
      (deletions instanceId containers networks)[n]? = some ("container", c.id) := by
  obtain ⟨there, own⟩ := mem_containersBy.mp left
  have removing := removes_listed instanceId took listed listed'
  have known : c.id ∈ ownedIds instanceId containers := by
    rw [(listed_containers orderly lists.containers).mem_iff]
    exact List.mem_map_of_mem (mem_containersBy.mpr ⟨(under_sub removing).1 c there, own⟩)
  rcases failed_or_taken listed listed' honest (List.mem_append_left _ (List.mem_map_of_mem known)) with
    failed | taken
  · exact failed
  · have gone := (under_removes removing taken).1 c.id rfl c there
    simp [Container.isAt] at gone

theorem network_left {x : Network} (orderly : Orderly dir e)
    (lists : Lists dir instanceId e containers networks)
    (listed : reports.containers = .ok (.array containers)) (listed' : reports.networks = .ok (.array networks))
    (honest : ∀ n, (reports.deletion n).isOk = true → took n = true)
    (left : x ∈ (reconciled dir instanceId reports took e).networksBy (some instanceId)) :
    ∃ n error, reports.deletion n = .error error ∧
      (deletions instanceId containers networks)[n]? = some ("network", dir.networkId x.name) := by
  obtain ⟨there, own⟩ := mem_networksBy.mp left
  have removing := removes_listed instanceId took listed listed'
  have known : dir.networkId x.name ∈ ownedIds instanceId networks := by
    rw [(listed_networks orderly lists.networks).mem_iff]
    exact List.mem_map.mpr ⟨x, mem_networksBy.mpr ⟨(under_sub removing).2 x there, own⟩, rfl⟩
  rcases failed_or_taken listed listed' honest (List.mem_append_right _ (List.mem_map_of_mem known)) with
    failed | taken
  · exact failed
  · have gone := (under_removes removing taken).2 (dir.networkId x.name) rfl x there
    exact absurd rfl gone.2

end

end Fireball.Docker
