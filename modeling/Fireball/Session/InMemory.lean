import Fireball.Foundation.Bytes
import Fireball.Foundation.JsMap
import Fireball.Foundation.Machine
import Fireball.Foundation.Url
import Fireball.Session.Types

/-!
# `InMemoryRuntime`

The adapter of `src/runtime/in-memory-runtime.ts`. `new URL`, the random names
and the clock are parameters.

* `perform_wf`: one tab call, when no URL is refused after the tabs were touched;
* `memory_tabs`: the runs in which the tabs stay in order and a refused call
  changes nothing.
-/

namespace Fireball.Session

open Foundation

structure InMemoryRuntime where
  resources : JsMap String RuntimeResource
  tabs : JsMap String (JsMap String TabView)
  deriving DecidableEq

namespace InMemoryRuntime

def tabNotFound : OrchestratorError := ⟨.tabNotFound, "tab not found", 404⟩

def invalidTabUrl : OrchestratorError := ⟨.tabUrlInvalid, "tab URL is invalid", 400⟩

def tabLimitReached : OrchestratorError := ⟨.tabLimitReached, "session tab limit reached", 409⟩

def tabMinimumReached : OrchestratorError :=
  ⟨.tabMinimumReached, "a session must retain one tab", 409⟩

def tabRuntimeUnavailable : OrchestratorError :=
  ⟨.tabRuntimeUnavailable, "tab runtime is unavailable", 503⟩

def home : String := "fireball://home"

section
variable (parseUrl : String → Option Url)

/-- `parseUrl` is `new URL`, or nothing when it throws. -/
def validateTabUrl (value : String) : Except Thrown String :=
  if value = home then .ok value
  else if (utf8 value).length > 4096 then .error (.orchestrator invalidTabUrl)
  else match parseUrl value with
    | none => .error (.orchestrator invalidTabUrl)
    | some url =>
      if url.protocol ∉ ["http:", "https:"] ∨ url.username ≠ "" ∨ url.password ≠ ""
          ∨ url.hostname = "" then .error (.orchestrator invalidTabUrl)
      else .ok url.href

/-! ## The calls on the tabs of one resource -/

/-- `for (const [id, tab] of tabs) tabs.set(id, { ...tab, active: … })`. -/
def setActive (active : String → Bool) (tabs : JsMap String TabView) : JsMap String TabView :=
  tabs.mapValues fun id tab => { tab with active := active id }

def createTab (id now : String) (url : Option String) (tabs : JsMap String TabView) :
    JsMap String TabView × Except Thrown TabReply :=
  if tabs.size ≥ 4 then (tabs, .error (.orchestrator tabLimitReached))
  else
    let tabs := setActive (fun _ => false) tabs
    match validateTabUrl parseUrl (url.getD home) with
    | .error e => (tabs, .error e)
    | .ok url =>
      let tab : TabView := { id, url, createdAt := now, active := true }
      (tabs.set id tab, .ok (.tab tab))

def activateTab (tabId : String) (tabs : JsMap String TabView) :
    JsMap String TabView × Except Thrown TabReply :=
  match tabs.get tabId with
  | none => (tabs, .error (.orchestrator tabNotFound))
  | some selected => (setActive (fun id => id = tabId) tabs, .ok (.tab { selected with active := true }))

def navigateTab (tabId url : String) (tabs : JsMap String TabView) :
    JsMap String TabView × Except Thrown TabReply :=
  match tabs.get tabId with
  | none => (tabs, .error (.orchestrator tabNotFound))
  | some previous => match validateTabUrl parseUrl url with
    | .error e => (tabs, .error e)
    | .ok url =>
      let tab := { previous with url }
      (tabs.set tabId tab, .ok (.tab tab))

def deleteTab (tabId : String) (tabs : JsMap String TabView) :
    JsMap String TabView × Except Thrown TabReply :=
  match tabs.get tabId with
  | none => (tabs, .error (.orchestrator tabNotFound))
  | some selected =>
    if tabs.size = 1 then (tabs, .error (.orchestrator tabMinimumReached))
    else
      let tabs := tabs.delete tabId
      if selected.active then match tabs.entries with
        -- destructuring `undefined`; a second tab is always left here
        | [] => (tabs, .error (.other "undefined is not iterable"))
        | (fallbackId, fallback) :: _ =>
          (tabs.set fallbackId { fallback with active := true }, .ok .deleted)
      else (tabs, .ok .deleted)

def perform (id now : String) (tabs : JsMap String TabView) :
    TabOperation → JsMap String TabView × Except Thrown TabReply
  | .listTabs => (tabs, .ok (.tabs tabs.values))
  | .createTab url => createTab parseUrl id now url tabs
  | .activateTab tabId => activateTab tabId tabs
  | .navigateTab tabId url => navigateTab parseUrl tabId url tabs
  | .deleteTab tabId => deleteTab tabId tabs

end

/-! ## The adapter -/

def initial : InMemoryRuntime := ⟨.empty, .empty⟩

def created (request : CreateRuntimeRequest) (nonce secret : String) : RuntimeResource where
  containerId := "mock-" ++ nonce
  containerName := "fireball-" ++ request.sessionId
  networkNamespace := "net-" ++ nonce
  storageNamespace := "tmpfs-" ++ nonce
  signalingEndpoint := "ws://127.0.0.1:1/internal/v1/signaling"
  signalingSecret := secret
  tabControlEndpoint := "http://127.0.0.1:1/internal/v1/tabs"

def firstTab (id now : String) : JsMap String TabView :=
  JsMap.empty.set id { id, url := home, createdAt := now, active := true }

def create (resource : RuntimeResource) (tabId now : String) (r : InMemoryRuntime) : InMemoryRuntime where
  resources := r.resources.set resource.containerId resource
  tabs := r.tabs.set resource.containerId (firstTab tabId now)

def destroy (resource : RuntimeResource) (r : InMemoryRuntime) : InMemoryRuntime where
  resources := r.resources.delete resource.containerId
  tabs := r.tabs.delete resource.containerId

def inspect (resource : RuntimeResource) (r : InMemoryRuntime) : RuntimeInspection :=
  if r.resources.has resource.containerId then .running else .failed .containerMissing

/-- A tab call. `runtimeTabs` throws when the resource has no tabs. -/
def tabCall (parseUrl : String → Option Url) (resource : RuntimeResource) (id now : String)
    (operation : TabOperation) (r : InMemoryRuntime) : InMemoryRuntime × Except Thrown TabReply :=
  match r.tabs.get resource.containerId with
  | none => (r, .error (.orchestrator tabRuntimeUnavailable))
  | some tabs =>
    let done := perform parseUrl id now tabs operation
    ({ r with tabs := r.tabs.set resource.containerId done.1 }, done.2)

end InMemoryRuntime

/-- A call of the adapter, with what `randomUUID`, `randomBytes` and the clock give it. -/
inductive MemoryEvent
  | create (request : CreateRuntimeRequest) (nonce secret tabId now : String)
  | destroy (resource : RuntimeResource)
  | inspect (resource : RuntimeResource)
  | reconcile
  | tab (resource : RuntimeResource) (id now : String) (operation : TabOperation)
  deriving DecidableEq, Repr

/-- How the promise of a call settles. Only a tab call throws. -/
inductive MemoryReply
  | created (resource : RuntimeResource)
  | destroyed
  | inspected (inspection : RuntimeInspection)
  | reconciled (containersRemoved networksRemoved : Nat)
  | tab (result : Except Thrown TabReply)

/-- The state after a call, and its reply. -/
def memoryCall (parseUrl : String → Option Url) (r : InMemoryRuntime) :
    MemoryEvent → InMemoryRuntime × MemoryReply
  | .create request nonce secret tabId now =>
    let resource := InMemoryRuntime.created request nonce secret
    (r.create resource tabId now, .created resource)
  | .destroy resource => (r.destroy resource, .destroyed)
  | .inspect resource => (r, .inspected (r.inspect resource))
  | .reconcile => (.initial, .reconciled r.resources.size r.resources.size)
  | .tab resource id now operation =>
    let done := r.tabCall parseUrl resource id now operation
    (done.1, .tab done.2)

def memory (parseUrl : String → Option Url) : Machine InMemoryRuntime MemoryEvent :=
  ⟨.initial, fun r e => some (memoryCall parseUrl r e).1⟩

/-! ## What a client sees -/

/-- Between one and four tabs, with names of their own, one of them active. -/
structure Orderly (views : List TabView) : Prop where
  positive : 1 ≤ views.length
  bounded : views.length ≤ 4
  distinct : (views.map TabView.id).Nodup
  active : ∃! view, view ∈ views ∧ view.active = true

/-- Every resource that was made and not destroyed has its tabs in order. -/
def InMemoryRuntime.InOrder (r : InMemoryRuntime) : Prop :=
  ∀ id, r.resources.has id = true → ∃ tabs, r.tabs.get id = some tabs ∧ Orderly tabs.values

/-- A call that throws leaves the tabs of every resource as they were. -/
def Atomic (parseUrl : String → Option Url) (r : InMemoryRuntime) (e : MemoryEvent) : Prop :=
  ∀ thrown, (memoryCall parseUrl r e).2 = .tab (.error thrown) → (memoryCall parseUrl r e).1.tabs = r.tabs

def TabsKept (parseUrl : String → Option Url) (r : InMemoryRuntime) (e : MemoryEvent)
    (r' : InMemoryRuntime) : Prop := r'.InOrder ∧ Atomic parseUrl r e

/-- `createTab` is not called with a URL that it refuses, unless it finds four tabs. -/
def Acceptable (parseUrl : String → Option Url) (r : InMemoryRuntime) : MemoryEvent → Prop
  | .tab resource _ _ (.createTab url) => ∀ tabs, r.tabs.get resource.containerId = some tabs →
    tabs.size < 4 → ∃ href, InMemoryRuntime.validateTabUrl parseUrl (url.getD InMemoryRuntime.home) = .ok href
  | _ => True

structure TabsWf (tabs : JsMap String TabView) : Prop where
  positive : 1 ≤ tabs.size
  bounded : tabs.size ≤ 4
  named : ∀ id tab, tabs.get id = some tab → tab.id = id
  active : ∃ id, tabs.has id = true ∧
    ∀ other tab, tabs.get other = some tab → (tab.active = true ↔ other = id)

structure MemoryWf (r : InMemoryRuntime) : Prop where
  paired : ∀ id, r.resources.has id = r.tabs.has id
  tabs : ∀ id tabs, r.tabs.get id = some tabs → TabsWf tabs

section
variable {parseUrl : String → Option Url} {tabs tabs' : JsMap String TabView} {id now : String}
  {r : InMemoryRuntime}

theorem TabsWf.orderly (wf : TabsWf tabs) : Orderly tabs.values where
  positive := by
    rw [JsMap.values, List.length_map]
    exact wf.positive
  bounded := by
    rw [JsMap.values, List.length_map]
    exact wf.bounded
  distinct := by
    have names : tabs.values.map TabView.id = tabs.keys := by
      rw [JsMap.values, JsMap.keys, List.map_map]
      apply List.map_congr_left
      intro entry mem
      exact wf.named entry.1 entry.2 (JsMap.get_eq_some.mpr mem)
    rw [names]
    exact tabs.keys_nodup
  active := by
    obtain ⟨id, known, only⟩ := wf.active
    obtain ⟨tab, found⟩ := JsMap.has_iff.mp known
    refine ⟨tab, ⟨JsMap.mem_values.mpr ⟨id, found⟩, (only id tab found).mpr rfl⟩, ?_⟩
    rintro other ⟨mem, active⟩
    obtain ⟨key, there⟩ := JsMap.mem_values.mp mem
    have same : key = id := (only key other there).mp active
    rw [same, found] at there
    exact (Option.some.inj there).symm

theorem MemoryWf.inOrder (wf : MemoryWf r) : r.InOrder := by
  intro id known
  rw [wf.paired id] at known
  obtain ⟨tabs, found⟩ := JsMap.has_iff.mp known
  exact ⟨tabs, found, (wf.tabs id tabs found).orderly⟩

/-! ## One call on the tabs -/

theorem get_setActive (active : String → Bool) (other : String) :
    (InMemoryRuntime.setActive active tabs).get other =
      (tabs.get other).map fun tab => { tab with active := active other } :=
  JsMap.get_mapValues tabs _ other

theorem size_setActive (active : String → Bool) :
    (InMemoryRuntime.setActive active tabs).size = tabs.size := List.length_map ..

theorem firstTab_wf (id now : String) : TabsWf (InMemoryRuntime.firstTab id now) where
  positive := Nat.le_refl 1
  bounded := by
    have one : (InMemoryRuntime.firstTab id now).size = 1 := rfl
    omega
  named := by
    intro other tab found
    rw [InMemoryRuntime.firstTab, JsMap.get_set] at found
    split at found
    · cases found
      assumption
    · cases found
  active := by
    refine ⟨id, JsMap.has_iff.mpr ⟨_, JsMap.get_set_self⟩, ?_⟩
    intro other tab found
    rw [InMemoryRuntime.firstTab, JsMap.get_set] at found
    split at found
    · cases found
      rename_i same
      exact iff_of_true rfl same.symm
    · cases found

/-- A new tab takes over, also when the name it is given is taken. -/
theorem createTab_wf (wf : TabsWf tabs) (room : tabs.size < 4) (id url now : String) :
    TabsWf ((InMemoryRuntime.setActive (fun _ => false) tabs).set id ⟨id, url, now, true⟩) where
  positive := JsMap.size_pos JsMap.get_set_self
  bounded := by
    cases found : (InMemoryRuntime.setActive (fun _ => false) tabs).get id with
    | none =>
      rw [JsMap.size_set_new found, size_setActive]
      exact room
    | some tab =>
      rw [JsMap.size_set found, size_setActive]
      exact wf.bounded
  named := by
    intro other tab found
    rw [JsMap.get_set, get_setActive] at found
    split at found
    · cases found
      assumption
    · obtain ⟨before, there, rfl⟩ := Option.map_eq_some_iff.mp found
      exact wf.named other before there
  active := by
    refine ⟨id, JsMap.has_iff.mpr ⟨_, JsMap.get_set_self⟩, ?_⟩
    intro other tab found
    rw [JsMap.get_set, get_setActive] at found
    split at found
    · cases found
      rename_i same
      exact iff_of_true rfl same.symm
    · rename_i apart
      obtain ⟨before, -, rfl⟩ := Option.map_eq_some_iff.mp found
      exact iff_of_false Bool.false_ne_true (Ne.symm apart)

theorem activateTab_wf (wf : TabsWf tabs) {tabId : String} (known : tabs.has tabId = true) :
    TabsWf (InMemoryRuntime.setActive (fun id => id = tabId) tabs) where
  positive := by
    rw [size_setActive]
    exact wf.positive
  bounded := by
    rw [size_setActive]
    exact wf.bounded
  named := by
    intro other tab found
    rw [get_setActive] at found
    obtain ⟨before, there, rfl⟩ := Option.map_eq_some_iff.mp found
    exact wf.named other before there
  active := by
    obtain ⟨tab, found⟩ := JsMap.has_iff.mp known
    refine ⟨tabId, JsMap.has_iff.mpr ⟨_, by rw [get_setActive, found]; rfl⟩, ?_⟩
    intro other tab there
    rw [get_setActive] at there
    obtain ⟨before, -, rfl⟩ := Option.map_eq_some_iff.mp there
    exact decide_eq_true_iff

/-- Writing a tab under its own name, active as it was. -/
theorem navigateTab_wf (wf : TabsWf tabs) {tabId : String} {previous : TabView}
    (found : tabs.get tabId = some previous) (url : String) :
    TabsWf (tabs.set tabId { previous with url }) where
  positive := JsMap.size_pos JsMap.get_set_self
  bounded := by
    rw [JsMap.size_set found]
    exact wf.bounded
  named := by
    intro other tab there
    rw [JsMap.get_set] at there
    split at there
    · rename_i same
      cases there
      exact (wf.named tabId previous found).trans same
    · exact wf.named other tab there
  active := by
    obtain ⟨id, known, only⟩ := wf.active
    refine ⟨id, by rw [JsMap.has_set_known found]; exact known, ?_⟩
    intro other tab there
    rw [JsMap.get_set] at there
    split at there
    · rename_i same
      cases there
      rw [← same]
      exact only tabId previous found
    · exact only other tab there

theorem size_delete {tabId : String} {selected : TabView} (found : tabs.get tabId = some selected) :
    (tabs.delete tabId).size + 1 = tabs.size := by
  have counted : ∀ m : JsMap String TabView, m.weight (fun _ => 1) = m.size := by
    intro m
    simp [JsMap.weight, JsMap.values, JsMap.size, Function.comp_def]
  have taken := JsMap.weight_delete (fun _ => 1) found
  rwa [counted, counted] at taken

theorem named_delete (wf : TabsWf tabs) {tabId other : String} {tab : TabView}
    (there : (tabs.delete tabId).get other = some tab) : tab.id = other := by
  rw [JsMap.get_delete] at there
  split at there
  · cases there
  · exact wf.named other tab there

/-- A tab that is not active is taken out. -/
theorem deleteTab_wf (wf : TabsWf tabs) {tabId : String} {selected : TabView}
    (found : tabs.get tabId = some selected) (more : tabs.size ≠ 1) (idle : selected.active = false) :
    TabsWf (tabs.delete tabId) where
  positive := by
    have size := size_delete found
    have positive := wf.positive
    omega
  bounded := Nat.le_trans (JsMap.size_delete_le tabs tabId) wf.bounded
  named _ _ := named_delete wf
  active := by
    obtain ⟨id, known, only⟩ := wf.active
    have apart : tabId ≠ id := by
      intro same
      have active := (only tabId selected found).mpr same
      rw [idle] at active
      cases active
    refine ⟨id, by simp [JsMap.has_delete, apart, known], ?_⟩
    intro other tab there
    rw [JsMap.get_delete] at there
    split at there
    · cases there
    · exact only other tab there

/-- The active tab is taken out, and one that is left takes over. -/
theorem deleteActive_wf (wf : TabsWf tabs) {tabId fallbackId : String} {selected fallback : TabView}
    (found : tabs.get tabId = some selected) (active : selected.active = true)
    (left : (tabs.delete tabId).get fallbackId = some fallback) :
    TabsWf ((tabs.delete tabId).set fallbackId { fallback with active := true }) where
  positive := JsMap.size_pos JsMap.get_set_self
  bounded := by
    rw [JsMap.size_set left]
    exact Nat.le_trans (JsMap.size_delete_le tabs tabId) wf.bounded
  named := by
    intro other tab there
    rw [JsMap.get_set] at there
    split at there
    · rename_i same
      cases there
      exact (named_delete wf left).trans same
    · exact named_delete wf there
  active := by
    obtain ⟨id, known, only⟩ := wf.active
    have taken : tabId = id := (only tabId selected found).mp active
    refine ⟨fallbackId, JsMap.has_iff.mpr ⟨_, JsMap.get_set_self⟩, ?_⟩
    intro other tab there
    rw [JsMap.get_set] at there
    split at there
    · rename_i same
      cases there
      exact iff_of_true rfl same.symm
    · rename_i apart
      rw [JsMap.get_delete] at there
      split at there
      · cases there
      · rename_i others
        have idle : tab.active ≠ true := by
          intro holds
          exact others (taken.trans ((only other tab there).mp holds).symm)
        exact iff_of_false idle (Ne.symm apart)

/-! ## A call of the adapter -/

/-- A tab call that meets the condition keeps the tabs in order, and is refused with
the tabs as they were. -/
theorem perform_wf (wf : TabsWf tabs) (id now : String) (operation : TabOperation)
    (accepted : ∀ url, operation = .createTab url → tabs.size < 4 →
      ∃ href, InMemoryRuntime.validateTabUrl parseUrl (url.getD InMemoryRuntime.home) = .ok href) :
    TabsWf (InMemoryRuntime.perform parseUrl id now tabs operation).1 ∧
      ∀ thrown, (InMemoryRuntime.perform parseUrl id now tabs operation).2 = .error thrown →
        (InMemoryRuntime.perform parseUrl id now tabs operation).1 = tabs := by
  cases operation with
  | listTabs => exact ⟨wf, fun _ _ => rfl⟩
  | createTab url =>
    simp only [InMemoryRuntime.perform, InMemoryRuntime.createTab]
    split
    · exact ⟨wf, fun _ _ => rfl⟩
    · rename_i room
      obtain ⟨href, valid⟩ := accepted url rfl (by omega)
      rw [valid]
      exact ⟨createTab_wf wf (by omega) id href now, fun _ refused => by cases refused⟩
  | activateTab tabId =>
    simp only [InMemoryRuntime.perform, InMemoryRuntime.activateTab]
    split
    · exact ⟨wf, fun _ _ => rfl⟩
    · rename_i selected found
      exact ⟨activateTab_wf wf (JsMap.has_iff.mpr ⟨selected, found⟩), fun _ refused => by cases refused⟩
  | navigateTab tabId url =>
    simp only [InMemoryRuntime.perform, InMemoryRuntime.navigateTab]
    split
    · exact ⟨wf, fun _ _ => rfl⟩
    · rename_i previous found
      split
      · exact ⟨wf, fun _ _ => rfl⟩
      · rename_i href valid
        exact ⟨navigateTab_wf wf found href, fun _ refused => by cases refused⟩
  | deleteTab tabId =>
    simp only [InMemoryRuntime.perform, InMemoryRuntime.deleteTab]
    split
    · exact ⟨wf, fun _ _ => rfl⟩
    · rename_i selected found
      split
      · exact ⟨wf, fun _ _ => rfl⟩
      · rename_i more
        cases active : selected.active with
        | false =>
          simp only [Bool.false_eq_true, if_false]
          exact ⟨deleteTab_wf wf found more active, fun _ refused => by cases refused⟩
        | true =>
          simp only [if_true]
          split
          · rename_i none
            have size := size_delete found
            have positive := wf.positive
            rw [JsMap.size, none] at size
            simp only [List.length_nil] at size
            omega
          · rename_i fallbackId fallback others entries
            have left : (tabs.delete tabId).get fallbackId = some fallback :=
              JsMap.get_eq_some.mpr (entries ▸ List.mem_cons_self)
            exact ⟨deleteActive_wf wf found active left, fun _ refused => by cases refused⟩

/-- The tabs of one resource are written, or made with it. -/
theorem memoryWf_set {resource : RuntimeResource} {resources : JsMap String RuntimeResource}
    (wf : MemoryWf r) (ordered : TabsWf tabs)
    (paired : ∀ id, resources.has id = (decide (resource.containerId = id) || r.tabs.has id)) :
    MemoryWf ⟨resources, r.tabs.set resource.containerId tabs⟩ where
  paired := by
    intro id
    rw [JsMap.has_set]
    exact paired id
  tabs := by
    intro id tabs' found
    rw [JsMap.get_set] at found
    split at found
    · cases found
      exact ordered
    · exact wf.tabs id tabs' found

theorem memoryWf_initial : MemoryWf .initial where
  paired _ := rfl
  tabs := by
    intro id tabs found
    cases found

theorem memoryWf_destroy (wf : MemoryWf r) (resource : RuntimeResource) :
    MemoryWf (r.destroy resource) where
  paired := by
    intro id
    rw [InMemoryRuntime.destroy, JsMap.has_delete, JsMap.has_delete, wf.paired id]
  tabs := by
    intro id tabs found
    rw [InMemoryRuntime.destroy, JsMap.get_delete] at found
    split at found
    · cases found
    · exact wf.tabs id tabs found

/-- Each call that meets the condition does what is said of it. -/
theorem memoryCall_kept {e : MemoryEvent} (wf : MemoryWf r) (accepted : Acceptable parseUrl r e) :
    MemoryWf (memoryCall parseUrl r e).1 ∧ Atomic parseUrl r e := by
  cases e with
  | create request nonce secret tabId now =>
    refine ⟨memoryWf_set wf (firstTab_wf tabId now) ?_, fun _ refused => by cases refused⟩
    intro id
    rw [JsMap.has_set, wf.paired id]
  | destroy resource => exact ⟨memoryWf_destroy wf resource, fun _ refused => by cases refused⟩
  | inspect resource => exact ⟨wf, fun _ refused => by cases refused⟩
  | reconcile => exact ⟨memoryWf_initial, fun _ refused => by cases refused⟩
  | tab resource id now operation =>
    cases found : r.tabs.get resource.containerId with
    | none =>
      have missing : r.tabCall parseUrl resource id now operation =
          (r, .error (.orchestrator InMemoryRuntime.tabRuntimeUnavailable)) := by
        rw [InMemoryRuntime.tabCall, found]
      simp only [Atomic, memoryCall, missing]
      exact ⟨wf, fun _ _ => trivial⟩
    | some tabs =>
      have there : r.tabCall parseUrl resource id now operation =
          (⟨r.resources, r.tabs.set resource.containerId
            (InMemoryRuntime.perform parseUrl id now tabs operation).1⟩,
            (InMemoryRuntime.perform parseUrl id now tabs operation).2) := by
        rw [InMemoryRuntime.tabCall, found]
      have valid : ∀ url, operation = .createTab url → tabs.size < 4 → ∃ href,
          InMemoryRuntime.validateTabUrl parseUrl (url.getD InMemoryRuntime.home) = .ok href := by
        rintro url rfl room
        exact accepted tabs found room
      obtain ⟨ordered, unchanged⟩ := perform_wf (wf.tabs _ tabs found) id now operation valid
      simp only [Atomic, memoryCall, there]
      constructor
      · refine memoryWf_set wf ordered ?_
        intro other
        rw [wf.paired other]
        by_cases same : resource.containerId = other
        · simp [← same, JsMap.has, found]
        · simp [same]
      · intro thrown refused
        injection refused with refused
        rw [unchanged thrown refused]
        exact JsMap.set_get_self found

/-- A refused `createTab` that has touched the tabs leaves none of them active. -/
theorem memoryCall_broken {e : MemoryEvent} (wf : MemoryWf r) (refused : ¬ Acceptable parseUrl r e) :
    ¬ (memoryCall parseUrl r e).1.InOrder := by
  cases e with
  | tab resource id now operation =>
    cases operation with
    | createTab url =>
      simp only [Acceptable, not_forall, not_exists] at refused
      obtain ⟨tabs, found, room, invalid⟩ := refused
      cases result : InMemoryRuntime.validateTabUrl parseUrl (url.getD InMemoryRuntime.home) with
      | ok href => exact absurd result (invalid href)
      | error thrown =>
        intro ordered
        have touched : (memoryCall parseUrl r (.tab resource id now (.createTab url))).1 =
            ⟨r.resources, r.tabs.set resource.containerId
              (InMemoryRuntime.setActive (fun _ => false) tabs)⟩ := by
          simp only [memoryCall, InMemoryRuntime.tabCall, found, InMemoryRuntime.perform,
            InMemoryRuntime.createTab, if_neg (show ¬ tabs.size ≥ 4 by omega), result]
        rw [touched] at ordered
        have known : r.resources.has resource.containerId = true := by
          rw [wf.paired]
          exact JsMap.has_iff.mpr ⟨tabs, found⟩
        obtain ⟨tabs', there, views⟩ := ordered resource.containerId known
        rw [JsMap.get_set_self] at there
        cases there
        obtain ⟨view, ⟨mem, active⟩, -⟩ := views.active
        obtain ⟨other, there⟩ := JsMap.mem_values.mp mem
        rw [get_setActive] at there
        obtain ⟨before, -, rfl⟩ := Option.map_eq_some_iff.mp there
        cases active
    | listTabs | activateTab | navigateTab | deleteTab => exact (refused trivial).elim
  | create | destroy | inspect | reconcile => exact (refused trivial).elim

end

/-- **The tabs stay in order, and a call that throws changes none,** in exactly the runs
in which no `createTab` with a URL that it refuses finds fewer than four tabs. -/
theorem memory_tabs (parseUrl : String → Option Url) (events : List MemoryEvent) :
    (memory parseUrl).Each (TabsKept parseUrl) .initial events ↔
      (memory parseUrl).Admits (Acceptable parseUrl) .initial events := by
  refine Machine.each_iff_admits (I := MemoryWf) ?_ ?_ memoryWf_initial
  · intro r e r' wf next accepted
    cases next
    obtain ⟨wf', atomic⟩ := memoryCall_kept wf accepted
    exact ⟨⟨wf'.inOrder, atomic⟩, wf'⟩
  · intro r e wf refused
    exact ⟨_, rfl, fun kept => memoryCall_broken wf refused kept.1⟩

/-- `new URL` on a `javascript:` URL. -/
def scriptUrl : String → Option Url := fun value =>
  if value = "javascript:alert(1)" then some ⟨value, "javascript:", "", "", "", "alert(1)", "", ""⟩
  else none

def sampleRequest : CreateRuntimeRequest := ⟨"s1", "alpha", ⟨512, 512, 256⟩⟩

def scriptTab : List MemoryEvent := [
  .create sampleRequest "n1" "secret" "tab1" "2026-07-01T00:00:00.000Z",
  .tab (InMemoryRuntime.created sampleRequest "n1" "secret") "tab2" "2026-07-01T00:00:01.000Z"
    (.createTab (some "javascript:alert(1)"))]

/-- The call is refused, and the tab that was active is so no more. -/
theorem refused_url_deactivates :
    ∃ r, (memory scriptUrl).runFrom .initial (scriptTab.take 1) = some r ∧
      (memoryCall scriptUrl r scriptTab[1]).2 =
        .tab (.error (.orchestrator InMemoryRuntime.invalidTabUrl)) ∧
      r.tabs.get "mock-n1" =
        some (InMemoryRuntime.firstTab "tab1" "2026-07-01T00:00:00.000Z") ∧
      (memoryCall scriptUrl r scriptTab[1]).1.tabs.get "mock-n1" =
        some (JsMap.empty.set "tab1" ⟨"tab1", "fireball://home", "2026-07-01T00:00:00.000Z", false⟩) ∧
      ¬ (memory scriptUrl).Each (TabsKept scriptUrl) .initial scriptTab := by
  refine ⟨_, rfl, rfl, rfl, rfl, ?_⟩
  intro kept
  obtain ⟨-, later⟩ := kept _ rfl
  obtain ⟨⟨ordered, -⟩, -⟩ := later _ rfl
  obtain ⟨tabs, found, views⟩ := ordered "mock-n1" (by decide)
  cases found
  obtain ⟨view, ⟨mem, active⟩, -⟩ := views.active
  cases List.mem_singleton.mp mem
  cases active

end Fireball.Session
