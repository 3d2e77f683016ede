import Fireball.Tabs.Controller

/-!
# One call after another

A call of the controller as one step, with what the environment supplies to it,
and what every call keeps.

* `begin_ready`: what a body knows when it calls the driver;
* `ControllerWf`, `execute_wf`: the tabs of a controller, from call to call;
* `listed_of_wf`: what `list()` shows.
-/

namespace Fireball.Tabs

open Foundation

/-- What the environment supplies to one call: the result of `this.uuid()`, how the
driver's promise is settled, and the time. -/
structure Choice where
  uuid : String
  outcome : Except TabControlError Unit
  createdAt : String

abbrev Result := Except TabControlError (Option TabView)

/-- A call, from its begin to its end with no other in between. -/
def TabController.execute (parseUrl : String → Option Url) (x : Choice) (c : TabController)
    (op : TabOperation) : TabController × Result :=
  match c.begin parseUrl x.uuid op with
  | .settled result => (c, result)
  | .awaits _ rest => match x.outcome with
    | .error e => (c, .error e)
    | .ok _ => ((c.resume x.createdAt rest).1, .ok (c.resume x.createdAt rest).2)

/-- The calls one after another. Call `k` meets choice `k`. -/
def sequential (parseUrl : String → Option Url) (env : Nat → Choice) (c : TabController)
    (ops : List TabOperation) : TabController × List Result :=
  ops.zipIdx.foldl
    (fun done call =>
      let next := done.1.execute parseUrl (env call.2) call.1
      (next.1, done.2 ++ [next.2]))
    (c, [])

/-- The ids that the controller has used before call `n`, oldest first. -/
def usedIds (env : Nat → Choice) (initialId : String) (n : Nat) : List String :=
  initialId :: (List.range n).map fun k => (env k).uuid

/-- `uuid()` never repeats an id. -/
def UuidsFresh (env : Nat → Choice) (initialId : String) : Prop :=
  ∀ n, (env n).uuid ∉ usedIds env initialId n

/-- What `list()` shows: the ids are distinct and in the order of their creation,
and exactly one of them is active. -/
structure Listed (maximumTabs : Nat) (ids : List String) (c : TabController) : Prop where
  positive : 1 ≤ c.list.length
  bounded : c.list.length ≤ maximumTabs
  present : c.activeTabId ∈ c.list.map (·.id)
  distinct : (c.list.map (·.id)).Nodup
  ordered : (c.list.map (·.id)).Sublist ids
  active : (c.list.filter (·.active)).map (·.id) = [c.activeTabId]

/-- Every tab is under its id, and the active id is one of them. -/
structure ControllerWf (maximumTabs : Nat) (ids : List String) (c : TabController) : Prop where
  maximum : c.maximumTabs = maximumTabs
  bounded : c.tabs.size ≤ c.maximumTabs
  active : ∃ tab, c.tabs.get c.activeTabId = some tab
  named : ∀ id tab, c.tabs.get id = some tab → tab.id = id
  ordered : c.tabs.keys.Sublist ids

/-- What a body knows when it calls the driver. -/
inductive Ready (c : TabController) (uuid : String) : DriverCall → Awaiting → Prop
  | create {url} : c.tabs.size < c.maximumTabs →
      Ready c uuid (.create uuid url) (.create uuid url)
  | activate {id tab} : c.tabs.get id = some tab → id ≠ c.activeTabId →
      Ready c uuid (.activate id) (.activate id tab)
  | navigate {id previous url} : c.tabs.get id = some previous →
      Ready c uuid (.navigate id url) (.navigate id previous url)
  | remove {id fallback} : (∃ tab, c.tabs.get id = some tab) →
      (∃ tab, c.tabs.get fallback = some tab) → fallback ≠ id →
      (id ≠ c.activeTabId → fallback = c.activeTabId) →
      Ready c uuid (.remove id fallback) (.remove id fallback)

section
variable {parseUrl : String → Option Url} {maximumTabs : Nat} {ids : List String}
  {c : TabController} {uuid : String}

theorem sequential_snoc (parseUrl : String → Option Url) (env : Nat → Choice) (c : TabController)
    (ops : List TabOperation) (op : TabOperation) :
    sequential parseUrl env c (ops ++ [op]) =
      (((sequential parseUrl env c ops).1.execute parseUrl (env ops.length) op).1,
        (sequential parseUrl env c ops).2 ++
          [((sequential parseUrl env c ops).1.execute parseUrl (env ops.length) op).2]) := by
  simp [sequential, List.zipIdx_append]

theorem usedIds_succ (env : Nat → Choice) (initialId : String) (n : Nat) :
    usedIds env initialId (n + 1) = usedIds env initialId n ++ [(env n).uuid] := by
  simp [usedIds, List.range_succ]

/-- With a second tab there is one to fall back on. -/
theorem fallback_found {id : String} (several : c.tabs.size ≠ 1)
    (known : ∃ tab, c.tabs.get id = some tab) :
    ∃ other, c.tabs.keys.find? (· ≠ id) = some other := by
  rw [← Option.isSome_iff_exists, List.find?_isSome]
  by_contra none
  have all : ∀ other ∈ c.tabs.keys, other = id := by simpa using none
  have one : c.tabs.keys.length ≤ 1 := by
    have nodup := c.tabs.keys_nodup
    rw [List.eq_replicate_of_mem all] at nodup
    exact List.nodup_replicate.mp nodup
  obtain ⟨tab, there⟩ := known
  have some := JsMap.size_pos there
  rw [JsMap.length_keys] at one
  omega

theorem begin_ready {op : TabOperation} {call : DriverCall} {rest : Awaiting}
    (active : ∃ tab, c.tabs.get c.activeTabId = some tab) (h : c.begin parseUrl uuid op = .awaits call rest) :
    Ready c uuid call rest := by
  cases op with
  | create url =>
    simp only [TabController.begin] at h
    split at h
    · cases h
    · rename_i room
      split at h
      · cases h
      · cases h
        exact .create (Nat.lt_of_not_le room)
  | activate id =>
    simp only [TabController.begin] at h
    split at h
    · cases h
    · rename_i tab known
      split at h
      · rename_i other
        cases h
        exact .activate known other
      · cases h
  | navigate id url =>
    simp only [TabController.begin] at h
    split at h
    · cases h
    · rename_i previous known
      split at h
      · cases h
      · cases h
        exact .navigate known
  | remove id =>
    simp only [TabController.begin] at h
    split at h
    · cases h
    · rename_i tab known
      split at h
      · cases h
      · rename_i several
        cases h
        obtain ⟨other, found⟩ := fallback_found several ⟨tab, known⟩
        have others : other ≠ id := by simpa using List.find?_some found
        have there : ∃ tab, c.tabs.get other = some tab :=
          JsMap.mem_keys.mp (List.mem_of_find?_eq_some found)
        refine .remove ⟨tab, known⟩ ?_ ?_ fun background => if_neg background
        · split
          · simpa only [found, Option.getD_some] using there
          · exact active
        · split
          · simpa only [found, Option.getD_some] using others
          · rename_i background
            exact Ne.symm background

/-- The rest of a body leaves a tab active that there is. -/
theorem resume_active {call : DriverCall} {rest : Awaiting} (createdAt : String)
    (active : ∃ tab, c.tabs.get c.activeTabId = some tab) (ready : Ready c uuid call rest) :
    ∃ tab, (c.resume createdAt rest).1.tabs.get (c.resume createdAt rest).1.activeTabId = some tab := by
  cases ready with
  | create => exact ⟨_, JsMap.get_set_self⟩
  | activate known => exact ⟨_, known⟩
  | navigate known =>
    simp only [TabController.resume, JsMap.get_set]
    split
    · exact ⟨_, rfl⟩
    · exact active
  | remove known there other =>
    simp only [TabController.resume]
    split
    · rw [JsMap.get_delete_ne (Ne.symm other)]
      exact there
    · rename_i background
      rw [JsMap.get_delete_ne background]
      exact active

theorem resume_wf {call : DriverCall} {rest : Awaiting} (createdAt : String)
    (wf : ControllerWf maximumTabs ids c) (fresh : uuid ∉ ids) (ready : Ready c uuid call rest) :
    ControllerWf maximumTabs (ids ++ [uuid]) (c.resume createdAt rest).1 := by
  have later : ids.Sublist (ids ++ [uuid]) := List.sublist_append_left ..
  have active := resume_active createdAt wf.active ready
  cases ready with
  | create room =>
    have new : c.tabs.get uuid = none :=
      JsMap.get_eq_none.mpr fun known => fresh (wf.ordered.subset known)
    refine ⟨wf.maximum, ?_, active, ?_, ?_⟩
    · exact (JsMap.size_set_new new).trans_le room
    · intro id tab found
      simp only [TabController.resume, JsMap.get_set] at found
      split at found
      · rename_i same
        cases found
        exact same
      · exact wf.named id tab found
    · simp only [TabController.resume, JsMap.keys_set_new new]
      exact wf.ordered.append (List.Sublist.refl _)
  | activate known => exact ⟨wf.maximum, wf.bounded, active, wf.named, wf.ordered.trans later⟩
  | @navigate id previous url known =>
    refine ⟨wf.maximum, ?_, active, ?_, ?_⟩
    · exact (JsMap.size_set known).trans_le wf.bounded
    · intro other tab found
      simp only [TabController.resume, JsMap.get_set] at found
      split at found
      · rename_i same
        cases found
        exact (wf.named id previous known).trans same
      · exact wf.named other tab found
    · simp only [TabController.resume, JsMap.keys_set known]
      exact wf.ordered.trans later
  | @remove id fallback known there other behind =>
    refine ⟨wf.maximum, ?_, active, ?_, ?_⟩
    · exact (JsMap.size_delete_le ..).trans wf.bounded
    · intro other tab found
      simp only [TabController.resume, JsMap.get_delete] at found
      split at found
      · cases found
      · exact wf.named other tab found
    · simp only [TabController.resume, JsMap.keys_delete]
      exact List.filter_sublist.trans (wf.ordered.trans later)

/-- **One call** keeps the tabs in order, whatever becomes of it. -/
theorem execute_wf {x : Choice} (op : TabOperation) (wf : ControllerWf maximumTabs ids c) (fresh : x.uuid ∉ ids) :
    ControllerWf maximumTabs (ids ++ [x.uuid]) (c.execute parseUrl x op).1 := by
  have unchanged : ControllerWf maximumTabs (ids ++ [x.uuid]) c :=
    ⟨wf.maximum, wf.bounded, wf.active, wf.named,
      wf.ordered.trans (List.sublist_append_left ..)⟩
  unfold TabController.execute
  split
  · exact unchanged
  · rename_i call rest begun
    split
    · exact unchanged
    · exact resume_wf x.createdAt wf fresh (begin_ready wf.active begun)

theorem sequential_wf {env : Nat → Choice} {initialId : String} (fresh : UuidsFresh env initialId)
    (wf : ControllerWf maximumTabs [initialId] c) (ops : List TabOperation) :
    ControllerWf maximumTabs (usedIds env initialId ops.length)
      (sequential parseUrl env c ops).1 := by
  induction ops using List.reverseRecOn with
  | nil => exact wf
  | append_singleton ops op ih =>
    rw [sequential_snoc, List.length_append, List.length_singleton, usedIds_succ]
    exact execute_wf op ih (fresh ops.length)

theorem wf_new {id url createdAt : String}
    (h : TabController.new maximumTabs id url createdAt = .ok c) :
    ControllerWf maximumTabs [id] c := by
  unfold TabController.new at h
  split at h
  · cases h
  · rename_i range
    cases h
    refine ⟨rfl, ?_, ⟨_, JsMap.get_set_self⟩, ?_, ?_⟩
    · show 1 ≤ maximumTabs
      omega
    · intro other tab found
      rw [JsMap.get_set] at found
      split at found
      · rename_i same
        cases found
        exact same
      · cases found
    · rw [JsMap.keys_set_new JsMap.get_empty]
      exact List.Sublist.refl _

/-! ## What is listed -/

theorem list_ids (wf : ControllerWf maximumTabs ids c) : c.list.map (·.id) = c.tabs.keys := by
  unfold TabController.list JsMap.keys JsMap.values
  rw [List.map_map, List.map_map]
  refine List.map_congr_left fun entry mem => ?_
  exact wf.named entry.1 entry.2 (JsMap.get_eq_some.mpr mem)

theorem list_length (c : TabController) : c.list.length = c.tabs.size := by
  rw [TabController.list, JsMap.values, List.length_map, List.length_map]
  rfl

theorem list_active (c : TabController) :
    (c.list.filter (·.active)).map (·.id) = (c.list.map (·.id)).filter (· = c.activeTabId) := by
  rw [List.filter_map]
  refine congrArg _ (List.filter_congr fun view mem => ?_)
  obtain ⟨tab, -, rfl⟩ := List.mem_map.mp mem
  simp

theorem listed_of_wf (wf : ControllerWf maximumTabs ids c) : Listed maximumTabs ids c where
  positive := by
    obtain ⟨tab, active⟩ := wf.active
    rw [list_length]
    exact JsMap.size_pos active
  bounded := by
    rw [list_length, ← wf.maximum]
    exact wf.bounded
  present := by
    rw [list_ids wf]
    exact JsMap.mem_keys.mpr wf.active
  distinct := by
    rw [list_ids wf]
    exact c.tabs.keys_nodup
  ordered := by
    rw [list_ids wf]
    exact wf.ordered
  active := by
    rw [list_active, list_ids wf, List.filter_eq,
      List.count_eq_one_of_mem c.tabs.keys_nodup (JsMap.mem_keys.mpr wf.active)]
    rfl

end

end Fireball.Tabs
