import Fireball.Foundation.Machine
import Fireball.Signaling.Registry

/-!
# Registrations over whole runs

`SignalingConnectionRegistry` under any calls of `register`, of `revoke` and of the handles
that `register` has returned, the closers that `revoke` runs included: a closer can call
handles before it returns or throws. `live` is the law that the registry is held to: the
registrations that neither their own handle nor a revocation has ended.

* `Tracks`: the sets of the registry hold what is live;
* `tracks_register`, `tracks_unregister`, `tracks_revoke`: one call;
* `registrations_lawful`: whole runs in which no handle meets a set that has replaced its own.
-/

namespace Fireball.Signaling

open Foundation

variable {κ : Type} [DecidableEq κ]

/-! ## Calls -/

/-- The loop of `revoke` over a `Set`: a closer that is no longer in the set when its turn
comes is passed over. `within` are the handles that a closer calls. -/
def Registry.closeAll (within : κ → List (Handle κ)) (ref : Nat) :
    Registry κ → List κ → Registry κ × List κ
  | r, [] => (r, [])
  | r, close :: rest =>
    if (r.members ref).has close then
      let (r', called) := closeAll within ref ((within close).foldl unregister r) rest
      (r', close :: called)
    else closeAll within ref r rest

/-- `revoke`, with the closers that it calls. -/
def Registry.revoke (within : κ → List (Handle κ)) (r : Registry κ) (sessionId : String) :
    Registry κ × List κ :=
  match r.connections.get sessionId with
  | none => (r, [])
  | some ref => (r.detach sessionId).closeAll within ref (r.members ref).keys

inductive RegistryCall (κ : Type)
  | register (sessionId : String) (close : κ)
  | unregister (handle : Handle κ)
  | revoke (sessionId : String) (within : κ → List (Handle κ))

/-! ## The law -/

abbrev Live (κ : Type) := List (String × κ)

/-- The closers of a session, in the order of their registration. -/
def closersOf (sessionId : String) (live : Live κ) : List κ :=
  (live.filter (·.1 = sessionId)).map Prod.snd

/-- The own handle ends a registration. -/
def forget (live : Live κ) (handle : Handle κ) : Live κ :=
  live.filter (· ≠ (handle.sessionId, handle.close))

def forgetSession (sessionId : String) (live : Live κ) : Live κ := live.filter (·.1 ≠ sessionId)

/-- The registrations after a call, and the closers that a revocation is to call. -/
def law (live : Live κ) : RegistryCall κ → Live κ × List κ
  | .register sessionId close => (live ++ [(sessionId, close)], [])
  | .unregister handle => (forget live handle, [])
  | .revoke sessionId within =>
    (((closersOf sessionId live).flatMap within).foldl forget (forgetSession sessionId live),
      closersOf sessionId live)

/-! ## Runs -/

structure Registrations (κ : Type) where
  registry : Registry κ
  /-- What `register` has returned so far. -/
  handles : List (Handle κ)
  live : Live κ
  /-- The closers that the last call has called, and those that it was to call. -/
  called : List κ
  due : List κ

/-- Closers are pairwise distinct, and only handles that were returned are called. -/
def registrationStep (s : Registrations κ) (call : RegistryCall κ) : Option (Registrations κ) :=
  let (live, due) := law s.live call
  match call with
  | .register sessionId close =>
    if close ∈ s.handles.map Handle.close then none
    else
      let (registry, handle) := s.registry.register sessionId close
      some { registry, handles := s.handles ++ [handle], live, called := [], due }
  | .unregister handle =>
    if handle ∈ s.handles then
      some { s with registry := s.registry.unregister handle, live, called := [], due }
    else none
  | .revoke sessionId within =>
    if ∀ close ∈ s.handles.map Handle.close, ∀ handle ∈ within close, handle ∈ s.handles then
      let (registry, called) := s.registry.revoke within sessionId
      some { s with registry, live, called, due }
    else none

variable (κ) in
def registrations : Machine (Registrations κ) (RegistryCall κ) :=
  ⟨⟨.empty, [], [], [], []⟩, registrationStep⟩

/-! ## The condition -/

namespace Registry

/-- The map holds another set for the session than the handle's own, which this call empties. -/
def Stale (r : Registry κ) (handle : Handle κ) : Prop :=
  (∃ ref, r.connections.get handle.sessionId = some ref ∧ ref ≠ handle.set) ∧
    ((r.members handle.set).delete handle.close).size = 0

def NoneStale : Registry κ → List (Handle κ) → Prop
  | _, [] => True
  | r, handle :: rest => ¬ r.Stale handle ∧ NoneStale (r.unregister handle) rest

/-- In the loop of `revoke`, no closer calls a stale handle, or the handle of a closer of the
same set whose turn is still to come. -/
def Orderly (within : κ → List (Handle κ)) (ref : Nat) : Registry κ → List κ → Prop
  | _, [] => True
  | r, close :: rest => NoneStale r (within close) ∧
      (∀ handle ∈ within close, handle.set = ref → handle.close ∉ rest) ∧
      Orderly within ref ((within close).foldl unregister r) rest

end Registry

def Proper (s : Registrations κ) : RegistryCall κ → Prop
  | .register _ _ => True
  | .unregister handle => ¬ s.registry.Stale handle
  | .revoke sessionId within => ∀ ref, s.registry.connections.get sessionId = some ref →
      Registry.Orderly within ref (s.registry.detach sessionId) (s.registry.members ref).keys

/-! ## What the sets hold -/

namespace Registry

/-- The closers that `count` counts, in the order of the set. -/
def closers (r : Registry κ) (sessionId : String) : List κ :=
  match r.connections.get sessionId with
  | none => []
  | some ref => (r.members ref).keys

omit [DecidableEq κ] in
theorem count_eq (r : Registry κ) (sessionId : String) :
    r.count sessionId = (r.closers sessionId).length := by
  unfold count closers
  cases r.connections.get sessionId with
  | none => rfl
  | some ref => exact (JsMap.length_keys _).symm

end Registry

/-- The sets of the registry hold what is live. -/
structure Tracks (r : Registry κ) (handles : List (Handle κ)) (live : Live κ) : Prop where
  wf : r.Wf
  held : ∀ sessionId, r.closers sessionId = closersOf sessionId live
  filled : ∀ sessionId ref, r.connections.get sessionId = some ref → (r.members ref).size ≠ 0
  allocated : ∀ handle ∈ handles, handle.set < r.nextSet
  distinct : (handles.map Handle.close).Nodup
  issued : ∀ ref close, (r.members ref).has close = true → ∃ h ∈ handles, h.set = ref ∧ h.close = close
  mapped : ∀ sessionId ref, r.connections.get sessionId = some ref →
    ∀ h ∈ handles, h.set = ref → h.sessionId = sessionId

section
variable {r : Registry κ} {handles : List (Handle κ)} {live : Live κ}

omit [DecidableEq κ] in
theorem mem_closersOf {sessionId : String} {close : κ} :
    close ∈ closersOf sessionId live ↔ (sessionId, close) ∈ live := by
  simp [closersOf]

theorem closersOf_forget (sessionId : String) (handle : Handle κ) :
    closersOf sessionId (forget live handle) =
      if handle.sessionId = sessionId then (closersOf sessionId live).filter (· ≠ handle.close)
      else closersOf sessionId live := by
  unfold closersOf forget
  rw [List.filter_filter]
  by_cases same : handle.sessionId = sessionId
  · rw [if_pos same, List.filter_map, List.filter_filter]
    refine congrArg _ (List.filter_congr fun entry _ => ?_)
    by_cases here : entry.1 = sessionId <;> simp [here, same, Prod.ext_iff]
  · rw [if_neg same]
    refine congrArg _ (List.filter_congr fun entry _ => ?_)
    by_cases here : entry.1 = sessionId
    · simp [here, Prod.ext_iff, Ne.symm same]
    · simp [here]

omit [DecidableEq κ] in
theorem closersOf_forgetSession (sessionId other : String) :
    closersOf sessionId (forgetSession other live) =
      if other = sessionId then [] else closersOf sessionId live := by
  unfold closersOf forgetSession
  rw [List.filter_filter]
  by_cases same : other = sessionId
  · rw [if_pos same, List.map_eq_nil_iff, List.filter_eq_nil_iff]
    simp [same]
  · rw [if_neg same]
    refine congrArg _ (List.filter_congr fun entry _ => ?_)
    by_cases here : entry.1 = sessionId
    · simp [here, Ne.symm same]
    · simp [here]

namespace Registry

theorem mem_closers {sessionId : String} {close : κ} :
    close ∈ r.closers sessionId ↔ r.Registered sessionId close := by
  unfold closers Registered
  cases found : r.connections.get sessionId with
  | none => simp
  | some ref => simp [JsMap.mem_keys_iff_has]

end Registry

/-- The handle of a live registration works on the set in the map. -/
theorem current_of_live {handle : Handle κ} (h : Tracks r handles live) (mem : handle ∈ handles)
    (alive : (handle.sessionId, handle.close) ∈ live) :
    r.connections.get handle.sessionId = some handle.set := by
  rw [← mem_closersOf, ← h.held, Registry.mem_closers] at alive
  obtain ⟨ref, found, member⟩ := alive
  obtain ⟨other, mem', set, close⟩ := h.issued ref handle.close member
  have same : other = handle := List.inj_on_of_nodup_map h.distinct mem' mem close
  rw [found, ← set, same]

namespace Registry

theorem unregister_members_eq (r : Registry κ) (handle : Handle κ) (ref : Nat) :
    (r.unregister handle).members ref =
      if handle.set = ref then (r.members handle.set).delete handle.close else r.members ref :=
  members_set r _ handle.set ref r.nextSet _

theorem unregister_get (r : Registry κ) (handle : Handle κ) (sessionId : String) :
    (r.unregister handle).connections.get sessionId =
      if handle.sessionId = sessionId ∧ ((r.members handle.set).delete handle.close).size = 0 then none
      else r.connections.get sessionId := by
  by_cases empty : ((r.members handle.set).delete handle.close).size = 0
  · simp [unregister, empty, JsMap.get_delete]
  · simp [unregister, empty]

/-- The closers of each session after a handle on the set in the map is called. -/
theorem closers_unregister {handle : Handle κ} (wf : r.Wf)
    (current : r.connections.get handle.sessionId = some handle.set) (sessionId : String) :
    (r.unregister handle).closers sessionId =
      if handle.sessionId = sessionId then (r.closers sessionId).filter (· ≠ handle.close)
      else r.closers sessionId := by
  unfold closers
  rw [unregister_get]
  by_cases same : handle.sessionId = sessionId
  · subst same
    rw [if_pos rfl, current]
    by_cases empty : ((r.members handle.set).delete handle.close).size = 0
    · rw [if_pos ⟨rfl, empty⟩]
      dsimp only
      rw [← JsMap.keys_delete, List.eq_nil_of_length_eq_zero ((JsMap.length_keys _).trans empty)]
    · rw [if_neg fun h => empty h.2]
      dsimp only
      rw [unregister_members_eq, if_pos rfl, JsMap.keys_delete]
  · rw [if_neg fun h => same h.1, if_neg same]
    cases found : r.connections.get sessionId with
    | none => rfl
    | some ref =>
      have other : handle.set ≠ ref := fun eq =>
        same (wf.owned handle.sessionId sessionId ref (eq ▸ current) found)
      dsimp only
      rw [unregister_members_eq, if_neg other]

end Registry

/-- A handle on a set that is in the map no more changes nothing that counts. -/
theorem closers_orphaned {handle : Handle κ} (h : Tracks r handles live) (mem : handle ∈ handles)
    (fine : ¬ r.Stale handle) (orphan : r.connections.get handle.sessionId ≠ some handle.set)
    (sessionId : String) : (r.unregister handle).connections.get sessionId = r.connections.get sessionId ∧
      (r.unregister handle).closers sessionId = r.closers sessionId := by
  have get : (r.unregister handle).connections.get sessionId = r.connections.get sessionId := by
    rw [Registry.unregister_get]
    split
    · rename_i emptied
      obtain ⟨rfl, empty⟩ := emptied
      cases found : r.connections.get handle.sessionId with
      | none => rfl
      | some ref => exact absurd ⟨⟨ref, found, fun same => orphan (same ▸ found)⟩, empty⟩ fine
    · rfl
  refine ⟨get, ?_⟩
  unfold Registry.closers
  rw [get]
  cases found : r.connections.get sessionId with
  | none => rfl
  | some ref =>
    have other : handle.set ≠ ref := by
      intro same
      have session := h.mapped sessionId ref found handle mem same
      rw [← session, ← same] at found
      exact orphan found
    dsimp only
    rw [Registry.unregister_members_eq, if_neg other]

/-- **Calling a handle** ends its own registration and no other. -/
theorem tracks_unregister {handle : Handle κ} (h : Tracks r handles live) (mem : handle ∈ handles)
    (fine : ¬ r.Stale handle) : Tracks (r.unregister handle) handles (forget live handle) := by
  have kept : ∀ sessionId ref, (r.unregister handle).connections.get sessionId = some ref →
      r.connections.get sessionId = some ref := by
    intro sessionId ref found
    rw [Registry.unregister_get] at found
    split at found
    · cases found
    · exact found
  refine ⟨Registry.wf_unregister h.wf (h.allocated handle mem), fun sessionId => ?_, fun sessionId ref found => ?_,
    h.allocated, h.distinct,
    fun ref close member => h.issued ref close ((Registry.unregister_members ref close).mp member).1,
    fun sessionId ref found => h.mapped sessionId ref (kept sessionId ref found)⟩
  · by_cases current : r.connections.get handle.sessionId = some handle.set
    · rw [Registry.closers_unregister h.wf current, closersOf_forget, h.held]
    · have absent : ∀ entry ∈ live, entry ≠ (handle.sessionId, handle.close) := by
        rintro entry alive rfl
        exact current (current_of_live h mem alive)
      rw [(closers_orphaned h mem fine current sessionId).2, h.held, forget,
        List.filter_eq_self.mpr fun entry alive => by simpa using absent entry alive]
  · rw [Registry.unregister_members_eq]
    split
    · rename_i same
      intro empty
      have session := h.mapped sessionId ref (kept sessionId ref found) handle mem same
      rw [Registry.unregister_get, if_pos ⟨session, empty⟩] at found
      cases found
    · exact h.filled sessionId ref (kept sessionId ref found)

theorem tracks_unregisterAll {called : List (Handle κ)} (h : Tracks r handles live)
    (mem : ∀ handle ∈ called, handle ∈ handles) (fine : r.NoneStale called) :
    Tracks (called.foldl Registry.unregister r) handles (called.foldl forget live) := by
  induction called generalizing r live with
  | nil => exact h
  | cons handle rest ih =>
    exact ih (tracks_unregister h (mem handle List.mem_cons_self) fine.1)
      (fun handle' rest => mem handle' (List.mem_cons_of_mem _ rest)) fine.2

theorem Registry.closers_register {sessionId : String} {close : κ} (wf : r.Wf)
    (new : ∀ ref, (r.members ref).has close = false) (other : String) :
    (r.register sessionId close).1.closers other =
      if sessionId = other then r.closers other ++ [close] else r.closers other := by
  have absent : ∀ ref, (r.members ref).get close = none := by
    intro ref
    simpa [JsMap.has] using new ref
  unfold closers register
  cases found : r.connections.get sessionId with
  | some ref =>
    dsimp only
    rw [JsMap.get_set]
    by_cases same : sessionId = other
    · subst same
      rw [if_pos rfl, if_pos rfl, found]
      dsimp only
      rw [members_set, if_pos rfl]
      exact JsMap.keys_set_new (absent ref)
    · rw [if_neg same, if_neg same]
      cases found' : r.connections.get other with
      | none => rfl
      | some ref' =>
        have apart : ref ≠ ref' := fun eq => same (wf.owned sessionId other ref found (eq ▸ found'))
        dsimp only
        rw [members_set, if_neg apart]
  | none =>
    dsimp only
    rw [JsMap.get_set]
    by_cases same : sessionId = other
    · subst same
      rw [if_pos rfl, if_pos rfl, found]
      dsimp only
      rw [members_set, if_pos rfl]
      exact JsMap.keys_set_new JsMap.get_empty
    · rw [if_neg same, if_neg same]
      cases found' : r.connections.get other with
      | none => rfl
      | some ref' =>
        have apart : r.nextSet ≠ ref' := Nat.ne_of_gt (wf.allocated other ref' found')
        dsimp only
        rw [members_set, if_neg apart]

/-- **`register`** adds its closer and leaves every other registration. -/
theorem tracks_register {sessionId : String} {close : κ} (h : Tracks r handles live)
    (new : close ∉ handles.map Handle.close) :
    Tracks (r.register sessionId close).1 (handles ++ [(r.register sessionId close).2])
      (live ++ [(sessionId, close)]) := by
  have unused : ∀ ref, (r.members ref).has close = false := by
    intro ref
    by_contra used
    obtain ⟨handle, mem, -, rfl⟩ := h.issued ref close (by simpa using used)
    exact new (List.mem_map_of_mem mem)
  obtain ⟨set, handle⟩ := r.register_handle sessionId close
  have current : (r.register sessionId close).1.Current (r.register sessionId close).2 :=
    Registry.current_register_self h.wf
  have wf : (r.register sessionId close).1.Wf := Registry.wf_register h.wf
  refine ⟨wf, fun other => ?_, fun other ref found => ?_, fun handle' mem => ?_, ?_, fun ref close' member => ?_,
    fun other ref found handle' mem same => ?_⟩
  · rw [Registry.closers_register h.wf unused, h.held]
    unfold closersOf
    rw [List.filter_append]
    by_cases same : sessionId = other <;> simp [same]
  · rw [Registry.register_connections] at found
    intro empty
    have someone : ∃ k, ((r.register sessionId close).1.members ref).has k = true := by
      split at found
      · cases found
        exact ⟨_, current.2⟩
      · obtain ⟨k, kept⟩ := List.exists_mem_of_ne_nil (r.members ref).keys fun none =>
          h.filled other ref found ((JsMap.length_keys _).symm.trans (by rw [none]; rfl))
        exact ⟨k, (Registry.register_members h.wf ref k).mpr (.inl (JsMap.mem_keys_iff_has.mp kept))⟩
    obtain ⟨k, member⟩ := someone
    obtain ⟨v, there⟩ := JsMap.has_iff.mp member
    have some := JsMap.size_pos there
    omega
  · rcases List.mem_append.mp mem with old | new
    · exact Nat.lt_of_lt_of_le (h.allocated handle' old) Registry.register_nextSet
    · rw [List.mem_singleton.mp new]
      exact wf.allocated _ _ current.1
  · rw [List.map_append, handle]
    refine List.nodup_append.mpr ⟨h.distinct, List.nodup_singleton _, fun a mem b one => ?_⟩
    rw [List.mem_singleton.mp one]
    rintro rfl
    exact new mem
  · rcases (Registry.register_members h.wf ref close').mp member with old | ⟨rfl, rfl⟩
    · obtain ⟨handle', mem, set', close''⟩ := h.issued ref close' old
      exact ⟨handle', List.mem_append_left _ mem, set', close''⟩
    · exact ⟨_, List.mem_append_right _ List.mem_cons_self, rfl, by rw [handle]⟩
  · rw [Registry.register_connections] at found
    rcases List.mem_append.mp mem with old | new'
    · split at found
      · rename_i here
        cases found
        unfold Registry.register at same
        split at same
        · rename_i ref' found'
          rw [← here]
          exact h.mapped sessionId ref' found' handle' old same
        · have below := h.allocated handle' old
          rw [show handle'.set = r.nextSet from same] at below
          exact absurd below (Nat.lt_irrefl _)
      · exact h.mapped other ref found handle' old same
    · rw [List.mem_singleton.mp new', handle] at same ⊢
      split at found
      · assumption
      · rename_i apart
        -- the set of the new handle is mapped for its own session
        have owned := wf.owned sessionId other ref
        rw [Registry.register_connections, Registry.register_connections, if_pos rfl, if_neg apart, handle] at owned
        exact owned (congrArg some same) found

/-- `revoke` before its loop. -/
theorem tracks_detach {sessionId : String} (h : Tracks r handles live) :
    Tracks (r.detach sessionId) handles (forgetSession sessionId live) := by
  have kept : ∀ other ref, (r.detach sessionId).connections.get other = some ref →
      r.connections.get other = some ref := by
    intro other ref found
    rw [Registry.detach, JsMap.get_delete] at found
    split at found
    · cases found
    · exact found
  refine ⟨Registry.wf_detach h.wf sessionId, fun other => ?_, fun other ref found => h.filled other ref (kept other ref found),
    h.allocated, h.distinct, h.issued, fun other ref found => h.mapped other ref (kept other ref found)⟩
  rw [closersOf_forgetSession, ← h.held]
  unfold Registry.closers
  rw [Registry.detach, JsMap.get_delete]
  by_cases same : sessionId = other
  · rw [if_pos same, if_pos same]
  · rw [if_neg same, if_neg same]
    rfl

/-- The loop of `revoke` calls every closer of the set, and no other. -/
theorem tracks_closeAll {within : κ → List (Handle κ)} {ref : Nat} {closers : List κ}
    (h : Tracks r handles live) (issued : ∀ close ∈ closers, ∀ handle ∈ within close, handle ∈ handles)
    (there : ∀ close ∈ closers, (r.members ref).has close = true)
    (orderly : Registry.Orderly within ref r closers) :
    (r.closeAll within ref closers).2 = closers ∧
      Tracks (r.closeAll within ref closers).1 handles ((closers.flatMap within).foldl forget live) := by
  induction closers generalizing r live with
  | nil => exact ⟨rfl, h⟩
  | cons close rest ih =>
    obtain ⟨fine, apart, orderly⟩ := orderly
    have h' := tracks_unregisterAll h (issued close List.mem_cons_self) fine
    have still : ∀ other ∈ rest, (((within close).foldl Registry.unregister r).members ref).has other = true := by
      intro other mem
      have before := there other (List.mem_cons_of_mem _ mem)
      refine List.foldlRecOn (within close) Registry.unregister (motive := fun r => (r.members ref).has other = true)
        before fun r' member handle called => ?_
      refine (Registry.unregister_members ref other).mpr ⟨member, ?_⟩
      rintro ⟨set, rfl⟩
      exact apart handle called set.symm mem
    obtain ⟨called, tracked⟩ := ih h' (fun c mem => issued c (List.mem_cons_of_mem _ mem)) still orderly
    rw [Registry.closeAll, if_pos (there close List.mem_cons_self)]
    refine ⟨congrArg (close :: ·) called, ?_⟩
    rw [List.flatMap_cons, List.foldl_append]
    exact tracked

/-- **`revoke`** calls the closers of its session and ends their registrations. -/
theorem tracks_revoke {within : κ → List (Handle κ)} {sessionId : String} (h : Tracks r handles live)
    (issued : ∀ close ∈ handles.map Handle.close, ∀ handle ∈ within close, handle ∈ handles)
    (orderly : ∀ ref, r.connections.get sessionId = some ref →
      Registry.Orderly within ref (r.detach sessionId) (r.members ref).keys) :
    (r.revoke within sessionId).2 = closersOf sessionId live ∧
      Tracks (r.revoke within sessionId).1 handles
        (((closersOf sessionId live).flatMap within).foldl forget (forgetSession sessionId live)) := by
  have held := h.held sessionId
  unfold Registry.closers at held
  unfold Registry.revoke
  cases found : r.connections.get sessionId with
  | none =>
    rw [found] at held
    rw [← held]
    refine ⟨rfl, ?_⟩
    have nothing : r.detach sessionId = r := by
      rw [Registry.detach, JsMap.delete_of_get_none found]
    have detached : Tracks (r.detach sessionId) handles (forgetSession sessionId live) := tracks_detach h
    rwa [nothing] at detached
  | some ref =>
    rw [found] at held
    rw [← held]
    refine tracks_closeAll (tracks_detach h) (fun close mem => issued close ?_)
      (fun close mem => JsMap.mem_keys_iff_has.mp mem) (orderly ref found)
    obtain ⟨handle, mem', -, rfl⟩ := h.issued ref close (JsMap.mem_keys_iff_has.mp mem)
    exact List.mem_map_of_mem mem'

end

/-! ## Runs -/

/-- What is counted is live, and what a revocation was to call it has called, once. -/
structure Lawful (s : Registrations κ) : Prop where
  held : ∀ sessionId, s.registry.closers sessionId = closersOf sessionId s.live
  counts : ∀ sessionId, s.registry.count sessionId = (closersOf sessionId s.live).length
  called : s.called = s.due
  once : s.called.Nodup

theorem tracks_step {s t : Registrations κ} {call : RegistryCall κ} (h : Tracks s.registry s.handles s.live)
    (proper : Proper s call) (step : registrationStep s call = some t) :
    Tracks t.registry t.handles t.live ∧ t.called = t.due ∧ t.due.Nodup := by
  cases call with
  | register sessionId close =>
    simp only [registrationStep, law] at step
    split at step
    · cases step
    · rename_i new
      cases step
      exact ⟨tracks_register h new, rfl, List.nodup_nil⟩
  | unregister handle =>
    simp only [registrationStep, law] at step
    split at step
    · rename_i issued
      cases step
      exact ⟨tracks_unregister h issued proper, rfl, List.nodup_nil⟩
    · cases step
  | revoke sessionId within =>
    simp only [registrationStep, law] at step
    split at step
    · rename_i issued
      cases step
      obtain ⟨called, tracked⟩ := tracks_revoke h issued proper
      refine ⟨tracked, called, ?_⟩
      rw [← h.held, Registry.closers]
      split
      · exact List.nodup_nil
      · exact JsMap.keys_nodup _
    · cases step

/-- **The registry** keeps the law in every run in which no handle meets a set that has
replaced its own, and no closer in a revocation takes out one whose turn is to come. -/
theorem registrations_lawful {s : Registrations κ} (reached : (registrations κ).Reachable Proper s) :
    Lawful s := by
  have start : Tracks (Registry.empty : Registry κ) [] [] := by
    refine ⟨Registry.wf_empty, fun _ => rfl, ?_, by simp, List.nodup_nil, ?_, ?_⟩
    · intro sessionId ref found
      simp [Registry.empty] at found
    · intro ref close member
      simp [Registry.empty, Registry.members, JsMap.has] at member
    · intro sessionId ref found
      simp [Registry.empty] at found
  have tracked : Tracks s.registry s.handles s.live ∧ s.called = s.due ∧ s.due.Nodup :=
    Machine.Reachable.invariant (I := fun s => Tracks s.registry s.handles s.live ∧ s.called = s.due ∧ s.due.Nodup)
      reached ⟨start, rfl, List.nodup_nil⟩ fun t call u _ ih proper step => tracks_step ih.1 proper step
  obtain ⟨h, called, once⟩ := tracked
  exact ⟨h.held, fun sessionId => by rw [Registry.count_eq, h.held], called, called ▸ once⟩

/-- The first of two closers calls its own handle when the session is revoked. -/
theorem registrations_lawful_twice : ∃ s : Registrations Nat, Lawful s ∧ s.called = [1, 2] := by
  let calls : List (RegistryCall Nat) :=
    [.register "s" 1, .register "s" 2, .revoke "s" fun close => if close = 1 then [⟨"s", 0, 1⟩] else []]
  have run : ∃ s, (registrations Nat).runFrom (registrations Nat).init calls = some s ∧ s.called = [1, 2] :=
    ⟨_, rfl, by decide⟩
  have admitted : (registrations Nat).Admits Proper (registrations Nat).init calls := by
    refine ⟨trivial, ?_⟩
    rintro _ ⟨⟩
    refine ⟨trivial, ?_⟩
    rintro _ ⟨⟩
    refine ⟨?_, fun _ _ => trivial⟩
    rintro ref ⟨⟩
    refine ⟨⟨fun stale => ?_, trivial⟩, by decide, trivial, by decide, trivial⟩
    exact absurd stale.2 (by decide)
  obtain ⟨s, run, called⟩ := run
  exact ⟨s, registrations_lawful (Machine.reaches_of_runs admitted run), called⟩

/-- A handle is called once more after its session was revoked and got a new registration. -/
theorem stale_handle : ∃ s : Registrations Nat, (registrations Nat).runFrom (registrations Nat).init
    [.register "s" 1, .revoke "s" fun _ => [], .register "s" 2, .unregister ⟨"s", 0, 1⟩] = some s ∧
      s.live = [("s", 2)] ∧ s.registry.count "s" = 0 ∧ ¬ Lawful s := by
  refine ⟨_, rfl, by decide, by decide, fun lawful => ?_⟩
  exact absurd (lawful.counts "s") (by decide)

end Fireball.Signaling
