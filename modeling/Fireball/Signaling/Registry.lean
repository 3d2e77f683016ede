import Fireball.Foundation.JsMap

/-!
# `SignalingConnectionRegistry`

`src/signaling/connection-registry.ts`. The map holds `Set` objects, and the
function that `register` returns closes over the set it added to, so sets have an
identity of their own: such a handle works on its set even when the map holds
another one by then.

* `register_members`, `unregister_members`: the closers of each set after an operation;
* `Registry.Wf`: no two sessions share a set.
-/

namespace Fireball.Signaling

open Foundation

structure Registry (κ : Type) where
  connections : JsMap String Nat
  sets : JsMap Nat (JsSet κ)
  nextSet : Nat

/-- The function that `register` returns. -/
structure Handle (κ : Type) where
  sessionId : String
  set : Nat
  close : κ
  deriving DecidableEq

namespace Registry

section
variable {κ : Type}

def empty : Registry κ := ⟨.empty, .empty, 0⟩

/-- What a set object holds. -/
def members (r : Registry κ) (ref : Nat) : JsSet κ := (r.sets.get ref).getD .empty

theorem members_set (r : Registry κ) (connections : JsMap String Nat) (ref ref' next : Nat)
    (set : JsSet κ) : (⟨connections, r.sets.set ref set, next⟩ : Registry κ).members ref' =
      if ref = ref' then set else r.members ref' := by
  simp only [members, JsMap.get_set]
  split <;> rfl

def count (r : Registry κ) (sessionId : String) : Nat :=
  match r.connections.get sessionId with
  | none => 0
  | some ref => (r.members ref).size

/-- `revoke` before its loop takes the session's set out of the map. -/
def detach (r : Registry κ) (sessionId : String) : Registry κ :=
  { r with connections := r.connections.delete sessionId }

/-- No two sessions share a set, and the next set is a new one. -/
structure Wf (r : Registry κ) : Prop where
  owned : ∀ s s' ref, r.connections.get s = some ref → r.connections.get s' = some ref → s = s'
  allocated : ∀ s ref, r.connections.get s = some ref → ref < r.nextSet
  filled : ∀ ref, r.nextSet ≤ ref → r.sets.get ref = none

theorem wf_empty : Wf (empty : Registry κ) where
  owned := by intro s s' ref h; simp [empty] at h
  allocated := by intro s ref h; simp [empty] at h
  filled := by intro ref _; simp [empty]

theorem wf_detach {r : Registry κ} (wf : r.Wf) (sessionId : String) : (r.detach sessionId).Wf where
  owned := by
    intro s s' ref h h'
    simp only [detach, JsMap.get_delete] at h h'
    split at h
    · cases h
    · split at h'
      · cases h'
      · exact wf.owned s s' ref h h'
  allocated := by
    intro s ref h
    simp only [detach, JsMap.get_delete] at h
    split at h
    · cases h
    · exact wf.allocated s ref h
  filled := wf.filled

end

variable {κ : Type} [DecidableEq κ]

def register (r : Registry κ) (sessionId : String) (close : κ) : Registry κ × Handle κ :=
  match r.connections.get sessionId with
  | some ref =>
    ({ r with
        connections := r.connections.set sessionId ref
        sets := r.sets.set ref ((r.members ref).add close) }, ⟨sessionId, ref, close⟩)
  | none =>
    ({ connections := r.connections.set sessionId r.nextSet
       sets := r.sets.set r.nextSet (JsMap.empty.add close)
       nextSet := r.nextSet + 1 }, ⟨sessionId, r.nextSet, close⟩)

/-- Calling the function that `register` returned. -/
def unregister (r : Registry κ) (handle : Handle κ) : Registry κ :=
  let remaining := (r.members handle.set).delete handle.close
  { r with
    sets := r.sets.set handle.set remaining
    connections :=
      if remaining.size = 0 then r.connections.delete handle.sessionId else r.connections }

/-- A closer that a revocation of the session would reach. -/
def Registered (r : Registry κ) (sessionId : String) (close : κ) : Prop :=
  ∃ ref, r.connections.get sessionId = some ref ∧ (r.members ref).has close = true

/-- The map holds the set that the handle works on, and the set holds its closer. -/
def Current (r : Registry κ) (handle : Handle κ) : Prop :=
  r.connections.get handle.sessionId = some handle.set ∧
    (r.members handle.set).has handle.close = true

variable {r : Registry κ} {sessionId : String} {close : κ} {handle : Handle κ}

theorem register_handle (r : Registry κ) (sessionId : String) (close : κ) :
    ∃ set, (r.register sessionId close).2 = ⟨sessionId, set, close⟩ := by
  unfold register
  split
  · exact ⟨_, rfl⟩
  · exact ⟨_, rfl⟩

theorem register_nextSet : r.nextSet ≤ (r.register sessionId close).1.nextSet := by
  unfold register
  split
  · exact Nat.le_refl _
  · exact Nat.le_succ _

theorem register_connections (s : String) : (r.register sessionId close).1.connections.get s =
    if sessionId = s then some (r.register sessionId close).2.set else r.connections.get s := by
  unfold register
  split <;> simp only [JsMap.get_set]

theorem register_members (wf : r.Wf) (ref : Nat) (k : κ) :
    ((r.register sessionId close).1.members ref).has k = true ↔
      (r.members ref).has k = true ∨ (ref = (r.register sessionId close).2.set ∧ k = close) := by
  unfold register
  split
  · rename_i ref' _
    by_cases same : ref' = ref
    · subst same
      simp [members_set, JsMap.has_add, or_comm, eq_comm (a := close)]
    · simp [members_set, same, Ne.symm same]
  · by_cases same : r.nextSet = ref
    · subst same
      have unused : r.members r.nextSet = .empty := by
        simp [members, wf.filled r.nextSet (Nat.le_refl _)]
      have nobody : (JsMap.empty : JsSet κ).has k = false := rfl
      simp [members_set, unused, nobody, JsMap.has_add, eq_comm (a := close)]
    · simp [members_set, same, Ne.symm same]

theorem current_register_self (wf : r.Wf) :
    (r.register sessionId close).1.Current (r.register sessionId close).2 := by
  obtain ⟨set, eq⟩ := r.register_handle sessionId close
  constructor
  · rw [register_connections, eq]
    exact if_pos rfl
  · refine (register_members wf _ _).mpr (.inr ⟨rfl, ?_⟩)
    rw [eq]

/-- A closer joins the set its session has, so the older handles stay current. -/
theorem current_register (wf : r.Wf) (current : r.Current handle) :
    (r.register sessionId close).1.Current handle := by
  constructor
  · rw [register_connections]
    split
    · rename_i same
      subst same
      simp only [register, current.1]
    · exact current.1
  · exact (register_members wf _ _).mpr (.inl current.2)

theorem wf_register (wf : r.Wf) : (r.register sessionId close).1.Wf := by
  unfold register
  split
  · rename_i ref hc
    have same : ∀ s ref', (r.connections.set sessionId ref).get s = some ref' →
        r.connections.get s = some ref' := by
      intro s ref' h
      rw [JsMap.get_set] at h
      split at h
      · rename_i same
        rw [← same, hc, ← h]
      · exact h
    refine ⟨fun s s' ref' h h' => wf.owned s s' ref' (same s ref' h) (same s' ref' h'),
      fun s ref' h => wf.allocated s ref' (same s ref' h), ?_⟩
    intro ref' above
    have below := wf.allocated sessionId ref hc
    have other : ref ≠ ref' := by
      dsimp only at above
      omega
    simp only [JsMap.get_set_ne other]
    exact wf.filled ref' above
  · constructor
    · intro s s' ref h h'
      simp only [JsMap.get_set] at h h'
      split at h <;> split at h'
      · rename_i e e'
        exact e.symm.trans e'
      · cases h
        exact absurd (wf.allocated s' _ h') (Nat.lt_irrefl _)
      · cases h'
        exact absurd (wf.allocated s _ h) (Nat.lt_irrefl _)
      · exact wf.owned s s' ref h h'
    · intro s ref h
      simp only [JsMap.get_set] at h
      split at h
      · cases h
        exact Nat.lt_succ_self _
      · exact Nat.lt_succ_of_lt (wf.allocated s ref h)
    · intro ref above
      have other : r.nextSet ≠ ref := by
        dsimp only at above
        omega
      simp only [JsMap.get_set_ne other]
      exact wf.filled ref (Nat.le_of_succ_le above)

theorem unregister_members (ref : Nat) (k : κ) : ((r.unregister handle).members ref).has k = true ↔
    (r.members ref).has k = true ∧ ¬ (ref = handle.set ∧ k = handle.close) := by
  by_cases same : handle.set = ref
  · subst same
    simp [unregister, members_set, JsMap.has_delete, and_comm, eq_comm (a := handle.close)]
  · simp [unregister, members_set, same, Ne.symm same]

/-- The map forgets a session only when the handle's set has no member left. -/
theorem unregister_connections (r : Registry κ) (handle : Handle κ) (s : String) :
    (r.unregister handle).connections.get s = r.connections.get s ∨
    (s = handle.sessionId ∧ (r.unregister handle).connections.get s = none ∧
      ∀ k, ((r.unregister handle).members handle.set).has k = false) := by
  by_cases last : ((r.members handle.set).delete handle.close).size = 0
  · by_cases same : handle.sessionId = s
    · refine .inr ⟨same.symm, ?_, ?_⟩
      · simp [unregister, last, same]
      · intro k
        have entries : ((r.members handle.set).delete handle.close).entries = [] :=
          List.eq_nil_of_length_eq_zero last
        have holds : ((r.unregister handle).members handle.set) =
            (r.members handle.set).delete handle.close := by simp [unregister, members_set]
        rw [holds]
        simp only [JsMap.has, JsMap.get, entries, lookupEntry, Option.isSome_none]
    · exact .inl (by simp [unregister, last, JsMap.get_delete, same])
  · exact .inl (by simp [unregister, last])

/-- Calling one handle leaves another one current, if the two agree on the set of
their session and have different closers. -/
theorem current_unregister {other : Handle κ} (current : r.Current other)
    (agree : other.sessionId = handle.sessionId → other.set = handle.set)
    (differ : other.close ≠ handle.close) : (r.unregister handle).Current other := by
  have member : ((r.unregister handle).members other.set).has other.close = true :=
    (unregister_members _ _).mpr ⟨current.2, fun same => differ same.2⟩
  refine ⟨?_, member⟩
  rcases unregister_connections r handle other.sessionId with same |
    ⟨session, -, nobody⟩
  · rw [same]
    exact current.1
  · have empty := nobody other.close
    rw [← agree session, member] at empty
    cases empty

theorem wf_unregister (wf : r.Wf) (below : handle.set < r.nextSet) : (r.unregister handle).Wf := by
  have kept : ∀ s ref, (r.unregister handle).connections.get s = some ref →
      r.connections.get s = some ref := by
    intro s ref h
    rcases unregister_connections r handle s with same | ⟨-, none, -⟩
    · exact same ▸ h
    · rw [none] at h
      cases h
  refine ⟨fun s s' ref h h' => wf.owned s s' ref (kept s ref h) (kept s' ref h'),
    fun s ref h => wf.allocated s ref (kept s ref h), ?_⟩
  intro ref above
  have above' : r.nextSet ≤ ref := above
  have other : handle.set ≠ ref := by omega
  simp only [unregister, JsMap.get_set_ne other]
  exact wf.filled ref above'

end Registry

end Fireball.Signaling
