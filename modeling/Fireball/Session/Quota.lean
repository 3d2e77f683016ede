import Fireball.Foundation.Lists
import Fireball.Session.Lifecycle
import Fireball.Session.Trace

/-!
# Quotas

The limits are checked in `reserve` alone. Every count they bound is a sum over
records and reservations, and no other step of a tidy run raises such a sum:

* `committed_step`: a step raises the sum by one reservation that `reserve` granted,
  or not at all;
* `committed_bound`: what `reserve` bounds is bounded in every state;
* `quota_safe`: the tenant limit, the host capacity, and whose the reservations are.
-/

namespace Fireball.Session

open Foundation

/-- The sum of `w` over all records and reservations. -/
def committed (s : Store) (w : String → SessionQuota → Nat) : Nat :=
  s.sessions.weight (fun r => w r.tenantId r.quota) +
    s.reservations.weight (fun r => w r.tenantId r.quota)

/-- Counts what belongs to one tenant. -/
def ofTenant (tenantId : String) : String → SessionQuota → Nat :=
  fun t _ => if t = tenantId then 1 else 0

theorem tenant_committed (s : Store) (tenantId : String) :
    tenantSessions s tenantId + tenantReservations s tenantId = committed s (ofTenant tenantId) := by
  simp only [tenantSessions, tenantReservations, committed, ofTenant, JsMap.weight,
    length_filter_eq_sum]

/-- What `currentAllocation` adds up, from any start. -/
theorem allocation_fold (l : List SessionQuota) (a : HostCapacity) :
    l.foldl (fun total quota => (⟨⟨total.memoryMiB + quota.memoryMiB,
      total.cpuShares + quota.cpuShares, total.pids + quota.pids⟩,
      total.maximumSessions + 1⟩ : HostCapacity)) a =
    ⟨⟨a.memoryMiB + (l.map (·.memoryMiB)).sum, a.cpuShares + (l.map (·.cpuShares)).sum,
      a.pids + (l.map (·.pids)).sum⟩, a.maximumSessions + (l.map fun _ => 1).sum⟩ := by
  induction l generalizing a with
  | nil => rfl
  | cons q l ih => simp only [List.foldl_cons, ih, List.map_cons, List.sum_cons, Nat.add_assoc]

theorem currentAllocation_eq (s : Store) :
    currentAllocation s =
      ⟨⟨committed s fun _ q => q.memoryMiB, committed s fun _ q => q.cpuShares,
        committed s fun _ q => q.pids⟩, committed s fun _ _ => 1⟩ := by
  simp only [currentAllocation, allocation_fold, List.map_append, List.sum_append, List.map_map,
    committed, JsMap.weight, Nat.zero_add]
  rfl

section
variable {cfg : Config} {s t : State} {e : Event}

/-- Writing a copy of a stored record changes no sum. -/
theorem committed_putRecord (w : String → SessionQuota → Nat) {base s : Store} {k : String}
    {r r' : SessionRecord} (sessions : base.sessions = s.sessions)
    (reservations : base.reservations = s.reservations) (hr : s.sessions.get k = some r)
    (tenant : r'.tenantId = r.tenantId) (quota : r'.quota = r.quota) :
    committed (base.putRecord k r') w = committed s w := by
  have same := JsMap.weight_set (v := { r' with ref := base.nextRef })
    (fun r => w r.tenantId r.quota) hr
  simp only [committed, putRecord_sessions, putRecord_reservations, sessions, reservations]
  simp only [tenant, quota] at same ⊢
  omega

/-- The granted reservation adds its own weight: its id is in use nowhere. -/
theorem committed_reserved (w : String → SessionQuota → Nat) {store : Store} {tenantId : String}
    (wf : Wf cfg s) (fresh : FreshId s e)
    (ok : reserve cfg s.store e.draw.uuid tenantId = .ok store) :
    committed store w = committed s.store w + w tenantId cfg.quota := by
  have unused : s.store.reservations.get e.draw.uuid = none := by
    cases hr : s.store.reservations.get e.draw.uuid with
    | none => rfl
    | some r =>
      obtain ⟨c, hc, -⟩ := wf.reserved _ r hr
      exact absurd (wf.creating c _ _ hc).2.1 fresh.2
  have added := JsMap.weight_set_new (v := ⟨tenantId, cfg.quota⟩)
    (fun r : SessionReservation => w r.tenantId r.quota) unused
  rw [(reserve_ok ok).2.2.2.2.2]
  simp only [committed, added, Nat.add_assoc]

/-- The step of a tidy run: a sum grows by one granted reservation, or not at all. -/
theorem committed_step (w : String → SessionQuota → Nat) (wf : Wf cfg s) (tidy : Tidy s e)
    (h : step cfg s e = some t) :
    committed t.store w ≤ committed s.store w ∨
    ∃ id tenantId store, reserve cfg s.store id tenantId = .ok store ∧
      committed t.store w = committed s.store w + w tenantId cfg.quota := by
  obtain ⟨c, old, new, store, es, stands, ht, rfl⟩ := step_transition h
  rw [advance_store]
  have unchanged : store.sessions = s.store.sessions →
      store.reservations = s.store.reservations → committed store w ≤ committed s.store w := by
    intro hs hr
    simp only [committed, hs, hr, Nat.le_refl]
  cases ht with
  | moved | begun | authorized => exact .inl (Nat.le_refl _)
  | reserved _ ok => exact .inr ⟨_, _, _, ok, committed_reserved w wf tidy.1 ok⟩
  | released =>
    refine .inl (Nat.add_le_add_left ?_ _)
    exact JsMap.weight_delete_le _
  | created _ ok =>
    -- the reservation becomes the record
    obtain ⟨cr, -, rfl, -⟩ := rotate_ok ok
    rename_i id tenantId runtime _ _
    have freed := JsMap.weight_delete (fun r : SessionReservation => w r.tenantId r.quota)
      (wf.creating c id tenantId stands).2.2
    have stored := JsMap.weight_set_le (m := s.store.sessions) (k := key tenantId id)
      (v := ⟨s.store.nextRef, id, tenantId, .active, e.draw.isoTime, cfg.quota, runtime, none⟩)
      (fun r : SessionRecord => w r.tenantId r.quota)
    refine .inl ?_
    change JsMap.weight (s.store.sessions.set _ _) _ + JsMap.weight (s.store.reservations.delete id) _
      ≤ _
    simp only [committed] at *
    omega
  | ticketTaken => exact .inl (unchanged (takeTicket_sessions _ _) (takeTicket_reservations _ _))
  | tokenTaken => exact .inl (unchanged (takeToken_sessions _ _) (takeToken_reservations _ _))
  | rotated ok =>
    obtain ⟨cr, -, rfl, -⟩ := rotate_ok ok
    exact .inl (unchanged rfl rfl)
  | minted => exact .inl (unchanged rfl rfl)
  | burning _ stored =>
    exact .inl (Nat.le_of_eq (committed_putRecord w (revoke_sessions _ _) (revoke_reservations _ _)
      stored rfl rfl))
  | removed => exact .inl (Nat.add_le_add_right (JsMap.weight_delete_le _) _)
  | restored he =>
    -- the guard: the record under the key is counted already
    obtain ⟨-, cleanup⟩ := tidy
    rename_i k r error
    rw [he] at cleanup
    simp only [State.Stands] at stands
    simp only [CleanupFindsRecord, stands] at cleanup
    obtain ⟨current, hc⟩ := JsMap.has_iff.mp cleanup
    have held := wf.held c _ k r stands rfl
    have found := wf.stored k current hc
    exact .inl (Nat.le_of_eq (committed_putRecord w rfl rfl hc (held.same found).1
      (held.quota.trans found.quota.symm)))
  | lost hc =>
    rename_i k r _ current _ _ _ _ _
    have held := wf.held c _ k r stands rfl
    have found := wf.stored k current hc
    exact .inl (Nat.le_of_eq (committed_putRecord w (revoke_sessions _ _) (revoke_reservations _ _)
      hc (held.same found).1 (held.quota.trans found.quota.symm)))

end

/-- What `reserve` bounds when it grants a reservation is bounded in every state. -/
theorem committed_bound {cfg : Config} {s : State} {w : String → SessionQuota → Nat} {bound : Nat}
    (granted : ∀ store id tenantId store', committed store w ≤ bound →
      reserve cfg store id tenantId = .ok store' → committed store w + w tenantId cfg.quota ≤ bound)
    (reached : (machine cfg).Reachable Tidy s) : committed s.store w ≤ bound := by
  refine reached.invariant (I := fun s => committed s.store w ≤ bound) (Nat.zero_le _) ?_
  intro s e t hr within tidy hs
  rcases committed_step w (reachable_wf (fun _ _ h => h.1) hr) tidy hs with
    less | ⟨id, tenantId, store, ok, eq⟩
  · exact Nat.le_trans less within
  · rw [eq]
    exact granted _ id tenantId store within ok

/-- The call was made and its promise has not settled. -/
def Unsettled (s : State) (c : Nat) (call : Call) : Prop :=
  .called c call ∈ s.history ∧ ∀ outcome, .answered c outcome ∉ s.history

/-- `create` call `c` waits for the runtime of the session `id`. -/
def Creates (s : State) (c : Nat) (context : TenantContext) (id : String) : Prop :=
  Unsettled s c (.create context) ∧ s.calls.get c = some (.creating id context.tenantId)

/-- The reservations are those of the unsettled `create` calls, one each. -/
structure ReservationsOfCreates (cfg : Config) (s : State) : Prop where
  owned : ∀ id r, s.store.reservations.get id = some r →
    ∃ c context, Creates s c context id ∧ r = ⟨context.tenantId, cfg.quota⟩
  present : ∀ c context, Unsettled s c (.create context) →
    ∃ id, Creates s c context id ∧
      s.store.reservations.get id = some ⟨context.tenantId, cfg.quota⟩
  alone : ∀ c c' context context' id, Creates s c context id → Creates s c' context' id → c = c'

theorem create_not_observed {k : String} {context : TenantContext} (caller : Caller) :
    ¬ caller.Continues k (.create context) := by
  cases caller with
  | get | activeRuntime => rintro ⟨_, _, ⟨⟩, -⟩
  | issueSignalingTicket => rintro ⟨-, _, _, ⟨⟩, -⟩
  | exchange | authorize => rintro ⟨-, ⟨⟩⟩

theorem reservations_of_creates {cfg : Config} {s : State} (wf : Wf cfg s) (tr : Traced s) :
    ReservationsOfCreates cfg s where
  owned := by
    intro id r hr
    obtain ⟨c, hc, quota⟩ := wf.reserved id r hr
    obtain ⟨call, called, context, rfl, tenant⟩ := tr.parked c _ hc
    refine ⟨c, context, ⟨⟨called, ?_⟩, by rw [hc, tenant]⟩, ?_⟩
    · intro outcome answered
      rw [(tr.answered c outcome answered).1] at hc
      cases hc
    · cases r
      simp_all
  present := by
    rintro c context ⟨called, unanswered⟩
    cases hc : s.calls.get c with
    | none =>
      obtain ⟨outcome, answered⟩ := tr.waiting c _ called hc
      exact absurd answered (unanswered outcome)
    | some p =>
      obtain ⟨call, called', goes⟩ := tr.parked c p hc
      cases tr.once c _ _ called called'
      cases p with
      | creating id tenantId =>
        obtain ⟨_, ⟨⟩, rfl⟩ := goes
        exact ⟨id, ⟨⟨called, unanswered⟩, hc⟩, (wf.creating c id _ hc).2.2⟩
      | inspecting k r caller => exact absurd goes (create_not_observed caller)
      | observed result caller =>
        obtain ⟨k, goes, -⟩ := goes
        exact absurd goes (create_not_observed caller)
      | activated | tabbing => obtain ⟨_, _, ⟨⟩⟩ := goes
      | destroying => obtain ⟨_, _, ⟨⟩, -⟩ := goes
  alone := fun c c' _ _ id h h' => wf.alone c c' id _ _ h.2 h'.2

/-- The allocation is within the host's capacity in every respect. -/
structure WithinCapacity (allocation capacity : HostCapacity) : Prop where
  sessions : allocation.maximumSessions ≤ capacity.maximumSessions
  memory : allocation.memoryMiB ≤ capacity.memoryMiB
  cpu : allocation.cpuShares ≤ capacity.cpuShares
  pids : allocation.pids ≤ capacity.pids

/-- **Quota safety.** In every state of a tidy run no tenant has more records
and reservations than its limit, all of them together fit the host, and the
reservations are those of the `create` calls that have not settled. -/
theorem quota_safe (cfg : Config) {s : State} (reached : (machine cfg).Reachable Tidy s) :
    (∀ tenantId, tenantSessions s.store tenantId + tenantReservations s.store tenantId ≤
      cfg.maximumSessionsPerTenant) ∧
    WithinCapacity (currentAllocation s.store) cfg.hostCapacity ∧
    ReservationsOfCreates cfg s := by
  refine ⟨?tenant, ?host, ?own⟩
  case tenant =>
    intro tenantId
    rw [tenant_committed]
    refine committed_bound ?_ reached
    intro store id t store' within ok
    have room := (reserve_ok ok).1
    rw [tenant_committed] at room
    by_cases same : t = tenantId
    · subst same
      simp only [ofTenant, if_true]
      exact room
    · simpa only [ofTenant, if_neg same, Nat.add_zero] using within
  case host =>
    rw [currentAllocation_eq]
    constructor
    all_goals
      dsimp only
      refine committed_bound ?_ reached
      intro store id t store' _ ok
      have room := (reserve_ok ok).2
      rw [currentAllocation_eq] at room
      dsimp only at room ⊢
      omega
  case own =>
    exact reservations_of_creates (reachable_wf (fun _ _ h => h.1) reached)
      (reachable_traced (fun _ _ h => h.1) reached)

/-- With one burn done and the other waiting the slot is free again. -/
theorem quota_safe_burned :
    tenantSessions burned.store "alpha" + tenantReservations burned.store "alpha" ≤ 1 ∧
    WithinCapacity (currentAllocation burned.store) sampleConfig.hostCapacity ∧
    ReservationsOfCreates sampleConfig burned := by
  have before : (machine sampleConfig).Reachable Tidy burning :=
    Machine.reaches_end (by decide) _
  have tidy : Tidy burning firstSucceeds := by decide
  have next : step sampleConfig burning firstSucceeds = some burned := (Option.some_get _).symm
  obtain ⟨tenant, host, own⟩ := quota_safe sampleConfig (before.step tidy next)
  exact ⟨tenant "alpha", host, own⟩

/-- A create takes the freed slot before the second burn fails. -/
def slotTakenTwice : List Event := [.call (.create alpha) (draw 2 0 ""), secondFails]

/-- The second burn puts its record back beside the new reservation. -/
theorem quota_exceeded : ∃ s, (machine sampleConfig).Reachable FreshId s ∧
    tenantSessions s.store "alpha" + tenantReservations s.store "alpha" >
      sampleConfig.maximumSessionsPerTenant := by
  have before : (machine sampleConfig).Reachable FreshId burning :=
    Machine.reaches_end (by decide) _
  have next : step sampleConfig burning firstSucceeds = some burned := (Option.some_get _).symm
  have after : (machine sampleConfig).Reaches FreshId burned
      (((machine sampleConfig).runFrom burned slotTakenTwice).get (by decide)) :=
    Machine.reaches_end (by decide) _
  exact ⟨_, (before.step (show FreshId burning firstSucceeds by decide) next).trans after,
    by decide⟩

end Fireball.Session
