import Fireball.Session.Rotation

/-!
# What a revocation leaves

A session is revoked when it is burned and when its runtime is found gone. Its
record never becomes active again, and a call that has yet to look at the runtime
no longer authorizes it.

* `reachable_oneKey`: no two keys hold records of one session;
* `reachable_buried`: a revoked session has no active record;
* `granted_step`: no call is granted such a session any more.
-/

namespace Fireball.Session

open Foundation

/-! ## One key for each session -/

/-- The record is stored under `k`, or a parked call goes on with it. -/
def Kept (s : State) (k : String) (r : SessionRecord) : Prop :=
  s.store.sessions.get k = some r ∨ ∃ c p, s.calls.get c = some p ∧ p.holds = some (k, r)

def OneKey (s : State) : Prop :=
  ∀ k k' r r', Kept s k r → Kept s k' r' → r.id = r'.id → k = k'

section
variable {cfg : Config} {s t : State} {e : Event}

theorem kept_under (wf : Wf cfg s) {k : String} {r : SessionRecord} (h : Kept s k r) :
    RecordUnder cfg s k r := by
  rcases h with stored | ⟨c, p, hp, holds⟩
  · exact wf.stored k r stored
  · exact wf.held c p k r hp holds

/-- What is kept after a step was kept before, or is the record of a settled create. -/
theorem kept_step (h : step cfg s e = some t) {k : String} {r : SessionRecord} (kept : Kept t k r) :
    (∃ r', Kept s k r' ∧ r.id = r'.id) ∨
      ∃ c tenantId, s.calls.get c = some (.creating r.id tenantId) ∧ k = key tenantId r.id := by
  obtain ⟨c, old, new, store, es, stands, ht, rfl⟩ := step_transition h
  rcases kept with stored | ⟨c', p, hp, holds⟩
  · rcases sessions_advance ht stored with before | ⟨r', source, id, -⟩ |
      ⟨id, tenantId, rfl, -, under, rfl, -⟩
    · exact .inl ⟨r, .inl before, rfl⟩
    · refine .inl ⟨r', ?_, id⟩
      rcases source with before | ⟨p, rfl, holds⟩
      · exact .inl before
      · exact .inr ⟨c, p, stands, holds⟩
    · exact .inr ⟨c, tenantId, stands, under⟩
  · rw [advance_calls] at hp
    split at hp
    · exact .inl ⟨r, .inl (held_advance ht hp holds), rfl⟩
    · exact .inl ⟨r, .inr ⟨c', p, hp, holds⟩, rfl⟩

theorem oneKey_step (wf : Wf cfg s) (h : step cfg s e = some t) (one : OneKey s) : OneKey t := by
  intro k k' r r' hr hr' same
  -- a parked create keeps its id to itself
  have apart : ∀ {k r c tenantId}, Kept s k r → s.calls.get c ≠ some (.creating r.id tenantId) :=
    fun kept => (kept_under wf kept).spent.2.2 _ _
  rcases kept_step h hr with ⟨r₀, hr₀, id⟩ | ⟨c, tenantId, hc, under⟩ <;>
    rcases kept_step h hr' with ⟨r₁, hr₁, id'⟩ | ⟨c', tenantId', hc', under'⟩
  · exact one k k' r₀ r₁ hr₀ hr₁ (id.symm.trans (same.trans id'))
  · rw [← same, id] at hc'
    exact absurd hc' (apart hr₀)
  · rw [same, id'] at hc
    exact absurd hc (apart hr₁)
  · rw [← same] at hc' under'
    have here := wf.alone c c' _ _ _ hc hc'
    subst here
    cases hc.symm.trans hc'
    rw [under, under']

end

theorem reachable_oneKey {cfg : Config} {allowed : State → Event → Prop} {s : State}
    (fresh : ∀ s e, allowed s e → FreshId s e) (h : (machine cfg).Reachable allowed s) :
    OneKey s := by
  refine h.invariant ?_ fun _ _ _ hr one _ hs => oneKey_step (reachable_wf fresh hr) hs one
  intro k k' r r' kept
  rcases kept with stored | ⟨c, p, hp, -⟩
  · simp [machine, State.initial, Store.empty] at stored
  · simp [machine, State.initial] at hp

/-! ## Revoked sessions -/

/-- The session that this event revokes, if any. -/
def revokedBy (s : State) : Event → Option String
  | .call (.burn context id) _ => (s.store.sessions.get (key context.tenantId id)).map (·.id)
  | .settle c (.inspected (.ok (.failed _))) _ => match s.calls.get c with
    | some (.inspecting k record _) => match s.store.sessions.get k with
      | some current =>
        if current.ref = record.ref ∧ current.phase = .active then some record.id else none
      | none => none
    | _ => none
  | _ => none

/-- Creation of the session is over, and no record of it is active. -/
def Buried (s : State) (id : String) : Prop :=
  Spent s id ∧ ∀ k r, s.store.sessions.get k = some r → r.id = id → r.phase ≠ .active

section
variable {cfg : Config} {s t : State} {e : Event}

theorem quietEntries_revoked {c : Nat} {new : Option Pending} {es : List Entry}
    (h : QuietEntries c new es) (id : String) : .revoked id ∉ es := by
  cases h <;> simp

/-- Only the two revoking events write to the history that a session is revoked,
and they leave a record under its key that is not active. -/
theorem revoked_step (h : step cfg s e = some t) {id : String} (revoked : .revoked id ∈ t.history) :
    .revoked id ∈ s.history ∨ (revokedBy s e = some id ∧ ∃ k r r', Kept s k r ∧ r.id = id ∧
      t.store.sessions.get k = some r' ∧ r'.phase ≠ .active) := by
  obtain ⟨c, old, new, store, es, stands, ht, rfl⟩ := step_transition h
  rcases List.mem_append.mp revoked with now | before
  · refine .inr ?_
    cases ht with
    | moved _ _ he => exact absurd now (quietEntries_revoked he id)
    | begun _ _ he | ticketTaken _ _ he | tokenTaken _ _ he =>
      rcases List.mem_append.mp now with now | now
      · exact absurd now (quietEntries_revoked he id)
      · simp at now
    | burning he hb =>
      simp only [List.mem_cons, Entry.revoked.injEq, reduceCtorEq, false_or, List.not_mem_nil,
        or_false] at now
      subst now
      refine ⟨by rw [he]; simp only [revokedBy, hb, Option.map_some], _, _, _, .inl hb, rfl,
        JsMap.get_set_self, ?_⟩
      simp [burningRecord]
    | lost hc same active he =>
      simp only [List.mem_singleton, Entry.revoked.injEq] at now
      subst now
      have parked : s.calls.get c = some (.inspecting _ _ _) := stands
      refine ⟨?_, _, _, _, .inr ⟨c, _, stands, rfl⟩, rfl, JsMap.get_set_self, ?_⟩
      · rw [he]
        simp only [revokedBy, parked, hc, same, active, and_self, if_true]
      · simp [failedRecord]
    | _ => simp at now
  · exact .inl before

theorem buried_step (fresh : FreshId s e) (h : step cfg s e = some t) {id : String}
    (buried : Buried s id) : Buried t id := by
  refine ⟨spent_step fresh h buried.1, ?_⟩
  obtain ⟨c, old, new, store, es, stands, ht, rfl⟩ := step_transition h
  have written : ∀ (base : Store) k' r', base.sessions = s.store.sessions → r'.phase ≠ .active →
      ∀ k r, (base.putRecord k' r').sessions.get k = some r → r.id = id → r.phase ≠ .active := by
    intro base k' r' hb hp k r hr
    rw [putRecord_sessions, JsMap.get_set] at hr
    split at hr
    · cases hr
      exact fun _ => hp
    · rw [hb] at hr
      exact buried.2 k r hr
  intro k r hr
  rw [advance_store] at hr
  cases ht with
  | moved | begun | authorized | released | minted => exact buried.2 k r hr
  | reserved _ ok =>
    rw [(reserve_ok ok).2.2.2.2.2] at hr
    exact buried.2 k r hr
  | created _ ok =>
    obtain ⟨cr, -, rfl, -⟩ := rotate_ok ok
    change (s.store.sessions.set _ _).get _ = some r at hr
    rw [JsMap.get_set] at hr
    split at hr
    · -- the create that settles is parked with another id
      cases hr
      rintro rfl
      exact absurd stands (buried.1.2.2 c _)
    · exact buried.2 k r hr
  | ticketTaken =>
    rw [takeTicket_sessions] at hr
    exact buried.2 k r hr
  | tokenTaken =>
    rw [takeToken_sessions] at hr
    exact buried.2 k r hr
  | rotated ok =>
    obtain ⟨cr, -, rfl, -⟩ := rotate_ok ok
    exact buried.2 k r hr
  | burning => exact written _ _ (burningRecord _) (revoke_sessions _ _) (by simp [burningRecord]) k r hr
  | removed =>
    rw [JsMap.get_delete] at hr
    split at hr
    · cases hr
    · exact buried.2 k r hr
  | restored => exact written _ _ (uncleanRecord _) rfl (by simp [uncleanRecord]) k r hr
  | lost => exact written _ _ (failedRecord _ _) (revoke_sessions _ _) (by simp [failedRecord]) k r hr

/-- A revoked session has no active record. -/
def RevokedBuried (s : State) : Prop := ∀ id, .revoked id ∈ s.history → Buried s id

theorem revokedBuried_step (wf : Wf cfg s) (wf' : Wf cfg t) (one : OneKey t)
    (fresh : FreshId s e) (h : step cfg s e = some t) (buried : RevokedBuried s) :
    RevokedBuried t := by
  intro id revoked
  rcases revoked_step h revoked with before | ⟨-, k, r, r', kept, rfl, stored, left⟩
  · exact buried_step fresh h (buried id before)
  · refine ⟨spent_step fresh h (kept_under wf kept).spent, ?_⟩
    intro k' r₁ stored' same
    have under := wf'.stored k r' stored
    have moved : RecordUnder cfg t k r := (kept_under wf kept).step fresh h
    -- both records are of the revoked session, so they are one
    have here : k' = k := one k' k r₁ r' (.inl stored') (.inl stored)
      (same.trans (moved.same under).2)
    subst here
    cases stored.symm.trans stored'
    exact left

end

theorem reachable_buried {cfg : Config} {allowed : State → Event → Prop} {s : State}
    (fresh : ∀ s e, allowed s e → FreshId s e) (h : (machine cfg).Reachable allowed s) :
    RevokedBuried s := by
  refine h.invariant (by intro id revoked; simp [machine, State.initial] at revoked) ?_
  intro s e t hr buried ha hs
  have hr' := hr.step ha hs
  exact revokedBuried_step (reachable_wf fresh hr) (reachable_wf fresh hr')
    (reachable_oneKey fresh hr') (fresh s e ha) hs buried

/-! ## Authorizations under way -/

/-- The answer of call `c`. -/
def outcomeOf (c : Nat) (history : List Entry) : Option Outcome :=
  history.findSome? fun
    | .answered c' outcome => if c' = c then some outcome else none
    | _ => none

/-- The session that call `c` has authorized, or is about to: once it has seen the
runtime, `authorizeSignalingToken` looks at nothing that could change. -/
def granted (s : State) (c : Nat) : Option String :=
  match s.calls.get c with
  | some (.observed (.ok record) (.authorize _ _)) =>
    if record.phase = .active then some record.id else none
  | _ => match outcomeOf c s.history with
    | some (.authorized authorization) => some authorization.sessionId
    | _ => none

theorem outcomeOf_mem {c : Nat} {history : List Entry} {outcome : Outcome}
    (h : outcomeOf c history = some outcome) : .answered c outcome ∈ history := by
  obtain ⟨entry, hm, he⟩ := List.exists_of_findSome?_eq_some h
  split at he
  · split at he
    · rename_i same
      subst same
      cases he
      exact hm
    · cases he
  · cases he

theorem granted_cases {s : State} {c : Nat} {id : String} (h : granted s c = some id) :
    (∃ r token k, s.calls.get c = some (.observed (.ok r) (.authorize token k)) ∧
      r.phase = .active ∧ r.id = id) ∨
    ∃ a, outcomeOf c s.history = some (.authorized a) ∧ a.sessionId = id := by
  unfold granted at h
  split at h
  · rename_i r token k hc
    split at h
    · rename_i active
      cases h
      exact .inl ⟨r, token, k, hc, active, rfl⟩
    · cases h
  · split at h
    · rename_i a answered
      exact .inr ⟨a, answered, Option.some.inj h⟩
    · cases h

theorem granted_parked {s : State} {c : Nat} {r : SessionRecord} {token k : String}
    (hc : s.calls.get c = some (.observed (.ok r) (.authorize token k)))
    (active : r.phase = .active) : granted s c = some r.id := by
  simp only [granted, hc, active, if_true]

/-- An answered call is not parked, so the answer is what counts. -/
theorem granted_answered {s : State} (tr : Traced s) {c : Nat} {a : SignalingAuthorization}
    (h : outcomeOf c s.history = some (.authorized a)) : granted s c = some a.sessionId := by
  have done := (tr.answered c _ (outcomeOf_mem h)).1
  simp only [granted, done, h]

/-- No call is granted anything before it is made. -/
theorem granted_numbered {s : State} (numbered : Numbered s) (tr : Traced s) {c : Nat} {id : String}
    (h : granted s c = some id) : c < s.nextCall := by
  rcases granted_cases h with ⟨r, token, k, hc, -, -⟩ | ⟨a, answered, -⟩
  · exact numbered c _ hc
  · obtain ⟨-, call, called⟩ := tr.answered c _ (outcomeOf_mem answered)
    exact tr.numbered c call called

section
variable {cfg : Config} {s t : State} {e : Event}

/-- A call that is parked with an active record has seen the stored one. -/
theorem observed_step (h : step cfg s e = some t) {c : Nat} {r : SessionRecord} {caller : Caller}
    (hc : t.calls.get c = some (.observed (.ok r) caller)) (active : r.phase = .active) :
    s.calls.get c = some (.observed (.ok r) caller) ∨ ∃ k, t.store.sessions.get k = some r := by
  cases e with
  | call call d =>
    obtain ⟨new, store, es, -, eq⟩ := makeCall_transition cfg s call d
    have made : makeCall cfg s call d = t := by simpa only [step, Option.some.injEq] using h
    by_cases here : s.nextCall = c
    · subst here
      rw [← made] at hc
      rcases makeCall_parked hc with ⟨_, -, parked⟩ | ⟨k, r', caller', -, -, parked, -⟩ |
        ⟨_, _, _, _, -, parked⟩ | ⟨_, _, _, -, parked⟩
      · cases parked
      · rcases parked with ⟨parked, left⟩ | parked
        · cases parked
          exact absurd active left
        · cases parked
      · cases parked
      · cases parked
    · rw [← made, eq, advance_calls, if_neg here] at hc
      exact .inl hc
  | settle c' reply d =>
    obtain ⟨p, hp, hs⟩ := Option.bind_eq_some_iff.mp h
    by_cases here : c' = c
    · subst here
      obtain ⟨k, r₀, caller', result, -, parked, source⟩ := settle_parked hs hc
      cases parked
      rcases source r rfl with ⟨stored, same⟩ | ⟨-, -, failed, -⟩
      · exact .inr ⟨k, by rw [same]; exact stored⟩
      · cases active.symm.trans failed
    · obtain ⟨new, store, es, -, rfl⟩ := settle_transition hs
      rw [advance_calls, if_neg here] at hc
      exact .inl hc
  | resume c' d =>
    obtain ⟨p, hp, hs⟩ := Option.bind_eq_some_iff.mp h
    by_cases here : c' = c
    · subst here
      rcases resume_parked hs hc with ⟨_, _, _, -, parked, -⟩ | ⟨_, _, -, parked⟩ <;> cases parked
    · obtain ⟨new, store, es, -, rfl⟩ := resume_transition hs
      rw [advance_calls, if_neg here] at hc
      exact .inl hc

/-- A session without an active record is granted to no further call. -/
theorem granted_step (tr : Traced s) (h : step cfg s e = some t) {c : Nat} {id : String}
    (buried : Buried t id) (now : granted t c = some id) : granted s c = some id := by
  rcases granted_cases now with ⟨r, token, k, hc, active, rfl⟩ | ⟨a, answered, rfl⟩
  · rcases observed_step h hc active with before | ⟨k', stored⟩
    · exact granted_parked before active
    · exact absurd active (buried.2 k' r stored rfl)
  · obtain ⟨c', old, new, store, es, stands, ht, rfl⟩ := step_transition h
    rw [advance_history, outcomeOf, List.findSome?_append] at answered
    rcases Option.or_eq_some_iff.mp answered with here | ⟨-, before⟩
    · obtain ⟨rfl, record, token, k, rfl, active, session, -⟩ :=
        transition_authorizes ht (outcomeOf_mem here)
      rw [session]
      exact granted_parked stands active
    · exact granted_answered tr before

end

end Fireball.Session
