import Fireball.Session.Lifecycle
import Fireball.Session.Trace

/-!
# Runtime resources

A ledger beside the service lists the resources that `runtime.create` returned and
those that `runtime.destroy` removed. No code reads it.

* `record_step`, `resource_step`: the records and resources that a call goes on
  with come from the session map or from an earlier await of the same call;
* `Owned`: every record stands for one creation, and every creation that was not
  destroyed has its record;
* `no_orphan`: what follows in every state.
-/

namespace Fireball.Session

open Foundation

/-- A resource that `runtime.create` returned, with the session it was created for. -/
structure Creation where
  tenantId : String
  sessionId : String
  resource : RuntimeResource
  deriving DecidableEq, Repr

def Creation.key (g : Creation) : String := Session.key g.tenantId g.sessionId

/-- The creation that a record stands for. -/
def SessionRecord.creation (r : SessionRecord) : Creation := ⟨r.tenantId, r.id, r.runtime⟩

/-- `destroyed` names the key whose burn saw `runtime.destroy` succeed. -/
structure Ledger where
  created : List Creation
  destroyed : List (String × RuntimeResource)

def Ledger.empty : Ledger := ⟨[], []⟩

def Ledger.note (s : State) (e : Event) (_ : State) (ledger : Ledger) : Ledger :=
  match e with
  | .settle c (.created (.ok runtime)) _ => match s.calls.get c with
    | some (.creating id tenantId) =>
      { ledger with created := ⟨tenantId, id, runtime⟩ :: ledger.created }
    | _ => ledger
  | .settle c (.destroyed (.ok ())) _ => match s.calls.get c with
    | some (.destroying k record) =>
      { ledger with destroyed := (k, record.runtime) :: ledger.destroyed }
    | _ => ledger
  | _ => ledger

/-- The service beside its ledger. -/
def ledgered (cfg : Config) : Machine (State × Ledger) Event :=
  (machine cfg).watched .empty Ledger.note

/-! ## What a parked call goes on with -/

def Pending.record : Pending → Option SessionRecord
  | .inspecting _ r _ => some r
  | .observed (.ok r) _ => some r
  | .destroying _ r => some r
  | _ => none

def Pending.resource : Pending → Option RuntimeResource
  | .activated (.ok resource) _ => some resource
  | .tabbing resource _ => some resource
  | _ => none

/-- The session key that a call names. -/
def Call.sessionKey : Call → Option String
  | .get context id => some (key context.tenantId id)
  | .issueSignalingTicket context id => some (key context.tenantId id)
  | .tab context id _ => some (key context.tenantId id)
  | .burn context id => some (key context.tenantId id)
  | _ => none

/-- The resource that a runtime call is made with. -/
def RuntimeRequest.resource : RuntimeRequest → Option RuntimeResource
  | .create _ => none
  | .inspect resource => some resource
  | .destroy resource => some resource
  | .tab resource _ => some resource

theorem Caller.Continues.sessionKey {k k' : String} {caller : Caller} {call : Call}
    (goes : caller.Continues k call) (named : call.sessionKey = some k') : k = k' := by
  cases caller with
  | get | activeRuntime =>
    obtain ⟨context, id, rfl, rfl⟩ := goes
    exact Option.some.inj named
  | issueSignalingTicket =>
    obtain ⟨-, context, id, rfl, rfl⟩ := goes
    exact Option.some.inj named
  | exchange | authorize =>
    obtain ⟨-, rfl⟩ := goes
    cases named

section
variable {cfg : Config} {s t : State} {e : Event}

/-- A call that did not move stays parked as it was. -/
theorem parked_elsewhere {c c' : Nat} {old new : Option Pending} {store : Store} {es : List Entry}
    (hne : c' ≠ c) {p : Pending} (h : (s.advance c' old new store es).calls.get c = some p) :
    s.calls.get c = some p := by
  rwa [advance_calls, if_neg hne] at h

theorem record_step (h : step cfg s e = some t) {c : Nat} {p : Pending} {r : SessionRecord}
    (hc : t.calls.get c = some p) (hr : p.record = some r) :
    (∃ k, s.store.sessions.get k = some r) ∨
    ∃ q r', s.calls.get c = some q ∧ q.record = some r' ∧ r.creation = r'.creation := by
  have kept : s.calls.get c = some p → ∃ q r', s.calls.get c = some q ∧ q.record = some r' ∧
      r.creation = r'.creation := fun before => ⟨p, r, before, hr, rfl⟩
  cases e with
  | call call d =>
    obtain ⟨new, store, es, -, eq⟩ := makeCall_transition cfg s call d
    have made : makeCall cfg s call d = t := by simpa only [step, Option.some.injEq] using h
    by_cases here : s.nextCall = c
    · subst here
      rw [← made] at hc
      left
      rcases makeCall_parked hc with ⟨_, -, rfl⟩ | ⟨k, r', caller, stored, -, parked, -⟩ |
        ⟨_, _, _, _, -, rfl⟩ | ⟨context, id, r', rfl, rfl⟩
      · cases hr
      · rcases parked with ⟨rfl, -⟩ | rfl <;> cases hr <;> exact ⟨k, stored⟩
      · cases hr
      · obtain ⟨new', store', es', ht, eq'⟩ :=
          makeCall_transition cfg s (.burn context id) d
        have parked : new' = some (.destroying (key context.tenantId id) r') := by
          rwa [eq', advance_calls, if_pos rfl] at hc
        cases hr
        exact ⟨_, held_advance ht parked rfl⟩
    · rw [← made, eq] at hc
      exact .inr (kept (parked_elsewhere here hc))
  | settle c' reply d =>
    obtain ⟨q, hq, hs⟩ := Option.bind_eq_some_iff.mp h
    by_cases here : c' = c
    · subst here
      obtain ⟨k, r', caller, result, rfl, rfl, source⟩ := settle_parked hs hc
      cases result with
      | error e => cases hr
      | ok observed =>
        cases hr
        rcases source r rfl with ⟨stored, -⟩ | ⟨id, tenant, -, runtime⟩
        · exact .inl ⟨k, stored⟩
        · exact .inr ⟨_, r', hq, rfl, by simp only [SessionRecord.creation, id, tenant, runtime]⟩
    · obtain ⟨new, store, es, -, rfl⟩ := settle_transition hs
      exact .inr (kept (parked_elsewhere here hc))
  | resume c' d =>
    obtain ⟨q, hq, hs⟩ := Option.bind_eq_some_iff.mp h
    by_cases here : c' = c
    · subst here
      rcases resume_parked hs hc with ⟨_, _, _, -, rfl, -⟩ | ⟨_, _, -, rfl⟩
      · cases hr
      · cases hr
    · obtain ⟨new, store, es, -, rfl⟩ := resume_transition hs
      exact .inr (kept (parked_elsewhere here hc))

/-- A tab method has its resource from the record that it observed. -/
theorem resource_step (h : step cfg s e = some t) {c : Nat} {p : Pending}
    {resource : RuntimeResource} (hc : t.calls.get c = some p) (hr : p.resource = some resource) :
    (∃ q, s.calls.get c = some q ∧ q.resource = some resource) ∨
    ∃ r operation, s.calls.get c = some (.observed (.ok r) (.activeRuntime operation)) ∧
      r.runtime = resource := by
  cases e with
  | call call d =>
    obtain ⟨new, store, es, -, eq⟩ := makeCall_transition cfg s call d
    have made : makeCall cfg s call d = t := by simpa only [step, Option.some.injEq] using h
    by_cases here : s.nextCall = c
    · subst here
      rw [← made] at hc
      rcases makeCall_parked hc with ⟨_, -, rfl⟩ | ⟨_, _, _, -, -, ⟨rfl, -⟩ | rfl, -⟩ |
        ⟨_, _, _, _, -, rfl⟩ | ⟨_, _, _, -, rfl⟩ <;> cases hr
    · rw [← made, eq] at hc
      exact .inl ⟨p, parked_elsewhere here hc, hr⟩
  | settle c' reply d =>
    obtain ⟨q, hq, hs⟩ := Option.bind_eq_some_iff.mp h
    by_cases here : c' = c
    · subst here
      obtain ⟨_, _, _, _, -, rfl, -⟩ := settle_parked hs hc
      cases hr
    · obtain ⟨new, store, es, -, rfl⟩ := settle_transition hs
      exact .inl ⟨p, parked_elsewhere here hc, hr⟩
  | resume c' d =>
    obtain ⟨q, hq, hs⟩ := Option.bind_eq_some_iff.mp h
    by_cases here : c' = c
    · subst here
      rcases resume_parked hs hc with ⟨observed, operation, result, rfl, rfl, from'⟩ |
        ⟨resource', operation, rfl, rfl⟩
      · cases result with
        | error e => cases hr
        | ok resource' =>
          cases hr
          obtain ⟨r, rfl, runtime⟩ := from' resource rfl
          exact .inr ⟨r, operation, hq, runtime⟩
      · exact .inl ⟨_, hq, hr⟩
    · obtain ⟨new, store, es, -, rfl⟩ := resume_transition hs
      exact .inl ⟨p, parked_elsewhere here hc, hr⟩

/-- A runtime call is made by the call that is then parked on its promise. -/
theorem requested_step (h : step cfg s e = some t) {c : Nat} {request : RuntimeRequest}
    (made : .requested c request ∈ t.history) (other : request.resource.isSome = true) :
    .requested c request ∈ s.history ∨ ∃ p, t.calls.get c = some p ∧ p.asks = some request := by
  obtain ⟨c', old, new, store, es, -, ht, rfl⟩ := step_transition h
  have quiet : ∀ {es}, QuietEntries c' new es → .requested c request ∈ es →
      c' = c ∧ ∃ p, new = some p ∧ p.asks = some request := by
    intro es he hm
    cases he with
    | still => cases hm
    | done => simp at hm
    | asked p asks =>
      cases List.mem_singleton.mp hm
      exact ⟨rfl, p, rfl, asks⟩
  rcases List.mem_append.mp made with now | before
  · right
    simp only [advance_calls]
    cases ht with
    | moved _ _ he =>
      obtain ⟨rfl, p, rfl, asks⟩ := quiet he now
      exact ⟨p, if_pos rfl, asks⟩
    | begun _ _ he | ticketTaken _ _ he | tokenTaken _ _ he =>
      rcases List.mem_append.mp now with now | now
      · obtain ⟨rfl, p, rfl, asks⟩ := quiet he now
        exact ⟨p, if_pos rfl, asks⟩
      · cases List.mem_singleton.mp now
    | reserved =>
      simp only [List.mem_cons, Entry.requested.injEq, reduceCtorEq, List.not_mem_nil, or_false,
        or_self] at now
      rw [now.2] at other
      cases other
    | burning =>
      simp only [List.mem_cons, Entry.requested.injEq, reduceCtorEq, List.not_mem_nil, or_false,
        or_self] at now
      obtain ⟨rfl, rfl⟩ := now
      exact ⟨_, if_pos rfl, rfl⟩
    | _ => simp at now
  · exact .inl before

/-- A stored record stays, or is replaced by a copy of one that belongs there, unless a
burn of its key has seen its runtime destroyed. -/
theorem stored_runtime_step (wf : Wf cfg s) (h : step cfg s e = some t) {k : String} {r : SessionRecord}
    (hr : s.store.sessions.get k = some r)
    (same : ∀ c p r', s.calls.get c = some p → p.holds = some (k, r') → r'.runtime = r.runtime) :
    (∃ r', t.store.sessions.get k = some r' ∧ r'.runtime = r.runtime) ∨
    ∃ c r' d, e = .settle c (.destroyed (.ok ())) d ∧ s.calls.get c = some (.destroying k r') := by
  obtain ⟨c, old, new, store, es, stands, ht, rfl⟩ := step_transition h
  -- one write of a copy of a record with the same runtime
  have written : ∀ (base : Store) k' r', base.sessions = s.store.sessions →
      (k' = k → r'.runtime = r.runtime) →
      ∃ r'', (base.putRecord k' r').sessions.get k = some r'' ∧ r''.runtime = r.runtime := by
    intro base k' r' hb runtime
    rw [putRecord_sessions, JsMap.get_set]
    split
    · rename_i here
      exact ⟨_, rfl, runtime here⟩
    · rw [hb]
      exact ⟨r, hr, rfl⟩
  rw [advance_store]
  cases ht with
  | moved | begun | authorized | released | minted => exact .inl ⟨r, hr, rfl⟩
  | reserved _ ok => rw [(reserve_ok ok).2.2.2.2.2]; exact .inl ⟨r, hr, rfl⟩
  | created _ ok =>
    obtain ⟨cr, -, rfl, -⟩ := rotate_ok ok
    have under := wf.stored k r hr
    refine .inl ⟨r, ?_, rfl⟩
    change (s.store.sessions.set _ _).get k = some r
    rw [under.under] at hr ⊢
    rw [JsMap.get_set_ne (created_key_ne wf stands under.spent), hr]
  | ticketTaken => rw [takeTicket_sessions]; exact .inl ⟨r, hr, rfl⟩
  | tokenTaken => rw [takeToken_sessions]; exact .inl ⟨r, hr, rfl⟩
  | rotated ok =>
    obtain ⟨cr, -, rfl, -⟩ := rotate_ok ok
    exact .inl ⟨r, hr, rfl⟩
  | burning _ hb =>
    refine .inl (written _ _ _ (revoke_sessions _ _) ?_)
    rintro rfl
    cases hb.symm.trans hr
    rfl
  | removed ev =>
    rename_i k' record
    by_cases here : k' = k
    · exact .inr ⟨c, record, e.draw, ev, here ▸ stands⟩
    · exact .inl ⟨r, by rw [JsMap.get_delete_ne here]; exact hr, rfl⟩
  | restored =>
    refine .inl (written _ _ (uncleanRecord _) rfl ?_)
    rintro rfl
    have held := same c _ _ stands rfl
    exact held
  | lost =>
    refine .inl (written _ _ (failedRecord _ _) (revoke_sessions _ _) ?_)
    rintro rfl
    have held := same c _ _ stands rfl
    exact held

end

/-! ## The invariant -/

section
variable {s t : State} {e : Event} {ledger : Ledger}

theorem created_kept {g : Creation} (h : g ∈ ledger.created) :
    g ∈ (Ledger.note s e t ledger).created := by
  unfold Ledger.note
  split
  · split
    · exact List.mem_cons_of_mem _ h
    · exact h
  · split <;> exact h
  · exact h

theorem destroyed_kept {x : String × RuntimeResource} (h : x ∈ ledger.destroyed) :
    x ∈ (Ledger.note s e t ledger).destroyed := by
  unfold Ledger.note
  split
  · split <;> exact h
  · split
    · exact List.mem_cons_of_mem _ h
    · exact h
  · exact h

theorem created_noted {c : Nat} {id tenantId : String} {runtime : RuntimeResource}
    (hc : s.calls.get c = some (.creating id tenantId))
    (ev : e = .settle c (.created (.ok runtime)) e.draw) :
    ⟨tenantId, id, runtime⟩ ∈ (Ledger.note s e t ledger).created := by
  rw [ev]
  simp only [Ledger.note, hc, List.mem_cons, true_or]

theorem noted_created {g : Creation} (h : g ∈ (Ledger.note s e t ledger).created) :
    g ∈ ledger.created ∨ ∃ c d, e = .settle c (.created (.ok g.resource)) d ∧
      s.calls.get c = some (.creating g.sessionId g.tenantId) := by
  unfold Ledger.note at h
  split at h
  · rename_i c runtime d
    split at h
    · rename_i id tenantId hc
      rcases List.mem_cons.mp h with rfl | before
      · exact .inr ⟨c, d, rfl, hc⟩
      · exact .inl before
    · exact .inl h
  · split at h <;> exact .inl h
  · exact .inl h

end

/-- The creation's resource is that of the record under its session's key. -/
def Creation.Referenced (g : Creation) (s : State) : Prop :=
  ∃ r, s.store.sessions.get g.key = some r ∧ r.runtime = g.resource

structure Owned (s : State) (ledger : Ledger) : Prop where
  stored : ∀ k r, s.store.sessions.get k = some r → r.creation ∈ ledger.created
  parked : ∀ c p r, s.calls.get c = some p → p.record = some r → r.creation ∈ ledger.created
  finished : ∀ g ∈ ledger.created, Spent s g.sessionId
  once : ∀ g ∈ ledger.created, ∀ g' ∈ ledger.created, g.sessionId = g'.sessionId → g = g'
  kept : ∀ g ∈ ledger.created, g.Referenced s ∨ (g.key, g.resource) ∈ ledger.destroyed
  used : ∀ c p resource, s.calls.get c = some p → p.resource = some resource →
    ∃ call, .called c call ∈ s.history ∧
      ∃ g ∈ ledger.created, call.sessionKey = some g.key ∧ g.resource = resource
  requested : ∀ c request resource, .requested c request ∈ s.history →
    request.resource = some resource → ∃ call, .called c call ∈ s.history ∧
      (request = .destroy resource → ∃ context id, call = .burn context id) ∧
      ∃ g ∈ ledger.created, g.resource = resource ∧ ∀ k, call.sessionKey = some k → g.key = k

theorem owned_initial : Owned State.initial .empty where
  stored := by intro k r h; simp [State.initial, Store.empty] at h
  parked := by intro c p r h; simp [State.initial] at h
  finished := by intro g h; simp [Ledger.empty] at h
  once := by intro g h; simp [Ledger.empty] at h
  kept := by intro g h; simp [Ledger.empty] at h
  used := by intro c p resource h; simp [State.initial] at h
  requested := by intro c request resource h; simp [State.initial] at h

section
variable {cfg : Config} {s t : State} {e : Event} {ledger : Ledger}

/-- The records of one session share its runtime. -/
theorem Owned.runtime (own : Owned s ledger) {r r' : SessionRecord}
    (hr : r.creation ∈ ledger.created) (hr' : r'.creation ∈ ledger.created) (same : r'.id = r.id) :
    r'.runtime = r.runtime :=
  congrArg Creation.resource (own.once _ hr' _ hr same)

/-- A parked create has an id that nothing was created with. -/
theorem Owned.unspent (own : Owned s ledger) {c : Nat} {id tenantId : String}
    (hc : s.calls.get c = some (.creating id tenantId)) {g : Creation} (hg : g ∈ ledger.created) :
    g.sessionId ≠ id := by
  rintro rfl
  exact (own.finished g hg).2.2 c tenantId hc

theorem owned_stored (h : step cfg s e = some t) (own : Owned s ledger) {k : String}
    {r : SessionRecord} (hr : t.store.sessions.get k = some r) :
    r.creation ∈ (Ledger.note s e t ledger).created := by
  obtain ⟨c, old, new, store, es, stands, ht, rfl⟩ := step_transition h
  rcases sessions_advance ht hr with before | ⟨r', source, id, tenant, -, runtime⟩ |
    ⟨id, tenantId, rfl, ev, -, rfl, rfl, -⟩
  · exact created_kept (own.stored k r before)
  · have copy : r.creation = r'.creation := by
      simp only [SessionRecord.creation, id, tenant, runtime]
    rw [copy]
    rcases source with stored | ⟨p, rfl, holds⟩
    · exact created_kept (own.stored k r' stored)
    · refine created_kept (own.parked c p r' stands ?_)
      cases p <;> cases holds <;> rfl
  · exact created_noted stands ev

theorem owned_kept (wf : Wf cfg s) (h : step cfg s e = some t) (own : Owned s ledger) {g : Creation}
    (hg : g ∈ (Ledger.note s e t ledger).created) :
    g.Referenced t ∨ (g.key, g.resource) ∈ (Ledger.note s e t ledger).destroyed := by
  rcases noted_created hg with before | ⟨c, d, rfl, hc⟩
  · rcases own.kept g before with ⟨r, hr, runtime⟩ | destroyed
    · have under := wf.stored g.key r hr
      have owned := own.stored g.key r hr
      have same : ∀ c p r', s.calls.get c = some p → p.holds = some (g.key, r') →
          r'.runtime = r.runtime := by
        intro c p r' hc holds
        refine own.runtime owned (own.parked c p r' hc ?_) ?_
        · cases p <;> cases holds <;> rfl
        · exact ((wf.held c p g.key r' hc holds).same under).2
      rcases stored_runtime_step wf h hr same with ⟨r', hr', runtime'⟩ | ⟨c, r', d, rfl, hc⟩
      · exact .inl ⟨r', hr', runtime'.trans runtime⟩
      · right
        simp only [Ledger.note, hc, same c _ r' hc rfl, runtime, List.mem_cons, true_or]
    · exact .inr (destroyed_kept destroyed)
  · left
    simp only [step, hc, Option.bind_some, settle, Option.some.injEq] at h
    subst h
    obtain ⟨⟨store, ticket⟩, ok⟩ :=
      rotate_insertCreated cfg s.store g.key g.sessionId g.tenantId g.resource d
    simp only [runtimeCreated, Creation.key] at ok ⊢
    simp only [ok]
    obtain ⟨cr, -, rfl, -⟩ := rotate_ok ok
    exact ⟨_, JsMap.get_set_self, rfl⟩

theorem owned_step (fresh : FreshId s e) (wf : Wf cfg s) (tr : Traced s)
    (h : step cfg s e = some t) (own : Owned s ledger) : Owned t (Ledger.note s e t ledger) := by
  have tr' : Traced t := traced_step h wf tr
  have wf' : Wf cfg t := wf_step fresh h wf
  have older : ∀ x ∈ s.history, x ∈ t.history := by
    obtain ⟨c, old, new, store, es, -, -, rfl⟩ := step_transition h
    exact fun x hx => List.mem_append_right _ hx
  have parked : ∀ c p r, t.calls.get c = some p → p.record = some r →
      r.creation ∈ (Ledger.note s e t ledger).created := by
    intro c p r hc hr
    rcases record_step h hc hr with ⟨k, stored⟩ | ⟨q, r', hq, hr', copy⟩
    · exact created_kept (own.stored k r stored)
    · rw [copy]
      exact created_kept (own.parked c q r' hq hr')
  have used : ∀ c p resource, t.calls.get c = some p → p.resource = some resource →
      ∃ call, .called c call ∈ t.history ∧ ∃ g ∈ (Ledger.note s e t ledger).created,
        call.sessionKey = some g.key ∧ g.resource = resource := by
    intro c p resource hc hr
    rcases resource_step h hc hr with ⟨q, hq, hqr⟩ | ⟨r, operation, hq, runtime⟩
    · obtain ⟨call, called, g, hg, named, same⟩ := own.used c q resource hq hqr
      exact ⟨call, older _ called, g, created_kept hg, named, same⟩
    · obtain ⟨call, called, k, ⟨context, id, rfl, here⟩, under⟩ := tr.parked c _ hq
      refine ⟨_, older _ called, r.creation, created_kept (own.parked c _ r hq rfl), ?_, runtime⟩
      simp only [Call.sessionKey, ← here, under r rfl]
      rfl
  refine ⟨fun k r hr => owned_stored h own hr, parked, ?finished, ?once,
    fun g hg => owned_kept wf h own hg, used, ?requested⟩
  case finished =>
    intro g hg
    rcases noted_created hg with before | ⟨c, d, rfl, hc⟩
    · exact spent_step fresh h (own.finished g before)
    · obtain ⟨new, store, es, ht, rfl⟩ :=
        settle_transition (p := .creating g.sessionId g.tenantId)
          (by simpa only [step, hc, Option.bind_some] using h)
      have done : new = none := by
        rcases reservations_advance ht with ⟨_, ho, -⟩ | ⟨_, _, -, hn, -⟩ | ⟨ho, -⟩
        · cases ho
        · exact hn
        · exact absurd rfl (ho _ _)
      subst done
      exact spent_of_created wf ht hc
  case once =>
    intro g hg g' hg' same
    rcases noted_created hg with before | ⟨c, d, rfl, hc⟩ <;>
      rcases noted_created hg' with before' | ⟨c', d', ev, hc'⟩
    · exact own.once g before g' before' same
    · exact absurd same (own.unspent hc' before)
    · exact absurd same.symm (own.unspent hc before')
    · simp only [Event.settle.injEq, RuntimeReply.created.injEq, Except.ok.injEq] at ev
      obtain ⟨rfl, resource, -⟩ := ev
      rw [hc, Option.some.injEq, Pending.creating.injEq] at hc'
      cases g
      cases g'
      simp_all
  case requested =>
    intro c request resource made hr
    rcases requested_step h made (by rw [hr]; rfl) with before | ⟨p, hp, asks⟩
    · obtain ⟨call, called, burn, g, hg, same, named⟩ := own.requested c request resource before hr
      exact ⟨call, older _ called, burn, g, created_kept hg, same, named⟩
    · cases p with
      | tabbing =>
        cases asks
        cases hr
        obtain ⟨call, called, g, hg, named, same⟩ := used c _ resource hp rfl
        refine ⟨call, called, by simp, g, hg, same, fun k hk => ?_⟩
        exact Option.some.inj (named.symm.trans hk)
      | inspecting k r caller =>
        cases asks
        cases hr
        obtain ⟨call, called, goes⟩ := tr'.parked c _ hp
        refine ⟨call, called, by simp, r.creation, parked c _ r hp rfl, rfl, fun k' hk => ?_⟩
        have under := (wf'.held c _ k r hp rfl).under
        rw [← goes.sessionKey hk]
        exact under.symm
      | destroying k r =>
        cases asks
        cases hr
        obtain ⟨call, called, context, id, rfl, rfl⟩ := tr'.parked c _ hp
        refine ⟨_, called, fun _ => ⟨context, id, rfl⟩, r.creation, parked c _ r hp rfl, rfl,
          fun k' hk => ?_⟩
        have under := (wf'.held c _ _ r hp rfl).under
        cases hk
        exact under.symm
      | _ => cases asks

end

theorem reachable_owned {cfg : Config} {allowed : State → Event → Prop} {s : State × Ledger}
    (fresh : ∀ s e, allowed s e → FreshId s e)
    (reached : (ledgered cfg).Reachable (Machine.unwatched allowed) s) : Owned s.1 s.2 := by
  refine reached.invariant (I := fun s => Owned s.1 s.2) owned_initial ?_
  intro s e t hr own ha hs
  obtain ⟨next, noted⟩ := Machine.watched_step.mp hs
  rw [noted]
  have before := Machine.Reaches.unwatch hr
  exact owned_step (fresh _ _ ha) (reachable_wf fresh before) (reachable_traced fresh before)
    next own

/-- **No runtime is orphaned.** A resource that a create received is that of the
record under its session's key until a `runtime.destroy` for that key has
succeeded, and every `runtime.destroy` is called with the one resource that was
created for the session being burned. -/
theorem no_orphan (cfg : Config) {s : State} {ledger : Ledger}
    (reached : (ledgered cfg).Reachable (Machine.unwatched FreshId) (s, ledger)) :
    (∀ g ∈ ledger.created, g.Referenced s ∨ (g.key, g.resource) ∈ ledger.destroyed) ∧
    (∀ c resource, .requested c (.destroy resource) ∈ s.history →
      ∃ context id, .called c (.burn context id) ∈ s.history ∧
        ∃ g ∈ ledger.created, g.key = key context.tenantId id ∧ g.resource = resource) ∧
    ∀ g ∈ ledger.created, ∀ g' ∈ ledger.created, g.key = g'.key → g = g' := by
  have own := reachable_owned (fun _ _ h => h) reached
  refine ⟨own.kept, fun c resource made => ?_, fun g hg g' hg' same => ?_⟩
  · obtain ⟨call, called, burn, g, hg, used, named⟩ := own.requested c _ resource made rfl
    obtain ⟨context, id, rfl⟩ := burn rfl
    exact ⟨context, id, called, g, hg, named _ rfl, used⟩
  · have shaped := (own.finished g hg).1
    have shaped' := (own.finished g' hg').1
    exact own.once g hg g' hg' (key_inj shaped shaped' same).2

/-- A session whose first burn fails, and which is then burned again. -/
def burnedAgain : List Event :=
  [.call (.create alpha) (draw 0 0 ""), .settle 0 (.created (.ok sampleRuntime)) (draw 1 0 ""),
    .call (.burn alpha (sampleId 0)) (draw 1 0 ""),
    .settle 1 (.destroyed (.error (.other "timeout"))) (draw 1 0 ""),
    .call (.burn alpha (sampleId 0)) (draw 1 0 "")]

theorem no_orphan_burned_again : ∃ s ledger,
    (ledgered sampleConfig).Reachable (Machine.unwatched FreshId) (s, ledger) ∧
    Creation.Referenced ⟨"alpha", sampleId 0, sampleRuntime⟩ s ∧
    ∃ context id, .called 2 (.burn context id) ∈ s.history ∧
      ∃ g ∈ ledger.created, g.key = key context.tenantId id ∧ g.resource = sampleRuntime := by
  have reached : (ledgered sampleConfig).Reachable (Machine.unwatched FreshId)
      (((ledgered sampleConfig).runFrom (State.initial, .empty) burnedAgain).get (by decide)) :=
    Machine.reaches_end (by decide) _
  obtain ⟨kept, destroys, -⟩ := no_orphan sampleConfig reached
  exact ⟨_, _, reached,
    (kept ⟨"alpha", sampleId 0, sampleRuntime⟩ (by decide)).resolve_right (by decide),
    destroys 2 sampleRuntime (by decide)⟩

end Fireball.Session
