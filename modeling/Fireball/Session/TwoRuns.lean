import Fireball.Session.Isolation

/-!
# Two runs of a tenant's calls

Two states that hold the same of tenant `A` give its calls the same answers. The
identities of `A`'s objects may differ between them: a run of the other tenants
creates objects too. What must agree is which of `A`'s records are one object.

* `SameFor`: the relation between the two states;
* `acting_alike`: one step of a call of `A` keeps it and adds the same entries;
* `tenant_isolation`: the whole of isolation.
-/

namespace Fireball.Session

open Foundation

/-! ## What two states share -/

/-- The record without its identity. -/
def SessionRecord.plain (r : SessionRecord) : SessionRecord := { r with ref := 0 }

def SessionCredentials.plain (credentials : SessionCredentials) : SessionCredentials :=
  { credentials with ref := 0 }

def Pending.plain : Pending → Pending
  | .inspecting k r caller => .inspecting k r.plain caller
  | .observed (.ok r) caller => .observed (.ok r.plain) caller
  | .destroying k r => .destroying k r.plain
  | p => p

/-- The maps agree on the session keys of `A`. -/
structure SameMaps (A : String) (s t : Store) : Prop where
  sessions : ∀ id, (s.sessions.get (key A id)).map SessionRecord.plain =
    (t.sessions.get (key A id)).map SessionRecord.plain
  credentials : ∀ id, (s.credentialsBySession.get (key A id)).map SessionCredentials.plain =
    (t.credentialsBySession.get (key A id)).map SessionCredentials.plain
  tickets : ∀ hash id expiresAt, s.pairingTickets.get hash = some ⟨key A id, expiresAt⟩ ↔
    t.pairingTickets.get hash = some ⟨key A id, expiresAt⟩
  tokens : ∀ hash id expiresAt, s.signalingTokens.get hash = some ⟨key A id, expiresAt⟩ ↔
    t.signalingTokens.get hash = some ⟨key A id, expiresAt⟩

/-- The record that a call works on is the stored object in both or in neither. -/
def SameObject (s t : Store) (p q : Option Pending) : Prop :=
  ∀ k r r' caller caller' current current', p = some (.inspecting k r caller) →
    q = some (.inspecting k r' caller') → s.sessions.get k = some current →
    t.sessions.get k = some current' → (current.ref = r.ref ↔ current'.ref = r'.ref)

/-- The two states differ at most in what other tenants have. -/
structure SameFor (A : String) (s t : State) : Prop where
  nextCall : s.nextCall = t.nextCall
  called : ∀ c call, call.owner = some A →
    (.called c call ∈ s.history ↔ .called c call ∈ t.history)
  maps : SameMaps A s.store t.store
  parked : ∀ c call, call.owner = some A → .called c call ∈ s.history →
    (s.calls.get c).map Pending.plain = (t.calls.get c).map Pending.plain ∧
    SameObject s.store t.store (s.calls.get c) (t.calls.get c)

/-- The call numbers and the identities in use are below the next ones. -/
structure Counted (s : State) : Prop where
  numbered : Numbered s
  stored : ∀ k r, s.store.sessions.get k = some r → r.ref < s.store.nextRef
  held : ∀ c k r, (∃ p, s.calls.get c = some p ∧ p.holds = some (k, r)) → r.ref < s.store.nextRef

section
variable {A : String} {s t : Store}

theorem plain_get {α β : Type} {f : α → β} {a b : Option α} (h : a.map f = b.map f) :
    (a = none ∧ b = none) ∨ ∃ x y, a = some x ∧ b = some y ∧ f x = f y := by
  cases a <;> cases b
  · exact .inl ⟨rfl, rfl⟩
  · cases h
  · cases h
  · exact .inr ⟨_, _, rfl, rfl, Option.some.inj h⟩

theorem SameMaps.put (h : SameMaps A s t) (k : String) {r r' : SessionRecord}
    (same : r.plain = r'.plain) : SameMaps A (s.putRecord k r) (t.putRecord k r') := by
  refine ⟨fun id => ?_, h.credentials, h.tickets, h.tokens⟩
  simp only [putRecord_sessions, JsMap.get_set]
  split
  · exact congrArg some same
  · exact h.sessions id

theorem SameMaps.removed (h : SameMaps A s t) (k : String) :
    SameMaps A { s with sessions := s.sessions.delete k }
      { t with sessions := t.sessions.delete k } := by
  refine ⟨fun id => ?_, h.credentials, h.tickets, h.tokens⟩
  simp only [JsMap.get_delete]
  split
  · rfl
  · exact h.sessions id

theorem SameMaps.forget (h : SameMaps A s t) {credentials credentials' : SessionCredentials}
    (same : credentials.plain = credentials'.plain) :
    SameMaps A (forgetCredentials s credentials) (forgetCredentials t credentials') := by
  obtain ⟨-, ticket, tokens⟩ := SessionCredentials.mk.inj same
  refine ⟨fun id => by simpa using h.sessions id, h.credentials, fun hash id e => ?_,
    fun hash id e => ?_⟩
  · simp only [forgetCredentials, ticket]
    split
    · simp only [JsMap.get_delete]
      split
      · exact Iff.rfl
      · exact h.tickets hash id e
    · exact h.tickets hash id e
  · simp only [forgetCredentials, tokens, JsMap.get_deleteAll]
    split
    · exact Iff.rfl
    · exact h.tokens hash id e

theorem SameMaps.revoke (h : SameMaps A s t) (id : String) :
    SameMaps A (revokeCredentials s (key A id)) (revokeCredentials t (key A id)) := by
  unfold revokeCredentials
  rcases plain_get (h.credentials id) with ⟨hs, ht⟩ | ⟨cr, cr', hs, ht, same⟩
  · rw [hs, ht]
    exact h
  · rw [hs, ht]
    have forgot := h.forget same
    refine ⟨forgot.sessions, fun id' => ?_, forgot.tickets, forgot.tokens⟩
    simp only [JsMap.get_delete]
    split
    · rfl
    · exact h.credentials id'

theorem SameMaps.rotate (cfg : Config) (h : SameMaps A s t) (id : String) (d : Draw) :
    (∃ e, rotateSignalingTicket cfg s (key A id) d = .error e ∧
      rotateSignalingTicket cfg t (key A id) d = .error e) ∨
    ∃ cr cr' ticket, rotateSignalingTicket cfg s (key A id) d =
        .ok (rotatedStore cfg s (key A id) cr d, ticket) ∧
      rotateSignalingTicket cfg t (key A id) d =
        .ok (rotatedStore cfg t (key A id) cr' d, ticket) ∧
      SameMaps A (rotatedStore cfg s (key A id) cr d) (rotatedStore cfg t (key A id) cr' d) := by
  unfold rotateSignalingTicket
  rcases plain_get (h.credentials id) with ⟨hs, ht⟩ | ⟨cr, cr', hs, ht, same⟩
  · rw [hs, ht]
    exact .inl ⟨_, rfl, rfl⟩
  · rw [hs, ht]
    have forgot := h.forget same
    refine .inr ⟨cr, cr', _, rfl, rfl, h.sessions, fun id' => ?_, fun hash id' e => ?_, forgot.tokens⟩
    · simp only [rotatedStore, JsMap.get_set]
      split
      · rfl
      · exact h.credentials id'
    · simp only [rotatedStore, JsMap.get_set]
      split
      · exact Iff.rfl
      · exact forgot.tickets hash id' e

end

/-! ## Identities -/

section
variable {cfg : Config} {s t : State} {e : Event}

theorem counted_initial : Counted State.initial where
  numbered := by intro c p h; simp [State.initial] at h
  stored := by intro k r h; simp [State.initial, Store.empty] at h
  held := by rintro c k r ⟨p, h, -⟩; simp [State.initial] at h

@[simp] theorem revoke_nextRef (s : Store) (k : String) :
    (revokeCredentials s k).nextRef = s.nextRef := by
  unfold revokeCredentials
  split <;> rfl

@[simp] theorem takeTicket_nextRef (s : Store) (hash : String) :
    (takePairingTicket s hash).nextRef = s.nextRef := by
  unfold takePairingTicket
  split
  · rfl
  split
  · rfl
  split <;> rfl

@[simp] theorem takeToken_nextRef (s : Store) (hash : String) :
    (takeSignalingToken s hash).nextRef = s.nextRef := by
  unfold takeSignalingToken
  split
  · rfl
  split <;> rfl

/-- A new object gets the next identity. -/
theorem transition_counted {c : Nat} {old new : Option Pending} {store : Store} {es : List Entry}
    (ht : Transition cfg s e c old new store es) (m : Counted s) :
    s.store.nextRef ≤ store.nextRef ∧
    ∀ k r, store.sessions.get k = some r → r.ref < store.nextRef := by
  have put : ∀ {base : Store} k' (r' : SessionRecord), base.sessions = s.store.sessions →
      base.nextRef = s.store.nextRef → s.store.nextRef ≤ (base.putRecord k' r').nextRef ∧
      ∀ k r, (base.putRecord k' r').sessions.get k = some r →
        r.ref < (base.putRecord k' r').nextRef := by
    intro base k' r' hs hn
    have next : (base.putRecord k' r').nextRef = s.store.nextRef + 1 := congrArg (· + 1) hn
    rw [next]
    refine ⟨Nat.le_succ _, fun k r hr => ?_⟩
    rw [putRecord_sessions, JsMap.get_set, hs, hn] at hr
    split at hr
    · cases hr
      exact Nat.lt_succ_self _
    · exact Nat.lt_succ_of_lt (m.stored k r hr)
  have unchanged : ∀ {base : Store}, base.sessions = s.store.sessions →
      base.nextRef = s.store.nextRef → s.store.nextRef ≤ base.nextRef ∧
      ∀ k r, base.sessions.get k = some r → r.ref < base.nextRef := by
    intro base hs hn
    rw [hs, hn]
    exact ⟨Nat.le_refl _, m.stored⟩
  cases ht with
  | moved | begun | authorized => exact unchanged rfl rfl
  | reserved _ ok =>
    obtain ⟨-, -, -, -, -, rfl⟩ := reserve_ok ok
    exact unchanged rfl rfl
  | released | minted => exact unchanged rfl rfl
  | created _ ok =>
    obtain ⟨cr, -, rfl, -⟩ := rotate_ok ok
    have grows : s.store.nextRef ≤ s.store.nextRef + 2 := Nat.le_add_right _ _
    refine ⟨grows, fun k r hr => ?_⟩
    change (s.store.sessions.set _ _).get k = some r at hr
    change r.ref < s.store.nextRef + 2
    rw [JsMap.get_set] at hr
    split at hr
    · cases hr
      exact Nat.lt_add_of_pos_right (by decide)
    · exact Nat.lt_of_lt_of_le (m.stored k r hr) grows
  | ticketTaken => exact unchanged (takeTicket_sessions _ _) (takeTicket_nextRef _ _)
  | tokenTaken => exact unchanged (takeToken_sessions _ _) (takeToken_nextRef _ _)
  | rotated ok =>
    obtain ⟨cr, -, rfl, -⟩ := rotate_ok ok
    exact unchanged rfl rfl
  | burning | lost => exact put _ _ (revoke_sessions _ _) (revoke_nextRef _ _)
  | removed =>
    refine ⟨Nat.le_refl _, fun k r hr => ?_⟩
    simp only [JsMap.get_delete] at hr
    split at hr
    · cases hr
    · exact m.stored k r hr
  | restored => exact put _ _ rfl rfl

theorem counted_step (h : step cfg s e = some t) (m : Counted s) : Counted t := by
  have numbered := numbered_step m.numbered h
  obtain ⟨c, old, new, store, es, stands, ht, rfl⟩ := step_transition h
  obtain ⟨grows, stored⟩ := transition_counted ht m
  refine ⟨numbered, stored, ?_⟩
  rintro c' k r ⟨p, hp, holds⟩
  rw [advance_calls] at hp
  rw [advance_store]
  split at hp
  · exact Nat.lt_of_lt_of_le (m.stored k r (held_advance ht hp holds)) grows
  · exact Nat.lt_of_lt_of_le (m.held c' k r ⟨p, hp, holds⟩) grows

theorem reachable_counted {allowed : State → Event → Prop}
    (h : (machine cfg).Reachable allowed s) : Counted s :=
  h.invariant counted_initial fun _ _ _ _ m _ hs => counted_step hs m

end

/-! ## One stretch in both -/

/-- Call `c` runs on to `new`. -/
def State.goOn (s : State) (c : Nat) (new : Option Pending) (store : Store) (es : List Entry) :
    State where
  store := store
  calls := match new with
    | none => s.calls.delete c
    | some p => s.calls.set c p
  nextCall := s.nextCall
  history := es ++ s.history

theorem goOn_calls (s : State) (c c' : Nat) (new : Option Pending) (store : Store)
    (es : List Entry) :
    (s.goOn c new store es).calls.get c' = if c = c' then new else s.calls.get c' :=
  advance_calls s c c' new new store es

/-- What two stretches of a call of `A` leave is the same for `A`. -/
structure Aligned (A : String) (s t : State) (new new' : Option Pending) (store store' : Store) :
    Prop where
  parked : new.map Pending.plain = new'.map Pending.plain
  maps : SameMaps A store store'
  objects : ∀ k, (store.sessions.get k = s.store.sessions.get k ∧
      store'.sessions.get k = t.store.sessions.get k) ∨
    ((∀ r, store.sessions.get k = some r → s.store.nextRef ≤ r.ref) ∧
      ∀ r, store'.sessions.get k = some r → t.store.nextRef ≤ r.ref)
  same : SameObject store store' new new'

/-- Both stretches add the same entries. -/
def Paired (A : String) (s t : State) (c : Nat) (s' t' : State) : Prop :=
  ∃ new new' store store' es, Aligned A s t new new' store store' ∧
    (∀ c' call, .called c' call ∉ es) ∧
    s' = s.goOn c new store es ∧ t' = t.goOn c new' store' es

section
variable {A : String} {s t s' t' : State} {c : Nat}

theorem SameFor.goOn (same : SameFor A s t) (ms : Counted s) (mt : Counted t)
    (paired : Paired A s t c s' t') : SameFor A s' t' := by
  obtain ⟨new, new', store, store', es, al, quiet, rfl, rfl⟩ := paired
  refine ⟨same.nextCall, fun c' call owner => ?_, al.maps, fun c' call owner called => ?_⟩
  · simp only [State.goOn, List.mem_append, same.called c' call owner]
  · rw [goOn_calls, goOn_calls]
    split
    · exact ⟨al.parked, al.same⟩
    · have before := (List.mem_append.mp called).resolve_left (quiet c' call)
      obtain ⟨parked, object⟩ := same.parked c' call owner before
      refine ⟨parked, fun k r r' caller caller' current current' hp hq hs ht => ?_⟩
      rcases al.objects k with ⟨us, ut⟩ | ⟨ns, nt⟩
      · exact object k r r' caller caller' current current' hp hq (us ▸ hs) (ut ▸ ht)
      · -- the new object is not the one that was parked
        have hr := ms.held c' k r ⟨_, hp, rfl⟩
        have hr' := mt.held c' k r' ⟨_, hq, rfl⟩
        have hn := ns current hs
        have hn' := nt current' ht
        omega

theorem SameFor.begin (same : SameFor A s t) (ms : Counted s) (mt : Counted t) (call : Call) :
    SameFor A (s.begin call) (t.begin call) := by
  have free : ∀ {u : State}, Counted u → u.calls.get u.nextCall = none := fun mu =>
    stands_none mu.numbered rfl
  refine ⟨congrArg (· + 1) same.nextCall, fun c' call' owner => ?_, same.maps,
    fun c' call' owner called => ?_⟩
  · simp only [State.begin, List.mem_cons, same.called c' call' owner, same.nextCall]
  · rcases List.mem_cons.mp called with now | before
    · obtain ⟨rfl, -⟩ := Entry.called.inj now
      have hs : (s.begin call).calls.get s.nextCall = none := free ms
      have ht : (t.begin call).calls.get s.nextCall = none := by
        rw [same.nextCall]
        exact free mt
      rw [hs, ht]
      exact ⟨rfl, by simp [SameObject]⟩
    · exact same.parked c' call' owner before

theorem Counted.begin (m : Counted s) (call : Call) : Counted (s.begin call) :=
  ⟨fun c p hp => Nat.lt_succ_of_lt (m.numbered c p hp), m.stored, m.held⟩

/-- A stretch that writes nothing and parks the call without a record. -/
theorem Aligned.kept (same : SameFor A s t) {new new' : Option Pending}
    (parked : new.map Pending.plain = new'.map Pending.plain)
    (object : SameObject s.store t.store new new') :
    Aligned A s t new new' s.store t.store :=
  ⟨parked, same.maps, fun _ => .inl ⟨rfl, rfl⟩, object⟩

theorem sameObject_of_left {store store' : Store} {p q : Option Pending}
    (left : ∀ k r caller, p ≠ some (.inspecting k r caller)) : SameObject store store' p q := by
  intro k r r' caller caller' current current' hp
  exact absurd hp (left k r caller)

/-- A stretch that puts a new record under a key of `A`. -/
theorem Aligned.put {base base' : Store} (maps : SameMaps A base base')
    (hs : base.sessions = s.store.sessions) (ht : base'.sessions = t.store.sessions)
    (ns : base.nextRef = s.store.nextRef) (nt : base'.nextRef = t.store.nextRef)
    {new new' : Option Pending} (parked : new.map Pending.plain = new'.map Pending.plain)
    (left : ∀ k r caller, new ≠ some (.inspecting k r caller)) (k : String) {r r' : SessionRecord}
    (same : r.plain = r'.plain) :
    Aligned A s t new new' (base.putRecord k r) (base'.putRecord k r') := by
  refine ⟨parked, maps.put k same, fun k' => ?_, sameObject_of_left left⟩
  simp only [putRecord_sessions, JsMap.get_set, hs, ht]
  by_cases here : k = k'
  · right
    simp only [if_pos here, Option.some.injEq]
    constructor <;> rintro _ rfl
    · exact Nat.le_of_eq ns.symm
    · exact Nat.le_of_eq nt.symm
  · left
    simp only [if_neg here, and_self]

theorem paired_answer (same : SameFor A s t) (c : Nat) (outcome : Outcome) :
    Paired A s t c (s.answer c outcome) (t.answer c outcome) :=
  ⟨none, none, s.store, t.store, [.answered c outcome],
    .kept same rfl (sameObject_of_left (by simp)), by simp, rfl, rfl⟩

theorem paired_park (same : SameFor A s t) (c : Nat) {p q : Pending} (parked : p.plain = q.plain)
    (left : ∀ k r caller, p ≠ .inspecting k r caller) :
    Paired A s t c (s.park c p) (t.park c q) :=
  ⟨some p, some q, s.store, t.store, [],
    .kept same (congrArg some parked) (sameObject_of_left (by simpa using left)), by simp, rfl, rfl⟩

/-! ## The methods -/

theorem plain_eq {r r' : SessionRecord} (h : r.plain = r'.plain) :
    ∃ n, r' = { r with ref := n } := by
  obtain ⟨-, id, tenant, phase, created, quota, runtime, failure⟩ := SessionRecord.mk.inj h
  refine ⟨r'.ref, ?_⟩
  rw [id, tenant, phase, created, quota, runtime, failure]

/-- `observeRuntime` on the record that is stored. -/
theorem observe_paired (same : SameFor A s t) (c : Nat) {k : String} {r r' : SessionRecord}
    (alike : r.plain = r'.plain) (hs : s.store.sessions.get k = some r)
    (ht : t.store.sessions.get k = some r') (caller : Caller) :
    Paired A s t c (observeRuntime s c k r caller) (observeRuntime t c k r' caller) := by
  obtain ⟨n, rfl⟩ := plain_eq alike
  unfold observeRuntime
  split
  · exact paired_park same c (congrArg (Pending.observed · caller) (congrArg Except.ok alike))
      (by simp)
  · refine ⟨some (.inspecting k r caller), some (.inspecting k _ caller), s.store, t.store,
      [.requested c (.inspect r.runtime)], ?aligned, by simp, rfl, rfl⟩
    refine .kept same rfl ?_
    rintro _ _ _ _ _ current current' ⟨⟩ ⟨⟩ hcur hcur'
    cases hcur.symm.trans hs
    cases hcur'.symm.trans ht
    exact Iff.intro (fun _ => rfl) fun _ => rfl

/-- Both stretches revoke the session's credentials and put a record in its place. -/
theorem Aligned.revoked (same : SameFor A s t) (id : String) {p q : Option Pending}
    (parked : p.map Pending.plain = q.map Pending.plain)
    (left : ∀ k r caller, p ≠ some (.inspecting k r caller)) {r r' : SessionRecord}
    (alike : r.plain = r'.plain) :
    Aligned A s t p q ((revokeCredentials s.store (key A id)).putRecord (key A id) r)
      ((revokeCredentials t.store (key A id)).putRecord (key A id) r') :=
  .put (same.maps.revoke id) (revoke_sessions _ _) (revoke_sessions _ _) (revoke_nextRef _ _)
    (revoke_nextRef _ _) parked left _ alike

theorem burn_paired (same : SameFor A s t) (c : Nat) (id : String) {r r' : SessionRecord}
    (alike : r.plain = r'.plain) :
    Paired A s t c (burn s c (key A id) r) (burn t c (key A id) r') := by
  obtain ⟨n, rfl⟩ := plain_eq alike
  have al := Aligned.revoked same id (p := some (.destroying (key A id) r))
    (q := some (.destroying (key A id) { r with ref := n })) rfl (by simp)
    (show (burningRecord r).plain = (burningRecord { r with ref := n }).plain from rfl)
  exact ⟨_, _, _, _, [.requested c (.destroy r.runtime), .revoked r.id], al, by simp, rfl, rfl⟩

theorem inspected_paired (same : SameFor A s t) (c : Nat) (id : String) {r r' : SessionRecord}
    (alike : r.plain = r'.plain) (caller : Caller)
    (object : SameObject s.store t.store (some (.inspecting (key A id) r caller))
      (some (.inspecting (key A id) r' caller)))
    (result : Except Thrown RuntimeInspection) :
    Paired A s t c (runtimeInspected s c (key A id) r caller result)
      (runtimeInspected t c (key A id) r' caller result) := by
  have parks : ∀ result', Paired A s t c (s.park c (.observed result' caller))
      (t.park c (.observed result' caller)) := fun _ => paired_park same c rfl (by simp)
  unfold runtimeInspected
  cases result with
  | error e => exact parks _
  | ok inspection =>
    rcases plain_get (same.maps.sessions id) with ⟨hs, ht⟩ | ⟨current, current', hs, ht, like⟩
    · simp only [hs, ht]
      exact parks _
    · have agree := object _ _ _ _ _ current current' rfl rfl hs ht
      obtain ⟨m, rfl⟩ := plain_eq like
      have stays : Paired A s t c (s.park c (.observed (.ok current) caller))
          (t.park c (.observed (.ok { current with ref := m }) caller)) :=
        paired_park same c (congrArg (Pending.observed · caller) (congrArg Except.ok like))
          (by simp)
      simp only [hs, ht, ne_eq, agree]
      split
      · exact stays
      · cases inspection with
        | running => exact stays
        | failed failure =>
          obtain ⟨n, rfl⟩ := plain_eq alike
          have al := Aligned.revoked same id
            (p := some (.observed (.ok { failedRecord r failure with
              ref := (revokeCredentials s.store (key A id)).nextRef }) caller))
            (q := some (.observed (.ok { failedRecord r failure with
              ref := (revokeCredentials t.store (key A id)).nextRef }) caller)) rfl (by simp)
            (show (failedRecord r failure).plain =
              (failedRecord { r with ref := n } failure).plain from rfl)
          exact ⟨_, _, _, _, [.revoked r.id], al, by simp, rfl, rfl⟩

theorem destroyed_paired (same : SameFor A s t) (c : Nat) (k : String) {r r' : SessionRecord}
    (alike : r.plain = r'.plain) (result : Except Thrown Unit) :
    Paired A s t c (runtimeDestroyed s c k r result) (runtimeDestroyed t c k r' result) := by
  obtain ⟨n, rfl⟩ := plain_eq alike
  cases result with
  | ok =>
    refine ⟨none, none, _, _, [.answered c .burned], ⟨rfl, same.maps.removed k, fun k' => ?_,
      sameObject_of_left (by simp)⟩, by simp, rfl, rfl⟩
    by_cases here : k = k'
    · subst here
      exact .inr (by simp)
    · exact .inl ⟨JsMap.get_delete_ne here, JsMap.get_delete_ne here⟩
  | error e =>
    exact ⟨none, none, _, _, [.answered c (.rejected cleanupFailed)],
      .put same.maps rfl rfl rfl rfl rfl (by simp) k rfl, by simp, rfl, rfl⟩

/-- The code after `observeRuntime`, in a caller that acts for `A`. -/
theorem resumeCaller_paired (cfg : Config) (same : SameFor A s t) (c : Nat)
    {r r' : SessionRecord} (alike : r.plain = r'.plain) (d : Draw) {caller : Caller} {call : Call}
    {k : String} (owner : call.owner = some A) (goes : caller.Continues k call) :
    Paired A s t c (resumeCaller cfg s c r d caller) (resumeCaller cfg t c r' d caller) := by
  obtain ⟨n, rfl⟩ := plain_eq alike
  cases caller with
  | get => exact paired_answer same c _
  | issueSignalingTicket k' =>
    obtain ⟨rfl, context, id, rfl, rfl⟩ := goes
    cases owner
    simp only [resumeCaller]
    split
    · exact paired_answer same c _
    · rcases same.maps.rotate cfg id d with ⟨e, hs, ht⟩ | ⟨cr, cr', ticket, hs, ht, maps⟩
      · simp only [hs, ht]
        exact paired_answer same c _
      · simp only [hs, ht]
        exact ⟨none, none, _, _, [.answered c (.ticketIssued ticket)],
          ⟨rfl, maps, fun _ => .inl ⟨rfl, rfl⟩, sameObject_of_left (by simp)⟩, by simp, rfl, rfl⟩
  | activeRuntime operation =>
    simp only [resumeCaller]
    split <;> exact paired_park same c rfl (by simp)
  | exchange | authorize =>
    obtain ⟨-, rfl⟩ := goes
    cases owner

theorem rejectCaller_paired (same : SameFor A s t) (c : Nat) (e : Thrown) (caller : Caller) :
    Paired A s t c (rejectCaller s c e caller) (rejectCaller t c e caller) := by
  cases caller with
  | activeRuntime operation => exact paired_park same c rfl (by simp)
  | _ => exact paired_answer same c _

/-- The first stretch of a call that acts for `A`. -/
theorem startCall_paired (cfg : Config) (same : SameFor A s t) (c : Nat) (d : Draw) {call : Call}
    (owner : call.owner = some A) :
    Paired A s t c (startCall cfg s c d call) (startCall cfg t c d call) := by
  have looked : ∀ (id : String) (context : TenantContext) (found : State → String → SessionRecord → State),
      context.tenantId = A →
      (∀ r r', r.plain = r'.plain → s.store.sessions.get (key A id) = some r →
        t.store.sessions.get (key A id) = some r' →
        Paired A s t c (found s (key A id) r) (found t (key A id) r')) →
      Paired A s t c (lookUp s c context id (found s)) (lookUp t c context id (found t)) := by
    rintro id context found rfl then'
    unfold lookUp
    rcases plain_get (same.maps.sessions id) with ⟨hs, ht⟩ | ⟨r, r', hs, ht, alike⟩
    · simp only [hs, ht]
      exact paired_answer same c _
    · simp only [hs, ht]
      exact then' r r' alike hs ht
  cases call with
  | create | exchangeSignalingTicket | authorizeSignalingToken => cases owner
  | get context id =>
    exact looked id context (fun u k r => observeRuntime u c k r .get) (Option.some.inj owner)
      fun r r' alike hs ht => observe_paired same c alike hs ht _
  | issueSignalingTicket context id =>
    exact looked id context (fun u k r => observeRuntime u c k r (.issueSignalingTicket k))
      (Option.some.inj owner) fun r r' alike hs ht => observe_paired same c alike hs ht _
  | tab context id operation =>
    cases owner
    simp only [startCall]
    rcases plain_get (same.maps.sessions id) with ⟨hs, ht⟩ | ⟨r, r', hs, ht, alike⟩
    · simp only [hs, ht]
      exact paired_park same c rfl (by simp)
    · simp only [hs, ht]
      exact observe_paired same c alike hs ht _
  | burn context id =>
    exact looked id context (fun u k r => burn u c k r) (Option.some.inj owner)
      fun r r' alike hs ht => burn_paired same c id alike

/-- A parked call that acts for `A` goes on alike when its promise settles. -/
theorem settle_paired (cfg : Config) (same : SameFor A s t) (c : Nat) (d : Draw) {p q : Pending}
    {call : Call} (owner : call.owner = some A) (goes : p.Continues call) (alike : p.plain = q.plain)
    (object : SameObject s.store t.store (some p) (some q)) (reply : RuntimeReply)
    (hs : settle cfg s c d p reply = some s') :
    ∃ t', settle cfg t c d q reply = some t' ∧ Paired A s t c s' t' := by
  unfold settle at hs
  split at hs
  case h_1 id tenantId result =>
    obtain ⟨context, rfl, -⟩ := goes
    cases owner
  case h_2 k r caller result =>
    cases q with
    | inspecting k' r' caller' =>
      obtain ⟨rfl, like, rfl⟩ := Pending.inspecting.inj alike
      obtain ⟨id, named⟩ := Call.owner_key owner
      obtain rfl := Caller.Continues.sessionKey goes named
      cases hs
      exact ⟨_, rfl, inspected_paired same c id like caller object result⟩
    | observed r => cases r <;> cases alike
    | _ => cases alike
  case h_3 k r result =>
    cases q with
    | destroying k' r' =>
      obtain ⟨rfl, like⟩ := Pending.destroying.inj alike
      cases hs
      exact ⟨_, rfl, destroyed_paired same c k like result⟩
    | observed r => cases r <;> cases alike
    | _ => cases alike
  case h_4 | h_5 =>
    cases q with
    | tabbing =>
      cases alike
      cases hs
      exact ⟨_, rfl, paired_answer same c _⟩
    | observed r => cases r <;> cases alike
    | _ => cases alike
  case h_6 => cases hs

/-- And when an inner promise has settled. -/
theorem resume_paired (cfg : Config) (same : SameFor A s t) (c : Nat) (d : Draw) {p q : Pending}
    {call : Call} (owner : call.owner = some A) (goes : p.Continues call) (alike : p.plain = q.plain)
    (hs : resume cfg s c d p = some s') :
    ∃ t', resume cfg t c d q = some t' ∧ Paired A s t c s' t' := by
  unfold resume at hs
  split at hs
  case h_1 r caller =>
    cases q with
    | observed r' caller' =>
      cases r' with
      | error e => cases alike
      | ok r' =>
        obtain ⟨like, rfl⟩ := Pending.observed.inj alike
        obtain ⟨k, goes, -⟩ := goes
        cases hs
        exact ⟨_, rfl, resumeCaller_paired cfg same c (Except.ok.inj like) d owner goes⟩
    | _ => cases alike
  case h_2 e caller =>
    cases q with
    | observed r' caller' =>
      cases r' with
      | ok r' => cases alike
      | error e' =>
        cases alike
        cases hs
        exact ⟨_, rfl, rejectCaller_paired same c e caller⟩
    | _ => cases alike
  case h_3 resource operation =>
    cases q with
    | activated =>
      cases alike
      cases hs
      exact ⟨_, rfl, some (.tabbing resource operation), some (.tabbing resource operation), s.store,
        t.store, [.requested c (.tab resource operation)],
        .kept same rfl (sameObject_of_left (by simp)), by simp, rfl, rfl⟩
    | observed r => cases r <;> cases alike
    | _ => cases alike
  case h_4 =>
    cases q with
    | activated =>
      cases alike
      cases hs
      exact ⟨_, rfl, paired_answer same c _⟩
    | observed r => cases r <;> cases alike
    | _ => cases alike
  case h_5 => cases hs

end

/-! ## Isolation -/

section
variable {cfg : Config} {A : String} {s t s' : State} {e : Event}

/-- **One step in both.** An event of a call that acts for `A` happens in both states,
adds the same entries and leaves them alike. -/
theorem acting_alike (tr : Traced s) (ms : Counted s) (mt : Counted t) (same : SameFor A s t)
    (acts : ActsFor A s e) (h : step cfg s e = some s') :
    ∃ t' es, step cfg t e = some t' ∧ s'.history = es ++ s.history ∧
      t'.history = es ++ t.history ∧ SameFor A s' t' := by
  cases e with
  | call call d =>
    have made : makeCall cfg s call d = s' := by simpa only [step, Option.some.injEq] using h
    have begun := same.begin ms mt call
    have paired := startCall_paired cfg begun s.nextCall d acts
    have after := begun.goOn (ms.begin call) (mt.begin call) paired
    obtain ⟨new, new', store, store', es, -, -, hs, ht⟩ := paired
    refine ⟨makeCall cfg t call d, es ++ [.called s.nextCall call], rfl, ?_, ?_, ?_⟩
    · rw [← made, makeCall, hs]
      simp [State.goOn, State.begin]
    · rw [makeCall, ← same.nextCall, ht]
      simp [State.goOn, State.begin, same.nextCall]
    · rw [← made, makeCall, makeCall, ← same.nextCall]
      exact after
  | settle c reply d =>
    obtain ⟨p, hp, hs⟩ := Option.bind_eq_some_iff.mp h
    obtain ⟨call, called, owner⟩ := acts
    obtain ⟨call', called', goes⟩ := tr.parked c p hp
    obtain rfl := tr.once c _ _ called called'
    obtain ⟨alike, object⟩ := same.parked c call owner called
    rw [hp] at alike object
    obtain ⟨q, hq, like⟩ := Option.map_eq_some_iff.mp alike.symm
    rw [hq] at object
    obtain ⟨t', next, paired⟩ := settle_paired cfg same c d owner goes like.symm object reply hs
    refine ⟨t', ?_⟩
    have after := same.goOn ms mt paired
    obtain ⟨new, new', store, store', es, -, -, rfl, rfl⟩ := paired
    refine ⟨es, ?_, rfl, rfl, after⟩
    simp only [step, hq, Option.bind_some, next]
  | resume c d =>
    obtain ⟨p, hp, hs⟩ := Option.bind_eq_some_iff.mp h
    obtain ⟨call, called, owner⟩ := acts
    obtain ⟨call', called', goes⟩ := tr.parked c p hp
    obtain rfl := tr.once c _ _ called called'
    obtain ⟨alike, -⟩ := same.parked c call owner called
    rw [hp] at alike
    obtain ⟨q, hq, like⟩ := Option.map_eq_some_iff.mp alike.symm
    obtain ⟨t', next, paired⟩ := resume_paired cfg same c d owner goes like.symm hs
    have after := same.goOn ms mt paired
    obtain ⟨new, new', store, store', es, -, -, rfl, rfl⟩ := paired
    refine ⟨_, es, ?_, rfl, rfl, after⟩
    simp only [step, hq, Option.bind_some, next]

/-- **A run in both.** -/
theorem run_alike {events : List Event} (wf : Wf cfg s) (tr : Traced s) (ms : Counted s)
    (mt : Counted t) (same : SameFor A s t)
    (admitted : (machine cfg).Admits (fun s e => Served cfg s e ∧ ActsFor A s e) s events)
    (run : (machine cfg).runFrom s events = some s') :
    ∃ t' es, (machine cfg).runFrom t events = some t' ∧ s'.history = es ++ s.history ∧
      t'.history = es ++ t.history ∧ SameFor A s' t' := by
  induction events generalizing s t with
  | nil =>
    cases run
    exact ⟨t, [], rfl, rfl, rfl, same⟩
  | cons e events ih =>
    obtain ⟨m, hm, rest⟩ := Option.bind_eq_some_iff.mp run
    obtain ⟨⟨served, acts⟩, later⟩ := admitted
    obtain ⟨n, es, hn, hs, ht, after⟩ := acting_alike tr ms mt same acts hm
    obtain ⟨t', es', run', hs', ht', last⟩ := ih (wf_step served.1.1 hm wf) (traced_step hm wf tr)
      (counted_step hm ms) (counted_step hn mt) after (later m hm) rest
    refine ⟨t', es' ++ es, ?_, ?_, ?_, last⟩
    · exact Option.bind_eq_some_iff.mpr ⟨n, hn, run'⟩
    · rw [hs', hs, List.append_assoc]
    · rw [ht', ht, List.append_assoc]

end

/-- **Tenant isolation.** Every step of a call that acts for `A` is confined to `A`, in
every state. And any run of such calls from a state can be made from every other that
holds the same for `A`: it returns, asks of the runtime and revokes the same, and again
leaves the same for `A`. -/
theorem tenant_isolation (cfg : Config) {A : String} (safe : isSafeTenantId A = true) {s : State}
    {ledger : Ledger}
    (reached : (ledgered cfg).Reachable (Machine.unwatched (Served cfg)) (s, ledger)) :
    (∀ e t ledger', Served cfg s e → ActsFor A s e →
      (ledgered cfg).step (s, ledger) e = some (t, ledger') →
      ∃ es, t.history = es ++ s.history ∧ Confined A s t ledger' es) ∧
    ∀ t events s', (machine cfg).Reachable (Served cfg) t → SameFor A s t →
      (machine cfg).Admits (fun s e => Served cfg s e ∧ ActsFor A s e) s events →
      (machine cfg).runFrom s events = some s' →
      ∃ t' es, (machine cfg).runFrom t events = some t' ∧ s'.history = es ++ s.history ∧
        t'.history = es ++ t.history ∧ SameFor A s' t' := by
  have freshId : ∀ s e, Served cfg s e → FreshId s e := fun _ _ h => h.1.1
  have before := Machine.Reaches.unwatch reached
  have wf := reachable_wf freshId before
  have tr := reachable_traced freshId before
  have cred := reachable_credentials (fun _ _ h => h.1) before
  constructor
  · intro e t ledger' served acts next
    have reached' := reached.step (show Machine.unwatched (Served cfg) (s, ledger) e from served) next
    obtain ⟨hs, noted⟩ := Machine.watched_step.mp next
    have after := Machine.Reaches.unwatch reached'
    exact confined_step safe noted (reachable_safe reached') wf (reachable_wf freshId after)
      (reachable_owned freshId reached) (reachable_owned freshId reached') tr
      (reachable_traced freshId after) cred.indexed (unused_of_fresh served.1.2 cred.issued) acts hs
  · intro t events s' reached' same admitted run
    exact run_alike wf tr (reachable_counted before) (reachable_counted reached') same admitted run

/-! ## Two tenants, or one -/

def beta : TenantContext := ⟨"beta", "bob"⟩

/-- The create of `beta` ends with this reply. -/
def afterBeta (reply : Except Thrown RuntimeResource) : List Event :=
  [.call (.create alpha) (draw 0 0 ""), .settle 0 (.created (.ok sampleRuntime)) (draw 1 0 "t"),
    .call (.create beta) (draw 1 0 ""), .settle 1 (.created reply) (draw 2 0 "u")]

def both : State × Ledger :=
  ((ledgered sampleConfig).runFrom (State.initial, .empty)
    (afterBeta (.ok sampleRuntime))).get (by decide)

def alone : State :=
  ((machine sampleConfig).runFrom State.initial (afterBeta (.error (.other "timeout")))).get
    (by decide)

def Entry.unowned : Entry → Bool
  | .called _ call => call.owner.isNone
  | _ => true

/-- So far only `create` was called. -/
theorem not_called {u : State} (h : ∀ entry ∈ u.history, entry.unowned = true) {c : Nat}
    {call : Call} {A : String} (owner : call.owner = some A) : .called c call ∉ u.history := by
  intro called
  have nobody := h _ called
  simp only [Entry.unowned, owner, Option.isNone_some, Bool.false_eq_true] at nobody

theorem both_sameFor : SameFor "alpha" both.1 alone := by
  have other : ∀ id, key "alpha" id ≠ key "beta" (sampleId 1) := fun id same =>
    absurd (key_inj_safe (by decide) (by decide) same).1 (by decide)
  have own : ∀ id, key "alpha" id = key "alpha" (sampleId 0) → id = sampleId 0 := fun id same =>
    (key_inj_safe (by decide) (by decide) same).2
  have inBoth : ∀ id, id ≠ sampleId 0 →
      key "alpha" id ∉ [key "alpha" (sampleId 0), key "beta" (sampleId 1)] := by
    intro id ne hm
    rcases List.mem_cons.mp hm with same | hm
    · exact ne (own id same)
    · exact other id (List.mem_singleton.mp hm)
  have inAlone : ∀ id, id ≠ sampleId 0 → key "alpha" id ∉ [key "alpha" (sampleId 0)] :=
    fun id ne hm => ne (own id (List.mem_singleton.mp hm))
  have silent : ∀ c call, call.owner = some "alpha" → .called c call ∉ both.1.history :=
    fun c call => not_called (by decide)
  refine ⟨rfl, fun c call owner => ?_, ⟨fun id => ?_, fun id => ?_, fun hash id e => ?_,
    fun hash id e => ?_⟩, fun c call owner called => absurd called (silent c call owner)⟩
  · exact iff_of_false (silent c call owner) (not_called (by decide) owner)
  · by_cases first : id = sampleId 0
    · rw [first]
      rfl
    · rw [JsMap.get_eq_none.mpr (inBoth id first), JsMap.get_eq_none.mpr (inAlone id first)]
  · by_cases first : id = sampleId 0
    · rw [first]
      rfl
    · rw [JsMap.get_eq_none.mpr (inBoth id first), JsMap.get_eq_none.mpr (inAlone id first)]
  · rw [JsMap.get_eq_some, JsMap.get_eq_some]
    change _ ∈ [("t", CredentialBinding.mk _ _), ("u", .mk (key "beta" (sampleId 1)) _)] ↔
      _ ∈ [("t", CredentialBinding.mk _ _)]
    simp only [List.mem_cons, Prod.mk.injEq, CredentialBinding.mk.injEq, other id, false_and,
      and_false, List.not_mem_nil, or_false]
  · exact Iff.rfl

def burnAlpha : List Event :=
  [.call (.burn alpha (sampleId 0)) (draw 2 0 "v"), .settle 2 (.destroyed (.ok ())) (draw 2 0 "v")]

theorem tenant_isolation_two_tenants : ∃ s' t es,
    (machine sampleConfig).runFrom both.1 burnAlpha = some s' ∧
    (machine sampleConfig).runFrom alone burnAlpha = some t ∧
    s'.history = es ++ both.1.history ∧ t.history = es ++ alone.history ∧
    SameFor "alpha" s' t := by
  have reached : (ledgered sampleConfig).Reachable (Machine.unwatched (Served sampleConfig)) both :=
    Machine.reaches_end (by decide) _
  have reached' : (machine sampleConfig).Reachable (Served sampleConfig) alone :=
    Machine.reaches_end (by decide) _
  have admitted : (machine sampleConfig).Admits
      (fun s e => Served sampleConfig s e ∧ ActsFor "alpha" s e) both.1 burnAlpha :=
    Machine.admits_sound (by decide)
  obtain ⟨-, run⟩ := tenant_isolation sampleConfig (A := "alpha") (by decide) reached
  obtain ⟨s', ran⟩ : ∃ s', (machine sampleConfig).runFrom both.1 burnAlpha = some s' := ⟨_, rfl⟩
  obtain ⟨t, es, rest⟩ := run alone burnAlpha s' reached' both_sameFor admitted ran
  exact ⟨s', t, es, ran, rest⟩

end Fireball.Session
