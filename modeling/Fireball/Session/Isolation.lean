import Fireball.Session.Tenants

/-!
# Tenant isolation

What the calls of one tenant can reach: `get`, `issueSignalingTicket`, the tab
methods and `burn`.

* `acting_writes`: such a call writes at most under one key of its tenant;
* `confined_step`: what it asks of the runtime, revokes and returns is its tenant's.
-/

namespace Fireball.Session

open Foundation

/-- The tenant that a call acts for: `create` and the calls that present a
credential act for nobody. -/
def Call.owner : Call → Option String
  | .get context _ => some context.tenantId
  | .issueSignalingTicket context _ => some context.tenantId
  | .tab context _ _ => some context.tenantId
  | .burn context _ => some context.tenantId
  | _ => none

theorem Call.owner_key {call : Call} {A : String} (h : call.owner = some A) :
    ∃ id, call.sessionKey = some (key A id) := by
  cases call <;> cases h <;> exact ⟨_, rfl⟩

/-- The event is a step of a call that acts for `A`. -/
def ActsFor (A : String) (s : State) : Event → Prop
  | .call call _ => call.owner = some A
  | .settle c _ _ => ∃ call, .called c call ∈ s.history ∧ call.owner = some A
  | .resume c _ => ∃ call, .called c call ∈ s.history ∧ call.owner = some A

/-- The entry names call `c`, made for `A`. -/
def Entry.names (A : String) (c : Nat) : Entry → Bool
  | .called c' call => c' = c && call.owner = some A
  | _ => false

theorem names_iff {A : String} {c : Nat} {s : State} :
    (∃ entry ∈ s.history, entry.names A c = true) ↔
      ∃ call, .called c call ∈ s.history ∧ call.owner = some A := by
  constructor
  · rintro ⟨entry, hm, names⟩
    cases entry with
    | called c' call =>
      simp only [Entry.names, Bool.and_eq_true, decide_eq_true_eq] at names
      obtain ⟨rfl, owner⟩ := names
      exact ⟨call, hm, owner⟩
    | _ => cases names
  · rintro ⟨call, hm, owner⟩
    exact ⟨_, hm, by simp [Entry.names, owner]⟩

instance (A : String) (s : State) (e : Event) : Decidable (ActsFor A s e) :=
  match e with
  | .call call _ => inferInstanceAs (Decidable (call.owner = some A))
  | .settle c _ _ => decidable_of_iff (∃ entry ∈ s.history, entry.names A c = true) names_iff
  | .resume c _ => decidable_of_iff (∃ entry ∈ s.history, entry.names A c = true) names_iff

/-! ## Writes -/

/-- The maps are the same for every session key but `k`. -/
structure SameElsewhere (k : String) (s s' : Store) : Prop where
  sessions : ∀ k', k' ≠ k → s'.sessions.get k' = s.sessions.get k'
  credentials : ∀ k', k' ≠ k → s'.credentialsBySession.get k' = s.credentialsBySession.get k'
  tickets : ∀ hash b, b.sessionKey ≠ k →
    (s'.pairingTickets.get hash = some b ↔ s.pairingTickets.get hash = some b)
  tokens : ∀ hash b, b.sessionKey ≠ k →
    (s'.signalingTokens.get hash = some b ↔ s.signalingTokens.get hash = some b)

theorem SameElsewhere.refl (k : String) (s : Store) : SameElsewhere k s s :=
  ⟨fun _ _ => rfl, fun _ _ => rfl, fun _ _ _ => Iff.rfl, fun _ _ _ => Iff.rfl⟩

section
variable {cfg : Config} {s : Store} {k : String} {credentials : SessionCredentials} {d : Draw}

/-- The hashes that a session's credentials name are bound to no other key. -/
theorem forget_elsewhere (ix : Indexed s) (hc : s.credentialsBySession.get k = some credentials) :
    (∀ hash b, b.sessionKey ≠ k → ((forgetCredentials s credentials).pairingTickets.get hash =
      some b ↔ s.pairingTickets.get hash = some b)) ∧
    ∀ hash b, b.sessionKey ≠ k → ((forgetCredentials s credentials).signalingTokens.get hash =
      some b ↔ s.signalingTokens.get hash = some b) := by
  constructor
  · intro hash b other
    unfold forgetCredentials
    cases ht : credentials.pairingTicketHash with
    | none => exact Iff.rfl
    | some hash' =>
      simp only [JsMap.get_delete]
      split
      · rename_i same
        subst same
        have bound := (ix.tickets.own hc hash').mpr ht
        constructor
        · rintro ⟨⟩
        · intro hb
          simp only [boundTo, hb, Option.map_some, Option.some.injEq] at bound
          exact absurd bound other
      · exact Iff.rfl
  · intro hash b other
    simp only [forgetCredentials, JsMap.get_deleteAll]
    split
    · rename_i held
      have bound := (ix.tokens.own hc hash).mpr (JsMap.mem_keys_iff_has.mp held)
      constructor
      · rintro ⟨⟩
      · intro hb
        simp only [boundTo, hb, Option.map_some, Option.some.injEq] at bound
        exact absurd bound other
    · exact Iff.rfl

theorem revoke_elsewhere (ix : Indexed s) : SameElsewhere k s (revokeCredentials s k) := by
  refine ⟨fun _ _ => by rw [revoke_sessions], fun k' other => ?_, ?_, ?_⟩
  · rw [revoke_owners, JsMap.get_delete_ne (Ne.symm other)]
  · unfold revokeCredentials
    split
    · exact fun _ _ _ => Iff.rfl
    · rename_i credentials hc
      exact (forget_elsewhere ix hc).1
  · unfold revokeCredentials
    split
    · exact fun _ _ _ => Iff.rfl
    · rename_i credentials hc
      exact (forget_elsewhere ix hc).2

theorem rotate_elsewhere (ix : Indexed s) (hc : s.credentialsBySession.get k = some credentials)
    (fresh : Unused cfg s d) : SameElsewhere k s (rotatedStore cfg s k credentials d) := by
  refine ⟨fun _ _ => rfl, fun k' other => JsMap.get_set_ne (Ne.symm other), ?_,
    (forget_elsewhere ix hc).2⟩
  intro hash b other
  simp only [rotatedStore, JsMap.get_set]
  split
  · rename_i same
    subst same
    constructor
    · rintro ⟨⟩
      exact absurd rfl other
    · intro hb
      have unbound := fresh.1
      simp [boundTo, hb] at unbound
  · exact (forget_elsewhere ix hc).1 hash b other

theorem SameElsewhere.put {base : Store} (h : SameElsewhere k s base) (r : SessionRecord) :
    SameElsewhere k s (base.putRecord k r) :=
  ⟨fun k' other => by rw [putRecord_sessions, JsMap.get_set_ne (Ne.symm other), h.sessions k' other],
    h.credentials, h.tickets, h.tokens⟩

end

section
variable {cfg : Config} {s t : State} {e : Event} {A : String}

/-- The call that an acting event moves. -/
theorem acting_transition (tr : Traced s) (acts : ActsFor A s e) (h : step cfg s e = some t) :
    ∃ c old new store es call, s.Stands c old ∧ Transition cfg s e c old new store es ∧
      t = s.advance c old new store es ∧ .called c call ∈ t.history ∧ call.owner = some A ∧
      (∀ p, old = some p → p.Continues call) ∧ (old = none → e = .call call e.draw) := by
  -- a parked call is one of `A` and continues it
  have moved : ∀ {c p new store es}, s.calls.get c = some p →
      (∃ call, .called c call ∈ s.history ∧ call.owner = some A) →
      Transition cfg s e c (some p) new store es → t = s.advance c (some p) new store es →
      ∃ c old new store es call, s.Stands c old ∧ Transition cfg s e c old new store es ∧
        t = s.advance c old new store es ∧ .called c call ∈ t.history ∧ call.owner = some A ∧
        (∀ p, old = some p → p.Continues call) ∧ (old = none → e = .call call e.draw) := by
    rintro c p new store es hp ⟨call, called, owner⟩ ht rfl
    obtain ⟨call', called', goes⟩ := tr.parked c p hp
    obtain rfl := tr.once c call call' called called'
    refine ⟨c, some p, new, store, es, call, hp, ht, rfl, List.mem_append_right _ called, owner,
      ?_, by simp⟩
    rintro _ ⟨⟩
    exact goes
  cases e with
  | call call d =>
    obtain ⟨new, store, es, ht, eq⟩ := makeCall_transition cfg s call d
    have made : makeCall cfg s call d = t := by simpa only [step, Option.some.injEq] using h
    obtain ⟨call', called⟩ := (transition_named ht).2 rfl
    obtain ⟨-, ev, -⟩ := (transition_named ht).1 _ _ called
    cases ev
    rw [made] at eq
    refine ⟨_, none, new, store, es, call, rfl, ht, eq, ?_, acts, by simp, fun _ => rfl⟩
    rw [eq]
    exact List.mem_append_left _ called
  | settle c reply d =>
    obtain ⟨p, hp, hs⟩ := Option.bind_eq_some_iff.mp h
    obtain ⟨new, store, es, ht, eq⟩ := settle_transition hs
    exact moved hp acts ht eq
  | resume c d =>
    obtain ⟨p, hp, hs⟩ := Option.bind_eq_some_iff.mp h
    obtain ⟨new, store, es, ht, eq⟩ := resume_transition hs
    exact moved hp acts ht eq

/-- A call that acts for a tenant writes under the session key that it names, and
makes no reservation. -/
theorem acting_writes (ix : Indexed s.store) (fresh : Unused cfg s.store e.draw) {c : Nat}
    {old new : Option Pending} {store : Store} {es : List Entry} {call : Call} {k : String}
    (ht : Transition cfg s e c old new store es) (owner : call.owner = some A)
    (named : call.sessionKey = some k) (goes : ∀ p, old = some p → p.Continues call)
    (begins : old = none → e = .call call e.draw) :
    SameElsewhere k s.store store ∧ store.reservations = s.store.reservations := by
  cases ht with
  | moved | begun | authorized => exact ⟨.refl k _, rfl⟩
  | reserved ev =>
    cases ev.symm.trans (begins rfl)
    cases owner
  | released | created =>
    obtain ⟨context, rfl, -⟩ := goes _ rfl
    cases owner
  | ticketTaken ev | tokenTaken ev =>
    cases ev.symm.trans (begins rfl)
    cases owner
  | rotated ok =>
    obtain ⟨cr, hcr, rfl, -⟩ := rotate_ok ok
    obtain ⟨_, ⟨rfl, context, id, rfl, rfl⟩, -⟩ := goes _ rfl
    cases named
    exact ⟨rotate_elsewhere ix hcr fresh, rfl⟩
  | minted =>
    obtain ⟨_, ⟨-, rfl⟩, -⟩ := goes _ rfl
    cases owner
  | burning ev =>
    cases ev.symm.trans (begins rfl)
    cases named
    exact ⟨(revoke_elsewhere ix).put _, by simp⟩
  | removed =>
    obtain ⟨context, id, rfl, rfl⟩ := goes _ rfl
    cases named
    exact ⟨⟨fun k' other => JsMap.get_delete_ne (Ne.symm other), fun _ _ => rfl,
      fun _ _ _ => Iff.rfl, fun _ _ _ => Iff.rfl⟩, rfl⟩
  | restored =>
    obtain ⟨context, id, rfl, rfl⟩ := goes _ rfl
    cases named
    exact ⟨(SameElsewhere.refl _ _).put _, rfl⟩
  | lost =>
    have goes' := goes _ rfl
    obtain rfl := Caller.Continues.sessionKey goes' named
    exact ⟨(revoke_elsewhere ix).put _, by simp⟩

end

/-! ## What a call reaches -/

/-- What call `c` of tenant `A` may be answered with. The reply of a tab method is
that of the runtime call it waits for. -/
inductive Returns (A : String) (s : State) (ledger : Ledger) (c : Nat) : Outcome → Prop
  | viewed (r : SessionRecord) : r.tenantId = A → r.creation ∈ ledger.created →
      Returns A s ledger c (.viewed (toSessionView r))
  | ticketIssued (ticket : SignalingTicketIssueResult) : Returns A s ledger c (.ticketIssued ticket)
  | tab (reply : TabReply) {id : String} {resource : RuntimeResource} {operation : TabOperation} :
      s.calls.get c = some (.tabbing resource operation) → ⟨A, id, resource⟩ ∈ ledger.created →
      Returns A s ledger c (.tab reply)
  | burned : Returns A s ledger c .burned
  | rejected (e : Thrown) : Returns A s ledger c (.rejected e)

/-- A step from `s` to `t` that adds `es` to the history stays with tenant `A`. -/
structure Confined (A : String) (s t : State) (ledger : Ledger) (es : List Entry) : Prop where
  records : ∀ k r, r.tenantId ≠ A →
    (t.store.sessions.get k = some r ↔ s.store.sessions.get k = some r)
  credentials : ∀ k r, s.store.sessions.get k = some r → r.tenantId ≠ A →
    t.store.credentialsBySession.get k = s.store.credentialsBySession.get k ∧
    ∀ hash b, b.sessionKey = k →
      (t.store.pairingTickets.get hash = some b ↔ s.store.pairingTickets.get hash = some b) ∧
      (t.store.signalingTokens.get hash = some b ↔ s.store.signalingTokens.get hash = some b)
  reservations : t.store.reservations = s.store.reservations
  requests : ∀ c request, .requested c request ∈ es →
    ∃ id resource, request.resource = some resource ∧ ⟨A, id, resource⟩ ∈ ledger.created
  revocations : ∀ id, .revoked id ∈ es → ∃ resource, ⟨A, id, resource⟩ ∈ ledger.created
  answers : ∀ c outcome, .answered c outcome ∈ es → Returns A s ledger c outcome

section
variable {cfg : Config} {s t : State} {e : Event} {A : String} {ledger : Ledger} {d : Draw}

theorem observe_answers {base : State} {c c' : Nat} {k : String} {r : SessionRecord} {caller : Caller}
    {outcome : Outcome}
    (h : .answered c' outcome ∈ (observeRuntime base c k r caller).history) :
    .answered c' outcome ∈ base.history := by
  unfold observeRuntime at h
  split at h
  · exact h
  · simpa [State.park, State.record] using h

theorem lookUp_answers {call : Call} {c' : Nat} {context : TenantContext} {id : String}
    {outcome : Outcome} {found : String → SessionRecord → State}
    (later : ∀ k r, .answered c' outcome ∈ (found k r).history → .answered c' outcome ∈ s.history)
    (h : .answered c' outcome ∈
      (lookUp (s.begin call) s.nextCall context id found).history) :
    .answered c' outcome ∈ s.history ∨ ∃ e, outcome = .rejected e := by
  unfold lookUp at h
  split at h
  · simp only [State.answer, State.begin, List.mem_cons, Entry.answered.injEq, reduceCtorEq,
      false_or] at h
    rcases h with ⟨-, rfl⟩ | before
    · exact .inr ⟨_, rfl⟩
    · exact .inl before
  · exact .inl (later _ _ h)

/-- A call that acts for a tenant is at once only rejected. -/
theorem makeCall_answers {call : Call} (owner : call.owner = some A) {c' : Nat} {outcome : Outcome}
    (h : .answered c' outcome ∈ (makeCall cfg s call d).history) :
    .answered c' outcome ∈ s.history ∨ ∃ e, outcome = .rejected e := by
  have begun : .answered c' outcome ∈ (s.begin call).history → .answered c' outcome ∈ s.history := by
    simp [State.begin]
  unfold makeCall at h
  cases call with
  | create | exchangeSignalingTicket | authorizeSignalingToken => cases owner
  | get | issueSignalingTicket => exact lookUp_answers (fun k r h => begun (observe_answers h)) h
  | tab context id operation =>
    left
    simp only [startCall] at h
    split at h
    · exact begun h
    · exact begun (observe_answers h)
  | burn =>
    refine lookUp_answers (fun k r h => begun ?_) h
    simpa [burn, revokeSession, State.record, State.park] using h

theorem settle_answers {c c' : Nat} {p : Pending} {reply : RuntimeReply} {outcome : Outcome}
    (other : ∀ id tenantId, p ≠ .creating id tenantId) (h : settle cfg s c d p reply = some t)
    (answered : .answered c' outcome ∈ t.history) :
    .answered c' outcome ∈ s.history ∨
    c' = c ∧ (outcome = .burned ∨ (∃ e, outcome = .rejected e) ∨
      ∃ resource operation reply, p = .tabbing resource operation ∧ outcome = .tab reply) := by
  unfold settle at h
  split at h
  case h_1 id tenantId result => exact absurd rfl (other id tenantId)
  case h_2 k r caller result =>
    cases h
    left
    generalize hu : runtimeInspected s c k r caller result = u at answered
    unfold runtimeInspected at hu
    split at hu
    · subst hu; exact answered
    · split at hu
      · subst hu; exact answered
      · split at hu
        · subst hu; exact answered
        · split at hu
          · subst hu; exact answered
          · subst hu
            simpa [State.park, revokeSession] using answered
  case h_3 k r result =>
    cases h
    unfold runtimeDestroyed at answered
    split at answered <;>
      simp only [State.answer, List.mem_cons, Entry.answered.injEq] at answered <;>
      rcases answered with ⟨rfl, rfl⟩ | before
    · exact .inr ⟨rfl, .inl rfl⟩
    · exact .inl before
    · exact .inr ⟨rfl, .inr (.inl ⟨_, rfl⟩)⟩
    · exact .inl before
  case h_4 resource operation reply =>
    cases h
    simp only [State.answer, List.mem_cons, Entry.answered.injEq] at answered
    rcases answered with ⟨rfl, rfl⟩ | before
    · exact .inr ⟨rfl, .inr (.inr ⟨_, _, _, rfl, rfl⟩)⟩
    · exact .inl before
  case h_5 =>
    cases h
    simp only [State.answer, List.mem_cons, Entry.answered.injEq] at answered
    rcases answered with ⟨rfl, rfl⟩ | before
    · exact .inr ⟨rfl, .inr (.inl ⟨_, rfl⟩)⟩
    · exact .inl before
  case h_6 => cases h

theorem resume_answers {c c' : Nat} {p : Pending} {outcome : Outcome}
    (other : ∀ r token k ref, p ≠ .observed r (.exchange token k ref) ∧
      p ≠ .observed r (.authorize token k))
    (h : resume cfg s c d p = some t) (answered : .answered c' outcome ∈ t.history) :
    .answered c' outcome ∈ s.history ∨
    c' = c ∧ ((∃ r, p = .observed (.ok r) .get ∧ outcome = .viewed (toSessionView r)) ∨
      (∃ ticket, outcome = .ticketIssued ticket) ∨ ∃ e, outcome = .rejected e) := by
  have ended : ∀ (base : State) {o : Outcome}, base.history = s.history →
      .answered c' outcome ∈ (base.answer c o).history →
      .answered c' outcome ∈ s.history ∨ c' = c ∧ outcome = o := by
    intro base o same hm
    simp only [State.answer, same, List.mem_cons, Entry.answered.injEq] at hm
    rcases hm with now | before
    · exact .inr now
    · exact .inl before
  have rejected : ∀ {base : State} {e : Thrown}, base.history = s.history →
      .answered c' outcome ∈ (base.answer c (.rejected e)).history →
      .answered c' outcome ∈ s.history ∨
      c' = c ∧ ((∃ r, p = .observed (.ok r) .get ∧ outcome = .viewed (toSessionView r)) ∨
        (∃ ticket, outcome = .ticketIssued ticket) ∨ ∃ e, outcome = .rejected e) := by
    intro base e same hm
    rcases ended base same hm with before | ⟨here, rfl⟩
    · exact .inl before
    · exact .inr ⟨here, .inr (.inr ⟨e, rfl⟩)⟩
  unfold resume at h
  split at h
  case h_1 r caller =>
    cases h
    cases caller with
    | get =>
      rcases ended s rfl answered with before | ⟨here, rfl⟩
      · exact .inl before
      · exact .inr ⟨here, .inl ⟨r, rfl, rfl⟩⟩
    | issueSignalingTicket k =>
      simp only [resumeCaller] at answered
      split at answered
      · exact rejected rfl answered
      · split at answered
        · exact rejected rfl answered
        · rcases ended { s with store := _ } rfl answered with before | ⟨here, rfl⟩
          · exact .inl before
          · exact .inr ⟨here, .inr (.inl ⟨_, rfl⟩)⟩
    | activeRuntime operation =>
      simp only [resumeCaller] at answered
      split at answered <;> exact .inl answered
    | exchange token k ref => exact absurd rfl (other _ token k ref).1
    | authorize token k => exact absurd rfl (other _ token k 0).2
  case h_2 e caller =>
    cases h
    cases caller with
    | activeRuntime operation => exact .inl answered
    | _ => exact rejected rfl answered
  case h_3 => cases h; exact .inl (by simpa [State.record, State.park] using answered)
  case h_4 => cases h; exact rejected rfl answered
  case h_5 => cases h

/-- A key of a safe tenant tells whose creation it is. -/
theorem owner_of_key (safe : isSafeTenantId A = true)
    (tenants : ∀ g ∈ ledger.created, isSafeTenantId g.tenantId = true) {g : Creation}
    (hg : g ∈ ledger.created) {id : String} (same : g.key = key A id) : g.tenantId = A :=
  (key_inj_safe (tenants g hg) safe same).1

/-- What a call that acts for `A` is answered. -/
theorem acting_returns (safe : isSafeTenantId A = true)
    (tenants : ∀ g ∈ ledger.created, isSafeTenantId g.tenantId = true) (own : Owned s ledger)
    (tr : Traced s) (acts : ActsFor A s e) (h : step cfg s e = some t) {c : Nat}
    {outcome : Outcome} (answered : .answered c outcome ∈ t.history) :
    .answered c outcome ∈ s.history ∨ Returns A s ledger c outcome := by
  cases e with
  | call call d =>
    have made : makeCall cfg s call d = t := by simpa only [step, Option.some.injEq] using h
    rw [← made] at answered
    rcases makeCall_answers acts answered with before | ⟨e, rfl⟩
    · exact .inl before
    · exact .inr (.rejected e)
  | settle c' reply d =>
    obtain ⟨p, hp, hs⟩ := Option.bind_eq_some_iff.mp h
    obtain ⟨call, called, owner⟩ := acts
    have other : ∀ id tenantId, p ≠ .creating id tenantId := by
      rintro id tenantId rfl
      obtain ⟨call', called', context, rfl, -⟩ := tr.parked c' _ hp
      obtain rfl := tr.once c' _ _ called called'
      cases owner
    rcases settle_answers other hs answered with before | ⟨rfl, rfl | ⟨e, rfl⟩ |
      ⟨resource, operation, reply, rfl, rfl⟩⟩
    · exact .inl before
    · exact .inr .burned
    · exact .inr (.rejected e)
    · obtain ⟨call', called', g, hg, named, rfl⟩ := own.used c _ resource hp rfl
      obtain rfl := tr.once c _ _ called called'
      obtain ⟨id, named'⟩ := Call.owner_key owner
      have mine := owner_of_key safe tenants hg (Option.some.inj (named.symm.trans named'))
      have created : ⟨A, g.sessionId, g.resource⟩ ∈ ledger.created := by
        rw [← mine]
        exact hg
      exact .inr (.tab reply hp created)
  | resume c' d =>
    obtain ⟨p, hp, hs⟩ := Option.bind_eq_some_iff.mp h
    obtain ⟨call, called, owner⟩ := acts
    obtain ⟨call', called', goes⟩ := tr.parked c' p hp
    obtain rfl := tr.once c' _ _ called called'
    have other : ∀ r token k ref, p ≠ .observed r (.exchange token k ref) ∧
        p ≠ .observed r (.authorize token k) := by
      intro r token k ref
      constructor <;> rintro rfl <;> obtain ⟨_, ⟨-, rfl⟩, -⟩ := goes <;> cases owner
    rcases resume_answers other hs answered with before | ⟨rfl, ⟨r, rfl, rfl⟩ | ⟨ticket, rfl⟩ |
      ⟨e, rfl⟩⟩
    · exact .inl before
    · have hr := own.parked c _ r hp rfl
      obtain ⟨k, ⟨context, id, rfl, rfl⟩, under⟩ := goes
      cases owner
      exact .inr (.viewed r (owner_of_key safe tenants hr (under r rfl).symm) hr)
    · exact .inr (.ticketIssued ticket)
    · exact .inr (.rejected e)

theorem Returns.mono {ledger' : Ledger} {c : Nat} {outcome : Outcome}
    (sub : ∀ g ∈ ledger.created, g ∈ ledger'.created) (h : Returns A s ledger c outcome) :
    Returns A s ledger' c outcome := by
  cases h with
  | viewed r mine hr => exact .viewed r mine (sub _ hr)
  | ticketIssued ticket => exact .ticketIssued ticket
  | tab reply hp hg => exact .tab reply hp (sub _ hg)
  | burned => exact .burned
  | rejected e => exact .rejected e

/-- The runtime calls and the revocations that a step notes down. -/
theorem transition_reaches {c : Nat} {old new : Option Pending} {store : Store} {es : List Entry}
    (ht : Transition cfg s e c old new store es) :
    (∀ c' request, .requested c' request ∈ es → c' = c ∧
      (request.resource.isSome = true ∨ old = none ∧ ∃ context, e = .call (.create context) e.draw)) ∧
    ∀ id, .revoked id ∈ es → ∃ k r, r.id = id ∧
      ((old = none ∧ ∃ context id, e = .call (.burn context id) e.draw ∧
        k = key context.tenantId id ∧ s.store.sessions.get k = some r) ∨ ∃ caller, old = some (.inspecting k r caller)) := by
  have quiet : ∀ {es}, QuietEntries c new es →
      (∀ c' request, .requested c' request ∈ es → c' = c ∧ request.resource.isSome = true) ∧
      ∀ id, .revoked id ∉ es := by
    intro es he
    cases he with
    | still | done => simp
    | asked p asks =>
      refine ⟨fun c' request hm => ?_, by simp⟩
      cases List.mem_singleton.mp hm
      cases p <;> cases asks <;> exact ⟨rfl, rfl⟩
  -- the entry that names the call is neither
  have plus : ∀ {es call}, QuietEntries c new es →
      (∀ c' request, .requested c' request ∈ es ++ [.called c call] →
        c' = c ∧ request.resource.isSome = true) ∧
      ∀ id, .revoked id ∉ es ++ [.called c call] := by
    intro es call he
    refine ⟨fun c' request hm => (quiet he).1 c' request ?_, fun id hm => (quiet he).2 id ?_⟩
    · simpa using hm
    · simpa using hm
  cases ht with
  | moved _ _ he =>
    refine ⟨fun c' request hm => ?_, fun id hm => absurd hm ((quiet he).2 id)⟩
    obtain ⟨here, some⟩ := (quiet he).1 c' request hm
    exact ⟨here, .inl some⟩
  | begun _ _ he | ticketTaken _ _ he | tokenTaken _ _ he =>
    refine ⟨fun c' request hm => ?_, fun id hm => absurd hm ((plus he).2 id)⟩
    obtain ⟨here, some⟩ := (plus he).1 c' request hm
    exact ⟨here, .inl some⟩
  | reserved ev =>
    refine ⟨fun c' request hm => ?_, by simp⟩
    simp only [List.mem_cons, Entry.requested.injEq, reduceCtorEq, List.not_mem_nil, or_false] at hm
    exact ⟨hm.1, .inr ⟨rfl, _, ev⟩⟩
  | burning ev hb =>
    refine ⟨fun c' request hm => ?_, fun id hm => ?_⟩
    · simp only [List.mem_cons, Entry.requested.injEq, reduceCtorEq, List.not_mem_nil, or_false] at hm
      obtain ⟨rfl, rfl⟩ := hm
      exact ⟨rfl, .inl rfl⟩
    · simp only [List.mem_cons, Entry.revoked.injEq, reduceCtorEq, List.not_mem_nil, or_false,
        false_or] at hm
      exact ⟨_, _, hm.symm, .inl ⟨rfl, _, _, ev, rfl, hb⟩⟩
  | lost =>
    refine ⟨by simp, fun id hm => ?_⟩
    simp only [List.mem_singleton, Entry.revoked.injEq] at hm
    exact ⟨_, _, hm.symm, .inr ⟨_, rfl⟩⟩
  | _ => simp

/-- **One step of a tenant's call** stays with the tenant. -/
theorem confined_step (safe : isSafeTenantId A = true) {ledger' : Ledger}
    (noted : ledger' = Ledger.note s e t ledger)
    (tenants : ∀ g ∈ ledger'.created, isSafeTenantId g.tenantId = true) (wf : Wf cfg s)
    (wf' : Wf cfg t) (own : Owned s ledger) (own' : Owned t ledger') (tr : Traced s)
    (tr' : Traced t) (ix : Indexed s.store) (fresh : Unused cfg s.store e.draw)
    (acts : ActsFor A s e) (h : step cfg s e = some t) :
    ∃ es, t.history = es ++ s.history ∧ Confined A s t ledger' es := by
  have sub : ∀ g ∈ ledger.created, g ∈ ledger'.created := by
    rw [noted]
    exact fun g hg => created_kept hg
  have tenants₀ : ∀ g ∈ ledger.created, isSafeTenantId g.tenantId = true := fun g hg =>
    tenants g (sub g hg)
  have returns : ∀ c outcome, .answered c outcome ∈ t.history →
      .answered c outcome ∈ s.history ∨ Returns A s ledger c outcome := fun _ _ =>
    acting_returns safe tenants₀ own tr acts h
  obtain ⟨c, old, new, store, es, call, stands, ht, rfl, called, owner, goes, begins⟩ :=
    acting_transition tr acts h
  obtain ⟨id, named⟩ := Call.owner_key owner
  obtain ⟨same, reservations⟩ := acting_writes ix fresh ht owner named goes begins
  -- a record of another tenant is under another key
  have elsewhere : ∀ {k : String} {r : SessionRecord}, r.creation ∈ ledger'.created →
      k = key r.tenantId r.id → r.tenantId ≠ A → k ≠ key A id := by
    rintro k r hr rfl other here
    exact other (key_inj_safe (tenants _ hr) safe here).1
  obtain ⟨asked, revoked⟩ := transition_reaches ht
  refine ⟨es, rfl, ?records, ?credentials, reservations, ?requests, ?revocations, ?answers⟩
  case records =>
    intro k r other
    rw [advance_store]
    constructor
    · intro hr
      rw [← same.sessions k (elsewhere (own'.stored k r hr) (wf'.stored k r hr).under other)]
      exact hr
    · intro hr
      rw [same.sessions k (elsewhere (sub _ (own.stored k r hr)) (wf.stored k r hr).under other)]
      exact hr
  case credentials =>
    intro k r hr other
    have apart := elsewhere (sub _ (own.stored k r hr)) (wf.stored k r hr).under other
    refine ⟨same.credentials k apart, ?_⟩
    rintro hash b rfl
    exact ⟨same.tickets hash b apart, same.tokens hash b apart⟩
  case requests =>
    intro c' request hm
    obtain ⟨rfl, some | ⟨made, context, ev⟩⟩ := asked c' request hm
    · obtain ⟨resource, hr⟩ := Option.isSome_iff_exists.mp some
      obtain ⟨call', called', -, g, hg, rfl, keyed⟩ :=
        own'.requested c' request resource (List.mem_append_left _ hm) hr
      obtain rfl := tr'.once c' _ _ called called'
      have mine := owner_of_key safe tenants hg (keyed _ named)
      refine ⟨g.sessionId, g.resource, hr, ?_⟩
      rw [← mine]
      exact hg
    · cases ev.symm.trans (begins made)
      cases owner
  case revocations =>
    intro sid hm
    obtain ⟨k, r, rfl, ⟨made, context, id', ev, rfl, hr⟩ | ⟨caller, rfl⟩⟩ := revoked sid hm
    · cases ev.symm.trans (begins made)
      cases owner
      have held := own.stored _ r hr
      have mine := owner_of_key safe tenants₀ held (wf.stored _ r hr).under.symm
      exact ⟨r.runtime, sub _ (by rw [← mine]; exact held)⟩
    · have hr := own.parked c _ r stands rfl
      have under := (wf.held c _ k r stands rfl).under
      have here := Caller.Continues.sessionKey (goes _ rfl) named
      have mine := owner_of_key safe tenants₀ hr (under.symm.trans here)
      exact ⟨r.runtime, sub _ (by rw [← mine]; exact hr)⟩
  case answers =>
    intro c' outcome hm
    rcases returns c' outcome (List.mem_append_left _ hm) with before | now
    · -- a call is answered once, and this one was not yet
      obtain ⟨rfl, -⟩ := (transition_answered ht).1 c' outcome hm
      obtain ⟨gone, call', called'⟩ := tr.answered c' outcome before
      cases old with
      | none =>
        have := tr.numbered c' call' called'
        simp only [State.Stands] at stands
        omega
      | some p => cases stands.symm.trans gone
    · exact now.mono sub

end

end Fireball.Session
