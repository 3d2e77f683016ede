import Fireball.Session.Credentials
import Fireball.Session.Trace

/-!
# Rotation

Every accepted token was minted for the ticket that was the latest one of its
session when the token was presented, as long as no exchange mints for a ticket
that a rotation has replaced while the exchange was waiting for the runtime.
`MintsLatest` asks that of each step; `exchangeSignalingTicket` does not.

* `latest_advance`: only a rotation changes the latest ticket, and it leaves the
  session without tokens;
* `RotationWf`: every stored token, and every token an authorization goes on with,
  belongs to the latest ticket of its time;
* `rotation_revokes`: what follows for a token presented after a rotation.
-/

namespace Fireball.Session

open Foundation

/-! ## Tickets in the history -/

/-- The call that was given number `c`. -/
def callOf (c : Nat) : List Entry → Option Call
  | [] => none
  | .called c' call :: older => if c' = c then some call else callOf c older
  | _ :: older => callOf c older

/-- The session key and the ticket of an entry that hands out a ticket. -/
def ticketFor (older : List Entry) : Entry → Option (String × String)
  | .answered c (.created session ticket) => match callOf c older with
    | some (.create context) => some (key context.tenantId session.id, ticket.signalingTicket)
    | _ => none
  | .answered c (.ticketIssued ticket) => match callOf c older with
    | some (.issueSignalingTicket context id) =>
      some (key context.tenantId id, ticket.signalingTicket)
    | _ => none
  | _ => none

/-- The ticket that the last rotation of session `k` handed out. -/
def latestTicket (k : String) : List Entry → Option String
  | [] => none
  | entry :: older => match ticketFor older entry with
    | some (k', ticket) => if k' = k then some ticket else latestTicket k older
    | none => latestTicket k older

/-- An exchange of `ticket` was answered with `token`. -/
def Minted (history : List Entry) (ticket token : String) : Prop :=
  ∃ c ttl, .called c (.exchangeSignalingTicket ticket) ∈ history ∧
    .answered c (.tokenIssued ⟨token, ttl⟩) ∈ history

/-- `ticket` was handed out for session `k` by an entry newer than `before`. -/
def IssuedSince (history before : List Entry) (k ticket : String) : Prop :=
  ∃ newer entry older, history = newer ++ entry :: older ∧ before <:+ older ∧
    ticketFor older entry = some (k, ticket)

theorem callOf_mem {c : Nat} {history : List Entry} {call : Call}
    (h : callOf c history = some call) : .called c call ∈ history := by
  induction history with
  | nil => cases h
  | cons entry older ih =>
    cases entry with
    | called c' call' =>
      simp only [callOf] at h
      split at h
      · rename_i same
        cases h
        exact same ▸ List.mem_cons_self ..
      · exact List.mem_cons_of_mem _ (ih h)
    | _ => exact List.mem_cons_of_mem _ (ih h)

theorem callOf_isSome {c : Nat} {history : List Entry} {call : Call}
    (h : .called c call ∈ history) : ∃ call', callOf c history = some call' := by
  induction history with
  | nil => cases h
  | cons entry older ih =>
    cases entry with
    | called c' call' =>
      simp only [callOf]
      split
      · exact ⟨call', rfl⟩
      · rename_i other
        simp only [List.mem_cons, Entry.called.injEq, Ne.symm other, false_and, false_or] at h
        exact ih h
    | _ => exact ih (by simpa using h)

theorem callOf_eq {s : State} (tr : Traced s) {c : Nat} {call : Call}
    (h : .called c call ∈ s.history) : callOf c s.history = some call := by
  obtain ⟨call', h'⟩ := callOf_isSome h
  rw [h', tr.once c call' call (callOf_mem h') h]

theorem latest_cons_none {entry : Entry} {older : List Entry} (k : String)
    (h : ticketFor older entry = none) :
    latestTicket k (entry :: older) = latestTicket k older := by
  simp only [latestTicket, h]

theorem issuedSince_append {history before : List Entry} {k ticket : String} (es : List Entry)
    (h : IssuedSince history before k ticket) : IssuedSince (es ++ history) before k ticket := by
  obtain ⟨newer, entry, older, rfl, suffix, issued⟩ := h
  exact ⟨es ++ newer, entry, older, by rw [List.append_assoc], suffix, issued⟩

/-- Behind a rotation of `k`, the latest ticket of `k` is that rotation's or a later one's. -/
theorem latest_since {after before : List Entry} {R : Entry} {k first ticket : String}
    (rotation : ticketFor before R = some (k, first))
    (latest : latestTicket k (after ++ R :: before) = some ticket) :
    IssuedSince (after ++ R :: before) before k ticket := by
  induction after with
  | nil =>
    simp only [List.nil_append, latestTicket, rotation, if_true, Option.some.injEq] at latest
    exact ⟨[], R, before, rfl, List.suffix_refl _, by rw [rotation, latest]⟩
  | cons entry after ih =>
    simp only [List.cons_append, latestTicket] at latest
    split at latest
    · rename_i k' ticket' issued
      split at latest
      · rename_i same
        subst same
        cases latest
        refine ⟨[], entry, _, rfl, ?_, issued⟩
        exact (List.suffix_cons R before).trans (List.suffix_append after _)
      · exact issuedSince_append [entry] (ih latest)
    · exact issuedSince_append [entry] (ih latest)

theorem minted_append {history : List Entry} {ticket token : String} (es : List Entry)
    (h : Minted history ticket token) : Minted (es ++ history) ticket token := by
  obtain ⟨c, ttl, called, answered⟩ := h
  exact ⟨c, ttl, List.mem_append_right _ called, List.mem_append_right _ answered⟩

theorem minted_issued {history : List Entry} {ticket token : String}
    (h : Minted history ticket token) : token ∈ issuedCredentials history := by
  obtain ⟨c, ttl, -, answered⟩ := h
  exact List.mem_filterMap.mpr ⟨_, answered, rfl⟩

/-- A ticket is handed out as a credential. -/
theorem ticketFor_issued {older : List Entry} {entry : Entry} {k ticket : String}
    (h : ticketFor older entry = some (k, ticket)) : issuedCredentials [entry] = [ticket] := by
  cases entry with
  | answered c outcome =>
    cases outcome with
    | created session issued =>
      simp only [ticketFor] at h
      split at h
      · cases h; rfl
      · cases h
    | ticketIssued issued =>
      simp only [ticketFor] at h
      split at h
      · cases h; rfl
      · cases h
    | _ => cases h
  | _ => cases h

/-- No credential is handed out twice, so none of before is one of since. -/
theorem issuedSince_not_before {history before : List Entry} {k ticket : String}
    (once : (issuedCredentials history).Nodup) (h : IssuedSince history before k ticket) :
    ticket ∉ issuedCredentials before := by
  obtain ⟨newer, entry, older, rfl, ⟨between, rfl⟩, issued⟩ := h
  have entries : issuedCredentials (newer ++ entry :: (between ++ before)) =
      issuedCredentials newer ++ (issuedCredentials [entry] ++
        (issuedCredentials between ++ issuedCredentials before)) := by
    simp only [issuedCredentials, ← List.filterMap_append]
    rfl
  rw [entries, ticketFor_issued issued] at once
  intro hm
  have fresh := (List.nodup_cons.mp (List.nodup_append.mp once).2.1).1
  exact fresh (by simp [hm])

/-! ## The assumptions -/

/-- A presented token has the hash of no other credential handed out. -/
def NoCollision (cfg : Config) (s : State) : Event → Prop
  | .call (.authorizeSignalingToken token) _ =>
    ∀ issued ∈ issuedCredentials s.history, cfg.sha256 issued = cfg.sha256 token → issued = token
  | _ => True

/-- When an exchange goes on to mint its token, the ticket that it consumed is
still the latest one of its session. -/
def MintsLatest (s : State) : Event → Prop
  | .resume c _ => match s.calls.get c with
    | some (.observed (.ok record) (.exchange ticket k ref)) =>
      match s.store.credentialsBySession.get k with
      | some credentials => record.phase = .active → credentials.ref = ref →
        latestTicket k s.history = some ticket
      | none => True
    | _ => True
  | _ => True

instance (cfg : Config) (s : State) (e : Event) : Decidable (NoCollision cfg s e) := by
  unfold NoCollision; split <;> infer_instance

/-- `MintsLatest` as a test. -/
def mintsLatest (s : State) : Event → Bool
  | .resume c _ => match s.calls.get c with
    | some (.observed (.ok record) (.exchange ticket k ref)) =>
      match s.store.credentialsBySession.get k with
      | some credentials => decide (record.phase = .active → credentials.ref = ref →
        latestTicket k s.history = some ticket)
      | none => true
    | _ => true
  | _ => true

theorem mintsLatest_iff (s : State) (e : Event) : mintsLatest s e = true ↔ MintsLatest s e := by
  unfold mintsLatest MintsLatest
  split
  · split
    · split
      · exact decide_eq_true_iff
      · exact iff_of_true rfl trivial
    · exact iff_of_true rfl trivial
  · exact iff_of_true rfl trivial

instance (s : State) (e : Event) : Decidable (MintsLatest s e) :=
  decidable_of_iff _ (mintsLatest_iff s e)

/-- The steps of a run in which credentials are fresh and presented tokens do not collide. -/
def FreshHashes (cfg : Config) (s : State) (e : Event) : Prop :=
  FreshDraw cfg s e ∧ NoCollision cfg s e

/-- Such steps that mint only for the latest ticket. -/
def RotationSafe (cfg : Config) (s : State) (e : Event) : Prop :=
  FreshHashes cfg s e ∧ MintsLatest s e

instance (cfg : Config) (s : State) (e : Event) : Decidable (FreshHashes cfg s e) := by
  unfold FreshHashes; infer_instance

instance (cfg : Config) (s : State) (e : Event) : Decidable (RotationSafe cfg s e) := by
  unfold RotationSafe; infer_instance

/-! ## One step -/

theorem quiet_latest {c : Nat} {new : Option Pending} {es : List Entry}
    (h : QuietEntries c new es) (history : List Entry) (k : String) :
    latestTicket k (es ++ history) = latestTicket k history := by
  cases h with
  | still => rfl
  | asked => rfl
  | done ho =>
    rename_i outcome
    refine latest_cons_none k ?_
    cases outcome with
    | created | ticketIssued => exact absurd ho id
    | _ => rfl

section
variable {cfg : Config} {s t : State} {e : Event} {c : Nat} {old new : Option Pending}
  {store : Store} {es : List Entry}

/-- Only a rotation changes the latest ticket of a session, and it leaves the
session without tokens. -/
theorem latest_advance (tr : Traced s) (stands : s.Stands c old)
    (ht : Transition cfg s e c old new store es) (k : String) :
    latestTicket k (es ++ s.history) = latestTicket k s.history ∨
    ∃ cr, store.credentialsBySession.get k = some cr ∧ cr.signalingTokenHashes = .empty := by
  have rotated : ∀ base k₀ cr d, (rotatedStore cfg base k₀ cr d).credentialsBySession.get k₀ =
      some { cr with
        pairingTicketHash := some (cfg.sha256 d.credential), signalingTokenHashes := .empty } := by
    intro base k₀ cr d
    simp [rotatedStore]
  cases ht with
  | moved _ _ he => exact .inl (quiet_latest he _ k)
  | begun _ _ he | ticketTaken _ _ he | tokenTaken _ _ he =>
    rw [List.append_assoc, quiet_latest he]
    exact .inl rfl
  | created _ ok =>
    obtain ⟨cr, -, rfl, -⟩ := rotate_ok ok
    obtain ⟨call, called, context, rfl, rfl⟩ := tr.parked c _ stands
    rename_i id runtime ticket _
    by_cases same : key context.tenantId id = k
    · subst same
      exact .inr ⟨_, rotated _ _ cr e.draw, rfl⟩
    · simp [latestTicket, ticketFor, callOf_eq tr called, same]
  | rotated ok =>
    obtain ⟨cr, -, rfl, -⟩ := rotate_ok ok
    obtain ⟨call, called, k', ⟨rfl, context, id, rfl, rfl⟩, -⟩ := tr.parked c _ stands
    by_cases same : key context.tenantId id = k
    · subst same
      exact .inr ⟨_, rotated _ _ cr e.draw, rfl⟩
    · simp [latestTicket, ticketFor, callOf_eq tr called, same]
  | _ => exact .inl rfl

/-- A ticket that is stored after a step was stored before, or has just been handed out. -/
theorem ticket_advance (ht : Transition cfg s e c old new store es) {hash : String}
    {b : CredentialBinding} (h : store.pairingTickets.get hash = some b) :
    s.store.pairingTickets.get hash = some b ∨
    hash = cfg.sha256 e.draw.credential ∧
    b.expiresAt = e.draw.now + cfg.pairingTicketTTLSeconds * 1000 ∧
    ∃ issued, issued.signalingTicket = e.draw.credential ∧
      ((∃ id tenantId session, old = some (.creating id tenantId) ∧ b.sessionKey = key tenantId id ∧
        session.id = id ∧ es = [.answered c (.created session issued)]) ∨
      ∃ record, old = some (.observed (.ok record) (.issueSignalingTicket b.sessionKey)) ∧
        es = [.answered c (.ticketIssued issued)]) := by
  cases ht with
  | reserved _ ok => rw [(reserve_ok ok).2.2.2.2.2] at h; exact .inl h
  | created _ ok =>
    obtain ⟨cr, -, rfl, rfl⟩ := rotate_ok ok
    change (JsMap.set _ _ _).get hash = some b at h
    rw [JsMap.get_set] at h
    split at h
    · rename_i same
      cases h
      exact .inr ⟨same.symm, rfl, _, rfl, .inl ⟨_, _, _, rfl, rfl, rfl, rfl⟩⟩
    · exact .inl ((forget_within _ cr).tickets hash b h)
  | ticketTaken => exact .inl ((takeTicket_within _ _).tickets hash b h)
  | tokenTaken => exact .inl ((takeToken_within _ _).tickets hash b h)
  | rotated ok =>
    obtain ⟨cr, -, rfl, rfl⟩ := rotate_ok ok
    change (JsMap.set _ _ _).get hash = some b at h
    rw [JsMap.get_set] at h
    split at h
    · rename_i same
      cases h
      exact .inr ⟨same.symm, rfl, _, rfl, .inr ⟨_, rfl, rfl⟩⟩
    · exact .inl ((forget_within _ cr).tickets hash b h)
  | burning | lost => exact .inl ((revoke_within _ _).tickets hash b h)
  | _ => exact .inl h

/-- A token that is stored after a step was stored before, or has just been minted. -/
theorem token_advance (ht : Transition cfg s e c old new store es) {hash : String}
    {b : CredentialBinding} (h : store.signalingTokens.get hash = some b) :
    s.store.signalingTokens.get hash = some b ∨
    hash = cfg.sha256 e.draw.credential ∧
    b.expiresAt = e.draw.now + cfg.signalingTokenTTLSeconds * 1000 ∧
    ∃ record ticket credentials ttl,
      old = some (.observed (.ok record) (.exchange ticket b.sessionKey credentials.ref)) ∧
      e = .resume c e.draw ∧ s.store.credentialsBySession.get b.sessionKey = some credentials ∧
      record.phase = .active ∧ es = [.answered c (.tokenIssued ⟨e.draw.credential, ttl⟩)] := by
  cases ht with
  | reserved _ ok => rw [(reserve_ok ok).2.2.2.2.2] at h; exact .inl h
  | created _ ok =>
    obtain ⟨cr, -, rfl, -⟩ := rotate_ok ok
    exact .inl ((forget_within _ cr).tokens hash b h)
  | ticketTaken => exact .inl ((takeTicket_within _ _).tokens hash b h)
  | tokenTaken => exact .inl ((takeToken_within _ _).tokens hash b h)
  | rotated ok =>
    obtain ⟨cr, -, rfl, -⟩ := rotate_ok ok
    exact .inl ((forget_within _ cr).tokens hash b h)
  | minted ev hcr active =>
    simp only [mintSignalingToken, JsMap.get_set] at h
    split at h
    · rename_i same
      cases h
      exact .inr ⟨same.symm, rfl, _, _, _, _, rfl, ev, hcr, active, rfl⟩
    · exact .inl h
  | burning | lost => exact .inl ((revoke_within _ _).tokens hash b h)
  | _ => exact .inl h

/-- A step hands out at most the credential that it drew. -/
theorem transition_issues (ht : Transition cfg s e c old new store es) :
    issuedCredentials es = [] ∨ issuedCredentials es = [e.draw.credential] := by
  have quiet : ∀ {new es}, QuietEntries c new es → issuedCredentials es = [] := by
    intro new es he
    cases he with
    | still | asked => rfl
    | done ho =>
      rename_i outcome
      cases outcome with
      | created | ticketIssued | tokenIssued => exact absurd ho id
      | _ => rfl
  cases ht with
  | moved _ _ he => exact .inl (quiet he)
  | begun _ _ he | ticketTaken _ _ he | tokenTaken _ _ he =>
    refine .inl ?_
    simp only [issuedCredentials, List.filterMap_append] at *
    rw [quiet he]
    rfl
  | created _ ok =>
    obtain ⟨cr, -, -, rfl⟩ := rotate_ok ok
    exact .inr rfl
  | rotated ok =>
    obtain ⟨cr, -, -, rfl⟩ := rotate_ok ok
    exact .inr rfl
  | minted => exact .inr rfl
  | _ => exact .inl rfl

/-- A fresh draw keeps every credential handed out once. -/
theorem issuedOnce_step {t : State} (fresh : FreshCredential cfg s e) (h : step cfg s e = some t)
    (once : (issuedCredentials s.history).Nodup) : (issuedCredentials t.history).Nodup := by
  have unissued : e.draw.credential ∉ issuedCredentials s.history := fun hm =>
    fresh (List.mem_map_of_mem hm)
  obtain ⟨c, old, new, store, es, -, ht, rfl⟩ := step_transition h
  have append : issuedCredentials (es ++ s.history) =
      issuedCredentials es ++ issuedCredentials s.history := List.filterMap_append
  rw [advance_history, append]
  rcases transition_issues ht with none | one
  · rw [none]
    exact once
  · rw [one]
    exact List.nodup_cons.mpr ⟨unissued, once⟩

/-- Only an authorization that has observed an active record authorizes. -/
theorem transition_authorizes (ht : Transition cfg s e c old new store es) {c' : Nat}
    {a : SignalingAuthorization} (h : .answered c' (.authorized a) ∈ es) :
    c' = c ∧ ∃ record token k, old = some (.observed (.ok record) (.authorize token k)) ∧
      record.phase = .active ∧ a.sessionId = record.id ∧ a.tenantId = record.tenantId := by
  have quiet : ∀ {new es}, QuietEntries c new es → .answered c' (.authorized a) ∉ es := by
    intro new es he
    cases he with
    | still | asked => simp
    | done ho =>
      rename_i outcome
      cases outcome with
      | authorized => exact absurd ho id
      | _ => simp
  cases ht with
  | moved _ _ he => exact absurd h (quiet he)
  | begun _ _ he | ticketTaken _ _ he | tokenTaken _ _ he =>
    rcases List.mem_append.mp h with h | h
    · exact absurd h (quiet he)
    · simp at h
  | authorized active =>
    simp only [List.mem_singleton, Entry.answered.injEq, Outcome.authorized.injEq] at h
    obtain ⟨rfl, rfl⟩ := h
    exact ⟨rfl, _, _, _, rfl, active, rfl, rfl⟩
  | _ => simp at h

end

/-! ## Authorizations -/

/-- The caller that a parked call will resume. -/
def Pending.caller : Pending → Option Caller
  | .inspecting _ _ caller => some caller
  | .observed _ caller => some caller
  | _ => none

section
variable {cfg : Config} {s t : State} {d : Draw}

/-- An authorization goes on only with a token that is stored. -/
theorem authorize_parked {call : Call} {p : Pending} {token k : String}
    (hp : (makeCall cfg s call d).calls.get s.nextCall = some p)
    (hc : p.caller = some (.authorize token k)) :
    call = .authorizeSignalingToken token ∧
      boundTo s.store.signalingTokens (cfg.sha256 token) = some k := by
  rcases makeCall_parked hp with ⟨context, rfl, rfl⟩ |
    ⟨k', r, caller, stored, goes, parked, bound⟩ | ⟨context, id, _, _, rfl, rfl⟩ |
    ⟨context, id, _, rfl, rfl⟩
  · cases hc
  · have same : caller = .authorize token k := by
      rcases parked with ⟨rfl, -⟩ | rfl <;> exact Option.some.inj hc
    subst same
    obtain ⟨binding, hb, rfl⟩ := bound token k rfl
    exact ⟨goes.2, by simp [boundTo, hb]⟩
  · cases hc
  · cases hc

theorem caller_settle {c : Nat} {p p' : Pending} {reply : RuntimeReply} {caller : Caller}
    (h : settle cfg s c d p reply = some t) (hp : t.calls.get c = some p')
    (hc : p'.caller = some caller) : p.caller = some caller := by
  obtain ⟨k, r, caller', result, rfl, rfl, -⟩ := settle_parked h hp
  exact hc

/-- A call that resumes waits for no `observeRuntime` any more. -/
theorem caller_resume {c : Nat} {p p' : Pending} {caller : Caller}
    (h : resume cfg s c d p = some t) (hp : t.calls.get c = some p') :
    p'.caller ≠ some caller := by
  rcases resume_parked h hp with ⟨_, _, _, -, rfl, -⟩ | ⟨_, _, -, rfl⟩ <;> simp [Pending.caller]

/-- What a parked call will resume it was parked with, or it has just been made. -/
theorem caller_step {e : Event} (h : step cfg s e = some t) {c : Nat} {p : Pending}
    {caller : Caller} (hp : t.calls.get c = some p) (hc : p.caller = some caller) :
    (∃ q, s.calls.get c = some q ∧ q.caller = some caller) ∨
    ∃ call d, e = .call call d ∧ c = s.nextCall ∧ makeCall cfg s call d = t := by
  cases e with
  | call call d =>
    obtain ⟨new, store, es, -, eq⟩ := makeCall_transition cfg s call d
    have made : makeCall cfg s call d = t := by simpa only [step, Option.some.injEq] using h
    by_cases here : s.nextCall = c
    · exact .inr ⟨call, d, rfl, here.symm, made⟩
    · rw [← made, eq, advance_calls, if_neg here] at hp
      exact .inl ⟨p, hp, hc⟩
  | settle c' reply d =>
    obtain ⟨q, hq, hs⟩ := Option.bind_eq_some_iff.mp h
    by_cases here : c' = c
    · subst here
      exact .inl ⟨q, hq, caller_settle hs hp hc⟩
    · obtain ⟨new, store, es, -, rfl⟩ := settle_transition hs
      rw [advance_calls, if_neg here] at hp
      exact .inl ⟨p, hp, hc⟩
  | resume c' d =>
    obtain ⟨q, hq, hs⟩ := Option.bind_eq_some_iff.mp h
    by_cases here : c' = c
    · subst here
      exact absurd hc (caller_resume hs hp)
    · obtain ⟨new, store, es, -, rfl⟩ := resume_transition hs
      rw [advance_calls, if_neg here] at hp
      exact .inl ⟨p, hp, hc⟩

end

/-- Call `c` presented a token that was minted for the ticket that was the
latest one of session `k` at that moment. -/
def AcceptedFrom (history : List Entry) (c : Nat) (k : String) : Prop :=
  ∃ newer token older ticket, history = newer ++ .called c (.authorizeSignalingToken token) :: older ∧
    (∀ call, .called c call ∉ newer) ∧ (∀ call, .called c call ∉ older) ∧
    Minted older ticket token ∧ latestTicket k older = some ticket

theorem acceptedFrom_append {history es : List Entry} {c : Nat} {k : String}
    (other : ∀ call, .called c call ∉ es) (h : AcceptedFrom history c k) :
    AcceptedFrom (es ++ history) c k := by
  obtain ⟨newer, token, older, ticket, rfl, before, after, minted, latest⟩ := h
  refine ⟨es ++ newer, token, older, ticket, by rw [List.append_assoc], ?_, after, minted, latest⟩
  intro call hm
  rcases List.mem_append.mp hm with hm | hm
  · exact other call hm
  · exact before call hm

/-- Where the tokens come from, stored ones and accepted ones. -/
structure RotationWf (cfg : Config) (s : State) : Prop where
  stored : ∀ hash k, boundTo s.store.signalingTokens hash = some k →
    ∃ token ticket, cfg.sha256 token = hash ∧ Minted s.history ticket token ∧
      latestTicket k s.history = some ticket
  parked : ∀ c p token k, s.calls.get c = some p → p.caller = some (.authorize token k) →
    AcceptedFrom s.history c k
  accepted : ∀ c a, .answered c (.authorized a) ∈ s.history →
    AcceptedFrom s.history c (key a.tenantId a.sessionId)
  issuedOnce : (issuedCredentials s.history).Nodup

theorem rotationWf_initial (cfg : Config) : RotationWf cfg State.initial where
  stored := by intro hash k h; simp [State.initial, Store.empty, boundTo] at h
  parked := by intro c p token k h; simp [State.initial] at h
  accepted := by intro c a h; simp [State.initial] at h
  issuedOnce := List.nodup_nil

section
variable {cfg : Config} {s t : State} {e : Event}

/-- A stored token belongs to the latest ticket after the step as before. -/
theorem stored_step (tr : Traced s) (ix : Indexed t.store) (mints : MintsLatest s e)
    (h : step cfg s e = some t) (inv : RotationWf cfg s) {hash k : String}
    (bound : boundTo t.store.signalingTokens hash = some k) :
    ∃ token ticket, cfg.sha256 token = hash ∧ Minted t.history ticket token ∧
      latestTicket k t.history = some ticket := by
  obtain ⟨c, old, new, store, es, stands, ht, rfl⟩ := step_transition h
  have unrotated : latestTicket k (es ++ s.history) = latestTicket k s.history := by
    rcases latest_advance tr stands ht k with same | ⟨cr, hcr, empty⟩
    · exact same
    · obtain ⟨cr', hcr', held⟩ := (ix.tokens hash k).mp bound
      rw [advance_store, hcr] at hcr'
      cases hcr'
      simp [HasToken, empty, JsMap.has] at held
  rw [advance_history, unrotated]
  obtain ⟨b, hb, rfl⟩ := Option.map_eq_some_iff.mp bound
  rcases token_advance ht hb with before |
    ⟨rfl, -, record, ticket, credentials, ttl, rfl, ev, hcr, active, rfl⟩
  · have bound' : boundTo s.store.signalingTokens hash = some b.sessionKey :=
      Option.map_eq_some_iff.mpr ⟨b, before, rfl⟩
    obtain ⟨token, ticket, hash', minted, latest⟩ := inv.stored hash b.sessionKey bound'
    exact ⟨token, ticket, hash', minted_append es minted, latest⟩
  · -- minted in this step: the guard says that its ticket is the latest one
    obtain ⟨call, called, k', ⟨rfl, rfl⟩, -⟩ := tr.parked c _ stands
    simp only [State.Stands] at stands
    rw [ev] at mints
    simp only [MintsLatest, stands, hcr] at mints
    refine ⟨e.draw.credential, ticket, rfl, ⟨c, ttl, ?_, ?_⟩, mints active trivial⟩
    · exact List.mem_append_right _ called
    · exact List.mem_append_left _ (List.mem_singleton_self _)

theorem parked_authorization_step (tr : Traced s) (distinct : NoCollision cfg s e)
    (h : step cfg s e = some t) (inv : RotationWf cfg s) {c : Nat} {p : Pending}
    {token k : String} (hp : t.calls.get c = some p)
    (hc : p.caller = some (.authorize token k)) : AcceptedFrom t.history c k := by
  rcases caller_step h hp hc with ⟨q, hq, hqc⟩ | ⟨call, d, rfl, rfl, made⟩
  · -- a call parked before the step keeps its place in the history
    obtain ⟨c', old, new, store, es, stands, ht, rfl⟩ := step_transition h
    obtain ⟨call, called, -⟩ := tr.parked c q hq
    exact acceptedFrom_append (older_not_named tr stands ht called) (inv.parked c q token k hq hqc)
  · obtain ⟨new, store, es, ht, eq⟩ := makeCall_transition cfg s call d
    rw [← made] at hp
    obtain ⟨rfl, bound⟩ := authorize_parked hp hc
    obtain ⟨minted, ticket, hash, from', latest⟩ := inv.stored _ k bound
    obtain rfl := distinct minted (minted_issued from') hash
    rcases transition_called ht with ⟨_, newer, -, ⟨⟩, rfl, none⟩ | ⟨⟨_, ⟨⟩⟩, -⟩
    refine ⟨newer, minted, s.history, ticket, ?_, none s.nextCall, ?_, from', latest⟩
    · rw [← made, eq, advance_history, List.append_assoc]
      rfl
    · intro call' hm
      exact absurd (tr.numbered _ call' hm) (Nat.lt_irrefl _)

theorem accepted_step (tr : Traced s) (h : step cfg s e = some t) (inv : RotationWf cfg s) {c : Nat}
    {a : SignalingAuthorization} (ha : .answered c (.authorized a) ∈ t.history) :
    AcceptedFrom t.history c (key a.tenantId a.sessionId) := by
  obtain ⟨c', old, new, store, es, stands, ht, rfl⟩ := step_transition h
  rcases List.mem_append.mp ha with now | before
  · obtain ⟨rfl, record, token, k, rfl, -, session, tenant⟩ := transition_authorizes ht now
    obtain ⟨call, called, k', ⟨rfl, -⟩, under⟩ := tr.parked c _ stands
    rw [session, tenant, ← under record rfl]
    exact acceptedFrom_append (older_not_named tr stands ht called)
      (inv.parked c _ token k stands rfl)
  · obtain ⟨-, call, called⟩ := tr.answered c _ before
    exact acceptedFrom_append (older_not_named tr stands ht called) (inv.accepted c a before)

theorem rotationWf_step (tr : Traced s) (ix : Indexed t.store) (safe : RotationSafe cfg s e)
    (h : step cfg s e = some t) (inv : RotationWf cfg s) : RotationWf cfg t := by
  exact ⟨fun hash k bound => stored_step tr ix safe.2 h inv bound,
    fun c p token k hp hc => parked_authorization_step tr safe.1.2 h inv hp hc,
    fun c a ha => accepted_step tr h inv ha, issuedOnce_step safe.1.1.2 h inv.issuedOnce⟩

end

theorem reachable_rotationWf {cfg : Config} {s : State}
    (reached : (machine cfg).Reachable (RotationSafe cfg) s) : RotationWf cfg s := by
  refine reached.invariant (rotationWf_initial cfg) ?_
  intro s e t hr inv safe hs
  have tr := reachable_traced (fun s e h => h.1.1.1) hr
  have ix := reachable_credentials (fun s e h => h.1.1) (hr.step safe hs)
  exact rotationWf_step tr ix.indexed safe hs inv

/-! ## After a rotation -/

/-- Every token of session `k` presented after the rotation `R` and accepted was
minted by an exchange of a ticket that `R` or a later rotation handed out, and
that was not handed out before `R`. -/
def RevokesOlder (s : State) : Prop :=
  ∀ after R before k first, s.history = after ++ R :: before →
    ticketFor before R = some (k, first) →
    ∀ c token a, .called c (.authorizeSignalingToken token) ∈ after →
      .answered c (.authorized a) ∈ s.history → key a.tenantId a.sessionId = k →
      ∃ ticket, Minted s.history ticket token ∧ IssuedSince s.history before k ticket ∧
        ticket ∉ issuedCredentials before

/-- **A rotation revokes every older credential**, in a run in which every
exchange that mints a token still holds the latest ticket of its session. -/
theorem rotation_revokes (cfg : Config) {s : State}
    (reached : (machine cfg).Reachable (RotationSafe cfg) s) : RevokesOlder s := by
  intro after R before k first split rotation c token a presented accepted session
  have inv := reachable_rotationWf reached
  obtain ⟨newer, token', older, ticket, split', notNewer, notOlder, minted, latest⟩ :=
    inv.accepted c a accepted
  rw [session] at latest
  obtain ⟨recent, past, rfl⟩ := List.append_of_mem presented
  -- the call is named once, so both splits of the history are the same
  have same : newer ++ .called c (.authorizeSignalingToken token') :: older =
      recent ++ .called c (.authorizeSignalingToken token) :: (past ++ R :: before) := by
    rw [← split', split, List.append_assoc]
    rfl
  obtain ⟨-, ⟨⟩, rfl⟩ := (List.append_cons_inj_of_notMem (notNewer _) (notOlder _)).mp same
  have since := issuedSince_append (newer ++ [.called c (.authorizeSignalingToken token)])
    (latest_since rotation latest)
  have whole : (newer ++ [.called c (.authorizeSignalingToken token)]) ++ (past ++ R :: before) =
      s.history := by
    rw [split', List.append_assoc]
    rfl
  rw [whole] at since
  refine ⟨ticket, ?_, since, issuedSince_not_before inv.issuedOnce since⟩
  rw [← whole]
  exact minted_append _ minted

/-! ## An exchange that a rotation overtakes -/

def credential (last : String) : String := "AAAAAAAAAAAAAAAAAAAAAAAAAAAAAAAAAAAAAAAAAA" ++ last

/-- The runtime of call `c` is found running. -/
def stillRunning (c : Nat) (last : String) : Event :=
  .settle c (.inspected (.ok .running)) (draw 1 0 (credential last))

def continued (c : Nat) (last : String) : Event := .resume c (draw 1 0 (credential last))

/-- A session is created, and its first ticket is `credential "1"`. -/
def firstTicket : List Event :=
  [.call (.create alpha) (draw 0 0 (credential "0")),
    .settle 0 (.created (.ok sampleRuntime)) (draw 1 0 (credential "1"))]

/-- A second ticket is issued, exchanged for a token, and the token presented. -/
def secondTicketUsed : List Event :=
  [.call (.issueSignalingTicket alpha (sampleId 0)) (draw 1 0 (credential "2")),
    stillRunning 1 "2", continued 1 "2",
    .call (.exchangeSignalingTicket (credential "2")) (draw 1 0 (credential "3")),
    stillRunning 2 "3", continued 2 "3",
    .call (.authorizeSignalingToken (credential "3")) (draw 1 0 (credential "4")),
    stillRunning 3 "4", continued 3 "4"]

theorem rotation_revokes_used : ∃ s, (machine sampleConfig).Reachable (RotationSafe sampleConfig) s ∧
    .answered 3 (.authorized ⟨sampleId 0, "alpha", sampleRuntime⟩) ∈ s.history ∧
    RevokesOlder s := by
  have reached : (machine sampleConfig).Reachable (RotationSafe sampleConfig)
      (((machine sampleConfig).runFrom State.initial (firstTicket ++ secondTicketUsed)).get
        (by decide)) :=
    Machine.reaches_end (by decide) _
  exact ⟨_, reached, by decide, rotation_revokes sampleConfig reached⟩

/-- The first ticket is presented, and while its exchange waits for the runtime
a second one is issued. The exchange then mints a token, which is accepted. -/
def overtaken : List Event :=
  [.call (.exchangeSignalingTicket (credential "1")) (draw 1 0 (credential "2")),
    .call (.issueSignalingTicket alpha (sampleId 0)) (draw 1 0 (credential "2")),
    stillRunning 2 "2", continued 2 "2", stillRunning 1 "3", continued 1 "3",
    .call (.authorizeSignalingToken (credential "3")) (draw 1 0 (credential "4")),
    stillRunning 3 "4", continued 3 "4"]

def exchangedTicket : Entry → Option String
  | .called _ (.exchangeSignalingTicket ticket) => some ticket
  | _ => none

/-- A token minted for the first ticket is accepted after the second was issued. -/
theorem rotation_overtaken :
    ∃ s, (machine sampleConfig).Reachable (FreshHashes sampleConfig) s ∧ ¬ RevokesOlder s := by
  let final := ((machine sampleConfig).runFrom State.initial (firstTicket ++ overtaken)).get
    (by decide)
  have reached : (machine sampleConfig).Reachable (FreshHashes sampleConfig) final :=
    Machine.reaches_end (by decide) _
  refine ⟨final, reached, fun revokes => ?_⟩
  obtain ⟨ticket, ⟨c, ttl, exchanged, -⟩, -, fresh⟩ := revokes (final.history.take 4)
    (.answered 2 (.ticketIssued ⟨credential "2", 60⟩)) (final.history.drop 5)
    (key "alpha" (sampleId 0)) (credential "2") (by decide) (by decide) 3 (credential "3")
    ⟨sampleId 0, "alpha", sampleRuntime⟩ (by decide) (by decide) rfl
  have only : ∀ x ∈ final.history.filterMap exchangedTicket, x = credential "1" := by decide
  obtain rfl := only ticket (List.mem_filterMap.mpr ⟨_, exchanged, rfl⟩)
  exact fresh (by decide)

end Fireball.Session
