import Fireball.Foundation.Lists
import Fireball.Session.SingleUse
import Fireball.Session.Tenants

/-!
# Provenance of credentials

The history is dated: each entry carries the clock reading of its step. Every
authorization goes back, through one exchange, to one call that handed the ticket
out, and both strings were presented before they expired.

* `Provenance`: where the stored credentials and the waiting calls come from;
* `issued_once`: a credential is handed out by one answer;
* `credential_provenance`: what follows in every state.
-/

namespace Fireball.Session

open Foundation

/-- The history with the clock reading of each step, newest first. -/
abbrev Log := List (Entry × Nat)

def Log.note (s : State) (e : Event) (t : State) (log : Log) : Log :=
  (t.history.take (t.history.length - s.history.length)).map (·, e.draw.now) ++ log

def dated (cfg : Config) : Machine (State × Log) Event := (machine cfg).watched [] Log.note

/-- The calls and answers without their dates. -/
def Log.entries (log : Log) : List Entry := log.map Prod.fst

/-! ## What a log shows -/

/-- Call `c`, made for session `id` of the tenant, was answered with the ticket. -/
inductive Issued (log : Log) (c : Nat) (tenantId id ticket : String) (now : Nat) : Prop
  | created {context : TenantContext} {session : SessionView} {issued : SignalingTicketIssueResult} :
      .called c (.create context) ∈ log.entries → context.tenantId = tenantId → session.id = id →
      issued.signalingTicket = ticket → (.answered c (.created session issued), now) ∈ log →
      Issued log c tenantId id ticket now
  | reissued {context : TenantContext} {issued : SignalingTicketIssueResult} :
      .called c (.issueSignalingTicket context id) ∈ log.entries → context.tenantId = tenantId →
      issued.signalingTicket = ticket → (.answered c (.ticketIssued issued), now) ∈ log →
      Issued log c tenantId id ticket now

/-- Call `c` exchanged the ticket for the token. -/
def Exchanged (log : Log) (c : Nat) (ticket token : String) (now : Nat) : Prop :=
  .called c (.exchangeSignalingTicket ticket) ∈ log.entries ∧
    ∃ ttl, (.answered c (.tokenIssued ⟨token, ttl⟩), now) ∈ log

/-- Call `c` authorized with the token. -/
def Authorized (log : Log) (c : Nat) (token : String) : Prop :=
  .called c (.authorizeSignalingToken token) ∈ log.entries ∧
    ∃ a, .answered c (.authorized a) ∈ log.entries

/-- Call `c` presented the ticket before it expired; it had been handed out for
session `id` of the tenant. -/
def PresentedTicket (cfg : Config) (log : Log) (c : Nat) (tenantId id ticket : String) : Prop :=
  ∃ issuer issuedAt now, Issued log issuer tenantId id ticket issuedAt ∧
    (.called c (.exchangeSignalingTicket ticket), now) ∈ log ∧
    now < issuedAt + cfg.pairingTicketTTLSeconds * 1000

/-- Call `c` presented the token before it expired; it had been handed out for a
ticket of session `id` of the tenant, which was presented before it expired. -/
def PresentedToken (cfg : Config) (log : Log) (c : Nat) (tenantId id token : String) : Prop :=
  ∃ exchange ticket mintedAt now, Exchanged log exchange ticket token mintedAt ∧
    PresentedTicket cfg log exchange tenantId id ticket ∧
    (.called c (.authorizeSignalingToken token), now) ∈ log ∧
    now < mintedAt + cfg.signalingTokenTTLSeconds * 1000

section
variable {log log' : Log} {c : Nat} {tenantId id ticket token : String} {now : Nat}

theorem entries_sub (sub : log ⊆ log') {entry : Entry} (h : entry ∈ log.entries) :
    entry ∈ log'.entries := List.map_subset _ sub h

theorem mem_entries {entry : Entry} (h : (entry, now) ∈ log) : entry ∈ log.entries :=
  List.mem_map_of_mem h

theorem Issued.mono (sub : log ⊆ log') (h : Issued log c tenantId id ticket now) :
    Issued log' c tenantId id ticket now := by
  cases h with
  | created called tenant session ticket answered =>
    exact .created (entries_sub sub called) tenant session ticket (sub answered)
  | reissued called tenant ticket answered =>
    exact .reissued (entries_sub sub called) tenant ticket (sub answered)

theorem Exchanged.mono (sub : log ⊆ log') (h : Exchanged log c ticket token now) :
    Exchanged log' c ticket token now := by
  obtain ⟨called, ttl, answered⟩ := h
  exact ⟨entries_sub sub called, ttl, sub answered⟩

theorem Issued.credential (h : Issued log c tenantId id ticket now) :
    ticket ∈ issuedCredentials log.entries := by
  cases h with
  | created _ _ _ issued answered =>
    exact List.mem_filterMap.mpr ⟨_, mem_entries answered, congrArg some issued⟩
  | reissued _ _ issued answered =>
    exact List.mem_filterMap.mpr ⟨_, mem_entries answered, congrArg some issued⟩

theorem Exchanged.credential (h : Exchanged log c ticket token now) :
    token ∈ issuedCredentials log.entries := by
  obtain ⟨-, ttl, answered⟩ := h
  exact List.mem_filterMap.mpr ⟨_, mem_entries answered, rfl⟩

theorem PresentedTicket.mono {cfg : Config} (sub : log ⊆ log')
    (h : PresentedTicket cfg log c tenantId id ticket) :
    PresentedTicket cfg log' c tenantId id ticket := by
  obtain ⟨issuer, issuedAt, now, issued, called, early⟩ := h
  exact ⟨issuer, issuedAt, now, issued.mono sub, sub called, early⟩

theorem PresentedToken.mono {cfg : Config} (sub : log ⊆ log')
    (h : PresentedToken cfg log c tenantId id token) :
    PresentedToken cfg log' c tenantId id token := by
  obtain ⟨exchange, ticket, mintedAt, now, exchanged, presented, called, early⟩ := h
  exact ⟨exchange, ticket, mintedAt, now, exchanged.mono sub, presented.mono sub, sub called, early⟩

end

/-! ## The invariant -/

structure Provenance (cfg : Config) (s : State) (log : Log) : Prop where
  dated : log.entries = s.history
  tickets : ∀ hash b, s.store.pairingTickets.get hash = some b →
    ∃ ticket issuer tenantId id now, cfg.sha256 ticket = hash ∧
      Issued log issuer tenantId id ticket now ∧
      b = ⟨key tenantId id, now + cfg.pairingTicketTTLSeconds * 1000⟩
  tokens : ∀ hash b, s.store.signalingTokens.get hash = some b →
    ∃ token exchange ticket tenantId id now, cfg.sha256 token = hash ∧
      Exchanged log exchange ticket token now ∧
      PresentedTicket cfg log exchange tenantId id ticket ∧
      b = ⟨key tenantId id, now + cfg.signalingTokenTTLSeconds * 1000⟩
  exchanging : ∀ c p ticket k ref, s.calls.get c = some p →
    p.caller = some (.exchange ticket k ref) →
    ∃ tenantId id, k = key tenantId id ∧ PresentedTicket cfg log c tenantId id ticket
  authorizing : ∀ c p token k, s.calls.get c = some p → p.caller = some (.authorize token k) →
    ∃ tenantId id, k = key tenantId id ∧ PresentedToken cfg log c tenantId id token
  authorized : ∀ c a now older, (.answered c (.authorized a), now) :: older <:+ log →
    ∃ token, PresentedToken cfg older c a.tenantId a.sessionId token

theorem provenance_initial (cfg : Config) : Provenance cfg State.initial [] where
  dated := rfl
  tickets := by intro hash b h; simp [State.initial, Store.empty] at h
  tokens := by intro hash b h; simp [State.initial, Store.empty] at h
  exchanging := by intro c p ticket k ref h; simp [State.initial] at h
  authorizing := by intro c p token k h; simp [State.initial] at h
  authorized := by intro c a now older h; simp at h

section
variable {cfg : Config} {s t : State} {e : Event} {log : Log}

/-- The entries that a step adds carry its clock reading. -/
theorem note_advance (c : Nat) (old new : Option Pending) (store : Store) (es : List Entry) :
    Log.note s e (s.advance c old new store es) log = es.map (·, e.draw.now) ++ log := by
  simp [Log.note]

/-- A call that starts to wait presented its string now. -/
theorem presented_now (stage : Stage) {call : Call} {d : Draw} {x k : String} {p : Pending}
    {caller : Caller} (distinct : NoHashCollision cfg s (.call call d))
    (h : makeCall cfg s call d = t) (hp : t.calls.get s.nextCall = some p)
    (hc : p.caller = some caller) (presents : stage.presents caller = some (x, k)) :
    (∃ b, (stage.index s.store).get (cfg.sha256 x) = some b ∧ b.sessionKey = k ∧
      d.now < b.expiresAt) ∧
    (.called s.nextCall (stage.call x), d.now) ∈ Log.note s (.call call d) t log ∧
    Distinct cfg s x := by
  rw [← h] at hp
  obtain ⟨rfl, bound, -⟩ := presented_parked hp hc presents
  obtain ⟨new, store, es, ht, eq⟩ := makeCall_transition cfg s (stage.call x) d
  obtain ⟨call', called⟩ := (transition_named ht).2 rfl
  obtain ⟨-, ev, -⟩ := (transition_named ht).1 _ _ called
  cases ev
  refine ⟨bound, ?_, ?_⟩
  · rw [← h, eq, note_advance]
    exact List.mem_append_left _ (List.mem_map_of_mem called)
  · cases stage with
    | exchange => exact distinct
    | authorize => exact distinct

theorem exchanging_step (distinct : NoHashCollision cfg s e) (h : step cfg s e = some t)
    (prov : Provenance cfg s log) {c : Nat} {p : Pending} {ticket k : String} {ref : Nat}
    (hp : t.calls.get c = some p) (hc : p.caller = some (.exchange ticket k ref)) :
    ∃ tenantId id, k = key tenantId id ∧
      PresentedTicket cfg (Log.note s e t log) c tenantId id ticket := by
  have sub : log ⊆ Log.note s e t log := List.subset_append_right _ _
  rcases caller_step h hp hc with ⟨q, hq, hqc⟩ | ⟨call, d, rfl, rfl, made⟩
  · obtain ⟨tenantId, id, under, presented⟩ := prov.exchanging c q ticket k ref hq hqc
    exact ⟨tenantId, id, under, presented.mono sub⟩
  · obtain ⟨⟨b, hb, rfl, early⟩, called, only⟩ :=
      presented_now .exchange distinct made hp hc rfl
    obtain ⟨ticket', issuer, tenantId, id, now, hash, issued, rfl⟩ := prov.tickets _ b hb
    obtain rfl := only ticket' (prov.dated ▸ issued.credential) hash
    exact ⟨tenantId, id, rfl, issuer, now, d.now, issued.mono sub, called, early⟩

theorem authorizing_step (distinct : NoHashCollision cfg s e) (h : step cfg s e = some t)
    (prov : Provenance cfg s log) {c : Nat} {p : Pending} {token k : String}
    (hp : t.calls.get c = some p) (hc : p.caller = some (.authorize token k)) :
    ∃ tenantId id, k = key tenantId id ∧
      PresentedToken cfg (Log.note s e t log) c tenantId id token := by
  have sub : log ⊆ Log.note s e t log := List.subset_append_right _ _
  rcases caller_step h hp hc with ⟨q, hq, hqc⟩ | ⟨call, d, rfl, rfl, made⟩
  · obtain ⟨tenantId, id, under, presented⟩ := prov.authorizing c q token k hq hqc
    exact ⟨tenantId, id, under, presented.mono sub⟩
  · obtain ⟨⟨b, hb, rfl, early⟩, called, only⟩ :=
      presented_now .authorize distinct made hp hc rfl
    obtain ⟨token', exchange, ticket, tenantId, id, now, hash, exchanged, presented, rfl⟩ :=
      prov.tokens _ b hb
    obtain rfl := only token' (prov.dated ▸ exchanged.credential) hash
    exact ⟨tenantId, id, rfl, exchange, ticket, now, d.now, exchanged.mono sub,
      presented.mono sub, called, early⟩

/-- The session of a presented token is that of a call, which was made for a safe tenant. -/
theorem PresentedToken.safe {c : Nat} {tenantId id token : String} (calls : SafeCalls s)
    (dates : log.entries = s.history) (h : PresentedToken cfg log c tenantId id token) :
    isSafeTenantId tenantId = true := by
  obtain ⟨exchange, ticket, mintedAt, now, -, ⟨issuer, issuedAt, now', issued, -⟩, -⟩ := h
  cases issued with
  | created called tenant =>
    rw [dates] at called
    exact tenant ▸ calls _ _ _ called rfl
  | reissued called tenant =>
    rw [dates] at called
    exact tenant ▸ calls _ _ _ called rfl

theorem provenance_step (tr : Traced s) (calls : SafeCalls s)
    (records : ∀ c p r, s.calls.get c = some p → p.record = some r →
      isSafeTenantId r.tenantId = true)
    (distinct : NoHashCollision cfg s e) (h : step cfg s e = some t)
    (prov : Provenance cfg s log) : Provenance cfg t (Log.note s e t log) := by
  have exchanging : ∀ c p ticket k ref, t.calls.get c = some p →
      p.caller = some (.exchange ticket k ref) → ∃ tenantId id, k = key tenantId id ∧
        PresentedTicket cfg (Log.note s e t log) c tenantId id ticket := fun _ _ _ _ _ =>
    exchanging_step distinct h prov
  have authorizing : ∀ c p token k, t.calls.get c = some p → p.caller = some (.authorize token k) →
      ∃ tenantId id, k = key tenantId id ∧
        PresentedToken cfg (Log.note s e t log) c tenantId id token := fun _ _ _ _ =>
    authorizing_step distinct h prov
  obtain ⟨c, old, new, store, es, stands, ht, rfl⟩ := step_transition h
  rw [note_advance] at exchanging authorizing ⊢
  have sub : log ⊆ es.map (·, e.draw.now) ++ log := List.subset_append_right _ _
  have called : ∀ {c call}, .called c call ∈ s.history →
      .called c call ∈ Log.entries (es.map (·, e.draw.now) ++ log) := by
    intro c call hm
    rw [← prov.dated] at hm
    exact entries_sub sub hm
  refine ⟨?dated, ?tickets, ?tokens, exchanging, authorizing, ?authorized⟩
  case dated =>
    simp [Log.entries, ← prov.dated, Function.comp_def]
  case tickets =>
    intro hash b hb
    rcases ticket_advance ht hb with before | ⟨rfl, expires, issued, drawn, from'⟩
    · obtain ⟨ticket, issuer, tenantId, id, now, hash', issued, rfl⟩ := prov.tickets hash b before
      exact ⟨ticket, issuer, tenantId, id, now, hash', issued.mono sub, rfl⟩
    · obtain ⟨k, expiresAt⟩ := b
      cases expires
      rcases from' with ⟨id, tenantId, session, rfl, rfl, same, rfl⟩ | ⟨record, rfl, rfl⟩
      · obtain ⟨call, hm, context, rfl, tenant⟩ := tr.parked c _ stands
        exact ⟨e.draw.credential, c, tenantId, id, e.draw.now, rfl,
          .created (called hm) tenant.symm same drawn (by simp), rfl⟩
      · obtain ⟨call, hm, k', ⟨rfl, context, id, rfl, rfl⟩, -⟩ := tr.parked c _ stands
        exact ⟨e.draw.credential, c, context.tenantId, id, e.draw.now, rfl,
          .reissued (called hm) rfl drawn (by simp), rfl⟩
  case tokens =>
    intro hash b hb
    rcases token_advance ht hb with before |
      ⟨rfl, expires, record, ticket, credentials, ttl, rfl, -, -, -, rfl⟩
    · obtain ⟨token, exchange, ticket, tenantId, id, now, hash', exchanged, presented, rfl⟩ :=
        prov.tokens hash b before
      exact ⟨token, exchange, ticket, tenantId, id, now, hash', exchanged.mono sub,
        presented.mono sub, rfl⟩
    · obtain ⟨k, expiresAt⟩ := b
      cases expires
      obtain ⟨tenantId, id, rfl, presented⟩ := prov.exchanging c _ ticket k _ stands rfl
      obtain ⟨call, hm, k', ⟨-, rfl⟩, -⟩ := tr.parked c _ stands
      exact ⟨e.draw.credential, c, ticket, tenantId, id, e.draw.now, rfl,
        ⟨called hm, ttl, by simp⟩, presented.mono sub, rfl⟩
  case authorized =>
    intro c' a now older suffix
    rcases suffix_append suffix with before | ⟨here, within⟩
    · exact prov.authorized c' a now older before
    · obtain ⟨entry, hm, same⟩ := List.mem_map.mp here
      cases same
      obtain ⟨rfl, record, token, k, rfl, -, session, tenant⟩ := transition_authorizes ht hm
      obtain ⟨tenantId, id, rfl, presented⟩ := prov.authorizing c' _ token k stands rfl
      obtain ⟨call, -, k', ⟨rfl, -⟩, under⟩ := tr.parked c' _ stands
      have safe := presented.safe calls prov.dated
      obtain ⟨rfl, rfl⟩ := key_inj_safe safe (records c' _ record stands rfl) (under record rfl)
      rw [session, tenant]
      exact ⟨token, presented.mono within.subset⟩

end

/-! ## Handed out once -/

section
variable {log : Log} {c c' : Nat} {now now' : Nat} {tenantId tenantId' id id' x : String}

/-- Of two answers that hand out one credential, each is the other. -/
theorem credential_once {history : List Entry} (once : (issuedCredentials history).Nodup)
    {entry entry' : Entry} (hm : entry ∈ history) (hm' : entry' ∈ history)
    (hx : issuedCredentials [entry] = [x]) (hx' : issuedCredentials [entry'] = [x]) :
    entry = entry' := by
  have inside : ∀ {older : List Entry} {entry : Entry}, entry ∈ older →
      issuedCredentials [entry] = [x] → x ∈ issuedCredentials older := by
    intro older entry hm hx
    obtain ⟨newer, before, rfl⟩ := List.append_of_mem hm
    have split : issuedCredentials (newer ++ entry :: before) = issuedCredentials newer ++
        (issuedCredentials [entry] ++ issuedCredentials before) := by
      simp only [issuedCredentials, ← List.filterMap_append]
      rfl
    rw [split, hx]
    simp
  induction history with
  | nil => cases hm
  | cons head older ih =>
    have split : issuedCredentials (head :: older) =
        issuedCredentials [head] ++ issuedCredentials older := by
      simp only [issuedCredentials, ← List.filterMap_append]
      rfl
    rw [split] at once
    rcases List.mem_cons.mp hm with here | hm <;> rcases List.mem_cons.mp hm' with here' | hm'
    · exact here.trans here'.symm
    · rw [← here, hx] at once
      exact absurd (inside hm' hx') (List.nodup_cons.mp once).1
    · rw [← here', hx'] at once
      exact absurd (inside hm hx) (List.nodup_cons.mp once).1
    · exact ih (List.nodup_append.mp once).2.1 hm hm'

theorem Issued.entry (h : Issued log c tenantId id x now) :
    ∃ outcome, .answered c outcome ∈ log.entries ∧ issuedCredentials [.answered c outcome] = [x] := by
  cases h with
  | created _ _ _ issued answered =>
    exact ⟨_, mem_entries answered, congrArg (fun ticket => [ticket]) issued⟩
  | reissued _ _ issued answered =>
    exact ⟨_, mem_entries answered, congrArg (fun ticket => [ticket]) issued⟩

/-- A ticket is handed out by one call. -/
theorem issued_once (once : (issuedCredentials log.entries).Nodup)
    (h : Issued log c tenantId id x now) (h' : Issued log c' tenantId' id' x now') : c = c' := by
  obtain ⟨outcome, hm, hx⟩ := h.entry
  obtain ⟨outcome', hm', hx'⟩ := h'.entry
  exact (Entry.answered.inj (credential_once once hm hm' hx hx')).1

/-- A token is handed out by one exchange. -/
theorem exchanged_once {ticket ticket' : String} (once : (issuedCredentials log.entries).Nodup)
    (h : Exchanged log c ticket x now) (h' : Exchanged log c' ticket' x now') : c = c' := by
  obtain ⟨-, ttl, hm⟩ := h
  obtain ⟨-, ttl', hm'⟩ := h'
  exact (Entry.answered.inj (credential_once once (mem_entries hm) (mem_entries hm') rfl rfl)).1

end

/-! ## Runs -/

/-- The steps of a run with fresh draws, authentic contexts and no hash collision. -/
def Secure (cfg : Config) (s : State) (e : Event) : Prop :=
  Served cfg s e ∧ NoHashCollision cfg s e

instance (cfg : Config) (s : State) (e : Event) : Decidable (Secure cfg s e) := by
  unfold Secure; infer_instance

theorem reachable_oneUse {cfg : Config} (stage : Stage) {s : State}
    (reached : (machine cfg).Reachable (Secure cfg) s) : OneUse cfg stage s := by
  refine reached.invariant (oneUse_initial cfg stage) fun s e t hr one ha hs => ?_
  have tr := reachable_traced (fun _ _ h => h.1.1.1) hr
  have cred := reachable_credentials (fun _ _ h => h.1.1) hr
  exact oneUse_step tr cred.issued ha.1.1.2 ha.2 hs one

theorem reachable_provenance {cfg : Config} {s : State × Log}
    (reached : (dated cfg).Reachable (Machine.unwatched (Secure cfg)) s) :
    Provenance cfg s.1 s.2 ∧ (issuedCredentials s.1.history).Nodup := by
  refine reached.invariant (I := fun s => Provenance cfg s.1 s.2 ∧
    (issuedCredentials s.1.history).Nodup)
    (by exact ⟨provenance_initial cfg, List.nodup_nil⟩) ?_
  intro s e t hr ⟨prov, once⟩ ha hs
  obtain ⟨next, noted⟩ := Machine.watched_step.mp hs
  have before := Machine.Reaches.unwatch hr
  have served := before.mono fun _ _ h => h.1
  rw [noted]
  exact ⟨provenance_step (reachable_traced (fun _ _ h => h.1.1.1) before) (reachable_calls served)
    (fun _ _ _ => reachable_parked_safe served) ha.2 next prov, issuedOnce_step ha.1.1.2 next once⟩

/-- **Provenance and single use.** Behind every authorization stands exactly one exchange
that returned its token, and exactly one call that handed that exchange's ticket out, for
the session and the tenant that were authorized. Both strings were presented before they
expired, and each succeeds at most once. -/
theorem credential_provenance (cfg : Config) {s : State} {log : Log}
    (reached : (dated cfg).Reachable (Machine.unwatched (Secure cfg)) (s, log)) :
    log.entries = s.history ∧
    (∀ c a now older, (.answered c (.authorized a), now) :: older <:+ log →
      ∃ token exchange ticket issuer mintedAt issuedAt exchangedAt authorizedAt,
        (.called c (.authorizeSignalingToken token), authorizedAt) ∈ older ∧
        authorizedAt < mintedAt + cfg.signalingTokenTTLSeconds * 1000 ∧
        Exchanged older exchange ticket token mintedAt ∧
        (∀ c' ticket' now', Exchanged log c' ticket' token now' → c' = exchange) ∧
        (.called exchange (.exchangeSignalingTicket ticket), exchangedAt) ∈ older ∧
        exchangedAt < issuedAt + cfg.pairingTicketTTLSeconds * 1000 ∧
        Issued older issuer a.tenantId a.sessionId ticket issuedAt ∧
        ∀ c' tenantId id now', Issued log c' tenantId id ticket now' → c' = issuer) ∧
    (∀ c c' token, Authorized log c token → Authorized log c' token → c = c') ∧
    ∀ c c' ticket token token' now now', Exchanged log c ticket token now →
      Exchanged log c' ticket token' now' → c = c' := by
  obtain ⟨prov, once⟩ := reachable_provenance reached
  have before := Machine.Reaches.unwatch reached
  have dates : log.entries = s.history := prov.dated
  rw [← dates] at once
  refine ⟨dates, ?provenance, ?authorizations, ?exchanges⟩
  case provenance =>
    intro c a now older suffix
    have sub : older ⊆ log := fun x hx => suffix.subset (List.mem_cons_of_mem _ hx)
    obtain ⟨token, exchange, ticket, mintedAt, authorizedAt, exchanged,
      ⟨issuer, issuedAt, exchangedAt, issued, presented, early⟩, called, early'⟩ :=
      prov.authorized c a now older suffix
    exact ⟨token, exchange, ticket, issuer, mintedAt, issuedAt, exchangedAt, authorizedAt, called,
      early', exchanged, fun _ _ _ h => exchanged_once once h (exchanged.mono sub), presented, early,
      issued, fun _ _ _ _ h => issued_once once h (issued.mono sub)⟩
  case authorizations =>
    rintro c c' token ⟨called, a, answered⟩ ⟨called', a', answered'⟩
    rw [dates] at called called' answered answered'
    exact (reachable_oneUse .authorize before).alone c c' token
      ⟨called, .inr ⟨_, answered, trivial⟩⟩ ⟨called', .inr ⟨_, answered', trivial⟩⟩
  case exchanges =>
    rintro c c' ticket token token' now now' ⟨called, ttl, answered⟩ ⟨called', ttl', answered'⟩
    have ended := mem_entries answered
    have ended' := mem_entries answered'
    rw [dates] at called called' ended ended'
    exact (reachable_oneUse .exchange before).alone c c' ticket
      ⟨called, .inr ⟨_, ended, trivial⟩⟩ ⟨called', .inr ⟨_, ended', trivial⟩⟩

/-- Ticket and token are each presented twice before the first presentation goes on. -/
def presentedTwice : List Event :=
  firstTicket ++
  [.call (.exchangeSignalingTicket (credential "1")) (draw 1 0 (credential "2")),
    .call (.exchangeSignalingTicket (credential "1")) (draw 1 0 (credential "2")),
    stillRunning 1 "3", continued 1 "3",
    .call (.authorizeSignalingToken (credential "3")) (draw 1 0 (credential "4")),
    .call (.authorizeSignalingToken (credential "3")) (draw 1 0 (credential "4")),
    stillRunning 3 "4", continued 3 "4"]

theorem credential_provenance_presented_twice : ∃ s log,
    (dated sampleConfig).Reachable (Machine.unwatched (Secure sampleConfig)) (s, log) ∧
    (∃ token exchange ticket issuer mintedAt issuedAt, Exchanged log exchange ticket token mintedAt ∧
      Issued log issuer "alpha" (sampleId 0) ticket issuedAt) ∧
    ∀ c, Authorized log c (credential "3") → c = 3 := by
  have reached : (dated sampleConfig).Reachable (Machine.unwatched (Secure sampleConfig))
      (((dated sampleConfig).runFrom (State.initial, []) presentedTwice).get (by decide)) :=
    Machine.reaches_end (by decide) _
  obtain ⟨-, provenance, once, -⟩ := credential_provenance sampleConfig reached
  obtain ⟨token, exchange, ticket, issuer, mintedAt, issuedAt, -, -, -, -, exchanged, -, -, -,
    issued, -⟩ := provenance 3 ⟨sampleId 0, "alpha", sampleRuntime⟩ 0 _ (List.suffix_refl _)
  have sub := List.subset_cons_self (α := Entry × Nat)
  exact ⟨_, _, reached, ⟨token, exchange, ticket, issuer, mintedAt, issuedAt,
    exchanged.mono (sub _ _), issued.mono (sub _ _)⟩,
    fun c h => once c 3 _ h ⟨by decide, _, List.mem_cons_self ..⟩⟩

end Fireball.Session
