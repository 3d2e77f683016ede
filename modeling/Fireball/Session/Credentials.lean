import Fireball.Session.Lifecycle

/-!
# The credential maps

`credentialsBySession` says which ticket and which tokens a session has; the two
index maps say which session a hash belongs to. `Indexed` says that the three
agree and that exactly the active sessions have credentials.

* `Agrees.set`, `Agrees.delete`: what a write has to show about one key;
* `rotate_indexed`, `revoke_indexed`, ...: one lemma for each operation;
* `credential_index`: the agreement holds in every state.

The random source and `sha256` are taken to return no hash a second time;
`FreshCredential` says so of the draw of one step.
-/

namespace Fireball.Session

open Foundation

/-! ## One index -/

/-- The session key that the index binds a hash to. -/
def boundTo (index : JsMap String CredentialBinding) (hash : String) : Option String :=
  (index.get hash).map (·.sessionKey)

/-- The index binds a hash to a session key exactly when the session's
credentials have it. -/
def Agrees (index : JsMap String CredentialBinding) (owners : JsMap String SessionCredentials)
    (has : SessionCredentials → String → Prop) : Prop :=
  ∀ hash k, boundTo index hash = some k ↔
    ∃ credentials, owners.get k = some credentials ∧ has credentials hash

def HasTicket (credentials : SessionCredentials) (hash : String) : Prop :=
  credentials.pairingTicketHash = some hash

def HasToken (credentials : SessionCredentials) (hash : String) : Prop :=
  credentials.signalingTokenHashes.has hash = true

section
variable {index index' : JsMap String CredentialBinding}
  {owners : JsMap String SessionCredentials} {has : SessionCredentials → String → Prop}
  {k : String} {credentials : SessionCredentials}

theorem boundTo_set (hash h' : String) (binding : CredentialBinding) :
    boundTo (index.set hash binding) h' =
      if hash = h' then some binding.sessionKey else boundTo index h' := by
  simp only [boundTo, JsMap.get_set]
  split <;> rfl

theorem boundTo_delete (hash h' : String) :
    boundTo (index.delete hash) h' = if hash = h' then none else boundTo index h' := by
  simp only [boundTo, JsMap.get_delete]
  split <;> rfl

theorem boundTo_deleteAll (hashes : List String) (h' : String) :
    boundTo (index.deleteAll hashes) h' = if h' ∈ hashes then none else boundTo index h' := by
  simp only [boundTo, JsMap.get_deleteAll]
  split <;> rfl

/-- What the index binds to `k` are the hashes of the credentials there. -/
theorem Agrees.own (ag : Agrees index owners has) (hc : owners.get k = some credentials)
    (hash : String) : boundTo index hash = some k ↔ has credentials hash := by
  rw [ag]
  constructor
  · rintro ⟨cr, hcr, hh⟩
    cases hc.symm.trans hcr
    exact hh
  · exact fun hh => ⟨credentials, hc, hh⟩

theorem Agrees.set (ag : Agrees index owners has)
    (own : ∀ hash, boundTo index' hash = some k ↔ has credentials hash)
    (other : ∀ hash k', k ≠ k' → (boundTo index' hash = some k' ↔ boundTo index hash = some k')) :
    Agrees index' (owners.set k credentials) has := by
  intro hash k'
  by_cases same : k = k'
  · subst same
    simp [own]
  · rw [other hash k' same, ag, JsMap.get_set_ne same]

/-- Credentials with the same hashes of this kind. -/
theorem Agrees.keep {credentials' : SessionCredentials} (ag : Agrees index owners has)
    (hc : owners.get k = some credentials) (same : ∀ hash, has credentials hash ↔ has credentials' hash) :
    Agrees index (owners.set k credentials') has :=
  ag.set (fun hash => (ag.own hc hash).trans (same hash)) fun _ _ _ => Iff.rfl

theorem Agrees.delete (ag : Agrees index owners has)
    (own : ∀ hash, boundTo index' hash ≠ some k)
    (other : ∀ hash k', k ≠ k' → (boundTo index' hash = some k' ↔ boundTo index hash = some k')) :
    Agrees index' (owners.delete k) has := by
  intro hash k'
  by_cases same : k = k'
  · subst same
    simp [own]
  · rw [other hash k' same, ag, JsMap.get_delete_ne same]

end

/-! ## The three maps -/

/-- **The credential maps agree**, and exactly the active sessions have credentials. -/
structure Indexed (s : Store) : Prop where
  live : ∀ k, (∃ credentials, s.credentialsBySession.get k = some credentials) ↔
    ∃ r, s.sessions.get k = some r ∧ r.phase = .active
  tickets : Agrees s.pairingTickets s.credentialsBySession HasTicket
  tokens : Agrees s.signalingTokens s.credentialsBySession HasToken

theorem indexed_empty : Indexed Store.empty where
  live := by simp [Store.empty]
  tickets := by intro hash k; simp [Store.empty, boundTo]
  tokens := by intro hash k; simp [Store.empty, boundTo]

section
variable {cfg : Config} {s : Store} {k : String} {credentials : SessionCredentials} {d : Draw}

/-- Forgetting a session's credentials unbinds its hashes and no others. -/
theorem forget_tickets (ix : Indexed s) (hc : s.credentialsBySession.get k = some credentials)
    (hash k' : String) : boundTo (forgetCredentials s credentials).pairingTickets hash = some k' ↔
      k ≠ k' ∧ boundTo s.pairingTickets hash = some k' := by
  have own := ix.tickets.own hc hash
  simp only [HasTicket] at own
  unfold forgetCredentials
  cases ht : credentials.pairingTicketHash with
  | none =>
    simp only [ht, reduceCtorEq, iff_false] at own
    simp only
    constructor
    · intro h
      exact ⟨fun same => own (same ▸ h), h⟩
    · exact fun h => h.2
  | some hash' =>
    rw [ht, Option.some.injEq] at own
    simp only [boundTo_delete]
    by_cases same : hash' = hash
    · subst same
      simp [own.mpr rfl]
    · simp only [if_neg same]
      constructor
      · intro h
        exact ⟨fun e => same (own.mp (e ▸ h)), h⟩
      · exact fun h => h.2

theorem forget_tokens (ix : Indexed s) (hc : s.credentialsBySession.get k = some credentials)
    (hash k' : String) : boundTo (forgetCredentials s credentials).signalingTokens hash = some k' ↔
      k ≠ k' ∧ boundTo s.signalingTokens hash = some k' := by
  have own := ix.tokens.own hc hash
  simp only [HasToken, ← JsMap.mem_keys_iff_has] at own
  simp only [forgetCredentials, boundTo_deleteAll]
  by_cases held : hash ∈ credentials.signalingTokenHashes.keys
  · simp [held, own.mpr held]
  · simp only [if_neg held]
    constructor
    · intro h
      exact ⟨fun e => held (own.mp (e ▸ h)), h⟩
    · exact fun h => h.2

theorem revoke_owners (s : Store) (k : String) :
    (revokeCredentials s k).credentialsBySession = s.credentialsBySession.delete k := by
  unfold revokeCredentials
  split
  · rename_i missing
    rw [JsMap.delete_of_get_none missing]
  · rfl

theorem revoke_agrees (ix : Indexed s) :
    Agrees (revokeCredentials s k).pairingTickets (s.credentialsBySession.delete k) HasTicket ∧
    Agrees (revokeCredentials s k).signalingTokens (s.credentialsBySession.delete k) HasToken := by
  unfold revokeCredentials
  split
  · rename_i missing
    rw [JsMap.delete_of_get_none missing]
    exact ⟨ix.tickets, ix.tokens⟩
  · rename_i credentials hc
    constructor
    · refine ix.tickets.delete (fun hash h => ?_) fun hash k' hne => ?_
      · exact ((forget_tickets ix hc hash k).mp h).1 rfl
      · exact (forget_tickets ix hc hash k').trans (and_iff_right hne)
    · refine ix.tokens.delete (fun hash h => ?_) fun hash k' hne => ?_
      · exact ((forget_tokens ix hc hash k).mp h).1 rfl
      · exact (forget_tokens ix hc hash k').trans (and_iff_right hne)

/-- Storing a record that is not active, under a key without credentials. -/
theorem live_put (ix : Indexed s) {r : SessionRecord} (left : r.phase ≠ .active) (k' : String) :
    (∃ credentials, (s.credentialsBySession.delete k).get k' = some credentials) ↔
      ∃ r', (s.sessions.set k r).get k' = some r' ∧ r'.phase = .active := by
  by_cases same : k = k'
  · subst same
    simp [left]
  · rw [JsMap.get_delete_ne same, JsMap.get_set_ne same]
    exact ix.live k'

theorem revoke_indexed (ix : Indexed s) {r : SessionRecord} (left : r.phase ≠ .active) :
    Indexed ((revokeCredentials s k).putRecord k r) where
  live := by
    intro k'
    have put := live_put (k := k) ix (r := { r with ref := (revokeCredentials s k).nextRef }) left k'
    simp only [Store.putRecord, revoke_sessions, revoke_owners]
    exact put
  tickets := by
    simp only [Store.putRecord, revoke_owners]
    exact (revoke_agrees ix).1
  tokens := by
    simp only [Store.putRecord, revoke_owners]
    exact (revoke_agrees ix).2

/-- A key without an active record has no credentials. -/
theorem Indexed.none_of_inactive (ix : Indexed s)
    (inactive : ∀ r, s.sessions.get k = some r → r.phase ≠ .active) :
    s.credentialsBySession.get k = none := by
  cases hc : s.credentialsBySession.get k with
  | none => rfl
  | some credentials =>
    obtain ⟨r, hr, active⟩ := (ix.live k).mp ⟨credentials, hc⟩
    exact absurd active (inactive r hr)

theorem put_indexed (ix : Indexed s) {r : SessionRecord} (left : r.phase ≠ .active)
    (inactive : ∀ r, s.sessions.get k = some r → r.phase ≠ .active) :
    Indexed (s.putRecord k r) where
  live := by
    intro k'
    have put := live_put (k := k) ix (r := { r with ref := s.nextRef }) left k'
    rw [JsMap.delete_of_get_none (ix.none_of_inactive inactive)] at put
    exact put
  tickets := ix.tickets
  tokens := ix.tokens

theorem remove_indexed (ix : Indexed s)
    (inactive : ∀ r, s.sessions.get k = some r → r.phase ≠ .active) :
    Indexed { s with sessions := s.sessions.delete k } where
  live := by
    intro k'
    by_cases same : k = k'
    · subst same
      simp [ix.none_of_inactive inactive]
    · rw [JsMap.get_delete_ne same]
      exact ix.live k'
  tickets := ix.tickets
  tokens := ix.tokens

/-- The hash of the drawn credential is not in use. -/
def Unused (cfg : Config) (s : Store) (d : Draw) : Prop :=
  boundTo s.pairingTickets (cfg.sha256 d.credential) = none ∧
    boundTo s.signalingTokens (cfg.sha256 d.credential) = none

theorem live_set (ix : Indexed s) (hc : s.credentialsBySession.get k = some credentials)
    (cr : SessionCredentials) (k' : String) :
    (∃ credentials, (s.credentialsBySession.set k cr).get k' = some credentials) ↔
      ∃ r, s.sessions.get k' = some r ∧ r.phase = .active := by
  rw [← ix.live k']
  by_cases same : k = k'
  · subst same
    simp [hc]
  · rw [JsMap.get_set_ne same]

theorem rotate_indexed (ix : Indexed s) (hc : s.credentialsBySession.get k = some credentials)
    (fresh : Unused cfg s d) : Indexed (rotatedStore cfg s k credentials d) where
  live := live_set ix hc _
  tickets := by
    refine ix.tickets.set (fun hash => ?_) fun hash k' hne => ?_
    · simp only [rotatedStore, boundTo_set, HasTicket, Option.some.injEq]
      split
      · simp [*]
      · rename_i other
        simp [forget_tickets ix hc, other]
    · simp only [rotatedStore, boundTo_set]
      split
      · rename_i same
        rw [← same, fresh.1]
        simp [hne]
      · exact (forget_tickets ix hc hash k').trans (and_iff_right hne)
  tokens := by
    refine ix.tokens.set (fun hash => ?_) fun hash k' hne => ?_
    · simp [rotatedStore, forget_tokens ix hc, HasToken, JsMap.has]
    · exact (forget_tokens ix hc hash k').trans (and_iff_right hne)

theorem mint_indexed (ix : Indexed s) (hc : s.credentialsBySession.get k = some credentials)
    (fresh : Unused cfg s d) : Indexed (mintSignalingToken cfg s k credentials d).1 where
  live := live_set ix hc _
  tickets := ix.tickets.keep hc fun _ => Iff.rfl
  tokens := by
    refine ix.tokens.set (fun hash => ?_) fun hash k' hne => ?_
    · have own := ix.tokens.own hc hash
      simp only [mintSignalingToken, boundTo_set, HasToken, JsMap.has_add] at own ⊢
      split
      · simp [*]
      · simp [*]
    · simp only [mintSignalingToken, boundTo_set]
      split
      · rename_i same
        rw [← same, fresh.2]
        simp [hne]
      · rfl

theorem created_indexed {id tenantId : String} {runtime : RuntimeResource} (ix : Indexed s)
    (absent : s.credentialsBySession.get k = none) :
    Indexed (insertCreated cfg s k id tenantId runtime d) where
  live := by
    intro k'
    by_cases same : k = k'
    · subst same
      simp [insertCreated]
    · simp only [insertCreated, JsMap.get_set_ne same]
      exact ix.live k'
  tickets := by
    refine ix.tickets.set (fun hash => ?_) fun _ _ _ => Iff.rfl
    simp [insertCreated, ix.tickets hash k, absent, HasTicket]
  tokens := by
    refine ix.tokens.set (fun hash => ?_) fun _ _ _ => Iff.rfl
    simp [insertCreated, ix.tokens hash k, absent, HasToken, JsMap.has]

/-- Presenting a ticket unbinds it. -/
theorem takeTicket_indexed (ix : Indexed s) (hash : String) :
    Indexed (takePairingTicket s hash) := by
  unfold takePairingTicket
  cases hb : s.pairingTickets.get hash with
  | none =>
    simp only [JsMap.delete_of_get_none hb]
    exact ix
  | some binding =>
    have bound : boundTo s.pairingTickets hash = some binding.sessionKey := by
      simp [boundTo, hb]
    obtain ⟨credentials, hc, held⟩ := (ix.tickets hash _).mp bound
    simp only [HasTicket] at held
    simp only [hc, held, if_true]
    refine ⟨live_set ix hc _, ?_, ?_⟩
    · refine ix.tickets.set (fun hash' => ?_) fun hash' k' hne => ?_
      · have own := ix.tickets.own hc hash'
        simp only [HasTicket, held, Option.some.injEq] at own
        simp only [boundTo_delete, HasTicket]
        split
        · simp
        · rename_i other
          simp [own, other]
      · simp only [boundTo_delete]
        split
        · rename_i same
          rw [← same, bound]
          simp [hne]
        · rfl
    · exact ix.tokens.keep hc fun _ => Iff.rfl

/-- Presenting a token unbinds it. -/
theorem takeToken_indexed (ix : Indexed s) (hash : String) :
    Indexed (takeSignalingToken s hash) := by
  unfold takeSignalingToken
  cases hb : s.signalingTokens.get hash with
  | none =>
    simp only [JsMap.delete_of_get_none hb]
    exact ix
  | some binding =>
    have bound : boundTo s.signalingTokens hash = some binding.sessionKey := by
      simp [boundTo, hb]
    obtain ⟨credentials, hc, held⟩ := (ix.tokens hash _).mp bound
    simp only [hc]
    refine ⟨live_set ix hc _, ix.tickets.keep hc fun _ => Iff.rfl, ?_⟩
    refine ix.tokens.set (fun hash' => ?_) fun hash' k' hne => ?_
    · have own := ix.tokens.own hc hash'
      simp only [HasToken] at own
      simp only [boundTo_delete, HasToken, JsMap.has_delete]
      split
      · simp [*]
      · simp [*]
    · simp only [boundTo_delete]
      split
      · rename_i same
        rw [← same, bound]
        simp [hne]
      · rfl

end

/-! ## Runs -/

/-- The credentials handed out so far. -/
def issuedCredentials (history : List Entry) : List String :=
  history.filterMap fun
    | .answered _ (.created _ ticket) => some ticket.signalingTicket
    | .answered _ (.ticketIssued ticket) => some ticket.signalingTicket
    | .answered _ (.tokenIssued token) => some token.signalingToken
    | _ => none

/-- The draw of this step offers a credential whose hash is that of none handed out. -/
def FreshCredential (cfg : Config) (s : State) (e : Event) : Prop :=
  cfg.sha256 e.draw.credential ∉ (issuedCredentials s.history).map cfg.sha256

instance (cfg : Config) (s : State) (e : Event) : Decidable (FreshCredential cfg s e) := by
  unfold FreshCredential; infer_instance

/-- Every hash in an index is that of a credential handed out. -/
def StoredAreIssued (cfg : Config) (s : State) : Prop :=
  ∀ hash k, boundTo s.store.pairingTickets hash = some k ∨
    boundTo s.store.signalingTokens hash = some k →
    hash ∈ (issuedCredentials s.history).map cfg.sha256

/-- `s'` binds no hash that `s` does not bind to the same session. -/
def Narrower (s' s : Store) : Prop :=
  (∀ hash k, boundTo s'.pairingTickets hash = some k → boundTo s.pairingTickets hash = some k) ∧
  (∀ hash k, boundTo s'.signalingTokens hash = some k → boundTo s.signalingTokens hash = some k)

/-- `s'` has no binding that `s` does not have. -/
structure Within (s' s : Store) : Prop where
  tickets : ∀ hash b, s'.pairingTickets.get hash = some b → s.pairingTickets.get hash = some b
  tokens : ∀ hash b, s'.signalingTokens.get hash = some b → s.signalingTokens.get hash = some b

theorem Within.refl (s : Store) : Within s s := ⟨fun _ _ h => h, fun _ _ h => h⟩

theorem Within.narrower {s' s : Store} (h : Within s' s) : Narrower s' s := by
  constructor
  · intro hash k bound
    obtain ⟨b, hb, rfl⟩ := Option.map_eq_some_iff.mp bound
    exact Option.map_eq_some_iff.mpr ⟨b, h.tickets hash b hb, rfl⟩
  · intro hash k bound
    obtain ⟨b, hb, rfl⟩ := Option.map_eq_some_iff.mp bound
    exact Option.map_eq_some_iff.mpr ⟨b, h.tokens hash b hb, rfl⟩

theorem get_of_delete {index : JsMap String CredentialBinding} (hash' : String) :
    ∀ hash b, (index.delete hash').get hash = some b → index.get hash = some b := by
  intro hash b h
  rw [JsMap.get_delete] at h
  split at h
  · cases h
  · exact h

theorem forget_within (s : Store) (credentials : SessionCredentials) :
    Within (forgetCredentials s credentials) s := by
  constructor
  · unfold forgetCredentials
    split
    · exact get_of_delete _
    · exact fun _ _ h => h
  · intro hash b h
    simp only [forgetCredentials, JsMap.get_deleteAll] at h
    split at h
    · cases h
    · exact h

theorem revoke_within (s : Store) (k : String) : Within (revokeCredentials s k) s := by
  unfold revokeCredentials
  split
  · exact .refl s
  · have forgot := forget_within s
    exact ⟨(forgot _).tickets, (forgot _).tokens⟩

theorem takeTicket_within (s : Store) (hash : String) : Within (takePairingTicket s hash) s := by
  have taken : Within { s with pairingTickets := s.pairingTickets.delete hash } s :=
    ⟨get_of_delete hash, fun _ _ h => h⟩
  unfold takePairingTicket
  split
  · exact taken
  split
  · exact taken
  split
  · exact ⟨taken.tickets, taken.tokens⟩
  · exact taken

theorem takeToken_within (s : Store) (hash : String) : Within (takeSignalingToken s hash) s := by
  have taken : Within { s with signalingTokens := s.signalingTokens.delete hash } s :=
    ⟨fun _ _ h => h, get_of_delete hash⟩
  unfold takeSignalingToken
  split
  · exact taken
  split
  · exact taken
  · exact ⟨taken.tickets, taken.tokens⟩

theorem rotate_binds {cfg : Config} {s : Store} {k : String} {credentials : SessionCredentials}
    {d : Draw} {hash k' : String}
    (h : boundTo (rotatedStore cfg s k credentials d).pairingTickets hash = some k' ∨
      boundTo (rotatedStore cfg s k credentials d).signalingTokens hash = some k') :
    boundTo s.pairingTickets hash = some k' ∨ boundTo s.signalingTokens hash = some k' ∨
      hash = cfg.sha256 d.credential := by
  rcases h with h | h
  · simp only [rotatedStore, boundTo_set] at h
    split at h
    · rename_i same
      exact .inr (.inr same.symm)
    · exact .inl ((forget_within s credentials).narrower.1 hash k' h)
  · exact .inr (.inl ((forget_within s credentials).narrower.2 hash k' h))

/-- A step binds a new hash only together with the answer that hands its credential out. -/
theorem bound_advance {cfg : Config} {s : State} {e : Event} {c : Nat} {old new : Option Pending}
    {store : Store} {es : List Entry} (ht : Transition cfg s e c old new store es)
    {hash k : String}
    (h : boundTo store.pairingTickets hash = some k ∨ boundTo store.signalingTokens hash = some k) :
    (boundTo s.store.pairingTickets hash = some k ∨
      boundTo s.store.signalingTokens hash = some k) ∨
    hash ∈ (issuedCredentials es).map cfg.sha256 := by
  have narrower : ∀ {store}, Narrower store s.store →
      boundTo store.pairingTickets hash = some k ∨ boundTo store.signalingTokens hash = some k →
      boundTo s.store.pairingTickets hash = some k ∨
        boundTo s.store.signalingTokens hash = some k :=
    fun sub h => h.imp (sub.1 hash k) (sub.2 hash k)
  cases ht with
  | moved | begun | authorized | released | removed | restored => exact .inl h
  | reserved _ ok => rw [(reserve_ok ok).2.2.2.2.2] at h; exact .inl h
  | created _ ok =>
    obtain ⟨cr, -, rfl, rfl⟩ := rotate_ok ok
    rcases rotate_binds h with h | h | h
    · exact .inl (.inl h)
    · exact .inl (.inr h)
    · exact .inr (by simp [issuedCredentials, h])
  | ticketTaken => exact .inl (narrower (takeTicket_within _ _).narrower h)
  | tokenTaken => exact .inl (narrower (takeToken_within _ _).narrower h)
  | rotated ok =>
    obtain ⟨cr, -, rfl, rfl⟩ := rotate_ok ok
    rcases rotate_binds h with h | h | h
    · exact .inl (.inl h)
    · exact .inl (.inr h)
    · exact .inr (by simp [issuedCredentials, h])
  | minted =>
    rcases h with h | h
    · exact .inl (.inl h)
    · simp only [mintSignalingToken, boundTo_set] at h
      split at h
      · rename_i same
        exact .inr (by simp [issuedCredentials, mintSignalingToken, same])
      · exact .inl (.inr h)
  | burning | lost => exact .inl (narrower (revoke_within _ _).narrower h)

/-- A burn that waits for the runtime left no active record. -/
def BurnsInactive (s : State) : Prop :=
  ∀ c k r, s.calls.get c = some (.destroying k r) → Inactive s k

section
variable {cfg : Config} {s t : State} {e : Event}

/-- The steps of a run in which no id and no credential is drawn twice. -/
def FreshDraw (cfg : Config) (s : State) (e : Event) : Prop := FreshId s e ∧ FreshCredential cfg s e

instance (s : State) (e : Event) : Decidable (FreshDraw cfg s e) := by
  unfold FreshDraw; infer_instance

theorem storedAreIssued_step (h : step cfg s e = some t) (issued : StoredAreIssued cfg s) :
    StoredAreIssued cfg t := by
  obtain ⟨c, old, new, store, es, -, ht, rfl⟩ := step_transition h
  intro hash k bound
  simp only [advance_history, issuedCredentials, List.filterMap_append, List.map_append,
    List.mem_append]
  rcases bound_advance ht bound with before | now
  · exact .inr (issued hash k before)
  · exact .inl now

theorem burnsInactive_step (wf : Wf cfg s) (h : step cfg s e = some t) (inactive : BurnsInactive s) :
    BurnsInactive t := by
  intro c' k r hc
  have kept : s.calls.get c' = some (.destroying k r) → Inactive t k := by
    intro before
    have under := wf.held c' _ k r before rfl
    have now := inactive c' k r before
    rw [under.under] at now ⊢
    exact inactive_step wf h under.spent now
  obtain ⟨c, old, new, store, es, -, ht, rfl⟩ := step_transition h
  rw [advance_calls] at hc
  split at hc
  · subst hc
    generalize hn : some (Pending.destroying k r) = new at ht
    cases ht with
    | moved _ hp | begun _ hp | ticketTaken _ hp | tokenTaken _ hp =>
      exact absurd hn.symm ((quietOption_ne hp.quiet).2 k r)
    | burning =>
      cases hn
      intro r' hr'
      simp only [advance_store, putRecord_sessions, JsMap.get_set_self, Option.some.injEq] at hr'
      rw [← hr']
      simp [burningRecord]
    | _ => cases hn
  · exact kept hc

/-- The hash of a fresh draw is bound to nothing. -/
theorem unused_of_fresh (fresh : FreshCredential cfg s e) (issued : StoredAreIssued cfg s) :
    Unused cfg s.store e.draw := by
  constructor
  · cases hb : boundTo s.store.pairingTickets (cfg.sha256 e.draw.credential) with
    | none => rfl
    | some k => exact absurd (issued _ k (.inl hb)) fresh
  · cases hb : boundTo s.store.signalingTokens (cfg.sha256 e.draw.credential) with
    | none => rfl
    | some k => exact absurd (issued _ k (.inr hb)) fresh

theorem indexed_step (wf : Wf cfg s) (burns : BurnsInactive s) (issued : StoredAreIssued cfg s)
    (fresh : FreshCredential cfg s e) (h : step cfg s e = some t) (ix : Indexed s.store) :
    Indexed t.store := by
  have unused := unused_of_fresh fresh issued
  obtain ⟨c, old, new, store, es, stands, ht, rfl⟩ := step_transition h
  rw [advance_store]
  cases ht with
  | moved | begun | authorized => exact ix
  | released => exact ⟨ix.live, ix.tickets, ix.tokens⟩
  | reserved _ ok =>
    rw [(reserve_ok ok).2.2.2.2.2]
    exact ⟨ix.live, ix.tickets, ix.tokens⟩
  | created _ ok =>
    obtain ⟨cr, hcr, rfl, -⟩ := rotate_ok ok
    rename_i id tenantId _ _ _
    have absent : s.store.credentialsBySession.get (key tenantId id) = none := by
      refine ix.none_of_inactive fun r hr => ?_
      have under := wf.stored _ r hr
      exact absurd under.under (created_key_ne wf stands under.spent)
    have rotated := rotate_indexed (created_indexed ix absent) hcr unused
    exact ⟨rotated.live, rotated.tickets, rotated.tokens⟩
  | ticketTaken => exact takeTicket_indexed ix _
  | tokenTaken => exact takeToken_indexed ix _
  | rotated ok =>
    obtain ⟨cr, hcr, rfl, -⟩ := rotate_ok ok
    exact rotate_indexed ix hcr unused
  | minted _ hcr => exact mint_indexed ix hcr unused
  | burning => exact revoke_indexed ix (by simp [burningRecord])
  | removed => exact remove_indexed ix (burns c _ _ stands)
  | restored => exact put_indexed ix (by simp [uncleanRecord]) (burns c _ _ stands)
  | lost => exact revoke_indexed ix (by simp [failedRecord])

end

/-- Everything about the credential maps that one step needs of the last. -/
structure CredentialsWf (cfg : Config) (s : State) : Prop where
  burns : BurnsInactive s
  issued : StoredAreIssued cfg s
  indexed : Indexed s.store

theorem reachable_credentials {cfg : Config} {allowed : State → Event → Prop} {s : State}
    (fresh : ∀ s e, allowed s e → FreshDraw cfg s e) (reached : (machine cfg).Reachable allowed s) :
    CredentialsWf cfg s := by
  refine reached.invariant (I := CredentialsWf cfg) ⟨?_, ?_, indexed_empty⟩ ?_
  · intro c k r h
    simp [machine, State.initial] at h
  · intro hash k h
    simp [machine, State.initial, Store.empty, boundTo] at h
  · intro s e t hr cred ha hs
    have wf := reachable_wf (fun s e h => (fresh s e h).1) hr
    exact ⟨burnsInactive_step wf hs cred.burns, storedAreIssued_step hs cred.issued,
      indexed_step wf cred.burns cred.issued (fresh _ _ ha).2 hs cred.indexed⟩

/-- **The credential index.** In every state the three maps agree, credentials
exist exactly for the active sessions, and so no ticket and no token is stored
for any other. -/
theorem credential_index (cfg : Config) {s : State}
    (reached : (machine cfg).Reachable (FreshDraw cfg) s) :
    Indexed s.store ∧
    ∀ hash k, (boundTo s.store.pairingTickets hash = some k ∨
      boundTo s.store.signalingTokens hash = some k) →
      ∃ r, s.store.sessions.get k = some r ∧ r.phase = .active := by
  have ix := (reachable_credentials (fun _ _ h => h) reached).indexed
  refine ⟨ix, fun hash k bound => ?_⟩
  rcases bound with bound | bound
  · obtain ⟨credentials, hc, -⟩ := (ix.tickets hash k).mp bound
    exact (ix.live k).mp ⟨credentials, hc⟩
  · obtain ⟨credentials, hc, -⟩ := (ix.tokens hash k).mp bound
    exact (ix.live k).mp ⟨credentials, hc⟩

/-- A session is created, with its first ticket. -/
def oneSession : List Event :=
  [.call (.create alpha) (draw 0 0 "unused"), .settle 0 (.created (.ok sampleRuntime)) (draw 1 0 "t")]

theorem credential_index_created : ∃ s, (machine sampleConfig).Reachable (FreshDraw sampleConfig) s ∧
    Indexed s.store ∧
    ∃ r, s.store.sessions.get (key "alpha" (sampleId 0)) = some r ∧ r.phase = .active := by
  have reached : (machine sampleConfig).Reachable (FreshDraw sampleConfig)
      (((machine sampleConfig).runFrom State.initial oneSession).get (by decide)) :=
    Machine.reaches_end (by decide) _
  obtain ⟨indexed, active⟩ := credential_index sampleConfig reached
  exact ⟨_, reached, indexed, active "t" _ (.inl (by decide))⟩

end Fireball.Session
