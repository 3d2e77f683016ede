import Fireball.Session.Transition

/-!
# Records, reservations and their keys

Every record, stored or captured by a parked call, sits under the key of its
own tenant and id and carries the configured quota. The reservations are those
of the parked `create` calls.

`randomUUID` is taken to return a string of UUID shape that it has not returned
before; `FreshId` says so of the draw of one step.
-/

namespace Fireball.Session

open Foundation

/-! ## What each operation leaves alone -/

section
variable (cfg : Config) (s : Store) (k : String) (d : Draw)

@[simp] theorem forget_sessions (cr : SessionCredentials) :
    (forgetCredentials s cr).sessions = s.sessions := rfl

@[simp] theorem forget_reservations (cr : SessionCredentials) :
    (forgetCredentials s cr).reservations = s.reservations := rfl

@[simp] theorem revoke_sessions : (revokeCredentials s k).sessions = s.sessions := by
  unfold revokeCredentials; split <;> rfl

@[simp] theorem revoke_reservations :
    (revokeCredentials s k).reservations = s.reservations := by
  unfold revokeCredentials; split <;> rfl

@[simp] theorem takeTicket_sessions (h : String) :
    (takePairingTicket s h).sessions = s.sessions := by
  unfold takePairingTicket
  split
  · rfl
  split
  · rfl
  split <;> rfl

@[simp] theorem takeTicket_reservations (h : String) :
    (takePairingTicket s h).reservations = s.reservations := by
  unfold takePairingTicket
  split
  · rfl
  split
  · rfl
  split <;> rfl

@[simp] theorem takeToken_sessions (h : String) :
    (takeSignalingToken s h).sessions = s.sessions := by
  unfold takeSignalingToken
  split
  · rfl
  split <;> rfl

@[simp] theorem takeToken_reservations (h : String) :
    (takeSignalingToken s h).reservations = s.reservations := by
  unfold takeSignalingToken
  split
  · rfl
  split <;> rfl

@[simp] theorem mint_sessions (cr : SessionCredentials) :
    (mintSignalingToken cfg s k cr d).1.sessions = s.sessions := rfl

@[simp] theorem mint_reservations (cr : SessionCredentials) :
    (mintSignalingToken cfg s k cr d).1.reservations = s.reservations := rfl

@[simp] theorem release_sessions (id : String) : (s.release id).sessions = s.sessions := rfl

@[simp] theorem release_reservations (id : String) :
    (s.release id).reservations = s.reservations.delete id := rfl

@[simp] theorem putRecord_sessions (r : SessionRecord) :
    (s.putRecord k r).sessions = s.sessions.set k { r with ref := s.nextRef } := rfl

@[simp] theorem putRecord_reservations (r : SessionRecord) :
    (s.putRecord k r).reservations = s.reservations := rfl

end

/-- The maps after a rotation that found credentials. -/
def rotatedStore (cfg : Config) (s : Store) (k : String) (cr : SessionCredentials) (d : Draw) :
    Store :=
  { forgetCredentials s cr with
    credentialsBySession := s.credentialsBySession.set k
      { cr with pairingTicketHash := some (cfg.sha256 d.credential), signalingTokenHashes := .empty }
    pairingTickets := (forgetCredentials s cr).pairingTickets.set (cfg.sha256 d.credential)
      ⟨k, d.now + cfg.pairingTicketTTLSeconds * 1000⟩ }

theorem rotate_ok {cfg : Config} {s s' : Store} {k : String} {d : Draw}
    {ticket : SignalingTicketIssueResult}
    (h : rotateSignalingTicket cfg s k d = .ok (s', ticket)) :
    ∃ cr, s.credentialsBySession.get k = some cr ∧ s' = rotatedStore cfg s k cr d ∧
      ticket = ⟨d.credential, cfg.pairingTicketTTLSeconds⟩ := by
  unfold rotateSignalingTicket at h
  split at h
  · cases h
  · rename_i cr hc
    cases h
    exact ⟨cr, hc, rfl, rfl⟩

theorem reserve_ok {cfg : Config} {s s' : Store} {id tenantId : String}
    (h : reserve cfg s id tenantId = .ok s') :
    tenantSessions s tenantId + tenantReservations s tenantId < cfg.maximumSessionsPerTenant ∧
    (currentAllocation s).maximumSessions + 1 ≤ cfg.hostCapacity.maximumSessions ∧
    (currentAllocation s).memoryMiB + cfg.quota.memoryMiB ≤ cfg.hostCapacity.memoryMiB ∧
    (currentAllocation s).cpuShares + cfg.quota.cpuShares ≤ cfg.hostCapacity.cpuShares ∧
    (currentAllocation s).pids + cfg.quota.pids ≤ cfg.hostCapacity.pids ∧
    s' = { s with reservations := s.reservations.set id ⟨tenantId, cfg.quota⟩ } := by
  simp only [reserve] at h
  split at h
  · cases h
  split at h
  · cases h
  rename_i tenant host
  simp only [not_or, gt_iff_lt, ge_iff_le, Nat.not_le, Nat.not_lt] at tenant host
  cases h
  exact ⟨tenant, host.1, host.2.1, host.2.2.1, host.2.2.2, rfl⟩

/-! ## Keys -/

/-- The shape of what `randomUUID` returns. -/
def uuidShaped (id : String) : Bool :=
  id.toList.length = 36 && id.toList.all fun c => c.isDigit || ('a' ≤ c && c ≤ 'f') || c = '-'

/-- A UUID has a fixed length, so the key gives back the tenant and the id. -/
theorem key_inj {t t' i i' : String} (hi : uuidShaped i = true) (hi' : uuidShaped i' = true)
    (h : key t i = key t' i') : t = t' ∧ i = i' := by
  simp only [uuidShaped, Bool.and_eq_true, decide_eq_true_eq] at hi hi'
  have lists : (t.toList ++ ":".toList) ++ i.toList = (t'.toList ++ ":".toList) ++ i'.toList := by
    have := congrArg String.toList h
    simpa only [key, String.toList_append] using this
  obtain ⟨front, back⟩ := List.append_inj' lists (by omega)
  exact ⟨String.toList_inj.mp (List.append_cancel_right front), String.toList_inj.mp back⟩

/-- The ids of the sessions whose creation was begun. -/
def sessionIds (history : List Entry) : List String :=
  history.filterMap fun
    | .requested _ (.create request) => some request.sessionId
    | _ => none

/-- The draw of this step offers a UUID not used before. -/
def FreshId (s : State) (e : Event) : Prop :=
  uuidShaped e.draw.uuid = true ∧ e.draw.uuid ∉ sessionIds s.history

instance (s : State) (e : Event) : Decidable (FreshId s e) := by unfold FreshId; infer_instance

/-! ## Calls -/

@[simp] theorem advance_store (s : State) (c : Nat) (old new : Option Pending) (store : Store)
    (es : List Entry) : (s.advance c old new store es).store = store := rfl

@[simp] theorem advance_history (s : State) (c : Nat) (old new : Option Pending) (store : Store)
    (es : List Entry) : (s.advance c old new store es).history = es ++ s.history := rfl

theorem advance_calls (s : State) (c c' : Nat) (old new : Option Pending) (store : Store)
    (es : List Entry) : (s.advance c old new store es).calls.get c' =
      if c = c' then new else s.calls.get c' := by
  cases new with
  | none => simp [State.advance, JsMap.get_delete]
  | some p => simp [State.advance, JsMap.get_set]

/-- Every parked call has a number already given out. -/
def Numbered (s : State) : Prop := ∀ c p, s.calls.get c = some p → c < s.nextCall

theorem stands_none {s : State} {c : Nat} (hn : Numbered s) (h : s.Stands c none) :
    s.calls.get c = none := by
  cases hc : s.calls.get c with
  | none => rfl
  | some p =>
    have := hn c p hc
    simp only [State.Stands] at h
    omega

theorem numbered_advance {s : State} {c : Nat} {old new : Option Pending} {store : Store}
    {es : List Entry} (hn : Numbered s) (hs : s.Stands c old) :
    Numbered (s.advance c old new store es) := by
  have grows : s.nextCall ≤ (s.advance c old new store es).nextCall := by
    simp only [State.advance]; split <;> omega
  intro c' p hp
  rw [advance_calls] at hp
  split at hp
  · rename_i same
    subst same
    cases old with
    | none => simp only [State.Stands] at hs; simp [State.advance, hs]
    | some q => exact Nat.lt_of_lt_of_le (hn c q hs) grows
  · exact Nat.lt_of_lt_of_le (hn c' p hp) grows

/-- No quiet call is a parked `create` or `burn`. -/
theorem quietOption_ne {new : Option Pending} (h : QuietOption new) :
    (∀ id t, new ≠ some (.creating id t)) ∧ ∀ k r, new ≠ some (.destroying k r) :=
  ⟨fun _ _ e => by rw [e] at h; exact h, fun _ _ e => by rw [e] at h; exact h⟩

theorem sessionIds_append (a b : List Entry) :
    sessionIds (a ++ b) = sessionIds a ++ sessionIds b := by simp [sessionIds]

theorem sessionIds_quiet {c : Nat} {new : Option Pending} {es : List Entry}
    (h : QuietEntries c new es) : sessionIds es = [] := by
  cases h with
  | still | done => rfl
  | asked p asks hr =>
    rename_i request
    clear asks
    cases request with
    | create => exact absurd hr id
    | _ => rfl

section
variable {cfg : Config} {s : State} {e : Event} {c : Nat} {old new : Option Pending}
  {store : Store} {es : List Entry}

/-- Which ids a step begins: the drawn one in `reserve`, otherwise none. -/
theorem transition_sessionIds (h : Transition cfg s e c old new store es) :
    (sessionIds es = [] ∧ ∀ id t, new ≠ some (.creating id t)) ∨
    (sessionIds es = [e.draw.uuid] ∧ ∃ t, new = some (.creating e.draw.uuid t)) := by
  cases h with
  | moved _ hn he => exact .inl ⟨sessionIds_quiet he, (quietOption_ne hn.quiet).1⟩
  | reserved => exact .inr ⟨rfl, _, rfl⟩
  | begun _ hn he | ticketTaken _ hn he | tokenTaken _ hn he =>
    refine .inl ⟨?_, (quietOption_ne hn.quiet).1⟩
    rw [sessionIds_append, sessionIds_quiet he]; rfl
  | _ => exact .inl ⟨rfl, by simp⟩

theorem sessionIds_advance (x : String) (hx : x ∈ sessionIds s.history) :
    x ∈ sessionIds (s.advance c old new store es).history := by
  rw [advance_history, sessionIds_append]; exact List.mem_append_right _ hx

end

/-- A `create` parked after the step was parked before it, or has just drawn
its id. -/
theorem creating_advance {cfg : Config} {s : State} {e : Event} {c : Nat}
    {old new : Option Pending} {store : Store} {es : List Entry}
    (h : Transition cfg s e c old new store es) {c' : Nat} {id t : String}
    (hc : (s.advance c old new store es).calls.get c' = some (.creating id t)) :
    (c' ≠ c ∧ s.calls.get c' = some (.creating id t)) ∨
    (c' = c ∧ id = e.draw.uuid ∧ new = some (.creating id t)) := by
  rw [advance_calls] at hc
  split at hc
  · rename_i same
    rcases transition_sessionIds h with ⟨_, none⟩ | ⟨_, t', eq⟩
    · exact absurd hc (none id t)
    · rw [eq] at hc
      cases hc
      exact .inr ⟨same.symm, rfl, eq⟩
  · rename_i other
    exact .inl ⟨Ne.symm other, hc⟩

/-! ## Ids that creation has finished with -/

/-- The id was drawn and no parked `create` still has it. -/
def Spent (s : State) (id : String) : Prop :=
  uuidShaped id = true ∧ id ∈ sessionIds s.history ∧
    ∀ c t, s.calls.get c ≠ some (.creating id t)

theorem spent_step {cfg : Config} {s t : State} {e : Event} {id : String} (fresh : FreshId s e)
    (h : step cfg s e = some t) (hs : Spent s id) : Spent t id := by
  obtain ⟨c, old, new, store, es, -, ht, rfl⟩ := step_transition h
  refine ⟨hs.1, sessionIds_advance id hs.2.1, ?_⟩
  intro c' t' hc
  rcases creating_advance ht hc with ⟨-, before⟩ | ⟨-, rfl, -⟩
  · exact hs.2.2 c' t' before
  · exact fresh.2 hs.2.1

/-! ## The invariant -/

/-- A record that belongs under `k`. -/
structure RecordUnder (cfg : Config) (s : State) (k : String) (r : SessionRecord) : Prop where
  under : k = key r.tenantId r.id
  spent : Spent s r.id
  quota : r.quota = cfg.quota

structure Wf (cfg : Config) (s : State) : Prop where
  numbered : Numbered s
  stored : ∀ k r, s.store.sessions.get k = some r → RecordUnder cfg s k r
  held : ∀ c p k r, s.calls.get c = some p → p.holds = some (k, r) → RecordUnder cfg s k r
  creating : ∀ c id t, s.calls.get c = some (.creating id t) →
    uuidShaped id = true ∧ id ∈ sessionIds s.history ∧
      s.store.reservations.get id = some ⟨t, cfg.quota⟩
  alone : ∀ c c' id t t', s.calls.get c = some (.creating id t) →
    s.calls.get c' = some (.creating id t') → c = c'
  reserved : ∀ id r, s.store.reservations.get id = some r →
    ∃ c, s.calls.get c = some (.creating id r.tenantId) ∧ r.quota = cfg.quota

theorem wf_initial (cfg : Config) : Wf cfg State.initial where
  numbered := by intro c p h; simp [State.initial] at h
  stored := by intro k r h; simp [State.initial, Store.empty] at h
  held := by intro c p k r h; simp [State.initial] at h
  creating := by intro c id t h; simp [State.initial] at h
  alone := by intro c c' id t t' h; simp [State.initial] at h
  reserved := by intro id r h; simp [State.initial, Store.empty] at h

section
variable {cfg : Config} {s t : State} {e : Event}

theorem RecordUnder.step {k : String} {r : SessionRecord} (fresh : FreshId s e)
    (h : step cfg s e = some t) (hr : RecordUnder cfg s k r) : RecordUnder cfg t k r :=
  ⟨hr.under, spent_step fresh h hr.spent, hr.quota⟩

/-- Changing the phase, the failure or the identity moves no record. -/
theorem RecordUnder.of_eq {k : String} {r r' : SessionRecord} (h : RecordUnder cfg s k r)
    (id : r'.id = r.id) (tenant : r'.tenantId = r.tenantId) (quota : r'.quota = r.quota) :
    RecordUnder cfg s k r' :=
  ⟨by rw [tenant, id]; exact h.under, by rw [id]; exact h.spent, by rw [quota]; exact h.quota⟩

/-- Two records under one key belong to one tenant and session. -/
theorem RecordUnder.same {k : String} {r r' : SessionRecord} (h : RecordUnder cfg s k r)
    (h' : RecordUnder cfg s k r') : r.tenantId = r'.tenantId ∧ r.id = r'.id :=
  key_inj h.spent.1 h'.spent.1 (h.under.symm.trans h'.under)

end

/-- What the session map holds after a step: what it held, a new copy of a
record that the call held or found there, or the record of the settled create. -/
theorem sessions_advance {cfg : Config} {s : State} {e : Event} {c : Nat}
    {old new : Option Pending} {store : Store} {es : List Entry}
    (h : Transition cfg s e c old new store es) {k : String} {r : SessionRecord}
    (hr : store.sessions.get k = some r) :
    s.store.sessions.get k = some r ∨
    (∃ r', (s.store.sessions.get k = some r' ∨ ∃ p, old = some p ∧ p.holds = some (k, r')) ∧
      r.id = r'.id ∧ r.tenantId = r'.tenantId ∧ r.quota = r'.quota ∧ r.runtime = r'.runtime) ∨
    (∃ id t, old = some (.creating id t) ∧ e = .settle c (.created (.ok r.runtime)) e.draw ∧
      k = key t id ∧ r.id = id ∧ r.tenantId = t ∧ r.quota = cfg.quota) := by
  -- one write of a copy of `r'` under `k'`
  have written : ∀ (base : Store) k' r' (copy : SessionRecord), base.sessions = s.store.sessions →
      (s.store.sessions.get k' = some r' ∨ ∃ p, old = some p ∧ p.holds = some (k', r')) →
      copy.id = r'.id → copy.tenantId = r'.tenantId → copy.quota = r'.quota →
      copy.runtime = r'.runtime → (base.putRecord k' copy).sessions.get k = some r →
      s.store.sessions.get k = some r ∨
      (∃ r', (s.store.sessions.get k = some r' ∨ ∃ p, old = some p ∧ p.holds = some (k, r')) ∧
        r.id = r'.id ∧ r.tenantId = r'.tenantId ∧ r.quota = r'.quota ∧
        r.runtime = r'.runtime) := by
    intro base k' r' copy hb source hi ht hq hrun hget
    rw [putRecord_sessions, JsMap.get_set] at hget
    split at hget
    · rename_i same
      subst same
      cases hget
      exact .inr ⟨r', source, hi, ht, hq, hrun⟩
    · rw [hb] at hget; exact .inl hget
  cases h with
  | moved | begun | authorized => exact .inl hr
  | reserved _ ok => rw [(reserve_ok ok).2.2.2.2.2] at hr; exact .inl hr
  | released => exact .inl hr
  | created ev ok =>
    obtain ⟨cr, -, rfl, -⟩ := rotate_ok ok
    rename_i id t runtime _
    change (s.store.sessions.set _ _).get k = some r at hr
    rw [JsMap.get_set] at hr
    split at hr
    · rename_i same
      cases hr
      exact .inr (.inr ⟨id, t, rfl, ev, same.symm, rfl, rfl, rfl⟩)
    · exact .inl hr
  | ticketTaken => rw [takeTicket_sessions] at hr; exact .inl hr
  | tokenTaken => rw [takeToken_sessions] at hr; exact .inl hr
  | rotated ok =>
    obtain ⟨cr, -, rfl, -⟩ := rotate_ok ok
    exact .inl hr
  | minted => exact .inl hr
  | burning _ hb =>
    rcases written _ _ _ (burningRecord _) (revoke_sessions _ _) (.inl hb) rfl rfl rfl rfl hr with h | h
    · exact .inl h
    · exact .inr (.inl h)
  | removed =>
    rw [JsMap.get_delete] at hr
    split at hr
    · cases hr
    · exact .inl hr
  | restored =>
    rcases written s.store _ _ (uncleanRecord _) rfl (.inr ⟨_, rfl, rfl⟩) rfl rfl rfl rfl hr with h | h
    · exact .inl h
    · exact .inr (.inl h)
  | lost =>
    rcases written _ _ _ (failedRecord _ _) (revoke_sessions _ _) (.inr ⟨_, rfl, rfl⟩) rfl rfl rfl
      rfl hr with h | h
    · exact .inl h
    · exact .inr (.inl h)

/-- What the reservation map holds after a step. -/
theorem reservations_advance {cfg : Config} {s : State} {e : Event} {c : Nat}
    {old new : Option Pending} {store : Store} {es : List Entry}
    (h : Transition cfg s e c old new store es) :
    (∃ t, old = none ∧ new = some (.creating e.draw.uuid t) ∧
      store.reservations = s.store.reservations.set e.draw.uuid ⟨t, cfg.quota⟩) ∨
    (∃ id t, old = some (.creating id t) ∧ new = none ∧
      store.reservations = s.store.reservations.delete id) ∨
    ((∀ id t, old ≠ some (.creating id t)) ∧ (∀ id t, new ≠ some (.creating id t)) ∧
      store.reservations = s.store.reservations) := by
  cases h with
  | moved ho hn =>
    have quiet : QuietOption (some _) := ho
    exact .inr (.inr ⟨(quietOption_ne quiet).1, (quietOption_ne hn.quiet).1, rfl⟩)
  | begun _ hn => exact .inr (.inr ⟨by simp, (quietOption_ne hn.quiet).1, rfl⟩)
  | reserved _ ok => exact .inl ⟨_, rfl, rfl, by rw [(reserve_ok ok).2.2.2.2.2]⟩
  | released => exact .inr (.inl ⟨_, _, rfl, rfl, rfl⟩)
  | created _ ok =>
    obtain ⟨cr, -, rfl, -⟩ := rotate_ok ok
    exact .inr (.inl ⟨_, _, rfl, rfl, rfl⟩)
  | ticketTaken _ hn =>
    exact .inr (.inr ⟨by simp, (quietOption_ne hn.quiet).1, takeTicket_reservations _ _⟩)
  | tokenTaken _ hn =>
    exact .inr (.inr ⟨by simp, (quietOption_ne hn.quiet).1, takeToken_reservations _ _⟩)
  | rotated ok =>
    obtain ⟨cr, -, rfl, -⟩ := rotate_ok ok
    exact .inr (.inr ⟨by simp, by simp, rfl⟩)
  | burning | lost => exact .inr (.inr ⟨by simp, by simp, by simp⟩)
  | _ => exact .inr (.inr ⟨by simp, by simp, rfl⟩)

/-- A record a parked call holds was held before, or is the stored one. -/
theorem held_advance {cfg : Config} {s : State} {e : Event} {c : Nat} {old new : Option Pending}
    {store : Store} {es : List Entry} (h : Transition cfg s e c old new store es) {p : Pending}
    {k : String} {r : SessionRecord} (hn : new = some p) (hp : p.holds = some (k, r)) :
    s.store.sessions.get k = some r := by
  cases h with
  | moved _ hq | begun _ hq | ticketTaken _ hq | tokenTaken _ hq => subst hn; exact hq.2 k r hp
  | burning _ hb => cases hn; cases hp; exact hb
  | reserved | lost => cases hn; cases hp
  | _ => cases hn

section
variable {cfg : Config} {s : State} {e : Event} {c : Nat} {old new : Option Pending}
  {store : Store} {es : List Entry}

/-- A step of one call leaves the reservation of every other parked create. -/
theorem reservation_kept (wf : Wf cfg s) (fresh : e.draw.uuid ∉ sessionIds s.history)
    (stands : s.Stands c old) (ht : Transition cfg s e c old new store es) {c' : Nat}
    {id t : String} (hne : c' ≠ c) (hc : s.calls.get c' = some (.creating id t)) :
    store.reservations.get id = some ⟨t, cfg.quota⟩ := by
  obtain ⟨-, drawn, held⟩ := wf.creating c' id t hc
  rcases reservations_advance ht with ⟨t', -, -, eq⟩ | ⟨id', t', rfl, -, eq⟩ | ⟨-, -, eq⟩
  · have : e.draw.uuid ≠ id := fun same => fresh (same ▸ drawn)
    rw [eq, JsMap.get_set_ne this, held]
  · have : id' ≠ id := by
      rintro rfl
      exact hne (wf.alone c' c id' t t' hc stands)
    rw [eq, JsMap.get_delete_ne this, held]
  · rw [eq, held]

/-- The create that a step finishes leaves its id spent. -/
theorem spent_of_created (wf : Wf cfg s) (ht : Transition cfg s e c old none store es)
    {id t : String} (stands : s.calls.get c = some (.creating id t)) :
    Spent (s.advance c old none store es) id := by
  obtain ⟨shaped, drawn, -⟩ := wf.creating c id t stands
  refine ⟨shaped, sessionIds_advance id drawn, ?_⟩
  intro c' t' hc
  rcases creating_advance ht hc with ⟨hne, before⟩ | ⟨-, -, impossible⟩
  · exact hne (wf.alone c' c id t' t before stands)
  · cases impossible

end

theorem wf_step {cfg : Config} {s t : State} {e : Event} (fresh : FreshId s e)
    (h : step cfg s e = some t) (wf : Wf cfg s) : Wf cfg t := by
  have keeps : ∀ k r, RecordUnder cfg s k r → RecordUnder cfg t k r :=
    fun k r hr => hr.step fresh h
  obtain ⟨c, old, new, store, es, stands, ht, rfl⟩ := step_transition h
  refine ⟨numbered_advance wf.numbered stands, ?stored, ?held, ?creating, ?alone, ?reserved⟩
  case stored =>
    intro k r hr
    rcases sessions_advance ht hr with before | ⟨r', source, hi, hten, hq, -⟩ |
      ⟨id, t', rfl, -, hk, hi, hten, hq⟩
    · exact keeps k r (wf.stored k r before)
    · have under : RecordUnder cfg s k r' := by
        rcases source with stored | ⟨p, rfl, hp⟩
        · exact wf.stored k r' stored
        · exact wf.held c p k r' stands hp
      exact keeps k r (under.of_eq hi hten hq)
    · have done : new = none := by
        rcases reservations_advance ht with ⟨_, ho, -⟩ | ⟨_, _, -, hn, -⟩ | ⟨ho, -⟩
        · cases ho
        · exact hn
        · exact absurd rfl (ho id t')
      subst done
      exact ⟨by rw [hten, hi]; exact hk, by rw [hi]; exact spent_of_created wf ht stands, hq⟩
  case held =>
    intro c' p k r hc hp
    rw [advance_calls] at hc
    split at hc
    · exact keeps k r (wf.stored k r (held_advance ht hc hp))
    · exact keeps k r (wf.held c' p k r hc hp)
  case creating =>
    intro c' id t' hc
    rcases creating_advance ht hc with ⟨hne, before⟩ | ⟨rfl, rfl, hn⟩
    · obtain ⟨shaped, drawn, -⟩ := wf.creating c' id t' before
      exact ⟨shaped, sessionIds_advance id drawn,
        reservation_kept wf fresh.2 stands ht hne before⟩
    · rcases transition_sessionIds ht with ⟨-, none⟩ | ⟨drawn, -⟩
      · exact absurd hn (none _ _)
      · refine ⟨fresh.1, ?_, ?_⟩
        · rw [advance_history, sessionIds_append, drawn]; simp
        · rcases reservations_advance ht with ⟨_, -, hn', eq⟩ | ⟨_, _, -, hn', -⟩ | ⟨-, hn', -⟩
          · rw [hn] at hn'
            cases hn'
            simp [eq]
          · rw [hn] at hn'; cases hn'
          · exact absurd hn (hn' _ _)
  case alone =>
    intro c₁ c₂ id t₁ t₂ h₁ h₂
    -- an id just drawn is no parked create's
    have drawn : ∀ c' t', s.calls.get c' ≠ some (.creating e.draw.uuid t') := fun c' t' hc =>
      fresh.2 (wf.creating c' _ t' hc).2.1
    rcases creating_advance ht h₁ with ⟨-, b₁⟩ | ⟨rfl, rfl, -⟩
    · rcases creating_advance ht h₂ with ⟨-, b₂⟩ | ⟨-, rfl, -⟩
      · exact wf.alone c₁ c₂ id t₁ t₂ b₁ b₂
      · exact absurd b₁ (drawn c₁ t₁)
    · rcases creating_advance ht h₂ with ⟨-, b₂⟩ | ⟨rfl, -, -⟩
      · exact absurd b₂ (drawn c₂ t₂)
      · rfl
  case reserved =>
    intro id r hr
    rcases reservations_advance ht with ⟨t', rfl, rfl, eq⟩ | ⟨id', t', rfl, rfl, eq⟩ | ⟨ho, hn, eq⟩
    · rw [advance_store, eq, JsMap.get_set] at hr
      split at hr
      · rename_i same
        cases hr
        exact ⟨c, by rw [advance_calls, if_pos rfl, ← same], rfl⟩
      · obtain ⟨c', hc, hq⟩ := wf.reserved id r hr
        have : c ≠ c' := by
          rintro rfl
          rw [stands_none wf.numbered stands] at hc
          cases hc
        exact ⟨c', by rw [advance_calls, if_neg this]; exact hc, hq⟩
    · rw [advance_store, eq, JsMap.get_delete] at hr
      split at hr
      · cases hr
      · rename_i hid
        obtain ⟨c', hc, hq⟩ := wf.reserved id r hr
        have : c ≠ c' := by
          rintro rfl
          simp only [State.Stands] at stands
          rw [stands] at hc
          cases hc
          exact hid rfl
        exact ⟨c', by rw [advance_calls, if_neg this]; exact hc, hq⟩
    · rw [advance_store, eq] at hr
      obtain ⟨c', hc, hq⟩ := wf.reserved id r hr
      have : c ≠ c' := by
        rintro rfl
        cases old with
        | none => rw [stands_none wf.numbered stands] at hc; cases hc
        | some p =>
          simp only [State.Stands] at stands
          rw [stands] at hc
          exact ho _ _ hc
      exact ⟨c', by rw [advance_calls, if_neg this]; exact hc, hq⟩

/-- **Every reachable state is well formed.** -/
theorem reachable_wf {cfg : Config} {allowed : State → Event → Prop} {s : State}
    (fresh : ∀ s e, allowed s e → FreshId s e) (h : (machine cfg).Reachable allowed s) :
    Wf cfg s :=
  h.invariant (wf_initial cfg) fun _ _ _ _ wf ha hs => wf_step (fresh _ _ ha) hs wf

end Fireball.Session
