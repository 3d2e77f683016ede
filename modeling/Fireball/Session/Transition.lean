import Fireball.Session.Service

/-!
# What one step can do

`step_transition` says once what an event can do to the maps, to the parked
call and to the history. The invariants are read off its cases.
-/

namespace Fireball.Session

open Foundation

/-- A parked call that owns no reservation and no half-done burn. -/
def Pending.Quiet : Pending → Prop
  | .creating _ _ => False
  | .destroying _ _ => False
  | _ => True

/-- An outcome that hands out no credential and authorizes nobody. -/
def Outcome.Quiet : Outcome → Prop
  | .created _ _ => False
  | .ticketIssued _ => False
  | .tokenIssued _ => False
  | .authorized _ => False
  | _ => True

def RuntimeRequest.Quiet : RuntimeRequest → Prop
  | .create _ => False
  | _ => True

def QuietOption : Option Pending → Prop
  | none => True
  | some p => p.Quiet

/-- The session key and the record that a parked call goes on with. -/
def Pending.holds : Pending → Option (String × SessionRecord)
  | .inspecting k r _ => some (k, r)
  | .destroying k r => some (k, r)
  | _ => none

/-- The runtime call whose promise a parked call awaits; `create` is left out. -/
def Pending.asks : Pending → Option RuntimeRequest
  | .inspecting _ r _ => some (.inspect r.runtime)
  | .tabbing resource operation => some (.tab resource operation)
  | .destroying _ r => some (.destroy r.runtime)
  | _ => none

/-- A call parked quietly, with a record only if it is the stored one. -/
def Parked (s : Store) : Option Pending → Prop
  | none => True
  | some p => p.Quiet ∧ ∀ k r, p.holds = some (k, r) → s.sessions.get k = some r

theorem Parked.quiet {s : Store} {new : Option Pending} (h : Parked s new) : QuietOption new := by
  cases new with
  | none => trivial
  | some p => exact h.1

theorem parked_observed (s : Store) (r : Except Thrown SessionRecord) (caller : Caller) :
    Parked s (some (.observed r caller)) := ⟨trivial, by simp [Pending.holds]⟩

theorem parked_activated (s : Store) (r : Except Thrown RuntimeResource) (op : TabOperation) :
    Parked s (some (.activated r op)) := ⟨trivial, by simp [Pending.holds]⟩

theorem parked_tabbing (s : Store) (r : RuntimeResource) (op : TabOperation) :
    Parked s (some (.tabbing r op)) := ⟨trivial, by simp [Pending.holds]⟩

/-- What such a step adds to the history: a call that moves on makes at most
one runtime call, and one that ends is answered. -/
inductive QuietEntries (c : Nat) : Option Pending → List Entry → Prop
  | still (p : Pending) : QuietEntries c (some p) []
  | asked (p : Pending) {request : RuntimeRequest} : p.asks = some request → request.Quiet →
      QuietEntries c (some p) [.requested c request]
  | done {outcome : Outcome} : outcome.Quiet → QuietEntries c none [.answered c outcome]

/-- The effect of one step on call `c`, parked as `old` before (`none`: just
made) and as `new` after (`none`: answered), on the maps and on the history. -/
inductive Transition (cfg : Config) (s : State) (e : Event) (c : Nat) :
    Option Pending → Option Pending → Store → List Entry → Prop
  | moved {p new es} : p.Quiet → Parked s.store new → QuietEntries c new es →
      Transition cfg s e c (some p) new s.store es
  | begun {call new es} : e = .call call e.draw → Parked s.store new → QuietEntries c new es →
      Transition cfg s e c none new s.store (es ++ [.called c call])
  | reserved {context : TenantContext} {store} : e = .call (.create context) e.draw →
      reserve cfg s.store e.draw.uuid context.tenantId = .ok store →
      Transition cfg s e c none (some (.creating e.draw.uuid context.tenantId)) store
        [.requested c (.create ⟨e.draw.uuid, context.tenantId, cfg.quota⟩), .called c (.create context)]
  | released {id tenantId error} :
      Transition cfg s e c (some (.creating id tenantId)) none (s.store.release id)
        [.answered c (.rejected error)]
  | created {id tenantId runtime store ticket} : e = .settle c (.created (.ok runtime)) e.draw →
      rotateSignalingTicket cfg (insertCreated cfg s.store (key tenantId id) id tenantId runtime
        e.draw)
        (key tenantId id) e.draw = .ok (store, ticket) →
      Transition cfg s e c (some (.creating id tenantId)) none (store.release id)
        [.answered c (.created ⟨id, .active, e.draw.isoTime, cfg.quota, none⟩ ticket)]
  | ticketTaken {ticket new es} : e = .call (.exchangeSignalingTicket ticket) e.draw →
      Parked s.store new → QuietEntries c new es →
      Transition cfg s e c none new (takePairingTicket s.store (cfg.sha256 ticket))
        (es ++ [.called c (.exchangeSignalingTicket ticket)])
  | tokenTaken {token new es} : e = .call (.authorizeSignalingToken token) e.draw →
      Parked s.store new → QuietEntries c new es →
      Transition cfg s e c none new (takeSignalingToken s.store (cfg.sha256 token))
        (es ++ [.called c (.authorizeSignalingToken token)])
  | rotated {record k store ticket} :
      rotateSignalingTicket cfg s.store k e.draw = .ok (store, ticket) →
      Transition cfg s e c (some (.observed (.ok record) (.issueSignalingTicket k))) none store
        [.answered c (.ticketIssued ticket)]
  | minted {record ticket k credentials} :
      e = .resume c e.draw → s.store.credentialsBySession.get k = some credentials →
      record.phase = .active →
      Transition cfg s e c (some (.observed (.ok record) (.exchange ticket k credentials.ref))) none
        (mintSignalingToken cfg s.store k credentials e.draw).1
        [.answered c (.tokenIssued (mintSignalingToken cfg s.store k credentials e.draw).2)]
  | authorized {record token k} : record.phase = .active →
      Transition cfg s e c (some (.observed (.ok record) (.authorize token k))) none s.store
        [.answered c (.authorized ⟨record.id, record.tenantId, record.runtime⟩)]
  | burning {context id record} : e = .call (.burn context id) e.draw →
      s.store.sessions.get (key context.tenantId id) = some record →
      Transition cfg s e c none (some (.destroying (key context.tenantId id) record))
        ((revokeCredentials s.store (key context.tenantId id)).putRecord (key context.tenantId id)
          (burningRecord record))
        [.requested c (.destroy record.runtime), .revoked record.id, .called c (.burn context id)]
  | removed {k record} : e = .settle c (.destroyed (.ok ())) e.draw →
      Transition cfg s e c (some (.destroying k record)) none
        { s.store with sessions := s.store.sessions.delete k } [.answered c .burned]
  | restored {k record error} : e = .settle c (.destroyed (.error error)) e.draw →
      Transition cfg s e c (some (.destroying k record)) none
        (s.store.putRecord k (uncleanRecord record)) [.answered c (.rejected cleanupFailed)]
  | lost {k record caller current failure failed} :
      s.store.sessions.get k = some current → current.ref = record.ref →
      current.phase = .active → e = .settle c (.inspected (.ok (.failed failure))) e.draw →
      Transition cfg s e c (some (.inspecting k record caller))
        (some (.observed (.ok failed) caller))
        ((revokeCredentials s.store k).putRecord k (failedRecord record failure))
        [.revoked record.id]

/-- The state after call `c` moved on. -/
def State.advance (s : State) (c : Nat) (old new : Option Pending) (store : Store)
    (es : List Entry) : State where
  store := store
  calls := match new with
    | none => s.calls.delete c
    | some p => s.calls.set c p
  nextCall := if old.isNone then s.nextCall + 1 else s.nextCall
  history := es ++ s.history

/-- Where call `c` stands before the step. -/
def State.Stands (s : State) (c : Nat) : Option Pending → Prop
  | none => c = s.nextCall
  | some p => s.calls.get c = some p

@[simp] theorem begin_store (s : State) (call : Call) : (s.begin call).store = s.store := rfl

theorem observeRuntime_shape {store : Store} (s : State) (c : Nat) {k : String}
    {record : SessionRecord} (caller : Caller) (stored : store.sessions.get k = some record) :
    ∃ p es, Parked store (some p) ∧ QuietEntries c (some p) es ∧
      observeRuntime s c k record caller =
        { s with calls := s.calls.set c p, history := es ++ s.history } := by
  unfold observeRuntime
  split
  · exact ⟨.observed (.ok record) caller, [], parked_observed _ _ _, .still _, rfl⟩
  · refine ⟨.inspecting k record caller, [.requested c (.inspect record.runtime)],
      ⟨trivial, ?_⟩, .asked _ rfl trivial, rfl⟩
    rintro _ _ ⟨⟩
    exact stored

section
variable (s : State) (call : Call) (store : Store)

/-- A new call that goes on into `observeRuntime`. -/
theorem begin_observe {k : String} {record : SessionRecord} (caller : Caller)
    (stored : s.store.sessions.get k = some record) :
    ∃ new es, Parked s.store new ∧ QuietEntries s.nextCall new es ∧
      observeRuntime { s.begin call with store := store } s.nextCall k record caller =
        s.advance s.nextCall none new store (es ++ [.called s.nextCall call]) := by
  obtain ⟨p, es, hp, hes, eq⟩ :=
    observeRuntime_shape { s.begin call with store := store } s.nextCall caller stored
  exact ⟨some p, es, hp, hes, by rw [eq]; simp [State.advance, State.begin]⟩

/-- A new call that is answered at once. -/
theorem begin_answer (outcome : Outcome) :
    ({ s.begin call with store := store } : State).answer s.nextCall outcome =
      s.advance s.nextCall none none store
        ([.answered s.nextCall outcome] ++ [.called s.nextCall call]) := rfl

end

theorem rejected_quiet (c : Nat) (e : Thrown) : QuietEntries c none [.answered c (.rejected e)] :=
  .done trivial

/-- A call that looks its session up and observes its runtime leaves the maps alone. -/
theorem lookUp_transition (cfg : Config) (s : State) (call : Call) (d : Draw)
    (context : TenantContext) (id : String) (caller : String → Caller) :
    ∃ new es, Transition cfg s (.call call d) s.nextCall none new s.store es ∧
      lookUp (s.begin call) s.nextCall context id
        (fun k r => observeRuntime (s.begin call) s.nextCall k r (caller k)) =
      s.advance s.nextCall none new s.store es := by
  unfold lookUp
  split
  · exact ⟨none, _, .begun rfl trivial (rejected_quiet _ _), begin_answer s call s.store _⟩
  · rename_i record stored
    obtain ⟨new, es, hn, hes, eq⟩ :=
      begin_observe s call s.store (caller (key context.tenantId id)) stored
    exact ⟨new, _, .begun rfl hn hes, eq⟩

/-- A call's first stretch. -/
theorem makeCall_transition (cfg : Config) (s : State) (call : Call) (d : Draw) :
    ∃ new store es, Transition cfg s (.call call d) s.nextCall none new store es ∧
      makeCall cfg s call d = s.advance s.nextCall none new store es := by
  have refused : ∀ e, ∃ new store es,
      Transition cfg s (.call call d) s.nextCall none new store es ∧
      (s.begin call).answer s.nextCall (.rejected e) =
        s.advance s.nextCall none new store es := fun e =>
    ⟨none, s.store, _, .begun rfl trivial (rejected_quiet _ e), begin_answer s call s.store _⟩
  unfold makeCall
  cases call with
  | create context =>
    simp only [startCall, create]
    rw [begin_store]
    cases hr : reserve cfg s.store d.uuid context.tenantId with
    | error e => exact refused e
    | ok store => exact ⟨_, store, _, .reserved rfl hr, rfl⟩
  | get context id =>
    obtain ⟨new, es, ht, eq⟩ := lookUp_transition cfg s _ d context id fun _ => .get
    exact ⟨new, _, es, ht, eq⟩
  | issueSignalingTicket context id =>
    obtain ⟨new, es, ht, eq⟩ := lookUp_transition cfg s _ d context id .issueSignalingTicket
    exact ⟨new, _, es, ht, eq⟩
  | tab context id operation =>
    simp only [startCall]
    split
    · exact ⟨_, s.store, _, .begun rfl (parked_activated _ (.error sessionNotFound) operation)
        (.still _), rfl⟩
    · rename_i record stored
      obtain ⟨new, es, hn, hes, eq⟩ :=
        begin_observe s (.tab context id operation) s.store (.activeRuntime operation) stored
      exact ⟨new, s.store, _, .begun rfl hn hes, eq⟩
  | exchangeSignalingTicket ticket =>
    have taken : ∀ e, ∃ new store es,
        Transition cfg s (.call (.exchangeSignalingTicket ticket) d) s.nextCall none new store es ∧
        ({ s.begin (.exchangeSignalingTicket ticket) with
            store := takePairingTicket s.store (cfg.sha256 ticket) } : State).answer s.nextCall
          (.rejected e) = s.advance s.nextCall none new store es := fun e =>
      ⟨none, _, _, .ticketTaken rfl trivial (rejected_quiet _ e), begin_answer s _ _ _⟩
    simp only [startCall, exchangeSignalingTicket, hashPresentedCredential]
    split
    · exact refused _
    · rename_i hash hh
      split at hh
      · cases hh
        simp only [begin_store]
        split
        · exact taken _
        · rename_i binding _
          split
          · rename_i record credentials stored _
            split
            · exact taken _
            · obtain ⟨new, es, hn, hes, eq⟩ := begin_observe s (.exchangeSignalingTicket ticket)
                (takePairingTicket s.store (cfg.sha256 ticket))
                (.exchange ticket binding.sessionKey credentials.ref) stored
              exact ⟨new, _, _, .ticketTaken rfl hn hes, eq⟩
          · exact taken _
      · cases hh
  | authorizeSignalingToken token =>
    have taken : ∀ e, ∃ new store es,
        Transition cfg s (.call (.authorizeSignalingToken token) d) s.nextCall none new store es ∧
        ({ s.begin (.authorizeSignalingToken token) with
            store := takeSignalingToken s.store (cfg.sha256 token) } : State).answer s.nextCall
          (.rejected e) = s.advance s.nextCall none new store es := fun e =>
      ⟨none, _, _, .tokenTaken rfl trivial (rejected_quiet _ e), begin_answer s _ _ _⟩
    simp only [startCall, authorizeSignalingToken, hashPresentedCredential]
    split
    · exact refused _
    · rename_i hash hh
      split at hh
      · cases hh
        simp only [begin_store]
        split
        · exact taken _
        · rename_i binding _
          split
          · exact taken _
          · rename_i record stored
            split
            · exact taken _
            · obtain ⟨new, es, hn, hes, eq⟩ := begin_observe s (.authorizeSignalingToken token)
                (takeSignalingToken s.store (cfg.sha256 token))
                (.authorize token binding.sessionKey) stored
              exact ⟨new, _, _, .tokenTaken rfl hn hes, eq⟩
      · cases hh
  | burn context id =>
    simp only [startCall, lookUp]
    split
    · exact refused _
    · rename_i record hr
      exact ⟨_, _, _, .burning rfl hr, rfl⟩

/-- What `create` stored just before always has credentials to rotate. -/
theorem rotate_insertCreated (cfg : Config) (s : Store) (k id tenantId : String)
    (runtime : RuntimeResource) (d : Draw) :
    ∃ r, rotateSignalingTicket cfg (insertCreated cfg s k id tenantId runtime d) k d = .ok r := by
  unfold rotateSignalingTicket insertCreated
  simp only [JsMap.get_set_self]
  exact ⟨_, rfl⟩

theorem settle_transition {cfg : Config} {s t : State} {c : Nat} {d : Draw} {p : Pending}
    {reply : RuntimeReply} (h : settle cfg s c d p reply = some t) :
    ∃ new store es, Transition cfg s (.settle c reply d) c (some p) new store es ∧
      t = s.advance c (some p) new store es := by
  unfold settle at h
  split at h
  case h_1 id tenantId result =>
    cases h
    unfold runtimeCreated
    cases result with
    | error e => exact ⟨none, _, _, .released, rfl⟩
    | ok runtime =>
      obtain ⟨⟨store, ticket⟩, hr⟩ :=
        rotate_insertCreated cfg s.store (key tenantId id) id tenantId runtime d
      simp only [hr]
      exact ⟨none, _, _, .created rfl hr, rfl⟩
  case h_2 k record caller result =>
    cases h
    have kept : ∀ r, ∃ new store es,
        Transition cfg s (.settle c (.inspected result) d) c
          (some (.inspecting k record caller)) new store es ∧
        s.park c (.observed r caller) =
          s.advance c (some (.inspecting k record caller)) new store es := fun r =>
      ⟨_, s.store, [], .moved trivial (parked_observed _ r caller) (.still _), rfl⟩
    unfold runtimeInspected
    cases result with
    | error e => exact kept _
    | ok inspection =>
      simp only
      split
      · exact kept _
      · rename_i current hc
        split
        · exact kept _
        · rename_i same
          simp only [ne_eq, not_or, not_not] at same
          cases inspection with
          | running => exact kept _
          | failed failure => exact ⟨_, _, _, .lost hc same.1 same.2 rfl, rfl⟩
  case h_3 k record result =>
    cases h
    unfold runtimeDestroyed
    cases result with
    | error e => exact ⟨none, _, _, .restored rfl, rfl⟩
    | ok u => exact ⟨none, _, _, .removed rfl, rfl⟩
  case h_4 reply =>
    cases h
    exact ⟨none, s.store, [.answered c (.tab reply)], .moved trivial trivial (.done trivial), rfl⟩
  case h_5 e =>
    cases h
    exact ⟨none, s.store, [.answered c (.rejected e)], .moved trivial trivial (.done trivial), rfl⟩
  case h_6 => cases h

theorem resume_transition {cfg : Config} {s t : State} {c : Nat} {d : Draw} {p : Pending}
    (h : resume cfg s c d p = some t) :
    ∃ new store es, Transition cfg s (.resume c d) c (some p) new store es ∧
      t = s.advance c (some p) new store es := by
  have answered : ∀ (q : Pending) (outcome : Outcome), q.Quiet → outcome.Quiet →
      ∃ new store es, Transition cfg s (.resume c d) c (some q) new store es ∧
        s.answer c outcome = s.advance c (some q) new store es := fun q outcome hq ho =>
    ⟨none, s.store, _, .moved hq trivial (.done ho), rfl⟩
  unfold resume at h
  split at h
  case h_1 record caller =>
    cases h
    cases caller with
    | get => exact answered _ _ trivial trivial
    | issueSignalingTicket k =>
      simp only [resumeCaller]
      split
      · exact answered _ _ trivial trivial
      · cases hr : rotateSignalingTicket cfg s.store k d with
        | error e => exact answered _ _ trivial trivial
        | ok r => exact ⟨none, r.1, _, .rotated hr, rfl⟩
    | activeRuntime operation =>
      simp only [resumeCaller]
      split
      · exact ⟨_, s.store, [], .moved trivial (parked_activated _ _ operation) (.still _), rfl⟩
      · exact ⟨_, s.store, [], .moved trivial (parked_activated _ _ operation) (.still _), rfl⟩
    | exchange ticket k ref =>
      simp only [resumeCaller]
      cases hc : s.store.credentialsBySession.get k with
      | none => exact answered _ _ trivial trivial
      | some credentials =>
        simp only
        split
        · exact answered _ _ trivial trivial
        · rename_i same
          simp only [ne_eq, not_or, not_not] at same
          obtain ⟨active, rfl⟩ := same
          exact ⟨none, _, _, .minted rfl hc active, rfl⟩
    | authorize token k =>
      simp only [resumeCaller]
      split
      · exact answered _ _ trivial trivial
      · rename_i active
        exact ⟨none, _, _, .authorized (not_not.mp active), rfl⟩
  case h_2 e caller =>
    cases h
    cases caller with
    | activeRuntime operation =>
      exact ⟨_, s.store, [], .moved trivial (parked_activated _ _ operation) (.still _), rfl⟩
    | _ => exact answered _ _ trivial trivial
  case h_3 resource operation =>
    cases h
    exact ⟨_, s.store, [.requested c (.tab resource operation)],
      .moved trivial (parked_tabbing _ resource operation) (.asked _ rfl trivial), rfl⟩
  case h_4 => cases h; exact answered _ _ trivial trivial
  case h_5 => cases h

/-- **What a step can do.** -/
theorem step_transition {cfg : Config} {s t : State} {e : Event} (h : step cfg s e = some t) :
    ∃ c old new store es, s.Stands c old ∧ Transition cfg s e c old new store es ∧
      t = s.advance c old new store es := by
  cases e with
  | call call d =>
    obtain ⟨new, store, es, ht, eq⟩ := makeCall_transition cfg s call d
    simp only [step, Option.some.injEq] at h
    exact ⟨s.nextCall, none, new, store, es, rfl, ht, by rw [← h, eq]⟩
  | settle c reply d =>
    obtain ⟨p, hp, hs⟩ := Option.bind_eq_some_iff.mp h
    obtain ⟨new, store, es, ht, eq⟩ := settle_transition hs
    exact ⟨c, some p, new, store, es, hp, ht, eq⟩
  | resume c d =>
    obtain ⟨p, hp, hs⟩ := Option.bind_eq_some_iff.mp h
    obtain ⟨new, store, es, ht, eq⟩ := resume_transition hs
    exact ⟨c, some p, new, store, es, hp, ht, eq⟩

end Fireball.Session
