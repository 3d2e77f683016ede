import Fireball.Session.Revocation
import Fireball.Signaling.Coverage

/-!
# The session service and the gateway together

The composition of `src/main.ts`: the gateway asks the service to authorize the
tokens it is presented, and the service's revocation callback is `revoke` of the
registry. A handler picks the answer of `authorizeSignalingToken` up in a step of
its own.

* `revocation_reaches`: what a revocation leaves of the gateway;
* `revocation_missed`: an authorization picked up after the revocation.
-/

namespace Fireball.Signaling

open Foundation Session

/-! ## The composition -/

/-- `waiting` holds the service call of each handler that is at its first await. -/
structure System where
  service : State
  gateway : Gateway
  waiting : JsMap Closer Nat

def System.initial : System := ⟨State.initial, Gateway.initial, .empty⟩

inductive SystemEvent
  /-- Any call of the service, or one that goes on. -/
  | service (event : Event)
  | accepted (c : Nat)
  /-- A frame of the client, with what the service draws if it is asked. -/
  | clientFrame (c : Nat) (frame : Frame) (bufferedAmount : Nat) (d : Draw)
  | relay (c : Nat) (event : RelayEvent)
  /-- A handler goes on with the answer to its token. -/
  | resumed (c a : Nat)

/-- The sessions passed to `revokeSignalingConnections` in a step, in order. -/
def callbacks (before after : List Entry) : List String :=
  (after.take (after.length - before.length)).reverse.filterMap fun
    | .revoked sessionId => some sessionId
    | _ => none

/-- The attempt and the token that a frame on connection `c` has led to. -/
def presentedOn (c : Nat) (before after : Gateway) : Option (Nat × String) :=
  (before.relays.get c).bind fun r => (after.relays.get c).bind fun r' =>
    r'.attempts[r.attempts.length]?.map fun t => (r.attempts.length, t.token)

section
variable (service : Config) (relay : GatewayConfig)

/-- `connectUpstream` has called `authorizeSignalingToken`, or nobody has. -/
def System.present (S : System) (c : Nat) (d : Draw) (gateway : Gateway) : System :=
  match presentedOn c S.gateway gateway with
  | none => { S with gateway := gateway }
  | some (a, token) =>
    { service := makeCall service S.service (.authorizeSignalingToken token) d
      gateway := gateway
      waiting := S.waiting.set ⟨c, a⟩ S.service.nextCall }

/-- The gateway event of a handler that goes on with this answer. -/
def answerEvent (c a : Nat) : Outcome → Option GatewayEvent
  | .authorized authorization => some (.authorized c a authorization)
  | .rejected error => some (.relay c (.rejected a error))
  | _ => none

/-- The events of a connection that the service has no part in. -/
def RelayEvent.local : RelayEvent → Bool
  | .clientFrame _ _ => false
  | .rejected _ _ => false
  | _ => true

def systemStep (S : System) : SystemEvent → Option System
  | .service event => (step service S.service event).map fun after =>
    { S with
      service := after
      gateway := (callbacks S.service.history after.history).foldl Gateway.revoke S.gateway }
  | .accepted c => (gatewayStep relay S.gateway (.accepted c)).map fun g => { S with gateway := g }
  | .clientFrame c frame bufferedAmount d =>
    (gatewayStep relay S.gateway (.relay c (.clientFrame frame bufferedAmount))).map
      (S.present service c d)
  | .relay c event =>
    if event.local then
      (gatewayStep relay S.gateway (.relay c event)).map fun g => { S with gateway := g }
    else none
  | .resumed c a =>
    (S.waiting.get ⟨c, a⟩).bind fun n => (outcomeOf n S.service.history).bind fun outcome =>
      (answerEvent c a outcome).bind fun event => (gatewayStep relay S.gateway event).map fun g =>
        { S with gateway := g, waiting := S.waiting.delete ⟨c, a⟩ }

def system : Machine System SystemEvent := ⟨.initial, systemStep service relay⟩

end

/-! ## The condition -/

/-- The draws of the service are fresh. -/
def FreshDraws (S : System) : SystemEvent → Prop
  | .service event => FreshId S.service event
  | .clientFrame _ _ _ d => FreshId S.service (.call (.authorizeSignalingToken "") d)
  | _ => True

/-- No authentication frame arrives on a connection on which an earlier one is
being authorized. -/
def OneAuthenticationEach (relay : GatewayConfig) (S : System) : SystemEvent → Prop
  | .clientFrame c frame bufferedAmount _ =>
    OneAuthentication relay c S.gateway (.relay c (.clientFrame frame bufferedAmount))
  | _ => True

/-- When a session is revoked, no handler has still to pick up an authorization
of it: `authorizeSignalingToken` has not got past the runtime, or its caller has
gone on already. -/
def PickedUp (S : System) : SystemEvent → Prop
  | .service event => match revokedBy S.service event with
    | some sessionId => ∀ n ∈ S.waiting.values, granted S.service n ≠ some sessionId
    | none => True
  | _ => True

/-- The steps of a run that meets the condition. -/
def Prompt (relay : GatewayConfig) (S : System) (e : SystemEvent) : Prop :=
  FreshDraws S e ∧ OneAuthenticationEach relay S e ∧ PickedUp S e

/-! ## The gateway -/

section
variable {relay : GatewayConfig} {g g' : Gateway} {e : GatewayEvent} {sessionId : String}

theorem step_covered (relays : ∀ c, OneRelay g c) (covered : Covered g)
    (h : gatewayStep relay g e = some g') : Covered g' := by
  cases e with
  | accepted c =>
    simp only [gatewayStep] at h
    split at h
    · cases h
      intro c₁ r₁ handle h₁ open_ known
      simp only [JsMap.get_set] at h₁
      split at h₁
      · cases h₁
        cases known
      · exact covered c₁ r₁ handle h₁ open_ known
    · cases h
  | relay c event =>
    simp only [gatewayStep, Option.bind_eq_some_iff, Option.map_eq_some_iff] at h
    obtain ⟨r, hr, r', hl, rfl⟩ := h
    exact run_covered relays covered hr (listen_unregister hl)
      (listen_closed ((relays c).sound r hr) hl)
  | authorized c a authorization =>
    simp only [gatewayStep, Option.bind_eq_some_iff] at h
    obtain ⟨r, hr, hj⟩ := h
    split at hj
    · cases hj
      exact join_covered (relays c).wf.registry covered
    · cases hj
  | revoked s =>
    cases h
    exact (revoke_covered relays covered).1

/-- Only an authorization of the session puts an entry for it into the registry. -/
theorem step_absent (absent : Absent g sessionId) (h : gatewayStep relay g e = some g')
    (other : ∀ c a authorization, e = .authorized c a authorization →
      authorization.sessionId ≠ sessionId) : Absent g' sessionId := by
  cases e with
  | accepted c =>
    simp only [gatewayStep] at h
    split at h
    · cases h
      exact absent
    · cases h
  | relay c event =>
    simp only [gatewayStep, Option.bind_eq_some_iff, Option.map_eq_some_iff] at h
    obtain ⟨r, hr, r', hl, rfl⟩ := h
    exact run_absent absent
  | authorized c a authorization =>
    simp only [gatewayStep, Option.bind_eq_some_iff] at h
    obtain ⟨r, hr, hj⟩ := h
    split at hj
    · cases hj
      exact join_absent absent (other c a authorization rfl)
    · cases hj
  | revoked s =>
    cases h
    exact revoke_absent absent

/-- The callbacks of one step of the service. -/
theorem revokes_covered (ids : List String) (relays : ∀ c, OneRelay g c) (covered : Covered g) :
    (∀ c, OneRelay (ids.foldl Gateway.revoke g) c) ∧ Covered (ids.foldl Gateway.revoke g) ∧
      ∀ id, id ∈ ids ∨ Absent g id → Absent (ids.foldl Gateway.revoke g) id := by
  induction ids generalizing g with
  | nil => exact ⟨relays, covered, fun id h => h.resolve_left (List.not_mem_nil)⟩
  | cons first ids ih =>
    have revoking : Covered (g.revoke first) ∧ Absent (g.revoke first) first :=
      revoke_covered relays covered
    obtain ⟨revoked, gone⟩ := revoking
    obtain ⟨relays', covered', absent'⟩ := ih (fun c => revoke_oneRelay (relays c) first) revoked
    refine ⟨relays', covered', ?_⟩
    rintro id (mem | absent)
    · rcases List.mem_cons.mp mem with rfl | rest
      · exact absent' id (.inr gone)
      · exact absent' id (.inl rest)
    · exact absent' id (.inr (revoke_absent absent))

end

/-! ## The invariant -/

structure RevocationWf (service : Config) (S : System) : Prop where
  service : (machine service).Reachable FreshId S.service
  relays : ∀ c, OneRelay S.gateway c
  covered : Covered S.gateway
  absent : ∀ id, .revoked id ∈ S.service.history → Absent S.gateway id
  /-- What a handler will be given is no authorization of a revoked session. -/
  waiting : ∀ id closer n, .revoked id ∈ S.service.history → S.waiting.get closer = some n →
    granted S.service n ≠ some id

theorem revocationWf_initial (service : Config) : RevocationWf service .initial where
  service := .refl
  relays := oneRelay_initial
  covered := by intro c r handle h; simp [System.initial, Gateway.initial] at h
  absent := by intro id h; simp [System.initial, State.initial] at h
  waiting := by intro id closer n h; simp [System.initial, State.initial] at h

section
variable {service : Config} {relay : GatewayConfig} {S S' : System}

theorem mem_callbacks {before after es : List Entry} (eq : after = es ++ before) {id : String}
    (h : .revoked id ∈ es) : id ∈ callbacks before after := by
  have new : after.take (after.length - before.length) = es := by
    rw [eq, List.length_append, Nat.add_sub_cancel, List.take_left]
  rw [callbacks, new, List.mem_filterMap]
  exact ⟨.revoked id, List.mem_reverse.mpr h, rfl⟩

/-- An event of the gateway, with the service as it is. -/
theorem gateway_wf {g : Gateway} {e : GatewayEvent} (wf : RevocationWf service S)
    (first : ∀ c, OneAuthentication relay c S.gateway e) (h : gatewayStep relay S.gateway e = some g)
    (other : ∀ c a authorization, e = .authorized c a authorization →
      .revoked authorization.sessionId ∉ S.service.history) :
    RevocationWf service { S with gateway := g } where
  service := wf.service
  relays := fun c => step_oneRelay (wf.relays c) (first c) h
  covered := step_covered wf.relays wf.covered h
  absent := by
    intro id revoked
    apply step_absent (wf.absent id revoked) h
    rintro c a authorization same rfl
    exact other c a authorization same revoked
  waiting := wf.waiting

theorem service_wf {event : Event} {after : State} (wf : RevocationWf service S)
    (fresh : FreshId S.service event) (pickedUp : PickedUp S (.service event))
    (h : step service S.service event = some after) :
    RevocationWf service
      { S with
        service := after
        gateway := (callbacks S.service.history after.history).foldl Gateway.revoke S.gateway } := by
  obtain ⟨relays, covered, absent⟩ :=
    revokes_covered (callbacks S.service.history after.history) wf.relays wf.covered
  have reached := wf.service.step fresh h
  refine ⟨reached, relays, covered, ?_, ?_⟩
  · intro id revoked
    apply absent
    obtain ⟨c, old, new, store, es, -, -, eq⟩ := step_transition h
    have history : after.history = es ++ S.service.history := by rw [eq, advance_history]
    rw [history] at revoked
    rcases List.mem_append.mp revoked with now | before
    · exact .inl (mem_callbacks history now)
    · exact .inr (wf.absent id before)
  · intro id closer n revoked hw now
    have buried := reachable_buried (fun _ _ h => h) reached id revoked
    have tr := reachable_traced (fun _ _ h => h) wf.service
    have before := granted_step tr h buried now
    rcases revoked_step h revoked with earlier | ⟨now, -⟩
    · exact wf.waiting id closer n earlier hw before
    · simp only [PickedUp, now] at pickedUp
      exact pickedUp n (JsMap.mem_values.mpr ⟨closer, hw⟩) before

/-- The call that a presented token leads to revokes nothing. -/
theorem present_wf {c : Nat} {d : Draw} {g : Gateway}
    (wf : RevocationWf service { S with gateway := g })
    (fresh : FreshId S.service (.call (.authorizeSignalingToken "") d)) :
    RevocationWf service (S.present service c d g) := by
  unfold System.present
  split
  · exact wf
  · rename_i a token _
    have h : step service S.service (.call (.authorizeSignalingToken token) d) =
        some (makeCall service S.service (.authorizeSignalingToken token) d) := rfl
    have drawn : FreshId S.service (.call (.authorizeSignalingToken token) d) := fresh
    have reached := wf.service.step drawn h
    have earlier : ∀ id, .revoked id ∈
        (makeCall service S.service (.authorizeSignalingToken token) d).history →
        .revoked id ∈ S.service.history := by
      intro id revoked
      rcases revoked_step h revoked with before | ⟨now, -⟩
      · exact before
      · cases now
    refine ⟨reached, wf.relays, wf.covered, fun id revoked => wf.absent id (earlier id revoked), ?_⟩
    intro id closer n revoked hw now
    have buried := reachable_buried (fun _ _ h => h) reached id revoked
    have tr := reachable_traced (fun _ _ h => h) wf.service
    have before := granted_step tr h buried now
    rw [JsMap.get_set] at hw
    split at hw
    · -- the call was not there before
      cases hw
      have numbered := (reachable_wf (fun _ _ h => h) wf.service).numbered
      exact absurd (granted_numbered numbered tr before) (Nat.lt_irrefl _)
    · exact wf.waiting id closer n (earlier id revoked) hw before

theorem system_step {e : SystemEvent} (wf : RevocationWf service S) (prompt : Prompt relay S e)
    (h : systemStep service relay S e = some S') : RevocationWf service S' := by
  obtain ⟨fresh, first, pickedUp⟩ := prompt
  have kept : ∀ {g} {e : GatewayEvent}, (∀ c, OneAuthentication relay c S.gateway e) →
      gatewayStep relay S.gateway e = some g →
      (∀ c a authorization, e ≠ .authorized c a authorization) →
      RevocationWf service { S with gateway := g } := fun first h other =>
    gateway_wf wf first h fun c a authorization same => absurd same (other c a authorization)
  cases e with
  | service event =>
    obtain ⟨after, hs, rfl⟩ := Option.map_eq_some_iff.mp h
    exact service_wf wf fresh pickedUp hs
  | accepted c =>
    obtain ⟨g, hg, rfl⟩ := Option.map_eq_some_iff.mp h
    exact kept (e := .accepted c) (fun _ => trivial) hg (by simp)
  | clientFrame c frame bufferedAmount d =>
    obtain ⟨g, hg, rfl⟩ := Option.map_eq_some_iff.mp h
    refine present_wf (kept ?_ hg (by simp)) fresh
    rintro c' rfl
    exact first rfl
  | relay c event =>
    simp only [systemStep] at h
    split at h
    · rename_i own
      obtain ⟨g, hg, rfl⟩ := Option.map_eq_some_iff.mp h
      refine kept ?_ hg (by simp)
      rintro c' -
      cases event with
      | clientFrame => cases own
      | _ => split <;> trivial
    · cases h
  | resumed c a =>
    simp only [systemStep, Option.bind_eq_some_iff] at h
    obtain ⟨n, hn, outcome, ho, event, he, hg⟩ := h
    obtain ⟨g, hs, rfl⟩ := Option.map_eq_some_iff.mp hg
    have next : RevocationWf service { S with gateway := g } := by
      cases outcome with
      | authorized authorization =>
        cases he
        refine gateway_wf (e := .authorized c a authorization) wf (fun _ => trivial) hs ?_
        rintro c' a' _ ⟨⟩ revoked
        have tr := reachable_traced (fun _ _ h => h) wf.service
        exact wf.waiting _ _ n revoked hn (granted_answered tr ho)
      | rejected error =>
        cases he
        refine kept (e := .relay c (.rejected a error)) ?_ hs (by simp)
        rintro c' -
        split <;> trivial
      | _ => cases he
    refine ⟨next.service, next.relays, next.covered, next.absent, ?_⟩
    intro id closer n' revoked hw
    rw [JsMap.get_delete] at hw
    split at hw
    · cases hw
    · exact wf.waiting id closer n' revoked hw

end

theorem reachable_revocation {service : Config} {relay : GatewayConfig} {S : System}
    (reached : (system service relay).Reachable (Prompt relay) S) : RevocationWf service S :=
  reached.invariant (revocationWf_initial service) fun _ _ _ _ wf prompt h => system_step wf prompt h

/-! ## Revocation reaches every relay -/

/-- The authorization that a handler connects or relays with. -/
def Stage.authorization : Stage → Option SignalingAuthorization
  | .connecting authorization _ => some authorization
  | .connected authorization => some authorization
  | _ => none

/-- The attempt connects or relays for the session. -/
def Attempt.For (t : Attempt) (sessionId : String) : Prop :=
  ∃ authorization, t.stage.authorization = some authorization ∧ authorization.sessionId = sessionId

def Attempt.SocketClosed (t : Attempt) : Prop :=
  ∀ state, t.socket = some state → state = .closing ∨ state = .closed

/-- What is promised of the gateway once the session is revoked. -/
structure Cut (g : Gateway) (sessionId : String) : Prop where
  unregistered : g.registry.count sessionId = 0
  closed : ∀ c r t, g.relays.get c = some r → t ∈ r.attempts → t.For sessionId → r.phase = .closed
  /-- A pending connect is aborted, and a connected socket is closed. -/
  sockets : ∀ c r t, g.relays.get c = some r → t ∈ r.attempts → t.For sessionId →
    (r.aborted = true ∧ ∃ authorization refused, t.stage = .connecting authorization refused) ∨
      t.SocketClosed
  /-- So is the socket of an attempt that has ended, whatever session it was for. -/
  ended : ∀ c r t, g.relays.get c = some r → t ∈ r.attempts → t.stage = .ended → t.SocketClosed

theorem socketClosed_of_closing {r : Relay} {t : Attempt} (closing : r.SocketsClosing)
    (ht : t ∈ r.attempts) : t.SocketClosed := by
  intro state hs
  have rank := closing t ht state hs
  cases state with
  | connecting | opened => simp [ReadyState.rank] at rank
  | closing => exact .inl rfl
  | closed => exact .inr rfl

/-- A connection that goes on for a session is registered for it unless it is closed. -/
theorem closed_of_absent {g : Gateway} {c : Nat} {r : Relay} {t : Attempt} {sessionId : String}
    (sound : Sound c r) (covered : Covered g) (absent : Absent g sessionId)
    (hr : g.relays.get c = some r) (ht : t ∈ r.attempts) (own : t.For sessionId) :
    r.phase = .closed := by
  obtain ⟨token, stage, socket⟩ := t
  obtain ⟨a, ha⟩ := List.mem_iff_getElem?.mp ht
  obtain ⟨-, one⟩ := sound.shape.only ha
  obtain ⟨authorization, stands, rfl⟩ := own
  have registered : ∃ set, r.unregister = some ⟨authorization.sessionId, set, ⟨c, 0⟩⟩ := by
    cases stage with
    | connecting authorization' refused =>
      cases stands
      exact (sound.shape.joining_of one).unregister
    | connected authorization' =>
      cases stands
      exact (sound.shape.linked_of one).unregister
    | authorizing | ended => cases stands
  obtain ⟨set, known⟩ := registered
  by_contra open_
  have current := (covered c r _ hr open_ known).1
  cases absent.symm.trans current

/-- **Revocation reaches every relay.** In a run in which every revocation finds the
authorizations of its session picked up, and no connection sends a second
authentication frame too early, nothing in the gateway is left to a revoked session. -/
theorem revocation_reaches (service : Config) (relay : GatewayConfig) {S : System}
    (reached : (system service relay).Reachable (Prompt relay) S) :
    ∀ sessionId, .revoked sessionId ∈ S.service.history → Cut S.gateway sessionId := by
  intro sessionId revoked
  have wf := reachable_revocation reached
  have absent := wf.absent sessionId revoked
  refine ⟨?unregistered, ?closed, ?sockets, ?ended⟩
  case unregistered =>
    have gone : S.gateway.registry.connections.get sessionId = none := absent
    simp only [Registry.count, gone]
  case closed =>
    intro c r t hr ht own
    exact closed_of_absent ((wf.relays c).sound r hr) wf.covered absent hr ht own
  case sockets =>
    intro c r t hr ht own
    have sound := (wf.relays c).sound r hr
    have closed := closed_of_absent sound wf.covered absent hr ht own
    obtain ⟨token, stage, socket⟩ := t
    obtain ⟨a, ha⟩ := List.mem_iff_getElem?.mp ht
    obtain ⟨-, one⟩ := sound.shape.only ha
    obtain ⟨authorization, stands, -⟩ := own
    cases stage with
    | connecting authorization' refused =>
      exact .inl ⟨sound.quenched.aborted closed, authorization', refused, rfl⟩
    | connected authorization' =>
      exact .inr (socketClosed_of_closing ((sound.shape.linked_of one).released closed) ht)
    | authorizing | ended => cases stands
  case ended =>
    rintro c r ⟨token, stage, socket⟩ hr ht rfl
    have sound := (wf.relays c).sound r hr
    obtain ⟨a, ha⟩ := List.mem_iff_getElem?.mp ht
    obtain ⟨-, one⟩ := sound.shape.only ha
    exact socketClosed_of_closing (sound.shape.over_of one).released ht

/-! ## A revocation before and after the handler goes on -/

instance (S : System) (e : SystemEvent) : Decidable (FreshDraws S e) := by
  unfold FreshDraws
  split <;> infer_instance

instance (relay : GatewayConfig) (S : System) (e : SystemEvent) :
    Decidable (OneAuthenticationEach relay S e) := by
  unfold OneAuthenticationEach
  split <;> infer_instance

instance (S : System) (e : SystemEvent) : Decidable (PickedUp S e) := by
  unfold PickedUp
  split
  · split <;> infer_instance
  · infer_instance

instance (relay : GatewayConfig) (S : System) (e : SystemEvent) : Decidable (Prompt relay S e) := by
  unfold Prompt
  infer_instance

/-- A session is created, its ticket exchanged for the token `credential "2"`, and
a client presents the token, which the service then authorizes. -/
def presentedToken : List SystemEvent :=
  [.service (.call (.create alpha) (draw 0 0 (credential "0"))),
    .service (.settle 0 (.created (.ok sampleRuntime)) (draw 1 0 (credential "1"))),
    .service (.call (.exchangeSignalingTicket (credential "1")) (draw 1 0 (credential "3"))),
    .service (stillRunning 1 "3"), .service (continued 1 "2"), .accepted 0,
    .clientFrame 0 (authenticationFrame (credential "2")) 0 (draw 1 0 (credential "3")),
    .service (stillRunning 2 "3"), .service (continued 2 "3")]

def burnedAfter : SystemEvent := .service (.call (.burn alpha (sampleId 0)) (draw 1 0 (credential "3")))

/-- The runtime of the burned session cannot be destroyed. -/
def notDestroyed : SystemEvent :=
  .service (.settle 3 (.destroyed (.error (.other "timeout"))) (draw 1 0 (credential "3")))

theorem revocation_reaches_relaying : ∃ S,
    (system sampleConfig sampleGateway).Reachable (Prompt sampleGateway) S ∧
    .revoked (sampleId 0) ∈ S.service.history ∧ Cut S.gateway (sampleId 0) ∧
    (S.gateway.relays.get 0).map (·.sent) = some [.ready (sampleId 0)] := by
  have reached : (system sampleConfig sampleGateway).Reachable (Prompt sampleGateway)
      (((system sampleConfig sampleGateway).runFrom .initial (presentedToken ++
        [.resumed 0 0, .relay 0 (.connected 0 (some ⟨.opened, 0, []⟩)), burnedAfter,
          notDestroyed])).get (by decide)) :=
    Machine.reaches_end (by decide) _
  exact ⟨_, reached, by decide, revocation_reaches _ _ reached _ (by decide), by decide⟩

/-- The session is burned while its authorization waits for the handler, which
then registers the revoked session and starts to connect. -/
theorem revocation_missed : ∃ S,
    (system sampleConfig sampleGateway).Reachable (fun S e => FreshDraws S e) S ∧
    .revoked (sampleId 0) ∈ S.service.history ∧ S.gateway.registry.count (sampleId 0) = 1 ∧
    ¬ Cut S.gateway (sampleId 0) := by
  let final := ((system sampleConfig sampleGateway).runFrom .initial
    (presentedToken ++ [burnedAfter, notDestroyed, .resumed 0 0])).get (by decide)
  have reached : (system sampleConfig sampleGateway).Reachable (fun S e => FreshDraws S e) final :=
    Machine.reaches_end (by decide) _
  have registered : final.gateway.registry.count (sampleId 0) = 1 := by decide
  refine ⟨final, reached, by decide, registered, ?_⟩
  intro cut
  cases cut.unregistered.symm.trans registered

end Fireball.Signaling
