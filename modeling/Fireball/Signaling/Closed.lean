import Fireball.Signaling.Coverage

/-!
# A closed relay

`shutdown` marks a relay as closed, and every listener looks at that mark or at a
socket that `shutdown` has closed. `connectUpstream` looks at the signal after its
second await but at nothing after its first: an authorization that resolves on a
closed relay opens it again and registers it.

* `listen_rests`: what the listeners leave of a closed relay;
* `rests_iff`: one step of the gateway;
* `closed_stays_closed`: runs.
-/

namespace Fireball.Signaling

open Foundation Session

/-- The frames forwarded to either socket, newest first. -/
def Relay.forwarded (r : Relay) : List Action :=
  r.log.filter fun
    | .toClient _ => true
    | .toUpstream _ _ => true
    | _ => false

/-- The attempt has called `connect`, or has a socket that `connect` made. -/
def Attempt.Started (t : Attempt) : Prop :=
  t.socket.isSome = true ∨ ∃ authorization refused, t.stage = .connecting authorization refused

/-- The relay is still closed, and has forwarded and started nothing since. -/
structure Relay.Rests (r r' : Relay) : Prop where
  phase : r'.phase = .closed
  forwarded : r'.forwarded = r.forwarded
  started : ∀ (a : Nat) (t' : Attempt), r'.attempts[a]? = some t' → t'.Started →
    ∃ t : Attempt, r.attempts[a]? = some t ∧ t.Started

/-- No closer of connection `c` is new in the registry. -/
def NoNewEntry (c : Nat) (g g' : Gateway) : Prop :=
  ∀ ref closer, (g'.registry.members ref).has closer = true → closer.connection = c →
    (g.registry.members ref).has closer = true

/-- Every relay that is closed in `g` rests until `g'`. -/
def ClosedRest (g g' : Gateway) : Prop :=
  ∀ c r, g.relays.get c = some r → r.phase = .closed →
    (∃ r', g'.relays.get c = some r' ∧ r.Rests r') ∧ NoNewEntry c g g'

theorem ClosedRest.refl (g : Gateway) : ClosedRest g g := fun _ r hr closed =>
  ⟨⟨r, hr, closed, rfl, fun _ t ha started => ⟨t, ha, started⟩⟩, fun _ _ h _ => h⟩

theorem ClosedRest.trans {g g' g'' : Gateway} (h : ClosedRest g g') (h' : ClosedRest g' g'') :
    ClosedRest g g'' := by
  intro c r hr closed
  obtain ⟨⟨r', hr', rests⟩, entries⟩ := h c r hr closed
  obtain ⟨⟨r'', hr'', rests'⟩, entries'⟩ := h' c r' hr' rests.phase
  refine ⟨⟨r'', hr'', rests'.phase, rests'.forwarded.trans rests.forwarded, fun a t ha started => ?_⟩,
    fun ref closer member mine => entries ref closer (entries' ref closer member mine) mine⟩
  obtain ⟨t', ha', started'⟩ := rests'.started a t ha started
  exact rests.started a t' ha' started'

/-! ## The listeners -/

section
variable {cfg : GatewayConfig} {r r' : Relay}

theorem shutdown_of_closed (closed : r.phase = .closed) (code : Nat) (reason : String) :
    r.shutdown code reason = r := by
  unfold Relay.shutdown
  rw [if_pos closed]

/-- A relay that is shut down no longer forwards to its client. -/
theorem forwardToClient_of_closed (quenched : Quenched r) (closed : r.phase = .closed)
    (message : ClientMessage) (bufferedAmount : Nat) :
    r.forwardToClient cfg message bufferedAmount = r := by
  have shut : r.client ≠ .opened := by
    intro opened
    have silent := quenched.silent (quenched.aborted closed)
    rw [opened] at silent
    exact absurd silent (by decide)
  unfold Relay.forwardToClient Relay.forward
  rw [if_pos shut, shutdown_of_closed closed]

theorem dispatch_of_closed (quenched : Quenched r) (closed : r.phase = .closed)
    (sessionId : String) (event : UpstreamEvent) : r.dispatch cfg sessionId event = r := by
  cases event with
  | message frame bufferedAmount => exact forwardToClient_of_closed quenched closed _ _
  | close | error => exact shutdown_of_closed closed _ _

/-- Replacing an attempt by one that has started nothing new. -/
theorem rests_setAttempt {a : Nat} {t t' : Attempt} (closed : r.phase = .closed)
    (ha : r.attempts[a]? = some t) (started : t'.Started → t.Started) :
    r.Rests (r.setAttempt a t') := by
  refine ⟨closed, rfl, fun b u hb hu => ?_⟩
  simp only [Relay.setAttempt, List.getElem?_set] at hb
  split at hb
  · rename_i same
    subst same
    split at hb
    · cases hb
      exact ⟨t, ha, started hu⟩
    · cases hb
  · exact ⟨u, hb, hu⟩

theorem listen_rests {e : RelayEvent} (quenched : Quenched r) (closed : r.phase = .closed)
    (hl : r.listen cfg e = some r') : r.Rests r' := by
  have same : ∀ {u : Relay}, u.phase = r.phase → u.log = r.log → u.attempts = r.attempts →
      r.Rests u := by
    intro u phase log attempts
    refine ⟨phase.trans closed, by rw [Relay.forwarded, log]; rfl, fun a t ha started => ?_⟩
    rw [attempts] at ha
    exact ⟨t, ha, started⟩
  cases e with
  | clientFrame frame bufferedAmount =>
    cases hl
    have ignored : r.clientMessage cfg frame bufferedAmount =
        { r with log := .received frame :: r.log } := by
      simp only [Relay.clientMessage, closed]
    rw [ignored]
    exact ⟨closed, rfl, fun a t ha started => ⟨t, ha, started⟩⟩
  | sendFailed =>
    cases hl
    rw [shutdown_of_closed closed]
    exact same rfl rfl rfl
  | clientClosed | clientFailed | timedOut =>
    simp only [Relay.listen] at hl
    split at hl
    · cases hl
      rw [shutdown_of_closed (by exact closed)]
      exact same rfl rfl rfl
    · cases hl
  | clientState state =>
    simp only [Relay.listen] at hl
    split at hl
    · cases hl
      exact same rfl rfl rfl
    · cases hl
  | rejected a error =>
    simp only [Relay.listen] at hl
    split at hl
    · rename_i token socket ha
      cases hl
      have rests : r.Rests (r.setAttempt a ⟨token, .ended, none⟩) :=
        rests_setAttempt closed ha (by rintro (⟨⟨⟩⟩ | ⟨_, _, ⟨⟩⟩))
      cases error <;> simpa only [Relay.authorizationRejected, shutdown_of_closed rests.phase]
    · cases hl
  | connected a result =>
    simp only [Relay.listen] at hl
    split at hl
    · rename_i token authorization refused socket ha
      split at hl
      · cases hl
      · cases hl
        have started : Attempt.Started ⟨token, .connecting authorization refused, socket⟩ :=
          .inr ⟨_, _, rfl⟩
        unfold Relay.connectSettled
        cases result with
        | none =>
          have rests : r.Rests (r.setAttempt a ⟨token, .ended, socket.map fun _ => .closing⟩) :=
            rests_setAttempt closed ha fun _ => started
          simpa only [shutdown_of_closed rests.phase]
        | some connection =>
          simp only [quenched.aborted closed, if_true]
          exact rests_setAttempt closed ha fun _ => started
    · cases hl
  | upstream a event =>
    simp only [Relay.listen] at hl
    split at hl
    · cases hl
      rw [dispatch_of_closed quenched closed]
      exact same rfl rfl rfl
    · cases hl
  | upstreamState a state =>
    simp only [Relay.listen] at hl
    split at hl
    · rename_i token stage socket ha
      split at hl
      · cases hl
        exact rests_setAttempt closed ha fun _ => .inl rfl
      · cases hl
    · cases hl

/-! ## Quenched relays -/

theorem Quenched.kept (h : Quenched r) (phase : r'.phase = .closed → r.phase = .closed)
    (aborted : r'.aborted = r.aborted) (client : r.client.rank ≤ r'.client.rank) : Quenched r' where
  aborted := fun closed => aborted.trans (h.aborted (phase closed))
  silent := fun abort => Nat.le_trans (h.silent (aborted.symm.trans abort)) client

theorem forward_quenched (h : Quenched r) (destination : ReadyState)
    (byteLength bufferedAmount : Nat) (send : Action) :
    Quenched (r.forward cfg destination byteLength bufferedAmount send) := by
  unfold Relay.forward
  split
  · exact shutdown_quenched _ _ h
  split
  · exact shutdown_quenched _ _ h
  · exact h.kept id rfl (Nat.le_refl _)

theorem dispatch_quenched (h : Quenched r) (sessionId : String) (event : UpstreamEvent) :
    Quenched (r.dispatch cfg sessionId event) := by
  cases event with
  | message => exact forward_quenched h _ _ _ _
  | close | error => exact shutdown_quenched _ _ h

/-- Aborting is for good, on every connection. -/
theorem listen_quenched {e : RelayEvent} (h : Quenched r) (hl : r.listen cfg e = some r') :
    Quenched r' := by
  have all : ∀ (events : List UpstreamEvent) sessionId (r : Relay), Quenched r →
      Quenched (events.foldl (Relay.dispatch cfg sessionId) r) := by
    intro events sessionId
    induction events with
    | nil => exact fun _ h => h
    | cons event events ih => exact fun r h => ih _ (dispatch_quenched h sessionId event)
  cases e with
  | clientFrame frame bufferedAmount =>
    cases hl
    have heard : Quenched { r with log := .received frame :: r.log } :=
      h.kept id rfl (Nat.le_refl _)
    unfold Relay.clientMessage
    simp only
    split
    · split
      · exact shutdown_quenched _ _ heard
      · exact heard.kept id rfl (Nat.le_refl _)
    · exact shutdown_quenched _ _ heard
    · split
      · exact heard
      · exact forward_quenched heard _ _ _ _
    · exact heard
  | sendFailed =>
    cases hl
    exact shutdown_quenched _ _ h
  | clientClosed =>
    simp only [Relay.listen] at hl
    split at hl
    · cases hl
      exact shutdown_quenched _ _ (h.kept id rfl (ReadyState.rank_le_closed _))
    · cases hl
  | clientFailed | timedOut =>
    simp only [Relay.listen] at hl
    split at hl
    · cases hl
      exact shutdown_quenched _ _ (h.kept id rfl (Nat.le_refl _))
    · cases hl
  | clientState state =>
    simp only [Relay.listen] at hl
    split at hl
    · rename_i later
      cases hl
      exact h.kept id rfl (Nat.le_of_lt later)
    · cases hl
  | rejected a error =>
    simp only [Relay.listen] at hl
    split at hl
    · cases hl
      cases error <;> exact shutdown_quenched _ _ (h.kept id rfl (Nat.le_refl _))
    · cases hl
  | connected a result =>
    simp only [Relay.listen] at hl
    split at hl
    · rename_i token authorization refused socket ha
      split at hl
      · cases hl
      · cases hl
        unfold Relay.connectSettled
        cases result with
        | none => exact shutdown_quenched _ _ (h.kept id rfl (Nat.le_refl _))
        | some connection =>
          have attached : Quenched (r.attach a token authorization connection.socket) :=
            ⟨fun closed => (by cases closed), h.silent⟩
          simp only
          split
          · exact h.kept id rfl (Nat.le_refl _)
          · exact all _ _ _ (forward_quenched attached _ _ _ _)
    · cases hl
  | upstream a event =>
    simp only [Relay.listen] at hl
    split at hl
    · cases hl
      exact dispatch_quenched h _ event
    · cases hl
  | upstreamState a state =>
    simp only [Relay.listen] at hl
    split at hl
    · split at hl
      · cases hl
        exact h.kept id rfl (Nat.le_refl _)
      · cases hl
    · cases hl

end

/-! ## The gateway -/

structure GatewaySound (g : Gateway) : Prop where
  wf : GatewayWf g
  quenched : ∀ c r, g.relays.get c = some r → Quenched r

theorem gatewaySound_initial : GatewaySound Gateway.initial where
  wf := ⟨Registry.wf_empty, by intro c r handle h; simp [Gateway.initial] at h⟩
  quenched := by intro c r h; simp [Gateway.initial] at h

section
variable {cfg : GatewayConfig} {g g' : Gateway} {c : Nat} {r r' : Relay}

/-- One listener of connection `c`. -/
theorem run_rests (sound : GatewaySound g) (hr : g.relays.get c = some r)
    (same : r'.unregister = r.unregister) (quenched : Quenched r')
    (rests : r.phase = .closed → r.Rests r') :
    GatewaySound (g.run c r r') ∧ ClosedRest g (g.run c r r') := by
  refine ⟨⟨run_wf sound.wf hr same, fun c' r₁ h => ?_⟩, fun c' r₁ h closed =>
    ⟨?_, fun _ _ member _ => run_members member⟩⟩
  · simp only [Gateway.run, JsMap.get_set] at h
    split at h
    · cases h
      exact quenched
    · exact sound.quenched c' r₁ h
  · simp only [Gateway.run, JsMap.get_set]
    split
    · rename_i here
      subst here
      cases hr.symm.trans h
      exact ⟨r', rfl, rests closed⟩
    · exact ⟨r₁, h, closed, rfl, fun a t ha started => ⟨t, ha, started⟩⟩

theorem close_rests (sound : GatewaySound g) (closer : Closer) :
    GatewaySound (g.close closer) ∧ ClosedRest g (g.close closer) := by
  unfold Gateway.close
  split
  · exact ⟨sound, .refl g⟩
  · rename_i r hr
    refine run_rests sound hr (shutdown_unregister _ _)
      (shutdown_quenched _ _ (sound.quenched _ r hr)) fun closed => ?_
    rw [shutdown_of_closed closed]
    exact ⟨closed, rfl, fun a t ha started => ⟨t, ha, started⟩⟩

theorem revoke_rests (sound : GatewaySound g) (sessionId : String) :
    GatewaySound (g.revoke sessionId) ∧ ClosedRest g (g.revoke sessionId) := by
  have all : ∀ ref (closers : List Closer) {g : Gateway}, GatewaySound g →
      GatewaySound (closers.foldl (Gateway.closeMember ref) g) ∧
        ClosedRest g (closers.foldl (Gateway.closeMember ref) g) := by
    intro ref closers
    induction closers with
    | nil => exact fun sound => ⟨sound, .refl _⟩
    | cons closer closers ih =>
      intro g sound
      have one : GatewaySound (g.closeMember ref closer) ∧
          ClosedRest g (g.closeMember ref closer) := by
        unfold Gateway.closeMember
        split
        · exact close_rests sound closer
        · exact ⟨sound, .refl g⟩
      obtain ⟨sound', rest⟩ := ih one.1
      exact ⟨sound', one.2.trans rest⟩
  unfold Gateway.revoke
  split
  · exact ⟨sound, .refl g⟩
  · have detached : GatewaySound { g with registry := g.registry.detach sessionId } :=
      ⟨⟨Registry.wf_detach sound.wf.registry sessionId, sound.wf.allocated⟩, sound.quenched⟩
    obtain ⟨sound', rest⟩ := all _ _ detached
    exact ⟨sound', rest⟩

/-- No authorization resolves on a relay that is closed. -/
def OnTime (g : Gateway) : GatewayEvent → Prop
  | .authorized c a _ => ∀ (r : Relay) (token : String) (socket : Option ReadyState),
    g.relays.get c = some r → r.attempts[a]? = some ⟨token, .authorizing, socket⟩ →
    r.phase ≠ .closed
  | _ => True

theorem onTime_of_idle {e : GatewayEvent} (h : gatewayStep cfg g e = none) : OnTime g e := by
  cases e with
  | authorized c a authorization =>
    intro r token socket hr ha
    simp [gatewayStep, hr, ha] at h
  | _ => trivial

/-- **One step.** It keeps every closed relay at rest exactly when it does not
resolve the authorization of one. -/
theorem rests_iff {e : GatewayEvent} (sound : GatewaySound g) (h : gatewayStep cfg g e = some g') :
    GatewaySound g' ∧ (ClosedRest g g' ↔ OnTime g e) := by
  have always : GatewaySound g' ∧ ClosedRest g g' → OnTime g e →
      GatewaySound g' ∧ (ClosedRest g g' ↔ OnTime g e) := fun both onTime =>
    ⟨both.1, iff_of_true both.2 onTime⟩
  cases e with
  | accepted c =>
    simp only [gatewayStep] at h
    split at h
    · rename_i free
      cases h
      refine always ⟨⟨⟨sound.wf.registry, fun c' r₁ handle h known => ?_⟩, fun c' r₁ h => ?_⟩,
        fun c' r₁ h closed => ⟨⟨r₁, ?_, closed, rfl, fun a t ha started => ⟨t, ha, started⟩⟩,
          fun _ _ member _ => member⟩⟩ trivial
      · simp only [JsMap.get_set] at h
        split at h
        · cases h
          cases known
        · exact sound.wf.allocated c' r₁ handle h known
      · simp only [JsMap.get_set] at h
        split at h
        · cases h
          exact (initial_sound c').quenched
        · exact sound.quenched c' r₁ h
      · have other : c ≠ c' := by
          rintro rfl
          cases free.symm.trans h
        simp only [JsMap.get_set_ne other, h]
    · cases h
  | relay c event =>
    simp only [gatewayStep, Option.bind_eq_some_iff, Option.map_eq_some_iff] at h
    obtain ⟨r, hr, r', hl, rfl⟩ := h
    have quenched := sound.quenched c r hr
    exact always (run_rests sound hr (listen_unregister hl) (listen_quenched quenched hl)
      fun closed => listen_rests quenched closed hl) trivial
  | authorized c a authorization =>
    simp only [gatewayStep, Option.bind_eq_some_iff] at h
    obtain ⟨r, hr, hj⟩ := h
    split at hj
    · rename_i token socket ha
      cases hj
      refine ⟨⟨join_wf sound.wf, fun c' r₁ h => ?_⟩, fun rest r₁ token' socket' hr₁ ha₁ closed => ?_,
        fun onTime c' r₁ h closed => ?_⟩
      · simp only [Gateway.join, JsMap.get_set] at h
        split at h
        · cases h
          exact ⟨fun closed => (by cases closed), (sound.quenched c r hr).silent⟩
        · exact sound.quenched c' r₁ h
      · -- the phase is assigned without a look at it
        obtain ⟨⟨r', hr', rests⟩, -⟩ := rest c r₁ hr₁ closed
        simp only [Gateway.join, JsMap.get_set_self, Option.some.injEq] at hr'
        rw [← hr'] at rests
        cases rests.phase
      · have other : c ≠ c' := by
          rintro rfl
          cases hr.symm.trans h
          exact onTime r token socket hr ha closed
        refine ⟨⟨r₁, ?_, closed, rfl, fun a t ha started => ⟨t, ha, started⟩⟩, ?_⟩
        · simp only [Gateway.join, JsMap.get_set_ne other, h]
        · rintro ref closer member rfl
          rcases (Registry.register_members sound.wf.registry ref closer).mp member with
            before | ⟨-, rfl⟩
          · exact before
          · exact absurd rfl other
    · cases hj
  | revoked sessionId =>
    cases h
    exact always (revoke_rests sound sessionId) trivial

end

/-- **A closed relay stays closed**, forwards and starts nothing more and joins the
registry no more, in exactly the runs in which no authorization resolves on a relay
that is closed by then. -/
theorem closed_stays_closed (cfg : GatewayConfig) (events : List GatewayEvent) :
    (gateway cfg).Throughout ClosedRest Gateway.initial events ↔
      (gateway cfg).Admits OnTime Gateway.initial events :=
  Machine.throughout_iff_admits ClosedRest.refl ClosedRest.trans (fun _ _ _ => rests_iff)
    (fun _ _ => onTime_of_idle) gatewaySound_initial

/-- The client authenticates, and the timer closes it while its token is authorized. -/
def timedOutClient : List GatewayEvent :=
  [.accepted 0, .relay 0 (.clientFrame (authenticationFrame (sampleToken "1")) 0),
    .relay 0 .timedOut]

def lateAuthorization : GatewayEvent := .authorized 0 0 (sampleAuthorization "s1")

/-- The authorization then opens the relay again and registers it. -/
theorem closed_reopened : ∃ g g' r r',
    (gateway sampleGateway).runFrom .initial timedOutClient = some g ∧
    gatewayStep sampleGateway g lateAuthorization = some g' ∧
    g.relays.get 0 = some r ∧ r.phase = .closed ∧ g.registry.count "s1" = 0 ∧
    g'.relays.get 0 = some r' ∧ r'.phase = .connecting ∧ g'.registry.count "s1" = 1 ∧
    ¬ (gateway sampleGateway).Throughout ClosedRest .initial
      (timedOutClient ++ [lateAuthorization]) := by
  let g := ((gateway sampleGateway).runFrom .initial timedOutClient).get (by decide)
  let g' := (gatewayStep sampleGateway g lateAuthorization).get (by decide)
  have run : (gateway sampleGateway).runFrom .initial timedOutClient = some g :=
    (Option.some_get _).symm
  have next : gatewayStep sampleGateway g lateAuthorization = some g' := (Option.some_get _).symm
  have known : g.relays.get 0 = some ((g.relays.get 0).get (by decide)) := (Option.some_get _).symm
  have known' : g'.relays.get 0 = some ((g'.relays.get 0).get (by decide)) :=
    (Option.some_get _).symm
  refine ⟨g, g', _, _, run, next, known, by decide, by decide, known', by decide, by decide, ?_⟩
  intro kept
  obtain ⟨⟨r', hr', rests⟩, -⟩ := kept.last run next 0 _ known (by decide)
  cases known'.symm.trans hr'
  exact absurd rests.phase (by decide)

end Fireball.Signaling
