import Fireball.Signaling.Situation

/-!
# One client, one relay

What the situations of a connection say about the gateway around it: whose
closers the registry holds, which sockets exist, what the client is sent.

* `step_oneRelay`: one step, of this connection or of any other;
* `one_relay`: one token, one upstream socket, one registry entry, one session;
* `two_relays`: two authentication frames break all of it.
-/

namespace Fireball.Signaling

open Foundation Session

/-! ## The gateway -/

section
variable {cfg : GatewayConfig} {g g' : Gateway} {c : Nat} {r r' : Relay}

variable (g c r r') in
/-- What a listener may do to the registry. -/
theorem run_registry : (g.run c r r').registry = g.registry ∨
    ∃ handle, r.unregister = some handle ∧ r.phase ≠ .closed ∧ r'.phase = .closed ∧
      (g.run c r r').registry = g.registry.unregister handle := by
  unfold Gateway.run
  simp only
  split
  · rename_i left
    split
    · exact .inl rfl
    · rename_i handle known
      exact .inr ⟨handle, known, left.1, left.2, rfl⟩
  · exact .inl rfl

/-- The registry is well formed, and every handle is for a set it has made. -/
structure GatewayWf (g : Gateway) : Prop where
  registry : g.registry.Wf
  allocated : ∀ c r handle, g.relays.get c = some r → r.unregister = some handle →
    handle.set < g.registry.nextSet

/-- The closers of connection `c` are the one its `unregister` takes out. -/
def Owned (g : Gateway) (c : Nat) : Prop :=
  ∀ ref closer, (g.registry.members ref).has closer = true → closer.connection = c →
    ∃ r handle, g.relays.get c = some r ∧ r.unregister = some handle ∧ handle.set = ref ∧
      handle.close = closer

theorem run_nextSet : (g.run c r r').registry.nextSet = g.registry.nextSet := by
  rcases run_registry g c r r' with same | ⟨handle, -, -, -, eq⟩
  · rw [same]
  · rw [eq]
    rfl

theorem run_members {ref : Nat} {closer : Closer}
    (h : ((g.run c r r').registry.members ref).has closer = true) :
    (g.registry.members ref).has closer = true := by
  rcases run_registry g c r r' with same | ⟨handle, -, -, -, eq⟩
  · rw [same] at h
    exact h
  · rw [eq] at h
    exact (Registry.unregister_members ref closer).mp h |>.1

theorem run_wf (wf : GatewayWf g) (hr : g.relays.get c = some r)
    (same : r'.unregister = r.unregister) : GatewayWf (g.run c r r') where
  registry := by
    rcases run_registry g c r r' with eq | ⟨handle, known, -, -, eq⟩
    · rw [eq]
      exact wf.registry
    · rw [eq]
      exact Registry.wf_unregister wf.registry (wf.allocated c r handle hr known)
  allocated := by
    intro c' r₁ handle h known
    rw [run_nextSet]
    simp only [Gateway.run, JsMap.get_set] at h
    split at h
    · cases h
      exact wf.allocated c r handle hr (same ▸ known)
    · exact wf.allocated c' r₁ handle h known

theorem run_owned {c₀ : Nat} (owned : Owned g c₀) (hr : g.relays.get c = some r)
    (same : r'.unregister = r.unregister) : Owned (g.run c r r') c₀ := by
  intro ref closer member mine
  obtain ⟨r₀, handle, h₀, known, set, close⟩ := owned ref closer (run_members member) mine
  by_cases here : c = c₀
  · subst here
    cases hr.symm.trans h₀
    exact ⟨r', handle, JsMap.get_set_self, same.trans known, set, close⟩
  · exact ⟨r₀, handle, by rw [Gateway.run, JsMap.get_set_ne here]; exact h₀, known, set, close⟩

/-- What holds of connection `c` between events. -/
structure OneRelay (g : Gateway) (c : Nat) : Prop where
  wf : GatewayWf g
  sound : ∀ r, g.relays.get c = some r → Sound c r
  owned : Owned g c

theorem oneRelay_initial (c : Nat) : OneRelay Gateway.initial c where
  wf := ⟨Registry.wf_empty, by intro c r handle h; simp [Gateway.initial] at h⟩
  sound := by intro r h; simp [Gateway.initial] at h
  owned := by
    intro ref closer h
    simp [Gateway.initial, Registry.empty, Registry.members, JsMap.has] at h

/-- A listener of connection `c'`. -/
theorem run_oneRelay {c' : Nat} (inv : OneRelay g c) (hr : g.relays.get c' = some r)
    (same : r'.unregister = r.unregister) (sound : c' = c → Sound c r') :
    OneRelay (g.run c' r r') c where
  wf := run_wf inv.wf hr same
  sound := by
    intro r₁ h
    simp only [Gateway.run, JsMap.get_set] at h
    split at h
    · rename_i here
      cases h
      exact sound here
    · exact inv.sound r₁ h
  owned := run_owned inv.owned hr same

theorem close_oneRelay (inv : OneRelay g c) (closer : Closer) : OneRelay (g.close closer) c := by
  unfold Gateway.close
  split
  · exact inv
  · rename_i r hr
    refine run_oneRelay inv hr (shutdown_unregister _ _) ?_
    intro here
    exact (inv.sound r (here ▸ hr)).shutdown _ _

theorem closeMember_oneRelay (inv : OneRelay g c) (ref : Nat) (closer : Closer) :
    OneRelay (g.closeMember ref closer) c := by
  unfold Gateway.closeMember
  split
  · exact close_oneRelay inv closer
  · exact inv

theorem closeMembers_oneRelay (ref : Nat) (closers : List Closer) (inv : OneRelay g c) :
    OneRelay (closers.foldl (Gateway.closeMember ref) g) c := by
  induction closers generalizing g with
  | nil => exact inv
  | cons closer closers ih => exact ih (closeMember_oneRelay inv ref closer)

theorem revoke_oneRelay (inv : OneRelay g c) (sessionId : String) :
    OneRelay (g.revoke sessionId) c := by
  unfold Gateway.revoke
  split
  · exact inv
  · refine closeMembers_oneRelay _ _ ⟨⟨?_, inv.wf.allocated⟩, inv.sound, inv.owned⟩
    exact Registry.wf_detach inv.wf.registry sessionId

theorem join_wf {c' a : Nat} {token : String} {authorization : SignalingAuthorization}
    (wf : GatewayWf g) : GatewayWf (g.join c' r a token authorization) where
  registry := Registry.wf_register wf.registry
  allocated := by
    intro c₁ r₁ handle h known
    simp only [Gateway.join, JsMap.get_set] at h
    split at h
    · cases h
      cases known
      refine (Registry.wf_register wf.registry).allocated authorization.sessionId _ ?_
      rw [Registry.register_connections, if_pos rfl]
    · exact Nat.lt_of_lt_of_le (wf.allocated c₁ r₁ handle h known) Registry.register_nextSet

theorem join_oneRelay {c' a : Nat} {token : String} {socket : Option ReadyState}
    {authorization : SignalingAuthorization} (inv : OneRelay g c) (hr : g.relays.get c' = some r)
    (ha : r.attempts[a]? = some ⟨token, .authorizing, socket⟩) :
    OneRelay (g.join c' r a token authorization) c where
  wf := join_wf inv.wf
  sound := by
    intro r₁ h
    simp only [Gateway.join, JsMap.get_set] at h
    split at h
    · rename_i here
      subst here
      cases h
      obtain ⟨set, handle⟩ := g.registry.register_handle authorization.sessionId ⟨c', a⟩
      rw [handle]
      exact authorized_sound ha (inv.sound r hr)
    · exact inv.sound r₁ h
  owned := by
    intro ref closer member mine
    obtain ⟨set, handle⟩ := g.registry.register_handle authorization.sessionId ⟨c', a⟩
    rcases (Registry.register_members inv.wf.registry ref closer).mp member with before | ⟨rfl, rfl⟩
    · obtain ⟨r₀, handle₀, h₀, known, at₀, close₀⟩ := inv.owned ref closer before mine
      by_cases here : c' = c
      · -- an attempt that waits for its authorization has no closer yet
        subst here
        cases hr.symm.trans h₀
        have sound := inv.sound r hr
        have asking := sound.shape.asking_of (sound.shape.only ha).2
        cases asking.unregister.symm.trans known
      · exact ⟨r₀, handle₀, by rw [Gateway.join, JsMap.get_set_ne here]; exact h₀, known, at₀, close₀⟩
    · subst mine
      exact ⟨_, _, JsMap.get_set_self, rfl, rfl, congrArg Handle.close handle⟩

theorem accepted_oneRelay {c' : Nat} (inv : OneRelay g c) (free : g.relays.get c' = none) :
    OneRelay { g with relays := g.relays.set c' .initial } c where
  wf := by
    refine ⟨inv.wf.registry, ?_⟩
    intro c₁ r₁ handle h known
    simp only [JsMap.get_set] at h
    split at h
    · cases h
      cases known
    · exact inv.wf.allocated c₁ r₁ handle h known
  sound := by
    intro r₁ h
    simp only [JsMap.get_set] at h
    split at h
    · cases h
      exact initial_sound c
    · exact inv.sound r₁ h
  owned := by
    intro ref closer member mine
    obtain ⟨r₀, handle, h₀, known⟩ := inv.owned ref closer member mine
    have other : c' ≠ c := by
      rintro rfl
      cases free.symm.trans h₀
    exact ⟨r₀, handle, by simp only [JsMap.get_set_ne other]; exact h₀, known⟩

end

/-- On connection `c`, no authentication frame arrives while an earlier one is
being authorized. The phase does not say so: it stays `authenticating` meanwhile. -/
def OneAuthentication (cfg : GatewayConfig) (c : Nat) (g : Gateway) : GatewayEvent → Prop
  | .relay c' event => c' = c → match g.relays.get c with
    | some r => FirstFrame cfg r event
    | none => True
  | _ => True

theorem step_oneRelay {cfg : GatewayConfig} {g g' : Gateway} {c : Nat} {e : GatewayEvent}
    (inv : OneRelay g c) (first : OneAuthentication cfg c g e) (h : gatewayStep cfg g e = some g') :
    OneRelay g' c := by
  cases e with
  | accepted c' =>
    simp only [gatewayStep] at h
    split at h
    · rename_i free
      cases h
      exact accepted_oneRelay inv free
    · cases h
  | relay c' event =>
    simp only [gatewayStep, Option.bind_eq_some_iff, Option.map_eq_some_iff] at h
    obtain ⟨r, hr, r', hl, rfl⟩ := h
    refine run_oneRelay inv hr (listen_unregister hl) ?_
    intro here
    subst here
    have own := first rfl
    simp only [hr] at own
    exact listen_sound own (inv.sound r hr) hl
  | authorized c' a authorization =>
    simp only [gatewayStep, Option.bind_eq_some_iff] at h
    obtain ⟨r, hr, hj⟩ := h
    split at hj
    · rename_i ha
      cases hj
      exact join_oneRelay inv hr ha
    · cases hj
  | revoked sessionId =>
    cases h
    exact revoke_oneRelay inv sessionId

theorem reachable_oneRelay {cfg : GatewayConfig} {allowed : Gateway → GatewayEvent → Prop} {c : Nat}
    {g : Gateway} (first : ∀ g e, allowed g e → OneAuthentication cfg c g e)
    (reached : (gateway cfg).Reachable allowed g) : OneRelay g c :=
  reached.invariant (oneRelay_initial c) fun _ _ _ _ inv ha h => step_oneRelay inv (first _ _ ha) h

/-! ## One client, one relay -/

/-- Attempt `a` has a WebSocket that is not closed. -/
def Relay.LiveUpstream (r : Relay) (a : Nat) : Prop :=
  ∃ t state, r.attempts[a]? = some t ∧ t.socket = some state ∧ state ≠ .closed

/-- What is promised about the client `r` of connection `c`. -/
structure OneClientOneRelay (cfg : GatewayConfig) (g : Gateway) (c : Nat) (r : Relay) : Prop where
  token : r.presented.length ≤ 1
  socket : ∀ a a', r.LiveUpstream a → r.LiveUpstream a' → a = a'
  entry : ∀ s s' closer closer', g.registry.Registered s closer → g.registry.Registered s' closer' →
    closer.connection = c → closer'.connection = c → s = s' ∧ closer = closer'
  session : r.sent = [] ∨ ∃ sessionId, OneSession sessionId r.sent
  early : ∀ frame bufferedAmount g', r.Heard → (∀ sessionId, .ready sessionId ∉ r.sent) →
    OneAuthentication cfg c g (.relay c (.clientFrame frame bufferedAmount)) →
    gatewayStep cfg g (.relay c (.clientFrame frame bufferedAmount)) = some g' →
    ∃ r', g'.relays.get c = some r' ∧ r'.phase = .closed

/-- A frame that arrives after the first and before the ready frame. -/
theorem early_closes {cfg : GatewayConfig} {c : Nat} {r : Relay} {frame : Frame}
    {bufferedAmount : Nat} (sound : Sound c r) (heard : r.Heard)
    (unready : ∀ sessionId, .ready sessionId ∉ r.sent)
    (first : FirstFrame cfg r (.clientFrame frame bufferedAmount)) :
    (r.clientMessage cfg frame bufferedAmount).phase = .closed := by
  have whenClosed : r.phase = .closed → (r.clientMessage cfg frame bufferedAmount).phase = .closed := by
    intro closed
    simp only [Relay.clientMessage, closed]
  rcases sound.shape with h | h | h | h | h
  · exact whenClosed (sound.attentive heard h.attempts)
  · rcases h.phase with waiting | closed
    · obtain ⟨token, one⟩ := h.attempts
      cases parsed : parseAuthenticationFrame cfg frame with
      | none =>
        simp only [Relay.clientMessage, waiting, parsed]
        exact shutdown_phase _ _
      | some token' =>
        refine absurd rfl (first waiting (by rw [parsed]; rfl) ⟨token, .authorizing, none⟩ ?_)
        rw [one]
        exact List.mem_singleton_self _
    · exact whenClosed closed
  · rcases h.phase with connecting | closed
    · simp only [Relay.clientMessage, connecting]
      exact shutdown_phase _ _
    · exact whenClosed closed
  · rcases h.sent with ⟨-, aborted⟩ | ⟨relayed, eq, -⟩
    · exact whenClosed (h.live aborted)
    · rename_i authorization
      refine absurd ?_ (unready authorization.sessionId)
      rw [eq]
      exact List.mem_append_right _ (List.mem_singleton_self _)
  · exact whenClosed h.phase

/-- **One client, one relay.** On a connection on which no authentication frame
arrives while an earlier one is being authorized, one token is presented, one
upstream socket and one registry entry exist at a time, the client is sent one
ready frame and then frames of that session only, and a frame between the first
and the ready frame closes the relay. -/
theorem one_relay (cfg : GatewayConfig) (c : Nat) {g : Gateway}
    (reached : (gateway cfg).Reachable (OneAuthentication cfg c) g) {r : Relay}
    (hr : g.relays.get c = some r) : OneClientOneRelay cfg g c r := by
  have inv := reachable_oneRelay (fun _ _ h => h) reached
  have sound := inv.sound r hr
  refine ⟨?token, ?socket, ?entry, ?session, ?early⟩
  case token =>
    rcases sound.shape with h | h | h | h | h
    · rw [h.presented]
      exact Nat.zero_le 1
    all_goals exact Nat.le_of_eq h.presented
  case socket =>
    rintro a a' ⟨t, -, ha, -⟩ ⟨t', -, ha', -⟩
    rw [(sound.shape.only ha).1, (sound.shape.only ha').1]
  case entry =>
    rintro s s' closer closer' ⟨ref, hs, member⟩ ⟨ref', hs', member'⟩ mine mine'
    obtain ⟨r₁, handle, h₁, known, rfl, rfl⟩ := inv.owned ref closer member mine
    obtain ⟨r₂, handle', h₂, known', rfl, rfl⟩ := inv.owned ref' closer' member' mine'
    cases h₁.symm.trans h₂
    cases known.symm.trans known'
    exact ⟨inv.wf.registry.owned s s' handle.set hs hs', rfl⟩
  case session =>
    rcases sound.shape with h | h | h | h | h
    · exact .inl h.sent
    · exact .inl h.sent
    · exact .inl h.sent
    · rcases h.sent with ⟨none, -⟩ | one
      · exact .inl none
      · exact .inr ⟨_, one⟩
    · exact .inl h.sent
  case early =>
    intro frame bufferedAmount g' heard unready first h
    simp only [gatewayStep, hr, Option.bind_some, Relay.listen, Option.map_some,
      Option.some.injEq] at h
    have own := first rfl
    simp only [hr] at own
    exact ⟨_, by rw [← h]; exact JsMap.get_set_self, early_closes sound heard unready own⟩

/-! ## Two authentication frames -/

def sampleToken (last : String) : String := "AAAAAAAAAAAAAAAAAAAAAAAAAAAAAAAAAAAAAAAAAA" ++ last

/-- The authentication frame with a token, as ASCII bytes. -/
def authenticationFrame (token : String) : Frame where
  data := ("\x7b\"type\":\"authenticate\",\"token\":\"" ++ token ++ "\"\x7d").toList.map
    fun c => UInt8.ofNat c.toNat
  isBinary := false

def authenticationObject (token : String) : Json :=
  .object [("type", .string "authenticate"), ("token", .string token)]

def sampleGateway : GatewayConfig where
  maximumBufferedBytes := 1048576
  parseJson := fun data =>
    if data = (authenticationFrame (sampleToken "1")).data then
      some (authenticationObject (sampleToken "1"))
    else if data = (authenticationFrame (sampleToken "2")).data then
      some (authenticationObject (sampleToken "2"))
    else none

def sampleAuthorization (sessionId : String) : SignalingAuthorization :=
  ⟨sessionId, "alpha", ⟨"container", "fireball", "net", "tmpfs",
    "ws://127.0.0.1:49152/internal/v1/signaling", "secret", "http://127.0.0.1:49152/internal/v1/tabs"⟩⟩

/-- The client authenticates and is connected. -/
def oneFrame : List GatewayEvent :=
  [.accepted 0, .relay 0 (.clientFrame (authenticationFrame (sampleToken "1")) 0),
    .authorized 0 0 (sampleAuthorization "s1"), .relay 0 (.connected 0 (some ⟨.opened, 0, []⟩))]

/-- Two frames arrive before the first token is authorized. -/
def twoFrames : List GatewayEvent :=
  [.accepted 0, .relay 0 (.clientFrame (authenticationFrame (sampleToken "1")) 0),
    .relay 0 (.clientFrame (authenticationFrame (sampleToken "2")) 0),
    .authorized 0 0 (sampleAuthorization "s1"), .authorized 0 1 (sampleAuthorization "s2"),
    .relay 0 (.connected 0 (some ⟨.opened, 0, []⟩)), .relay 0 (.connected 1 (some ⟨.opened, 0, []⟩))]

instance (cfg : GatewayConfig) (r : Relay) (e : RelayEvent) : Decidable (FirstFrame cfg r e) := by
  unfold FirstFrame; split <;> infer_instance

instance (cfg : GatewayConfig) (c : Nat) (g : Gateway) (e : GatewayEvent) :
    Decidable (OneAuthentication cfg c g e) := by
  unfold OneAuthentication
  split
  · split <;> infer_instance
  · infer_instance

theorem one_relay_connected : ∃ g r,
    (gateway sampleGateway).Reachable (OneAuthentication sampleGateway 0) g ∧
    g.relays.get 0 = some r ∧ r.sent = [.ready "s1"] ∧ OneClientOneRelay sampleGateway g 0 r := by
  let final := ((gateway sampleGateway).runFrom .initial oneFrame).get (by decide)
  have reached : (gateway sampleGateway).Reachable (OneAuthentication sampleGateway 0) final :=
    Machine.reaches_end (by decide) _
  have known : final.relays.get 0 = some ((final.relays.get 0).get (by decide)) :=
    (Option.some_get _).symm
  exact ⟨final, _, reached, known, by decide, one_relay sampleGateway 0 reached known⟩

/-- Both tokens are presented, and two upstream sockets and two registry entries
exist for the one client, which is sent two ready frames. -/
theorem two_relays : ∃ g r, (gateway sampleGateway).Reachable (fun _ _ => True) g ∧
    g.relays.get 0 = some r ∧ r.presented.length = 2 ∧ r.LiveUpstream 0 ∧ r.LiveUpstream 1 ∧
    g.registry.count "s1" = 1 ∧ g.registry.count "s2" = 1 ∧
    r.sent = [.ready "s2", .ready "s1"] ∧ ¬ OneClientOneRelay sampleGateway g 0 r := by
  let final := ((gateway sampleGateway).runFrom .initial twoFrames).get (by decide)
  have reached : (gateway sampleGateway).Reachable (fun _ _ => True) final :=
    Machine.reaches_end (by decide) _
  have known : final.relays.get 0 = some ((final.relays.get 0).get (by decide)) :=
    (Option.some_get _).symm
  refine ⟨final, _, reached, known, by decide, ⟨_, .opened, rfl, rfl, by decide⟩,
    ⟨_, .opened, rfl, rfl, by decide⟩, by decide, by decide, by decide, ?_⟩
  intro promised
  exact absurd promised.token (by decide)

end Fireball.Signaling
