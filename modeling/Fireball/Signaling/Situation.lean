import Fireball.Signaling.Gateway

/-!
# The situations of one connection

A connection on which no authentication frame arrives while an earlier one is
still being authorized makes at most one attempt. `Shape` lists the five
situations that such a connection can be in.

* `Sound`: the situation, and what an aborted relay no longer does;
* `listen_sound`, `authorized_sound`: what one event of the connection preserves;
* `listen_unregister`: no listener touches the handle of the registry.
-/

namespace Fireball.Signaling

open Foundation Session

/-! ## One connection -/

/-- The messages sent to the client, newest first. -/
def Relay.sent (r : Relay) : List ClientMessage :=
  r.log.filterMap fun
    | .toClient message => some message
    | _ => none

/-- The tokens presented to the session service, newest first. -/
def Relay.presented (r : Relay) : List String :=
  r.log.filterMap fun
    | .presented token => some token
    | _ => none

/-- A frame of the client has arrived. -/
def Relay.Heard (r : Relay) : Prop := ∃ frame, .received frame ∈ r.log

/-- What the client has been sent by an attempt whose upstream connection
belongs to `sessionId`: its ready frame, and frames of that session since. -/
def OneSession (sessionId : String) (sent : List ClientMessage) : Prop :=
  ∃ relayed, sent = relayed ++ [.ready sessionId] ∧
    ∀ message ∈ relayed, ∃ frame, message = .relayed sessionId frame

/-- The sockets of all attempts are closing or closed. -/
def Relay.SocketsClosing (r : Relay) : Prop :=
  ∀ t ∈ r.attempts, ∀ state, t.socket = some state → 2 ≤ state.rank

/-- No frame has led to an attempt. -/
structure Fresh (r : Relay) : Prop where
  attempts : r.attempts = []
  presented : r.presented = []
  phase : r.phase = .authenticating ∨ r.phase = .closed
  unregister : r.unregister = none
  upstream : r.upstream = none
  sent : r.sent = []
  live : r.aborted = true → r.phase = .closed

/-- The token of the first frame is being authorized. -/
structure Asking (r : Relay) : Prop where
  attempts : ∃ token, r.attempts = [⟨token, .authorizing, none⟩]
  presented : r.presented.length = 1
  phase : r.phase = .authenticating ∨ r.phase = .closed
  unregister : r.unregister = none
  upstream : r.upstream = none
  sent : r.sent = []
  live : r.aborted = true → r.phase = .closed

/-- The upstream connection is being made. When the signal was aborted before,
the phase may still say so although `connect` can only fail. -/
structure Joining (c : Nat) (authorization : SignalingAuthorization) (refused : Bool) (r : Relay) :
    Prop where
  attempts : ∃ token socket, r.attempts = [⟨token, .connecting authorization refused, socket⟩]
  presented : r.presented.length = 1
  phase : r.phase = .connecting ∨ r.phase = .closed
  unregister : ∃ set, r.unregister = some ⟨authorization.sessionId, set, ⟨c, 0⟩⟩
  upstream : r.upstream = none
  sent : r.sent = []
  live : r.aborted = true → refused = false → r.phase = .closed

/-- The upstream connection is attached. -/
structure Linked (c : Nat) (authorization : SignalingAuthorization) (r : Relay) : Prop where
  attempts : ∃ token socket, r.attempts = [⟨token, .connected authorization, socket⟩]
  presented : r.presented.length = 1
  phase : r.phase = .relaying ∨ r.phase = .closed
  unregister : ∃ set, r.unregister = some ⟨authorization.sessionId, set, ⟨c, 0⟩⟩
  upstream : r.upstream = some 0
  sent : (r.sent = [] ∧ r.aborted = true) ∨ OneSession authorization.sessionId r.sent
  live : r.aborted = true → r.phase = .closed
  released : r.phase = .closed → r.SocketsClosing

/-- The attempt has ended without an upstream connection. -/
structure Over (c : Nat) (r : Relay) : Prop where
  attempts : ∃ token socket, r.attempts = [⟨token, .ended, socket⟩]
  presented : r.presented.length = 1
  phase : r.phase = .closed
  unregister : ∀ handle, r.unregister = some handle → handle.close = ⟨c, 0⟩
  upstream : r.upstream = none
  sent : r.sent = []
  released : r.SocketsClosing

inductive Shape (c : Nat) (r : Relay) : Prop
  | fresh : Fresh r → Shape c r
  | asking : Asking r → Shape c r
  | joining {authorization refused} : Joining c authorization refused r → Shape c r
  | linked {authorization} : Linked c authorization r → Shape c r
  | ended : Over c r → Shape c r

/-- A relay that was shut down has aborted, and no longer sends to its client. -/
structure Quenched (r : Relay) : Prop where
  aborted : r.phase = .closed → r.aborted = true
  silent : r.aborted = true → 2 ≤ r.client.rank

structure Sound (c : Nat) (r : Relay) : Prop where
  shape : Shape c r
  quenched : Quenched r
  /-- A first frame that led to no attempt has closed the relay. -/
  attentive : r.Heard → r.attempts = [] → r.phase = .closed

theorem initial_sound (c : Nat) : Sound c .initial where
  shape := .fresh ⟨rfl, rfl, .inl rfl, rfl, rfl, rfl, by simp [Relay.initial]⟩
  quenched := ⟨by simp [Relay.initial], by simp [Relay.initial]⟩
  attentive := by
    rintro ⟨frame, heard⟩
    simp [Relay.initial] at heard

section
variable {cfg : GatewayConfig} {c : Nat} {r : Relay} {authorization : SignalingAuthorization}
  {refused : Bool} (code : Nat) (reason : String)

/-! ### `shutdown` -/

theorem shutdown_phase : (r.shutdown code reason).phase = .closed := by
  unfold Relay.shutdown
  split
  · assumption
  · rfl

theorem shutdown_unregister : (r.shutdown code reason).unregister = r.unregister := by
  unfold Relay.shutdown
  split <;> rfl

theorem shutdown_upstream : (r.shutdown code reason).upstream = r.upstream := by
  unfold Relay.shutdown
  split <;> rfl

theorem shutdown_sent : (r.shutdown code reason).sent = r.sent := by
  unfold Relay.shutdown
  split
  · rfl
  · simp only [Relay.sent]
    cases r.upstream <;> rfl

theorem shutdown_presented : (r.shutdown code reason).presented = r.presented := by
  unfold Relay.shutdown
  split
  · rfl
  · simp only [Relay.presented]
    cases r.upstream <;> rfl

/-- Only the socket of the upstream attempt changes. -/
theorem shutdown_attempts : (r.shutdown code reason).attempts = r.attempts ∨
    ∃ a, r.upstream = some a ∧ (r.shutdown code reason).attempts =
      r.attempts.modify a fun t => { t with socket := t.socket.map closeSocket } := by
  unfold Relay.shutdown
  split
  · exact .inl rfl
  · cases hu : r.upstream with
    | none => exact .inl rfl
    | some a => exact .inr ⟨a, rfl, rfl⟩

theorem shutdown_quenched (h : Quenched r) : Quenched (r.shutdown code reason) := by
  unfold Relay.shutdown
  split
  · exact h
  · exact ⟨fun _ => rfl, fun _ => closeSocket_rank r.client⟩

theorem shutdown_aborted (h : Quenched r) : (r.shutdown code reason).aborted = true :=
  (shutdown_quenched code reason h).aborted (shutdown_phase code reason)

theorem shutdown_attempts_of_none (h : r.upstream = none) :
    (r.shutdown code reason).attempts = r.attempts := by
  rcases shutdown_attempts (r := r) code reason with same | ⟨a, ha, -⟩
  · exact same
  · rw [h] at ha
    cases ha

theorem socketsClosing_of_one {t : Attempt} (one : r.attempts = [t])
    (closing : ∀ state, t.socket = some state → 2 ≤ state.rank) : r.SocketsClosing := by
  intro t' ht
  rw [one] at ht
  cases List.mem_singleton.mp ht
  exact closing

/-- Shutting down closes the attached socket. -/
theorem shutdown_socketsClosing {t : Attempt} (one : r.attempts = [t]) (upstream : r.upstream = some 0)
    (before : r.phase = .closed → r.SocketsClosing) : (r.shutdown code reason).SocketsClosing := by
  unfold Relay.shutdown
  split
  · rename_i closed
    exact before closed
  · refine socketsClosing_of_one (t := { t with socket := t.socket.map closeSocket }) ?_ ?_
    · simp only [upstream, one]
      rfl
    · intro state hs
      obtain ⟨open_, -, rfl⟩ := Option.map_eq_some_iff.mp hs
      exact closeSocket_rank open_

theorem Fresh.shutdown (h : Fresh r) : Fresh (r.shutdown code reason) where
  attempts := by rw [shutdown_attempts_of_none code reason h.upstream, h.attempts]
  presented := by rw [shutdown_presented, h.presented]
  phase := .inr (shutdown_phase code reason)
  unregister := by rw [shutdown_unregister, h.unregister]
  upstream := by rw [shutdown_upstream, h.upstream]
  sent := by rw [shutdown_sent, h.sent]
  live := fun _ => shutdown_phase code reason

theorem Asking.shutdown (h : Asking r) : Asking (r.shutdown code reason) where
  attempts := by rw [shutdown_attempts_of_none code reason h.upstream]; exact h.attempts
  presented := by rw [shutdown_presented, h.presented]
  phase := .inr (shutdown_phase code reason)
  unregister := by rw [shutdown_unregister, h.unregister]
  upstream := by rw [shutdown_upstream, h.upstream]
  sent := by rw [shutdown_sent, h.sent]
  live := fun _ => shutdown_phase code reason

theorem Joining.shutdown (h : Joining c authorization refused r) :
    Joining c authorization refused (r.shutdown code reason) where
  attempts := by rw [shutdown_attempts_of_none code reason h.upstream]; exact h.attempts
  presented := by rw [shutdown_presented, h.presented]
  phase := .inr (shutdown_phase code reason)
  unregister := by rw [shutdown_unregister]; exact h.unregister
  upstream := by rw [shutdown_upstream, h.upstream]
  sent := by rw [shutdown_sent, h.sent]
  live := fun _ _ => shutdown_phase code reason

theorem Linked.shutdown (q : Quenched r) (h : Linked c authorization r) :
    Linked c authorization (r.shutdown code reason) where
  attempts := by
    obtain ⟨token, socket, one⟩ := h.attempts
    rcases shutdown_attempts (r := r) code reason with same | ⟨a, ha, changed⟩
    · exact ⟨token, socket, by rw [same, one]⟩
    · rw [h.upstream] at ha
      cases ha
      exact ⟨token, socket.map closeSocket, by rw [changed, one]; rfl⟩
  presented := by rw [shutdown_presented, h.presented]
  phase := .inr (shutdown_phase code reason)
  unregister := by rw [shutdown_unregister]; exact h.unregister
  upstream := by rw [shutdown_upstream, h.upstream]
  sent := by
    rw [shutdown_sent]
    rcases h.sent with ⟨none, -⟩ | one
    · exact .inl ⟨none, shutdown_aborted code reason q⟩
    · exact .inr one
  live := fun _ => shutdown_phase code reason
  released := by
    obtain ⟨token, socket, one⟩ := h.attempts
    exact fun _ => shutdown_socketsClosing code reason one h.upstream h.released

theorem Over.shutdown (h : Over c r) : Over c (r.shutdown code reason) where
  attempts := by rw [shutdown_attempts_of_none code reason h.upstream]; exact h.attempts
  presented := by rw [shutdown_presented, h.presented]
  phase := shutdown_phase code reason
  unregister := by rw [shutdown_unregister]; exact h.unregister
  upstream := by rw [shutdown_upstream, h.upstream]
  sent := by rw [shutdown_sent, h.sent]
  released := by
    unfold Relay.SocketsClosing
    rw [shutdown_attempts_of_none code reason h.upstream]
    exact h.released

theorem Shape.shutdown (q : Quenched r) (h : Shape c r) : Shape c (r.shutdown code reason) := by
  cases h with
  | fresh h => exact .fresh (h.shutdown code reason)
  | asking h => exact .asking (h.shutdown code reason)
  | joining h => exact .joining (h.shutdown code reason)
  | linked h => exact .linked (h.shutdown code reason q)
  | ended h => exact .ended (h.shutdown code reason)

/-- Shutting down also settles what a first frame without an attempt is owed. -/
theorem shutdown_sound (shape : Shape c r) (quenched : Quenched r) :
    Sound c (r.shutdown code reason) where
  shape := shape.shutdown code reason quenched
  quenched := shutdown_quenched code reason quenched
  attentive := fun _ _ => shutdown_phase code reason

theorem Sound.shutdown (h : Sound c r) : Sound c (r.shutdown code reason) :=
  shutdown_sound code reason h.shape h.quenched

end

/-! ### The other events -/

section
variable {cfg : GatewayConfig} {c : Nat} {r r' : Relay} {authorization : SignalingAuthorization}

/-- `r'` differs from `r` in nothing that `Shape` speaks of. -/
structure Alike (r r' : Relay) : Prop where
  attempts : r'.attempts = r.attempts
  phase : r'.phase = r.phase
  unregister : r'.unregister = r.unregister
  upstream : r'.upstream = r.upstream
  aborted : r'.aborted = r.aborted
  presented : r'.presented = r.presented
  sent : r'.sent = r.sent

theorem Alike.shape (same : Alike r r') (h : Shape c r) : Shape c r' := by
  obtain ⟨attempts, phase, unregister, upstream, aborted, presented, sent⟩ := same
  cases h with
  | fresh h =>
    refine .fresh ⟨?_, ?_, ?_, ?_, ?_, ?_, ?_⟩ <;>
      simp only [attempts, phase, unregister, upstream, aborted, presented, sent]
    exacts [h.attempts, h.presented, h.phase, h.unregister, h.upstream, h.sent, h.live]
  | asking h =>
    refine .asking ⟨?_, ?_, ?_, ?_, ?_, ?_, ?_⟩ <;>
      simp only [attempts, phase, unregister, upstream, aborted, presented, sent]
    exacts [h.attempts, h.presented, h.phase, h.unregister, h.upstream, h.sent, h.live]
  | @joining authorization refused h =>
    have h' : Joining c authorization refused r' := by
      constructor <;> simp only [attempts, phase, unregister, upstream, aborted, presented, sent]
      exacts [h.attempts, h.presented, h.phase, h.unregister, h.upstream, h.sent, h.live]
    exact .joining h'
  | @linked authorization h =>
    have h' : Linked c authorization r' := by
      constructor <;> simp only [Relay.SocketsClosing, attempts, phase, unregister, upstream, aborted,
        presented, sent]
      exacts [h.attempts, h.presented, h.phase, h.unregister, h.upstream, h.sent, h.live, h.released]
    exact .linked h'
  | ended h =>
    refine .ended ⟨?_, ?_, ?_, ?_, ?_, ?_, ?_⟩ <;>
      simp only [Relay.SocketsClosing, attempts, phase, unregister, upstream, presented, sent]
    exacts [h.attempts, h.presented, h.phase, h.unregister, h.upstream, h.sent, h.released]

theorem Alike.quenched (same : Alike r r') (client : r.client.rank ≤ r'.client.rank)
    (h : Quenched r) : Quenched r' where
  aborted := by rw [same.phase, same.aborted]; exact h.aborted
  silent := by rw [same.aborted]; exact fun ha => Nat.le_trans (h.silent ha) client

/-- An event that changes none of this, and adds no frame of the client. -/
theorem Alike.sound (same : Alike r r') (client : r.client.rank ≤ r'.client.rank)
    (heard : r'.Heard → r.Heard) (h : Sound c r) : Sound c r' where
  shape := same.shape h.shape
  quenched := same.quenched client h.quenched
  attentive := by
    rw [same.attempts, same.phase]
    exact fun hr => h.attentive (heard hr)

/-- A relay that is shut down after changes like these. -/
theorem Alike.shutdown_sound (same : Alike r r') (client : r.client.rank ≤ r'.client.rank) (code : Nat) (reason : String)
    (h : Sound c r) : Sound c (r'.shutdown code reason) :=
  Signaling.shutdown_sound code reason (same.shape h.shape) (same.quenched client h.quenched)

/-- The connection shape with one more frame of its session, or shut down. -/
theorem Linked.relay (q : Quenched r) (h : Linked c authorization r) (frame : Frame)
    (bufferedAmount : Nat) :
    Linked c authorization
        (r.forwardToClient cfg (.relayed authorization.sessionId frame) bufferedAmount) ∧
      Quenched (r.forwardToClient cfg (.relayed authorization.sessionId frame) bufferedAmount) := by
  unfold Relay.forwardToClient Relay.forward
  split
  · exact ⟨h.shutdown _ _ q, shutdown_quenched _ _ q⟩
  split
  · exact ⟨h.shutdown _ _ q, shutdown_quenched _ _ q⟩
  · rename_i opened _
    refine ⟨⟨h.attempts, h.presented, h.phase, h.unregister, h.upstream, .inr ?_, h.live,
      h.released⟩, ?_⟩
    · rcases h.sent with ⟨-, aborted⟩ | ⟨relayed, eq, all⟩
      · have silent := q.silent aborted
        rw [not_not.mp opened] at silent
        cases silent with
        | step impossible => cases impossible
      · refine ⟨.relayed authorization.sessionId frame :: relayed, ?_, ?_⟩
        · change ClientMessage.relayed authorization.sessionId frame :: r.sent = _
          rw [eq]
          rfl
        · intro message hm
          rcases List.mem_cons.mp hm with rfl | hm
          · exact ⟨frame, rfl⟩
          · exact all message hm
    · exact ⟨q.aborted, q.silent⟩

theorem Linked.dispatch (q : Quenched r) (h : Linked c authorization r) (event : UpstreamEvent) :
    Linked c authorization (r.dispatch cfg authorization.sessionId event) ∧
      Quenched (r.dispatch cfg authorization.sessionId event) := by
  cases event with
  | message frame bufferedAmount => exact h.relay q frame bufferedAmount
  | close | error => exact ⟨h.shutdown _ _ q, shutdown_quenched _ _ q⟩

theorem Linked.dispatch_all (events : List UpstreamEvent) (q : Quenched r)
    (h : Linked c authorization r) :
    Linked c authorization (events.foldl (Relay.dispatch cfg authorization.sessionId) r) ∧
      Quenched (events.foldl (Relay.dispatch cfg authorization.sessionId) r) := by
  induction events generalizing r with
  | nil => exact ⟨h, q⟩
  | cons event events ih =>
    have next : Linked c authorization (r.dispatch cfg authorization.sessionId event) ∧ _ :=
      h.dispatch q event
    exact ih next.2 next.1

theorem Shape.attempts (h : Shape c r) : r.attempts = [] ∨ ∃ t, r.attempts = [t] := by
  cases h with
  | fresh h => exact .inl h.attempts
  | asking h =>
    obtain ⟨_, one⟩ := h.attempts
    exact .inr ⟨_, one⟩
  | joining h | linked h | ended h =>
    obtain ⟨_, _, one⟩ := h.attempts
    exact .inr ⟨_, one⟩

/-- An attempt of such a connection is its only one. -/
theorem Shape.only (h : Shape c r) {a : Nat} {t : Attempt} (ha : r.attempts[a]? = some t) :
    a = 0 ∧ r.attempts = [t] := by
  rcases h.attempts with none | ⟨t', one⟩
  · rw [none] at ha
    simp at ha
  · rw [one] at ha
    cases a with
    | zero => exact ⟨rfl, by simpa [one] using ha⟩
    | succ a => simp at ha

/-- The stage of the only attempt gives the situation away. -/
theorem Shape.asking_of {token : String} {socket : Option ReadyState} (h : Shape c r)
    (one : r.attempts = [⟨token, .authorizing, socket⟩]) : Asking r := by
  cases h with
  | fresh h => cases h.attempts.symm.trans one
  | asking h => exact h
  | joining h | linked h | ended h =>
    obtain ⟨_, _, one'⟩ := h.attempts
    cases one.symm.trans one'

theorem Shape.joining_of {token : String} {refused : Bool} {socket : Option ReadyState}
    (h : Shape c r) (one : r.attempts = [⟨token, .connecting authorization refused, socket⟩]) :
    Joining c authorization refused r := by
  cases h with
  | fresh h => cases h.attempts.symm.trans one
  | asking h =>
    obtain ⟨_, one'⟩ := h.attempts
    cases one.symm.trans one'
  | joining h =>
    obtain ⟨_, _, one'⟩ := h.attempts
    cases one.symm.trans one'
    exact h
  | linked h | ended h =>
    obtain ⟨_, _, one'⟩ := h.attempts
    cases one.symm.trans one'

theorem Shape.linked_of {token : String} {socket : Option ReadyState} (h : Shape c r)
    (one : r.attempts = [⟨token, .connected authorization, socket⟩]) : Linked c authorization r := by
  cases h with
  | fresh h => cases h.attempts.symm.trans one
  | asking h =>
    obtain ⟨_, one'⟩ := h.attempts
    cases one.symm.trans one'
  | linked h =>
    obtain ⟨_, _, one'⟩ := h.attempts
    cases one.symm.trans one'
    exact h
  | joining h | ended h =>
    obtain ⟨_, _, one'⟩ := h.attempts
    cases one.symm.trans one'

theorem Shape.over_of {token : String} {socket : Option ReadyState} (h : Shape c r)
    (one : r.attempts = [⟨token, .ended, socket⟩]) : Over c r := by
  cases h with
  | fresh h => cases h.attempts.symm.trans one
  | asking h =>
    obtain ⟨_, one'⟩ := h.attempts
    cases one.symm.trans one'
  | joining h | linked h =>
    obtain ⟨_, _, one'⟩ := h.attempts
    cases one.symm.trans one'
  | ended h => exact h

theorem attentive_of_one {t : Attempt} (one : r.attempts = [t]) :
    r.Heard → r.attempts = [] → r.phase = .closed := by
  intro _ none
  cases one.symm.trans none

/-! ### Each listener -/

/-- No authentication frame arrives while an earlier one is being authorized. -/
def FirstFrame (cfg : GatewayConfig) (r : Relay) : RelayEvent → Prop
  | .clientFrame frame _ =>
    r.phase = .authenticating → (parseAuthenticationFrame cfg frame).isSome = true →
      ∀ t ∈ r.attempts, t.stage ≠ .authorizing
  | _ => True

theorem forwardToUpstream_sound {a : Nat} {frame : Frame} {bufferedAmount : Nat} (h : Sound c r) :
    Sound c (r.forwardToUpstream cfg a frame bufferedAmount) := by
  unfold Relay.forwardToUpstream Relay.forward
  split
  · exact h.shutdown _ _
  split
  · exact h.shutdown _ _
  · have sent : Alike r { r with log := .toUpstream a frame :: r.log } :=
      ⟨rfl, rfl, rfl, rfl, rfl, rfl, rfl⟩
    refine sent.sound (Nat.le_refl _) ?_ h
    rintro ⟨frame', heard⟩
    exact ⟨frame', by simpa using heard⟩

theorem clientMessage_sound {frame : Frame} {bufferedAmount : Nat}
    (first : FirstFrame cfg r (.clientFrame frame bufferedAmount)) (h : Sound c r) :
    Sound c (r.clientMessage cfg frame bufferedAmount) := by
  have noted : Alike r { r with log := .received frame :: r.log } :=
    ⟨rfl, rfl, rfl, rfl, rfl, rfl, rfl⟩
  -- with an attempt made, the new frame is not the first one
  have later : r.phase ≠ .authenticating → Sound c { r with log := .received frame :: r.log } := by
    intro passed
    refine ⟨noted.shape h.shape, noted.quenched (Nat.le_refl _) h.quenched, ?_⟩
    intro _ none
    rcases h.shape with h' | h' | h' | h' | h'
    · rcases h'.phase with waiting | closed
      · exact absurd waiting passed
      · exact closed
    · obtain ⟨_, one⟩ := h'.attempts
      cases one.symm.trans none
    all_goals
      obtain ⟨_, _, one⟩ := h'.attempts
      cases one.symm.trans none
  unfold Relay.clientMessage
  simp only
  split
  · rename_i waiting
    split
    · exact noted.shutdown_sound (Nat.le_refl _) _ _ h
    · rename_i token parsed
      have idle := first waiting (by rw [parsed]; rfl)
      -- the frame is the first one: no other situation is authenticating
      rcases h.shape with h' | h' | h' | h' | h'
      · refine ⟨.asking ⟨⟨token, ?_⟩, ?_, .inl waiting, h'.unregister, h'.upstream, h'.sent, h'.live⟩,
          ⟨h.quenched.aborted, h.quenched.silent⟩, attentive_of_one (t := ⟨token, .authorizing, none⟩) ?_⟩
        · simp [Relay.present, h'.attempts]
        · change (token :: r.presented).length = 1
          rw [h'.presented]
          rfl
        · simp [Relay.present, h'.attempts]
      · obtain ⟨token', one⟩ := h'.attempts
        exact absurd rfl (idle ⟨token', .authorizing, none⟩ (by rw [one]; simp))
      · rcases h'.phase with phase | phase <;> cases waiting.symm.trans phase
      · rcases h'.phase with phase | phase <;> cases waiting.symm.trans phase
      · cases waiting.symm.trans h'.phase
  · exact noted.shutdown_sound (Nat.le_refl _) _ _ h
  · rename_i relaying
    have passed : r.phase ≠ .authenticating := by
      intro waiting
      cases waiting.symm.trans relaying
    split
    · exact later passed
    · exact forwardToUpstream_sound (later passed)
  · rename_i closed
    exact later (by rw [closed]; simp)

/-- An attempt that ends without a connection shuts its relay down. -/
theorem over_shutdown {token : String} {socket : Option ReadyState} (code : Nat) (reason : String)
    (attempts : r.attempts = [⟨token, .ended, socket⟩])
    (closing : ∀ state, socket = some state → 2 ≤ state.rank) (presented : r.presented.length = 1)
    (closer : ∀ handle, r.unregister = some handle → handle.close = ⟨c, 0⟩)
    (upstream : r.upstream = none) (sent : r.sent = []) (q : Quenched r) :
    Sound c (r.shutdown code reason) := by
  have kept : (r.shutdown code reason).attempts = [⟨token, .ended, socket⟩] := by
    rw [shutdown_attempts_of_none code reason upstream, attempts]
  refine ⟨.ended ⟨⟨token, socket, kept⟩, ?_, shutdown_phase _ _, ?_, ?_, ?_,
    socketsClosing_of_one kept closing⟩, shutdown_quenched _ _ q, fun _ _ => shutdown_phase _ _⟩
  · rw [shutdown_presented]
    exact presented
  · rw [shutdown_unregister]
    exact closer
  · rw [shutdown_upstream]
    exact upstream
  · rw [shutdown_sent]
    exact sent

theorem authorizationRejected_sound {token : String} {a : Nat} {socket : Option ReadyState}
    {error : Thrown} (ha : r.attempts[a]? = some ⟨token, .authorizing, socket⟩) (h : Sound c r) :
    Sound c (r.authorizationRejected a token error) := by
  obtain ⟨rfl, one⟩ := h.shape.only ha
  have asking := h.shape.asking_of one
  have ended : ∀ code reason, Sound c ((r.setAttempt 0 ⟨token, .ended, none⟩).shutdown code reason) := by
    intro code reason
    have attempts : (r.setAttempt 0 ⟨token, .ended, none⟩).attempts = [⟨token, .ended, none⟩] := by
      simp [Relay.setAttempt, one]
    have closer : ∀ handle, r.unregister = some handle → handle.close = ⟨c, 0⟩ := by
      intro handle known
      cases asking.unregister.symm.trans known
    exact over_shutdown code reason attempts (by simp) asking.presented closer asking.upstream
      asking.sent ⟨h.quenched.aborted, h.quenched.silent⟩
  unfold Relay.authorizationRejected
  cases error with
  | orchestrator => exact ended _ _
  | other => exact ended _ _

theorem authorized_sound {token : String} {a : Nat} {socket : Option ReadyState} {set : Nat}
    (ha : r.attempts[a]? = some ⟨token, .authorizing, socket⟩) (h : Sound c r) :
    Sound c (r.authorized a token authorization ⟨authorization.sessionId, set, ⟨c, a⟩⟩) := by
  obtain ⟨rfl, one⟩ := h.shape.only ha
  have asking := h.shape.asking_of one
  have attempts : (r.authorized 0 token authorization
      ⟨authorization.sessionId, set, ⟨c, 0⟩⟩).attempts =
      [⟨token, .connecting authorization r.aborted, if r.aborted then none else some .connecting⟩] := by
    simp [Relay.authorized, Relay.setAttempt, one]
  have joining : Joining c authorization r.aborted (r.authorized 0 token authorization
      ⟨authorization.sessionId, set, ⟨c, 0⟩⟩) := by
    refine ⟨⟨token, _, attempts⟩, asking.presented, .inl rfl, ⟨set, rfl⟩, asking.upstream,
      asking.sent, ?_⟩
    intro aborted fine
    exact absurd (aborted.symm.trans fine) (by simp)
  refine ⟨.joining joining,
    ⟨?_, h.quenched.silent⟩, attentive_of_one attempts⟩
  intro closed
  cases closed

/-- The relay that `connect` hands its connection to sends the ready frame, or is
shut down. -/
theorem ready_linked {token : String} {socket : ReadyState} {bufferedAmount : Nat}
    (attempts : r.attempts = [⟨token, .connected authorization, some socket⟩])
    (presented : r.presented.length = 1) (phase : r.phase = .relaying)
    (unregister : ∃ set, r.unregister = some ⟨authorization.sessionId, set, ⟨c, 0⟩⟩)
    (upstream : r.upstream = some 0) (sent : r.sent = []) (running : r.aborted = false)
    (q : Quenched r) :
    Linked c authorization (r.forwardToClient cfg (.ready authorization.sessionId) bufferedAmount) ∧
      Quenched (r.forwardToClient cfg (.ready authorization.sessionId) bufferedAmount) := by
  have shut : ∀ code reason, Linked c authorization (r.shutdown code reason) ∧
      Quenched (r.shutdown code reason) := by
    intro code reason
    refine ⟨⟨?_, ?_, .inr (shutdown_phase _ _), ?_, ?_, .inl ⟨?_, shutdown_aborted _ _ q⟩,
      fun _ => shutdown_phase _ _,
      fun _ => shutdown_socketsClosing code reason attempts upstream fun closed => ?_⟩,
      shutdown_quenched _ _ q⟩
    · rcases shutdown_attempts (r := r) code reason with same | ⟨a, ha, changed⟩
      · exact ⟨token, some socket, by rw [same, attempts]⟩
      · cases upstream.symm.trans ha
        exact ⟨token, some (closeSocket socket), by rw [changed, attempts]; rfl⟩
    · rw [shutdown_presented]
      exact presented
    · rw [shutdown_unregister]
      exact unregister
    · rw [shutdown_upstream]
      exact upstream
    · rw [shutdown_sent]
      exact sent
    · cases closed.symm.trans phase
  unfold Relay.forwardToClient Relay.forward
  split
  · exact shut _ _
  split
  · exact shut _ _
  · refine ⟨⟨⟨token, some socket, attempts⟩, presented, .inl phase, unregister, upstream, .inr ?_, ?_,
      fun closed => ?_⟩, ⟨q.aborted, q.silent⟩⟩
    · refine ⟨[], ?_, by simp⟩
      change ClientMessage.ready authorization.sessionId :: r.sent = _
      rw [sent]
      rfl
    · intro aborted
      cases aborted.symm.trans running
    · cases closed.symm.trans phase

theorem connectSettled_sound {token : String} {a : Nat} {refused : Bool}
    {socket : Option ReadyState} {result : Option Connection}
    (ha : r.attempts[a]? = some ⟨token, .connecting authorization refused, socket⟩)
    (possible : ¬ (refused = true ∧ result.isSome = true)) (h : Sound c r) :
    Sound c (r.connectSettled cfg a token authorization socket result) := by
  obtain ⟨rfl, one⟩ := h.shape.only ha
  have joining := h.shape.joining_of one
  have attempts : ∀ t, (r.setAttempt 0 t).attempts = [t] := by
    intro t
    simp [Relay.setAttempt, one]
  have q : ∀ t, Quenched (r.setAttempt 0 t) := fun t => ⟨h.quenched.aborted, h.quenched.silent⟩
  have closer : ∀ handle, r.unregister = some handle → handle.close = ⟨c, 0⟩ := by
    intro handle hh
    obtain ⟨set, known⟩ := joining.unregister
    cases known.symm.trans hh
    rfl
  unfold Relay.connectSettled
  cases result with
  | none =>
    have closing : ∀ state, (socket.map fun _ => ReadyState.closing) = some state → 2 ≤ state.rank := by
      intro state hs
      obtain ⟨_, -, rfl⟩ := Option.map_eq_some_iff.mp hs
      exact Nat.le_refl 2
    exact over_shutdown _ _ (attempts _) closing joining.presented closer joining.upstream
      joining.sent (q _)
  | some connection =>
    have fine : refused = false := by
      cases refused with
      | false => rfl
      | true => exact absurd ⟨rfl, rfl⟩ possible
    simp only
    split
    · rename_i aborted
      refine ⟨.ended ⟨⟨token, _, attempts _⟩, joining.presented, joining.live aborted fine, closer,
        joining.upstream, joining.sent, socketsClosing_of_one (attempts _) ?_⟩, q _,
        attentive_of_one (attempts _)⟩
      intro state hs
      cases hs
      exact Nat.le_refl 2
    · rename_i running
      have attached : Linked c authorization ((r.attach 0 token authorization
            connection.socket).forwardToClient cfg (.ready authorization.sessionId)
            connection.bufferedAmount) ∧
          Quenched ((r.attach 0 token authorization connection.socket).forwardToClient cfg
            (.ready authorization.sessionId) connection.bufferedAmount) := by
        refine ready_linked (attempts _) joining.presented rfl joining.unregister rfl joining.sent
          ?_ ⟨?_, h.quenched.silent⟩
        · simpa [Relay.attach, Relay.setAttempt] using running
        · intro closed
          cases closed
      have linked : Linked c authorization (connection.buffered.foldl
          (Relay.dispatch cfg authorization.sessionId) _) ∧ _ :=
        attached.1.dispatch_all connection.buffered attached.2
      obtain ⟨_, _, only⟩ := linked.1.attempts
      exact ⟨.linked linked.1, linked.2, attentive_of_one only⟩

theorem upstreamState_sound {token : String} {stage : Stage} {a : Nat} {socket state : ReadyState}
    (ha : r.attempts[a]? = some ⟨token, stage, some socket⟩) (later : socket.rank < state.rank)
    (h : Sound c r) :
    Sound c (r.setAttempt a ⟨token, stage, some state⟩) := by
  obtain ⟨rfl, one⟩ := h.shape.only ha
  have attempts : (r.setAttempt 0 ⟨token, stage, some state⟩).attempts =
      [⟨token, stage, some state⟩] := by
    simp [Relay.setAttempt, one]
  have released : r.SocketsClosing →
      (r.setAttempt 0 ⟨token, stage, some state⟩).SocketsClosing := by
    intro before
    refine socketsClosing_of_one attempts ?_
    rintro _ ⟨⟩
    have closing := before ⟨token, stage, some socket⟩ (by rw [one]; simp) socket rfl
    omega
  refine ⟨?_, ⟨h.quenched.aborted, h.quenched.silent⟩, attentive_of_one attempts⟩
  rcases h.shape with h | h | h | h | h
  · cases h.attempts.symm.trans one
  · obtain ⟨_, one'⟩ := h.attempts
    cases one.symm.trans one'
  · obtain ⟨_, _, one'⟩ := h.attempts
    cases one.symm.trans one'
    exact .joining ⟨⟨token, some state, attempts⟩, h.presented, h.phase, h.unregister, h.upstream,
      h.sent, h.live⟩
  · obtain ⟨_, _, one'⟩ := h.attempts
    cases one.symm.trans one'
    exact .linked ⟨⟨token, some state, attempts⟩, h.presented, h.phase, h.unregister, h.upstream,
      h.sent, h.live, fun closed => released (h.released closed)⟩
  · obtain ⟨_, _, one'⟩ := h.attempts
    cases one.symm.trans one'
    exact .ended ⟨⟨token, some state, attempts⟩, h.presented, h.phase, h.unregister, h.upstream,
      h.sent, released h.released⟩

/-- **One event of a connection** on which only the first frame authenticates. -/
theorem listen_sound {e : RelayEvent} (first : FirstFrame cfg r e) (h : Sound c r)
    (hl : r.listen cfg e = some r') : Sound c r' := by
  cases e with
  | clientFrame frame bufferedAmount =>
    cases hl
    exact clientMessage_sound first h
  | clientClosed =>
    simp only [Relay.listen] at hl
    split at hl
    · cases hl
      have noted : Alike r { r with client := .closed, closeListener := false } :=
        ⟨rfl, rfl, rfl, rfl, rfl, rfl, rfl⟩
      exact noted.shutdown_sound r.client.rank_le_closed _ _ h
    · cases hl
  | clientFailed =>
    simp only [Relay.listen] at hl
    split at hl
    · cases hl
      have noted : Alike r { r with errorListener := false } := ⟨rfl, rfl, rfl, rfl, rfl, rfl, rfl⟩
      exact noted.shutdown_sound (Nat.le_refl _) _ _ h
    · cases hl
  | clientState state =>
    simp only [Relay.listen] at hl
    split at hl
    · rename_i later
      cases hl
      have noted : Alike r { r with client := state } := ⟨rfl, rfl, rfl, rfl, rfl, rfl, rfl⟩
      exact noted.sound (Nat.le_of_lt later) id h
    · cases hl
  | timedOut =>
    simp only [Relay.listen] at hl
    split at hl
    · cases hl
      have noted : Alike r { r with timer := false } := ⟨rfl, rfl, rfl, rfl, rfl, rfl, rfl⟩
      exact noted.shutdown_sound (Nat.le_refl _) _ _ h
    · cases hl
  | sendFailed =>
    cases hl
    exact h.shutdown _ _
  | rejected a error =>
    simp only [Relay.listen] at hl
    split at hl
    · rename_i ha
      cases hl
      exact authorizationRejected_sound ha h
    · cases hl
  | connected a result =>
    simp only [Relay.listen] at hl
    split at hl
    · rename_i ha
      split at hl
      · cases hl
      · rename_i possible
        cases hl
        exact connectSettled_sound ha possible h
    · cases hl
  | upstream a event =>
    simp only [Relay.listen] at hl
    split at hl
    · rename_i ha
      cases hl
      obtain ⟨rfl, one⟩ := h.shape.only ha
      have linked : Linked c _ (r.dispatch cfg _ event) ∧ _ :=
        (h.shape.linked_of one).dispatch h.quenched event
      obtain ⟨_, _, only⟩ := linked.1.attempts
      exact ⟨.linked linked.1, linked.2, attentive_of_one only⟩
    · cases hl
  | upstreamState a state =>
    simp only [Relay.listen] at hl
    split at hl
    · rename_i ha
      split at hl
      · rename_i later
        cases hl
        exact upstreamState_sound ha later h
      · cases hl
    · cases hl

end

/-! ## The handle -/

section
variable {cfg : GatewayConfig} {r r' : Relay}

theorem forward_unregister (destination : ReadyState) (byteLength bufferedAmount : Nat)
    (send : Action) :
    (r.forward cfg destination byteLength bufferedAmount send).unregister = r.unregister := by
  unfold Relay.forward
  split
  · exact shutdown_unregister _ _
  split
  · exact shutdown_unregister _ _
  · rfl

theorem dispatch_unregister (sessionId : String) (event : UpstreamEvent) :
    (r.dispatch cfg sessionId event).unregister = r.unregister := by
  cases event with
  | message => exact forward_unregister _ _ _ _
  | close | error => exact shutdown_unregister _ _

/-- A listener leaves `unregister` as it is. -/
theorem listen_unregister {e : RelayEvent} (hl : r.listen cfg e = some r') :
    r'.unregister = r.unregister := by
  have all : ∀ (events : List UpstreamEvent) sessionId (r : Relay),
      (events.foldl (Relay.dispatch cfg sessionId) r).unregister = r.unregister := by
    intro events sessionId
    induction events with
    | nil => exact fun _ => rfl
    | cons event events ih => exact fun r => (ih _).trans (dispatch_unregister sessionId event)
  cases e with
  | clientFrame frame bufferedAmount =>
    cases hl
    unfold Relay.clientMessage
    simp only
    split
    · split
      · exact shutdown_unregister _ _
      · rfl
    · exact shutdown_unregister _ _
    · split
      · rfl
      · exact forward_unregister _ _ _ _
    · rfl
  | sendFailed =>
    cases hl
    exact shutdown_unregister _ _
  | clientClosed | clientFailed | timedOut =>
    simp only [Relay.listen] at hl
    split at hl
    · cases hl
      exact shutdown_unregister _ _
    · cases hl
  | clientState state =>
    simp only [Relay.listen] at hl
    split at hl
    · cases hl
      rfl
    · cases hl
  | rejected a error =>
    simp only [Relay.listen] at hl
    split at hl
    · cases hl
      unfold Relay.authorizationRejected
      cases error with
      | orchestrator => exact shutdown_unregister _ _
      | other => exact shutdown_unregister _ _
    · cases hl
  | connected a result =>
    simp only [Relay.listen] at hl
    split at hl
    · split at hl
      · cases hl
      · cases hl
        unfold Relay.connectSettled
        cases result with
        | none => exact shutdown_unregister _ _
        | some connection =>
          simp only
          split
          · rfl
          · exact (all _ _ _).trans (forward_unregister _ _ _ _)
    · cases hl
  | upstream a event =>
    simp only [Relay.listen] at hl
    split at hl
    · cases hl
      exact dispatch_unregister _ event
    · cases hl
  | upstreamState a state =>
    simp only [Relay.listen] at hl
    split at hl
    · split at hl
      · cases hl
        rfl
      · cases hl
    · cases hl

end

end Fireball.Signaling
