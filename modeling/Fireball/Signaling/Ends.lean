import Fireball.Foundation.Lists
import Fireball.Signaling.Link
import Fireball.Supervisor.Reasons

/-!
# The two ends of a dialled connection

* `react_sends`: what `connect` sends, and when;
* `handoff_reached`: the first frame it gets, and the frames after it;
* `Ends`: what the frames between the two ends say about both;
* `ends_hear`, `ends_step`: one event of the proxy, and one of the whole link.
-/

namespace Fireball.Signaling

open Foundation Session
open Supervisor (Proxy ProxyConfig ProxyEvent ControllerMessage Peer Lease LeaseEvent)

/-! ## What `connect` sends -/

namespace Connect

variable {cfg : ConnectorConfig} {s t : Connect}

/-- Nothing is sent, and a socket that is connecting was connecting before. -/
structure Steady (s t : Connect) : Prop where
  secret : t.secret = s.secret
  sent : t.sentFrames = s.sentFrames
  socket : t.socket = .connecting → s.socket = .connecting

theorem Steady.trans {u : Connect} (h : Steady s t) (h' : Steady t u) : Steady s u :=
  ⟨h'.secret.trans h.secret, h'.sent.trans h.sent, fun now => h.socket (h'.socket now)⟩

theorem steady_of_log (secret : t.secret = s.secret) (log : t.log = s.log)
    (socket : t.socket = .connecting → s.socket = .connecting) : Steady s t :=
  ⟨secret, by rw [sentFrames, sentFrames, log], socket⟩

theorem steady_refl : Steady s s := steady_of_log rfl rfl id

theorem sentFrames_act (action : ConnectAction) :
    (s.act action).sentFrames = s.sentFrames ++ action.frame?.toList := by
  unfold sentFrames act
  rw [List.reverse_cons, List.filterMap_append]
  cases action <;> rfl

theorem steady_act {action : ConnectAction} (silent : ∀ text, action ≠ .sent text) :
    Steady s (s.act action) := by
  refine ⟨rfl, ?_, id⟩
  rw [sentFrames_act]
  cases action with
  | sent text => exact absurd rfl (silent text)
  | _ => exact List.append_nil _

theorem steady_terminate : Steady s s.terminate := by
  unfold terminate
  refine Steady.trans ?_ (steady_act (by simp))
  split
  · exact steady_of_log rfl rfl (by simp)
  · exact steady_of_log rfl rfl (by simp)
  · exact steady_refl

theorem steady_fail : Steady s s.fail := by
  unfold fail
  split
  · exact steady_refl
  · refine Steady.trans ?_ (steady_terminate.trans (steady_act (by simp)))
    exact steady_of_log rfl rfl id

theorem steady_onMessage {frame : Frame} : Steady s (s.onMessage cfg frame) := by
  unfold onMessage
  split
  · split
    · exact steady_fail
    split
    · exact steady_refl
    · refine Steady.trans ?_ (steady_act (by simp))
      exact steady_of_log rfl rfl id
  split
  · exact steady_act (by simp)
  · unfold buffer
    split
    · refine Steady.trans ?_ steady_terminate
      exact steady_of_log rfl rfl id
    · exact steady_of_log rfl rfl id

theorem steady_ended (event : SignalingEvent) : Steady s (s.ended event) := by
  unfold ended
  split
  · exact steady_fail
  split
  · exact steady_act (by simp)
  · exact steady_of_log rfl rfl id

theorem steady_activate : Steady s s.activate := by
  have all : ∀ (events : List SignalingEvent) (s : Connect),
      Steady s (events.foldl (fun s event => s.act (.called event)) s) := by
    intro events
    induction events with
    | nil => exact fun s => steady_refl
    | cons event events ih => exact fun s => (steady_act (by simp)).trans (ih _)
  unfold activate
  split
  · exact steady_refl
  · have flushed := all s.bufferedEvents { s with activated := true }
    exact ⟨flushed.secret, flushed.sent, flushed.socket⟩

/-- **The authentication frame** is sent when the socket opens, and nothing else ever. -/
theorem react_sends {e : ConnectEvent} (h : s.react cfg e = some t) :
    Steady s t ∨ (e = .opened ∧ s.socket = .connecting ∧ t.socket = .opened ∧ t.secret = s.secret ∧
      t.sentFrames = s.sentFrames ++ [openingFrame s.secret]) := by
  cases e with
  | opened =>
    simp only [react] at h
    split at h
    · rename_i connecting
      cases h
      split
      · refine .inr ⟨rfl, connecting, rfl, rfl, ?_⟩
        exact sentFrames_act _
      · exact .inl (steady_of_log rfl rfl fun _ => connecting)
    · cases h
  | message frame =>
    simp only [react] at h
    split at h
    · cases h
      split
      · exact .inl steady_onMessage
      · exact .inl steady_refl
    · cases h
  | error =>
    simp only [react] at h
    split at h
    · cases h
    · cases h
      left
      split
      · refine Steady.trans ?_ (steady_ended .error)
        refine steady_of_log rfl rfl fun now => ?_
        simp only at now
        split at now
        · assumption
        · exact now
      · refine Steady.trans ?_ (steady_act (by simp))
        refine steady_of_log rfl rfl fun now => ?_
        simp only at now
        split at now
        · assumption
        · exact now
  | closing =>
    simp only [react] at h
    split at h
    · cases h
      exact .inl (steady_of_log rfl rfl (by simp))
    · cases h
  | closed =>
    simp only [react] at h
    split at h
    · cases h
    · cases h
      left
      split
      · refine Steady.trans ?_ (steady_ended .close)
        exact steady_of_log rfl rfl (by simp)
      · exact steady_of_log rfl rfl (by simp)
  | unexpectedResponse =>
    simp only [react] at h
    split at h
    · cases h
      left
      split
      · refine Steady.trans ?_ steady_fail
        exact steady_of_log rfl rfl id
      · exact steady_of_log rfl rfl (by simp)
    · cases h
  | aborted =>
    simp only [react] at h
    cases h
    left
    split
    · refine Steady.trans ?_ steady_fail
      exact steady_of_log rfl rfl id
    · exact steady_of_log rfl rfl id
  | timedOut | sendFailed =>
    simp only [react] at h
    split at h
    · cases h
      left
      refine Steady.trans ?_ steady_fail
      exact steady_of_log rfl rfl id
    · cases h
  | activated =>
    simp only [react] at h
    split at h
    · cases h
      exact .inl steady_activate
    · cases h

end Connect

/-! ## The first frame that `connect` gets -/

section
variable {cfg : ConnectorConfig} {events : List ConnectEvent} {s t : Connect}

theorem received_noted (e : ConnectEvent) (older : List ConnectEvent) :
    received (e :: older).reverse = received older.reverse ++ e.frame?.toList := by
  rw [List.reverse_cons, received_snoc]

/-- A frame decides. -/
theorem undecided_silent (h : verdict cfg events = .undecided) : received events.reverse = [] := by
  induction events with
  | nil => rfl
  | cons e older ih =>
    obtain ⟨before, undecided⟩ := undecided_cons h
    rw [received_noted, ih before]
    cases e with
    | message frame => exact absurd undecided (message_decides frame)
    | _ => rfl

theorem resolved_by_frame {e : ConnectEvent} (h : verdict cfg (e :: events) = .resolved)
    (before : verdict cfg events ≠ .resolved) :
    verdict cfg events = .undecided ∧ ∃ frame, e = .message frame := by
  simp only [verdict] at h
  split at h
  · rename_i undecided
    refine ⟨undecided, ?_⟩
    cases e with
    | message frame => exact ⟨frame, rfl⟩
    | _ => cases h
  · exact absurd h before

theorem authenticated_stays {secret : String} {e : ConnectEvent}
    (reached : (connector cfg secret).Reachable (fun _ _ => True) s)
    (authenticated : s.authenticated = true) (react : s.react cfg e = some t) : t.authenticated = true := by
  have stands := (reachable_fresh reached).1
  have resolved := resolved_of_stands stands ((resolved_iff stands).mp authenticated)
  exact (Connect.resolved_react resolved react).1.authenticated

/-- The frames that come after the first one go through the handoff. -/
theorem handoff_reached {secret : String}
    (reached : (connector cfg secret).Reachable (fun _ _ => True) s) (authenticated : s.authenticated = true) :
    ∃ post frame, Handoff cfg post s ∧ received s.events.reverse = frame :: received post := by
  refine Machine.Reachable.invariant
    (I := fun s => s.authenticated = true → ∃ post frame, Handoff cfg post s ∧
      received s.events.reverse = frame :: received post)
    reached (fun now => by cases now) ?_ authenticated
  intro s e u before ih _ step now
  by_cases earlier : s.authenticated = true
  · obtain ⟨post, frame, handoff, heard⟩ := ih earlier
    obtain ⟨t, react, rfl⟩ := Option.map_eq_some_iff.mp step
    have next := handoff_step handoff react
    refine ⟨post ++ [e], frame, ?_, ?_⟩
    · obtain ⟨settled, authenticated, message, listening, activated, waiting, drained, count, bytes,
        size, stream⟩ := next
      exact ⟨settled, authenticated, message, listening, activated, waiting, drained, count, bytes,
        size, stream⟩
    · show received (e :: s.events).reverse = _
      rw [received_noted, heard, received_snoc]
      rfl
  · have waiting : s.authenticated = false := by simpa using earlier
    have stands := (reachable_fresh before).1
    have after : Stands cfg u.events u :=
      (reachable_fresh (before.step trivial step)).1
    have noted : u.events = e :: s.events := by
      obtain ⟨t, -, rfl⟩ := Option.map_eq_some_iff.mp step
      rfl
    have resolved := (resolved_iff after).mp now
    rw [noted] at resolved
    obtain ⟨undecided, frame, rfl⟩ :=
      resolved_by_frame resolved fun h => earlier ((resolved_iff stands).mpr h)
    refine ⟨[], frame, handoff_start before waiting step now, ?_⟩
    rw [noted, received_noted, undecided_silent undecided]
    rfl

end

/-! ## The two ends -/

/-- The proxy would take the frame that `connect` sends. -/
def Accepted (session : ProxyConfig) (d : Dial) : Prop :=
  Supervisor.parseAuthenticationFrame session (openingFrame d.secret) = true

/-- Nothing was put in, or the authentication frame and then the gateway's own frames. -/
inductive Opening (d : Dial) : Prop
  | unsent : d.toSession.sent = [] → d.connect.sentFrames = [] → Opening d
  | sent (handed : List Frame) : d.toSession.sent = openingFrame d.secret :: handed →
      (handed ≠ [] → d.connect.authenticated = true) → d.connect.socket ≠ .connecting → Opening d

structure GatewaySide (cfg : ConnectorConfig) (d : Dial) : Prop where
  reached : (connector cfg d.secret).Reachable (fun _ _ => True) d.connect
  secret : d.connect.secret = d.secret
  credential : isCredential d.secret = true
  heard : received d.connect.events.reverse = d.toGateway.received
  opening : Opening d

/-- What a lease has made of the frames so far. -/
structure Leased (session : ProxyConfig) (d : Dial) (l : Lease) : Prop where
  clean : Accepted session d → l.Clean
  waiting : l.phase = .authenticating → d.toSession.received = []
  silent : l.phase = .authenticating ∨ l.phase = .connecting → l.sentUpstream = [] ∧ l.sentClient = []
  dialled : l.phase = .connecting ∨ l.phase = .relaying → l.upstream.isSome = true ∧
    Accepted session d ∧ d.toSession.received = openingFrame d.secret :: l.sentUpstream
  upstream : l.sentUpstream <+: d.toSession.received.tail
  accepted : l.sentUpstream ≠ [] ∨ l.sentClient ≠ [] →
    Accepted session d ∧ d.toSession.received ≠ []
  announced : l.sentClient = [] ∨ ∃ frames : List Frame, l.sentClient = .authenticated :: frames.map .relayed
  told : l.phase = .relaying → l.sentClient ≠ []
  gateway : d.toGateway.sent = [] ∨ d.toGateway.sent = l.sentClient.map messageFrame
  flowing : l.client = .opened → d.toGateway.sent = l.sentClient.map messageFrame
  connected : l.client ≠ .connecting

def SessionSide (session : ProxyConfig) (d : Dial) : Option Peer → Prop
  | some (.leased l) => Leased session d l
  | _ => d.toSession.received = [] ∧ d.toGateway.sent = []

structure Ends (cfg : ConnectorConfig) (session : ProxyConfig) (d : Dial) (peer : Option Peer) : Prop where
  gateway : GatewaySide cfg d
  session : SessionSide session d peer

section
variable {cfg : ConnectorConfig} {session : ProxyConfig} {d d' : Dial} {l l' : Lease} {peer : Option Peer}

/-- `connect` resolves on a frame of the proxy, which has taken one before. -/
theorem resolved_served (ends : Ends cfg session d peer) (authenticated : d.connect.authenticated = true) :
    ∃ l, peer = some (.leased l) ∧ l.sentClient ≠ [] ∧ Accepted session d ∧ d.toSession.received ≠ [] := by
  obtain ⟨post, frame, -, heard⟩ := handoff_reached ends.gateway.reached authenticated
  have some_sent : d.toGateway.sent ≠ [] := by
    intro none
    have taken := Channel.received_isPrefix d.toGateway
    rw [none, List.prefix_nil, ← ends.gateway.heard, heard] at taken
    cases taken
  have side := ends.session
  cases peer with
  | none => exact absurd side.2 some_sent
  | some peer =>
    cases peer with
    | refused client => exact absurd side.2 some_sent
    | leased l =>
      have told : l.sentClient ≠ [] := by
        intro none
        rcases side.gateway with empty | sent
        · exact some_sent empty
        · rw [none] at sent
          exact some_sent sent
      exact ⟨l, rfl, told, side.accepted (.inr told)⟩

/-- Before the answer nothing follows the authentication frame. -/
theorem connecting_idle {frame : Frame} {ch : Channel Frame}
    (ends : Ends cfg session d (some (.leased l))) (connecting : l.phase = .connecting)
    (sent : ch.sent = d.toSession.sent) (taken : ch.received = d.toSession.received ++ [frame]) : False := by
  have side : Leased session d l := ends.session
  obtain ⟨upstream, client⟩ := side.silent (.inr connecting)
  obtain ⟨-, -, before⟩ := side.dialled (.inl connecting)
  have whole := Channel.received_isPrefix ch
  rw [taken, sent, before, upstream] at whole
  cases ends.gateway.opening with
  | unsent none =>
    rw [none] at whole
    simp at whole
  | sent handed all resolved =>
    rw [all] at whole
    have more : handed ≠ [] := by
      rintro rfl
      simp at whole
    obtain ⟨l₁, same, told, -⟩ := resolved_served ends (resolved more)
    cases same
    exact told client

/-- The first frame that reaches a lease is the authentication frame. -/
theorem waiting_first {frame : Frame} {ch : Channel Frame} (opening : Opening d)
    (fresh : d.toSession.received = []) (sent : ch.sent = d.toSession.sent)
    (taken : ch.received = d.toSession.received ++ [frame]) : frame = openingFrame d.secret := by
  have whole := Channel.received_isPrefix ch
  rw [taken, sent, fresh, List.nil_append] at whole
  cases opening with
  | unsent none =>
    rw [none] at whole
    simp at whole
  | sent handed all =>
    rw [all] at whole
    exact (List.cons_prefix_cons.mp whole).1

/-! ### One event of the connector -/

theorem react_channels {e : ConnectEvent} (h : d.react cfg e = some d') :
    d'.secret = d.secret ∧ d'.toGateway = d.toGateway ∧ d'.toSession.received = d.toSession.received ∧
      connectStep cfg d.connect e = some d'.connect := by
  obtain ⟨connect, step, rfl⟩ := Option.map_eq_some_iff.mp h
  exact ⟨rfl, rfl, Channel.put_received, step⟩

/-- What the frames that a lease was given say of it does not depend on the connector. -/
theorem sessionSide_same (side : SessionSide session d peer) (secret : d'.secret = d.secret)
    (toSession : d'.toSession.received = d.toSession.received)
    (toGateway : d'.toGateway.sent = d.toGateway.sent) : SessionSide session d' peer := by
  cases peer with
  | none => exact ⟨toSession.trans side.1, toGateway.trans side.2⟩
  | some peer =>
    cases peer with
    | refused client => exact ⟨toSession.trans side.1, toGateway.trans side.2⟩
    | leased l =>
      have leased : Leased session d l := side
      have same : Accepted session d' ↔ Accepted session d := by rw [Accepted, Accepted, secret]
      refine ⟨fun h => leased.clean (same.mp h), ?_, leased.silent, ?_, ?_, ?_, leased.announced,
        leased.told, ?_, ?_, leased.connected⟩
      · rw [toSession]
        exact leased.waiting
      · rw [toSession, same, secret]
        exact leased.dialled
      · rw [toSession]
        exact leased.upstream
      · rw [toSession, same]
        exact leased.accepted
      · rw [toGateway]
        exact leased.gateway
      · rw [toGateway]
        exact leased.flowing

/-- One event of a connector that has taken the frame of it from the channel. -/
theorem gateway_react {e : ConnectEvent} {ch : Channel Frame} (side : GatewaySide cfg d)
    (h : ({ d with toGateway := ch } : Dial).react cfg e = some d')
    (taken : ch.received = d.toGateway.received ++ e.frame?.toList) : GatewaySide cfg d' := by
  obtain ⟨connect, step, rfl⟩ := Option.map_eq_some_iff.mp h
  obtain ⟨t, react, rfl⟩ := Option.map_eq_some_iff.mp step
  have kept : d.connect.authenticated = true → t.authenticated = true := fun before =>
    authenticated_stays side.reached before react
  refine ⟨side.reached.step trivial step, ?_, side.credential, ?_, ?_⟩
  · rcases Connect.react_sends react with steady | ⟨-, -, -, secret, -⟩
    · exact steady.secret.trans side.secret
    · exact secret.trans side.secret
  · show received (e :: d.connect.events).reverse = ch.received
    rw [received_noted, side.heard, taken]
  · rcases Connect.react_sends react with steady | ⟨rfl, connecting, opened, secret, sent⟩
    · have none : ({ t with events := e :: d.connect.events } : Connect).sentFrames = d.connect.sentFrames :=
        steady.sent
      have quiet : t.sentFrames.drop d.connect.sentFrames.length = [] := by
        rw [steady.sent, List.drop_length]
      cases side.opening with
      | unsent empty silent =>
        refine .unsent ?_ (none.trans silent)
        show d.toSession.sent ++ t.sentFrames.drop d.connect.sentFrames.length = []
        rw [quiet, empty]
        rfl
      | sent handed all resolved passed =>
        refine .sent handed ?_ ?_ fun now => passed (steady.socket now)
        · show d.toSession.sent ++ t.sentFrames.drop d.connect.sentFrames.length = _
          rw [quiet, all, List.append_nil]
        · exact fun more => kept (resolved more)
    · cases side.opening with
      | unsent empty silent =>
        refine .sent [] ?_ (fun more => absurd rfl more) ?_
        · show d.toSession.sent ++ t.sentFrames.drop d.connect.sentFrames.length = _
          rw [empty, sent, silent, side.secret]
          rfl
        · show t.socket ≠ .connecting
          rw [opened]
          decide
      | sent _ _ _ passed => exact absurd connecting passed

/-! ### One event of the proxy -/

/-- A relayed frame went out on an open socket. -/
theorem relayed_open {frame : Frame} {bufferedAmount : Nat}
    (h : l.listen session (.upstreamFrame frame bufferedAmount) = some l') (relaying : l.phase = .relaying)
    (after : l'.phase = .relaying) : l.client = .opened := by
  simp only [Lease.listen] at h
  split at h
  · split at h
    · cases h
    · cases h
      unfold Lease.upstreamMessage at after
      rw [if_pos relaying] at after
      unfold Lease.forward at after
      by_cases open_ : l.client = .opened
      · exact open_
      · rw [if_pos open_, Supervisor.shutdown_phase] at after
        cases after
  · cases h

theorem connected_stays (connected : l.client ≠ .connecting) (later : l.client.rank ≤ l'.client.rank) :
    l'.client ≠ .connecting := by
  intro now
  rw [now] at later
  cases hc : l.client with
  | connecting => exact connected hc
  | _ =>
    rw [hc] at later
    exact absurd later (by decide)

theorem opened_stays (connected : l.client ≠ .connecting) (later : l.client.rank ≤ l'.client.rank)
    (now : l'.client = .opened) : l.client = .opened := by
  rw [now] at later
  cases hc : l.client with
  | connecting => exact absurd hc connected
  | opened => rfl
  | _ =>
    rw [hc] at later
    exact absurd later (by decide)

/-- The channels after one event of the lease: what it takes, and what it sends. -/
def heardBy (d : Dial) (ch : Channel Frame) (l l' : Lease) : Dial :=
  Dial.hear { d with toSession := ch } (some (.leased l)) (some (.leased l'))

@[simp] theorem heardBy_toSession (d : Dial) (ch : Channel Frame) (l l' : Lease) :
    (heardBy d ch l l').toSession = ch := by
  unfold heardBy Dial.hear
  simp only
  split <;> rfl

@[simp] theorem heardBy_secret (d : Dial) (ch : Channel Frame) (l l' : Lease) :
    (heardBy d ch l l').secret = d.secret := by
  unfold heardBy Dial.hear
  simp only
  split <;> rfl

@[simp] theorem heardBy_connect (d : Dial) (ch : Channel Frame) (l l' : Lease) :
    (heardBy d ch l l').connect = d.connect := by
  unfold heardBy Dial.hear
  simp only
  split <;> rfl

@[simp] theorem heardBy_received (d : Dial) (ch : Channel Frame) (l l' : Lease) :
    (heardBy d ch l l').toGateway.received = d.toGateway.received := by
  unfold heardBy Dial.hear
  simp only
  split
  · exact Channel.put_received
  · rfl

theorem heardBy_sent (ch : Channel Frame) {new : List ControllerMessage}
    (sent : l'.sentClient = l.sentClient ++ new) (open_ : new ≠ [] → l.client = .opened) :
    (heardBy d ch l l').toGateway.sent = d.toGateway.sent ++ new.map messageFrame := by
  unfold heardBy Dial.hear
  simp only
  split
  · rw [Channel.put_sent, sent, List.drop_left]
  · rename_i shut
    have none : new = [] := by
      by_contra more
      exact shut (open_ more)
    rw [none]
    simp

theorem heardBy_idle (ch : Channel Frame) (same : l'.sentClient = l.sentClient) :
    (heardBy d ch l l').toGateway.sent = d.toGateway.sent := by
  have none : l'.sentClient = l.sentClient ++ [] := same.trans (List.append_nil _).symm
  rw [heardBy_sent ch none fun more => absurd rfl more, List.map_nil, List.append_nil]

theorem heardBy_closed (ch : Channel Frame) (shut : l.client ≠ .opened) :
    (heardBy d ch l l').toGateway.sent = d.toGateway.sent := by
  unfold heardBy Dial.hear
  simp only
  rw [if_neg shut]

theorem received_silent (frame : Frame) :
    ∀ action ∈ [Supervisor.LeaseAction.received frame], action.sends = false :=
  Supervisor.heard_silent (.clientFrame frame 0)

/-- The invariant, where the lease sends nothing and neither hears a frame that it makes
anything of. -/
theorem leased_quiet {ch : Channel Frame} (side : Leased session d l) (clean : Accepted session d → l'.Clean)
    (phase : l'.phase = .closed ∨ l'.phase = l.phase ∧ ch.received = d.toSession.received)
    (upstream : l'.upstream.isSome = l.upstream.isSome)
    (sent : l'.sentUpstream = l.sentUpstream ∧ l'.sentClient = l.sentClient)
    (taken : ∃ more, ch.received = d.toSession.received ++ more)
    (later : l.client.rank ≤ l'.client.rank) : Leased session (heardBy d ch l l') l' := by
  obtain ⟨more, taken⟩ := taken
  have same := heardBy_idle (d := d) ch sent.2
  constructor
  · simpa [Accepted] using clean
  · intro waiting
    rw [heardBy_toSession]
    rcases phase with closed | ⟨kept, none⟩
    · cases closed.symm.trans waiting
    · rw [none]
      exact side.waiting (kept.symm.trans waiting)
  · intro early
    rw [sent.1, sent.2]
    rcases phase with closed | ⟨kept, -⟩
    · rw [closed] at early
      rcases early with early | early <;> cases early
    · exact side.silent (kept ▸ early)
  · intro open_
    rcases phase with closed | ⟨kept, none⟩
    · rw [closed] at open_
      rcases open_ with open_ | open_ <;> cases open_
    · have before := side.dialled (kept ▸ open_)
      rw [heardBy_toSession, heardBy_secret, none, sent.1, upstream]
      simpa [Accepted] using before
  · rw [heardBy_toSession, sent.1, taken]
    exact side.upstream.trans (tail_grows _ _)
  · rw [heardBy_toSession, sent.1, sent.2, taken]
    intro told
    obtain ⟨accepted, some_taken⟩ := side.accepted told
    refine ⟨by simpa [Accepted] using accepted, fun none => some_taken ?_⟩
    exact (List.append_eq_nil_iff.mp none).1
  · rw [sent.2]
    exact side.announced
  · intro relaying
    rw [sent.2]
    rcases phase with closed | ⟨kept, -⟩
    · cases closed.symm.trans relaying
    · exact side.told (kept ▸ relaying)
  · rw [same, sent.2]
    exact side.gateway
  · rw [same, sent.2]
    exact fun now => side.flowing (opened_stays side.connected later now)
  · exact connected_stays side.connected later

/-- While the client is open, the gateway has been sent all that the lease has said. -/
theorem heardBy_flowing (side : Leased session d l) (ch : Channel Frame) {new : List ControllerMessage}
    (sent : l'.sentClient = l.sentClient ++ new) (open_ : l.client = .opened) :
    (heardBy d ch l l').toGateway.sent = l'.sentClient.map messageFrame := by
  rw [heardBy_sent ch sent fun _ => open_, side.flowing open_, sent, List.map_append]

/-- A lease that relays has read the authentication frame and passed on all after it. -/
theorem leased_relaying {ch : Channel Frame} (clean : Accepted session d → l'.Clean) (phase : l'.phase = .relaying)
    (dialled : l'.upstream.isSome = true) (accepted : Accepted session d)
    (received : ch.received = openingFrame d.secret :: l'.sentUpstream)
    (announced : ∃ frames : List Frame, l'.sentClient = .authenticated :: frames.map .relayed)
    (gateway : (heardBy d ch l l').toGateway.sent = [] ∨
      (heardBy d ch l l').toGateway.sent = l'.sentClient.map messageFrame)
    (flowing : l'.client = .opened → (heardBy d ch l l').toGateway.sent = l'.sentClient.map messageFrame)
    (connected : l'.client ≠ .connecting) : Leased session (heardBy d ch l l') l' := by
  have accepted : Accepted session (heardBy d ch l l') := by simpa [Accepted] using accepted
  obtain ⟨frames, told⟩ := announced
  constructor
  · simpa [Accepted] using clean
  · intro other
    cases phase.symm.trans other
  · intro other
    rw [phase] at other
    rcases other with other | other <;> cases other
  · intro _
    rw [heardBy_toSession, heardBy_secret]
    exact ⟨dialled, accepted, received⟩
  · rw [heardBy_toSession, received]
    exact List.prefix_refl _
  · rw [heardBy_toSession, received]
    exact fun _ => ⟨accepted, by simp⟩
  · exact .inr ⟨frames, told⟩
  · rw [told]
    exact fun _ => by simp
  · exact gateway
  · exact flowing
  · exact connected

/-! Each kind of event of a lease. -/

theorem leased_opened {frame : Frame} {ch : Channel Frame} (ends : Ends cfg session d (some (.leased l)))
    (clean : Accepted session d → l'.Clean) (later : l.client.rank ≤ l'.client.rank)
    (waiting : l.phase = .authenticating) (presented : Supervisor.parseAuthenticationFrame session frame = true)
    (phase : l'.phase = .connecting) (upstream : l'.upstream.isSome = true) (log : l'.log = .received frame :: l.log)
    (one : ch.received = d.toSession.received ++ [frame]) (sent : ch.sent = d.toSession.sent) :
    Leased session (heardBy d ch l l') l' := by
  have side : Leased session d l := ends.session
  have fresh := side.waiting waiting
  have first := waiting_first ends.gateway.opening fresh sent one
  obtain ⟨noUpstream, noClient⟩ := side.silent (.inl waiting)
  obtain ⟨upstreamSame, clientSame⟩ :=
    Supervisor.sent_silent (received_silent frame) (show l'.log = [.received frame] ++ l.log from log)
  have accepted : Accepted session d := by
    rw [Accepted, ← first]
    exact presented
  have same := heardBy_idle (d := d) ch clientSame
  constructor
  · simpa [Accepted] using clean
  · intro other
    cases phase.symm.trans other
  · exact fun _ => ⟨upstreamSame.trans noUpstream, clientSame.trans noClient⟩
  · intro _
    rw [heardBy_toSession, heardBy_secret, one, fresh, upstreamSame, noUpstream, first]
    exact ⟨upstream, by simpa [Accepted] using accepted, rfl⟩
  · rw [upstreamSame, noUpstream]
    exact List.nil_prefix
  · rw [heardBy_toSession, one]
    exact fun _ => ⟨by simpa [Accepted] using accepted, by simp⟩
  · exact .inl (clientSame.trans noClient)
  · intro other
    cases phase.symm.trans other
  · rw [same, clientSame]
    exact side.gateway
  · rw [same, clientSame]
    exact fun now => side.flowing (opened_stays side.connected later now)
  · exact connected_stays side.connected later

theorem leased_announced {ch : Channel Frame} (side : Leased session d l) (clean : Accepted session d → l'.Clean)
    (later : l.client.rank ≤ l'.client.rank) (connecting : l.phase = .connecting) (phase : l'.phase = .relaying)
    (upstream : l'.upstream.isSome = l.upstream.isSome) (log : l'.log = .toClient .authenticated :: l.log)
    (one : ch.received = d.toSession.received) : Leased session (heardBy d ch l l') l' := by
  obtain ⟨noUpstream, noClient⟩ := side.silent (.inr connecting)
  obtain ⟨dialled, accepted, received⟩ := side.dialled (.inl connecting)
  obtain ⟨upstreamSame, clientNew⟩ := Supervisor.sent_client log
  have told : l'.sentClient = [.authenticated] := by rw [clientNew, noClient]; rfl
  refine leased_relaying clean phase (upstream.trans dialled) accepted ?_ ⟨[], told⟩ ?_ ?_
    (connected_stays side.connected later)
  · rw [one, received, upstreamSame]
  · by_cases open_ : l.client = .opened
    · exact .inr (heardBy_flowing side ch clientNew open_)
    · left
      rw [heardBy_closed ch open_]
      rcases side.gateway with none | none
      · exact none
      · rw [none, noClient]
        rfl
  · exact fun now => heardBy_flowing side ch clientNew (opened_stays side.connected later now)

theorem leased_forwarded {frame : Frame} {ch : Channel Frame} (side : Leased session d l)
    (clean : Accepted session d → l'.Clean) (later : l.client.rank ≤ l'.client.rank)
    (relaying : l.phase = .relaying) (phase : l'.phase = .relaying)
    (upstream : l'.upstream.isSome = l.upstream.isSome) (log : l'.log = .toUpstream frame :: .received frame :: l.log)
    (one : ch.received = d.toSession.received ++ [frame]) : Leased session (heardBy d ch l l') l' := by
  obtain ⟨dialled, accepted, received⟩ := side.dialled (.inr relaying)
  obtain ⟨upstreamNew, clientSame⟩ := Supervisor.sent_upstream (received_silent frame)
    (show l'.log = .toUpstream frame :: ([.received frame] ++ l.log) from log)
  have same := heardBy_idle (d := d) ch clientSame
  refine leased_relaying clean phase (upstream.trans dialled) accepted ?_ ?_ ?_ ?_
    (connected_stays side.connected later)
  · rw [one, received, upstreamNew]
    rfl
  · rw [clientSame]
    exact side.announced.resolve_left (side.told relaying)
  · rw [same, clientSame]
    exact side.gateway
  · rw [same, clientSame]
    exact fun now => side.flowing (opened_stays side.connected later now)

theorem leased_relayed {frame : Frame} {ch : Channel Frame} (side : Leased session d l)
    (clean : Accepted session d → l'.Clean) (later : l.client.rank ≤ l'.client.rank) (open_ : l.client = .opened)
    (relaying : l.phase = .relaying) (phase : l'.phase = .relaying)
    (upstream : l'.upstream.isSome = l.upstream.isSome) (log : l'.log = .toClient (.relayed frame) :: l.log)
    (one : ch.received = d.toSession.received) : Leased session (heardBy d ch l l') l' := by
  obtain ⟨dialled, accepted, received⟩ := side.dialled (.inr relaying)
  obtain ⟨upstreamSame, clientNew⟩ := Supervisor.sent_client log
  have told := heardBy_flowing side ch clientNew open_
  refine leased_relaying clean phase (upstream.trans dialled) accepted ?_ ?_ (.inr told) (fun _ => told)
    (connected_stays side.connected later)
  · rw [one, received, upstreamSame]
  · obtain ⟨frames, before⟩ := side.announced.resolve_left (side.told relaying)
    refine ⟨frames ++ [frame], ?_⟩
    rw [clientNew, before, List.map_append]
    rfl

/-- An event that is not answered: a frame among them came to a lease that is closed. -/
theorem leased_kept {e : LeaseEvent} {ch : Channel Frame} (side : Leased session d l)
    (clean : Accepted session d → l'.Clean) (later : l.client.rank ≤ l'.client.rank) (same : l'.phase = l.phase)
    (upstream : l'.upstream.isSome = l.upstream.isSome)
    (late : e.heard ≠ [] → l.phase = .closed ∨ l.phase = .relaying ∧ l.upstream = none)
    (log : l'.log = e.heard ++ l.log) (taken : ch.received = d.toSession.received ++ e.frames .client) :
    Leased session (heardBy d ch l l') l' := by
  refine leased_quiet side clean ?_ upstream (Supervisor.sent_silent (Supervisor.heard_silent e) log)
    ⟨_, taken⟩ later
  by_cases quiet : e.heard = []
  · right
    rw [Supervisor.frames_client_nil quiet, List.append_nil] at taken
    exact ⟨same, taken⟩
  · rcases late quiet with closed | ⟨relaying, none⟩
    · exact .inl (same.trans closed)
    · have dialled := (side.dialled (.inr relaying)).1
      rw [none] at dialled
      cases dialled

/-- **One event of a lease** whose client is a `connect` of the gateway. -/
theorem leased_listen {e : LeaseEvent} {ch : Channel Frame}
    (ends : Ends cfg session d (some (.leased l))) (h : l.listen session e = some l')
    (taken : ch.received = d.toSession.received ++ e.frames .client) (sent : ch.sent = d.toSession.sent) :
    Leased session (heardBy d ch l l') l' := by
  have side : Leased session d l := ends.session
  have later := Supervisor.listen_later h
  have clean : Accepted session d → l'.Clean := by
    intro accepted
    apply Supervisor.listen_clean h (side.clean accepted)
    rintro frame bufferedAmount rfl
    have one : ch.received = d.toSession.received ++ [frame] := taken
    constructor
    · intro waiting
      rw [waiting_first ends.gateway.opening (side.waiting waiting) sent one]
      exact accepted
    · exact fun connecting => connecting_idle ends connecting sent one
  cases Supervisor.listen_carries h with
  | opened is waiting presented phase upstream log =>
    subst is
    exact leased_opened ends clean later waiting presented phase upstream log taken sent
  | announced is connecting phase upstream log =>
    subst is
    exact leased_announced side clean later connecting phase upstream log (taken.trans (List.append_nil _))
  | forwarded is relaying phase upstream log =>
    subst is
    exact leased_forwarded side clean later relaying phase upstream log taken
  | relayed is relaying phase upstream log =>
    subst is
    exact leased_relayed side clean later (relayed_open h relaying phase) relaying phase upstream log
      (taken.trans (List.append_nil _))
  | shut closed upstream silent log =>
    exact leased_quiet side clean (.inl closed) upstream ((Supervisor.sent_shut silent log)) ⟨_, taken⟩ later
  | kept same upstream late _ log => exact leased_kept side clean later same upstream late log taken

theorem gatewaySide_same (side : GatewaySide cfg d) (secret : d'.secret = d.secret)
    (connect : d'.connect = d.connect) (toSession : d'.toSession.sent = d.toSession.sent)
    (toGateway : d'.toGateway.received = d.toGateway.received) : GatewaySide cfg d' := by
  refine ⟨?_, ?_, secret ▸ side.credential, ?_, ?_⟩
  · rw [secret, connect]
    exact side.reached
  · rw [secret, connect]
    exact side.secret
  · rw [connect, toGateway]
    exact side.heard
  · cases side.opening with
    | unsent none silent => exact .unsent (toSession.trans none) (connect ▸ silent)
    | sent handed all resolved passed =>
      refine .sent handed (toSession.trans (all.trans (by rw [secret]))) ?_ (connect ▸ passed)
      rw [connect]
      exact resolved

theorem hear_same (d : Dial) (peer : Option Peer) : d.hear peer peer = d := by
  cases peer with
  | none => rfl
  | some peer =>
    cases peer with
    | refused client => rfl
    | leased l =>
      simp only [Dial.hear, List.drop_length, List.map_nil, Channel.put_nil]
      exact ite_self d

theorem leased_initial (fresh : d.toSession.received = [] ∧ d.toGateway.sent = []) :
    Leased session d .initial where
  clean := fun _ _ _ mem => absurd mem List.not_mem_nil
  waiting := fun _ => fresh.1
  silent := fun _ => ⟨rfl, rfl⟩
  dialled := by rintro (phase | phase) <;> cases phase
  upstream := List.nil_prefix
  accepted := by rintro (told | told) <;> exact absurd rfl told
  announced := .inl rfl
  told := by rintro ⟨⟩
  gateway := .inl fresh.2
  flowing := fun _ => fresh.2
  connected := by decide

/-- `close` of the proxy leaves phases and logs as they are. -/
theorem leased_terminate (active : Bool) {l' : Lease} (side : Leased session d l)
    (h : Supervisor.Peer.terminate active (.leased l) = .leased l') :
    Leased session d l' ∧ l'.sentClient = l.sentClient := by
  cases h
  have closing : Foundation.terminateSocket l.client ≠ .opened ∧
      Foundation.terminateSocket l.client ≠ .connecting := by cases l.client <;> decide
  refine ⟨⟨side.clean, side.waiting, side.silent, ?_, side.upstream, side.accepted, side.announced,
    side.told, side.gateway, fun now => absurd now closing.1, closing.2⟩, rfl⟩
  intro open_
  obtain ⟨upstream, rest⟩ := side.dialled open_
  refine ⟨?_, rest⟩
  show (if active = true then _ else l.upstream).isSome = true
  split
  · rw [Option.isSome_map]
    exact upstream
  · exact upstream

/-- **One event of the proxy** and a dialled connection, whose client sent `ch` so far. -/
theorem ends_hear {p : Proxy} {e : ProxyEvent} {c : Nat} {peer' : Option Peer} (ch : Channel Frame)
    (ends : Ends cfg session d peer) (step : Supervisor.PeerStep session p e c peer peer')
    (taken : ∀ event, e = .lease c event → ch.received = d.toSession.received ++ event.frames .client)
    (sent : ch.sent = d.toSession.sent) (other : (∀ event, e ≠ .lease c event) → ch = d.toSession)
    (unleased : (∀ l, peer ≠ some (.leased l)) → ch = d.toSession) :
    Ends cfg session (Dial.hear { d with toSession := ch } peer peer') peer' := by
  have side := ends.session
  cases step with
  | kept _ quiet =>
    rw [hear_same, other quiet]
    exact ends
  | accepted =>
    have idle := unleased (by simp)
    subst idle
    exact ⟨ends.gateway, leased_initial side⟩
  | refused | moved =>
    have idle := unleased (by simp)
    subst idle
    exact ⟨ends.gateway, side⟩
  | @listened event l l' is listen =>
    refine ⟨?_, leased_listen ends listen (taken event is) sent⟩
    apply gatewaySide_same ends.gateway
    · exact heardBy_secret d ch l l'
    · exact heardBy_connect d ch l l'
    · exact (congrArg Channel.sent (heardBy_toSession d ch l l')).trans sent
    · exact heardBy_received d ch l l'
  | terminated close after =>
    have idle := other (by rw [close]; simp)
    subst idle
    subst after
    cases peer with
    | none => exact ⟨ends.gateway, side⟩
    | some peer =>
      cases peer with
      | refused client => exact ⟨ends.gateway, side⟩
      | leased l =>
        obtain ⟨leased, same⟩ := leased_terminate (decide (p.activeLease = some c)) side rfl
        have quiet : Dial.hear d (some (.leased l))
            ((some (Peer.leased l)).map (Supervisor.Peer.terminate (p.activeLease = some c))) = d := by
          simp only [Option.map_some, Supervisor.Peer.terminate, Dial.hear]
          split
          · have none := congrArg (List.drop l.sentClient.length) same
            rw [List.drop_length] at none
            simp only [Lease.sentClient] at none ⊢
            rw [none]
            simp
          · rfl
        rw [quiet]
        exact ⟨ends.gateway, leased⟩

end

/-! ## Every run -/

def LinkWf (cfg : ConnectorConfig) (session : ProxyConfig) (s : Link) : Prop :=
  ∀ c d, s.dials.get c = some d → Ends cfg session d (s.proxy.peers.get c)

section
variable {cfg : ConnectorConfig} {session : ProxyConfig} {s t : Link}

theorem link_step {e : ProxyEvent} (h : s.step session e = some t) :
    Supervisor.proxyStep session s.proxy e = some t.proxy ∧ ∀ c,
      t.dials.get c = (s.dials.get c).map fun d => d.hear (s.proxy.peers.get c) (t.proxy.peers.get c) := by
  obtain ⟨proxy, step, rfl⟩ := Option.map_eq_some_iff.mp h
  exact ⟨step, fun c => JsMap.get_mapValues ..⟩

/-- Setting one dial leaves the others. -/
theorem linkWf_set {c : Nat} {d : Dial} (wf : LinkWf cfg session s)
    (ends : Ends cfg session d (s.proxy.peers.get c)) :
    LinkWf cfg session { s with dials := s.dials.set c d } := by
  intro c' d' dialled
  by_cases same : c = c'
  · subst same
    rw [JsMap.get_set_self] at dialled
    cases dialled
    exact ends
  · rw [JsMap.get_set_ne same] at dialled
    exact wf c' d' dialled

theorem connect_start {runtime : RuntimeResource} {start : Connect}
    (h : connect cfg runtime false = .ok start) :
    start = .start runtime.signalingSecret ∧ isCredential runtime.signalingSecret = true := by
  unfold connect validateTarget at h
  split at h
  · cases h
  · rename_i endpoint _
    split at h
    · cases h
    · rename_i good
      simp only [not_or, Bool.not_eq_false] at good
      cases h
      exact ⟨rfl, good.2.2.2.2.2.2⟩

theorem linkWf_dial {c : Nat} {runtime : RuntimeResource} {start : Connect} (wf : LinkWf cfg session s)
    (free : s.proxy.peers.get c = none) (called : connect cfg runtime false = .ok start) :
    LinkWf cfg session
      { s with dials := s.dials.set c ⟨runtime.signalingSecret, start, .empty, .empty⟩ } := by
  obtain ⟨rfl, credential⟩ := connect_start called
  apply linkWf_set wf
  rw [free]
  exact ⟨⟨.refl, rfl, credential, rfl, .unsent rfl rfl⟩, rfl, rfl⟩

theorem linkWf_react {c : Nat} {d d' : Dial} {e : ConnectEvent} (ch : Channel Frame)
    (wf : LinkWf cfg session s) (dialled : s.dials.get c = some d)
    (h : ({ d with toGateway := ch } : Dial).react cfg e = some d')
    (taken : ch.received = d.toGateway.received ++ e.frame?.toList) (sent : ch.sent = d.toGateway.sent) :
    LinkWf cfg session { s with dials := s.dials.set c d' } := by
  have ends := wf c d dialled
  apply linkWf_set wf
  obtain ⟨secret, toGateway, toSession, -⟩ := react_channels h
  refine ⟨gateway_react ends.gateway h taken, sessionSide_same ends.session secret toSession ?_⟩
  rw [toGateway]
  exact sent

theorem linkWf_send {c : Nat} {d : Dial} {frame : Frame} (wf : LinkWf cfg session s)
    (dialled : s.dials.get c = some d) (authenticated : d.connect.authenticated = true) :
    LinkWf cfg session { s with dials := s.dials.set c { d with toSession := d.toSession.put [frame] } } := by
  have ends := wf c d dialled
  apply linkWf_set wf
  refine ⟨⟨ends.gateway.reached, ends.gateway.secret, ends.gateway.credential,
    ends.gateway.heard, ?_⟩, sessionSide_same ends.session rfl Channel.put_received rfl⟩
  obtain ⟨l, -, -, -, taken⟩ := resolved_served ends authenticated
  cases ends.gateway.opening with
  | unsent none =>
    have whole := Channel.received_isPrefix d.toSession
    rw [none, List.prefix_nil] at whole
    exact absurd whole taken
  | sent handed all resolved passed =>
    refine .sent (handed ++ [frame]) ?_ (fun _ => authenticated) passed
    show d.toSession.sent ++ [frame] = _
    rw [all]
    rfl

/-- A lease that hears an event is there. -/
theorem leased_of_listens {p p' : Proxy} {c : Nat} {event : LeaseEvent}
    (h : Supervisor.proxyStep session p (.lease c event) = some p') :
    ∃ l, p.peers.get c = some (.leased l) := by
  simp only [Supervisor.proxyStep] at h
  split at h
  · exact ⟨_, by assumption⟩
  · cases h

theorem linkWf_deliver {c bufferedAmount : Nat} {d : Dial} {frame : Frame} {ch : Channel Frame}
    (wf : LinkWf cfg session s) (dialled : s.dials.get c = some d)
    (took : d.toSession.take? = some (frame, ch))
    (h : Link.step session { s with dials := s.dials.set c { d with toSession := ch } }
      (.lease c (.clientFrame frame bufferedAmount)) = some t) : LinkWf cfg session t := by
  obtain ⟨step, dials⟩ := link_step h
  intro c' d' dialled'
  rw [dials] at dialled'
  by_cases same : c = c'
  · subst same
    rw [JsMap.get_set_self] at dialled'
    cases dialled'
    obtain ⟨l, leased⟩ := leased_of_listens step
    apply ends_hear ch (wf c d dialled) (Supervisor.peer_step step c)
    · intro event is
      cases is
      exact Channel.take?_received took
    · exact Channel.take?_sent took
    · exact fun none => absurd rfl (none _)
    · exact fun none => absurd leased (none l)
  · rw [JsMap.get_set_ne same] at dialled'
    obtain ⟨d₁, dialled₁, rfl⟩ := Option.map_eq_some_iff.mp dialled'
    apply ends_hear d₁.toSession (wf c' d₁ dialled₁) (Supervisor.peer_step step c')
    · intro event is
      cases is
      exact absurd rfl same
    · rfl
    · exact fun _ => rfl
    · exact fun _ => rfl

theorem linkWf_proxy {e : ProxyEvent} (wf : LinkWf cfg session s) (strange : s.strange e = true)
    (h : s.step session e = some t) : LinkWf cfg session t := by
  obtain ⟨step, dials⟩ := link_step h
  intro c d dialled
  rw [dials] at dialled
  obtain ⟨d₁, dialled₁, rfl⟩ := Option.map_eq_some_iff.mp dialled
  apply ends_hear d₁.toSession (wf c d₁ dialled₁) (Supervisor.peer_step step c)
  · rintro event rfl
    cases event with
    | clientFrame frame bufferedAmount =>
      have known : s.dials.has c = true := JsMap.has_iff.mpr ⟨d₁, dialled₁⟩
      simp [Link.strange, known] at strange
    | _ => exact (List.append_nil _).symm
  · rfl
  · exact fun _ => rfl
  · exact fun _ => rfl

theorem ends_step {e : LinkEvent} (wf : LinkWf cfg session s) (h : linkStep cfg session s e = some t) :
    LinkWf cfg session t := by
  cases e with
  | dial c runtime =>
    simp only [linkStep] at h
    split at h
    · cases h
    · rename_i free
      split at h
      · rename_i start called
        cases h
        apply linkWf_dial wf _ called
        cases hc : s.proxy.peers.get c with
        | none => rfl
        | some peer => exact absurd (.inr (JsMap.has_iff.mpr ⟨peer, hc⟩)) free
      · cases h
  | connector c e =>
    simp only [linkStep] at h
    split at h
    · cases h
    · rename_i d dialled
      have quiet : e.frame? = none → ∀ d', d.react cfg e = some d' →
          t = { s with dials := s.dials.set c d' } → LinkWf cfg session t := by
        intro none d' react after
        subst after
        exact linkWf_react d.toGateway wf dialled react (by rw [none]; simp) rfl
      cases e with
      | message frame => cases h
      | opened =>
        simp only at h
        split at h
        · obtain ⟨d', react, rfl⟩ := Option.map_eq_some_iff.mp h
          exact quiet rfl d' react rfl
        · cases h
      | _ =>
        obtain ⟨d', react, rfl⟩ := Option.map_eq_some_iff.mp h
        exact quiet rfl d' react rfl
  | send c frame =>
    simp only [linkStep] at h
    split at h
    · cases h
    · rename_i d dialled
      split at h
      · rename_i ready
        cases h
        exact linkWf_send wf dialled ready.1
      · cases h
  | toSession c bufferedAmount =>
    simp only [linkStep] at h
    split at h
    · cases h
    · rename_i d dialled
      split at h
      · cases h
      · rename_i took
        exact linkWf_deliver wf dialled took h
  | toGateway c =>
    simp only [linkStep] at h
    split at h
    · cases h
    · rename_i d dialled
      split at h
      · cases h
      · rename_i took
        obtain ⟨d', react, rfl⟩ := Option.map_eq_some_iff.mp h
        exact linkWf_react _ wf dialled react (Channel.take?_received took) (Channel.take?_sent took)
  | proxy e =>
    simp only [linkStep] at h
    split at h
    · rename_i strange
      exact linkWf_proxy wf strange h
    · cases h

theorem link_wf (reached : (link cfg session).Reachable (fun _ _ => True) s) : LinkWf cfg session s := by
  apply Machine.Reachable.invariant (I := LinkWf cfg session) reached
  · intro c d dialled
    cases dialled
  · exact fun s e t _ wf _ h => ends_step wf h

end

end Fireball.Signaling
