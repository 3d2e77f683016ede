import Fireball.Foundation.Channel
import Fireball.Signaling.Handoff
import Fireball.Supervisor.Forwarding

/-!
# The internal signaling connection

Calls of `connect` on the gateway's side and the proxy on the session's, joined by the
frames on their way between the two sockets of each connection. Frames of one direction
arrive in order, at any time or never; every other event of either side stays free.
A connection that no `connect` has made is a stranger's, who sends what he likes.
-/

namespace Fireball.Signaling

open Foundation Session
open Supervisor (Proxy ProxyConfig ProxyEvent ControllerMessage Peer Lease)

/-! ## The frames of the handshake -/

/-- `JSON.stringify({ type: "authenticated" })`. -/
def authenticatedText : String := "\x7b\"type\":\"authenticated\"\x7d"

def openingFrame (secret : String) : Frame := ⟨utf8 (authenticationText secret), false⟩

/-- The frame that the client is sent. -/
def messageFrame : ControllerMessage → Frame
  | .authenticated => ⟨utf8 authenticatedText, false⟩
  | .relayed frame => frame

/-- `JSON.parse` reads the two frames as `JSON.stringify` wrote them. -/
structure ReadsFrames (cfg : ConnectorConfig) (session : ProxyConfig) : Prop where
  authentication : ∀ secret, isCredential secret = true →
    session.parseJson (openingFrame secret).data =
      some (.object [("type", .string "authenticate"), ("secret", .string secret)])
  authenticated : cfg.parseJson (messageFrame .authenticated).data =
    some (.object [("type", .string "authenticated")])

/-! ## The two sides -/

/-- One call of `connect`, and the frames between its socket and the proxy's. -/
structure Dial where
  secret : String
  connect : Connect
  toSession : Channel Frame
  toGateway : Channel Frame

structure Link where
  proxy : Proxy
  dials : JsMap Nat Dial

inductive LinkEvent
  /-- `connect` creates the socket of connection `c`. -/
  | dial (c : Nat) (runtime : RuntimeResource)
  | connector (c : Nat) (e : ConnectEvent)
  /-- The gateway sends a frame of its client on the socket it was given. -/
  | send (c : Nat) (frame : Frame)
  /-- The next frame reaches the proxy, which finds this `bufferedAmount`. -/
  | toSession (c : Nat) (bufferedAmount : Nat)
  | toGateway (c : Nat)
  | proxy (e : ProxyEvent)

def ConnectAction.frame? : ConnectAction → Option Frame
  | .sent text => some ⟨utf8 text, false⟩
  | _ => none

/-- The frames that `connect` has sent, oldest first. -/
def Connect.sentFrames (s : Connect) : List Frame := s.log.reverse.filterMap ConnectAction.frame?

namespace Dial

def react (cfg : ConnectorConfig) (d : Dial) (e : ConnectEvent) : Option Dial :=
  (connectStep cfg d.connect e).map fun connect =>
    { d with
      connect
      toSession := d.toSession.put (connect.sentFrames.drop d.connect.sentFrames.length) }

/-- A listener of the proxy sends on the client's socket while that is open. -/
def hear (d : Dial) (before after : Option Peer) : Dial :=
  match before, after with
  | some (.leased l), some (.leased l') =>
    if l.client = .opened then
      { d with
        toGateway := d.toGateway.put
          ((l'.sentClient.drop l.sentClient.length).map messageFrame) }
    else d
  | _, _ => d

end Dial

namespace Link

def step (session : ProxyConfig) (s : Link) (e : ProxyEvent) : Option Link :=
  (Supervisor.proxyStep session s.proxy e).map fun proxy =>
    ⟨proxy, s.dials.mapValues fun c d => d.hear (s.proxy.peers.get c) (proxy.peers.get c)⟩

/-- The client of a dialled connection sends only what is on its way. -/
def strange (s : Link) : ProxyEvent → Bool
  | .lease c (.clientFrame _ _) => !s.dials.has c
  | _ => true

end Link

def linkStep (cfg : ConnectorConfig) (session : ProxyConfig) (s : Link) : LinkEvent → Option Link
  | .dial c runtime =>
    if s.dials.has c ∨ s.proxy.peers.has c then none
    else match connect cfg runtime false with
      | .ok start =>
        some { s with dials := s.dials.set c ⟨runtime.signalingSecret, start, .empty, .empty⟩ }
      | .error _ => none
  | .connector c e => match s.dials.get c with
    | none => none
    | some d => match e with
      | .message _ => none
      | .opened =>
        if s.proxy.peers.has c then
          (d.react cfg .opened).map fun d => { s with dials := s.dials.set c d }
        else none
      | e => (d.react cfg e).map fun d => { s with dials := s.dials.set c d }
  | .send c frame => match s.dials.get c with
    | none => none
    | some d =>
      if d.connect.authenticated ∧ d.connect.socket = .opened then
        some { s with dials := s.dials.set c { d with toSession := d.toSession.put [frame] } }
      else none
  | .toSession c bufferedAmount => match s.dials.get c with
    | none => none
    | some d => match d.toSession.take? with
      | none => none
      | some (frame, toSession) =>
        Link.step session { s with dials := s.dials.set c { d with toSession } }
          (.lease c (.clientFrame frame bufferedAmount))
  | .toGateway c => match s.dials.get c with
    | none => none
    | some d => match d.toGateway.take? with
      | none => none
      | some (frame, toGateway) =>
        ({ d with toGateway } : Dial).react cfg (.message frame) |>.map fun d =>
          { s with dials := s.dials.set c d }
  | .proxy e => if s.strange e then s.step session e else none

def link (cfg : ConnectorConfig) (session : ProxyConfig) : Machine Link LinkEvent :=
  ⟨⟨.initial, .empty⟩, linkStep cfg session⟩

end Fireball.Signaling
