import Fireball.Foundation.Json
import Fireball.Foundation.Machine
import Fireball.Foundation.WebSocket
import Fireball.Session.Types
import Fireball.Signaling.Registry

/-!
# `SignalingGateway`

`src/signaling/signaling-gateway.ts` as a machine over any number of client
connections and one registry. `handle` and each of its listeners run to their end
in one step; `connectUpstream` is cut at its two awaits. The variables that one
call of `handle` shares between its closures are the fields of `Relay`, and each
call of `connectUpstream` is one `Attempt`.

The environment decides how a pending authorization or connection settles, what
a peer sends and how full its send buffer is.
-/

namespace Fireball.Signaling

open Foundation Session

inductive RelayPhase
  | authenticating | connecting | relaying | closed
  deriving DecidableEq, Repr

/-- The closure `() => shutdown(1008, "session ended")` made by one attempt. -/
structure Closer where
  connection : Nat
  attempt : Nat
  deriving DecidableEq, Repr

/-- Where a call of `connectUpstream` is. -/
inductive Stage
  /-- At `await this.sessions.authorizeSignalingToken(token)`. -/
  | authorizing
  /-- At `await this.connector.connect(..)`, called with a signal that was
  aborted before or not. -/
  | connecting (authorization : SignalingAuthorization) (refused : Bool)
  /-- Returned, with its handlers on the upstream connection. -/
  | connected (authorization : SignalingAuthorization)
  /-- Returned, with nothing left. -/
  | ended
  deriving DecidableEq, Repr

/-- `socket` is the WebSocket that `connect` made for the attempt. -/
structure Attempt where
  token : String
  stage : Stage
  socket : Option ReadyState
  deriving DecidableEq, Repr

/-- A frame for the client; one relayed from upstream names the session whose
runtime the upstream connection belongs to. -/
inductive ClientMessage
  | ready (sessionId : String)
  | relayed (sessionId : String) (frame : Frame)
  deriving DecidableEq, Repr

/-- What happened on one connection. No code reads it. -/
inductive Action
  | received (frame : Frame)
  | presented (token : String)
  | toClient (message : ClientMessage)
  | toUpstream (attempt : Nat) (frame : Frame)
  | closedClient (code : Nat) (reason : String)
  | closedUpstream (attempt code : Nat) (reason : String)
  deriving DecidableEq, Repr

/-- The variables of one call of `handle`. `closeListener` and `errorListener`
are the client's two `once` listeners. -/
structure Relay where
  phase : RelayPhase
  upstream : Option Nat
  unregister : Option (Handle Closer)
  aborted : Bool
  timer : Bool
  client : ReadyState
  closeListener : Bool
  errorListener : Bool
  attempts : List Attempt
  log : List Action
  deriving DecidableEq

def Relay.initial : Relay where
  phase := .authenticating
  upstream := none
  unregister := none
  aborted := false
  timer := true
  client := .opened
  closeListener := true
  errorListener := true
  attempts := []
  log := []

structure GatewayConfig where
  maximumBufferedBytes : Nat
  /-- `JSON.parse` of the bytes as UTF-8 text, or nothing when it throws. -/
  parseJson : List UInt8 → Option Json

structure Gateway where
  registry : Registry Closer
  relays : JsMap Nat Relay

def Gateway.initial : Gateway := ⟨.empty, .empty⟩

/-! ## Frames -/

def parseAuthenticationFrame (cfg : GatewayConfig) (frame : Frame) : Option String :=
  if frame.isBinary then none
  else match cfg.parseJson frame.data with
    | some (.object fields) =>
      if Json.sortedKeys fields ≠ "token,type" then none
      else match Json.field fields "type", Json.field fields "token" with
        | some (.string type), some (.string token) =>
          if type = "authenticate" ∧ isCredential token then some token else none
        | _, _ => none
    | _ => none

/-- `JSON.stringify({ type: "ready", sessionId })`. -/
def readyText (sessionId : String) : String :=
  "\x7b\"type\":\"ready\",\"sessionId\":" ++ Json.quote sessionId ++ "\x7d"

/-- `rawDataByteLength`. -/
def ClientMessage.byteLength : ClientMessage → Nat
  | ready sessionId => (readyText sessionId).utf8ByteSize
  | relayed _ frame => frame.data.length

/-! ## `shutdown` and `forward` -/

/-- `shutdown`. Its call of `unregister()` is the one effect outside these
variables; `Gateway.run` adds it. -/
def Relay.shutdown (code : Nat) (reason : String) (r : Relay) : Relay :=
  if r.phase = .closed then r
  else
    { r with
      phase := .closed
      timer := false
      aborted := true
      client := closeSocket r.client
      attempts := match r.upstream with
        | none => r.attempts
        | some a => r.attempts.modify a fun t => { t with socket := t.socket.map closeSocket }
      log := (match r.upstream with
          | none => []
          | some a => [.closedUpstream a code reason]) ++ .closedClient code reason :: r.log }

/-- `forward`, with the ready state of its destination. -/
def Relay.forward (cfg : GatewayConfig) (destination : ReadyState) (byteLength bufferedAmount : Nat)
    (send : Action) (r : Relay) : Relay :=
  if destination ≠ .opened then r.shutdown 1011 "relay peer unavailable"
  else if bufferedAmount + byteLength > cfg.maximumBufferedBytes then
    r.shutdown 1013 "relay backpressure limit"
  else { r with log := send :: r.log }

def Relay.forwardToClient (cfg : GatewayConfig) (message : ClientMessage) (bufferedAmount : Nat)
    (r : Relay) : Relay :=
  r.forward cfg r.client message.byteLength bufferedAmount (.toClient message)

def Relay.forwardToUpstream (cfg : GatewayConfig) (a : Nat) (frame : Frame) (bufferedAmount : Nat)
    (r : Relay) : Relay :=
  r.forward cfg ((r.attempts[a]?.bind (·.socket)).getD .closed) frame.data.length bufferedAmount
    (.toUpstream a frame)

/-! ## `connectUpstream` -/

/-- An event of the upstream connection, with the client's `bufferedAmount`. -/
inductive UpstreamEvent
  | message (frame : Frame) (bufferedAmount : Nat)
  | close
  | error

/-- The handlers given to `activate`. -/
def Relay.dispatch (cfg : GatewayConfig) (sessionId : String) (r : Relay) : UpstreamEvent → Relay
  | .message frame bufferedAmount => r.forwardToClient cfg (.relayed sessionId frame) bufferedAmount
  | .close => r.shutdown 1011 "upstream closed"
  | .error => r.shutdown 1011 "upstream failed"

def Relay.setAttempt (r : Relay) (a : Nat) (attempt : Attempt) : Relay :=
  { r with attempts := r.attempts.set a attempt }

/-- `connectUpstream` up to its first await. -/
def Relay.present (token : String) (r : Relay) : Relay :=
  { r with
    attempts := r.attempts ++ [⟨token, .authorizing, none⟩]
    log := .presented token :: r.log }

/-- `connectUpstream` from a rejected authorization to its end. -/
def Relay.authorizationRejected (a : Nat) (token : String) (error : Thrown) (r : Relay) : Relay :=
  let r := r.setAttempt a ⟨token, .ended, none⟩
  match error with
  | .orchestrator _ => r.shutdown 1008 "authentication failed"
  | .other _ => r.shutdown 1011 "authentication unavailable"

/-- `connectUpstream` from an authorization to its second await, with the handle
that `register` returns. It does not look at the phase. -/
def Relay.authorized (a : Nat) (token : String) (authorization : SignalingAuthorization)
    (handle : Handle Closer) (r : Relay) : Relay :=
  { r.setAttempt a ⟨token, .connecting authorization r.aborted,
      if r.aborted then none else some .connecting⟩ with
    phase := .connecting
    timer := false
    unregister := some handle }

/-- What `connect` resolves with: the socket's state and the events that came
before `activate`. -/
structure Connection where
  socket : ReadyState
  bufferedAmount : Nat
  buffered : List UpstreamEvent

/-- `upstream = connected.socket; phase = "relaying"`. -/
def Relay.attach (a : Nat) (token : String) (authorization : SignalingAuthorization)
    (socket : ReadyState) (r : Relay) : Relay :=
  { r.setAttempt a ⟨token, .connected authorization, some socket⟩ with
    phase := .relaying, upstream := some a }

/-- `connectUpstream` after its second await; nothing for a connect that rejected. -/
def Relay.connectSettled (cfg : GatewayConfig) (a : Nat) (token : String)
    (authorization : SignalingAuthorization) (socket : Option ReadyState)
    (result : Option Connection) (r : Relay) : Relay :=
  match result with
  | none =>
    (r.setAttempt a ⟨token, .ended, socket.map fun _ => .closing⟩).shutdown 1011
      "upstream unavailable"
  | some connection =>
    if r.aborted then r.setAttempt a ⟨token, .ended, some .closing⟩
    else
      connection.buffered.foldl (Relay.dispatch cfg authorization.sessionId)
        ((r.attach a token authorization connection.socket).forwardToClient cfg
          (.ready authorization.sessionId) connection.bufferedAmount)

/-! ## The listeners -/

def Relay.clientMessage (cfg : GatewayConfig) (frame : Frame) (bufferedAmount : Nat) (r : Relay) :
    Relay :=
  let r := { r with log := .received frame :: r.log }
  match r.phase with
  | .authenticating => match parseAuthenticationFrame cfg frame with
    | none => r.shutdown 1008 "authentication failed"
    | some token => r.present token
  | .connecting => r.shutdown 1008 "wait for relay readiness"
  | .relaying => match r.upstream with
    | none => r
    | some a => r.forwardToUpstream cfg a frame bufferedAmount
  | .closed => r

inductive RelayEvent
  | clientFrame (frame : Frame) (bufferedAmount : Nat)
  | clientClosed
  | clientFailed
  | clientState (state : ReadyState)
  | timedOut
  /-- The callback of a `send` gets an error. -/
  | sendFailed
  | rejected (a : Nat) (error : Thrown)
  | connected (a : Nat) (result : Option Connection)
  | upstream (a : Nat) (event : UpstreamEvent)
  | upstreamState (a : Nat) (state : ReadyState)

/-- An event on the variables of one connection, when it can happen. -/
def Relay.listen (cfg : GatewayConfig) (r : Relay) : RelayEvent → Option Relay
  | .clientFrame frame bufferedAmount => some (r.clientMessage cfg frame bufferedAmount)
  | .clientClosed =>
    if r.closeListener then
      some ({ r with client := .closed, closeListener := false }.shutdown 1000 "client disconnected")
    else none
  | .clientFailed =>
    if r.errorListener then
      some ({ r with errorListener := false }.shutdown 1011 "client connection failed")
    else none
  | .clientState state =>
    if r.client.rank < state.rank then some { r with client := state } else none
  | .timedOut =>
    if r.timer then some ({ r with timer := false }.shutdown 1008 "authentication timeout") else none
  | .sendFailed => some (r.shutdown 1011 "relay write failed")
  | .rejected a error => match r.attempts[a]? with
    | some ⟨token, .authorizing, _⟩ => some (r.authorizationRejected a token error)
    | _ => none
  | .connected a result => match r.attempts[a]? with
    | some ⟨token, .connecting authorization refused, socket⟩ =>
      -- `connect` throws when the signal is aborted at the call
      if refused ∧ result.isSome then none
      else some (r.connectSettled cfg a token authorization socket result)
    | _ => none
  | .upstream a event => match r.attempts[a]? with
    | some ⟨_, .connected authorization, _⟩ => some (r.dispatch cfg authorization.sessionId event)
    | _ => none
  | .upstreamState a state => match r.attempts[a]? with
    | some ⟨token, stage, some socket⟩ =>
      if socket.rank < state.rank then some (r.setAttempt a ⟨token, stage, some state⟩) else none
    | _ => none

/-! ## The machine -/

/-- A listener of connection `c` turned `r` into `r'`. When that shut the relay
down, `unregister()` was called. -/
def Gateway.run (g : Gateway) (c : Nat) (r r' : Relay) : Gateway where
  registry := if r.phase ≠ .closed ∧ r'.phase = .closed then
      match r.unregister with
      | none => g.registry
      | some handle => g.registry.unregister handle
    else g.registry
  relays := g.relays.set c r'

/-- Call a closer. -/
def Gateway.close (g : Gateway) (closer : Closer) : Gateway :=
  match g.relays.get closer.connection with
  | none => g
  | some r => g.run closer.connection r (r.shutdown 1008 "session ended")

/-- One turn of the loop in `revoke`. Closers take themselves out of the set
while the loop goes through it, and one that is no longer in it is skipped. -/
def Gateway.closeMember (ref : Nat) (g : Gateway) (closer : Closer) : Gateway :=
  if (g.registry.members ref).has closer then g.close closer else g

/-- `SignalingConnectionRegistry.revoke`. -/
def Gateway.revoke (g : Gateway) (sessionId : String) : Gateway :=
  match g.registry.connections.get sessionId with
  | none => g
  | some ref =>
    (g.registry.members ref).keys.foldl (Gateway.closeMember ref)
      { g with registry := g.registry.detach sessionId }

/-- `register` for attempt `a` of connection `c`, whose authorization has settled. -/
def Gateway.join (g : Gateway) (c : Nat) (r : Relay) (a : Nat) (token : String)
    (authorization : SignalingAuthorization) : Gateway :=
  let (registry, handle) := g.registry.register authorization.sessionId ⟨c, a⟩
  { registry := registry
    relays := g.relays.set c (r.authorized a token authorization handle) }

inductive GatewayEvent
  /-- `handle` is given an open client. -/
  | accepted (c : Nat)
  | relay (c : Nat) (event : RelayEvent)
  | authorized (c a : Nat) (authorization : SignalingAuthorization)
  | revoked (sessionId : String)

def gatewayStep (cfg : GatewayConfig) (g : Gateway) : GatewayEvent → Option Gateway
  | .accepted c => match g.relays.get c with
    | none => some { g with relays := g.relays.set c .initial }
    | some _ => none
  | .relay c event => (g.relays.get c).bind fun r => (r.listen cfg event).map (g.run c r)
  | .authorized c a authorization => (g.relays.get c).bind fun r => match r.attempts[a]? with
    | some ⟨token, .authorizing, _⟩ => some (g.join c r a token authorization)
    | _ => none
  | .revoked sessionId => some (g.revoke sessionId)

def gateway (cfg : GatewayConfig) : Machine Gateway GatewayEvent := ⟨.initial, gatewayStep cfg⟩

end Fireball.Signaling
