import Fireball.Foundation.Json
import Fireball.Foundation.Machine
import Fireball.Foundation.Url
import Fireball.Foundation.WebSocket
import Fireball.Session.Types

/-!
# `WebSocketSignalingConnector`

`src/signaling/upstream-connector.ts`: one call of `connect` from the creation of
its WebSocket on, as a machine over the events of that socket, of the timer and of
the abort signal. Every listener runs to its end in one step.

A socket that is terminated while it is connecting emits one more `error` before
its `close`. `events` records what has happened, newest first; no code reads it.
-/

namespace Fireball.Signaling

open Foundation Session

structure ConnectorConfig where
  maxPayloadBytes : Nat
  /-- `JSON.parse` of the bytes as UTF-8 text, or nothing when it throws. -/
  parseJson : List UInt8 → Option Json
  /-- `new URL(text)`, or nothing when it throws. -/
  parseUrl : String → Option Url

def signalingUnavailable : Thrown :=
  .orchestrator ⟨.signalingUnavailable, "internal signaling channel is unavailable", 503⟩

def validateTarget (cfg : ConnectorConfig) (runtime : RuntimeResource) : Except Thrown Unit :=
  match cfg.parseUrl runtime.signalingEndpoint with
  | none => .error signalingUnavailable
  | some endpoint =>
    if endpoint.protocol ≠ "ws:" ∨ endpoint.username ≠ "" ∨ endpoint.password ≠ "" ∨
        endpoint.pathname ≠ "/internal/v1/signaling" ∨ endpoint.search ≠ "" ∨
        endpoint.hash ≠ "" ∨ isCredential runtime.signalingSecret = false then
      .error signalingUnavailable
    else .ok ()

def isAuthenticatedFrame (cfg : ConnectorConfig) (data : List UInt8) : Bool :=
  match cfg.parseJson data with
  | some (.object fields) => fields.length = 1 && match Json.field fields "type" with
    | some (.string type) => type = "authenticated"
    | _ => false
  | _ => false

/-- `JSON.stringify({ type: "authenticate", secret })`. -/
def authenticationText (secret : String) : String :=
  "\x7b\"type\":\"authenticate\",\"secret\":" ++ Json.quote secret ++ "\x7d"

/-! ## One call of `connect` -/

/-- `BufferedSignalingEvent`, also the call of the handler it is dispatched to. -/
inductive SignalingEvent
  | message (frame : Frame)
  | close
  | error
  deriving DecidableEq, Repr

inductive ConnectEvent
  | opened
  | message (frame : Frame)
  | error
  /-- The peer starts the closing handshake. -/
  | closing
  | closed
  | unexpectedResponse
  | aborted
  | timedOut
  /-- The callback of the authentication frame's `send` gets an error. -/
  | sendFailed
  /-- The caller of `connect` calls `activate`. -/
  | activated
  deriving DecidableEq, Repr

/-- What one call of `connect` does to the outside. -/
inductive ConnectAction
  | sent (text : String)
  | terminated
  | resolved
  | rejected (error : Thrown)
  | called (event : SignalingEvent)
  /-- An `error` event found no listener. -/
  | unheard
  deriving DecidableEq, Repr

/-- The listeners that are attached to the socket and to the signal. -/
structure Listeners where
  abort : Bool
  opened : Bool
  message : Bool
  error : Bool
  close : Bool
  unexpectedResponse : Bool
  deriving DecidableEq, Repr

structure Connect where
  secret : String
  socket : ReadyState
  /-- An `error` is due because the handshake was cut off. -/
  errorDue : Bool
  settled : Bool
  authenticated : Bool
  activated : Bool
  bufferedEvents : List SignalingEvent
  bufferedBytes : Nat
  timer : Bool
  /-- The callback of the authentication frame's `send` is still to come. -/
  sending : Bool
  listeners : Listeners
  log : List ConnectAction
  events : List ConnectEvent
  deriving DecidableEq, Repr

def Connect.start (secret : String) : Connect where
  secret := secret
  socket := .connecting
  errorDue := false
  settled := false
  authenticated := false
  activated := false
  bufferedEvents := []
  bufferedBytes := 0
  timer := true
  sending := false
  listeners := ⟨true, true, true, true, true, true⟩
  log := []
  events := []

/-- `connect` up to the end of its promise's executor. -/
def connect (cfg : ConnectorConfig) (runtime : RuntimeResource) (aborted : Bool) :
    Except Thrown Connect := do
  validateTarget cfg runtime
  if aborted then throw signalingUnavailable
  return .start runtime.signalingSecret

namespace Connect

def act (action : ConnectAction) (s : Connect) : Connect := { s with log := action :: s.log }

/-- `socket.terminate()`. -/
def terminate (s : Connect) : Connect :=
  act .terminated <| match s.socket with
    | .connecting => { s with socket := .closing, errorDue := true }
    | .opened => { s with socket := .closing }
    | _ => s

def cleanupHandshake (s : Connect) : Connect :=
  { s with
    timer := false
    listeners := { s.listeners with abort := false, opened := false, unexpectedResponse := false } }

def fail (s : Connect) : Connect :=
  if s.settled then s
  else
    let s := { s with settled := true }.cleanupHandshake
    let s := { s with
      listeners := { s.listeners with message := false, error := false, close := false } }
    s.terminate.act (.rejected signalingUnavailable)

def onOpen (s : Connect) : Connect :=
  { s with sending := true }.act (.sent (authenticationText s.secret))

/-- A frame that arrives after the authenticated one and before `activate`. -/
def buffer (cfg : ConnectorConfig) (frame : Frame) (s : Connect) : Connect :=
  if s.bufferedEvents.length ≥ 16 ∨
      s.bufferedBytes + frame.data.length > cfg.maxPayloadBytes * 4 then
    ({ s with bufferedEvents := s.bufferedEvents ++ [.error] } : Connect).terminate
  else
    { s with
      bufferedBytes := s.bufferedBytes + frame.data.length
      bufferedEvents := s.bufferedEvents ++ [.message frame] }

def onMessage (cfg : ConnectorConfig) (frame : Frame) (s : Connect) : Connect :=
  if s.authenticated = false then
    if frame.isBinary ∨ isAuthenticatedFrame cfg frame.data = false then s.fail
    else if s.settled then s
    else { s with authenticated := true, settled := true }.cleanupHandshake.act .resolved
  else if s.activated then s.act (.called (.message frame))
  else s.buffer cfg frame

/-- `onError` and `onClose` differ in the event they pass on. -/
def ended (event : SignalingEvent) (s : Connect) : Connect :=
  if s.authenticated = false then s.fail
  else if s.activated then s.act (.called event)
  else { s with bufferedEvents := s.bufferedEvents ++ [event] }

def onError (s : Connect) : Connect := s.ended .error

def onClose (s : Connect) : Connect := s.ended .close

/-- `activate`; a second call throws. -/
def activate (s : Connect) : Connect :=
  if s.activated then s
  else
    let s := s.bufferedEvents.foldl (fun s event => s.act (.called event)) { s with activated := true }
    { s with bufferedEvents := [], bufferedBytes := 0 }

/-- The listeners that an event finds, when it can happen. `once` takes a listener
off before it is called. -/
def react (cfg : ConnectorConfig) (s : Connect) : ConnectEvent → Option Connect
  | .opened =>
    if s.socket = .connecting then
      let s' := { s with socket := .opened, listeners := { s.listeners with opened := false } }
      some (if s.listeners.opened then s'.onOpen else s')
    else none
  | .message frame =>
    if s.socket = .opened ∨ s.socket = .closing then
      some (if s.listeners.message then s.onMessage cfg frame else s)
    else none
  | .error =>
    if s.socket = .closed then none
    else
      let s' : Connect := { s with
        socket := if s.socket = .connecting then .closing else s.socket
        errorDue := false
        listeners := { s.listeners with error := false } }
      some (if s.listeners.error then s'.onError else s'.act .unheard)
  | .closing => if s.socket = .opened then some { s with socket := .closing } else none
  | .closed =>
    if s.socket = .closed ∨ s.errorDue then none
    else
      let s' := { s with socket := .closed, listeners := { s.listeners with close := false } }
      some (if s.listeners.close then s'.onClose else s')
  | .unexpectedResponse =>
    if s.socket = .connecting then
      let s' := { s with listeners := { s.listeners with unexpectedResponse := false } }
      some (if s.listeners.unexpectedResponse then s'.fail
        else { s' with socket := .closing, errorDue := true })
    else none
  | .aborted =>
    let s' := { s with listeners := { s.listeners with abort := false } }
    some (if s.listeners.abort then s'.fail else s')
  | .timedOut => if s.timer then some { s with timer := false }.fail else none
  | .sendFailed => if s.sending then some { s with sending := false }.fail else none
  | .activated => if s.authenticated then some s.activate else none

end Connect

def connectStep (cfg : ConnectorConfig) (s : Connect) (e : ConnectEvent) : Option Connect :=
  (s.react cfg e).map fun t => { t with events := e :: s.events }

def connector (cfg : ConnectorConfig) (secret : String) : Machine Connect ConnectEvent :=
  ⟨.start secret, connectStep cfg⟩

end Fireball.Signaling
