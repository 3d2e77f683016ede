import Fireball.Foundation.Json
import Fireball.Foundation.JsMap
import Fireball.Foundation.Machine
import Fireball.Foundation.WebSocket

/-!
# `createSignalingProxy`

The WebSocket side of `session/supervisor.mjs` as a machine over any number of
client connections and the one `activeLease`. Every listener runs to its end in
one step. The variables that the closures of one accepted connection share are
the fields of `Lease`; a refused connection has none.

`refusals`, `errors`, `unheard` and the logs record what happened, newest first;
no code reads them.
-/

namespace Fireball.Supervisor

open Foundation

def maximumBufferedBytes : Nat := 1024 * 1024

structure ProxyConfig where
  secret : String
  /-- `JSON.parse` of the bytes as UTF-8 text, or nothing when it throws. -/
  parseJson : List UInt8 → Option Json

/-- The secrets are compared as UTF-8 bytes, which tell two texts apart. -/
def parseAuthenticationFrame (cfg : ProxyConfig) (frame : Frame) : Bool :=
  if frame.isBinary then false
  else match cfg.parseJson frame.data with
    | some (.object fields) =>
      if Json.sortedKeys fields ≠ "secret,type" then false
      else match Json.field fields "type", Json.field fields "secret" with
        | some (.string type), some (.string secret) => type = "authenticate" && secret = cfg.secret
        | _, _ => false
    | _ => false

inductive LeasePhase
  | authenticating | connecting | relaying | closed
  deriving DecidableEq, Repr

/-- A frame for the client: `{"type":"authenticated"}` or one from upstream. -/
inductive ControllerMessage
  | authenticated
  | relayed (frame : Frame)
  deriving DecidableEq, Repr

inductive LeaseAction
  | received (frame : Frame)
  | toClient (message : ControllerMessage)
  | toUpstream (frame : Frame)
  | closed (code : Nat) (reason : String)
  deriving DecidableEq, Repr

/-- The upstream socket, with the listeners that `once` has still attached. -/
structure Upstream where
  socket : ReadyState
  openListener : Bool
  closeListener : Bool
  errorListener : Bool
  deriving DecidableEq, Repr

/-- The variables of one accepted connection. -/
structure Lease where
  phase : LeasePhase
  timer : Bool
  client : ReadyState
  closeListener : Bool
  errorListener : Bool
  upstream : Option Upstream
  log : List LeaseAction
  deriving DecidableEq, Repr

def Lease.initial : Lease where
  phase := .authenticating
  timer := true
  client := .opened
  closeListener := true
  errorListener := true
  upstream := none
  log := []

def Upstream.initial : Upstream := ⟨.connecting, true, true, true⟩

/-! ## The listeners of a lease -/

/-- `shutdownLease`. That it gives the lease back is `Proxy.run`'s part. -/
def Lease.shutdown (code : Nat) (reason : String) (l : Lease) : Lease :=
  if l.phase = .closed then l
  else
    { l with
      phase := .closed
      timer := false
      client := closeSocket l.client
      upstream := l.upstream.map fun u => { u with socket := closeSocket u.socket }
      log := .closed code reason :: l.log }

def Lease.forward (destination : ReadyState) (byteLength bufferedAmount : Nat) (send : LeaseAction)
    (l : Lease) : Lease :=
  if destination ≠ .opened then l.shutdown 1011 "relay peer unavailable"
  else if bufferedAmount + byteLength > maximumBufferedBytes then
    l.shutdown 1013 "relay backpressure limit"
  else { l with log := send :: l.log }

/-- `phase = "connecting"` and a new upstream WebSocket. -/
def Lease.connect (l : Lease) : Lease :=
  { l with phase := .connecting, timer := false, upstream := some .initial }

def Lease.clientMessage (cfg : ProxyConfig) (frame : Frame) (bufferedAmount : Nat) (l : Lease) :
    Lease :=
  let l := { l with log := .received frame :: l.log }
  match l.phase with
  | .authenticating =>
    if parseAuthenticationFrame cfg frame then l.connect
    else l.shutdown 1008 "authentication failed"
  | .connecting => l.shutdown 1008 "wait for relay readiness"
  | .relaying => match l.upstream with
    | none => l
    | some u => l.forward u.socket frame.data.length bufferedAmount (.toUpstream frame)
  | .closed => l

def Lease.upstreamOpened (l : Lease) : Lease :=
  if l.phase ≠ .connecting then l
  else { l with phase := .relaying, log := .toClient .authenticated :: l.log }

def Lease.upstreamMessage (frame : Frame) (bufferedAmount : Nat) (l : Lease) : Lease :=
  if l.phase = .relaying then
    l.forward l.client frame.data.length bufferedAmount (.toClient (.relayed frame))
  else l

/-- An event of a connection with a lease; a frame comes with the `bufferedAmount`
of the socket it may be forwarded to. -/
inductive LeaseEvent
  | clientFrame (frame : Frame) (bufferedAmount : Nat)
  | clientClosed
  | clientFailed
  | clientState (state : ReadyState)
  | timedOut
  | sendFailed
  | upstreamOpened
  | upstreamFrame (frame : Frame) (bufferedAmount : Nat)
  | upstreamClosed
  | upstreamFailed
  | upstreamState (state : ReadyState)
  deriving DecidableEq

/-- What the listeners make of an event, when it can happen. `once` takes a
listener off before it is called. -/
def Lease.listen (cfg : ProxyConfig) (l : Lease) : LeaseEvent → Option Lease
  | .clientFrame frame bufferedAmount =>
    if l.client = .closed then none else some (l.clientMessage cfg frame bufferedAmount)
  | .clientClosed =>
    if l.closeListener then
      some ({ l with client := .closed, closeListener := false }.shutdown 1000 "client disconnected")
    else none
  | .clientFailed =>
    if l.client = .closed then none
    else if l.errorListener then
      some ({ l with errorListener := false }.shutdown 1011 "client connection failed")
    else some l
  | .clientState state =>
    if l.client.rank < state.rank then some { l with client := state } else none
  | .timedOut =>
    if l.timer then some ({ l with timer := false }.shutdown 1008 "authentication timeout") else none
  | .sendFailed => some (l.shutdown 1011 "relay write failed")
  | .upstreamOpened => match l.upstream with
    | some u =>
      if u.socket = .connecting ∧ u.openListener then
        some { l with upstream := some { u with socket := .opened, openListener := false } }.upstreamOpened
      else none
    | none => none
  | .upstreamFrame frame bufferedAmount => match l.upstream with
    | some u => if u.socket = .closed then none else some (l.upstreamMessage frame bufferedAmount)
    | none => none
  | .upstreamClosed => match l.upstream with
    | some u =>
      if u.closeListener then
        some ({ l with upstream := some { u with socket := .closed, closeListener := false } }.shutdown
          1011 "upstream closed")
      else none
    | none => none
  | .upstreamFailed => match l.upstream with
    | some u =>
      if u.socket = .closed then none
      else if u.errorListener then
        some ({ l with upstream := some { u with errorListener := false } }.shutdown 1011
          "upstream unavailable")
      else some l
    | none => none
  | .upstreamState state => match l.upstream with
    | some u =>
      if u.socket.rank < state.rank then some { l with upstream := some { u with socket := state } }
      else none
    | none => none

/-- An `error` event without a listener would be one for this lease. -/
def Lease.deaf (l : Lease) : LeaseEvent → Bool
  | .clientFailed => !l.errorListener
  | .upstreamFailed => match l.upstream with
    | some u => !u.errorListener
    | none => false
  | _ => false

/-- The client has presented a frame that authenticates it. -/
def Lease.authenticated (cfg : ProxyConfig) (l : Lease) : Bool :=
  l.log.any fun
    | .received frame => parseAuthenticationFrame cfg frame
    | _ => false

/-! ## The proxy -/

/-- A refused client is closed at once and gets no listener. -/
inductive Peer
  | refused (client : ReadyState)
  | leased (lease : Lease)
  deriving DecidableEq, Repr

inductive SocketId
  | client (c : Nat)
  | upstream (c : Nat)
  deriving DecidableEq, Repr

/-- Connection `client` was refused while `holder` had the lease. -/
structure Refusal where
  client : Nat
  holder : Nat
  /-- The holder had authenticated by then. -/
  authenticated : Bool
  deriving DecidableEq, Repr

structure Proxy where
  listening : Bool
  activeLease : Option Nat
  peers : JsMap Nat Peer
  refusals : List Refusal
  errors : List SocketId
  unheard : List SocketId

def Proxy.initial : Proxy := ⟨true, none, .empty, [], [], []⟩

/-- An event of a refused connection. -/
inductive RefusedEvent
  | failed
  | state (state : ReadyState)
  deriving DecidableEq

inductive ProxyEvent
  | connection (c : Nat)
  | lease (c : Nat) (event : LeaseEvent)
  | refused (c : Nat) (event : RefusedEvent)
  /-- `close()` of the proxy. -/
  | close
  deriving DecidableEq

/-- The socket on which the event is an `error` event. -/
def ProxyEvent.failing : ProxyEvent → Option SocketId
  | .lease c .clientFailed => some (.client c)
  | .lease c .upstreamFailed => some (.upstream c)
  | .refused c .failed => some (.client c)
  | _ => none

/-- A listener of connection `c` turned `before` into `after`. -/
def Proxy.run (p : Proxy) (c : Nat) (before after : Lease) : Proxy :=
  { p with
    activeLease :=
      if before.phase ≠ .closed ∧ after.phase = .closed ∧ p.activeLease = some c then none
      else p.activeLease
    peers := p.peers.set c (.leased after) }

/-- Note an `error` event, and whether no listener was attached. -/
def Proxy.note (p : Proxy) (socket : Option SocketId) (deaf : Bool) : Proxy :=
  match socket with
  | none => p
  | some id =>
    { p with errors := id :: p.errors, unheard := if deaf then id :: p.unheard else p.unheard }

/-- `connection` listener of the WebSocket server. -/
def Proxy.connection (cfg : ProxyConfig) (p : Proxy) (c : Nat) : Proxy :=
  match p.activeLease with
  | some holder =>
    { p with
      peers := p.peers.set c (.refused (closeSocket .opened))
      refusals := ⟨c, holder, match p.peers.get holder with
        | some (.leased l) => l.authenticated cfg
        | _ => false⟩ :: p.refusals }
  | none => { p with activeLease := some c, peers := p.peers.set c (.leased .initial) }

/-- `terminate()` on the sockets that `close()` of the proxy goes through. -/
def Peer.terminate (active : Bool) : Peer → Peer
  | .refused client => .refused (terminateSocket client)
  | .leased l => .leased
    { l with
      client := terminateSocket l.client
      upstream := if active then
          l.upstream.map fun u => { u with socket := terminateSocket u.socket }
        else l.upstream }

/-- `close()` of the proxy. It leaves the phase of the lease as it is. -/
def Proxy.close (p : Proxy) : Proxy :=
  { p with
    listening := false
    activeLease := none
    peers := p.peers.mapValues fun c => Peer.terminate (p.activeLease = some c) }

def proxyStep (cfg : ProxyConfig) (p : Proxy) (e : ProxyEvent) : Option Proxy :=
  match e with
  | .connection c =>
    if p.listening ∧ p.peers.get c = none then some (p.connection cfg c) else none
  | .lease c event => match p.peers.get c with
    | some (.leased l) => (l.listen cfg event).map fun l' =>
      (p.run c l l').note e.failing (l.deaf event)
    | _ => none
  | .refused c event => match p.peers.get c with
    | some (.refused client) => match event with
      | .failed => if client = .closed then none else some (p.note e.failing true)
      | .state state =>
        if client.rank < state.rank then some { p with peers := p.peers.set c (.refused state) }
        else none
    | _ => none
  | .close => if p.listening then some p.close else none

def proxy (cfg : ProxyConfig) : Machine Proxy ProxyEvent := ⟨.initial, proxyStep cfg⟩

end Fireball.Supervisor
