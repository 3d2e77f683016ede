import Mathlib.Data.List.Basic

/-!
# WebSockets

Messages, ready states, and the `closeSocket` that the gateway and the session
supervisor both define.
-/

namespace Fireball.Foundation

/-- A WebSocket message. -/
structure Frame where
  data : List UInt8
  isBinary : Bool
  deriving DecidableEq, Repr

/-- `WebSocket.readyState`. -/
inductive ReadyState
  | connecting | opened | closing | closed
  deriving DecidableEq, Repr

/-- A socket never goes back. -/
def ReadyState.rank : ReadyState → Nat
  | connecting => 0
  | opened => 1
  | closing => 2
  | closed => 3

theorem ReadyState.rank_le_closed (state : ReadyState) : state.rank ≤ closed.rank := by
  cases state <;> decide

/-- What `closeSocket` leaves: an open socket starts its closing handshake, a
connecting one is terminated, and any other stays as it is. -/
def closeSocket : ReadyState → ReadyState
  | .opened => .closing
  | .connecting => .closing
  | state => state

/-- What `terminate` leaves. -/
def terminateSocket : ReadyState → ReadyState
  | .closed => .closed
  | _ => .closing

theorem rank_le_closeSocket (state : ReadyState) : state.rank ≤ (closeSocket state).rank := by
  cases state <;> decide

theorem closeSocket_rank (state : ReadyState) : 2 ≤ (closeSocket state).rank := by
  cases state <;> decide

end Fireball.Foundation
