import Fireball.Foundation.Bytes
import Fireball.Foundation.Json
import Fireball.Foundation.Machine
import Fireball.Session.Types

/-!
# `UnixSocketDockerEngineTransport.call`

`src/runtime/docker-engine-transport.ts`: one call as a machine over the events of its
request and of the response, with the order in which Node's `http` client raises them. A
response that the peer cuts off is aborted and closed; its `error` is raised only to a
listener, which `call` does not have. Nor has it one for `upgrade`: when the peer switches
protocols, Node destroys the socket and closes the request.

* `call_settles`: the promise of a call is settled by the end of its request exactly when the
  response was neither cut off nor a switch of protocols, or the request raised an error.
-/

namespace Fireball.Docker

open Foundation
open Session (OrchestratorError)

/-- What `call` is given. -/
structure TransportCall where
  acceptedStatusCodes : List Nat
  /-- `JSON.parse`, or nothing when it throws. -/
  parseJson : String → Option Json

inductive HttpEvent
  | timeout
  /-- `error` on the request. -/
  | error (message : String)
  | response (statusCode : Option Nat)
  /-- 101 with an `Upgrade` header, which is no `response` to the request. -/
  | upgraded
  | data (chunk : Bytes)
  | ended
  | aborted
  /-- `close` on the response. -/
  | responseClosed
  /-- `close` on the request. -/
  | closed
  deriving DecidableEq, Repr

structure Exchange where
  /-- The response that the request has got. -/
  statusCode : Option (Option Nat)
  ended : Bool
  /-- The peer has cut the response off, or Node has dropped it. -/
  cut : Bool
  failed : Bool
  closed : Bool
  chunks : List Bytes
  /-- `request.once("error")`. -/
  errorListener : Bool
  /-- The request is destroyed with the error of the timeout. -/
  destroyed : Bool
  promise : Option (Except OrchestratorError Json)

def Exchange.start : Exchange := ⟨none, false, false, false, false, [], true, false, none⟩

/-- A promise is settled once; `resolve` and `reject` do nothing after that. -/
def Exchange.settle (result : Except OrchestratorError Json) (s : Exchange) : Exchange :=
  match s.promise with
  | none => { s with promise := some result }
  | some _ => s

def dockerErrorMessage : Json → String
  | .object fields => match Json.field fields "message" with
    | some (.string message) => if message.length > 0 then message else "Docker Engine request failed"
    | _ => "Docker Engine request failed"
  | _ => "Docker Engine request failed"

/-- The `end` listener of the response. -/
def onEnd (call : TransportCall) (statusCode : Option Nat) (s : Exchange) : Exchange :=
  let text := decodeUtf8 s.chunks.flatten
  match (if text = "" then some (.object []) else call.parseJson text) with
  | none => s.settle (.error ⟨.runtimeFailure, "Docker Engine returned invalid JSON", 503⟩)
  | some parsed =>
    if statusCode.getD 500 ∉ call.acceptedStatusCodes then
      s.settle (.error ⟨.runtimeFailure, dockerErrorMessage parsed, 503⟩)
    else s.settle (.ok parsed)

/-- One event, where Node can raise it. -/
def exchangeStep (call : TransportCall) (s : Exchange) (event : HttpEvent) : Option Exchange :=
  if s.closed then none
  else match event with
    | .timeout => some { s with destroyed := true }
    | .error message =>
      if s.failed then none
      else
        let s' := { s with failed := true, errorListener := false }
        some (if s.errorListener then s'.settle (.error ⟨.runtimeFailure, message, 503⟩) else s')
    | .response statusCode =>
      if s.statusCode.isSome ∨ s.failed ∨ s.cut then none else some { s with statusCode := some statusCode }
    | .upgraded => if s.statusCode.isSome ∨ s.failed ∨ s.cut then none else some { s with cut := true }
    | .data chunk =>
      if s.statusCode.isNone ∨ s.ended ∨ s.cut then none else some { s with chunks := s.chunks ++ [chunk] }
    | .ended => match s.statusCode with
      | none => none
      | some statusCode =>
        if s.ended ∨ s.cut then none else some (onEnd call statusCode { s with ended := true })
    | .aborted =>
      if s.statusCode.isNone ∨ s.ended ∨ s.cut then none else some { s with cut := true }
    | .responseClosed => if s.statusCode.isNone then none else some s
    -- without an answer of the peer, Node raises an error before it closes the request
    | .closed => if s.failed ∨ s.ended ∨ s.cut then some { s with closed := true } else none

def exchange (call : TransportCall) : Machine Exchange HttpEvent := ⟨.start, exchangeStep call⟩

/-! ## Settlement -/

/-- The variables after these events. -/
structure Follows (events : List HttpEvent) (s : Exchange) : Prop where
  listening : s.errorListener = !s.failed
  cut : s.cut = true ↔ .aborted ∈ events ∨ .upgraded ∈ events
  answered : s.ended = true → s.statusCode.isSome = true
  failed : s.failed = true ↔ ∃ message, .error message ∈ events
  parted : ¬ (s.ended = true ∧ s.cut = true)
  finished : s.closed = true → s.failed = true ∨ s.ended = true ∨ s.cut = true
  promise : s.promise.isSome = (s.failed || s.ended)

section
variable {call : TransportCall} {events : List HttpEvent} {s t : Exchange}

theorem settle_eq (result : Except OrchestratorError Json) (s : Exchange) :
    ∃ promise, s.settle result = { s with promise := some promise } := by
  unfold Exchange.settle
  split
  · exact ⟨result, rfl⟩
  · rename_i first settled
    exact ⟨first, by rw [← settled]⟩

theorem onEnd_eq (call : TransportCall) (statusCode : Option Nat) (s : Exchange) :
    ∃ promise, onEnd call statusCode s = { s with promise := some promise } := by
  unfold onEnd
  dsimp only
  split
  · exact settle_eq _ _
  · split <;> exact settle_eq _ _

theorem follows_step {event : HttpEvent} (h : Follows events s) (step : exchangeStep call s event = some t) :
    Follows (events ++ [event]) t := by
  obtain ⟨listening, cut, answered, failed, parted, finished, promise⟩ := h
  unfold exchangeStep at step
  split at step
  · cases step
  · rename_i open_
    cases event with
    | timeout =>
      cases step
      exact ⟨listening, by simpa using cut, answered, by simpa using failed, parted, finished, promise⟩
    | error message =>
      dsimp only at step
      split at step
      · cases step
      · rename_i first
        have heard : s.errorListener = true := by simpa [first] using listening
        cases step
        rw [if_pos heard]
        obtain ⟨result, eq⟩ := settle_eq (.error ⟨.runtimeFailure, message, 503⟩)
          { s with failed := true, errorListener := false }
        rw [eq]
        exact ⟨rfl, by simpa using cut, answered, by simp, parted, fun _ => .inl rfl, by simp⟩
    | response statusCode =>
      dsimp only at step
      split at step
      · cases step
      · cases step
        exact ⟨listening, by simpa using cut, fun _ => rfl, by simpa using failed, parted, finished, promise⟩
    | upgraded =>
      dsimp only at step
      split at step
      · cases step
      · rename_i fresh
        cases step
        refine ⟨listening, by simp, answered, by simpa using failed, ?_, fun _ => .inr (.inr rfl), promise⟩
        exact fun both => fresh (.inl (answered both.1))
    | data chunk =>
      dsimp only at step
      split at step
      · cases step
      · cases step
        exact ⟨listening, by simpa using cut, answered, by simpa using failed, parted, finished, promise⟩
    | ended =>
      dsimp only at step
      split at step
      · cases step
      · split at step
        · cases step
        · rename_i statusCode there fresh
          cases step
          obtain ⟨result, eq⟩ := onEnd_eq call statusCode { s with ended := true }
          rw [eq]
          have known : s.statusCode.isSome = true := by rw [there]; rfl
          refine ⟨listening, by simpa using cut, fun _ => known, by simpa using failed, ?_,
            fun _ => .inr (.inl rfl), by simp⟩
          exact fun both => fresh (.inr both.2)
    | aborted =>
      dsimp only at step
      split at step
      · cases step
      · rename_i fresh
        cases step
        refine ⟨listening, by simp, answered, by simpa using failed, ?_, fun _ => .inr (.inr rfl), promise⟩
        exact fun both => fresh (.inr (.inl both.1))
    | responseClosed =>
      dsimp only at step
      split at step
      · cases step
      · cases step
        exact ⟨listening, by simpa using cut, answered, by simpa using failed, parted, finished, promise⟩
    | closed =>
      dsimp only at step
      split at step
      · rename_i finished
        cases step
        exact ⟨listening, by simpa using cut, answered, by simpa using failed, parted, fun _ => finished, promise⟩
      · cases step

theorem follows_run (run : (exchange call).runFrom .start events = some t) : Follows events t := by
  have start : Follows [] .start :=
    ⟨rfl, by simp [Exchange.start], by simp [Exchange.start], by simp [Exchange.start], by simp [Exchange.start],
      by simp [Exchange.start], rfl⟩
  exact Machine.runFrom_invariant (fun _ _ _ _ => follows_step) start run

end

/-- **The promise of a call** is settled by the end of its request, exactly when the response
was not cut off, nor a switch of protocols, or the request raised an error. -/
theorem call_settles {call : TransportCall} {events : List HttpEvent} {t : Exchange}
    (run : (exchange call).runFrom .start events = some t) (complete : t.closed = true) :
    t.promise.isSome = true ↔
      ((.aborted ∉ events ∧ .upgraded ∉ events) ∨ ∃ message, .error message ∈ events) := by
  have h := follows_run run
  rw [h.promise, Bool.or_eq_true, ← h.failed, ← not_or, ← h.cut]
  have finished := h.finished complete
  have parted := h.parted
  tauto

/-- A trace of one exchange. -/
theorem call_settles_whole : ∃ t,
    (exchange ⟨[204], fun _ => none⟩).runFrom .start [.response (some 204), .ended, .responseClosed, .closed] =
      some t ∧ t.promise.isSome = true := by
  have run : ((exchange ⟨[204], fun _ => none⟩).runFrom .start
      [.response (some 204), .ended, .responseClosed, .closed]).isSome = true := rfl
  have whole := (Option.some_get run).symm
  exact ⟨_, whole, (call_settles whole rfl).mpr (.inl ⟨by decide, by decide⟩)⟩

/-- The peer closes the connection in the middle of the body. -/
theorem early_close : ∃ t,
    (exchange ⟨[201], fun _ => none⟩).runFrom .start
      [.response (some 201), .data [123], .aborted, .responseClosed, .closed] = some t ∧
      t.closed = true ∧ t.promise.isNone = true :=
  ⟨_, rfl, rfl, rfl⟩

/-- It switches protocols. -/
example : ∃ t, (exchange ⟨[201], fun _ => none⟩).runFrom .start [.upgraded, .closed] = some t ∧
    t.closed = true ∧ t.promise.isNone = true :=
  ⟨_, rfl, rfl, rfl⟩

end Fireball.Docker
