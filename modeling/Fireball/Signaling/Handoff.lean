import Fireball.Foundation.Lists
import Fireball.Signaling.ConnectorErrors

/-!
# The handoff of an authenticated socket

What the handlers of the gateway are called with, when frames and the end of the socket
can come before it calls `activate`.

* `Stream`: the calls that have been made and that the buffer is still to make;
* `handoff_step`, `handoff_run`: one event and a run of events after the authenticated
  frame;
* `lossless_handoff`: what is delivered, what can be left out, and the bounds of the buffer.
-/

namespace Fireball.Signaling

open Foundation

/-! ## Frames -/

def ConnectEvent.frame? : ConnectEvent → Option Frame
  | .message frame => some frame
  | _ => none

/-- The socket reports its end. -/
def ConnectEvent.ends : ConnectEvent → Bool
  | .error | .closed => true
  | _ => false

/-- The frames among the events of the socket. -/
def received (events : List ConnectEvent) : List Frame := events.filterMap ConnectEvent.frame?

def SignalingEvent.frame? : SignalingEvent → Option Frame
  | .message frame => some frame
  | _ => none

/-- The frames that the handlers get before the first `onError` or `onClose`. -/
def delivered (calls : List SignalingEvent) : List Frame :=
  (calls.takeWhile fun call => call.frame?.isSome).filterMap SignalingEvent.frame?

/-- The events before the first error or close. -/
def beforeEnd (events : List ConnectEvent) : List ConnectEvent := events.takeWhile fun e => !e.ends

def beforeActivation (events : List ConnectEvent) : List ConnectEvent :=
  events.takeWhile (· ≠ .activated)

def byteLength (frames : List Frame) : Nat := (frames.map (·.data.length)).sum

/-- Frame `k` comes before activation, and with it and all before it the queue would
have more than 16 events or too many bytes. -/
def Overflows (cfg : ConnectorConfig) (events : List ConnectEvent) (k : Nat) : Prop :=
  k < (received (beforeActivation events)).length ∧
    (k + 1 > 16 ∨ byteLength ((received events).take (k + 1)) > 4 * cfg.maxPayloadBytes)

namespace Connect

/-- The calls of the handlers, oldest first. -/
def calls (s : Connect) : List SignalingEvent :=
  (s.log.filterMap fun | .called event => some event | _ => none).reverse

/-- The frames in the buffer. -/
def buffered (s : Connect) : List Frame := s.bufferedEvents.filterMap SignalingEvent.frame?

end Connect

/-- The stream of calls has come to its end: after the frames before the end of the socket,
or before the first frame that overflows. -/
inductive Stopped (cfg : ConnectorConfig) (events : List ConnectEvent) (passed : List SignalingEvent) : Prop
  | ended {event rest} : (∃ e ∈ events, e.ends = true) → event.frame? = none →
      passed = (received (beforeEnd events)).map .message ++ event :: rest → Stopped cfg events passed
  | overflowed {k rest} : Overflows cfg events k →
      passed = ((received events).take k).map .message ++ .error :: rest → Stopped cfg events passed

/-- The calls that have been made and that the buffer is still to make. -/
inductive Stream (cfg : ConnectorConfig) (events : List ConnectEvent) (passed : List SignalingEvent) : Prop
  | whole : (∀ e ∈ events, e.ends = false) → passed = (received events).map .message →
      Stream cfg events passed
  | stopped : Stopped cfg events passed → Stream cfg events passed

/-- The variables of `connect` after these events from the authenticated frame on. -/
structure Handoff (cfg : ConnectorConfig) (events : List ConnectEvent) (s : Connect) : Prop where
  settled : s.settled = true
  authenticated : s.authenticated = true
  message : s.listeners.message = true
  listening : (∀ e ∈ events, e.ends = false) → s.listeners.error = true ∧ s.listeners.close = true
  activated : s.activated = true ↔ .activated ∈ events
  waiting : s.activated = false → s.calls = []
  drained : s.activated = true → s.bufferedEvents = []
  count : s.buffered.length ≤ 16
  bytes : s.bufferedBytes = byteLength s.buffered
  size : s.bufferedBytes ≤ 4 * cfg.maxPayloadBytes
  stream : Stream cfg events (s.calls ++ s.bufferedEvents)

section
variable {cfg : ConnectorConfig} {events : List ConnectEvent} {s t : Connect}

theorem received_snoc (events : List ConnectEvent) (e : ConnectEvent) :
    received (events ++ [e]) = received events ++ e.frame?.toList := by
  cases e <;> simp [received, ConnectEvent.frame?]

theorem received_mono {events later : List ConnectEvent} (h : events <+: later) :
    received events <+: received later := by
  obtain ⟨rest, rfl⟩ := h
  exact ⟨received rest, List.filterMap_append.symm⟩

theorem beforeEnd_of_all (all : ∀ e ∈ events, e.ends = false) : beforeEnd events = events :=
  List.takeWhile_eq_self_iff.mpr fun e mem => by simp [all e mem]

/-- A frame that overflows goes on to. -/
theorem overflows_snoc {k : Nat} (h : Overflows cfg events k) (e : ConnectEvent) :
    Overflows cfg (events ++ [e]) k := by
  obtain ⟨early, exceeds⟩ := h
  have grown : received (beforeActivation events) <+: received (beforeActivation (events ++ [e])) :=
    received_mono (takeWhile_grows _ _ _)
  have below : received (beforeActivation events) <+: received events :=
    received_mono (List.takeWhile_prefix _)
  refine ⟨early.trans_le grown.length_le, ?_⟩
  rw [received_snoc, List.take_append_of_le_length (early.trans_le below.length_le)]
  exact exceeds

/-- Whatever is passed on after the end. -/
theorem stopped_snoc {passed : List SignalingEvent} (stopped : Stopped cfg events passed) (e : ConnectEvent)
    (more : List SignalingEvent) : Stopped cfg (events ++ [e]) (passed ++ more) := by
  cases stopped with
  | @ended event rest end_ other eq =>
    obtain ⟨e', mem, ends⟩ := end_
    have same : beforeEnd (events ++ [e]) = beforeEnd events := takeWhile_of_mem mem (by simp [ends]) _
    have onward : passed ++ more =
        (received (beforeEnd (events ++ [e]))).map .message ++ event :: (rest ++ more) := by
      rw [same, eq, List.append_assoc]
      rfl
    exact .ended ⟨e', List.mem_append_left _ mem, ends⟩ other onward
  | @overflowed k rest exceeds eq =>
    have below : k ≤ (received events).length :=
      (exceeds.1.trans_le (received_mono (List.takeWhile_prefix _)).length_le).le
    have onward : passed ++ more =
        ((received (events ++ [e])).take k).map .message ++ .error :: (rest ++ more) := by
      rw [received_snoc, List.take_append_of_le_length below, eq, List.append_assoc]
      rfl
    exact .overflowed (overflows_snoc exceeds e) onward

/-- The call that an event leads to, at once or from the buffer. -/
def Connect.emits (cfg : ConnectorConfig) (s : Connect) : ConnectEvent → List SignalingEvent
  | .message frame =>
    if s.activated then [.message frame]
    else if s.bufferedEvents.length ≥ 16 ∨
        s.bufferedBytes + frame.data.length > cfg.maxPayloadBytes * 4 then [.error]
    else [.message frame]
  | .error => if s.listeners.error then [.error] else []
  | .closed => if s.listeners.close then [.close] else []
  | _ => []

/-- A frame that the buffer refuses while all before it are in it. -/
theorem overflows_here (h : Handoff cfg events s) {frame : Frame} (idle : s.activated = false)
    (whole : s.calls ++ s.bufferedEvents = (received events).map .message)
    (full : s.bufferedEvents.length ≥ 16 ∨ s.bufferedBytes + frame.data.length > cfg.maxPayloadBytes * 4) :
    Overflows cfg (events ++ [.message frame]) (received events).length := by
  have early : .activated ∉ events := fun mem => by simp [h.activated.mpr mem] at idle
  have all : beforeActivation (events ++ [.message frame]) = events ++ [.message frame] := by
    refine List.takeWhile_eq_self_iff.mpr fun e mem => ?_
    rcases List.mem_append.mp mem with old | new
    · simpa using fun same : e = .activated => early (same ▸ old)
    · simp [List.mem_singleton.mp new]
  have buffer : s.bufferedEvents = (received events).map .message := by
    rwa [h.waiting idle] at whole
  have frames : s.buffered = received events := by
    simp [Connect.buffered, buffer, List.filterMap_map, Function.comp_def, SignalingEvent.frame?]
  have next : received (events ++ [.message frame]) = received events ++ [frame] := received_snoc _ _
  refine ⟨?_, ?_⟩
  · rw [all, next, List.length_append]
    exact Nat.lt_succ_self _
  · rw [next, List.take_of_length_le (by simp)]
    rw [buffer, List.length_map] at full
    rw [h.bytes, frames] at full
    simp only [byteLength, List.map_append, List.sum_append, List.map_singleton, List.sum_singleton] at full ⊢
    omega

theorem stream_snoc (h : Handoff cfg events s) (e : ConnectEvent) :
    Stream cfg (events ++ [e]) (s.calls ++ s.bufferedEvents ++ s.emits cfg e) := by
  cases h.stream with
  | stopped stopped => exact .stopped (stopped_snoc stopped e _)
  | whole all eq =>
    by_cases ends : e.ends = true
    · obtain ⟨error, close⟩ := h.listening all
      have first : beforeEnd (events ++ [e]) = events := by
        rw [beforeEnd, List.takeWhile_append_of_pos fun e mem => by simp [all e mem]]
        simp [ends]
      obtain ⟨event, emitted, other⟩ : ∃ event, s.emits cfg e = [event] ∧ event.frame? = none := by
        cases e <;> simp [ConnectEvent.ends] at ends
        · exact ⟨.error, by simp [Connect.emits, error], rfl⟩
        · exact ⟨.close, by simp [Connect.emits, close], rfl⟩
      have last : s.calls ++ s.bufferedEvents ++ s.emits cfg e =
          (received (beforeEnd (events ++ [e]))).map .message ++ event :: [] := by
        rw [first, eq, emitted]
      exact .stopped (.ended ⟨e, by simp, ends⟩ other last)
    · have all' : ∀ e' ∈ events ++ [e], e'.ends = false := by
        intro e' mem
        rcases List.mem_append.mp mem with old | new
        · exact all e' old
        · rw [List.mem_singleton.mp new]
          simpa using ends
      cases e with
      | message frame =>
        by_cases refused : s.activated = false ∧ (s.bufferedEvents.length ≥ 16 ∨
            s.bufferedBytes + frame.data.length > cfg.maxPayloadBytes * 4)
        · have emitted : s.emits cfg (.message frame) = [.error] := by
            simp only [Connect.emits, refused.1, Bool.false_eq_true, if_false, if_pos refused.2]
          have last : s.calls ++ s.bufferedEvents ++ s.emits cfg (.message frame) =
              ((received (events ++ [.message frame])).take (received events).length).map .message ++
                .error :: [] := by
            rw [received_snoc, List.take_left' rfl, eq, emitted]
          exact .stopped (.overflowed (overflows_here h refused.1 eq refused.2) last)
        · have emitted : s.emits cfg (.message frame) = [.message frame] := by
            simp only [Connect.emits]
            split
            · rfl
            · rename_i idle
              rw [if_neg fun full => refused ⟨by simpa using idle, full⟩]
          refine .whole all' ?_
          rw [received_snoc, eq, emitted]
          simp [ConnectEvent.frame?]
      | error | closed => simp [ConnectEvent.ends] at ends
      | opened | closing | unexpectedResponse | aborted | timedOut | sendFailed | activated =>
        refine .whole all' ?_
        rw [received_snoc, eq]
        simp [ConnectEvent.frame?, Connect.emits]

/-- What the handoff depends on, but for the listeners of the end. -/
def Connect.view (s : Connect) :=
  (s.settled, s.authenticated, s.activated, s.bufferedEvents, s.bufferedBytes, s.listeners.message, s.calls)

/-- An event that passes nothing on and leaves the buffer alone. -/
theorem handoff_silent {e : ConnectEvent} (h : Handoff cfg events s) (other : e ≠ .activated)
    (emitted : s.emits cfg e = []) (same : t.view = s.view)
    (listening : e.ends = false →
      t.listeners.error = s.listeners.error ∧ t.listeners.close = s.listeners.close) :
    Handoff cfg (events ++ [e]) t := by
  simp only [Connect.view, Prod.mk.injEq] at same
  obtain ⟨settled, authenticated, activated, buffer, bytes, message, calls⟩ := same
  have frames : t.buffered = s.buffered := by rw [Connect.buffered, buffer, Connect.buffered]
  have next := stream_snoc h e
  rw [emitted, List.append_nil, ← calls, ← buffer] at next
  refine ⟨settled.trans h.settled, authenticated.trans h.authenticated, message.trans h.message, ?_, ?_,
    fun idle => calls.trans (h.waiting (activated.symm.trans idle)),
    fun active => buffer.trans (h.drained (activated.symm.trans active)), frames ▸ h.count,
    ?_, bytes.trans_le h.size, next⟩
  · intro all
    obtain ⟨error, close⟩ := listening (all e (by simp))
    rw [error, close]
    exact h.listening fun e' mem => all e' (List.mem_append_left _ mem)
  · rw [activated, h.activated]
    simp [Ne.symm other]
  · rw [bytes, frames]
    exact h.bytes

namespace Connect

@[simp] theorem calls_act (event : SignalingEvent) : (s.act (.called event)).calls = s.calls ++ [event] := by
  simp [calls, act]

@[simp] theorem terminate_calls : s.terminate.calls = s.calls := by
  simp [calls]

@[simp] theorem terminate_activated : s.terminate.activated = s.activated := by
  unfold terminate act
  split <;> rfl

@[simp] theorem terminate_bufferedEvents : s.terminate.bufferedEvents = s.bufferedEvents := by
  unfold terminate act
  split <;> rfl

@[simp] theorem terminate_bufferedBytes : s.terminate.bufferedBytes = s.bufferedBytes := by
  unfold terminate act
  split <;> rfl

theorem calls_foldl (buffer : List SignalingEvent) (s : Connect) :
    (buffer.foldl (fun s event => s.act (.called event)) s).calls = s.calls ++ buffer := by
  induction buffer generalizing s with
  | nil => simp
  | cons event rest ih => simp [ih]

theorem foldl_act (buffer : List SignalingEvent) (s : Connect) :
    let t := buffer.foldl (fun s event => s.act (.called event)) s
    t.settled = s.settled ∧ t.authenticated = s.authenticated ∧ t.listeners = s.listeners ∧
      t.activated = s.activated := by
  induction buffer generalizing s with
  | nil => exact ⟨rfl, rfl, rfl, rfl⟩
  | cons event rest ih => exact ih _

end Connect

/-- A frame goes to its handler or into the buffer. -/
theorem handoff_message (h : Handoff cfg events s) (frame : Frame) :
    Handoff cfg (events ++ [.message frame]) (s.onMessage cfg frame) := by
  have next := stream_snoc h (.message frame)
  have listening : (∀ e ∈ events ++ [.message frame], e.ends = false) →
      s.listeners.error = true ∧ s.listeners.close = true :=
    fun all => h.listening fun e mem => all e (List.mem_append_left _ mem)
  have activated : s.activated = true ↔ .activated ∈ events ++ [.message frame] := by
    rw [h.activated]
    simp
  unfold Connect.onMessage
  rw [if_neg (by simp [h.authenticated])]
  split
  · rename_i active
    have empty := h.drained active
    rw [empty, List.append_nil] at next
    simp only [Connect.emits, active, if_true] at next
    refine ⟨h.settled, h.authenticated, h.message, listening, activated, fun idle => ?_, fun _ => empty,
      h.count, h.bytes, h.size, ?_⟩
    · exact absurd active (by simp [show s.activated = false from idle])
    · rw [Connect.calls_act, show (s.act (.called (.message frame))).bufferedEvents = s.bufferedEvents from rfl,
        empty, List.append_nil]
      exact next
  · rename_i idle
    have nobody := h.waiting (by simpa using idle)
    simp only [Connect.emits, idle, Bool.false_eq_true, if_false] at next
    unfold Connect.buffer
    split
    · rename_i full
      rw [if_pos full, List.append_assoc] at next
      have same : (s.bufferedEvents ++ [SignalingEvent.error]).filterMap SignalingEvent.frame? = s.buffered := by
        simp [Connect.buffered, SignalingEvent.frame?]
      refine ⟨?_, ?_, ?_, ?_, ?_, ?_, ?_, ?_, ?_, ?_, ?_⟩
      · exact (Connect.terminate_settled).trans h.settled
      · exact (Connect.terminate_authenticated).trans h.authenticated
      · rw [Connect.terminate_listeners]
        exact h.message
      · rw [Connect.terminate_listeners]
        exact listening
      · rw [Connect.terminate_activated]
        exact activated
      · intro _
        rw [Connect.terminate_calls]
        exact nobody
      · intro active
        rw [Connect.terminate_activated] at active
        exact absurd active idle
      · rw [Connect.buffered, Connect.terminate_bufferedEvents, same]
        exact h.count
      · rw [Connect.buffered, Connect.terminate_bufferedEvents, same, Connect.terminate_bufferedBytes]
        exact h.bytes
      · rw [Connect.terminate_bufferedBytes]
        exact h.size
      · rw [Connect.terminate_calls, Connect.terminate_bufferedEvents]
        exact next
    · rename_i fits
      rw [if_neg fits, List.append_assoc] at next
      have more : (s.bufferedEvents ++ [SignalingEvent.message frame]).filterMap SignalingEvent.frame? =
          s.buffered ++ [frame] := by
        simp [Connect.buffered, SignalingEvent.frame?]
      have room : s.buffered.length ≤ s.bufferedEvents.length := List.length_filterMap_le ..
      refine ⟨h.settled, h.authenticated, h.message, listening, activated, fun _ => nobody,
        fun active => absurd active idle, ?_, ?_, ?_, next⟩
      · rw [Connect.buffered, more, List.length_append, List.length_singleton]
        omega
      · rw [Connect.buffered, more]
        show s.bufferedBytes + frame.data.length = _
        simp only [byteLength, List.map_append, List.sum_append, List.map_singleton, List.sum_singleton]
        exact congrArg (· + _) h.bytes
      · show s.bufferedBytes + frame.data.length ≤ _
        omega

/-- `activate` makes the calls that the buffer stands for. -/
theorem handoff_activate (h : Handoff cfg events s) : Handoff cfg (events ++ [.activated]) s.activate := by
  have next := stream_snoc h .activated
  have listening : (∀ e ∈ events ++ [.activated], e.ends = false) →
      s.listeners.error = true ∧ s.listeners.close = true :=
    fun all => h.listening fun e mem => all e (List.mem_append_left _ mem)
  rw [show s.emits cfg .activated = [] from rfl, List.append_nil] at next
  unfold Connect.activate
  split
  · rename_i active
    exact ⟨h.settled, h.authenticated, h.message, listening, by simp [active], h.waiting, h.drained,
      h.count, h.bytes, h.size, next⟩
  · rename_i idle
    let called := s.bufferedEvents.foldl (fun s event => s.act (.called event)) { s with activated := true }
    have calls : called.calls = s.calls ++ s.bufferedEvents := Connect.calls_foldl _ _
    have kept : called.settled = s.settled ∧ called.authenticated = s.authenticated ∧
        called.listeners = s.listeners ∧ called.activated = true := Connect.foldl_act _ _
    obtain ⟨settled, authenticated, listeners, active⟩ := kept
    refine ⟨settled.trans h.settled, authenticated.trans h.authenticated, ?_, ?_, ?_, fun waiting => ?_,
      fun _ => rfl, Nat.zero_le _, rfl, Nat.zero_le _, ?_⟩
    · show called.listeners.message = true
      rw [listeners]
      exact h.message
    · show _ → called.listeners.error = true ∧ called.listeners.close = true
      rw [listeners]
      exact listening
    · show called.activated = true ↔ _
      simp [active]
    · exact absurd active (by simp [show called.activated = false from waiting])
    · show Stream cfg _ (called.calls ++ [])
      rw [List.append_nil, calls]
      exact next

/-- The end goes to its handler or into the buffer. -/
theorem handoff_end {e : ConnectEvent} {event : SignalingEvent} (h : Handoff cfg events s)
    (ends : e.ends = true) (emitted : s.emits cfg e = [event]) (other : event.frame? = none)
    (same : t.view = s.view) : Handoff cfg (events ++ [e]) (t.ended event) := by
  simp only [Connect.view, Prod.mk.injEq] at same
  obtain ⟨settled, authenticated, activated, buffer, bytes, message, calls⟩ := same
  have next := stream_snoc h e
  have ending : ¬ ∀ e' ∈ events ++ [e], e'.ends = false := fun all => by simpa [ends] using all e (by simp)
  have active' : s.activated = true ↔ .activated ∈ events ++ [e] := by
    rw [h.activated]
    cases e <;> simp [ConnectEvent.ends] at ends ⊢
  rw [emitted] at next
  unfold Connect.ended
  rw [if_neg (by simp [authenticated, h.authenticated])]
  by_cases active : s.activated = true
  · rw [if_pos (activated.trans active)]
    have empty := h.drained active
    rw [empty, List.append_nil] at next
    refine ⟨settled.trans h.settled, authenticated.trans h.authenticated, message.trans h.message,
      fun all => absurd all ending, ?_, fun idle => ?_, fun _ => buffer.trans empty, ?_, ?_,
      bytes.trans_le h.size, ?_⟩
    · exact (iff_of_eq (congrArg (· = true) activated)).trans active'
    · exact absurd (activated.symm.trans idle) (by simp [active])
    · show (t.bufferedEvents.filterMap _).length ≤ 16
      rw [buffer]
      exact h.count
    · show t.bufferedBytes = byteLength (t.bufferedEvents.filterMap _)
      rw [bytes, buffer]
      exact h.bytes
    · rw [Connect.calls_act, calls, show (t.act (.called event)).bufferedEvents = t.bufferedEvents from rfl,
        buffer, empty, List.append_nil]
      exact next
  · rw [if_neg fun now => active (activated.symm.trans now)]
    rw [List.append_assoc] at next
    have frames : (t.bufferedEvents ++ [event]).filterMap SignalingEvent.frame? = s.buffered := by
      simp [Connect.buffered, other, buffer]
    refine ⟨settled.trans h.settled, authenticated.trans h.authenticated, message.trans h.message,
      fun all => absurd all ending, ?_, fun _ => calls.trans (h.waiting (by simpa using active)),
      fun now => absurd (activated.symm.trans now) active, ?_, ?_, bytes.trans_le h.size, ?_⟩
    · exact (iff_of_eq (congrArg (· = true) activated)).trans active'
    · rw [Connect.buffered, frames]
      exact h.count
    · rw [Connect.buffered, frames]
      exact bytes.trans h.bytes
    · show Stream cfg _ (t.calls ++ (t.bufferedEvents ++ [event]))
      rw [calls, buffer]
      exact next

/-- `fail` does nothing any more. -/
theorem handoff_failed {e : ConnectEvent} (h : Handoff cfg events s) (other : e ≠ .activated)
    (emitted : s.emits cfg e = []) (settled : t.settled = s.settled) (same : t.view = s.view)
    (listening : e.ends = false →
      t.listeners.error = s.listeners.error ∧ t.listeners.close = s.listeners.close) :
    Handoff cfg (events ++ [e]) t.fail := by
  rw [Connect.fail_of_settled (settled.trans h.settled)]
  exact handoff_silent h other emitted same listening

/-- **One event** after the authenticated frame. -/
theorem handoff_step {e : ConnectEvent} (h : Handoff cfg events s) (step : s.react cfg e = some t) :
    Handoff cfg (events ++ [e]) t := by
  cases e with
  | opened =>
    simp only [Connect.react] at step
    split at step
    · cases step
      split <;> exact handoff_silent h (by simp) rfl rfl fun _ => ⟨rfl, rfl⟩
    · cases step
  | closing =>
    simp only [Connect.react] at step
    split at step
    · cases step
      exact handoff_silent h (by simp) rfl rfl fun _ => ⟨rfl, rfl⟩
    · cases step
  | unexpectedResponse =>
    simp only [Connect.react] at step
    split at step
    · cases step
      split
      · exact handoff_failed h (by simp) rfl rfl rfl (fun _ => ⟨rfl, rfl⟩)
      · exact handoff_silent h (by simp) rfl rfl fun _ => ⟨rfl, rfl⟩
    · cases step
  | aborted =>
    simp only [Connect.react] at step
    cases step
    split
    · exact handoff_failed h (by simp) rfl rfl rfl (fun _ => ⟨rfl, rfl⟩)
    · exact handoff_silent h (by simp) rfl rfl fun _ => ⟨rfl, rfl⟩
  | timedOut | sendFailed =>
    simp only [Connect.react] at step
    split at step
    · cases step
      exact handoff_failed h (by simp) rfl rfl rfl (fun _ => ⟨rfl, rfl⟩)
    · cases step
  | message frame =>
    simp only [Connect.react, h.message, if_true] at step
    split at step
    · cases step
      exact handoff_message h frame
    · cases step
  | error =>
    simp only [Connect.react] at step
    split at step
    · cases step
    · cases step
      split
      · rename_i heard
        exact handoff_end h rfl (by simp [Connect.emits, heard]) rfl rfl
      · rename_i unheard
        exact handoff_silent h (by simp) (by simp [Connect.emits, unheard]) rfl (by rintro ⟨⟩)
  | closed =>
    simp only [Connect.react] at step
    split at step
    · cases step
    · cases step
      split
      · rename_i heard
        exact handoff_end h rfl (by simp [Connect.emits, heard]) rfl rfl
      · rename_i unheard
        exact handoff_silent h (by simp) (by simp [Connect.emits, unheard]) rfl (by rintro ⟨⟩)
  | activated =>
    simp only [Connect.react, h.authenticated, if_true] at step
    cases step
    exact handoff_activate h

/-! ## Runs -/

/-- Before the authenticated frame nothing is passed on. -/
structure Unconnected (s : Connect) : Prop where
  calls : s.calls = []
  buffer : s.bufferedEvents = []
  bytes : s.bufferedBytes = 0
  idle : s.activated = false

theorem unconnected_fail (fresh : Unconnected s) : Unconnected s.fail := by
  unfold Connect.fail
  split
  · exact fresh
  · refine ⟨?_, ?_, ?_, ?_⟩
    · show (Connect.act _ _).calls = []
      simp [Connect.calls, Connect.act, Connect.cleanupHandshake]
      simpa [Connect.calls] using fresh.calls
    · simp [Connect.act, Connect.cleanupHandshake, fresh.buffer]
    · simp [Connect.act, Connect.cleanupHandshake, fresh.bytes]
    · simp [Connect.act, Connect.cleanupHandshake, fresh.idle]

theorem unconnected_react {e : ConnectEvent} (fresh : Unconnected s) (waiting : s.authenticated = false)
    (h : s.react cfg e = some t) : Unconnected t := by
  obtain ⟨calls, buffer, bytes, idle⟩ := fresh
  cases e with
  | opened =>
    simp only [Connect.react] at h
    split at h
    · cases h
      split <;> exact ⟨calls, buffer, bytes, idle⟩
    · cases h
  | message frame =>
    simp only [Connect.react] at h
    split at h
    · cases h
      split
      · unfold Connect.onMessage
        rw [if_pos waiting]
        split
        · exact unconnected_fail ⟨calls, buffer, bytes, idle⟩
        · split <;> exact ⟨calls, buffer, bytes, idle⟩
      · exact ⟨calls, buffer, bytes, idle⟩
    · cases h
  | error | closed =>
    simp only [Connect.react] at h
    split at h
    · cases h
    · cases h
      split
      · simp only [Connect.onError, Connect.onClose, Connect.ended, waiting, if_true]
        exact unconnected_fail ⟨calls, buffer, bytes, idle⟩
      · exact ⟨calls, buffer, bytes, idle⟩
  | closing =>
    simp only [Connect.react] at h
    split at h
    · cases h
      exact ⟨calls, buffer, bytes, idle⟩
    · cases h
  | unexpectedResponse =>
    simp only [Connect.react] at h
    split at h
    · cases h
      split
      · exact unconnected_fail ⟨calls, buffer, bytes, idle⟩
      · exact ⟨calls, buffer, bytes, idle⟩
    · cases h
  | aborted =>
    simp only [Connect.react] at h
    cases h
    split
    · exact unconnected_fail ⟨calls, buffer, bytes, idle⟩
    · exact ⟨calls, buffer, bytes, idle⟩
  | timedOut | sendFailed =>
    simp only [Connect.react] at h
    split at h
    · cases h
      exact unconnected_fail ⟨calls, buffer, bytes, idle⟩
    · cases h
  | activated =>
    simp only [Connect.react, waiting] at h
    cases h

theorem reachable_fresh {secret : String}
    (reached : (connector cfg secret).Reachable (fun _ _ => True) s) :
    Stands cfg s.events s ∧ (s.authenticated = false → Unconnected s) := by
  have start : Stands cfg (Connect.start secret).events (.start secret) :=
    ⟨⟨rfl, rfl, rfl, rfl, rfl, rfl, rfl⟩, by simp [Connect.start]⟩
  refine Machine.Reachable.invariant (I := fun s => Stands cfg s.events s ∧ (s.authenticated = false → Unconnected s))
    reached ⟨start, fun _ => ⟨rfl, rfl, rfl, rfl⟩⟩ ?_
  rintro s e u - ⟨stands, fresh⟩ - step
  obtain ⟨t, react, rfl⟩ := Option.map_eq_some_iff.mp step
  refine ⟨Connect.stands_noted (Connect.react_stands stands react), fun waiting => ?_⟩
  have before : s.authenticated = false := by
    by_contra turned
    have resolved := (resolved_iff stands).mp (by simpa using turned)
    have after := (Connect.resolved_react (resolved_of_stands stands resolved) react).1.authenticated
    exact absurd after (by simp [show t.authenticated = false from waiting])
  obtain ⟨calls, buffer, bytes, idle⟩ := unconnected_react (fresh before) before react
  exact ⟨calls, buffer, bytes, idle⟩

/-- The authenticated frame. -/
theorem handoff_start {secret : String} {frame : Frame}
    (reached : (connector cfg secret).Reachable (fun _ _ => True) s) (waiting : s.authenticated = false)
    (step : connectStep cfg s (.message frame) = some t) (authenticated : t.authenticated = true) :
    Handoff cfg [] t := by
  obtain ⟨stands, fresh⟩ := reachable_fresh reached
  obtain ⟨calls, buffer, bytes, idle⟩ := fresh waiting
  obtain ⟨t', react, rfl⟩ := Option.map_eq_some_iff.mp step
  simp only [Connect.react] at react
  split at react
  · cases react
    split at authenticated
    · rename_i listening
      have undecided : Undecided s := by
        cases decided : verdict cfg s.events with
        | undecided => exact undecided_of_stands stands decided
        | givenUp => exact absurd listening (by simp [(givenUp_of_stands stands decided).message])
        | resolved => exact absurd ((resolved_iff stands).mpr decided) (by simp [waiting])
      rw [if_pos listening]
      unfold Connect.onMessage at authenticated ⊢
      rw [if_pos waiting] at authenticated ⊢
      split at authenticated
      · have failed := (Connect.fail_givenUp undecided.settled waiting).authenticated
        exact absurd authenticated (by simp [failed])
      · rename_i good
        rw [if_neg (by simp [undecided.settled])] at authenticated
        rw [if_neg good, if_neg (by simp [undecided.settled])]
        have none : Connect.buffered s = [] := by simp [Connect.buffered, buffer]
        refine ⟨rfl, rfl, listening, fun _ => ⟨undecided.error, undecided.close⟩, ?_, fun _ => calls,
          fun _ => buffer, ?_, ?_, ?_, .whole (by simp) ?_⟩
        · show s.activated = true ↔ _
          simp [idle]
        · show (Connect.buffered s).length ≤ 16
          simp [none]
        · show s.bufferedBytes = byteLength (Connect.buffered s)
          rw [bytes, none]
          rfl
        · show s.bufferedBytes ≤ _
          omega
        · show s.calls ++ s.bufferedEvents = _
          rw [calls, buffer]
          rfl
    · exact absurd authenticated (by simp [waiting])
  · cases react

theorem handoff_run {secret : String} {s₀ : Connect} (start : Handoff cfg [] s₀)
    (run : (connector cfg secret).runFrom s₀ events = some t) : Handoff cfg events t := by
  refine Machine.runFrom_invariant (I := Handoff cfg) (fun past s e u h step => ?_) start run
  obtain ⟨m, react, rfl⟩ := Option.map_eq_some_iff.mp step
  obtain ⟨settled, authenticated, message, listening, activated, waiting, drained, count, bytes, size, stream⟩ :=
    handoff_step h react
  exact ⟨settled, authenticated, message, listening, activated, waiting, drained, count, bytes, size, stream⟩

theorem delivered_all (frames : List Frame) : delivered (frames.map .message) = frames := by
  rw [delivered, List.takeWhile_eq_self_iff.mpr (by simp [SignalingEvent.frame?])]
  simp [List.filterMap_map, Function.comp_def, SignalingEvent.frame?]

theorem delivered_stopped {event : SignalingEvent} (other : event.frame? = none) (frames : List Frame)
    (rest : List SignalingEvent) : delivered (frames.map .message ++ event :: rest) = frames := by
  have stops : (event :: rest).takeWhile (fun call => call.frame?.isSome) = [] := by simp [other]
  rw [delivered, List.takeWhile_append_of_pos (by simp [SignalingEvent.frame?]), stops, List.append_nil]
  simp [List.filterMap_map, Function.comp_def, SignalingEvent.frame?]

/-- What the handlers get, from the events after the authenticated frame. -/
structure Spliced (cfg : ConnectorConfig) (events : List ConnectEvent) (calls : List SignalingEvent) :
    Prop where
  ordered : delivered calls <+: received events
  /-- Frame `k` was received before the end, but is left out. -/
  complete : ∀ k < (received (beforeEnd events)).length, (delivered calls).length ≤ k →
    (∃ j ≤ k, Overflows cfg events j) ∧ ∃ rest, calls = (delivered calls).map .message ++ .error :: rest

theorem spliced_of_stream {calls : List SignalingEvent} (stream : Stream cfg events calls) :
    Spliced cfg events calls := by
  cases stream with
  | whole all eq =>
    have same : delivered calls = received events := by rw [eq, delivered_all]
    refine ⟨same ▸ List.prefix_refl _, fun k below left => ?_⟩
    rw [beforeEnd_of_all all] at below
    rw [same] at left
    omega
  | stopped stopped =>
    cases stopped with
    | @ended event rest end_ other eq =>
      have same : delivered calls = received (beforeEnd events) := by rw [eq, delivered_stopped other]
      refine ⟨same ▸ received_mono (List.takeWhile_prefix _), fun k below left => ?_⟩
      rw [same] at left
      omega
    | @overflowed j rest exceeds eq =>
      have same : delivered calls = (received events).take j := by rw [eq, delivered_stopped rfl]
      have early : j ≤ (received events).length :=
        (exceeds.1.trans_le (received_mono (List.takeWhile_prefix _)).length_le).le
      refine ⟨same ▸ List.take_prefix _ _, fun k below left => ⟨⟨j, ?_, exceeds⟩, rest, ?_⟩⟩
      · rw [same, List.length_take, Nat.min_eq_left early] at left
        exact left
      · rw [same]
        exact eq

end

/-- **The handoff** loses no frame and makes none up, wherever `activate` comes, and the
buffer stays within its bounds. -/
theorem lossless_handoff {cfg : ConnectorConfig} {secret : String} {s s₀ t : Connect} {frame : Frame}
    {events : List ConnectEvent} (reached : (connector cfg secret).Reachable (fun _ _ => True) s)
    (waiting : s.authenticated = false)
    (authenticating : (connector cfg secret).step s (.message frame) = some s₀)
    (authenticated : s₀.authenticated = true)
    (run : (connector cfg secret).runFrom s₀ events = some t) :
    (.activated ∈ events → Spliced cfg events t.calls) ∧
      t.buffered.length ≤ 16 ∧ byteLength t.buffered ≤ 4 * cfg.maxPayloadBytes := by
  have h := handoff_run (handoff_start reached waiting authenticating authenticated) run
  refine ⟨fun active => ?_, h.count, h.bytes ▸ h.size⟩
  have stream := h.stream
  rw [h.drained (h.activated.mpr active), List.append_nil] at stream
  exact spliced_of_stream stream

/-- Two frames, one on each side of `activate`, and the close. -/
theorem lossless_handoff_twice : ∃ t : Connect,
    (connector sampleConnector "secret").runFrom (.start "secret") [.opened, .message authenticatedFrame,
      .message ⟨[1], true⟩, .activated, .message ⟨[2], true⟩, .closed] = some t ∧
    Spliced sampleConnector [.message ⟨[1], true⟩, .activated, .message ⟨[2], true⟩, .closed] t.calls ∧
    delivered t.calls = [⟨[1], true⟩, ⟨[2], true⟩] := by
  let M := connector sampleConnector "secret"
  let s := (M.step (.start "secret") .opened).get (by decide)
  have opened : M.step (.start "secret") .opened = some s := (Option.some_get _).symm
  let s₀ := (M.step s (.message authenticatedFrame)).get (by decide)
  have step : M.step s (.message authenticatedFrame) = some s₀ := (Option.some_get _).symm
  let t := (M.runFrom s₀ [.message ⟨[1], true⟩, .activated, .message ⟨[2], true⟩, .closed]).get (by decide)
  have run : M.runFrom s₀ [.message ⟨[1], true⟩, .activated, .message ⟨[2], true⟩, .closed] = some t :=
    (Option.some_get _).symm
  have reached : M.Reachable (fun _ _ => True) s := Machine.Reaches.refl.step trivial opened
  have whole : M.runFrom (.start "secret") [.opened, .message authenticatedFrame,
      .message ⟨[1], true⟩, .activated, .message ⟨[2], true⟩, .closed] = some t := by
    rw [Machine.runFrom, opened, Option.bind_some, Machine.runFrom, step, Option.bind_some, run]
  exact ⟨t, whole, (lossless_handoff reached (by decide) step (by decide) run).1 (by decide), by decide⟩

end Fireball.Signaling
