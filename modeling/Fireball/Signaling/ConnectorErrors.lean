import Fireball.Signaling.Connector

/-!
# Errors of the upstream socket

Which `error` events of its socket find a listener of `connect`.

* `verdict`: what `connect` has decided, from the events alone;
* `react_stands`: the listeners that are attached after each decision;
* `errors_heard`: an error is heard when it is the first one and `connect` has
  not given the socket up;
* `abort_unheard`: a client that leaves while the upstream is connecting.
-/

namespace Fireball.Signaling

open Foundation Session

/-! ## What has been decided -/

inductive Verdict
  | undecided
  /-- The promise was rejected and the listeners taken off. -/
  | givenUp
  /-- The first frame was the authenticated frame. -/
  | resolved
  deriving DecidableEq, Repr

/-- What one event decides, where nothing was decided before. -/
def ConnectEvent.decides (cfg : ConnectorConfig) : ConnectEvent → Verdict
  | .message frame =>
    if frame.isBinary ∨ isAuthenticatedFrame cfg frame.data = false then .givenUp else .resolved
  | .error | .closed | .unexpectedResponse | .aborted | .timedOut | .sendFailed => .givenUp
  | .opened | .closing | .activated => .undecided

/-- What these events, newest first, have decided. -/
def verdict (cfg : ConnectorConfig) : List ConnectEvent → Verdict
  | [] => .undecided
  | e :: older => match verdict cfg older with
    | .undecided => e.decides cfg
    | decided => decided

structure Undecided (s : Connect) : Prop where
  settled : s.settled = false
  authenticated : s.authenticated = false
  message : s.listeners.message = true
  error : s.listeners.error = true
  close : s.listeners.close = true
  abort : s.listeners.abort = true
  unexpectedResponse : s.listeners.unexpectedResponse = true

structure GivenUp (s : Connect) : Prop where
  settled : s.settled = true
  authenticated : s.authenticated = false
  message : s.listeners.message = false
  error : s.listeners.error = false
  close : s.listeners.close = false

structure Resolved (s : Connect) : Prop where
  settled : s.settled = true
  authenticated : s.authenticated = true

/-- What the events have decided shows in the variables. -/
def Stands (cfg : ConnectorConfig) (events : List ConnectEvent) (s : Connect) : Prop :=
  match verdict cfg events with
  | .undecided => Undecided s ∧ .error ∉ events
  | .givenUp => GivenUp s
  | .resolved => Resolved s ∧ (s.listeners.error = true ↔ .error ∉ events)

section
variable {cfg : ConnectorConfig} {events : List ConnectEvent} {s : Connect}

theorem undecided_cons {e : ConnectEvent} (h : verdict cfg (e :: events) = .undecided) :
    verdict cfg events = .undecided ∧ e.decides cfg = .undecided := by
  simp only [verdict] at h
  split at h
  · rename_i before
    exact ⟨before, h⟩
  · rename_i other
    exact absurd h other

theorem message_decides (frame : Frame) : (ConnectEvent.message frame).decides cfg ≠ .undecided := by
  simp only [ConnectEvent.decides]
  split <;> decide

theorem undecided_of_stands (stands : Stands cfg events s) (h : verdict cfg events = .undecided) :
    Undecided s := by
  unfold Stands at stands
  rw [h] at stands
  exact stands.1

theorem givenUp_of_stands (stands : Stands cfg events s) (h : verdict cfg events = .givenUp) :
    GivenUp s := by
  unfold Stands at stands
  rw [h] at stands
  exact stands

theorem resolved_of_stands (stands : Stands cfg events s) (h : verdict cfg events = .resolved) :
    Resolved s := by
  unfold Stands at stands
  rw [h] at stands
  exact stands.1

theorem resolved_iff (stands : Stands cfg events s) :
    s.authenticated = true ↔ verdict cfg events = .resolved := by
  cases h : verdict cfg events with
  | undecided => simp [(undecided_of_stands stands h).authenticated]
  | givenUp => simp [(givenUp_of_stands stands h).authenticated]
  | resolved => simp [(resolved_of_stands stands h).authenticated]

theorem unsettled_iff (stands : Stands cfg events s) :
    s.settled = false ↔ verdict cfg events = .undecided := by
  cases h : verdict cfg events with
  | undecided => simp [(undecided_of_stands stands h).settled]
  | givenUp => simp [(givenUp_of_stands stands h).settled]
  | resolved => simp [(resolved_of_stands stands h).settled]

end

/-! ## The operations -/

namespace Connect

variable {cfg : ConnectorConfig} {s t : Connect}

@[simp] theorem terminate_settled : s.terminate.settled = s.settled := by
  unfold terminate act
  split <;> rfl

@[simp] theorem terminate_authenticated : s.terminate.authenticated = s.authenticated := by
  unfold terminate act
  split <;> rfl

@[simp] theorem terminate_listeners : s.terminate.listeners = s.listeners := by
  unfold terminate act
  split <;> rfl

@[simp] theorem terminate_log : s.terminate.log = .terminated :: s.log := by
  unfold terminate act
  split <;> rfl

theorem fail_of_settled (h : s.settled = true) : s.fail = s := by
  unfold fail
  exact if_pos h

theorem fail_givenUp (open_ : s.settled = false) (h : s.authenticated = false) :
    GivenUp s.fail := by
  unfold fail
  rw [if_neg (by rw [open_]; simp)]
  constructor <;> simp [act, cleanupHandshake, h]

theorem fail_log : s.fail.log = s.log ∨
    s.fail.log = .rejected signalingUnavailable :: .terminated :: s.log := by
  unfold fail
  split
  · exact .inl rfl
  · exact .inr (by simp [act, cleanupHandshake])

/-- The log has no `unheard` that it did not have before. -/
def Quiet (s t : Connect) : Prop := .unheard ∈ t.log ↔ .unheard ∈ s.log

theorem quiet_refl : Quiet s s := Iff.rfl

theorem quiet_act (action : ConnectAction) (h : action ≠ .unheard) : Quiet s (s.act action) := by
  simp [Quiet, act, Ne.symm h]

theorem quiet_fail : Quiet s s.fail := by
  unfold Quiet
  rcases fail_log (s := s) with same | more
  · rw [same]
  · rw [more]
    simp

theorem quiet_buffer {frame : Frame} : Quiet s (s.buffer cfg frame) := by
  unfold buffer
  split
  · simp [Quiet]
  · exact Iff.rfl

theorem quiet_onMessage {frame : Frame} : Quiet s (s.onMessage cfg frame) := by
  unfold onMessage
  split
  · split
    · exact quiet_fail
    · split
      · exact quiet_refl
      · exact quiet_act (s := { s with authenticated := true, settled := true }.cleanupHandshake)
          .resolved (by simp)
  · split
    · exact quiet_act (.called (.message frame)) (by simp)
    · exact quiet_buffer

theorem quiet_ended {event : SignalingEvent} : Quiet s (s.ended event) := by
  unfold ended
  split
  · exact quiet_fail
  · split
    · exact quiet_act (.called event) (by simp)
    · exact Iff.rfl

theorem quiet_activate : Quiet s s.activate := by
  have all : ∀ (events : List SignalingEvent) (s : Connect),
      Quiet s (events.foldl (fun s event => s.act (.called event)) s) := by
    intro events
    induction events with
    | nil => exact fun s => quiet_refl
    | cons event events ih =>
      exact fun s => (ih _).trans (quiet_act (.called event) (by simp))
  unfold activate
  split
  · exact quiet_refl
  · exact all s.bufferedEvents { s with activated := true }

/-- Only an error without a listener leaves an `unheard`. -/
theorem react_unheard {e : ConnectEvent} (h : s.react cfg e = some t) :
    .unheard ∈ t.log ↔ .unheard ∈ s.log ∨ (e = .error ∧ s.listeners.error = false) := by
  have quiet : e ≠ .error → Quiet s t → (.unheard ∈ t.log ↔ .unheard ∈ s.log ∨
      (e = .error ∧ s.listeners.error = false)) := by
    intro other q
    constructor
    · exact fun now => .inl (q.mp now)
    · exact fun h => q.mpr (h.resolve_right fun h => other h.1)
  cases e with
  | error =>
    simp only [react] at h
    split at h
    · cases h
    · split at h
      · rename_i heard
        cases h
        refine quiet_ended.trans ?_
        simp [heard]
      · rename_i unheard
        cases h
        simp [act, unheard]
  | opened =>
    refine quiet (by simp) ?_
    simp only [react] at h
    split at h
    · cases h
      split
      · exact quiet_act (.sent (authenticationText s.secret)) (by simp)
      · exact Iff.rfl
    · cases h
  | message frame =>
    refine quiet (by simp) ?_
    simp only [react] at h
    split at h
    · cases h
      split
      · exact quiet_onMessage
      · exact quiet_refl
    · cases h
  | closing =>
    refine quiet (by simp) ?_
    simp only [react] at h
    split at h
    · cases h
      exact Iff.rfl
    · cases h
  | closed =>
    refine quiet (by simp) ?_
    simp only [react] at h
    split at h
    · cases h
    · cases h
      split
      · exact quiet_ended
      · exact Iff.rfl
  | unexpectedResponse =>
    refine quiet (by simp) ?_
    simp only [react] at h
    split at h
    · cases h
      split
      · exact quiet_fail
      · exact Iff.rfl
    · cases h
  | aborted =>
    refine quiet (by simp) ?_
    cases h
    simp only
    split
    · exact quiet_fail
    · exact Iff.rfl
  | timedOut | sendFailed =>
    refine quiet (by simp) ?_
    simp only [react] at h
    split at h
    · cases h
      exact quiet_fail
    · cases h
  | activated =>
    refine quiet (by simp) ?_
    simp only [react] at h
    split at h
    · cases h
      exact quiet_activate
    · cases h

/-! ## What each event does to the decision -/

theorem givenUp_react {e : ConnectEvent} (g : GivenUp s) (h : s.react cfg e = some t) :
    GivenUp t := by
  obtain ⟨settled, authenticated, message, error, close⟩ := g
  cases e with
  | opened =>
    simp only [react] at h
    split at h
    · cases h
      split <;> exact ⟨settled, authenticated, message, error, close⟩
    · cases h
  | message frame =>
    simp only [react, message] at h
    split at h
    · cases h
      exact ⟨settled, authenticated, message, error, close⟩
    · cases h
  | error =>
    simp only [react, error] at h
    split at h
    · cases h
    · cases h
      exact ⟨settled, authenticated, message, rfl, close⟩
  | closing =>
    simp only [react] at h
    split at h
    · cases h
      exact ⟨settled, authenticated, message, error, close⟩
    · cases h
  | closed =>
    simp only [react, close] at h
    split at h
    · cases h
    · cases h
      exact ⟨settled, authenticated, message, error, rfl⟩
  | unexpectedResponse =>
    simp only [react] at h
    split at h
    · cases h
      split
      · rw [fail_of_settled]
        · exact ⟨settled, authenticated, message, error, close⟩
        · exact settled
      · exact ⟨settled, authenticated, message, error, close⟩
    · cases h
  | aborted =>
    cases h
    simp only
    split
    · rw [fail_of_settled]
      · exact ⟨settled, authenticated, message, error, close⟩
      · exact settled
    · exact ⟨settled, authenticated, message, error, close⟩
  | timedOut | sendFailed =>
    simp only [react] at h
    split at h
    · cases h
      rw [fail_of_settled]
      · exact ⟨settled, authenticated, message, error, close⟩
      · exact settled
    · cases h
  | activated =>
    simp only [react, authenticated] at h
    cases h

/-- After the authenticated frame no listener rejects, or touches the `error`
listener, which only its own event takes off. -/
theorem resolved_react {e : ConnectEvent} (r : Resolved s) (h : s.react cfg e = some t) :
    Resolved t ∧ (t.listeners.error = true ↔ s.listeners.error = true ∧ e ≠ .error) := by
  obtain ⟨settled, authenticated⟩ := r
  cases e with
  | opened =>
    simp only [react] at h
    split at h
    · cases h
      split <;> exact ⟨⟨settled, authenticated⟩, by simp [onOpen, act]⟩
    · cases h
  | message frame =>
    simp only [react, onMessage, authenticated] at h
    split at h
    · cases h
      split
      · simp only [Bool.true_eq_false, if_false]
        split
        · exact ⟨⟨settled, authenticated⟩, by simp [act]⟩
        · unfold buffer
          split
          · exact ⟨⟨by simp [settled], by simp [authenticated]⟩, by simp⟩
          · exact ⟨⟨settled, authenticated⟩, by simp⟩
      · exact ⟨⟨settled, authenticated⟩, by simp⟩
    · cases h
  | error =>
    simp only [react, onError, ended, authenticated] at h
    split at h
    · cases h
    · cases h
      split
      · simp only [Bool.true_eq_false, if_false]
        split <;> exact ⟨⟨settled, rfl⟩, by simp [act]⟩
      · exact ⟨⟨settled, rfl⟩, by simp [act]⟩
  | closing =>
    simp only [react] at h
    split at h
    · cases h
      exact ⟨⟨settled, authenticated⟩, by simp⟩
    · cases h
  | closed =>
    simp only [react, onClose, ended, authenticated] at h
    split at h
    · cases h
    · cases h
      split
      · simp only [Bool.true_eq_false, if_false]
        split <;> exact ⟨⟨settled, rfl⟩, by simp [act]⟩
      · exact ⟨⟨settled, rfl⟩, by simp⟩
  | unexpectedResponse =>
    simp only [react] at h
    split at h
    · cases h
      split
      · rw [fail_of_settled]
        · exact ⟨⟨settled, authenticated⟩, by simp⟩
        · exact settled
      · exact ⟨⟨settled, authenticated⟩, by simp⟩
    · cases h
  | aborted =>
    cases h
    simp only
    split
    · rw [fail_of_settled]
      · exact ⟨⟨settled, authenticated⟩, by simp⟩
      · exact settled
    · exact ⟨⟨settled, authenticated⟩, by simp⟩
  | timedOut | sendFailed =>
    simp only [react] at h
    split at h
    · cases h
      rw [fail_of_settled]
      · exact ⟨⟨settled, authenticated⟩, by simp⟩
      · exact settled
    · cases h
  | activated =>
    have all : ∀ (events : List SignalingEvent) (s : Connect),
        (events.foldl (fun s event => s.act (.called event)) s).settled = s.settled ∧
        (events.foldl (fun s event => s.act (.called event)) s).authenticated = s.authenticated ∧
        (events.foldl (fun s event => s.act (.called event)) s).listeners = s.listeners := by
      intro events
      induction events with
      | nil => exact fun s => ⟨rfl, rfl, rfl⟩
      | cons event events ih => exact fun s => ih (s.act (.called event))
    simp only [react, authenticated, if_true] at h
    cases h
    unfold activate
    split
    · exact ⟨⟨settled, authenticated⟩, by simp⟩
    · obtain ⟨h₁, h₂, h₃⟩ := all s.bufferedEvents { s with activated := true }
      exact ⟨⟨h₁.trans settled, h₂.trans authenticated⟩, by simp [h₃]⟩

/-- The first deciding event finds its listener attached. -/
theorem undecided_react {e : ConnectEvent} (u : Undecided s) (h : s.react cfg e = some t) :
    match e.decides cfg with
    | .undecided => Undecided t
    | .givenUp => GivenUp t
    | .resolved => Resolved t ∧ t.listeners.error = true := by
  obtain ⟨settled, authenticated, message, error, close, abort, unexpectedResponse⟩ := u
  cases e with
  | opened =>
    simp only [react] at h
    split at h
    · cases h
      simp only [ConnectEvent.decides]
      split <;> exact ⟨settled, authenticated, message, error, close, abort, unexpectedResponse⟩
    · cases h
  | message frame =>
    simp only [react, message, if_true] at h
    split at h
    · cases h
      simp only [ConnectEvent.decides, onMessage, authenticated, settled, if_true]
      by_cases bad : frame.isBinary = true ∨ isAuthenticatedFrame cfg frame.data = false
      · simp only [bad, if_true]
        exact fail_givenUp settled authenticated
      · simp only [bad, if_false]
        exact ⟨⟨rfl, rfl⟩, error⟩
    · cases h
  | error =>
    simp only [react, error, if_true, onError, ended, authenticated] at h
    split at h
    · cases h
    · cases h
      exact fail_givenUp settled rfl
  | closing =>
    simp only [react] at h
    split at h
    · cases h
      exact ⟨settled, authenticated, message, error, close, abort, unexpectedResponse⟩
    · cases h
  | closed =>
    simp only [react, close, if_true, onClose, ended, authenticated] at h
    split at h
    · cases h
    · cases h
      exact fail_givenUp settled rfl
  | unexpectedResponse =>
    simp only [react, unexpectedResponse, if_true] at h
    split at h
    · cases h
      exact fail_givenUp settled authenticated
    · cases h
  | aborted =>
    simp only [react, abort, if_true] at h
    cases h
    exact fail_givenUp settled authenticated
  | timedOut | sendFailed =>
    simp only [react] at h
    split at h
    · cases h
      exact fail_givenUp settled authenticated
    · cases h
  | activated =>
    simp only [react, authenticated] at h
    cases h

/-- **One event** and what is decided after it. -/
theorem react_stands {e : ConnectEvent} {events : List ConnectEvent} (stands : Stands cfg events s)
    (h : s.react cfg e = some t) : Stands cfg (e :: events) t := by
  unfold Stands at stands ⊢
  simp only [verdict]
  cases hv : verdict cfg events with
  | undecided =>
    simp only [hv] at stands ⊢
    obtain ⟨u, none⟩ := stands
    have next := undecided_react u h
    cases hd : e.decides cfg with
    | undecided =>
      simp only [hd] at next ⊢
      refine ⟨next, ?_⟩
      intro here
      rcases List.mem_cons.mp here with rfl | older
      · cases hd
      · exact none older
    | givenUp =>
      simp only [hd] at next ⊢
      exact next
    | resolved =>
      simp only [hd] at next ⊢
      refine ⟨next.1, ?_⟩
      have other : e ≠ .error := by
        rintro rfl
        cases hd
      simp [next.2, none, Ne.symm other]
  | givenUp =>
    simp only [hv] at stands ⊢
    exact givenUp_react stands h
  | resolved =>
    simp only [hv] at stands ⊢
    obtain ⟨r, listening⟩ := stands
    obtain ⟨r', kept⟩ := resolved_react r h
    refine ⟨r', ?_⟩
    rw [kept, listening]
    constructor
    · rintro ⟨none, other⟩ here
      rcases List.mem_cons.mp here with rfl | older
      · exact other rfl
      · exact none older
    · intro none
      exact ⟨fun older => none (List.mem_cons_of_mem _ older),
        fun same => none (same ▸ List.mem_cons_self ..)⟩

/-- The record of the events is none of these variables. -/
theorem stands_noted {events noted : List ConnectEvent} (stands : Stands cfg events s) :
    Stands cfg events { s with events := noted } := by
  unfold Stands at stands ⊢
  cases hv : verdict cfg events with
  | undecided =>
    simp only [hv] at stands ⊢
    obtain ⟨⟨settled, authenticated, message, error, close, abort, unexpected⟩, none⟩ := stands
    exact ⟨⟨settled, authenticated, message, error, close, abort, unexpected⟩, none⟩
  | givenUp =>
    simp only [hv] at stands ⊢
    exact ⟨stands.settled, stands.authenticated, stands.message, stands.error, stands.close⟩
  | resolved =>
    simp only [hv] at stands ⊢
    exact ⟨⟨stands.1.settled, stands.1.authenticated⟩, stands.2⟩

end Connect

/-! ## Runs -/

/-- An `error` event is the first on its socket, and comes while `connect` has not
given the socket up. -/
def HeardError (cfg : ConnectorConfig) (s : Connect) (e : ConnectEvent) : Prop :=
  e = .error → .error ∉ s.events ∧ verdict cfg s.events ≠ .givenUp

instance (cfg : ConnectorConfig) (s : Connect) (e : ConnectEvent) :
    Decidable (HeardError cfg s e) := by
  unfold HeardError
  infer_instance

theorem listening_iff {cfg : ConnectorConfig} {events : List ConnectEvent} {s : Connect}
    (stands : Stands cfg events s) :
    s.listeners.error = true ↔ .error ∉ events ∧ verdict cfg events ≠ .givenUp := by
  unfold Stands at stands
  cases hv : verdict cfg events with
  | undecided =>
    simp only [hv] at stands
    simp [stands.1.error, stands.2]
  | givenUp =>
    simp only [hv] at stands
    simp [stands.error]
  | resolved =>
    simp only [hv] at stands
    simp [stands.2]

/-- **Every error of the upstream socket is heard** in exactly those runs of `connect`
in which no second error comes, and none after `connect` has given the socket up. -/
theorem errors_heard (cfg : ConnectorConfig) (runtime : RuntimeResource) (aborted : Bool)
    {start t : Connect} (called : connect cfg runtime aborted = .ok start)
    {events : List ConnectEvent}
    (run : (connector cfg runtime.signalingSecret).runFrom start events = some t) :
    .unheard ∉ t.log ↔
      (connector cfg runtime.signalingSecret).Admits (HeardError cfg) start events := by
  have initial : start = .start runtime.signalingSecret := by
    unfold connect at called
    cases hv : validateTarget cfg runtime with
    | error e => rw [hv] at called; cases called
    | ok u =>
      rw [hv] at called
      cases aborted with
      | true => cases called
      | false => cases called; rfl
  have one : ∀ s e t, Stands cfg s.events s →
      (connector cfg runtime.signalingSecret).step s e = some t → Stands cfg t.events t ∧
      (¬ .unheard ∈ t.log ↔ ¬ .unheard ∈ s.log ∧ HeardError cfg s e) := by
    intro s e t stands h
    obtain ⟨t', hr, rfl⟩ := Option.map_eq_some_iff.mp h
    refine ⟨Connect.stands_noted (Connect.react_stands stands hr), ?_⟩
    have heard : HeardError cfg s e ↔ ¬ (e = .error ∧ s.listeners.error = false) := by
      unfold HeardError
      rw [← listening_iff stands]
      simp
    simp only [heard]
    rw [Connect.react_unheard hr, not_or]
  have stands : Stands cfg start.events start := by
    rw [initial]
    exact ⟨⟨rfl, rfl, rfl, rfl, rfl, rfl, rfl⟩, by simp [Connect.start]⟩
  have clear : .unheard ∉ start.log := by
    rw [initial]
    simp [Connect.start]
  have decided : .unheard ∉ t.log ↔ .unheard ∉ start.log ∧
      (connector cfg runtime.signalingSecret).Admits (HeardError cfg) start events :=
    Machine.clear_iff_admits (I := fun s => Stands cfg s.events s) one stands run
  rw [decided]
  exact ⟨fun h => h.2, fun h => ⟨clear, h⟩⟩

/-! ## A client that leaves early -/

def sampleTarget : RuntimeResource where
  containerId := "container"
  containerName := "fireball"
  networkNamespace := "net"
  storageNamespace := "tmpfs"
  signalingEndpoint := "ws://127.0.0.1:49152/internal/v1/signaling"
  signalingSecret := "AAAAAAAAAAAAAAAAAAAAAAAAAAAAAAAAAAAAAAAAAAA"
  tabControlEndpoint := "http://127.0.0.1:49152/internal/v1/tabs"

/-- `{"type":"authenticated"}`. -/
def authenticatedFrame : Frame where
  data := "\x7b\"type\":\"authenticated\"\x7d".toList.map fun c => UInt8.ofNat c.toNat
  isBinary := false

def sampleConnector : ConnectorConfig where
  maxPayloadBytes := 65536
  parseJson := fun data =>
    if data = authenticatedFrame.data then some (.object [("type", .string "authenticated")]) else none
  parseUrl := fun text =>
    if text = sampleTarget.signalingEndpoint then
      some ⟨text, "ws:", "", "", "127.0.0.1", "/internal/v1/signaling", "", ""⟩
    else none

/-- The upstream authenticates, is activated, and breaks the protocol later. -/
theorem errors_heard_relaying : ∃ start t,
    connect sampleConnector sampleTarget false = .ok start ∧
    (connector sampleConnector sampleTarget.signalingSecret).runFrom start
      [.opened, .message authenticatedFrame, .activated, .error, .closed] = some t ∧
    .called .error ∈ t.log ∧ .unheard ∉ t.log := by
  let final := ((connector sampleConnector sampleTarget.signalingSecret).runFrom
    (.start sampleTarget.signalingSecret)
    [.opened, .message authenticatedFrame, .activated, .error, .closed]).get (by decide)
  have called : connect sampleConnector sampleTarget false =
      .ok (.start sampleTarget.signalingSecret) := rfl
  have run : (connector sampleConnector sampleTarget.signalingSecret).runFrom
      (.start sampleTarget.signalingSecret)
      [.opened, .message authenticatedFrame, .activated, .error, .closed] = some final :=
    (Option.some_get _).symm
  refine ⟨_, final, called, run, by decide, ?_⟩
  exact (errors_heard _ _ _ called run).mpr (Machine.admits_sound (by decide))

/-- The signal is aborted before the socket is open. `fail` takes its listener off
and terminates the socket, whose error then finds none. -/
theorem abort_unheard : ∃ start t,
    connect sampleConnector sampleTarget false = .ok start ∧
    (connector sampleConnector sampleTarget.signalingSecret).runFrom start
      [.aborted, .error, .closed] = some t ∧ .unheard ∈ t.log :=
  ⟨_, _, rfl, rfl, by decide⟩

end Fireball.Signaling
