import Fireball.Tabs.Lines
import Fireball.Tabs.Serial

/-!
# Controller, driver and runtime

The three joined by two lines of text: the commands on their way to the child, and
the replies on their way back. Each is delivered in order, at any time.

* `begin_asks`, `answer_asks`, `step_supplied`: the chain of calls, and what a body asks;
* `deliver_settles`, `driver_lives`: what a living child leaves of the driver's promises.
-/

namespace Fireball.Tabs

open Foundation

structure Joint where
  serial : Serial
  protocol : Protocol
  /-- What the driver returned to the calls that asked it: a rejection, or a promise. -/
  asked : JsMap Nat (Except TabControlError Nat)
  toChild : List String
  fromChild : List String
  runtime : Runtime

inductive JointEvent
  | call (op : TabOperation)
  /-- The body of call `k` begins, and may ask the driver. -/
  | begin (k : Nat)
  /-- What the driver returned to call `k` is settled, and the rest of the body runs. -/
  | answer (k : Nat)
  | caught (k : Nat)
  /-- The runtime is handed the next line. -/
  | execute (o : Outcomes)
  /-- The driver is handed the next line. -/
  | deliver
  /-- A timer, a write, the child or `shutdown`. -/
  | driver (e : ProtocolEvent)
  | padAdded
  /-- `OnBusMessage` meets an error or the end of the stream. -/
  | busError
  /-- `OnInput` meets the end of the input. -/
  | hangup

/-- What the environment supplies to call `k`, the driver's promise being settled so. -/
def supplied (uuids times : Nat → String) (outcome : Except TabControlError Unit) (k : Nat) : Choice :=
  ⟨uuids k, outcome, times k⟩

/-- The controller at the end of a body, after its `await`. -/
def TabController.finish (c : TabController) (createdAt : String) (rest : Awaiting) :
    Except TabControlError Unit → TabController
  | .error _ => c
  | .ok _ => (c.resume createdAt rest).1

def Stage.asks : Stage → Option (DriverCall × Awaiting)
  | .awaiting command rest => some (command, rest)
  | _ => none

/-- What call `k` has asked of the driver, and the rest of its body. -/
def Serial.asks (s : Serial) (k : Nat) : Option (DriverCall × Awaiting) :=
  s.calls[k]?.bind (·.stage.asks)

namespace Joint

/-- How that is settled which the driver returned to call `k`. -/
def outcome (s : Joint) (k : Nat) : Option (Except TabControlError Unit) :=
  match s.asked.get k with
  | none => none
  | some (.error e) => some (.error e)
  | some (.ok promise) => match s.protocol.promises[promise]? with
    | some (some .resolved) => some (.ok ())
    | some (some (.rejected e)) => some (.error e)
    | _ => none

/-- A line written to the child's stdin goes out until the stream is ended. -/
def write (s : Joint) (lines : List String) : List String :=
  if s.protocol.driver.child.stdin = .writable then s.toChild ++ lines else s.toChild

/-- Call `k` asks the driver. -/
def ask (parseUrl : String → Option Url) (s : Joint) (k : Nat) (call : DriverCall) : Option Joint :=
  (protocolStep parseUrl s.protocol (.call call)).map fun protocol =>
    match (s.protocol.driver.call parseUrl call).2 with
    | .ok c => { s with protocol, asked := s.asked.set k (.ok c.promise), toChild := s.write [c.line] }
    | .error e => { s with protocol, asked := s.asked.set k (.error e) }

/-- The runtime and the driver at the beginning: the first tab is there, and `READY` has
been read. -/
def start (id : String) (c : TabController) (r : Runtime) : Joint where
  serial := .initial c
  protocol := ⟨(NativeTabDriver.new id).settleReady (.ok ()), [], [], .empty⟩
  asked := .empty
  toChild := []
  fromChild := []
  runtime := r

end Joint

def jointStep (parseUrl : String → Option Url) (parseUri : Bytes → Option GUri)
    (uuids times : Nat → String) (s : Joint) : JointEvent → Option Joint
  | .call op => some { s with serial := s.serial.call op }
  | .begin k => do
    let serial ← serialStep parseUrl (supplied uuids times (.ok ())) s.serial (.begin k)
    match serial.asks k with
    | some (call, _) => ({ s with serial } : Joint).ask parseUrl k call
    | none => some { s with serial }
  | .answer k => do
    let outcome ← s.outcome k
    let serial ← serialStep parseUrl (supplied uuids times outcome) s.serial (.answer k)
    some { s with serial }
  | .caught k => do
    let serial ← serialStep parseUrl (supplied uuids times (.ok ())) s.serial (.caught k)
    some { s with serial }
  | .execute o => match s.toChild with
    | [] => none
    | line :: toChild =>
      if s.runtime.quit then none
      else
        let (runtime, written) := s.runtime.handleCommand parseUri o (utf8 line)
        some { s with runtime, toChild, fromChild := s.fromChild ++ written.map decodeUtf8 }
  | .deliver => match s.fromChild with
    | [] => none
    | line :: fromChild => (protocolStep parseUrl s.protocol (.line line)).map fun protocol =>
      { s with protocol, fromChild }
  | .driver e => match e with
    | .call _ | .line _ => none
    | .shutdown => (protocolStep parseUrl s.protocol .shutdown).map fun protocol =>
      { s with protocol, toChild := s.toChild ++ s.protocol.driver.shutdown.2 }
    | e => (protocolStep parseUrl s.protocol e).map fun protocol => { s with protocol }
  | .padAdded => some { s with runtime := { s.runtime with nextElementId := s.runtime.nextElementId + 1 } }
  | .busError => some { s with runtime := s.runtime.stop }
  | .hangup => some { s with runtime := { s.runtime with quit := true } }

def joint (parseUrl : String → Option Url) (parseUri : Bytes → Option GUri)
    (uuids times : Nat → String) (id : String) (c : TabController) (r : Runtime) :
    Machine Joint JointEvent :=
  ⟨.start id c r, jointStep parseUrl parseUri uuids times⟩

/-- The child has neither exited nor been told to: no signal, no `SHUTDOWN`, and no end of
its input. -/
structure Child.Lives (child : Child) : Prop where
  exited : child.exited = false
  killed : child.killed = false
  stdin : child.stdin = .writable

structure Alive (s : Joint) : Prop where
  child : s.protocol.driver.child.Lives
  loop : s.runtime.quit = false

/-! ## The chain of calls -/

section
variable {parseUrl : String → Option Url} {env : Nat → Choice} {c : TabController} {s t : Serial}
  {n k : Nat} {uuids times : Nat → String} {outcome : Except TabControlError Unit} {call call' : Call}

theorem asks_stage {command : DriverCall} {rest : Awaiting} (h : s.asks k = some (command, rest)) :
    ∃ call, s.calls[k]? = some call ∧ call.stage = .awaiting command rest := by
  obtain ⟨call, found, asks⟩ := Option.bind_eq_some_iff.mp h
  refine ⟨call, found, ?_⟩
  unfold Stage.asks at asks
  split at asks
  · rename_i stage
    cases asks
    exact stage
  · cases asks

theorem asks_put (found : s.calls[k]? = some call) (j : Nat) :
    (s.put k call').asks j = if k = j then call'.stage.asks else s.asks j := by
  unfold Serial.asks
  rw [get_put found]
  split <;> rfl

theorem asks_call (op : TabOperation) (k : Nat) : (s.call op).asks k = s.asks k := by
  simp only [Serial.asks, Serial.call, List.getElem?_append]
  split
  · rfl
  · rename_i outside
    rw [List.getElem?_eq_none_iff.mpr (Nat.le_of_not_lt outside)]
    cases k - s.calls.length <;> rfl

/-- Only the call whose turn it is asks. -/
theorem asks_turn (wf : SerialWf parseUrl env c s n) {command : DriverCall} {rest : Awaiting}
    (h : s.asks k = some (command, rest)) : k = n := by
  obtain ⟨call, found, stage⟩ := asks_stage h
  exact (wf.begun k call command rest found stage).1

theorem asks_other (wf : SerialWf parseUrl env c s n) (other : k ≠ n) : s.asks k = none := by
  cases asks : s.asks k with
  | none => rfl
  | some pair => exact absurd (asks_turn wf asks) other

theorem asks_found (found : s.calls[k]? = some call) : s.asks k = call.stage.asks := by
  rw [Serial.asks, found, Option.bind_some]

/-- A body begins, and nothing was asked before. -/
theorem begin_asks (wf : SerialWf parseUrl env c s n)
    (h : serialStep parseUrl (supplied uuids times outcome) s (.begin k) = some t) :
    t.controller = s.controller ∧ (∀ j, s.asks j = none) ∧ ∀ j, j ≠ k → t.asks j = none := by
  simp only [serialStep] at h
  split at h
  · rename_i op chainedTo caught found
    split at h
    · rename_i settled
      cases h
      have turn : k = n := begin_turn wf found rfl settled
      subst turn
      have quiet : ∀ j, s.asks j = none := by
        intro j
        by_cases same : j = k
        · rw [same, asks_found found]
          rfl
        · exact asks_other wf same
      refine ⟨rfl, quiet, fun j other => ?_⟩
      rw [asks_put found, if_neg (Ne.symm other)]
      exact quiet j
    · cases h
  · cases h

/-- A body goes on after its `await`, to its end. -/
theorem answer_asks (wf : SerialWf parseUrl env c s n)
    (h : serialStep parseUrl (supplied uuids times outcome) s (.answer k) = some t) :
    ∃ command rest, s.asks k = some (command, rest) ∧ (∀ j, t.asks j = none) ∧
      t.controller = s.controller.finish (times k) rest outcome := by
  simp only [serialStep] at h
  split at h
  · rename_i op chainedTo command rest caught found
    have asks : s.asks k = some (command, rest) := asks_found found
    have turn := asks_turn wf asks
    have ended : ∀ (result : Result) j,
        (s.put k ⟨op, chainedTo, .ended result, caught⟩).asks j = none := by
      intro result j
      rw [asks_put found]
      split
      · rfl
      · rename_i other
        exact asks_other wf fun same => other (turn.trans same.symm)
    cases outcome with
    | error e =>
      cases h
      exact ⟨command, rest, asks, ended _, rfl⟩
    | ok =>
      cases h
      exact ⟨command, rest, asks, ended _, rfl⟩
  · cases h

theorem caught_asks (h : serialStep parseUrl env s (.caught k) = some t) :
    t.controller = s.controller ∧ ∀ j, t.asks j = s.asks j := by
  simp only [serialStep] at h
  split at h
  · rename_i op chainedTo result found
    cases h
    refine ⟨rfl, fun j => ?_⟩
    rw [asks_put found]
    split
    · rename_i same
      rw [← same, asks_found found]
    · rfl
  · cases h

theorem sequential_congr {env' : Nat → Choice} (c : TabController) {ops : List TabOperation}
    (same : ∀ k, k < ops.length → env k = env' k) :
    sequential parseUrl env c ops = sequential parseUrl env' c ops := by
  induction ops using List.reverseRecOn with
  | nil => rfl
  | append_singleton ops op ih =>
    have before : sequential parseUrl env c ops = sequential parseUrl env' c ops := by
      refine ih fun k inside => same k ?_
      rw [List.length_append]
      omega
    have last : env ops.length = env' ops.length := same _ (by simp)
    rw [sequential_snoc, sequential_snoc, before, last]

/-- What is supplied to the calls that have not ended may be chosen later. -/
theorem SerialWf.choose (wf : SerialWf parseUrl env c s n) {env' : Nat → Choice}
    (past : ∀ k, k < n → env k = env' k) (uuid : (env n).uuid = (env' n).uuid) :
    SerialWf parseUrl env' c s n := by
  have same : sequential parseUrl env c (s.operations.take n) =
      sequential parseUrl env' c (s.operations.take n) :=
    sequential_congr c fun k inside => past k (by rw [List.length_take] at inside; omega)
  refine ⟨wf.bound, wf.last, wf.chained, ?_, ?_, ?_, wf.caught⟩
  · rw [← same]
    exact wf.state
  · rw [← same]
    exact wf.results
  · rw [← uuid]
    exact wf.begun

/-- **One event** of the chain, with what the environment supplies at that time. -/
theorem step_supplied {e : SerialEvent} (wf : SerialWf parseUrl env c s n)
    (same : ∀ k, (env k).uuid = uuids k)
    (h : serialStep parseUrl (supplied uuids times outcome) s e = some t) :
    ∃ env' m, (∀ k, (env' k).uuid = uuids k) ∧ SerialWf parseUrl env' c t m := by
  let env' := fun k => if k < n then env k else supplied uuids times outcome k
  have uuid : ∀ k, (env' k).uuid = uuids k := by
    intro k
    simp only [env']
    split
    · exact same k
    · rfl
  have wf' : SerialWf parseUrl env' c s n :=
    wf.choose (fun k inside => (if_pos inside).symm) ((same n).trans (uuid n).symm)
  have step : serialStep parseUrl env' s e = some t := by
    rw [← h]
    cases e with
    | call | caught => rfl
    | begin k => simp only [serialStep, uuid, supplied]
    | answer k =>
      simp only [serialStep]
      split
      · rename_i op chainedTo command rest caught found
        have turn : k = n := (wf.begun k _ command rest found rfl).1
        have now : env' k = supplied uuids times outcome k := if_neg (by omega)
        rw [now]
      · rfl
  obtain ⟨m, wf''⟩ := step_serial wf' step
  exact ⟨env', m, uuid, wf''⟩

end

/-! ## The driver -/

section
variable {parseUrl : String → Option Url} {s t : Protocol} {c : Command}

/-- A command that was sent, by its promise. -/
theorem ProtocolWf.known (wf : ProtocolWf s) (sent : c ∈ s.sent) :
    s.sent[c.promise]? = some c ∧ c.request = toString (c.promise + 1) := by
  obtain ⟨k, found⟩ := List.getElem?_of_mem sent
  obtain ⟨promise, request⟩ := wf.named k c found
  rw [promise]
  exact ⟨found, request⟩

theorem call_child {d d' : NativeTabDriver} {call : DriverCall} {result : Except TabControlError Command}
    (h : d.call parseUrl call = (d', result)) : d'.child = d.child := by
  have sent : ∀ {type arguments}, d.command type arguments = (d', result) → d'.child = d.child := by
    intro type arguments sent
    unfold NativeTabDriver.command at sent
    split at sent <;> cases sent <;> rfl
  cases call with
  | create | navigate =>
    simp only [NativeTabDriver.call] at h
    split at h
    · cases h
      rfl
    · exact sent h
  | activate | remove => exact sent h

/-- `#fail` tells a child to exit that has not. -/
theorem fail_lives {d : NativeTabDriver} {message : String} : ¬ (d.fail message).1.child.Lives := by
  intro lives
  have exited : d.child.exited = false := lives.exited
  have killed := lives.killed
  simp [NativeTabDriver.fail, exited] at killed

/-- **A reply** that does not end the child settles the promise of its command. -/
theorem deliver_settles {line : String} (wf : ProtocolWf s) (sent : c ∈ s.sent)
    (answers : Answers c line) (lives : (s.driver.handleLine line).1.child.Lives) :
    ∃ o, (o = .resolved ↔ line = "OK " ++ c.request) ∧
      ∀ j, (s.apply (s.driver.handleLine line)).promises[j]? =
        if j = c.promise then s.promises[j]?.map (·.or (some o)) else s.promises[j]? := by
  obtain ⟨-, request⟩ := wf.known sent
  have spaceless : ' ' ∉ c.request.toList := request ▸ blank_toString _
  have ready := answer_not_ready answers spaceless
  cases reply : parseResponse line with
  | none =>
    rw [handleLine_malformed ⟨ready, reply⟩] at lives
    exact absurd lives fail_lives
  | some response =>
    obtain ⟨ok, number⟩ := response
    obtain ⟨rfl, ok_iff⟩ := parse_answer answers spaceless reply
    let o : Outcome := if ok then .resolved
      else .rejected ⟨.tabRuntimeFailure, "tab runtime rejected the operation"⟩
    have resolved : o = .resolved ↔ line = "OK " ++ c.request := by
      rw [← ok_iff]
      cases ok <;> simp [o]
    rw [handleLine_reply reply]
    cases found : s.driver.pending.get c.request with
    | none =>
      refine ⟨o, resolved, fun j => ?_⟩
      have settled : s.promises[c.promise]? ≠ some none := fun waits => by
        cases found.symm.trans ((wf.pending c.request c.promise).mpr ⟨request, waits⟩)
      show s.promises[j]? = _
      split
      · rename_i same
        subst same
        cases there : s.promises[c.promise]? with
        | none => rfl
        | some before =>
          cases before with
          | none => exact absurd there settled
          | some => rfl
      · rfl
    | some promise =>
      have same : promise = c.promise := by
        have number := ((wf.pending c.request promise).mp found).1
        have := toString_inj.mp (request.symm.trans number)
        omega
      subst same
      refine ⟨o, resolved, fun j => ?_⟩
      simp only [Protocol.apply, NativeTabDriver.settle, get_settled]
      by_cases same : j = c.promise
      · rw [if_pos same, same, List.lookup_cons_self]
      · rw [if_neg same, (lookup_single _ _ _).mpr same]
        cases s.promises[j]? with
        | none => rfl
        | some before => cases before <;> rfl

/-- What the child is told stays told. -/
theorem lives_before {e : ProtocolEvent} (h : protocolStep parseUrl s e = some t)
    (lives : t.driver.child.Lives) : s.driver.child.Lives := by
  cases e with
  | call call =>
    simp only [protocolStep] at h
    split at h
    · rename_i d c called
      cases h
      rw [← call_child called]
      exact lives
    · rename_i d error called
      cases h
      rw [← call_child called]
      exact lives
  | line line =>
    cases h
    simp only [Protocol.apply, NativeTabDriver.handleLine] at lives
    split at lives
    · exact lives
    · split at lives
      · exact absurd lives fail_lives
      · split at lives <;> exact lives
  | expired p =>
    simp only [protocolStep] at h
    split at h
    · obtain ⟨c, -, rfl⟩ := Option.map_eq_some_iff.mp h
      exact lives
    · cases h
  | written p failed =>
    simp only [protocolStep] at h
    split at h
    · obtain ⟨c, -, rfl⟩ := Option.map_eq_some_iff.mp h
      cases failed with
      | false => exact lives
      | true => cases lives.stdin
    · cases h
  | childError message =>
    cases h
    exact absurd lives fail_lives
  | childExit status =>
    simp only [protocolStep] at h
    split at h
    · cases h
    · cases h
      cases lives.exited
  | stdinDestroyed =>
    cases h
    cases lives.stdin
  | shutdown =>
    cases h
    have stdin := lives.stdin
    simp only [NativeTabDriver.shutdown] at lives stdin
    split at stdin
    · cases stdin
    · rename_i ended
      rw [if_neg ended] at lives
      exact lives

/-- The timers and the writes are all that the driver meets while the child lives. -/
theorem driver_lives {e : ProtocolEvent} (wf : ProtocolWf s) (calls : ∀ call, e ≠ .call call)
    (lines : ∀ line, e ≠ .line line) (h : protocolStep parseUrl s e = some t)
    (lives : t.driver.child.Lives) :
    t.sent = s.sent ∧ ((∃ p failed, e = .written p failed ∧ t.promises = s.promises) ∨
      ∃ p error, e = .expired p ∧ s.promises[p]? = some none ∧
        ∀ j, t.promises[j]? = if j = p then some (some (.rejected error)) else s.promises[j]?) := by
  cases e with
  | call call => exact absurd rfl (calls call)
  | line line => exact absurd rfl (lines line)
  | expired p =>
    simp only [protocolStep] at h
    split at h
    · rename_i runs
      obtain ⟨c, sent, rfl⟩ := Option.map_eq_some_iff.mp h
      have waits : s.promises[p]? = some none := (wf.timers p).mp runs
      refine ⟨rfl, .inr ⟨p, runtimeUnavailable "tab runtime command timed out", rfl, waits, fun j => ?_⟩⟩
      simp only [Protocol.apply, NativeTabDriver.expire, NativeTabDriver.settle, get_settled,
        (wf.named p c sent).1]
      split
      · rename_i same
        subst same
        simp [waits]
      · rename_i other
        rw [(lookup_single _ _ _).mpr other]
        cases s.promises[j]? with
        | none => rfl
        | some before => cases before <;> rfl
    · cases h
  | written p failed =>
    simp only [protocolStep] at h
    split at h
    · obtain ⟨c, sent, rfl⟩ := Option.map_eq_some_iff.mp h
      cases failed with
      | false => exact ⟨rfl, .inl ⟨p, false, rfl, rfl⟩⟩
      | true => cases lives.stdin
    · cases h
  | childError message =>
    cases h
    exact absurd lives fail_lives
  | childExit status =>
    simp only [protocolStep] at h
    split at h
    · cases h
    · cases h
      cases lives.exited
  | stdinDestroyed =>
    cases h
    cases lives.stdin
  | shutdown =>
    cases h
    have stdin := lives.stdin
    simp only [NativeTabDriver.shutdown] at stdin
    split at stdin
    · cases stdin
    · rename_i ended
      exact absurd stdin ended

end

end Fireball.Tabs
