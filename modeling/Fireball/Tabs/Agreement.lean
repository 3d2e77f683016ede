import Fireball.Tabs.Journey

/-!
# Controller and runtime agree

* `Tracks`: between an `OK` of the runtime and the end of the body that waits for it,
  the runtime is one call ahead; else both copies agree;
* `move_tracks`: every punctual step keeps it;
* `controller_runtime_agree`: at rest, the copies are equal.
-/

namespace Fireball.Tabs

open Foundation

/-- No operation is pending, and no command or reply is in flight. -/
structure Quiet (s : Joint) : Prop where
  calls : ∀ k, k < s.serial.calls.length → ∃ result, s.serial.result k = some result
  commands : s.toChild = []
  replies : s.fromChild = []

def Navigates (line : String) : Prop :=
  (Runtime.fields (utf8 line)).head? = some (utf8 "NAVIGATE")

instance (line : String) : Decidable (Navigates line) := by unfold Navigates; infer_instance

/-- A command that creates, activates or deletes a tab is not carried out once it was
given up, and not given up once it was carried out. -/
def Punctual (parseUri : Bytes → Option GUri) (s : Joint) : JointEvent → Prop
  | .driver (.expired p) => ∀ c ∈ s.protocol.sent, c.promise = p →
    Navigates c.line ∨ "OK " ++ c.request ∉ s.fromChild
  | .execute o => ∀ c ∈ s.protocol.sent, s.toChild.head? = some c.line →
    s.protocol.promises[c.promise]? ≠ some none →
    Navigates c.line ∨ s.runtime.refuses parseUri o (utf8 c.line) = true
  | _ => True

instance (parseUri : Bytes → Option GUri) (s : Joint) (e : JointEvent) :
    Decidable (Punctual parseUri s e) := by
  unfold Punctual
  split <;> infer_instance

/-- A call at its `await`, and the promise that it waits for. -/
def Joint.Running (s : Joint) (command : DriverCall) (rest : Awaiting) (p : Nat) : Prop :=
  ∃ k, s.serial.asks k = some (command, rest) ∧ s.asked.get k = some (.ok p)

/-- The promise is resolved, or will be by an `OK` on its way. -/
def Joint.Succeeds (s : Joint) (p : Nat) : Prop :=
  s.protocol.promises[p]? = some (some .resolved) ∨
    s.protocol.promises[p]? = some none ∧ "OK " ++ toString (p + 1) ∈ s.fromChild

/-- One call asks at a time, and it knows of the tabs it names. -/
structure OneTurn (s : Joint) : Prop where
  turn : ∀ {j k command rest command' rest'}, s.serial.asks j = some (command, rest) →
    s.serial.asks k = some (command', rest') → j = k
  ready : ∀ {k command rest}, s.serial.asks k = some (command, rest) →
    ∃ uuid, Ready s.serial.controller uuid command rest

structure Tracks (s : Joint) : Prop where
  waits : ∀ {p : Nat}, s.protocol.promises[p]? = some none → ∃ command rest, s.Running command rest p
  carries : ∀ {command rest p}, s.Running command rest p →
    ∃ c ∈ s.protocol.sent, c.promise = p ∧ Carries command c
  ahead : ∀ {command rest p}, s.Running command rest p → s.Succeeds p →
    ∀ time, Agree (s.serial.controller.resume time rest).1 s.runtime
  level : (∀ command rest p, s.Running command rest p → ¬ s.Succeeds p) →
    Agree s.serial.controller s.runtime

section
variable {parseUrl : String → Option Url} {parseUri : Bytes → Option GUri} {uuids times : Nat → String}
  {s t : Joint} {e : JointEvent}

theorem Agree.unchanged {c : TabController} {r r' : Runtime} (agree : Agree c r) (same : Unchanged r r') :
    Agree c r' where
  tabs := fun b => by
    rw [same.tabs]
    exact agree.tabs b
  active := same.active.trans agree.active

theorem Carries.navigate {call : DriverCall} {c : Command} (carries : Carries call c)
    (navigates : Navigates c.line) : ∃ id url, call = .navigate id url := by
  obtain ⟨rest, fields, -⟩ := carries.fields
  rw [Navigates, fields, List.head?_cons, Option.some.injEq, utf8_inj] at navigates
  cases call with
  | navigate id url => exact ⟨id, url, rfl⟩
  | create | activate | remove => simp [DriverCall.name] at navigates

/-- A navigation changes neither which tabs there are nor which one is active. -/
theorem Agree.navigated {k : TabController} {r r' : Runtime} {c : Command} {call : DriverCall}
    (agree : Agree k r) (carries : Carries call c) (navigates : Navigates c.line)
    (effect : Effect parseUri r r' (utf8 c.request) (Runtime.fields (utf8 c.line))) : Agree k r' := by
  obtain ⟨id, url, rfl⟩ := carries.navigate navigates
  obtain ⟨rest, fields, other⟩ := carries.fields
  have done := effect_done effect fields other
  exact ⟨fun b => by rw [done.tabs]; exact agree.tabs b, done.active.trans agree.active⟩

theorem agree_navigate {k : TabController} {r : Runtime} {id url time : String} {previous : Tab}
    (known : k.tabs.get id = some previous)
    (agree : Agree (k.resume time (.navigate id previous url)).1 r) : Agree k r := by
  have tabs := agree.tabs
  simp only [TabController.resume, JsMap.has_set_known known] at tabs
  exact ⟨tabs, agree.active⟩

theorem OneTurn.running (one : OneTurn s) {command command' : DriverCall} {rest rest' : Awaiting}
    {p p' : Nat} (h : s.Running command rest p) (h' : s.Running command' rest' p') :
    command = command' ∧ rest = rest' ∧ p = p' := by
  obtain ⟨k, asks, asked⟩ := h
  obtain ⟨k', asks', asked'⟩ := h'
  cases one.turn asks asks'
  cases asks.symm.trans asks'
  cases asked.symm.trans asked'
  exact ⟨rfl, rfl, rfl⟩

/-- A step after which the same call waits, and as before. -/
theorem Tracks.frame (tracks : Tracks s)
    (running : ∀ {command rest p}, t.Running command rest p ↔ s.Running command rest p)
    (controller : t.serial.controller = s.serial.controller) (sent : t.protocol.sent = s.protocol.sent)
    (promises : ∀ p : Nat, t.protocol.promises[p]? = some none → s.protocol.promises[p]? = some none)
    (succeeds : ∀ {command rest p}, s.Running command rest p → (t.Succeeds p ↔ s.Succeeds p))
    (agree : ∀ {c}, Agree c s.runtime → Agree c t.runtime) : Tracks t where
  waits := fun waits => by
    obtain ⟨command, rest, runs⟩ := tracks.waits (promises _ waits)
    exact ⟨command, rest, running.mpr runs⟩
  carries := fun runs => by
    rw [sent]
    exact tracks.carries (running.mp runs)
  ahead := fun runs done time => by
    rw [controller]
    exact agree (tracks.ahead (running.mp runs) ((succeeds (running.mp runs)).mp done) time)
  level := fun pending => by
    rw [controller]
    exact agree (tracks.level fun command rest p runs done =>
      pending command rest p (running.mpr runs) ((succeeds runs).mpr done))

/-- A step after which no call waits. -/
theorem Tracks.idle (stopped : ∀ {command rest p}, ¬ t.Running command rest p)
    (settled : ∀ p : Nat, t.protocol.promises[p]? ≠ some none)
    (agree : Agree t.serial.controller t.runtime) : Tracks t where
  waits := fun waits => absurd waits (settled _)
  carries := fun runs => absurd runs stopped
  ahead := fun runs => absurd runs stopped
  level := fun _ => agree

theorem ok_request {c : Command} {line : String} {p : Nat} (known : c.request = toString (c.promise + 1))
    (answers : Answers c line) (same : "OK " ++ toString (p + 1) = line) :
    p = c.promise ∧ line = "OK " ++ c.request := by
  cases answers with
  | ok =>
    have number := (String.append_right_inj "OK ").mp same
    rw [known, toString_inj] at number
    exact ⟨by omega, rfl⟩
  | err code => exact absurd same.symm (ok_ne_coded _ _ _)

/-- A command is sent: its promise is the only one that waits. -/
theorem tracks_sent {k : Nat} {serial : Serial} {protocol : Protocol} {c : Command} {command : DriverCall}
    {rest : Awaiting} (tracks : Tracks s) (controller : serial.controller = s.serial.controller)
    (before : ∀ j, s.serial.asks j = none) (others : ∀ j, j ≠ k → serial.asks j = none)
    (asks : serial.asks k = some (command, rest)) (carries : Carries command c)
    (sent : protocol.sent = s.protocol.sent ++ [c])
    (promises : protocol.promises = s.protocol.promises ++ [none])
    (promise : c.promise = s.protocol.promises.length) (fresh : "OK " ++ c.request ∉ s.fromChild)
    (wf : ProtocolWf protocol) :
    Tracks { s with
      serial, protocol, asked := s.asked.set k (.ok c.promise), toChild := s.toChild ++ [c.line] } := by
  have idle : ∀ {command rest p}, ¬ s.Running command rest p := by
    rintro command rest p ⟨j, asks, -⟩
    cases (before j).symm.trans asks
  have mem : c ∈ protocol.sent := by simp [sent]
  have waiting : protocol.promises[c.promise]? = some none := by simp [promises, promise]
  have runs : ∀ {command' rest' p}, Joint.Running { s with
      serial, protocol, asked := s.asked.set k (.ok c.promise), toChild := s.toChild ++ [c.line] }
      command' rest' p → command' = command ∧ p = c.promise := by
    rintro command' rest' p ⟨j, asks', asked⟩
    by_cases turn : j = k
    · subst turn
      cases asks.symm.trans asks'
      rw [JsMap.get_set_self] at asked
      cases asked
      exact ⟨rfl, rfl⟩
    · cases (others j turn).symm.trans asks'
  refine ⟨fun {p} waits => ?_, fun running => ?_, fun running done => ?_, fun _ => ?_⟩
  · by_cases new : p = c.promise
    · subst new
      exact ⟨command, rest, k, asks, JsMap.get_set_self⟩
    · have old : s.protocol.promises[p]? = some none := by
        simp only [promises, List.getElem?_append] at waits
        split at waits
        · exact waits
        · rename_i outside
          have inside := (List.getElem?_eq_some_iff.mp waits).1
          simp only [List.length_singleton] at inside
          omega
      obtain ⟨_, _, running⟩ := tracks.waits old
      exact absurd running idle
  · obtain ⟨rfl, rfl⟩ := runs running
    exact ⟨c, mem, rfl, carries⟩
  · obtain ⟨-, rfl⟩ := runs running
    rcases done with resolved | ⟨-, reply⟩
    · cases waiting.symm.trans resolved
    · rw [← (wf.known mem).2] at reply
      exact absurd reply fresh
  · simp only [controller]
    exact tracks.level fun _ _ _ running => absurd running idle

/-- The body of a call ends: with the `OK` that put the runtime ahead, or with nothing done. -/
theorem tracks_answered {k : Nat} {serial : Serial} {command : DriverCall} {rest : Awaiting}
    {outcome : Except TabControlError Unit} {time : String} (tracks : Tracks s) (one : OneTurn s)
    (asks : s.serial.asks k = some (command, rest)) (after : ∀ j, serial.asks j = none)
    (settled : s.outcome k = some outcome)
    (controller : serial.controller = s.serial.controller.finish time rest outcome) :
    Tracks { s with serial } := by
  have stopped : ∀ {command rest p}, ¬ Joint.Running { s with serial } command rest p := by
    rintro command rest p ⟨j, asks, -⟩
    cases (after j).symm.trans asks
  have here : ∀ {command' rest' p}, s.Running command' rest' p → s.asked.get k = some (.ok p) := by
    rintro command' rest' p ⟨j, asks', asked⟩
    cases one.turn asks asks'
    exact asked
  refine .idle stopped (fun p waits => ?_) ?_
  · obtain ⟨_, _, running⟩ := tracks.waits waits
    have waits : s.protocol.promises[p]? = some none := waits
    simp [Joint.outcome, here running, waits] at settled
  · simp only [controller]
    unfold Joint.outcome at settled
    split at settled
    · cases settled
    · rename_i error asked
      cases settled
      refine tracks.level fun _ _ _ running => ?_
      cases asked.symm.trans (here running)
    · rename_i promise asked
      split at settled
      · rename_i resolved
        cases settled
        exact tracks.ahead ⟨k, asks, asked⟩ (.inl resolved) time
      · rename_i error rejected
        cases settled
        refine tracks.level fun _ _ p running done => ?_
        cases asked.symm.trans (here running)
        rcases done with resolved | ⟨waits, -⟩
        · cases rejected.symm.trans resolved
        · cases rejected.symm.trans waits
      · cases settled

/-- A reply that is no `OK` of its command is on the way. -/
theorem tracks_refused {c : Command} {runtime : Runtime} {toChild : List String} {reply : String}
    (tracks : Tracks s) (wf : ProtocolWf s.protocol) (known : c ∈ s.protocol.sent)
    (other : s.protocol.promises[c.promise]? = some none → reply ≠ "OK " ++ c.request)
    (answers : Answers c reply) (agree : ∀ {k}, Agree k s.runtime → Agree k runtime) :
    Tracks { s with runtime, toChild, fromChild := s.fromChild ++ [reply] } := by
  refine tracks.frame Iff.rfl rfl rfl (fun _ waits => waits) ?_ agree
  intro command rest p _
  simp only [Joint.Succeeds, List.mem_append, List.mem_singleton]
  refine or_congr_right (and_congr_right fun waits => or_iff_left ?_)
  intro same
  obtain ⟨rfl, ok⟩ := ok_request (wf.known known).2 answers same
  exact other waits ok

/-- A command is carried out. -/
theorem tracks_executed {o : Outcomes} {c : Command} {runtime : Runtime} {toChild : List String}
    (punctual : Punctual parseUri s (.execute o)) (tracks : Tracks s) (one : OneTurn s)
    (lines : LinesWf s) (wf : ProtocolWf s.protocol) (known : c ∈ s.protocol.sent)
    (commands : s.toChild = c.line :: toChild) (fresh : "OK " ++ c.request ∉ s.fromChild)
    (accepted : s.runtime.refuses parseUri o (utf8 c.line) = false)
    (effect : Effect parseUri s.runtime runtime (utf8 c.request) (Runtime.fields (utf8 c.line))) :
    Tracks { s with runtime, toChild, fromChild := s.fromChild ++ ["OK " ++ c.request] } := by
  by_cases waits : s.protocol.promises[c.promise]? = some none
  · obtain ⟨command, rest, running⟩ := tracks.waits waits
    obtain ⟨c', mem, promise, carries⟩ := tracks.carries running
    have same : c' = c := by
      have there := (wf.known mem).1
      rw [promise, (wf.known known).1] at there
      exact (Option.some.inj there).symm
    subst same
    obtain ⟨args, fields, fallback⟩ := carries.fields
    have before : Agree s.serial.controller s.runtime := by
      refine tracks.level fun _ _ p running' done => ?_
      obtain ⟨-, -, rfl⟩ := one.running running running'
      rcases done with resolved | ⟨-, reply⟩
      · cases waits.symm.trans resolved
      · rw [← (wf.known known).2] at reply
        exact fresh reply
    have after : ∀ time, Agree (s.serial.controller.resume time rest).1 runtime := by
      intro time
      obtain ⟨k, asks, -⟩ := running
      obtain ⟨uuid, ready⟩ := one.ready asks
      exact done_agrees time ready before (effect_done effect fields fallback)
    refine ⟨tracks.waits, tracks.carries, fun running' _ time => ?_, fun pending => ?_⟩
    · obtain ⟨-, rfl, -⟩ := one.running running running'
      exact after time
    · refine absurd (.inr ⟨waits, ?_⟩) (pending command rest c'.promise running)
      rw [← (wf.known known).2]
      exact List.mem_append_right _ (List.mem_singleton.mpr rfl)
  · have navigates : Navigates c.line := by
      have late := punctual c known (by rw [commands, List.head?_cons]) waits
      refine late.resolve_right ?_
      rw [accepted]
      decide
    obtain ⟨call, carries⟩ := lines.carried c known
    exact tracks_refused tracks wf known (fun waits' => absurd waits' waits) .ok
      fun agree => agree.navigated carries navigates effect

/-- A reply settles the promise of its command. -/
theorem tracks_delivered {c : Command} {line : String} {fromChild : List String} {protocol : Protocol}
    {outcome : Outcome} (tracks : Tracks s) (wf : ProtocolWf s.protocol) (known : c ∈ s.protocol.sent)
    (replies : s.fromChild = line :: fromChild) (answers : Answers c line)
    (once : "OK " ++ c.request ∉ fromChild) (resolved : outcome = .resolved ↔ line = "OK " ++ c.request)
    (sent : protocol.sent = s.protocol.sent)
    (promises : ∀ j : Nat, protocol.promises[j]? =
      if j = c.promise then s.protocol.promises[j]?.map (·.or (some outcome))
      else s.protocol.promises[j]?) : Tracks { s with protocol, fromChild } := by
  obtain ⟨-, request⟩ := wf.known known
  refine tracks.frame Iff.rfl rfl sent (fun p waits => ?_) (fun {_ _ p} _ => ?_) fun agree => agree
  · rw [promises] at waits
    split at waits
    · cases before : s.protocol.promises[p]? with
      | none => simp [before] at waits
      | some o => cases o <;> simp [before] at waits
    · exact waits
  · simp only [Joint.Succeeds, promises, replies, List.mem_cons]
    by_cases own : p = c.promise
    · subst own
      rw [if_pos rfl, ← request]
      cases s.protocol.promises[c.promise]? with
      | none => simp
      | some before =>
        cases before with
        | some o => simp
        | none => simp [once, resolved, eq_comm]
    · rw [if_neg own]
      refine or_congr_right (and_congr_right fun _ => (or_iff_right ?_).symm)
      exact fun same => own (ok_request request answers same).1

/-- A timer fires, and no `OK` will be missed. -/
theorem tracks_expired {p : Nat} {protocol : Protocol} {error : TabControlError}
    (punctual : Punctual parseUri s (.driver (.expired p))) (tracks : Tracks s) (one : OneTurn s)
    (wf : ProtocolWf s.protocol) (waits : s.protocol.promises[p]? = some none)
    (sent : protocol.sent = s.protocol.sent)
    (promises : ∀ j : Nat, protocol.promises[j]? =
      if j = p then some (some (.rejected error)) else s.protocol.promises[j]?) :
    Tracks { s with protocol } := by
  obtain ⟨command, rest, running⟩ := tracks.waits waits
  obtain ⟨c, known, rfl, carries⟩ := tracks.carries running
  have rejected : protocol.promises[c.promise]? = some (some (.rejected error)) := by
    rw [promises, if_pos rfl]
  have failed : ∀ {command' rest' p}, s.Running command' rest' p →
      ¬ Joint.Succeeds { s with protocol } p := by
    intro command' rest' p running' done
    obtain ⟨-, -, rfl⟩ := one.running running running'
    rcases done with resolved | ⟨none, -⟩
    · cases rejected.symm.trans resolved
    · cases rejected.symm.trans none
  refine ⟨fun {q} waits' => ?_, fun running' => ?_, fun running' done => absurd done (failed running'),
    fun _ => ?_⟩
  · simp only [promises] at waits'
    split at waits'
    · cases waits'
    · obtain ⟨_, _, running'⟩ := tracks.waits waits'
      exact ⟨_, _, running'⟩
  · simp only [sent]
    exact tracks.carries running'
  · show Agree s.serial.controller s.runtime
    by_cases done : s.Succeeds c.promise
    · -- the runtime is ahead, and by the condition only with a navigation
      have reply : "OK " ++ c.request ∈ s.fromChild := by
        rcases done with resolved | ⟨-, reply⟩
        · cases waits.symm.trans resolved
        · rw [(wf.known known).2]
          exact reply
      have navigates : Navigates c.line := (punctual c known rfl).resolve_right (not_not.mpr reply)
      obtain ⟨id, url, rfl⟩ := carries.navigate navigates
      have ahead := tracks.ahead running done ""
      obtain ⟨k, asks, -⟩ := running
      obtain ⟨uuid, ready⟩ := one.ready asks
      cases ready with
      | navigate there => exact agree_navigate there ahead
    · refine tracks.level fun _ _ q running' done' => ?_
      obtain ⟨-, -, rfl⟩ := one.running running running'
      exact done done'

/-- **One step** of a living child, when it is punctual. -/
theorem move_tracks (moves : Moves parseUri times s e t) (punctual : Punctual parseUri s e)
    (tracks : Tracks s) (one : OneTurn s) (lines : LinesWf s) (wf : ProtocolWf s.protocol)
    (wf' : ProtocolWf t.protocol) : Tracks t := by
  cases moves with
  | quiet controller asks sent promises runtime =>
    refine tracks.frame ?_ controller sent ?_ ?_ fun agree => agree.unchanged runtime
    · intro command rest p
      simp only [Joint.Running, asks]
    · intro p waits
      simpa only [promises] using waits
    · intro command rest p _
      simp only [Joint.Succeeds, promises]
  | @rejected k serial protocol error controller before others sent promises =>
    have idle : ∀ {command rest p}, ¬ s.Running command rest p := by
      rintro command rest p ⟨j, asks, -⟩
      cases (before j).symm.trans asks
    refine .idle ?_ ?_ ?_
    · rintro command rest p ⟨j, asks, asked⟩
      by_cases turn : j = k
      · rw [turn, JsMap.get_set_self] at asked
        cases asked
      · cases (others j turn).symm.trans asks
    · intro p waits
      simp only [promises] at waits
      obtain ⟨_, _, running⟩ := tracks.waits waits
      exact idle running
    · simp only [controller]
      exact tracks.level fun _ _ _ running => absurd running idle
  | sent controller before others asks carries sent promises promise fresh =>
    exact tracks_sent tracks controller before others asks carries sent promises promise fresh wf'
  | answered asks after settled controller => exact tracks_answered tracks one asks after settled controller
  | refused known commands other answers runtime =>
    exact tracks_refused tracks wf known (fun _ => other) answers fun agree => agree.unchanged runtime
  | executed known commands fresh accepted effect =>
    exact tracks_executed punctual tracks one lines wf known commands fresh accepted effect
  | delivered known replies answers once resolved sent promises =>
    exact tracks_delivered tracks wf known replies answers once resolved sent promises
  | expired waits sent promises => exact tracks_expired punctual tracks one wf waits sent promises

end

/-! ## Every run -/

/-- What holds at the beginning: one tab, known to both. -/
theorem agree_start {parseUri : Bytes → Option GUri} {maximumTabs : Nat} {id url createdAt : String}
    {c : TabController} {o : Outcomes} {setUp play : Except String Unit} {startUrl : Bytes} {r : Runtime}
    (made : TabController.new maximumTabs id url createdAt = .ok c)
    (initialized : Runtime.initializeRuntime parseUri o setUp play (utf8 id) startUrl = .ok r) :
    Agree c r := by
  obtain ⟨-, -, tabs, active⟩ := initialize_spec initialized
  unfold TabController.new at made
  split at made
  · cases made
  · cases made
    refine ⟨fun b => ?_, active⟩
    rw [tabs, JsMap.has_set, Bool.or_eq_true, decide_eq_true_eq]
    constructor
    · rintro (same | none)
      · exact ⟨id, by rw [JsMap.has_set, decide_eq_true rfl, Bool.true_or], same⟩
      · cases none
    · rintro ⟨other, there, same⟩
      rw [JsMap.has_set, Bool.or_eq_true, decide_eq_true_eq] at there
      rcases there with rfl | none
      · exact .inl same
      · cases none

theorem oneTurn {parseUrl : String → Option Url} {n : Nat} {uuids : Nat → String} {env : Nat → Choice}
    {c : TabController} {s : Joint} (start : Known c) (later : ∀ n, LowerUuid (utf8 (uuids n)))
    (serial : SerialWf parseUrl env c s.serial n) (same : ∀ k, (env k).uuid = uuids k) : OneTurn s where
  turn := fun asks asks' => (asks_turn serial asks).trans (asks_turn serial asks').symm
  ready := fun asks => ⟨_, (asks_ready start later serial same asks).1⟩

/-- What every punctual run keeps. -/
structure JointWf (parseUrl : String → Option Url) (uuids : Nat → String) (c : TabController) (s : Joint) :
    Prop where
  serial : ∃ env n, (∀ k, (env k).uuid = uuids k) ∧ SerialWf parseUrl env c s.serial n
  protocol : ProtocolWf s.protocol
  alive : Alive s → LinesWf s ∧ Tracks s

theorem step_joint {parseUrl : String → Option Url} {parseUri : Bytes → Option GUri}
    {uuids times : Nat → String} {c : TabController} {s t : Joint} {e : JointEvent} (start : Known c)
    (later : ∀ n, LowerUuid (utf8 (uuids n))) (wf : JointWf parseUrl uuids c s)
    (punctual : Punctual parseUri s e) (h : jointStep parseUrl parseUri uuids times s e = some t) :
    JointWf parseUrl uuids c t := by
  obtain ⟨env, n, same, serial⟩ := wf.serial
  have protocol := joint_driver wf.protocol h
  refine ⟨joint_chain serial same h, protocol, fun alive => ?_⟩
  obtain ⟨lines, tracks⟩ := wf.alive (alive_before h alive)
  obtain ⟨lines', moves⟩ := step_moves start later serial same wf.protocol lines h alive
  exact ⟨lines', move_tracks moves punctual tracks (oneTurn start later serial same) lines wf.protocol protocol⟩

/-- **Controller and runtime agree** at rest, in every run from the first tab on whose
steps are punctual: when no operation is pending, no line is in flight and the child
lives, both keep the same tabs and the same active tab. -/
theorem controller_runtime_agree (parseUrl : String → Option Url) (parseUri : Bytes → Option GUri)
    (uuids times : Nat → String) {maximumTabs : Nat} {id url createdAt : String} {c : TabController}
    {o : Outcomes} {setUp play : Except String Unit} {startUrl : Bytes} {r : Runtime}
    (made : TabController.new maximumTabs id url createdAt = .ok c)
    (initialized : Runtime.initializeRuntime parseUri o setUp play (utf8 id) startUrl = .ok r)
    (valid : ∀ n, validUuid (utf8 (uuids n)) = true) {s : Joint}
    (reached : (joint parseUrl parseUri uuids times id c r).Reachable (Punctual parseUri) s)
    (alive : Alive s) (quiet : Quiet s) : Agree s.serial.controller s.runtime := by
  have later : ∀ n, LowerUuid (utf8 (uuids n)) := fun n => lowerUuid_of_valid (valid n)
  have start : Known c := by
    have wf := wf_new made
    refine ⟨wf.active, fun {other tab} there => ?_⟩
    have used := wf.ordered.subset (JsMap.mem_keys.mpr ⟨tab, there⟩)
    rw [List.mem_singleton.mp used]
    exact lowerUuid_of_valid (initialize_spec initialized).1
  have wf : JointWf parseUrl uuids c s := by
    refine reached.invariant ?_ fun _ _ _ _ wf punctual step => step_joint start later wf punctual step
    refine ⟨⟨supplied uuids times (.ok ()), 0, fun _ => rfl, serialWf_initial ..⟩,
      (protocolWf_initial id).same rfl rfl rfl rfl, fun _ => ⟨⟨⟨[], [], [], ⟨rfl, rfl, .nil⟩⟩, ?_⟩, ?_⟩⟩
    · rintro _ ⟨⟩
    · exact .idle (fun ⟨_, asks, _⟩ => nomatch asks) (fun _ waits => nomatch waits)
        (agree_start made initialized)
  refine (wf.alive alive).2.level fun command rest p running => ?_
  obtain ⟨k, asks, -⟩ := running
  obtain ⟨call, found, stage⟩ := asks_stage asks
  obtain ⟨result, ended⟩ := quiet.calls k (List.getElem?_eq_some_iff.mp found).1
  simp [Serial.result, found, stage, Stage.result] at ended

/-! ## A command that is given up -/

instance (s : Joint) : Decidable (Alive s) :=
  decidable_of_iff (s.protocol.driver.child.exited = false ∧ s.protocol.driver.child.killed = false ∧
      s.protocol.driver.child.stdin = .writable ∧ s.runtime.quit = false)
    ⟨fun h => ⟨⟨h.1, h.2.1, h.2.2.1⟩, h.2.2.2⟩, fun h => ⟨h.child.1, h.child.2, h.child.3, h.loop⟩⟩

instance (s : Joint) : Decidable (Quiet s) :=
  decidable_of_iff ((∀ k, k < s.serial.calls.length → (s.serial.result k).isSome = true) ∧
      s.toChild = [] ∧ s.fromChild = [])
    ⟨fun h => ⟨fun k inside => Option.isSome_iff_exists.mp (h.1 k inside), h.2.1, h.2.2⟩,
      fun h => ⟨fun k inside => Option.isSome_iff_exists.mpr (h.calls k inside), h.commands, h.replies⟩⟩

def homeId : String := "00000000-0000-4000-8000-000000000001"

def newId : String := "00000000-0000-4000-8000-000000000002"

def homeController : TabController where
  maximumTabs := 4
  tabs := JsMap.empty.set homeId ⟨homeId, publicHome, "2026-01-01T00:00:00.000Z"⟩
  activeTabId := homeId

/-- One tab, and a home page to open. -/
def homeJoint : Machine Joint JointEvent :=
  joint (fun _ => none) (fun _ => none) (fun _ => newId) (fun _ => "2026-01-01T00:00:01.000Z") homeId
    homeController homeRuntime

theorem home_made : TabController.new 4 homeId internalHome "2026-01-01T00:00:00.000Z" =
    .ok homeController := by decide

theorem home_initialized : Runtime.initializeRuntime (fun _ => none) willing (.ok ()) (.ok ())
    (utf8 homeId) kInternalHome = .ok homeRuntime := by decide

/-- A second tab is asked for, made and answered. -/
def answeredInTime : List JointEvent :=
  [.call (.create .undefined), .begin 0, .execute willing, .deliver, .answer 0]

/-- A second tab is asked for, given up, and made. -/
def answeredLate : List JointEvent :=
  [.call (.create .undefined), .begin 0, .driver (.expired 0), .answer 0, .execute willing, .deliver]

theorem answeredInTime_runs : (homeJoint.runFrom homeJoint.init answeredInTime).isSome = true := by
  decide +kernel

theorem answeredLate_runs : (homeJoint.runFrom homeJoint.init answeredLate).isSome = true := by
  decide +kernel

theorem controller_runtime_agree_second : ∃ s, homeJoint.Reachable (Punctual fun _ => none) s ∧
    Alive s ∧ Quiet s ∧ s.runtime.tabs.size = 2 ∧ Agree s.serial.controller s.runtime := by
  have reached : homeJoint.Reachable (Punctual fun _ => none) _ :=
    Machine.reaches_end (by decide +kernel) answeredInTime_runs
  have rests : Alive ((homeJoint.runFrom homeJoint.init answeredInTime).get answeredInTime_runs) ∧
      Quiet ((homeJoint.runFrom homeJoint.init answeredInTime).get answeredInTime_runs) := by
    decide +kernel
  exact ⟨_, reached, rests.1, rests.2, by decide +kernel,
    controller_runtime_agree (fun _ => none) (fun _ => none) _ _ home_made home_initialized
      (fun _ => by decide) reached rests.1 rests.2⟩

/-- The tab of a `CREATE` that was given up stays in the runtime, and is active there. -/
theorem disagree_after_timeout : ¬ ∀ s, homeJoint.Reachable (fun _ _ => True) s → Alive s → Quiet s →
    Agree s.serial.controller s.runtime := by
  intro always
  have reached : homeJoint.Reachable (fun _ _ => True) _ :=
    Machine.reaches_end (by decide +kernel) answeredLate_runs
  have agree := always _ reached (by decide +kernel) (by decide +kernel)
  have apart : ((homeJoint.runFrom homeJoint.init answeredLate).get answeredLate_runs).runtime.activeTabId ≠
      utf8 homeId := by decide +kernel
  have same : ((homeJoint.runFrom homeJoint.init answeredLate).get
      answeredLate_runs).serial.controller.activeTabId = homeId := by decide +kernel
  exact apart (same ▸ agree.active)

end Fireball.Tabs
