import Fireball.Tabs.Joint

/-!
# The lines on their way

Every command has been answered for good, or its reply is on the way, or its line.

* `Journey`, `Journey.ok_once`: the commands in the order of their lines;
* `Moves`: what a step can be that leaves the child alive;
* `step_moves`: every such step is one of these.
-/

namespace Fireball.Tabs

open Foundation

/-- Every command has been answered for good, or its reply or its line is on the way. -/
structure Journey (s : Joint) (done answered waiting : List Command) : Prop where
  sent : s.protocol.sent = done ++ answered ++ waiting
  toChild : s.toChild = waiting.map (·.line)
  fromChild : List.Forall₂ Answers answered s.fromChild

structure LinesWf (s : Joint) : Prop where
  journey : ∃ done answered waiting, Journey s done answered waiting
  carried : ∀ c ∈ s.protocol.sent, ∃ call, Carries call c

/-- The tabs have v4 UUIDs, and the active one is there. -/
structure Known (k : TabController) : Prop where
  active : ∃ tab, k.tabs.get k.activeTabId = some tab
  lower : ∀ {id tab}, k.tabs.get id = some tab → LowerUuid (utf8 id)

/-- What a step can be that leaves the child alive. -/
inductive Moves (parseUri : Bytes → Option GUri) (times : Nat → String) (s : Joint) :
    JointEvent → Joint → Prop
  /-- No tab, no promise and no line has changed. -/
  | quiet {e serial protocol runtime} : serial.controller = s.serial.controller →
      (∀ j, serial.asks j = s.serial.asks j) → protocol.sent = s.protocol.sent →
      protocol.promises = s.protocol.promises → Unchanged s.runtime runtime →
      Moves parseUri times s e { s with serial, protocol, runtime }
  /-- A body begins; the driver rejects what it asks. -/
  | rejected {k serial protocol error} : serial.controller = s.serial.controller →
      (∀ j, s.serial.asks j = none) → (∀ j, j ≠ k → serial.asks j = none) →
      protocol.sent = s.protocol.sent → protocol.promises = s.protocol.promises →
      Moves parseUri times s (.begin k) { s with serial, protocol, asked := s.asked.set k (.error error) }
  /-- A body begins, and a command is sent. -/
  | sent {k serial protocol c command rest} : serial.controller = s.serial.controller →
      (∀ j, s.serial.asks j = none) → (∀ j, j ≠ k → serial.asks j = none) →
      serial.asks k = some (command, rest) → Carries command c →
      protocol.sent = s.protocol.sent ++ [c] → protocol.promises = s.protocol.promises ++ [none] →
      c.promise = s.protocol.promises.length → "OK " ++ c.request ∉ s.fromChild →
      Moves parseUri times s (.begin k) { s with
        serial, protocol, asked := s.asked.set k (.ok c.promise), toChild := s.toChild ++ [c.line] }
  | answered {k serial command rest outcome} : s.serial.asks k = some (command, rest) →
      (∀ j, serial.asks j = none) → s.outcome k = some outcome →
      serial.controller = s.serial.controller.finish (times k) rest outcome →
      Moves parseUri times s (.answer k) { s with serial }
  | refused {o c runtime toChild reply} : c ∈ s.protocol.sent → s.toChild = c.line :: toChild →
      reply ≠ "OK " ++ c.request → Answers c reply → Unchanged s.runtime runtime →
      Moves parseUri times s (.execute o) { s with runtime, toChild, fromChild := s.fromChild ++ [reply] }
  | executed {o c runtime toChild} : c ∈ s.protocol.sent → s.toChild = c.line :: toChild →
      "OK " ++ c.request ∉ s.fromChild → s.runtime.refuses parseUri o (utf8 c.line) = false →
      Effect parseUri s.runtime runtime (utf8 c.request) (Runtime.fields (utf8 c.line)) →
      Moves parseUri times s (.execute o)
        { s with runtime, toChild, fromChild := s.fromChild ++ ["OK " ++ c.request] }
  | delivered {c line fromChild protocol outcome} : c ∈ s.protocol.sent →
      s.fromChild = line :: fromChild → Answers c line → "OK " ++ c.request ∉ fromChild →
      (outcome = .resolved ↔ line = "OK " ++ c.request) → protocol.sent = s.protocol.sent →
      (∀ j : Nat, protocol.promises[j]? =
        if j = c.promise then s.protocol.promises[j]?.map (·.or (some outcome))
        else s.protocol.promises[j]?) →
      Moves parseUri times s .deliver { s with protocol, fromChild }
  | expired {p protocol error} : s.protocol.promises[p]? = some none →
      protocol.sent = s.protocol.sent →
      (∀ j : Nat, protocol.promises[j]? =
        if j = p then some (some (.rejected error)) else s.protocol.promises[j]?) →
      Moves parseUri times s (.driver (.expired p)) { s with protocol }

section
variable {parseUrl : String → Option Url} {parseUri : Bytes → Option GUri} {uuids times : Nat → String}
  {env : Nat → Choice} {k₀ : TabController} {s t : Joint} {n : Nat} {c : Command}
  {done answered waiting : List Command}

theorem promises_nodup {s : Protocol} (wf : ProtocolWf s) : (s.sent.map (·.promise)).Nodup := by
  have numbered : s.sent.map (·.promise) = List.range s.sent.length := by
    refine List.ext_getElem (by simp) fun k inside _ => ?_
    have within : k < s.sent.length := by simpa using inside
    simpa using (wf.named k _ (List.getElem?_eq_getElem within)).1
  rw [numbered]
  exact List.nodup_range

/-- A reply `OK` on its way is that of a command that is being answered. -/
theorem Journey.ok_answered (journey : Journey s done answered waiting) {request : String}
    (h : "OK " ++ request ∈ s.fromChild) : ∃ c ∈ answered, c.request = request := by
  have found : ∀ {l : List Command} {lines : List String}, List.Forall₂ Answers l lines →
      "OK " ++ request ∈ lines → ∃ c ∈ l, c.request = request := by
    intro l lines all mem
    induction all with
    | nil => cases mem
    | @cons c line l lines answers _ ih =>
      rcases List.mem_cons.mp mem with same | later
      · refine ⟨c, List.mem_cons_self, ?_⟩
        cases answers with
        | ok => exact (String.append_right_inj "OK ").mp same.symm
        | err code => exact absurd same.symm (ok_ne_coded _ _ _)
      · obtain ⟨c', mem', eq⟩ := ih later
        exact ⟨c', List.mem_cons_of_mem _ mem', eq⟩
  exact found journey.fromChild h

theorem execute_known {k : TabController} {x : Choice} (op : TabOperation) (known : Known k)
    (uuid : LowerUuid (utf8 x.uuid)) : Known (k.execute parseUrl x op).1 := by
  unfold TabController.execute
  split
  · exact known
  · rename_i call rest begun
    split
    · exact known
    · have ready := begin_ready known.active begun
      refine ⟨resume_active x.createdAt known.active ready, ?_⟩
      intro id tab there
      cases ready with
      | create room =>
        simp only [TabController.resume, JsMap.get_set] at there
        split at there
        · rename_i same
          exact same ▸ uuid
        · exact known.lower there
      | activate => exact known.lower there
      | navigate old =>
        simp only [TabController.resume, JsMap.get_set] at there
        split at there
        · rename_i same
          exact same ▸ known.lower old
        · exact known.lower there
      | remove =>
        simp only [TabController.resume, JsMap.get_delete] at there
        split at there
        · cases there
        · exact known.lower there

theorem sequential_known (start : Known k₀) (same : ∀ k, (env k).uuid = uuids k)
    (later : ∀ n, LowerUuid (utf8 (uuids n))) (ops : List TabOperation) :
    Known (sequential parseUrl env k₀ ops).1 := by
  induction ops using List.reverseRecOn with
  | nil => exact start
  | append_singleton ops op ih =>
    rw [sequential_snoc]
    exact execute_known op ih (same _ ▸ later _)

/-- A call that asks the driver names tabs of the controller, or a new one. -/
theorem asks_ready {serial : Serial} (start : Known k₀) (later : ∀ n, LowerUuid (utf8 (uuids n)))
    (wf : SerialWf parseUrl env k₀ serial n) (same : ∀ k, (env k).uuid = uuids k) {k : Nat}
    {command : DriverCall} {rest : Awaiting} (asks : serial.asks k = some (command, rest)) :
    Ready serial.controller (uuids n) command rest ∧ LowerUuid (utf8 command.tab) ∧
      ∀ id fallback, command = .remove id fallback → LowerUuid (utf8 fallback) := by
  have controller : Known serial.controller := by
    rw [wf.state]
    exact sequential_known start same later _
  obtain ⟨call, found, stage⟩ := asks_stage asks
  have ready := begin_ready controller.active (wf.begun k call command rest found stage).2
  rw [same] at ready
  refine ⟨ready, ?_⟩
  cases ready with
  | create => exact ⟨later n, fun _ _ other => nomatch other⟩
  | activate known => exact ⟨controller.lower known, fun _ _ other => nomatch other⟩
  | navigate known => exact ⟨controller.lower known, fun _ _ other => nomatch other⟩
  | remove known there =>
    obtain ⟨tab, known⟩ := known
    obtain ⟨tab', there⟩ := there
    refine ⟨controller.lower known, ?_⟩
    rintro _ _ ⟨⟩
    exact controller.lower there

/-- The line of a command that is sent waits behind the others. -/
theorem journey_sent (journey : Journey s done answered waiting) {serial : Serial} {protocol : Protocol}
    {asked : JsMap Nat (Except TabControlError Nat)} (sent : protocol.sent = s.protocol.sent ++ [c]) :
    Journey { s with serial, protocol, asked, toChild := s.toChild ++ [c.line] }
      done answered (waiting ++ [c]) where
  sent := by simp [sent, journey.sent]
  toChild := by simp [journey.toChild]
  fromChild := journey.fromChild

/-- The line of a command is handed over, and its reply is on the way. -/
theorem journey_executed (journey : Journey s done answered (c :: waiting)) {runtime : Runtime}
    {toChild : List String} {line reply : String} (commands : s.toChild = line :: toChild)
    (answers : Answers c reply) :
    Journey { s with runtime, toChild, fromChild := s.fromChild ++ [reply] }
      done (answered ++ [c]) waiting where
  sent := by simp [journey.sent]
  toChild := (List.cons.inj (commands.symm.trans journey.toChild)).2
  fromChild := List.rel_append journey.fromChild (.cons answers .nil)

/-- A reply is handed over. -/
theorem journey_delivered (journey : Journey s done (c :: answered) waiting) {protocol : Protocol}
    {fromChild : List String} {line : String} (replies : s.fromChild = line :: fromChild)
    (sent : protocol.sent = s.protocol.sent) :
    Answers c line ∧ Journey { s with protocol, fromChild } (done ++ [c]) answered waiting := by
  have all := journey.fromChild
  rw [replies] at all
  cases all with
  | cons answers rest =>
    exact ⟨answers, by simp [sent, journey.sent], journey.toChild, rest⟩

/-- A joint step is at most one event of the chain and one of the driver. -/
theorem joint_parts {e : JointEvent} (h : jointStep parseUrl parseUri uuids times s e = some t) :
    (t.serial = s.serial ∨
      ∃ outcome e, serialStep parseUrl (supplied uuids times outcome) s.serial e = some t.serial) ∧
    (t.protocol = s.protocol ∨ ∃ e, protocolStep parseUrl s.protocol e = some t.protocol) ∧
    (t.runtime.quit = false → s.runtime.quit = false) := by
  cases e with
  | call op =>
    cases h
    exact ⟨.inr ⟨.ok (), .call op, rfl⟩, .inl rfl, id⟩
  | begin k =>
    simp only [jointStep, Option.bind_eq_bind, Option.bind_eq_some_iff] at h
    obtain ⟨next, stepped, h⟩ := h
    split at h
    · obtain ⟨protocol, sent, rfl⟩ := Option.map_eq_some_iff.mp h
      split <;> exact ⟨.inr ⟨_, _, stepped⟩, .inr ⟨_, sent⟩, id⟩
    · cases h
      exact ⟨.inr ⟨_, _, stepped⟩, .inl rfl, id⟩
  | answer k =>
    simp only [jointStep, Option.bind_eq_bind, Option.bind_eq_some_iff] at h
    obtain ⟨outcome, -, next, stepped, h⟩ := h
    cases h
    exact ⟨.inr ⟨_, _, stepped⟩, .inl rfl, id⟩
  | caught k =>
    simp only [jointStep, Option.bind_eq_bind, Option.bind_eq_some_iff] at h
    obtain ⟨next, stepped, h⟩ := h
    cases h
    exact ⟨.inr ⟨_, _, stepped⟩, .inl rfl, id⟩
  | execute o =>
    simp only [jointStep] at h
    split at h
    · cases h
    · split at h
      · cases h
      · rename_i loop
        cases h
        exact ⟨.inl rfl, .inl rfl, fun _ => by simpa using loop⟩
  | deliver =>
    simp only [jointStep] at h
    split at h
    · cases h
    · obtain ⟨next, stepped, rfl⟩ := Option.map_eq_some_iff.mp h
      exact ⟨.inl rfl, .inr ⟨_, stepped⟩, id⟩
  | driver e =>
    simp only [jointStep] at h
    split at h
    · cases h
    · cases h
    · obtain ⟨next, stepped, rfl⟩ := Option.map_eq_some_iff.mp h
      exact ⟨.inl rfl, .inr ⟨_, stepped⟩, id⟩
    · obtain ⟨next, stepped, rfl⟩ := Option.map_eq_some_iff.mp h
      exact ⟨.inl rfl, .inr ⟨_, stepped⟩, id⟩
  | padAdded =>
    cases h
    exact ⟨.inl rfl, .inl rfl, id⟩
  | busError | hangup =>
    cases h
    exact ⟨.inl rfl, .inl rfl, fun quit => nomatch quit⟩

/-- **The chain** of a joint run, with what is supplied as it goes. -/
theorem joint_chain {e : JointEvent} (serial : SerialWf parseUrl env k₀ s.serial n)
    (same : ∀ k, (env k).uuid = uuids k) (h : jointStep parseUrl parseUri uuids times s e = some t) :
    ∃ env' m, (∀ k, (env' k).uuid = uuids k) ∧ SerialWf parseUrl env' k₀ t.serial m := by
  rcases (joint_parts h).1 with kept | ⟨outcome, e', stepped⟩
  · rw [kept]
    exact ⟨env, n, same, serial⟩
  · exact step_supplied serial same stepped

theorem joint_driver {e : JointEvent} (wf : ProtocolWf s.protocol)
    (h : jointStep parseUrl parseUri uuids times s e = some t) : ProtocolWf t.protocol := by
  rcases (joint_parts h).2.1 with kept | ⟨e', stepped⟩
  · rw [kept]
    exact wf
  · exact (step_protocol wf stepped).1

theorem alive_before {e : JointEvent} (h : jointStep parseUrl parseUri uuids times s e = some t)
    (alive : Alive t) : Alive s := by
  obtain ⟨-, protocol, loop⟩ := joint_parts h
  refine ⟨?_, loop alive.loop⟩
  rcases protocol with kept | ⟨e', stepped⟩
  · rw [← kept]
    exact alive.child
  · exact lives_before stepped alive.child

/-- A command has one reply: none before its line is handed over, and none after its
reply is. -/
theorem Journey.ok_once (journey : Journey s done answered waiting) (wf : ProtocolWf s.protocol)
    (mem : c ∈ done ∨ c ∈ waiting) : "OK " ++ c.request ∉ s.fromChild := by
  intro reply
  obtain ⟨c', mem', same⟩ := journey.ok_answered reply
  have sent : c ∈ s.protocol.sent := by
    rw [journey.sent]
    rcases mem with old | new
    · exact List.mem_append_left _ (List.mem_append_left _ old)
    · exact List.mem_append_right _ new
  have sent' : c' ∈ s.protocol.sent := by
    rw [journey.sent]
    exact List.mem_append_left _ (List.mem_append_right _ mem')
  have promise : c'.promise = c.promise := by
    rw [(wf.known sent).2, (wf.known sent').2, toString_inj] at same
    omega
  have nodup := promises_nodup wf
  rw [journey.sent, List.map_append, List.map_append, List.nodup_append, List.nodup_append] at nodup
  rcases mem with old | new
  · exact nodup.1.2.2 _ (List.mem_map_of_mem old) _ (List.mem_map_of_mem mem') promise.symm
  · exact nodup.2.2 _ (List.mem_append_right _ (List.mem_map_of_mem mem')) _ (List.mem_map_of_mem new)
      promise

/-- The lines are as they were. -/
theorem LinesWf.frame (lines : LinesWf s) {serial : Serial} {protocol : Protocol}
    {asked : JsMap Nat (Except TabControlError Nat)} {runtime : Runtime}
    (sent : protocol.sent = s.protocol.sent) : LinesWf { s with serial, protocol, asked, runtime } where
  journey := by
    obtain ⟨done, answered, waiting, journey⟩ := lines.journey
    exact ⟨done, answered, waiting, sent.trans journey.sent, journey.toChild, journey.fromChild⟩
  carried := by
    simp only [sent]
    exact lines.carried

/-- The driver is asked by a body that has begun. -/
theorem ask_moves {k : Nat} {serial : Serial} {command : DriverCall} {rest : Awaiting}
    (protocol : ProtocolWf s.protocol) (lines : LinesWf s)
    (controller : serial.controller = s.serial.controller) (before : ∀ j, s.serial.asks j = none)
    (others : ∀ j, j ≠ k → serial.asks j = none) (asks : serial.asks k = some (command, rest))
    (tab : LowerUuid (utf8 command.tab))
    (fallback : ∀ id fallback, command = .remove id fallback → LowerUuid (utf8 fallback))
    (alive : Alive s) (h : ({ s with serial } : Joint).ask parseUrl k command = some t) :
    LinesWf t ∧ Moves parseUri times s (.begin k) t := by
  obtain ⟨next, stepped, made⟩ := Option.map_eq_some_iff.mp h
  have wf := (step_protocol protocol stepped).1
  generalize called : s.protocol.driver.call parseUrl command = result at made
  obtain ⟨d, answer⟩ := result
  cases answer with
  | error e =>
    subst made
    simp only [protocolStep, called, Option.some.injEq] at stepped
    subst stepped
    exact ⟨lines.frame rfl, .rejected controller before others rfl rfl⟩
  | ok c =>
    subst made
    simp only [protocolStep, called, Option.some.injEq] at stepped
    subst stepped
    have written : ({ s with serial } : Joint).write [c.line] = s.toChild ++ [c.line] := if_pos alive.child.stdin
    have carries := call_carries tab fallback called
    obtain ⟨done, answered, waiting, journey⟩ := lines.journey
    have journey' : Journey { s with
        serial, protocol := ⟨d, s.protocol.sent ++ [c], s.protocol.promises ++ [none],
          s.protocol.writing.add c.promise⟩
        asked := s.asked.set k (.ok c.promise), toChild := s.toChild ++ [c.line] }
        done answered (waiting ++ [c]) := journey_sent journey rfl
    simp only [written]
    refine ⟨⟨⟨done, answered, waiting ++ [c], journey'⟩, ?_⟩, ?_⟩
    · intro c' mem
      rcases List.mem_append.mp mem with old | new
      · exact lines.carried c' old
      · cases List.mem_singleton.mp new
        exact ⟨command, carries⟩
    · exact .sent controller before others asks carries rfl rfl (call_sends protocol called).promise
        (journey'.ok_once wf (.inr (by simp)))

/-- A line that the runtime is handed. -/
theorem execute_moves {o : Outcomes} (lines : LinesWf s) (protocol : ProtocolWf s.protocol)
    (h : jointStep parseUrl parseUri uuids times s (.execute o) = some t) (alive : Alive t) :
    LinesWf t ∧ Moves parseUri times s (.execute o) t := by
  obtain ⟨done, answered, waiting, journey⟩ := lines.journey
  simp only [jointStep] at h
  split at h
  · cases h
  · rename_i line toChild commands
    split at h
    · cases h
    · cases waiting with
      | nil => cases commands.symm.trans journey.toChild
      | cons c waiting =>
        have line_eq : line = c.line := (List.cons.inj (commands.symm.trans journey.toChild)).1
        subst line_eq
        cases h
        have sent : c ∈ s.protocol.sent := by simp [journey.sent]
        obtain ⟨call, carries⟩ := lines.carried c sent
        obtain ⟨rest, fields, -⟩ := carries.fields
        have replies : ∀ reply, Answers c reply → LinesWf { s with
            runtime := (s.runtime.handleCommand parseUri o (utf8 c.line)).1, toChild
            fromChild := s.fromChild ++ [reply] } := fun reply answers =>
          ⟨⟨_, _, _, journey_executed journey commands answers⟩, lines.carried⟩
        rcases executed parseUri o s.runtime fields with
          quit | ⟨code, written, unchanged⟩ | ⟨written, accepted, effect⟩
        · cases quit.symm.trans alive.loop
        · have read : [utf8 "ERR " ++ utf8 c.request ++ utf8 (" " ++ code)].map decodeUtf8 =
              ["ERR " ++ c.request ++ (" " ++ code)] := by
            rw [← utf8_append, ← utf8_append, List.map_singleton, decodeUtf8_utf8]
          simp only [written, read]
          exact ⟨replies _ (.err code),
            .refused sent commands (ok_ne_coded _ _ _) (.err code) unchanged⟩
        · have read : [utf8 "OK " ++ utf8 c.request].map decodeUtf8 = ["OK " ++ c.request] := by
            rw [← utf8_append, List.map_singleton, decodeUtf8_utf8]
          simp only [written, read]
          exact ⟨replies _ .ok, .executed sent commands (journey.ok_once protocol (.inr (by simp)))
            accepted effect⟩

/-- A line that the driver is handed. -/
theorem deliver_moves (lines : LinesWf s) (protocol : ProtocolWf s.protocol)
    (h : jointStep parseUrl parseUri uuids times s .deliver = some t) (alive : Alive t) :
    LinesWf t ∧ Moves parseUri times s .deliver t := by
  obtain ⟨done, answered, waiting, journey⟩ := lines.journey
  simp only [jointStep] at h
  split at h
  · cases h
  · rename_i line fromChild replies
    cases answered with
    | nil =>
      have none := journey.fromChild
      rw [replies] at none
      cases none
    | cons c answered =>
      obtain ⟨next, stepped, rfl⟩ := Option.map_eq_some_iff.mp h
      have wf := (step_protocol protocol stepped).1
      cases stepped
      have sent : c ∈ s.protocol.sent := by simp [journey.sent]
      obtain ⟨answers, journey'⟩ : Answers c line ∧ Journey
          { s with protocol := s.protocol.apply (s.protocol.driver.handleLine line), fromChild }
          (done ++ [c]) answered waiting := journey_delivered journey replies rfl
      obtain ⟨outcome, resolved, promises⟩ := deliver_settles protocol sent answers alive.child
      exact ⟨⟨⟨_, _, _, journey'⟩, lines.carried⟩,
        .delivered sent replies answers (journey'.ok_once wf (.inl (by simp))) resolved rfl promises⟩

/-- What the driver meets on its own. -/
theorem driver_moves {e : ProtocolEvent} {next : Protocol} (lines : LinesWf s)
    (protocol : ProtocolWf s.protocol) (calls : ∀ call, e ≠ .call call) (noLine : ∀ line, e ≠ .line line)
    (h : protocolStep parseUrl s.protocol e = some next) (alive : Alive { s with protocol := next }) :
    LinesWf { s with protocol := next } ∧
      Moves parseUri times s (.driver e) { s with protocol := next } := by
  obtain ⟨sent, ⟨p, failed, rfl, promises⟩ | ⟨p, error, rfl, waits, promises⟩⟩ :=
    driver_lives protocol calls noLine h alive.child
  · exact ⟨lines.frame sent, .quiet rfl (fun _ => rfl) sent promises (.refl _)⟩
  · exact ⟨lines.frame sent, .expired waits sent promises⟩

/-- **One event** that leaves the child alive. -/
theorem step_moves {e : JointEvent} (start : Known k₀) (later : ∀ n, LowerUuid (utf8 (uuids n)))
    (serial : SerialWf parseUrl env k₀ s.serial n) (same : ∀ k, (env k).uuid = uuids k)
    (protocol : ProtocolWf s.protocol) (lines : LinesWf s)
    (h : jointStep parseUrl parseUri uuids times s e = some t) (alive : Alive t) :
    LinesWf t ∧ Moves parseUri times s e t := by
  have step := h
  cases e with
  | call op =>
    cases h
    exact ⟨lines.frame rfl, .quiet rfl (asks_call op) rfl rfl (.refl _)⟩
  | begin k =>
    simp only [jointStep, Option.bind_eq_bind, Option.bind_eq_some_iff] at h
    obtain ⟨next, stepped, h⟩ := h
    obtain ⟨controller, before, others⟩ := begin_asks serial stepped
    split at h
    · rename_i command rest asks
      obtain ⟨env', m, same', serial'⟩ := step_supplied serial same stepped
      obtain ⟨-, tab, fallback⟩ := asks_ready start later serial' same' asks
      exact ask_moves protocol lines controller before others asks tab fallback (alive_before step alive) h
    · rename_i asks
      cases h
      have after : ∀ j, next.asks j = s.serial.asks j := by
        intro j
        rw [before]
        by_cases turn : j = k
        · rw [turn, asks]
        · exact others j turn
      exact ⟨lines.frame rfl, .quiet controller after rfl rfl (.refl _)⟩
  | answer k =>
    simp only [jointStep, Option.bind_eq_bind, Option.bind_eq_some_iff] at h
    obtain ⟨outcome, settled, next, stepped, h⟩ := h
    cases h
    obtain ⟨command, rest, asks, after, controller⟩ := answer_asks serial stepped
    exact ⟨lines.frame rfl, .answered asks after settled controller⟩
  | caught k =>
    simp only [jointStep, Option.bind_eq_bind, Option.bind_eq_some_iff] at h
    obtain ⟨next, stepped, h⟩ := h
    cases h
    obtain ⟨controller, asks⟩ := caught_asks stepped
    exact ⟨lines.frame rfl, .quiet controller asks rfl rfl (.refl _)⟩
  | execute o => exact execute_moves lines protocol h alive
  | deliver => exact deliver_moves lines protocol h alive
  | driver e =>
    simp only [jointStep] at h
    cases e with
    | call | line => cases h
    | shutdown =>
      obtain ⟨next, stepped, rfl⟩ := Option.map_eq_some_iff.mp h
      obtain ⟨-, met⟩ := driver_lives (e := .shutdown) protocol (fun _ other => nomatch other)
        (fun _ other => nomatch other) stepped alive.child
      rcases met with ⟨_, _, other, -⟩ | ⟨_, _, other, -⟩
      · cases other
      · cases other
    | expired | written | childError | childExit | stdinDestroyed =>
      obtain ⟨next, stepped, rfl⟩ := Option.map_eq_some_iff.mp h
      exact driver_moves lines protocol (by rintro _ ⟨⟩) (by rintro _ ⟨⟩) stepped
        ⟨alive.child, alive.loop⟩
  | padAdded =>
    cases h
    exact ⟨lines.frame rfl, .quiet rfl (fun _ => rfl) rfl rfl ⟨rfl, rfl⟩⟩
  | busError | hangup =>
    cases h
    cases alive.loop

end

end Fireball.Tabs
