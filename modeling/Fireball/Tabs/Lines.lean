import Fireball.Tabs.NativeTabs
import Fireball.Tabs.Protocol
import Fireball.Tabs.Sequential

/-!
# Lines between driver and runtime

What the runtime reads of the driver's commands, and the driver of its replies.

* `call_carries`: the fields of the line of a call;
* `executed`: what becomes of such a line;
* `parse_answer`: how a reply is read;
* `done_agrees`: a call that is carried out and resumed keeps controller and runtime in step.
-/

namespace Fireball.Tabs

open Foundation

def DriverCall.name : DriverCall → String
  | .create .. => "CREATE"
  | .activate .. => "ACTIVATE"
  | .navigate .. => "NAVIGATE"
  | .remove .. => "DELETE"

/-- The tab that the call is about. -/
def DriverCall.tab : DriverCall → String
  | .create id _ => id
  | .activate id => id
  | .navigate id _ => id
  | .remove id _ => id

/-- The line of a command is that of the call. -/
structure Carries (call : DriverCall) (c : Command) : Prop where
  fields : ∃ rest, Runtime.fields (utf8 c.line) =
      utf8 call.name :: utf8 c.request :: utf8 call.tab :: rest ∧
    ∀ id fallback, call = .remove id fallback → rest = [utf8 fallback]

/-- A reply to a command. -/
inductive Answers (c : Command) : String → Prop
  | ok : Answers c ("OK " ++ c.request)
  | err (code : String) : Answers c ("ERR " ++ c.request ++ (" " ++ code))

/-- The line is not carried out by the runtime. -/
def Runtime.refuses (parseUri : Bytes → Option GUri) (o : Outcomes) (line : Bytes) (r : Runtime) :
    Bool :=
  match Runtime.fields line with
  | command :: _ :: id :: rest => !(r.dispatch parseUri o command id rest).2.isOk
  | _ => true

/-- The two copies of the tabs. -/
structure Agree (c : TabController) (r : Runtime) : Prop where
  tabs : ∀ b, r.tabs.has b = true ↔ ∃ id, c.tabs.has id = true ∧ utf8 id = b
  active : r.activeTabId = utf8 c.activeTabId

/-- What a call does to the ids that the runtime keeps. -/
structure Done (call : DriverCall) (r r' : Runtime) : Prop where
  tabs : ∀ b, r'.tabs.has b = match call with
    | .create id _ => decide (utf8 id = b) || r.tabs.has b
    | .activate _ | .navigate _ _ => r.tabs.has b
    | .remove id _ => !decide (utf8 id = b) && r.tabs.has b
  active : r'.activeTabId = match call with
    | .create id _ | .activate id => utf8 id
    | .navigate _ _ => r.activeTabId
    | .remove id fallback => if r.activeTabId = utf8 id then utf8 fallback else r.activeTabId

section
variable {parseUrl : String → Option Url} {parseUri : Bytes → Option GUri} {o : Outcomes}
  {r r' : Runtime} {c : Command} {k : TabController}

/-! ## Commands -/

theorem LowerUuid.spaceless {b : Bytes} (h : LowerUuid b) : Spaceless b := by
  intro x mem
  obtain ⟨i, found⟩ := List.getElem?_of_mem mem
  by_cases dash : i ∈ [8, 13, 18, 23]
  · cases found.symm.trans (h.dashes i dash)
    decide
  · have digit := h.digits i x found dash
    simp only [isSpace, Bool.or_eq_false_iff, Bool.and_eq_false_iff, decide_eq_false_iff_not,
      ← UInt8.toNat_inj, UInt8.le_iff_toNat_le] at *
    simp at *
    omega

theorem LowerUuid.ne_nil {b : Bytes} (h : LowerUuid b) : b ≠ [] := by
  rintro rfl
  cases h.length

theorem name_spaceless (call : DriverCall) : Spaceless (utf8 call.name) ∧ utf8 call.name ≠ [] := by
  have names : ∀ type ∈ ["CREATE", "ACTIVATE", "NAVIGATE", "DELETE"],
      (utf8 type).all (!isSpace ·) = true ∧ utf8 type ≠ [] := by decide
  have known : call.name ∈ ["CREATE", "ACTIVATE", "NAVIGATE", "DELETE"] := by
    cases call <;> simp [DriverCall.name]
  obtain ⟨spaceless, nonempty⟩ := names _ known
  exact ⟨fun x mem => by simpa using List.all_eq_true.mp spaceless x mem, nonempty⟩

theorem isLineEnd_space {b : UInt8} (h : Runtime.isLineEnd b = true) : isSpace b = true := by
  have either : b = '\n'.toUInt8 ∨ b = '\r'.toUInt8 := by simpa [Runtime.isLineEnd] using h
  rcases either with rfl | rfl <;> decide

/-- The line of a command, word by word. -/
theorem fields_line {type request arguments : String}
    (typed : Spaceless (utf8 type) ∧ utf8 type ≠ [])
    (numbered : Spaceless (utf8 request) ∧ utf8 request ≠ []) :
    Runtime.fields (utf8 (type ++ " " ++ request ++ " " ++ arguments ++ "\n")) =
      utf8 type :: utf8 request :: words (utf8 arguments) := by
  have blank : utf8 " " = [32] := by decide
  have newline : utf8 "\n" = [10] := by decide
  have bytes : utf8 (type ++ " " ++ request ++ " " ++ arguments ++ "\n") =
      (utf8 type ++ 32 :: (utf8 request ++ 32 :: utf8 arguments)) ++ [10] := by
    simp [utf8_append, blank, newline]
  rw [Runtime.fields, words_rdropWhile fun _ => isLineEnd_space, bytes, words_append_space (by decide),
    words_append (by decide), words_append (by decide), words_spaceless typed.1 typed.2,
    words_spaceless numbered.1 numbered.2]
  rfl

theorem words_two {first second : String} (h : LowerUuid (utf8 first)) :
    words (utf8 (" ".intercalate [first, second])) = utf8 first :: words (utf8 second) := by
  have blank : utf8 " " = [32] := by decide
  have bytes : utf8 (" ".intercalate [first, second]) = utf8 first ++ 32 :: utf8 second := by
    have joined : " ".intercalate [first, second] = first ++ " " ++ second := rfl
    simp [joined, utf8_append, blank]
  rw [bytes, words_append (by decide), words_spaceless h.spaceless h.ne_nil]
  rfl

theorem words_one {id : String} (h : LowerUuid (utf8 id)) :
    words (utf8 (" ".intercalate [id])) = [utf8 id] := words_spaceless h.spaceless h.ne_nil

/-- What `#command` puts on the wire. -/
theorem command_line {type : String} {arguments : List String} {d d' : NativeTabDriver}
    (h : d.command type arguments = (d', .ok c)) :
    c.line = type ++ " " ++ c.request ++ " " ++ " ".intercalate arguments ++ "\n" ∧
      c.request = toString d.nextRequest := by
  unfold NativeTabDriver.command at h
  split at h
  · cases h
  · cases h
    exact ⟨rfl, rfl⟩

/-- **A call** and the fields of its line. -/
theorem call_carries {d d' : NativeTabDriver} {call : DriverCall} (tab : LowerUuid (utf8 call.tab))
    (other : ∀ id fallback, call = .remove id fallback → LowerUuid (utf8 fallback))
    (h : d.call parseUrl call = (d', .ok c)) : Carries call c := by
  have fields : ∀ {arguments : List String}, d.command call.name arguments = (d', .ok c) →
      Runtime.fields (utf8 c.line) =
        utf8 call.name :: utf8 c.request :: words (utf8 (" ".intercalate arguments)) := by
    intro arguments sent
    obtain ⟨line, request⟩ := command_line sent
    rw [line]
    refine fields_line (name_spaceless call) ?_
    rw [request]
    exact ⟨toString_spaceless _, toString_ne_nil _⟩
  cases call with
  | create id url | navigate id url =>
    simp only [NativeTabDriver.call] at h
    split at h
    · cases h
    · have named : LowerUuid (utf8 id) := tab
      have line := fields h
      rw [words_two named] at line
      exact ⟨_, line, by rintro _ _ ⟨⟩⟩
  | activate id =>
    have named : LowerUuid (utf8 id) := tab
    have line := fields h
    rw [words_one named] at line
    exact ⟨_, line, by rintro _ _ ⟨⟩⟩
  | remove id fallback =>
    have named : LowerUuid (utf8 id) := tab
    have there := other id fallback rfl
    have line := fields h
    rw [words_two named, words_spaceless there.spaceless there.ne_nil] at line
    refine ⟨_, line, ?_⟩
    rintro _ _ ⟨⟩
    rfl

/-! ## What becomes of a line -/

theorem effect_done {call : DriverCall} {fields : List Bytes} (h : Effect parseUri r r' (utf8 c.request) fields)
    {rest : List Bytes} (line : fields = utf8 call.name :: utf8 c.request :: utf8 call.tab :: rest)
    (other : ∀ id fallback, call = .remove id fallback → rest = [utf8 fallback]) : Done call r r' := by
  cases h with
  | shutdown =>
    have length := congrArg List.length line
    simp at length
  | @create id argument url _ _ _ _ _ tabs active _ =>
    simp only [List.cons.injEq, utf8_inj] at line
    obtain ⟨name, -, rfl, -⟩ := line
    cases call with
    | create id url' =>
      refine ⟨fun b => ?_, active⟩
      rw [tabs]
      by_cases same : utf8 id = b <;> simp [JsMap.has, JsMap.get_set, same, DriverCall.tab]
    | activate | navigate | remove => simp [DriverCall.name] at name
  | @activate id known tabs active _ =>
    simp only [List.cons.injEq, utf8_inj] at line
    obtain ⟨name, -, rfl, -⟩ := line
    cases call with
    | activate id => exact ⟨fun b => by rw [tabs], active⟩
    | create | navigate | remove => simp [DriverCall.name] at name
  | @navigate id argument url tab _ _ found tabs active _ =>
    simp only [List.cons.injEq, utf8_inj] at line
    obtain ⟨name, -, rfl, -⟩ := line
    cases call with
    | navigate id url' =>
      refine ⟨fun b => ?_, active⟩
      have there : r.tabs.get (utf8 id) = some tab := found
      rw [tabs]
      by_cases same : utf8 id = b
      · simp [JsMap.has, ← same, there, DriverCall.tab]
      · simp [JsMap.has, JsMap.get_set, same, DriverCall.tab]
    | create | activate | remove => simp [DriverCall.name] at name
  | @delete id fallback _ _ _ _ tabs active _ =>
    simp only [List.cons.injEq, utf8_inj] at line
    obtain ⟨name, -, rfl, rest⟩ := line
    cases call with
    | remove id' fallback' =>
      have same := other id' fallback' rfl
      rw [← rest] at same
      cases List.singleton_inj.mp same
      exact ⟨fun b => by rw [tabs, JsMap.has_delete]; rfl, active⟩
    | create | activate | navigate => simp [DriverCall.name] at name

variable (parseUri o r) in
/-- A line with three fields or more makes the runtime quit, is refused, or is carried out. -/
theorem executed {line command request id : Bytes} {rest : List Bytes}
    (fields : Runtime.fields line = command :: request :: id :: rest) :
    (r.handleCommand parseUri o line).1.quit = true ∨
      (∃ code, (r.handleCommand parseUri o line).2 = [utf8 "ERR " ++ request ++ utf8 (" " ++ code)] ∧
        Unchanged r (r.handleCommand parseUri o line).1) ∨
      (r.handleCommand parseUri o line).2 = [utf8 "OK " ++ request] ∧ r.refuses parseUri o line = false ∧
        Effect parseUri r (r.handleCommand parseUri o line).1 request (Runtime.fields line) := by
  have unwritten : o.write = false → ∀ (r : Runtime) reply, (r.writeControlLine o reply).1.quit = true := by
    intro fails r reply
    simp [Runtime.writeControlLine, fails, Runtime.stop]
  unfold Runtime.handleCommand Runtime.refuses
  simp only [fields]
  split
  · exact .inl rfl
  · generalize dispatched : r.dispatch parseUri o command id rest = answer
    obtain ⟨r', result⟩ := answer
    cases writes : o.write with
    | false => exact .inl (by cases result <;> exact unwritten writes ..)
    | true =>
      obtain ⟨-, ⟨e, rfl, unchanged⟩ | ⟨rfl, effect⟩⟩ := dispatch_spec request dispatched
      · simp only [Runtime.replyError, writeControlLine_written writes]
        exact .inr (.inl ⟨_, rfl, unchanged⟩)
      · simp only [Runtime.replyOk, writeControlLine_written writes]
        exact .inr (.inr ⟨trivial, rfl, effect⟩)

/-! ## Replies -/

theorem ok_ne_coded (request other code : String) :
    "ERR " ++ request ++ (" " ++ code) ≠ "OK " ++ other := by
  intro same
  have first := congrArg (fun line => line.toList.head?) same
  simp at first

/-- The blanks of a reply. -/
theorem split_answer {line : String} (answers : Answers c line) (spaceless : ' ' ∉ c.request.toList) :
    ∃ status rest, line.toList.splitOn ' ' = status :: c.request.toList :: rest ∧
      status ≠ "READY".toList ∧ (status = "OK".toList ↔ line = "OK " ++ c.request) := by
  cases answers with
  | ok =>
    have chars : ("OK " ++ c.request).toList = "OK".toList ++ ' ' :: c.request.toList := by simp
    refine ⟨"OK".toList, [], ?_, by decide, by simp⟩
    rw [chars, splitOn_sep (by decide), splitOn_one spaceless]
  | err code =>
    have chars : ("ERR " ++ c.request ++ (" " ++ code)).toList =
        "ERR".toList ++ ' ' :: (c.request.toList ++ ' ' :: code.toList) := by simp
    refine ⟨"ERR".toList, code.toList.splitOn ' ', ?_, by decide, ?_⟩
    · rw [chars, splitOn_sep (by decide), splitOn_sep spaceless]
    · exact iff_of_false (by decide) (ok_ne_coded _ _ _)

theorem answer_not_ready {line : String} (answers : Answers c line)
    (spaceless : ' ' ∉ c.request.toList) : parseReady line = none := by
  obtain ⟨status, rest, split, other, -⟩ := split_answer answers spaceless
  unfold parseReady
  rw [split]
  split
  · rename_i ready id eq
    simp only [List.cons.injEq] at eq
    exact if_neg fun matched => other (eq.1.trans matched.1)
  · rfl

/-- **A reply** that the driver understands is read as what it is. -/
theorem parse_answer {line request : String} {ok : Bool} (answers : Answers c line)
    (spaceless : ' ' ∉ c.request.toList) (h : parseResponse line = some (ok, request)) :
    request = c.request ∧ (ok = true ↔ line = "OK " ++ c.request) := by
  obtain ⟨status, rest, split, -, ok_iff⟩ := split_answer answers spaceless
  have read : ∀ {matched : Prop} [Decidable matched],
      (if matched then some (decide (status = "OK".toList), String.ofList c.request.toList)
        else none) = some (ok, request) →
      request = c.request ∧ (ok = true ↔ line = "OK " ++ c.request) := by
    intro matched _ h
    split at h
    · simp only [Option.some.injEq, Prod.mk.injEq, String.ofList_toList] at h
      refine ⟨h.2.symm, ?_⟩
      rw [← h.1, decide_eq_true_eq]
      exact ok_iff
    · cases h
  simp only [parseResponse, split] at h
  split at h
  · rename_i eq
    simp only [List.cons.injEq] at eq
    obtain ⟨rfl, rfl, -⟩ := eq
    exact read h
  · rename_i eq
    simp only [List.cons.injEq] at eq
    obtain ⟨rfl, rfl, -⟩ := eq
    split at h
    · exact read h
    · cases h
  · cases h

/-! ## Both copies -/

/-- **A call** that the runtime carries out and the controller resumes. -/
theorem done_agrees {uuid : String} {call : DriverCall} {rest : Awaiting} (createdAt : String)
    (ready : Ready k uuid call rest) (agree : Agree k r) (done : Done call r r') :
    Agree (k.resume createdAt rest).1 r' := by
  cases ready with
  | create =>
    refine ⟨fun b => ?_, done.active⟩
    rw [done.tabs, Bool.or_eq_true, decide_eq_true_eq, agree.tabs]
    simp only [TabController.resume, JsMap.has_set, Bool.or_eq_true, decide_eq_true_eq]
    constructor
    · rintro (new | ⟨id, there, same⟩)
      · exact ⟨uuid, .inl rfl, new⟩
      · exact ⟨id, .inr there, same⟩
    · rintro ⟨id, rfl | there, same⟩
      · exact .inl same
      · exact .inr ⟨id, there, same⟩
  | activate known =>
    refine ⟨fun b => ?_, done.active⟩
    rw [done.tabs]
    exact agree.tabs b
  | @navigate id previous url known =>
    refine ⟨fun b => ?_, done.active.trans agree.active⟩
    rw [done.tabs]
    simp only [TabController.resume, JsMap.has_set_known known]
    exact agree.tabs b
  | @remove id fallback known there other behind =>
    refine ⟨fun b => ?_, ?_⟩
    · rw [done.tabs, Bool.and_eq_true, Bool.not_eq_true', decide_eq_false_iff_not, agree.tabs]
      simp only [TabController.resume, JsMap.has_delete, Bool.and_eq_true, Bool.not_eq_true',
        decide_eq_false_iff_not]
      constructor
      · rintro ⟨apart, id', there, rfl⟩
        exact ⟨id', ⟨fun same => apart (congrArg utf8 same), there⟩, rfl⟩
      · rintro ⟨id', ⟨apart, there⟩, rfl⟩
        exact ⟨fun same => apart (utf8_inj.mp same), id', there, rfl⟩
    · have active := done.active
      simp only [agree.active, utf8_inj] at active
      rw [active]
      by_cases same : k.activeTabId = id
      · simp [TabController.resume, same]
      · simp [TabController.resume, same, Ne.symm same]

end

end Fireball.Tabs
