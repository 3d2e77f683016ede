import Fireball.Foundation.Machine
import Fireball.Tabs.Driver

/-!
# The native command protocol

The driver as a machine over the calls of its methods, the lines of the child, the
timers, the callbacks of its writes and the events of the child, in any order.

* `ProtocolWf`: the pending requests and the running timers are those of the
  promises that are not settled;
* `step_protocol`: every event keeps it;
* `native_protocol`: requests are unique, and what each event settles.
-/

namespace Fireball.Tabs

open Foundation

structure Protocol where
  driver : NativeTabDriver
  /-- The commands that were sent, by their promises. -/
  sent : List Command
  /-- The promises, and how they were settled. -/
  promises : List (Option Outcome)
  /-- The commands whose write has not called back. -/
  writing : JsSet Nat

inductive ProtocolEvent
  | call (call : DriverCall)
  | line (line : String)
  | expired (k : Nat)
  | written (k : Nat) (failed : Bool)
  | childError (message : String)
  | childExit (status : String)
  | stdinDestroyed
  | shutdown
  deriving DecidableEq

/-- A promise is settled once; a later `resolve` or `reject` does nothing. -/
def settlePromise (promises : List (Option Outcome)) (settlement : Settlement) :
    List (Option Outcome) :=
  promises.modify settlement.1 (·.or (some settlement.2))

def Protocol.apply (s : Protocol) (result : NativeTabDriver × List Settlement) : Protocol :=
  { s with driver := result.1, promises := result.2.foldl settlePromise s.promises }

def protocolStep (parseUrl : String → Option Url) (s : Protocol) : ProtocolEvent → Option Protocol
  | .call call => match s.driver.call parseUrl call with
    | (driver, .ok command) => some
      { driver
        sent := s.sent ++ [command]
        promises := s.promises ++ [none]
        writing := s.writing.add command.promise }
    | (driver, .error _) => some { s with driver }
  | .line line => some (s.apply (s.driver.handleLine line))
  | .expired k =>
    if s.driver.timers.has k then s.sent[k]?.map fun c => s.apply (s.driver.expire c) else none
  | .written k failed =>
    if s.writing.has k then s.sent[k]?.map fun c =>
      let s := { s with writing := s.writing.delete k }
      if failed then s.apply (s.driver.writeFails c) else s
    else none
  | .childError message => some (s.apply (s.driver.childError message))
  | .childExit status =>
    if s.driver.child.exited then none else some (s.apply (s.driver.childExit status))
  | .stdinDestroyed => some
    { s with driver := { s.driver with child := { s.driver.child with stdin := .destroyed } } }
  | .shutdown => some { s with driver := s.driver.shutdown.1 }

def protocol (parseUrl : String → Option Url) (expectedInitialTabId : String) :
    Machine Protocol ProtocolEvent :=
  ⟨⟨.new expectedInitialTabId, [], [], .empty⟩, protocolStep parseUrl⟩

/-! ## Lines -/

/-- The line `OK request`, with or without a code. -/
def IsOk (request line : String) : Prop :=
  line = "OK " ++ request ∨
    ∃ code, isErrorCode code = true ∧ line = "OK " ++ request ++ " " ++ String.ofList code

/-- Output that is neither a reply nor `READY`. -/
def Malformed (line : String) : Prop := parseReady line = none ∧ parseResponse line = none

theorem line_of_split {line : String} {parts : List (List Char)}
    (h : line.toList.splitOn ' ' = parts) : line = String.ofList ([' '].intercalate parts) := by
  rw [← h, List.intercalate_splitOn, String.ofList_toList]

theorem isOk_of_response {line request : String} (h : parseResponse line = some (true, request)) :
    IsOk request line := by
  unfold parseResponse at h
  simp only at h
  split at h
  · rename_i status digits split
    split at h
    · rename_i matched
      simp only [Option.some.injEq, Prod.mk.injEq, decide_eq_true_eq] at h
      obtain ⟨ok, rfl⟩ := h
      refine .inl ((line_of_split split).trans ?_)
      rw [ok]
      apply String.toList_injective
      simp [List.intercalate_cons_cons]
    · cases h
  · rename_i status digits code split
    split at h
    · rename_i legal
      split at h
      · rename_i matched
        simp only [Option.some.injEq, Prod.mk.injEq, decide_eq_true_eq] at h
        obtain ⟨ok, rfl⟩ := h
        refine .inr ⟨code, legal, (line_of_split split).trans ?_⟩
        rw [ok]
        apply String.toList_injective
        simp [List.intercalate_cons_cons]
      · cases h
    · cases h
  · cases h

/-- A reply is not a `READY` line. -/
theorem response_not_ready {line : String} {reply : Bool × String}
    (h : parseResponse line = some reply) : parseReady line = none := by
  unfold parseReady
  split
  · rename_i ready id split
    split
    · rename_i matched
      simp only [parseResponse, split, matched.1] at h
      simp at h
    · rfl
  · rfl

/-- Malformed output, or the end of the child. -/
def ProtocolEvent.Fails : ProtocolEvent → Prop
  | .line output => Malformed output
  | .childError _ => True
  | .childExit _ => True
  | _ => False

/-- What one event may settle. -/
structure Settles (s : Protocol) (e : ProtocolEvent) (t : Protocol) : Prop where
  /-- A promise that is settled stays as it is. -/
  once : ∀ (k : Nat) o, s.promises[k]? = some (some o) → t.promises[k]? = some (some o)
  /-- A promise resolves at its own `OK`, which arrives while the command is pending
  and its timer runs. -/
  resolved : ∀ (k : Nat) (c : Command), s.sent[k]? = some c → s.promises[k]? = some none →
    t.promises[k]? = some (some .resolved) → ∃ line, e = .line line ∧ IsOk c.request line ∧
      s.driver.pending.get c.request = some k ∧ s.driver.timers.has k = true
  /-- A reply leaves the commands alone that have another request. -/
  own : ∀ line ok request, e = .line line → parseResponse line = some (ok, request) →
    ∀ (k : Nat) (c : Command), s.sent[k]? = some c → c.request ≠ request →
      t.promises[k]? = s.promises[k]?
  /-- A reply to a command that is settled changes nothing. -/
  late : ∀ line ok (k : Nat) (c : Command) o, e = .line line →
    parseResponse line = some (ok, c.request) → s.sent[k]? = some c →
    s.promises[k]? = some (some o) → t = s
  cleared : e.Fails → ∀ (k : Nat), t.promises[k]? ≠ some none

/-! ## Promises -/

/-- How a list of `resolve` and `reject` calls leaves one promise. -/
theorem get_settled (settlements : List Settlement) (promises : List (Option Outcome)) (k : Nat) :
    (settlements.foldl settlePromise promises)[k]? =
      promises[k]?.map (·.or (settlements.lookup k)) := by
  induction settlements generalizing promises with
  | nil => simp
  | cons first rest ih =>
    rw [List.foldl_cons, ih, settlePromise, List.getElem?_modify, List.lookup_cons]
    by_cases same : first.1 = k
    · subst same
      cases promises[first.1]? with
      | none => rfl
      | some o => cases o <;> simp
    · have other : (k == first.1) = false := by simpa using Ne.symm same
      rw [other]
      cases promises[k]? with
      | none => rfl
      | some o => simp [same]

/-- The pending requests and the running timers are those of the promises that are
not settled, and command `k` has request `k + 1`. -/
structure ProtocolWf (s : Protocol) : Prop where
  counted : s.driver.promises = s.promises.length
  sent : s.sent.length = s.promises.length
  next : s.driver.nextRequest = s.promises.length + 1
  named : ∀ k c, s.sent[k]? = some c → c.promise = k ∧ c.request = toString (k + 1)
  pending : ∀ request k, s.driver.pending.get request = some k ↔
    request = toString (k + 1) ∧ s.promises[k]? = some none
  timers : ∀ k, s.driver.timers.has k = true ↔ s.promises[k]? = some none

section
variable {parseUrl : String → Option Url} {s t : Protocol}

theorem protocolWf_initial (id : String) : ProtocolWf ⟨.new id, [], [], .empty⟩ where
  counted := rfl
  sent := rfl
  next := rfl
  named := fun _ _ found => nomatch found
  pending := fun _ _ => ⟨(fun found => nomatch found), fun ⟨_, found⟩ => nomatch found⟩
  timers := fun _ => ⟨(fun found => nomatch found), fun found => nomatch found⟩

theorem length_settled (settlements : List Settlement) (promises : List (Option Outcome)) :
    (settlements.foldl settlePromise promises).length = promises.length := by
  induction settlements generalizing promises with
  | nil => rfl
  | cons first rest ih => rw [List.foldl_cons, ih, settlePromise, List.length_modify]

theorem unsettled_apply (d : NativeTabDriver) (settlements : List Settlement) (k : Nat) :
    (s.apply (d, settlements)).promises[k]? = some none ↔
      s.promises[k]? = some none ∧ settlements.lookup k = none := by
  simp only [Protocol.apply, get_settled]
  cases s.promises[k]? with
  | none => simp
  | some o => cases o <;> simp

/-- Settling promises, with their requests and their timers taken away. -/
theorem apply_wf {d : NativeTabDriver} {settlements : List Settlement} (wf : ProtocolWf s)
    (promises : d.promises = s.driver.promises) (next : d.nextRequest = s.driver.nextRequest)
    (pending : ∀ request k, d.pending.get request = some k ↔
      s.driver.pending.get request = some k ∧ settlements.lookup k = none)
    (timers : ∀ k, d.timers.has k = true ↔ s.driver.timers.has k = true ∧ settlements.lookup k = none) :
    ProtocolWf (s.apply (d, settlements)) where
  counted := by
    simp only [Protocol.apply, length_settled]
    exact promises.trans wf.counted
  sent := by
    simp only [Protocol.apply, length_settled]
    exact wf.sent
  next := by
    simp only [Protocol.apply, length_settled]
    exact next.trans wf.next
  named := wf.named
  pending := fun request k => by
    rw [unsettled_apply, ← and_assoc, ← wf.pending]
    exact pending request k
  timers := fun k => by
    rw [unsettled_apply, ← wf.timers]
    exact timers k

theorem lookup_single (k j : Nat) (outcome : Outcome) :
    List.lookup j [(k, outcome)] = none ↔ j ≠ k := by
  by_cases same : j = k
  · simp [same]
  · have other : (j == k) = false := by simpa using same
    simp [List.lookup_cons, other, same]

theorem lookup_one {k j : Nat} {outcome o : Outcome} (h : List.lookup j [(k, outcome)] = some o) :
    j = k ∧ outcome = o := by
  by_cases same : j = k
  · subst same
    exact ⟨rfl, by simpa using h⟩
  · cases ((lookup_single k j outcome).mpr same).symm.trans h

theorem settle_wf {k : Nat} {outcome : Outcome} (wf : ProtocolWf s) :
    ProtocolWf (s.apply (s.driver.settle (toString (k + 1)) k outcome)) := by
  refine apply_wf wf rfl rfl (fun request j => ?_) fun j => ?_
  · simp only [JsMap.get_delete, lookup_single]
    split
    · rename_i same
      constructor
      · rintro ⟨⟩
      · rintro ⟨found, other⟩
        have named := ((wf.pending request j).mp found).1
        have number := toString_inj.mp (same.trans named)
        omega
    · rename_i apart
      refine ⟨fun found => ⟨found, ?_⟩, fun found => found.1⟩
      rintro rfl
      exact apart ((wf.pending request j).mp found).1.symm
  · simp only [JsMap.has_delete, lookup_single, Bool.and_eq_true, Bool.not_eq_true',
      decide_eq_false_iff_not]
    constructor
    · rintro ⟨other, runs⟩
      exact ⟨runs, Ne.symm other⟩
    · rintro ⟨runs, other⟩
      exact ⟨Ne.symm other, runs⟩

theorem lookup_rejected (l : List Nat) (outcome : Outcome) (k : Nat) :
    List.lookup k (l.map fun promise => (promise, outcome)) = none ↔ k ∉ l := by
  rw [List.lookup_eq_none_iff]
  constructor
  · intro other mem
    simpa using other _ (List.mem_map_of_mem mem)
  · intro absent p mem
    obtain ⟨promise, member, rfl⟩ := List.mem_map.mp mem
    simpa using fun same : k = promise => absent (same ▸ member)

theorem lookup_outcome {l : List Nat} {outcome o : Outcome} {k : Nat}
    (h : List.lookup k (l.map fun promise => (promise, outcome)) = some o) : o = outcome := by
  obtain ⟨before, after, eq, -⟩ := List.lookup_eq_some_iff.mp h
  have mem : (k, o) ∈ l.map fun promise => (promise, outcome) := by simp [eq]
  obtain ⟨promise, -, same⟩ := List.mem_map.mp mem
  exact (congrArg Prod.snd same).symm

theorem fail_wf (message : String) (wf : ProtocolWf s) : ProtocolWf (s.apply (s.driver.fail message)) := by
  refine apply_wf wf rfl rfl (fun request k => ?_) fun k => ?_
  · simp only [lookup_rejected, JsMap.mem_values]
    constructor
    · rintro ⟨⟩
    · rintro ⟨found, absent⟩
      exact absurd ⟨request, found⟩ absent
  · simp only [lookup_rejected, JsMap.has, JsMap.get_deleteAll]
    split
    · rename_i member
      simp [member]
    · rename_i absent
      simp [absent]

/-- After `#fail` no promise waits. -/
theorem fail_clears (message : String) (wf : ProtocolWf s) (k : Nat) :
    (s.apply (s.driver.fail message)).promises[k]? ≠ some none := by
  intro waits
  have empty := ((fail_wf message wf).pending (toString (k + 1)) k).mpr ⟨rfl, waits⟩
  cases empty

/-! ## One event -/

/-- A command that the driver sends, with the next promise and the next request. -/
structure Sends (s : Protocol) (d : NativeTabDriver) (c : Command) : Prop where
  promise : c.promise = s.promises.length
  request : c.request = toString (s.promises.length + 1)
  promises : d.promises = s.driver.promises + 1
  next : d.nextRequest = s.driver.nextRequest + 1
  timers : d.timers = s.driver.timers.add s.promises.length
  pending : d.pending = s.driver.pending.set c.request s.promises.length

theorem command_sends {type : String} {arguments : List String} {d : NativeTabDriver} {c : Command}
    (wf : ProtocolWf s) (h : s.driver.command type arguments = (d, .ok c)) : Sends s d c := by
  unfold NativeTabDriver.command at h
  split at h
  · cases h
  · cases h
    exact ⟨wf.counted, by rw [wf.next], rfl, rfl, by rw [wf.counted], by rw [wf.counted]⟩

theorem call_sends {call : DriverCall} {d : NativeTabDriver} {c : Command} (wf : ProtocolWf s)
    (h : s.driver.call parseUrl call = (d, .ok c)) : Sends s d c := by
  cases call with
  | create id url | navigate id url =>
    simp only [NativeTabDriver.call] at h
    split at h
    · cases h
    · exact command_sends wf h
  | activate id | remove id fallbackId => exact command_sends wf h

theorem call_refused {call : DriverCall} {d : NativeTabDriver} {e : TabControlError}
    (h : s.driver.call parseUrl call = (d, .error e)) : d = s.driver := by
  have sent : ∀ type arguments, s.driver.command type arguments = (d, .error e) → d = s.driver := by
    intro type arguments sent
    unfold NativeTabDriver.command at sent
    split at sent
    · cases sent
      rfl
    · cases sent
  cases call with
  | create id url | navigate id url =>
    simp only [NativeTabDriver.call] at h
    split at h
    · cases h
      rfl
    · exact sent _ _ h
  | activate id | remove id fallbackId => exact sent _ _ h

/-- A command is sent. -/
theorem call_protocol {d : NativeTabDriver} {c : Command} {writing : JsSet Nat} (wf : ProtocolWf s)
    {call : DriverCall} (h : s.driver.call parseUrl call = (d, .ok c)) :
    ProtocolWf ⟨d, s.sent ++ [c], s.promises ++ [none], writing⟩ := by
  obtain ⟨promise, request, promises, next, timers, pending⟩ := call_sends wf h
  have unsettled : ∀ k, (s.promises ++ [none])[k]? = some none ↔
      k = s.promises.length ∨ s.promises[k]? = some none := by
    intro k
    rw [List.getElem?_append]
    split
    · rename_i inside
      exact ⟨.inr, fun h => h.resolve_left (Nat.ne_of_lt inside)⟩
    · rename_i outside
      rw [List.getElem?_eq_none_iff.mpr (Nat.le_of_not_lt outside)]
      constructor
      · intro found
        have zero := (List.getElem?_eq_some_iff.mp found).1
        simp only [List.length_singleton] at zero
        exact .inl (by omega)
      · rintro (rfl | found)
        · simp
        · cases found
  refine ⟨?_, ?_, ?_, ?_, ?_, ?_⟩
  · simp [promises, wf.counted]
  · simp [wf.sent]
  · simp [next, wf.next]
  · intro k c' found
    rw [List.getElem?_append] at found
    split at found
    · exact wf.named k c' found
    · rename_i outside
      obtain ⟨zero, eq⟩ := List.getElem?_eq_some_iff.mp found
      have last : k = s.promises.length := by
        simp only [List.length_singleton] at zero
        have := wf.sent
        omega
      subst last
      have same : c' = c := by simpa using eq.symm
      subst same
      exact ⟨promise, request⟩
  · intro r k
    rw [pending, JsMap.get_set, unsettled, request]
    split
    · rename_i same
      subst same
      rw [toString_inj, Option.some.injEq]
      constructor
      · rintro rfl
        exact ⟨rfl, .inl rfl⟩
      · rintro ⟨number, -⟩
        omega
    · rename_i apart
      rw [wf.pending]
      constructor
      · rintro ⟨named, found⟩
        exact ⟨named, .inr found⟩
      · rintro ⟨named, rfl | found⟩
        · exact absurd named.symm apart
        · exact ⟨named, found⟩
  · intro k
    rw [timers, JsMap.has_add, unsettled, Bool.or_eq_true, decide_eq_true_eq, wf.timers, eq_comm]

theorem requests_nodup (wf : ProtocolWf s) : (s.sent.map (·.request)).Nodup := by
  have numbered : s.sent.map (·.request) = (List.range s.sent.length).map fun k => toString (k + 1) := by
    refine List.ext_getElem (by simp) fun k inside _ => ?_
    have within : k < s.sent.length := by simpa using inside
    simpa using (wf.named k _ (List.getElem?_eq_getElem within)).2
  rw [numbered]
  refine (List.nodup_range).map fun j k same => ?_
  exact Nat.succ.inj (toString_inj.mp same)

theorem settled_once {settlements : List Settlement} {k : Nat} {o : Outcome}
    (h : s.promises[k]? = some (some o)) :
    (settlements.foldl settlePromise s.promises)[k]? = some (some o) := by
  rw [get_settled, h]
  rfl

theorem settled_new {settlements : List Settlement} {k : Nat} {o : Outcome}
    (before : s.promises[k]? = some none)
    (after : (settlements.foldl settlePromise s.promises)[k]? = some (some o)) :
    settlements.lookup k = some o := by
  rw [get_settled, before] at after
  simpa using after

/-- An event that is no reply only rejects. -/
theorem settles_rejecting {e : ProtocolEvent} {settlements : List Settlement}
    (promises : t.promises = settlements.foldl settlePromise s.promises)
    (noReply : ∀ line, e = .line line → parseResponse line = none)
    (rejects : ∀ k, settlements.lookup k ≠ some .resolved)
    (cleared : e.Fails → ∀ k : Nat, t.promises[k]? ≠ some none) : Settles s e t where
  once := fun k o h => by
    rw [promises]
    exact settled_once h
  resolved := fun k c _ before after => by
    rw [promises] at after
    exact absurd (settled_new before after) (rejects k)
  own := fun line _ _ eq reply => nomatch (noReply line eq).symm.trans reply
  late := fun line _ _ _ _ eq reply => nomatch (noReply line eq).symm.trans reply
  cleared := cleared

theorem settles_nothing {e : ProtocolEvent} (promises : t.promises = s.promises)
    (noReply : ∀ line, e = .line line → parseResponse line = none) (goesOn : ¬ e.Fails) :
    Settles s e t := by
  have settled : t.promises = List.foldl settlePromise s.promises [] := promises
  exact settles_rejecting settled noReply (fun _ other => nomatch other) fun fails => absurd fails goesOn

theorem settles_call {call : DriverCall} {d : NativeTabDriver} {c : Command} {writing : JsSet Nat} :
    Settles s (.call call) ⟨d, s.sent ++ [c], s.promises ++ [none], writing⟩ where
  once := fun k o h => by
    have inside := (List.getElem?_eq_some_iff.mp h).1
    simpa only [List.getElem?_append_left inside] using h
  resolved := fun k _ _ before after => by
    have inside := (List.getElem?_eq_some_iff.mp before).1
    simp only [List.getElem?_append_left inside] at after
    cases before.symm.trans after
  own := fun _ _ _ eq => nomatch eq
  late := fun _ _ _ _ _ eq => nomatch eq
  cleared := fun fails => nomatch fails

theorem handleLine_ready {line id : String} {d : NativeTabDriver} (h : parseReady line = some id) :
    d.handleLine line = (d.settleReady (if id = d.expectedInitialTabId then .ok ()
      else .error "native tab runtime returned an unexpected initial tab"), []) := by
  simp only [NativeTabDriver.handleLine, h]

theorem handleLine_malformed {line : String} {d : NativeTabDriver} (h : Malformed line) :
    d.handleLine line = d.fail "native tab runtime returned malformed output" := by
  simp only [NativeTabDriver.handleLine, h.1, h.2]

theorem handleLine_reply {line request : String} {ok : Bool} {d : NativeTabDriver}
    (h : parseResponse line = some (ok, request)) :
    d.handleLine line = match d.pending.get request with
      | none => (d, [])
      | some promise => d.settle request promise (if ok then .resolved
        else .rejected ⟨.tabRuntimeFailure, "tab runtime rejected the operation"⟩) := by
  cases found : d.pending.get request with
  | none => simp only [NativeTabDriver.handleLine, response_not_ready h, h, found]
  | some promise => simp only [NativeTabDriver.handleLine, response_not_ready h, h, found]

/-- A reply of the child. -/
theorem reply_step {line request : String} {ok : Bool} (wf : ProtocolWf s)
    (h : parseResponse line = some (ok, request)) :
    ProtocolWf (s.apply (s.driver.handleLine line)) ∧
      Settles s (.line line) (s.apply (s.driver.handleLine line)) := by
  rw [handleLine_reply h]
  cases found : s.driver.pending.get request with
  | none =>
    refine ⟨wf, fun _ _ settled => settled, fun k c _ before after => ?_, fun _ _ _ _ _ _ _ _ _ => rfl,
      fun _ _ _ _ _ _ _ _ _ => rfl, fun fails => ?_⟩
    · cases before.symm.trans after
    · cases fails.2.symm.trans h
  | some promise =>
    obtain ⟨named, waiting⟩ := (wf.pending request promise).mp found
    subst named
    dsimp only
    refine ⟨settle_wf wf, fun _ _ settled => settled_once settled, fun k c sent before after => ?_,
      fun line' ok' request' eq reply k c sent other => ?_,
      fun line' ok' k c o eq reply sent settled => ?_, fun fails => ?_⟩
    · obtain ⟨same, resolved⟩ := lookup_one (settled_new before after)
      subst same
      rw [(wf.named k c sent).2]
      cases ok with
      | false => cases resolved
      | true => exact ⟨line, rfl, isOk_of_response h, found, (wf.timers k).mpr before⟩
    · cases eq
      cases h.symm.trans reply
      have apart : k ≠ promise := by
        rintro rfl
        exact other (wf.named k c sent).2
      simp only [Protocol.apply, NativeTabDriver.settle, get_settled, (lookup_single _ _ _).mpr apart]
      cases s.promises[k]? with
      | none => rfl
      | some o => cases o <;> rfl
    · cases eq
      have number := (wf.named k c sent).2
      rw [number, h] at reply
      simp only [Option.some.injEq, Prod.mk.injEq] at reply
      have same : promise = k := by
        have := toString_inj.mp reply.2
        omega
      subst same
      cases waiting.symm.trans settled
    · cases fails.2.symm.trans h

/-- A change that no promise depends on. -/
theorem ProtocolWf.same (wf : ProtocolWf s) {d : NativeTabDriver} {writing : JsSet Nat}
    (promises : d.promises = s.driver.promises) (next : d.nextRequest = s.driver.nextRequest)
    (pending : d.pending = s.driver.pending) (timers : d.timers = s.driver.timers) :
    ProtocolWf ⟨d, s.sent, s.promises, writing⟩ where
  counted := promises.trans wf.counted
  sent := wf.sent
  next := next.trans wf.next
  named := wf.named
  pending := by
    rw [pending]
    exact wf.pending
  timers := by
    rw [timers]
    exact wf.timers

theorem fail_step {e : ProtocolEvent} {s₀ : Protocol} (message : String) (wf : ProtocolWf s)
    (promises : s.promises = s₀.promises) (noReply : ∀ line, e = .line line → parseResponse line = none) :
    ProtocolWf (s.apply (s.driver.fail message)) ∧ Settles s₀ e (s.apply (s.driver.fail message)) := by
  refine ⟨fail_wf message wf, settles_rejecting (by rw [← promises]; rfl) noReply (fun k resolved => ?_)
    fun _ k => fail_clears message wf k⟩
  cases lookup_outcome resolved

theorem reject_step {e : ProtocolEvent} {s₀ : Protocol} {k : Nat} {error : TabControlError}
    (wf : ProtocolWf s) (promises : s.promises = s₀.promises)
    (noReply : ∀ line, e = .line line → parseResponse line = none) (goesOn : ¬ e.Fails) :
    ProtocolWf (s.apply (s.driver.settle (toString (k + 1)) k (.rejected error))) ∧
      Settles s₀ e (s.apply (s.driver.settle (toString (k + 1)) k (.rejected error))) := by
  refine ⟨settle_wf wf, settles_rejecting (by rw [← promises]; rfl) noReply (fun j resolved => ?_)
    fun fails => absurd fails goesOn⟩
  cases (lookup_one resolved).2

theorem ready_step {line id : String} (wf : ProtocolWf s) (ready : parseReady line = some id) :
    ProtocolWf (s.apply (s.driver.handleLine line)) ∧
      Settles s (.line line) (s.apply (s.driver.handleLine line)) := by
  have noReply : ∀ line', ProtocolEvent.line line = .line line' → parseResponse line' = none := by
    rintro line' ⟨⟩
    by_contra some
    obtain ⟨reply, h⟩ := Option.ne_none_iff_exists'.mp some
    cases ready.symm.trans (response_not_ready h)
  rw [handleLine_ready ready]
  exact ⟨wf.same rfl rfl rfl rfl,
    settles_nothing rfl noReply fun fails => nomatch ready.symm.trans fails.1⟩

/-- **One event** of the protocol. -/
theorem step_protocol {e : ProtocolEvent} (wf : ProtocolWf s) (h : protocolStep parseUrl s e = some t) :
    ProtocolWf t ∧ Settles s e t := by
  cases e with
  | call call =>
    simp only [protocolStep] at h
    split at h
    · rename_i d c sent
      cases h
      exact ⟨call_protocol wf sent, settles_call⟩
    · rename_i d error refused
      cases h
      rw [call_refused refused]
      exact ⟨wf, settles_nothing rfl (by rintro _ ⟨⟩) (by rintro ⟨⟩)⟩
  | line line =>
    cases h
    cases ready : parseReady line with
    | some id => exact ready_step wf ready
    | none =>
      cases reply : parseResponse line with
      | some response => exact reply_step wf reply
      | none =>
        rw [handleLine_malformed ⟨ready, reply⟩]
        refine fail_step _ wf rfl ?_
        rintro line' ⟨⟩
        exact reply
  | expired k =>
    simp only [protocolStep] at h
    split at h
    · obtain ⟨c, sent, rfl⟩ := Option.map_eq_some_iff.mp h
      obtain ⟨promise, request⟩ := wf.named k c sent
      rw [NativeTabDriver.expire, promise, request]
      exact reject_step wf rfl (by rintro _ ⟨⟩) (by rintro ⟨⟩)
    · cases h
  | written k failed =>
    simp only [protocolStep] at h
    split at h
    · obtain ⟨c, sent, rfl⟩ := Option.map_eq_some_iff.mp h
      obtain ⟨promise, request⟩ := wf.named k c sent
      cases failed with
      | false =>
        exact ⟨wf.same rfl rfl rfl rfl,
          settles_nothing rfl (by rintro _ ⟨⟩) (by rintro ⟨⟩)⟩
      | true =>
        rw [if_pos rfl, NativeTabDriver.writeFails, promise, request]
        have broken : ProtocolWf
            ⟨{ s.driver with child := { s.driver.child with stdin := .destroyed } }, s.sent, s.promises,
              s.writing.delete k⟩ := wf.same rfl rfl rfl rfl
        exact reject_step broken rfl (by rintro _ ⟨⟩) (by rintro ⟨⟩)
    · cases h
  | childError message =>
    cases h
    exact fail_step message wf rfl (by rintro _ ⟨⟩)
  | childExit status =>
    simp only [protocolStep] at h
    split at h
    · cases h
    · cases h
      have gone : ProtocolWf
          ⟨{ s.driver with child := { s.driver.child with exited := true } }, s.sent, s.promises,
            s.writing⟩ := wf.same rfl rfl rfl rfl
      exact fail_step _ gone rfl (by rintro _ ⟨⟩)
  | stdinDestroyed =>
    cases h
    exact ⟨wf.same rfl rfl rfl rfl,
      settles_nothing rfl (by rintro _ ⟨⟩) (by rintro ⟨⟩)⟩
  | shutdown =>
    cases h
    have quiet : s.driver.shutdown.1.promises = s.driver.promises ∧
        s.driver.shutdown.1.nextRequest = s.driver.nextRequest ∧
        s.driver.shutdown.1.pending = s.driver.pending ∧
        s.driver.shutdown.1.timers = s.driver.timers := by
      unfold NativeTabDriver.shutdown
      split <;> exact ⟨rfl, rfl, rfl, rfl⟩
    exact ⟨wf.same quiet.1 quiet.2.1 quiet.2.2.1 quiet.2.2.2,
      settles_nothing rfl (by rintro _ ⟨⟩) (by rintro ⟨⟩)⟩

end

/-! ## Every run -/

/-- **The native command protocol.** In every state that the driver reaches, each
command has a request of its own, and each further event settles what it may. -/
theorem native_protocol (parseUrl : String → Option Url) (expectedInitialTabId : String)
    {s : Protocol} (reached : (protocol parseUrl expectedInitialTabId).Reachable (fun _ _ => True) s) :
    (s.sent.map (·.request)).Nodup ∧
      ∀ e t, protocolStep parseUrl s e = some t → Settles s e t := by
  have wf : ProtocolWf s :=
    reached.invariant (protocolWf_initial expectedInitialTabId) fun _ _ _ _ wf _ h =>
      (step_protocol wf h).1
  exact ⟨requests_nodup wf, fun e t h => (step_protocol wf h).2⟩

/-- A reply to no command, a reply, and output that ends the others. -/
def replies : List ProtocolEvent :=
  [.call (.activate "a"), .call (.activate "b"), .line "OK 3", .line "OK 1", .line "no reply"]

theorem native_protocol_replies : ∃ s,
    (protocol (fun _ => none) "home").Reachable (fun _ _ => True) s ∧
    s.promises = [some .resolved, some (.rejected (runtimeUnavailable "tab runtime is unavailable"))] ∧
    (s.sent.map (·.request)).Nodup := by
  have runs : ((protocol (fun _ => none) "home").runFrom (protocol (fun _ => none) "home").init
      replies).isSome = true := by
    decide
  have reached : (protocol (fun _ => none) "home").Reachable (fun _ _ => True) _ :=
    Machine.reaches_end (by decide) runs
  exact ⟨_, reached, rfl, (native_protocol (fun _ => none) "home" reached).1⟩

/-! ## An answer with a code -/

/-- The code that may follow `ERR` may follow `OK` as well. -/
theorem resolved_by_coded_ok : ¬ ∀ s,
    (protocol (fun _ => none) "home").Reachable (fun _ _ => True) s →
    ∀ e t, protocolStep (fun _ => none) s e = some t → ∀ (k : Nat) (c : Command),
      s.sent[k]? = some c → s.promises[k]? = some none → t.promises[k]? = some (some .resolved) →
      e = .line ("OK " ++ c.request) := by
  intro plain
  have runs : ((protocol (fun _ => none) "home").runFrom (protocol (fun _ => none) "home").init
      [.call (.activate "a")]).isSome = true := by
    decide
  have reached : (protocol (fun _ => none) "home").Reachable (fun _ _ => True) _ :=
    Machine.reaches_end (by decide) runs
  have line := plain _ reached (.line "OK 1 ABC") _ rfl 0 ⟨0, "1", "ACTIVATE 1 a\n"⟩ rfl rfl rfl
  exact absurd line (by decide)

end Fireball.Tabs
