import Fireball.Foundation.Machine
import Fireball.Tabs.Runtime

/-!
# The tabs of the native runtime

* `createTab_spec`, `navigateTab_spec`, `removeTab_spec`: an operation is refused and
  changes nothing, or it has its effect;
* `effect_wf`: an effect keeps the tabs in order;
* `native_tabs`: every line that the runtime is handed, from `Initialize` on.
-/

namespace Fireball.Tabs

open Foundation

/-! ## What the tabs are -/

/-- A lower-case v4 UUID, in ASCII. -/
structure LowerUuid (value : Bytes) : Prop where
  length : value.length = 36
  dashes : ∀ i ∈ [8, 13, 18, 23], value[i]? = some 45
  digits : ∀ (i : Nat) (b : UInt8), value[i]? = some b → i ∉ [8, 13, 18, 23] →
    48 ≤ b ∧ b ≤ 57 ∨ 97 ≤ b ∧ b ≤ 102
  version : value[14]? = some 52
  variant : ∃ b ∈ ([56, 57, 97, 98] : Bytes), value[19]? = some b

structure RuntimeWf (parseUri : Bytes → Option GUri) (r : Runtime) : Prop where
  positive : 1 ≤ r.tabs.size
  bounded : r.tabs.size ≤ 4
  active : r.tabs.has r.activeTabId = true
  tabs : ∀ id tab, r.tabs.get id = some tab → LowerUuid id ∧ tab.id = id ∧ validUrl parseUri tab.url = true

/-- Nothing that a client can see has changed. -/
structure Unchanged (r r' : Runtime) : Prop where
  tabs : r'.tabs = r.tabs
  active : r'.activeTabId = r.activeTabId

/-- The loop goes on as before. -/
structure SameLoop (r r' : Runtime) : Prop where
  running : r'.running = r.running
  exitCode : r'.exitCode = r.exitCode
  quit : r'.quit = r.quit

/-- What a command that is answered `OK` has done, by the fields of its line. -/
inductive Effect (parseUri : Bytes → Option GUri) (r r' : Runtime) (request : Bytes) :
    List Bytes → Prop
  | shutdown : Unchanged r r' → r'.quit = true → Effect parseUri r r' request [utf8 "SHUTDOWN", request]
  | create {id argument url} : decodeHex argument = some url → validUuid id = true →
      validUrl parseUri url = true → r.tabs.size < 4 → r.tabs.get id = none →
      r'.tabs = r.tabs.set id ⟨id, url⟩ → r'.activeTabId = id → SameLoop r r' →
      Effect parseUri r r' request [utf8 "CREATE", request, id, argument]
  | activate {id} : r.tabs.has id = true → r'.tabs = r.tabs → r'.activeTabId = id → SameLoop r r' →
      Effect parseUri r r' request [utf8 "ACTIVATE", request, id]
  | navigate {id argument url tab} : decodeHex argument = some url → validUrl parseUri url = true →
      r.tabs.get id = some tab → r'.tabs = r.tabs.set id { tab with url } →
      r'.activeTabId = r.activeTabId → SameLoop r r' →
      Effect parseUri r r' request [utf8 "NAVIGATE", request, id, argument]
  | delete {id fallback} : r.tabs.has id = true → r.tabs.size ≠ 1 → r.tabs.has fallback = true →
      fallback ≠ id → r'.tabs = r.tabs.delete id →
      r'.activeTabId = (if r.activeTabId = id then fallback else r.activeTabId) → SameLoop r r' →
      Effect parseUri r r' request [utf8 "DELETE", request, id, fallback]

/-- The lines that are answered: three fields or more with a request number, or a
`SHUTDOWN` with one. -/
def Answerable (fields : List Bytes) (request : Bytes) : Prop :=
  validRequest request = true ∧ (fields = [utf8 "SHUTDOWN", request] ∨
    ∃ command id rest, fields = command :: request :: id :: rest)

/-- How a line is handled. -/
structure Handled (parseUri : Bytes → Option GUri) (line : Bytes) (r : Runtime)
    (result : Runtime × List Bytes) : Prop where
  answered : ∀ request, Answerable (Runtime.fields line) request →
    result.2 = [utf8 "OK " ++ request] ∨
      ∃ code, result.2 = [utf8 "ERR " ++ request ++ utf8 (" " ++ safeErrorCode code)]
  silent : (∀ request, ¬ Answerable (Runtime.fields line) request) →
    result.2 = [] ∧ result.1.exitCode = 1 ∧ result.1.quit = true
  refused : ∀ rest, result.2 = [utf8 "ERR " ++ rest] → Unchanged r result.1
  done : ∀ request, result.2 = [utf8 "OK " ++ request] →
    Effect parseUri r result.1 request (Runtime.fields line)

section
variable {parseUri : Bytes → Option GUri} {o : Outcomes} {r r' : Runtime} {id url : Bytes}
  {result : Except String Unit}

theorem isDigit_iff {b : UInt8} : isDigit b = true ↔ 48 ≤ b ∧ b ≤ 57 := by
  unfold isDigit
  rw [Bool.and_eq_true, decide_eq_true_eq, decide_eq_true_eq]
  exact Iff.rfl

/-- `isxdigit`, and not upper case. -/
theorem lowerXdigit {b : UInt8} (digit : isXdigit b = true) (lower : isUpper b = false) :
    48 ≤ b ∧ b ≤ 57 ∨ 97 ≤ b ∧ b ≤ 102 := by
  simp only [isXdigit, isUpper, Bool.or_eq_true, Bool.and_eq_true, decide_eq_true_eq, isDigit_iff,
    Bool.and_eq_false_iff, decide_eq_false_iff_not] at digit lower
  rcases digit with (decimal | small) | capital
  · exact .inl decimal
  · exact .inr small
  · have below : b ≤ 'Z'.toUInt8 := UInt8.le_trans capital.2 (by decide)
    rcases lower with low | high
    · exact absurd capital.1 low
    · exact absurd below high

theorem lowerUuid_of_valid {value : Bytes} (h : validUuid value = true) : LowerUuid value := by
  unfold validUuid at h
  simp only [Bool.and_eq_true, Bool.or_eq_true, decide_eq_true_eq] at h
  obtain ⟨⟨⟨⟨length, dashes⟩, digits⟩, version⟩, variant⟩ := h
  refine ⟨length, ?_, ?_, version, ?_⟩
  · intro i mem
    exact of_decide_eq_true (List.all_eq_true.mp dashes i mem)
  · intro i b found other
    have mem : (b, i) ∈ value.zipIdx := List.mem_zipIdx_iff_getElem?.mpr found
    have digit := List.all_eq_true.mp digits (b, i) mem
    have apart : i ∉ uuidDashes := other
    simp only [decide_eq_false apart, Bool.false_or, Bool.and_eq_true, Bool.not_eq_true'] at digit
    exact lowerXdigit digit.1 digit.2
  · rcases variant with ((eight | nine) | a) | b
    · exact ⟨56, by simp, eight⟩
    · exact ⟨57, by simp, nine⟩
    · exact ⟨97, by simp, a⟩
    · exact ⟨98, by simp, b⟩

/-! ## The operations -/

theorem Unchanged.refl (r : Runtime) : Unchanged r r := ⟨rfl, rfl⟩

theorem SameLoop.refl (r : Runtime) : SameLoop r r := ⟨rfl, rfl, rfl⟩

theorem activateTab_known (h : r.tabs.has id = true) :
    r.activateTab id = ({ r with activeTabId := id }, .ok ()) := by
  rw [Runtime.activateTab, if_pos h]

theorem activateTab_unknown (h : r.tabs.has id ≠ true) :
    r.activateTab id = (r, .error "TAB_NOT_FOUND") := by
  rw [Runtime.activateTab, if_neg h]

/-- A new tab is entered and becomes the active one, or nothing has changed: what was
entered before the last step is taken back. -/
theorem createTab_spec (h : r.createTab parseUri o id url true = (r', result)) :
    SameLoop r r' ∧ ((∃ e, result = .error e ∧ Unchanged r r') ∨
      result = .ok () ∧ validUuid id = true ∧ validUrl parseUri url = true ∧ r.tabs.size < 4 ∧
        r.tabs.get id = none ∧ r'.tabs = r.tabs.set id ⟨id, url⟩ ∧ r'.activeTabId = id) := by
  unfold Runtime.createTab at h
  split at h
  · cases h
    exact ⟨.refl r, .inl ⟨_, rfl, .refl r⟩⟩
  · rename_i room
    split at h
    · cases h
      exact ⟨.refl r, .inl ⟨_, rfl, .refl r⟩⟩
    · rename_i valid
      simp only [Bool.or_eq_true, Bool.not_eq_true', not_or, Bool.not_eq_true, Bool.not_eq_false] at valid
      obtain ⟨⟨uuid, new⟩, valid⟩ := valid
      have absent : r.tabs.get id = none := by simpa [JsMap.has] using new
      simp only at h
      split at h
      · cases h
        exact ⟨⟨rfl, rfl, rfl⟩, .inl ⟨_, rfl, ⟨rfl, rfl⟩⟩⟩
      split at h
      · cases h
        exact ⟨⟨rfl, rfl, rfl⟩, .inl ⟨_, rfl, ⟨rfl, rfl⟩⟩⟩
      split at h
      · cases h
        exact ⟨⟨rfl, rfl, rfl⟩, .inl ⟨_, rfl, ⟨rfl, rfl⟩⟩⟩
      split at h
      · cases h
        exact ⟨⟨rfl, rfl, rfl⟩, .inl ⟨_, rfl, ⟨rfl, rfl⟩⟩⟩
      split at h
      · cases h
        exact ⟨⟨rfl, rfl, rfl⟩, .inl ⟨_, rfl, ⟨JsMap.delete_set_new absent, rfl⟩⟩⟩
      · rw [activateTab_known (by simp [JsMap.has])] at h
        simp only [Bool.true_or, if_true] at h
        cases h
        exact ⟨⟨rfl, rfl, rfl⟩, .inr ⟨rfl, uuid, valid, Nat.lt_of_not_le room, absent, rfl, rfl⟩⟩

theorem navigateTab_spec (h : r.navigateTab parseUri id url = (r', result)) :
    (∃ e, result = .error e ∧ r' = r) ∨ ∃ tab, result = .ok () ∧ r.tabs.get id = some tab ∧
      validUrl parseUri url = true ∧ r' = { r with tabs := r.tabs.set id { tab with url } } := by
  unfold Runtime.navigateTab at h
  split at h
  · cases h
    exact .inl ⟨_, rfl, rfl⟩
  · rename_i tab found
    split at h
    · cases h
      exact .inl ⟨_, rfl, rfl⟩
    · rename_i valid
      cases h
      exact .inr ⟨tab, rfl, found, by simpa using valid, rfl⟩

theorem removeTab_spec {fallback : Bytes} (h : r.removeTab id fallback = (r', result)) :
    (∃ e, result = .error e ∧ r' = r) ∨ result = .ok () ∧ r.tabs.has id = true ∧ r.tabs.size ≠ 1 ∧
      r.tabs.has fallback = true ∧ fallback ≠ id ∧
      r' = { r with
        tabs := r.tabs.delete id
        activeTabId := if r.activeTabId = id then fallback else r.activeTabId } := by
  unfold Runtime.removeTab at h
  split at h
  · cases h
    exact .inl ⟨_, rfl, rfl⟩
  rename_i known
  split at h
  · cases h
    exact .inl ⟨_, rfl, rfl⟩
  rename_i several
  split at h
  · cases h
    exact .inl ⟨_, rfl, rfl⟩
  rename_i other
  simp only [Bool.or_eq_true, Bool.not_eq_true', decide_eq_true_eq, not_or, Bool.not_eq_false] at other
  have there : r.tabs.has id = true := by simpa using known
  split at h
  · rename_i active
    rw [activateTab_known other.1] at h
    cases h
    exact .inr ⟨rfl, there, several, other.1, other.2, by rw [if_pos active]⟩
  · rename_i background
    split at h
    · cases h
      exact .inl ⟨_, rfl, rfl⟩
    · cases h
      exact .inr ⟨rfl, there, several, other.1, other.2, by rw [if_neg background]⟩

/-- **One operation** of the loop is refused, or has its effect. -/
theorem dispatch_spec {command : Bytes} (request : Bytes) {rest : List Bytes}
    (h : r.dispatch parseUri o command id rest = (r', result)) :
    SameLoop r r' ∧ ((∃ e, result = .error e ∧ Unchanged r r') ∨
      result = .ok () ∧ Effect parseUri r r' request (command :: request :: id :: rest)) := by
  have refused : ∀ {e}, (r, Except.error e) = (r', result) → SameLoop r r' ∧
      ((∃ e, result = .error e ∧ Unchanged r r') ∨
        result = .ok () ∧ Effect parseUri r r' request (command :: request :: id :: rest)) := by
    rintro e ⟨⟩
    exact ⟨.refl r, .inl ⟨_, rfl, .refl r⟩⟩
  unfold Runtime.dispatch at h
  split at h
  · split at h
    · rename_i named
      subst named
      by_cases known : r.tabs.has id = true
      · rw [activateTab_known known] at h
        cases h
        exact ⟨⟨rfl, rfl, rfl⟩, .inr ⟨rfl, .activate known rfl rfl ⟨rfl, rfl, rfl⟩⟩⟩
      · rw [activateTab_unknown known] at h
        exact refused h
    · exact refused h
  · rename_i argument
    split at h
    · rename_i named
      subst named
      rcases removeTab_spec h with ⟨e, rfl, rfl⟩ | ⟨rfl, known, several, there, other, rfl⟩
      · exact ⟨.refl r', .inl ⟨e, rfl, .refl r'⟩⟩
      · exact ⟨⟨rfl, rfl, rfl⟩, .inr ⟨rfl, .delete known several there other rfl rfl ⟨rfl, rfl, rfl⟩⟩⟩
    split at h
    · rename_i either
      split at h
      · exact refused h
      · rename_i url decoded
        split at h
        · exact refused h
        split at h
        · rename_i named
          subst named
          obtain ⟨loop, e | ⟨rfl, uuid, valid, room, absent, tabs, active⟩⟩ := createTab_spec h
          · exact ⟨loop, .inl e⟩
          · exact ⟨loop, .inr ⟨rfl, .create decoded uuid valid room absent tabs active loop⟩⟩
        · rename_i created
          have named := either.resolve_left created
          subst named
          rcases navigateTab_spec h with ⟨e, rfl, rfl⟩ | ⟨tab, rfl, found, valid, rfl⟩
          · exact ⟨.refl r', .inl ⟨e, rfl, .refl r'⟩⟩
          · exact ⟨⟨rfl, rfl, rfl⟩,
              .inr ⟨rfl, .navigate decoded valid found rfl rfl ⟨rfl, rfl, rfl⟩⟩⟩
    · exact refused h
  · exact refused h

/-! ## The lines -/

theorem effect_wf {request : Bytes} {fields : List Bytes} (wf : RuntimeWf parseUri r)
    (h : Effect parseUri r r' request fields) : RuntimeWf parseUri r' := by
  cases h with
  | shutdown same =>
    refine ⟨?_, ?_, ?_, ?_⟩
    · rw [same.tabs]
      exact wf.positive
    · rw [same.tabs]
      exact wf.bounded
    · rw [same.tabs, same.active]
      exact wf.active
    · rw [same.tabs]
      exact wf.tabs
  | @create id argument url _ uuid valid room absent tabs active _ =>
    have size : r'.tabs.size = r.tabs.size + 1 := by rw [tabs, JsMap.size_set_new absent]
    refine ⟨by omega, by omega, ?_, ?_⟩
    · rw [tabs, active, JsMap.has, JsMap.get_set_self]
      rfl
    · intro other tab found
      rw [tabs, JsMap.get_set] at found
      split at found
      · rename_i same
        subst same
        cases found
        exact ⟨lowerUuid_of_valid uuid, rfl, valid⟩
      · exact wf.tabs other tab found
  | activate known tabs active _ =>
    refine ⟨?_, ?_, ?_, ?_⟩
    · rw [tabs]
      exact wf.positive
    · rw [tabs]
      exact wf.bounded
    · rw [tabs, active]
      exact known
    · rw [tabs]
      exact wf.tabs
  | @navigate id argument url tab _ valid found tabs active _ =>
    have size : r'.tabs.size = r.tabs.size := by rw [tabs, JsMap.size_set found]
    refine ⟨size ▸ wf.positive, size ▸ wf.bounded, ?_, ?_⟩
    · obtain ⟨current, there⟩ := JsMap.has_iff.mp wf.active
      rw [tabs, active, JsMap.has_iff]
      by_cases same : id = r.activeTabId
      · exact ⟨_, by rw [same, JsMap.get_set_self]⟩
      · exact ⟨current, by rw [JsMap.get_set_ne same, there]⟩
    · intro other tab' found'
      rw [tabs, JsMap.get_set] at found'
      split at found'
      · rename_i same
        subst same
        cases found'
        exact ⟨(wf.tabs id tab found).1, (wf.tabs id tab found).2.1, valid⟩
      · exact wf.tabs other tab' found'
  | @delete id fallback known several there other tabs active _ =>
    have has : ∀ key, r.tabs.has key = true → key ≠ id → r'.tabs.has key = true := by
      intro key present apart
      rw [tabs, JsMap.has_delete, present, decide_eq_false (Ne.symm apart)]
      rfl
    obtain ⟨tab, found⟩ := JsMap.has_iff.mp (has fallback there other)
    refine ⟨JsMap.size_pos found, ?_, ?_, ?_⟩
    · rw [tabs]
      exact (JsMap.size_delete_le ..).trans wf.bounded
    · rw [active]
      split
      · exact has fallback there other
      · rename_i background
        exact has _ wf.active background
    · intro other' tab' found'
      rw [tabs, JsMap.get_delete] at found'
      split at found'
      · cases found'
      · exact wf.tabs other' tab' found'

theorem answerable_request {fields : List Bytes} {request : Bytes} (h : Answerable fields request) :
    fields[1]? = some request := by
  rcases h.2 with shutdown | ⟨command, id, rest, rfl⟩
  · rw [shutdown]
    rfl
  · rfl

theorem ok_ne_err (request rest : Bytes) : utf8 "OK " ++ request ≠ utf8 "ERR " ++ rest := by
  intro same
  have ok : utf8 "OK " = [79, 75, 32] := by decide
  have err : utf8 "ERR " = [69, 82, 82, 32] := by decide
  rw [ok, err] at same
  cases same

theorem handled_ok {line request : Bytes} (answerable : Answerable (Runtime.fields line) request)
    (effect : Effect parseUri r r' request (Runtime.fields line)) :
    Handled parseUri line r (r', [utf8 "OK " ++ request]) where
  answered := fun request' answerable' => by
    cases (answerable_request answerable).symm.trans (answerable_request answerable')
    exact .inl rfl
  silent := fun none => absurd answerable (none request)
  refused := fun rest same => absurd (List.singleton_inj.mp same) (ok_ne_err request rest)
  done := fun request' same => by
    cases List.append_cancel_left (List.singleton_inj.mp same)
    exact effect

theorem handled_err {line request : Bytes} (code : String)
    (answerable : Answerable (Runtime.fields line) request) (unchanged : Unchanged r r') :
    Handled parseUri line r (r', [utf8 "ERR " ++ request ++ utf8 (" " ++ safeErrorCode code)]) where
  answered := fun request' answerable' => by
    cases (answerable_request answerable).symm.trans (answerable_request answerable')
    exact .inr ⟨code, rfl⟩
  silent := fun none => absurd answerable (none request)
  refused := fun _ _ => unchanged
  done := fun request' same => by
    have same := List.singleton_inj.mp same
    rw [List.append_assoc] at same
    exact absurd same.symm (ok_ne_err _ _)

theorem handled_stop {line : Bytes} (silent : ∀ request, ¬ Answerable (Runtime.fields line) request) :
    Handled parseUri line r (r.stop, []) where
  answered := fun request answerable => absurd answerable (silent request)
  silent := fun _ => ⟨rfl, rfl, rfl⟩
  refused := fun _ same => nomatch same
  done := fun _ same => nomatch same

theorem stop_wf (wf : RuntimeWf parseUri r) : RuntimeWf parseUri r.stop := ⟨wf.1, wf.2, wf.3, wf.4⟩

theorem unchanged_wf (wf : RuntimeWf parseUri r) (h : Unchanged r r') : RuntimeWf parseUri r' :=
  ⟨h.tabs ▸ wf.positive, h.tabs ▸ wf.bounded, by rw [h.tabs, h.active]; exact wf.active,
    h.tabs ▸ wf.tabs⟩

theorem writeControlLine_written (writes : o.write = true) (line : Bytes) (r : Runtime) :
    r.writeControlLine o line = (r, [line]) := by
  rw [Runtime.writeControlLine, if_pos writes]

/-- **One line** that the runtime is handed. -/
theorem handleCommand_spec (wf : RuntimeWf parseUri r) (writes : o.write = true) (line : Bytes) :
    RuntimeWf parseUri (r.handleCommand parseUri o line).1 ∧
      Handled parseUri line r (r.handleCommand parseUri o line) := by
  unfold Runtime.handleCommand
  split
  · rename_i command request split
    split
    · rename_i shutdown
      simp only [Bool.and_eq_true, decide_eq_true_eq] at shutdown
      obtain ⟨rfl, valid⟩ := shutdown
      rw [Runtime.replyOk, writeControlLine_written writes]
      have answerable : Answerable (Runtime.fields line) request := ⟨valid, .inl split⟩
      have effect : Effect parseUri r { r with quit := true } request (Runtime.fields line) := by
        rw [split]
        exact .shutdown ⟨rfl, rfl⟩ rfl
      exact ⟨effect_wf wf effect, handled_ok answerable effect⟩
    · rename_i other
      refine ⟨stop_wf wf, handled_stop ?_⟩
      rintro request' ⟨valid, shutdown | ⟨_, _, _, long⟩⟩
      · rw [split] at shutdown
        cases shutdown
        simp [valid] at other
      · rw [split] at long
        cases long
  · rename_i command request id rest split
    split
    · rename_i invalid
      refine ⟨stop_wf wf, handled_stop ?_⟩
      rintro request' ⟨valid, shutdown | ⟨_, _, _, long⟩⟩
      · rw [split] at shutdown
        cases shutdown
      · rw [split] at long
        cases long
        simp [valid] at invalid
    · rename_i valid
      have answerable : Answerable (Runtime.fields line) request :=
        ⟨by simpa using valid, .inr ⟨command, id, rest, split⟩⟩
      generalize dispatched : r.dispatch parseUri o command id rest = answer
      obtain ⟨done, result⟩ := answer
      obtain ⟨-, ⟨e, rfl, unchanged⟩ | ⟨rfl, effect⟩⟩ := dispatch_spec request dispatched
      · simp only [Runtime.replyError, writeControlLine_written writes]
        exact ⟨unchanged_wf wf unchanged, handled_err _ answerable unchanged⟩
      · rw [← split] at effect
        simp only [Runtime.replyOk, writeControlLine_written writes]
        exact ⟨effect_wf wf effect, handled_ok answerable effect⟩
  · rename_i few many
    refine ⟨stop_wf wf, handled_stop ?_⟩
    rintro request ⟨_, shutdown | ⟨command, id, rest, long⟩⟩
    · exact few _ _ shutdown
    · exact many _ _ _ _ long

/-- The first tab. -/
theorem initialize_spec {setUp play : Except String Unit} {id url : Bytes}
    (h : Runtime.initializeRuntime parseUri o setUp play id url = .ok r) :
    validUuid id = true ∧ validUrl parseUri url = true ∧ r.tabs = JsMap.empty.set id ⟨id, url⟩ ∧
      r.activeTabId = id := by
  unfold Runtime.initializeRuntime at h
  cases setUp with
  | error e => cases h
  | ok =>
    generalize created : Runtime.createTab parseUri o id url true ⟨.empty, [], 1, false, 0, false⟩ = made at h
    obtain ⟨r₁, result⟩ := made
    obtain ⟨-, ⟨e, rfl, -⟩ | ⟨rfl, uuid, valid, -, -, tabs, active⟩⟩ := createTab_spec created
    · cases h
    · cases play with
      | error e => cases h
      | ok =>
        cases h
        exact ⟨uuid, valid, tabs, active⟩

theorem initialize_wf {setUp play : Except String Unit} {id url : Bytes}
    (h : Runtime.initializeRuntime parseUri o setUp play id url = .ok r) : RuntimeWf parseUri r := by
  obtain ⟨uuid, valid, tabs, active⟩ := initialize_spec h
  refine ⟨?_, ?_, ?_, ?_⟩
  · rw [tabs]
    exact Nat.le_refl _
  · rw [tabs]
    exact Nat.le_add_left 1 3
  · rw [tabs, active, JsMap.has, JsMap.get_set_self]
    rfl
  · intro other tab found
    rw [tabs, JsMap.get_set] at found
    split at found
    · rename_i same
      subst same
      cases found
      exact ⟨lowerUuid_of_valid uuid, rfl, valid⟩
    · cases found

end

/-! ## Every run -/

inductive RuntimeEvent
  /-- A line is handed to `HandleCommand`, with what the library answers meanwhile. -/
  | line (line : Bytes) (o : Outcomes)
  /-- `AttachAudioPad` takes the next element id. -/
  | padAdded

def runtimeStep (parseUri : Bytes → Option GUri) (r : Runtime) : RuntimeEvent → Option Runtime
  | .line line o => some (r.handleCommand parseUri o line).1
  | .padAdded => some { r with nextElementId := r.nextElementId + 1 }

def runtime (parseUri : Bytes → Option GUri) (r : Runtime) : Machine Runtime RuntimeEvent :=
  ⟨r, runtimeStep parseUri⟩

/-- The control descriptor takes every reply. -/
def Writes (_ : Runtime) : RuntimeEvent → Prop
  | .line _ o => o.write = true
  | .padAdded => True

instance (r : Runtime) (e : RuntimeEvent) : Decidable (Writes r e) := by
  unfold Writes
  split <;> infer_instance

/-- **The native tabs.** After `Initialize`, whatever lines the runtime has been
handed and whatever the library answered, the tabs are in order and the next line is
handled as it should be. -/
theorem native_tabs (parseUri : Bytes → Option GUri) {o₀ : Outcomes} {setUp play : Except String Unit}
    {id url : Bytes} {r₀ r : Runtime}
    (initialized : Runtime.initializeRuntime parseUri o₀ setUp play id url = .ok r₀)
    (reached : (runtime parseUri r₀).Reachable Writes r) :
    RuntimeWf parseUri r ∧ ∀ line o, o.write = true →
      Handled parseUri line r (r.handleCommand parseUri o line) := by
  have wf : RuntimeWf parseUri r := by
    refine reached.invariant (initialize_wf initialized) fun _ e _ _ wf writes h => ?_
    cases e with
    | line line o =>
      cases h
      exact (handleCommand_spec wf writes line).1
    | padAdded =>
      cases h
      exact ⟨wf.1, wf.2, wf.3, wf.4⟩
  exact ⟨wf, fun line o writes => (handleCommand_spec wf writes line).2⟩

/-! ## Two tabs -/

/-- The library does all it is asked for. -/
def willing : Outcomes where
  make := fun _ _ => true
  add := fun _ => true
  linkSilence := true
  linkOutput := true
  videoPad := true
  audioPad := true
  videoSelectorPad := true
  audioSelectorPad := true
  linkVideo := true
  linkAudio := true
  sync := fun _ => true
  write := true

def firstTab : Bytes := utf8 "00000000-0000-4000-8000-000000000001"

def secondTab : Bytes := utf8 "00000000-0000-4000-8000-000000000002"

def homeRuntime : Runtime where
  tabs := JsMap.empty.set firstTab ⟨firstTab, kInternalHome⟩
  activeTabId := firstTab
  nextElementId := 2
  running := true
  exitCode := 0
  quit := false

def createSecond : Bytes := utf8 "CREATE 1 " ++ secondTab ++ utf8 (" " ++ hex kInternalHome)

/-- A second tab is made, and its id is refused the next time. -/
theorem native_tabs_second : ∃ r,
    (runtime (fun _ => none) homeRuntime).Reachable Writes r ∧ RuntimeWf (fun _ => none) r ∧
    r.activeTabId = secondTab ∧
    Handled (fun _ => none) createSecond r (r.handleCommand (fun _ => none) willing createSecond) := by
  have initialized : Runtime.initializeRuntime (fun _ => none) willing (.ok ()) (.ok ()) firstTab
      kInternalHome = .ok homeRuntime := by decide
  have created : (homeRuntime.handleCommand (fun _ => none) willing createSecond).1.activeTabId =
      secondTab := by decide
  have writes : Writes homeRuntime (.line createSecond willing) := rfl
  have reached : (runtime (fun _ => none) homeRuntime).Reachable Writes
      (homeRuntime.handleCommand (fun _ => none) willing createSecond).1 :=
    Machine.Reaches.refl.step writes rfl
  have holds := native_tabs (fun _ => none) initialized reached
  exact ⟨_, reached, holds.1, created, holds.2 createSecond willing rfl⟩

end Fireball.Tabs
