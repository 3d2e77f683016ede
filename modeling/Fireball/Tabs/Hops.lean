import Fireball.Tabs.Driver
import Fireball.Tabs.Runtime
import Fireball.Tabs.Requests

/-!
# Errors through both hops

* `handle_call`: what the inner hop answers to a call;
* `survives_fits`, `perform_unfit`: what the outer hop makes of the answer;
* `errors_survive`: the errors of a call reach its caller exactly when the call fits.
-/

namespace Fireball.Tabs

open Foundation

/-- What the driver's promise is rejected with. -/
def driverErrors : List TabControlError := [
  runtimeUnavailable "tab runtime is unavailable",
  runtimeUnavailable "tab runtime command timed out",
  runtimeUnavailable "tab runtime command failed",
  ⟨.tabRuntimeFailure, "tab runtime rejected the operation"⟩,
  tabUrlInvalid]

/-- What a body of the controller throws itself. -/
def controllerErrors : List TabControlError :=
  [tabNotFound, tabLimitReached, tabMinimumReached, tabUrlInvalid]

/-- Code and status that the caller of the orchestrator is due for an error. -/
def TabErrorCode.due : TabErrorCode → Session.ErrorCode × Nat
  | .tabNotFound => (.tabNotFound, 404)
  | .tabLimitReached => (.tabLimitReached, 409)
  | .tabMinimumReached => (.tabMinimumReached, 409)
  | .tabUrlInvalid => (.tabUrlInvalid, 400)
  | _ => (.tabRuntimeUnavailable, 503)

/-- A state of the controller: calls one after another from the first tab on. Every id is
a v4 UUID, and none is used twice. -/
def ReachedState (parseUrl : String → Option Url) (maximumTabs : Nat) (c : TabController) : Prop :=
  ∃ id url createdAt c₀ env ops, TabController.new maximumTabs id url createdAt = .ok c₀ ∧
    validUuid (utf8 id) = true ∧
    (∀ n, n < ops.length → validUuid (utf8 (env n).uuid) = true ∧ (env n).uuid ∉ usedIds env id n) ∧
    c = (sequential parseUrl env c₀ ops).1

/-- What the inner hop refuses a call with, before any operation. -/
def refusals : List (String × String) :=
  [("VALIDATION_FAILED", "request validation failed"), ("TAB_ROUTE_NOT_FOUND", "tab route not found")]

/-- Code and message of the errors that tell something about the call. -/
def sentErrors : List (String × String) :=
  controllerErrors.map (fun e => (e.code.text, e.message)) ++ refusals

namespace TabCall

def tab : TabCall → Option String
  | .create _ => none
  | .activate id | .navigate id _ | .delete id => some id

/-- The fields of the body. -/
def fields : TabCall → List (String × Json)
  | .create (some url) | .navigate _ url => [("url", .string url)]
  | _ => []

def bytes (call : TabCall) : Bytes := utf8 (call.body.getD "")

/-- The tab id is one the inner route knows, and the body is within its limit. -/
structure Fits (call : TabCall) : Prop where
  tab : ∀ id, call.tab = some id → isTabId id.toList = true
  body : call.bytes.length ≤ maximumBodyBytes

end TabCall

/-- What both hops count on: there is nothing to resolve or to escape in the path, and
`JSON.parse` gives back what `JSON.stringify` was given. -/
structure Understands (js : Builtins) (call : TabCall) : Prop where
  path : ∃ url, js.resolveUrl (tabsPath ++ call.suffix) = some url ∧
    url.pathname = tabsPath ++ call.suffix ∧ url.search = ""
  body : ∀ text, call.body = some text → js.parseJson (utf8 text) = some (.object call.fields)
  errors : ∀ code message,
    (code, message) ∈ sentErrors →
    js.parseJson (utf8 (errorText code message)) =
      some (.object [("error", .object [("code", .string code), ("message", .string message)])])

/-- If the operation rejects, so does the call, with the code and the status due. -/
def Survives (js : Builtins) (secret : String) (chunks : List Bytes) (x : Choice) (c : TabController)
    (call : TabCall) : Prop :=
  ∀ e, (c.execute js.parseUrl x call.operation).2 = .error e →
    ∃ error, call.perform js secret chunks x c = .error error ∧
      (error.code, error.statusCode) = e.code.due

section
variable {js : Builtins} {secret : String} {chunks : List Bytes} {x : Choice} {c : TabController}
  {call : TabCall}

/-! ## The body -/

theorem readChunks_eq {size : Nat} (within : size ≤ maximumBodyBytes) :
    readChunks size chunks =
      if size + chunks.flatten.length > maximumBodyBytes then none else some chunks.flatten := by
  induction chunks generalizing size with
  | nil => simp [readChunks, within]
  | cons chunk rest ih =>
    have total : size + (chunk :: rest).flatten.length = size + chunk.length + rest.flatten.length := by
      rw [List.flatten_cons, List.length_append]
      omega
    rw [readChunks, total]
    by_cases exceeds : size + chunk.length > maximumBodyBytes
    · rw [if_pos exceeds, if_pos (by omega)]
    · rw [if_neg exceeds, ih (by omega)]
      split <;> simp

theorem requireEmptyBody_iff {request : ControlRequest} :
    requireEmptyBody request = true ↔ request.chunks.flatten = [] := by
  simp [requireEmptyBody, List.flatten_eq_nil_iff]

/-! ## The route -/

theorem unreserved_of_tabId {ch : Char}
    (h : (ch.isDigit || ('a' ≤ ch && ch ≤ 'f') || ch = '-') = true) : isUriUnreserved ch = true := by
  simp only [Bool.or_eq_true, Bool.and_eq_true, decide_eq_true_eq] at h
  rcases h with (digit | ⟨low, high⟩) | rfl
  · simp [isUriUnreserved, digit]
  · have below : ch ≤ 'z' := Char.le_trans high (by decide)
    simp [isUriUnreserved, low, below]
  · decide

theorem encode_tabId {id : String} (h : isTabId id.toList = true) : encodeURIComponent id = id := by
  refine encode_unreserved fun ch mem => ?_
  rw [isTabId, Bool.and_eq_true] at h
  exact unreserved_of_tabId (List.all_eq_true.mp h.2 ch mem)

/-- The inner route takes the ids that it would take unencoded. -/
theorem isTabId_encode (id : String) :
    isTabId (encodeURIComponent id).toList = true ↔ isTabId id.toList = true := by
  constructor
  · intro h
    have digits := h
    rw [isTabId, Bool.and_eq_true] at digits
    have plain : ∀ ch ∈ id.toList, isUriUnreserved ch = true := by
      intro ch mem
      by_contra reserved
      exact absurd (List.all_eq_true.mp digits.2 '%' (percent_encode mem reserved)) (by decide)
    rwa [encode_unreserved plain] at h
  · intro h
    rwa [encode_tabId h]

/-- The parts of a path below `tabsPath`. -/
theorem split_path (id : String) (action : String) :
    (tabsPath ++ ("/" ++ encodeURIComponent id ++ action)).toList.splitOn '/' =
      "".toList :: "internal".toList :: "v1".toList :: "tabs".toList ::
        ((encodeURIComponent id).toList ++ action.toList).splitOn '/' := by
  have chars : (tabsPath ++ ("/" ++ encodeURIComponent id ++ action)).toList =
      "".toList ++ '/' :: ("internal".toList ++ '/' :: ("v1".toList ++ '/' :: ("tabs".toList ++ '/' ::
        ((encodeURIComponent id).toList ++ action.toList)))) := by
    simp [tabsPath]
  rw [chars, splitOn_sep (by decide), splitOn_sep (by decide), splitOn_sep (by decide),
    splitOn_sep (by decide)]

theorem tabRoute_tab (id : String) : tabRoute (tabsPath ++ ("/" ++ encodeURIComponent id)) =
    if isTabId id.toList = true then some (id, none) else none := by
  have split := split_path id ""
  have last : (encodeURIComponent id).toList.splitOn '/' = [(encodeURIComponent id).toList] :=
    splitOn_one (slash_encode id)
  rw [String.append_empty, show "".toList = [] from rfl, List.append_nil, last] at split
  rw [tabRoute, split]
  by_cases known : isTabId id.toList = true
  · simp [encode_tabId known, known]
  · simp [isTabId_encode, known]

/-- The last part of the path of an action. -/
def TabAction.text : TabAction → String
  | .active => "active"
  | .navigation => "navigation"

theorem tabRoute_action (id : String) (action : TabAction) :
    tabRoute (tabsPath ++ ("/" ++ encodeURIComponent id ++ ("/" ++ action.text))) =
      if isTabId id.toList = true then some (id, some action) else none := by
  have split := split_path id ("/" ++ action.text)
  have chars : ("/" ++ action.text).toList = '/' :: action.text.toList := by simp
  have last : action.text.toList.splitOn '/' = [action.text.toList] :=
    splitOn_one (by cases action <;> decide)
  rw [chars, splitOn_sep (slash_encode id), last] at split
  rw [tabRoute, split]
  by_cases known : isTabId id.toList = true
  · cases action <;> simp [encode_tabId known, known, TabAction.text]
  · simp [isTabId_encode, known]

/-! ## The answer of the inner hop -/

theorem readJsonBody_call {required optional : List String} {text : String}
    (understands : Understands js call) (delivered : chunks.flatten = call.bytes)
    (present : call.body = some text) (all : ∀ key ∈ required, (Json.field call.fields key).isSome = true)
    (only : ∀ key ∈ call.fields.map Prod.fst, key ∈ required ++ optional) :
    readJsonBody js required optional (call.request secret chunks) =
      if call.bytes.length > maximumBodyBytes then none else some call.fields := by
  have typed : (call.request secret chunks).contentType = some "application/json" := by
    simp [TabCall.request, present]
  have bytes : call.bytes = utf8 text := by
    rw [TabCall.bytes, present]
    rfl
  have read : readChunks 0 chunks =
      if call.bytes.length > maximumBodyBytes then none else some call.bytes := by
    rw [readChunks_eq (Nat.zero_le _), delivered, Nat.zero_add]
  have keys : (required.any (fun key => (Json.field call.fields key).isNone)
      || (call.fields.map Prod.fst).any fun key => key ∉ required ++ optional) = false := by
    simp only [Bool.or_eq_false_iff, List.any_eq_false, Option.isNone_iff_eq_none, decide_eq_true_eq,
      not_not]
    refine ⟨fun key mem none => ?_, only⟩
    have some := all key mem
    rw [none] at some
    cases some
  rw [readJsonBody, if_neg (not_not.mpr typed), show (call.request secret chunks).chunks = chunks from rfl,
    read]
  by_cases long : call.bytes.length > maximumBodyBytes
  · simp only [if_pos long]
  · have parsed : js.parseJson call.bytes = some (.object call.fields) := by
      rw [bytes]
      exact understands.body text present
    simp only [if_neg long, parsed, keys, Bool.false_eq_true, if_false]

theorem tabs_known : call.tab.all (fun id => isTabId id.toList) = true ↔
    ∀ id, call.tab = some id → isTabId id.toList = true := by
  cases call.tab <;> simp

/-- **The inner hop** looks at the route first and at the body next. -/
theorem handle_call (understands : Understands js call) (delivered : chunks.flatten = call.bytes) :
    handleTabRequest js secret x c (call.request secret chunks) =
      if call.tab.all (fun id => isTabId id.toList) = false then (c, routeNotFound)
      else if call.bytes.length > maximumBodyBytes then (c, validationFailed)
      else ((c.execute js.parseUrl x call.operation).1,
        respond call.expectedStatus (c.execute js.parseUrl x call.operation).2) := by
  obtain ⟨url, resolved, pathname, search⟩ := understands.path
  have empty : call.body = none →
      call.bytes = [] ∧ requireEmptyBody (call.request secret chunks) = true := by
    intro nothing
    have bytes : call.bytes = [] := by
      rw [TabCall.bytes, nothing]
      rfl
    exact ⟨bytes, requireEmptyBody_iff.mpr (delivered.trans bytes)⟩
  rw [handleTabRequest, if_neg (by simp [TabCall.request]),
    show (call.request secret chunks).url = tabsPath ++ call.suffix from rfl, resolved]
  simp only [search, pathname, ne_eq, not_true_eq_false, if_false]
  cases call with
  | create requested =>
    obtain ⟨text, present⟩ : ∃ text, (TabCall.create requested).body = some text := by
      cases requested <;> exact ⟨_, rfl⟩
    have body : readJsonBody js [] ["url"] (TabCall.request secret chunks (.create requested)) = _ :=
      readJsonBody_call understands delivered present (by simp) (by cases requested <;> simp [TabCall.fields])
    have argument : urlArgument (TabCall.fields (.create requested)) = requested.elim .undefined .text := by
      cases requested <;> rfl
    rw [show (TabCall.request secret chunks (.create requested)).method = .post from rfl,
      show TabCall.suffix (.create requested) = "" from rfl, String.append_empty]
    by_cases long : (TabCall.create requested).bytes.length > maximumBodyBytes
    · simp [TabCall.tab, body, long]
    · simp [TabCall.tab, body, long, argument, TabCall.expectedStatus, TabCall.operation]
  | activate id =>
    have route : tabRoute (tabsPath ++ (TabCall.activate id).suffix) = _ := tabRoute_action id .active
    obtain ⟨bytes, nothing⟩ := empty rfl
    rw [show (TabCall.request secret chunks (.activate id)).method = .put from rfl, bytes, nothing, route]
    by_cases known : isTabId id.toList = true
    · simp [TabCall.tab, known, TabCall.expectedStatus, TabCall.operation]
    · simp [TabCall.tab, known]
  | navigate id requested =>
    have body : readJsonBody js ["url"] [] (TabCall.request secret chunks (.navigate id requested)) = _ :=
      readJsonBody_call understands delivered rfl
        (by simp [TabCall.fields, Json.field, lookupEntry]) (by simp [TabCall.fields])
    have argument : urlArgument (TabCall.fields (.navigate id requested)) = .text requested := rfl
    have route : tabRoute (tabsPath ++ (TabCall.navigate id requested).suffix) = _ :=
      tabRoute_action id .navigation
    rw [show (TabCall.request secret chunks (.navigate id requested)).method = .put from rfl, body, route]
    by_cases known : isTabId id.toList = true
    · by_cases long : (TabCall.navigate id requested).bytes.length > maximumBodyBytes
      · simp [TabCall.tab, known, long]
      · simp [TabCall.tab, known, long, argument, TabCall.expectedStatus, TabCall.operation]
    · simp [TabCall.tab, known]
  | delete id =>
    have route : tabRoute (tabsPath ++ (TabCall.delete id).suffix) = _ := tabRoute_tab id
    obtain ⟨bytes, nothing⟩ := empty rfl
    rw [show (TabCall.request secret chunks (.delete id)).method = .delete from rfl, bytes, nothing, route]
    by_cases known : isTabId id.toList = true
    · simp [TabCall.tab, known, TabCall.expectedStatus, TabCall.operation]
    · simp [TabCall.tab, known]

/-- A call that fits has its operation carried out, and is sent the result. -/
theorem handle_fits (understands : Understands js call) (fits : call.Fits)
    (delivered : chunks.flatten = call.bytes) :
    handleTabRequest js secret x c (call.request secret chunks) =
      ((c.execute js.parseUrl x call.operation).1,
        respond call.expectedStatus (c.execute js.parseUrl x call.operation).2) := by
  rw [handle_call understands delivered, if_neg (by rw [tabs_known.mpr fits.tab]; decide),
    if_neg (Nat.not_lt.mpr fits.body)]

/-! ## Errors -/

theorem normalize_error {parseUrl : String → Option Url} {url : UrlValue} {e : TabControlError}
    (h : normalizeTabUrl parseUrl url = .error e) : e = tabUrlInvalid := by
  unfold normalizeTabUrl at h
  repeat' split at h
  all_goals first | (cases h; rfl) | cases h

theorem begin_error {parseUrl : String → Option Url} {uuid : String} {op : TabOperation}
    {e : TabControlError} (h : c.begin parseUrl uuid op = .settled (.error e)) :
    e ∈ controllerErrors := by
  have invalid : ∀ {url}, normalizeTabUrl parseUrl url = .error e → e ∈ controllerErrors := by
    intro url failed
    rw [normalize_error failed]
    decide
  cases op <;> simp only [TabController.begin] at h <;> repeat' split at h
  all_goals cases h
  all_goals first | decide | exact invalid ‹_›

theorem execute_error {parseUrl : String → Option Url} {op : TabOperation} {e : TabControlError}
    (rejects : ∀ e, x.outcome = .error e → e ∈ driverErrors)
    (h : (c.execute parseUrl x op).2 = .error e) : e ∈ controllerErrors ++ driverErrors := by
  unfold TabController.execute at h
  split at h
  · rename_i result begun
    subst h
    exact List.mem_append_left _ (begin_error begun)
  · split at h
    · rename_i failed
      cases h
      exact List.mem_append_right _ (rejects _ failed)
    · cases h

/-- No error that the orchestrator knows has the status 503. -/
theorem parse_unavailable (js : Builtins) (source : Bytes) :
    parseTabRuntimeError js 503 source = invalidTabRuntimeResponse := by
  have never : ∀ {code binding}, expectedError code = some binding → binding.statusCode ≠ 503 := by
    intro code binding h
    unfold expectedError at h
    repeat' split at h
    all_goals cases h
    all_goals decide
  unfold parseTabRuntimeError
  repeat' split
  all_goals first | rfl | skip
  rename_i known same
  exact absurd (not_not.mp same) (never known)

/-- The error in a response that `sendJson` has written. -/
theorem parse_known {code message : String} {status : Nat}
    (parsed : js.parseJson (utf8 (errorText code message)) =
      some (.object [("error", .object [("code", .string code), ("message", .string message)])])) :
    parseTabRuntimeError js status (utf8 (errorText code message)) =
      match expectedError code with
      | some binding => if binding.statusCode ≠ status then invalidTabRuntimeResponse else binding
      | none => invalidTabRuntimeResponse := by
  have outer : ",".intercalate ["error"] = "error" := by decide
  have inner : Json.sortedKeys [("code", .string code), ("message", .string message)] = "code,message" := by
    show ",".intercalate (["code", "message"].insertionSort (· ≤ ·)) = _
    decide
  rw [parseTabRuntimeError, parsed]
  cases known : expectedError code with
  | none => simp [outer, inner, Json.field, lookupEntry, known]
  | some binding => simp [outer, inner, Json.field, lookupEntry, known]

/-- What the orchestrator makes of an error that the inner hop has sent. -/
theorem parse_sent {e : TabControlError} (understands : Understands js call)
    (mem : e ∈ controllerErrors ++ driverErrors) :
    let error := parseTabRuntimeError js e.code.status (utf8 (errorText e.code.text e.message))
    (error.code, error.statusCode) = e.code.due := by
  by_cases unavailable : e.code.status = 503
  · rw [unavailable, parse_unavailable]
    cases known : e.code <;> rw [known] at unavailable <;> first | rfl | cases unavailable
  · have own : e ∈ controllerErrors := by
      rcases List.mem_append.mp mem with own | driver
      · exact own
      · have either : ∀ e ∈ driverErrors, e.code.status = 503 ∨ e ∈ controllerErrors := by decide
        exact (either e driver).resolve_left unavailable
    rw [parse_known (understands.errors _ _ (List.mem_append_left _ (List.mem_map_of_mem own)))]
    have all : ∀ e ∈ controllerErrors, ∃ binding, expectedError e.code.text = some binding ∧
        binding.statusCode = e.code.status ∧ (binding.code, binding.statusCode) = e.code.due := by
      decide
    obtain ⟨binding, known, status, due⟩ := all e own
    rw [known, ← due]
    simp [status]

/-- A document with a status that no call expects. -/
theorem result_sent {status : Nat} {text : String} (small : (utf8 text).length ≤ 64 * 1024)
    (refused : status ∉ [200, 201, 204]) :
    call.result js (sendJson status text) = .error (parseTabRuntimeError js status (utf8 text)) := by
  have expected : call.expectedStatus ∈ [200, 201, 204] := by
    cases call <;> simp [TabCall.expectedStatus]
  have other : status ≠ call.expectedStatus := fun same => refused (same ▸ expected)
  have control : controlResponse js call.expectedStatus (sendJson status text) =
      .error (parseTabRuntimeError js status (utf8 text)) := by
    rw [controlResponse, if_neg (show ¬ (sendJson status text).body.length > _ from Nat.not_lt.mpr small),
      if_pos (show (sendJson status text).status ≠ _ from other)]
    rfl
  rw [TabCall.result, control]
  rfl

/-- **The errors of a call that fits** reach its caller. -/
theorem survives_fits (understands : Understands js call) (fits : call.Fits)
    (delivered : chunks.flatten = call.bytes) (rejects : ∀ e, x.outcome = .error e → e ∈ driverErrors) :
    Survives js secret chunks x c call := by
  intro e failed
  have mem := execute_error rejects failed
  have sent : ∀ e ∈ controllerErrors ++ driverErrors,
      (utf8 (errorText e.code.text e.message)).length ≤ 64 * 1024 ∧ e.code.status ∉ [200, 201, 204] := by
    decide
  obtain ⟨small, refused⟩ := sent e mem
  refine ⟨_, ?_, parse_sent understands mem⟩
  rw [TabCall.perform, handle_fits understands fits delivered, failed]
  exact result_sent small refused

/-- Any other call fails in the inner hop, before its operation. -/
theorem perform_unfit (understands : Understands js call) (unfit : ¬ call.Fits)
    (delivered : chunks.flatten = call.bytes) :
    call.perform js secret chunks x c = .error invalidTabRuntimeResponse := by
  have unknown : ∀ {status code message},
      (code, message) ∈ refusals → status ∉ [200, 201, 204] →
      call.result js (sendJson status (errorText code message)) = .error invalidTabRuntimeResponse := by
    intro status code message mem refused
    have all : ∀ doc ∈ refusals,
        (utf8 (errorText doc.1 doc.2)).length ≤ 64 * 1024 ∧ expectedError doc.1 = none := by
      decide
    obtain ⟨small, none⟩ := all _ mem
    rw [result_sent small refused, parse_known (understands.errors _ _ (List.mem_append_right _ mem)), none]
  rw [TabCall.perform, handle_call understands delivered]
  split
  · exact unknown (by decide) (by decide)
  · rename_i known
    have long : call.bytes.length > maximumBodyBytes :=
      Nat.lt_of_not_le fun short => unfit ⟨tabs_known.mp (by simpa using known), short⟩
    rw [if_pos long]
    exact unknown (by decide) (by decide)

/-! ## A state that rejects the call -/

/-- The id of tab `k` of a controller, for a digit `k`. -/
def tabUuid (k : Nat) : String := "00000000-0000-4000-8000-00000000000" ++ toString k

/-- Tabs are created one after another. -/
def creations (n : Nat) : Choice := ⟨tabUuid (n + 1), .ok (), ""⟩

theorem tabUuid_valid : ∀ k < 8, validUuid (utf8 (tabUuid k)) = true := by decide

theorem tabUuid_fresh : ∀ n < 7, tabUuid (n + 1) ∉ usedIds creations (tabUuid 0) n := by decide

theorem execute_home {parseUrl : String → Option Url} (room : c.tabs.size < c.maximumTabs)
    (resolved : x.outcome = .ok ()) :
    (c.execute parseUrl x (.create .undefined)).1 =
      { c with tabs := c.tabs.set x.uuid ⟨x.uuid, publicHome, x.createdAt⟩, activeTabId := x.uuid } := by
  have home : normalizeTabUrl parseUrl (.text publicHome) = .ok internalHome := by
    rw [normalizeTabUrl, if_pos (.inl rfl)]
  have begun : c.begin parseUrl x.uuid (.create .undefined) =
      .awaits (.create x.uuid internalHome) (.create x.uuid internalHome) := by
    simp only [TabController.begin, if_neg (Nat.not_le.mpr room), if_true, home]
  simp only [TabController.execute, begun, resolved, TabController.resume, publicTabUrl, if_true]

theorem fill (parseUrl : String → Option Url) {maximumTabs k : Nat} (wf : ControllerWf maximumTabs [tabUuid 0] c)
    (one : c.tabs.size = 1) (below : k < maximumTabs) (most : maximumTabs ≤ 8) :
    let c' := (sequential parseUrl creations c (List.replicate k (.create .undefined))).1
    ControllerWf maximumTabs (usedIds creations (tabUuid 0) k) c' ∧ c'.tabs.size = k + 1 := by
  induction k with
  | zero => exact ⟨wf, one⟩
  | succ k ih =>
    obtain ⟨inner, size⟩ := ih (by omega)
    have fresh := tabUuid_fresh k (by omega)
    have room : (sequential parseUrl creations c (List.replicate k (.create .undefined))).1.tabs.size <
        (sequential parseUrl creations c (List.replicate k (.create .undefined))).1.maximumTabs := by
      rw [size, inner.maximum]
      omega
    have new := JsMap.get_eq_none.mpr fun known => fresh (inner.ordered.subset known)
    rw [List.replicate_succ', sequential_snoc, List.length_replicate, usedIds_succ]
    refine ⟨execute_wf _ inner fresh, ?_⟩
    rw [execute_home room rfl]
    exact (JsMap.size_set_new new).trans (congrArg (· + 1) size)

theorem reached_new (parseUrl : String → Option Url) {maximumTabs : Nat} {id : String}
    (range : 1 ≤ maximumTabs ∧ maximumTabs ≤ 8) (valid : validUuid (utf8 id) = true) :
    ∃ c, ReachedState parseUrl maximumTabs c ∧ c.tabs.keys = [id] := by
  have made : TabController.new maximumTabs id internalHome "" = .ok
      ⟨maximumTabs, JsMap.empty.set id ⟨id, publicTabUrl internalHome, ""⟩, id⟩ := by
    rw [TabController.new, if_neg (by omega)]
  refine ⟨_, ⟨id, internalHome, "", _, creations, [], made, valid, fun n below => ?_, rfl⟩, ?_⟩
  · exact absurd below (Nat.not_lt_zero n)
  · exact JsMap.keys_set_new JsMap.get_empty

theorem reached_full (parseUrl : String → Option Url) {maximumTabs : Nat}
    (range : 1 ≤ maximumTabs ∧ maximumTabs ≤ 8) :
    ∃ c, ReachedState parseUrl maximumTabs c ∧ c.tabs.size ≥ c.maximumTabs := by
  have made : TabController.new maximumTabs (tabUuid 0) internalHome "" = .ok
      ⟨maximumTabs, JsMap.empty.set (tabUuid 0) ⟨tabUuid 0, publicTabUrl internalHome, ""⟩, tabUuid 0⟩ := by
    rw [TabController.new, if_neg (by omega)]
  obtain ⟨wf, size⟩ := fill parseUrl (k := maximumTabs - 1) (wf_new made)
    (JsMap.size_set_new JsMap.get_empty) (by omega) range.2
  refine ⟨_, ⟨tabUuid 0, internalHome, "", _, creations,
    List.replicate (maximumTabs - 1) (.create .undefined), made, tabUuid_valid 0 (by decide), ?_, rfl⟩, ?_⟩
  · intro n below
    rw [List.length_replicate] at below
    exact ⟨tabUuid_valid (n + 1) (by omega), tabUuid_fresh n (by omega)⟩
  · rw [size, wf.maximum]
    omega

/-- Every call is one that some state rejects. -/
theorem rejected_somewhere (parseUrl : String → Option Url) {maximumTabs : Nat}
    (range : 1 ≤ maximumTabs ∧ maximumTabs ≤ 8) (call : TabCall) :
    ∃ c e, ReachedState parseUrl maximumTabs c ∧ e ∈ controllerErrors ∧
      ∀ x, (c.execute parseUrl x call.operation).2 = .error e := by
  have other : ∀ id, ∃ k < 2, tabUuid k ≠ id := by
    intro id
    by_cases first : tabUuid 0 = id
    · exact ⟨1, by decide, fun second => absurd (first.trans second.symm) (by decide)⟩
    · exact ⟨0, by decide, first⟩
  have missing : ∀ id, ∃ c, ReachedState parseUrl maximumTabs c ∧ c.tabs.get id = none := by
    intro id
    obtain ⟨k, small, different⟩ := other id
    obtain ⟨c, reached, keys⟩ := reached_new parseUrl range (tabUuid_valid k (by omega))
    refine ⟨c, reached, JsMap.get_eq_none.mpr ?_⟩
    rw [keys]
    exact fun same => different (List.mem_singleton.mp same).symm
  cases call with
  | create url =>
    obtain ⟨c, reached, full⟩ := reached_full parseUrl range
    refine ⟨c, tabLimitReached, reached, by decide, fun x => ?_⟩
    simp only [TabCall.operation, TabController.execute, TabController.begin, if_pos full]
  | activate id =>
    obtain ⟨c, reached, absent⟩ := missing id
    refine ⟨c, tabNotFound, reached, by decide, fun x => ?_⟩
    simp only [TabCall.operation, TabController.execute, TabController.begin, absent]
  | navigate id url =>
    obtain ⟨c, reached, absent⟩ := missing id
    refine ⟨c, tabNotFound, reached, by decide, fun x => ?_⟩
    simp only [TabCall.operation, TabController.execute, TabController.begin, absent]
  | delete id =>
    obtain ⟨c, reached, absent⟩ := missing id
    refine ⟨c, tabNotFound, reached, by decide, fun x => ?_⟩
    simp only [TabCall.operation, TabController.execute, TabController.begin, absent]

/-- **The errors of a call** reach its caller in every state, exactly when the call fits. -/
theorem errors_survive {maximumTabs : Nat} (secret : String) (range : 1 ≤ maximumTabs ∧ maximumTabs ≤ 8)
    (understands : Understands js call) :
    (∀ c x chunks, ReachedState js.parseUrl maximumTabs c → (∀ e, x.outcome = .error e → e ∈ driverErrors) →
      chunks.flatten = call.bytes → Survives js secret chunks x c call) ↔ call.Fits := by
  constructor
  · intro survive
    by_contra unfit
    obtain ⟨c, e, reached, own, rejected⟩ := rejected_somewhere js.parseUrl range call
    have delivered : [call.bytes].flatten = call.bytes := List.append_nil _
    obtain ⟨error, failed, due⟩ := survive c (creations 0) [call.bytes] reached (by rintro _ ⟨⟩) delivered e (rejected _)
    rw [perform_unfit understands unfit delivered] at failed
    cases failed
    have known : ∀ e ∈ controllerErrors, e.code.due.2 ≠ 503 := by decide
    exact known e own (congrArg Prod.snd due).symm
  · exact fun fits c x chunks _ rejects delivered => survives_fits understands fits delivered rejects

end

/-- `format: "uuid"`, in either case. -/
def isUuidFormat (id : String) : Bool :=
  id.length = 36 && id.toList.zipIdx.all fun (c, i) =>
    if i ∈ [8, 13, 18, 23] then c = '-'
    else c.isDigit || ('a' ≤ c && c ≤ 'f') || ('A' ≤ c && c ≤ 'F')

/-- What the schemas of the public API let through. -/
def TabCall.admitted (call : TabCall) : Bool :=
  call.tab.all isUuidFormat && match call with
    | .create (some url) | .navigate _ url => 1 ≤ url.length && url.length ≤ 4096
    | _ => true

/-- The language on the texts of one call, whose URL, if any, is `https://example.test/`. -/
def sampleBuiltins (call : TabCall) : Builtins where
  parseJson source :=
    if call.body = some (decodeUtf8 source) then some (.object call.fields)
    else (sentErrors.find? fun doc => errorText doc.1 doc.2 = decodeUtf8 source).map fun doc =>
      .object [("error", .object [("code", .string doc.1), ("message", .string doc.2)])]
  parseUrl value := some ⟨value, "https:", "", "", "example.test", "/", "", ""⟩
  resolveUrl value := some
    ⟨"http://fireball.internal" ++ value, "http:", "", "", "fireball.internal", value, "", ""⟩
  isCanonicalTimestamp _ := true

theorem understands_sample {call : TabCall}
    (apart : ∀ doc ∈ sentErrors, call.body ≠ some (errorText doc.1 doc.2)) :
    Understands (sampleBuiltins call) call where
  path := ⟨_, rfl, rfl, rfl⟩
  body text present := by
    simp only [sampleBuiltins, decodeUtf8_utf8, present, if_true]
  errors code message mem := by
    have found : ∀ doc ∈ sentErrors,
        sentErrors.find? (fun other => errorText other.1 other.2 = errorText doc.1 doc.2) = some doc := by
      decide
    simp only [sampleBuiltins, decodeUtf8_utf8, if_neg (apart _ mem), found _ mem, Option.map_some]

theorem errors_survive_navigate :
    let call := TabCall.navigate (tabUuid 0) "https://example.test/"
    ∀ c x chunks, ReachedState (sampleBuiltins call).parseUrl 4 c →
      (∀ e, x.outcome = .error e → e ∈ driverErrors) → chunks.flatten = call.bytes →
      Survives (sampleBuiltins call) "secret" chunks x c call := by
  refine (errors_survive "secret" (by decide) (understands_sample (by decide))).mpr ⟨?_, by decide⟩
  rintro _ ⟨⟩
  decide +kernel

/-- The inner route takes no id in upper case. -/
theorem upper_case_lost :
    let call := TabCall.activate "AAAAAAAA-AAAA-4AAA-8AAA-AAAAAAAAAAAA"
    let js := sampleBuiltins call
    call.admitted = true ∧ Understands js call ∧
      ∃ c, ReachedState js.parseUrl 4 c ∧
        (c.execute js.parseUrl (creations 0) call.operation).2 = .error tabNotFound ∧
        call.perform js "secret" [] (creations 0) c = .error invalidTabRuntimeResponse ∧
        ¬ Survives js "secret" [] (creations 0) c call := by
  intro call js
  have understands : Understands js call := understands_sample (by decide +kernel)
  have unfit : ¬ call.Fits := fun fits => absurd (fits.tab _ rfl) (by decide +kernel)
  have range : 1 ≤ 4 ∧ 4 ≤ 8 := by decide
  obtain ⟨c, reached, keys⟩ := reached_new js.parseUrl range (tabUuid_valid 0 (by decide))
  have absent : c.tabs.get "AAAAAAAA-AAAA-4AAA-8AAA-AAAAAAAAAAAA" = none := by
    rw [JsMap.get_eq_none, keys]
    decide +kernel
  have rejected : (c.execute js.parseUrl (creations 0) call.operation).2 = .error tabNotFound := by
    simp only [call, TabCall.operation, TabController.execute, TabController.begin, absent]
  have failed : call.perform js "secret" [] (creations 0) c = .error invalidTabRuntimeResponse :=
    perform_unfit understands unfit rfl
  refine ⟨by decide +kernel, understands, c, reached, rejected, failed, fun survives => ?_⟩
  obtain ⟨error, same, due⟩ := survives _ rejected
  rw [failed] at same
  cases same
  exact absurd due (by decide)

/-- A URL of `n` characters that count once for the schema, and twice for the limit of the body. -/
def wideCall (n : Nat) : TabCall := .create (some (String.ofList (List.replicate n 'é')))

theorem wide_body (n : Nat) : (wideCall n).bytes.length = 2 * n + 10 := by
  have escaped : (List.replicate n 'é').flatMap Json.escape = List.replicate n 'é' := by
    induction n with
    | zero => rfl
    | succ n ih =>
      rw [List.replicate_succ, List.flatMap_cons, ih]
      rfl
  have wide : (utf8 (String.ofList (List.replicate n 'é'))).length = 2 * n := by
    rw [utf8_ofList, List.length_flatMap, List.map_replicate, List.sum_replicate]
    show n * 2 = 2 * n
    exact Nat.mul_comm ..
  show (utf8 ("\x7b\"url\":" ++ Json.quote _ ++ "\x7d")).length = _
  rw [Json.quote, String.toList_ofList, escaped]
  simp only [utf8_append, List.length_append, wide]
  have quotes : (utf8 "\"").length = 1 ∧ (utf8 "\x7b\"url\":").length = 7 ∧ (utf8 "\x7d").length = 1 := by
    decide
  omega

theorem wide_fits {n : Nat} : (wideCall n).Fits ↔ n ≤ 4091 := by
  have limit : maximumBodyBytes = 8192 := rfl
  constructor
  · intro fits
    have short := fits.body
    rw [wide_body, limit] at short
    omega
  · intro small
    refine ⟨by rintro id ⟨⟩, ?_⟩
    rw [wide_body, limit]
    omega

theorem wide_understood {n : Nat} (long : 4091 < n) : Understands (sampleBuiltins (wideCall n)) (wideCall n) := by
  refine understands_sample fun doc mem same => ?_
  have short : ∀ doc ∈ sentErrors, (utf8 (errorText doc.1 doc.2)).length ≤ maximumBodyBytes := by decide
  have length := wide_body n
  have limit : maximumBodyBytes = 8192 := rfl
  have own := short doc mem
  rw [TabCall.bytes, same, Option.getD_some] at length
  omega

/-- The inner hop takes no such URL of more than 4091 characters, of which the schema takes 4096. -/
theorem wide_body_lost {n : Nat} (admitted : n ≤ 4096) (long : 4091 < n) :
    let call := wideCall n
    let js := sampleBuiltins call
    call.admitted = true ∧ ∃ c, ReachedState js.parseUrl 4 c ∧ ∀ x chunks, chunks.flatten = call.bytes →
      (c.execute js.parseUrl x call.operation).2 = .error tabLimitReached ∧
      call.perform js "secret" chunks x c = .error invalidTabRuntimeResponse := by
  intro call js
  have schema : call.admitted = true := by
    have length : (String.ofList (List.replicate n 'é')).length = n := by
      rw [String.length_ofList, List.length_replicate]
    simp only [call, wideCall, TabCall.admitted, TabCall.tab, Option.all_none, length, Bool.true_and,
      Bool.and_eq_true, decide_eq_true_eq]
    omega
  have understands : Understands js call := wide_understood long
  have unfit : ¬ call.Fits := fun fits => Nat.not_le.mpr long (wide_fits.mp fits)
  obtain ⟨c, reached, full⟩ := reached_full js.parseUrl (show 1 ≤ 4 ∧ 4 ≤ 8 by decide)
  refine ⟨schema, c, reached, fun x chunks delivered => ⟨?_, perform_unfit understands unfit delivered⟩⟩
  simp only [call, wideCall, TabCall.operation, TabController.execute, TabController.begin, if_pos full]

end Fireball.Tabs
