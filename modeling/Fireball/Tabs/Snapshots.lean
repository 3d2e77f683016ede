import Fireball.Tabs.Admission
import Fireball.Tabs.Hops
import Mathlib.Data.List.Dedup

/-!
# The snapshots of the tabs

What `handleTabRequest` sends of the tabs of a session, and what the methods of
`DockerEngineRuntime` make of it.

* `session_shown`: what every tab of a session is like;
* `handle_responds`: what is sent to a request;
* `snapshots_accepted`: the list and the tabs of successful operations are sent to who asks
  for them, accepted, and decoded to what the controller shows.
-/

namespace Fireball.Tabs

open Foundation
open Session (OrchestratorError)

/-! ## The start of a session -/

/-- `NativeTabDriver` encodes the URL before it sends anything. -/
def DriverCall.Encodes (parseUrl : String → Option Url) : DriverCall → Prop
  | .create _ url | .navigate _ url => ∃ text, encodeUrl parseUrl url = .ok text
  | _ => True

/-- The driver's promise is fulfilled only for a call that it could send. -/
def Driven (parseUrl : String → Option Url) (x : Choice) (c : TabController) (op : TabOperation) : Prop :=
  ∀ call rest, c.begin parseUrl x.uuid op = .awaits call rest → (∃ u, x.outcome = .ok u) → call.Encodes parseUrl

/-- The times that a `Date` can have, in milliseconds. -/
def IsTime (time : Int) : Prop := time.natAbs ≤ 8640000000000000

/-- `uuid()` gives a v4 UUID that has not been used, and the time is written by `toISOString`. -/
structure Supplied (toISOString : Int → String) (ids : List String) (x : Choice) : Prop where
  uuid : isTabUuid x.uuid.toList = true
  fresh : x.uuid ∉ ids
  stamp : ∃ time, IsTime time ∧ x.createdAt = toISOString time

/-- The states of the controller that `main` starts, with the ids used so far. -/
inductive SessionState (parseUrl : String → Option Url) (toISOString : Int → String) :
    List String → TabController → Prop
  | start {value id url text : String} {time : Int} {c : TabController} :
      validateStartUrl parseUrl value = .ok url → encodeUrl parseUrl url = .ok text →
      isTabUuid id.toList = true → IsTime time → TabController.new 4 id url (toISOString time) = .ok c →
      SessionState parseUrl toISOString [id] c
  | operation {ids : List String} {c : TabController} {x : Choice} {op : TabOperation} :
      SessionState parseUrl toISOString ids c → Supplied toISOString ids x → Driven parseUrl x c op →
      SessionState parseUrl toISOString (ids ++ [x.uuid]) (c.execute parseUrl x op).1

/-! ## The texts -/

def tabFields (tab : TabView) : List (String × Json) :=
  [("id", .string tab.id), ("url", .string tab.url), ("createdAt", .string tab.createdAt),
    ("active", .boolean tab.active)]

/-- `JSON.stringify({ tabs })`. -/
def listText (tabs : List TabView) : String :=
  "\x7b\"tabs\":[" ++ ",".intercalate (tabs.map tabText) ++ "]\x7d"

def listDocument (tabs : List TabView) : Json :=
  .object [("tabs", .array (tabs.map fun tab => .object (tabFields tab)))]

/-- `JSON.stringify({ tab })`. -/
def oneText (tab : TabView) : String := "\x7b\"tab\":" ++ tabText tab ++ "\x7d"

def oneDocument (tab : TabView) : Json := .object [("tab", .object (tabFields tab))]

/-- The view as the orchestrator has it. -/
def TabView.decoded (tab : TabView) : Session.TabView := ⟨tab.id, tab.url, tab.createdAt, tab.active⟩

/-- `DockerEngineRuntime.listTabs` after the response. -/
def listTabs (js : Builtins) (response : ControlResponse) : Except OrchestratorError (List Session.TabView) := do
  match ← controlResponse js 200 response with
  | some (.object body) => match Json.field body "tabs" with
    | some (.array values) =>
      let tabs ← values.mapM fun value => parseTabView js (some value)
      if tabs.length < 1 ∨ tabs.length > 4 ∨ (tabs.map (·.id)).dedup.length ≠ tabs.length
          ∨ (tabs.filter (·.active)).length ≠ 1 then .error invalidTabRuntimeResponse
      else return tabs
    | _ => .error invalidTabRuntimeResponse
  | _ => .error invalidTabRuntimeResponse

/-! ## What the language has to do -/

/-- What is documented of `Date`: `Date.parse` reads what `toISOString` has written, which
is 27 characters at most. -/
structure Stamps (js : Builtins) (toISOString : Int → String) : Prop where
  canonical : ∀ time, IsTime time → js.isCanonicalTimestamp (toISOString time) = true
  printable : ∀ time, IsTime time → ∀ c ∈ (toISOString time).toList, isPrintable c = true
  length : ∀ time, IsTime time → (toISOString time).toList.length ≤ 27

/-- `JSON.parse` gives back what `JSON.stringify` was given. -/
def Reads (js : Builtins) (text : String) (document : Json) : Prop :=
  js.parseJson (utf8 text) = some document

/-- A text of printable characters that is not too long. -/
structure Brief (limit : Nat) (s : String) : Prop where
  printable : ∀ c ∈ s.toList, isPrintable c = true
  length : s.toList.length ≤ limit

/-- What a tab of a session is like. -/
structure Shown (js : Builtins) (tab : Tab) : Prop where
  uuid : isTabUuid tab.id.toList = true
  url : isPublicTabUrl js tab.url = true
  urlBrief : Brief maximumUrlBytes tab.url
  stamp : js.isCanonicalTimestamp tab.createdAt = true
  stampBrief : Brief 27 tab.createdAt

/-! ## The lengths -/

theorem length_printable {l : List Char} (printable : ∀ c ∈ l, isPrintable c = true) :
    (l.flatMap String.utf8EncodeChar).length = l.length := by
  induction l with
  | nil => rfl
  | cons c rest ih =>
    obtain ⟨b, one, -⟩ := utf8_printable (printable c List.mem_cons_self)
    rw [List.flatMap_cons, List.length_append, one, ih fun c mem => printable c (List.mem_cons_of_mem _ mem)]
    simp [Nat.add_comm]

theorem escape_printable {c : Char} (printable : isPrintable c = true) :
    (Json.escape c = [c] ∨ Json.escape c = ['\\', c]) := by
  simp only [isPrintable, Bool.and_eq_true, decide_eq_true_eq] at printable
  unfold Json.escape
  split
  · exact .inr rfl
  · exact .inr rfl
  all_goals first | omega | skip
  rw [if_neg (by omega)]
  exact .inl rfl

theorem length_quote {limit : Nat} {s : String} (brief : Brief limit s) :
    (utf8 (Json.quote s)).length ≤ 2 * limit + 2 := by
  have escaped : ∀ l : List Char, (∀ c ∈ l, isPrintable c = true) →
      (∀ c ∈ l.flatMap Json.escape, isPrintable c = true) ∧ (l.flatMap Json.escape).length ≤ 2 * l.length := by
    intro l
    induction l with
    | nil => simp
    | cons c rest ih =>
      intro printable
      have own := printable c List.mem_cons_self
      obtain ⟨all, length⟩ := ih fun c mem => printable c (List.mem_cons_of_mem _ mem)
      have backslash : isPrintable '\\' = true := by decide
      rw [List.flatMap_cons]
      rcases escape_printable own with eq | eq
      · rw [eq]
        refine ⟨by simpa [own] using all, ?_⟩
        simp only [List.length_append, List.length_cons, List.length_nil]
        omega
      · rw [eq]
        refine ⟨by simpa [own, backslash] using all, ?_⟩
        simp only [List.length_append, List.length_cons, List.length_nil]
        omega
  obtain ⟨all, length⟩ := escaped s.toList brief.printable
  have quotes : (utf8 "\"").length = 1 := by decide
  have short := brief.length
  have body : (utf8 (String.ofList (s.toList.flatMap Json.escape))).length =
      (s.toList.flatMap Json.escape).length := by rw [utf8_ofList, length_printable all]
  rw [Json.quote, utf8_append, utf8_append, List.length_append, List.length_append, quotes, body]
  omega

theorem brief_uuid {id : String} (uuid : isTabUuid id.toList = true) : Brief 36 id := by
  rw [isTabUuid, Bool.and_eq_true, decide_eq_true_eq] at uuid
  refine ⟨fun c mem => ?_, Nat.le_of_eq uuid.1⟩
  obtain ⟨i, at_⟩ := List.mem_iff_getElem?.mp mem
  have own := List.all_eq_true.mp uuid.2 (c, i) (List.mem_zipIdx_iff_getElem?.mpr at_)
  dsimp only at own
  have digit : ∀ c : Char, (c.isDigit || ('a' ≤ c && c ≤ 'f')) = true → isPrintable c = true := by
    intro c digit
    simp only [Bool.or_eq_true, Bool.and_eq_true, decide_eq_true_eq, Char.isDigit] at digit
    simp only [isPrintable, Bool.and_eq_true, decide_eq_true_eq]
    rcases digit with ⟨low, high⟩ | ⟨low, high⟩
    · have low : 48 ≤ c.val.toNat := UInt32.le_iff_toNat_le.mp low
      have high : c.val.toNat ≤ 57 := UInt32.le_iff_toNat_le.mp high
      change 0x21 ≤ c.val.toNat ∧ c.val.toNat ≤ 0x7e
      omega
    · have low : 97 ≤ c.val.toNat := UInt32.le_iff_toNat_le.mp low
      have high : c.val.toNat ≤ 102 := UInt32.le_iff_toNat_le.mp high
      change 0x21 ≤ c.val.toNat ∧ c.val.toNat ≤ 0x7e
      omega
  split at own
  · cases of_decide_eq_true own
    decide
  · split at own
    · cases of_decide_eq_true own
      decide
    · split at own
      · exact List.all_eq_true.mp (by decide) c (of_decide_eq_true own)
      · exact digit c own

theorem length_tabText {js : Builtins} {tab : TabView} (shown : Shown js tab.toTab) :
    (utf8 (tabText tab)).length ≤ 9000 := by
  have id := length_quote (brief_uuid shown.uuid)
  have url := length_quote shown.urlBrief
  have stamp := length_quote shown.stampBrief
  have limit : maximumUrlBytes = 4096 := rfl
  have active : (utf8 (toString tab.active)).length ≤ 5 := by
    have both : ∀ active : Bool, (utf8 (toString active)).length ≤ 5 := by decide
    exact both tab.active
  have names : (utf8 "\x7b\"id\":").length = 6 ∧ (utf8 ",\"url\":").length = 7 ∧
      (utf8 ",\"createdAt\":").length = 13 ∧ (utf8 ",\"active\":").length = 10 ∧
      (utf8 "\x7d").length = 1 := by decide
  obtain ⟨idName, urlName, stampName, activeName, brace⟩ := names
  simp only [tabText, utf8_append, List.length_append, idName, urlName, stampName, activeName, brace]
  omega

theorem length_intercalate {limit : Nat} {parts : List String}
    (small : ∀ part ∈ parts, (utf8 part).length ≤ limit) :
    (utf8 (",".intercalate parts)).length ≤ parts.length * (limit + 1) := by
  induction parts with
  | nil =>
    rw [String.intercalate_nil, List.length_nil, Nat.zero_mul]
    decide
  | cons head rest ih =>
    have own := small head List.mem_cons_self
    have later := ih fun part mem => small part (List.mem_cons_of_mem _ mem)
    have comma : (utf8 ",").length = 1 := by decide
    cases rest with
    | nil =>
      rw [String.intercalate_singleton]
      simp only [List.length_cons, List.length_nil]
      omega
    | cons next rest =>
      rw [String.intercalate_cons_cons, utf8_append, utf8_append, List.length_append, List.length_append, comma]
      rw [List.length_cons, Nat.succ_mul]
      omega

/-! ## The tabs of a session -/

section
variable {js : Builtins} {toISOString : Int → String} {ids : List String} {c : TabController} {x : Choice}

/-- A URL that the driver can encode is shown as one that the orchestrator accepts. -/
theorem public_of_encoded (std : Serializes js.parseUrl) {url text : String}
    (serialized : url = internalHome ∨ ∃ value parsed, js.parseUrl value = some parsed ∧ url = parsed.href)
    (encoded : encodeUrl js.parseUrl url = .ok text) :
    isPublicTabUrl js (publicTabUrl url) = true ∧ Brief maximumUrlBytes (publicTabUrl url) := by
  by_cases home : url = internalHome
  · rw [publicTabUrl, if_pos home]
    exact ⟨by simp [isPublicTabUrl, publicHome], fun c mem => List.all_eq_true.mp (by decide) c mem, by decide⟩
  · rw [publicTabUrl, if_neg home]
    obtain ⟨value, parsed, found, rfl⟩ := serialized.resolve_left home
    have again := std.stable value parsed found
    have normal : ∃ r, normalizeTabUrl js.parseUrl (.text parsed.href) = .ok r := by
      rw [encodeUrl] at encoded
      cases normal : normalizeTabUrl js.parseUrl (.text parsed.href) with
      | error e =>
        rw [normal] at encoded
        cases encoded
      | ok r => exact ⟨r, rfl⟩
    obtain ⟨r, normal⟩ := normal
    rcases normalize_iff.mp normal with ⟨homes, -⟩ | ⟨-, short, url, same, permitted, -⟩
    · have shown := homes.resolve_right home
      rw [shown]
      exact ⟨by simp [isPublicTabUrl, publicHome], fun c mem => List.all_eq_true.mp (by decide) c mem, by decide⟩
    · cases again.symm.trans same
      have printable := std.printable value parsed found permitted
      have length : (utf8 parsed.href).length = parsed.href.toList.length := by
        have eq := length_printable printable
        rwa [← utf8_ofList, String.ofList_toList] at eq
      refine ⟨?_, printable, length ▸ short⟩
      simp [isPublicTabUrl, again, permitted.username, permitted.password, permitted.hostname,
        List.mem_pair.mp permitted.protocol]

theorem normalize_serialized {v : UrlValue} {url : String} (h : normalizeTabUrl js.parseUrl v = .ok url) :
    url = internalHome ∨ ∃ value parsed, js.parseUrl value = some parsed ∧ url = parsed.href := by
  cases v with
  | undefined =>
    cases h
    exact .inl rfl
  | other => cases h
  | text value =>
    rcases normalize_iff.mp h with ⟨-, rfl⟩ | ⟨-, -, parsed, found, -, rfl⟩
    · exact .inl rfl
    · exact .inr ⟨value, parsed, found, rfl⟩

theorem validate_serialized {value url : String} (h : validateStartUrl js.parseUrl value = .ok url) :
    ∃ parsed, js.parseUrl value = some parsed ∧ url = parsed.href := by
  obtain ⟨parsed, found, -, -, same, -⟩ := (validateStartUrl_ok h).parsed
  exact ⟨parsed, found, same.symm⟩

/-- The URL that a body goes on with. -/
def Awaiting.url : Awaiting → Option String
  | .create _ url => some url
  | .navigate _ _ url => some url
  | _ => none

/-- A body goes on with a URL that the policy has returned, and that it has called the driver with. -/
theorem begin_url {op : TabOperation} {call : DriverCall} {rest : Awaiting}
    (h : c.begin js.parseUrl x.uuid op = .awaits call rest) {url : String} (own : rest.url = some url) :
    (∃ v, normalizeTabUrl js.parseUrl v = .ok url) ∧
      (call.Encodes js.parseUrl → ∃ text, encodeUrl js.parseUrl url = .ok text) := by
  cases op <;> simp only [TabController.begin] at h <;> repeat' split at h
  all_goals cases h
  all_goals cases own
  all_goals
    rename_i normal
    exact ⟨⟨_, normal⟩, id⟩

/-- The tabs that the controller keeps. -/
def AllShown (js : Builtins) (c : TabController) : Prop := ∀ id tab, c.tabs.get id = some tab → Shown js tab

theorem resume_shown {call : DriverCall} {rest : Awaiting} (std : Stamps js toISOString)
    (supplied : Supplied toISOString ids x) (shown : AllShown js c) (ready : Ready c x.uuid call rest)
    (urls : ∀ url, rest.url = some url →
      isPublicTabUrl js (publicTabUrl url) = true ∧ Brief maximumUrlBytes (publicTabUrl url)) :
    AllShown js (c.resume x.createdAt rest).1 ∧
      ∀ view, (c.resume x.createdAt rest).2 = some view → Shown js view.toTab := by
  have written : ∀ {id : String} {tab : Tab}, Shown js tab → ∀ other found,
      (c.tabs.set id tab).get other = some found → Shown js found := by
    intro id tab own other found there
    rw [JsMap.get_set] at there
    split at there
    · cases there
      exact own
    · exact shown other found there
  cases ready with
  | create =>
    obtain ⟨time, valid, stamp⟩ := supplied.stamp
    obtain ⟨open_, brief⟩ := urls _ rfl
    have tab : Shown js ⟨x.uuid, publicTabUrl _, x.createdAt⟩ :=
      ⟨supplied.uuid, open_, brief, stamp ▸ std.canonical time valid,
        stamp ▸ ⟨std.printable time valid, std.length time valid⟩⟩
    refine ⟨written tab, ?_⟩
    rintro view ⟨⟩
    exact tab
  | activate known =>
    refine ⟨shown, ?_⟩
    rintro view ⟨⟩
    exact shown _ _ known
  | navigate known =>
    obtain ⟨open_, brief⟩ := urls _ rfl
    have before := shown _ _ known
    have tab : Shown js { (_ : Tab) with url := publicTabUrl _ } :=
      ⟨before.uuid, open_, brief, before.stamp, before.stampBrief⟩
    refine ⟨written tab, ?_⟩
    rintro view ⟨⟩
    exact tab
  | remove =>
    refine ⟨fun other found there => ?_, by rintro view ⟨⟩⟩
    simp only [TabController.resume, JsMap.get_delete] at there
    split at there
    · cases there
    · exact shown other found there

/-- **One operation** keeps the tabs as they have to be, and returns one of them. -/
theorem execute_shown {op : TabOperation} (urls : Serializes js.parseUrl) (std : Stamps js toISOString)
    (supplied : Supplied toISOString ids x) (driven : Driven js.parseUrl x c op) (wf : ControllerWf 4 ids c)
    (shown : AllShown js c) :
    AllShown js (c.execute js.parseUrl x op).1 ∧
      ∀ view, (c.execute js.parseUrl x op).2 = .ok (some view) → Shown js view.toTab := by
  unfold TabController.execute
  split
  · rename_i result begun
    refine ⟨shown, ?_⟩
    rintro view rfl
    cases op <;> simp only [TabController.begin] at begun <;> repeat' split at begun
    all_goals cases begun
    rename_i known _
    exact shown _ _ known
  · rename_i call rest begun
    split
    · exact ⟨shown, by rintro view ⟨⟩⟩
    · rename_i settled
      have encoded := driven call rest begun ⟨_, settled⟩
      have resumed := resume_shown std supplied shown (begin_ready wf.active begun) fun url own => by
        obtain ⟨⟨v, normal⟩, encodes⟩ := begin_url begun own
        obtain ⟨text, encodes⟩ := encodes encoded
        exact public_of_encoded urls (normalize_serialized normal) encodes
      refine ⟨resumed.1, fun view same => resumed.2 view ?_⟩
      simpa only [Except.ok.injEq] using same

/-- **Every state of a session.** -/
theorem session_shown (urls : Serializes js.parseUrl) (std : Stamps js toISOString)
    (reached : SessionState js.parseUrl toISOString ids c) : ControllerWf 4 ids c ∧ AllShown js c := by
  induction reached with
  | @start value id url text time c valid encoded uuid possible made =>
    refine ⟨wf_new made, ?_⟩
    obtain ⟨parsed, found, eq⟩ := validate_serialized valid
    obtain ⟨open_, brief⟩ := public_of_encoded urls (.inr ⟨value, parsed, found, eq⟩) encoded
    cases made
    intro other tab there
    rw [JsMap.get_set] at there
    split at there
    · cases there
      exact ⟨uuid, open_, brief, std.canonical time possible, std.printable time possible, std.length time possible⟩
    · cases there
  | operation reached supplied driven ih =>
    exact ⟨execute_wf _ ih.1 supplied.fresh, (execute_shown urls std supplied driven ih.1 ih.2).1⟩

/-! ## What the orchestrator makes of them -/

theorem parse_shown {view : TabView} (shown : Shown js view.toTab) :
    parseTabView js (some (.object (tabFields view))) = .ok view.decoded := by
  have keys : Json.sortedKeys (tabFields view) = "active,createdAt,id,url" := by
    show ",".intercalate (["id", "url", "createdAt", "active"].insertionSort (· ≤ ·)) = _
    decide
  have fields : Json.field (tabFields view) "id" = some (.string view.id) ∧
      Json.field (tabFields view) "url" = some (.string view.url) ∧
      Json.field (tabFields view) "createdAt" = some (.string view.createdAt) ∧
      Json.field (tabFields view) "active" = some (.boolean view.active) := by
    simp [Json.field, tabFields, lookupEntry]
  obtain ⟨id, url, createdAt, active⟩ := fields
  rw [parseTabView, if_neg (by simp [keys]), id, url, createdAt, active]
  simp [shown.uuid, shown.url, shown.stamp, TabView.decoded]

theorem parse_all {views : List TabView} (shown : ∀ view ∈ views, Shown js view.toTab) :
    (views.map fun view => Json.object (tabFields view)).mapM (fun value => parseTabView js (some value)) =
      .ok (views.map TabView.decoded) := by
  induction views with
  | nil => rfl
  | cons view rest ih =>
    rw [List.map_cons, List.mapM_cons, parse_shown (shown view List.mem_cons_self),
      ih fun view mem => shown view (List.mem_cons_of_mem _ mem)]
    rfl

/-- A document within the limit, with the status that is expected. -/
theorem control_document {status : Nat} {text : String} {document : Json} (small : (utf8 text).length ≤ 64 * 1024)
    (documented : status ≠ 204) (reads : Reads js text document) :
    controlResponse js status (sendJson status text) = .ok (some document) := by
  have parsed : js.parseJson (utf8 text) = some document := reads
  have expected : (sendJson status text).status = status := rfl
  rw [controlResponse, if_neg (show ¬ (sendJson status text).body.length > _ from Nat.not_lt.mpr small),
    if_neg (not_not.mpr expected), if_neg documented]
  simp only [sendJson, parsed]

theorem listed_shown (shown : AllShown js c) : ∀ view ∈ c.list, Shown js view.toTab := by
  intro view mem
  rw [TabController.list] at mem
  obtain ⟨tab, kept, rfl⟩ := List.mem_map.mp mem
  obtain ⟨id, there⟩ := JsMap.mem_values.mp kept
  exact shown id tab there

/-- **The list** is accepted. -/
theorem list_accepted (wf : ControllerWf 4 ids c) (shown : AllShown js c)
    (reads : Reads js (listText c.list) (listDocument c.list)) :
    listTabs js (sendJson 200 (listText c.list)) = .ok (c.list.map TabView.decoded) := by
  have listed := listed_of_wf wf
  have all := listed_shown shown
  have small : (utf8 (listText c.list)).length ≤ 64 * 1024 := by
    have parts : (utf8 (",".intercalate (c.list.map tabText))).length ≤
        (c.list.map tabText).length * (9000 + 1) := length_intercalate fun part mem => by
      obtain ⟨view, own, rfl⟩ := List.mem_map.mp mem
      exact length_tabText (all view own)
    have ends : (utf8 "\x7b\"tabs\":[").length = 9 ∧ (utf8 "]\x7d").length = 2 := by decide
    obtain ⟨opening, closing⟩ := ends
    rw [List.length_map] at parts
    simp only [listText, utf8_append, List.length_append, opening, closing]
    have bounded := listed.bounded
    omega
  have ids : (c.list.map TabView.decoded).map (·.id) = c.list.map (·.id) := by
    rw [List.map_map]
    rfl
  have unique : ((c.list.map TabView.decoded).map (·.id)).dedup = (c.list.map TabView.decoded).map (·.id) := by
    rw [ids]
    exact List.dedup_eq_self.mpr listed.distinct
  have active : ((c.list.map TabView.decoded).filter (·.active)).length = 1 := by
    have one := congrArg List.length listed.active
    rw [List.length_map] at one
    rw [List.filter_map, List.length_map]
    exact one
  have positive := listed.positive
  have bounded := listed.bounded
  have passes : ¬ ((c.list.map TabView.decoded).length < 1 ∨ (c.list.map TabView.decoded).length > 4 ∨
      ((c.list.map TabView.decoded).map (·.id)).dedup.length ≠ (c.list.map TabView.decoded).length ∨
      ((c.list.map TabView.decoded).filter (·.active)).length ≠ 1) := by
    rw [unique, active]
    simp only [List.length_map, ne_eq, not_true_eq_false, or_false]
    omega
  have tabs : Json.field [("tabs", .array (c.list.map fun tab => Json.object (tabFields tab)))] "tabs" =
      some (.array (c.list.map fun tab => Json.object (tabFields tab))) := by
    simp [Json.field, lookupEntry]
  rw [listTabs, control_document small (by decide) reads]
  simp only [listDocument, bind, Except.bind, tabs, parse_all all, if_neg passes]
  rfl

/-- **A tab** that an operation returns is accepted. -/
theorem one_accepted {call : TabCall} {view : TabView} (shown : Shown js view.toTab)
    (returns : call.method ≠ .delete) (reads : Reads js (oneText view) (oneDocument view)) :
    call.result js (sendJson call.expectedStatus (oneText view)) = .ok (some view.decoded) := by
  have small : (utf8 (oneText view)).length ≤ 64 * 1024 := by
    have tab := length_tabText shown
    have ends : (utf8 "\x7b\"tab\":").length = 7 ∧ (utf8 "\x7d").length = 1 := by decide
    obtain ⟨opening, closing⟩ := ends
    simp only [oneText, utf8_append, List.length_append, opening, closing]
    omega
  have tab : Json.field [("tab", Json.object (tabFields view))] "tab" = some (.object (tabFields view)) := by
    simp [Json.field, lookupEntry]
  have documented : call.expectedStatus ≠ 204 := by
    cases call with
    | delete => exact absurd rfl returns
    | _ => simp [TabCall.expectedStatus]
  rw [TabCall.result, control_document small documented reads]
  cases call with
  | delete => exact absurd rfl returns
  | _ => simp only [oneDocument, bind, Except.bind, tab, parse_shown shown]; rfl

/-! ## What is sent -/

/-- The request of `listTabs`. -/
def listRequest (secret : String) (chunks : List Bytes) : ControlRequest where
  method := .get
  url := tabsPath
  authorization := some ("Bearer " ++ secret)
  contentType := none
  chunks

/-- What a request comes to: it is refused, it is for the list, its operation is rejected for
an argument that no call has, or the operation of a call is carried out. -/
inductive Responds (js : Builtins) (x : Choice) (c : TabController) (method : Method) :
    TabController × ControlResponse → Prop
  | refused {answer : ControlResponse} :
      answer ∈ [authenticationRequired, validationFailed, routeNotFound] → Responds js x c method (c, answer)
  | list : method = .get → Responds js x c method (c, sendJson 200 (listText c.list))
  | rejected {op : TabOperation} {e : TabControlError} : c.execute js.parseUrl x op = (c, .error e) →
      Responds js x c method (c, sendJson e.code.status (errorText e.code.text e.message))
  | call (call : TabCall) : call.method = method → Responds js x c method
      ((c.execute js.parseUrl x call.operation).1,
        respond call.expectedStatus (c.execute js.parseUrl x call.operation).2)

/-- An argument that is no text is rejected before the driver is called. -/
theorem execute_other {op : TabOperation} (other : op = .create .other ∨ ∃ id, op = .navigate id .other) :
    ∃ e, c.execute js.parseUrl x op = (c, .error e) := by
  have invalid : normalizeTabUrl js.parseUrl .other = .error tabUrlInvalid := rfl
  rcases other with rfl | ⟨id, rfl⟩
  · by_cases full : c.tabs.size ≥ c.maximumTabs
    · exact ⟨tabLimitReached, by simp only [TabController.execute, TabController.begin, if_pos full]⟩
    · refine ⟨tabUrlInvalid, ?_⟩
      simp only [TabController.execute, TabController.begin, if_neg full, reduceCtorEq, if_false, invalid]
  · cases found : c.tabs.get id with
    | none => exact ⟨tabNotFound, by simp only [TabController.execute, TabController.begin, found]⟩
    | some tab => exact ⟨tabUrlInvalid, by simp only [TabController.execute, TabController.begin, found, invalid]⟩

theorem required_present {request : ControlRequest} {body : List (String × Json)}
    (h : readJsonBody js ["url"] [] request = some body) : Json.field body "url" ≠ none := by
  intro absent
  unfold readJsonBody at h
  repeat' split at h
  all_goals cases h
  rename_i complete
  simp [absent] at complete

/-- A body with its required URL has an argument. -/
theorem argument_present {body : List (String × Json)} (present : Json.field body "url" ≠ none) :
    urlArgument body = .other ∨ ∃ url, urlArgument body = .text url := by
  unfold urlArgument
  split
  · rename_i absent
    exact absurd absent present
  · exact .inr ⟨_, rfl⟩
  · exact .inl rfl

theorem responds_rejected {op : TabOperation} {method : Method} {status : Nat}
    (other : op = .create .other ∨ ∃ id, op = .navigate id .other) :
    Responds js x c method ((c.execute js.parseUrl x op).1, respond status (c.execute js.parseUrl x op).2) := by
  obtain ⟨e, rejected⟩ : ∃ e, c.execute js.parseUrl x op = (c, .error e) := execute_other other
  rw [rejected]
  exact .rejected rejected

/-- **What is sent** to a request, whoever sends it. -/
theorem handle_responds (secret : String) (request : ControlRequest) :
    Responds js x c request.method (handleTabRequest js secret x c request) := by
  have unauthorized : Responds js x c request.method (c, authenticationRequired) := .refused (by simp)
  have invalid : Responds js x c request.method (c, validationFailed) := .refused (by simp)
  have unknown : Responds js x c request.method (c, routeNotFound) := .refused (by simp)
  rw [handleTabRequest]
  dsimp only
  split
  · exact unauthorized
  split
  · exact invalid
  split
  · exact invalid
  split
  · rename_i get
    split
    · exact unknown
    split
    · exact invalid
    exact .list get
  · rename_i post
    split
    · exact unknown
    split
    · exact invalid
    rename_i body _
    cases argument : urlArgument body with
    | undefined => exact .call (.create none) post.symm
    | text requested => exact .call (.create (some requested)) post.symm
    | other => exact responds_rejected (.inl rfl)
  · rename_i put
    split
    · rename_i id _
      split
      · exact invalid
      exact .call (.activate id) put.symm
    · rename_i id _
      split
      · exact invalid
      rename_i body complete
      rcases argument_present (required_present complete) with argument | ⟨requested, argument⟩
      · rw [argument]
        exact responds_rejected (.inr ⟨id, rfl⟩)
      · rw [argument]
        exact .call (.navigate id requested) put.symm
    · exact unknown
  · rename_i delete
    split
    · rename_i id _
      split
      · exact invalid
      exact .call (.delete id) delete.symm
    · exact unknown

/-- The list is sent to the method that asks for it. -/
theorem handle_list {secret : String} {chunks : List Bytes}
    (path : ∃ url, js.resolveUrl tabsPath = some url ∧ url.pathname = tabsPath ∧ url.search = "")
    (empty : chunks.flatten = []) :
    handleTabRequest js secret x c (listRequest secret chunks) = (c, sendJson 200 (listText c.list)) := by
  obtain ⟨url, resolved, pathname, search⟩ := path
  have nothing : requireEmptyBody (listRequest secret chunks) = true := requireEmptyBody_iff.mpr empty
  rw [handleTabRequest, if_neg (by simp [listRequest]),
    show (listRequest secret chunks).url = tabsPath from rfl, resolved]
  simp only [search, pathname, show (listRequest secret chunks).method = .get from rfl, nothing, ne_eq,
    not_true_eq_false, if_false, Bool.not_true, Bool.false_eq_true]
  rfl

/-- What `remove` is fulfilled with is no tab. -/
theorem execute_returns {call : TabCall} {view : TabView}
    (succeeds : (c.execute js.parseUrl x call.operation).2 = .ok (some view)) : call.method ≠ .delete := by
  intro delete
  cases call with
  | delete id =>
    simp only [TabCall.operation, TabController.execute] at succeeds
    split at succeeds
    · rename_i begun
      subst succeeds
      simp only [TabController.begin] at begun
      repeat' split at begun
      all_goals cases begun
    · rename_i begun
      split at succeeds
      · cases succeeds
      · simp only [TabController.begin] at begun
        repeat' split at begun
        all_goals cases begun
        all_goals cases succeeds
  | _ => cases delete

/-- What is sent of the tabs in one state, and what the orchestrator makes of it. -/
structure SentSnapshots (js : Builtins) (secret : String) (x : Choice) (c : TabController) : Prop where
  /-- Nothing else is sent, to anyone. -/
  responds : ∀ request, Responds js x c request.method (handleTabRequest js secret x c request)
  /-- `listTabs` is sent the list. -/
  listed : ∀ chunks, (∃ url, js.resolveUrl tabsPath = some url ∧ url.pathname = tabsPath ∧ url.search = "") →
    chunks.flatten = [] →
    handleTabRequest js secret x c (listRequest secret chunks) = (c, sendJson 200 (listText c.list))
  /-- It accepts the list, as the controller shows it. -/
  list : Reads js (listText c.list) (listDocument c.list) →
    listTabs js (sendJson 200 (listText c.list)) = .ok (c.list.map TabView.decoded)
  /-- The other methods are sent the result of their operation. -/
  called : ∀ (call : TabCall) chunks, Understands js call → call.Fits → chunks.flatten = call.bytes →
    handleTabRequest js secret x c (call.request secret chunks) =
      ((c.execute js.parseUrl x call.operation).1,
        respond call.expectedStatus (c.execute js.parseUrl x call.operation).2)
  /-- They accept the tab of an operation that succeeds, as the controller shows it. -/
  tab : ∀ (call : TabCall) view, Driven js.parseUrl x c call.operation →
    (c.execute js.parseUrl x call.operation).2 = .ok (some view) → Reads js (oneText view) (oneDocument view) →
    call.result js (respond call.expectedStatus (.ok (some view))) = .ok (some view.decoded)

/-- **The snapshots are accepted**, in every state of a session. -/
theorem snapshots_accepted (urls : Serializes js.parseUrl) (stamps : Stamps js toISOString)
    (reached : SessionState js.parseUrl toISOString ids c) (supplied : Supplied toISOString ids x)
    (secret : String) : SentSnapshots js secret x c := by
  obtain ⟨wf, shown⟩ := session_shown urls stamps reached
  refine ⟨handle_responds secret, fun _ => handle_list, list_accepted wf shown, fun _ _ => handle_fits, ?_⟩
  intro call view driven succeeds reads
  have own := (execute_shown urls stamps supplied driven wf shown).2 view succeeds
  exact one_accepted own (execute_returns succeeds) reads

end

/-! ## The first requests of a session -/

def firstId : String := "00000000-0000-4000-8000-000000000000"

/-- `new Date(1787270400000).toISOString()`. -/
def firstStamp : String := "2026-08-21T00:00:00.000Z"

def firstView : TabView := ⟨⟨firstId, "http://example.test/", firstStamp⟩, true⟩

def firstController : TabController :=
  ⟨4, JsMap.empty.set firstId ⟨firstId, "http://example.test/", firstStamp⟩, firstId⟩

def firstChoice : Choice := ⟨"00000000-0000-4000-8000-000000000001", .ok (), firstStamp⟩

def secondCall : TabCall := .create (some "http://example.test/b")

def secondView : TabView := ⟨⟨firstChoice.uuid, "http://example.test/b", firstStamp⟩, true⟩

/-- The language, on the texts of a list and of a call. -/
def firstBuiltins : Builtins where
  parseJson source :=
    if source = utf8 (listText [firstView]) then some (listDocument [firstView])
    else if source = utf8 (oneText secondView) then some (oneDocument secondView)
    else (sampleBuiltins secondCall).parseJson source
  parseUrl := sampleUrls
  resolveUrl := (sampleBuiltins secondCall).resolveUrl
  isCanonicalTimestamp value := value = firstStamp

theorem firstBuiltins_understands : Understands firstBuiltins secondCall := by
  have understands : Understands (sampleBuiltins secondCall) secondCall := understands_sample (by decide)
  have other : ∀ {source}, source ≠ utf8 (listText [firstView]) ∧ source ≠ utf8 (oneText secondView) →
      firstBuiltins.parseJson source = (sampleBuiltins secondCall).parseJson source := by
    rintro source ⟨list, tab⟩
    simp only [firstBuiltins, if_neg list, if_neg tab]
  refine ⟨⟨_, rfl, rfl, rfl⟩, fun text present => ?_, fun code message mem => ?_⟩
  · have apart : ∀ text, secondCall.body = some text →
        utf8 text ≠ utf8 (listText [firstView]) ∧ utf8 text ≠ utf8 (oneText secondView) := by
      rintro text ⟨⟩
      decide +kernel
    rw [other (apart text present)]
    exact understands.body text present
  · have apart : ∀ doc ∈ sentErrors, utf8 (errorText doc.1 doc.2) ≠ utf8 (listText [firstView]) ∧
        utf8 (errorText doc.1 doc.2) ≠ utf8 (oneText secondView) := by decide +kernel
    rw [other (apart _ mem)]
    exact understands.errors code message mem

/-- The first list, and a tab that is created. -/
theorem snapshots_accepted_first :
    (∃ response, handleTabRequest firstBuiltins "secret" firstChoice firstController (listRequest "secret" []) =
        (firstController, response) ∧ listTabs firstBuiltins response = .ok [firstView.decoded]) ∧
    secondCall.perform firstBuiltins "secret" [secondCall.bytes] firstChoice firstController =
      .ok (some secondView.decoded) := by
  have stamps : Stamps firstBuiltins fun _ => firstStamp :=
    ⟨fun _ _ => rfl, fun _ _ => forall_mem_chars (by decide), fun _ _ => by decide⟩
  have start : validateStartUrl firstBuiltins.parseUrl "http://example.test/" = .ok "http://example.test/" := by
    decide
  have encoded : encodeUrl firstBuiltins.parseUrl "http://example.test/" =
      .ok (hex (utf8 "http://example.test/")) := by
    decide
  have possible : IsTime 1787270400000 := by simp [IsTime]
  have reached : SessionState firstBuiltins.parseUrl (fun _ => firstStamp) [firstId] firstController :=
    .start start encoded (by decide) possible rfl
  have supplied : Supplied (fun _ => firstStamp) [firstId] firstChoice :=
    ⟨by decide, by decide, 1787270400000, possible, rfl⟩
  have accepted := snapshots_accepted sampleUrls_serializes stamps reached supplied "secret"
  have listed : firstController.list = [firstView] := by decide
  have list : Reads firstBuiltins (listText [firstView]) (listDocument [firstView]) := by simp [Reads, firstBuiltins]
  have apart : utf8 (oneText secondView) ≠ utf8 (listText [firstView]) := by decide +kernel
  have tab : Reads firstBuiltins (oneText secondView) (oneDocument secondView) := by
    simp only [Reads, firstBuiltins, if_neg apart, if_true]
  have created : (firstController.execute firstBuiltins.parseUrl firstChoice secondCall.operation).2 =
      .ok (some secondView) := by
    decide
  have driven : Driven firstBuiltins.parseUrl firstChoice firstController secondCall.operation := by
    rintro call rest ⟨⟩ -
    exact ⟨hex (utf8 "http://example.test/b"), by decide⟩
  constructor
  · refine ⟨_, accepted.listed [] ⟨_, rfl, rfl, rfl⟩ rfl, ?_⟩
    have own := accepted.list
    rw [listed] at own ⊢
    exact own list
  · rw [TabCall.perform, accepted.called _ _ firstBuiltins_understands ⟨by rintro id ⟨⟩, by decide⟩ (List.append_nil _),
      created]
    exact accepted.tab _ _ driven created tab

end Fireball.Tabs
