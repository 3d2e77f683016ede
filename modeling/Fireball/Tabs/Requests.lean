import Fireball.Foundation.Json
import Fireball.Session.Types
import Fireball.Tabs.Sequential

/-!
# Tab requests

The two hops of a tab operation: the methods of `DockerEngineRuntime` that send a
control request and read its response, and `handleTabRequest` of
`session/supervisor.mjs`. `JSON.parse` and `new URL` are parameters. The body of a
request arrives in chunks; the hop itself loses nothing, and its deadline is not met.
-/

namespace Fireball.Tabs

open Foundation
open Session (OrchestratorError)

/-- What both processes have of the language. -/
structure Builtins where
  /-- `JSON.parse` of the bytes as UTF-8 text, or nothing when it throws. -/
  parseJson : Bytes → Option Json
  /-- `new URL(value)`. -/
  parseUrl : String → Option Url
  /-- `new URL(value, "http://fireball.internal")`. -/
  resolveUrl : String → Option Url
  /-- `Date.parse` and `toISOString` give the text back. -/
  isCanonicalTimestamp : String → Bool

inductive Method
  | get | post | put | delete
  deriving DecidableEq, Repr

structure ControlRequest where
  method : Method
  url : String
  authorization : Option String
  contentType : Option String
  chunks : List Bytes

structure ControlResponse where
  status : Nat
  body : Bytes
  deriving DecidableEq

def tabsPath : String := "/internal/v1/tabs"

/-! ## `session/supervisor.mjs` -/

def maximumBodyBytes : Nat := 8 * 1024

def TabErrorCode.text : TabErrorCode → String
  | .tabLimitReached => "TAB_LIMIT_REACHED"
  | .tabUrlInvalid => "TAB_URL_INVALID"
  | .tabNotFound => "TAB_NOT_FOUND"
  | .tabMinimumReached => "TAB_MINIMUM_REACHED"
  | .tabRuntimeUnavailable => "TAB_RUNTIME_UNAVAILABLE"
  | .tabRuntimeFailure => "TAB_RUNTIME_FAILURE"

def TabErrorCode.status : TabErrorCode → Nat
  | .tabNotFound => 404
  | .tabUrlInvalid => 400
  | .tabLimitReached | .tabMinimumReached => 409
  | _ => 503

/-- `JSON.stringify({ error: { code, message } })`. -/
def errorText (code message : String) : String :=
  "\x7b\"error\":\x7b\"code\":" ++ Json.quote code ++ ",\"message\":" ++ Json.quote message ++ "\x7d\x7d"

def tabText (tab : TabView) : String :=
  "\x7b\"id\":" ++ Json.quote tab.id ++ ",\"url\":" ++ Json.quote tab.url ++ ",\"createdAt\":" ++
    Json.quote tab.createdAt ++ ",\"active\":" ++ toString tab.active ++ "\x7d"

def sendJson (status : Nat) (text : String) : ControlResponse := ⟨status, utf8 text⟩

def validationFailed : ControlResponse :=
  sendJson 400 (errorText "VALIDATION_FAILED" "request validation failed")

def authenticationRequired : ControlResponse :=
  sendJson 401 (errorText "INTERNAL_AUTH_REQUIRED" "authentication required")

def routeNotFound : ControlResponse :=
  sendJson 404 (errorText "TAB_ROUTE_NOT_FOUND" "tab route not found")

/-- `[0-9a-f-]{36}`. -/
def isTabId (id : List Char) : Bool :=
  id.length = 36 && id.all fun c => c.isDigit || ('a' ≤ c && c ≤ 'f') || c = '-'

inductive TabAction
  | active | navigation
  deriving DecidableEq, Repr

/-- `/^\/internal\/v1\/tabs\/([0-9a-f-]{36})(?:\/(active|navigation))?$/`. -/
def tabRoute (pathname : String) : Option (String × Option TabAction) :=
  match pathname.toList.splitOn '/' with
  | [root, internal, v1, tabs, id] =>
    if [root, internal, v1, tabs] = ["".toList, "internal".toList, "v1".toList, "tabs".toList]
        ∧ isTabId id = true then some (String.ofList id, none)
    else none
  | [root, internal, v1, tabs, id, action] =>
    if [root, internal, v1, tabs] = ["".toList, "internal".toList, "v1".toList, "tabs".toList]
        ∧ isTabId id = true then
      if action = "active".toList then some (String.ofList id, some .active)
      else if action = "navigation".toList then some (String.ofList id, some .navigation)
      else none
    else none
  | _ => none

/-- `requireEmptyBody` does not throw. -/
def requireEmptyBody (request : ControlRequest) : Bool := request.chunks.all (·.length = 0)

/-- The loop of `readJsonBody`. -/
def readChunks (size : Nat) : List Bytes → Option Bytes
  | [] => some []
  | chunk :: rest =>
    if size + chunk.length > maximumBodyBytes then none
    else (readChunks (size + chunk.length) rest).map (chunk ++ ·)

/-- `readJsonBody`, or nothing when it throws. -/
def readJsonBody (js : Builtins) (required optional : List String) (request : ControlRequest) :
    Option (List (String × Json)) :=
  if request.contentType ≠ some "application/json" then none
  else match readChunks 0 request.chunks with
    | none => none
    | some bytes => match js.parseJson bytes with
      | some (.object body) =>
        if required.any (fun key => (Json.field body key).isNone)
            || (body.map Prod.fst).any (fun key => key ∉ required ++ optional) then none
        else some body
      | _ => none

/-- `body.url`. -/
def urlArgument (body : List (String × Json)) : UrlValue :=
  match Json.field body "url" with
  | none => .undefined
  | some (.string url) => .text url
  | some _ => .other

/-- The response to an operation that has a result. -/
def respond (status : Nat) : Result → ControlResponse
  | .ok (some tab) => sendJson status ("\x7b\"tab\":" ++ tabText tab ++ "\x7d")
  | .ok none => ⟨204, []⟩
  | .error e => sendJson e.code.status (errorText e.code.text e.message)

/-- `handleTabRequest`, on the tabs as they are when its operation begins. -/
def handleTabRequest (js : Builtins) (secret : String) (x : Choice) (tabs : TabController)
    (request : ControlRequest) : TabController × ControlResponse :=
  let run := fun status op =>
    let (tabs', result) := tabs.execute js.parseUrl x op
    (tabs', respond status result)
  if request.authorization ≠ some ("Bearer " ++ secret) then (tabs, authenticationRequired)
  else match js.resolveUrl request.url with
    | none => (tabs, validationFailed)
    | some url =>
      if url.search ≠ "" then (tabs, validationFailed)
      else match request.method with
        | .get =>
          if url.pathname ≠ tabsPath then (tabs, routeNotFound)
          else if !requireEmptyBody request then (tabs, validationFailed)
          else (tabs, sendJson 200 ("\x7b\"tabs\":[" ++ ",".intercalate (tabs.list.map tabText) ++ "]\x7d"))
        | .post =>
          if url.pathname ≠ tabsPath then (tabs, routeNotFound)
          else match readJsonBody js [] ["url"] request with
            | none => (tabs, validationFailed)
            | some body => run 201 (.create (urlArgument body))
        | .put => match tabRoute url.pathname with
          | some (id, some .active) =>
            if !requireEmptyBody request then (tabs, validationFailed) else run 200 (.activate id)
          | some (id, some .navigation) => match readJsonBody js ["url"] [] request with
            | none => (tabs, validationFailed)
            | some body => run 200 (.navigate id (urlArgument body))
          | _ => (tabs, routeNotFound)
        | .delete => match tabRoute url.pathname with
          | some (id, none) =>
            if !requireEmptyBody request then (tabs, validationFailed) else run 204 (.remove id)
          | _ => (tabs, routeNotFound)

/-! ## `src/runtime/docker-engine-runtime.ts` -/

/-- `createTab`, `activateTab`, `navigateTab` and `deleteTab`. -/
inductive TabCall
  | create (url : Option String)
  | activate (id : String)
  | navigate (id url : String)
  | delete (id : String)
  deriving DecidableEq, Repr

def invalidTabRuntimeResponse : OrchestratorError :=
  ⟨.tabRuntimeUnavailable, "tab runtime returned an invalid response", 503⟩

def tabRuntimeUnavailable : OrchestratorError :=
  ⟨.tabRuntimeUnavailable, "tab runtime is unavailable", 503⟩

/-- The map of `parseTabRuntimeError`. -/
def expectedError (code : String) : Option OrchestratorError :=
  if code = "TAB_NOT_FOUND" then some ⟨.tabNotFound, "tab not found", 404⟩
  else if code = "TAB_LIMIT_REACHED" then some ⟨.tabLimitReached, "session tab limit reached", 409⟩
  else if code = "TAB_MINIMUM_REACHED" then
    some ⟨.tabMinimumReached, "a session must retain one tab", 409⟩
  else if code = "TAB_URL_INVALID" then some ⟨.tabUrlInvalid, "tab URL is invalid", 400⟩
  else none

def parseTabRuntimeError (js : Builtins) (status : Nat) (source : Bytes) : OrchestratorError :=
  match js.parseJson source with
  | some (.object document) =>
    if ",".intercalate (document.map Prod.fst) ≠ "error" then invalidTabRuntimeResponse
    else match Json.field document "error" with
      | some (.object error) =>
        if Json.sortedKeys error ≠ "code,message" then invalidTabRuntimeResponse
        else match Json.field error "code", Json.field error "message" with
          | some (.string code), some (.string _) => match expectedError code with
            | some binding => if binding.statusCode ≠ status then invalidTabRuntimeResponse else binding
            | none => invalidTabRuntimeResponse
          | _, _ => invalidTabRuntimeResponse
      | _ => invalidTabRuntimeResponse
  | _ => invalidTabRuntimeResponse

/-- `/^[0-9a-f]{8}-[0-9a-f]{4}-4[0-9a-f]{3}-[89ab][0-9a-f]{3}-[0-9a-f]{12}$/`. -/
def isTabUuid (id : List Char) : Bool :=
  id.length = 36 && id.zipIdx.all fun (c, i) =>
    if i ∈ [8, 13, 18, 23] then c = '-'
    else if i = 14 then c = '4'
    else if i = 19 then c ∈ ['8', '9', 'a', 'b']
    else c.isDigit || ('a' ≤ c && c ≤ 'f')

def isPublicTabUrl (js : Builtins) (value : String) : Bool :=
  value = "fireball://home" || match js.parseUrl value with
    | none => false
    | some url => url.protocol ∈ ["http:", "https:"] && url.username = "" && url.password = ""
        && url.hostname ≠ "" && url.href = value

def parseTabView (js : Builtins) : Option Json → Except OrchestratorError Session.TabView
  | some (.object value) =>
    if Json.sortedKeys value ≠ "active,createdAt,id,url" then .error invalidTabRuntimeResponse
    else match Json.field value "id", Json.field value "url", Json.field value "createdAt",
        Json.field value "active" with
      | some (.string id), some (.string url), some (.string createdAt), some (.boolean active) =>
        if isTabUuid id.toList && isPublicTabUrl js url && js.isCanonicalTimestamp createdAt
        then .ok ⟨id, url, createdAt, active⟩
        else .error invalidTabRuntimeResponse
      | _, _, _, _ => .error invalidTabRuntimeResponse
  | _ => .error invalidTabRuntimeResponse

/-- `controlRequest` after the response. A 204 has no document. -/
def controlResponse (js : Builtins) (expectedStatus : Nat) (response : ControlResponse) :
    Except OrchestratorError (Option Json) :=
  if response.body.length > 64 * 1024 then .error tabRuntimeUnavailable
  else if response.status ≠ expectedStatus then
    .error (parseTabRuntimeError js response.status response.body)
  else if expectedStatus = 204 then
    if response.body ≠ [] then .error invalidTabRuntimeResponse else .ok none
  else match js.parseJson response.body with
    | none => .error invalidTabRuntimeResponse
    | some document => .ok (some document)

namespace TabCall

def method : TabCall → Method
  | .create _ => .post
  | .activate _ | .navigate _ _ => .put
  | .delete _ => .delete

def suffix : TabCall → String
  | .create _ => ""
  | .activate id => "/" ++ encodeURIComponent id ++ "/active"
  | .navigate id _ => "/" ++ encodeURIComponent id ++ "/navigation"
  | .delete id => "/" ++ encodeURIComponent id

/-- `JSON.stringify` of the body, if there is one. -/
def body : TabCall → Option String
  | .create none => some "\x7b\x7d"
  | .create (some url) => some ("\x7b\"url\":" ++ Json.quote url ++ "\x7d")
  | .navigate _ url => some ("\x7b\"url\":" ++ Json.quote url ++ "\x7d")
  | .activate _ | .delete _ => none

def expectedStatus : TabCall → Nat
  | .create _ => 201
  | .activate _ | .navigate _ _ => 200
  | .delete _ => 204

/-- What goes out to the endpoint of the session, whose secret is `secret`. -/
def request (secret : String) (chunks : List Bytes) (call : TabCall) : ControlRequest where
  method := call.method
  url := tabsPath ++ call.suffix
  authorization := some ("Bearer " ++ secret)
  contentType := call.body.map fun _ => "application/json"
  chunks

/-- What the method returns. -/
def result (js : Builtins) (response : ControlResponse) (call : TabCall) :
    Except OrchestratorError (Option Session.TabView) := do
  match call, ← controlResponse js call.expectedStatus response with
  | .delete _, _ => return none
  | _, some (.object document) => return some (← parseTabView js (Json.field document "tab"))
  | _, _ => .error invalidTabRuntimeResponse

/-- The operation of the controller with the same arguments. -/
def operation : TabCall → TabOperation
  | .create url => .create (url.elim .undefined .text)
  | .activate id => .activate id
  | .navigate id url => .navigate id (.text url)
  | .delete id => .remove id

/-- A call of `DockerEngineRuntime`, through both hops. -/
def perform (js : Builtins) (secret : String) (chunks : List Bytes) (x : Choice)
    (tabs : TabController) (call : TabCall) : Except OrchestratorError (Option Session.TabView) :=
  call.result js (handleTabRequest js secret x tabs (call.request secret chunks)).2

end TabCall

end Fireball.Tabs
