import Fireball.Foundation.Bytes
import Fireball.Foundation.JsMap
import Fireball.Foundation.Url

/-!
# `TabController`

The controller of `session/tab-control.mjs` and its URL policy. The body of an
operation is cut at its one `await`: `begin` runs up to the call of the driver
or to the end, `resume` runs the rest once the driver's promise has resolved. A
rejected promise leaves the body at the `await` and changes nothing.
-/

namespace Fireball.Tabs

open Foundation

def internalHome : String := "file:///usr/share/fireball-session/home.html"

def publicHome : String := "fireball://home"

def maximumUrlBytes : Nat := 4096

inductive TabErrorCode
  | tabLimitReached
  | tabUrlInvalid
  | tabNotFound
  | tabMinimumReached
  | tabRuntimeUnavailable
  | tabRuntimeFailure
  deriving DecidableEq, Repr

structure TabControlError where
  code : TabErrorCode
  message : String
  deriving DecidableEq, Repr

def tabLimitReached : TabControlError := ⟨.tabLimitReached, "session tab limit reached"⟩

def tabUrlInvalid : TabControlError := ⟨.tabUrlInvalid, "tab URL is invalid"⟩

def tabNotFound : TabControlError := ⟨.tabNotFound, "tab not found"⟩

def tabMinimumReached : TabControlError :=
  ⟨.tabMinimumReached, "a session must retain one tab"⟩

/-- The `url` argument of an operation. -/
inductive UrlValue
  | undefined
  | text (value : String)
  | other
  deriving DecidableEq, Repr

/-- `parseUrl` is `new URL`, or nothing when it throws. -/
def normalizeTabUrl (parseUrl : String → Option Url) : UrlValue → Except TabControlError String
  | .undefined => .ok internalHome
  | .other => .error tabUrlInvalid
  | .text value =>
    if value = publicHome ∨ value = internalHome then .ok internalHome
    else if (utf8 value).length > maximumUrlBytes then .error tabUrlInvalid
    else match parseUrl value with
      | none => .error tabUrlInvalid
      | some parsed =>
        if parsed.protocol ∉ ["http:", "https:"] ∨ parsed.username ≠ "" ∨ parsed.password ≠ ""
            ∨ parsed.hostname = "" then .error tabUrlInvalid
        else .ok parsed.href

def encodeUrl (parseUrl : String → Option Url) (url : String) : Except TabControlError String :=
  (normalizeTabUrl parseUrl (.text url)).map fun normal => hex (utf8 normal)

def publicTabUrl (url : String) : String := if url = internalHome then publicHome else url

structure Tab where
  id : String
  url : String
  /-- `new Date(now()).toISOString()` at the time the tab was recorded. -/
  createdAt : String
  deriving DecidableEq, Repr

structure TabView extends Tab where
  active : Bool
  deriving DecidableEq, Repr

structure TabController where
  maximumTabs : Nat
  tabs : JsMap String Tab
  activeTabId : String
  deriving DecidableEq

inductive TabOperation
  | create (url : UrlValue)
  | activate (id : String)
  | navigate (id : String) (url : UrlValue)
  | remove (id : String)
  deriving DecidableEq, Repr

/-- A call of the driver. -/
inductive DriverCall
  | create (id url : String)
  | activate (id : String)
  | navigate (id url : String)
  | remove (id fallbackId : String)
  deriving DecidableEq, Repr

/-- The rest of a body after its `await`, with what it captured. -/
inductive Awaiting
  | create (id runtimeUrl : String)
  | activate (id : String) (tab : Tab)
  | navigate (id : String) (previous : Tab) (runtimeUrl : String)
  | remove (id fallback : String)
  deriving DecidableEq, Repr

inductive Begun
  | settled (result : Except TabControlError (Option TabView))
  | awaits (call : DriverCall) (rest : Awaiting)

namespace TabController

def new (maximumTabs : Nat) (id url createdAt : String) : Except String TabController :=
  if maximumTabs < 1 ∨ maximumTabs > 8 then .error "maximum tabs must be between 1 and 8"
  else .ok {
    maximumTabs
    tabs := JsMap.empty.set id ⟨id, publicTabUrl url, createdAt⟩
    activeTabId := id }

def list (c : TabController) : List TabView :=
  c.tabs.values.map fun tab => ⟨tab, tab.id = c.activeTabId⟩

/-- `uuid` is what `this.uuid()` returns. -/
def begin (parseUrl : String → Option Url) (uuid : String) (c : TabController) :
    TabOperation → Begun
  | .create url =>
    if c.tabs.size ≥ c.maximumTabs then .settled (.error tabLimitReached)
    else match normalizeTabUrl parseUrl (if url = .undefined then .text publicHome else url) with
      | .error e => .settled (.error e)
      | .ok runtimeUrl => .awaits (.create uuid runtimeUrl) (.create uuid runtimeUrl)
  | .activate id => match c.tabs.get id with
    | none => .settled (.error tabNotFound)
    | some tab =>
      if id ≠ c.activeTabId then .awaits (.activate id) (.activate id tab)
      else .settled (.ok (some ⟨tab, true⟩))
  | .navigate id url => match c.tabs.get id with
    | none => .settled (.error tabNotFound)
    | some previous => match normalizeTabUrl parseUrl url with
      | .error e => .settled (.error e)
      | .ok runtimeUrl => .awaits (.navigate id runtimeUrl) (.navigate id previous runtimeUrl)
  | .remove id => match c.tabs.get id with
    | none => .settled (.error tabNotFound)
    | some _ =>
      if c.tabs.size = 1 then .settled (.error tabMinimumReached)
      else
        -- `find` has a result here: the map holds `id` and at least one other key
        let fallback := if id = c.activeTabId then (c.tabs.keys.find? (· ≠ id)).getD ""
          else c.activeTabId
        .awaits (.remove id fallback) (.remove id fallback)

/-- The rest of the body, when the driver's promise has resolved. -/
def resume (createdAt : String) (c : TabController) : Awaiting → TabController × Option TabView
  | .create id runtimeUrl =>
    let tab : Tab := ⟨id, publicTabUrl runtimeUrl, createdAt⟩
    ({ c with tabs := c.tabs.set id tab, activeTabId := id }, some ⟨tab, true⟩)
  | .activate id tab => ({ c with activeTabId := id }, some ⟨tab, true⟩)
  | .navigate id previous runtimeUrl =>
    let tab := { previous with url := publicTabUrl runtimeUrl }
    ({ c with tabs := c.tabs.set id tab }, some ⟨tab, id = c.activeTabId⟩)
  | .remove id fallback =>
    ({ c with
      activeTabId := if id = c.activeTabId then fallback else c.activeTabId
      tabs := c.tabs.delete id }, none)

end TabController

end Fireball.Tabs
