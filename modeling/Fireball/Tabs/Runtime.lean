import Fireball.Foundation.Bytes
import Fireball.Foundation.JsMap

/-!
# The native `Runtime`

The tab side of `session/fireball-session-runtime.cc`: the command loop and the
tabs it keeps. The elements of the GStreamer pipeline are left out; what each
call to the library answers is an `Outcomes`, and `g_uri_parse` is a parameter.
A function that returns `bool` and an error text is an `Except` beside the new
state.
-/

namespace Fireball.Tabs

open Foundation

def kInternalHome : Bytes := utf8 "file:///usr/share/fireball-session/home.html"

def kMaximumTabs : Nat := 4

def kMaximumUrlBytes : Nat := 4096

/-- What `g_uri_parse` finds. -/
structure GUri where
  scheme : Option Bytes
  host : Option Bytes
  userinfo : Option Bytes
  deriving DecidableEq, Repr

/-- The outcomes of the calls made while one line is handled; elements go by their names. -/
structure Outcomes where
  /-- `gst_element_factory_make`, by factory and name. -/
  make : String → String → Bool
  /-- `gst_bin_add`. -/
  add : String → Bool
  /-- `gst_element_link_many` of the silence branch, and of the output. -/
  linkSilence : Bool
  linkOutput : Bool
  /-- The static pads of source and output, and the request pads of the selectors. -/
  videoPad : Bool
  audioPad : Bool
  videoSelectorPad : Bool
  audioSelectorPad : Bool
  /-- `gst_pad_link` to the selectors. -/
  linkVideo : Bool
  linkAudio : Bool
  /-- `gst_element_sync_state_with_parent`. -/
  sync : String → Bool
  /-- The reply reaches the control descriptor. -/
  write : Bool

structure RuntimeTab where
  id : Bytes
  url : Bytes
  deriving DecidableEq, Repr

structure Runtime where
  tabs : JsMap Bytes RuntimeTab
  activeTabId : Bytes
  nextElementId : Nat
  running : Bool
  exitCode : Nat
  /-- `g_main_loop_quit` was called: `Run` returns and the process exits. -/
  quit : Bool
  deriving DecidableEq

/-! ## What the fields of a line may be -/

def isDigit (b : UInt8) : Bool := '0'.toUInt8 ≤ b && b ≤ '9'.toUInt8

def isUpper (b : UInt8) : Bool := 'A'.toUInt8 ≤ b && b ≤ 'Z'.toUInt8

def isXdigit (b : UInt8) : Bool :=
  isDigit b || ('a'.toUInt8 ≤ b && b ≤ 'f'.toUInt8) || ('A'.toUInt8 ≤ b && b ≤ 'F'.toUInt8)

def validRequest (value : Bytes) : Bool := match value with
  | [] => false
  | first :: _ => value.length ≤ 16 && '1'.toUInt8 ≤ first && first ≤ '9'.toUInt8
      && value.all isDigit

def uuidDashes : List Nat := [8, 13, 18, 23]

def validUuid (value : Bytes) : Bool :=
  value.length = 36 && uuidDashes.all (fun i => value[i]? = some '-'.toUInt8)
    && value.zipIdx.all (fun e => e.2 ∈ uuidDashes || (isXdigit e.1 && !isUpper e.1))
    && value[14]? = some '4'.toUInt8
    && (value[19]? = some '8'.toUInt8 || value[19]? = some '9'.toUInt8
      || value[19]? = some 'a'.toUInt8 || value[19]? = some 'b'.toUInt8)

def validUrl (parseUri : Bytes → Option GUri) (value : Bytes) : Bool :=
  if value = [] ∨ value.length > kMaximumUrlBytes then false
  else if value = kInternalHome then true
  else match parseUri value with
    | none => false
    | some uri => match uri.scheme, uri.host with
      | some scheme, some host => host ≠ [] && uri.userinfo.isNone
          && (scheme = utf8 "http" || scheme = utf8 "https")
      | _, _ => false

def hexValue (value : UInt8) : Option UInt8 :=
  if '0'.toUInt8 ≤ value ∧ value ≤ '9'.toUInt8 then some (value - '0'.toUInt8)
  else if 'a'.toUInt8 ≤ value ∧ value ≤ 'f'.toUInt8 then some (value - 'a'.toUInt8 + 10)
  else none

/-- The loop of `DecodeHex`, two characters at a time. -/
def decodePairs : Bytes → Option Bytes
  | high :: low :: rest => do
    let high ← hexValue high
    let low ← hexValue low
    let decoded := high <<< 4 ||| low
    if decoded = 0 then none else return decoded :: (← decodePairs rest)
  | _ => some []

def decodeHex (value : Bytes) : Option Bytes :=
  if value = [] ∨ value.length > kMaximumUrlBytes * 2 ∨ value.length % 2 ≠ 0 then none
  else decodePairs value

def safeErrorCode (value : String) : String :=
  if value ≠ "" ∧ (utf8 value).length ≤ 64 ∧ (utf8 value).all (fun b => b = '_'.toUInt8 || isUpper b)
  then value else "TAB_RUNTIME_FAILURE"

/-! ## The tabs -/

namespace Runtime

variable (parseUri : Bytes → Option GUri) (o : Outcomes)

def activateTab (id : Bytes) (r : Runtime) : Runtime × Except String Unit :=
  if r.tabs.has id then ({ r with activeTabId := id }, .ok ())
  else (r, .error "TAB_NOT_FOUND")

def makeElement (factory name : String) : Except String Unit :=
  if o.make factory name then .ok ()
  else .error ("required GStreamer element is unavailable: " ++ factory)

def fixedElements : List (String × String) := [
  ("audiotestsrc", "tab_silence_"),
  ("queue", "tab_silence_queue_"),
  ("audioconvert", "tab_silence_convert_"),
  ("audioresample", "tab_silence_resample_"),
  ("capsfilter", "tab_silence_caps_"),
  ("queue", "tab_output_queue_"),
  ("audioconvert", "tab_output_convert_"),
  ("audioresample", "tab_output_resample_"),
  ("capsfilter", "tab_output_caps_")]

def sourceName (suffix : String) : String := "tab_source_" ++ suffix

def mixerName (suffix : String) : String := "tab_mixer_" ++ suffix

def fixedNames (suffix : String) : List String := fixedElements.map fun e => e.2 ++ suffix

/-- The elements of one tab. Source and mixer are both made before either is checked. -/
def makeElements (suffix : String) : Except String Unit :=
  match makeElement o "wpesrc" (sourceName suffix), makeElement o "audiomixer" (mixerName suffix) with
  | _, .error e => .error e
  | .error e, .ok () => .error e
  | .ok (), .ok () => fixedElements.forM fun e => makeElement o e.1 (e.2 ++ suffix)

/-- `AddTabElements`: the loop ends at the first element that is refused. -/
def addTabElements (suffix : String) : Bool :=
  (sourceName suffix :: mixerName suffix :: fixedNames suffix).all o.add

/-- The pads of the tab, linked to the selectors. -/
def linkSelectors : Bool :=
  o.videoPad && o.audioPad && o.videoSelectorPad && o.audioSelectorPad && o.linkVideo && o.linkAudio

/-- `SynchronizeTab`: every element is told, whatever the others answered. -/
def synchronizeTab (suffix : String) : Bool :=
  let synchronized := (fixedNames suffix).foldl (fun synchronized name => o.sync name && synchronized)
    (o.sync (mixerName suffix))
  o.sync (sourceName suffix) && synchronized

def createTab (id url : Bytes) (activate : Bool) (r : Runtime) : Runtime × Except String Unit :=
  if r.tabs.size ≥ kMaximumTabs then (r, .error "TAB_LIMIT_REACHED")
  else if !validUuid id || r.tabs.has id || !validUrl parseUri url then
    (r, .error "TAB_INPUT_INVALID")
  else
    let suffix := toString r.nextElementId
    let named := { r with nextElementId := r.nextElementId + 1 }
    match makeElements o suffix with
    | .error e => (named, .error e)
    | .ok () =>
      if !addTabElements o suffix then (named, .error "TAB_PIPELINE_ADD_FAILED")
      else if !o.linkSilence || !o.linkOutput then (named, .error "TAB_AUDIO_LINK_FAILED")
      else if !linkSelectors o then (named, .error "TAB_SELECTOR_LINK_FAILED")
      else
        let added := { named with tabs := named.tabs.set id ⟨id, url⟩ }
        if added.running && !synchronizeTab o suffix then
          ({ added with tabs := added.tabs.delete id }, .error "TAB_STATE_CHANGE_FAILED")
        else if activate || added.activeTabId = [] then match added.activateTab id with
          | (active, .ok ()) => (active, .ok ())
          | (active, .error e) => ({ active with tabs := active.tabs.delete id }, .error e)
        else (added, .ok ())

def navigateTab (id url : Bytes) (r : Runtime) : Runtime × Except String Unit :=
  match r.tabs.get id with
  | none => (r, .error "TAB_NOT_FOUND")
  | some tab =>
    if !validUrl parseUri url then (r, .error "TAB_INPUT_INVALID")
    else ({ r with tabs := r.tabs.set id { tab with url } }, .ok ())

def removeTab (id fallbackId : Bytes) (r : Runtime) : Runtime × Except String Unit :=
  if !r.tabs.has id then (r, .error "TAB_NOT_FOUND")
  else if r.tabs.size = 1 then (r, .error "TAB_MINIMUM_REACHED")
  else if !r.tabs.has fallbackId || fallbackId = id then (r, .error "TAB_FALLBACK_INVALID")
  else if r.activeTabId = id then match r.activateTab fallbackId with
    | (active, .ok ()) => ({ active with tabs := active.tabs.delete id }, .ok ())
    | (active, .error e) => (active, .error e)
  else if r.activeTabId ≠ fallbackId then (r, .error "TAB_FALLBACK_INVALID")
  else ({ r with tabs := r.tabs.delete id }, .ok ())

/-! ## The command loop -/

/-- `exit_code_ = 1` and the loop is told to quit. -/
def stop (r : Runtime) : Runtime := { r with exitCode := 1, quit := true }

def writeControlLine (line : Bytes) (r : Runtime) : Runtime × List Bytes :=
  if o.write then (r, [line]) else (r.stop, [])

def replyOk (request : Bytes) (r : Runtime) : Runtime × List Bytes :=
  r.writeControlLine o (utf8 "OK " ++ request)

def replyError (request : Bytes) (code : String) (r : Runtime) : Runtime × List Bytes :=
  r.writeControlLine o (utf8 "ERR " ++ request ++ utf8 (" " ++ safeErrorCode code))

/-- The command of a line with at least three fields: `rest` are the fields after the id. -/
def dispatch (command id : Bytes) (rest : List Bytes) (r : Runtime) :
    Runtime × Except String Unit :=
  match rest with
  | [] => if command = utf8 "ACTIVATE" then r.activateTab id else (r, .error "TAB_COMMAND_INVALID")
  | [argument] =>
    if command = utf8 "DELETE" then r.removeTab id argument
    else if command = utf8 "CREATE" ∨ command = utf8 "NAVIGATE" then match decodeHex argument with
      | none => (r, .error "TAB_INPUT_INVALID")
      | some url =>
        if !validUrl parseUri url then (r, .error "TAB_INPUT_INVALID")
        else if command = utf8 "CREATE" then r.createTab parseUri o id url true
        else r.navigateTab parseUri id url
    else (r, .error "TAB_COMMAND_INVALID")
  | _ => (r, .error "TAB_COMMAND_INVALID")

def isLineEnd (b : UInt8) : Bool := b = '\n'.toUInt8 || b = '\r'.toUInt8

def fields (line : Bytes) : List Bytes := words (line.rdropWhile isLineEnd)

def handleCommand (line : Bytes) (r : Runtime) : Runtime × List Bytes :=
  match fields line with
  | [command, request] =>
    if command = utf8 "SHUTDOWN" && validRequest request then
      let (replied, written) := r.replyOk o request
      ({ replied with quit := true }, written)
    else (r.stop, [])
  | command :: request :: id :: rest =>
    if !validRequest request then (r.stop, [])
    else match r.dispatch parseUri o command id rest with
      | (done, .ok ()) => done.replyOk o request
      | (done, .error e) =>
        done.replyError o request (if e = "" then "TAB_RUNTIME_FAILURE" else e)
  | _ => (r.stop, [])

/-- The rest of `Initialize` fails with `setUp` before the first tab is made, and with `play`
after it. -/
def initializeRuntime (setUp play : Except String Unit) (id url : Bytes) : Except String Runtime := do
  setUp
  match createTab parseUri o id url true ⟨.empty, [], 1, false, 0, false⟩ with
  | (_, .error e) => throw e
  | (r, .ok ()) =>
    play
    return { r with running := true }

/-- What `Run` does before the main loop, which it does not enter when the line cannot be
written. -/
def run (initialTabId : Bytes) (r : Runtime) : Runtime × List Bytes :=
  r.writeControlLine o (utf8 "READY " ++ initialTabId)

end Runtime

end Fireball.Tabs
