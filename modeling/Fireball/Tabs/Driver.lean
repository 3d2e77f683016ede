import Fireball.Tabs.Controller

/-!
# `NativeTabDriver`

The driver of `session/tab-control.mjs`: commands with request numbers, the
promises that wait for their replies, and the control lines of the child. Promises
are numbered in the order in which they are made, and a timer has the number of its
promise. Each function answers the calls of `resolve` and `reject` that it makes.
-/

namespace Fireball.Tabs

open Foundation

/-- The child's stdin, as the parent sees it. -/
inductive Stdin
  | writable | ended | destroyed
  deriving DecidableEq, Repr

structure Child where
  /-- `exitCode` or `signalCode` is set. -/
  exited : Bool
  /-- `kill("SIGTERM")` was called. -/
  killed : Bool
  stdin : Stdin
  deriving DecidableEq, Repr

structure NativeTabDriver where
  child : Child
  expectedInitialTabId : String
  /-- The promise of each request that has no answer. -/
  pending : JsMap String Nat
  /-- A `Number` below `2^53`. -/
  nextRequest : Nat
  /-- How many promises have been made. -/
  promises : Nat
  /-- The timers that run. -/
  timers : JsSet Nat
  /-- How `ready` was settled. -/
  ready : Option (Except String Unit)
  deriving DecidableEq

inductive Outcome
  | resolved
  | rejected (error : TabControlError)
  deriving DecidableEq, Repr

/-- A call of `resolve` or `reject` of a promise. -/
abbrev Settlement := Nat × Outcome

/-- A command that was sent: its promise, its request and the line. -/
structure Command where
  promise : Nat
  request : String
  line : String
  deriving DecidableEq, Repr

def runtimeUnavailable (message : String) : TabControlError := ⟨.tabRuntimeUnavailable, message⟩

/-- `[1-9][0-9]{0,15}`. -/
def isRequest : List Char → Bool
  | [] => false
  | first :: rest => '1' ≤ first && first ≤ '9' && rest.length ≤ 15 && rest.all Char.isDigit

/-- `[A-Z_]{3,64}`. -/
def isErrorCode (s : List Char) : Bool :=
  3 ≤ s.length && s.length ≤ 64 && s.all fun c => c = '_' || c.isUpper

/-- `/^READY ([0-9a-f-]{36})$/`. -/
def parseReady (line : String) : Option String := match line.toList.splitOn ' ' with
  | [ready, id] =>
    if ready = "READY".toList ∧ id.length = 36
        ∧ id.all (fun c => c.isDigit || ('a' ≤ c && c ≤ 'f') || c = '-') = true
    then some (String.ofList id) else none
  | _ => none

/-- `/^(OK|ERR) ([1-9][0-9]{0,15})(?: ([A-Z_]{3,64}))?$/`: whether the first group is `OK`, and
the second. No group matches a blank. -/
def parseResponse (line : String) : Option (Bool × String) :=
  let answer (status request : List Char) : Option (Bool × String) :=
    if (status = "OK".toList ∨ status = "ERR".toList) ∧ isRequest request = true
    then some (status = "OK".toList, String.ofList request) else none
  match line.toList.splitOn ' ' with
  | [status, request] => answer status request
  | [status, request, code] => if isErrorCode code then answer status request else none
  | _ => none

namespace NativeTabDriver

def new (expectedInitialTabId : String) : NativeTabDriver where
  child := ⟨false, false, .writable⟩
  expectedInitialTabId
  pending := .empty
  nextRequest := 1
  promises := 0
  timers := .empty
  ready := none

/-- Settle `ready`, once. -/
def settleReady (result : Except String Unit) (d : NativeTabDriver) : NativeTabDriver :=
  { d with ready := some (d.ready.getD result) }

/-- `#fail`. -/
def fail (message : String) (d : NativeTabDriver) : NativeTabDriver × List Settlement :=
  ({ d.settleReady (.error message) with
      pending := .empty
      timers := d.timers.deleteAll d.pending.values
      child := { d.child with killed := d.child.killed || !d.child.exited } },
    d.pending.values.map fun promise =>
      (promise, .rejected (runtimeUnavailable "tab runtime is unavailable")))

/-- `clearTimeout` and `pending.delete`, and the promise is settled. -/
def settle (request : String) (promise : Nat) (outcome : Outcome) (d : NativeTabDriver) :
    NativeTabDriver × List Settlement :=
  ({ d with timers := d.timers.delete promise, pending := d.pending.delete request },
    [(promise, outcome)])

/-- `#command`: a rejection, or the command that is sent. -/
def command (type : String) (arguments : List String) (d : NativeTabDriver) :
    NativeTabDriver × Except TabControlError Command :=
  if d.child.exited ∨ d.child.stdin = .destroyed then
    (d, .error (runtimeUnavailable "tab runtime is unavailable"))
  else
    let request := toString d.nextRequest
    ({ d with
        nextRequest := d.nextRequest + 1
        promises := d.promises + 1
        timers := d.timers.add d.promises
        pending := d.pending.set request d.promises },
      .ok ⟨d.promises, request, type ++ " " ++ request ++ " " ++ " ".intercalate arguments ++ "\n"⟩)

/-- `create`, `activate`, `navigate` and `remove`. -/
def call (parseUrl : String → Option Url) (d : NativeTabDriver) :
    DriverCall → NativeTabDriver × Except TabControlError Command
  | .create id url => match encodeUrl parseUrl url with
    | .error e => (d, .error e)
    | .ok encoded => d.command "CREATE" [id, encoded]
  | .activate id => d.command "ACTIVATE" [id]
  | .navigate id url => match encodeUrl parseUrl url with
    | .error e => (d, .error e)
    | .ok encoded => d.command "NAVIGATE" [id, encoded]
  | .remove id fallbackId => d.command "DELETE" [id, fallbackId]

/-- The timer of a command fires. -/
def expire (c : Command) (d : NativeTabDriver) : NativeTabDriver × List Settlement :=
  d.settle c.request c.promise (.rejected (runtimeUnavailable "tab runtime command timed out"))

/-- The callback of the write of a command gets an error. The stream is destroyed. -/
def writeFails (c : Command) (d : NativeTabDriver) : NativeTabDriver × List Settlement :=
  { d with child := { d.child with stdin := .destroyed } }.settle c.request c.promise
    (.rejected (runtimeUnavailable "tab runtime command failed"))

/-- `#handleLine`. -/
def handleLine (line : String) (d : NativeTabDriver) : NativeTabDriver × List Settlement :=
  match parseReady line with
  | some id =>
    (d.settleReady (if id = d.expectedInitialTabId then .ok ()
      else .error "native tab runtime returned an unexpected initial tab"), [])
  | none => match parseResponse line with
    | none => d.fail "native tab runtime returned malformed output"
    | some (ok, request) => match d.pending.get request with
      | none => (d, [])
      | some promise =>
        d.settle request promise (if ok then .resolved
          else .rejected ⟨.tabRuntimeFailure, "tab runtime rejected the operation"⟩)

/-- `shutdown`. The line is written when the stream still takes one. -/
def shutdown (d : NativeTabDriver) : NativeTabDriver × List String :=
  if d.child.stdin = .writable then
    ({ d with child := { d.child with stdin := .ended } }, ["SHUTDOWN 1\n"])
  else (d, [])

/-- The `exit` event of the child. `status` is its exit code or its signal. -/
def childExit (status : String) (d : NativeTabDriver) : NativeTabDriver × List Settlement :=
  { d with child := { d.child with exited := true } }.fail
    ("native tab runtime exited (" ++ status ++ ")")

/-- The `error` event of the child. -/
def childError (message : String) (d : NativeTabDriver) : NativeTabDriver × List Settlement :=
  d.fail message

end NativeTabDriver

end Fireball.Tabs
