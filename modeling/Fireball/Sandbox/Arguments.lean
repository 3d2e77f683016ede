import Fireball.Foundation.Bytes
import Fireball.Foundation.Terminated

/-!
# The argument file

`fireball-bwrap-wrapper.c` stands between WebKit and bubblewrap: it reads the
argument file WebKit sealed, checks what it asks for, and writes the file that
bubblewrap gets. A failure keeps what was written before it, so that the bound
of the output can be stated for every call.

* `nextToken_cons`: the next token of an input that is its tokens and their terminators;
* `appendToken_fits`, `appendToken_holds`: when a token fits, and what it adds;
* `rewriteWebkitArguments_within`: nothing is written outside the output.
-/

namespace Fireball.Sandbox

open Foundation

/-- `FIREBALL_MAX_ARGUMENT_BYTES`. -/
def maximumArgumentBytes : Nat := 1024 * 1024

/-- `output` and `*output_length`. A byte that was never written is `none`. -/
structure Output where
  written : Nat → Option UInt8
  length : Nat

def Output.empty : Output := ⟨fun _ => none, 0⟩

/-- What `fail` prints, and the output at that point. -/
structure Failure where
  message : String
  output : Output

def fail {α : Type} (output : Output) (message : String) : Except Failure α :=
  .error ⟨message, output⟩

def memcpy (written : Nat → Option UInt8) (start : Nat) (bytes : Bytes) : Nat → Option UInt8 :=
  fun i => if start ≤ i ∧ i < start + bytes.length then bytes[i - start]? else written i

def tokenEquals (token : Bytes) (expected : String) : Bool := token = utf8 expected

def numericFd (token : Bytes) : Bool :=
  !(token.length = 0 || 10 < token.length) && token.all fun digit => 48 ≤ digit && digit ≤ 57

def appendToken (capacity : Nat) (output : Output) (token : Bytes) : Except Failure Output :=
  if token.length = 0 ∨ capacity < output.length ∨ capacity - output.length ≤ token.length then
    fail output "rewritten argument file exceeds its bound"
  else
    let copied := memcpy output.written output.length token
    let length := output.length + token.length
    .ok ⟨memcpy copied length [0], length + 1⟩

/-- The token at `position`, and the position after its terminator. -/
def nextToken (input : Bytes) (position : Nat) (output : Output) : Except Failure (Bytes × Nat) :=
  if input.length ≤ position then
    fail output "argument file ended unexpectedly"
  else
    let start := input.drop position
    match start.idxOf? 0 with
    | none | some 0 => fail output "argument file contains a missing or empty terminator"
    | some tokenLength => .ok (start.take tokenLength, position + tokenLength + 1)

/-- The variables of the loop. The counters are `unsigned int`, and stay below
`maximumArgumentBytes`. -/
structure Scan where
  output : Output
  position : Nat
  unsharePidCount : Nat
  procCount : Nat
  seccompCount : Nat
  unshareUtsCount : Nat

def Scan.start : Scan := ⟨.empty, 0, 0, 0, 0, 0⟩

/-- The end of a turn: the token goes to the output as it is. -/
def appendScanned (capacity : Nat) (s : Scan) (token : Bytes) (afterToken : Nat) :
    Except Failure Scan := do
  let s := if tokenEquals token "--unshare-uts" then
    { s with unshareUtsCount := s.unshareUtsCount + 1 } else s
  let output ← appendToken capacity s.output token
  .ok { s with output, position := afterToken }

/-- `--proc`: its destination goes with it. -/
def scanProc (input : Bytes) (capacity : Nat) (s : Scan) (afterToken : Nat) :
    Except Failure Scan := do
  let (destination, afterDestination) ← nextToken input afterToken s.output
  if !tokenEquals destination "/proc" then
    fail s.output "WebKit procfs destination changed"
  else
    let output ← appendToken capacity s.output (utf8 "--ro-bind")
    let output ← appendToken capacity output (utf8 "/proc")
    let output ← appendToken capacity output (utf8 "/proc")
    .ok { s with procCount := s.procCount + 1, output, position := afterDestination }

/-- `--seccomp`: its descriptor is only looked at, and is the token of the next turn. -/
def scanSeccomp (input : Bytes) (capacity : Nat) (s : Scan) (token : Bytes) (afterToken : Nat) :
    Except Failure Scan := do
  let (descriptor, _) ← nextToken input afterToken s.output
  if !numericFd descriptor then
    fail s.output "WebKit seccomp descriptor is invalid"
  else
    appendScanned capacity { s with seccompCount := s.seccompCount + 1 } token afterToken

def scanToken (input : Bytes) (capacity : Nat) (s : Scan) (token : Bytes) (afterToken : Nat) :
    Except Failure Scan :=
  if tokenEquals token "--args" then
    fail s.output "nested --args is forbidden"
  else if tokenEquals token "--pidns" then
    fail s.output "an externally supplied PID namespace is forbidden"
  else if tokenEquals token "--cap-add" || tokenEquals token "--cap-drop"
      || tokenEquals token "--not-a-security-boundary" then
    fail s.output "capability or non-boundary overrides are forbidden"
  else if tokenEquals token "--unshare-pid" then
    .ok { s with unsharePidCount := s.unsharePidCount + 1, position := afterToken }
  else if tokenEquals token "--proc" then
    scanProc input capacity s afterToken
  else if tokenEquals token "--seccomp" then
    scanSeccomp input capacity s token afterToken
  else
    appendScanned capacity s token afterToken

/-- One turn of the loop. -/
def turn (input : Bytes) (capacity : Nat) (s : Scan) : Except Failure Scan := do
  let (token, afterToken) ← nextToken input s.position s.output
  scanToken input capacity s token afterToken

/-- The loop. Every turn moves the position on, so `input.length` turns are enough. -/
def scan (input : Bytes) (capacity : Nat) : Nat → Scan → Except Failure Scan
  | 0, s => .ok s
  | turns + 1, s => do
    if s.position < input.length then
      let next ← turn input capacity s
      scan input capacity turns next
    else
      .ok s

def rewriteWebkitArguments (input : Bytes) (capacity : Nat) : Except Failure Output :=
  if input.length = 0 ∨ maximumArgumentBytes < input.length ∨ input.getLast? ≠ some 0 then
    fail .empty "argument file is empty, oversized, or unterminated"
  else do
    let s ← scan input capacity input.length .start
    if s.unsharePidCount ≠ 1 ∨ s.procCount ≠ 1 ∨ s.seccompCount ≠ 1 ∨ s.unshareUtsCount ≠ 1 then
      fail s.output "WebKit sandbox invariants are missing or duplicated"
    else
      .ok s.output

/-- The output a call leaves, whether it fails or not. -/
def outputOf : Except Failure Output → Output
  | .ok output => output
  | .error failure => failure.output

/-! ## Tokens -/

theorem tokenEquals_iff {token : Bytes} {expected : String} :
    tokenEquals token expected = true ↔ token = utf8 expected := decide_eq_true_iff

@[simp] theorem tokenEquals_utf8 (s expected : String) :
    tokenEquals (utf8 s) expected = decide (s = expected) := by
  simp [tokenEquals, utf8_inj]

theorem nextToken_nil {input : Bytes} {position : Nat} (output : Output)
    (here : input.drop position = []) :
    ∃ failure, nextToken input position output = .error failure := by
  have past : input.length ≤ position := List.drop_eq_nil_iff.mp here
  exact ⟨_, by rw [nextToken, if_pos past]; rfl⟩

theorem nextToken_cons {input : Bytes} {position : Nat} {output : Output} {token : Bytes}
    {rest : List Bytes} (here : input.drop position = terminated 0 (token :: rest))
    (free : 0 ∉ token) :
    nextToken input position output =
      if token = [] then fail output "argument file contains a missing or empty terminator"
      else .ok (token, position + token.length + 1) := by
  have inside : ¬ input.length ≤ position := by
    intro past
    rw [List.drop_eq_nil_of_le past] at here
    simp at here
  rw [terminated_cons] at here
  simp only [nextToken, inside, if_false, here, idxOf_terminated free]
  cases token with
  | nil => rfl
  | cons x token => simp

theorem drop_terminated {input : Bytes} {position : Nat} {parts rest : List Bytes}
    (here : input.drop position = terminated 0 (parts ++ rest)) :
    input.drop (position + (terminated 0 parts).length) = terminated 0 rest := by
  rw [← List.drop_drop, here, terminated_append, List.drop_left]

/-! ## The output -/

/-- The output is these bytes. -/
def Output.Holds (output : Output) (bytes : Bytes) : Prop :=
  output.length = bytes.length ∧ ∀ i < output.length, output.written i = bytes[i]?

theorem holds_empty : Output.empty.Holds [] := ⟨rfl, fun _ inside => absurd inside (Nat.not_lt_zero _)⟩

theorem memcpy_holds {written : Nat → Option UInt8} {length : Nat} {bytes : Bytes} (more : Bytes)
    (h : Output.Holds ⟨written, length⟩ bytes) :
    Output.Holds ⟨memcpy written length more, length + more.length⟩ (bytes ++ more) := by
  obtain ⟨size, bytes_at⟩ := h
  refine ⟨by simpa using size, fun i inside => ?_⟩
  dsimp only at size bytes_at inside ⊢
  by_cases old : i < length
  · have below : ¬ (length ≤ i ∧ i < length + more.length) := by omega
    rw [memcpy, if_neg below, bytes_at i old, List.getElem?_append_left (by omega)]
  · have fresh : length ≤ i ∧ i < length + more.length := by omega
    rw [memcpy, if_pos fresh, List.getElem?_append_right (by omega), size]

theorem appendToken_holds {capacity : Nat} {output next : Output} {token bytes : Bytes}
    (h : output.Holds bytes) (ok : appendToken capacity output token = .ok next) :
    next.Holds (bytes ++ terminated 0 [token]) := by
  unfold appendToken at ok
  split at ok
  · cases ok
  · cases ok
    have both := memcpy_holds [0] (memcpy_holds token h)
    simpa using both

theorem appendToken_fits {capacity : Nat} {output : Output} {token : Bytes} :
    (∃ next, appendToken capacity output token = .ok next) ↔
      token ≠ [] ∧ output.length + token.length + 1 ≤ capacity := by
  have size : token ≠ [] ↔ token.length ≠ 0 := List.length_eq_zero_iff.symm.not
  rw [appendToken, size]
  split
  · next refused =>
      constructor
      · rintro ⟨_, ok⟩
        cases ok
      · intro fits
        omega
  · next fits =>
      constructor
      · intro
        omega
      · exact fun _ => ⟨_, rfl⟩

/-! ## The bound of the output -/

def Output.Within (capacity : Nat) (output : Output) : Prop :=
  ∀ i, capacity ≤ i → output.written i = none

/-- The output a call leaves is within its bound, whether the call fails or not. -/
def Bounded {α : Type} (capacity : Nat) (output : α → Output) : Except Failure α → Prop
  | .ok value => (output value).Within capacity
  | .error failure => failure.output.Within capacity

theorem Bounded.bind {α β : Type} {capacity : Nat} {output : α → Output} {final : β → Output}
    {call : Except Failure α} {next : α → Except Failure β} (h : Bounded capacity output call)
    (after : ∀ value, (output value).Within capacity → Bounded capacity final (next value)) :
    Bounded capacity final (call >>= next) := by
  cases call with
  | ok value => exact after value h
  | error failure => exact h

theorem memcpy_within {written : Nat → Option UInt8} {start : Nat} {bytes : Bytes} {capacity : Nat}
    (h : ∀ i, capacity ≤ i → written i = none) (fits : start + bytes.length ≤ capacity) :
    ∀ i, capacity ≤ i → memcpy written start bytes i = none := by
  intro i beyond
  have outside : ¬ (start ≤ i ∧ i < start + bytes.length) := by omega
  rw [memcpy, if_neg outside, h i beyond]

theorem appendToken_within {capacity : Nat} {output : Output} (token : Bytes)
    (h : output.Within capacity) : Bounded capacity id (appendToken capacity output token) := by
  unfold appendToken
  split
  · exact h
  · next fits =>
      have token_fits : output.length + token.length ≤ capacity := by omega
      exact memcpy_within (memcpy_within h token_fits) (by simp; omega)

theorem nextToken_within {capacity : Nat} {output : Output} (input : Bytes) (position : Nat)
    (h : output.Within capacity) :
    Bounded capacity (fun _ => output) (nextToken input position output) := by
  unfold nextToken
  split
  · exact h
  · dsimp only
    split <;> exact h

theorem appendScanned_within {capacity : Nat} {s : Scan} (token : Bytes) (afterToken : Nat)
    (h : s.output.Within capacity) :
    Bounded capacity Scan.output (appendScanned capacity s token afterToken) := by
  unfold appendScanned
  have kept : (if tokenEquals token "--unshare-uts" then
      { s with unshareUtsCount := s.unshareUtsCount + 1 } else s).output = s.output := by
    split <;> rfl
  rw [← kept] at h
  exact Bounded.bind (appendToken_within token h) fun output within => within

theorem scanProc_within {capacity : Nat} {s : Scan} (input : Bytes) (afterToken : Nat)
    (h : s.output.Within capacity) :
    Bounded capacity Scan.output (scanProc input capacity s afterToken) := by
  refine Bounded.bind (nextToken_within input _ h) fun (destination, afterDestination) _ => ?_
  dsimp only
  split
  · exact h
  · refine Bounded.bind (appendToken_within _ h) fun first within => ?_
    refine Bounded.bind (appendToken_within _ within) fun second within => ?_
    refine Bounded.bind (appendToken_within _ within) fun third within => ?_
    exact within

theorem scanSeccomp_within {capacity : Nat} {s : Scan} (input token : Bytes) (afterToken : Nat)
    (h : s.output.Within capacity) :
    Bounded capacity Scan.output (scanSeccomp input capacity s token afterToken) := by
  refine Bounded.bind (nextToken_within input _ h) fun (descriptor, _) _ => ?_
  dsimp only
  split
  · exact h
  · exact appendScanned_within token afterToken h

theorem turn_within {capacity : Nat} {s : Scan} (input : Bytes) (h : s.output.Within capacity) :
    Bounded capacity Scan.output (turn input capacity s) := by
  refine Bounded.bind (nextToken_within input _ h) fun (token, afterToken) _ => ?_
  dsimp only
  unfold scanToken
  split; · exact h
  split; · exact h
  split; · exact h
  split; · exact h
  split; · exact scanProc_within input afterToken h
  split; · exact scanSeccomp_within input token afterToken h
  exact appendScanned_within token afterToken h

theorem scan_within {capacity : Nat} (input : Bytes) (turns : Nat) :
    ∀ {s : Scan}, s.output.Within capacity →
      Bounded capacity Scan.output (scan input capacity turns s) := by
  induction turns with
  | zero => exact fun h => h
  | succ turns ih =>
      intro s h
      unfold scan
      split
      · exact Bounded.bind (turn_within input h) fun next within => ih within
      · exact h

theorem rewriteWebkitArguments_within (input : Bytes) (capacity : Nat) :
    (outputOf (rewriteWebkitArguments input capacity)).Within capacity := by
  have bounded : Bounded capacity id (rewriteWebkitArguments input capacity) := by
    unfold rewriteWebkitArguments
    split
    · exact fun _ _ => rfl
    · refine Bounded.bind (scan_within input _ fun _ _ => rfl) fun s within => ?_
      split <;> exact within
  cases call : rewriteWebkitArguments input capacity with
  | ok output => rwa [call] at bounded
  | error failure => rwa [call] at bounded

end Fireball.Sandbox
