import Fireball.Foundation.Failing
import Fireball.Sandbox.Arguments

/-!
# The sandbox policy

What the wrapper asks of an argument file, said of its tokens: which of them
the loop looks at, what each must be, and what becomes of it.

* `turn_lawful`, `turn_ok`: one turn succeeds only on a lawful token, and what it then does;
* `scan_lawful`, `scan_ok`: the same of the loop, with everything it counts and writes;
* `rewriting_exact`: a file is accepted exactly when it satisfies the policy, and is then
  rewritten token by token.
-/

namespace Fireball.Sandbox

open Foundation

/-! ## What is scanned -/

/-- What follows a token: a `--proc` takes the next token along. -/
def remaining (token : Bytes) (rest : List Bytes) : List Bytes :=
  if token = utf8 "--proc" then rest.tail else rest

/-- The scanned tokens from left to right, each with all the tokens behind it. -/
def scanned : List Bytes → List (Bytes × List Bytes)
  | [] => []
  | [token] => [(token, [])]
  | token :: next :: rest =>
    (token, next :: rest) ::
      if token = utf8 "--proc" then scanned rest else scanned (next :: rest)

theorem scanned_cons (token : Bytes) (rest : List Bytes) :
    scanned (token :: rest) = (token, rest) :: scanned (remaining token rest) := by
  cases rest with
  | nil => simp [scanned, remaining]
  | cons next rest =>
      rw [scanned, remaining]
      split <;> rfl

theorem remaining_length (token : Bytes) (rest : List Bytes) :
    (remaining token rest).length ≤ rest.length := by
  unfold remaining
  split
  · simp
  · exact Nat.le_refl _

/-- Induction over what is scanned. -/
theorem scanned_induction {motive : List Bytes → Prop} (nil : motive [])
    (cons : ∀ token rest, motive (remaining token rest) → motive (token :: rest)) :
    ∀ tokens, motive tokens := by
  intro tokens
  induction size : tokens.length using Nat.strongRecOn generalizing tokens with
  | ind n ih =>
      cases tokens with
      | nil => exact nil
      | cons token rest =>
          have shorter := remaining_length token rest
          exact cons token rest (ih _ (by simp only [List.length_cons] at size; omega) _ rfl)

/-- The scanned tokens by themselves. -/
def seen (tokens : List Bytes) : List Bytes := (scanned tokens).map Prod.fst

theorem seen_cons (token : Bytes) (rest : List Bytes) :
    seen (token :: rest) = token :: seen (remaining token rest) := by
  simp only [seen, scanned_cons, List.map_cons]

/-! ## The policy -/

def forbidden : List String :=
  ["--args", "--pidns", "--cap-add", "--cap-drop", "--not-a-security-boundary"]

/-- Options of which a file has exactly one. -/
def invariants : List String := ["--unshare-pid", "--proc", "--seccomp", "--unshare-uts"]

/-- One to ten decimal digits. -/
def Descriptor (token : Bytes) : Prop :=
  1 ≤ token.length ∧ token.length ≤ 10 ∧ ∀ digit ∈ token, 48 ≤ digit ∧ digit ≤ 57

instance (token : Bytes) : Decidable (Descriptor token) :=
  inferInstanceAs (Decidable (_ ∧ _ ∧ _))

theorem numericFd_iff {token : Bytes} : numericFd token = true ↔ Descriptor token := by
  simp only [numericFd, Descriptor, Bool.and_eq_true, Bool.not_eq_true', Bool.or_eq_false_iff,
    decide_eq_false_iff_not, List.all_eq_true, decide_eq_true_eq]
  constructor
  · rintro ⟨⟨some, short⟩, digits⟩
    exact ⟨by omega, by omega, digits⟩
  · rintro ⟨some, short, digits⟩
    exact ⟨⟨by omega, by omega⟩, digits⟩

/-- What the policy asks of a scanned token and the tokens behind it. -/
structure Lawful (token : Bytes) (rest : List Bytes) : Prop where
  nonempty : token ≠ []
  allowed : token ∉ forbidden.map utf8
  procfs : token = utf8 "--proc" → rest.head? = some (utf8 "/proc")
  descriptor : token = utf8 "--seccomp" → ∃ next ∈ rest.head?, Descriptor next

def AllLawful (tokens : List Bytes) : Prop := ∀ s ∈ scanned tokens, Lawful s.1 s.2

theorem allLawful_cons {token : Bytes} {rest : List Bytes} :
    AllLawful (token :: rest) ↔ Lawful token rest ∧ AllLawful (remaining token rest) := by
  simp only [AllLawful, scanned_cons, List.forall_mem_cons]

/-- A file the wrapper is meant to accept. -/
structure Policy (input : Bytes) : Prop where
  bounded : 1 ≤ input.length ∧ input.length ≤ 1048576
  ended : input.getLast? = some 0
  nonempty : ∀ token ∈ partsOf 0 input, token ≠ []
  allowed : ∀ s ∈ scanned (partsOf 0 input), s.1 ∉ forbidden.map utf8
  destinations : ∀ s ∈ scanned (partsOf 0 input),
    s.1 = utf8 "--proc" → s.2.head? = some (utf8 "/proc")
  descriptors : ∀ s ∈ scanned (partsOf 0 input),
    s.1 = utf8 "--seccomp" → ∃ next ∈ s.2.head?, Descriptor next
  once : ∀ option ∈ invariants, (seen (partsOf 0 input)).count (utf8 option) = 1

instance (input : Bytes) : Decidable (Policy input) :=
  decidable_of_iff
    ((1 ≤ input.length ∧ input.length ≤ 1048576) ∧ input.getLast? = some 0 ∧
      (∀ token ∈ partsOf 0 input, token ≠ []) ∧
      (∀ s ∈ scanned (partsOf 0 input), s.1 ∉ forbidden.map utf8) ∧
      (∀ s ∈ scanned (partsOf 0 input),
        s.1 = utf8 "--proc" → s.2.head? = some (utf8 "/proc")) ∧
      (∀ s ∈ scanned (partsOf 0 input),
        s.1 = utf8 "--seccomp" → ∃ next ∈ s.2.head?, Descriptor next) ∧
      ∀ option ∈ invariants, (seen (partsOf 0 input)).count (utf8 option) = 1)
    ⟨fun ⟨a, b, c, d, e, f, g⟩ => ⟨a, b, c, d, e, f, g⟩,
      fun ⟨a, b, c, d, e, f, g⟩ => ⟨a, b, c, d, e, f, g⟩⟩

theorem scanned_mem (tokens : List Bytes) : ∀ s ∈ scanned tokens, s.1 ∈ tokens := by
  induction tokens using scanned_induction with
  | nil => exact fun s mem => nomatch mem
  | cons token rest ih =>
      intro s mem
      rw [scanned_cons] at mem
      rcases List.mem_cons.mp mem with rfl | mem
      · exact List.mem_cons_self
      · have inside : ∀ t ∈ remaining token rest, t ∈ rest := by
          unfold remaining
          split
          · exact fun t => List.mem_of_mem_tail
          · exact fun t => id
        exact List.mem_cons_of_mem _ (inside _ (ih s mem))

theorem Policy.lawful {input : Bytes} (h : Policy input) : AllLawful (partsOf 0 input) :=
  fun s mem => ⟨h.nonempty _ (scanned_mem _ s mem), h.allowed s mem, h.destinations s mem,
    h.descriptors s mem⟩

/-! What a `--proc` takes along is `/proc`, so the other tokens are all scanned. -/

theorem tail_of_proc {token : Bytes} {rest : List Bytes} (lawful : Lawful token rest) :
    rest = (if token = utf8 "--proc" then [utf8 "/proc"] else []) ++ remaining token rest := by
  unfold remaining
  split
  · next proc =>
      obtain ⟨rest, rfl⟩ := List.head?_eq_some_iff.mp (lawful.procfs proc)
      rfl
  · rfl

theorem mem_seen {tokens : List Bytes} (lawful : AllLawful tokens) :
    ∀ token ∈ tokens, token ∈ seen tokens ∨ token = utf8 "/proc" := by
  induction tokens using scanned_induction with
  | nil => exact fun token mem => nomatch mem
  | cons first rest ih =>
      obtain ⟨here, others⟩ := allLawful_cons.mp lawful
      intro token mem
      rw [seen_cons]
      rcases List.mem_cons.mp mem with rfl | mem
      · exact .inl List.mem_cons_self
      · rw [tail_of_proc here] at mem
        rcases List.mem_append.mp mem with taken | mem
        · split at taken
          · exact .inr (List.mem_singleton.mp taken)
          · cases taken
        · exact (ih others token mem).imp_left (List.mem_cons_of_mem _)

theorem count_seen {tokens : List Bytes} {token : Bytes} (lawful : AllLawful tokens)
    (other : token ≠ utf8 "/proc") : tokens.count token = (seen tokens).count token := by
  induction tokens using scanned_induction with
  | nil => rfl
  | cons first rest ih =>
      obtain ⟨here, others⟩ := allLawful_cons.mp lawful
      have taken :
          (if first = utf8 "--proc" then [utf8 "/proc"] else []).count token = 0 := by
        split
        · exact List.count_eq_zero.mpr (by simpa using other)
        · rfl
      rw [seen_cons, List.count_cons, List.count_cons, ← ih others]
      conv_lhs => rw [tail_of_proc here, List.count_append, taken, Nat.zero_add]

theorem AllLawful.nonempty {tokens : List Bytes} (lawful : AllLawful tokens) :
    ∀ token ∈ tokens, token ≠ [] := by
  intro token mem
  rcases mem_seen lawful token mem with scanned | rfl
  · obtain ⟨s, found, rfl⟩ := List.mem_map.mp scanned
    exact (lawful s found).nonempty
  · decide

/-- What a scanned token becomes. -/
def replacement (token : Bytes) : List Bytes :=
  if token = utf8 "--unshare-pid" then []
  else if token = utf8 "--proc" then [utf8 "--ro-bind", utf8 "/proc", utf8 "/proc"]
  else [token]

def rewritten (tokens : List Bytes) : List Bytes := (seen tokens).flatMap replacement

theorem rewritten_cons (token : Bytes) (rest : List Bytes) :
    rewritten (token :: rest) = replacement token ++ rewritten (remaining token rest) := by
  simp only [rewritten, seen_cons, List.flatMap_cons]

example : rewritten (["--unshare-uts", "--proc", "/proc", "--unshare-pid", "--seccomp", "7"].map
    utf8) = ["--unshare-uts", "--ro-bind", "/proc", "/proc", "--seccomp", "7"].map utf8 := by
  decide

/-! ## Writing several tokens -/

def appendAll (capacity : Nat) (output : Output) (tokens : List Bytes) : Except Failure Output :=
  tokens.foldlM (appendToken capacity) output

theorem appendAll_append {capacity : Nat} {output : Output} {tokens more : List Bytes} :
    appendAll capacity output (tokens ++ more) =
      appendAll capacity output tokens >>= fun next => appendAll capacity next more :=
  List.foldlM_append

theorem appendAll_fits {capacity : Nat} (tokens : List Bytes) (nonempty : ∀ t ∈ tokens, t ≠ []) :
    ∀ {output : Output} {bytes : Bytes}, output.Holds bytes →
      output.length + (terminated 0 tokens).length ≤ capacity →
      ∃ next, appendAll capacity output tokens = .ok next := by
  induction tokens with
  | nil => exact fun _ _ => ⟨_, rfl⟩
  | cons token tokens ih =>
      intro output bytes held room
      simp only [terminated_cons, List.length_append, List.length_cons] at room
      have fits : output.length + token.length + 1 ≤ capacity := by omega
      obtain ⟨first, ok⟩ := appendToken_fits.mpr ⟨nonempty token List.mem_cons_self, fits⟩
      have holds := appendToken_holds held ok
      have size := holds.1
      have before := held.1
      simp only [List.length_append, terminated_cons, terminated_nil, List.length_cons,
        List.length_nil] at size
      have left : first.length + (terminated 0 tokens).length ≤ capacity := by omega
      obtain ⟨next, rest⟩ := ih (fun t mem => nonempty t (List.mem_cons_of_mem _ mem)) holds left
      exact ⟨next, by rw [appendAll, List.foldlM_cons, ok]; exact rest⟩

theorem appendAll_holds {capacity : Nat} (tokens : List Bytes) :
    ∀ {output next : Output} {bytes : Bytes}, output.Holds bytes →
      appendAll capacity output tokens = .ok next →
      next.Holds (bytes ++ terminated 0 tokens) := by
  induction tokens with
  | nil =>
      intro output next bytes held ok
      cases ok
      simpa using held
  | cons token tokens ih =>
      intro output next bytes held ok
      rw [appendAll, List.foldlM_cons] at ok
      cases call : appendToken capacity output token with
      | error failure => rw [call] at ok; cases ok
      | ok first =>
          rw [call] at ok
          simpa using ih (appendToken_holds held call) ok

/-! ## One turn -/

/-- What a turn reads. -/
def consumed (token : Bytes) (rest : List Bytes) : List Bytes :=
  if token = utf8 "--proc" then token :: rest.take 1 else [token]

theorem consumed_remaining (token : Bytes) (rest : List Bytes) :
    consumed token rest ++ remaining token rest = token :: rest := by
  unfold consumed remaining
  split
  · cases rest <;> rfl
  · rfl

/-- The state after what is scanned of `tokens`, with the output written by then. -/
def Scan.after (s : Scan) (read seen : List Bytes) (output : Output) : Scan where
  output := output
  position := s.position + (terminated 0 read).length
  unsharePidCount := s.unsharePidCount + seen.count (utf8 "--unshare-pid")
  procCount := s.procCount + seen.count (utf8 "--proc")
  seccompCount := s.seccompCount + seen.count (utf8 "--seccomp")
  unshareUtsCount := s.unshareUtsCount + seen.count (utf8 "--unshare-uts")

/-- Where the next token is read, and what follows it. -/
structure At (input : Bytes) (position : Nat) (tokens : List Bytes) : Prop where
  here : input.drop position = terminated 0 tokens
  free : ∀ token ∈ tokens, 0 ∉ token

theorem At.move {input : Bytes} {position : Nat} (read : List Bytes) {tokens : List Bytes}
    (h : At input position (read ++ tokens)) :
    At input (position + (terminated 0 read).length) tokens where
  here := drop_terminated h.here
  free token mem := h.free token (List.mem_append_right read mem)

theorem At.next {input : Bytes} {position : Nat} {token : Bytes} {rest : List Bytes}
    (h : At input position (token :: rest)) (nonempty : token ≠ []) (output : Output) :
    nextToken input position output = .ok (token, position + token.length + 1) := by
  rw [nextToken_cons h.here (h.free token List.mem_cons_self), if_neg nonempty]

theorem At.behind {input : Bytes} {position : Nat} {token : Bytes} {rest : List Bytes}
    (h : At input position (token :: rest)) : At input (position + token.length + 1) rest := by
  have moved := At.move [token] h
  simpa [Nat.add_assoc] using moved

theorem scanToken_allowed {input : Bytes} {capacity : Nat} {s : Scan} {token : Bytes}
    {afterToken : Nat} (allowed : token ∉ forbidden.map utf8) :
    scanToken input capacity s token afterToken =
      if tokenEquals token "--unshare-pid" then
        .ok { s with unsharePidCount := s.unsharePidCount + 1, position := afterToken }
      else if tokenEquals token "--proc" then scanProc input capacity s afterToken
      else if tokenEquals token "--seccomp" then scanSeccomp input capacity s token afterToken
      else appendScanned capacity s token afterToken := by
  have refused : ∀ name ∈ forbidden, tokenEquals token name = false := by
    intro name mem
    have other : token ≠ utf8 name :=
      fun same => allowed (same ▸ List.mem_map_of_mem mem)
    exact decide_eq_false other
  simp only [forbidden, List.forall_mem_cons] at refused
  obtain ⟨args, pidns, add, drop, boundary, -⟩ := refused
  simp only [scanToken, args, pidns, add, drop, boundary, Bool.or_self, Bool.false_eq_true,
    if_false]

theorem replacement_proc :
    replacement (utf8 "--proc") = [utf8 "--ro-bind", utf8 "/proc", utf8 "/proc"] := by
  simp [replacement, utf8_inj]

theorem scanProc_lawful {input : Bytes} {capacity : Nat} {s : Scan} {position : Nat}
    {rest : List Bytes} (h : At input position rest) (procfs : rest.head? = some (utf8 "/proc")) :
    scanProc input capacity s position =
      (appendAll capacity s.output (replacement (utf8 "--proc"))).map fun output =>
        { s with
          procCount := s.procCount + 1, output,
          position := position + (terminated 0 (rest.take 1)).length } := by
  obtain ⟨rest, rfl⟩ := List.head?_eq_some_iff.mp procfs
  have nonempty : utf8 "/proc" ≠ [] := by decide
  have destination := h.next nonempty s.output
  simp only [scanProc, destination, replacement_proc, appendAll, List.foldlM_cons, List.foldlM_nil,
    bind, Except.bind, tokenEquals_utf8, decide_true, Bool.not_true, Bool.false_eq_true, if_false]
  cases appendToken capacity s.output (utf8 "--ro-bind") with
  | error failure => rfl
  | ok first =>
      dsimp only
      cases appendToken capacity first (utf8 "/proc") with
      | error failure => rfl
      | ok second =>
          dsimp only
          cases appendToken capacity second (utf8 "/proc") with
          | error failure => rfl
          | ok third => simp [Except.map, pure, Except.pure, Nat.add_assoc]

theorem appendScanned_eq {capacity : Nat} {s : Scan} (token : Bytes) (position : Nat) :
    appendScanned capacity s token position =
      (appendAll capacity s.output [token]).map fun output =>
        { s with
          output, position,
          unshareUtsCount := s.unshareUtsCount + [token].count (utf8 "--unshare-uts") } := by
  by_cases uts : token = utf8 "--unshare-uts"
  · subst uts
    simp only [appendScanned, appendAll, List.foldlM_cons, List.foldlM_nil, bind, Except.bind,
      tokenEquals_utf8, decide_true, if_true]
    cases appendToken capacity s.output (utf8 "--unshare-uts") with
    | error failure => rfl
    | ok output => simp [Except.map, pure, Except.pure]
  · have other : tokenEquals token "--unshare-uts" = false := decide_eq_false uts
    simp only [appendScanned, appendAll, List.foldlM_cons, List.foldlM_nil, bind, Except.bind,
      other, Bool.false_eq_true, if_false]
    cases appendToken capacity s.output token with
    | error failure => rfl
    | ok output => simp [Except.map, pure, Except.pure, uts]

theorem scanSeccomp_lawful {input : Bytes} {capacity : Nat} {s : Scan} {token : Bytes}
    {position : Nat} {rest : List Bytes} (h : At input position rest)
    (descriptor : ∃ next ∈ rest.head?, Descriptor next) :
    scanSeccomp input capacity s token position =
      appendScanned capacity { s with seccompCount := s.seccompCount + 1 } token position := by
  obtain ⟨next, head, digits⟩ := descriptor
  obtain ⟨rest, rfl⟩ := List.head?_eq_some_iff.mp head
  have nonempty : next ≠ [] := by
    rintro rfl
    exact absurd digits.1 (by decide)
  have numeric := numericFd_iff.mpr digits
  simp only [scanSeccomp, h.next nonempty s.output, bind, Except.bind, numeric, Bool.not_true,
    Bool.false_eq_true, if_false]

theorem Scan.after_after (s : Scan) {read seen more later : List Bytes} {middle output : Output} :
    (s.after read seen middle).after more later output =
      s.after (read ++ more) (seen ++ later) output := by
  simp [Scan.after, Nat.add_assoc]

theorem turn_lawful {input : Bytes} {capacity : Nat} {s : Scan} {token : Bytes}
    {rest : List Bytes} (h : At input s.position (token :: rest)) (lawful : Lawful token rest) :
    turn input capacity s =
      (appendAll capacity s.output (replacement token)).map
        (s.after (consumed token rest) [token]) := by
  have split : turn input capacity s =
      scanToken input capacity s token (s.position + token.length + 1) := by
    simp only [turn, h.next lawful.nonempty s.output, bind, Except.bind]
  rw [split, scanToken_allowed lawful.allowed]
  by_cases pid : token = utf8 "--unshare-pid"
  · subst pid
    simp [replacement, appendAll, Except.map, pure, Except.pure, Scan.after, consumed, utf8_inj,
      Nat.add_assoc]
  by_cases proc : token = utf8 "--proc"
  · subst proc
    simp only [tokenEquals_utf8, String.reduceEq, decide_false, decide_true, Bool.false_eq_true,
      if_false, if_true, scanProc_lawful h.behind (lawful.procfs rfl)]
    refine congrArg (Except.map · _) (funext fun output => ?_)
    simp [Scan.after, consumed, utf8_inj, Nat.add_assoc]
    omega
  have plain : replacement token = [token] := by rw [replacement, if_neg pid, if_neg proc]
  have alone : consumed token rest = [token] := if_neg proc
  have not_pid : tokenEquals token "--unshare-pid" = false := decide_eq_false pid
  have not_proc : tokenEquals token "--proc" = false := decide_eq_false proc
  simp only [not_pid, not_proc, Bool.false_eq_true, if_false, plain, alone]
  by_cases seccomp : token = utf8 "--seccomp"
  · subst seccomp
    simp only [tokenEquals_utf8, decide_true, if_true,
      scanSeccomp_lawful h.behind (lawful.descriptor rfl), appendScanned_eq]
    refine congrArg (Except.map · _) (funext fun output => ?_)
    simp [Scan.after, utf8_inj, Nat.add_assoc]
  · have not_seccomp : tokenEquals token "--seccomp" = false := decide_eq_false seccomp
    simp only [not_seccomp, Bool.false_eq_true, if_false, appendScanned_eq]
    refine congrArg (Except.map · _) (funext fun output => ?_)
    simp [Scan.after, Nat.add_assoc, pid, proc, seccomp]

/-! What a turn that succeeds has checked. -/

theorem At.read {input : Bytes} {position after : Nat} {tokens : List Bytes} {output : Output}
    {token : Bytes} (h : At input position tokens)
    (ok : nextToken input position output = .ok (token, after)) :
    tokens.head? = some token ∧ token ≠ [] := by
  cases tokens with
  | nil =>
      obtain ⟨failure, failed⟩ := nextToken_nil output h.here
      rw [failed] at ok
      cases ok
  | cons first rest =>
      rw [nextToken_cons h.here (h.free first List.mem_cons_self)] at ok
      split at ok
      · cases ok
      · next nonempty =>
          cases ok
          exact ⟨rfl, nonempty⟩

theorem scanProc_ok {input : Bytes} {capacity : Nat} {s t : Scan} {position : Nat}
    {rest : List Bytes} (h : At input position rest)
    (ok : scanProc input capacity s position = .ok t) : rest.head? = some (utf8 "/proc") := by
  obtain ⟨⟨destination, after⟩, read, ok⟩ := bind_ok.mp ok
  dsimp only at ok
  split at ok
  · cases ok
  · next same =>
      rw [Bool.not_eq_true', Bool.not_eq_false, tokenEquals_iff] at same
      rw [(h.read read).1, same]

theorem scanSeccomp_ok {input : Bytes} {capacity : Nat} {s t : Scan} {token : Bytes}
    {position : Nat} {rest : List Bytes} (h : At input position rest)
    (ok : scanSeccomp input capacity s token position = .ok t) :
    ∃ next ∈ rest.head?, Descriptor next := by
  obtain ⟨⟨descriptor, after⟩, read, ok⟩ := bind_ok.mp ok
  dsimp only at ok
  split at ok
  · cases ok
  · next numeric =>
      rw [Bool.not_eq_true', Bool.not_eq_false, numericFd_iff] at numeric
      exact ⟨descriptor, (h.read read).1, numeric⟩

theorem scanToken_ok {input : Bytes} {capacity : Nat} {s t : Scan} {token : Bytes}
    {position : Nat} (ok : scanToken input capacity s token position = .ok t) :
    token ∉ forbidden.map utf8 := by
  intro mem
  obtain ⟨name, listed, rfl⟩ := List.mem_map.mp mem
  simp only [forbidden, List.mem_cons, List.not_mem_nil, or_false] at listed
  rcases listed with rfl | rfl | rfl | rfl | rfl <;> simp [scanToken, fail] at ok

theorem turn_ok {input : Bytes} {capacity : Nat} {s t : Scan} {token : Bytes}
    {rest : List Bytes} (h : At input s.position (token :: rest))
    (ok : turn input capacity s = .ok t) : Lawful token rest := by
  obtain ⟨⟨first, after⟩, read, ok⟩ := bind_ok.mp ok
  obtain ⟨head, nonempty⟩ := h.read read
  cases head
  rw [h.next nonempty] at read
  cases read
  dsimp only at ok
  have allowed := scanToken_ok ok
  rw [scanToken_allowed allowed] at ok
  refine ⟨nonempty, allowed, ?_, ?_⟩
  · rintro rfl
    simp only [tokenEquals_utf8, String.reduceEq, decide_false, decide_true, Bool.false_eq_true,
      if_false, if_true] at ok
    exact scanProc_ok h.behind ok
  · rintro rfl
    simp only [tokenEquals_utf8, String.reduceEq, decide_false, decide_true, Bool.false_eq_true,
      if_false, if_true] at ok
    exact scanSeccomp_ok h.behind ok

/-! ## The loop -/

theorem At.running {input : Bytes} {position : Nat} {tokens : List Bytes}
    (h : At input position tokens) : position < input.length ↔ tokens ≠ [] := by
  have size : input.length - position = (terminated 0 tokens).length := by
    rw [← h.here, List.length_drop]
  cases tokens with
  | nil =>
      rw [terminated_nil, List.length_nil] at size
      simpa using Nat.le_of_sub_eq_zero size
  | cons token rest =>
      rw [terminated_cons, List.length_append, List.length_cons] at size
      simp only [ne_eq, reduceCtorEq, not_false_eq_true, iff_true]
      omega

theorem At.advance {input : Bytes} {s : Scan} {token : Bytes} {rest : List Bytes}
    (h : At input s.position (token :: rest)) (output : Output) :
    At input (s.after (consumed token rest) [token] output).position (remaining token rest) := by
  rw [← consumed_remaining] at h
  exact h.move

theorem scan_lawful {input : Bytes} (capacity turns : Nat) :
    ∀ {s : Scan} {tokens : List Bytes}, tokens.length ≤ turns → At input s.position tokens →
      AllLawful tokens →
      scan input capacity turns s =
        (appendAll capacity s.output (rewritten tokens)).map (s.after tokens (seen tokens)) := by
  induction turns with
  | zero =>
      intro s tokens enough h lawful
      cases List.length_eq_zero_iff.mp (Nat.le_zero.mp enough)
      rfl
  | succ turns ih =>
      intro s tokens enough h lawful
      cases tokens with
      | nil =>
          have done : ¬ s.position < input.length := fun running => h.running.mp running rfl
          rw [scan, if_neg done]
          rfl
      | cons token rest =>
          obtain ⟨first, others⟩ := allLawful_cons.mp lawful
          have running := h.running.mpr (List.cons_ne_nil _ _)
          have fewer : (remaining token rest).length ≤ turns := by
            have kept := remaining_length token rest
            simp only [List.length_cons] at enough
            omega
          rw [scan, if_pos running, turn_lawful h first, rewritten_cons, appendAll_append]
          cases appendAll capacity s.output (replacement token) with
          | error failure => rfl
          | ok output =>
              have rest_scanned := ih fewer (h.advance output) others
              simp only [Except.map, bind, Except.bind] at rest_scanned ⊢
              rw [rest_scanned]
              simp only [Scan.after_after, consumed_remaining, seen_cons, List.singleton_append]
              rfl

/-- A loop that ends well has found every scanned token lawful. -/
theorem scan_ok {input : Bytes} {capacity : Nat} (turns : Nat) :
    ∀ {s t : Scan} {tokens : List Bytes}, tokens.length ≤ turns → At input s.position tokens →
      scan input capacity turns s = .ok t → AllLawful tokens := by
  induction turns with
  | zero =>
      intro s t tokens enough h ok
      cases List.length_eq_zero_iff.mp (Nat.le_zero.mp enough)
      intro found mem
      cases mem
  | succ turns ih =>
      intro s t tokens enough h ok
      cases tokens with
      | nil =>
          intro found mem
          cases mem
      | cons token rest =>
          rw [scan, if_pos (h.running.mpr (List.cons_ne_nil _ _))] at ok
          obtain ⟨next, turned, ok⟩ := bind_ok.mp ok
          have first := turn_ok h turned
          have fewer : (remaining token rest).length ≤ turns := by
            have kept := remaining_length token rest
            simp only [List.length_cons] at enough
            omega
          rw [turn_lawful h first] at turned
          cases written : appendAll capacity s.output (replacement token) with
          | error failure => rw [written] at turned; cases turned
          | ok output =>
              rw [written] at turned
              cases turned
              exact allLawful_cons.mpr ⟨first, ih fewer (h.advance output) ok⟩

/-! ## The whole file -/

/-- A `--proc` makes the output nine bytes longer, and nothing else makes it longer. -/
theorem rewritten_length {tokens : List Bytes} (lawful : AllLawful tokens) :
    (terminated 0 (rewritten tokens)).length ≤
      (terminated 0 tokens).length + 9 * (seen tokens).count (utf8 "--proc") := by
  induction tokens using scanned_induction with
  | nil => exact Nat.zero_le _
  | cons token rest ih =>
      obtain ⟨here, others⟩ := allLawful_cons.mp lawful
      have later := ih others
      have sizes : (utf8 "--proc").length = 6 ∧ (utf8 "/proc").length = 5 ∧
          (utf8 "--ro-bind").length = 9 := by decide
      obtain ⟨proc_size, path_size, bind_size⟩ := sizes
      have behind := congrArg (fun tokens => (terminated 0 tokens).length) (tail_of_proc here)
      simp only [terminated_append, List.length_append] at behind
      rw [rewritten_cons, seen_cons, List.count_cons, terminated_append, terminated_cons]
      by_cases proc : token = utf8 "--proc"
      · subst proc
        simp only [replacement_proc, if_true, terminated_cons, terminated_nil, List.length_append,
          List.length_cons, List.length_nil, BEq.rfl] at behind ⊢
        omega
      · have added : (terminated 0 (replacement token)).length ≤ token.length + 1 := by
          rw [replacement, if_neg proc]
          split
          · exact Nat.zero_le _
          · simp
        simp only [proc, if_false, List.length_append, List.length_cons, terminated_nil,
          List.length_nil, beq_iff_eq] at behind ⊢
        omega

theorem rewritten_nonempty {tokens : List Bytes} (lawful : AllLawful tokens) :
    ∀ token ∈ rewritten tokens, token ≠ [] := by
  intro token mem
  obtain ⟨first, scanned, mem⟩ := List.mem_flatMap.mp mem
  obtain ⟨s, found, rfl⟩ := List.mem_map.mp scanned
  unfold replacement at mem
  split at mem
  · cases mem
  split at mem
  · have written : ∀ t ∈ [utf8 "--ro-bind", utf8 "/proc", utf8 "/proc"], t ≠ [] := by
      decide
    exact written token mem
  · cases List.mem_singleton.mp mem
    exact (lawful s found).nonempty

theorem at_start {input : Bytes} (ended : input.getLast? = some 0) :
    At input Scan.start.position (partsOf 0 input) where
  here := (terminated_partsOf ended).symm
  free := partsOf_free input

theorem turns_enough {input : Bytes} (ended : input.getLast? = some 0) :
    (partsOf 0 input).length ≤ input.length := by
  have parts := parts_le_terminated 0 (partsOf 0 input)
  rwa [terminated_partsOf ended] at parts

theorem counters_iff {read tokens : List Bytes} {output : Output} :
    (¬ ((Scan.start.after read tokens output).unsharePidCount ≠ 1 ∨
        (Scan.start.after read tokens output).procCount ≠ 1 ∨
        (Scan.start.after read tokens output).seccompCount ≠ 1 ∨
        (Scan.start.after read tokens output).unshareUtsCount ≠ 1)) ↔
      ∀ option ∈ invariants, tokens.count (utf8 option) = 1 := by
  simp [Scan.after, Scan.start, invariants]

/-- What an accepted file satisfies, and what the output then is. -/
theorem rewrite_accepted {input : Bytes} {capacity : Nat} {output : Output}
    (ok : rewriteWebkitArguments input capacity = .ok output) :
    Policy input ∧ output.Holds (terminated 0 (rewritten (partsOf 0 input))) := by
  unfold rewriteWebkitArguments at ok
  split at ok
  · cases ok
  next sized =>
  obtain ⟨some, small, ended⟩ : input.length ≠ 0 ∧ input.length ≤ maximumArgumentBytes ∧
      input.getLast? = some 0 := by
    refine ⟨fun empty => sized (.inl empty), Nat.le_of_not_lt fun large => ?_, ?_⟩
    · exact sized (.inr (.inl large))
    · exact Classical.byContradiction fun other => sized (.inr (.inr other))
  obtain ⟨t, scanned, ok⟩ := bind_ok.mp ok
  have lawful := scan_ok _ (turns_enough ended) (at_start ended) scanned
  rw [scan_lawful _ _ (turns_enough ended) (at_start ended) lawful] at scanned
  cases written : appendAll capacity Scan.start.output (rewritten (partsOf 0 input)) with
  | error failure => rw [written] at scanned; cases scanned
  | ok final =>
      rw [written] at scanned
      cases scanned
      split at ok
      · cases ok
      next counted =>
      cases ok
      constructor
      · exact {
          bounded := ⟨Nat.one_le_iff_ne_zero.mpr some, small⟩
          ended := ended
          nonempty := lawful.nonempty
          allowed := fun s mem => (lawful s mem).allowed
          destinations := fun s mem => (lawful s mem).procfs
          descriptors := fun s mem => (lawful s mem).descriptor
          once := counters_iff.mp counted }
      · exact appendAll_holds _ holds_empty written

theorem rewrite_accepts {input : Bytes} (h : Policy input) :
    ∃ output, rewriteWebkitArguments input (input.length + 64) = .ok output := by
  have sized : ¬ (input.length = 0 ∨ maximumArgumentBytes < input.length ∨
      input.getLast? ≠ some 0) := by
    rintro (empty | large | other)
    · exact absurd h.bounded.1 (by omega)
    · exact absurd h.bounded.2 (Nat.not_le.mpr large)
    · exact other h.ended
  have one : (seen (partsOf 0 input)).count (utf8 "--proc") = 1 := h.once _ (by decide)
  have size := rewritten_length h.lawful
  rw [terminated_partsOf h.ended, one] at size
  have room : Output.empty.length + (terminated 0 (rewritten (partsOf 0 input))).length ≤
      input.length + 64 := by
    simp only [Output.empty]
    omega
  obtain ⟨output, written⟩ := appendAll_fits _ (rewritten_nonempty h.lawful) holds_empty room
  have scanned := scan_lawful (input.length + 64) _ (turns_enough h.ended) (at_start h.ended) h.lawful
  have start : Scan.start.output = Output.empty := rfl
  rw [start, written] at scanned
  refine ⟨output, ?_⟩
  rw [rewriteWebkitArguments, if_neg sized, scanned]
  exact if_neg (counters_iff.mpr h.once)

/-- The wrapper accepts exactly the files that satisfy the policy, and `input.length + 64`
bytes are always enough for them. An accepted file is rewritten token by token, and no
call writes beyond its output, whatever the input and the capacity. -/
theorem rewriting_exact (input : Bytes) :
    ((∃ output, rewriteWebkitArguments input (input.length + 64) = .ok output) ↔ Policy input) ∧
    (∀ capacity output, rewriteWebkitArguments input capacity = .ok output →
      output.Holds (terminated 0 (rewritten (partsOf 0 input)))) ∧
    ∀ capacity, (outputOf (rewriteWebkitArguments input capacity)).Within capacity := by
  refine ⟨⟨?_, rewrite_accepts⟩, ?_, ?_⟩
  · rintro ⟨output, ok⟩
    exact (rewrite_accepted ok).1
  · exact fun capacity output ok => (rewrite_accepted ok).2
  · exact rewriteWebkitArguments_within input

end Fireball.Sandbox
