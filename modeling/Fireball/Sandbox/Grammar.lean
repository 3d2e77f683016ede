import Fireball.Sandbox.Policy

/-!
# What bubblewrap reads

Bubblewrap tells options from operands by their position, and the wrapper tells
tokens by their spelling. The two agree on a file in which no operand is spelled
like one of the options the wrapper counts.

* `Reads`: the options of a file and their operands, by a table of how many each takes;
* `rewritten_reads`: bubblewrap's reading of a rewritten file;
* `meaning_exact`: the wrapper's check means what it says exactly when no operand is
  spelled like an option it counts.
-/

namespace Fireball.Sandbox

open Foundation

/-- An option and its operands. -/
structure Op where
  name : Bytes
  operands : List Bytes
  deriving DecidableEq

/-- Bubblewrap's options, with the number of operands of each. -/
abbrev Arity := Bytes → Option Nat

structure Bubblewrap (arity : Arity) : Prop where
  setenv : arity (utf8 "--setenv") = some 2
  mounts : ∀ name ∈ ["--bind", "--ro-bind"], arity (utf8 name) = some 2
  single : ∀ name ∈ ["--seccomp", "--proc"], arity (utf8 name) = some 1
  flags : ∀ name ∈ ["--unshare-pid", "--unshare-uts"], arity (utf8 name) = some 0

/-- Reading from left to right, every option takes its operands whatever their spelling. -/
inductive Reads (arity : Arity) : List Bytes → List Op → Prop
  | nil : Reads arity [] []
  | option {op : Op} {rest : List Bytes} {ops : List Op}
      (known : arity op.name = some op.operands.length) (after : Reads arity rest ops) :
      Reads arity (op.name :: (op.operands ++ rest)) (op :: ops)

theorem Reads.unique {arity : Arity} {tokens : List Bytes} {ops : List Op}
    (h : Reads arity tokens ops) : ∀ {others : List Op}, Reads arity tokens others → ops = others := by
  induction h with
  | nil =>
      intro others other
      cases other
      rfl
  | @option op rest ops known after ih =>
      intro others other
      generalize same : op.name :: (op.operands ++ rest) = tokens at other
      cases other with
      | nil => cases same
      | @option first left later first_known first_after =>
          obtain ⟨name, tail⟩ := List.cons.inj same
          rw [name, first_known] at known
          have sizes := Option.some.inj known
          obtain ⟨operands, rests⟩ := List.append_inj tail sizes.symm
          subst rests
          have ops_same : op = first := by
            cases op
            cases first
            simp_all
          rw [ops_same, ih first_after]

theorem Reads.append {arity : Arity} {tokens more : List Bytes} {ops later : List Op}
    (h : Reads arity tokens ops) (after : Reads arity more later) :
    Reads arity (tokens ++ more) (ops ++ later) := by
  induction h with
  | nil => exact after
  | option known _ ih =>
      rw [List.cons_append, List.append_assoc]
      exact .option known ih

theorem Reads.single {arity : Arity} (op : Op) (known : arity op.name = some op.operands.length) :
    Reads arity (op.name :: op.operands) [op] := by
  have read := Reads.option known .nil
  rwa [List.append_nil] at read

/-- Every occurrence of a token is an option or an operand. -/
theorem Reads.count {arity : Arity} {tokens : List Bytes} {ops : List Op} (token : Bytes)
    (h : Reads arity tokens ops) :
    tokens.count token =
      (ops.map Op.name).count token + (ops.flatMap Op.operands).count token := by
  induction h with
  | nil => rfl
  | option _ _ ih =>
      simp only [List.count_cons, List.count_append, List.map_cons, List.flatMap_cons, ih]
      omega

/-! ## What the rewriting is meant to do -/

/-- `--unshare-pid` is gone, and `--proc /proc` is `--ro-bind /proc /proc`. -/
def Op.rewritten (op : Op) : List Op :=
  if op.name = utf8 "--unshare-pid" then []
  else if op = ⟨utf8 "--proc", [utf8 "/proc"]⟩ then
    [⟨utf8 "--ro-bind", [utf8 "/proc", utf8 "/proc"]⟩]
  else [op]

def Output.bytes (output : Output) : Bytes :=
  (List.range output.length).map fun i => (output.written i).getD 0

/-- What the check is for: the options bubblewrap reads from the input and from the output. -/
structure Faithful (arity : Arity) (ops : List Op) (output : Output) : Prop where
  once : ∀ option ∈ invariants, (ops.map Op.name).count (utf8 option) = 1
  procfs : ⟨utf8 "--proc", [utf8 "/proc"]⟩ ∈ ops
  same : Reads arity (partsOf 0 output.bytes) (ops.flatMap Op.rewritten)

/-- No operand is spelled like an option that the wrapper counts. -/
def Plain (ops : List Op) : Prop :=
  ∀ op ∈ ops, ∀ operand ∈ op.operands, operand ∉ invariants.map utf8

instance (ops : List Op) : Decidable (Plain ops) :=
  inferInstanceAs (Decidable (∀ op ∈ ops, ∀ operand ∈ op.operands, _))

/-! ## Counting -/

theorem invariant_other : ∀ option ∈ invariants, utf8 option ≠ utf8 "/proc" := by
  intro option mem
  simp only [invariants, List.mem_cons, List.not_mem_nil, or_false] at mem
  rcases mem with rfl | rfl | rfl | rfl <;> simp [utf8_inj]

/-- An option that is scanned once is an option of bubblewrap's once when no operand is
spelled like it. -/
theorem once_iff {arity : Arity} {tokens : List Bytes} {ops : List Op} {option : String}
    (listed : option ∈ invariants) (lawful : AllLawful tokens) (read : Reads arity tokens ops)
    (one : (seen tokens).count (utf8 option) = 1) :
    (ops.map Op.name).count (utf8 option) = 1 ↔ utf8 option ∉ ops.flatMap Op.operands := by
  have split := read.count (utf8 option)
  rw [count_seen lawful (invariant_other option listed), one] at split
  rw [← List.count_eq_zero]
  omega

theorem plain_iff {ops : List Op} :
    Plain ops ↔ ∀ option ∈ invariants, utf8 option ∉ ops.flatMap Op.operands := by
  constructor
  · intro plain option listed mem
    obtain ⟨op, found, operand⟩ := List.mem_flatMap.mp mem
    exact plain op found _ operand (List.mem_map_of_mem listed)
  · intro apart op found operand mem spelled
    obtain ⟨option, listed, rfl⟩ := List.mem_map.mp spelled
    exact apart option listed (List.mem_flatMap.mpr ⟨op, found, mem⟩)

/-! ## Reading a rewritten file -/

/-- Tokens that are neither removed nor replaced. -/
theorem kept_operands {operands : List Bytes} (rest : List Bytes)
    (kept : ∀ t ∈ operands, t ≠ utf8 "--unshare-pid" ∧ t ≠ utf8 "--proc") :
    (AllLawful (operands ++ rest) → AllLawful rest) ∧
      rewritten (operands ++ rest) = operands ++ rewritten rest := by
  induction operands with
  | nil => exact ⟨id, rfl⟩
  | cons token operands ih =>
      obtain ⟨⟨pid, proc⟩, others⟩ := List.forall_mem_cons.mp kept
      obtain ⟨lawful, same⟩ := ih others
      have onward : remaining token (operands ++ rest) = operands ++ rest := if_neg proc
      constructor
      · intro all
        rw [List.cons_append] at all
        have behind := (allLawful_cons.mp all).2
        rw [onward] at behind
        exact lawful behind
      · rw [List.cons_append, rewritten_cons, onward, same, replacement, if_neg pid, if_neg proc]
        rfl

theorem Plain.kept {op : Op} {ops : List Op} (plain : Plain (op :: ops)) :
    ∀ t ∈ op.operands, t ≠ utf8 "--unshare-pid" ∧ t ≠ utf8 "--proc" := by
  intro t mem
  have other := plain op List.mem_cons_self t mem
  constructor
  · rintro rfl
    exact other (List.mem_map_of_mem (by decide))
  · rintro rfl
    exact other (List.mem_map_of_mem (by decide))

/-- One option of a lawful file, and what the rewriting makes of it. -/
theorem option_rewritten {arity : Arity} (known : Bubblewrap arity) {op : Op} {ops : List Op}
    {rest : List Bytes} (taken : arity op.name = some op.operands.length)
    (plain : Plain (op :: ops)) (lawful : AllLawful (op.name :: (op.operands ++ rest))) :
    (op.name = utf8 "--proc" → op.operands = [utf8 "/proc"]) ∧ AllLawful rest ∧
      ∃ tokens, rewritten (op.name :: (op.operands ++ rest)) = tokens ++ rewritten rest ∧
        Reads arity tokens op.rewritten := by
  obtain ⟨name, operands⟩ := op
  dsimp only at taken lawful ⊢
  obtain ⟨here, behind⟩ := allLawful_cons.mp lawful
  have kept := kept_operands rest plain.kept
  dsimp only at kept
  by_cases proc : name = utf8 "--proc"
  · subst proc
    rw [known.single _ (by decide)] at taken
    obtain ⟨destination, rfl⟩ := List.length_eq_one_iff.mp (Option.some.inj taken).symm
    have same : destination = utf8 "/proc" := by simpa using here.procfs rfl
    subst same
    refine ⟨fun _ => rfl, by simpa [remaining] using behind,
      [utf8 "--ro-bind", utf8 "/proc", utf8 "/proc"], ?_, ?_⟩
    · rw [rewritten_cons, replacement_proc]
      simp [remaining]
    · have apart : utf8 "--proc" ≠ utf8 "--unshare-pid" := by simp [utf8_inj]
      rw [Op.rewritten, if_neg apart, if_pos rfl]
      exact Reads.single ⟨utf8 "--ro-bind", [utf8 "/proc", utf8 "/proc"]⟩ (known.mounts _ (by decide))
  · have onward : remaining name (operands ++ rest) = operands ++ rest := if_neg proc
    rw [onward] at behind
    refine ⟨fun same => absurd same proc, kept.1 behind, ?_⟩
    rw [rewritten_cons, onward, kept.2]
    by_cases pid : name = utf8 "--unshare-pid"
    · subst pid
      rw [known.flags _ (by decide)] at taken
      obtain rfl := List.length_eq_zero_iff.mp (Option.some.inj taken).symm
      refine ⟨[], by simp [replacement], ?_⟩
      rw [Op.rewritten, if_pos rfl]
      exact .nil
    · have other : (⟨name, operands⟩ : Op) ≠ ⟨utf8 "--proc", [utf8 "/proc"]⟩ :=
        fun same => proc (congrArg Op.name same)
      refine ⟨name :: operands, by simp [replacement, pid, proc], ?_⟩
      rw [Op.rewritten, if_neg pid, if_neg other]
      exact Reads.single ⟨name, operands⟩ taken

theorem rewritten_reads {arity : Arity} (known : Bubblewrap arity) {tokens : List Bytes}
    {ops : List Op} (read : Reads arity tokens ops) (plain : Plain ops)
    (lawful : AllLawful tokens) :
    (∀ op ∈ ops, op.name = utf8 "--proc" → op.operands = [utf8 "/proc"]) ∧
      Reads arity (rewritten tokens) (ops.flatMap Op.rewritten) := by
  induction read with
  | nil =>
      constructor
      · intro op mem
        cases mem
      · exact .nil
  | option taken after ih =>
      obtain ⟨first, behind, written, split, reads⟩ := option_rewritten known taken plain lawful
      obtain ⟨others, later⟩ := ih (fun op mem => plain op (List.mem_cons_of_mem _ mem)) behind
      refine ⟨List.forall_mem_cons.mpr ⟨first, others⟩, ?_⟩
      rw [split, List.flatMap_cons]
      exact reads.append later

/-! ## The tokens of the output -/

theorem Output.Holds.bytes {output : Output} {bytes : Bytes} (h : output.Holds bytes) :
    output.bytes = bytes := by
  obtain ⟨size, written⟩ := h
  apply List.ext_getElem
  · simpa [Output.bytes] using size
  · intro i inside other
    have below : i < output.length := by omega
    simp [Output.bytes, written i below, other]

theorem rewritten_free {tokens : List Bytes} (free : ∀ token ∈ tokens, 0 ∉ token) :
    ∀ token ∈ rewritten tokens, 0 ∉ token := by
  intro token mem
  obtain ⟨first, scanned, mem⟩ := List.mem_flatMap.mp mem
  obtain ⟨s, found, rfl⟩ := List.mem_map.mp scanned
  unfold replacement at mem
  split at mem
  · cases mem
  split at mem
  · have written : ∀ t ∈ [utf8 "--ro-bind", utf8 "/proc", utf8 "/proc"], 0 ∉ t := by
      decide
    exact written token mem
  · cases List.mem_singleton.mp mem
    exact free _ (scanned_mem _ s found)

theorem rewritten_ne_nil {tokens : List Bytes} (one : (seen tokens).count (utf8 "--seccomp") = 1) :
    rewritten tokens ≠ [] := by
  have mem : utf8 "--seccomp" ∈ seen tokens := List.count_pos_iff.mp (by omega)
  have kept : utf8 "--seccomp" ∈ rewritten tokens :=
    List.mem_flatMap.mpr ⟨_, mem, by simp [replacement, utf8_inj]⟩
  exact List.ne_nil_of_mem kept

theorem output_tokens {input : Bytes} {capacity : Nat} {output : Output}
    (ok : rewriteWebkitArguments input capacity = .ok output) :
    partsOf 0 output.bytes = rewritten (partsOf 0 input) := by
  obtain ⟨policy, holds⟩ := rewrite_accepted ok
  rw [holds.bytes]
  exact partsOf_terminated (rewritten_free (partsOf_free input))
    (rewritten_ne_nil (policy.once _ (by decide)))

/-! ## Files -/

/-- The argument file of some options. -/
def file (ops : List Op) : Bytes := terminated 0 (ops.flatMap fun op => op.name :: op.operands)

theorem reads_file {arity : Arity} {ops : List Op}
    (known : ∀ op ∈ ops, arity op.name = some op.operands.length) :
    Reads arity (ops.flatMap fun op => op.name :: op.operands) ops := by
  induction ops with
  | nil => exact .nil
  | cons op ops ih =>
      obtain ⟨first, others⟩ := List.forall_mem_cons.mp known
      rw [List.flatMap_cons, List.cons_append]
      exact .option first (ih others)

/-- The options the policy is about, and those that come with them. -/
def listed : Arity := fun name =>
  if name ∈ ["--setenv", "--bind", "--ro-bind"].map utf8 then some 2
  else if name ∈ ["--seccomp", "--proc"].map utf8 then some 1
  else if name ∈ ["--unshare-pid", "--unshare-uts"].map utf8 then some 0
  else none

theorem listed_known : Bubblewrap listed where
  setenv := by decide
  mounts := by decide
  single := by decide
  flags := by decide

def op (name : String) (operands : List String) : Op := ⟨utf8 name, operands.map utf8⟩

/-! ## What the check means -/

/-- For an accepted file that bubblewrap can read, the check is faithful exactly when no
operand is spelled like an option it counts. -/
theorem meaning_exact {arity : Arity} (known : Bubblewrap arity) {input : Bytes} {capacity : Nat}
    {output : Output} (accepted : rewriteWebkitArguments input capacity = .ok output)
    {ops : List Op} (read : Reads arity (partsOf 0 input) ops) :
    Faithful arity ops output ↔ Plain ops := by
  have policy := (rewrite_accepted accepted).1
  have lawful := policy.lawful
  have once := fun option (listed : option ∈ invariants) =>
    once_iff listed lawful read (policy.once option listed)
  constructor
  · intro faithful
    rw [plain_iff]
    exact fun option listed => (once option listed).mp (faithful.once option listed)
  · intro plain
    have one : ∀ option ∈ invariants, (ops.map Op.name).count (utf8 option) = 1 :=
      fun option listed => (once option listed).mpr (plain_iff.mp plain option listed)
    obtain ⟨destinations, same⟩ := rewritten_reads known read plain lawful
    refine ⟨one, ?_, by rwa [output_tokens accepted]⟩
    have proc : (ops.map Op.name).count (utf8 "--proc") = 1 := one _ (by decide)
    have found : utf8 "--proc" ∈ ops.map Op.name := List.count_pos_iff.mp (by omega)
    obtain ⟨op, mem, name⟩ := List.mem_map.mp found
    have exact_op : op = ⟨utf8 "--proc", [utf8 "/proc"]⟩ := by
      rw [← name, ← destinations op mem name]
    rwa [exact_op] at mem

def usual : List Op :=
  [op "--setenv" ["HOME", "/run"], op "--unshare-uts" [], op "--proc" ["/proc"],
    op "--unshare-pid" [], op "--seccomp" ["7"]]

theorem meaning_exact_usual :
    ∃ output, rewriteWebkitArguments (file usual) ((file usual).length + 64) = .ok output ∧
      (Faithful listed usual output ↔ Plain usual) := by
  have policy : Policy (file usual) := by decide +kernel
  have parts : partsOf 0 (file usual) = usual.flatMap fun op => op.name :: op.operands := by
    decide
  obtain ⟨output, accepted⟩ := rewrite_accepts policy
  have read : Reads listed (partsOf 0 (file usual)) usual := by
    rw [parts]
    exact reads_file (by decide)
  exact ⟨output, accepted, meaning_exact listed_known accepted read⟩

/-- An environment variable whose value is `--unshare-pid`. -/
def spelled : List Op :=
  [op "--setenv" ["FOO", "--unshare-pid"], op "--unshare-uts" [], op "--proc" ["/proc"],
    op "--seccomp" ["7"]]

/-- The file is accepted and asks for no PID namespace. The value is removed from it, so that
`--unshare-uts` becomes the value, and the UTS namespace is not unshared either. -/
theorem operand_removed :
    Reads listed (partsOf 0 (file spelled)) spelled ∧
      ∃ output, rewriteWebkitArguments (file spelled) ((file spelled).length + 64) = .ok output ∧
        Reads listed (partsOf 0 output.bytes)
          [op "--setenv" ["FOO", "--unshare-uts"], op "--ro-bind" ["/proc", "/proc"],
            op "--seccomp" ["7"]] ∧
        ¬ Faithful listed spelled output := by
  have policy : Policy (file spelled) := by decide +kernel
  have parts : partsOf 0 (file spelled) = spelled.flatMap fun op => op.name :: op.operands := by
    decide
  obtain ⟨output, accepted⟩ := rewrite_accepts policy
  refine ⟨?_, output, accepted, ?_, fun faithful => ?_⟩
  · rw [parts]
    exact reads_file (by decide)
  · have written : rewritten (partsOf 0 (file spelled)) =
        [op "--setenv" ["FOO", "--unshare-uts"], op "--ro-bind" ["/proc", "/proc"],
          op "--seccomp" ["7"]].flatMap fun op => op.name :: op.operands := by
      decide
    rw [output_tokens accepted, written]
    exact reads_file (by decide)
  · have none : (spelled.map Op.name).count (utf8 "--unshare-pid") = 0 := by decide
    have one := faithful.once "--unshare-pid" (by decide)
    rw [none] at one
    cases one

end Fireball.Sandbox
