import Fireball.Foundation.Failing
import Fireball.Foundation.Json
import Mathlib.Data.List.Infix

/-!
# The seccomp profile of a session

`scripts/seccomp-profile.mjs`: the profile derived from the upstream document,
and what the derivation checks. A document is any value that `JSON.parse`
returns; reading a property of `null` throws, and so does calling what is not
a function.

* `unconditionalAllow_false`: what a check that finds no unconditional rule has looked at;
* `buildProfile_spec`: what a derived profile is;
* `profile_closed_iff`: the documents whose profile leaves no namespace call open.
-/

namespace Fireball.Sandbox

open Foundation

inductive ProfileFailure
  | assertion
  | type
  deriving DecidableEq, Repr

abbrev Checked := Except ProfileFailure

namespace Seccomp

/-! ## What the script asks of a value -/

/-- `assert.ok(value)`, and `assert.equal` once it is a comparison. -/
def assert (holds : Bool) : Checked Unit := check holds .assertion

/-- `value.key`, for a key that no prototype has. -/
def property (value : Json) (key : String) : Checked (Option Json) :=
  match value with
  | .null => .error .type
  | _ => .ok (Json.member (some value) key)

/-- `Boolean(value)`. -/
def truthy : Option Json → Bool
  | none | some .null => false
  | some (.boolean value) => value
  | some (.number value) => value ≠ 0
  | some (.string value) => value ≠ ""
  | some (.array _) | some (.object _) => true

/-- `names?.includes(syscall)`. -/
def includesName (names : Option Json) (syscall : String) : Checked Bool :=
  match names with
  | none | some .null => .ok false
  | some (.array elements) => .ok (elements.any fun element => isText (some element) syscall)
  | some (.string text) => .ok (decide (syscall.toList <:+: text.toList))
  | some _ => .error .type

/-- `args[0]`, for `args` that are neither undefined nor `null`. -/
def first : Option Json → Option Json
  | some (.array elements) => elements[0]?
  | some (.string text) => text.toList.head?.map fun c => .string (String.singleton c)
  | other => Json.member other "0"

mutual

/-- `assert.deepEqual` of two parsed values. -/
def deepEqual : Json → Json → Bool
  | .null, .null => true
  | .boolean a, .boolean b => a = b
  | .number a, .number b => a = b
  | .string a, .string b => a = b
  | .array a, .array b => deepEqualElements a b
  | .object a, .object b => a.length = b.length && deepEqualFields a b
  | _, _ => false

def deepEqualElements : List Json → List Json → Bool
  | [], [] => true
  | x :: xs, y :: ys => deepEqual x y && deepEqualElements xs ys
  | _, _ => false

def deepEqualFields : List (String × Json) → List (String × Json) → Bool
  | [], _ => true
  | (key, x) :: rest, fields =>
    (match Json.field fields key with
      | some y => deepEqual x y
      | none => false) && deepEqualFields rest fields

end

/-! ## The rules that are added -/

def supportedArchMap : Json := .array [
  .object [("architecture", .string "SCMP_ARCH_X86_64"), ("subArchitectures", .null)],
  .object [("architecture", .string "SCMP_ARCH_AARCH64"), ("subArchitectures", .null)]]

def bubblewrapCloneFlags : List Nat := [0x54020011, 0x5c020011, 0x1c020011]

/-- The two architectures of `includes`. -/
def arches : Json := .object [("arches", .array [.string "amd64", .string "arm64"])]

/-- `[{ index: 0, value, op: "SCMP_CMP_EQ" }]`. -/
def equals (value : Nat) : Json :=
  .array [.object [("index", .number 0), ("value", .number value), ("op", .string "SCMP_CMP_EQ")]]

def namespaceSetupRules : List Json := [
  .object [
    ("names", .array [.string "mount", .string "pivot_root", .string "umount2"]),
    ("action", .string "SCMP_ACT_ALLOW"),
    ("comment", .string "Fireball: permit bubblewrap to construct the nested WebKit mount namespace")],
  .object [
    ("names", .array [.string "unshare"]),
    ("action", .string "SCMP_ACT_ALLOW"),
    ("args", equals 0x10000000),
    ("comment", .string "Fireball: permit bubblewrap's exact second-level CLONE_NEWUSER setup"),
    ("includes", arches)]] ++
  bubblewrapCloneFlags.map fun value => .object [
    ("names", .array [.string "clone"]),
    ("action", .string "SCMP_ACT_ALLOW"),
    ("args", equals value),
    ("comment", .string "Fireball: permit one exact WPE bubblewrap namespace flag set"),
    ("includes", arches)]

/-! ## The checks -/

/-- `document.syscalls`, where it is an array. -/
def syscalls (document : Json) : Checked (List Json) := do
  match ← property document "syscalls" with
  | some (.array rules) => .ok rules
  | _ => .error .assertion

/-- `rule.action === action && rule.names?.includes(syscall)`. -/
def actsOn (action syscall : String) (rule : Json) : Checked Bool := do
  if isText (← property rule "action") action then includesName (← property rule "names") syscall
  else return false

/-- The rule that `hasUnconditionalAllow` looks for. -/
def unconditionalAllow (syscall : String) (rule : Json) : Checked Bool := do
  if ← actsOn "SCMP_ACT_ALLOW" syscall rule then
    return !truthy (← property rule "args") && !truthy (← property rule "includes")
  else return false

def hasUnconditionalAllow (rules : List Json) (syscall : String) : Checked Bool :=
  rules.anyM (unconditionalAllow syscall)

/-- The one rule that denies `clone3` as an unknown call. -/
def deniesClone3 (rule : Json) : Checked Bool := do
  if isText (← property rule "action") "SCMP_ACT_ERRNO" && isInteger (← property rule "errnoRet") 38
  then includesName (← property rule "names") "clone3"
  else return false

def validateBase (document : Json) : Checked Unit := do
  assert (isText (← property document "defaultAction") "SCMP_ACT_ERRNO")
  assert (isInteger (← property document "defaultErrnoRet") 1)
  let rules ← syscalls document
  assert (30 ≤ rules.length)
  assert (← rules.anyM deniesClone3)
  ["clone", "mount", "pivot_root", "umount2", "unshare", "setns"].forM fun syscall => do
    assert (!(← hasUnconditionalAllow rules syscall))

/-- `rules.filter(…).filter(…).map((rule) => rule.args[0].value)` for the conditions on
one call that compare for equality. -/
def exactValues (rules : List Json) (syscall : String) : Checked (List (Option Json)) := do
  let conditional ← rules.filterM fun rule => do
    if ← actsOn "SCMP_ACT_ALLOW" syscall rule then return truthy (← property rule "args")
    else return false
  let arguments ← conditional.mapM fun rule => return first (← property rule "args")
  let exact := arguments.filter fun argument => isText (Json.member argument "op") "SCMP_CMP_EQ"
  return exact.map fun argument => Json.member argument "value"

/-- `assert.deepEqual(values, flags)`. -/
def assertValues (values : List (Option Json)) (flags : List Nat) : Checked Unit :=
  assert (values.length = flags.length && (values.zip flags).all fun e => isInteger e.1 e.2)

def namespaceSyscalls : List String := ["clone", "clone3", "unshare", "setns"]

def validateDerivative (profile baseDocument : Json) : Checked Unit := do
  assert (isText (← property profile "defaultAction") "SCMP_ACT_ERRNO")
  assert ((← property profile "archMap").elim false fun archMap => deepEqual archMap supportedArchMap)
  let rules ← syscalls profile
  assert (deepEqualElements (rules.take namespaceSetupRules.length) namespaceSetupRules)
  assert (deepEqualElements (rules.drop namespaceSetupRules.length) (← syscalls baseDocument))
  namespaceSyscalls.forM fun syscall => do
    assert (!(← hasUnconditionalAllow rules syscall))
  assertValues (← exactValues rules "clone") bubblewrapCloneFlags
  assertValues (← exactValues rules "unshare") [0x10000000]

/-- `structuredClone` gives an equal document, and writing a property keeps the place of
one that is there. -/
def buildProfile (baseDocument : Json) : Checked Json := do
  validateBase baseDocument
  match baseDocument with
  | .object fields =>
    let withArchMap := writeEntry "archMap" supportedArchMap fields
    let profile := Json.object
      (writeEntry "syscalls" (.array (namespaceSetupRules ++ (← syscalls (.object withArchMap)))) withArchMap)
    validateDerivative profile baseDocument
    return profile
  -- no other document has passed
  | _ => .error .assertion

/-! ## What a profile says -/

/-- The rules of a document, where `syscalls` is an array. -/
def rulesOf (document : Json) : List Json :=
  match Json.member (some document) "syscalls" with
  | some (.array rules) => rules
  | _ => []

def Allows (rule : Json) : Prop := Json.member (some rule) "action" = some (.string "SCMP_ACT_ALLOW")

def Names (rule : Json) (syscall : String) : Prop :=
  ∃ names, Json.member (some rule) "names" = some (.array names) ∧ .string syscall ∈ names

/-- Not there, or `null`. -/
def Absent (value : Option Json) : Prop := value = none ∨ value = some .null

/-- An array or an object without entries. -/
def Empty (value : Option Json) : Prop := value = some (.array []) ∨ value = some (.object [])

/-- The argument list is absent or empty, and `includes` is absent or has no entries. -/
structure Unconditional (rule : Json) : Prop where
  args : Absent (Json.member (some rule) "args") ∨ Json.member (some rule) "args" = some (.array [])
  includes : Absent (Json.member (some rule) "includes") ∨ Empty (Json.member (some rule) "includes")

/-- The rule has an empty list of arguments or an empty `includes`, and nothing that
could be a condition beside it. -/
def Hollow (rule : Json) : Prop :=
  Json.member (some rule) "args" = some (.array []) ∧
      (Absent (Json.member (some rule) "includes") ∨ Empty (Json.member (some rule) "includes")) ∨
    Empty (Json.member (some rule) "includes") ∧ Absent (Json.member (some rule) "args")

/-- The document with its `archMap` replaced and the reviewed rules before its own. -/
structure Derived (base profile : Json) : Prop where
  archMap : Json.member (some profile) "archMap" = some supportedArchMap
  syscalls : Json.member (some profile) "syscalls" = some (.array (namespaceSetupRules ++ rulesOf base))
  others : ∀ key, key ≠ "archMap" → key ≠ "syscalls" →
    Json.member (some profile) key = Json.member (some base) key

section
variable {base profile rule : Json} {rules : List Json} {syscall : String}

theorem assert_ok {holds : Bool} {u : Unit} : assert holds = .ok u ↔ holds = true := check_ok

theorem property_ok {value : Json} {key : String} {found : Option Json} :
    property value key = .ok found ↔ value ≠ .null ∧ Json.member (some value) key = found := by
  cases value <;> simp [property]

theorem syscalls_ok {document : Json} : syscalls document = .ok rules ↔
    Json.member (some document) "syscalls" = some (.array rules) := by
  unfold syscalls
  rw [bind_ok]
  constructor
  · rintro ⟨found, read, rest⟩
    obtain ⟨-, rfl⟩ := property_ok.mp read
    split at rest
    · rename_i there
      cases rest
      exact there
    · cases rest
  · intro there
    obtain ⟨fields, object, -⟩ := Json.member_eq_some.mp there
    cases object
    refine ⟨_, property_ok.mpr ⟨by simp, rfl⟩, ?_⟩
    simp only [there]

theorem rulesOf_eq {document : Json} (read : syscalls document = .ok rules) : rulesOf document = rules := by
  rw [rulesOf, syscalls_ok.mp read]

/-! ## The check for unconditional rules -/

/-- A rule that the search passes over has something that could be a condition, when it
allows the call. -/
theorem unconditionalAllow_false (passed : unconditionalAllow syscall rule = .ok false)
    (allows : Allows rule) (names : Names rule syscall) :
    truthy (Json.member (some rule) "args") = true ∨ truthy (Json.member (some rule) "includes") = true := by
  obtain ⟨elements, there, mem⟩ := names
  obtain ⟨fields, object, -⟩ := Json.member_eq_some.mp allows
  cases object
  have read : ∀ key, property (.object fields) key = .ok (Json.member (some (.object fields)) key) :=
    fun key => rfl
  have named : (elements.any fun element => isText (some element) syscall) = true :=
    List.any_eq_true.mpr ⟨_, mem, isText_iff.mpr rfl⟩
  have acts : actsOn "SCMP_ACT_ALLOW" syscall (.object fields) = .ok true := by
    unfold actsOn
    rw [read, read, allows, there]
    change includesName (some (.array elements)) syscall = .ok true
    rw [includesName, named]
  unfold unconditionalAllow at passed
  rw [acts, read, read] at passed
  have falsy : (!truthy (Json.member (some (.object fields)) "args") &&
      !truthy (Json.member (some (.object fields)) "includes")) = false := by
    injection passed
  rw [Bool.and_eq_false_iff, Bool.not_eq_false', Bool.not_eq_false'] at falsy
  exact falsy

theorem Hollow.unconditional (hollow : Hollow rule) : Unconditional rule := by
  rcases hollow with ⟨args, includes⟩ | ⟨includes, args⟩
  · exact ⟨.inr args, includes⟩
  · exact ⟨.inl args, .inr includes⟩

theorem truthy_absent {value : Option Json} (absent : Absent value) : truthy value = false := by
  rcases absent with rfl | rfl <;> rfl

/-- What is unconditional and passes for conditional is hollow. -/
theorem Unconditional.hollow (none : Unconditional rule)
    (seems : truthy (Json.member (some rule) "args") = true ∨
      truthy (Json.member (some rule) "includes") = true) : Hollow rule := by
  rcases none.args with absent | empty
  · rcases none.includes with unset | hollow
    · rw [truthy_absent absent, truthy_absent unset] at seems
      simp at seems
    · exact .inr ⟨hollow, absent⟩
  · exact .inl ⟨empty, none.includes⟩

/-- The reviewed rules compare an argument, or allow none of the four calls. -/
theorem namespaceSetupRules_conditional (mem : rule ∈ namespaceSetupRules)
    (named : syscall ∈ namespaceSyscalls) (names : Names rule syscall) : ¬ Unconditional rule := by
  intro none
  obtain ⟨elements, there, listed⟩ := names
  simp only [namespaceSetupRules, bubblewrapCloneFlags, List.map_cons, List.map_nil, List.cons_append,
    List.nil_append, List.mem_cons, List.not_mem_nil, or_false] at mem
  rcases mem with rfl | rfl | rfl | rfl | rfl
  · cases there
    simp only [List.mem_cons, Json.string.injEq, List.not_mem_nil, or_false] at listed
    rcases listed with rfl | rfl | rfl <;> exact absurd named (by decide)
  all_goals
    rcases none.args with (missing | null) | empty
    · cases missing
    · cases null
    · cases empty

/-! ## The profile -/

/-- What a derived profile is, and what was asked of its rules. -/
theorem buildProfile_spec (h : buildProfile base = .ok profile) :
    Derived base profile ∧ ∀ rule ∈ rulesOf profile, ∀ syscall ∈ namespaceSyscalls,
      unconditionalAllow syscall rule = .ok false := by
  unfold buildProfile at h
  obtain ⟨_, -, built⟩ := bind_ok.mp h
  cases base with
  | null | boolean | number | string | array => cases built
  | object fields =>
    obtain ⟨rules, read, built⟩ := bind_ok.mp built
    obtain ⟨_, derivative, built⟩ := bind_ok.mp built
    cases built
    have own : Json.member (some (.object fields)) "syscalls" = some (.array rules) := by
      have there := syscalls_ok.mp read
      rw [Json.member, Json.field, lookupEntry_writeEntry, if_neg (by decide)] at there
      exact there
    have rules_eq : rulesOf (.object fields) = rules := rulesOf_eq (syscalls_ok.mpr own)
    constructor
    · constructor
      · rw [Json.member, Json.field, lookupEntry_writeEntry, if_neg (by decide), lookupEntry_writeEntry,
          if_pos rfl]
      · rw [Json.member, Json.field, lookupEntry_writeEntry, if_pos rfl, rules_eq]
      · intro key notArchMap notSyscalls
        rw [Json.member, Json.field, lookupEntry_writeEntry, if_neg (Ne.symm notSyscalls),
          lookupEntry_writeEntry, if_neg (Ne.symm notArchMap)]
        rfl
    · unfold validateDerivative at derivative
      obtain ⟨_, -, derivative⟩ := bind_ok.mp derivative
      obtain ⟨_, -, derivative⟩ := bind_ok.mp derivative
      obtain ⟨_, -, derivative⟩ := bind_ok.mp derivative
      obtain ⟨_, -, derivative⟩ := bind_ok.mp derivative
      obtain ⟨all, readAll, derivative⟩ := bind_ok.mp derivative
      obtain ⟨_, -, derivative⟩ := bind_ok.mp derivative
      obtain ⟨_, -, derivative⟩ := bind_ok.mp derivative
      obtain ⟨_, -, derivative⟩ := bind_ok.mp derivative
      obtain ⟨_, closed, derivative⟩ := bind_ok.mp derivative
      intro rule mem syscall named
      have one := forM_ok.mp closed syscall named
      obtain ⟨found, searched, none⟩ := bind_ok.mp one
      rw [assert_ok, Bool.not_eq_true'] at none
      rw [none] at searched
      rw [rulesOf_eq readAll] at mem
      exact anyM_false.mp searched rule mem

end

/-- **The derivation check.** The profile is the document with its `archMap` replaced and
the reviewed rules prepended; and none of its rules allows a namespace call unconditionally
exactly when no rule of the document does so with conditions that are there and empty. -/
theorem profile_closed_iff {base profile : Json} (h : buildProfile base = .ok profile) :
    Derived base profile ∧
    ((∀ rule ∈ rulesOf profile, ∀ syscall ∈ namespaceSyscalls,
        Allows rule → Names rule syscall → ¬ Unconditional rule) ↔
      ∀ rule ∈ rulesOf base, ∀ syscall ∈ namespaceSyscalls,
        Allows rule → Names rule syscall → ¬ Hollow rule) := by
  obtain ⟨derived, passed⟩ := buildProfile_spec h
  have rules : rulesOf profile = namespaceSetupRules ++ rulesOf base := by
    rw [rulesOf, derived.syscalls]
  refine ⟨derived, ?_, ?_⟩
  · intro closed rule mem syscall named allows names hollow
    have mem' : rule ∈ rulesOf profile := by
      rw [rules]
      exact List.mem_append_right _ mem
    exact closed rule mem' syscall named allows names hollow.unconditional
  · intro solid rule mem syscall named allows names none
    have seems := unconditionalAllow_false (passed rule mem syscall named) allows names
    rw [rules] at mem
    rcases List.mem_append.mp mem with added | own
    · exact namespaceSetupRules_conditional added named names none
    · exact solid rule own syscall named allows names (none.hollow seems)


/-- `{ names: [name], action: "SCMP_ACT_ALLOW" }` with more fields. -/
def allowRule (name : String) (more : List (String × Json)) : Json :=
  .object ([("names", .array [.string name]), ("action", .string "SCMP_ACT_ALLOW")] ++ more)

def denyClone3 : Json := .object [
  ("names", .array [.string "clone3"]), ("action", .string "SCMP_ACT_ERRNO"), ("errnoRet", .number 38)]

def sampleBase (rules : List Json) : Json := .object [
  ("defaultAction", .string "SCMP_ACT_ERRNO"), ("defaultErrnoRet", .number 1), ("archMap", .array []),
  ("syscalls", .array (denyClone3 :: rules ++ List.replicate 29 (allowRule "read" [])))]

/-- A document with one more rule that is conditional. -/
theorem profile_closed_sample :
    ∃ profile, buildProfile (sampleBase [allowRule "setns" [("includes", arches)]]) = .ok profile ∧
      ∀ rule ∈ rulesOf profile, ∀ syscall ∈ namespaceSyscalls,
        Allows rule → Names rule syscall → ¬ Unconditional rule := by
  have built : ∃ profile,
      buildProfile (sampleBase [allowRule "setns" [("includes", arches)]]) = .ok profile := ⟨_, rfl⟩
  obtain ⟨profile, built⟩ := built
  refine ⟨profile, built, (profile_closed_iff built).2.mpr ?_⟩
  intro rule mem syscall named allows names hollow
  have rules : rule = denyClone3 ∨ rule = allowRule "setns" [("includes", arches)] ∨
      rule ∈ List.replicate 29 (allowRule "read" []) := by
    rcases List.mem_cons.mp mem with first | rest
    · exact .inl first
    · exact .inr (List.mem_cons.mp rest)
  rcases rules with rfl | rfl | mem
  · have action : some (Json.string "SCMP_ACT_ERRNO") = some (.string "SCMP_ACT_ALLOW") := allows
    simp at action
  · rcases hollow with ⟨args, -⟩ | ⟨array | object, -⟩
    · cases args
    · cases array
    · cases object
  · obtain ⟨-, rfl⟩ := List.mem_replicate.mp mem
    obtain ⟨elements, there, listed⟩ := names
    cases there
    cases List.mem_singleton.mp listed
    exact absurd named (by decide)

/-- A rule with an empty list of arguments passes, and `setns` is open. -/
theorem hollow_rule_accepted :
    ∃ profile, buildProfile (sampleBase [allowRule "setns" [("args", .array [])]]) = .ok profile ∧
      ∃ rule ∈ rulesOf profile, Allows rule ∧ Names rule "setns" ∧ Unconditional rule := by
  have rules : allowRule "setns" [("args", .array [])] ∈
      namespaceSetupRules ++ (denyClone3 :: [allowRule "setns" [("args", .array [])]] ++
        List.replicate 29 (allowRule "read" [])) :=
    List.mem_append_right _ (List.mem_cons_of_mem _ List.mem_cons_self)
  exact ⟨_, rfl, _, rules, rfl, ⟨_, rfl, List.mem_cons_self⟩, .inr rfl, .inl (.inl rfl)⟩

end Seccomp

end Fireball.Sandbox
