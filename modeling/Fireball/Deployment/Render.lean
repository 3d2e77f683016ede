import Fireball.Foundation.Ascii
import Fireball.Foundation.Decimal
import Fireball.Foundation.Failing
import Fireball.Foundation.Json
import Fireball.Foundation.Substitution
import Fireball.Supervisor.Ice

/-!
# Rendering the Nginx template

`scripts/render-nginx-config.mjs`, with the `replaceAll` of JavaScript and the
patterns that it knows in a replacement.

* `replaceAll_literal`: a replacement without `$` is inserted as it is;
* `render_ok`: what an accepted environment says of the values;
* `render_literal`: the rendered template.
-/

namespace Fireball.Deployment

open Foundation

/-! ## What JavaScript does with strings -/

def trim (text : String) : String := String.ofList ((text.toList.dropWhile isBlank).rdropWhile isBlank)

/-- The patterns of a replacement; without groups there are no others. The third and the
fourth are a `$` before a backtick and before an apostrophe. -/
def expand (before matched after : List Char) : List Char → List Char
  | '$' :: c :: rest =>
    if c = '$' then '$' :: expand before matched after rest
    else if c = '&' then matched ++ expand before matched after rest
    else if c.toNat = 96 then before ++ expand before matched after rest
    else if c.toNat = 39 then after ++ expand before matched after rest
    else '$' :: expand before matched after (c :: rest)
  | c :: rest => c :: expand before matched after rest
  | [] => []

/-- `skip` characters are left of the last match, and `before` are those that were read. -/
def replaceFrom (token replacement : List Char) : List Char → Nat → List Char → List Char
  | _, _, [] => []
  | before, skip + 1, c :: rest => replaceFrom token replacement (before ++ [c]) skip rest
  | before, 0, c :: rest =>
    if token <+: c :: rest then
      expand before token ((c :: rest).drop token.length) replacement ++
        replaceFrom token replacement (before ++ [c]) (token.length - 1) rest
    else c :: replaceFrom token replacement (before ++ [c]) 0 rest

/-- `text.replaceAll(token, replacement)`, for a token that is not empty. -/
def replaceAll (text token replacement : String) : String :=
  String.ofList (replaceFrom token.toList replacement.toList [] 0 text.toList)

example : replaceAll "a-b-c" "-" "<$&$$>" = "a<-$>b<-$>c" := by decide

/-! ## The environment -/

abbrev Environment := String → Option String

def required (environment : Environment) (name : String) : Except String String :=
  match (environment name).map trim with
  | none => .error (name ++ " is required")
  | some value => if value = "" then .error (name ++ " is required") else .ok value

/-- The pattern of a label is the one of the ICE hosts. A value with an upper-case letter
beyond ASCII is refused for its labels. -/
def validatePublicHost (value : String) : Except String String :=
  if units value.toList > 253 ∨ value.toList ≠ value.toList.map Char.toLower ∨ '.' ∉ value.toList ∨
      (value.toList.splitOn '.').all Supervisor.isLabel = false then
    .error "FIREBALL_PUBLIC_HOST must be a lowercase DNS hostname"
  else .ok value

/-- A letter, a digit, or one of the four marks of a path. -/
def isPathCharacter (c : Char) : Bool := c.isAlphanum || c = '/' || c ∈ "._-".toList

/-- A slash, and at least one more character of a path. -/
def isAbsolutePath : List Char → Bool
  | '/' :: rest => rest ≠ [] && rest.all isPathCharacter
  | _ => false

def validateAbsolutePath (value label : String) : Except String String :=
  if units value.toList > 4096 ∨ value.toList.head? ≠ some '/' ∨ isAbsolutePath value.toList = false ∨
      "..".toList ∈ value.toList.splitOn '/' then
    .error ("TLS " ++ label ++ " path is unsafe")
  else .ok value

def validatePort (value : String) : Except String String :=
  if isPort value.toList = false then .error "FIREBALL_UPSTREAM_PORT must be a TCP port"
  else
    let port := Nat.ofDigitChars 10 value.toList 0
    if port > 65535 then .error "FIREBALL_UPSTREAM_PORT must be a TCP port"
    else .ok (toString port)

/-! ## The template -/

/-- `[A-Z_]`. -/
def isNameCharacter (c : Char) : Bool := c.isUpper || c = '_'

/-- `\x7b\x7b[A-Z_]+\x7d\x7d` matches at the start of the text. -/
def startsToken : List Char → Bool
  | '\x7b' :: '\x7b' :: rest =>
    rest.takeWhile isNameCharacter ≠ [] && "\x7d\x7d".toList <+: rest.dropWhile isNameCharacter
  | _ => false

def hasToken : List Char → Bool
  | [] => false
  | c :: rest => startsToken (c :: rest) || hasToken rest

def replacements (publicHost certificate certificateKey upstreamPort : String) : List (String × String) := [
  ("\x7b\x7bPUBLIC_HOST\x7d\x7d", publicHost),
  ("\x7b\x7bTLS_CERTIFICATE\x7d\x7d", certificate),
  ("\x7b\x7bTLS_CERTIFICATE_KEY\x7d\x7d", certificateKey),
  ("\x7b\x7bUPSTREAM_PORT\x7d\x7d", upstreamPort)]

/-- `for (const [token, value] of rules) result = result.replaceAll(token, value)`. -/
def replaceEach (rules : List (String × String)) (template : String) : String :=
  rules.foldl (fun result rule => replaceAll result rule.1 rule.2) template

def renderNginxConfig (environment : Environment) (template : String) : Except String String := do
  let publicHost ← validatePublicHost (← required environment "FIREBALL_PUBLIC_HOST")
  let certificate ← validateAbsolutePath (← required environment "FIREBALL_TLS_CERTIFICATE") "certificate"
  let certificateKey ←
    validateAbsolutePath (← required environment "FIREBALL_TLS_CERTIFICATE_KEY") "certificate key"
  check (certificate ≠ certificateKey) "TLS certificate and key paths must differ"
  let upstreamPort ← validatePort ((environment "FIREBALL_UPSTREAM_PORT").getD "8787")
  let result := replaceEach (replacements publicHost certificate certificateKey upstreamPort) template
  check (!hasToken result.toList) "nginx template contains an unresolved token"
  return result

/-! ## Replacements without patterns -/

section
variable {environment : Environment} {rendered : String}

theorem expand_literal {before matched after replacement : List Char} (plain : '$' ∉ replacement) :
    expand before matched after replacement = replacement := by
  induction replacement with
  | nil => rfl
  | cons c rest ih =>
    simp only [List.mem_cons, not_or] at plain
    rw [expand]
    · rw [ih plain.2]
    · rintro d rest' ⟨⟩
      exact absurd rfl plain.1

theorem replaceFrom_literal {token replacement : List Char} (plain : '$' ∉ replacement)
    (text before : List Char) (skip : Nat) :
    replaceFrom token replacement before skip text =
      (scan [(token, replacement)] (fun c => [c]) skip text).flatten := by
  induction text generalizing before skip with
  | nil => cases skip <;> rfl
  | cons c rest ih =>
    cases skip with
    | succ skip => exact ih _ skip
    | zero =>
      by_cases starts : token <+: c :: rest
      · obtain ⟨after, there⟩ := starts
        have found : [(token, replacement)].find? (fun r => r.1 <+: c :: rest) = some (token, replacement) := by
          rw [List.find?_cons_of_pos]
          exact decide_eq_true ⟨after, there⟩
        rw [replaceFrom, if_pos ⟨after, there⟩, expand_literal plain, ih, scan, found]
        rfl
      · have absent : ∀ rule ∈ [(token, replacement)], ¬ rule.1 <+: c :: rest := by
          intro rule only
          cases List.mem_singleton.mp only
          exact starts
        rw [replaceFrom, if_neg starts, ih, scan_keep absent]
        rfl

/-- A replacement without `$` is inserted as it is. -/
theorem replaceAll_literal {text token replacement : String} (plain : '$' ∉ replacement.toList) :
    (replaceAll text token replacement).toList =
      substitute [(token.toList, replacement.toList)] text.toList := by
  rw [replaceAll, String.toList_ofList, replaceFrom_literal plain, substitute]

/-! ## The values -/

/-- The characters of the values. -/
def Plain (c : Char) : Prop := c.isAlphanum = true ∨ c ∈ "/._-".toList

/-- A value that was validated: none of its characters means anything to the template or to
Nginx, and one of them is in no token. -/
structure Validated (value : String) : Prop where
  plain : ∀ c ∈ value.toList, Plain c
  barrier : ∃ c ∈ value.toList, c ∈ "./".toList ∨ c.isDigit = true

theorem plain_nat {c : Char} (plain : Plain c) :
    45 ≤ c.toNat ∧ c.toNat ≤ 57 ∨ 65 ≤ c.toNat ∧ c.toNat ≤ 90 ∨ c.toNat = 95 ∨
      97 ≤ c.toNat ∧ c.toNat ≤ 122 := by
  rcases plain with letter | mark
  · rw [ascii_alphanum] at letter
    omega
  · have marks : ∀ d ∈ "/._-".toList, 45 ≤ d.toNat ∧ d.toNat ≤ 57 ∨ d.toNat = 95 := forall_mem_chars (by decide)
    have known := marks c mark
    omega

theorem required_ok {name value : String} (h : required environment name = .ok value) :
    (environment name).map trim = some value ∧ value ≠ "" := by
  unfold required at h
  split at h
  · cases h
  · rename_i found
    split at h
    · cases h
    · rename_i filled
      cases h
      exact ⟨found, filled⟩

theorem publicHost_validated {text value : String} (h : validatePublicHost text = .ok value) :
    value = text ∧ Validated value := by
  unfold validatePublicHost at h
  split at h
  · cases h
  · rename_i accepted
    cases h
    simp only [not_or, not_not, Bool.not_eq_false, List.all_eq_true] at accepted
    obtain ⟨-, -, dot, labels⟩ := accepted
    refine ⟨rfl, ?_, '.', dot, .inl (by decide)⟩
    intro c mem
    rcases mem_splitOn '.' mem with rfl | ⟨label, listed, mem⟩
    · exact .inr (by decide)
    · have labelled := labels label listed
      simp only [Supervisor.isLabel, Supervisor.isLabelEnd, Bool.and_eq_true, List.all_eq_true, Bool.or_eq_true,
        decide_eq_true_eq] at labelled
      rcases labelled.1.1.2 c mem with (digit | lower) | rfl
      · exact .inl (alphanum_of_digit digit)
      · exact .inl (alphanum_of_lower lower)
      · exact .inr (by decide)

theorem path_validated {text label value : String} (h : validateAbsolutePath text label = .ok value) :
    value = text ∧ Validated value := by
  unfold validateAbsolutePath at h
  split at h
  · cases h
  · rename_i accepted
    cases h
    simp only [not_or, Bool.not_eq_false] at accepted
    obtain ⟨-, -, absolute, -⟩ := accepted
    have characters : ∃ rest, text.toList = '/' :: rest ∧ ∀ c ∈ rest, isPathCharacter c = true := by
      unfold isAbsolutePath at absolute
      split at absolute
      · rename_i rest there
        simp only [Bool.and_eq_true, List.all_eq_true] at absolute
        exact ⟨rest, there, absolute.2⟩
      · cases absolute
    obtain ⟨rest, there, characters⟩ := characters
    refine ⟨rfl, ?_, '/', there ▸ List.mem_cons_self, .inl (by decide)⟩
    intro c mem
    rw [there] at mem
    rcases List.mem_cons.mp mem with rfl | mem
    · exact .inr (by decide)
    · have character := characters c mem
      simp only [isPathCharacter, Bool.or_eq_true, decide_eq_true_eq] at character
      have marks : ∀ d ∈ "._-".toList, d ∈ "/._-".toList := forall_mem_chars (by decide)
      rcases character with (letter | rfl) | mark
      · exact .inl letter
      · exact .inr (by decide)
      · exact .inr (marks c mark)

/-- The port is written as it was given. -/
theorem port_validated {text value : String} (h : validatePort text = .ok value) :
    value = text ∧ Validated value := by
  unfold validatePort at h
  split at h
  · cases h
  · rename_i accepted
    have decimal : Decimal text.toList := decimal_isPort (Bool.eq_true_of_not_eq_false accepted)
    have written : toString (Nat.ofDigitChars 10 text.toList 0) = text := by
      rw [← String.toList_inj, toList_toString, toDigits_ofDigitChars decimal]
    simp only [written] at h
    split at h
    · cases h
    · cases h
      obtain ⟨first, rest, there, -⟩ := decimal.positive
      have mem : first ∈ text.toList := there ▸ List.mem_cons_self
      refine ⟨rfl, ?_, first, mem, .inr (decimal.digits first mem)⟩
      exact fun c mem => .inl (alphanum_of_digit (decimal.digits c mem))

/-! ## Tokens and values -/

def tokens : List (List Char) := (replacements "" "" "" "").map fun rule => rule.1.toList

/-- A rule as the library has it. -/
def asLists (rule : String × String) : List Char × List Char := (rule.1.toList, rule.2.toList)

theorem tokens_apart : ∀ t ∈ tokens, ∀ u ∈ tokens, Apart t u := by decide

theorem tokens_single : ∀ t ∈ tokens, ∀ u ∈ tokens, t <+: u → t = u := by decide

theorem tokens_ends : ∀ t ∈ tokens, t ≠ [] ∧ t.head? = some '\x7b' ∧ t.getLast? = some '\x7d' := by decide

theorem tokens_letters {token : List Char} (known : token ∈ tokens) {c : Char} (mem : c ∈ token) :
    c ∉ ['.', '/'] ∧ c.isDigit = false := by
  have all : (tokens.all fun t => t.all fun c => !(['.', '/'].contains c || c.isDigit)) = true := by rfl
  have letter := List.all_eq_true.mp (List.all_eq_true.mp all token known) c mem
  rw [Bool.not_eq_true', Bool.or_eq_false_iff] at letter
  refine ⟨fun mark => ?_, letter.2⟩
  rw [List.contains_iff_mem.mpr mark] at letter
  cases letter.1

/-- What no value has. -/
theorem Validated.harmless {value : String} (valid : Validated value) {c : Char} (mem : c ∈ value.toList) :
    isBlank c = false ∧ c ∉ ";\"'$\x7b\x7d".toList := by
  have range := plain_nat (valid.plain c mem)
  constructor
  · simp only [isBlank, Bool.or_eq_false_iff, Bool.and_eq_false_iff, decide_eq_false_iff_not, List.mem_cons,
      List.not_mem_nil, or_false]
    omega
  · intro mark
    have marks : ∀ d ∈ ";\"'$\x7b\x7d".toList, d.toNat < 45 ∨ 57 < d.toNat ∧ d.toNat < 65 ∨ 122 < d.toNat :=
      forall_mem_chars (by decide)
    have outside := marks c mark
    omega

/-- A value is foreign to the tokens. -/
theorem Validated.foreign {value : String} (valid : Validated value) {token : List Char} (mem : token ∈ tokens) :
    Foreign value.toList token where
  first c head := by
    rw [(tokens_ends token mem).2.1] at head
    cases head
    exact fun inside => (valid.harmless inside).2 (by decide)
  last c last := by
    rw [(tokens_ends token mem).2.2] at last
    cases last
    exact fun inside => (valid.harmless inside).2 (by decide)
  barrier := by
    obtain ⟨c, inside, other⟩ := valid.barrier
    refine ⟨c, inside, fun shared => ?_⟩
    obtain ⟨mark, digit⟩ := tokens_letters mem shared
    rcases other with dot | number
    · exact mark dot
    · rw [digit] at number
      cases number

/-- The loop over rules that insert what they are given. -/
theorem replaceEach_eq {rules : List (String × String)}
    (literal : ∀ rule ∈ rules, '$' ∉ rule.2.toList) (template : String) :
    (replaceEach rules template).toList =
      (rules.map asLists).foldl (fun text rule => substitute [rule] text) template.toList := by
  induction rules generalizing template with
  | nil => rfl
  | cons rule rules ih =>
    have plain := literal rule List.mem_cons_self
    have later := ih (fun r mem => literal r (List.mem_cons_of_mem _ mem)) (replaceAll template rule.1 rule.2)
    rw [replaceAll_literal plain] at later
    exact later

/-! ## What is left of the tokens -/

theorem startsToken_of_name {name rest : List Char} (nonempty : name ≠ [])
    (letters : ∀ c ∈ name, isNameCharacter c = true) :
    startsToken ('\x7b' :: '\x7b' :: (name ++ '\x7d' :: '\x7d' :: rest)) = true := by
  have brace : isNameCharacter '\x7d' = false := by decide
  have front : (name ++ '\x7d' :: '\x7d' :: rest).takeWhile isNameCharacter = name := by
    rw [List.takeWhile_append_of_pos letters, List.takeWhile_cons, brace]
    exact List.append_nil name
  have back : (name ++ '\x7d' :: '\x7d' :: rest).dropWhile isNameCharacter = '\x7d' :: '\x7d' :: rest := by
    rw [List.dropWhile_append_of_pos letters, List.dropWhile_cons, brace]
    rfl
  simp only [startsToken, front, back, Bool.and_eq_true, decide_eq_true_eq]
  exact ⟨nonempty, List.prefix_append "\x7d\x7d".toList rest⟩

/-- A text that passes the last check has no token in it. -/
theorem resolved_of_hasToken {text : List Char} (none : hasToken text = false) {name : List Char}
    (nonempty : name ≠ []) (letters : ∀ c ∈ name, isNameCharacter c = true) :
    ¬ '\x7b' :: '\x7b' :: (name ++ ['\x7d', '\x7d']) <:+: text := by
  rintro ⟨front, rest, rfl⟩
  induction front with
  | nil =>
    have here : startsToken ('\x7b' :: '\x7b' :: (name ++ '\x7d' :: '\x7d' :: rest)) = true :=
      startsToken_of_name nonempty letters
    have whole : [] ++ '\x7b' :: '\x7b' :: (name ++ ['\x7d', '\x7d']) ++ rest =
        '\x7b' :: '\x7b' :: (name ++ '\x7d' :: '\x7d' :: rest) := by simp
    rw [whole, hasToken, here, Bool.true_or] at none
    cases none
  | cons c front ih =>
    simp only [List.cons_append, hasToken, Bool.or_eq_false_iff] at none
    exact ih none.2

/-! ## The rendered template -/

/-- What an accepted environment says of the values. -/
theorem render_ok {template result : String} (h : renderNginxConfig environment template = .ok result) :
    ∃ publicHost certificate certificateKey upstreamPort,
      (environment "FIREBALL_PUBLIC_HOST").map trim = some publicHost ∧
      (environment "FIREBALL_TLS_CERTIFICATE").map trim = some certificate ∧
      (environment "FIREBALL_TLS_CERTIFICATE_KEY").map trim = some certificateKey ∧
      (environment "FIREBALL_UPSTREAM_PORT").getD "8787" = upstreamPort ∧
      (∀ value ∈ [publicHost, certificate, certificateKey, upstreamPort], Validated value) ∧
      result = replaceEach (replacements publicHost certificate certificateKey upstreamPort) template ∧
      hasToken result.toList = false := by
  unfold renderNginxConfig at h
  obtain ⟨hostText, hostRead, h⟩ := bind_ok.mp h
  obtain ⟨publicHost, host, h⟩ := bind_ok.mp h
  obtain ⟨certificateText, certificateRead, h⟩ := bind_ok.mp h
  obtain ⟨certificate, path, h⟩ := bind_ok.mp h
  obtain ⟨keyText, keyRead, h⟩ := bind_ok.mp h
  obtain ⟨certificateKey, keyPath, h⟩ := bind_ok.mp h
  obtain ⟨_, -, h⟩ := bind_ok.mp h
  obtain ⟨upstreamPort, port, h⟩ := bind_ok.mp h
  obtain ⟨_, checked, h⟩ := bind_ok.mp h
  have same : replaceEach (replacements publicHost certificate certificateKey upstreamPort) template = result :=
    Except.ok.inj h
  rw [same] at checked
  obtain ⟨rfl, hostValid⟩ := publicHost_validated host
  obtain ⟨rfl, certificateValid⟩ := path_validated path
  obtain ⟨rfl, keyValid⟩ := path_validated keyPath
  obtain ⟨rfl, portValid⟩ := port_validated port
  have none := check_ok.mp checked
  rw [Bool.not_eq_true'] at none
  refine ⟨publicHost, certificate, certificateKey, _, (required_ok hostRead).1, (required_ok certificateRead).1,
    (required_ok keyRead).1, rfl, ?_, same.symm, none⟩
  intro value mem
  simp only [List.mem_cons, List.not_mem_nil, or_false] at mem
  rcases mem with rfl | rfl | rfl | rfl
  · exact hostValid
  · exact certificateValid
  · exact keyValid
  · exact portValid

end

/-- The result of the rules on a template. -/
structure Literal (rules : List (String × String)) (template result : String) : Prop where
  simultaneous : result.toList = substitute (rules.map asLists) template.toList
  ordered : ∀ order : List (String × String), order.Perm rules → replaceEach order template = result
  harmless : ∀ rule ∈ rules, ∀ c ∈ rule.2.toList, isBlank c = false ∧ c ∉ ";\"'$\x7b\x7d".toList
  resolved : ∀ name : List Char, name ≠ [] → (∀ c ∈ name, isNameCharacter c = true) →
    ¬ '\x7b' :: '\x7b' :: (name ++ ['\x7d', '\x7d']) <:+: result.toList

/-- **Rendering is literal.** The result is the template with the four tokens replaced at
once by the validated values, in whatever order the replacements are made; no value has a
character that means anything, and no token is left. -/
theorem render_literal {environment : Environment} {template result : String}
    (h : renderNginxConfig environment template = .ok result) :
    ∃ publicHost certificate certificateKey upstreamPort,
      (environment "FIREBALL_PUBLIC_HOST").map trim = some publicHost ∧
      (environment "FIREBALL_TLS_CERTIFICATE").map trim = some certificate ∧
      (environment "FIREBALL_TLS_CERTIFICATE_KEY").map trim = some certificateKey ∧
      (environment "FIREBALL_UPSTREAM_PORT").getD "8787" = upstreamPort ∧
      Literal (replacements publicHost certificate certificateKey upstreamPort) template result := by
  obtain ⟨publicHost, certificate, certificateKey, upstreamPort, host, path, keyPath, port, valid, rendered, none⟩ :=
    render_ok h
  refine ⟨publicHost, certificate, certificateKey, upstreamPort, host, path, keyPath, port, ?_⟩
  let rules := replacements publicHost certificate certificateKey upstreamPort
  have listed : ∀ rule ∈ rules, rule.1.toList ∈ tokens ∧ Validated rule.2 := by
    intro rule mem
    have value := List.mem_map_of_mem (f := Prod.snd) mem
    exact ⟨List.mem_map_of_mem (f := fun rule => rule.1.toList) mem, valid rule.2 value⟩
  have literal : ∀ rule ∈ rules, '$' ∉ rule.2.toList := by
    intro rule mem dollar
    exact ((listed rule mem).2.harmless dollar).2 (by decide)
  have ordered : ∀ order : List (String × String), order.Perm rules →
      (replaceEach order template).toList = substitute (order.map asLists) template.toList := by
    intro order perm
    have known : ∀ r ∈ order.map asLists, ∃ rule ∈ rules, asLists rule = r := by
      intro r mem
      obtain ⟨rule, ordered, rfl⟩ := List.mem_map.mp mem
      exact ⟨rule, perm.mem_iff.mp ordered, rfl⟩
    rw [replaceEach_eq fun rule mem => literal rule (perm.mem_iff.mp mem)]
    refine foldl_substitute ?_ ?_ ?_ template.toList
    · intro r mem
      obtain ⟨rule, own, rfl⟩ := known r mem
      exact (tokens_ends _ (listed rule own).1).1
    · intro r mem r' mem'
      obtain ⟨rule, own, rfl⟩ := known r mem
      obtain ⟨rule', own', rfl⟩ := known r' mem'
      exact tokens_apart _ (listed rule own).1 _ (listed rule' own').1
    · intro r mem r' mem'
      obtain ⟨rule, own, rfl⟩ := known r mem
      obtain ⟨rule', own', rfl⟩ := known r' mem'
      exact (listed rule own).2.foreign (listed rule' own').1
  constructor
  · rw [rendered]
    exact ordered rules (List.Perm.refl rules)
  · intro order perm
    have names : (rules.map Prod.fst).Nodup := by
      change ((replacements "" "" "" "").map Prod.fst).Nodup
      decide
    have single : ∀ r ∈ order.map asLists, ∀ r' ∈ order.map asLists, r.1 <+: r'.1 → r = r' := by
      intro r mem r' mem' begins
      obtain ⟨rule, ordered, rfl⟩ := List.mem_map.mp mem
      obtain ⟨rule', ordered', rfl⟩ := List.mem_map.mp mem'
      have own := perm.mem_iff.mp ordered
      have own' := perm.mem_iff.mp ordered'
      have token := tokens_single _ (listed rule own).1 _ (listed rule' own').1 begins
      rw [List.inj_on_of_nodup_map names own own' (String.toList_inj.mp token)]
    rw [← String.toList_inj, rendered, ordered order perm, ordered rules (List.Perm.refl rules)]
    exact substitute_perm (perm.map asLists) single template.toList
  · intro rule mem c inside
    exact (listed rule mem).2.harmless inside
  · exact fun name nonempty letters => resolved_of_hasToken none nonempty letters

/-- An environment that is accepted. -/
def sampleEnvironment : Environment := fun name =>
  if name = "FIREBALL_PUBLIC_HOST" then some "browser.example.com"
  else if name = "FIREBALL_TLS_CERTIFICATE" then some "/tls/fullchain.pem"
  else if name = "FIREBALL_TLS_CERTIFICATE_KEY" then some " /tls/privkey.pem\n"
  else none

/-- A token inside what looks like another. -/
theorem render_literal_sample :
    ∃ result, renderNginxConfig sampleEnvironment "\x7b\x7b\x7b\x7bUPSTREAM_PORT\x7d\x7d\x7d\x7d" = .ok result ∧
      ∃ publicHost certificate certificateKey upstreamPort,
        (sampleEnvironment "FIREBALL_PUBLIC_HOST").map trim = some publicHost ∧
        (sampleEnvironment "FIREBALL_TLS_CERTIFICATE").map trim = some certificate ∧
        (sampleEnvironment "FIREBALL_TLS_CERTIFICATE_KEY").map trim = some certificateKey ∧
        (sampleEnvironment "FIREBALL_UPSTREAM_PORT").getD "8787" = upstreamPort ∧
        Literal (replacements publicHost certificate certificateKey upstreamPort)
          "\x7b\x7b\x7b\x7bUPSTREAM_PORT\x7d\x7d\x7d\x7d" result := by
  have rendered : renderNginxConfig sampleEnvironment "\x7b\x7b\x7b\x7bUPSTREAM_PORT\x7d\x7d\x7d\x7d" =
      .ok "\x7b\x7b8787\x7d\x7d" := by decide
  exact ⟨_, rendered, render_literal rendered⟩

end Fireball.Deployment
