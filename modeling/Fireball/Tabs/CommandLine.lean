import Fireball.Foundation.Decimal
import Fireball.Tabs.NativeTabs

/-!
# The arguments of the native runtime

`ParseArguments` of `session/fireball-session-runtime.cc`: names and values, in any order.

* `collect_iff`: what the loop takes, and what it leaves;
* `parsePositiveInteger_toString`: a number, written and read;
* `arguments_exact`: what is accepted, and what is made of it.
-/

namespace Fireball.Tabs

open Foundation

structure NativeConfiguration where
  width : Nat
  height : Nat
  fps : Nat
  bitrate : Nat
  initialTabId : Bytes
  initialUrl : Bytes
  stunServer : Bytes
  turnServers : Bytes
  icePolicy : Bytes
  controlOutputFd : Nat
  deriving DecidableEq, Repr

/-- The number that digits stand for. -/
def decimalValue (digits : Bytes) : Nat := Nat.ofDigitChars 10 (digits.map fun b => Char.ofNat b.toNat) 0

/-- `std::stol` does not throw on ten digits. -/
def parsePositiveInteger (value : Bytes) (maximum : Nat) : Option Nat :=
  if value = [] ∨ value.length > 10 ∨ value.all isDigit = false then none
  else if decimalValue value < 1 ∨ decimalValue value > maximum then none
  else some (decimalValue value)

/-- The loop of `ParseArguments`. An empty name begins with the terminator. -/
def collect (values : JsMap Bytes Bytes) : List Bytes → Option (JsMap Bytes Bytes)
  | [] => some values
  | [_] => none
  | name :: value :: rest =>
    if name.head? ≠ some '-'.toUInt8 ∨ values.has name then none else collect (values.set name value) rest

def requiredArguments : List String := [
  "--width", "--height", "--fps", "--bitrate", "--initial-tab-id",
  "--initial-url-hex", "--stun-server", "--turn-servers", "--ice-policy",
  "--control-output-fd"]

/-- What `ParseArguments` makes of the values. -/
def configure (parseUri : Bytes → Option GUri) (value : String → Bytes) : Option NativeConfiguration := do
  let width ← parsePositiveInteger (value "--width") 4096
  let height ← parsePositiveInteger (value "--height") 2160
  let fps ← parsePositiveInteger (value "--fps") 60
  let bitrate ← parsePositiveInteger (value "--bitrate") 50000000
  let initialUrl ← decodeHex (value "--initial-url-hex")
  if validUuid (value "--initial-tab-id") = false ∨ validUrl parseUri initialUrl = false then none
  else if ¬ (value "--ice-policy" = utf8 "all" ∨ value "--ice-policy" = utf8 "relay") ∨
      value "--control-output-fd" ≠ utf8 "3" then none
  else
    some {
      width, height, fps, bitrate
      initialTabId := value "--initial-tab-id"
      initialUrl
      stunServer := value "--stun-server"
      turnServers := value "--turn-servers"
      icePolicy := value "--ice-policy"
      controlOutputFd := 3 }

/-- `ParseArguments`. The first argument is the program. -/
def parseArguments (parseUri : Bytes → Option GUri) (argv : List Bytes) : Option NativeConfiguration :=
  if argv.length ≠ 21 then none
  else match collect .empty argv.tail with
    | none => none
    | some values =>
      if values.size ≠ requiredArguments.length ∨
          requiredArguments.all (fun key => values.has (utf8 key)) = false then none
      else configure parseUri fun key => (values.get (utf8 key)).getD []

/-! ## Numbers -/

/-- At most ten digits, of a number within the bound. -/
structure IsNumber (maximum : Nat) (text : Bytes) (n : Nat) : Prop where
  length : 1 ≤ text.length ∧ text.length ≤ 10
  digits : ∀ b ∈ text, isDigit b = true
  value : decimalValue text = n
  bound : 1 ≤ n ∧ n ≤ maximum

theorem parsePositiveInteger_iff {text : Bytes} {maximum n : Nat} :
    parsePositiveInteger text maximum = some n ↔ IsNumber maximum text n := by
  unfold parsePositiveInteger
  constructor
  · intro parsed
    split at parsed
    · cases parsed
    · rename_i shape
      split at parsed
      · cases parsed
      · rename_i bound
        cases parsed
        simp only [not_or, Bool.not_eq_false, List.all_eq_true] at shape
        obtain ⟨some, short, digits⟩ := shape
        have positive := List.length_pos_iff.mpr some
        exact ⟨⟨by omega, by omega⟩, digits, rfl, by omega, by omega⟩
  · rintro ⟨⟨nonempty, short⟩, digits, rfl, low, high⟩
    have some : text ≠ [] := List.length_pos_iff.mp (by omega)
    have all : text.all isDigit = true := List.all_eq_true.mpr digits
    rw [if_neg (by simp only [some, all]; simpa using short), if_neg (by omega)]

theorem digit_byte {c : Char} (digit : c.isDigit = true) :
    c.toNat < 128 ∧ isDigit (UInt8.ofNat c.toNat) = true ∧ (UInt8.ofNat c.toNat).toNat = c.toNat := by
  simp only [Char.isDigit, Bool.and_eq_true, decide_eq_true_eq] at digit
  obtain ⟨low, high⟩ := digit
  have low : 48 ≤ c.toNat := low
  have high : c.toNat ≤ 57 := high
  have same : (UInt8.ofNat c.toNat).toNat = c.toNat := Nat.mod_eq_of_lt (by omega)
  refine ⟨by omega, ?_, same⟩
  rw [isDigit_iff, UInt8.le_iff_toNat_le, UInt8.le_iff_toNat_le, same]
  exact ⟨low, high⟩

theorem decimalValue_bytes {text : List Char} (digits : ∀ c ∈ text, c.isDigit = true) :
    decimalValue (text.map fun c => UInt8.ofNat c.toNat) = Nat.ofDigitChars 10 text 0 := by
  have back : (text.map fun c => UInt8.ofNat c.toNat).map (fun b => Char.ofNat b.toNat) = text := by
    rw [List.map_map]
    refine (List.map_congr_left ?_).trans (List.map_id text)
    intro c mem
    obtain ⟨-, -, same⟩ := digit_byte (digits c mem)
    rw [Function.comp_apply, same, Char.ofNat_toNat, id_eq]
  rw [decimalValue, back]

/-- **A number**, written and read. -/
theorem parsePositiveInteger_toString {n maximum : Nat} (positive : 1 ≤ n) (bound : n ≤ maximum)
    (small : maximum < 10 ^ 10) : parsePositiveInteger (utf8 (toString n)) maximum = some n := by
  have digits : ∀ c ∈ Nat.toDigits 10 n, c.isDigit = true := fun _ mem =>
    Nat.isDigit_of_mem_toDigits (by decide) (by decide) mem
  have bytes : utf8 (toString n) = (Nat.toDigits 10 n).map fun c => UInt8.ofNat c.toNat := by
    rw [Nat.toString_eq_ofList_toDigits]
    apply utf8_ascii
    intro c mem
    exact (digit_byte (digits c mem)).1
  rw [parsePositiveInteger_iff, bytes]
  have some : 0 < (Nat.toDigits 10 n).length := Nat.length_toDigits_pos
  have short : (Nat.toDigits 10 n).length ≤ 10 := by
    rw [Nat.length_toDigits_le_iff (by decide) (by decide)]
    omega
  refine ⟨?_, ?_, ?_, positive, bound⟩
  · rw [List.length_map]
    omega
  · intro b mem
    obtain ⟨c, there, rfl⟩ := List.mem_map.mp mem
    exact (digit_byte (digits c there)).2.1
  · rw [decimalValue_bytes digits, Nat.ofDigitChars_toDigits (by decide) (by decide)]

/-! ## Names and values -/

/-- The arguments that name these values, in this order. -/
def written (pairs : List (Bytes × Bytes)) : List Bytes := pairs.flatMap fun p => [p.1, p.2]

theorem length_written (pairs : List (Bytes × Bytes)) : (written pairs).length = 2 * pairs.length := by
  induction pairs with
  | nil => rfl
  | cons p pairs ih =>
    rw [written] at ih ⊢
    rw [List.flatMap_cons, List.length_append, ih, List.length_cons, List.length_cons, List.length_cons,
      List.length_nil]
    omega

theorem written_inj {pairs pairs' : List (Bytes × Bytes)} (same : written pairs = written pairs') :
    pairs = pairs' := by
  induction pairs generalizing pairs' with
  | nil =>
    cases pairs' with
    | nil => rfl
    | cons p' pairs' => cases same
  | cons p pairs ih =>
    cases pairs' with
    | nil => cases same
    | cons p' pairs' =>
      have parts : p.1 :: p.2 :: written pairs = p'.1 :: p'.2 :: written pairs' := same
      injection parts with name rest
      injection rest with value rest
      rw [ih rest, Prod.ext name value]

theorem entries_set_new {values : JsMap Bytes Bytes} {name : Bytes} (value : Bytes)
    (new : values.has name = false) :
    (values.set name value).entries = values.entries ++ [(name, value)] := by
  have absent : name ∉ values.entries.map Prod.fst := by
    intro mem
    have known : values.has name = true := JsMap.mem_keys_iff_has.mp mem
    rw [new] at known
    cases known
  show writeEntry name value values.entries = values.entries ++ [(name, value)]
  generalize values.entries = entries at absent
  induction entries with
  | nil => rfl
  | cons e rest ih =>
    rw [List.map_cons, List.mem_cons, not_or] at absent
    obtain ⟨here, later⟩ := absent
    rw [writeEntry, if_neg (Ne.symm here), ih later]
    rfl

/-- **The loop** takes names that begin with `-`, each once and with its value. -/
theorem collect_iff {values result : JsMap Bytes Bytes} {arguments : List Bytes} :
    collect values arguments = some result ↔
      ∃ pairs, arguments = written pairs ∧ result.entries = values.entries ++ pairs ∧
        ∀ p ∈ pairs, p.1.head? = some '-'.toUInt8 := by
  induction values, arguments using collect.induct with
  | case1 values =>
    rw [collect]
    constructor
    · rintro ⟨⟩
      exact ⟨[], rfl, (List.append_nil _).symm, fun _ mem => absurd mem List.not_mem_nil⟩
    · rintro ⟨pairs, none, entries, -⟩
      have length := congrArg List.length none
      rw [length_written, List.length_nil] at length
      have empty : pairs = [] := List.eq_nil_of_length_eq_zero (by omega)
      rw [empty, List.append_nil] at entries
      cases values
      cases result
      cases entries
      rfl
  | case2 values name =>
    rw [collect]
    constructor
    · rintro ⟨⟩
    · rintro ⟨pairs, odd, -⟩
      have length := congrArg List.length odd
      rw [length_written, List.length_singleton] at length
      omega
  | case3 values name value rest refused =>
    rw [collect, if_pos refused]
    constructor
    · rintro ⟨⟩
    · rintro ⟨pairs, same, entries, dashes⟩
      cases pairs with
      | nil => cases same
      | cons p pairs =>
        cases same
        exfalso
        rcases refused with other | twice
        · exact other (dashes p List.mem_cons_self)
        · have nodup := result.nodup
          rw [entries, List.map_append, List.nodup_append] at nodup
          exact nodup.2.2 p.1 (JsMap.mem_keys_iff_has.mpr twice) p.1 List.mem_cons_self rfl
  | case4 values name value rest taken ih =>
    rw [collect, if_neg taken, ih]
    simp only [ne_eq, not_or, not_not, Bool.not_eq_true] at taken
    obtain ⟨dash, new⟩ := taken
    have entries := entries_set_new value new
    constructor
    · rintro ⟨pairs, rfl, result, dashes⟩
      refine ⟨(name, value) :: pairs, rfl, ?_, ?_⟩
      · rw [result, entries, List.append_assoc]
        rfl
      · intro p mem
        rcases List.mem_cons.mp mem with rfl | later
        · exact dash
        · exact dashes p later
    · rintro ⟨pairs, same, result, dashes⟩
      cases pairs with
      | nil => cases same
      | cons p pairs =>
        cases same
        refine ⟨pairs, rfl, ?_, fun q mem => dashes q (List.mem_cons_of_mem p mem)⟩
        rw [result, entries, List.append_assoc]
        rfl

/-! ## What is accepted -/

/-- The configuration that ten values stand for. -/
structure Denotes (parseUri : Bytes → Option GUri) (value : String → Bytes) (c : NativeConfiguration) :
    Prop where
  width : IsNumber 4096 (value "--width") c.width
  height : IsNumber 2160 (value "--height") c.height
  fps : IsNumber 60 (value "--fps") c.fps
  bitrate : IsNumber 50000000 (value "--bitrate") c.bitrate
  initialTabId : value "--initial-tab-id" = c.initialTabId ∧ validUuid c.initialTabId = true
  initialUrl : decodeHex (value "--initial-url-hex") = some c.initialUrl ∧ validUrl parseUri c.initialUrl = true
  stunServer : value "--stun-server" = c.stunServer
  turnServers : value "--turn-servers" = c.turnServers
  icePolicy : value "--ice-policy" = c.icePolicy ∧ (c.icePolicy = utf8 "all" ∨ c.icePolicy = utf8 "relay")
  controlOutputFd : value "--control-output-fd" = utf8 "3" ∧ c.controlOutputFd = 3

/-- The value that a list of pairs has for a name. -/
def valueOf (pairs : List (Bytes × Bytes)) (key : String) : Bytes := (lookupEntry (utf8 key) pairs).getD []

section
variable {parseUri : Bytes → Option GUri} {c : NativeConfiguration}

theorem configure_iff {value : String → Bytes} :
    configure parseUri value = some c ↔ Denotes parseUri value c := by
  unfold configure
  simp only [Option.bind_eq_bind, Option.bind_eq_some_iff, parsePositiveInteger_iff]
  constructor
  · rintro ⟨width, isWidth, height, isHeight, fps, isFps, bitrate, isBitrate, url, decoded, rest⟩
    split at rest
    · cases rest
    · rename_i valid
      split at rest
      · cases rest
      · rename_i policy
        cases rest
        simp only [not_or, Bool.not_eq_false] at valid
        obtain ⟨known, fd⟩ := not_or.mp policy
        exact ⟨isWidth, isHeight, isFps, isBitrate, ⟨rfl, valid.1⟩, ⟨decoded, valid.2⟩, rfl, rfl,
          ⟨rfl, not_not.mp known⟩, not_not.mp fd, rfl⟩
  · intro denotes
    obtain ⟨id, uuid⟩ := denotes.initialTabId
    obtain ⟨decoded, valid⟩ := denotes.initialUrl
    obtain ⟨policy, known⟩ := denotes.icePolicy
    obtain ⟨fd, three⟩ := denotes.controlOutputFd
    refine ⟨_, denotes.width, _, denotes.height, _, denotes.fps, _, denotes.bitrate, _, decoded, ?_⟩
    rw [id, policy, fd, denotes.stunServer, denotes.turnServers, if_neg (by simp [uuid, valid]),
      if_neg (by simp [known]), ← three]

theorem required_nodup : (requiredArguments.map utf8).Nodup := by decide

theorem required_dash : ∀ name ∈ requiredArguments.map utf8, name.head? = some '-'.toUInt8 := by decide

/-- Ten names that are all there are the ten names. -/
theorem names_perm {names : List Bytes} (count : names.length = requiredArguments.length)
    (all : ∀ key ∈ requiredArguments, utf8 key ∈ names) : names.Perm (requiredArguments.map utf8) := by
  have sub : requiredArguments.map utf8 ⊆ names := by
    intro name mem
    obtain ⟨key, there, rfl⟩ := List.mem_map.mp mem
    exact all key there
  have short : names.length ≤ (requiredArguments.map utf8).length := by
    rw [count, List.length_map]
  exact ((List.subperm_of_subset required_nodup sub).perm_of_length_le short).symm

/-- The ten names are taken in any order. -/
theorem collect_written {pairs : List (Bytes × Bytes)}
    (names : (pairs.map Prod.fst).Perm (requiredArguments.map utf8)) :
    collect .empty (written pairs) = some ⟨pairs, names.nodup_iff.mpr required_nodup⟩ := by
  apply collect_iff.mpr
  refine ⟨pairs, rfl, rfl, ?_⟩
  intro p mem
  exact required_dash p.1 (names.mem_iff.mp (List.mem_map_of_mem mem))

theorem parseArguments_iff {argv : List Bytes} :
    parseArguments parseUri argv = some c ↔
      ∃ program pairs, argv = program :: written pairs ∧
        (pairs.map Prod.fst).Perm (requiredArguments.map utf8) ∧ Denotes parseUri (valueOf pairs) c := by
  unfold parseArguments
  constructor
  · intro parsed
    split at parsed
    · cases parsed
    · rename_i count
      cases argv with
      | nil => exact (count (by decide)).elim
      | cons program arguments =>
        rw [List.tail_cons] at parsed
        cases taken : collect .empty arguments with
        | none =>
          rw [taken] at parsed
          cases parsed
        | some values =>
          rw [taken] at parsed
          dsimp only at parsed
          split at parsed
          · cases parsed
          · rename_i complete
            simp only [ne_eq, not_or, not_not, Bool.not_eq_false, List.all_eq_true] at complete
            obtain ⟨size, all⟩ := complete
            obtain ⟨pairs, rfl, entries, -⟩ := collect_iff.mp taken
            have same : values.entries = pairs := entries
            refine ⟨program, pairs, rfl, ?_, ?_⟩
            · rw [← same]
              apply names_perm
              · exact (JsMap.length_keys values).trans size
              · intro key mem
                exact JsMap.mem_keys_iff_has.mpr (all key mem)
            · rw [configure_iff] at parsed
              rw [← same]
              exact parsed
  · rintro ⟨program, pairs, rfl, names, denotes⟩
    have count : pairs.length = 10 := by
      have length := names.length_eq
      rwa [List.length_map, List.length_map] at length
    let values : JsMap Bytes Bytes := ⟨pairs, names.nodup_iff.mpr required_nodup⟩
    have taken : collect .empty (written pairs) = some values := collect_written names
    have complete : requiredArguments.all (fun key => values.has (utf8 key)) = true := by
      rw [List.all_eq_true]
      intro key mem
      apply JsMap.mem_keys_iff_has.mp
      exact names.mem_iff.mpr (List.mem_map_of_mem mem)
    have size : values.size = requiredArguments.length := count
    rw [if_neg (by rw [List.length_cons, length_written, count]; simp), List.tail_cons, taken]
    dsimp only
    rw [if_neg (by simp [size, complete])]
    exact configure_iff.mpr denotes

/-- The values of distinct names do not depend on their order. -/
theorem valueOf_perm {pairs pairs' : List (Bytes × Bytes)} (perm : pairs.Perm pairs')
    (names : (pairs.map Prod.fst).Nodup) : valueOf pairs = valueOf pairs' := by
  funext key
  have names' : (pairs'.map Prod.fst).Nodup := (perm.map Prod.fst).nodup_iff.mp names
  have same : lookupEntry (utf8 key) pairs = lookupEntry (utf8 key) pairs' := by
    apply Option.ext
    intro value
    rw [lookupEntry_eq_some names, lookupEntry_eq_some names', perm.mem_iff]
  rw [valueOf, valueOf, same]

theorem accepted_perm {program : Bytes} {pairs pairs' : List (Bytes × Bytes)} (perm : pairs.Perm pairs')
    (parsed : parseArguments parseUri (program :: written pairs) = some c) :
    (pairs.map Prod.fst).Perm (requiredArguments.map utf8) ∧ Denotes parseUri (valueOf pairs') c := by
  obtain ⟨program', other, same, names, denotes⟩ := parseArguments_iff.mp parsed
  injection same with _ rest
  cases written_inj rest
  refine ⟨names, ?_⟩
  rw [← valueOf_perm perm (names.nodup_iff.mpr required_nodup)]
  exact denotes

/-- **The arguments** that the native runtime accepts are the ten names, each with its value,
and the configuration is what the values stand for. Their order makes no difference, and
neither does the name of the program. -/
theorem arguments_exact (parseUri : Bytes → Option GUri) :
    (∀ argv c, parseArguments parseUri argv = some c ↔
      ∃ program pairs, argv = program :: written pairs ∧
        (pairs.map Prod.fst).Perm (requiredArguments.map utf8) ∧ Denotes parseUri (valueOf pairs) c) ∧
    ∀ program program' pairs pairs', pairs.Perm pairs' →
      parseArguments parseUri (program :: written pairs) = parseArguments parseUri (program' :: written pairs') := by
  refine ⟨fun argv c => parseArguments_iff, ?_⟩
  have one : ∀ {program program' pairs pairs' c}, pairs.Perm pairs' →
      parseArguments parseUri (program :: written pairs) = some c →
      parseArguments parseUri (program' :: written pairs') = some c := by
    intro program program' pairs pairs' c perm parsed
    obtain ⟨names, denotes⟩ := accepted_perm perm parsed
    exact parseArguments_iff.mpr ⟨program', pairs', rfl, (perm.symm.map Prod.fst).trans names, denotes⟩
  intro program program' pairs pairs' perm
  apply Option.ext
  intro c
  exact ⟨one perm, one perm.symm⟩

end

end Fireball.Tabs
