import Mathlib.Data.List.Infix

/-!
# Replacing tokens in a text

Rules are tried at each place of a text, from left to right; what a token has
matched is passed over.

* `substitute`: all the rules in one pass;
* `Apart`: no token begins inside another;
* `Foreign`: a value that no token can begin in, end in or run across;
* `substitute_pass`, `scan_append`: one more pass, beside what was inserted before;
* `foldl_substitute`: one pass for each rule, in any order, is one pass for all.
-/

namespace Fireball.Foundation

variable {α β γ : Type} [DecidableEq α] [DecidableEq β]

/-- `skip` elements are left of the last match. -/
def scan (rules : List (List β × γ)) (keep : β → γ) : Nat → List β → List γ
  | _, [] => []
  | skip + 1, _ :: rest => scan rules keep skip rest
  | 0, b :: rest => match rules.find? fun rule => rule.1 <+: b :: rest with
    | some rule => rule.2 :: scan rules keep (rule.1.length - 1) rest
    | none => keep b :: scan rules keep 0 rest

/-- All the rules at once. -/
def substitute (rules : List (List α × List α)) (text : List α) : List α :=
  (scan rules (fun c => [c]) 0 text).flatten

/-! ## One place of a text -/

section
variable {rules : List (List β × γ)} {f : β → γ}

theorem scan_skip (skip : Nat) (text : List β) :
    scan rules f skip text = scan rules f 0 (text.drop skip) := by
  induction text generalizing skip with
  | nil => cases skip <;> rfl
  | cons b rest ih =>
    cases skip with
    | zero => rfl
    | succ skip =>
      rw [scan, ih, List.drop_succ_cons]

/-- The first rule that matches is applied. -/
theorem scan_match {r : List β × γ} {rest : List β} (nonempty : r.1 ≠ [])
    (found : rules.find? (fun rule => rule.1 <+: r.1 ++ rest) = some r) :
    scan rules f 0 (r.1 ++ rest) = r.2 :: scan rules f 0 rest := by
  obtain ⟨token, value⟩ := r
  cases token with
  | nil => exact absurd rfl nonempty
  | cons b token =>
    simp only [List.cons_append] at found ⊢
    rw [scan, found]
    simp only [List.length_cons, Nat.add_sub_cancel]
    rw [scan_skip, List.drop_left]

theorem scan_keep {b : β} {rest : List β} (none : ∀ rule ∈ rules, ¬ rule.1 <+: b :: rest) :
    scan rules f 0 (b :: rest) = f b :: scan rules f 0 rest := by
  have found : rules.find? (fun rule => rule.1 <+: b :: rest) = Option.none := by
    rw [List.find?_eq_none]
    intro rule mem
    rw [decide_eq_true_iff]
    exact none rule mem
  rw [scan, found]

/-- At each place a rule matches, or none does. -/
theorem scan_cases (nonempty : ∀ rule ∈ rules, rule.1 ≠ []) (text : List β) :
    (∃ rule ∈ rules, ∃ rest, text = rule.1 ++ rest ∧
      rules.find? (fun r => r.1 <+: text) = some rule ∧
      scan rules f 0 text = rule.2 :: scan rules f 0 rest) ∨
    (∀ rule ∈ rules, ¬ rule.1 <+: text) := by
  cases found : rules.find? (fun r => r.1 <+: text) with
  | none =>
    right
    intro rule mem
    rw [← decide_eq_true_iff (p := rule.1 <+: text)]
    exact List.find?_eq_none.mp found rule mem
  | some rule =>
    left
    have mem := List.mem_of_find?_eq_some found
    have matching : decide (rule.1 <+: text) = true :=
      List.find?_some (p := fun r : List β × γ => decide (r.1 <+: text)) found
    obtain ⟨rest, rfl⟩ := of_decide_eq_true matching
    exact ⟨rule, mem, rest, rfl, rfl, scan_match (nonempty rule mem) found⟩

end

/-! ## Text with values inserted -/

/-- An element of the template, or a value that was inserted. -/
abbrev Piece (α : Type) := α ⊕ List α

def template (text : List α) : List (Piece α) := text.map Sum.inl

def flat (pieces : List (Piece α)) : List α := pieces.flatMap (Sum.elim (fun c => [c]) id)

/-- The rule on pieces: a token is matched by elements of the template only. -/
def lift (rule : List α × List α) : List (Piece α) × Piece α := (template rule.1, .inr rule.2)

/-- No token `u` begins inside `t`. -/
def Apart (t u : List α) : Prop := ∀ k < t.length, 0 < k → ¬ t.drop k <+: u ∧ ¬ u <+: t.drop k

instance (t u : List α) : Decidable (Apart t u) := by unfold Apart; infer_instance

/-- The value has neither the first nor the last element of the token, and some other one. -/
structure Foreign (value token : List α) : Prop where
  first : ∀ c, token.head? = some c → c ∉ value
  last : ∀ c, token.getLast? = some c → c ∉ value
  barrier : ∃ c ∈ value, c ∉ token

section
variable {text token value : List α} {pieces rest : List (Piece α)}

omit [DecidableEq α] in
theorem flat_template_append (text : List α) (rest : List (Piece α)) :
    flat (template text ++ rest) = text ++ flat rest := by
  unfold flat template
  rw [List.flatMap_append, List.flatMap_map]
  simp

omit [DecidableEq α] in
theorem template_prefix_iff {t u : List α} : template t <+: template u ↔ t <+: u := by
  unfold template
  exact List.prefix_map_iff_of_injective fun _ _ => Sum.inl.inj

omit [DecidableEq α] in
/-- An inserted value is neither the end of a token nor in the middle of one. -/
theorem Foreign.blocks {tail after : List α} (foreign : Foreign value token) (suffix : tail <:+ token)
    (nonempty : tail ≠ []) : ¬ tail <+: value ++ after := by
  intro starts
  rcases List.prefix_or_prefix_of_prefix starts (List.prefix_append value after) with inside | across
  · have ends : token.getLast? = some (tail.getLast nonempty) := by
      obtain ⟨front, rfl⟩ := suffix
      rw [List.getLast?_append_of_ne_nil front nonempty, List.getLast?_eq_some_getLast nonempty]
    exact foreign.last _ ends (inside.subset (List.getLast_mem nonempty))
  · obtain ⟨c, mem, other⟩ := foreign.barrier
    exact other (suffix.subset (across.subset mem))

omit [DecidableEq α] in
/-- A token is found in the text exactly where the template has it. -/
theorem prefix_flat (foreign : ∀ block, .inr block ∈ pieces → Foreign block token)
    {tail : List α} (suffix : tail <:+ token) : tail <+: flat pieces ↔ template tail <+: pieces := by
  induction tail generalizing pieces with
  | nil => simp [template]
  | cons c tail ih =>
    cases pieces with
    | nil => simp [flat, template]
    | cons piece rest =>
      cases piece with
      | inl d =>
        have later := ih (fun block mem => foreign block (List.mem_cons_of_mem _ mem))
          ((List.suffix_cons c tail).trans suffix)
        change c :: tail <+: d :: flat rest ↔ .inl c :: template tail <+: .inl d :: rest
        rw [List.cons_prefix_cons, List.cons_prefix_cons, later, Sum.inl.injEq]
      | inr block =>
        refine iff_of_false ?_ ?_
        · exact (foreign block List.mem_cons_self).blocks suffix (List.cons_ne_nil c tail)
        · intro starts
          obtain ⟨same, -⟩ := List.cons_prefix_cons.mp starts
          cases same

/-! ## One more pass -/

omit [DecidableEq α] in
theorem Foreign.untouched (foreign : Foreign value token) (nonempty : token ≠ []) {c : α} (mem : c ∈ value)
    (rest : List α) : ¬ token <+: c :: rest := by
  intro starts
  obtain ⟨d, tail, rfl⟩ := List.exists_cons_of_ne_nil nonempty
  obtain ⟨rfl, -⟩ := List.cons_prefix_cons.mp starts
  exact foreign.first d rfl mem

theorem substitute_keep {rules : List (List α × List α)} {c : α} {rest : List α}
    (none : ∀ rule ∈ rules, ¬ rule.1 <+: c :: rest) :
    substitute rules (c :: rest) = c :: substitute rules rest := by
  unfold substitute
  rw [scan_keep none]
  rfl

theorem substitute_match (nonempty : token ≠ []) (rest : List α) :
    substitute [(token, value)] (token ++ rest) = value ++ substitute [(token, value)] rest := by
  have found : [(token, value)].find? (fun r => r.1 <+: token ++ rest) = some (token, value) := by
    rw [List.find?_cons_of_pos]
    exact decide_eq_true (List.prefix_append token rest)
  unfold substitute
  rw [scan_match (r := (token, value)) nonempty found]
  rfl

/-- A value that was inserted before is passed over. -/
theorem substitute_block {block : List α} (foreign : Foreign block token) (nonempty : token ≠ []) (rest : List α) :
    substitute [(token, value)] (block ++ rest) = block ++ substitute [(token, value)] rest := by
  have each : ∀ part : List α, part <:+ block →
      substitute [(token, value)] (part ++ rest) = part ++ substitute [(token, value)] rest := by
    intro part
    induction part with
    | nil => exact fun _ => rfl
    | cons c part ih =>
      intro suffix
      have mem : c ∈ block := suffix.subset List.mem_cons_self
      rw [List.cons_append, substitute_keep, ih ((List.suffix_cons c part).trans suffix), List.cons_append]
      intro rule only
      cases List.mem_singleton.mp only
      exact foreign.untouched nonempty mem _
  exact each block List.suffix_rfl

/-- A pass over the text is a pass over its pieces. -/
theorem substitute_pass (nonempty : token ≠ []) (pieces : List (Piece α))
    (foreign : ∀ block, .inr block ∈ pieces → Foreign block token) :
    substitute [(token, value)] (flat pieces) = flat (scan [lift (token, value)] id 0 pieces) := by
  have lifted : ∀ rule ∈ [lift (token, value)], rule.1 ≠ [] := by
    intro rule only
    cases List.mem_singleton.mp only
    exact fun none => nonempty (List.map_eq_nil_iff.mp none)
  induction hn : pieces.length using Nat.strong_induction_on generalizing pieces with
  | h n ih =>
    rcases scan_cases (f := id) lifted pieces with ⟨rule, only, rest, there, -, scanned⟩ | none
    · cases List.mem_singleton.mp only
      have shorter : rest.length < n := by
        have length := congrArg List.length there
        have positive := List.length_pos_iff.mpr nonempty
        simp only [lift, template, List.length_append, List.length_map] at length
        omega
      have later := ih rest.length shorter rest
        (fun block mem => foreign block (there ▸ List.mem_append_right _ mem)) rfl
      rw [scanned, there]
      change substitute _ (flat (template token ++ rest)) = value ++ flat (scan _ id 0 rest)
      rw [flat_template_append, substitute_match nonempty, later]
    · cases pieces with
      | nil => rfl
      | cons piece rest =>
        have shorter : rest.length < n := by
          rw [← hn]
          exact Nat.lt_succ_self _
        have later := ih rest.length shorter rest
          (fun block mem => foreign block (List.mem_cons_of_mem _ mem)) rfl
        rw [scan_keep none]
        cases piece with
        | inl c =>
          have absent : ∀ rule ∈ [(token, value)], ¬ rule.1 <+: c :: flat rest := by
            intro rule only
            cases List.mem_singleton.mp only
            intro starts
            exact none _ List.mem_cons_self ((prefix_flat foreign List.suffix_rfl).mp starts)
          change substitute _ (c :: flat rest) = c :: flat (scan _ id 0 rest)
          rw [substitute_keep absent, later]
        | inr block =>
          change substitute _ (block ++ flat rest) = block ++ flat (scan _ id 0 rest)
          rw [substitute_block (foreign block List.mem_cons_self) nonempty, later]

/-! ## All passes -/

variable {rules : List (List α × List α)} {rule : List α × List α}

/-- What a pass leaves of the template was there before. -/
theorem template_scan (nonempty : ∀ r ∈ rules.map lift, r.1 ≠ []) {u : List α}
    (starts : template u <+: scan (rules.map lift) id 0 pieces) : template u <+: pieces := by
  induction u generalizing pieces with
  | nil => exact List.nil_prefix
  | cons c u ih =>
    rcases scan_cases (f := id) nonempty pieces with ⟨r, mem, rest, -, -, scanned⟩ | none
    · obtain ⟨own, -, rfl⟩ := List.mem_map.mp mem
      rw [scanned] at starts
      cases (List.cons_prefix_cons.mp starts).1
    · cases pieces with
      | nil => exact absurd (List.prefix_nil.mp starts) (List.cons_ne_nil _ _)
      | cons piece rest =>
        rw [scan_keep none] at starts
        obtain ⟨same, later⟩ := List.cons_prefix_cons.mp starts
        exact List.cons_prefix_cons.mpr ⟨same, ih later⟩

/-- A token stays where no other one begins before it or inside it. -/
theorem scan_token (apart : ∀ r ∈ rules, Apart token r.1)
    (none : ∀ r ∈ rules.map lift, ¬ r.1 <+: template token ++ rest) :
    scan (rules.map lift) id 0 (template token ++ rest) =
      template token ++ scan (rules.map lift) id 0 rest := by
  have each : ∀ tail : List α, tail <:+ token →
      scan (rules.map lift) id 0 (template tail ++ rest) =
        template tail ++ scan (rules.map lift) id 0 rest := by
    intro tail
    induction tail with
    | nil => exact fun _ => rfl
    | cons c tail ih =>
      intro suffix
      have absent : ∀ r ∈ rules.map lift, ¬ r.1 <+: .inl c :: (template tail ++ rest) := by
        intro r mem starts
        obtain ⟨own, known, rfl⟩ := List.mem_map.mp mem
        obtain ⟨front, rfl⟩ := suffix
        cases front with
        | nil => exact none _ mem starts
        | cons d front =>
          have inside := apart own known (d :: front).length (by simp) (by simp)
          rw [List.drop_left] at inside
          have here : template (c :: tail) <+: .inl c :: (template tail ++ rest) :=
            List.prefix_append (template (c :: tail)) rest
          rcases List.prefix_or_prefix_of_prefix starts here with shorter | longer
          · exact inside.2 (template_prefix_iff.mp shorter)
          · exact inside.1 (template_prefix_iff.mp longer)
      change scan _ id 0 (.inl c :: (template tail ++ rest)) = .inl c :: (template tail ++ _)
      rw [scan_keep absent, ih ((List.suffix_cons c tail).trans suffix)]
      rfl
  exact each token List.suffix_rfl

omit [DecidableEq α] in
theorem lift_nonempty (nonempty : ∀ r ∈ rules, r.1 ≠ []) : ∀ r ∈ rules.map lift, r.1 ≠ [] := by
  intro r mem
  obtain ⟨own, known, rfl⟩ := List.mem_map.mp mem
  exact fun none => nonempty own known (List.map_eq_nil_iff.mp none)

/-- One more rule is one more pass. -/
theorem scan_append (nonempty : ∀ r ∈ rules, r.1 ≠ []) (token : rule.1 ≠ [])
    (apart : ∀ r ∈ rules, Apart rule.1 r.1) (pieces : List (Piece α)) :
    scan ((rules ++ [rule]).map lift) id 0 pieces =
      scan [lift rule] id 0 (scan (rules.map lift) id 0 pieces) := by
  have lifted := lift_nonempty nonempty
  have own : (lift rule).1 ≠ [] := fun none => token (List.map_eq_nil_iff.mp none)
  have absent : ∀ (block : List α) (rest : List (Piece α)), ∀ r ∈ [lift rule], ¬ r.1 <+: .inr block :: rest := by
    intro block rest r only starts
    cases List.mem_singleton.mp only
    obtain ⟨c, tail, there⟩ := List.exists_cons_of_ne_nil token
    rw [lift, there] at starts
    cases (List.cons_prefix_cons.mp starts).1
  induction hn : pieces.length using Nat.strong_induction_on generalizing pieces with
  | h n ih =>
    rw [List.map_append, List.map_singleton] at ih ⊢
    rcases scan_cases (f := id) lifted pieces with ⟨r, mem, rest, there, found, scanned⟩ | none
    · obtain ⟨known, -, rfl⟩ := List.mem_map.mp mem
      have shorter : rest.length < n := by
        have length := congrArg List.length there
        have positive := List.length_pos_iff.mpr (lifted _ mem)
        rw [List.length_append] at length
        omega
      have first : (rules.map lift ++ [lift rule]).find? (fun r => r.1 <+: (lift known).1 ++ rest) =
          some (lift known) := by
        rw [List.find?_append, ← there, found]
        rfl
      rw [scanned, there, scan_match (lifted _ mem) first, ih _ shorter rest rfl]
      exact (scan_keep (f := id) (absent known.2 (scan (rules.map lift) id 0 rest))).symm
    · by_cases here : (lift rule).1 <+: pieces
      · obtain ⟨rest, there⟩ := here
        have shorter : rest.length < n := by
          have length := congrArg List.length there
          have positive := List.length_pos_iff.mpr own
          rw [List.length_append] at length
          omega
        have first : (rules.map lift ++ [lift rule]).find? (fun r => r.1 <+: (lift rule).1 ++ rest) =
            some (lift rule) := by
          have others : (rules.map lift).find? (fun r => r.1 <+: (lift rule).1 ++ rest) = Option.none := by
            rw [there, List.find?_eq_none]
            intro r mem
            rw [decide_eq_true_iff]
            exact none r mem
          rw [List.find?_append, others, Option.none_or, List.find?_cons_of_pos]
          exact decide_eq_true (List.prefix_append _ rest)
        have alone : [lift rule].find? (fun r => r.1 <+: (lift rule).1 ++ scan (rules.map lift) id 0 rest) =
            some (lift rule) := by
          rw [List.find?_cons_of_pos]
          exact decide_eq_true (List.prefix_append _ _)
        have kept : scan (rules.map lift) id 0 ((lift rule).1 ++ rest) =
            (lift rule).1 ++ scan (rules.map lift) id 0 rest := scan_token apart (there ▸ none)
        rw [← there, scan_match own first, kept, scan_match own alone, ih _ shorter rest rfl]
      · cases pieces with
        | nil => rfl
        | cons piece rest =>
          have shorter : rest.length < n := by
            rw [← hn]
            exact Nat.lt_succ_self _
          have neither : ∀ r ∈ rules.map lift ++ [lift rule], ¬ r.1 <+: piece :: rest := by
            intro r mem
            rcases List.mem_append.mp mem with known | only
            · exact none r known
            · cases List.mem_singleton.mp only
              exact here
          have later : ∀ r ∈ [lift rule], ¬ r.1 <+: piece :: scan (rules.map lift) id 0 rest := by
            intro r only starts
            cases List.mem_singleton.mp only
            have scanned := scan_keep (f := id) none
            exact here (template_scan lifted (scanned ▸ starts))
          rw [scan_keep neither, scan_keep none, ih _ shorter rest rfl]
          exact (scan_keep later).symm

/-- What is inserted are the values of the rules. -/
theorem scan_blocks (nonempty : ∀ r ∈ rules, r.1 ≠ []) {block : List α} (pieces : List (Piece α))
    (mem : .inr block ∈ scan (rules.map lift) id 0 pieces) :
    .inr block ∈ pieces ∨ ∃ r ∈ rules, r.2 = block := by
  induction hn : pieces.length using Nat.strong_induction_on generalizing pieces with
  | h n ih =>
    rcases scan_cases (f := id) (lift_nonempty nonempty) pieces with ⟨r, known, rest, there, -, scanned⟩ | none
    · obtain ⟨own, rule, rfl⟩ := List.mem_map.mp known
      have shorter : rest.length < n := by
        have length := congrArg List.length there
        have positive := List.length_pos_iff.mpr (lift_nonempty nonempty _ known)
        rw [List.length_append] at length
        omega
      rw [scanned] at mem
      rcases List.mem_cons.mp mem with same | later
      · exact .inr ⟨own, rule, (Sum.inr.inj same).symm⟩
      · rcases ih _ shorter rest later rfl with before | inserted
        · exact .inl (there ▸ List.mem_append_right _ before)
        · exact .inr inserted
    · cases pieces with
      | nil => exact .inl mem
      | cons piece rest =>
        have shorter : rest.length < n := by
          rw [← hn]
          exact Nat.lt_succ_self _
        rw [scan_keep none] at mem
        rcases List.mem_cons.mp mem with same | later
        · exact .inl (same ▸ List.mem_cons_self)
        · rcases ih _ shorter rest later rfl with before | inserted
          · exact .inl (List.mem_cons_of_mem _ before)
          · exact .inr inserted

/-- One pass with all the rules, on the template as pieces. -/
theorem substitute_eq_flat (text : List α) :
    substitute rules text = flat (scan (rules.map lift) id 0 (template text)) := by
  have each : ∀ skip, (scan rules (fun c => [c]) skip text).flatten =
      flat (scan (rules.map lift) id skip (template text)) := by
    induction text with
    | nil => exact fun _ => rfl
    | cons c text ih =>
      intro skip
      cases skip with
      | succ skip => exact ih skip
      | zero =>
        have found : (rules.map lift).find? (fun r => r.1 <+: .inl c :: template text) =
            (rules.find? fun r => r.1 <+: c :: text).map lift := by
          rw [List.find?_map]
          congr 2
          funext r
          exact decide_eq_decide.mpr (template_prefix_iff (u := c :: text))
        have step : flat (scan (rules.map lift) id 0 (.inl c :: template text)) =
            (scan rules (fun c => [c]) 0 (c :: text)).flatten := by
          rw [scan, scan, found]
          cases hit : rules.find? fun r => r.1 <+: c :: text with
          | none =>
            change c :: flat _ = c :: List.flatten _
            rw [ih]
          | some r =>
            have length : (lift r).1.length = r.1.length := List.length_map ..
            change r.2 ++ flat (scan _ id ((lift r).1.length - 1) _) = r.2 ++ List.flatten _
            rw [ih, length]
        exact step.symm
  exact each 0

/-- **One pass for each rule is one pass for all**, when no token begins inside another
and no value can be part of a token. -/
theorem foldl_substitute (nonempty : ∀ r ∈ rules, r.1 ≠ [])
    (apart : ∀ r ∈ rules, ∀ r' ∈ rules, Apart r.1 r'.1)
    (foreign : ∀ r ∈ rules, ∀ r' ∈ rules, Foreign r.2 r'.1) (text : List α) :
    rules.foldl (fun text rule => substitute [rule] text) text = substitute rules text := by
  induction rules using List.reverseRecOn with
  | nil =>
    induction text with
    | nil => rfl
    | cons c text ih =>
      rw [substitute_keep (fun _ none => absurd none List.not_mem_nil), ← ih]
      rfl
  | append_singleton rules rule ih =>
    have before : ∀ r ∈ rules, r ∈ rules ++ [rule] := fun _ => List.mem_append_left _
    have last : rule ∈ rules ++ [rule] := List.mem_append_right _ (List.mem_singleton_self rule)
    have filled : ∀ r ∈ rules, r.1 ≠ [] := fun r mem => nonempty r (before r mem)
    have passed : ∀ block, .inr block ∈ scan (rules.map lift) id 0 (template text) → Foreign block rule.1 := by
      intro block mem
      rcases scan_blocks filled _ mem with own | ⟨r, known, rfl⟩
      · obtain ⟨c, -, same⟩ := List.mem_map.mp own
        cases same
      · exact foreign r (before r known) rule last
    rw [List.foldl_append, ih filled (fun r mem r' mem' => apart r (before r mem) r' (before r' mem'))
      (fun r mem r' mem' => foreign r (before r mem) r' (before r' mem'))]
    change substitute [rule] (substitute rules text) = _
    have flattened : substitute rules text = flat (scan (rules.map lift) id 0 (template text)) :=
      substitute_eq_flat text
    rw [flattened, substitute_pass (nonempty rule last) _ passed,
      ← scan_append filled (nonempty rule last) fun r mem => apart rule last r (before r mem),
      ← substitute_eq_flat]

/-- The order of the rules is of no account when no token begins another. -/
theorem substitute_perm {rules' : List (List α × List α)} (perm : rules.Perm rules')
    (single : ∀ r ∈ rules, ∀ r' ∈ rules, r.1 <+: r'.1 → r = r') (text : List α) :
    substitute rules text = substitute rules' text := by
  have first : ∀ text : List α, rules.find? (fun r => r.1 <+: text) = rules'.find? fun r => r.1 <+: text := by
    intro text
    cases hit : rules.find? (fun r => r.1 <+: text) with
    | none =>
      symm
      rw [List.find?_eq_none] at hit ⊢
      exact fun r mem => hit r (perm.mem_iff.mpr mem)
    | some r =>
      have known := List.mem_of_find?_eq_some hit
      have starts := of_decide_eq_true (List.find?_some (p := fun r : List α × List α => decide (r.1 <+: text)) hit)
      cases hit' : rules'.find? (fun r => r.1 <+: text) with
      | none =>
        have none := List.find?_eq_none.mp hit' r (perm.mem_iff.mp known)
        exact absurd (decide_eq_true starts) none
      | some r' =>
        have known' := perm.mem_iff.mpr (List.mem_of_find?_eq_some hit')
        have starts' := of_decide_eq_true
          (List.find?_some (p := fun r : List α × List α => decide (r.1 <+: text)) hit')
        rcases List.prefix_or_prefix_of_prefix starts starts' with shorter | longer
        · rw [single r known r' known' shorter]
        · rw [single r' known' r known longer]
  have each : ∀ skip, scan rules (fun c => [c]) skip text = scan rules' (fun c => [c]) skip text := by
    induction text with
    | nil => intro skip; cases skip <;> rfl
    | cons c text ih =>
      intro skip
      cases skip with
      | succ skip => exact ih skip
      | zero =>
        rw [scan, scan, first]
        cases rules'.find? fun r => r.1 <+: c :: text with
        | none => exact congrArg _ (ih 0)
        | some r => exact congrArg _ (ih _)
  rw [substitute, each 0, substitute]

end

end Fireball.Foundation
