import Fireball.Session.Rotation

/-!
# Single use

A pairing ticket and a signaling token are spent alike: the call that presents the
string takes its hash out of an index before it waits for the runtime, and no
step puts a hash back.

* `presented_parked`: a call goes on only with a string it took from the index;
* `uses_step`: how a string comes to be used;
* `OneUse`: a used string is out of its index and was used by one call.
-/

namespace Fireball.Session

open Foundation

/-- The two calls that spend a credential. -/
inductive Stage
  | exchange
  | authorize

namespace Stage

def call : Stage → String → Call
  | exchange => .exchangeSignalingTicket
  | authorize => .authorizeSignalingToken

def index : Stage → Store → JsMap String CredentialBinding
  | exchange => Store.pairingTickets
  | authorize => Store.signalingTokens

/-- The string that was presented and the session key it was bound to. -/
def presents : Stage → Caller → Option (String × String)
  | exchange, .exchange ticket k _ => some (ticket, k)
  | authorize, .authorize token k => some (token, k)
  | _, _ => none

def Succeeds : Stage → Outcome → Prop
  | exchange, .tokenIssued _ => True
  | authorize, .authorized _ => True
  | _, _ => False

end Stage

/-- Call `c` presented `x` and has gone on with it, or has succeeded. -/
def Uses (stage : Stage) (s : State) (c : Nat) (x : String) : Prop :=
  .called c (stage.call x) ∈ s.history ∧
    ((∃ p caller k, s.calls.get c = some p ∧ p.caller = some caller ∧
      stage.presents caller = some (x, k)) ∨
    ∃ outcome, .answered c outcome ∈ s.history ∧ stage.Succeeds outcome)

/-! ## One step -/

@[simp] theorem takeTicket_index (s : Store) (hash : String) :
    (takePairingTicket s hash).pairingTickets = s.pairingTickets.delete hash := by
  unfold takePairingTicket
  split
  · rfl
  split
  · rfl
  split <;> rfl

@[simp] theorem takeToken_index (s : Store) (hash : String) :
    (takeSignalingToken s hash).signalingTokens = s.signalingTokens.delete hash := by
  unfold takeSignalingToken
  split
  · rfl
  split <;> rfl

section
variable {cfg : Config} {s t : State} {e : Event} {stage : Stage} {x k : String}

@[simp] theorem observe_store (base : State) (c : Nat) (k : String) (r : SessionRecord)
    (caller : Caller) : (observeRuntime base c k r caller).store = base.store := by
  unfold observeRuntime
  split <;> rfl

theorem observe_caller {base : State} {c : Nat} {r : SessionRecord} {caller : Caller} {p : Pending}
    (hp : (observeRuntime base c k r caller).calls.get c = some p) : p.caller = some caller := by
  rcases observe_parked hp with ⟨rfl, -⟩ | rfl <;> rfl

theorem exchange_parked (base : State) {c : Nat} {d : Draw} {p : Pending} {ticket : String}
    (hp : (exchangeSignalingTicket cfg base c ticket d).calls.get c = some p) :
    ∃ b ref, base.store.pairingTickets.get (cfg.sha256 ticket) = some b ∧ d.now < b.expiresAt ∧
      (exchangeSignalingTicket cfg base c ticket d).store =
        takePairingTicket base.store (cfg.sha256 ticket) ∧
      p.caller = some (.exchange ticket b.sessionKey ref) := by
  unfold exchangeSignalingTicket at hp ⊢
  cases hh : hashPresentedCredential cfg ticket with
  | error e =>
    simp only [hh] at hp
    exact absurd hp not_parked_answered
  | ok hash =>
    have hashed : hash = cfg.sha256 ticket := by
      unfold hashPresentedCredential at hh
      split at hh <;> cases hh
      rfl
    subst hashed
    simp only [hh] at hp ⊢
    cases hb : base.store.pairingTickets.get (cfg.sha256 ticket) with
    | none =>
      simp only [hb] at hp
      exact absurd hp not_parked_answered
    | some b =>
      simp only [hb] at hp ⊢
      split at hp
      · rename_i r cr hr hcr
        split at hp
        · exact absurd hp not_parked_answered
        · rename_i valid
          have early : d.now < b.expiresAt := by omega
          refine ⟨b, cr.ref, rfl, early, ?_, observe_caller hp⟩
          simp only [if_neg valid, observe_store]
      · exact absurd hp not_parked_answered

theorem authorize_call_parked (base : State) {c : Nat} {d : Draw} {p : Pending} {token : String}
    (hp : (authorizeSignalingToken cfg base c token d).calls.get c = some p) :
    ∃ b, base.store.signalingTokens.get (cfg.sha256 token) = some b ∧ d.now < b.expiresAt ∧
      (authorizeSignalingToken cfg base c token d).store =
        takeSignalingToken base.store (cfg.sha256 token) ∧
      p.caller = some (.authorize token b.sessionKey) := by
  unfold authorizeSignalingToken at hp ⊢
  cases hh : hashPresentedCredential cfg token with
  | error e =>
    simp only [hh] at hp
    exact absurd hp not_parked_answered
  | ok hash =>
    have hashed : hash = cfg.sha256 token := by
      unfold hashPresentedCredential at hh
      split at hh <;> cases hh
      rfl
    subst hashed
    simp only [hh] at hp ⊢
    cases hb : base.store.signalingTokens.get (cfg.sha256 token) with
    | none =>
      simp only [hb] at hp
      exact absurd hp not_parked_answered
    | some b =>
      simp only [hb] at hp ⊢
      split at hp
      · exact absurd hp not_parked_answered
      · rename_i r hr
        split at hp
        · exact absurd hp not_parked_answered
        · rename_i valid
          have early : d.now < b.expiresAt := by omega
          refine ⟨b, rfl, early, ?_, observe_caller hp⟩
          simp only [if_neg valid, observe_store]

/-- A call that goes on with a string presented it before its `expiresAt`, and took it. -/
theorem presented_parked {call : Call} {d : Draw} {p : Pending} {caller : Caller}
    (hp : (makeCall cfg s call d).calls.get s.nextCall = some p) (hc : p.caller = some caller)
    (presents : stage.presents caller = some (x, k)) :
    call = stage.call x ∧
    (∃ b, (stage.index s.store).get (cfg.sha256 x) = some b ∧ b.sessionKey = k ∧
      d.now < b.expiresAt) ∧
    (stage.index (makeCall cfg s call d).store).get (cfg.sha256 x) = none := by
  rcases makeCall_parked hp with ⟨_, -, rfl⟩ | ⟨k', r, caller', stored, goes, parked, -⟩ |
    ⟨_, _, _, _, -, rfl⟩ | ⟨_, _, _, -, rfl⟩
  · cases hc
  · have same : caller' = caller := by
      rcases parked with ⟨rfl, -⟩ | rfl <;> exact Option.some.inj hc
    subst same
    cases stage with
    | exchange =>
      cases caller' with
      | exchange ticket _ ref =>
        cases presents
        obtain ⟨-, rfl⟩ := goes
        obtain ⟨b, ref', hb, early, store, hc'⟩ := exchange_parked (s.begin _) hp
        cases hc.symm.trans hc'
        refine ⟨rfl, ⟨b, hb, rfl, early⟩, ?_⟩
        simp [makeCall, startCall, store, Stage.index]
      | _ => cases presents
    | authorize =>
      cases caller' with
      | authorize token _ =>
        cases presents
        obtain ⟨-, rfl⟩ := goes
        obtain ⟨b, hb, early, store, hc'⟩ := authorize_call_parked (s.begin _) hp
        cases hc.symm.trans hc'
        refine ⟨rfl, ⟨b, hb, rfl, early⟩, ?_⟩
        simp [makeCall, startCall, store, Stage.index]
      | _ => cases presents
  · cases hc
  · cases hc

/-- A step that answers with success resumes a call that has gone on with a string. -/
theorem succeeds_advance {c : Nat} {old new : Option Pending} {store : Store} {es : List Entry}
    (ht : Transition cfg s e c old new store es) {c' : Nat} {outcome : Outcome}
    (answered : .answered c' outcome ∈ es) (success : stage.Succeeds outcome) :
    c' = c ∧ ∃ p caller x k, old = some p ∧ p.caller = some caller ∧
      stage.presents caller = some (x, k) := by
  have quiet : ∀ {new es}, QuietEntries c new es → .answered c' outcome ∉ es := by
    intro new es he
    cases he with
    | still | asked => simp
    | done ho =>
      intro hm
      obtain ⟨-, rfl⟩ := Entry.answered.inj (List.mem_singleton.mp hm)
      cases stage <;> cases outcome <;> trivial
  cases ht with
  | moved _ _ he => exact absurd answered (quiet he)
  | begun _ _ he | ticketTaken _ _ he | tokenTaken _ _ he =>
    rcases List.mem_append.mp answered with now | now
    · exact absurd now (quiet he)
    · simp at now
  | minted =>
    obtain ⟨rfl, rfl⟩ := Entry.answered.inj (List.mem_singleton.mp answered)
    cases stage with
    | exchange => exact ⟨rfl, _, _, _, _, rfl, rfl, rfl⟩
    | authorize => cases success
  | authorized =>
    obtain ⟨rfl, rfl⟩ := Entry.answered.inj (List.mem_singleton.mp answered)
    cases stage with
    | exchange => cases success
    | authorize => exact ⟨rfl, _, _, _, _, rfl, rfl, rfl⟩
  | reserved | burning | lost => simp at answered
  | _ =>
    obtain ⟨-, rfl⟩ := Entry.answered.inj (List.mem_singleton.mp answered)
    cases stage <;> cases success

theorem presents_continues {caller : Caller} {call : Call} {k' : String}
    (presents : stage.presents caller = some (x, k)) (goes : caller.Continues k' call) :
    k' = k ∧ call = stage.call x := by
  cases stage <;> cases caller <;> cases presents
  · exact ⟨goes.1.symm, goes.2⟩
  · exact ⟨goes.1.symm, goes.2⟩

theorem Pending.Continues.presents {p : Pending} {caller : Caller} {call : Call}
    (goes : p.Continues call) (hc : p.caller = some caller)
    (presents : stage.presents caller = some (x, k)) : call = stage.call x := by
  cases p with
  | inspecting =>
    cases hc
    exact (presents_continues presents goes).2
  | observed =>
    cases hc
    obtain ⟨k', goes, -⟩ := goes
    exact (presents_continues presents goes).2
  | _ => cases hc

theorem Stage.call_inj {y : String} (h : stage.call x = stage.call y) : x = y := by
  cases stage <;> exact (by simpa [Stage.call] using h)

/-- A used string was used before the step, or the step presents it and takes it. -/
theorem uses_step (tr : Traced s) (h : step cfg s e = some t) {c : Nat} (uses : Uses stage t c x) :
    Uses stage s c x ∨ (c = s.nextCall ∧ e = .call (stage.call x) e.draw ∧
      (∃ k, boundTo (stage.index s.store) (cfg.sha256 x) = some k) ∧
      (stage.index t.store).get (cfg.sha256 x) = none) := by
  obtain ⟨called, used⟩ := uses
  -- a call that was named before the step is named as it is after
  have older : ∀ call, .called c call ∈ s.history → .called c (stage.call x) ∈ s.history := by
    intro call before
    obtain ⟨c', old, new, store, es, stands, ht, rfl⟩ := step_transition h
    rcases List.mem_append.mp called with now | was
    · exact absurd now (older_not_named tr stands ht before _)
    · exact was
  rcases used with ⟨p, caller, k, hp, hc, presents⟩ | ⟨outcome, answered, success⟩
  · rcases caller_step h hp hc with ⟨q, hq, hqc⟩ | ⟨call, d, rfl, rfl, made⟩
    · obtain ⟨call, called', -⟩ := tr.parked c q hq
      exact .inl ⟨older call called', .inl ⟨q, caller, k, hq, hqc, presents⟩⟩
    · rw [← made] at hp
      obtain ⟨rfl, ⟨b, hb, -, -⟩, gone⟩ := presented_parked hp hc presents
      rw [made] at gone
      exact .inr ⟨rfl, rfl, ⟨_, by rw [boundTo, hb]; rfl⟩, gone⟩
  · left
    obtain ⟨c', old, new, store, es, stands, ht, rfl⟩ := step_transition h
    rcases List.mem_append.mp answered with now | before
    · obtain ⟨rfl, p, caller, y, k, rfl, hc, presents⟩ := succeeds_advance ht now success
      obtain ⟨call, called', goes⟩ := tr.parked c p stands
      obtain rfl := goes.presents hc presents
      have same := tr.once c _ _ called' (older _ called')
      obtain rfl := Stage.call_inj same
      exact ⟨called', .inl ⟨p, caller, k, stands, hc, presents⟩⟩
    · obtain ⟨-, call, called'⟩ := tr.answered c outcome before
      exact ⟨older call called', .inr ⟨outcome, before, success⟩⟩

end

/-! ## Once -/

/-- A presented string has the hash of no other credential handed out. -/
def Distinct (cfg : Config) (s : State) (x : String) : Prop :=
  ∀ issued ∈ issuedCredentials s.history, cfg.sha256 issued = cfg.sha256 x → issued = x

instance (cfg : Config) (s : State) (x : String) : Decidable (Distinct cfg s x) := by
  unfold Distinct; infer_instance

/-- No string that is presented collides with a credential handed out. -/
def NoHashCollision (cfg : Config) (s : State) : Event → Prop
  | .call (.exchangeSignalingTicket ticket) _ => Distinct cfg s ticket
  | .call (.authorizeSignalingToken token) _ => Distinct cfg s token
  | _ => True

instance (cfg : Config) (s : State) : (e : Event) → Decidable (NoHashCollision cfg s e)
  | .call (.exchangeSignalingTicket ticket) _ => inferInstanceAs (Decidable (Distinct cfg s ticket))
  | .call (.authorizeSignalingToken token) _ => inferInstanceAs (Decidable (Distinct cfg s token))
  | .call (.create _) _ | .call (.get _ _) _ | .call (.issueSignalingTicket _ _) _ | .call (.tab _ _ _) _
  | .call (.burn _ _) _ | .settle _ _ _ | .resume _ _ => inferInstanceAs (Decidable True)

structure OneUse (cfg : Config) (stage : Stage) (s : State) : Prop where
  issued : ∀ c x, Uses stage s c x → x ∈ issuedCredentials s.history
  gone : ∀ c x, Uses stage s c x → (stage.index s.store).get (cfg.sha256 x) = none
  alone : ∀ c c' x, Uses stage s c x → Uses stage s c' x → c = c'

theorem oneUse_initial (cfg : Config) (stage : Stage) : OneUse cfg stage State.initial := by
  have none : ∀ c x, ¬ Uses stage State.initial c x := by
    rintro c x ⟨called, -⟩
    simp [State.initial] at called
  exact ⟨fun c x h => absurd h (none c x), fun c x h => absurd h (none c x),
    fun c c' x h => absurd h (none c x)⟩

section
variable {cfg : Config} {s t : State} {e : Event} {stage : Stage} {x : String}

theorem boundTo_index {base : Store} {hash k : String}
    (h : boundTo (stage.index base) hash = some k) :
    boundTo base.pairingTickets hash = some k ∨ boundTo base.signalingTokens hash = some k := by
  cases stage with
  | exchange => exact .inl h
  | authorize => exact .inr h

theorem issued_step (h : step cfg s e = some t) (mem : x ∈ issuedCredentials s.history) :
    x ∈ issuedCredentials t.history := by
  obtain ⟨c, old, new, store, es, -, -, rfl⟩ := step_transition h
  simp only [advance_history, issuedCredentials, List.filterMap_append, List.mem_append]
  exact .inr mem

/-- The hash of a credential handed out is not put into an index again. -/
theorem gone_kept (fresh : FreshCredential cfg s e) (h : step cfg s e = some t)
    (issued : x ∈ issuedCredentials s.history)
    (gone : (stage.index s.store).get (cfg.sha256 x) = none) :
    (stage.index t.store).get (cfg.sha256 x) = none := by
  have other : cfg.sha256 x ≠ cfg.sha256 e.draw.credential := fun same =>
    fresh (List.mem_map.mpr ⟨x, issued, same⟩)
  obtain ⟨c, old, new, store, es, -, ht, rfl⟩ := step_transition h
  rw [advance_store]
  cases hb : (stage.index store).get (cfg.sha256 x) with
  | none => rfl
  | some b =>
    exfalso
    cases stage with
    | exchange =>
      rcases ticket_advance ht hb with before | ⟨same, -⟩
      · cases gone.symm.trans before
      · exact other same
    | authorize =>
      rcases token_advance ht hb with before | ⟨same, -⟩
      · cases gone.symm.trans before
      · exact other same

theorem oneUse_step (tr : Traced s) (stored : StoredAreIssued cfg s)
    (fresh : FreshCredential cfg s e) (distinct : NoHashCollision cfg s e)
    (h : step cfg s e = some t) (one : OneUse cfg stage s) : OneUse cfg stage t := by
  -- a string that this step takes was handed out, and nobody has used it
  have taken : ∀ y, e = .call (stage.call y) e.draw →
      (∃ k, boundTo (stage.index s.store) (cfg.sha256 y) = some k) →
      y ∈ issuedCredentials s.history ∧ ∀ c, ¬ Uses stage s c y := by
    rintro y ev ⟨k, bound⟩
    constructor
    · obtain ⟨z, hz, same⟩ := List.mem_map.mp (stored _ k (boundTo_index bound))
      rw [ev] at distinct
      cases stage with
      | exchange => exact distinct z hz same ▸ hz
      | authorize => exact distinct z hz same ▸ hz
    · intro c uses
      have gone := one.gone c y uses
      rw [boundTo, gone] at bound
      cases bound
  refine ⟨fun c y uses => ?_, fun c y uses => ?_, fun c c' y uses uses' => ?_⟩
  · rcases uses_step tr h uses with before | ⟨-, ev, bound, -⟩
    · exact issued_step h (one.issued c y before)
    · exact issued_step h (taken y ev bound).1
  · rcases uses_step tr h uses with before | ⟨-, -, -, gone⟩
    · exact gone_kept fresh h (one.issued c y before) (one.gone c y before)
    · exact gone
  · rcases uses_step tr h uses with before | ⟨rfl, ev, bound, -⟩ <;>
      rcases uses_step tr h uses' with before' | ⟨rfl, ev', bound', -⟩
    · exact one.alone c c' y before before'
    · exact absurd before ((taken y ev' bound').2 c)
    · exact absurd before' ((taken y ev bound).2 c')
    · rfl

end

end Fireball.Session
