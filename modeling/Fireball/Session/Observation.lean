import Fireball.Session.Revocation

/-!
# What an inspection does to the service

* `step_spares`: outside `burn`, only a failed inspection of the record that is still
  current takes a session down;
* `Refused`: a call that reads a session and whose inspection is not answered; its steps
  leave the maps alone (`refused_settle`, `refused_resume`).
-/

namespace Fireball.Session

open Foundation

/-! ## Taking a session down -/

def FailedAt (s : State) (k : String) : Prop :=
  ∃ r, s.store.sessions.get k = some r ∧ r.phase = .failed

/-- A failed inspection of `r` is returned while `r` is the current active record under `k`. -/
def Lost (s : State) (e : Event) (k : String) (r : SessionRecord) : Prop :=
  ∃ c caller current failure d, e = .settle c (.inspected (.ok (.failed failure))) d ∧
    s.calls.get c = some (.inspecting k r caller) ∧ s.store.sessions.get k = some current ∧
    current.ref = r.ref ∧ current.phase = .active

/-- The steps of `burn`. -/
def OfBurn (s : State) : Event → Prop
  | .call (.burn _ _) _ => True
  | .settle c _ _ => ∃ k r, s.calls.get c = some (.destroying k r)
  | _ => False

/-- The session under `k` is taken down, and no other. -/
structure Dies (s t : State) (k : String) (r : SessionRecord) : Prop where
  failed : FailedAt t k
  credentials : t.store.credentialsBySession.get k = none
  revoked : t.history = .revoked r.id :: s.history
  others : ∀ k', k ≠ k' → t.store.sessions.get k' = s.store.sessions.get k' ∧
    t.store.credentialsBySession.get k' = s.store.credentialsBySession.get k'

/-- No session is taken down. -/
structure Spared (s t : State) : Prop where
  failed : ∀ k, FailedAt t k → FailedAt s k
  credentials : ∀ k, (s.store.credentialsBySession.get k).isSome = true →
    (t.store.credentialsBySession.get k).isSome = true
  revoked : ∃ es, t.history = es ++ s.history ∧ ∀ id, .revoked id ∉ es

section
variable {cfg : Config} {s t : State} {e : Event}

theorem isSome_set {m : JsMap String SessionCredentials} {k k' : String} {v : SessionCredentials}
    (there : (m.get k').isSome = true) : ((m.set k v).get k').isSome = true := by
  rw [JsMap.get_set]
  split
  · rfl
  · exact there

theorem revoke_other (s : Store) {k k' : String} (other : k ≠ k') :
    (revokeCredentials s k).credentialsBySession.get k' = s.credentialsBySession.get k' := by
  unfold revokeCredentials
  split
  · rfl
  · exact JsMap.get_delete_ne other

theorem revoke_own (s : Store) (k : String) : (revokeCredentials s k).credentialsBySession.get k = none := by
  unfold revokeCredentials
  split
  · assumption
  · exact JsMap.get_delete_self

theorem takeTicket_keeps (s : Store) (hash k : String) (there : (s.credentialsBySession.get k).isSome = true) :
    ((takePairingTicket s hash).credentialsBySession.get k).isSome = true := by
  unfold takePairingTicket
  dsimp only
  split
  · exact there
  · split
    · exact there
    · split
      · exact isSome_set there
      · exact there

theorem takeToken_keeps (s : Store) (hash k : String) (there : (s.credentialsBySession.get k).isSome = true) :
    ((takeSignalingToken s hash).credentialsBySession.get k).isSome = true := by
  unfold takeSignalingToken
  dsimp only
  split
  · exact there
  · split
    · exact there
    · exact isSome_set there

/-- A failed inspection of the current active record takes its session down. -/
theorem lost_dies {k : String} {r : SessionRecord} (lost : Lost s e k r) (h : step cfg s e = some t) :
    Dies s t k r := by
  obtain ⟨c, caller, current, failure, d, rfl, parked, stored, ref, active⟩ := lost
  simp only [step, parked, Option.bind_some, settle, runtimeInspected, stored, ref, active, ne_eq, not_true,
    or_self, if_false, Option.some.injEq] at h
  subst h
  refine ⟨⟨_, JsMap.get_set_self, rfl⟩, revoke_own s.store k, rfl, fun k' ne => ⟨?_, revoke_other s.store ne⟩⟩
  change ((revokeCredentials s.store k).putRecord k _).sessions.get k' = _
  rw [putRecord_sessions, JsMap.get_set_ne ne, revoke_sessions]

/-- **What takes a session down.** -/
theorem step_spares (h : step cfg s e = some t) (other : ¬ OfBurn s e) :
    (∃ k r, Lost s e k r ∧ Dies s t k r) ∨ Spared s t := by
  obtain ⟨c, old, new, store, es, stands, ht, rfl⟩ := step_transition h
  have same : ∀ {base : Store}, base.sessions = s.store.sessions → ∀ k,
      (∃ r, base.sessions.get k = some r ∧ r.phase = .failed) → FailedAt s k := by
    rintro base eq k ⟨r, hr, failed⟩
    exact ⟨r, eq ▸ hr, failed⟩
  cases ht with
  | moved _ _ he =>
    exact .inr ⟨same rfl, fun k there => there, _, rfl, quietEntries_revoked he⟩
  | begun _ _ he =>
    exact .inr ⟨same rfl, fun k there => there, _, rfl, by simp [quietEntries_revoked he]⟩
  | reserved _ ok =>
    rw [(reserve_ok ok).2.2.2.2.2]
    exact .inr ⟨same rfl, fun k there => there, _, rfl, by simp⟩
  | released => exact .inr ⟨same rfl, fun k there => there, _, rfl, by simp⟩
  | created _ ok =>
    obtain ⟨cr, -, rfl, -⟩ := rotate_ok ok
    refine .inr ⟨?_, fun k there => isSome_set (isSome_set there), _, rfl, by simp⟩
    rintro k ⟨r, hr, failed⟩
    change (s.store.sessions.set _ _).get k = some r at hr
    rw [JsMap.get_set] at hr
    split at hr
    · cases hr
      cases failed
    · exact ⟨r, hr, failed⟩
  | ticketTaken _ _ he =>
    exact .inr ⟨same (takeTicket_sessions _ _), takeTicket_keeps _ _, _, rfl, by simp [quietEntries_revoked he]⟩
  | tokenTaken _ _ he =>
    exact .inr ⟨same (takeToken_sessions _ _), takeToken_keeps _ _, _, rfl, by simp [quietEntries_revoked he]⟩
  | rotated ok =>
    obtain ⟨cr, -, rfl, -⟩ := rotate_ok ok
    exact .inr ⟨same rfl, fun k there => isSome_set there, _, rfl, by simp⟩
  | minted => exact .inr ⟨same rfl, fun k there => isSome_set there, _, rfl, by simp⟩
  | authorized => exact .inr ⟨same rfl, fun k there => there, _, rfl, by simp⟩
  | burning he =>
    rw [he] at other
    exact absurd trivial other
  | removed he | restored he =>
    rw [he] at other
    exact absurd ⟨_, _, stands⟩ other
  | @lost k record caller current failure failed hc ref active he =>
    have lost : Lost s e k record := ⟨c, caller, current, failure, _, he, stands, hc, ref, active⟩
    exact .inl ⟨k, record, lost, lost_dies lost h⟩

end

/-! ## An inspection that is not answered -/

/-- The calls that read a session. -/
def Call.Reads : Call → Prop
  | .get _ _ => True
  | .issueSignalingTicket _ _ => True
  | .tab _ _ _ => True
  | _ => False

def Caller.Reads : Caller → Prop
  | .get => True
  | .issueSignalingTicket _ => True
  | .activeRuntime _ => True
  | _ => False

/-- Where such a call stands that has been told of no active record. -/
def Pending.Refused : Pending → Prop
  | .inspecting _ _ caller => caller.Reads
  | .observed result caller => caller.Reads ∧ ∀ r, result = .ok r → r.phase ≠ .active
  | .activated result _ => ∀ resource, result ≠ .ok resource
  | _ => False

/-- The event answers the inspection of call `c`. -/
def Event.Answers (c : Nat) (e : Event) : Prop :=
  ∃ inspection d, e = .settle c (.inspected (.ok inspection)) d

/-- Nothing is written, and nobody is revoked. -/
def Untouched (s t : State) : Prop :=
  t.store = s.store ∧ ∃ es, t.history = es ++ s.history ∧ ∀ id, .revoked id ∉ es

structure Refused (s : State) (c : Nat) : Prop where
  made : c < s.nextCall
  parked : ∀ p, s.calls.get c = some p → p.Refused

section
variable {cfg : Config} {s t : State} {d : Draw} {c : Nat}

theorem answer_untouched (s : State) (c : Nat) (outcome : Outcome) : Untouched s (s.answer c outcome) :=
  ⟨rfl, [_], rfl, by simp⟩

theorem park_untouched (s : State) (c : Nat) (p : Pending) : Untouched s (s.park c p) :=
  ⟨rfl, [], rfl, by simp⟩

theorem reads_of_continues {caller : Caller} {k : String} {call : Call} (goes : caller.Continues k call)
    (reads : call.Reads) : caller.Reads := by
  cases caller with
  | get | issueSignalingTicket | activeRuntime => trivial
  | exchange =>
    obtain ⟨-, rfl⟩ := goes
    exact reads
  | authorize =>
    obtain ⟨-, rfl⟩ := goes
    exact reads

theorem refused_makeCall {call : Call} (reads : call.Reads) :
    Untouched s (makeCall cfg s call d) ∧ Refused (makeCall cfg s call d) s.nextCall := by
  obtain ⟨new, store, es, ht, eq⟩ := makeCall_transition cfg s call d
  refine ⟨?_, ?_, fun p hp => ?_⟩
  · rw [eq]
    cases ht with
    | begun _ _ he => exact ⟨rfl, _, rfl, by simp [quietEntries_revoked he]⟩
    | reserved ev | ticketTaken ev | tokenTaken ev | burning ev =>
      cases ev
      exact absurd reads id
  · rw [eq]
    exact Nat.lt_succ_self _
  · rcases makeCall_parked hp with ⟨context, rfl, -⟩ | ⟨k, r, caller, -, goes, stands, -⟩ |
      ⟨context, id, operation, e, -, rfl⟩ | ⟨context, id, r, rfl, -⟩
    · exact absurd reads id
    · have own := reads_of_continues goes reads
      rcases stands with ⟨rfl, left⟩ | rfl
      · refine ⟨own, ?_⟩
        rintro _ ⟨⟩
        exact left
      · exact own
    · intro resource
      simp
    · exact absurd reads (by simp [Call.Reads])

theorem refused_settle {p : Pending} {reply : RuntimeReply} (refused : p.Refused)
    (h : settle cfg s c d p reply = some t) (unanswered : ∀ inspection, reply ≠ .inspected (.ok inspection)) :
    Untouched s t ∧ ∀ p', t.calls.get c = some p' → p'.Refused := by
  unfold settle at h
  split at h
  · cases refused
  · rename_i k r caller result
    cases h
    cases result with
    | ok inspection => exact absurd rfl (unanswered inspection)
    | error e =>
      refine ⟨park_untouched _ _ _, fun p' hp => ?_⟩
      rw [runtimeInspected, State.park, JsMap.get_set_self] at hp
      cases hp
      exact ⟨refused, by simp⟩
  · cases refused
  · cases refused
  · cases refused
  · cases h

theorem refused_resume {p : Pending} (refused : p.Refused) (h : resume cfg s c d p = some t) :
    Untouched s t ∧ ∀ p', t.calls.get c = some p' → p'.Refused := by
  have answered : ∀ outcome, Untouched s (s.answer c outcome) ∧
      ∀ p', (s.answer c outcome).calls.get c = some p' → p'.Refused := fun outcome =>
    ⟨answer_untouched s c outcome, fun p' hp => absurd hp not_parked_answered⟩
  have activated : ∀ e operation, Untouched s (s.park c (.activated (.error e) operation)) ∧
      ∀ p', (s.park c (.activated (.error e) operation)).calls.get c = some p' → p'.Refused := by
    refine fun e operation => ⟨park_untouched _ _ _, fun p' hp => ?_⟩
    rw [State.park, JsMap.get_set_self] at hp
    cases hp
    intro resource
    simp
  unfold resume at h
  split at h
  · rename_i r caller
    cases h
    have left : r.phase ≠ .active := refused.2 r rfl
    cases caller with
    | get => exact answered _
    | issueSignalingTicket k =>
      rw [resumeCaller, if_pos left]
      exact answered _
    | activeRuntime operation =>
      rw [resumeCaller, if_pos left]
      exact activated _ _
    | exchange | authorize => exact absurd refused.1 id
  · rename_i e caller
    cases h
    cases caller with
    | get => exact answered _
    | issueSignalingTicket k => exact answered _
    | activeRuntime operation => exact activated _ _
    | exchange | authorize => exact absurd refused.1 id
  · rename_i resource operation
    exact absurd rfl (refused resource)
  · cases h
    exact answered _
  · cases h

/-- The run lemma: a call that has been refused stays so until it is answered. -/
theorem refused_step {e : Event} (refused : Refused s c) (h : step cfg s e = some t)
    (unanswered : ¬ e.Answers c) : Refused t c := by
  have elsewhere : ∀ {c' old new store es}, t = s.advance c' old new store es → c' ≠ c → Refused t c := by
    rintro c' old new store es rfl ne
    refine ⟨Nat.lt_of_lt_of_le refused.made ?_, fun p hp => refused.parked p ?_⟩
    · dsimp only [State.advance]
      split <;> omega
    · rwa [advance_calls, if_neg ne] at hp
  cases e with
  | call call d =>
    obtain ⟨new, store, es, -, eq⟩ := makeCall_transition cfg s call d
    simp only [step, Option.some.injEq] at h
    exact elsewhere (h.symm.trans eq) (Nat.ne_of_gt refused.made)
  | settle c' reply d =>
    obtain ⟨p, hp, hs⟩ := Option.bind_eq_some_iff.mp h
    obtain ⟨new, store, es, -, eq⟩ := settle_transition hs
    by_cases same : c' = c
    · subst same
      have kept := (refused_settle (refused.parked p hp) hs fun inspection eq =>
        unanswered ⟨inspection, d, by rw [eq]⟩).2
      exact ⟨by rw [eq]; exact refused.made, kept⟩
    · exact elsewhere eq same
  | resume c' d =>
    obtain ⟨p, hp, hs⟩ := Option.bind_eq_some_iff.mp h
    obtain ⟨new, store, es, -, eq⟩ := resume_transition hs
    by_cases same : c' = c
    · subst same
      exact ⟨by rw [eq]; exact refused.made, (refused_resume (refused.parked p hp) hs).2⟩
    · exact elsewhere eq same

end

end Fireball.Session
