import Fireball.Session.Records

/-!
# Calls and their answers

The history names every call once, a call is parked exactly until it is
answered, and what a parked call goes on with is what it was called for.
-/

namespace Fireball.Session

open Foundation

/-- The caller of `observeRuntime` on key `k` is the rest of this call. -/
def Caller.Continues (k : String) : Caller → Call → Prop
  | .get, call => ∃ context id, call = .get context id ∧ k = key context.tenantId id
  | .issueSignalingTicket k', call =>
    k' = k ∧ ∃ context id, call = .issueSignalingTicket context id ∧ k = key context.tenantId id
  | .activeRuntime operation, call =>
    ∃ context id, call = .tab context id operation ∧ k = key context.tenantId id
  | .exchange ticket k' _, call => k' = k ∧ call = .exchangeSignalingTicket ticket
  | .authorize token k', call => k' = k ∧ call = .authorizeSignalingToken token

/-- The parked call is the rest of this call. A record that was observed for it
sits under the key it works on. -/
def Pending.Continues : Pending → Call → Prop
  | .creating _ tenantId, call => ∃ context, call = .create context ∧ tenantId = context.tenantId
  | .inspecting k _ caller, call => caller.Continues k call
  | .observed result caller, call =>
    ∃ k, caller.Continues k call ∧ ∀ r, result = .ok r → k = key r.tenantId r.id
  | .activated _ operation, call => ∃ context id, call = .tab context id operation
  | .tabbing _ operation, call => ∃ context id, call = .tab context id operation
  | .destroying k _, call => ∃ context id, call = .burn context id ∧ k = key context.tenantId id

section
variable {cfg : Config} {s t : State} {d : Draw}

theorem observe_parked {base : State} {c : Nat} {k : String} {r : SessionRecord}
    {caller : Caller} {p : Pending}
    (hp : (observeRuntime base c k r caller).calls.get c = some p) :
    (p = .observed (.ok r) caller ∧ r.phase ≠ .active) ∨ p = .inspecting k r caller := by
  unfold observeRuntime at hp
  split at hp
  · rename_i left
    simp only [State.park, JsMap.get_set_self, Option.some.injEq] at hp
    exact .inl ⟨hp.symm, left⟩
  · simp only [State.park, JsMap.get_set_self, Option.some.injEq] at hp
    exact .inr hp.symm

theorem not_parked_answered {base : State} {c : Nat} {outcome : Outcome} {p : Pending} :
    (base.answer c outcome).calls.get c ≠ some p := by simp [State.answer]

/-- A call that goes on into `observeRuntime` with the record stored under `k`. -/
def Observes (cfg : Config) (s : State) (call : Call) (p : Pending) : Prop :=
  ∃ k r caller, s.store.sessions.get k = some r ∧ caller.Continues k call ∧
    ((p = .observed (.ok r) caller ∧ r.phase ≠ .active) ∨ p = .inspecting k r caller) ∧
    ∀ token k', caller = .authorize token k' → ∃ binding,
      s.store.signalingTokens.get (cfg.sha256 token) = some binding ∧ binding.sessionKey = k'

theorem observes_of_parked {base : State} {c : Nat} {k : String} {r : SessionRecord}
    {caller : Caller} {call : Call} {p : Pending} (stored : s.store.sessions.get k = some r)
    (hp : (observeRuntime base c k r caller).calls.get c = some p) (goes : caller.Continues k call)
    (bound : ∀ token k', caller = .authorize token k' → ∃ binding,
      s.store.signalingTokens.get (cfg.sha256 token) = some binding ∧ binding.sessionKey = k') :
    Observes cfg s call p :=
  ⟨k, r, caller, stored, goes, observe_parked hp, bound⟩

theorem lookUp_parked {call : Call} (context : TenantContext) (id : String)
    (caller : String → Caller) {p : Pending}
    (goes : (caller (key context.tenantId id)).Continues (key context.tenantId id) call)
    (other : ∀ k token k', caller k ≠ .authorize token k')
    (hp : (lookUp (s.begin call) s.nextCall context id fun k r =>
      observeRuntime (s.begin call) s.nextCall k r (caller k)).calls.get s.nextCall = some p) :
    Observes cfg s call p := by
  unfold lookUp at hp
  split at hp
  · exact absurd hp not_parked_answered
  · rename_i r hr
    exact observes_of_parked hr hp goes fun token k' e => absurd e (other _ token k')

/-- Where a call is parked when its first stretch ends. -/
theorem makeCall_parked {call : Call} {p : Pending}
    (hp : (makeCall cfg s call d).calls.get s.nextCall = some p) :
    (∃ context, call = .create context ∧ p = .creating d.uuid context.tenantId) ∨
    Observes cfg s call p ∨
    (∃ context id operation e, call = .tab context id operation ∧
      p = .activated (.error e) operation) ∨
    (∃ context id r, call = .burn context id ∧ p = .destroying (key context.tenantId id) r) := by
  unfold makeCall at hp
  cases call with
  | create context =>
    simp only [startCall, create] at hp
    split at hp
    · exact absurd hp not_parked_answered
    · simp only [State.park, JsMap.get_set_self, Option.some.injEq] at hp
      exact .inl ⟨context, rfl, hp.symm⟩
  | get context id =>
    exact .inr (.inl (lookUp_parked context id (fun _ => .get) ⟨_, _, rfl, rfl⟩ (by simp) hp))
  | issueSignalingTicket context id =>
    exact .inr (.inl (lookUp_parked context id .issueSignalingTicket ⟨rfl, _, _, rfl, rfl⟩
      (by simp) hp))
  | tab context id operation =>
    simp only [startCall] at hp
    split at hp
    · simp only [State.park, JsMap.get_set_self, Option.some.injEq] at hp
      exact .inr (.inr (.inl ⟨context, id, operation, _, rfl, hp.symm⟩))
    · rename_i r hr
      exact .inr (.inl (observes_of_parked hr hp ⟨context, id, rfl, rfl⟩ (by simp)))
  | exchangeSignalingTicket ticket =>
    simp only [startCall, exchangeSignalingTicket] at hp
    split at hp
    · exact absurd hp not_parked_answered
    · split at hp
      · exact absurd hp not_parked_answered
      · split at hp
        · rename_i r cr hr _
          split at hp
          · exact absurd hp not_parked_answered
          · exact .inr (.inl (observes_of_parked hr hp ⟨rfl, rfl⟩ (by simp)))
        · exact absurd hp not_parked_answered
  | authorizeSignalingToken token =>
    simp only [startCall, authorizeSignalingToken, hashPresentedCredential] at hp
    split at hp
    · exact absurd hp not_parked_answered
    · rename_i hash hh
      split at hh
      · cases hh
        split at hp
        · exact absurd hp not_parked_answered
        · rename_i binding hb
          split at hp
          · exact absurd hp not_parked_answered
          · rename_i r hr
            split at hp
            · exact absurd hp not_parked_answered
            · refine .inr (.inl (observes_of_parked hr hp ⟨rfl, rfl⟩ ?_))
              rintro _ _ ⟨⟩
              exact ⟨binding, hb, rfl⟩
      · cases hh
  | burn context id =>
    simp only [startCall, lookUp] at hp
    split at hp
    · exact absurd hp not_parked_answered
    · rename_i r _
      simp only [burn, State.park, JsMap.get_set_self, Option.some.injEq] at hp
      exact .inr (.inr (.inr ⟨context, id, r, rfl, hp.symm⟩))

theorem continues_makeCall (wf : Wf cfg s) {call : Call} {p : Pending}
    (hp : (makeCall cfg s call d).calls.get s.nextCall = some p) : p.Continues call := by
  rcases makeCall_parked hp with ⟨context, rfl, rfl⟩ |
    ⟨k, r, caller, stored, goes, ⟨rfl, -⟩ | rfl, -⟩ | ⟨context, id, _, _, rfl, rfl⟩ |
    ⟨context, id, _, rfl, rfl⟩
  · exact ⟨context, rfl, rfl⟩
  · refine ⟨k, goes, ?_⟩
    rintro _ ⟨⟩
    exact (wf.stored k r stored).under
  · exact goes
  · exact ⟨context, id, rfl⟩
  · exact ⟨context, id, rfl, rfl⟩

/-- A call that a runtime answer leaves parked has observed its record. -/
theorem settle_parked {c : Nat} {p p' : Pending} {reply : RuntimeReply}
    (h : settle cfg s c d p reply = some t) (hp : t.calls.get c = some p') :
    ∃ k r caller result, p = .inspecting k r caller ∧ p' = .observed result caller ∧
      ∀ r', result = .ok r' → (s.store.sessions.get k = some r' ∧ t.store = s.store) ∨
        (r'.id = r.id ∧ r'.tenantId = r.tenantId ∧ r'.phase = .failed ∧ r'.runtime = r.runtime) := by
  unfold settle at h
  split at h
  case h_1 =>
    cases h
    unfold runtimeCreated at hp
    split at hp
    · exact absurd hp not_parked_answered
    · simp only at hp
      split at hp <;> exact absurd hp not_parked_answered
  case h_2 k r caller result =>
    cases h
    have parked : ∀ (u base : State) result, base.park c (.observed result caller) = u →
        u.calls.get c = some p' → (∀ r', result = .ok r' →
          (s.store.sessions.get k = some r' ∧ base.store = s.store) ∨
            (r'.id = r.id ∧ r'.tenantId = r.tenantId ∧ r'.phase = .failed ∧ r'.runtime = r.runtime)) →
        ∃ result, p' = .observed result caller ∧ ∀ r', result = .ok r' →
          (s.store.sessions.get k = some r' ∧ u.store = s.store) ∨
            (r'.id = r.id ∧ r'.tenantId = r.tenantId ∧ r'.phase = .failed ∧ r'.runtime = r.runtime) := by
      rintro _ base result rfl hp source
      simp only [State.park, JsMap.get_set_self, Option.some.injEq] at hp
      exact ⟨result, hp.symm, source⟩
    refine ⟨k, r, caller, ?_⟩
    simp only [true_and]
    generalize hi : runtimeInspected s c k r caller result = u at hp ⊢
    unfold runtimeInspected at hi
    split at hi
    · exact parked u s _ hi hp (by simp)
    · split at hi
      · exact parked u s _ hi hp (by simp)
      · rename_i current hc
        have stored : ∀ r', (.ok current : Except Thrown SessionRecord) = .ok r' →
            (s.store.sessions.get k = some r' ∧ s.store = s.store) ∨
              (r'.id = r.id ∧ r'.tenantId = r.tenantId ∧ r'.phase = .failed ∧ r'.runtime = r.runtime) := by
          rintro _ ⟨⟩
          exact .inl ⟨hc, rfl⟩
        split at hi
        · exact parked u s _ hi hp stored
        · split at hi
          · exact parked u s _ hi hp stored
          · refine parked u _ _ hi hp ?_
            rintro _ ⟨⟩
            exact .inr ⟨rfl, rfl, rfl, rfl⟩
  case h_3 =>
    cases h
    unfold runtimeDestroyed at hp
    split at hp <;> exact absurd hp not_parked_answered
  case h_4 => cases h; exact absurd hp not_parked_answered
  case h_5 => cases h; exact absurd hp not_parked_answered
  case h_6 => cases h

/-- A call that stays parked when it resumes is a tab call. -/
theorem resume_parked {c : Nat} {p p' : Pending} (h : resume cfg s c d p = some t)
    (hp : t.calls.get c = some p') :
    (∃ observed operation result, p = .observed observed (.activeRuntime operation) ∧
      p' = .activated result operation ∧
      ∀ resource, result = .ok resource → ∃ r, observed = .ok r ∧ r.runtime = resource) ∨
    (∃ resource operation, p = .activated (.ok resource) operation ∧
      p' = .tabbing resource operation) := by
  have activated : ∀ result operation,
      (s.park c (.activated result operation)).calls.get c = some p' →
      p' = .activated result operation := by
    intro result operation hp
    simp only [State.park, JsMap.get_set_self, Option.some.injEq] at hp
    exact hp.symm
  unfold resume at h
  split at h
  case h_1 r caller =>
    cases h
    cases caller with
    | get => exact absurd hp not_parked_answered
    | issueSignalingTicket =>
      simp only [resumeCaller] at hp
      split at hp
      · exact absurd hp not_parked_answered
      · split at hp <;> exact absurd hp not_parked_answered
    | activeRuntime operation =>
      simp only [resumeCaller] at hp
      split at hp
      · exact .inl ⟨_, operation, _, rfl, activated _ _ hp, by simp⟩
      · refine .inl ⟨_, operation, _, rfl, activated _ _ hp, ?_⟩
        rintro _ ⟨⟩
        exact ⟨r, rfl, rfl⟩
    | exchange =>
      simp only [resumeCaller] at hp
      split at hp
      · exact absurd hp not_parked_answered
      · split at hp <;> exact absurd hp not_parked_answered
    | authorize =>
      simp only [resumeCaller] at hp
      split at hp <;> exact absurd hp not_parked_answered
  case h_2 e caller =>
    cases h
    cases caller with
    | activeRuntime operation => exact .inl ⟨_, operation, _, rfl, activated _ _ hp, by simp⟩
    | _ => exact absurd hp not_parked_answered
  case h_3 resource operation =>
    cases h
    simp only [State.park, JsMap.get_set_self, Option.some.injEq] at hp
    exact .inr ⟨resource, operation, rfl, hp.symm⟩
  case h_4 => cases h; exact absurd hp not_parked_answered
  case h_5 => cases h

theorem continues_settle (wf : Wf cfg s) {c : Nat} {p p' : Pending} {reply : RuntimeReply}
    {call : Call} (stands : s.calls.get c = some p) (goes : p.Continues call)
    (h : settle cfg s c d p reply = some t) (hp : t.calls.get c = some p') :
    p'.Continues call := by
  obtain ⟨k, r, caller, result, rfl, rfl, source⟩ := settle_parked h hp
  refine ⟨k, goes, fun r' hr => ?_⟩
  rcases source r' hr with ⟨stored, -⟩ | ⟨id, tenant, -⟩
  · exact (wf.stored k r' stored).under
  · rw [tenant, id]
    exact (wf.held c _ k r stands rfl).under

theorem continues_resume {c : Nat} {p p' : Pending} {call : Call} (goes : p.Continues call)
    (h : resume cfg s c d p = some t) (hp : t.calls.get c = some p') : p'.Continues call := by
  rcases resume_parked h hp with ⟨observed, operation, result, rfl, rfl, -⟩ |
    ⟨resource, operation, rfl, rfl⟩
  · obtain ⟨k, ⟨context, id, rfl, -⟩, -⟩ := goes
    exact ⟨context, id, rfl⟩
  · exact goes

end

/-! ## The history -/

section
variable {cfg : Config} {s : State} {e : Event} {c : Nat} {old new : Option Pending}
  {store : Store} {es : List Entry}

theorem quietEntries_called (h : QuietEntries c new es) (c' : Nat) (call : Call) :
    .called c' call ∉ es := by
  cases h <;> simp

theorem quietEntries_answered (h : QuietEntries c new es) :
    (∀ c' o, .answered c' o ∈ es → c' = c ∧ new = none) ∧
      (new = none → ∃ o, .answered c o ∈ es) := by
  cases h with
  | still | asked => simp
  | done => simp

/-- A step names no call but one that it makes, and that one first. -/
theorem transition_called (h : Transition cfg s e c old new store es) :
    (∃ call newer, old = none ∧ e = .call call e.draw ∧ es = newer ++ [.called c call] ∧
      ∀ c' call', .called c' call' ∉ newer) ∨
    ((∃ p, old = some p) ∧ ∀ c' call, .called c' call ∉ es) := by
  cases h with
  | moved _ _ he => exact .inr ⟨⟨_, rfl⟩, quietEntries_called he⟩
  | begun ev _ he | ticketTaken ev _ he | tokenTaken ev _ he =>
    exact .inl ⟨_, _, rfl, ev, rfl, quietEntries_called he⟩
  | reserved ev => exact .inl ⟨_, [_], rfl, ev, rfl, by simp⟩
  | burning ev => exact .inl ⟨_, [_, _], rfl, ev, rfl, by simp⟩
  | _ => exact .inr ⟨⟨_, rfl⟩, by simp⟩

theorem transition_named (h : Transition cfg s e c old new store es) :
    (∀ c' call, .called c' call ∈ es → c' = c ∧ e = .call call e.draw ∧ old = none) ∧
      (old = none → ∃ call, .called c call ∈ es) := by
  rcases transition_called h with ⟨call, newer, ho, he, rfl, none⟩ | ⟨⟨p, ho⟩, none⟩
  · refine ⟨fun c' call' hm => ?_, fun _ => ⟨call, by simp⟩⟩
    rcases List.mem_append.mp hm with hm | hm
    · exact absurd hm (none c' call')
    · cases List.mem_singleton.mp hm
      exact ⟨rfl, he, ho⟩
  · exact ⟨fun c' call hm => absurd hm (none c' call), fun h => by rw [ho] at h; cases h⟩

/-- A step answers a call exactly when it stops being parked. -/
theorem transition_answered (h : Transition cfg s e c old new store es) :
    (∀ c' o, .answered c' o ∈ es → c' = c ∧ new = none) ∧
      (new = none → ∃ o, .answered c o ∈ es) := by
  cases h with
  | moved _ _ he => exact quietEntries_answered he
  | begun _ _ he | ticketTaken _ _ he | tokenTaken _ _ he =>
    obtain ⟨only, some⟩ := quietEntries_answered he
    refine ⟨fun c' o hm => ?_, fun hn => ?_⟩
    · rcases List.mem_append.mp hm with hm | hm
      · exact only c' o hm
      · simp at hm
    · obtain ⟨o, ho⟩ := some hn
      exact ⟨o, List.mem_append_left _ ho⟩
  | _ => simp

end

/-- The history and the parked calls agree. -/
structure Traced (s : State) : Prop where
  numbered : ∀ c call, .called c call ∈ s.history → c < s.nextCall
  once : ∀ c call call', .called c call ∈ s.history → .called c call' ∈ s.history → call = call'
  parked : ∀ c p, s.calls.get c = some p → ∃ call, .called c call ∈ s.history ∧ p.Continues call
  answered : ∀ c o, .answered c o ∈ s.history →
    s.calls.get c = none ∧ ∃ call, .called c call ∈ s.history
  waiting : ∀ c call, .called c call ∈ s.history → s.calls.get c = none →
    ∃ o, .answered c o ∈ s.history

/-- A step does not name an older call again. -/
theorem older_not_named {cfg : Config} {s : State} {e : Event} {c : Nat} {old new : Option Pending}
    {store : Store} {es : List Entry} (tr : Traced s) (stands : s.Stands c old)
    (ht : Transition cfg s e c old new store es) {c' : Nat} {call' : Call}
    (called : .called c' call' ∈ s.history) (call : Call) : .called c' call ∉ es := by
  intro hm
  obtain ⟨rfl, -, rfl⟩ := (transition_named ht).1 c' call hm
  have := tr.numbered c' call' called
  simp only [State.Stands] at stands
  omega

theorem traced_initial : Traced State.initial where
  numbered := by intro c call h; simp [State.initial] at h
  once := by intro c call call' h; simp [State.initial] at h
  parked := by intro c p h; simp [State.initial] at h
  answered := by intro c o h; simp [State.initial] at h
  waiting := by intro c call h; simp [State.initial] at h

theorem parked_step {cfg : Config} {s t : State} {e : Event} (h : step cfg s e = some t)
    (wf : Wf cfg s) (tr : Traced s) {c : Nat} {p : Pending} (hp : t.calls.get c = some p) :
    ∃ call, .called c call ∈ t.history ∧ p.Continues call := by
  have kept : ∀ {c' old new store es}, t = s.advance c' old new store es → c' ≠ c →
      ∃ call, .called c call ∈ t.history ∧ p.Continues call := by
    rintro c' old new store es rfl hne
    rw [advance_calls, if_neg hne] at hp
    obtain ⟨call, hm, goes⟩ := tr.parked c p hp
    exact ⟨call, List.mem_append_right _ hm, goes⟩
  -- the call that moved on continues what it was parked for
  have moved : ∀ {q new store es}, t = s.advance c (some q) new store es →
      s.calls.get c = some q → (∀ call, q.Continues call → p.Continues call) →
      ∃ call, .called c call ∈ t.history ∧ p.Continues call := by
    rintro q new store es rfl hq goes
    obtain ⟨call, hm, before⟩ := tr.parked c q hq
    exact ⟨call, List.mem_append_right _ hm, goes call before⟩
  cases e with
  | call call d =>
    obtain ⟨new, store, es, ht, eq⟩ := makeCall_transition cfg s call d
    have hm : makeCall cfg s call d = t := by simpa only [step, Option.some.injEq] using h
    by_cases same : s.nextCall = c
    · subst same
      rw [← hm] at hp
      obtain ⟨call', hc⟩ := (transition_named ht).2 rfl
      obtain ⟨-, ev, -⟩ := (transition_named ht).1 _ _ hc
      cases ev
      refine ⟨call, ?_, continues_makeCall wf hp⟩
      rw [← hm, eq]
      exact List.mem_append_left _ hc
    · exact kept (hm.symm.trans eq) same
  | settle c' reply d =>
    obtain ⟨q, hq, hs⟩ := Option.bind_eq_some_iff.mp h
    obtain ⟨new, store, es, -, eq⟩ := settle_transition hs
    by_cases same : c' = c
    · subst same
      exact moved eq hq fun call goes => continues_settle wf hq goes hs hp
    · exact kept eq same
  | resume c' d =>
    obtain ⟨q, hq, hs⟩ := Option.bind_eq_some_iff.mp h
    obtain ⟨new, store, es, -, eq⟩ := resume_transition hs
    by_cases same : c' = c
    · subst same
      exact moved eq hq fun call goes => continues_resume goes hs hp
    · exact kept eq same

theorem traced_step {cfg : Config} {s t : State} {e : Event} (h : step cfg s e = some t)
    (wf : Wf cfg s) (tr : Traced s) : Traced t := by
  have parked : ∀ c p, t.calls.get c = some p → ∃ call, .called c call ∈ t.history ∧
      p.Continues call := fun _ _ => parked_step h wf tr
  obtain ⟨c, old, new, store, es, stands, ht, rfl⟩ := step_transition h
  obtain ⟨named, names⟩ := transition_named ht
  obtain ⟨ends, ended⟩ := transition_answered ht
  -- a call named in this step has the next number
  have fresh : ∀ c' call, .called c' call ∈ es → c' = s.nextCall := by
    intro c' call hm
    obtain ⟨rfl, -, rfl⟩ := named c' call hm
    exact stands
  refine ⟨?numbered, ?once, parked, ?answered, ?waiting⟩
  case numbered =>
    intro c' call hm
    have grows : s.nextCall ≤ (s.advance c old new store es).nextCall := by
      simp only [State.advance]; split <;> omega
    rcases List.mem_append.mp hm with hm | hm
    · obtain ⟨rfl, -, rfl⟩ := named c' call hm
      simp only [State.Stands] at stands
      simp [State.advance, stands]
    · exact Nat.lt_of_lt_of_le (tr.numbered c' call hm) grows
  case once =>
    intro c' call call' h₁ h₂
    rcases List.mem_append.mp h₁ with h₁ | h₁ <;> rcases List.mem_append.mp h₂ with h₂ | h₂
    · obtain ⟨-, e₁, -⟩ := named c' call h₁
      obtain ⟨-, e₂, -⟩ := named c' call' h₂
      exact (Event.call.inj (e₁.symm.trans e₂)).1
    · have := tr.numbered c' call' h₂
      have := fresh c' call h₁
      omega
    · have := tr.numbered c' call h₁
      have := fresh c' call' h₂
      omega
    · exact tr.once c' call call' h₁ h₂
  case answered =>
    intro c' o hm
    rcases List.mem_append.mp hm with hm | hm
    · obtain ⟨rfl, rfl⟩ := ends c' o hm
      refine ⟨by rw [advance_calls, if_pos rfl], ?_⟩
      cases old with
      | none =>
        obtain ⟨call, hc⟩ := names rfl
        exact ⟨call, List.mem_append_left _ hc⟩
      | some p =>
        obtain ⟨call, hc, -⟩ := tr.parked c' p stands
        exact ⟨call, List.mem_append_right _ hc⟩
    · obtain ⟨gone, call, hc⟩ := tr.answered c' o hm
      have other : c ≠ c' := by
        rintro rfl
        cases old with
        | none =>
          have := tr.numbered c call hc
          simp only [State.Stands] at stands
          omega
        | some p => simp only [State.Stands] at stands; rw [stands] at gone; cases gone
      exact ⟨by rw [advance_calls, if_neg other]; exact gone, call, List.mem_append_right _ hc⟩
  case waiting =>
    intro c' call hm gone
    rw [advance_calls] at gone
    split at gone
    · rename_i same
      subst same
      obtain ⟨o, ho⟩ := ended gone
      exact ⟨o, List.mem_append_left _ ho⟩
    · rename_i other
      rcases List.mem_append.mp hm with hm | hm
      · exact absurd (named c' call hm).1.symm other
      · obtain ⟨o, ho⟩ := tr.waiting c' call hm gone
        exact ⟨o, List.mem_append_right _ ho⟩

theorem reachable_traced {cfg : Config} {allowed : State → Event → Prop} {s : State}
    (fresh : ∀ s e, allowed s e → FreshId s e) (h : (machine cfg).Reachable allowed s) :
    Traced s :=
  h.invariant traced_initial fun _ _ _ hr tr _ hs => traced_step hs (reachable_wf fresh hr) tr

end Fireball.Session
