import Fireball.Session.Records

/-!
# Phases and the finality of burn

* `inactive_step`: a key whose record left `active`, or is gone, never holds an
  active record again;
* `gone_step`: a removed key stays empty as long as no failed cleanup writes a
  record back, which is what `CleanupFindsRecord` asks of each step;
* `missing_answered`: an empty key answers `SESSION_NOT_FOUND`.
-/

namespace Fireball.Session

open Foundation

/-- When a burn's `runtime.destroy` fails, the map still holds a record under
the key of that burn. `burn` does not look. -/
def CleanupFindsRecord (s : State) : Event → Prop
  | .settle c (.destroyed (.error _)) _ => match s.calls.get c with
    | some (.destroying k _) => s.store.sessions.has k = true
    | _ => True
  | _ => True

instance (s : State) (e : Event) : Decidable (CleanupFindsRecord s e) := by
  unfold CleanupFindsRecord; split
  · split <;> infer_instance
  · infer_instance

/-- No record under `k` is active. -/
def Inactive (s : State) (k : String) : Prop :=
  ∀ r, s.store.sessions.get k = some r → r.phase ≠ .active

section
variable {cfg : Config} {s t : State} {e : Event}

/-- The create that is parked with an id draws no spent one. -/
theorem created_key_ne {c : Nat} {id t' tenantId spent : String} (wf : Wf cfg s)
    (hc : s.calls.get c = some (.creating id t')) (hs : Spent s spent) :
    key t' id ≠ key tenantId spent := by
  intro same
  obtain ⟨-, rfl⟩ := key_inj (wf.creating c id t' hc).1 hs.1 same
  exact hs.2.2 c t' hc

theorem inactive_step {id tenantId : String} (wf : Wf cfg s) (h : step cfg s e = some t)
    (hs : Spent s id) (hi : Inactive s (key tenantId id)) : Inactive t (key tenantId id) := by
  obtain ⟨c, old, new, store, es, stands, ht, rfl⟩ := step_transition h
  have written : ∀ (base : Store) k' r', base.sessions = s.store.sessions → r'.phase ≠ .active →
      ∀ r, (base.putRecord k' r').sessions.get (key tenantId id) = some r → r.phase ≠ .active := by
    intro base k' r' hb hp r hr
    rw [putRecord_sessions, JsMap.get_set] at hr
    split at hr
    · cases hr; exact hp
    · rw [hb] at hr; exact hi r hr
  intro r hr
  rw [advance_store] at hr
  cases ht with
  | moved | begun | authorized | released | minted => exact hi r hr
  | reserved _ ok => rw [(reserve_ok ok).2.2.2.2.2] at hr; exact hi r hr
  | created _ ok =>
    obtain ⟨cr, -, rfl, -⟩ := rotate_ok ok
    change (s.store.sessions.set _ _).get _ = some r at hr
    rw [JsMap.get_set_ne (created_key_ne wf stands hs)] at hr
    exact hi r hr
  | ticketTaken => rw [takeTicket_sessions] at hr; exact hi r hr
  | tokenTaken => rw [takeToken_sessions] at hr; exact hi r hr
  | rotated ok =>
    obtain ⟨cr, -, rfl, -⟩ := rotate_ok ok
    exact hi r hr
  | burning => exact written _ _ (burningRecord _) (revoke_sessions _ _) (by simp [burningRecord]) r hr
  | removed =>
    rw [JsMap.get_delete] at hr
    split at hr
    · cases hr
    · exact hi r hr
  | restored => exact written _ _ (uncleanRecord _) rfl (by simp [uncleanRecord]) r hr
  | lost =>
    exact written _ _ (failedRecord _ _) (revoke_sessions _ _) (by simp [failedRecord]) r hr

theorem gone_step {id tenantId : String} (wf : Wf cfg s) (h : step cfg s e = some t)
    (cleanup : CleanupFindsRecord s e) (hs : Spent s id)
    (gone : s.store.sessions.get (key tenantId id) = none) :
    t.store.sessions.get (key tenantId id) = none := by
  obtain ⟨c, old, new, store, es, stands, ht, rfl⟩ := step_transition h
  have other : ∀ (base : Store) k' r', base.sessions = s.store.sessions →
      (∃ r, s.store.sessions.get k' = some r) →
      (base.putRecord k' r').sessions.get (key tenantId id) = none := by
    intro base k' r' hb present
    have hne : k' ≠ key tenantId id := by
      rintro rfl
      obtain ⟨r, hr⟩ := present
      rw [gone] at hr
      cases hr
    rw [putRecord_sessions, JsMap.get_set_ne hne, hb, gone]
  rw [advance_store]
  cases ht with
  | moved | begun | authorized | released | minted => exact gone
  | reserved _ ok => rw [(reserve_ok ok).2.2.2.2.2]; exact gone
  | created _ ok =>
    obtain ⟨cr, -, rfl, -⟩ := rotate_ok ok
    change (s.store.sessions.set _ _).get _ = none
    rw [JsMap.get_set_ne (created_key_ne wf stands hs), gone]
  | ticketTaken => rw [takeTicket_sessions]; exact gone
  | tokenTaken => rw [takeToken_sessions]; exact gone
  | rotated ok =>
    obtain ⟨cr, -, rfl, -⟩ := rotate_ok ok
    exact gone
  | burning _ hb => exact other _ _ _ (revoke_sessions _ _) ⟨_, hb⟩
  | removed => rw [JsMap.get_delete, gone]; split <;> rfl
  | restored he =>
    -- the guard: this write finds a record, so it is under another key
    rw [he] at cleanup
    simp only [State.Stands] at stands
    simp only [CleanupFindsRecord, stands] at cleanup
    exact other _ _ _ rfl (JsMap.has_iff.mp cleanup)
  | lost hc => exact other _ _ _ (revoke_sessions _ _) ⟨_, hc⟩

end

/-! ## Runs -/

theorem history_grows {cfg : Config} {allowed : State → Event → Prop} {s t : State}
    (h : (machine cfg).Reaches allowed s t) : ∀ x ∈ s.history, x ∈ t.history := by
  refine h.invariant (I := fun u => ∀ x ∈ s.history, x ∈ u.history) (fun _ hx => hx) ?_
  intro t e u _ ih _ hs x hx
  obtain ⟨c, old, new, store, es, -, -, rfl⟩ := step_transition hs
  exact List.mem_append_right _ (ih x hx)

/-- Whatever follows the call, its rejection with `e` is in the history, or is
all that its promise still has to hand on. -/
def AnswersWith (cfg : Config) (s : State) (call : Call) (e : Thrown) : Prop :=
  ∀ d, ∃ t, step cfg s (.call call d) = some t ∧
    ∀ allowed u, (machine cfg).Reaches allowed t u →
      .answered s.nextCall (.rejected e) ∈ u.history ∨
      ∃ operation, u.calls.get s.nextCall = some (.activated (.error e) operation)

/-- A rejected `activeRuntime` waits until its tab method hands the error on. -/
theorem activated_error_step {cfg : Config} {s t : State} {ev : Event} {c : Nat} {e : Thrown}
    {operation : TabOperation} (h : step cfg s ev = some t) (hn : Numbered s)
    (hc : s.calls.get c = some (.activated (.error e) operation)) :
    t.calls.get c = some (.activated (.error e) operation) ∨
      .answered c (.rejected e) ∈ t.history := by
  cases ev with
  | call call d =>
    obtain ⟨new, store, es, -, eq⟩ := makeCall_transition cfg s call d
    have older : s.nextCall ≠ c := by have := hn c _ hc; omega
    simp only [step, Option.some.injEq] at h
    rw [← h, eq, advance_calls, if_neg older]
    exact .inl hc
  | settle c' reply d =>
    obtain ⟨p, hp, hs⟩ := Option.bind_eq_some_iff.mp h
    obtain ⟨new, store, es, -, rfl⟩ := settle_transition hs
    have other : c' ≠ c := by
      rintro rfl
      rw [hc] at hp
      cases hp
      simp [settle] at hs
    rw [advance_calls, if_neg other]
    exact .inl hc
  | resume c' d =>
    obtain ⟨p, hp, hs⟩ := Option.bind_eq_some_iff.mp h
    by_cases same : c' = c
    · subst same
      rw [hc] at hp
      cases hp
      simp only [resume, Option.some.injEq] at hs
      rw [← hs]
      exact .inr (List.mem_cons_self ..)
    · obtain ⟨new, store, es, -, rfl⟩ := resume_transition hs
      rw [advance_calls, if_neg same]
      exact .inl hc

theorem numbered_step {cfg : Config} {s t : State} {e : Event} (hn : Numbered s)
    (h : step cfg s e = some t) : Numbered t := by
  obtain ⟨c, old, new, store, es, stands, -, rfl⟩ := step_transition h
  exact numbered_advance hn stands

theorem activated_error_final {cfg : Config} {allowed : State → Event → Prop} {s u : State}
    {c : Nat} {e : Thrown} {operation : TabOperation} (hn : Numbered s)
    (hc : s.calls.get c = some (.activated (.error e) operation))
    (h : (machine cfg).Reaches allowed s u) :
    .answered c (.rejected e) ∈ u.history ∨
      ∃ operation, u.calls.get c = some (.activated (.error e) operation) := by
  have both : Numbered u ∧ (.answered c (.rejected e) ∈ u.history ∨
      ∃ operation, u.calls.get c = some (.activated (.error e) operation)) := by
    refine h.invariant (I := fun u => Numbered u ∧ (.answered c (.rejected e) ∈ u.history ∨
      ∃ operation, u.calls.get c = some (.activated (.error e) operation)))
      ⟨hn, .inr ⟨operation, hc⟩⟩ ?_
    intro t ev u hr ⟨hn, ih⟩ ha hs
    refine ⟨numbered_step hn hs, ?_⟩
    rcases ih with done | ⟨op, waiting⟩
    · exact .inl (history_grows (Machine.Reaches.refl.step ha hs) _ done)
    · rcases activated_error_step hs hn waiting with waiting | done
      · exact .inr ⟨op, waiting⟩
      · exact .inl done
  exact both.2

/-- An empty key answers `SESSION_NOT_FOUND` to its owner's calls. -/
theorem missing_answered (cfg : Config) {s : State} (hn : Numbered s) {context : TenantContext}
    {id : String} (gone : s.store.sessions.get (key context.tenantId id) = none) :
    AnswersWith cfg s (.get context id) sessionNotFound ∧
    AnswersWith cfg s (.issueSignalingTicket context id) sessionNotFound ∧
    (∀ operation, AnswersWith cfg s (.tab context id operation) sessionNotFound) ∧
    AnswersWith cfg s (.burn context id) sessionNotFound := by
  -- the three calls that are answered at once
  have atOnce : ∀ call found d, startCall cfg (s.begin call) s.nextCall d call =
      lookUp (s.begin call) s.nextCall context id found →
      ∃ t, step cfg s (.call call d) = some t ∧ ∀ allowed u, (machine cfg).Reaches allowed t u →
        .answered s.nextCall (.rejected sessionNotFound) ∈ u.history ∨
        ∃ operation, u.calls.get s.nextCall =
          some (.activated (.error sessionNotFound) operation) := by
    intro call found d eq
    have start : step cfg s (.call call d) =
        some ((s.begin call).answer s.nextCall (.rejected sessionNotFound)) := by
      simp only [step, makeCall, eq, lookUp, begin_store, gone]
    exact ⟨_, start, fun _ u hu => .inl (history_grows hu _ (List.mem_cons_self ..))⟩
  refine ⟨fun d => atOnce _ (fun k r => observeRuntime _ _ k r .get) d rfl,
    fun d => atOnce _ (fun k r => observeRuntime _ _ k r (.issueSignalingTicket k)) d rfl, ?_,
    fun d => atOnce _ (fun k r => burn _ _ k r) d rfl⟩
  intro operation d
  have start : step cfg s (.call (.tab context id operation) d) =
      some ((s.begin (.tab context id operation)).park s.nextCall
        (.activated (.error sessionNotFound) operation)) := by
    simp only [step, makeCall, startCall, begin_store, gone]
  have parked : ((s.begin (.tab context id operation)).park s.nextCall
      (.activated (.error sessionNotFound) operation)).calls.get s.nextCall =
        some (.activated (.error sessionNotFound) operation) := JsMap.get_set_self
  exact ⟨_, start, fun _ u hu => activated_error_final (numbered_step hn start) parked hu⟩

/-- The steps of a run in which ids are fresh and no cleanup failure writes a
record back. -/
def Tidy (s : State) (e : Event) : Prop := FreshId s e ∧ CleanupFindsRecord s e

instance (s : State) (e : Event) : Decidable (Tidy s e) := by unfold Tidy; infer_instance

/-- **A session never becomes active again.** -/
theorem inactive_final {cfg : Config} {allowed : State → Event → Prop} {s t : State} {k : String}
    {r : SessionRecord} (fresh : ∀ s e, allowed s e → FreshId s e) (wf : Wf cfg s)
    (hr : s.store.sessions.get k = some r) (left : r.phase ≠ .active)
    (h : (machine cfg).Reaches allowed s t) : Inactive t k := by
  have under := wf.stored k r hr
  have all : Wf cfg t ∧ Spent t r.id ∧ Inactive t k := by
    refine h.invariant (I := fun t => Wf cfg t ∧ Spent t r.id ∧ Inactive t k)
      ⟨wf, under.spent, ?_⟩ ?_
    · intro r' hr'
      rw [hr] at hr'
      cases hr'
      exact left
    · intro t e u _ ⟨wf, spent, inactive⟩ ha hs
      refine ⟨wf_step (fresh _ _ ha) hs wf, spent_step (fresh _ _ ha) hs spent, ?_⟩
      rw [under.under] at inactive ⊢
      exact inactive_step wf hs spent inactive
  exact all.2.2

/-- **A removed session stays removed**, in a tidy run. -/
theorem gone_final {cfg : Config} {s t : State} {id tenantId : String} (wf : Wf cfg s)
    (spent : Spent s id) (gone : s.store.sessions.get (key tenantId id) = none)
    (h : (machine cfg).Reaches Tidy s t) :
    Wf cfg t ∧ t.store.sessions.get (key tenantId id) = none := by
  have all : Wf cfg t ∧ Spent t id ∧ t.store.sessions.get (key tenantId id) = none := by
    refine h.invariant (I := fun t => Wf cfg t ∧ Spent t id ∧
      t.store.sessions.get (key tenantId id) = none) ⟨wf, spent, gone⟩ ?_
    intro t e u _ ⟨wf, spent, gone⟩ ha hs
    exact ⟨wf_step ha.1 hs wf, spent_step ha.1 hs spent, gone_step wf hs ha.2 spent gone⟩
  exact ⟨all.1, all.2.2⟩

/-- **The session lifecycle.** In a tidy run no session becomes active again
once it left that phase, and a session whose burn saw `runtime.destroy` succeed
stays removed: its owner's later calls are answered `SESSION_NOT_FOUND`. -/
theorem session_lifecycle (cfg : Config) {s : State} (reached : (machine cfg).Reachable Tidy s) :
    (∀ k r t, s.store.sessions.get k = some r → r.phase ≠ .active →
      (machine cfg).Reaches Tidy s t → Inactive t k) ∧
    (∀ c k r d t u, s.calls.get c = some (.destroying k r) →
      Tidy s (.settle c (.destroyed (.ok ())) d) →
      step cfg s (.settle c (.destroyed (.ok ())) d) = some t →
      (machine cfg).Reaches Tidy t u →
      u.store.sessions.get k = none ∧
      ∀ context id, key context.tenantId id = k →
        AnswersWith cfg u (.get context id) sessionNotFound ∧
        AnswersWith cfg u (.issueSignalingTicket context id) sessionNotFound ∧
        (∀ operation, AnswersWith cfg u (.tab context id operation) sessionNotFound) ∧
        AnswersWith cfg u (.burn context id) sessionNotFound) := by
  have wf : Wf cfg s := reachable_wf (fun _ _ h => h.1) reached
  refine ⟨fun k r t hr left h => inactive_final (fun _ _ h => h.1) wf hr left h, ?_⟩
  intro c k r d t u hc ha hs hu
  have under := wf.held c _ k r hc rfl
  have removed : t.store.sessions.get k = none := by
    simp only [step, hc, Option.bind_some, settle, Option.some.injEq] at hs
    rw [← hs]
    simp [runtimeDestroyed, State.answer]
  rw [under.under] at removed ⊢
  obtain ⟨wfu, gone⟩ := gone_final (wf_step ha.1 hs wf) (spent_step ha.1 hs under.spent) removed hu
  refine ⟨gone, fun context id same => ?_⟩
  rw [← same] at gone
  exact missing_answered cfg wfu.numbered gone

/-! ## Two burns of one session -/

def alpha : TenantContext := ⟨"alpha", "alice"⟩

def sampleRuntime : RuntimeResource :=
  ⟨"container", "fireball", "net", "tmpfs", "ws://127.0.0.1:49152/internal/v1/signaling",
    "secret", "http://127.0.0.1:49152/internal/v1/tabs"⟩

def sampleConfig : Config where
  sha256 := id
  maximumSessionsPerTenant := 1
  quota := ⟨512, 512, 256⟩
  hostCapacity := ⟨⟨4096, 4096, 2048⟩, 8⟩
  pairingTicketTTLSeconds := 60
  signalingTokenTTLSeconds := 30
  quotaFits := rfl

def sampleId (n : Nat) : String :=
  if n = 0 then "00000000-0000-4000-8000-000000000000"
  else if n = 1 then "00000000-0000-4000-8000-000000000001"
  else "00000000-0000-4000-8000-000000000002"

def draw (n now : Nat) (credential : String) : Draw := ⟨sampleId n, credential, now, "2026-08-21"⟩

/-- A session is created and burned twice at once. -/
def twoBurns : List Event :=
  [.call (.create alpha) (draw 0 0 ""), .settle 0 (.created (.ok sampleRuntime)) (draw 1 0 ""),
    .call (.burn alpha (sampleId 0)) (draw 1 0 ""), .call (.burn alpha (sampleId 0)) (draw 1 0 "")]

def firstSucceeds : Event := .settle 1 (.destroyed (.ok ())) (draw 1 0 "")

def secondFails : Event := .settle 2 (.destroyed (.error (.other "timeout"))) (draw 1 0 "")

/-- Both burns wait for the runtime. -/
def burning : State :=
  ((machine sampleConfig).runFrom State.initial twoBurns).get (by decide)

/-- The first burn has removed the record. -/
def burned : State := (step sampleConfig burning firstSucceeds).get (by decide)

theorem session_lifecycle_burned :
    burned.store.sessions.get (key "alpha" (sampleId 0)) = none ∧
    AnswersWith sampleConfig burned (.burn alpha (sampleId 0)) sessionNotFound ∧
    Inactive burned (key "alpha" (sampleId 0)) := by
  have reached : (machine sampleConfig).Reachable Tidy burning :=
    Machine.reaches_end (by decide) _
  obtain ⟨phases, final⟩ := session_lifecycle sampleConfig reached
  obtain ⟨record, parked⟩ : ∃ r, burning.calls.get 1 =
      some (.destroying (key "alpha" (sampleId 0)) r) := ⟨_, rfl⟩
  obtain ⟨stored, inMap, left⟩ : ∃ r, burning.store.sessions.get (key "alpha" (sampleId 0)) =
      some r ∧ r.phase ≠ .active := ⟨_, rfl, by decide⟩
  have tidy : Tidy burning firstSucceeds := by decide
  have next : step sampleConfig burning firstSucceeds = some burned := (Option.some_get _).symm
  obtain ⟨gone, answers⟩ := final 1 _ record _ burned burned parked tidy next .refl
  exact ⟨gone, (answers alpha (sampleId 0) rfl).2.2.2,
    phases _ stored _ inMap left (Machine.Reaches.refl.step tidy next)⟩

/-- The second burn fails and puts the removed record back. -/
theorem burn_undone : (machine sampleConfig).Reachable FreshId burned ∧
    .answered 1 .burned ∈ burned.history ∧
    burned.store.sessions.get (key "alpha" (sampleId 0)) = none ∧
    ∃ t, (machine sampleConfig).Reaches FreshId burned t ∧
      (t.store.sessions.get (key "alpha" (sampleId 0))).isSome = true := by
  have before : (machine sampleConfig).Reachable FreshId burning :=
    Machine.reaches_end (by decide) _
  have next : step sampleConfig burning firstSucceeds = some burned := (Option.some_get _).symm
  exact ⟨before.step (show FreshId burning firstSucceeds by decide) next, by decide, by decide,
    ((machine sampleConfig).runFrom burned [secondFails]).get (by decide),
    Machine.reaches_end (by decide) _, by decide⟩

end Fireball.Session
