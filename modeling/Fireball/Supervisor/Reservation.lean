import Fireball.Supervisor.Listeners

/-!
# Who holds the controller lease

The lease is taken by the connection, before its client has sent anything.

* `HolderWf`: whose lease it is, and in which phase;
* `lease_reserved`: when the lease is that of an authenticated client, and when a
  refusal is on behalf of one;
* `unauthenticated_refusal`: a silent client that keeps the controller out.
-/

namespace Fireball.Supervisor

open Foundation

/-- The lease is held by a client that has presented an accepted frame. -/
def LeaseAuthenticated (cfg : ProxyConfig) (p : Proxy) : Prop :=
  ∀ c, p.activeLease = some c →
    ∃ l, p.peers.get c = some (.leased l) ∧ l.authenticated cfg = true

/-- Every refusal was on behalf of an authenticated client. -/
def RefusalsFair (p : Proxy) : Prop := ∀ refusal ∈ p.refusals, refusal.authenticated = true

def Proxy.holderPhase (p : Proxy) : Option LeasePhase :=
  p.activeLease.bind fun holder => match p.peers.get holder with
    | some (.leased l) => some l.phase
    | _ => none

/-- No connection arrives while the holder of the lease has yet to authenticate. -/
def ArrivesLate (p : Proxy) : ProxyEvent → Prop
  | .connection _ => p.holderPhase ≠ some .authenticating
  | _ => True

instance (p : Proxy) (e : ProxyEvent) : Decidable (ArrivesLate p e) := by
  unfold ArrivesLate
  split <;> infer_instance

/-- The lease is that of an accepted connection, which is not closed. -/
structure HolderWf (cfg : ProxyConfig) (p : Proxy) : Prop where
  listeners : ListenersWf cfg p
  holder : ∀ c, p.activeLease = some c → ∃ l, p.peers.get c = some (.leased l) ∧ l.phase ≠ .closed

theorem holderWf_initial (cfg : ProxyConfig) : HolderWf cfg .initial where
  listeners := listenersWf_initial cfg
  holder := by intro c h; cases h

section
variable {cfg : ProxyConfig} {p p' : Proxy}

theorem note_refusals (p : Proxy) (socket : Option SocketId) (deaf : Bool) :
    (p.note socket deaf).refusals = p.refusals := by
  unfold Proxy.note
  cases socket <;> rfl

/-- No listener reopens a lease. -/
theorem listen_closed {l l' : Lease} {event : LeaseEvent} (h : l.listen cfg event = some l')
    (closed : l.phase = .closed) : l'.phase = .closed := by
  cases listen_phase h with
  | closed closed => exact closed
  | same same => exact same.trans closed
  | connecting waiting => cases waiting.symm.trans closed
  | relaying connecting => cases connecting.symm.trans closed

theorem run_holder {c : Nat} {l l' : Lease}
    (holder : ∀ c, p.activeLease = some c → ∃ l, p.peers.get c = some (.leased l) ∧ l.phase ≠ .closed)
    (hc : p.peers.get c = some (.leased l)) :
    ∀ c₁, (p.run c l l').activeLease = some c₁ →
      ∃ l₁, (p.run c l l').peers.get c₁ = some (.leased l₁) ∧ l₁.phase ≠ .closed := by
  intro c₁ h
  simp only [Proxy.run] at h
  split at h
  · cases h
  · rename_i kept
    obtain ⟨l₁, h₁, open_⟩ := holder c₁ h
    simp only [Proxy.run, JsMap.get_set]
    split
    · rename_i same
      subst same
      cases hc.symm.trans h₁
      refine ⟨l', rfl, fun closed => kept ⟨open_, closed, h⟩⟩
    · exact ⟨l₁, h₁, open_⟩

/-- An open lease is past its first phase just when its client has authenticated. -/
theorem LeaseWf.past_iff {l : Lease} (wf : LeaseWf cfg l) (open_ : l.phase ≠ .closed) :
    l.authenticated cfg = true ↔ l.phase ≠ .authenticating := by
  constructor
  · intro known waiting
    cases (wf.waiting waiting).1.symm.trans known
  · intro passed
    cases phase : l.phase with
    | authenticating => exact absurd phase passed
    | connecting => exact wf.passed (.inl phase)
    | relaying => exact wf.passed (.inr phase)
    | closed => exact absurd phase open_

/-- **One event** and the holder of the lease. A refusal is fair when the holder is
past its first phase. -/
theorem step_holder {e : ProxyEvent} (wf : HolderWf cfg p) (h : proxyStep cfg p e = some p') :
    HolderWf cfg p' ∧ (RefusalsFair p' ↔ RefusalsFair p ∧ ArrivesLate p e) := by
  have listeners := (step_listeners wf.listeners h).1
  cases e with
  | connection c =>
    simp only [proxyStep] at h
    split at h
    · cases h
      unfold Proxy.connection at listeners ⊢
      cases ha : p.activeLease with
      | some holder =>
        obtain ⟨l, hl, open_⟩ := wf.holder holder ha
        simp only [ha, hl] at listeners ⊢
        refine ⟨⟨listeners, ?_⟩, ?_⟩
        · intro c₁ h₁
          obtain ⟨l₁, found, open₁⟩ := wf.holder c₁ (ha.trans h₁)
          have other : c ≠ c₁ := by
            rintro rfl
            rename_i free
            cases free.2.symm.trans found
          exact ⟨l₁, by rw [JsMap.get_set_ne other]; exact found, open₁⟩
        · have phase : p.holderPhase = some l.phase := by simp [Proxy.holderPhase, ha, hl]
          have decided : l.authenticated cfg = true ↔ ArrivesLate p (.connection c) := by
            rw [(wf.listeners.leases holder l hl).past_iff open_]
            show l.phase ≠ .authenticating ↔ p.holderPhase ≠ some .authenticating
            rw [phase, ne_eq, ne_eq, Option.some.injEq]
          rw [← decided]
          simp [RefusalsFair, and_comm]
      | none =>
        simp only [ha] at listeners ⊢
        refine ⟨⟨listeners, ?_⟩, ?_⟩
        · rintro c₁ ⟨⟩
          exact ⟨.initial, JsMap.get_set_self, by simp [Lease.initial]⟩
        · have late : ArrivesLate p (.connection c) := by
            simp [ArrivesLate, Proxy.holderPhase, ha]
          exact ⟨fun fair => ⟨fair, late⟩, fun fair => fair.1⟩
    · cases h
  | lease c event =>
    have late : ArrivesLate p (.lease c event) := trivial
    simp only [proxyStep] at h
    split at h
    · rename_i l hc
      obtain ⟨l', hl, rfl⟩ := Option.map_eq_some_iff.mp h
      refine ⟨⟨listeners, ?_⟩, ?_⟩
      · rw [note_activeLease, note_peers]
        exact run_holder wf.holder hc
      · unfold RefusalsFair
        rw [note_refusals]
        exact ⟨fun fair => ⟨fair, late⟩, fun fair => fair.1⟩
    · cases h
  | refused c event =>
    have late : ArrivesLate p (.refused c event) := trivial
    simp only [proxyStep] at h
    split at h
    · rename_i client hc
      cases event with
      | failed =>
        simp only at h
        split at h
        · cases h
        · cases h
          refine ⟨⟨listeners, ?_⟩, ?_⟩
          · rw [note_activeLease, note_peers]
            exact wf.holder
          · unfold RefusalsFair
            rw [note_refusals]
            exact ⟨fun fair => ⟨fair, late⟩, fun fair => fair.1⟩
      | state state =>
        simp only at h
        split at h
        · cases h
          refine ⟨⟨listeners, ?_⟩, fun fair => ⟨fair, late⟩, fun fair => fair.1⟩
          intro c₁ h₁
          obtain ⟨l₁, found, open₁⟩ := wf.holder c₁ h₁
          have other : c ≠ c₁ := by
            rintro rfl
            cases hc.symm.trans found
          exact ⟨l₁, by simp only [JsMap.get_set_ne other]; exact found, open₁⟩
        · cases h
    · cases h
  | close =>
    have late : ArrivesLate p .close := trivial
    simp only [proxyStep] at h
    split at h
    · cases h
      refine ⟨⟨listeners, ?_⟩, fun fair => ⟨fair, late⟩, fun fair => fair.1⟩
      intro c h
      cases h
    · cases h

/-- The lease is taken before anything was heard of its client. -/
theorem connection_unauthenticated {c : Nat} (free : p.activeLease = none)
    (h : proxyStep cfg p (.connection c) = some p') : ¬ LeaseAuthenticated cfg p' := by
  simp only [proxyStep] at h
  split at h
  · cases h
    intro authenticated
    unfold Proxy.connection LeaseAuthenticated at authenticated
    simp only [free] at authenticated
    obtain ⟨l, found, known⟩ := authenticated c rfl
    cases JsMap.get_set_self.symm.trans found
    cases known
  · cases h

end

/-- From a proxy without connections the lease stays authenticated just as long as
none is made. -/
theorem always_authenticated_iff (cfg : ProxyConfig) {events : List ProxyEvent} {p q : Proxy}
    (free : p.activeLease = none) (nobody : ∀ c, p.peers.get c = none)
    (run : (proxy cfg).runFrom p events = some q) :
    (proxy cfg).Always (LeaseAuthenticated cfg) p events ↔ ∀ c, .connection c ∉ events := by
  have vacuous : LeaseAuthenticated cfg p := by
    intro c held
    cases free.symm.trans held
  induction events generalizing p with
  | nil => simp [Machine.Always, vacuous]
  | cons e events ih =>
    obtain ⟨m, hm, rest⟩ := Option.bind_eq_some_iff.mp run
    have next : (∀ t, (proxy cfg).step p e = some t →
        (proxy cfg).Always (LeaseAuthenticated cfg) t events) ↔
        (proxy cfg).Always (LeaseAuthenticated cfg) m events := by
      constructor
      · exact fun all => all m hm
      · intro always t ht
        cases hm.symm.trans ht
        exact always
    rw [Machine.Always, next]
    have step : proxyStep cfg p e = some m := hm
    cases e with
    | connection c =>
      have broken := connection_unauthenticated free step
      have first : ¬ (proxy cfg).Always (LeaseAuthenticated cfg) m events := by
        intro always
        cases events with
        | nil => exact broken always
        | cons => exact broken always.1
      constructor
      · exact fun always => absurd always.2 first
      · exact fun none => absurd (List.mem_cons_self ..) (none c)
    | lease c event | refused c event =>
      simp only [proxyStep, nobody c] at step
      cases step
    | close =>
      simp only [proxyStep] at step
      split at step
      · cases step
        have nobody' : ∀ c, p.close.peers.get c = none := by
          intro c
          rw [Proxy.close, JsMap.get_mapValues, nobody c]
          rfl
        have vacuous' : LeaseAuthenticated cfg p.close := by
          intro c held
          cases held
        refine (and_congr_right fun _ => ih rfl nobody' rest vacuous').trans ?_
        simp [vacuous]
      · cases step

/-- **The lease belongs to an authenticated client** in every state of a run exactly
when no connection is made in it; and every refusal is on behalf of an authenticated
client exactly when no connection arrives while the holder has yet to authenticate. -/
theorem lease_reserved (cfg : ProxyConfig) {events : List ProxyEvent} {p : Proxy}
    (run : (proxy cfg).runFrom .initial events = some p) :
    ((proxy cfg).Always (LeaseAuthenticated cfg) .initial events ↔ ∀ c, .connection c ∉ events) ∧
    (RefusalsFair p ↔ (proxy cfg).Admits ArrivesLate .initial events) := by
  refine ⟨always_authenticated_iff cfg rfl (fun c => rfl) run, ?_⟩
  have one : ∀ p e p', HolderWf cfg p → (proxy cfg).step p e = some p' →
      HolderWf cfg p' ∧ (¬ ¬ RefusalsFair p' ↔ ¬ ¬ RefusalsFair p ∧ ArrivesLate p e) := by
    intro p e p' wf h
    simp only [not_not]
    exact step_holder wf h
  have decided : ¬ ¬ RefusalsFair p ↔ ¬ ¬ RefusalsFair .initial ∧
      (proxy cfg).Admits ArrivesLate .initial events :=
    Machine.clear_iff_admits one (holderWf_initial cfg) run
  have fair : RefusalsFair .initial := by
    intro refusal mem
    cases mem
  simpa [fair] using decided

/-! ## A silent client -/

/-- The controller authenticates, and a second client is refused on its behalf. -/
theorem lease_reserved_controller : ∃ p,
    (proxy sampleProxy).runFrom .initial
      [.connection 0, .lease 0 (.clientFrame bootstrapFrame 0), .connection 1] = some p ∧
    p.refusals = [⟨1, 0, true⟩] ∧ RefusalsFair p := by
  have run : (proxy sampleProxy).runFrom .initial
      [.connection 0, .lease 0 (.clientFrame bootstrapFrame 0), .connection 1] =
      some (((proxy sampleProxy).runFrom .initial
        [.connection 0, .lease 0 (.clientFrame bootstrapFrame 0), .connection 1]).get (by decide)) :=
    (Option.some_get _).symm
  exact ⟨_, run, by decide, (lease_reserved sampleProxy run).2.mpr (Machine.admits_sound (by decide))⟩

/-- A client that has sent nothing holds the lease, and another one is refused. -/
theorem unauthenticated_refusal : ∃ p,
    (proxy sampleProxy).runFrom .initial [.connection 0, .connection 1] = some p ∧
    p.activeLease = some 0 ∧ ¬ LeaseAuthenticated sampleProxy p ∧ p.refusals = [⟨1, 0, false⟩] := by
  refine ⟨_, rfl, rfl, ?_, rfl⟩
  intro authenticated
  obtain ⟨l, found, known⟩ := authenticated 0 rfl
  cases found
  cases known

end Fireball.Supervisor
