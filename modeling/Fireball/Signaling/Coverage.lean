import Fireball.Signaling.OneRelay

/-!
# The registry reaches every open relay

Between two events the handle of every open relay is current, so that a
revocation finds its closer. Within a revocation this fails for the relays the
loop has still to close.

* `closeMember_draining`: one turn of the loop;
* `revoke_covered`: a whole revocation;
* `Absent`: what keeps a revoked session out of the registry.
-/

namespace Fireball.Signaling

open Foundation Session

section
variable {cfg : GatewayConfig} {c : Nat} {r r' : Relay}

theorem forward_closed {destination : ReadyState} {byteLength bufferedAmount : Nat} {send : Action}
    (closed : r.phase = .closed) :
    (r.forward cfg destination byteLength bufferedAmount send).phase = .closed := by
  unfold Relay.forward
  split
  · exact shutdown_phase _ _
  split
  · exact shutdown_phase _ _
  · exact closed

/-- No listener reopens a relay. Only `connectUpstream` sets the phase without a
look at it, and after the connect it has looked at the signal. -/
theorem listen_closed {e : RelayEvent} (sound : Sound c r) (hl : r.listen cfg e = some r')
    (closed : r.phase = .closed) : r'.phase = .closed := by
  cases e with
  | clientFrame frame bufferedAmount =>
    cases hl
    simp only [Relay.clientMessage, closed]
  | sendFailed =>
    cases hl
    exact shutdown_phase _ _
  | clientClosed | clientFailed | timedOut =>
    simp only [Relay.listen] at hl
    split at hl
    · cases hl
      exact shutdown_phase _ _
    · cases hl
  | clientState state =>
    simp only [Relay.listen] at hl
    split at hl
    · cases hl
      exact closed
    · cases hl
  | rejected a error =>
    simp only [Relay.listen] at hl
    split at hl
    · cases hl
      cases error <;> exact shutdown_phase _ _
    · cases hl
  | connected a result =>
    simp only [Relay.listen] at hl
    split at hl
    · split at hl
      · cases hl
      · cases hl
        unfold Relay.connectSettled
        cases result with
        | none => exact shutdown_phase _ _
        | some connection =>
          simp only [sound.quenched.aborted closed, if_true]
          exact closed
    · cases hl
  | upstream a event =>
    simp only [Relay.listen] at hl
    split at hl
    · cases hl
      cases event with
      | message => exact forward_closed closed
      | close | error => exact shutdown_phase _ _
    · cases hl
  | upstreamState a state =>
    simp only [Relay.listen] at hl
    split at hl
    · split at hl
      · cases hl
        exact closed
      · cases hl
    · cases hl

theorem Shape.closer {handle : Handle Closer} (h : Shape c r) (known : r.unregister = some handle) :
    handle.close = ⟨c, 0⟩ := by
  cases h with
  | fresh h => cases h.unregister.symm.trans known
  | asking h => cases h.unregister.symm.trans known
  | joining h | linked h =>
    obtain ⟨set, eq⟩ := h.unregister
    cases eq.symm.trans known
    rfl
  | ended h => exact h.unregister handle known

end

/-! ## Coverage -/

/-- A revocation of its session reaches every open relay that has a handle. -/
def Covered (g : Gateway) : Prop :=
  ∀ c r handle, g.relays.get c = some r → r.phase ≠ .closed → r.unregister = some handle →
    g.registry.Current handle

/-- The registry has no entry for the session. -/
def Absent (g : Gateway) (sessionId : String) : Prop :=
  g.registry.connections.get sessionId = none

section
variable {cfg : GatewayConfig} {g g' : Gateway} {c : Nat} {r r' : Relay} {sessionId : String}

theorem closer_ne (relays : ∀ c, OneRelay g c) {c' : Nat} {handle handle' : Handle Closer}
    (hr : g.relays.get c = some r) (hr' : g.relays.get c' = some r') (other : c ≠ c')
    (known : r.unregister = some handle) (known' : r'.unregister = some handle') :
    handle.close ≠ handle'.close := by
  rw [((relays c).sound r hr).shape.closer known, ((relays c').sound r' hr').shape.closer known']
  exact fun same => other (Closer.mk.inj same).1

theorem run_absent (absent : Absent g sessionId) : Absent (g.run c r r') sessionId := by
  unfold Absent at *
  rcases run_registry g c r r' with same | ⟨handle, -, -, -, eq⟩
  · rw [same]
    exact absent
  · rw [eq]
    rcases Registry.unregister_connections g.registry handle sessionId with
      same | ⟨-, none, -⟩
    · exact same.trans absent
    · exact none

/-- A listener of another connection leaves a current handle current. -/
theorem run_current {other : Handle Closer} (current : g.registry.Current other)
    (agree : ∀ handle, r.unregister = some handle → r.phase ≠ .closed →
      other.sessionId = handle.sessionId → other.set = handle.set)
    (differ : ∀ handle, r.unregister = some handle → other.close ≠ handle.close) :
    (g.run c r r').registry.Current other := by
  rcases run_registry g c r r' with same | ⟨handle, known, open_, -, eq⟩
  · rw [same]
    exact current
  · rw [eq]
    exact Registry.current_unregister current (agree handle known open_) (differ handle known)

theorem current_agree {registry : Registry Closer} {handle other : Handle Closer}
    (current : registry.Current handle) (current' : registry.Current other)
    (same : other.sessionId = handle.sessionId) : other.set = handle.set := by
  have found := current'.1
  rw [same, current.1] at found
  exact (Option.some.inj found).symm

theorem run_covered (relays : ∀ c, OneRelay g c) (covered : Covered g)
    (hr : g.relays.get c = some r) (same : r'.unregister = r.unregister)
    (closed : r.phase = .closed → r'.phase = .closed) : Covered (g.run c r r') := by
  intro c₁ r₁ handle h₁ open_ known
  simp only [Gateway.run, JsMap.get_set] at h₁
  split at h₁
  · cases h₁
    -- the relay itself is open still, so it has not left the registry
    have before : r.phase ≠ .closed := fun h => open_ (closed h)
    have kept : (g.run c r r').registry = g.registry := by
      rcases run_registry g c r r' with kept | ⟨_, -, -, now, -⟩
      · exact kept
      · exact absurd now open_
    rw [kept]
    exact covered c r handle hr before (same ▸ known)
  · rename_i other
    have current := covered c₁ r₁ handle h₁ open_ known
    apply run_current current
    · intro handle' known' before
      exact current_agree (covered c r handle' hr before known') current
    · intro handle' known'
      exact closer_ne relays h₁ hr (Ne.symm other) known known'

theorem join_covered {a : Nat} {token : String} {authorization : SignalingAuthorization}
    (wf : g.registry.Wf) (covered : Covered g) : Covered (g.join c r a token authorization) := by
  intro c₁ r₁ handle h₁ open_ known
  simp only [Gateway.join, JsMap.get_set] at h₁
  split at h₁
  · cases h₁
    cases known
    exact Registry.current_register_self wf
  · exact Registry.current_register wf (covered c₁ r₁ handle h₁ open_ known)

theorem join_absent {a : Nat} {token : String} {authorization : SignalingAuthorization}
    (absent : Absent g sessionId) (other : authorization.sessionId ≠ sessionId) :
    Absent (g.join c r a token authorization) sessionId := by
  change (g.registry.register _ _).1.connections.get sessionId = none
  rw [Registry.register_connections, if_neg other]
  exact absent

/-! ## A revocation -/

/-- In the loop of `revoke` for `sessionId`, with the closers in `left` still to
be visited: the set is out of the map, and leads to the open relays of the session. -/
structure Draining (g : Gateway) (sessionId : String) (ref : Nat) (left : List Closer) : Prop where
  relays : ∀ c, OneRelay g c
  absent : Absent g sessionId
  covered : ∀ c r handle, g.relays.get c = some r → r.phase ≠ .closed →
    r.unregister = some handle → g.registry.Current handle ∨
      (handle.sessionId = sessionId ∧ handle.set = ref ∧
        (g.registry.members ref).has handle.close = true ∧ handle.close ∈ left)

theorem close_draining {ref : Nat} {closer : Closer} {left : List Closer}
    (h : Draining g sessionId ref (closer :: left)) : Draining (g.close closer) sessionId ref left := by
  have relays : ∀ c, OneRelay (g.close closer) c := fun c => close_oneRelay (h.relays c) closer
  unfold Gateway.close at relays ⊢
  cases hr : g.relays.get closer.connection with
  | none =>
    refine ⟨h.relays, h.absent, ?_⟩
    intro c₁ r₁ handle h₁ open_ known
    rcases h.covered c₁ r₁ handle h₁ open_ known with current | ⟨session, set, member, place⟩
    · exact .inl current
    · refine .inr ⟨session, set, member, ?_⟩
      rcases List.mem_cons.mp place with first | rest
      · have own := ((h.relays c₁).sound r₁ h₁).shape.closer known
        rw [← first, own] at hr
        cases hr.symm.trans h₁
      · exact rest
  | some r =>
    simp only [hr] at relays ⊢
    refine ⟨relays, run_absent h.absent, ?_⟩
    intro c₁ r₁ handle h₁ open_ known
    simp only [Gateway.run, JsMap.get_set] at h₁
    split at h₁
    · cases h₁
      exact absurd (shutdown_phase _ _) open_
    · rename_i other
      have differ : ∀ handle', r.unregister = some handle' → handle.close ≠ handle'.close :=
        fun handle' known' => closer_ne h.relays h₁ hr (Ne.symm other) known known'
      rcases h.covered c₁ r₁ handle h₁ open_ known with current | ⟨session, set, member, place⟩
      · refine .inl (run_current current ?_ differ)
        intro handle' known' before same
        rcases h.covered _ r handle' hr before known' with current' | ⟨session', -⟩
        · exact current_agree current' current same
        · -- the closed relay is of the revoked session, which the map has forgotten
          have gone : g.registry.connections.get sessionId = none := h.absent
          rw [← session', ← same, current.1] at gone
          cases gone
      · refine .inr ⟨session, set, ?_, ?_⟩
        · rcases run_registry g closer.connection r (r.shutdown 1008 "session ended") with same | ⟨handle', known', -, -, eq⟩
          · rw [same]
            exact member
          · rw [eq]
            exact (Registry.unregister_members _ _).mpr ⟨member, fun same => differ handle' known' same.2⟩
        · rcases List.mem_cons.mp place with first | rest
          · have own := ((h.relays c₁).sound r₁ h₁).shape.closer known
            rw [← first, own] at other
            exact absurd rfl other
          · exact rest

theorem closeMember_draining {ref : Nat} {closer : Closer} {left : List Closer}
    (h : Draining g sessionId ref (closer :: left)) :
    Draining (g.closeMember ref closer) sessionId ref left := by
  unfold Gateway.closeMember
  split
  · exact close_draining h
  · rename_i gone
    refine ⟨h.relays, h.absent, ?_⟩
    intro c₁ r₁ handle h₁ open_ known
    rcases h.covered c₁ r₁ handle h₁ open_ known with current | ⟨session, set, member, place⟩
    · exact .inl current
    · rcases List.mem_cons.mp place with first | rest
      · rw [first] at member
        exact absurd member gone
      · exact .inr ⟨session, set, member, rest⟩

theorem closeMembers_draining {ref : Nat} (left : List Closer) (h : Draining g sessionId ref left) :
    Draining (left.foldl (Gateway.closeMember ref) g) sessionId ref [] := by
  induction left generalizing g with
  | nil => exact h
  | cons closer left ih => exact ih (closeMember_draining h)

/-- **A revocation** leaves no entry for its session, and every open relay covered. -/
theorem revoke_covered (relays : ∀ c, OneRelay g c) (covered : Covered g) :
    Covered (g.revoke sessionId) ∧ Absent (g.revoke sessionId) sessionId := by
  unfold Gateway.revoke
  cases hc : g.registry.connections.get sessionId with
  | none => exact ⟨covered, hc⟩
  | some ref =>
    have start : Draining { g with registry := g.registry.detach sessionId } sessionId ref
        (g.registry.members ref).keys := by
      refine ⟨?_, JsMap.get_delete_self, ?_⟩
      · intro c
        have inv := relays c
        exact ⟨⟨Registry.wf_detach inv.wf.registry sessionId, inv.wf.allocated⟩, inv.sound, inv.owned⟩
      · intro c r handle hr open_ known
        have current := covered c r handle hr open_ known
        by_cases own : handle.sessionId = sessionId
        · have set : handle.set = ref := by
            have found := current.1
            rw [own, hc] at found
            exact (Option.some.inj found).symm
          have member := current.2
          rw [set] at member
          exact .inr ⟨own, set, member, JsMap.mem_keys_iff_has.mpr member⟩
        · refine .inl ⟨?_, current.2⟩
          exact (JsMap.get_delete_ne (Ne.symm own)).trans current.1
    have drained := closeMembers_draining _ start
    refine ⟨?_, drained.absent⟩
    intro c r handle hr open_ known
    rcases drained.covered c r handle hr open_ known with current | ⟨-, -, -, nowhere⟩
    · exact current
    · cases nowhere

theorem close_absent (closer : Closer) (absent : Absent g sessionId) :
    Absent (g.close closer) sessionId := by
  unfold Gateway.close
  split
  · exact absent
  · exact run_absent absent

/-- A revocation of another session brings no entry back. -/
theorem revoke_absent {revoked : String} (absent : Absent g sessionId) :
    Absent (g.revoke revoked) sessionId := by
  have all : ∀ (ref : Nat) (closers : List Closer) (g : Gateway), Absent g sessionId →
      Absent (closers.foldl (Gateway.closeMember ref) g) sessionId := by
    intro ref closers
    induction closers with
    | nil => exact fun _ h => h
    | cons closer closers ih =>
      intro g h
      refine ih _ ?_
      unfold Gateway.closeMember
      split
      · exact close_absent closer h
      · exact h
  unfold Gateway.revoke
  split
  · exact absent
  · apply all
    change (g.registry.connections.delete revoked).get sessionId = none
    rw [JsMap.get_delete]
    split
    · rfl
    · exact absent

end

end Fireball.Signaling
