import Fireball.Supervisor.Proxy

/-!
# The phases of a lease

* `listen_carries`: everything an event can do, and `listen_phase` what it does to
  the phase;
* `LeaseWf`: what each phase says about the upstream socket and the client.
-/

namespace Fireball.Supervisor

open Foundation

section
variable {cfg : ProxyConfig} {l l' : Lease}

theorem shutdown_phase (code : Nat) (reason : String) : (l.shutdown code reason).phase = .closed := by
  unfold Lease.shutdown
  split
  · assumption
  · rfl

/-- What a listener logs of the event itself. -/
def LeaseEvent.heard : LeaseEvent → List LeaseAction
  | .clientFrame frame _ => [.received frame]
  | _ => []

def LeaseEvent.isUpstreamFrame : LeaseEvent → Bool
  | .upstreamFrame _ _ => true
  | _ => false

/-- The action sends a frame on. -/
def LeaseAction.sends : LeaseAction → Bool
  | .toClient _ => true
  | .toUpstream _ => true
  | _ => false

/-- Everything an event can do to the phase of a lease, to its log and to whether
it has an upstream socket. -/
inductive Carries (cfg : ProxyConfig) (l : Lease) (e : LeaseEvent) (l' : Lease) : Prop
  | opened {frame bufferedAmount} : e = .clientFrame frame bufferedAmount →
      l.phase = .authenticating → parseAuthenticationFrame cfg frame = true →
      l'.phase = .connecting → l'.upstream.isSome = true → l'.log = .received frame :: l.log →
      Carries cfg l e l'
  | announced : e = .upstreamOpened → l.phase = .connecting → l'.phase = .relaying →
      l'.upstream.isSome = l.upstream.isSome → l'.log = .toClient .authenticated :: l.log →
      Carries cfg l e l'
  | forwarded {frame bufferedAmount} : e = .clientFrame frame bufferedAmount →
      l.phase = .relaying → l'.phase = .relaying → l'.upstream.isSome = l.upstream.isSome →
      l'.log = .toUpstream frame :: .received frame :: l.log → Carries cfg l e l'
  | relayed {frame bufferedAmount} : e = .upstreamFrame frame bufferedAmount →
      l.phase = .relaying → l'.phase = .relaying → l'.upstream.isSome = l.upstream.isSome →
      l'.log = .toClient (.relayed frame) :: l.log → Carries cfg l e l'
  | shut {new} : l'.phase = .closed → l'.upstream.isSome = l.upstream.isSome →
      (∀ action ∈ new, action.sends = false) → l'.log = new ++ (e.heard ++ l.log) →
      Carries cfg l e l'
  /-- A frame that stays unanswered came too late, or too early. -/
  | kept : l'.phase = l.phase → l'.upstream.isSome = l.upstream.isSome →
      (e.heard ≠ [] → l.phase = .closed ∨ l.phase = .relaying ∧ l.upstream = none) →
      (e.isUpstreamFrame = true → l.phase ≠ .relaying) →
      l'.log = e.heard ++ l.log → Carries cfg l e l'

/-- A listener that ends in `shutdownLease`. -/
theorem shutdown_carries {e : LeaseEvent} {t : Lease} (code : Nat) (reason : String)
    (upstream : t.upstream.isSome = l.upstream.isSome) (log : t.log = e.heard ++ l.log) :
    Carries cfg l e (t.shutdown code reason) := by
  have silent : ∀ action ∈ [LeaseAction.closed code reason], action.sends = false := by
    intro action mem
    cases List.mem_singleton.mp mem
    rfl
  unfold Lease.shutdown
  split
  · rename_i closed
    exact .shut closed upstream (fun _ mem => absurd mem List.not_mem_nil) log
  · exact .shut rfl (by simpa using upstream) silent (by rw [← log]; rfl)

/-- `forward` hands the frame to the socket, or shuts the lease. -/
theorem forward_cases (destination : ReadyState) (byteLength bufferedAmount : Nat)
    (send : LeaseAction) :
    (∃ code reason, l.forward destination byteLength bufferedAmount send = l.shutdown code reason) ∨
      l.forward destination byteLength bufferedAmount send = { l with log := send :: l.log } := by
  unfold Lease.forward
  split
  · exact .inl ⟨_, _, rfl⟩
  split
  · exact .inl ⟨_, _, rfl⟩
  · exact .inr rfl

theorem clientMessage_carries (frame : Frame) (bufferedAmount : Nat) :
    Carries cfg l (.clientFrame frame bufferedAmount) (l.clientMessage cfg frame bufferedAmount) := by
  unfold Lease.clientMessage
  simp only
  split
  · rename_i waiting
    split
    · rename_i accepted
      exact .opened rfl waiting accepted rfl rfl rfl
    · exact shutdown_carries _ _ rfl rfl
  · exact shutdown_carries _ _ rfl rfl
  · rename_i relaying
    split
    · rename_i none
      exact .kept rfl rfl (fun _ => .inr ⟨relaying, none⟩) (fun h => nomatch h) rfl
    · rename_i u hu
      rcases forward_cases (l := { l with log := .received frame :: l.log }) u.socket
        frame.data.length bufferedAmount (.toUpstream frame) with ⟨code, reason, shut⟩ | sent
      · rw [shut]
        exact shutdown_carries _ _ rfl rfl
      · rw [sent]
        exact .forwarded rfl relaying relaying rfl rfl
  · rename_i closed
    exact .kept rfl rfl (fun _ => .inl closed) (fun h => nomatch h) rfl

/-- **One event** and the lease, with every listener there is. -/
theorem listen_carries {e : LeaseEvent} (h : l.listen cfg e = some l') : Carries cfg l e l' := by
  cases e with
  | clientFrame frame bufferedAmount =>
    simp only [Lease.listen] at h
    split at h
    · cases h
    · cases h
      exact clientMessage_carries frame bufferedAmount
  | clientClosed | timedOut =>
    simp only [Lease.listen] at h
    split at h
    · cases h
      exact shutdown_carries _ _ rfl rfl
    · cases h
  | clientFailed =>
    simp only [Lease.listen] at h
    split at h
    · cases h
    · split at h
      · cases h
        exact shutdown_carries _ _ rfl rfl
      · cases h
        exact .kept rfl rfl (fun quiet => absurd rfl quiet) (fun h => nomatch h) rfl
  | clientState state =>
    simp only [Lease.listen] at h
    split at h
    · cases h
      exact .kept rfl rfl (fun quiet => absurd rfl quiet) (fun h => nomatch h) rfl
    · cases h
  | sendFailed =>
    cases h
    exact shutdown_carries _ _ rfl rfl
  | upstreamOpened =>
    simp only [Lease.listen] at h
    split at h
    · rename_i u hu
      split at h
      · cases h
        unfold Lease.upstreamOpened
        split
        · exact .kept rfl (by simp [hu]) (fun quiet => absurd rfl quiet) (fun h => nomatch h) rfl
        · rename_i connecting
          exact .announced rfl (by simpa using connecting) rfl (by simp [hu]) rfl
      · cases h
    · cases h
  | upstreamFrame frame bufferedAmount =>
    simp only [Lease.listen] at h
    split at h
    · split at h
      · cases h
      · cases h
        unfold Lease.upstreamMessage
        split
        · rename_i relaying
          rcases forward_cases (l := l) l.client frame.data.length bufferedAmount
            (.toClient (.relayed frame)) with ⟨code, reason, shut⟩ | sent
          · rw [shut]
            exact shutdown_carries _ _ rfl rfl
          · rw [sent]
            exact .relayed rfl relaying relaying rfl rfl
        · rename_i early
          exact .kept rfl rfl (fun quiet => absurd rfl quiet) (fun _ => early) rfl
    · cases h
  | upstreamClosed =>
    simp only [Lease.listen] at h
    split at h
    · rename_i u hu
      split at h
      · cases h
        exact shutdown_carries _ _ (by simp [hu]) rfl
      · cases h
    · cases h
  | upstreamFailed =>
    simp only [Lease.listen] at h
    split at h
    · rename_i u hu
      split at h
      · cases h
      · split at h
        · cases h
          exact shutdown_carries _ _ (by simp [hu]) rfl
        · cases h
          exact .kept rfl rfl (fun quiet => absurd rfl quiet) (fun h => nomatch h) rfl
    · cases h
  | upstreamState state =>
    simp only [Lease.listen] at h
    split at h
    · rename_i u hu
      split at h
      · cases h
        exact .kept rfl (by simp [hu]) (fun quiet => absurd rfl quiet) (fun h => nomatch h) rfl
      · cases h
    · cases h

/-- How an event can change the phase of a lease. -/
inductive PhaseChange (cfg : ProxyConfig) (l l' : Lease) : Prop
  | closed : l'.phase = .closed → PhaseChange cfg l l'
  /-- Nothing has been heard of an unauthenticated client. -/
  | same : l'.phase = l.phase →
      (l.phase = .authenticating → l'.upstream.isNone = l.upstream.isNone ∧ l'.log = l.log) →
      PhaseChange cfg l l'
  | connecting {frame} : l.phase = .authenticating → l'.phase = .connecting →
      parseAuthenticationFrame cfg frame = true → .received frame ∈ l'.log → PhaseChange cfg l l'
  | relaying : l.phase = .connecting → l'.phase = .relaying → PhaseChange cfg l l'

theorem listen_phase {e : LeaseEvent} (h : l.listen cfg e = some l') : PhaseChange cfg l l' := by
  have passed : ∀ {P : Prop}, l.phase = .relaying → l.phase = .authenticating → P := by
    intro P relaying waiting
    cases waiting.symm.trans relaying
  cases listen_carries h with
  | opened _ waiting accepted phase _ log =>
    exact .connecting waiting phase accepted (log ▸ List.mem_cons_self ..)
  | announced _ connecting phase => exact .relaying connecting phase
  | forwarded _ relaying phase | relayed _ relaying phase =>
    exact .same (phase.trans relaying.symm) (passed relaying)
  | shut closed => exact .closed closed
  | kept same upstream late _ log =>
    refine .same same fun waiting => ?_
    have silent : e.heard = [] := by
      by_contra heard
      rcases late heard with closed | ⟨relaying, -⟩
      · cases waiting.symm.trans closed
      · exact passed relaying waiting
    rw [silent] at log
    exact ⟨by rw [← Option.not_isSome, ← Option.not_isSome, upstream], log⟩

/-- The log only grows. -/
theorem listen_log {e : LeaseEvent} (h : l.listen cfg e = some l') : ∃ new, l'.log = new ++ l.log := by
  cases listen_carries h with
  | opened _ _ _ _ _ log | announced _ _ _ _ log | relayed _ _ _ _ log => exact ⟨[_], log⟩
  | forwarded _ _ _ _ log => exact ⟨[_, _], log⟩
  | shut _ _ _ log => exact ⟨_, log.trans (List.append_assoc ..).symm⟩
  | kept _ _ _ _ log => exact ⟨_, log⟩

/-! ## What a phase says -/

theorem authenticated_iff : l.authenticated cfg = true ↔
    ∃ frame, .received frame ∈ l.log ∧ parseAuthenticationFrame cfg frame = true := by
  unfold Lease.authenticated
  rw [List.any_eq_true]
  constructor
  · rintro ⟨action, mem, accepted⟩
    split at accepted
    · exact ⟨_, mem, accepted⟩
    · cases accepted
  · rintro ⟨frame, mem, accepted⟩
    exact ⟨_, mem, accepted⟩

/-- The client is authenticated from `connecting` on, and has an upstream socket
only since then. -/
structure LeaseWf (cfg : ProxyConfig) (l : Lease) : Prop where
  waiting : l.phase = .authenticating → l.authenticated cfg = false ∧ l.upstream = none
  passed : l.phase = .connecting ∨ l.phase = .relaying → l.authenticated cfg = true

theorem leaseWf_initial (cfg : ProxyConfig) : LeaseWf cfg .initial where
  waiting := fun _ => ⟨rfl, rfl⟩
  passed := by rintro (phase | phase) <;> cases phase

theorem listen_wf {e : LeaseEvent} (wf : LeaseWf cfg l) (h : l.listen cfg e = some l') :
    LeaseWf cfg l' := by
  have kept : l.authenticated cfg = true → l'.authenticated cfg = true := by
    obtain ⟨new, eq⟩ := listen_log h
    rw [authenticated_iff, authenticated_iff, eq]
    rintro ⟨frame, mem, accepted⟩
    exact ⟨frame, List.mem_append_right _ mem, accepted⟩
  cases listen_phase h with
  | closed closed => constructor <;> intro phase <;> simp [closed] at phase
  | same same quiet =>
    constructor
    · intro waiting
      rw [same] at waiting
      obtain ⟨upstream, log⟩ := quiet waiting
      obtain ⟨unheard, none⟩ := wf.waiting waiting
      refine ⟨?_, ?_⟩
      · unfold Lease.authenticated at unheard ⊢
        rw [log]
        exact unheard
      · rw [none] at upstream
        exact Option.isNone_iff_eq_none.mp upstream
    · intro phase
      rw [same] at phase
      exact kept (wf.passed phase)
  | connecting waiting phase accepted mem =>
    constructor
    · intro phase'
      cases phase.symm.trans phase'
    · exact fun _ => authenticated_iff.mpr ⟨_, mem, accepted⟩
  | relaying connecting phase =>
    constructor
    · intro phase'
      cases phase.symm.trans phase'
    · exact fun _ => kept (wf.passed (.inl connecting))

end

/-! ## The leases of the proxy -/

section
variable {cfg : ProxyConfig} {p p' : Proxy} {e : ProxyEvent}

@[simp] theorem note_peers (p : Proxy) (socket : Option SocketId) (deaf : Bool) :
    (p.note socket deaf).peers = p.peers := by
  unfold Proxy.note
  cases socket <;> rfl

@[simp] theorem note_activeLease (p : Proxy) (socket : Option SocketId) (deaf : Bool) :
    (p.note socket deaf).activeLease = p.activeLease := by
  unfold Proxy.note
  cases socket <;> rfl

/-- Everything an event can do to connection `c`. -/
inductive PeerStep (cfg : ProxyConfig) (p : Proxy) (e : ProxyEvent) (c : Nat) :
    Option Peer → Option Peer → Prop
  | kept {peer} : e ≠ .close → (∀ event, e ≠ .lease c event) → PeerStep cfg p e c peer peer
  | accepted : e = .connection c → p.activeLease = none →
      PeerStep cfg p e c none (some (.leased .initial))
  | refused {client} : e = .connection c → PeerStep cfg p e c none (some (.refused client))
  | listened {event l l'} : e = .lease c event → l.listen cfg event = some l' →
      PeerStep cfg p e c (some (.leased l)) (some (.leased l'))
  | moved {client state} : PeerStep cfg p e c (some (.refused client)) (some (.refused state))
  | terminated {before after} : e = .close →
      after = before.map (Peer.terminate (p.activeLease = some c)) → PeerStep cfg p e c before after

theorem peer_step (h : proxyStep cfg p e = some p') (c : Nat) :
    PeerStep cfg p e c (p.peers.get c) (p'.peers.get c) := by
  cases e with
  | connection c₁ =>
    simp only [proxyStep] at h
    split at h
    · rename_i free
      cases h
      unfold Proxy.connection
      by_cases same : c₁ = c
      · subst same
        rw [free.2]
        cases ha : p.activeLease with
        | some holder =>
          simp only [JsMap.get_set_self]
          exact .refused rfl
        | none =>
          simp only [JsMap.get_set_self]
          exact .accepted rfl ha
      · cases p.activeLease with
        | some holder | none =>
          simp only [JsMap.get_set_ne same]
          exact .kept (by simp) (by simp)
    · cases h
  | lease c₁ event =>
    simp only [proxyStep] at h
    split at h
    · rename_i l hc
      obtain ⟨l₁, listened, rfl⟩ := Option.map_eq_some_iff.mp h
      rw [note_peers, Proxy.run]
      by_cases same : c₁ = c
      · subst same
        simp only [JsMap.get_set_self, hc]
        exact .listened rfl listened
      · simp only [JsMap.get_set_ne same]
        exact .kept (by simp) (by simp [same])
    · cases h
  | refused c₁ event =>
    simp only [proxyStep] at h
    split at h
    · rename_i client hc
      cases event with
      | failed =>
        simp only at h
        split at h
        · cases h
        · cases h
          rw [note_peers]
          exact .kept (by simp) (by simp)
      | state state =>
        simp only at h
        split at h
        · cases h
          by_cases same : c₁ = c
          · subst same
            simp only [JsMap.get_set_self, hc]
            exact .moved
          · simp only [JsMap.get_set_ne same]
            exact .kept (by simp) (by simp)
        · cases h
    · cases h
  | close =>
    simp only [proxyStep] at h
    split at h
    · cases h
      rw [Proxy.close, JsMap.get_mapValues]
      exact .terminated rfl rfl
    · cases h

/-- No connection is forgotten. -/
theorem peer_known {c : Nat} (h : proxyStep cfg p e = some p') (unknown : p'.peers.get c = none) :
    p.peers.get c = none := by
  have step := peer_step h c
  rw [unknown] at step
  generalize p.peers.get c = before at step
  cases before with
  | none => rfl
  | some peer => nomatch step

end

end Fireball.Supervisor
