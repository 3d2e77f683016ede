import Fireball.Supervisor.Lease

/-!
# Errors of the proxy's sockets

Which `error` events find a listener of the proxy.

* `listen_ears`: each event takes off its own listener and no other one;
* `proxy_errors_heard`: an error is heard when its socket is that of an accepted
  connection or of its upstream, and it is the first one there;
* `refused_unheard`: a refused client that breaks the protocol.
-/

namespace Fireball.Supervisor

open Foundation

/-! ## One lease -/

/-- The `error` listeners of the client and of the upstream socket. -/
def Lease.ears (l : Lease) : Bool × Option Bool := (l.errorListener, l.upstream.map (·.errorListener))

/-- The listeners that are left after an event. -/
def LeaseEvent.spares (e : LeaseEvent) (ears : Bool × Option Bool) : Bool × Option Bool :=
  (ears.1 && e ≠ .clientFailed, ears.2.map (· && e ≠ .upstreamFailed))

section
variable {cfg : ProxyConfig} {l l' : Lease}

@[simp] theorem shutdown_ears (code : Nat) (reason : String) :
    (l.shutdown code reason).ears = l.ears := by
  unfold Lease.shutdown Lease.ears
  split
  · rfl
  · cases l.upstream <;> rfl

@[simp] theorem forward_ears (destination : ReadyState) (byteLength bufferedAmount : Nat)
    (send : LeaseAction) : (l.forward destination byteLength bufferedAmount send).ears = l.ears := by
  unfold Lease.forward
  split
  · exact shutdown_ears _ _
  split
  · exact shutdown_ears _ _
  · rfl

theorem spares_of_other {e : LeaseEvent} (client : e ≠ .clientFailed) (upstream : e ≠ .upstreamFailed)
    (ears : Bool × Option Bool) : e.spares ears = ears := by
  obtain ⟨first, second⟩ := ears
  cases second <;> simp [LeaseEvent.spares, client, upstream]

theorem spares_same {e : LeaseEvent} (client : e ≠ .clientFailed) (upstream : e ≠ .upstreamFailed)
    (same : l'.ears = l.ears) : l'.ears = e.spares l.ears :=
  same.trans (spares_of_other client upstream l.ears).symm

/-! Each listener of a lease. -/

/-- A lease gets its upstream socket, with a listener, from a frame of the client. -/
theorem clientFrame_ears {frame : Frame} {bufferedAmount : Nat}
    (h : l.listen cfg (.clientFrame frame bufferedAmount) = some l') :
    l'.ears = l.ears ∨ l.phase = .authenticating ∧ l'.ears = (l.errorListener, some true) := by
  simp only [Lease.listen] at h
  split at h
  · cases h
  · cases h
    unfold Lease.clientMessage
    simp only
    split
    · rename_i waiting
      split
      · exact .inr ⟨waiting, rfl⟩
      · exact .inl (shutdown_ears _ _)
    · exact .inl (shutdown_ears _ _)
    · split
      · exact .inl rfl
      · exact .inl (forward_ears _ _ _ _)
    · exact .inl rfl

theorem clientClosed_ears (h : l.listen cfg .clientClosed = some l') : l'.ears = l.ears := by
  simp only [Lease.listen] at h
  split at h
  · cases h
    exact shutdown_ears _ _
  · cases h

theorem timedOut_ears (h : l.listen cfg .timedOut = some l') : l'.ears = l.ears := by
  simp only [Lease.listen] at h
  split at h
  · cases h
    exact shutdown_ears _ _
  · cases h

theorem clientFailed_ears (h : l.listen cfg .clientFailed = some l') :
    l'.ears = LeaseEvent.clientFailed.spares l.ears := by
  simp only [Lease.listen] at h
  split at h
  · cases h
  · split at h
    · cases h
      refine (shutdown_ears _ _).trans ?_
      simp only [Lease.ears, LeaseEvent.spares]
      cases l.upstream <;> simp
    · rename_i deaf
      cases h
      have off : l.errorListener = false := by simpa using deaf
      simp only [Lease.ears, LeaseEvent.spares, off]
      cases l.upstream <;> simp

theorem clientState_ears {state : ReadyState} (h : l.listen cfg (.clientState state) = some l') :
    l'.ears = l.ears := by
  simp only [Lease.listen] at h
  split at h
  · cases h
    rfl
  · cases h

theorem upstreamOpened_ears (h : l.listen cfg .upstreamOpened = some l') : l'.ears = l.ears := by
  simp only [Lease.listen] at h
  split at h
  · rename_i u hu
    split at h
    · cases h
      unfold Lease.upstreamOpened
      split <;> simp [Lease.ears, hu]
    · cases h
  · cases h

theorem upstreamFrame_ears {frame : Frame} {bufferedAmount : Nat}
    (h : l.listen cfg (.upstreamFrame frame bufferedAmount) = some l') : l'.ears = l.ears := by
  simp only [Lease.listen] at h
  split at h
  · split at h
    · cases h
    · cases h
      unfold Lease.upstreamMessage
      split
      · exact forward_ears _ _ _ _
      · rfl
  · cases h

theorem upstreamClosed_ears (h : l.listen cfg .upstreamClosed = some l') : l'.ears = l.ears := by
  simp only [Lease.listen] at h
  split at h
  · rename_i u hu
    split at h
    · cases h
      exact (shutdown_ears _ _).trans (by simp [Lease.ears, hu])
    · cases h
  · cases h

theorem upstreamFailed_ears (h : l.listen cfg .upstreamFailed = some l') :
    l'.ears = LeaseEvent.upstreamFailed.spares l.ears := by
  simp only [Lease.listen] at h
  split at h
  · rename_i u hu
    split at h
    · cases h
    · split at h
      · cases h
        refine (shutdown_ears _ _).trans ?_
        simp [Lease.ears, LeaseEvent.spares, hu]
      · rename_i deaf
        cases h
        have off : u.errorListener = false := by simpa using deaf
        simp [Lease.ears, LeaseEvent.spares, hu, off]
  · cases h

theorem upstreamState_ears {state : ReadyState} (h : l.listen cfg (.upstreamState state) = some l') :
    l'.ears = l.ears := by
  simp only [Lease.listen] at h
  split at h
  · rename_i u hu
    split at h
    · cases h
      simp [Lease.ears, hu]
    · cases h
  · cases h

/-- An `error` event takes off the listener it finds, and no other event takes off one. -/
theorem listen_ears {e : LeaseEvent} (h : l.listen cfg e = some l') :
    l'.ears = e.spares l.ears ∨
      (l.phase = .authenticating ∧ l'.ears = (l.errorListener, some true) ∧
        ∃ frame bufferedAmount, e = .clientFrame frame bufferedAmount) := by
  cases e with
  | clientFrame frame bufferedAmount =>
    rw [spares_of_other (by simp) (by simp)]
    rcases clientFrame_ears h with same | ⟨waiting, fresh⟩
    · exact .inl same
    · exact .inr ⟨waiting, fresh, frame, bufferedAmount, rfl⟩
  | clientFailed => exact .inl (clientFailed_ears h)
  | upstreamFailed => exact .inl (upstreamFailed_ears h)
  | clientClosed => exact .inl (spares_same (by simp) (by simp) (clientClosed_ears h))
  | timedOut => exact .inl (spares_same (by simp) (by simp) (timedOut_ears h))
  | clientState state => exact .inl (spares_same (by simp) (by simp) (clientState_ears h))
  | sendFailed =>
    cases h
    exact .inl (spares_same (by simp) (by simp) (shutdown_ears _ _))
  | upstreamOpened => exact .inl (spares_same (by simp) (by simp) (upstreamOpened_ears h))
  | upstreamFrame frame bufferedAmount =>
    exact .inl (spares_same (by simp) (by simp) (upstreamFrame_ears h))
  | upstreamClosed => exact .inl (spares_same (by simp) (by simp) (upstreamClosed_ears h))
  | upstreamState state =>
    exact .inl (spares_same (by simp) (by simp) (upstreamState_ears h))

theorem listen_upstreamFailed (h : l.listen cfg .upstreamFailed = some l') :
    ∃ u, l.upstream = some u := by
  simp only [Lease.listen] at h
  split at h
  · rename_i u hu
    exact ⟨u, hu⟩
  · cases h

end

/-! ## The proxy -/

/-- The listeners of connection `c` are those whose sockets have not failed. -/
structure Hears (errors : List SocketId) (c : Nat) (ears : Bool × Option Bool) : Prop where
  client : ears.1 = true ↔ .client c ∉ errors
  upstream : ∀ ear, ears.2 = some ear → (ear = true ↔ .upstream c ∉ errors)
  none : ears.2 = none → .upstream c ∉ errors

structure ListenersWf (cfg : ProxyConfig) (p : Proxy) : Prop where
  leases : ∀ c l, p.peers.get c = some (.leased l) → LeaseWf cfg l
  hears : ∀ c l, p.peers.get c = some (.leased l) → Hears p.errors c l.ears
  unknown : ∀ c, p.peers.get c = none → .client c ∉ p.errors ∧ .upstream c ∉ p.errors

theorem listenersWf_initial (cfg : ProxyConfig) : ListenersWf cfg .initial where
  leases := by intro c l h; simp [Proxy.initial] at h
  hears := by intro c l h; simp [Proxy.initial] at h
  unknown := by intro c _; simp [Proxy.initial]

/-- An `error` event is not that of a refused client, and is the first on its socket. -/
def HeardError (p : Proxy) (e : ProxyEvent) : Prop :=
  match e with
  | .refused _ .failed => False
  | e => ∀ id ∈ e.failing, id ∉ p.errors

instance (p : Proxy) (e : ProxyEvent) : Decidable (HeardError p e) := by
  unfold HeardError
  split <;> infer_instance

section
variable {cfg : ProxyConfig} {p p' : Proxy} {c : Nat} {l l' : Lease}

theorem note_errors (p : Proxy) (socket : Option SocketId) (deaf : Bool) :
    (p.note socket deaf).errors = socket.toList ++ p.errors := by
  unfold Proxy.note
  cases socket <;> rfl

theorem note_unheard (p : Proxy) (socket : Option SocketId) (deaf : Bool) :
    (p.note socket deaf).unheard = [] ↔ p.unheard = [] ∧ (socket.isSome = true → deaf = false) := by
  unfold Proxy.note
  cases socket with
  | none => simp
  | some id => cases deaf <;> simp

/-- An event of one connection says nothing about the sockets of another. -/
theorem failing_other {c₁ : Nat} (other : c ≠ c₁) (event : LeaseEvent) :
    ProxyEvent.failing (.lease c event) ≠ some (.client c₁) ∧
      ProxyEvent.failing (.lease c event) ≠ some (.upstream c₁) := by
  cases event <;> simp [ProxyEvent.failing, other]

theorem hears_other {errors : List SocketId} {socket : Option SocketId} {ears : Bool × Option Bool}
    (h : Hears errors c ears) (client : socket ≠ some (.client c))
    (upstream : socket ≠ some (.upstream c)) : Hears (socket.toList ++ errors) c ears := by
  have mem : ∀ id, socket ≠ some id → (id ∉ socket.toList ++ errors ↔ id ∉ errors) := by
    intro id other
    simp [other]
  exact ⟨h.client.trans (mem _ client).symm,
    fun ear he => (h.upstream ear he).trans (mem _ upstream).symm,
    fun he => (mem _ upstream).mpr (h.none he)⟩

/-- **One event of a lease** and the listeners it leaves. -/
theorem hears_listen {errors : List SocketId} {event : LeaseEvent} (wf : LeaseWf cfg l)
    (h : Hears errors c l.ears) (hl : l.listen cfg event = some l') :
    Hears ((ProxyEvent.failing (.lease c event)).toList ++ errors) c l'.ears := by
  rcases listen_ears hl with spared | ⟨waiting, fresh, frame, bufferedAmount, rfl⟩
  · rw [spared]
    cases event with
    | clientFailed =>
      refine ⟨by simp [LeaseEvent.spares, ProxyEvent.failing], ?_, ?_⟩
      · intro ear he
        have kept : l.ears.2 = some ear := by simpa [LeaseEvent.spares] using he
        rw [h.upstream ear kept]
        simp [ProxyEvent.failing]
      · intro he
        have kept : l.ears.2 = none := by simpa [LeaseEvent.spares] using he
        simpa [ProxyEvent.failing] using h.none kept
    | upstreamFailed =>
      obtain ⟨u, hu⟩ := listen_upstreamFailed hl
      refine ⟨?_, ?_, ?_⟩
      · have kept := h.client
        simpa [LeaseEvent.spares, ProxyEvent.failing] using kept
      · intro ear he
        have off : ear = false := by
          simp only [LeaseEvent.spares, Lease.ears, hu] at he
          simpa using he.symm
        simp [off, ProxyEvent.failing]
      · intro he
        simp [LeaseEvent.spares, Lease.ears, hu] at he
    | _ =>
      rw [spares_of_other (by simp) (by simp)]
      exact h
  · rw [fresh]
    have none : l.ears.2 = none := by
      simp [Lease.ears, (wf.waiting waiting).2]
    refine ⟨h.client, ?_, by simp⟩
    intro ear he
    cases he
    simpa [ProxyEvent.failing] using h.none none

/-- The lease is deaf to an `error` event of a socket that has failed before. -/
theorem deaf_iff {errors : List SocketId} {event : LeaseEvent} {id : SocketId}
    (h : Hears errors c l.ears) (hl : l.listen cfg event = some l')
    (failing : ProxyEvent.failing (.lease c event) = some id) :
    l.deaf event = false ↔ id ∉ errors := by
  cases event with
  | clientFailed =>
    cases failing
    rw [← h.client]
    simp [Lease.deaf, Lease.ears]
  | upstreamFailed =>
    cases failing
    obtain ⟨u, hu⟩ := listen_upstreamFailed hl
    rw [← h.upstream u.errorListener (by simp [Lease.ears, hu])]
    simp [Lease.deaf, hu]
  | _ => cases failing

variable (cfg) in
theorem terminate_leased {active : Bool} {peer : Peer} (h : peer.terminate active = .leased l') :
    ∃ l, peer = .leased l ∧ l'.ears = l.ears ∧ (LeaseWf cfg l → LeaseWf cfg l') := by
  cases peer with
  | refused client => cases h
  | leased l =>
    cases h
    refine ⟨l, rfl, ?_, ?_⟩
    · cases active
      · rfl
      · cases hu : l.upstream <;> simp [Lease.ears, hu]
    · intro wf
      refine ⟨?_, wf.passed⟩
      intro waiting
      obtain ⟨unheard, none⟩ := wf.waiting waiting
      exact ⟨unheard, by cases active <;> simp [none]⟩

/-- An event of one connection leaves the listeners of the others. -/
theorem listenersWf_one (wf : ListenersWf cfg p) (c : Nat) (socket : Option SocketId)
    (others : ∀ c₁, c ≠ c₁ → p'.peers.get c₁ = p.peers.get c₁) (errors : p'.errors = socket.toList ++ p.errors)
    (apart : ∀ c₁, c ≠ c₁ → socket ≠ some (.client c₁) ∧ socket ≠ some (.upstream c₁))
    (there : p'.peers.get c ≠ none)
    (own : ∀ l, p'.peers.get c = some (.leased l) → LeaseWf cfg l ∧ Hears p'.errors c l.ears) :
    ListenersWf cfg p' := by
  refine ⟨?_, ?_, ?_⟩
  · intro c₁ l h
    by_cases same : c = c₁
    · subst same
      exact (own l h).1
    · rw [others c₁ same] at h
      exact wf.leases c₁ l h
  · intro c₁ l h
    by_cases same : c = c₁
    · subst same
      exact (own l h).2
    · rw [others c₁ same] at h
      rw [errors]
      exact hears_other (wf.hears c₁ l h) (apart c₁ same).1 (apart c₁ same).2
  · intro c₁ h
    by_cases same : c = c₁
    · subst same
      exact absurd h there
    · rw [others c₁ same] at h
      obtain ⟨client, upstream⟩ := wf.unknown c₁ h
      obtain ⟨notClient, notUpstream⟩ := apart c₁ same
      rw [errors]
      cases socket with
      | none => exact ⟨client, upstream⟩
      | some id =>
        simp only [ne_eq, Option.some.injEq] at notClient notUpstream
        simp [client, upstream, Ne.symm notClient, Ne.symm notUpstream]

/-! Each kind of event of the proxy. -/

theorem connection_listeners (wf : ListenersWf cfg p) (h : proxyStep cfg p (.connection c) = some p') :
    ListenersWf cfg p' ∧ (p'.unheard = [] ↔ p.unheard = [] ∧ HeardError p (.connection c)) := by
  simp only [proxyStep] at h
  split at h
  · rename_i free
    cases h
    obtain ⟨client, upstream⟩ := wf.unknown c free.2
    have heard : HeardError p (.connection c) := by simp [HeardError, ProxyEvent.failing]
    unfold Proxy.connection
    cases p.activeLease with
    | some holder =>
      refine ⟨listenersWf_one wf c none (fun c₁ other => JsMap.get_set_ne other) rfl (by simp) (by simp) ?_,
        by simp [heard]⟩
      intro l refused
      rw [JsMap.get_set_self] at refused
      cases refused
    | none =>
      refine ⟨listenersWf_one wf c none (fun c₁ other => JsMap.get_set_ne other) rfl (by simp) (by simp) ?_,
        by simp [heard]⟩
      intro l leased
      rw [JsMap.get_set_self] at leased
      cases leased
      exact ⟨leaseWf_initial cfg, by simp [Lease.ears, Lease.initial, client],
        by simp [Lease.ears, Lease.initial], fun _ => upstream⟩
  · cases h

theorem lease_listeners {event : LeaseEvent} (wf : ListenersWf cfg p)
    (h : proxyStep cfg p (.lease c event) = some p') :
    ListenersWf cfg p' ∧ (p'.unheard = [] ↔ p.unheard = [] ∧ HeardError p (.lease c event)) := by
  simp only [proxyStep] at h
  split at h
  · rename_i l hc
    obtain ⟨l', hl, rfl⟩ := Option.map_eq_some_iff.mp h
    have own := wf.hears c l hc
    constructor
    · refine listenersWf_one wf c (ProxyEvent.failing (.lease c event)) ?_ (note_errors ..)
        (fun c₁ other => failing_other other event) ?_ ?_
      · intro c₁ other
        rw [note_peers, Proxy.run]
        exact JsMap.get_set_ne other
      · rw [note_peers, Proxy.run, JsMap.get_set_self]
        simp
      · intro l₁ leased
        rw [note_peers, Proxy.run, JsMap.get_set_self] at leased
        cases leased
        rw [note_errors]
        exact ⟨listen_wf (wf.leases c l hc) hl, hears_listen (wf.leases c l hc) own hl⟩
    · rw [note_unheard]
      refine and_congr Iff.rfl ?_
      unfold HeardError
      cases hf : ProxyEvent.failing (.lease c event) with
      | none => simp [hf]
      | some id => simp [hf, deaf_iff own hl hf]
  · cases h

theorem refused_listeners {event : RefusedEvent} (wf : ListenersWf cfg p)
    (h : proxyStep cfg p (.refused c event) = some p') :
    ListenersWf cfg p' ∧ (p'.unheard = [] ↔ p.unheard = [] ∧ HeardError p (.refused c event)) := by
  simp only [proxyStep] at h
  split at h
  · rename_i client hc
    cases event with
    | failed =>
      simp only at h
      split at h
      · cases h
      · cases h
        constructor
        · refine listenersWf_one wf c (ProxyEvent.failing (.refused c .failed)) (fun c₁ _ => by rw [note_peers])
            (note_errors ..) (fun c₁ other => by simp [ProxyEvent.failing, other]) (by simp [hc]) ?_
          intro l leased
          rw [note_peers, hc] at leased
          cases leased
        · rw [note_unheard]
          simp [HeardError, ProxyEvent.failing]
    | state state =>
      simp only at h
      split at h
      · cases h
        refine ⟨listenersWf_one wf c none (fun c₁ other => JsMap.get_set_ne other) rfl (by simp) (by simp) ?_,
          by simp [HeardError, ProxyEvent.failing]⟩
        intro l leased
        rw [JsMap.get_set_self] at leased
        cases leased
      · cases h
  · cases h

theorem close_listeners (wf : ListenersWf cfg p) (h : proxyStep cfg p .close = some p') :
    ListenersWf cfg p' ∧ (p'.unheard = [] ↔ p.unheard = [] ∧ HeardError p .close) := by
  simp only [proxyStep] at h
  split at h
  · cases h
    have leased : ∀ c₁ l₁, p.close.peers.get c₁ = some (.leased l₁) → ∃ l,
        p.peers.get c₁ = some (.leased l) ∧ l₁.ears = l.ears ∧ (LeaseWf cfg l → LeaseWf cfg l₁) := by
      intro c₁ l₁ h₁
      rw [Proxy.close, JsMap.get_mapValues] at h₁
      obtain ⟨peer, hp, ht⟩ := Option.map_eq_some_iff.mp h₁
      obtain ⟨l, rfl, ears, kept⟩ := terminate_leased cfg ht
      exact ⟨l, hp, ears, kept⟩
    refine ⟨⟨?_, ?_, ?_⟩, by simp [Proxy.close, HeardError, ProxyEvent.failing]⟩
    · intro c₁ l₁ h₁
      obtain ⟨l, hl, -, kept⟩ := leased c₁ l₁ h₁
      exact kept (wf.leases c₁ l hl)
    · intro c₁ l₁ h₁
      obtain ⟨l, hl, ears, -⟩ := leased c₁ l₁ h₁
      rw [ears]
      exact wf.hears c₁ l hl
    · intro c₁ h₁
      rw [Proxy.close, JsMap.get_mapValues, Option.map_eq_none_iff] at h₁
      exact wf.unknown c₁ h₁
  · cases h

theorem step_listeners {e : ProxyEvent} (wf : ListenersWf cfg p) (h : proxyStep cfg p e = some p') :
    ListenersWf cfg p' ∧ (p'.unheard = [] ↔ p.unheard = [] ∧ HeardError p e) := by
  cases e with
  | connection c => exact connection_listeners wf h
  | lease c event => exact lease_listeners wf h
  | refused c event => exact refused_listeners wf h
  | close => exact close_listeners wf h

end

/-- **Every error of a socket of the proxy is heard** in exactly those runs in which
no refused client's socket fails, and no other one fails twice. -/
theorem proxy_errors_heard (cfg : ProxyConfig) {events : List ProxyEvent} {p : Proxy}
    (run : (proxy cfg).runFrom .initial events = some p) :
    p.unheard = [] ↔ (proxy cfg).Admits HeardError .initial events := by
  have one : ∀ p e p', ListenersWf cfg p → (proxy cfg).step p e = some p' →
      ListenersWf cfg p' ∧ (¬ p'.unheard ≠ [] ↔ ¬ p.unheard ≠ [] ∧ HeardError p e) := by
    intro p e p' wf h
    simp only [ne_eq, not_not]
    exact step_listeners wf h
  have decided : ¬ p.unheard ≠ [] ↔ ¬ Proxy.initial.unheard ≠ [] ∧
      (proxy cfg).Admits HeardError .initial events :=
    Machine.clear_iff_admits one (listenersWf_initial cfg) run
  simpa [Proxy.initial] using decided

/-! ## A refused client that breaks the protocol -/

def sampleSecret : String := "AAAAAAAAAAAAAAAAAAAAAAAAAAAAAAAAAAAAAAAAAAA"

/-- The bootstrap frame, as ASCII bytes. -/
def bootstrapFrame : Frame where
  data := ("\x7b\"type\":\"authenticate\",\"secret\":\"" ++ sampleSecret ++ "\"\x7d").toList.map
    fun c => UInt8.ofNat c.toNat
  isBinary := false

def sampleProxy : ProxyConfig where
  secret := sampleSecret
  parseJson := fun data =>
    if data = bootstrapFrame.data then
      some (.object [("type", .string "authenticate"), ("secret", .string sampleSecret)])
    else none

/-- The controller authenticates, is connected, and its own socket fails. -/
def controllerFails : List ProxyEvent :=
  [.connection 0, .lease 0 (.clientFrame bootstrapFrame 0), .lease 0 .upstreamOpened,
    .lease 0 .clientFailed, .lease 0 .clientClosed]

theorem proxy_errors_heard_controller : ∃ p,
    (proxy sampleProxy).runFrom .initial controllerFails = some p ∧ p.errors = [.client 0] ∧
    p.unheard = [] := by
  have run : (proxy sampleProxy).runFrom .initial controllerFails =
      some (((proxy sampleProxy).runFrom .initial controllerFails).get (by decide)) :=
    (Option.some_get _).symm
  exact ⟨_, run, by decide, (proxy_errors_heard sampleProxy run).mpr (Machine.admits_sound (by decide))⟩

/-- A second client is refused and sends an oversized frame before it is closed. -/
theorem refused_unheard : ∃ p,
    (proxy sampleProxy).runFrom .initial [.connection 0, .connection 1, .refused 1 .failed] = some p ∧
    p.unheard = [.client 1] :=
  ⟨_, rfl, rfl⟩

end Fireball.Supervisor
