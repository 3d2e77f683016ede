import Fireball.Supervisor.Reservation

/-!
# What a lease forwards

The proxy is watched by a variable that notes every frame a lease hears.

* `carried_listen`: what one event adds to the frames heard and to those sent on;
* `step_carriedWf`: an event of the proxy keeps every lease's part;
* `single_controller_relay`: one open lease, and the forwarding laws of each.
-/

namespace Fireball.Supervisor

open Foundation

/-! ## The frames that are heard -/

/-- The end of the relay that a frame comes from. -/
inductive Side
  | client | upstream
  deriving DecidableEq, Repr

/-- A frame that reached the lease of a connection, and the phase that it met. -/
structure Heard where
  connection : Nat
  side : Side
  phase : LeasePhase
  frame : Frame
  deriving DecidableEq, Repr

/-- The frames so far, oldest first. -/
abbrev Traffic := List Heard

def Traffic.of (heard : Traffic) (c : Nat) (side : Side) : Traffic :=
  heard.filter fun h => h.connection = c && h.side = side

/-- The frames that met a relaying lease. -/
def Traffic.relaying (heard : Traffic) : List Frame :=
  (heard.filter fun h => h.phase = .relaying).map (·.frame)

/-- The frame of an event, as one from `side`. -/
def LeaseEvent.frames (side : Side) : LeaseEvent → List Frame
  | .clientFrame frame _ => if side = .client then [frame] else []
  | .upstreamFrame frame _ => if side = .upstream then [frame] else []
  | _ => []

def hear (p : Proxy) (e : ProxyEvent) (_ : Proxy) (heard : Traffic) : Traffic :=
  match e with
  | .lease c event => match p.peers.get c with
    | some (.leased l) =>
      heard ++ (event.frames .client).map (⟨c, .client, l.phase, ·⟩) ++
        (event.frames .upstream).map (⟨c, .upstream, l.phase, ·⟩)
    | _ => heard
  | _ => heard

/-! ## The frames that are sent on -/

def Lease.sentUpstream (l : Lease) : List Frame :=
  l.log.reverse.filterMap fun
    | .toUpstream frame => some frame
    | _ => none

def Lease.sentClient (l : Lease) : List ControllerMessage :=
  l.log.reverse.filterMap fun
    | .toClient message => some message
    | _ => none

/-- Whatever is sent on was heard while relaying, in that order and from the first
such frame on. The frame that authenticated the client is not part of it. -/
structure Relays (cfg : ProxyConfig) (heard : Traffic) (c : Nat) (l : Lease) : Prop where
  opened : l.upstream.isSome = true → ∃ first later, heard.of c .client = first :: later ∧
    first.phase = .authenticating ∧ parseAuthenticationFrame cfg first.frame = true
  toUpstream : l.sentUpstream <+: Traffic.relaying (heard.of c .client).tail
  toClient : l.sentClient = [] ∨ ∃ frames, frames <+: (heard.of c .upstream).relaying ∧
    l.sentClient = .authenticated :: frames.map .relayed

/-- The lease of a connection other than the holder's is closed. -/
def OneLease (p : Proxy) : Prop :=
  ∀ c l, p.peers.get c = some (.leased l) → l.phase ≠ .closed → p.activeLease = some c

def BeforeClose (_ : Proxy) (e : ProxyEvent) : Prop := e ≠ .close

instance (p : Proxy) (e : ProxyEvent) : Decidable (BeforeClose p e) := by
  unfold BeforeClose
  infer_instance

/-! ## One lease -/

/-- What a lease has heard and sent on, phase by phase. -/
structure Carried (cfg : ProxyConfig) (heard : Traffic) (c : Nat) (l : Lease) : Prop where
  relays : Relays cfg heard c l
  waiting : l.phase = .authenticating → heard.of c .client = [] ∧ l.upstream.isSome = false
  quiet : l.phase = .authenticating ∨ l.phase = .connecting →
    l.sentUpstream = [] ∧ l.sentClient = [] ∧
      Traffic.relaying (heard.of c .client).tail = [] ∧ (heard.of c .upstream).relaying = []
  dialled : l.phase = .connecting ∨ l.phase = .relaying → l.upstream.isSome = true
  flowing : l.phase = .relaying →
    l.sentUpstream = Traffic.relaying (heard.of c .client).tail ∧
      l.sentClient = .authenticated :: (heard.of c .upstream).relaying.map .relayed

section
variable {cfg : ProxyConfig} {l l' : Lease} {heard heard' : Traffic} {c : Nat} {e : LeaseEvent}

@[simp] theorem relaying_nil : Traffic.relaying [] = [] := rfl

@[simp] theorem relaying_append (a b : Traffic) :
    Traffic.relaying (a ++ b) = a.relaying ++ b.relaying := by
  simp [Traffic.relaying]

theorem carried_initial (fresh : ∀ side, heard.of c side = []) : Carried cfg heard c .initial where
  relays := ⟨(fun dialled => nomatch dialled), ⟨_, List.nil_append _⟩, .inl rfl⟩
  waiting := fun _ => ⟨fresh .client, rfl⟩
  quiet := fun _ => ⟨rfl, rfl, by simp [fresh], by simp [fresh]⟩
  dialled := by rintro (phase | phase) <;> cases phase
  flowing := by intro phase; cases phase

/-- Actions that send nothing on. -/
theorem sent_silent {new : List LeaseAction} (silent : ∀ action ∈ new, action.sends = false)
    (log : l'.log = new ++ l.log) : l'.sentUpstream = l.sentUpstream ∧ l'.sentClient = l.sentClient := by
  unfold Lease.sentUpstream Lease.sentClient
  rw [log, List.reverse_append, List.filterMap_append, List.filterMap_append]
  constructor
  · refine (List.append_right_eq_self.mpr (List.filterMap_eq_nil_iff.mpr fun action mem => ?_))
    cases action <;> first | rfl | exact nomatch silent _ (List.mem_reverse.mp mem)
  · refine (List.append_right_eq_self.mpr (List.filterMap_eq_nil_iff.mpr fun action mem => ?_))
    cases action <;> first | rfl | exact nomatch silent _ (List.mem_reverse.mp mem)

theorem sent_upstream {frame : Frame} {before : List LeaseAction}
    (silent : ∀ action ∈ before, action.sends = false)
    (log : l'.log = .toUpstream frame :: (before ++ l.log)) :
    l'.sentUpstream = l.sentUpstream ++ [frame] ∧ l'.sentClient = l.sentClient := by
  let waiting : Lease := { l with log := before ++ l.log }
  have quiet : waiting.sentUpstream = l.sentUpstream ∧ waiting.sentClient = l.sentClient :=
    sent_silent silent rfl
  obtain ⟨upstream, client⟩ := quiet
  rw [← upstream, ← client]
  simp [Lease.sentUpstream, Lease.sentClient, log, waiting]

theorem sent_client {message : ControllerMessage} (log : l'.log = .toClient message :: l.log) :
    l'.sentUpstream = l.sentUpstream ∧ l'.sentClient = l.sentClient ++ [message] := by
  simp [Lease.sentUpstream, Lease.sentClient, log]

theorem heard_silent (e : LeaseEvent) : ∀ action ∈ e.heard, action.sends = false := by
  intro action mem
  cases e with
  | clientFrame frame bufferedAmount =>
    cases List.mem_singleton.mp mem
    rfl
  | _ => cases mem

theorem sent_shut {new : List LeaseAction} (silent : ∀ action ∈ new, action.sends = false)
    (log : l'.log = new ++ (e.heard ++ l.log)) :
    l'.sentUpstream = l.sentUpstream ∧ l'.sentClient = l.sentClient := by
  have quiet : ∀ action ∈ new ++ e.heard, action.sends = false := by
    intro action mem
    exact (List.mem_append.mp mem).elim (silent action) (heard_silent e action)
  exact sent_silent quiet (log.trans (List.append_assoc ..).symm)

theorem frames_client_nil (quiet : e.heard = []) : e.frames .client = [] := by
  cases e with
  | clientFrame frame bufferedAmount => cases quiet
  | _ => rfl

theorem frames_upstream_nil (quiet : e.isUpstreamFrame ≠ true) : e.frames .upstream = [] := by
  cases e with
  | upstreamFrame frame bufferedAmount => exact absurd rfl quiet
  | _ => rfl

/-- What an event adds to the frames that a relaying lease hears. -/
def LeaseEvent.flow (e : LeaseEvent) (side : Side) (phase : LeasePhase) : List Frame :=
  if phase = .relaying then e.frames side else []

theorem relaying_met (frames : List Frame) (side : Side) (phase : LeasePhase) :
    Traffic.relaying (frames.map (⟨c, side, phase, ·⟩)) =
      if phase = .relaying then frames else [] := by
  unfold Traffic.relaying
  split
  · rename_i relaying
    simp [relaying, List.filter_map, Function.comp_def]
  · rename_i other
    simp [other, List.filter_map, Function.comp_def]

/-- The frames of one event are noted. -/
structure Notes (l : Lease) (e : LeaseEvent) (heard heard' : Traffic) (c : Nat) : Prop where
  client : heard'.of c .client =
    heard.of c .client ++ (e.frames .client).map (⟨c, .client, l.phase, ·⟩)
  upstream : heard'.of c .upstream =
    heard.of c .upstream ++ (e.frames .upstream).map (⟨c, .upstream, l.phase, ·⟩)

theorem Notes.flow_upstream (notes : Notes l e heard heard' c) :
    (heard'.of c .upstream).relaying = (heard.of c .upstream).relaying ++ e.flow .upstream l.phase := by
  rw [notes.upstream, relaying_append, relaying_met]
  rfl

theorem Notes.flow_client (notes : Notes l e heard heard' c) (carried : Carried cfg heard c l) :
    Traffic.relaying (heard'.of c .client).tail =
      Traffic.relaying (heard.of c .client).tail ++ e.flow .client l.phase := by
  rw [notes.client]
  unfold LeaseEvent.flow
  by_cases relaying : l.phase = .relaying
  · obtain ⟨first, later, eq, -⟩ := carried.relays.opened (carried.dialled (.inr relaying))
    rw [eq, List.cons_append, List.tail_cons, List.tail_cons, relaying_append, relaying_met]
  · rw [if_neg relaying, List.append_nil]
    cases heard.of c .client with
    | nil =>
      rw [List.nil_append, ← List.map_tail, relaying_met, if_neg relaying]
      rfl
    | cons first later =>
      rw [List.cons_append, List.tail_cons, List.tail_cons, relaying_append, relaying_met,
        if_neg relaying, List.append_nil]

/-- The client's first frame stays what it was. -/
theorem Notes.opened (notes : Notes l e heard heard' c) (carried : Carried cfg heard c l)
    (dialled : l.upstream.isSome = true) : ∃ first later, heard'.of c .client = first :: later ∧
      first.phase = .authenticating ∧ parseAuthenticationFrame cfg first.frame = true := by
  obtain ⟨first, later, eq, waiting, accepted⟩ := carried.relays.opened dialled
  rw [notes.client, eq]
  exact ⟨first, _, List.cons_append .., waiting, accepted⟩

/-- A lease that sends nothing on at an event, and is not opened by it. -/
theorem Notes.relays (notes : Notes l e heard heard' c) (carried : Carried cfg heard c l)
    (upstream : l'.upstream.isSome = l.upstream.isSome)
    (sent : l'.sentUpstream = l.sentUpstream ∧ l'.sentClient = l.sentClient) :
    Relays cfg heard' c l' where
  opened := fun dialled => notes.opened carried (upstream ▸ dialled)
  toUpstream := by
    rw [sent.1, notes.flow_client carried]
    exact carried.relays.toUpstream.trans (List.prefix_append ..)
  toClient := by
    rw [sent.2, notes.flow_upstream]
    refine carried.relays.toClient.imp_right ?_
    rintro ⟨frames, before, eq⟩
    exact ⟨frames, before.trans (List.prefix_append ..), eq⟩

/-- A relaying lease that has sent on all it heard. -/
theorem carried_flowing (phase : l.phase = .relaying) (dialled : l.upstream.isSome = true)
    (opened : ∃ first later, heard.of c .client = first :: later ∧
      first.phase = .authenticating ∧ parseAuthenticationFrame cfg first.frame = true)
    (toUpstream : l.sentUpstream = Traffic.relaying (heard.of c .client).tail)
    (toClient : l.sentClient = .authenticated :: (heard.of c .upstream).relaying.map .relayed) :
    Carried cfg heard c l where
  relays := ⟨fun _ => opened, toUpstream ▸ List.prefix_rfl, .inr ⟨_, List.prefix_rfl, toClient⟩⟩
  waiting := fun waiting => nomatch phase.symm.trans waiting
  quiet := by rintro (other | other) <;> cases phase.symm.trans other
  dialled := fun _ => dialled
  flowing := fun _ => ⟨toUpstream, toClient⟩

/-- A closed lease that has sent on part of what it heard. -/
theorem carried_closed (closed : l.phase = .closed) (relays : Relays cfg heard c l) :
    Carried cfg heard c l where
  relays := relays
  waiting := fun waiting => nomatch closed.symm.trans waiting
  quiet := by rintro (other | other) <;> cases closed.symm.trans other
  dialled := by rintro (other | other) <;> cases closed.symm.trans other
  flowing := fun relaying => nomatch closed.symm.trans relaying

/-- An event that changes neither the phase nor what was sent. -/
theorem Notes.kept (notes : Notes l e heard heard' c) (carried : Carried cfg heard c l)
    (same : l'.phase = l.phase) (upstream : l'.upstream.isSome = l.upstream.isSome)
    (late : e.heard ≠ [] → l.phase = .closed ∨ l.phase = .relaying ∧ l.upstream = none)
    (early : e.isUpstreamFrame = true → l.phase ≠ .relaying)
    (sent : l'.sentUpstream = l.sentUpstream ∧ l'.sentClient = l.sentClient) :
    Carried cfg heard' c l' := by
  have relays := notes.relays carried upstream sent
  have clientFlow := notes.flow_client carried
  have upstreamFlow := notes.flow_upstream
  have silent : l.phase ≠ .closed → e.heard = [] := by
    intro live
    by_contra heard
    rcases late heard with closed | ⟨relaying, none⟩
    · exact live closed
    · exact nomatch none ▸ carried.dialled (.inr relaying)
  cases phase : l.phase with
  | closed => exact carried_closed (same.trans phase) relays
  | relaying =>
    have dialled := carried.dialled (.inr phase)
    obtain ⟨toUpstream, toClient⟩ := carried.flowing phase
    have frames : e.frames .client = [] := frames_client_nil (silent (by simp [phase]))
    have frames' : e.frames .upstream = [] := frames_upstream_nil fun some => early some phase
    rw [LeaseEvent.flow, frames, ite_self, List.append_nil] at clientFlow
    rw [LeaseEvent.flow, frames', ite_self, List.append_nil] at upstreamFlow
    refine carried_flowing (same.trans phase) (upstream.trans dialled) (notes.opened carried dialled)
      ?_ ?_
    · rw [sent.1, clientFlow, toUpstream]
    · rw [sent.2, upstreamFlow, toClient]
  | authenticating | connecting =>
    have before : l.phase = .authenticating ∨ l.phase = .connecting := by simp [phase]
    have met : ∀ side, e.flow side l.phase = [] := by simp [LeaseEvent.flow, phase]
    rw [met, List.append_nil] at clientFlow upstreamFlow
    obtain ⟨toUpstream, toClient, client, upstream'⟩ := carried.quiet before
    refine ⟨relays, fun waiting => ?_, fun _ => ?_, fun dialled => ?_, fun relaying => ?_⟩
    · obtain ⟨unheard, none⟩ := carried.waiting (same.symm.trans waiting)
      rw [notes.client, unheard, frames_client_nil (silent (by simp [phase]))]
      exact ⟨rfl, upstream.trans none⟩
    · exact ⟨sent.1.trans toUpstream, sent.2.trans toClient, clientFlow.trans client,
        upstreamFlow.trans upstream'⟩
    · rw [same] at dialled
      exact upstream.trans (carried.dialled dialled)
    · cases phase.symm.trans (same.symm.trans relaying)

/-- **One event** of a lease and the frames it has sent on. -/
theorem carried_listen (carried : Carried cfg heard c l) (notes : Notes l e heard heard' c)
    (h : l.listen cfg e = some l') : Carried cfg heard' c l' := by
  have clientFlow := notes.flow_client carried
  have upstreamFlow := notes.flow_upstream
  cases listen_carries h with
  | @opened frame bufferedAmount hears waiting accepted phase dialled log =>
    subst hears
    obtain ⟨unheard, -⟩ := carried.waiting waiting
    obtain ⟨toUpstream, toClient, client, upstream⟩ := carried.quiet (.inl waiting)
    obtain ⟨sentUpstream, sentClient⟩ :=
      sent_silent (heard_silent (.clientFrame frame bufferedAmount)) log
    have met : ∀ side, LeaseEvent.flow (.clientFrame frame bufferedAmount) side l.phase = [] := by
      simp [LeaseEvent.flow, waiting]
    rw [met, List.append_nil] at clientFlow upstreamFlow
    refine ⟨⟨fun _ => ?_, ?_, .inl (sentClient.trans toClient)⟩, fun waiting' => ?_, fun _ => ?_,
      fun _ => dialled, fun relaying => ?_⟩
    · rw [notes.client, unheard]
      exact ⟨_, [], rfl, waiting, accepted⟩
    · rw [sentUpstream, toUpstream]
      exact List.nil_prefix
    · cases phase.symm.trans waiting'
    · exact ⟨sentUpstream.trans toUpstream, sentClient.trans toClient, clientFlow.trans client,
        upstreamFlow.trans upstream⟩
    · cases phase.symm.trans relaying
  | announced opens connecting phase upstream log =>
    obtain ⟨toUpstream, toClient, client, upstream'⟩ := carried.quiet (.inr connecting)
    obtain ⟨sentUpstream, sentClient⟩ := sent_client log
    have dialled := carried.dialled (.inl connecting)
    have met : ∀ side, e.flow side l.phase = [] := by simp [LeaseEvent.flow, connecting]
    rw [met, List.append_nil] at clientFlow upstreamFlow
    refine carried_flowing phase (upstream.trans dialled) (notes.opened carried dialled) ?_ ?_
    · rw [sentUpstream, toUpstream, clientFlow, client]
    · rw [sentClient, toClient, upstreamFlow, upstream']
      rfl
  | @forwarded frame bufferedAmount hears relaying phase upstream log =>
    subst hears
    obtain ⟨toUpstream, toClient⟩ := carried.flowing relaying
    obtain ⟨sentUpstream, sentClient⟩ :=
      sent_upstream (heard_silent (.clientFrame frame bufferedAmount)) log
    have dialled := carried.dialled (.inr relaying)
    refine carried_flowing phase (upstream.trans dialled) (notes.opened carried dialled) ?_ ?_
    · rw [sentUpstream, toUpstream, clientFlow, relaying]
      rfl
    · rw [sentClient, toClient, upstreamFlow]
      simp [LeaseEvent.flow, LeaseEvent.frames]
  | @relayed frame bufferedAmount hears relaying phase upstream log =>
    subst hears
    obtain ⟨toUpstream, toClient⟩ := carried.flowing relaying
    obtain ⟨sentUpstream, sentClient⟩ := sent_client log
    have dialled := carried.dialled (.inr relaying)
    refine carried_flowing phase (upstream.trans dialled) (notes.opened carried dialled) ?_ ?_
    · rw [sentUpstream, toUpstream, clientFlow]
      simp [LeaseEvent.flow, LeaseEvent.frames]
    · rw [sentClient, toClient, upstreamFlow, relaying]
      simp [LeaseEvent.flow, LeaseEvent.frames]
  | shut closed upstream silent log =>
    exact carried_closed closed (notes.relays carried upstream (sent_shut silent log))
  | kept same upstream late early log =>
    exact notes.kept carried same upstream late early (sent_silent (heard_silent e) log)

/-- A closed lease sends nothing on. -/
theorem listen_frozen (closed : l.phase = .closed) (h : l.listen cfg e = some l') :
    l'.phase = .closed ∧ l'.sentUpstream = l.sentUpstream ∧ l'.sentClient = l.sentClient := by
  refine ⟨listen_closed h closed, ?_⟩
  cases listen_carries h with
  | opened _ other | announced _ other | forwarded _ other | relayed _ other =>
    cases closed.symm.trans other
  | shut _ _ silent log =>
    exact sent_shut silent log
  | kept _ _ _ _ log => exact sent_silent (heard_silent e) log

end

/-! ## The proxy -/

/-- What the proxy keeps of every connection. -/
structure CarriedWf (cfg : ProxyConfig) (p : Proxy) (heard : Traffic) : Prop where
  carried : ∀ c l, p.peers.get c = some (.leased l) → Carried cfg heard c l
  unknown : ∀ c, p.peers.get c = none → ∀ side, heard.of c side = []

theorem carriedWf_initial (cfg : ProxyConfig) : CarriedWf cfg .initial [] where
  carried := by intro c l h; simp [Proxy.initial] at h
  unknown := fun _ _ _ => rfl

/-- What it keeps until it is closed. -/
structure RelayWf (cfg : ProxyConfig) (p : Proxy) (heard : Traffic) : Prop extends CarriedWf cfg p heard where
  holder : HolderWf cfg p
  one : OneLease p

theorem relayWf_initial (cfg : ProxyConfig) : RelayWf cfg .initial [] where
  toCarriedWf := carriedWf_initial cfg
  holder := holderWf_initial cfg
  one := by intro c l h; simp [Proxy.initial] at h

section
variable {cfg : ProxyConfig} {p p' : Proxy} {heard : Traffic}

theorem of_append (a b : Traffic) (c : Nat) (side : Side) :
    Traffic.of (a ++ b) c side = a.of c side ++ b.of c side := List.filter_append ..

theorem of_met (frames : List Frame) (c c₁ : Nat) (side side₁ : Side) (phase : LeasePhase) :
    Traffic.of (frames.map (⟨c, side, phase, ·⟩)) c₁ side₁ =
      if c = c₁ ∧ side = side₁ then frames.map (⟨c, side, phase, ·⟩) else [] := by
  unfold Traffic.of
  split
  · rename_i same
    exact List.filter_eq_self.mpr (by simp [same])
  · rename_i other
    refine List.filter_eq_nil_iff.mpr ?_
    simpa using fun _ _ => other

theorem hear_self {c : Nat} {l : Lease} {e : LeaseEvent} (hc : p.peers.get c = some (.leased l)) :
    Notes l e heard (hear p (.lease c e) p' heard) c := by
  constructor <;> simp [hear, hc, of_append, of_met]

theorem hear_other {c c₁ : Nat} {e : LeaseEvent} (other : c ≠ c₁) (side : Side) :
    (hear p (.lease c e) p' heard).of c₁ side = heard.of c₁ side := by
  unfold hear
  simp only
  split
  · simp [of_append, of_met, other]
  · rfl

/-- **One event** and the open lease. -/
theorem step_oneLease {e : ProxyEvent} (one : OneLease p) (before : BeforeClose p e)
    (h : proxyStep cfg p e = some p') : OneLease p' := by
  cases e with
  | connection c =>
    simp only [proxyStep] at h
    split at h
    · cases h
      unfold Proxy.connection
      cases ha : p.activeLease with
      | some holder =>
        intro c₁ l₁ h₁ open_
        simp only [JsMap.get_set] at h₁
        split at h₁
        · cases h₁
        · exact ha.symm.trans (one c₁ l₁ h₁ open_)
      | none =>
        intro c₁ l₁ h₁ open_
        simp only [JsMap.get_set] at h₁
        split at h₁
        · rename_i same
          rw [same]
        · cases ha.symm.trans (one c₁ l₁ h₁ open_)
    · cases h
  | lease c event =>
    simp only [proxyStep] at h
    split at h
    · rename_i l hc
      obtain ⟨l', hl, rfl⟩ := Option.map_eq_some_iff.mp h
      intro c₁ l₁ h₁ open_
      rw [note_peers] at h₁
      rw [note_activeLease]
      simp only [Proxy.run, JsMap.get_set] at h₁ ⊢
      split at h₁
      · rename_i same
        subst same
        cases h₁
        have before : l.phase ≠ .closed := fun closed => open_ (listen_closed hl closed)
        rw [if_neg fun shut => open_ shut.2.1]
        exact one c l hc before
      · rename_i other
        have held := one c₁ l₁ h₁ open_
        rw [if_neg fun shut => other (Option.some.inj (shut.2.2.symm.trans held))]
        exact held
    · cases h
  | refused c event =>
    simp only [proxyStep] at h
    split at h
    · cases event with
      | failed =>
        simp only at h
        split at h
        · cases h
        · cases h
          intro c₁ l₁ h₁ open_
          rw [note_peers] at h₁
          rw [note_activeLease]
          exact one c₁ l₁ h₁ open_
      | state state =>
        simp only at h
        split at h
        · cases h
          intro c₁ l₁ h₁ open_
          simp only [JsMap.get_set] at h₁
          split at h₁
          · cases h₁
          · exact one c₁ l₁ h₁ open_
        · cases h
    · cases h
  | close => exact absurd rfl before

/-- `close` of the proxy leaves a lease with what it has heard and sent on. -/
theorem carried_terminate {c : Nat} {l l' : Lease} {active : Bool} (carried : Carried cfg heard c l)
    (h : Peer.terminate active (.leased l) = .leased l') : Carried cfg heard c l' := by
  cases h
  obtain ⟨relays, waiting, quiet, dialled, flowing⟩ := carried
  have upstream : (if active then l.upstream.map fun u => { u with socket := terminateSocket u.socket }
      else l.upstream).isSome = l.upstream.isSome := by
    split
    · exact Option.isSome_map
    · rfl
  refine ⟨⟨fun there => relays.opened (upstream ▸ there), relays.toUpstream, relays.toClient⟩, fun phase => ?_,
    quiet, fun phase => upstream.trans (dialled phase), flowing⟩
  exact ⟨(waiting phase).1, upstream.trans (waiting phase).2⟩

/-- **One event**, of whatever kind, and what every connection has been sent on. -/
theorem step_carriedWf {e : ProxyEvent} (wf : CarriedWf cfg p heard) (h : proxyStep cfg p e = some p') :
    CarriedWf cfg p' (hear p e p' heard) := by
  have unnamed : ∀ c, (∀ event, e ≠ .lease c event) → ∀ side,
      (hear p e p' heard).of c side = heard.of c side := by
    intro c other side
    cases e with
    | lease c₁ event => exact hear_other (fun same => other event (by rw [same])) side
    | _ => rfl
  constructor
  · intro c l' hl
    have step := peer_step h c
    have carried := wf.carried c
    have fresh := wf.unknown c
    rw [hl] at step
    generalize met : p.peers.get c = found at step carried fresh
    cases step with
    | kept _ other =>
      obtain ⟨relays, waiting, quiet, dialled, flowing⟩ := carried l' rfl
      have same := unnamed c other
      exact ⟨⟨by rw [same]; exact relays.opened, by rw [same]; exact relays.toUpstream,
        by rw [same]; exact relays.toClient⟩, by rw [same]; exact waiting,
        by rw [same, same]; exact quiet, dialled, by rw [same, same]; exact flowing⟩
    | accepted named _ =>
      refine carried_initial fun side => ?_
      rw [unnamed c (by simp [named]) side]
      exact fresh rfl side
    | listened named listened =>
      subst named
      exact carried_listen (carried _ rfl) (hear_self met) listened
    | terminated closing after =>
      obtain ⟨peer, rfl, terminated⟩ := Option.map_eq_some_iff.mp after.symm
      cases peer with
      | refused client => cases terminated
      | leased l =>
        have same : hear p e p' heard = heard := by rw [closing]; rfl
        rw [same]
        exact carried_terminate (carried l rfl) terminated
  · intro c unknown side
    have fresh := peer_known h unknown
    refine (unnamed c ?_ side).trans (wf.unknown c fresh side)
    rintro event rfl
    simp [proxyStep, fresh] at h

theorem step_carried {e : ProxyEvent} (wf : RelayWf cfg p heard) (before : BeforeClose p e)
    (h : proxyStep cfg p e = some p') : RelayWf cfg p' (hear p e p' heard) :=
  ⟨step_carriedWf wf.toCarriedWf h, (step_holder wf.holder h).1, step_oneLease wf.one before h⟩

/-- The lease of a connection is closed, and has sent on no more than `l`. -/
def Frozen (c : Nat) (l : Lease) (p : Proxy) : Prop :=
  ∃ l', p.peers.get c = some (.leased l') ∧ l'.phase = .closed ∧
    l'.sentUpstream = l.sentUpstream ∧ l'.sentClient = l.sentClient

theorem step_frozen {e : ProxyEvent} {c : Nat} {l : Lease} (frozen : Frozen c l p)
    (before : BeforeClose p e) (h : proxyStep cfg p e = some p') : Frozen c l p' := by
  obtain ⟨l₁, found, closed, sent⟩ := frozen
  have step := peer_step h c
  rw [found] at step
  generalize after : p'.peers.get c = next at step
  cases step with
  | kept => exact ⟨l₁, after, closed, sent⟩
  | listened _ listened =>
    obtain ⟨closed', upstream, client⟩ := listen_frozen closed listened
    exact ⟨_, after, closed', upstream.trans sent.1, client.trans sent.2⟩
  | terminated closing => exact absurd closing before

end

/-! ## Every run -/

/-- The proxy and the frames that it has heard. -/
def hearing (cfg : ProxyConfig) : Machine (Proxy × Traffic) ProxyEvent := (proxy cfg).watched [] hear

/-- **One controller, one relay.** Until the proxy is closed, at most one lease is
open, and it is the active one; each lease sends on, in either direction, just the
beginning of what it hears while relaying; and a closed one never sends again. -/
theorem single_controller_relay (cfg : ProxyConfig) {p : Proxy} {heard : Traffic}
    (reached : (hearing cfg).Reachable (Machine.unwatched BeforeClose) (p, heard)) :
    OneLease p ∧ (∀ c l, p.peers.get c = some (.leased l) → Relays cfg heard c l) ∧
    ∀ c l, p.peers.get c = some (.leased l) → l.phase = .closed →
      ∀ q, (proxy cfg).Reaches BeforeClose p q → Frozen c l q := by
  have wf : RelayWf cfg p heard := by
    refine Machine.Reachable.invariant (I := fun s => RelayWf cfg s.1 s.2) reached
      (relayWf_initial cfg) ?_
    intro s e t _ wf allowed h
    obtain ⟨stepped, noted⟩ := Machine.watched_step.mp h
    rw [noted]
    exact step_carried wf allowed stepped
  refine ⟨wf.one, fun c l hl => (wf.carried c l hl).relays, ?_⟩
  intro c l hl closed q later
  exact later.invariant ⟨l, hl, closed, rfl, rfl⟩ fun _ _ _ _ frozen before h =>
    step_frozen frozen before h

/-! ## A relayed exchange -/

def offer : Frame := ⟨[1, 2], true⟩

def answer : Frame := ⟨[3], false⟩

/-- One frame in each direction, a refused second client, and a frame after the end. -/
def exchanged : List ProxyEvent :=
  [.connection 0, .lease 0 (.clientFrame bootstrapFrame 0), .lease 0 .upstreamOpened,
    .connection 1, .lease 0 (.clientFrame offer 0), .lease 0 (.upstreamFrame answer 0),
    .lease 0 .upstreamClosed, .lease 0 (.clientFrame answer 0)]

theorem single_controller_relay_exchanged : ∃ p heard,
    (hearing sampleProxy).Reachable (Machine.unwatched BeforeClose) (p, heard) ∧
    (∃ l, p.peers.get 0 = some (.leased l) ∧ l.phase = .closed ∧ l.sentUpstream = [offer] ∧
      l.sentClient = [.authenticated, .relayed answer]) ∧
    OneLease p ∧ ∀ l, p.peers.get 0 = some (.leased l) → Relays sampleProxy heard 0 l := by
  have runs : ((hearing sampleProxy).runFrom (hearing sampleProxy).init exchanged).isSome = true := by
    decide
  have reached : (hearing sampleProxy).Reachable (Machine.unwatched BeforeClose) _ :=
    Machine.reaches_end (by decide) runs
  refine ⟨_, _, reached, ⟨_, rfl, by decide, by decide, by decide⟩,
    (single_controller_relay sampleProxy reached).1, (single_controller_relay sampleProxy reached).2.1 0⟩

end Fireball.Supervisor
