import Fireball.Foundation.Ascii
import Fireball.Signaling.Ends

/-!
# The handshake of the internal connection

* `handshake_understood`: with the right secret neither end turns a frame down;
* `handshake_refused`: with any other one nothing comes of the connection;
* `handshake_completes`: it is never stuck.
-/

namespace Fireball.Signaling

open Foundation Session
open Supervisor (Proxy ProxyConfig ProxyEvent ControllerMessage Peer Lease LeaseEvent)

section
variable {cfg : ConnectorConfig} {session : ProxyConfig} {s : Link} {c : Nat} {d : Dial}

/-- The proxy takes the frame exactly when the secrets are equal. -/
theorem accepted_iff (reads : ReadsFrames cfg session) (credential : isCredential d.secret = true) :
    Accepted session d ↔ d.secret = session.secret := by
  have parsed := reads.authentication d.secret credential
  have keys : Json.sortedKeys [("type", .string "authenticate"), ("secret", .string d.secret)] =
      "secret,type" := by
    show ",".intercalate (List.insertionSort (· ≤ ·) ["type", "secret"]) = _
    decide
  unfold Accepted Supervisor.parseAuthenticationFrame
  have text : (openingFrame d.secret).isBinary = false := rfl
  simp [parsed, keys, text, Json.field, lookupEntry]

theorem authenticated_reads (reads : ReadsFrames cfg session) :
    isAuthenticatedFrame cfg (messageFrame .authenticated).data = true := by
  unfold isAuthenticatedFrame
  rw [reads.authenticated]
  decide

/-- The frames that the gateway got, and that the lease sent, as far as it did. -/
theorem answered (ends : Ends cfg session d (s.proxy.peers.get c)) {frame : Frame} {rest : List Frame}
    (heard : d.toGateway.received = frame :: rest) : frame = messageFrame .authenticated ∧
      ∃ l relayed, s.proxy.peers.get c = some (.leased l) ∧
        l.sentClient = .authenticated :: relayed.map .relayed ∧ rest <+: relayed := by
  have whole := Channel.received_isPrefix d.toGateway
  rw [heard] at whole
  have side := ends.session
  cases hp : s.proxy.peers.get c with
  | none =>
    rw [hp] at side
    rw [side.2] at whole
    simp at whole
  | some peer =>
    rw [hp] at side
    cases peer with
    | refused client =>
      rw [side.2] at whole
      simp at whole
    | leased l =>
      have leased : Leased session d l := side
      rcases leased.gateway with none | sent
      · rw [none] at whole
        simp at whole
      · rcases leased.announced with none | ⟨relayed, told⟩
        · rw [sent, none] at whole
          simp at whole
        · rw [sent, told, List.map_cons, List.map_map] at whole
          obtain ⟨first, later⟩ := List.cons_prefix_cons.mp whole
          refine ⟨first, l, relayed, rfl, told, ?_⟩
          have same : relayed.map (messageFrame ∘ ControllerMessage.relayed) = relayed := by
            simp [Function.comp_def, messageFrame]
          rwa [same] at later

/-- **The handshake.** Where the gateway knows the session's secret, the proxy blames no
frame of it, in whatever order events come; and the first frame that `connect` gets is one
on which it resolves. -/
theorem handshake_understood (reads : ReadsFrames cfg session)
    (reached : (link cfg session).Reachable (fun _ _ => True) s) (dialled : s.dials.get c = some d)
    (secret : d.secret = session.secret) :
    (∀ l, s.proxy.peers.get c = some (.leased l) → ∀ code reason, .closed code reason ∈ l.log →
      reason ≠ "authentication failed" ∧ reason ≠ "wait for relay readiness") ∧
    ∀ newer frame older, d.connect.events = newer ++ .message frame :: older →
      verdict cfg older = .undecided → verdict cfg (.message frame :: older) = .resolved := by
  have ends := link_wf reached c d dialled
  constructor
  · intro l leased code reason closed
    have side := ends.session
    rw [leased] at side
    have clean := Leased.clean side ((accepted_iff reads ends.gateway.credential).mpr secret)
      code reason closed
    simpa [Supervisor.blames] using clean
  · intro newer frame older events undecided
    have heard := ends.gateway.heard
    rw [events, List.reverse_append, List.reverse_cons, List.append_assoc] at heard
    have first : d.toGateway.received = frame :: received newer.reverse := by
      rw [← heard]
      show List.filterMap _ _ = _
      rw [List.filterMap_append, List.filterMap_append]
      have silent : received older.reverse = [] := undecided_silent undecided
      rw [received] at silent
      rw [silent]
      rfl
    obtain ⟨rfl, -⟩ := answered ends first
    have good := authenticated_reads reads
    simp only [verdict, undecided, ConnectEvent.decides, good]
    rfl

/-- With any other secret nothing comes of the connection: `connect` does not resolve, the
upstream gets no frame, and the client none either. -/
theorem handshake_refused (reads : ReadsFrames cfg session)
    (reached : (link cfg session).Reachable (fun _ _ => True) s) (dialled : s.dials.get c = some d)
    (secret : d.secret ≠ session.secret) :
    d.connect.authenticated = false ∧ d.toGateway.sent = [] ∧
    ∀ l, s.proxy.peers.get c = some (.leased l) →
      (l.phase = .authenticating ∨ l.phase = .closed) ∧ l.sentUpstream = [] ∧ l.sentClient = [] := by
  have ends := link_wf reached c d dialled
  have turned : ¬ Accepted session d := fun accepted =>
    secret ((accepted_iff reads ends.gateway.credential).mp accepted)
  have silent : ∀ l, s.proxy.peers.get c = some (.leased l) → l.sentUpstream = [] ∧ l.sentClient = [] := by
    intro l leased
    have side := ends.session
    rw [leased] at side
    constructor
    · by_contra more
      exact turned (Leased.accepted side (.inl more)).1
    · by_contra more
      exact turned (Leased.accepted side (.inr more)).1
  refine ⟨?_, ?_, ?_⟩
  · by_contra authenticated
    obtain ⟨l, -, -, accepted, -⟩ := resolved_served ends (by simpa using authenticated)
    exact turned accepted
  · have side := ends.session
    cases hp : s.proxy.peers.get c with
    | none =>
      rw [hp] at side
      exact side.2
    | some peer =>
      rw [hp] at side
      cases peer with
      | refused client => exact side.2
      | leased l =>
        rcases Leased.gateway side with none | sent
        · exact none
        · rw [sent, (silent l hp).2]
          rfl
  · intro l leased
    refine ⟨?_, silent l leased⟩
    have side := ends.session
    rw [leased] at side
    cases hl : l.phase with
    | authenticating => exact .inl rfl
    | closed => exact .inr rfl
    | connecting => exact absurd (Leased.dialled side (.inl hl)).2.1 turned
    | relaying => exact absurd (Leased.dialled side (.inr hl)).2.1 turned

/-! ## No deadlock -/

/-- An event that decides nothing leaves `connect` to wait for its socket, or makes it send. -/
theorem awaiting_react {e : ConnectEvent} {u t : Connect} (fresh : Undecided u)
    (undecided : e.decides cfg = .undecided) (listening : u.socket = .connecting → u.listeners.opened = true)
    (react : u.react cfg e = some t) :
    (t.socket = .connecting → t.listeners.opened = true) ∧ (t.socket = .opened → t.sentFrames ≠ []) := by
  cases e with
  | opened =>
    simp only [Connect.react] at react
    split at react
    · rename_i connecting
      rw [if_pos (listening connecting)] at react
      cases react
      constructor
      · intro other
        cases other
      intro _ none
      have sent := Connect.sentFrames_act (.sent (authenticationText u.secret))
        (s := { u with socket := .opened, listeners := { u.listeners with opened := false }, sending := true })
      have same : Connect.sentFrames _ = [] := none
      exact absurd (sent.symm.trans same) (by simp [ConnectAction.frame?])
    · cases react
  | closing =>
    simp only [Connect.react] at react
    split at react
    · cases react
      constructor <;> (intro other; cases other)
    · cases react
  | activated =>
    simp only [Connect.react, fresh.authenticated] at react
    cases react
  | message frame => exact absurd undecided (message_decides frame)
  | _ => cases undecided

/-- A `connect` that is neither resolved nor rejected has sent its frame, once it could. -/
theorem awaiting {secret : String} {u : Connect}
    (reached : (connector cfg secret).Reachable (fun _ _ => True) u) (pending : u.settled = false) :
    Undecided u ∧ (u.socket = .connecting → u.listeners.opened = true) ∧
      (u.socket = .opened → u.sentFrames ≠ []) := by
  have stands := (reachable_fresh reached).1
  refine ⟨undecided_of_stands stands ((unsettled_iff stands).mp pending), ?_⟩
  refine Machine.Reachable.invariant
    (I := fun u => u.settled = false → (u.socket = .connecting → u.listeners.opened = true) ∧
      (u.socket = .opened → u.sentFrames ≠ []))
    reached (fun _ => ⟨fun _ => rfl, by rintro ⟨⟩⟩) ?_ pending
  intro u e v before ih _ step pending
  have after := (unsettled_iff (reachable_fresh (before.step trivial step)).1).mp pending
  obtain ⟨t, react, rfl⟩ := Option.map_eq_some_iff.mp step
  obtain ⟨earlier, undecided⟩ := undecided_cons (show verdict cfg (e :: u.events) = .undecided from after)
  have fresh := undecided_of_stands (reachable_fresh before).1 earlier
  have waits := awaiting_react fresh undecided (ih fresh.settled).1 react
  exact waits

/-- What is still to come of a handshake that nothing has disturbed. -/
structure Pending (d : Dial) (l : Lease) : Prop where
  waiting : d.connect.settled = false
  socket : d.connect.socket = .opened
  client : l.client = .opened
  open_ : l.phase ≠ .closed
  upstream : ∀ u, l.upstream = some u → l.phase = .connecting →
    u.socket = .connecting ∧ u.openListener = true

variable {t : Link} {l : Lease}

theorem unheard_pending (ends : Ends cfg session d (s.proxy.peers.get c)) (pending : Pending d l) :
    d.toGateway.received = [] := by
  rw [← ends.gateway.heard]
  exact undecided_silent ((unsettled_iff (reachable_fresh ends.gateway.reached).1).mp pending.waiting)

/-- The answer is under way, and `connect` resolves on it. -/
theorem answer_arrives (reads : ReadsFrames cfg session) (wf : LinkWf cfg session s)
    (dialled : s.dials.get c = some d) (leased : s.proxy.peers.get c = some (.leased l))
    (pending : Pending d l) (relaying : l.phase = .relaying) :
    ∃ t d', linkStep cfg session s (.toGateway c) = some t ∧ t.dials.get c = some d' ∧
      d'.connect.authenticated = true := by
  have ends := wf c d dialled
  have fresh := unheard_pending ends pending
  have side := ends.session
  rw [leased] at side
  have sent := Leased.flowing side pending.client
  have more : d.toGateway.received ≠ d.toGateway.sent := by
    rw [fresh, sent]
    intro none
    exact Leased.told side relaying (List.map_eq_nil_iff.mp none.symm)
  obtain ⟨frame, ch, took⟩ := Channel.take?_isSome more
  have taken := Channel.take?_received took
  rw [fresh, List.nil_append] at taken
  have first : frame = messageFrame .authenticated := by
    rcases Leased.announced side with none | ⟨frames, told⟩
    · exact absurd none (Leased.told side relaying)
    · apply Channel.take?_first took fresh
      rw [sent, told, List.map_cons]
  obtain ⟨undecided, -⟩ := awaiting ends.gateway.reached pending.waiting
  have react : Connect.react cfg d.connect (.message frame) = some
      (({ d.connect with authenticated := true, settled := true } : Connect).cleanupHandshake.act .resolved) := by
    have good := authenticated_reads reads
    have text : (messageFrame .authenticated).isBinary = false := rfl
    simp [Connect.react, pending.socket, undecided.message, Connect.onMessage, undecided.authenticated,
      pending.waiting, first, good, text]
  simp only [linkStep, dialled, took, Dial.react, connectStep, react, Option.map_some]
  exact ⟨_, _, rfl, JsMap.get_set_self .., rfl⟩

/-- One event of the lease, and the dial of its connection. -/
theorem lease_listens {event : LeaseEvent} {l' : Lease} (dialled : s.dials.get c = some d)
    (leased : s.proxy.peers.get c = some (.leased l)) (listen : l.listen session event = some l') :
    ∃ t d', s.step session (.lease c event) = some t ∧ t.dials.get c = some d' ∧
      d'.connect = d.connect ∧ d'.secret = d.secret ∧ t.proxy.peers.get c = some (.leased l') := by
  have step : Supervisor.proxyStep session s.proxy (.lease c event) =
      some ((s.proxy.run c l l').note (ProxyEvent.failing (.lease c event)) (l.deaf event)) := by
    simp only [Supervisor.proxyStep, leased, listen, Option.map_some]
  have after : ((s.proxy.run c l l').note (ProxyEvent.failing (.lease c event)) (l.deaf event)).peers.get c =
      some (.leased l') := by
    rw [Supervisor.note_peers]
    exact JsMap.get_set_self ..
  refine ⟨_, heardBy d d.toSession l l', by rw [Link.step, step]; rfl, ?_, heardBy_connect .., heardBy_secret .., after⟩
  rw [JsMap.get_mapValues, dialled, after, leased]
  rfl

theorem announce_arrives (ends : Ends cfg session d (s.proxy.peers.get c)) (dialled : s.dials.get c = some d)
    (leased : s.proxy.peers.get c = some (.leased l)) (pending : Pending d l) (connecting : l.phase = .connecting) :
    ∃ t d' l', linkStep cfg session s (.proxy (.lease c .upstreamOpened)) = some t ∧
      t.dials.get c = some d' ∧ t.proxy.peers.get c = some (.leased l') ∧ Pending d' l' ∧
      l'.phase = .relaying := by
  have side := ends.session
  rw [leased] at side
  obtain ⟨u, hu⟩ := Option.isSome_iff_exists.mp (Leased.dialled side (.inl connecting)).1
  obtain ⟨socket, listener⟩ := pending.upstream u hu connecting
  have listen : l.listen session .upstreamOpened = some
      { l with
        upstream := some { u with socket := .opened, openListener := false }
        phase := .relaying
        log := .toClient .authenticated :: l.log } := by
    simp [Lease.listen, hu, socket, listener, Lease.upstreamOpened, connecting]
  obtain ⟨t, d', step, dialled', connect, -, after⟩ := lease_listens dialled leased listen
  refine ⟨t, d', _, step, dialled', after, ⟨?_, ?_, pending.client, by simp, ?_⟩, rfl⟩
  · rw [connect]
    exact pending.waiting
  · rw [connect]
    exact pending.socket
  · intro u' _ phase
    cases phase

theorem opening_arrives (reads : ReadsFrames cfg session) (ends : Ends cfg session d (s.proxy.peers.get c))
    (secret : d.secret = session.secret) (dialled : s.dials.get c = some d)
    (leased : s.proxy.peers.get c = some (.leased l)) (pending : Pending d l)
    (waiting : l.phase = .authenticating) :
    ∃ t d' l', linkStep cfg session s (.toSession c 0) = some t ∧
      t.dials.get c = some d' ∧ t.proxy.peers.get c = some (.leased l') ∧ Pending d' l' ∧
      l'.phase = .connecting := by
  have side := ends.session
  rw [leased] at side
  have fresh := Leased.waiting side waiting
  have sent := (awaiting ends.gateway.reached pending.waiting).2.2 pending.socket
  obtain ⟨handed, all⟩ : ∃ handed, d.toSession.sent = openingFrame d.secret :: handed := by
    cases ends.gateway.opening with
    | unsent _ silent => exact absurd silent sent
    | sent handed all => exact ⟨handed, all⟩
  have more : d.toSession.received ≠ d.toSession.sent := by
    rw [fresh, all]
    exact (List.cons_ne_nil _ _).symm
  obtain ⟨frame, ch, took⟩ := Channel.take?_isSome more
  have first : frame = openingFrame d.secret := Channel.take?_first took fresh all
  have accepted : Supervisor.parseAuthenticationFrame session frame = true := by
    rw [first]
    exact (accepted_iff reads ends.gateway.credential).mpr secret
  have listen : l.listen session (.clientFrame frame 0) =
      some ({ l with log := .received frame :: l.log } : Lease).connect := by
    simp [Lease.listen, pending.client, Lease.clientMessage, waiting, accepted]
  have dialled' : (s.dials.set c { d with toSession := ch }).get c = some { d with toSession := ch } :=
    JsMap.get_set_self ..
  obtain ⟨t, d', step, there, connect, -, after⟩ :=
    lease_listens (s := { s with dials := s.dials.set c { d with toSession := ch } }) dialled' leased listen
  refine ⟨t, d', _, ?_, there, after, ⟨?_, ?_, pending.client, by simp [Lease.connect], ?_⟩, rfl⟩
  · simp only [linkStep, dialled, took]
    exact step
  · rw [connect]
    exact pending.waiting
  · rw [connect]
    exact pending.socket
  · intro u hu _
    cases hu
    exact ⟨rfl, rfl⟩

/-- **No deadlock.** Wherever a handshake stands that nothing has disturbed, it is three
events at most from its end. -/
theorem handshake_completes (reads : ReadsFrames cfg session)
    (reached : (link cfg session).Reachable (fun _ _ => True) s) (dialled : s.dials.get c = some d)
    (secret : d.secret = session.secret) (leased : s.proxy.peers.get c = some (.leased l))
    (pending : Pending d l) :
    ∃ es t d', es.length ≤ 3 ∧ (link cfg session).runFrom s es = some t ∧
      t.dials.get c = some d' ∧ d'.connect.authenticated = true := by
  have answer : ∀ {s : Link} {d : Dial} {l : Lease}, LinkWf cfg session s → s.dials.get c = some d →
      s.proxy.peers.get c = some (.leased l) → Pending d l → l.phase = .relaying →
      ∃ es t d', es.length ≤ 1 ∧ (link cfg session).runFrom s es = some t ∧
        t.dials.get c = some d' ∧ d'.connect.authenticated = true := by
    intro s d l wf dialled leased pending relaying
    obtain ⟨t, d', step, there, done⟩ := answer_arrives reads wf dialled leased pending relaying
    refine ⟨[.toGateway c], t, d', by simp, ?_, there, done⟩
    exact Option.bind_eq_some_iff.mpr ⟨t, step, rfl⟩
  have announce : ∀ {s : Link} {d : Dial} {l : Lease}, LinkWf cfg session s → s.dials.get c = some d →
      s.proxy.peers.get c = some (.leased l) → Pending d l → l.phase = .connecting →
      ∃ es t d', es.length ≤ 2 ∧ (link cfg session).runFrom s es = some t ∧
        t.dials.get c = some d' ∧ d'.connect.authenticated = true := by
    intro s d l wf dialled leased pending connecting
    obtain ⟨t, d', l', step, there, leased', pending', relaying⟩ :=
      announce_arrives (wf c d dialled) dialled leased pending connecting
    obtain ⟨es, u, d'', short, run, done⟩ := answer (ends_step wf step) there leased' pending' relaying
    refine ⟨.proxy (.lease c .upstreamOpened) :: es, u, d'', by simp; omega, ?_, done⟩
    exact Option.bind_eq_some_iff.mpr ⟨t, step, run⟩
  have wf := link_wf reached
  cases hl : l.phase with
  | authenticating =>
    obtain ⟨t, d', l', step, there, leased', pending', connecting⟩ :=
      opening_arrives reads (wf c d dialled) secret dialled leased pending hl
    obtain ⟨es, u, d'', short, run, done⟩ := announce (ends_step wf step) there leased' pending' connecting
    refine ⟨.toSession c 0 :: es, u, d'', by simp; omega, ?_, done⟩
    exact Option.bind_eq_some_iff.mpr ⟨t, step, run⟩
  | connecting =>
    obtain ⟨es, u, d', short, rest⟩ := announce wf dialled leased pending hl
    exact ⟨es, u, d', by omega, rest⟩
  | relaying =>
    obtain ⟨es, u, d', short, rest⟩ := answer wf dialled leased pending hl
    exact ⟨es, u, d', by omega, rest⟩
  | closed => exact absurd hl pending.open_

end

/-! ## A relayed exchange -/

/-- What `JSON.parse` makes of the two frames; a credential needs no escapes. -/
def parseSample (data : List UInt8) : Option Json :=
  let secret := String.ofList (((data.drop 33).take 43).map fun b => Char.ofNat b.toNat)
  if data = (openingFrame secret).data then
    some (.object [("type", .string "authenticate"), ("secret", .string secret)])
  else if data = utf8 authenticatedText then some (.object [("type", .string "authenticated")])
  else none

def linkSession (secret : String) : ProxyConfig := ⟨secret, parseSample⟩

def linkGateway : ConnectorConfig := { sampleConnector with parseJson := parseSample }

theorem escape_credential {ch : Char} (digit : isBase64Url ch = true) :
    Json.escape ch = [ch] ∧ ch.toNat < 128 := by
  have range : 45 ≤ ch.toNat ∧ ch.toNat < 128 ∧ ch.toNat ≠ 92 := by
    simp only [isBase64Url, Bool.or_eq_true, decide_eq_true_eq] at digit
    rcases digit with (alphanum | rfl) | rfl
    · have := ascii_alphanum.mp alphanum
      omega
    · decide
    · decide
  refine ⟨?_, range.2.1⟩
  unfold Json.escape
  split <;> first | omega | skip
  rw [if_neg (by omega)]

/-- What stands before the secret. -/
def openingLead : List Char := "\x7b\"type\":\"authenticate\",\"secret\":".toList ++ ['"']

theorem quote_plain {text : String} (plain : text.toList.flatMap Json.escape = text.toList) :
    (Json.quote text).toList = ['"'] ++ text.toList ++ ['"'] := by
  rw [Json.quote, plain, String.ofList_toList, String.toList_append, String.toList_append]
  rfl

theorem enclosed {lead quoted brace : String} {secret : List Char}
    (inner : quoted.toList = ['"'] ++ secret ++ ['"']) (outer : brace.toList = ['\x7d']) :
    (lead ++ quoted ++ brace).toList = lead.toList ++ ['"'] ++ secret ++ ['"', '\x7d'] := by
  rw [String.toList_append, String.toList_append, inner, outer]
  simp only [List.append_assoc, List.cons_append, List.nil_append]

theorem opening_text {secret : String} (credential : isCredential secret = true) :
    (authenticationText secret).toList = openingLead ++ secret.toList ++ ['"', '\x7d'] := by
  simp only [isCredential, Bool.and_eq_true, List.all_eq_true] at credential
  have plain : secret.toList.flatMap Json.escape = secret.toList := by
    rw [List.flatMap_congr fun c mem => (escape_credential (credential.2 c mem)).1]
    exact List.flatMap_singleton' _
  exact enclosed (quote_plain plain) rfl

theorem opening_bytes {secret : String} (credential : isCredential secret = true) :
    (openingFrame secret).data =
      (openingLead ++ secret.toList ++ ['"', '\x7d']).map fun c => UInt8.ofNat c.toNat := by
  have text : authenticationText secret =
      String.ofList (openingLead ++ secret.toList ++ ['"', '\x7d']) := by
    rw [← opening_text credential, String.ofList_toList]
  have lead : ∀ c ∈ openingLead, c.toNat < 128 := forall_mem_chars (by decide)
  rw [openingFrame, text]
  apply utf8_ascii
  intro c mem
  simp only [List.mem_append, List.mem_cons, List.not_mem_nil, or_false] at mem
  rcases mem with (mem | mem) | rfl | rfl
  · exact lead c mem
  · simp only [isCredential, Bool.and_eq_true, List.all_eq_true] at credential
    exact (escape_credential (credential.2 c mem)).2
  · decide
  · decide

theorem opening_secret {secret : String} (credential : isCredential secret = true) :
    String.ofList ((((openingFrame secret).data.drop 33).take 43).map fun b => Char.ofNat b.toNat) =
      secret := by
  have bytes := opening_bytes credential
  have lead : openingLead.length = 33 := by decide
  simp only [isCredential, Bool.and_eq_true, decide_eq_true_eq, List.all_eq_true] at credential
  have cut : (((openingLead ++ secret.toList ++ ['"', '\x7d']).drop 33).take 43) = secret.toList := by
    rw [List.append_assoc, ← lead, List.drop_left, ← credential.1, List.take_left]
  have back : secret.toList.map ((fun b => Char.ofNat b.toNat) ∘ fun c => UInt8.ofNat c.toNat) =
      secret.toList.map id := by
    apply List.map_congr_left
    exact fun c mem => ofNat_ascii (escape_credential (credential.2 c mem)).2
  rw [bytes, ← List.map_drop, ← List.map_take, cut, List.map_map, back, List.map_id, String.ofList_toList]

theorem linkReads (known : String) : ReadsFrames linkGateway (linkSession known) where
  authenticated := by
    have other : utf8 authenticatedText ≠ (openingFrame (String.ofList
        ((((utf8 authenticatedText).drop 33).take 43).map fun b => Char.ofNat b.toNat))).data := by decide
    show parseSample (utf8 authenticatedText) = _
    simp only [parseSample, if_neg other, if_true]
  authentication := by
    intro secret credential
    show parseSample (openingFrame secret).data = _
    simp only [parseSample, opening_secret credential, if_true]

/-- `connect` is called, and its socket opens. -/
def sampleOpening : List LinkEvent :=
  [.dial 0 sampleTarget, .proxy (.connection 0), .connector 0 .opened]

/-- The rest of the handshake, and a frame in each direction. -/
def sampleExchange : List LinkEvent :=
  sampleOpening ++ [.toSession 0 0, .proxy (.lease 0 .upstreamOpened), .toGateway 0,
    .connector 0 .activated, .send 0 Supervisor.offer, .toSession 0 0,
    .proxy (.lease 0 (.upstreamFrame Supervisor.answer 0)), .toGateway 0]

/-- The link of the session whose secret this is, after some events. -/
def linkRun (secret : String) (es : List LinkEvent) : Option Link :=
  (link linkGateway (linkSession secret)).runFrom ⟨.initial, .empty⟩ es

/-- The lease of a connection. -/
def Link.lease? (s : Link) (c : Nat) : Option Lease :=
  match s.proxy.peers.get c with
  | some (.leased l) => some l
  | _ => none

theorem lease?_eq_some {s : Link} {c : Nat} {l : Lease} (h : s.lease? c = some l) :
    s.proxy.peers.get c = some (.leased l) := by
  unfold Link.lease? at h
  split at h
  · cases h
    assumption
  · cases h

theorem handshake_understood_exchange : ∃ (s : Link) (d : Dial), s.dials.get 0 = some d ∧
    d.connect.authenticated = true ∧
    (∀ l, s.proxy.peers.get 0 = some (.leased l) → ∀ code reason, .closed code reason ∈ l.log →
      reason ≠ "authentication failed" ∧ reason ≠ "wait for relay readiness") ∧
    ∀ newer frame older, d.connect.events = newer ++ .message frame :: older →
      verdict linkGateway older = .undecided → verdict linkGateway (.message frame :: older) = .resolved := by
  let s := (linkRun Supervisor.sampleSecret sampleExchange).get (by decide)
  have run : linkRun Supervisor.sampleSecret sampleExchange = some s := (Option.some_get _).symm
  have reached := Machine.reaches_freely run
  let d := (s.dials.get 0).get (by decide)
  have dialled : s.dials.get 0 = some d := (Option.some_get _).symm
  exact ⟨s, d, dialled, by decide,
    handshake_understood (linkReads _) reached dialled (show d.secret = Supervisor.sampleSecret by decide)⟩

/-- A gateway that knows another session's secret. -/
theorem handshake_refused_stranger : ∃ (s : Link) (d : Dial) (l : Lease), s.dials.get 0 = some d ∧
    .closed 1008 "authentication failed" ∈ l.log ∧
    d.connect.authenticated = false ∧ d.toGateway.sent = [] ∧
    ∀ l, s.proxy.peers.get 0 = some (.leased l) →
      (l.phase = .authenticating ∨ l.phase = .closed) ∧ l.sentUpstream = [] ∧ l.sentClient = [] := by
  let s := (linkRun "another" (sampleOpening ++ [.toSession 0 0])).get (by decide)
  have run : linkRun "another" (sampleOpening ++ [.toSession 0 0]) = some s := (Option.some_get _).symm
  have reached := Machine.reaches_freely run
  let d := (s.dials.get 0).get (by decide)
  have dialled : s.dials.get 0 = some d := (Option.some_get _).symm
  let l := (s.lease? 0).get (by decide)
  exact ⟨s, d, l, dialled, by decide,
    handshake_refused (linkReads _) reached dialled (show d.secret ≠ "another" by decide)⟩

theorem handshake_completes_opening : ∃ (s : Link) (l : Lease), s.lease? 0 = some l ∧
    l.phase = .authenticating ∧ ∃ es t d', es.length ≤ 3 ∧
      (link linkGateway (linkSession Supervisor.sampleSecret)).runFrom s es = some t ∧
      t.dials.get 0 = some d' ∧ d'.connect.authenticated = true := by
  let s := (linkRun Supervisor.sampleSecret sampleOpening).get (by decide)
  have run : linkRun Supervisor.sampleSecret sampleOpening = some s := (Option.some_get _).symm
  have reached := Machine.reaches_freely run
  let d := (s.dials.get 0).get (by decide)
  have dialled : s.dials.get 0 = some d := (Option.some_get _).symm
  let l := (s.lease? 0).get (by decide)
  have there : s.lease? 0 = some l := (Option.some_get _).symm
  have undialled : l.upstream = none := by decide
  have pending : Pending d l := by
    refine ⟨by decide, by decide, by decide, by decide, ?_⟩
    intro u dialled
    cases undialled.symm.trans dialled
  exact ⟨s, l, there, by decide, handshake_completes (linkReads _) reached dialled
    (show d.secret = Supervisor.sampleSecret by decide) (lease?_eq_some there) pending⟩

end Fireball.Signaling
