import Fireball.Foundation.Failing
import Fireball.Foundation.JsMap
import Fireball.Foundation.Machine
import Fireball.Session.Types

/-!
# `SessionService`

`src/domain/session-service.ts` as a machine. A call runs to its first `await`
when it is made and is then parked; each later event continues one parked call
to its next `await` or to its end, so calls interleave exactly at the awaits.
The promise of a runtime call settles with whatever the runtime answers, and the
caller of `observeRuntime` resumes in a step of its own after `observeRuntime`
has settled.

`history` records the calls made, the runtime calls, the revocation callbacks
and the answers, newest first. No code reads it.
-/

namespace Fireball.Session

open Foundation

/-! ## Configuration -/

def maximumSafeInteger : Int := 9007199254740991

/-- `positiveInteger`, on the numbers that are integers. -/
def positiveInteger (value : Int) (name : String) : Except String Nat :=
  if value > maximumSafeInteger ∨ value ≤ 0 then .error (name ++ " must be a positive integer")
  else .ok value.toNat

structure QuotaOptions where
  memoryMiB : Int
  cpuShares : Int
  pids : Int

structure CapacityOptions extends QuotaOptions where
  maximumSessions : Int

def validateQuota (quota : QuotaOptions) : Except String SessionQuota := do
  let memoryMiB ← positiveInteger quota.memoryMiB "memory quota"
  let cpuShares ← positiveInteger quota.cpuShares "CPU shares"
  let pids ← positiveInteger quota.pids "PID quota"
  return ⟨memoryMiB, cpuShares, pids⟩

def validateHostCapacity (capacity : CapacityOptions) : Except String HostCapacity := do
  let maximumSessions ← positiveInteger capacity.maximumSessions "host session capacity"
  let quota ← validateQuota capacity.toQuotaOptions
  return ⟨quota, maximumSessions⟩

def fitsWithin (quota : SessionQuota) (capacity : HostCapacity) : Bool :=
  quota.memoryMiB ≤ capacity.memoryMiB && quota.cpuShares ≤ capacity.cpuShares &&
    quota.pids ≤ capacity.pids

structure SessionServiceOptions where
  maximumSessionsPerTenant : Option Int := none
  quota : Option QuotaOptions := none
  hostCapacity : Option CapacityOptions := none
  pairingTicketTTLSeconds : Option Int := none
  signalingTokenTTLSeconds : Option Int := none

def defaultQuota : QuotaOptions := ⟨512, 512, 256⟩
def defaultHostCapacity : CapacityOptions := ⟨⟨4096, 4096, 2048⟩, 8⟩
def defaultPairingTicketTTLSeconds : Int := 60
def defaultSignalingTokenTTLSeconds : Int := 30

/-- The read-only fields of a constructed service. `sha256` stands for the hex
digest of `node:crypto`. -/
structure Config where
  sha256 : String → String
  maximumSessionsPerTenant : Nat
  quota : SessionQuota
  hostCapacity : HostCapacity
  pairingTicketTTLSeconds : Nat
  signalingTokenTTLSeconds : Nat
  quotaFits : fitsWithin quota hostCapacity = true

/-- The constructor of `SessionService`. -/
def Config.construct (sha256 : String → String) (options : SessionServiceOptions) :
    Except String Config := do
  let maximum ← positiveInteger (options.maximumSessionsPerTenant.getD 1) "session limit"
  let quota ← validateQuota (options.quota.getD defaultQuota)
  let capacity ← validateHostCapacity (options.hostCapacity.getD defaultHostCapacity)
  if fits : fitsWithin quota capacity = true then
    let ticketTTL ← positiveInteger
      (options.pairingTicketTTLSeconds.getD defaultPairingTicketTTLSeconds) "pairing ticket TTL"
    let tokenTTL ← positiveInteger
      (options.signalingTokenTTLSeconds.getD defaultSignalingTokenTTLSeconds)
      "signaling token TTL"
    return ⟨sha256, maximum, quota, capacity, ticketTTL, tokenTTL, fits⟩
  else
    throw "per-session quota exceeds host capacity"

/-- `limit` is this number, which is positive and safe. -/
structure IsLimit (value : Int) (limit : Nat) : Prop where
  same : value = limit
  positive : 0 < limit
  safe : (limit : Int) ≤ maximumSafeInteger

structure IsQuota (options : QuotaOptions) (quota : SessionQuota) : Prop where
  memoryMiB : IsLimit options.memoryMiB quota.memoryMiB
  cpuShares : IsLimit options.cpuShares quota.cpuShares
  pids : IsLimit options.pids quota.pids

/-- The limits of a service are those of its options, or the defaults. -/
structure Config.Limits (options : SessionServiceOptions) (cfg : Config) : Prop where
  sessions : IsLimit (options.maximumSessionsPerTenant.getD 1) cfg.maximumSessionsPerTenant
  quota : IsQuota (options.quota.getD defaultQuota) cfg.quota
  hostSessions : IsLimit (options.hostCapacity.getD defaultHostCapacity).maximumSessions
    cfg.hostCapacity.maximumSessions
  hostQuota : IsQuota (options.hostCapacity.getD defaultHostCapacity).toQuotaOptions
    cfg.hostCapacity.toSessionQuota
  pairingTickets : IsLimit (options.pairingTicketTTLSeconds.getD defaultPairingTicketTTLSeconds)
    cfg.pairingTicketTTLSeconds
  signalingTokens : IsLimit (options.signalingTokenTTLSeconds.getD defaultSignalingTokenTTLSeconds)
    cfg.signalingTokenTTLSeconds

theorem positiveInteger_ok {value : Int} {name : String} {limit : Nat} :
    positiveInteger value name = .ok limit ↔ IsLimit value limit := by
  unfold positiveInteger
  split
  · rename_i refused
    refine iff_of_false (by simp) ?_
    rintro ⟨rfl, positive, safe⟩
    omega
  · rename_i accepted
    rw [Except.ok.injEq]
    constructor
    · rintro rfl
      exact ⟨by omega, by omega, by omega⟩
    · rintro ⟨rfl, -, -⟩
      rfl

theorem validateQuota_ok {options : QuotaOptions} {quota : SessionQuota} :
    validateQuota options = .ok quota ↔ IsQuota options quota := by
  simp only [validateQuota, bind_ok, positiveInteger_ok]
  constructor
  · rintro ⟨memoryMiB, memory, cpuShares, cpu, pids, processes, ⟨⟩⟩
    exact ⟨memory, cpu, processes⟩
  · rintro ⟨memory, cpu, processes⟩
    exact ⟨_, memory, _, cpu, _, processes, rfl⟩

theorem validateHostCapacity_ok {options : CapacityOptions} {capacity : HostCapacity} :
    validateHostCapacity options = .ok capacity ↔
      IsLimit options.maximumSessions capacity.maximumSessions ∧
        IsQuota options.toQuotaOptions capacity.toSessionQuota := by
  simp only [validateHostCapacity, bind_ok, positiveInteger_ok, validateQuota_ok]
  constructor
  · rintro ⟨maximumSessions, sessions, quota, parts, ⟨⟩⟩
    exact ⟨sessions, parts⟩
  · rintro ⟨sessions, parts⟩
    exact ⟨_, sessions, _, parts, rfl⟩

/-- **A service is constructed** exactly from limits that are positive and that the quota of one
session does not exceed. -/
theorem construct_ok {sha256 : String → String} {options : SessionServiceOptions} {cfg : Config} :
    Config.construct sha256 options = .ok cfg ↔ cfg.sha256 = sha256 ∧ cfg.Limits options := by
  simp only [Config.construct, bind_ok, positiveInteger_ok, validateQuota_ok, validateHostCapacity_ok]
  constructor
  · rintro ⟨maximum, sessions, quota, own, capacity, ⟨hostSessions, host⟩, built⟩
    split at built
    · simp only [bind_ok, positiveInteger_ok] at built
      obtain ⟨ticketTTL, tickets, tokenTTL, tokens, ⟨⟩⟩ := built
      exact ⟨rfl, sessions, own, hostSessions, host, tickets, tokens⟩
    · cases built
  · obtain ⟨own, maximum, quota, capacity, ticketTTL, tokenTTL, fits⟩ := cfg
    rintro ⟨rfl, limits⟩
    refine ⟨_, limits.sessions, _, limits.quota, _, ⟨limits.hostSessions, limits.hostQuota⟩, ?_⟩
    rw [dif_pos fits]
    simp only [bind_ok, positiveInteger_ok]
    exact ⟨_, limits.pairingTickets, _, limits.signalingTokens, rfl⟩

example : (Config.construct id {}).toOption.map (·.hostCapacity) =
    some ⟨⟨4096, 4096, 2048⟩, 8⟩ := by decide

/-! ## The maps -/

structure CredentialBinding where
  sessionKey : String
  expiresAt : Nat
  deriving DecidableEq, Repr

/-- `ref` is the object's identity. The object is only ever changed through
the map that holds it. -/
structure SessionCredentials where
  ref : Nat
  pairingTicketHash : Option String
  signalingTokenHashes : JsSet String
  deriving DecidableEq

structure SessionReservation where
  tenantId : String
  quota : SessionQuota
  deriving DecidableEq, Repr

/-- The mutable fields of the service, and the next object identity. -/
structure Store where
  sessions : JsMap String SessionRecord
  pairingTickets : JsMap String CredentialBinding
  signalingTokens : JsMap String CredentialBinding
  credentialsBySession : JsMap String SessionCredentials
  reservations : JsMap String SessionReservation
  nextRef : Nat

def Store.empty : Store := ⟨.empty, .empty, .empty, .empty, .empty, 0⟩

/-- What a stretch of code between two awaits reads from outside. -/
structure Draw where
  uuid : String
  credential : String
  now : Nat
  isoTime : String
  deriving DecidableEq, Repr

def key (tenantId id : String) : String := tenantId ++ ":" ++ id

def sessionNotFound : Thrown := .orchestrator ⟨.sessionNotFound, "session not found", 404⟩

def signalingInactive : Thrown := .orchestrator ⟨.signalingUnavailable, "session is not active", 409⟩

def credentialsUnavailable : Thrown :=
  .orchestrator ⟨.signalingUnavailable, "session credentials are unavailable", 409⟩

def tabRuntimeUnavailable : Thrown :=
  .orchestrator ⟨.tabRuntimeUnavailable, "session tab runtime is not active", 409⟩

def tenantLimitReached : Thrown :=
  .orchestrator ⟨.sessionLimitReached, "tenant session quota reached", 409⟩

def hostLimitReached : Thrown :=
  .orchestrator ⟨.sessionLimitReached, "host session capacity reached", 409⟩

def cleanupFailed : Thrown := .orchestrator ⟨.runtimeFailure, "session cleanup failed", 503⟩

def invalidSignalingCredential : Thrown :=
  .orchestrator ⟨.signalingCredentialInvalid, "signaling credential is invalid or expired", 401⟩

def toSessionView (record : SessionRecord) : SessionView :=
  ⟨record.id, record.phase, record.createdAt, record.quota, record.failure⟩

def hashPresentedCredential (cfg : Config) (value : String) : Except Thrown String :=
  if isCredential value then .ok (cfg.sha256 value)
  else .error invalidSignalingCredential

/-! ## Quotas -/

def currentAllocation (s : Store) : HostCapacity :=
  (s.sessions.values.map (·.quota) ++ s.reservations.values.map (·.quota)).foldl
    (fun total quota => ⟨⟨total.memoryMiB + quota.memoryMiB, total.cpuShares + quota.cpuShares,
      total.pids + quota.pids⟩, total.maximumSessions + 1⟩) ⟨⟨0, 0, 0⟩, 0⟩

def tenantSessions (s : Store) (tenantId : String) : Nat :=
  (s.sessions.values.filter fun session => session.tenantId = tenantId).length

def tenantReservations (s : Store) (tenantId : String) : Nat :=
  (s.reservations.values.filter fun reservation => reservation.tenantId = tenantId).length

def reserve (cfg : Config) (s : Store) (id tenantId : String) : Except Thrown Store :=
  if tenantSessions s tenantId + tenantReservations s tenantId ≥ cfg.maximumSessionsPerTenant then
    .error tenantLimitReached
  else
    let allocation := currentAllocation s
    if allocation.maximumSessions + 1 > cfg.hostCapacity.maximumSessions ∨
        allocation.memoryMiB + cfg.quota.memoryMiB > cfg.hostCapacity.memoryMiB ∨
        allocation.cpuShares + cfg.quota.cpuShares > cfg.hostCapacity.cpuShares ∨
        allocation.pids + cfg.quota.pids > cfg.hostCapacity.pids then
      .error hostLimitReached
    else
      .ok { s with reservations := s.reservations.set id ⟨tenantId, cfg.quota⟩ }

/-! ## Credentials -/

/-- Remove what `credentials` points to from the two credential maps. -/
def forgetCredentials (s : Store) (credentials : SessionCredentials) : Store :=
  { s with
    pairingTickets := match credentials.pairingTicketHash with
      | some hash => s.pairingTickets.delete hash
      | none => s.pairingTickets
    signalingTokens := s.signalingTokens.deleteAll credentials.signalingTokenHashes.keys }

def revokeCredentials (s : Store) (sessionKey : String) : Store :=
  match s.credentialsBySession.get sessionKey with
  | none => s
  | some credentials =>
    { forgetCredentials s credentials with
      credentialsBySession := s.credentialsBySession.delete sessionKey }

def rotateSignalingTicket (cfg : Config) (s : Store) (sessionKey : String) (d : Draw) :
    Except Thrown (Store × SignalingTicketIssueResult) :=
  match s.credentialsBySession.get sessionKey with
  | none => .error credentialsUnavailable
  | some credentials =>
    let s := forgetCredentials s credentials
    let ticketHash := cfg.sha256 d.credential
    .ok ({ s with
        credentialsBySession := s.credentialsBySession.set sessionKey
          { credentials with
            pairingTicketHash := some ticketHash, signalingTokenHashes := .empty }
        pairingTickets := s.pairingTickets.set ticketHash
          ⟨sessionKey, d.now + cfg.pairingTicketTTLSeconds * 1000⟩ },
      ⟨d.credential, cfg.pairingTicketTTLSeconds⟩)

/-- The end of `exchangeSignalingTicket`: mint a token on the credentials object. -/
def mintSignalingToken (cfg : Config) (s : Store) (sessionKey : String)
    (credentials : SessionCredentials) (d : Draw) : Store × SignalingTokenExchangeResult :=
  let tokenHash := cfg.sha256 d.credential
  ({ s with
      credentialsBySession := s.credentialsBySession.set sessionKey
        { credentials with signalingTokenHashes := credentials.signalingTokenHashes.add tokenHash }
      signalingTokens := s.signalingTokens.set tokenHash
        ⟨sessionKey, d.now + cfg.signalingTokenTTLSeconds * 1000⟩ },
    ⟨d.credential, cfg.signalingTokenTTLSeconds⟩)

/-- Put a new object with these fields under the key. -/
def Store.putRecord (s : Store) (sessionKey : String) (record : SessionRecord) : Store :=
  { s with
    sessions := s.sessions.set sessionKey { record with ref := s.nextRef }
    nextRef := s.nextRef + 1 }

/-! ## Calls -/

inductive Call
  | create (context : TenantContext)
  | get (context : TenantContext) (id : String)
  | issueSignalingTicket (context : TenantContext) (id : String)
  | tab (context : TenantContext) (id : String) (operation : TabOperation)
  | exchangeSignalingTicket (ticket : String)
  | authorizeSignalingToken (token : String)
  | burn (context : TenantContext) (id : String)
  deriving DecidableEq, Repr

inductive Outcome
  | created (session : SessionView) (ticket : SignalingTicketIssueResult)
  | viewed (session : SessionView)
  | ticketIssued (ticket : SignalingTicketIssueResult)
  | tab (reply : TabReply)
  | tokenIssued (token : SignalingTokenExchangeResult)
  | authorized (authorization : SignalingAuthorization)
  | burned
  | rejected (error : Thrown)
  deriving DecidableEq, Repr

/-- The code that waits for `observeRuntime`, with the variables it closes over. -/
inductive Caller
  | get
  | issueSignalingTicket (sessionKey : String)
  | activeRuntime (operation : TabOperation)
  | exchange (ticket sessionKey : String) (credentials : Nat)
  | authorize (token sessionKey : String)
  deriving DecidableEq, Repr

/-- Where a call is parked. -/
inductive Pending
  /-- `create`, at `await this.runtime.create(..)`. -/
  | creating (id tenantId : String)
  /-- `observeRuntime`, at `await this.runtime.inspect(..)`. -/
  | inspecting (sessionKey : String) (record : SessionRecord) (caller : Caller)
  /-- `observeRuntime` has settled and its caller has not resumed. -/
  | observed (result : Except Thrown SessionRecord) (caller : Caller)
  /-- `activeRuntime` has settled and the tab method has not resumed. -/
  | activated (result : Except Thrown RuntimeResource) (operation : TabOperation)
  /-- A tab method, at the await of its runtime call. -/
  | tabbing (resource : RuntimeResource) (operation : TabOperation)
  /-- `burn`, at `await this.runtime.destroy(..)`. -/
  | destroying (sessionKey : String) (record : SessionRecord)

inductive Entry
  | called (c : Nat) (call : Call)
  | requested (c : Nat) (request : RuntimeRequest)
  | revoked (sessionId : String)
  | answered (c : Nat) (outcome : Outcome)
  deriving DecidableEq, Repr

structure State where
  store : Store
  calls : JsMap Nat Pending
  nextCall : Nat
  history : List Entry

def State.initial : State := ⟨.empty, .empty, 0, []⟩

namespace State

def park (s : State) (c : Nat) (p : Pending) : State := { s with calls := s.calls.set c p }

def record (s : State) (entry : Entry) : State := { s with history := entry :: s.history }

/-- The call's promise settles. -/
def answer (s : State) (c : Nat) (outcome : Outcome) : State :=
  { s with calls := s.calls.delete c, history := .answered c outcome :: s.history }

end State

def revokeSession (s : State) (sessionKey : String) (session : SessionRecord) : State :=
  { s with
    store := revokeCredentials s.store sessionKey
    history := .revoked session.id :: s.history }

/-- `observeRuntime` up to its await, on behalf of `caller`. -/
def observeRuntime (s : State) (c : Nat) (sessionKey : String) (record : SessionRecord)
    (caller : Caller) : State :=
  if record.phase ≠ .active then s.park c (.observed (.ok record) caller)
  else (s.record (.requested c (.inspect record.runtime))).park c
    (.inspecting sessionKey record caller)

/-- The record `observeRuntime` stores for a runtime that is gone. -/
def failedRecord (record : SessionRecord) (failure : RuntimeLoss) : SessionRecord :=
  { record with phase := .failed, failure := some failure.text }

/-- `observeRuntime` after its await. -/
def runtimeInspected (s : State) (c : Nat) (sessionKey : String) (record : SessionRecord)
    (caller : Caller) (result : Except Thrown RuntimeInspection) : State :=
  match result with
  | .error e => s.park c (.observed (.error e) caller)
  | .ok inspection =>
    match s.store.sessions.get sessionKey with
    | none => s.park c (.observed (.error sessionNotFound) caller)
    | some current =>
      if current.ref ≠ record.ref ∨ current.phase ≠ .active then
        s.park c (.observed (.ok current) caller)
      else match inspection with
        | .running => s.park c (.observed (.ok current) caller)
        | .failed failure =>
          let s := revokeSession s sessionKey record
          let failed := { failedRecord record failure with ref := s.store.nextRef }
          { s with store := s.store.putRecord sessionKey failed }.park c
            (.observed (.ok failed) caller)

/-- The methods that look a session up for its owner. -/
def lookUp (s : State) (c : Nat) (context : TenantContext) (id : String)
    (found : String → SessionRecord → State) : State :=
  match s.store.sessions.get (key context.tenantId id) with
  | none => s.answer c (.rejected sessionNotFound)
  | some record => found (key context.tenantId id) record

def create (cfg : Config) (s : State) (c : Nat) (context : TenantContext) (d : Draw) : State :=
  match reserve cfg s.store d.uuid context.tenantId with
  | .error e => s.answer c (.rejected e)
  | .ok store =>
    ({ s with store := store }.record
      (.requested c (.create ⟨d.uuid, context.tenantId, cfg.quota⟩))).park c
        (.creating d.uuid context.tenantId)

/-- `finally { this.reservations.delete(id) }`. -/
def Store.release (s : Store) (id : String) : Store :=
  { s with reservations := s.reservations.delete id }

/-- The record and the empty credentials that `create` stores. -/
def insertCreated (cfg : Config) (s : Store) (sessionKey id tenantId : String) (runtime : RuntimeResource)
    (d : Draw) : Store :=
  { s with
    sessions := s.sessions.set sessionKey
      ⟨s.nextRef, id, tenantId, .active, d.isoTime, cfg.quota, runtime, none⟩
    credentialsBySession := s.credentialsBySession.set sessionKey ⟨s.nextRef + 1, none, .empty⟩
    nextRef := s.nextRef + 2 }

/-- `create` after its await. -/
def runtimeCreated (cfg : Config) (s : State) (c : Nat) (id tenantId : String)
    (result : Except Thrown RuntimeResource) (d : Draw) : State :=
  match result with
  | .error e => { s with store := s.store.release id }.answer c (.rejected e)
  | .ok runtime =>
    let sessionKey := key tenantId id
    let store := insertCreated cfg s.store sessionKey id tenantId runtime d
    match rotateSignalingTicket cfg store sessionKey d with
    | .error e => { s with store := store.release id }.answer c (.rejected e)
    | .ok (store, ticket) =>
      { s with store := store.release id }.answer c
        (.created ⟨id, .active, d.isoTime, cfg.quota, none⟩ ticket)

/-- `exchangeSignalingTicket` removes the presented ticket from the index, and
from its session's credentials when they still name it. -/
def takePairingTicket (s : Store) (ticketHash : String) : Store :=
  let taken := { s with pairingTickets := s.pairingTickets.delete ticketHash }
  match s.pairingTickets.get ticketHash with
  | none => taken
  | some binding =>
    match s.credentialsBySession.get binding.sessionKey with
    | none => taken
    | some credentials =>
      if credentials.pairingTicketHash = some ticketHash then
        { taken with
          credentialsBySession := s.credentialsBySession.set binding.sessionKey
            { credentials with pairingTicketHash := none } }
      else taken

/-- `authorizeSignalingToken` removes the presented token from both indexes. -/
def takeSignalingToken (s : Store) (tokenHash : String) : Store :=
  let taken := { s with signalingTokens := s.signalingTokens.delete tokenHash }
  match s.signalingTokens.get tokenHash with
  | none => taken
  | some binding =>
    match s.credentialsBySession.get binding.sessionKey with
    | none => taken
    | some credentials =>
      { taken with
        credentialsBySession := s.credentialsBySession.set binding.sessionKey
          { credentials with
            signalingTokenHashes := credentials.signalingTokenHashes.delete tokenHash } }

def exchangeSignalingTicket (cfg : Config) (s : State) (c : Nat) (ticket : String) (d : Draw) :
    State :=
  match hashPresentedCredential cfg ticket with
  | .error e => s.answer c (.rejected e)
  | .ok ticketHash =>
    let taken := { s with store := takePairingTicket s.store ticketHash }
    match s.store.pairingTickets.get ticketHash with
    | none => taken.answer c (.rejected invalidSignalingCredential)
    | some binding =>
      match s.store.sessions.get binding.sessionKey,
        s.store.credentialsBySession.get binding.sessionKey with
      | some record, some credentials =>
        if binding.expiresAt ≤ d.now ∨ record.phase ≠ .active then
          taken.answer c (.rejected invalidSignalingCredential)
        else
          observeRuntime taken c binding.sessionKey record
            (.exchange ticket binding.sessionKey credentials.ref)
      | _, _ => taken.answer c (.rejected invalidSignalingCredential)

def authorizeSignalingToken (cfg : Config) (s : State) (c : Nat) (token : String) (d : Draw) :
    State :=
  match hashPresentedCredential cfg token with
  | .error e => s.answer c (.rejected e)
  | .ok tokenHash =>
    let taken := { s with store := takeSignalingToken s.store tokenHash }
    match s.store.signalingTokens.get tokenHash with
    | none => taken.answer c (.rejected invalidSignalingCredential)
    | some binding =>
      match s.store.sessions.get binding.sessionKey with
      | none => taken.answer c (.rejected invalidSignalingCredential)
      | some record =>
        if binding.expiresAt ≤ d.now ∨ record.phase ≠ .active then
          taken.answer c (.rejected invalidSignalingCredential)
        else observeRuntime taken c binding.sessionKey record (.authorize token binding.sessionKey)

def burningRecord (record : SessionRecord) : SessionRecord :=
  { record with phase := .burning, failure := none }

/-- The record `burn` stores when the runtime could not be destroyed. -/
def uncleanRecord (record : SessionRecord) : SessionRecord :=
  { record with phase := .failed, failure := some "runtime cleanup failed" }

/-- `burn` up to its await. -/
def burn (s : State) (c : Nat) (sessionKey : String) (record : SessionRecord) : State :=
  let s := revokeSession s sessionKey record
  ({ s with store := s.store.putRecord sessionKey (burningRecord record) }.record
    (.requested c (.destroy record.runtime))).park c (.destroying sessionKey record)

/-- `burn` after its await. The failing branch writes the record it captured
before the await, whatever the map holds by then. -/
def runtimeDestroyed (s : State) (c : Nat) (sessionKey : String) (record : SessionRecord)
    (result : Except Thrown Unit) : State :=
  match result with
  | .ok () =>
    { s with store := { s.store with sessions := s.store.sessions.delete sessionKey } }.answer c
      .burned
  | .error _ =>
    { s with store := s.store.putRecord sessionKey (uncleanRecord record) }.answer c
      (.rejected cleanupFailed)

/-- The code after `await this.observeRuntime(..)` in each caller. -/
def resumeCaller (cfg : Config) (s : State) (c : Nat) (observed : SessionRecord) (d : Draw) :
    Caller → State
  | .get => s.answer c (.viewed (toSessionView observed))
  | .issueSignalingTicket sessionKey =>
    if observed.phase ≠ .active then s.answer c (.rejected signalingInactive)
    else match rotateSignalingTicket cfg s.store sessionKey d with
      | .error e => s.answer c (.rejected e)
      | .ok (store, ticket) => { s with store := store }.answer c (.ticketIssued ticket)
  | .activeRuntime operation =>
    if observed.phase ≠ .active then
      s.park c (.activated (.error tabRuntimeUnavailable) operation)
    else s.park c (.activated (.ok observed.runtime) operation)
  | .exchange _ sessionKey ref =>
    match s.store.credentialsBySession.get sessionKey with
    | none => s.answer c (.rejected invalidSignalingCredential)
    | some credentials =>
      if observed.phase ≠ .active ∨ credentials.ref ≠ ref then
        s.answer c (.rejected invalidSignalingCredential)
      else
        let minted := mintSignalingToken cfg s.store sessionKey credentials d
        { s with store := minted.1 }.answer c (.tokenIssued minted.2)
  | .authorize _ _ =>
    if observed.phase ≠ .active then s.answer c (.rejected invalidSignalingCredential)
    else s.answer c (.authorized ⟨observed.id, observed.tenantId, observed.runtime⟩)

/-- A rejected `observeRuntime` rejects its caller, and through `activeRuntime`
the tab method. -/
def rejectCaller (s : State) (c : Nat) (e : Thrown) : Caller → State
  | .activeRuntime operation => s.park c (.activated (.error e) operation)
  | _ => s.answer c (.rejected e)

/-! ## The machine -/

inductive Event
  /-- A method is called. -/
  | call (call : Call) (draw : Draw)
  /-- The runtime promise that call `c` awaits settles. -/
  | settle (c : Nat) (reply : RuntimeReply) (draw : Draw)
  /-- Call `c` resumes after an inner promise that has settled. -/
  | resume (c : Nat) (draw : Draw)

def Event.draw : Event → Draw
  | .call _ d => d
  | .settle _ _ d => d
  | .resume _ d => d

def startCall (cfg : Config) (s : State) (c : Nat) (d : Draw) : Call → State
  | .create context => create cfg s c context d
  | .get context id => lookUp s c context id fun k r => observeRuntime s c k r .get
  | .issueSignalingTicket context id =>
    lookUp s c context id fun k r => observeRuntime s c k r (.issueSignalingTicket k)
  | .tab context id operation =>
    match s.store.sessions.get (key context.tenantId id) with
    | none => s.park c (.activated (.error sessionNotFound) operation)
    | some r => observeRuntime s c (key context.tenantId id) r (.activeRuntime operation)
  | .exchangeSignalingTicket ticket => exchangeSignalingTicket cfg s c ticket d
  | .authorizeSignalingToken token => authorizeSignalingToken cfg s c token d
  | .burn context id => lookUp s c context id fun k r => burn s c k r

/-- A new call gets the next number. -/
def State.begin (s : State) (call : Call) : State :=
  { s with nextCall := s.nextCall + 1, history := .called s.nextCall call :: s.history }

/-- Make a call: it runs to its first await. -/
def makeCall (cfg : Config) (s : State) (call : Call) (d : Draw) : State :=
  startCall cfg (s.begin call) s.nextCall d call

def settle (cfg : Config) (s : State) (c : Nat) (d : Draw) : Pending → RuntimeReply → Option State
  | .creating id tenantId, .created result => some (runtimeCreated cfg s c id tenantId result d)
  | .inspecting k r caller, .inspected result => some (runtimeInspected s c k r caller result)
  | .destroying k r, .destroyed result => some (runtimeDestroyed s c k r result)
  | .tabbing _ _, .tab (.ok reply) => some (s.answer c (.tab reply))
  | .tabbing _ _, .tab (.error e) => some (s.answer c (.rejected e))
  | _, _ => none

def resume (cfg : Config) (s : State) (c : Nat) (d : Draw) : Pending → Option State
  | .observed (.ok record) caller => some (resumeCaller cfg s c record d caller)
  | .observed (.error e) caller => some (rejectCaller s c e caller)
  | .activated (.ok resource) operation =>
    some ((s.record (.requested c (.tab resource operation))).park c (.tabbing resource operation))
  | .activated (.error e) _ => some (s.answer c (.rejected e))
  | _ => none

def step (cfg : Config) (s : State) : Event → Option State
  | .call call d => some (makeCall cfg s call d)
  | .settle c reply d => (s.calls.get c).bind fun p => settle cfg s c d p reply
  | .resume c d => (s.calls.get c).bind fun p => resume cfg s c d p

def machine (cfg : Config) : Machine State Event := ⟨State.initial, step cfg⟩

end Fireball.Session
