import Mathlib.Data.List.Basic

/-!
# The session domain

The records of `src/domain/types.ts`, the errors of `src/domain/errors.ts` and
the part of the runtime adapter interface that `SessionService` calls.
-/

namespace Fireball.Session

inductive ErrorCode
  | authRequired
  | authInvalid
  | sessionNotFound
  | sessionLimitReached
  | signalingCredentialInvalid
  | signalingUnavailable
  | tabNotFound
  | tabLimitReached
  | tabMinimumReached
  | tabUrlInvalid
  | tabRuntimeUnavailable
  | runtimeFailure
  | validationFailed
  deriving DecidableEq, Repr

structure OrchestratorError where
  code : ErrorCode
  message : String
  statusCode : Nat
  deriving DecidableEq, Repr

/-- What an awaited promise can be rejected with. The gateway asks of an error
only whether it is an `OrchestratorError`. -/
inductive Thrown
  | orchestrator (error : OrchestratorError)
  | other (message : String)
  deriving DecidableEq, Repr

inductive SessionPhase
  | starting | active | burning | failed
  deriving DecidableEq, Repr

structure TenantContext where
  tenantId : String
  subject : String
  deriving DecidableEq, Repr

structure SessionQuota where
  memoryMiB : Nat
  cpuShares : Nat
  pids : Nat
  deriving DecidableEq, Repr

structure HostCapacity extends SessionQuota where
  maximumSessions : Nat
  deriving DecidableEq, Repr

structure RuntimeResource where
  containerId : String
  containerName : String
  networkNamespace : String
  storageNamespace : String
  signalingEndpoint : String
  signalingSecret : String
  tabControlEndpoint : String
  deriving DecidableEq, Repr

structure TabView where
  id : String
  url : String
  createdAt : String
  active : Bool
  deriving DecidableEq, Repr

/-- `ref` is the identity of the JavaScript object: `===` on records compares
it, and every object literal makes a new one. -/
structure SessionRecord where
  ref : Nat
  id : String
  tenantId : String
  phase : SessionPhase
  createdAt : String
  quota : SessionQuota
  runtime : RuntimeResource
  failure : Option String
  deriving DecidableEq, Repr

structure SessionView where
  id : String
  phase : SessionPhase
  createdAt : String
  quota : SessionQuota
  failure : Option String
  deriving DecidableEq, Repr

structure SignalingTicketIssueResult where
  signalingTicket : String
  ticketExpiresInSeconds : Nat
  deriving DecidableEq, Repr

structure SignalingTokenExchangeResult where
  signalingToken : String
  tokenExpiresInSeconds : Nat
  deriving DecidableEq, Repr

structure SignalingAuthorization where
  sessionId : String
  tenantId : String
  runtime : RuntimeResource
  deriving DecidableEq, Repr

structure CreateRuntimeRequest where
  sessionId : String
  tenantId : String
  quota : SessionQuota
  deriving DecidableEq, Repr

/-- `[A-Za-z0-9_-]`. -/
def isBase64Url (c : Char) : Bool := c.isAlphanum || c = '_' || c = '-'

/-- `/^[A-Za-z0-9_-]{43}$/`, the pattern of every credential. -/
def isCredential (value : String) : Bool :=
  value.toList.length = 43 && value.toList.all isBase64Url

/-- The two texts an inspection may give for a runtime that is gone. -/
inductive RuntimeLoss
  | stoppedUnexpectedly
  | containerMissing
  deriving DecidableEq, Repr

def RuntimeLoss.text : RuntimeLoss → String
  | .stoppedUnexpectedly => "runtime stopped unexpectedly"
  | .containerMissing => "runtime container is missing"

inductive RuntimeInspection
  | running
  | failed (failure : RuntimeLoss)
  deriving DecidableEq, Repr

inductive TabOperation
  | listTabs
  | createTab (url : Option String)
  | activateTab (tabId : String)
  | navigateTab (tabId url : String)
  | deleteTab (tabId : String)
  deriving DecidableEq, Repr

inductive TabReply
  | tabs (views : List TabView)
  | tab (view : TabView)
  | deleted
  deriving DecidableEq, Repr

/-- A call of the runtime adapter. -/
inductive RuntimeRequest
  | create (request : CreateRuntimeRequest)
  | inspect (resource : RuntimeResource)
  | destroy (resource : RuntimeResource)
  | tab (resource : RuntimeResource) (operation : TabOperation)
  deriving DecidableEq, Repr

/-- How the promise of such a call settles. -/
inductive RuntimeReply
  | created (result : Except Thrown RuntimeResource)
  | inspected (result : Except Thrown RuntimeInspection)
  | destroyed (result : Except Thrown Unit)
  | tab (result : Except Thrown TabReply)

end Fireball.Session
