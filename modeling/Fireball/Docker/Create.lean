import Fireball.Docker.Engine
import Fireball.Foundation.Decimal

/-!
# `DockerEngineRuntime.create`

`create` of `src/runtime/docker-engine-runtime.ts`, its polling and its rollback. The body
of the container request is left out but for the labels, and so are the paths: each call
is known by its place in the function.
-/

namespace Fireball.Docker

open Foundation
open Session (CreateRuntimeRequest OrchestratorError RuntimeResource Thrown)

structure DockerEngineOptions where
  instanceId : String
  startupHealthAttempts : Nat
  deriving DecidableEq, Repr

/-- What the calls of one `create` come to. -/
structure Calls where
  createNetwork : Behaviour Unit
  createContainer : Behaviour DockerEngineResponse
  /-- The id that the Engine gives to the container. -/
  engineId : String
  start : Behaviour Unit
  /-- The reports of the polls, by the number of the attempt. A `GET` has no effect. -/
  inspect : Nat → Except Thrown DockerContainerInspectResponse
  removeContainer : Behaviour Unit
  removeNetwork : Behaviour Unit

def isolationLabels (input : CreateRuntimeRequest) (instanceId : String) : Labels := [
  ("dev.fireball.managed", "true"),
  ("dev.fireball.instance", instanceId),
  sessionLabel input.sessionId,
  ("dev.fireball.tenant", input.tenantId)]

def containerName (input : CreateRuntimeRequest) : String := "fireball-" ++ input.sessionId

def networkNamespace (input : CreateRuntimeRequest) : String := "fireball-net-" ++ input.sessionId

def errorMessage : Thrown → String
  | .orchestrator e => e.message
  | .other message => message

/-- `inspect.State?.Health?.Status`. -/
def DockerContainerInspectResponse.status (inspect : DockerContainerInspectResponse) : Option String :=
  (inspect.state.bind (·.health)).bind (·.status)

/-- The loop of `waitForHealthy` at an attempt, with some attempts left. -/
def waitForHealthy (inspect : Nat → Except Thrown DockerContainerInspectResponse) (attempt : Nat) :
    Nat → Except Thrown DockerContainerInspectResponse
  | 0 => .error (.other "session container startup health check timed out")
  | left + 1 => match inspect attempt with
    | .error e => .error e
    | .ok response =>
      if response.status = some "healthy" then .ok response
      else if response.status ≠ some "starting" then
        .error (.other (if response.status = some "unhealthy"
          then "session container failed its startup health check"
          else "session image does not expose a Docker health check"))
      else waitForHealthy inspect (attempt + 1) left

def publishedSignalingPort (inspect : DockerContainerInspectResponse) : Except Thrown Nat :=
  let bindings := do (← (← inspect.networkSettings).ports).lookup "8444/tcp"
  match bindings.join.bind List.head? with
  | some ⟨some hostIp, some raw⟩ =>
    if hostIp ≠ "127.0.0.1" || !isPort raw.toList then
      .error (.other "Docker did not publish the internal signaling port")
    else if Nat.ofDigitChars 10 raw.toList 0 > 65535 then .error (.other "Docker returned an invalid signaling port")
    else .ok (Nat.ofDigitChars 10 raw.toList 0)
  | _ => .error (.other "Docker did not publish the internal signaling port")

/-- The variables that the rollback reads. -/
structure Progress where
  containerCreated : Bool
  containerId : Option String
  deriving DecidableEq, Repr

/-- The `try` block: the Engine after it, how far it came, and how it ended. -/
def launch (options : DockerEngineOptions) (input : CreateRuntimeRequest) (signalingSecret : String)
    (calls : Calls) (engine : Engine) : Engine × Progress × Except Thrown RuntimeResource :=
  let engine := calls.createContainer.after
    (·.createContainer ⟨calls.engineId, containerName input, isolationLabels input options.instanceId, false⟩)
    engine
  match calls.createContainer.report with
  | .error e => (engine, ⟨false, none⟩, .error e)
  | .ok response => match response.id.filter (· ≠ "") with
    | none => (engine, ⟨true, none⟩, .error (.other "Docker did not return a container id"))
    | some containerId =>
      (calls.start.after (·.startContainer containerId) engine, ⟨true, some containerId⟩, do
        let _ ← calls.start.report
        let inspect ← waitForHealthy calls.inspect 1 options.startupHealthAttempts
        let signalingPort ← publishedSignalingPort inspect
        return {
          containerId
          containerName := containerName input
          networkNamespace := networkNamespace input
          storageNamespace := "/run/fireball-session:" ++ containerId
          signalingEndpoint := "ws://127.0.0.1:" ++ toString signalingPort ++ "/internal/v1/signaling"
          signalingSecret
          tabControlEndpoint := "http://127.0.0.1:" ++ toString signalingPort ++ "/internal/v1/tabs" })

/-- What `create` rejects with, and the failures of the rollback that its message reports. -/
structure Rejection where
  error : Thrown
  rollbackFailures : List String
  deriving DecidableEq, Repr

def Behaviour.failures {α : Type} (b : Behaviour α) : List String :=
  match b.report with
  | .error e => [errorMessage e]
  | .ok _ => []

/-- The `catch` block. -/
def rollback (input : CreateRuntimeRequest) (calls : Calls) (progress : Progress) (error : Thrown)
    (engine : Engine) : Engine × Rejection :=
  let containerReference := progress.containerId.getD (containerName input)
  let removed := if progress.containerCreated
    then calls.removeContainer.after (·.removeContainer containerReference) engine else engine
  let rollbackFailures :=
    (if progress.containerCreated then calls.removeContainer.failures else []) ++ calls.removeNetwork.failures
  let thrown : Thrown := if rollbackFailures ≠ [] then
      .orchestrator ⟨.runtimeFailure,
        errorMessage error ++ "; rollback failed: " ++ "; ".intercalate rollbackFailures, 503⟩
    else match error with
      | .orchestrator e => .orchestrator e
      | .other message => .orchestrator ⟨.runtimeFailure, message, 503⟩
  (calls.removeNetwork.after (·.removeNetwork (networkNamespace input)) removed, ⟨thrown, rollbackFailures⟩)

def create (options : DockerEngineOptions) (input : CreateRuntimeRequest) (signalingSecret : String)
    (calls : Calls) (engine : Engine) : Engine × Except Rejection RuntimeResource :=
  let engine := calls.createNetwork.after
    (·.createNetwork ⟨networkNamespace input, isolationLabels input options.instanceId⟩) engine
  match calls.createNetwork.report with
  | .error e => (engine, .error ⟨e, []⟩)
  | .ok _ => match launch options input signalingSecret calls engine with
    | (engine, _, .ok resource) => (engine, .ok resource)
    | (engine, progress, .error e) =>
      ((rollback input calls progress e engine).1, .error (rollback input calls progress e engine).2)

end Fireball.Docker
