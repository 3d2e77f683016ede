import Fireball.Session.Types

/-!
# The Docker Engine

The containers and the networks that the Engine holds, as far as the orchestrator names
them, the responses of `docker-engine-transport.ts`, and what a call can come to: it
takes effect or not, and it is accepted or rejected, each independently of the other. A
call that timed out or whose response was lost can have taken effect.

The lemmas tell what each call does to the resources of one session.
-/

namespace Fireball.Docker

open Session (Thrown)

abbrev Labels := List (String × String)

structure Container where
  id : String
  name : String
  labels : Labels
  running : Bool
  deriving DecidableEq, Repr

structure Network where
  name : String
  labels : Labels
  deriving DecidableEq, Repr

structure Engine where
  containers : List Container
  networks : List Network
  deriving DecidableEq, Repr

/-! ## Responses -/

structure DockerEngineResponse where
  id : Option String
  deriving DecidableEq, Repr

structure PortBinding where
  hostIp : Option String
  hostPort : Option String
  deriving DecidableEq, Repr

structure Health where
  status : Option String
  deriving DecidableEq, Repr

structure ContainerState where
  health : Option Health
  deriving DecidableEq, Repr

structure NetworkSettings where
  ports : Option (List (String × Option (List PortBinding)))
  deriving DecidableEq, Repr

structure DockerContainerInspectResponse where
  state : Option ContainerState
  networkSettings : Option NetworkSettings
  deriving DecidableEq, Repr

/-! ## Resources -/

/-- The Engine knows a container by its id and by its name. -/
def Container.isAt (reference : String) (c : Container) : Bool :=
  c.id = reference || c.name = reference

def sessionLabel (sessionId : String) : String × String := ("dev.fireball.session", sessionId)

namespace Engine

def createNetwork (network : Network) (e : Engine) : Engine :=
  { e with networks := e.networks ++ [network] }

def createContainer (container : Container) (e : Engine) : Engine :=
  { e with containers := e.containers ++ [container] }

def startContainer (reference : String) (e : Engine) : Engine :=
  { e with containers := e.containers.map fun c =>
      if c.isAt reference then { c with running := true } else c }

def removeContainer (reference : String) (e : Engine) : Engine :=
  { e with containers := e.containers.filter fun c => !c.isAt reference }

def removeNetwork (name : String) (e : Engine) : Engine :=
  { e with networks := e.networks.filter fun n => n.name ≠ name }

/-- The containers labelled with the session id. -/
def containersOf (sessionId : String) (e : Engine) : List Container :=
  e.containers.filter fun c => sessionLabel sessionId ∈ c.labels

/-- The networks labelled with the session id. -/
def networksOf (sessionId : String) (e : Engine) : List Network :=
  e.networks.filter fun n => sessionLabel sessionId ∈ n.labels

section
variable {sessionId : String} (e : Engine)

@[simp] theorem containersOf_createNetwork (n : Network) :
    (e.createNetwork n).containersOf sessionId = e.containersOf sessionId := rfl

@[simp] theorem containersOf_removeNetwork (name : String) :
    (e.removeNetwork name).containersOf sessionId = e.containersOf sessionId := rfl

@[simp] theorem networksOf_createContainer (c : Container) :
    (e.createContainer c).networksOf sessionId = e.networksOf sessionId := rfl

@[simp] theorem networksOf_startContainer (reference : String) :
    (e.startContainer reference).networksOf sessionId = e.networksOf sessionId := rfl

@[simp] theorem networksOf_removeContainer (reference : String) :
    (e.removeContainer reference).networksOf sessionId = e.networksOf sessionId := rfl

theorem containersOf_createContainer {c : Container} (labelled : sessionLabel sessionId ∈ c.labels) :
    (e.createContainer c).containersOf sessionId = e.containersOf sessionId ++ [c] := by
  simp [containersOf, createContainer, labelled]

theorem networksOf_createNetwork {n : Network} (labelled : sessionLabel sessionId ∈ n.labels) :
    (e.createNetwork n).networksOf sessionId = e.networksOf sessionId ++ [n] := by
  simp [networksOf, createNetwork, labelled]

theorem containersOf_startContainer (reference : String) :
    (e.startContainer reference).containersOf sessionId = (e.containersOf sessionId).map fun c =>
      if c.isAt reference then { c with running := true } else c := by
  rw [containersOf, startContainer, List.filter_map]
  refine congrArg _ (List.filter_congr fun c _ => ?_)
  simp only [Function.comp]
  split <;> rfl

theorem containersOf_removeContainer (reference : String) :
    (e.removeContainer reference).containersOf sessionId =
      (e.containersOf sessionId).filter fun c => !c.isAt reference := by
  simp only [containersOf, removeContainer, List.filter_filter, Bool.and_comm]

theorem networksOf_removeNetwork (name : String) :
    (e.removeNetwork name).networksOf sessionId =
      (e.networksOf sessionId).filter fun n => n.name ≠ name := by
  simp only [networksOf, removeNetwork, List.filter_filter, Bool.and_comm]

end

end Engine

/-! ## Calls -/

/-- What one call comes to. -/
structure Behaviour (α : Type) where
  effective : Bool
  report : Except Thrown α

/-- The promise of the call is fulfilled. -/
def Behaviour.accepted {α : Type} (b : Behaviour α) : Bool := b.report.isOk

/-- The call takes effect exactly when it is accepted. -/
def Behaviour.Honest {α : Type} (b : Behaviour α) : Prop := b.effective = b.accepted

/-- The Engine after a call whose effect, if it has it, is `effect`. -/
def Behaviour.after {α : Type} (b : Behaviour α) (effect : Engine → Engine) (engine : Engine) : Engine :=
  if b.effective then effect engine else engine

end Fireball.Docker
