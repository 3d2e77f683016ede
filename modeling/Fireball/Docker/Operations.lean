import Fireball.Docker.Restart
import Fireball.Foundation.Machine

/-!
# Operations in flight

`create`, `destroy` and `reconcile` of several orchestrators at once: their calls reach the
Engine in any order, and an operation ends between two of its calls when its orchestrator
dies.

* `run_under`: an operation alone, from first to last;
* `sound_own`: what a sound operation does is its instance's own;
* `settled_run`: the operations in flight keep the Engine in order;
* `operations_apart`: they leave everyone else alone;
* `restart_clears`: what `reconcile` leaves of the operations before it.
-/

namespace Fireball.Docker

open Foundation
open Session (CreateRuntimeRequest RuntimeResource Thrown)

/-- What an operation is settled with. -/
inductive Answer
  | created (result : Except Rejection RuntimeResource)
  | destroyed (result : Except Thrown Unit)
  | reconciled (result : Except Thrown ReconciliationResult)
  deriving DecidableEq

/-- The requests of `reconcile` at the Engine: the deletions, from number `n` on, take
effect or not. -/
def Engine.serve (dir : Directory) (took : Nat → Bool) : Nat → List Request → Engine → Engine
  | _, [], e => e
  | n, .removeContainer id :: rest, e =>
    serve dir took (n + 1) rest (if took n then e.removeContainer id else e)
  | n, .removeNetwork id :: rest, e =>
    serve dir took (n + 1) rest (if took n then e.deleteNetwork dir id else e)
  | n, .listContainers :: rest, e | n, .listNetworks :: rest, e => serve dir took n rest e

inductive Operation
  | create (options : DockerEngineOptions) (input : CreateRuntimeRequest) (signalingSecret : String)
      (calls : Calls)
  | destroy (instanceId : String) (resource : RuntimeResource) (removeContainer removeNetwork : Behaviour Unit)
  | reconcile (instanceId : String) (reports : Reports) (took : Nat → Bool)

namespace Operation

def instanceId : Operation → String
  | .create options _ _ _ => options.instanceId
  | .destroy instanceId _ _ _ => instanceId
  | .reconcile instanceId _ _ => instanceId

def effects : Operation → List Effect
  | .create options input signalingSecret calls => createEffects options input signalingSecret calls
  | .destroy _ resource removeContainer removeNetwork => destroyEffects resource removeContainer removeNetwork
  | .reconcile instanceId reports took => reconcileEffects instanceId reports took

/-- What the operation is settled with: the reports of its calls decide it, whatever the
Engine has. -/
def answer : Operation → Answer
  | .create options input signalingSecret calls =>
    .created (Docker.create options input signalingSecret calls ⟨[], []⟩).2
  | .destroy _ resource removeContainer removeNetwork =>
    .destroyed (Docker.destroy resource removeContainer removeNetwork ⟨[], []⟩).2
  | .reconcile instanceId reports _ => .reconciled (Docker.reconcile instanceId reports).2

/-- The function of the operation on an Engine that nothing else touches. -/
def run (dir : Directory) : Operation → Engine → Engine × Answer
  | .create options input signalingSecret calls, e =>
    let (e', result) := Docker.create options input signalingSecret calls e
    (e', .created result)
  | .destroy _ resource removeContainer removeNetwork, e =>
    let (e', result) := Docker.destroy resource removeContainer removeNetwork e
    (e', .destroyed result)
  | .reconcile instanceId reports took, e =>
    let (requests, result) := Docker.reconcile instanceId reports
    (e.serve dir took 0 requests, .reconciled result)

end Operation

/-! ## Traffic -/

/-- An operation on its way: what it has still to do to the Engine, and what it will answer. -/
structure Flight where
  instanceId : String
  rest : List Effect
  answer : Answer

/-- The Engine, the operations on their way, and what each instance has been answered. -/
structure Traffic where
  engine : Engine
  flights : List Flight
  answers : List (String × Answer)

inductive TrafficEvent
  | start (operation : Operation)
  | proceed (n : Nat)
  | cutOff (n : Nat)

/-- The flight takes its next effect, or answers. -/
def Flight.proceed (dir : Directory) (n : Nat) (t : Traffic) : Flight → Traffic
  | ⟨instanceId, effect :: rest, answer⟩ =>
    { t with
      engine := effect.apply dir instanceId t.engine
      flights := t.flights.set n ⟨instanceId, rest, answer⟩ }
  | ⟨instanceId, [], answer⟩ =>
    { t with
      flights := t.flights.eraseIdx n
      answers := t.answers ++ [(instanceId, answer)] }

def traffic (dir : Directory) (e : Engine) : Machine Traffic TrafficEvent where
  init := ⟨e, [], []⟩
  step t
    | .start operation =>
      some { t with flights := t.flights ++ [⟨operation.instanceId, operation.effects, operation.answer⟩] }
    | .proceed n => t.flights[n]?.map (Flight.proceed dir n t)
    | .cutOff n => t.flights[n]?.map fun _ => { t with flights := t.flights.eraseIdx n }

/-- What each operation may rely on: the Engine gives an id once, `destroy` is called with
what a `create` has returned, and a list is one that an Engine in order has answered. -/
def Operation.Sound (dir : Directory) (t : Traffic) : Operation → Prop
  | .create options input _ calls => Entrusted dir options.instanceId input calls
  | .destroy instanceId resource _ _ => (instanceId, .created (.ok resource)) ∈ t.answers
  | .reconcile instanceId reports _ =>
    (∀ containers, reports.containers = .ok (.array containers) →
      ∃ seen, Orderly dir seen ∧ ListsContainers instanceId seen containers) ∧
    ∀ networks, reports.networks = .ok (.array networks) →
      ∃ seen, Orderly dir seen ∧ ListsNetworks dir instanceId seen networks

def TrafficEvent.Sound (dir : Directory) (t : Traffic) : TrafficEvent → Prop
  | .start operation => operation.Sound dir t
  | _ => True

/-- The instance whose operation the event is of. -/
def TrafficEvent.instanceId (t : Traffic) : TrafficEvent → Option String
  | .start operation => some operation.instanceId
  | .proceed n => t.flights[n]?.map Flight.instanceId
  | .cutOff n => t.flights[n]?.map Flight.instanceId

/-! ## One operation -/

section
variable {dir : Directory} {e : Engine} {t : Traffic} {operation : Operation}

/-- The promise of `create` is settled alike on every Engine. -/
theorem create_ends (options : DockerEngineOptions) (input : CreateRuntimeRequest) (signalingSecret : String)
    (calls : Calls) (e e' : Engine) :
    (create options input signalingSecret calls e).2 = (create options input signalingSecret calls e').2 := by
  unfold create
  cases calls.createNetwork.report with
  | error error => rfl
  | ok _ =>
    dsimp only
    generalize calls.createNetwork.after _ e = first
    generalize calls.createNetwork.after _ e' = second
    have progress : (launch options input signalingSecret calls first).2.1 =
        (launch options input signalingSecret calls second).2.1 := launch_progress.trans launch_progress.symm
    have ends : (launch options input signalingSecret calls first).2.2 =
        (launch options input signalingSecret calls second).2.2 := launch_ends first second
    generalize launch options input signalingSecret calls first = here at progress ends ⊢
    generalize launch options input signalingSecret calls second = there at progress ends ⊢
    obtain ⟨after, known, result⟩ := here
    obtain ⟨after', known', result'⟩ := there
    cases progress
    cases ends
    cases result with
    | ok resource => rfl
    | error error => rfl

/-- What an operation answers does not depend on the Engine. -/
theorem answer_run (operation : Operation) (dir : Directory) (e : Engine) :
    operation.answer = (operation.run dir e).2 := by
  cases operation with
  | create options input signalingSecret calls =>
    exact congrArg Answer.created (create_ends options input signalingSecret calls ⟨[], []⟩ e)
  | destroy | reconcile => rfl

/-- The requests of `reconcile`, and the effects that they have. -/
theorem serve_under (instanceId : String) (took : Nat → Bool) (n : Nat) (requests : List Request) :
    e.serve dir took n requests = e.under dir instanceId (taking took n (requests.filterMap Request.effect)) := by
  induction requests generalizing n e with
  | nil => rfl
  | cons request rest ih =>
    have taken : ∀ effect : Effect, (if took n then effect.apply dir instanceId e else e).under dir instanceId
          (taking took (n + 1) (rest.filterMap Request.effect)) =
        e.under dir instanceId (taking took n (effect :: rest.filterMap Request.effect)) := by
      intro effect
      rw [taking]
      split
      · rfl
      · rfl
    cases request with
    | listContainers | listNetworks => exact ih n
    | removeContainer id => exact (ih (n + 1)).trans (taken (.removeContainer id))
    | removeNetwork id => exact (ih (n + 1)).trans (taken (.removeNetwork id))

/-- What is known of an answer that a `create` was settled with. -/
def Answer.Safe (dir : Directory) (instanceId : String) (answer : Answer) : Prop :=
  ∀ resource, answer = .created (.ok resource) → Granted dir instanceId resource

/-- What is known of a flight from its start on. -/
structure Flight.Safe (dir : Directory) (flight : Flight) : Prop where
  own : ∀ effect ∈ flight.rest, dir.Own flight.instanceId effect
  granted : flight.answer.Safe dir flight.instanceId

/-- A sound operation does nothing but what is its instance's own. -/
theorem sound_own (answers : ∀ pair ∈ t.answers, pair.2.Safe dir pair.1) (sound : operation.Sound dir t) :
    ∀ effect ∈ operation.effects, dir.Own operation.instanceId effect := by
  cases operation with
  | create options input signalingSecret calls => exact createEffects_own sound
  | destroy instanceId resource removeContainer removeNetwork => exact destroyEffects_own (answers _ sound resource rfl)
  | reconcile instanceId reports took => exact reconcileEffects_own sound.1 sound.2

theorem sound_safe (answers : ∀ pair ∈ t.answers, pair.2.Safe dir pair.1) (sound : operation.Sound dir t) :
    Flight.Safe dir ⟨operation.instanceId, operation.effects, operation.answer⟩ := by
  refine ⟨sound_own answers sound, ?_⟩
  intro resource answered
  cases operation with
  | create options input signalingSecret calls =>
    injection answered with created
    exact create_granted sound created
  | destroy | reconcile => cases answered

/-- **One operation** alone, from its first call to its last. -/
theorem run_under (orderly : Orderly dir e) (answers : ∀ pair ∈ t.answers, pair.2.Safe dir pair.1)
    (sound : operation.Sound dir t) :
    (operation.run dir e).1 = e.under dir operation.instanceId operation.effects := by
  cases operation with
  | create options input signalingSecret calls => exact create_under orderly sound
  | destroy instanceId resource removeContainer removeNetwork =>
    exact destroy_under orderly (answers _ sound resource rfl)
  | reconcile instanceId reports took => exact serve_under instanceId took 0 _

end

/-! ## Interleavings -/

/-- What all operations in flight keep. -/
structure TrafficWf (dir : Directory) (t : Traffic) : Prop where
  orderly : Orderly dir t.engine
  flights : ∀ flight ∈ t.flights, flight.Safe dir
  answers : ∀ pair ∈ t.answers, pair.2.Safe dir pair.1

section
variable {dir : Directory} {e₀ : Engine} {t t' : Traffic} {event : TrafficEvent}

/-- **A step** of a flight. -/
theorem settled_proceed {n : Nat} {flight : Flight} (settled : TrafficWf dir t) (there : t.flights[n]? = some flight) :
    TrafficWf dir (flight.proceed dir n t) := by
  have safe := settled.flights flight (List.mem_of_getElem? there)
  obtain ⟨instanceId, rest, answer⟩ := flight
  cases rest with
  | nil =>
    refine ⟨settled.orderly, ?_, ?_⟩
    · intro other mem
      exact settled.flights other (List.mem_of_mem_eraseIdx mem)
    · intro pair mem
      rcases List.mem_append.mp mem with old | new
      · exact settled.answers pair old
      · cases List.mem_singleton.mp new
        exact safe.granted
  | cons effect rest =>
    have own := safe.own effect List.mem_cons_self
    refine ⟨orderly_apply settled.orderly own, ?_, settled.answers⟩
    intro other mem
    rcases List.mem_or_eq_of_mem_set mem with old | rfl
    · exact settled.flights other old
    · refine ⟨?_, safe.granted⟩
      intro later mem
      exact safe.own later (List.mem_cons_of_mem effect mem)

theorem settled_step (settled : TrafficWf dir t) (sound : event.Sound dir t)
    (step : (traffic dir e₀).step t event = some t') : TrafficWf dir t' := by
  cases event with
  | start operation =>
    cases step
    refine ⟨settled.orderly, ?_, settled.answers⟩
    intro flight mem
    rcases List.mem_append.mp mem with old | new
    · exact settled.flights flight old
    · cases List.mem_singleton.mp new
      exact sound_safe settled.answers sound
  | proceed n =>
    obtain ⟨flight, there, rfl⟩ := Option.map_eq_some_iff.mp step
    exact settled_proceed settled there
  | cutOff n =>
    obtain ⟨flight, there, rfl⟩ := Option.map_eq_some_iff.mp step
    refine ⟨settled.orderly, ?_, settled.answers⟩
    intro other mem
    exact settled.flights other (List.mem_of_mem_eraseIdx mem)

theorem settled_run (orderly : Orderly dir e₀)
    (run : (traffic dir e₀).Reachable (TrafficEvent.Sound dir) t) : TrafficWf dir t := by
  apply run.invariant
  · refine ⟨orderly, ?_, ?_⟩
    · intro flight mem
      cases mem
    · intro pair mem
      cases mem
  · intro s event s' _ inv sound step
    exact settled_step inv sound step

/-- **An event** of another instance. -/
theorem step_others {owner : Option String} (settled : TrafficWf dir t) (other : event.instanceId t ≠ owner)
    (step : (traffic dir e₀).step t event = some t') : SameFor owner t.engine t'.engine := by
  cases event with
  | start operation =>
    cases step
    exact sameFor_refl owner t.engine
  | cutOff n =>
    obtain ⟨flight, there, rfl⟩ := Option.map_eq_some_iff.mp step
    exact sameFor_refl owner t.engine
  | proceed n =>
    obtain ⟨⟨instanceId, rest, result⟩, there, rfl⟩ := Option.map_eq_some_iff.mp step
    cases rest with
    | nil => exact sameFor_refl owner t.engine
    | cons effect rest =>
      have safe := settled.flights _ (List.mem_of_getElem? there)
      have whose : (TrafficEvent.proceed n).instanceId t = some instanceId := by
        simp [TrafficEvent.instanceId, there]
      rw [whose] at other
      exact others_apply settled.orderly (safe.own effect List.mem_cons_self) (Ne.symm other)

/-- The last flight takes its effects one after the other, and answers. -/
theorem alone_proceeds (flights : List Flight) (effects : List Effect) (instanceId : String)
    (answer : Answer) (e : Engine) (answers : List (String × Answer)) :
    (traffic dir e₀).runFrom ⟨e, flights ++ [⟨instanceId, effects, answer⟩], answers⟩
        (List.replicate (effects.length + 1) (.proceed flights.length)) =
      some ⟨e.under dir instanceId effects, flights, answers ++ [(instanceId, answer)]⟩ := by
  induction effects generalizing e with
  | nil =>
    have there : (flights ++ [⟨instanceId, [], answer⟩])[flights.length]? =
        some (⟨instanceId, [], answer⟩ : Flight) := List.getElem?_concat_length
    have gone : (flights ++ [(⟨instanceId, [], answer⟩ : Flight)]).eraseIdx flights.length = flights := by
      rw [List.eraseIdx_append_of_length_le (Nat.le_refl _), Nat.sub_self]
      exact List.append_nil flights
    simp only [List.length_nil, Nat.zero_add, List.replicate_one, Machine.runFrom, traffic, there,
      Option.map_some, Flight.proceed, gone, Option.bind_some]
    rfl
  | cons effect rest ih =>
    have there : (flights ++ [⟨instanceId, effect :: rest, answer⟩])[flights.length]? =
        some (⟨instanceId, effect :: rest, answer⟩ : Flight) := List.getElem?_concat_length
    have next : (flights ++ [(⟨instanceId, effect :: rest, answer⟩ : Flight)]).set flights.length
        ⟨instanceId, rest, answer⟩ = flights ++ [⟨instanceId, rest, answer⟩] := by
      rw [List.set_append_right _ _ (Nat.le_refl _), Nat.sub_self]
      rfl
    have first : (traffic dir e₀).step ⟨e, flights ++ [⟨instanceId, effect :: rest, answer⟩], answers⟩
        (.proceed flights.length) = some ⟨effect.apply dir instanceId e,
          flights ++ [⟨instanceId, rest, answer⟩], answers⟩ := by
      simp only [traffic, there, Option.map_some, Flight.proceed, next]
    rw [List.length_cons, List.replicate_succ, Machine.runFrom, first]
    exact ih (effect.apply dir instanceId e)

end

/-- **Orchestrators apart.** However the calls of `create`, `destroy` and `reconcile` of
several orchestrators come to the Engine, and wherever an operation is cut off: what one
instance has there, and what belongs to none of them, stays through whatever the others do.
An operation that nothing comes between leaves the Engine and answers as its function does. -/
theorem operations_apart {dir : Directory} {e₀ : Engine} {t : Traffic} (orderly : Orderly dir e₀)
    (reached : (traffic dir e₀).Reachable (TrafficEvent.Sound dir) t) :
    (∀ t' owner, (traffic dir e₀).Reaches
        (fun t event => event.Sound dir t ∧ event.instanceId t ≠ owner) t t' →
      SameFor owner t.engine t'.engine) ∧
    ∀ operation : Operation, operation.Sound dir t →
      (traffic dir e₀).runFrom t
          (.start operation :: List.replicate (operation.effects.length + 1) (.proceed t.flights.length)) =
        some ⟨(operation.run dir t.engine).1, t.flights,
          t.answers ++ [(operation.instanceId, (operation.run dir t.engine).2)]⟩ := by
  have settled := settled_run orderly reached
  constructor
  · intro t' owner run
    have both : TrafficWf dir t' ∧ SameFor owner t.engine t'.engine := by
      apply run.invariant
      · exact ⟨settled, sameFor_refl owner t.engine⟩
      · rintro s event s' - ⟨inv, same⟩ ⟨sound, other⟩ step
        exact ⟨settled_step inv sound step, same.trans (step_others inv other step)⟩
    exact both.2
  · intro operation sound
    rw [run_under settled.orderly settled.answers sound, ← answer_run]
    exact alone_proceeds t.flights operation.effects operation.instanceId operation.answer t.engine t.answers

/-- An id of the Engine. -/
def engineId (digit : Char) : String := String.ofList (List.replicate 64 digit)

/-- One session of one instance. -/
def sampleDirectory : Directory where
  session sessionId := if sessionId = sampleRequest.sessionId then some "test-instance" else none
  container id := if id = engineId 'c' then some "test-instance" else none
  network id := if id = engineId 'e' then some "test-instance" else none
  networkId _ := engineId 'e'

/-- `smooth`, with an id of the Engine. -/
def sampleCalls : Calls :=
  { smooth with createContainer := ⟨true, .ok ⟨some (engineId 'c')⟩⟩, engineId := engineId 'c' }

def sampleCreate : Operation := .create ⟨"test-instance", 60⟩ sampleRequest "secret" sampleCalls

theorem isEngineId_engineId {digit : Char} (hex : digit.isDigit || ('a' ≤ digit && digit ≤ 'f')) :
    isEngineId (engineId digit) = true := by
  simpa [isEngineId, engineId, String.toList_ofList] using hex

theorem orderly_empty (dir : Directory) : Orderly dir ⟨[], []⟩ := by
  constructor <;> exact fun _ mem => absurd mem List.not_mem_nil

theorem sample_entrusted : Entrusted sampleDirectory "test-instance" sampleRequest sampleCalls where
  session := by simp [sampleDirectory]
  networkId := isEngineId_engineId (by decide)
  network := by simp [sampleDirectory]
  engineId := isEngineId_engineId (by decide)
  container := by simp [sampleDirectory, sampleCalls]
  named id reported := by
    have given : sampleCalls.reportedId = some (engineId 'c') := by
      simp [Calls.reportedId, sampleCalls, engineId, Option.filter]
    rw [given] at reported
    cases reported
    rfl

def sampleResource : RuntimeResource where
  containerId := engineId 'c'
  containerName := containerName sampleRequest
  networkNamespace := networkNamespace sampleRequest
  storageNamespace := "/run/fireball-session:" ++ engineId 'c'
  signalingEndpoint := "ws://127.0.0.1:49152/internal/v1/signaling"
  signalingSecret := "secret"
  tabControlEndpoint := "http://127.0.0.1:49152/internal/v1/tabs"

def sampleDestroy : Operation := .destroy "test-instance" sampleResource ⟨true, .ok ()⟩ ⟨true, .ok ()⟩

theorem admits_proceeds (dir : Directory) (e₀ : Engine) (t : Traffic) (n k : Nat) :
    (traffic dir e₀).Admits (TrafficEvent.Sound dir) t (List.replicate k (.proceed n)) := by
  induction k generalizing t with
  | zero => trivial
  | succ k ih => exact ⟨trivial, fun t' _ => ih t'⟩

/-- Another instance sees nothing of the first call of a `create`; the `create` alone is
answered with its resource, and the `destroy` of that leaves nothing. -/
theorem operations_apart_create :
    SameFor (some "other-instance") ⟨[], []⟩
      (Effect.apply sampleDirectory "test-instance" ⟨[], []⟩ (.createNetwork sampleRequest)) ∧
    ∃ t, (traffic sampleDirectory ⟨[], []⟩).runFrom ⟨⟨[], []⟩, [], []⟩
        (.start sampleCreate :: List.replicate (sampleCreate.effects.length + 1) (.proceed 0)) = some t ∧
      t.answers = [("test-instance", .created (.ok sampleResource))] ∧
      (traffic sampleDirectory ⟨[], []⟩).runFrom t
          (.start sampleDestroy :: List.replicate (sampleDestroy.effects.length + 1) (.proceed 0)) =
        some ⟨⟨[], []⟩, [], [("test-instance", .created (.ok sampleResource)),
          ("test-instance", .destroyed (.ok ()))]⟩ := by
  have both := operations_apart (t := ⟨⟨[], []⟩, [], []⟩) (orderly_empty sampleDirectory) .refl
  constructor
  · have first : (traffic sampleDirectory ⟨[], []⟩).Reaches (fun t event =>
        event.Sound sampleDirectory t ∧ event.instanceId t ≠ some "other-instance") ⟨⟨[], []⟩, [], []⟩
        ⟨⟨[], []⟩, [⟨"test-instance", sampleCreate.effects, sampleCreate.answer⟩], []⟩ :=
      Machine.Reaches.refl.step (e := .start sampleCreate) ⟨sample_entrusted, by decide⟩ rfl
    exact both.1 _ _ (first.step (e := .proceed 0) ⟨trivial, by decide⟩ rfl)
  · have created := both.2 sampleCreate sample_entrusted
    have answer : (sampleCreate.run sampleDirectory ⟨[], []⟩).2 = .created (.ok sampleResource) := by
      decide +kernel
    have admitted : (traffic sampleDirectory ⟨[], []⟩).Admits (TrafficEvent.Sound sampleDirectory) ⟨⟨[], []⟩, [], []⟩
        (.start sampleCreate :: List.replicate (sampleCreate.effects.length + 1) (.proceed 0)) :=
      ⟨sample_entrusted, fun t _ => admits_proceeds sampleDirectory ⟨[], []⟩ t 0 _⟩
    have reached := Machine.reaches_of_runs admitted created
    refine ⟨_, created, by rw [answer]; rfl, ?_⟩
    have sound : sampleDestroy.Sound sampleDirectory ⟨(sampleCreate.run sampleDirectory ⟨[], []⟩).1, [],
        [("test-instance", (sampleCreate.run sampleDirectory ⟨[], []⟩).2)]⟩ := by
      rw [answer]
      exact List.mem_singleton_self _
    have destroyed := (operations_apart (orderly_empty sampleDirectory) reached).2 sampleDestroy sound
    have ends : sampleDestroy.run sampleDirectory (sampleCreate.run sampleDirectory ⟨[], []⟩).1 =
        (⟨[], []⟩, .destroyed (.ok ())) := by
      decide +kernel
    rw [answer, ends] at destroyed
    exact destroyed

/-- **A restart.** Whatever operations of any orchestrator have come before, and wherever
they were cut off: `reconcile` leaves everyone else's resources alone, and of its own
instance's just those whose deletion fails; when it succeeds, and the orchestrator goes on
to listen, nothing of the instance is left. -/
theorem restart_clears {dir : Directory} {instanceId : String} {reports : Reports} {took : Nat → Bool}
    {e₀ : Engine} {t : Traffic} {containers networks : List Json} (orderly : Orderly dir e₀)
    (reached : (traffic dir e₀).Reachable (TrafficEvent.Sound dir) t)
    (lists : Lists dir instanceId t.engine containers networks)
    (listed : reports.containers = .ok (.array containers)) (listed' : reports.networks = .ok (.array networks))
    (honest : ∀ n, (reports.deletion n).isOk = true → took n = true) :
    (∀ owner, owner ≠ some instanceId → SameFor owner t.engine (reconciled dir instanceId reports took t.engine)) ∧
    (∀ c ∈ (reconciled dir instanceId reports took t.engine).containersBy (some instanceId),
      ∃ n error, reports.deletion n = .error error ∧
        (deletions instanceId containers networks)[n]? = some ("container", c.id)) ∧
    (∀ x ∈ (reconciled dir instanceId reports took t.engine).networksBy (some instanceId),
      ∃ n error, reports.deletion n = .error error ∧
        (deletions instanceId containers networks)[n]? = some ("network", dir.networkId x.name)) ∧
    ∀ result, (reconcile instanceId reports).2 = .ok result →
      (reconciled dir instanceId reports took t.engine).containersBy (some instanceId) = [] ∧
      (reconciled dir instanceId reports took t.engine).networksBy (some instanceId) = [] ∧
      result = ⟨(t.engine.containersBy (some instanceId)).length, (t.engine.networksBy (some instanceId)).length⟩ := by
  have orderly' := (settled_run orderly reached).orderly
  have containersLeft : ∀ c ∈ (reconciled dir instanceId reports took t.engine).containersBy (some instanceId),
      ∃ n error, reports.deletion n = .error error ∧
        (deletions instanceId containers networks)[n]? = some ("container", c.id) := fun _ left =>
    container_left orderly' lists listed listed' honest left
  have networksLeft : ∀ x ∈ (reconciled dir instanceId reports took t.engine).networksBy (some instanceId),
      ∃ n error, reports.deletion n = .error error ∧
        (deletions instanceId containers networks)[n]? = some ("network", dir.networkId x.name) := fun _ left =>
    network_left orderly' lists listed listed' honest left
  have own : ∀ effect ∈ reconcileEffects instanceId reports took, dir.Own instanceId effect := reconcileEffects_own
    (fun other list => ⟨t.engine, orderly', by rw [listed] at list; cases list; exact lists.containers⟩)
    (fun other list => ⟨t.engine, orderly', by rw [listed'] at list; cases list; exact lists.networks⟩)
  refine ⟨fun owner other => under_others orderly' own other, containersLeft, networksLeft, ?_⟩
  intro result settled
  obtain ⟨accepted, counts⟩ := (reconcile_outcome listed listed').2 result settled
  have all : ∀ n kind id, (deletions instanceId containers networks)[n]? = some (kind, id) →
      (reports.deletion n).isOk = true := by
    intro n kind id sent
    apply accepted
    have below := (List.getElem?_eq_some_iff.mp sent).1
    rwa [deletions_length] at below
  refine ⟨List.eq_nil_iff_forall_not_mem.mpr fun c left => ?_,
    List.eq_nil_iff_forall_not_mem.mpr fun x left => ?_, ?_⟩
  · obtain ⟨n, error, failed, sent⟩ := containersLeft c left
    have ok := all n _ _ sent
    rw [failed] at ok
    cases ok
  · obtain ⟨n, error, failed, sent⟩ := networksLeft x left
    have ok := all n _ _ sent
    rw [failed] at ok
    cases ok
  · have ids := listed_containers orderly' lists.containers
    have ids' := listed_networks orderly' lists.networks
    rw [counts, ids.length_eq, ids'.length_eq, List.length_map, List.length_map]

/-- An element of a list of the Engine. -/
def listed (id : String) : Json :=
  .object [("Id", .string id),
    ("Labels", .object ((isolationLabels sampleRequest "test-instance").map fun p => (p.1, .string p.2)))]

theorem field_labels (labels : Labels) (key : String) :
    Json.field (labels.map fun p => (p.1, Json.string p.2)) key = (labels.lookup key).map Json.string := by
  induction labels with
  | nil => rfl
  | cons label rest ih =>
    obtain ⟨name, value⟩ := label
    rw [Json.field] at ih ⊢
    rw [List.map_cons, lookupEntry, List.lookup_cons]
    by_cases same : name = key
    · cases same
      simp
    · have other : (key == name) = false := by simpa using Ne.symm same
      rw [if_neg same, other, ih]

theorem listed_describes (id : String) :
    Describes (listed id) id (isolationLabels sampleRequest "test-instance") :=
  ⟨_, _, rfl, by simp [Json.field, lookupEntry], by simp [Json.field, lookupEntry], field_labels _⟩

/-- `sampleCreate` is cut off after the network; the next call of `reconcile` removes it. -/
theorem restart_clears_network :
    (reconciled sampleDirectory "test-instance"
        ⟨.ok (.array []), .ok (.array [listed (engineId 'e')]), fun _ => .ok ()⟩ (fun _ => true)
        ⟨[], [⟨networkNamespace sampleRequest, isolationLabels sampleRequest "test-instance"⟩]⟩).networksBy
      (some "test-instance") = [] := by
  let reports : Reports := ⟨.ok (.array []), .ok (.array [listed (engineId 'e')]), fun _ => .ok ()⟩
  have started : (traffic sampleDirectory ⟨[], []⟩).Reachable (TrafficEvent.Sound sampleDirectory)
      ⟨⟨[], []⟩, [⟨"test-instance", sampleCreate.effects, sampleCreate.answer⟩], []⟩ :=
    Machine.Reaches.refl.step (e := .start sampleCreate) sample_entrusted rfl
  have connected := started.step (e := .proceed 0) (by trivial) rfl
  have cut := connected.step (e := .cutOff 0) (by trivial) rfl
  have lists : Lists sampleDirectory "test-instance"
      ⟨[], [⟨networkNamespace sampleRequest, isolationLabels sampleRequest "test-instance"⟩]⟩
      [] [listed (engineId 'e')] := by
    have own := instanceOf_isolationLabels sampleRequest "test-instance"
    constructor
    · exact ⟨[], .nil, .refl _⟩
    · refine ⟨[⟨networkNamespace sampleRequest, isolationLabels sampleRequest "test-instance"⟩],
        .cons (listed_describes _) .nil, ?_⟩
      simp [Engine.networksBy, own]
  have accepted : ∀ n, (reports.deletion n).isOk = true → (fun _ : Nat => true) n = true := fun _ _ => rfl
  have none : reports.containers = .ok (.array []) := rfl
  have cleared := restart_clears (orderly_empty sampleDirectory) cut lists none rfl accepted
  have owned : managedResourceId (listed (engineId 'e')) "test-instance" = some (engineId 'e') :=
    managed_described (listed_describes _) (isEngineId_engineId (by decide))
      (instanceOf_isolationLabels sampleRequest "test-instance")
  have settled : (reconcile "test-instance" reports).2 = .ok ⟨0, 1⟩ := by
    simp [reconcile, reports, managedList, sweep, owned]
  exact (cleared.2.2.2 ⟨0, 1⟩ settled).2.1

end Fireball.Docker
