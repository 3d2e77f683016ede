import Fireball.Docker.Status
import Fireball.Session.Observation
import Fireball.Signaling.System

/-!
# What an inspection does to a session and its relays

* `system_spares`: what takes a session down in a step of the whole system;
* `refused_system`: the run lemma for a call whose inspection is not answered;
* `no_false_death`: a session dies of a failed inspection or of `burn`.
-/

namespace Fireball.Signaling

open Foundation Session
open Docker (inspect Missing Settled stoppedStates)

/-- The service is not in the middle of a `burn`. -/
def NotBurn (S : System) (e : SystemEvent) : Prop := ∀ event, e = .service event → ¬ OfBurn S.service event

/-- The event answers no inspection of call `c`. -/
def Unanswered (c : Nat) (_ : System) (e : SystemEvent) : Prop := ∀ event, e = .service event → ¬ event.Answers c

/-- The event continues call `c`. -/
def Proceeds (c : Nat) (e : SystemEvent) : Prop :=
  (∃ reply d, e = .service (.settle c reply d)) ∨ ∃ d, e = .service (.resume c d)

/-- Sessions, credentials and relays are what they were. -/
def Unchanged (S S' : System) : Prop := S'.service.store = S.service.store ∧ S'.gateway = S.gateway

section
variable {service : Config} {relay : GatewayConfig} {S S' : System}

theorem callbacks_none {es before after : List Entry} (eq : after = es ++ before)
    (none : ∀ id, .revoked id ∉ es) : callbacks before after = [] := by
  rw [eq, callbacks, List.length_append, Nat.add_sub_cancel, List.take_left, List.filterMap_eq_nil_iff]
  rintro entry mem
  split
  · rename_i id
    exact absurd (List.mem_reverse.mp mem) (none id)
  · rfl

theorem unchanged_of_untouched {event : Event} (h : systemStep service relay S (.service event) = some S')
    (untouched : ∀ after, step service S.service event = some after → Untouched S.service after) :
    Unchanged S S' := by
  obtain ⟨after, hs, rfl⟩ := Option.map_eq_some_iff.mp h
  obtain ⟨store, es, eq, none⟩ := untouched after hs
  refine ⟨store, ?_⟩
  rw [callbacks_none eq none]
  rfl

/-- The service moves on by one event, or is left alone. -/
theorem service_of_system {e : SystemEvent} (h : systemStep service relay S e = some S') :
    (∃ event, e = .service event ∧ step service S.service event = some S'.service ∧
      S'.gateway = (callbacks S.service.history S'.service.history).foldl Gateway.revoke S.gateway) ∨
    ((∀ event, e ≠ .service event) ∧ (S'.service = S.service ∨ ∃ token d,
      step service S.service (.call (.authorizeSignalingToken token) d) = some S'.service)) := by
  cases e with
  | service event =>
    obtain ⟨after, hs, rfl⟩ := Option.map_eq_some_iff.mp h
    exact .inl ⟨event, rfl, hs, rfl⟩
  | accepted c =>
    obtain ⟨g, -, rfl⟩ := Option.map_eq_some_iff.mp h
    exact .inr ⟨by simp, .inl rfl⟩
  | clientFrame c frame bufferedAmount d =>
    obtain ⟨g, -, rfl⟩ := Option.map_eq_some_iff.mp h
    refine .inr ⟨by simp, ?_⟩
    unfold System.present
    split
    · exact .inl rfl
    · rename_i a token _
      exact .inr ⟨token, d, rfl⟩
  | relay c event =>
    simp only [systemStep] at h
    split at h
    · obtain ⟨g, -, rfl⟩ := Option.map_eq_some_iff.mp h
      exact .inr ⟨by simp, .inl rfl⟩
    · cases h
  | resumed c a =>
    simp only [systemStep, Option.bind_eq_some_iff] at h
    obtain ⟨n, -, outcome, -, event, -, hg⟩ := h
    obtain ⟨g, -, rfl⟩ := Option.map_eq_some_iff.mp hg
    exact .inr ⟨by simp, .inl rfl⟩

/-- A failed inspection of the current active record revokes the session's relays. -/
theorem lost_revokes {event : Event} {k : String} {r : SessionRecord}
    (h : systemStep service relay S (.service event) = some S') (lost : Lost S.service event k r) :
    Dies S.service S'.service k r ∧ S'.gateway = S.gateway.revoke r.id := by
  obtain ⟨after, hs, rfl⟩ := Option.map_eq_some_iff.mp h
  have dies := lost_dies lost hs
  have one : callbacks S.service.history after.history = [r.id] := by
    rw [dies.revoked, callbacks, List.length_cons, Nat.add_sub_cancel_left]
    rfl
  refine ⟨dies, ?_⟩
  rw [one]
  rfl

theorem spared_refl (s : State) : Spared s s := ⟨fun _ h => h, fun _ h => h, [], rfl, by simp⟩

/-- What takes a session down, with its relays. -/
theorem system_spares {e : SystemEvent} (h : systemStep service relay S e = some S') (other : NotBurn S e) :
    (∃ event k r, e = .service event ∧ Lost S.service event k r) ∨
    (Spared S.service S'.service ∧ ∀ event, e = .service event → S'.gateway = S.gateway) := by
  rcases service_of_system h with ⟨event, rfl, hs, gateway⟩ | ⟨away, same | ⟨token, d, hs⟩⟩
  · rcases step_spares hs (other event rfl) with ⟨k, r, lost, -⟩ | spared
    · exact .inl ⟨event, k, r, rfl, lost⟩
    · refine .inr ⟨spared, fun event _ => ?_⟩
      obtain ⟨es, eq, none⟩ := spared.revoked
      rw [gateway, callbacks_none eq none]
      rfl
  · rw [same]
    exact .inr ⟨spared_refl _, fun event eq => absurd eq (away event)⟩
  · rcases step_spares hs (by simp [OfBurn]) with ⟨k, r, ⟨c, _, _, _, _, eq, _⟩, -⟩ | spared
    · cases eq
    · exact .inr ⟨spared, fun event eq => absurd eq (away event)⟩

/-- The run lemma for a call whose inspection is not answered. -/
theorem refused_system {c : Nat} {e : SystemEvent} (refused : Refused S.service c)
    (h : systemStep service relay S e = some S') (unanswered : Unanswered c S e) : Refused S'.service c := by
  rcases service_of_system h with ⟨event, rfl, hs, -⟩ | ⟨-, same | ⟨token, d, hs⟩⟩
  · exact refused_step refused hs (unanswered event rfl)
  · rwa [same]
  · exact refused_step refused hs fun ⟨_, _, eq⟩ => nomatch eq

/-- The steps of such a call leave everything alone. -/
theorem refused_unchanged {c : Nat} {e : SystemEvent} (refused : Refused S.service c)
    (h : systemStep service relay S e = some S') (unanswered : Unanswered c S e) (own : Proceeds c e) :
    Unchanged S S' := by
  rcases own with ⟨reply, d, rfl⟩ | ⟨d, rfl⟩
  · refine unchanged_of_untouched h fun after hs => ?_
    obtain ⟨p, hp, hs⟩ := Option.bind_eq_some_iff.mp hs
    exact (refused_settle (refused.parked p hp) hs fun inspection eq =>
      unanswered _ rfl ⟨inspection, d, by rw [eq]⟩).1
  · refine unchanged_of_untouched h fun after hs => ?_
    obtain ⟨p, hp, hs⟩ := Option.bind_eq_some_iff.mp hs
    exact (refused_resume (refused.parked p hp) hs).1

end

/-- How `inspect` is settled by what the Docker Engine reports. -/
def InspectsFaithfully (instanceId containerId : String) (report : Except Thrown Json) : Prop :=
  (∀ failure, inspect instanceId containerId report = .ok (.failed failure) ↔
    (failure = .containerMissing ∧ Missing containerId report) ∨
    (failure = .stoppedUnexpectedly ∧ Settled instanceId containerId stoppedStates report)) ∧
  (inspect instanceId containerId report = .ok .running ↔
    Settled instanceId containerId ["running"] report) ∧
  ((∃ e, inspect instanceId containerId report = .error e) ↔ ¬ Missing containerId report ∧
    ¬ Settled instanceId containerId stoppedStates report ∧
    ¬ Settled instanceId containerId ["running"] report)

/-- The step takes no session down but one that a failed inspection of its current active
record has found lost. -/
structure DiesOfInspection (S : System) (e : SystemEvent) (S' : System) : Prop where
  failed : ∀ k, FailedAt S'.service k → ¬ FailedAt S.service k →
    ∃ event r, e = .service event ∧ Lost S.service event k r
  credentials : ∀ k, (S.service.store.credentialsBySession.get k).isSome = true →
    S'.service.store.credentialsBySession.get k = none →
    ∃ event r, e = .service event ∧ Lost S.service event k r
  relays : ∀ event, e = .service event → S'.gateway ≠ S.gateway →
    ∃ k r, Lost S.service event k r ∧ S'.gateway = S.gateway.revoke r.id
  /-- And then it does all of that. -/
  lost : ∀ event k r, e = .service event → Lost S.service event k r →
    Dies S.service S'.service k r ∧ S'.gateway = S.gateway.revoke r.id

/-- Whenever its inspection rejects, each step of the call leaves sessions, credentials
and relays as they are. -/
def LeavesAlone (service : Config) (relay : GatewayConfig) (S : System) (call : Call) (d : Draw) : Prop :=
  ∀ S', systemStep service relay S (.service (.call call d)) = some S' → Unchanged S S' ∧
    ∀ T e U, (system service relay).Reaches (Unanswered S.service.nextCall) S' T →
      Proceeds S.service.nextCall e → Unanswered S.service.nextCall T e →
      systemStep service relay T e = some U → Unchanged T U

/-- **No false death.** -/
theorem no_false_death (service : Config) (relay : GatewayConfig) :
    (∀ instanceId containerId report, InspectsFaithfully instanceId containerId report) ∧
    (∀ S e S', systemStep service relay S e = some S' → NotBurn S e → DiesOfInspection S e S') ∧
    (∀ S call d, call.Reads → LeavesAlone service relay S call d) := by
  refine ⟨fun instanceId containerId report =>
    ⟨fun _ => Docker.inspect_failed_iff, Docker.inspect_running_iff, Docker.inspect_rejects_iff⟩, ?dies, ?alone⟩
  case dies =>
    intro S e S' h other
    have whole : ∀ event k r, e = .service event → Lost S.service event k r →
        Dies S.service S'.service k r ∧ S'.gateway = S.gateway.revoke r.id := by
      rintro event k r rfl lost
      exact lost_revokes h lost
    rcases system_spares h other with ⟨event, k, r, rfl, lost⟩ | ⟨spared, gateway⟩
    · obtain ⟨dies, gateway⟩ := whole event k r rfl lost
      have under : ∀ k', (k ≠ k' → False) → ∃ event' r, (.service event : SystemEvent) = .service event' ∧
          Lost S.service event' k' r := fun k' same => by
        cases not_not.mp same
        exact ⟨event, r, rfl, lost⟩
      refine ⟨fun k' after before => under k' fun ne => before ?_,
        fun k' before after => under k' fun ne => ?_, fun _ eq _ => ?_, whole⟩
      · obtain ⟨r', hr, failed⟩ := after
        exact ⟨r', (dies.others k' ne).1 ▸ hr, failed⟩
      · rw [(dies.others k' ne).2] at after
        rw [after] at before
        cases before
      · cases eq
        exact ⟨k, r, lost, gateway⟩
    · refine ⟨fun k after before => absurd (spared.failed k after) before, fun k before after => ?_,
        fun event eq changed => absurd (gateway event eq) changed, whole⟩
      have kept := spared.credentials k before
      rw [after] at kept
      cases kept
  case alone =>
    intro S call d reads S' h
    have first : Untouched S.service (makeCall service S.service call d) ∧
        Refused (makeCall service S.service call d) S.service.nextCall := refused_makeCall reads
    refine ⟨unchanged_of_untouched h ?_, fun T e U reached own unanswered next => ?_⟩
    · rintro after ⟨⟩
      exact first.1
    · have start : Refused S'.service S.service.nextCall := by
        rw [systemStep, Option.map_eq_some_iff] at h
        obtain ⟨after, ⟨⟩, rfl⟩ := h
        exact first.2
      have refused : Refused T.service S.service.nextCall :=
        reached.invariant (I := fun T => Refused T.service S.service.nextCall) start
          fun _ _ _ _ refused unanswered step => refused_system refused step unanswered
      exact refused_unchanged refused next unanswered own

/-! ## A burn -/

/-- The draws are fresh, and no inspection fails. -/
def NoFailedInspection (S : System) : SystemEvent → Prop
  | .service (.settle _ (.inspected (.ok (.failed _))) _) => False
  | e => FreshDraws S e

instance (S : System) (e : SystemEvent) : Decidable (NoFailedInspection S e) := by
  unfold NoFailedInspection
  split <;> infer_instance

/-- A session relays, and is then burned while its runtime cannot be destroyed: it is
failed, without credentials, and its relay is closed. -/
theorem burn_takes_down : ∃ S T,
    (system sampleConfig sampleGateway).Reachable NoFailedInspection S ∧
    (S.service.store.sessions.get (key "alpha" (sampleId 0))).map (·.phase) = some .active ∧
    (S.service.store.credentialsBySession.get (key "alpha" (sampleId 0))).isSome = true ∧
    (S.gateway.relays.get 0).map (·.phase) = some .relaying ∧
    (system sampleConfig sampleGateway).runFrom S [burnedAfter, notDestroyed] = some T ∧
    (system sampleConfig sampleGateway).Reaches NoFailedInspection S T ∧
    (T.service.store.sessions.get (key "alpha" (sampleId 0))).map (·.phase) = some .failed ∧
    T.service.store.credentialsBySession.get (key "alpha" (sampleId 0)) = none ∧
    (T.gateway.relays.get 0).map (·.phase) = some .closed := by
  let relaying := ((system sampleConfig sampleGateway).runFrom .initial (presentedToken ++
    [.resumed 0 0, .relay 0 (.connected 0 (some ⟨.opened, 0, []⟩))])).get (by decide)
  let final := ((system sampleConfig sampleGateway).runFrom relaying [burnedAfter, notDestroyed]).get (by decide)
  exact ⟨relaying, final, Machine.reaches_end (by decide) _, by decide, by decide, by decide,
    (Option.some_get _).symm, Machine.reaches_end (by decide) _, by decide, by decide, by decide⟩

end Fireball.Signaling
