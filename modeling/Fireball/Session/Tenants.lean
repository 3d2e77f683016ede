import Fireball.Session.Credentials
import Fireball.Session.Ownership

/-!
# Tenants

Both authenticators let through only tenant ids without a colon, so a session key
tells its tenant and the session id apart, whatever id a caller passes.

* `key_inj_safe`: that fact;
* `Served`: the steps of a run whose contexts come from the authenticators and
  whose draws are fresh;
* `reachable_safe`: the sessions of such a run belong to safe tenants.
-/

namespace Fireball.Session

open Foundation

/-- `/^[a-z0-9][a-z0-9_-]{1,62}$/i`, of `isSafeTenantId` and `isSafeIdentifier`. -/
def isSafeTenantId (value : String) : Bool :=
  match value.toList with
  | [] => false
  | first :: rest =>
    first.isAlphanum && 1 ≤ rest.length && rest.length ≤ 62 && rest.all isBase64Url

theorem safe_colon {t : String} (safe : isSafeTenantId t = true) : ':' ∉ t.toList := by
  unfold isSafeTenantId at safe
  split at safe
  · cases safe
  · rename_i first rest eq
    simp only [Bool.and_eq_true, List.all_eq_true] at safe
    rw [eq, List.mem_cons, not_or]
    constructor
    · rintro rfl
      exact absurd safe.1.1.1 (by decide)
    · intro colon
      exact absurd (safe.2 ':' colon) (by decide)

/-- A safe tenant id ends at the first colon of the key. -/
theorem key_inj_safe {t t' i i' : String} (safe : isSafeTenantId t = true)
    (safe' : isSafeTenantId t' = true) (h : key t i = key t' i') : t = t' ∧ i = i' := by
  have lists : t.toList ++ ':' :: i.toList = t'.toList ++ ':' :: i'.toList := by
    have := congrArg String.toList h
    simpa [key, String.toList_append] using this
  have upTo : ∀ {l : List Char} (r : List Char), ':' ∉ l →
      (l ++ ':' :: r).takeWhile (· ≠ ':') = l := by
    intro l r colon
    rw [List.takeWhile_append_of_pos]
    · simp
    · intro c hc
      simpa using fun same : c = ':' => colon (same ▸ hc)
  have front := congrArg (List.takeWhile (· ≠ ':')) lists
  rw [upTo _ (safe_colon safe), upTo _ (safe_colon safe')] at front
  rw [front] at lists
  obtain ⟨-, back⟩ := List.cons.inj (List.append_cancel_left lists)
  exact ⟨String.toList_inj.mp front, String.toList_inj.mp back⟩

def Call.context : Call → Option TenantContext
  | .create context => some context
  | .get context _ => some context
  | .issueSignalingTicket context _ => some context
  | .tab context _ _ => some context
  | .burn context _ => some context
  | _ => none

/-- A context that is passed comes from an authenticator. -/
def Authentic : Event → Prop
  | .call call _ => ∀ context ∈ call.context, isSafeTenantId context.tenantId = true
  | _ => True

instance (e : Event) : Decidable (Authentic e) := by unfold Authentic; split <;> infer_instance

def Served (cfg : Config) (s : State) (e : Event) : Prop := FreshDraw cfg s e ∧ Authentic e

instance (cfg : Config) (s : State) (e : Event) : Decidable (Served cfg s e) := by
  unfold Served; infer_instance

/-- Every call so far was made for a safe tenant. -/
def SafeCalls (s : State) : Prop :=
  ∀ c call context, .called c call ∈ s.history → call.context = some context →
    isSafeTenantId context.tenantId = true

theorem safeCalls_step {cfg : Config} {s t : State} {e : Event} (authentic : Authentic e)
    (h : step cfg s e = some t) (safe : SafeCalls s) : SafeCalls t := by
  obtain ⟨c, old, new, store, es, -, ht, rfl⟩ := step_transition h
  intro c' call context called passed
  rcases List.mem_append.mp called with now | before
  · obtain ⟨-, ev, -⟩ := (transition_named ht).1 c' call now
    rw [ev] at authentic
    exact authentic context passed
  · exact safe c' call context before passed

section
variable {cfg : Config} {s : State} {ledger : Ledger}

theorem reachable_calls (reached : (machine cfg).Reachable (Served cfg) s) : SafeCalls s := by
  refine reached.invariant (fun c call context h => ?_) fun s e t _ safe ha hs =>
    safeCalls_step ha.2 hs safe
  simp [machine, State.initial] at h

/-- Every session was created for a safe tenant. -/
theorem reachable_safe
    (reached : (ledgered cfg).Reachable (Machine.unwatched (Served cfg)) (s, ledger)) :
    ∀ g ∈ ledger.created, isSafeTenantId g.tenantId = true := by
  refine reached.invariant
    (I := fun s => ∀ g ∈ s.2.created, isSafeTenantId g.tenantId = true) ?_ ?_
  · intro g hg
    simp [ledgered, Machine.watched, Ledger.empty] at hg
  · intro s e t hr safe ha hs g hg
    obtain ⟨next, noted⟩ := Machine.watched_step.mp hs
    rw [noted] at hg
    rcases noted_created hg with before | ⟨c, d, -, hc⟩
    · exact safe g before
    · have before := Machine.Reaches.unwatch hr
      obtain ⟨call, called, context, rfl, tenant⟩ :=
        (reachable_traced (fun _ _ h => h.1.1) before).parked c _ hc
      rw [tenant]
      exact reachable_calls before c _ context called rfl

/-- A record that a call goes on with belongs to a safe tenant. -/
theorem reachable_parked_safe (reached : (machine cfg).Reachable (Served cfg) s) {c : Nat}
    {p : Pending} {r : SessionRecord} (hc : s.calls.get c = some p) (hr : p.record = some r) :
    isSafeTenantId r.tenantId = true := by
  obtain ⟨ledger, watched⟩ := Machine.Reaches.watch Ledger.note reached Ledger.empty
  have own := reachable_owned (fun _ _ h => h.1.1) watched
  exact reachable_safe watched _ (own.parked c p r hc hr)

end

end Fireball.Session
