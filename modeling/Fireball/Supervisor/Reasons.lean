import Fireball.Supervisor.Lease

/-!
# Why a lease is shut

* `listen_clean`: the frames for which a lease blames its client;
* `listen_later`: the client's socket never goes back.
-/

namespace Fireball.Supervisor

open Foundation

section
variable {cfg : ProxyConfig} {l l' : Lease} {e : LeaseEvent}

/-! ## Reasons -/

/-- The reasons that blame a frame of the client. -/
def blames : List String := ["authentication failed", "wait for relay readiness"]

def Lease.Clean (l : Lease) : Prop := ∀ code reason, .closed code reason ∈ l.log → reason ∉ blames

theorem clean_of_log (clean : l.Clean) (log : ∀ code reason, .closed code reason ∈ l'.log →
    .closed code reason ∈ l.log) : l'.Clean :=
  fun code reason mem => clean code reason (log code reason mem)

theorem shutdown_clean {code : Nat} {reason : String} (other : reason ∉ blames) (clean : l.Clean) :
    (l.shutdown code reason).Clean := by
  unfold Lease.shutdown
  split
  · exact clean
  · intro code' reason' mem
    rcases List.mem_cons.mp mem with same | before
    · cases same
      exact other
    · exact clean code' reason' before

theorem forward_clean {destination : ReadyState} {byteLength bufferedAmount : Nat} {send : LeaseAction}
    (sends : send.sends = true) (clean : l.Clean) :
    (l.forward destination byteLength bufferedAmount send).Clean := by
  unfold Lease.forward
  split
  · exact shutdown_clean (by decide) clean
  split
  · exact shutdown_clean (by decide) clean
  · apply clean_of_log clean
    intro code reason mem
    rcases List.mem_cons.mp mem with same | before
    · rw [← same] at sends
      cases sends
    · exact before

/-- A frame comes in time, and the first one authenticates. -/
def Timely (cfg : ProxyConfig) (l : Lease) (frame : Frame) : Prop :=
  (l.phase = .authenticating → parseAuthenticationFrame cfg frame = true) ∧ l.phase ≠ .connecting

/-- Only a frame that is not timely is blamed. -/
theorem clientMessage_clean {frame : Frame} {bufferedAmount : Nat} (timely : Timely cfg l frame)
    (clean : l.Clean) : (l.clientMessage cfg frame bufferedAmount).Clean := by
  have heard : ({ l with log := .received frame :: l.log } : Lease).Clean := by
    apply clean_of_log clean
    intro code reason mem
    exact (List.mem_cons.mp mem).resolve_left (by simp)
  unfold Lease.clientMessage
  simp only
  split
  · rename_i waiting
    rw [if_pos (timely.1 waiting)]
    exact heard
  · rename_i connecting
    exact absurd connecting timely.2
  · split
    · exact heard
    · exact forward_clean rfl heard
  · exact heard

theorem listen_clean (h : l.listen cfg e = some l') (clean : l.Clean)
    (timely : ∀ frame bufferedAmount, e = .clientFrame frame bufferedAmount → Timely cfg l frame) :
    l'.Clean := by
  cases e with
  | clientFrame frame bufferedAmount =>
    simp only [Lease.listen] at h
    split at h
    · cases h
    · cases h
      exact clientMessage_clean (timely frame bufferedAmount rfl) clean
  | clientClosed | timedOut =>
    simp only [Lease.listen] at h
    split at h
    · cases h
      exact shutdown_clean (by decide) clean
    · cases h
  | clientFailed =>
    simp only [Lease.listen] at h
    split at h
    · cases h
    · split at h
      · cases h
        exact shutdown_clean (by decide) clean
      · cases h
        exact clean
  | clientState state =>
    simp only [Lease.listen] at h
    split at h
    · cases h
      exact clean
    · cases h
  | sendFailed =>
    cases h
    exact shutdown_clean (by decide) clean
  | upstreamOpened =>
    simp only [Lease.listen] at h
    split at h
    · split at h
      · cases h
        unfold Lease.upstreamOpened
        split
        · exact clean
        · apply clean_of_log clean
          intro code reason mem
          exact (List.mem_cons.mp mem).resolve_left (by simp)
      · cases h
    · cases h
  | upstreamFrame frame bufferedAmount =>
    simp only [Lease.listen] at h
    split at h
    · split at h
      · cases h
      · cases h
        unfold Lease.upstreamMessage
        split
        · exact forward_clean rfl clean
        · exact clean
    · cases h
  | upstreamClosed =>
    simp only [Lease.listen] at h
    split at h
    · split at h
      · cases h
        exact shutdown_clean (by decide) clean
      · cases h
    · cases h
  | upstreamFailed =>
    simp only [Lease.listen] at h
    split at h
    · split at h
      · cases h
      · split at h
        · cases h
          exact shutdown_clean (by decide) clean
        · cases h
          exact clean
    · cases h
  | upstreamState state =>
    simp only [Lease.listen] at h
    split at h
    · split at h
      · cases h
        exact clean
      · cases h
    · cases h

/-! ## The client's socket -/

theorem shutdown_later {t : Lease} (code : Nat) (reason : String)
    (later : l.client.rank ≤ t.client.rank) : l.client.rank ≤ (t.shutdown code reason).client.rank := by
  unfold Lease.shutdown
  split
  · exact later
  · exact later.trans (rank_le_closeSocket t.client)

theorem forward_later {t : Lease} {destination : ReadyState} {byteLength bufferedAmount : Nat}
    {send : LeaseAction} (later : l.client.rank ≤ t.client.rank) :
    l.client.rank ≤ (t.forward destination byteLength bufferedAmount send).client.rank := by
  rcases forward_cases (l := t) destination byteLength bufferedAmount send with ⟨code, reason, shut⟩ | sent
  · rw [shut]
    exact shutdown_later code reason later
  · rw [sent]
    exact later

/-- The client's socket never goes back. -/
theorem listen_later (h : l.listen cfg e = some l') : l.client.rank ≤ l'.client.rank := by
  cases e with
  | clientFrame frame bufferedAmount =>
    simp only [Lease.listen] at h
    split at h
    · cases h
    · cases h
      unfold Lease.clientMessage
      simp only
      split
      · split
        · exact Nat.le_refl _
        · exact shutdown_later _ _ (Nat.le_refl _)
      · exact shutdown_later _ _ (Nat.le_refl _)
      · split
        · exact Nat.le_refl _
        · exact forward_later (Nat.le_refl _)
      · exact Nat.le_refl _
  | clientClosed =>
    simp only [Lease.listen] at h
    split at h
    · cases h
      exact shutdown_later _ _ (ReadyState.rank_le_closed _)
    · cases h
  | timedOut =>
    simp only [Lease.listen] at h
    split at h
    · cases h
      exact shutdown_later _ _ (Nat.le_refl _)
    · cases h
  | clientFailed =>
    simp only [Lease.listen] at h
    split at h
    · cases h
    · split at h
      · cases h
        exact shutdown_later _ _ (Nat.le_refl _)
      · cases h
        exact Nat.le_refl _
  | clientState state =>
    simp only [Lease.listen] at h
    split at h
    · rename_i later
      cases h
      exact later.le
    · cases h
  | sendFailed =>
    cases h
    exact shutdown_later _ _ (Nat.le_refl _)
  | upstreamOpened =>
    simp only [Lease.listen] at h
    split at h
    · split at h
      · cases h
        unfold Lease.upstreamOpened
        split <;> exact Nat.le_refl _
      · cases h
    · cases h
  | upstreamFrame frame bufferedAmount =>
    simp only [Lease.listen] at h
    split at h
    · split at h
      · cases h
      · cases h
        unfold Lease.upstreamMessage
        split
        · exact forward_later (Nat.le_refl _)
        · exact Nat.le_refl _
    · cases h
  | upstreamClosed =>
    simp only [Lease.listen] at h
    split at h
    · split at h
      · cases h
        exact shutdown_later _ _ (Nat.le_refl _)
      · cases h
    · cases h
  | upstreamFailed =>
    simp only [Lease.listen] at h
    split at h
    · split at h
      · cases h
      · split at h
        · cases h
          exact shutdown_later _ _ (Nat.le_refl _)
        · cases h
          exact Nat.le_refl _
    · cases h
  | upstreamState state =>
    simp only [Lease.listen] at h
    split at h
    · split at h
      · cases h
        exact Nat.le_refl _
      · cases h
    · cases h

end

end Fireball.Supervisor
