import VehicleBridge.Interconnect.Transport
import VehicleBridge.Lib.Streaks

/-!
# The circuit as the history of sends has left it

`TransportOrchestrator` keeps two streak counters and a flag.  A failure resets the success streak and a success the
failure streak, but the flag outlives both, and the success streak starts again when the circuit closes.  `Follows` says
what the counters are after a history of sends: the failure streak is that of the history, as far as 32 bits count it,
and the success streak is as long as the circuit is open.  A closed circuit has seen fewer failures in a row than the
threshold and an open one fewer successes, so no counter wraps where it decides anything (`circuit_open_iff`).
-/

namespace VehicleBridge

open Streaks

/-- A send on the primary transport, as the orchestrator is told of it. -/
inductive PrimarySend
  | failure
  | success
  deriving DecidableEq, Repr

namespace TransportOrchestrator

def setPolicy (policy : OrchestratorPolicy) (o : TransportOrchestrator) : TransportOrchestrator :=
  { o with policy }

def isCircuitOpen (o : TransportOrchestrator) : Bool :=
  o.circuitOpen

def onPrimarySend (o : TransportOrchestrator) : PrimarySend → TransportOrchestrator
  | .failure => o.onPrimarySendFailure
  | .success => o.onPrimarySendSuccess

/-- A new orchestrator with the given policy, after these sends. -/
def after (policy : OrchestratorPolicy) (sends : List PrimarySend) : TransportOrchestrator :=
  sends.foldl onPrimarySend (setPolicy policy {})

end TransportOrchestrator

/-- As many failures in a row as the break threshold says, and since then never as many successes in a row as the
recover threshold says. -/
def Tripped (policy : OrchestratorPolicy) (sends : List PrimarySend) : Prop :=
  Latched .failure policy.circuitBreakThreshold.toNat .success policy.circuitRecoverThreshold.toNat sends

/-- An orchestrator is where the history of its sends has left it. -/
structure Follows (policy : OrchestratorPolicy) (sends : List PrimarySend) (o : TransportOrchestrator) : Prop where
  policy_eq : o.policy = policy
  failStreak : o.primaryFailStreak = UInt32.ofNat (streak .failure sends)
  tripped : o.circuitOpen = true ↔ Tripped policy sends
  closed : o.circuitOpen = false → streak .failure sends < policy.circuitBreakThreshold.toNat
  opened : o.circuitOpen = true → o.primarySuccessStreak = UInt32.ofNat (streak .success sends) ∧
    streak .success sends < policy.circuitRecoverThreshold.toNat

section
variable {policy : OrchestratorPolicy} {sends : List PrimarySend} {o : TransportOrchestrator}

private theorem follows_setPolicy (hbreak : 1 ≤ policy.circuitBreakThreshold) :
    Follows policy [] (TransportOrchestrator.setPolicy policy {}) := by
  have hpos : 0 < policy.circuitBreakThreshold.toNat := UInt32.le_iff_toNat_le.1 hbreak
  exact ⟨rfl, rfl, iff_of_false Bool.false_ne_true (not_latched_nil hpos), fun _ => hpos, nofun⟩

/-- A streak that is one longer than one below a threshold has not wrapped. -/
private theorem threshold_le_iff {threshold : UInt32} {k : Nat} (h : k < threshold.toNat) :
    threshold ≤ UInt32.ofNat k + 1 ↔ threshold.toNat ≤ k + 1 := by
  have hmax : threshold.toNat < UInt32.size := threshold.toNat_lt
  have hval : (UInt32.ofNat (k + 1)).toNat = k + 1 := UInt32.toNat_ofNat_of_lt' (by omega)
  rw [UInt32.le_iff_toNat_le, ← hval, UInt32.ofNat_add]
  rfl

private theorem onPrimarySendFailure_eq (o : TransportOrchestrator) :
    o.onPrimarySendFailure =
      { policy := o.policy
        primaryFailStreak := o.primaryFailStreak + 1
        primarySuccessStreak := 0
        circuitOpen := o.circuitOpen || decide (o.policy.circuitBreakThreshold ≤ o.primaryFailStreak + 1) } := by
  unfold TransportOrchestrator.onPrimarySendFailure
  by_cases hlong : o.policy.circuitBreakThreshold ≤ o.primaryFailStreak + 1
  · simp [hlong]
  · simp [hlong]

private theorem onPrimarySendSuccess_eq (o : TransportOrchestrator) :
    o.onPrimarySendSuccess =
      let recovers := o.circuitOpen && decide (o.policy.circuitRecoverThreshold ≤ o.primarySuccessStreak + 1)
      { policy := o.policy
        primaryFailStreak := 0
        primarySuccessStreak := if recovers then 0 else o.primarySuccessStreak + 1
        circuitOpen := o.circuitOpen && !recovers } := by
  unfold TransportOrchestrator.onPrimarySendSuccess
  by_cases hlong : o.policy.circuitRecoverThreshold ≤ o.primarySuccessStreak + 1
  · cases hopen : o.circuitOpen <;> simp [hlong]
  · cases hopen : o.circuitOpen <;> simp [hlong]

theorem Follows.failure (h : Follows policy sends o) (hrecover : 1 ≤ policy.circuitRecoverThreshold) :
    Follows policy (sends ++ [.failure]) o.onPrimarySendFailure := by
  have hpos : 0 < policy.circuitRecoverThreshold.toNat := UInt32.le_iff_toNat_le.1 hrecover
  have hstep : Tripped policy (sends ++ [.failure]) ↔
      Tripped policy sends ∨ policy.circuitBreakThreshold.toNat ≤ streak .failure sends + 1 := by
    rw [← streak_concat_self]
    exact latched_concat_set (by decide) hpos
  -- as long as the circuit is closed the streak is below the threshold
  have hopens : o.circuitOpen = false → (policy.circuitBreakThreshold ≤ o.primaryFailStreak + 1 ↔
      policy.circuitBreakThreshold.toNat ≤ streak .failure sends + 1) := fun hclosed => by
    rw [h.failStreak]
    exact threshold_le_iff (h.closed hclosed)
  rw [onPrimarySendFailure_eq, h.policy_eq]
  refine ⟨rfl, ?_, ?_, ?_, ?_⟩
  · rw [streak_concat_self, h.failStreak, UInt32.ofNat_add]
    rfl
  · rw [hstep, ← h.tripped, Bool.or_eq_true, decide_eq_true_iff]
    cases hopen : o.circuitOpen with
    | true => simp
    | false => rw [hopens hopen]
  · intro hclosed
    rw [Bool.or_eq_false_iff, decide_eq_false_iff_not] at hclosed
    rw [streak_concat_self]
    have hshort := (hopens hclosed.1).not.1 hclosed.2
    omega
  · intro _
    rw [streak_concat_of_ne (by decide)]
    exact ⟨rfl, hpos⟩

theorem Follows.success (h : Follows policy sends o) (hbreak : 1 ≤ policy.circuitBreakThreshold) :
    Follows policy (sends ++ [.success]) o.onPrimarySendSuccess := by
  have hpos : 0 < policy.circuitBreakThreshold.toNat := UInt32.le_iff_toNat_le.1 hbreak
  have hstep : Tripped policy (sends ++ [.success]) ↔
      Tripped policy sends ∧ streak .success sends + 1 < policy.circuitRecoverThreshold.toNat := by
    rw [← streak_concat_self]
    exact latched_concat_reset (by decide) hpos
  -- as long as the circuit is open the streak is below the threshold
  have hcloses : o.circuitOpen = true → (policy.circuitRecoverThreshold ≤ o.primarySuccessStreak + 1 ↔
      policy.circuitRecoverThreshold.toNat ≤ streak .success sends + 1) := fun hopen => by
    rw [(h.opened hopen).1]
    exact threshold_le_iff (h.opened hopen).2
  rw [onPrimarySendSuccess_eq, h.policy_eq]
  refine ⟨rfl, ?_, ?_, ?_, ?_⟩
  · rw [streak_concat_of_ne (by decide)]
    rfl
  · rw [hstep, ← h.tripped]
    cases hopen : o.circuitOpen with
    | true => simp [hcloses hopen]
    | false => simp
  · intro _
    rw [streak_concat_of_ne (by decide)]
    exact hpos
  · intro hstays
    cases hopen : o.circuitOpen with
    | true =>
      have hshort : ¬ policy.circuitRecoverThreshold ≤ o.primarySuccessStreak + 1 := by simpa [hopen] using hstays
      have hbelow := (hcloses hopen).not.1 hshort
      rw [streak_concat_self, UInt32.ofNat_add, ← (h.opened hopen).1]
      exact ⟨if_neg (by simp [hshort]), by omega⟩
    | false => simp [hopen] at hstays

/-- **The step lemma**: the orchestrator follows one more send. -/
theorem Follows.step (h : Follows policy sends o) (hbreak : 1 ≤ policy.circuitBreakThreshold)
    (hrecover : 1 ≤ policy.circuitRecoverThreshold) (send : PrimarySend) :
    Follows policy (sends ++ [send]) (o.onPrimarySend send) := by
  cases send with
  | failure => exact h.failure hrecover
  | success => exact h.success hbreak

private theorem follows_after (hbreak : 1 ≤ policy.circuitBreakThreshold)
    (hrecover : 1 ≤ policy.circuitRecoverThreshold)
    (sends : List PrimarySend) : Follows policy sends (TransportOrchestrator.after policy sends) := by
  induction sends using List.reverseRecOn with
  | nil => exact follows_setPolicy hbreak
  | append_singleton sends send ih =>
    unfold TransportOrchestrator.after
    rw [List.foldl_concat]
    exact ih.step hbreak hrecover send

/-- **The circuit is open exactly as the history says**: where a run of failures as long as the break threshold has not
been followed by a run of successes as long as the recover threshold. -/
theorem circuit_open_iff (policy : OrchestratorPolicy) (hbreak : 1 ≤ policy.circuitBreakThreshold)
    (hrecover : 1 ≤ policy.circuitRecoverThreshold) (sends : List PrimarySend) :
    (TransportOrchestrator.after policy sends).isCircuitOpen = true ↔ Tripped policy sends :=
  (follows_after hbreak hrecover sends).tripped

end

/-- Two failures open a circuit and one success does not close it, with both thresholds at 2. -/
theorem circuit_open_iff_two :
    Tripped { circuitBreakThreshold := 2, circuitRecoverThreshold := 2 } [.failure, .failure, .success] :=
  (circuit_open_iff { circuitBreakThreshold := 2, circuitRecoverThreshold := 2 } (by decide) (by decide)
    [.failure, .failure, .success]).1 (by decide)

end VehicleBridge
