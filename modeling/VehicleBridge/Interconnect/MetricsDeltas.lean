import Mathlib.Algebra.BigOperators.Group.List.Basic
import Mathlib.Algebra.GroupWithZero.Nat
import Mathlib.Data.List.Chain
import VehicleBridge.Interconnect.SystemMetricsAggregator
import VehicleBridge.Lib.Transition

/-!
# The deltas of the metrics

Exports of the aggregator cover the time from one to the next without gaps, and where the counters supplied never
decrease, the differences of a counter add up to the value held at the last export.  That is so for the counters that
an export sets the difference of; the others stay 0 in every delta, and so their deltas add up only as long as they have
counted nothing (`adds_up_iff`, `deltas_add_up_iff`).
-/

namespace VehicleBridge

open ByteText Transition

/-- The counters that a delta has a field for. -/
inductive DeltaCounter
  | bridge (c : BridgeCounter)
  | policyLintIssueCount
  | policyLintWarningCount
  | executedCount
  | rejectedCount
  | taskExceptionCount
  deriving DecidableEq, Repr

namespace DeltaCounter

/-- The value held for a counter. -/
def held (bridge : BridgeMetrics) (pool : ThreadPoolMetrics) : DeltaCounter → UInt64
  | .bridge c => bridge.counter c
  | .policyLintIssueCount => bridge.policyLintIssueCount
  | .policyLintWarningCount => bridge.policyLintWarningCount
  | .executedCount => pool.executedCount
  | .rejectedCount => pool.rejectedCount
  | .taskExceptionCount => pool.taskExceptionCount

def ofDelta (delta : MetricsDelta) : DeltaCounter → UInt64
  | .bridge c => delta.bridgeMetricsDelta.counter c
  | .policyLintIssueCount => delta.bridgeMetricsDelta.policyLintIssueCount
  | .policyLintWarningCount => delta.bridgeMetricsDelta.policyLintWarningCount
  | .executedCount => delta.threadPoolExecutedDelta
  | .rejectedCount => delta.threadPoolRejectedDelta
  | .taskExceptionCount => delta.threadPoolExceptionDelta

/-- The counters that an export sets the difference of. -/
def exported : DeltaCounter → Bool
  | .bridge c => c.exported
  | .policyLintIssueCount => false
  | .policyLintWarningCount => false
  | _ => true

@[simp] theorem held_default (c : DeltaCounter) : c.held {} {} = 0 := by
  cases c with
  | bridge c => exact BridgeMetrics.counter_default c
  | _ => rfl

private theorem ofDelta_export (c : DeltaCounter) (nowMs : UInt64) (a : SystemMetricsAggregator) :
    c.ofDelta (a.exportDeltaSinceLastCall nowMs).1 =
      if c.exported then
        c.held a.bridgeMetrics a.threadPoolMetrics - c.held a.lastExportBridge a.lastExportThreadPool
      else 0 := by
  cases c with
  | bridge c => exact bridgeDelta_counter a.bridgeMetrics a.lastExportBridge c
  | _ => rfl

end DeltaCounter

/-! ### Sequences of calls -/

inductive MetricsCall
  | updateBridgeMetrics (metrics : BridgeMetrics)
  | updateThreadPoolMetrics (metrics : ThreadPoolMetrics)
  | exportDelta (nowMs : UInt64)

/-- An export: the delta, and the metrics held then. -/
structure ExportRecord where
  delta : MetricsDelta
  bridge : BridgeMetrics
  pool : ThreadPoolMetrics

/-- An aggregator, with the exports so far. -/
structure MetricsHistory where
  aggregator : SystemMetricsAggregator := {}
  exports : List ExportRecord := []

/-- The value that the aggregator holds for a counter. -/
def MetricsHistory.held (h : MetricsHistory) (c : DeltaCounter) : UInt64 :=
  c.held h.aggregator.bridgeMetrics h.aggregator.threadPoolMetrics

/-- The value held for a counter at the last export; before the first one, 0. -/
def MetricsHistory.lastHeld (h : MetricsHistory) (c : DeltaCounter) : UInt64 :=
  match h.exports.getLast? with
  | some e => c.held e.bridge e.pool
  | none => 0

def MetricsCall.apply (call : MetricsCall) (h : MetricsHistory) : MetricsHistory :=
  match call with
  | .updateBridgeMetrics metrics => { h with aggregator := h.aggregator.updateBridgeMetrics metrics }
  | .updateThreadPoolMetrics metrics => { h with aggregator := h.aggregator.updateThreadPoolMetrics metrics }
  | .exportDelta nowMs =>
    { aggregator := (h.aggregator.exportDeltaSinceLastCall nowMs).2
      exports := h.exports ++ [{
        delta := (h.aggregator.exportDeltaSinceLastCall nowMs).1
        bridge := h.aggregator.bridgeMetrics
        pool := h.aggregator.threadPoolMetrics }] }

/-- A call after which no counter is less than before. -/
def SupplyStep (h : MetricsHistory) (call : MetricsCall) (h' : MetricsHistory) : Prop :=
  (∀ c, h.held c ≤ (call.apply h).held c) ∧ h' = call.apply h

/-- The sum of what has been exported for a counter. -/
def MetricsHistory.exportedSum (h : MetricsHistory) (c : DeltaCounter) : Nat :=
  (h.exports.map fun e => (c.ofDelta e.delta).toNat).sum

/-- The deltas of a counter add up to the value held at the last export. -/
def MetricsHistory.AddsUp (h : MetricsHistory) (c : DeltaCounter) : Prop :=
  h.exportedSum c = (h.lastHeld c).toNat

/-- Each delta begins at the time at which the one before it ends. -/
def MetricsHistory.Joined (h : MetricsHistory) : Prop :=
  h.exports.IsChain fun e e' => e'.delta.fromTimestampMs = e.delta.toTimestampMs

/-- What holds of a history: the copies of the last export are what was held then, the counters have not decreased
since, and the sums are as they should be for the counters that are exported. -/
structure Telescoped (h : MetricsHistory) : Prop where
  last : ∀ c : DeltaCounter,
    c.held h.aggregator.lastExportBridge h.aggregator.lastExportThreadPool = h.lastHeld c
  timestamp : ∀ e, h.exports.getLast? = some e → e.delta.toTimestampMs = h.aggregator.lastExportTimestampMs
  le : ∀ c, h.lastHeld c ≤ h.held c
  sum : ∀ c, h.exportedSum c = if c.exported then (h.lastHeld c).toNat else 0
  joined : h.Joined

private theorem telescoped_init : Telescoped {} where
  last c := by simp [MetricsHistory.lastHeld]
  timestamp _ h := by cases h
  le c := by simp [MetricsHistory.lastHeld]
  sum c := by simp [MetricsHistory.exportedSum, MetricsHistory.lastHeld]
  joined := .nil

theorem Telescoped.exportDelta {h : MetricsHistory} (ht : Telescoped h) (nowMs : UInt64) :
    Telescoped ((MetricsCall.exportDelta nowMs).apply h) := by
  have hlast (c : DeltaCounter) : ((MetricsCall.exportDelta nowMs).apply h).lastHeld c = h.held c := by
    simp [MetricsHistory.lastHeld, MetricsCall.apply, MetricsHistory.held]
  refine ⟨fun c => (hlast c).symm, fun e he => ?_, fun c => ?_, fun c => ?_, ?_⟩
  · simp only [MetricsCall.apply, List.getLast?_concat, Option.some.injEq] at he
    rw [← he]
    rfl
  · rw [hlast]
    exact UInt64.le_refl _
  · have hsum : ((MetricsCall.exportDelta nowMs).apply h).exportedSum c =
        h.exportedSum c + (c.ofDelta (h.aggregator.exportDeltaSinceLastCall nowMs).1).toNat := by
      simp [MetricsHistory.exportedSum, MetricsCall.apply]
    rw [hsum, hlast, ht.sum, c.ofDelta_export]
    split
    · -- the difference does not wrap, as the counter has not decreased
      have hle := UInt64.le_iff_toNat_le.1 (ht.le c)
      have hsub : (h.held c - h.lastHeld c).toNat = (h.held c).toNat - (h.lastHeld c).toNat :=
        UInt64.toNat_sub_of_le _ _ (ht.le c)
      rw [ht.last, ← MetricsHistory.held, hsub]
      exact Nat.add_sub_of_le hle
    · rfl
  · refine List.isChain_append.2 ⟨ht.joined, .singleton _, fun e he e' he' => ?_⟩
    simp only [List.head?_cons, Option.mem_def, Option.some.injEq] at he'
    rw [← he']
    exact (ht.timestamp e he).symm

/-- **The step lemma**: a call that does not decrease what is held. -/
theorem Telescoped.step {h h' : MetricsHistory} {call : MetricsCall} (ht : Telescoped h)
    (hstep : SupplyStep h call h') : Telescoped h' := by
  obtain ⟨hle, rfl⟩ := hstep
  have hkept (c : DeltaCounter) : h.lastHeld c ≤ (call.apply h).held c := UInt64.le_trans (ht.le c) (hle c)
  cases call with
  | updateBridgeMetrics metrics => exact ⟨ht.last, ht.timestamp, hkept, ht.sum, ht.joined⟩
  | updateThreadPoolMetrics metrics => exact ⟨ht.last, ht.timestamp, hkept, ht.sum, ht.joined⟩
  | exportDelta nowMs => exact ht.exportDelta nowMs

private theorem telescoped_of_run {calls : List MetricsCall} {h : MetricsHistory} (hrun : Run SupplyStep {} calls h) :
    Telescoped h :=
  hrun.invariant (fun _ _ _ ht hstep => ht.step hstep) telescoped_init

/-- The deltas of one counter add up if it is exported, and otherwise as long as it is 0. -/
theorem Telescoped.adds_up_iff {h : MetricsHistory} (ht : Telescoped h) (c : DeltaCounter) :
    h.AddsUp c ↔ (c.exported = false → h.lastHeld c = 0) := by
  unfold MetricsHistory.AddsUp
  rw [ht.sum]
  cases c.exported with
  | true => simp
  | false =>
    have hzero : (h.lastHeld c).toNat = 0 ↔ h.lastHeld c = 0 :=
      ⟨fun heq => UInt64.toNat_inj.1 heq, fun heq => by rw [heq]; rfl⟩
    rw [if_neg (by decide), eq_comm, hzero]
    simp

/-- **Deltas add up** in a sequence of calls that supply counters that never decrease, if and only if at the last export
none of the counters that an export leaves out has counted anything.  The deltas join in any case. -/
theorem deltas_add_up_iff {calls : List MetricsCall} {h : MetricsHistory} (hrun : Run SupplyStep {} calls h) :
    ((∀ c, h.AddsUp c) ∧ h.Joined) ↔ ∀ c : DeltaCounter, c.exported = false → h.lastHeld c = 0 := by
  have ht := telescoped_of_run hrun
  constructor
  · exact fun hadds c => (ht.adds_up_iff c).1 (hadds.1 c)
  · exact fun hzero => ⟨fun c => (ht.adds_up_iff c).2 (hzero c), ht.joined⟩

/-- The metrics of a bridge supplied once to a new aggregator, and an export. -/
def suppliedOnce (metrics : BridgeMetrics) : MetricsHistory :=
  (MetricsCall.exportDelta 1).apply ((MetricsCall.updateBridgeMetrics metrics).apply {})

private theorem suppliedOnce_run (metrics : BridgeMetrics) :
    Run SupplyStep {} ([] ++ [.updateBridgeMetrics metrics] ++ [.exportDelta 1]) (suppliedOnce metrics) := by
  refine ((Run.refl _).snoc ⟨fun c => ?_, rfl⟩).snoc ⟨fun c => UInt64.le_refl _, rfl⟩
  have hzero : ({} : MetricsHistory).held c = 0 := c.held_default
  rw [hzero]
  exact UInt64.zero_le

/-- Metrics of a bridge that has sent so many messages. -/
def traffic (txCount : UInt64) : BridgeMetrics :=
  { txCount, rxCount := 8, reloadFailCount := 1 }

/-- Two exports, between which the traffic has grown. -/
def suppliedTwice : MetricsHistory :=
  (MetricsCall.exportDelta 2).apply
    ((MetricsCall.updateBridgeMetrics (traffic 25)).apply (suppliedOnce (traffic 10)))

/-- The first export has ten messages sent, the second one fifteen more. -/
theorem deltas_add_up_traffic : (∀ c, suppliedTwice.AddsUp c) ∧ suppliedTwice.Joined ∧
    suppliedTwice.exports.map (fun e => e.delta.bridgeMetricsDelta.txCount) = [10, 15] := by
  obtain ⟨calls, hrun⟩ : ∃ calls, Run SupplyStep {} calls suppliedTwice := by
    refine ⟨_, ((suppliedOnce_run (traffic 10)).snoc (o := .updateBridgeMetrics (traffic 25)) ⟨fun c => ?_, rfl⟩).snoc
      (o := .exportDelta 2) ⟨fun c => UInt64.le_refl _, rfl⟩⟩
    cases c with
    | bridge c =>
      cases c with
      | event c => cases c <;> decide
      | entry c => cases c <;> exact UInt64.le_refl _
    | _ => decide
  have hexact := (deltas_add_up_iff hrun).2 fun c hc => by
    cases c with
    | bridge c => rcases c with c | c <;> cases c <;> first | rfl | cases hc
    | policyLintIssueCount => rfl
    | policyLintWarningCount => rfl
    | _ => cases hc
  exact ⟨hexact.1, hexact.2, by decide⟩

/-- The metrics that the test of the deltas supplies first, among them a rollback: its count is in no delta. -/
theorem deltas_not_add_up : ¬ ∀ (calls : List MetricsCall) (h : MetricsHistory), Run SupplyStep {} calls h →
    (∀ c, h.AddsUp c) ∧ h.Joined := by
  intro h
  have hadds := (h _ _ (suppliedOnce_run
    { txCount := 10, rxCount := 8, routeMissCount := 1, policyLintIssueCount := 2, policyLintWarningCount := 1,
      reloadSuccessCount := 3, reloadFailCount := 1, reloadRollbackCount := 1, lastReloadStatusCode := 42,
      traceIndexHitCount := 5, traceIndexMissCount := 2, traceLinkedEventCount := 7 })).1
        (.bridge (.event .reloadRollbackCount))
  revert hadds
  unfold MetricsHistory.AddsUp
  decide

end VehicleBridge
