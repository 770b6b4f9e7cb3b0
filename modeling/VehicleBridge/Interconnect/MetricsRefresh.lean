import VehicleBridge.Interconnect.SystemMetricsAggregator
import VehicleBridge.Lib.Readings
import VehicleBridge.Lib.Threads
import VehicleBridge.Lib.Transition

/-!
# Refreshing the metrics

`RefreshAggregatedMetrics` reads the counters one after the other, without a lock, and then stores what it has read
in the aggregator, where it replaces what an earlier refresh has stored.  Publishers, inbound loops and exporters do
so at the same time, and the counters go on counting.  With the log of all increments, each value that is gathered or
held is a reading at some time (`Consistent`).  A store takes a counter back exactly when the counter has been
incremented after the refresh read it and before the refresh did that it replaces (`stored_le_iff`); where no store
does that, what the aggregator holds never decreases and no exported difference wraps (`metrics_never_decrease`).
-/

namespace VehicleBridge

open Threads Transition Readings

/-- The counters that threads increment: those of the bridge and those of its thread pool. -/
inductive LiveCounter
  | bridge (c : BridgeCounter)
  | pool (c : PoolCounter)
  deriving DecidableEq, Repr

/-- The fields of the metrics that are no counters of events, as a refresh finds them. -/
structure OtherMetrics where
  policyLintIssueCount : UInt64 := 0
  policyLintWarningCount : UInt64 := 0
  lastReloadTimestampMs : UInt64 := 0
  lastReloadStatusCode : Int32 := 0
  reloadRollbackReasonCode : Int32 := 0
  loadedConfigVersion : UInt64 := 0
  protocolModeCode : UInt32 := 0
  protocolCapLegacy : UInt64 := 1
  protocolCapCompact : UInt64 := 1
  protocolCapProtobuf : UInt64 := 0
  protocolCapCbor : UInt64 := 0
  configuredTransportPoolSize : UInt64 := 2
  transportPrimaryHealthy : UInt64 := 1
  transportSecondaryHealthy : UInt64 := 1
  queueSize : UInt64 := 0
  queueCapacity : UInt64 := 0
  workerCount : UInt64 := 0
  running : Bool := false

/-- The metrics that a refresh hands to `UpdateBridgeMetrics`. -/
def refreshedMetrics (values : LiveCounter → UInt64) (other : OtherMetrics) : BridgeMetrics :=
  let event (c : EventCounter) := values (.bridge (.event c))
  let entry (c : MapEntry) := values (.bridge (.entry c))
  { txCount := event .txCount
    txFailCount := event .txFailCount
    rxCount := event .rxCount
    encodeFailCount := event .encodeFailCount
    decodeFailCount := event .decodeFailCount
    expiredDropCount := event .expiredDropCount
    routeMissCount := event .routeMissCount
    handlerErrorCount := event .handlerErrorCount
    invalidEnvelopeCount := event .invalidEnvelopeCount
    transportErrorCount := event .transportErrorCount
    backpressureDropCount := event .backpressureDropCount
    policyHitCount := event .policyHitCount
    policyOverrideCount := event .policyOverrideCount
    policyConflictCount := event .policyConflictCount
    policyConflictSampledCount := event .policyConflictSampledCount
    policyCacheHitCount := event .policyCacheHitCount
    policyCacheMissCount := event .policyCacheMissCount
    policyLintIssueCount := other.policyLintIssueCount
    policyLintWarningCount := other.policyLintWarningCount
    traceIdPresentCount := event .traceIdPresentCount
    traceIdMissingCount := event .traceIdMissingCount
    traceIdSampledCount := event .traceIdSampledCount
    traceIndexHitCount := event .traceIndexHitCount
    traceIndexMissCount := event .traceIndexMissCount
    traceLinkedEventCount := event .traceLinkedEventCount
    slaViolationSampledCount := event .slaViolationSampledCount
    reloadSuccessCount := event .reloadSuccessCount
    reloadFailCount := event .reloadFailCount
    reloadRollbackCount := event .reloadRollbackCount
    lastReloadTimestampMs := other.lastReloadTimestampMs
    lastReloadStatusCode := other.lastReloadStatusCode
    reloadRollbackReasonCode := other.reloadRollbackReasonCode
    loadedConfigVersion := other.loadedConfigVersion
    protocolModeCode := other.protocolModeCode
    protocolCapLegacy := other.protocolCapLegacy
    protocolCapCompact := other.protocolCapCompact
    protocolCapProtobuf := other.protocolCapProtobuf
    protocolCapCbor := other.protocolCapCbor
    configuredTransportPoolSize := other.configuredTransportPoolSize
    failoverHitCount := event .failoverHitCount
    transportPrimaryHealthy := other.transportPrimaryHealthy
    transportSecondaryHealthy := other.transportSecondaryHealthy
    diagDumpStateCount := event .diagDumpStateCount
    diagRouteEventCount := event .diagRouteEventCount
    diagFailoverEventCount := event .diagFailoverEventCount
    topicTxCount := fun topic => entry (.topicTxCount topic)
    topicRxCount := fun topic => entry (.topicRxCount topic)
    topicExpiredDropCount := fun topic => entry (.topicExpiredDropCount topic)
    channelTxCount := fun channel => entry (.channelTxCount channel)
    channelRxCount := fun channel => entry (.channelRxCount channel)
    channelExpiredDropCount := fun channel => entry (.channelExpiredDropCount channel)
    qosTxCount := fun qos => entry (.qosTxCount qos)
    qosRxCount := fun qos => entry (.qosRxCount qos)
    qosExpiredDropCount := fun qos => entry (.qosExpiredDropCount qos) }

/-- What `ThreadPool::GetMetrics` hands to `UpdateThreadPoolMetrics`. -/
def refreshedPoolMetrics (values : LiveCounter → UInt64) (other : OtherMetrics) : ThreadPoolMetrics :=
  { queueSize := other.queueSize
    queueCapacity := other.queueCapacity
    submittedCount := values (.pool .submittedCount)
    executedCount := values (.pool .executedCount)
    rejectedCount := values (.pool .rejectedCount)
    taskExceptionCount := values (.pool .taskExceptionCount)
    workerCount := other.workerCount
    running := other.running }

/-! ### The steps of a refresh -/

inductive RefreshStep
  | load (c : EventCounter)
  | loadMaps
  | updateBridgeMetrics
  | loadPool (c : PoolCounter)
  | updateThreadPoolMetrics
  deriving DecidableEq, Repr

/-- The steps of `RefreshAggregatedMetrics` on the counters, in order. -/
def refreshSteps : List RefreshStep :=
  [.load .txCount, .load .txFailCount, .load .rxCount, .load .encodeFailCount, .load .decodeFailCount,
    .load .expiredDropCount, .load .routeMissCount, .load .handlerErrorCount, .load .invalidEnvelopeCount,
    .load .transportErrorCount, .load .backpressureDropCount, .load .policyHitCount, .load .policyOverrideCount,
    .load .policyConflictCount, .load .policyConflictSampledCount, .load .policyCacheHitCount,
    .load .policyCacheMissCount, .load .traceIdPresentCount, .load .traceIdMissingCount, .load .traceIdSampledCount,
    .load .traceIndexHitCount, .load .traceIndexMissCount, .load .traceLinkedEventCount,
    .load .slaViolationSampledCount, .load .reloadSuccessCount, .load .reloadFailCount, .load .reloadRollbackCount,
    .load .failoverHitCount, .load .diagDumpStateCount, .load .diagRouteEventCount, .load .diagFailoverEventCount,
    .loadMaps, .updateBridgeMetrics,
    .loadPool .submittedCount, .loadPool .executedCount, .loadPool .rejectedCount, .loadPool .taskExceptionCount,
    .updateThreadPoolMetrics]

namespace RefreshStep

/-- The counters that the step reads. -/
def loads : RefreshStep → LiveCounter → Bool
  | .load c, .bridge (.event d) => decide (d = c)
  | .loadMaps, .bridge (.entry _) => true
  | .loadPool c, .pool d => decide (d = c)
  | _, _ => false

/-- The counters whose stored values the step replaces. -/
def stores : RefreshStep → LiveCounter → Bool
  | .updateBridgeMetrics, .bridge _ => true
  | .updateThreadPoolMetrics, .pool _ => true
  | _, _ => false

end RefreshStep

/-- Every counter is read in a refresh. -/
theorem exists_loads (c : LiveCounter) : ∃ step ∈ refreshSteps, step.loads c = true := by
  cases c with
  | bridge c =>
    cases c with
    | event c => exact ⟨.load c, by cases c <;> decide, by simp [RefreshStep.loads]⟩
    | entry c => exact ⟨.loadMaps, by decide, rfl⟩
  | pool c => exact ⟨.loadPool c, by cases c <;> decide, by simp [RefreshStep.loads]⟩

/-- What a refresh has read, and when. -/
structure Gathered where
  values : LiveCounter → UInt64 := fun _ => 0
  readAt : LiveCounter → Nat := fun _ => 0

/-- What a refresh finds besides the counters, and the clock of the export that follows it. -/
structure RefreshEnv where
  other : OtherMetrics := {}
  nowMs : UInt64 := 0

inductive RefreshPhase
  | idle
  | refreshing (env : RefreshEnv) (exporting : Bool) (todo : List RefreshStep) (gathered : Gathered)

inductive RefreshTurn
  | refresh (env : RefreshEnv) (exporting : Bool)
  | proceed

/-- The counters, the aggregator and its exports.  The log lists the increments so far, and `heldAt` tells when the
values that the aggregator holds were read. -/
structure MetricsShared where
  live : LiveCounter → UInt64 := fun _ => 0
  aggregator : SystemMetricsAggregator := {}
  exports : List MetricsDelta := []
  log : List LiveCounter := []
  heldAt : LiveCounter → Nat := fun _ => 0

namespace MetricsShared

def increment (c : LiveCounter) (sh : MetricsShared) : MetricsShared :=
  { sh with
    live := fun d => if d = c then sh.live d + 1 else sh.live d
    log := sh.log ++ [c] }

/-- The value that the aggregator holds. -/
def held (sh : MetricsShared) : LiveCounter → UInt64
  | .bridge c => sh.aggregator.bridgeMetrics.counter c
  | .pool c => sh.aggregator.threadPoolMetrics.counter c

/-- The value at the last export. -/
def lastExported (sh : MetricsShared) : LiveCounter → UInt64
  | .bridge c => sh.aggregator.lastExportBridge.counter c
  | .pool c => sh.aggregator.lastExportThreadPool.counter c

def load (step : RefreshStep) (gathered : Gathered) (sh : MetricsShared) : Gathered :=
  { values := fun c => if step.loads c then sh.live c else gathered.values c
    readAt := fun c => if step.loads c then sh.log.length else gathered.readAt c }

def store (step : RefreshStep) (env : RefreshEnv) (gathered : Gathered) (sh : MetricsShared) : MetricsShared :=
  { sh with
    aggregator :=
      match step with
      | .updateBridgeMetrics => sh.aggregator.updateBridgeMetrics (refreshedMetrics gathered.values env.other)
      | .updateThreadPoolMetrics =>
        sh.aggregator.updateThreadPoolMetrics (refreshedPoolMetrics gathered.values env.other)
      | _ => sh.aggregator
    heldAt := fun c => if step.stores c then gathered.readAt c else sh.heldAt c }

def exportDelta (nowMs : UInt64) (sh : MetricsShared) : MetricsShared :=
  { sh with
    aggregator := (sh.aggregator.exportDeltaSinceLastCall nowMs).2
    exports := sh.exports ++ [(sh.aggregator.exportDeltaSinceLastCall nowMs).1] }

end MetricsShared

/-- The next step of a thread.  A call that is not forced and comes too soon after the last refresh is none here. -/
def RefreshPhase.step (phase : RefreshPhase) (turn : RefreshTurn) (sh : MetricsShared) :
    Option (RefreshPhase × MetricsShared) :=
  match phase, turn with
  | .idle, .refresh env exporting => some (.refreshing env exporting refreshSteps {}, sh)
  | .refreshing env exporting (step :: todo) gathered, .proceed =>
    some (.refreshing env exporting todo (sh.load step gathered), sh.store step env gathered)
  | .refreshing env true [] _, .proceed => some (.idle, sh.exportDelta env.nowMs)
  | .refreshing _ false [] _, .proceed => some (.idle, sh)
  | _, _ => none

abbrev MetricsSystem := System MetricsShared RefreshPhase

/-- Any number of threads on a new bridge. -/
def MetricsSystem.start (threads : Nat) : MetricsSystem :=
  { shared := {}, locals := List.replicate threads .idle }

/-- A counter counts, or a thread goes on with a refresh. -/
inductive MetricsOp
  | increment (c : LiveCounter)
  | turn (i : Nat) (t : RefreshTurn)

def MetricsSystem.exec (s : MetricsSystem) : MetricsOp → Option MetricsSystem
  | .increment c => some { s with shared := s.shared.increment c }
  | .turn i t => System.turn RefreshPhase.step s i t

/-- The difference that a delta has for a counter; there is none for submitted tasks. -/
def MetricsDelta.live (delta : MetricsDelta) : LiveCounter → UInt64
  | .bridge c => delta.bridgeMetricsDelta.counter c
  | .pool .submittedCount => 0
  | .pool .executedCount => delta.threadPoolExecutedDelta
  | .pool .rejectedCount => delta.threadPoolRejectedDelta
  | .pool .taskExceptionCount => delta.threadPoolExceptionDelta

/-- The operation is in order: no counter passes `2^64`, and a store does not replace a value by one that was read
before it, if the counter has been incremented in between. -/
def MetricsSystem.InOrder (s : MetricsSystem) : MetricsOp → Prop
  | .increment c => s.shared.log.count c + 1 < 2 ^ 64
  | .turn i _ =>
    match s.locals[i]? with
    | some (.refreshing _ _ (step :: _) gathered) =>
      ∀ c ∈ s.shared.log, step.stores c = true →
        ¬ Overtaken s.shared.log (gathered.readAt c) (s.shared.heldAt c) c
    | _ => True

instance (s : MetricsSystem) (op : MetricsOp) : Decidable (s.InOrder op) :=
  match op with
  | .increment c => inferInstanceAs (Decidable (s.shared.log.count c + 1 < 2 ^ 64))
  | .turn i _ =>
    match h : s.locals[i]? with
    | some (.refreshing _ _ (step :: _) gathered) =>
      decidable_of_iff (∀ c ∈ s.shared.log, step.stores c = true →
        ¬ Overtaken s.shared.log (gathered.readAt c) (s.shared.heldAt c) c) (by rw [MetricsSystem.InOrder, h])
    | some (.refreshing _ _ [] _) => isTrue (by rw [MetricsSystem.InOrder, h]; trivial)
    | some .idle => isTrue (by rw [MetricsSystem.InOrder, h]; trivial)
    | none => isTrue (by rw [MetricsSystem.InOrder, h]; trivial)

def OrderedStep (s : MetricsSystem) (op : MetricsOp) (s' : MetricsSystem) : Prop :=
  s.InOrder op ∧ s.exec op = some s'

/-! ### What the aggregator holds -/

private theorem counter_refreshedMetrics (values : LiveCounter → UInt64) (other : OtherMetrics) (c : BridgeCounter) :
    (refreshedMetrics values other).counter c = values (.bridge c) := by
  rcases c with c | c <;> cases c <;> rfl

private theorem counter_refreshedPoolMetrics (values : LiveCounter → UInt64) (other : OtherMetrics) (c : PoolCounter) :
    (refreshedPoolMetrics values other).counter c = values (.pool c) := by
  cases c <;> rfl

private theorem held_store (sh : MetricsShared) (step : RefreshStep) (env : RefreshEnv) (gathered : Gathered)
    (c : LiveCounter) :
    (sh.store step env gathered).held c = if step.stores c then gathered.values c else sh.held c := by
  cases step <;> cases c <;>
    first
      | rfl
      | exact counter_refreshedMetrics gathered.values env.other _
      | exact counter_refreshedPoolMetrics gathered.values env.other _

private theorem lastExported_store (sh : MetricsShared) (step : RefreshStep) (env : RefreshEnv) (gathered : Gathered)
    (c : LiveCounter) : (sh.store step env gathered).lastExported c = sh.lastExported c := by
  cases step <;> cases c <;> rfl

/-- The delta of an export has differences of what is held. -/
private theorem live_exportDelta (sh : MetricsShared) (nowMs : UInt64) (c : LiveCounter) :
    (sh.aggregator.exportDeltaSinceLastCall nowMs).1.live c = sh.held c - sh.lastExported c ∨
      (sh.aggregator.exportDeltaSinceLastCall nowMs).1.live c = 0 := by
  cases c with
  | bridge c =>
    have hcounter := bridgeDelta_counter sh.aggregator.bridgeMetrics sh.aggregator.lastExportBridge c
    split at hcounter
    · exact .inl hcounter
    · exact .inr hcounter
  | pool c => cases c <;> first | exact .inl rfl | exact .inr rfl

/-! ### Readings -/

/-- Values that are readings of the counters, at times up to now. -/
structure AreReadings (log : List LiveCounter) (values : LiveCounter → UInt64) (readAt : LiveCounter → Nat) : Prop where
  readAt_le : ∀ c, readAt c ≤ log.length
  value : ∀ c, (values c).toNat = valueAt log (readAt c) c

theorem AreReadings.append {log : List LiveCounter} {values : LiveCounter → UInt64} {readAt : LiveCounter → Nat}
    (h : AreReadings log values readAt) (l : List LiveCounter) : AreReadings (log ++ l) values readAt where
  readAt_le c := by
    have hle := h.readAt_le c
    rw [List.length_append]
    omega
  value c := by rw [h.value c, valueAt_append (h.readAt_le c)]

private theorem AreReadings.ite {log : List LiveCounter} {values values' : LiveCounter → UInt64}
    {readAt readAt' : LiveCounter → Nat} (h : AreReadings log values readAt) (h' : AreReadings log values' readAt')
    (p : LiveCounter → Bool) :
    AreReadings log (fun c => if p c then values c else values' c) (fun c => if p c then readAt c else readAt' c) where
  readAt_le c := by
    split
    · exact h.readAt_le c
    · exact h'.readAt_le c
  value c := by
    split
    · exact h.value c
    · exact h'.value c

/-- Of two readings of a counter, the first is at most the second unless an increment came between them. -/
private theorem AreReadings.le_iff {log : List LiveCounter} {values values' : LiveCounter → UInt64}
    {readAt readAt' : LiveCounter → Nat} (h : AreReadings log values readAt) (h' : AreReadings log values' readAt')
    (c : LiveCounter) : values c ≤ values' c ↔ ¬ Overtaken log (readAt' c) (readAt c) c := by
  rw [UInt64.le_iff_toNat_le, h.value, h'.value, valueAt_le_iff]

/-- What a thread has gathered are readings. -/
def RefreshPhase.Reads (log : List LiveCounter) : RefreshPhase → Prop
  | .idle => True
  | .refreshing _ _ _ gathered => AreReadings log gathered.values gathered.readAt

/-- The counters count the increments of the log, what is held or gathered are readings of them, and the exports so
far have not wrapped. -/
structure Consistent (s : MetricsSystem) : Prop where
  live : AreReadings s.shared.log s.shared.live fun _ => s.shared.log.length
  held : AreReadings s.shared.log s.shared.held s.shared.heldAt
  gathered : ∀ phase ∈ s.locals, phase.Reads s.shared.log
  exported : ∀ c, s.shared.lastExported c ≤ s.shared.held c
  deltas : ∀ delta ∈ s.shared.exports, ∀ c, (delta.live c).toNat ≤ s.shared.log.count c

private theorem areReadings_zero (log : List LiveCounter) : AreReadings log (fun _ => 0) fun _ => 0 where
  readAt_le _ := Nat.zero_le _
  value _ := rfl

private theorem consistent_start (threads : Nat) : Consistent (MetricsSystem.start threads) where
  live := areReadings_zero []
  held := by
    refine ⟨fun _ => Nat.le_refl 0, fun c => ?_⟩
    cases c with
    | bridge c => exact congrArg UInt64.toNat (BridgeMetrics.counter_default c)
    | pool c => exact congrArg UInt64.toNat (ThreadPoolMetrics.counter_default c)
  gathered phase hphase := by
    rw [List.eq_of_mem_replicate hphase]
    trivial
  exported c := by cases c <;> exact UInt64.le_refl _
  deltas _ h := absurd h List.not_mem_nil

private theorem Consistent.live_toNat {s : MetricsSystem} (h : Consistent s) (c : LiveCounter) :
    (s.shared.live c).toNat = s.shared.log.count c := by
  rw [h.live.value c, valueAt_length]

/-! ### One step -/

theorem Consistent.increment {s : MetricsSystem} (h : Consistent s) {c : LiveCounter}
    (hbound : s.shared.log.count c + 1 < 2 ^ 64) :
    Consistent { s with shared := s.shared.increment c } := by
  refine ⟨⟨fun _ => Nat.le_refl _, fun d => ?_⟩, h.held.append [c], fun phase hphase => ?_, h.exported,
    fun delta hdelta d => ?_⟩
  · have hlive := h.live_toNat d
    simp only [MetricsShared.increment, valueAt_length, List.count_append, List.count_singleton]
    split
    · next heq =>
      subst heq
      rw [UInt64.toNat_add, hlive, beq_self_eq_true, if_pos rfl]
      exact Nat.mod_eq_of_lt hbound
    · next hne =>
      rw [hlive, if_neg (by simpa using Ne.symm hne)]
      rfl
  · have hreads := h.gathered phase hphase
    cases phase with
    | idle => trivial
    | refreshing env exporting todo gathered => exact AreReadings.append hreads [c]
  · exact (h.deltas delta hdelta d).trans ((List.sublist_append_left s.shared.log [c]).count_le d)

/-- The turns of a thread. -/
private theorem MetricsSystem.exec_turn_cases {s s' : MetricsSystem} {i : Nat} {t : RefreshTurn}
    (h : s.exec (.turn i t) = some s') :
    (∃ env exporting, s.locals[i]? = some .idle ∧
        s' = { s with locals := s.locals.set i (.refreshing env exporting refreshSteps {}) }) ∨
      (∃ env exporting step todo gathered,
        s.locals[i]? = some (.refreshing env exporting (step :: todo) gathered) ∧
          s' = { shared := s.shared.store step env gathered
                 locals := s.locals.set i (.refreshing env exporting todo (s.shared.load step gathered)) }) ∨
      (∃ env gathered, s.locals[i]? = some (.refreshing env true [] gathered) ∧
        s' = { shared := s.shared.exportDelta env.nowMs, locals := s.locals.set i .idle }) ∨
      ∃ env gathered, s.locals[i]? = some (.refreshing env false [] gathered) ∧
        s' = { s with locals := s.locals.set i .idle } := by
  obtain ⟨phase, phase', shared, hphase, hstep, rfl⟩ := System.turn_eq_some h
  unfold RefreshPhase.step at hstep
  split at hstep
  · next env exporting =>
    cases hstep
    exact .inl ⟨env, exporting, hphase, rfl⟩
  · next env exporting step todo gathered =>
    cases hstep
    exact .inr (.inl ⟨env, exporting, step, todo, gathered, hphase, rfl⟩)
  · next env gathered =>
    cases hstep
    exact .inr (.inr (.inl ⟨env, gathered, hphase, rfl⟩))
  · next env gathered =>
    cases hstep
    exact .inr (.inr (.inr ⟨env, gathered, hphase, rfl⟩))
  · cases hstep

/-- A step of a refresh leaves no counter held with less than before, exactly when it replaces no value by one that has
been overtaken. -/
theorem stored_le_iff {sh : MetricsShared} {gathered : Gathered} (hheld : AreReadings sh.log sh.held sh.heldAt)
    (hgathered : AreReadings sh.log gathered.values gathered.readAt) (step : RefreshStep) (env : RefreshEnv) :
    (∀ c, sh.held c ≤ (sh.store step env gathered).held c) ↔
      ∀ c ∈ sh.log, step.stores c = true → ¬ Overtaken sh.log (gathered.readAt c) (sh.heldAt c) c := by
  constructor
  · intro hle c _ hstores
    have hc := hle c
    rw [held_store, if_pos hstores] at hc
    exact (hheld.le_iff hgathered c).1 hc
  · intro horder c
    rw [held_store]
    split
    · next hstores =>
      exact (hheld.le_iff hgathered c).2 fun hover => horder c (mem_of_overtaken hover) hstores hover
    · exact UInt64.le_refl _

theorem Consistent.store {s : MetricsSystem} (h : Consistent s) {i : Nat} {env : RefreshEnv} {exporting : Bool}
    {step : RefreshStep} {todo : List RefreshStep} {gathered : Gathered}
    (hphase : s.locals[i]? = some (.refreshing env exporting (step :: todo) gathered))
    (hle : ∀ c, s.shared.held c ≤ (s.shared.store step env gathered).held c) :
    Consistent { shared := s.shared.store step env gathered
                 locals := s.locals.set i (.refreshing env exporting todo (s.shared.load step gathered)) } := by
  have hgathered : AreReadings s.shared.log gathered.values gathered.readAt :=
    h.gathered _ (List.mem_of_getElem? hphase)
  refine ⟨h.live, ?_, forall_set i h.gathered (h.live.ite hgathered step.loads), fun c => ?_, h.deltas⟩
  · have hheld : (s.shared.store step env gathered).held =
        fun c => if step.stores c then gathered.values c else s.shared.held c :=
      funext fun c => held_store s.shared step env gathered c
    dsimp only
    rw [hheld]
    exact hgathered.ite h.held step.stores
  · dsimp only
    rw [lastExported_store]
    exact UInt64.le_trans (h.exported c) (hle c)

theorem Consistent.exportDelta {s : MetricsSystem} (h : Consistent s) (i : Nat) (nowMs : UInt64) :
    Consistent { shared := s.shared.exportDelta nowMs, locals := s.locals.set i .idle } := by
  refine ⟨h.live, ?_, forall_set i h.gathered trivial, fun c => ?_, fun delta hdelta c => ?_⟩
  · have hheld : (s.shared.exportDelta nowMs).held = s.shared.held := funext fun c => by cases c <;> rfl
    dsimp only
    rw [hheld]
    exact h.held
  · cases c <;> exact UInt64.le_refl _
  · rcases List.mem_append.1 hdelta with hold | hnew
    · exact h.deltas delta hold c
    · rw [List.mem_singleton.1 hnew]
      -- the difference does not wrap
      have hheld : (s.shared.held c).toNat ≤ s.shared.log.count c := by
        rw [h.held.value c]
        exact valueAt_le_count ..
      rcases live_exportDelta s.shared nowMs c with hsub | hzero
      · rw [hsub, UInt64.toNat_sub_of_le _ _ (h.exported c)]
        exact (Nat.sub_le _ _).trans hheld
      · rw [hzero]
        exact Nat.zero_le _

/-- **The step lemma**: an operation in order. -/
theorem Consistent.step {s s' : MetricsSystem} {op : MetricsOp} (h : Consistent s) (hstep : OrderedStep s op s') :
    Consistent s' ∧ ∀ c, s.shared.held c ≤ s'.shared.held c := by
  obtain ⟨horder, hexec⟩ := hstep
  cases op with
  | increment c =>
    cases hexec
    exact ⟨h.increment horder, fun d => UInt64.le_refl _⟩
  | turn i t =>
    rcases MetricsSystem.exec_turn_cases hexec with ⟨env, exporting, hphase, rfl⟩ |
      ⟨env, exporting, step, todo, gathered, hphase, rfl⟩ | ⟨env, gathered, hphase, rfl⟩ | ⟨env, gathered, hphase, rfl⟩
    · exact ⟨⟨h.live, h.held, forall_set i h.gathered (areReadings_zero _), h.exported, h.deltas⟩,
        fun c => UInt64.le_refl _⟩
    · rw [MetricsSystem.InOrder, hphase] at horder
      have hle := (stored_le_iff h.held (h.gathered _ (List.mem_of_getElem? hphase)) step env).2 horder
      exact ⟨h.store hphase hle, hle⟩
    · exact ⟨h.exportDelta i env.nowMs, fun c => by cases c <;> exact UInt64.le_refl _⟩
    · exact ⟨⟨h.live, h.held, forall_set i h.gathered trivial, h.exported, h.deltas⟩, fun c => UInt64.le_refl _⟩

/-- A turn takes no counter back exactly when it is in order. -/
theorem Consistent.turn_iff {s s' : MetricsSystem} {i : Nat} {t : RefreshTurn} (h : Consistent s)
    (hexec : s.exec (.turn i t) = some s') :
    (∀ c, s.shared.held c ≤ s'.shared.held c) ↔ s.InOrder (.turn i t) := by
  rcases MetricsSystem.exec_turn_cases hexec with ⟨env, exporting, hphase, rfl⟩ |
    ⟨env, exporting, step, todo, gathered, hphase, rfl⟩ | ⟨env, gathered, hphase, rfl⟩ | ⟨env, gathered, hphase, rfl⟩
  · rw [MetricsSystem.InOrder, hphase]
    exact iff_of_true (fun c => UInt64.le_refl _) trivial
  · rw [MetricsSystem.InOrder, hphase]
    exact stored_le_iff h.held (h.gathered _ (List.mem_of_getElem? hphase)) step env
  · rw [MetricsSystem.InOrder, hphase]
    exact iff_of_true (fun c => by cases c <;> exact UInt64.le_refl _) trivial
  · rw [MetricsSystem.InOrder, hphase]
    exact iff_of_true (fun c => UInt64.le_refl _) trivial

/-! ### All the steps -/

private theorem consistent_of_run {threads : Nat} {ops : List MetricsOp} {s : MetricsSystem}
    (hrun : Run OrderedStep (MetricsSystem.start threads) ops s) : Consistent s :=
  hrun.invariant (fun _ _ _ h hstep => (h.step hstep).1) (consistent_start threads)

/-- What the aggregator holds only grows. -/
private theorem Consistent.held_le {s s' : MetricsSystem} {ops : List MetricsOp} (h : Consistent s)
    (hrun : Run OrderedStep s ops s') (c : LiveCounter) : s.shared.held c ≤ s'.shared.held c := by
  have hboth : Consistent s' ∧ s.shared.held c ≤ s'.shared.held c :=
    hrun.invariant (I := fun s' => Consistent s' ∧ s.shared.held c ≤ s'.shared.held c)
      (fun _ _ _ hs hstep => ⟨(hs.1.step hstep).1, UInt64.le_trans hs.2 ((hs.1.step hstep).2 c)⟩)
      ⟨h, UInt64.le_refl _⟩
  exact hboth.2

/-- **Metrics never run backwards** in a run of which every operation is in order: what the aggregator holds of a
counter never decreases, and an exported difference is at most the number of increments of the counter.  A further turn
takes no counter back exactly when it is in order. -/
theorem metrics_never_decrease {threads : Nat} {ops : List MetricsOp} {s : MetricsSystem}
    (hrun : Run OrderedStep (MetricsSystem.start threads) ops s) :
    (∀ ops' s', Run OrderedStep s ops' s' → ∀ c, s.shared.held c ≤ s'.shared.held c) ∧
      (∀ delta ∈ s.shared.exports, ∀ c, (delta.live c).toNat ≤ s.shared.log.count c) ∧
        ∀ i t s', s.exec (.turn i t) = some s' →
          ((∀ c, s.shared.held c ≤ s'.shared.held c) ↔ s.InOrder (.turn i t)) := by
  have h := consistent_of_run hrun
  exact ⟨fun _ _ hrun' => h.held_le hrun', h.deltas, fun _ _ _ hexec => h.turn_iff hexec⟩

/-- A message is sent and counted. -/
def countSent : MetricsOp :=
  .increment (.bridge (.event .txCount))

/-- The rest of a call of a thread, which has so many steps. -/
def goOn (i steps : Nat) : List MetricsOp :=
  List.replicate steps (.turn i .proceed)

/-- One export, from its first step to its last. -/
def exportOps : List MetricsOp :=
  countSent :: .turn 0 (.refresh {} true) :: goOn 0 39

theorem metrics_never_decrease_export : ∃ s, Run OrderedStep (MetricsSystem.start 1) exportOps s ∧
    s.shared.exports.map (fun delta => delta.live (.bridge (.event .txCount))) = [1] ∧
      ∀ delta ∈ s.shared.exports, ∀ c, (delta.live c).toNat ≤ s.shared.log.count c := by
  have hexec : (exportOps.foldlM
      (fun s op => if MetricsSystem.InOrder s op then MetricsSystem.exec s op else none)
      (MetricsSystem.start 1)).map
        (fun s : MetricsSystem => s.shared.exports.map fun delta => delta.live (.bridge (.event .txCount))) =
          some [1] := by decide +kernel
  obtain ⟨s, hs, heq⟩ := Option.map_eq_some_iff.1 hexec
  have hrun : Run OrderedStep (MetricsSystem.start 1) exportOps s := Run.of_foldlM_guarded hs
  exact ⟨s, hrun, heq, (metrics_never_decrease hrun).2.1⟩

/-- The first exporter reads the counter of sent messages, a message is sent, the second exporter does its export, and
the first goes on with its own. -/
def overtakenOps : List MetricsOp :=
  [.turn 0 (.refresh {} true), .turn 0 .proceed, countSent, .turn 1 (.refresh {} true)] ++ goOn 1 39 ++ goOn 0 38

/-- The second export tells of `2^64 - 1` messages sent since the first one. -/
theorem metrics_decrease : ¬ ∀ (threads : Nat) (ops : List MetricsOp) (s : MetricsSystem),
    Run (fun s op s' => s.exec op = some s') (MetricsSystem.start threads) ops s →
      (∀ ops' s', Run (fun s op s' => s.exec op = some s') s ops' s' → ∀ c, s.shared.held c ≤ s'.shared.held c) ∧
        ∀ delta ∈ s.shared.exports, ∀ c, (delta.live c).toNat ≤ s.shared.log.count c := by
  intro h
  have hexec : (overtakenOps.foldlM MetricsSystem.exec (MetricsSystem.start 2)).map
      (fun s : MetricsSystem => (s.shared.exports.map fun delta => delta.live (.bridge (.event .txCount)),
        s.shared.log)) =
          some ([1, 18446744073709551615], [.bridge (.event .txCount)]) := by decide +kernel
  obtain ⟨s, hs, heq⟩ := Option.map_eq_some_iff.1 hexec
  simp only [Prod.mk.injEq] at heq
  have hmem : 18446744073709551615 ∈
      s.shared.exports.map fun delta => delta.live (.bridge (.event .txCount)) := by
    rw [heq.1]
    decide
  obtain ⟨delta, hdelta, hlive⟩ := List.mem_map.1 hmem
  have hle := (h 2 overtakenOps s (Run.of_foldlM hs)).2 delta hdelta (.bridge (.event .txCount))
  rw [hlive, heq.2] at hle
  revert hle
  decide

end VehicleBridge
