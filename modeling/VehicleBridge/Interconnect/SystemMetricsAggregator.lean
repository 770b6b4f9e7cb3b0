import VehicleBridge.Interconnect.MessageEnvelope

/-!
# The metrics aggregator

`SystemMetricsAggregator` holds the metrics of the bridge and of its thread pool as last supplied, and exports the
differences since the last export.  The counters among the fields are named by `BridgeCounter`, `LintCount` and
`PoolCounter`; the other fields are settings and states that a difference makes no sense for.
-/

namespace VehicleBridge

open ByteText

/-- `std::unordered_map` from keys to `std::uint64_t`; a missing key reads as 0. -/
abbrev MetricMap (α : Type) := α → UInt64

structure BridgeMetrics where
  txCount : UInt64 := 0
  txFailCount : UInt64 := 0
  rxCount : UInt64 := 0
  encodeFailCount : UInt64 := 0
  decodeFailCount : UInt64 := 0
  expiredDropCount : UInt64 := 0
  routeMissCount : UInt64 := 0
  handlerErrorCount : UInt64 := 0
  invalidEnvelopeCount : UInt64 := 0
  transportErrorCount : UInt64 := 0
  backpressureDropCount : UInt64 := 0
  policyHitCount : UInt64 := 0
  policyOverrideCount : UInt64 := 0
  policyConflictCount : UInt64 := 0
  policyConflictSampledCount : UInt64 := 0
  policyCacheHitCount : UInt64 := 0
  policyCacheMissCount : UInt64 := 0
  policyLintIssueCount : UInt64 := 0
  policyLintWarningCount : UInt64 := 0
  traceIdPresentCount : UInt64 := 0
  traceIdMissingCount : UInt64 := 0
  traceIdSampledCount : UInt64 := 0
  traceIndexHitCount : UInt64 := 0
  traceIndexMissCount : UInt64 := 0
  traceLinkedEventCount : UInt64 := 0
  slaViolationSampledCount : UInt64 := 0
  reloadSuccessCount : UInt64 := 0
  reloadFailCount : UInt64 := 0
  reloadRollbackCount : UInt64 := 0
  lastReloadTimestampMs : UInt64 := 0
  lastReloadStatusCode : Int32 := 0
  reloadRollbackReasonCode : Int32 := 0
  loadedConfigVersion : UInt64 := 0
  protocolModeCode : UInt32 := 0
  protocolCapLegacy : UInt64 := 1
  protocolCapCompact : UInt64 := 1
  protocolCapProtobuf : UInt64 := 0
  protocolCapCbor : UInt64 := 0
  configuredTransportPoolSize : UInt64 := 2
  failoverHitCount : UInt64 := 0
  transportPrimaryHealthy : UInt64 := 1
  transportSecondaryHealthy : UInt64 := 1
  diagDumpStateCount : UInt64 := 0
  diagRouteEventCount : UInt64 := 0
  diagFailoverEventCount : UInt64 := 0
  topicTxCount : MetricMap Bytes := fun _ => 0
  topicRxCount : MetricMap Bytes := fun _ => 0
  topicExpiredDropCount : MetricMap Bytes := fun _ => 0
  channelTxCount : MetricMap ChannelType := fun _ => 0
  channelRxCount : MetricMap ChannelType := fun _ => 0
  channelExpiredDropCount : MetricMap ChannelType := fun _ => 0
  qosTxCount : MetricMap DeliveryQoS := fun _ => 0
  qosRxCount : MetricMap DeliveryQoS := fun _ => 0
  qosExpiredDropCount : MetricMap DeliveryQoS := fun _ => 0

structure ThreadPoolMetrics where
  queueSize : UInt64 := 0
  queueCapacity : UInt64 := 0
  submittedCount : UInt64 := 0
  executedCount : UInt64 := 0
  rejectedCount : UInt64 := 0
  taskExceptionCount : UInt64 := 0
  workerCount : UInt64 := 0
  running : Bool := false

structure MetricsDelta where
  bridgeMetricsDelta : BridgeMetrics := {}
  threadPoolExecutedDelta : UInt64 := 0
  threadPoolRejectedDelta : UInt64 := 0
  threadPoolExceptionDelta : UInt64 := 0
  fromTimestampMs : UInt64 := 0
  toTimestampMs : UInt64 := 0

structure SystemMetricsAggregator where
  bridgeMetrics : BridgeMetrics := {}
  threadPoolMetrics : ThreadPoolMetrics := {}
  lastExportBridge : BridgeMetrics := {}
  lastExportThreadPool : ThreadPoolMetrics := {}
  lastExportTimestampMs : UInt64 := 0

namespace SystemMetricsAggregator

def updateBridgeMetrics (metrics : BridgeMetrics) (a : SystemMetricsAggregator) : SystemMetricsAggregator :=
  { a with bridgeMetrics := metrics }

def updateThreadPoolMetrics (metrics : ThreadPoolMetrics) (a : SystemMetricsAggregator) : SystemMetricsAggregator :=
  { a with threadPoolMetrics := metrics }

/-- The differences that `ExportDeltaSinceLastCall` writes out, field by field; the fields that it does not mention
keep their defaults. -/
def bridgeDelta (now last : BridgeMetrics) : BridgeMetrics :=
  { txCount := now.txCount - last.txCount
    txFailCount := now.txFailCount - last.txFailCount
    rxCount := now.rxCount - last.rxCount
    encodeFailCount := now.encodeFailCount - last.encodeFailCount
    decodeFailCount := now.decodeFailCount - last.decodeFailCount
    expiredDropCount := now.expiredDropCount - last.expiredDropCount
    routeMissCount := now.routeMissCount - last.routeMissCount
    handlerErrorCount := now.handlerErrorCount - last.handlerErrorCount
    invalidEnvelopeCount := now.invalidEnvelopeCount - last.invalidEnvelopeCount
    transportErrorCount := now.transportErrorCount - last.transportErrorCount
    backpressureDropCount := now.backpressureDropCount - last.backpressureDropCount
    policyHitCount := now.policyHitCount - last.policyHitCount
    policyOverrideCount := now.policyOverrideCount - last.policyOverrideCount
    policyConflictCount := now.policyConflictCount - last.policyConflictCount
    policyConflictSampledCount := now.policyConflictSampledCount - last.policyConflictSampledCount
    policyCacheHitCount := now.policyCacheHitCount - last.policyCacheHitCount
    policyCacheMissCount := now.policyCacheMissCount - last.policyCacheMissCount
    traceIdPresentCount := now.traceIdPresentCount - last.traceIdPresentCount
    traceIdMissingCount := now.traceIdMissingCount - last.traceIdMissingCount
    traceIdSampledCount := now.traceIdSampledCount - last.traceIdSampledCount
    slaViolationSampledCount := now.slaViolationSampledCount - last.slaViolationSampledCount
    reloadSuccessCount := now.reloadSuccessCount - last.reloadSuccessCount
    reloadFailCount := now.reloadFailCount - last.reloadFailCount }

def exportDeltaSinceLastCall (nowMs : UInt64) (a : SystemMetricsAggregator) : MetricsDelta × SystemMetricsAggregator :=
  ({ bridgeMetricsDelta := bridgeDelta a.bridgeMetrics a.lastExportBridge
     threadPoolExecutedDelta := a.threadPoolMetrics.executedCount - a.lastExportThreadPool.executedCount
     threadPoolRejectedDelta := a.threadPoolMetrics.rejectedCount - a.lastExportThreadPool.rejectedCount
     threadPoolExceptionDelta := a.threadPoolMetrics.taskExceptionCount - a.lastExportThreadPool.taskExceptionCount
     fromTimestampMs := a.lastExportTimestampMs
     toTimestampMs := nowMs },
    { a with
      lastExportBridge := a.bridgeMetrics
      lastExportThreadPool := a.threadPoolMetrics
      lastExportTimestampMs := nowMs })

end SystemMetricsAggregator

/-! ### The counters -/

/-- The counters of events, which the bridge keeps in atomic members of these names. -/
inductive EventCounter
  | txCount
  | txFailCount
  | rxCount
  | encodeFailCount
  | decodeFailCount
  | expiredDropCount
  | routeMissCount
  | handlerErrorCount
  | invalidEnvelopeCount
  | transportErrorCount
  | backpressureDropCount
  | policyHitCount
  | policyOverrideCount
  | policyConflictCount
  | policyConflictSampledCount
  | policyCacheHitCount
  | policyCacheMissCount
  | traceIdPresentCount
  | traceIdMissingCount
  | traceIdSampledCount
  | traceIndexHitCount
  | traceIndexMissCount
  | traceLinkedEventCount
  | slaViolationSampledCount
  | reloadSuccessCount
  | reloadFailCount
  | reloadRollbackCount
  | failoverHitCount
  | diagDumpStateCount
  | diagRouteEventCount
  | diagFailoverEventCount
  deriving DecidableEq, Repr

/-- The entries of the maps of counters. -/
inductive MapEntry
  | topicTxCount (topic : Bytes)
  | topicRxCount (topic : Bytes)
  | topicExpiredDropCount (topic : Bytes)
  | channelTxCount (channel : ChannelType)
  | channelRxCount (channel : ChannelType)
  | channelExpiredDropCount (channel : ChannelType)
  | qosTxCount (qos : DeliveryQoS)
  | qosRxCount (qos : DeliveryQoS)
  | qosExpiredDropCount (qos : DeliveryQoS)
  deriving DecidableEq, Repr

inductive BridgeCounter
  | event (c : EventCounter)
  | entry (c : MapEntry)
  deriving DecidableEq, Repr

inductive PoolCounter
  | submittedCount
  | executedCount
  | rejectedCount
  | taskExceptionCount
  deriving DecidableEq, Repr

namespace BridgeMetrics

def event (m : BridgeMetrics) : EventCounter → UInt64
  | .txCount => m.txCount
  | .txFailCount => m.txFailCount
  | .rxCount => m.rxCount
  | .encodeFailCount => m.encodeFailCount
  | .decodeFailCount => m.decodeFailCount
  | .expiredDropCount => m.expiredDropCount
  | .routeMissCount => m.routeMissCount
  | .handlerErrorCount => m.handlerErrorCount
  | .invalidEnvelopeCount => m.invalidEnvelopeCount
  | .transportErrorCount => m.transportErrorCount
  | .backpressureDropCount => m.backpressureDropCount
  | .policyHitCount => m.policyHitCount
  | .policyOverrideCount => m.policyOverrideCount
  | .policyConflictCount => m.policyConflictCount
  | .policyConflictSampledCount => m.policyConflictSampledCount
  | .policyCacheHitCount => m.policyCacheHitCount
  | .policyCacheMissCount => m.policyCacheMissCount
  | .traceIdPresentCount => m.traceIdPresentCount
  | .traceIdMissingCount => m.traceIdMissingCount
  | .traceIdSampledCount => m.traceIdSampledCount
  | .traceIndexHitCount => m.traceIndexHitCount
  | .traceIndexMissCount => m.traceIndexMissCount
  | .traceLinkedEventCount => m.traceLinkedEventCount
  | .slaViolationSampledCount => m.slaViolationSampledCount
  | .reloadSuccessCount => m.reloadSuccessCount
  | .reloadFailCount => m.reloadFailCount
  | .reloadRollbackCount => m.reloadRollbackCount
  | .failoverHitCount => m.failoverHitCount
  | .diagDumpStateCount => m.diagDumpStateCount
  | .diagRouteEventCount => m.diagRouteEventCount
  | .diagFailoverEventCount => m.diagFailoverEventCount

def entry (m : BridgeMetrics) : MapEntry → UInt64
  | .topicTxCount topic => m.topicTxCount topic
  | .topicRxCount topic => m.topicRxCount topic
  | .topicExpiredDropCount topic => m.topicExpiredDropCount topic
  | .channelTxCount channel => m.channelTxCount channel
  | .channelRxCount channel => m.channelRxCount channel
  | .channelExpiredDropCount channel => m.channelExpiredDropCount channel
  | .qosTxCount qos => m.qosTxCount qos
  | .qosRxCount qos => m.qosRxCount qos
  | .qosExpiredDropCount qos => m.qosExpiredDropCount qos

def counter (m : BridgeMetrics) : BridgeCounter → UInt64
  | .event c => m.event c
  | .entry c => m.entry c

end BridgeMetrics

def ThreadPoolMetrics.counter (m : ThreadPoolMetrics) : PoolCounter → UInt64
  | .submittedCount => m.submittedCount
  | .executedCount => m.executedCount
  | .rejectedCount => m.rejectedCount
  | .taskExceptionCount => m.taskExceptionCount

/-- The counters that an export sets the difference of. -/
def BridgeCounter.exported : BridgeCounter → Bool
  | .event .traceIndexHitCount => false
  | .event .traceIndexMissCount => false
  | .event .traceLinkedEventCount => false
  | .event .reloadRollbackCount => false
  | .event .failoverHitCount => false
  | .event .diagDumpStateCount => false
  | .event .diagRouteEventCount => false
  | .event .diagFailoverEventCount => false
  | .event _ => true
  | .entry _ => false

@[simp] theorem BridgeMetrics.counter_default (c : BridgeCounter) : ({} : BridgeMetrics).counter c = 0 := by
  rcases c with c | c <;> cases c <;> rfl

@[simp] theorem ThreadPoolMetrics.counter_default (c : PoolCounter) : ({} : ThreadPoolMetrics).counter c = 0 := by
  cases c <;> rfl

/-- Every counter of a delta is a difference or 0. -/
theorem bridgeDelta_counter (now last : BridgeMetrics) (c : BridgeCounter) :
    (SystemMetricsAggregator.bridgeDelta now last).counter c =
      if c.exported then now.counter c - last.counter c else 0 := by
  rcases c with c | c <;> cases c <;> rfl

end VehicleBridge
