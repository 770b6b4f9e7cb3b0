import VehicleBridge.Interconnect.BridgeConfig
import VehicleBridge.Interconnect.Transport
import VehicleBridge.Lib.LruCache

/-!
# The state of a bridge

The members of `InterconnectBridge`, grouped by what they are for.  The event counters are natural numbers; the
in-flight counters, which the code also decrements, keep their 32 bits.  Hash maps from keys to counts are
association lists.

Left out are the members that only feed logs and exports: the exported copy of the counters that
`RefreshAggregatedMetrics` writes and its clock, the clocks of the log throttles, the lint report, the snapshot file
(its counter is kept) and the diagnostics reporter.
-/

namespace VehicleBridge

open ByteText

def kPolicyConflictSampleIntervalMs : UInt64 := 5000
def kSlaViolationSampleIntervalMsDefault : UInt64 := 5000
def kTraceIdSampleIntervalMsDefault : UInt64 := 2000
def kTraceIdSampleRatePercentDefault : UInt32 := 10
def kPolicyCacheMaxEntries : Nat := 256
def kTraceIndexMaxEntries : Nat := 1024

/-- `std::unordered_map` from keys to counts. -/
abbrev CountMap (α : Type) := List (α × Nat)

/-- `map[key] += 1U`. -/
def CountMap.increment {α : Type} [DecidableEq α] (key : α) : CountMap α → CountMap α
  | [] => [(key, 1)]
  | (k, n) :: rest => if k = key then (k, n + 1) :: rest else (k, n) :: CountMap.increment key rest

/-- The counts of one kind of event by topic, channel and QoS. -/
structure MessageCounts where
  topic : CountMap Bytes := []
  channel : CountMap ChannelType := []
  qos : CountMap DeliveryQoS := []
  deriving DecidableEq, Repr

def MessageCounts.add (counts : MessageCounts) (envelope : MessageEnvelope) : MessageCounts :=
  { topic := counts.topic.increment envelope.topic
    channel := counts.channel.increment envelope.channel
    qos := counts.qos.increment envelope.qos }

structure TrafficCounters where
  txCount : Nat := 0
  txFailCount : Nat := 0
  rxCount : Nat := 0
  encodeFailCount : Nat := 0
  decodeFailCount : Nat := 0
  expiredDropCount : Nat := 0
  routeMissCount : Nat := 0
  handlerErrorCount : Nat := 0
  invalidEnvelopeCount : Nat := 0
  transportErrorCount : Nat := 0
  backpressureDropCount : Nat := 0
  failoverHitCount : Nat := 0
  idempotencyDropCount : Nat := 0
  diagnosticSnapshotWriteCount : Nat := 0
  diagRouteEventCount : Nat := 0
  diagFailoverEventCount : Nat := 0
  slaViolationSampledCount : Nat := 0
  tx : MessageCounts := {}
  rx : MessageCounts := {}
  expiredDrop : MessageCounts := {}
  deriving DecidableEq, Repr

structure PolicyCounters where
  policyHitCount : Nat := 0
  policyOverrideCount : Nat := 0
  policyConflictCount : Nat := 0
  policyConflictSampledCount : Nat := 0
  policyCacheHitCount : Nat := 0
  policyCacheMissCount : Nat := 0
  lastPolicyConflictLogMs : UInt64 := 0
  deriving DecidableEq, Repr

structure TraceState where
  traceSampleCounter : UInt32 := 0
  traceIdPresentCount : Nat := 0
  traceIdMissingCount : Nat := 0
  traceIdSampledCount : Nat := 0
  traceIndexHitCount : Nat := 0
  traceIndexMissCount : Nat := 0
  traceLinkedEventCount : Nat := 0
  lastTraceIdSampleMs : UInt64 := 0
  traceIndexLastSeenMs : List (Bytes × UInt64) := []
  traceIndexInsertOrder : List Bytes := []
  deriving DecidableEq, Repr

/-- The members derived from a configuration both by `Start` and by a reload. -/
structure RuntimeSettings where
  traceSampleRatePercent : UInt32 := kTraceIdSampleRatePercentDefault
  traceSampleIntervalMs : UInt64 := kTraceIdSampleIntervalMsDefault
  slaViolationSampleIntervalMs : UInt64 := kSlaViolationSampleIntervalMsDefault
  diagnosticsReportIntervalMs : UInt64 := 1000
  enableDiagnosticsReporting : Bool := false
  deriving DecidableEq, Repr

/-- The members `ApplyTransportTuning` derives from a configuration. -/
structure TransportTuning where
  flowLimitVehicle : UInt32 := 256
  flowLimitRobot : UInt32 := 256
  highPriorityThresholdVehicle : UInt32 := 1
  highPriorityThresholdRobot : UInt32 := 1
  failoverFromVehicleToRobotEnabled : Bool := false
  failoverFromRobotToVehicleEnabled : Bool := false
  deriving DecidableEq, Repr

structure LoadedConfig where
  source : Bytes := []
  version : UInt64 := 0
  signature : UInt64 := 0
  deriving DecidableEq, Repr

structure LastKnownGood where
  config : BridgeConfig := {}
  version : UInt64 := 0
  source : Bytes := []
  signature : UInt64 := 0

/-- What the reloads leave behind for an operator. -/
structure ReloadAudit where
  successCount : Nat := 0
  failCount : Nat := 0
  rollbackCount : Nat := 0
  lastTimestampMs : UInt64 := 0
  lastStatusCode : Int32 := 0
  rollbackReasonCode : Int32 := 0
  lastAuditSummary : Bytes := []
  deriving DecidableEq, Repr

structure PolicyCacheKey where
  topic : Bytes
  channel : ChannelType
  qos : DeliveryQoS
  deriving DecidableEq, Repr

structure PolicyCacheEntry where
  policy : BridgeSlaPolicy
  overrideApplied : Bool
  conflictDetected : Bool
  deriving DecidableEq, Repr

/-- `policy_cache_items_` with `policy_cache_index_`. -/
abbrev PolicyCache := LruCache PolicyCacheKey PolicyCacheEntry

/-- `idempotency_recent_keys_`: the bucket of a topic, oldest key first. -/
abbrev RecentKeys := Bytes → List Bytes

structure InflightCounters where
  vehicle : UInt32 := 0
  robot : UInt32 := 0
  deriving DecidableEq, Repr

structure TransportHealth where
  primaryHealthy : Bool := true
  secondaryHealthy : Bool := true
  deriving DecidableEq, Repr

structure BridgeState where
  running : Bool := false
  config : BridgeConfig := {}
  settings : RuntimeSettings := {}
  protocolMode : MessageProtocolMode := .legacyPipe
  tuning : TransportTuning := {}
  loaded : LoadedConfig := {}
  lastKnownGood : LastKnownGood := {}
  audit : ReloadAudit := {}
  policyCache : PolicyCache := {}
  policyCounters : PolicyCounters := {}
  recentKeys : RecentKeys := fun _ => []
  inflight : InflightCounters := {}
  orchestrator : TransportOrchestrator := {}
  health : TransportHealth := {}
  traffic : TrafficCounters := {}
  trace : TraceState := {}
  lastSlaViolationLogMs : UInt64 := 0

/-- The members that `Start`, `Stop` and `ReloadConfigIfChanged` write. -/
structure BridgeSetup where
  running : Bool
  config : BridgeConfig
  settings : RuntimeSettings
  protocolMode : MessageProtocolMode
  tuning : TransportTuning
  loaded : LoadedConfig
  lastKnownGood : LastKnownGood

def BridgeState.setup (s : BridgeState) : BridgeSetup :=
  { running := s.running
    config := s.config
    settings := s.settings
    protocolMode := s.protocolMode
    tuning := s.tuning
    loaded := s.loaded
    lastKnownGood := s.lastKnownGood }

/-- `NextLogAllowedMs` on a timestamp no other thread touches: its result and the new timestamp. -/
def nextLogAllowedMs (timestamp nowMs intervalMs : UInt64) : UInt64 × UInt64 :=
  if nowMs < timestamp then (timestamp, timestamp) else (nowMs, nowMs + intervalMs)

end VehicleBridge
