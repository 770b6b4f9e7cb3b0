import VehicleBridge.Core.ThreadPool
import VehicleBridge.Interconnect.BridgePolicy
import VehicleBridge.Interconnect.MessageProtocolAdapter

/-!
# The bridge configuration

`BridgeConfig`, the normalisation of its default policy (`PolicyManager`) and the choice of the wire format for a
message (`ProtocolManager`).
-/

namespace VehicleBridge

open ByteText

structure TransportEndpointConfig where
  name : Bytes := []
  maxMessages : Int64 := 32
  messageSize : Int64 := 1024
  highPriorityThreshold : UInt32 := 1
  flowLimitInflight : UInt32 := 256
  params : List (Bytes × Bytes) := []
  deriving DecidableEq, Repr

structure BridgeConfig where
  vehicleToRobotEndpoint : TransportEndpointConfig := {}
  robotToVehicleEndpoint : TransportEndpointConfig := {}
  additionalEndpoints : List TransportEndpointConfig := []
  threadPool : ThreadConfig := {}
  slaPolicy : BridgeSlaPolicy := {}
  policyTable : BridgePolicyTable := {}
  receivePriority : UInt32 := 0
  traceSampleRatePercent : UInt32 := 10
  traceSampleIntervalMs : UInt64 := 2000
  slaViolationSampleIntervalMs : UInt64 := 5000
  diagnosticsReportIntervalMs : UInt64 := 1000
  enableDiagnosticsReporting : Bool := false
  enableConfigCanary : Bool := false
  configCanaryPercent : UInt32 := 100
  configCanaryTopicPrefix : Bytes := []
  configCanaryChannel : Int32 := -1
  protocolCanaryTopicPrefix : Bytes := []
  protocolCanaryPercent : UInt32 := 100
  idempotencyTopics : List Bytes := []
  idempotencyWindowSize : UInt32 := 128
  diagnosticsSnapshotPath : Bytes := text "build/diagnostics_snapshots.jsonl"
  diagnosticsSnapshotLimit : UInt32 := 100
  enableConfigRiskGuard : Bool := false
  autoRollbackOnHighRisk : Bool := true
  highRiskBlockThreshold : UInt32 := 3
  protocolMode : MessageProtocolMode := .legacyPipe

/-- `PolicyManager::NormalizePolicyDefaults`. -/
def normalizePolicyDefaults (config : BridgeConfig) : BridgeConfig :=
  let policy := config.policyTable.defaultPolicy
  let policy :=
    if config.policyTable.rules.isEmpty ∧ policy.maxEndToEndLatencyMs = 100 ∧
        policy.transportReceiveTimeoutMs = 50 ∧ policy.transportSendTimeoutMs = 50 ∧
        policy.backpressurePolicy = .reject then config.slaPolicy
    else policy
  let policy :=
    if policy.retryBudget.maxRetries ≤ 0 then { policy with retryBudget := config.slaPolicy.retryBudget } else policy
  let policy :=
    if policy.dropPolicy = .dropNone then { policy with dropPolicy := config.slaPolicy.dropPolicy } else policy
  let policy :=
    if policy.dropPolicy = .dropNone ∧ policy.backpressurePolicy = .dropOldest then
      { policy with dropPolicy := .dropOldest }
    else policy
  { config with policyTable := { config.policyTable with defaultPolicy := policy } }

/-- `ProtocolManager::ResolveMode`. -/
def resolveMode (config : BridgeConfig) (envelope : MessageEnvelope) : MessageProtocolMode :=
  if config.policyTable.defaultPolicy.lockPolicy then .compact
  else if config.protocolCanaryTopicPrefix = [] then config.protocolMode
  else if startsWith envelope.topic config.protocolCanaryTopicPrefix = false then .compact
  else
    let gate : UInt32 := if envelope.timestampMs = 0 then 0 else (envelope.timestampMs % 100).toUInt32
    if gate < config.protocolCanaryPercent then config.protocolMode else .compact

end VehicleBridge
