import VehicleBridge.Lib.Transition
import VehicleBridge.Core.RetryPolicy
import VehicleBridge.Interconnect.BridgeConfig
import VehicleBridge.Interconnect.Transport
import VehicleBridge.Interconnect.BridgeState
import VehicleBridge.Interconnect.PolicyResolution
import VehicleBridge.Interconnect.Reload
import VehicleBridge.Interconnect.PolicyCacheRuns
import VehicleBridge.Interconnect.Backpressure
import VehicleBridge.Interconnect.PublishOutcome
import VehicleBridge.Interconnect.Inbound
import VehicleBridge.Interconnect.Delivery
import VehicleBridge.Interconnect.Direction
import VehicleBridge.Interconnect.Idempotency
import VehicleBridge.Interconnect.TcpReceive
import VehicleBridge.Interconnect.PolicyDefaults
import VehicleBridge.Interconnect.Expiry
import VehicleBridge.Interconnect.Setup
import VehicleBridge.Interconnect.Bookkeeping
import VehicleBridge.Interconnect.ReloadAgreement
import VehicleBridge.Interconnect.PolicyLock
import VehicleBridge.Lib.Threads
import VehicleBridge.Lib.Ledger
import VehicleBridge.Interconnect.TcpSend
import VehicleBridge.Core.ThreadPoolSteps
import VehicleBridge.Core.ThreadPoolAccounts
import VehicleBridge.Core.ThreadPoolRuns
import VehicleBridge.Interconnect.InboundLoops
import VehicleBridge.Interconnect.InboundSteps
import VehicleBridge.Interconnect.InboundAccounting
import VehicleBridge.Interconnect.OutboundAccounting
import VehicleBridge.Interconnect.DamagedFrames
import VehicleBridge.Ipc.PosixMessageQueue
import VehicleBridge.Interconnect.PosixMqTransport
import VehicleBridge.Interconnect.QueueRoundTrip
import VehicleBridge.Interconnect.DiscardOldest
import VehicleBridge.Ipc.NonBlockingCalls
import VehicleBridge.Interconnect.PolicySignature
import VehicleBridge.Interconnect.PolicyReferences
import VehicleBridge.Interconnect.MetricsDeltas
import VehicleBridge.Interconnect.MetricsRefresh
import VehicleBridge.Interconnect.PolicyLayers
import VehicleBridge.Interconnect.Canary
import VehicleBridge.Interconnect.AuditTrail
import VehicleBridge.Interconnect.FlowSlots
import VehicleBridge.Interconnect.FlowLimit
import VehicleBridge.Interconnect.PoolDeltas
import VehicleBridge.Interconnect.DiagnosticsManager
import VehicleBridge.Interconnect.PrometheusRuns
import VehicleBridge.Interconnect.CircuitHistory
import VehicleBridge.Core.RetryBudget
import VehicleBridge.Interconnect.IdempotencyWindow
import VehicleBridge.Interconnect.TraceIndex
import VehicleBridge.Interconnect.PolicyCacheLru
import VehicleBridge.Interconnect.SlotAdmission
import VehicleBridge.Interconnect.PolicyLint
import VehicleBridge.Interconnect.HeaderForms
import VehicleBridge.Interconnect.DeclaredHeaders
import VehicleBridge.Interconnect.NumberFields
import VehicleBridge.Interconnect.SampleGate
import VehicleBridge.Interconnect.TcpRoundTrip
import VehicleBridge.Interconnect.QueueDelivery
import VehicleBridge.Lib.NestedJson
import VehicleBridge.Interconnect.JsonExport
import VehicleBridge.Interconnect.DiagnosticCommands
import VehicleBridge.Ipc.QueueKernel
import VehicleBridge.Interconnect.QueueSessions
import VehicleBridge.Interconnect.TcpDelivery
import VehicleBridge.Interconnect.TcpConnect
import VehicleBridge.Lib.ScopedVariable
import VehicleBridge.Log.Logger
import VehicleBridge.Core.ProcessGuardian
import VehicleBridge.Osal.Event
import VehicleBridge.Lib.MemoryTest
import VehicleBridge.Platform.BringUp
