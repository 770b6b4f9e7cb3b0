import VehicleBridge.Interconnect.MessageRouter
import VehicleBridge.Interconnect.Publish

/-!
# Receiving

One round of the loop of `ProcessInbound`: from what `ReceiveWithTimeout` returned to the handler.  A round ends in
one of the ways of `InboundOutcome`; `terminated` is the exception that leaves the `noexcept` decoder and ends the
process.
-/

namespace VehicleBridge

open ByteText

/-- The clock readings of one round, in the order of the source. -/
structure InboundEnv where
  traceNowMs : UInt64 := 0
  conflictNowMs : UInt64 := 0
  nowMs : UInt64 := 0
  deriving DecidableEq, Repr

/-- How a round ends. -/
inductive InboundOutcome
  | retry
  | receiveFailed (ec : ErrorCode)
  | terminated (exception : StdException)
  | decodeFailed (ec : ErrorCode)
  | invalidEnvelope (envelope : MessageEnvelope)
  | expired (envelope : MessageEnvelope)
  | routed (envelope : MessageEnvelope) (result : RouteResult)
  deriving DecidableEq, Repr

def isExpired (envelope : MessageEnvelope) (nowMs : UInt64) (maxLatencyMs : UInt32) : Bool :=
  let effectiveTtl := if envelope.ttlMs = 0 then maxLatencyMs else min envelope.ttlMs maxLatencyMs
  if effectiveTtl = 0 then false
  else if nowMs < envelope.timestampMs then false
  else decide (nowMs - envelope.timestampMs > effectiveTtl.toUInt64)

/-! ### Trace identifiers -/

/-- Look a trace up in the index, take down when it was last seen, and drop the oldest traces over the limit. -/
def noteTraceIndex (traceId : Bytes) (nowMs : UInt64) (trace : TraceState) : TraceState :=
  let seen := trace.traceIndexLastSeenMs.any fun entry => entry.1 = traceId
  let order := if seen then trace.traceIndexInsertOrder else trace.traceIndexInsertOrder ++ [traceId]
  let evicted := order.take (order.length - kTraceIndexMaxEntries)
  let lastSeen := (traceId, nowMs) :: trace.traceIndexLastSeenMs.filter fun entry => entry.1 ≠ traceId
  { trace with
    traceIndexHitCount := trace.traceIndexHitCount + if seen then 1 else 0
    traceIndexMissCount := trace.traceIndexMissCount + if seen then 0 else 1
    traceIndexInsertOrder := order.drop (order.length - kTraceIndexMaxEntries)
    traceIndexLastSeenMs := lastSeen.filter fun entry => !evicted.contains entry.1 }

/-- The sampling gate of the trace identifiers. -/
def sampleTrace (settings : RuntimeSettings) (nowMs : UInt64) (trace : TraceState) : TraceState :=
  let gate := nextLogAllowedMs trace.lastTraceIdSampleMs nowMs settings.traceSampleIntervalMs
  if gate.1 = nowMs then
    let counter := (trace.traceSampleCounter + 1) % 100
    { trace with
      lastTraceIdSampleMs := gate.2
      traceSampleCounter := counter
      traceIdSampledCount := trace.traceIdSampledCount + if counter < settings.traceSampleRatePercent then 1 else 0 }
  else { trace with lastTraceIdSampleMs := gate.2 }

def noteTrace (settings : RuntimeSettings) (traceId : Bytes) (nowMs : UInt64) (trace : TraceState) : TraceState :=
  if traceId = [] then { trace with traceIdMissingCount := trace.traceIdMissingCount + 1 }
  else
    let trace := { trace with traceIdPresentCount := trace.traceIdPresentCount + 1 }
    let trace := noteTraceIndex traceId nowMs (sampleTrace settings nowMs trace)
    { trace with traceLinkedEventCount := trace.traceLinkedEventCount + 1 }

/-- The members of a bridge that only the inbound loops write, as far as they count messages. -/
structure InboundPart where
  rxCount : Nat
  decodeFailCount : Nat
  expiredDropCount : Nat
  routeMissCount : Nat
  handlerErrorCount : Nat
  rx : MessageCounts
  expiredDrop : MessageCounts
  trace : TraceState

def BridgeState.inboundPart (s : BridgeState) : InboundPart :=
  { rxCount := s.traffic.rxCount
    decodeFailCount := s.traffic.decodeFailCount
    expiredDropCount := s.traffic.expiredDropCount
    routeMissCount := s.traffic.routeMissCount
    handlerErrorCount := s.traffic.handlerErrorCount
    rx := s.traffic.rx
    expiredDrop := s.traffic.expiredDrop
    trace := s.trace }

/-! ### One round -/

def countExpired (envelope : MessageEnvelope) (nowMs : UInt64) (s : BridgeState) : BridgeState :=
  let gate := nextLogAllowedMs s.lastSlaViolationLogMs nowMs s.settings.slaViolationSampleIntervalMs
  { s with
    lastSlaViolationLogMs := gate.2
    traffic := { s.traffic with
      expiredDropCount := s.traffic.expiredDropCount + 1
      expiredDrop := s.traffic.expiredDrop.add envelope
      slaViolationSampledCount := s.traffic.slaViolationSampledCount + if gate.1 = nowMs then 1 else 0 } }

def countRoute (result : RouteResult) (s : BridgeState) : BridgeState :=
  match result with
  | .ok => s
  | .noHandler =>
    { s with traffic := { s.traffic with
        routeMissCount := s.traffic.routeMissCount + 1
        diagRouteEventCount := s.traffic.diagRouteEventCount + 1 } }
  | .handlerError =>
    { s with traffic := { s.traffic with
        handlerErrorCount := s.traffic.handlerErrorCount + 1
        diagRouteEventCount := s.traffic.diagRouteEventCount + 1 } }

/-- A received envelope is counted and its trace identifier taken down. -/
def noteReceived (env : InboundEnv) (envelope : MessageEnvelope) (s : BridgeState) : BridgeState :=
  { s with
    traffic := { s.traffic with rx := s.traffic.rx.add envelope }
    trace := noteTrace s.settings envelope.traceId env.traceNowMs s.trace }

/-- A round from a valid envelope on: policy, expiry and router. -/
def dispatch (env : InboundEnv) (router : MessageRouter) (envelope : MessageEnvelope) (s : BridgeState) :
    InboundOutcome × BridgeState :=
  let resolved := resolvePolicy env.conflictNowMs envelope (noteReceived env envelope s)
  if isExpired envelope env.nowMs resolved.1.maxEndToEndLatencyMs then
    (.expired envelope, countExpired envelope env.nowMs resolved.2)
  else (.routed envelope (router.route envelope), countRoute (router.route envelope) resolved.2)

def processText (env : InboundEnv) (router : MessageRouter) (message : Bytes) (s : BridgeState) :
    InboundOutcome × BridgeState :=
  let s := { s with traffic := { s.traffic with rxCount := s.traffic.rxCount + 1 } }
  match decodeByProtocol s.protocolMode message {} with
  | .error x => (.terminated x, s)
  | .ok (ec, envelope) =>
    if ec ≠ .ok then
      (.decodeFailed ec, { s with traffic := { s.traffic with decodeFailCount := s.traffic.decodeFailCount + 1 } })
    else if isEnvelopeValidForPublish envelope = false then
      (.invalidEnvelope envelope,
        { s with traffic := { s.traffic with invalidEnvelopeCount := s.traffic.invalidEnvelopeCount + 1 } })
    else dispatch env router envelope s

/-- One round of `ProcessInbound` on what `ReceiveWithTimeout` returned. -/
def processInbound (env : InboundEnv) (router : MessageRouter) (received : ErrorCode × Bytes) (s : BridgeState) :
    InboundOutcome × BridgeState :=
  match received with
  | (.ok, message) => processText env router message s
  | (.timeout, _) => (.retry, s)
  | (.wouldBlock, _) => (.retry, s)
  | (ec, _) =>
    (.receiveFailed ec,
      { s with traffic := { s.traffic with transportErrorCount := s.traffic.transportErrorCount + 1 } })

/-- How a round on a valid envelope ends: the policy is the one a resolution uses. -/
theorem dispatch_fst (env : InboundEnv) (router : MessageRouter) (e : MessageEnvelope) (s : BridgeState) :
    (dispatch env router e s).1 =
      if isExpired e env.nowMs (usedEntry e s).policy.maxEndToEndLatencyMs then .expired e
      else .routed e (router.route e) := by
  have hpolicy : (resolvePolicy env.conflictNowMs e (noteReceived env e s)).1 = (usedEntry e s).policy := by
    rw [resolvePolicy_fst]
    rfl
  simp only [dispatch, hpolicy]
  split <;> rfl

/-- A round on a text that decodes to a valid envelope. -/
theorem processInbound_of_decode (env : InboundEnv) (router : MessageRouter) {message : Bytes}
    {receiver : BridgeState} {d : MessageEnvelope}
    (hdecode : decodeByProtocol receiver.protocolMode message {} = .ok (.ok, d)) :
    (processInbound env router (.ok, message) receiver).1 =
      if isEnvelopeValidForPublish d = false then .invalidEnvelope d
      else (dispatch env router d
        { receiver with traffic := { receiver.traffic with rxCount := receiver.traffic.rxCount + 1 } }).1 := by
  simp only [processInbound, processText, hdecode, ne_eq, not_true_eq_false, if_false]
  split <;> rfl

/-- The members that the inbound loops do not write. -/
def BridgeState.unreceived (s : BridgeState) : BridgeSetup × ReloadAudit × Nat × Nat × Nat × MessageCounts :=
  (s.setup, s.audit, s.traffic.txCount, s.traffic.txFailCount, s.traffic.failoverHitCount, s.traffic.tx)

private theorem dispatch_unreceived (env : InboundEnv) (router : MessageRouter) (e : MessageEnvelope)
    (s : BridgeState) : (dispatch env router e s).2.unreceived = s.unreceived := by
  have hresolved : (resolvePolicy env.conflictNowMs e (noteReceived env e s)).2.unreceived = s.unreceived := by
    rw [resolvePolicy_frame]
    rfl
  simp only [dispatch]
  split
  · exact hresolved
  · cases router.route e <;> exact hresolved

/-- A round leaves them alone. -/
theorem processInbound_unreceived (env : InboundEnv) (router : MessageRouter) (received : ErrorCode × Bytes)
    (s : BridgeState) : (processInbound env router received s).2.unreceived = s.unreceived := by
  unfold processInbound processText
  split
  · simp only
    split
    · rfl
    split
    · rfl
    split
    · rfl
    · exact dispatch_unreceived env router _ _
  · rfl
  · rfl
  · rfl

theorem processInbound_setup (env : InboundEnv) (router : MessageRouter) (received : ErrorCode × Bytes)
    (s : BridgeState) : (processInbound env router received s).2.setup = s.setup :=
  congrArg Prod.fst (processInbound_unreceived env router received s)

/-- `vehicle_router_` and `robot_router_`. -/
structure Routers where
  vehicle : MessageRouter := {}
  robot : MessageRouter := {}

/-- A round of `VehicleInboundLoop`, which reads the vehicle-to-robot transport. -/
def vehicleInboundLoop (env : InboundEnv) (routers : Routers) (received : ErrorCode × Bytes) (s : BridgeState) :
    InboundOutcome × BridgeState :=
  processInbound env routers.robot received s

/-- A round of `RobotInboundLoop`, which reads the robot-to-vehicle transport. -/
def robotInboundLoop (env : InboundEnv) (routers : Routers) (received : ErrorCode × Bytes) (s : BridgeState) :
    InboundOutcome × BridgeState :=
  processInbound env routers.vehicle received s

end VehicleBridge
