import VehicleBridge.Interconnect.Backpressure
import VehicleBridge.Interconnect.PolicyResolution

/-!
# Publishing

`Publish` checks an envelope, passes it through the canary and the idempotency window, encodes it, takes a flow slot
and hands it to the transport of its direction; when that fails it may try the opposite one.

`preparePublish` is the first half, up to the flow slot, and `sendOutgoing` the second.
-/

namespace VehicleBridge

open ByteText

/-- What a call of `Publish` reads from outside the bridge: the clock, at the canary and at a policy conflict, and
the authenticator (without one, every envelope is accepted). -/
structure PublishEnv where
  canaryNowMs : UInt64 := 0
  conflictNowMs : UInt64 := 0
  authenticate : MessageEnvelope → Bool := fun _ => true

/-! ### Checks before the send -/

def isEnvelopeValidForPublish (envelope : MessageEnvelope) : Bool :=
  decide (envelope.source ≠ []) && decide (envelope.target ≠ []) && decide (envelope.topic ≠ [])

def shouldApplyCanaryForEnvelope (nowMs : UInt64) (config : BridgeConfig) (envelope : MessageEnvelope) : Bool :=
  if config.enableConfigCanary = false then true
  else if config.configCanaryTopicPrefix ≠ [] ∧
      startsWith envelope.topic config.configCanaryTopicPrefix = false then true
  else if config.configCanaryChannel ≥ 0 ∧
      envelope.channel.value.toNat ≠ config.configCanaryChannel.toInt then true
  else decide ((nowMs % 100).toUInt32 < config.configCanaryPercent)

def shouldApplyIdempotency (config : BridgeConfig) (envelope : MessageEnvelope) : Bool :=
  config.idempotencyTopics.contains envelope.topic

/-- The explicit idempotency key, or topic, source and sequence. -/
def dedupKey (envelope : MessageEnvelope) : Bytes :=
  if envelope.idempotencyKey = [] then
    envelope.topic ++ text "|" ++ envelope.source ++ text "|" ++ decimal envelope.sequence.toNat
  else envelope.idempotencyKey

/-- The bucket of a topic after a new key has been put at its end. -/
def rememberKey (windowSize : UInt32) (key : Bytes) (bucket : List Bytes) : List Bytes :=
  (bucket ++ [key]).drop ((bucket ++ [key]).length - max 1 windowSize.toNat)

/-- The envelope's key is in the window of its topic. -/
def inWindow (envelope : MessageEnvelope) (s : BridgeState) : Bool :=
  (s.recentKeys envelope.topic).contains (dedupKey envelope)

/-- The bridge after `IsDuplicateWithinWindow` has taken down a key that was not in the window. -/
def enterKey (envelope : MessageEnvelope) (s : BridgeState) : BridgeState :=
  { s with
    recentKeys := fun topic =>
      if topic = envelope.topic then
        rememberKey s.config.idempotencyWindowSize (dedupKey envelope) (s.recentKeys envelope.topic)
      else s.recentKeys topic }

def isDuplicateWithinWindow (envelope : MessageEnvelope) (s : BridgeState) : Bool × BridgeState :=
  if inWindow envelope s then (true, s) else (false, enterKey envelope s)

/-! ### Flow slots and priorities -/

def highPriorityThreshold (tuning : TransportTuning) : TransportId → UInt32
  | .vehicleToRobot => tuning.highPriorityThresholdVehicle
  | .robotToVehicle => tuning.highPriorityThresholdRobot

def flowLimit (tuning : TransportTuning) : TransportId → UInt32
  | .vehicleToRobot => tuning.flowLimitVehicle
  | .robotToVehicle => tuning.flowLimitRobot

def InflightCounters.get (c : InflightCounters) : TransportId → UInt32
  | .vehicleToRobot => c.vehicle
  | .robotToVehicle => c.robot

def InflightCounters.set (c : InflightCounters) (t : TransportId) (n : UInt32) : InflightCounters :=
  match t with
  | .vehicleToRobot => { c with vehicle := n }
  | .robotToVehicle => { c with robot := n }

def resolvePriorityForPublish (envelope : MessageEnvelope) (t : TransportId) (s : BridgeState) : UInt32 :=
  if envelope.channel.value.toUInt32 ≥ highPriorityThreshold s.tuning t ∨
      envelope.qos.value.toUInt32 ≥ highPriorityThreshold s.tuning t then s.config.receivePriority + 1
  else s.config.receivePriority

def acquireFlowSlot (t : TransportId) (s : BridgeState) : Bool × BridgeState :=
  if flowLimit s.tuning t = 0 then (true, s)
  else
    let current := s.inflight.get t + 1
    if current > flowLimit s.tuning t then
      -- the slot taken is given back
      (false, { s with inflight := s.inflight.set t (current - 1) })
    else (true, { s with inflight := s.inflight.set t current })

def releaseFlowSlot (t : TransportId) (s : BridgeState) : BridgeState :=
  if flowLimit s.tuning t = 0 then s
  else { s with inflight := s.inflight.set t (s.inflight.get t - 1) }

/-! ### The first half of `Publish` -/

/-- An envelope ready to be sent. -/
structure Outgoing where
  encoded : Bytes
  priority : UInt32
  policy : BridgeSlaPolicy
  deriving DecidableEq, Repr

def countInvalidEnvelope (s : BridgeState) : BridgeState :=
  { s with traffic := { s.traffic with
      invalidEnvelopeCount := s.traffic.invalidEnvelopeCount + 1
      txFailCount := s.traffic.txFailCount + 1 } }

def countCanarySkip (s : BridgeState) : BridgeState :=
  { s with
    audit := { s.audit with lastAuditSummary := text "reload_audit:\x7bstatus=canary_skip,reason=segment_gate\x7d" }
    traffic := { s.traffic with
      txFailCount := s.traffic.txFailCount + 1
      diagnosticSnapshotWriteCount := s.traffic.diagnosticSnapshotWriteCount + 1 } }

def countIdempotencyDrop (s : BridgeState) : BridgeState :=
  { s with traffic := { s.traffic with
      txFailCount := s.traffic.txFailCount + 1
      idempotencyDropCount := s.traffic.idempotencyDropCount + 1
      diagnosticSnapshotWriteCount := s.traffic.diagnosticSnapshotWriteCount + 1 } }

/-- Encode, resolve the policy and take a flow slot. -/
def encodeOutgoing (env : PublishEnv) (t : TransportId) (envelope : MessageEnvelope) (s : BridgeState) :
    Except ErrorCode Outgoing × BridgeState :=
  let encoded := encodeByProtocol (resolveMode s.config envelope) envelope
  if encoded.1 ≠ .ok then
    (.error encoded.1,
      { s with traffic := { s.traffic with
          txFailCount := s.traffic.txFailCount + 1
          encodeFailCount := s.traffic.encodeFailCount + 1 } })
  else
    let resolved := resolvePolicy env.conflictNowMs envelope s
    let slot := acquireFlowSlot t resolved.2
    if slot.1 = false then
      (.error .wouldBlock,
        { slot.2 with traffic := { slot.2.traffic with
            txFailCount := slot.2.traffic.txFailCount + 1
            backpressureDropCount := slot.2.traffic.backpressureDropCount + 1 } })
    else
      (.ok { encoded := encoded.2, priority := resolvePriorityForPublish envelope t resolved.2,
             policy := resolved.1 }, slot.2)

/-- What is checked before the idempotency window. -/
def refuseEarly (env : PublishEnv) (envelope : MessageEnvelope) (s : BridgeState) : Option (ErrorCode × BridgeState) :=
  if s.running = false then
    some (.threadStartFailed, { s with traffic := { s.traffic with txFailCount := s.traffic.txFailCount + 1 } })
  else if isEnvelopeValidForPublish envelope = false then
    some (.interconnectInvalidEnvelope, countInvalidEnvelope s)
  else if env.authenticate envelope = false then some (.interconnectInvalidEnvelope, countInvalidEnvelope s)
  else if shouldApplyCanaryForEnvelope env.canaryNowMs s.config envelope = false then
    some (.wouldBlock, countCanarySkip s)
  else none

/-- `Publish` up to the send: an error, or what is to be sent. -/
def preparePublish (env : PublishEnv) (t : TransportId) (envelope : MessageEnvelope) (s : BridgeState) :
    Except ErrorCode Outgoing × BridgeState :=
  match refuseEarly env envelope s with
  | some (ec, s') => (.error ec, s')
  | none =>
    if shouldApplyIdempotency s.config envelope then
      let duplicate := isDuplicateWithinWindow envelope s
      -- a key that was not in the window is in it from here on, whatever becomes of the message
      if duplicate.1 then (.error .wouldBlock, countIdempotencyDrop duplicate.2)
      else encodeOutgoing env t envelope duplicate.2
    else encodeOutgoing env t envelope s

/-! ### The second half of `Publish` -/

def countDrops (drops : Nat) (s : BridgeState) : BridgeState :=
  { s with traffic := { s.traffic with backpressureDropCount := s.traffic.backpressureDropCount + drops } }

def noteSent (envelope : MessageEnvelope) (s : BridgeState) : BridgeState :=
  { s with
    orchestrator := s.orchestrator.onPrimarySendSuccess
    health := { primaryHealthy := true, secondaryHealthy := true }
    traffic := { s.traffic with txCount := s.traffic.txCount + 1, tx := s.traffic.tx.add envelope } }

def noteFailover (s : BridgeState) : BridgeState :=
  { s with
    health := { primaryHealthy := false, secondaryHealthy := true }
    traffic := { s.traffic with
      failoverHitCount := s.traffic.failoverHitCount + 1
      diagFailoverEventCount := s.traffic.diagFailoverEventCount + 1
      txCount := s.traffic.txCount + 1 } }

def noteSendFailure (s : BridgeState) : BridgeState :=
  { s with
    health := { primaryHealthy := false, secondaryHealthy := false }
    traffic := { s.traffic with
      txFailCount := s.traffic.txFailCount + 1
      transportErrorCount := s.traffic.transportErrorCount + 1 } }

/-- The transport a failed send goes to next. -/
def failoverTransport (t : TransportId) (s : BridgeState) : Option TransportId :=
  s.orchestrator.resolveFailover t s.tuning.failoverFromVehicleToRobotEnabled
    s.tuning.failoverFromRobotToVehicleEnabled

section
variable {σ : Type*} (net : Transports σ)

/-- After a failed send on the transport of the message's direction. -/
def tryFailover (t : TransportId) (out : Outgoing) (primary : SendResult σ) (s : BridgeState) :
    Option (ErrorCode × BridgeState × Wire σ) :=
  match failoverTransport t s with
  | none => some (primary.ec, noteSendFailure s, primary.wire)
  | some other =>
    match publishWithBackpressure net other out.encoded out.priority out.policy primary.wire with
    | none => none
    | some r =>
      if r.ec = .ok then some (.ok, noteFailover (countDrops r.drops s), r.wire)
      else some (primary.ec, noteSendFailure (countDrops r.drops s), r.wire)

/-- `Publish` from the send on. -/
def sendOutgoing (t : TransportId) (envelope : MessageEnvelope) (out : Outgoing) (s : BridgeState) (w : Wire σ) :
    Option (ErrorCode × BridgeState × Wire σ) :=
  match publishWithBackpressure net t out.encoded out.priority out.policy w with
  | none => none
  | some r =>
    let s := releaseFlowSlot t (countDrops r.drops s)
    if r.ec = .ok then some (.ok, noteSent envelope s, r.wire)
    else tryFailover net t out r { s with orchestrator := s.orchestrator.onPrimarySendFailure }

/-- `Publish`: the code, the bridge and the wire; `none` is the overflow of a retry counter. -/
def publish (env : PublishEnv) (t : TransportId) (envelope : MessageEnvelope) (s : BridgeState) (w : Wire σ) :
    Option (ErrorCode × BridgeState × Wire σ) :=
  match preparePublish env t envelope s with
  | (.error ec, s') => some (ec, s', w)
  | (.ok out, s') => sendOutgoing net t envelope out s' w

def publishFromVehicle (env : PublishEnv) (envelope : MessageEnvelope) (s : BridgeState) (w : Wire σ) :
    Option (ErrorCode × BridgeState × Wire σ) :=
  publish net env .vehicleToRobot envelope s w

def publishFromRobot (env : PublishEnv) (envelope : MessageEnvelope) (s : BridgeState) (w : Wire σ) :
    Option (ErrorCode × BridgeState × Wire σ) :=
  publish net env .robotToVehicle envelope s w

end

end VehicleBridge
