import Mathlib.Logic.Relation
import VehicleBridge.Interconnect.Inbound
import VehicleBridge.Lib.Threads

/-!
# The inbound loops, step by step

The two inbound loops run on threads of their own and share the members of the bridge.  A round of a loop takes a step
for each atomic counter it adds to and for each section under a mutex, in the order of the source, and the steps of the
two loops and of other threads come in any order (`InboundRun.Step`).  Undisturbed, a round does what `processInbound`
says (`round_eq_processInbound`).
-/

namespace VehicleBridge

open ByteText Threads

/-- What a loop meets in a step: what `ReceiveWithTimeout` returns, the clock, and the handlers registered with its
router. -/
structure InboundEvent where
  received : ErrorCode × Bytes
  env : InboundEnv
  router : MessageRouter

/-- Where a loop is in its round: before `ReceiveWithTimeout`, or before the step that is named.  A decoder that throws
ends the process. -/
inductive InboundPhase
  | receiving
  | decoding (message : Bytes)
  | countingDecodeFail
  | countingInvalid
  | countingRx (envelope : MessageEnvelope)
  | countingTrace (envelope : MessageEnvelope)
  | sampling (envelope : MessageEnvelope)
  | indexing (envelope : MessageEnvelope) (nowMs : UInt64)
  | linking (envelope : MessageEnvelope)
  | resolving (envelope : MessageEnvelope)
  | countingExpired (envelope : MessageEnvelope) (nowMs : UInt64)
  | countingDrop (envelope : MessageEnvelope) (nowMs : UInt64)
  | samplingSla (nowMs : UInt64)
  | routing (envelope : MessageEnvelope)
  | countingRouteMiss
  | countingHandlerError
  | countingRouteEvent
  | terminated
  deriving DecidableEq, Repr

/-- The bridge, with the number of envelopes that the loops have found invalid and of messages whose handler has
returned normally. -/
structure InboundShared extends BridgeState where
  rejected : Nat := 0
  handled : Nat := 0

def InboundPhase.step (phase : InboundPhase) (e : InboundEvent) (s : InboundShared) :
    Option (InboundPhase × InboundShared) :=
  match phase with
  | .receiving =>
    match e.received with
    | (.ok, message) =>
      some (.decoding message, { s with traffic := { s.traffic with rxCount := s.traffic.rxCount + 1 } })
    | (.timeout, _) => some (.receiving, s)
    | (.wouldBlock, _) => some (.receiving, s)
    | _ => some (.receiving,
        { s with traffic := { s.traffic with transportErrorCount := s.traffic.transportErrorCount + 1 } })
  | .decoding message =>
    match decodeByProtocol s.protocolMode message {} with
    | .error _ => some (.terminated, s)
    | .ok (ec, envelope) =>
      if ec ≠ .ok then some (.countingDecodeFail, s)
      else if isEnvelopeValidForPublish envelope = false then some (.countingInvalid, s)
      else some (.countingRx envelope, s)
  | .countingDecodeFail =>
    some (.receiving, { s with traffic := { s.traffic with decodeFailCount := s.traffic.decodeFailCount + 1 } })
  | .countingInvalid =>
    some (.receiving,
      { s with
        traffic := { s.traffic with invalidEnvelopeCount := s.traffic.invalidEnvelopeCount + 1 }
        rejected := s.rejected + 1 })
  | .countingRx envelope =>
    some (.countingTrace envelope, { s with traffic := { s.traffic with rx := s.traffic.rx.add envelope } })
  | .countingTrace envelope =>
    if envelope.traceId = [] then
      some (.resolving envelope,
        { s with trace := { s.trace with traceIdMissingCount := s.trace.traceIdMissingCount + 1 } })
    else
      some (.sampling envelope,
        { s with trace := { s.trace with traceIdPresentCount := s.trace.traceIdPresentCount + 1 } })
  | .sampling envelope =>
    some (.indexing envelope e.env.traceNowMs, { s with trace := sampleTrace s.settings e.env.traceNowMs s.trace })
  | .indexing envelope nowMs =>
    some (.linking envelope, { s with trace := noteTraceIndex envelope.traceId nowMs s.trace })
  | .linking envelope =>
    some (.resolving envelope,
      { s with trace := { s.trace with traceLinkedEventCount := s.trace.traceLinkedEventCount + 1 } })
  | .resolving envelope =>
    let resolved := resolvePolicy e.env.conflictNowMs envelope s.toBridgeState
    some (if isExpired envelope e.env.nowMs resolved.1.maxEndToEndLatencyMs then .countingExpired envelope e.env.nowMs
      else .routing envelope, { s with toBridgeState := resolved.2 })
  | .countingExpired envelope nowMs =>
    some (.countingDrop envelope nowMs,
      { s with traffic := { s.traffic with expiredDropCount := s.traffic.expiredDropCount + 1 } })
  | .countingDrop envelope nowMs =>
    some (.samplingSla nowMs,
      { s with traffic := { s.traffic with expiredDrop := s.traffic.expiredDrop.add envelope } })
  | .samplingSla nowMs =>
    let gate := nextLogAllowedMs s.lastSlaViolationLogMs nowMs s.settings.slaViolationSampleIntervalMs
    some (.receiving,
      { s with
        lastSlaViolationLogMs := gate.2
        traffic := { s.traffic with
          slaViolationSampledCount := s.traffic.slaViolationSampledCount + if gate.1 = nowMs then 1 else 0 } })
  | .routing envelope =>
    match e.router.route envelope with
    | .ok => some (.receiving, { s with handled := s.handled + 1 })
    | .noHandler => some (.countingRouteMiss, s)
    | .handlerError => some (.countingHandlerError, s)
  | .countingRouteMiss =>
    some (.countingRouteEvent,
      { s with traffic := { s.traffic with routeMissCount := s.traffic.routeMissCount + 1 } })
  | .countingHandlerError =>
    some (.countingRouteEvent,
      { s with traffic := { s.traffic with handlerErrorCount := s.traffic.handlerErrorCount + 1 } })
  | .countingRouteEvent =>
    some (.receiving,
      { s with traffic := { s.traffic with diagRouteEventCount := s.traffic.diagRouteEventCount + 1 } })
  | .terminated => none

/-! ### An undisturbed round -/

/-- One step after the other, with nobody else taking one. -/
def Undisturbed (e : InboundEvent) : InboundPhase × InboundShared → InboundPhase × InboundShared → Prop :=
  Relation.ReflTransGen fun a b => a.1.step e a.2 = some b

private theorem undisturbed_noteReceived (e : InboundEvent) (envelope : MessageEnvelope) (s : InboundShared) :
    Undisturbed e (.countingRx envelope, s)
      (.resolving envelope, { s with toBridgeState := noteReceived e.env envelope s.toBridgeState }) := by
  refine .head rfl ?_
  by_cases hmissing : envelope.traceId = []
  · refine .single ?_
    simp only [InboundPhase.step, hmissing, if_true, noteReceived, noteTrace]
  · refine .head (b := (.sampling envelope, _)) (by simp only [InboundPhase.step, hmissing, if_false]; rfl) ?_
    refine .head rfl (.head rfl (.single ?_))
    simp only [InboundPhase.step, noteReceived, noteTrace, hmissing, if_false]

/-- Where a round ends, and what the loops count of it besides the members of the bridge. -/
def InboundOutcome.phase : InboundOutcome → InboundPhase
  | .terminated _ => .terminated
  | _ => .receiving

def InboundShared.after (s : InboundShared) (result : InboundOutcome × BridgeState) : InboundShared :=
  { toBridgeState := result.2
    rejected := match result.1 with
      | .invalidEnvelope _ => s.rejected + 1
      | _ => s.rejected
    handled := match result.1 with
      | .routed _ .ok => s.handled + 1
      | _ => s.handled }

private theorem dispatch_phase (env : InboundEnv) (router : MessageRouter) (envelope : MessageEnvelope)
    (s : BridgeState) : (dispatch env router envelope s).1.phase = .receiving := by
  rw [dispatch_fst]
  split <;> rfl

private theorem undisturbed_dispatch (e : InboundEvent) (envelope : MessageEnvelope) (s : InboundShared) :
    Undisturbed e (.countingRx envelope, s)
      (.receiving, s.after (dispatch e.env e.router envelope s.toBridgeState)) := by
  refine .trans (undisturbed_noteReceived e envelope s) ?_
  simp only [dispatch]
  split
  · next hexpired =>
    refine .head (b := (.countingExpired envelope e.env.nowMs, _)) (by simp only [InboundPhase.step, hexpired]; rfl) ?_
    exact .head rfl (.head rfl (.single rfl))
  · next hfresh =>
    refine .head (b := (.routing envelope, _)) (by simp only [InboundPhase.step, hfresh]; rfl) ?_
    cases hroute : e.router.route envelope with
    | ok => exact .single (by simp only [InboundPhase.step, hroute]; rfl)
    | noHandler =>
      refine .head (b := (.countingRouteMiss, _)) (by simp only [InboundPhase.step, hroute]; rfl) ?_
      exact .head rfl (.single rfl)
    | handlerError =>
      refine .head (b := (.countingHandlerError, _)) (by simp only [InboundPhase.step, hroute]; rfl) ?_
      exact .head rfl (.single rfl)

/-- An undisturbed round does what `processInbound` says. -/
theorem round_eq_processInbound (e : InboundEvent) (s : InboundShared) :
    Undisturbed e (.receiving, s)
      ((processInbound e.env e.router e.received s.toBridgeState).1.phase,
        s.after (processInbound e.env e.router e.received s.toBridgeState)) := by
  obtain ⟨⟨ec, message⟩, env, router⟩ := e
  cases ec with
  | ok =>
    refine .head rfl ?_
    simp only [processInbound, processText]
    cases hdecode : decodeByProtocol s.protocolMode message {} with
    | error x => exact .single (by simp only [InboundPhase.step, hdecode]; rfl)
    | ok result =>
      obtain ⟨ec, envelope⟩ := result
      simp only
      split
      · next hfailed =>
        refine .head (b := (.countingDecodeFail, _)) (by simp only [InboundPhase.step, hdecode, if_pos hfailed]; rfl) ?_
        exact .single rfl
      next hdecoded =>
      split
      · next hinvalid =>
        refine .head (b := (.countingInvalid, _))
          (by simp only [InboundPhase.step, hdecode, if_neg hdecoded, if_pos hinvalid]; rfl) ?_
        exact .single rfl
      next hvalid =>
      refine .head (b := (.countingRx envelope, _))
        (by simp only [InboundPhase.step, hdecode, if_neg hdecoded, if_neg hvalid]; rfl) ?_
      rw [dispatch_phase]
      exact undisturbed_dispatch { received := (.ok, message), env, router } envelope
        { s with traffic := { s.traffic with rxCount := s.traffic.rxCount + 1 } }
  | _ => exact .single rfl

/-! ### Two loops -/

abbrev InboundRun := System InboundShared InboundPhase

/-- A step of one of the loops, or of another thread, which may change everything else. -/
inductive InboundOp
  | turn (loop : Nat) (e : InboundEvent)
  | other (bridge : BridgeState)

def InboundRun.Step (r : InboundRun) : InboundOp → InboundRun → Prop
  | .turn loop e, r' => System.turn InboundPhase.step r loop e = some r'
  | .other bridge, r' =>
    bridge.inboundPart = r.shared.inboundPart ∧ r' = { r with shared := { r.shared with toBridgeState := bridge } }

/-- `VehicleInboundLoop` and `RobotInboundLoop` on a bridge that has received nothing. -/
def InboundRun.start (bridge : BridgeState) : InboundRun :=
  { shared := { toBridgeState := { bridge with traffic := {}, trace := {} } }
    locals := [.receiving, .receiving] }

/-- No message is being processed. -/
def InboundRun.Quiet (r : InboundRun) : Prop :=
  ∀ phase ∈ r.locals, phase = .receiving

end VehicleBridge
