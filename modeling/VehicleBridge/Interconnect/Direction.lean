import VehicleBridge.Interconnect.Inbound
import VehicleBridge.Interconnect.PublishOutcome
import VehicleBridge.Interconnect.Reload
import VehicleBridge.Lib.Transition

/-!
# Directions

Each transport of a bridge is written by one side and read for the other: what the vehicle publishes goes to the
transport whose inbound loop hands it to the robot's router.  Failover breaks this by design, since the only other
transport a message can go to is the one of the opposite direction.

A run takes down what was published, with the calls made for it, and which handlers were invoked.
`direction_safety` says that a message only ever leaves its direction by failover.
-/

namespace VehicleBridge

open ByteText Attempts Transition

inductive Side
  | vehicle
  | robot
  deriving DecidableEq, Repr

/-- The transport that `PublishFromVehicle` and `PublishFromRobot` send on. -/
def Side.transport : Side → TransportId
  | .vehicle => .vehicleToRobot
  | .robot => .robotToVehicle

/-- The side whose router the inbound loop of a transport dispatches to. -/
def readerOf : TransportId → Side
  | .vehicleToRobot => .robot
  | .robotToVehicle => .vehicle

private theorem readerOf_transport_ne (side : Side) : readerOf side.transport ≠ side := by
  cases side <;> decide

/-- The router that the handlers of a side are registered at. -/
def Routers.of (routers : Routers) : Side → MessageRouter
  | .vehicle => routers.vehicle
  | .robot => routers.robot

/-- A call of `PublishFromVehicle` or `PublishFromRobot`: whether failover from its transport was enabled, and the
calls it made on the transports. -/
structure PublishRecord where
  origin : Side
  failover : Bool
  calls : List TransportCall
  deriving DecidableEq, Repr

/-- The publish handed the message to the transport. -/
def PublishRecord.Hands (p : PublishRecord) (t : TransportId) (message : Bytes) : Prop :=
  ∃ priority timeoutMs result, TransportCall.sendWithTimeout t message priority timeoutMs result ∈ p.calls

/-- A handler of a side invoked for a message received from a transport. -/
structure Invocation where
  side : Side
  transport : TransportId
  message : Bytes
  envelope : MessageEnvelope
  deriving DecidableEq, Repr

inductive BridgeOp
  | start (env : StartEnv) (config : BridgeConfig)
  | startFromProvider (env : StartEnv) (provider : Option ProviderReplies)
  | stop
  | reload (nowMs : UInt64) (provider : Option ProviderReplies)
  | publish (origin : Side) (env : PublishEnv) (envelope : MessageEnvelope)
  | inbound (t : TransportId) (env : InboundEnv) (routers : Routers) (received : ErrorCode × Bytes)

/-- A bridge with its transports, and what has been published and handled so far. -/
structure BridgeRun (σ : Type*) where
  bridge : BridgeState := {}
  wire : Wire σ
  published : List PublishRecord := []
  invocations : List Invocation := []

/-- The handler that a round invoked, if any. -/
def invocationsOf (t : TransportId) (message : Bytes) : InboundOutcome → List Invocation
  | .routed envelope .ok => [{ side := readerOf t, transport := t, message, envelope }]
  | .routed envelope .handlerError => [{ side := readerOf t, transport := t, message, envelope }]
  | _ => []

section
variable {σ : Type*} (hashString : Bytes → UInt64) (net : Transports σ)

def publishFrom (origin : Side) (env : PublishEnv) (envelope : MessageEnvelope) (s : BridgeState) (w : Wire σ) :
    Option (ErrorCode × BridgeState × Wire σ) :=
  match origin with
  | .vehicle => publishFromVehicle net env envelope s w
  | .robot => publishFromRobot net env envelope s w

def inboundLoop (t : TransportId) (env : InboundEnv) (routers : Routers) (received : ErrorCode × Bytes)
    (s : BridgeState) : InboundOutcome × BridgeState :=
  match t with
  | .vehicleToRobot => vehicleInboundLoop env routers received s
  | .robotToVehicle => robotInboundLoop env routers received s

/-- A loop dispatches to the router of the side that reads its transport. -/
theorem inboundLoop_eq (t : TransportId) (env : InboundEnv) (routers : Routers) (received : ErrorCode × Bytes)
    (s : BridgeState) :
    inboundLoop t env routers received s = processInbound env (routers.of (readerOf t)) received s := by
  cases t <;> rfl

/-- The loops only run on a running bridge. -/
def BridgeRun.exec (r : BridgeRun σ) : BridgeOp → Option (BridgeRun σ)
  | .start env config => some { r with bridge := (VehicleBridge.start hashString env config r.bridge).2 }
  | .startFromProvider env provider =>
    some { r with bridge := (VehicleBridge.startFromProvider hashString env provider r.bridge).2 }
  | .stop => some { r with bridge := VehicleBridge.stop r.bridge }
  | .reload nowMs provider => some { r with bridge := (reloadConfigIfChanged hashString nowMs provider r.bridge).2 }
  | .publish origin env envelope =>
    (publishFrom net origin env envelope r.bridge r.wire).map fun result =>
      { r with
        bridge := result.2.1
        wire := result.2.2
        published := r.published ++
          [{ origin
             failover := failoverEnabled r.bridge.tuning origin.transport
             calls := result.2.2.calls.drop r.wire.calls.length }] }
  | .inbound t env routers received =>
    if r.bridge.running then
      let round := inboundLoop t env routers received r.bridge
      some { r with
        bridge := round.2
        invocations := r.invocations ++ invocationsOf t received.2 round.1 }
    else none

theorem publishFrom_eq (origin : Side) (env : PublishEnv) (e : MessageEnvelope) (s : BridgeState) (w : Wire σ) :
    publishFrom net origin env e s w = publish net env origin.transport e s w := by
  cases origin <;> rfl

end

/-! ### What a run takes down -/

/-- The calls of a publish: those on the transport of its direction, and then, where failover was enabled and none
of these was accepted, those on the opposite one. -/
def PublishRecord.Directed (p : PublishRecord) : Prop :=
  ∃ own other, p.calls = own ++ other ∧ (∀ c ∈ own, c.transport = p.origin.transport) ∧
    (∀ c ∈ other, c.transport = p.origin.transport.opposite) ∧
    (other ≠ [] → p.failover = true ∧ Failed TransportCall.isAcceptedSend own)

/-- Failover was enabled, and no send on the transport of the publish's direction, all made first, was accepted. -/
def PublishRecord.FailedOver (p : PublishRecord) : Prop :=
  p.failover = true ∧ ∃ own other, p.calls = own ++ other ∧
    (∀ c ∈ own, c.transport = p.origin.transport ∧ c.isAcceptedSend = false) ∧
    ∀ c ∈ other, c.transport = p.origin.transport.opposite

/-- A message handed to the transport that is read for the publisher's own side got there by failover. -/
theorem PublishRecord.Directed.failedOver {p : PublishRecord} (hp : p.Directed) {t : TransportId} {message : Bytes}
    (hands : p.Hands t message) (hreader : readerOf t = p.origin) : p.FailedOver := by
  obtain ⟨own, other, heq, hown, hother, hfail⟩ := hp
  obtain ⟨priority, timeoutMs, result, hmem⟩ := hands
  rw [heq, List.mem_append] at hmem
  rcases hmem with hmem | hmem
  · have ht : t = p.origin.transport := hown _ hmem
    rw [ht] at hreader
    exact absurd hreader (readerOf_transport_ne p.origin)
  · obtain ⟨henabled, hfailed⟩ := hfail (List.ne_nil_of_mem hmem)
    exact ⟨henabled, own, other, heq, fun c hc => ⟨hown c hc, hfailed c hc⟩, hother⟩

/-- What holds of everything a run takes down. -/
structure Recorded {σ : Type*} (r : BridgeRun σ) : Prop where
  directed : ∀ p ∈ r.published, p.Directed
  side : ∀ i ∈ r.invocations, i.side = readerOf i.transport

private theorem invocationsOf_side {t : TransportId} {message : Bytes} {outcome : InboundOutcome} :
    ∀ i ∈ invocationsOf t message outcome, i.side = readerOf i.transport := by
  intro i hi
  unfold invocationsOf at hi
  split at hi
  · rw [List.mem_singleton] at hi
    rw [hi]
  · rw [List.mem_singleton] at hi
    rw [hi]
  · exact absurd hi List.not_mem_nil

section
variable {σ : Type*} {hashString : Bytes → UInt64} {net : Transports σ} {r r' : BridgeRun σ}

/-- A publish in a run, by the record it adds. -/
private theorem exec_publish {origin : Side} {env : PublishEnv} {e : MessageEnvelope}
    (h : r.exec hashString net (.publish origin env e) = some r') :
    ∃ p, r'.published = r.published ++ [p] ∧ r'.invocations = r.invocations ∧
      r'.bridge.tuning = r.bridge.tuning ∧ p.failover = failoverEnabled r.bridge.tuning origin.transport ∧
      p.Directed := by
  obtain ⟨⟨ec, s', w'⟩, hpublish, rfl⟩ := Option.map_eq_some_iff.1 h
  rw [publishFrom_eq] at hpublish
  obtain ⟨own, other, heq, hlog⟩ := publish_calls hpublish
  refine ⟨_, rfl, rfl, (publish_outcome hpublish).1.tuning, rfl, own, other, ?_, ?_, ?_, hlog.failover⟩
  · simp only [heq, List.drop_left]
  · exact fun c hc => (hlog.own_isFor c hc).transport_eq
  · exact fun c hc => (hlog.other_isFor c hc).transport_eq

/-- **The step lemma**: what is taken down stays directed. -/
theorem Recorded.exec (hr : Recorded r) {op : BridgeOp} (h : r.exec hashString net op = some r') : Recorded r' := by
  cases op with
  | start env config =>
    cases h
    exact ⟨hr.directed, hr.side⟩
  | startFromProvider env provider =>
    cases h
    exact ⟨hr.directed, hr.side⟩
  | stop =>
    cases h
    exact ⟨hr.directed, hr.side⟩
  | reload nowMs provider =>
    cases h
    exact ⟨hr.directed, hr.side⟩
  | publish origin env e =>
    obtain ⟨p, hpub, hinv, -, -, hp⟩ := exec_publish h
    refine ⟨fun q hq => ?_, by rw [hinv]; exact hr.side⟩
    rw [hpub, List.mem_append, List.mem_singleton] at hq
    rcases hq with hq | rfl
    · exact hr.directed q hq
    · exact hp
  | inbound t env routers received =>
    simp only [BridgeRun.exec] at h
    split at h
    · cases h
      refine ⟨hr.directed, fun i hi => ?_⟩
      rcases List.mem_append.1 hi with hi | hi
      · exact hr.side i hi
      · exact invocationsOf_side i hi
    · cases h

/-! ### Runs without failover -/

/-- A start with this operation does not enable failover. -/
def BridgeOp.SingleEndpoints : BridgeOp → Prop
  | .start _ config => config.additionalEndpoints = []
  | .startFromProvider _ (some p) => p.load = .ok → p.config.additionalEndpoints = []
  | _ => True

/-- Failover is not enabled, and was not at any publish so far. -/
structure NoFailover (r : BridgeRun σ) : Prop where
  disabled : ∀ t, failoverEnabled r.bridge.tuning t = false
  published : ∀ p ∈ r.published, p.failover = false

private theorem start_failoverDisabled {env : StartEnv} {config : BridgeConfig} {s : BridgeState}
    (hconfig : config.additionalEndpoints = []) (hs : ∀ t, failoverEnabled s.tuning t = false) (t : TransportId) :
    failoverEnabled (start hashString env config s).2.tuning t = false := by
  rcases start_failover hashString env config s with heq | ⟨hv, hr⟩
  · rw [heq]
    exact hs t
  · rw [hconfig] at hv hr
    cases t with
    | vehicleToRobot => exact hv
    | robotToVehicle => exact hr

private theorem startFromProvider_failoverDisabled {env : StartEnv} {provider : Option ProviderReplies}
    {s : BridgeState} (hop : (BridgeOp.startFromProvider env provider).SingleEndpoints)
    (hs : ∀ t, failoverEnabled s.tuning t = false) (t : TransportId) :
    failoverEnabled (startFromProvider hashString env provider s).2.tuning t = false := by
  rcases startFromProvider_cases hashString env provider s with ⟨ec, heq⟩ | ⟨p, rfl, hload, heq⟩ <;> rw [heq]
  · exact hs t
  · have hnoted : ∀ t, failoverEnabled (noteProvider hashString p s).tuning t = false := hs
    exact start_failoverDisabled (hop hload) hnoted t

private theorem reload_tuning (nowMs : UInt64) (provider : Option ProviderReplies) (s : BridgeState) :
    (reloadConfigIfChanged hashString nowMs provider s).2.tuning = s.tuning := by
  rcases reloadConfigIfChanged_cases hashString nowMs provider s with
    ⟨-, ec, audit, writes, heq⟩ | ⟨p, -, -, -, heq⟩ | ⟨p, -, -, -, heq⟩
  · rw [heq]
  · rw [heq]
    rfl
  · rw [heq]
    rfl

theorem NoFailover.exec (hr : NoFailover r) {op : BridgeOp} (hop : op.SingleEndpoints)
    (h : r.exec hashString net op = some r') : NoFailover r' := by
  cases op with
  | start env config =>
    cases h
    exact ⟨start_failoverDisabled hop hr.disabled, hr.published⟩
  | startFromProvider env provider =>
    cases h
    exact ⟨startFromProvider_failoverDisabled hop hr.disabled, hr.published⟩
  | stop =>
    cases h
    exact ⟨hr.disabled, hr.published⟩
  | reload nowMs provider =>
    cases h
    exact ⟨fun t => by rw [reload_tuning]; exact hr.disabled t, hr.published⟩
  | publish origin env e =>
    obtain ⟨p, hpub, -, htuning, hfailover, -⟩ := exec_publish h
    refine ⟨fun t => by rw [htuning]; exact hr.disabled t, fun q hq => ?_⟩
    rw [hpub, List.mem_append, List.mem_singleton] at hq
    rcases hq with hq | rfl
    · exact hr.published q hq
    · rw [hfailover]
      exact hr.disabled _
  | inbound t env routers received =>
    simp only [BridgeRun.exec] at h
    split at h
    · cases h
      refine ⟨fun t' => ?_, hr.published⟩
      have hsetup := processInbound_setup env (routers.of (readerOf t)) received r.bridge
      rw [inboundLoop_eq]
      exact (congrArg (fun v => failoverEnabled v.tuning t') hsetup).trans (hr.disabled t')
    · cases h

/-- **Direction safety.**  In every run of a new bridge, whose loops dispatch to the router of the side that reads
their transport, a message is handed to the transport read for its publisher's own side only by failover, and a handler
of that side is invoked for it only then; in a run in which no started configuration has additional endpoints neither
ever happens. -/
theorem direction_safety (hashString : Bytes → UInt64) (net : Transports σ) (w : Wire σ) {ops : List BridgeOp}
    {r : BridgeRun σ} (hrun : Run (fun r op r' => r.exec hashString net op = some r') { wire := w } ops r) :
    (∀ t env routers received s,
        inboundLoop t env routers received s = processInbound env (routers.of (readerOf t)) received s) ∧
      (∀ p ∈ r.published, ∀ t message, p.Hands t message → readerOf t = p.origin → p.FailedOver) ∧
      (∀ i ∈ r.invocations, ∀ p ∈ r.published, p.Hands i.transport i.message → i.side = p.origin →
        p.FailedOver) ∧
      ((∀ op ∈ ops, op.SingleEndpoints) →
        (∀ p ∈ r.published, ∀ t message, p.Hands t message → readerOf t ≠ p.origin) ∧
          ∀ i ∈ r.invocations, ∀ p ∈ r.published, p.Hands i.transport i.message → i.side ≠ p.origin) := by
  have hrecorded : Recorded r :=
    hrun.invariant (fun _ _ _ hr h => Recorded.exec hr h)
      ⟨fun _ hp => absurd hp List.not_mem_nil, fun _ hi => absurd hi List.not_mem_nil⟩
  have hpublished : ∀ p ∈ r.published, ∀ t message, p.Hands t message → readerOf t = p.origin → p.FailedOver :=
    fun p hp t message hands hreader => (hrecorded.directed p hp).failedOver hands hreader
  have hinvoked : ∀ i ∈ r.invocations, ∀ p ∈ r.published, p.Hands i.transport i.message → i.side = p.origin →
      p.FailedOver := by
    intro i hi p hp hands hside
    exact hpublished p hp i.transport i.message hands ((hrecorded.side i hi).symm.trans hside)
  refine ⟨inboundLoop_eq, hpublished, hinvoked, fun hops => ?_⟩
  have hno : NoFailover r :=
    hrun.invariant_of_labels (fun _ _ _ hop hr h => NoFailover.exec hr hop h) hops
      ⟨fun t => by cases t <;> rfl, fun _ hp => absurd hp List.not_mem_nil⟩
  -- a failover presupposes the flag that no publish found set
  have hnever : ∀ p ∈ r.published, ¬ p.FailedOver := by
    intro p hp hfailed
    rw [PublishRecord.FailedOver, hno.published p hp] at hfailed
    exact Bool.false_ne_true hfailed.1
  exact ⟨fun p hp t message hands hreader => hnever p hp (hpublished p hp t message hands hreader),
    fun i hi p hp hands hside => hnever p hp (hinvoked i hi p hp hands hside)⟩

end

/-! ### A failed-over command -/

/-- The text of the step command in the format of `plainConfig`. -/
def stepText : Bytes :=
  (encodeByProtocol .legacyPipe MessageCodec.stepCommand).2

/-- A router at which a handler of the step command is registered. -/
def stepRouter : MessageRouter :=
  (MessageRouter.register MessageCodec.stepCommand.topic (some fun _ => true) {}).2

/-- A start with the given configuration, the step command published by the vehicle, and its text received from the
given transport, with a handler registered on either side. -/
def stepOps (config : BridgeConfig) (t : TransportId) : List BridgeOp :=
  [.start {} config, .publish .vehicle {} MessageCodec.stepCommand,
    .inbound t { nowMs := 1000 } { vehicle := stepRouter, robot := stepRouter } (.ok, stepText)]

theorem direction_safety_stepCommand :
    ∃ r, (stepOps plainConfig .vehicleToRobot).foldlM (BridgeRun.exec (fun _ => 0) scriptedTransports)
        { wire := { state := [] } } = some r ∧
      ∀ i ∈ r.invocations, ∀ p ∈ r.published, p.Hands i.transport i.message → i.side = p.origin → p.FailedOver := by
  have hsome : ((stepOps plainConfig .vehicleToRobot).foldlM (BridgeRun.exec (fun _ => 0) scriptedTransports)
      { wire := { state := [] } }).isSome = true := by decide
  obtain ⟨r, hr⟩ := Option.isSome_iff_exists.1 hsome
  exact ⟨r, hr, (direction_safety (fun _ => 0) scriptedTransports { state := [] } (Run.of_foldlM hr)).2.2.1⟩

/-- With an additional endpoint configured, a command whose send fails comes back to the vehicle's own handler. -/
theorem direction_not_kept : ¬ ∀ (hashString : Bytes → UInt64) (net : Transports (List ErrorCode))
    (w : Wire (List ErrorCode)) (ops : List BridgeOp) (r : BridgeRun (List ErrorCode)),
    Run (fun r op r' => r.exec hashString net op = some r') { wire := w } ops r →
      (∀ p ∈ r.published, ∀ t message, p.Hands t message → readerOf t ≠ p.origin) ∧
        ∀ i ∈ r.invocations, ∀ p ∈ r.published, p.Hands i.transport i.message → i.side ≠ p.origin := by
  intro h
  have hexec : ((stepOps { plainConfig with additionalEndpoints := [{}] } .robotToVehicle).foldlM
      (BridgeRun.exec (fun _ => 0) scriptedTransports) { wire := { state := [.queueSendFailed] } }).map
        (fun r => (r.published, r.invocations)) =
      some ([{ origin := .vehicle, failover := true
               calls := [.sendWithTimeout .vehicleToRobot stepText 1 50 .queueSendFailed,
                 .sendWithTimeout .robotToVehicle stepText 1 50 .ok] }],
        [{ side := .vehicle, transport := .robotToVehicle, message := stepText
           envelope := MessageCodec.stepCommand }]) := by decide
  obtain ⟨r, hr, heq⟩ := Option.map_eq_some_iff.1 hexec
  rw [Prod.mk.injEq] at heq
  have hinvoked := (h _ _ _ _ r (Run.of_foldlM hr)).2
  rw [heq.1, heq.2] at hinvoked
  exact hinvoked _ List.mem_cons_self _ List.mem_cons_self
    ⟨1, 50, .ok, List.mem_cons_of_mem _ List.mem_cons_self⟩ rfl

end VehicleBridge
