import VehicleBridge.Interconnect.Inbound
import VehicleBridge.Interconnect.PublishOutcome

/-!
# From publisher to handler

The text that a publish hands to a transport, received unchanged by a bridge.  The compact format and the two framed
ones do not carry source and target, and the receiver applies the publisher's check to what it decodes; so a message
arrives exactly when it is sent in the legacy format (`delivered_iff`).
-/

namespace VehicleBridge

open ByteText

/-- `ResolveMode` keeps a configured legacy mode: the default policy is not locked and the protocol canary, where there
is one, lets the message pass. -/
structure SentAsLegacy (config : BridgeConfig) (e : MessageEnvelope) : Prop where
  unlocked : config.policyTable.defaultPolicy.lockPolicy = false
  mode : config.protocolMode = .legacyPipe
  canary : config.protocolCanaryTopicPrefix = [] ∨
    (startsWith e.topic config.protocolCanaryTopicPrefix = true ∧
      (e.timestampMs % 100).toUInt32 < config.protocolCanaryPercent)

theorem resolveMode_eq_legacyPipe_iff (config : BridgeConfig) (e : MessageEnvelope) :
    resolveMode config e = .legacyPipe ↔ SentAsLegacy config e := by
  have hgate : (if e.timestampMs = 0 then (0 : UInt32) else (e.timestampMs % 100).toUInt32) =
      (e.timestampMs % 100).toUInt32 := by
    split
    · next h =>
      rw [h]
      rfl
    · rfl
  unfold resolveMode
  simp only [hgate]
  constructor
  · intro h
    split at h
    · cases h
    next hlock =>
      split at h
      · next hnone => exact ⟨Bool.not_eq_true _ ▸ hlock, h, .inl hnone⟩
      split at h
      · cases h
      next hfront =>
        split at h
        · next hpass => exact ⟨Bool.not_eq_true _ ▸ hlock, h, .inr ⟨Bool.not_eq_false _ ▸ hfront, hpass⟩⟩
        · cases h
  · rintro ⟨hlock, hmode, hcanary⟩
    rw [if_neg (by simp [hlock]), hmode]
    rcases hcanary with hnone | ⟨hfront, hpass⟩
    · rw [if_pos hnone]
    · simp [hfront, hpass]

/-- The handler's envelope agrees with the published one. -/
structure HandedOver (e d : MessageEnvelope) : Prop where
  topic : d.topic = e.topic
  payload : d.payload = e.payload
  channel : d.channel = e.channel
  qos : d.qos = e.qos
  sequence : d.sequence = e.sequence
  timestampMs : d.timestampMs = e.timestampMs
  ttlMs : d.ttlMs = e.ttlMs

/-- A bridge that receives the text decodes it, does not reject it, and, unless it has expired under the policy of the
message, invokes the handler of its topic, if there is one. -/
structure Delivered (env : InboundEnv) (router : MessageRouter) (message : Bytes) (receiver : BridgeState)
    (e : MessageEnvelope) : Prop where
  accepted : ∃ d, (processInbound env router (.ok, message) receiver).1 = .expired d ∨
    ∃ result, (processInbound env router (.ok, message) receiver).1 = .routed d result
  invoked : isExpired e env.nowMs (resolvePolicy env.conflictNowMs e receiver).1.maxEndToEndLatencyMs = false →
    router.handlers e.topic ≠ none →
      ∃ d result, (processInbound env router (.ok, message) receiver).1 = .routed d result ∧ result ≠ .noHandler ∧
        HandedOver e d

/-- The policy of a message does not depend on its idempotency key, nor on what a round counts before it resolves. -/
private theorem resolvePolicy_received (env : InboundEnv) (e : MessageEnvelope) (receiver : BridgeState)
    (traffic : TrafficCounters) :
    (resolvePolicy env.conflictNowMs { e with idempotencyKey := [] }
        (noteReceived env { e with idempotencyKey := [] } { receiver with traffic })).1 =
      (resolvePolicy env.conflictNowMs e receiver).1 := by
  have hinternal : resolvePolicyInternal receiver.config.policyTable { e with idempotencyKey := [] } =
      resolvePolicyInternal receiver.config.policyTable e :=
    resolvePolicyInternal_congr rfl fun _ _ => rfl
  rw [resolvePolicy_fst, resolvePolicy_fst]
  unfold usedEntry
  exact congrArg (fun entry => ((receiver.policyCache.lookup (policyCacheKey e)).1.getD entry).policy) hinternal

/-- A text in the legacy format is delivered. -/
private theorem delivered_of_legacy {e : MessageEnvelope} (hschema : 1 ≤ e.schemaVersion)
    (hvalid : isEnvelopeValidForPublish e = true) (env : InboundEnv) (router : MessageRouter)
    (receiver : BridgeState) : Delivered env router (encodeByProtocol .legacyPipe e).2 receiver e := by
  have hdecode : decodeByProtocol receiver.protocolMode (encodeByProtocol .legacyPipe e).2 {} =
      .ok (.ok, { e with idempotencyKey := [] }) :=
    (decodeByProtocol_encodeByProtocol_or .legacyPipe receiver.protocolMode hschema {}).resolve_right
      fun hbad => hbad.1 rfl
  have hround := processInbound_of_decode env router hdecode
  have hcarried : isEnvelopeValidForPublish { e with idempotencyKey := [] } = true := hvalid
  rw [if_neg (by rw [hcarried]; decide)] at hround
  unfold dispatch at hround
  simp only [resolvePolicy_received] at hround
  have hexpiry : isExpired { e with idempotencyKey := [] } = isExpired e := rfl
  rw [hexpiry] at hround
  split at hround
  · next hexpired =>
    refine ⟨⟨_, .inl hround⟩, fun hfresh => ?_⟩
    rw [hexpired] at hfresh
    cases hfresh
  · refine ⟨⟨_, .inr ⟨_, hround⟩⟩, fun _ hhandler => ⟨_, _, hround, ?_, ⟨rfl, rfl, rfl, rfl, rfl, rfl, rfl⟩⟩⟩
    rw [ne_eq, MessageRouter.route_eq_noHandler_iff]
    exact hhandler

/-- A text in any other format is not accepted: source and target are missing from what it decodes to. -/
private theorem not_delivered_of_not_legacy {e : MessageEnvelope} (hschema : 1 ≤ e.schemaVersion)
    {mode : MessageProtocolMode} (hmode : mode ≠ .legacyPipe) (env : InboundEnv) (router : MessageRouter)
    (receiver : BridgeState) : ¬ Delivered env router (encodeByProtocol mode e).2 receiver e := by
  rintro ⟨⟨d, hd⟩, -⟩
  rcases decodeByProtocol_encodeByProtocol_or mode receiver.protocolMode hschema {} with
    hdecode | ⟨-, -, hdecode⟩
  · have hround := processInbound_of_decode env router hdecode
    have hinvalid : isEnvelopeValidForPublish (carried mode e) = false := by
      cases mode with
      | legacyPipe => exact absurd rfl hmode
      | compact => rfl
      | protobufReserved => rfl
      | cborReserved => rfl
    rw [if_pos hinvalid] at hround
    rw [hround] at hd
    rcases hd with hd | ⟨_, hd⟩ <;> cases hd
  · simp only [processInbound, processText, hdecode] at hd
    rcases hd with hd | ⟨_, hd⟩ <;> cases hd

section
variable {σ : Type*} {net : Transports σ} {env : PublishEnv} {t : TransportId} {e : MessageEnvelope}
  {s s' : BridgeState} {w w' : Wire σ}

private theorem valid_of_publish_ok (h : publish net env t e s w = some (.ok, s', w')) :
    isEnvelopeValidForPublish e = true := by
  obtain ⟨-, houtcome⟩ := publish_outcome h
  cases houtcome with
  | refused hne => exact absurd rfl hne
  | sent hearly => exact (refuseEarly_none hearly).2

/-- Every text a publish hands to a transport is the envelope in the resolved mode. -/
private theorem message_of_publish {ec : ErrorCode} (h : publish net env t e s w = some (ec, s', w'))
    {calls : List TransportCall} (hcalls : w'.calls = w.calls ++ calls) {t' : TransportId} {message : Bytes}
    {priority : UInt32} {timeoutMs : Int64} {result : ErrorCode}
    (hsent : TransportCall.sendWithTimeout t' message priority timeoutMs result ∈ calls) :
    message = (encodeByProtocol (resolveMode s.config e) e).2 := by
  obtain ⟨own, other, heq, hlog⟩ := publish_calls h
  rw [hcalls] at heq
  rw [List.append_cancel_left heq] at hsent
  rcases List.mem_append.1 hsent with hmem | hmem
  · exact (hlog.own_isFor _ hmem).2
  · exact (hlog.other_isFor _ hmem).2

/-- **End-to-end delivery.**  The text of a publish that returned `kOk`, received unchanged, is delivered exactly when
it was sent in the legacy format. -/
theorem delivered_iff (h : publish net env t e s w = some (.ok, s', w')) (hschema : 1 ≤ e.schemaVersion)
    {calls : List TransportCall} (hcalls : w'.calls = w.calls ++ calls) {t' : TransportId} {message : Bytes}
    {priority : UInt32} {timeoutMs : Int64} {result : ErrorCode}
    (hsent : TransportCall.sendWithTimeout t' message priority timeoutMs result ∈ calls) (renv : InboundEnv)
    (router : MessageRouter) (receiver : BridgeState) :
    Delivered renv router message receiver e ↔ SentAsLegacy s.config e := by
  rw [message_of_publish h hcalls hsent, ← resolveMode_eq_legacyPipe_iff]
  constructor
  · intro hdelivered
    by_contra hmode
    exact not_delivered_of_not_legacy hschema hmode renv router receiver hdelivered
  · intro hmode
    rw [hmode]
    exact delivered_of_legacy hschema (valid_of_publish_ok h) renv router receiver

end

/-- A published step command reaches the handler of its topic on a bridge that runs the plain configuration. -/
theorem delivered_iff_stepCommand :
    Delivered {} { handlers := fun _ => some fun _ => true }
        (encodeByProtocol .legacyPipe MessageCodec.stepCommand).2 plainBridge MessageCodec.stepCommand ↔
      SentAsLegacy plainBridge.config MessageCodec.stepCommand := by
  have hok : (publish scriptedTransports {} .vehicleToRobot MessageCodec.stepCommand plainBridge
      { state := [] }).map (fun r => (r.1, r.2.2.calls)) =
      some (.ok, [.sendWithTimeout .vehicleToRobot (encodeByProtocol .legacyPipe MessageCodec.stepCommand).2 1 50
        .ok]) := by decide
  obtain ⟨⟨ec, s', w'⟩, h, heq⟩ := Option.map_eq_some_iff.1 hok
  rw [Prod.mk.injEq] at heq
  obtain ⟨rfl, hcalls⟩ := heq
  exact delivered_iff h (by decide) hcalls List.mem_cons_self {} _ plainBridge

/-- A bridge that runs the compact format. -/
def compactBridge : BridgeState :=
  (start (fun _ => 0) {} { plainConfig with protocolMode := .compact } {}).2

/-- In the compact format the same command is rejected as an invalid envelope. -/
theorem not_always_delivered : ¬ ∀ (net : Transports (List ErrorCode)) (env : PublishEnv) (t : TransportId)
    (e : MessageEnvelope) (s s' : BridgeState) (w w' : Wire (List ErrorCode)) (calls : List TransportCall)
    (t' : TransportId) (message : Bytes) (priority : UInt32) (timeoutMs : Int64) (result : ErrorCode)
    (renv : InboundEnv) (router : MessageRouter) (receiver : BridgeState),
    publish net env t e s w = some (.ok, s', w') → 1 ≤ e.schemaVersion → w'.calls = w.calls ++ calls →
      TransportCall.sendWithTimeout t' message priority timeoutMs result ∈ calls →
        Delivered renv router message receiver e := by
  intro hall
  have hok : (publish scriptedTransports {} .vehicleToRobot MessageCodec.stepCommand compactBridge
      { state := [] }).map (fun r => (r.1, r.2.2.calls)) =
      some (.ok, [.sendWithTimeout .vehicleToRobot (encodeByProtocol .compact MessageCodec.stepCommand).2 1 50
        .ok]) := by decide
  obtain ⟨⟨ec, s', w'⟩, h, heq⟩ := Option.map_eq_some_iff.1 hok
  rw [Prod.mk.injEq] at heq
  obtain ⟨rfl, hcalls⟩ := heq
  obtain ⟨d, hd⟩ := (hall _ _ _ _ _ _ _ _ _ _ _ _ _ _ {} {} compactBridge h (by decide) hcalls
    List.mem_cons_self).accepted
  have hround : (processInbound {} {} (.ok, (encodeByProtocol .compact MessageCodec.stepCommand).2)
      compactBridge).1 = .invalidEnvelope (carried .compact MessageCodec.stepCommand) := by decide
  rw [hround] at hd
  rcases hd with hd | ⟨_, hd⟩ <;> cases hd

end VehicleBridge
