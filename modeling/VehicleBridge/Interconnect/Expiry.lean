import Mathlib.Order.BoundedOrder.Lattice
import Mathlib.Order.Lattice.Nat
import Mathlib.Order.WithBot
import VehicleBridge.Interconnect.Inbound
import VehicleBridge.Interconnect.Lifecycle

/-!
# Expiry of received messages

A message may be limited by its own time to live and by the policy it is received under, and zero is no limit on
either side.  `IsExpired` folds the two into one number.  `timeLimit` reads such a number as a limit, and
`timeLimit_effectiveTtl_iff` says when the fold is the smaller of the two limits: unless the message has one and the
policy has none.  `fresh_only_iff` carries this over to a round of the inbound loop.
-/

namespace VehicleBridge

open ByteText

/-- A number of milliseconds as a limit. -/
def timeLimit (ms : UInt32) : WithTop Nat :=
  if ms = 0 then ⊤ else .some ms.toNat

/-- The number that `IsExpired` compares the age with. -/
def effectiveTtl (envelope : MessageEnvelope) (maxLatencyMs : UInt32) : UInt32 :=
  if envelope.ttlMs = 0 then maxLatencyMs else min envelope.ttlMs maxLatencyMs

/-- The milliseconds since a message was made. -/
def age (envelope : MessageEnvelope) (nowMs : UInt64) : Nat :=
  nowMs.toNat - envelope.timestampMs.toNat

/-- The round invoked a handler with the envelope. -/
def InboundOutcome.Handled (envelope : MessageEnvelope) (outcome : InboundOutcome) : Prop :=
  outcome = .routed envelope .ok ∨ outcome = .routed envelope .handlerError

/-- What a round owes to an envelope that is received under a policy at a time: a handler only within the limits, and
no second life. -/
structure FreshOnly (envelope : MessageEnvelope) (policy : BridgeSlaPolicy) (nowMs : UInt64)
    (outcome : InboundOutcome) : Prop where
  handled : outcome.Handled envelope →
    .some (age envelope nowMs) ≤ timeLimit envelope.ttlMs ∧
      .some (age envelope nowMs) ≤ timeLimit policy.maxEndToEndLatencyMs
  stays : isExpired envelope nowMs policy.maxEndToEndLatencyMs = true →
    ∀ later, nowMs ≤ later → isExpired envelope later policy.maxEndToEndLatencyMs = true

/-! ### The limits -/

private theorem timeLimit_zero : timeLimit 0 = ⊤ :=
  rfl

private theorem timeLimit_of_ne_zero {ms : UInt32} (h : ms ≠ 0) : timeLimit ms = .some ms.toNat :=
  if_neg h

private theorem min_eq_ite (a b : UInt32) : min a b = if a ≤ b then a else b :=
  rfl

private theorem eq_zero_of_le_zero {a : UInt32} (h : a ≤ 0) : a = 0 :=
  UInt32.le_antisymm h (UInt32.le_iff_toNat_le.2 (Nat.zero_le _))

private theorem timeLimit_of_le {a b : UInt32} (ha : a ≠ 0) (hle : a ≤ b) : timeLimit a ≤ timeLimit b := by
  have hb : b ≠ 0 := by
    rintro rfl
    exact ha (eq_zero_of_le_zero hle)
  rw [timeLimit_of_ne_zero ha, timeLimit_of_ne_zero hb]
  exact WithTop.coe_le_coe.2 (UInt32.le_iff_toNat_le.1 hle)

private theorem timeLimit_min {a b : UInt32} (ha : a ≠ 0) (hb : b ≠ 0) :
    timeLimit (min a b) = timeLimit a ⊓ timeLimit b := by
  rw [min_eq_ite]
  split
  · next hle => rw [inf_of_le_left (timeLimit_of_le ha hle)]
  · next hnot => rw [inf_of_le_right (timeLimit_of_le hb (UInt32.le_of_lt (UInt32.not_le.1 hnot)))]

private theorem effectiveTtl_zero (e : MessageEnvelope) : effectiveTtl e 0 = 0 := by
  unfold effectiveTtl
  rw [min_eq_ite]
  split
  · rfl
  split
  · next hle => exact eq_zero_of_le_zero hle
  · rfl

/-- The folded number stands for the smaller limit unless only the message has one. -/
theorem timeLimit_effectiveTtl_iff (e : MessageEnvelope) (maxLatencyMs : UInt32) :
    timeLimit (effectiveTtl e maxLatencyMs) = timeLimit e.ttlMs ⊓ timeLimit maxLatencyMs ↔
      e.ttlMs = 0 ∨ maxLatencyMs ≠ 0 := by
  by_cases httl : e.ttlMs = 0
  · rw [effectiveTtl, if_pos httl, httl, timeLimit_zero, top_inf_eq]
    exact iff_of_true rfl (.inl rfl)
  by_cases hmax : maxLatencyMs = 0
  · rw [hmax, effectiveTtl_zero, timeLimit_zero, inf_top_eq, timeLimit_of_ne_zero httl]
    exact iff_of_false WithTop.top_ne_coe (by simp [httl])
  · rw [effectiveTtl, if_neg httl]
    exact iff_of_true (timeLimit_min httl hmax) (.inr hmax)

/-! ### The check -/

/-- A message is expired when it is older than the folded number allows. -/
private theorem isExpired_iff (e : MessageEnvelope) (nowMs : UInt64) (maxLatencyMs : UInt32) :
    isExpired e nowMs maxLatencyMs = true ↔ ¬ .some (age e nowMs) ≤ timeLimit (effectiveTtl e maxLatencyMs) := by
  have heq : isExpired e nowMs maxLatencyMs =
      if effectiveTtl e maxLatencyMs = 0 then false
      else if nowMs < e.timestampMs then false
      else decide (nowMs - e.timestampMs > (effectiveTtl e maxLatencyMs).toUInt64) := rfl
  rw [heq]
  by_cases hnone : effectiveTtl e maxLatencyMs = 0
  · rw [if_pos hnone, hnone, timeLimit_zero]
    exact iff_of_false Bool.false_ne_true (not_not.2 le_top)
  rw [if_neg hnone, timeLimit_of_ne_zero hnone, WithTop.coe_le_coe]
  unfold age
  by_cases hearly : nowMs < e.timestampMs
  · have hlt := UInt64.lt_iff_toNat_lt.1 hearly
    rw [if_pos hearly]
    exact iff_of_false Bool.false_ne_true (by omega)
  · have hsub : (nowMs - e.timestampMs).toNat = nowMs.toNat - e.timestampMs.toNat :=
      UInt64.toNat_sub_of_le _ _ (UInt64.not_lt.1 hearly)
    rw [if_neg hearly, decide_eq_true_iff, gt_iff_lt, UInt64.lt_iff_toNat_lt, hsub, UInt32.toNat_toUInt64]
    omega

private theorem age_le_age {e : MessageEnvelope} {nowMs later : UInt64} (h : nowMs ≤ later) :
    age e nowMs ≤ age e later :=
  Nat.sub_le_sub_right (UInt64.le_iff_toNat_le.1 h) _

private theorem isExpired_mono {e : MessageEnvelope} {nowMs later : UInt64} {maxLatencyMs : UInt32} (h : nowMs ≤ later)
    (hexpired : isExpired e nowMs maxLatencyMs = true) : isExpired e later maxLatencyMs = true := by
  rw [isExpired_iff] at hexpired ⊢
  exact fun hle => hexpired (le_trans (WithTop.coe_le_coe.2 (age_le_age h)) hle)

/-! ### A round -/

variable {message : Bytes} {e : MessageEnvelope} {s : BridgeState}

/-- A round hands a valid envelope to its handler exactly when there is one and the message is not expired. -/
private theorem handled_iff (env : InboundEnv) (router : MessageRouter)
    (hdecode : decodeByProtocol s.protocolMode message {} = .ok (.ok, e))
    (hvalid : isEnvelopeValidForPublish e = true) :
    (processInbound env router (.ok, message) s).1.Handled e ↔
      isExpired e env.nowMs (usedEntry e s).policy.maxEndToEndLatencyMs = false ∧
        router.handlers e.topic ≠ none := by
  have hround := processInbound_of_decode env router hdecode
  rw [hvalid, if_neg (by decide), dispatch_fst] at hround
  rw [hround, ne_eq, ← MessageRouter.route_eq_noHandler_iff e router]
  change (if isExpired e env.nowMs (usedEntry e s).policy.maxEndToEndLatencyMs then InboundOutcome.expired e
    else .routed e (router.route e)).Handled e ↔ _
  cases isExpired e env.nowMs (usedEntry e s).policy.maxEndToEndLatencyMs with
  | true => simp [InboundOutcome.Handled]
  | false => cases router.route e <;> simp [InboundOutcome.Handled]

/-- **No stale message reaches a handler**, in a round on a message with a given envelope, exactly when the message
has no time to live of its own, or the policy has a limit, or the message is young enough anyway or has no handler. -/
theorem fresh_only_iff (env : InboundEnv) (router : MessageRouter)
    (hdecode : decodeByProtocol s.protocolMode message {} = .ok (.ok, e))
    (hvalid : isEnvelopeValidForPublish e = true) :
    FreshOnly e (usedEntry e s).policy env.nowMs (processInbound env router (.ok, message) s).1 ↔
      (e.ttlMs = 0 ∨ (usedEntry e s).policy.maxEndToEndLatencyMs ≠ 0) ∨
        age e env.nowMs ≤ e.ttlMs.toNat ∨ router.handlers e.topic = none := by
  have hhandled := handled_iff env router hdecode hvalid
  have hexpired := isExpired_iff e env.nowMs (usedEntry e s).policy.maxEndToEndLatencyMs
  generalize (usedEntry e s).policy = policy at hhandled hexpired ⊢
  constructor
  · intro hfresh
    by_cases hlimits : e.ttlMs = 0 ∨ policy.maxEndToEndLatencyMs ≠ 0
    · exact .inl hlimits
    obtain ⟨httl, hmax⟩ := not_or.1 hlimits
    refine .inr (or_iff_not_imp_right.2 fun hhandler => ?_)
    -- the policy's zero makes the folded number zero, and nothing expires
    rw [not_not.1 hmax, effectiveTtl_zero, timeLimit_zero] at hexpired
    have hnot : isExpired e env.nowMs 0 = false := Bool.eq_false_iff.2 fun h => hexpired.1 h le_top
    have hwithin := (hfresh.handled (hhandled.2 ⟨not_not.1 hmax ▸ hnot, hhandler⟩)).1
    rwa [timeLimit_of_ne_zero httl, WithTop.coe_le_coe] at hwithin
  · intro hcond
    refine ⟨fun h => ?_, fun h later hle => isExpired_mono hle h⟩
    obtain ⟨hnot, hhandler⟩ := hhandled.1 h
    by_cases hlimits : e.ttlMs = 0 ∨ policy.maxEndToEndLatencyMs ≠ 0
    · rw [hnot, (timeLimit_effectiveTtl_iff e policy.maxEndToEndLatencyMs).2 hlimits] at hexpired
      exact le_inf_iff.1 (not_not.1 fun hlate => Bool.false_ne_true (hexpired.2 hlate))
    · obtain ⟨httl, hmax⟩ := not_or.1 hlimits
      have hage := (hcond.resolve_left hlimits).resolve_right hhandler
      rw [not_not.1 hmax, timeLimit_zero, timeLimit_of_ne_zero httl, WithTop.coe_le_coe]
      exact ⟨hage, le_top⟩

/-- The step command, which has 100 ms to live, received after four seconds by a bridge with the plain
configuration. -/
theorem fresh_only_iff_stepCommand :
    FreshOnly MessageCodec.stepCommand (usedEntry MessageCodec.stepCommand plainBridge).policy 5000
        (processInbound { nowMs := 5000 } { handlers := fun _ => some fun _ => true }
          (.ok, (encodeByProtocol .legacyPipe MessageCodec.stepCommand).2) plainBridge).1 ↔
      (MessageCodec.stepCommand.ttlMs = 0 ∨
          (usedEntry MessageCodec.stepCommand plainBridge).policy.maxEndToEndLatencyMs ≠ 0) ∨
        age MessageCodec.stepCommand 5000 ≤ MessageCodec.stepCommand.ttlMs.toNat ∨
          (some fun _ : MessageEnvelope => true) = none :=
  fresh_only_iff { nowMs := 5000 } { handlers := fun _ => some fun _ => true } (by decide) (by decide)

/-- A bridge with a rule for the step command that sets no limit. -/
def unlimitedBridge : BridgeState :=
  (start (fun _ => 0) {}
    { plainConfig with
      policyTable := { rules := [{ topic := text "vehicle.command", policy := { maxEndToEndLatencyMs := 0 } }] } }
    {}).2

/-- Where the policy sets no limit, a command with 100 ms to live is handled after four seconds. -/
theorem stale_handled : ¬ ∀ (env : InboundEnv) (router : MessageRouter) (message : Bytes) (e : MessageEnvelope)
    (s : BridgeState), decodeByProtocol s.protocolMode message {} = .ok (.ok, e) →
      isEnvelopeValidForPublish e = true → e.timestampMs ≤ env.nowMs →
        FreshOnly e (usedEntry e s).policy env.nowMs (processInbound env router (.ok, message) s).1 := by
  intro hall
  have hfresh := hall { nowMs := 5000 } { handlers := fun _ => some fun _ => true }
    (encodeByProtocol .legacyPipe MessageCodec.stepCommand).2 MessageCodec.stepCommand unlimitedBridge
    (by decide) (by decide) (by decide)
  have hwithin := (hfresh.handled (.inl (by decide))).1
  revert hwithin
  decide

end VehicleBridge
