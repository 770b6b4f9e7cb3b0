import VehicleBridge.Interconnect.Lifecycle
import VehicleBridge.Interconnect.Publish

/-!
# The outcomes of a publish

`preparePublish_step` and `sendOutgoing_step` say what the two halves of `Publish` do to the bridge, and
`publish_outcome` is the inversion of the whole: an envelope is refused, suppressed by the idempotency window, left
without a flow slot, or sent, and then the transports' answers decide.  `publish_calls` describes the calls made on
the transports, and `publish_sends_once` counts the sends that were accepted.
-/

namespace VehicleBridge

open ByteText Attempts

/-! ### What the first half can do -/

/-- The members that publishing never writes. -/
structure SetupKept (s s' : BridgeState) : Prop where
  running : s'.running = s.running
  config : s'.config = s.config
  tuning : s'.tuning = s.tuning

theorem SetupKept.trans {s s' s'' : BridgeState} (h : SetupKept s s') (h' : SetupKept s' s'') : SetupKept s s'' :=
  ⟨h'.running.trans h.running, h'.config.trans h.config, h'.tuning.trans h.tuning⟩

/-- The in-flight counter leaves room for one more message on the transport. -/
def FlowSlotFree (t : TransportId) (s : BridgeState) : Prop :=
  flowLimit s.tuning t = 0 ∨ s.inflight.get t + 1 ≤ flowLimit s.tuning t

private theorem acquireFlowSlot_iff (t : TransportId) (s : BridgeState) :
    (acquireFlowSlot t s).1 = true ↔ FlowSlotFree t s := by
  unfold acquireFlowSlot FlowSlotFree
  simp only
  split
  · next h => simp [h]
  · next h =>
    split
    · next hgt => simp [h, UInt32.not_le.2 hgt]
    · next hle => simp [UInt32.not_lt.1 hle]

private theorem acquireFlowSlot_frame (t : TransportId) (s : BridgeState) :
    (acquireFlowSlot t s).2 = { s with inflight := (acquireFlowSlot t s).2.inflight } := by
  unfold acquireFlowSlot
  simp only
  split
  · rfl
  · split <;> rfl

/-- The bridge after a call that is refused because it is not running. -/
def countNotRunning (s : BridgeState) : BridgeState :=
  { s with traffic := { s.traffic with txFailCount := s.traffic.txFailCount + 1 } }

/-- A refused envelope found the bridge stopped, was not valid, or was left out by the canary. -/
theorem refuseEarly_cases {env : PublishEnv} {e : MessageEnvelope} {s s' : BridgeState} {ec : ErrorCode}
    (h : refuseEarly env e s = some (ec, s')) :
    (ec = .threadStartFailed ∧ s' = countNotRunning s) ∨
      (ec = .interconnectInvalidEnvelope ∧ s' = countInvalidEnvelope s) ∨
      (ec = .wouldBlock ∧ s' = countCanarySkip s) := by
  unfold refuseEarly at h
  repeat' split at h
  all_goals cases h
  · exact .inl ⟨rfl, rfl⟩
  · exact .inr (.inl ⟨rfl, rfl⟩)
  · exact .inr (.inl ⟨rfl, rfl⟩)
  · exact .inr (.inr ⟨rfl, rfl⟩)

theorem refuseEarly_ne_ok {env : PublishEnv} {e : MessageEnvelope} {s s' : BridgeState} {ec : ErrorCode}
    (h : refuseEarly env e s = some (ec, s')) : ec ≠ .ok := by
  rcases refuseEarly_cases h with ⟨rfl, -⟩ | ⟨rfl, -⟩ | ⟨rfl, -⟩ <;> decide

/-- A refused envelope leaves the set-up, the window and the count of idempotency drops alone. -/
private theorem refuseEarly_some {env : PublishEnv} {e : MessageEnvelope} {s s' : BridgeState} {ec : ErrorCode}
    (h : refuseEarly env e s = some (ec, s')) :
    SetupKept s s' ∧ s'.recentKeys = s.recentKeys ∧
      s'.traffic.idempotencyDropCount = s.traffic.idempotencyDropCount := by
  rcases refuseEarly_cases h with ⟨-, rfl⟩ | ⟨-, rfl⟩ | ⟨-, rfl⟩ <;> exact ⟨⟨rfl, rfl, rfl⟩, rfl, rfl⟩

theorem refuseEarly_none {env : PublishEnv} {e : MessageEnvelope} {s : BridgeState} (h : refuseEarly env e s = none) :
    s.running = true ∧ isEnvelopeValidForPublish e = true := by
  unfold refuseEarly at h
  repeat' split at h
  all_goals simp_all

/-- What is sent, and how. -/
def outgoing (env : PublishEnv) (t : TransportId) (e : MessageEnvelope) (s : BridgeState) : Outgoing :=
  { encoded := (encodeByProtocol (resolveMode s.config e) e).2
    priority := resolvePriorityForPublish e t s
    policy := (resolvePolicy env.conflictNowMs e s).1 }

/-- The bridge once the policy of the message is resolved and its flow slot asked for. -/
def afterSlot (env : PublishEnv) (t : TransportId) (e : MessageEnvelope) (s : BridgeState) : BridgeState :=
  (acquireFlowSlot t (resolvePolicy env.conflictNowMs e s).2).2

theorem afterSlot_frame (env : PublishEnv) (t : TransportId) (e : MessageEnvelope) (s : BridgeState) :
    afterSlot env t e s =
      { s with
        policyCache := (afterSlot env t e s).policyCache
        policyCounters := (afterSlot env t e s).policyCounters
        inflight := (afterSlot env t e s).inflight } := by
  unfold afterSlot
  rw [acquireFlowSlot_frame, resolvePolicy_frame]

/-- The bridge after a call that found the flow window full. -/
def countNoSlot (s : BridgeState) : BridgeState :=
  { s with traffic := { s.traffic with
      txFailCount := s.traffic.txFailCount + 1
      backpressureDropCount := s.traffic.backpressureDropCount + 1 } }

/-- Every message encodes, so the only refusal left is a full flow window. -/
private theorem encodeOutgoing_cases (env : PublishEnv) (t : TransportId) (e : MessageEnvelope) (s : BridgeState) :
    (¬ FlowSlotFree t s ∧ encodeOutgoing env t e s = (.error .wouldBlock, countNoSlot (afterSlot env t e s))) ∨
      (FlowSlotFree t s ∧ encodeOutgoing env t e s = (.ok (outgoing env t e s), afterSlot env t e s)) := by
  have hslot : (acquireFlowSlot t (resolvePolicy env.conflictNowMs e s).2).1 = (acquireFlowSlot t s).1 := by
    rw [resolvePolicy_frame, Bool.eq_iff_iff, acquireFlowSlot_iff, acquireFlowSlot_iff]
    exact Iff.rfl
  have hpriority : resolvePriorityForPublish e t (resolvePolicy env.conflictNowMs e s).2 =
      resolvePriorityForPublish e t s := by
    rw [resolvePolicy_frame]
    rfl
  have hencode : (encodeByProtocol (resolveMode s.config e) e).1 = .ok := by
    rw [encodeByProtocol_eq]
  unfold encodeOutgoing
  simp only [hencode, ne_eq, not_true_eq_false, if_false, hslot, hpriority]
  by_cases hfree : FlowSlotFree t s
  · rw [if_neg (by rw [(acquireFlowSlot_iff t s).2 hfree]; decide)]
    exact .inr ⟨hfree, rfl⟩
  · have hfalse : (acquireFlowSlot t s).1 = false :=
      Bool.not_eq_true _ ▸ fun htrue => hfree ((acquireFlowSlot_iff t s).1 htrue)
    rw [if_pos hfalse]
    exact .inl ⟨hfree, rfl⟩

/-- The bridge behind the idempotency window. -/
def passWindow (envelope : MessageEnvelope) (s : BridgeState) : BridgeState :=
  if shouldApplyIdempotency s.config envelope then enterKey envelope s else s

theorem passWindow_frame (e : MessageEnvelope) (s : BridgeState) :
    passWindow e s = { s with recentKeys := (passWindow e s).recentKeys } := by
  unfold passWindow
  split <;> rfl

/-- The window suppresses the envelope. -/
def Suppressed (envelope : MessageEnvelope) (s : BridgeState) : Prop :=
  shouldApplyIdempotency s.config envelope = true ∧ inWindow envelope s = true

/-- What the first half of `Publish` does to the bridge, in each of the four ways through it. -/
inductive PrepareStep (env : PublishEnv) (t : TransportId) (e : MessageEnvelope) (s : BridgeState) :
    Except ErrorCode Outgoing → BridgeState → Prop
  | refused {ec : ErrorCode} {s' : BridgeState} : refuseEarly env e s = some (ec, s') →
      PrepareStep env t e s (.error ec) s'
  | duplicate : Suppressed e s → PrepareStep env t e s (.error .wouldBlock) (countIdempotencyDrop s)
  | noSlot : refuseEarly env e s = none → ¬ Suppressed e s → ¬ FlowSlotFree t s →
      PrepareStep env t e s (.error .wouldBlock) (countNoSlot (afterSlot env t e (passWindow e s)))
  | ready : refuseEarly env e s = none → ¬ Suppressed e s → FlowSlotFree t s →
      PrepareStep env t e s (.ok (outgoing env t e s)) (afterSlot env t e (passWindow e s))

/-- The same ways, by what is returned, the window and the count of idempotency drops. -/
inductive PrepareOutcome (env : PublishEnv) (t : TransportId) (e : MessageEnvelope) (s : BridgeState) :
    Except ErrorCode Outgoing → BridgeState → Prop
  | refused {ec : ErrorCode} {s' : BridgeState} : ec ≠ .ok → SetupKept s s' → s'.recentKeys = s.recentKeys →
      s'.traffic.idempotencyDropCount = s.traffic.idempotencyDropCount → PrepareOutcome env t e s (.error ec) s'
  | duplicate : Suppressed e s → PrepareOutcome env t e s (.error .wouldBlock) (countIdempotencyDrop s)
  | noSlot {s' : BridgeState} : refuseEarly env e s = none → ¬ Suppressed e s → ¬ FlowSlotFree t s → SetupKept s s' →
      s'.recentKeys = (passWindow e s).recentKeys →
      s'.traffic.idempotencyDropCount = s.traffic.idempotencyDropCount →
      PrepareOutcome env t e s (.error .wouldBlock) s'
  | ready {s' : BridgeState} : refuseEarly env e s = none → ¬ Suppressed e s → FlowSlotFree t s → SetupKept s s' →
      s'.recentKeys = (passWindow e s).recentKeys →
      s'.traffic.idempotencyDropCount = s.traffic.idempotencyDropCount →
      PrepareOutcome env t e s (.ok (outgoing env t e s)) s'

private theorem outgoing_passWindow (env : PublishEnv) (t : TransportId) (e : MessageEnvelope) (s : BridgeState) :
    outgoing env t e (passWindow e s) = outgoing env t e s := by
  rw [passWindow_frame]
  unfold outgoing
  rw [resolvePolicy_fst, resolvePolicy_fst]
  rfl

/-- An envelope that passes the checks and the window lacks a flow slot, or is ready. -/
private theorem preparePublish_of_passed {env : PublishEnv} {t : TransportId} {e : MessageEnvelope} {s : BridgeState}
    (hearly : refuseEarly env e s = none) (hnot : ¬ Suppressed e s)
    (heq : preparePublish env t e s = encodeOutgoing env t e (passWindow e s)) :
    PrepareStep env t e s (preparePublish env t e s).1 (preparePublish env t e s).2 := by
  have hfree : FlowSlotFree t (passWindow e s) ↔ FlowSlotFree t s := by
    rw [passWindow_frame]
    exact Iff.rfl
  have h := encodeOutgoing_cases env t e (passWindow e s)
  rw [hfree, outgoing_passWindow] at h
  rw [heq]
  rcases h with ⟨hno, h⟩ | ⟨hyes, h⟩
  · rw [h]
    exact .noSlot hearly hnot hno
  · rw [h]
    exact .ready hearly hnot hyes

/-- **The inversion of the first half of `Publish`.** -/
theorem preparePublish_step (env : PublishEnv) (t : TransportId) (e : MessageEnvelope) (s : BridgeState) :
    PrepareStep env t e s (preparePublish env t e s).1 (preparePublish env t e s).2 := by
  cases hearly : refuseEarly env e s with
  | some refusal =>
    obtain ⟨ec, s'⟩ := refusal
    have heq : preparePublish env t e s = (.error ec, s') := by
      unfold preparePublish
      rw [hearly]
    rw [heq]
    exact .refused hearly
  | none =>
    by_cases happly : shouldApplyIdempotency s.config e = true
    · by_cases hwindow : inWindow e s = true
      · have heq : preparePublish env t e s = (.error .wouldBlock, countIdempotencyDrop s) := by
          simp [preparePublish, hearly, happly, isDuplicateWithinWindow, hwindow]
        rw [heq]
        exact .duplicate ⟨happly, hwindow⟩
      · refine preparePublish_of_passed hearly (fun h => hwindow h.2) ?_
        simp [preparePublish, hearly, happly, isDuplicateWithinWindow, hwindow, passWindow]
    · refine preparePublish_of_passed hearly (fun h => happly h.1) ?_
      simp [preparePublish, hearly, happly, passWindow]

theorem PrepareStep.outcome {env : PublishEnv} {t : TransportId} {e : MessageEnvelope} {s s' : BridgeState}
    {r : Except ErrorCode Outgoing} (h : PrepareStep env t e s r s') : PrepareOutcome env t e s r s' := by
  cases h with
  | refused hearly =>
    obtain ⟨hkept, hkeys, hcount⟩ := refuseEarly_some hearly
    exact .refused (refuseEarly_ne_ok hearly) hkept hkeys hcount
  | duplicate hsuppressed => exact .duplicate hsuppressed
  | noSlot hearly hnot hfull =>
    rw [afterSlot_frame, passWindow_frame]
    exact .noSlot hearly hnot hfull ⟨rfl, rfl, rfl⟩ rfl rfl
  | ready hearly hnot hfree =>
    rw [afterSlot_frame, passWindow_frame]
    exact .ready hearly hnot hfree ⟨rfl, rfl, rfl⟩ rfl rfl

/-! ### What the second half can do -/

/-- The flag that lets a failed send on the transport be tried on the opposite one. -/
def failoverEnabled (tuning : TransportTuning) : TransportId → Bool
  | .vehicleToRobot => tuning.failoverFromVehicleToRobotEnabled
  | .robotToVehicle => tuning.failoverFromRobotToVehicleEnabled

theorem failoverTransport_eq (t : TransportId) (s : BridgeState) :
    failoverTransport t s = if failoverEnabled s.tuning t then some t.opposite else none := by
  unfold failoverTransport
  rw [TransportOrchestrator.resolveFailover_eq]
  cases t <;> rfl

section
variable {σ : Type*} (net : Transports σ)

/-- The bridge once a send on the transport of the message's direction has returned and the flow slot is given back. -/
def afterSend (t : TransportId) (r : SendResult σ) (s : BridgeState) : BridgeState :=
  releaseFlowSlot t (countDrops r.drops s)

/-- The same when that send has failed. -/
def afterFailure (t : TransportId) (r : SendResult σ) (s : BridgeState) : BridgeState :=
  { afterSend t r s with orchestrator := (afterSend t r s).orchestrator.onPrimarySendFailure }

/-- What the second half of `Publish` does to the bridge, in each of the ways through it: sent on the transport of its
direction, or not sent there and either not tried elsewhere, or tried on the opposite transport. -/
inductive SendStep (t : TransportId) (e : MessageEnvelope) (out : Outgoing) (s : BridgeState) (w : Wire σ) :
    ErrorCode → BridgeState → Wire σ → Prop
  | sent {r : SendResult σ} : publishWithBackpressure net t out.encoded out.priority out.policy w = some r →
      r.ec = .ok → SendStep t e out s w .ok (noteSent e (afterSend t r s)) r.wire
  | failed {r : SendResult σ} : publishWithBackpressure net t out.encoded out.priority out.policy w = some r →
      r.ec ≠ .ok → failoverEnabled s.tuning t = false →
      SendStep t e out s w r.ec (noteSendFailure (afterFailure t r s)) r.wire
  | failedOver {r r' : SendResult σ} :
      publishWithBackpressure net t out.encoded out.priority out.policy w = some r → r.ec ≠ .ok →
      failoverEnabled s.tuning t = true →
      publishWithBackpressure net t.opposite out.encoded out.priority out.policy r.wire = some r' → r'.ec = .ok →
      SendStep t e out s w .ok (noteFailover (countDrops r'.drops (afterFailure t r s))) r'.wire
  | failedTwice {r r' : SendResult σ} :
      publishWithBackpressure net t out.encoded out.priority out.policy w = some r → r.ec ≠ .ok →
      failoverEnabled s.tuning t = true →
      publishWithBackpressure net t.opposite out.encoded out.priority out.policy r.wire = some r' → r'.ec ≠ .ok →
      SendStep t e out s w r.ec (noteSendFailure (countDrops r'.drops (afterFailure t r s))) r'.wire

/-- The same ways, by the code that is returned and the wire. -/
inductive SendOutcome (t : TransportId) (out : Outgoing) (s : BridgeState) (w : Wire σ) :
    ErrorCode → Wire σ → Prop
  | sent {r : SendResult σ} : publishWithBackpressure net t out.encoded out.priority out.policy w = some r →
      r.ec = .ok → SendOutcome t out s w .ok r.wire
  | failed {r : SendResult σ} : publishWithBackpressure net t out.encoded out.priority out.policy w = some r →
      r.ec ≠ .ok → failoverEnabled s.tuning t = false → SendOutcome t out s w r.ec r.wire
  | failedOver {r r' : SendResult σ} :
      publishWithBackpressure net t out.encoded out.priority out.policy w = some r → r.ec ≠ .ok →
      failoverEnabled s.tuning t = true →
      publishWithBackpressure net t.opposite out.encoded out.priority out.policy r.wire = some r' → r'.ec = .ok →
      SendOutcome t out s w .ok r'.wire
  | failedTwice {r r' : SendResult σ} :
      publishWithBackpressure net t out.encoded out.priority out.policy w = some r → r.ec ≠ .ok →
      failoverEnabled s.tuning t = true →
      publishWithBackpressure net t.opposite out.encoded out.priority out.policy r.wire = some r' → r'.ec ≠ .ok →
      SendOutcome t out s w r.ec r'.wire

theorem releaseFlowSlot_frame (t : TransportId) (s : BridgeState) :
    releaseFlowSlot t s = { s with inflight := (releaseFlowSlot t s).inflight } := by
  unfold releaseFlowSlot
  split <;> rfl

variable {net} {env : PublishEnv} {t : TransportId} {e : MessageEnvelope} {out : Outgoing} {s s' : BridgeState}
  {w w' : Wire σ} {ec : ErrorCode}

/-- Of the bridge a send depends on the tuning only. -/
private theorem SendOutcome.of_tuning_eq (h : SendOutcome net t out s' w ec w') (htuning : s'.tuning = s.tuning) :
    SendOutcome net t out s w ec w' := by
  cases h with
  | sent hsend hok => exact .sent hsend hok
  | failed hsend hne hdisabled => exact .failed hsend hne (htuning ▸ hdisabled)
  | failedOver hsend hne henabled hsend' hok => exact .failedOver hsend hne (htuning ▸ henabled) hsend' hok
  | failedTwice hsend hne henabled hsend' hne' => exact .failedTwice hsend hne (htuning ▸ henabled) hsend' hne'

private theorem afterFailure_tuning (t : TransportId) (r : SendResult σ) (s : BridgeState) :
    (afterFailure t r s).tuning = s.tuning := by
  rw [afterFailure, afterSend, releaseFlowSlot_frame]
  rfl

/-- **The inversion of the second half of `Publish`.** -/
theorem sendOutgoing_step (h : sendOutgoing net t e out s w = some (ec, s', w')) :
    SendStep net t e out s w ec s' w' := by
  unfold sendOutgoing at h
  split at h
  · cases h
  · next r hsend =>
    simp only at h
    split at h
    · next hok =>
      cases h
      exact .sent hsend hok
    · next hne =>
      change tryFailover net t out r (afterFailure t r s) = _ at h
      unfold tryFailover at h
      rw [failoverTransport_eq, afterFailure_tuning] at h
      by_cases henabled : failoverEnabled s.tuning t = true
      · rw [if_pos henabled] at h
        simp only at h
        split at h
        · cases h
        · next r' hsend' =>
          split at h
          · next hok =>
            cases h
            exact .failedOver hsend hne henabled hsend' hok
          · next hne' =>
            cases h
            exact .failedTwice hsend hne henabled hsend' hne'
      · rw [if_neg henabled] at h
        cases h
        exact .failed hsend hne (Bool.not_eq_true _ ▸ henabled)

theorem SendStep.outcome (h : SendStep net t e out s w ec s' w') : SendOutcome net t out s w ec w' := by
  cases h with
  | sent hsend hok => exact .sent hsend hok
  | failed hsend hne hdisabled => exact .failed hsend hne hdisabled
  | failedOver hsend hne henabled hsend' hok => exact .failedOver hsend hne henabled hsend' hok
  | failedTwice hsend hne henabled hsend' hne' => exact .failedTwice hsend hne henabled hsend' hne'

theorem afterSend_frame (t : TransportId) (r : SendResult σ) (s : BridgeState) :
    afterSend t r s = { countDrops r.drops s with inflight := (afterSend t r s).inflight } :=
  releaseFlowSlot_frame t (countDrops r.drops s)

/-- **The frame** of the second half of `Publish`. -/
theorem SendStep.frame (h : SendStep net t e out s w ec s' w') :
    s' =
      { s with
        inflight := s'.inflight
        health := s'.health
        orchestrator := s'.orchestrator
        traffic := { s.traffic with
          txCount := s'.traffic.txCount
          txFailCount := s'.traffic.txFailCount
          tx := s'.traffic.tx
          transportErrorCount := s'.traffic.transportErrorCount
          backpressureDropCount := s'.traffic.backpressureDropCount
          failoverHitCount := s'.traffic.failoverHitCount
          diagFailoverEventCount := s'.traffic.diagFailoverEventCount } } := by
  cases h with
  | sent => rw [afterSend_frame]; rfl
  | failed => rw [afterFailure, afterSend_frame]; rfl
  | failedOver => rw [afterFailure, afterSend_frame]; rfl
  | failedTwice => rw [afterFailure, afterSend_frame]; rfl

private theorem SendStep.setupKept (h : SendStep net t e out s w ec s' w') : SetupKept s s' := by
  rw [h.frame]
  exact ⟨rfl, rfl, rfl⟩

/-- A call of `Publish` is refused before the send, or is the send of what the first half made ready. -/
theorem publish_cases (h : publish net env t e s w = some (ec, s', w')) :
    ((preparePublish env t e s).1 = .error ec ∧ (preparePublish env t e s).2 = s' ∧ w' = w) ∨
      ∃ out s₁, (preparePublish env t e s).1 = .ok out ∧ (preparePublish env t e s).2 = s₁ ∧
        sendOutgoing net t e out s₁ w = some (ec, s', w') := by
  unfold publish at h
  rcases hprepare : preparePublish env t e s with ⟨ec₁ | out, s₁⟩
  · rw [hprepare] at h
    cases h
    exact .inl ⟨rfl, rfl, rfl⟩
  · rw [hprepare] at h
    exact .inr ⟨out, s₁, rfl, rfl, h⟩

/-- A call of `Publish` by its outcome: refused, suppressed, without a slot, or sent. -/
inductive PublishOutcome (net : Transports σ) (env : PublishEnv) (t : TransportId) (e : MessageEnvelope)
    (s : BridgeState) (w : Wire σ) : ErrorCode → BridgeState → Wire σ → Prop
  | refused {ec : ErrorCode} {s' : BridgeState} : ec ≠ .ok → s'.recentKeys = s.recentKeys →
      s'.traffic.idempotencyDropCount = s.traffic.idempotencyDropCount → PublishOutcome net env t e s w ec s' w
  | duplicate : Suppressed e s → PublishOutcome net env t e s w .wouldBlock (countIdempotencyDrop s) w
  | noSlot {s' : BridgeState} : refuseEarly env e s = none → ¬ Suppressed e s → ¬ FlowSlotFree t s →
      s'.recentKeys = (passWindow e s).recentKeys →
      s'.traffic.idempotencyDropCount = s.traffic.idempotencyDropCount →
      PublishOutcome net env t e s w .wouldBlock s' w
  | sent {ec : ErrorCode} {s' : BridgeState} {w' : Wire σ} : refuseEarly env e s = none → ¬ Suppressed e s →
      FlowSlotFree t s → s'.recentKeys = (passWindow e s).recentKeys →
      s'.traffic.idempotencyDropCount = s.traffic.idempotencyDropCount →
      SendOutcome net t (outgoing env t e s) s w ec w' → PublishOutcome net env t e s w ec s' w'

/-- **The inversion of `Publish`.** -/
theorem publish_outcome (h : publish net env t e s w = some (ec, s', w')) :
    SetupKept s s' ∧ PublishOutcome net env t e s w ec s' w' := by
  have hprepare := (preparePublish_step env t e s).outcome
  rcases publish_cases h with ⟨herror, rfl, rfl⟩ | ⟨out, s₁, hok, rfl, hsend⟩
  · rw [herror] at hprepare
    generalize (preparePublish env t e s).2 = s' at hprepare
    cases hprepare with
    | refused hne hkept hkeys hcount => exact ⟨hkept, .refused hne hkeys hcount⟩
    | duplicate hsuppressed => exact ⟨⟨rfl, rfl, rfl⟩, .duplicate hsuppressed⟩
    | noSlot hearly hnot hfull hkept hkeys hcount => exact ⟨hkept, .noSlot hearly hnot hfull hkeys hcount⟩
  · rw [hok] at hprepare
    have hstep := sendOutgoing_step hsend
    have hkeys' : s'.recentKeys = (preparePublish env t e s).2.recentKeys := by
      rw [hstep.frame]
    have hcount' : s'.traffic.idempotencyDropCount = (preparePublish env t e s).2.traffic.idempotencyDropCount := by
      rw [hstep.frame]
    generalize (preparePublish env t e s).2 = s₁ at hprepare hstep hkeys' hcount'
    cases hprepare with
    | ready hearly hnot hfree hkept hkeys hcount =>
      exact ⟨hkept.trans hstep.setupKept, .sent hearly hnot hfree (hkeys'.trans hkeys) (hcount'.trans hcount)
        (hstep.outcome.of_tuning_eq hkept.tuning)⟩

/-! ### The calls of a publish -/

/-- The calls of a publish: first on the transport of its direction, then, where failover is enabled and none of
these was accepted, on the opposite one. -/
structure PublishLog (t : TransportId) (encoded : Bytes) (s : BridgeState) (own other : List TransportCall)
    (ec : ErrorCode) : Prop where
  own_isFor : ∀ c ∈ own, c.IsFor t encoded
  other_isFor : ∀ c ∈ other, c.IsFor t.opposite encoded
  settled : Settled TransportCall.isAcceptedSend (own ++ other) (ec = .ok)
  failover : other ≠ [] → failoverEnabled s.tuning t = true ∧ Failed TransportCall.isAcceptedSend own

private theorem PublishLog.of_own {encoded : Bytes} {own : List TransportCall} (hfor : ∀ c ∈ own, c.IsFor t encoded)
    (hsettled : Settled TransportCall.isAcceptedSend own (ec = .ok)) : PublishLog t encoded s own [] ec where
  own_isFor := hfor
  other_isFor _ hc := absurd hc List.not_mem_nil
  settled := by rwa [List.append_nil]
  failover hne := absurd rfl hne

theorem SendOutcome.log (h : SendOutcome net t out s w ec w') :
    ∃ own other, w'.calls = w.calls ++ (own ++ other) ∧ PublishLog t out.encoded s own other ec := by
  cases h with
  | sent hsend hok =>
    obtain ⟨calls, heq, hlog⟩ := publishWithBackpressure_logged net hsend
    rw [hok] at hlog
    exact ⟨calls, [], by rw [heq, List.append_nil], .of_own hlog.isFor hlog.settled⟩
  | failed hsend hne _ =>
    obtain ⟨calls, heq, hlog⟩ := publishWithBackpressure_logged net hsend
    exact ⟨calls, [], by rw [heq, List.append_nil], .of_own hlog.isFor hlog.settled⟩
  | failedOver hsend hne henabled hsend' hok =>
    obtain ⟨calls, heq, hlog⟩ := publishWithBackpressure_logged net hsend
    obtain ⟨calls', heq', hlog'⟩ := publishWithBackpressure_logged net hsend'
    have hfailed := hlog.settled.failed hne
    rw [hok] at hlog'
    exact ⟨calls, calls', by rw [heq', heq, List.append_assoc],
      ⟨hlog.isFor, hlog'.isFor, .prepend hfailed hlog'.settled, fun _ => ⟨henabled, hfailed⟩⟩⟩
  | failedTwice hsend hne henabled hsend' hne' =>
    obtain ⟨calls, heq, hlog⟩ := publishWithBackpressure_logged net hsend
    obtain ⟨calls', heq', hlog'⟩ := publishWithBackpressure_logged net hsend'
    have hfailed := hlog.settled.failed hne
    -- the code returned is that of the first send, and so says of the second one only that it failed too
    have hfailed' := (hlog'.settled.failed hne').settled hne
    exact ⟨calls, calls', by rw [heq', heq, List.append_assoc],
      ⟨hlog.isFor, hlog'.isFor, .prepend hfailed hfailed', fun _ => ⟨henabled, hfailed⟩⟩⟩

/-- **The calls of a publish**, all of them for one encoded text. -/
theorem publish_calls (h : publish net env t e s w = some (ec, s', w')) :
    ∃ own other, w'.calls = w.calls ++ (own ++ other) ∧
      PublishLog t (outgoing env t e s).encoded s own other ec := by
  have hnone : ∀ {code : ErrorCode}, code ≠ .ok → PublishLog t (outgoing env t e s).encoded s [] [] code :=
    fun hne => .of_own (fun _ hc => absurd hc List.not_mem_nil) (.nil hne)
  obtain ⟨-, houtcome⟩ := publish_outcome h
  cases houtcome with
  | refused hne => exact ⟨[], [], (List.append_nil _).symm, hnone hne⟩
  | duplicate => exact ⟨[], [], (List.append_nil _).symm, hnone (by decide)⟩
  | noSlot => exact ⟨[], [], (List.append_nil _).symm, hnone (by decide)⟩
  | sent _ _ _ _ _ hsent => exact hsent.log

/-- **The rule for a publish**: what every call on the transports keeps, a publish keeps. -/
theorem KeptByCalls.publish {I : Wire σ → Prop} (hI : KeptByCalls net I)
    (h : VehicleBridge.publish net env t e s w = some (ec, s', w')) (hw : I w) : I w' := by
  rcases publish_cases h with ⟨-, -, rfl⟩ | ⟨out, s₁, -, -, hsend⟩
  · exact hw
  · have houtcome := (sendOutgoing_step hsend).outcome
    clear hsend
    cases houtcome with
    | sent hsend _ => exact hI.publishWithBackpressure hsend hw
    | failed hsend _ _ => exact hI.publishWithBackpressure hsend hw
    | failedOver hsend _ _ hsend' _ =>
      exact hI.publishWithBackpressure hsend' (hI.publishWithBackpressure hsend hw)
    | failedTwice hsend _ _ hsend' _ =>
      exact hI.publishWithBackpressure hsend' (hI.publishWithBackpressure hsend hw)

/-- Below the largest retry budget, publishing returns. -/
private theorem publish_isSome
    (hbudget : (resolvePolicy env.conflictNowMs e s).1.retryBudget.maxRetries.toInt < 2 ^ 31 - 1)
    (w : Wire σ) : (publish net env t e s w).isSome = true := by
  have hprepare := (preparePublish_step env t e s).outcome
  unfold publish
  rcases hp : preparePublish env t e s with ⟨ec | out, s₁⟩
  · rfl
  · rw [hp] at hprepare
    cases hprepare
    have hsend : ∀ (t' : TransportId) (v : Wire σ), ∃ r, publishWithBackpressure net t' (outgoing env t e s).encoded
        (outgoing env t e s).priority (outgoing env t e s).policy v = some r := fun t' v =>
      Option.isSome_iff_exists.1 (publishWithBackpressure_isSome net t' _ _ hbudget v)
    obtain ⟨r, hr⟩ := hsend t w
    simp only [sendOutgoing, hr]
    split
    · rfl
    · unfold tryFailover
      split
      · rfl
      · next other _ =>
        obtain ⟨r', hr'⟩ := hsend other r.wire
        rw [hr']
        simp only
        split <;> rfl

/-- **Exactly once or not at all.**  Of the sends of a publish, on both transports together, exactly one is accepted
when it returns `kOk` and none when it returns an error, and nothing is sent after an accepted send.  Each send under
backpressure makes at most one discard and at most three sends more than the retry budget. -/
theorem publish_sends_once (net : Transports σ) (env : PublishEnv) (t : TransportId) (e : MessageEnvelope)
    (s : BridgeState) (w : Wire σ)
    (hbudget : (resolvePolicy env.conflictNowMs e s).1.retryBudget.maxRetries.toInt < 2 ^ 31 - 1) :
    (∃ ec s' w' calls, publish net env t e s w = some (ec, s', w') ∧ w'.calls = w.calls ++ calls ∧
        calls.countP TransportCall.isAcceptedSend = (if ec = .ok then 1 else 0) ∧
        ∀ pre c post, calls = pre ++ c :: post → c.isAcceptedSend = true → ∀ d ∈ post, d.isSend = false) ∧
      ∀ (t' : TransportId) (encoded : Bytes) (priority : UInt32) (policy : BridgeSlaPolicy) (v : Wire σ),
        policy.retryBudget.maxRetries.toInt < 2 ^ 31 - 1 →
          ∃ r calls, publishWithBackpressure net t' encoded priority policy v = some r ∧
            r.wire.calls = v.calls ++ calls ∧ calls.countP (fun c => !c.isSend) ≤ 1 ∧
            (calls.countP TransportCall.isSend : Int) ≤ max policy.retryBudget.maxRetries.toInt 0 + 3 := by
  constructor
  · have hreturns : (publish net env t e s w).isSome := publish_isSome hbudget w
    obtain ⟨⟨ec, s', w'⟩, h⟩ := Option.isSome_iff_exists.1 hreturns
    obtain ⟨own, other, heq, hlog⟩ := publish_calls h
    refine ⟨ec, s', w', own ++ other, h, heq, hlog.settled.countP_eq, fun pre c post hsplit hc d hd => ?_⟩
    rw [hlog.settled.nothing_after hsplit hc] at hd
    cases hd
  · intro t' encoded priority policy v hmax
    obtain ⟨r, h⟩ := Option.isSome_iff_exists.1 (publishWithBackpressure_isSome net t' encoded priority hmax v)
    obtain ⟨calls, heq, hlog⟩ := publishWithBackpressure_logged net h
    refine ⟨r, calls, h, heq, hlog.discards_le, ?_⟩
    have hsends := hlog.sends_le
    unfold retrySends at hsends
    omega

end

/-- Transports that answer their sends with the given codes, one after the other, and then take everything. -/
def scriptedTransports : Transports (List ErrorCode) where
  caps _ := { supportsDiscardOldest := true }
  sendWithTimeout _ _ _ _ script := (script.headD .ok, script.tail)
  discardOldest _ script := (.ok, script)
  sleepFor _ script := script

/-- A publish whose first send times out, with no retry budget and no failover. -/
theorem publish_sends_once_stepCommand :
    ∃ ec s' w' calls,
      publish scriptedTransports {} .vehicleToRobot MessageCodec.stepCommand plainBridge { state := [.timeout] } =
          some (ec, s', w') ∧
        w'.calls = [] ++ calls ∧
        calls.countP TransportCall.isAcceptedSend = (if ec = .ok then 1 else 0) ∧
        ∀ pre c post, calls = pre ++ c :: post → c.isAcceptedSend = true → ∀ d ∈ post, d.isSend = false :=
  (publish_sends_once scriptedTransports {} .vehicleToRobot MessageCodec.stepCommand plainBridge
    { state := [.timeout] } (by decide)).1

end VehicleBridge
