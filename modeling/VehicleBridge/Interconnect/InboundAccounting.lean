import VehicleBridge.Interconnect.InboundSteps
import VehicleBridge.Interconnect.Setup
import VehicleBridge.Lib.Ledger
import VehicleBridge.Lib.Transition

/-!
# What the inbound loops count

Every message that a loop receives is counted once as received and once for how it ends, and the maps by topic, channel
and QoS and the counters of the trace identifiers count the same messages (`inbound_accounts`).  The steps of a loop
are moves (`InboundMove`) that make entries in these counters, and the accounts follow the moves.
-/

namespace VehicleBridge

open Ledger Threads Transition

def CountMap.sum {α : Type} (m : CountMap α) : Nat :=
  (m.map Prod.snd).sum

theorem CountMap.sum_increment {α : Type} [DecidableEq α] (key : α) (m : CountMap α) :
    (m.increment key).sum = m.sum + 1 := by
  induction m with
  | nil => rfl
  | cons entry rest ih =>
    obtain ⟨k, n⟩ := entry
    rw [CountMap.increment]
    split
    · simp only [CountMap.sum, List.map_cons, List.sum_cons]
      omega
    · simp only [CountMap.sum, List.map_cons, List.sum_cons] at ih ⊢
      omega

/-! ### Entries and moves -/

/-- The counters that the accounts are about; a map counts by the sum of its values. -/
inductive InboundEntry
  | rx
  | decodeFail
  | rejected
  | expired
  | routeMiss
  | handlerError
  | handled
  | topicRx
  | channelRx
  | qosRx
  | topicExpired
  | channelExpired
  | qosExpired
  | tracePresent
  | traceMissing
  | indexHit
  | indexMiss
  | linked
  deriving DecidableEq, Repr

def InboundShared.count (s : InboundShared) : InboundEntry → Nat
  | .rx => s.traffic.rxCount
  | .decodeFail => s.traffic.decodeFailCount
  | .rejected => s.rejected
  | .expired => s.traffic.expiredDropCount
  | .routeMiss => s.traffic.routeMissCount
  | .handlerError => s.traffic.handlerErrorCount
  | .handled => s.handled
  | .topicRx => s.traffic.rx.topic.sum
  | .channelRx => s.traffic.rx.channel.sum
  | .qosRx => s.traffic.rx.qos.sum
  | .topicExpired => s.traffic.expiredDrop.topic.sum
  | .channelExpired => s.traffic.expiredDrop.channel.sum
  | .qosExpired => s.traffic.expiredDrop.qos.sum
  | .tracePresent => s.trace.traceIdPresentCount
  | .traceMissing => s.trace.traceIdMissingCount
  | .indexHit => s.trace.traceIndexHitCount
  | .indexMiss => s.trace.traceIndexMissCount
  | .linked => s.trace.traceLinkedEventCount

/-- From which phase to which one a loop goes, and the entries it makes on the way. -/
inductive InboundMove : InboundPhase → List InboundEntry → InboundPhase → Prop
  | retry : InboundMove .receiving [] .receiving
  | receive (message : ByteText.Bytes) : InboundMove .receiving [.rx] (.decoding message)
  | terminate (message : ByteText.Bytes) : InboundMove (.decoding message) [] .terminated
  | decodeFail (message : ByteText.Bytes) : InboundMove (.decoding message) [] .countingDecodeFail
  | invalid (message : ByteText.Bytes) : InboundMove (.decoding message) [] .countingInvalid
  | decode (message : ByteText.Bytes) (envelope : MessageEnvelope) :
      InboundMove (.decoding message) [] (.countingRx envelope)
  | countDecodeFail : InboundMove .countingDecodeFail [.decodeFail] .receiving
  | countInvalid : InboundMove .countingInvalid [.rejected] .receiving
  | countRx (envelope : MessageEnvelope) :
      InboundMove (.countingRx envelope) [.topicRx, .channelRx, .qosRx] (.countingTrace envelope)
  | traceMissing (envelope : MessageEnvelope) :
      InboundMove (.countingTrace envelope) [.traceMissing] (.resolving envelope)
  | tracePresent (envelope : MessageEnvelope) :
      InboundMove (.countingTrace envelope) [.tracePresent] (.sampling envelope)
  | sample (envelope : MessageEnvelope) (nowMs : UInt64) :
      InboundMove (.sampling envelope) [] (.indexing envelope nowMs)
  | indexHit (envelope : MessageEnvelope) (nowMs : UInt64) :
      InboundMove (.indexing envelope nowMs) [.indexHit] (.linking envelope)
  | indexMiss (envelope : MessageEnvelope) (nowMs : UInt64) :
      InboundMove (.indexing envelope nowMs) [.indexMiss] (.linking envelope)
  | link (envelope : MessageEnvelope) : InboundMove (.linking envelope) [.linked] (.resolving envelope)
  | expire (envelope : MessageEnvelope) (nowMs : UInt64) :
      InboundMove (.resolving envelope) [] (.countingExpired envelope nowMs)
  | keep (envelope : MessageEnvelope) : InboundMove (.resolving envelope) [] (.routing envelope)
  | countExpired (envelope : MessageEnvelope) (nowMs : UInt64) :
      InboundMove (.countingExpired envelope nowMs) [.expired] (.countingDrop envelope nowMs)
  | countDrop (envelope : MessageEnvelope) (nowMs : UInt64) :
      InboundMove (.countingDrop envelope nowMs) [.topicExpired, .channelExpired, .qosExpired] (.samplingSla nowMs)
  | sampleSla (nowMs : UInt64) : InboundMove (.samplingSla nowMs) [] .receiving
  | handle (envelope : MessageEnvelope) : InboundMove (.routing envelope) [.handled] .receiving
  | routeMiss (envelope : MessageEnvelope) : InboundMove (.routing envelope) [] .countingRouteMiss
  | handlerError (envelope : MessageEnvelope) : InboundMove (.routing envelope) [] .countingHandlerError
  | countRouteMiss : InboundMove .countingRouteMiss [.routeMiss] .countingRouteEvent
  | countHandlerError : InboundMove .countingHandlerError [.handlerError] .countingRouteEvent
  | countRouteEvent : InboundMove .countingRouteEvent [] .receiving

/-- Looking a trace up counts a hit or a miss, and none of the other counters. -/
private theorem noteTraceIndex_counts (traceId : ByteText.Bytes) (nowMs : UInt64) (s : InboundShared) :
    ∃ entry, (entry = .indexHit ∨ entry = .indexMiss) ∧
      InboundShared.count { s with trace := noteTraceIndex traceId nowMs s.trace } = enter [entry] s.count := by
  by_cases hseen : s.trace.traceIndexLastSeenMs.any (fun entry => entry.1 = traceId) = true
  · refine ⟨.indexHit, .inl rfl, ?_⟩
    funext entry
    cases entry <;> simp [InboundShared.count, noteTraceIndex, hseen, enter]
  · refine ⟨.indexMiss, .inr rfl, ?_⟩
    funext entry
    cases entry <;> simp [InboundShared.count, noteTraceIndex, hseen, enter]

private theorem sampleTrace_counts (settings : RuntimeSettings) (nowMs : UInt64) (s : InboundShared) :
    InboundShared.count { s with trace := sampleTrace settings nowMs s.trace } = s.count := by
  funext entry
  simp only [sampleTrace]
  split <;> cases entry <;> rfl

private theorem resolvePolicy_counts_eq (nowMs : UInt64) (envelope : MessageEnvelope) (s : InboundShared) :
    InboundShared.count { s with toBridgeState := (resolvePolicy nowMs envelope s.toBridgeState).2 } = s.count := by
  rw [resolvePolicy_frame]
  rfl

/-- Every step of a loop is a move, with its entries made. -/
theorem InboundPhase.step_moves {phase phase' : InboundPhase} {e : InboundEvent} {s s' : InboundShared}
    (h : phase.step e s = some (phase', s')) :
    ∃ entries, InboundMove phase entries phase' ∧ s'.count = enter entries s.count := by
  cases phase with
  | receiving =>
    simp only [InboundPhase.step] at h
    split at h <;> cases h
    · exact ⟨_, .receive _, funext fun entry => by cases entry <;> rfl⟩
    all_goals exact ⟨_, .retry, funext fun entry => by cases entry <;> rfl⟩
  | decoding message =>
    simp only [InboundPhase.step] at h
    split at h
    · cases h
      exact ⟨_, .terminate message, rfl⟩
    split at h
    · cases h
      exact ⟨_, .decodeFail message, rfl⟩
    split at h <;> cases h
    · exact ⟨_, .invalid message, rfl⟩
    · exact ⟨_, .decode message _, rfl⟩
  | countingDecodeFail =>
    cases h
    exact ⟨_, .countDecodeFail, funext fun entry => by cases entry <;> rfl⟩
  | countingInvalid =>
    cases h
    exact ⟨_, .countInvalid, funext fun entry => by cases entry <;> rfl⟩
  | countingRx envelope =>
    cases h
    refine ⟨_, .countRx envelope, funext fun entry => ?_⟩
    cases entry with
    | topicRx | channelRx | qosRx => exact CountMap.sum_increment ..
    | _ => rfl
  | countingTrace envelope =>
    simp only [InboundPhase.step] at h
    split at h <;> cases h
    · exact ⟨_, .traceMissing envelope, funext fun entry => by cases entry <;> rfl⟩
    · exact ⟨_, .tracePresent envelope, funext fun entry => by cases entry <;> rfl⟩
  | sampling envelope =>
    cases h
    exact ⟨_, .sample envelope _, sampleTrace_counts ..⟩
  | indexing envelope nowMs =>
    cases h
    obtain ⟨entry, rfl | rfl, hcounts⟩ := noteTraceIndex_counts envelope.traceId nowMs s
    · exact ⟨_, .indexHit envelope nowMs, hcounts⟩
    · exact ⟨_, .indexMiss envelope nowMs, hcounts⟩
  | linking envelope =>
    cases h
    exact ⟨_, .link envelope, funext fun entry => by cases entry <;> rfl⟩
  | resolving envelope =>
    simp only [InboundPhase.step] at h
    split at h <;> cases h
    · exact ⟨_, .expire envelope _, resolvePolicy_counts_eq ..⟩
    · exact ⟨_, .keep envelope, resolvePolicy_counts_eq ..⟩
  | countingExpired envelope nowMs =>
    cases h
    exact ⟨_, .countExpired envelope nowMs, funext fun entry => by cases entry <;> rfl⟩
  | countingDrop envelope nowMs =>
    cases h
    refine ⟨_, .countDrop envelope nowMs, funext fun entry => ?_⟩
    cases entry with
    | topicExpired | channelExpired | qosExpired => exact CountMap.sum_increment ..
    | _ => rfl
  | samplingSla nowMs =>
    cases h
    exact ⟨_, .sampleSla nowMs, funext fun entry => by cases entry <;> rfl⟩
  | routing envelope =>
    simp only [InboundPhase.step] at h
    split at h <;> cases h
    · exact ⟨_, .handle envelope, funext fun entry => by cases entry <;> rfl⟩
    · exact ⟨_, .routeMiss envelope, rfl⟩
    · exact ⟨_, .handlerError envelope, rfl⟩
  | countingRouteMiss =>
    cases h
    exact ⟨_, .countRouteMiss, funext fun entry => by cases entry <;> rfl⟩
  | countingHandlerError =>
    cases h
    exact ⟨_, .countHandlerError, funext fun entry => by cases entry <;> rfl⟩
  | countingRouteEvent =>
    cases h
    exact ⟨_, .countRouteEvent, funext fun entry => by cases entry <;> rfl⟩
  | terminated => cases h

/-! ### The accounts -/

/-- Each message received ends in one way. -/
def outcomeAccount : Account InboundEntry InboundPhase where
  left := [.decodeFail, .rejected, .expired, .routeMiss, .handlerError, .handled]
  right := [.rx]
  pending
    | .receiving | .countingDrop .. | .samplingSla _ | .countingRouteEvent => 0
    | _ => 1

/-- A map of received messages counts those that are decoded and valid. -/
def rxAccount (map : InboundEntry) : Account InboundEntry InboundPhase where
  left := [map, .decodeFail, .rejected]
  right := [.rx]
  pending
    | .decoding _ | .countingDecodeFail | .countingInvalid | .countingRx _ | .terminated => 1
    | _ => 0

/-- A map of expired messages counts all of them. -/
def expiredAccount (map : InboundEntry) : Account InboundEntry InboundPhase where
  left := [map]
  right := [.expired]
  pending
    | .countingDrop .. => 1
    | _ => 0

/-- Each message that the maps count has a trace identifier or has none. -/
def traceAccount : Account InboundEntry InboundPhase where
  left := [.tracePresent, .traceMissing]
  right := [.topicRx]
  pending
    | .countingTrace _ => 1
    | _ => 0

/-- Each trace identifier is found in the index or is not. -/
def indexAccount : Account InboundEntry InboundPhase where
  left := [.indexHit, .indexMiss]
  right := [.tracePresent]
  pending
    | .sampling _ | .indexing .. => 1
    | _ => 0

/-- Each trace identifier is linked. -/
def linkAccount : Account InboundEntry InboundPhase where
  left := [.linked]
  right := [.tracePresent]
  pending
    | .sampling _ | .indexing .. | .linking _ => 1
    | _ => 0

def inboundAccounts : List (Account InboundEntry InboundPhase) :=
  [outcomeAccount, rxAccount .topicRx, rxAccount .channelRx, rxAccount .qosRx, expiredAccount .topicExpired,
    expiredAccount .channelExpired, expiredAccount .qosExpired, traceAccount, indexAccount, linkAccount]

private theorem inboundAccounts_follow : ∀ a ∈ inboundAccounts, a.Follows InboundMove := by
  simp only [inboundAccounts, List.forall_mem_cons]
  refine ⟨?_, ?_, ?_, ?_, ?_, ?_, ?_, ?_, ?_, ?_, fun _ h => absurd h List.not_mem_nil⟩
  all_goals
    intro phase entries phase' hmove
    cases hmove <;> rfl

/-- A loop between two rounds has nothing to enter. -/
private theorem inboundAccounts_receiving : ∀ a ∈ inboundAccounts, a.pending .receiving = 0 := by
  decide

/-! ### Other threads -/

section
variable {σ : Type*} {hashString : ByteText.Bytes → UInt64} {net : Transports σ}

theorem inboundPart_of_counters {s s' : BridgeState} (h : s'.counters = s.counters) :
    s'.inboundPart = s.inboundPart :=
  congrArg (fun c : TrafficCounters × TraceState =>
    BridgeState.inboundPart { traffic := c.1, trace := c.2 }) h

/-- What other threads call takes the steps that a run of the loops leaves to them. -/
theorem exec_other {b b' : BridgeRun σ} {op : BridgeOp}
    (hop : ∀ t env routers received, op ≠ .inbound t env routers received)
    (h : b.exec hashString net op = some b') {r : InboundRun} (hr : r.shared.toBridgeState = b.bridge) :
    r.Step (.other b'.bridge) { r with shared := { r.shared with toBridgeState := b'.bridge } } := by
  refine ⟨?_, rfl⟩
  rw [hr]
  cases op with
  | start | startFromProvider | stop | reload => exact inboundPart_of_counters (exec_counters h trivial)
  | publish origin env e =>
    obtain ⟨⟨ec, s', w'⟩, hpublish, rfl⟩ := Option.map_eq_some_iff.1 h
    rw [publishFrom_eq] at hpublish
    exact congrArg Prod.snd (publish_unpublished hpublish)
  | inbound t env routers received => exact absurd rfl (hop t env routers received)

end

/-! ### Runs -/

/-- The accounts are balanced. -/
def InboundRun.Balanced (r : InboundRun) : Prop :=
  ∀ a ∈ inboundAccounts, a.Balanced r.shared.count r.locals

private theorem count_of_inboundPart {s : InboundShared} {bridge : BridgeState}
    (h : bridge.inboundPart = s.inboundPart) : InboundShared.count { s with toBridgeState := bridge } = s.count := by
  simp only [BridgeState.inboundPart, InboundPart.mk.injEq] at h
  obtain ⟨hrx, hdecode, hexpired, hmiss, herror, hmaps, hdrops, htrace⟩ := h
  funext entry
  cases entry <;> simp only [InboundShared.count, hrx, hdecode, hexpired, hmiss, herror, hmaps, hdrops, htrace]

theorem InboundRun.Balanced.step {r r' : InboundRun} {op : InboundOp} (h : r.Balanced) (hstep : r.Step op r') :
    r'.Balanced := by
  intro a ha
  cases op with
  | turn loop e =>
    obtain ⟨phase, phase', s', hphase, hturn, rfl⟩ := System.turn_eq_some hstep
    obtain ⟨entries, hmove, hcounts⟩ := InboundPhase.step_moves hturn
    have hbalanced := (h a ha).move (inboundAccounts_follow a ha) hphase hmove
    rwa [← hcounts] at hbalanced
  | other bridge =>
    obtain ⟨hpart, rfl⟩ := hstep
    have hbalanced := h a ha
    rwa [← count_of_inboundPart hpart] at hbalanced

private theorem InboundRun.start_balanced (bridge : BridgeState) : (InboundRun.start bridge).Balanced := by
  unfold InboundRun.Balanced
  simp only [inboundAccounts, List.forall_mem_cons]
  refine ⟨?_, ?_, ?_, ?_, ?_, ?_, ?_, ?_, ?_, ?_, fun _ h => absurd h List.not_mem_nil⟩
  all_goals rfl

/-- What the counters of the inbound loops say of each other. -/
structure InboundExact (s : InboundShared) : Prop where
  outcomes : s.traffic.rxCount = s.traffic.decodeFailCount + s.rejected + s.traffic.expiredDropCount +
    s.traffic.routeMissCount + s.traffic.handlerErrorCount + s.handled
  topicRx : s.traffic.rx.topic.sum + s.traffic.decodeFailCount + s.rejected = s.traffic.rxCount
  channelRx : s.traffic.rx.channel.sum + s.traffic.decodeFailCount + s.rejected = s.traffic.rxCount
  qosRx : s.traffic.rx.qos.sum + s.traffic.decodeFailCount + s.rejected = s.traffic.rxCount
  topicExpired : s.traffic.expiredDrop.topic.sum = s.traffic.expiredDropCount
  channelExpired : s.traffic.expiredDrop.channel.sum = s.traffic.expiredDropCount
  qosExpired : s.traffic.expiredDrop.qos.sum = s.traffic.expiredDropCount
  traced : s.trace.traceIdPresentCount + s.trace.traceIdMissingCount = s.traffic.rx.topic.sum
  indexed : s.trace.traceIndexHitCount + s.trace.traceIndexMissCount = s.trace.traceIdPresentCount
  linked : s.trace.traceLinkedEventCount = s.trace.traceIdPresentCount

theorem InboundRun.Balanced.sides {r : InboundRun} (h : r.Balanced) (hquiet : r.Quiet) :
    ∀ a ∈ inboundAccounts, total r.shared.count a.left = total r.shared.count a.right := by
  intro a ha
  refine (h a ha).eq_of_idle fun phase hphase => ?_
  rw [hquiet phase hphase]
  exact inboundAccounts_receiving a ha

/-- The sides of the account of a map of received messages. -/
private theorem rx_of_sides {map : InboundEntry} {s : InboundShared}
    (h : total s.count (rxAccount map).left = total s.count (rxAccount map).right) :
    s.count map + s.traffic.decodeFailCount + s.rejected = s.traffic.rxCount := by
  rw [rxAccount, total_cons, total_cons, total_singleton, total_singleton] at h
  exact (Nat.add_assoc ..).trans h

private theorem expired_of_sides {map : InboundEntry} {s : InboundShared}
    (h : total s.count (expiredAccount map).left = total s.count (expiredAccount map).right) :
    s.count map = s.traffic.expiredDropCount := by
  rwa [expiredAccount, total_singleton, total_singleton] at h

theorem InboundRun.Balanced.exact {r : InboundRun} (h : r.Balanced) (hquiet : r.Quiet) : InboundExact r.shared := by
  have hsides := h.sides hquiet
  simp only [inboundAccounts, List.forall_mem_cons] at hsides
  obtain ⟨houtcome, htopic, hchannel, hqos, htopicDrop, hchannelDrop, hqosDrop, htrace, hindex, hlink, -⟩ := hsides
  refine ⟨?_, rx_of_sides htopic, rx_of_sides hchannel, rx_of_sides hqos, expired_of_sides htopicDrop,
    expired_of_sides hchannelDrop, expired_of_sides hqosDrop, ?_, ?_, ?_⟩
  · rw [outcomeAccount, total_cons, total_cons, total_cons, total_cons, total_cons, total_singleton,
      total_singleton] at houtcome
    simp only [InboundShared.count] at houtcome
    omega
  · rwa [traceAccount, total_cons, total_singleton, total_singleton] at htrace
  · rwa [indexAccount, total_cons, total_singleton, total_singleton] at hindex
  · rwa [linkAccount, total_singleton, total_singleton] at hlink

/-- **Inbound accounting.**  Whenever no message is being processed, the counters agree. -/
theorem inbound_accounts {bridge : BridgeState} {ops : List InboundOp} {r : InboundRun}
    (hrun : Run InboundRun.Step (.start bridge) ops r) (hquiet : r.Quiet) : InboundExact r.shared := by
  have hbalanced := hrun.invariant (fun _ _ _ h hstep => InboundRun.Balanced.step h hstep)
    (InboundRun.start_balanced bridge)
  exact hbalanced.exact hquiet

/-- The step command is received, with a handler for every topic. -/
def stepReceived : InboundEvent :=
  { received := (.ok, stepText), env := { nowMs := 1000 }, router := stepRouter }

/-- A text is received that is no envelope. -/
def noiseReceived : InboundEvent :=
  { stepReceived with received := (.ok, []) }

/-- The step command is handled while the other loop receives what it cannot decode. -/
theorem inbound_accounts_stepCommand :
    ∃ ops r, Run InboundRun.Step (.start plainBridge) ops r ∧
      r.shared.traffic.rxCount = 2 ∧ r.shared.handled = 1 ∧ InboundExact r.shared := by
  have hrun : Run InboundRun.Step (.start plainBridge)
      [.turn 0 stepReceived, .turn 1 noiseReceived, .turn 0 stepReceived, .turn 0 stepReceived, .turn 1 noiseReceived,
        .turn 0 stepReceived, .turn 0 stepReceived, .turn 0 stepReceived, .turn 0 stepReceived, .turn 1 noiseReceived,
        .turn 0 stepReceived, .turn 0 stepReceived] _ :=
    .cons rfl <| .cons rfl <| .cons rfl <| .cons rfl <| .cons rfl <| .cons rfl <| .cons rfl <| .cons rfl <|
      .cons rfl <| .cons rfl <| .cons rfl <| .cons rfl (.refl _)
  refine ⟨_, _, hrun, rfl, rfl, inbound_accounts hrun fun phase hphase => ?_⟩
  rcases List.mem_cons.1 hphase with rfl | hphase
  · rfl
  · exact List.mem_singleton.1 hphase

end VehicleBridge
