import VehicleBridge.Interconnect.InboundAccounting

/-!
# What publishing counts

Every call of `Publish` is counted once, as sent or as failed (`publish_outbound`).  The maps by topic, channel and
QoS miss the messages that only went out by failover, so that together with the failover hits they count what was sent
(`OutboundBalanced`).  They are exact in precisely the runs in which no publish fails over (`outbound_exact_iff`).
-/

namespace VehicleBridge

open ByteText Transition

/-- The members that only publishing writes, as far as they count messages. -/
structure OutboundPart where
  txCount : Nat
  txFailCount : Nat
  failoverHitCount : Nat
  tx : MessageCounts

def BridgeState.outboundPart (s : BridgeState) : OutboundPart :=
  { txCount := s.traffic.txCount
    txFailCount := s.traffic.txFailCount
    failoverHitCount := s.traffic.failoverHitCount
    tx := s.traffic.tx }

/-- The error of a call is counted. -/
def OutboundPart.fail (p : OutboundPart) : OutboundPart :=
  { p with txFailCount := p.txFailCount + 1 }

/-- A message has gone out on the transport of its direction. -/
def OutboundPart.send (e : MessageEnvelope) (p : OutboundPart) : OutboundPart :=
  { p with txCount := p.txCount + 1, tx := p.tx.add e }

/-- A message has gone out on the opposite transport. -/
def OutboundPart.failOver (p : OutboundPart) : OutboundPart :=
  { p with txCount := p.txCount + 1, failoverHitCount := p.failoverHitCount + 1 }

/-! ### One publish -/

/-- The count after the first half of a publish, by what it returned. -/
def OutboundPart.prepared (p : OutboundPart) : Except ErrorCode Outgoing → OutboundPart
  | .error _ => p.fail
  | .ok _ => p

/-- Every error before the send is counted. -/
private theorem PrepareStep.outbound {env : PublishEnv} {t : TransportId} {e : MessageEnvelope} {s s' : BridgeState}
    {r : Except ErrorCode Outgoing} (h : PrepareStep env t e s r s') :
    s'.outboundPart = s.outboundPart.prepared r := by
  cases h with
  | refused hearly => rcases refuseEarly_cases hearly with ⟨-, rfl⟩ | ⟨-, rfl⟩ | ⟨-, rfl⟩ <;> rfl
  | duplicate => rfl
  | noSlot => rw [afterSlot_frame, passWindow_frame]; rfl
  | ready => rw [afterSlot_frame, passWindow_frame]; rfl

section
variable {σ : Type*} (net : Transports σ)

/-- A message that goes out by failover: the transport of its direction does not take it, failover from it is enabled,
and the opposite one takes it. -/
def SendFailsOver (t : TransportId) (out : Outgoing) (tuning : TransportTuning) (w : Wire σ) : Prop :=
  ∃ r r', publishWithBackpressure net t out.encoded out.priority out.policy w = some r ∧ r.ec ≠ .ok ∧
    failoverEnabled tuning t = true ∧
    publishWithBackpressure net t.opposite out.encoded out.priority out.policy r.wire = some r' ∧ r'.ec = .ok

/-- A call of `Publish` whose message is made ready and then goes out by failover. -/
def FailsOver (env : PublishEnv) (t : TransportId) (e : MessageEnvelope) (s : BridgeState) (w : Wire σ) : Prop :=
  ∃ out, (preparePublish env t e s).1 = .ok out ∧ SendFailsOver net t out s.tuning w

/-- How a message is counted, by the code that is returned and by whether it goes out by failover. -/
inductive Counted (e : MessageEnvelope) (rerouted : Prop) (p : OutboundPart) : ErrorCode → OutboundPart → Prop
  | failed {ec : ErrorCode} : ec ≠ .ok → ¬ rerouted → Counted e rerouted p ec p.fail
  | sent : ¬ rerouted → Counted e rerouted p .ok (p.send e)
  | failedOver : rerouted → Counted e rerouted p .ok p.failOver

variable {net} {env : PublishEnv} {t : TransportId} {e : MessageEnvelope} {out : Outgoing} {s s' : BridgeState}
  {w w' : Wire σ} {ec : ErrorCode}

theorem Counted.congr {rerouted rerouted' : Prop} {p p' : OutboundPart} (h : Counted e rerouted p ec p')
    (hiff : rerouted ↔ rerouted') : Counted e rerouted' p ec p' :=
  propext hiff ▸ h

/-- The second half of `Publish` counts the message once. -/
private theorem SendStep.outbound (h : SendStep net t e out s w ec s' w') :
    Counted e (SendFailsOver net t out s.tuning w) s.outboundPart ec s'.outboundPart := by
  cases h with
  | @sent r hsend hok =>
    have hpart : (noteSent e (afterSend t r s)).outboundPart = s.outboundPart.send e := by
      rw [afterSend_frame]
      rfl
    rw [hpart]
    refine .sent ?_
    rintro ⟨q, -, hq, hne, -⟩
    cases hsend.symm.trans hq
    exact hne hok
  | @failed r hsend hne hdisabled =>
    have hpart : (noteSendFailure (afterFailure t r s)).outboundPart = s.outboundPart.fail := by
      rw [afterFailure, afterSend_frame]
      rfl
    rw [hpart]
    refine .failed hne ?_
    rintro ⟨-, -, -, -, henabled, -⟩
    rw [hdisabled] at henabled
    cases henabled
  | @failedOver r r' hsend hne henabled hsend' hok =>
    have hpart : (noteFailover (countDrops r'.drops (afterFailure t r s))).outboundPart = s.outboundPart.failOver := by
      rw [afterFailure, afterSend_frame]
      rfl
    rw [hpart]
    exact .failedOver ⟨r, r', hsend, hne, henabled, hsend', hok⟩
  | @failedTwice r r' hsend hne henabled hsend' hne' =>
    have hpart : (noteSendFailure (countDrops r'.drops (afterFailure t r s))).outboundPart = s.outboundPart.fail := by
      rw [afterFailure, afterSend_frame]
      rfl
    rw [hpart]
    refine .failed hne ?_
    rintro ⟨q, q', hq, -, -, hq', hok⟩
    cases hsend.symm.trans hq
    cases hsend'.symm.trans hq'
    exact hne' hok

/-- **Every call of `Publish` is counted once.** -/
theorem publish_outbound (h : publish net env t e s w = some (ec, s', w')) :
    Counted e (FailsOver net env t e s w) s.outboundPart ec s'.outboundPart := by
  have hstep := preparePublish_step env t e s
  have hpart := hstep.outbound
  rcases publish_cases h with ⟨herror, rfl, -⟩ | ⟨out, s₁, hok, rfl, hsend⟩
  · have hne : ec ≠ .ok := by
      rw [herror] at hstep
      generalize (preparePublish env t e s).2 = s' at hstep
      cases hstep with
      | refused hearly => exact refuseEarly_ne_ok hearly
      | duplicate => decide
      | noSlot => decide
    have hnot : ¬ FailsOver net env t e s w := by
      rintro ⟨out, hout, -⟩
      cases herror.symm.trans hout
    rw [hpart, herror]
    exact .failed hne hnot
  · have htuning : (preparePublish env t e s).2.tuning = s.tuning :=
      congrArg (fun part : BridgeSetup × InboundPart => part.1.tuning) hstep.unpublished
    have hcounted := (sendOutgoing_step hsend).outbound
    rw [hpart, hok, htuning] at hcounted
    refine hcounted.congr ⟨fun hover => ⟨out, hok, hover⟩, ?_⟩
    rintro ⟨out', hout', hover⟩
    cases hok.symm.trans hout'
    exact hover

end

/-! ### Other calls -/

section
variable {σ : Type*} {hashString : Bytes → UInt64} {net : Transports σ}

theorem outboundPart_of_counters {s s' : BridgeState} (h : s'.counters = s.counters) :
    s'.outboundPart = s.outboundPart :=
  congrArg (fun c : TrafficCounters × TraceState =>
    BridgeState.outboundPart { traffic := c.1, trace := c.2 }) h

theorem processInbound_outboundPart (env : InboundEnv) (router : MessageRouter) (received : ErrorCode × Bytes)
    (s : BridgeState) : (processInbound env router received s).2.outboundPart = s.outboundPart :=
  congrArg (fun u : BridgeSetup × ReloadAudit × Nat × Nat × Nat × MessageCounts =>
    OutboundPart.mk u.2.2.1 u.2.2.2.1 u.2.2.2.2.1 u.2.2.2.2.2) (processInbound_unreceived env router received s)

/-! ### Runs -/

/-- A bridge in a run, with the codes that its publishes have returned. -/
structure PublisherRun (σ : Type*) where
  run : BridgeRun σ
  codes : List ErrorCode := []

variable (hashString net)

/-- The code that a call of `Publish` returns. -/
def BridgeRun.returned (r : BridgeRun σ) : BridgeOp → List ErrorCode
  | .publish origin env e => ((publishFrom net origin env e r.bridge r.wire).map Prod.fst).toList
  | _ => []

def PublisherRun.exec (p : PublisherRun σ) (op : BridgeOp) : Option (PublisherRun σ) :=
  (p.run.exec hashString net op).map fun run => { run, codes := p.codes ++ p.run.returned net op }

/-- A call that makes a message go out by failover. -/
def BridgeOp.FailsOver (r : BridgeRun σ) : BridgeOp → Prop
  | .publish origin env e => VehicleBridge.FailsOver net env origin.transport e r.bridge r.wire
  | _ => False

variable {hashString net}

/-- What a call does to the count: a publish is counted, any other call leaves the count alone. -/
theorem PublisherRun.exec_cases {p p' : PublisherRun σ} {op : BridgeOp} (h : p.exec hashString net op = some p') :
    (¬ op.FailsOver net p.run ∧ p'.codes = p.codes ∧
        p'.run.bridge.outboundPart = p.run.bridge.outboundPart) ∨
      ∃ ec e, p'.codes = p.codes ++ [ec] ∧
        Counted e (op.FailsOver net p.run) p.run.bridge.outboundPart ec p'.run.bridge.outboundPart := by
  obtain ⟨r', hexec, rfl⟩ := Option.map_eq_some_iff.1 h
  cases op with
  | start | startFromProvider | stop | reload =>
    exact .inl ⟨id, List.append_nil _, outboundPart_of_counters (exec_counters hexec trivial)⟩
  | publish origin env e =>
    obtain ⟨⟨ec, s', w'⟩, hpublish, rfl⟩ := Option.map_eq_some_iff.1 hexec
    refine .inr ⟨ec, e, ?_, ?_⟩
    · simp only [BridgeRun.returned, hpublish, Option.map_some, Option.toList_some]
    · rw [publishFrom_eq] at hpublish
      exact publish_outbound hpublish
  | inbound t env routers received =>
    simp only [BridgeRun.exec] at hexec
    split at hexec
    · cases hexec
      refine .inl ⟨id, List.append_nil _, ?_⟩
      rw [inboundLoop_eq]
      exact processInbound_outboundPart env _ received p.run.bridge
    · cases hexec

/-- What the counters say at all times: a map misses what went out by failover. -/
structure OutboundBalanced (codes : List ErrorCode) (p : OutboundPart) : Prop where
  sent : p.txCount = codes.count .ok
  failed : p.txFailCount = codes.countP (· ≠ .ok)
  topic : p.tx.topic.sum + p.failoverHitCount = p.txCount
  channel : p.tx.channel.sum + p.failoverHitCount = p.txCount
  qos : p.tx.qos.sum + p.failoverHitCount = p.txCount

/-- The counters are exact. -/
structure OutboundExact (codes : List ErrorCode) (p : OutboundPart) : Prop where
  sent : p.txCount = codes.count .ok
  failed : p.txFailCount = codes.countP (· ≠ .ok)
  topic : p.tx.topic.sum = p.txCount
  channel : p.tx.channel.sum = p.txCount
  qos : p.tx.qos.sum = p.txCount

end

theorem OutboundBalanced.exact_iff {codes : List ErrorCode} {p : OutboundPart} (h : OutboundBalanced codes p) :
    OutboundExact codes p ↔ p.failoverHitCount = 0 := by
  constructor
  · intro hexact
    have hmap := h.topic
    have hsum := hexact.topic
    omega
  · intro hzero
    obtain ⟨hsent, hfailed, htopic, hchannel, hqos⟩ := h
    rw [hzero, Nat.add_zero] at htopic hchannel hqos
    exact ⟨hsent, hfailed, htopic, hchannel, hqos⟩

/-- One more call that went out. -/
private theorem OutboundBalanced.count_ok {codes : List ErrorCode} {p : OutboundPart} (h : OutboundBalanced codes p) :
    p.txCount + 1 = (codes ++ [ErrorCode.ok]).count .ok ∧
      p.txFailCount = (codes ++ [ErrorCode.ok]).countP (· ≠ .ok) := by
  constructor
  · rw [List.count_append, List.count_singleton_self]
    exact congrArg (· + 1) h.sent
  · rw [List.countP_append, List.countP_singleton, if_neg (by decide)]
    exact h.failed

theorem OutboundBalanced.counted {codes : List ErrorCode} {p p' : OutboundPart} {e : MessageEnvelope} {rerouted : Prop}
    {ec : ErrorCode} (h : OutboundBalanced codes p) (hcounted : Counted e rerouted p ec p') :
    OutboundBalanced (codes ++ [ec]) p' := by
  have hok := h.count_ok
  obtain ⟨hsent, hfailed, htopic, hchannel, hqos⟩ := h
  cases hcounted with
  | failed hne hnot =>
    refine ⟨?_, ?_, htopic, hchannel, hqos⟩
    · rw [List.count_append, List.count_singleton, if_neg (by simpa using hne)]
      exact hsent
    · rw [List.countP_append, List.countP_singleton, if_pos (by simpa using hne)]
      exact congrArg (· + 1) hfailed
  | sent hnot =>
    refine ⟨hok.1, hok.2, ?_, ?_, ?_⟩
    · simp only [OutboundPart.send, MessageCounts.add, CountMap.sum_increment]
      omega
    · simp only [OutboundPart.send, MessageCounts.add, CountMap.sum_increment]
      omega
    · simp only [OutboundPart.send, MessageCounts.add, CountMap.sum_increment]
      omega
  | failedOver hover =>
    refine ⟨hok.1, hok.2, ?_, ?_, ?_⟩
    · exact congrArg (· + 1) htopic
    · exact congrArg (· + 1) hchannel
    · exact congrArg (· + 1) hqos

theorem Counted.failoverHitCount {e : MessageEnvelope} {rerouted : Prop} {p p' : OutboundPart} {ec : ErrorCode}
    (h : Counted e rerouted p ec p') : p'.failoverHitCount = 0 ↔ p.failoverHitCount = 0 ∧ ¬ rerouted := by
  cases h with
  | failed hne hnot => exact ⟨fun h0 => ⟨h0, hnot⟩, fun h0 => h0.1⟩
  | sent hnot => exact ⟨fun h0 => ⟨h0, hnot⟩, fun h0 => h0.1⟩
  | failedOver hover => exact ⟨fun h0 => absurd h0 (Nat.succ_ne_zero _), fun h0 => absurd hover h0.2⟩

section
variable {σ : Type*} {hashString : Bytes → UInt64} {net : Transports σ}

def PublisherRun.Balanced (p : PublisherRun σ) : Prop :=
  OutboundBalanced p.codes p.run.bridge.outboundPart

def PublisherRun.Exact (p : PublisherRun σ) : Prop :=
  OutboundExact p.codes p.run.bridge.outboundPart

theorem PublisherRun.Balanced.exec {p p' : PublisherRun σ} {op : BridgeOp} (hp : p.Balanced)
    (h : p.exec hashString net op = some p') : p'.Balanced := by
  unfold PublisherRun.Balanced
  rcases PublisherRun.exec_cases h with ⟨-, hcodes, hpart⟩ | ⟨ec, e, hcodes, hcounted⟩
  · rw [hcodes, hpart]
    exact hp
  · rw [hcodes]
    exact OutboundBalanced.counted hp hcounted

/-- **The step lemma**: exact after a call is exact before it, with no failover by the call. -/
theorem PublisherRun.Balanced.exact_exec_iff {p p' : PublisherRun σ} {op : BridgeOp} (hp : p.Balanced)
    (h : p.exec hashString net op = some p') : p'.Exact ↔ p.Exact ∧ ¬ op.FailsOver net p.run := by
  unfold PublisherRun.Exact
  rw [OutboundBalanced.exact_iff (hp.exec h), OutboundBalanced.exact_iff hp]
  rcases PublisherRun.exec_cases h with ⟨hnot, -, hpart⟩ | ⟨ec, e, -, hcounted⟩
  · rw [hpart]
    exact (and_iff_left hnot).symm
  · exact hcounted.failoverHitCount

/-- **Outbound accounting.**  In a run of a new bridge the counters are exact precisely when no call of it has made a
message go out by failover. -/
theorem outbound_exact_iff (hashString : Bytes → UInt64) (net : Transports σ) (w : Wire σ) {ops : List BridgeOp}
    {p : PublisherRun σ}
    (hrun : Run (fun p op p' => p.exec hashString net op = some p') { run := { wire := w } } ops p) :
    p.Exact ↔
      Run (fun p op p' => ¬ op.FailsOver net p.run ∧ p.exec hashString net op = some p') { run := { wire := w } }
        ops p := by
  have hbalanced : ∀ {ops : List BridgeOp} {p : PublisherRun σ},
      Run (fun p op p' => p.exec hashString net op = some p') { run := { wire := w } } ops p → p.Balanced :=
    fun hrun => hrun.invariant (fun _ _ _ hp h => PublisherRun.Balanced.exec hp h) ⟨rfl, rfl, rfl, rfl, rfl⟩
  constructor
  · intro hexact
    induction hrun with
    | refl => exact .refl _
    | snoc hprev hlast ih =>
      obtain ⟨hexact', hnot⟩ := ((hbalanced hprev).exact_exec_iff hlast).1 hexact
      exact .snoc (ih hexact') ⟨hnot, hlast⟩
  · intro hnever
    have hstep : ∀ (p : PublisherRun σ) (op : BridgeOp) (p' : PublisherRun σ), p.Balanced ∧ p.Exact →
        ¬ op.FailsOver net p.run ∧ p.exec hashString net op = some p' → p'.Balanced ∧ p'.Exact := by
      rintro p op p' ⟨hp, hexact⟩ ⟨hnot, h⟩
      exact ⟨hp.exec h, (hp.exact_exec_iff h).2 ⟨hexact, hnot⟩⟩
    exact (hnever.invariant hstep ⟨⟨rfl, rfl, rfl, rfl, rfl⟩, ⟨rfl, rfl, rfl, rfl, rfl⟩⟩).2

end

/-- The step command is taken by the transport of its direction. -/
theorem outbound_exact_stepCommand :
    ∃ p : PublisherRun (List ErrorCode),
      Run (fun p op p' => p.exec (fun _ => 0) scriptedTransports op = some p')
        { run := { wire := { state := [] } } } (stepOps plainConfig .vehicleToRobot) p ∧
      (p.Exact ↔
        Run (fun p op p' => ¬ op.FailsOver scriptedTransports p.run ∧
          p.exec (fun _ => 0) scriptedTransports op = some p') { run := { wire := { state := [] } } }
          (stepOps plainConfig .vehicleToRobot) p) := by
  have hsome : ((stepOps plainConfig .vehicleToRobot).foldlM (PublisherRun.exec (fun _ => 0) scriptedTransports)
      { run := { wire := { state := [] } } }).isSome = true := by decide
  obtain ⟨p, hp⟩ := Option.isSome_iff_exists.1 hsome
  exact ⟨p, Run.of_foldlM hp, outbound_exact_iff (fun _ => 0) scriptedTransports { state := [] } (Run.of_foldlM hp)⟩

/-- With an additional endpoint configured, a command whose send fails is sent by failover and in no map. -/
theorem outbound_not_exact : ¬ ∀ (hashString : Bytes → UInt64) (net : Transports (List ErrorCode))
    (w : Wire (List ErrorCode)) (ops : List BridgeOp) (p : PublisherRun (List ErrorCode)),
    Run (fun p op p' => p.exec hashString net op = some p') { run := { wire := w } } ops p →
      p.run.bridge.traffic.txCount = p.codes.count .ok ∧
        p.run.bridge.traffic.txFailCount = p.codes.countP (· ≠ .ok) ∧
        p.run.bridge.traffic.tx.topic.sum = p.run.bridge.traffic.txCount ∧
        p.run.bridge.traffic.tx.channel.sum = p.run.bridge.traffic.txCount ∧
        p.run.bridge.traffic.tx.qos.sum = p.run.bridge.traffic.txCount := by
  intro h
  have hexec : ((stepOps { plainConfig with additionalEndpoints := [{}] } .vehicleToRobot).foldlM
      (PublisherRun.exec (fun _ => 0) scriptedTransports)
      { run := { wire := { state := [.queueSendFailed] } } }).map
        (fun p => (p.codes, p.run.bridge.traffic.txCount, p.run.bridge.traffic.tx.topic)) =
      some ([.ok], 1, []) := by decide
  obtain ⟨p, hp, heq⟩ := Option.map_eq_some_iff.1 hexec
  simp only [Prod.mk.injEq] at heq
  have hsum := (h _ _ _ _ p (Run.of_foldlM hp)).2.2.1
  rw [heq.2.1, heq.2.2] at hsum
  cases hsum

end VehicleBridge
