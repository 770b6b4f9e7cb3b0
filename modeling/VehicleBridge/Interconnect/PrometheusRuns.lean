import VehicleBridge.Interconnect.OutboundAccounting
import VehicleBridge.Interconnect.PrometheusPage

/-!
# The Prometheus export in runs

The topics that a bridge counts are those of the envelopes that are published and of the messages that its loops decode
(`exec_countedTopics`).  `exportPrometheus_exposition` says of every page, and of the pages of a run, when they are
expositions.
-/

namespace VehicleBridge

open ByteText LineText Exposition Tokens Transition

/-! ### The topics that are counted -/

private theorem CountMap.mem_increment {α : Type} [DecidableEq α] {key k : α} {counts : CountMap α}
    (h : k ∈ (counts.increment key).map Prod.fst) : k ∈ counts.map Prod.fst ∨ k = key := by
  induction counts with
  | nil => exact .inr (List.mem_singleton.1 h)
  | cons entry rest ih =>
    obtain ⟨k', n⟩ := entry
    rw [CountMap.increment] at h
    split at h
    · exact .inl h
    · rw [List.map_cons, List.mem_cons] at h
      rcases h with rfl | h
      · exact .inl List.mem_cons_self
      · exact (ih h).imp_left (List.mem_cons_of_mem _)

def MessageCounts.topics (counts : MessageCounts) : List Bytes := counts.topic.map Prod.fst

private theorem MessageCounts.mem_topics_add {counts : MessageCounts} {e : MessageEnvelope} {topic : Bytes}
    (h : topic ∈ (counts.add e).topics) : topic ∈ counts.topics ∨ topic = e.topic :=
  CountMap.mem_increment h

def InboundPart.topics (p : InboundPart) : List Bytes := p.rx.topics ++ p.expiredDrop.topics

/-- The topics that a bridge counts. -/
def BridgeState.countedTopics (s : BridgeState) : List Bytes := s.outboundPart.tx.topics ++ s.inboundPart.topics

/-- The envelope that an operation publishes, or that its message is decoded to, has the topic. -/
def BridgeOp.Carries (s : BridgeState) (topic : Bytes) : BridgeOp → Prop
  | .publish _ _ e => e.topic = topic
  | .inbound _ _ _ (ec, message) =>
    ec = .ok ∧ ∃ d, decodeByProtocol s.protocolMode message {} = .ok (.ok, d) ∧ d.topic = topic
  | _ => False

section
variable {σ : Type*} {hashString : Bytes → UInt64} {net : Transports σ}

private theorem publish_countedTopics {env : PublishEnv} {t : TransportId} {e : MessageEnvelope} {s s' : BridgeState}
    {w w' : Wire σ} {ec : ErrorCode} (h : publish net env t e s w = some (ec, s', w')) {topic : Bytes}
    (htopic : topic ∈ s'.countedTopics) : topic ∈ s.countedTopics ∨ e.topic = topic := by
  have hinbound : s'.inboundPart = s.inboundPart := congrArg Prod.snd (publish_unpublished h)
  rw [BridgeState.countedTopics, hinbound, List.mem_append] at htopic
  rw [BridgeState.countedTopics, List.mem_append]
  rcases htopic with htx | hin
  · have hcounted := publish_outbound h
    generalize s'.outboundPart = part at hcounted htx
    cases hcounted with
    | failed => exact .inl (.inl htx)
    | sent => exact (MessageCounts.mem_topics_add htx).imp .inl Eq.symm
    | failedOver => exact .inl (.inl htx)
  · exact .inl (.inr hin)

private theorem dispatch_inboundTopics {env : InboundEnv} {router : MessageRouter} {e : MessageEnvelope}
    {s : BridgeState} {topic : Bytes} (h : topic ∈ (dispatch env router e s).2.inboundPart.topics) :
    topic ∈ s.inboundPart.topics ∨ e.topic = topic := by
  have hresolved (hmem : topic ∈ (resolvePolicy env.conflictNowMs e (noteReceived env e s)).2.inboundPart.topics) :
      topic ∈ s.inboundPart.topics ∨ e.topic = topic := by
    rw [resolvePolicy_frame] at hmem
    rcases List.mem_append.1 hmem with hrx | hexpired
    · exact (MessageCounts.mem_topics_add hrx).imp (List.mem_append_left _) Eq.symm
    · exact .inl (List.mem_append_right _ hexpired)
  simp only [dispatch] at h
  split at h
  · rcases List.mem_append.1 h with hrx | hexpired
    · exact hresolved (List.mem_append_left _ hrx)
    · rcases MessageCounts.mem_topics_add hexpired with hexpired | heq
      · exact hresolved (List.mem_append_right _ hexpired)
      · exact .inr heq.symm
  · cases hroute : router.route e <;> rw [hroute] at h <;> exact hresolved h

private theorem processInbound_inboundTopics {env : InboundEnv} {router : MessageRouter} {ec : ErrorCode}
    {message : Bytes} {s : BridgeState} {topic : Bytes}
    (h : topic ∈ (processInbound env router (ec, message) s).2.inboundPart.topics) :
    topic ∈ s.inboundPart.topics ∨
      ec = .ok ∧ ∃ d, decodeByProtocol s.protocolMode message {} = .ok (.ok, d) ∧ d.topic = topic := by
  unfold processInbound at h
  split at h
  · next heq =>
    cases heq
    unfold processText at h
    simp only at h
    split at h
    · exact .inl h
    next ec d hdecode =>
    split at h
    · exact .inl h
    next hok =>
    rw [not_not] at hok
    rw [hok] at hdecode
    split at h
    · exact .inl h
    · exact (dispatch_inboundTopics h).imp_right fun heq => ⟨rfl, d, hdecode, heq⟩
  · exact .inl h
  · exact .inl h
  · exact .inl h

/-- **The step lemma**: an operation makes a bridge count no topics but those it carries. -/
theorem exec_countedTopics {r r' : BridgeRun σ} {op : BridgeOp} (h : r.exec hashString net op = some r')
    {topic : Bytes} (htopic : topic ∈ r'.bridge.countedTopics) :
    topic ∈ r.bridge.countedTopics ∨ op.Carries r.bridge topic := by
  cases op with
  | start | startFromProvider | stop | reload =>
    have hcounters := exec_counters h trivial
    rw [BridgeState.countedTopics, outboundPart_of_counters hcounters, inboundPart_of_counters hcounters] at htopic
    exact .inl htopic
  | publish origin env e =>
    obtain ⟨⟨ec, s', w'⟩, hpublish, rfl⟩ := Option.map_eq_some_iff.1 h
    rw [publishFrom_eq] at hpublish
    exact publish_countedTopics hpublish htopic
  | inbound t env routers received =>
    obtain ⟨ec, message⟩ := received
    simp only [BridgeRun.exec] at h
    split at h
    · cases h
      rw [inboundLoop_eq, BridgeState.countedTopics, processInbound_outboundPart, List.mem_append] at htopic
      rw [BridgeState.countedTopics, List.mem_append]
      rcases htopic with htx | hin
      · exact .inl (.inl htx)
      · exact (processInbound_inboundTopics hin).imp_left .inr
    · cases h

/-! ### Runs -/

/-- A refresh has copied a map of counts. -/
structure Copied {α : Type} (counts : CountMap α) (bucket : MetricMap α) (keys : MapKeys α) : Prop where
  keys : keys.list.Perm (counts.map Prod.fst)
  values : ∀ entry ∈ counts, bucket entry.1 = UInt64.ofNat entry.2

/-- The metrics that a refresh supplies: the maps of counts of the bridge, and its counters of the same names. -/
structure Supplied (s : BridgeState) (m : BridgeMetrics) (keys : MetricKeys) : Prop where
  txCount : m.txCount = UInt64.ofNat s.traffic.txCount
  rxCount : m.rxCount = UInt64.ofNat s.traffic.rxCount
  expiredDropCount : m.expiredDropCount = UInt64.ofNat s.traffic.expiredDropCount
  topicTx : Copied s.traffic.tx.topic m.topicTxCount keys.topicTxCount
  topicRx : Copied s.traffic.rx.topic m.topicRxCount keys.topicRxCount
  topicExpiredDrop : Copied s.traffic.expiredDrop.topic m.topicExpiredDropCount keys.topicExpiredDropCount
  channelTx : Copied s.traffic.tx.channel m.channelTxCount keys.channelTxCount
  channelRx : Copied s.traffic.rx.channel m.channelRxCount keys.channelRxCount
  channelExpiredDrop : Copied s.traffic.expiredDrop.channel m.channelExpiredDropCount keys.channelExpiredDropCount
  qosTx : Copied s.traffic.tx.qos m.qosTxCount keys.qosTxCount
  qosRx : Copied s.traffic.rx.qos m.qosRxCount keys.qosRxCount
  qosExpiredDrop : Copied s.traffic.expiredDrop.qos m.qosExpiredDropCount keys.qosExpiredDropCount

private theorem Supplied.topics_perm {s : BridgeState} {m : BridgeMetrics} {keys : MetricKeys} (h : Supplied s m keys) :
    keys.topics.Perm s.countedTopics := by
  rw [MetricKeys.topics, List.append_assoc]
  exact h.topicTx.keys.append (h.topicRx.keys.append h.topicExpiredDrop.keys)

/-- An operation of a run that is about exportable topics. -/
def ExportableStep (hashString : Bytes → UInt64) (net : Transports σ) (r : BridgeRun σ) (op : BridgeOp)
    (r' : BridgeRun σ) : Prop :=
  r.exec hashString net op = some r' ∧ ∀ topic, op.Carries r.bridge topic → Exportable topic

/-- **The run lemma**: in a run about exportable topics nothing else is counted. -/
theorem exportable_of_run {w : Wire σ} {ops : List BridgeOp} {r : BridgeRun σ}
    (hrun : Run (ExportableStep hashString net) { wire := w } ops r) :
    ∀ topic ∈ r.bridge.countedTopics, Exportable topic := by
  have hstep (s : BridgeRun σ) (op : BridgeOp) (s' : BridgeRun σ)
      (hs : ∀ topic ∈ s.bridge.countedTopics, Exportable topic) (h : ExportableStep hashString net s op s') :
      ∀ topic ∈ s'.bridge.countedTopics, Exportable topic := by
    intro topic htopic
    rcases exec_countedTopics h.1 htopic with htopic | hcarries
    · exact hs topic htopic
    · exact h.2 topic hcarries
  exact hrun.invariant hstep fun _ htopic => absurd htopic List.not_mem_nil

end

/-- **Expositions.**  A page is an exposition if and only if all counted topics are exportable; and so is every page of
a run in which only such topics are published and received. -/
theorem exportPrometheus_exposition (ts : UInt64) (m : BridgeMetrics) (keys : MetricKeys) :
    (IsExposition (emissions m keys) (exportPrometheus ts m keys) ↔ ∀ topic ∈ keys.topics, Exportable topic) ∧
      ∀ {σ : Type*} (hashString : Bytes → UInt64) (net : Transports σ) (w : Wire σ) (ops : List BridgeOp)
        (r : BridgeRun σ), Run (ExportableStep hashString net) { wire := w } ops r → Supplied r.bridge m keys →
          IsExposition (emissions m keys) (exportPrometheus ts m keys) := by
  refine ⟨isExposition_iff ts m keys, fun hashString net w ops r hrun hsupplied => ?_⟩
  refine (isExposition_iff ts m keys).2 fun topic htopic => ?_
  exact exportable_of_run hrun topic (hsupplied.topics_perm.mem_iff.1 htopic)

/-! ### One envelope published -/

/-- The metrics after an envelope for the topic has been published. -/
def publishedMetrics (topic : Bytes) : BridgeMetrics :=
  { txCount := 1
    topicTxCount := fun t => if t = topic then 1 else 0
    channelTxCount := fun c => if c = .control then 1 else 0
    qosTxCount := fun q => if q = .atLeastOnce then 1 else 0 }

def publishedKeys (topic : Bytes) : MetricKeys :=
  { topicTxCount := { list := [topic] }
    channelTxCount := { list := [.control] }
    qosTxCount := { list := [.atLeastOnce] } }

/-- A start, and the step command published by the vehicle for the topic. -/
def publishOps (topic : Bytes) : List BridgeOp :=
  [.start {} plainConfig, .publish .vehicle {} { MessageCodec.stepCommand with topic }]

theorem Copied.nil {α : Type} : Copied (α := α) [] (fun _ => 0) {} where
  keys := .refl _
  values _ h := absurd h List.not_mem_nil

theorem Copied.singleton {α : Type} [DecidableEq α] (key : α) :
    Copied [(key, 1)] (fun k => if k = key then 1 else 0) { list := [key] } where
  keys := .refl _
  values entry h := by
    rw [List.mem_singleton.1 h]
    exact if_pos rfl

/-- What a bridge has counted after it has sent that. -/
def publishedTraffic (topic : Bytes) : TrafficCounters :=
  { txCount := 1
    tx := { topic := [(topic, 1)], channel := [(.control, 1)], qos := [(.atLeastOnce, 1)] } }

private theorem supplied_published {s : BridgeState} {topic : Bytes} (h : s.traffic = publishedTraffic topic) :
    Supplied s (publishedMetrics topic) (publishedKeys topic) := by
  constructor <;> rw [h]
  · rfl
  · rfl
  · rfl
  · exact .singleton topic
  · exact .nil
  · exact .nil
  · exact .singleton _
  · exact .nil
  · exact .nil
  · exact .singleton _
  · exact .nil
  · exact .nil

section
variable {σ : Type*} {hashString : Bytes → UInt64} {net : Transports σ}

/-- A run in which one envelope for an exportable topic is published. -/
private theorem run_publishOps {topic : Bytes} (htopic : Exportable topic) {r r' : BridgeRun σ}
    (h : (publishOps topic).foldlM (BridgeRun.exec hashString net) r = some r') :
    Run (ExportableStep hashString net) r (publishOps topic) r' := by
  obtain ⟨_, hpublish, hlast⟩ := Option.bind_eq_some_iff.1 h
  cases Option.some.inj hlast
  refine .cons ⟨rfl, nofun⟩ (.cons ⟨hpublish, ?_⟩ (.refl _))
  rintro topic rfl
  exact htopic

end

/-- What is counted when the envelope is sent. -/
def CountsPublished (topic : Bytes) : Prop :=
  ((publishOps topic).foldlM (BridgeRun.exec (fun _ => 0) scriptedTransports) { wire := { state := [] } }).map
    (fun r => r.bridge.traffic) = some (publishedTraffic topic)

instance (topic : Bytes) : Decidable (CountsPublished topic) := inferInstanceAs (Decidable (_ = _))

theorem exposition_vehicleCommand :
    Exportable (text "vehicle.command") ∧ CountsPublished (text "vehicle.command") ∧
      IsExposition (emissions (publishedMetrics (text "vehicle.command")) (publishedKeys (text "vehicle.command")))
        (exportPrometheus 0 (publishedMetrics (text "vehicle.command")) (publishedKeys (text "vehicle.command"))) := by
  have htopic : Exportable (text "vehicle.command") := by decide
  have hcounts : CountsPublished (text "vehicle.command") := by decide
  obtain ⟨r, hr, htraffic⟩ := Option.map_eq_some_iff.1 hcounts
  exact ⟨htopic, hcounts, (exportPrometheus_exposition 0 _ _).2 _ _ _ _ r (run_publishOps htopic hr)
    (supplied_published htraffic)⟩

/-- An envelope for the topic `*` gives the page two samples of one series. -/
theorem exportPrometheus_not_exposition : ¬ ∀ (hashString : Bytes → UInt64) (net : Transports (List ErrorCode))
    (w : Wire (List ErrorCode)) (ops : List BridgeOp) (r : BridgeRun (List ErrorCode)),
    Run (fun r op r' => r.exec hashString net op = some r') { wire := w } ops r →
      ∀ (m : BridgeMetrics) (keys : MetricKeys), Supplied r.bridge m keys →
        ∀ ts : UInt64, IsExposition (emissions m keys) (exportPrometheus ts m keys) := by
  intro h
  have hcounts : CountsPublished (text "*") := by decide
  obtain ⟨r, hr, htraffic⟩ := Option.map_eq_some_iff.1 hcounts
  have hpage := h _ _ _ _ r (Run.of_foldlM hr) _ _ (supplied_published htraffic) 0
  have hexportable := (isExposition_iff _ _ _).1 hpage (text "*") List.mem_cons_self
  exact hexportable.2 rfl

end VehicleBridge
