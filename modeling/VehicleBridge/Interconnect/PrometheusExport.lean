import Mathlib.Data.List.Forall2
import Mathlib.Data.List.Nodup
import VehicleBridge.Interconnect.SystemMetricsAggregator
import VehicleBridge.Lib.Exposition
import VehicleBridge.Lib.LineText

/-!
# The Prometheus export

`ExportPrometheus` writes a line for each counter and each entry of the maps of counts.  The topic of an entry goes into
a label as it is, and the lines of the counters, which are for all topics, have `*` there.
-/

namespace VehicleBridge

open ByteText LineText Exposition Tokens

/-- The keys of a map, in the order in which it is gone through. -/
structure MapKeys (α : Type) where
  list : List α := []
  nodup : list.Nodup := by simp

/-- The keys of the maps of a `BridgeMetrics`. -/
structure MetricKeys where
  topicTxCount : MapKeys Bytes := {}
  topicRxCount : MapKeys Bytes := {}
  topicExpiredDropCount : MapKeys Bytes := {}
  channelTxCount : MapKeys ChannelType := {}
  channelRxCount : MapKeys ChannelType := {}
  channelExpiredDropCount : MapKeys ChannelType := {}
  qosTxCount : MapKeys DeliveryQoS := {}
  qosRxCount : MapKeys DeliveryQoS := {}
  qosExpiredDropCount : MapKeys DeliveryQoS := {}

/-! ### The page -/

def channelToLabel : ChannelType → Bytes
  | .control => text "control"
  | .telemetry => text "telemetry"
  | .event => text "event"

def qosToLabel : DeliveryQoS → Bytes
  | .atLeastOnce => text "at_least_once"
  | .bestEffort => text "best_effort"

def defaultLabels : Bytes := text "\x7btopic=\"*\",channel=\"all\",qos=\"all\",endpoint=\"bridge\"\x7d"

section
variable (ts : UInt64)

/-- `emit_counter`, and the statements of the same form for the other values. -/
def emitCounter (name : Bytes) (value : Int) (labels : Bytes) : Bytes :=
  name ++ labels ++ text " " ++ signedDecimal value ++ text " " ++ decimal ts.toNat ++ text "\n"

def emitByTopic (name : Bytes) (bucket : MetricMap Bytes) (keys : MapKeys Bytes) (endpoint : Bytes) : Bytes :=
  keys.list.flatMap fun topic =>
    name ++ text "\x7btopic=\"" ++ topic ++ text "\",channel=\"all\",qos=\"all\",endpoint=\"" ++ endpoint ++
      text "\"\x7d " ++ decimal (bucket topic).toNat ++ text " " ++ decimal ts.toNat ++ text "\n"

def emitByChannel (name : Bytes) (bucket : MetricMap ChannelType) (keys : MapKeys ChannelType) (endpoint : Bytes) :
    Bytes :=
  keys.list.flatMap fun channel =>
    name ++ text "\x7btopic=\"*\",channel=\"" ++ channelToLabel channel ++ text "\",qos=\"all\",endpoint=\"" ++
      endpoint ++ text "\"\x7d " ++ decimal (bucket channel).toNat ++ text " " ++ decimal ts.toNat ++ text "\n"

def emitByQos (name : Bytes) (bucket : MetricMap DeliveryQoS) (keys : MapKeys DeliveryQoS) (endpoint : Bytes) : Bytes :=
  keys.list.flatMap fun qos =>
    name ++ text "\x7btopic=\"*\",channel=\"all\",qos=\"" ++ qosToLabel qos ++ text "\",endpoint=\"" ++ endpoint ++
      text "\"\x7d " ++ decimal (bucket qos).toNat ++ text " " ++ decimal ts.toNat ++ text "\n"

end

def kTxTotal : Bytes := text "vv_bridge_tx_total"
def kRxTotal : Bytes := text "vv_bridge_rx_total"
def kExpiredDropTotal : Bytes := text "vv_bridge_expired_drop_total"

def counter (name : Bytes) (value : UInt64) : Bytes × Int := (name, value.toNat)

/-- The counters in front of the maps. -/
def leadingCounters (m : BridgeMetrics) : List (Bytes × Int) :=
  [counter kTxTotal m.txCount,
    counter (text "vv_bridge_tx_fail_total") m.txFailCount,
    counter kRxTotal m.rxCount,
    counter (text "vv_bridge_encode_fail_total") m.encodeFailCount,
    counter (text "vv_bridge_decode_fail_total") m.decodeFailCount,
    counter kExpiredDropTotal m.expiredDropCount,
    counter (text "vv_bridge_route_miss_total") m.routeMissCount,
    counter (text "vv_bridge_handler_error_total") m.handlerErrorCount,
    counter (text "vv_bridge_invalid_envelope_total") m.invalidEnvelopeCount,
    counter (text "vv_bridge_transport_error_total") m.transportErrorCount,
    counter (text "vv_bridge_backpressure_drop_total") m.backpressureDropCount]

/-- The counters and other values behind the maps. -/
def trailingCounters (m : BridgeMetrics) : List (Bytes × Int) :=
  [counter (text "vv_policy_hit_total") m.policyHitCount,
    counter (text "vv_policy_override_total") m.policyOverrideCount,
    counter (text "vv_policy_conflict_total") m.policyConflictCount,
    counter (text "vv_policy_conflict_sample_total") m.policyConflictSampledCount,
    counter (text "vv_policy_cache_hit_total") m.policyCacheHitCount,
    counter (text "vv_policy_cache_miss_total") m.policyCacheMissCount,
    counter (text "vv_policy_lint_issue_total") m.policyLintIssueCount,
    counter (text "vv_policy_lint_warning_total") m.policyLintWarningCount,
    counter (text "vv_trace_id_present_total") m.traceIdPresentCount,
    counter (text "vv_trace_index_hit_total") m.traceIndexHitCount,
    counter (text "vv_trace_index_miss_total") m.traceIndexMissCount,
    counter (text "vv_trace_linked_event_total") m.traceLinkedEventCount,
    (text "vv_reload_status_code", m.lastReloadStatusCode.toInt),
    counter (text "vv_trace_id_missing_total") m.traceIdMissingCount,
    counter (text "vv_trace_id_sample_total") m.traceIdSampledCount,
    counter (text "vv_sla_violation_sample_total") m.slaViolationSampledCount,
    counter (text "vv_reload_success_total") m.reloadSuccessCount,
    counter (text "vv_reload_fail_total") m.reloadFailCount,
    counter (text "vv_reload_rollback_total") m.reloadRollbackCount,
    counter (text "vv_loaded_config_version") m.loadedConfigVersion,
    counter (text "vv_last_reload_timestamp_ms") m.lastReloadTimestampMs,
    (text "vv_last_reload_status_code", m.lastReloadStatusCode.toInt),
    (text "vv_reload_rollback_reason_code", m.reloadRollbackReasonCode.toInt),
    (text "vv_reload_policy_lock_violation_total", if m.reloadRollbackReasonCode = 5 then 1 else 0),
    counter (text "vv_protocol_mode_code") m.protocolModeCode.toUInt64,
    counter (text "vv_protocol_cap_legacy") m.protocolCapLegacy,
    counter (text "vv_protocol_cap_compact") m.protocolCapCompact,
    counter (text "vv_protocol_cap_protobuf") m.protocolCapProtobuf,
    counter (text "vv_protocol_cap_cbor") m.protocolCapCbor,
    counter (text "vv_transport_pool_size") m.configuredTransportPoolSize,
    counter (text "vv_failover_hit_total") m.failoverHitCount,
    counter (text "vv_transport_primary_healthy") m.transportPrimaryHealthy,
    counter (text "vv_transport_secondary_healthy") m.transportSecondaryHealthy,
    counter (text "vv_diag_dump_state_total") m.diagDumpStateCount,
    counter (text "vv_diag_route_event_total") m.diagRouteEventCount,
    counter (text "vv_diag_failover_event_total") m.diagFailoverEventCount]

/-- `ExportPrometheus` at the time `ts`. -/
def exportPrometheus (ts : UInt64) (m : BridgeMetrics) (keys : MetricKeys) : Bytes :=
  (leadingCounters m).flatMap (fun c => emitCounter ts c.1 c.2 defaultLabels) ++
    emitByTopic ts kTxTotal m.topicTxCount keys.topicTxCount (text "bridge") ++
    emitByTopic ts kRxTotal m.topicRxCount keys.topicRxCount (text "bridge") ++
    emitByTopic ts kExpiredDropTotal m.topicExpiredDropCount keys.topicExpiredDropCount (text "bridge") ++
    emitByChannel ts kTxTotal m.channelTxCount keys.channelTxCount (text "bridge") ++
    emitByChannel ts kRxTotal m.channelRxCount keys.channelRxCount (text "bridge") ++
    emitByChannel ts kExpiredDropTotal m.channelExpiredDropCount keys.channelExpiredDropCount (text "bridge") ++
    emitByQos ts kTxTotal m.qosTxCount keys.qosTxCount (text "bridge") ++
    emitByQos ts kRxTotal m.qosRxCount keys.qosRxCount (text "bridge") ++
    emitByQos ts kExpiredDropTotal m.qosExpiredDropCount keys.qosExpiredDropCount (text "bridge") ++
    (trailingCounters m).flatMap (fun c => emitCounter ts c.1 c.2 defaultLabels)

/-! ### The series of a page -/

/-- What a line is about. -/
inductive Series
  | total (name : Bytes)
  | topic (name topic : Bytes)
  | channel (name : Bytes) (channel : ChannelType)
  | qos (name : Bytes) (qos : DeliveryQoS)
  deriving DecidableEq, Repr

namespace Series

def name : Series → Bytes
  | .total name | .topic name _ | .channel name _ | .qos name _ => name

def topicLabel : Series → Bytes
  | .topic _ t => t
  | _ => text "*"

def channelLabel : Series → Bytes
  | .channel _ c => channelToLabel c
  | _ => text "all"

def qosLabel : Series → Bytes
  | .qos _ q => qosToLabel q
  | _ => text "all"

/-- The labels behind the topic. -/
def labels (s : Series) : List (Bytes × Bytes) :=
  [(text "channel", s.channelLabel), (text "qos", s.qosLabel), (text "endpoint", text "bridge")]

end Series

/-- A value that is exported for a series. -/
abbrev Emission := Series × Int

def Emission.line (ts : UInt64) (e : Emission) : Bytes :=
  renderSample e.1.name (text "topic", e.1.topicLabel) e.1.labels e.2 ts.toNat

def emissionsOf {α : Type} (series : α → Series) (bucket : MetricMap α) (keys : MapKeys α) : List Emission :=
  keys.list.map fun key => (series key, ((bucket key).toNat : Int))

/-- The emissions of the page, in order. -/
def emissions (m : BridgeMetrics) (keys : MetricKeys) : List Emission :=
  (leadingCounters m).map (fun c => (Series.total c.1, c.2)) ++
    emissionsOf (.topic kTxTotal) m.topicTxCount keys.topicTxCount ++
    emissionsOf (.topic kRxTotal) m.topicRxCount keys.topicRxCount ++
    emissionsOf (.topic kExpiredDropTotal) m.topicExpiredDropCount keys.topicExpiredDropCount ++
    emissionsOf (.channel kTxTotal) m.channelTxCount keys.channelTxCount ++
    emissionsOf (.channel kRxTotal) m.channelRxCount keys.channelRxCount ++
    emissionsOf (.channel kExpiredDropTotal) m.channelExpiredDropCount keys.channelExpiredDropCount ++
    emissionsOf (.qos kTxTotal) m.qosTxCount keys.qosTxCount ++
    emissionsOf (.qos kRxTotal) m.qosRxCount keys.qosRxCount ++
    emissionsOf (.qos kExpiredDropTotal) m.qosExpiredDropCount keys.qosExpiredDropCount ++
    (trailingCounters m).map (fun c => (Series.total c.1, c.2))

/-! ### The lines of the page -/

section
variable (ts : UInt64)

private theorem text_openTopic : text "\x7btopic=\"" = kOpen :: (text "topic" ++ [kEquals, kQuote]) := by
  repeat rw [text_ofList]
  rfl

private theorem text_closeLabels : text "\"\x7d " = [kQuote, kClose, kSpace] := by
  repeat rw [text_ofList]
  rfl

private theorem text_endpoint : text "\",endpoint=\"" = kQuote :: kComma :: (text "endpoint" ++ [kEquals, kQuote]) := by
  repeat rw [text_ofList]
  rfl

private theorem text_qosAll : text "\",qos=\"all\",endpoint=\"" =
    kQuote :: kComma :: (text "qos" ++ kEquals :: kQuote :: (text "all" ++ text "\",endpoint=\"")) := by
  repeat rw [text_ofList]
  rfl

private theorem text_channelAll : text "\",channel=\"all\",qos=\"all\",endpoint=\"" =
    kQuote :: kComma :: (text "channel" ++ kEquals :: kQuote :: (text "all" ++ text "\",qos=\"all\",endpoint=\"")) := by
  repeat rw [text_ofList]
  rfl

private theorem text_openChannel : text "\x7btopic=\"*\",channel=\"" =
    text "\x7btopic=\"" ++ text "*" ++ kQuote :: kComma :: (text "channel" ++ [kEquals, kQuote]) := by
  repeat rw [text_ofList]
  rfl

private theorem text_openQos : text "\x7btopic=\"*\",channel=\"all\",qos=\"" =
    text "\x7btopic=\"*\",channel=\"" ++ text "all" ++ kQuote :: kComma :: (text "qos" ++ [kEquals, kQuote]) := by
  repeat rw [text_ofList]
  rfl

private theorem text_defaultLabels : defaultLabels =
    text "\x7btopic=\"" ++ text "*" ++ text "\",channel=\"all\",qos=\"all\",endpoint=\"" ++ text "bridge" ++
      [kQuote, kClose] := by
  unfold defaultLabels
  repeat rw [text_ofList]
  rfl

private theorem text_blank : text " " = [kSpace] := by decide

private theorem text_newline : text "\n" = [kLineFeed] := by decide

private theorem emitCounter_eq (name : Bytes) (value : Int) :
    emitCounter ts name value defaultLabels = Emission.line ts (.total name, value) ++ [kLineFeed] := by
  simp [emitCounter, Emission.line, renderSample, renderLabel, renderRest, Series.name, Series.labels,
    Series.topicLabel, Series.channelLabel, Series.qosLabel, text_defaultLabels, text_channelAll, text_qosAll,
    text_endpoint, text_openTopic, text_blank, text_newline]

private theorem emitByTopic_eq (name : Bytes) (bucket : MetricMap Bytes) (keys : MapKeys Bytes) :
    emitByTopic ts name bucket keys (text "bridge") =
      unlines ((emissionsOf (.topic name) bucket keys).map (Emission.line ts)) := by
  simp [emitByTopic, emissionsOf, unlines, List.flatMap_map, Emission.line, renderSample, renderLabel, renderRest,
    Series.name, Series.labels, Series.topicLabel, Series.channelLabel, Series.qosLabel, text_channelAll, text_qosAll,
    text_endpoint, text_openTopic, text_closeLabels, text_blank, text_newline]

private theorem emitByChannel_eq (name : Bytes) (bucket : MetricMap ChannelType) (keys : MapKeys ChannelType) :
    emitByChannel ts name bucket keys (text "bridge") =
      unlines ((emissionsOf (.channel name) bucket keys).map (Emission.line ts)) := by
  simp [emitByChannel, emissionsOf, unlines, List.flatMap_map, Emission.line, renderSample, renderLabel, renderRest,
    Series.name, Series.labels, Series.topicLabel, Series.channelLabel, Series.qosLabel, text_openChannel, text_qosAll,
    text_endpoint, text_openTopic, text_closeLabels, text_blank, text_newline]

private theorem emitByQos_eq (name : Bytes) (bucket : MetricMap DeliveryQoS) (keys : MapKeys DeliveryQoS) :
    emitByQos ts name bucket keys (text "bridge") =
      unlines ((emissionsOf (.qos name) bucket keys).map (Emission.line ts)) := by
  simp [emitByQos, emissionsOf, unlines, List.flatMap_map, Emission.line, renderSample, renderLabel, renderRest,
    Series.name, Series.labels, Series.topicLabel, Series.channelLabel, Series.qosLabel, text_openQos,
    text_openChannel, text_endpoint, text_openTopic, text_closeLabels, text_blank, text_newline]

/-- The page has a line for each emission. -/
theorem exportPrometheus_eq (m : BridgeMetrics) (keys : MetricKeys) :
    exportPrometheus ts m keys = unlines ((emissions m keys).map (Emission.line ts)) := by
  have hcounters (counters : List (Bytes × Int)) :
      counters.flatMap (fun c => emitCounter ts c.1 c.2 defaultLabels) =
        unlines ((counters.map fun c => (Series.total c.1, c.2)).map (Emission.line ts)) := by
    simp [unlines, List.flatMap_map, emitCounter_eq]
  simp only [exportPrometheus, emissions, hcounters, emitByTopic_eq, emitByChannel_eq, emitByQos_eq, List.map_append,
    unlines_append]

end

/-! ### Names and labels -/

/-- The names of the counters. -/
def counterNames (m : BridgeMetrics) : List Bytes := (leadingCounters m ++ trailingCounters m).map Prod.fst

instance (isChar : UInt8 → Bool) (name : Bytes) : Decidable (IsName isChar name) :=
  have : Decidable (∀ c ∈ name, isChar c = true) := List.decidableBAll ..
  inferInstanceAs (Decidable (_ ∧ _))

/-- A text as a number. -/
def textCode (s : Bytes) : Nat := s.foldl (fun n c => n * 256 + c.toNat) 0

private theorem counterNames_spelled (m : BridgeMetrics) : ∃ spellings, Spelled (counterNames m) spellings ∧
    (∀ name ∈ spellings.map (List.map Char.toUInt8), IsName isNameChar name) ∧
      ((spellings.map (List.map Char.toUInt8)).map textCode).Nodup := by
  refine ⟨_, by unfold counterNames; repeat constructor, ?_, ?_⟩
  · decide +kernel
  · decide +kernel

theorem isName_of_mem_counterNames {m : BridgeMetrics} {name : Bytes} (h : name ∈ counterNames m) :
    IsName isNameChar name := by
  obtain ⟨spellings, hspelled, hnames, -⟩ := counterNames_spelled m
  exact hnames name (hspelled.eq ▸ h)

private theorem nodup_counterNames (m : BridgeMetrics) : (counterNames m).Nodup := by
  obtain ⟨spellings, hspelled, -, hcodes⟩ := counterNames_spelled m
  rw [hspelled.eq]
  exact hcodes.of_map _

theorem total_mem_emissions {m : BridgeMetrics} {keys : MetricKeys} {name : Bytes} (h : name ∈ counterNames m) :
    ∃ value, (Series.total name, value) ∈ emissions m keys := by
  obtain ⟨c, hc, rfl⟩ := List.mem_map.1 h
  refine ⟨c.2, ?_⟩
  simp only [emissions, List.mem_append, List.mem_map]
  rcases List.mem_append.1 hc with hc | hc
  · simp only [or_assoc]
    exact .inl ⟨c, hc, rfl⟩
  · exact .inr ⟨c, hc, rfl⟩

/-! ### No series twice -/

/-- The topics that are counted. -/
def MetricKeys.topics (keys : MetricKeys) : List Bytes :=
  keys.topicTxCount.list ++ keys.topicRxCount.list ++ keys.topicExpiredDropCount.list

theorem mem_topics_iff (m : BridgeMetrics) {keys : MetricKeys} {topic : Bytes} :
    topic ∈ keys.topics ↔ ∃ name value, (Series.topic name topic, value) ∈ emissions m keys := by
  simp only [MetricKeys.topics, emissions, emissionsOf, List.mem_append, List.mem_map, Prod.mk.injEq, reduceCtorEq,
    Series.topic.injEq, false_and, and_false, exists_false, or_false, false_or]
  constructor
  · rintro ((h | h) | h)
    · exact ⟨kTxTotal, _, .inl (.inl ⟨topic, h, ⟨rfl, rfl⟩, rfl⟩)⟩
    · exact ⟨kRxTotal, _, .inl (.inr ⟨topic, h, ⟨rfl, rfl⟩, rfl⟩)⟩
    · exact ⟨kExpiredDropTotal, _, .inr ⟨topic, h, ⟨rfl, rfl⟩, rfl⟩⟩
  · rintro ⟨_, _, (⟨_, h, ⟨-, rfl⟩, -⟩ | ⟨_, h, ⟨-, rfl⟩, -⟩) | ⟨_, h, ⟨-, rfl⟩, -⟩⟩
    · exact .inl (.inl h)
    · exact .inl (.inr h)
    · exact .inr h

def totalSeries (counters : List (Bytes × Int)) : List Series := counters.map fun c => .total c.1

/-- The series of three maps of one kind. -/
def mapSeries {α : Type} (series : Bytes → α → Series) (tx rx expiredDrop : MapKeys α) : List Series :=
  tx.list.map (series kTxTotal) ++ rx.list.map (series kRxTotal) ++ expiredDrop.list.map (series kExpiredDropTotal)

def MetricKeys.series (keys : MetricKeys) : List Series :=
  mapSeries .topic keys.topicTxCount keys.topicRxCount keys.topicExpiredDropCount ++
    (mapSeries .channel keys.channelTxCount keys.channelRxCount keys.channelExpiredDropCount ++
      mapSeries .qos keys.qosTxCount keys.qosRxCount keys.qosExpiredDropCount)

private theorem series_emissions (m : BridgeMetrics) (keys : MetricKeys) :
    (emissions m keys).map Prod.fst =
      totalSeries (leadingCounters m) ++ (keys.series ++ totalSeries (trailingCounters m)) := by
  simp [emissions, emissionsOf, totalSeries, MetricKeys.series, mapSeries, Function.comp_def]

private theorem mem_mapSeries {α : Type} {series : Bytes → α → Series} {tx rx expiredDrop : MapKeys α} {s : Series}
    (hs : s ∈ mapSeries series tx rx expiredDrop) :
    ∃ name key, s = series name key ∧ (name = kTxTotal ∨ name = kRxTotal ∨ name = kExpiredDropTotal) := by
  simp only [mapSeries, List.mem_append, List.mem_map] at hs
  rcases hs with (⟨key, -, rfl⟩ | ⟨key, -, rfl⟩) | ⟨key, -, rfl⟩
  · exact ⟨_, key, rfl, .inl rfl⟩
  · exact ⟨_, key, rfl, .inr (.inl rfl)⟩
  · exact ⟨_, key, rfl, .inr (.inr rfl)⟩

/-- The maps are exported under names of counters. -/
private theorem name_mem_of_mapSeries {α : Type} {series : Bytes → α → Series} {tx rx expiredDrop : MapKeys α}
    {s : Series} (hs : s ∈ mapSeries series tx rx expiredDrop) (hname : ∀ name key, (series name key).name = name)
    (m : BridgeMetrics) : s.name ∈ counterNames m := by
  have hleading (c : Bytes × Int) (hc : c ∈ leadingCounters m) : c.1 ∈ counterNames m :=
    List.mem_map_of_mem (List.mem_append_left _ hc)
  obtain ⟨name, key, rfl, hcases⟩ := mem_mapSeries hs
  rw [hname]
  rcases hcases with rfl | rfl | rfl
  · exact hleading (counter kTxTotal m.txCount) (by simp [leadingCounters])
  · exact hleading (counter kRxTotal m.rxCount) (by simp [leadingCounters])
  · exact hleading (counter kExpiredDropTotal m.expiredDropCount) (by simp [leadingCounters])

theorem name_mem_counterNames {m : BridgeMetrics} {keys : MetricKeys} {e : Emission} (he : e ∈ emissions m keys) :
    e.1.name ∈ counterNames m := by
  have hs : e.1 ∈ (emissions m keys).map Prod.fst := List.mem_map_of_mem he
  rw [series_emissions] at hs
  simp only [MetricKeys.series, totalSeries, List.mem_append, List.mem_map] at hs
  rcases hs with ⟨c, hc, heq⟩ | (htopic | hchannel | hqos) | ⟨c, hc, heq⟩
  · exact heq ▸ List.mem_map_of_mem (List.mem_append_left _ hc)
  · exact name_mem_of_mapSeries htopic (fun _ _ => rfl) m
  · exact name_mem_of_mapSeries hchannel (fun _ _ => rfl) m
  · exact name_mem_of_mapSeries hqos (fun _ _ => rfl) m
  · exact heq ▸ List.mem_map_of_mem (List.mem_append_right _ hc)

private theorem nodup_append_of_tag {α β : Type} {l l' : List α} (tag : α → β) (hl : l.Nodup) (hl' : l'.Nodup)
    (h : ∀ a ∈ l, ∀ b ∈ l', tag a ≠ tag b) : (l ++ l').Nodup :=
  List.nodup_append.2 ⟨hl, hl', fun a ha b hb heq => h a ha b hb (congrArg tag heq)⟩

private theorem nodup_mapSeries {α : Type} {series : Bytes → α → Series} (hseries : ∀ name, (series name).Injective)
    (hname : ∀ name key, (series name key).name = name) (tx rx expiredDrop : MapKeys α) :
    (mapSeries series tx rx expiredDrop).Nodup := by
  have hne : kTxTotal ≠ kRxTotal ∧ kTxTotal ≠ kExpiredDropTotal ∧ kRxTotal ≠ kExpiredDropTotal := by decide
  have hmap (name : Bytes) (keys : MapKeys α) : (keys.list.map (series name)).Nodup := keys.nodup.map (hseries name)
  have htxrx : (tx.list.map (series kTxTotal) ++ rx.list.map (series kRxTotal)).Nodup := by
    refine nodup_append_of_tag Series.name (hmap ..) (hmap ..) fun a ha b hb => ?_
    obtain ⟨_, -, rfl⟩ := List.mem_map.1 ha
    obtain ⟨_, -, rfl⟩ := List.mem_map.1 hb
    rw [hname, hname]
    exact hne.1
  refine nodup_append_of_tag Series.name htxrx (hmap ..) fun a ha b hb => ?_
  obtain ⟨_, -, rfl⟩ := List.mem_map.1 hb
  rcases List.mem_append.1 ha with ha | ha
  · obtain ⟨_, -, rfl⟩ := List.mem_map.1 ha
    rw [hname, hname]
    exact hne.2.1
  · obtain ⟨_, -, rfl⟩ := List.mem_map.1 ha
    rw [hname, hname]
    exact hne.2.2

/-- Which of the constructors a series is of. -/
def Series.kind : Series → Nat
  | .total _ => 0
  | .topic .. => 1
  | .channel .. => 2
  | .qos .. => 3

private theorem kind_of_mem_mapSeries {α : Type} {series : Bytes → α → Series} {tx rx expiredDrop : MapKeys α}
    {s : Series} (hs : s ∈ mapSeries series tx rx expiredDrop) {kind : Nat}
    (h : ∀ name key, (series name key).kind = kind) : s.kind = kind := by
  obtain ⟨name, key, rfl, -⟩ := mem_mapSeries hs
  exact h name key

private theorem nodup_series (keys : MetricKeys) : keys.series.Nodup := by
  have htopics := nodup_mapSeries (fun _ _ _ h => (Series.topic.inj h).2) (fun _ _ => rfl) keys.topicTxCount
    keys.topicRxCount keys.topicExpiredDropCount
  have hchannels := nodup_mapSeries (fun _ _ _ h => (Series.channel.inj h).2) (fun _ _ => rfl) keys.channelTxCount
    keys.channelRxCount keys.channelExpiredDropCount
  have hqos := nodup_mapSeries (fun _ _ _ h => (Series.qos.inj h).2) (fun _ _ => rfl) keys.qosTxCount
    keys.qosRxCount keys.qosExpiredDropCount
  refine nodup_append_of_tag Series.kind htopics (nodup_append_of_tag Series.kind hchannels hqos ?_) ?_
  · intro a ha b hb
    rw [kind_of_mem_mapSeries ha fun _ _ => rfl, kind_of_mem_mapSeries hb fun _ _ => rfl]
    decide
  · intro a ha b hb
    rw [kind_of_mem_mapSeries ha fun _ _ => rfl]
    rcases List.mem_append.1 hb with hb | hb
    · rw [kind_of_mem_mapSeries hb fun _ _ => rfl]
      decide
    · rw [kind_of_mem_mapSeries hb fun _ _ => rfl]
      decide

private theorem kind_ne_zero_of_mem_series {keys : MetricKeys} {s : Series} (hs : s ∈ keys.series) : s.kind ≠ 0 := by
  simp only [MetricKeys.series, List.mem_append] at hs
  rcases hs with hs | hs | hs
  · rw [kind_of_mem_mapSeries hs fun _ _ => rfl]
    decide
  · rw [kind_of_mem_mapSeries hs fun _ _ => rfl]
    decide
  · rw [kind_of_mem_mapSeries hs fun _ _ => rfl]
    decide

/-- The emissions of a page are for different series. -/
theorem nodup_series_emissions (m : BridgeMetrics) (keys : MetricKeys) : ((emissions m keys).map Prod.fst).Nodup := by
  have htotals : (totalSeries (leadingCounters m) ++ totalSeries (trailingCounters m)).Nodup := by
    have hnames : totalSeries (leadingCounters m) ++ totalSeries (trailingCounters m) =
        (counterNames m).map .total := by
      simp [totalSeries, counterNames, Function.comp_def]
    rw [hnames]
    exact (nodup_counterNames m).map fun _ _ h => Series.total.inj h
  -- the totals stand in front of the maps and behind them
  rw [series_emissions, (List.perm_append_comm.append_left _).nodup_iff, ← List.append_assoc]
  refine nodup_append_of_tag Series.kind htotals (nodup_series keys) fun a ha b hb heq => ?_
  rw [totalSeries, totalSeries, ← List.map_append] at ha
  obtain ⟨_, -, rfl⟩ := List.mem_map.1 ha
  exact kind_ne_zero_of_mem_series hb heq.symm

end VehicleBridge
