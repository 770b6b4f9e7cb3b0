import VehicleBridge.Interconnect.Inbound
import VehicleBridge.Lib.FifoWindow

/-!
# The trace index over runs

The index of trace identifiers is a map from identifiers to times with a queue of the order they were inserted in.  An
identifier that the map has is not inserted again, and the oldest go when there are too many, so the queue is the window
of the identifiers inserted (`TraceFollows`), and an identifier is found as long as fewer than `kTraceIndexMaxEntries`
others have been inserted since it was (`trace_index_consistent`).
-/

namespace VehicleBridge

open ByteText FifoWindow

/-- The envelope that a round takes the trace identifier of: one that was received, decoded and found valid. -/
def receivedEnvelope (mode : MessageProtocolMode) (received : ErrorCode × Bytes) : Option MessageEnvelope :=
  match received with
  | (.ok, message) =>
    match decodeByProtocol mode message {} with
    | .error _ => none
    | .ok (ec, envelope) => if ec = .ok ∧ isEnvelopeValidForPublish envelope then some envelope else none
  | _ => none

/-- The identifier is in the map. -/
def TraceState.indexed (trace : TraceState) (traceId : Bytes) : Bool :=
  trace.traceIndexLastSeenMs.any fun entry => entry.1 = traceId

/-- A bridge, with the trace identifiers seen so far, each with the time, and those inserted in the index. -/
structure TraceHistory where
  bridge : BridgeState := {}
  seen : List (Bytes × UInt64) := []
  inserted : List Bytes := []

/-- A round of an inbound loop, or a change of the bridge by other threads, which do not write the index. -/
inductive TraceOp
  | round (env : InboundEnv) (router : MessageRouter) (received : ErrorCode × Bytes)
  | other (bridge : BridgeState)

def TraceHistory.note (h : TraceHistory) (traceId : Bytes) (nowMs : UInt64) (bridge : BridgeState) : TraceHistory :=
  { bridge
    seen := h.seen ++ [(traceId, nowMs)]
    inserted := if h.bridge.trace.indexed traceId then h.inserted else h.inserted ++ [traceId] }

def TraceHistory.exec (h : TraceHistory) : TraceOp → TraceHistory
  | .round env router received =>
    let bridge := (processInbound env router received h.bridge).2
    match receivedEnvelope h.bridge.protocolMode received with
    | some envelope =>
      if envelope.traceId = [] then { h with bridge } else h.note envelope.traceId env.traceNowMs bridge
    | none => { h with bridge }
  | .other bridge => { h with bridge := { bridge with trace := h.bridge.trace } }

/-- A new bridge after these operations. -/
def afterTraces (ops : List TraceOp) : TraceHistory :=
  ops.foldl TraceHistory.exec {}

/-! ### What a round does to the index -/

/-- The map, the queue and the two counters of the index. -/
def TraceState.index (trace : TraceState) : List (Bytes × UInt64) × List Bytes × Nat × Nat :=
  (trace.traceIndexLastSeenMs, trace.traceIndexInsertOrder, trace.traceIndexHitCount, trace.traceIndexMissCount)

private theorem sampleTrace_index (settings : RuntimeSettings) (nowMs : UInt64) (trace : TraceState) :
    (sampleTrace settings nowMs trace).index = trace.index := by
  unfold sampleTrace
  dsimp only
  split <;> rfl

private theorem noteTraceIndex_congr {trace trace' : TraceState} (h : trace.index = trace'.index) (traceId : Bytes)
    (nowMs : UInt64) : (noteTraceIndex traceId nowMs trace).index = (noteTraceIndex traceId nowMs trace').index := by
  simp only [TraceState.index, Prod.mk.injEq] at h
  obtain ⟨hlast, horder, hhit, hmiss⟩ := h
  simp only [noteTraceIndex, TraceState.index, hlast, horder, hhit, hmiss]

/-- The other members of the state do not matter. -/
private theorem index_with_others (trace : TraceState) (present linked : Nat) :
    TraceState.index { trace with traceIdPresentCount := present } = trace.index ∧
      TraceState.index { trace with traceLinkedEventCount := linked } = trace.index :=
  ⟨rfl, rfl⟩

private theorem noteTrace_index {traceId : Bytes} (h : traceId ≠ []) (settings : RuntimeSettings) (nowMs : UInt64)
    (trace : TraceState) :
    (noteTrace settings traceId nowMs trace).index = (noteTraceIndex traceId nowMs trace).index := by
  unfold noteTrace
  rw [if_neg h]
  refine (index_with_others _ 0 _).2.trans (noteTraceIndex_congr ?_ traceId nowMs)
  exact (sampleTrace_index settings nowMs _).trans (index_with_others trace _ 0).1

private theorem noteTrace_index_nil (settings : RuntimeSettings) (nowMs : UInt64) (trace : TraceState) :
    (noteTrace settings [] nowMs trace).index = trace.index :=
  rfl

private theorem dispatch_trace (env : InboundEnv) (router : MessageRouter) (e : MessageEnvelope) (s : BridgeState) :
    (dispatch env router e s).2.trace = noteTrace s.settings e.traceId env.traceNowMs s.trace := by
  have hresolved : (resolvePolicy env.conflictNowMs e (noteReceived env e s)).2.trace =
      noteTrace s.settings e.traceId env.traceNowMs s.trace := by
    rw [resolvePolicy_frame]
    rfl
  simp only [dispatch]
  split
  · exact hresolved
  · cases router.route e <;> exact hresolved

/-- A round takes down the trace identifier of the envelope it has received, if it has received one. -/
private theorem processInbound_trace (env : InboundEnv) (router : MessageRouter) (received : ErrorCode × Bytes)
    (s : BridgeState) :
    (processInbound env router received s).2.trace =
      match receivedEnvelope s.protocolMode received with
      | some e => noteTrace s.settings e.traceId env.traceNowMs s.trace
      | none => s.trace := by
  obtain ⟨ec, message⟩ := received
  cases ec with
  | ok =>
    cases hdecode : decodeByProtocol s.protocolMode message {} with
    | error x => simp only [processInbound, processText, receivedEnvelope, hdecode]
    | ok decoded =>
      obtain ⟨code, e⟩ := decoded
      simp only [processInbound, processText, receivedEnvelope, hdecode]
      by_cases hcode : code = .ok
      · cases hvalid : isEnvelopeValidForPublish e with
        | true =>
          simp only [hcode, ne_eq, not_true_eq_false, and_self, if_false, if_true, Bool.true_eq_false]
          exact dispatch_trace env router e _
        | false => simp [hcode]
      · simp [hcode]
  | _ => rfl

/-! ### The window of the identifiers inserted -/

/-- The identifier was last seen at this time. -/
def LastSeenAt (seen : List (Bytes × UInt64)) (traceId : Bytes) (ms : UInt64) : Prop :=
  ∃ before after, seen = before ++ (traceId, ms) :: after ∧ ∀ entry ∈ after, entry.1 ≠ traceId

private theorem lastSeenAt_concat (seen : List (Bytes × UInt64)) (traceId : Bytes) (ms : UInt64) :
    LastSeenAt (seen ++ [(traceId, ms)]) traceId ms :=
  ⟨seen, [], rfl, nofun⟩

theorem LastSeenAt.concat {seen : List (Bytes × UInt64)} {traceId traceId' : Bytes} {ms : UInt64}
    (h : LastSeenAt seen traceId ms) (hne : traceId' ≠ traceId) (ms' : UInt64) :
    LastSeenAt (seen ++ [(traceId', ms')]) traceId ms := by
  obtain ⟨before, after, rfl, hafter⟩ := h
  refine ⟨before, after ++ [(traceId', ms')], by simp, fun entry hentry => ?_⟩
  rcases List.mem_append.1 hentry with hold | hnew
  · exact hafter entry hold
  · rw [List.mem_singleton.1 hnew]
    exact hne

/-- The queue is the window of the identifiers inserted, each of which was new, and the map has the identifiers of the
queue, each with the time it was last seen. -/
structure TraceFollows (trace : TraceState) (seen : List (Bytes × UInt64)) (inserted : List Bytes) : Prop where
  order : trace.traceIndexInsertOrder = inserted.rtake kTraceIndexMaxEntries
  fresh : Fresh kTraceIndexMaxEntries inserted
  keys : ∀ traceId, traceId ∈ trace.traceIndexLastSeenMs.map Prod.fst ↔ traceId ∈ trace.traceIndexInsertOrder
  keysNodup : (trace.traceIndexLastSeenMs.map Prod.fst).Nodup
  lastSeen : ∀ entry ∈ trace.traceIndexLastSeenMs, LastSeenAt seen entry.1 entry.2

private theorem traceFollows_init : TraceFollows {} [] [] :=
  ⟨rfl, fresh_nil, fun _ => Iff.rfl, List.nodup_nil, nofun⟩

theorem TraceFollows.congr {trace trace' : TraceState} {seen : List (Bytes × UInt64)} {inserted : List Bytes}
    (h : TraceFollows trace seen inserted) (heq : trace'.index = trace.index) : TraceFollows trace' seen inserted := by
  simp only [TraceState.index, Prod.mk.injEq] at heq
  obtain ⟨hlast, horder, -, -⟩ := heq
  refine ⟨horder.trans h.order, h.fresh, ?_, ?_, ?_⟩
  · rw [hlast, horder]
    exact h.keys
  · rw [hlast]
    exact h.keysNodup
  · rw [hlast]
    exact h.lastSeen

private theorem TraceState.indexed_iff {trace : TraceState} {traceId : Bytes} :
    trace.indexed traceId = true ↔ traceId ∈ trace.traceIndexLastSeenMs.map Prod.fst := by
  simp [TraceState.indexed]

theorem TraceFollows.bounded {trace : TraceState} {seen : List (Bytes × UInt64)} {inserted : List Bytes}
    (h : TraceFollows trace seen inserted) : trace.traceIndexInsertOrder.length ≤ kTraceIndexMaxEntries := by
  rw [h.order]
  exact length_rtake_le _ _

private theorem TraceFollows.indexed_iff_mem {trace : TraceState} {seen : List (Bytes × UInt64)} {inserted : List Bytes}
    (h : TraceFollows trace seen inserted) {traceId : Bytes} :
    trace.indexed traceId = true ↔ traceId ∈ inserted.rtake kTraceIndexMaxEntries := by
  rw [TraceState.indexed_iff, h.keys, h.order]

/-- The entry of an identifier put in front of those of the others. -/
def putEntry (traceId : Bytes) (nowMs : UInt64) (entries : List (Bytes × UInt64)) : List (Bytes × UInt64) :=
  (traceId, nowMs) :: entries.filter fun entry => entry.1 ≠ traceId

private theorem keys_filter (keep : Bytes → Bool) (entries : List (Bytes × UInt64)) :
    (entries.filter fun entry => keep entry.1).map Prod.fst = (entries.map Prod.fst).filter keep :=
  List.filter_map.symm

private theorem keys_putEntry (traceId : Bytes) (nowMs : UInt64) (entries : List (Bytes × UInt64)) :
    (putEntry traceId nowMs entries).map Prod.fst =
      traceId :: (entries.map Prod.fst).filter fun other => other ≠ traceId := by
  rw [putEntry, List.map_cons, keys_filter fun other => decide (other ≠ traceId)]

private theorem lastSeenAt_putEntry {entries seen : List (Bytes × UInt64)} (traceId : Bytes) (nowMs : UInt64)
    (h : ∀ entry ∈ entries, LastSeenAt seen entry.1 entry.2) :
    ∀ entry ∈ putEntry traceId nowMs entries, LastSeenAt (seen ++ [(traceId, nowMs)]) entry.1 entry.2 := by
  intro entry hentry
  rcases List.mem_cons.1 hentry with rfl | hold
  · exact lastSeenAt_concat seen traceId nowMs
  · obtain ⟨hmem, hne⟩ := List.mem_filter.1 hold
    rw [decide_eq_true_eq] at hne
    exact (h entry hmem).concat (Ne.symm hne) nowMs

private theorem nodup_putEntry {entries : List (Bytes × UInt64)} (traceId : Bytes) (nowMs : UInt64)
    (h : (entries.map Prod.fst).Nodup) : ((putEntry traceId nowMs entries).map Prod.fst).Nodup := by
  rw [keys_putEntry, List.nodup_cons]
  exact ⟨by simp, h.filter _⟩

/-- An identifier that the index has gets a new time, and keeps its place. -/
theorem TraceFollows.hit {trace : TraceState} {seen : List (Bytes × UInt64)} {inserted : List Bytes}
    (h : TraceFollows trace seen inserted) {traceId : Bytes} (hin : trace.indexed traceId = true) (nowMs : UInt64) :
    TraceFollows (noteTraceIndex traceId nowMs trace) (seen ++ [(traceId, nowMs)]) inserted := by
  have hover : trace.traceIndexInsertOrder.length - kTraceIndexMaxEntries = 0 := Nat.sub_eq_zero_of_le h.bounded
  have hseen : (trace.traceIndexLastSeenMs.any fun entry => entry.1 = traceId) = true := hin
  have horder : (noteTraceIndex traceId nowMs trace).traceIndexInsertOrder = trace.traceIndexInsertOrder := by
    simp only [noteTraceIndex, hseen, if_true, hover, List.drop_zero]
  have hentries : (noteTraceIndex traceId nowMs trace).traceIndexLastSeenMs =
      putEntry traceId nowMs trace.traceIndexLastSeenMs := by
    simp only [noteTraceIndex, hseen, if_true, hover, List.take_zero]
    exact List.filter_eq_self.2 fun _ _ => rfl
  have hmem : traceId ∈ trace.traceIndexInsertOrder := (h.keys traceId).1 (TraceState.indexed_iff.1 hin)
  refine ⟨horder.trans h.order, h.fresh, fun other => ?_, ?_, ?_⟩
  · rw [horder, hentries, keys_putEntry, List.mem_cons, List.mem_filter, h.keys, decide_eq_true_eq]
    by_cases heq : other = traceId
    · simp [heq, hmem]
    · simp [heq]
  · rw [hentries]
    exact nodup_putEntry traceId nowMs h.keysNodup
  · rw [hentries]
    exact lastSeenAt_putEntry traceId nowMs h.lastSeen

/-- An identifier that the index does not have is put at the end, and the oldest may go. -/
theorem TraceFollows.miss {trace : TraceState} {seen : List (Bytes × UInt64)} {inserted : List Bytes}
    (h : TraceFollows trace seen inserted) {traceId : Bytes} (hout : trace.indexed traceId = false) (nowMs : UInt64) :
    TraceFollows (noteTraceIndex traceId nowMs trace) (seen ++ [(traceId, nowMs)]) (inserted ++ [traceId]) := by
  have hseen : (trace.traceIndexLastSeenMs.any fun entry => entry.1 = traceId) = false := hout
  have hnew : traceId ∉ trace.traceIndexInsertOrder := by
    rw [← h.keys, ← TraceState.indexed_iff, hout]
    exact Bool.false_ne_true
  obtain ⟨order, hqueue⟩ : ∃ order, order = trace.traceIndexInsertOrder ++ [traceId] := ⟨_, rfl⟩
  obtain ⟨excess, hexcess⟩ : ∃ excess, excess = order.length - kTraceIndexMaxEntries := ⟨_, rfl⟩
  have horder : (noteTraceIndex traceId nowMs trace).traceIndexInsertOrder = order.drop excess := by
    simp only [noteTraceIndex, hseen, Bool.false_eq_true, if_false, hexcess, hqueue]
  have hentries : (noteTraceIndex traceId nowMs trace).traceIndexLastSeenMs =
      (putEntry traceId nowMs trace.traceIndexLastSeenMs).filter
        fun entry => !(order.take excess).contains entry.1 := by
    simp only [noteTraceIndex, hseen, Bool.false_eq_true, if_false, hexcess, hqueue]
    rfl
  have hkeys : ∀ other, other ∈ (putEntry traceId nowMs trace.traceIndexLastSeenMs).map Prod.fst ↔ other ∈ order := by
    intro other
    rw [keys_putEntry, List.mem_cons, List.mem_filter, h.keys, decide_eq_true_eq, hqueue, List.mem_append,
      List.mem_singleton]
    by_cases heq : other = traceId
    · simp [heq]
    · simp [heq]
  have hnodup : order.Nodup := by
    rw [hqueue, List.nodup_append]
    refine ⟨h.order ▸ h.fresh.nodup_rtake, List.nodup_singleton traceId, ?_⟩
    rintro a ha b hb rfl
    exact hnew (List.mem_singleton.1 hb ▸ ha)
  have hsplit : ∀ other, other ∈ order.drop excess ↔ other ∈ order ∧ other ∉ order.take excess := by
    intro other
    rw [← List.take_append_drop excess order] at hnodup
    have hdisjoint := List.disjoint_of_nodup_append hnodup
    constructor
    · exact fun hmem => ⟨List.mem_of_mem_drop hmem, fun htake => hdisjoint htake hmem⟩
    · rintro ⟨hmem, hnot⟩
      rw [← List.take_append_drop excess order, List.mem_append] at hmem
      exact hmem.resolve_left hnot
  refine ⟨?_, ?_, fun other => ?_, ?_, fun entry hentry => ?_⟩
  · rw [horder, rtake_concat (by decide), hexcess, hqueue, h.order]
    rfl
  · rw [fresh_concat, ← h.order]
    exact ⟨h.fresh, hnew⟩
  · rw [horder, hentries, keys_filter fun other => !(order.take excess).contains other, List.mem_filter, hkeys, hsplit]
    simp
  · rw [hentries, keys_filter fun other => !(order.take excess).contains other]
    exact (nodup_putEntry traceId nowMs h.keysNodup).filter _
  · rw [hentries] at hentry
    exact lastSeenAt_putEntry traceId nowMs h.lastSeen entry (List.mem_of_mem_filter hentry)

/-! ### Runs -/

/-- The state behind a received envelope with a trace identifier. -/
private theorem processInbound_index {env : InboundEnv} {router : MessageRouter} {received : ErrorCode × Bytes}
    {s : BridgeState} {e : MessageEnvelope} (hreceived : receivedEnvelope s.protocolMode received = some e)
    (hid : e.traceId ≠ []) : (processInbound env router received s).2.trace.index =
      (noteTraceIndex e.traceId env.traceNowMs s.trace).index := by
  rw [processInbound_trace, hreceived]
  exact noteTrace_index hid _ _ _

/-- **The step lemma**: an operation keeps the index the window of the identifiers inserted. -/
theorem TraceFollows.exec {h : TraceHistory} (hf : TraceFollows h.bridge.trace h.seen h.inserted) (op : TraceOp) :
    TraceFollows (h.exec op).bridge.trace (h.exec op).seen (h.exec op).inserted := by
  cases op with
  | other bridge => exact hf
  | round env router received =>
    simp only [TraceHistory.exec]
    cases hreceived : receivedEnvelope h.bridge.protocolMode received with
    | none =>
      refine hf.congr ?_
      rw [processInbound_trace, hreceived]
    | some e =>
      by_cases hid : e.traceId = []
      · simp only [hid, if_true]
        refine hf.congr ?_
        rw [processInbound_trace, hreceived]
        simp only [hid, noteTrace_index_nil]
      · have hindex : (processInbound env router received h.bridge).2.trace.index = _ :=
          processInbound_index hreceived hid
        simp only [hid, if_false, TraceHistory.note]
        cases hin : h.bridge.trace.indexed e.traceId with
        | true => exact (hf.hit hin env.traceNowMs).congr hindex
        | false => exact (hf.miss hin env.traceNowMs).congr hindex

private theorem traceFollows_afterTraces (ops : List TraceOp) :
    TraceFollows (afterTraces ops).bridge.trace (afterTraces ops).seen (afterTraces ops).inserted := by
  induction ops using List.reverseRecOn with
  | nil => exact traceFollows_init
  | append_singleton ops op ih =>
    unfold afterTraces
    rw [List.foldl_concat]
    exact ih.exec op

/-- The identifier has been inserted, and fewer than `kTraceIndexMaxEntries` others since the last time. -/
def RecentlyInserted (inserted : List Bytes) (traceId : Bytes) : Prop :=
  ∃ before after, inserted = before ++ traceId :: after ∧ traceId ∉ after ∧ after.dedup.length < kTraceIndexMaxEntries

/-- The map and the queue have the same identifiers, no more than allowed and each of them once, with the time each was
last seen; and the next message is counted as a hit exactly if its identifier was inserted recently. -/
structure TraceIndexConsistent (h : TraceHistory) : Prop where
  nodup : h.bridge.trace.traceIndexInsertOrder.Nodup
  keys : ∀ traceId, traceId ∈ h.bridge.trace.traceIndexInsertOrder ↔
    traceId ∈ h.bridge.trace.traceIndexLastSeenMs.map Prod.fst
  keysNodup : (h.bridge.trace.traceIndexLastSeenMs.map Prod.fst).Nodup
  bounded : h.bridge.trace.traceIndexInsertOrder.length ≤ kTraceIndexMaxEntries
  lastSeen : ∀ traceId ms, (traceId, ms) ∈ h.bridge.trace.traceIndexLastSeenMs → LastSeenAt h.seen traceId ms
  hit : ∀ env router received e, receivedEnvelope h.bridge.protocolMode received = some e → e.traceId ≠ [] →
    RecentlyInserted h.inserted e.traceId →
      (processInbound env router received h.bridge).2.trace.traceIndexHitCount =
          h.bridge.trace.traceIndexHitCount + 1 ∧
        (processInbound env router received h.bridge).2.trace.traceIndexMissCount =
          h.bridge.trace.traceIndexMissCount
  miss : ∀ env router received e, receivedEnvelope h.bridge.protocolMode received = some e → e.traceId ≠ [] →
    ¬ RecentlyInserted h.inserted e.traceId →
      (processInbound env router received h.bridge).2.trace.traceIndexHitCount =
          h.bridge.trace.traceIndexHitCount ∧
        (processInbound env router received h.bridge).2.trace.traceIndexMissCount =
          h.bridge.trace.traceIndexMissCount + 1

private theorem TraceFollows.indexed_iff_recent {trace : TraceState} {seen : List (Bytes × UInt64)}
    {inserted : List Bytes} (h : TraceFollows trace seen inserted) {traceId : Bytes} :
    trace.indexed traceId = true ↔ RecentlyInserted inserted traceId := by
  rw [h.indexed_iff_mem, h.fresh.mem_rtake_iff]
  rfl

/-- What a message with an identifier does to the two counters. -/
private theorem processInbound_indexCounts (env : InboundEnv) (router : MessageRouter) {received : ErrorCode × Bytes}
    {s : BridgeState} {e : MessageEnvelope} (hreceived : receivedEnvelope s.protocolMode received = some e)
    (hid : e.traceId ≠ []) :
    (processInbound env router received s).2.trace.traceIndexHitCount =
        s.trace.traceIndexHitCount + (if s.trace.indexed e.traceId then 1 else 0) ∧
      (processInbound env router received s).2.trace.traceIndexMissCount =
        s.trace.traceIndexMissCount + (if s.trace.indexed e.traceId then 0 else 1) := by
  have hindex : (processInbound env router received s).2.trace.index = _ := processInbound_index hreceived hid
  simp only [TraceState.index, Prod.mk.injEq] at hindex
  exact ⟨hindex.2.2.1, hindex.2.2.2⟩

/-- **The trace index stays consistent** through any rounds of the inbound loops, with anything else that happens to the
bridge in between. -/
theorem trace_index_consistent (ops : List TraceOp) : TraceIndexConsistent (afterTraces ops) := by
  have hf := traceFollows_afterTraces ops
  refine ⟨?_, fun traceId => (hf.keys traceId).symm, hf.keysNodup, hf.bounded, fun _ _ hmem => hf.lastSeen _ hmem,
    ?_, ?_⟩
  · rw [hf.order]
    exact hf.fresh.nodup_rtake
  · intro env router received e hreceived hid hrecent
    obtain ⟨hhit, hmiss⟩ := processInbound_indexCounts env router hreceived hid
    rw [hf.indexed_iff_recent.2 hrecent] at hhit hmiss
    exact ⟨hhit, hmiss⟩
  · intro env router received e hreceived hid hrecent
    obtain ⟨hhit, hmiss⟩ := processInbound_indexCounts env router hreceived hid
    rw [Bool.eq_false_iff.2 fun hin => hrecent (hf.indexed_iff_recent.1 hin)] at hhit hmiss
    exact ⟨hhit, hmiss⟩

end VehicleBridge
