import VehicleBridge.Interconnect.Publish
import VehicleBridge.Lib.FifoWindow

/-!
# The idempotency window as the history of accepted keys

`IsDuplicateWithinWindow` keeps a bucket of keys for each topic.  After any calls the bucket of a topic holds the last
keys accepted on it, as many as the window size says, and at least one (`WindowFollows`).  A duplicate leaves the bucket
as it is, so it does not make its key stay longer.

Keys that are derived from an envelope join topic, source and sequence with `|` and without escapes.  On one topic they
can be told apart nevertheless, since a sequence number has no `|` in it (`dedupKey_inj_iff`).
-/

namespace VehicleBridge

open ByteText FifoWindow

/-- A bridge, with the envelopes whose keys have been accepted so far. -/
structure AcceptHistory where
  bridge : BridgeState
  accepted : List MessageEnvelope := []

def AcceptHistory.check (h : AcceptHistory) (envelope : MessageEnvelope) : AcceptHistory :=
  let r := isDuplicateWithinWindow envelope h.bridge
  { bridge := r.2, accepted := if r.1 then h.accepted else h.accepted ++ [envelope] }

/-- A bridge after `IsDuplicateWithinWindow` has been called on these envelopes. -/
def afterChecks (s : BridgeState) (envelopes : List MessageEnvelope) : AcceptHistory :=
  envelopes.foldl AcceptHistory.check { bridge := s }

/-- The keys accepted on a topic, oldest first. -/
def AcceptHistory.acceptedKeys (h : AcceptHistory) (topic : Bytes) : List Bytes :=
  (h.accepted.filter (·.topic = topic)).map dedupKey

/-- How many keys a bucket holds. -/
def windowLimit (config : BridgeConfig) : Nat :=
  max 1 config.idempotencyWindowSize.toNat

/-- The buckets are the windows of the keys accepted, each of which was new. -/
structure WindowFollows (config : BridgeConfig) (h : AcceptHistory) : Prop where
  config_eq : h.bridge.config = config
  bucket : ∀ topic, h.bridge.recentKeys topic = (h.acceptedKeys topic).rtake (windowLimit config)
  fresh : ∀ topic, Fresh (windowLimit config) (h.acceptedKeys topic)

private theorem windowLimit_pos (config : BridgeConfig) : 0 < windowLimit config :=
  Nat.lt_of_lt_of_le Nat.zero_lt_one (Nat.le_max_left _ _)

private theorem acceptedKeys_init (s : BridgeState) (topic : Bytes) :
    AcceptHistory.acceptedKeys { bridge := s } topic = [] :=
  rfl

private theorem acceptedKeys_concat (s : BridgeState) (accepted : List MessageEnvelope) (e : MessageEnvelope)
    (topic : Bytes) : AcceptHistory.acceptedKeys { bridge := s, accepted := accepted ++ [e] } topic =
      AcceptHistory.acceptedKeys { bridge := s, accepted } topic ++ if e.topic = topic then [dedupKey e] else [] := by
  unfold AcceptHistory.acceptedKeys
  rw [List.filter_append, List.map_append]
  by_cases htopic : e.topic = topic <;> simp [htopic]

private theorem enterKey_recentKeys (e : MessageEnvelope) (s : BridgeState) (topic : Bytes) :
    (enterKey e s).recentKeys topic =
      if topic = e.topic then push (windowLimit s.config) (dedupKey e) (s.recentKeys e.topic)
      else s.recentKeys topic :=
  rfl

private theorem AcceptHistory.check_of_duplicate {h : AcceptHistory} {e : MessageEnvelope}
    (hin : inWindow e h.bridge = true) : h.check e = h := by
  unfold AcceptHistory.check isDuplicateWithinWindow
  rw [if_pos hin]
  rfl

private theorem AcceptHistory.check_of_new {h : AcceptHistory} {e : MessageEnvelope}
    (hin : inWindow e h.bridge = false) :
    h.check e = { bridge := enterKey e h.bridge, accepted := h.accepted ++ [e] } := by
  unfold AcceptHistory.check isDuplicateWithinWindow
  rw [if_neg (Bool.eq_false_iff.1 hin)]
  rfl

private theorem windowFollows_init {s : BridgeState} (hempty : ∀ topic, s.recentKeys topic = []) :
    WindowFollows s.config { bridge := s } := by
  refine ⟨rfl, fun topic => ?_, fun topic => ?_⟩
  · rw [acceptedKeys_init, List.rtake_nil]
    exact hempty topic
  · rw [acceptedKeys_init]
    exact fresh_nil

/-- **The step lemma**: a call keeps the buckets the windows of the keys accepted. -/
theorem WindowFollows.check {config : BridgeConfig} {h : AcceptHistory} (hw : WindowFollows config h)
    (e : MessageEnvelope) : WindowFollows config (h.check e) := by
  cases hin : inWindow e h.bridge with
  | true =>
    rw [AcceptHistory.check_of_duplicate hin]
    exact hw
  | false =>
    have hnew : dedupKey e ∉ (h.acceptedKeys e.topic).rtake (windowLimit config) := by
      rw [← hw.bucket]
      simpa [inWindow] using hin
    rw [AcceptHistory.check_of_new hin]
    refine ⟨hw.config_eq, fun topic => ?_, fun topic => ?_⟩
    · rw [enterKey_recentKeys, acceptedKeys_concat, hw.config_eq]
      by_cases htopic : e.topic = topic
      · subst htopic
        rw [if_pos rfl, if_pos rfl, rtake_concat (windowLimit_pos config), hw.bucket]
        rfl
      · rw [if_neg htopic, if_neg (Ne.symm htopic), List.append_nil]
        exact hw.bucket topic
    · rw [acceptedKeys_concat]
      by_cases htopic : e.topic = topic
      · subst htopic
        rw [if_pos rfl]
        exact fresh_concat.2 ⟨hw.fresh e.topic, hnew⟩
      · rw [if_neg htopic, List.append_nil]
        exact hw.fresh topic

private theorem windowFollows_afterChecks {s : BridgeState} (hempty : ∀ topic, s.recentKeys topic = [])
    (envelopes : List MessageEnvelope) : WindowFollows s.config (afterChecks s envelopes) := by
  induction envelopes using List.reverseRecOn with
  | nil => exact windowFollows_init hempty
  | append_singleton envelopes e ih =>
    unfold afterChecks
    rw [List.foldl_concat]
    exact ih.check e

/-! ### One topic and another -/

private theorem check_of_other_topic {h : AcceptHistory} {e : MessageEnvelope} {topic : Bytes}
    (htopic : e.topic ≠ topic) : (h.check e).bridge.recentKeys topic = h.bridge.recentKeys topic := by
  cases hin : inWindow e h.bridge with
  | true => rw [AcceptHistory.check_of_duplicate hin]
  | false =>
    rw [AcceptHistory.check_of_new hin, enterKey_recentKeys, if_neg htopic.symm]

private theorem check_congr {h h' : AcceptHistory} {e : MessageEnvelope} (hconfig : h.bridge.config = h'.bridge.config)
    (hkeys : h.bridge.recentKeys e.topic = h'.bridge.recentKeys e.topic) :
    (h.check e).bridge.recentKeys e.topic = (h'.check e).bridge.recentKeys e.topic := by
  have hsame : inWindow e h.bridge = inWindow e h'.bridge := by
    unfold inWindow
    rw [hkeys]
  cases hin : inWindow e h.bridge with
  | true =>
    rw [AcceptHistory.check_of_duplicate hin, AcceptHistory.check_of_duplicate (hsame ▸ hin), hkeys]
  | false =>
    rw [AcceptHistory.check_of_new hin, AcceptHistory.check_of_new (hsame ▸ hin), enterKey_recentKeys,
      enterKey_recentKeys, if_pos rfl, if_pos rfl, hconfig, hkeys]

/-- A bucket is what the calls on its own topic make of it. -/
private theorem recentKeys_own_topic {s : BridgeState} (hempty : ∀ topic, s.recentKeys topic = [])
    (envelopes : List MessageEnvelope) (topic : Bytes) :
    (afterChecks s envelopes).bridge.recentKeys topic =
      (afterChecks s (envelopes.filter (·.topic = topic))).bridge.recentKeys topic := by
  induction envelopes using List.reverseRecOn with
  | nil => rfl
  | append_singleton envelopes e ih =>
    have hconcat : ∀ l, afterChecks s (l ++ [e]) = (afterChecks s l).check e := fun l => List.foldl_concat ..
    rw [List.filter_append, hconcat]
    by_cases htopic : e.topic = topic
    · subst htopic
      have hown : [e].filter (·.topic = e.topic) = [e] := by simp
      rw [hown, hconcat]
      refine check_congr ?_ ih
      rw [(windowFollows_afterChecks hempty _).config_eq, (windowFollows_afterChecks hempty _).config_eq]
    · have hother : [e].filter (·.topic = topic) = [] := by simp [htopic]
      rw [check_of_other_topic htopic, hother, List.append_nil, ih]

/-! ### Derived keys -/

/-- On one topic, derived keys are those of one source and one sequence number. -/
theorem dedupKey_inj_iff {e e' : MessageEnvelope} (htopic : e.topic = e'.topic) (hkey : e.idempotencyKey = [])
    (hkey' : e'.idempotencyKey = []) : dedupKey e = dedupKey e' ↔ e.source = e'.source ∧ e.sequence = e'.sequence := by
  have hbar : text "|" = [124] := by decide
  have hdigits : ∀ n, (124 : UInt8) ∉ decimal n := fun n => not_mem_decimal (by decide)
  have hsplit : ∀ topic source digits : Bytes,
      topic ++ [124] ++ source ++ [124] ++ digits = (topic ++ [124] ++ source) ++ 124 :: digits := by simp
  unfold dedupKey
  rw [if_pos hkey, if_pos hkey', htopic, hbar, hsplit, hsplit]
  constructor
  · intro heq
    obtain ⟨hfront, hsequence⟩ := append_cons_inj_right (hdigits _) (hdigits _) heq
    refine ⟨List.append_cancel_left hfront, UInt64.toNat_inj.1 ?_⟩
    rw [← ofDecimal_decimal e.sequence.toNat, hsequence, ofDecimal_decimal]
  · rintro ⟨hsource, hsequence⟩
    rw [hsource, hsequence]

/-! ### The window -/

/-- After these calls the buckets are bounded and without repetitions, a call says that its key is a duplicate exactly
if it is among the last keys accepted on its topic, and each bucket depends on the calls on its own topic only. -/
structure WindowExact (s : BridgeState) (envelopes : List MessageEnvelope) : Prop where
  nodup : ∀ topic, ((afterChecks s envelopes).bridge.recentKeys topic).Nodup
  bounded : ∀ topic, ((afterChecks s envelopes).bridge.recentKeys topic).length ≤ windowLimit s.config
  duplicate_iff : ∀ e, (isDuplicateWithinWindow e (afterChecks s envelopes).bridge).1 = true ↔
    dedupKey e ∈ ((afterChecks s envelopes).acceptedKeys e.topic).rtake (windowLimit s.config)
  own_topic : ∀ topic, (afterChecks s envelopes).bridge.recentKeys topic =
    (afterChecks s (envelopes.filter (·.topic = topic))).bridge.recentKeys topic

private theorem isDuplicateWithinWindow_fst (e : MessageEnvelope) (s : BridgeState) :
    (isDuplicateWithinWindow e s).1 = inWindow e s := by
  unfold isDuplicateWithinWindow
  cases inWindow e s <;> rfl

/-- **The idempotency window is exact** after any calls on any topics, from empty buckets on. -/
theorem idempotency_window_exact {s : BridgeState} (hempty : ∀ topic, s.recentKeys topic = [])
    (envelopes : List MessageEnvelope) :
    WindowExact s envelopes ∧ ∀ e e' : MessageEnvelope, e.topic = e'.topic → e.idempotencyKey = [] →
      e'.idempotencyKey = [] → (dedupKey e = dedupKey e' ↔ e.source = e'.source ∧ e.sequence = e'.sequence) := by
  have hfollows := windowFollows_afterChecks hempty envelopes
  refine ⟨⟨fun topic => ?_, fun topic => ?_, fun e => ?_, recentKeys_own_topic hempty envelopes⟩,
    fun e e' => dedupKey_inj_iff⟩
  · rw [hfollows.bucket]
    exact (hfollows.fresh topic).nodup_rtake
  · rw [hfollows.bucket]
    exact length_rtake_le _ _
  · rw [isDuplicateWithinWindow_fst, inWindow, hfollows.bucket, List.contains_iff_mem]

/-- A window for one key. -/
def narrowWindow : BridgeState :=
  { config := { idempotencyWindowSize := 1 } }

/-- A command, the next one and the first one again, which the window has lost by then. -/
def repeatedLate : List MessageEnvelope :=
  [MessageCodec.stepCommand, { MessageCodec.stepCommand with sequence := 43 }, MessageCodec.stepCommand]

theorem idempotency_window_exact_stepCommand :
    WindowExact narrowWindow repeatedLate ∧
      (afterChecks narrowWindow repeatedLate).acceptedKeys (text "vehicle.command") = repeatedLate.map dedupKey :=
  ⟨(idempotency_window_exact (fun _ => rfl) repeatedLate).1, by decide⟩

end VehicleBridge
