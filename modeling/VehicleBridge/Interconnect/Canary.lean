import VehicleBridge.Interconnect.Setup

/-!
# The canary

The canary settings are read by two gates: `Start` holds the clock against the percentage and refuses the whole
configuration, and `Publish` does the same for one message, where it first asks whether the message is in the segment
that a topic prefix and a channel single out.  The gate of `Start` knows of no segment.  So a canary for a segment lets
all messages outside of it pass, and keeps the bridge from starting whenever the clock says so
(`canary_only_on_segment_iff`).
-/

namespace VehicleBridge

open ByteText

/-! ### The gate of `Start` -/

/-- `Start` would get as far as the gate and find it closed. -/
def refusedStart (env : StartEnv) (config : BridgeConfig) (s : BridgeState) : Bool :=
  !s.running && refusedByConfigCanary env.nowMs config

section
variable (hashString : Bytes → UInt64)

theorem prepareStart_config (config : BridgeConfig) (s : BridgeState) :
    (prepareStart hashString config s).config = effectiveConfig config :=
  congrArg BridgeSetup.config (prepareStart_setup hashString config s)

private theorem prepareStart_audit (config : BridgeConfig) (s : BridgeState) :
    (prepareStart hashString config s).audit = s.audit := by
  simp only [prepareStart, adoptConfig, rebuildPolicyIndex, noteFirstConfig]
  repeat' split
  all_goals rfl

theorem start_of_refused {env : StartEnv} {config : BridgeConfig} {s : BridgeState}
    (h : refusedStart env config s = true) :
    start hashString env config s = (.wouldBlock, canaryRollback (prepareStart hashString config s)) := by
  obtain ⟨hstopped, hrefused⟩ := (Bool.and_eq_true _ _).mp h
  unfold start
  rw [if_neg (by simpa using hstopped), prepareStart_config, refusedByConfigCanary_effectiveConfig, if_pos hrefused]

/-- A start that the gate does not stop leaves the audit record alone. -/
theorem start_audit_of_passed {env : StartEnv} {config : BridgeConfig} {s : BridgeState}
    (h : refusedStart env config s = false) : (start hashString env config s).2.audit = s.audit := by
  unfold start
  split
  · rfl
  next hstopped =>
  rw [prepareStart_config, refusedByConfigCanary_effectiveConfig]
  split
  · next hrefused =>
    simp [refusedStart, hstopped, hrefused] at h
  · rw [launch_frame]
    exact prepareStart_audit hashString config s

/-- The start was refused by the gate: the last known good configuration is back, and the rollback is counted. -/
def StartRefused (env : StartEnv) (config : BridgeConfig) (s : BridgeState) : Prop :=
  start hashString env config s = (.wouldBlock, canaryRollback (prepareStart hashString config s))

private theorem startRefused_iff (env : StartEnv) (config : BridgeConfig) (s : BridgeState) :
    StartRefused hashString env config s ↔ refusedStart env config s = true := by
  refine ⟨fun h => ?_, start_of_refused hashString⟩
  by_contra hpassed
  have hkept := start_audit_of_passed hashString (Bool.not_eq_true _ ▸ hpassed)
  have hcount : (start hashString env config s).2.audit.rollbackCount = s.audit.rollbackCount + 1 := by
    rw [h, ← prepareStart_audit hashString config s]
    rfl
  rw [hkept] at hcount
  exact absurd hcount (Nat.ne_of_lt (Nat.lt_succ_self _))

private theorem refusedStart_eq_false_iff {env : StartEnv} {config : BridgeConfig} {s : BridgeState}
    (henabled : config.enableConfigCanary = true) :
    refusedStart env config s = false ↔
      s.running = true ∨ config.configCanaryPercent ≥ 100 ∨
        (env.nowMs % 100).toUInt32 < config.configCanaryPercent := by
  simp only [refusedStart, refusedByConfigCanary, canaryGate, henabled, Bool.true_and, Bool.and_eq_false_iff,
    Bool.not_eq_false', decide_eq_false_iff_not, decide_eq_true_iff, UInt32.not_lt, ge_iff_le]

end

/-! ### The gate of `Publish` -/

/-- The message was refused by the gate. -/
def PublishSkipped (env : PublishEnv) (e : MessageEnvelope) (s : BridgeState) : Prop :=
  refuseEarly env e s = some (.wouldBlock, countCanarySkip s)

private theorem publishSkipped_iff (env : PublishEnv) (e : MessageEnvelope) (s : BridgeState) :
    PublishSkipped env e s ↔ s.running = true ∧ isEnvelopeValidForPublish e = true ∧ env.authenticate e = true ∧
      shouldApplyCanaryForEnvelope env.canaryNowMs s.config e = false := by
  unfold PublishSkipped refuseEarly
  cases s.running with
  | false => simp
  | true =>
    cases isEnvelopeValidForPublish e with
    | false => simp
    | true =>
      cases env.authenticate e with
      | false => simp
      | true => cases shouldApplyCanaryForEnvelope env.canaryNowMs s.config e <;> simp

theorem publish_of_skipped {σ : Type*} (net : Transports σ) {env : PublishEnv} {t : TransportId} {e : MessageEnvelope}
    {s : BridgeState} (w : Wire σ) (h : PublishSkipped env e s) :
    publish net env t e s w = some (.wouldBlock, countCanarySkip s, w) := by
  unfold PublishSkipped at h
  simp only [publish, preparePublish, h]

/-- The canary is on, for messages on topics with a prefix or on a channel. -/
structure SegmentCanary (config : BridgeConfig) : Prop where
  enabled : config.enableConfigCanary = true
  segment : config.configCanaryTopicPrefix ≠ [] ∨ config.configCanaryChannel ≥ 0

/-- The topic lacks the prefix, or the channel is not the one that is set. -/
def OutsideSegment (config : BridgeConfig) (e : MessageEnvelope) : Prop :=
  startsWith e.topic config.configCanaryTopicPrefix = false ∨
    (config.configCanaryChannel ≥ 0 ∧ e.channel.value.toNat ≠ config.configCanaryChannel.toInt)

/-- Two configurations agree in what the canary reads. -/
structure SameCanary (config config' : BridgeConfig) : Prop where
  enabled : config'.enableConfigCanary = config.enableConfigCanary
  percent : config'.configCanaryPercent = config.configCanaryPercent
  topicPrefix : config'.configCanaryTopicPrefix = config.configCanaryTopicPrefix
  channel : config'.configCanaryChannel = config.configCanaryChannel

/-- A bridge that has been started runs on the canary settings it was started with. -/
theorem start_sameCanary (hashString : Bytes → UInt64) {env : StartEnv} {config : BridgeConfig} {s : BridgeState}
    (hstopped : s.running = false) (hok : (start hashString env config s).1 = .ok) :
    SameCanary config (start hashString env config s).2.config := by
  have hconfig : (start hashString env config s).2.config = effectiveConfig config :=
    congrArg BridgeSetup.config (start_setup_of_ok hstopped hok)
  rw [hconfig, effectiveConfig_eq]
  exact ⟨rfl, rfl, rfl, rfl⟩

private theorem shouldApplyCanary_of_outside {config : BridgeConfig} {e : MessageEnvelope} (nowMs : UInt64)
    (h : OutsideSegment config e) : shouldApplyCanaryForEnvelope nowMs config e = true := by
  unfold shouldApplyCanaryForEnvelope
  split
  · rfl
  split
  · rfl
  next hprefix =>
  split
  · rfl
  next hchannel =>
  rcases h with hlacks | hother
  · have hset : config.configCanaryTopicPrefix ≠ [] := by
      intro hnil
      rw [hnil] at hlacks
      simp [startsWith] at hlacks
    exact absurd ⟨hset, hlacks⟩ hprefix
  · exact absurd hother hchannel

/-- The gate never stops a message from outside the segment. -/
private theorem not_publishSkipped_of_outside {config : BridgeConfig} {s : BridgeState} {e : MessageEnvelope}
    (env : PublishEnv) (hsame : SameCanary config s.config) (h : OutsideSegment config e) :
    ¬ PublishSkipped env e s := by
  have houtside : OutsideSegment s.config e := by
    unfold OutsideSegment
    rw [hsame.topicPrefix, hsame.channel]
    exact h
  rw [publishSkipped_iff, shouldApplyCanary_of_outside _ houtside]
  simp

/-! ### Both gates -/

/-- The canary of a configuration touches its segment only: it lets `Start` pass, and on every bridge that runs with
its settings the valid messages outside of the segment. -/
structure OnlyOnSegment (hashString : Bytes → UInt64) (env : StartEnv) (config : BridgeConfig) (s : BridgeState) :
    Prop where
  start : ¬ StartRefused hashString env config s
  publish : ∀ (penv : PublishEnv) (e : MessageEnvelope) (s' : BridgeState), SameCanary config s'.config →
    isEnvelopeValidForPublish e = true → OutsideSegment config e → ¬ PublishSkipped penv e s'

/-- **A canary for a segment** touches its segment only if and only if `Start` finds its gate open, which it asks for
the whole bridge: on a full percentage, or at a moment of the clock below it, or not at all on a bridge that runs. -/
theorem canary_only_on_segment_iff (hashString : Bytes → UInt64) (env : StartEnv) {config : BridgeConfig}
    (s : BridgeState) (hcanary : SegmentCanary config) :
    OnlyOnSegment hashString env config s ↔
      s.running = true ∨ config.configCanaryPercent ≥ 100 ∨
        (env.nowMs % 100).toUInt32 < config.configCanaryPercent := by
  rw [← refusedStart_eq_false_iff hcanary.enabled, ← Bool.not_eq_true, ← startRefused_iff hashString]
  refine ⟨OnlyOnSegment.start, fun hpassed => ⟨hpassed, ?_⟩⟩
  intro penv e s' hsame _ houtside
  exact not_publishSkipped_of_outside penv hsame houtside

/-- A canary of no percent for control messages. -/
def controlCanary : BridgeConfig :=
  { plainConfig with
    enableConfigCanary := true
    configCanaryPercent := 0
    configCanaryTopicPrefix := text "vehicle.control"
    configCanaryChannel := 0 }

theorem canary_only_on_segment_full :
    OnlyOnSegment (fun _ => 0) {} { controlCanary with configCanaryPercent := 100 } {} ↔
      ({} : BridgeState).running = true ∨ (100 : UInt32) ≥ 100 ∨ ((0 : UInt64) % 100).toUInt32 < 100 :=
  canary_only_on_segment_iff _ {} {} ⟨rfl, .inl (by decide)⟩

/-- With that canary the bridge does not start at all. -/
theorem canary_not_only_on_segment : ¬ ∀ (hashString : Bytes → UInt64) (env : StartEnv) (config : BridgeConfig)
    (s : BridgeState), SegmentCanary config → OnlyOnSegment hashString env config s := by
  intro hall
  have hstart := (hall (fun _ => 0) {} controlCanary {} ⟨rfl, .inl (by decide)⟩).start
  rw [startRefused_iff] at hstart
  exact hstart (by decide)

end VehicleBridge
