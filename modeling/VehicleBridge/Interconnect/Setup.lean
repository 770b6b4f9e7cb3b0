import VehicleBridge.Interconnect.Direction
import VehicleBridge.Interconnect.PolicyDefaults

/-!
# The setup of a bridge

What a bridge is set up with, and which calls write it.  Publishing and receiving leave all of it alone
(`exec_setup`), and the calls that write it leave the counters alone (`exec_counters`).  A start that goes through gives
every part of it the value that belongs to its configuration (`start_stopped_cases`), and a reload that is accepted
gives new values to the configuration, its settings and what is recorded of it (`acceptReload_setup`).
-/

namespace VehicleBridge

open ByteText Transition

/-- What `Start` and a reload make of a configuration: default policy, default templates and indexes. -/
def effectiveConfig (config : BridgeConfig) : BridgeConfig :=
  (adoptConfig (normalizePolicyDefaults config) {}).config

/-! ### The effective configuration -/

theorem effectiveConfig_normalizePolicyDefaults (config : BridgeConfig) :
    effectiveConfig (normalizePolicyDefaults config) = effectiveConfig config := by
  unfold effectiveConfig
  rw [normalizePolicyDefaults_idem]

/-- The templates in force: those of the configuration, or the default ones. -/
def effectiveTemplates (templates : List PolicyRule) : List PolicyRule :=
  if templates.isEmpty then [controlRule, telemetryRule] else templates

private theorem effectiveTemplates_idem (templates : List PolicyRule) :
    effectiveTemplates (effectiveTemplates templates) = effectiveTemplates templates := by
  unfold effectiveTemplates
  split <;> rfl

theorem effectiveConfig_eq (config : BridgeConfig) :
    effectiveConfig config =
      { config with
        policyTable := {
          defaultPolicy := (normalizePolicyDefaults config).policyTable.defaultPolicy
          templateRules := effectiveTemplates config.policyTable.templateRules
          rules := config.policyTable.rules
          runtimeOverrides := config.policyTable.runtimeOverrides
          templateTopicRuleIndex := indexRules (effectiveTemplates config.policyTable.templateRules)
          topicRuleIndex := indexRules config.policyTable.rules
          overrideTopicRuleIndex := indexRules config.policyTable.runtimeOverrides } } := by
  have htemplates : populateDefaultTemplateRules (normalizePolicyDefaults config) =
      { normalizePolicyDefaults config with
        policyTable := { (normalizePolicyDefaults config).policyTable with
          templateRules := effectiveTemplates config.policyTable.templateRules } } := by
    have hsame : (normalizePolicyDefaults config).policyTable.templateRules = config.policyTable.templateRules := rfl
    unfold populateDefaultTemplateRules effectiveTemplates
    rw [hsame]
    split <;> rfl
  simp only [effectiveConfig, adoptConfig, rebuildPolicyIndex, htemplates]
  rfl

private theorem effectiveConfig_slaPolicy (config : BridgeConfig) :
    (effectiveConfig config).slaPolicy = config.slaPolicy := by
  rw [effectiveConfig_eq]

private theorem effectiveConfig_threadPool (config : BridgeConfig) :
    (effectiveConfig config).threadPool = config.threadPool := by
  rw [effectiveConfig_eq]

private theorem effectiveConfig_rules (config : BridgeConfig) :
    (effectiveConfig config).policyTable.rules = config.policyTable.rules := by
  rw [effectiveConfig_eq]

theorem effectiveConfig_defaultPolicy (config : BridgeConfig) :
    (effectiveConfig config).policyTable.defaultPolicy =
      (normalizePolicyDefaults config).policyTable.defaultPolicy := by
  rw [effectiveConfig_eq]

theorem effectiveConfig_idem (config : BridgeConfig) :
    effectiveConfig (effectiveConfig config) = effectiveConfig config := by
  have hdefault : (normalizePolicyDefaults (effectiveConfig config)).policyTable.defaultPolicy =
      (normalizePolicyDefaults config).policyTable.defaultPolicy := by
    rw [normalizePolicyDefaults_defaultPolicy, effectiveConfig_slaPolicy, effectiveConfig_rules,
      effectiveConfig_defaultPolicy, normalizePolicyDefaults_defaultPolicy, fillDefaults_replaceStock_idem]
  rw [effectiveConfig_eq (effectiveConfig config), hdefault, effectiveConfig_eq config]
  simp only [effectiveTemplates_idem]

/-! ### Publishing and receiving -/

/-- What publishing leaves alone: the setup, and what the inbound loops count. -/
def BridgeState.unpublished (s : BridgeState) : BridgeSetup × InboundPart :=
  (s.setup, s.inboundPart)

theorem PrepareStep.unpublished {env : PublishEnv} {t : TransportId} {e : MessageEnvelope} {s s' : BridgeState}
    {r : Except ErrorCode Outgoing} (h : PrepareStep env t e s r s') : s'.unpublished = s.unpublished := by
  cases h with
  | refused hearly => rcases refuseEarly_cases hearly with ⟨-, rfl⟩ | ⟨-, rfl⟩ | ⟨-, rfl⟩ <;> rfl
  | duplicate => rfl
  | noSlot => rw [afterSlot_frame, passWindow_frame]; rfl
  | ready => rw [afterSlot_frame, passWindow_frame]; rfl

section
variable {σ : Type*} {hashString : Bytes → UInt64} {net : Transports σ}

theorem publish_unpublished {env : PublishEnv} {t : TransportId} {e : MessageEnvelope} {s s' : BridgeState}
    {w w' : Wire σ} {ec : ErrorCode} (h : publish net env t e s w = some (ec, s', w')) :
    s'.unpublished = s.unpublished := by
  have hprepare := (preparePublish_step env t e s).unpublished
  rcases publish_cases h with ⟨-, rfl, -⟩ | ⟨out, s₁, -, rfl, hsend⟩
  · exact hprepare
  · refine Eq.trans ?_ hprepare
    rw [(sendOutgoing_step hsend).frame]
    rfl

/-- Neither a publish nor a round of an inbound loop. -/
def BridgeOp.Configures : BridgeOp → Prop
  | .start .. | .startFromProvider .. | .stop | .reload .. => True
  | .publish .. | .inbound .. => False

/-- **The frame**: publishing and receiving leave the setup alone. -/
theorem exec_setup {r r' : BridgeRun σ} {op : BridgeOp} (hop : ¬ op.Configures)
    (h : r.exec hashString net op = some r') : r'.bridge.setup = r.bridge.setup := by
  cases op with
  | start | startFromProvider | stop | reload => exact absurd trivial hop
  | publish origin env e =>
    obtain ⟨⟨ec, s', w'⟩, hpublish, rfl⟩ := Option.map_eq_some_iff.1 h
    rw [publishFrom_eq] at hpublish
    exact congrArg Prod.fst (publish_unpublished hpublish)
  | inbound t env routers received =>
    simp only [BridgeRun.exec] at h
    split at h
    · cases h
      rw [inboundLoop_eq]
      exact processInbound_setup env _ received r.bridge
    · cases h

/-! ### Configuring -/

/-- What configuring leaves alone: the counters of the traffic, but for the snapshots that a reload writes, and the
traces. -/
def BridgeState.counters (s : BridgeState) : TrafficCounters × TraceState :=
  ({ s.traffic with diagnosticSnapshotWriteCount := 0 }, s.trace)

private theorem start_counters (env : StartEnv) (config : BridgeConfig) (s : BridgeState) :
    (start hashString env config s).2.counters = s.counters := by
  have hprepare : (prepareStart hashString config s).counters = s.counters := by
    simp only [prepareStart, adoptConfig, rebuildPolicyIndex, noteFirstConfig]
    repeat' split
    all_goals rfl
  rcases start_cases hashString env config s with heq | heq | ⟨ec, running, heq⟩ <;> rw [heq]
  · exact hprepare
  · exact hprepare

private theorem reload_counters (nowMs : UInt64) (provider : Option ProviderReplies) (s : BridgeState) :
    (reloadConfigIfChanged hashString nowMs provider s).2.counters = s.counters := by
  rcases reloadConfigIfChanged_cases hashString nowMs provider s with
    ⟨-, ec, audit, writes, heq⟩ | ⟨p, -, -, -, heq⟩ | ⟨p, -, -, -, heq⟩ <;> rw [heq] <;> rfl

/-- **The frame**: configuring leaves the counters alone. -/
theorem exec_counters {r r' : BridgeRun σ} {op : BridgeOp} (h : r.exec hashString net op = some r')
    (hop : op.Configures) : r'.bridge.counters = r.bridge.counters := by
  cases op with
  | publish | inbound => exact hop.elim
  | start env config =>
    cases h
    exact start_counters env config r.bridge
  | startFromProvider env provider =>
    cases h
    rcases startFromProvider_cases hashString env provider r.bridge with ⟨ec, heq⟩ | ⟨p, -, -, heq⟩ <;> rw [heq]
    exact start_counters env p.config (noteProvider hashString p r.bridge)
  | stop =>
    cases h
    rfl
  | reload nowMs provider =>
    cases h
    exact reload_counters nowMs provider r.bridge

end

/-! ### Starting -/

/-- The configuration canary lets the configuration pass, and transports, worker pool and both loops come up. -/
structure StartSucceeds (env : StartEnv) (config : BridgeConfig) : Prop where
  canary : refusedByConfigCanary env.nowMs config = false
  vehicleToRobot : env.createVehicleToRobot = .ok
  robotToVehicle : env.createRobotToVehicle = .ok
  workers : startWorkerPool env config.threadPool = .ok
  vehicleLoop : loopEnqueued env.enqueueVehicleLoop = true
  robotLoop : loopEnqueued env.enqueueRobotLoop = true

/-- The source that `Start` takes down where none is known. -/
def sourceOrDirect (source : Bytes) : Bytes :=
  if source = [] then text "direct" else source

theorem refusedByConfigCanary_effectiveConfig (nowMs : UInt64) (config : BridgeConfig) :
    refusedByConfigCanary nowMs (effectiveConfig config) = refusedByConfigCanary nowMs config := by
  rw [effectiveConfig_eq]
  rfl

theorem transportTuning_effectiveConfig (config : BridgeConfig) :
    transportTuning (effectiveConfig config) = transportTuning config := by
  rw [effectiveConfig_eq]
  rfl

section
variable (hashString : Bytes → UInt64)

/-- What a start takes for the last known good configuration. -/
def firstKnownGood (config : BridgeConfig) (loaded : LoadedConfig) : LastKnownGood :=
  { config := normalizePolicyDefaults config
    version := loaded.version
    source := sourceOrDirect loaded.source
    signature := computePolicySignature hashString (normalizePolicyDefaults config).policyTable }

/-- The setup that `Start` gives a stopped bridge when it goes through. -/
def startedSetup (config : BridgeConfig) (s : BridgeState) : BridgeSetup :=
  { running := true
    config := effectiveConfig config
    settings := runtimeSettings config
    protocolMode := config.protocolMode
    tuning := transportTuning config
    loaded :=
      { source := sourceOrDirect s.loaded.source
        version := s.loaded.version
        signature := if s.lastKnownGood.version = 0 then (firstKnownGood hashString config s.loaded).signature
          else s.loaded.signature }
    lastKnownGood :=
      if s.lastKnownGood.version = 0 then firstKnownGood hashString config s.loaded else s.lastKnownGood }

/-- The first half of `Start` leaves the tuning to the second. -/
theorem prepareStart_setup (config : BridgeConfig) (s : BridgeState) :
    (prepareStart hashString config s).setup =
      { startedSetup hashString config s with running := s.running, tuning := s.tuning } := by
  simp only [prepareStart, noteFirstConfig, firstKnownGood, sourceOrDirect, effectiveConfig, adoptConfig,
    rebuildPolicyIndex, BridgeState.setup, startedSetup]
  by_cases hsource : s.loaded.source = [] <;> by_cases hversion : s.lastKnownGood.version = 0 <;>
    simp only [hsource, hversion, if_true, if_false] <;> rfl

/-- Transports, worker pool and loops come up, or the bridge stays as it was. -/
theorem launch_cases (env : StartEnv) {s : BridgeState} (hstopped : s.running = false)
    (hcanary : refusedByConfigCanary env.nowMs s.config = false) :
    (StartSucceeds env s.config ∧ launch env s = (.ok, { s with running := true })) ∨
      (¬ StartSucceeds env s.config ∧ ∃ ec, ec ≠ .ok ∧ launch env s = (ec, s)) := by
  have hback : stop { s with running := true } = s := by
    unfold stop
    rw [← hstopped]
  have hne : ∀ ec, loopEnqueued ec = false → ec ≠ .ok := by
    rintro ec h rfl
    cases h
  unfold launch
  rw [hback]
  split
  · next h => exact .inr ⟨fun hs => h hs.vehicleToRobot, _, h, rfl⟩
  next hv2r =>
  split
  · next h => exact .inr ⟨fun hs => h hs.robotToVehicle, _, h, rfl⟩
  next hr2v =>
  split
  · next h => exact .inr ⟨fun hs => h hs.workers, _, h, rfl⟩
  next hworkers =>
  split
  · next h => exact .inr ⟨fun hs => Bool.false_ne_true (h.symm.trans hs.vehicleLoop), _, hne _ h, rfl⟩
  next hvehicle =>
  split
  · next h => exact .inr ⟨fun hs => Bool.false_ne_true (h.symm.trans hs.robotLoop), _, hne _ h, rfl⟩
  next hrobot =>
    exact .inl ⟨⟨hcanary, not_not.1 hv2r, not_not.1 hr2v, not_not.1 hworkers, Bool.not_eq_false _ ▸ hvehicle,
      Bool.not_eq_false _ ▸ hrobot⟩, rfl⟩

private theorem startSucceeds_effectiveConfig (env : StartEnv) (config : BridgeConfig) :
    StartSucceeds env (effectiveConfig config) ↔ StartSucceeds env config := by
  constructor
  · rintro ⟨hcanary, hv2r, hr2v, hworkers, hvehicle, hrobot⟩
    rw [refusedByConfigCanary_effectiveConfig] at hcanary
    rw [effectiveConfig_threadPool] at hworkers
    exact ⟨hcanary, hv2r, hr2v, hworkers, hvehicle, hrobot⟩
  · rintro ⟨hcanary, hv2r, hr2v, hworkers, hvehicle, hrobot⟩
    rw [← refusedByConfigCanary_effectiveConfig] at hcanary
    rw [← effectiveConfig_threadPool] at hworkers
    exact ⟨hcanary, hv2r, hr2v, hworkers, hvehicle, hrobot⟩

/-- A start on a stopped bridge goes through, or ends with an error and a bridge that is still stopped: refused by the
canary, or with everything taken over. -/
theorem start_stopped_cases (env : StartEnv) (config : BridgeConfig) {s : BridgeState} (hstopped : s.running = false) :
    (StartSucceeds env config ∧ (start hashString env config s).1 = .ok ∧
        (start hashString env config s).2.setup = startedSetup hashString config s) ∨
      (¬ StartSucceeds env config ∧ (start hashString env config s).1 ≠ .ok ∧
        ((start hashString env config s).2 = canaryRollback (prepareStart hashString config s) ∨
          (start hashString env config s).2.setup =
            { startedSetup hashString config s with running := false })) := by
  have hconfig : (prepareStart hashString config s).config = effectiveConfig config :=
    congrArg BridgeSetup.config (prepareStart_setup hashString config s)
  have hrunning : (prepareStart hashString config s).running = false :=
    (congrArg BridgeSetup.running (prepareStart_setup hashString config s)).trans hstopped
  unfold start
  rw [if_neg (by rw [hstopped]; decide), hconfig]
  split
  · next hrefused =>
    rw [refusedByConfigCanary_effectiveConfig] at hrefused
    refine .inr ⟨fun h => ?_, nofun, .inl rfl⟩
    rw [h.canary] at hrefused
    cases hrefused
  · next hpassed =>
    let tuned := applyTransportTuning (effectiveConfig config) (prepareStart hashString config s)
    have htuned : tuned.config = effectiveConfig config := hconfig
    have hsetup : tuned.setup = { startedSetup hashString config s with running := false } := by
      have hprepared := prepareStart_setup hashString config s
      have htuning := transportTuning_effectiveConfig config
      calc tuned.setup
          = { (prepareStart hashString config s).setup with tuning := transportTuning (effectiveConfig config) } := rfl
        _ = _ := by
          rw [hprepared, htuning, ← hstopped]
          rfl
    have hpassed' : refusedByConfigCanary env.nowMs tuned.config = false :=
      htuned ▸ Bool.not_eq_true _ ▸ hpassed
    rcases launch_cases env (s := tuned) hrunning hpassed' with ⟨hsucceeds, hlaunch⟩ | ⟨hfails, ec, hne, hlaunch⟩
    · rw [hlaunch]
      rw [htuned, startSucceeds_effectiveConfig] at hsucceeds
      refine .inl ⟨hsucceeds, rfl, ?_⟩
      exact congrArg (fun setup => { setup with running := true }) hsetup
    · rw [hlaunch]
      rw [htuned, startSucceeds_effectiveConfig] at hfails
      exact .inr ⟨hfails, hne, .inr hsetup⟩

variable {hashString} in
theorem start_setup_of_ok {env : StartEnv} {config : BridgeConfig} {s : BridgeState} (hstopped : s.running = false)
    (hok : (start hashString env config s).1 = .ok) :
    (start hashString env config s).2.setup = startedSetup hashString config s := by
  rcases start_stopped_cases hashString env config hstopped with ⟨-, -, hsetup⟩ | ⟨-, hne, -⟩
  · exact hsetup
  · exact absurd hok hne

/-! ### Reloading -/

private theorem installLoaded_ok_iff (nowMs : UInt64) (p : ProviderReplies) (s : BridgeState) :
    (installLoaded hashString nowMs p s).1 = .ok ↔
      blockedByRiskGuard s.config (normalizePolicyDefaults p.config) = false ∧
        preservesLockedPolicy s.config (normalizePolicyDefaults p.config) = true ∧
          commitChecks hashString p s = true := by
  unfold installLoaded
  split
  · next h => simp [h]
  split
  · next h => simp [h]
  next hrisk hlock =>
  split
  · next h => simp [h, hrisk, hlock]
  · next h => simp [h, rejectedStatus_ne_ok]

/-- A reload of a new version returns `kOk` exactly when it is accepted. -/
theorem reload_ok_iff (nowMs : UInt64) {p : ProviderReplies} {s : BridgeState}
    (hversion : p.version ≠ s.loaded.version) :
    (reloadConfigIfChanged hashString nowMs (some p) s).1 = .ok ↔
      ReachesCommit p s ∧ commitChecks hashString p s = true := by
  have hreaches : ReachesCommit p s ∧ commitChecks hashString p s = true ↔
      p.reload = .ok ∧ p.load = .ok ∧ (installLoaded hashString nowMs p s).1 = .ok := by
    rw [installLoaded_ok_iff]
    exact ⟨fun h => ⟨h.1.reload, h.1.load, h.1.risk, h.1.lock, h.2⟩,
      fun h => ⟨⟨h.1, hversion, h.2.1, h.2.2.1, h.2.2.2.1⟩, h.2.2.2.2⟩⟩
  rw [hreaches]
  unfold reloadConfigIfChanged
  by_cases hreload : p.reload = .ok <;> by_cases hload : p.load = .ok <;> simp [hreload, hload, hversion]

theorem reload_eq_of_ok {nowMs : UInt64} {p : ProviderReplies} {s : BridgeState}
    (hversion : p.version ≠ s.loaded.version) (hok : (reloadConfigIfChanged hashString nowMs (some p) s).1 = .ok) :
    (reloadConfigIfChanged hashString nowMs (some p) s).2 = acceptReload hashString nowMs p s := by
  obtain ⟨hreaches, hchecks⟩ := (reload_ok_iff hashString nowMs hversion).1 hok
  rcases reloadConfigIfChanged_cases hashString nowMs (some p) s with
    ⟨hnot, -⟩ | ⟨q, hq, -, -, heq⟩ | ⟨q, hq, -, hbad, -⟩
  · exact absurd ⟨p, rfl, hreaches⟩ hnot
  · cases hq
    rw [heq]
  · cases hq
    exact absurd (hbad.symm.trans hchecks) Bool.false_ne_true

theorem acceptReload_setup (nowMs : UInt64) (p : ProviderReplies) (s : BridgeState) :
    (acceptReload hashString nowMs p s).setup =
      { s.setup with
        config := effectiveConfig p.config
        settings := runtimeSettings p.config
        loaded := nextLoaded hashString p
        lastKnownGood := { config := effectiveConfig p.config, version := p.version, source := p.source,
                           signature := (nextLoaded hashString p).signature } } := by
  rfl

theorem rejectReload_setup (p : ProviderReplies) (s : BridgeState) :
    (rejectReload hashString p s).setup = { s.setup with settings := runtimeSettings p.config } := by
  rfl

end

end VehicleBridge
