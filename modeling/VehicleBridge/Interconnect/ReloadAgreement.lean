import VehicleBridge.Interconnect.Setup

/-!
# A reload and a start with the same configuration

A reload takes over a configuration as a start does, but for the decoding mode and the transport tuning, which stay
those of the start before (`reload_agrees_iff`).  Whether it is accepted depends on the signature of the last known
good policies, which a start with a provider computes before the default policy is normalised and a reload after
(`reload_accepted_iff`).
-/

namespace VehicleBridge

open ByteText Transition

/-- The configuration and the runtime settings derived from it. -/
structure SameSettings (s s' : BridgeState) : Prop where
  config : s.config = s'.config
  settings : s.settings = s'.settings
  protocolMode : s.protocolMode = s'.protocolMode
  tuning : s.tuning = s'.tuning

def BridgeOp.Starts : BridgeOp → Prop
  | .start .. | .startFromProvider .. => True
  | .stop | .reload .. | .publish .. | .inbound .. => False

/-! ### What a reload leaves alone -/

section
variable {σ : Type*} {hashString : Bytes → UInt64} {net : Transports σ}

/-- The members that only a start writes. -/
structure StartKept (s s' : BridgeSetup) : Prop where
  protocolMode : s'.protocolMode = s.protocolMode
  tuning : s'.tuning = s.tuning

private theorem reload_startKept (nowMs : UInt64) (provider : Option ProviderReplies) (s : BridgeState) :
    StartKept s.setup (reloadConfigIfChanged hashString nowMs provider s).2.setup := by
  rcases reloadConfigIfChanged_cases hashString nowMs provider s with
    ⟨-, ec, audit, writes, heq⟩ | ⟨p, -, -, -, heq⟩ | ⟨p, -, -, -, heq⟩
  · rw [heq]
    exact ⟨rfl, rfl⟩
  · rw [heq]
    exact ⟨rfl, rfl⟩
  · rw [heq]
    exact ⟨rfl, rfl⟩

private theorem exec_startKept {r r' : BridgeRun σ} {op : BridgeOp} (hop : ¬ op.Starts)
    (h : r.exec hashString net op = some r') : StartKept r.bridge.setup r'.bridge.setup := by
  cases op with
  | start | startFromProvider => exact absurd trivial hop
  | stop =>
    cases h
    exact ⟨rfl, rfl⟩
  | reload nowMs provider =>
    cases h
    exact reload_startKept nowMs provider r.bridge
  | publish | inbound =>
    rw [exec_setup (by exact not_false) h]
    exact ⟨rfl, rfl⟩

private theorem run_startKept {r r' : BridgeRun σ} {ops : List BridgeOp}
    (hrun : Run (fun r op r' => r.exec hashString net op = some r') r ops r') (hops : ∀ op ∈ ops, ¬ op.Starts) :
    StartKept r.bridge.setup r'.bridge.setup := by
  refine hrun.invariant_of_labels (I := fun v => StartKept r.bridge.setup v.bridge.setup)
    (fun v op v' hop hv hstep => ?_) hops ⟨rfl, rfl⟩
  have hkept := exec_startKept hop hstep
  exact ⟨hkept.protocolMode.trans hv.protocolMode, hkept.tuning.trans hv.tuning⟩

/-- **Reload and Start.**  A stopped bridge is started with `c0`, runs, and accepts a reload of the configuration that
another one is started with: both agree in every setting if and only if the configurations agree in the decoding mode
and in what the transport tuning is derived from. -/
theorem reload_agrees_iff (net : Transports σ) {env env' : StartEnv} {c0 : BridgeConfig} {s s' : BridgeState}
    {w : Wire σ} {ops : List BridgeOp} {r : BridgeRun σ} {nowMs : UInt64} {p : ProviderReplies}
    (hs : s.running = false) (hs' : s'.running = false) (hstart : (start hashString env c0 s).1 = .ok)
    (hrun : Run (fun r op r' => r.exec hashString net op = some r')
      { bridge := (start hashString env c0 s).2, wire := w } ops r) (hops : ∀ op ∈ ops, ¬ op.Starts)
    (hversion : p.version ≠ r.bridge.loaded.version)
    (hreload : (reloadConfigIfChanged hashString nowMs (some p) r.bridge).1 = .ok)
    (hfresh : (start hashString env' p.config s').1 = .ok) :
    SameSettings (reloadConfigIfChanged hashString nowMs (some p) r.bridge).2
        (start hashString env' p.config s').2 ↔
      c0.protocolMode = p.config.protocolMode ∧ transportTuning c0 = transportTuning p.config := by
  have hstarted := start_setup_of_ok hs hstart
  have hnew := start_setup_of_ok hs' hfresh
  have hkept := run_startKept hrun hops
  rw [hstarted] at hkept
  have haccepted : (reloadConfigIfChanged hashString nowMs (some p) r.bridge).2 =
      acceptReload hashString nowMs p r.bridge := reload_eq_of_ok hashString hversion hreload
  rw [haccepted]
  have hmode : (acceptReload hashString nowMs p r.bridge).protocolMode = c0.protocolMode := hkept.protocolMode
  have htuning : (acceptReload hashString nowMs p r.bridge).tuning = transportTuning c0 := hkept.tuning
  have hmode' : (start hashString env' p.config s').2.protocolMode = p.config.protocolMode :=
    congrArg BridgeSetup.protocolMode hnew
  have htuning' : (start hashString env' p.config s').2.tuning = transportTuning p.config :=
    congrArg BridgeSetup.tuning hnew
  constructor
  · intro hsame
    exact ⟨hmode.symm.trans (hsame.protocolMode.trans hmode'), htuning.symm.trans (hsame.tuning.trans htuning')⟩
  · rintro ⟨hmodes, htunings⟩
    exact ⟨(congrArg BridgeSetup.config hnew).symm, (congrArg BridgeSetup.settings hnew).symm,
      hmode.trans (hmodes.trans hmode'.symm), htuning.trans (htunings.trans htuning'.symm)⟩

end

/-- A provider's version 1 of a configuration. -/
def firstVersion (config : BridgeConfig) : ProviderReplies :=
  { version := 1, config, source := text "static://first" }

/-- The plain configuration, reloaded by a bridge that runs it. -/
theorem reload_agrees_iff_plain :
    SameSettings (reloadConfigIfChanged (fun _ => 0) 0 (some (firstVersion plainConfig)) plainBridge).2
        (start (fun _ => 0) {} plainConfig {}).2 ↔
      plainConfig.protocolMode = plainConfig.protocolMode ∧
        transportTuning plainConfig = transportTuning plainConfig := by
  have hidle : BridgeState.running {} = false := rfl
  have hstart : (start (fun _ => 0) {} plainConfig {}).1 = .ok := rfl
  have hrun : Run (fun r op r' => BridgeRun.exec (fun _ => 0) scriptedTransports r op = some r')
      { bridge := (start (fun _ => 0) {} plainConfig {}).2, wire := { state := [] } } [] _ := .refl _
  exact reload_agrees_iff scriptedTransports hidle hidle hstart hrun (by simp) (by decide) rfl hstart

/-- A bridge with the plain configuration reloads one in the compact format, and goes on decoding the legacy one. -/
theorem reload_not_agrees : ¬ ∀ (hashString : Bytes → UInt64) (env env' : StartEnv) (c0 : BridgeConfig)
    (nowMs : UInt64) (p : ProviderReplies), (start hashString env c0 {}).1 = .ok →
      p.version ≠ (start hashString env c0 {}).2.loaded.version →
      (reloadConfigIfChanged hashString nowMs (some p) (start hashString env c0 {}).2).1 = .ok →
      (start hashString env' p.config {}).1 = .ok →
        SameSettings (reloadConfigIfChanged hashString nowMs (some p) (start hashString env c0 {}).2).2
          (start hashString env' p.config {}).2 := by
  intro hall
  have hsame := hall (fun _ => 0) {} {} plainConfig 0 (firstVersion { plainConfig with protocolMode := .compact })
    rfl (by decide) rfl rfl
  have hmode := hsame.protocolMode
  revert hmode
  decide

/-! ### The signatures -/

/-- A reload that returned `kOk` and took down the version and the source of the provider. -/
structure TakenOver (p : ProviderReplies) (result : ErrorCode × BridgeState) : Prop where
  ok : result.1 = .ok
  version : result.2.loaded.version = p.version
  source : result.2.loaded.source = p.source

section
variable (hashString : Bytes → UInt64)

private theorem normalizePolicyDefaults_policyTable_congr {c c' : BridgeConfig}
    (htable : c'.policyTable = c.policyTable) (hsla : c'.slaPolicy = c.slaPolicy) :
    (normalizePolicyDefaults c').policyTable = (normalizePolicyDefaults c).policyTable := by
  rw [normalizePolicyDefaults_eq, normalizePolicyDefaults_eq, htable, hsla]

private theorem preservesLockedPolicy_of_eq {current next : BridgeConfig}
    (h : next.policyTable.defaultPolicy = current.policyTable.defaultPolicy) :
    preservesLockedPolicy current next = true := by
  simp [preservesLockedPolicy, h]

/-- What a start with a provider leaves that a reload looks at. -/
structure ProviderStarted (p : ProviderReplies) (s s' : BridgeState) : Prop where
  config : s'.config = if s.running then s.config else effectiveConfig p.config
  version : s'.loaded.version = p.version
  signature : s'.lastKnownGood.signature =
    if s.running = false ∧ p.version = 0 then
      computePolicySignature hashString (normalizePolicyDefaults p.config).policyTable
    else computePolicySignature hashString p.config.policyTable

private theorem startFromProvider_started {env : StartEnv} {p : ProviderReplies} {s : BridgeState}
    (hok : (startFromProvider hashString env (some p) s).1 = .ok) :
    ProviderStarted hashString p s (startFromProvider hashString env (some p) s).2 := by
  have hload : p.load = .ok := by
    by_contra hne
    rw [startFromProvider_of_not_loaded hashString env s hne] at hok
    exact hne hok
  rw [startFromProvider_of_loaded hashString env s hload] at hok ⊢
  by_cases hrunning : s.running = true
  · rw [start_of_running hashString env p.config (s := noteProvider hashString p s) hrunning]
    exact ⟨(if_pos hrunning).symm, rfl, (if_neg (by simp [hrunning])).symm⟩
  · have hstopped : s.running = false := Bool.not_eq_true _ ▸ hrunning
    have hsetup := start_setup_of_ok (s := noteProvider hashString p s) hstopped hok
    refine ⟨?_, congrArg (·.loaded.version) hsetup, ?_⟩
    · rw [if_neg hrunning]
      exact congrArg BridgeSetup.config hsetup
    · have hgood := congrArg (·.lastKnownGood.signature) hsetup
      refine hgood.trans ?_
      simp only [startedSetup, noteProvider, firstKnownGood, hstopped, true_and]
      split <;> rfl

/-- **Unchanged policies.**  A start with a provider returned `kOk`, and the provider now reports another version with
the same policies, which is valid and passes the risk guard.  The reload is accepted if and only if the policy lock
of a bridge that ran before lets it pass, and the signature of the policies as loaded is zero or that of the
normalised ones, unless the start was one of a stopped bridge with version zero. -/
theorem reload_accepted_iff {env : StartEnv} {p p' : ProviderReplies} {s : BridgeState} (nowMs : UInt64)
    (hok : (startFromProvider hashString env (some p) s).1 = .ok)
    (htable : p'.config.policyTable = p.config.policyTable) (hsla : p'.config.slaPolicy = p.config.slaPolicy)
    (hvalid : configValid (effectiveConfig p'.config) = true)
    (hrisk : blockedByRiskGuard (startFromProvider hashString env (some p) s).2.config
      (normalizePolicyDefaults p'.config) = false)
    (hreload : p'.reload = .ok) (hload : p'.load = .ok) (hversion : p'.version ≠ p.version) :
    TakenOver p' (reloadConfigIfChanged hashString nowMs (some p') (startFromProvider hashString env (some p) s).2) ↔
      (s.running = true → preservesLockedPolicy s.config (normalizePolicyDefaults p'.config) = true) ∧
        (computePolicySignature hashString p.config.policyTable = 0 ∨
          computePolicySignature hashString (normalizePolicyDefaults p.config).policyTable =
            computePolicySignature hashString p.config.policyTable ∨
          (s.running = false ∧ p.version = 0)) := by
  have hstarted := startFromProvider_started hashString hok
  generalize (startFromProvider hashString env (some p) s).2 = started at hstarted hrisk ⊢
  have hnew : p'.version ≠ started.loaded.version := hstarted.version ▸ hversion
  have hnormalized := normalizePolicyDefaults_policyTable_congr htable hsla
  have htaken : TakenOver p' (reloadConfigIfChanged hashString nowMs (some p') started) ↔
      preservesLockedPolicy started.config (normalizePolicyDefaults p'.config) = true ∧
        signatureOk started.lastKnownGood (nextLoaded hashString p').signature = true := by
    have hchecks : commitChecks hashString p' started =
        signatureOk started.lastKnownGood (nextLoaded hashString p').signature := by
      have hcommit : commitChecks hashString p' started = (configValid (effectiveConfig p'.config) &&
          signatureOk started.lastKnownGood (nextLoaded hashString p').signature) := rfl
      rw [hcommit, hvalid, Bool.true_and]
    rw [← hchecks]
    constructor
    · intro h
      obtain ⟨hreaches, hcommit⟩ := (reload_ok_iff hashString nowMs hnew).1 h.ok
      exact ⟨hreaches.lock, hcommit⟩
    · rintro ⟨hlock, hcommit⟩
      have hresult := (reload_ok_iff hashString nowMs hnew).2 ⟨⟨hreload, hnew, hload, hrisk, hlock⟩, hcommit⟩
      refine ⟨hresult, ?_, ?_⟩ <;> rw [reload_eq_of_ok hashString hnew hresult] <;> rfl
  have hlock : preservesLockedPolicy started.config (normalizePolicyDefaults p'.config) = true ↔
      (s.running = true → preservesLockedPolicy s.config (normalizePolicyDefaults p'.config) = true) := by
    rw [hstarted.config]
    split
    · next hrunning => simp [hrunning]
    · next hstopped =>
      refine iff_of_true (preservesLockedPolicy_of_eq ?_) fun hrunning => absurd hrunning hstopped
      rw [effectiveConfig_eq, hnormalized]
  have hsignature : signatureOk started.lastKnownGood (nextLoaded hashString p').signature = true ↔
      computePolicySignature hashString p.config.policyTable = 0 ∨
        computePolicySignature hashString (normalizePolicyDefaults p.config).policyTable =
          computePolicySignature hashString p.config.policyTable ∨ (s.running = false ∧ p.version = 0) := by
    simp only [signatureOk, nextLoaded, hnormalized, hstarted.signature, Bool.or_eq_true, decide_eq_true_iff]
    split
    · next hfirst => simp [hfirst]
    · next hlater => simp [hlater]
  rw [htaken, hlock, hsignature]

end

/-- A configuration whose `sla_policy` has a retry budget, which the stock default policy takes over. -/
def retryConfig : BridgeConfig :=
  { vehicleToRobotEndpoint := { name := text "reload_v2r" }
    robotToVehicleEndpoint := { name := text "reload_r2v" }
    threadPool := { workerCount := 1, queueCapacity := 4 }
    slaPolicy := { retryBudget := { maxRetries := 1, initialBackoffMs := 5, maxBackoffMs := 10 } } }

/-- A second version of a configuration. -/
def secondVersion (config : BridgeConfig) : ProviderReplies :=
  { firstVersion config with version := 2 }

/-- The plain configuration, whose normalisation changes nothing. -/
theorem reload_accepted_iff_plain :
    TakenOver (secondVersion plainConfig) (reloadConfigIfChanged (fun _ => 0) 0 (some (secondVersion plainConfig))
        (startFromProvider (fun _ => 0) {} (some (firstVersion plainConfig)) {}).2) ↔
      (({} : BridgeState).running = true →
          preservesLockedPolicy ({} : BridgeState).config (normalizePolicyDefaults plainConfig) = true) ∧
        (computePolicySignature (fun _ => 0) plainConfig.policyTable = 0 ∨
          computePolicySignature (fun _ => 0) (normalizePolicyDefaults plainConfig).policyTable =
            computePolicySignature (fun _ => 0) plainConfig.policyTable ∨
          (({} : BridgeState).running = false ∧ (1 : UInt64) = 0)) := by
  have hok : (startFromProvider (fun _ => 0) {} (some (firstVersion plainConfig)) {}).1 = .ok := rfl
  exact reload_accepted_iff (fun _ => 0) 0 hok rfl rfl (by decide) (by decide) rfl rfl (by decide)

/-- A bridge started with `retryConfig` refuses the same configuration with another receive priority. -/
theorem reload_not_accepted : ¬ ∀ (hashString : Bytes → UInt64) (env : StartEnv) (p p' : ProviderReplies)
    (nowMs : UInt64), (startFromProvider hashString env (some p) {}).1 = .ok →
      p'.config.policyTable = p.config.policyTable → p'.config.slaPolicy = p.config.slaPolicy →
      configValid (effectiveConfig p'.config) = true →
      blockedByRiskGuard (startFromProvider hashString env (some p) {}).2.config
        (normalizePolicyDefaults p'.config) = false →
      p'.reload = .ok → p'.load = .ok → p'.version ≠ p.version →
        TakenOver p' (reloadConfigIfChanged hashString nowMs (some p')
          (startFromProvider hashString env (some p) {}).2) := by
  intro hall
  have htaken := hall (fun _ => 0) {} (firstVersion retryConfig)
    (secondVersion { retryConfig with receivePriority := 3 }) 0 rfl rfl rfl (by decide) (by decide)
    rfl rfl (by decide)
  have hok := htaken.ok
  revert hok
  decide

end VehicleBridge
