import VehicleBridge.Interconnect.PolicyResolution

/-!
# Starting and stopping a bridge

`Start` adopts a configuration, derives the members that the rest of the bridge reads, passes the configuration
canary and brings up the transports and the worker pool.  What these answer is given by a `StartEnv`.
-/

namespace VehicleBridge

open ByteText

/-- The results of the calls that one `Start` makes, and the clock it reads. -/
structure StartEnv where
  nowMs : UInt64 := 0
  createVehicleToRobot : ErrorCode := .ok
  createRobotToVehicle : ErrorCode := .ok
  startWorkers : ErrorCode := .ok
  enqueueVehicleLoop : ErrorCode := .ok
  enqueueRobotLoop : ErrorCode := .ok
  deriving DecidableEq, Repr

/-- The answers of a configuration provider to the calls of one `Start` or one reload. -/
structure ProviderReplies where
  reload : ErrorCode := .ok
  version : UInt64
  load : ErrorCode := .ok
  config : BridgeConfig
  source : Bytes

/-- The settings derived from a configuration, a zero interval standing for its default. -/
def runtimeSettings (config : BridgeConfig) : RuntimeSettings :=
  { traceSampleRatePercent := min config.traceSampleRatePercent 100
    traceSampleIntervalMs :=
      if config.traceSampleIntervalMs = 0 then kTraceIdSampleIntervalMsDefault else config.traceSampleIntervalMs
    slaViolationSampleIntervalMs :=
      if config.slaViolationSampleIntervalMs = 0 then kSlaViolationSampleIntervalMsDefault
      else config.slaViolationSampleIntervalMs
    diagnosticsReportIntervalMs :=
      if config.diagnosticsReportIntervalMs = 0 then 1000 else config.diagnosticsReportIntervalMs
    enableDiagnosticsReporting := config.enableDiagnosticsReporting }

def transportTuning (config : BridgeConfig) : TransportTuning :=
  { flowLimitVehicle := config.vehicleToRobotEndpoint.flowLimitInflight
    flowLimitRobot := config.robotToVehicleEndpoint.flowLimitInflight
    highPriorityThresholdVehicle := config.vehicleToRobotEndpoint.highPriorityThreshold
    highPriorityThresholdRobot := config.robotToVehicleEndpoint.highPriorityThreshold
    failoverFromVehicleToRobotEnabled := !config.additionalEndpoints.isEmpty
    failoverFromRobotToVehicleEnabled := !config.additionalEndpoints.isEmpty }

/-- `ApplyTransportTuning`. -/
def applyTransportTuning (config : BridgeConfig) (s : BridgeState) : BridgeState :=
  { s with tuning := transportTuning config, inflight := {} }

/-- The steps common to `Start` and a reload: take over a configuration and rebuild what is derived from it. -/
def adoptConfig (config : BridgeConfig) (s : BridgeState) : BridgeState :=
  rebuildPolicyIndex { s with config := populateDefaultTemplateRules config, settings := runtimeSettings config }

def stop (s : BridgeState) : BridgeState :=
  { s with running := false }

/-- `NowUnixMs() % 100U` against a percentage. -/
def canaryGate (nowMs : UInt64) (percent : UInt32) : Bool :=
  decide ((nowMs % 100).toUInt32 < percent)

def refusedByConfigCanary (nowMs : UInt64) (config : BridgeConfig) : Bool :=
  config.enableConfigCanary && decide (config.configCanaryPercent < 100) &&
    !canaryGate nowMs config.configCanaryPercent

/-- What `Start` leaves behind when the configuration canary refuses. -/
def canaryRollback (s : BridgeState) : BridgeState :=
  { s with
    config := s.lastKnownGood.config
    loaded := { source := s.lastKnownGood.source, version := s.lastKnownGood.version,
                signature := s.lastKnownGood.signature }
    audit := { s.audit with
      rollbackCount := s.audit.rollbackCount + 1
      failCount := s.audit.failCount + 1
      lastStatusCode := ErrorCode.wouldBlock.value } }

/-- `worker_pool_.Start`, which refuses an empty pool or queue before it starts anything. -/
def startWorkerPool (env : StartEnv) (config : ThreadConfig) : ErrorCode :=
  if config.workerCount = 0 ∨ config.queueCapacity = 0 then .invalidParam else env.startWorkers

/-- The results of `Enqueue` that `Start` takes for a loop that is being served. -/
def loopEnqueued (ec : ErrorCode) : Bool :=
  ec = .ok ∨ ec = .threadTaskRejected

/-- The second half of `Start`: transports, worker pool and the two inbound loops. -/
def launch (env : StartEnv) (s : BridgeState) : ErrorCode × BridgeState :=
  if env.createVehicleToRobot ≠ .ok then (env.createVehicleToRobot, s)
  else if env.createRobotToVehicle ≠ .ok then (env.createRobotToVehicle, s)
  else if startWorkerPool env s.config.threadPool ≠ .ok then (startWorkerPool env s.config.threadPool, s)
  -- the loops are enqueued on a bridge that runs already
  else if loopEnqueued env.enqueueVehicleLoop = false then (env.enqueueVehicleLoop, stop { s with running := true })
  else if loopEnqueued env.enqueueRobotLoop = false then (env.enqueueRobotLoop, stop { s with running := true })
  else (.ok, { s with running := true })

section
-- `std::hash<std::string>`
variable (hashString : Bytes → UInt64)

/-- A bridge that has never had a good configuration takes the one it is started with for that. -/
def noteFirstConfig (s : BridgeState) : BridgeState :=
  if s.lastKnownGood.version = 0 then
    let signature := computePolicySignature hashString s.config.policyTable
    { s with
      lastKnownGood := { config := s.config, version := s.loaded.version, source := s.loaded.source, signature }
      loaded := { s.loaded with signature } }
  else s

/-- The first half of `Start`, up to the configuration canary. -/
def prepareStart (config : BridgeConfig) (s : BridgeState) : BridgeState :=
  let s := if s.loaded.source = [] then { s with loaded := { s.loaded with source := text "direct" } } else s
  let s := noteFirstConfig hashString { s with config := normalizePolicyDefaults config }
  adoptConfig s.config { s with protocolMode := s.config.protocolMode }

/-- `Start(const BridgeConfig&)`. -/
def start (env : StartEnv) (config : BridgeConfig) (s : BridgeState) : ErrorCode × BridgeState :=
  if s.running then (.ok, s)
  else if refusedByConfigCanary env.nowMs (prepareStart hashString config s).config then
    (.wouldBlock, canaryRollback (prepareStart hashString config s))
  else
    launch env (applyTransportTuning (prepareStart hashString config s).config (prepareStart hashString config s))

/-- What `Start` takes down of the configuration a provider has loaded; the signature is that of the configuration
before its normalisation. -/
def noteProvider (p : ProviderReplies) (s : BridgeState) : BridgeState :=
  let signature := computePolicySignature hashString p.config.policyTable
  { s with
    loaded := { source := p.source, version := p.version, signature }
    lastKnownGood := { config := p.config, version := p.version, source := p.source, signature } }

/-- `Start(IConfigProvider*)`. -/
def startFromProvider (env : StartEnv) (provider : Option ProviderReplies) (s : BridgeState) :
    ErrorCode × BridgeState :=
  match provider with
  | none => (.invalidParam, s)
  | some p => if p.load ≠ .ok then (p.load, s) else start hashString env p.config (noteProvider hashString p s)

/-! ### What a start can do -/

theorem launch_frame (env : StartEnv) (s : BridgeState) :
    (launch env s).2 = { s with running := (launch env s).2.running } := by
  unfold launch
  repeat' split
  all_goals rfl

/-- `Start` leaves a running bridge alone; otherwise it adopts the configuration and is then refused by the canary,
or applies the transport tuning and ends up running or not. -/
theorem start_cases (env : StartEnv) (config : BridgeConfig) (s : BridgeState) :
    start hashString env config s = (.ok, s) ∨
      start hashString env config s = (.wouldBlock, canaryRollback (prepareStart hashString config s)) ∨
      ∃ ec running, start hashString env config s =
        (ec, { applyTransportTuning (prepareStart hashString config s).config (prepareStart hashString config s) with
          running }) := by
  unfold start
  split
  · exact .inl rfl
  split
  · exact .inr (.inl rfl)
  · refine .inr (.inr ⟨_, _, Prod.ext rfl (launch_frame env _)⟩)

theorem start_of_running (env : StartEnv) (config : BridgeConfig) {s : BridgeState} (hrunning : s.running = true) :
    start hashString env config s = (.ok, s) := by
  unfold start
  exact if_pos hrunning

theorem startFromProvider_of_loaded (env : StartEnv) {p : ProviderReplies} (s : BridgeState) (hload : p.load = .ok) :
    startFromProvider hashString env (some p) s = start hashString env p.config (noteProvider hashString p s) := by
  simp only [startFromProvider, hload, ne_eq, not_true_eq_false, if_false]

theorem startFromProvider_of_not_loaded (env : StartEnv) {p : ProviderReplies} (s : BridgeState)
    (hload : p.load ≠ .ok) : startFromProvider hashString env (some p) s = (p.load, s) := by
  simp only [startFromProvider, ne_eq, hload, not_false_eq_true, if_true]

/-- A start with a provider is refused, or is one with the configuration that the provider has loaded. -/
theorem startFromProvider_cases (env : StartEnv) (provider : Option ProviderReplies) (s : BridgeState) :
    (∃ ec, startFromProvider hashString env provider s = (ec, s)) ∨
      ∃ p, provider = some p ∧ p.load = .ok ∧
        startFromProvider hashString env provider s =
          start hashString env p.config (noteProvider hashString p s) := by
  cases provider with
  | none => exact .inl ⟨_, rfl⟩
  | some p =>
    by_cases hload : p.load = .ok
    · exact .inr ⟨p, rfl, hload, startFromProvider_of_loaded hashString env s hload⟩
    · exact .inl ⟨_, startFromProvider_of_not_loaded hashString env s hload⟩

theorem adoptConfig_policyCache (config : BridgeConfig) (s : BridgeState) :
    (adoptConfig config s).policyCache = s.policyCache.clear :=
  rfl

private theorem noteFirstConfig_policyCache (s : BridgeState) :
    (noteFirstConfig hashString s).policyCache = s.policyCache := by
  unfold noteFirstConfig
  split <;> rfl

/-- Adopting a configuration leaves the tuning of the transports to the second half of `Start`. -/
theorem prepareStart_tuning (config : BridgeConfig) (s : BridgeState) :
    (prepareStart hashString config s).tuning = s.tuning := by
  simp only [prepareStart, adoptConfig, rebuildPolicyIndex, noteFirstConfig]
  repeat' split
  all_goals rfl

private theorem normalizePolicyDefaults_additionalEndpoints (config : BridgeConfig) :
    (normalizePolicyDefaults config).additionalEndpoints = config.additionalEndpoints :=
  rfl

private theorem populateDefaultTemplateRules_additionalEndpoints (config : BridgeConfig) :
    (populateDefaultTemplateRules config).additionalEndpoints = config.additionalEndpoints := by
  unfold populateDefaultTemplateRules
  split <;> rfl

private theorem noteFirstConfig_config (s : BridgeState) : (noteFirstConfig hashString s).config = s.config := by
  unfold noteFirstConfig
  split <;> rfl

private theorem prepareStart_additionalEndpoints (config : BridgeConfig) (s : BridgeState) :
    (prepareStart hashString config s).config.additionalEndpoints = config.additionalEndpoints := by
  simp only [prepareStart, adoptConfig, rebuildPolicyIndex, populateDefaultTemplateRules_additionalEndpoints,
    noteFirstConfig_config, normalizePolicyDefaults_additionalEndpoints]

/-- After a start the tuning is the old one, or that of the configuration started with. -/
theorem start_failover (env : StartEnv) (config : BridgeConfig) (s : BridgeState) :
    (start hashString env config s).2.tuning = s.tuning ∨
      ((start hashString env config s).2.tuning.failoverFromVehicleToRobotEnabled =
          !config.additionalEndpoints.isEmpty ∧
        (start hashString env config s).2.tuning.failoverFromRobotToVehicleEnabled =
          !config.additionalEndpoints.isEmpty) := by
  rcases start_cases hashString env config s with heq | heq | ⟨ec, running, heq⟩
  · rw [heq]
    exact .inl rfl
  · rw [heq]
    exact .inl (prepareStart_tuning hashString config s)
  · rw [heq, ← prepareStart_additionalEndpoints hashString config s]
    exact .inr ⟨rfl, rfl⟩

theorem prepareStart_policyCache (config : BridgeConfig) (s : BridgeState) :
    (prepareStart hashString config s).policyCache = s.policyCache.clear := by
  simp only [prepareStart, adoptConfig_policyCache, noteFirstConfig_policyCache]
  split <;> rfl

end

/-- A configuration with two named endpoints, the rest as it comes. -/
def plainConfig : BridgeConfig :=
  { vehicleToRobotEndpoint := { name := text "v2r" }
    robotToVehicleEndpoint := { name := text "r2v" } }

/-- A bridge started with `plainConfig`. -/
def plainBridge : BridgeState :=
  (start (fun _ => 0) {} plainConfig {}).2

end VehicleBridge
