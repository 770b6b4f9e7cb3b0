import VehicleBridge.Interconnect.PolicyLint
import VehicleBridge.Interconnect.Setup
import VehicleBridge.Lib.FlatJson

/-!
# The diagnostic commands of a bridge

`ExecuteDiagnosticCommand` answers a command with a text about the bridge.  The lint report is the one text that is not
put together anew for each command: it is kept until `RebuildPolicyIndex` drops it, which `Start` and a reload call
whenever they are about to adopt a configuration, but not where a refused configuration is taken back.

Between the calls of a bridge the commands are transparent (`commands_transparent`): they change nothing that the bridge
acts on, and each answer is the one that would be given if no report were ever kept.  The state dump is put together
without escaping, and read back as JSON as long as no provider names a source that would need it.
-/

namespace VehicleBridge

open ByteText FlatJson Tokens Transition

/-- `policy_lint_report_`, with `policy_lint_cache_valid_`. -/
structure PolicyLintCache where
  valid : Bool := false
  report : Bytes := []
  deriving DecidableEq, Repr

/-- A run with what the diagnostic commands keep, and the answers that have been given. -/
structure DiagnosedRun (σ : Type*) where
  run : BridgeRun σ
  policyLintCache : PolicyLintCache := {}
  diagDumpStateCount : Nat := 0
  answered : List Bytes := []

/-! ### The texts -/

/-- How a stream shows a flag of 0 or 1. -/
def flag (b : Bool) : Nat :=
  if b then 1 else 0

section
-- `default_policy.priority`, which the declaration of `BridgeSlaPolicy` does not have
variable (priorityOf : BridgeSlaPolicy → UInt32)

def exportPolicyEffectiveView (s : BridgeState) : Bytes :=
  text "policy_effective_view:\x7b" ++
    text "default_policy_priority=" ++ decimal (priorityOf s.config.policyTable.defaultPolicy).toNat ++ text "," ++
    text "rules=" ++ decimal s.config.policyTable.rules.length ++ text "," ++
    text "templates=" ++ decimal s.config.policyTable.templateRules.length ++ text "," ++
    text "overrides=" ++ decimal s.config.policyTable.runtimeOverrides.length ++ text "," ++
    text "cache_size=" ++ decimal s.policyCache.items.length ++ text "," ++
    text "cache_hits=" ++ decimal s.policyCounters.policyCacheHitCount ++ text "," ++
    text "cache_miss=" ++ decimal s.policyCounters.policyCacheMissCount ++ text "," ++
    text "policy_conflicts=" ++ decimal s.policyCounters.policyConflictCount ++ text "\x7d"

end

/-- `oss << "\"name\":" << value` -/
def dumpField (name : Bytes) (value : Nat) : Bytes :=
  text "\"" ++ name ++ text "\":" ++ decimal value

/-- The text that `DumpRuntimeState` returns. -/
def runtimeStateText (s : BridgeState) : Bytes :=
  text "\x7b" ++
    dumpField (text "loaded_config_version") s.loaded.version.toNat ++ text "," ++
    text "\"loaded_config_source\":\"" ++ s.loaded.source ++ text "\"," ++
    dumpField (text "policy_conflicts") (collectPolicyConflicts s.config.policyTable).length ++ text "," ++
    dumpField (text "policy_cache_size") s.policyCache.items.length ++ text "," ++
    dumpField (text "inflight_vehicle") s.inflight.vehicle.toNat ++ text "," ++
    dumpField (text "inflight_robot") s.inflight.robot.toNat ++ text "," ++
    dumpField (text "failover_v2r") (flag s.tuning.failoverFromVehicleToRobotEnabled) ++ text "," ++
    dumpField (text "failover_r2v") (flag s.tuning.failoverFromRobotToVehicleEnabled) ++ text "," ++
    dumpField (text "failover_hit") s.traffic.failoverHitCount ++ text "," ++
    dumpField (text "health_primary") (flag s.health.primaryHealthy) ++ text "," ++
    dumpField (text "health_secondary") (flag s.health.secondaryHealthy) ++ text "\x7d"

def transportText (s : BridgeState) : Bytes :=
  text "transport:\x7bprimary_healthy=" ++ decimal (flag s.health.primaryHealthy) ++
    text ",secondary_healthy=" ++ decimal (flag s.health.secondaryHealthy) ++
    text ",failover_hits=" ++ decimal s.traffic.failoverHitCount ++ text "\x7d"

def cacheText (s : BridgeState) : Bytes :=
  text "cache:\x7bpolicy_cache_size=" ++ decimal s.policyCache.items.length ++ text "\x7d"

/-! ### The commands -/

section
variable {σ : Type*}

/-- `GetPolicyLintReport`. -/
def DiagnosedRun.getPolicyLintReport (d : DiagnosedRun σ) : Bytes × DiagnosedRun σ :=
  if d.policyLintCache.valid then (d.policyLintCache.report, d)
  else
    let report := buildPolicyLintReport d.run.bridge.config.policyTable
    (report, { d with policyLintCache := { valid := true, report } })

/-- `DumpRuntimeState`. -/
def DiagnosedRun.dumpRuntimeState (d : DiagnosedRun σ) : Bytes × DiagnosedRun σ :=
  (runtimeStateText d.run.bridge, { d with diagDumpStateCount := d.diagDumpStateCount + 1 })

/-- `ExecuteDiagnosticCommand`. -/
def DiagnosedRun.executeDiagnosticCommand (priorityOf : BridgeSlaPolicy → UInt32) (command : Bytes)
    (d : DiagnosedRun σ) : Bytes × DiagnosedRun σ :=
  if command = text "dump runtime" then d.dumpRuntimeState
  else if command = text "dump policy" then d.getPolicyLintReport
  else if command = text "policy effective" then (exportPolicyEffectiveView priorityOf d.run.bridge, d)
  else if command = text "dump transport" then (transportText d.run.bridge, d)
  else if command = text "dump cache" then (cacheText d.run.bridge, d)
  else (text "diag:\x7berror=unknown_command\x7d", d)

instance (p : ProviderReplies) (s : BridgeState) : Decidable (ReachesCommit p s) :=
  decidable_of_iff (p.reload = .ok ∧ p.version ≠ s.loaded.version ∧ p.load = .ok ∧
      blockedByRiskGuard s.config (normalizePolicyDefaults p.config) = false ∧
      preservesLockedPolicy s.config (normalizePolicyDefaults p.config) = true)
    ⟨fun h => ⟨h.1, h.2.1, h.2.2.1, h.2.2.2.1, h.2.2.2.2⟩, fun h => ⟨h.reload, h.version, h.load, h.risk, h.lock⟩⟩

/-- The operation gets as far as `RebuildPolicyIndex`. -/
def rebuildsPolicyIndex (s : BridgeState) : BridgeOp → Bool
  | .start _ _ => !s.running
  | .startFromProvider _ (some p) => decide (p.load = .ok) && !s.running
  | .reload _ (some p) => decide (ReachesCommit p s)
  | _ => false

/-- A call of the bridge, or a diagnostic command. -/
inductive DiagnosedStep
  | call (op : BridgeOp)
  | command (asked : Bytes)

/-- After an operation that has brought the bridge here. -/
def DiagnosedRun.afterCall (d : DiagnosedRun σ) (op : BridgeOp) (run : BridgeRun σ) : DiagnosedRun σ :=
  { d with
    run
    policyLintCache := if rebuildsPolicyIndex d.run.bridge op then {} else d.policyLintCache }

variable (hashString : Bytes → UInt64) (net : Transports σ)

def DiagnosedRun.exec (priorityOf : BridgeSlaPolicy → UInt32) (d : DiagnosedRun σ) :
    DiagnosedStep → Option (DiagnosedRun σ)
  | .call op => (d.run.exec hashString net op).map (d.afterCall op)
  | .command asked =>
    let (answer, d') := d.executeDiagnosticCommand priorityOf asked
    some { d' with answered := d'.answered ++ [answer] }

/-! ### The commands without what is kept -/

/-- What a command is to answer. -/
def diagnosticAnswer (priorityOf : BridgeSlaPolicy → UInt32) (command : Bytes) (s : BridgeState) : Bytes :=
  if command = text "dump runtime" then runtimeStateText s
  else if command = text "dump policy" then buildPolicyLintReport s.config.policyTable
  else if command = text "policy effective" then exportPolicyEffectiveView priorityOf s
  else if command = text "dump transport" then transportText s
  else if command = text "dump cache" then cacheText s
  else text "diag:\x7berror=unknown_command\x7d"

/-- The operations of a sequence of steps. -/
def operations : List DiagnosedStep → List BridgeOp
  | [] => []
  | .call op :: steps => op :: operations steps
  | .command _ :: steps => operations steps

/-- The commands of a sequence, each with the bridge it is given to. -/
def commandPoints (r : BridgeRun σ) : List DiagnosedStep → List (Bytes × BridgeState)
  | [] => []
  | .call op :: steps =>
    match r.exec hashString net op with
    | some r' => commandPoints r' steps
    | none => []
  | .command asked :: steps => (asked, r.bridge) :: commandPoints r steps

def DiagnosedStep.isRuntimeDump : DiagnosedStep → Bool
  | .call _ => false
  | .command asked => asked = text "dump runtime"

/-- What the state dump has to say behind the version, as the members of an object. -/
def runtimeMembers (s : BridgeState) : List Member :=
  [(text "loaded_config_source", .string s.loaded.source),
    (text "policy_conflicts", .number (collectPolicyConflicts s.config.policyTable).length),
    (text "policy_cache_size", .number s.policyCache.items.length),
    (text "inflight_vehicle", .number s.inflight.vehicle.toNat),
    (text "inflight_robot", .number s.inflight.robot.toNat),
    (text "failover_v2r", .number (flag s.tuning.failoverFromVehicleToRobotEnabled)),
    (text "failover_r2v", .number (flag s.tuning.failoverFromRobotToVehicleEnabled)),
    (text "failover_hit", .number s.traffic.failoverHitCount),
    (text "health_primary", .number (flag s.health.primaryHealthy)),
    (text "health_secondary", .number (flag s.health.secondaryHealthy))]

/-- The dump is read back as a JSON object with the version and these members, in some order. -/
def DumpReadsBack (s : BridgeState) : Prop :=
  ∃ read, parseObject (runtimeStateText s) = some read ∧
    read.Perm ((text "loaded_config_version", .number s.loaded.version.toNat) :: runtimeMembers s)

/-- A provider of the step names a source that needs no escaping. -/
def DiagnosedStep.PlainSource : DiagnosedStep → Prop
  | .call (.startFromProvider _ (some p)) => Plain jsonString p.source
  | .call (.reload _ (some p)) => Plain jsonString p.source
  | _ => True

end

/-! ### The lint report -/

section
variable {σ : Type*} {hashString : Bytes → UInt64} {net : Transports σ} {priorityOf : BridgeSlaPolicy → UInt32}

/-- A report that is kept is the one that would be built now. -/
def DiagnosedRun.LintFresh (d : DiagnosedRun σ) : Prop :=
  d.policyLintCache.valid = true →
    d.policyLintCache.report = buildPolicyLintReport d.run.bridge.config.policyTable

private theorem start_config_of_running {env : StartEnv} {config : BridgeConfig} {s : BridgeState}
    (hrebuilds : rebuildsPolicyIndex s (.start env config) = false) :
    (start hashString env config s).2.config = s.config := by
  have hrunning : s.running = true := Bool.not_eq_false' .. ▸ hrebuilds
  rw [start_of_running hashString env config hrunning]

/-- **The step lemma**: a configuration is only replaced where the report has been dropped. -/
theorem exec_config {r r' : BridgeRun σ} {op : BridgeOp} (hrebuilds : rebuildsPolicyIndex r.bridge op = false)
    (h : r.exec hashString net op = some r') : r'.bridge.config = r.bridge.config := by
  cases op with
  | start env config =>
    cases h
    exact start_config_of_running hrebuilds
  | startFromProvider env provider =>
    cases h
    rcases startFromProvider_cases hashString env provider r.bridge with ⟨ec, heq⟩ | ⟨p, rfl, hload, heq⟩
    · rw [heq]
    · have hrunning : (noteProvider hashString p r.bridge).running = r.bridge.running := rfl
      have hnoted : rebuildsPolicyIndex (noteProvider hashString p r.bridge) (.start env p.config) = false := by
        simpa [rebuildsPolicyIndex, hload, hrunning] using hrebuilds
      rw [heq]
      exact start_config_of_running hnoted
  | stop =>
    cases h
    rfl
  | reload nowMs provider =>
    cases h
    rcases reloadConfigIfChanged_cases hashString nowMs provider r.bridge with
      ⟨-, ec, audit, writes, heq⟩ | ⟨p, rfl, hr, -, -⟩ | ⟨p, rfl, hr, -, -⟩
    · rw [heq]
    · exact absurd hr (of_decide_eq_false hrebuilds)
    · exact absurd hr (of_decide_eq_false hrebuilds)
  | publish origin env e => exact congrArg BridgeSetup.config (exec_setup id h)
  | inbound t env routers received => exact congrArg BridgeSetup.config (exec_setup id h)

private theorem DiagnosedRun.LintFresh.afterCall {d : DiagnosedRun σ} {op : BridgeOp} {run : BridgeRun σ}
    (hd : d.LintFresh) (hrun : d.run.exec hashString net op = some run) : (d.afterCall op run).LintFresh := by
  intro hvalid
  unfold DiagnosedRun.afterCall at hvalid ⊢
  cases hrebuilds : rebuildsPolicyIndex d.run.bridge op with
  | true =>
    rw [hrebuilds] at hvalid
    cases hvalid
  | false =>
    rw [hrebuilds] at hvalid
    rw [if_neg Bool.false_ne_true, exec_config hrebuilds hrun]
    exact hd hvalid

/-- A report that is kept does not show. -/
theorem DiagnosedRun.LintFresh.getPolicyLintReport {d : DiagnosedRun σ} (hd : d.LintFresh) :
    ∃ cache, d.getPolicyLintReport =
        (buildPolicyLintReport d.run.bridge.config.policyTable, { d with policyLintCache := cache }) ∧
      ({ d with policyLintCache := cache } : DiagnosedRun σ).LintFresh := by
  unfold DiagnosedRun.getPolicyLintReport
  split
  · next hvalid => exact ⟨d.policyLintCache, by rw [hd hvalid], hd⟩
  · exact ⟨_, rfl, fun _ => rfl⟩

/-- How often the runtime state is dumped. -/
def dumps (asked : Bytes) : Nat :=
  if asked = text "dump runtime" then 1 else 0

/-- **A command** gives its answer and changes nothing but what is kept and how many dumps are counted. -/
theorem DiagnosedRun.LintFresh.executeDiagnosticCommand {d : DiagnosedRun σ} (hd : d.LintFresh) (asked : Bytes) :
    ∃ cache, d.executeDiagnosticCommand priorityOf asked =
        (diagnosticAnswer priorityOf asked d.run.bridge,
          { d with policyLintCache := cache, diagDumpStateCount := d.diagDumpStateCount + dumps asked }) ∧
      ({ d with policyLintCache := cache } : DiagnosedRun σ).LintFresh := by
  unfold DiagnosedRun.executeDiagnosticCommand diagnosticAnswer dumps
  split
  · exact ⟨d.policyLintCache, rfl, hd⟩
  split
  · exact hd.getPolicyLintReport
  refine ⟨d.policyLintCache, ?_, hd⟩
  repeat' split
  all_goals rfl

/-! ### The state dump -/

private theorem dumpField_eq (name : Bytes) (value : Nat) :
    dumpField name value = renderMember (name, .number value) := by
  have hquote : text "\"" = [kQuote] := by decide
  have hcolon : text "\":" = [kQuote, kColon] := by decide
  simp only [dumpField, renderMember, Value.render, hquote, hcolon, List.cons_append, List.nil_append,
    List.append_assoc]

private theorem sourceField_eq (source rest : Bytes) :
    text "\"loaded_config_source\":\"" ++ (source ++ (text "\"," ++ rest)) =
      renderMember (text "loaded_config_source", .string source) ++ kComma :: rest := by
  have hname : text "\"loaded_config_source\":\"" =
      kQuote :: text "loaded_config_source" ++ [kQuote, kColon, kQuote] := by decide
  have hend : text "\"," = [kQuote, kComma] := by decide
  rw [hname, hend]
  simp only [renderMember, Value.render, List.cons_append, List.nil_append, List.append_assoc]

private theorem runtimeStateText_eq (s : BridgeState) :
    runtimeStateText s =
      renderObject (text "loaded_config_version", .number s.loaded.version.toNat) (runtimeMembers s) := by
  have hopen : text "\x7b" = [kOpen] := by decide
  have hcomma : text "," = [kComma] := by decide
  have hclose : text "\x7d" = [kClose] := by decide
  unfold runtimeStateText runtimeMembers renderObject
  rw [hopen, hcomma, hclose]
  simp only [dumpField_eq, List.flatMap_cons, List.flatMap_nil, List.cons_append, List.nil_append, List.append_assoc]
  rw [sourceField_eq]

/-- The names of the members. -/
def runtimeNames : List Bytes :=
  [text "loaded_config_version", text "loaded_config_source", text "policy_conflicts", text "policy_cache_size",
    text "inflight_vehicle", text "inflight_robot", text "failover_v2r", text "failover_r2v", text "failover_hit",
    text "health_primary", text "health_secondary"]

private theorem plain_runtimeNames : ∀ name ∈ runtimeNames, Plain jsonString name := by
  decide +kernel

private theorem nodup_runtimeNames : runtimeNames.Nodup := by
  decide +kernel

/-- The dump says what it has to exactly where the source needs no escaping. -/
private theorem dumpReadsBack_iff (s : BridgeState) : DumpReadsBack s ↔ Plain jsonString s.loaded.source := by
  unfold DumpReadsBack
  rw [runtimeStateText_eq, parseObject_render_perm_iff]
  constructor
  · rintro ⟨hplain, -⟩
    exact (hplain (text "loaded_config_source", .string s.loaded.source) (by simp [runtimeMembers])).2
  · intro hsource
    have hnames : ((text "loaded_config_version", Value.number s.loaded.version.toNat) ::
        runtimeMembers s).map Prod.fst = runtimeNames := rfl
    have hvalues : ∀ x ∈ (text "loaded_config_version", Value.number s.loaded.version.toNat) :: runtimeMembers s,
        x.2.IsPlain := by
      simp only [runtimeMembers, List.forall_mem_cons, List.not_mem_nil, false_implies, implies_true]
      simp only [Value.IsPlain, hsource, true_and]
    refine ⟨fun x hx => ⟨?_, hvalues x hx⟩, hnames ▸ nodup_runtimeNames⟩
    exact plain_runtimeNames x.1 (hnames ▸ List.mem_map_of_mem hx)

/-! ### Where the sources come from -/

/-- The source that a bridge names, now or once it falls back, needs no escaping. -/
structure PlainSources (s : BridgeState) : Prop where
  loaded : Plain jsonString s.loaded.source
  lastKnownGood : Plain jsonString s.lastKnownGood.source

private theorem plainSources_new : PlainSources {} :=
  ⟨by decide, by decide⟩

private theorem PlainSources.of_setup {s s' : BridgeState} (hs : PlainSources s) (h : s'.setup = s.setup) :
    PlainSources s' := by
  have hloaded : s'.loaded = s.loaded := congrArg BridgeSetup.loaded h
  have hknown : s'.lastKnownGood = s.lastKnownGood := congrArg BridgeSetup.lastKnownGood h
  exact ⟨hloaded ▸ hs.loaded, hknown ▸ hs.lastKnownGood⟩

theorem PlainSources.prepareStart {s : BridgeState} (hs : PlainSources s) (config : BridgeConfig) :
    PlainSources (prepareStart hashString config s) := by
  have hsetup := prepareStart_setup hashString config s
  have hdirect : Plain jsonString (sourceOrDirect s.loaded.source) := by
    unfold sourceOrDirect
    split
    · decide
    · exact hs.loaded
  constructor
  · rw [show (VehicleBridge.prepareStart hashString config s).loaded = _ from congrArg BridgeSetup.loaded hsetup]
    exact hdirect
  · rw [show (VehicleBridge.prepareStart hashString config s).lastKnownGood = _ from
      congrArg BridgeSetup.lastKnownGood hsetup]
    simp only [startedSetup]
    split
    · exact hdirect
    · exact hs.lastKnownGood

theorem PlainSources.start {s : BridgeState} (hs : PlainSources s) (env : StartEnv) (config : BridgeConfig) :
    PlainSources (start hashString env config s).2 := by
  have hprepared : PlainSources (VehicleBridge.prepareStart hashString config s) := hs.prepareStart config
  rcases start_cases hashString env config s with heq | heq | ⟨ec, running, heq⟩ <;> rw [heq]
  · exact hs
  · exact ⟨hprepared.lastKnownGood, hprepared.lastKnownGood⟩
  · exact ⟨hprepared.loaded, hprepared.lastKnownGood⟩

/-- **The step lemma**: plain sources stay plain. -/
theorem PlainSources.exec {r r' : BridgeRun σ} {op : BridgeOp} (hr : PlainSources r.bridge)
    (hop : (DiagnosedStep.call op).PlainSource) (h : r.exec hashString net op = some r') : PlainSources r'.bridge := by
  cases op with
  | start env config =>
    cases h
    exact hr.start env config
  | startFromProvider env provider =>
    cases h
    rcases startFromProvider_cases hashString env provider r.bridge with ⟨ec, heq⟩ | ⟨p, rfl, -, heq⟩ <;>
      simp only [heq]
    · exact hr
    · have hnoted : PlainSources (noteProvider hashString p r.bridge) := ⟨hop, hop⟩
      exact hnoted.start env p.config
  | stop =>
    cases h
    exact ⟨hr.loaded, hr.lastKnownGood⟩
  | reload nowMs provider =>
    cases h
    rcases reloadConfigIfChanged_cases hashString nowMs provider r.bridge with
      ⟨-, ec, audit, writes, heq⟩ | ⟨p, rfl, -, -, heq⟩ | ⟨p, rfl, -, -, heq⟩ <;> simp only [heq]
    · exact ⟨hr.loaded, hr.lastKnownGood⟩
    · exact ⟨hop, hop⟩
    · exact ⟨hr.loaded, hr.lastKnownGood⟩
  | publish origin env e => exact hr.of_setup (exec_setup id h)
  | inbound t env routers received => exact hr.of_setup (exec_setup id h)

/-! ### Runs -/

/-- What a sequence of steps has brought a run to. -/
structure DiagnosedAlong (hashString : Bytes → UInt64) (net : Transports σ) (priorityOf : BridgeSlaPolicy → UInt32)
    (d : DiagnosedRun σ) (steps : List DiagnosedStep) (d' : DiagnosedRun σ) : Prop where
  run : (operations steps).foldlM (BridgeRun.exec hashString net) d.run = some d'.run
  answered : d'.answered = d.answered ++
    (commandPoints hashString net d.run steps).map fun point => diagnosticAnswer priorityOf point.1 point.2
  dumped : d'.diagDumpStateCount = d.diagDumpStateCount + steps.countP DiagnosedStep.isRuntimeDump

/-- Every sequence that can be carried out is transparent, and one can be carried out where its operations can. -/
theorem DiagnosedRun.LintFresh.steps {d : DiagnosedRun σ} (hd : d.LintFresh) (steps : List DiagnosedStep) :
    (∃ d', steps.foldlM (DiagnosedRun.exec hashString net priorityOf) d = some d' ∧
        DiagnosedAlong hashString net priorityOf d steps d') ∨
      (steps.foldlM (DiagnosedRun.exec hashString net priorityOf) d = none ∧
        (operations steps).foldlM (BridgeRun.exec hashString net) d.run = none) := by
  induction steps generalizing d with
  | nil => exact .inl ⟨d, rfl, rfl, (List.append_nil _).symm, rfl⟩
  | cons step steps ih =>
    cases step with
    | call op =>
      rw [operations, List.foldlM_cons, List.foldlM_cons, DiagnosedRun.exec]
      cases hexec : d.run.exec hashString net op with
      | none => exact .inr ⟨rfl, rfl⟩
      | some run =>
        rcases ih (hd.afterCall hexec) with ⟨d', hd', htransparent⟩ | hnone
        · refine .inl ⟨d', hd', ?_, ?_, ?_⟩
          · rw [operations, List.foldlM_cons, hexec]
            exact htransparent.run
          · rw [htransparent.answered, commandPoints, hexec]
            rfl
          · rw [htransparent.dumped, List.countP_cons_of_neg (by simp [DiagnosedStep.isRuntimeDump])]
            rfl
        · exact .inr hnone
    | command asked =>
      obtain ⟨cache, hanswer, hfresh⟩ : ∃ cache, d.executeDiagnosticCommand priorityOf asked =
          (diagnosticAnswer priorityOf asked d.run.bridge,
            { d with policyLintCache := cache, diagDumpStateCount := d.diagDumpStateCount + dumps asked }) ∧
          ({ d with policyLintCache := cache } : DiagnosedRun σ).LintFresh := hd.executeDiagnosticCommand asked
      have hstep : d.exec hashString net priorityOf (.command asked) = some { d with
          policyLintCache := cache
          diagDumpStateCount := d.diagDumpStateCount + dumps asked
          answered := d.answered ++ [diagnosticAnswer priorityOf asked d.run.bridge] } := by
        simp only [DiagnosedRun.exec, hanswer]
      rw [List.foldlM_cons, hstep]
      rcases ih (d := { d with
          policyLintCache := cache
          diagDumpStateCount := d.diagDumpStateCount + dumps asked
          answered := d.answered ++ [diagnosticAnswer priorityOf asked d.run.bridge] }) hfresh with
        ⟨d', hd', htransparent⟩ | hnone
      · refine .inl ⟨d', hd', htransparent.run, ?_, ?_⟩
        · rw [htransparent.answered, commandPoints, List.map_cons, List.append_assoc]
          rfl
        · rw [htransparent.dumped, List.countP_cons, Nat.add_assoc]
          simp only [dumps, DiagnosedStep.isRuntimeDump, decide_eq_true_eq, Nat.add_comm]
      · exact .inr hnone

/-- As long as the providers name plain sources, the dumps that are asked for can be read back. -/
private theorem PlainSources.commandPoints {r : BridgeRun σ} (hr : PlainSources r.bridge) {steps : List DiagnosedStep}
    (hsteps : ∀ step ∈ steps, step.PlainSource) :
    ∀ point ∈ commandPoints hashString net r steps, DumpReadsBack point.2 := by
  induction steps generalizing r with
  | nil => exact fun _ hmem => absurd hmem List.not_mem_nil
  | cons step steps ih =>
    rw [List.forall_mem_cons] at hsteps
    cases step with
    | call op =>
      unfold VehicleBridge.commandPoints
      split
      · next r' hexec => exact ih (hr.exec hsteps.1 hexec) hsteps.2
      · exact fun _ hmem => absurd hmem List.not_mem_nil
    | command asked =>
      rw [VehicleBridge.commandPoints, List.forall_mem_cons]
      exact ⟨(dumpReadsBack_iff r.bridge).2 hr.loaded, ih hr hsteps.2⟩

end

/-- **Diagnostic commands are transparent.**  Whatever calls and commands a new bridge is given, in any order, it does
what the calls alone would make it do, every answer is the one put together anew at that point, and the dumps are
counted.  Where all providers name plain sources, each dump can be read back as JSON. -/
theorem commands_transparent {σ : Type*} (hashString : Bytes → UInt64) (net : Transports σ)
    (priorityOf : BridgeSlaPolicy → UInt32) (w : Wire σ) (steps : List DiagnosedStep) :
    (steps.foldlM (DiagnosedRun.exec hashString net priorityOf) { run := { wire := w } }).map DiagnosedRun.run =
        (operations steps).foldlM (BridgeRun.exec hashString net) { wire := w } ∧
      (∀ d, steps.foldlM (DiagnosedRun.exec hashString net priorityOf) { run := { wire := w } } = some d →
        DiagnosedAlong hashString net priorityOf { run := { wire := w } } steps d) ∧
      ((∀ step ∈ steps, step.PlainSource) →
        ∀ point ∈ commandPoints hashString net { wire := w } steps, DumpReadsBack point.2) := by
  have hfresh : ({ run := { wire := w } } : DiagnosedRun σ).LintFresh := fun hvalid => nomatch hvalid
  have hsteps : (∃ d, steps.foldlM (DiagnosedRun.exec hashString net priorityOf) { run := { wire := w } } = some d ∧
        DiagnosedAlong hashString net priorityOf { run := { wire := w } } steps d) ∨
      (steps.foldlM (DiagnosedRun.exec hashString net priorityOf) { run := { wire := w } } = none ∧
        (operations steps).foldlM (BridgeRun.exec hashString net) { wire := w } = none) := hfresh.steps steps
  refine ⟨?_, fun d hd => ?_, fun hplain => PlainSources.commandPoints plainSources_new hplain⟩
  · rcases hsteps with ⟨d, hd, htransparent⟩ | ⟨hnone, hrun⟩
    · rw [hd]
      exact htransparent.run.symm
    · rw [hnone]
      exact hrun.symm
  · rcases hsteps with ⟨d', hd', htransparent⟩ | ⟨hnone, -⟩
    · cases hd.symm.trans hd'
      exact htransparent
    · cases hd.symm.trans hnone

/-- A provider of `plainConfig`. -/
def plainProvider : ProviderReplies :=
  { version := 1, source := text "static://ok", config := plainConfig }

/-- A start with it, a lint report and a dump. -/
def reportAndDump : List DiagnosedStep :=
  [.call (.startFromProvider {} (some plainProvider)), .command (text "dump policy"), .command (text "dump runtime")]

/-- The dump of a bridge that a provider has started. -/
theorem commands_transparent_dump :
    DumpReadsBack (startFromProvider (fun _ => 0) {} (some plainProvider) {}).2 := by
  have hplain : ∀ step ∈ reportAndDump, step.PlainSource := by
    have hsource : Plain jsonString (text "static://ok") := by decide
    simp only [reportAndDump, List.forall_mem_cons]
    exact ⟨hsource, trivial, trivial, fun _ hmem => absurd hmem List.not_mem_nil⟩
  have hdumps := (commands_transparent (fun _ => 0) scriptedTransports (fun _ => 0) { state := [] } reportAndDump).2.2
    hplain
  simp only [reportAndDump, commandPoints, BridgeRun.exec, List.forall_mem_cons] at hdumps
  exact hdumps.2.1

end VehicleBridge
