import VehicleBridge.Interconnect.Lifecycle

/-!
# Reloading the configuration

`ReloadConfigIfChanged` has six ways to refuse.  Five of them come before the new configuration is adopted; the last
one adopts it first and then puts the old one back, all but the settings derived from it.
`reload_refused_keeps_iff` says exactly when a refused reload leaves the bridge as it was.
-/

namespace VehicleBridge

open ByteText

/-! ### The checks of a reload -/

def riskScore (current next : BridgeConfig) : UInt32 :=
  (if next.policyTable.defaultPolicy.maxEndToEndLatencyMs ≠ current.policyTable.defaultPolicy.maxEndToEndLatencyMs
    then 1 else 0) +
  (if next.protocolMode ≠ current.protocolMode then 1 else 0) +
  (if next.threadPool.workerCount ≠ current.threadPool.workerCount then 1 else 0)

def blockedByRiskGuard (current next : BridgeConfig) : Bool :=
  current.enableConfigRiskGuard && current.autoRollbackOnHighRisk &&
    decide (riskScore current next ≥ current.highRiskBlockThreshold)

/-- `should_preserve_locked_policy`. -/
def preservesLockedPolicy (current next : BridgeConfig) : Bool :=
  let current := current.policyTable.defaultPolicy
  let candidate := next.policyTable.defaultPolicy
  !current.lockPolicy ||
    (decide (current.maxEndToEndLatencyMs = candidate.maxEndToEndLatencyMs) &&
      decide (current.transportReceiveTimeoutMs = candidate.transportReceiveTimeoutMs) &&
      decide (current.transportSendTimeoutMs = candidate.transportSendTimeoutMs) &&
      decide (current.backpressurePolicy = candidate.backpressurePolicy) &&
      decide (current.dropPolicy = candidate.dropPolicy) &&
      decide (current.retryBudget = candidate.retryBudget))

def configValid (config : BridgeConfig) : Bool :=
  decide (config.threadPool.workerCount > 0) && decide (config.threadPool.queueCapacity > 0) &&
    decide (config.vehicleToRobotEndpoint.name ≠ []) && decide (config.robotToVehicleEndpoint.name ≠ []) &&
    decide (config.policyTable.defaultPolicy.retryBudget.initialBackoffMs ≥ 0) &&
    decide (config.policyTable.defaultPolicy.retryBudget.maxBackoffMs ≥
      config.policyTable.defaultPolicy.retryBudget.initialBackoffMs)

def signatureOk (lastKnownGood : LastKnownGood) (nextSignature : UInt64) : Bool :=
  decide (lastKnownGood.signature = 0) || decide (nextSignature = lastKnownGood.signature)

/-! ### The audit record -/

def kReloadReasonProviderReloadFail : Bytes := text "provider_reload_fail"
def kReloadReasonProviderLoadFail : Bytes := text "provider_load_fail"

/-- A reload refused before anything was adopted. -/
def ReloadAudit.refuse (status : ErrorCode) (reason : Int32) (summary : Bytes) (audit : ReloadAudit) : ReloadAudit :=
  { audit with
    failCount := audit.failCount + 1
    lastStatusCode := status.value
    rollbackReasonCode := reason
    lastAuditSummary := summary }

/-- A refusal that also counts as a rollback. -/
def ReloadAudit.rollback (status : ErrorCode) (reason : Int32) (summary : Bytes) (audit : ReloadAudit) :
    ReloadAudit :=
  { audit.refuse status reason summary with rollbackCount := audit.rollbackCount + 1 }

def ReloadAudit.noop (audit : ReloadAudit) : ReloadAudit :=
  { audit with
    lastStatusCode := ErrorCode.ok.value
    rollbackReasonCode := 0
    lastAuditSummary := text "reload_audit:\x7bstatus=noop\x7d" }

def ReloadAudit.succeed (nowMs : UInt64) (summary : Bytes) (audit : ReloadAudit) : ReloadAudit :=
  { audit with
    successCount := audit.successCount + 1
    lastTimestampMs := nowMs
    lastStatusCode := ErrorCode.ok.value
    rollbackReasonCode := 0
    lastAuditSummary := summary }

/-- The text that names the change of source, version and signature. -/
def reloadTransition (previous next : LoadedConfig) : Bytes :=
  text "reload_audit:\x7bsrc:" ++ previous.source ++ text "->" ++ next.source ++
    text ",ver:" ++ decimal previous.version.toNat ++ text "->" ++ decimal next.version.toNat ++
    text ",sig:" ++ decimal previous.signature.toNat ++ text "->" ++ decimal next.signature.toNat ++ text "\x7d"

/-! ### The reload -/

section
variable (hashString : Bytes → UInt64)

/-- The loaded configuration that a reload is about to install. -/
def nextLoaded (p : ProviderReplies) : LoadedConfig :=
  { source := p.source
    version := p.version
    signature := computePolicySignature hashString (normalizePolicyDefaults p.config).policyTable }

/-- The last check, made after the configuration has been adopted. -/
def commitChecks (p : ProviderReplies) (s : BridgeState) : Bool :=
  configValid (adoptConfig (normalizePolicyDefaults p.config) s).config &&
    signatureOk s.lastKnownGood (nextLoaded hashString p).signature

/-- The commit that passes its check. -/
def acceptReload (nowMs : UInt64) (p : ProviderReplies) (s : BridgeState) : BridgeState :=
  let adopted := adoptConfig (normalizePolicyDefaults p.config) s
  let loaded := nextLoaded hashString p
  { adopted with
    loaded
    lastKnownGood :=
      { config := adopted.config, version := loaded.version, source := loaded.source, signature := loaded.signature }
    audit := s.audit.succeed nowMs (reloadTransition s.loaded loaded ++ text ",status=ok") }

/-- The code of a commit that fails its check. -/
def rejectedStatus (p : ProviderReplies) (s : BridgeState) : ErrorCode :=
  if signatureOk s.lastKnownGood (nextLoaded hashString p).signature then .invalidParam else .queueCreateFailed

/-- The commit that fails its check: the configuration and what is recorded of it are put back. -/
def rejectReload (p : ProviderReplies) (s : BridgeState) : BridgeState :=
  let adopted := adoptConfig (normalizePolicyDefaults p.config) s
  let reason : Int32 := if signatureOk s.lastKnownGood (nextLoaded hashString p).signature then 3 else 4
  -- the settings derived from the refused configuration are not among what is put back
  { adopted with
    config := s.config
    loaded := s.loaded
    audit := s.audit.rollback (rejectedStatus hashString p s) reason
      (reloadTransition s.loaded (nextLoaded hashString p) ++ text ",status=rollback") }

/-- The part of a reload after the new configuration has been loaded. -/
def installLoaded (nowMs : UInt64) (p : ProviderReplies) (s : BridgeState) : ErrorCode × BridgeState :=
  if blockedByRiskGuard s.config (normalizePolicyDefaults p.config) then
    (.invalidParam,
      { s with
        audit := s.audit.rollback .invalidParam 6
          (text "reload_audit:\x7bstatus=rollback,reason=high_risk_config_change\x7d")
        traffic := { s.traffic with
          diagnosticSnapshotWriteCount := s.traffic.diagnosticSnapshotWriteCount + 1 } })
  else if preservesLockedPolicy s.config (normalizePolicyDefaults p.config) = false then
    (.invalidParam,
      { s with
        audit := s.audit.rollback .invalidParam 5
          (text "reload_audit:\x7bstatus=rollback,reason=policy_lock_violation\x7d") })
  else if commitChecks hashString p s then (.ok, acceptReload hashString nowMs p s)
  else (rejectedStatus hashString p s, rejectReload hashString p s)

/-- `ReloadConfigIfChanged`. -/
def reloadConfigIfChanged (nowMs : UInt64) (provider : Option ProviderReplies) (s : BridgeState) :
    ErrorCode × BridgeState :=
  match provider with
  | none => (.invalidParam, s)
  | some p =>
    if p.reload ≠ .ok then
      (p.reload,
        { s with
          audit := s.audit.refuse p.reload 1
            (text "reload_audit:\x7breload_stage=provider_reload,status=fail,reason=" ++
              kReloadReasonProviderReloadFail ++ text "\x7d") })
    else if p.version = s.loaded.version then (.ok, { s with audit := s.audit.noop })
    else if p.load ≠ .ok then
      (p.load,
        { s with
          audit := s.audit.refuse p.load 2
            (text "reload_audit:\x7breload_stage=provider_load,status=fail,reason=" ++
              kReloadReasonProviderLoadFail ++ text "\x7d") })
    else installLoaded hashString nowMs p s

/-! ### What a reload can do -/

/-- The provider delivers a new configuration that the risk guard and the policy lock let pass. -/
structure ReachesCommit (p : ProviderReplies) (s : BridgeState) : Prop where
  reload : p.reload = .ok
  version : p.version ≠ s.loaded.version
  load : p.load = .ok
  risk : blockedByRiskGuard s.config (normalizePolicyDefaults p.config) = false
  lock : preservesLockedPolicy s.config (normalizePolicyDefaults p.config) = true

/-- A reload either ends before the commit, and then writes the audit record only, or commits, or takes the commit
back. -/
theorem reloadConfigIfChanged_cases (nowMs : UInt64) (provider : Option ProviderReplies) (s : BridgeState) :
    ((¬ ∃ p, provider = some p ∧ ReachesCommit p s) ∧
        ∃ ec audit writes, reloadConfigIfChanged hashString nowMs provider s =
          (ec, { s with audit, traffic := { s.traffic with diagnosticSnapshotWriteCount := writes } })) ∨
      (∃ p, provider = some p ∧ ReachesCommit p s ∧ commitChecks hashString p s = true ∧
        reloadConfigIfChanged hashString nowMs provider s = (.ok, acceptReload hashString nowMs p s)) ∨
      (∃ p, provider = some p ∧ ReachesCommit p s ∧ commitChecks hashString p s = false ∧
        reloadConfigIfChanged hashString nowMs provider s =
          (rejectedStatus hashString p s, rejectReload hashString p s)) := by
  cases provider with
  | none => exact .inl ⟨by simp, _, _, _, rfl⟩
  | some p =>
    have hearly : ¬ ReachesCommit p s → ¬ ∃ q, some p = some q ∧ ReachesCommit q s := by
      rintro hnot ⟨q, heq, hq⟩
      cases heq
      exact hnot hq
    simp only [reloadConfigIfChanged]
    split
    · next h => exact .inl ⟨hearly fun hr => h hr.reload, _, _, _, rfl⟩
    split
    · next h => exact .inl ⟨hearly fun hr => hr.version h, _, _, _, rfl⟩
    split
    · next h => exact .inl ⟨hearly fun hr => h hr.load, _, _, _, rfl⟩
    unfold installLoaded
    split
    · next h => exact .inl ⟨hearly fun hr => Bool.false_ne_true (hr.risk.symm.trans h), _, _, _, rfl⟩
    split
    · next h => exact .inl ⟨hearly fun hr => Bool.false_ne_true (h.symm.trans hr.lock), _, _, _, rfl⟩
    next hreload hversion hload hrisk hlock =>
      have hr : ReachesCommit p s :=
        ⟨not_not.1 hreload, hversion, not_not.1 hload, Bool.not_eq_true _ ▸ hrisk,
          Bool.not_eq_false _ ▸ hlock⟩
      split
      · next h => exact .inr (.inl ⟨p, rfl, hr, h, rfl⟩)
      · next h => exact .inr (.inr ⟨p, rfl, hr, Bool.not_eq_true _ ▸ h, rfl⟩)

theorem rejectedStatus_ne_ok (p : ProviderReplies) (s : BridgeState) : rejectedStatus hashString p s ≠ .ok := by
  unfold rejectedStatus
  split <;> decide

/-- A commit taken back changes the audit record, empties the cache, and leaves the settings derived from the
configuration it refused. -/
private theorem rejectReload_eq (p : ProviderReplies) (s : BridgeState) :
    rejectReload hashString p s =
      { s with
        settings := runtimeSettings p.config
        policyCache := s.policyCache.clear
        audit := (rejectReload hashString p s).audit } := by
  rfl

/-- The last check reads fields that adopting a configuration does not touch. -/
private theorem commitChecks_eq (p : ProviderReplies) (s : BridgeState) :
    commitChecks hashString p s =
      (configValid (normalizePolicyDefaults p.config) &&
        signatureOk s.lastKnownGood (nextLoaded hashString p).signature) := by
  have h : configValid (adoptConfig (normalizePolicyDefaults p.config) s).config =
      configValid (normalizePolicyDefaults p.config) := by
    simp only [adoptConfig, rebuildPolicyIndex, populateDefaultTemplateRules]
    split <;> rfl
  rw [commitChecks, h]

/-! ### Refused reloads -/

/-- Only the audit record (with its snapshot count) and emptied caches tell the two states apart. -/
structure KeptAsItWas (s s' : BridgeState) : Prop where
  rest : s' = { s with
    audit := s'.audit
    policyCache := s'.policyCache
    traffic := { s.traffic with diagnosticSnapshotWriteCount := s'.traffic.diagnosticSnapshotWriteCount } }
  cache : s'.policyCache = s.policyCache ∨ s'.policyCache = s.policyCache.clear

/-- **Refused reloads.**  A reload that does not return `kOk` leaves the bridge as it was exactly when it does not
get as far as taking back a commit, or the five settings derived from the refused configuration are those already
in force. -/
theorem reload_refused_keeps_iff (nowMs : UInt64) (provider : Option ProviderReplies) (s : BridgeState) :
    ((reloadConfigIfChanged hashString nowMs provider s).1 ≠ .ok →
        KeptAsItWas s (reloadConfigIfChanged hashString nowMs provider s).2) ↔
      ∀ p, provider = some p → ReachesCommit p s →
        (configValid (normalizePolicyDefaults p.config) &&
          signatureOk s.lastKnownGood (nextLoaded hashString p).signature) = false →
        runtimeSettings p.config = s.settings := by
  simp only [← commitChecks_eq]
  rcases reloadConfigIfChanged_cases hashString nowMs provider s with
    ⟨hearly, ec, audit, writes, heq⟩ | ⟨p, rfl, -, hok, heq⟩ | ⟨p, rfl, hr, hbad, heq⟩
  · rw [heq]
    exact iff_of_true (fun _ => ⟨rfl, .inl rfl⟩) fun p hp hr _ => absurd ⟨p, hp, hr⟩ hearly
  · rw [heq]
    refine iff_of_true (fun hne => absurd rfl hne) fun q hq _ hbad => ?_
    cases hq
    rw [hok] at hbad
    cases hbad
  · rw [heq]
    constructor
    · intro hkept q hq _ _
      cases hq
      have hrest := (hkept (rejectedStatus_ne_ok hashString p s)).rest
      exact congrArg BridgeState.settings hrest
    · intro hsame _
      have hsettings := hsame p rfl hr hbad
      refine ⟨?_, .inr rfl⟩
      calc rejectReload hashString p s
          = { s with
              settings := runtimeSettings p.config
              policyCache := s.policyCache.clear
              audit := (rejectReload hashString p s).audit } := rejectReload_eq hashString p s
        _ = _ := by rw [hsettings]; rfl

end

/-- The reload of a configuration without workers is refused, and its trace sampling rate stays in force. -/
theorem reload_refused_forgets : ¬ ∀ (hashString : Bytes → UInt64) (nowMs : UInt64)
    (provider : Option ProviderReplies) (s : BridgeState),
    (reloadConfigIfChanged hashString nowMs provider s).1 ≠ .ok →
      KeptAsItWas s (reloadConfigIfChanged hashString nowMs provider s).2 := by
  intro h
  have hkept := h (fun _ => 0) 0
    (some { version := 1, source := text "static://bad",
            config := { plainConfig with threadPool := { workerCount := 0 }, traceSampleRatePercent := 50 } })
    plainBridge (by decide)
  have hrate := congrArg (fun s => s.settings.traceSampleRatePercent) hkept.rest
  revert hrate
  decide

end VehicleBridge
