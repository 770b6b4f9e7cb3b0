import VehicleBridge.Interconnect.Setup

/-!
# The policy lock

A locked default policy is to stay as it is.  A reload compares six of its fields with those of the new one
(`LockedFields`), but not the lock itself, which is data of the new configuration too: the lock holds through a
sequence of reloads exactly when none of them commits an unlocked policy (`lock_kept_iff`).  Before that, the lock has
to survive the normalisation of the configuration that brings it (`lock_in_force_iff`).
-/

namespace VehicleBridge

open ByteText

/-- The fields of a default policy that a reload compares. -/
structure LockedFields (policy next : BridgeSlaPolicy) : Prop where
  latency : policy.maxEndToEndLatencyMs = next.maxEndToEndLatencyMs
  receiveTimeout : policy.transportReceiveTimeoutMs = next.transportReceiveTimeoutMs
  sendTimeout : policy.transportSendTimeoutMs = next.transportSendTimeoutMs
  backpressure : policy.backpressurePolicy = next.backpressurePolicy
  drop : policy.dropPolicy = next.dropPolicy
  retry : policy.retryBudget = next.retryBudget

/-- The default policy of the configuration in force. -/
def BridgeState.defaultPolicy (s : BridgeState) : BridgeSlaPolicy :=
  s.config.policyTable.defaultPolicy

/-- The lock is still on, and the fields it locks are unchanged. -/
structure LockKept (policy next : BridgeSlaPolicy) : Prop where
  locked : next.lockPolicy = true
  fields : LockedFields policy next

/-- The arguments of a call of `ReloadConfigIfChanged`: the clock and the provider's answers. -/
abbrev ReloadCall := UInt64 × Option ProviderReplies

/-- The provider's configuration, as a reload installs it, is locked. -/
def ProviderReplies.Locked (p : ProviderReplies) : Prop :=
  (normalizePolicyDefaults p.config).policyTable.defaultPolicy.lockPolicy = true

section
variable (hashString : Bytes → UInt64)

def ReloadCall.run (call : ReloadCall) (s : BridgeState) : ErrorCode × BridgeState :=
  reloadConfigIfChanged hashString call.1 call.2 s

/-- The bridge after each of several reloads. -/
def reloads : BridgeState → List ReloadCall → List BridgeState
  | _, [] => []
  | s, call :: calls => (call.run hashString s).2 :: reloads (call.run hashString s).2 calls

/-- The configuration a reload would commit is locked. -/
def ReloadCall.CommitsLocked (call : ReloadCall) (s : BridgeState) : Prop :=
  ∀ p, call.2 = some p → ReachesCommit p s → commitChecks hashString p s = true → p.Locked

/-- No reload of a sequence commits an unlocked configuration. -/
def CommitLocked : BridgeState → List ReloadCall → Prop
  | _, [] => True
  | s, call :: calls => call.CommitsLocked hashString s ∧ CommitLocked (call.run hashString s).2 calls

end

/-! ### One reload -/

private theorem preservesLockedPolicy_iff {current next : BridgeConfig}
    (hlocked : current.policyTable.defaultPolicy.lockPolicy = true) :
    preservesLockedPolicy current next = true ↔
      LockedFields current.policyTable.defaultPolicy next.policyTable.defaultPolicy := by
  simp only [preservesLockedPolicy, hlocked, Bool.not_true, Bool.false_or, Bool.and_eq_true, decide_eq_true_iff]
  exact ⟨fun h => ⟨h.1.1.1.1.1, h.1.1.1.1.2, h.1.1.1.2, h.1.1.2, h.1.2, h.2⟩,
    fun h => ⟨⟨⟨⟨⟨h.latency, h.receiveTimeout⟩, h.sendTimeout⟩, h.backpressure⟩, h.drop⟩, h.retry⟩⟩

theorem LockedFields.refl (policy : BridgeSlaPolicy) : LockedFields policy policy :=
  ⟨rfl, rfl, rfl, rfl, rfl, rfl⟩

theorem LockedFields.symm {policy next : BridgeSlaPolicy} (h : LockedFields policy next) : LockedFields next policy :=
  ⟨h.latency.symm, h.receiveTimeout.symm, h.sendTimeout.symm, h.backpressure.symm, h.drop.symm, h.retry.symm⟩

theorem LockedFields.trans {policy next last : BridgeSlaPolicy} (h : LockedFields policy next)
    (h' : LockedFields next last) : LockedFields policy last :=
  ⟨h.latency.trans h'.latency, h.receiveTimeout.trans h'.receiveTimeout, h.sendTimeout.trans h'.sendTimeout,
    h.backpressure.trans h'.backpressure, h.drop.trans h'.drop, h.retry.trans h'.retry⟩

section
variable {hashString : Bytes → UInt64}

/-- **The step lemma**: one reload keeps a lock exactly when it does not commit an unlocked configuration. -/
theorem lockKept_iff {s : BridgeState} (hlocked : s.defaultPolicy.lockPolicy = true) (call : ReloadCall) :
    LockKept s.defaultPolicy (call.run hashString s).2.defaultPolicy ↔ call.CommitsLocked hashString s := by
  obtain ⟨nowMs, provider⟩ := call
  unfold ReloadCall.run ReloadCall.CommitsLocked
  rcases reloadConfigIfChanged_cases hashString nowMs provider s with
    ⟨hearly, ec, audit, writes, heq⟩ | ⟨p, rfl, hreaches, hchecks, heq⟩ | ⟨p, rfl, -, hbad, heq⟩
  · rw [heq]
    refine iff_of_true ⟨hlocked, .refl _⟩ fun p hp hreaches _ => ?_
    exact absurd ⟨p, hp, hreaches⟩ hearly
  · have hdefault : (acceptReload hashString nowMs p s).defaultPolicy =
        (normalizePolicyDefaults p.config).policyTable.defaultPolicy := effectiveConfig_defaultPolicy p.config
    rw [heq, hdefault]
    constructor
    · intro hkept q hq _ _
      cases hq
      exact hkept.locked
    · exact fun h => ⟨h p rfl hreaches hchecks, (preservesLockedPolicy_iff hlocked).1 hreaches.lock⟩
  · rw [heq]
    refine iff_of_true ⟨hlocked, .refl _⟩ fun q hq _ hgood => ?_
    cases hq
    exact absurd (hbad.symm.trans hgood) Bool.false_ne_true

/-! ### Sequences of reloads -/

/-- **A locked policy stays locked** through a sequence of reloads, with its six fields, if and only if no reload of
the sequence commits an unlocked configuration. -/
theorem lock_kept_iff {s : BridgeState} (hlocked : s.defaultPolicy.lockPolicy = true) (calls : List ReloadCall) :
    (∀ s' ∈ reloads hashString s calls, LockKept s.defaultPolicy s'.defaultPolicy) ↔
      CommitLocked hashString s calls := by
  induction calls generalizing s with
  | nil => exact iff_of_true (fun _ h => absurd h List.not_mem_nil) trivial
  | cons call calls ih =>
    rw [reloads, List.forall_mem_cons, CommitLocked, lockKept_iff hlocked]
    refine and_congr_right fun hcommits => ?_
    have hkept := (lockKept_iff hlocked call).2 hcommits
    rw [← ih hkept.locked]
    refine forall₂_congr fun s' _ => ⟨fun h => ⟨h.locked, ?_⟩, fun h => ⟨h.locked, ?_⟩⟩
    · exact hkept.fields.symm.trans h.fields
    · exact hkept.fields.trans h.fields

end

/-- The plain configuration with a default policy of its own, locked or not. -/
def lockConfig (lockPolicy : Bool) : BridgeConfig :=
  { plainConfig with policyTable := { defaultPolicy := { maxEndToEndLatencyMs := 80, lockPolicy } } }

/-- A bridge with a locked default policy. -/
def lockedBridge : BridgeState :=
  (start (fun _ => 0) {} (lockConfig true) {}).2

/-- A provider's version 1 of a configuration, reloaded. -/
def reloadOf (config : BridgeConfig) : ReloadCall :=
  (0, some { version := 1, config, source := text "static://first" })

theorem lock_kept_iff_unlocked :
    (∀ s' ∈ reloads (fun _ => 0) lockedBridge [reloadOf (lockConfig false)],
        LockKept lockedBridge.defaultPolicy s'.defaultPolicy) ↔
      CommitLocked (fun _ => 0) lockedBridge [reloadOf (lockConfig false)] :=
  lock_kept_iff (by decide) _

/-- A reload of the same policy without its lock is accepted. -/
theorem lock_not_kept : ¬ ∀ (hashString : Bytes → UInt64) (env : StartEnv) (config : BridgeConfig)
    (calls : List ReloadCall), (start hashString env config {}).2.defaultPolicy.lockPolicy = true →
      ∀ s' ∈ reloads hashString (start hashString env config {}).2 calls,
        LockKept (start hashString env config {}).2.defaultPolicy s'.defaultPolicy := by
  intro hall
  have hkept := hall (fun _ => 0) {} (lockConfig true) [reloadOf (lockConfig false)] (by decide) _ List.mem_cons_self
  have hlocked := hkept.locked
  revert hlocked
  decide

/-! ### From the configuration to the lock -/

section
variable (hashString : Bytes → UInt64)

/-- The bridge after several reloads. -/
def afterReloads (s : BridgeState) (calls : List ReloadCall) : BridgeState :=
  calls.foldl (fun s call => (call.run hashString s).2) s

/-- The provider delivers a new version to a bridge without a risk guard. -/
structure DeliversUnguarded (p : ProviderReplies) (s : BridgeState) : Prop where
  guardOff : s.config.enableConfigRiskGuard = false
  reload : p.reload = .ok
  load : p.load = .ok
  version : p.version ≠ s.loaded.version

/-- The reload was refused for the policy lock. -/
structure RefusedByLock (s : BridgeState) (result : ErrorCode × BridgeState) : Prop where
  code : result.1 = .invalidParam
  reason : result.2.audit.rollbackReasonCode = 5
  config : result.2.config = s.config

/-- The default policy is locked, and a reload that would change a field of it is refused, also after other reloads
that have not committed an unlocked configuration. -/
structure LockInForce (s : BridgeState) : Prop where
  locked : s.defaultPolicy.lockPolicy = true
  refuses : ∀ calls, CommitLocked hashString s calls → ∀ nowMs p,
    DeliversUnguarded p (afterReloads hashString s calls) →
      ¬ LockedFields s.defaultPolicy (normalizePolicyDefaults p.config).policyTable.defaultPolicy →
        RefusedByLock (afterReloads hashString s calls)
          (reloadConfigIfChanged hashString nowMs (some p) (afterReloads hashString s calls))

variable {hashString}

private theorem afterReloads_lockKept {s : BridgeState} (hlocked : s.defaultPolicy.lockPolicy = true)
    {calls : List ReloadCall} (hcommits : CommitLocked hashString s calls) :
    LockKept s.defaultPolicy (afterReloads hashString s calls).defaultPolicy := by
  induction calls generalizing s with
  | nil => exact ⟨hlocked, .refl _⟩
  | cons call calls ih =>
    have hfirst := (lockKept_iff hlocked call).2 hcommits.1
    have hrest := ih hfirst.locked hcommits.2
    exact ⟨hrest.locked, hfirst.fields.trans hrest.fields⟩

private theorem refusedByLock {s : BridgeState} (hlocked : s.defaultPolicy.lockPolicy = true) (nowMs : UInt64)
    {p : ProviderReplies} (hdelivers : DeliversUnguarded p s)
    (hfields : ¬ LockedFields s.defaultPolicy (normalizePolicyDefaults p.config).policyTable.defaultPolicy) :
    RefusedByLock s (reloadConfigIfChanged hashString nowMs (some p) s) := by
  have hlock : preservesLockedPolicy s.config (normalizePolicyDefaults p.config) = false :=
    Bool.not_eq_true _ ▸ mt (preservesLockedPolicy_iff hlocked).1 hfields
  have hrisk : blockedByRiskGuard s.config (normalizePolicyDefaults p.config) = false := by
    simp only [blockedByRiskGuard, hdelivers.guardOff, Bool.false_and]
  have heq : reloadConfigIfChanged hashString nowMs (some p) s = installLoaded hashString nowMs p s := by
    simp only [reloadConfigIfChanged, hdelivers.reload, hdelivers.version, hdelivers.load, ne_eq, not_true_eq_false,
      if_false]
  rw [heq, installLoaded, if_neg (by rw [hrisk]; decide), if_pos hlock]
  exact ⟨rfl, rfl, rfl⟩

private theorem lockInForce_iff (s : BridgeState) : LockInForce hashString s ↔ s.defaultPolicy.lockPolicy = true := by
  refine ⟨LockInForce.locked, fun hlocked => ⟨hlocked, fun calls hcommits nowMs p hdelivers hfields => ?_⟩⟩
  have hkept := afterReloads_lockKept hlocked hcommits
  exact refusedByLock hkept.locked nowMs hdelivers fun h => hfields (hkept.fields.trans h)

/-- **A configured lock** is in force after a start that returned `kOk` if and only if the default policy is no stock
policy, or the `sla_policy` that replaces it is locked; on a bridge that ran before, if its own policy is locked. -/
theorem lock_in_force_iff {env : StartEnv} {config : BridgeConfig} {s : BridgeState}
    (hlock : config.policyTable.defaultPolicy.lockPolicy = true) (hok : (start hashString env config s).1 = .ok) :
    LockInForce hashString (start hashString env config s).2 ↔
      if s.running then s.defaultPolicy.lockPolicy = true
      else StockPolicy config.policyTable.rules config.policyTable.defaultPolicy →
        config.slaPolicy.lockPolicy = true := by
  rw [lockInForce_iff]
  split
  · next hrunning =>
    rw [start_of_running hashString env config hrunning]
  · next hnot =>
    have hstopped : s.running = false := Bool.not_eq_true _ ▸ hnot
    have hdefault : (start hashString env config s).2.defaultPolicy =
        (normalizePolicyDefaults config).policyTable.defaultPolicy :=
      (congrArg (·.config.policyTable.defaultPolicy) (start_setup_of_ok hstopped hok)).trans
        (effectiveConfig_defaultPolicy config)
    rw [hdefault, normalizePolicyDefaults_lockPolicy]
    split
    · next hstock => exact ⟨fun h _ => h, fun h => h hstock⟩
    · next hother => exact iff_of_true hlock fun hstock => absurd hstock hother

end

theorem lock_in_force_iff_lockConfig :
    LockInForce (fun _ => 0) (start (fun _ => 0) {} (lockConfig true) {}).2 ↔
      if ({} : BridgeState).running then ({} : BridgeState).defaultPolicy.lockPolicy = true
      else StockPolicy (lockConfig true).policyTable.rules (lockConfig true).policyTable.defaultPolicy →
        (lockConfig true).slaPolicy.lockPolicy = true :=
  lock_in_force_iff rfl rfl

/-- A lock on a stock default policy is lost with the policy. -/
theorem lock_not_in_force : ¬ ∀ (hashString : Bytes → UInt64) (env : StartEnv) (config : BridgeConfig),
    config.policyTable.defaultPolicy.lockPolicy = true → (start hashString env config {}).1 = .ok →
      (start hashString env config {}).2.defaultPolicy.lockPolicy = true := by
  intro hall
  have hlocked := hall (fun _ => 0) {} { plainConfig with policyTable := { defaultPolicy := { lockPolicy := true } } }
    rfl rfl
  revert hlocked
  decide

end VehicleBridge
