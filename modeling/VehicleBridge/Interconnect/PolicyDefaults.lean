import VehicleBridge.Interconnect.BridgeConfig

/-!
# The normalisation of the default policy

`NormalizePolicyDefaults` replaces a stock default policy by `sla_policy`, and then fills in what the policy leaves
open: its retry budget and its drop policy.  The two halves are `replaceStock` and `fillDefaults`.  Filling in touches
nothing else (`fillDefaults_frame`) and has nothing left to do the second time, and so normalising twice is normalising
once (`normalizePolicyDefaults_idem`).
-/

namespace VehicleBridge

/-- The test that lets `sla_policy` replace the default policy: no rules, and the values a policy has by default. -/
structure StockPolicy (rules : List PolicyRule) (policy : BridgeSlaPolicy) : Prop where
  rules : rules.isEmpty
  latency : policy.maxEndToEndLatencyMs = 100
  receiveTimeout : policy.transportReceiveTimeoutMs = 50
  sendTimeout : policy.transportSendTimeoutMs = 50
  backpressure : policy.backpressurePolicy = .reject

private theorem stockPolicy_iff (rules : List PolicyRule) (policy : BridgeSlaPolicy) :
    StockPolicy rules policy ↔ rules.isEmpty ∧ policy.maxEndToEndLatencyMs = 100 ∧
      policy.transportReceiveTimeoutMs = 50 ∧ policy.transportSendTimeoutMs = 50 ∧
        policy.backpressurePolicy = .reject :=
  ⟨fun h => ⟨h.rules, h.latency, h.receiveTimeout, h.sendTimeout, h.backpressure⟩,
    fun h => ⟨h.1, h.2.1, h.2.2.1, h.2.2.2.1, h.2.2.2.2⟩⟩

instance (rules : List PolicyRule) (policy : BridgeSlaPolicy) : Decidable (StockPolicy rules policy) :=
  decidable_of_iff' _ (stockPolicy_iff rules policy)

def replaceStock (rules : List PolicyRule) (sla policy : BridgeSlaPolicy) : BridgeSlaPolicy :=
  if StockPolicy rules policy then sla else policy

def fillRetry (sla policy : BridgeSlaPolicy) : BridgeSlaPolicy :=
  if policy.retryBudget.maxRetries ≤ 0 then { policy with retryBudget := sla.retryBudget } else policy

def fillDrop (sla policy : BridgeSlaPolicy) : BridgeSlaPolicy :=
  if policy.dropPolicy = .dropNone then { policy with dropPolicy := sla.dropPolicy } else policy

/-- A policy that drops the oldest message under backpressure has a drop policy that says so. -/
def matchDrop (policy : BridgeSlaPolicy) : BridgeSlaPolicy :=
  if policy.dropPolicy = .dropNone ∧ policy.backpressurePolicy = .dropOldest then
    { policy with dropPolicy := .dropOldest }
  else policy

def fillDefaults (sla policy : BridgeSlaPolicy) : BridgeSlaPolicy :=
  matchDrop (fillDrop sla (fillRetry sla policy))

theorem normalizePolicyDefaults_eq (config : BridgeConfig) :
    normalizePolicyDefaults config =
      { config with policyTable := { config.policyTable with
          defaultPolicy := fillDefaults config.slaPolicy
            (replaceStock config.policyTable.rules config.slaPolicy config.policyTable.defaultPolicy) } } := by
  have hstock : replaceStock config.policyTable.rules config.slaPolicy config.policyTable.defaultPolicy =
      if config.policyTable.rules.isEmpty ∧ config.policyTable.defaultPolicy.maxEndToEndLatencyMs = 100 ∧
          config.policyTable.defaultPolicy.transportReceiveTimeoutMs = 50 ∧
          config.policyTable.defaultPolicy.transportSendTimeoutMs = 50 ∧
          config.policyTable.defaultPolicy.backpressurePolicy = .reject then config.slaPolicy
      else config.policyTable.defaultPolicy :=
    if_congr (stockPolicy_iff _ _) rfl rfl
  rw [hstock]
  rfl

theorem normalizePolicyDefaults_defaultPolicy (config : BridgeConfig) :
    (normalizePolicyDefaults config).policyTable.defaultPolicy = fillDefaults config.slaPolicy
      (replaceStock config.policyTable.rules config.slaPolicy config.policyTable.defaultPolicy) := by
  rw [normalizePolicyDefaults_eq]

/-! ### Filling in -/

variable (sla policy : BridgeSlaPolicy)

/-- Filling in changes the retry budget and the drop policy at most. -/
theorem fillDefaults_frame :
    fillDefaults sla policy =
      { policy with
        retryBudget := (fillDefaults sla policy).retryBudget
        dropPolicy := (fillDefaults sla policy).dropPolicy } := by
  simp only [fillDefaults, matchDrop, fillDrop, fillRetry]
  split_ifs <;> rfl

private theorem fillDefaults_lockPolicy : (fillDefaults sla policy).lockPolicy = policy.lockPolicy := by
  rw [fillDefaults_frame]

private theorem stockPolicy_fillDefaults (rules : List PolicyRule) :
    StockPolicy rules (fillDefaults sla policy) ↔ StockPolicy rules policy := by
  rw [fillDefaults_frame, stockPolicy_iff, stockPolicy_iff]

private theorem fillDefaults_retryBudget :
    (fillDefaults sla policy).retryBudget =
      if policy.retryBudget.maxRetries ≤ 0 then sla.retryBudget else policy.retryBudget := by
  simp only [fillDefaults, matchDrop, fillDrop, fillRetry]
  split_ifs <;> rfl

private theorem fillDefaults_dropPolicy :
    (fillDefaults sla policy).dropPolicy =
      (matchDrop (fillDrop sla policy)).dropPolicy := by
  simp only [fillDefaults, matchDrop, fillDrop, fillRetry]
  split_ifs <;> rfl

/-- A drop policy still open after filling in is open in `sla_policy` too, and is no contradiction. -/
private theorem fillDefaults_dropNone (h : (fillDefaults sla policy).dropPolicy = .dropNone) :
    sla.dropPolicy = .dropNone ∧ policy.backpressurePolicy ≠ .dropOldest := by
  rw [fillDefaults_dropPolicy] at h
  simp only [matchDrop, fillDrop] at h
  split_ifs at h <;> simp_all

private theorem fillDefaults_idem : fillDefaults sla (fillDefaults sla policy) = fillDefaults sla policy := by
  have hretry : fillRetry sla (fillDefaults sla policy) = fillDefaults sla policy := by
    unfold fillRetry
    split
    · next h =>
      rw [fillDefaults_retryBudget] at h
      have hsla : sla.retryBudget = (fillDefaults sla policy).retryBudget := by
        rw [fillDefaults_retryBudget]
        split at h
        · next hle => rw [if_pos hle]
        · next hgt => exact absurd h hgt
      rw [hsla]
    · rfl
  have hdrop : fillDrop sla (fillDefaults sla policy) = fillDefaults sla policy := by
    unfold fillDrop
    split
    · next h => rw [(fillDefaults_dropNone sla policy h).1, ← h]
    · rfl
  have hmatch : matchDrop (fillDefaults sla policy) = fillDefaults sla policy := by
    unfold matchDrop
    split
    · next h =>
      have hbackpressure : policy.backpressurePolicy = .dropOldest := by
        rw [fillDefaults_frame] at h
        exact h.2
      exact absurd hbackpressure (fillDefaults_dropNone sla policy h.1).2
    · rfl
  conv => lhs; rw [fillDefaults, hretry, hdrop, hmatch]

/-! ### The normalised configuration -/

/-- A stock policy is replaced, and afterwards it is a stock policy only if `sla_policy` is one. -/
theorem fillDefaults_replaceStock_idem (rules : List PolicyRule) :
    fillDefaults sla (replaceStock rules sla (fillDefaults sla (replaceStock rules sla policy))) =
      fillDefaults sla (replaceStock rules sla policy) := by
  conv => lhs; arg 2; rw [replaceStock]
  split
  · next h =>
    rw [stockPolicy_fillDefaults] at h
    have hsla : replaceStock rules sla policy = sla := by
      unfold replaceStock at h ⊢
      split at h
      · next hstock => rw [if_pos hstock]
      · next hnot => exact absurd h hnot
    rw [hsla]
  · exact fillDefaults_idem sla _

/-- Normalising twice is normalising once. -/
theorem normalizePolicyDefaults_idem (config : BridgeConfig) :
    normalizePolicyDefaults (normalizePolicyDefaults config) = normalizePolicyDefaults config := by
  rw [normalizePolicyDefaults_eq config, normalizePolicyDefaults_eq]
  simp only [fillDefaults_replaceStock_idem]

/-- The lock of a default policy survives unless the policy is replaced. -/
theorem normalizePolicyDefaults_lockPolicy (config : BridgeConfig) :
    (normalizePolicyDefaults config).policyTable.defaultPolicy.lockPolicy =
      if StockPolicy config.policyTable.rules config.policyTable.defaultPolicy then config.slaPolicy.lockPolicy
      else config.policyTable.defaultPolicy.lockPolicy := by
  rw [normalizePolicyDefaults_defaultPolicy, fillDefaults_lockPolicy, replaceStock]
  split <;> rfl

/-- The policy but for its retry budget and its drop policy, which filling in may change. -/
def FilledFrom (policy filled : BridgeSlaPolicy) : Prop :=
  filled = { policy with retryBudget := filled.retryBudget, dropPolicy := filled.dropPolicy }

/-- **Normalising defaults**: it is idempotent and changes the default policy only, which is then filled in from the old
one or from `sla_policy`, and does not both drop the oldest message under backpressure and drop none. -/
theorem normalizePolicyDefaults_confined (config : BridgeConfig) :
    normalizePolicyDefaults (normalizePolicyDefaults config) = normalizePolicyDefaults config ∧
      normalizePolicyDefaults config =
        { config with policyTable := { config.policyTable with
            defaultPolicy := (normalizePolicyDefaults config).policyTable.defaultPolicy } } ∧
      (FilledFrom config.policyTable.defaultPolicy (normalizePolicyDefaults config).policyTable.defaultPolicy ∨
        FilledFrom config.slaPolicy (normalizePolicyDefaults config).policyTable.defaultPolicy) ∧
      ¬ ((normalizePolicyDefaults config).policyTable.defaultPolicy.backpressurePolicy = .dropOldest ∧
        (normalizePolicyDefaults config).policyTable.defaultPolicy.dropPolicy = .dropNone) := by
  have hconfined : normalizePolicyDefaults config =
      { config with policyTable := { config.policyTable with
          defaultPolicy := (normalizePolicyDefaults config).policyTable.defaultPolicy } } := by
    rw [normalizePolicyDefaults_eq]
  refine ⟨normalizePolicyDefaults_idem config, hconfined, ?_, ?_⟩
  · rw [normalizePolicyDefaults_defaultPolicy, replaceStock]
    split
    · exact .inr (fillDefaults_frame _ _)
    · exact .inl (fillDefaults_frame _ _)
  · rw [normalizePolicyDefaults_defaultPolicy]
    rintro ⟨hbackpressure, hdrop⟩
    rw [fillDefaults_frame] at hbackpressure
    exact (fillDefaults_dropNone _ _ hdrop).2 hbackpressure

end VehicleBridge
