import VehicleBridge.Interconnect.MetricsRefresh
import VehicleBridge.Interconnect.PolicyConflicts

/-!
# The lint report and the lint counts

`BuildPolicyLintReport` collects what is wrong with a policy table, `GetPolicyLintCounts` goes over the table again and
only counts; the report prints both, the lengths of its own lists and the counts as its summary.  The two scans find the
same, but for the layers without rules: the report warns of them, the counts do not (`sizes_policyLint`).
-/

namespace VehicleBridge

open ByteText

/-! ### What is checked -/

def negativeTimeout (policy : BridgeSlaPolicy) : Bool :=
  decide (policy.transportReceiveTimeoutMs < 0 ∨ policy.transportSendTimeoutMs < 0)

def retryBudgetInvalid (policy : BridgeSlaPolicy) : Bool :=
  decide (policy.retryBudget.maxRetries < 0 ∨ policy.retryBudget.initialBackoffMs < 0 ∨
    policy.retryBudget.maxBackoffMs < policy.retryBudget.initialBackoffMs)

def dropOldestUnbacked (policy : BridgeSlaPolicy) : Bool :=
  decide (policy.dropPolicy = .dropOldest ∧ policy.backpressurePolicy ≠ .dropOldest)

/-! ### The report -/

/-- The vectors `issues` and `warnings`. -/
structure PolicyLint where
  issues : List Bytes := []
  warnings : List Bytes := []
  deriving DecidableEq, Repr

def PolicyLint.issueIf (found : Bool) (message : Bytes) (lint : PolicyLint) : PolicyLint :=
  if found then { lint with issues := lint.issues ++ [message] } else lint

def PolicyLint.warnIf (found : Bool) (message : Bytes) (lint : PolicyLint) : PolicyLint :=
  if found then { lint with warnings := lint.warnings ++ [message] } else lint

/-- `validate_default`. -/
def validateDefault (policy : BridgeSlaPolicy) (label : Bytes) (lint : PolicyLint) : PolicyLint :=
  let lint := lint.issueIf (negativeTimeout policy) (label ++ text ": negative timeout")
  let lint := lint.issueIf (retryBudgetInvalid policy) (label ++ text ": retry budget invalid")
  lint.warnIf (dropOldestUnbacked policy) (label ++ text ": drop_oldest without backpressure drop_oldest")

/-- The loop body of `collect_issues`. -/
def collectRuleIssues (label : Bytes) (lint : PolicyLint) (entry : PolicyRule × Nat) : PolicyLint :=
  let name := label ++ text " rule[" ++ decimal entry.2 ++ text "]"
  let lint := lint.issueIf entry.1.topic.isEmpty (name ++ text " missing topic")
  let lint := lint.issueIf (negativeTimeout entry.1.policy) (name ++ text " has negative timeout")
  let lint := lint.issueIf (retryBudgetInvalid entry.1.policy) (name ++ text " retry budget invalid")
  lint.warnIf (dropOldestUnbacked entry.1.policy) (name ++ text " drop_oldest without backpressure drop_oldest")

def collectIssues (label : Bytes) (rules : List PolicyRule) (lint : PolicyLint) : PolicyLint :=
  if rules.isEmpty then { lint with warnings := lint.warnings ++ [label ++ text ": empty rule set"] }
  else rules.zipIdx.foldl (collectRuleIssues label) lint

/-- What `BuildPolicyLintReport` lists. -/
def policyLint (table : BridgePolicyTable) : PolicyLint :=
  let lint := validateDefault table.defaultPolicy (text "default_policy") {}
  let lint := collectIssues (text "template_rules") table.templateRules lint
  let lint := collectIssues (text "rules") table.rules lint
  let lint := collectIssues (text "runtime_overrides") table.runtimeOverrides lint
  { lint with issues := lint.issues ++ collectPolicyConflicts table }

structure LintCounts where
  issues : UInt64 := 0
  warnings : UInt64 := 0
  deriving DecidableEq, Repr

/-- The `size()` of the two vectors. -/
def PolicyLint.sizes (lint : PolicyLint) : LintCounts :=
  { issues := UInt64.ofNat lint.issues.length, warnings := UInt64.ofNat lint.warnings.length }

/-! ### The counts -/

/-- `count`. -/
def countPolicy (policy : BridgeSlaPolicy) (counts : LintCounts) : LintCounts :=
  let counts := if negativeTimeout policy then { counts with issues := counts.issues + 1 } else counts
  let counts := if retryBudgetInvalid policy then { counts with issues := counts.issues + 1 } else counts
  if dropOldestUnbacked policy then { counts with warnings := counts.warnings + 1 } else counts

/-- The loop body of `scan_rules`, which counts as `count` does once the topic is checked. -/
def countRule (counts : LintCounts) (rule : PolicyRule) : LintCounts :=
  let counts := if rule.topic.isEmpty then { counts with issues := counts.issues + 1 } else counts
  countPolicy rule.policy counts

def countRules (rules : List PolicyRule) (counts : LintCounts) : LintCounts :=
  rules.foldl countRule counts

def getPolicyLintCounts (table : BridgePolicyTable) : LintCounts :=
  let counts := countPolicy table.defaultPolicy {}
  let counts := countRules table.templateRules counts
  let counts := countRules table.rules counts
  let counts := countRules table.runtimeOverrides counts
  { counts with issues := counts.issues + UInt64.ofNat (collectPolicyConflicts table).length }

/-! ### What is shown -/

def lintSummary (counts : LintCounts) : Bytes :=
  text "issues=" ++ decimal counts.issues.toNat ++ text ",warnings=" ++ decimal counts.warnings.toNat

def buildPolicyLintSummary (table : BridgePolicyTable) : Bytes :=
  lintSummary (getPolicyLintCounts table)

def lintLines (entries : List Bytes) : Bytes :=
  entries.flatMap fun entry => text "  - " ++ entry ++ text "\n"

def buildPolicyLintReport (table : BridgePolicyTable) : Bytes :=
  let lint := policyLint table
  text "policy_lint:\n" ++
    if lint.issues.isEmpty ∧ lint.warnings.isEmpty then text "  status: ok\n"
    else
      (if lint.issues.isEmpty then []
        else text "  status: issues(" ++ decimal lint.sizes.issues.toNat ++ text ")\n" ++ lintLines lint.issues) ++
      (if lint.warnings.isEmpty then []
        else text "  warnings(" ++ decimal lint.sizes.warnings.toNat ++ text ")\n" ++ lintLines lint.warnings) ++
      text "  summary: " ++ buildPolicyLintSummary table ++ text "\n"

/-- What a refresh finds on a bridge with this table. -/
def OtherMetrics.withLintCounts (table : BridgePolicyTable) (other : OtherMetrics) : OtherMetrics :=
  { other with
    policyLintIssueCount := (getPolicyLintCounts table).issues
    policyLintWarningCount := (getPolicyLintCounts table).warnings }

/-! ### The two scans side by side -/

/-- With so many more warnings. -/
def LintCounts.warned (n : UInt64) (counts : LintCounts) : LintCounts :=
  { counts with warnings := counts.warnings + n }

def warnedIf (found : Bool) : UInt64 :=
  if found then 1 else 0

/-- The layers without rules. -/
def emptyLayers (table : BridgePolicyTable) : UInt64 :=
  warnedIf table.templateRules.isEmpty + warnedIf table.rules.isEmpty + warnedIf table.runtimeOverrides.isEmpty

private theorem sizes_issueIf (found : Bool) (message : Bytes) (lint : PolicyLint) :
    (lint.issueIf found message).sizes =
      if found then { lint.sizes with issues := lint.sizes.issues + 1 } else lint.sizes := by
  cases found
  · rfl
  · simp [PolicyLint.issueIf, PolicyLint.sizes, UInt64.ofNat_add]

private theorem sizes_warnIf (found : Bool) (message : Bytes) (lint : PolicyLint) :
    (lint.warnIf found message).sizes =
      if found then { lint.sizes with warnings := lint.sizes.warnings + 1 } else lint.sizes := by
  cases found
  · rfl
  · simp [PolicyLint.warnIf, PolicyLint.sizes, UInt64.ofNat_add]

private theorem sizes_validateDefault (policy : BridgeSlaPolicy) (label : Bytes) (lint : PolicyLint) :
    (validateDefault policy label lint).sizes = countPolicy policy lint.sizes := by
  unfold validateDefault countPolicy
  rw [sizes_warnIf, sizes_issueIf, sizes_issueIf]

private theorem sizes_collectRuleIssues (label : Bytes) (lint : PolicyLint) (entry : PolicyRule × Nat) :
    (collectRuleIssues label lint entry).sizes = countRule lint.sizes entry.1 := by
  unfold collectRuleIssues countRule countPolicy
  rw [sizes_warnIf, sizes_issueIf, sizes_issueIf, sizes_issueIf]

private theorem sizes_foldl_collectRuleIssues (label : Bytes) (entries : List (PolicyRule × Nat)) (lint : PolicyLint) :
    (entries.foldl (collectRuleIssues label) lint).sizes = countRules (entries.map (·.1)) lint.sizes := by
  induction entries generalizing lint with
  | nil => rfl
  | cons entry entries ih =>
    rw [List.foldl_cons, ih, sizes_collectRuleIssues]
    rfl

/-- A layer is counted as it is reported, but for the warning that it is empty. -/
private theorem sizes_collectIssues (label : Bytes) (rules : List PolicyRule) (lint : PolicyLint) :
    (collectIssues label rules lint).sizes = (countRules rules lint.sizes).warned (warnedIf rules.isEmpty) := by
  cases rules with
  | nil => simp [collectIssues, countRules, LintCounts.warned, warnedIf, PolicyLint.sizes, UInt64.ofNat_add]
  | cons rule rules =>
    have hfold := sizes_foldl_collectRuleIssues label (rule :: rules).zipIdx lint
    rw [List.zipIdx_map_fst] at hfold
    simp only [collectIssues, List.isEmpty_cons, Bool.false_eq_true, if_false, hfold, LintCounts.warned, warnedIf,
      UInt64.add_zero]

private theorem countPolicy_warned (policy : BridgeSlaPolicy) (n : UInt64) (counts : LintCounts) :
    countPolicy policy (counts.warned n) = (countPolicy policy counts).warned n := by
  have hswap : counts.warnings + n + 1 = counts.warnings + 1 + n := by
    rw [UInt64.add_assoc, UInt64.add_comm n, UInt64.add_assoc]
  unfold countPolicy LintCounts.warned
  cases negativeTimeout policy <;> cases retryBudgetInvalid policy <;> cases dropOldestUnbacked policy <;>
    simp only [if_true, if_false, Bool.false_eq_true, hswap]

private theorem countRule_warned (n : UInt64) (counts : LintCounts) (rule : PolicyRule) :
    countRule (counts.warned n) rule = (countRule counts rule).warned n := by
  unfold countRule
  rw [← countPolicy_warned]
  cases rule.topic.isEmpty <;> rfl

private theorem countRules_warned (rules : List PolicyRule) (n : UInt64) (counts : LintCounts) :
    countRules rules (counts.warned n) = (countRules rules counts).warned n := by
  induction rules generalizing counts with
  | nil => rfl
  | cons rule rules ih =>
    rw [countRules, List.foldl_cons, countRule_warned]
    exact ih (countRule counts rule)

/-- **What the report lists** is what the counts say, and a warning for each layer without rules. -/
theorem sizes_policyLint (table : BridgePolicyTable) :
    (policyLint table).sizes = (getPolicyLintCounts table).warned (emptyLayers table) := by
  have hlayers : (collectIssues (text "runtime_overrides") table.runtimeOverrides
      (collectIssues (text "rules") table.rules
        (collectIssues (text "template_rules") table.templateRules
          (validateDefault table.defaultPolicy (text "default_policy") {})))).sizes =
      (countRules table.runtimeOverrides (countRules table.rules (countRules table.templateRules
        (countPolicy table.defaultPolicy {})))).warned (emptyLayers table) := by
    rw [sizes_collectIssues, sizes_collectIssues, sizes_collectIssues, sizes_validateDefault, countRules_warned,
      countRules_warned, countRules_warned]
    simp only [LintCounts.warned, emptyLayers, UInt64.add_assoc]
    rfl
  have hissues := congrArg LintCounts.issues hlayers
  have hwarnings := congrArg LintCounts.warnings hlayers
  simp only [PolicyLint.sizes, LintCounts.warned] at hissues hwarnings
  simp only [policyLint, getPolicyLintCounts, PolicyLint.sizes, LintCounts.warned, List.length_append,
    UInt64.ofNat_add, hissues, hwarnings]

private theorem emptyLayers_eq_zero_iff (table : BridgePolicyTable) :
    emptyLayers table = 0 ↔ table.templateRules ≠ [] ∧ table.rules ≠ [] ∧ table.runtimeOverrides ≠ [] := by
  simp only [emptyLayers, ne_eq, ← List.isEmpty_iff, Bool.not_eq_true]
  cases table.templateRules.isEmpty <;> cases table.rules.isEmpty <;> cases table.runtimeOverrides.isEmpty <;> decide

/-- The numbers that the report prints for its lists, the counts, the summary and the exported metrics are the same. -/
structure LintAgrees (table : BridgePolicyTable) : Prop where
  counts : getPolicyLintCounts table = (policyLint table).sizes
  summary : buildPolicyLintSummary table = lintSummary (policyLint table).sizes
  exported : ∀ (values : LiveCounter → UInt64) (other : OtherMetrics),
    (refreshedMetrics values (other.withLintCounts table)).policyLintIssueCount = (policyLint table).sizes.issues ∧
      (refreshedMetrics values (other.withLintCounts table)).policyLintWarningCount = (policyLint table).sizes.warnings

theorem LintAgrees.of_counts {table : BridgePolicyTable} (h : getPolicyLintCounts table = (policyLint table).sizes) :
    LintAgrees table :=
  ⟨h, congrArg lintSummary h, fun _ _ => ⟨congrArg LintCounts.issues h, congrArg LintCounts.warnings h⟩⟩

/-- The issues are always counted as they are reported. -/
theorem lint_issues_agree (table : BridgePolicyTable) :
    (getPolicyLintCounts table).issues = (policyLint table).sizes.issues := by
  rw [sizes_policyLint]
  rfl

private theorem counts_eq_sizes_iff (table : BridgePolicyTable) :
    getPolicyLintCounts table = (policyLint table).sizes ↔ emptyLayers table = 0 := by
  rw [sizes_policyLint]
  constructor
  · intro h
    have hwarnings : (getPolicyLintCounts table).warnings = (getPolicyLintCounts table).warnings + emptyLayers table :=
      congrArg LintCounts.warnings h
    exact UInt64.left_eq_add.1 hwarnings
  · intro h
    rw [h, LintCounts.warned, UInt64.add_zero]

/-- **Report and counts agree** exactly where each layer has a rule. -/
theorem policy_lint_agrees_iff (table : BridgePolicyTable) :
    LintAgrees table ↔ table.templateRules ≠ [] ∧ table.rules ≠ [] ∧ table.runtimeOverrides ≠ [] := by
  rw [← emptyLayers_eq_zero_iff, ← counts_eq_sizes_iff]
  exact ⟨LintAgrees.counts, LintAgrees.of_counts⟩

/-- A bridge started with a configuration that names no rules has those of the template only. -/
theorem policy_lint_disagrees : ¬ ∀ table, LintAgrees table := by
  intro hall
  have hagrees := hall (populateDefaultTemplateRules plainConfig).policyTable
  have hempty := (counts_eq_sizes_iff _).1 hagrees.counts
  exact absurd hempty (by decide)

end VehicleBridge
