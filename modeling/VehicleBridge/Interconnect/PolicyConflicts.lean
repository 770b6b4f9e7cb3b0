import VehicleBridge.Interconnect.Lifecycle
import VehicleBridge.Interconnect.PolicySelection

/-!
# Policy conflicts, reported and detected

`collectPolicyConflicts` is the static report: the pairs of rules in one layer of a policy table that have the same
priority and can match one message.  The flag that `resolvePolicyInternal` raises is the check at run time: two
candidates of a layer tie for the best match, or a layer is outranked by one below it.

An empty report rules out the ties (`Selected.bestOf` says what the search for the best match finds) and says
nothing about the ranks of two layers, and so with an empty report the flag is raised exactly on an inversion between
layers (`conflictDetected_iff_of_clean`).
-/

namespace VehicleBridge

open ByteText

/-! ### The report -/

/-- `RuleMatches` on two rules: no field keeps a message from matching both. -/
def ruleMatchesRule (left right : PolicyRule) : Bool :=
  if left.matchAnyChannel = false ∧ right.matchAnyChannel = false ∧ left.channel ≠ right.channel then false
  else if left.matchAnySource = false ∧ right.matchAnySource = false ∧ left.source ≠ right.source then false
  else if left.matchAnyTarget = false ∧ right.matchAnyTarget = false ∧ left.target ≠ right.target then false
  else if left.matchAnyQos = false ∧ right.matchAnyQos = false ∧ left.qos ≠ right.qos then false
  else if left.topic ≠ [] ∧ left.topic ≠ kAnyTopic ∧ right.topic ≠ [] ∧ right.topic ≠ kAnyTopic ∧
      left.topic ≠ right.topic then false
  else true

def formatRuleKey (rule : PolicyRule) : Bytes :=
  let channel := if rule.matchAnyChannel then text "*" else decimal rule.channel.value.toNat
  let qos := if rule.matchAnyQos then text "*" else decimal rule.qos.value.toNat
  let source := if rule.matchAnySource then text "*" else rule.source
  let target := if rule.matchAnyTarget then text "*" else rule.target
  let topic := if rule.topic = [] then text "*" else rule.topic
  text "topic=" ++ topic ++ text ",channel=" ++ channel ++ text ",qos=" ++ qos ++ text ",source=" ++ source ++
    text ",target=" ++ target

def formatRuleSummary (rule : PolicyRule) : Bytes :=
  let policy := text "sla=" ++ decimal rule.policy.maxEndToEndLatencyMs.toNat ++
    text "ms,tx_to=" ++ signedDecimal rule.policy.transportSendTimeoutMs.toInt ++
    text "ms,rx_to=" ++ signedDecimal rule.policy.transportReceiveTimeoutMs.toInt ++ text "ms"
  let backpressure := text "backpressure=" ++ decimal rule.policy.backpressurePolicy.value.toNat
  let dropPolicy := text "drop=" ++ decimal rule.policy.dropPolicy.value.toNat
  let retryPolicy := text "retry=" ++ signedDecimal rule.policy.retryBudget.maxRetries.toInt ++
    text "/" ++ signedDecimal rule.policy.retryBudget.initialBackoffMs.toInt ++
    text "/" ++ signedDecimal rule.policy.retryBudget.maxBackoffMs.toInt
  text "priority=" ++ decimal rule.priority.toNat ++ text " \x7b" ++ formatRuleKey rule ++ text "," ++ policy ++
    text "," ++ backpressure ++ text "," ++ dropPolicy ++ text "," ++ retryPolicy ++ text "\x7d"

/-- The test of `scan_rules` on two rules of a layer. -/
def rulesConflict (lhs rhs : PolicyRule) : Bool :=
  decide (lhs.priority = rhs.priority) && ruleMatchesRule lhs rhs

/-- `scan_rules`: an entry for each rule and each later one that conflicts with it. -/
def scanRules (label : Bytes) : List PolicyRule → List Bytes
  | [] => []
  | lhs :: rest =>
    (rest.filter (rulesConflict lhs)).map
        (fun rhs => label ++ text " conflict: " ++ formatRuleSummary lhs ++ text " vs " ++ formatRuleSummary rhs) ++
      scanRules label rest

def collectPolicyConflicts (table : BridgePolicyTable) : List Bytes :=
  scanRules (text "template") table.templateRules ++ scanRules (text "rules") table.rules ++
    scanRules (text "overrides") table.runtimeOverrides

private theorem scanRules_eq_nil_iff {label : Bytes} {rules : List PolicyRule} :
    scanRules label rules = [] ↔ rules.Pairwise fun lhs rhs => rulesConflict lhs rhs = false := by
  induction rules with
  | nil => simp [scanRules]
  | cons lhs rest ih =>
    simp only [scanRules, List.append_eq_nil_iff, List.map_eq_nil_iff, List.filter_eq_nil_iff, ih,
      List.pairwise_cons, Bool.not_eq_true]

/-- The report is empty when that of each layer is. -/
private theorem collectPolicyConflicts_eq_nil_iff {table : BridgePolicyTable} :
    collectPolicyConflicts table = [] ↔
      (table.templateRules.Pairwise fun lhs rhs => rulesConflict lhs rhs = false) ∧
      (table.rules.Pairwise fun lhs rhs => rulesConflict lhs rhs = false) ∧
        table.runtimeOverrides.Pairwise fun lhs rhs => rulesConflict lhs rhs = false := by
  unfold collectPolicyConflicts
  rw [List.append_eq_nil_iff, List.append_eq_nil_iff, scanRules_eq_nil_iff, scanRules_eq_nil_iff,
    scanRules_eq_nil_iff, and_assoc]

theorem ruleMatches_iff {rule : PolicyRule} {e : MessageEnvelope} :
    ruleMatches rule e = true ↔
      (rule.matchAnyChannel = true ∨ rule.channel = e.channel) ∧ (rule.matchAnySource = true ∨ rule.source = e.source) ∧
      (rule.matchAnyTarget = true ∨ rule.target = e.target) ∧ (rule.matchAnyQos = true ∨ rule.qos = e.qos) ∧
        (rule.topic = [] ∨ rule.topic = kAnyTopic ∨ rule.topic = e.topic) := by
  unfold ruleMatches
  grind

/-- Two rules that match one message can be told to by the report. -/
theorem ruleMatchesRule_of_ruleMatches {left right : PolicyRule} {e : MessageEnvelope}
    (hleft : ruleMatches left e = true) (hright : ruleMatches right e = true) :
    ruleMatchesRule left right = true := by
  obtain ⟨hchannel, hsource, htarget, hqos, htopic⟩ := ruleMatches_iff.1 hleft
  obtain ⟨hchannel', hsource', htarget', hqos', htopic'⟩ := ruleMatches_iff.1 hright
  unfold ruleMatchesRule
  grind

/-! ### The best match -/

/-- What the search holds after the matching rules seen so far. -/
structure BestOf (seen : List PolicyRule) (best : BestMatch) : Prop where
  isSome : best.policy.isSome = true ↔ seen ≠ []
  bound : ∀ rule ∈ seen, rule.priority ≤ best.priority
  attained : seen ≠ [] → ∃ rule ∈ seen, rule.priority = best.priority ∧ best.policy = some rule.policy
  /-- Where it says there is a tie, two of them have one priority. -/
  tie : best.conflict = true → ∃ lhs rhs, [lhs, rhs].Sublist seen ∧ lhs.priority = rhs.priority

theorem Selected.bestOf {seen : List PolicyRule} {best : BestMatch} (h : Selected seen best) : BestOf seen best := by
  refine ⟨h.isSome_iff, ?_, ?_, ?_⟩
  · intro rule hrule
    obtain ⟨top, pre, post, hsplit, -, hpriority, -⟩ := h.of_isSome (h.isSome_iff.2 (List.ne_nil_of_mem hrule))
    rw [hpriority]
    exact UInt32.le_iff_toNat_le.2 (hsplit.le rule hrule)
  · intro hseen
    obtain ⟨top, pre, post, hsplit, hpolicy, hpriority, -⟩ := h.of_isSome (h.isSome_iff.2 hseen)
    exact ⟨top, hsplit.mem, hpriority.symm, hpolicy⟩
  · intro htie
    cases h with
    | nothing => cases htie
    | best _ tie =>
      obtain ⟨lhs, rhs, hsub, heq, -⟩ := tie.1 htie
      exact ⟨lhs, rhs, hsub, PolicyRule.rank_eq_iff.1 heq⟩

/-- The rules of a layer that the search for an envelope goes over: those with the topic for their own if there are
any, else all; and of these the ones that match. -/
def matchingRules (rules : List PolicyRule) (e : MessageEnvelope) : List PolicyRule :=
  (if (rules.filter (hasOwnTopic e.topic)).isEmpty then rules else rules.filter (hasOwnTopic e.topic)).filter
    (ruleMatches · e)

theorem findBestPolicyMatch_bestOf (rules : List PolicyRule) (e : MessageEnvelope) :
    BestOf (matchingRules rules e) (findBestPolicyMatch rules (indexRules rules) e) := by
  have hselected := findBestPolicyMatch_selected rules (indexRules rules) e
  unfold matchingCandidates at hselected
  rw [candidates_indexRules] at hselected
  exact hselected.bestOf

private theorem matchingRules_sublist (rules : List PolicyRule) (e : MessageEnvelope) :
    (matchingRules rules e).Sublist rules := by
  unfold matchingRules
  split
  · exact List.filter_sublist
  · exact List.filter_sublist.trans List.filter_sublist

/-- A layer without entries in the report has no ties. -/
private theorem findBestPolicyMatch_conflict_of_clean {rules : List PolicyRule} (e : MessageEnvelope)
    (hclean : rules.Pairwise fun lhs rhs => rulesConflict lhs rhs = false) :
    (findBestPolicyMatch rules (indexRules rules) e).conflict = false := by
  rw [← Bool.not_eq_true]
  intro htie
  obtain ⟨lhs, rhs, hsub, hpriority⟩ := (findBestPolicyMatch_bestOf rules e).tie htie
  have hmatches : ∀ rule ∈ [lhs, rhs], ruleMatches rule e = true := fun rule hrule =>
    (List.mem_filter.1 (hsub.subset hrule)).2
  have hoverlap : ruleMatchesRule lhs rhs = true :=
    ruleMatchesRule_of_ruleMatches (hmatches lhs (by simp)) (hmatches rhs (by simp))
  have hpair := hclean.sublist (hsub.trans (matchingRules_sublist rules e))
  have hfalse : rulesConflict lhs rhs = false := (List.pairwise_cons.1 hpair).1 rhs (by simp)
  simp [rulesConflict, hpriority, hoverlap] at hfalse

/-! ### The flag at run time -/

/-- One of the rules below has a priority above all of those above, of which there are some. -/
def Inverted (above below : List PolicyRule) : Prop :=
  above ≠ [] ∧ ∃ low ∈ below, ∀ high ∈ above, high.priority < low.priority

theorem outranked_iff {above below : List PolicyRule} {high low : BestMatch} (hhigh : BestOf above high)
    (hlow : BestOf below low) : outranked high low = true ↔ Inverted above below := by
  unfold outranked
  rw [Bool.and_eq_true, Bool.and_eq_true, decide_eq_true_iff, hhigh.isSome, hlow.isSome]
  constructor
  · rintro ⟨⟨habove, hbelow⟩, hlt⟩
    obtain ⟨top, htop, hpriority, -⟩ := hlow.attained hbelow
    exact ⟨habove, top, htop, fun rule hrule => UInt32.lt_of_le_of_lt (hhigh.bound rule hrule) (hpriority ▸ hlt)⟩
  · rintro ⟨habove, top, htop, hless⟩
    obtain ⟨rule, hrule, hpriority, -⟩ := hhigh.attained habove
    exact ⟨⟨habove, List.ne_nil_of_mem htop⟩,
      UInt32.lt_of_lt_of_le (hpriority ▸ hless rule hrule) (hlow.bound top htop)⟩

/-- A layer of the table is outranked, for the envelope, by a layer below it: the overrides stand above the rules and
these above the templates.  Only the rules that the search goes over count, so that a rule for every topic does not
where its layer has one for the topic. -/
def LayerInversion (table : BridgePolicyTable) (e : MessageEnvelope) : Prop :=
  Inverted (matchingRules table.runtimeOverrides e) (matchingRules table.rules e) ∨
  Inverted (matchingRules table.runtimeOverrides e) (matchingRules table.templateRules e) ∨
  Inverted (matchingRules table.rules e) (matchingRules table.templateRules e)

private theorem conflictDetected_of_indexed {table : BridgePolicyTable} (hindex : Indexed table)
    (hclean : collectPolicyConflicts table = []) (e : MessageEnvelope) :
    (resolvePolicyInternal table e).conflictDetected = true ↔ LayerInversion table e := by
  obtain ⟨htemplates, hrules, hoverrides⟩ := collectPolicyConflicts_eq_nil_iff.1 hclean
  unfold resolvePolicyInternal LayerInversion
  rw [hindex.templates, hindex.rules, hindex.overrides]
  simp only [findBestPolicyMatch_conflict_of_clean e htemplates, findBestPolicyMatch_conflict_of_clean e hrules,
    findBestPolicyMatch_conflict_of_clean e hoverrides, Bool.false_or, Bool.or_eq_true,
    outranked_iff (findBestPolicyMatch_bestOf _ e) (findBestPolicyMatch_bestOf _ e), or_assoc]

/-- With an empty report, a message is resolved with a conflict exactly when a layer is outranked for it by a layer
below, each layer taken by its candidates for the message: a tie within a layer never raises the flag. -/
theorem conflictDetected_iff_of_clean (config : BridgeConfig) (s : BridgeState) (e : MessageEnvelope)
    (hclean : collectPolicyConflicts (adoptConfig config s).config.policyTable = []) :
    (resolvePolicyInternal (adoptConfig config s).config.policyTable e).conflictDetected = true ↔
      LayerInversion (adoptConfig config s).config.policyTable e :=
  conflictDetected_of_indexed (rebuildPolicyIndex_indexed _) hclean e

/-- The configuration of the policy matrix test: one rule, for control messages on one topic, of priority 0. -/
def commandConfig : BridgeConfig :=
  { policyTable := {
      defaultPolicy := { maxEndToEndLatencyMs := 200, transportReceiveTimeoutMs := 30, transportSendTimeoutMs := 30 }
      rules := [{
        matchAnyChannel := false
        channel := .control
        topic := text "vehicle.command"
        policy := {
          maxEndToEndLatencyMs := 5
          transportReceiveTimeoutMs := 7
          transportSendTimeoutMs := 7
          backpressurePolicy := .dropOldest
          dropPolicy := .dropOldest
          retryBudget := { maxRetries := 1, initialBackoffMs := 5, maxBackoffMs := 10 } } }] } }

def commandEnvelope : MessageEnvelope :=
  { channel := .control, source := text "vehicle", target := text "robot", topic := text "vehicle.command",
    traceId := text "policy_drop", payload := text "cmd", timestampMs := 1 }

theorem conflictDetected_iff_of_clean_command :
    (resolvePolicyInternal (adoptConfig commandConfig {}).config.policyTable commandEnvelope).conflictDetected = true ↔
      LayerInversion (adoptConfig commandConfig {}).config.policyTable commandEnvelope :=
  conflictDetected_iff_of_clean commandConfig {} commandEnvelope (by decide)

/-- The template for control messages, of priority 10, outranks that rule. -/
theorem conflictDetected_of_clean : ¬ ∀ (config : BridgeConfig) (s : BridgeState) (e : MessageEnvelope),
    collectPolicyConflicts (adoptConfig config s).config.policyTable = [] →
      (resolvePolicyInternal (adoptConfig config s).config.policyTable e).conflictDetected = false := by
  intro h
  have hclean : collectPolicyConflicts (adoptConfig commandConfig {}).config.policyTable = [] := by decide
  have hraised : (resolvePolicyInternal (adoptConfig commandConfig {}).config.policyTable
      commandEnvelope).conflictDetected = true := by decide
  rw [h commandConfig {} commandEnvelope hclean] at hraised
  exact absurd hraised (by decide)

end VehicleBridge
