import VehicleBridge.Interconnect.PolicyConflicts

/-!
# Layered resolution and the overlap of rules

`ResolvesTo` is what the resolution of a message is to give, for any policy table and any index: the best match of the
first layer that has one, a flag for the overrides, and a flag for ties within a layer and inversions between layers.
`resolvePolicyInternal` meets it (`resolvePolicyInternal_resolvesTo`).

The static report asks of two rules whether some message matches both.  Its test looks at the fields of the rules, and
it is exact: `commonEnvelope` is such a message if there is one (`ruleMatchesRule_iff`).  So the report has an entry for
each pair of competing rules, in the order of their positions, and no other (`collectPolicyConflicts_exact`).
-/

namespace VehicleBridge

open ByteText PriorityFifo

/-! ### The specification of the resolution -/

/-- The rules that a message is tried on and that match it, in the order in which the layers take precedence. -/
def matchingLayers (table : BridgePolicyTable) (e : MessageEnvelope) : List (List PolicyRule) :=
  [matchingCandidates table.runtimeOverrides table.overrideTopicRuleIndex e,
    matchingCandidates table.rules table.topicRuleIndex e,
    matchingCandidates table.templateRules table.templateTopicRuleIndex e]

/-- The policy is that of the earliest rule of the highest priority in the first layer that has a rule; it is the
default one if none has. -/
def PolicyOfLayers (defaultPolicy : BridgeSlaPolicy) : List (List PolicyRule) → BridgeSlaPolicy → Prop
  | [], policy => policy = defaultPolicy
  | layer :: lower, policy =>
    (∃ top pre post, Split PolicyRule.rank layer top pre post ∧ policy = top.policy) ∨
      (layer = [] ∧ PolicyOfLayers defaultPolicy lower policy)

/-- What a resolution is to give. -/
structure ResolvesTo (table : BridgePolicyTable) (e : MessageEnvelope) (resolved : PolicyCacheEntry) : Prop where
  policy : PolicyOfLayers table.defaultPolicy (matchingLayers table e) resolved.policy
  overrideApplied : resolved.overrideApplied = true ↔
    matchingCandidates table.runtimeOverrides table.overrideTopicRuleIndex e ≠ []
  conflictDetected : resolved.conflictDetected = true ↔
    (∃ layer ∈ matchingLayers table e, Tied PolicyRule.rank layer) ∨
      ∃ above below, [above, below].Sublist (matchingLayers table e) ∧ Inverted above below

/-- A layer with a match gives its best, and one without leaves the choice to those below. -/
private theorem PolicyOfLayers.of_selected {defaultPolicy : BridgeSlaPolicy} {layer : List PolicyRule}
    {lower : List (List PolicyRule)} {best : BestMatch} {policy : BridgeSlaPolicy} (h : Selected layer best)
    (hlower : PolicyOfLayers defaultPolicy lower policy) :
    PolicyOfLayers defaultPolicy (layer :: lower) (best.policy.getD policy) := by
  cases h with
  | nothing => exact Or.inr ⟨rfl, hlower⟩
  | best split _ => exact Or.inl ⟨_, _, _, split, rfl⟩

private theorem Selected.conflict_iff {seen : List PolicyRule} {best : BestMatch} (h : Selected seen best) :
    best.conflict = true ↔ Tied PolicyRule.rank seen := by
  cases h with
  | nothing =>
    refine iff_of_false Bool.false_ne_true ?_
    rintro ⟨lhs, rhs, hsub, -, -⟩
    cases hsub
  | best _ tie => exact tie

private theorem pair_sublist_three {α : Type} {x y a b c : α} :
    [x, y].Sublist [a, b, c] ↔ (x = a ∧ y = b) ∨ (x = a ∧ y = c) ∨ (x = b ∧ y = c) := by
  simp only [List.sublist_cons_iff, List.sublist_nil, reduceCtorEq, false_or, List.cons.injEq]
  grind

/-- **The resolution** of any message under any table is as specified. -/
theorem resolvePolicyInternal_resolvesTo (table : BridgePolicyTable) (e : MessageEnvelope) :
    ResolvesTo table e (resolvePolicyInternal table e) := by
  have hoverride := findBestPolicyMatch_selected table.runtimeOverrides table.overrideTopicRuleIndex e
  have hrule := findBestPolicyMatch_selected table.rules table.topicRuleIndex e
  have htemplate := findBestPolicyMatch_selected table.templateRules table.templateTopicRuleIndex e
  unfold resolvePolicyInternal
  generalize findBestPolicyMatch table.runtimeOverrides table.overrideTopicRuleIndex e = override at *
  generalize findBestPolicyMatch table.rules table.topicRuleIndex e = rule at *
  generalize findBestPolicyMatch table.templateRules table.templateTopicRuleIndex e = template at *
  refine ⟨?_, ?_, ?_⟩
  · have hdefault : PolicyOfLayers table.defaultPolicy [] table.defaultPolicy := rfl
    have hlayers := PolicyOfLayers.of_selected hoverride
      (PolicyOfLayers.of_selected hrule (PolicyOfLayers.of_selected htemplate hdefault))
    have hselect : (selectPolicy table.defaultPolicy override rule template).1 =
        override.policy.getD (rule.policy.getD (template.policy.getD table.defaultPolicy)) := by
      unfold selectPolicy
      cases override.policy with
      | some policy => rfl
      | none => cases rule.policy <;> rfl
    simp only [hselect]
    exact hlayers
  · have happlied : (selectPolicy table.defaultPolicy override rule template).2 = override.policy.isSome := by
      unfold selectPolicy
      cases override.policy <;> rfl
    simp only [happlied]
    exact hoverride.isSome_iff
  · simp only [Bool.or_eq_true, hoverride.conflict_iff, hrule.conflict_iff, htemplate.conflict_iff,
      outranked_iff hoverride.bestOf hrule.bestOf, outranked_iff hoverride.bestOf htemplate.bestOf,
      outranked_iff hrule.bestOf htemplate.bestOf]
    unfold matchingLayers
    simp only [List.exists_mem_cons_iff, List.not_mem_nil, false_and, exists_false, or_false, pair_sublist_three,
      or_and_right, exists_or, and_assoc, exists_and_left, exists_eq_left, or_assoc]

/-! ### The overlap of two rules -/

/-- A message for two rules: each field as one of them asks for it. -/
def commonEnvelope (left right : PolicyRule) : MessageEnvelope :=
  { channel := if left.matchAnyChannel then right.channel else left.channel
    source := if left.matchAnySource then right.source else left.source
    target := if left.matchAnyTarget then right.target else left.target
    qos := if left.matchAnyQos then right.qos else left.qos
    topic := if left.topic = [] ∨ left.topic = kAnyTopic then right.topic else left.topic }

private theorem ruleMatchesRule_cases {left right : PolicyRule} (h : ruleMatchesRule left right = true) :
    (left.matchAnyChannel = true ∨ right.matchAnyChannel = true ∨ left.channel = right.channel) ∧
      (left.matchAnySource = true ∨ right.matchAnySource = true ∨ left.source = right.source) ∧
      (left.matchAnyTarget = true ∨ right.matchAnyTarget = true ∨ left.target = right.target) ∧
      (left.matchAnyQos = true ∨ right.matchAnyQos = true ∨ left.qos = right.qos) ∧
      (left.topic = [] ∨ left.topic = kAnyTopic ∨ right.topic = [] ∨ right.topic = kAnyTopic ∨
        left.topic = right.topic) := by
  unfold ruleMatchesRule at h
  grind

private theorem ruleMatches_commonEnvelope {left right : PolicyRule} (h : ruleMatchesRule left right = true) :
    ruleMatches left (commonEnvelope left right) = true ∧ ruleMatches right (commonEnvelope left right) = true := by
  obtain ⟨hchannel, hsource, htarget, hqos, htopic⟩ := ruleMatchesRule_cases h
  unfold commonEnvelope
  constructor
  · rw [ruleMatches_iff]
    grind
  · rw [ruleMatches_iff]
    grind

/-- The test on two rules is exact. -/
theorem ruleMatchesRule_iff {left right : PolicyRule} :
    ruleMatchesRule left right = true ↔ ∃ e, ruleMatches left e = true ∧ ruleMatches right e = true := by
  constructor
  · intro h
    exact ⟨commonEnvelope left right, ruleMatches_commonEnvelope h⟩
  · rintro ⟨e, hleft, hright⟩
    exact ruleMatchesRule_of_ruleMatches hleft hright

/-! ### The entries of the report -/

/-- Two rules of one priority that some message matches both. -/
def Competing (lhs rhs : PolicyRule) : Prop :=
  lhs.priority = rhs.priority ∧ ∃ e, ruleMatches lhs e = true ∧ ruleMatches rhs e = true

private theorem rulesConflict_iff {lhs rhs : PolicyRule} : rulesConflict lhs rhs = true ↔ Competing lhs rhs := by
  unfold rulesConflict Competing
  rw [Bool.and_eq_true, decide_eq_true_iff, ruleMatchesRule_iff]

/-- The pairs of positions at which the rules of a layer compete, in the order of two nested loops. -/
structure CompetingPairs (rules : List PolicyRule) (pairs : List (Nat × Nat)) : Prop where
  sorted : pairs.Pairwise fun p q => p.1 < q.1 ∨ (p.1 = q.1 ∧ p.2 < q.2)
  mem_iff : ∀ i j, (i, j) ∈ pairs ↔
    i < j ∧ ∃ lhs rhs, rules[i]? = some lhs ∧ rules[j]? = some rhs ∧ Competing lhs rhs

/-- What the report says of two rules. -/
def conflictEntry (label : Bytes) (lhs rhs : PolicyRule) : Bytes :=
  label ++ text " conflict: " ++ formatRuleSummary lhs ++ text " vs " ++ formatRuleSummary rhs

/-- The entries of the rules at some pairs of positions. -/
def conflictEntries (label : Bytes) (rules : List PolicyRule) (pairs : List (Nat × Nat)) : List Bytes :=
  pairs.map fun p => conflictEntry label (rules.getD p.1 {}) (rules.getD p.2 {})

/-- The positions of the rules in `rest` that compete with the one before it. -/
def competitors (lhs : PolicyRule) (rest : List PolicyRule) : List Nat :=
  ((rest.zipIdx 1).filter fun entry => rulesConflict lhs entry.1).map (·.2)

/-- The pairs that the loops of `scan_rules` report. -/
def scanPairs : List PolicyRule → List (Nat × Nat)
  | [] => []
  | lhs :: rest => (competitors lhs rest).map (fun j => (0, j)) ++ (scanPairs rest).map fun p => (p.1 + 1, p.2 + 1)

private theorem mem_competitors {lhs : PolicyRule} {rest : List PolicyRule} {j : Nat} :
    j ∈ competitors lhs rest ↔ ∃ k rhs, j = k + 1 ∧ rest[k]? = some rhs ∧ Competing lhs rhs := by
  unfold competitors
  simp only [List.mem_map, List.mem_filter, rulesConflict_iff, Prod.exists, List.mem_zipIdx_iff_le_and_getElem?_sub]
  constructor
  · rintro ⟨rhs, _, ⟨⟨hle, hget⟩, hcompete⟩, rfl⟩
    exact ⟨_, rhs, (Nat.sub_add_cancel hle).symm, hget, hcompete⟩
  · rintro ⟨k, rhs, rfl, hget, hcompete⟩
    exact ⟨rhs, k + 1, ⟨⟨Nat.le_add_left 1 k, hget⟩, hcompete⟩, rfl⟩

private theorem competitors_sorted (lhs : PolicyRule) (rest : List PolicyRule) :
    (competitors lhs rest).Pairwise (· < ·) := by
  have hsub : (competitors lhs rest).Sublist ((rest.zipIdx 1).map (·.2)) := List.filter_sublist.map _
  refine List.Pairwise.sublist hsub ?_
  rw [List.zipIdx_map_snd]
  exact List.pairwise_lt_range'

private theorem scanPairs_competing (rules : List PolicyRule) : CompetingPairs rules (scanPairs rules) := by
  induction rules with
  | nil => exact ⟨.nil, by simp [scanPairs]⟩
  | cons lhs rest ih =>
    refine ⟨?_, fun i j => ?_⟩
    · rw [scanPairs, List.pairwise_append]
      refine ⟨?_, ?_, ?_⟩
      · rw [List.pairwise_map]
        exact (competitors_sorted lhs rest).imp fun hlt => Or.inr ⟨rfl, hlt⟩
      · rw [List.pairwise_map]
        exact ih.sorted.imp fun hlt => by omega
      · intro p hp q hq
        obtain ⟨j, -, rfl⟩ := List.mem_map.1 hp
        obtain ⟨r, -, rfl⟩ := List.mem_map.1 hq
        exact Or.inl (Nat.succ_pos _)
    · rw [scanPairs, List.mem_append, List.mem_map, List.mem_map]
      cases i with
      | zero =>
        simp only [mem_competitors, Prod.mk.injEq, Nat.add_one_ne_zero, false_and, and_false, exists_false, or_false]
        cases j with
        | zero => simp
        | succ j => simp
      | succ i =>
        cases j with
        | zero => simp
        | succ j =>
          have hih := ih.mem_iff i j
          simp only [Prod.mk.injEq, Nat.add_right_cancel_iff, List.getElem?_cons_succ, Nat.add_lt_add_iff_right,
            ← hih]
          constructor
          · rintro (⟨_, _, h, _⟩ | ⟨⟨i', j'⟩, hmem, rfl, rfl⟩)
            · cases h
            · exact hmem
          · intro hmem
            exact Or.inr ⟨(i, j), hmem, rfl, rfl⟩

private theorem scanRules_cons (label : Bytes) (lhs : PolicyRule) (rest : List PolicyRule) :
    scanRules label (lhs :: rest) =
      (competitors lhs rest).map (fun j => conflictEntry label lhs ((lhs :: rest).getD j {})) ++
        scanRules label rest := by
  rw [scanRules]
  congr 1
  have hrules : rest.filter (rulesConflict lhs) =
      ((rest.zipIdx 1).filter fun entry => rulesConflict lhs entry.1).map (·.1) := by
    have h := List.filter_map (f := Prod.fst) (p := rulesConflict lhs) (l := rest.zipIdx 1)
    rw [List.zipIdx_map_fst] at h
    exact h
  rw [hrules, competitors, List.map_map, List.map_map]
  refine List.map_congr_left fun entry hentry => ?_
  obtain ⟨hle, hget⟩ := List.mem_zipIdx_iff_le_and_getElem?_sub.1 (List.mem_filter.1 hentry).1
  have hlater : (lhs :: rest).getD entry.2 {} = entry.1 := by
    rw [List.getD_eq_getElem?_getD, ← Nat.sub_add_cancel hle, List.getElem?_cons_succ, hget]
    rfl
  simp only [Function.comp_apply, hlater]
  rfl

private theorem scanRules_eq_entries (label : Bytes) (rules : List PolicyRule) :
    scanRules label rules = conflictEntries label rules (scanPairs rules) := by
  induction rules with
  | nil => rfl
  | cons lhs rest ih =>
    rw [scanRules_cons, ih, scanPairs]
    unfold conflictEntries
    rw [List.map_append, List.map_map, List.map_map]
    rfl

/-- **The overlap test is exact**, and so the report names, for each layer, the pairs of positions whose rules have one
priority and a message in common, each once and in order, and no others. -/
theorem collectPolicyConflicts_exact :
    (∀ left right, ruleMatchesRule left right = true ↔
      ∃ e, ruleMatches left e = true ∧ ruleMatches right e = true) ∧
    ∀ table : BridgePolicyTable, ∃ templates rules overrides,
      CompetingPairs table.templateRules templates ∧ CompetingPairs table.rules rules ∧
        CompetingPairs table.runtimeOverrides overrides ∧
        collectPolicyConflicts table =
          conflictEntries (text "template") table.templateRules templates ++
            conflictEntries (text "rules") table.rules rules ++
              conflictEntries (text "overrides") table.runtimeOverrides overrides := by
  refine ⟨fun left right => ruleMatchesRule_iff, fun table => ?_⟩
  refine ⟨scanPairs table.templateRules, scanPairs table.rules, scanPairs table.runtimeOverrides,
    scanPairs_competing _, scanPairs_competing _, scanPairs_competing _, ?_⟩
  unfold collectPolicyConflicts
  rw [scanRules_eq_entries, scanRules_eq_entries, scanRules_eq_entries]

end VehicleBridge
