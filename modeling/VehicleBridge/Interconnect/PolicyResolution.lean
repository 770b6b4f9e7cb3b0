import VehicleBridge.Interconnect.BridgeState

/-!
# Policy resolution

Which policy an envelope is handled under.  `resolvePolicyInternal` looks for the best matching rule in each of the
three layers of the policy table and selects the override, the rule, the template or the default, in that order.
`resolvePolicy` does so through a cache keyed by topic, channel and QoS.

`resolvePolicyInternal_congr` names what the result depends on: the topic, and which rules match.
-/

namespace VehicleBridge

open ByteText

/-- `"*"` -/
def kAnyTopic : Bytes := text "*"

def ruleMatches (rule : PolicyRule) (envelope : MessageEnvelope) : Bool :=
  if rule.matchAnyChannel = false ∧ rule.channel ≠ envelope.channel then false
  else if rule.matchAnySource = false ∧ rule.source ≠ envelope.source then false
  else if rule.matchAnyTarget = false ∧ rule.target ≠ envelope.target then false
  else if rule.matchAnyQos = false ∧ rule.qos ≠ envelope.qos then false
  else if rule.topic ≠ [] ∧ rule.topic ≠ kAnyTopic ∧ rule.topic ≠ envelope.topic then false
  else true

/-! ### The best match of a layer -/

/-- The rules a layer offers for a topic: those the index lists under it if there is such a list, else all. -/
def candidates (rules : List PolicyRule) (index : TopicIndex) (topic : Bytes) : List PolicyRule :=
  match index topic with
  | some positions => positions.filterMap fun i => rules[i]?
  | none => rules

/-- The state of the loop of `FindBestPolicyMatch`. -/
structure BestMatch where
  policy : Option BridgeSlaPolicy := none
  priority : UInt32 := 0
  conflict : Bool := false
  deriving DecidableEq, Repr

def BestMatch.consider (envelope : MessageEnvelope) (best : BestMatch) (rule : PolicyRule) : BestMatch :=
  if ruleMatches rule envelope = false then best
  else if best.policy = none ∨ rule.priority > best.priority then
    { policy := some rule.policy, priority := rule.priority, conflict := false }
  else if rule.priority = best.priority then { best with conflict := true }
  else best

def findBestPolicyMatch (rules : List PolicyRule) (index : TopicIndex) (envelope : MessageEnvelope) : BestMatch :=
  (candidates rules index envelope.topic).foldl (BestMatch.consider envelope) {}

/-! ### The selection among the layers -/

/-- The layer that wins, and whether it is the overrides. -/
def selectPolicy (defaultPolicy : BridgeSlaPolicy) (override rule template : BestMatch) : BridgeSlaPolicy × Bool :=
  match override.policy with
  | some policy => (policy, true)
  | none => ((rule.policy.or template.policy).getD defaultPolicy, false)

/-- A lower layer has a match of higher priority than a higher one. -/
def outranked (high low : BestMatch) : Bool :=
  high.policy.isSome && low.policy.isSome && decide (high.priority < low.priority)

/-- `ResolvePolicyInternal`: the policy selected and the two flags. -/
def resolvePolicyInternal (table : BridgePolicyTable) (envelope : MessageEnvelope) : PolicyCacheEntry :=
  let override := findBestPolicyMatch table.runtimeOverrides table.overrideTopicRuleIndex envelope
  let rule := findBestPolicyMatch table.rules table.topicRuleIndex envelope
  let template := findBestPolicyMatch table.templateRules table.templateTopicRuleIndex envelope
  let selected := selectPolicy table.defaultPolicy override rule template
  { policy := selected.1
    overrideApplied := selected.2
    conflictDetected := override.conflict || rule.conflict || template.conflict ||
      outranked override rule || outranked override template || outranked rule template }

/-- The rules of a list that match one envelope match the other. -/
def MatchAlike (rules : List PolicyRule) (e e' : MessageEnvelope) : Prop :=
  ∀ rule ∈ rules, ruleMatches rule e = ruleMatches rule e'

private theorem mem_of_mem_candidates {rules : List PolicyRule} {index : TopicIndex} {topic : Bytes} {rule : PolicyRule}
    (h : rule ∈ candidates rules index topic) : rule ∈ rules := by
  unfold candidates at h
  split at h
  · obtain ⟨i, -, hi⟩ := List.mem_filterMap.1 h
    exact List.mem_of_getElem? hi
  · exact h

private theorem foldl_consider_congr {e e' : MessageEnvelope} {rules : List PolicyRule} (h : MatchAlike rules e e')
    (best : BestMatch) : rules.foldl (BestMatch.consider e) best = rules.foldl (BestMatch.consider e') best := by
  induction rules generalizing best with
  | nil => rfl
  | cons rule rest ih =>
    have hrule : BestMatch.consider e best rule = BestMatch.consider e' best rule := by
      unfold BestMatch.consider
      rw [h rule List.mem_cons_self]
    rw [List.foldl_cons, List.foldl_cons, hrule]
    exact ih (fun r hr => h r (List.mem_cons_of_mem _ hr)) _

private theorem findBestPolicyMatch_congr {rules : List PolicyRule} {e e' : MessageEnvelope} (index : TopicIndex)
    (htopic : e.topic = e'.topic) (h : MatchAlike rules e e') :
    findBestPolicyMatch rules index e = findBestPolicyMatch rules index e' := by
  unfold findBestPolicyMatch
  rw [htopic]
  exact foldl_consider_congr (fun rule hrule => h rule (mem_of_mem_candidates hrule)) _

/-- Two envelopes with one topic that the same rules match are handled alike. -/
theorem resolvePolicyInternal_congr {table : BridgePolicyTable} {e e' : MessageEnvelope}
    (htopic : e.topic = e'.topic) (h : MatchAlike table.allRules e e') :
    resolvePolicyInternal table e = resolvePolicyInternal table e' := by
  have htemplate : MatchAlike table.templateRules e e' := fun rule hrule =>
    h rule (by simp [BridgePolicyTable.allRules, hrule])
  have hrules : MatchAlike table.rules e e' := fun rule hrule =>
    h rule (by simp [BridgePolicyTable.allRules, hrule])
  have hover : MatchAlike table.runtimeOverrides e e' := fun rule hrule =>
    h rule (by simp [BridgePolicyTable.allRules, hrule])
  unfold resolvePolicyInternal
  rw [findBestPolicyMatch_congr _ htopic hover, findBestPolicyMatch_congr _ htopic hrules,
    findBestPolicyMatch_congr _ htopic htemplate]

/-! ### Resolution through the cache -/

def policyCacheKey (envelope : MessageEnvelope) : PolicyCacheKey :=
  -- rules match on source and target too
  { topic := envelope.topic, channel := envelope.channel, qos := envelope.qos }

/-- What `ResolvePolicy` counts for a resolution, cached or not; the clock is read only on a conflict. -/
def PolicyCounters.noteResolution (nowMs : UInt64) (resolved : PolicyCacheEntry) (counters : PolicyCounters) :
    PolicyCounters :=
  let counters :=
    if resolved.overrideApplied then { counters with policyOverrideCount := counters.policyOverrideCount + 1 }
    else counters
  let counters :=
    if resolved.conflictDetected then
      let gate := nextLogAllowedMs counters.lastPolicyConflictLogMs nowMs kPolicyConflictSampleIntervalMs
      { counters with
        policyConflictCount := counters.policyConflictCount + 1
        lastPolicyConflictLogMs := gate.2
        policyConflictSampledCount := counters.policyConflictSampledCount + if gate.1 = nowMs then 1 else 0 }
    else counters
  { counters with policyHitCount := counters.policyHitCount + 1 }

/-- `ResolvePolicy`: the policy returned, read from the cached entry, and the state of the bridge after it. -/
def resolvePolicy (nowMs : UInt64) (envelope : MessageEnvelope) (s : BridgeState) : BridgeSlaPolicy × BridgeState :=
  match s.policyCache.lookup (policyCacheKey envelope) with
  | (some cached, cache) =>
    let counters := { s.policyCounters with policyCacheHitCount := s.policyCounters.policyCacheHitCount + 1 }
    (cached.policy, { s with policyCache := cache, policyCounters := counters.noteResolution nowMs cached })
  | (none, cache) =>
    let counters := { s.policyCounters with policyCacheMissCount := s.policyCounters.policyCacheMissCount + 1 }
    let resolved := resolvePolicyInternal s.config.policyTable envelope
    (resolved.policy,
      { s with
        policyCache := cache.store kPolicyCacheMaxEntries (policyCacheKey envelope) resolved
        policyCounters := counters.noteResolution nowMs resolved })

/-- The entry that a resolution uses: the cached one if there is one. -/
def usedEntry (envelope : MessageEnvelope) (s : BridgeState) : PolicyCacheEntry :=
  (s.policyCache.lookup (policyCacheKey envelope)).1.getD (resolvePolicyInternal s.config.policyTable envelope)

theorem resolvePolicy_fst (nowMs : UInt64) (e : MessageEnvelope) (s : BridgeState) :
    (resolvePolicy nowMs e s).1 = (usedEntry e s).policy := by
  unfold resolvePolicy usedEntry
  rcases s.policyCache.lookup (policyCacheKey e) with ⟨_ | cached, cache⟩ <;> rfl

private theorem noteResolution_overrideCount (nowMs : UInt64) (resolved : PolicyCacheEntry) (c : PolicyCounters) :
    (c.noteResolution nowMs resolved).policyOverrideCount =
      c.policyOverrideCount + if resolved.overrideApplied then 1 else 0 := by
  unfold PolicyCounters.noteResolution
  cases resolved.overrideApplied <;> cases resolved.conflictDetected <;> rfl

private theorem noteResolution_conflictCount (nowMs : UInt64) (resolved : PolicyCacheEntry) (c : PolicyCounters) :
    (c.noteResolution nowMs resolved).policyConflictCount =
      c.policyConflictCount + if resolved.conflictDetected then 1 else 0 := by
  unfold PolicyCounters.noteResolution
  cases resolved.overrideApplied <;> cases resolved.conflictDetected <;> rfl

/-- A resolution counts what the entry it uses says. -/
theorem resolvePolicy_counts (nowMs : UInt64) (e : MessageEnvelope) (s : BridgeState) :
    (resolvePolicy nowMs e s).2.policyCounters.policyOverrideCount =
        s.policyCounters.policyOverrideCount + (if (usedEntry e s).overrideApplied then 1 else 0) ∧
      (resolvePolicy nowMs e s).2.policyCounters.policyConflictCount =
        s.policyCounters.policyConflictCount + (if (usedEntry e s).conflictDetected then 1 else 0) := by
  unfold resolvePolicy usedEntry
  rcases s.policyCache.lookup (policyCacheKey e) with ⟨_ | cached, cache⟩ <;>
    exact ⟨noteResolution_overrideCount .., noteResolution_conflictCount ..⟩

/-- A resolution changes the cache and its counters, and nothing else. -/
theorem resolvePolicy_frame (nowMs : UInt64) (e : MessageEnvelope) (s : BridgeState) :
    (resolvePolicy nowMs e s).2 =
      { s with
        policyCache := (resolvePolicy nowMs e s).2.policyCache
        policyCounters := (resolvePolicy nowMs e s).2.policyCounters } := by
  unfold resolvePolicy
  rcases s.policyCache.lookup (policyCacheKey e) with ⟨_ | cached, cache⟩ <;> rfl

/-- A resolution that finds an entry keeps the cache, reordered. -/
theorem resolvePolicy_hit {e : MessageEnvelope} {s : BridgeState} {cached : PolicyCacheEntry} (nowMs : UInt64)
    (h : (s.policyCache.lookup (policyCacheKey e)).1 = some cached) :
    (resolvePolicy nowMs e s).2.policyCache = (s.policyCache.lookup (policyCacheKey e)).2 := by
  unfold resolvePolicy
  revert h
  rcases s.policyCache.lookup (policyCacheKey e) with ⟨_ | cached, cache⟩
  · exact fun h => by cases h
  · exact fun _ => rfl

/-- A resolution that finds none stores what it computes. -/
theorem resolvePolicy_miss {e : MessageEnvelope} {s : BridgeState} (nowMs : UInt64)
    (h : (s.policyCache.lookup (policyCacheKey e)).1 = none) :
    (resolvePolicy nowMs e s).2.policyCache =
      (s.policyCache.lookup (policyCacheKey e)).2.store kPolicyCacheMaxEntries (policyCacheKey e)
        (resolvePolicyInternal s.config.policyTable e) := by
  unfold resolvePolicy
  revert h
  rcases s.policyCache.lookup (policyCacheKey e) with ⟨_ | cached, cache⟩
  · exact fun _ => rfl
  · exact fun h => by cases h

/-! ### The index of a policy table -/

def TopicIndex.push (index : TopicIndex) (topic : Bytes) (position : Nat) : TopicIndex :=
  fun t => if t = topic then some ((index t).getD [] ++ [position]) else index t

/-- `index_rules`: the positions of the rules with a topic of their own. -/
def indexRules (rules : List PolicyRule) : TopicIndex :=
  rules.zipIdx.foldl
    (fun index entry =>
      if entry.1.topic ≠ [] ∧ entry.1.topic ≠ kAnyTopic then index.push entry.1.topic entry.2 else index)
    fun _ => none

/-- The rule has a topic of its own, and this is it. -/
def hasOwnTopic (topic : Bytes) (rule : PolicyRule) : Bool :=
  decide (rule.topic = topic ∧ rule.topic ≠ [] ∧ rule.topic ≠ kAnyTopic)

private theorem foldl_push_apply (entries : List (PolicyRule × Nat)) (index : TopicIndex) (topic : Bytes) :
    entries.foldl
        (fun index entry =>
          if entry.1.topic ≠ [] ∧ entry.1.topic ≠ kAnyTopic then index.push entry.1.topic entry.2 else index)
        index topic =
      if (entries.filter (hasOwnTopic topic ·.1)).isEmpty then index topic
      else some ((index topic).getD [] ++ (entries.filter (hasOwnTopic topic ·.1)).map (·.2)) := by
  induction entries generalizing index with
  | nil => rfl
  | cons entry rest ih =>
    rw [List.foldl_cons, ih, List.filter_cons]
    by_cases hown : hasOwnTopic topic entry.1 = true
    · have ⟨htopic, hset⟩ := of_decide_eq_true hown
      have hpush : (if entry.1.topic ≠ [] ∧ entry.1.topic ≠ kAnyTopic then index.push entry.1.topic entry.2 else index)
          topic = some ((index topic).getD [] ++ [entry.2]) := by
        rw [if_pos hset, TopicIndex.push, if_pos htopic.symm]
      rw [hpush, if_pos hown]
      simp only [Option.getD_some, List.isEmpty_cons, Bool.false_eq_true, if_false, List.map_cons,
        List.append_assoc, List.cons_append, List.nil_append]
      split
      · next hempty => rw [List.isEmpty_iff.1 hempty, List.map_nil]
      · rfl
    · have hsame : (if entry.1.topic ≠ [] ∧ entry.1.topic ≠ kAnyTopic then index.push entry.1.topic entry.2 else index)
          topic = index topic := by
        split
        · next hset => exact if_neg fun h => hown (decide_eq_true ⟨h.symm, hset⟩)
        · rfl
      rw [hsame, if_neg hown]

/-- With the index rebuilt, the candidates for a topic are the rules that have it for their own, in order; where no
rule has, they are all the rules. -/
theorem candidates_indexRules (rules : List PolicyRule) (topic : Bytes) :
    candidates rules (indexRules rules) topic =
      if (rules.filter (hasOwnTopic topic)).isEmpty then rules else rules.filter (hasOwnTopic topic) := by
  have hfst : (rules.zipIdx.filter (hasOwnTopic topic ·.1)).map (·.1) = rules.filter (hasOwnTopic topic) := by
    have h := List.filter_map (f := Prod.fst) (p := hasOwnTopic topic) (l := rules.zipIdx)
    rw [List.zipIdx_map_fst] at h
    exact h.symm
  have hempty : (rules.zipIdx.filter (hasOwnTopic topic ·.1)).isEmpty = (rules.filter (hasOwnTopic topic)).isEmpty := by
    rw [← hfst, List.isEmpty_map]
  unfold candidates indexRules
  rw [foldl_push_apply, hempty]
  split
  · next positions h =>
    split at h
    · cases h
    · next hne =>
      rw [if_neg hne, ← Option.some.inj h, Option.getD_none, List.nil_append, List.filterMap_map, ← hfst,
        ← List.filterMap_eq_map]
      refine List.filterMap_congr fun entry hentry => ?_
      exact (List.mem_zipIdx_iff_getElem?.1 (List.mem_filter.1 hentry).1)
  · next h =>
    split at h
    · next hall => rw [if_pos hall]
    · cases h

/-- `RebuildPolicyIndex`: the three indexes anew, and an empty cache. -/
def rebuildPolicyIndex (s : BridgeState) : BridgeState :=
  let table := s.config.policyTable
  { s with
    config := { s.config with
      policyTable := { table with
        templateTopicRuleIndex := indexRules table.templateRules
        topicRuleIndex := indexRules table.rules
        overrideTopicRuleIndex := indexRules table.runtimeOverrides } }
    policyCache := s.policyCache.clear }

/-- The indexes of the table are those of its rules. -/
structure Indexed (table : BridgePolicyTable) : Prop where
  templates : table.templateTopicRuleIndex = indexRules table.templateRules
  rules : table.topicRuleIndex = indexRules table.rules
  overrides : table.overrideTopicRuleIndex = indexRules table.runtimeOverrides

theorem rebuildPolicyIndex_indexed (s : BridgeState) : Indexed (rebuildPolicyIndex s).config.policyTable :=
  ⟨rfl, rfl, rfl⟩

def controlRule : PolicyRule :=
  { priority := 10
    matchAnyChannel := false
    channel := .control
    topic := kAnyTopic
    policy := { maxEndToEndLatencyMs := 50, backpressurePolicy := .dropOldest, dropPolicy := .dropOldest } }

def telemetryRule : PolicyRule :=
  { priority := 5
    matchAnyChannel := false
    channel := .telemetry
    topic := kAnyTopic
    policy := { maxEndToEndLatencyMs := 150, backpressurePolicy := .reject } }

/-- `PopulateDefaultTemplateRules`.  The source has a second body of this function, without the drop policy of the
control rule; this is the first. -/
def populateDefaultTemplateRules (config : BridgeConfig) : BridgeConfig :=
  if config.policyTable.templateRules.isEmpty then
    { config with policyTable := { config.policyTable with templateRules := [controlRule, telemetryRule] } }
  else config

end VehicleBridge
