import VehicleBridge.Interconnect.PolicyConflicts

/-!
# What the signature of a policy table tells

A reload compares the signature of the new policies with that of the last known good ones.  Where the hash functions
do not collide, equal signatures mean that the two tables have the same rules one after the other, up to three fields
of a policy that are not hashed and up to where one list of rules ends and the next begins.  If these agree as well,
then the tables are the same (`eq_of_signature_eq`).  Neither can be left out: every table has another of the same
signature that handles every message under another policy, and a table without overrides has one of the same signature
that overrides some of them (`signature_detects`).
-/

namespace VehicleBridge

open ByteText

/-! ### The fields of a policy -/

/-- The fields of a policy that do not enter the signature. -/
def BridgeSlaPolicy.unhashed (policy : BridgeSlaPolicy) : Bool × UInt32 × Bool :=
  (policy.enableTimeoutSleep, policy.receiveTimeoutSleepMs, policy.lockPolicy)

private theorem BackpressurePolicy.value_inj {p q : BackpressurePolicy} (h : p.value = q.value) : p = q := by
  cases p <;> cases q <;> first | rfl | exact absurd h (by decide)

private theorem DropPolicy.value_inj {p q : DropPolicy} (h : p.value = q.value) : p = q := by
  cases p <;> cases q <;> first | rfl | exact absurd h (by decide)

private theorem ChannelType.value_inj {c d : ChannelType} (h : c.value = d.value) : c = d := by
  cases c <;> cases d <;> first | rfl | exact absurd h (by decide)

private theorem DeliveryQoS.value_inj {q r : DeliveryQoS} (h : q.value = r.value) : q = r := by
  cases q <;> cases r <;> first | rfl | exact absurd h (by decide)

private theorem int64_toUInt64_inj {a b : Int64} (h : a.toUInt64 = b.toUInt64) : a = b :=
  congrArg UInt64.toInt64 h

private theorem int32_toInt64_inj {a b : Int32} (h : a.toInt64 = b.toInt64) : a = b :=
  Int32.toInt_inj.1 (by rw [← Int32.toInt_toInt64, h, Int32.toInt_toInt64])

private theorem bool_toUInt64_inj {a b : Bool} (h : a.toUInt64 = b.toUInt64) : a = b := by
  revert a b
  decide

private theorem policyWords_inj {p q : BridgeSlaPolicy} (hwords : policyWords p = policyWords q)
    (hrest : p.unhashed = q.unhashed) : p = q := by
  simp only [policyWords, List.cons.injEq, and_true] at hwords
  obtain ⟨hlatency, hreceive, hsend, hbackpressure, hdrop, hretries, hinitial, hmax⟩ := hwords
  simp only [BridgeSlaPolicy.unhashed, Prod.mk.injEq] at hrest
  obtain ⟨hsleep, hsleepMs, hlock⟩ := hrest
  have hbudget : p.retryBudget = q.retryBudget := by
    cases hp : p.retryBudget
    cases hq : q.retryBudget
    rw [hp, hq] at hretries hinitial hmax
    rw [RetryBudget.mk.injEq]
    exact ⟨int32_toInt64_inj (int64_toUInt64_inj hretries), int64_toUInt64_inj hinitial, int64_toUInt64_inj hmax⟩
  cases p
  cases q
  rw [BridgeSlaPolicy.mk.injEq]
  exact ⟨UInt32.toUInt64_inj.1 hlatency, int64_toUInt64_inj hreceive, int64_toUInt64_inj hsend,
    BackpressurePolicy.value_inj (UInt8.toUInt64_inj.1 hbackpressure),
    DropPolicy.value_inj (UInt8.toUInt64_inj.1 hdrop), hbudget, hsleep, hsleepMs, hlock⟩

/-! ### The rules of a table -/

/-- The strings of a rule that are hashed. -/
def PolicyRule.hashedStrings (rule : PolicyRule) : List Bytes :=
  [rule.source, rule.target, rule.topic]

def BridgePolicyTable.hashedStrings (table : BridgePolicyTable) : List Bytes :=
  table.allRules.flatMap PolicyRule.hashedStrings

section
variable {hashString : Bytes → UInt64}

private theorem ruleWords_inj {r r' : PolicyRule} (hwords : ruleWords hashString r = ruleWords hashString r')
    (hrest : r.policy.unhashed = r'.policy.unhashed)
    (hstrings : ∀ a ∈ r.hashedStrings, ∀ b ∈ r'.hashedStrings, hashString a = hashString b → a = b) : r = r' := by
  obtain ⟨hfields, hpolicy⟩ := List.append_inj hwords rfl
  simp only [List.cons.injEq, and_true] at hfields
  obtain ⟨hpriority, hanyChannel, hchannel, hanySource, hsource, hanyTarget, htarget, hanyQos, hqos, htopic⟩ := hfields
  have hsource' : r.source = r'.source := hstrings _ (by simp [PolicyRule.hashedStrings]) _
    (by simp [PolicyRule.hashedStrings]) hsource
  have htarget' : r.target = r'.target := hstrings _ (by simp [PolicyRule.hashedStrings]) _
    (by simp [PolicyRule.hashedStrings]) htarget
  have htopic' : r.topic = r'.topic := hstrings _ (by simp [PolicyRule.hashedStrings]) _
    (by simp [PolicyRule.hashedStrings]) htopic
  cases r
  cases r'
  rw [PolicyRule.mk.injEq]
  exact ⟨UInt32.toUInt64_inj.1 hpriority, bool_toUInt64_inj hanyChannel,
    ChannelType.value_inj (UInt8.toUInt64_inj.1 hchannel), bool_toUInt64_inj hanySource, hsource',
    bool_toUInt64_inj hanyTarget, htarget', bool_toUInt64_inj hanyQos,
    DeliveryQoS.value_inj (UInt8.toUInt64_inj.1 hqos), htopic', policyWords_inj hpolicy hrest⟩

/-- Rules are hashed to blocks of one length, and so the blocks can be told apart. -/
private theorem rules_eq_of_words {l l' : List PolicyRule}
    (hwords : l.flatMap (ruleWords hashString) = l'.flatMap (ruleWords hashString))
    (hrest : l.map (·.policy.unhashed) = l'.map (·.policy.unhashed))
    (hstrings : ∀ a ∈ l.flatMap PolicyRule.hashedStrings, ∀ b ∈ l'.flatMap PolicyRule.hashedStrings,
      hashString a = hashString b → a = b) : l = l' := by
  induction l generalizing l' with
  | nil =>
    rw [List.map_nil, eq_comm, List.map_eq_nil_iff] at hrest
    exact hrest.symm
  | cons r l ih =>
    cases l' with
    | nil => simp at hrest
    | cons r' l' =>
      rw [List.flatMap_cons, List.flatMap_cons] at hwords
      obtain ⟨hrule, hrules⟩ := List.append_inj hwords rfl
      obtain ⟨hpolicy, hpolicies⟩ := List.cons.inj hrest
      have hhead : r = r' := ruleWords_inj hrule hpolicy fun a ha b hb =>
        hstrings a (List.mem_append_left _ ha) b (List.mem_append_left _ hb)
      have htail : l = l' := ih hrules hpolicies fun a ha b hb =>
        hstrings a (List.mem_append_right _ ha) b (List.mem_append_right _ hb)
      rw [hhead, htail]

/-! ### Equal signatures -/

/-- The hash functions do not collide on what the two tables feed them. -/
structure CollisionFree (hashString : Bytes → UInt64) (t t' : BridgePolicyTable) : Prop where
  combine : computePolicySignature hashString t = computePolicySignature hashString t' →
    signatureWords hashString t = signatureWords hashString t'
  strings : ∀ a ∈ t.hashedStrings, ∀ b ∈ t'.hashedStrings, hashString a = hashString b → a = b

/-- The tables agree on what the signature does not tell: the lengths of the lists of rules, and the fields of the
policies that are not hashed. -/
structure UnhashedAgree (t t' : BridgePolicyTable) : Prop where
  templates : t.templateRules.length = t'.templateRules.length
  rules : t.rules.length = t'.rules.length
  defaultPolicy : t.defaultPolicy.unhashed = t'.defaultPolicy.unhashed
  policies : t.allRules.map (·.policy.unhashed) = t'.allRules.map (·.policy.unhashed)

theorem eq_of_signature_eq {t t' : BridgePolicyTable} (hindex : Indexed t) (hindex' : Indexed t')
    (hfree : CollisionFree hashString t t') (hagree : UnhashedAgree t t')
    (hsignature : computePolicySignature hashString t = computePolicySignature hashString t') : t = t' := by
  obtain ⟨hdefaultWords, hruleWords⟩ := List.append_inj (hfree.combine hsignature) rfl
  have hdefault : t.defaultPolicy = t'.defaultPolicy := policyWords_inj hdefaultWords hagree.defaultPolicy
  have hall : t.allRules = t'.allRules := rules_eq_of_words hruleWords hagree.policies hfree.strings
  obtain ⟨hlow, hoverrides⟩ := List.append_inj hall (by simp [hagree.templates, hagree.rules])
  obtain ⟨htemplates, hrules⟩ := List.append_inj hlow hagree.templates
  obtain ⟨htemplateIndex, hruleIndex, hoverrideIndex⟩ := hindex
  obtain ⟨htemplateIndex', hruleIndex', hoverrideIndex'⟩ := hindex'
  rw [htemplates, ← htemplateIndex'] at htemplateIndex
  rw [hrules, ← hruleIndex'] at hruleIndex
  rw [hoverrides, ← hoverrideIndex'] at hoverrideIndex
  cases t
  cases t'
  rw [BridgePolicyTable.mk.injEq]
  exact ⟨hdefault, htemplates, hrules, hoverrides, htemplateIndex, hruleIndex, hoverrideIndex⟩

end

/-! ### Tables with other policies

Which rule is selected does not depend on the policies the rules carry, and so resolution commutes with a change of
all the policies. -/

section
variable (f : BridgeSlaPolicy → BridgeSlaPolicy)

def PolicyRule.mapPolicy (rule : PolicyRule) : PolicyRule :=
  { rule with policy := f rule.policy }

def BestMatch.mapPolicy (best : BestMatch) : BestMatch :=
  { best with policy := best.policy.map f }

def BridgePolicyTable.mapPolicies (table : BridgePolicyTable) : BridgePolicyTable :=
  { table with
    defaultPolicy := f table.defaultPolicy
    templateRules := table.templateRules.map (PolicyRule.mapPolicy f)
    rules := table.rules.map (PolicyRule.mapPolicy f)
    runtimeOverrides := table.runtimeOverrides.map (PolicyRule.mapPolicy f) }

private theorem indexRules_mapPolicy (rules : List PolicyRule) :
    indexRules (rules.map (PolicyRule.mapPolicy f)) = indexRules rules := by
  unfold indexRules
  rw [List.zipIdx_map, List.foldl_map]
  rfl

private theorem Indexed.mapPolicies {t : BridgePolicyTable} (h : Indexed t) : Indexed (t.mapPolicies f) where
  templates := h.templates.trans (indexRules_mapPolicy f t.templateRules).symm
  rules := h.rules.trans (indexRules_mapPolicy f t.rules).symm
  overrides := h.overrides.trans (indexRules_mapPolicy f t.runtimeOverrides).symm

private theorem consider_mapPolicy (e : MessageEnvelope) (best : BestMatch) (rule : PolicyRule) :
    (best.mapPolicy f).consider e (rule.mapPolicy f) = (best.consider e rule).mapPolicy f := by
  have hmatch : ruleMatches (rule.mapPolicy f) e = ruleMatches rule e := rfl
  have hpriority : (rule.mapPolicy f).priority = rule.priority := rfl
  have hbest : (best.mapPolicy f).priority = best.priority := rfl
  have hnone : (best.mapPolicy f).policy = none ↔ best.policy = none := Option.map_eq_none_iff
  unfold BestMatch.consider
  simp only [hmatch, hpriority, hbest, hnone]
  split
  · rfl
  split
  · rfl
  split
  · rfl
  · rfl

private theorem findBestPolicyMatch_mapPolicy (rules : List PolicyRule) (index : TopicIndex) (e : MessageEnvelope) :
    findBestPolicyMatch (rules.map (PolicyRule.mapPolicy f)) index e =
      (findBestPolicyMatch rules index e).mapPolicy f := by
  have hcandidates : candidates (rules.map (PolicyRule.mapPolicy f)) index e.topic =
      (candidates rules index e.topic).map (PolicyRule.mapPolicy f) := by
    unfold candidates
    split
    · rw [List.map_filterMap]
      exact List.filterMap_congr fun i _ => List.getElem?_map
    · rfl
  unfold findBestPolicyMatch
  rw [hcandidates, List.foldl_map, ← List.foldl_hom (BestMatch.mapPolicy f)]
  · rfl
  · exact consider_mapPolicy f e

private theorem resolvePolicyInternal_mapPolicies (t : BridgePolicyTable) (e : MessageEnvelope) :
    resolvePolicyInternal (t.mapPolicies f) e =
      { resolvePolicyInternal t e with policy := f (resolvePolicyInternal t e).policy } := by
  have houtranked (high low : BestMatch) : outranked (high.mapPolicy f) (low.mapPolicy f) = outranked high low := by
    unfold outranked BestMatch.mapPolicy
    rw [Option.isSome_map, Option.isSome_map]
  have hselected (override rule template : BestMatch) :
      selectPolicy (f t.defaultPolicy) (override.mapPolicy f) (rule.mapPolicy f) (template.mapPolicy f) =
        (f (selectPolicy t.defaultPolicy override rule template).1,
          (selectPolicy t.defaultPolicy override rule template).2) := by
    unfold selectPolicy BestMatch.mapPolicy
    cases override.policy <;> cases rule.policy <;> cases template.policy <;> rfl
  unfold resolvePolicyInternal
  simp only [BridgePolicyTable.mapPolicies, findBestPolicyMatch_mapPolicy, houtranked, hselected]
  rfl

/-- A change of fields that are not hashed leaves the signature as it is. -/
private theorem computePolicySignature_mapPolicies {hashString : Bytes → UInt64} {t : BridgePolicyTable}
    (hwords : ∀ policy, policyWords (f policy) = policyWords policy) :
    computePolicySignature hashString (t.mapPolicies f) = computePolicySignature hashString t := by
  have hrule (rule : PolicyRule) : ruleWords hashString (rule.mapPolicy f) = ruleWords hashString rule :=
    congrArg (_ ++ ·) (hwords rule.policy)
  have hall : (t.mapPolicies f).allRules = t.allRules.map (PolicyRule.mapPolicy f) := by
    simp [BridgePolicyTable.mapPolicies, BridgePolicyTable.allRules]
  unfold computePolicySignature signatureWords
  rw [hall, List.flatMap_map]
  simp only [hrule]
  rw [show (t.mapPolicies f).defaultPolicy = f t.defaultPolicy from rfl, hwords]

end

/-! ### What equal signatures do not tell -/

def toggleLock (policy : BridgeSlaPolicy) : BridgeSlaPolicy :=
  { policy with lockPolicy := !policy.lockPolicy }

/-- All the rules of the table as overrides. -/
def BridgePolicyTable.asOverrides (table : BridgePolicyTable) : BridgePolicyTable :=
  { defaultPolicy := table.defaultPolicy
    runtimeOverrides := table.allRules
    templateTopicRuleIndex := indexRules []
    topicRuleIndex := indexRules []
    overrideTopicRuleIndex := indexRules table.allRules }

/-- Every rule is among those that match some message. -/
private theorem exists_mem_matchingRules {rules : List PolicyRule} {rule : PolicyRule} (hrule : rule ∈ rules) :
    ∃ e, rule ∈ matchingRules rules e := by
  by_cases hown : rule.topic ≠ [] ∧ rule.topic ≠ kAnyTopic
  · refine ⟨{ channel := rule.channel, source := rule.source, target := rule.target, qos := rule.qos,
              topic := rule.topic }, ?_⟩
    have hlisted : rule ∈ rules.filter (hasOwnTopic rule.topic) :=
      List.mem_filter.2 ⟨hrule, decide_eq_true ⟨rfl, hown⟩⟩
    unfold matchingRules
    rw [if_neg (by simpa [List.isEmpty_iff] using List.ne_nil_of_mem hlisted), List.mem_filter]
    exact ⟨hlisted, ruleMatches_iff.2 ⟨.inr rfl, .inr rfl, .inr rfl, .inr rfl, .inr (.inr rfl)⟩⟩
  · -- no rule has the empty topic for its own
    refine ⟨{ channel := rule.channel, source := rule.source, target := rule.target, qos := rule.qos }, ?_⟩
    have hnone : rules.filter (hasOwnTopic []) = [] :=
      List.filter_eq_nil_iff.2 fun other _ h => (of_decide_eq_true h).2.1 (of_decide_eq_true h).1
    have hany : rule.topic = [] ∨ rule.topic = kAnyTopic ∨ rule.topic = [] := by
      by_cases hempty : rule.topic = []
      · exact .inl hempty
      · exact .inr (.inl (by simpa [hempty] using hown))
    unfold matchingRules
    rw [hnone, if_pos (by rfl), List.mem_filter]
    exact ⟨hrule, ruleMatches_iff.2 ⟨.inr rfl, .inr rfl, .inr rfl, .inr rfl, hany⟩⟩

private theorem overrideApplied_iff {t : BridgePolicyTable} (hindex : Indexed t) (e : MessageEnvelope) :
    (resolvePolicyInternal t e).overrideApplied = true ↔ matchingRules t.runtimeOverrides e ≠ [] := by
  have hselect (policy : BridgeSlaPolicy) (override rule template : BestMatch) :
      (selectPolicy policy override rule template).2 = override.policy.isSome := by
    unfold selectPolicy
    cases override.policy <;> rfl
  rw [← (findBestPolicyMatch_bestOf t.runtimeOverrides e).isSome, ← hindex.overrides, ← hselect]
  rfl

/-- Moving every rule to the overrides leaves the signature as it is. -/
private theorem computePolicySignature_asOverrides (hashString : Bytes → UInt64) (t : BridgePolicyTable) :
    computePolicySignature hashString t.asOverrides = computePolicySignature hashString t := by
  rfl

/-- Tables of one signature handle messages alike where they agree on what the signature does not tell.  Without
that, they do not: for every table there is one of the same signature that handles each message under another policy,
and for every table with rules and without overrides there is one that overrides the policy of some message. -/
theorem signature_detects (hashString : Bytes → UInt64) (t : BridgePolicyTable) (hindex : Indexed t) :
    (∀ t', Indexed t' → CollisionFree hashString t t' → UnhashedAgree t t' →
      computePolicySignature hashString t = computePolicySignature hashString t' → ∀ e,
        (resolvePolicyInternal t e).policy = (resolvePolicyInternal t' e).policy ∧
          (resolvePolicyInternal t e).overrideApplied = (resolvePolicyInternal t' e).overrideApplied) ∧
      (∃ t', Indexed t' ∧ computePolicySignature hashString t = computePolicySignature hashString t' ∧
        ∀ e, (resolvePolicyInternal t e).policy ≠ (resolvePolicyInternal t' e).policy) ∧
      (t.runtimeOverrides = [] → t.allRules ≠ [] → ∃ t', Indexed t' ∧
        computePolicySignature hashString t = computePolicySignature hashString t' ∧
        t'.defaultPolicy = t.defaultPolicy ∧ t'.allRules = t.allRules ∧
          ∃ e, (resolvePolicyInternal t e).overrideApplied ≠ (resolvePolicyInternal t' e).overrideApplied) := by
  refine ⟨?_, ?_, ?_⟩
  · intro t' hindex' hfree hagree hsignature e
    rw [eq_of_signature_eq hindex hindex' hfree hagree hsignature]
    exact ⟨rfl, rfl⟩
  · refine ⟨t.mapPolicies toggleLock, hindex.mapPolicies toggleLock,
      (computePolicySignature_mapPolicies toggleLock fun _ => rfl).symm, fun e heq => ?_⟩
    have hlock := congrArg BridgeSlaPolicy.lockPolicy heq
    rw [resolvePolicyInternal_mapPolicies] at hlock
    exact absurd hlock (by simp [toggleLock])
  · intro hoverrides hrules
    obtain ⟨rule, hrule⟩ := List.exists_mem_of_ne_nil _ hrules
    obtain ⟨e, he⟩ := exists_mem_matchingRules hrule
    refine ⟨t.asOverrides, ⟨rfl, rfl, rfl⟩, (computePolicySignature_asOverrides hashString t).symm, rfl, rfl, e,
      fun heq => ?_⟩
    have hmoved : (resolvePolicyInternal t.asOverrides e).overrideApplied = true :=
      (overrideApplied_iff ⟨rfl, rfl, rfl⟩ e).2 (List.ne_nil_of_mem he)
    rw [← heq, overrideApplied_iff hindex, hoverrides] at hmoved
    exact hmoved rfl

/-- A hash of strings: the bytes as the digits of a number. -/
def digitHash (s : Bytes) : UInt64 :=
  s.foldl (fun h c => h * 257 + c.toUInt64 + 1) 0

def commandTable : BridgePolicyTable :=
  (adoptConfig commandConfig {}).config.policyTable

private theorem commandTable_collisionFree {t : BridgePolicyTable}
    (hcombine : signatureWords digitHash commandTable = signatureWords digitHash t)
    (hstrings : t.hashedStrings = commandTable.hashedStrings) : CollisionFree digitHash commandTable t where
  combine := fun _ => hcombine
  strings := by
    rw [hstrings]
    decide +kernel

/-- The command table and the same table taken over once more. -/
theorem signature_detects_command :
    (resolvePolicyInternal commandTable commandEnvelope).policy =
        (resolvePolicyInternal (adoptConfig (adoptConfig commandConfig {}).config {}).config.policyTable
          commandEnvelope).policy ∧
      (resolvePolicyInternal commandTable commandEnvelope).overrideApplied =
        (resolvePolicyInternal (adoptConfig (adoptConfig commandConfig {}).config {}).config.policyTable
          commandEnvelope).overrideApplied :=
  (signature_detects digitHash commandTable (rebuildPolicyIndex_indexed _)).1 _ (rebuildPolicyIndex_indexed _)
    (commandTable_collisionFree rfl rfl) ⟨rfl, rfl, rfl, rfl⟩ rfl commandEnvelope

/-- The lock of the policy turned over. -/
theorem signature_misses_change : ¬ ∀ (hashString : Bytes → UInt64) (t t' : BridgePolicyTable), Indexed t → Indexed t' →
    CollisionFree hashString t t' → computePolicySignature hashString t = computePolicySignature hashString t' →
      ∀ e, (resolvePolicyInternal t e).policy = (resolvePolicyInternal t' e).policy ∧
        (resolvePolicyInternal t e).overrideApplied = (resolvePolicyInternal t' e).overrideApplied := by
  intro h
  have hindex : Indexed commandTable := rebuildPolicyIndex_indexed _
  have hsame := h digitHash commandTable (commandTable.mapPolicies toggleLock) hindex (hindex.mapPolicies toggleLock)
    (commandTable_collisionFree rfl rfl) rfl commandEnvelope
  exact absurd hsame.1 (by decide)

end VehicleBridge
