import VehicleBridge.Interconnect.PolicyResolution
import VehicleBridge.Lib.PriorityFifo

/-!
# The best match, and what the topic index does to it

The loop of `FindBestPolicyMatch` keeps a best rule and a flag.  `Selected` says what they are after a list of matching
rules: the earliest rule of the highest priority, and whether another one has that priority
(`findBestPolicyMatch_selected`).

The index of a layer narrows the candidates to the rules that have the topic of the message for their own, as soon as
there is one, whether it matches or not.  The wildcard rules are out of the race then, and the result is that of a scan
over all rules exactly where they would not have won or tied it (`findBestPolicyMatch_indexed_eq_iff`).
-/

namespace VehicleBridge

open ByteText PriorityFifo

/-! ### The search -/

/-- The priority, as a number. -/
def PolicyRule.rank (rule : PolicyRule) : Nat :=
  rule.priority.toNat

/-- What the search holds after the matching rules `seen`. -/
inductive Selected : List PolicyRule → BestMatch → Prop
  | nothing : Selected [] {}
  | best {seen pre post : List PolicyRule} {rule : PolicyRule} {conflict : Bool}
      (split : Split PolicyRule.rank seen rule pre post) (tie : conflict = true ↔ Tied PolicyRule.rank seen) :
      Selected seen { policy := some rule.policy, priority := rule.priority, conflict }

theorem PolicyRule.rank_eq_iff {lhs rhs : PolicyRule} : lhs.rank = rhs.rank ↔ lhs.priority = rhs.priority :=
  UInt32.toNat_inj

private theorem not_tied_singleton (rule : PolicyRule) : ¬ Tied PolicyRule.rank [rule] := by
  rw [(Split.singleton rule).tied_iff]
  simp

theorem Selected.consider {seen : List PolicyRule} {best : BestMatch} {e : MessageEnvelope} {rule : PolicyRule}
    (h : Selected seen best) (hmatch : ruleMatches rule e = true) :
    Selected (seen ++ [rule]) (best.consider e rule) := by
  unfold BestMatch.consider
  rw [if_neg (by simp [hmatch])]
  cases h with
  | nothing =>
    rw [if_pos (Or.inl rfl)]
    exact .best (.singleton rule) (by simp [not_tied_singleton])
  | @best _ pre post top conflict split tie =>
    by_cases hgt : rule.priority > top.priority
    · rw [if_pos (Or.inr hgt)]
      have hsplit := split.overtake (y := rule) (UInt32.lt_iff_toNat_lt.1 hgt)
      exact .best hsplit (by rw [hsplit.tied_iff]; simp)
    · rw [if_neg (by simpa using hgt)]
      have hle : rule.rank ≤ top.rank := Nat.not_lt.1 fun hlt => hgt (UInt32.lt_iff_toNat_lt.2 hlt)
      have hsplit := split.arrive hle
      have htied : Tied PolicyRule.rank (seen ++ [rule]) ↔
          Tied PolicyRule.rank seen ∨ rule.priority = top.priority := by
        rw [hsplit.tied_iff, split.tied_iff, ← PolicyRule.rank_eq_iff]
        simp only [List.mem_append, List.mem_singleton, or_and_right, exists_or, exists_eq_left]
      by_cases heq : rule.priority = top.priority
      · rw [if_pos heq]
        exact .best hsplit (by simp [htied, heq])
      · rw [if_neg heq]
        exact .best hsplit (by simp [htied, heq, tie])

private theorem foldl_consider_selected {e : MessageEnvelope} {rules seen : List PolicyRule} {best : BestMatch}
    (h : Selected seen best) :
    Selected (seen ++ rules.filter (ruleMatches · e)) (rules.foldl (BestMatch.consider e) best) := by
  induction rules generalizing seen best with
  | nil => simpa using h
  | cons rule rest ih =>
    rw [List.foldl_cons]
    cases hmatch : ruleMatches rule e with
    | true =>
      rw [List.filter_cons_of_pos (by simpa using hmatch), List.append_cons]
      exact ih (h.consider hmatch)
    | false =>
      have hskip : best.consider e rule = best := by simp [BestMatch.consider, hmatch]
      rw [List.filter_cons_of_neg (by simp [hmatch]), hskip]
      exact ih h

/-- The candidates of a layer that match a message. -/
def matchingCandidates (rules : List PolicyRule) (index : TopicIndex) (e : MessageEnvelope) : List PolicyRule :=
  (candidates rules index e.topic).filter (ruleMatches · e)

/-- **The search** finds the earliest of the matching candidates of the highest priority, and tells ties. -/
theorem findBestPolicyMatch_selected (rules : List PolicyRule) (index : TopicIndex) (e : MessageEnvelope) :
    Selected (matchingCandidates rules index e) (findBestPolicyMatch rules index e) :=
  foldl_consider_selected .nothing

/-- There is only one such result. -/
theorem Selected.unique {seen : List PolicyRule} {best best' : BestMatch} (h : Selected seen best)
    (h' : Selected seen best') : best = best' := by
  cases h with
  | nothing =>
    cases h' with
    | nothing => rfl
    | best split _ => exact absurd split.mem List.not_mem_nil
  | best split tie =>
    cases h' with
    | nothing => exact absurd split.mem List.not_mem_nil
    | best split' tie' =>
      obtain ⟨rfl, -, -⟩ := split.unique split'
      rw [Bool.eq_iff_iff.2 (tie.trans tie'.symm)]

/-- With a match there is a best one. -/
theorem Selected.isSome_iff {seen : List PolicyRule} {best : BestMatch} (h : Selected seen best) :
    best.policy.isSome = true ↔ seen ≠ [] := by
  cases h with
  | nothing => simp
  | best split tie => exact iff_of_true rfl (List.ne_nil_of_mem split.mem)

theorem Selected.of_isSome {seen : List PolicyRule} {best : BestMatch} (h : Selected seen best)
    (hsome : best.policy.isSome = true) : ∃ top pre post, Split PolicyRule.rank seen top pre post ∧
      best.policy = some top.policy ∧ best.priority = top.priority ∧
        (best.conflict = true ↔ Tied PolicyRule.rank seen) := by
  cases h with
  | nothing => cases hsome
  | best split tie => exact ⟨_, _, _, split, rfl, rfl, tie⟩

/-! ### The index -/

/-- An empty index. -/
def noIndex : TopicIndex :=
  fun _ => none

/-- The rules with the topic of the message for their own that match it. -/
def ownMatches (rules : List PolicyRule) (e : MessageEnvelope) : List PolicyRule :=
  (rules.filter (hasOwnTopic e.topic)).filter (ruleMatches · e)

/-- The rules for any topic that match it. -/
def wildcardMatches (rules : List PolicyRule) (e : MessageEnvelope) : List PolicyRule :=
  (rules.filter fun rule => decide (rule.topic = [] ∨ rule.topic = kAnyTopic)).filter (ruleMatches · e)

/-- The wildcard rules that match only tie with rules for the topic that tie among themselves, and the earliest of
each, all rules or those for the topic, have one policy. -/
def TiedAlready (rules : List PolicyRule) (e : MessageEnvelope) : Prop :=
  Tied PolicyRule.rank (ownMatches rules e) ∧
    ∃ own pre post first pre' post', Split PolicyRule.rank (ownMatches rules e) own pre post ∧
      Split PolicyRule.rank (rules.filter (ruleMatches · e)) first pre' post' ∧
        own.priority = first.priority ∧ own.policy = first.policy

/-- No rule has the topic for its own, or each wildcard rule that matches is outranked by a rule for the topic that
matches, or the wildcards change nothing about a tie. -/
def IndexHarmless (rules : List PolicyRule) (e : MessageEnvelope) : Prop :=
  rules.filter (hasOwnTopic e.topic) = [] ∨
    (∀ wildcard ∈ wildcardMatches rules e, ∃ rule ∈ ownMatches rules e, wildcard.priority < rule.priority) ∨
      TiedAlready rules e

private theorem matchingCandidates_noIndex (rules : List PolicyRule) (e : MessageEnvelope) :
    matchingCandidates rules noIndex e = rules.filter (ruleMatches · e) :=
  rfl

private theorem matchingCandidates_indexRules {rules : List PolicyRule} {e : MessageEnvelope}
    (hown : rules.filter (hasOwnTopic e.topic) ≠ []) :
    matchingCandidates rules (indexRules rules) e = ownMatches rules e := by
  unfold matchingCandidates ownMatches
  rw [candidates_indexRules, if_neg (by simpa [List.isEmpty_iff] using hown)]

private theorem ownMatches_eq (rules : List PolicyRule) (e : MessageEnvelope) :
    ownMatches rules e = (rules.filter (ruleMatches · e)).filter (hasOwnTopic e.topic) := by
  unfold ownMatches
  rw [List.filter_filter, List.filter_filter]
  exact List.filter_congr fun rule _ => Bool.and_comm _ _

private theorem topic_of_ruleMatches {rule : PolicyRule} {e : MessageEnvelope} (h : ruleMatches rule e = true) :
    rule.topic = [] ∨ rule.topic = kAnyTopic ∨ rule.topic = e.topic := by
  unfold ruleMatches at h
  grind

/-- A rule that matches has the topic for its own or is a wildcard. -/
private theorem mem_matches_cases {rules : List PolicyRule} {e : MessageEnvelope} {rule : PolicyRule}
    (h : rule ∈ rules.filter (ruleMatches · e)) : rule ∈ ownMatches rules e ∨ rule ∈ wildcardMatches rules e := by
  obtain ⟨hmem, hmatch⟩ := List.mem_filter.1 h
  by_cases hany : rule.topic = [] ∨ rule.topic = kAnyTopic
  · exact Or.inr (List.mem_filter.2 ⟨List.mem_filter.2 ⟨hmem, decide_eq_true hany⟩, hmatch⟩)
  · rw [not_or] at hany
    have htopic : rule.topic = e.topic := by
      rcases topic_of_ruleMatches hmatch with hnil | hstar | heq
      · exact absurd hnil hany.1
      · exact absurd hstar hany.2
      · exact heq
    exact Or.inl (List.mem_filter.2 ⟨List.mem_filter.2 ⟨hmem, decide_eq_true ⟨htopic, hany⟩⟩, hmatch⟩)

private theorem mem_matches_of_wildcard {rules : List PolicyRule} {e : MessageEnvelope} {rule : PolicyRule}
    (h : rule ∈ wildcardMatches rules e) :
    rule ∈ rules.filter (ruleMatches · e) ∧ hasOwnTopic e.topic rule = false := by
  obtain ⟨hmem, hmatch⟩ := List.mem_filter.1 h
  obtain ⟨hrules, hany⟩ := List.mem_filter.1 hmem
  have hany' : rule.topic = [] ∨ rule.topic = kAnyTopic := of_decide_eq_true hany
  refine ⟨List.mem_filter.2 ⟨hrules, hmatch⟩, decide_eq_false ?_⟩
  rintro ⟨-, hnil, hstar⟩
  exact hany'.elim hnil hstar

/-- Where the wildcards are outranked, the best of all matching rules is a rule for the topic, and those that tie with
it are too. -/
private theorem selected_of_outranked {rules : List PolicyRule} {e : MessageEnvelope} {best : BestMatch}
    (h : Selected (rules.filter (ruleMatches · e)) best)
    (hwild : ∀ wildcard ∈ wildcardMatches rules e, ∃ rule ∈ ownMatches rules e, wildcard.priority < rule.priority) :
    Selected (ownMatches rules e) best := by
  rw [ownMatches_eq]
  generalize hall : rules.filter (ruleMatches · e) = seen at h
  cases h with
  | nothing => exact .nothing
  | @best _ pre post top conflict split tie =>
    have hown : ∀ rule ∈ seen, rule.rank = top.rank → hasOwnTopic e.topic rule = true := by
      intro rule hrule hrank
      subst hall
      rcases mem_matches_cases hrule with hmem | hmem
      · rw [ownMatches_eq] at hmem
        exact (List.mem_filter.1 hmem).2
      · obtain ⟨better, hbetter, hlt⟩ := hwild rule hmem
        rw [ownMatches_eq] at hbetter
        have hle := split.le better (List.mem_filter.1 hbetter).1
        have hlt' : rule.rank < better.rank := UInt32.lt_iff_toNat_lt.1 hlt
        omega
    have hsplit := split.filter (hown top split.mem rfl)
    refine .best hsplit ?_
    rw [tie, split.tied_iff, hsplit.tied_iff]
    constructor
    · rintro ⟨rule, hrule, hrank⟩
      have hmem : rule ∈ seen := by
        rw [split.eq]
        exact List.mem_append_right _ (List.mem_cons_of_mem _ hrule)
      exact ⟨rule, List.mem_filter.2 ⟨hrule, hown rule hmem hrank⟩, hrank⟩
    · rintro ⟨rule, hrule, hrank⟩
      exact ⟨rule, (List.mem_filter.1 hrule).1, hrank⟩

/-- A tie of the rules for the topic, at the highest priority of all, is a tie of all. -/
private theorem tied_of_ownMatches {rules : List PolicyRule} {e : MessageEnvelope} {own first : PolicyRule}
    {pre post pre' post' : List PolicyRule} (hown : Split PolicyRule.rank (ownMatches rules e) own pre post)
    (hall : Split PolicyRule.rank (rules.filter (ruleMatches · e)) first pre' post')
    (hrank : own.priority = first.priority) (htied : Tied PolicyRule.rank (ownMatches rules e)) :
    Tied PolicyRule.rank (rules.filter (ruleMatches · e)) := by
  obtain ⟨lhs, rhs, hsub, heq, hmax⟩ := htied
  have htop : first.rank ≤ lhs.rank := by
    rw [← PolicyRule.rank_eq_iff.2 hrank]
    exact hmax own hown.mem
  refine ⟨lhs, rhs, ?_, heq, fun rule hrule => (hall.le rule hrule).trans htop⟩
  rw [ownMatches_eq] at hsub
  exact hsub.trans List.filter_sublist

/-- With a wildcard among the best, the two results are one only if the rules for the topic tie already. -/
private theorem tiedAlready_of_eq {rules : List PolicyRule} {e : MessageEnvelope} {best : BestMatch}
    (hown : Selected (ownMatches rules e) best) (hall : Selected (rules.filter (ruleMatches · e)) best)
    {wildcard : PolicyRule} (hwild : wildcard ∈ wildcardMatches rules e)
    (hmax : ∀ rule ∈ ownMatches rules e, rule.priority ≤ wildcard.priority) : TiedAlready rules e := by
  obtain ⟨hmem, hnotOwn⟩ := mem_matches_of_wildcard hwild
  have hsome : best.policy.isSome = true := hall.isSome_iff.2 (List.ne_nil_of_mem hmem)
  obtain ⟨first, pre', post', hsplit', hpolicy', hpriority', htie'⟩ := hall.of_isSome hsome
  obtain ⟨own, pre, post, hsplit, hpolicy, hpriority, htie⟩ := hown.of_isSome hsome
  have hrank : own.priority = first.priority := hpriority.symm.trans hpriority'
  have htop : wildcard.rank = first.rank := by
    refine le_antisymm (hsplit'.le wildcard hmem) ?_
    rw [← PolicyRule.rank_eq_iff.2 hrank]
    exact UInt32.le_iff_toNat_le.1 (hmax own hsplit.mem)
  -- the wildcard and the rule for the topic are two rules of the highest priority
  have htied : Tied PolicyRule.rank (rules.filter (ruleMatches · e)) := by
    rw [hsplit'.tied_iff]
    by_contra hnone
    have honly : ∀ rule ∈ rules.filter (ruleMatches · e), rule.rank = first.rank → rule = first := by
      intro rule hrule heq
      rw [hsplit'.eq, List.mem_append, List.mem_cons] at hrule
      rcases hrule with hbefore | hfirst | hafter
      · exact absurd heq (Nat.ne_of_lt (hsplit'.before rule hbefore))
      · exact hfirst
      · exact absurd ⟨rule, hafter, heq⟩ hnone
    have hownMem := hsplit.mem
    rw [ownMatches_eq] at hownMem
    obtain ⟨hownAll, hownTopic⟩ := List.mem_filter.1 hownMem
    have hsame : own = wildcard :=
      (honly own hownAll (PolicyRule.rank_eq_iff.2 hrank)).trans (honly wildcard hmem htop).symm
    rw [hsame, hnotOwn] at hownTopic
    cases hownTopic
  have hpolicies : own.policy = first.policy := Option.some.inj (hpolicy.symm.trans hpolicy')
  exact ⟨htie.1 (htie'.2 htied), own, pre, post, first, pre', post', hsplit, hsplit', hrank, hpolicies⟩

/-- **The index does not change the result** if and only if it hides no wildcard rule that would have won or tied. -/
theorem findBestPolicyMatch_indexed_eq_iff (rules : List PolicyRule) (e : MessageEnvelope) :
    findBestPolicyMatch rules (indexRules rules) e = findBestPolicyMatch rules noIndex e ↔ IndexHarmless rules e := by
  by_cases hempty : rules.filter (hasOwnTopic e.topic) = []
  · refine iff_of_true ?_ (Or.inl hempty)
    unfold findBestPolicyMatch
    rw [candidates_indexRules, hempty]
    rfl
  have hindexed := findBestPolicyMatch_selected rules (indexRules rules) e
  have hscan := findBestPolicyMatch_selected rules noIndex e
  rw [matchingCandidates_indexRules hempty] at hindexed
  rw [matchingCandidates_noIndex] at hscan
  constructor
  · intro heq
    by_cases hwild : ∀ wildcard ∈ wildcardMatches rules e, ∃ rule ∈ ownMatches rules e,
        wildcard.priority < rule.priority
    · exact Or.inr (Or.inl hwild)
    · push Not at hwild
      obtain ⟨wildcard, hmem, hmax⟩ := hwild
      rw [heq] at hindexed
      exact Or.inr (Or.inr (tiedAlready_of_eq hindexed hscan hmem fun rule hrule => UInt32.not_lt.1 (hmax rule hrule)))
  · rintro (hnone | hwild | ⟨htied, own, pre, post, first, pre', post', hsplit, hsplit', hrank, hpolicy⟩)
    · exact absurd hnone hempty
    · exact hindexed.unique (selected_of_outranked hscan hwild)
    · have htied' := tied_of_ownMatches hsplit hsplit' hrank htied
      have hbest : Selected (ownMatches rules e)
          { policy := some own.policy, priority := own.priority, conflict := true } :=
        .best hsplit (iff_of_true rfl htied)
      have hbest' : Selected (rules.filter (ruleMatches · e))
          { policy := some first.policy, priority := first.priority, conflict := true } :=
        .best hsplit' (iff_of_true rfl htied')
      rw [hindexed.unique hbest, hscan.unique hbest', hrank, hpolicy]

/-- A rule for control messages on one topic, and a rule for everything. -/
def narrowAndWide : List PolicyRule :=
  [{ matchAnyChannel := false, channel := .control, topic := text "vehicle.command" },
    { priority := 7, policy := { maxEndToEndLatencyMs := 20 } }]

/-- An event on the topic falls through to the default policy: the index leaves out the rule that matches it. -/
theorem indexed_ne_scan : ¬ ∀ (rules : List PolicyRule) (e : MessageEnvelope),
    findBestPolicyMatch rules (indexRules rules) e = findBestPolicyMatch rules noIndex e := by
  intro hall
  have heq := hall narrowAndWide { channel := .event, topic := text "vehicle.command" }
  revert heq
  decide

end VehicleBridge
