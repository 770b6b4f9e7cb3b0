import VehicleBridge.Interconnect.Reload
import VehicleBridge.Lib.Transition

/-!
# The policy cache over runs

The cache is keyed by topic, channel and QoS, while rules also match on source and target.  A run therefore keeps,
next to the bridge, the envelope whose resolution filled each entry.  `Coherent` says that every cached entry is what
resolving that envelope gives on the current configuration; every operation preserves it (`coherent_apply`), so a
resolution is as good as an uncached one for an envelope that the rules do not tell from the one that filled the
entry (`resolvePolicy_transparent`).
-/

namespace VehicleBridge

open ByteText Transition

/-- The operations of a bridge that touch its policies. -/
inductive PolicyOp
  | start (env : StartEnv) (config : BridgeConfig)
  | startFromProvider (env : StartEnv) (provider : Option ProviderReplies)
  | stop
  | reload (nowMs : UInt64) (provider : Option ProviderReplies)
  | resolve (nowMs : UInt64) (envelope : MessageEnvelope)

/-- A bridge, with the envelope that filled the cache entry of a key. -/
structure CacheHistory where
  bridge : BridgeState := {}
  filledBy : PolicyCacheKey → Option MessageEnvelope := fun _ => none

section
variable (hashString : Bytes → UInt64)

def PolicyOp.exec : PolicyOp → BridgeState → BridgeState
  | .start env config, s => (VehicleBridge.start hashString env config s).2
  | .startFromProvider env provider, s => (VehicleBridge.startFromProvider hashString env provider s).2
  | .stop, s => VehicleBridge.stop s
  | .reload nowMs provider, s => (reloadConfigIfChanged hashString nowMs provider s).2
  | .resolve nowMs envelope, s => (resolvePolicy nowMs envelope s).2

/-- A resolution that finds nothing fills the entry of its key. -/
def noteFilled (op : PolicyOp) (h : CacheHistory) : PolicyCacheKey → Option MessageEnvelope :=
  match op with
  | .resolve _ envelope =>
    if (h.bridge.policyCache.lookup (policyCacheKey envelope)).1 = none then
      fun key => if key = policyCacheKey envelope then some envelope else h.filledBy key
    else h.filledBy
  | _ => h.filledBy

def PolicyOp.apply (op : PolicyOp) (h : CacheHistory) : CacheHistory :=
  { bridge := op.exec hashString h.bridge, filledBy := noteFilled op h }

end

/-- Where the cache has an entry for the envelope, no rule tells the envelope from the one that filled it. -/
def FilledAlike (envelope : MessageEnvelope) (h : CacheHistory) : Prop :=
  (h.bridge.policyCache.lookup (policyCacheKey envelope)).1 ≠ none →
    ∀ filler, h.filledBy (policyCacheKey envelope) = some filler →
      MatchAlike h.bridge.config.policyTable.allRules envelope filler

/-- `FilledAlike` for the resolutions, no condition on the other operations. -/
def PolicyOp.FillsAlike (op : PolicyOp) (h : CacheHistory) : Prop :=
  match op with
  | .resolve _ envelope => FilledAlike envelope h
  | _ => True

/-- A resolution gives the policy, and counts the flags, that the current configuration gives without a cache. -/
structure Transparent (nowMs : UInt64) (envelope : MessageEnvelope) (s : BridgeState) : Prop where
  policy : (resolvePolicy nowMs envelope s).1 = (resolvePolicyInternal s.config.policyTable envelope).policy
  overrides : (resolvePolicy nowMs envelope s).2.policyCounters.policyOverrideCount =
    s.policyCounters.policyOverrideCount +
      if (resolvePolicyInternal s.config.policyTable envelope).overrideApplied then 1 else 0
  conflicts : (resolvePolicy nowMs envelope s).2.policyCounters.policyConflictCount =
    s.policyCounters.policyConflictCount +
      if (resolvePolicyInternal s.config.policyTable envelope).conflictDetected then 1 else 0

/-! ### Coherence -/

/-- Every cached entry is the resolution of the envelope that filled it. -/
structure Coherent (h : CacheHistory) : Prop where
  wellFormed : h.bridge.policyCache.WellFormed
  filled : ∀ item ∈ h.bridge.policyCache.items, ∃ filler, h.filledBy item.key = some filler ∧
    policyCacheKey filler = item.key ∧ item.value = resolvePolicyInternal h.bridge.config.policyTable filler

private theorem coherent_init : Coherent {} :=
  ⟨LruCache.wellFormed_empty, fun _ h => absurd h List.not_mem_nil⟩

/-- The configuration and the cache are kept, or the cache is emptied. -/
def CacheKept (s s' : BridgeState) : Prop :=
  s'.policyCache = s.policyCache.clear ∨ (s'.config = s.config ∧ s'.policyCache = s.policyCache)

private theorem Coherent.of_cacheKept {h : CacheHistory} {s' : BridgeState} (hc : Coherent h)
    (hk : CacheKept h.bridge s') : Coherent { h with bridge := s' } := by
  rcases hk with hclear | ⟨hconfig, hcache⟩
  · refine ⟨?_, ?_⟩
    · rw [hclear]
      exact LruCache.wellFormed_clear _
    · rw [hclear]
      exact fun _ hitem => absurd hitem List.not_mem_nil
  · refine ⟨?_, ?_⟩
    · rw [hcache]
      exact hc.wellFormed
    · rw [hcache, hconfig]
      exact hc.filled

section
variable (hashString : Bytes → UInt64)

private theorem start_cacheKept (env : StartEnv) (config : BridgeConfig) (s : BridgeState) :
    CacheKept s (start hashString env config s).2 := by
  have hprep := prepareStart_policyCache hashString config s
  rcases start_cases hashString env config s with heq | heq | ⟨ec, running, heq⟩
  · rw [heq]
    exact .inr ⟨rfl, rfl⟩
  · rw [heq]
    exact .inl hprep
  · rw [heq]
    exact .inl hprep

private theorem startFromProvider_cacheKept (env : StartEnv) (provider : Option ProviderReplies) (s : BridgeState) :
    CacheKept s (startFromProvider hashString env provider s).2 := by
  rcases startFromProvider_cases hashString env provider s with ⟨ec, heq⟩ | ⟨p, -, -, heq⟩ <;> rw [heq]
  · exact .inr ⟨rfl, rfl⟩
  · exact start_cacheKept hashString env p.config (noteProvider hashString p s)

private theorem reload_cacheKept (nowMs : UInt64) (provider : Option ProviderReplies) (s : BridgeState) :
    CacheKept s (reloadConfigIfChanged hashString nowMs provider s).2 := by
  rcases reloadConfigIfChanged_cases hashString nowMs provider s with
    ⟨-, ec, audit, writes, heq⟩ | ⟨p, -, -, -, heq⟩ | ⟨p, -, -, -, heq⟩
  · rw [heq]
    exact .inr ⟨rfl, rfl⟩
  · rw [heq]
    exact .inl rfl
  · rw [heq]
    exact .inl rfl

end

/-- A resolution keeps the cache coherent, with the envelope it fills an entry for taken down. -/
private theorem coherent_resolve {h : CacheHistory} (hc : Coherent h) (nowMs : UInt64) (e : MessageEnvelope) :
    Coherent { bridge := (resolvePolicy nowMs e h.bridge).2, filledBy := noteFilled (.resolve nowMs e) h } := by
  have hconfig : (resolvePolicy nowMs e h.bridge).2.config = h.bridge.config := by
    rw [resolvePolicy_frame]
  have hwf := hc.wellFormed.lookup (policyCacheKey e)
  have hmem := h.bridge.policyCache.mem_lookup (policyCacheKey e)
  cases hfound : (h.bridge.policyCache.lookup (policyCacheKey e)).1 with
  | some cached =>
    have hcache := resolvePolicy_hit nowMs hfound
    refine ⟨by rw [hcache]; exact hwf, fun item hitem => ?_⟩
    rw [hcache] at hitem
    simp only [hconfig, noteFilled, hfound, reduceCtorEq, if_false]
    exact hc.filled item ((hmem item).1 hitem)
  | none =>
    have hcache := resolvePolicy_miss nowMs hfound
    refine ⟨by rw [hcache]; exact hwf.store, fun item hitem => ?_⟩
    rw [hcache] at hitem
    simp only [hconfig, noteFilled, hfound, if_true]
    rcases hwf.mem_store hitem with ⟨hkey, hvalue⟩ | ⟨hne, hold⟩
    · exact ⟨e, if_pos hkey, hkey.symm, hvalue⟩
    · obtain ⟨filler, hfiller, hrest⟩ := hc.filled item ((hmem item).1 hold)
      exact ⟨filler, (if_neg hne).trans hfiller, hrest⟩

/-- **The step lemma**: every operation keeps the cache coherent. -/
theorem coherent_apply (hashString : Bytes → UInt64) {h : CacheHistory} (hc : Coherent h) (op : PolicyOp) :
    Coherent (op.apply hashString h) := by
  cases op with
  | start env config => exact hc.of_cacheKept (start_cacheKept hashString env config h.bridge)
  | startFromProvider env provider =>
    exact hc.of_cacheKept (startFromProvider_cacheKept hashString env provider h.bridge)
  | stop => exact hc.of_cacheKept (.inr ⟨rfl, rfl⟩)
  | reload nowMs provider => exact hc.of_cacheKept (reload_cacheKept hashString nowMs provider h.bridge)
  | resolve nowMs e => exact coherent_resolve hc nowMs e

/-- With a coherent cache, the entry a resolution uses is the one it would compute. -/
private theorem usedEntry_eq {h : CacheHistory} (hc : Coherent h) {e : MessageEnvelope} (halike : FilledAlike e h) :
    usedEntry e h.bridge = resolvePolicyInternal h.bridge.config.policyTable e := by
  unfold usedEntry
  cases hfound : (h.bridge.policyCache.lookup (policyCacheKey e)).1 with
  | none => rfl
  | some entry =>
    obtain ⟨item, hitem, hkey, hvalue⟩ := hc.wellFormed.lookup_some hfound
    obtain ⟨filler, hfiller, hfkey, hfill⟩ := hc.filled item hitem
    rw [hkey] at hfiller hfkey
    have hmatch := halike (by rw [hfound]; exact Option.some_ne_none entry) filler hfiller
    have htopic : e.topic = filler.topic := (congrArg PolicyCacheKey.topic hfkey).symm
    rw [Option.getD_some, ← hvalue, hfill]
    exact (resolvePolicyInternal_congr htopic hmatch).symm

private theorem transparent_of_usedEntry {e : MessageEnvelope} {s : BridgeState} (nowMs : UInt64)
    (h : usedEntry e s = resolvePolicyInternal s.config.policyTable e) : Transparent nowMs e s := by
  have hcounts := resolvePolicy_counts nowMs e s
  rw [h] at hcounts
  exact ⟨by rw [resolvePolicy_fst, h], hcounts.1, hcounts.2⟩

/-- The steps of a run in which no resolution meets an entry filled for an envelope that the rules tell from its
own. -/
def AlikeStep (hashString : Bytes → UInt64) (h : CacheHistory) (op : PolicyOp) (h' : CacheHistory) : Prop :=
  op.FillsAlike h ∧ h' = op.apply hashString h

/-- **The policy cache is transparent** in every run of a new bridge in which no resolution meets an entry filled
for an envelope that the rules of the current configuration tell from its own. -/
theorem resolvePolicy_transparent (hashString : Bytes → UInt64) {ops : List PolicyOp} {h h' : CacheHistory}
    (hrun : Run (AlikeStep hashString) {} ops h) {nowMs : UInt64} {e : MessageEnvelope}
    (hstep : AlikeStep hashString h (.resolve nowMs e) h') : Transparent nowMs e h.bridge := by
  have hc : Coherent h := hrun.invariant (fun s o s' hs hstep => by
    rw [hstep.2]
    exact coherent_apply hashString hs o) coherent_init
  exact transparent_of_usedEntry nowMs (usedEntry_eq hc hstep.1)

/-! ### Two sources on one topic -/

def cameraFrame : MessageEnvelope :=
  { source := text "camera", target := text "robot", topic := text "frames" }

def lidarFrame : MessageEnvelope :=
  { cameraFrame with source := text "lidar" }

/-- A new bridge after a start with the given configuration and the resolution of a camera frame. -/
def afterCameraFrame (config : BridgeConfig) : CacheHistory :=
  (PolicyOp.resolve 0 cameraFrame).apply (fun _ => 0) ((PolicyOp.start {} config).apply (fun _ => 0) {})

theorem resolvePolicy_transparent_lidarFrame : Transparent 0 lidarFrame (afterCameraFrame plainConfig).bridge := by
  have hstart : Run (AlikeStep fun _ => 0) ({} : CacheHistory) ([] ++ [.start {} plainConfig]) _ :=
    (Run.refl _).snoc ⟨trivial, rfl⟩
  have hmiss : FilledAlike cameraFrame ((PolicyOp.start {} plainConfig).apply (fun _ => 0) {}) :=
    fun hhit => absurd rfl hhit
  have hrun : Run (AlikeStep fun _ => 0) ({} : CacheHistory)
      ([] ++ [.start {} plainConfig] ++ [.resolve 0 cameraFrame]) (afterCameraFrame plainConfig) :=
    hstart.snoc ⟨hmiss, rfl⟩
  refine resolvePolicy_transparent (fun _ => 0) hrun ⟨fun _ filler hfiller => ?_, rfl⟩
  cases hfiller
  unfold MatchAlike
  decide

/-- A configuration that gives messages of one source a policy of their own. -/
def cameraConfig : BridgeConfig :=
  { plainConfig with
    policyTable := {
      rules := [{ matchAnySource := false, source := text "camera", policy := { maxEndToEndLatencyMs := 10 } }] } }

/-- The policy of the camera is handed to the lidar when the camera has come first. -/
theorem resolvePolicy_not_transparent : ¬ ∀ (hashString : Bytes → UInt64) (ops : List PolicyOp) (h : CacheHistory),
    Run (fun h op h' => h' = op.apply hashString h) {} ops h →
      ∀ (nowMs : UInt64) (e : MessageEnvelope), Transparent nowMs e h.bridge := by
  intro h
  have hrun : Run (fun h op h' => h' = op.apply (fun _ => 0) h) ({} : CacheHistory)
      ([] ++ [PolicyOp.start {} cameraConfig] ++ [.resolve 0 cameraFrame]) (afterCameraFrame cameraConfig) :=
    ((Run.refl _).snoc rfl).snoc rfl
  have hpolicy := (h (fun _ => 0) _ (afterCameraFrame cameraConfig) hrun 0 lidarFrame).policy
  revert hpolicy
  decide

end VehicleBridge
