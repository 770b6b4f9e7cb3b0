import VehicleBridge.Lib.LruHistory
import VehicleBridge.Interconnect.Lifecycle

/-!
# The policy cache keeps the policies used last

`policyCacheRun` executes a sequence of lookups, stores and clears on an empty cache and keeps their uses: what was
stored, and the keys that were found.  `policy_cache_lru` says what the list, the index and the next lookup are after
any such sequence.  The cache of a bridge is changed by these three operations only: a resolution looks up and stores
(`resolvePolicy_policyCache`), a new configuration clears (`adoptConfig_policyCache`).
-/

namespace VehicleBridge

open LruCache

/-! ### The operations -/

def lookupPolicyCache (envelope : MessageEnvelope) (cache : PolicyCache) : Option PolicyCacheEntry × PolicyCache :=
  cache.lookup (policyCacheKey envelope)

def storePolicyCache (envelope : MessageEnvelope) (policy : BridgeSlaPolicy) (overrideApplied conflictDetected : Bool)
    (cache : PolicyCache) : PolicyCache :=
  cache.store kPolicyCacheMaxEntries (policyCacheKey envelope) ⟨policy, overrideApplied, conflictDetected⟩

/-- The last lines of `RebuildPolicyIndex`. -/
def clearPolicyCache (cache : PolicyCache) : PolicyCache :=
  cache.clear

inductive PolicyCacheOp
  | lookup (envelope : MessageEnvelope)
  | store (envelope : MessageEnvelope) (policy : BridgeSlaPolicy) (overrideApplied conflictDetected : Bool)
  | clear

abbrev PolicyCacheUses := LruCache.History PolicyCacheKey PolicyCacheEntry

def PolicyCacheOp.exec (h : PolicyCacheUses) : PolicyCacheOp → PolicyCacheUses
  | .lookup envelope =>
    let r := lookupPolicyCache envelope h.cache
    -- only a hit is a use
    { cache := r.2, uses := if r.1.isSome then h.uses ++ [.hit (policyCacheKey envelope)] else h.uses }
  | .store envelope policy overrideApplied conflictDetected =>
    { cache := storePolicyCache envelope policy overrideApplied conflictDetected h.cache
      uses := h.uses ++ [.stored (policyCacheKey envelope) ⟨policy, overrideApplied, conflictDetected⟩] }
  | .clear => { cache := clearPolicyCache h.cache, uses := [] }

/-- An empty cache after these operations, with its uses since the last clear. -/
def policyCacheRun (ops : List PolicyCacheOp) : PolicyCacheUses :=
  ops.foldl PolicyCacheOp.exec {}

/-- A resolution looks its envelope up and, when nothing is found, stores what it computes. -/
theorem resolvePolicy_policyCache (nowMs : UInt64) (e : MessageEnvelope) (s : BridgeState) :
    (resolvePolicy nowMs e s).2.policyCache =
      if (lookupPolicyCache e s.policyCache).1.isSome then (lookupPolicyCache e s.policyCache).2
      else
        let resolved := resolvePolicyInternal s.config.policyTable e
        storePolicyCache e resolved.policy resolved.overrideApplied resolved.conflictDetected
          (lookupPolicyCache e s.policyCache).2 := by
  cases hfound : (s.policyCache.lookup (policyCacheKey e)).1 with
  | none =>
    rw [resolvePolicy_miss nowMs hfound, lookupPolicyCache, hfound]
    rfl
  | some cached =>
    rw [resolvePolicy_hit nowMs hfound, lookupPolicyCache, hfound]
    rfl

/-! ### What the cache remembers -/

/-- The cache operation that the source's words stand for. -/
def PolicyCacheOp.toOp : PolicyCacheOp → Op PolicyCacheKey PolicyCacheEntry
  | .lookup envelope => .lookup (policyCacheKey envelope)
  | .store envelope policy overrideApplied conflictDetected =>
    .store (policyCacheKey envelope) ⟨policy, overrideApplied, conflictDetected⟩
  | .clear => .clear

private theorem exec_toOp (h : PolicyCacheUses) (op : PolicyCacheOp) :
    op.exec h = h.exec kPolicyCacheMaxEntries op.toOp := by
  cases op <;> rfl

private theorem policyCacheRun_eq (ops : List PolicyCacheOp) :
    policyCacheRun ops = after kPolicyCacheMaxEntries (ops.map PolicyCacheOp.toOp) := by
  rw [policyCacheRun, after, List.foldl_map, funext fun h => funext fun op => exec_toOp h op]

/-- What holds of the list, the index and the next lookup of a cache with these uses. -/
structure LruMap (h : PolicyCacheUses) : Prop where
  keys_nodup : h.cache.keys.Nodup
  nodes_nodup : h.cache.nodes.Nodup
  index_iff : ∀ key node, h.cache.index key = some node ↔ ∃ item ∈ h.cache.items, item.key = key ∧ item.node = node
  bounded : h.cache.items.length ≤ kPolicyCacheMaxEntries
  ordered : h.cache.keys = (recency (h.uses.map Use.key)).take kPolicyCacheMaxEntries
  found : ∀ envelope, RecentlyUsed kPolicyCacheMaxEntries h.uses (policyCacheKey envelope) →
    ∃ entry, lastStored (policyCacheKey envelope) h.uses = some entry ∧
      (lookupPolicyCache envelope h.cache).1 = some entry
  forgotten : ∀ envelope, ¬ RecentlyUsed kPolicyCacheMaxEntries h.uses (policyCacheKey envelope) →
    (lookupPolicyCache envelope h.cache).1 = none

private theorem lruMap_of_remembers {h : PolicyCacheUses} (hr : Remembers kPolicyCacheMaxEntries h) : LruMap h where
  keys_nodup := hr.wellFormed.nodup_keys
  nodes_nodup := hr.wellFormed.nodes_nodup
  index_iff key node := by
    constructor
    · exact hr.wellFormed.listed key node
    · rintro ⟨item, hitem, rfl, rfl⟩
      exact hr.wellFormed.indexed item hitem
  bounded := by
    have hlen := hr.bounded
    rwa [LruCache.keys, List.length_map] at hlen
  ordered := hr.keys_eq
  found envelope hrecent := by
    obtain ⟨heq, hsome⟩ := (hr.lookup_eq (policyCacheKey envelope)).1 hrecent
    obtain ⟨entry, hentry⟩ := Option.isSome_iff_exists.1 hsome
    exact ⟨entry, hentry, heq.trans hentry⟩
  forgotten envelope := (hr.lookup_eq (policyCacheKey envelope)).2

/-- **The policy cache is a bounded LRU map**, after any sequence of lookups, stores and clears. -/
theorem policy_cache_lru (ops : List PolicyCacheOp) : LruMap (policyCacheRun ops) := by
  rw [policyCacheRun_eq]
  exact lruMap_of_remembers (remembers_after _ _)

end VehicleBridge
