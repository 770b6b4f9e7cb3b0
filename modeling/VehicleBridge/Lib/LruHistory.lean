import VehicleBridge.Lib.FifoWindow
import VehicleBridge.Lib.LruCache

/-!
# What a least-recently-used cache remembers

A cache is compared with the history of its uses since it was last cleared: the values stored and the keys found.
`recency` lists the keys of a history by their last use, latest first.  The cache lists the first of these keys, as many
as its capacity says, each with the value stored last (`Remembers`); so it finds a key exactly as long as fewer than
`capacity` other keys have been used since its last use (`Remembers.lookup_eq`).
-/

namespace LruCache

open FifoWindow

variable {K V : Type*} [DecidableEq K]

/-! ### Keys by their last use -/

/-- The keys of a history, the one used last first. -/
def recency (keys : List K) : List K :=
  keys.dedup.reverse

/-- The keys when one of them, or another one, is used. -/
def touch (key : K) (keys : List K) : List K :=
  key :: keys.filter (· != key)

private theorem nodup_recency (keys : List K) : (recency keys).Nodup :=
  List.nodup_reverse.2 keys.nodup_dedup

private theorem dedup_concat (keys : List K) (key : K) :
    (keys ++ [key]).dedup = keys.dedup.filter (· != key) ++ [key] := by
  induction keys with
  | nil => simp
  | cons k keys ih =>
    rw [List.cons_append, List.dedup_cons, List.dedup_cons, ih]
    by_cases hk : k = key
    · subst hk
      by_cases hmem : k ∈ keys <;> simp [hmem]
    · by_cases hmem : k ∈ keys <;> simp [hmem, hk]

private theorem recency_concat (keys : List K) (key : K) : recency (keys ++ [key]) = touch key (recency keys) := by
  rw [recency, dedup_concat, List.reverse_append, List.reverse_singleton, List.singleton_append, touch, recency,
    List.filter_reverse]

private theorem length_touch_of_mem {key : K} {keys : List K} (hnodup : keys.Nodup) (hmem : key ∈ keys) :
    (touch key keys).length = keys.length := by
  rw [touch, ← hnodup.erase_eq_filter, List.length_cons, List.length_erase_of_mem hmem]
  have hpos := List.length_pos_of_mem hmem
  omega

/-- The first keys after a use are made of the first keys before it. -/
private theorem take_touch {keys : List K} (hnodup : keys.Nodup) (key : K) (n : Nat) :
    (touch key (keys.take n)).take n = (touch key keys).take n := by
  cases n with
  | zero => simp
  | succ n =>
    rw [touch, touch, List.take_succ_cons, List.take_succ_cons]
    congr 1
    conv_rhs => rw [← List.take_append_drop (n + 1) keys, List.filter_append]
    have hlen : (keys.take (n + 1)).length ≤ ((keys.take (n + 1)).filter (· != key)).length + 1 := by
      rw [← (hnodup.sublist (List.take_sublist _ _)).erase_eq_filter]
      have herase := List.length_erase (a := key) (l := keys.take (n + 1))
      split at herase <;> omega
    by_cases hshort : keys.length ≤ n + 1
    · rw [List.drop_eq_nil_of_le hshort, List.filter_nil, List.append_nil]
    · rw [List.length_take_of_le (by omega)] at hlen
      rw [List.take_append_of_le_length (by omega)]

/-- A key is among the first ones when fewer than so many others have been used since its last use. -/
private theorem mem_take_recency {keys : List K} {key : K} {n : Nat} : key ∈ (recency keys).take n ↔
    ∃ before after, keys = before ++ key :: after ∧ key ∉ after ∧ after.dedup.length < n := by
  have hposition : ∀ before after, keys = before ++ key :: after → key ∉ after →
      (key ∈ (recency keys).take n ↔ after.dedup.length < n) := by
    rintro before after rfl hnot
    obtain ⟨front, hfront⟩ := List.suffix_union_right before (key :: after).dedup
    have hrecency : recency (before ++ key :: after) = after.dedup.reverse ++ key :: front.reverse := by
      rw [recency, List.dedup_append, ← hfront, List.dedup_cons_of_notMem hnot]
      simp
    have hnodup := nodup_recency (before ++ key :: after)
    rw [hrecency] at hnodup ⊢
    rw [List.mem_take_iff_idxOf_lt (by simp), List.idxOf_append_of_notMem (by simpa using hnot)]
    simp
  constructor
  · intro hmem
    have hkey : key ∈ keys := List.mem_dedup.1 (List.mem_reverse.1 (List.mem_of_mem_take hmem))
    obtain ⟨before, after, heq, hnot⟩ := exists_last hkey
    exact ⟨before, after, heq, hnot, (hposition before after heq hnot).1 hmem⟩
  · rintro ⟨before, after, heq, hnot, hlt⟩
    exact (hposition before after heq hnot).2 hlt

/-! ### Keys of a cache -/

/-- The keys that are listed, most recently used first. -/
def keys (c : LruCache K V) : List K :=
  c.items.map (·.key)

variable {c : LruCache K V} {key : K} {value : V} {capacity : Nat}

omit [DecidableEq K] in
theorem WellFormed.nodup_keys (h : c.WellFormed) : c.keys.Nodup := by
  refine List.Nodup.map_on (fun item hitem item' hitem' hkey => h.eq_of_key hitem hitem' hkey) ?_
  exact h.nodes_nodup.of_map _

omit [DecidableEq K] in
private theorem WellFormed.index_eq_none_iff (h : c.WellFormed) : c.index key = none ↔ key ∉ c.keys := by
  constructor
  · intro hnone hmem
    obtain ⟨item, hitem, rfl⟩ := List.mem_map.1 hmem
    rw [h.indexed item hitem] at hnone
    cases hnone
  · intro hnot
    cases hindex : c.index key with
    | none => rfl
    | some node =>
      obtain ⟨item, hitem, hkey, -⟩ := h.listed key node hindex
      exact absurd (List.mem_map.2 ⟨item, hitem, hkey⟩) hnot

omit [DecidableEq K] in
private theorem eraseP_node {items : List (Item K V)} (hnodup : (items.map (·.node)).Nodup) (node : Nat) :
    items.eraseP (·.node = node) = items.filter (·.node ≠ node) := by
  induction items with
  | nil => rfl
  | cons item items ih =>
    rw [List.map_cons, List.nodup_cons] at hnodup
    by_cases hnode : item.node = node
    · have hothers : ∀ other ∈ items, other.node ≠ node := fun other hother heq =>
        hnodup.1 (List.mem_map.2 ⟨other, hother, heq.trans hnode.symm⟩)
      rw [List.eraseP_cons_of_pos (by simp [hnode]), List.filter_cons_of_neg (by simp [hnode])]
      exact (List.filter_eq_self.2 fun other hother => by simp [hothers other hother]).symm
    · rw [List.eraseP_cons_of_neg (by simp [hnode]), List.filter_cons_of_pos (by simp [hnode]), ih hnodup.2]

/-- Moving the node of a key to the front touches the key. -/
private theorem WellFormed.keys_splice (h : c.WellFormed) {own : Nat} (hown : c.index key = some own) :
    (splice own c.items).map (·.key) = touch key c.keys := by
  obtain ⟨item, hitem, -, hkey, hsplice⟩ := front_splice h hown
  have hnode : ∀ other ∈ c.items, (other.node ≠ own ↔ (other.key != key) = true) := by
    intro other hother
    rw [bne_iff_ne, not_iff_not]
    constructor
    · rintro rfl
      have hsame : c.index item.key = some item.node := h.indexed item hitem
      rw [hkey, hown, Option.some.injEq] at hsame
      rw [← hkey]
      exact congrArg Item.key (List.inj_on_of_nodup_map h.nodes_nodup hother hitem hsame)
    · rintro rfl
      have hsame := h.indexed other hother
      rw [hown, Option.some.injEq] at hsame
      exact hsame.symm
  have hfilter : c.items.filter (·.node ≠ own) = c.items.filter (·.key != key) :=
    List.filter_congr fun other hother => by simp only [hnode other hother, Bool.decide_eq_true]
  rw [hsplice, eraseP_node h.nodes_nodup, hfilter, List.map_cons, hkey, touch, keys, List.filter_map]
  rfl

private theorem WellFormed.keys_lookup (h : c.WellFormed) :
    (c.lookup key).2.keys = if key ∈ c.keys then touch key c.keys else c.keys := by
  unfold LruCache.lookup
  split
  · next hnone => rw [if_neg (h.index_eq_none_iff.1 hnone)]
  · next own hown =>
    have hmem : key ∈ c.keys := by
      by_contra hnot
      rw [← h.index_eq_none_iff, hown] at hnot
      cases hnot
    rw [if_pos hmem]
    exact h.keys_splice hown

private theorem WellFormed.keys_store (h : c.WellFormed) (hbound : c.keys.length ≤ capacity) :
    (c.store capacity key value).keys = (touch key c.keys).take capacity := by
  unfold LruCache.store
  split
  · next own hown =>
    have hset : WellFormed { c with items := setValue own value c.items } := wellFormed_setValue h own
    have hkeys : LruCache.keys { c with items := setValue own value c.items } = c.keys := by
      unfold LruCache.keys setValue
      rw [List.map_map]
      exact List.map_congr_left fun item _ => (setValue_same own value item).2
    have hmem : key ∈ c.keys := by
      by_contra hnot
      rw [← h.index_eq_none_iff, hown] at hnot
      cases hnot
    have hsplice := hset.keys_splice hown
    rw [hkeys] at hsplice
    rw [List.take_of_length_le]
    · exact hsplice
    · rw [length_touch_of_mem h.nodup_keys hmem]
      exact hbound
  · next hnone =>
    have hnot := h.index_eq_none_iff.1 hnone
    have htouch : (c.insertFront key value).keys = touch key c.keys := by
      rw [touch, List.filter_eq_self.2 fun k hk => by rw [bne_iff_ne]; exact fun heq => hnot (heq ▸ hk)]
      rfl
    have hlen : (c.insertFront key value).items.length = c.keys.length + 1 := by simp [insertFront, LruCache.keys]
    split
    · next hfull =>
      have hevict : (c.insertFront key value).evict.keys = (c.insertFront key value).keys.dropLast := by
        unfold evict
        split
        · next hlast =>
          rw [List.getLast?_eq_none_iff.1 hlast] at hlen
          cases hlen
        · exact List.map_dropLast
      rw [hevict, htouch, List.dropLast_eq_take]
      congr 1
      rw [← htouch, LruCache.keys, List.length_map]
      omega
    · next hroom =>
      rw [← htouch, List.take_of_length_le]
      rw [LruCache.keys, List.length_map]
      omega

end LruCache

/-! ### The history of a cache -/

/-- A use of a cache: a value was stored under a key, or a key was found. -/
inductive LruCache.Use (K V : Type*)
  | stored (key : K) (value : V)
  | hit (key : K)
  deriving DecidableEq, Repr

inductive LruCache.Op (K V : Type*)
  | lookup (key : K)
  | store (key : K) (value : V)
  | clear
  deriving DecidableEq, Repr

/-- A cache, with its uses since it was cleared, oldest first. -/
structure LruCache.History (K V : Type*) where
  cache : LruCache K V := {}
  uses : List (LruCache.Use K V) := []

namespace LruCache

variable {K V : Type*}

def Use.key : Use K V → K
  | .stored key _ => key
  | .hit key => key

variable [DecidableEq K]

def Use.storedUnder (key : K) : Use K V → Option V
  | .stored k value => if k = key then some value else none
  | .hit _ => none

/-- The value stored last under a key. -/
def lastStored (key : K) (uses : List (Use K V)) : Option V :=
  uses.reverse.findSome? (Use.storedUnder key)

def History.exec (capacity : Nat) (h : History K V) : Op K V → History K V
  | .lookup key =>
    let r := h.cache.lookup key
    { cache := r.2, uses := if r.1.isSome then h.uses ++ [.hit key] else h.uses }
  | .store key value =>
    { cache := h.cache.store capacity key value, uses := h.uses ++ [.stored key value] }
  | .clear => { cache := h.cache.clear, uses := [] }

/-- An empty cache after these operations. -/
def after (capacity : Nat) (ops : List (Op K V)) : History K V :=
  ops.foldl (History.exec capacity) {}

/-- The cache has the keys used last, latest first, with the values stored last. -/
structure Remembers (capacity : Nat) (h : History K V) : Prop where
  wellFormed : h.cache.WellFormed
  keys_eq : h.cache.keys = (recency (h.uses.map Use.key)).take capacity
  values : ∀ item ∈ h.cache.items, lastStored item.key h.uses = some item.value

/-- Fewer than `capacity` other keys have been used since the last use of the key. -/
def RecentlyUsed (capacity : Nat) (uses : List (Use K V)) (key : K) : Prop :=
  ∃ before after, uses.map Use.key = before ++ key :: after ∧ key ∉ after ∧ after.dedup.length < capacity

section
variable {capacity : Nat} {h : History K V} {key : K} {value : V}

private theorem lastStored_concat_hit (key k : K) (uses : List (Use K V)) :
    lastStored key (uses ++ [.hit k]) = lastStored key uses := by
  unfold lastStored
  rw [List.reverse_append, List.reverse_singleton, List.singleton_append, List.findSome?_cons, Use.storedUnder]

private theorem lastStored_concat_stored (key k : K) (value : V) (uses : List (Use K V)) :
    lastStored key (uses ++ [.stored k value]) = if k = key then some value else lastStored key uses := by
  unfold lastStored
  rw [List.reverse_append, List.reverse_singleton, List.singleton_append, List.findSome?_cons, Use.storedUnder]
  by_cases hk : k = key <;> simp [hk]

omit [DecidableEq K] in
private theorem isSome_lookup_iff {c : LruCache K V} (hc : c.WellFormed) :
    (c.lookup key).1.isSome = true ↔ key ∈ c.keys := by
  constructor
  · intro hsome
    obtain ⟨value, hvalue⟩ := Option.isSome_iff_exists.1 hsome
    obtain ⟨item, hitem, hkey, -⟩ := hc.lookup_some hvalue
    exact List.mem_map.2 ⟨item, hitem, hkey⟩
  · intro hmem
    cases hindex : c.index key with
    | none => exact absurd hmem (hc.index_eq_none_iff.1 hindex)
    | some own =>
      obtain ⟨item, -, hfind, -, -⟩ := front_splice hc hindex
      simp [LruCache.lookup, hindex, hfind]

private theorem remembers_init : Remembers capacity ({} : History K V) :=
  ⟨wellFormed_empty, by simp [keys, recency], fun _ hitem => absurd hitem List.not_mem_nil⟩

theorem Remembers.bounded (hr : Remembers capacity h) : h.cache.keys.length ≤ capacity := by
  rw [hr.keys_eq, List.length_take]
  exact Nat.min_le_left _ _

theorem Remembers.lookup (hr : Remembers capacity h) (key : K) :
    Remembers capacity (h.exec capacity (.lookup key)) := by
  refine ⟨hr.wellFormed.lookup key, ?_, fun item hitem => ?_⟩
  · simp only [History.exec]
    rw [hr.wellFormed.keys_lookup]
    by_cases hmem : key ∈ h.cache.keys
    · rw [if_pos hmem, if_pos ((isSome_lookup_iff hr.wellFormed).2 hmem), List.map_append, List.map_singleton,
        recency_concat, Use.key, ← take_touch (nodup_recency _), ← hr.keys_eq, List.take_of_length_le]
      rw [length_touch_of_mem hr.wellFormed.nodup_keys hmem]
      exact hr.bounded
    · rw [if_neg hmem, if_neg fun hsome => hmem ((isSome_lookup_iff hr.wellFormed).1 hsome)]
      exact hr.keys_eq
  · have hold := hr.values item ((mem_lookup h.cache key item).1 hitem)
    simp only [History.exec]
    split
    · rw [lastStored_concat_hit]
      exact hold
    · exact hold

theorem Remembers.store (hr : Remembers capacity h) (key : K) (value : V) :
    Remembers capacity (h.exec capacity (.store key value)) := by
  refine ⟨hr.wellFormed.store, ?_, fun item hitem => ?_⟩
  · simp only [History.exec]
    rw [hr.wellFormed.keys_store hr.bounded, List.map_append, List.map_singleton, recency_concat, Use.key,
      ← take_touch (nodup_recency _), ← hr.keys_eq]
  · simp only [History.exec]
    rw [lastStored_concat_stored]
    rcases hr.wellFormed.mem_store hitem with ⟨hkey, hvalue⟩ | ⟨hne, hold⟩
    · rw [if_pos hkey.symm, hvalue]
    · rw [if_neg (Ne.symm hne)]
      exact hr.values item hold

/-- **The step lemma**: a cache remembers through any operation. -/
theorem Remembers.exec (hr : Remembers capacity h) (op : Op K V) : Remembers capacity (h.exec capacity op) := by
  cases op with
  | lookup key => exact hr.lookup key
  | store key value => exact hr.store key value
  | clear => exact ⟨wellFormed_clear _, by simp [History.exec, keys, LruCache.clear, recency],
      fun _ hitem => absurd hitem List.not_mem_nil⟩

theorem remembers_after (capacity : Nat) (ops : List (Op K V)) : Remembers capacity (after capacity ops) := by
  induction ops using List.reverseRecOn with
  | nil => exact remembers_init
  | append_singleton ops op ih =>
    unfold after
    rw [List.foldl_concat]
    exact ih.exec op

private theorem Remembers.mem_keys_iff (hr : Remembers capacity h) :
    key ∈ h.cache.keys ↔ RecentlyUsed capacity h.uses key := by
  rw [hr.keys_eq, mem_take_recency]
  rfl

/-- **What a lookup finds**: the value stored last, as long as the key has been used recently, and else nothing. -/
theorem Remembers.lookup_eq (hr : Remembers capacity h) (key : K) :
    (RecentlyUsed capacity h.uses key →
        (h.cache.lookup key).1 = lastStored key h.uses ∧ (lastStored key h.uses).isSome = true) ∧
      (¬ RecentlyUsed capacity h.uses key → (h.cache.lookup key).1 = none) := by
  rw [← hr.mem_keys_iff, ← isSome_lookup_iff hr.wellFormed]
  constructor
  · intro hsome
    obtain ⟨value, hvalue⟩ := Option.isSome_iff_exists.1 hsome
    obtain ⟨item, hitem, hkey, hitemValue⟩ := hr.wellFormed.lookup_some hvalue
    rw [← hkey, hr.values item hitem, hkey, hvalue, hitemValue]
    exact ⟨rfl, rfl⟩
  · exact fun hnone => Option.not_isSome_iff_eq_none.1 hnone

end

end LruCache
