import Mathlib.Data.List.Nodup
import Mathlib.Tactic.Common

/-!
# A least-recently-used cache

A list of nodes, most recently used first, with an index from keys to nodes: the shape of a `std::list` with a hash
map of iterators.  Nodes have an identity that survives moves.  `LruCache.WellFormed` says that the index and the
list agree; the operations preserve it.  What a user of the cache needs is that a relation between keys and values
that holds of everything stored holds of everything found: `lookup_some` and `mem_store`.
-/

/-- A node of the list of a cache. -/
structure LruCache.Item (K V : Type*) where
  node : Nat
  key : K
  value : V
  deriving DecidableEq, Repr

/-- The nodes, most recently used first, the index and the next fresh identity. -/
structure LruCache (K V : Type*) where
  items : List (LruCache.Item K V) := []
  index : K → Option Nat := fun _ => none
  nextNode : Nat := 0

namespace LruCache

variable {K V : Type*}

/-- Move the given node to the front of the list. -/
def splice (node : Nat) (items : List (Item K V)) : List (Item K V) :=
  match items.find? (·.node = node) with
  | none => items
  | some item => item :: items.eraseP (·.node = node)

/-- The value of a key, and the cache with its node moved to the front. -/
def lookup (key : K) (c : LruCache K V) : Option V × LruCache K V :=
  match c.index key with
  | none => (none, c)
  | some node =>
    ((c.items.find? (·.node = node)).map (·.value), { c with items := splice node c.items })

/-- Write the value of a node. -/
def setValue (node : Nat) (value : V) (items : List (Item K V)) : List (Item K V) :=
  items.map fun item => if item.node = node then { item with value } else item

/-- The nodes that are listed. -/
def nodes (c : LruCache K V) : List Nat :=
  c.items.map (·.node)

/-- The node used last. -/
def front (c : LruCache K V) : Option Nat :=
  c.items.head?.map (·.node)

/-- Forget everything; identities are not used again. -/
def clear (c : LruCache K V) : LruCache K V :=
  { c with items := [], index := fun _ => none }

section
variable [DecidableEq K]

/-- Drop the least recently used node and its index entry. -/
def evict (c : LruCache K V) : LruCache K V :=
  match c.items.getLast? with
  | none => c
  | some last =>
    { c with items := c.items.dropLast, index := fun k => if k = last.key then none else c.index k }

/-- A new node at the front. -/
def insertFront (key : K) (value : V) (c : LruCache K V) : LruCache K V :=
  { items := ⟨c.nextNode, key, value⟩ :: c.items
    index := fun k => if k = key then some c.nextNode else c.index k
    nextNode := c.nextNode + 1 }

/-- Write the value of a key: in its node, moved to the front, or in a new node.  When a new node exceeds the
capacity the last one goes. -/
def store (capacity : Nat) (key : K) (value : V) (c : LruCache K V) : LruCache K V :=
  match c.index key with
  | some node => { c with items := splice node (setValue node value c.items) }
  | none =>
    if (c.insertFront key value).items.length > capacity then (c.insertFront key value).evict
    else c.insertFront key value

/-- The listed node that a store of the key takes off the list. -/
def evicted (capacity : Nat) (key : K) (c : LruCache K V) : Option Nat :=
  if c.index key = none ∧ capacity ≤ c.items.length then c.items.getLast?.map (·.node) else none

end

/-- The index and the list say the same, and the fresh identity is fresh. -/
structure WellFormed (c : LruCache K V) : Prop where
  nodes_nodup : (c.items.map (·.node)).Nodup
  node_lt : ∀ item ∈ c.items, item.node < c.nextNode
  indexed : ∀ item ∈ c.items, c.index item.key = some item.node
  listed : ∀ key node, c.index key = some node → ∃ item ∈ c.items, item.key = key ∧ item.node = node

variable {c : LruCache K V} {key : K} {value : V}

theorem wellFormed_clear (c : LruCache K V) : c.clear.WellFormed where
  nodes_nodup := List.nodup_nil
  node_lt _ h := absurd h List.not_mem_nil
  indexed _ h := absurd h List.not_mem_nil
  listed _ _ h := by cases h

theorem wellFormed_empty : WellFormed ({} : LruCache K V) :=
  wellFormed_clear {}

private theorem find_perm {items : List (Item K V)} {node : Nat} {item : Item K V}
    (h : items.find? (·.node = node) = some item) : (item :: items.eraseP (·.node = node)).Perm items := by
  induction items with
  | nil => cases h
  | cons x xs ih =>
    by_cases hx : x.node = node
    · simp only [List.find?_cons, hx, decide_true, Option.some.injEq] at h
      rw [List.eraseP_cons_of_pos (by simp [hx]), h]
    · simp only [List.find?_cons, hx, decide_false] at h
      rw [List.eraseP_cons_of_neg (by simp [hx])]
      exact (List.Perm.swap x item _).trans ((ih h).cons x)

private theorem splice_perm (node : Nat) (items : List (Item K V)) : (splice node items).Perm items := by
  unfold splice
  split
  · exact .refl _
  · next item h => exact find_perm h

/-- Well-formedness does not depend on the order of the list. -/
private theorem WellFormed.of_perm (h : c.WellFormed) {items : List (Item K V)} (hp : items.Perm c.items) :
    WellFormed { c with items } where
  nodes_nodup := (hp.map (·.node)).nodup_iff.2 h.nodes_nodup
  node_lt item hitem := h.node_lt item (hp.mem_iff.1 hitem)
  indexed item hitem := h.indexed item (hp.mem_iff.1 hitem)
  listed key node hkey := by
    obtain ⟨item, hitem, hk⟩ := h.listed key node hkey
    exact ⟨item, hp.mem_iff.2 hitem, hk⟩

theorem WellFormed.eq_of_key (h : c.WellFormed) {item item' : Item K V} (hitem : item ∈ c.items)
    (hitem' : item' ∈ c.items) (hkey : item.key = item'.key) : item = item' := by
  have hnode : item.node = item'.node := by
    have h1 := h.indexed item hitem
    rw [hkey, h.indexed item' hitem'] at h1
    exact (Option.some.inj h1).symm
  exact List.inj_on_of_nodup_map h.nodes_nodup hitem hitem' hnode

theorem WellFormed.lookup (h : c.WellFormed) (key : K) : (c.lookup key).2.WellFormed := by
  unfold LruCache.lookup
  split
  · exact h
  · exact h.of_perm (splice_perm _ _)

theorem mem_lookup (c : LruCache K V) (key : K) (item : Item K V) : item ∈ (c.lookup key).2.items ↔ item ∈ c.items := by
  unfold LruCache.lookup
  split
  · exact Iff.rfl
  · exact (splice_perm _ _).mem_iff

theorem mem_nodes_of_front {node : Nat} (h : c.front = some node) : node ∈ c.nodes := by
  obtain ⟨item, hitem, rfl⟩ := Option.map_eq_some_iff.1 h
  exact List.mem_map_of_mem (List.mem_of_head? hitem)

theorem mem_nodes_lookup (c : LruCache K V) (key : K) (node : Nat) :
    node ∈ (c.lookup key).2.nodes ↔ node ∈ c.nodes := by
  simp only [nodes, List.mem_map, mem_lookup]

/-- The node of a key is at the front once it has been moved there. -/
theorem front_splice (h : c.WellFormed) {own : Nat} (hown : c.index key = some own) :
    ∃ item, item ∈ c.items ∧ c.items.find? (·.node = own) = some item ∧ item.key = key ∧
      splice own c.items = item :: c.items.eraseP (·.node = own) := by
  obtain ⟨listed, hlisted, hkey, hnode⟩ := h.listed key own hown
  cases hfind : c.items.find? (·.node = own) with
  | none => exact absurd (List.find?_eq_none.1 hfind listed hlisted) (by simp [hnode])
  | some item =>
    have hmem := List.mem_of_find?_eq_some hfind
    have hitem : item.node = own := by simpa using List.find?_some hfind
    have heq := List.inj_on_of_nodup_map h.nodes_nodup hmem hlisted (hitem.trans hnode.symm)
    exact ⟨item, hmem, rfl, heq ▸ hkey, by rw [splice, hfind]⟩

/-- What a lookup finds is at the front afterwards. -/
theorem WellFormed.front_lookup (h : c.WellFormed) (hv : (c.lookup key).1 = some value) :
    ∃ item rest, (c.lookup key).2.items = item :: rest ∧ item.key = key ∧ item.value = value := by
  unfold LruCache.lookup at hv ⊢
  split at hv
  · cases hv
  · next own hown =>
    obtain ⟨item, -, hfind, hkey, hsplice⟩ := front_splice h hown
    rw [hfind, Option.map_some, Option.some.injEq] at hv
    exact ⟨item, _, hsplice, hkey, hv⟩

/-- What a lookup finds is listed under the key. -/
theorem WellFormed.lookup_some (h : c.WellFormed) (hv : (c.lookup key).1 = some value) :
    ∃ item ∈ c.items, item.key = key ∧ item.value = value := by
  obtain ⟨item, rest, hitems, hkey, hvalue⟩ := h.front_lookup hv
  exact ⟨item, (mem_lookup c key item).1 (hitems ▸ List.mem_cons_self), hkey, hvalue⟩

theorem setValue_same (node : Nat) (value : V) (item : Item K V) :
    (if item.node = node then { item with value } else item).node = item.node ∧
      (if item.node = node then { item with value } else item).key = item.key := by
  split <;> exact ⟨rfl, rfl⟩

/-- Writing a value changes neither the nodes nor the keys. -/
theorem wellFormed_setValue (h : c.WellFormed) (node : Nat) :
    WellFormed { c with items := setValue node value c.items } := by
  refine ⟨?_, ?_, ?_, ?_⟩
  · have hcomp : ((fun item : Item K V => item.node) ∘
        fun item => if item.node = node then { item with value } else item) = fun item => item.node :=
      funext fun item => (setValue_same node value item).1
    simp only [setValue, List.map_map, hcomp]
    exact h.nodes_nodup
  · intro item hitem
    obtain ⟨old, hold, rfl⟩ := List.mem_map.1 hitem
    rw [(setValue_same node value old).1]
    exact h.node_lt old hold
  · intro item hitem
    obtain ⟨old, hold, rfl⟩ := List.mem_map.1 hitem
    rw [(setValue_same node value old).1, (setValue_same node value old).2]
    exact h.indexed old hold
  · intro k n hk
    obtain ⟨old, hold, hi⟩ := h.listed k n hk
    exact ⟨_, List.mem_map_of_mem hold, (setValue_same node value old).2.trans hi.1,
      (setValue_same node value old).1.trans hi.2⟩

section
variable [DecidableEq K] {capacity : Nat}

private theorem mem_evict {item : Item K V} (h : item ∈ c.evict.items) : item ∈ c.items := by
  unfold evict at h
  split at h
  · exact h
  · exact List.dropLast_subset _ h

private theorem wellFormed_evict (h : c.WellFormed) : c.evict.WellFormed := by
  unfold evict
  split
  · exact h
  · next last hlast =>
    have hsplit : c.items.dropLast ++ [last] = c.items := List.dropLast_append_getLast? last hlast
    have hlastMem : last ∈ c.items := by rw [← hsplit]; simp
    have hmem : ∀ item ∈ c.items.dropLast, item ∈ c.items := fun item hitem => List.dropLast_subset _ hitem
    have hnodup := h.nodes_nodup
    rw [← hsplit, List.map_append] at hnodup
    -- the last node's key is not listed before it
    have hne : ∀ item ∈ c.items.dropLast, item.key ≠ last.key := by
      intro item hitem hkey
      have heq := h.eq_of_key (hmem item hitem) hlastMem hkey
      exact List.disjoint_of_nodup_append hnodup (List.mem_map_of_mem hitem) (by simp [heq])
    refine ⟨(List.nodup_append.1 hnodup).1, fun item hitem => h.node_lt item (hmem item hitem), ?_, ?_⟩
    · intro item hitem
      exact (if_neg (hne item hitem)).trans (h.indexed item (hmem item hitem))
    · intro key node hkey
      simp only at hkey
      split at hkey
      · cases hkey
      · next hkeyNe =>
        obtain ⟨item, hitem, hk⟩ := h.listed key node hkey
        rw [← hsplit, List.mem_append, List.mem_singleton] at hitem
        rcases hitem with hitem | rfl
        · exact ⟨item, hitem, hk⟩
        · exact absurd hk.1.symm hkeyNe

private theorem wellFormed_insertFront (h : c.WellFormed) (hkey : c.index key = none) :
    (c.insertFront key value).WellFormed := by
  have hne : ∀ item ∈ c.items, item.key ≠ key := by
    rintro item hitem rfl
    rw [h.indexed item hitem] at hkey
    cases hkey
  refine ⟨?_, ?_, ?_, ?_⟩
  · simp only [insertFront, List.map_cons, List.nodup_cons]
    refine ⟨fun hmem => ?_, h.nodes_nodup⟩
    obtain ⟨item, hitem, hnode⟩ := List.mem_map.1 hmem
    have hlt := h.node_lt item hitem
    omega
  · intro item hitem
    rcases List.mem_cons.1 hitem with rfl | hitem
    · exact Nat.lt_succ_self _
    · exact Nat.lt_succ_of_lt (h.node_lt item hitem)
  · intro item hitem
    rcases List.mem_cons.1 hitem with rfl | hitem
    · exact if_pos rfl
    · exact (if_neg (hne item hitem)).trans (h.indexed item hitem)
  · intro k node hk
    simp only [insertFront] at hk
    split at hk
    · next heq => exact ⟨_, List.mem_cons_self, heq.symm, Option.some.inj hk⟩
    · obtain ⟨item, hitem, hi⟩ := h.listed k node hk
      exact ⟨item, List.mem_cons_of_mem _ hitem, hi⟩

theorem WellFormed.store (h : c.WellFormed) : (c.store capacity key value).WellFormed := by
  unfold LruCache.store
  split
  · next node hnode => exact (wellFormed_setValue h node).of_perm (splice_perm _ _)
  · next hnone =>
    split
    · exact wellFormed_evict (wellFormed_insertFront h hnone)
    · exact wellFormed_insertFront h hnone

/-- What is listed after a store is what was stored, or was listed before under another key. -/
theorem WellFormed.mem_store (h : c.WellFormed) {item : Item K V}
    (hitem : item ∈ (c.store capacity key value).items) :
    (item.key = key ∧ item.value = value) ∨ (item.key ≠ key ∧ item ∈ c.items) := by
  unfold LruCache.store at hitem
  split at hitem
  · next node hnode =>
    obtain ⟨old, hold, rfl⟩ := List.mem_map.1 ((splice_perm _ _).mem_iff.1 hitem)
    obtain ⟨own, hown, hkey, hn⟩ := h.listed key node hnode
    split
    · next heq =>
      left
      rw [← List.inj_on_of_nodup_map h.nodes_nodup hown hold (hn.trans heq.symm)]
      exact ⟨hkey, rfl⟩
    · next hne =>
      right
      refine ⟨fun hk => hne ?_, hold⟩
      rw [h.eq_of_key hold hown (hk.trans hkey.symm), hn]
  · next hnone =>
    have hinsert : item ∈ (c.insertFront key value).items := by
      split at hitem
      · exact mem_evict hitem
      · exact hitem
    rcases List.mem_cons.1 hinsert with rfl | hold
    · exact .inl ⟨rfl, rfl⟩
    · refine .inr ⟨fun hk => ?_, hold⟩
      have hidx := h.indexed item hold
      rw [hk, hnone] at hidx
      cases hidx

/-! ### Which nodes stay -/

private theorem items_evict_insertFront {before : List (Item K V)} {last : Item K V}
    (hsplit : c.items = before ++ [last]) :
    (c.insertFront key value).evict.items = ⟨c.nextNode, key, value⟩ :: before := by
  simp only [LruCache.evict, insertFront, hsplit, ← List.cons_append, List.getLast?_concat, List.dropLast_concat]

omit [DecidableEq K] in
/-- The last node is listed once. -/
private theorem WellFormed.mem_before_iff (h : c.WellFormed) {before : List (Item K V)} {last : Item K V}
    (hsplit : c.items = before ++ [last]) {node : Nat} (hnode : node ∈ c.nodes) :
    node ∈ before.map (·.node) ↔ last.node ≠ node := by
  have hnodup := h.nodes_nodup
  rw [hsplit, List.map_append, List.nodup_append] at hnodup
  unfold nodes at hnode
  rw [hsplit, List.map_append, List.mem_append] at hnode
  rcases hnode with hbefore | hlast
  · exact iff_of_true hbefore fun heq => hnodup.2.2 node hbefore last.node (by simp) heq.symm
  · have heq : node = last.node := by simpa using hlast
    exact iff_of_false (fun hbefore => hnodup.2.2 node hbefore last.node (by simp) heq) fun hne => hne heq.symm

/-- A store keeps the listed nodes, except the one it evicts. -/
theorem WellFormed.mem_nodes_store (h : c.WellFormed) {node : Nat} (hnode : node ∈ c.nodes) :
    node ∈ (c.store capacity key value).nodes ↔ c.evicted capacity key ≠ some node := by
  obtain ⟨item, hitem, hitemNode⟩ := List.mem_map.1 hnode
  unfold LruCache.store evicted
  split
  · next own hown =>
    have hkept : node ∈ (splice own (setValue own value c.items)).map (·.node) := by
      have hsame : (setValue own value c.items).map (·.node) = c.items.map (·.node) := by
        rw [setValue, List.map_map]
        exact List.map_congr_left fun item _ => (setValue_same own value item).1
      rw [((splice_perm own _).map (·.node)).mem_iff, hsame]
      exact hnode
    exact iff_of_true hkept (by simp [hown])
  · next hnone =>
    simp only [hnone, true_and, insertFront, List.length_cons, gt_iff_lt, Nat.lt_succ_iff]
    split
    · obtain ⟨before, last, hsplit⟩ :=
        (List.eq_nil_or_concat' c.items).resolve_left (List.ne_nil_of_mem hitem)
      have hold : node ≠ c.nextNode := by
        have hlt := h.node_lt item hitem
        omega
      have hevicted : (c.insertFront key value).evict.items = ⟨c.nextNode, key, value⟩ :: before :=
        items_evict_insertFront hsplit
      rw [insertFront] at hevicted
      rw [nodes, hevicted, hsplit, List.getLast?_concat, Option.map_some, Ne, Option.some.injEq, List.map_cons,
        List.mem_cons, or_iff_right hold]
      exact h.mem_before_iff hsplit hnode
    · exact iff_of_true (List.mem_cons_of_mem _ hnode) (by simp)

/-- What is stored is at the front afterwards. -/
theorem WellFormed.front_store (h : c.WellFormed) (hcapacity : 0 < capacity) :
    ∃ item rest, (c.store capacity key value).items = item :: rest ∧ item.key = key ∧ item.value = value := by
  unfold LruCache.store
  split
  · next own hown =>
    have hset : WellFormed { c with items := setValue own value c.items } := wellFormed_setValue h own
    obtain ⟨item, hmem, hfind, hkey, hsplice⟩ := front_splice hset hown
    obtain ⟨old, -, rfl⟩ := List.mem_map.1 hmem
    have hnode : old.node = own := by
      have hfound := List.find?_some hfind
      rw [decide_eq_true_eq, (setValue_same own value old).1] at hfound
      exact hfound
    exact ⟨_, _, hsplice, hkey, by rw [if_pos hnode]⟩
  · next hnone =>
    split
    · next hfull =>
      have hne : c.items ≠ [] := fun hnil => by
        simp only [insertFront, hnil, List.length_cons, List.length_nil] at hfull
        omega
      obtain ⟨before, last, hsplit⟩ := (List.eq_nil_or_concat' c.items).resolve_left hne
      exact ⟨⟨c.nextNode, key, value⟩, before, items_evict_insertFront hsplit, rfl, rfl⟩
    · exact ⟨_, _, rfl, rfl, rfl⟩

end

end LruCache
