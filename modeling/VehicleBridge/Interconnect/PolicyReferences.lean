import VehicleBridge.Interconnect.Setup
import VehicleBridge.Lib.Threads
import VehicleBridge.Lib.Transition

/-!
# References into the policy cache

`ResolvePolicy` returns a reference to the policy in a node of the cache, and its caller goes on reading it when the
mutex of the cache is free again.  Publishers, inbound loops and reloads take turns here, a turn being a section under
the mutex or what lies between two of them.  A turn takes nodes off the list in two cases: a reload clears the cache,
and a store of a new key into a full cache evicts the node used last of all (`PolicyPhase.dropped`).  The nodes that
callers still read stay listed exactly as long as no turn drops one of them (`reads_listed`).
-/

namespace VehicleBridge

open ByteText Threads Transition

/-- What a caller of `ResolvePolicy` does with the policy: a publisher reads it over and over, as often as its sends
and their retries need, and an inbound loop once, for the expiry check. -/
inductive PolicyUse
  | publish (reads : Nat)
  | expiryCheck
  deriving DecidableEq, Repr

def PolicyUse.reads : PolicyUse → Nat
  | .publish reads => reads
  | .expiryCheck => 1

/-- The policy table in force and the cache. -/
structure PolicyShared where
  table : BridgePolicyTable
  cache : PolicyCache

/-- Where a thread is: between calls; after `LookupPolicyCache` has found nothing; before `StorePolicyCache`; with a
reference to a node that it will read so many times more; before the clear of a reload, and after it. -/
inductive PolicyPhase
  | idle
  | missed (use : PolicyUse) (envelope : MessageEnvelope)
  | resolved (use : PolicyUse) (envelope : MessageEnvelope) (entry : PolicyCacheEntry)
  | holding (node reads : Nat)
  | rebuilding (previous : BridgePolicyTable)
  | rebuilt (previous : BridgePolicyTable)

/-- What a thread does next: begin a call, go on with it, or give up a reload. -/
inductive PolicyTurn
  | resolve (use : PolicyUse) (envelope : MessageEnvelope)
  | reload (config : BridgeConfig)
  | proceed
  | rollBack

def PolicyPhase.step (phase : PolicyPhase) (turn : PolicyTurn) (sh : PolicyShared) :
    Option (PolicyPhase × PolicyShared) :=
  match phase, turn with
  | .idle, .resolve use envelope =>
    match sh.cache.lookup (policyCacheKey envelope) with
    | (some _, cache) => cache.front.map fun node => (.holding node use.reads, { sh with cache })
    | (none, cache) => some (.missed use envelope, { sh with cache })
  | .missed use envelope, .proceed =>
    some (.resolved use envelope (resolvePolicyInternal sh.table envelope), sh)
  | .resolved use envelope entry, .proceed =>
    let cache := sh.cache.store kPolicyCacheMaxEntries (policyCacheKey envelope) entry
    cache.front.map fun node => (.holding node use.reads, { sh with cache })
  | .holding node (reads + 1), .proceed => some (.holding node reads, sh)
  | .holding _ 0, .proceed => some (.idle, sh)
  | .idle, .reload config => some (.rebuilding sh.table, { sh with table := (effectiveConfig config).policyTable })
  | .rebuilding previous, .proceed => some (.rebuilt previous, { sh with cache := sh.cache.clear })
  | .rebuilt _, .proceed => some (.idle, sh)
  -- a rollback puts the configuration back, and leaves the cache as it is
  | .rebuilt previous, .rollBack => some (.idle, { sh with table := previous })
  | _, _ => none

/-- The node that the thread will read again. -/
def PolicyPhase.pinned : PolicyPhase → Option Nat
  | .holding node (_ + 1) => some node
  | _ => none

/-- The nodes that the next turn of the thread takes off the list. -/
def PolicyPhase.dropped (sh : PolicyShared) : PolicyPhase → List Nat
  | .resolved _ envelope _ => (sh.cache.evicted kPolicyCacheMaxEntries (policyCacheKey envelope)).toList
  | .rebuilding _ => sh.cache.nodes
  | _ => []

abbrev PolicySystem := System PolicyShared PolicyPhase

/-- A turn of one of the threads. -/
def PolicySystem.exec (s : PolicySystem) (o : Nat × PolicyTurn) : Option PolicySystem :=
  s.turn PolicyPhase.step o.1 o.2

/-- Any number of threads on a bridge that has just been started. -/
def PolicySystem.start (table : BridgePolicyTable) (threads : Nat) : PolicySystem :=
  { shared := { table, cache := {} }, locals := List.replicate threads .idle }

/-- The nodes that some thread will read again. -/
def PolicySystem.pinned (s : PolicySystem) : List Nat :=
  s.locals.filterMap PolicyPhase.pinned

/-- The next turn of the thread drops no node that a thread will read again. -/
def PolicySystem.Spares (s : PolicySystem) (i : Nat) : Prop :=
  ∀ node ∈ s.locals[i]?.elim [] (PolicyPhase.dropped s.shared), node ∉ s.pinned

instance (s : PolicySystem) (i : Nat) : Decidable (s.Spares i) :=
  inferInstanceAs (Decidable (∀ node ∈ _, _))

/-- A turn of a thread that drops no node in use. -/
def SparingStep (s : PolicySystem) (o : Nat × PolicyTurn) (s' : PolicySystem) : Prop :=
  s.Spares o.1 ∧ s.exec o = some s'

/-- The thread is about to read its policy, in this node. -/
def PolicySystem.Reads (s : PolicySystem) (i node : Nat) : Prop :=
  ∃ reads, s.locals[i]? = some (.holding node (reads + 1))

private theorem PolicySystem.mem_pinned {s : PolicySystem} {node : Nat} : node ∈ s.pinned ↔ ∃ i, s.Reads i node := by
  unfold PolicySystem.pinned PolicySystem.Reads
  rw [List.mem_filterMap]
  constructor
  · rintro ⟨phase, hphase, hpinned⟩
    obtain ⟨i, hi⟩ := List.getElem?_of_mem hphase
    cases phase with
    | holding own reads =>
      cases reads with
      | zero => cases hpinned
      | succ reads =>
        cases hpinned
        exact ⟨i, reads, hi⟩
    | _ => cases hpinned
  · rintro ⟨i, reads, hi⟩
    exact ⟨_, List.mem_of_getElem? hi, rfl⟩

/-! ### One turn -/

/-- What a turn does to the cache: it drops the nodes that `dropped` names and no others, and what the thread will
read after it is listed or was read before. -/
structure TurnSpec (phase phase' : PolicyPhase) (sh sh' : PolicyShared) : Prop where
  wellFormed : sh'.cache.WellFormed
  listed : ∀ node ∈ sh.cache.nodes, node ∈ sh'.cache.nodes ↔ node ∉ phase.dropped sh
  pinned : ∀ node, phase'.pinned = some node → node ∈ sh'.cache.nodes ∨ phase.pinned = some node

private theorem TurnSpec.of_cache_eq {phase phase' : PolicyPhase} {sh sh' : PolicyShared} (hwf : sh.cache.WellFormed)
    (hcache : sh'.cache = sh.cache) (hdropped : phase.dropped sh = [])
    (hpinned : phase'.pinned = none ∨ phase'.pinned = phase.pinned) : TurnSpec phase phase' sh sh' where
  wellFormed := hcache ▸ hwf
  listed node hnode := by
    rw [hcache, hdropped]
    exact iff_of_true hnode List.not_mem_nil
  pinned node hnode := by
    rcases hpinned with hnone | hsame
    · rw [hnone] at hnode
      cases hnode
    · exact .inr (hsame ▸ hnode)

private theorem pinned_holding (node reads : Nat) : (PolicyPhase.holding node reads).pinned ∈ [none, some node] := by
  cases reads <;> simp [PolicyPhase.pinned]

private theorem PolicyPhase.step_spec {phase phase' : PolicyPhase} {turn : PolicyTurn} {sh sh' : PolicyShared}
    (hwf : sh.cache.WellFormed) (h : phase.step turn sh = some (phase', sh')) : TurnSpec phase phase' sh sh' := by
  have hfront {cache : PolicyCache} {node reads : Nat} (hnode : cache.front = some node) (other : Nat)
      (hother : (PolicyPhase.holding node reads).pinned = some other) : other ∈ cache.nodes := by
    have hmem := pinned_holding node reads
    rw [hother] at hmem
    have heq : other = node := by simpa using hmem
    exact heq ▸ LruCache.mem_nodes_of_front hnode
  cases phase with
  | idle =>
    cases turn with
    | resolve use e =>
      have hlookup := hwf.lookup (policyCacheKey e)
      have hmem := sh.cache.mem_nodes_lookup (policyCacheKey e)
      simp only [PolicyPhase.step] at h
      split at h
      · next cached cache heq =>
        obtain ⟨node, hnode, heq'⟩ := Option.map_eq_some_iff.1 h
        cases heq'
        rw [heq] at hlookup hmem
        exact ⟨hlookup, fun other hother => iff_of_true ((hmem other).2 hother) List.not_mem_nil,
          fun other hother => .inl (hfront hnode other hother)⟩
      · next cache heq =>
        cases h
        rw [heq] at hlookup hmem
        exact ⟨hlookup, fun other hother => iff_of_true ((hmem other).2 hother) List.not_mem_nil, nofun⟩
    | reload config =>
      cases h
      exact .of_cache_eq hwf rfl rfl (.inl rfl)
    | proceed | rollBack => cases h
  | missed use e =>
    cases turn with
    | proceed =>
      cases h
      exact .of_cache_eq hwf rfl rfl (.inl rfl)
    | resolve | reload | rollBack => cases h
  | resolved use e entry =>
    cases turn with
    | proceed =>
      obtain ⟨node, hnode, heq⟩ := Option.map_eq_some_iff.1 h
      cases heq
      refine ⟨hwf.store, fun other hother => ?_, fun other hother => .inl (hfront hnode other hother)⟩
      rw [hwf.mem_nodes_store hother, PolicyPhase.dropped, Option.mem_toList]
    | resolve | reload | rollBack => cases h
  | holding node reads =>
    cases turn with
    | proceed =>
      cases reads with
      | zero =>
        cases h
        exact .of_cache_eq hwf rfl rfl (.inl rfl)
      | succ reads =>
        cases h
        refine .of_cache_eq hwf rfl rfl ?_
        cases reads with
        | zero => exact .inl rfl
        | succ reads => exact .inr rfl
    | resolve | reload | rollBack => cases reads <;> cases h
  | rebuilding previous =>
    cases turn with
    | proceed =>
      cases h
      exact ⟨LruCache.wellFormed_clear _, fun other hother => iff_of_false List.not_mem_nil (not_not.2 hother), nofun⟩
    | resolve | reload | rollBack => cases h
  | rebuilt previous =>
    cases turn with
    | proceed | rollBack =>
      cases h
      exact .of_cache_eq hwf rfl rfl (.inl rfl)
    | resolve | reload => cases h

/-- On a hit, the reference is to the entry found for the key of the envelope. -/
theorem step_hit {sh : PolicyShared} {e : MessageEnvelope} {cached : PolicyCacheEntry} (hwf : sh.cache.WellFormed)
    (hhit : (sh.cache.lookup (policyCacheKey e)).1 = some cached) (use : PolicyUse) :
    ∃ item ∈ (sh.cache.lookup (policyCacheKey e)).2.items, item.key = policyCacheKey e ∧ item.value = cached ∧
      PolicyPhase.idle.step (.resolve use e) sh =
        some (.holding item.node use.reads, { sh with cache := (sh.cache.lookup (policyCacheKey e)).2 }) := by
  obtain ⟨item, rest, hitems, hkey, hvalue⟩ := hwf.front_lookup hhit
  refine ⟨item, hitems ▸ List.mem_cons_self, hkey, hvalue, ?_⟩
  have hpair : sh.cache.lookup (policyCacheKey e) = (some cached, (sh.cache.lookup (policyCacheKey e)).2) :=
    Prod.ext hhit rfl
  have hfront : (sh.cache.lookup (policyCacheKey e)).2.front = some item.node := by
    rw [LruCache.front, hitems]
    rfl
  rw [PolicyPhase.step, hpair]
  simp only [hfront, Option.map_some]

/-- On a miss, the reference is to the entry that has been stored. -/
theorem step_stored {sh : PolicyShared} (hwf : sh.cache.WellFormed) (use : PolicyUse) (e : MessageEnvelope)
    (entry : PolicyCacheEntry) :
    ∃ item ∈ (sh.cache.store kPolicyCacheMaxEntries (policyCacheKey e) entry).items,
      item.key = policyCacheKey e ∧ item.value = entry ∧
        (PolicyPhase.resolved use e entry).step .proceed sh =
          some (.holding item.node use.reads,
            { sh with cache := sh.cache.store kPolicyCacheMaxEntries (policyCacheKey e) entry }) := by
  have hcapacity : 0 < kPolicyCacheMaxEntries := by decide
  have hstored : ∃ item rest,
      (sh.cache.store kPolicyCacheMaxEntries (policyCacheKey e) entry).items = item :: rest ∧
        item.key = policyCacheKey e ∧ item.value = entry := hwf.front_store hcapacity
  obtain ⟨item, rest, hitems, hkey, hvalue⟩ := hstored
  refine ⟨item, hitems ▸ List.mem_cons_self, hkey, hvalue, ?_⟩
  have hfront : (sh.cache.store kPolicyCacheMaxEntries (policyCacheKey e) entry).front = some item.node := by
    rw [LruCache.front, hitems]
    rfl
  simp only [PolicyPhase.step, hfront, Option.map_some]

/-- A thread that will read a node drops none. -/
private theorem PolicyPhase.dropped_of_pinned {phase : PolicyPhase} {node : Nat} (sh : PolicyShared)
    (h : phase.pinned = some node) : phase.dropped sh = [] := by
  cases phase with
  | holding => rfl
  | _ => cases h

/-! ### All the threads -/

/-- What threads will read is listed. -/
structure References (s : PolicySystem) : Prop where
  wellFormed : s.shared.cache.WellFormed
  listed : ∀ node ∈ s.pinned, node ∈ s.shared.cache.nodes

private theorem references_start (table : BridgePolicyTable) (threads : Nat) :
    References (PolicySystem.start table threads) := by
  refine ⟨LruCache.wellFormed_empty, fun node hnode => ?_⟩
  obtain ⟨i, reads, hi⟩ := PolicySystem.mem_pinned.1 hnode
  cases List.eq_of_mem_replicate (List.mem_of_getElem? hi)

/-- A turn leaves everything listed that threads will read, exactly when it drops nothing of that. -/
theorem References.exec_iff {s s' : PolicySystem} {o : Nat × PolicyTurn} (h : References s)
    (hturn : s.exec o = some s') :
    (∀ node ∈ s'.pinned, node ∈ s'.shared.cache.nodes) ↔ s.Spares o.1 := by
  obtain ⟨phase, phase', shared, hphase, hstep, rfl⟩ := System.turn_eq_some hturn
  have hspec := PolicyPhase.step_spec h.wellFormed hstep
  have hmem (node : Nat) := mem_filterMap_set PolicyPhase.pinned hphase phase' node
  unfold PolicySystem.Spares
  rw [hphase]
  constructor
  · intro hlisted node hdropped hpinned
    have hgone : node ∉ shared.cache.nodes := fun hin =>
      (hspec.listed node (h.listed node hpinned)).1 hin hdropped
    rcases (hmem node).2 (.inr hpinned) with hown | hstill
    · rw [Option.elim_some, PolicyPhase.dropped_of_pinned _ hown] at hdropped
      cases hdropped
    · exact hgone (hlisted node hstill)
  · intro hspares node hpinned
    have hkept (hbefore : node ∈ s.pinned) : node ∈ shared.cache.nodes :=
      (hspec.listed node (h.listed node hbefore)).2 fun hdropped => hspares node hdropped hbefore
    rcases (hmem node).1 (.inr hpinned) with hown | hbefore
    · rcases hspec.pinned node hown with hin | hsame
      · exact hin
      · exact hkept (List.mem_filterMap.2 ⟨phase, List.mem_of_getElem? hphase, hsame⟩)
    · exact hkept hbefore

/-- **The step lemma**: a turn that drops no node in use. -/
theorem References.sparingStep {s s' : PolicySystem} {o : Nat × PolicyTurn} (h : References s)
    (hstep : SparingStep s o s') : References s' := by
  refine ⟨?_, (h.exec_iff hstep.2).2 hstep.1⟩
  obtain ⟨phase, phase', shared, hphase, hown, rfl⟩ := System.turn_eq_some hstep.2
  exact (PolicyPhase.step_spec h.wellFormed hown).wellFormed

/-- **A policy in use stays in the cache** in every run in which no turn drops a node that a thread will read again.
The next turn leaves it there too exactly when it drops no such node. -/
theorem reads_listed {table : BridgePolicyTable} {threads : Nat} {ops : List (Nat × PolicyTurn)} {s : PolicySystem}
    (hrun : Run SparingStep (PolicySystem.start table threads) ops s) :
    (∀ i node, s.Reads i node → node ∈ s.shared.cache.nodes) ∧
      ∀ o s', s.exec o = some s' → ((∀ i node, s'.Reads i node → node ∈ s'.shared.cache.nodes) ↔ s.Spares o.1) := by
  have h : References s := hrun.invariant (fun _ _ _ hs hstep => hs.sparingStep hstep)
    (references_start table threads)
  have hreads (s : PolicySystem) : (∀ i node, s.Reads i node → node ∈ s.shared.cache.nodes) ↔
      ∀ node ∈ s.pinned, node ∈ s.shared.cache.nodes :=
    ⟨fun hall node hnode => (PolicySystem.mem_pinned.1 hnode).elim fun i hi => hall i node hi,
      fun hall i node hi => hall node (PolicySystem.mem_pinned.2 ⟨i, hi⟩)⟩
  refine ⟨(hreads s).2 h.listed, fun o s' hturn => ?_⟩
  rw [hreads, h.exec_iff hturn]

/-- A publisher finds no policy for its message, stores one and reads it, which takes two reads; a reload has taken
over a configuration. -/
def publishTurns : List (Nat × PolicyTurn) :=
  [(0, .resolve (.publish 2) { topic := text "frames" }), (0, .proceed), (0, .proceed), (0, .proceed),
    (1, .reload {})]

theorem reads_listed_publish : ∃ s, Run SparingStep (PolicySystem.start {} 2) publishTurns s ∧ s.pinned = [0] ∧
    ∀ i node, s.Reads i node → node ∈ s.shared.cache.nodes := by
  have hexec : (publishTurns.foldlM
      (fun s o => if PolicySystem.Spares s o.1 then PolicySystem.exec s o else none)
      (PolicySystem.start {} 2)).map PolicySystem.pinned = some [0] := by decide
  obtain ⟨s, hs, heq⟩ := Option.map_eq_some_iff.1 hexec
  have hrun : Run SparingStep (PolicySystem.start {} 2) publishTurns s := Run.of_foldlM_guarded hs
  exact ⟨s, hrun, heq, (reads_listed hrun).1⟩

/-- The reload goes on and clears the cache, and the publisher has not read its policy for the last time. -/
def clearTurns : List (Nat × PolicyTurn) :=
  publishTurns ++ [(1, .proceed)]

theorem reads_not_listed : ¬ ∀ (table : BridgePolicyTable) (threads : Nat) (ops : List (Nat × PolicyTurn))
    (s : PolicySystem), Run (fun s o s' => s.exec o = some s') (PolicySystem.start table threads) ops s →
      ∀ i node, s.Reads i node → node ∈ s.shared.cache.nodes := by
  intro h
  have hexec : (clearTurns.foldlM PolicySystem.exec (PolicySystem.start {} 2)).map
      (fun s : PolicySystem => (s.pinned, s.shared.cache.nodes)) = some ([0], []) := by decide
  obtain ⟨s, hs, heq⟩ := Option.map_eq_some_iff.1 hexec
  simp only [Prod.mk.injEq] at heq
  obtain ⟨i, hreads⟩ := PolicySystem.mem_pinned.1 (heq.1 ▸ List.mem_singleton_self 0)
  have hlisted := h _ _ _ s (Run.of_foldlM hs) i 0 hreads
  rw [heq.2] at hlisted
  cases hlisted

end VehicleBridge
