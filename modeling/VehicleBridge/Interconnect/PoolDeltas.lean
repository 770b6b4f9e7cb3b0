import VehicleBridge.Core.ThreadPool
import VehicleBridge.Interconnect.Lifecycle
import VehicleBridge.Interconnect.SystemMetricsAggregator
import VehicleBridge.Lib.Transition

/-!
# The deltas of the thread pool

`ThreadPool::Start` sets the counters of the pool to 0, and the aggregator keeps the values of its last export all the
same.  Here a bridge is started and stopped with its worker pool, whose threads take their steps in between, and each
export is compared with the tasks executed, rejected and thrown since the export before it.

Between two exports a counter either goes up by its events, or it has been set back and counts no more than these
(`Based.since`).  So a delta is right unless the counter has fallen since the last export, and then it wraps around; it
could be right by accident only after almost 2^64 events (`pool_deltas_bounded_iff`).
-/

namespace VehicleBridge

open ByteText Transition

/-- `GetMetrics`. -/
def ThreadPool.getMetrics (pool : ThreadPool) : ThreadPoolMetrics :=
  { queueSize := .ofNat pool.tasks.length
    queueCapacity := .ofNat pool.queueCapacity
    submittedCount := .ofNat pool.submittedCount
    executedCount := .ofNat pool.executedCount
    rejectedCount := .ofNat pool.rejectedCount
    taskExceptionCount := .ofNat pool.taskExceptionCount
    workerCount := .ofNat pool.workers.length
    running := pool.running }

/-! ### A bridge with its worker pool -/

structure PooledBridge where
  bridge : BridgeState := {}
  pool : PoolThreads := {}
  aggregator : SystemMetricsAggregator := {}

/-- The calls on a bridge, and the steps of the threads in its worker pool.  `Start` ends with the start of the pool:
the inbound loops that it enqueues behind that are steps of the pool, and a call of `Stop` for a refused one is a step
of its own.  `Stop` ends where it has told the pool to stop.  `metrics` is what a refresh reads of the bridge
itself. -/
inductive PooledOp
  | start (env : StartEnv) (setPriority : Nat → Int32 → Bool) (config : BridgeConfig)
  | pool (op : PoolOp)
  | stop
  | refresh (metrics : BridgeMetrics)
  | exportDelta (metrics : BridgeMetrics) (nowMs : UInt64)

namespace PooledBridge

/-- `RefreshAggregatedMetrics(true)`. -/
def refreshAggregatedMetrics (metrics : BridgeMetrics) (s : PooledBridge) : PooledBridge :=
  { s with
    aggregator := (s.aggregator.updateBridgeMetrics metrics).updateThreadPoolMetrics s.pool.toThreadPool.getMetrics }

def exportMetricsDelta (metrics : BridgeMetrics) (nowMs : UInt64) (s : PooledBridge) : MetricsDelta × PooledBridge :=
  let refreshed := s.refreshAggregatedMetrics metrics
  let (delta, aggregator) := refreshed.aggregator.exportDeltaSinceLastCall nowMs
  (delta, { refreshed with aggregator })

section
variable (hashString : Bytes → UInt64)

/-- `Start` gets as far as `worker_pool_.Start`. -/
def reachesWorkers (env : StartEnv) (config : BridgeConfig) (s : BridgeState) : Bool :=
  !s.running && !refusedByConfigCanary env.nowMs (prepareStart hashString config s).config &&
    decide (env.createVehicleToRobot = .ok) && decide (env.createRobotToVehicle = .ok)

def start (env : StartEnv) (setPriority : Nat → Int32 → Bool) (config : BridgeConfig) (s : PooledBridge) :
    PooledBridge :=
  if reachesWorkers hashString env config s.bridge then
    let (ec, pool) :=
      s.pool.toThreadPool.start setPriority (prepareStart hashString config s.bridge).config.threadPool
    let env := { env with startWorkers := ec, enqueueVehicleLoop := .ok, enqueueRobotLoop := .ok }
    { s with
      bridge := (VehicleBridge.start hashString env config s.bridge).2
      pool := { s.pool with toThreadPool := pool, stop := if ec = .ok then .notCalled else s.pool.stop } }
  else
    { s with bridge := (VehicleBridge.start hashString env config s.bridge).2 }

/-- The next state, where the step can be taken: `Start` and `Stop` are called one after the other. -/
def exec (s : PooledBridge) : PooledOp → Option PooledBridge
  | .start env setPriority config =>
    if s.pool.stop = .notCalled ∨ s.pool.stop = .returned then some (s.start hashString env setPriority config)
    else none
  | .pool op => if op = .stop then none else (s.pool.exec op).map fun pool => { s with pool }
  | .stop =>
    if s.bridge.running then
      (s.pool.exec .stop).map fun pool => { s with bridge := VehicleBridge.stop s.bridge, pool }
    else some s
  | .refresh metrics => some (s.refreshAggregatedMetrics metrics)
  | .exportDelta metrics nowMs => some (s.exportMetricsDelta metrics nowMs).2

end

end PooledBridge

/-! ### Events of the pool -/

/-- What happens to tasks.  A task is executed once `ExecuteTask` is behind it. -/
inductive PoolEvent
  | executed
  | rejected
  | threw
  deriving DecidableEq, Repr

namespace PoolEvent

def count (pool : ThreadPool) : PoolEvent → Nat
  | .executed => pool.executedCount
  | .rejected => pool.rejectedCount
  | .threw => pool.taskExceptionCount

def metric (metrics : ThreadPoolMetrics) : PoolEvent → UInt64
  | .executed => metrics.executedCount
  | .rejected => metrics.rejectedCount
  | .threw => metrics.taskExceptionCount

def delta (delta : MetricsDelta) : PoolEvent → UInt64
  | .executed => delta.threadPoolExecutedDelta
  | .rejected => delta.threadPoolRejectedDelta
  | .threw => delta.threadPoolExceptionDelta

end PoolEvent

/-- The events that a step of a thread is: a task is rejected by a call of `Enqueue` that finds the queue full. -/
def PoolThreads.happens (s : PoolThreads) : PoolOp → PoolEvent → Bool
  | .workerCount _, .executed | .callerCount _, .executed => true
  | .workerFinish _ threw, .threw | .callerFinish _ threw, .threw => threw
  | .enqueue isEmpty, .rejected => !isEmpty && s.running && decide (s.queueCapacity ≤ s.tasks.length)
  | _, _ => false

def PooledBridge.happens (s : PooledBridge) : PooledOp → PoolEvent → Bool
  | .pool op, e => s.pool.happens op e
  | _, _ => false

/-- An export, with the pool as it was found then and at the export before, and the events in between. -/
structure PoolExport where
  delta : MetricsDelta
  pool : ThreadPool
  lastPool : ThreadPool
  since : PoolEvent → Nat

/-- No more is reported than has happened. -/
def PoolExport.Bounded (x : PoolExport) (e : PoolEvent) : Prop :=
  (e.delta x.delta).toNat ≤ x.since e

/-- By how much a counter is less than at the export before, in 64 bits. -/
def PoolExport.fallen (x : PoolExport) (e : PoolEvent) : Nat :=
  (e.count x.lastPool - e.count x.pool) % 2 ^ 64

/-- The counter has not fallen, or it has come around again. -/
def PoolExport.Kept (x : PoolExport) (e : PoolEvent) : Prop :=
  x.fallen e = 0 ∨ 2 ^ 64 ≤ x.since e + x.fallen e

/-- A run with its exports and the events since the last one. -/
structure DeltaRun where
  state : PooledBridge := {}
  since : PoolEvent → Nat := fun _ => 0
  lastPool : ThreadPool := {}
  exports : List PoolExport := []

/-- What is written down of an operation. -/
def DeltaRun.note (r : DeltaRun) (state : PooledBridge) : PooledOp → DeltaRun
  | .exportDelta metrics nowMs =>
    { state
      since := fun _ => 0
      lastPool := r.state.pool.toThreadPool
      exports := r.exports ++ [{
        delta := (r.state.exportMetricsDelta metrics nowMs).1
        pool := r.state.pool.toThreadPool
        lastPool := r.lastPool
        since := r.since }] }
  | op => { r with state, since := fun e => r.since e + if r.state.happens op e then 1 else 0 }

def DeltaRun.exec (hashString : Bytes → UInt64) (r : DeltaRun) (op : PooledOp) : Option DeltaRun :=
  (r.state.exec hashString op).map fun state => r.note state op

/-! ### What a step does to the counters -/

private theorem ThreadPool.getMetrics_metric (pool : ThreadPool) (e : PoolEvent) :
    e.metric pool.getMetrics = .ofNat (e.count pool) := by
  cases e <;> rfl

private theorem ThreadPool.enqueue_count (pool : ThreadPool) (task : Nat) (isEmpty : Bool) (e : PoolEvent) :
    e.count (pool.enqueue task isEmpty).2 =
      e.count pool +
        if e = .rejected ∧ isEmpty = false ∧ pool.running = true ∧ pool.queueCapacity ≤ pool.tasks.length then 1
        else 0 := by
  unfold ThreadPool.enqueue
  by_cases hempty : isEmpty = true
  · simp [hempty]
  by_cases hrunning : pool.running = true
  · by_cases hfull : pool.queueCapacity ≤ pool.tasks.length
    · -- the count goes up under either policy
      by_cases hpolicy : pool.rejectionPolicy = .callerRuns
      · cases e <;> simp [hempty, hrunning, hfull, hpolicy, PoolEvent.count]
      · cases e <;> simp [hempty, hrunning, hfull, hpolicy, PoolEvent.count]
    · cases e <;> simp [hempty, hrunning, hfull, PoolEvent.count]
  · simp [hempty, hrunning]

/-- A step of a thread adds to the counters what happens in it. -/
private theorem PoolThreads.exec_count {s s' : PoolThreads} {op : PoolOp} (h : s.exec op = some s') (e : PoolEvent) :
    e.count s'.toThreadPool = e.count s.toThreadPool + if s.happens op e then 1 else 0 := by
  cases op with
  | enqueue isEmpty =>
    cases h
    change e.count (s.toThreadPool.enqueue s.calls.length isEmpty).2 = _
    rw [ThreadPool.enqueue_count]
    cases e <;> simp [happens, and_assoc]
  | takeTask worker =>
    simp only [exec] at h
    split at h
    · cases h
      unfold ThreadPool.takeTask
      split <;> cases e <;> rfl
    · cases h
  | notifyOne call woken =>
    simp only [exec] at h
    split at h
    · cases woken <;> simp only at h <;> split at h <;> cases h <;> cases e <;> rfl
    · cases h
  | stop =>
    simp only [exec] at h
    split at h
    · cases h
      split <;> cases e <;> rfl
    · cases h
  | callerFinish call threw =>
    simp only [exec] at h
    split at h
    · cases h
      cases threw <;> cases e <;> rfl
    · cases h
  | workerFinish worker threw =>
    simp only [exec] at h
    split at h
    · cases h
      cases threw <;> cases e <;> rfl
    · cases h
  | _ =>
    simp only [exec] at h
    split at h
    · cases h
      cases e <;> rfl
    · cases h

private theorem ThreadPool.createWorkers_count (setPriority : Nat → Int32 → Bool) (pool : ThreadPool) (n : Nat)
    (e : PoolEvent) : e.count (pool.createWorkers setPriority n).2 = e.count pool := by
  induction n generalizing pool with
  | zero => rfl
  | succ n ih =>
    simp only [ThreadPool.createWorkers]
    split
    · unfold ThreadPool.stopAlone
      split <;> cases e <;> rfl
    · rw [ih]
      cases e <;> rfl

/-- A start sets the counters to 0 or leaves them alone. -/
private theorem ThreadPool.start_count (setPriority : Nat → Int32 → Bool) (config : ThreadConfig) (pool : ThreadPool) :
    (pool.start setPriority config).2 = pool ∨ ∀ e : PoolEvent, e.count (pool.start setPriority config).2 = 0 := by
  unfold ThreadPool.start
  split
  · exact .inl rfl
  split
  · exact .inl rfl
  · refine .inr fun e => ?_
    rw [createWorkers_count]
    cases e <;> rfl

/-! ### The deltas -/

/-- What holds between two exports. -/
structure Based (r : DeltaRun) : Prop where
  last : ∀ e : PoolEvent, e.metric r.state.aggregator.lastExportThreadPool = .ofNat (e.count r.lastPool)
  since : ∀ e : PoolEvent, e.count r.state.pool.toThreadPool ≤ r.since e ∨
    e.count r.state.pool.toThreadPool = e.count r.lastPool + r.since e

private theorem based_init : Based {} where
  last e := by cases e <;> rfl
  since e := .inl (by cases e <;> exact Nat.le_refl _)

/-- The difference of a counter that goes up by its events, or has been set back and counts no more than these. -/
private theorem toNat_sub_le_iff {now last since : Nat} (h : now ≤ since ∨ now = last + since) :
    (UInt64.ofNat now - UInt64.ofNat last).toNat ≤ since ↔
      (last - now) % 2 ^ 64 = 0 ∨ 2 ^ 64 ≤ since + (last - now) % 2 ^ 64 := by
  rw [UInt64.toNat_sub, UInt64.toNat_ofNat', UInt64.toNat_ofNat']
  omega

section
variable {hashString : Bytes → UInt64} {r r' : DeltaRun} {op : PooledOp}

private theorem PooledBridge.exportMetricsDelta_delta (metrics : BridgeMetrics) (nowMs : UInt64) (s : PooledBridge)
    (e : PoolEvent) :
    e.delta (s.exportMetricsDelta metrics nowMs).1 =
      .ofNat (e.count s.pool.toThreadPool) - e.metric s.aggregator.lastExportThreadPool := by
  cases e <;> rfl

/-- Each export is right exactly where its counters have been kept. -/
private theorem Based.bounded_iff (h : Based r) (metrics : BridgeMetrics) (nowMs : UInt64) (e : PoolEvent) :
    (e.delta (r.state.exportMetricsDelta metrics nowMs).1).toNat ≤ r.since e ↔
      PoolExport.Kept { delta := (r.state.exportMetricsDelta metrics nowMs).1
                        pool := r.state.pool.toThreadPool, lastPool := r.lastPool, since := r.since } e := by
  rw [PooledBridge.exportMetricsDelta_delta, h.last]
  exact toNat_sub_le_iff (h.since e)

/-- A step that is no export: it leaves the last one alone, and adds its events to the counters or sets them back. -/
theorem Based.of_counts (h : Based r) {state : PooledBridge} {events : PoolEvent → Nat}
    (hlast : state.aggregator.lastExportThreadPool = r.state.aggregator.lastExportThreadPool)
    (hpool : ∀ e : PoolEvent, e.count state.pool.toThreadPool = e.count r.state.pool.toThreadPool + events e ∨
      e.count state.pool.toThreadPool = 0) :
    Based { r with state, since := fun e => r.since e + events e } where
  last e := by
    rw [hlast]
    exact h.last e
  since e := by
    have hsince := h.since e
    rcases hpool e with heq | hzero
    · simp only
      omega
    · exact .inl (hzero ▸ Nat.zero_le _)

private theorem PooledBridge.start_aggregator (env : StartEnv) (setPriority : Nat → Int32 → Bool)
    (config : BridgeConfig) (s : PooledBridge) :
    (s.start hashString env setPriority config).aggregator = s.aggregator := by
  unfold PooledBridge.start
  split <;> rfl

private theorem PooledBridge.start_count (s : PooledBridge) (env : StartEnv) (setPriority : Nat → Int32 → Bool)
    (config : BridgeConfig) :
    (∀ e : PoolEvent, e.count (s.start hashString env setPriority config).pool.toThreadPool =
      e.count s.pool.toThreadPool) ∨
    ∀ e : PoolEvent, e.count (s.start hashString env setPriority config).pool.toThreadPool = 0 := by
  unfold PooledBridge.start
  split
  · rcases s.pool.toThreadPool.start_count setPriority
      (prepareStart hashString config s.bridge).config.threadPool with hsame | hzero
    · exact .inl fun e => congrArg (PoolEvent.count · e) hsame
    · exact .inr hzero
  · exact .inl fun e => rfl

/-- **The step lemma.** -/
theorem Based.step (h : Based r) (hstep : r.exec hashString op = some r') : Based r' := by
  obtain ⟨state, hexec, rfl⟩ := Option.map_eq_some_iff.1 hstep
  cases op with
  | start env setPriority config =>
    simp only [PooledBridge.exec] at hexec
    split at hexec
    · cases hexec
      have haggregator : (r.state.start hashString env setPriority config).aggregator = r.state.aggregator :=
        PooledBridge.start_aggregator env setPriority config r.state
      have hcount : ∀ e : PoolEvent,
          e.count (r.state.start hashString env setPriority config).pool.toThreadPool =
            e.count r.state.pool.toThreadPool + 0 ∨
          e.count (r.state.start hashString env setPriority config).pool.toThreadPool = 0 := by
        intro e
        rcases r.state.start_count env setPriority config with hsame | hzero
        · exact .inl (hsame e)
        · exact .inr (hzero e)
      exact h.of_counts (congrArg _ haggregator) hcount
    · cases hexec
  | pool op =>
    simp only [PooledBridge.exec] at hexec
    split at hexec
    · cases hexec
    · obtain ⟨pool, hpool, rfl⟩ := Option.map_eq_some_iff.1 hexec
      exact h.of_counts rfl fun e => .inl (PoolThreads.exec_count hpool e)
  | stop =>
    simp only [PooledBridge.exec] at hexec
    split at hexec
    · obtain ⟨pool, hpool, rfl⟩ := Option.map_eq_some_iff.1 hexec
      exact h.of_counts rfl fun e => .inl (PoolThreads.exec_count hpool e)
    · cases hexec
      exact h.of_counts rfl fun e => .inl rfl
  | refresh metrics =>
    cases hexec
    exact h.of_counts rfl fun e => .inl rfl
  | exportDelta metrics nowMs =>
    cases hexec
    exact ⟨fun e => r.state.pool.toThreadPool.getMetrics_metric e, fun e => .inr rfl⟩

/-- All exports of a run are right exactly where they have found their counters kept. -/
structure Exported (r : DeltaRun) : Prop where
  based : Based r
  bounded : ∀ x ∈ r.exports, ∀ e, x.Bounded e ↔ x.Kept e

private theorem exported_init : Exported {} where
  based := based_init
  bounded _ hx := absurd hx List.not_mem_nil

theorem Exported.step (h : Exported r) (hstep : r.exec hashString op = some r') : Exported r' := by
  refine ⟨h.based.step hstep, ?_⟩
  obtain ⟨state, hexec, rfl⟩ := Option.map_eq_some_iff.1 hstep
  cases op with
  | exportDelta metrics nowMs =>
    intro x hx e
    rcases List.mem_append.1 hx with hold | hnew
    · exact h.bounded x hold e
    · rw [List.mem_singleton.1 hnew]
      exact h.based.bounded_iff metrics nowMs e
  | _ => exact h.bounded

end

/-- **Deltas across restarts.** In a run of starts, stops, steps of the pool's threads and exports, every export reports
at most the tasks executed, rejected and thrown since the one before, if and only if every export finds the counters of
the pool no less than the one before, or so much has happened in between that a counter which is less by `d` has been
overtaken: at least `2 ^ 64 - d` events. -/
theorem pool_deltas_bounded_iff (hashString : Bytes → UInt64) {ops : List PooledOp} {r : DeltaRun}
    (hrun : Run (fun r op r' => r.exec hashString op = some r') {} ops r) :
    (∀ x ∈ r.exports, ∀ e, x.Bounded e) ↔ ∀ x ∈ r.exports, ∀ e, x.Kept e := by
  have hexported : Exported r :=
    hrun.invariant (fun _ _ _ h hstep => h.step hstep) exported_init
  constructor
  · exact fun h x hx e => (hexported.bounded x hx e).1 (h x hx e)
  · exact fun h x hx e => (hexported.bounded x hx e).2 (h x hx e)

/-- A bridge is started and its two inbound loops are taken by the workers, it is stopped and the loops return. -/
def startAndStop : List PooledOp :=
  [.start {} (fun _ _ => true) plainConfig, .pool (.enqueue false), .pool (.notifyOne 0 none), .pool (.enqueue false),
    .pool (.notifyOne 1 none), .pool (.takeTask 0), .pool (.takeTask 1), .stop, .pool .notifyAll,
    .pool (.workerFinish 0 false), .pool (.workerCount 0), .pool (.workerFinish 1 false), .pool (.workerCount 1),
    .pool (.takeTask 0), .pool (.takeTask 1), .pool .join, .pool .swap]

/-- The run that goes on from there. -/
def runFromStop (ops : List PooledOp) : Option DeltaRun :=
  (startAndStop ++ ops).foldlM (DeltaRun.exec fun _ => 0) {}

private theorem run_of_runFromStop {ops : List PooledOp} {r : DeltaRun} (h : runFromStop ops = some r) :
    Run (fun r op r' => r.exec (fun _ => 0) op = some r') {} (startAndStop ++ ops) r :=
  Run.of_foldlM h

/-- An export behind the stop finds that its counters have not fallen. -/
theorem pool_deltas_bounded_first :
    ∃ r, runFromStop [.exportDelta {} 1] = some r ∧ ∀ x ∈ r.exports, ∀ e, x.Bounded e := by
  have hfallen : (runFromStop [.exportDelta {} 1]).map
      (·.exports.map fun x => (x.fallen .executed, x.fallen .rejected, x.fallen .threw)) = some [(0, 0, 0)] := by
    decide
  obtain ⟨r, hexec, hexports⟩ := Option.map_eq_some_iff.1 hfallen
  refine ⟨r, hexec, (pool_deltas_bounded_iff _ (run_of_runFromStop hexec)).2 fun x hx e => .inl ?_⟩
  have hzero := List.mem_map_of_mem (f := fun x : PoolExport =>
    (x.fallen .executed, x.fallen .rejected, x.fallen .threw)) hx
  rw [hexports, List.mem_singleton] at hzero
  obtain ⟨hexecuted, hrejected, hthrew⟩ : x.fallen .executed = 0 ∧ x.fallen .rejected = 0 ∧ x.fallen .threw = 0 := by
    simpa using hzero
  cases e
  · exact hexecuted
  · exact hrejected
  · exact hthrew

/-- An export, a start and another export: nothing has been executed in between, and `2 ^ 64 - 2` tasks are
reported. -/
theorem pool_deltas_wrap : ¬ ∀ (hashString : Bytes → UInt64) (ops : List PooledOp) (r : DeltaRun),
    Run (fun r op r' => r.exec hashString op = some r') {} ops r → ∀ x ∈ r.exports, ∀ e, x.Bounded e := by
  intro h
  have hexecuted : (runFromStop [.exportDelta {} 1, .start {} (fun _ _ => true) plainConfig, .exportDelta {} 2]).map
      (·.exports.map fun x => (x.delta.threadPoolExecutedDelta.toNat, x.since .executed)) =
        some [(2, 2), (2 ^ 64 - 2, 0)] := by
    decide
  obtain ⟨r, hexec, hexports⟩ := Option.map_eq_some_iff.1 hexecuted
  have hwrapped : (2 ^ 64 - 2, 0) ∈ r.exports.map fun x =>
      (x.delta.threadPoolExecutedDelta.toNat, x.since .executed) := by simp [hexports]
  obtain ⟨x, hx, heq⟩ := List.mem_map.1 hwrapped
  obtain ⟨hdelta, hsince⟩ := Prod.mk.inj heq
  have hbounded : x.delta.threadPoolExecutedDelta.toNat ≤ x.since .executed :=
    h _ _ r (run_of_runFromStop hexec) x hx .executed
  omega

end VehicleBridge
