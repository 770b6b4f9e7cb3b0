import VehicleBridge.Core.ThreadPoolRuns
import VehicleBridge.Interconnect.Lifecycle

/-!
# The inbound loops on their worker pool

`Start` hands the two inbound loops to the worker pool, and each of them occupies its worker until the bridge stops
running.  Nothing asks for two workers: with one, which `Start` and the pool accept, the second loop waits in the queue
for as long as the bridge runs (`starved_of_one_worker`), and with two or more neither of them has to
(`loops_served_iff`).
-/

namespace VehicleBridge

open Threads Transition

/-- Where `Start` is once it has set `running_`: before or behind the call of `Enqueue` for one of the loops, in its own
call of `Stop`, or back. -/
inductive LaunchPhase
  | vehicleNext
  | vehicleCalled (call : Nat)
  | robotNext
  | robotCalled (call : Nat)
  | stopping (ec : ErrorCode)
  | returned (ec : ErrorCode)
  deriving DecidableEq, Repr

/-- A bridge from the moment `Start` has set `running_`, with its worker pool. -/
structure InboundLoops where
  pool : PoolThreads
  running : Bool
  start : LaunchPhase

/-- A step of `Start`, a step of a thread of the pool, or a call of the bridge's `Stop`, which clears `running_` and
goes on with the pool's. -/
inductive LoopOp
  | enqueueLoop
  | loopEnqueued
  | stopped
  | pool (op : PoolOp)
  | stop
  deriving DecidableEq, Repr

/-- The steps that threads of the pool can take: the loops are all it executes, none of them throws or ends before
`running_` is cleared, and the pool is stopped by the bridge. -/
def InboundLoops.allows (s : InboundLoops) : PoolOp → Bool
  | .enqueue _ => false
  | .callerFinish _ threw | .workerFinish _ threw => !s.running && !threw
  | .stop => !s.running
  | _ => true

/-- `Start` with the result of `Enqueue` for a loop. -/
def InboundLoops.afterLoop (s : InboundLoops) (call : Nat) (next : LaunchPhase) : Option InboundLoops :=
  match s.pool.calls[call]? with
  | some (.outside (.returned ec)) =>
    some (if loopEnqueued ec then { s with start := next }
      else { s with running := false, start := if s.running then .stopping ec else .returned ec })
  | _ => none

def InboundLoops.exec (s : InboundLoops) : LoopOp → Option InboundLoops
  | .enqueueLoop =>
    match s.start with
    | .vehicleNext => (s.pool.exec (.enqueue false)).map fun pool =>
      { s with pool, start := .vehicleCalled s.pool.calls.length }
    | .robotNext => (s.pool.exec (.enqueue false)).map fun pool =>
      { s with pool, start := .robotCalled s.pool.calls.length }
    | _ => none
  | .loopEnqueued =>
    match s.start with
    | .vehicleCalled call => s.afterLoop call .robotNext
    | .robotCalled call => s.afterLoop call (.returned .ok)
    | _ => none
  | .stopped =>
    match s.start with
    | .stopping ec => if s.pool.stop = .returned then some { s with start := .returned ec } else none
    | _ => none
  | .pool op => if s.allows op then (s.pool.exec op).map fun pool => { s with pool } else none
  | .stop => if s.running then some { s with running := false } else none

/-- The bridge when `Start` has started the pool and set `running_`. -/
def InboundLoops.launched (started : ThreadPool) : InboundLoops :=
  { pool := { toThreadPool := started }, running := true, start := .vehicleNext }

/-- A loop waits in the queue, and all workers are in loops. -/
def InboundLoops.Starved (s : InboundLoops) : Prop :=
  s.pool.tasks ≠ [] ∧ ∀ worker ∈ s.pool.workers, ∃ task, worker = .executing task .calling

/-! ### Two workers -/

def LaunchPhase.calls : LaunchPhase → Nat
  | .vehicleNext => 0
  | .vehicleCalled _ | .robotNext => 1
  | .robotCalled _ | .stopping _ | .returned _ => 2

/-- What a bridge with so many workers keeps. -/
structure LoopsSound (workers : Nat) (s : InboundLoops) : Prop where
  accounts : PoolAccounts s.pool
  shutdown : PoolShutdown s.pool
  calls : s.pool.calls.length ≤ s.start.calls
  live : s.running = true → s.pool.stop = .notCalled ∧ s.pool.workers.length = workers

/-- The pool makes no calls of its own. -/
private theorem PoolStep.calls_length {s s' : PoolThreads} {op : PoolOp} (h : PoolStep s op s')
    (hop : ∀ isEmpty, op ≠ .enqueue isEmpty) : s'.calls.length = s.calls.length := by
  cases h with
  | refuse | callerRuns | queue => exact absurd rfl (hop _)
  | notify | notifyNobody | submit | callerFinish | callerCount => exact List.length_set
  | _ => rfl

/-- The pool keeps its workers until `Stop` has joined them. -/
private theorem PoolStep.workers_length {s s' : PoolThreads} {op : PoolOp} (h : PoolStep s op s') (hop : op ≠ .stop)
    (hstop : s.stop = .notCalled) : s'.stop = .notCalled ∧ s'.workers.length = s.workers.length := by
  cases h with
  | stop | stopAgain => exact absurd rfl hop
  | notifyAll hlater | join hlater | swap hlater => exact absurd (hlater.symm.trans hstop) nofun
  | notify | sleep | leave | take | workerFinish | workerCount | wake => exact ⟨hstop, List.length_set⟩
  | _ => exact ⟨hstop, rfl⟩

private theorem enqueue_frame {s s' : PoolThreads} {isEmpty : Bool} (h : s.exec (.enqueue isEmpty) = some s') :
    s'.calls.length = s.calls.length + 1 ∧ s'.stop = s.stop ∧ s'.workers = s.workers := by
  cases PoolStep.of_exec h <;> exact ⟨List.length_append, rfl, rfl⟩

private theorem LoopsSound.afterLoop {workers : Nat} {s s' : InboundLoops} {call : Nat} {next : LaunchPhase}
    (h : LoopsSound workers s) (hafter : s.afterLoop call next = some s') (hcalls : s.pool.calls.length ≤ 2)
    (hnext : s.pool.calls.length ≤ next.calls) : LoopsSound workers s' := by
  unfold InboundLoops.afterLoop at hafter
  split at hafter
  · cases hafter
    split
    · exact ⟨h.accounts, h.shutdown, hnext, h.live⟩
    · refine ⟨h.accounts, h.shutdown, ?_, nofun⟩
      cases hrunning : s.running <;> exact hcalls
  · cases hafter

theorem LoopsSound.enqueue {workers : Nat} {s : InboundLoops} {pool : PoolThreads} {start : LaunchPhase}
    (h : LoopsSound workers s) (hexec : s.pool.exec (.enqueue false) = some pool)
    (hcalls : s.start.calls + 1 ≤ start.calls) : LoopsSound workers { s with pool, start } := by
  obtain ⟨hlength, hstop, hworkers⟩ := enqueue_frame hexec
  refine ⟨h.accounts.step h.shutdown (.of_exec hexec), h.shutdown.step (.of_exec hexec), ?_, fun hrunning => ?_⟩
  · have hold := h.calls
    simp only
    omega
  · rw [hstop, hworkers]
    exact h.live hrunning

theorem LoopsSound.pool {workers : Nat} {s : InboundLoops} {op : PoolOp} {pool : PoolThreads}
    (h : LoopsSound workers s) (hallowed : s.allows op = true) (hexec : s.pool.exec op = some pool) :
    LoopsSound workers { s with pool } := by
  have hpool := PoolStep.of_exec hexec
  refine ⟨h.accounts.step h.shutdown hpool, h.shutdown.step hpool, ?_, fun hrunning => ?_⟩
  · have hnoCall : ∀ isEmpty, op ≠ .enqueue isEmpty := by
      rintro isEmpty rfl
      cases hallowed
    exact (hpool.calls_length hnoCall).symm ▸ h.calls
  · have hnoStop : op ≠ .stop := by
      rintro rfl
      rw [InboundLoops.allows, show s.running = true from hrunning] at hallowed
      cases hallowed
    obtain ⟨hnotCalled, hlength⟩ := hpool.workers_length hnoStop (h.live hrunning).1
    exact ⟨hnotCalled, hlength.trans (h.live hrunning).2⟩

theorem LoopsSound.step {workers : Nat} {s s' : InboundLoops} {op : LoopOp} (h : LoopsSound workers s)
    (hstep : s.exec op = some s') : LoopsSound workers s' := by
  cases op with
  | enqueueLoop =>
    simp only [InboundLoops.exec] at hstep
    split at hstep
    · next hstart =>
      obtain ⟨pool, hexec, rfl⟩ := Option.map_eq_some_iff.1 hstep
      exact h.enqueue hexec (by rw [hstart]; exact Nat.le_refl 1)
    · next hstart =>
      obtain ⟨pool, hexec, rfl⟩ := Option.map_eq_some_iff.1 hstep
      exact h.enqueue hexec (by rw [hstart]; exact Nat.le_refl 2)
    · cases hstep
  | loopEnqueued =>
    simp only [InboundLoops.exec] at hstep
    split at hstep
    · next call hstart =>
      have hcalls : _ ≤ 1 := hstart ▸ h.calls
      exact h.afterLoop hstep (Nat.le_succ_of_le hcalls) hcalls
    · next call hstart =>
      have hcalls : _ ≤ 2 := hstart ▸ h.calls
      exact h.afterLoop hstep hcalls hcalls
    · cases hstep
  | stopped =>
    simp only [InboundLoops.exec] at hstep
    split at hstep
    · next ec hstart =>
      have hcalls : _ ≤ 2 := hstart ▸ h.calls
      split at hstep
      · cases hstep
        exact ⟨h.accounts, h.shutdown, hcalls, h.live⟩
      · cases hstep
    · cases hstep
  | pool op =>
    simp only [InboundLoops.exec] at hstep
    split at hstep
    · next hallowed =>
      obtain ⟨pool, hexec, rfl⟩ := Option.map_eq_some_iff.1 hstep
      exact h.pool hallowed hexec
    · cases hstep
  | stop =>
    simp only [InboundLoops.exec] at hstep
    split at hstep
    · cases hstep
      exact ⟨h.accounts, h.shutdown, h.calls, nofun⟩
    · cases hstep

/-- With two workers or more, two tasks are too few to keep all of them and leave one in the queue. -/
private theorem LoopsSound.not_starved {workers : Nat} {s : InboundLoops} (h : LoopsSound workers s)
    (htwo : 2 ≤ workers) (hrunning : s.running = true) : ¬ s.Starved := by
  rintro ⟨hwaiting, hoccupied⟩
  have htasks := List.length_pos_of_ne_nil hwaiting
  have hcalls : s.pool.calls.length ≤ 2 := by
    refine Nat.le_trans h.calls ?_
    cases s.start <;> simp [LaunchPhase.calls]
  have haccepted := acceptedCalls_le_length s.pool.calls
  have hbusy : s.pool.workers.length ≤ s.pool.executing := by
    refine Nat.le_trans (Nat.le_of_eq (total_eq_length fun worker hworker => ?_).symm) (Nat.le_add_right _ _)
    obtain ⟨task, rfl⟩ := hoccupied worker hworker
    rfl
  have hworkers := (h.live hrunning).2
  have hcount := h.accounts.accepted
  have hsubmitted := h.accounts.submitted
  omega

theorem ThreadPool.Started.loops {config : ThreadConfig} {started : ThreadPool} (h : started.Started config) :
    LoopsSound config.workerCount (.launched started) :=
  ⟨h.accounts, h.shutdown, Nat.le_refl 0,
    fun _ => ⟨rfl, by rw [InboundLoops.launched, h.workers, List.length_replicate]⟩⟩

/-! ### One worker -/

/-- With one worker, the loop it takes first keeps the other one waiting. -/
theorem starved_of_one_worker {config : ThreadConfig} {started : ThreadPool} (h : started.Started config)
    (hone : config.workerCount = 1) :
    ∃ ops s, Run (fun s op s' => InboundLoops.exec s op = some s') (.launched started) ops s ∧
      s.start = .returned .ok ∧ s.running = true ∧ s.Starved := by
  obtain ⟨hrunning, htasks, hworkers, -, hcapacity, hroom, -, -, -⟩ := h
  obtain ⟨room, hroom⟩ := Nat.exists_eq_succ_of_ne_zero hroom
  rw [hone] at hworkers
  rw [hroom] at hcapacity
  obtain ⟨workers, tasks, running, enableRealtime, priority, capacity, policy, submitted, executed, rejected,
    exceptions⟩ := started
  subst hrunning htasks hworkers hcapacity
  refine ⟨[.enqueueLoop, .pool (.notifyOne 0 none), .pool (.takeTask 0), .loopEnqueued, .enqueueLoop,
    .pool (.notifyOne 1 none), .loopEnqueued], _, Run.of_foldlM rfl, rfl, rfl, nofun, fun worker hworker => ?_⟩
  exact ⟨0, List.mem_singleton.1 hworker⟩

/-- **Both loops are served**: where the pool is started, no loop is left in its queue behind workers that all are in
loops, exactly when there are two workers or more. -/
theorem loops_served_iff {setPriority : Nat → Int32 → Bool} {config : BridgeConfig} {pool started : ThreadPool}
    (hidle : pool.Idle) (hstart : pool.start setPriority config.threadPool = (.ok, started)) :
    (∀ ops s, Run (fun s op s' => InboundLoops.exec s op = some s') (.launched started) ops s → s.running = true →
      ¬ s.Starved) ↔ 2 ≤ config.threadPool.workerCount := by
  have h := start_of_ok hidle hstart
  constructor
  · intro hserved
    by_contra hfew
    have hsome := h.workerCount
    obtain ⟨ops, s, hrun, -, hrunning, hstarved⟩ := starved_of_one_worker h (by omega)
    exact hserved ops s hrun hrunning hstarved
  · intro htwo ops s hrun hrunning
    have hsound := hrun.invariant (fun _ _ _ h hstep => LoopsSound.step h hstep) h.loops
    exact hsound.not_starved htwo hrunning

/-- Two workers are what a configuration comes with. -/
theorem loops_served_iff_plainConfig :
    ∃ started, ThreadPool.start (fun _ _ => true) plainConfig.threadPool {} = (.ok, started) ∧
      ∀ ops s, Run (fun s op s' => InboundLoops.exec s op = some s') (.launched started) ops s → s.running = true →
        ¬ s.Starved := by
  have hstart : ThreadPool.start (fun _ _ => true) plainConfig.threadPool {} = (.ok, _) := rfl
  exact ⟨_, hstart, (loops_served_iff ⟨rfl, rfl, rfl⟩ hstart).2 (by decide)⟩

/-- One worker, and room for four tasks. -/
def oneWorkerConfig : BridgeConfig :=
  { plainConfig with threadPool := { workerCount := 1, queueCapacity := 4 } }

/-- A bridge whose `Start` has returned `kOk` leaves the loop of one direction in the queue. -/
theorem loops_not_served :
    ¬ ∀ (config : BridgeConfig) (started : ThreadPool) (ops : List LoopOp) (s : InboundLoops),
      ThreadPool.start (fun _ _ => true) config.threadPool {} = (.ok, started) →
      Run (fun s op s' => InboundLoops.exec s op = some s') (.launched started) ops s → s.start = .returned .ok →
      s.running = true → ¬ s.Starved := by
  intro hall
  have hstart : ThreadPool.start (fun _ _ => true) oneWorkerConfig.threadPool {} = (.ok, _) := rfl
  obtain ⟨ops, s, hrun, hreturned, hrunning, hstarved⟩ := starved_of_one_worker (start_of_ok ⟨rfl, rfl, rfl⟩ hstart) rfl
  exact hall oneWorkerConfig _ ops s hstart hrun hreturned hrunning hstarved

end VehicleBridge
