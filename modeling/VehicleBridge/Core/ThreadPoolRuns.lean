import VehicleBridge.Core.ThreadPoolAccounts
import VehicleBridge.Core.ThreadPoolSteps
import VehicleBridge.Lib.Transition

/-!
# Runs of a thread pool

Nothing that a pool has accepted is lost or executed twice (`pool_nothingLost`), whatever the order of the steps.  With
the accounts, three facts bring a pool to its end: a queue with tasks in it has a worker that is awake or a notification
on its way to one, a worker leaves its loop only after `Stop` and with the queue empty (`PoolShutdown`), and every step
that a thread takes by itself leaves less to do (`PoolStep.work_lt`).
-/

namespace VehicleBridge

open Threads Transition

/-! ### What a pool owes its callers -/

/-- All calls are back. -/
structure PoolThreads.Settled (s : PoolThreads) : Prop where
  stop : s.stop = .returned
  calls : ∀ call ∈ s.calls, call.isReturned = true

/-- The steps that a thread of the pool takes by itself: it makes no call, and is not woken without notification. -/
def PoolOp.isInternal : PoolOp → Bool
  | .enqueue _ | .wake _ | .stop => false
  | _ => true

/-- No thread can take a step by itself. -/
def PoolThreads.Stuck (s : PoolThreads) : Prop :=
  ∀ op, op.isInternal = true → s.exec op = none

/-- All accepted tasks have been executed once, and no other ones. -/
structure PoolThreads.Done (s : PoolThreads) : Prop where
  tasks : s.tasks = []
  once : ∀ task, s.executionsOf task = if s.Accepted task then 1 else 0
  executed : s.executedCount = s.submittedCount
  executions : s.executedCount = s.executions.length
  exceptions : s.taskExceptionCount = (s.executions.filter Prod.snd).length

/-- What a thread has to do before it waits, sleeps or has returned. -/
def ThreadPhase.work {α : Type} (point : α → Nat) : ThreadPhase α → Nat
  | .outside p => point p
  | .executing _ .calling => 3
  | .executing _ .counting => 2

def WorkerPoint.work : WorkerPoint → Nat
  | .locking => 1
  | .waiting | .returned => 0

def EnqueuePoint.work : EnqueuePoint → Nat
  | .notifying => 2
  | .submitting => 4
  | .returned _ => 0

def StopPhase.work (workers : Nat) : StopPhase → Nat
  | .notCalled | .returned => 0
  | .notifying => workers + 3
  | .joining => 2
  | .swapping => 1

/-- A bound on the number of steps that the threads take by themselves. -/
def PoolThreads.work (s : PoolThreads) : Nat :=
  4 * s.tasks.length + total (ThreadPhase.work WorkerPoint.work) s.workers +
    total (ThreadPhase.work EnqueuePoint.work) s.calls + s.stop.work s.workers.length

/-- What a pool guarantees in every state.  Without further calls its threads come to rest, with all accepted tasks
executed and `Stop`, if it has been called, back. -/
structure PoolThreads.NothingLost (s : PoolThreads) : Prop where
  capacity : s.tasks.length ≤ s.queueCapacity
  submissionOrder : s.taken ++ s.tasks = queuedTasks s.calls
  accepted : ∀ task, s.Accepted task → s.tasks.count task + s.executingTask task + s.executionsOf task = 1
  refused : ∀ task, s.calls[task]?.any EnqueuePhase.submitted = false →
    task ∉ s.tasks ∧ s.executingTask task = 0 ∧ s.executionsOf task = 0
  submitted : s.submittedCount = s.tasks.length + s.executing + s.executedCount
  settled : s.Settled → s.Done
  drains : ∀ ops s', Run (fun s op s' => op.isInternal = true ∧ s.exec op = some s') s ops s' →
    ops.length ≤ s.work ∧ (s'.Stuck → s'.Done ∧ (s'.stop = .notCalled ∨ s'.stop = .returned))

/-! ### Shutdown -/

/-- What a worker that has left its loop and a call of `Stop` say of the pool, and who sees to the tasks in the
queue. -/
structure PoolShutdown (s : PoolThreads) : Prop where
  running : s.running = true ↔ s.stop = .notCalled
  left : .outside .returned ∈ s.workers ∨ s.stop = .swapping ∨ s.stop = .returned →
    s.stop ≠ .notCalled ∧ s.tasks = []
  workers : s.workers = [] ↔ s.stop = .swapping ∨ s.stop = .returned
  awake : s.tasks = [] ∨ (∃ worker ∈ s.workers, worker ≠ .outside .waiting) ∨ .outside .notifying ∈ s.calls
  asleep : .outside .waiting ∈ s.workers → s.stop = .notCalled ∨ s.stop = .notifying

/-- A step of a call that leaves the workers and the queue alone. -/
private theorem PoolShutdown.of_call {s s' : PoolThreads} (h : PoolShutdown s) (hworkers : s'.workers = s.workers)
    (htasks : s'.tasks = s.tasks) (hrunning : s'.running = s.running) (hstop : s'.stop = s.stop)
    (hcalls : .outside .notifying ∈ s.calls → .outside .notifying ∈ s'.calls) : PoolShutdown s' := by
  refine ⟨?_, ?_, ?_, ?_, ?_⟩
  · rw [hrunning, hstop]
    exact h.running
  · rw [hworkers, htasks, hstop]
    exact h.left
  · rw [hworkers, hstop]
    exact h.workers
  · rw [hworkers, htasks]
    exact h.awake.imp_right (Or.imp_right hcalls)
  · rw [hworkers, hstop]
    exact h.asleep

/-- A step of a worker that stays in its loop, and awake. -/
private theorem PoolShutdown.of_worker {s s' : PoolThreads} (h : PoolShutdown s) {worker : Nat}
    {phase phase' : WorkerPhase} (hworker : s.workers[worker]? = some phase)
    (hworkers : s'.workers = s.workers.set worker phase')
    (hwaiting : phase' ≠ .outside .waiting) (hreturned : phase' ≠ .outside .returned)
    (htasks : s.tasks = [] → s'.tasks = []) (hrunning : s'.running = s.running) (hstop : s'.stop = s.stop) :
    PoolShutdown s' := by
  refine ⟨?_, ?_, ?_, ?_, ?_⟩
  · rw [hrunning, hstop]
    exact h.running
  · rw [hworkers, hstop]
    rintro (hmem | hstop)
    · rcases List.mem_or_eq_of_mem_set hmem with hmem | heq
      · exact (h.left (.inl hmem)).imp_right htasks
      · exact absurd heq.symm hreturned
    · exact (h.left (.inr hstop)).imp_right htasks
  · rw [hworkers, hstop, List.set_eq_nil_iff]
    exact h.workers
  · rw [hworkers]
    exact .inr (.inl ⟨phase', List.mem_of_getElem? (getElem?_set_of_some phase' hworker), hwaiting⟩)
  · rw [hworkers, hstop]
    intro hmem
    rcases List.mem_or_eq_of_mem_set hmem with hmem | heq
    · exact h.asleep hmem
    · exact absurd heq.symm hwaiting

private theorem PoolShutdown.workers_ne {s : PoolThreads} (h : PoolShutdown s) (hswapping : s.stop ≠ .swapping)
    (hreturned : s.stop ≠ .returned) : s.workers ≠ [] :=
  fun hnone => (h.workers.1 hnone).elim hswapping hreturned

private theorem wakeUp_ne_waiting (worker : WorkerPhase) : wakeUp worker ≠ .outside .waiting := by
  unfold wakeUp
  split
  · decide
  · assumption

private theorem wakeUp_eq_returned {worker : WorkerPhase} (h : wakeUp worker = .outside .returned) :
    worker = .outside .returned := by
  unfold wakeUp at h
  split at h
  · cases h
  · exact h

theorem PoolShutdown.step {s s' : PoolThreads} {op : PoolOp} (h : PoolShutdown s) (hstep : PoolStep s op s') :
    PoolShutdown s' := by
  cases hstep with
  | refuse => exact h.of_call rfl rfl rfl rfl (List.mem_append_left _)
  | callerRuns => exact h.of_call rfl rfl rfl rfl (List.mem_append_left _)
  | queue hrunning hfree =>
    refine ⟨h.running, fun hleft => ?_, h.workers, ?_, h.asleep⟩
    · exact absurd (h.running.1 hrunning) (h.left hleft).1
    · exact .inr (.inr (List.mem_append_right _ (List.mem_singleton_self _)))
  | notify hcall hworker => exact h.of_worker hworker rfl nofun nofun id rfl rfl
  | notifyNobody hcall hnobody =>
    refine ⟨h.running, h.left, h.workers, ?_, h.asleep⟩
    cases hworkers : s.workers with
    | nil => exact .inl (h.left (.inr (h.workers.1 hworkers))).2
    | cons worker rest =>
      refine .inr (.inl ⟨worker, List.mem_cons_self, fun hwaiting => hnobody ?_⟩)
      rw [hworkers, hwaiting]
      exact List.mem_cons_self
  | submit hcall => exact h.of_call rfl rfl rfl rfl (mem_set_of_ne hcall nofun)
  | callerFinish threw hcall => exact h.of_call rfl rfl rfl rfl (mem_set_of_ne hcall nofun)
  | callerCount hcall => exact h.of_call rfl rfl rfl rfl (mem_set_of_ne hcall nofun)
  | sleep hworker hrunning hempty =>
    have hnotCalled := h.running.1 hrunning
    refine ⟨h.running, fun hleft => ?_, by rw [List.set_eq_nil_iff]; exact h.workers, .inl hempty,
      fun _ => .inl hnotCalled⟩
    rcases hleft with hmem | hstop
    · rcases List.mem_or_eq_of_mem_set hmem with hmem | heq
      · exact h.left (.inl hmem)
      · cases heq
    · exact h.left (.inr hstop)
  | leave hworker hrunning hempty =>
    refine ⟨h.running, fun _ => ⟨fun hnotCalled => ?_, hempty⟩, by rw [List.set_eq_nil_iff]; exact h.workers,
      .inl hempty, fun hmem => ?_⟩
    · exact absurd (h.running.2 hnotCalled) (Bool.eq_false_iff.1 hrunning)
    · rcases List.mem_or_eq_of_mem_set hmem with hmem | heq
      · exact h.asleep hmem
      · cases heq
  | take hworker htasks =>
    exact h.of_worker hworker rfl nofun nofun (fun hnil => absurd (htasks.symm.trans hnil) nofun) rfl rfl
  | workerFinish threw hworker => exact h.of_worker hworker rfl nofun nofun id rfl rfl
  | workerCount hworker => exact h.of_worker hworker rfl nofun nofun id rfl rfl
  | wake hworker => exact h.of_worker hworker rfl nofun nofun id rfl rfl
  | stop hstop hrunning =>
    have hworkers : s.workers ≠ [] := h.workers_ne (by rw [hstop]; nofun) (by rw [hstop]; nofun)
    refine ⟨iff_of_false nofun nofun, fun hleft => ⟨nofun, ?_⟩, iff_of_false hworkers nofun, h.awake,
      fun _ => .inr rfl⟩
    rcases hleft with hmem | hstop
    · exact (h.left (.inl hmem)).2
    · exact hstop.elim nofun nofun
  | stopAgain hstop hrunning => exact absurd (h.running.2 hstop) (Bool.eq_false_iff.1 hrunning)
  | notifyAll hstop =>
    have hworkers : s.workers ≠ [] := h.workers_ne (by rw [hstop]; nofun) (by rw [hstop]; nofun)
    have hrunning : s.running ≠ true := fun hrunning => absurd (hstop.symm.trans (h.running.1 hrunning)) nofun
    refine ⟨iff_of_false hrunning nofun, fun hleft => ⟨nofun, ?_⟩, iff_of_false (by simpa using hworkers) nofun,
      .inr (.inl ?_), fun hmem => ?_⟩
    · rcases hleft with hmem | hstop
      · obtain ⟨worker, hworker, heq⟩ := List.mem_map.1 hmem
        exact (h.left (.inl (wakeUp_eq_returned heq ▸ hworker))).2
      · exact hstop.elim nofun nofun
    · obtain ⟨worker, hworker⟩ := List.exists_mem_of_ne_nil _ hworkers
      exact ⟨wakeUp worker, List.mem_map_of_mem hworker, wakeUp_ne_waiting worker⟩
    · obtain ⟨worker, -, heq⟩ := List.mem_map.1 hmem
      exact absurd heq (wakeUp_ne_waiting worker)
  | join hstop hworkers =>
    have hrunning : s.running ≠ true := fun hrunning => absurd (hstop.symm.trans (h.running.1 hrunning)) nofun
    obtain ⟨worker, hworker⟩ := List.exists_mem_of_ne_nil s.workers
      (h.workers_ne (by rw [hstop]; nofun) (by rw [hstop]; nofun))
    have htasks := (h.left (.inl (hworkers worker hworker ▸ hworker))).2
    exact ⟨iff_of_false hrunning nofun, fun _ => ⟨nofun, htasks⟩, iff_of_true rfl (.inl rfl), .inl htasks, nofun⟩
  | swap hstop =>
    have hrunning : s.running ≠ true := fun hrunning => absurd (hstop.symm.trans (h.running.1 hrunning)) nofun
    have hworkers : s.workers = [] := h.workers.2 (.inl hstop)
    refine ⟨iff_of_false hrunning nofun, fun _ => ⟨nofun, rfl⟩, iff_of_true hworkers (.inr rfl), .inl rfl,
      fun hmem => ?_⟩
    rw [hworkers] at hmem
    cases hmem

theorem PoolAccounts.step {s s' : PoolThreads} {op : PoolOp} (h : PoolAccounts s) (hshutdown : PoolShutdown s)
    (hstep : PoolStep s op s') : PoolAccounts s' := by
  cases hstep with
  | refuse rejected hok hrejected =>
    refine h.same (threadsAt_append · ..) (.append _ ?_ ?_) rejected s.running s.stop
    · cases ‹ErrorCode› <;> first | rfl | exact absurd rfl hok
    · cases ‹ErrorCode› <;> first | rfl | exact absurd rfl hok | exact absurd rfl hrejected
  | callerRuns => exact h.same (threadsAt_append · ..) (.append _ rfl rfl) _ s.running s.stop
  | queue hrunning hfree => exact h.queue hfree
  | notify hcall hworker =>
    refine h.same (fun p => ?_) (.set hcall (.outside (.returned .ok)) rfl rfl) s.rejectedCount s.running s.stop
    rw [← Nat.add_right_cancel (threadsAt_worker p hworker s.calls (.outside .locking))]
    exact Nat.add_right_cancel (threadsAt_call p hcall _ _)
  | notifyNobody hcall hnobody =>
    refine h.same (fun p => ?_) (.set hcall (.outside (.returned .ok)) rfl rfl) s.rejectedCount s.running s.stop
    exact Nat.add_right_cancel (threadsAt_call p hcall _ _)
  | submit hcall => exact h.submit hcall
  | @callerFinish call task threw hcall =>
    exact h.finish task threw (threadsAt_call · hcall _ _) (.set hcall (.executing task .counting) rfl rfl)
  | @callerCount call task hcall =>
    exact h.count task (threadsAt_call · hcall _ _) (.set hcall (.outside (.returned .threadTaskRejected)) rfl rfl)
  | sleep hworker hrunning hempty =>
    refine h.same (fun p => ?_) (.refl _) s.rejectedCount s.running s.stop
    exact Nat.add_right_cancel (threadsAt_worker p hworker _ _)
  | leave hworker hrunning hempty =>
    refine h.same (fun p => ?_) (.refl _) s.rejectedCount s.running s.stop
    exact Nat.add_right_cancel (threadsAt_worker p hworker _ _)
  | take hworker htasks => exact h.take hworker htasks
  | @workerFinish worker task threw hworker =>
    exact h.finish task threw (threadsAt_worker · hworker _ _) (.refl _)
  | @workerCount worker task hworker => exact h.count task (threadsAt_worker · hworker _ _) (.refl _)
  | wake hworker =>
    refine h.same (fun p => ?_) (.refl _) s.rejectedCount s.running s.stop
    exact Nat.add_right_cancel (threadsAt_worker p hworker _ _)
  | stop hstop hrunning => exact h.same (fun _ => rfl) (.refl _) s.rejectedCount false _
  | stopAgain hstop hrunning => exact h.same (fun _ => rfl) (.refl _) s.rejectedCount s.running _
  | notifyAll hstop =>
    refine h.same (fun p => ?_) (.refl _) s.rejectedCount s.running _
    rw [threadsAt, total_map, total_congr fun worker _ => wakeUp_at p worker]
    rfl
  | join hstop hworkers =>
    refine h.same (fun p => ?_) (.refl _) s.rejectedCount s.running _
    have hidle : ∀ worker ∈ s.workers, worker.at p = 0 := fun worker hworker => by
      rw [hworkers worker hworker]
      rfl
    rw [threadsAt, threadsAt, total_nil, total_eq_zero hidle]
  | swap hstop => exact h.swap (hshutdown.left (.inr (.inl hstop))).2 _

/-! ### Pools that come to rest -/

private theorem threadsAt_eq_zero (p : Nat → ExecutePhase → Bool) {workers : List WorkerPhase}
    {calls : List EnqueuePhase} (hworkers : ∀ worker ∈ workers, ∃ point, worker = .outside point)
    (hcalls : ∀ call ∈ calls, call.isReturned = true) :
    threadsAt p workers calls = 0 := by
  have hworkersZero : ∀ worker ∈ workers, worker.at p = 0 := by
    intro worker hworker
    obtain ⟨point, rfl⟩ := hworkers worker hworker
    rfl
  have hcallsZero : ∀ call ∈ calls, ThreadPhase.at p call = 0 := by
    intro call hcall
    have hreturned := hcalls call hcall
    cases call with
    | outside point => rfl
    | executing task phase => cases hreturned
  rw [threadsAt, total_eq_zero hworkersZero, total_eq_zero hcallsZero]

/-- With the queue empty and no thread in a task, all that is accepted has been executed. -/
theorem PoolAccounts.done {s : PoolThreads} (h : PoolAccounts s) (htasks : s.tasks = [])
    (hworkers : ∀ worker ∈ s.workers, ∃ point, worker = .outside point)
    (hcalls : ∀ call ∈ s.calls, call.isReturned = true) : s.Done where
  tasks := htasks
  once task := by
    have hledger := h.ledger task
    rw [htasks, PoolThreads.executingTask, threadsAt_eq_zero _ hworkers hcalls, List.count_nil, Nat.zero_add] at hledger
    rw [hledger]
    change _ = if s.calls[task]?.any EnqueuePhase.accepted = true then 1 else 0
    cases hcall : s.calls[task]? with
    | none => rfl
    | some call =>
      have hreturned := hcalls call (List.mem_of_getElem? hcall)
      rw [Option.any_some, Option.any_some, EnqueuePhase.accepted, hreturned, Bool.true_and]
  executed := by
    have hsubmitted := h.submitted
    rw [htasks, PoolThreads.executing, threadsAt_eq_zero _ hworkers hcalls] at hsubmitted
    rw [hsubmitted]
    exact (Nat.zero_add _).symm
  executions := by
    rw [← h.executed, threadsAt_eq_zero _ hworkers hcalls]
    rfl
  exceptions := h.exceptions

theorem PoolThreads.Stuck.calls {s : PoolThreads} (h : s.Stuck) : ∀ call ∈ s.calls, call.isReturned = true := by
  intro call hmem
  obtain ⟨i, hcall⟩ := List.getElem?_of_mem hmem
  match call with
  | .outside (.returned _) => rfl
  | .outside .notifying =>
    by_cases hwaiting : .outside .waiting ∈ s.workers
    · obtain ⟨worker, hworker⟩ := List.getElem?_of_mem hwaiting
      simpa [PoolThreads.exec, hcall, hworker] using h (.notifyOne i (some worker)) rfl
    · simpa [PoolThreads.exec, hcall, hwaiting] using h (.notifyOne i none) rfl
  | .outside .submitting => simpa [PoolThreads.exec, hcall] using h (.submit i) rfl
  | .executing task .calling => simpa [PoolThreads.exec, hcall] using h (.callerFinish i false) rfl
  | .executing task .counting => simpa [PoolThreads.exec, hcall] using h (.callerCount i) rfl

theorem PoolThreads.Stuck.workers {s : PoolThreads} (h : s.Stuck) :
    ∀ worker ∈ s.workers, worker = .outside .waiting ∨ worker = .outside .returned := by
  intro worker hmem
  obtain ⟨i, hworker⟩ := List.getElem?_of_mem hmem
  match worker with
  | .outside .waiting => exact .inl rfl
  | .outside .returned => exact .inr rfl
  | .outside .locking => simpa [PoolThreads.exec, hworker] using h (.takeTask i) rfl
  | .executing task .calling => simpa [PoolThreads.exec, hworker] using h (.workerFinish i false) rfl
  | .executing task .counting => simpa [PoolThreads.exec, hworker] using h (.workerCount i) rfl

/-- Threads come to rest with the queue empty: a task in it would have somebody awake to see to it. -/
private theorem PoolShutdown.tasks_of_stuck {s : PoolThreads} (h : PoolShutdown s) (hstuck : s.Stuck) :
    s.tasks = [] := by
  rcases h.awake with hempty | ⟨worker, hworker, hawake⟩ | hnotifying
  · exact hempty
  · rcases hstuck.workers worker hworker with rfl | rfl
    · exact absurd rfl hawake
    · exact (h.left (.inl hworker)).2
  · exact absurd (hstuck.calls _ hnotifying) nofun

/-- Threads come to rest with `Stop` back: the workers it waits for have been woken. -/
private theorem PoolShutdown.stop_of_stuck {s : PoolThreads} (h : PoolShutdown s) (hstuck : s.Stuck) :
    s.stop = .notCalled ∨ s.stop = .returned := by
  cases hstop : s.stop with
  | notCalled => exact .inl rfl
  | returned => exact .inr rfl
  | notifying => simpa [PoolThreads.exec, hstop] using hstuck .notifyAll rfl
  | swapping => simpa [PoolThreads.exec, hstop] using hstuck .swap rfl
  | joining =>
    have hreturned : ∀ worker ∈ s.workers, worker = .outside .returned := by
      intro worker hworker
      rcases hstuck.workers worker hworker with rfl | rfl
      · rcases h.asleep hworker with hearly | hearly <;> cases hstop.symm.trans hearly
      · rfl
    have hjoin := hstuck .join rfl
    rw [PoolThreads.exec, if_pos ⟨hstop, hreturned⟩] at hjoin
    cases hjoin

private theorem wakeUp_work_le (worker : WorkerPhase) :
    (wakeUp worker).work WorkerPoint.work ≤ worker.work WorkerPoint.work + 1 := by
  unfold wakeUp
  split
  · next hwaiting =>
    rw [hwaiting]
    exact Nat.le_refl _
  · exact Nat.le_succ _

/-- Every step that a thread takes by itself leaves less to do. -/
theorem PoolStep.work_lt {s s' : PoolThreads} {op : PoolOp} (hstep : PoolStep s op s') (hop : op.isInternal = true) :
    s'.work < s.work := by
  unfold PoolThreads.work
  cases hstep with
  | refuse | callerRuns | queue | wake | stop | stopAgain => cases hop
  | notify hcall hworker =>
    have hworkers : _ + 0 = _ + 1 := total_set (ThreadPhase.work WorkerPoint.work) hworker (.outside .locking)
    have hcalls : _ + 2 = _ + 0 := total_set (ThreadPhase.work EnqueuePoint.work) hcall (.outside (.returned .ok))
    simp only [List.length_set]
    omega
  | notifyNobody hcall =>
    have hcalls : _ + 2 = _ + 0 := total_set (ThreadPhase.work EnqueuePoint.work) hcall (.outside (.returned .ok))
    simp only
    omega
  | @submit call hcall =>
    have hcalls : _ + 4 = _ + 3 := total_set (ThreadPhase.work EnqueuePoint.work) hcall (.executing call .calling)
    simp only
    omega
  | @callerFinish call task threw hcall =>
    have hcalls : _ + 3 = _ + 2 := total_set (ThreadPhase.work EnqueuePoint.work) hcall (.executing task .counting)
    simp only [PoolThreads.finishTask]
    omega
  | callerCount hcall =>
    have hcalls : _ + 2 = _ + 0 :=
      total_set (ThreadPhase.work EnqueuePoint.work) hcall (.outside (.returned .threadTaskRejected))
    simp only
    omega
  | sleep hworker =>
    have hworkers : _ + 1 = _ + 0 := total_set (ThreadPhase.work WorkerPoint.work) hworker (.outside .waiting)
    simp only [List.length_set]
    omega
  | leave hworker =>
    have hworkers : _ + 1 = _ + 0 := total_set (ThreadPhase.work WorkerPoint.work) hworker (.outside .returned)
    simp only [List.length_set]
    omega
  | @take worker task rest hworker htasks =>
    have hworkers : _ + 1 = _ + 3 := total_set (ThreadPhase.work WorkerPoint.work) hworker (.executing task .calling)
    simp only [List.length_set, htasks, List.length_cons]
    omega
  | @workerFinish worker task threw hworker =>
    have hworkers : _ + 3 = _ + 2 := total_set (ThreadPhase.work WorkerPoint.work) hworker (.executing task .counting)
    simp only [PoolThreads.finishTask, List.length_set]
    omega
  | workerCount hworker =>
    have hworkers : _ + 2 = _ + 1 := total_set (ThreadPhase.work WorkerPoint.work) hworker (.outside .locking)
    simp only [List.length_set]
    omega
  | notifyAll hstop =>
    have hwoken : total (ThreadPhase.work WorkerPoint.work) (s.workers.map wakeUp) ≤
        total (ThreadPhase.work WorkerPoint.work) s.workers + s.workers.length :=
      total_map_le wakeUp_work_le s.workers
    simp only [hstop, StopPhase.work]
    omega
  | join hstop =>
    simp only [hstop, StopPhase.work, total_nil]
    omega
  | swap hstop =>
    simp only [hstop, StopPhase.work, List.length_nil]
    omega

private theorem work_of_run {s s' : PoolThreads} {ops : List PoolOp}
    (hrun : Run (fun s op s' => op.isInternal = true ∧ s.exec op = some s') s ops s') :
    ops.length + s'.work ≤ s.work := by
  induction hrun with
  | refl => exact Nat.le_of_eq (Nat.zero_add _)
  | snoc _ hstep ih =>
    have hlt := (PoolStep.of_exec hstep.2).work_lt hstep.1
    rw [List.length_append, List.length_singleton]
    omega

/-! ### Runs -/

/-- A pool that has not been started, or has been stopped. -/
structure ThreadPool.Idle (pool : ThreadPool) : Prop where
  running : pool.running = false
  workers : pool.workers = []
  tasks : pool.tasks = []

private theorem createWorkers_of_ok {setPriority : Nat → Int32 → Bool} {pool created : ThreadPool} {count : Nat}
    (h : pool.createWorkers setPriority count = (.ok, created)) :
    created = { pool with workers := pool.workers ++ List.replicate count (.outside .locking) } := by
  induction count generalizing pool with
  | zero =>
    cases h
    rw [List.replicate_zero, List.append_nil]
  | succ count ih =>
    rw [ThreadPool.createWorkers] at h
    split at h
    · cases h
    · rw [ih h, List.replicate_succ, ← List.append_cons]

/-- A pool that has just been started. -/
structure ThreadPool.Started (config : ThreadConfig) (pool : ThreadPool) : Prop where
  running : pool.running = true
  tasks : pool.tasks = []
  workers : pool.workers = List.replicate config.workerCount (.outside .locking)
  workerCount : config.workerCount ≠ 0
  capacity : pool.queueCapacity = config.queueCapacity
  queueCapacity : config.queueCapacity ≠ 0
  submitted : pool.submittedCount = 0
  executed : pool.executedCount = 0
  exceptions : pool.taskExceptionCount = 0

theorem start_of_ok {setPriority : Nat → Int32 → Bool} {config : ThreadConfig} {pool started : ThreadPool}
    (hidle : pool.Idle) (h : pool.start setPriority config = (.ok, started)) : started.Started config := by
  unfold ThreadPool.start at h
  split at h
  · cases h
  next hconfig =>
  rw [hidle.running, if_neg Bool.false_ne_true] at h
  rw [createWorkers_of_ok h, hidle.workers, List.nil_append]
  exact ⟨rfl, hidle.tasks, rfl, fun hzero => hconfig (.inl hzero), rfl, fun hzero => hconfig (.inr hzero), rfl, rfl,
    rfl⟩

theorem ThreadPool.Started.accounts {config : ThreadConfig} {pool : ThreadPool} (h : pool.Started config) :
    PoolAccounts { toThreadPool := pool } := by
  have hthreads : ∀ p, threadsAt p pool.workers [] = 0 := by
    intro p
    rw [h.workers]
    exact threadsAt_eq_zero p (fun worker hworker => ⟨_, List.eq_of_mem_replicate hworker⟩)
      fun _ hcall => absurd hcall List.not_mem_nil
  refine ⟨?_, ?_, fun task => ?_, h.submitted, ?_, ?_, h.exceptions⟩
  · rw [h.tasks]
    exact Nat.zero_le _
  · rw [h.tasks]
    rfl
  · rw [h.tasks, PoolThreads.executingTask, hthreads]
    rfl
  · rw [h.submitted, h.tasks, PoolThreads.executing, hthreads, h.executed]
    rfl
  · rw [h.executed, hthreads]
    rfl

theorem ThreadPool.Started.shutdown {config : ThreadConfig} {pool : ThreadPool} (h : pool.Started config) :
    PoolShutdown { toThreadPool := pool } := by
  have hworkers : pool.workers ≠ [] := by
    rw [h.workers, Ne, List.replicate_eq_nil_iff]
    exact h.workerCount
  refine ⟨iff_of_true h.running rfl, fun hleft => ?_, iff_of_false hworkers nofun, .inl h.tasks, fun _ => .inl rfl⟩
  rcases hleft with hmem | hstop
  · simp only [h.workers] at hmem
    exact absurd (List.eq_of_mem_replicate hmem) nofun
  · exact hstop.elim nofun nofun

theorem PoolAccounts.run {s s' : PoolThreads} {ops : List PoolOp} (h : PoolAccounts s ∧ PoolShutdown s)
    (hrun : Run (fun s op s' => s.exec op = some s') s ops s') : PoolAccounts s' ∧ PoolShutdown s' :=
  hrun.invariant (I := fun s => PoolAccounts s ∧ PoolShutdown s)
    (fun _ _ _ h hstep => ⟨h.1.step h.2 (.of_exec hstep), h.2.step (.of_exec hstep)⟩) h

private theorem nothingLost_of_invariants {s : PoolThreads} (haccounts : PoolAccounts s) (hshutdown : PoolShutdown s) :
    s.NothingLost where
  capacity := haccounts.capacity
  submissionOrder := haccounts.order
  accepted task haccepted := by
    have hledger := haccounts.ledger task
    unfold PoolThreads.Accepted at haccepted
    cases hcall : s.calls[task]? with
    | none =>
      rw [hcall] at haccepted
      cases haccepted
    | some call =>
      rw [hcall, Option.any_some, EnqueuePhase.accepted, Bool.and_eq_true] at haccepted
      rwa [hcall, Option.any_some, haccepted.2, if_pos rfl] at hledger
  refused task hrefused := by
    have hledger := haccounts.ledger task
    rw [hrefused, if_neg Bool.false_ne_true] at hledger
    refine ⟨fun hmem => ?_, by omega, by omega⟩
    have hpos := List.count_pos_iff.2 hmem
    omega
  submitted := haccounts.submitted
  settled hsettled := by
    refine haccounts.done (hshutdown.left (.inr (.inr hsettled.stop))).2 (fun worker hworker => ?_) hsettled.calls
    rw [hshutdown.workers.2 (.inr hsettled.stop)] at hworker
    cases hworker
  drains ops s' hrun := by
    refine ⟨Nat.le_of_add_right_le (work_of_run hrun), fun hstuck => ?_⟩
    obtain ⟨haccounts', hshutdown'⟩ := hrun.invariant (I := fun s => PoolAccounts s ∧ PoolShutdown s)
      (fun _ _ _ h hstep => ⟨h.1.step h.2 (.of_exec hstep.2), h.2.step (.of_exec hstep.2)⟩) ⟨haccounts, hshutdown⟩
    refine ⟨haccounts'.done (hshutdown'.tasks_of_stuck hstuck) (fun worker hworker => ?_) hstuck.calls,
      hshutdown'.stop_of_stuck hstuck⟩
    rcases hstuck.workers worker hworker with rfl | rfl <;> exact ⟨_, rfl⟩

/-- **A pool loses nothing**: whatever the order in which the calls, the workers and `Stop` take their steps. -/
theorem pool_nothingLost {setPriority : Nat → Int32 → Bool} {config : ThreadConfig} {pool started : ThreadPool}
    {ops : List PoolOp} {s : PoolThreads} (hidle : pool.Idle) (hstart : pool.start setPriority config = (.ok, started))
    (hrun : Run (fun s op s' => s.exec op = some s') { toThreadPool := started } ops s) : s.NothingLost := by
  have h := start_of_ok hidle hstart
  obtain ⟨haccounts, hshutdown⟩ := PoolAccounts.run ⟨h.accounts, h.shutdown⟩ hrun
  exact nothingLost_of_invariants haccounts hshutdown

/-- One worker, and room for one task. -/
def narrowPool : ThreadConfig :=
  { workerCount := 1, queueCapacity := 1, rejectionPolicy := .callerRuns }

/-- The third caller executes its task itself, and that throws. -/
theorem pool_nothingLost_callerRuns :
    ∃ started ops s, ThreadPool.start (fun _ _ => true) narrowPool {} = (.ok, started) ∧
      Run (fun s op s' => PoolThreads.exec s op = some s') { toThreadPool := started } ops s ∧
      s.executions = [(2, true), (0, false), (1, false)] ∧ s.stop = .returned ∧ s.NothingLost := by
  have hrun : Run (fun s op s' => PoolThreads.exec s op = some s')
      { toThreadPool := (ThreadPool.start (fun _ _ => true) narrowPool {}).2 }
      [.takeTask 0, .enqueue false, .notifyOne 0 (some 0), .takeTask 0, .enqueue false, .enqueue false, .submit 2,
        .stop, .callerFinish 2 true, .notifyAll, .workerFinish 0 false, .callerCount 2, .workerCount 0,
        .notifyOne 1 none, .takeTask 0, .workerFinish 0 false, .workerCount 0, .takeTask 0, .join, .swap] _ :=
    Run.of_foldlM rfl
  have hstart : ThreadPool.start (fun _ _ => true) narrowPool {} = (.ok, _) := rfl
  exact ⟨_, _, _, hstart, hrun, rfl, rfl, pool_nothingLost ⟨rfl, rfl, rfl⟩ hstart hrun⟩

end VehicleBridge
