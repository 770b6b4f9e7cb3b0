import VehicleBridge.Core.ThreadPool
import VehicleBridge.Lib.Threads

/-!
# Accounts of a thread pool

A task that the pool has accepted is in one place: in the queue, with a thread that executes it, or among the executed
ones (`PoolAccounts.ledger`), and the counters say how many tasks there are where.  There is a lemma for each way in
which a step may move a task.
-/

namespace VehicleBridge

open Threads

/-! ### Standing of calls and threads -/

def EnqueuePhase.queued : EnqueuePhase → Bool
  | .outside .notifying | .outside (.returned .ok) => true
  | _ => false

/-- The pool has accepted the task: the call has returned `kOk` or `kThreadTaskRejected`, or is about to. -/
def EnqueuePhase.submitted : EnqueuePhase → Bool
  | .outside .notifying | .outside (.returned .ok) | .executing .. | .outside (.returned .threadTaskRejected) => true
  | _ => false

def EnqueuePhase.isReturned : EnqueuePhase → Bool
  | .outside (.returned _) => true
  | _ => false

/-- The call has returned `kOk` or `kThreadTaskRejected`. -/
def EnqueuePhase.accepted (call : EnqueuePhase) : Bool :=
  call.isReturned && call.submitted

/-- The number of calls whose task the pool has accepted. -/
def acceptedCalls (calls : List EnqueuePhase) : Nat :=
  total (fun call => call.submitted.toNat) calls

/-- One when the thread is in `ExecuteTask` with a task and at a phase that are asked for. -/
def ThreadPhase.at {α : Type} (p : Nat → ExecutePhase → Bool) : ThreadPhase α → Nat
  | .outside _ => 0
  | .executing task phase => if p task phase then 1 else 0

/-- The number of threads in `ExecuteTask` with a task and at a phase that are asked for. -/
def threadsAt (p : Nat → ExecutePhase → Bool) (workers : List WorkerPhase) (calls : List EnqueuePhase) : Nat :=
  total (ThreadPhase.at p) workers + total (ThreadPhase.at p) calls

/-- The tasks in `ExecuteTask`. -/
def PoolThreads.executing (s : PoolThreads) : Nat :=
  threadsAt (fun _ _ => true) s.workers s.calls

def PoolThreads.executingTask (s : PoolThreads) (task : Nat) : Nat :=
  threadsAt (fun t phase => t = task && phase = .calling) s.workers s.calls

def PoolThreads.executionsOf (s : PoolThreads) (task : Nat) : Nat :=
  (s.executions.map Prod.fst).count task

def PoolThreads.Accepted (s : PoolThreads) (task : Nat) : Prop :=
  s.calls[task]?.any EnqueuePhase.accepted

instance PoolThreads.instDecidableAccepted (s : PoolThreads) (task : Nat) : Decidable (s.Accepted task) :=
  inferInstanceAs (Decidable (_ = true))

/-- The tasks that have been put into the queue, in the order of their calls. -/
def queuedTasks (calls : List EnqueuePhase) : List Nat :=
  (List.range calls.length).filter fun task => calls[task]?.any EnqueuePhase.queued

/-! ### Accounts -/

/-- What the counters and the places of the tasks say of each other. -/
structure PoolAccounts (s : PoolThreads) : Prop where
  capacity : s.tasks.length ≤ s.queueCapacity
  order : s.taken ++ s.tasks = queuedTasks s.calls
  ledger : ∀ task, s.tasks.count task + s.executingTask task + s.executionsOf task =
    if s.calls[task]?.any EnqueuePhase.submitted then 1 else 0
  accepted : s.submittedCount = acceptedCalls s.calls
  submitted : s.submittedCount = s.tasks.length + s.executing + s.executedCount
  executed : s.executedCount + threadsAt (fun _ phase => phase = .counting) s.workers s.calls = s.executions.length
  exceptions : s.taskExceptionCount = (s.executions.filter Prod.snd).length

/-- The calls of two states have the same standing with the pool. -/
structure SameStanding (calls calls' : List EnqueuePhase) : Prop where
  queued : queuedTasks calls' = queuedTasks calls
  submitted : ∀ j : Nat, calls'[j]?.any EnqueuePhase.submitted = calls[j]?.any EnqueuePhase.submitted
  accepted : acceptedCalls calls' = acceptedCalls calls

theorem SameStanding.refl (calls : List EnqueuePhase) : SameStanding calls calls :=
  ⟨rfl, fun _ => rfl, rfl⟩

private theorem acceptedCalls_set {calls : List EnqueuePhase} {call : Nat} {phase : EnqueuePhase}
    (hcall : calls[call]? = some phase) (phase' : EnqueuePhase) :
    acceptedCalls (calls.set call phase') + phase.submitted.toNat = acceptedCalls calls + phase'.submitted.toNat :=
  total_set _ hcall phase'

theorem acceptedCalls_le_length (calls : List EnqueuePhase) : acceptedCalls calls ≤ calls.length :=
  total_le_length (fun call => call.submitted.toNat_le) calls

private theorem acceptedCalls_append (calls : List EnqueuePhase) (call : EnqueuePhase) :
    acceptedCalls (calls ++ [call]) = acceptedCalls calls + call.submitted.toNat := by
  rw [acceptedCalls, total_append, total_singleton]
  rfl

private theorem queuedTasks_append (calls : List EnqueuePhase) (call : EnqueuePhase) :
    queuedTasks (calls ++ [call]) = queuedTasks calls ++ if call.queued then [calls.length] else [] := by
  unfold queuedTasks
  rw [List.length_append, List.length_singleton, List.range_succ, List.filter_append]
  congr 1
  · refine List.filter_congr fun j hj => ?_
    rw [any_append_singleton, if_neg (Nat.ne_of_lt (List.mem_range.1 hj))]
  · rw [List.filter_singleton, any_append_singleton, if_pos rfl, Bool.cond_eq_ite]

private theorem queuedTasks_set {calls : List EnqueuePhase} {call : Nat} {phase phase' : EnqueuePhase}
    (hcall : calls[call]? = some phase) (h : phase'.queued = phase.queued) :
    queuedTasks (calls.set call phase') = queuedTasks calls := by
  unfold queuedTasks
  rw [List.length_set]
  exact List.filter_congr fun j _ => any_set hcall h j

theorem SameStanding.set {calls : List EnqueuePhase} {call : Nat} {phase : EnqueuePhase}
    (hcall : calls[call]? = some phase) (phase' : EnqueuePhase) (hqueued : phase'.queued = phase.queued)
    (hsubmitted : phase'.submitted = phase.submitted) : SameStanding calls (calls.set call phase') :=
  ⟨queuedTasks_set hcall hqueued, any_set hcall hsubmitted,
    Nat.add_right_cancel (hsubmitted ▸ acceptedCalls_set hcall phase')⟩

theorem SameStanding.append (calls : List EnqueuePhase) {call : EnqueuePhase} (hqueued : call.queued = false)
    (hsubmitted : call.submitted = false) : SameStanding calls (calls ++ [call]) := by
  refine ⟨?_, fun j => ?_, by rw [acceptedCalls_append, hsubmitted]; rfl⟩
  · rw [queuedTasks_append, hqueued]
    exact List.append_nil _
  · rw [any_append_singleton]
    split
    · next hnew =>
      rw [hsubmitted, List.getElem?_eq_none (Nat.le_of_eq hnew.symm)]
      rfl
    · rfl

theorem threadsAt_worker (p : Nat → ExecutePhase → Bool) {workers : List WorkerPhase} {worker : Nat}
    {phase : WorkerPhase} (hworker : workers[worker]? = some phase) (calls : List EnqueuePhase)
    (phase' : WorkerPhase) :
    threadsAt p (workers.set worker phase') calls + phase.at p = threadsAt p workers calls + phase'.at p := by
  have htotal := total_set (ThreadPhase.at p) hworker phase'
  unfold threadsAt
  omega

theorem threadsAt_call (p : Nat → ExecutePhase → Bool) {calls : List EnqueuePhase} {call : Nat}
    {phase : EnqueuePhase} (hcall : calls[call]? = some phase) (workers : List WorkerPhase)
    (phase' : EnqueuePhase) :
    threadsAt p workers (calls.set call phase') + phase.at p = threadsAt p workers calls + phase'.at p := by
  have htotal := total_set (ThreadPhase.at p) hcall phase'
  unfold threadsAt
  omega

theorem threadsAt_append (p : Nat → ExecutePhase → Bool) (workers : List WorkerPhase) (calls : List EnqueuePhase)
    (point : EnqueuePoint) : threadsAt p workers (calls ++ [.outside point]) = threadsAt p workers calls := by
  unfold threadsAt
  rw [total_append, total_singleton]
  rfl

theorem wakeUp_at (p : Nat → ExecutePhase → Bool) (worker : WorkerPhase) :
    (ThreadPhase.at p ∘ wakeUp) worker = worker.at p := by
  unfold Function.comp wakeUp
  split
  · next hwaiting =>
    rw [hwaiting]
    rfl
  · rfl

/-- A step in which no task moves and nothing is counted. -/
theorem PoolAccounts.same {s : PoolThreads} (h : PoolAccounts s) {workers : List WorkerPhase}
    {calls : List EnqueuePhase} (hthreads : ∀ p, threadsAt p workers calls = threadsAt p s.workers s.calls)
    (hcalls : SameStanding s.calls calls) (rejectedCount : Nat) (running : Bool) (stop : StopPhase) :
    PoolAccounts { s with workers, calls, rejectedCount, running, stop } where
  capacity := h.capacity
  order := h.order.trans hcalls.queued.symm
  ledger task := by
    have hledger := h.ledger task
    rw [PoolThreads.executingTask, ← hthreads, ← hcalls.submitted] at hledger
    exact hledger
  accepted := h.accepted.trans hcalls.accepted.symm
  submitted := by
    have hsubmitted := h.submitted
    rw [PoolThreads.executing, ← hthreads] at hsubmitted
    exact hsubmitted
  executed := by
    rw [hthreads]
    exact h.executed
  exceptions := h.exceptions

/-- A thread gets to the end of its task. -/
theorem PoolAccounts.finish {s : PoolThreads} (h : PoolAccounts s) (task : Nat) (threw : Bool)
    {workers : List WorkerPhase} {calls : List EnqueuePhase}
    (hthreads : ∀ p, threadsAt p workers calls + (if p task .calling then 1 else 0) =
      threadsAt p s.workers s.calls + if p task .counting then 1 else 0)
    (hcalls : SameStanding s.calls calls) :
    PoolAccounts { s.finishTask task threw with workers, calls } where
  capacity := h.capacity
  order := h.order.trans hcalls.queued.symm
  ledger j := by
    have hcount := hthreads fun t phase => t = j && phase = .calling
    have hledger := h.ledger j
    have hexecutions : ((s.executions ++ [(task, threw)]).map Prod.fst).count j =
        s.executionsOf j + if task = j then 1 else 0 := by
      rw [List.map_append, List.count_append, PoolThreads.executionsOf]
      simp only [List.map_cons, List.map_nil, List.count_singleton, beq_iff_eq]
    simp only [decide_true, Bool.and_true, decide_eq_true_eq, reduceCtorEq, decide_false, Bool.and_false,
      Bool.false_eq_true, if_false] at hcount
    rw [← hcalls.submitted] at hledger
    refine Eq.trans ?_ hledger
    simp only [PoolThreads.executingTask, PoolThreads.executionsOf, PoolThreads.finishTask] at hexecutions ⊢
    omega
  accepted := h.accepted.trans hcalls.accepted.symm
  submitted := by
    have hcount : _ + 1 = _ + 1 := hthreads fun _ _ => true
    have hsubmitted := h.submitted
    rw [PoolThreads.executing, ← Nat.succ.inj hcount] at hsubmitted
    exact hsubmitted
  executed := by
    have hcount : _ + 0 = _ + 1 := hthreads fun _ phase => phase = .counting
    have hexecuted := h.executed
    simp only [PoolThreads.finishTask, List.length_append, List.length_singleton]
    omega
  exceptions := by
    have hexceptions := h.exceptions
    simp only [PoolThreads.finishTask, List.filter_append, List.length_append]
    cases threw with
    | true => exact congrArg (· + 1) hexceptions
    | false => exact hexceptions

/-- A thread adds the task it has executed to `executed_count_`. -/
theorem PoolAccounts.count {s : PoolThreads} (h : PoolAccounts s) (task : Nat)
    {workers : List WorkerPhase} {calls : List EnqueuePhase}
    (hthreads : ∀ p, threadsAt p workers calls + (if p task .counting then 1 else 0) =
      threadsAt p s.workers s.calls)
    (hcalls : SameStanding s.calls calls) :
    PoolAccounts { s with executedCount := s.executedCount + 1, workers, calls } where
  capacity := h.capacity
  order := h.order.trans hcalls.queued.symm
  ledger j := by
    have hcount : _ + (if decide (task = j) && false then 1 else 0) = _ :=
      hthreads fun t phase => t = j && phase = .calling
    have hledger := h.ledger j
    rw [Bool.and_false, if_neg Bool.false_ne_true, Nat.add_zero] at hcount
    rw [PoolThreads.executingTask, ← hcalls.submitted, ← hcount] at hledger
    exact hledger
  accepted := h.accepted.trans hcalls.accepted.symm
  submitted := by
    have hcount : _ + 1 = _ := hthreads fun _ _ => true
    have hsubmitted := h.submitted
    simp only [PoolThreads.executing] at hsubmitted ⊢
    omega
  executed := by
    have hcount : _ + 1 = _ := hthreads fun _ phase => phase = .counting
    have hexecuted := h.executed
    simp only
    omega
  exceptions := h.exceptions

/-- A call puts its task into the queue. -/
theorem PoolAccounts.queue {s : PoolThreads} (h : PoolAccounts s) (hfree : s.tasks.length < s.queueCapacity) :
    PoolAccounts { s with
      tasks := s.tasks ++ [s.calls.length]
      submittedCount := s.submittedCount + 1
      calls := s.calls ++ [.outside .notifying] } where
  capacity := by
    simp only [List.length_append, List.length_singleton]
    exact hfree
  order := by
    rw [queuedTasks_append, ← h.order, List.append_assoc]
    rfl
  ledger j := by
    have hledger := h.ledger j
    simp only [PoolThreads.executingTask, PoolThreads.executionsOf, threadsAt_append, any_append_singleton,
      List.count_append, List.count_singleton, beq_iff_eq] at hledger ⊢
    by_cases hnew : j = s.calls.length
    · subst hnew
      rw [List.getElem?_eq_none (Nat.le_refl _)] at hledger
      simp only [Option.any_none, Bool.false_eq_true, if_false, if_true, EnqueuePhase.submitted] at hledger ⊢
      omega
    · rw [if_neg hnew, if_neg (Ne.symm hnew)]
      exact hledger
  accepted := by
    rw [acceptedCalls_append, ← h.accepted]
    rfl
  submitted := by
    have hsubmitted := h.submitted
    simp only [PoolThreads.executing, threadsAt_append, List.length_append, List.length_singleton] at hsubmitted ⊢
    omega
  executed := by
    rw [threadsAt_append]
    exact h.executed
  exceptions := h.exceptions

/-- A call whose task the queue has no room for executes it. -/
theorem PoolAccounts.submit {s : PoolThreads} (h : PoolAccounts s) {call : Nat}
    (hcall : s.calls[call]? = some (.outside .submitting)) :
    PoolAccounts { s with
      submittedCount := s.submittedCount + 1
      calls := s.calls.set call (.executing call .calling) } where
  capacity := h.capacity
  order := by
    have hqueued : queuedTasks (s.calls.set call (.executing call .calling)) = queuedTasks s.calls :=
      queuedTasks_set hcall rfl
    exact h.order.trans hqueued.symm
  ledger j := by
    have hledger := h.ledger j
    have hcount := threadsAt_call (fun t phase => t = j && phase = .calling) hcall s.workers (.executing call .calling)
    simp only [PoolThreads.executingTask, PoolThreads.executionsOf, any_set_of_some _ hcall, ThreadPhase.at,
      decide_true, Bool.and_true, decide_eq_true_eq] at hledger hcount ⊢
    by_cases hown : j = call
    · subst hown
      rw [hcall] at hledger
      simp only [Option.any_some, Bool.false_eq_true, if_false, if_true, EnqueuePhase.submitted] at hledger hcount ⊢
      omega
    · rw [if_neg (Ne.symm hown)] at hcount
      rw [if_neg hown]
      omega
  accepted := by
    have hcalls : _ + 0 = _ + 1 := acceptedCalls_set hcall (.executing call .calling)
    rw [h.accepted]
    exact hcalls.symm
  submitted := by
    have hsubmitted := h.submitted
    have hcount : _ + 0 = _ + 1 :=
      threadsAt_call (fun _ _ => true) hcall s.workers (.executing call .calling)
    simp only [PoolThreads.executing] at hsubmitted ⊢
    omega
  executed := by
    have hcount : _ + 0 = _ + 0 :=
      threadsAt_call (fun _ phase => phase = .counting) hcall s.workers (.executing call .calling)
    have hexecuted := h.executed
    simp only
    omega
  exceptions := h.exceptions

/-- A worker takes the first task of the queue. -/
theorem PoolAccounts.take {s : PoolThreads} (h : PoolAccounts s) {worker task : Nat} {rest : List Nat}
    (hworker : s.workers[worker]? = some (.outside .locking)) (htasks : s.tasks = task :: rest) :
    PoolAccounts { s with
      workers := s.workers.set worker (.executing task .calling)
      tasks := rest
      taken := s.taken ++ [task] } where
  capacity := by
    have hcapacity := h.capacity
    rw [htasks] at hcapacity
    exact Nat.le_of_succ_le hcapacity
  order := by
    rw [← h.order, htasks, List.append_assoc]
    rfl
  ledger j := by
    have hledger := h.ledger j
    have hcount := threadsAt_worker (fun t phase => t = j && phase = .calling) hworker s.calls
      (.executing task .calling)
    simp only [PoolThreads.executingTask, PoolThreads.executionsOf, htasks, List.count_cons, beq_iff_eq, ThreadPhase.at,
      decide_true, Bool.and_true, decide_eq_true_eq] at hledger hcount ⊢
    omega
  accepted := h.accepted
  submitted := by
    have hsubmitted := h.submitted
    have hcount : _ + 0 = _ + 1 :=
      threadsAt_worker (fun _ _ => true) hworker s.calls (.executing task .calling)
    simp only [PoolThreads.executing, htasks, List.length_cons] at hsubmitted ⊢
    omega
  executed := by
    have hcount : _ + 0 = _ + 0 :=
      threadsAt_worker (fun _ phase => phase = .counting) hworker s.calls (.executing task .calling)
    have hexecuted := h.executed
    simp only
    omega
  exceptions := h.exceptions

/-- A queue that is given up is empty. -/
theorem PoolAccounts.swap {s : PoolThreads} (h : PoolAccounts s) (htasks : s.tasks = []) (stop : StopPhase) :
    PoolAccounts { s with tasks := [], stop } := by
  have hthreads : ∀ p, threadsAt p s.workers s.calls = threadsAt p s.workers s.calls := fun _ => rfl
  have hsame := h.same hthreads (.refl s.calls) s.rejectedCount s.running stop
  rw [← htasks]
  exact hsame

end VehicleBridge
