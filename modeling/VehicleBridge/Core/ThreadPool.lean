import VehicleBridge.Core.ErrorCode

/-!
# Thread pool

The pool's members with what its functions do to them, and the pool together with the threads that use it: its workers,
the calls of `Enqueue` and one call of `Stop`, which take their steps in any order (`PoolThreads.exec`).  What a
function does while it holds `tasks_mutex_` is one step.
-/

namespace VehicleBridge

inductive RejectionPolicy
  | rejectNewTask
  | callerRuns
  deriving DecidableEq, Repr

structure ThreadConfig where
  workerCount : Nat := 2
  enableRealtime : Bool := false
  realtimePriority : Int32 := 10
  queueCapacity : Nat := 64
  rejectionPolicy : RejectionPolicy := .rejectNewTask
  deriving DecidableEq, Repr

/-! ### Threads -/

/-- Where `ExecuteTask` is: in the task, or behind it and before it adds to `executed_count_`. -/
inductive ExecutePhase
  | calling
  | counting
  deriving DecidableEq, Repr

/-- A thread is at a point of its own function, or in `ExecuteTask`.  Tasks go by the number of their call of
`Enqueue`. -/
inductive ThreadPhase (α : Type)
  | outside (point : α)
  | executing (task : Nat) (phase : ExecutePhase)
  deriving DecidableEq, Repr

/-- The points of `WorkerLoop`: before the mutex is locked (first, or again inside `wait`), asleep in `wait`, and
behind the loop. -/
inductive WorkerPoint
  | locking
  | waiting
  | returned
  deriving DecidableEq, Repr

/-- The points of `Enqueue` behind its section under the mutex: before `notify_one`, before a caller that runs its task
adds to `submitted_count_`, and back. -/
inductive EnqueuePoint
  | notifying
  | submitting
  | returned (ec : ErrorCode)
  deriving DecidableEq, Repr

abbrev WorkerPhase := ThreadPhase WorkerPoint

abbrev EnqueuePhase := ThreadPhase EnqueuePoint

/-- The points of `Stop`, which has cleared `running_` from the second one on. -/
inductive StopPhase
  | notCalled
  | notifying
  | joining
  | swapping
  | returned
  deriving DecidableEq, Repr

/-! ### The pool -/

structure ThreadPool where
  workers : List WorkerPhase := []
  tasks : List Nat := []
  running : Bool := false
  enableRealtime : Bool := false
  realtimePriority : Int32 := 10
  queueCapacity : Nat := 64
  rejectionPolicy : RejectionPolicy := .rejectNewTask
  submittedCount : Nat := 0
  executedCount : Nat := 0
  rejectedCount : Nat := 0
  taskExceptionCount : Nat := 0
  deriving DecidableEq, Repr

/-- `Stop` where no other thread calls the pool and its queue is empty: the workers find that and return. -/
def ThreadPool.stopAlone (pool : ThreadPool) : ThreadPool :=
  if pool.running then { pool with running := false, workers := [], tasks := [] } else pool

/-- The loop of `Start` that creates the workers; `setPriority` is the answer of `pthread_setschedparam` for a
worker. -/
def ThreadPool.createWorkers (setPriority : Nat → Int32 → Bool) (pool : ThreadPool) : Nat → ErrorCode × ThreadPool
  | 0 => (.ok, pool)
  | count + 1 =>
    let created := { pool with workers := pool.workers ++ [ThreadPhase.outside WorkerPoint.locking] }
    if created.enableRealtime && !setPriority pool.workers.length created.realtimePriority then
      (.threadPrioritySetFailed, created.stopAlone)
    else
      created.createWorkers setPriority count

def ThreadPool.start (setPriority : Nat → Int32 → Bool) (config : ThreadConfig) (pool : ThreadPool) :
    ErrorCode × ThreadPool :=
  if config.workerCount = 0 ∨ config.queueCapacity = 0 then
    (.invalidParam, pool)
  else if pool.running then
    (.ok, pool)
  else
    { pool with
      enableRealtime := config.enableRealtime
      realtimePriority := config.realtimePriority
      queueCapacity := config.queueCapacity
      rejectionPolicy := config.rejectionPolicy
      running := true
      submittedCount := 0
      executedCount := 0
      rejectedCount := 0
      taskExceptionCount := 0 : ThreadPool }.createWorkers setPriority config.workerCount

/-- `Enqueue` up to the end of its section under the mutex; a function that is empty (`!task`) does not get there. -/
def ThreadPool.enqueue (pool : ThreadPool) (task : Nat) (isEmpty : Bool) : EnqueuePhase × ThreadPool :=
  if isEmpty then
    (.outside (.returned .invalidParam), pool)
  else if !pool.running then
    (.outside (.returned .threadStartFailed), pool)
  else if pool.queueCapacity ≤ pool.tasks.length then
    let pool := { pool with rejectedCount := pool.rejectedCount + 1 }
    if pool.rejectionPolicy = .callerRuns then
      (.outside .submitting, pool)
    else
      (.outside (.returned .threadQueueFull), pool)
  else
    (.outside .notifying, { pool with tasks := pool.tasks ++ [task], submittedCount := pool.submittedCount + 1 })

/-- The section of `WorkerLoop` under the mutex: `wait` goes on with a task or without `running_`. -/
def ThreadPool.takeTask (pool : ThreadPool) : WorkerPhase × ThreadPool :=
  match pool.tasks with
  | [] => (.outside (if pool.running then .waiting else .returned), pool)
  | task :: rest => (.executing task .calling, { pool with tasks := rest })

/-- A worker that is woken goes for the mutex. -/
def wakeUp (worker : WorkerPhase) : WorkerPhase :=
  if worker = .outside .waiting then .outside .locking else worker

/-! ### A pool in use -/

/-- A pool with the calls of `Enqueue` and `Stop` that are made on it, the tasks its workers have taken, and those that
have been executed, each with whether it has thrown. -/
structure PoolThreads extends ThreadPool where
  calls : List EnqueuePhase := []
  stop : StopPhase := .notCalled
  taken : List Nat := []
  executions : List (Nat × Bool) := []
  deriving DecidableEq, Repr

/-- A task is over; `ExecuteTask` catches what it throws. -/
def PoolThreads.finishTask (s : PoolThreads) (task : Nat) (threw : Bool) : PoolThreads :=
  { s with
    taskExceptionCount := if threw then s.taskExceptionCount + 1 else s.taskExceptionCount
    executions := s.executions ++ [(task, threw)] }

/-- A step of one thread.  `wake` is a wakeup without a notification, which `wait` allows for. -/
inductive PoolOp
  | enqueue (isEmpty : Bool)
  | notifyOne (call : Nat) (woken : Option Nat)
  | submit (call : Nat)
  | callerFinish (call : Nat) (threw : Bool)
  | callerCount (call : Nat)
  | takeTask (worker : Nat)
  | workerFinish (worker : Nat) (threw : Bool)
  | workerCount (worker : Nat)
  | wake (worker : Nat)
  | stop
  | notifyAll
  | join
  | swap
  deriving DecidableEq, Repr

/-- The next state, where the step can be taken. -/
def PoolThreads.exec (s : PoolThreads) : PoolOp → Option PoolThreads
  | .enqueue isEmpty =>
    let (phase, pool) := s.toThreadPool.enqueue s.calls.length isEmpty
    some { s with toThreadPool := pool, calls := s.calls ++ [phase] }
  | .notifyOne call woken =>
    if s.calls[call]? = some (.outside .notifying) then
      match woken with
      | some worker =>
        if s.workers[worker]? = some (.outside .waiting) then
          some { s with
            workers := s.workers.set worker (.outside .locking)
            calls := s.calls.set call (.outside (.returned .ok)) }
        else none
      | none =>
        if .outside .waiting ∈ s.workers then none
        else some { s with calls := s.calls.set call (.outside (.returned .ok)) }
    else none
  | .submit call =>
    if s.calls[call]? = some (.outside .submitting) then
      some { s with
        submittedCount := s.submittedCount + 1
        calls := s.calls.set call (.executing call .calling) }
    else none
  | .callerFinish call threw =>
    match s.calls[call]? with
    | some (.executing task .calling) =>
      some { s.finishTask task threw with calls := s.calls.set call (.executing task .counting) }
    | _ => none
  | .callerCount call =>
    match s.calls[call]? with
    | some (.executing _ .counting) =>
      some { s with
        executedCount := s.executedCount + 1
        calls := s.calls.set call (.outside (.returned .threadTaskRejected)) }
    | _ => none
  | .takeTask worker =>
    if s.workers[worker]? = some (.outside .locking) then
      let (phase, pool) := s.toThreadPool.takeTask
      some { s with
        toThreadPool := { pool with workers := s.workers.set worker phase }
        taken := s.taken ++ s.tasks.take 1 }
    else none
  | .workerFinish worker threw =>
    match s.workers[worker]? with
    | some (.executing task .calling) =>
      some { s.finishTask task threw with workers := s.workers.set worker (.executing task .counting) }
    | _ => none
  | .workerCount worker =>
    match s.workers[worker]? with
    | some (.executing _ .counting) =>
      some { s with
        executedCount := s.executedCount + 1
        workers := s.workers.set worker (.outside .locking) }
    | _ => none
  | .wake worker =>
    if s.workers[worker]? = some (.outside .waiting) then
      some { s with workers := s.workers.set worker (.outside .locking) }
    else none
  | .stop =>
    if s.stop = .notCalled then
      some (if s.running then { s with running := false, stop := .notifying } else { s with stop := .returned })
    else none
  | .notifyAll =>
    if s.stop = .notifying then some { s with workers := s.workers.map wakeUp, stop := .joining } else none
  | .join =>
    if s.stop = .joining ∧ ∀ worker ∈ s.workers, worker = .outside .returned then
      some { s with workers := [], stop := .swapping }
    else none
  | .swap =>
    if s.stop = .swapping then some { s with tasks := [], stop := .returned } else none

end VehicleBridge
