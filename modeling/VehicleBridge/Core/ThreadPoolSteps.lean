import VehicleBridge.Core.ThreadPool

/-!
# Steps of a thread pool

`PoolStep` lists what each step of `PoolThreads.exec` finds and leaves.
-/

namespace VehicleBridge

/-- The steps of `PoolThreads.exec`, with what each of them finds. -/
inductive PoolStep (s : PoolThreads) : PoolOp → PoolThreads → Prop
  | refuse {isEmpty : Bool} {ec : ErrorCode} (rejected : Nat) :
      ec ≠ .ok → ec ≠ .threadTaskRejected →
      PoolStep s (.enqueue isEmpty)
        { s with rejectedCount := rejected, calls := s.calls ++ [.outside (.returned ec)] }
  | callerRuns :
      PoolStep s (.enqueue false)
        { s with rejectedCount := s.rejectedCount + 1, calls := s.calls ++ [.outside .submitting] }
  | queue :
      s.running = true → s.tasks.length < s.queueCapacity →
      PoolStep s (.enqueue false)
        { s with
          tasks := s.tasks ++ [s.calls.length]
          submittedCount := s.submittedCount + 1
          calls := s.calls ++ [.outside .notifying] }
  | notify {call worker : Nat} :
      s.calls[call]? = some (.outside .notifying) → s.workers[worker]? = some (.outside .waiting) →
      PoolStep s (.notifyOne call (some worker))
        { s with
          workers := s.workers.set worker (.outside .locking)
          calls := s.calls.set call (.outside (.returned .ok)) }
  | notifyNobody {call : Nat} :
      s.calls[call]? = some (.outside .notifying) → .outside .waiting ∉ s.workers →
      PoolStep s (.notifyOne call none) { s with calls := s.calls.set call (.outside (.returned .ok)) }
  | submit {call : Nat} :
      s.calls[call]? = some (.outside .submitting) →
      PoolStep s (.submit call)
        { s with
          submittedCount := s.submittedCount + 1
          calls := s.calls.set call (.executing call .calling) }
  | callerFinish {call task : Nat} (threw : Bool) :
      s.calls[call]? = some (.executing task .calling) →
      PoolStep s (.callerFinish call threw)
        { s.finishTask task threw with calls := s.calls.set call (.executing task .counting) }
  | callerCount {call task : Nat} :
      s.calls[call]? = some (.executing task .counting) →
      PoolStep s (.callerCount call)
        { s with
          executedCount := s.executedCount + 1
          calls := s.calls.set call (.outside (.returned .threadTaskRejected)) }
  | sleep {worker : Nat} :
      s.workers[worker]? = some (.outside .locking) → s.running = true → s.tasks = [] →
      PoolStep s (.takeTask worker) { s with workers := s.workers.set worker (.outside .waiting) }
  | leave {worker : Nat} :
      s.workers[worker]? = some (.outside .locking) → s.running = false → s.tasks = [] →
      PoolStep s (.takeTask worker) { s with workers := s.workers.set worker (.outside .returned) }
  | take {worker task : Nat} {rest : List Nat} :
      s.workers[worker]? = some (.outside .locking) → s.tasks = task :: rest →
      PoolStep s (.takeTask worker)
        { s with
          workers := s.workers.set worker (.executing task .calling)
          tasks := rest
          taken := s.taken ++ [task] }
  | workerFinish {worker task : Nat} (threw : Bool) :
      s.workers[worker]? = some (.executing task .calling) →
      PoolStep s (.workerFinish worker threw)
        { s.finishTask task threw with workers := s.workers.set worker (.executing task .counting) }
  | workerCount {worker task : Nat} :
      s.workers[worker]? = some (.executing task .counting) →
      PoolStep s (.workerCount worker)
        { s with
          executedCount := s.executedCount + 1
          workers := s.workers.set worker (.outside .locking) }
  | wake {worker : Nat} :
      s.workers[worker]? = some (.outside .waiting) →
      PoolStep s (.wake worker) { s with workers := s.workers.set worker (.outside .locking) }
  | stop :
      s.stop = .notCalled → s.running = true → PoolStep s .stop { s with running := false, stop := .notifying }
  | stopAgain :
      s.stop = .notCalled → s.running = false → PoolStep s .stop { s with stop := .returned }
  | notifyAll :
      s.stop = .notifying → PoolStep s .notifyAll { s with workers := s.workers.map wakeUp, stop := .joining }
  | join :
      s.stop = .joining → (∀ worker ∈ s.workers, worker = .outside .returned) →
      PoolStep s .join { s with workers := [], stop := .swapping }
  | swap :
      s.stop = .swapping → PoolStep s .swap { s with tasks := [], stop := .returned }

theorem PoolStep.of_exec {s s' : PoolThreads} {op : PoolOp} (h : s.exec op = some s') : PoolStep s op s' := by
  cases op with
  | enqueue isEmpty =>
    simp only [PoolThreads.exec, ThreadPool.enqueue] at h
    split at h
    · cases h
      exact .refuse _ (by decide) (by decide)
    next hempty =>
    rw [Bool.not_eq_true] at hempty
    subst hempty
    split at h
    · cases h
      exact .refuse _ (by decide) (by decide)
    next hrunning =>
    split at h
    · split at h
      · cases h
        exact .callerRuns
      · cases h
        exact .refuse _ (by decide) (by decide)
    next hfree =>
    cases h
    exact .queue (by simpa using hrunning) (Nat.not_le.1 hfree)
  | notifyOne call woken =>
    simp only [PoolThreads.exec] at h
    split at h
    next hcall =>
      cases woken with
      | some worker =>
        simp only at h
        split at h
        · next hworker =>
          cases h
          exact .notify hcall hworker
        · cases h
      | none =>
        simp only at h
        split at h
        · cases h
        · next hnobody =>
          cases h
          exact .notifyNobody hcall hnobody
    · cases h
  | submit call =>
    simp only [PoolThreads.exec] at h
    split at h
    · next hcall =>
      cases h
      exact .submit hcall
    · cases h
  | callerFinish call threw =>
    simp only [PoolThreads.exec] at h
    split at h
    · next hcall =>
      cases h
      exact .callerFinish threw hcall
    · cases h
  | callerCount call =>
    simp only [PoolThreads.exec] at h
    split at h
    · next hcall =>
      cases h
      exact .callerCount hcall
    · cases h
  | takeTask worker =>
    simp only [PoolThreads.exec, ThreadPool.takeTask] at h
    split at h
    next hworker =>
      cases h
      split
      · next hempty =>
        have htake : s.tasks.take 1 = [] := by rw [hempty, List.take_nil]
        simp only [htake, List.append_nil]
        split
        · next hrunning => exact .sleep hworker hrunning hempty
        · next hstopped => exact .leave hworker (by simpa using hstopped) hempty
      · next task rest htasks =>
        simp only [htasks, List.take_succ_cons, List.take_zero]
        exact .take hworker htasks
    · cases h
  | workerFinish worker threw =>
    simp only [PoolThreads.exec] at h
    split at h
    · next hworker =>
      cases h
      exact .workerFinish threw hworker
    · cases h
  | workerCount worker =>
    simp only [PoolThreads.exec] at h
    split at h
    · next hworker =>
      cases h
      exact .workerCount hworker
    · cases h
  | wake worker =>
    simp only [PoolThreads.exec] at h
    split at h
    · next hworker =>
      cases h
      exact .wake hworker
    · cases h
  | stop =>
    simp only [PoolThreads.exec] at h
    split at h
    next hstop =>
      cases h
      split
      · next hrunning => exact .stop hstop hrunning
      · next hrunning => exact .stopAgain hstop (by simpa using hrunning)
    · cases h
  | notifyAll =>
    simp only [PoolThreads.exec] at h
    split at h
    · next hstop =>
      cases h
      exact .notifyAll hstop
    · cases h
  | join =>
    simp only [PoolThreads.exec] at h
    split at h
    · next hstop =>
      cases h
      exact .join hstop.1 hstop.2
    · cases h
  | swap =>
    simp only [PoolThreads.exec] at h
    split at h
    · next hstop =>
      cases h
      exact .swap hstop
    · cases h

end VehicleBridge
