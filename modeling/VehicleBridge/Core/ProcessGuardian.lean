import VehicleBridge.Core.ErrorCode
import VehicleBridge.Lib.Attempts
import VehicleBridge.Lib.FixedWidth
import Mathlib.Tactic.Common

/-!
# The process guardian

`RunWithRestart` runs a service in a child process, waits for its end, and starts it again while it does not end well,
up to a number of restarts.  A child that ends through `_exit` leaves the low eight bits of its code, so a service ends
well exactly if it returns a multiple of 256 (`exitStatus_eq_zero_iff`).  `service_supervised` says, for any answers of
`fork` and `waitpid` and any ends of the children, how often the service is started, what the guardian reports, and
which children it leaves behind.
-/

namespace VehicleBridge

open Attempts FixedWidth

/-! ### Children -/

/-- How a child process ends: `service_entry` returns a code, or a signal ends the process. -/
inductive ServiceEnd
  | returns (code : Int32)
  | killed (signal : Nat)
  deriving DecidableEq, Repr

/-- `WEXITSTATUS` of a process that has called `_exit`. -/
def exitStatus (code : Int32) : Int32 :=
  code &&& 0xFF

/-- `WIFEXITED(status) && WEXITSTATUS(status) == 0`. -/
def ServiceEnd.clean : ServiceEnd → Bool
  | .returns code => decide (exitStatus code = 0)
  | .killed _ => false

/-- What a turn of the loop meets: does `fork` make a process, how does it end, and does `waitpid` say so? -/
structure ServiceTurn where
  forks : Bool
  service : ServiceEnd
  reaps : Bool
  deriving DecidableEq, Repr

/-- A process that the guardian has started, and whether it has been waited for. -/
structure ServiceChild where
  service : ServiceEnd
  reaped : Bool
  deriving DecidableEq, Repr

/-- A call of `RunWithRestart`: its answer, if it has returned, what it has written to `final_status`, and the processes
it has started. -/
structure GuardianRun where
  result : Option ErrorCode := none
  finalStatus : Option Int32 := none
  children : List ServiceChild := []
  deriving DecidableEq, Repr

def ServiceTurn.child (turn : ServiceTurn) : ServiceChild :=
  { service := turn.service, reaped := turn.reaps }

/-- The loop, from a restart count on.  Where the list of turns is over, a child is still running. -/
def superviseFrom (maxRestartTimes restartCount : Int32) (run : GuardianRun) : List ServiceTurn → GuardianRun
  | [] =>
    if restartCount ≤ maxRestartTimes then run
    else { run with result := some .processWaitFailed, finalStatus := some (-1) }
  | turn :: rest =>
    if restartCount ≤ maxRestartTimes then
      if turn.forks = false then { run with result := some .processForkFailed }
      else if turn.reaps = false then
        { run with result := some .processWaitFailed, children := run.children ++ [turn.child] }
      else if turn.service.clean then
        { run with result := some .ok, finalStatus := some 0, children := run.children ++ [turn.child] }
      else
        superviseFrom maxRestartTimes (restartCount + 1) { run with children := run.children ++ [turn.child] } rest
    else { run with result := some .processWaitFailed, finalStatus := some (-1) }

def runWithRestart (hasServiceEntry hasFinalStatus : Bool) (maxRestartTimes : Int32) (turns : List ServiceTurn) :
    GuardianRun :=
  if hasServiceEntry = false ∨ hasFinalStatus = false ∨ maxRestartTimes < 0 then { result := some .invalidParam }
  else superviseFrom maxRestartTimes 0 {} turns

/-! ### What a call does -/

/-- A turn after which the loop goes on. -/
def ServiceTurn.failed (turn : ServiceTurn) : Bool :=
  turn.forks && turn.reaps && !turn.service.clean

/-- The ways in which supervision can stand after some turns: the first ones have failed, and then there is none yet, or
no restart left, or one that decides. -/
inductive Supervised (maxRestarts : Nat) : List ServiceTurn → GuardianRun → Prop
  | running {failures : List ServiceTurn} :
      (∀ turn ∈ failures, turn.failed = true) → failures.length ≤ maxRestarts →
      Supervised maxRestarts failures { children := failures.map ServiceTurn.child }
  | gaveUp {failures : List ServiceTurn} (rest : List ServiceTurn) :
      (∀ turn ∈ failures, turn.failed = true) → failures.length = maxRestarts + 1 →
      Supervised maxRestarts (failures ++ rest)
        { result := some .processWaitFailed
          finalStatus := some (-1)
          children := failures.map ServiceTurn.child }
  | forkFailed {failures : List ServiceTurn} {turn : ServiceTurn} (rest : List ServiceTurn) :
      (∀ turn ∈ failures, turn.failed = true) → failures.length ≤ maxRestarts → turn.forks = false →
      Supervised maxRestarts (failures ++ turn :: rest)
        { result := some .processForkFailed, children := failures.map ServiceTurn.child }
  | waitFailed {failures : List ServiceTurn} {turn : ServiceTurn} (rest : List ServiceTurn) :
      (∀ turn ∈ failures, turn.failed = true) → failures.length ≤ maxRestarts →
      turn.forks = true → turn.reaps = false →
      Supervised maxRestarts (failures ++ turn :: rest)
        { result := some .processWaitFailed, children := failures.map ServiceTurn.child ++ [turn.child] }
  | endedWell {failures : List ServiceTurn} {turn : ServiceTurn} (rest : List ServiceTurn) :
      (∀ turn ∈ failures, turn.failed = true) → failures.length ≤ maxRestarts →
      turn.forks = true → turn.reaps = true → turn.service.clean = true →
      Supervised maxRestarts (failures ++ turn :: rest)
        { result := some .ok, finalStatus := some 0, children := failures.map ServiceTurn.child ++ [turn.child] }

private theorem superviseFrom_supervised {maxRestartTimes : Int32} {maxRestarts : Nat}
    (hmaxRestarts : maxRestartTimes.toInt = maxRestarts) (hmax : maxRestartTimes < Int32.maxValue)
    (turns failures : List ServiceTurn) {count : Int32} (hcount : count.toInt = failures.length)
    (hfailed : ∀ turn ∈ failures, turn.failed = true) (hle : failures.length ≤ maxRestarts + 1) :
    Supervised maxRestarts (failures ++ turns)
      (superviseFrom maxRestartTimes count { children := failures.map ServiceTurn.child } turns) := by
  -- the invariant of the loop: the turns behind it have failed, and the restart count is their number
  have hguard {count : Int32} {n : Nat} (hcount : count.toInt = n) : count ≤ maxRestartTimes ↔ n ≤ maxRestarts := by
    rw [Int32.le_iff_toInt_le, hcount, hmaxRestarts, Int.ofNat_le]
  induction turns generalizing failures count with
  | nil =>
    rw [superviseFrom, List.append_nil]
    split
    · next hgo => exact .running hfailed ((hguard hcount).1 hgo)
    · next hstop =>
      have hall : failures.length = maxRestarts + 1 := by
        have := (hguard hcount).not.1 hstop
        omega
      have h := Supervised.gaveUp [] hfailed hall
      rwa [List.append_nil] at h
  | cons turn rest ih =>
    rw [superviseFrom]
    split
    · next hgo =>
      have hlength := (hguard hcount).1 hgo
      split
      · next hfork => exact .forkFailed rest hfailed hlength hfork
      next hfork =>
      rw [Bool.not_eq_false] at hfork
      split
      · next hreap => exact .waitFailed rest hfailed hlength hfork hreap
      next hreap =>
      rw [Bool.not_eq_false] at hreap
      split
      · next hclean => exact .endedWell rest hfailed hlength hfork hreap hclean
      · next hclean =>
        have hturn : turn.failed = true := by
          rw [ServiceTurn.failed, hfork, hreap, eq_false_of_ne_true hclean]
          rfl
        have hnext : (count + 1).toInt = (failures ++ [turn]).length := by
          have hne : count ≠ Int32.maxValue := fun heq => Int32.not_lt.2 hgo (heq ▸ hmax)
          rw [toInt_add_one_of_ne hne, hcount, List.length_append]
          rfl
        have hfailed' : ∀ t ∈ failures ++ [turn], t.failed = true := by
          intro t ht
          rcases List.mem_append.1 ht with ht | ht
          · exact hfailed t ht
          · exact List.mem_singleton.1 ht ▸ hturn
        have hle' : (failures ++ [turn]).length ≤ maxRestarts + 1 := by
          rw [List.length_append]
          exact Nat.succ_le_succ hlength
        have h := ih (failures ++ [turn]) hnext hfailed' hle'
        rwa [List.append_assoc, List.map_append] at h
    · next hstop =>
      have := (hguard hcount).not.1 hstop
      exact .gaveUp (turn :: rest) hfailed (by omega)

/-! ### What is left of a call -/

/-- A process that the guardian knows to have ended well. -/
def ServiceChild.clean (child : ServiceChild) : Bool :=
  child.reaped && child.service.clean

/-- Of a code that is passed to `_exit`, the low eight bits count. -/
theorem exitStatus_eq_zero_iff (code : Int32) : exitStatus code = 0 ↔ (256 : Int) ∣ code.toInt := by
  have hlow : (exitStatus code).toBitVec.toNat = code.toBitVec.toNat % 256 :=
    Nat.and_two_pow_sub_one_eq_mod code.toBitVec.toNat 8
  rw [← Int32.toBitVec_inj, ← BitVec.toNat_inj, hlow, ← Int32.toInt_toBitVec, BitVec.toInt_eq_toNat_cond]
  show code.toBitVec.toNat % 256 = 0 ↔ _
  split <;> omega

private theorem ServiceTurn.child_of_failed {turn : ServiceTurn} (h : turn.failed = true) :
    turn.child.reaped = true ∧ turn.child.clean = false := by
  rw [ServiceTurn.failed, Bool.and_eq_true, Bool.and_eq_true, Bool.not_eq_true'] at h
  refine ⟨h.1.2, ?_⟩
  rw [ServiceChild.clean, show turn.child.service.clean = false from h.2, Bool.and_false]

section
variable {failures turns rest : List ServiceTurn} {turn : ServiceTurn} {maxRestarts : Nat} {run : GuardianRun}

/-- The children of failed turns. -/
private theorem child_of_failures (hfailed : ∀ turn ∈ failures, turn.failed = true) :
    ∀ child ∈ failures.map ServiceTurn.child, child.reaped = true ∧ child.clean = false := by
  intro child hchild
  obtain ⟨turn, hturn, rfl⟩ := List.mem_map.1 hchild
  exact turn.child_of_failed (hfailed turn hturn)

private theorem failed_of_failures (hfailed : ∀ turn ∈ failures, turn.failed = true) :
    Failed ServiceChild.clean (failures.map ServiceTurn.child) :=
  fun child hchild => (child_of_failures hfailed child hchild).2

private theorem takeWhile_failed (hfailed : ∀ turn ∈ failures, turn.failed = true) (hturn : turn.failed = false) :
    (failures ++ turn :: rest).takeWhile ServiceTurn.failed = failures := by
  rw [List.takeWhile_append_of_pos hfailed, List.takeWhile_cons, hturn]
  exact List.append_nil failures

/-- The service is started once more than it is restarted, and only the last child may not be one that has failed. -/
theorem Supervised.children (h : Supervised maxRestarts turns run) :
    run.children.length ≤ maxRestarts + 1 ∧
      ∀ child ∈ run.children.dropLast, child.reaped = true ∧ child.clean = false := by
  have hfew {failures : List ServiceTurn} (hfailed : ∀ turn ∈ failures, turn.failed = true)
      (hle : failures.length ≤ maxRestarts + 1) :
      (failures.map ServiceTurn.child).length ≤ maxRestarts + 1 ∧
        ∀ child ∈ (failures.map ServiceTurn.child).dropLast, child.reaped = true ∧ child.clean = false :=
    ⟨(List.length_map _).symm ▸ hle, fun child hchild =>
      child_of_failures hfailed child (List.dropLast_subset _ hchild)⟩
  have hlast {failures : List ServiceTurn} {turn : ServiceTurn} (hfailed : ∀ turn ∈ failures, turn.failed = true)
      (hle : failures.length ≤ maxRestarts) :
      (failures.map ServiceTurn.child ++ [turn.child]).length ≤ maxRestarts + 1 ∧
        ∀ child ∈ (failures.map ServiceTurn.child ++ [turn.child]).dropLast,
          child.reaped = true ∧ child.clean = false := by
    rw [List.dropLast_concat, List.length_append, List.length_map]
    exact ⟨Nat.succ_le_succ hle, child_of_failures hfailed⟩
  cases h with
  | running hfailed hle => exact hfew hfailed (Nat.le_succ_of_le hle)
  | gaveUp _ hfailed hlength => exact hfew hfailed (Nat.le_of_eq hlength)
  | forkFailed _ hfailed hle _ => exact hfew hfailed (Nat.le_succ_of_le hle)
  | waitFailed _ hfailed hle _ _ => exact hlast hfailed hle
  | endedWell _ hfailed hle _ _ _ => exact hlast hfailed hle

/-- The guardian answers `kOk` for a child that has ended well, and starts none after it. -/
theorem Supervised.settled (h : Supervised maxRestarts turns run) :
    Settled ServiceChild.clean run.children (run.result = some .ok) ∧
      (run.finalStatus = some 0 ↔ run.result = some .ok) := by
  cases h with
  | running hfailed hle => exact ⟨(failed_of_failures hfailed).settled nofun, iff_of_false nofun nofun⟩
  | gaveUp _ hfailed hlength =>
    exact ⟨(failed_of_failures hfailed).settled nofun, iff_of_false (show some (-1 : Int32) ≠ some 0 by decide) nofun⟩
  | forkFailed _ hfailed hle _ => exact ⟨(failed_of_failures hfailed).settled nofun, iff_of_false nofun nofun⟩
  | waitFailed _ hfailed hle _ hreaps =>
    refine ⟨((failed_of_failures hfailed).append (.singleton ?_)).settled nofun, iff_of_false nofun nofun⟩
    rw [ServiceChild.clean, ServiceTurn.child, hreaps, Bool.false_and]
  | endedWell _ hfailed hle _ hreaps hclean =>
    have hlast : (ServiceTurn.child _).clean = true := Bool.and_eq_true_iff.2 ⟨hreaps, hclean⟩
    exact ⟨⟨fun _ => (failed_of_failures hfailed).append_won (.singleton hlast), fun hne => absurd rfl hne⟩,
      iff_of_true rfl rfl⟩

/-- A child that has not been waited for is left behind only where `waitpid` fails. -/
private theorem Supervised.unreaped_iff (h : Supervised maxRestarts turns run) :
    (∃ child ∈ run.children, child.reaped = false) ↔
      run.result = some .processWaitFailed ∧ run.finalStatus = none := by
  have hnone {failures : List ServiceTurn} (hfailed : ∀ turn ∈ failures, turn.failed = true) :
      ¬ ∃ child ∈ failures.map ServiceTurn.child, child.reaped = false := by
    rintro ⟨child, hchild, hreaped⟩
    rw [(child_of_failures hfailed child hchild).1] at hreaped
    cases hreaped
  cases h with
  | running hfailed hle => exact iff_of_false (hnone hfailed) nofun
  | gaveUp _ hfailed hlength => exact iff_of_false (hnone hfailed) nofun
  | forkFailed _ hfailed hle _ => exact iff_of_false (hnone hfailed) nofun
  | waitFailed _ hfailed hle _ hreaps =>
    exact iff_of_true ⟨_, List.mem_append_right _ List.mem_cons_self, hreaps⟩ ⟨rfl, rfl⟩
  | endedWell _ hfailed hle _ hreaps hclean =>
    refine iff_of_false ?_ nofun
    rintro ⟨child, hchild, hreaped⟩
    rcases List.mem_append.1 hchild with hchild | hchild
    · exact hnone hfailed ⟨child, hchild, hreaped⟩
    · rw [List.mem_singleton.1 hchild] at hreaped
      exact Bool.false_ne_true (hreaped.symm.trans hreaps)

/-- The guardian gives up when the service has failed once more than it may be restarted. -/
private theorem Supervised.gaveUp_iff (h : Supervised maxRestarts turns run) :
    (run.finalStatus = some (-1) ↔ maxRestarts < (turns.takeWhile ServiceTurn.failed).length) ∧
      (run.result = none ↔ turns.length ≤ maxRestarts ∧ ∀ turn ∈ turns, turn.failed = true) := by
  have hdecided (failures : List ServiceTurn) (turn : ServiceTurn) (rest : List ServiceTurn)
      (hturn : turn.failed = false) :
      ¬ ((failures ++ turn :: rest).length ≤ maxRestarts ∧ ∀ t ∈ failures ++ turn :: rest, t.failed = true) := by
    rintro ⟨-, hall⟩
    rw [hall turn (List.mem_append_right _ List.mem_cons_self)] at hturn
    cases hturn
  cases h with
  | running hfailed hle =>
    have hwhole : turns.takeWhile ServiceTurn.failed = turns := by
      have h : (turns ++ []).takeWhile ServiceTurn.failed = turns ++ [].takeWhile ServiceTurn.failed :=
        List.takeWhile_append_of_pos hfailed
      rwa [List.takeWhile_nil, List.append_nil] at h
    rw [hwhole]
    exact ⟨iff_of_false nofun (Nat.not_lt.2 hle), iff_of_true rfl ⟨hle, hfailed⟩⟩
  | gaveUp rest hfailed hlength =>
    refine ⟨iff_of_true rfl ?_, iff_of_false nofun ?_⟩
    · rw [List.takeWhile_append_of_pos hfailed, List.length_append]
      omega
    · rintro ⟨hle, -⟩
      rw [List.length_append] at hle
      omega
  | @forkFailed failures turn rest hfailed hle hforks =>
    have hturn : turn.failed = false := by rw [ServiceTurn.failed, hforks, Bool.false_and, Bool.false_and]
    rw [takeWhile_failed hfailed hturn]
    exact ⟨iff_of_false nofun (Nat.not_lt.2 hle), iff_of_false nofun (hdecided failures turn rest hturn)⟩
  | @waitFailed failures turn rest hfailed hle hforks hreaps =>
    have hturn : turn.failed = false := by rw [ServiceTurn.failed, hreaps, Bool.and_false, Bool.false_and]
    rw [takeWhile_failed hfailed hturn]
    exact ⟨iff_of_false nofun (Nat.not_lt.2 hle), iff_of_false nofun (hdecided failures turn rest hturn)⟩
  | @endedWell failures turn rest hfailed hle hforks hreaps hclean =>
    have hturn : turn.failed = false := by rw [ServiceTurn.failed, hclean, Bool.not_true, Bool.and_false]
    rw [takeWhile_failed hfailed hturn]
    exact ⟨iff_of_false (show some (0 : Int32) ≠ some (-1) by decide) (Nat.not_lt.2 hle),
      iff_of_false nofun (hdecided failures turn rest hturn)⟩

end

/-- **Supervision.**  Whatever the system answers and however the children end, the service is started at most once more
than it may be restarted, and only after each child before has been waited for and has not ended well.  The guardian
answers `kOk`, with status 0, exactly if the last child has ended well, which is to return a multiple of 256; it gives
up, with status -1, exactly if the service has failed too often; and it leaves a child that has not been waited for
behind exactly if it fails without a status because `waitpid` does. -/
theorem service_supervised (turns : List ServiceTurn) {maxRestartTimes : Int32} (hmin : 0 ≤ maxRestartTimes)
    (hmax : maxRestartTimes < Int32.maxValue) :
    let run := runWithRestart true true maxRestartTimes turns
    let maxRestarts := maxRestartTimes.toInt.toNat
    (run.children.length ≤ maxRestarts + 1 ∧
        ∀ child ∈ run.children.dropLast, child.reaped = true ∧ child.clean = false) ∧
      (Settled ServiceChild.clean run.children (run.result = some .ok) ∧
        (run.finalStatus = some 0 ↔ run.result = some .ok)) ∧
      ((∃ child ∈ run.children, child.reaped = false) ↔
        run.result = some .processWaitFailed ∧ run.finalStatus = none) ∧
      ((run.finalStatus = some (-1) ↔ maxRestarts < (turns.takeWhile ServiceTurn.failed).length) ∧
        (run.result = none ↔ turns.length ≤ maxRestarts ∧ ∀ turn ∈ turns, turn.failed = true)) ∧
      ∀ service : ServiceEnd, service.clean = true ↔ ∃ code, service = .returns code ∧ (256 : Int) ∣ code.toInt := by
  intro run maxRestarts
  have hnat : maxRestartTimes.toInt = maxRestarts := (Int.toNat_of_nonneg (Int32.le_iff_toInt_le.1 hmin)).symm
  have hrun : Supervised maxRestarts turns run := by
    have hzero : (0 : Int32).toInt = ([] : List ServiceTurn).length := rfl
    have h := superviseFrom_supervised hnat hmax turns [] hzero nofun (Nat.zero_le _)
    have hparams : ¬ (true = false ∨ true = false ∨ maxRestartTimes < 0) := by
      rintro (h | h | h)
      · cases h
      · cases h
      · exact Int32.not_le.2 h hmin
    show Supervised maxRestarts turns (runWithRestart true true maxRestartTimes turns)
    rwa [runWithRestart, if_neg hparams]
  refine ⟨hrun.children, hrun.settled, hrun.unreaped_iff, hrun.gaveUp_iff, fun service => ?_⟩
  cases service with
  | returns code =>
    rw [ServiceEnd.clean, decide_eq_true_iff, exitStatus_eq_zero_iff]
    exact ⟨fun h => ⟨code, rfl, h⟩, fun ⟨_, heq, h⟩ => ServiceEnd.returns.inj heq ▸ h⟩
  | killed signal => exact iff_of_false nofun nofun

/-- A service that returns 1, is killed, and then returns 256, which counts as ending well. -/
def restartedService : List ServiceTurn :=
  [{ forks := true, service := .returns 1, reaps := true }, { forks := true, service := .killed 11, reaps := true },
    { forks := true, service := .returns 256, reaps := true }]

theorem service_supervised_restarted :
    let run := runWithRestart true true 2 restartedService
    run.result = some .ok ∧ run.children.length = 3 ∧ run.children.countP ServiceChild.clean = 1 := by
  have hsupervised := service_supervised restartedService (show (0 : Int32) ≤ 2 by decide) (by decide)
  exact ⟨rfl, rfl, hsupervised.2.1.1.countP_eq⟩

end VehicleBridge
