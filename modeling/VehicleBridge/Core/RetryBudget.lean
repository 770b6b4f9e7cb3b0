import Mathlib.Data.ENat.Lattice
import Mathlib.Order.CompletePartialOrder
import VehicleBridge.Core.RetryPolicy

/-!
# The budget of a retry

`RetryOnWouldBlock` on an operation that returns a sequence of results, with a log of its calls and sleeps.  How a call
ends depends on how many of the first results are `kWouldBlock` (`retryReplayed_course`): it stops at the first other
result, or runs through its budget.  Where the doubling of the backoff does not overflow, the back-off after `i` sleeps
is the initial one times `2 ^ i`, or the largest one (`toInt_backoffAfter`).

Neither the retry budget nor the backoff is bounded from above by the check at the start.  With the largest budget the
loop condition never fails, and a backoff from `2 ^ 62` on overflows when it is doubled; `retry_safe_iff` says for which
results that happens.
-/

namespace VehicleBridge

/-- A sleep, and how many calls of the operation came before it. -/
structure RetrySleep where
  afterCalls : Nat
  ms : Int64
  deriving DecidableEq, Repr

/-- What a call of `RetryOnWouldBlock` has done: its calls of the operation, and its sleeps. -/
structure RetryLog where
  calls : Nat := 0
  sleeps : List RetrySleep := []
  deriving DecidableEq, Repr

/-- An operation that returns the given results, one after the other. -/
def replay (results : Nat → ErrorCode) (log : RetryLog) : ErrorCode × RetryLog :=
  (results log.calls, { log with calls := log.calls + 1 })

def noteSleep (ms : Int64) (log : RetryLog) : RetryLog :=
  { log with sleeps := log.sleeps ++ [{ afterCalls := log.calls, ms }] }

/-- `RetryOnWouldBlock` on such an operation: the result and the log; `none` is the overflow of `++attempt`. -/
def retryReplayed (results : Nat → ErrorCode) (options : RetryOptions) : Option (ErrorCode × RetryLog) :=
  retryOnWouldBlock (replay results) noteSleep options {}

/-- The check at the start of `RetryOnWouldBlock` lets the options pass. -/
structure RetryOptions.Accepted (options : RetryOptions) : Prop where
  maxRetries : 0 ≤ options.maxRetries.toInt
  initialBackoff : 0 < options.initialBackoffMs.toInt
  maxBackoff : options.initialBackoffMs.toInt ≤ options.maxBackoffMs.toInt

/-- The first `n` results are `kWouldBlock`. -/
def BlockedFor (results : Nat → ErrorCode) (n : Nat) : Prop :=
  ∀ i < n, results i = .wouldBlock

/-- The number of leading results that are `kWouldBlock`, infinite if all are. -/
noncomputable def leadingBlocked (results : Nat → ErrorCode) : ℕ∞ :=
  ⨆ n : { n // BlockedFor results n }, (n.1 : ℕ∞)

/-- The backoff after `n` sleeps. -/
def backoffAfter (options : RetryOptions) : Nat → Int64
  | 0 => options.initialBackoffMs
  | n + 1 => min (backoffAfter options n * 2) options.maxBackoffMs

/-- The first `n` sleeps, one after each call. -/
def sleepsOf (options : RetryOptions) (n : Nat) : List RetrySleep :=
  (List.range n).map fun i => { afterCalls := i + 1, ms := backoffAfter options i }

/-- `backoff_ms * 2` is a 64-bit number. -/
def DoublingFits (ms : Int64) : Prop :=
  -2 ^ 63 ≤ ms.toInt * 2 ∧ ms.toInt * 2 < 2 ^ 63

instance (ms : Int64) : Decidable (DoublingFits ms) :=
  inferInstanceAs (Decidable (_ ∧ _))

section
variable {options : RetryOptions} {results : Nat → ErrorCode}

/-! ### The course of a call -/

private theorem sleepsOf_succ (n : Nat) :
    sleepsOf options (n + 1) = sleepsOf options n ++ [{ afterCalls := n + 1, ms := backoffAfter options n }] := by
  simp [sleepsOf, List.range_succ]

private theorem forall_mem_sleepsOf {n : Nat} {P : Int64 → Prop} :
    (∀ sleep ∈ sleepsOf options n, P sleep.ms) ↔ ∀ i < n, P (backoffAfter options i) := by
  simp [sleepsOf]

theorem BlockedFor.mono {m n : Nat} (h : BlockedFor results n) (hmn : m ≤ n) : BlockedFor results m :=
  fun i hi => h i (Nat.lt_of_lt_of_le hi hmn)

private theorem blockedFor_or (results : Nat → ErrorCode) (m : Nat) :
    BlockedFor results m ∨ ∃ n < m, BlockedFor results n ∧ results n ≠ .wouldBlock := by
  induction m with
  | zero => exact .inl nofun
  | succ m ih =>
    rcases ih with hall | ⟨n, hn, hblocked, hne⟩
    · by_cases hm : results m = .wouldBlock
      · refine .inl fun i hi => ?_
        rcases Nat.lt_succ_iff_lt_or_eq.1 hi with hlt | rfl
        · exact hall i hlt
        · exact hm
      · exact .inr ⟨m, Nat.lt_succ_self m, hall, hm⟩
    · exact .inr ⟨n, Nat.lt_succ_of_lt hn, hblocked, hne⟩

/-- The loop after `n` results of `kWouldBlock`, all within the budget. -/
private theorem retryLoop_blocked {n : Nat} (h : BlockedFor results n) (hbudget : n ≤ options.maxRetries.toInt + 1)
    (hcounter : n < 2 ^ 31) (checks : Nat) :
    retryLoop (replay results) noteSleep options (checks + n) 0 options.initialBackoffMs {} =
      retryLoop (replay results) noteSleep options checks (Int32.ofNat n) (backoffAfter options n)
        { calls := n, sleeps := sleepsOf options n } := by
  induction n generalizing checks with
  | zero => rfl
  | succ n ih =>
    have hsplit : checks + (n + 1) = checks + 1 + n := by omega
    rw [hsplit, ih (h.mono (Nat.le_succ n)) (by omega) (by omega)]
    have hval : (Int32.ofNat n).toInt = n := Int32.toInt_ofNat_of_lt (by omega)
    have hle : Int32.ofNat n ≤ options.maxRetries := Int32.le_iff_toInt_le.2 (by omega)
    have hmax : Int32.ofNat n ≠ Int32.maxValue := by
      intro heq
      rw [heq] at hval
      have hlimit : Int32.maxValue.toInt = 2 ^ 31 - 1 := rfl
      omega
    have hblocked : results n = .wouldBlock := h n (Nat.lt_succ_self n)
    simp only [retryLoop, if_pos hle, replay, hblocked, if_neg hmax]
    rw [sleepsOf_succ, Int32.ofNat_add]
    rfl

private theorem retryReplayed_eq (h : options.Accepted) :
    retryReplayed results options =
      retryLoop (replay results) noteSleep options (options.maxRetries.toInt.toNat + 2) 0 options.initialBackoffMs
        {} := by
  have hpassed : ¬ (options.maxRetries < 0 ∨ options.initialBackoffMs ≤ 0 ∨
      options.maxBackoffMs < options.initialBackoffMs) := by
    have hmax := h.maxRetries
    have hinitial := h.initialBackoff
    have hbackoff := h.maxBackoff
    rw [Int32.lt_iff_toInt_lt, Int64.le_iff_toInt_le, Int64.lt_iff_toInt_lt, Int32.toInt_zero, Int64.toInt_zero]
    omega
  unfold retryReplayed retryOnWouldBlock
  rw [if_neg hpassed]

/-- How a call of `RetryOnWouldBlock` goes: it stops at the first result that is not `kWouldBlock`, it runs through its
budget, or the counter overflows in the attempt. -/
inductive RetryCourse (results : Nat → ErrorCode) (options : RetryOptions) : Option (ErrorCode × RetryLog) → Prop
  | stopped (n : Nat) : n ≤ options.maxRetries.toInt → BlockedFor results n → results n ≠ .wouldBlock →
      RetryCourse results options (some (results n, { calls := n + 1, sleeps := sleepsOf options n }))
  | exhausted (n : Nat) : n = options.maxRetries.toInt + 1 → BlockedFor results n →
      options.maxRetries.toInt < 2 ^ 31 - 1 →
      RetryCourse results options (some (.timeout, { calls := n, sleeps := sleepsOf options n }))
  | overflowed (n : Nat) : n = options.maxRetries.toInt + 1 → BlockedFor results n →
      options.maxRetries.toInt = 2 ^ 31 - 1 → RetryCourse results options none

theorem retryReplayed_course (h : options.Accepted) (results : Nat → ErrorCode) :
    RetryCourse results options (retryReplayed results options) := by
  have hmax := h.maxRetries
  have hbound := options.maxRetries.toInt_lt
  obtain ⟨budget, hbudget⟩ : ∃ budget : Nat, options.maxRetries.toInt = budget := ⟨_, (Int.toNat_of_nonneg hmax).symm⟩
  rw [retryReplayed_eq h, hbudget, Int.toNat_natCast]
  rcases blockedFor_or results (budget + 1) with hall | ⟨n, hn, hblocked, hne⟩
  · by_cases hlimit : budget = 2 ^ 31 - 1
    · -- the attempt before the counter overflows
      have hsplit : budget + 2 = 2 + budget := Nat.add_comm ..
      have hle : Int32.ofNat budget ≤ options.maxRetries := by
        rw [Int32.le_iff_toInt_le, Int32.toInt_ofNat_of_lt (by omega)]
        omega
      have hlast : Int32.ofNat budget = Int32.maxValue := by
        rw [hlimit]
        rfl
      have hwb : results budget = .wouldBlock := hall budget (Nat.lt_succ_self budget)
      rw [hsplit, retryLoop_blocked (hall.mono (Nat.le_succ budget)) (by omega) (by omega)]
      simp only [retryLoop, if_pos hle, replay, hwb, if_pos hlast]
      exact .overflowed (budget + 1) (by omega) hall (by omega)
    · have hsplit : budget + 2 = 1 + (budget + 1) := by omega
      have hgt : ¬ Int32.ofNat (budget + 1) ≤ options.maxRetries := by
        rw [Int32.le_iff_toInt_le, Int32.toInt_ofNat_of_lt (by omega)]
        omega
      rw [hsplit, retryLoop_blocked hall (by omega) (by omega)]
      simp only [retryLoop, if_neg hgt]
      exact .exhausted (budget + 1) (by omega) hall (by omega)
  · obtain ⟨checks, hsplit⟩ : ∃ checks, budget + 2 = checks + 1 + n := ⟨budget + 1 - n, by omega⟩
    have hle : Int32.ofNat n ≤ options.maxRetries := by
      rw [Int32.le_iff_toInt_le, Int32.toInt_ofNat_of_lt (by omega)]
      omega
    rw [hsplit, retryLoop_blocked hblocked (by omega) (by omega)]
    rcases retryLoop_succ (replay results) noteSleep checks (backoffAfter options n)
      { calls := n, sleeps := sleepsOf options n } hle with ⟨-, heq⟩ | ⟨hwb, -⟩
    · rw [heq]
      exact .stopped n (by omega) hblocked hne
    · exact absurd hwb hne

/-! ### The backoff -/

private theorem toInt_min (a b : Int64) : (min a b).toInt = min a.toInt b.toInt := by
  have hmin : min a b = if a ≤ b then a else b := rfl
  rw [hmin]
  by_cases hle : a ≤ b
  · rw [if_pos hle, min_eq_left (Int64.le_iff_toInt_le.1 hle)]
  · rw [if_neg hle, min_eq_right]
    rw [Int64.le_iff_toInt_le] at hle
    omega

private theorem DoublingFits.toInt_double {ms : Int64} (h : DoublingFits ms) : (ms * 2).toInt = ms.toInt * 2 := by
  obtain ⟨hlow, hhigh⟩ := h
  have htwo : (2 : Int64).toInt = 2 := rfl
  rw [Int64.toInt_mul, htwo, Int.bmod_eq_of_le] <;> omega

/-- The backoff after `i` sleeps, where none of the doublings before it has overflowed. -/
theorem toInt_backoffAfter (h : options.Accepted) {i : Nat} (hfits : ∀ j < i, DoublingFits (backoffAfter options j)) :
    (backoffAfter options i).toInt = min (options.initialBackoffMs.toInt * 2 ^ i) options.maxBackoffMs.toInt := by
  have hinitial := h.initialBackoff
  have hmax := h.maxBackoff
  induction i with
  | zero =>
    rw [pow_zero, mul_one, min_eq_left hmax]
    rfl
  | succ i ih =>
    rw [backoffAfter, toInt_min, (hfits i (Nat.lt_succ_self i)).toInt_double,
      ih fun j hj => hfits j (Nat.lt_succ_of_lt hj), pow_succ, ← mul_assoc]
    omega

private theorem doublingFits_iff (h : options.Accepted) {i : Nat}
    (hfits : ∀ j < i, DoublingFits (backoffAfter options j)) : DoublingFits (backoffAfter options i) ↔
      min (options.initialBackoffMs.toInt * 2 ^ i) options.maxBackoffMs.toInt < 2 ^ 62 := by
  have hinitial := h.initialBackoff
  have hmax := h.maxBackoff
  have hpos : 0 < options.initialBackoffMs.toInt * 2 ^ i :=
    Int.mul_pos hinitial (Int.pow_pos (by decide))
  unfold DoublingFits
  rw [toInt_backoffAfter h hfits]
  omega

/-- The backoffs are all doubled without an overflow when the formula for them says so. -/
private theorem doublingFits_of_lt (h : options.Accepted) {n : Nat}
    (hsmall : ∀ i < n, min (options.initialBackoffMs.toInt * 2 ^ i) options.maxBackoffMs.toInt < 2 ^ 62) :
    ∀ i < n, DoublingFits (backoffAfter options i) := by
  intro i hi
  induction i using Nat.strong_induction_on with
  | _ i ih => exact (doublingFits_iff h fun j hj => ih j hj (Nat.lt_trans hj hi)).2 (hsmall i hi)

/-! ### The budget -/

private theorem natCast_le_leadingBlocked {n : Nat} : (n : ℕ∞) ≤ leadingBlocked results ↔ BlockedFor results n := by
  constructor
  · intro hle
    cases n with
    | zero => exact nofun
    | succ n =>
      have hlt : (n : ℕ∞) < leadingBlocked results := lt_of_lt_of_le (by exact_mod_cast Nat.lt_succ_self n) hle
      obtain ⟨⟨m, hm⟩, hnm⟩ := lt_iSup_iff.1 hlt
      exact hm.mono (Nat.cast_lt.1 hnm)
  · exact fun h => le_iSup (fun n : { n // BlockedFor results n } => (n.1 : ℕ∞)) ⟨n, h⟩

private theorem leadingBlocked_eq {n : Nat} (hblocked : BlockedFor results n) (hne : results n ≠ .wouldBlock) :
    leadingBlocked results = n := by
  refine le_antisymm ?_ (natCast_le_leadingBlocked.2 hblocked)
  by_contra hlt
  have hsucc : ((n + 1 : Nat) : ℕ∞) ≤ leadingBlocked results := by
    rw [Nat.cast_add, Nat.cast_one]
    exact Order.add_one_le_of_lt (not_le.1 hlt)
  exact hne (natCast_le_leadingBlocked.1 hsucc n (Nat.lt_succ_self n))

/-- A call that has used its budget as it should: with `k` leading results of `kWouldBlock`, it has called the operation
`min k max_retries + 1` times and slept after each `kWouldBlock`. -/
structure RanBudget (options : RetryOptions) (results : Nat → ErrorCode) (k : ℕ∞) (ec : ErrorCode)
    (log : RetryLog) : Prop where
  calls : (log.calls : ℕ∞) = min k options.maxRetries.toInt.toNat + 1
  result : ∀ n : Nat, k = n → n ≤ options.maxRetries.toInt.toNat → ec = results n
  timeout : (options.maxRetries.toInt.toNat : ℕ∞) < k → ec = .timeout
  sleepCount : (log.sleeps.length : ℕ∞) = min k (options.maxRetries.toInt.toNat + 1)
  sleeps : ∀ i sleep, log.sleeps[i]? = some sleep → sleep.afterCalls = i + 1 ∧
    sleep.ms.toInt = min (options.initialBackoffMs.toInt * 2 ^ i) options.maxBackoffMs.toInt

private theorem getElem?_sleepsOf {n i : Nat} {sleep : RetrySleep} (h : (sleepsOf options n)[i]? = some sleep) :
    sleep = { afterCalls := i + 1, ms := backoffAfter options i } := by
  unfold sleepsOf at h
  rw [List.getElem?_map, Option.map_eq_some_iff] at h
  obtain ⟨j, hj, rfl⟩ := h
  obtain ⟨hlt, rfl⟩ := List.getElem?_eq_some_iff.1 hj
  rw [List.getElem_range]

/-- **A retry runs exactly its budget**, whatever the results, where neither the counter nor the backoff is too
large. -/
theorem retry_runs_budget (h : options.Accepted) (hlimit : options.maxRetries.toInt < 2 ^ 31 - 1)
    (hcap : options.maxBackoffMs.toInt ≤ (2 ^ 63 - 1) / 2) (results : Nat → ErrorCode) :
    ∃ ec log, retryReplayed results options = some (ec, log) ∧
      RanBudget options results (leadingBlocked results) ec log := by
  have hbudget := h.maxRetries
  have hfits : ∀ i, DoublingFits (backoffAfter options i) := fun i =>
    doublingFits_of_lt h (fun j _ => by omega) i (Nat.lt_succ_self i)
  have hsleeps : ∀ n i sleep, (sleepsOf options n)[i]? = some sleep → sleep.afterCalls = i + 1 ∧
      sleep.ms.toInt = min (options.initialBackoffMs.toInt * 2 ^ i) options.maxBackoffMs.toInt := by
    intro n i sleep hsleep
    rw [getElem?_sleepsOf hsleep]
    exact ⟨rfl, toInt_backoffAfter h fun j _ => hfits j⟩
  have hlength : ∀ n, (sleepsOf options n).length = n := fun n => by simp [sleepsOf]
  have hcourse := retryReplayed_course h results
  generalize retryReplayed results options = out at hcourse
  obtain ⟨budget, heq⟩ : ∃ budget : Nat, options.maxRetries.toInt = budget :=
    ⟨_, (Int.toNat_of_nonneg hbudget).symm⟩
  have hnat : options.maxRetries.toInt.toNat = budget := by omega
  cases hcourse with
  | stopped n hn hblocked hne =>
    have hk := leadingBlocked_eq hblocked hne
    have hle : n ≤ budget := by omega
    refine ⟨_, _, rfl, ?_, ?_, ?_, ?_, hsleeps n⟩
    · rw [hk, hnat, min_eq_left (Nat.cast_le.2 hle)]
      exact Nat.cast_add n 1
    · intro m hm _
      rw [hk, Nat.cast_inj] at hm
      rw [hm]
    · intro hlt
      rw [hk, hnat, Nat.cast_lt] at hlt
      omega
    · rw [hlength, hk, hnat, min_eq_left]
      exact_mod_cast Nat.le_succ_of_le hle
  | exhausted n hn hblocked _ =>
    have hk : ((budget + 1 : Nat) : ℕ∞) ≤ leadingBlocked results := by
      rw [natCast_le_leadingBlocked]
      exact hblocked.mono (by omega)
    have hk' : (budget : ℕ∞) ≤ leadingBlocked results := le_trans (Nat.cast_le.2 (Nat.le_succ budget)) hk
    have hlast : n = budget + 1 := by omega
    refine ⟨_, _, rfl, ?_, ?_, fun _ => rfl, ?_, hsleeps n⟩
    · rw [hnat, min_eq_right hk', hlast]
      exact Nat.cast_add budget 1
    · intro m hm hle
      rw [hm, Nat.cast_le] at hk
      omega
    · rw [hlength, hnat, hlast, min_eq_right]
      · exact Nat.cast_add budget 1
      · exact_mod_cast hk
  | overflowed n hn hblocked hmax => omega

/-- Five retries with a backoff from 1 to 8. -/
def fiveRetries : RetryOptions :=
  { maxRetries := 5, initialBackoffMs := 1, maxBackoffMs := 8 }

/-- An operation that succeeds at its third call. -/
def thirdTime (i : Nat) : ErrorCode :=
  if i < 2 then .wouldBlock else .ok

theorem retry_runs_budget_thirdTime : ∃ ec log, retryReplayed thirdTime fiveRetries = some (ec, log) ∧
    RanBudget fiveRetries thirdTime (leadingBlocked thirdTime) ec log :=
  retry_runs_budget ⟨by decide, by decide, by decide⟩ (by decide) (by decide) thirdTime

/-! ### Overflows -/

/-- A call returns after at most `max_retries + 1` calls of the operation, and neither `++attempt` nor a doubling of the
backoff, of which there is one after each sleep, overflows. -/
def RetrySafe (options : RetryOptions) (results : Nat → ErrorCode) : Prop :=
  ∃ ec log, retryReplayed results options = some (ec, log) ∧ log.calls ≤ options.maxRetries.toInt + 1 ∧
    ∀ sleep ∈ log.sleeps, DoublingFits sleep.ms

/-- The backoff after the last call that is blocked, and so each backoff before it, is less than `2 ^ 62`, and with the
largest retry budget not all of the calls are blocked. -/
structure RetryInRange (options : RetryOptions) (results : Nat → ErrorCode) : Prop where
  backoff : ∀ i : Nat, i ≤ options.maxRetries.toInt → BlockedFor results (i + 1) →
    min (options.initialBackoffMs.toInt * 2 ^ i) options.maxBackoffMs.toInt < 2 ^ 62
  counter : options.maxRetries.toInt = 2 ^ 31 - 1 → ¬ BlockedFor results (2 ^ 31)

/-- **A retry is safe exactly within the limits** of its counter and its backoff. -/
theorem retry_safe_iff (h : options.Accepted) (results : Nat → ErrorCode) :
    RetrySafe options results ↔ RetryInRange options results := by
  have hsafe : ∀ n, (∀ sleep ∈ sleepsOf options n, DoublingFits sleep.ms) ↔
      ∀ i < n, min (options.initialBackoffMs.toInt * 2 ^ i) options.maxBackoffMs.toInt < 2 ^ 62 := by
    intro n
    rw [forall_mem_sleepsOf]
    refine ⟨fun hfits i hi => ?_, doublingFits_of_lt h⟩
    exact (doublingFits_iff h fun j hj => hfits j (Nat.lt_trans hj hi)).1 (hfits i hi)
  have hcourse := retryReplayed_course h results
  unfold RetrySafe
  generalize retryReplayed results options = out at hcourse
  cases hcourse with
  | stopped n hn hblocked hne =>
    have hfirst : ∀ i, BlockedFor results (i + 1) ↔ i < n := by
      intro i
      refine ⟨fun hi => ?_, fun hi => hblocked.mono hi⟩
      by_contra hle
      exact hne (hi n (by omega))
    constructor
    · rintro ⟨ec, log, heq, -, hfits⟩
      cases heq
      refine ⟨fun i _ hi => (hsafe n).1 hfits i ((hfirst i).1 hi), fun hmax hall => ?_⟩
      exact hne (hall n (by omega))
    · intro hlimits
      refine ⟨_, _, rfl, by simpa using hn, (hsafe n).2 fun i hi => ?_⟩
      exact hlimits.backoff i (by omega) ((hfirst i).2 hi)
  | exhausted n hn hblocked hmax =>
    constructor
    · rintro ⟨ec, log, heq, -, hfits⟩
      cases heq
      exact ⟨fun i hi _ => (hsafe n).1 hfits i (by omega), fun hlimit => by omega⟩
    · intro hlimits
      refine ⟨_, _, rfl, by simp only; omega, (hsafe n).2 fun i hi => ?_⟩
      exact hlimits.backoff i (by omega) (hblocked.mono hi)
  | overflowed n hn hblocked hmax =>
    have hall : BlockedFor results (2 ^ 31) := hblocked.mono (by omega)
    exact iff_of_false (fun ⟨_, _, heq, _⟩ => by cases heq) fun hlimits => hlimits.counter hmax hall

theorem retry_safe_iff_thirdTime : RetrySafe fiveRetries thirdTime :=
  (retry_safe_iff ⟨by decide, by decide, by decide⟩ thirdTime).2
    ⟨fun i _ _ => lt_of_le_of_lt (min_le_right _ _) (by decide), fun hmax => absurd hmax (by decide)⟩

/-- A backoff of `2 ^ 62` overflows when it is doubled, after a single blocked call. -/
theorem retry_not_safe : ¬ ∀ (options : RetryOptions) (results : Nat → ErrorCode), options.Accepted →
    RetrySafe options results := by
  intro hall
  obtain ⟨ec, log, heq, -, hfits⟩ := hall
    { maxRetries := 0, initialBackoffMs := 4611686018427387904, maxBackoffMs := 4611686018427387904 }
    (fun _ => .wouldBlock) ⟨by decide, by decide, by decide⟩
  cases heq
  exact absurd (hfits _ List.mem_cons_self) (by decide)

end

end VehicleBridge
