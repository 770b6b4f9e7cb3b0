import Mathlib.Algebra.Group.Int.Defs
import Mathlib.Tactic.Common
import VehicleBridge.Core.ErrorCode
import VehicleBridge.Lib.FixedWidth

/-!
# Retrying on `kWouldBlock`

`RetryPolicy::RetryOnWouldBlock` over any operation on a state `σ`; sleeping is an operation on the state as well.
The loop counter is a 32-bit number: `none` is the overflow of `++attempt`, which needs the largest retry budget.
The backoff is a 64-bit number that wraps where the source leaves the overflow undefined.

`retryLoop_rule` is the induction over the loop: from what a blocked attempt preserves to what holds when the loop
ends.
-/

namespace VehicleBridge

open FixedWidth

structure RetryOptions where
  maxRetries : Int32 := 5
  initialBackoffMs : Int64 := 10
  maxBackoffMs : Int64 := 200
  deriving DecidableEq, Repr

variable {σ : Type*}

/-- The `for` loop; the first argument bounds the checks of the loop condition, and is never used up. -/
def retryLoop (operation : σ → ErrorCode × σ) (sleepFor : Int64 → σ → σ) (options : RetryOptions) :
    Nat → Int32 → Int64 → σ → Option (ErrorCode × σ)
  | 0, _, _, _ => none
  | checks + 1, attempt, backoffMs, s =>
    if attempt ≤ options.maxRetries then
      match operation s with
      | (.ok, s') => some (.ok, s')
      | (.wouldBlock, s') =>
        -- `++attempt` would overflow
        if attempt = Int32.maxValue then none
        else retryLoop operation sleepFor options checks (attempt + 1) (min (backoffMs * 2) options.maxBackoffMs)
          (sleepFor backoffMs s')
      | (ec, s') => some (ec, s')
    else some (.timeout, s)

def retryOnWouldBlock (operation : σ → ErrorCode × σ) (sleepFor : Int64 → σ → σ) (options : RetryOptions) (s : σ) :
    Option (ErrorCode × σ) :=
  if options.maxRetries < 0 ∨ options.initialBackoffMs ≤ 0 ∨ options.maxBackoffMs < options.initialBackoffMs then
    some (.invalidParam, s)
  else
    retryLoop operation sleepFor options (options.maxRetries.toInt.toNat + 2) 0 options.initialBackoffMs s

variable {operation : σ → ErrorCode × σ} {sleepFor : Int64 → σ → σ} {options : RetryOptions}

/-- One round of the loop: it ends with the result of the operation, or goes on after a blocked attempt. -/
theorem retryLoop_succ (operation : σ → ErrorCode × σ) (sleepFor : Int64 → σ → σ) (checks : Nat) (backoffMs : Int64)
    (s : σ) {attempt : Int32} (h : attempt ≤ options.maxRetries) :
    ((operation s).1 ≠ .wouldBlock ∧
        retryLoop operation sleepFor options (checks + 1) attempt backoffMs s = some (operation s)) ∨
      ((operation s).1 = .wouldBlock ∧
        retryLoop operation sleepFor options (checks + 1) attempt backoffMs s =
          if attempt = Int32.maxValue then none
          else retryLoop operation sleepFor options checks (attempt + 1) (min (backoffMs * 2) options.maxBackoffMs)
            (sleepFor backoffMs (operation s).2)) := by
  simp only [retryLoop, if_pos h]
  obtain ⟨ec, s'⟩ := operation s
  cases ec <;> simp

/-- **The loop rule.**  Let `I n s` hold of a state after `n` blocked attempts, with what a blocked attempt and the
sleep after it do.  When the loop returns, then either an attempt within the budget gave its result, or the whole
budget was blocked and the result is `kTimeout`. -/
theorem retryLoop_rule {I : Nat → σ → Prop}
    (hblock : ∀ n s backoffMs, I n s → (operation s).1 = .wouldBlock → I (n + 1) (sleepFor backoffMs (operation s).2))
    {checks n : Nat} {attempt : Int32} {backoffMs : Int64} {s s' : σ} {ec : ErrorCode} (hn : attempt.toInt = n)
    (hbudget : attempt.toInt ≤ options.maxRetries.toInt + 1) (hI : I n s)
    (h : retryLoop operation sleepFor options checks attempt backoffMs s = some (ec, s')) :
    (∃ (k : Nat) (t : σ), k ≤ options.maxRetries.toInt ∧ I k t ∧ operation t = (ec, s') ∧ ec ≠ .wouldBlock) ∨
      (∃ k : Nat, k = options.maxRetries.toInt + 1 ∧ I k s' ∧ ec = .timeout) := by
  induction checks generalizing n attempt backoffMs s with
  | zero => cases h
  | succ checks ih =>
    by_cases hle : attempt ≤ options.maxRetries
    · have hle' : attempt.toInt ≤ options.maxRetries.toInt := Int32.le_iff_toInt_le.1 hle
      rcases retryLoop_succ operation sleepFor checks backoffMs s hle with ⟨hne, heq⟩ | ⟨hwb, heq⟩
      · rw [heq, Option.some.injEq] at h
        rw [h] at hne
        exact .inl ⟨n, s, by omega, hI, h, hne⟩
      · rw [heq] at h
        split at h
        · cases h
        · next hmax =>
          have hadd := toInt_add_one_of_ne hmax
          exact ih (n := n + 1) (by rw [hadd, hn]; rfl) (by omega) (hblock n s backoffMs hI hwb) h
    · have hgt : options.maxRetries.toInt < attempt.toInt := by
        rw [Int32.le_iff_toInt_le] at hle
        omega
      unfold retryLoop at h
      rw [if_neg hle, Option.some.injEq, Prod.mk.injEq] at h
      obtain ⟨rfl, rfl⟩ := h
      exact .inr ⟨n, by omega, hI, rfl⟩

/-- Below the largest retry budget the loop always returns. -/
theorem retryLoop_isSome (hmax : options.maxRetries.toInt < 2 ^ 31 - 1) {checks : Nat} {attempt : Int32}
    {backoffMs : Int64} {s : σ} (hbudget : attempt.toInt ≤ options.maxRetries.toInt + 1)
    (hchecks : options.maxRetries.toInt + 2 ≤ attempt.toInt + checks) :
    (retryLoop operation sleepFor options checks attempt backoffMs s).isSome = true := by
  induction checks generalizing attempt backoffMs s with
  | zero => omega
  | succ checks ih =>
    by_cases hle : attempt ≤ options.maxRetries
    · have hle' : attempt.toInt ≤ options.maxRetries.toInt := Int32.le_iff_toInt_le.1 hle
      have hne : attempt ≠ Int32.maxValue := by
        rintro rfl
        have hval : Int32.maxValue.toInt = 2 ^ 31 - 1 := rfl
        omega
      have hadd := toInt_add_one_of_ne hne
      rcases retryLoop_succ operation sleepFor checks backoffMs s hle with ⟨-, heq⟩ | ⟨-, heq⟩
      · rw [heq]
        rfl
      · rw [heq, if_neg hne]
        exact ih (by omega) (by omega)
    · unfold retryLoop
      rw [if_neg hle]
      rfl

end VehicleBridge
