import VehicleBridge.Lib.Threads

/-!
# Accounts that threads keep together

Threads move from phase to phase, and with each move make entries in counters that they share.  An account sets some of
the counters against others.  Where a thread that has made an entry on the right has one on the left still to come
(`Account.pending`), and every move respects that (`Account.Follows`), the account is balanced at all times
(`Account.Balanced.move`), and its two sides are equal when no thread has an entry to come.
-/

namespace Ledger

open Threads

variable {ε π : Type*}

structure Account (ε π : Type*) where
  left : List ε
  right : List ε
  pending : π → Nat

def Account.Balanced (a : Account ε π) (counts : ε → Nat) (threads : List π) : Prop :=
  total counts a.left + total a.pending threads = total counts a.right

theorem Account.Balanced.eq_of_idle {a : Account ε π} {counts : ε → Nat} {threads : List π}
    (h : a.Balanced counts threads) (hidle : ∀ p ∈ threads, a.pending p = 0) :
    total counts a.left = total counts a.right := by
  unfold Account.Balanced at h
  rwa [total_eq_zero hidle, Nat.add_zero] at h

section
variable [DecidableEq ε]

/-- The counters after some entries. -/
def enter (entries : List ε) (counts : ε → Nat) : ε → Nat :=
  fun e => counts e + entries.count e

private theorem total_enter (entries : List ε) (counts : ε → Nat) (l : List ε) :
    total (enter entries counts) l = total counts l + total (fun e => entries.count e) l := by
  unfold total enter
  exact List.sum_map_add

/-- A move enters on the left what it does not leave pending of what it enters on the right. -/
def Account.Follows (a : Account ε π) (moves : π → List ε → π → Prop) : Prop :=
  ∀ p entries p', moves p entries p' →
    total (fun e => entries.count e) a.left + a.pending p' = total (fun e => entries.count e) a.right + a.pending p

theorem Account.Balanced.move {a : Account ε π} {moves : π → List ε → π → Prop} {counts : ε → Nat} {threads : List π}
    (h : a.Balanced counts threads) (hfollows : a.Follows moves) {i : Nat} {p p' : π} {entries : List ε}
    (hthread : threads[i]? = some p) (hmove : moves p entries p') :
    a.Balanced (enter entries counts) (threads.set i p') := by
  have hpending := total_set a.pending hthread p'
  have hentries := hfollows p entries p' hmove
  unfold Account.Balanced at h ⊢
  rw [total_enter, total_enter]
  omega

end

end Ledger
