import Mathlib.Tactic.Common

/-!
# Attempts until the first success

A log of attempts, some of which were accepted.  A log is `Settled` when it has no accepted attempt, or ends with
its only one.  Logs without an accepted attempt can be put in front of any settled log (`Settled.prepend`), which
is how a chain of retries stays a log with at most one success; `Settled.countP_eq` and `Settled.nothing_after`
say what a settled log means.
-/

namespace Attempts

variable {E : Type*} {accepted : E → Bool} {xs ys : List E} {success : Prop}

/-- No attempt was accepted. -/
def Failed (accepted : E → Bool) (xs : List E) : Prop :=
  ∀ x ∈ xs, accepted x = false

/-- The last attempt, and no other, was accepted. -/
def Won (accepted : E → Bool) (xs : List E) : Prop :=
  ∃ pre last, xs = pre ++ [last] ∧ Failed accepted pre ∧ accepted last = true

/-- The attempts ended with the first accepted one, if the outcome was a success, and else none was accepted. -/
structure Settled (accepted : E → Bool) (xs : List E) (success : Prop) : Prop where
  won : success → Won accepted xs
  failed : ¬ success → Failed accepted xs

theorem Failed.nil : Failed accepted [] := by
  intro x hx
  cases hx

theorem Failed.append (hx : Failed accepted xs) (hy : Failed accepted ys) : Failed accepted (xs ++ ys) := by
  intro z hz
  rcases List.mem_append.1 hz with h | h
  · exact hx z h
  · exact hy z h

theorem Failed.append_won (hx : Failed accepted xs) (hy : Won accepted ys) : Won accepted (xs ++ ys) := by
  obtain ⟨pre, last, rfl, hpre, hlast⟩ := hy
  exact ⟨xs ++ pre, last, by rw [List.append_assoc], hx.append hpre, hlast⟩

theorem Failed.singleton {x : E} (h : accepted x = false) : Failed accepted [x] := by
  intro z hz
  rw [List.mem_singleton] at hz
  rw [hz, h]

theorem Won.singleton {x : E} (h : accepted x = true) : Won accepted [x] :=
  ⟨[], x, rfl, Failed.nil, h⟩

theorem Settled.singleton {x : E} : Settled accepted [x] (accepted x = true) :=
  ⟨Won.singleton, fun h => Failed.singleton (by simpa using h)⟩

theorem Settled.nil (h : ¬ success) : Settled accepted [] success :=
  ⟨fun hs => absurd hs h, fun _ => Failed.nil⟩

theorem Failed.settled (hx : Failed accepted xs) (h : ¬ success) : Settled accepted xs success :=
  ⟨fun hs => absurd hs h, fun _ => hx⟩

theorem Settled.prepend (hx : Failed accepted xs) (hy : Settled accepted ys success) :
    Settled accepted (xs ++ ys) success :=
  ⟨fun hs => hx.append_won (hy.won hs), fun hs => hx.append (hy.failed hs)⟩

theorem Failed.countP_eq (h : Failed accepted xs) : xs.countP accepted = 0 := by
  rw [List.countP_eq_zero]
  intro x hx
  rw [h x hx]
  exact Bool.false_ne_true

theorem Won.countP_eq (h : Won accepted xs) : xs.countP accepted = 1 := by
  obtain ⟨pre, last, rfl, hpre, hlast⟩ := h
  rw [List.countP_append, hpre.countP_eq, List.countP_singleton, if_pos hlast]

/-- **Exactly once or not at all.** -/
theorem Settled.countP_eq [Decidable success] (h : Settled accepted xs success) :
    xs.countP accepted = if success then 1 else 0 := by
  split
  · next hs => exact (h.won hs).countP_eq
  · next hs => exact (h.failed hs).countP_eq

/-- Nothing is attempted after a success. -/
theorem Settled.nothing_after (h : Settled accepted xs success) {pre post : List E} {x : E}
    (hxs : xs = pre ++ x :: post) (hx : accepted x = true) : post = [] := by
  by_cases hs : success
  · obtain ⟨front, last, heq, hfront, -⟩ := h.won hs
    rcases List.eq_nil_or_concat post with hpost | ⟨init, l, hpost⟩
    · exact hpost
    · -- otherwise `x` is one of the failed attempts before the last
      rw [hxs, hpost, List.concat_eq_append, ← List.cons_append, ← List.append_assoc] at heq
      obtain ⟨hmem, -⟩ := List.append_inj' heq rfl
      have hfalse := hfront x (by rw [← hmem]; simp)
      rw [hx] at hfalse
      cases hfalse
  · have hfalse := h.failed hs x (by rw [hxs]; simp)
    rw [hx] at hfalse
    cases hfalse

end Attempts
