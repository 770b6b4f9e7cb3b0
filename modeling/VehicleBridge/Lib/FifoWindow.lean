import Mathlib.Data.List.Dedup
import Mathlib.Data.List.DropRight
import Mathlib.Data.List.Perm.Subperm
import Mathlib.Tactic.Common

/-!
# A bounded window of distinct elements

A window keeps the last elements of a history, at most as many as its limit; an element that it has is not put in again
and keeps its place.  So no element of the history is among the `limit` ones before it (`Fresh`), the window has no
repetitions (`Fresh.nodup_rtake`), and it has an element exactly as long as fewer than `limit` others have come after
the last time it was put in (`Fresh.mem_rtake_iff`).
-/

namespace FifoWindow

variable {α : Type*} {limit : Nat} {history before after : List α} {a : α}

/-- Put an element at the end of a window. -/
def push (limit : Nat) (a : α) (window : List α) : List α :=
  (window ++ [a]).rtake limit

/-- No element was in the window when it was put in. -/
def Fresh (limit : Nat) (history : List α) : Prop :=
  ∀ before a after, history = before ++ a :: after → a ∉ before.rtake limit

private theorem rtake_rtake_succ (n : Nat) (l : List α) : (l.rtake (n + 1)).rtake n = l.rtake n := by
  rw [List.rtake_eq_reverse_take_reverse, List.rtake_eq_reverse_take_reverse, List.reverse_reverse, List.take_take,
    Nat.min_eq_left (Nat.le_succ n), ← List.rtake_eq_reverse_take_reverse]

/-- The window of a history that is one element longer. -/
theorem rtake_concat (hlimit : 0 < limit) (history : List α) (a : α) :
    (history ++ [a]).rtake limit = push limit a (history.rtake limit) := by
  obtain ⟨n, rfl⟩ : ∃ n, limit = n + 1 := ⟨limit - 1, by omega⟩
  unfold push
  rw [List.rtake_concat_succ, List.rtake_concat_succ, rtake_rtake_succ]

theorem length_rtake_le (limit : Nat) (l : List α) : (l.rtake limit).length ≤ limit := by
  rw [List.rtake, List.length_drop]
  omega

theorem fresh_nil : Fresh limit ([] : List α) := by
  intro before a after h
  cases before <;> cases h

theorem Fresh.left (h : Fresh limit (before ++ after)) : Fresh limit before := by
  rintro front a back rfl
  exact h front a (back ++ after) (by simp)

theorem fresh_concat : Fresh limit (history ++ [a]) ↔ Fresh limit history ∧ a ∉ history.rtake limit := by
  refine ⟨fun h => ⟨h.left, h history a [] rfl⟩, ?_⟩
  rintro ⟨h, hnew⟩ front b back heq
  rcases List.eq_nil_or_concat' back with rfl | ⟨back, c, rfl⟩
  · obtain ⟨rfl, hb⟩ := List.append_inj' heq rfl
    cases hb
    exact hnew
  · rw [← List.cons_append, ← List.append_assoc] at heq
    obtain ⟨rfl, -⟩ := List.append_inj' heq rfl
    exact h front b back rfl

theorem Fresh.nodup_rtake (h : Fresh limit history) : (history.rtake limit).Nodup := by
  induction history using List.reverseRecOn with
  | nil => simp
  | append_singleton history a ih =>
    obtain ⟨hold, hnew⟩ := fresh_concat.1 h
    cases limit with
    | zero => simp
    | succ n =>
      rw [List.rtake_concat_succ, List.nodup_append]
      have hsub : history.rtake n <:+ history.rtake (n + 1) := by
        rw [← rtake_rtake_succ n history]
        exact List.drop_suffix _ _
      refine ⟨(ih hold).sublist hsub.sublist, List.nodup_singleton a, ?_⟩
      rintro b hb c hc rfl
      rw [List.mem_singleton] at hc
      exact hnew (hc ▸ hsub.subset hb)

/-- The last time an element came. -/
theorem exists_last (h : a ∈ history) : ∃ before after, history = before ++ a :: after ∧ a ∉ after := by
  obtain ⟨back, front, heq, hnot⟩ := List.eq_append_cons_of_mem (List.mem_reverse.2 h)
  refine ⟨front.reverse, back.reverse, ?_, by simpa using hnot⟩
  have hrev := congrArg List.reverse heq
  simpa using hrev

theorem mem_rtake_iff : a ∈ history.rtake limit ↔
    ∃ before after, history = before ++ a :: after ∧ a ∉ after ∧ after.length < limit := by
  constructor
  · intro hmem
    obtain ⟨before, after, heq, hnot⟩ := exists_last hmem
    have hlen := length_rtake_le limit history
    rw [heq, List.length_append, List.length_cons] at hlen
    refine ⟨history.take (history.length - limit) ++ before, after, ?_, hnot, by omega⟩
    rw [List.append_assoc, ← heq]
    exact (List.take_append_drop _ _).symm
  · rintro ⟨before, after, rfl, -, hlt⟩
    rw [List.rtake, List.drop_append_of_le_length]
    · simp
    · simp only [List.length_append, List.length_cons]
      omega

/-- Among the elements that have come after another one, the different ones reach the limit with their number. -/
private theorem Fresh.length_lt_iff [DecidableEq α] (h : Fresh limit (before ++ after)) :
    after.length < limit ↔ after.dedup.length < limit := by
  refine ⟨Nat.lt_of_le_of_lt (List.dedup_sublist after).length_le, fun hlt => ?_⟩
  by_contra hle
  have htake : (after.take limit).length = limit := List.length_take_of_le (Nat.not_lt.1 hle)
  -- the first `limit` of them are a window
  have hwindow : (before ++ after.take limit).rtake limit = after.take limit := by
    rw [List.rtake, List.length_append, htake, Nat.add_sub_cancel, List.drop_left]
  have hsplit : before ++ after.take limit ++ after.drop limit = before ++ after := by
    rw [List.append_assoc, List.take_append_drop]
  have hfresh : Fresh limit (before ++ after.take limit) := (hsplit.symm ▸ h).left
  have hnodup := hfresh.nodup_rtake
  rw [hwindow] at hnodup
  have hsub : after.take limit ⊆ after.dedup := fun b hb => List.mem_dedup.2 (List.mem_of_mem_take hb)
  have hle' := (List.subperm_of_subset hnodup hsub).length_le
  omega

/-- **What is in the window**: what has been put in, with fewer than `limit` other elements since the last time. -/
theorem Fresh.mem_rtake_iff [DecidableEq α] (h : Fresh limit history) :
    a ∈ history.rtake limit ↔
      ∃ before after, history = before ++ a :: after ∧ a ∉ after ∧ after.dedup.length < limit := by
  rw [FifoWindow.mem_rtake_iff]
  refine exists_congr fun before => exists_congr fun after => ?_
  refine and_congr_right fun heq => and_congr_right fun _ => ?_
  have hsplit : history = (before ++ [a]) ++ after := by rw [heq, List.append_assoc, List.singleton_append]
  rw [hsplit] at h
  exact h.length_lt_iff

end FifoWindow
