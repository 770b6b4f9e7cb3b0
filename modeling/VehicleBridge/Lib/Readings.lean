import Mathlib.Data.List.Basic
import Mathlib.Tactic.Common

/-!
# Readings of counters that only grow

Counters are incremented one at a time, and a log lists the increments in order.  A reading of a counter gives the
number of its increments in the log up to the time of the reading.  What has been read stays what it was as the log
grows (`valueAt_append`), and a reading gives less than another one exactly when it was earlier and the counter has
been incremented in between (`valueAt_le_iff`).
-/

namespace Readings

variable {κ : Type*} [DecidableEq κ] {log : List κ} {c : κ} {t u : Nat}

/-- The value of a counter at a time, which is a length of the log. -/
def valueAt (log : List κ) (t : Nat) (c : κ) : Nat :=
  (log.take t).count c

/-- The counter has been incremented after the first time and up to the second. -/
def Overtaken (log : List κ) (t u : Nat) (c : κ) : Prop :=
  c ∈ (log.take u).drop t

instance (log : List κ) (t u : Nat) (c : κ) : Decidable (Overtaken log t u c) :=
  inferInstanceAs (Decidable (c ∈ _))

@[simp] theorem valueAt_zero (log : List κ) (c : κ) : valueAt log 0 c = 0 :=
  rfl

@[simp] theorem valueAt_length (log : List κ) (c : κ) : valueAt log log.length c = log.count c := by
  rw [valueAt, List.take_length]

theorem valueAt_append (ht : t ≤ log.length) (l : List κ) (c : κ) : valueAt (log ++ l) t c = valueAt log t c := by
  rw [valueAt, List.take_append_of_le_length ht, valueAt]

theorem valueAt_le_count (log : List κ) (t : Nat) (c : κ) : valueAt log t c ≤ log.count c :=
  (List.take_sublist t log).count_le c

omit [DecidableEq κ] in
theorem mem_of_overtaken (h : Overtaken log t u c) : c ∈ log :=
  List.mem_of_mem_take (List.mem_of_mem_drop h)

theorem valueAt_le_iff : valueAt log u c ≤ valueAt log t c ↔ ¬ Overtaken log t u c := by
  unfold valueAt Overtaken
  rcases Nat.le_total u t with hut | htu
  · have hnil : (log.take u).drop t = [] :=
      List.drop_eq_nil_of_le (Nat.le_trans (List.length_take_le u log) hut)
    rw [hnil]
    refine iff_of_true ?_ List.not_mem_nil
    exact ((List.take_prefix_take_left hut).sublist).count_le c
  · have hsplit : (log.take u).count c = (log.take t).count c + ((log.take u).drop t).count c := by
      have htake : (log.take u).take t = log.take t := by rw [List.take_take, Nat.min_eq_left htu]
      rw [← List.count_append, ← htake, List.take_append_drop]
    rw [hsplit, ← List.count_eq_zero]
    omega

end Readings
