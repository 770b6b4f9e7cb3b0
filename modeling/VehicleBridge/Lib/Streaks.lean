import Mathlib.Data.List.DropRight
import Mathlib.Tactic.Common

/-!
# Streaks in a history of events

`streak a l` is how many times the event `a` has come last in the history `l`.  A latch that `m` events `a` in a row
set and that `n` events `b` in a row reset is `Latched` by the history: somewhere in it there are `m` events `a` in a
row that no `n` events `b` in a row have come after.  `latched_concat_set` and `latched_concat_reset` say what one more
event does to it, in terms of the streaks only.
-/

namespace Streaks

variable {α : Type*} {a b : α} {l : List α} {m n : Nat}

/-- There are `m` events `a` in a row with no `n` events `b` in a row after them. -/
def Latched (a : α) (m : Nat) (b : α) (n : Nat) (l : List α) : Prop :=
  ∃ before after, l = before ++ List.replicate m a ++ after ∧ ¬ List.replicate n b <:+: after

section
variable [DecidableEq α]

/-- The number of events `a` that came last. -/
def streak (a : α) (l : List α) : Nat :=
  (l.rtakeWhile (· = a)).length

@[simp] theorem streak_nil (a : α) : streak a [] = 0 :=
  rfl

@[simp] theorem streak_concat_self (a : α) (l : List α) : streak a (l ++ [a]) = streak a l + 1 := by
  simp [streak]

theorem streak_concat_of_ne (h : b ≠ a) (l : List α) : streak a (l ++ [b]) = 0 := by
  simp [streak, h]

/-- A history ends with `n` events `a` when its streak is as long as that. -/
private theorem replicate_suffix_iff : List.replicate n a <:+ l ↔ n ≤ streak a l := by
  induction l using List.reverseRecOn generalizing n with
  | nil => simp
  | append_singleton l b ih =>
    cases n with
    | zero => simp
    | succ n =>
      rw [List.replicate_succ', List.suffix_concat_iff]
      by_cases hb : b = a
      · subst hb
        rw [streak_concat_self, Nat.add_le_add_iff_right, ← ih]
        simp
      · rw [streak_concat_of_ne hb]
        simp [Ne.symm hb]

/-- A streak does not reach back over another event. -/
private theorem streak_append_replicate (hne : a ≠ b) (hm : 0 < m) (before after : List α) :
    streak b (before ++ List.replicate m a ++ after) = streak b after := by
  induction after using List.reverseRecOn with
  | nil =>
    obtain ⟨k, rfl⟩ : ∃ k, m = k + 1 := ⟨m - 1, by omega⟩
    rw [List.append_nil, List.replicate_succ', ← List.append_assoc, streak_concat_of_ne hne, streak_nil]
  | append_singleton after c ih =>
    rw [← List.append_assoc]
    by_cases hc : c = b
    · subst hc
      rw [streak_concat_self, streak_concat_self, ih]
    · rw [streak_concat_of_ne hc, streak_concat_of_ne hc]

end

theorem not_latched_nil (hm : 0 < m) : ¬ Latched a m b n [] := by
  rintro ⟨before, after, heq, -⟩
  have hlen := congrArg List.length heq
  simp only [List.length_nil, List.length_append, List.length_replicate] at hlen
  omega

/-- What comes after the events `a` in a history that is one event longer. -/
private theorem after_concat {c : α} {before after : List α}
    (h : l ++ [c] = before ++ List.replicate m a ++ after) :
    (after = [] ∧ List.replicate m a <:+ l ++ [c]) ∨
      ∃ rest, after = rest ++ [c] ∧ l = before ++ List.replicate m a ++ rest := by
  rcases List.eq_nil_or_concat' after with rfl | ⟨rest, d, rfl⟩
  · rw [List.append_nil] at h
    exact .inl ⟨rfl, before, h.symm⟩
  · rw [← List.append_assoc] at h
    obtain ⟨hl, hd⟩ := List.append_inj' h rfl
    cases hd
    exact .inr ⟨rest, rfl, hl⟩

variable [DecidableEq α]

/-- **The latch is set** by an event `a` that makes the streak long enough, and no event `a` resets it. -/
theorem latched_concat_set (hne : a ≠ b) (hn : 0 < n) :
    Latched a m b n (l ++ [a]) ↔ Latched a m b n l ∨ m ≤ streak a (l ++ [a]) := by
  have hempty : ¬ List.replicate n b <:+: [] := by
    rw [List.infix_nil, List.replicate_eq_nil_iff]
    omega
  constructor
  · rintro ⟨before, after, heq, hfree⟩
    rcases after_concat heq with ⟨-, hsuffix⟩ | ⟨rest, rfl, hl⟩
    · exact .inr (replicate_suffix_iff.1 hsuffix)
    · exact .inl ⟨before, rest, hl, fun hwithin => hfree (hwithin.trans (List.prefix_append _ _).isInfix)⟩
  · rintro (⟨before, after, rfl, hfree⟩ | hstreak)
    · refine ⟨before, after ++ [a], by rw [List.append_assoc], fun hwithin => ?_⟩
      -- events `b` in a row do not reach up to the last event
      rcases List.infix_concat_iff.1 hwithin with hsuffix | hwithin
      · rw [replicate_suffix_iff, streak_concat_of_ne hne] at hsuffix
        omega
      · exact hfree hwithin
    · obtain ⟨before, heq⟩ := replicate_suffix_iff.2 hstreak
      exact ⟨before, [], by rw [List.append_nil, heq], hempty⟩

/-- **The latch is reset** by an event `b` that makes the streak long enough, and no event `b` sets it. -/
theorem latched_concat_reset (hne : a ≠ b) (hm : 0 < m) :
    Latched a m b n (l ++ [b]) ↔ Latched a m b n l ∧ streak b (l ++ [b]) < n := by
  constructor
  · rintro ⟨before, after, heq, hfree⟩
    rcases after_concat heq with ⟨-, hsuffix⟩ | ⟨rest, rfl, hl⟩
    · rw [replicate_suffix_iff, streak_concat_of_ne hne.symm] at hsuffix
      omega
    · refine ⟨⟨before, rest, hl, fun hwithin => hfree (hwithin.trans (List.prefix_append _ _).isInfix)⟩, ?_⟩
      -- a streak that long would be found among the events after the events `a`
      rw [← Nat.not_le, ← replicate_suffix_iff]
      intro hsuffix
      rw [hl, replicate_suffix_iff, List.append_assoc, streak_append_replicate hne hm] at hsuffix
      exact hfree (replicate_suffix_iff.2 hsuffix).isInfix
  · rintro ⟨⟨before, after, rfl, hfree⟩, hstreak⟩
    refine ⟨before, after ++ [b], by rw [List.append_assoc], fun hwithin => ?_⟩
    rcases List.infix_concat_iff.1 hwithin with hsuffix | hwithin
    · have hlong := replicate_suffix_iff.1 (hsuffix.trans (List.suffix_append (before ++ List.replicate m a) _))
      rw [← List.append_assoc] at hlong
      omega
    · exact hfree hwithin

end Streaks
