import Mathlib.Algebra.BigOperators.Group.List.Basic
import Mathlib.Algebra.GroupWithZero.Nat
import Mathlib.Algebra.Order.Group.Nat
import Mathlib.Data.List.Perm.Basic

/-!
# Threads that share a state

Threads of one kind, each with a state of its own, that take turns on a state they share.  A turn changes the state of
one thread only: `set_perm` says what that means for the states taken together, and `total_set` for a quantity summed
over them.
-/

namespace Threads

/-! ### Totals -/

section
variable {α β : Type*}

/-- With the old element put back, a changed list is the old one with the new element. -/
theorem set_perm {l : List α} {i : Nat} {a : α} (h : l[i]? = some a) (b : α) :
    (a :: l.set i b).Perm (b :: l) := by
  obtain ⟨hi, rfl⟩ := List.getElem?_eq_some_iff.1 h
  have hset : (l[i] :: l.set i b).Perm (l[i] :: b :: l.eraseIdx i) := (List.set_perm_cons_eraseIdx hi b).cons _
  exact hset.trans ((List.Perm.swap ..).trans ((List.getElem_cons_eraseIdx_perm hi).cons _))

/-- A quantity summed over the elements of a list. -/
def total (f : α → Nat) (l : List α) : Nat :=
  (l.map f).sum

@[simp] theorem total_nil (f : α → Nat) : total f [] = 0 :=
  rfl

@[simp] theorem total_cons (f : α → Nat) (a : α) (l : List α) : total f (a :: l) = f a + total f l := by
  rw [total, List.map_cons, List.sum_cons]
  rfl

@[simp] theorem total_append (f : α → Nat) (l l' : List α) : total f (l ++ l') = total f l + total f l' := by
  rw [total, List.map_append, List.sum_append]
  rfl

@[simp] theorem total_singleton (f : α → Nat) (a : α) : total f [a] = f a := by
  simp [total]

theorem total_set (f : α → Nat) {l : List α} {i : Nat} {a : α} (h : l[i]? = some a) (b : α) :
    total f (l.set i b) + f a = total f l + f b := by
  have hsum := ((set_perm h b).map f).sum_eq
  rw [List.map_cons, List.map_cons, List.sum_cons, List.sum_cons] at hsum
  rw [total, total, Nat.add_comm, hsum, Nat.add_comm]

theorem total_eq_zero {f : α → Nat} {l : List α} (h : ∀ a ∈ l, f a = 0) : total f l = 0 :=
  List.sum_eq_zero fun n hn => by
    obtain ⟨a, ha, rfl⟩ := List.mem_map.1 hn
    exact h a ha

theorem total_replicate (f : α → Nat) {a : α} (h : f a = 0) (n : Nat) : total f (List.replicate n a) = 0 :=
  total_eq_zero fun _ hb => (List.eq_of_mem_replicate hb).symm ▸ h

theorem total_congr {f g : α → Nat} {l : List α} (h : ∀ a ∈ l, f a = g a) : total f l = total g l := by
  rw [total, List.map_congr_left h]
  rfl

theorem total_le_total {f g : α → Nat} {l : List α} (h : ∀ a ∈ l, f a ≤ g a) : total f l ≤ total g l := by
  induction l with
  | nil => exact Nat.le_refl _
  | cons a l ih =>
    rw [total_cons, total_cons]
    exact Nat.add_le_add (h a List.mem_cons_self) (ih fun b hb => h b (List.mem_cons_of_mem a hb))

theorem total_map (f : β → Nat) (g : α → β) (l : List α) : total f (l.map g) = total (f ∘ g) l := by
  rw [total, List.map_map]
  rfl

/-- A change that adds no more than one for each element. -/
theorem total_map_le {f : α → Nat} {g : α → α} (h : ∀ a, f (g a) ≤ f a + 1) (l : List α) :
    total f (l.map g) ≤ total f l + l.length := by
  induction l with
  | nil => exact Nat.le_refl _
  | cons a l ih =>
    have ha := h a
    rw [List.map_cons, total_cons, total_cons, List.length_cons]
    omega

theorem total_eq_length {f : α → Nat} {l : List α} (h : ∀ a ∈ l, f a = 1) : total f l = l.length := by
  rw [total, List.map_congr_left h, List.map_const', List.sum_replicate]
  exact Nat.mul_one _

theorem total_le_length {f : α → Nat} (h : ∀ a, f a ≤ 1) (l : List α) : total f l ≤ l.length := by
  induction l with
  | nil => exact Nat.le_refl _
  | cons a l ih =>
    have ha := h a
    simp only [total, List.map_cons, List.sum_cons, List.length_cons] at ih ⊢
    omega

theorem total_add (f g : α → Nat) (l : List α) : total (fun a => f a + g a) l = total f l + total g l := by
  rw [total, List.sum_map_add]
  rfl

/-- Where an element does not count, fewer do than there are. -/
theorem total_lt_length {f : α → Nat} (h : ∀ a, f a ≤ 1) {l : List α} {i : Nat} {a : α} (hget : l[i]? = some a)
    (ha : f a = 0) : total f l < l.length := by
  obtain ⟨hi, rfl⟩ := List.getElem?_eq_some_iff.1 hget
  have hsum : total f l = f l[i] + total f (l.eraseIdx i) := by
    rw [← total_cons, total, total, ((List.getElem_cons_eraseIdx_perm hi).map f).sum_eq]
  have hothers := total_le_length h (l.eraseIdx i)
  rw [List.length_eraseIdx_of_lt hi] at hothers
  omega

/-! ### One element changed -/

theorem getElem?_set_cases {l : List α} {i j : Nat} {b c : α} (h : (l.set i b)[j]? = some c) :
    (j = i ∧ c = b) ∨ (j ≠ i ∧ l[j]? = some c) := by
  rw [List.getElem?_set] at h
  split at h
  · next heq =>
    split at h
    · exact .inl ⟨heq.symm, (Option.some.inj h).symm⟩
    · cases h
  · next hne => exact .inr ⟨fun heq => hne heq.symm, h⟩

theorem getElem?_set_of_ne {l : List α} {i j : Nat} {c : α} (b : α) (hne : j ≠ i) (h : l[j]? = some c) :
    (l.set i b)[j]? = some c := by
  rwa [List.getElem?_set_ne hne.symm]

theorem getElem?_set_of_some {l : List α} {i : Nat} {a : α} (b : α) (h : l[i]? = some a) :
    (l.set i b)[i]? = some b :=
  List.getElem?_set_self (List.getElem?_eq_some_iff.1 h).1

theorem getElem?_append_singleton_cases {l : List α} {j : Nat} {b c : α} (h : (l ++ [b])[j]? = some c) :
    l[j]? = some c ∨ c = b := by
  rw [List.getElem?_append] at h
  split at h
  · exact .inl h
  · exact .inr (List.mem_singleton.1 (List.mem_of_getElem? h))

/-- An element stays when another one is changed. -/
theorem mem_set_of_ne {l : List α} {i : Nat} {a b c : α} (h : l[i]? = some a) (hne : c ≠ a) (hc : c ∈ l) :
    c ∈ l.set i b := by
  obtain ⟨j, hj⟩ := List.getElem?_of_mem hc
  refine List.mem_of_getElem? (getElem?_set_of_ne b (fun heq => hne ?_) hj)
  exact Option.some.inj (hj.symm.trans (heq ▸ h))

theorem any_set {f : α → Bool} {l : List α} {i : Nat} {a b : α} (h : l[i]? = some a) (hf : f b = f a) (j : Nat) :
    (l.set i b)[j]?.any f = l[j]?.any f := by
  rw [List.getElem?_set]
  split
  · next heq =>
    subst heq
    rw [if_pos (List.getElem?_eq_some_iff.1 h).1, h]
    exact hf
  · rfl

theorem any_set_of_some {f : α → Bool} {l : List α} {i : Nat} {a : α} (b : α) (h : l[i]? = some a) (j : Nat) :
    (l.set i b)[j]?.any f = if j = i then f b else l[j]?.any f := by
  split
  · next heq =>
    subst heq
    rw [getElem?_set_of_some b h]
    rfl
  · next hne => rw [List.getElem?_set_ne (Ne.symm hne)]

theorem any_append_singleton (f : α → Bool) (l : List α) (b : α) (j : Nat) :
    (l ++ [b])[j]?.any f = if j = l.length then f b else l[j]?.any f := by
  split
  · next heq =>
    subst heq
    rw [List.getElem?_concat_length]
    rfl
  · next hne =>
    rcases Nat.lt_or_gt_of_ne hne with hlt | hgt
    · rw [List.getElem?_append_left hlt]
    · rw [List.getElem?_eq_none (by simpa using Nat.succ_le_of_lt hgt), List.getElem?_eq_none (Nat.le_of_lt hgt)]

theorem forall_set {P : α → Prop} {l : List α} (i : Nat) {b : α} (h : ∀ a ∈ l, P a) (hb : P b) :
    ∀ a ∈ l.set i b, P a := by
  intro a ha
  rcases List.mem_or_eq_of_mem_set ha with ha | rfl
  · exact h a ha
  · exact hb

theorem exists_set {P : α → Prop} {l : List α} {i : Nat} {a b : α} (h : l[i]? = some a) (hab : P a → P b)
    (hex : ∃ x ∈ l, P x) : ∃ x ∈ l.set i b, P x := by
  obtain ⟨x, hx, hP⟩ := hex
  by_cases heq : x = a
  · exact ⟨b, List.mem_of_getElem? (getElem?_set_of_some b h), hab (heq ▸ hP)⟩
  · exact ⟨x, mem_set_of_ne h heq hx, hP⟩

/-- What the elements of a list have to show, when one of them is changed. -/
theorem mem_filterMap_set (f : α → Option β) {l : List α} {i : Nat} {a : α} (h : l[i]? = some a) (b : α) (x : β) :
    (f a = some x ∨ x ∈ (l.set i b).filterMap f) ↔ (f b = some x ∨ x ∈ l.filterMap f) := by
  have hperm := ((set_perm h b).filterMap f).mem_iff (a := x)
  simpa only [List.mem_filterMap, List.mem_cons, exists_eq_or_imp] using hperm

end

/-! ### Turns -/

structure System (σ τ : Type*) where
  shared : σ
  locals : List τ

section
variable {σ τ ε : Type*} (step : τ → ε → σ → Option (τ × σ))

/-- A thread takes a turn, on what it meets there. -/
def System.turn (s : System σ τ) (i : Nat) (e : ε) : Option (System σ τ) :=
  s.locals[i]?.bind fun t => (step t e s.shared).map fun r => { shared := r.2, locals := s.locals.set i r.1 }

variable {step} {s s' : System σ τ} {i : Nat} {e : ε}

theorem System.turn_eq_some (h : s.turn step i e = some s') :
    ∃ t t' shared, s.locals[i]? = some t ∧ step t e s.shared = some (t', shared) ∧
      s' = { shared, locals := s.locals.set i t' } := by
  obtain ⟨t, ht, hstep⟩ := Option.bind_eq_some_iff.1 h
  obtain ⟨⟨t', shared⟩, hr, rfl⟩ := Option.map_eq_some_iff.1 hstep
  exact ⟨t, t', shared, ht, hr, rfl⟩

end

end Threads
