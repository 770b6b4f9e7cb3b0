import Mathlib.Order.Lattice
import Mathlib.Tactic.Common

/-!
# Queues with priorities

A queue is the list of its elements in the order of their arrival.  What is taken from it is the earliest of the
elements of the highest priority (`take`).  The key facts: what `take` removes and what it leaves
(`take_eq_some_iff`), when it removes the earliest element of all (`take_eq_head_iff`), how the place of that element
moves as others arrive and leave (`Split.arrive`, `Split.overtake`, `Split.filter`), when it has an equal
(`Split.tied_iff`), that `take` commutes with maps that keep the priorities (`take_map`), and that those of one priority
leave in the order in which they arrived (`Passed.arrive`, `Passed.take`).
-/

namespace PriorityFifo

variable {α β P : Type*} [LinearOrder P]

/-- The earliest element of the highest priority, and the queue without it. -/
def take (priority : α → P) : List α → Option (α × List α)
  | [] => none
  | x :: xs =>
    match take priority xs with
    | none => some (x, [])
    | some (y, rest) => if priority y ≤ priority x then some (x, xs) else some (y, x :: rest)

variable {priority : α → P} {l rest : List α} {x : α}

@[simp] theorem take_nil : take priority [] = none :=
  rfl

private theorem take_ne_none (h : l ≠ []) : take priority l ≠ none := by
  cases l with
  | nil => exact absurd rfl h
  | cons x xs =>
    unfold take
    split
    · exact Option.some_ne_none _
    · split
      · exact Option.some_ne_none _
      · exact Option.some_ne_none _

theorem take_eq_none_iff : take priority l = none ↔ l = [] := by
  refine ⟨fun h => ?_, fun h => h ▸ rfl⟩
  by_contra hne
  exact take_ne_none hne h

/-- Everything before the element taken has a lower priority, and nothing after it a higher one. -/
structure Split (priority : α → P) (l : List α) (x : α) (pre post : List α) : Prop where
  eq : l = pre ++ x :: post
  before : ∀ y ∈ pre, priority y < priority x
  after : ∀ y ∈ post, priority y ≤ priority x

theorem Split.mem {pre post : List α} (h : Split priority l x pre post) : x ∈ l := by
  rw [h.eq]
  exact List.mem_append_right _ List.mem_cons_self

/-- It has the highest priority. -/
theorem Split.le {pre post : List α} (h : Split priority l x pre post) : ∀ y ∈ l, priority y ≤ priority x := by
  intro y hy
  rw [h.eq, List.mem_append, List.mem_cons] at hy
  rcases hy with hbefore | rfl | hafter
  · exact le_of_lt (h.before y hbefore)
  · exact le_refl _
  · exact h.after y hafter

theorem take_split (h : take priority l = some (x, rest)) :
    ∃ pre post, Split priority l x pre post ∧ rest = pre ++ post := by
  induction l generalizing x rest with
  | nil => cases h
  | cons a l ih =>
    unfold take at h
    split at h
    · next hnone =>
      cases h
      rw [take_eq_none_iff] at hnone
      subst hnone
      exact ⟨[], [], ⟨rfl, fun y hy => absurd hy List.not_mem_nil, fun y hy => absurd hy List.not_mem_nil⟩, rfl⟩
    · next y rest' hsome =>
      obtain ⟨pre, post, hsplit, rfl⟩ := ih hsome
      split at h
      · next hle =>
        cases h
        refine ⟨[], l, ⟨rfl, fun z hz => absurd hz List.not_mem_nil, fun z hz => ?_⟩, rfl⟩
        exact le_trans (hsplit.le z hz) hle
      · next hlt =>
        cases h
        refine ⟨a :: pre, post, ⟨by rw [hsplit.eq]; rfl, fun z hz => ?_, hsplit.after⟩, rfl⟩
        rcases List.mem_cons.1 hz with rfl | hz
        · exact not_le.1 hlt
        · exact hsplit.before z hz

/-- There is only one such place in a queue. -/
theorem Split.unique {y : α} {pre post pre' post' : List α} (h : Split priority l x pre post)
    (h' : Split priority l y pre' post') : x = y ∧ pre = pre' ∧ post = post' := by
  have heq := h.eq.symm.trans h'.eq
  rcases List.append_eq_append_iff.1 heq with ⟨mid, hpre, hrest⟩ | ⟨mid, hpre, hrest⟩
  · cases mid with
    | nil =>
      rw [List.append_nil] at hpre
      rw [List.nil_append, List.cons.injEq] at hrest
      exact ⟨hrest.1, hpre.symm, hrest.2⟩
    | cons b mid =>
      -- the second element comes after the first one, which then has to be smaller and not smaller
      rw [List.cons_append, List.cons.injEq] at hrest
      obtain ⟨rfl, rfl⟩ := hrest
      have hlt := h'.before x (by rw [hpre]; simp)
      exact absurd (h.after y (by simp)) (not_le.2 hlt)
  · cases mid with
    | nil =>
      rw [List.append_nil] at hpre
      rw [List.nil_append, List.cons.injEq] at hrest
      exact ⟨hrest.1.symm, hpre, hrest.2.symm⟩
    | cons b mid =>
      rw [List.cons_append, List.cons.injEq] at hrest
      obtain ⟨rfl, rfl⟩ := hrest
      have hlt := h.before y (by rw [hpre]; simp)
      exact absurd (h'.after x (by simp)) (not_le.2 hlt)

/-! ### Elements that arrive, elements that leave -/

theorem Split.singleton (x : α) : Split priority [x] x [] [] :=
  ⟨rfl, fun _ hy => absurd hy List.not_mem_nil, fun _ hy => absurd hy List.not_mem_nil⟩

/-- What is taken and what is left were in the list. -/
theorem mem_of_take (h : take priority l = some (x, rest)) {y : α} (hy : y ∈ x :: rest) : y ∈ l := by
  obtain ⟨pre, post, hsplit, rfl⟩ := take_split h
  rw [hsplit.eq]
  simpa [or_left_comm] using hy

/-- An element that is not of a higher priority stays behind. -/
theorem Split.arrive {y : α} {pre post : List α} (h : Split priority l x pre post) (hle : priority y ≤ priority x) :
    Split priority (l ++ [y]) x pre (post ++ [y]) := by
  refine ⟨by rw [h.eq, List.append_assoc, List.cons_append], h.before, fun z hz => ?_⟩
  rcases List.mem_append.1 hz with hold | hnew
  · exact h.after z hold
  · rw [List.mem_singleton.1 hnew]
    exact hle

/-- An element of a higher priority comes first. -/
theorem Split.overtake {y : α} {pre post : List α} (h : Split priority l x pre post) (hlt : priority x < priority y) :
    Split priority (l ++ [y]) y l [] := by
  refine ⟨rfl, fun z hz => ?_, fun _ hz => absurd hz List.not_mem_nil⟩
  exact lt_of_le_of_lt (h.le z hz) hlt

/-- Elements may leave as long as the first one stays. -/
theorem Split.filter {pre post : List α} (h : Split priority l x pre post) {p : α → Bool} (hx : p x = true) :
    Split priority (l.filter p) x (pre.filter p) (post.filter p) := by
  refine ⟨by rw [h.eq, List.filter_append, List.filter_cons_of_pos hx], fun y hy => ?_, fun y hy => ?_⟩
  · exact h.before y ((List.mem_filter.1 hy).1)
  · exact h.after y ((List.mem_filter.1 hy).1)

/-! ### Ties -/

/-- Two elements share the highest priority. -/
def Tied (priority : α → P) (l : List α) : Prop :=
  ∃ y z, [y, z].Sublist l ∧ priority y = priority z ∧ ∀ w ∈ l, priority w ≤ priority y

/-- A tie is a later element of the priority of the first one. -/
theorem Split.tied_iff {pre post : List α} (h : Split priority l x pre post) :
    Tied priority l ↔ ∃ y ∈ post, priority y = priority x := by
  constructor
  · rintro ⟨y, z, hsub, heq, hmax⟩
    have htop : priority y = priority x :=
      le_antisymm (h.le y (hsub.subset (by simp))) (hmax x h.mem)
    rw [h.eq, List.sublist_append_iff] at hsub
    obtain ⟨first, second, hsplit, hfirst, hsecond⟩ := hsub
    cases first with
    | nil =>
      rw [List.nil_append] at hsplit
      subst hsplit
      refine ⟨z, ?_, heq.symm.trans htop⟩
      rcases List.sublist_cons_iff.1 hsecond with hlater | ⟨r, hr, hsub⟩
      · exact hlater.subset (by simp)
      · rw [List.cons.injEq] at hr
        obtain ⟨-, rfl⟩ := hr
        exact hsub.subset (by simp)
    | cons a first =>
      rw [List.cons_append, List.cons.injEq] at hsplit
      obtain ⟨rfl, -⟩ := hsplit
      exact absurd (h.before y (hfirst.subset (by simp))) (htop ▸ lt_irrefl _)
  · rintro ⟨y, hy, heq⟩
    refine ⟨x, y, ?_, heq.symm, h.le⟩
    rw [h.eq]
    exact ((List.singleton_sublist.2 hy).cons_cons x).trans (List.sublist_append_right _ _)

/-- **What is taken.** -/
theorem take_eq_some_iff :
    take priority l = some (x, rest) ↔ ∃ pre post, Split priority l x pre post ∧ rest = pre ++ post := by
  refine ⟨take_split, ?_⟩
  rintro ⟨pre, post, hsplit, rfl⟩
  have hne : l ≠ [] := by
    rw [hsplit.eq]
    simp
  have htaken : take priority l ≠ none := take_ne_none hne
  obtain ⟨⟨y, rest⟩, hsome⟩ := Option.ne_none_iff_exists'.1 htaken
  obtain ⟨pre', post', hsplit', rfl⟩ := take_split hsome
  obtain ⟨rfl, rfl, rfl⟩ := hsplit.unique hsplit'
  exact hsome

theorem take_length (h : take priority l = some (x, rest)) : rest.length + 1 = l.length := by
  obtain ⟨pre, post, hsplit, rfl⟩ := take_split h
  rw [hsplit.eq, List.length_append, List.length_append, List.length_cons, Nat.add_assoc]

/-- The earliest element is taken exactly where none has a higher priority. -/
theorem take_eq_head_iff {xs : List α} :
    take priority (x :: xs) = some (x, xs) ↔ ∀ y ∈ xs, priority y ≤ priority x := by
  constructor
  · intro h
    obtain ⟨pre, post, hsplit, hrest⟩ := take_split h
    cases pre with
    | nil =>
      rw [List.nil_append] at hrest
      rw [hrest]
      exact hsplit.after
    | cons a pre =>
      have heq := hsplit.eq
      rw [List.cons_append, List.cons.injEq] at heq
      exact absurd (hsplit.before x (by rw [heq.1]; simp)) (lt_irrefl _)
  · intro h
    exact take_eq_some_iff.2 ⟨[], xs, ⟨rfl, fun y hy => absurd hy List.not_mem_nil, h⟩, rfl⟩

/-- What is taken from images is the image of what is taken. -/
theorem take_map {f : β → α} (l : List β) :
    take priority (l.map f) = (take (priority ∘ f) l).map fun r => (f r.1, r.2.map f) := by
  induction l with
  | nil => rfl
  | cons b l ih =>
    rw [List.map_cons, take, take, ih]
    cases take (priority ∘ f) l with
    | none => rfl
    | some r =>
      simp only [Option.map_some, Function.comp_apply]
      split
      · rfl
      · rfl

/-! ### The order among equals -/

/-- What is taken is the first of its priority, and those of any priority stay in their order. -/
private theorem filter_eq_of_take (h : take priority l = some (x, rest)) (p : P) :
    l.filter (fun y => priority y = p) =
      [x].filter (fun y => priority y = p) ++ rest.filter (fun y => priority y = p) := by
  obtain ⟨pre, post, hsplit, rfl⟩ := take_split h
  rw [hsplit.eq, List.filter_append, List.filter_append, ← List.singleton_append, List.filter_append]
  by_cases hp : priority x = p
  · -- those before it have a lower priority
    have hpre : pre.filter (fun y => priority y = p) = [] := by
      rw [List.filter_eq_nil_iff]
      intro y hy
      have hlt := hsplit.before y hy
      simpa [hp] using ne_of_lt (hp ▸ hlt)
    rw [hpre, List.nil_append, List.nil_append]
  · have hx : [x].filter (fun y => priority y = p) = [] := by simp [hp]
    rw [hx, List.nil_append, List.nil_append]

/-- Of each priority, those that have arrived are those that have left, in the same order, then those still there. -/
def Passed (priority : α → P) (arrived left l : List α) : Prop :=
  ∀ p, arrived.filter (fun y => priority y = p) =
    left.filter (fun y => priority y = p) ++ l.filter (fun y => priority y = p)

theorem Passed.nil (priority : α → P) : Passed priority [] [] [] :=
  fun _ => rfl

section
variable {arrived left : List α}

theorem Passed.arrive (h : Passed priority arrived left l) (y : α) :
    Passed priority (arrived ++ [y]) left (l ++ [y]) := by
  intro p
  rw [List.filter_append, List.filter_append, h p, List.append_assoc]

theorem Passed.take (h : Passed priority arrived left l) (htake : PriorityFifo.take priority l = some (x, rest)) :
    Passed priority arrived (left ++ [x]) rest := by
  intro p
  rw [h p, filter_eq_of_take htake, List.filter_append, List.append_assoc]

end

end PriorityFifo
