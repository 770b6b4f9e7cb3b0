import Mathlib.Data.List.Basic
import Mathlib.Data.List.DropRight
import Mathlib.Tactic.Common

/-!
# Delimited text with an escape symbol

Fields over an arbitrary alphabet, joined by a separator `sep` and protected by an escape symbol `esc`.
A separator counts as escaped when the run of escape symbols right before it is odd; `split` is the scan that
keeps the length of that run.  The key facts: `unescape` undoes `escape` (`unescape_escape`), and splitting a
join of escaped fields gives back exactly the escaped fields (`split_join_escape`), so no content of one field
can end it early or reach into the next.  On any text, escaped or not, `split` cuts at the unescaped separators and
nowhere else (`join_split`, `not_bare_of_mem_split`, `length_split`).
-/

namespace Delimited

variable {α : Type*} (sep esc : α)

/-- Join fields with the separator. -/
def join (fields : List (List α)) : List α := [sep].intercalate fields

@[simp] theorem join_singleton (f : List α) : join sep [f] = f := by
  simp [join]

@[simp] theorem join_cons_cons (f g : List α) (fs : List (List α)) :
    join sep (f :: g :: fs) = f ++ sep :: join sep (g :: fs) := by
  simp [join, List.intercalate]

variable [DecidableEq α]

/-- Put an escape symbol before every separator and every escape symbol. -/
def escape : List α → List α
  | [] => []
  | c :: cs => if c = esc ∨ c = sep then esc :: c :: escape cs else c :: escape cs

/-- The unescaping loop, with its flag: was the previous symbol an unconsumed escape symbol? -/
def unescapeFrom : Bool → List α → List α
  | true, [] => [esc]
  | false, [] => []
  | true, c :: cs => c :: unescapeFrom false cs
  | false, c :: cs => if c = esc then unescapeFrom true cs else c :: unescapeFrom false cs

/-- Drop the escape symbols; one left over at the end stands for itself. -/
def unescape (s : List α) : List α := unescapeFrom esc false s

/-- The splitting loop, with the run of escape symbols just read and the field read so far. -/
def splitFrom : Nat → List α → List α → List (List α)
  | _, current, [] => [current]
  | run, current, c :: cs =>
    if c = sep ∧ run % 2 ≠ 1 then current :: splitFrom 0 [] cs
    else splitFrom (if c = esc then run + 1 else 0) (current ++ [c]) cs

/-- Split a text at its unescaped separators. -/
def split (s : List α) : List (List α) := splitFrom sep esc 0 [] s

/-! ### Escaping and back -/

variable {sep esc}

theorem escape_eq_self {s : List α} (hs : sep ∉ s) (he : esc ∉ s) : escape sep esc s = s := by
  induction s with
  | nil => rfl
  | cons c s ih =>
    simp only [List.mem_cons, not_or] at hs he
    unfold escape
    rw [if_neg (by rintro (h | h) <;> simp_all), ih hs.2 he.2]

theorem unescape_escape (s : List α) : unescape esc (escape sep esc s) = s := by
  unfold unescape
  induction s with
  | nil => rfl
  | cons c s ih =>
    unfold escape
    split
    · simp only [unescapeFrom, ↓reduceIte, ih]
    · next h =>
      simp only [not_or] at h
      simp only [unescapeFrom, if_neg h.1, ih]

/-- Escaping adds escape symbols only. -/
theorem mem_escape_iff {c : α} (h : c ≠ esc) {s : List α} : c ∈ escape sep esc s ↔ c ∈ s := by
  induction s with
  | nil => rfl
  | cons a s ih =>
    unfold escape
    split
    · simp only [List.mem_cons, ih, h, false_or]
    · simp only [List.mem_cons, ih]

omit [DecidableEq α] in
theorem mem_join_iff {c : α} (h : c ≠ sep) {fields : List (List α)} : c ∈ join sep fields ↔ ∃ f ∈ fields, c ∈ f := by
  induction fields with
  | nil => simp [join, List.intercalate]
  | cons f fields ih =>
    cases fields with
    | nil => simp
    | cons g fields =>
      rw [join_cons_cons, List.mem_append, List.mem_cons, ih]
      simp only [h, false_or, List.exists_mem_cons_iff]

/-! ### Splitting a join -/

/-- Reading an escaped field after an even run extends the current field by it and leaves an even run. -/
private theorem splitFrom_escape (hne : sep ≠ esc) (s : List α) : ∀ (run : Nat) (current : List α), run % 2 = 0 →
    ∃ run', run' % 2 = 0 ∧ ∀ rest, splitFrom sep esc run current (escape sep esc s ++ rest) =
      splitFrom sep esc run' (current ++ escape sep esc s) rest := by
  induction s with
  | nil => exact fun run current h => ⟨run, h, fun rest => by simp [escape]⟩
  | cons c s ih =>
    intro run current hrun
    by_cases hesc : c = esc
    · subst hesc
      obtain ⟨run', hrun', hsplit⟩ := ih (run + 2) (current ++ [c] ++ [c]) (by omega)
      refine ⟨run', hrun', fun rest => ?_⟩
      have he : escape sep c (c :: s) = c :: c :: escape sep c s := by simp [escape]
      rw [he]
      simp only [List.cons_append, splitFrom, Ne.symm hne, false_and, ↓reduceIte, hsplit]
      simp
    · by_cases hsep : c = sep
      · subst hsep
        -- the run is odd when the separator is read, so it is part of the field
        obtain ⟨run', hrun', hsplit⟩ := ih 0 (current ++ [esc] ++ [c]) rfl
        refine ⟨run', hrun', fun rest => ?_⟩
        have he : escape c esc (c :: s) = esc :: c :: escape c esc s := by simp [escape]
        rw [he]
        simp only [List.cons_append, splitFrom, Ne.symm hne, false_and, ↓reduceIte]
        rw [if_neg (by omega), if_neg hne, hsplit]
        simp
      · obtain ⟨run', hrun', hsplit⟩ := ih 0 (current ++ [c]) rfl
        refine ⟨run', hrun', fun rest => ?_⟩
        have he : escape sep esc (c :: s) = c :: escape sep esc s := by simp [escape, hesc, hsep]
        rw [he]
        simp only [List.cons_append, splitFrom, hsep, hesc, false_and, ↓reduceIte, hsplit]
        simp

/-- **Splitting a join of escaped fields gives back exactly these fields.** -/
theorem split_join_escape (hne : sep ≠ esc) {fields : List (List α)} (h : fields ≠ []) :
    split sep esc (join sep (fields.map (escape sep esc))) = fields.map (escape sep esc) := by
  unfold split
  induction fields with
  | nil => exact absurd rfl h
  | cons f fs ih =>
    obtain ⟨run', hrun', hsplit⟩ := splitFrom_escape hne f 0 [] rfl
    cases fs with
    | nil =>
      have := hsplit []
      rw [List.append_nil] at this
      simp only [List.map_cons, List.map_nil, join_singleton, this]
      simp [splitFrom]
    | cons g gs =>
      simp only [List.map_cons, join_cons_cons] at ih ⊢
      rw [hsplit]
      simp only [List.nil_append, splitFrom, true_and]
      rw [if_pos (by omega), ih (by simp)]

/-- The first field extends what had been read of it. -/
private theorem splitFrom_head (s : List α) :
    ∀ (run : Nat) (current : List α), ∃ f fs, splitFrom sep esc run current s = f :: fs ∧ current <+: f := by
  induction s with
  | nil => exact fun run current => ⟨current, [], rfl, List.prefix_rfl⟩
  | cons c s ih =>
    intro run current
    unfold splitFrom
    split
    · exact ⟨current, _, rfl, List.prefix_rfl⟩
    · obtain ⟨f, fs, hf, hpre⟩ := ih (if c = esc then run + 1 else 0) (current ++ [c])
      exact ⟨f, fs, hf, (List.prefix_append current [c]).trans hpre⟩

/-- A text that does not start with a separator starts its first field with its first symbol. -/
theorem split_cons_head {c : α} (h : c ≠ sep) (s : List α) :
    ∃ f fs, split sep esc (c :: s) = (c :: f) :: fs := by
  obtain ⟨f, fs, hf, f', rfl⟩ := @splitFrom_head _ sep esc _ s (if c = esc then 1 else 0) [c]
  refine ⟨f', fs, ?_⟩
  unfold split splitFrom
  rw [if_neg (by simp [h])]
  simpa using hf

/-! ### Splitting any text -/

section
variable (sep esc)

/-- The length of the run of escape symbols that a text ends with. -/
def escapeRun (s : List α) : Nat := (s.rtakeWhile (· = esc)).length

/-- The position holds a separator that is not escaped. -/
def Bare (s : List α) (i : Nat) : Prop := s[i]? = some sep ∧ escapeRun esc (s.take i) % 2 = 0

instance (s : List α) (i : Nat) : Decidable (Bare sep esc s i) :=
  inferInstanceAs (Decidable (_ ∧ _))

/-- The positions of the separators that are not escaped. -/
def bareSeparators (s : List α) : List Nat := (List.range s.length).filter (Bare sep esc s)

end

@[simp] theorem escapeRun_nil : escapeRun esc ([] : List α) = 0 := by
  rw [escapeRun, List.rtakeWhile_nil, List.length_nil]

private theorem escapeRun_concat (s : List α) (c : α) :
    escapeRun esc (s ++ [c]) = if c = esc then escapeRun esc s + 1 else 0 := by
  unfold escapeRun
  rw [List.rtakeWhile_concat]
  by_cases h : c = esc <;> simp [h]

private theorem bare_append_cons (pre rest : List α) (c : α) :
    Bare sep esc (pre ++ c :: rest) pre.length ↔ c = sep ∧ escapeRun esc pre % 2 = 0 := by
  unfold Bare
  rw [List.take_left, List.getElem?_append_right (Nat.le_refl _), Nat.sub_self, List.getElem?_cons_zero,
    Option.some.injEq]

/-- Nothing is lost. -/
private theorem join_splitFrom (s : List α) :
    ∀ (run : Nat) (current : List α), join sep (splitFrom sep esc run current s) = current ++ s := by
  induction s with
  | nil =>
    intro run current
    rw [splitFrom, join_singleton, List.append_nil]
  | cons c s ih =>
    intro run current
    unfold splitFrom
    split
    · next hcut =>
      obtain ⟨f, fs, hf, -⟩ := @splitFrom_head _ sep esc _ s 0 []
      have hrest := ih 0 []
      rw [hf] at hrest ⊢
      rw [join_cons_cons, hrest, hcut.1, List.nil_append]
    · rw [ih, List.append_assoc, List.singleton_append]

theorem join_split (s : List α) : join sep (split sep esc s) = s :=
  join_splitFrom s 0 []

private theorem not_bare_concat {s : List α} {c : α} (h : ∀ i, ¬ Bare sep esc s i)
    (hc : ¬ (c = sep ∧ escapeRun esc s % 2 = 0)) (i : Nat) : ¬ Bare sep esc (s ++ [c]) i := by
  rcases Nat.lt_trichotomy i s.length with hlt | rfl | hgt
  · have hsame : Bare sep esc (s ++ [c]) i ↔ Bare sep esc s i := by
      unfold Bare
      rw [List.getElem?_append_left hlt, List.take_append_of_le_length (Nat.le_of_lt hlt)]
    rw [hsame]
    exact h i
  · rw [bare_append_cons]
    exact hc
  · rintro ⟨hsome, -⟩
    rw [List.getElem?_eq_none (by rw [List.length_append, List.length_singleton]; exact hgt)] at hsome
    cases hsome

/-- The run that the loop counts is the one that the field read so far ends with. -/
private theorem not_bare_of_mem_splitFrom {s f : List α} :
    ∀ {current : List α}, (∀ i, ¬ Bare sep esc current i) → f ∈ splitFrom sep esc (escapeRun esc current) current s →
      ∀ i, ¬ Bare sep esc f i := by
  induction s with
  | nil =>
    intro current hcurrent hmem
    rw [splitFrom, List.mem_singleton] at hmem
    rw [hmem]
    exact hcurrent
  | cons c s ih =>
    intro current hcurrent hmem
    rw [splitFrom] at hmem
    split at hmem
    · rcases List.mem_cons.1 hmem with rfl | hrest
      · exact hcurrent
      · rw [← @escapeRun_nil _ esc] at hrest
        exact ih (fun i h => by simpa using h.1) hrest
    · next hcut =>
      rw [← escapeRun_concat] at hmem
      refine ih (not_bare_concat hcurrent fun hbare => hcut ⟨hbare.1, ?_⟩) hmem
      rw [hbare.2]
      decide

/-- No field holds a separator that is not escaped. -/
theorem not_bare_of_mem_split {s f : List α} (h : f ∈ split sep esc s) (i : Nat) :
    ¬ Bare sep esc f i := by
  rw [split, ← @escapeRun_nil _ esc] at h
  exact not_bare_of_mem_splitFrom (fun i h => by simpa using h.1) h i

/-- The number of fields from behind a part of the text on. -/
private theorem length_splitFrom (hne : sep ≠ esc) (s : List α) :
    ∀ (pre current : List α), (splitFrom sep esc (escapeRun esc pre) current s).length =
      ((List.range' pre.length s.length).filter (Bare sep esc (pre ++ s))).length + 1 := by
  induction s with
  | nil => exact fun _ _ => rfl
  | cons c s ih =>
    intro pre current
    have hrest := ih (pre ++ [c])
    rw [List.append_assoc, List.singleton_append, List.length_append, List.length_singleton, escapeRun_concat] at hrest
    rw [splitFrom, List.length_cons, List.range'_succ, List.filter_cons]
    simp only [bare_append_cons, decide_eq_true_eq]
    by_cases hcut : c = sep ∧ escapeRun esc pre % 2 = 0
    · rw [if_pos ⟨hcut.1, by omega⟩, if_pos hcut, List.length_cons, List.length_cons]
      rw [if_neg (hcut.1 ▸ hne)] at hrest
      rw [hrest]
    · rw [if_neg fun h => hcut ⟨h.1, by omega⟩, if_neg hcut, hrest]

/-- There is one field more than separators that are not escaped. -/
theorem length_split (hne : sep ≠ esc) (s : List α) :
    (split sep esc s).length = (bareSeparators sep esc s).length + 1 := by
  have h := length_splitFrom hne s [] []
  rw [escapeRun_nil, List.nil_append, List.length_nil, ← List.range_eq_range'] at h
  exact h

end Delimited
