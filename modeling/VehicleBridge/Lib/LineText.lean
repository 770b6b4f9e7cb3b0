import VehicleBridge.Lib.ByteText

/-!
# Texts of lines

Reading a text line by line, and writing lines one after the other.  Lines without a line feed are read back as they
were written (`getLines_unlines`); a line with a line feed in it is read as more than one line
(`not_mem_of_length_getLines`).
-/

namespace LineText

open ByteText

def kLineFeed : UInt8 := 10

/-- `std::getline` until the text is at its end, with what has been read of the current line. -/
def getLinesFrom : Bytes → Bytes → List Bytes
  | current, [] => if current = [] then [] else [current]
  | current, c :: rest =>
    if c = kLineFeed then current :: getLinesFrom [] rest else getLinesFrom (current ++ [c]) rest

def getLines (s : Bytes) : List Bytes := getLinesFrom [] s

/-- The lines, each with a line feed behind it. -/
def unlines (lines : List Bytes) : Bytes := lines.flatMap (· ++ [kLineFeed])

@[simp] theorem getLines_nil : getLines [] = [] :=
  rfl

@[simp] theorem unlines_nil : unlines [] = [] :=
  rfl

private theorem unlines_cons (line : Bytes) (lines : List Bytes) :
    unlines (line :: lines) = line ++ kLineFeed :: unlines lines := by
  simp [unlines]

theorem unlines_append (lines lines' : List Bytes) : unlines (lines ++ lines') = unlines lines ++ unlines lines' := by
  simp [unlines]

private theorem getLinesFrom_append {line : Bytes} (h : kLineFeed ∉ line) (current rest : Bytes) :
    getLinesFrom current (line ++ kLineFeed :: rest) = (current ++ line) :: getLines rest := by
  induction line generalizing current with
  | nil => rw [List.nil_append, getLinesFrom, if_pos rfl, List.append_nil, getLines]
  | cons c line ih =>
    have hc : c ≠ kLineFeed := fun heq => h (heq ▸ List.mem_cons_self)
    rw [List.cons_append, getLinesFrom, if_neg hc, ih fun hmem => h (List.mem_cons_of_mem c hmem)]
    simp

theorem getLines_unlines {lines : List Bytes} (h : ∀ line ∈ lines, kLineFeed ∉ line) :
    getLines (unlines lines) = lines := by
  induction lines with
  | nil => rfl
  | cons line lines ih =>
    rw [unlines_cons, getLines, getLinesFrom_append (h line List.mem_cons_self), List.nil_append,
      ih fun line' hline' => h line' (List.mem_cons_of_mem line hline')]

private theorem length_getLinesFrom (line current rest : Bytes) :
    (getLinesFrom current (line ++ kLineFeed :: rest)).length =
      line.count kLineFeed + 1 + (getLines rest).length := by
  induction line generalizing current with
  | nil =>
    rw [List.nil_append, getLinesFrom, if_pos rfl, List.length_cons, List.count_nil, getLines]
    omega
  | cons c line ih =>
    rw [List.cons_append, getLinesFrom]
    by_cases hc : c = kLineFeed
    · rw [if_pos hc, List.length_cons, ih, hc, List.count_cons_self]
      omega
    · rw [if_neg hc, ih, List.count_cons_of_ne hc]

private theorem le_length_getLines (lines : List Bytes) : lines.length ≤ (getLines (unlines lines)).length := by
  induction lines with
  | nil => exact Nat.le_refl _
  | cons line lines ih =>
    rw [unlines_cons, getLines, length_getLinesFrom, List.length_cons]
    omega

/-- Lines that are read as no more than they are have no line feed in them. -/
theorem not_mem_of_length_getLines {lines : List Bytes} (h : (getLines (unlines lines)).length = lines.length) :
    ∀ line ∈ lines, kLineFeed ∉ line := by
  induction lines with
  | nil => exact nofun
  | cons line lines ih =>
    rw [unlines_cons, getLines, length_getLinesFrom, List.length_cons] at h
    have hle := le_length_getLines lines
    intro l hl
    rcases List.mem_cons.1 hl with rfl | hl
    · exact List.count_eq_zero.1 (by omega)
    · exact ih (by omega) l hl

end LineText
