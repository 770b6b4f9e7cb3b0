import Mathlib.Data.List.Basic
import VehicleBridge.Lib.Tokens

/-!
# Expositions of metrics

Reading the samples of a Prometheus exposition, a line for each: the name of a metric, labels with quoted values, a
value and a time.  Numbers are integers here; other values are refused.

A sample whose label values are plain is read back as it was written (`parseSample_render`).  Of a line that is written
without escaping, the first label is read back only if its value is plain (`plain_of_parseSample`).
-/

namespace Exposition

open ByteText Tokens

def kOpen : UInt8 := 123
def kClose : UInt8 := 125
def kComma : UInt8 := 44
def kEquals : UInt8 := 61
def kSpace : UInt8 := 32
def kMinus : UInt8 := 45

def isBlank (c : UInt8) : Bool := c = 32 ∨ c = 9

/-! ### Label values -/

def escape : Bytes → Option (Bytes × Bytes)
  | [] => none
  | c :: rest =>
    if c = 92 ∨ c = 34 then some ([c], rest)
    else if c = 110 then some ([10], rest)
    else none

theorem escape_eq {s out rest : Bytes} (h : escape s = some (out, rest)) :
    ∃ raw, s = raw ++ rest ∧ out.length ≤ raw.length ∧ raw.count kQuote ≤ out.count kQuote := by
  cases s with
  | nil => cases h
  | cons c s =>
    simp only [escape] at h
    split at h
    · cases h
      exact ⟨[c], rfl, Nat.le_refl _, Nat.le_refl _⟩
    next hsame =>
    have hquote : c ≠ kQuote := fun heq => hsame (.inr heq)
    split at h
    · cases h
      exact ⟨[c], rfl, Nat.le_refl _, by simp [hquote]⟩
    · cases h

/-- Label values: a line feed has to be escaped. -/
def labelString : QuoteSyntax where
  escape := escape
  forbidden c := c = 10
  escape_eq := escape_eq

/-! ### Samples -/

structure Sample where
  name : Bytes
  labels : List (Bytes × Bytes)
  value : Int
  timestamp : Option Int
  deriving DecidableEq, Repr

/-- The samples belong to one series: they have the same name and the same labels. -/
def Sample.SameSeries (a b : Sample) : Prop :=
  a.name = b.name ∧ ∀ label, a.labels.lookup label = b.labels.lookup label

def isLabelChar (c : UInt8) : Bool :=
  isDigit c || (97 ≤ c && c ≤ 122) || (65 ≤ c && c ≤ 90) || c = 95

def isNameChar (c : UInt8) : Bool := isLabelChar c || c = 58

/-- A name of such characters, the first of which is no digit. -/
def parseName (isChar : UInt8 → Bool) (s : Bytes) : Option (Bytes × Bytes) :=
  if (s.takeWhile isChar).head?.any fun c => !isDigit c then some (s.takeWhile isChar, s.dropWhile isChar) else none

def parseLabel (s : Bytes) : Option ((Bytes × Bytes) × Bytes) := do
  let (name, rest) ← parseName isLabelChar (s.dropWhile isBlank)
  let rest ← expect isBlank kEquals rest
  let rest ← expect isBlank kQuote rest
  let (value, rest) ← unquote labelString rest
  some ((name, value), rest)

/-- The labels up to the closing brace, in front of which a comma may stand.  Each takes at least one byte of the text,
so that its length is fuel enough. -/
def parseLabels : Nat → Bytes → Option (List (Bytes × Bytes) × Bytes)
  | 0, _ => none
  | fuel + 1, s =>
    match expect isBlank kClose s with
    | some rest => some ([], rest)
    | none => do
      let (label, rest) ← parseLabel s
      match expect isBlank kComma rest with
      | some rest =>
        let (labels, rest) ← parseLabels fuel rest
        some (label :: labels, rest)
      | none =>
        let rest ← expect isBlank kClose rest
        some ([label], rest)

def parseLabelSet (s : Bytes) : Option (List (Bytes × Bytes) × Bytes) :=
  match expect isBlank kOpen s with
  | some rest => parseLabels rest.length rest
  | none => some ([], s)

def parseInteger (s : Bytes) : Option (Int × Bytes) :=
  match expect isBlank kMinus s with
  | some rest => (parseNumber rest).map fun (n, rest) => (-n, rest)
  | none => (parseNumber (s.dropWhile isBlank)).map fun (n, rest) => (n, rest)

/-- The time of a sample, which a blank divides from its value; it may be left out. -/
def parseTimestamp (s : Bytes) : Option (Option Int) :=
  if s.dropWhile isBlank = [] then some none
  else if s.head?.any isBlank then
    (parseInteger s).bind fun (t, rest) => if rest.dropWhile isBlank = [] then some (some t) else none
  else none

def parseSample (s : Bytes) : Option Sample := do
  let (name, rest) ← parseName isNameChar (s.dropWhile isBlank)
  let (labels, rest) ← parseLabelSet rest
  let (value, rest) ← parseInteger rest
  let timestamp ← parseTimestamp rest
  if (labels.map Prod.fst).Nodup then some { name, labels, value, timestamp } else none

/-! ### Reading back -/

/-- The text is a name of such characters. -/
def IsName (isChar : UInt8 → Bool) (name : Bytes) : Prop :=
  (∀ c ∈ name, isChar c = true) ∧ name.head?.any (fun c => !isDigit c) = true

def renderLabel (label : Bytes × Bytes) : Bytes :=
  label.1 ++ kEquals :: kQuote :: (label.2 ++ [kQuote])

/-- The labels behind the first one, and the closing brace. -/
def renderRest (labels : List (Bytes × Bytes)) : Bytes :=
  labels.flatMap (fun label => kComma :: renderLabel label) ++ [kClose]

/-- A sample with at least one label, nothing being escaped. -/
def renderSample (name : Bytes) (label : Bytes × Bytes) (labels : List (Bytes × Bytes)) (value : Int)
    (timestamp : Nat) : Bytes :=
  name ++ kOpen :: (renderLabel label ++ renderRest labels) ++ kSpace :: signedDecimal value ++
    kSpace :: decimal timestamp

private theorem parseName_append {isChar : UInt8 → Bool} {name : Bytes} (h : IsName isChar name) {c : UInt8}
    (hc : isChar c = false) (rest : Bytes) : parseName isChar (name ++ c :: rest) = some (name, c :: rest) := by
  have htake : (name ++ c :: rest).takeWhile isChar = name := by
    rw [List.takeWhile_append_of_pos h.1]
    simp [hc]
  have hdrop : (name ++ c :: rest).dropWhile isChar = c :: rest := by
    rw [List.dropWhile_append_of_pos h.1]
    simp [hc]
  rw [parseName, htake, hdrop, if_pos h.2]

private theorem isBlank_of_isNameChar {c : UInt8} (h : isNameChar c = true) : isBlank c = false := by
  rw [Bool.eq_false_iff, Ne, isBlank, decide_eq_true_eq]
  rintro (rfl | rfl) <;> revert h <;> decide

private theorem isNameChar_of_isLabelChar {c : UInt8} (h : isLabelChar c = true) : isNameChar c = true := by
  rw [isNameChar, h, Bool.true_or]

/-- No blanks are skipped in front of a name. -/
private theorem dropWhile_name {name : Bytes} (h : IsName isNameChar name) (rest : Bytes) :
    (name ++ rest).dropWhile isBlank = name ++ rest := by
  cases name with
  | nil => exact absurd h.2 nofun
  | cons c name =>
    rw [List.cons_append, List.dropWhile_cons_of_neg]
    rw [isBlank_of_isNameChar (h.1 c List.mem_cons_self)]
    decide

private theorem IsName.of_label {name : Bytes} (h : IsName isLabelChar name) : IsName isNameChar name :=
  ⟨fun c hc => isNameChar_of_isLabelChar (h.1 c hc), h.2⟩

private theorem parseLabel_append {name : Bytes} (h : IsName isLabelChar name) (body : Bytes) :
    parseLabel (name ++ kEquals :: kQuote :: body) =
      (unquote labelString body).map fun r => ((name, r.1), r.2) := by
  rw [parseLabel, dropWhile_name h.of_label]
  simp only [parseName_append h (show isLabelChar kEquals = false by decide), Option.bind_eq_bind, Option.bind_some]
  rw [expect_cons (by decide), Option.bind_some, expect_cons (by decide), Option.bind_some]
  cases unquote labelString body <;> rfl

private theorem expect_name {name : Bytes} (h : IsName isLabelChar name) {c : UInt8} (hc : isLabelChar c = false)
    (rest : Bytes) : expect isBlank c (name ++ rest) = none := by
  cases name with
  | nil => exact absurd h.2 nofun
  | cons d name =>
    have hd : isLabelChar d = true := h.1 d List.mem_cons_self
    refine expect_cons_of_ne (isBlank_of_isNameChar (isNameChar_of_isLabelChar hd)) ?_ _
    rintro rfl
    exact absurd (hd.symm.trans hc) nofun

private theorem expect_renderLabel {label : Bytes × Bytes} (h : IsName isLabelChar label.1) {c : UInt8}
    (hc : isLabelChar c = false) (rest : Bytes) : expect isBlank c (renderLabel label ++ rest) = none := by
  rw [renderLabel, List.append_assoc]
  exact expect_name h hc _

private theorem parseLabel_render {label : Bytes × Bytes} (hname : IsName isLabelChar label.1)
    (hplain : Plain labelString label.2) (rest : Bytes) :
    parseLabel (renderLabel label ++ rest) = some (label, rest) := by
  have hrender : renderLabel label ++ rest = label.1 ++ kEquals :: kQuote :: (label.2 ++ kQuote :: rest) := by
    simp [renderLabel]
  rw [hrender, parseLabel_append hname, unquote_append hplain]
  rfl

private theorem parseLabels_render {label : Bytes × Bytes} {labels : List (Bytes × Bytes)}
    (h : ∀ l ∈ label :: labels, IsName isLabelChar l.1 ∧ Plain labelString l.2) (rest : Bytes) (fuel : Nat) :
    parseLabels (labels.length + 1 + fuel) (renderLabel label ++ (renderRest labels ++ rest)) =
      some (label :: labels, rest) := by
  induction labels generalizing label with
  | nil =>
    obtain ⟨hname, hplain⟩ := h label List.mem_cons_self
    have hrest : renderRest [] ++ rest = kClose :: rest := rfl
    rw [show ([] : List (Bytes × Bytes)).length + 1 + fuel = fuel + 1 by simp; omega, parseLabels,
      expect_renderLabel hname (by decide)]
    simp only [parseLabel_render hname hplain, Option.bind_eq_bind, Option.bind_some]
    rw [hrest, expect_cons_of_ne (by decide) (by decide), expect_cons (by decide)]
    rfl
  | cons l ls ih =>
    obtain ⟨hname, hplain⟩ := h label List.mem_cons_self
    have hrest : renderRest (l :: ls) ++ rest = kComma :: (renderLabel l ++ (renderRest ls ++ rest)) := by
      simp [renderRest]
    have htail := ih fun x hx => h x (List.mem_cons_of_mem label hx)
    rw [show (l :: ls).length + 1 + fuel = ls.length + 1 + fuel + 1 by simp; omega, parseLabels,
      expect_renderLabel hname (by decide)]
    simp only [parseLabel_render hname hplain, Option.bind_eq_bind, Option.bind_some]
    rw [hrest, expect_cons (by decide)]
    simp only [htail, Option.bind_some]

theorem length_lt_renderRest (labels : List (Bytes × Bytes)) : labels.length < (renderRest labels).length := by
  induction labels with
  | nil => exact Nat.zero_lt_one
  | cons label labels ih =>
    simp only [renderRest, List.flatMap_cons, List.length_append, List.length_cons] at ih ⊢
    omega

private theorem parseLabelSet_render {label : Bytes × Bytes} {labels : List (Bytes × Bytes)}
    (h : ∀ l ∈ label :: labels, IsName isLabelChar l.1 ∧ Plain labelString l.2) (rest : Bytes) :
    parseLabelSet (kOpen :: (renderLabel label ++ (renderRest labels ++ rest))) = some (label :: labels, rest) := by
  obtain ⟨fuel, hfuel⟩ : ∃ fuel,
      (renderLabel label ++ (renderRest labels ++ rest)).length = labels.length + 1 + fuel := by
    have hlt := length_lt_renderRest labels
    refine Nat.exists_eq_add_of_le ?_
    rw [List.length_append, List.length_append]
    omega
  rw [parseLabelSet, expect_cons (by decide)]
  simp only [hfuel, parseLabels_render h]

/-- A decimal numeral begins with neither a blank nor a minus sign. -/
private theorem decimal_head (n : Nat) : ∃ d ds, decimal n = d :: ds ∧ isBlank d = false ∧ d ≠ kMinus := by
  obtain ⟨d, ds, hds, hd⟩ := decimal_eq_cons n
  have hname : isLabelChar d = true := by rw [isLabelChar, hd]; rfl
  exact ⟨d, ds, hds, isBlank_of_isNameChar (isNameChar_of_isLabelChar hname), ne_of_isDigit hd (by decide)⟩

theorem parseInteger_signedDecimal (n : Int) {rest : Bytes} (h : rest.head?.any isDigit = false) :
    parseInteger (kSpace :: (signedDecimal n ++ rest)) = some (n, rest) := by
  have habs := parseNumber_decimal n.natAbs h
  rw [parseInteger, expect_blank_cons (by decide), signedDecimal]
  by_cases hneg : n < 0
  · rw [if_pos hneg, List.cons_append, show (45 : UInt8) = kMinus from rfl, expect_cons (by decide)]
    simp only [habs, Option.map_some, Option.some.injEq, Prod.mk.injEq, and_true]
    omega
  · rw [if_neg hneg]
    obtain ⟨d, ds, hds, hblank, hminus⟩ := decimal_head n.natAbs
    rw [hds, List.cons_append] at habs ⊢
    rw [expect_cons_of_ne hblank hminus]
    simp only [List.dropWhile_cons_of_pos (show isBlank kSpace = true by decide),
      List.dropWhile_cons_of_neg (show ¬ isBlank d = true by simp [hblank]), habs, Option.map_some, Option.some.injEq,
      Prod.mk.injEq, and_true]
    omega

private theorem parseTimestamp_decimal (n : Nat) : parseTimestamp (kSpace :: decimal n) = some (some (n : Int)) := by
  have hinteger : parseInteger (kSpace :: decimal n) = some ((n : Int), []) := by
    have hdecimal : parseInteger (kSpace :: (signedDecimal n ++ [])) = some ((n : Int), []) :=
      parseInteger_signedDecimal n rfl
    rw [List.append_nil, signedDecimal_natCast] at hdecimal
    exact hdecimal
  obtain ⟨d, ds, hds, hblank, -⟩ := decimal_head n
  have hskip : (kSpace :: decimal n).dropWhile isBlank ≠ [] := by
    rw [List.dropWhile_cons_of_pos (by decide), hds, List.dropWhile_cons_of_neg (by simp [hblank])]
    exact List.cons_ne_nil _ _
  rw [parseTimestamp, if_neg hskip, if_pos (by simp [isBlank, kSpace]), hinteger]
  rfl

theorem parseSample_render {name : Bytes} {label : Bytes × Bytes} {labels : List (Bytes × Bytes)}
    (hname : IsName isNameChar name) (h : ∀ l ∈ label :: labels, IsName isLabelChar l.1 ∧ Plain labelString l.2)
    (hlabels : ((label :: labels).map Prod.fst).Nodup) (value : Int) (timestamp : Nat) :
    parseSample (renderSample name label labels value timestamp) =
      some { name, labels := label :: labels, value, timestamp := some timestamp } := by
  have hrender : renderSample name label labels value timestamp =
      name ++ kOpen :: (renderLabel label ++ (renderRest labels ++
        kSpace :: (signedDecimal value ++ kSpace :: decimal timestamp))) := by
    simp [renderSample]
  rw [hrender, parseSample, dropWhile_name hname]
  simp only [parseName_append hname (show isNameChar kOpen = false by decide), Option.bind_eq_bind, Option.bind_some,
    parseLabelSet_render h]
  rw [parseInteger_signedDecimal value (by rfl)]
  simp only [Option.bind_some, parseTimestamp_decimal, if_pos hlabels]

private theorem IsName.not_mem {name : Bytes} (h : IsName isNameChar name) : 10 ∉ name := by
  intro hmem
  exact absurd (h.1 10 hmem) (by decide)

/-- A plain sample is one line. -/
theorem not_mem_renderSample {name : Bytes} {label : Bytes × Bytes} {labels : List (Bytes × Bytes)}
    (hname : IsName isNameChar name) (h : ∀ l ∈ label :: labels, IsName isLabelChar l.1 ∧ Plain labelString l.2)
    (value : Int) (timestamp : Nat) : 10 ∉ renderSample name label labels value timestamp := by
  have hlabel {l : Bytes × Bytes} (hl : l ∈ label :: labels) : 10 ∉ renderLabel l := by
    have hvalue : 10 ∉ l.2 := fun hmem => absurd ((h l hl).2.bytes 10 hmem).2.2 (by decide)
    simp [renderLabel, (h l hl).1.of_label.not_mem, hvalue, kEquals, kQuote]
  have hnumber (n : Nat) : 10 ∉ decimal n := not_mem_decimal (by decide)
  have hsigned : 10 ∉ signedDecimal value := not_mem_signedDecimal (by decide) (by decide)
  have hrest : 10 ∉ renderRest labels := by
    simp only [renderRest, List.mem_append, List.mem_flatMap, List.mem_cons, List.not_mem_nil, or_false, not_or,
      not_exists, not_and]
    exact ⟨fun l hl => ⟨by decide, hlabel (List.mem_cons_of_mem label hl)⟩, by decide⟩
  simp [renderSample, hname.not_mem, hlabel List.mem_cons_self, hrest, hsigned, hnumber, kOpen, kSpace]

private theorem parseLabelSet_head {name body behind : Bytes} {labels : List (Bytes × Bytes)}
    (hname : IsName isLabelChar name)
    (h : parseLabelSet (kOpen :: (name ++ kEquals :: kQuote :: body)) = some (labels, behind)) :
    ∃ value rest tail, unquote labelString body = some (value, rest) ∧ labels = (name, value) :: tail := by
  rw [parseLabelSet, expect_cons (by decide)] at h
  simp only at h
  generalize (name ++ kEquals :: kQuote :: body).length = fuel at h
  cases fuel with
  | zero => cases h
  | succ fuel =>
    rw [parseLabels, expect_name hname (by decide)] at h
    simp only [parseLabel_append hname, Option.bind_eq_bind, Option.bind_eq_some_iff, Option.map_eq_some_iff] at h
    obtain ⟨_, ⟨⟨value, rest⟩, hvalue, rfl⟩, h⟩ := h
    refine ⟨value, rest, ?_⟩
    split at h
    · obtain ⟨⟨tail, _⟩, -, heq⟩ := Option.bind_eq_some_iff.1 h
      cases heq
      exact ⟨tail, hvalue, rfl⟩
    · obtain ⟨_, -, heq⟩ := Option.bind_eq_some_iff.1 h
      cases heq
      exact ⟨[], hvalue, rfl⟩

/-- Where the first label of a line is read back, its value is plain. -/
theorem plain_of_parseSample {name label value rest : Bytes} {sample : Sample} (hname : IsName isNameChar name)
    (hlabel : IsName isLabelChar label)
    (h : parseSample (name ++ kOpen :: (label ++ kEquals :: kQuote :: (value ++ kQuote :: rest))) = some sample)
    (hvalue : sample.labels.lookup label = some value) : Plain labelString value := by
  rw [parseSample, dropWhile_name hname] at h
  simp only [parseName_append hname (show isNameChar kOpen = false by decide), Option.bind_eq_bind, Option.bind_some,
    Option.bind_eq_some_iff] at h
  obtain ⟨⟨labels, behind⟩, hlabels, ⟨n, _⟩, -, timestamp, -, heq⟩ := h
  obtain ⟨read, rest', tail, hread, rfl⟩ := parseLabelSet_head hlabel hlabels
  have hfirst : read = value := by
    split at heq
    · cases heq
      simpa using hvalue
    · cases heq
  rw [hfirst] at hread
  exact plain_of_unquote_append hread

end Exposition
