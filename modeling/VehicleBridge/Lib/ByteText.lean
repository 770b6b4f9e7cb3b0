import Mathlib.Algebra.Group.Nat.Defs
import Mathlib.Data.List.TakeWhile
import Mathlib.Tactic.Common

/-!
# Byte strings and decimal numbers

The parts of the C++ string library that text formats are built from, over lists of bytes: searching and
slicing, `std::to_string` on unsigned numbers, and `std::stoul`/`std::stoull` with their exceptions.  The key
facts are that a decimal rendering consists of digits only and reads back as the number it was made from
(`ofDecimal_decimal`, `stoull_decimal`), which texts `std::stoull` reads as which number (`stoull_eq_ok_iff`), and that
the first occurrence of a byte is found exactly where a concatenation puts it (`find_append`).
-/

namespace ByteText

/-- A `std::string`: a finite sequence of bytes. -/
abbrev Bytes := List UInt8

/-- The bytes of an ASCII literal. -/
def text (s : String) : Bytes := s.toList.map Char.toUInt8

/-- A literal is the list of its characters. -/
theorem text_ofList (l : List Char) : text (String.ofList l) = l.map Char.toUInt8 := by
  rw [text, String.toList_ofList]

/-- A text does not begin with one that is no prefix of it. -/
theorem text_append_ne {l l' : List Char} {rest : Bytes} (h : ¬ l.map Char.toUInt8 <+: l'.map Char.toUInt8) :
    text (String.ofList l) ++ rest ≠ text (String.ofList l') := by
  intro heq
  rw [text_ofList, text_ofList] at heq
  exact h ⟨rest, heq⟩

theorem text_ne {l l' : List Char} (h : l.map Char.toUInt8 ≠ l'.map Char.toUInt8) :
    text (String.ofList l) ≠ text (String.ofList l') := by
  rw [text_ofList, text_ofList]
  exact h

/-- The texts of literals, with their characters. -/
inductive Spelled : List Bytes → List (List Char) → Prop
  | nil : Spelled [] []
  | cons {l : List Char} {texts : List Bytes} {spellings : List (List Char)} :
      Spelled texts spellings → Spelled (text (String.ofList l) :: texts) (l :: spellings)

/-- What is computed of texts can be computed of the characters of their literals. -/
theorem Spelled.eq {texts : List Bytes} {spellings : List (List Char)} (h : Spelled texts spellings) :
    texts = spellings.map (List.map Char.toUInt8) := by
  induction h with
  | nil => rfl
  | cons _ ih => rw [List.map_cons, ← ih, text_ofList]

/-- `s.rfind(pfx, 0) == 0`: the text starts with the prefix. -/
def startsWith (s pfx : Bytes) : Bool := pfx.isPrefixOf s

/-- `s.find(c, pos)`: the first position from `pos` on that holds `c`; `npos` is `none`. -/
def find (s : Bytes) (c : UInt8) (pos : Nat) : Option Nat :=
  ((s.drop pos).findIdx? (· == c)).map (· + pos)

/-- `s.substr(pos, n)`. -/
def substr (s : Bytes) (pos n : Nat) : Bytes := (s.drop pos).take n

/-- `s.substr(pos)`. -/
def substrFrom (s : Bytes) (pos : Nat) : Bytes := s.drop pos

theorem startsWith_iff {s pfx : Bytes} : startsWith s pfx = true ↔ ∃ rest, s = pfx ++ rest := by
  unfold startsWith
  rw [List.isPrefixOf_iff_prefix]
  exact ⟨fun ⟨rest, h⟩ => ⟨rest, h.symm⟩, fun ⟨rest, h⟩ => ⟨rest, h.symm⟩⟩

theorem startsWith_append (pfx rest : Bytes) : startsWith (pfx ++ rest) pfx = true :=
  startsWith_iff.2 ⟨rest, rfl⟩

private theorem findIdx?_append_of_not_mem {c : UInt8} {a : Bytes} (h : c ∉ a) (rest : Bytes) :
    (a ++ c :: rest).findIdx? (· == c) = some a.length := by
  induction a with
  | nil => simp [List.findIdx?_cons]
  | cons x a ih =>
    simp only [List.mem_cons, not_or] at h
    have hx : (x == c) = false := by simpa using Ne.symm h.1
    simp [List.findIdx?_cons, hx, ih h.2]

/-- The first `c` of `p ++ a ++ c :: rest` from the end of `p` on, when `a` has no `c`. -/
theorem find_append {c : UInt8} {a : Bytes} (h : c ∉ a) (p rest : Bytes) :
    find (p ++ (a ++ c :: rest)) c p.length = some (p.length + a.length) := by
  unfold find
  rw [List.drop_left, findIdx?_append_of_not_mem h, Option.map_some, Nat.add_comm]

/-- A search from the end of a prefix on is one in what follows the prefix. -/
theorem find_append_length (p rest : Bytes) (c : UInt8) :
    find (p ++ rest) c p.length = (find rest c 0).map (· + p.length) := by
  unfold find
  rw [List.drop_left, List.drop_zero, Option.map_map]
  rfl

theorem find_eq_none_iff {s : Bytes} {c : UInt8} : find s c 0 = none ↔ c ∉ s := by
  unfold find
  rw [List.drop_zero, Option.map_eq_none_iff, List.findIdx?_eq_none_iff]
  constructor
  · exact fun h hmem => absurd (h c hmem) (by simp)
  · rintro h x hx
    rw [beq_eq_false_iff_ne]
    rintro rfl
    exact h hx

/-- A found position splits the text: before it, from `pos` on, the byte does not occur. -/
theorem find_eq_some {s : Bytes} {c : UInt8} {pos i : Nat} (h : find s c pos = some i) :
    ∃ a rest, s.drop pos = a ++ c :: rest ∧ c ∉ a ∧ i = pos + a.length := by
  unfold find at h
  rw [Option.map_eq_some_iff] at h
  obtain ⟨j, hj, rfl⟩ := h
  rw [List.findIdx?_eq_some_iff_getElem] at hj
  obtain ⟨hlt, hc, hbefore⟩ := hj
  refine ⟨(s.drop pos).take j, (s.drop pos).drop (j + 1), ?_, ?_, ?_⟩
  · have hget : (s.drop pos)[j] = c := by simpa using hc
    conv => lhs; rw [← List.take_append_drop j (s.drop pos), List.drop_eq_getElem_cons hlt, hget]
  · intro hmem
    obtain ⟨k, hk, hget⟩ := List.mem_iff_getElem.1 hmem
    rw [List.length_take] at hk
    rw [List.getElem_take] at hget
    have := hbefore k (by omega)
    simp [hget] at this
  · rw [List.length_take]
    omega

/-- The first occurrence of a byte splits a text in one way only. -/
theorem append_cons_inj {c : UInt8} {a b x y : Bytes} (ha : c ∉ a) (hb : c ∉ b) (h : a ++ c :: x = b ++ c :: y) :
    a = b ∧ x = y := by
  have hfirst := find_append ha [] x
  rw [h, find_append hb [] y, Option.some.injEq, List.length_nil, Nat.zero_add, Nat.zero_add] at hfirst
  obtain ⟨hab, hxy⟩ := List.append_inj h hfirst.symm
  exact ⟨hab, (List.cons.inj hxy).2⟩

/-- The same for the last occurrence. -/
theorem append_cons_inj_right {c : UInt8} {a b x y : Bytes} (hx : c ∉ x) (hy : c ∉ y)
    (h : a ++ c :: x = b ++ c :: y) : a = b ∧ x = y := by
  have hrev := congrArg List.reverse h
  simp only [List.reverse_append, List.reverse_cons, List.append_assoc, List.singleton_append] at hrev
  obtain ⟨hxy, hab⟩ := append_cons_inj (by simpa using hx) (by simpa using hy) hrev
  exact ⟨List.reverse_inj.1 hab, List.reverse_inj.1 hxy⟩

theorem substr_append (p a rest : Bytes) : substr (p ++ (a ++ rest)) p.length a.length = a := by
  unfold substr
  rw [List.drop_left, List.take_left]

theorem substrFrom_append (p rest : Bytes) : substrFrom (p ++ rest) p.length = rest :=
  List.drop_left

/-- The length of the text is a value of `std::size_t`, as `s.size()` is for every `std::string`. -/
def FitsSizeT (s : Bytes) : Prop := s.length < 2 ^ 64

/-- What the functions for C strings see of `s.c_str()`. -/
def cString (s : Bytes) : Bytes := s.takeWhile (· ≠ 0)

/-! ### Decimal numbers -/

/-- `std::isdigit` in the C locale. -/
def isDigit (c : UInt8) : Bool := 48 ≤ c && c ≤ 57

/-- The value of a digit byte. -/
def digitValue (c : UInt8) : Nat := c.toNat - 48

/-- `std::to_string` on an unsigned number; `operator<<` prints the same. -/
def decimal (n : Nat) : Bytes := (Nat.toDigits 10 n).map Char.toUInt8

/-- `std::to_string` on a signed number. -/
def signedDecimal (n : Int) : Bytes :=
  if n < 0 then 45 :: decimal n.natAbs else decimal n.natAbs

@[simp] theorem signedDecimal_natCast (n : Nat) : signedDecimal n = decimal n := by
  rw [signedDecimal, if_neg (by omega), Int.natAbs_natCast]

/-- The number a digit string denotes. -/
def ofDecimal (ds : Bytes) : Nat := ds.foldl (fun acc c => acc * 10 + digitValue c) 0

private theorem toNat_toUInt8_of_isDigit {c : Char} (h : c.isDigit = true) : c.toUInt8.toNat = c.toNat := by
  simp only [Char.isDigit, Bool.and_eq_true, decide_eq_true_eq, UInt32.le_iff_toNat_le] at h
  have h1 : c.val.toNat ≤ 57 := h.2
  show c.val.toUInt8.toNat = c.val.toNat
  rw [UInt32.toNat_toUInt8]
  omega

theorem isDigit_of_mem_decimal {n : Nat} {c : UInt8} (h : c ∈ decimal n) : isDigit c = true := by
  unfold decimal at h
  rw [List.mem_map] at h
  obtain ⟨ch, hch, rfl⟩ := h
  have hd := Nat.isDigit_of_mem_toDigits (by omega) (by omega) hch
  have hn := toNat_toUInt8_of_isDigit hd
  simp only [Char.isDigit, Bool.and_eq_true, decide_eq_true_eq, UInt32.le_iff_toNat_le] at hd
  have h1 : 48 ≤ ch.toNat := hd.1
  have h2 : ch.toNat ≤ 57 := hd.2
  simp only [isDigit, Bool.and_eq_true, decide_eq_true_eq, UInt8.le_iff_toNat_le, hn]
  exact ⟨h1, h2⟩

theorem decimal_ne_nil (n : Nat) : decimal n ≠ [] := by
  unfold decimal
  rw [Ne, List.map_eq_nil_iff]
  exact Nat.toDigits_ne_nil

private theorem foldl_toUInt8 (l : List Char) (h : ∀ c ∈ l, c.isDigit = true) (init : Nat) :
    (l.map Char.toUInt8).foldl (fun acc c => acc * 10 + digitValue c) init = Nat.ofDigitChars 10 l init := by
  induction l generalizing init with
  | nil => rfl
  | cons c l ih =>
    have hc := toNat_toUInt8_of_isDigit (h c (List.mem_cons_self ..))
    simp only [List.map_cons, List.foldl_cons, Nat.ofDigitChars_cons]
    rw [ih (fun c hc => h c (List.mem_cons_of_mem _ hc)), digitValue, hc, Nat.mul_comm]
    rfl

theorem ofDecimal_decimal (n : Nat) : ofDecimal (decimal n) = n := by
  unfold ofDecimal decimal
  rw [foldl_toUInt8 _ fun c hc => Nat.isDigit_of_mem_toDigits (by omega) (by omega) hc]
  exact Nat.ofDigitChars_ten_toDigits

theorem not_mem_decimal {n : Nat} {c : UInt8} (h : isDigit c = false) : c ∉ decimal n := by
  intro hmem
  rw [isDigit_of_mem_decimal hmem] at h
  exact absurd h (by decide)

theorem not_mem_signedDecimal {n : Int} {c : UInt8} (h : isDigit c = false) (hminus : c ≠ 45) :
    c ∉ signedDecimal n := by
  rw [signedDecimal]
  split
  · exact List.not_mem_cons_of_ne_of_not_mem hminus (not_mem_decimal h)
  · exact not_mem_decimal h

/-! ### `std::stoull` -/

/-- The exceptions the number parsers throw. -/
inductive StdException
  | invalidArgument
  | outOfRange
  deriving DecidableEq, Repr

/-- `std::isspace` in the C locale. -/
def isSpace (c : UInt8) : Bool := c == 32 || (9 ≤ c && c ≤ 13)

/-- The optional sign of a number: whether it is a minus, and the text after it. -/
def splitSign : Bytes → Bool × Bytes
  | 45 :: rest => (true, rest)
  | 43 :: rest => (false, rest)
  | s => (false, s)

/-- `std::stoull` in base 10: leading blanks, an optional sign, then the longest digit string; what follows the
digits is ignored.  A minus negates the result modulo `2^64`, as `strtoull` does. -/
def stoull (s : Bytes) : Except StdException UInt64 :=
  let signed := splitSign (s.dropWhile isSpace)
  let digits := signed.2.takeWhile isDigit
  if digits = [] then .error .invalidArgument
  else if 2 ^ 64 ≤ ofDecimal digits then .error .outOfRange
  else .ok (if signed.1 then -UInt64.ofNat (ofDecimal digits) else UInt64.ofNat (ofDecimal digits))

/-- `std::stoul` where `unsigned long` has 64 bits. -/
abbrev stoul (s : Bytes) : Except StdException UInt64 := stoull s

private theorem splitSign_of_ne {s : Bytes} (hm : s.head? ≠ some 45) (hp : s.head? ≠ some 43) :
    splitSign s = (false, s) := by
  unfold splitSign
  split
  · simp at hm
  · simp at hp
  · rfl

private theorem isDigit_bounds {c : UInt8} (h : isDigit c = true) : 48 ≤ c.toNat ∧ c.toNat ≤ 57 := by
  simpa [isDigit, UInt8.le_iff_toNat_le] using h

theorem ne_of_isDigit {c d : UInt8} (h : isDigit c = true) (hd : isDigit d = false) : c ≠ d := by
  rintro rfl
  rw [h] at hd
  exact absurd hd (by decide)

/-- A decimal numeral begins with a digit. -/
theorem decimal_eq_cons (n : Nat) : ∃ d ds, decimal n = d :: ds ∧ isDigit d = true := by
  obtain ⟨d, ds, hds⟩ := List.exists_cons_of_ne_nil (decimal_ne_nil n)
  exact ⟨d, ds, hds, isDigit_of_mem_decimal (hds ▸ List.mem_cons_self)⟩

private theorem isSpace_of_isDigit {c : UInt8} (h : isDigit c = true) : isSpace c = false := by
  have hb := isDigit_bounds h
  have hne : (c == 32) = false := by simpa using ne_of_isDigit h (by decide)
  simp only [isSpace, hne, Bool.false_or, Bool.and_eq_false_iff, decide_eq_false_iff_not,
    UInt8.le_iff_toNat_le]
  right
  show ¬ c.toNat ≤ 13
  omega

/-- What a number may have in front of its digits. -/
inductive Sign
  | none
  | plus
  | minus

def Sign.written : Sign → Bytes
  | .none => []
  | .plus => [43]
  | .minus => [45]

/-- The value of a number with this sign, modulo `2^64`. -/
def Sign.value : Sign → Nat → UInt64
  | .minus, n => -UInt64.ofNat n
  | _, n => UInt64.ofNat n

/-- In front of digits the sign is the one that is written, and no blank. -/
private theorem splitSign_written (sign : Sign) {c : UInt8} (hc : isDigit c = true) (rest : Bytes) :
    (sign.written ++ c :: rest).dropWhile isSpace = sign.written ++ c :: rest ∧
      splitSign (sign.written ++ c :: rest) = (decide (sign.written = [45]), c :: rest) := by
  cases sign with
  | plus => exact ⟨List.dropWhile_cons_of_neg (by decide), rfl⟩
  | minus => exact ⟨List.dropWhile_cons_of_neg (by decide), rfl⟩
  | none =>
    refine ⟨List.dropWhile_cons_of_neg (by simp [isSpace_of_isDigit hc]), splitSign_of_ne ?_ ?_⟩ <;>
      simpa [Sign.written] using ne_of_isDigit hc (by decide)

/-- Behind blanks and a sign `std::stoull` reads the digits, up to what does not go on with one. -/
private theorem stoull_written {blanks digits rest : Bytes} (sign : Sign) (hblanks : ∀ c ∈ blanks, isSpace c = true)
    (hne : digits ≠ []) (hdigits : ∀ c ∈ digits, isDigit c = true) (hrest : ∀ c ∈ rest.head?, isDigit c = false) :
    stoull (blanks ++ (sign.written ++ (digits ++ rest))) =
      if 2 ^ 64 ≤ ofDecimal digits then .error .outOfRange else .ok (sign.value (ofDecimal digits)) := by
  obtain ⟨c, ds, rfl⟩ := List.exists_cons_of_ne_nil hne
  obtain ⟨hdrop, hsign⟩ := splitSign_written sign (hdigits c List.mem_cons_self) (ds ++ rest)
  have htake : (c :: (ds ++ rest)).takeWhile isDigit = c :: ds := by
    rw [← List.cons_append, List.takeWhile_append_of_pos hdigits]
    cases rest with
    | nil => rw [List.takeWhile_nil, List.append_nil]
    | cons d rest => rw [List.takeWhile_cons_of_neg (by simpa using hrest d), List.append_nil]
  unfold stoull
  rw [List.dropWhile_append_of_pos hblanks, List.cons_append, hdrop, hsign]
  simp only [htake, if_neg hne]
  cases sign <;> rfl

/-- On a non-empty digit string `std::stoull` gives its value, or throws when the value does not fit. -/
theorem stoull_of_digits {ds : Bytes} (hne : ds ≠ []) (h : ∀ c ∈ ds, isDigit c = true) :
    stoull ds = if 2 ^ 64 ≤ ofDecimal ds then .error .outOfRange else .ok (UInt64.ofNat (ofDecimal ds)) := by
  have hwritten := @stoull_written [] ds [] .none nofun hne h nofun
  rwa [List.append_nil] at hwritten

theorem stoull_decimal (x : UInt64) : stoull (decimal x.toNat) = .ok x := by
  rw [stoull_of_digits (decimal_ne_nil _) fun c hc => isDigit_of_mem_decimal hc, ofDecimal_decimal]
  have hlt := x.toNat_lt
  rw [if_neg (by omega), UInt64.ofNat_toNat]

/-- A text whose first byte is neither blank, sign nor digit is not a number. -/
theorem stoull_of_head {c : UInt8} {s : Bytes} (hs : isSpace c = false) (hm : c ≠ 45) (hp : c ≠ 43)
    (hd : isDigit c = false) : stoull (c :: s) = .error .invalidArgument := by
  have hdrop : (c :: s).dropWhile isSpace = c :: s := by
    rw [List.dropWhile_cons_of_neg]
    simp [hs]
  have hsign : splitSign (c :: s) = (false, c :: s) := by
    apply splitSign_of_ne <;> simpa
  have htake : (c :: s).takeWhile isDigit = [] := by
    rw [List.takeWhile_cons_of_neg]
    simp [hd]
  unfold stoull
  simp only [hdrop, hsign, htake, ↓reduceIte]

/-! ### What `std::stoull` reads -/

/-- The texts that `std::stoull` reads: blanks, at most one sign, digits whose value fits, and anything that does not go
on with a digit. -/
inductive Numeral : Bytes → UInt64 → Prop
  | mk {blanks digits rest : Bytes} (sign : Sign) (hblanks : ∀ c ∈ blanks, isSpace c = true) (hne : digits ≠ [])
      (hdigits : ∀ c ∈ digits, isDigit c = true) (hrest : ∀ c ∈ rest.head?, isDigit c = false)
      (hfits : ofDecimal digits < 2 ^ 64) :
      Numeral (blanks ++ (sign.written ++ (digits ++ rest))) (sign.value (ofDecimal digits))

private theorem splitSign_cases (s : Bytes) :
    ∃ sign rest, s = Sign.written sign ++ rest ∧ (splitSign s).2 = rest ∧
      ∀ n, (if (splitSign s).1 then -UInt64.ofNat n else UInt64.ofNat n) = sign.value n := by
  unfold splitSign
  split
  · next rest => exact ⟨.minus, rest, rfl, rfl, fun _ => rfl⟩
  · next rest => exact ⟨.plus, rest, rfl, rfl, fun _ => rfl⟩
  · exact ⟨.none, s, rfl, rfl, fun _ => rfl⟩

theorem stoull_eq_ok_iff {s : Bytes} {x : UInt64} : stoull s = .ok x ↔ Numeral s x := by
  constructor
  · intro h
    obtain ⟨sign, rest, hs, hsplit, hvalue⟩ := splitSign_cases (s.dropWhile isSpace)
    unfold stoull at h
    simp only [hsplit, hvalue] at h
    split at h
    · cases h
    split at h
    · cases h
    next hne hbig =>
    cases h
    have hshape : s = s.takeWhile isSpace ++ (sign.written ++ (rest.takeWhile isDigit ++ rest.dropWhile isDigit)) := by
      rw [List.takeWhile_append_dropWhile, ← hs, List.takeWhile_append_dropWhile]
    have hrest : ∀ c ∈ (rest.dropWhile isDigit).head?, isDigit c = false := by
      intro c hc
      have hhead := List.head?_dropWhile_not isDigit rest
      rw [hc] at hhead
      simpa using hhead
    have hblanks : ∀ c ∈ s.takeWhile isSpace, isSpace c = true := fun c hc => List.mem_takeWhile_imp hc
    have hnumeral := Numeral.mk sign hblanks hne (fun c hc => List.mem_takeWhile_imp hc) hrest (Nat.not_le.1 hbig)
    rwa [← hshape] at hnumeral
  · rintro ⟨sign, hblanks, hne, hdigits, hrest, hfits⟩
    rw [stoull_written sign hblanks hne hdigits hrest, if_neg (Nat.not_le.2 hfits)]

/-! ### `strtol` -/

/-- The value of a number with this sign. -/
def Sign.signed : Sign → Nat → Int
  | .minus, n => -n
  | _, n => n

/-- `long` has 64 bits. -/
def saturateLong (n : Int) : Int := max (-9223372036854775808) (min n 9223372036854775807)

/-- `std::strtol` in base 10: the value, and what follows the digits; `none` where nothing is converted. -/
def strtol (s : Bytes) : Option (Int × Bytes) :=
  let signed := splitSign (s.dropWhile isSpace)
  let digits := signed.2.takeWhile isDigit
  if digits = [] then none
  else some (saturateLong (if signed.1 then -ofDecimal digits else ofDecimal digits), signed.2.dropWhile isDigit)

end ByteText
