import VehicleBridge.Lib.ByteText

/-!
# Tokens of a text

Reading the tokens of a text: single bytes, unsigned numbers, and strings that stand between quotes, where a backslash
begins an escape.  What the escapes are, and which bytes cannot stand for themselves, is given by a `QuoteSyntax`; an
escape is never shorter than what it stands for, and stands for the quotes in it.

A text without quotes, backslashes and such bytes is read back as it was written (`unquote_append`), and no other one is
(`plain_of_unquote_append`).  In general, what is read takes more room than it gives unless it is plain
(`unquote_size`).
-/

namespace Tokens

open ByteText

def kQuote : UInt8 := 34
def kBackslash : UInt8 := 92

/-! ### Bytes and numbers -/

/-- The text behind a certain byte, blanks in front of which are skipped. -/
def expect (isBlank : UInt8 → Bool) (c : UInt8) (s : Bytes) : Option Bytes :=
  match s.dropWhile isBlank with
  | [] => none
  | d :: rest => if d = c then some rest else none

/-- An unsigned integer: digits without a leading zero, which are the ones it is printed with. -/
def parseNumber (s : Bytes) : Option (Nat × Bytes) :=
  let digits := s.takeWhile isDigit
  if digits = decimal (ofDecimal digits) then some (ofDecimal digits, s.dropWhile isDigit) else none

section
variable {isBlank : UInt8 → Bool} {c d : UInt8}

theorem expect_cons (h : isBlank c = false) (rest : Bytes) : expect isBlank c (c :: rest) = some rest := by
  simp [expect, h]

theorem expect_cons_of_ne (h : isBlank c = false) (hne : c ≠ d) (rest : Bytes) :
    expect isBlank d (c :: rest) = none := by
  simp [expect, h, hne]

theorem length_dropWhile_le (p : UInt8 → Bool) (s : Bytes) : (s.dropWhile p).length ≤ s.length :=
  (List.dropWhile_sublist _).length_le

theorem expect_size {s rest : Bytes} (h : expect isBlank c s = some rest) : rest.length + 1 ≤ s.length := by
  have hblank := length_dropWhile_le isBlank s
  unfold expect at h
  split at h
  · cases h
  next d behind hskip =>
  rw [hskip, List.length_cons] at hblank
  split at h
  · cases h
    omega
  · cases h

theorem expect_blank_cons {b : UInt8} (h : isBlank b = true) (s : Bytes) :
    expect isBlank c (b :: s) = expect isBlank c s := by
  simp [expect, h]

/-- A number is read back up to what follows it. -/
theorem parseNumber_decimal (n : Nat) {rest : Bytes} (h : rest.head?.any isDigit = false) :
    parseNumber (decimal n ++ rest) = some (n, rest) := by
  have htake : rest.takeWhile isDigit = [] := by
    cases rest with
    | nil => rfl
    | cons c rest => exact List.takeWhile_cons_of_neg (by simpa using h)
  have hdrop : rest.dropWhile isDigit = rest := by
    cases rest with
    | nil => rfl
    | cons c rest => exact List.dropWhile_cons_of_neg (by simpa using h)
  simp only [parseNumber, List.takeWhile_append_of_pos fun d hd => isDigit_of_mem_decimal hd,
    List.dropWhile_append_of_pos fun d hd => isDigit_of_mem_decimal hd, htake, hdrop, List.append_nil,
    ofDecimal_decimal, if_true]

theorem parseNumber_size {s rest : Bytes} {n : Nat} (h : parseNumber s = some (n, rest)) :
    (decimal n).length + rest.length = s.length := by
  unfold parseNumber at h
  simp only at h
  split at h
  · next hdigits =>
    cases h
    rw [← hdigits, ← List.length_append, List.takeWhile_append_dropWhile]
  · cases h

end

/-! ### Quoted strings -/

/-- The text is UTF-8. -/
def isUtf8 (s : Bytes) : Bool :=
  (ByteArray.mk s.toArray).validateUTF8

structure QuoteSyntax where
  /-- What an escape stands for and what follows it; the text begins behind the backslash. -/
  escape : Bytes → Option (Bytes × Bytes)
  forbidden : UInt8 → Bool
  escape_eq : ∀ {s out rest : Bytes}, escape s = some (out, rest) →
    ∃ raw, s = raw ++ rest ∧ out.length ≤ raw.length ∧ raw.count kQuote ≤ out.count kQuote

variable (q : QuoteSyntax)

/-- The string up to its closing quote, and what follows.  A step takes at least one byte of the text, so that its
length is fuel enough. -/
def scan : Nat → Bytes → Option (Bytes × Bytes)
  | 0, _ => none
  | _ + 1, [] => none
  | fuel + 1, c :: rest =>
    if c = kQuote then some ([], rest)
    else if c = kBackslash then
      (q.escape rest).bind fun (out, rest) => (scan fuel rest).map fun (s, rest) => (out ++ s, rest)
    else if q.forbidden c then none
    else (scan fuel rest).map fun (s, rest) => (c :: s, rest)

/-- A string behind its opening quote. -/
def unquote (input : Bytes) : Option (Bytes × Bytes) :=
  (scan q input.length input).bind fun r => if isUtf8 r.1 then some r else none

/-- All bytes stand for themselves. -/
structure Plain (s : Bytes) : Prop where
  bytes : ∀ c ∈ s, c ≠ kQuote ∧ c ≠ kBackslash ∧ q.forbidden c = false
  utf8 : isUtf8 s = true

instance (s : Bytes) : Decidable (Plain q s) :=
  have : Decidable (∀ c ∈ s, c ≠ kQuote ∧ c ≠ kBackslash ∧ q.forbidden c = false) := List.decidableBAll ..
  decidable_of_iff ((∀ c ∈ s, c ≠ kQuote ∧ c ≠ kBackslash ∧ q.forbidden c = false) ∧ isUtf8 s = true)
    ⟨fun h => ⟨h.1, h.2⟩, fun h => ⟨h.bytes, h.utf8⟩⟩

variable {q} {s rest rest' : Bytes}

private theorem scan_append (h : ∀ c ∈ s, c ≠ kQuote ∧ c ≠ kBackslash ∧ q.forbidden c = false) (rest : Bytes)
    (fuel : Nat) : scan q (s.length + 1 + fuel) (s ++ kQuote :: rest) = some (s, rest) := by
  induction s with
  | nil =>
    rw [show ([] : Bytes).length + 1 + fuel = fuel + 1 by simp; omega, List.nil_append, scan, if_pos rfl]
  | cons c s ih =>
    obtain ⟨hquote, hbackslash, hforbidden⟩ := h c List.mem_cons_self
    have htail := ih fun d hd => h d (List.mem_cons_of_mem c hd)
    rw [List.length_cons, show s.length + 1 + 1 + fuel = s.length + 1 + fuel + 1 by omega, List.cons_append, scan,
      if_neg hquote, if_neg hbackslash, hforbidden, htail]
    rfl

/-- A plain text between quotes is read back. -/
theorem unquote_append (h : Plain q s) (rest : Bytes) : unquote q (s ++ kQuote :: rest) = some (s, rest) := by
  have hlength : (s ++ kQuote :: rest).length = s.length + 1 + rest.length := by
    simp
    omega
  rw [unquote, hlength, scan_append h.bytes, Option.bind_some, if_pos h.utf8]

/-- What is read stands between the quotes in some spelling: one that is not shorter, has no more quotes in it, and is
plain if it is as long. -/
private theorem scan_eq {fuel : Nat} {input : Bytes} (h : scan q fuel input = some (s, rest)) :
    ∃ raw, input = raw ++ kQuote :: rest ∧ s.length ≤ raw.length ∧ raw.count kQuote ≤ s.count kQuote ∧
      (s.length = raw.length → raw = s ∧ ∀ c ∈ s, c ≠ kQuote ∧ c ≠ kBackslash ∧ q.forbidden c = false) := by
  induction fuel generalizing input s rest with
  | zero => cases h
  | succ fuel ih =>
    cases input with
    | nil => cases h
    | cons c input =>
      rw [scan] at h
      split at h
      · next hquote =>
        cases h
        exact ⟨[], by rw [hquote]; rfl, Nat.le_refl _, Nat.le_refl _, fun _ => ⟨rfl, nofun⟩⟩
      next hquote =>
      split at h
      · next hbackslash =>
        obtain ⟨⟨out, behind⟩, hescape, hscan⟩ := Option.bind_eq_some_iff.1 h
        obtain ⟨⟨s', rest'⟩, hscan, heq⟩ := Option.map_eq_some_iff.1 hscan
        cases heq
        obtain ⟨rawOut, hinput, hout, hcountOut⟩ := q.escape_eq hescape
        obtain ⟨raw, hbehind, hlength, hcount, -⟩ := ih hscan
        -- the backslash makes the escape longer than what it stands for
        refine ⟨c :: (rawOut ++ raw), ?_, ?_, ?_, fun heq => ?_⟩
        · rw [hinput, hbehind]
          simp
        · simp only [List.length_append, List.length_cons]
          omega
        · rw [List.count_cons_of_ne hquote, List.count_append, List.count_append]
          omega
        · simp only [List.length_append, List.length_cons] at heq
          omega
      next hbackslash =>
      split at h
      · cases h
      next hforbidden =>
      obtain ⟨⟨s', rest'⟩, hscan, heq⟩ := Option.map_eq_some_iff.1 h
      cases heq
      obtain ⟨raw, hinput, hlength, hcount, hplain⟩ := ih hscan
      refine ⟨c :: raw, ?_, ?_, ?_, fun heq => ?_⟩
      · rw [hinput]
        rfl
      · simp only [List.length_cons]
        omega
      · rw [List.count_cons_of_ne hquote, List.count_cons_of_ne hquote]
        exact hcount
      · obtain ⟨rfl, hbytes⟩ := hplain (by simpa using heq)
        refine ⟨rfl, fun d hd => ?_⟩
        rcases List.mem_cons.1 hd with rfl | hd
        · exact ⟨hquote, hbackslash, by simpa using hforbidden⟩
        · exact hbytes d hd

private theorem unquote_eq {input : Bytes} (h : unquote q input = some (s, rest)) :
    ∃ raw, input = raw ++ kQuote :: rest ∧ s.length ≤ raw.length ∧ raw.count kQuote ≤ s.count kQuote ∧
      (s.length = raw.length → raw = s ∧ Plain q s) := by
  obtain ⟨⟨s', rest'⟩, hscan, hutf8⟩ := Option.bind_eq_some_iff.1 h
  split at hutf8
  · next hvalid =>
    cases hutf8
    obtain ⟨raw, hinput, hlength, hcount, hplain⟩ := scan_eq hscan
    exact ⟨raw, hinput, hlength, hcount, fun heq => ⟨(hplain heq).1, (hplain heq).2, hvalid⟩⟩
  · cases hutf8

/-- A text that is read takes no less room than it gives, and with its quote as much only if it is plain. -/
theorem unquote_size {input : Bytes} (h : unquote q input = some (s, rest)) :
    s.length + 1 + rest.length ≤ input.length ∧ (s.length + 1 + rest.length = input.length → Plain q s) := by
  obtain ⟨raw, rfl, hlength, -, hplain⟩ := unquote_eq h
  rw [List.length_append, List.length_cons]
  exact ⟨by omega, fun heq => (hplain (by omega)).2⟩

/-- Only a plain text is read back: a quote behind it that is taken for part of the string would be one more than there
are in what is read. -/
theorem plain_of_unquote_append (h : unquote q (s ++ kQuote :: rest) = some (s, rest')) : Plain q s := by
  obtain ⟨raw, hinput, hlength, hcount, hplain⟩ := unquote_eq h
  rcases Nat.lt_or_eq_of_le hlength with hlt | heq
  · exfalso
    have hs : s ++ [kQuote] <+: s ++ kQuote :: rest := ⟨rest, by simp⟩
    have hraw : raw <+: s ++ kQuote :: rest := ⟨kQuote :: rest', hinput.symm⟩
    have hprefix : s ++ [kQuote] <+: raw :=
      List.prefix_of_prefix_length_le hs hraw (by rw [List.length_append, List.length_singleton]; exact hlt)
    have hmore := hprefix.sublist.count_le kQuote
    rw [List.count_append, List.count_singleton_self] at hmore
    omega
  · exact (hplain heq).2

end Tokens
