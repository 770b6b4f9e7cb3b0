import Mathlib.Algebra.GroupWithZero.Nat
import Mathlib.Data.List.Perm.Basic
import VehicleBridge.Lib.Tokens

/-!
# Flat JSON objects

Reading JSON objects whose values are strings and unsigned integers; other values, for which there is no `Value`, are
refused, and so is an object with a name in it twice.

What is written without any escaping is read back where the strings are plain (`parseObject_render`), and only there:
every text of an object takes at least `size` bytes, and one that takes no more has plain strings (`parseObject_size`).
So nothing has to be known of how a bad string is misread (`parseObject_render_perm_iff`).
-/

namespace FlatJson

open ByteText Tokens

/-! ### Strings -/

def hexValue (c : UInt8) : Option Nat :=
  if isDigit c then some (digitValue c)
  else if 97 ≤ c ∧ c ≤ 102 then some (c.toNat - 87)
  else if 65 ≤ c ∧ c ≤ 70 then some (c.toNat - 55)
  else none

/-- The four digits of a `\u`. -/
def hex4 : Bytes → Option (Nat × Bytes)
  | a :: b :: c :: d :: rest => do
    let a ← hexValue a
    let b ← hexValue b
    let c ← hexValue c
    let d ← hexValue d
    some (((a * 16 + b) * 16 + c) * 16 + d, rest)
  | _ => none

/-- The UTF-8 bytes of a code point. -/
def utf8Bytes (code : Nat) : Bytes := String.utf8EncodeChar (Char.ofNat code)

/-- The second half of a surrogate pair. -/
def lowSurrogate : Bytes → Option (Nat × Bytes)
  | 92 :: 117 :: rest => (hex4 rest).filter fun r => 0xDC00 ≤ r.1 && r.1 < 0xE000
  | _ => none

/-- The code point of a pair of surrogates. -/
def surrogateCode (high low : Nat) : Nat := 0x10000 + (high - 0xD800) * 0x400 + (low - 0xDC00)

/-- A `\u` behind its letter: a code point, or the pair of surrogates of one. -/
def unicodeEscape (s : Bytes) : Option (Bytes × Bytes) :=
  (hex4 s).bind fun (unit, rest) =>
    if 0xD800 ≤ unit ∧ unit < 0xDC00 then
      (lowSurrogate rest).map fun (low, rest) => (utf8Bytes (surrogateCode unit low), rest)
    else if 0xDC00 ≤ unit ∧ unit < 0xE000 then none
    else some (utf8Bytes unit, rest)

def escape : Bytes → Option (Bytes × Bytes)
  | [] => none
  | c :: rest =>
    if c = 34 ∨ c = 92 ∨ c = 47 then some ([c], rest)
    else if c = 98 then some ([8], rest)
    else if c = 102 then some ([12], rest)
    else if c = 110 then some ([10], rest)
    else if c = 114 then some ([13], rest)
    else if c = 116 then some ([9], rest)
    else if c = 117 then unicodeEscape rest
    else none

private theorem ne_quote_of_hexValue {c : UInt8} {n : Nat} (h : hexValue c = some n) : c ≠ kQuote := by
  rintro rfl
  revert h
  rw [show hexValue kQuote = none by decide]
  exact nofun

private theorem hex4_eq {s rest : Bytes} {unit : Nat} (h : hex4 s = some (unit, rest)) :
    ∃ raw, s = raw ++ rest ∧ raw.length = 4 ∧ raw.count kQuote = 0 := by
  match s with
  | a :: b :: c :: d :: tail =>
    simp only [hex4, Option.bind_eq_bind, Option.bind_eq_some_iff] at h
    obtain ⟨_, ha, _, hb, _, hc, _, hd, heq⟩ := h
    cases heq
    refine ⟨[a, b, c, d], rfl, rfl, ?_⟩
    simp [ne_quote_of_hexValue ha, ne_quote_of_hexValue hb, ne_quote_of_hexValue hc,
      ne_quote_of_hexValue hd]
  | [] | [_] | [_, _] | [_, _, _] => cases h

private theorem lowSurrogate_eq {s rest : Bytes} {low : Nat} (h : lowSurrogate s = some (low, rest)) :
    ∃ raw, s = raw ++ rest ∧ raw.count kQuote = 0 := by
  unfold lowSurrogate at h
  split at h
  · obtain ⟨raw, hs, -, hcount⟩ := hex4_eq (Option.filter_eq_some_iff.1 h).1
    refine ⟨92 :: 117 :: raw, by rw [hs]; rfl, ?_⟩
    rw [List.count_cons_of_ne (by decide), List.count_cons_of_ne (by decide), hcount]
  · cases h

private theorem length_utf8Bytes (code : Nat) : (utf8Bytes code).length ≤ 4 := by
  rw [utf8Bytes, String.length_utf8EncodeChar]
  exact Char.utf8Size_le_four _

private theorem unicodeEscape_eq {s out rest : Bytes} (h : unicodeEscape s = some (out, rest)) :
    ∃ raw, s = raw ++ rest ∧ out.length ≤ raw.length ∧ raw.count kQuote = 0 := by
  obtain ⟨⟨unit, behind⟩, hunit, h⟩ := Option.bind_eq_some_iff.1 h
  obtain ⟨raw, hs, hlength, hcount⟩ := hex4_eq hunit
  simp only at h
  split at h
  · obtain ⟨⟨low, rest'⟩, hlow, heq⟩ := Option.map_eq_some_iff.1 h
    simp only [Prod.mk.injEq] at heq
    obtain ⟨rawLow, hbehind, hcountLow⟩ := lowSurrogate_eq hlow
    refine ⟨raw ++ rawLow, ?_, ?_, ?_⟩
    · rw [hs, hbehind, heq.2, List.append_assoc]
    · have hout := length_utf8Bytes (surrogateCode unit low)
      rw [heq.1] at hout
      rw [List.length_append]
      omega
    · rw [List.count_append, hcount, hcountLow]
  · split at h
    · cases h
    · cases h
      exact ⟨raw, hs, hlength ▸ length_utf8Bytes unit, hcount⟩

theorem escape_eq {s out rest : Bytes} (h : escape s = some (out, rest)) :
    ∃ raw, s = raw ++ rest ∧ out.length ≤ raw.length ∧ raw.count kQuote ≤ out.count kQuote := by
  cases s with
  | nil => cases h
  | cons c s =>
    simp only [escape] at h
    split at h
    · cases h
      exact ⟨[c], rfl, Nat.le_refl _, Nat.le_refl _⟩
    next hsame =>
    have hquote : c ≠ kQuote := fun heq => hsame (.inl heq)
    repeat' split at h
    all_goals first
      | obtain ⟨raw, hs, hlength, hcount⟩ := unicodeEscape_eq h
        refine ⟨c :: raw, by rw [hs]; rfl, Nat.le_succ_of_le hlength, ?_⟩
        rw [List.count_cons_of_ne hquote, hcount]
        exact Nat.zero_le _
      | cases h
        all_goals exact ⟨[c], rfl, Nat.le_refl _, by simp [hquote]⟩

/-- The strings of JSON: control characters have to be escaped. -/
def jsonString : QuoteSyntax where
  escape := escape
  forbidden c := c < 32
  escape_eq := escape_eq

/-! ### Objects -/

inductive Value
  | string (s : Bytes)
  | number (n : Nat)
  deriving DecidableEq, Repr

abbrev Member := Bytes × Value

/-- The blanks between two tokens. -/
def isBlank (c : UInt8) : Bool := c = 32 ∨ c = 9 ∨ c = 10 ∨ c = 13

def parseValue : Bytes → Option (Value × Bytes)
  | [] => none
  | c :: rest =>
    if c = kQuote then (unquote jsonString rest).map fun (s, rest) => (.string s, rest)
    else (parseNumber (c :: rest)).map fun (n, rest) => (.number n, rest)

def kColon : UInt8 := 58
def kComma : UInt8 := 44
def kOpen : UInt8 := 123
def kClose : UInt8 := 125

def parseMember (s : Bytes) : Option (Member × Bytes) := do
  let rest ← expect isBlank kQuote s
  let (name, rest) ← unquote jsonString rest
  let rest ← expect isBlank kColon rest
  let (value, rest) ← parseValue (rest.dropWhile isBlank)
  some ((name, value), rest)

/-- The members up to the closing brace.  Each takes at least one byte of the text, so that its length is fuel
enough. -/
def parseMembers : Nat → Bytes → Option (List Member × Bytes)
  | 0, _ => none
  | fuel + 1, s => do
    let (member, rest) ← parseMember s
    match expect isBlank kComma rest with
    | some rest =>
      let (members, rest) ← parseMembers fuel rest
      some (member :: members, rest)
    | none =>
      let rest ← expect isBlank kClose rest
      some ([member], rest)

/-- An object behind its opening brace. -/
def parseBody (s : Bytes) : Option (List Member × Bytes) :=
  match expect isBlank kClose s with
  | some rest => some ([], rest)
  | none => parseMembers s.length s

def parseObject (s : Bytes) : Option (List Member) := do
  let rest ← expect isBlank kOpen s
  let (members, rest) ← parseBody rest
  if rest.dropWhile isBlank = [] ∧ (members.map Prod.fst).Nodup then some members else none

/-! ### Plain objects -/

def Value.render : Value → Bytes
  | .string s => kQuote :: s ++ [kQuote]
  | .number n => decimal n

def renderMember (m : Member) : Bytes := kQuote :: m.1 ++ kQuote :: kColon :: m.2.render

/-- An object with at least one member, nothing being escaped. -/
def renderObject (m : Member) (ms : List Member) : Bytes :=
  kOpen :: renderMember m ++ ms.flatMap (fun m => kComma :: renderMember m) ++ [kClose]

def Value.IsPlain : Value → Prop
  | .string s => Plain jsonString s
  | .number _ => True

def IsPlain (m : Member) : Prop := Plain jsonString m.1 ∧ m.2.IsPlain

/-- The room that a member takes with the comma or brace behind it. -/
def size (m : Member) : Nat := (renderMember m).length + 1

/-! ### Reading back -/

theorem isBlank_of_isDigit {c : UInt8} (h : isDigit c = true) : isBlank c = false := by
  have hne {b : UInt8} (hb : isDigit b = false) : c ≠ b := ne_of_isDigit h hb
  simp [isBlank, hne (b := 32) (by decide), hne (b := 9) (by decide), hne (b := 10) (by decide),
    hne (b := 13) (by decide)]

theorem parseValue_render {v : Value} (h : v.IsPlain) {c : UInt8} (hc : isDigit c = false) (rest : Bytes) :
    parseValue ((v.render ++ c :: rest).dropWhile isBlank) = some (v, c :: rest) := by
  cases v with
  | string s =>
    have hskip : ((Value.string s).render ++ c :: rest).dropWhile isBlank = kQuote :: (s ++ kQuote :: c :: rest) := by
      simp [Value.render, show isBlank kQuote = false by decide]
    rw [hskip, parseValue, if_pos rfl, unquote_append h]
    rfl
  | number n =>
    obtain ⟨d, ds, hds, hd⟩ := decimal_eq_cons n
    have hblank := isBlank_of_isDigit hd
    have hquote : d ≠ kQuote := ne_of_isDigit hd (by decide)
    have hnumber : parseNumber (decimal n ++ c :: rest) = some (n, c :: rest) :=
      parseNumber_decimal n (by simpa using hc)
    simp only [Value.render]
    rw [hds, List.cons_append] at hnumber ⊢
    rw [List.dropWhile_cons_of_neg (by simp [hblank]), parseValue,
      if_neg hquote, hnumber]
    rfl

private theorem parseMember_render {m : Member} (h : IsPlain m) {c : UInt8} (hc : isDigit c = false) (rest : Bytes) :
    parseMember (renderMember m ++ c :: rest) = some (m, c :: rest) := by
  have hrender : renderMember m ++ c :: rest =
      kQuote :: (m.1 ++ kQuote :: (kColon :: (m.2.render ++ c :: rest))) := by
    simp [renderMember]
  rw [hrender, parseMember, expect_cons (by decide)]
  simp only [Option.bind_eq_bind, Option.bind_some, unquote_append h.1]
  rw [expect_cons (by decide), Option.bind_some, parseValue_render h.2 hc]
  rfl

/-- The members behind the first one, and the end of the object. -/
def renderRest (ms : List Member) : Bytes := ms.flatMap (fun m => kComma :: renderMember m) ++ [kClose]

theorem parseMembers_render {m : Member} {ms : List Member} (h : ∀ x ∈ m :: ms, IsPlain x) (fuel : Nat) :
    parseMembers (ms.length + 1 + fuel) (renderMember m ++ renderRest ms) = some (m :: ms, []) := by
  induction ms generalizing m with
  | nil =>
    rw [show ([] : List Member).length + 1 + fuel = fuel + 1 by simp; omega, parseMembers]
    have hmember := parseMember_render (h m List.mem_cons_self) (c := kClose) (by decide) []
    simp only [renderRest, List.flatMap_nil, List.nil_append, hmember, Option.bind_eq_bind, Option.bind_some]
    rw [expect_cons_of_ne (by decide) (by decide), expect_cons (by decide)]
    rfl
  | cons m' ms ih =>
    have hrest : renderRest (m' :: ms) = kComma :: (renderMember m' ++ renderRest ms) := by simp [renderRest]
    have htail := ih fun x hx => h x (List.mem_cons_of_mem m hx)
    rw [show (m' :: ms).length + 1 + fuel = ms.length + 1 + fuel + 1 by simp; omega, parseMembers, hrest]
    simp only [parseMember_render (h m List.mem_cons_self) (show isDigit kComma = false by decide), Option.bind_eq_bind,
      Option.bind_some]
    rw [expect_cons (by decide)]
    simp only [htail, Option.bind_some]

theorem length_lt_renderRest (ms : List Member) : ms.length < (renderRest ms).length := by
  induction ms with
  | nil => exact Nat.zero_lt_one
  | cons m ms ih =>
    simp only [renderRest, List.flatMap_cons, List.length_append, List.length_cons] at ih ⊢
    omega

/-- A plain object is read back. -/
theorem parseObject_render {m : Member} {ms : List Member} (h : ∀ x ∈ m :: ms, IsPlain x)
    (hnames : ((m :: ms).map Prod.fst).Nodup) : parseObject (renderObject m ms) = some (m :: ms) := by
  have hrender : renderObject m ms = kOpen :: (renderMember m ++ renderRest ms) := by
    simp [renderObject, renderRest]
  have hfirst : expect isBlank kClose (renderMember m ++ renderRest ms) = none := by
    rw [renderMember, List.cons_append, List.cons_append]
    exact expect_cons_of_ne (by decide) (by decide) _
  obtain ⟨fuel, hfuel⟩ : ∃ fuel, (renderMember m ++ renderRest ms).length = ms.length + 1 + fuel := by
    have hlt := length_lt_renderRest ms
    refine Nat.exists_eq_add_of_le ?_
    rw [List.length_append]
    omega
  rw [hrender, parseObject, expect_cons (by decide)]
  simp only [Option.bind_eq_bind, Option.bind_some, parseBody, hfirst, hfuel, parseMembers_render h]
  rw [if_pos ⟨rfl, hnames⟩]

/-- A plain object has no control character in it. -/
theorem not_mem_renderObject {c : UInt8} (hc : c < 32) {m : Member} {ms : List Member}
    (h : ∀ x ∈ m :: ms, IsPlain x) : c ∉ renderObject m ms := by
  have hne {d : UInt8} (hd : ¬ d < 32) : c ≠ d := fun heq => hd (heq ▸ hc)
  have hstring {s : Bytes} (hs : Plain jsonString s) : c ∉ s := fun hmem => by
    have hforbidden := (hs.bytes c hmem).2.2
    simp [jsonString, hc] at hforbidden
  have hdigit : isDigit c = false := by
    rw [Bool.eq_false_iff, Ne, isDigit, Bool.and_eq_true, decide_eq_true_eq, decide_eq_true_eq, UInt8.le_iff_toNat_le]
    rw [UInt8.lt_iff_toNat_lt] at hc
    rintro ⟨hle, -⟩
    exact absurd (Nat.lt_of_le_of_lt hle hc) (by decide)
  have hmember {x : Member} (hx : IsPlain x) : c ∉ renderMember x := by
    obtain ⟨name, value⟩ := x
    have hquote := hne (d := kQuote) (by decide)
    have hcolon := hne (d := kColon) (by decide)
    cases value with
    | string s => simp [renderMember, Value.render, hstring hx.1, hstring hx.2, hquote, hcolon]
    | number n => simp [renderMember, Value.render, hstring hx.1, not_mem_decimal hdigit, hquote, hcolon]
  simp only [renderObject, List.mem_cons, List.mem_append, List.mem_flatMap, List.not_mem_nil, or_false, not_or,
    not_exists, not_and]
  refine ⟨⟨⟨hne (by decide), hmember (h m List.mem_cons_self)⟩, fun x hx => ⟨hne (by decide), ?_⟩⟩, hne (by decide)⟩
  exact hmember (h x (List.mem_cons_of_mem m hx))

/-! ### Room -/

/-- A value takes at least the room that it is written in, and if no more, it is plain. -/
private theorem parseValue_size {s rest : Bytes} {v : Value} (h : parseValue s = some (v, rest)) :
    v.render.length + rest.length ≤ s.length ∧ (v.render.length + rest.length = s.length → v.IsPlain) := by
  cases s with
  | nil => cases h
  | cons c s =>
    rw [parseValue] at h
    split at h
    · obtain ⟨⟨string, behind⟩, hstring, heq⟩ := Option.map_eq_some_iff.1 h
      cases heq
      obtain ⟨hle, hplain⟩ := unquote_size hstring
      simp only [Value.render, List.cons_append, List.length_cons, List.length_append, List.length_nil]
      exact ⟨by omega, fun heq => hplain (by omega)⟩
    · obtain ⟨⟨n, behind⟩, hnumber, heq⟩ := Option.map_eq_some_iff.1 h
      cases heq
      exact ⟨(parseNumber_size hnumber).le, fun _ => trivial⟩

private theorem parseMember_size {s rest : Bytes} {m : Member} (h : parseMember s = some (m, rest)) :
    (renderMember m).length + rest.length ≤ s.length ∧
      ((renderMember m).length + rest.length = s.length → IsPlain m) := by
  simp only [parseMember, Option.bind_eq_bind, Option.bind_eq_some_iff] at h
  obtain ⟨s₁, hquote, ⟨name, s₂⟩, hname, s₃, hcolon, ⟨value, s₄⟩, hvalue, heq⟩ := h
  cases heq
  have hquote := expect_size hquote
  obtain ⟨hname, hplainName⟩ := unquote_size hname
  have hcolon : s₃.length + 1 ≤ s₂.length := expect_size hcolon
  have hspace := length_dropWhile_le isBlank s₃
  obtain ⟨hvalue, hplainValue⟩ := parseValue_size hvalue
  simp only [renderMember, List.cons_append, List.length_cons, List.length_append]
  exact ⟨by omega, fun heq => ⟨hplainName (by omega), hplainValue (by omega)⟩⟩

private theorem parseMembers_size {fuel : Nat} {s rest : Bytes} {ms : List Member}
    (h : parseMembers fuel s = some (ms, rest)) :
    (ms.map size).sum + rest.length ≤ s.length ∧
      ((ms.map size).sum + rest.length = s.length → ∀ m ∈ ms, IsPlain m) := by
  induction fuel generalizing s ms rest with
  | zero => cases h
  | succ fuel ih =>
    simp only [parseMembers, Option.bind_eq_bind, Option.bind_eq_some_iff] at h
    obtain ⟨⟨m, s₁⟩, hmember, h⟩ := h
    obtain ⟨hle, hplain⟩ := parseMember_size hmember
    split at h
    · next s₂ hcomma =>
      obtain ⟨⟨tail, s₃⟩, htail, heq⟩ := Option.bind_eq_some_iff.1 h
      cases heq
      have hcomma : s₂.length + 1 ≤ s₁.length := expect_size hcomma
      obtain ⟨hletail, hplaintail⟩ := ih htail
      simp only [List.map_cons, List.sum_cons, size]
      refine ⟨by omega, fun heq x hx => ?_⟩
      rcases List.mem_cons.1 hx with rfl | hx
      · exact hplain (by omega)
      · exact hplaintail (by omega) x hx
    · obtain ⟨s₂, hclose, heq⟩ := Option.bind_eq_some_iff.1 h
      cases heq
      have hclose : rest.length + 1 ≤ s₁.length := expect_size hclose
      simp only [List.map_cons, List.map_nil, List.sum_cons, List.sum_nil, size]
      refine ⟨by omega, fun heq x hx => ?_⟩
      rw [List.mem_singleton.1 hx]
      exact hplain (by omega)

/-- **The room of an object**: at least that of its members, and if no more, these are plain. -/
theorem parseObject_size {s : Bytes} {ms : List Member} (h : parseObject s = some ms) :
    (ms.map size).sum + 1 ≤ s.length ∧ ((ms.map size).sum + 1 = s.length → ∀ m ∈ ms, IsPlain m) ∧
      (ms.map Prod.fst).Nodup := by
  simp only [parseObject, Option.bind_eq_bind, Option.bind_eq_some_iff] at h
  obtain ⟨s₁, hopen, ⟨ms', s₂⟩, hmembers, heq⟩ := h
  simp only at heq
  split at heq
  · next hend =>
    cases heq
    have hopen := expect_size hopen
    unfold parseBody at hmembers
    split at hmembers
    · cases hmembers
      rw [List.map_nil, List.sum_nil]
      exact ⟨by omega, fun _ => nofun, hend.2⟩
    · obtain ⟨hle, hplain⟩ := parseMembers_size hmembers
      exact ⟨by omega, fun heq => hplain (by omega), hend.2⟩
  · cases heq

private theorem length_renderObject (m : Member) (ms : List Member) :
    (renderObject m ms).length = ((m :: ms).map size).sum + 1 := by
  have hrest : (renderRest ms).length = (ms.map size).sum + 1 := by
    induction ms with
    | nil => rfl
    | cons m ms ih =>
      simp only [renderRest, List.flatMap_cons, List.length_append, List.length_cons, List.map_cons, List.sum_cons,
        size] at ih ⊢
      omega
  have hrender : renderObject m ms = kOpen :: (renderMember m ++ renderRest ms) := by
    simp [renderObject, renderRest]
  rw [hrender, List.length_cons, List.length_append, hrest, List.map_cons, List.sum_cons, size]
  omega

/-- **What is written without escaping is read back, in some order, exactly where it is plain** and no name comes
twice. -/
theorem parseObject_render_perm_iff (m : Member) (ms : List Member) :
    (∃ read, parseObject (renderObject m ms) = some read ∧ read.Perm (m :: ms)) ↔
      (∀ x ∈ m :: ms, IsPlain x) ∧ ((m :: ms).map Prod.fst).Nodup := by
  constructor
  · rintro ⟨read, hread, hperm⟩
    obtain ⟨-, hplain, hnames⟩ := parseObject_size hread
    rw [length_renderObject, (hperm.map size).sum_nat] at hplain
    refine ⟨fun x hx => hplain rfl x (hperm.mem_iff.2 hx), ?_⟩
    exact (hperm.map Prod.fst).nodup_iff.1 hnames
  · rintro ⟨hplain, hnames⟩
    exact ⟨m :: ms, parseObject_render hplain hnames, .refl _⟩

end FlatJson
