import VehicleBridge.Lib.FlatJson

/-!
# JSON objects in objects

Reading JSON values that are integers, strings or objects of such values; a value of another kind is refused, and so is
an object with a name in it twice.

What is written without escaping is read back where all strings are plain (`parse_render`).
-/

namespace NestedJson

open ByteText Tokens FlatJson

inductive Value
  | number (n : Int)
  | string (s : Bytes)
  | object (members : List (Bytes × Value))

abbrev Member := Bytes × Value

/-- The value at a path of names. -/
def Value.get : Value → List Bytes → Option Value
  | v, [] => some v
  | .object members, name :: path => (members.lookup name).bind fun v => v.get path
  | .number _, _ :: _ => none
  | .string _, _ :: _ => none

/-! ### Writing -/

mutual

def Value.render : Value → Bytes
  | .number n => signedDecimal n
  | .string s => kQuote :: s ++ [kQuote]
  | .object [] => [kOpen, kClose]
  | .object ((name, value) :: members) =>
    kOpen :: (kQuote :: (name ++ kQuote :: kColon :: value.render) ++ renderRest members)

/-- The members behind the first one, and the end of the object. -/
def renderRest : List Member → Bytes
  | [] => [kClose]
  | (name, value) :: members =>
    kComma :: (kQuote :: (name ++ kQuote :: kColon :: value.render) ++ renderRest members)

end

/-! ### Reading -/

def kMinus : UInt8 := 45

def parseInteger : Bytes → Option (Int × Bytes)
  | [] => none
  | c :: s =>
    if c = kMinus then (parseNumber s).map fun (n, rest) => (-(n : Int), rest)
    else (parseNumber (c :: s)).map fun (n, rest) => ((n : Int), rest)

mutual

/-- Each call takes at least one byte of the text, so that its length is fuel enough. -/
def parseValue : Nat → Bytes → Option (Value × Bytes)
  | 0, _ => none
  | _ + 1, [] => none
  | fuel + 1, c :: s =>
    if c = kQuote then (unquote jsonString s).map fun (string, rest) => (.string string, rest)
    else if c = kOpen then
      match expect isBlank kClose s with
      | some rest => some (.object [], rest)
      | none => (parseMembers fuel s).bind fun (members, rest) =>
        if (members.map Prod.fst).Nodup then some (.object members, rest) else none
    else (parseInteger (c :: s)).map fun (n, rest) => (.number n, rest)

/-- The members up to the closing brace. -/
def parseMembers : Nat → Bytes → Option (List Member × Bytes)
  | 0, _ => none
  | fuel + 1, s => do
    let rest ← expect isBlank kQuote s
    let (name, rest) ← unquote jsonString rest
    let rest ← expect isBlank kColon rest
    let (value, rest) ← parseValue fuel (rest.dropWhile isBlank)
    match expect isBlank kComma rest with
    | some rest =>
      let (members, rest) ← parseMembers fuel rest
      some ((name, value) :: members, rest)
    | none =>
      let rest ← expect isBlank kClose rest
      some ([(name, value)], rest)

end

mutual

/-- All strings and names are plain, and no object has a name in it twice. -/
def Value.IsPlain : Value → Prop
  | .number _ => True
  | .string s => Plain jsonString s
  | .object members => (members.map Prod.fst).Nodup ∧ MembersPlain members

def MembersPlain : List Member → Prop
  | [] => True
  | (name, value) :: members => Plain jsonString name ∧ value.IsPlain ∧ MembersPlain members

end

theorem parseInteger_signedDecimal (n : Int) {rest : Bytes} (h : rest.head?.any isDigit = false) :
    parseInteger (signedDecimal n ++ rest) = some (n, rest) := by
  rw [signedDecimal]
  split
  · next hneg =>
    have habs : -(n.natAbs : Int) = n := by omega
    rw [List.cons_append, parseInteger, if_pos (by decide), parseNumber_decimal _ h]
    exact congrArg (fun n => some (n, rest)) habs
  · next hnonneg =>
    obtain ⟨d, ds, hds, hd⟩ := decimal_eq_cons n.natAbs
    have hminus : d ≠ kMinus := ne_of_isDigit hd (by decide)
    have hnumber := parseNumber_decimal n.natAbs h
    rw [hds, List.cons_append] at hnumber ⊢
    have habs : (n.natAbs : Int) = n := by omega
    rw [parseInteger, if_neg hminus, hnumber]
    exact congrArg (fun n => some (n, rest)) habs

/-- An integer begins with a byte that no other token begins with. -/
private theorem signedDecimal_head (n : Int) :
    ∃ c s, signedDecimal n = c :: s ∧ isBlank c = false ∧ c ≠ kQuote ∧ c ≠ kOpen := by
  rw [signedDecimal]
  split
  · exact ⟨_, _, rfl, by decide, by decide, by decide⟩
  · obtain ⟨d, ds, hds, hd⟩ := decimal_eq_cons n.natAbs
    exact ⟨d, ds, hds, isBlank_of_isDigit hd, ne_of_isDigit hd (by decide), ne_of_isDigit hd (by decide)⟩

/-- A value begins with a byte that is no blank. -/
private theorem Value.render_head (v : Value) : ∃ c s, v.render = c :: s ∧ isBlank c = false := by
  cases v with
  | number n =>
    obtain ⟨c, s, hv, hc, -⟩ := signedDecimal_head n
    exact ⟨c, s, by rw [Value.render, hv], hc⟩
  | string s => exact ⟨_, _, by rw [Value.render]; rfl, by decide⟩
  | object members =>
    cases members with
    | nil => exact ⟨_, _, by rw [Value.render], by decide⟩
    | cons m members => exact ⟨_, _, by rw [Value.render], by decide⟩

private theorem Value.dropWhile_render (v : Value) (rest : Bytes) :
    (v.render ++ rest).dropWhile isBlank = v.render ++ rest := by
  obtain ⟨c, s, hv, hc⟩ := v.render_head
  rw [hv, List.cons_append]
  exact List.dropWhile_cons_of_neg (by simp [hc])

/-- What follows a member does not go on with its number. -/
private theorem renderRest_head (members : List Member) (rest : Bytes) :
    (renderRest members ++ rest).head?.any isDigit = false := by
  cases members with
  | nil => rw [renderRest]; rfl
  | cons m members => rw [renderRest]; rfl

/-- A member with a plain name, up to what follows its value. -/
private theorem parseMembers_succ {name rest : Bytes} {value : Value} {fuel : Nat} (hname : Plain jsonString name)
    (hvalue : parseValue fuel (value.render ++ rest) = some (value, rest)) :
    parseMembers (fuel + 1) (kQuote :: (name ++ kQuote :: kColon :: value.render) ++ rest) =
      match expect isBlank kComma rest with
      | some rest => (parseMembers fuel rest).bind fun r => some ((name, value) :: r.1, r.2)
      | none => (expect isBlank kClose rest).bind fun rest => some ([(name, value)], rest) := by
  have hname' := unquote_append hname (kColon :: (value.render ++ rest))
  have htext : kQuote :: (name ++ kQuote :: kColon :: value.render) ++ rest =
      kQuote :: (name ++ kQuote :: kColon :: (value.render ++ rest)) := by
    simp
  rw [htext, parseMembers, expect_cons (by decide)]
  simp only [Option.bind_eq_bind, Option.bind_some, hname']
  rw [expect_cons (by decide), Option.bind_some, value.dropWhile_render, hvalue]
  rfl

mutual

theorem parseValue_render : ∀ (v : Value) (fuel : Nat) (rest : Bytes), v.IsPlain → v.render.length ≤ fuel →
    rest.head?.any isDigit = false → parseValue fuel (v.render ++ rest) = some (v, rest)
  | v, 0, _, _, hfuel, _ => by
    obtain ⟨c, s, hv, -⟩ := v.render_head
    rw [hv] at hfuel
    exact absurd hfuel (by simp)
  | .number n, fuel + 1, rest, _, _, hrest => by
    obtain ⟨c, s, hn, -, hquote, hopen⟩ := signedDecimal_head n
    have hinteger := parseInteger_signedDecimal n hrest
    rw [hn, List.cons_append] at hinteger
    rw [Value.render, hn, List.cons_append, parseValue, if_neg hquote, if_neg hopen, hinteger]
    rfl
  | .string s, fuel + 1, rest, hplain, _, _ => by
    have hs : Plain jsonString s := hplain
    have hrender : (Value.string s).render ++ rest = kQuote :: (s ++ kQuote :: rest) := by
      rw [Value.render]
      simp
    rw [hrender, parseValue, if_pos rfl, unquote_append hs]
    rfl
  | .object [], fuel + 1, rest, _, _, _ => by
    rw [Value.render, List.cons_append, parseValue, if_neg (by decide), if_pos rfl, List.singleton_append,
      expect_cons (by decide)]
  | .object ((name, value) :: members), fuel + 1, rest, hplain, hfuel, _ => by
    obtain ⟨hnodup, hname, hvalue, hmembers⟩ := hplain
    have hlength : (renderRest ((name, value) :: members)).length ≤ fuel + 1 := by
      rw [Value.render, List.length_cons] at hfuel
      rw [renderRest, List.length_cons]
      exact hfuel
    have hread := parseMembers_render members name value fuel rest hname hvalue hmembers hlength
    rw [Value.render, List.cons_append, parseValue, if_neg (by decide), if_pos rfl]
    rw [List.cons_append, List.cons_append, expect_cons_of_ne (by decide) (by decide)]
    rw [List.cons_append, List.cons_append] at hread
    simp only [hread, Option.bind_some]
    exact if_pos hnodup

theorem parseMembers_render : ∀ (members : List Member) (name : Bytes) (value : Value) (fuel : Nat) (rest : Bytes),
    Plain jsonString name → value.IsPlain → MembersPlain members →
    (renderRest ((name, value) :: members)).length ≤ fuel + 1 →
      parseMembers fuel (kQuote :: (name ++ kQuote :: kColon :: value.render) ++ renderRest members ++ rest) =
        some ((name, value) :: members, rest)
  | members, name, value, 0, _, _, _, _, hfuel => by
    rw [renderRest] at hfuel
    exact absurd hfuel (by simp)
  | [], name, value, fuel + 1, rest, hname, hvalue, _, hfuel => by
    have hlength : value.render.length ≤ fuel := by
      simp only [renderRest, List.length_cons, List.length_append] at hfuel
      omega
    have hread := parseValue_render value fuel (kClose :: rest) hvalue hlength rfl
    rw [renderRest, List.append_assoc, List.singleton_append, parseMembers_succ hname hread,
      expect_cons_of_ne (by decide) (by decide), expect_cons (by decide)]
    rfl
  | (name', value') :: members, name, value, fuel + 1, rest, hname, hvalue, hmembers, hfuel => by
    obtain ⟨hname', hvalue', hmembers'⟩ := hmembers
    have hlength : value.render.length ≤ fuel ∧ (renderRest ((name', value') :: members)).length ≤ fuel + 1 := by
      rw [renderRest] at hfuel
      simp only [List.length_cons, List.length_append] at hfuel ⊢
      omega
    have hread := parseValue_render value fuel (renderRest ((name', value') :: members) ++ rest) hvalue hlength.1
      (renderRest_head _ _)
    have hrest := parseMembers_render members name' value' fuel rest hname' hvalue' hmembers' hlength.2
    rw [List.append_assoc, parseMembers_succ hname hread, renderRest, List.cons_append, expect_cons (by decide)]
    simp only [hrest, Option.bind_some]

end

end NestedJson
