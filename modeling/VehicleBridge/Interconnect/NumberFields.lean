import VehicleBridge.Interconnect.MessageCodec

/-!
# The number fields of a text

`Decode` reads the fields 0, 3, 4 and 5 of a text with `std::stoul` and `std::stoull`, which pass over blanks in front
of a number and over anything behind it and take a minus, and it casts two of the results to 32 bits.  So it accepts
more than numbers that are written in digits and fit their field.  `decode_cases` says what it accepts, and
`decode_strict_iff` which texts it treats as a strict reader would.
-/

namespace VehicleBridge

open ByteText

/-- A field of digits, whose value fits the given number of bits. -/
structure InDigits (bits : Nat) (field : Bytes) : Prop where
  ne_nil : field ≠ []
  digits : ∀ c ∈ field, isDigit c = true
  fits : ofDecimal field < 2 ^ bits

/-- The number fields are digits and fit the members they are read into. -/
structure PlainNumbers (fields : List Bytes) : Prop where
  schemaVersion : InDigits 32 (fields.getD 0 [])
  sequence : InDigits 64 (fields.getD 3 [])
  timestampMs : InDigits 64 (fields.getD 4 [])
  ttlMs : InDigits 32 (fields.getD 5 [])

/-- The numbers of the envelope are those that the fields stand for. -/
structure NumbersOf (fields : List Bytes) (e : MessageEnvelope) : Prop where
  schemaVersion : e.schemaVersion.toNat = ofDecimal (fields.getD 0 [])
  sequence : e.sequence.toNat = ofDecimal (fields.getD 3 [])
  timestampMs : e.timestampMs.toNat = ofDecimal (fields.getD 4 [])
  ttlMs : e.ttlMs.toNat = ofDecimal (fields.getD 5 [])

/-- What a strict reader may do: accept a text whose numbers are plain, with their values, or refuse it and leave `*out`
alone. -/
inductive ParsedStrictly (s : Bytes) (out : MessageEnvelope) : ErrorCode × MessageEnvelope → Prop
  | accepted {d : MessageEnvelope} : PlainNumbers (splitEscaped s) → NumbersOf (splitEscaped s) d →
      ParsedStrictly s out (.ok, d)
  | refused {ec : ErrorCode} : ec ≠ .ok → ParsedStrictly s out (ec, out)

/-- What `Decode` asks of the fields of a text: their number, numbers that the library reads, a version whose low 32
bits are not below the baseline, and a channel and a QoS that it knows. -/
structure Readable (fields : List Bytes) : Prop where
  length : fields.length = kExpectedFieldCount ∨ fields.length = kExpectedCompactFieldCount
  schemaVersion : ∃ x, Numeral (fields.getD 0 []) x ∧ kSchemaVersionCompatBaseline ≤ x.toUInt32
  sequence : ∃ x, Numeral (fields.getD 3 []) x
  timestampMs : ∃ x, Numeral (fields.getD 4 []) x
  ttlMs : ∃ x, Numeral (fields.getD 5 []) x
  channel : channelFromString (fields.getD 1 []) ≠ none
  qos : qosFromString (fields.getD 2 []) ≠ none

/-! ### Reading the numbers -/

/-- The numbers of the envelope are those that the library reads, two of them cast to 32 bits. -/
structure NumbersRead (fields : List Bytes) (e : MessageEnvelope) : Prop where
  schemaVersion : ∃ x, stoul (fields.getD 0 []) = .ok x ∧ e.schemaVersion = x.toUInt32
  sequence : stoull (fields.getD 3 []) = .ok e.sequence
  timestampMs : stoull (fields.getD 4 []) = .ok e.timestampMs
  ttlMs : ∃ x, stoul (fields.getD 5 []) = .ok x ∧ e.ttlMs = x.toUInt32

private theorem toNat_of_stoull {bits : Nat} {field : Bytes} {x : UInt64} (h : InDigits bits field) (hbits : bits ≤ 64)
    (hx : stoull field = .ok x) : x.toNat = ofDecimal field := by
  have hpow : 2 ^ bits ≤ 2 ^ 64 := Nat.pow_le_pow_right (by decide) hbits
  have hfits : ofDecimal field < 2 ^ 64 := Nat.lt_of_lt_of_le h.fits hpow
  rw [stoull_of_digits h.ne_nil h.digits, if_neg (Nat.not_le.2 hfits)] at hx
  cases hx
  rw [UInt64.toNat_ofNat', Nat.mod_eq_of_lt hfits]

/-- The cast keeps a number that fits. -/
private theorem toNat_of_stoul {field : Bytes} {y : UInt32} (h : InDigits 32 field)
    (hread : ∃ x, stoul field = .ok x ∧ y = x.toUInt32) : y.toNat = ofDecimal field := by
  obtain ⟨x, hx, rfl⟩ := hread
  rw [UInt64.toNat_toUInt32, toNat_of_stoull h (by decide) hx, Nat.mod_eq_of_lt h.fits]

/-- Plain numbers are read as what they stand for. -/
theorem NumbersRead.numbersOf {fields : List Bytes} {e : MessageEnvelope} (h : NumbersRead fields e)
    (hplain : PlainNumbers fields) : NumbersOf fields e where
  schemaVersion := toNat_of_stoul hplain.schemaVersion h.schemaVersion
  sequence := toNat_of_stoull hplain.sequence (Nat.le_refl _) h.sequence
  timestampMs := toNat_of_stoull hplain.timestampMs (Nat.le_refl _) h.timestampMs
  ttlMs := toNat_of_stoul hplain.ttlMs h.ttlMs

namespace MessageCodec

private theorem parseNumbers_cases (fields : List Bytes) :
    (∃ parsed, parseNumbers fields = .ok parsed ∧ NumbersRead fields parsed) ∨
      ((∃ x, parseNumbers fields = .error x) ∧ ¬ ∃ parsed, NumbersRead fields parsed) := by
  unfold parseNumbers
  cases hversion : stoul (fields.getD 0 []) with
  | error x =>
    refine .inr ⟨⟨x, rfl⟩, fun ⟨_, h⟩ => ?_⟩
    obtain ⟨y, hy, -⟩ := h.schemaVersion
    cases hversion.symm.trans hy
  | ok version =>
    cases hsequence : stoull (fields.getD 3 []) with
    | error x => exact .inr ⟨⟨x, rfl⟩, fun ⟨_, h⟩ => by cases hsequence.symm.trans h.sequence⟩
    | ok sequence =>
      cases htimestamp : stoull (fields.getD 4 []) with
      | error x => exact .inr ⟨⟨x, rfl⟩, fun ⟨_, h⟩ => by cases htimestamp.symm.trans h.timestampMs⟩
      | ok timestamp =>
        cases httl : stoul (fields.getD 5 []) with
        | error x =>
          refine .inr ⟨⟨x, rfl⟩, fun ⟨_, h⟩ => ?_⟩
          obtain ⟨y, hy, -⟩ := h.ttlMs
          cases httl.symm.trans hy
        | ok ttl =>
          exact .inl ⟨_, rfl, ⟨version, hversion, rfl⟩, hsequence, htimestamp, ttl, httl, rfl⟩

/-- A readable text is accepted with the numbers that the library reads, and any other one is refused. -/
private theorem decodeFields_cases (fields : List Bytes) (out : MessageEnvelope) :
    (Readable fields ∧ ∃ d, decodeFields fields out = (.ok, d) ∧ NumbersRead fields d) ∨
      (¬ Readable fields ∧ decodeFields fields out = (.invalidParam, out)) := by
  unfold decodeFields
  by_cases hlength : fields.length ≠ kExpectedFieldCount ∧ fields.length ≠ kExpectedCompactFieldCount
  · rw [if_pos hlength]
    exact .inr ⟨fun h => h.length.elim hlength.1 hlength.2, rfl⟩
  rw [if_neg hlength]
  rcases parseNumbers_cases fields with ⟨parsed, hparsed, hread⟩ | ⟨⟨x, herror⟩, hnone⟩
  · rw [hparsed]
    obtain ⟨version, hversion, hcast⟩ := hread.schemaVersion
    simp only
    by_cases hbaseline : parsed.schemaVersion < kSchemaVersionCompatBaseline
    · rw [if_pos hbaseline]
      refine .inr ⟨fun h => ?_, rfl⟩
      obtain ⟨x, hx, hle⟩ := h.schemaVersion
      cases hversion.symm.trans (stoull_eq_ok_iff.2 hx)
      rw [← hcast] at hle
      exact UInt32.not_lt.2 hle hbaseline
    rw [if_neg hbaseline]
    cases hchannel : channelFromString (fields.getD 1 []) with
    | none => exact .inr ⟨fun h => h.channel hchannel, rfl⟩
    | some channel =>
      cases hqos : qosFromString (fields.getD 2 []) with
      | none => exact .inr ⟨fun h => h.qos hqos, rfl⟩
      | some qos =>
        obtain ⟨ttl, httl, -⟩ := hread.ttlMs
        have hreadable : Readable fields :=
          { length := by omega
            schemaVersion := ⟨version, stoull_eq_ok_iff.1 hversion, hcast ▸ UInt32.not_lt.1 hbaseline⟩
            sequence := ⟨_, stoull_eq_ok_iff.1 hread.sequence⟩
            timestampMs := ⟨_, stoull_eq_ok_iff.1 hread.timestampMs⟩
            ttlMs := ⟨ttl, stoull_eq_ok_iff.1 httl⟩
            channel := by rw [hchannel]; exact Option.some_ne_none channel
            qos := by rw [hqos]; exact Option.some_ne_none qos }
        refine .inl ⟨hreadable, ?_⟩
        simp only
        split <;> exact ⟨_, rfl, hread.schemaVersion, hread.sequence, hread.timestampMs, hread.ttlMs⟩
  · rw [herror]
    refine .inr ⟨fun h => hnone ?_, rfl⟩
    obtain ⟨version, hversion, -⟩ := h.schemaVersion
    obtain ⟨sequence, hsequence⟩ := h.sequence
    obtain ⟨timestamp, htimestamp⟩ := h.timestampMs
    obtain ⟨ttl, httl⟩ := h.ttlMs
    exact ⟨{ schemaVersion := version.toUInt32, sequence := sequence, timestampMs := timestamp, ttlMs := ttl.toUInt32 },
      ⟨version, stoull_eq_ok_iff.2 hversion, rfl⟩, stoull_eq_ok_iff.2 hsequence, stoull_eq_ok_iff.2 htimestamp,
      ttl, stoull_eq_ok_iff.2 httl, rfl⟩

theorem decode_cases (s : Bytes) (out : MessageEnvelope) :
    (Readable (splitEscaped s) ∧ ∃ d, decode s out = (.ok, d) ∧ NumbersRead (splitEscaped s) d) ∨
      (¬ Readable (splitEscaped s) ∧ decode s out = (.invalidParam, out)) := by
  unfold decode
  split
  · next hempty =>
    rw [hempty]
    exact .inr ⟨fun h => h.length.elim (by decide) (by decide), rfl⟩
  · exact decodeFields_cases (splitEscaped s) out

/-- **Numbers are parsed strictly** exactly on the texts that are not readable, and on the readable ones whose numbers
are plain. -/
theorem decode_strict_iff (s : Bytes) (out : MessageEnvelope) :
    ParsedStrictly s out (decode s out) ↔ (Readable (splitEscaped s) → PlainNumbers (splitEscaped s)) := by
  rcases decode_cases s out with ⟨hreadable, d, hdecode, hread⟩ | ⟨hnot, hdecode⟩
  · rw [hdecode]
    constructor
    · intro h _
      cases h with
      | accepted hplain => exact hplain
      | refused hne => exact absurd rfl hne
    · intro h
      exact .accepted (h hreadable) (hread.numbersOf (h hreadable))
  · rw [hdecode]
    exact iff_of_true (.refused (by decide)) fun h => absurd h hnot

/-- A sequence number with a minus, and a TTL of 2^32 + 5: the text is accepted. -/
theorem decode_not_strict : ¬ ∀ s out, ParsedStrictly s out (decode s out) := by
  intro h
  have hstrict := h (text "1|event|best_effort|-1|0|4294967301|t|p") {}
  have hdecode : decode (text "1|event|best_effort|-1|0|4294967301|t|p") {} =
      (.ok, { sequence := 18446744073709551615, ttlMs := 5, topic := text "t", payload := text "p" }) := by decide
  rw [hdecode] at hstrict
  cases hstrict with
  | accepted hplain => exact absurd (hplain.sequence.digits 45 (by decide)) (by decide)

end MessageCodec

end VehicleBridge
