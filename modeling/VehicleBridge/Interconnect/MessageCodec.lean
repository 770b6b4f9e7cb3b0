import VehicleBridge.Lib.Delimited
import VehicleBridge.Core.ErrorCode
import VehicleBridge.Interconnect.MessageEnvelope

/-!
# The field codec

`MessageCodec` writes an envelope as text fields joined by `|`: eleven fields in the full format, eight in the
compact one, which leaves out source, target and trace id.  Neither format carries the idempotency key.  Decoding
tells the formats apart by the number of fields alone.

The round trip rests on the fields being escaped (`Delimited.split_join_escape`) and on numbers reading back from
their decimal rendering (`stoull_decimal`).
-/

namespace VehicleBridge

open ByteText

/-- `'|'` -/
def kFieldSeparator : UInt8 := 0x7c

/-- `'\\'` -/
def kEscape : UInt8 := 0x5c

def kExpectedFieldCount : Nat := 11
def kExpectedCompactFieldCount : Nat := 8
def kSchemaVersionCompatBaseline : UInt32 := 1

def escapeField (input : Bytes) : Bytes := Delimited.escape kFieldSeparator kEscape input

def unescapeField (input : Bytes) : Bytes := Delimited.unescape kEscape input

def splitEscaped (s : Bytes) : List Bytes := Delimited.split kFieldSeparator kEscape s

def channelToString : ChannelType → Bytes
  | .control => text "control"
  | .telemetry => text "telemetry"
  | .event => text "event"

def channelFromString (value : Bytes) : Option ChannelType :=
  if value = text "control" then some .control
  else if value = text "telemetry" then some .telemetry
  else if value = text "event" then some .event
  else none

def qosToString : DeliveryQoS → Bytes
  | .bestEffort => text "best_effort"
  | .atLeastOnce => text "at_least_once"

def qosFromString (value : Bytes) : Option DeliveryQoS :=
  if value = text "best_effort" then some .bestEffort
  else if value = text "at_least_once" then some .atLeastOnce
  else none

namespace MessageCodec

/-- The fields of the full format, in order; the text fields are escaped when written. -/
def fullFields (envelope : MessageEnvelope) : List Bytes :=
  [decimal envelope.schemaVersion.toNat, channelToString envelope.channel, qosToString envelope.qos,
    decimal envelope.sequence.toNat, decimal envelope.timestampMs.toNat, decimal envelope.ttlMs.toNat,
    escapeField envelope.source, escapeField envelope.target, escapeField envelope.topic,
    escapeField envelope.traceId, escapeField envelope.payload]

/-- The fields of the compact format. -/
def compactFields (envelope : MessageEnvelope) : List Bytes :=
  [decimal envelope.schemaVersion.toNat, channelToString envelope.channel, qosToString envelope.qos,
    decimal envelope.sequence.toNat, decimal envelope.timestampMs.toNat, decimal envelope.ttlMs.toNat,
    escapeField envelope.topic, escapeField envelope.payload]

def encode (envelope : MessageEnvelope) : ErrorCode × Bytes :=
  (.ok, Delimited.join kFieldSeparator (fullFields envelope))

def encodeCompact (envelope : MessageEnvelope) : ErrorCode × Bytes :=
  (.ok, Delimited.join kFieldSeparator (compactFields envelope))

/-- The body of the `try` block: the four numbers, each narrowed to the width of its field. -/
def parseNumbers (fields : List Bytes) : Except StdException MessageEnvelope := do
  let schemaVersion ← stoul (fields.getD 0 [])
  let sequence ← stoull (fields.getD 3 [])
  let timestampMs ← stoull (fields.getD 4 [])
  let ttlMs ← stoul (fields.getD 5 [])
  return { schemaVersion := schemaVersion.toUInt32, sequence := sequence, timestampMs := timestampMs,
           ttlMs := ttlMs.toUInt32 }

/-- What `MessageCodec::Decode` does with the fields of a text. -/
def decodeFields (fields : List Bytes) (out : MessageEnvelope) : ErrorCode × MessageEnvelope :=
  if fields.length ≠ kExpectedFieldCount ∧ fields.length ≠ kExpectedCompactFieldCount then (.invalidParam, out)
  else
    match parseNumbers fields with
    | .error _ => (.invalidParam, out)
    | .ok parsed =>
      if parsed.schemaVersion < kSchemaVersionCompatBaseline then (.invalidParam, out)
      else
        match channelFromString (fields.getD 1 []), qosFromString (fields.getD 2 []) with
        | none, _ => (.invalidParam, out)
        | some _, none => (.invalidParam, out)
        | some channel, some qos =>
          if fields.length = kExpectedCompactFieldCount then
            (.ok, { parsed with
              channel := channel, qos := qos
              topic := unescapeField (fields.getD 6 [])
              payload := unescapeField (fields.getD 7 []) })
          else
            (.ok, { parsed with
              channel := channel, qos := qos
              source := unescapeField (fields.getD 6 [])
              target := unescapeField (fields.getD 7 [])
              topic := unescapeField (fields.getD 8 [])
              traceId := unescapeField (fields.getD 9 [])
              payload := unescapeField (fields.getD 10 []) })

/-- `MessageCodec::Decode`: the code returned and the new content of `*out`. -/
def decode (s : Bytes) (out : MessageEnvelope) : ErrorCode × MessageEnvelope :=
  if s = [] then (.invalidParam, out) else decodeFields (splitEscaped s) out

end MessageCodec

/-! ### Fields -/

private theorem channelFromString_channelToString (channel : ChannelType) :
    channelFromString (channelToString channel) = some channel := by
  cases channel <;> decide

private theorem qosFromString_qosToString (qos : DeliveryQoS) : qosFromString (qosToString qos) = some qos := by
  cases qos <;> decide

@[simp] theorem unescapeField_escapeField (s : Bytes) : unescapeField (escapeField s) = s :=
  Delimited.unescape_escape s

@[simp] theorem escapeField_decimal (n : Nat) : escapeField (decimal n) = decimal n :=
  Delimited.escape_eq_self (not_mem_decimal (by decide)) (not_mem_decimal (by decide))

@[simp] theorem escapeField_channelToString (channel : ChannelType) :
    escapeField (channelToString channel) = channelToString channel := by
  cases channel <;> decide

@[simp] theorem escapeField_qosToString (qos : DeliveryQoS) : escapeField (qosToString qos) = qosToString qos := by
  cases qos <;> decide

private theorem splitEscaped_join (fields : List Bytes) (h : fields ≠ []) :
    splitEscaped (Delimited.join kFieldSeparator (fields.map escapeField)) = fields.map escapeField :=
  Delimited.split_join_escape (by decide) h

/-- The fields are the text cut at its unescaped separators. -/
structure CutsInto (s : Bytes) (fields : List Bytes) : Prop where
  join_eq : Delimited.join kFieldSeparator fields = s
  not_bare : ∀ f ∈ fields, ∀ i, ¬ Delimited.Bare kFieldSeparator kEscape f i
  length_eq : fields.length = (Delimited.bareSeparators kFieldSeparator kEscape s).length + 1

/-- **Splitting loses nothing**: any text is cut at its unescaped separators, and a join of escaped fields into exactly
these fields, which unescape to what they were made from. -/
theorem splitEscaped_lossless :
    (∀ s, CutsInto s (splitEscaped s)) ∧
      ∀ first others, splitEscaped (Delimited.join kFieldSeparator ((first :: others).map escapeField)) =
          (first :: others).map escapeField ∧
        ((first :: others).map escapeField).map unescapeField = first :: others := by
  refine ⟨fun s => ⟨Delimited.join_split s, fun f hf => Delimited.not_bare_of_mem_split hf, ?_⟩, fun first others => ?_⟩
  · exact Delimited.length_split (by decide) s
  · refine ⟨splitEscaped_join _ (List.cons_ne_nil first others), ?_⟩
    rw [List.map_map]
    exact List.map_id'' unescapeField_escapeField _

/-- An escaped separator, a separator behind two escape symbols, and one escape symbol at the end. -/
example : splitEscaped (text "a\\|b\\\\||c\\") =
    [text "a\\|b\\\\", text "", text "c\\"] := by decide

namespace MessageCodec

/-- A full text splits into exactly its eleven fields. -/
private theorem splitEscaped_encode (e : MessageEnvelope) : splitEscaped (encode e).2 = fullFields e := by
  have h := splitEscaped_join [decimal e.schemaVersion.toNat, channelToString e.channel,
    qosToString e.qos, decimal e.sequence.toNat, decimal e.timestampMs.toNat, decimal e.ttlMs.toNat,
    e.source, e.target, e.topic, e.traceId, e.payload] (by simp)
  simp only [List.map_cons, List.map_nil, escapeField_decimal, escapeField_channelToString,
    escapeField_qosToString] at h
  exact h

/-- A compact text splits into exactly its eight fields. -/
private theorem splitEscaped_encodeCompact (e : MessageEnvelope) :
    splitEscaped (encodeCompact e).2 = compactFields e := by
  have h := splitEscaped_join [decimal e.schemaVersion.toNat, channelToString e.channel,
    qosToString e.qos, decimal e.sequence.toNat, decimal e.timestampMs.toNat, decimal e.ttlMs.toNat,
    e.topic, e.payload] (by simp)
  simp only [List.map_cons, List.map_nil, escapeField_decimal, escapeField_channelToString,
    escapeField_qosToString] at h
  exact h

/-! ### The round trip -/

private theorem stoul_decimal (x : UInt32) : stoul (decimal x.toNat) = .ok x.toUInt64 := by
  have h := stoull_decimal x.toUInt64
  rwa [UInt32.toNat_toUInt64] at h

/-- The envelope that `parseNumbers` reads from the fields of `e`. -/
private def numbersOf (e : MessageEnvelope) : MessageEnvelope :=
  { schemaVersion := e.schemaVersion, sequence := e.sequence, timestampMs := e.timestampMs, ttlMs := e.ttlMs }

private theorem parseNumbers_fullFields (e : MessageEnvelope) :
    parseNumbers (fullFields e) = .ok (numbersOf e) := by
  simp [parseNumbers, fullFields, numbersOf, stoul_decimal, stoull_decimal, bind, Except.bind, pure, Except.pure]

private theorem parseNumbers_compactFields (e : MessageEnvelope) :
    parseNumbers (compactFields e) = .ok (numbersOf e) := by
  simp [parseNumbers, compactFields, numbersOf, stoul_decimal, stoull_decimal, bind, Except.bind, pure, Except.pure]

theorem encode_ne_nil (e : MessageEnvelope) : (encode e).2 ≠ [] := by
  simp [encode, fullFields, decimal_ne_nil]

theorem encodeCompact_ne_nil (e : MessageEnvelope) : (encodeCompact e).2 ≠ [] := by
  simp [encodeCompact, compactFields, decimal_ne_nil]

/-- A full text decodes to its envelope without the idempotency key. -/
theorem decode_encode {e : MessageEnvelope} (h : 1 ≤ e.schemaVersion) (out : MessageEnvelope) :
    decode (encode e).2 out = (.ok, { e with idempotencyKey := [] }) := by
  have hv : ¬ e.schemaVersion < kSchemaVersionCompatBaseline := UInt32.not_lt.2 h
  unfold decode decodeFields
  rw [if_neg (encode_ne_nil e), splitEscaped_encode, parseNumbers_fullFields]
  simp [fullFields, numbersOf, hv, kExpectedFieldCount, kExpectedCompactFieldCount,
    channelFromString_channelToString, qosFromString_qosToString]

/-- A compact text decodes to its envelope without source, target, trace id and idempotency key. -/
theorem decode_encodeCompact {e : MessageEnvelope} (h : 1 ≤ e.schemaVersion) (out : MessageEnvelope) :
    decode (encodeCompact e).2 out =
      (.ok, { e with source := [], target := [], traceId := [], idempotencyKey := [] }) := by
  have hv : ¬ e.schemaVersion < kSchemaVersionCompatBaseline := UInt32.not_lt.2 h
  unfold decode decodeFields
  rw [if_neg (encodeCompact_ne_nil e), splitEscaped_encodeCompact, parseNumbers_compactFields]
  simp [compactFields, numbersOf, hv, kExpectedFieldCount, kExpectedCompactFieldCount,
    channelFromString_channelToString, qosFromString_qosToString]

/-- **The field codec round trip**: both formats decode to the envelope they were made from, less the fields the
format leaves out; the fields of a text are exactly those written into it, eleven or eight of them. -/
theorem codec_round_trip (e out : MessageEnvelope) (h : 1 ≤ e.schemaVersion) :
    ((encode e).1 = .ok ∧ decode (encode e).2 out = (.ok, { e with idempotencyKey := [] })) ∧
      ((encodeCompact e).1 = .ok ∧ decode (encodeCompact e).2 out =
        (.ok, { e with source := [], target := [], traceId := [], idempotencyKey := [] })) ∧
      (splitEscaped (encode e).2 = fullFields e ∧ (fullFields e).length = kExpectedFieldCount) ∧
      splitEscaped (encodeCompact e).2 = compactFields e ∧
        (compactFields e).length = kExpectedCompactFieldCount := by
  refine ⟨⟨rfl, decode_encode h out⟩, ⟨rfl, decode_encodeCompact h out⟩, ?_, ?_⟩
  · exact ⟨splitEscaped_encode e, rfl⟩
  · exact ⟨splitEscaped_encodeCompact e, rfl⟩

/-- A command whose payload holds a separator and an escape symbol. -/
def stepCommand : MessageEnvelope :=
  { channel := .control, qos := .atLeastOnce, sequence := 42, timestampMs := 1000, ttlMs := 100
    source := text "vehicle", target := text "robot", topic := text "vehicle.command"
    traceId := text "trace_42", payload := text "go|forward\\step" }

theorem codec_round_trip_stepCommand :
    decode (encode stepCommand).2 {} = (.ok, stepCommand) ∧
      decode (encodeCompact stepCommand).2 {} =
        (.ok, { stepCommand with source := [], target := [], traceId := [] }) :=
  have h := codec_round_trip stepCommand {} (by decide)
  ⟨h.1.2, h.2.1.2⟩

/-- A text that does not start with a sign, a blank or a digit is refused, and `*out` is left alone. -/
theorem decode_of_head {c : UInt8} (hsep : c ≠ kFieldSeparator) (hs : isSpace c = false) (hm : c ≠ 45)
    (hp : c ≠ 43) (hd : isDigit c = false) (s : Bytes) (out : MessageEnvelope) :
    decode (c :: s) out = (.invalidParam, out) := by
  obtain ⟨f, fs, hsplit⟩ := @Delimited.split_cons_head _ kFieldSeparator kEscape _ c hsep s
  have hnum : ∃ x, parseNumbers ((c :: f) :: fs) = .error x := by
    refine ⟨.invalidArgument, ?_⟩
    simp [parseNumbers, stoull_of_head hs hm hp hd, bind, Except.bind]
  obtain ⟨x, hx⟩ := hnum
  unfold decode splitEscaped
  rw [if_neg (by simp), hsplit]
  unfold decodeFields
  rw [hx]
  split <;> rfl

/-- What a text that is accepted decodes to does not depend on what `*out` was. -/
theorem decode_ok_iff {s : Bytes} {out d : MessageEnvelope} : decode s out = (.ok, d) ↔ decode s {} = (.ok, d) := by
  unfold decode decodeFields
  split
  · exact iff_of_false nofun nofun
  · split
    · exact iff_of_false nofun nofun
    · split
      · exact iff_of_false nofun nofun
      · split
        · exact iff_of_false nofun nofun
        · split
          · exact iff_of_false nofun nofun
          · exact iff_of_false nofun nofun
          · exact Iff.rfl

end MessageCodec

end VehicleBridge
