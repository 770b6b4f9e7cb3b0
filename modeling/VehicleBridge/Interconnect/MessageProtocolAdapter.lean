import VehicleBridge.Interconnect.MessageCodec

/-!
# The protocol adapter

`encodeByProtocol` writes one of four formats and declares it in a header `pm=<mode>;pv=<version>;`.  The
`protobuf` and `cbor` formats put the compact text in a frame that carries its length.  `decodeByProtocol` takes
the header off, decodes with the declared mode first and falls back to the receiver's own mode.

`ParseWireFrame` converts the length outside any `try` block, so a length token that does not fit `unsigned long`
throws through the `noexcept` decoder: here that is `.error`, the call of `std::terminate`.
-/

namespace VehicleBridge

open ByteText

inductive MessageProtocolMode
  | legacyPipe
  | compact
  | protobufReserved
  | cborReserved
  deriving DecidableEq, Repr

def kProtocolPrefix : Bytes := text "pm="
def kVersionPrefix : Bytes := text "pv="

/-- `';'` -/
def kProtocolSep : UInt8 := 0x3b

def kWireProtoV2Prefix : Bytes := text "PBV2;"
def kWireCborV2Prefix : Bytes := text "CBV2;"
def kWireVersionLegacy : UInt32 := 1
def kWireVersionCompact : UInt32 := 1
def kWireVersionProtobuf : UInt32 := 2
def kWireVersionCbor : UInt32 := 2

def protocolTag : MessageProtocolMode → Bytes
  | .legacyPipe => text "legacy"
  | .compact => text "compact"
  | .protobufReserved => text "protobuf"
  | .cborReserved => text "cbor"

def parseProtocolTag (tag : Bytes) : MessageProtocolMode :=
  if tag = text "legacy" then .legacyPipe
  else if tag = text "compact" then .compact
  else if tag = text "protobuf" then .protobufReserved
  else if tag = text "cbor" then .cborReserved
  else .legacyPipe

/-- The declared mode and the body behind the header.  Both `pm=<mode>;pv=<version>;<body>` and the older
`pm=<mode>;<body>` are read; a text without `pm=` is all body. -/
def splitEnvelopeHeader (s : Bytes) : Option (MessageProtocolMode × Bytes) :=
  if startsWith s kProtocolPrefix = false then some (.legacyPipe, s)
  else
    match find s kProtocolSep 0 with
    | none => none
    | some firstSep =>
      if firstSep ≤ 3 then none
      else
        let declaredMode := parseProtocolTag (substr s 3 (firstSep - 3))
        match find s kProtocolSep (firstSep + 1) with
        | none => some (declaredMode, substrFrom s (firstSep + 1))
        | some secondSep =>
          let versionToken := substr s (firstSep + 1) (secondSep - firstSep - 1)
          if startsWith versionToken kVersionPrefix = false then none
          else some (declaredMode, substrFrom s (secondSep + 1))

/-- The payload of a length frame, `none` where the source returns false, `.error` where it throws. -/
def parseWireFrame (body pfx : Bytes) : Except StdException (Option Bytes) :=
  if startsWith body pfx = false then .ok none
  else
    match find body kProtocolSep pfx.length with
    | none => .ok none
    | some lenSep =>
      let lenToken := substr body pfx.length (lenSep - pfx.length)
      if lenToken = [] ∨ lenToken.all isDigit = false then .ok none
      else
        match stoul lenToken with
        | .error x => .error x
        | .ok expectedLen =>
          let framePayload := substrFrom body (lenSep + 1)
          if framePayload.length ≠ expectedLen.toNat then .ok none else .ok (some framePayload)

def buildWireFrame (pfx payload : Bytes) : Bytes :=
  pfx ++ (decimal payload.length ++ kProtocolSep :: payload)

def protocolWireVersion : MessageProtocolMode → UInt32
  | .legacyPipe => kWireVersionLegacy
  | .compact => kWireVersionCompact
  | .protobufReserved => kWireVersionProtobuf
  | .cborReserved => kWireVersionCbor

def wrapEnvelopeHeader (mode : MessageProtocolMode) (payload : Bytes) : Bytes :=
  kProtocolPrefix ++ (protocolTag mode ++ kProtocolSep ::
    (kVersionPrefix ++ decimal (protocolWireVersion mode).toNat ++ kProtocolSep :: payload))

/-- The `protobuf` and the `cbor` body: the compact text in a length frame. -/
def encodeFramed (pfx : Bytes) (envelope : MessageEnvelope) : ErrorCode × Bytes :=
  let compact := MessageCodec.encodeCompact envelope
  if compact.1 = .ok then (.ok, buildWireFrame pfx compact.2) else (compact.1, [])

/-- The body of the given mode, before the header is put on. -/
def encodeBody (mode : MessageProtocolMode) (envelope : MessageEnvelope) : ErrorCode × Bytes :=
  match mode with
  | .legacyPipe => MessageCodec.encode envelope
  | .compact => MessageCodec.encodeCompact envelope
  | .protobufReserved => encodeFramed kWireProtoV2Prefix envelope
  | .cborReserved => encodeFramed kWireCborV2Prefix envelope

/-- `EncodeByProtocol`: the code returned and the text written, empty when there is an error. -/
def encodeByProtocol (mode : MessageProtocolMode) (envelope : MessageEnvelope) : ErrorCode × Bytes :=
  let body := encodeBody mode envelope
  if body.1 ≠ .ok then (body.1, []) else (.ok, wrapEnvelopeHeader mode body.2)

/-- Decode the payload of a length frame. -/
def decodeFramed (pfx body : Bytes) (out : MessageEnvelope) : Except StdException (ErrorCode × MessageEnvelope) :=
  match parseWireFrame body pfx with
  | .error x => .error x
  | .ok none => .ok (.invalidParam, out)
  | .ok (some payload) => .ok (MessageCodec.decode payload out)

/-- One attempt of `DecodeByProtocol` at the body. -/
def decodeOnce (mode : MessageProtocolMode) (body : Bytes) (out : MessageEnvelope) :
    Except StdException (ErrorCode × MessageEnvelope) :=
  match mode with
  | .legacyPipe => .ok (MessageCodec.decode body out)
  | .compact => .ok (MessageCodec.decode body out)
  | .protobufReserved => decodeFramed kWireProtoV2Prefix body out
  | .cborReserved => decodeFramed kWireCborV2Prefix body out

/-- `DecodeByProtocol`: the code returned and the new content of `*out`; `.error` is an exception that reaches the
`noexcept` boundary and ends the process. -/
def decodeByProtocol (mode : MessageProtocolMode) (s : Bytes) (out : MessageEnvelope) :
    Except StdException (ErrorCode × MessageEnvelope) :=
  if s = [] then .ok (.invalidParam, out)
  else
    match splitEnvelopeHeader s with
    | none => .ok (.invalidParam, out)
    | some (declaredMode, body) =>
      -- the declared mode first, the receiver's mode only after a refusal
      match decodeOnce declaredMode body out with
      | .error x => .error x
      | .ok (code, out') =>
        if code = .ok then .ok (code, out')
        else if mode ≠ declaredMode then decodeOnce mode body out'
        else .ok (code, out')

/-! ### Headers and frames -/

theorem parseProtocolTag_protocolTag (mode : MessageProtocolMode) : parseProtocolTag (protocolTag mode) = mode := by
  cases mode <;> decide

theorem sep_not_mem_protocolTag (mode : MessageProtocolMode) : kProtocolSep ∉ protocolTag mode := by
  cases mode <;> decide

theorem sep_not_mem_decimal (n : Nat) : kProtocolSep ∉ decimal n :=
  not_mem_decimal (by decide)

private theorem sep_not_mem_version (n : Nat) : kProtocolSep ∉ kVersionPrefix ++ decimal n := by
  rw [List.mem_append, not_or]
  exact ⟨by decide, sep_not_mem_decimal n⟩

/-- A header that declares a mode: what follows it is searched for a version token. -/
theorem splitEnvelopeHeader_of_tag {tok : Bytes} (hne : tok ≠ []) (htok : kProtocolSep ∉ tok) (rest : Bytes) :
    splitEnvelopeHeader (kProtocolPrefix ++ (tok ++ kProtocolSep :: rest)) =
      match find rest kProtocolSep 0 with
      | none => some (parseProtocolTag tok, rest)
      | some n =>
        if startsWith (rest.take n) kVersionPrefix = false then none
        else some (parseProtocolTag tok, rest.drop (n + 1)) := by
  have hsplit : kProtocolPrefix ++ (tok ++ kProtocolSep :: rest) =
      (kProtocolPrefix ++ tok ++ [kProtocolSep]) ++ rest := by
    simp
  have hlen : (kProtocolPrefix ++ tok ++ [kProtocolSep]).length = 3 + tok.length + 1 := by
    simp only [List.length_append, List.length_singleton]
    rfl
  have hfirst : find (kProtocolPrefix ++ (tok ++ kProtocolSep :: rest)) kProtocolSep 0 = some (3 + tok.length) := by
    have hpre : kProtocolSep ∉ kProtocolPrefix ++ tok := by
      rw [List.mem_append, not_or]
      exact ⟨by decide, htok⟩
    have h := find_append hpre [] rest
    rw [List.nil_append, List.append_assoc, List.length_append, List.length_nil, Nat.zero_add] at h
    exact h
  have htag : substr (kProtocolPrefix ++ (tok ++ kProtocolSep :: rest)) 3 (3 + tok.length - 3) = tok := by
    rw [Nat.add_sub_cancel_left]
    exact substr_append kProtocolPrefix tok _
  have hpositive : ¬ 3 + tok.length ≤ 3 := by
    have hpos := List.length_pos_of_ne_nil hne
    omega
  have hsecond : find (kProtocolPrefix ++ (tok ++ kProtocolSep :: rest)) kProtocolSep (3 + tok.length + 1) =
      (find rest kProtocolSep 0).map (· + (3 + tok.length + 1)) := by
    rw [hsplit, ← hlen]
    exact find_append_length _ rest kProtocolSep
  have hdrop : ∀ n, (kProtocolPrefix ++ (tok ++ kProtocolSep :: rest)).drop (n + (3 + tok.length + 1)) =
      rest.drop n := by
    intro n
    rw [hsplit, ← hlen, Nat.add_comm, List.drop_length_add_append]
  have hbody : substrFrom (kProtocolPrefix ++ (tok ++ kProtocolSep :: rest)) (3 + tok.length + 1) = rest := by
    have h := hdrop 0
    rwa [Nat.zero_add] at h
  unfold splitEnvelopeHeader
  rw [startsWith_append, hfirst]
  simp only [Bool.true_eq_false, ↓reduceIte, hpositive, htag, hsecond]
  cases find rest kProtocolSep 0 with
  | none => simp only [Option.map_none, hbody]
  | some n =>
    have htoken : substr (kProtocolPrefix ++ (tok ++ kProtocolSep :: rest)) (3 + tok.length + 1)
        (n + (3 + tok.length + 1) - (3 + tok.length) - 1) = rest.take n := by
      have hn : n + (3 + tok.length + 1) - (3 + tok.length) - 1 = n := by omega
      rw [hn, substr]
      exact congrArg (List.take n) hbody
    have hrest : substrFrom (kProtocolPrefix ++ (tok ++ kProtocolSep :: rest)) (n + (3 + tok.length + 1) + 1) =
        rest.drop (n + 1) := by
      rw [substrFrom, Nat.add_right_comm, hdrop]
    simp only [Option.map_some, htoken, hrest]

/-- The older header: without another separator all that follows is the body. -/
theorem splitEnvelopeHeader_of_not_mem {tok body : Bytes} (hne : tok ≠ []) (htok : kProtocolSep ∉ tok)
    (hbody : kProtocolSep ∉ body) :
    splitEnvelopeHeader (kProtocolPrefix ++ (tok ++ kProtocolSep :: body)) = some (parseProtocolTag tok, body) := by
  rw [splitEnvelopeHeader_of_tag hne htok, find_eq_none_iff.2 hbody]

/-- With another separator the text up to it is taken for the version token. -/
theorem splitEnvelopeHeader_of_version {tok ver : Bytes} (hne : tok ≠ []) (htok : kProtocolSep ∉ tok)
    (hver : kProtocolSep ∉ ver) (body : Bytes) :
    splitEnvelopeHeader (kProtocolPrefix ++ (tok ++ kProtocolSep :: (ver ++ kProtocolSep :: body))) =
      if startsWith ver kVersionPrefix = false then none else some (parseProtocolTag tok, body) := by
  have hfind : find (ver ++ kProtocolSep :: body) kProtocolSep 0 = some ver.length := by
    have h := find_append hver [] body
    rwa [List.nil_append, List.length_nil, Nat.zero_add] at h
  have hrest : (ver ++ kProtocolSep :: body).drop (ver.length + 1) = body := by
    rw [← List.singleton_append, ← List.append_assoc]
    exact List.drop_left' (by simp)
  rw [splitEnvelopeHeader_of_tag hne htok, hfind]
  simp only [List.take_left, hrest]

theorem protocolTag_ne_nil (mode : MessageProtocolMode) : protocolTag mode ≠ [] := by
  cases mode <;> decide

/-- The header of an encoded text is taken off whole. -/
theorem splitEnvelopeHeader_wrap (mode : MessageProtocolMode) (body : Bytes) :
    splitEnvelopeHeader (wrapEnvelopeHeader mode body) = some (mode, body) := by
  unfold wrapEnvelopeHeader
  rw [splitEnvelopeHeader_of_version (protocolTag_ne_nil mode) (sep_not_mem_protocolTag mode) (sep_not_mem_version _),
    startsWith_append, if_neg (by simp), parseProtocolTag_protocolTag]

private theorem splitEnvelopeHeader_of_not_startsWith {s : Bytes} (h : startsWith s kProtocolPrefix = false) :
    splitEnvelopeHeader s = some (.legacyPipe, s) := by
  unfold splitEnvelopeHeader
  rw [if_pos h]

/-- What `ParseWireFrame` does with a frame whose length token is a digit string. -/
theorem parseWireFrame_digits (pfx : Bytes) {ds : Bytes} (hne : ds ≠ []) (hds : ∀ c ∈ ds, isDigit c = true)
    (payload : Bytes) :
    parseWireFrame (pfx ++ (ds ++ kProtocolSep :: payload)) pfx =
      if 2 ^ 64 ≤ ofDecimal ds then .error .outOfRange
      else if payload.length ≠ ofDecimal ds then .ok none else .ok (some payload) := by
  have hsep : kProtocolSep ∉ ds := by
    intro hmem
    exact absurd (hds _ hmem) (by decide)
  have hall : ds.all isDigit = true := List.all_eq_true.2 hds
  have hlen : ∀ n, n = ds.length →
      substr (pfx ++ (ds ++ kProtocolSep :: payload)) pfx.length n = ds := by
    rintro n rfl
    exact substr_append _ _ _
  have hpay : substrFrom (pfx ++ (ds ++ kProtocolSep :: payload)) (pfx.length + ds.length + 1) = payload := by
    have h := substrFrom_append (pfx ++ ds ++ [kProtocolSep]) payload
    simp only [List.length_append, List.length_singleton] at h
    simpa using h
  unfold parseWireFrame
  rw [startsWith_append, find_append hsep]
  simp only [Bool.true_eq_false, ↓reduceIte]
  rw [hlen _ (by omega), if_neg (by simp [hne, hall]), stoul, stoull_of_digits hne hds]
  by_cases hbig : 2 ^ 64 ≤ ofDecimal ds
  · simp only [hbig, ↓reduceIte]
  · have htoNat : (UInt64.ofNat (ofDecimal ds)).toNat = ofDecimal ds := by
      rw [UInt64.toNat_ofNat']
      omega
    simp only [hbig, ↓reduceIte, hpay, htoNat]

/-- A frame gives its payload back. -/
private theorem parseWireFrame_buildWireFrame (pfx : Bytes) {payload : Bytes} (h : FitsSizeT payload) :
    parseWireFrame (buildWireFrame pfx payload) pfx = .ok (some payload) := by
  unfold FitsSizeT at h
  unfold buildWireFrame
  rw [parseWireFrame_digits pfx (decimal_ne_nil _) (fun c hc => isDigit_of_mem_decimal hc), ofDecimal_decimal,
    if_neg (by omega), if_neg (by simp)]

/-! ### The round trip -/

/-- What of an envelope travels in a format. -/
def carried (mode : MessageProtocolMode) (envelope : MessageEnvelope) : MessageEnvelope :=
  match mode with
  | .legacyPipe => { envelope with idempotencyKey := [] }
  | _ => { envelope with source := [], target := [], traceId := [], idempotencyKey := [] }

/-- A text that starts with a number does not start with a letter. -/
private theorem startsWith_decimal {c : UInt8} (hc : isDigit c = false) (pfx : Bytes) (n : Nat) (rest : Bytes) :
    startsWith (decimal n ++ rest) (c :: pfx) = false := by
  obtain ⟨d, ds, hds⟩ := List.exists_cons_of_ne_nil (decimal_ne_nil n)
  have hd : isDigit d = true := isDigit_of_mem_decimal (n := n) (by rw [hds]; exact List.mem_cons_self ..)
  have hne : d ≠ c := by
    rintro rfl
    rw [hc] at hd
    cases hd
  rw [hds]
  simp [startsWith, List.isPrefixOf, Ne.symm hne]

theorem startsWith_encode {c : UInt8} (hc : isDigit c = false) (pfx : Bytes) (e : MessageEnvelope) :
    startsWith (MessageCodec.encode e).2 (c :: pfx) = false := by
  unfold MessageCodec.encode MessageCodec.fullFields
  rw [Delimited.join_cons_cons]
  exact startsWith_decimal hc _ _ _

theorem startsWith_encodeCompact {c : UInt8} (hc : isDigit c = false) (pfx : Bytes) (e : MessageEnvelope) :
    startsWith (MessageCodec.encodeCompact e).2 (c :: pfx) = false := by
  unfold MessageCodec.encodeCompact MessageCodec.compactFields
  rw [Delimited.join_cons_cons]
  exact startsWith_decimal hc _ _ _

private theorem decodeByProtocol_of_split {s body : Bytes} {declaredMode : MessageProtocolMode}
    {out d : MessageEnvelope} (hne : s ≠ []) (hsplit : splitEnvelopeHeader s = some (declaredMode, body))
    (hdecode : decodeOnce declaredMode body out = .ok (.ok, d)) (mode : MessageProtocolMode) :
    decodeByProtocol mode s out = .ok (.ok, d) := by
  unfold decodeByProtocol
  rw [if_neg hne, hsplit]
  simp only [hdecode, ↓reduceIte]

private theorem decodeByProtocol_of_not_startsWith {s : Bytes} {out d : MessageEnvelope} (hne : s ≠ [])
    (hpre : startsWith s kProtocolPrefix = false) (hdecode : MessageCodec.decode s out = (.ok, d))
    (mode : MessageProtocolMode) : decodeByProtocol mode s out = .ok (.ok, d) :=
  decodeByProtocol_of_split hne (splitEnvelopeHeader_of_not_startsWith hpre) (congrArg Except.ok hdecode) mode

/-- Every mode encodes, and the text is its body behind its header. -/
theorem encodeByProtocol_eq (mode : MessageProtocolMode) (e : MessageEnvelope) :
    encodeByProtocol mode e = (.ok, wrapEnvelopeHeader mode (encodeBody mode e).2) := by
  cases mode <;> rfl

theorem wrapEnvelopeHeader_ne_nil (mode : MessageProtocolMode) (body : Bytes) :
    wrapEnvelopeHeader mode body ≠ [] := by
  simp [wrapEnvelopeHeader]

/-- A frame decodes to what the compact format carries, unless its length does not fit `size_t`. -/
private theorem decodeFramed_encodeFramed (pfx : Bytes) {e : MessageEnvelope} (h : 1 ≤ e.schemaVersion)
    (out : MessageEnvelope) :
    decodeFramed pfx (encodeFramed pfx e).2 out =
        .ok (.ok, { e with source := [], target := [], traceId := [], idempotencyKey := [] }) ∨
      (¬ FitsSizeT (encodeFramed pfx e).2 ∧ decodeFramed pfx (encodeFramed pfx e).2 out = .error .outOfRange) := by
  have heq : (encodeFramed pfx e).2 = buildWireFrame pfx (MessageCodec.encodeCompact e).2 := rfl
  rw [heq]
  unfold decodeFramed
  by_cases hc : FitsSizeT (MessageCodec.encodeCompact e).2
  · left
    rw [parseWireFrame_buildWireFrame pfx hc]
    exact congrArg Except.ok (MessageCodec.decode_encodeCompact h out)
  · right
    unfold FitsSizeT at hc ⊢
    have hoverflow : parseWireFrame (buildWireFrame pfx (MessageCodec.encodeCompact e).2) pfx =
        .error .outOfRange := by
      unfold buildWireFrame
      rw [parseWireFrame_digits pfx (decimal_ne_nil _) (fun c hc => isDigit_of_mem_decimal hc), ofDecimal_decimal,
        if_pos (by omega)]
    rw [hoverflow]
    refine ⟨?_, rfl⟩
    simp only [buildWireFrame, List.length_append, List.length_cons]
    omega

/-- A body decodes in its own mode, unless it is a frame whose length does not fit `size_t`. -/
private theorem decodeOnce_encodeBody (mode : MessageProtocolMode) {e : MessageEnvelope}
    (h : 1 ≤ e.schemaVersion) (out : MessageEnvelope) :
    decodeOnce mode (encodeBody mode e).2 out = .ok (.ok, carried mode e) ∨
      (mode ≠ .legacyPipe ∧ ¬ FitsSizeT (encodeBody mode e).2 ∧
        decodeOnce mode (encodeBody mode e).2 out = .error .outOfRange) := by
  cases mode with
  | legacyPipe => exact .inl (congrArg Except.ok (MessageCodec.decode_encode h out))
  | compact => exact .inl (congrArg Except.ok (MessageCodec.decode_encodeCompact h out))
  | protobufReserved =>
    exact (decodeFramed_encodeFramed kWireProtoV2Prefix h out).imp_right fun hbad => ⟨by decide, hbad⟩
  | cborReserved =>
    exact (decodeFramed_encodeFramed kWireCborV2Prefix h out).imp_right fun hbad => ⟨by decide, hbad⟩

/-- What is encoded in any mode decodes, for a receiver of any mode, to what that format carries; only a frame whose
length does not fit `size_t` ends the receiver. -/
theorem decodeByProtocol_encodeByProtocol_or (m r : MessageProtocolMode) {e : MessageEnvelope}
    (h : 1 ≤ e.schemaVersion) (out : MessageEnvelope) :
    decodeByProtocol r (encodeByProtocol m e).2 out = .ok (.ok, carried m e) ∨
      (m ≠ .legacyPipe ∧ ¬ FitsSizeT (encodeByProtocol m e).2 ∧
        decodeByProtocol r (encodeByProtocol m e).2 out = .error .outOfRange) := by
  rw [encodeByProtocol_eq]
  rcases decodeOnce_encodeBody m h out with hdecode | ⟨hm, hbig, hdecode⟩
  · exact .inl (decodeByProtocol_of_split (wrapEnvelopeHeader_ne_nil m _) (splitEnvelopeHeader_wrap m _) hdecode r)
  · refine .inr ⟨hm, ?_, ?_⟩
    · unfold FitsSizeT at hbig ⊢
      simp only [wrapEnvelopeHeader, List.length_append, List.length_cons]
      omega
    · unfold decodeByProtocol
      rw [if_neg (wrapEnvelopeHeader_ne_nil m _), splitEnvelopeHeader_wrap]
      simp only [hdecode]

/-- What is encoded in any mode decodes, for a receiver of any mode, to what that format carries. -/
private theorem decodeByProtocol_encodeByProtocol (m r : MessageProtocolMode) {e : MessageEnvelope}
    (h : 1 ≤ e.schemaVersion) (hfits : FitsSizeT (encodeByProtocol m e).2) (out : MessageEnvelope) :
    decodeByProtocol r (encodeByProtocol m e).2 out = .ok (.ok, carried m e) :=
  (decodeByProtocol_encodeByProtocol_or m r h out).resolve_right fun hbad => hbad.2.1 hfits

/-- **The adapter round trip**, for every pair of modes, and for the two header-less texts of the field codec. -/
theorem protocol_round_trip (m r : MessageProtocolMode) (e out : MessageEnvelope) (h : 1 ≤ e.schemaVersion)
    (hfits : FitsSizeT (encodeByProtocol m e).2) :
    ((encodeByProtocol m e).1 = .ok ∧
        decodeByProtocol r (encodeByProtocol m e).2 out = .ok (.ok, carried m e)) ∧
      decodeByProtocol r (MessageCodec.encode e).2 out = .ok (.ok, carried .legacyPipe e) ∧
      decodeByProtocol r (MessageCodec.encodeCompact e).2 out = .ok (.ok, carried .compact e) := by
  refine ⟨⟨?_, decodeByProtocol_encodeByProtocol m r h hfits out⟩, ?_, ?_⟩
  · rw [encodeByProtocol_eq]
  · exact decodeByProtocol_of_not_startsWith (MessageCodec.encode_ne_nil e) (startsWith_encode (by decide) _ e)
      (MessageCodec.decode_encode h out) r
  · exact decodeByProtocol_of_not_startsWith (MessageCodec.encodeCompact_ne_nil e)
      (startsWith_encodeCompact (by decide) _ e) (MessageCodec.decode_encodeCompact h out) r

theorem protocol_round_trip_stepCommand :
    decodeByProtocol .legacyPipe (encodeByProtocol .cborReserved MessageCodec.stepCommand).2 {} =
      .ok (.ok, carried .cborReserved MessageCodec.stepCommand) :=
  (protocol_round_trip .cborReserved .legacyPipe MessageCodec.stepCommand {} (by decide)
    (by unfold FitsSizeT; decide)).1.2

/-! ### Formats -/

/-- The prefix of the length frames of a mode. -/
def framePrefix : MessageProtocolMode → Option Bytes
  | .protobufReserved => some kWireProtoV2Prefix
  | .cborReserved => some kWireCborV2Prefix
  | _ => none

theorem framePrefix_cases {mode : MessageProtocolMode} {pfx : Bytes} (hm : framePrefix mode = some pfx) :
    (mode = .protobufReserved ∧ pfx = kWireProtoV2Prefix) ∨ (mode = .cborReserved ∧ pfx = kWireCborV2Prefix) := by
  cases mode with
  | legacyPipe => cases hm
  | compact => cases hm
  | protobufReserved => exact .inl ⟨rfl, (Option.some.inj hm).symm⟩
  | cborReserved => exact .inr ⟨rfl, (Option.some.inj hm).symm⟩

theorem decodeOnce_eq (mode : MessageProtocolMode) (body : Bytes) (out : MessageEnvelope) :
    decodeOnce mode body out =
      match framePrefix mode with
      | none => .ok (MessageCodec.decode body out)
      | some pfx => decodeFramed pfx body out := by
  cases mode <;> rfl

theorem decodeFramed_of_not_startsWith {pfx body : Bytes} (h : startsWith body pfx = false) (out : MessageEnvelope) :
    decodeFramed pfx body out = .ok (.invalidParam, out) := by
  simp only [decodeFramed, parseWireFrame, h, ↓reduceIte]

/-- A frame is no text. -/
theorem decode_of_framePrefix {mode : MessageProtocolMode} {pfx : Bytes} (hm : framePrefix mode = some pfx)
    (rest : Bytes) (out : MessageEnvelope) : MessageCodec.decode (pfx ++ rest) out = (.invalidParam, out) := by
  have hproto : kWireProtoV2Prefix = 80 :: text "BV2;" := by decide
  have hcbor : kWireCborV2Prefix = 67 :: text "BV2;" := by decide
  rcases framePrefix_cases hm with ⟨-, rfl⟩ | ⟨-, rfl⟩
  · rw [hproto]
    exact MessageCodec.decode_of_head (by decide) (by decide) (by decide) (by decide) (by decide) _ _
  · rw [hcbor]
    exact MessageCodec.decode_of_head (by decide) (by decide) (by decide) (by decide) (by decide) _ _

private theorem startsWith_of_other_framePrefix {mode mode' : MessageProtocolMode} {pfx pfx' : Bytes}
    (hm : framePrefix mode = some pfx) (hm' : framePrefix mode' = some pfx') (hne : pfx ≠ pfx') (rest : Bytes) :
    startsWith (pfx' ++ rest) pfx = false := by
  rcases framePrefix_cases hm with ⟨-, rfl⟩ | ⟨-, rfl⟩ <;> rcases framePrefix_cases hm' with ⟨-, rfl⟩ | ⟨-, rfl⟩
  · exact absurd rfl hne
  · rfl
  · rfl
  · exact absurd rfl hne

/-- What starts like a frame of one mode is refused in the modes with another format, and `*out` is left alone. -/
theorem decodeOnce_of_other_frame {mode mode' : MessageProtocolMode} {pfx' : Bytes}
    (hm' : framePrefix mode' = some pfx') (hne : framePrefix mode ≠ framePrefix mode') (rest : Bytes)
    (out : MessageEnvelope) : decodeOnce mode (pfx' ++ rest) out = .ok (.invalidParam, out) := by
  rw [decodeOnce_eq]
  cases hm : framePrefix mode with
  | none => exact congrArg Except.ok (decode_of_framePrefix hm' rest out)
  | some pfx =>
    have hpfx : pfx ≠ pfx' := fun heq => hne (by rw [hm, hm', heq])
    exact decodeFramed_of_not_startsWith (startsWith_of_other_framePrefix hm hm' hpfx rest) out

/-! ### Exceptions -/

/-- The body starts with the prefix of a length frame, and the digit string after it denotes a number that
`unsigned long` cannot hold. -/
def FrameLengthOverflows (pfx body : Bytes) : Prop :=
  ∃ ds payload, body = pfx ++ (ds ++ kProtocolSep :: payload) ∧ ds ≠ [] ∧ (∀ c ∈ ds, isDigit c = true) ∧
    2 ^ 64 ≤ ofDecimal ds

/-- Decoding the body in this mode reads a length that overflows. -/
def LengthOverflows (mode : MessageProtocolMode) (body : Bytes) : Prop :=
  match mode with
  | .legacyPipe | .compact => False
  | .protobufReserved => FrameLengthOverflows kWireProtoV2Prefix body
  | .cborReserved => FrameLengthOverflows kWireCborV2Prefix body

private theorem parseWireFrame_of_overflows {pfx body : Bytes} (h : FrameLengthOverflows pfx body) :
    parseWireFrame body pfx = .error .outOfRange := by
  obtain ⟨ds, payload, rfl, hne, hds, hbig⟩ := h
  rw [parseWireFrame_digits pfx hne hds, if_pos hbig]

/-- A body in which no digit string and separator follow the prefix is no frame. -/
theorem parseWireFrame_of_no_digits {pfx body : Bytes}
    (h : ∀ ds payload, body = pfx ++ (ds ++ kProtocolSep :: payload) → ds ≠ [] → ¬ ∀ c ∈ ds, isDigit c = true) :
    parseWireFrame body pfx = .ok none := by
  unfold parseWireFrame
  by_cases hpre : startsWith body pfx = false
  · rw [if_pos hpre]
  rw [if_neg hpre]
  obtain ⟨rest, rfl⟩ := startsWith_iff.1 (by simpa using hpre)
  cases hfind : find (pfx ++ rest) kProtocolSep pfx.length with
  | none => rfl
  | some lenSep =>
    obtain ⟨ds, payload, hdrop, hsep, rfl⟩ := find_eq_some hfind
    rw [List.drop_left] at hdrop
    subst hdrop
    have htoken : ds = [] ∨ ds.all isDigit = false := by
      by_cases hne : ds = []
      · exact .inl hne
      · have hds := h ds payload rfl hne
        rw [← List.all_eq_true, Bool.not_eq_true] at hds
        exact .inr hds
    have hlen : substr (pfx ++ (ds ++ kProtocolSep :: payload)) pfx.length (pfx.length + ds.length - pfx.length) =
        ds := by
      rw [Nat.add_sub_cancel_left]
      exact substr_append _ _ _
    simp only [hlen]
    rw [if_pos htoken]

private theorem parseWireFrame_of_not_overflows {pfx body : Bytes} (h : ¬ FrameLengthOverflows pfx body) :
    ∃ r, parseWireFrame body pfx = .ok r := by
  by_cases hframe : ∃ ds payload, body = pfx ++ (ds ++ kProtocolSep :: payload) ∧ ds ≠ [] ∧ ∀ c ∈ ds, isDigit c = true
  · obtain ⟨ds, payload, rfl, hne, hds⟩ := hframe
    rw [parseWireFrame_digits pfx hne hds, if_neg fun hbig => h ⟨ds, payload, rfl, hne, hds, hbig⟩]
    split
    · exact ⟨_, rfl⟩
    · exact ⟨_, rfl⟩
  · exact ⟨none, parseWireFrame_of_no_digits fun ds payload heq hne hds => hframe ⟨ds, payload, heq, hne, hds⟩⟩

private theorem decodeFramed_of_overflows {pfx body : Bytes} (h : FrameLengthOverflows pfx body)
    (out : MessageEnvelope) : decodeFramed pfx body out = .error .outOfRange := by
  simp only [decodeFramed, parseWireFrame_of_overflows h]

private theorem decodeFramed_of_not_overflows {pfx body : Bytes} (h : ¬ FrameLengthOverflows pfx body)
    (out : MessageEnvelope) : ∃ r, decodeFramed pfx body out = .ok r := by
  obtain ⟨r, hr⟩ := parseWireFrame_of_not_overflows h
  unfold decodeFramed
  rw [hr]
  cases r <;> exact ⟨_, rfl⟩

private theorem lengthOverflows_iff {mode : MessageProtocolMode} {body : Bytes} :
    LengthOverflows mode body ↔ ∃ pfx, framePrefix mode = some pfx ∧ FrameLengthOverflows pfx body := by
  cases mode <;> simp [LengthOverflows, framePrefix]

private theorem decodeOnce_of_overflows {mode : MessageProtocolMode} {body : Bytes} (h : LengthOverflows mode body)
    (out : MessageEnvelope) : decodeOnce mode body out = .error .outOfRange := by
  obtain ⟨pfx, hm, hover⟩ := lengthOverflows_iff.1 h
  rw [decodeOnce_eq, hm]
  exact decodeFramed_of_overflows hover out

private theorem decodeOnce_of_not_overflows {mode : MessageProtocolMode} {body : Bytes}
    (h : ¬ LengthOverflows mode body) (out : MessageEnvelope) : ∃ r, decodeOnce mode body out = .ok r := by
  rw [decodeOnce_eq]
  cases hm : framePrefix mode with
  | none => exact ⟨_, rfl⟩
  | some pfx => exact decodeFramed_of_not_overflows (fun hover => h (lengthOverflows_iff.2 ⟨pfx, hm, hover⟩)) out

/-- A body that overflows in one mode is refused without an exception in the modes where it does not. -/
private theorem decodeOnce_refuses {first second : MessageProtocolMode} {body : Bytes}
    (h1 : ¬ LengthOverflows first body) (h2 : LengthOverflows second body) (out : MessageEnvelope) :
    decodeOnce first body out = .ok (.invalidParam, out) := by
  obtain ⟨pfx, hm, hover⟩ := lengthOverflows_iff.1 h2
  have hne : framePrefix first ≠ framePrefix second := fun heq =>
    h1 (lengthOverflows_iff.2 ⟨pfx, heq.trans hm, hover⟩)
  obtain ⟨ds, payload, rfl, -⟩ := hover
  exact decodeOnce_of_other_frame hm hne _ out

/-- A text with a readable header is decoded in the declared mode first, and where this is refused in the mode of
the receiver. -/
theorem decodeByProtocol_of_header {s body : Bytes} {declaredMode : MessageProtocolMode} (hne : s ≠ [])
    (hsplit : splitEnvelopeHeader s = some (declaredMode, body)) (mode : MessageProtocolMode)
    (out : MessageEnvelope) :
    decodeByProtocol mode s out =
      match decodeOnce declaredMode body out with
      | .error x => .error x
      | .ok (code, out') =>
        if code = .ok then .ok (code, out')
        else if mode ≠ declaredMode then decodeOnce mode body out'
        else .ok (code, out') := by
  unfold decodeByProtocol
  rw [if_neg hne, hsplit]

private theorem decodeByProtocol_returns_of_header {s body : Bytes} {declaredMode : MessageProtocolMode}
    (hne : s ≠ []) (hsplit : splitEnvelopeHeader s = some (declaredMode, body)) (mode : MessageProtocolMode)
    (out : MessageEnvelope) :
    (∃ code out', decodeByProtocol mode s out = .ok (code, out')) ↔
      ¬ LengthOverflows declaredMode body ∧ ¬ LengthOverflows mode body := by
  rw [decodeByProtocol_of_header hne hsplit]
  by_cases h1 : LengthOverflows declaredMode body
  · rw [decodeOnce_of_overflows h1]
    simp [h1]
  by_cases h2 : LengthOverflows mode body
  · -- the declared mode does not read the length, so the receiver's mode gets to it
    have hmode : mode ≠ declaredMode := fun he => h1 (he ▸ h2)
    rw [decodeOnce_refuses h1 h2]
    simp only [reduceCtorEq, ↓reduceIte, ne_eq, hmode, not_false_eq_true, decodeOnce_of_overflows h2]
    simp [h2]
  · refine ⟨fun _ => ⟨h1, h2⟩, fun _ => ?_⟩
    obtain ⟨⟨code, out'⟩, hr⟩ := decodeOnce_of_not_overflows h1 out
    obtain ⟨⟨code', out''⟩, hr'⟩ := decodeOnce_of_not_overflows h2 out'
    rw [hr]
    dsimp only
    split
    · exact ⟨_, _, rfl⟩
    · split
      · exact ⟨_, _, hr'⟩
      · exact ⟨_, _, rfl⟩

private theorem not_lengthOverflows_nil (mode : MessageProtocolMode) : ¬ LengthOverflows mode [] := by
  cases mode <;> simp [LengthOverflows, FrameLengthOverflows, kWireProtoV2Prefix, kWireCborV2Prefix, text]

/-- **When decoding returns**: for every receiver mode and every text, the decoder returns an error code exactly
when the body carries no overflowing frame length of the declared mode or of the receiver's mode. -/
theorem decodeByProtocol_returns_iff (mode : MessageProtocolMode) (s : Bytes) (out : MessageEnvelope) :
    (∃ code out', decodeByProtocol mode s out = .ok (code, out')) ↔
      ¬ ∃ declaredMode body, splitEnvelopeHeader s = some (declaredMode, body) ∧
        (LengthOverflows declaredMode body ∨ LengthOverflows mode body) := by
  by_cases hs : s = []
  · subst hs
    refine iff_of_true ⟨.invalidParam, out, rfl⟩ ?_
    rintro ⟨declaredMode, body, hsplit, hover⟩
    have hnil : splitEnvelopeHeader [] = some (.legacyPipe, []) := rfl
    rw [hnil, Option.some.injEq, Prod.mk.injEq] at hsplit
    obtain ⟨rfl, rfl⟩ := hsplit
    exact hover.elim (not_lengthOverflows_nil _) (not_lengthOverflows_nil _)
  cases hsplit : splitEnvelopeHeader s with
  | none =>
    refine iff_of_true ⟨.invalidParam, out, ?_⟩ (by simp)
    unfold decodeByProtocol
    rw [if_neg hs, hsplit]
  | some header =>
    obtain ⟨declaredMode, body⟩ := header
    rw [decodeByProtocol_returns_of_header hs hsplit, ← not_or, not_iff_not]
    constructor
    · exact fun hover => ⟨declaredMode, body, rfl, hover⟩
    · rintro ⟨d, b, hheader, hover⟩
      rw [Option.some.injEq, Prod.mk.injEq] at hheader
      obtain ⟨rfl, rfl⟩ := hheader
      exact hover

/-- A frame length of `2^64` ends the process. -/
theorem decodeByProtocol_terminates : ¬ ∀ (mode : MessageProtocolMode) (s : Bytes) (out : MessageEnvelope),
    ∃ code out', decodeByProtocol mode s out = .ok (code, out') := by
  intro h
  obtain ⟨code, out', hr⟩ := h .legacyPipe (text "pm=protobuf;pv=2;PBV2;18446744073709551616;") {}
  have hthrow : decodeByProtocol .legacyPipe (text "pm=protobuf;pv=2;PBV2;18446744073709551616;") {} =
      .error .outOfRange := rfl
  rw [hthrow] at hr
  cases hr

end VehicleBridge
