import VehicleBridge.Interconnect.MessageProtocolAdapter

/-!
# The two forms of the header

`SplitEnvelopeHeader` reads `pm=<mode>;pv=<version>;<body>` and the older `pm=<mode>;<body>`.  It takes a second
separator for the end of a version token, wherever it stands; so the older form is read as it is meant exactly where
the body has no separator (`header_forms_agree_iff`).  A length frame always has one, a text has one where a field of
it has.
-/

namespace VehicleBridge

open ByteText

/-- The older form: `pm=<mode>;<body>`. -/
def wrapOldHeader (mode : MessageProtocolMode) (payload : Bytes) : Bytes :=
  kProtocolPrefix ++ (protocolTag mode ++ kProtocolSep :: payload)

/-- The mode writes text, and no field it writes has a separator of headers. -/
def SepFree (mode : MessageProtocolMode) (e : MessageEnvelope) : Prop :=
  match mode with
  | .legacyPipe => ∀ field ∈ [e.source, e.target, e.topic, e.traceId, e.payload], kProtocolSep ∉ field
  | .compact => ∀ field ∈ [e.topic, e.payload], kProtocolSep ∉ field
  | .protobufReserved | .cborReserved => False

/-! ### Separators in a body -/

private theorem sep_mem_escapeField_iff (field : Bytes) : kProtocolSep ∈ escapeField field ↔ kProtocolSep ∈ field :=
  Delimited.mem_escape_iff (by decide)

private theorem sep_not_mem_channelToString (channel : ChannelType) : kProtocolSep ∉ channelToString channel := by
  cases channel <;> decide

private theorem sep_not_mem_qosToString (qos : DeliveryQoS) : kProtocolSep ∉ qosToString qos := by
  cases qos <;> decide

private theorem sep_mem_encode_iff (e : MessageEnvelope) :
    kProtocolSep ∈ (MessageCodec.encode e).2 ↔ ¬ SepFree .legacyPipe e := by
  unfold MessageCodec.encode MessageCodec.fullFields SepFree
  rw [Delimited.mem_join_iff (by decide)]
  simp only [List.mem_cons, List.not_mem_nil, or_false, exists_eq_or_imp, exists_eq_left, forall_eq_or_imp, forall_eq,
    sep_not_mem_decimal, sep_not_mem_channelToString, sep_not_mem_qosToString, sep_mem_escapeField_iff, false_or]
  tauto

private theorem sep_mem_encodeCompact_iff (e : MessageEnvelope) :
    kProtocolSep ∈ (MessageCodec.encodeCompact e).2 ↔ ¬ SepFree .compact e := by
  unfold MessageCodec.encodeCompact MessageCodec.compactFields SepFree
  rw [Delimited.mem_join_iff (by decide)]
  simp only [List.mem_cons, List.not_mem_nil, or_false, exists_eq_or_imp, exists_eq_left, forall_eq_or_imp, forall_eq,
    sep_not_mem_decimal, sep_not_mem_channelToString, sep_not_mem_qosToString, sep_mem_escapeField_iff, false_or]
  tauto

/-- A frame has the separator that ends its length. -/
private theorem sep_mem_buildWireFrame (pfx payload : Bytes) : kProtocolSep ∈ buildWireFrame pfx payload := by
  simp [buildWireFrame]

private theorem sep_mem_encodeBody_iff (mode : MessageProtocolMode) (e : MessageEnvelope) :
    kProtocolSep ∈ (encodeBody mode e).2 ↔ ¬ SepFree mode e := by
  cases mode with
  | legacyPipe => exact sep_mem_encode_iff e
  | compact => exact sep_mem_encodeCompact_iff e
  | protobufReserved => exact iff_of_true (sep_mem_buildWireFrame _ _) id
  | cborReserved => exact iff_of_true (sep_mem_buildWireFrame _ _) id

/-- No body looks like a version token. -/
private theorem startsWith_encodeBody (mode : MessageProtocolMode) (e : MessageEnvelope) :
    startsWith (encodeBody mode e).2 kVersionPrefix = false := by
  have hversion : kVersionPrefix = 112 :: text "v=" := by decide
  have hproto : kWireProtoV2Prefix = 80 :: text "BV2;" := by decide
  have hcbor : kWireCborV2Prefix = 67 :: text "BV2;" := by decide
  cases mode with
  | legacyPipe => exact startsWith_encode (by decide) _ e
  | compact => exact startsWith_encodeCompact (by decide) _ e
  | protobufReserved =>
    change startsWith (buildWireFrame kWireProtoV2Prefix _) kVersionPrefix = false
    rw [buildWireFrame, hproto, hversion]
    rfl
  | cborReserved =>
    change startsWith (buildWireFrame kWireCborV2Prefix _) kVersionPrefix = false
    rw [buildWireFrame, hcbor, hversion]
    rfl

/-! ### Reading the older form -/

/-- Without a separator in the body both forms are taken apart alike. -/
private theorem splitEnvelopeHeader_old {mode : MessageProtocolMode} {body : Bytes} (h : kProtocolSep ∉ body) :
    splitEnvelopeHeader (wrapOldHeader mode body) = splitEnvelopeHeader (wrapEnvelopeHeader mode body) := by
  rw [wrapOldHeader, splitEnvelopeHeader_of_not_mem (protocolTag_ne_nil mode) (sep_not_mem_protocolTag mode) h,
    splitEnvelopeHeader_wrap, parseProtocolTag_protocolTag]

/-- With one, what stands before it is taken for a version token, and is none. -/
private theorem splitEnvelopeHeader_old_of_mem {mode : MessageProtocolMode} {body : Bytes} (hmem : kProtocolSep ∈ body)
    (hversion : startsWith body kVersionPrefix = false) : splitEnvelopeHeader (wrapOldHeader mode body) = none := by
  rw [wrapOldHeader, splitEnvelopeHeader_of_tag (protocolTag_ne_nil mode) (sep_not_mem_protocolTag mode)]
  cases hfind : find body kProtocolSep 0 with
  | none => exact absurd hmem (find_eq_none_iff.1 hfind)
  | some n =>
    have htoken : startsWith (body.take n) kVersionPrefix = false := by
      rw [← Bool.not_eq_true] at hversion ⊢
      rintro hstarts
      obtain ⟨rest, hrest⟩ := startsWith_iff.1 hstarts
      refine hversion (startsWith_iff.2 ⟨rest ++ body.drop n, ?_⟩)
      rw [← List.append_assoc, ← hrest, List.take_append_drop]
    simp only [htoken, if_true]

private theorem wrapOldHeader_ne_nil (mode : MessageProtocolMode) (body : Bytes) : wrapOldHeader mode body ≠ [] := by
  simp [wrapOldHeader]

/-- Texts whose headers are taken apart alike decode alike. -/
private theorem decodeByProtocol_congr {s s' : Bytes} (hs : s ≠ []) (hs' : s' ≠ [])
    (h : splitEnvelopeHeader s = splitEnvelopeHeader s') (mode : MessageProtocolMode) (out : MessageEnvelope) :
    decodeByProtocol mode s out = decodeByProtocol mode s' out := by
  unfold decodeByProtocol
  rw [if_neg hs, if_neg hs', h]

private theorem decodeByProtocol_of_no_header {s : Bytes} (h : splitEnvelopeHeader s = none)
    (mode : MessageProtocolMode) (out : MessageEnvelope) : decodeByProtocol mode s out = .ok (.invalidParam, out) := by
  unfold decodeByProtocol
  rw [h]
  split <;> rfl

/-- The body of the mode decodes from behind both headers to the same result. -/
def HeaderFormsAgree (mode receiver : MessageProtocolMode) (e out : MessageEnvelope) : Prop :=
  decodeByProtocol receiver (wrapOldHeader mode (encodeBody mode e).2) out =
    decodeByProtocol receiver (wrapEnvelopeHeader mode (encodeBody mode e).2) out

/-- **The older form decodes like the newer one** exactly where the body is text without a separator of headers. -/
theorem header_forms_agree_iff (mode receiver : MessageProtocolMode) {e : MessageEnvelope} (h : 1 ≤ e.schemaVersion)
    (out : MessageEnvelope) : HeaderFormsAgree mode receiver e out ↔ SepFree mode e := by
  unfold HeaderFormsAgree
  constructor
  · intro hagree
    by_contra hsep
    have hrefused : splitEnvelopeHeader (wrapOldHeader mode (encodeBody mode e).2) = none :=
      splitEnvelopeHeader_old_of_mem ((sep_mem_encodeBody_iff mode e).2 hsep) (startsWith_encodeBody mode e)
    have hold := decodeByProtocol_of_no_header hrefused receiver out
    -- the newer form is decoded, or ends the receiver
    have hnew := decodeByProtocol_encodeByProtocol_or mode receiver h out
    rw [encodeByProtocol_eq, ← hagree, hold] at hnew
    rcases hnew with hdecoded | ⟨-, -, hended⟩
    · cases hdecoded
    · cases hended
  · intro hfree
    have hbody : kProtocolSep ∉ (encodeBody mode e).2 := fun hmem => (sep_mem_encodeBody_iff mode e).1 hmem hfree
    exact decodeByProtocol_congr (wrapOldHeader_ne_nil mode _) (wrapEnvelopeHeader_ne_nil mode _)
      (splitEnvelopeHeader_old hbody) receiver out

theorem header_forms_agree_iff_stepCommand : HeaderFormsAgree .compact .cborReserved MessageCodec.stepCommand {} :=
  (header_forms_agree_iff .compact .cborReserved (by decide) {}).2 (by unfold SepFree; decide)

/-- The older form is refused for the payload `a;b`. -/
theorem header_forms_disagree : ¬ ∀ (mode receiver : MessageProtocolMode) (e : MessageEnvelope),
    1 ≤ e.schemaVersion → ∀ out, HeaderFormsAgree mode receiver e out := by
  intro hall
  have hagree := hall .compact .compact { topic := text "t", payload := text "a;b" } (by decide) {}
  have hold : decodeByProtocol .compact (wrapOldHeader .compact
      (encodeBody .compact { topic := text "t", payload := text "a;b" }).2) {} = .ok (.invalidParam, {}) := rfl
  rw [HeaderFormsAgree, hold] at hagree
  exact absurd hagree (by decide)

end VehicleBridge
