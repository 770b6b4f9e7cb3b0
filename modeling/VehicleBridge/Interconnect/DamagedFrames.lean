import VehicleBridge.Interconnect.MessageProtocolAdapter
import Mathlib.Data.List.Infix

/-!
# Damaged frames

What the decoder does with a damaged `protobuf` or `cbor` text.  Cut off inside the header, the text has no body that
any mode reads; cut off, extended or given another length behind the header, its body is no frame of the declared mode
(`parseWireFrame_refuses`), starts like no frame of the other mode and like no field of the field codec, so that the
fallback to the receiver's mode refuses it as well (`damaged_frames_refused`).
-/

namespace VehicleBridge

open ByteText

/-- An encoded text with the given length token in its frame. -/
def frameText (mode : MessageProtocolMode) (pfx token payload : Bytes) : Bytes :=
  wrapEnvelopeHeader mode (pfx ++ (token ++ kProtocolSep :: payload))

/-- The token is a digit string that denotes the length of the payload. -/
def DenotesLength (token payload : Bytes) : Prop :=
  token ≠ [] ∧ (∀ c ∈ token, isDigit c = true) ∧ ofDecimal token = payload.length

/-- Every mode refuses the body and leaves `*out` alone. -/
def BodyRefused (body : Bytes) : Prop :=
  ∀ mode out, decodeOnce mode body out = .ok (.invalidParam, out)

private theorem decodeByProtocol_of_bodyRefused {s : Bytes} (h : ∀ header ∈ splitEnvelopeHeader s, BodyRefused header.2)
    (r : MessageProtocolMode) (out : MessageEnvelope) : decodeByProtocol r s out = .ok (.invalidParam, out) := by
  unfold decodeByProtocol
  split
  · rfl
  cases hsplit : splitEnvelopeHeader s with
  | none => rfl
  | some header =>
    have hrefused := h header hsplit
    simp only [hrefused header.1 out, hrefused r out]
    split
    · rfl
    split
    · rfl
    · rfl

/-! ### Bodies -/

/-- The bytes that a damaged body can start with: those of the two frame prefixes and of `pv=`. -/
def frameHeads : List (Option UInt8) := [none, some 80, some 67, some 112]

private theorem decode_of_frameHead {body : Bytes} (h : body.head? ∈ frameHeads) (out : MessageEnvelope) :
    MessageCodec.decode body out = (.invalidParam, out) := by
  cases body with
  | nil => rfl
  | cons c rest =>
    simp only [frameHeads, List.head?_cons, List.mem_cons, reduceCtorEq, Option.some.injEq, List.not_mem_nil,
      or_false, false_or] at h
    rcases h with rfl | rfl | rfl <;>
      exact MessageCodec.decode_of_head (by decide) (by decide) (by decide) (by decide) (by decide) _ _

private theorem parseWireFrame_of_head {pfx body : Bytes} (hne : pfx ≠ []) (h : body.head? ≠ pfx.head?) :
    parseWireFrame body pfx = .ok none := by
  refine parseWireFrame_of_no_digits fun ds payload heq => absurd ?_ h
  obtain ⟨c, rest, rfl⟩ := List.exists_cons_of_ne_nil hne
  rw [heq]
  rfl

private theorem bodyRefused_of_no_frames {body : Bytes} (hhead : body.head? ∈ frameHeads)
    (hproto : parseWireFrame body kWireProtoV2Prefix = .ok none)
    (hcbor : parseWireFrame body kWireCborV2Prefix = .ok none) : BodyRefused body := by
  intro mode out
  cases mode with
  | legacyPipe => exact congrArg Except.ok (decode_of_frameHead hhead out)
  | compact => exact congrArg Except.ok (decode_of_frameHead hhead out)
  | protobufReserved => simp only [decodeOnce, decodeFramed, hproto]
  | cborReserved => simp only [decodeOnce, decodeFramed, hcbor]

/-- What starts like a frame of one mode and is none is refused by every mode. -/
private theorem bodyRefused_of_not_frame {mode : MessageProtocolMode} {pfx body : Bytes}
    (hm : framePrefix mode = some pfx)
    (hhead : body.head? = none ∨ body.head? = pfx.head?) (hparse : parseWireFrame body pfx = .ok none) :
    BodyRefused body := by
  rcases framePrefix_cases hm with ⟨-, rfl⟩ | ⟨-, rfl⟩
  · have hother : body.head? ≠ kWireCborV2Prefix.head? := by
      rcases hhead with h | h <;> rw [h] <;> decide
    refine bodyRefused_of_no_frames ?_ hparse (parseWireFrame_of_head (by decide) hother)
    rcases hhead with h | h <;> rw [h] <;> decide
  · have hother : body.head? ≠ kWireProtoV2Prefix.head? := by
      rcases hhead with h | h <;> rw [h] <;> decide
    refine bodyRefused_of_no_frames ?_ (parseWireFrame_of_head (by decide) hother) hparse
    rcases hhead with h | h <;> rw [h] <;> decide

/-- A frame is refused where no digit string in it denotes the length of what follows. -/
theorem parseWireFrame_refuses {pfx body : Bytes}
    (h : ∀ ds payload, body = pfx ++ (ds ++ kProtocolSep :: payload) → ds ≠ [] → (∀ c ∈ ds, isDigit c = true) →
      ofDecimal ds < 2 ^ 64 ∧ ofDecimal ds ≠ payload.length) : parseWireFrame body pfx = .ok none := by
  by_cases hframe : ∃ ds payload, body = pfx ++ (ds ++ kProtocolSep :: payload) ∧ ds ≠ [] ∧ ∀ c ∈ ds, isDigit c = true
  · obtain ⟨ds, payload, rfl, hne, hds⟩ := hframe
    obtain ⟨hfits, hlength⟩ := h ds payload rfl hne hds
    rw [parseWireFrame_digits pfx hne hds, if_neg (by omega), if_pos (Ne.symm hlength)]
  · exact parseWireFrame_of_no_digits fun ds payload heq hne hds => hframe ⟨ds, payload, heq, hne, hds⟩

/-! ### Headers -/

private theorem wrapEnvelopeHeader_eq_append (mode : MessageProtocolMode) (body : Bytes) :
    wrapEnvelopeHeader mode body = wrapEnvelopeHeader mode [] ++ body := by
  simp [wrapEnvelopeHeader]

/-- A header that is cut off cannot be split, or leaves a part of the version token for a body. -/
private theorem splitEnvelopeHeader_of_cut (mode : MessageProtocolMode) :
    ∀ s ∈ (wrapEnvelopeHeader mode []).inits, s ≠ wrapEnvelopeHeader mode [] →
      ∀ header ∈ splitEnvelopeHeader s, header.2.head? = none ∨ header.2.head? = some 112 := by
  cases mode <;> decide

private theorem bodyRefused_of_version {body : Bytes} (h : body.head? = none ∨ body.head? = some 112) :
    BodyRefused body := by
  have hproto : body.head? ≠ kWireProtoV2Prefix.head? := by
    rcases h with h | h <;> rw [h] <;> decide
  have hcbor : body.head? ≠ kWireCborV2Prefix.head? := by
    rcases h with h | h <;> rw [h] <;> decide
  refine bodyRefused_of_no_frames ?_ (parseWireFrame_of_head (by decide) hproto)
    (parseWireFrame_of_head (by decide) hcbor)
  rcases h with h | h <;> rw [h] <;> decide

/-- A text cut off inside its header is refused. -/
private theorem decodeByProtocol_of_cut_header {mode : MessageProtocolMode} {s : Bytes}
    (hcut : s <+: wrapEnvelopeHeader mode []) (hne : s ≠ wrapEnvelopeHeader mode []) (r : MessageProtocolMode)
    (out : MessageEnvelope) : decodeByProtocol r s out = .ok (.invalidParam, out) :=
  decodeByProtocol_of_bodyRefused (fun header hheader => bodyRefused_of_version
    (splitEnvelopeHeader_of_cut mode s ((List.mem_inits _ _).2 hcut) hne header hheader)) r out

private theorem decodeByProtocol_wrap_of_bodyRefused {mode : MessageProtocolMode} {body : Bytes} (h : BodyRefused body)
    (r : MessageProtocolMode) (out : MessageEnvelope) :
    decodeByProtocol r (wrapEnvelopeHeader mode body) out = .ok (.invalidParam, out) := by
  refine decodeByProtocol_of_bodyRefused (fun header hheader => ?_) r out
  rw [splitEnvelopeHeader_wrap, Option.mem_some] at hheader
  rw [← hheader]
  exact h

/-! ### Frames -/

/-- The first separator behind the prefix ends the length token. -/
private theorem frame_inj {pfx token ds rest rest' : Bytes} (hsep : kProtocolSep ∉ token)
    (hds : ∀ c ∈ ds, isDigit c = true)
    (h : pfx ++ (token ++ kProtocolSep :: rest) = pfx ++ (ds ++ kProtocolSep :: rest')) :
    token = ds ∧ rest = rest' := by
  refine append_cons_inj hsep (fun hmem => ?_) (List.append_cancel_left h)
  exact absurd (hds _ hmem) (by decide)

/-- Another length token than a digit string for the length. -/
private theorem parseWireFrame_of_token {pfx token payload : Bytes} (hsep : kProtocolSep ∉ token)
    (hlength : ¬ DenotesLength token payload) (hrange : (∀ c ∈ token, isDigit c = true) → ofDecimal token < 2 ^ 64) :
    parseWireFrame (pfx ++ (token ++ kProtocolSep :: payload)) pfx = .ok none := by
  refine parseWireFrame_refuses fun ds payload' heq hne hds => ?_
  obtain ⟨rfl, rfl⟩ := frame_inj hsep hds heq
  exact ⟨hrange hds, fun hvalue => hlength ⟨hne, hds, hvalue⟩⟩

/-- Bytes after the payload. -/
private theorem parseWireFrame_of_extended {pfx payload extra : Bytes} (hfits : payload.length < 2 ^ 64)
    (hne : extra ≠ []) :
    parseWireFrame (pfx ++ (decimal payload.length ++ kProtocolSep :: payload) ++ extra) pfx = .ok none := by
  have heq : pfx ++ (decimal payload.length ++ kProtocolSep :: payload) ++ extra =
      pfx ++ (decimal payload.length ++ kProtocolSep :: (payload ++ extra)) := by
    simp only [List.append_assoc, List.cons_append]
  rw [heq]
  refine parseWireFrame_of_token (sep_not_mem_decimal _) ?_ fun _ => by rwa [ofDecimal_decimal]
  rintro ⟨-, -, hvalue⟩
  rw [ofDecimal_decimal, List.length_append] at hvalue
  have hpos := List.length_pos_of_ne_nil hne
  omega

/-- A frame that is cut off. -/
private theorem parseWireFrame_of_cut {pfx payload body : Bytes} (hfits : payload.length < 2 ^ 64)
    (hcut : body <+: pfx ++ (decimal payload.length ++ kProtocolSep :: payload))
    (hne : body ≠ pfx ++ (decimal payload.length ++ kProtocolSep :: payload)) :
    parseWireFrame body pfx = .ok none := by
  obtain ⟨rest, hrest⟩ := hcut
  refine parseWireFrame_refuses fun ds payload' heq hnil hds => ?_
  have hwhole : pfx ++ (decimal payload.length ++ kProtocolSep :: payload) =
      pfx ++ (ds ++ kProtocolSep :: (payload' ++ rest)) := by
    rw [← hrest, heq]
    simp only [List.append_assoc, List.cons_append]
  obtain ⟨rfl, hpayload⟩ := frame_inj (sep_not_mem_decimal _) hds hwhole
  rw [ofDecimal_decimal]
  refine ⟨hfits, fun hlength => hne ?_⟩
  -- what is left is as long as the payload, so nothing has been cut off
  have hrestnil : rest = [] := by
    rw [hpayload, List.length_append] at hlength
    exact List.eq_nil_of_length_eq_zero (by omega)
  rw [← hrest, hrestnil, List.append_nil]

private theorem head?_of_prefix {body s : Bytes} (h : body <+: s) : body.head? = none ∨ body.head? = s.head? := by
  obtain ⟨rest, rfl⟩ := h
  cases body with
  | nil => exact .inl rfl
  | cons c body => exact .inr rfl

private theorem head?_append_of_framePrefix {mode : MessageProtocolMode} {pfx : Bytes}
    (hm : framePrefix mode = some pfx) (rest : Bytes) : (pfx ++ rest).head? = pfx.head? := by
  rcases framePrefix_cases hm with ⟨-, rfl⟩ | ⟨-, rfl⟩ <;> rfl

private theorem encodeByProtocol_frameText {mode : MessageProtocolMode} {pfx : Bytes} (hm : framePrefix mode = some pfx)
    (e : MessageEnvelope) :
    (encodeByProtocol mode e).2 =
      frameText mode pfx (decimal (MessageCodec.encodeCompact e).2.length) (MessageCodec.encodeCompact e).2 := by
  rw [encodeByProtocol_eq]
  rcases framePrefix_cases hm with ⟨rfl, rfl⟩ | ⟨rfl, rfl⟩ <;> rfl

/-- A text that is cut off is cut off inside its header or behind it. -/
private theorem prefix_header_cases {mode : MessageProtocolMode} {t body : Bytes}
    (h : t <+: wrapEnvelopeHeader mode body) : (t <+: wrapEnvelopeHeader mode [] ∧ t ≠ wrapEnvelopeHeader mode []) ∨
      ∃ body', t = wrapEnvelopeHeader mode body' ∧ body' <+: body := by
  rw [wrapEnvelopeHeader_eq_append] at h
  by_cases hwhole : wrapEnvelopeHeader mode [] <+: t
  · obtain ⟨body', rfl⟩ := hwhole
    exact .inr ⟨body', (wrapEnvelopeHeader_eq_append mode body').symm, (List.prefix_append_right_inj _).1 h⟩
  · refine .inl ⟨?_, fun heq => hwhole (heq ▸ List.prefix_rfl)⟩
    exact (List.prefix_or_prefix_of_prefix h (List.prefix_append _ _)).resolve_right hwhole

/-- **Damaged frames are refused**, by receivers of every mode: cut off, extended, or with another length token. -/
theorem damaged_frames_refused {m : MessageProtocolMode} {pfx : Bytes} (hm : framePrefix m = some pfx)
    (r : MessageProtocolMode) (e out : MessageEnvelope) (hfits : FitsSizeT (encodeByProtocol m e).2) :
    (∀ t, t <+: (encodeByProtocol m e).2 → t ≠ (encodeByProtocol m e).2 →
        decodeByProtocol r t out = .ok (.invalidParam, out)) ∧
      (∀ extra, extra ≠ [] →
        decodeByProtocol r ((encodeByProtocol m e).2 ++ extra) out = .ok (.invalidParam, out)) ∧
      ((encodeByProtocol m e).2 =
        frameText m pfx (decimal (MessageCodec.encodeCompact e).2.length) (MessageCodec.encodeCompact e).2) ∧
      ∀ token, kProtocolSep ∉ token → ¬ DenotesLength token (MessageCodec.encodeCompact e).2 →
        ((∀ c ∈ token, isDigit c = true) → ofDecimal token < 2 ^ 64) →
          decodeByProtocol r (frameText m pfx token (MessageCodec.encodeCompact e).2) out =
            .ok (.invalidParam, out) := by
  have hencoded := encodeByProtocol_frameText hm e
  rw [hencoded] at hfits ⊢
  generalize (MessageCodec.encodeCompact e).2 = payload at hfits ⊢
  have hpayload : payload.length < 2 ^ 64 := by
    unfold FitsSizeT frameText at hfits
    rw [wrapEnvelopeHeader_eq_append] at hfits
    simp only [List.length_append, List.length_cons] at hfits
    omega
  refine ⟨fun t hcut hne => ?_, fun extra hne => ?_, rfl, fun token hsep hlength hrange => ?_⟩
  · rcases prefix_header_cases hcut with ⟨hheader, hcutHeader⟩ | ⟨body, rfl, hbody⟩
    · exact decodeByProtocol_of_cut_header hheader hcutHeader r out
    · refine decodeByProtocol_wrap_of_bodyRefused (bodyRefused_of_not_frame hm ?_
        (parseWireFrame_of_cut hpayload hbody fun heq => hne (congrArg (wrapEnvelopeHeader m) heq))) r out
      have hhead := head?_of_prefix hbody
      rwa [head?_append_of_framePrefix hm] at hhead
  · unfold frameText
    rw [wrapEnvelopeHeader_eq_append, List.append_assoc, ← wrapEnvelopeHeader_eq_append]
    refine decodeByProtocol_wrap_of_bodyRefused (bodyRefused_of_not_frame hm (.inr ?_)
      (parseWireFrame_of_extended hpayload hne)) r out
    rw [List.append_assoc, head?_append_of_framePrefix hm]
  · refine decodeByProtocol_wrap_of_bodyRefused (bodyRefused_of_not_frame hm (.inr ?_)
      (parseWireFrame_of_token hsep hlength hrange)) r out
    rw [head?_append_of_framePrefix hm]

theorem damaged_frames_refused_stepCommand :
    decodeByProtocol .compact ((encodeByProtocol .cborReserved MessageCodec.stepCommand).2 ++ text "|") {} =
      .ok (.invalidParam, {}) :=
  (damaged_frames_refused (m := .cborReserved) rfl .compact MessageCodec.stepCommand {}
    (by unfold FitsSizeT; decide)).2.1 (text "|") (by decide)

end VehicleBridge
