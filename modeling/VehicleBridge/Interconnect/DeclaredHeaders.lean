import VehicleBridge.Interconnect.MessageProtocolAdapter

/-!
# What a declared header decides

A text `pm=<mode>;pv=<version>;<body>` names a mode and a version.  The mode is the one to be tried first, and a token
that names none stands for `kLegacyPipe`; the version is not compared with anything.  So what `DecodeByProtocol`
accepts depends on the body: it has to be a message in the mode declared, or else in the mode of the receiver
(`declared_text_accepted_iff`).
-/

namespace VehicleBridge

open ByteText

/-- A text with a mode token, a version token and a body. -/
def declaredText (modeToken versionToken body : Bytes) : Bytes :=
  kProtocolPrefix ++ (modeToken ++ kProtocolSep :: (versionToken ++ kProtocolSep :: body))

/-- A length frame with a text that decodes, as long as the frame says. -/
def FrameAccepted (pfx body : Bytes) (d : MessageEnvelope) : Prop :=
  ∃ ds payload, body = pfx ++ (ds ++ kProtocolSep :: payload) ∧ ds ≠ [] ∧ (∀ c ∈ ds, isDigit c = true) ∧
    ofDecimal ds = payload.length ∧ FitsSizeT payload ∧ MessageCodec.decode payload {} = (.ok, d)

/-- The body is a message in the format of the mode. -/
def Accepted (mode : MessageProtocolMode) (body : Bytes) (d : MessageEnvelope) : Prop :=
  match framePrefix mode with
  | none => MessageCodec.decode body {} = (.ok, d)
  | some pfx => FrameAccepted pfx body d

/-! ### One attempt -/

private theorem decodeFramed_ok_iff {pfx body : Bytes} {out d : MessageEnvelope} :
    decodeFramed pfx body out = .ok (.ok, d) ↔ FrameAccepted pfx body d := by
  constructor
  · intro h
    unfold decodeFramed at h
    by_cases hframe : ∃ ds payload, body = pfx ++ (ds ++ kProtocolSep :: payload) ∧ ds ≠ [] ∧ ∀ c ∈ ds, isDigit c = true
    · obtain ⟨ds, payload, rfl, hne, hds⟩ := hframe
      rw [parseWireFrame_digits pfx hne hds] at h
      by_cases hbig : 2 ^ 64 ≤ ofDecimal ds
      · rw [if_pos hbig] at h
        cases h
      · by_cases hlen : payload.length ≠ ofDecimal ds
        · rw [if_neg hbig, if_pos hlen] at h
          cases h
        · rw [if_neg hbig, if_neg hlen] at h
          have hsame : payload.length = ofDecimal ds := not_not.1 hlen
          refine ⟨ds, payload, rfl, hne, hds, hsame.symm, ?_, MessageCodec.decode_ok_iff.1 (Except.ok.inj h)⟩
          unfold FitsSizeT
          omega
    · rw [parseWireFrame_of_no_digits fun ds payload heq hne hds => hframe ⟨ds, payload, heq, hne, hds⟩] at h
      cases h
  · rintro ⟨ds, payload, rfl, hne, hds, hlen, hfits, hdecode⟩
    unfold FitsSizeT at hfits
    unfold decodeFramed
    rw [parseWireFrame_digits pfx hne hds, if_neg (by omega), if_neg (by simp [hlen])]
    exact congrArg Except.ok (MessageCodec.decode_ok_iff.2 hdecode)

/-- **One attempt** succeeds exactly on a message in the format of its mode. -/
theorem decodeOnce_ok_iff {mode : MessageProtocolMode} {body : Bytes} {out d : MessageEnvelope} :
    decodeOnce mode body out = .ok (.ok, d) ↔ Accepted mode body d := by
  rw [decodeOnce_eq, Accepted]
  cases framePrefix mode with
  | none => exact ⟨fun h => MessageCodec.decode_ok_iff.1 (Except.ok.inj h),
      fun h => congrArg Except.ok (MessageCodec.decode_ok_iff.2 h)⟩
  | some pfx => exact decodeFramed_ok_iff

/-- A message in one format is refused in another, and `*out` is left alone. -/
private theorem decodeOnce_of_other_format {mode mode' : MessageProtocolMode} {body : Bytes} {d : MessageEnvelope}
    (h : Accepted mode' body d) (hne : framePrefix mode ≠ framePrefix mode') (out : MessageEnvelope) :
    decodeOnce mode body out = .ok (.invalidParam, out) := by
  unfold Accepted at h
  cases hm' : framePrefix mode' with
  | some pfx' =>
    rw [hm'] at h
    obtain ⟨ds, payload, rfl, -⟩ := h
    exact decodeOnce_of_other_frame hm' hne _ out
  | none =>
    rw [hm'] at h
    cases hm : framePrefix mode with
    | none => exact absurd (hm.trans hm'.symm) hne
    | some pfx =>
      -- a text that decodes does not start like a frame
      have hstarts : startsWith body pfx = false := by
        rw [← Bool.not_eq_true]
        intro hstarts
        obtain ⟨rest, rfl⟩ := startsWith_iff.1 hstarts
        rw [decode_of_framePrefix hm] at h
        cases h
      rw [decodeOnce_eq, hm]
      exact decodeFramed_of_not_startsWith hstarts out

/-! ### Both attempts -/

/-- Behind a header that is read, a message in the mode declared or in the mode of the receiver is accepted, and nothing
else. -/
private theorem decodeByProtocol_ok_iff {s body : Bytes} {declaredMode : MessageProtocolMode} (hs : s ≠ [])
    (hsplit : splitEnvelopeHeader s = some (declaredMode, body)) {receiver : MessageProtocolMode}
    {out d : MessageEnvelope} :
    decodeByProtocol receiver s out = .ok (.ok, d) ↔ Accepted declaredMode body d ∨ Accepted receiver body d := by
  have hfirst : Accepted declaredMode body d → decodeByProtocol receiver s out = .ok (.ok, d) := by
    intro haccepted
    rw [decodeByProtocol_of_header hs hsplit, decodeOnce_ok_iff.2 haccepted]
    rfl
  constructor
  · intro h
    rw [decodeByProtocol_of_header hs hsplit] at h
    cases hattempt : decodeOnce declaredMode body out with
    | error x =>
      rw [hattempt] at h
      cases h
    | ok result =>
      obtain ⟨code, out'⟩ := result
      rw [hattempt] at h
      by_cases hcode : code = .ok
      · subst hcode
        have hout : out' = d := by cases h; rfl
        exact .inl (decodeOnce_ok_iff.1 (hout ▸ hattempt))
      · simp only [hcode, if_false] at h
        split at h
        · exact .inr (decodeOnce_ok_iff.1 h)
        · cases h
          exact absurd rfl hcode
  · rintro (haccepted | haccepted)
    · exact hfirst haccepted
    · by_cases hsame : framePrefix declaredMode = framePrefix receiver
      · refine hfirst ?_
        unfold Accepted at haccepted ⊢
        rwa [hsame]
      · have hne : receiver ≠ declaredMode := fun heq => hsame (congrArg _ heq.symm)
        rw [decodeByProtocol_of_header hs hsplit, decodeOnce_of_other_format haccepted hsame out]
        simp only [reduceCtorEq, if_false, if_pos hne]
        exact decodeOnce_ok_iff.2 haccepted

private theorem declaredText_ne_nil (modeToken versionToken body : Bytes) :
    declaredText modeToken versionToken body ≠ [] := by
  simp [declaredText]

/-- An empty mode token is refused. -/
private theorem splitEnvelopeHeader_of_empty_tag (rest : Bytes) :
    splitEnvelopeHeader (kProtocolPrefix ++ kProtocolSep :: rest) = none := by
  rfl

/-- **What a declared header decides**, for every text that has one and every receiver. -/
theorem declared_text_accepted_iff (receiver : MessageProtocolMode) {modeToken versionToken : Bytes}
    (hmode : kProtocolSep ∉ modeToken) (hversion : kProtocolSep ∉ versionToken) (body : Bytes)
    (out d : MessageEnvelope) :
    decodeByProtocol receiver (declaredText modeToken versionToken body) out = .ok (.ok, d) ↔
      modeToken ≠ [] ∧ startsWith versionToken kVersionPrefix = true ∧
        (Accepted (parseProtocolTag modeToken) body d ∨ Accepted receiver body d) := by
  have hrefused : splitEnvelopeHeader (declaredText modeToken versionToken body) = none →
      decodeByProtocol receiver (declaredText modeToken versionToken body) out ≠ .ok (.ok, d) := by
    intro hnone
    unfold decodeByProtocol
    rw [if_neg (declaredText_ne_nil _ _ _), hnone]
    nofun
  by_cases hempty : modeToken = []
  · subst hempty
    exact iff_of_false (hrefused (splitEnvelopeHeader_of_empty_tag _)) fun h => h.1 rfl
  · have hsplit := splitEnvelopeHeader_of_version hempty hmode hversion body
    by_cases hstarts : startsWith versionToken kVersionPrefix = true
    · rw [if_neg (by simp [hstarts])] at hsplit
      rw [decodeByProtocol_ok_iff (declaredText_ne_nil _ _ _) hsplit]
      exact ⟨fun h => ⟨hempty, hstarts, h⟩, fun h => h.2.2⟩
    · rw [if_pos (by simpa using hstarts)] at hsplit
      exact iff_of_false (hrefused hsplit) fun h => hstarts h.2.1

/-- A text with a mode that nobody knows and a version that no mode has. -/
def strangeText : Bytes :=
  declaredText (text "xyz") (text "pv=9") (text "1|event|best_effort|0|0|1000|t|p")

theorem declared_text_accepted_iff_strangeText :
    decodeByProtocol .cborReserved strangeText {} = .ok (.ok, { topic := text "t", payload := text "p" }) :=
  (declared_text_accepted_iff .cborReserved (by decide) (by decide) _ {} _).2 ⟨by decide, by decide, .inl rfl⟩

/-- It is accepted: neither the mode nor the version has to be a known one. -/
theorem declared_text_not_honoured : ¬ ∀ (receiver : MessageProtocolMode) (modeToken versionToken body : Bytes)
    (out d : MessageEnvelope), kProtocolSep ∉ modeToken → kProtocolSep ∉ versionToken →
      decodeByProtocol receiver (declaredText modeToken versionToken body) out = .ok (.ok, d) →
        ∃ mode, modeToken = protocolTag mode ∧
          versionToken = kVersionPrefix ++ decimal (protocolWireVersion mode).toNat := by
  intro hall
  obtain ⟨mode, hmode, -⟩ := hall .legacyPipe (text "xyz") (text "pv=9") (text "1|event|best_effort|0|0|1000|t|p") {}
    { topic := text "t", payload := text "p" } (by decide) (by decide) rfl
  cases mode <;> exact absurd hmode (by decide)

end VehicleBridge
