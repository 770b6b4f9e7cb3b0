import Mathlib.Algebra.Group.Nat.Defs
import Mathlib.Data.List.Induction
import Mathlib.Tactic.Common

/-!
# Length-prefixed framing

A frame is the length of a payload as a big-endian number of `w` bytes, followed by the payload.  `Payload w`
carries the proof that its length fits, `framed` is the stream of a sequence of payloads, and `frameOffsets` the
offsets of that stream at which a frame ends or the first one starts.  A reader that takes a header from the
stream gets the length of the first payload (`ofBigEndian_bigEndian`), and no offset inside the first frame is one
of `frameOffsets` (`not_mem_frameOffsets`).  `unframes` is what a reader makes of a stream that may end inside a frame:
the payloads of the complete frames in front (`unframes_framed`).
-/

namespace Framing

/-- The `w` low bytes of a number, the most significant one first. -/
def bigEndian : Nat → Nat → List UInt8
  | 0, _ => []
  | w + 1, n => bigEndian w (n / 256) ++ [UInt8.ofNat n]

/-- The number that big-endian bytes stand for. -/
def ofBigEndian (bytes : List UInt8) : Nat :=
  bytes.foldl (fun n b => n * 256 + b.toNat) 0

@[simp] theorem length_bigEndian (w n : Nat) : (bigEndian w n).length = w := by
  induction w generalizing n with
  | zero => rfl
  | succ w ih => rw [bigEndian, List.length_append, ih, List.length_singleton]

private theorem ofBigEndian_snoc (bytes : List UInt8) (b : UInt8) :
    ofBigEndian (bytes ++ [b]) = ofBigEndian bytes * 256 + b.toNat := by
  simp [ofBigEndian]

theorem ofBigEndian_bigEndian {w n : Nat} (h : n < 256 ^ w) : ofBigEndian (bigEndian w n) = n := by
  induction w generalizing n with
  | zero =>
    have hn : n = 0 := by simpa using h
    rw [hn]
    rfl
  | succ w ih =>
    have hquot : n / 256 < 256 ^ w := Nat.div_lt_of_lt_mul (by rwa [Nat.pow_succ, Nat.mul_comm] at h)
    rw [bigEndian, ofBigEndian_snoc, ih hquot, UInt8.toNat_ofNat']
    omega

theorem ofBigEndian_lt (bytes : List UInt8) : ofBigEndian bytes < 256 ^ bytes.length := by
  induction bytes using List.reverseRecOn with
  | nil => exact Nat.one_pos
  | append_singleton bytes b ih =>
    have hb := b.toNat_lt
    rw [ofBigEndian_snoc, List.length_append, List.length_singleton, Nat.pow_succ]
    omega

theorem bigEndian_ofBigEndian (bytes : List UInt8) : bigEndian bytes.length (ofBigEndian bytes) = bytes := by
  induction bytes using List.reverseRecOn with
  | nil => rfl
  | append_singleton bytes b ih =>
    have hb := b.toNat_lt
    have hquot : (ofBigEndian bytes * 256 + b.toNat) / 256 = ofBigEndian bytes := by omega
    have hrem : UInt8.ofNat (ofBigEndian bytes * 256 + b.toNat) = b := by
      apply UInt8.toNat_inj.1
      rw [UInt8.toNat_ofNat']
      omega
    rw [ofBigEndian_snoc, List.length_append, List.length_singleton, bigEndian, hquot, hrem, ih]

/-- A payload whose length fits a header of `w` bytes. -/
structure Payload (w : Nat) where
  bytes : List UInt8
  length_lt : bytes.length < 256 ^ w

variable {w : Nat}

/-- The frame of a payload: its length, then its bytes. -/
def Payload.frame (m : Payload w) : List UInt8 :=
  bigEndian w m.bytes.length ++ m.bytes

/-- The stream of a sequence of payloads. -/
def framed (ms : List (Payload w)) : List UInt8 :=
  ms.flatMap Payload.frame

/-- The offsets in `framed ms` that no frame contains in its inside. -/
def frameOffsets : List (Payload w) → List Nat
  | [] => [0]
  | m :: ms => 0 :: (frameOffsets ms).map (m.frame.length + ·)

@[simp] theorem Payload.length_frame (m : Payload w) : m.frame.length = w + m.bytes.length := by
  rw [frame, List.length_append, length_bigEndian]

theorem framed_cons (m : Payload w) (ms : List (Payload w)) : framed (m :: ms) = m.frame ++ framed ms :=
  rfl

theorem zero_mem_frameOffsets (ms : List (Payload w)) : 0 ∈ frameOffsets ms := by
  cases ms <;> simp [frameOffsets]

theorem not_mem_frameOffsets {m : Payload w} {ms : List (Payload w)} {offset : Nat} (hpos : 0 < offset)
    (hlt : offset < m.frame.length) : offset ∉ frameOffsets (m :: ms) := by
  intro hmem
  rw [frameOffsets, List.mem_cons, List.mem_map] at hmem
  rcases hmem with rfl | ⟨rest, -, rfl⟩ <;> omega

/-- Behind the first frame the offsets are those of the other frames. -/
theorem add_mem_frameOffsets {m : Payload w} {ms : List (Payload w)} {offset : Nat} (hpos : 0 < m.frame.length) :
    m.frame.length + offset ∈ frameOffsets (m :: ms) ↔ offset ∈ frameOffsets ms := by
  rw [frameOffsets, List.mem_cons, List.mem_map]
  constructor
  · rintro (hzero | ⟨rest, hrest, heq⟩)
    · omega
    · rwa [← Nat.add_left_cancel heq]
  · exact fun h => .inr ⟨offset, h, rfl⟩

/-- What was cut from the front of a framed stream, as long as one header, is the header of the first frame. -/
theorem header_of_prefix {m : Payload w} {ms : List (Payload w)} {header rest : List UInt8}
    (h : header ++ rest <+: framed (m :: ms)) (hlen : header.length = w) :
    header = bigEndian w m.bytes.length ∧ rest <+: m.bytes ++ framed ms := by
  obtain ⟨tail, htail⟩ := h
  rw [framed_cons, Payload.frame, List.append_assoc, List.append_assoc] at htail
  obtain ⟨hheader, hrest⟩ := List.append_inj htail (by rw [hlen, length_bigEndian])
  exact ⟨hheader, tail, hrest⟩

/-- What was cut from behind the header, as long as the payload, is the payload. -/
theorem payload_of_prefix {m : Payload w} {ms : List (Payload w)} {body rest : List UInt8}
    (h : body ++ rest <+: m.bytes ++ framed ms) (hlen : body.length = m.bytes.length) :
    body = m.bytes ∧ rest <+: framed ms := by
  obtain ⟨tail, htail⟩ := h
  rw [List.append_assoc] at htail
  obtain ⟨hbody, hrest⟩ := List.append_inj htail hlen
  exact ⟨hbody, tail, hrest⟩

/-! ### Reading a stream -/

/-- The first payload of a stream and what follows it, if there is a complete frame. -/
def unframe (w : Nat) (bytes : List UInt8) : Option (List UInt8 × List UInt8) :=
  let len := ofBigEndian (bytes.take w)
  if w ≤ bytes.length ∧ len ≤ (bytes.drop w).length then
    some ((bytes.drop w).take len, (bytes.drop w).drop len)
  else none

/-- At most the given number of payloads from the front of a stream. -/
def unframesUpTo (w : Nat) : Nat → List UInt8 → List (List UInt8)
  | 0, _ => []
  | n + 1, bytes =>
    match unframe w bytes with
    | none => []
    | some (payload, rest) => payload :: unframesUpTo w n rest

/-- The payloads of the complete frames in front of a stream. -/
def unframes (w : Nat) (bytes : List UInt8) : List (List UInt8) :=
  unframesUpTo w bytes.length bytes

private theorem unframe_frame (m : Payload w) (tail : List UInt8) :
    unframe w (m.frame ++ tail) = some (m.bytes, tail) := by
  have hheader : (m.frame ++ tail).take w = bigEndian w m.bytes.length := by
    rw [Payload.frame, List.append_assoc, List.take_left' (length_bigEndian ..)]
  have hbody : (m.frame ++ tail).drop w = m.bytes ++ tail := by
    rw [Payload.frame, List.append_assoc, List.drop_left' (length_bigEndian ..)]
  unfold unframe
  simp only [hheader, hbody, ofBigEndian_bigEndian m.length_lt]
  rw [if_pos, List.take_left, List.drop_left]
  simp only [List.length_append, Payload.length_frame]
  omega

/-- The beginning of a frame is not a frame. -/
theorem unframe_eq_none {m : Payload w} {front rest : List UInt8} (h : front ++ rest = m.frame) (hrest : rest ≠ []) :
    unframe w front = none := by
  have hpos := List.length_pos_iff.2 hrest
  have hlen := congrArg List.length h
  rw [List.length_append, Payload.length_frame] at hlen
  refine if_neg fun hcomplete => ?_
  have hheader : front.take w = bigEndian w m.bytes.length := by
    have htake := congrArg (List.take w) h
    rwa [List.take_append_of_le_length hcomplete.1, Payload.frame, List.take_left' (length_bigEndian ..)] at htake
  rw [hheader, ofBigEndian_bigEndian m.length_lt, List.length_drop] at hcomplete
  omega

private theorem length_le_length_framed (hw : 0 < w) (ms : List (Payload w)) : ms.length ≤ (framed ms).length := by
  induction ms with
  | nil => exact Nat.le_refl _
  | cons m ms ih =>
    rw [framed_cons, List.length_append, Payload.length_frame, List.length_cons]
    omega

private theorem unframesUpTo_framed {ms : List (Payload w)} {tail : List UInt8} (htail : unframe w tail = none)
    {n : Nat} (hn : ms.length ≤ n) : unframesUpTo w n (framed ms ++ tail) = ms.map Payload.bytes := by
  induction ms generalizing n with
  | nil =>
    cases n with
    | zero => rfl
    | succ n =>
      rw [unframesUpTo, framed, List.flatMap_nil, List.nil_append, htail]
      rfl
  | cons m ms ih =>
    cases n with
    | zero => exact absurd hn (Nat.not_succ_le_zero _)
    | succ n =>
      rw [unframesUpTo, framed_cons, List.append_assoc, unframe_frame, List.map_cons]
      exact congrArg _ (ih (Nat.le_of_succ_le_succ hn))

/-- A stream of frames with no complete frame behind them is read as their payloads. -/
theorem unframes_framed (hw : 0 < w) (ms : List (Payload w)) {tail : List UInt8} (htail : unframe w tail = none) :
    unframes w (framed ms ++ tail) = ms.map Payload.bytes := by
  have hlen := length_le_length_framed hw ms
  refine unframesUpTo_framed htail ?_
  rw [List.length_append]
  omega

theorem unframe_nil (hw : 0 < w) : unframe w [] = none :=
  if_neg fun h => absurd h.1 (Nat.not_le.2 hw)

/-- What is framed in front of a framed stream are its first payloads. -/
theorem prefix_of_framed_prefix (hw : 0 < w) {ms ms' : List (Payload w)} (h : framed ms <+: framed ms') :
    ms.map Payload.bytes <+: ms'.map Payload.bytes := by
  induction ms generalizing ms' with
  | nil => exact List.nil_prefix
  | cons m ms ih =>
    obtain ⟨tail, htail⟩ := h
    rw [framed_cons, List.append_assoc] at htail
    have hfirst := unframe_frame m (framed ms ++ tail)
    rw [htail] at hfirst
    cases ms' with
    | nil =>
      cases hfirst.symm.trans (unframe_nil hw)
    | cons m' ms' =>
      rw [framed_cons, unframe_frame, Option.some.injEq, Prod.mk.injEq] at hfirst
      rw [List.map_cons, List.map_cons, hfirst.1, List.cons_prefix_cons]
      exact ⟨rfl, ih ⟨tail, hfirst.2.symm⟩⟩

theorem framed_snoc (ms : List (Payload w)) (m : Payload w) : framed (ms ++ [m]) = framed ms ++ m.frame := by
  simp [framed]

end Framing
