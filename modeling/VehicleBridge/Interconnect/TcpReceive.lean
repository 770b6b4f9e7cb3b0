import VehicleBridge.Interconnect.TcpTransport
import VehicleBridge.Lib.Transition

/-!
# Sessions of a TCP receiver

Successive calls of `ReceiveWithTimeout` on a socket that delivers frames.  A call that is cut short forgets the
bytes it has read, and the next call takes what follows them for a length.  `receive_lossless_iff` says when a
socket does no harm: exactly when every wait that ends without bytes ends between two frames.
-/

namespace VehicleBridge

open ByteText Framing Transition

/-- The bytes a transport can still read. -/
def TcpTransport.pending (t : TcpTransport) : Bytes :=
  t.socketFd.elim [] arriving

/-- A receiving loop: its transport, and the messages it got so far. -/
structure ReceiveSession where
  transport : TcpTransport
  returned : List Bytes := []

namespace ReceiveSession

def start (socket : List SocketEvent) : ReceiveSession :=
  { transport := { socketFd := some socket } }

/-- `ProcessInbound` goes on with the next call whatever a call returned. -/
def after (s : ReceiveSession) (call : ReceiveResult) : ReceiveSession :=
  { transport := call.transport
    returned := if call.code = .ok then s.returned ++ [call.message] else s.returned }

/-- A round of `ProcessInbound`, which passes fresh arguments to each call. -/
def Step (s : ReceiveSession) (call : ReceiveResult) (s' : ReceiveSession) : Prop :=
  s.transport.receiveWithTimeout [] 0 = some call ∧ s' = s.after call

end ReceiveSession

/-- The bytes of the socket are those of the frames of `ms`, as far as they have been sent. -/
structure DeliversFrames (socket : List SocketEvent) (ms : List (Payload 4)) : Prop where
  staysOpen : StaysOpen socket
  isPrefix : arriving socket <+: framed ms

/-- In every session the messages returned are the first ones sent, and a call that returns none of them leaves
every byte to the calls behind it. -/
def Lossless (socket : List SocketEvent) (ms : List (Payload 4)) : Prop :=
  ∀ calls s, Run ReceiveSession.Step (.start socket) calls s →
    s.returned <+: ms.map Payload.bytes ∧
      ∀ call, s.transport.receiveWithTimeout [] 0 = some call → call.code ≠ .ok →
        call.transport.pending = s.transport.pending

/-- No wait ends without bytes inside a frame. -/
def WaitsBetweenFrames (socket : List SocketEvent) (ms : List (Payload 4)) : Prop :=
  ∀ offset ∈ waitOffsets socket, offset ∈ frameOffsets ms

instance (socket : List SocketEvent) (ms : List (Payload 4)) : Decidable (WaitsBetweenFrames socket ms) :=
  inferInstanceAs (Decidable (∀ offset ∈ waitOffsets socket, offset ∈ frameOffsets ms))

/-! ### One call -/

/-- The bytes are not a frame, but the beginning of one. -/
def Torn (data : Bytes) (ms : List (Payload 4)) : Prop :=
  ∃ m ms', ms = m :: ms' ∧ 0 < data.length ∧ data.length < m.frame.length

/-- How a call of `ReceiveWithTimeout` ends. -/
inductive ReceiveOutcome (socket : List SocketEvent) (ms : List (Payload 4)) : Option ReceiveResult → Prop
  | waiting (hwait : waitOffsets socket = []) : ReceiveOutcome socket ms none
  | message {m : Payload 4} {ms' : List (Payload 4)} {rest : List SocketEvent} (hms : ms = m :: ms')
      (hreads : Reads socket m.frame rest) (hfront : arriving rest <+: framed ms') :
      ReceiveOutcome socket ms (some ⟨.ok, m.bytes, 0, ⟨some rest⟩⟩)
  | cutShort {code : ErrorCode} {data message : Bytes} {priority : UInt32} {rest : List SocketEvent}
      (hcode : code ≠ .ok) (hcut : CutShort socket data rest) (hdata : data = [] ∨ Torn data ms) :
      ReceiveOutcome socket ms (some ⟨code, message, priority, ⟨some rest⟩⟩)

variable {socket rest : List SocketEvent} {ms : List (Payload 4)}

private theorem receiveBody_cases {m : Payload 4} (hreads : Reads socket (bigEndian 4 m.bytes.length) rest)
    (hfront : arriving rest <+: m.bytes ++ framed ms) (priority : UInt32) :
    ReceiveOutcome socket (m :: ms) (receiveBody m.bytes.length priority rest) := by
  unfold receiveBody
  split
  · next hzero =>
    have hempty : m.bytes = [] := List.eq_nil_of_length_eq_zero hzero
    have hframe : m.frame = bigEndian 4 m.bytes.length := by rw [Payload.frame, hempty, List.append_nil]
    rw [← hempty]
    exact .message rfl (hframe ▸ hreads) (by simpa [hempty] using hfront)
  · next hpos =>
    have houtcome := recvAll_cases hreads.staysOpen m.bytes.length
    generalize recvAll rest m.bytes.length = body at houtcome ⊢
    cases houtcome with
    | waiting hwait => exact .waiting (by rw [hreads.waitOffsets_eq, hwait, List.map_nil])
    | complete hlen hbody =>
      rw [hbody.arriving_eq] at hfront
      obtain ⟨rfl, hrest⟩ := payload_of_prefix hfront hlen
      simpa using ReceiveOutcome.message rfl (hreads.trans hbody) hrest
    | cutShort hcode hlen hcut =>
      refine .cutShort hcode (hreads.cutShort hcut) (.inr ⟨m, ms, rfl, ?_, ?_⟩)
      · rw [List.length_append, length_bigEndian]
        omega
      · rw [List.length_append, length_bigEndian, Payload.length_frame]
        exact Nat.add_lt_add_left hlen 4

/-- **The step lemma**: on a socket that delivers frames a call returns the next message, is cut short by a wait
before the frame or inside it, or waits for more bytes. -/
theorem receive_cases (h : DeliversFrames socket ms) (message : Bytes) (priority : UInt32) :
    ReceiveOutcome socket ms (TcpTransport.receiveWithTimeout message priority ⟨some socket⟩) := by
  have houtcome := recvAll_cases h.staysOpen 4
  have hfront := h.isPrefix
  unfold TcpTransport.receiveWithTimeout
  simp only
  generalize recvAll socket 4 = header at houtcome ⊢
  cases houtcome with
  | waiting hwait => exact .waiting hwait
  | complete hlen hreads =>
    rw [hreads.arriving_eq] at hfront
    cases ms with
    | nil =>
      have hnil := (List.append_eq_nil_iff.1 (List.prefix_nil.1 hfront)).1
      rw [hnil] at hlen
      cases hlen
    | cons m ms =>
      obtain ⟨rfl, hrest⟩ := header_of_prefix hfront hlen
      simpa [ofBigEndian_bigEndian m.length_lt] using receiveBody_cases hreads hrest priority
  | @cutShort code data rest hcode hlen hcut =>
    rw [hcut.arriving_eq] at hfront
    simp only [Option.bind_some, if_neg hcode]
    refine .cutShort hcode hcut ?_
    cases ms with
    | nil => exact .inl (List.append_eq_nil_iff.1 (List.prefix_nil.1 hfront)).1
    | cons m ms =>
      rcases List.eq_nil_or_concat data with hnil | hcons
      · exact .inl hnil
      · refine .inr ⟨m, ms, rfl, ?_, ?_⟩
        · obtain ⟨init, last, rfl⟩ := hcons
          simp
        · rw [Payload.length_frame]
          omega

private theorem Torn.not_waitsBetweenFrames {data : Bytes} (h : Torn data ms) (hcut : CutShort socket data rest) :
    ¬ WaitsBetweenFrames socket ms := by
  obtain ⟨m, ms', rfl, hpos, hlt⟩ := h
  intro hwaits
  exact not_mem_frameOffsets hpos hlt (hwaits data.length (by rw [hcut.waitOffsets_eq]; exact List.mem_cons_self))

private theorem CutShort.waitsBetweenFrames_iff (h : CutShort socket [] rest) :
    WaitsBetweenFrames socket ms ↔ WaitsBetweenFrames rest ms := by
  have hoffsets : waitOffsets socket = 0 :: waitOffsets rest := by simpa using h.waitOffsets_eq
  unfold WaitsBetweenFrames
  rw [hoffsets, List.forall_mem_cons]
  exact and_iff_right (zero_mem_frameOffsets ms)

private theorem Reads.waitsBetweenFrames_iff {m : Payload 4} (h : Reads socket m.frame rest) :
    WaitsBetweenFrames socket (m :: ms) ↔ WaitsBetweenFrames rest ms := by
  have hpos : 0 < m.frame.length := by
    rw [Payload.length_frame]
    omega
  unfold WaitsBetweenFrames
  rw [h.waitOffsets_eq, List.forall_mem_map]
  exact forall₂_congr fun offset _ => add_mem_frameOffsets hpos

/-! ### Sessions -/

/-- What a session keeps: the messages returned are the first ones, the socket delivers the others, and its waits
are between their frames. -/
private def InStep (ms : List (Payload 4)) (s : ReceiveSession) : Prop :=
  ∃ done todo socket, ms = done ++ todo ∧ s.returned = done.map Payload.bytes ∧
    s.transport = ⟨some socket⟩ ∧ DeliversFrames socket todo ∧ WaitsBetweenFrames socket todo

/-- In step, a call returns the next message or takes no byte. -/
private theorem InStep.call {s : ReceiveSession} {call : ReceiveResult} (h : InStep ms s)
    (hcall : s.transport.receiveWithTimeout [] 0 = some call) :
    InStep ms (s.after call) ∧ (call.code ≠ .ok → call.transport.pending = s.transport.pending) := by
  obtain ⟨done, todo, socket, rfl, hreturned, htransport, hdelivers, hwaits⟩ := h
  rw [htransport] at hcall ⊢
  have houtcome := receive_cases hdelivers [] 0
  rw [hcall] at houtcome
  cases houtcome with
  | @message m ms' rest hms hreads hfront =>
    subst hms
    refine ⟨⟨done ++ [m], ms', rest, by simp, by simp [ReceiveSession.after, hreturned], rfl,
      ⟨hreads.staysOpen, hfront⟩, hreads.waitsBetweenFrames_iff.1 hwaits⟩, fun hne => absurd rfl hne⟩
  | @cutShort code data message priority rest hcode hcut hdata =>
    rcases hdata with rfl | htorn
    · have harriving : arriving socket = arriving rest := hcut.arriving_eq
      refine ⟨⟨done, todo, rest, rfl, by simp [ReceiveSession.after, hcode, hreturned], rfl,
        ⟨hcut.staysOpen, harriving ▸ hdelivers.isPrefix⟩, hcut.waitsBetweenFrames_iff.1 hwaits⟩, fun _ => ?_⟩
      exact harriving.symm
    · exact absurd hwaits (htorn.not_waitsBetweenFrames hcut)

/-- Where waits end between frames, nothing is lost. -/
private theorem lossless_of_waits (h : DeliversFrames socket ms) (hwaits : WaitsBetweenFrames socket ms) :
    Lossless socket ms := by
  intro calls s hrun
  have hstep : InStep ms s := by
    refine hrun.invariant (fun s call s' hi hnext => ?_) ⟨[], ms, socket, rfl, rfl, rfl, h, hwaits⟩
    rw [hnext.2]
    exact (hi.call hnext.1).1
  refine ⟨?_, fun call hcall => (hstep.call hcall).2⟩
  obtain ⟨done, todo, -, rfl, hreturned, -⟩ := hstep
  rw [hreturned, List.map_append]
  exact List.prefix_append _ _

/-- The second half of `Lossless`, from any session on the socket. -/
private def KeepsBytes (s₀ : ReceiveSession) : Prop :=
  ∀ calls s, Run ReceiveSession.Step s₀ calls s →
    ∀ call, s.transport.receiveWithTimeout [] 0 = some call → call.code ≠ .ok →
      call.transport.pending = s.transport.pending

private theorem KeepsBytes.after {s : ReceiveSession} {call : ReceiveResult} (h : KeepsBytes s)
    (hcall : s.transport.receiveWithTimeout [] 0 = some call) : KeepsBytes (s.after call) :=
  fun calls s' hrun => h (call :: calls) s' (.cons ⟨hcall, rfl⟩ hrun)

/-- Where nothing is lost, waits end between frames.  The induction is on the messages and waits that are left: each
call uses up one of them. -/
private theorem waits_of_keepsBytes {n : Nat} (h : DeliversFrames socket ms)
    (hn : ms.length + (waitOffsets socket).length ≤ n) {s : ReceiveSession} (hs : s.transport = ⟨some socket⟩)
    (hkeeps : KeepsBytes s) : WaitsBetweenFrames socket ms := by
  induction n generalizing socket ms s with
  | zero =>
    have hnone : waitOffsets socket = [] := List.eq_nil_of_length_eq_zero (by omega)
    intro offset hmem
    rw [hnone] at hmem
    cases hmem
  | succ n ih =>
    have houtcome := receive_cases h [] 0
    rw [← hs] at houtcome
    cases hcall : s.transport.receiveWithTimeout [] 0 with
    | none =>
      rw [hcall] at houtcome
      cases houtcome with
      | waiting hwait =>
        intro offset hmem
        rw [hwait] at hmem
        cases hmem
    | some call =>
      have hnext := hkeeps.after hcall
      have hsame := hkeeps [] s (.refl s) call hcall
      rw [hcall] at houtcome
      cases houtcome with
      | @message m ms' rest hms hreads hfront =>
        subst hms
        refine hreads.waitsBetweenFrames_iff.2 (ih ⟨hreads.staysOpen, hfront⟩ ?_ rfl hnext)
        rw [hreads.waitOffsets_eq, List.length_map, List.length_cons] at hn
        omega
      | @cutShort code data message priority rest hcode hcut hdata =>
        -- the call has taken `data`, which is to be nothing
        have hempty : data = [] := by
          have harriving : arriving rest = arriving socket := by
            simpa [TcpTransport.pending, hs] using hsame hcode
          rw [hcut.arriving_eq] at harriving
          exact List.append_left_eq_self.1 harriving.symm
        subst hempty
        have hfront := h.isPrefix
        rw [hcut.arriving_eq, List.nil_append] at hfront
        refine hcut.waitsBetweenFrames_iff.2 (ih ⟨hcut.staysOpen, hfront⟩ ?_ rfl hnext)
        rw [hcut.waitOffsets_eq, List.length_cons, List.length_map] at hn
        omega

/-- **Timeouts and the stream**: for a socket that delivers the frames of `ms`, however their bytes are split and
wherever signals interrupt `recv`, the sessions return the messages in order and no call without a message takes a
byte if and only if every wait that ends without bytes ends between two frames. -/
theorem receive_lossless_iff (h : DeliversFrames socket ms) : Lossless socket ms ↔ WaitsBetweenFrames socket ms :=
  ⟨fun hlossless => waits_of_keepsBytes h le_rfl rfl fun calls s hrun => (hlossless calls s hrun).2,
    lossless_of_waits h⟩

/-- Two frames in pieces, with waits around them and interrupts inside. -/
theorem receive_lossless_iff_pieces :
    Lossless [.waitTimedOut, .received [0, 0], .recvInterrupted, .received [0, 2, 104], .received [105],
        .waitTimedOut, .received [0, 0, 0, 0], .waitFailed] [⟨[104, 105], by decide⟩, ⟨[], by decide⟩] :=
  (receive_lossless_iff ⟨⟨by decide, by decide⟩, by decide⟩).2 (by decide)

/-- A timeout between the length and the bytes of a message of four zeros: the next call takes these for the length
of an empty message and returns it. -/
theorem receive_not_lossless :
    ¬ ∀ socket ms, DeliversFrames socket ms → SocketEvent.waitFailed ∉ socket →
      ∀ calls s, Run ReceiveSession.Step (.start socket) calls s → s.returned <+: ms.map Payload.bytes := by
  intro hclaim
  let zeros : Payload 4 := ⟨[0, 0, 0, 0], by decide⟩
  have hfront := hclaim [.received [0, 0, 0, 4], .waitTimedOut, .received [0, 0, 0, 0]] [zeros]
    ⟨⟨by decide, by decide⟩, by decide⟩ (by decide) _ _ (.snoc (.snoc (.refl _) ⟨rfl, rfl⟩) ⟨rfl, rfl⟩)
  exact absurd hfront (by decide)

end VehicleBridge
