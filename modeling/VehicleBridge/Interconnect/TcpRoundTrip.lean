import VehicleBridge.Interconnect.TcpReceive
import VehicleBridge.Interconnect.TcpSend

/-!
# Messages over a TCP connection

`SendAll` and `RecvAll` as wholes, on a socket that is always ready: no wait times out, and `send` and `recv` transfer
bytes, as few as they like, or are interrupted by a signal.  Then the loops are exact.  `SendAll` writes the bytes it is
given (`sendAll_ready`), `RecvAll` stores the next bytes of the stream (`recvAll_ready`), and the messages that are sent
one after another are those received at the other end (`tcp_transfer_exact`).
-/

namespace VehicleBridge

open ByteText Framing

/-- The code of `SendAll`, the bytes it wrote to the socket, and the turns that are left. -/
structure SendAllResult where
  code : ErrorCode
  written : Bytes
  socket : List SendEvent
  deriving DecidableEq, Repr

def SendAllResult.prepend (bytes : Bytes) (r : SendAllResult) : SendAllResult :=
  { r with written := bytes ++ r.written }

@[simp] theorem SendAllResult.prepend_nil : SendAllResult.prepend [] = id :=
  rfl

/-- `SendAll` with the bytes it has left.  Where the socket has room for more bytes than these, `send` takes these. -/
def sendAll : List SendEvent → Bytes → Option SendAllResult
  | socket, [] => some ⟨.ok, [], socket⟩
  | [], _ :: _ => none
  | .waitTimedOut :: rest, _ :: _ => some ⟨.timeout, [], rest⟩
  | .waitFailed :: rest, _ :: _ => some ⟨mapSocketError, [], rest⟩
  | .sent count :: rest, b :: left =>
    (sendAll rest ((b :: left).drop count)).map (SendAllResult.prepend ((b :: left).take count))
  | .sendInterrupted :: rest, b :: left => sendAll rest (b :: left)
  | .sendFailed :: rest, _ :: _ => some ⟨mapSocketError, [], rest⟩

/-- A transport that sends: its socket, where `socket_fd_ < 0` is `none`, and the stream written to it. -/
structure TcpSender where
  socketFd : Option (List SendEvent) := none
  stream : Bytes := []
  deriving DecidableEq, Repr

def TcpSender.after (t : TcpSender) (r : SendAllResult) : TcpSender :=
  { socketFd := some r.socket, stream := t.stream ++ r.written }

/-- `SendWithTimeout`: its code and the transport it leaves. -/
def TcpSender.sendWithTimeout (message : Bytes) (t : TcpSender) : Option (ErrorCode × TcpSender) :=
  match t.socketFd with
  | none => some (.queueSendFailed, t)
  | some socket =>
    let len := UInt32.ofNat message.length
    (sendAll socket (bigEndian 4 len.toNat)).bind fun header =>
      if header.code ≠ .ok then some (header.code, t.after header)
      else if len = 0 then some (.ok, t.after header)
      else (sendAll header.socket message).map fun body => (body.code, (t.after header).after body)

/-- Messages sent one after another: the codes returned, and the transport behind the last call. -/
def TcpSender.sendEach : List Bytes → TcpSender → Option (List ErrorCode × TcpSender)
  | [], t => some ([], t)
  | message :: messages, t => (t.sendWithTimeout message).bind fun call =>
    (sendEach messages call.2).map fun calls => (call.1 :: calls.1, calls.2)

/-- Successive calls of `ReceiveWithTimeout`, each with fresh arguments. -/
def TcpTransport.receiveEach : Nat → TcpTransport → Option (List ReceiveResult)
  | 0, _ => some []
  | n + 1, t => (t.receiveWithTimeout [] 0).bind fun call => (receiveEach n call.transport).map (call :: ·)

/-! ### Sending -/

/-- What a turn of `SendAll` is on a socket that is always ready: `send` transfers a byte at least or is interrupted. -/
def SendEvent.Ready : SendEvent → Prop
  | .sent count => 0 < count
  | .sendInterrupted => True
  | _ => False

instance (e : SendEvent) : Decidable e.Ready := by
  unfold SendEvent.Ready
  split <;> infer_instance

def SendEvent.isTransfer : SendEvent → Bool
  | .sent _ => true
  | _ => false

/-- The number of turns in which bytes are transferred. -/
def transfers (socket : List SendEvent) : Nat :=
  socket.countP SendEvent.isTransfer

/-- The bytes that the socket has room for in some turns together. -/
def room : List SendEvent → Nat
  | [] => 0
  | .sent count :: rest => count + room rest
  | _ :: rest => room rest

/-- A turn of the loop is `sendTurn`. -/
theorem sendAll_cons {left written : Bytes} {e : SendEvent} {result : Except ErrorCode Bytes} (hleft : left ≠ [])
    (h : sendTurn left e = some (written, result)) (rest : List SendEvent) :
    sendAll (e :: rest) left =
      match result with
      | .ok left' => (sendAll rest left').map (SendAllResult.prepend written)
      | .error ec => some ⟨ec, written, rest⟩ := by
  obtain ⟨b, left, rfl⟩ := List.exists_cons_of_ne_nil hleft
  cases e with
  | waitTimedOut | waitFailed | sendFailed =>
    cases h
    rfl
  | sendInterrupted =>
    cases h
    simp [sendAll]
  | sent count =>
    rw [sendTurn] at h
    split at h
    · cases h
      rfl
    · cases h

/-- How a call of `SendAll` ends on a socket that is always ready: it has written what it was given, in as many turns as
have room for that and no more, or all turns together have no room for it. -/
inductive SendsExactly (socket : List SendEvent) (data : Bytes) : Option SendAllResult → Prop
  | returned (taken : List SendEvent) {rest : List SendEvent} (hsocket : socket = taken ++ rest)
      (hroom : data.length ≤ room taken)
      (hneeded : ∀ init last, taken = init ++ [last] → room init < data.length) :
      SendsExactly socket data (some ⟨.ok, data, rest⟩)
  | pending (hfew : room socket < data.length) : SendsExactly socket data none

/-- A turn of the loop in front of those it goes on with. -/
private theorem needed_cons {taken : List SendEvent} {e : SendEvent} {n n' : Nat} (hn : 0 < n)
    (hnext : ∀ k, k < n' → room [e] + k < n)
    (hneeded : ∀ init last, taken = init ++ [last] → room init < n') :
    ∀ init last, e :: taken = init ++ [last] → room init < n := by
  intro init last heq
  have hcons (rest : List SendEvent) : room (e :: rest) = room [e] + room rest := by
    cases e <;> simp [room]
  cases init with
  | nil => exact hn
  | cons e' init =>
    rw [List.cons_append, List.cons.injEq] at heq
    obtain ⟨rfl, heq⟩ := heq
    rw [hcons]
    exact hnext _ (hneeded init last heq)

theorem sendAll_ready {socket : List SendEvent} (h : ∀ e ∈ socket, e.Ready) (data : Bytes) :
    SendsExactly socket data (sendAll socket data) := by
  induction socket generalizing data with
  | nil =>
    cases data with
    | nil => exact .returned [] rfl (Nat.zero_le _) fun init last heq => absurd heq (by simp)
    | cons b left => exact .pending (Nat.succ_pos _)
  | cons e rest ih =>
    cases data with
    | nil =>
      rw [sendAll]
      exact .returned [] rfl (Nat.zero_le _) fun init last heq => absurd heq (by simp)
    | cons b left =>
      have hrest : ∀ e ∈ rest, e.Ready := fun e he => h e (List.mem_cons_of_mem _ he)
      have hready := h e List.mem_cons_self
      have hpos : 0 < (b :: left).length := Nat.succ_pos _
      cases e with
      | waitTimedOut | waitFailed | sendFailed => exact hready.elim
      | sendInterrupted =>
        have houtcome := ih hrest (b :: left)
        rw [sendAll]
        generalize sendAll rest (b :: left) = result at houtcome ⊢
        cases houtcome with
        | @returned taken rest' hsocket hroom hneeded =>
          refine .returned (.sendInterrupted :: taken) (by rw [hsocket]; rfl) hroom ?_
          exact needed_cons hpos (fun k hk => by simpa [room] using hk) hneeded
        | pending hfew => exact .pending hfew
      | sent count =>
        have houtcome := ih hrest ((b :: left).drop count)
        have hlength : ((b :: left).drop count).length = (b :: left).length - count := List.length_drop
        rw [sendAll]
        generalize sendAll rest ((b :: left).drop count) = result at houtcome ⊢
        cases houtcome with
        | @returned taken rest' hsocket hroom hneeded =>
          have hwritten : (b :: left).take count ++ (b :: left).drop count = b :: left := List.take_append_drop ..
          rw [Option.map_some, SendAllResult.prepend, hwritten]
          refine .returned (.sent count :: taken) (by rw [hsocket]; rfl) (by rw [room]; omega) ?_
          exact needed_cons hpos (fun k hk => by rw [room, room]; omega) hneeded
        | pending hfew => exact .pending (by rw [room]; omega)

/-- Each transfer takes some room. -/
private theorem transfers_le_room {socket : List SendEvent} (h : ∀ e ∈ socket, e.Ready) :
    transfers socket ≤ room socket := by
  induction socket with
  | nil => exact Nat.le_refl _
  | cons e rest ih =>
    have hrest := ih fun e he => h e (List.mem_cons_of_mem _ he)
    have hready := h e List.mem_cons_self
    cases e with
    | waitTimedOut | waitFailed | sendFailed => exact hready.elim
    | sendInterrupted => exact hrest
    | sent count =>
      have hpos : 0 < count := hready
      have hcount : transfers (.sent count :: rest) = transfers rest + 1 := List.countP_cons_of_pos rfl
      rw [hcount, room]
      omega

/-- In no more transfers than there are bytes, a call writes what it was given, or there are fewer transfers. -/
private theorem sendAll_transfers {socket : List SendEvent} (h : ∀ e ∈ socket, e.Ready) (data : Bytes) :
    (sendAll socket data = none ∧ transfers socket < data.length) ∨
      ∃ rest, sendAll socket data = some ⟨.ok, data, rest⟩ ∧ rest <:+ socket ∧
        transfers socket ≤ transfers rest + data.length := by
  have houtcome := sendAll_ready h data
  generalize sendAll socket data = result at houtcome
  cases houtcome with
  | pending hfew => exact .inl ⟨rfl, Nat.lt_of_le_of_lt (transfers_le_room h) hfew⟩
  | @returned taken rest hsocket hroom hneeded =>
    refine .inr ⟨rest, rfl, ⟨taken, hsocket.symm⟩, ?_⟩
    have htaken : transfers taken ≤ data.length := by
      rcases List.eq_nil_or_concat taken with rfl | ⟨init, last, rfl⟩
      · exact Nat.zero_le _
      · rw [List.concat_eq_append] at hsocket hneeded ⊢
        have hinit : ∀ e ∈ init, e.Ready := fun e he => h e (by simp [hsocket, he])
        have hlt := Nat.lt_of_le_of_lt (transfers_le_room hinit) (hneeded init last rfl)
        have hlast : transfers [last] ≤ 1 := List.countP_le_length
        have hsum : transfers (init ++ [last]) = transfers init + transfers [last] := List.countP_append
        omega
    have hsum : transfers (taken ++ rest) = transfers taken + transfers rest := List.countP_append
    rw [hsocket]
    omega

/-- The same for calls that write frames to a transport, with what they return. -/
inductive SendsFrames {κ : Type*} (socket : List SendEvent) (stream bytes : Bytes) (code : κ) :
    Option (κ × TcpSender) → Prop
  | returned {rest : List SendEvent} (hrest : rest <:+ socket)
      (hused : transfers socket ≤ transfers rest + bytes.length) :
      SendsFrames socket stream bytes code (some (code, ⟨some rest, stream ++ bytes⟩))
  | pending (hfew : transfers socket < bytes.length) : SendsFrames socket stream bytes code none

/-- A call of `SendWithTimeout` writes the frame of its message. -/
private theorem sendWithTimeout_ready {socket : List SendEvent} (h : ∀ e ∈ socket, e.Ready) (stream : Bytes)
    (m : Payload 4) :
    SendsFrames socket stream m.frame ErrorCode.ok (TcpSender.sendWithTimeout m.bytes ⟨some socket, stream⟩) := by
  have hlt : m.bytes.length < 2 ^ 32 := m.length_lt
  have hlen : (UInt32.ofNat m.bytes.length).toNat = m.bytes.length := by
    rw [UInt32.toNat_ofNat', Nat.mod_eq_of_lt hlt]
  have hzero : UInt32.ofNat m.bytes.length = 0 ↔ m.bytes = [] := by
    rw [← UInt32.toNat_inj, hlen, ← List.length_eq_zero_iff]
    rfl
  have hframe : m.frame.length = 4 + m.bytes.length := m.length_frame
  unfold TcpSender.sendWithTimeout
  simp only [hlen, hzero]
  rcases sendAll_transfers h (bigEndian 4 m.bytes.length) with ⟨hheader, hfew⟩ | ⟨rest, hheader, hrest, hused⟩
  · rw [length_bigEndian] at hfew
    rw [hheader]
    exact .pending (by omega)
  · rw [length_bigEndian] at hused
    rw [hheader]
    simp only [Option.bind_some, ne_eq, not_true_eq_false, if_false]
    by_cases hempty : m.bytes = []
    · rw [if_pos hempty, TcpSender.after]
      have hwhole : bigEndian 4 m.bytes.length = m.frame := by rw [Payload.frame, hempty, List.append_nil]
      have hused' : transfers socket ≤ transfers rest + m.frame.length := by omega
      rw [hwhole]
      exact .returned hrest hused'
    · rw [if_neg hempty]
      rcases sendAll_transfers (fun e he => h e (hrest.subset he)) m.bytes with
        ⟨hbody, hfew⟩ | ⟨rest', hbody, hrest', hused'⟩
      · rw [hbody]
        exact .pending (by omega)
      · rw [hbody]
        simp only [Option.map_some, TcpSender.after]
        rw [List.append_assoc]
        exact .returned (hrest'.trans hrest) (by omega)

/-- **Sending messages one after another** writes their frames. -/
theorem sendEach_ready {socket : List SendEvent} (h : ∀ e ∈ socket, e.Ready) (stream : Bytes) (ms : List (Payload 4)) :
    SendsFrames socket stream (framed ms) (List.replicate ms.length ErrorCode.ok)
      (TcpSender.sendEach (ms.map Payload.bytes) ⟨some socket, stream⟩) := by
  induction ms generalizing socket stream with
  | nil =>
    have hdone : SendsFrames socket stream [] ([] : List ErrorCode) (some ([], ⟨some socket, stream ++ []⟩)) :=
      .returned (List.suffix_refl _) (Nat.le_refl _)
    rwa [List.append_nil] at hdone
  | cons m ms ih =>
    have hfirst := sendWithTimeout_ready h stream m
    have hframed : (framed (m :: ms)).length = m.frame.length + (framed ms).length := by
      rw [framed_cons, List.length_append]
    rw [List.map_cons, TcpSender.sendEach]
    generalize TcpSender.sendWithTimeout m.bytes ⟨some socket, stream⟩ = call at hfirst ⊢
    cases hfirst with
    | pending hfew => exact .pending (by omega)
    | @returned rest hrest hused =>
      have hothers := ih (fun e he => h e (hrest.subset he)) (stream ++ m.frame)
      rw [Option.bind_some]
      generalize TcpSender.sendEach (ms.map Payload.bytes) ⟨some rest, stream ++ m.frame⟩ = calls at hothers ⊢
      cases hothers with
      | pending hfew => exact .pending (by omega)
      | @returned rest' hrest' hused' =>
        rw [Option.map_some, List.append_assoc, ← framed_cons]
        exact .returned (hrest'.trans hrest) (by omega)

/-! ### Receiving -/

/-- What a turn of `RecvAll` is on a socket that is always ready: `recv` gives bytes or is interrupted. -/
def SocketEvent.Ready : SocketEvent → Prop
  | .received bytes => bytes ≠ []
  | .recvInterrupted => True
  | _ => False

instance (e : SocketEvent) : Decidable e.Ready := by
  unfold SocketEvent.Ready
  split <;> infer_instance

private theorem ready_iff {socket : List SocketEvent} :
    (∀ e ∈ socket, e.Ready) ↔ StaysOpen socket ∧ waitOffsets socket = [] := by
  induction socket with
  | nil => exact iff_of_true nofun ⟨⟨List.not_mem_nil, List.not_mem_nil⟩, rfl⟩
  | cons e rest ih =>
    rw [List.forall_mem_cons, ih]
    cases e with
    | waitTimedOut | waitFailed => exact iff_of_false (fun h => h.1) fun h => by cases h.2
    | recvFailed => exact iff_of_false (fun h => h.1) fun h => h.1.2 List.mem_cons_self
    | recvInterrupted => simp [SocketEvent.Ready, StaysOpen, waitOffsets]
    | received bytes => simp [SocketEvent.Ready, StaysOpen, waitOffsets, and_assoc, @eq_comm _ []]

/-- No wait is over without bytes. -/
private theorem CutShort.not_ready {socket rest : List SocketEvent} {data : Bytes} (h : CutShort socket data rest) :
    ¬ ∀ e ∈ socket, e.Ready := by
  intro hready
  have hoffsets := h.waitOffsets_eq
  rw [(ready_iff.1 hready).2] at hoffsets
  cases hoffsets

theorem Reads.ready {socket rest : List SocketEvent} {data : Bytes} (h : Reads socket data rest)
    (hready : ∀ e ∈ socket, e.Ready) : ∀ e ∈ rest, e.Ready := by
  have hoffsets := h.waitOffsets_eq
  rw [(ready_iff.1 hready).2] at hoffsets
  exact ready_iff.2 ⟨h.staysOpen, List.map_eq_nil_iff.1 hoffsets.symm⟩

/-- How a call of `RecvAll` ends on a socket that is always ready: it has stored the next bytes, or there are fewer. -/
inductive ReceivesExactly (socket : List SocketEvent) (len : Nat) : Option RecvResult → Prop
  | returned {data : Bytes} {rest : List SocketEvent} (hlen : data.length = len)
      (hstream : arriving socket = data ++ arriving rest) : ReceivesExactly socket len (some ⟨.ok, data, rest⟩)
  | pending (hfew : (arriving socket).length < len) : ReceivesExactly socket len none

/-- A call of `RecvAll` that is still waiting has not been given enough. -/
private theorem length_lt_of_recvAll {socket : List SocketEvent} {len : Nat} (h : recvAll socket len = none) :
    (arriving socket).length < len := by
  induction socket generalizing len with
  | nil =>
    cases len with
    | zero => cases h
    | succ len => exact Nat.succ_pos len
  | cons e rest ih =>
    cases len with
    | zero =>
      rw [recvAll] at h
      cases h
    | succ len =>
      cases e with
      | waitTimedOut | waitFailed | recvFailed => cases h
      | recvInterrupted => exact ih h
      | received bytes =>
        rw [recvAll] at h
        split at h
        · cases h
        split at h
        · cases h
        · next hfits =>
          have hrest := ih (Option.map_eq_none_iff.1 h)
          rw [arriving, List.length_append]
          omega

theorem recvAll_ready {socket : List SocketEvent} (h : ∀ e ∈ socket, e.Ready) (len : Nat) :
    ReceivesExactly socket len (recvAll socket len) := by
  have houtcome := recvAll_cases (ready_iff.1 h).1 len
  cases hresult : recvAll socket len with
  | none => exact .pending (length_lt_of_recvAll hresult)
  | some result =>
    rw [hresult] at houtcome
    cases houtcome with
    | complete hlen hreads => exact .returned hlen hreads.arriving_eq
    | cutShort hcode hlen hcut => exact absurd h hcut.not_ready

/-- A call of `ReceiveWithTimeout` returns when a frame has arrived. -/
private theorem receiveWithTimeout_ne_none {socket : List SocketEvent} (h : StaysOpen socket) {m : Payload 4}
    {tail : Bytes} (hframe : arriving socket = m.frame ++ tail) (message : Bytes) (priority : UInt32) :
    TcpTransport.receiveWithTimeout message priority ⟨some socket⟩ ≠ none := by
  have hlength : (arriving socket).length = 4 + m.bytes.length + tail.length := by
    rw [hframe, List.length_append, Payload.length_frame]
  unfold TcpTransport.receiveWithTimeout
  simp only
  have houtcome := recvAll_cases h 4
  cases hheader : recvAll socket 4 with
  | none =>
    have hfew := length_lt_of_recvAll hheader
    omega
  | some header =>
    rw [hheader] at houtcome
    rw [Option.bind_some]
    cases houtcome with
    | cutShort hcode =>
      rw [if_neg hcode]
      exact Option.some_ne_none _
    | @complete data rest hlen hreads =>
      have hstream := hreads.arriving_eq.symm.trans hframe
      rw [Payload.frame, List.append_assoc] at hstream
      obtain ⟨rfl, hrest⟩ := List.append_inj hstream (by rw [hlen, length_bigEndian])
      rw [if_pos rfl, ofBigEndian_bigEndian m.length_lt, receiveBody]
      split
      · exact Option.some_ne_none _
      · intro hnone
        have hfew := length_lt_of_recvAll (Option.map_eq_none_iff.1 hnone)
        rw [hrest, List.length_append] at hfew
        omega

/-- **Receiving messages one after another** gives those whose frames arrive. -/
theorem receiveEach_ready {socket : List SocketEvent} (h : ∀ e ∈ socket, e.Ready) {ms : List (Payload 4)}
    (hstream : arriving socket = framed ms) :
    ∃ calls, TcpTransport.receiveEach ms.length ⟨some socket⟩ = some calls ∧
      calls.map (fun call => (call.code, call.message)) = ms.map fun m => (ErrorCode.ok, m.bytes) := by
  induction ms generalizing socket with
  | nil => exact ⟨[], rfl, rfl⟩
  | cons m ms ih =>
    have hopen := (ready_iff.1 h).1
    have hdelivers : DeliversFrames socket (m :: ms) := ⟨hopen, hstream ▸ List.prefix_rfl⟩
    have houtcome := receive_cases hdelivers [] 0
    rw [framed_cons] at hstream
    have hreturns := receiveWithTimeout_ne_none hopen hstream [] 0
    rw [List.length_cons, TcpTransport.receiveEach]
    generalize TcpTransport.receiveWithTimeout [] 0 ⟨some socket⟩ = call at houtcome hreturns ⊢
    cases houtcome with
    | waiting => exact absurd rfl hreturns
    | cutShort hcode hcut => exact absurd h hcut.not_ready
    | @message m' ms' rest hms hreads hfront =>
      cases hms
      have hrest : arriving rest = framed ms := List.append_cancel_left (hreads.arriving_eq.symm.trans hstream)
      obtain ⟨calls, hcalls, hmessages⟩ := ih (hreads.ready h) hrest
      refine ⟨_, by rw [Option.bind_some, hcalls, Option.map_some], ?_⟩
      rw [List.map_cons, hmessages, List.map_cons]

/-! ### From one end to the other -/

/-- **The transfer loops are exact** on sockets that are always ready: `SendAll` writes the bytes it is given, `RecvAll`
stores the next bytes of the stream, and messages sent one after another are those received at the other end, however
their bytes are split on either side. -/
theorem tcp_transfer_exact :
    (∀ socket data, (∀ e ∈ socket, SendEvent.Ready e) → SendsExactly socket data (sendAll socket data)) ∧
      (∀ socket len, (∀ e ∈ socket, SocketEvent.Ready e) → ReceivesExactly socket len (recvAll socket len)) ∧
      ∀ (ms : List (Payload 4)) (outlet : List SendEvent), (∀ e ∈ outlet, e.Ready) →
        SendsFrames outlet [] (framed ms) (List.replicate ms.length ErrorCode.ok)
            (TcpSender.sendEach (ms.map Payload.bytes) ⟨some outlet, []⟩) ∧
          ∀ codes sender, TcpSender.sendEach (ms.map Payload.bytes) ⟨some outlet, []⟩ = some (codes, sender) →
            ∀ inlet : List SocketEvent, (∀ e ∈ inlet, e.Ready) → arriving inlet = sender.stream →
              ∃ calls, TcpTransport.receiveEach ms.length ⟨some inlet⟩ = some calls ∧
                calls.map (fun call => (call.code, call.message)) = ms.map fun m => (ErrorCode.ok, m.bytes) := by
  refine ⟨fun _ data h => sendAll_ready h data, fun _ len h => recvAll_ready h len, fun ms outlet hout => ?_⟩
  have hsends := sendEach_ready hout [] ms
  refine ⟨hsends, fun codes sender hsent inlet hin hstream => ?_⟩
  rw [hsent] at hsends
  cases hsends with
  | returned => exact receiveEach_ready hin hstream

/-- A message of two bytes and an empty one. -/
def pairAndEmpty : List (Payload 4) :=
  [pair, ⟨[], by decide⟩]

theorem tcp_transfer_exact_pieces :
    ∃ calls, TcpTransport.receiveEach 2
        ⟨some [.received [0, 0], .recvInterrupted, .received [0, 2, 1], .received [2, 0, 0, 0], .received [0]]⟩ =
          some calls ∧
      calls.map (fun call => (call.code, call.message)) = [(.ok, [1, 2]), (.ok, [])] :=
  (tcp_transfer_exact.2.2 pairAndEmpty [.sent 3, .sendInterrupted, .sent 1, .sent 2, .sent 1, .sent 9] (by decide)).2
    _ _ rfl _ (by decide) (by decide)

end VehicleBridge
