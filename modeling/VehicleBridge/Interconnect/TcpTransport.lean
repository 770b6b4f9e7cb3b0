import VehicleBridge.Core.ErrorCode
import VehicleBridge.Lib.ByteText
import VehicleBridge.Lib.Framing

/-!
# Receiving over TCP

`RecvAll` reads a number of bytes in as many turns as the socket makes it take, and `ReceiveWithTimeout` reads a
frame with it: a length of four bytes in network order, then as many bytes.  A socket is the list of what happens
on it turn by turn.  A call that waits for more than the list holds has not returned yet and is `none`.

`recvAll_cases` says what `RecvAll` does in terms of the bytes that arrive (`arriving`) and the offsets of the
stream at which a wait ends without bytes (`waitOffsets`).
-/

namespace VehicleBridge

open ByteText Framing

/-- One turn of the loop of `RecvAll`: `WaitForSocket` times out or fails, or else `recv` gives bytes, is
interrupted by a signal or fails.  The peer closing the connection gives no bytes.  Bytes beyond those asked for
stay in the socket. -/
inductive SocketEvent
  | waitTimedOut
  | waitFailed
  | received (bytes : Bytes)
  | recvInterrupted
  | recvFailed
  deriving DecidableEq, Repr

def mapSocketError : ErrorCode :=
  .queueSendFailed

/-- The code of `RecvAll`, the bytes it wrote to the buffer, and the socket it leaves. -/
structure RecvResult where
  code : ErrorCode
  data : Bytes
  socket : List SocketEvent
  deriving DecidableEq, Repr

def RecvResult.prepend (bytes : Bytes) (r : RecvResult) : RecvResult :=
  { r with data := bytes ++ r.data }

@[simp] theorem RecvResult.prepend_nil : RecvResult.prepend [] = id :=
  rfl

/-- `RecvAll` with the number of bytes it still wants. -/
def recvAll : List SocketEvent → Nat → Option RecvResult
  | socket, 0 => some ⟨.ok, [], socket⟩
  | [], _ + 1 => none
  | .waitTimedOut :: rest, _ + 1 => some ⟨.timeout, [], rest⟩
  | .waitFailed :: rest, _ + 1 => some ⟨mapSocketError, [], rest⟩
  | .received bytes :: rest, len + 1 =>
    if bytes = [] then some ⟨.queueReceiveFailed, [], rest⟩
    else if len + 1 < bytes.length then
      some ⟨.ok, bytes.take (len + 1), .received (bytes.drop (len + 1)) :: rest⟩
    else (recvAll rest (len + 1 - bytes.length)).map (RecvResult.prepend bytes)
  | .recvInterrupted :: rest, len + 1 => recvAll rest (len + 1)
  | .recvFailed :: rest, _ + 1 => some ⟨mapSocketError, [], rest⟩

/-- A transport with its socket; `socket_fd_ < 0` is `none`. -/
structure TcpTransport where
  socketFd : Option (List SocketEvent) := none
  deriving DecidableEq, Repr

/-- The code of `ReceiveWithTimeout`, its two output arguments, and the transport it leaves. -/
structure ReceiveResult where
  code : ErrorCode
  message : Bytes
  priority : UInt32
  transport : TcpTransport
  deriving DecidableEq, Repr

/-- `ReceiveWithTimeout` from a complete length on.  The message is resized before its bytes are read. -/
def receiveBody (len : Nat) (priority : UInt32) (socket : List SocketEvent) : Option ReceiveResult :=
  if len = 0 then some ⟨.ok, [], 0, ⟨some socket⟩⟩
  else (recvAll socket len).map fun body =>
    ⟨body.code, body.data ++ List.replicate (len - body.data.length) 0, if body.code = .ok then 0 else priority,
      ⟨some body.socket⟩⟩

namespace TcpTransport

def receiveWithTimeout (message : Bytes) (priority : UInt32) (t : TcpTransport) : Option ReceiveResult :=
  match t.socketFd with
  | none => some ⟨.queueReceiveFailed, message, priority, t⟩
  | some socket => (recvAll socket 4).bind fun header =>
    if header.code = .ok then receiveBody (ofBigEndian header.data) priority header.socket
    -- the bytes of an incomplete length are lost with the local variable they were read into
    else some ⟨header.code, message, priority, ⟨some header.socket⟩⟩

end TcpTransport

/-! ### Bytes and waits -/

/-- The bytes of a socket. -/
def arriving : List SocketEvent → Bytes
  | [] => []
  | .received bytes :: rest => bytes ++ arriving rest
  | .waitTimedOut :: rest | .waitFailed :: rest | .recvInterrupted :: rest | .recvFailed :: rest => arriving rest

/-- The offsets in the bytes of a socket at which a wait for more times out or fails. -/
def waitOffsets : List SocketEvent → List Nat
  | [] => []
  | .waitTimedOut :: rest | .waitFailed :: rest => 0 :: waitOffsets rest
  | .received bytes :: rest => (waitOffsets rest).map (bytes.length + ·)
  | .recvInterrupted :: rest | .recvFailed :: rest => waitOffsets rest

/-- The peer keeps the connection open and `recv` does not fail other than by a signal. -/
def StaysOpen (socket : List SocketEvent) : Prop :=
  SocketEvent.received [] ∉ socket ∧ SocketEvent.recvFailed ∉ socket

/-- The bytes were read off the socket, no wait of which came before them or among them. -/
structure Reads (socket : List SocketEvent) (data : Bytes) (rest : List SocketEvent) : Prop where
  arriving_eq : arriving socket = data ++ arriving rest
  waitOffsets_eq : waitOffsets socket = (waitOffsets rest).map (data.length + ·)
  staysOpen : StaysOpen rest

/-- The bytes were read off the socket up to its first wait, which is over. -/
structure CutShort (socket : List SocketEvent) (data : Bytes) (rest : List SocketEvent) : Prop where
  arriving_eq : arriving socket = data ++ arriving rest
  waitOffsets_eq : waitOffsets socket = data.length :: (waitOffsets rest).map (data.length + ·)
  staysOpen : StaysOpen rest

variable {socket rest : List SocketEvent}

theorem StaysOpen.tail {event : SocketEvent} (h : StaysOpen (event :: rest)) : StaysOpen rest :=
  ⟨fun hmem => h.1 (List.mem_cons_of_mem _ hmem), fun hmem => h.2 (List.mem_cons_of_mem _ hmem)⟩

private theorem StaysOpen.received_ne_nil {bytes : Bytes} (h : StaysOpen (.received bytes :: rest)) : bytes ≠ [] := by
  rintro rfl
  exact h.1 List.mem_cons_self

private theorem map_length_append (data more : Bytes) (offsets : List Nat) :
    (offsets.map (more.length + ·)).map (data.length + ·) = offsets.map ((data ++ more).length + ·) := by
  rw [List.map_map]
  refine List.map_congr_left fun offset _ => ?_
  rw [Function.comp_apply, List.length_append, Nat.add_assoc]

theorem Reads.refl (h : StaysOpen socket) : Reads socket [] socket where
  arriving_eq := rfl
  waitOffsets_eq := by simp
  staysOpen := h

theorem Reads.trans {data more : Bytes} {rest' : List SocketEvent} (h : Reads socket data rest)
    (h' : Reads rest more rest') : Reads socket (data ++ more) rest' where
  arriving_eq := by rw [h.arriving_eq, h'.arriving_eq, List.append_assoc]
  waitOffsets_eq := by rw [h.waitOffsets_eq, h'.waitOffsets_eq, map_length_append]
  staysOpen := h'.staysOpen

theorem Reads.cutShort {data more : Bytes} {rest' : List SocketEvent} (h : Reads socket data rest)
    (h' : CutShort rest more rest') : CutShort socket (data ++ more) rest' where
  arriving_eq := by rw [h.arriving_eq, h'.arriving_eq, List.append_assoc]
  waitOffsets_eq := by
    rw [h.waitOffsets_eq, h'.waitOffsets_eq, List.map_cons, map_length_append, List.length_append]
  staysOpen := h'.staysOpen

theorem Reads.received {bytes : Bytes} (h : StaysOpen (.received bytes :: rest)) :
    Reads (.received bytes :: rest) bytes rest where
  arriving_eq := rfl
  waitOffsets_eq := rfl
  staysOpen := h.tail

theorem Reads.recvInterrupted (h : StaysOpen (.recvInterrupted :: rest)) :
    Reads (.recvInterrupted :: rest) [] rest where
  arriving_eq := rfl
  waitOffsets_eq := by simp [waitOffsets]
  staysOpen := h.tail

/-- A part of the bytes at hand is taken and the others stay. -/
theorem Reads.take {bytes : Bytes} {len : Nat} (h : StaysOpen (.received bytes :: rest)) (hlen : len < bytes.length) :
    Reads (.received bytes :: rest) (bytes.take len) (.received (bytes.drop len) :: rest) where
  arriving_eq := by rw [arriving, arriving, ← List.append_assoc, List.take_append_drop]
  waitOffsets_eq := by rw [waitOffsets, waitOffsets, map_length_append, List.take_append_drop]
  staysOpen := by
    have hdrop : bytes.drop len ≠ [] := List.ne_nil_of_length_pos (by rw [List.length_drop]; omega)
    refine ⟨fun hmem => ?_, fun hmem => ?_⟩
    · rcases List.mem_cons.1 hmem with heq | hmem
      · exact hdrop (SocketEvent.received.inj heq).symm
      · exact h.tail.1 hmem
    · rcases List.mem_cons.1 hmem with heq | hmem
      · cases heq
      · exact h.tail.2 hmem

private theorem CutShort.of_wait {event : SocketEvent} (h : StaysOpen (event :: rest))
    (hwait : event = .waitTimedOut ∨ event = .waitFailed) : CutShort (event :: rest) [] rest := by
  rcases hwait with rfl | rfl <;> exact ⟨rfl, by simp [waitOffsets], h.tail⟩

/-- How a call of `RecvAll` for `len` bytes ends. -/
inductive RecvOutcome (socket : List SocketEvent) (len : Nat) : Option RecvResult → Prop
  | waiting (hwait : waitOffsets socket = []) : RecvOutcome socket len none
  | complete {data : Bytes} {rest : List SocketEvent} (hlen : data.length = len) (hreads : Reads socket data rest) :
      RecvOutcome socket len (some ⟨.ok, data, rest⟩)
  | cutShort {code : ErrorCode} {data : Bytes} {rest : List SocketEvent} (hcode : code ≠ .ok)
      (hlen : data.length < len) (hcut : CutShort socket data rest) :
      RecvOutcome socket len (some ⟨code, data, rest⟩)

/-- Bytes read in front of a call of `RecvAll` for the others. -/
theorem RecvOutcome.prepend {data : Bytes} {len : Nat} {result : Option RecvResult} (h : Reads socket data rest)
    (houtcome : RecvOutcome rest len result) :
    RecvOutcome socket (data.length + len) (result.map (RecvResult.prepend data)) := by
  cases houtcome with
  | waiting hwait => exact .waiting (by rw [h.waitOffsets_eq, hwait, List.map_nil])
  | complete hlen hreads => exact .complete (by rw [List.length_append, hlen]) (h.trans hreads)
  | cutShort hcode hlen hcut =>
    exact .cutShort hcode (by rw [List.length_append]; exact Nat.add_lt_add_left hlen _) (h.cutShort hcut)

/-- On an open connection `RecvAll` reads what it was asked for, is cut short by a wait, or waits for more bytes
behind the last wait. -/
theorem recvAll_cases (h : StaysOpen socket) (len : Nat) : RecvOutcome socket len (recvAll socket len) := by
  induction socket generalizing len with
  | nil =>
    cases len with
    | zero => exact .complete rfl (Reads.refl h)
    | succ len => exact .waiting rfl
  | cons event rest ih =>
    cases len with
    | zero =>
      rw [recvAll]
      exact .complete rfl (Reads.refl h)
    | succ len =>
      cases event with
      | waitTimedOut => exact .cutShort (by decide) (Nat.succ_pos len) (.of_wait h (.inl rfl))
      | waitFailed => exact .cutShort (by decide) (Nat.succ_pos len) (.of_wait h (.inr rfl))
      | recvFailed => exact absurd List.mem_cons_self h.2
      | recvInterrupted =>
        have hrest := (ih h.tail (len + 1)).prepend (Reads.recvInterrupted h)
        rw [recvAll]
        simpa using hrest
      | received bytes =>
        rw [recvAll, if_neg h.received_ne_nil]
        split
        · next hmore =>
          exact .complete (by rw [List.length_take]; omega) (Reads.take h hmore)
        · next hfits =>
          have hrest := (ih h.tail (len + 1 - bytes.length)).prepend (Reads.received h)
          rwa [Nat.add_sub_cancel' (Nat.le_of_not_lt hfits)] at hrest

end VehicleBridge
