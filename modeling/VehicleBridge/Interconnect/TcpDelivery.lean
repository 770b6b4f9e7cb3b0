import VehicleBridge.Interconnect.QueueDelivery
import VehicleBridge.Interconnect.TcpRoundTrip

/-!
# Bridges at the two ends of TCP connections

Two bridges whose transports are connected to each other.  Each publishes to the other and handles what the other has
published; the network hands on the bytes of a connection in their order, in any pieces and at any time.

A connection has no queues: it keeps the order of all its messages, whatever their priorities.  A call that fails may
leave part of a frame on it (`TcpNet.torn`) or may have read part of one (`TcpInbound.lost`).  As long as neither has
happened, the messages received are the first of those published (`tcp_handled_in_order`).
-/

namespace VehicleBridge

open ByteText Framing Transition

/-! ### Connections as the transports of a bridge -/

def TcpTransport.caps : TransportCapabilities :=
  { supportsPriority := false, supportsDiscardOldest := false, supportsUnlink := false }

/-- The connections that a bridge publishes on, what failed calls have written to each of them, and whether every call
has returned. -/
structure TcpNet where
  sender : TransportId → TcpSender := fun _ => {}
  torn : TransportId → Bytes := fun _ => []
  returned : Bool := true

/-- What a call has added to the stream. -/
def TcpSender.writtenSince (before after : TcpSender) : Bytes :=
  after.stream.drop before.stream.length

/-- A call that does not return is given an error: what a run does behind it, the program does not. -/
def TcpNet.send (t : TransportId) (message : Bytes) (net : TcpNet) : ErrorCode × TcpNet :=
  match (net.sender t).sendWithTimeout message with
  | none => (.queueSendFailed, { net with returned := false })
  | some (ec, sender) =>
    (ec, { net with
      sender := Function.update net.sender t sender
      torn := if ec = .ok then net.torn
        else Function.update net.torn t (net.torn t ++ (net.sender t).writtenSince sender) })

def tcpTransports : Transports TcpNet where
  caps _ := TcpTransport.caps
  sendWithTimeout t message _ _ net := net.send t message
  discardOldest _ net := (.ok, net)
  sleepFor _ net := net

/-! ### Two bridges -/

inductive Peer
  | near
  | far
  deriving DecidableEq, Repr

def Peer.other : Peer → Peer
  | .near => .far
  | .far => .near

/-- A connection that a bridge receives from: the bytes that have arrived on it, the messages received, what failed
calls have read, and what the handlers have been invoked for. -/
structure TcpInbound where
  transport : TcpTransport := {}
  arrived : Bytes := []
  received : List Bytes := []
  lost : Bytes := []
  handled : List MessageEnvelope := []

/-- A bridge with its connections, the envelopes whose publish has returned `kOk` and the messages that the transports
have accepted. -/
structure TcpEnd where
  bridge : BridgeState
  wire : Wire TcpNet
  inbound : TransportId → TcpInbound
  acknowledged : List MessageEnvelope := []
  published : List PublishedMessage := []

inductive TcpOp
  | publish (origin : Side) (env : PublishEnv) (envelope : MessageEnvelope)
  | arrive (t : TransportId) (event : SocketEvent)
  | receive (t : TransportId) (env : InboundEnv) (routers : Routers)

/-- The next event on a connection: bytes, or how a wait or a call of `recv` ends. -/
def TcpInbound.arrive (event : SocketEvent) (c : TcpInbound) : Option TcpInbound :=
  c.transport.socketFd.map fun socket =>
    { c with transport := { socketFd := some (socket ++ [event]) }, arrived := c.arrived ++ arriving [event] }

/-- What a call has read. -/
def TcpTransport.readSince (before after : TcpTransport) : Bytes :=
  before.pending.take (before.pending.length - after.pending.length)

/-- A round of the inbound loop: the call, and the handler that the round invokes. -/
def TcpInbound.after (call : ReceiveResult) (invoked : List Invocation) (c : TcpInbound) : TcpInbound :=
  { c with
    transport := call.transport
    received := c.received ++ if call.code = .ok then [call.message] else []
    lost := c.lost ++ if call.code = .ok then [] else c.transport.readSince call.transport
    handled := c.handled ++ invoked.map Invocation.envelope }

namespace TcpEnd

/-- A bridge with new connections, where it has any, and what is going to happen to the calls that send on them. -/
def new (bridge : BridgeState) (turns : TransportId → Option (List SendEvent)) : TcpEnd where
  bridge
  wire := { state := { sender := fun t => { socketFd := turns t } } }
  inbound t := { transport := { socketFd := (turns t).map fun _ => [] } }

/-- `other` is the bridge at the other end. -/
def exec (x other : TcpEnd) : TcpOp → Option TcpEnd
  | .publish origin env envelope =>
    (publishFrom tcpTransports origin env envelope x.bridge x.wire).bind fun result =>
      if result.2.2.state.returned then
        some { x with
          bridge := result.2.1
          wire := result.2.2
          acknowledged := x.acknowledged ++ if result.1 = .ok then [envelope] else []
          published := x.published ++ (result.2.2.calls.drop x.wire.calls.length).filterMap (publishedBy envelope) }
      else none
  | .arrive t event =>
    if (x.inbound t).arrived ++ arriving [event] <+: (other.wire.state.sender t).stream then
      ((x.inbound t).arrive event).map fun c => { x with inbound := Function.update x.inbound t c }
    else none
  | .receive t env routers =>
    ((x.inbound t).transport.receiveWithTimeout [] 0).map fun call =>
      let round := inboundLoop t env routers (call.code, call.message) x.bridge
      { x with
        bridge := round.2
        inbound := Function.update x.inbound t
          ((x.inbound t).after call (invocationsOf t call.message round.1)) }

/-- What has been accepted on a connection, in order. -/
def publishedOn (t : TransportId) (x : TcpEnd) : List MessageEnvelope :=
  (x.published.filter fun p => p.transport = t).map PublishedMessage.envelope

end TcpEnd

/-- A step of one of the two bridges. -/
def linkStep (ends : Peer → TcpEnd) (op : Peer × TcpOp) : Option (Peer → TcpEnd) :=
  ((ends op.1).exec (ends op.1.other) op.2).map (Function.update ends op.1)

/-- What the handler at the other end sees of an envelope, if the loop there accepts its text. -/
def arrivesAt (sender receiver : BridgeState) (e : MessageEnvelope) : Option MessageEnvelope :=
  acceptedEnvelope receiver.protocolMode (textOf sender e)

/-! ### What a call writes -/

private theorem sendAll_written {socket : List SendEvent} {data : Bytes} {r : SendAllResult}
    (h : sendAll socket data = some r) : r.code = .ok → r.written = data := by
  induction socket, data using sendAll.induct generalizing r with
  | case1 socket =>
    rw [sendAll] at h
    cases h
    exact fun _ => rfl
  | case2 => cases h
  | case3 =>
    cases h
    intro hok
    cases hok
  | case4 =>
    cases h
    intro hok
    cases hok
  | case5 rest count b left ih =>
    obtain ⟨r', hr', rfl⟩ := Option.map_eq_some_iff.1 h
    intro hok
    rw [SendAllResult.prepend, ih hr' hok, List.take_append_drop]
  | case6 rest b left ih => exact ih h
  | case7 =>
    cases h
    intro hok
    cases hok

/-- A call adds to the stream, and one that returns `kOk` the frame of its message. -/
private theorem sendWithTimeout_stream {message : Bytes} {before after : TcpSender} {ec : ErrorCode}
    (h : before.sendWithTimeout message = some (ec, after)) :
    after.stream = before.stream ++ before.writtenSince after ∧
      (ec = .ok → ∀ hlength : message.length < 256 ^ 4,
        before.writtenSince after = (⟨message, hlength⟩ : Payload 4).frame) := by
  have hsince (written : Bytes) (heq : after.stream = before.stream ++ written) :
      before.writtenSince after = written := by
    rw [TcpSender.writtenSince, heq, List.drop_left]
  unfold TcpSender.sendWithTimeout at h
  cases hsocket : before.socketFd with
  | none =>
    simp only [hsocket, Option.some.injEq, Prod.mk.injEq] at h
    obtain ⟨rfl, rfl⟩ := h
    refine ⟨?_, nofun⟩
    rw [hsince [] (List.append_nil _).symm, List.append_nil]
  | some socket =>
    simp only [hsocket] at h
    obtain ⟨header, hheader, h⟩ := Option.bind_eq_some_iff.1 h
    have hwritten := sendAll_written hheader
    split at h
    · next hcode =>
      cases h
      have heq : (before.after header).stream = before.stream ++ header.written := rfl
      exact ⟨by rw [hsince _ heq]; exact heq, fun hok => absurd hok hcode⟩
    next hcode =>
    rw [not_not] at hcode
    split at h
    · next hzero =>
      cases h
      have heq : (before.after header).stream = before.stream ++ header.written := rfl
      refine ⟨by rw [hsince _ heq]; exact heq, fun _ hlength => ?_⟩
      have hnil : message = [] := by
        have hnat := congrArg UInt32.toNat hzero
        rw [UInt32.toNat_ofNat'] at hnat
        have hzero' : (0 : UInt32).toNat = 0 := rfl
        exact List.eq_nil_of_length_eq_zero (by omega)
      subst hnil
      rw [hsince _ heq, hwritten hcode]
      rfl
    · obtain ⟨body, hbody, h⟩ := Option.map_eq_some_iff.1 h
      cases h
      have heq : ((before.after header).after body).stream = before.stream ++ (header.written ++ body.written) :=
        List.append_assoc ..
      refine ⟨by rw [hsince _ heq]; exact heq, fun hok hlength => ?_⟩
      have hlen : (UInt32.ofNat message.length).toNat = message.length := by
        rw [UInt32.toNat_ofNat']
        omega
      rw [hsince _ heq, hwritten hcode, sendAll_written hbody hok, hlen]
      rfl

/-! ### What a connection takes in -/

/-- The stream of a connection on which no call has left part of a frame: the frames of what was accepted. -/
def StreamOk (t : TransportId) (w : Wire TcpNet) : Prop :=
  w.state.torn t = [] → (∀ m ∈ w.calls.filterMap (TransportCall.acceptedOn t), m.1.length < 256 ^ 4) →
    ∃ ms : List (Payload 4), ms.map Payload.bytes = (w.calls.filterMap (TransportCall.acceptedOn t)).map Prod.fst ∧
      (w.state.sender t).stream = framed ms

/-- Both connections, with all that was written at some earlier time. -/
structure TcpNetOk (earlier : TcpNet) (w : Wire TcpNet) : Prop where
  stream : ∀ t, StreamOk t w
  grown : ∀ t, (earlier.sender t).stream <+: (w.state.sender t).stream

section
variable {t t' : TransportId} {message : Bytes} {priority : UInt32} {timeoutMs : Int64} {w : Wire TcpNet}

theorem StreamOk.congr {w' : Wire TcpNet} (h : StreamOk t w) (hsender : w'.state.sender t = w.state.sender t)
    (htorn : w'.state.torn t = w.state.torn t)
    (haccepted : w'.calls.filterMap (TransportCall.acceptedOn t) = w.calls.filterMap (TransportCall.acceptedOn t)) :
    StreamOk t w' := by
  unfold StreamOk
  rw [hsender, htorn, haccepted]
  exact h

/-- A call that is not accepted on a connection adds nothing to what is. -/
private theorem filterMap_acceptedOn_append {c : TransportCall} (hc : c.acceptedOn t = none)
    (calls : List TransportCall) :
    (calls ++ [c]).filterMap (TransportCall.acceptedOn t) = calls.filterMap (TransportCall.acceptedOn t) := by
  rw [List.filterMap_append, List.filterMap_cons_none hc, List.filterMap_nil, List.append_nil]

/-- What is left of a connection by a call on it. -/
theorem StreamOk.send (h : StreamOk t w) {ec : ErrorCode} {sender : TcpSender} {torn : Bytes} {returned : Bool}
    (hsend : (w.state.sender t).sendWithTimeout message = some (ec, sender))
    (htorn : torn = if ec = .ok then w.state.torn t
      else w.state.torn t ++ (w.state.sender t).writtenSince sender) :
    StreamOk t
      { state := { sender := Function.update w.state.sender t sender
                   torn := Function.update w.state.torn t torn
                   returned }
        calls := w.calls ++ [.sendWithTimeout t message priority timeoutMs ec] } := by
  obtain ⟨hstream, hframe⟩ := sendWithTimeout_stream hsend
  unfold StreamOk
  simp only [Function.update_self]
  by_cases hok : ec = .ok
  · subst hok
    rw [if_pos rfl] at htorn
    rw [htorn, List.filterMap_append, List.filterMap_cons_some (acceptedOn_of_ok ⟨rfl, rfl⟩), List.filterMap_nil]
    intro hnone hlengths
    obtain ⟨ms, hms, heq⟩ := h hnone fun m hm => hlengths m (List.mem_append_left _ hm)
    have hlength : message.length < 256 ^ 4 := hlengths _ (List.mem_append_right _ List.mem_cons_self)
    refine ⟨ms ++ [⟨message, hlength⟩], ?_, ?_⟩
    · rw [List.map_append, List.map_append, hms]
      rfl
    · rw [hstream, heq, hframe rfl hlength, framed_snoc]
  · rw [if_neg hok] at htorn
    rw [htorn, filterMap_acceptedOn_append (acceptedOn_of_not fun h => hok h.2)]
    intro hnone hlengths
    obtain ⟨hbefore, hwritten⟩ := List.append_eq_nil_iff.1 hnone
    obtain ⟨ms, hms, heq⟩ := h hbefore hlengths
    exact ⟨ms, hms, by rw [hstream, hwritten, List.append_nil, heq]⟩

private theorem tcpNetOk_keptByCalls (earlier : TcpNet) : KeptByCalls tcpTransports (TcpNetOk earlier) where
  send t message priority timeoutMs w hw := by
    cases hsend : (w.state.sender t).sendWithTimeout message with
    | none =>
      have heq : w.sendWithTimeout tcpTransports t message priority timeoutMs = (.queueSendFailed,
          { state := { w.state with returned := false }
            calls := w.calls ++ [.sendWithTimeout t message priority timeoutMs .queueSendFailed] }) := by
        simp only [Wire.sendWithTimeout, tcpTransports, TcpNet.send, hsend]
      rw [heq]
      exact ⟨fun t' => (hw.stream t').congr rfl rfl (filterMap_acceptedOn_append
        (acceptedOn_of_not fun h => ErrorCode.noConfusion h.2) _), hw.grown⟩
    | some result =>
      obtain ⟨ec, sender⟩ := result
      have htorn : (if ec = .ok then w.state.torn
          else Function.update w.state.torn t (w.state.torn t ++ (w.state.sender t).writtenSince sender)) =
          Function.update w.state.torn t (if ec = .ok then w.state.torn t
            else w.state.torn t ++ (w.state.sender t).writtenSince sender) := by
        split
        · rw [Function.update_eq_self]
        · rfl
      have heq : w.sendWithTimeout tcpTransports t message priority timeoutMs = (ec,
          { state := { w.state with
              sender := Function.update w.state.sender t sender
              torn := Function.update w.state.torn t (if ec = .ok then w.state.torn t
                else w.state.torn t ++ (w.state.sender t).writtenSince sender) }
            calls := w.calls ++ [.sendWithTimeout t message priority timeoutMs ec] }) := by
        simp only [Wire.sendWithTimeout, tcpTransports, TcpNet.send, hsend, htorn]
      rw [heq]
      refine ⟨fun t' => ?_, fun t' => ?_⟩
      · by_cases ht : t' = t
        · subst ht
          exact (hw.stream t').send hsend rfl
        · exact (hw.stream t').congr (Function.update_of_ne ht ..) (Function.update_of_ne ht ..)
            (filterMap_acceptedOn_append (acceptedOn_of_not fun h => ht h.1.symm) _)
      · by_cases ht : t' = t
        · subst ht
          simp only [Function.update_self]
          rw [(sendWithTimeout_stream hsend).1]
          exact (hw.grown t').trans (List.prefix_append _ _)
        · simp only [Function.update_of_ne ht]
          exact hw.grown t'
  discard t w hw :=
    ⟨fun t' => (hw.stream t').congr rfl rfl (filterMap_acceptedOn_append rfl _), hw.grown⟩
  sleep _ _ hw := hw

end

/-! ### What a connection gives out -/

private theorem arriving_append (socket socket' : List SocketEvent) :
    arriving (socket ++ socket') = arriving socket ++ arriving socket' := by
  induction socket with
  | nil => rfl
  | cons event socket ih =>
    cases event with
    | received bytes => rw [List.cons_append, arriving, ih, arriving, List.append_assoc]
    | waitTimedOut | waitFailed | recvInterrupted | recvFailed => exact ih

private theorem recvAll_reads {socket : List SocketEvent} {len : Nat} {r : RecvResult}
    (h : recvAll socket len = some r) :
    arriving socket = r.data ++ arriving r.socket ∧ (r.code = .ok → r.data.length = len) := by
  induction socket, len using recvAll.induct generalizing r with
  | case1 socket =>
    rw [recvAll] at h
    cases h
    exact ⟨rfl, fun _ => rfl⟩
  | case2 => cases h
  | case3 | case4 =>
    cases h
    exact ⟨rfl, fun hok => by cases hok⟩
  | case5 rest len =>
    rw [recvAll, if_pos rfl] at h
    cases h
    exact ⟨rfl, fun hok => by cases hok⟩
  | case6 bytes rest len hne hlen =>
    rw [recvAll, if_neg hne, if_pos hlen] at h
    cases h
    refine ⟨?_, fun _ => List.length_take_of_le (Nat.le_of_lt hlen)⟩
    rw [arriving, arriving, ← List.append_assoc, List.take_append_drop]
  | case7 bytes rest len hne hlen ih =>
    rw [recvAll, if_neg hne, if_neg hlen] at h
    obtain ⟨r', hr', rfl⟩ := Option.map_eq_some_iff.1 h
    obtain ⟨harriving, hlength⟩ := ih hr'
    refine ⟨?_, fun hok => ?_⟩
    · rw [arriving, harriving, ← List.append_assoc]
      rfl
    · have hdata : (RecvResult.prepend bytes r').data.length = bytes.length + r'.data.length := List.length_append
      have hrest := hlength hok
      omega
  | case8 rest len ih => exact ih h
  | case9 =>
    cases h
    exact ⟨rfl, fun hok => by cases hok⟩

/-- A call takes bytes off its connection, and one that returns `kOk` the frame of its message. -/
private theorem receiveWithTimeout_reads {message : Bytes} {priority : UInt32} {t : TcpTransport} {call : ReceiveResult}
    (h : t.receiveWithTimeout message priority = some call) :
    t.pending = t.readSince call.transport ++ call.transport.pending ∧
      (call.code = .ok → ∃ m : Payload 4, m.bytes = call.message ∧ t.readSince call.transport = m.frame) := by
  have hread (data : Bytes) (heq : t.pending = data ++ call.transport.pending) :
      t.readSince call.transport = data := by
    rw [TcpTransport.readSince, heq, List.length_append, Nat.add_sub_cancel, List.take_left]
  unfold TcpTransport.receiveWithTimeout at h
  split at h
  · cases h
    rw [hread [] rfl]
    exact ⟨rfl, nofun⟩
  next socket hsocket =>
  have hpending : t.pending = arriving socket := by
    rw [TcpTransport.pending, hsocket]
    rfl
  obtain ⟨header, hheader, h⟩ := Option.bind_eq_some_iff.1 h
  obtain ⟨harriving, hlength⟩ := recvAll_reads hheader
  rw [harriving] at hpending
  split at h
  · next hcode =>
    have hlen := hlength hcode
    unfold receiveBody at h
    split at h
    · next hzero =>
      cases h
      rw [hread _ hpending]
      refine ⟨hpending, fun _ => ⟨⟨[], by decide⟩, rfl, ?_⟩⟩
      have hheader' := bigEndian_ofBigEndian header.data
      rw [hzero, hlen] at hheader'
      exact hheader'.symm
    · obtain ⟨body, hbody, rfl⟩ := Option.map_eq_some_iff.1 h
      obtain ⟨harriving', hlength'⟩ := recvAll_reads hbody
      rw [harriving', ← List.append_assoc] at hpending
      rw [hread _ hpending]
      refine ⟨hpending, fun hok => ?_⟩
      have hlen' := hlength' hok
      have hlt := ofBigEndian_lt header.data
      have hheader' := bigEndian_ofBigEndian header.data
      rw [hlen] at hlt hheader'
      rw [← hlen'] at hlt hheader'
      refine ⟨⟨body.data, hlt⟩, ?_, congrArg (· ++ body.data) hheader'.symm⟩
      show body.data = body.data ++ List.replicate (ofBigEndian header.data - body.data.length) 0
      rw [hlen', Nat.sub_self, List.replicate_zero, List.append_nil]
  · next hcode =>
    cases h
    rw [hread _ hpending]
    exact ⟨hpending, fun hok => absurd hok hcode⟩

/-- What a round of the inbound loop takes off its connection. -/
structure InboundOk (mode : MessageProtocolMode) (c : TcpInbound) : Prop where
  read : ∃ consumed, c.arrived = consumed ++ c.transport.pending ∧
    (c.lost = [] → ∃ ms : List (Payload 4), ms.map Payload.bytes = c.received ∧ consumed = framed ms)
  handled : List.Sublist c.handled (c.received.filterMap (acceptedEnvelope mode))

theorem InboundOk.arrive {mode : MessageProtocolMode} {c c' : TcpInbound} (h : InboundOk mode c) {event : SocketEvent}
    (harrive : c.arrive event = some c') : InboundOk mode c' ∧ c'.arrived = c.arrived ++ arriving [event] := by
  obtain ⟨socket, hsocket, rfl⟩ := Option.map_eq_some_iff.1 harrive
  obtain ⟨⟨consumed, heq, hframes⟩, hhandled⟩ := h
  refine ⟨⟨⟨consumed, ?_, hframes⟩, hhandled⟩, rfl⟩
  have hpending : c.transport.pending = arriving socket := by
    rw [TcpTransport.pending, hsocket]
    rfl
  show c.arrived ++ arriving [event] = consumed ++ arriving (socket ++ [event])
  rw [heq, hpending, arriving_append, List.append_assoc]

theorem InboundOk.after {mode : MessageProtocolMode} {c : TcpInbound} (h : InboundOk mode c) {call : ReceiveResult}
    (hcall : c.transport.receiveWithTimeout [] 0 = some call) {invoked : List Invocation}
    (hinvoked : List.Sublist (invoked.map Invocation.envelope)
      ((if call.code = .ok then [call.message] else []).filterMap (acceptedEnvelope mode))) :
    InboundOk mode (c.after call invoked) := by
  obtain ⟨hread, hframe⟩ := receiveWithTimeout_reads hcall
  obtain ⟨⟨consumed, heq, hframes⟩, hhandled⟩ := h
  constructor
  · refine ⟨consumed ++ c.transport.readSince call.transport, ?_, fun hlost => ?_⟩
    · show c.arrived = consumed ++ c.transport.readSince call.transport ++ call.transport.pending
      rw [heq, List.append_assoc, ← hread]
    · obtain ⟨hbefore, hcut⟩ := List.append_eq_nil_iff.1 hlost
      obtain ⟨ms, hms, hconsumed⟩ := hframes hbefore
      by_cases hok : call.code = .ok
      · obtain ⟨m, hm, hm'⟩ := hframe hok
        refine ⟨ms ++ [m], ?_, ?_⟩
        · show (ms ++ [m]).map Payload.bytes = c.received ++ if call.code = .ok then [call.message] else []
          rw [if_pos hok, List.map_append, hms, ← hm]
          rfl
        · rw [hconsumed, hm', framed_snoc]
      · rw [if_neg hok] at hcut
        refine ⟨ms, ?_, ?_⟩
        · show ms.map Payload.bytes = c.received ++ if call.code = .ok then [call.message] else []
          rw [if_neg hok, List.append_nil, hms]
        · rw [hcut, List.append_nil, hconsumed]
  · show List.Sublist (c.handled ++ invoked.map Invocation.envelope)
      ((c.received ++ if call.code = .ok then [call.message] else []).filterMap (acceptedEnvelope mode))
    rw [List.filterMap_append]
    exact hhandled.append hinvoked

/-- A round that has received nothing invokes nothing. -/
private theorem invocationsOf_eq_nil (t : TransportId) (env : InboundEnv) (routers : Routers) {code : ErrorCode}
    (hcode : code ≠ .ok) (message : Bytes) (s : BridgeState) :
    invocationsOf t message (inboundLoop t env routers (code, message) s).1 = [] := by
  rw [inboundLoop_eq]
  cases code with
  | ok => exact absurd rfl hcode
  | _ => rfl

/-! ### One end -/

/-- What a bridge, its connections and what it has published have of each other. -/
structure EndOk (s : BridgeState) (x : TcpEnd) : Prop where
  setup : x.bridge.setup = s.setup
  stream : ∀ t, StreamOk t x.wire
  accepted : ∀ t, x.wire.calls.filterMap (TransportCall.acceptedOn t) =
    (x.published.filter fun p => p.transport = t).map fun p => (textOf s p.envelope, p.priority)
  acknowledged : x.published.map PublishedMessage.envelope = x.acknowledged
  inbound : ∀ t, InboundOk s.protocolMode (x.inbound t)

/-- What has arrived at one end has been written at the other. -/
def HandsOver (sender receiver : TcpEnd) : Prop :=
  ∀ t, (receiver.inbound t).arrived <+: (sender.wire.state.sender t).stream

/-- A step of one end keeps it in order, and the two connections of it. -/
structure EndStep (s : BridgeState) (other x x' : TcpEnd) : Prop where
  ok : EndOk s x'
  grown : ∀ t, (x.wire.state.sender t).stream <+: (x'.wire.state.sender t).stream
  carries : HandsOver other x → HandsOver other x'

section
variable {s : BridgeState} {other x x' : TcpEnd}

theorem EndOk.publish (h : EndOk s x) {origin : Side} {env : PublishEnv} {e : MessageEnvelope}
    (hexec : x.exec other (.publish origin env e) = some x') : EndStep s other x x' := by
  obtain ⟨⟨ec, s', w'⟩, hpublish, hexec⟩ := Option.bind_eq_some_iff.1 hexec
  split at hexec
  · cases hexec
    have hadds := publishFrom_adds h.setup hpublish
    rw [publishFrom_eq] at hpublish
    have hnet : TcpNetOk x.wire.state w' :=
      (tcpNetOk_keptByCalls x.wire.state).publish hpublish ⟨h.stream, fun _ => List.prefix_refl _⟩
    have hsetup : s'.setup = x.bridge.setup := congrArg Prod.fst (publish_unpublished hpublish)
    refine ⟨⟨hsetup.trans h.setup, hnet.stream, fun t => ?_, ?_, h.inbound⟩, hnet.grown, fun hcarries => hcarries⟩
    · rw [hadds.accepted t, h.accepted t, List.filter_append, List.map_append]
    · rw [List.map_append, h.acknowledged, hadds.published]
  · cases hexec

theorem EndOk.arrive (h : EndOk s x) {t : TransportId} {event : SocketEvent}
    (hexec : x.exec other (.arrive t event) = some x') : EndStep s other x x' := by
  simp only [TcpEnd.exec] at hexec
  split at hexec
  · next hprefix =>
    obtain ⟨c, hc, rfl⟩ := Option.map_eq_some_iff.1 hexec
    obtain ⟨hok, harrived⟩ := (h.inbound t).arrive hc
    refine ⟨⟨h.setup, h.stream, h.accepted, h.acknowledged, fun t' => ?_⟩, fun _ => List.prefix_refl _,
      fun hcarries t' => ?_⟩
    · by_cases ht : t' = t
      · subst ht
        simp only [Function.update_self]
        exact hok
      · simp only [Function.update_of_ne ht]
        exact h.inbound t'
    · by_cases ht : t' = t
      · subst ht
        simp only [Function.update_self]
        rw [harrived]
        exact hprefix
      · simp only [Function.update_of_ne ht]
        exact hcarries t'
  · cases hexec

theorem EndOk.receive (h : EndOk s x) {t : TransportId} {env : InboundEnv} {routers : Routers}
    (hexec : x.exec other (.receive t env routers) = some x') : EndStep s other x x' := by
  obtain ⟨call, hcall, rfl⟩ := Option.map_eq_some_iff.1 hexec
  have hsetup : (inboundLoop t env routers (call.code, call.message) x.bridge).2.setup = x.bridge.setup := by
    rw [inboundLoop_eq]
    exact processInbound_setup ..
  have hmode : x.bridge.protocolMode = s.protocolMode := congrArg BridgeSetup.protocolMode h.setup
  have hinvoked : List.Sublist
      ((invocationsOf t call.message (inboundLoop t env routers (call.code, call.message) x.bridge).1).map
        Invocation.envelope)
      ((if call.code = .ok then [call.message] else []).filterMap (acceptedEnvelope s.protocolMode)) := by
    by_cases hok : call.code = .ok
    · rw [if_pos hok, hok, ← hmode, List.filterMap_cons, List.filterMap_nil]
      have hround := invocationsOf_sublist t env routers call.message x.bridge
      cases haccepted : acceptedEnvelope x.bridge.protocolMode call.message with
      | none => exact haccepted ▸ hround
      | some d => exact haccepted ▸ hround
    · rw [if_neg hok, invocationsOf_eq_nil t env routers hok]
      exact List.nil_sublist _
  refine ⟨⟨hsetup.trans h.setup, h.stream, h.accepted, h.acknowledged, fun t' => ?_⟩, fun _ => List.prefix_refl _,
    fun hcarries t' => ?_⟩
  · by_cases ht : t' = t
    · subst ht
      simp only [Function.update_self]
      exact (h.inbound t').after hcall hinvoked
    · simp only [Function.update_of_ne ht]
      exact h.inbound t'
  · by_cases ht : t' = t
    · subst ht
      simp only [Function.update_self]
      exact hcarries t'
    · simp only [Function.update_of_ne ht]
      exact hcarries t'

/-- **The step lemma** of one end. -/
theorem EndOk.exec (h : EndOk s x) {op : TcpOp} (hexec : x.exec other op = some x') : EndStep s other x x' := by
  cases op with
  | publish origin env e => exact h.publish hexec
  | arrive t event => exact h.arrive hexec
  | receive t env routers => exact h.receive hexec

private theorem endOk_new (s : BridgeState) (turns : TransportId → Option (List SendEvent)) :
    EndOk s (.new s turns) where
  setup := rfl
  stream _ _ _ := ⟨[], rfl, rfl⟩
  accepted _ := rfl
  acknowledged := rfl
  inbound t := by
    refine ⟨⟨[], ?_, fun _ => ⟨[], rfl, rfl⟩⟩, List.nil_sublist _⟩
    show [] = ((turns t).map fun _ => []).elim [] arriving
    cases turns t <;> rfl

end

/-! ### Both ends -/

/-- Both ends are in order, and so are the connections between them. -/
structure LinkOk (bridges : Peer → BridgeState) (ends : Peer → TcpEnd) : Prop where
  ok : ∀ p, EndOk (bridges p) (ends p)
  carries : ∀ p, HandsOver (ends p) (ends p.other)

private theorem Peer.other_other (p : Peer) : p.other.other = p := by
  cases p <;> rfl

private theorem Peer.other_ne (p : Peer) : p.other ≠ p := by
  cases p <;> decide

private theorem Peer.eq_or_eq_other (p q : Peer) : q = p ∨ q = p.other := by
  cases p <;> cases q <;> decide

theorem LinkOk.step {bridges : Peer → BridgeState} {ends ends' : Peer → TcpEnd} (h : LinkOk bridges ends)
    {op : Peer × TcpOp} (hstep : linkStep ends op = some ends') : LinkOk bridges ends' := by
  obtain ⟨p, op⟩ := op
  obtain ⟨x, hexec, rfl⟩ := Option.map_eq_some_iff.1 hstep
  have hend := (h.ok p).exec hexec
  have hother : Function.update ends p x p.other = ends p.other := Function.update_of_ne p.other_ne ..
  have hself : Function.update ends p x p = x := Function.update_self ..
  refine ⟨fun q => ?_, fun q => ?_⟩
  · rcases p.eq_or_eq_other q with rfl | rfl
    · rw [hself]
      exact hend.ok
    · rw [hother]
      exact h.ok p.other
  · rcases p.eq_or_eq_other q with rfl | rfl
    · rw [hself, hother]
      exact fun t => (h.carries q t).trans (hend.grown t)
    · have hcarries := h.carries p.other
      rw [Peer.other_other] at hcarries ⊢
      rw [hself, hother]
      exact hend.carries hcarries

/-- A valid envelope is accepted at the other end if and only if it is sent in the legacy format. -/
private theorem arrivesAt_of_valid (sender receiver : BridgeState) {e : MessageEnvelope} (hschema : 1 ≤ e.schemaVersion)
    (hvalid : isEnvelopeValidForPublish e = true) :
    (SentAsLegacy sender.config e → arrivesAt sender receiver e = some { e with idempotencyKey := [] }) ∧
      (¬ SentAsLegacy sender.config e → arrivesAt sender receiver e = none) := by
  have hdecode := decodeByProtocol_encodeByProtocol_or (resolveMode sender.config e) receiver.protocolMode hschema {}
  rw [← resolveMode_eq_legacyPipe_iff]
  unfold arrivesAt acceptedEnvelope textOf
  constructor
  · intro hlegacy
    rw [hlegacy] at hdecode ⊢
    rw [hdecode.resolve_right fun hbad => hbad.1 rfl]
    exact if_pos hvalid
  · intro hmode
    rcases hdecode with hdecode | ⟨-, -, hdecode⟩ <;> rw [hdecode]
    have hinvalid : isEnvelopeValidForPublish (carried (resolveMode sender.config e) e) = false := by
      cases hresolved : resolveMode sender.config e with
      | legacyPipe => exact absurd hresolved hmode
      | compact | protobufReserved | cborReserved => rfl
    simp only [hinvalid, Bool.false_eq_true, if_false]

/-- **Messages over TCP are handled in their order.**  Two bridges publish to each other.  The messages that a
connection accepts are those whose publish returns `kOk`, each of them once.  Where no failed call has written part of a
frame to a connection and no failed call has read any of it, the messages received at the other end are the first of
them, and all of them once everything written has been read; and the handlers there are invoked for a part of what
arrives, in its order.  A valid envelope arrives, but for its key, if it is sent in the legacy format, and else not. -/
theorem tcp_handled_in_order {bridges : Peer → BridgeState} {turns : Peer → TransportId → Option (List SendEvent)}
    {ops : List (Peer × TcpOp)} {ends : Peer → TcpEnd}
    (hrun : Run (fun ends op ends' => linkStep ends op = some ends') (fun p => .new (bridges p) (turns p)) ops ends)
    (p : Peer) :
    (ends p).published.map PublishedMessage.envelope = (ends p).acknowledged ∧
      (∀ t, (ends p).wire.state.torn t = [] →
        (∀ e ∈ (ends p).publishedOn t, (textOf (bridges p) e).length < 2 ^ 32) →
        ((ends p.other).inbound t).lost = [] →
        ((ends p.other).inbound t).received <+: ((ends p).publishedOn t).map (textOf (bridges p)) ∧
          List.Sublist ((ends p.other).inbound t).handled
            (((ends p).publishedOn t).filterMap (arrivesAt (bridges p) (bridges p.other))) ∧
          (((ends p.other).inbound t).arrived = ((ends p).wire.state.sender t).stream →
            ((ends p.other).inbound t).transport.pending = [] →
            ((ends p.other).inbound t).received = ((ends p).publishedOn t).map (textOf (bridges p)))) ∧
      ∀ e, 1 ≤ e.schemaVersion → isEnvelopeValidForPublish e = true →
        (SentAsLegacy (bridges p).config e →
          arrivesAt (bridges p) (bridges p.other) e = some { e with idempotencyKey := [] }) ∧
        (¬ SentAsLegacy (bridges p).config e → arrivesAt (bridges p) (bridges p.other) e = none) := by
  have hlink : LinkOk bridges ends := by
    refine hrun.invariant (fun _ _ _ h hstep => h.step hstep) ⟨fun q => endOk_new _ _, fun q t => ?_⟩
    exact List.nil_prefix
  have hend := hlink.ok p
  refine ⟨hend.acknowledged, fun t htorn hlengths hlost => ?_, fun e => arrivesAt_of_valid _ _⟩
  have htexts : ((ends p).wire.calls.filterMap (TransportCall.acceptedOn t)).map Prod.fst =
      ((ends p).publishedOn t).map (textOf (bridges p)) := by
    rw [hend.accepted t, TcpEnd.publishedOn, List.map_map, List.map_map]
    rfl
  have hshort : ∀ m ∈ (ends p).wire.calls.filterMap (TransportCall.acceptedOn t), m.1.length < 256 ^ 4 := by
    intro m hm
    have htext := List.mem_map_of_mem (f := Prod.fst) hm
    rw [htexts] at htext
    obtain ⟨e, he, heq⟩ := List.mem_map.1 htext
    exact heq ▸ hlengths e he
  obtain ⟨sent, hsent, hstream⟩ := hend.stream t htorn hshort
  obtain ⟨⟨consumed, harrived, hframes⟩, hhandled⟩ := (hlink.ok p.other).inbound t
  obtain ⟨received, hreceived, rfl⟩ := hframes hlost
  have hcarried := hlink.carries p t
  rw [harrived, hstream] at hcarried
  have hfront := prefix_of_framed_prefix (by decide) ((List.prefix_append _ _).trans hcarried)
  rw [hreceived, hsent, htexts] at hfront
  refine ⟨hfront, ?_, fun heverything hread => ?_⟩
  · have hall := hfront.sublist.filterMap (acceptedEnvelope (bridges p.other).protocolMode)
    rw [List.filterMap_map] at hall
    exact hhandled.trans hall
  · rw [harrived, hread, List.append_nil, hstream] at heverything
    have hback : framed sent <+: framed received := heverything ▸ List.prefix_refl _
    have hsuffix := prefix_of_framed_prefix (by decide) hback
    rw [hreceived, hsent, htexts] at hsuffix
    exact hfront.eq_of_length_le hsuffix.length_le

/-- The frame of a step command. -/
def stepFrame : Bytes :=
  let text := textOf plainBridge MessageCodec.stepCommand
  bigEndian 4 text.length ++ text

/-- A step command is published in pieces, arrives in other pieces and is handled. -/
def sendStep : List (Peer × TcpOp) :=
  [(.near, .publish .vehicle {} MessageCodec.stepCommand), (.far, .arrive .vehicleToRobot .waitTimedOut),
    (.far, .arrive .vehicleToRobot (.received (stepFrame.take 7))),
    (.far, .receive .vehicleToRobot {} {}), (.far, .arrive .vehicleToRobot .recvInterrupted),
    (.far, .arrive .vehicleToRobot (.received (stepFrame.drop 7))),
    (.far, .receive .vehicleToRobot {} { robot := stepRouter })]

def sendStepTurns : Peer → TransportId → Option (List SendEvent)
  | .near, _ => some [.sent 1, .sendInterrupted, .sent 3, .sent 5, .sent 1000]
  | .far, _ => some []

set_option maxRecDepth 4000 in
theorem tcp_handled_in_order_stepCommand :
    ∃ ends : Peer → TcpEnd, sendStep.foldlM linkStep (fun p => .new plainBridge (sendStepTurns p)) = some ends ∧
      ((ends .far).inbound .vehicleToRobot).handled.length = 1 ∧
      ((ends .far).inbound .vehicleToRobot).received =
        ((ends .near).publishedOn .vehicleToRobot).map (textOf plainBridge) := by
  have hexec : (sendStep.foldlM linkStep (fun p => .new plainBridge (sendStepTurns p))).map (fun ends =>
      decide (((ends .far).inbound .vehicleToRobot).handled.length = 1 ∧
        (ends .near).wire.state.torn .vehicleToRobot = [] ∧
        (∀ e ∈ (ends .near).publishedOn .vehicleToRobot, (textOf plainBridge e).length < 2 ^ 32) ∧
        ((ends .far).inbound .vehicleToRobot).lost = [] ∧
        ((ends .far).inbound .vehicleToRobot).arrived = ((ends .near).wire.state.sender .vehicleToRobot).stream ∧
        ((ends .far).inbound .vehicleToRobot).transport.pending = [])) = some true := by decide +kernel
  obtain ⟨ends, hends, hall⟩ := Option.map_eq_some_iff.1 hexec
  obtain ⟨hhandled, htorn, hlengths, hlost, harrived, hpending⟩ := of_decide_eq_true hall
  have horder := tcp_handled_in_order (Run.of_foldlM hends) .near
  exact ⟨ends, hends, hhandled, (horder.2.1 .vehicleToRobot htorn hlengths hlost).2.2 harrived hpending⟩

end VehicleBridge
