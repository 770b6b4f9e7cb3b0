import VehicleBridge.Interconnect.MessageProtocolAdapter
import VehicleBridge.Interconnect.PosixMqTransport
import VehicleBridge.Lib.Threads
import VehicleBridge.Lib.Transition

/-!
# Strings through a message queue

Any number of `PosixMessageQueue`s on one kernel queue.  What the queue is for is to carry strings: over its messages
stands the queue of the strings that were put into it (`QueueRun.pending`), and every call on the messages is one on the
strings (`Carries.exec`).  A string that is taken out arrives cut at its first zero byte, so that the round trip
is exact for the strings without one (`queue_round_trip_iff`).
-/

namespace VehicleBridge

open ByteText Transition

/-- A queue object of a process, with what the kernel keeps for its descriptor. -/
structure QueueEnd where
  queue : PosixMessageQueue
  isOpen : Bool := true
  nonBlocking : Bool := false
  deriving DecidableEq, Repr

/-- A string taken out of the queue, and the reply to the receive that took it. -/
structure QueueDelivery where
  sent : Bytes
  reply : QueueReply (Bytes × UInt32)
  deriving DecidableEq, Repr

/-- The kernel's queue and the objects on it; the strings put into it and not yet taken out, with their priorities, and
what has become of the others. -/
structure QueueRun where
  kernel : MqQueue
  ends : List QueueEnd
  pending : List (Bytes × UInt32) := []
  delivered : List QueueDelivery := []

inductive QueueOp
  | send (i : Nat) (message : Bytes) (priority : UInt32) (timeoutMs : Int64) (interrupted : Bool)
  | sendNonBlocking (i : Nat) (message : Bytes) (priority : UInt32)
  | receive (i : Nat) (timeoutMs : Int64) (interrupted : Bool) (out : Bytes × UInt32)
  | receiveNonBlocking (i : Nat) (out : Bytes × UInt32)
  | close (i : Nat)

namespace QueueRun

/-- The kernel's view of an end. -/
def descriptor (e : QueueEnd) (r : QueueRun) : MqDescriptor :=
  { isOpen := e.isOpen, nonBlocking := e.nonBlocking, queue := r.kernel }

/-- The queue and the end after a call. -/
def settle (i : Nat) (e : QueueEnd) (d : MqDescriptor) (r : QueueRun) : QueueRun :=
  { r with
    kernel := d.queue
    ends := r.ends.set i { e with isOpen := d.isOpen, nonBlocking := d.nonBlocking } }

/-- After a send: the string is pending if there is a message more. -/
def noteSend (i : Nat) (e : QueueEnd) (message : Bytes) (priority : UInt32) (d : MqDescriptor) (r : QueueRun) :
    QueueRun :=
  { r.settle i e d with
    pending := if r.kernel.messages.length < d.queue.messages.length then r.pending ++ [(message, priority)]
      else r.pending }

def rank (s : Bytes × UInt32) : Nat :=
  s.2.toNat

/-- After a receive: if there is a message less, the first of the strings of the highest priority is delivered. -/
def noteReceive (i : Nat) (e : QueueEnd) (reply : QueueReply (Bytes × UInt32)) (d : MqDescriptor) (r : QueueRun) :
    QueueRun :=
  if d.queue.messages.length < r.kernel.messages.length then
    match PriorityFifo.take rank r.pending with
    | some (s, rest) =>
      { r.settle i e d with pending := rest, delivered := r.delivered ++ [{ sent := s.1, reply }] }
    | none => r.settle i e d
  else r.settle i e d

def exec (r : QueueRun) : QueueOp → Option QueueRun
  | .send i message priority timeoutMs interrupted => r.ends[i]?.map fun e =>
    let result := e.queue.sendWithTimeout message priority timeoutMs interrupted (r.descriptor e)
    r.noteSend i e message priority result.2
  | .sendNonBlocking i message priority => r.ends[i]?.map fun e =>
    let result := e.queue.sendNonBlocking message priority (r.descriptor e)
    r.noteSend i e message priority result.2
  | .receive i timeoutMs interrupted out => r.ends[i]?.map fun e =>
    let result := e.queue.receiveWithTimeout timeoutMs interrupted out (r.descriptor e)
    r.noteReceive i e result.1 result.2
  | .receiveNonBlocking i out => r.ends[i]?.map fun e =>
    let result := e.queue.receiveNonBlocking out (r.descriptor e)
    r.noteReceive i e result.1 result.2
  | .close i => r.ends[i]?.map fun e =>
    { r with ends := r.ends.set i { e with queue := e.queue.close, isOpen := false } }

end QueueRun

/-! ### Messages and strings -/

/-- The message that a string is sent as. -/
def messageOf (s : Bytes × UInt32) : MqMessage :=
  { bytes := cStr s.1, priority := s.2 }

/-- A receive that takes a string returns what is before its first zero byte. -/
def QueueDelivery.Cut (x : QueueDelivery) : Prop :=
  ∃ priority, x.reply = .returned .ok (x.sent.takeWhile (· ≠ 0), priority)

/-- The messages of the kernel's queue are the pending strings, and every delivered string is cut. -/
structure Carries (r : QueueRun) : Prop where
  messages : r.kernel.messages = r.pending.map messageOf
  delivered : ∀ x ∈ r.delivered, x.Cut

theorem take_messageOf {pending : List (Bytes × UInt32)} {m : MqMessage} {rest : List MqMessage}
    (h : PriorityFifo.take MqMessage.rank (pending.map messageOf) = some (m, rest)) :
    ∃ s strings, PriorityFifo.take QueueRun.rank pending = some (s, strings) ∧ m = messageOf s ∧
      rest = strings.map messageOf := by
  rw [PriorityFifo.take_map] at h
  obtain ⟨⟨s, strings⟩, htake, heq⟩ := Option.map_eq_some_iff.1 h
  cases heq
  exact ⟨s, strings, htake, rfl, rfl⟩

private theorem Carries.noteSend {r : QueueRun} (hr : Carries r) {i : Nat} {e : QueueEnd} {message : Bytes}
    {priority : UInt32} {reply : QueueReply Unit} {d : MqDescriptor}
    (h : SendEffect message priority r.kernel.messages reply d.queue.messages) :
    Carries (r.noteSend i e message priority d) := by
  refine ⟨?_, hr.delivered⟩
  show d.queue.messages = List.map messageOf (if _ then _ else _)
  generalize d.queue.messages = after at h
  cases h with
  | kept => rw [if_neg (Nat.lt_irrefl _), hr.messages]
  | sent =>
    rw [if_pos (by simp), List.map_append, hr.messages]
    rfl

private theorem Carries.noteReceive {r : QueueRun} (hr : Carries r) {i : Nat} {e : QueueEnd} {size : Nat}
    {reply : QueueReply (Bytes × UInt32)} {d : MqDescriptor}
    (h : ReceiveEffect size r.kernel.messages reply d.queue.messages) : Carries (r.noteReceive i e reply d) := by
  unfold QueueRun.noteReceive
  generalize hafter : d.queue.messages = after at h
  cases h with
  | kept =>
    rw [if_neg (Nat.lt_irrefl _)]
    exact ⟨hafter.trans hr.messages, hr.delivered⟩
  | taken error out d' htake =>
    have hshorter : after.length < r.kernel.messages.length := by
      have hlength := PriorityFifo.take_length htake
      omega
    rw [if_pos hshorter]
    rw [hr.messages] at htake
    obtain ⟨s, strings, hstrings, rfl, rfl⟩ := take_messageOf htake
    rw [hstrings]
    refine ⟨hafter, fun x hx => ?_⟩
    rcases List.mem_append.1 hx with hx | hx
    · exact hr.delivered x hx
    · rw [List.mem_singleton.1 hx]
      refine ⟨s.2, ?_⟩
      simp only [receiveReply, messageOf, assignCStr_received]

/-- **The step lemma**: the messages go on carrying the strings. -/
theorem Carries.exec {r r' : QueueRun} (hr : Carries r) {op : QueueOp} (h : r.exec op = some r') : Carries r' := by
  cases op with
  | send i message priority timeoutMs interrupted =>
    obtain ⟨e, -, rfl⟩ := Option.map_eq_some_iff.1 h
    exact hr.noteSend (e.queue.sendWithTimeout_effect message priority timeoutMs interrupted (r.descriptor e))
  | sendNonBlocking i message priority =>
    obtain ⟨e, -, rfl⟩ := Option.map_eq_some_iff.1 h
    exact hr.noteSend (e.queue.sendNonBlocking_effect message priority (r.descriptor e))
  | receive i timeoutMs interrupted out =>
    obtain ⟨e, -, rfl⟩ := Option.map_eq_some_iff.1 h
    exact hr.noteReceive (e.queue.receiveWithTimeout_effect timeoutMs interrupted out (r.descriptor e))
  | receiveNonBlocking i out =>
    obtain ⟨e, -, rfl⟩ := Option.map_eq_some_iff.1 h
    exact hr.noteReceive (e.queue.receiveNonBlocking_effect out (r.descriptor e))
  | close i =>
    obtain ⟨e, -, rfl⟩ := Option.map_eq_some_iff.1 h
    exact ⟨hr.messages, hr.delivered⟩

theorem carries_of_run {kernel : MqQueue} {ends : List QueueEnd} {ops : List QueueOp} {r : QueueRun}
    (hnew : kernel.messages = []) (hrun : Run (fun r op r' => r.exec op = some r') { kernel, ends } ops r) :
    Carries r :=
  hrun.invariant (fun _ _ _ hr h => hr.exec h) ⟨hnew, fun _ h => absurd h List.not_mem_nil⟩

/-! ### The round trip -/

/-- The receive that took the string out returned it with `kOk`. -/
def QueueDelivery.Exact (x : QueueDelivery) : Prop :=
  ∃ priority, x.reply = .returned .ok (x.sent, priority)

theorem QueueDelivery.Cut.exact_iff {x : QueueDelivery} (h : x.Cut) : x.Exact ↔ 0 ∉ x.sent := by
  obtain ⟨priority, hreply⟩ := h
  unfold QueueDelivery.Exact
  rw [hreply, ← takeWhile_ne_zero_eq_self_iff]
  constructor
  · rintro ⟨priority', heq⟩
    simp only [QueueReply.returned.injEq, Prod.mk.injEq] at heq
    exact heq.2.1
  · intro heq
    exact ⟨priority, by rw [heq]⟩

private theorem zero_not_mem_decimal (n : Nat) : (0 : UInt8) ∉ decimal n :=
  not_mem_decimal (by decide)

private theorem zero_mem_escapeField_iff {field : Bytes} : 0 ∈ escapeField field ↔ 0 ∈ field :=
  Delimited.mem_escape_iff (by decide)

/-- No text field of the envelope has a zero byte. -/
structure ZeroFree (e : MessageEnvelope) : Prop where
  source : 0 ∉ e.source
  target : 0 ∉ e.target
  topic : 0 ∉ e.topic
  traceId : 0 ∉ e.traceId
  payload : 0 ∉ e.payload

/-- The zero bytes of a legacy text are those of the envelope's text fields. -/
theorem zero_not_mem_legacy_iff (e : MessageEnvelope) :
    0 ∉ (encodeByProtocol .legacyPipe e).2 ↔ ZeroFree e := by
  have hheader : (0 : UInt8) ∉ kProtocolPrefix ++ (protocolTag .legacyPipe ++ kProtocolSep ::
      (kVersionPrefix ++ decimal (protocolWireVersion .legacyPipe).toNat ++ [kProtocolSep])) := by
    decide
  have htext : (encodeByProtocol .legacyPipe e).2 = kProtocolPrefix ++ (protocolTag .legacyPipe ++ kProtocolSep ::
      (kVersionPrefix ++ decimal (protocolWireVersion .legacyPipe).toNat ++ [kProtocolSep])) ++
        (MessageCodec.encode e).2 := by
    rw [encodeByProtocol_eq]
    simp [wrapEnvelopeHeader, encodeBody]
  have hchannel : (0 : UInt8) ∉ channelToString e.channel := by
    cases e.channel <;> decide
  have hqos : (0 : UInt8) ∉ qosToString e.qos := by
    cases e.qos <;> decide
  rw [htext, List.mem_append, or_iff_right hheader]
  unfold MessageCodec.encode
  rw [Delimited.mem_join_iff (by decide)]
  simp only [MessageCodec.fullFields, List.exists_mem_cons_iff, List.not_mem_nil, false_and, exists_false, or_false,
    zero_not_mem_decimal, hchannel, hqos, false_or, zero_mem_escapeField_iff, not_or]
  constructor
  · rintro ⟨hsource, htarget, htopic, htrace, hpayload⟩
    exact ⟨hsource, htarget, htopic, htrace, hpayload⟩
  · rintro ⟨hsource, htarget, htopic, htrace, hpayload⟩
    exact ⟨hsource, htarget, htopic, htrace, hpayload⟩

/-- **The queue round trip.**  An open queue refuses with `kInvalidParam` exactly the strings that do not fit.  In any
run over a new queue, a string that is taken out has arrived unchanged exactly where it has no zero byte, and a legacy
text where no text field of its envelope has one. -/
theorem queue_round_trip_iff {kernel : MqQueue} {ends : List QueueEnd} {ops : List QueueOp} {r : QueueRun}
    (hnew : kernel.messages = []) (hrun : Run (fun r op r' => r.exec op = some r') { kernel, ends } ops r) :
    (∀ (q : PosixMessageQueue) (d : MqDescriptor) (message : Bytes) (priority : UInt32), 0 ≤ q.mqd →
        0 < q.messageSize →
        ((q.sendNonBlocking message priority d).1 = .returned .invalidParam () ↔
            q.messageSize.toInt ≤ message.length) ∧
          ∀ timeoutMs interrupted,
            ((q.sendWithTimeout message priority timeoutMs interrupted d).1 = .returned .invalidParam () ↔
              q.messageSize.toInt ≤ message.length)) ∧
      ∀ x ∈ r.delivered,
        (x.Exact ↔ 0 ∉ x.sent) ∧ ∀ e, x.sent = (encodeByProtocol .legacyPipe e).2 → (x.Exact ↔ ZeroFree e) := by
  constructor
  · intro q d message priority hopen hsize
    rw [PosixMessageQueue.sendNonBlocking_invalidParam_iff, PosixMessageQueue.refusesSend_iff hopen hsize]
    refine ⟨Iff.rfl, fun timeoutMs interrupted => ?_⟩
    rw [PosixMessageQueue.sendWithTimeout_invalidParam_iff, PosixMessageQueue.refusesSend_iff hopen hsize]
  · intro x hx
    have hexact := ((carries_of_run hnew hrun).delivered x hx).exact_iff
    refine ⟨hexact, fun e he => ?_⟩
    rw [hexact, he]
    exact zero_not_mem_legacy_iff e

/-- A new queue with one object on it, as `Create` leaves it. -/
def newQueueRun : QueueRun :=
  { kernel := { maxMsg := 10, msgSize := 256 }
    ends := [{ queue := (PosixMessageQueue.create {} 3 {}).2 }] }

/-- A string is sent with a timeout and received without one. -/
def roundTripOps (message : Bytes) : List QueueOp :=
  [.send 0 message 1 50 false, .receiveNonBlocking 0 ([], 0)]

theorem queue_round_trip_step :
    ∃ r, (roundTripOps (text "step")).foldlM QueueRun.exec newQueueRun = some r ∧
      ∀ x ∈ r.delivered, x.Exact ↔ 0 ∉ x.sent := by
  have hsome : ((roundTripOps (text "step")).foldlM QueueRun.exec newQueueRun).isSome = true := by decide
  obtain ⟨r, hr⟩ := Option.isSome_iff_exists.1 hsome
  exact ⟨r, hr, fun x hx => ((queue_round_trip_iff rfl (Run.of_foldlM hr)).2 x hx).1⟩

/-- Of three bytes with a zero in the middle the first one arrives. -/
theorem queue_round_trip_fails : ¬ ∀ (kernel : MqQueue) (ends : List QueueEnd) (ops : List QueueOp) (r : QueueRun),
    kernel.messages = [] → (∀ e ∈ ends, 0 ≤ e.queue.mqd ∧ 0 < e.queue.messageSize) →
      Run (fun r op r' => r.exec op = some r') { kernel, ends } ops r → ∀ x ∈ r.delivered, x.Exact := by
  intro h
  have hexec : ((roundTripOps [97, 0, 98]).foldlM QueueRun.exec newQueueRun).map QueueRun.delivered =
      some [{ sent := [97, 0, 98], reply := .returned .ok ([97], 1) }] := by decide
  obtain ⟨r, hr, hdelivered⟩ := Option.map_eq_some_iff.1 hexec
  have hends : ∀ e ∈ newQueueRun.ends, 0 ≤ e.queue.mqd ∧ 0 < e.queue.messageSize := by decide
  have hexact := h _ _ _ r rfl hends (Run.of_foldlM hr) { sent := [97, 0, 98], reply := .returned .ok ([97], 1) }
    (by rw [hdelivered]; exact List.mem_singleton.2 rfl)
  obtain ⟨priority, heq⟩ := hexact
  cases heq

end VehicleBridge
