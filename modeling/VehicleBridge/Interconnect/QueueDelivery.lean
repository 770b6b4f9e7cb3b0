import VehicleBridge.Interconnect.Delivery
import VehicleBridge.Interconnect.QueueRoundTrip
import VehicleBridge.Interconnect.Setup

/-!
# The order of delivery

A bridge over two POSIX message queues.  Before each call of a publish goes through, and while it sleeps between its
retries, the inbound loops may receive; each of them processes what it has received in its order.

A queue does not keep the order of its messages, but that of the messages of one priority.  So of each priority a loop
receives strings that were accepted, in the order in which they were accepted, and only a discard makes a gap
(`LineOk`).  `handled_in_order` says the same of publishers and handlers, over any run.
-/

namespace VehicleBridge

open ByteText Transition PriorityFifo

/-! ### Two message queues as the transports of a bridge -/

/-- A message queue of the bridge: the transport on it, what the kernel keeps for it, and the strings that the inbound
loop of the transport has received. -/
structure MqLine where
  transport : PosixMqTransport := {}
  descriptor : MqDescriptor
  received : List (Bytes × UInt32) := []

/-- What the loop takes from a reply. -/
def receivedFrom : QueueReply (Bytes × UInt32) → List (Bytes × UInt32)
  | .returned .ok content => [content]
  | _ => []

/-- A call of `ReceiveWithTimeout` by the inbound loop. -/
def MqLine.receive (timeoutMs : Int64) (line : MqLine) : MqLine :=
  let result := line.transport.receiveWithTimeout timeoutMs false ([], 0) line.descriptor
  { line with descriptor := result.2, received := line.received ++ receivedFrom result.1 }

/-- What happens before a call goes through: the receives of the loops, with their timeouts, and whether a signal
interrupts the call. -/
structure Meanwhile where
  receives : List (TransportId × Int64) := []
  interrupted : Bool := false

/-- The two queues, and what is going to happen before each call. -/
structure MqNet where
  line : TransportId → MqLine
  script : List Meanwhile := []

namespace MqNet

def modify (t : TransportId) (f : MqLine → MqLine) (net : MqNet) : MqNet :=
  { net with line := Function.update net.line t (f (net.line t)) }

def receive (net : MqNet) (call : TransportId × Int64) : MqNet :=
  net.modify call.1 (MqLine.receive call.2)

def interrupted (net : MqNet) : Bool :=
  (net.script.headD {}).interrupted

/-- The loops receive what they receive before the next call. -/
def pass (net : MqNet) : MqNet :=
  (net.script.headD {}).receives.foldl receive { net with script := net.script.tail }

end MqNet

/-- The code of a reply.  A call that does not return is given an error: what a run does behind it, the program does
not. -/
def replyCode (failed : ErrorCode) : QueueReply Unit → ErrorCode
  | .returned ec () => ec
  | .waits | .terminates | .overreads => failed

def mqTransports : Transports MqNet where
  caps _ := PosixMqTransport.caps
  sendWithTimeout t message priority timeoutMs net :=
    let line := net.pass.line t
    let result := line.transport.sendWithTimeout message priority timeoutMs net.interrupted line.descriptor
    (replyCode .queueSendFailed result.1, net.pass.modify t fun line => { line with descriptor := result.2 })
  discardOldest t net :=
    let line := net.pass.line t
    let result := line.transport.discardOldest line.descriptor
    (replyCode .queueReceiveFailed result.1, net.pass.modify t fun line => { line with descriptor := result.2 })
  sleepFor _ net := net.pass

/-! ### Runs -/

/-- A message that a queue has accepted. -/
structure PublishedMessage where
  transport : TransportId
  priority : UInt32
  envelope : MessageEnvelope
  deriving DecidableEq, Repr

/-- A message that a handler was invoked for. -/
structure HandledMessage where
  transport : TransportId
  priority : UInt32
  envelope : MessageEnvelope
  deriving DecidableEq, Repr

/-- A bridge with its queues: the envelopes whose publish has returned `kOk`, the messages that the queues have
accepted, how many of the received strings each loop has processed, and what the handlers have been invoked for. -/
structure QueueBridge where
  bridge : BridgeState
  wire : Wire MqNet
  acknowledged : List MessageEnvelope := []
  published : List PublishedMessage := []
  processed : TransportId → Nat := fun _ => 0
  handled : List HandledMessage := []

inductive QueueBridgeOp
  | publish (origin : Side) (env : PublishEnv) (envelope : MessageEnvelope)
  | receive (t : TransportId) (timeoutMs : Int64)
  | process (t : TransportId) (env : InboundEnv) (routers : Routers)

/-- The message that a call of a publish has handed over. -/
def publishedBy (envelope : MessageEnvelope) : TransportCall → Option PublishedMessage
  | .sendWithTimeout transport _ priority _ result =>
    if result = .ok then some { transport, priority, envelope } else none
  | .discardOldest .. => none

namespace QueueBridge

def exec (r : QueueBridge) : QueueBridgeOp → Option QueueBridge
  | .publish origin env envelope =>
    (publishFrom mqTransports origin env envelope r.bridge r.wire).map fun result =>
      { r with
        bridge := result.2.1
        wire := result.2.2
        acknowledged := r.acknowledged ++ if result.1 = .ok then [envelope] else []
        published := r.published ++ (result.2.2.calls.drop r.wire.calls.length).filterMap (publishedBy envelope) }
  | .receive t timeoutMs => some { r with wire := { r.wire with state := r.wire.state.receive (t, timeoutMs) } }
  | .process t env routers =>
    (r.wire.state.line t).received[r.processed t]?.map fun message =>
      let round := inboundLoop t env routers (.ok, message.1) r.bridge
      { r with
        bridge := round.2
        processed := Function.update r.processed t (r.processed t + 1)
        handled := r.handled ++ (invocationsOf t message.1 round.1).map fun i =>
          { transport := t, priority := message.2, envelope := i.envelope } }

/-- What has been accepted on a transport with a priority, in order. -/
def publishedOn (t : TransportId) (priority : UInt32) (r : QueueBridge) : List MessageEnvelope :=
  (r.published.filter fun p => p.transport = t ∧ p.priority = priority).map PublishedMessage.envelope

/-- What has been received from a transport with a priority, in order. -/
def receivedOn (t : TransportId) (priority : UInt32) (r : QueueBridge) : List Bytes :=
  ((r.wire.state.line t).received.filter fun m => m.2 = priority).map Prod.fst

/-- What the handlers have been invoked for from a transport with a priority, in order. -/
def handledOn (t : TransportId) (priority : UInt32) (r : QueueBridge) : List MessageEnvelope :=
  (r.handled.filter fun h => h.transport = t ∧ h.priority = priority).map HandledMessage.envelope

end QueueBridge

/-- The envelope that a loop finds in a text, if it accepts it. -/
def acceptedEnvelope (mode : MessageProtocolMode) (message : Bytes) : Option MessageEnvelope :=
  match decodeByProtocol mode message {} with
  | .ok (.ok, envelope) => if isEnvelopeValidForPublish envelope then some envelope else none
  | _ => none

/-- The text that a bridge sends of an envelope. -/
def textOf (s : BridgeState) (e : MessageEnvelope) : Bytes :=
  (encodeByProtocol (resolveMode s.config e) e).2

/-- What a handler sees of an envelope, if the loop accepts its text. -/
def arrivesAs (s : BridgeState) (e : MessageEnvelope) : Option MessageEnvelope :=
  acceptedEnvelope s.protocolMode (cString (textOf s e))

/-! ### What a queue takes in and gives out -/

/-- A string with its priority, as it is received. -/
def cut (s : Bytes × UInt32) : Bytes × UInt32 :=
  (cString s.1, s.2)

/-- A string that a transport has accepted with this call, with its priority. -/
def TransportCall.acceptedOn (t : TransportId) : TransportCall → Option (Bytes × UInt32)
  | .sendWithTimeout transport message priority _ result =>
    if transport = t ∧ result = .ok then some (message, priority) else none
  | .discardOldest .. => none

def TransportCall.DiscardsOn (t : TransportId) : TransportCall → Prop
  | .discardOldest transport _ => transport = t
  | .sendWithTimeout .. => False

section
variable {t transport : TransportId} {message : Bytes} {priority : UInt32} {timeoutMs : Int64} {result : ErrorCode}

theorem acceptedOn_of_ok (h : transport = t ∧ result = .ok) :
    TransportCall.acceptedOn t (.sendWithTimeout transport message priority timeoutMs result) =
      some (message, priority) :=
  if_pos h

theorem acceptedOn_of_not (h : ¬ (transport = t ∧ result = .ok)) :
    TransportCall.acceptedOn t (.sendWithTimeout transport message priority timeoutMs result) = none :=
  if_neg h

end

/-- The queue of a transport: of what it has accepted it has given out some, each priority in its order, and holds the
rest; and of what it has given out the loop has received everything but what was discarded. -/
structure LineOk (t : TransportId) (calls : List TransportCall) (line : MqLine)
    (taken pending : List (Bytes × UInt32)) : Prop where
  messages : line.descriptor.queue.messages = pending.map messageOf
  passed : Passed QueueRun.rank (calls.filterMap (TransportCall.acceptedOn t)) taken pending
  received : List.Sublist line.received (taken.map cut)
  exact : (∀ c ∈ calls, ¬ c.DiscardsOn t) → line.received = taken.map cut

private theorem receiveReply_messageOf (error : Errno → ErrorCode) (size : Nat) (out : Bytes × UInt32)
    (s : Bytes × UInt32)
    (d : MqDescriptor) : receiveReply error size out (.done (messageOf s) d) = .returned .ok (cut s) := by
  simp only [receiveReply, messageOf, assignCStr_received]
  rfl

/-- A receive with a timeout is no success and leaves the messages alone, or it takes one. -/
inductive TimedReceive (size : Nat) (before : List MqMessage) : QueueReply (Bytes × UInt32) → List MqMessage → Prop
  | kept {reply : QueueReply (Bytes × UInt32)} : (∀ content, reply ≠ .returned .ok content) →
      TimedReceive size before reply before
  | taken {m : MqMessage} {rest : List MqMessage} (error : Errno → ErrorCode) (out : Bytes × UInt32)
      (d : MqDescriptor) :
      PriorityFifo.take MqMessage.rank before = some (m, rest) →
      TimedReceive size before (receiveReply error size out (.done m d)) rest

private theorem mqReceive_timed {wait : Wait} {d : MqDescriptor} {error : Errno → ErrorCode} {out : Bytes × UInt32}
    (herror : ∀ errno, error errno ≠ .ok) (size : Nat) :
    TimedReceive size d.queue.messages (receiveReply error size out (mqReceive size wait d))
      ((mqReceive size wait d).descriptor d).queue.messages := by
  cases h : mqReceive size wait d with
  | done m d' =>
    obtain ⟨-, -, rest, htake, rfl⟩ := mqReceive_eq_done h
    exact .taken error out _ htake
  | failed errno =>
    refine .kept fun content heq => herror errno ?_
    exact (QueueReply.returned.inj heq).1
  | waits => exact .kept fun content => by simp [receiveReply]

theorem PosixMessageQueue.receiveWithTimeout_timed (timeoutMs : Int64) (interrupted : Bool) (out : Bytes × UInt32)
    (q : PosixMessageQueue) (d : MqDescriptor) :
    TimedReceive (sizeT q.messageSize) d.queue.messages (q.receiveWithTimeout timeoutMs interrupted out d).1
      (q.receiveWithTimeout timeoutMs interrupted out d).2.queue.messages := by
  unfold receiveWithTimeout
  split
  · exact .kept fun content => by simp
  split
  · exact .kept fun content => by simp
  split
  · exact mqReceive_timed (fun _ => by decide) _
  · exact mqReceive_timed (timedError_ne (by decide) (by decide) (by decide)) _

section
variable {t : TransportId} {calls : List TransportCall} {line : MqLine} {taken pending : List (Bytes × UInt32)}

/-- A receive adds what it takes to what the loop has received. -/
theorem LineOk.receive (h : LineOk t calls line taken pending) (timeoutMs : Int64) :
    line.received <+: (line.receive timeoutMs).received ∧
      ∃ taken pending, LineOk t calls (line.receive timeoutMs) taken pending := by
  have heffect := line.transport.queue.receiveWithTimeout_timed timeoutMs false ([], 0) line.descriptor
  unfold MqLine.receive PosixMqTransport.receiveWithTimeout
  generalize line.transport.queue.receiveWithTimeout timeoutMs false ([], 0) line.descriptor = result at heffect
  obtain ⟨reply, d⟩ := result
  simp only at heffect ⊢
  generalize hafter : d.queue.messages = after at heffect
  cases heffect with
  | kept hne =>
    have hnothing : receivedFrom reply = [] := by
      unfold receivedFrom
      split
      · next content => exact absurd rfl (hne content)
      · rfl
    rw [hnothing, List.append_nil]
    exact ⟨List.prefix_refl _, taken, pending, hafter.trans h.messages, h.passed, h.received, h.exact⟩
  | taken error out d' htake =>
    rw [h.messages] at htake
    obtain ⟨s, rest, hrest, rfl, rfl⟩ := take_messageOf htake
    rw [receiveReply_messageOf]
    refine ⟨List.prefix_append _ _, taken ++ [s], rest, hafter, h.passed.take hrest, ?_, fun hnone => ?_⟩
    · rw [List.map_append]
      exact h.received.append (List.Sublist.refl _)
    · rw [List.map_append, ← h.exact hnone]
      rfl

/-- A call on the other transport leaves the queue of this one alone. -/
theorem LineOk.other (h : LineOk t calls line taken pending) {c : TransportCall} (hc : c.transport ≠ t) :
    LineOk t (calls ++ [c]) line taken pending := by
  have hnone : c.acceptedOn t = none := by
    cases c with
    | sendWithTimeout => exact acceptedOn_of_not fun h => hc h.1
    | discardOldest => rfl
  refine ⟨h.messages, ?_, h.received, fun hdiscards => h.exact fun c' hc' => hdiscards c' ?_⟩
  · rw [List.filterMap_append, List.filterMap_cons_none hnone, List.filterMap_nil, List.append_nil]
    exact h.passed
  · exact List.mem_append_left _ hc'

/-- A send adds what it puts into the queue to what was accepted. -/
theorem LineOk.send (h : LineOk t calls line taken pending) {message : Bytes} {priority : UInt32} {timeoutMs : Int64}
    {reply : QueueReply Unit} {d : MqDescriptor}
    (heffect : SendEffect message priority line.descriptor.queue.messages reply d.queue.messages) :
    ∃ pending, LineOk t (calls ++ [.sendWithTimeout t message priority timeoutMs (replyCode .queueSendFailed reply)])
      { line with descriptor := d } taken pending := by
  have hdiscards : ∀ {c : TransportCall}, (∀ c' ∈ calls ++ [c], ¬ c'.DiscardsOn t) → line.received = taken.map cut :=
    fun hnone => h.exact fun c' hc' => hnone c' (List.mem_append_left _ hc')
  generalize hafter : d.queue.messages = after at heffect
  cases heffect with
  | kept hne =>
    have hfailed : replyCode .queueSendFailed reply ≠ .ok := by
      intro hok
      cases reply with
      | returned ec content =>
        refine hne ?_
        rw [← show ec = .ok from hok]
      | waits | terminates | overreads => cases hok
    refine ⟨pending, hafter.trans h.messages, ?_, h.received, hdiscards⟩
    rw [List.filterMap_append, List.filterMap_cons_none (acceptedOn_of_not fun h => hfailed h.2), List.filterMap_nil,
      List.append_nil]
    exact h.passed
  | sent =>
    have hok : replyCode .queueSendFailed (.returned .ok ()) = .ok := rfl
    refine ⟨pending ++ [(message, priority)], ?_, ?_, h.received, hdiscards⟩
    · rw [hafter, h.messages, List.map_append]
      rfl
    · rw [List.filterMap_append, List.filterMap_cons_some (acceptedOn_of_ok ⟨rfl, hok⟩), List.filterMap_nil]
      exact h.passed.arrive _

/-- A discard takes what the loop is not going to receive. -/
theorem LineOk.discard (h : LineOk t calls line taken pending) (ec : ErrorCode) :
    ∃ taken pending, LineOk t (calls ++ [.discardOldest t ec])
      { line with descriptor := (line.transport.discardOldest line.descriptor).2 } taken pending := by
  have heffect := line.transport.queue.receiveNonBlocking_effect ([], 0) line.descriptor
  have haccepted : (calls ++ [TransportCall.discardOldest t ec]).filterMap (TransportCall.acceptedOn t) =
      calls.filterMap (TransportCall.acceptedOn t) := by
    rw [List.filterMap_append]
    exact List.append_nil _
  have hdiscards : ¬ ∀ c ∈ calls ++ [TransportCall.discardOldest t ec], ¬ c.DiscardsOn t := by
    intro hnone
    exact hnone _ (List.mem_append_right _ (List.mem_singleton.2 rfl)) rfl
  unfold PosixMqTransport.discardOldest
  generalize line.transport.queue.receiveNonBlocking ([], 0) line.descriptor = result at heffect
  obtain ⟨reply, d⟩ := result
  simp only at heffect ⊢
  generalize hafter : d.queue.messages = after at heffect
  cases heffect with
  | kept =>
    exact ⟨taken, pending, hafter.trans h.messages, haccepted ▸ h.passed, h.received,
      fun hnone => absurd hnone hdiscards⟩
  | taken error out d' htake =>
    rw [h.messages] at htake
    obtain ⟨s, rest, hrest, rfl, rfl⟩ := take_messageOf htake
    refine ⟨taken ++ [s], rest, hafter, haccepted ▸ h.passed.take hrest, ?_, fun hnone => absurd hnone hdiscards⟩
    rw [List.map_append]
    exact h.received.trans (List.sublist_append_left _ _)

end

/-! ### What the two queues keep -/

/-- Both queues, with all that was received at some earlier time. -/
structure NetOk (earlier : MqNet) (calls : List TransportCall) (net : MqNet) : Prop where
  line : ∀ t, ∃ taken pending, LineOk t calls (net.line t) taken pending
  grown : ∀ t, (earlier.line t).received <+: (net.line t).received

section
variable {earlier net : MqNet} {calls : List TransportCall}

theorem NetOk.receive (h : NetOk earlier calls net) (call : TransportId × Int64) :
    NetOk earlier calls (net.receive call) := by
  obtain ⟨t, timeoutMs⟩ := call
  unfold MqNet.receive MqNet.modify
  refine ⟨fun t' => ?_, fun t' => ?_⟩
  · by_cases ht : t' = t
    · subst ht
      obtain ⟨taken, pending, hline⟩ := h.line t'
      simp only [Function.update_self]
      exact (hline.receive timeoutMs).2
    · simp only [Function.update_of_ne ht]
      exact h.line t'
  · by_cases ht : t' = t
    · subst ht
      obtain ⟨taken, pending, hline⟩ := h.line t'
      simp only [Function.update_self]
      exact (h.grown t').trans (hline.receive timeoutMs).1
    · simp only [Function.update_of_ne ht]
      exact h.grown t'

theorem NetOk.pass (h : NetOk earlier calls net) : NetOk earlier calls net.pass := by
  have hall : ∀ (receives : List (TransportId × Int64)) (net : MqNet), NetOk earlier calls net →
      NetOk earlier calls (receives.foldl MqNet.receive net) := by
    intro receives
    induction receives with
    | nil => exact fun _ hnet => hnet
    | cons call receives ih => exact fun _ hnet => ih _ (hnet.receive call)
  exact hall _ _ ⟨h.line, h.grown⟩

/-- A call on a transport that leaves what the loop has received alone. -/
theorem NetOk.call (h : NetOk earlier calls net) {c : TransportCall} {d : MqDescriptor}
    (hc : ∀ taken pending, LineOk c.transport calls (net.line c.transport) taken pending →
      ∃ taken pending, LineOk c.transport (calls ++ [c]) { net.line c.transport with descriptor := d } taken pending) :
    NetOk earlier (calls ++ [c]) (net.modify c.transport fun line => { line with descriptor := d }) := by
  unfold MqNet.modify
  refine ⟨fun t' => ?_, fun t' => ?_⟩
  · obtain ⟨taken, pending, hline⟩ := h.line t'
    by_cases ht : t' = c.transport
    · subst ht
      simp only [Function.update_self]
      exact hc taken pending hline
    · simp only [Function.update_of_ne ht]
      exact ⟨taken, pending, hline.other (Ne.symm ht)⟩
  · by_cases ht : t' = c.transport
    · subst ht
      simp only [Function.update_self]
      exact h.grown _
    · simp only [Function.update_of_ne ht]
      exact h.grown t'

private theorem netOk_keptByCalls (earlier : MqNet) :
    KeptByCalls mqTransports fun w => NetOk earlier w.calls w.state where
  send t message priority timeoutMs w hw := by
    refine hw.pass.call (c := .sendWithTimeout t message priority timeoutMs _) fun taken pending hline => ?_
    exact ⟨taken, hline.send (PosixMessageQueue.sendWithTimeout_effect ..)⟩
  discard t w hw := by
    refine hw.pass.call (c := .discardOldest t _) fun taken pending hline => ?_
    exact hline.discard _
  sleep _ _ hw := hw.pass

end

/-! ### What a publish adds -/

section
variable {e : MessageEnvelope}

private theorem map_envelope_publishedBy (calls : List TransportCall) :
    (calls.filterMap (publishedBy e)).map PublishedMessage.envelope =
      List.replicate (calls.countP TransportCall.isAcceptedSend) e := by
  induction calls with
  | nil => rfl
  | cons c calls ih =>
    cases c with
    | discardOldest => exact ih
    | sendWithTimeout transport message priority timeoutMs result =>
      by_cases hok : result = .ok
      · subst hok
        have hsome : publishedBy e (.sendWithTimeout transport message priority timeoutMs .ok) =
            some { transport, priority, envelope := e } := rfl
        rw [List.filterMap_cons_some hsome, List.map_cons, ih, List.countP_cons_of_pos rfl, List.replicate_succ]
      · have hnone : publishedBy e (.sendWithTimeout transport message priority timeoutMs result) = none := if_neg hok
        rw [List.filterMap_cons_none hnone, ih, List.countP_cons_of_neg (by simpa [TransportCall.isAcceptedSend])]

/-- What a transport has accepted of the calls for one text. -/
private theorem acceptedOn_publishedBy {text : Bytes} (t : TransportId) {calls : List TransportCall}
    (h : ∀ c ∈ calls, ∃ t', c.IsFor t' text) :
    calls.filterMap (TransportCall.acceptedOn t) =
      ((calls.filterMap (publishedBy e)).filter fun p => p.transport = t).map fun p => (text, p.priority) := by
  induction calls with
  | nil => rfl
  | cons c calls ih =>
    have hrest := ih fun c' hc' => h c' (List.mem_cons_of_mem _ hc')
    obtain ⟨t', hfor⟩ := h c List.mem_cons_self
    cases c with
    | discardOldest => exact hrest
    | sendWithTimeout transport message priority timeoutMs result =>
      obtain ⟨-, rfl⟩ := hfor
      by_cases hok : result = .ok
      · subst hok
        have hsome : publishedBy e (.sendWithTimeout transport message priority timeoutMs .ok) =
            some { transport, priority, envelope := e } := rfl
        rw [List.filterMap_cons_some hsome]
        by_cases ht : transport = t
        · rw [List.filterMap_cons_some (acceptedOn_of_ok ⟨ht, rfl⟩), List.filter_cons_of_pos (by simpa), hrest]
          rfl
        · rw [List.filterMap_cons_none (acceptedOn_of_not fun h => ht h.1), List.filter_cons_of_neg (by simpa), hrest]
      · have hnone : publishedBy e (.sendWithTimeout transport message priority timeoutMs result) = none := if_neg hok
        rw [List.filterMap_cons_none hnone, List.filterMap_cons_none (acceptedOn_of_not fun h => hok h.2), hrest]

end

section
variable {σ : Type*} {net : Transports σ} {s : BridgeState}

private theorem setup_textOf {b : BridgeState} (h : b.setup = s.setup) : textOf b = textOf s := by
  have hconfig : b.config = s.config := congrArg BridgeSetup.config h
  unfold textOf
  rw [hconfig]

/-- A publish adds the text of its envelope to what the transports have accepted, once if it returns `kOk`. -/
structure PublishAdds (s : BridgeState) (e : MessageEnvelope) (ec : ErrorCode) (calls calls' : List TransportCall) :
    Prop where
  published : ((calls'.drop calls.length).filterMap (publishedBy e)).map PublishedMessage.envelope =
    if ec = .ok then [e] else []
  accepted : ∀ t, calls'.filterMap (TransportCall.acceptedOn t) =
    calls.filterMap (TransportCall.acceptedOn t) ++
      (((calls'.drop calls.length).filterMap (publishedBy e)).filter fun p => p.transport = t).map fun p =>
        (textOf s p.envelope, p.priority)

theorem publishFrom_adds {origin : Side} {env : PublishEnv} {e : MessageEnvelope} {b s' : BridgeState}
    {w w' : Wire σ} {ec : ErrorCode} (hsetup : b.setup = s.setup)
    (h : publishFrom net origin env e b w = some (ec, s', w')) : PublishAdds s e ec w.calls w'.calls := by
  rw [publishFrom_eq] at h
  obtain ⟨own, other, hcalls, hlog⟩ := publish_calls h
  have hadded : w'.calls.drop w.calls.length = own ++ other := by
    rw [hcalls, List.drop_left]
  have hfor : ∀ c ∈ own ++ other, ∃ t', c.IsFor t' (textOf s e) := by
    intro c hc
    rw [← setup_textOf hsetup]
    rcases List.mem_append.1 hc with hc | hc
    · exact ⟨_, hlog.own_isFor c hc⟩
    · exact ⟨_, hlog.other_isFor c hc⟩
  constructor
  · rw [hadded, map_envelope_publishedBy, hlog.settled.countP_eq]
    split
    · rfl
    · rfl
  · intro t
    rw [hadded, hcalls, List.filterMap_append, acceptedOn_publishedBy (e := e) t hfor]
    refine congrArg _ (List.map_congr_left fun p hp => ?_)
    have hp' := List.mem_map_of_mem (f := PublishedMessage.envelope) (List.mem_filter.1 hp).1
    rw [map_envelope_publishedBy] at hp'
    rw [List.eq_of_mem_replicate hp']

end

/-! ### What a round invokes -/

/-- A round invokes at most the handler of what it accepts. -/
theorem invocationsOf_sublist (t : TransportId) (env : InboundEnv) (routers : Routers) (message : Bytes)
    (s : BridgeState) :
    List.Sublist ((invocationsOf t message (inboundLoop t env routers (.ok, message) s).1).map Invocation.envelope)
      (acceptedEnvelope s.protocolMode message).toList := by
  rw [inboundLoop_eq]
  cases hdecode : decodeByProtocol s.protocolMode message {} with
  | error x =>
    simp only [processInbound, processText, hdecode]
    exact List.nil_sublist _
  | ok result =>
    obtain ⟨ec, d⟩ := result
    by_cases hok : ec = .ok
    · subst hok
      rw [processInbound_of_decode _ _ hdecode]
      by_cases hvalid : isEnvelopeValidForPublish d = true
      · have haccepted : acceptedEnvelope s.protocolMode message = some d := by
          simp only [acceptedEnvelope, hdecode, hvalid, if_true]
        rw [if_neg (by rw [hvalid]; decide), dispatch_fst, haccepted]
        split
        · exact List.nil_sublist _
        · cases (routers.of (readerOf t)).route d
          · exact List.Sublist.refl _
          · exact List.nil_sublist _
          · exact List.Sublist.refl _
      · rw [if_pos (Bool.not_eq_true _ ▸ hvalid)]
        exact List.nil_sublist _
    · simp only [processInbound, processText, hdecode, ne_eq, hok, not_false_eq_true, if_true]
      exact List.nil_sublist _

/-- Of the messages of one round all are of its transport and its priority. -/
private theorem filter_handled (t t' : TransportId) (p p' : UInt32) (round : List Invocation) :
    ((round.map fun i => ({ transport := t, priority := p, envelope := i.envelope } : HandledMessage)).filter
        fun h => h.transport = t' ∧ h.priority = p').map HandledMessage.envelope =
      if t = t' ∧ p = p' then round.map Invocation.envelope else [] := by
  induction round with
  | nil => simp
  | cons i round ih =>
    rw [List.map_cons, List.filter_cons]
    by_cases h : t = t' ∧ p = p'
    · rw [if_pos h] at ih ⊢
      rw [if_pos (by simpa using h), List.map_cons, ih, List.map_cons]
    · rw [if_neg h] at ih ⊢
      rw [if_neg (by simpa using h), ih]

/-! ### Runs -/

namespace QueueBridge

/-- What the two ends of a bridge and its queues have of each other. -/
structure Ordered (s : BridgeState) (r : QueueBridge) : Prop where
  setup : r.bridge.setup = s.setup
  line : ∀ t, ∃ taken pending, LineOk t r.wire.calls (r.wire.state.line t) taken pending
  accepted : ∀ t, r.wire.calls.filterMap (TransportCall.acceptedOn t) =
    (r.published.filter fun p => p.transport = t).map fun p => (textOf s p.envelope, p.priority)
  acknowledged : r.published.map PublishedMessage.envelope = r.acknowledged
  processed : ∀ t, r.processed t ≤ (r.wire.state.line t).received.length
  handled : ∀ t priority, List.Sublist (r.handledOn t priority)
    ((((r.wire.state.line t).received.take (r.processed t)).filter fun m => m.2 = priority).filterMap fun m =>
      acceptedEnvelope s.protocolMode m.1)

variable {s : BridgeState} {r r' : QueueBridge}

theorem Ordered.net (h : Ordered s r) : NetOk r.wire.state r.wire.calls r.wire.state :=
  ⟨h.line, fun _ => List.prefix_refl _⟩

/-- What has been processed stays where more is received. -/
theorem Ordered.grown (h : Ordered s r) {net : MqNet} {calls : List TransportCall}
    (hnet : NetOk r.wire.state calls net) (t : TransportId) :
    r.processed t ≤ (net.line t).received.length ∧
      (net.line t).received.take (r.processed t) = (r.wire.state.line t).received.take (r.processed t) := by
  obtain ⟨more, heq⟩ := hnet.grown t
  have hprocessed := h.processed t
  rw [← heq]
  refine ⟨?_, List.take_append_of_le_length hprocessed⟩
  rw [List.length_append]
  omega

private theorem setup_protocolMode (h : r.bridge.setup = s.setup) : r.bridge.protocolMode = s.protocolMode :=
  congrArg BridgeSetup.protocolMode h

theorem Ordered.publish (h : Ordered s r) {origin : Side} {env : PublishEnv} {e : MessageEnvelope}
    (hexec : r.exec (.publish origin env e) = some r') : Ordered s r' := by
  obtain ⟨⟨ec, s', w'⟩, hpublish, rfl⟩ := Option.map_eq_some_iff.1 hexec
  have hadds := publishFrom_adds h.setup hpublish
  rw [publishFrom_eq] at hpublish
  have hnet : NetOk r.wire.state w'.calls w'.state := (netOk_keptByCalls r.wire.state).publish hpublish h.net
  have hsetup : s'.setup = r.bridge.setup := congrArg Prod.fst (publish_unpublished hpublish)
  refine ⟨hsetup.trans h.setup, hnet.line, fun t => ?_, ?_, fun t => (h.grown hnet t).1, fun t priority => ?_⟩
  · rw [hadds.accepted t, h.accepted t, List.filter_append, List.map_append]
  · rw [List.map_append, h.acknowledged, hadds.published]
  · rw [(h.grown hnet t).2]
    exact h.handled t priority

theorem Ordered.receive (h : Ordered s r) {t : TransportId} {timeoutMs : Int64}
    (hexec : r.exec (.receive t timeoutMs) = some r') : Ordered s r' := by
  cases hexec
  have hnet := h.net.receive (t, timeoutMs)
  refine ⟨h.setup, hnet.line, h.accepted, h.acknowledged, fun t' => (h.grown hnet t').1, fun t' priority => ?_⟩
  rw [(h.grown hnet t').2]
  exact h.handled t' priority

theorem Ordered.process (h : Ordered s r) {t : TransportId} {env : InboundEnv} {routers : Routers}
    (hexec : r.exec (.process t env routers) = some r') : Ordered s r' := by
  obtain ⟨m, hm, rfl⟩ := Option.map_eq_some_iff.1 hexec
  have hsetup : (inboundLoop t env routers (.ok, m.1) r.bridge).2.setup = r.bridge.setup := by
    rw [inboundLoop_eq]
    exact processInbound_setup ..
  refine ⟨hsetup.trans h.setup, h.line, h.accepted, h.acknowledged, fun t' => ?_, fun t' priority => ?_⟩
  · by_cases ht : t' = t
    · subst ht
      simp only [Function.update_self]
      exact (List.getElem?_eq_some_iff.1 hm).1
    · simp only [Function.update_of_ne ht]
      exact h.processed t'
  · have hold := h.handled t' priority
    simp only [handledOn, List.filter_append, List.map_append, filter_handled] at hold ⊢
    by_cases ht : t' = t
    · subst ht
      have hround := invocationsOf_sublist t' env routers m.1 r.bridge
      rw [setup_protocolMode h.setup] at hround
      simp only [Function.update_self]
      rw [List.take_add_one, hm, Option.toList_some, List.filter_append, List.filterMap_append]
      refine hold.append ?_
      by_cases hp : m.2 = priority
      · rw [if_pos ⟨trivial, hp⟩, List.filter_cons_of_pos (by simpa), List.filter_nil, List.filterMap_cons]
        cases haccepted : acceptedEnvelope s.protocolMode m.1 with
        | none => exact haccepted ▸ hround
        | some d => exact haccepted ▸ hround
      · rw [if_neg fun hboth => hp hboth.2]
        exact List.nil_sublist _
    · simp only [Function.update_of_ne ht]
      rw [if_neg fun hboth => ht hboth.1.symm, List.append_nil]
      exact hold

/-- **The step lemma.** -/
theorem Ordered.exec (h : Ordered s r) {op : QueueBridgeOp} (hexec : r.exec op = some r') : Ordered s r' := by
  cases op with
  | publish origin env e => exact h.publish hexec
  | receive t timeoutMs => exact h.receive hexec
  | process t env routers => exact h.process hexec

/-- A bridge with two new queues, of which nothing has been received. -/
structure New (net : MqNet) : Prop where
  messages : ∀ t, (net.line t).descriptor.queue.messages = []
  received : ∀ t, (net.line t).received = []

private theorem ordered_of_run {net : MqNet} {ops : List QueueBridgeOp} (hnew : New net)
    (hrun : Run (fun r op r' => r.exec op = some r') { bridge := s, wire := { state := net } } ops r) :
    Ordered s r := by
  refine hrun.invariant (fun _ _ _ hr hexec => Ordered.exec hr hexec) ?_
  refine ⟨rfl, fun t => ⟨[], [], ?_, Passed.nil _, ?_, fun _ => ?_⟩, fun _ => rfl, rfl, fun _ => Nat.zero_le _,
    fun _ _ => List.nil_sublist _⟩
  · exact hnew.messages t
  · exact (hnew.received t) ▸ List.nil_sublist _
  · exact hnew.received t

/-! ### The order of one priority -/

theorem rank_eq_iff {x : Bytes × UInt32} {priority : UInt32} :
    QueueRun.rank x = priority.toNat ↔ x.2 = priority :=
  UInt32.toNat_inj

/-- What a transport has accepted with a priority. -/
private theorem Ordered.filter_accepted (h : Ordered s r) (t : TransportId) (priority : UInt32) :
    (r.wire.calls.filterMap (TransportCall.acceptedOn t)).filter (fun x => QueueRun.rank x = priority.toNat) =
      (r.publishedOn t priority).map fun e => (textOf s e, priority) := by
  have hboth : (r.published.filter fun p => p.transport = t).filter (fun p => p.priority = priority) =
      r.published.filter fun p => p.transport = t ∧ p.priority = priority := by
    rw [List.filter_filter]
    refine List.filter_congr fun p _ => ?_
    rw [Bool.and_comm, Bool.decide_and]
  rw [h.accepted t, List.filter_map, publishedOn, ← hboth, List.map_map]
  simp only [Function.comp_def, rank_eq_iff]
  refine List.map_congr_left fun p hp => ?_
  have hpriority : p.priority = priority := by simpa using (List.mem_filter.1 hp).2
  rw [hpriority]

private theorem filter_cut (taken : List (Bytes × UInt32)) (priority : UInt32) :
    (taken.map cut).filter (fun m => m.2 = priority) =
      (taken.filter fun x => QueueRun.rank x = priority.toNat).map cut := by
  rw [List.filter_map]
  simp only [Function.comp_def, rank_eq_iff]
  rfl

/-- What the queue has given out with a priority, and what it holds of it, is what was published, in this order. -/
theorem Ordered.passed (h : Ordered s r) {t : TransportId} {taken pending : List (Bytes × UInt32)}
    (hline : LineOk t r.wire.calls (r.wire.state.line t) taken pending) (priority : UInt32) :
    ((taken.map cut).filter (fun m => m.2 = priority)) ++ ((pending.map cut).filter fun m => m.2 = priority) =
      (r.publishedOn t priority).map fun e => (cString (textOf s e), priority) := by
  have hpassed := hline.passed priority.toNat
  rw [h.filter_accepted t priority] at hpassed
  have hcut := congrArg (List.map cut) hpassed
  rw [List.map_append, List.map_map] at hcut
  rw [filter_cut, filter_cut, ← hcut]
  rfl

private theorem Ordered.receivedOn_sublist (h : Ordered s r) (t : TransportId) (priority : UInt32) :
    List.Sublist ((r.wire.state.line t).received.filter fun m => m.2 = priority)
      ((r.publishedOn t priority).map fun e => (cString (textOf s e), priority)) := by
  obtain ⟨taken, pending, hline⟩ := h.line t
  rw [← h.passed hline priority]
  exact (hline.received.filter _).trans (List.sublist_append_left _ _)

private theorem Ordered.handledOn_sublist (h : Ordered s r) (t : TransportId) (priority : UInt32) :
    List.Sublist (r.handledOn t priority) ((r.publishedOn t priority).filterMap (arrivesAs s)) := by
  have hprocessed := (List.take_sublist (r.processed t) (r.wire.state.line t).received).filter
    fun m => decide (m.2 = priority)
  have hall := (hprocessed.trans (h.receivedOn_sublist t priority)).filterMap
    fun m => acceptedEnvelope s.protocolMode m.1
  rw [List.filterMap_map] at hall
  exact (h.handled t priority).trans hall

/-- Where nothing was discarded, what is received are the first of what was published, and all of it where the queue is
empty. -/
private theorem Ordered.receivedOn_exact (h : Ordered s r) {t : TransportId}
    (hnone : ∀ c ∈ r.wire.calls, ¬ c.DiscardsOn t) (priority : UInt32) :
    r.receivedOn t priority <+: (r.publishedOn t priority).map (fun e => cString (textOf s e)) ∧
      ((r.wire.state.line t).descriptor.queue.messages = [] →
        r.receivedOn t priority = (r.publishedOn t priority).map fun e => cString (textOf s e)) := by
  obtain ⟨taken, pending, hline⟩ := h.line t
  have hpassed := congrArg (List.map Prod.fst) (h.passed hline priority)
  rw [← hline.exact hnone, List.map_append, List.map_map] at hpassed
  refine ⟨⟨_, hpassed⟩, fun hempty => ?_⟩
  rw [hline.messages, List.map_eq_nil_iff] at hempty
  rw [hempty, List.map_nil, List.filter_nil, List.map_nil, List.append_nil] at hpassed
  exact hpassed

end QueueBridge

/-- A valid envelope that is sent in the legacy format and has no zero byte arrives, but for its key. -/
private theorem arrivesAs_of_legacy {s : BridgeState} {e : MessageEnvelope} (hschema : 1 ≤ e.schemaVersion)
    (hvalid : isEnvelopeValidForPublish e = true) (hlegacy : SentAsLegacy s.config e) (hzero : ZeroFree e) :
    arrivesAs s e = some { e with idempotencyKey := [] } := by
  have htext : textOf s e = (encodeByProtocol .legacyPipe e).2 := by
    unfold textOf
    rw [(resolveMode_eq_legacyPipe_iff s.config e).2 hlegacy]
  have hcut : cString (textOf s e) = textOf s e := by
    rw [htext]
    exact takeWhile_ne_zero_eq_self_iff.2 ((zero_not_mem_legacy_iff e).2 hzero)
  have hdecode : decodeByProtocol s.protocolMode (textOf s e) {} = .ok (.ok, { e with idempotencyKey := [] }) := by
    rw [htext]
    exact (decodeByProtocol_encodeByProtocol_or .legacyPipe s.protocolMode hschema {}).resolve_right
      fun hbad => hbad.1 rfl
  have hcarried : isEnvelopeValidForPublish { e with idempotencyKey := [] } = true := hvalid
  unfold arrivesAs acceptedEnvelope
  rw [hcut, hdecode]
  exact if_pos hcarried

/-- **Messages are handled in their order.**  Two new queues between a bridge that publishes, receives and processes.
The messages that the queues accept are those whose publish returns `kOk`, each of them once.  Of each queue and each
priority the loop receives, cut at the first zero byte, a part of what was accepted in its order, and the handlers are
invoked for a part of it in its order; where nothing was discarded there is no gap in what is received.  And a valid
legacy envelope without zero bytes arrives but for its idempotency key. -/
theorem handled_in_order {net : MqNet} {s : BridgeState} {ops : List QueueBridgeOp} {r : QueueBridge}
    (hnew : QueueBridge.New net)
    (hrun : Run (fun r op r' => r.exec op = some r') { bridge := s, wire := { state := net } } ops r) :
    r.published.map PublishedMessage.envelope = r.acknowledged ∧
      (∀ t priority,
        List.Sublist (r.receivedOn t priority)
            ((r.publishedOn t priority).map fun e => cString (textOf s e)) ∧
          List.Sublist (r.handledOn t priority) ((r.publishedOn t priority).filterMap (arrivesAs s)) ∧
          ((∀ c ∈ r.wire.calls, ¬ c.DiscardsOn t) →
            r.receivedOn t priority <+: (r.publishedOn t priority).map (fun e => cString (textOf s e)) ∧
              ((r.wire.state.line t).descriptor.queue.messages = [] →
                r.receivedOn t priority = (r.publishedOn t priority).map fun e => cString (textOf s e)))) ∧
      ∀ e, 1 ≤ e.schemaVersion → isEnvelopeValidForPublish e = true → SentAsLegacy s.config e → ZeroFree e →
        arrivesAs s e = some { e with idempotencyKey := [] } := by
  have hordered := QueueBridge.ordered_of_run hnew hrun
  refine ⟨hordered.acknowledged, fun t priority => ⟨?_, hordered.handledOn_sublist t priority, fun hnone =>
    hordered.receivedOn_exact hnone priority⟩, fun e => arrivesAs_of_legacy⟩
  have hreceived := (hordered.receivedOn_sublist t priority).map Prod.fst
  rw [List.map_map] at hreceived
  exact hreceived

/-- A new queue, as `Create` leaves it. -/
def newMqLine : MqLine where
  transport := { queue := (PosixMessageQueue.create {} 3 {}).2 }
  descriptor := { queue := { maxMsg := 10, msgSize := 256 } }

/-- A step command is published, received and processed. -/
def deliverStep : List QueueBridgeOp :=
  [.publish .vehicle {} MessageCodec.stepCommand, .receive .vehicleToRobot 50,
    .process .vehicleToRobot {} { robot := stepRouter }]

set_option maxRecDepth 4000 in
theorem handled_in_order_stepCommand :
    ∃ r : QueueBridge, deliverStep.foldlM QueueBridge.exec
        { bridge := plainBridge, wire := { state := { line := fun _ => newMqLine } } } = some r ∧
      r.handled.length = 1 ∧ r.published.map PublishedMessage.envelope = r.acknowledged := by
  have hexec : (deliverStep.foldlM QueueBridge.exec
      { bridge := plainBridge, wire := { state := { line := fun _ => newMqLine } } }).map
        (fun r => r.handled.length) = some 1 := by decide
  obtain ⟨r, hr, hhandled⟩ := Option.map_eq_some_iff.1 hexec
  exact ⟨r, hr, hhandled, (handled_in_order ⟨fun _ => rfl, fun _ => rfl⟩ (Run.of_foldlM hr)).1⟩

end VehicleBridge
