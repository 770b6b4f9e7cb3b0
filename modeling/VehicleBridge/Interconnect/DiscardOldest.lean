import VehicleBridge.Interconnect.QueueRoundTrip

/-!
# Discarding the oldest message

The kernel gives out the earliest message of the highest priority, so that `DiscardOldest` throws away the earliest of
all only where no later one has a higher priority; and it reports success on an empty queue, where there is nothing to
throw away.  `discard_oldest_iff` says when it does what it is called, and `drop_count_iff` when the drop that
`PublishWithBackpressure` then counts is one.
-/

namespace VehicleBridge

open ByteText Transition

namespace PosixMqTransport

/-- The discard gets to the queue: the queue is open and its messages fit the buffer. -/
structure Reaches (transport : PosixMqTransport) (d : MqDescriptor) : Prop where
  mqd : 0 ≤ transport.queue.mqd
  isOpen : d.isOpen = true
  size : 0 ≤ transport.queue.messageSize
  fits : d.queue.msgSize ≤ sizeT transport.queue.messageSize

/-- What a discard that gets to the queue does there. -/
private theorem discardOldest_of_reaches {transport : PosixMqTransport} {d : MqDescriptor} (h : transport.Reaches d) :
    transport.discardOldest d =
      match PriorityFifo.take MqMessage.rank d.queue.messages with
      | none => (.returned .ok (), d)
      | some (m, rest) =>
        (if (0 : UInt8) ∈ received (sizeT transport.queue.messageSize) m.bytes then .returned .ok () else .overreads,
          { d with queue := { d.queue with messages := rest } }) := by
  obtain ⟨hmqd, hopen, hsize, hfits⟩ := h
  obtain ⟨isOpen, nonBlocking, kernel⟩ := d
  cases hopen
  unfold discardOldest PosixMessageQueue.receiveNonBlocking mqReceive
  rw [if_neg (Int32.not_lt.2 hmqd)]
  simp only [setQueueNonBlocking, mqGetattr, mqSetattr, if_true, Bool.true_eq_false, if_false,
    Int64.not_lt.2 hsize, Nat.not_lt.2 hfits]
  cases htake : PriorityFifo.take MqMessage.rank kernel.messages with
  | none => rfl
  | some taken =>
    simp only [receiveReply, assignCStr]
    by_cases hzero : (0 : UInt8) ∈ received (sizeT transport.queue.messageSize) taken.1.bytes
    · simp only [if_pos hzero]
      rfl
    · simp only [if_neg hzero]
      rfl

/-- A discard that reports success has got to the queue. -/
private theorem reaches_of_discardOldest_ok {transport : PosixMqTransport} {d d' : MqDescriptor}
    (h : transport.discardOldest d = (.returned .ok (), d')) : transport.Reaches d := by
  have hreply : (transport.discardOldest d).1 = .returned .ok () := by rw [h]
  unfold discardOldest PosixMessageQueue.receiveNonBlocking at hreply
  split at hreply
  · cases hreply
  next hmqd =>
  split at hreply
  · cases hreply
  next originalFlags d₁ hset =>
  obtain ⟨hopen, -, rfl⟩ := setQueueNonBlocking_eq_some hset
  simp only at hreply
  split at hreply
  · cases hreply
  next hsize =>
  refine ⟨Int32.not_lt.1 hmqd, hopen, Int64.not_lt.1 hsize, ?_⟩
  by_contra hfits
  have hfailed : mqReceive (sizeT transport.queue.messageSize) {} { d with nonBlocking := true } =
      .failed .emsgsize := by
    unfold mqReceive
    rw [if_neg (by simp [hopen]), if_pos (Nat.not_le.1 hfits)]
  rw [hfailed] at hreply
  cases hreply

end PosixMqTransport

/-- Exactly the message that was enqueued first is removed. -/
def RemovesEarliest (before after : List MqMessage) : Prop :=
  ∃ m, before = m :: after

/-- There is a message, and none has a higher priority than the one that was enqueued first. -/
def EarliestIsFirst (messages : List MqMessage) : Prop :=
  ∃ m rest, messages = m :: rest ∧ ∀ x ∈ rest, x.priority ≤ m.priority

private theorem rank_le_iff {m x : MqMessage} : x.rank ≤ m.rank ↔ x.priority ≤ m.priority :=
  UInt32.le_iff_toNat_le.symm

/-- Taking the first of the highest priority removes the earliest exactly where that one has it. -/
private theorem take_removesEarliest_iff {messages rest : List MqMessage} {m : MqMessage}
    (h : PriorityFifo.take MqMessage.rank messages = some (m, rest)) :
    RemovesEarliest messages rest ↔ EarliestIsFirst messages := by
  constructor
  · rintro ⟨m', rfl⟩
    obtain ⟨pre, post, hsplit, hrest⟩ := PriorityFifo.take_split h
    have hm : m' = m := by
      have hperm : (m' :: rest).count m' = (m :: rest).count m' := by
        rw [hsplit.eq, hrest, List.count_append, List.count_cons, List.count_cons, List.count_append]
        omega
      by_contra hne
      rw [List.count_cons_self, List.count_cons_of_ne (Ne.symm hne)] at hperm
      omega
    subst hm
    exact ⟨_, rest, rfl, fun x hx => rank_le_iff.1 (PriorityFifo.take_eq_head_iff.1 h x hx)⟩
  · rintro ⟨m', rest', rfl, hle⟩
    have hhead := PriorityFifo.take_eq_head_iff.2 fun x hx => rank_le_iff.2 (hle x hx)
    cases h.symm.trans hhead
    exact ⟨_, rfl⟩

namespace PosixMqTransport

/-- A discard on a queue of strings does what it is called exactly where the earliest message comes first. -/
private theorem discardOldest_removesEarliest_iff (transport : PosixMqTransport) {d : MqDescriptor}
    {pending : List (Bytes × UInt32)} (hstrings : d.queue.messages = pending.map messageOf) :
    (∀ d', transport.discardOldest d = (.returned .ok (), d') →
        RemovesEarliest d.queue.messages d'.queue.messages) ↔
      (transport.Reaches d → EarliestIsFirst d.queue.messages) := by
  constructor
  · intro h hreaches
    have hdiscard := discardOldest_of_reaches hreaches
    cases htake : PriorityFifo.take MqMessage.rank d.queue.messages with
    | none =>
      rw [htake] at hdiscard
      obtain ⟨m, hm⟩ := h d hdiscard
      exact absurd (congrArg List.length hm) (by simp)
    | some taken =>
      obtain ⟨m, rest⟩ := taken
      have hzero : (0 : UInt8) ∈ received (sizeT transport.queue.messageSize) m.bytes := by
        rw [hstrings] at htake
        obtain ⟨s, strings, -, rfl, -⟩ := take_messageOf htake
        simp [received, messageOf, cStr]
      rw [htake] at hdiscard
      simp only [if_pos hzero] at hdiscard
      exact (take_removesEarliest_iff htake).1 (h _ hdiscard)
  · intro h d' hok
    have hreaches := reaches_of_discardOldest_ok hok
    have hfirst := h hreaches
    rw [discardOldest_of_reaches hreaches] at hok
    cases htake : PriorityFifo.take MqMessage.rank d.queue.messages with
    | none =>
      obtain ⟨m, rest, heq, -⟩ := hfirst
      rw [heq, PriorityFifo.take_eq_none_iff] at htake
      cases htake
    | some taken =>
      obtain ⟨m, rest⟩ := taken
      rw [htake] at hok
      have hd' := congrArg (fun x => x.2.queue.messages) hok
      simp only at hd'
      rw [← hd']
      exact (take_removesEarliest_iff htake).2 hfirst

end PosixMqTransport

/-! ### The drop count -/

section
variable {σ : Type} (net : Transports σ) (t : TransportId)

/-- The discards of one of the transports are those of a `PosixMqTransport`, on what the kernel keeps in a state; of
its sends, and of the pauses between them, nothing is said, so that meanwhile others may use the queue. -/
def PosixDiscards (transport : PosixMqTransport) (kernel : σ → MqDescriptor) : Prop :=
  ∀ s, transport.discardOldest (kernel s) = (.returned (net.discardOldest t s).1 (), kernel (net.discardOldest t s).2)

/-- `PublishWithBackpressure` gets to its discard. -/
def TriesDiscard (encoded : Bytes) (priority : UInt32) (policy : BridgeSlaPolicy) (w : Wire σ) : Prop :=
  (sendOnce net t encoded priority policy w).1 ≠ .ok ∧ policy.dropPolicy ≠ .dropNew ∧
    shouldDiscardOldest net t policy (sendOnce net t encoded priority policy w).1

variable {net t} {encoded : Bytes} {priority : UInt32} {policy : BridgeSlaPolicy} {w : Wire σ} {r : SendResult σ}

private theorem retryWhileBlocked_drops {r' : SendResult σ}
    (h : retryWhileBlocked net t encoded priority policy r = some r') : r'.drops = r.drops := by
  unfold retryWhileBlocked at h
  split at h
  · obtain ⟨last, -, rfl⟩ := Option.map_eq_some_iff.1 h
    rfl
  · cases h
    rfl

/-- A drop is counted exactly where a discard is tried and reports success. -/
private theorem drops_eq (h : publishWithBackpressure net t encoded priority policy w = some r) :
    r.drops = 1 ∧ TriesDiscard net t encoded priority policy w ∧
        (net.discardOldest t (sendOnce net t encoded priority policy w).2.state).1 = .ok ∨
      r.drops = 0 ∧ (TriesDiscard net t encoded priority policy w →
        (net.discardOldest t (sendOnce net t encoded priority policy w).2.state).1 ≠ .ok) := by
  unfold publishWithBackpressure at h
  simp only at h
  split at h
  · next hfinal =>
    cases h
    refine .inr ⟨rfl, fun htries => ?_⟩
    rcases hfinal with hok | hnew
    · exact absurd hok htries.1
    · exact absurd hnew htries.2.1
  next hgoes =>
  rw [not_or] at hgoes
  split at h
  · next hdiscard =>
    have hdrops := retryWhileBlocked_drops h
    unfold discardAndResend at hdrops
    split at hdrops
    · next hok => exact .inl ⟨hdrops, ⟨hgoes.1, hgoes.2, hdiscard⟩, hok⟩
    · next hne => exact .inr ⟨hdrops, fun _ => hne⟩
  · next hnot => exact .inr ⟨retryWhileBlocked_drops h, fun htries => absurd htries.2.2 hnot⟩

/-- A drop that is counted stands for a message removed exactly where the discard does not get to an empty queue. -/
theorem drop_count_iff {transport : PosixMqTransport} {kernel : σ → MqDescriptor}
    (hnet : PosixDiscards net t transport kernel)
    (h : publishWithBackpressure net t encoded priority policy w = some r) :
    (r.drops = 1 → ∃ m rest,
        PriorityFifo.take MqMessage.rank (kernel (sendOnce net t encoded priority policy w).2.state).queue.messages =
          some (m, rest) ∧
        (kernel (net.discardOldest t (sendOnce net t encoded priority policy w).2.state).2).queue.messages = rest) ↔
      (TriesDiscard net t encoded priority policy w →
        transport.Reaches (kernel (sendOnce net t encoded priority policy w).2.state) →
        (kernel (sendOnce net t encoded priority policy w).2.state).queue.messages ≠ []) := by
  have hdrops := drops_eq h
  have hdiscard := hnet (sendOnce net t encoded priority policy w).2.state
  generalize (sendOnce net t encoded priority policy w).2.state = s at hdrops hdiscard ⊢
  constructor
  · intro hcounts htries hreaches hempty
    rw [PosixMqTransport.discardOldest_of_reaches hreaches, hempty] at hdiscard
    have hok : (net.discardOldest t s).1 = .ok := by
      simp only [PriorityFifo.take_nil, Prod.mk.injEq, QueueReply.returned.injEq] at hdiscard
      exact hdiscard.1.1.symm
    rcases hdrops with ⟨hone, -⟩ | ⟨-, hne⟩
    · obtain ⟨m, rest, htake, -⟩ := hcounts hone
      rw [hempty] at htake
      cases htake
    · exact hne htries hok
  · intro hcondition hone
    rcases hdrops with ⟨-, htries, hok⟩ | ⟨hzero, -⟩
    · rw [hok] at hdiscard
      have hreaches := PosixMqTransport.reaches_of_discardOldest_ok hdiscard
      rw [PosixMqTransport.discardOldest_of_reaches hreaches] at hdiscard
      cases htake : PriorityFifo.take MqMessage.rank (kernel s).queue.messages with
      | none => exact absurd (PriorityFifo.take_eq_none_iff.1 htake) (hcondition htries hreaches)
      | some taken =>
        rw [htake] at hdiscard
        exact ⟨taken.1, taken.2, rfl, (congrArg (fun x => x.2.queue.messages) hdiscard).symm⟩
    · omega

end

/-- **Discarding the oldest.**  On any content that calls on a new queue have built, `DiscardOldest` returns `kOk` only
after removing the earliest message, and nothing else, exactly if it does not get to a queue that is empty or has a
higher priority behind its earliest message.  A drop that `PublishWithBackpressure` counts is a message removed exactly
if its discard does not get to an empty queue. -/
theorem discard_oldest_iff {queue : MqQueue} {ends : List QueueEnd} {ops : List QueueOp} {r : QueueRun}
    (hnew : queue.messages = []) (hrun : Run (fun r op r' => r.exec op = some r') { kernel := queue, ends } ops r) :
    (∀ (transport : PosixMqTransport) (d : MqDescriptor), d.queue = r.kernel →
        ((∀ d', transport.discardOldest d = (.returned .ok (), d') →
            RemovesEarliest d.queue.messages d'.queue.messages) ↔
          (transport.Reaches d → EarliestIsFirst d.queue.messages))) ∧
      ∀ (σ : Type) (net : Transports σ) (t : TransportId) (transport : PosixMqTransport) (kernel : σ → MqDescriptor),
        PosixDiscards net t transport kernel →
        ∀ (encoded : Bytes) (priority : UInt32) (policy : BridgeSlaPolicy) (w : Wire σ)
          (result : SendResult σ), publishWithBackpressure net t encoded priority policy w = some result →
          ((result.drops = 1 → ∃ m rest,
              PriorityFifo.take MqMessage.rank
                  (kernel (sendOnce net t encoded priority policy w).2.state).queue.messages = some (m, rest) ∧
              (kernel (net.discardOldest t (sendOnce net t encoded priority policy w).2.state).2).queue.messages =
                rest) ↔
            (TriesDiscard net t encoded priority policy w →
              transport.Reaches (kernel (sendOnce net t encoded priority policy w).2.state) →
              (kernel (sendOnce net t encoded priority policy w).2.state).queue.messages ≠ [])) := by
  constructor
  · intro transport d hd
    exact transport.discardOldest_removesEarliest_iff (hd ▸ (carries_of_run hnew hrun).messages)
  · intro σ net t transport kernel hnet encoded priority policy w result h
    exact drop_count_iff hnet h

/-- The first string has the given priority, the second one priority 2. -/
def twoSends (priority : UInt32) : List QueueOp :=
  [.send 0 (text "first") priority 50 false, .send 0 (text "second") 2 50 false]

/-- Two strings of one priority, of which some have been taken out. -/
def stringsLeft (taken : Nat) : MqDescriptor :=
  { queue := {
      maxMsg := 2
      msgSize := 256
      messages := ([(text "first", 2), (text "second", 2)].drop taken).map messageOf } }

/-- The transports of a queue that two strings fill; the state is how many have been taken out. -/
def fullTransports : Transports Nat where
  caps _ := { supportsDiscardOldest := true }
  sendWithTimeout _ _ _ _ taken := (if taken = 0 then .timeout else .ok, taken)
  discardOldest _ taken := (.ok, taken + 1)
  sleepFor _ taken := taken

/-- Two strings, either of which may be the first to go, and a third one, for which the first of them goes. -/
theorem discard_oldest_step :
    ∃ r, (twoSends 2).foldlM QueueRun.exec newQueueRun = some r ∧
      (∀ (transport : PosixMqTransport) (d : MqDescriptor), d.queue = r.kernel →
        ((∀ d', transport.discardOldest d = (.returned .ok (), d') →
            RemovesEarliest d.queue.messages d'.queue.messages) ↔
          (transport.Reaches d → EarliestIsFirst d.queue.messages))) ∧
      ∃ result, publishWithBackpressure fullTransports .vehicleToRobot (text "third") 2 { dropPolicy := .dropOldest }
          { state := 0 } = some result ∧ result.drops = 1 ∧
        ∃ m, PriorityFifo.take MqMessage.rank (stringsLeft 0).queue.messages =
          some (m, (stringsLeft 1).queue.messages) := by
  have hsome : ((twoSends 2).foldlM QueueRun.exec newQueueRun).isSome = true := by decide
  obtain ⟨r, hr⟩ := Option.isSome_iff_exists.1 hsome
  obtain ⟨hremoves, hcounts⟩ := discard_oldest_iff rfl (Run.of_foldlM hr)
  have hnet : PosixDiscards fullTransports .vehicleToRobot { queue := (PosixMessageQueue.create {} 3 {}).2 }
      stringsLeft := by
    have hempty (taken : Nat) : stringsLeft (taken + 2) = stringsLeft 2 := by simp [stringsLeft]
    rintro (_ | _ | taken)
    · decide
    · decide
    · show PosixMqTransport.discardOldest _ (stringsLeft (taken + 2)) = (.returned .ok (), stringsLeft (taken + 1 + 2))
      rw [hempty taken, hempty (taken + 1)]
      decide
  have hiff := hcounts Nat fullTransports .vehicleToRobot _ stringsLeft hnet (text "third") 2
    { dropPolicy := .dropOldest } { state := 0 } _ rfl
  obtain ⟨m, rest, htake, hrest⟩ := hiff.2 (fun _ _ => List.cons_ne_nil _ _) rfl
  cases hrest
  exact ⟨r, hr, hremoves, _, rfl, rfl, m, htake⟩

/-- Behind a string of priority 1, one of priority 2 is discarded. -/
theorem discard_oldest_fails : ¬ ∀ (kernel : MqQueue) (ends : List QueueEnd) (ops : List QueueOp) (r : QueueRun),
    kernel.messages = [] → Run (fun r op r' => r.exec op = some r') { kernel, ends } ops r →
      ∀ e ∈ r.ends, ∀ d', PosixMqTransport.discardOldest { queue := e.queue } (r.descriptor e) =
        (.returned .ok (), d') → RemovesEarliest r.kernel.messages d'.queue.messages := by
  intro h
  have hexec : ((twoSends 1).foldlM QueueRun.exec newQueueRun).map (fun r => (r.ends, r.kernel)) =
      some (newQueueRun.ends, { maxMsg := 10, msgSize := 256, messages :=
        [{ bytes := cStr (text "first"), priority := 1 }, { bytes := cStr (text "second"), priority := 2 }] }) := by
    decide
  obtain ⟨r, hr, heq⟩ := Option.map_eq_some_iff.1 hexec
  simp only [Prod.mk.injEq] at heq
  have hend : newQueueRun.ends = [{ queue := (PosixMessageQueue.create {} 3 {}).2 }] := rfl
  obtain ⟨m, hm⟩ := h _ _ _ r rfl (Run.of_foldlM hr) { queue := (PosixMessageQueue.create {} 3 {}).2 }
    (by rw [heq.1, hend]; exact List.mem_singleton.2 rfl)
    { queue := { maxMsg := 10, msgSize := 256, messages := [{ bytes := cStr (text "first"), priority := 1 }] } }
    (by rw [QueueRun.descriptor, heq.2]; decide)
  rw [heq.2] at hm
  cases hm

end VehicleBridge
