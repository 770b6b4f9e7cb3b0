import VehicleBridge.Lib.ByteText
import VehicleBridge.Lib.PriorityFifo

/-!
# POSIX message queues

The calls of `mqueue.h` that the program makes, as they are documented: a queue keeps its messages in the order of
their arrival and gives out the earliest of those of the highest priority; a call that would have to wait fails with
`EAGAIN` where the `O_NONBLOCK` flag of its descriptor is set.

A call that waits is taken at the moment when its wait ends.  It ends with the call going through, when there is room or
a message by then, or with an error; `waits` is the wait that never ends.
-/

namespace VehicleBridge

open ByteText

/-- `MQ_PRIO_MAX` -/
def kMqPrioMax : UInt32 := 32768

structure MqMessage where
  bytes : Bytes
  priority : UInt32
  deriving DecidableEq, Repr

structure MqQueue where
  maxMsg : Nat
  msgSize : Nat
  messages : List MqMessage := []
  deriving DecidableEq, Repr

inductive Errno
  | eagain
  | ebadf
  | eintr
  | einval
  | emsgsize
  | etimedout
  deriving DecidableEq, Repr

/-- A queue as the calls on one of its descriptors see it: is the descriptor an open one, and is its flag set? -/
structure MqDescriptor where
  isOpen : Bool := true
  nonBlocking : Bool := false
  queue : MqQueue
  deriving DecidableEq, Repr

/-- How a send or a receive ends: with a result and what it leaves of the queue, with an error, or never. -/
inductive MqReply (α : Type)
  | done (result : α) (d : MqDescriptor)
  | failed (errno : Errno)
  | waits
  deriving DecidableEq, Repr

/-- How a wait ends: a signal handler interrupts it, or else it goes on, up to the timeout if there is one. -/
structure Wait where
  timed : Bool := false
  interrupted : Bool := false
  deriving DecidableEq, Repr

/-- The answer of a call that cannot go through. -/
def MqDescriptor.wouldWait {α : Type} (d : MqDescriptor) (wait : Wait) : MqReply α :=
  if d.nonBlocking then .failed .eagain
  else if wait.interrupted then .failed .eintr
  else if wait.timed then .failed .etimedout
  else .waits

/-- `mq_getattr`, of which only the flag is read. -/
def mqGetattr (d : MqDescriptor) : Except Errno Bool :=
  if d.isOpen then .ok d.nonBlocking else .error .ebadf

/-- `mq_setattr`, which changes nothing but the flag. -/
def mqSetattr (nonBlocking : Bool) (d : MqDescriptor) : Except Errno MqDescriptor :=
  if d.isOpen then .ok { d with nonBlocking } else .error .ebadf

/-- `mq_send`, and `mq_timedsend` where the wait is timed. -/
def mqSend (bytes : Bytes) (priority : UInt32) (wait : Wait) (d : MqDescriptor) : MqReply Unit :=
  if priority ≥ kMqPrioMax then .failed .einval
  else if d.isOpen = false then .failed .ebadf
  else if bytes.length > d.queue.msgSize then .failed .emsgsize
  else if d.queue.messages.length < d.queue.maxMsg then
    .done () { d with queue := { d.queue with messages := d.queue.messages ++ [{ bytes, priority }] } }
  else d.wouldWait wait

def MqMessage.rank (m : MqMessage) : Nat :=
  m.priority.toNat

/-- `mq_receive`, and `mq_timedreceive` where the wait is timed, into a buffer of the given length. -/
def mqReceive (length : Nat) (wait : Wait) (d : MqDescriptor) : MqReply MqMessage :=
  if d.isOpen = false then .failed .ebadf
  else if length < d.queue.msgSize then .failed .emsgsize
  else
    match PriorityFifo.take MqMessage.rank d.queue.messages with
    | some (m, rest) => .done m { d with queue := { d.queue with messages := rest } }
    | none => d.wouldWait wait

/-- The descriptor after a call. -/
def MqReply.descriptor {α : Type} (reply : MqReply α) (d : MqDescriptor) : MqDescriptor :=
  match reply with
  | .done _ d' => d'
  | .failed _ => d
  | .waits => d

/-! ### What the calls do -/

private theorem wouldWait_ne_done {α : Type} {wait : Wait} {d d' : MqDescriptor} {a : α} :
    d.wouldWait wait ≠ .done a d' := by
  unfold MqDescriptor.wouldWait
  repeat' split
  all_goals exact nofun

/-- A send that goes through puts exactly its bytes behind the messages of the queue. -/
theorem mqSend_eq_done {bytes : Bytes} {priority : UInt32} {wait : Wait} {d d' : MqDescriptor}
    (h : mqSend bytes priority wait d = .done () d') :
    d.isOpen = true ∧ bytes.length ≤ d.queue.msgSize ∧
      d' = { d with queue := { d.queue with messages := d.queue.messages ++ [{ bytes, priority }] } } := by
  unfold mqSend at h
  split at h
  · cases h
  split at h
  · cases h
  next hopen =>
  split at h
  · cases h
  next hsize =>
  split at h
  · cases h
    exact ⟨Bool.not_eq_false _ ▸ hopen, Nat.not_lt.1 hsize, rfl⟩
  · exact absurd h wouldWait_ne_done

/-- A receive that goes through takes the earliest message of the highest priority. -/
theorem mqReceive_eq_done {length : Nat} {wait : Wait} {d d' : MqDescriptor} {m : MqMessage}
    (h : mqReceive length wait d = .done m d') :
    d.isOpen = true ∧ d.queue.msgSize ≤ length ∧
      ∃ rest, PriorityFifo.take MqMessage.rank d.queue.messages = some (m, rest) ∧
        d' = { d with queue := { d.queue with messages := rest } } := by
  unfold mqReceive at h
  split at h
  · cases h
  next hopen =>
  split at h
  · cases h
  next hsize =>
  split at h
  · next m' rest htake =>
    cases h
    exact ⟨Bool.not_eq_false _ ▸ hopen, Nat.not_lt.1 hsize, rest, htake, rfl⟩
  · exact absurd h wouldWait_ne_done

/-! ### Calls on a descriptor with the flag set -/

private theorem wouldWait_of_nonBlocking {α : Type} {d : MqDescriptor} (h : d.nonBlocking = true) (wait : Wait) :
    (d.wouldWait wait : MqReply α) = .failed .eagain := by
  unfold MqDescriptor.wouldWait
  rw [if_pos h]

theorem mqSend_ne_waits {bytes : Bytes} {priority : UInt32} {wait : Wait} {d : MqDescriptor}
    (h : d.nonBlocking = true) : mqSend bytes priority wait d ≠ .waits := by
  unfold mqSend
  rw [wouldWait_of_nonBlocking h]
  repeat' split
  all_goals exact nofun

theorem mqReceive_ne_waits {length : Nat} {wait : Wait} {d : MqDescriptor} (h : d.nonBlocking = true) :
    mqReceive length wait d ≠ .waits := by
  unfold mqReceive
  rw [wouldWait_of_nonBlocking h]
  repeat' split
  all_goals exact nofun

end VehicleBridge
