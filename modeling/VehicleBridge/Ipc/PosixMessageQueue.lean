import VehicleBridge.Core.ErrorCode
import VehicleBridge.Ipc.KernelQueue

/-!
# The message queue of the program

`PosixMessageQueue` sends a string with the zero byte that ends it, and receives into a buffer of `message_size_` zeros
from which it takes what is before the first zero byte.  The calls that must not wait set the `O_NONBLOCK` flag of the
descriptor, call, and put the flag back.

A receive does not return where the buffer cannot be had: a negative size throws through the `noexcept` boundary.  A
buffer without a zero byte is read over its end.
-/

namespace VehicleBridge

open ByteText

structure QueueConfig where
  name : Bytes := text "/vr_demo_queue"
  maxMessages : Int64 := 10
  messageSize : Int64 := 256
  deriving DecidableEq, Repr

structure PosixMessageQueue where
  queueName : Bytes := []
  mqd : Int32 := -1
  messageSize : Int64 := 256
  deriving DecidableEq, Repr

/-- How a call on a queue ends. -/
inductive QueueReply (α : Type)
  | returned (ec : ErrorCode) (content : α)
  | waits
  | terminates
  | overreads
  deriving DecidableEq, Repr

/-- `static_cast<std::size_t>` of a `long`. -/
def sizeT (n : Int64) : Nat :=
  n.toUInt64.toNat

/-- `message.c_str()` with `message.size() + 1` bytes. -/
def cStr (message : Bytes) : Bytes :=
  message ++ [0]

/-- `message->assign(buffer.data())`; `none` where the buffer has no zero byte. -/
def assignCStr (buffer : Bytes) : Option Bytes :=
  if 0 ∈ buffer then some (buffer.takeWhile (· ≠ 0)) else none

/-- A buffer of so many zeros with a message written to its front. -/
def received (size : Nat) (bytes : Bytes) : Bytes :=
  bytes ++ List.replicate (size - bytes.length) 0

/-- `SetQueueNonBlocking`: the original flag and the descriptor, or false. -/
def setQueueNonBlocking (enable : Bool) (d : MqDescriptor) : Option (Bool × MqDescriptor) :=
  match mqGetattr d with
  | .error _ => none
  | .ok originalFlags =>
    match mqSetattr enable d with
    | .error _ => none
    | .ok d' => some (originalFlags, d')

/-- `RestoreQueueFlags`, which ignores an error. -/
def restoreQueueFlags (originalFlags : Bool) (d : MqDescriptor) : MqDescriptor :=
  match mqSetattr originalFlags d with
  | .error _ => d
  | .ok d' => d'

/-- The code for an error of a call that must not wait, or has no timeout. -/
def nonBlockingError (failed : ErrorCode) (errno : Errno) : ErrorCode :=
  if errno = .eagain then .wouldBlock else failed

/-- The code for an error of a call with a timeout. -/
def timedError (failed : ErrorCode) (errno : Errno) : ErrorCode :=
  if errno = .etimedout then .timeout else if errno = .eagain then .wouldBlock else failed

/-- The reply to the caller of a send. -/
def sendReply (error : Errno → ErrorCode) : MqReply Unit → QueueReply Unit
  | .done () _ => .returned .ok ()
  | .failed errno => .returned (error errno) ()
  | .waits => .waits

/-- The reply to the caller of a receive, with the new content of `*message` and `*priority`. -/
def receiveReply (error : Errno → ErrorCode) (size : Nat) (out : Bytes × UInt32) :
    MqReply MqMessage → QueueReply (Bytes × UInt32)
  | .done m _ =>
    match assignCStr (received size m.bytes) with
    | some message => .returned .ok (message, m.priority)
    | none => .overreads
  | .failed errno => .returned (error errno) out
  | .waits => .waits

namespace PosixMessageQueue

/-- `Create` and `Open`, which differ in the flags of `mq_open` only; `reply` is the descriptor that it returns. -/
def openWith (config : QueueConfig) (reply : Int32) (q : PosixMessageQueue) : ErrorCode × PosixMessageQueue :=
  if config.name.head? ≠ some 0x2f then (.invalidParam, q)
  else (if reply < 0 then .queueCreateFailed else .ok,
    { queueName := config.name, mqd := reply, messageSize := config.messageSize })

def create (config : QueueConfig) (reply : Int32) (q : PosixMessageQueue) : ErrorCode × PosixMessageQueue :=
  openWith config reply q

def openQueue (config : QueueConfig) (reply : Int32) (q : PosixMessageQueue) : ErrorCode × PosixMessageQueue :=
  openWith config reply q

def close (q : PosixMessageQueue) : PosixMessageQueue :=
  if q.mqd ≥ 0 then { q with mqd := -1 } else q

/-- The check that every send starts with. -/
def refusesSend (message : Bytes) (q : PosixMessageQueue) : Prop :=
  q.mqd < 0 ∨ message.length ≥ sizeT q.messageSize

instance (message : Bytes) (q : PosixMessageQueue) : Decidable (q.refusesSend message) :=
  inferInstanceAs (Decidable (_ ∨ _))

def sendNonBlocking (message : Bytes) (priority : UInt32) (q : PosixMessageQueue) (d : MqDescriptor) :
    QueueReply Unit × MqDescriptor :=
  if q.refusesSend message then (.returned .invalidParam (), d)
  else
    match setQueueNonBlocking true d with
    | none => (.returned .queueSendFailed (), d)
    | some (originalFlags, d') =>
      let rc := mqSend (cStr message) priority {} d'
      (sendReply (nonBlockingError .queueSendFailed) rc, restoreQueueFlags originalFlags (rc.descriptor d'))

def sendWithTimeout (message : Bytes) (priority : UInt32) (timeoutMs : Int64) (interrupted : Bool)
    (q : PosixMessageQueue) (d : MqDescriptor) : QueueReply Unit × MqDescriptor :=
  if q.refusesSend message then (.returned .invalidParam (), d)
  else if timeoutMs < 0 then
    let rc := mqSend (cStr message) priority { interrupted } d
    -- without a timeout every error is the same
    (sendReply (fun _ => .queueSendFailed) rc, rc.descriptor d)
  else
    let rc := mqSend (cStr message) priority { timed := true, interrupted } d
    (sendReply (timedError .queueSendFailed) rc, rc.descriptor d)

def send (message : Bytes) (priority : UInt32) (interrupted : Bool) (q : PosixMessageQueue) (d : MqDescriptor) :
    QueueReply Unit × MqDescriptor :=
  q.sendWithTimeout message priority (-1) interrupted d

def receiveNonBlocking (out : Bytes × UInt32) (q : PosixMessageQueue) (d : MqDescriptor) :
    QueueReply (Bytes × UInt32) × MqDescriptor :=
  if q.mqd < 0 then (.returned .invalidParam out, d)
  else
    match setQueueNonBlocking true d with
    | none => (.returned .queueReceiveFailed out, d)
    | some (originalFlags, d') =>
      if q.messageSize < 0 then (.terminates, d')
      else
        let rc := mqReceive (sizeT q.messageSize) {} d'
        (receiveReply (nonBlockingError .queueReceiveFailed) (sizeT q.messageSize) out rc,
          restoreQueueFlags originalFlags (rc.descriptor d'))

def receiveWithTimeout (timeoutMs : Int64) (interrupted : Bool) (out : Bytes × UInt32) (q : PosixMessageQueue)
    (d : MqDescriptor) : QueueReply (Bytes × UInt32) × MqDescriptor :=
  if q.mqd < 0 then (.returned .invalidParam out, d)
  else if q.messageSize < 0 then (.terminates, d)
  else if timeoutMs < 0 then
    let rc := mqReceive (sizeT q.messageSize) { interrupted } d
    (receiveReply (fun _ => .queueReceiveFailed) (sizeT q.messageSize) out rc, rc.descriptor d)
  else
    let rc := mqReceive (sizeT q.messageSize) { timed := true, interrupted } d
    (receiveReply (timedError .queueReceiveFailed) (sizeT q.messageSize) out rc, rc.descriptor d)

def receive (interrupted : Bool) (out : Bytes × UInt32) (q : PosixMessageQueue) (d : MqDescriptor) :
    QueueReply (Bytes × UInt32) × MqDescriptor :=
  q.receiveWithTimeout (-1) interrupted out d

end PosixMessageQueue

/-! ### Strings and buffers -/

private theorem sizeT_of_nonneg {n : Int64} (h : 0 ≤ n) : (sizeT n : Int) = n.toInt := by
  have hn : 0 ≤ n.toInt := by simpa using Int64.le_iff_toInt_le.1 h
  have hu : sizeT n = n.toBitVec.toNat := rfl
  have hi : n.toInt = n.toBitVec.toInt := rfl
  rw [hi, BitVec.toInt_eq_toNat_cond] at hn
  rw [hu, hi, BitVec.toInt_eq_toNat_cond]
  split at hn <;> omega

private theorem takeWhile_cStr (message rest : Bytes) :
    (cStr message ++ rest).takeWhile (· ≠ 0) = message.takeWhile (· ≠ 0) := by
  unfold cStr
  induction message with
  | nil => rfl
  | cons c message ih =>
    simp only [List.cons_append, List.takeWhile_cons, ih]

/-- What is received of a string that was sent: the bytes before its first zero byte. -/
theorem assignCStr_received (size : Nat) (message : Bytes) :
    assignCStr (received size (cStr message)) = some (message.takeWhile (· ≠ 0)) := by
  have hzero : (0 : UInt8) ∈ received size (cStr message) := by
    unfold received cStr
    simp
  unfold assignCStr
  rw [if_pos hzero, received, takeWhile_cStr]

theorem takeWhile_ne_zero_eq_self_iff {message : Bytes} : message.takeWhile (· ≠ 0) = message ↔ 0 ∉ message := by
  rw [List.takeWhile_eq_self_iff]
  constructor
  · intro h hmem
    simpa using h 0 hmem
  · intro h c hc
    have hne : c ≠ 0 := fun heq => h (heq ▸ hc)
    simpa using hne

theorem setQueueNonBlocking_eq_some {enable originalFlags : Bool} {d d' : MqDescriptor}
    (h : setQueueNonBlocking enable d = some (originalFlags, d')) :
    d.isOpen = true ∧ originalFlags = d.nonBlocking ∧ d' = { d with nonBlocking := enable } := by
  unfold setQueueNonBlocking mqGetattr mqSetattr at h
  by_cases hopen : d.isOpen = true
  · simp only [hopen, if_true, Option.some.injEq, Prod.mk.injEq] at h
    exact ⟨hopen, h.1.symm, by rw [← h.2, hopen]⟩
  · simp only [hopen, Bool.false_eq_true, if_false, reduceCtorEq] at h

private theorem restoreQueueFlags_queue (originalFlags : Bool) (d : MqDescriptor) :
    (restoreQueueFlags originalFlags d).queue = d.queue := by
  unfold restoreQueueFlags mqSetattr
  by_cases hopen : d.isOpen = true
  · simp only [hopen, if_true]
  · simp only [hopen, Bool.false_eq_true, if_false]

/-! ### What a send and a receive do to the queue -/

/-- A send leaves the messages alone, or it returns `kOk` with the string and a zero byte behind them. -/
inductive SendEffect (message : Bytes) (priority : UInt32) (before : List MqMessage) :
    QueueReply Unit → List MqMessage → Prop
  | kept {reply : QueueReply Unit} : reply ≠ .returned .ok () → SendEffect message priority before reply before
  | sent : SendEffect message priority before (.returned .ok ())
      (before ++ [{ bytes := cStr message, priority }])

/-- A receive leaves the messages alone, or it takes one of the highest priority. -/
inductive ReceiveEffect (size : Nat) (before : List MqMessage) : QueueReply (Bytes × UInt32) → List MqMessage → Prop
  | kept {reply : QueueReply (Bytes × UInt32)} : ReceiveEffect size before reply before
  | taken {m : MqMessage} {rest : List MqMessage} (error : Errno → ErrorCode) (out : Bytes × UInt32)
      (d : MqDescriptor) :
      PriorityFifo.take MqMessage.rank before = some (m, rest) →
      ReceiveEffect size before (receiveReply error size out (.done m d)) rest

private theorem mqSend_effect {message : Bytes} {priority : UInt32} {wait : Wait} {d : MqDescriptor}
    {error : Errno → ErrorCode} (herror : ∀ errno, error errno ≠ .ok) :
    SendEffect message priority d.queue.messages (sendReply error (mqSend (cStr message) priority wait d))
      ((mqSend (cStr message) priority wait d).descriptor d).queue.messages := by
  cases h : mqSend (cStr message) priority wait d with
  | done result d' =>
    obtain ⟨-, -, rfl⟩ := mqSend_eq_done h
    exact .sent
  | failed errno =>
    refine .kept fun heq => herror errno ?_
    exact (QueueReply.returned.inj heq).1
  | waits => exact .kept (by simp [sendReply])

private theorem mqReceive_effect (size : Nat) (wait : Wait) (d : MqDescriptor) (error : Errno → ErrorCode)
    (out : Bytes × UInt32) :
    ReceiveEffect size d.queue.messages (receiveReply error size out (mqReceive size wait d))
      ((mqReceive size wait d).descriptor d).queue.messages := by
  cases h : mqReceive size wait d with
  | done m d' =>
    obtain ⟨-, -, rest, htake, rfl⟩ := mqReceive_eq_done h
    exact .taken error out _ htake
  | failed errno => exact .kept
  | waits => exact .kept

private theorem nonBlockingError_ne {failed code : ErrorCode} (h : failed ≠ code) (hblock : .wouldBlock ≠ code)
    (errno : Errno) : nonBlockingError failed errno ≠ code := by
  unfold nonBlockingError
  split
  · exact hblock
  · exact h

theorem timedError_ne {failed code : ErrorCode} (h : failed ≠ code) (hblock : .wouldBlock ≠ code)
    (htimeout : .timeout ≠ code) (errno : Errno) : timedError failed errno ≠ code := by
  unfold timedError
  split
  · exact htimeout
  split
  · exact hblock
  · exact h

/-- No answer of the kernel is reported with a code that belongs to no error. -/
private theorem sendReply_ne {error : Errno → ErrorCode} {code : ErrorCode} (herror : ∀ errno, error errno ≠ code)
    (hok : .ok ≠ code) (reply : MqReply Unit) : sendReply error reply ≠ .returned code () := by
  intro heq
  cases reply with
  | done result d => exact hok (QueueReply.returned.inj heq).1
  | failed errno => exact herror errno (QueueReply.returned.inj heq).1
  | waits => simp [sendReply] at heq

namespace PosixMessageQueue

theorem sendNonBlocking_effect (message : Bytes) (priority : UInt32) (q : PosixMessageQueue) (d : MqDescriptor) :
    SendEffect message priority d.queue.messages (q.sendNonBlocking message priority d).1
      (q.sendNonBlocking message priority d).2.queue.messages := by
  unfold sendNonBlocking
  split
  · exact .kept (by simp)
  cases hset : setQueueNonBlocking true d with
  | none => exact .kept (by simp)
  | some result =>
    obtain ⟨originalFlags, d'⟩ := result
    obtain ⟨-, -, rfl⟩ := setQueueNonBlocking_eq_some hset
    have herror : ∀ errno, nonBlockingError .queueSendFailed errno ≠ .ok :=
      nonBlockingError_ne (by decide) (by decide)
    simp only [restoreQueueFlags_queue]
    exact mqSend_effect (d := { d with nonBlocking := true }) herror

theorem sendWithTimeout_effect (message : Bytes) (priority : UInt32) (timeoutMs : Int64) (interrupted : Bool)
    (q : PosixMessageQueue) (d : MqDescriptor) :
    SendEffect message priority d.queue.messages (q.sendWithTimeout message priority timeoutMs interrupted d).1
      (q.sendWithTimeout message priority timeoutMs interrupted d).2.queue.messages := by
  unfold sendWithTimeout
  split
  · exact .kept (by simp)
  split
  · exact mqSend_effect fun _ => by decide
  · exact mqSend_effect (timedError_ne (by decide) (by decide) (by decide))

theorem receiveNonBlocking_effect (out : Bytes × UInt32) (q : PosixMessageQueue) (d : MqDescriptor) :
    ReceiveEffect (sizeT q.messageSize) d.queue.messages (q.receiveNonBlocking out d).1
      (q.receiveNonBlocking out d).2.queue.messages := by
  unfold receiveNonBlocking
  split
  · exact .kept
  cases hset : setQueueNonBlocking true d with
  | none => exact .kept
  | some result =>
    obtain ⟨originalFlags, d'⟩ := result
    obtain ⟨-, -, rfl⟩ := setQueueNonBlocking_eq_some hset
    simp only
    split
    · exact .kept
    · simp only [restoreQueueFlags_queue]
      exact mqReceive_effect (sizeT q.messageSize) {} { d with nonBlocking := true } _ out

theorem receiveWithTimeout_effect (timeoutMs : Int64) (interrupted : Bool) (out : Bytes × UInt32)
    (q : PosixMessageQueue) (d : MqDescriptor) :
    ReceiveEffect (sizeT q.messageSize) d.queue.messages (q.receiveWithTimeout timeoutMs interrupted out d).1
      (q.receiveWithTimeout timeoutMs interrupted out d).2.queue.messages := by
  unfold receiveWithTimeout
  split
  · exact .kept
  split
  · exact .kept
  split
  · exact mqReceive_effect _ _ d _ out
  · exact mqReceive_effect _ _ d _ out

/-- An open queue refuses what, with its zero byte, is longer than its messages. -/
theorem refusesSend_iff {message : Bytes} {q : PosixMessageQueue} (hopen : 0 ≤ q.mqd) (hsize : 0 < q.messageSize) :
    q.refusesSend message ↔ q.messageSize.toInt ≤ message.length := by
  have hcast := sizeT_of_nonneg (Int64.le_of_lt hsize)
  unfold refusesSend
  rw [or_iff_right (Int32.not_lt.2 hopen)]
  omega

/-- A call that gives an answer where its check fails, and never the same answer behind the check. -/
private theorem check_fst_iff {α β : Type*} {P : Prop} [Decidable P] {r : α} {x y : α × β} (hx : x.1 = r)
    (hy : y.1 ≠ r) : (if P then x else y).1 = r ↔ P := by
  by_cases hP : P
  · rw [if_pos hP]
    exact iff_of_true hx hP
  · rw [if_neg hP]
    exact iff_of_false hy hP

theorem sendNonBlocking_invalidParam_iff (message : Bytes) (priority : UInt32) (q : PosixMessageQueue)
    (d : MqDescriptor) :
    (q.sendNonBlocking message priority d).1 = .returned .invalidParam () ↔ q.refusesSend message := by
  unfold sendNonBlocking
  refine check_fst_iff rfl ?_
  split
  · simp
  · exact sendReply_ne (nonBlockingError_ne (by decide) (by decide)) (by decide) _

theorem sendWithTimeout_invalidParam_iff (message : Bytes) (priority : UInt32) (timeoutMs : Int64)
    (interrupted : Bool) (q : PosixMessageQueue) (d : MqDescriptor) :
    (q.sendWithTimeout message priority timeoutMs interrupted d).1 = .returned .invalidParam () ↔
      q.refusesSend message := by
  unfold sendWithTimeout
  refine check_fst_iff rfl ?_
  split
  · exact sendReply_ne (fun _ => by decide) (by decide) _
  · exact sendReply_ne (timedError_ne (by decide) (by decide) (by decide)) (by decide) _

end PosixMessageQueue

end VehicleBridge
