import Mathlib.Logic.Function.Basic
import VehicleBridge.Ipc.PosixMessageQueue

/-!
# Names and descriptors of message queues

What `mq_open`, `mq_close` and `mq_unlink` do to the queues of the system: a name stands for a queue until it is
unlinked, and a queue that has lost its name lives on behind the descriptors that are open on it.

`PosixMessageQueue` keeps one descriptor.  `Create` and `Open` overwrite it, so one that is open by then is lost: over
any sequence of calls the open descriptors are the one that is kept and those overwritten in this way
(`descriptors_open_iff`).
-/

namespace VehicleBridge

open ByteText

/-- An open descriptor: the queue that it is open on, and its flag. -/
structure MqHandle where
  queue : Nat
  nonBlocking : Bool := false
  deriving DecidableEq, Repr

/-- The queues of the system with their names, and the open descriptors of the program.  A name or a descriptor may be
used again, the identity of a queue may not. -/
structure MqKernel where
  queues : Nat → MqQueue := fun _ => { maxMsg := 0, msgSize := 0 }
  created : Nat := 0
  names : Bytes → Option Nat := fun _ => none
  descriptors : Int32 → Option MqHandle := fun _ => none

namespace MqKernel

/-- A new queue with a name. -/
def createQueue (config : QueueConfig) (k : MqKernel) : MqKernel :=
  { k with
    queues := Function.update k.queues k.created
      { maxMsg := config.maxMessages.toNatClampNeg, msgSize := config.messageSize.toNatClampNeg }
    created := k.created + 1
    names := Function.update k.names (cString config.name) (some k.created) }

/-- The queue of a name; with `O_CREAT` it is created where there is none. -/
def find (create : Bool) (config : QueueConfig) (k : MqKernel) : Option (Nat × MqKernel) :=
  match k.names (cString config.name) with
  | some queue => some (queue, k)
  | none =>
    if create = true ∧ 0 < config.maxMessages ∧ 0 < config.messageSize then some (k.created, k.createQueue config)
    else none

/-- `mq_open`.  The kernel has a free descriptor to give, or else it fails for a reason of its own. -/
def mqOpen (create : Bool) (config : QueueConfig) (free : Int32) (k : MqKernel) : Int32 × MqKernel :=
  if free < 0 ∨ (k.descriptors free).isSome then (-1, k)
  else
    match k.find create config with
    | none => (-1, k)
    | some (queue, k') => (free, { k' with descriptors := Function.update k'.descriptors free (some { queue }) })

/-- `mq_close`; `none` is `EBADF`. -/
def mqClose (mqd : Int32) (k : MqKernel) : Option MqKernel :=
  if (k.descriptors mqd).isSome then some { k with descriptors := Function.update k.descriptors mqd none } else none

/-- `mq_unlink`; `none` is `ENOENT`. -/
def mqUnlink (name : Bytes) (k : MqKernel) : Option MqKernel :=
  if (k.names (cString name)).isSome then some { k with names := Function.update k.names (cString name) none } else none

/-- What the calls on a descriptor see. -/
def descriptor (mqd : Int32) (k : MqKernel) : MqDescriptor :=
  match k.descriptors mqd with
  | none => { isOpen := false, queue := { maxMsg := 0, msgSize := 0 } }
  | some handle => { nonBlocking := handle.nonBlocking, queue := k.queues handle.queue }

/-- What they leave behind. -/
def setDescriptor (mqd : Int32) (d : MqDescriptor) (k : MqKernel) : MqKernel :=
  match k.descriptors mqd with
  | none => k
  | some handle =>
    { k with
      queues := Function.update k.queues handle.queue d.queue
      descriptors := Function.update k.descriptors mqd (some { handle with nonBlocking := d.nonBlocking }) }

end MqKernel

/-! ### The calls of the program -/

namespace PosixMessageQueue

/-- `Create` and `Open` on the queues of the system. -/
def openIn (create : Bool) (config : QueueConfig) (free : Int32) (q : PosixMessageQueue) (k : MqKernel) :
    ErrorCode × PosixMessageQueue × MqKernel :=
  -- a name that is refused does not get as far as `mq_open`
  if config.name.head? ≠ some 0x2f then ((q.openWith config (-1)).1, (q.openWith config (-1)).2, k)
  else
    let reply := k.mqOpen create config free
    ((q.openWith config reply.1).1, (q.openWith config reply.1).2, reply.2)

def closeIn (q : PosixMessageQueue) (k : MqKernel) : PosixMessageQueue × MqKernel :=
  (q.close, if q.mqd ≥ 0 then (k.mqClose q.mqd).getD k else k)

def unlinkIn (q : PosixMessageQueue) (k : MqKernel) : MqKernel :=
  if q.queueName ≠ [] then (k.mqUnlink q.queueName).getD k else k

end PosixMessageQueue

/-- A call on a queue, with the descriptor that is free for it. -/
inductive QueueCall
  | create (config : QueueConfig) (free : Int32)
  | openQueue (config : QueueConfig) (free : Int32)
  | close
  | unlink

/-- A queue of the program, the queues of the system, and the descriptors that are lost. -/
structure QueueHolder where
  queue : PosixMessageQueue := {}
  kernel : MqKernel
  lost : List Int32 := []

/-- The descriptor that an open queue loses when it is opened again. -/
def overwritten (config : QueueConfig) (q : PosixMessageQueue) : List Int32 :=
  if config.name.head? = some 0x2f ∧ 0 ≤ q.mqd then [q.mqd] else []

namespace QueueHolder

def opened (create : Bool) (config : QueueConfig) (free : Int32) (h : QueueHolder) : QueueHolder :=
  let result := h.queue.openIn create config free h.kernel
  { queue := result.2.1, kernel := result.2.2, lost := h.lost ++ overwritten config h.queue }

def exec (h : QueueHolder) : QueueCall → QueueHolder
  | .create config free => h.opened true config free
  | .openQueue config free => h.opened false config free
  | .close => { h with queue := (h.queue.closeIn h.kernel).1, kernel := (h.queue.closeIn h.kernel).2 }
  | .unlink => { h with kernel := h.queue.unlinkIn h.kernel }

end QueueHolder

/-- The call opens a queue that is open already. -/
def QueueCall.Reopens (q : PosixMessageQueue) : QueueCall → Prop
  | .create config _ | .openQueue config _ => config.name.head? = some 0x2f ∧ 0 ≤ q.mqd
  | .close | .unlink => False

/-- None of the calls does. -/
def QueueHolder.NeverReopened (h : QueueHolder) : List QueueCall → Prop
  | [] => True
  | call :: calls => ¬ call.Reopens h.queue ∧ (h.exec call).NeverReopened calls

/-! ### What the calls do -/

section
variable {create : Bool} {config : QueueConfig} {free : Int32} {q : PosixMessageQueue} {k : MqKernel}

/-- A queue is found behind its name, or is a new one with no messages in it. -/
theorem MqKernel.find_cases {queue : Nat} {k' : MqKernel} (h : k.find create config = some (queue, k')) :
    (k.names (cString config.name) = some queue ∧ k' = k) ∨
      (k.names (cString config.name) = none ∧ queue = k.created ∧ k' = k.createQueue config) := by
  unfold MqKernel.find at h
  split at h
  · next found hname =>
    cases h
    exact .inl ⟨hname, rfl⟩
  · next hname =>
    split at h
    · cases h
      exact .inr ⟨hname, rfl, rfl⟩
    · cases h

/-- **`Create` and `Open`** fail and leave the system as it was, with no descriptor or with what was there, or they
take the free descriptor. -/
theorem PosixMessageQueue.openIn_cases (create : Bool) (config : QueueConfig) (free : Int32) (q : PosixMessageQueue)
    (k : MqKernel) :
    (config.name.head? ≠ some 0x2f ∧ q.openIn create config free k = (.invalidParam, q, k)) ∨
      (config.name.head? = some 0x2f ∧ q.openIn create config free k = (.queueCreateFailed,
        { queueName := config.name, mqd := -1, messageSize := config.messageSize }, k)) ∨
      (config.name.head? = some 0x2f ∧ 0 ≤ free ∧ k.descriptors free = none ∧
        ∃ queue k', k.find create config = some (queue, k') ∧
          q.openIn create config free k = (.ok,
            { queueName := config.name, mqd := free, messageSize := config.messageSize },
            { k' with descriptors := Function.update k'.descriptors free (some { queue }) })) := by
  unfold PosixMessageQueue.openIn
  by_cases hname : config.name.head? = some 0x2f
  · refine .inr ?_
    have hopen : ∀ reply, q.openWith config reply = (if reply < 0 then .queueCreateFailed else .ok,
        { queueName := config.name, mqd := reply, messageSize := config.messageSize }) := by
      intro reply
      unfold PosixMessageQueue.openWith
      rw [if_neg (not_not.2 hname)]
    have hfailed : q.openWith config (-1) = (.queueCreateFailed,
        { queueName := config.name, mqd := -1, messageSize := config.messageSize }) := by
      rw [hopen]
      rfl
    rw [if_neg (not_not.2 hname)]
    unfold MqKernel.mqOpen
    by_cases hfree : free < 0 ∨ (k.descriptors free).isSome
    · rw [if_pos hfree]
      exact .inl ⟨hname, by simp only [hfailed]⟩
    · rw [if_neg hfree]
      cases hfind : k.find create config with
      | none => exact .inl ⟨hname, by simp only [hfailed]⟩
      | some found =>
        obtain ⟨queue, k'⟩ := found
        rw [not_or, Option.not_isSome_iff_eq_none] at hfree
        refine .inr ⟨hname, Int32.not_lt.1 hfree.1, hfree.2, queue, k', rfl, ?_⟩
        simp only [hopen, if_neg hfree.1]
  · have hrefused : ∀ reply, q.openWith config reply = (.invalidParam, q) := fun reply => if_pos hname
    rw [if_pos hname]
    exact .inl ⟨hname, by simp only [hrefused]⟩

theorem MqKernel.find_descriptors {queue : Nat} {k' : MqKernel} (h : k.find create config = some (queue, k')) :
    k'.descriptors = k.descriptors := by
  rcases MqKernel.find_cases h with ⟨-, rfl⟩ | ⟨-, -, rfl⟩ <;> rfl

private theorem MqKernel.mqClose_of_open {mqd : Int32} (h : (k.descriptors mqd).isSome) :
    k.mqClose mqd = some { k with descriptors := Function.update k.descriptors mqd none } :=
  if_pos h

/-- An unlink changes names only. -/
private theorem PosixMessageQueue.unlinkIn_frame (q : PosixMessageQueue) (k : MqKernel) :
    q.unlinkIn k = { k with names := (q.unlinkIn k).names } := by
  unfold PosixMessageQueue.unlinkIn MqKernel.mqUnlink
  repeat' split
  all_goals rfl

/-- After an unlink the name of the queue is gone, and all others are as they were. -/
theorem PosixMessageQueue.unlinkIn_eq {q : PosixMessageQueue} (hname : q.queueName ≠ []) (k : MqKernel) :
    q.unlinkIn k = { k with names := Function.update k.names (cString q.queueName) none } := by
  unfold PosixMessageQueue.unlinkIn MqKernel.mqUnlink
  rw [if_pos hname]
  split
  · rfl
  · next h =>
    rw [Option.not_isSome_iff_eq_none] at h
    rw [Function.update_eq_self_iff.2 h.symm]
    rfl

/-- A close gives the descriptor back that is kept. -/
theorem PosixMessageQueue.closeIn_of_open (hopen : 0 ≤ q.mqd) (h : (k.descriptors q.mqd).isSome) :
    q.closeIn k = ({ queueName := q.queueName, mqd := -1, messageSize := q.messageSize },
      { k with descriptors := Function.update k.descriptors q.mqd none }) := by
  unfold PosixMessageQueue.closeIn PosixMessageQueue.close
  simp only [ge_iff_le, if_pos hopen, MqKernel.mqClose_of_open h, Option.getD_some]

end

/-! ### Descriptors over sequences of calls -/

/-- The open descriptors are those that were open from the start, the one that is kept and those that are lost, all of
them different. -/
structure Tracked (k₀ : MqKernel) (h : QueueHolder) : Prop where
  isOpen : ∀ fd, (h.kernel.descriptors fd).isSome ↔
    (k₀.descriptors fd).isSome ∨ (0 ≤ h.queue.mqd ∧ fd = h.queue.mqd) ∨ fd ∈ h.lost
  kept : 0 ≤ h.queue.mqd → k₀.descriptors h.queue.mqd = none ∧ h.queue.mqd ∉ h.lost
  lost : ∀ fd ∈ h.lost, k₀.descriptors fd = none
  nodup : h.lost.Nodup

section
variable {k₀ : MqKernel} {h : QueueHolder}

private theorem not_zero_le_neg_one : ¬ (0 : Int32) ≤ -1 := by
  decide

private theorem tracked_new (k₀ : MqKernel) : Tracked k₀ { kernel := k₀ } where
  isOpen fd := by simp [not_zero_le_neg_one]
  kept hopen := absurd hopen not_zero_le_neg_one
  lost := by simp
  nodup := List.nodup_nil

/-- With the descriptor that is kept counted among the lost ones. -/
private theorem Tracked.reopened (ht : Tracked k₀ h) {config : QueueConfig} (hname : config.name.head? = some 0x2f) :
    (∀ fd, (h.kernel.descriptors fd).isSome ↔
        (k₀.descriptors fd).isSome ∨ fd ∈ h.lost ++ overwritten config h.queue) ∧
      (∀ fd ∈ h.lost ++ overwritten config h.queue, k₀.descriptors fd = none) ∧
      (h.lost ++ overwritten config h.queue).Nodup := by
  by_cases hopen : 0 ≤ h.queue.mqd
  · have heq : overwritten config h.queue = [h.queue.mqd] := if_pos ⟨hname, hopen⟩
    obtain ⟨hkept, hnot⟩ := ht.kept hopen
    rw [heq]
    refine ⟨fun fd => ?_, fun fd hfd => ?_, ?_⟩
    · rw [ht.isOpen, List.mem_append, List.mem_singleton, or_comm (a := fd ∈ h.lost)]
      simp only [hopen, true_and]
    · rcases List.mem_append.1 hfd with hfd | hfd
      · exact ht.lost fd hfd
      · rw [List.mem_singleton.1 hfd]
        exact hkept
    · exact List.nodup_append.2 ⟨ht.nodup, List.nodup_cons.2 ⟨List.not_mem_nil, .nil⟩, fun fd hfd fd' hfd' heq =>
        hnot (List.mem_singleton.1 hfd' ▸ heq ▸ hfd)⟩
  · have heq : overwritten config h.queue = [] := if_neg fun hboth => hopen hboth.2
    rw [heq, List.append_nil]
    refine ⟨fun fd => ?_, ht.lost, ht.nodup⟩
    rw [ht.isOpen]
    simp only [hopen, false_and, false_or]

theorem Tracked.opened (ht : Tracked k₀ h) (create : Bool) (config : QueueConfig) (free : Int32) :
    Tracked k₀ (h.opened create config free) := by
  unfold QueueHolder.opened
  rcases PosixMessageQueue.openIn_cases create config free h.queue h.kernel with
    ⟨hname, heq⟩ | ⟨hname, heq⟩ | ⟨hname, hfree, hnone, queue, k', hfind, heq⟩ <;> rw [heq]
  · have hlost : overwritten config h.queue = [] := if_neg fun hboth => hname hboth.1
    rw [hlost, List.append_nil]
    exact ⟨ht.isOpen, ht.kept, ht.lost, ht.nodup⟩
  · obtain ⟨hopen, hlost, hnodup⟩ := ht.reopened hname
    refine ⟨fun fd => ?_, fun hneg => absurd hneg not_zero_le_neg_one, hlost, hnodup⟩
    simp only [hopen, not_zero_le_neg_one, false_and, false_or]
  · obtain ⟨hopen, hlost, hnodup⟩ := ht.reopened hname
    have hnew : ¬ ((k₀.descriptors free).isSome ∨ free ∈ h.lost ++ overwritten config h.queue) := by
      rw [← hopen, hnone]
      exact Bool.false_ne_true
    rw [not_or, Option.not_isSome_iff_eq_none] at hnew
    refine ⟨fun fd => ?_, fun _ => hnew, hlost, hnodup⟩
    simp only [hfree, true_and]
    by_cases hfd : fd = free
    · subst hfd
      simp
    · rw [Function.update_of_ne hfd, MqKernel.find_descriptors hfind, hopen]
      simp only [hfd, false_or]

theorem Tracked.close (ht : Tracked k₀ h) : Tracked k₀ (h.exec .close) := by
  unfold QueueHolder.exec
  by_cases hopen : 0 ≤ h.queue.mqd
  · obtain ⟨hkept, hnot⟩ := ht.kept hopen
    have hisOpen : (h.kernel.descriptors h.queue.mqd).isSome := (ht.isOpen _).2 (.inr (.inl ⟨hopen, rfl⟩))
    rw [PosixMessageQueue.closeIn_of_open hopen hisOpen]
    refine ⟨fun fd => ?_, fun hneg => absurd hneg not_zero_le_neg_one, ht.lost, ht.nodup⟩
    simp only [not_zero_le_neg_one, false_and, false_or]
    by_cases hfd : fd = h.queue.mqd
    · subst hfd
      simp [hkept, hnot]
    · rw [Function.update_of_ne hfd, ht.isOpen]
      simp only [hfd, and_false, false_or]
  · simp only [PosixMessageQueue.closeIn, PosixMessageQueue.close, ge_iff_le, if_neg hopen]
    exact ⟨ht.isOpen, ht.kept, ht.lost, ht.nodup⟩

/-- **The step lemma**: no call leaves a descriptor open that is not accounted for. -/
theorem Tracked.exec (ht : Tracked k₀ h) (call : QueueCall) : Tracked k₀ (h.exec call) := by
  cases call with
  | create config free => exact ht.opened true config free
  | openQueue config free => exact ht.opened false config free
  | close => exact ht.close
  | unlink =>
    unfold QueueHolder.exec
    rw [PosixMessageQueue.unlinkIn_frame]
    exact ⟨ht.isOpen, ht.kept, ht.lost, ht.nodup⟩

theorem Tracked.calls (ht : Tracked k₀ h) (calls : List QueueCall) : Tracked k₀ (calls.foldl QueueHolder.exec h) := by
  induction calls generalizing h with
  | nil => exact ht
  | cons call calls ih => exact ih (ht.exec call)

end

/-- What is lost stays lost, and a call loses something exactly where it opens an open queue. -/
private theorem QueueHolder.exec_lost (h : QueueHolder) (call : QueueCall) :
    ∃ more, (h.exec call).lost = h.lost ++ more ∧ (more = [] ↔ ¬ call.Reopens h.queue) := by
  have hopened (config : QueueConfig) :
      overwritten config h.queue = [] ↔ ¬ (config.name.head? = some 0x2f ∧ 0 ≤ h.queue.mqd) := by
    unfold overwritten
    split
    · next hboth => exact iff_of_false (List.cons_ne_nil _ _) (not_not.2 hboth)
    · next hnot => exact iff_of_true rfl hnot
  cases call with
  | create config free => exact ⟨overwritten config h.queue, rfl, hopened config⟩
  | openQueue config free => exact ⟨overwritten config h.queue, rfl, hopened config⟩
  | close => exact ⟨[], (List.append_nil _).symm, iff_of_true rfl id⟩
  | unlink => exact ⟨[], (List.append_nil _).symm, iff_of_true rfl id⟩

private theorem QueueHolder.lost_eq_nil_iff (h : QueueHolder) (calls : List QueueCall) :
    (calls.foldl QueueHolder.exec h).lost = [] ↔ h.lost = [] ∧ h.NeverReopened calls := by
  induction calls generalizing h with
  | nil => exact (and_iff_left trivial).symm
  | cons call calls ih =>
    obtain ⟨more, hmore, hiff⟩ := h.exec_lost call
    rw [List.foldl_cons, ih, hmore, List.append_eq_nil_iff, hiff, and_assoc]
    rfl

/-- **Descriptors.**  Whatever sequence of calls a queue of the program is given, the descriptors open at its end are
those that were open before, the one that it keeps and those that it has lost.  None is lost if and only if it is never
created or opened while it is open. -/
theorem descriptors_open_iff (k₀ : MqKernel) (calls : List QueueCall) :
    let h := calls.foldl QueueHolder.exec { kernel := k₀ }
    (∀ fd, (h.kernel.descriptors fd).isSome ↔
        (k₀.descriptors fd).isSome ∨ (0 ≤ h.queue.mqd ∧ fd = h.queue.mqd) ∨ fd ∈ h.lost) ∧
      (h.lost.Nodup ∧ (∀ fd ∈ h.lost, k₀.descriptors fd = none) ∧ (0 ≤ h.queue.mqd → h.queue.mqd ∉ h.lost)) ∧
      (h.lost = [] ↔ QueueHolder.NeverReopened { kernel := k₀ } calls) := by
  have ht := (tracked_new k₀).calls calls
  refine ⟨ht.isOpen, ⟨ht.nodup, ht.lost, fun hopen => (ht.kept hopen).2⟩, ?_⟩
  exact (QueueHolder.lost_eq_nil_iff _ calls).trans (and_iff_right rfl)

/-- A queue that is created twice keeps the second descriptor only. -/
example : ([.create {} 3, .create {} 4, .close].foldl QueueHolder.exec { kernel := {} }).lost = [3] := by
  decide

end VehicleBridge
