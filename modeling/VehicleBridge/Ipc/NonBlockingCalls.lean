import VehicleBridge.Ipc.PosixMessageQueue
import VehicleBridge.Lib.Threads
import VehicleBridge.Lib.Transition

/-!
# Calls that must not wait, together

`SendNonBlocking` and `ReceiveNonBlocking` read the flags of the descriptor, set `O_NONBLOCK`, call, and put back the
flags that they read: four steps on a descriptor that other calls share.  A call alone does what the sequential model
says (`NbCall.alone`).  Calls together do not wait, and leave the flag as it was, where the flags are put back in an
order that `NbPhase.RestoresInOrder` describes (`nonBlocking_kept`); in general they do neither.
-/

namespace VehicleBridge

open ByteText Threads Transition

inductive NbCall
  | send (message : Bytes) (priority : UInt32)
  | receive (out : Bytes × UInt32)
  deriving DecidableEq, Repr

/-- The reply to a call, with the content that a receive has written. -/
abbrev NbReply := QueueReply (Option (Bytes × UInt32))

def QueueReply.map {α β : Type} (f : α → β) : QueueReply α → QueueReply β
  | .returned ec content => .returned ec (f content)
  | .waits => .waits
  | .terminates => .terminates
  | .overreads => .overreads

namespace NbCall

/-- What the caller has of `*message` and `*priority` when nothing is received. -/
def content : NbCall → Option (Bytes × UInt32)
  | .send .. => none
  | .receive out => some out

/-- The checks before the first call of the kernel. -/
def refuses (q : PosixMessageQueue) : NbCall → Prop
  | .send message _ => q.refusesSend message
  | .receive _ => q.mqd < 0

instance (q : PosixMessageQueue) (c : NbCall) : Decidable (c.refuses q) :=
  match c with
  | .send message _ => inferInstanceAs (Decidable (q.refusesSend message))
  | .receive _ => inferInstanceAs (Decidable (q.mqd < 0))

def failure : NbCall → ErrorCode
  | .send .. => .queueSendFailed
  | .receive _ => .queueReceiveFailed

/-- `mq_send` or `mq_receive`, with what is made of its result. -/
def perform (q : PosixMessageQueue) (d : MqDescriptor) : NbCall → NbReply × MqDescriptor
  | .send message priority =>
    let rc := mqSend (cStr message) priority {} d
    ((sendReply (nonBlockingError .queueSendFailed) rc).map fun _ => none, rc.descriptor d)
  | .receive out =>
    if q.messageSize < 0 then (.terminates, d)
    else
      let rc := mqReceive (sizeT q.messageSize) {} d
      ((receiveReply (nonBlockingError .queueReceiveFailed) (sizeT q.messageSize) out rc).map some, rc.descriptor d)

/-- The call without interruption, as the sequential model has it. -/
def whole (q : PosixMessageQueue) (d : MqDescriptor) : NbCall → NbReply × MqDescriptor
  | .send message priority =>
    let result := q.sendNonBlocking message priority d
    (result.1.map fun _ => none, result.2)
  | .receive out =>
    let result := q.receiveNonBlocking out d
    (result.1.map some, result.2)

end NbCall

/-- Where a call is: before `mq_getattr`; before the `mq_setattr` that sets the flag; before `mq_send` or `mq_receive`;
in a wait of these; before the `mq_setattr` that puts the flag back; returned; or at the end of the process. -/
inductive NbPhase
  | starting (c : NbCall)
  | gotFlags (c : NbCall) (originalFlags : Bool)
  | flagSet (c : NbCall) (originalFlags : Bool)
  | waiting (c : NbCall) (originalFlags : Bool)
  | called (originalFlags : Bool) (reply : NbReply)
  | returned (reply : NbReply)
  | terminated (originalFlags : Bool)
  deriving DecidableEq, Repr

/-- The next step of a call. -/
def NbPhase.step (q : PosixMessageQueue) (phase : NbPhase) (_ : Unit) (d : MqDescriptor) :
    Option (NbPhase × MqDescriptor) :=
  match phase with
  | .starting c =>
    if c.refuses q then some (.returned (.returned .invalidParam c.content), d)
    else
      match mqGetattr d with
      | .error _ => some (.returned (.returned c.failure c.content), d)
      | .ok originalFlags => some (.gotFlags c originalFlags, d)
  | .gotFlags c originalFlags =>
    match mqSetattr true d with
    | .error _ => some (.returned (.returned c.failure c.content), d)
    | .ok d' => some (.flagSet c originalFlags, d')
  | .flagSet c originalFlags =>
    match (c.perform q d).1 with
    | .waits => some (.waiting c originalFlags, d)
    | .terminates => some (.terminated originalFlags, d)
    | reply => some (.called originalFlags reply, (c.perform q d).2)
  | .waiting c originalFlags =>
    -- the wait began with the flag cleared, and what becomes of the flag does not end it
    match (c.perform q { d with nonBlocking := false }).1 with
    | .waits => none
    | reply =>
      some (.called originalFlags reply,
        { (c.perform q { d with nonBlocking := false }).2 with nonBlocking := d.nonBlocking })
  | .called originalFlags reply => some (.returned reply, restoreQueueFlags originalFlags d)
  | .returned _ => none
  | .terminated _ => none

/-- Any number of calls on a descriptor that they share. -/
abbrev NbSystem := System MqDescriptor NbPhase

/-- A step of one of the calls, or what other calls on the queue, which leave the flag alone, make of its messages. -/
inductive NbOp
  | turn (i : Nat)
  | other (messages : List MqMessage)

def NbOp.exec (q : PosixMessageQueue) (op : NbOp) (s : NbSystem) : Option NbSystem :=
  match op with
  | .turn i => s.turn (NbPhase.step q) i ()
  | .other messages => some { s with shared := { s.shared with queue := { s.shared.queue with messages } } }

def NbSystem.start (d : MqDescriptor) (calls : List NbCall) : NbSystem :=
  { shared := d, locals := calls.map .starting }

/-! ### One step -/

private theorem NbCall.perform_frame (q : PosixMessageQueue) (d : MqDescriptor) (c : NbCall) :
    (c.perform q d).2.nonBlocking = d.nonBlocking ∧ (c.perform q d).2.isOpen = d.isOpen := by
  cases c with
  | send message priority =>
    simp only [perform]
    cases h : mqSend (cStr message) priority {} d with
    | done result d' =>
      obtain ⟨-, -, rfl⟩ := mqSend_eq_done h
      exact ⟨rfl, rfl⟩
    | failed errno => exact ⟨rfl, rfl⟩
    | waits => exact ⟨rfl, rfl⟩
  | receive out =>
    simp only [perform]
    split
    · exact ⟨rfl, rfl⟩
    cases h : mqReceive (sizeT q.messageSize) {} d with
    | done m d' =>
      obtain ⟨-, -, rest, -, rfl⟩ := mqReceive_eq_done h
      exact ⟨rfl, rfl⟩
    | failed errno => exact ⟨rfl, rfl⟩
    | waits => exact ⟨rfl, rfl⟩

/-- With the flag set no call waits. -/
private theorem NbCall.perform_ne_waits {d : MqDescriptor} (h : d.nonBlocking = true) (q : PosixMessageQueue)
    (c : NbCall) : (c.perform q d).1 ≠ .waits := by
  cases c with
  | send message priority =>
    have hsend : mqSend (cStr message) priority {} d ≠ .waits := mqSend_ne_waits h
    simp only [perform]
    cases hrc : mqSend (cStr message) priority {} d with
    | done => simp [sendReply, QueueReply.map]
    | failed => simp [sendReply, QueueReply.map]
    | waits => exact absurd hrc hsend
  | receive out =>
    have hreceive : mqReceive (sizeT q.messageSize) {} d ≠ .waits := mqReceive_ne_waits h
    simp only [perform]
    split
    · simp
    cases hrc : mqReceive (sizeT q.messageSize) {} d with
    | done m d' =>
      simp only [receiveReply]
      split <;> simp [QueueReply.map]
    | failed => simp [receiveReply, QueueReply.map]
    | waits => exact absurd hrc hreceive

/-- From which phase to which one a call goes, and what it makes of the descriptor on the way. -/
inductive NbMove (d : MqDescriptor) : NbPhase → NbPhase → MqDescriptor → Prop
  | leave (c : NbCall) (reply : NbReply) : NbMove d (.starting c) (.returned reply) d
  | read (c : NbCall) : d.isOpen = true → NbMove d (.starting c) (.gotFlags c d.nonBlocking) d
  | giveUp (c : NbCall) (originalFlags : Bool) (reply : NbReply) : d.isOpen = false →
      NbMove d (.gotFlags c originalFlags) (.returned reply) d
  | set (c : NbCall) (originalFlags : Bool) :
      NbMove d (.gotFlags c originalFlags) (.flagSet c originalFlags) { d with nonBlocking := true }
  | block (c : NbCall) (originalFlags : Bool) : d.nonBlocking = false →
      NbMove d (.flagSet c originalFlags) (.waiting c originalFlags) d
  | terminate (c : NbCall) (originalFlags : Bool) :
      NbMove d (.flagSet c originalFlags) (.terminated originalFlags) d
  | call (c : NbCall) (originalFlags : Bool) (reply : NbReply) (d' : MqDescriptor) :
      d'.nonBlocking = d.nonBlocking → d'.isOpen = d.isOpen →
      NbMove d (.flagSet c originalFlags) (.called originalFlags reply) d'
  | wake (c : NbCall) (originalFlags : Bool) (phase' : NbPhase) (d' : MqDescriptor) :
      NbMove d (.waiting c originalFlags) phase' d'
  | restore (originalFlags : Bool) (reply : NbReply) : d.isOpen = true →
      NbMove d (.called originalFlags reply) (.returned reply) { d with nonBlocking := originalFlags }
  | restoreFails (originalFlags : Bool) (reply : NbReply) : d.isOpen = false →
      NbMove d (.called originalFlags reply) (.returned reply) d

/-- **What a step can do.** -/
theorem NbPhase.step_moves {q : PosixMessageQueue} {phase phase' : NbPhase} {d d' : MqDescriptor}
    (h : phase.step q () d = some (phase', d')) : NbMove d phase phase' d' := by
  cases phase with
  | starting c =>
    simp only [step] at h
    split at h
    · cases h
      exact .leave c _
    · by_cases hopen : d.isOpen = true
      · simp only [mqGetattr, if_pos hopen, Option.some.injEq, Prod.mk.injEq] at h
        rw [← h.1, ← h.2]
        exact .read c hopen
      · simp only [mqGetattr, if_neg hopen, Option.some.injEq, Prod.mk.injEq] at h
        rw [← h.1, ← h.2]
        exact .leave c _
  | gotFlags c originalFlags =>
    by_cases hopen : d.isOpen = true
    · simp only [step, mqSetattr, if_pos hopen, Option.some.injEq, Prod.mk.injEq] at h
      rw [← h.1, ← h.2]
      exact .set c originalFlags
    · simp only [step, mqSetattr, if_neg hopen, Option.some.injEq, Prod.mk.injEq] at h
      rw [← h.1, ← h.2]
      exact .giveUp c originalFlags _ (Bool.not_eq_true _ ▸ hopen)
  | flagSet c originalFlags =>
    have hframe := c.perform_frame q d
    simp only [step] at h
    split at h
    · next hwaits =>
      cases h
      refine .block c originalFlags (Bool.not_eq_true _ ▸ fun hset => ?_)
      exact c.perform_ne_waits hset q hwaits
    · cases h
      exact .terminate c originalFlags
    · cases h
      exact .call c originalFlags _ _ hframe.1 hframe.2
  | waiting c originalFlags => exact .wake c originalFlags phase' d'
  | called originalFlags reply =>
    by_cases hopen : d.isOpen = true
    · simp only [step, restoreQueueFlags, mqSetattr, if_pos hopen, Option.some.injEq, Prod.mk.injEq] at h
      rw [← h.1, ← h.2]
      exact .restore originalFlags reply hopen
    · simp only [step, restoreQueueFlags, mqSetattr, if_neg hopen, Option.some.injEq, Prod.mk.injEq] at h
      rw [← h.1, ← h.2]
      exact .restoreFails originalFlags reply (Bool.not_eq_true _ ▸ hopen)
  | returned reply => cases h
  | terminated originalFlags => cases h

/-! ### A call alone -/

/-- What an open queue makes of a call that it does not refuse. -/
private theorem NbCall.whole_eq {q : PosixMessageQueue} {d : MqDescriptor} {c : NbCall} (hrefuses : ¬ c.refuses q)
    (hopen : d.isOpen = true) (hends : (c.perform q { d with nonBlocking := true }).1 ≠ .terminates) :
    c.whole q d = ((c.perform q { d with nonBlocking := true }).1,
      restoreQueueFlags d.nonBlocking (c.perform q { d with nonBlocking := true }).2) := by
  have hset : setQueueNonBlocking true d = some (d.nonBlocking, { d with nonBlocking := true }) := by
    simp only [setQueueNonBlocking, mqGetattr, mqSetattr, hopen, if_true]
  cases c with
  | send message priority =>
    have hsend : ¬ q.refusesSend message := hrefuses
    simp only [whole, PosixMessageQueue.sendNonBlocking, if_neg hsend, hset]
    rfl
  | receive out =>
    have hmqd : ¬ q.mqd < 0 := hrefuses
    simp only [perform] at hends ⊢
    simp only [whole, PosixMessageQueue.receiveNonBlocking, if_neg hmqd, hset]
    split
    · next hsize =>
      rw [if_pos hsize] at hends
      exact absurd rfl hends
    · rfl

private theorem NbCall.whole_of_refuses {q : PosixMessageQueue} {d : MqDescriptor} {c : NbCall}
    (hrefuses : c.refuses q) : c.whole q d = (.returned .invalidParam c.content, d) := by
  cases c with
  | send message priority =>
    have hsend : q.refusesSend message := hrefuses
    simp only [whole, PosixMessageQueue.sendNonBlocking, if_pos hsend]
    rfl
  | receive out =>
    have hmqd : q.mqd < 0 := hrefuses
    simp only [whole, PosixMessageQueue.receiveNonBlocking, if_pos hmqd]
    rfl

private theorem NbCall.whole_of_closed {q : PosixMessageQueue} {d : MqDescriptor} {c : NbCall}
    (hrefuses : ¬ c.refuses q) (hopen : ¬ d.isOpen = true) : c.whole q d = (.returned c.failure c.content, d) := by
  have hset : setQueueNonBlocking true d = none := by
    simp only [setQueueNonBlocking, mqGetattr, if_neg hopen]
  cases c with
  | send message priority =>
    have hsend : ¬ q.refusesSend message := hrefuses
    simp only [whole, PosixMessageQueue.sendNonBlocking, if_neg hsend, hset]
    rfl
  | receive out =>
    have hmqd : ¬ q.mqd < 0 := hrefuses
    simp only [whole, PosixMessageQueue.receiveNonBlocking, if_neg hmqd, hset]
    rfl

private theorem NbOp.exec_alone {q : PosixMessageQueue} {phase phase' : NbPhase} {d d' : MqDescriptor}
    (h : phase.step q () d = some (phase', d')) :
    NbOp.exec q (.turn 0) { shared := d, locals := [phase] } = some { shared := d', locals := [phase'] } := by
  simp [exec, System.turn, h]

/-- **A call alone** does in its steps what the sequential model says, unless it ends the process. -/
theorem NbCall.alone (q : PosixMessageQueue) (d : MqDescriptor) (c : NbCall)
    (hends : (c.perform q { d with nonBlocking := true }).1 ≠ .terminates) :
    ∃ ops, Run (fun s op s' => NbOp.exec q op s = some s') (NbSystem.start d [c]) ops
      { shared := (c.whole q d).2, locals := [.returned (c.whole q d).1] } := by
  by_cases hrefuses : c.refuses q
  · rw [whole_of_refuses hrefuses]
    refine ⟨[.turn 0], .cons (NbOp.exec_alone ?_) (.refl _)⟩
    simp only [NbPhase.step, if_pos hrefuses]
  by_cases hopen : d.isOpen = true
  · have hwaits := c.perform_ne_waits (d := { d with nonBlocking := true }) rfl q
    have hget : (NbPhase.starting c).step q () d = some (.gotFlags c d.nonBlocking, d) := by
      simp only [NbPhase.step, if_neg hrefuses, mqGetattr, if_pos hopen]
    have hset : (NbPhase.gotFlags c d.nonBlocking).step q () d =
        some (.flagSet c d.nonBlocking, { d with nonBlocking := true }) := by
      simp only [NbPhase.step, mqSetattr, if_pos hopen]
    have hcall : (NbPhase.flagSet c d.nonBlocking).step q () { d with nonBlocking := true } =
        some (.called d.nonBlocking (c.perform q { d with nonBlocking := true }).1,
          (c.perform q { d with nonBlocking := true }).2) := by
      simp only [NbPhase.step]
    rw [whole_eq hrefuses hopen hends]
    exact ⟨[.turn 0, .turn 0, .turn 0, .turn 0], .cons (NbOp.exec_alone hget) <| .cons (NbOp.exec_alone hset) <|
      .cons (NbOp.exec_alone hcall) <| .cons (NbOp.exec_alone rfl) (.refl _)⟩
  · rw [whole_of_closed hrefuses hopen]
    refine ⟨[.turn 0], .cons (NbOp.exec_alone ?_) (.refl _)⟩
    simp only [NbPhase.step, if_neg hrefuses, mqGetattr, if_neg hopen]

/-! ### The order of restoring -/

namespace NbPhase

/-- The flag that the call has read and is to put back. -/
def saved : NbPhase → Option Bool
  | .starting _ => none
  | .gotFlags _ originalFlags => some originalFlags
  | .flagSet _ originalFlags => some originalFlags
  | .waiting _ originalFlags => some originalFlags
  | .called originalFlags _ => some originalFlags
  | .returned _ => none
  | .terminated originalFlags => some originalFlags

/-- The next step of the call is its `mq_send` or `mq_receive`. -/
def AboutToCall : NbPhase → Prop
  | .flagSet .. => True
  | _ => False

/-- The call waits in the kernel. -/
def Waits : NbPhase → Prop
  | .waiting .. => True
  | _ => False

def HasReturned : NbPhase → Prop
  | .returned _ => True
  | _ => False

/-- The call has set the flag and not yet put it back. -/
def HoldsFlag : NbPhase → Prop
  | .flagSet .. | .waiting .. | .called .. | .terminated _ => True
  | _ => False

end NbPhase

instance (phase : NbPhase) : Decidable phase.AboutToCall :=
  match phase with
  | .flagSet .. => inferInstanceAs (Decidable True)
  | .starting _ | .gotFlags .. | .waiting .. | .called .. | .returned _ | .terminated _ =>
    inferInstanceAs (Decidable False)

/-- A call puts a cleared flag back only while no call is between setting the flag and its `mq_send` or `mq_receive`,
and another flag than the original one only while a call is under way that is to put the original one back. -/
def NbPhase.RestoresInOrder (original : Bool) (s : NbSystem) : NbPhase → Prop
  | .called originalFlags _ =>
    (originalFlags = false → ∀ phase ∈ s.locals, ¬ phase.AboutToCall) ∧
      (originalFlags ≠ original → ∃ phase ∈ s.locals, phase.saved = some original)
  | _ => True

instance (original : Bool) (s : NbSystem) (phase : NbPhase) : Decidable (phase.RestoresInOrder original s) :=
  match phase with
  | .called _ _ => inferInstanceAs (Decidable (_ ∧ _))
  | .starting _ | .gotFlags .. | .flagSet .. | .waiting .. | .returned _ | .terminated _ =>
    inferInstanceAs (Decidable True)

def NbOp.RestoresInOrder (original : Bool) (s : NbSystem) : NbOp → Prop
  | .turn i => ∀ phase ∈ s.locals[i]?, phase.RestoresInOrder original s
  | .other _ => True

instance (original : Bool) (s : NbSystem) (op : NbOp) : Decidable (op.RestoresInOrder original s) :=
  match op with
  | .turn i => inferInstanceAs (Decidable (∀ phase ∈ s.locals[i]?, phase.RestoresInOrder original s))
  | .other _ => inferInstanceAs (Decidable True)

/-- A call keeps the flag from being left set: it is to clear it, or it holds it. -/
def NbPhase.Answers (phase : NbPhase) : Prop :=
  phase.saved = some false ∨ phase.HoldsFlag

/-- The flag while its restoring is in order. -/
structure FlagKept (original : Bool) (s : NbSystem) : Prop where
  isOpen : ∀ phase ∈ s.locals, phase.saved ≠ none → s.shared.isOpen = true
  armed : ∀ phase ∈ s.locals, phase.AboutToCall → s.shared.nonBlocking = true
  awake : ∀ phase ∈ s.locals, ¬ phase.Waits
  kept : original = true → s.shared.nonBlocking = true ∧ ∀ phase ∈ s.locals, phase.saved ≠ some false
  answered : original = false → s.shared.nonBlocking = true → ∃ phase ∈ s.locals, phase.Answers

theorem FlagKept.start (d : MqDescriptor) (calls : List NbCall) :
    FlagKept d.nonBlocking (NbSystem.start d calls) := by
  have hlocals : ∀ P : NbPhase → Prop, (∀ c, P (.starting c)) → ∀ phase ∈ (NbSystem.start d calls).locals, P phase := by
    intro P hP phase hphase
    obtain ⟨c, -, rfl⟩ := List.mem_map.1 hphase
    exact hP c
  exact {
    isOpen := hlocals _ fun _ hsaved => absurd rfl hsaved
    armed := hlocals _ fun _ => False.elim
    awake := hlocals _ fun _ => id
    kept := fun horiginal => ⟨horiginal, hlocals _ fun _ => nofun⟩
    answered := fun horiginal hset => absurd (horiginal.symm.trans hset) Bool.false_ne_true }

section
variable {original : Bool} {s : NbSystem} {i : Nat} {phase phase' : NbPhase} {d' : MqDescriptor}

/-- A step of one call that leaves the flag alone, or sets it. -/
theorem FlagKept.set (h : FlagKept original s) (hphase : s.locals[i]? = some phase)
    (hopen : d'.isOpen = s.shared.isOpen) (hsaved : phase'.saved ≠ none → s.shared.isOpen = true)
    (hflag : s.shared.nonBlocking = true → d'.nonBlocking = true)
    (harmed : phase'.AboutToCall → d'.nonBlocking = true) (hawake : ¬ phase'.Waits)
    (hkept : original = true → phase'.saved ≠ some false)
    (hanswers : original = false → d'.nonBlocking = true →
      phase'.Answers ∨ s.shared.nonBlocking = true ∧ (phase.Answers → phase'.Answers)) :
    FlagKept original { shared := d', locals := s.locals.set i phase' } where
  isOpen := forall_set i (fun p hp hsaved' => hopen.trans (h.isOpen p hp hsaved')) fun hsaved' =>
    hopen.trans (hsaved hsaved')
  armed := forall_set i (fun p hp hcall => hflag (h.armed p hp hcall)) harmed
  awake := forall_set i h.awake hawake
  kept horiginal := ⟨hflag (h.kept horiginal).1, forall_set i (h.kept horiginal).2 (hkept horiginal)⟩
  answered horiginal hset := by
    rcases hanswers horiginal hset with hanswer | ⟨hbefore, hanswer⟩
    · exact ⟨phase', List.mem_of_getElem? (getElem?_set_of_some phase' hphase), hanswer⟩
    · exact exists_set hphase hanswer (h.answered horiginal hbefore)

/-- **The step lemma.** -/
theorem FlagKept.exec {q : PosixMessageQueue} {s s' : NbSystem} {op : NbOp} (h : FlagKept original s)
    (horder : op.RestoresInOrder original s) (hstep : op.exec q s = some s') : FlagKept original s' := by
  cases op with
  | other messages =>
    cases hstep
    exact ⟨h.isOpen, h.armed, h.awake, h.kept, h.answered⟩
  | turn i =>
    obtain ⟨phase, phase', d', hphase, hturn, rfl⟩ := System.turn_eq_some hstep
    have hmem : phase ∈ s.locals := List.mem_of_getElem? hphase
    cases NbPhase.step_moves hturn with
    | leave c reply =>
      refine h.set hphase rfl (fun hsaved => absurd rfl hsaved) id False.elim id (fun _ => nofun)
        fun _ hset => .inr ⟨hset, ?_⟩
      rintro (heq | hholds)
      · cases heq
      · exact hholds.elim
    | read c hopen =>
      refine h.set hphase rfl (fun _ => hopen) id False.elim id (fun horiginal => ?_) fun _ hset => .inr ⟨hset, ?_⟩
      · rw [(h.kept horiginal).1]
        exact nofun
      · rintro (heq | hholds)
        · cases heq
        · exact hholds.elim
    | giveUp c originalFlags reply hclosed =>
      exact absurd ((h.isOpen _ hmem nofun).symm.trans hclosed) Bool.true_eq_false.mp
    | set c originalFlags =>
      have hkept : original = true → some originalFlags ≠ some false := fun horiginal => (h.kept horiginal).2 _ hmem
      exact h.set hphase rfl (fun _ => h.isOpen _ hmem nofun) (fun _ => rfl) (fun _ => rfl) id hkept
        fun _ _ => .inl (.inr trivial)
    | block c originalFlags hclear =>
      exact absurd ((h.armed _ hmem trivial).symm.trans hclear) Bool.true_eq_false.mp
    | terminate c originalFlags =>
      have hkept : original = true → some originalFlags ≠ some false := fun horiginal => (h.kept horiginal).2 _ hmem
      exact h.set hphase rfl (fun _ => h.isOpen _ hmem nofun) id False.elim id hkept fun _ _ => .inl (.inr trivial)
    | call c originalFlags reply d' hflag hopen =>
      have hkept : original = true → some originalFlags ≠ some false := fun horiginal => (h.kept horiginal).2 _ hmem
      exact h.set hphase hopen (fun _ => h.isOpen _ hmem nofun) (fun hset => hflag.trans hset) False.elim id hkept
        fun _ _ => .inl (.inr trivial)
    | wake c originalFlags => exact absurd trivial (h.awake _ hmem)
    | restore originalFlags reply hopen =>
      obtain ⟨hclears, hsets⟩ := horder _ hphase
      exact {
        isOpen := forall_set i h.isOpen fun hsaved => absurd rfl hsaved
        armed := forall_set i (fun p hp hcall => Bool.not_eq_false _ ▸ fun hclear => hclears hclear p hp hcall)
          False.elim
        awake := forall_set i h.awake id
        kept := fun horiginal => by
          have hkept : some originalFlags ≠ some false := (h.kept horiginal).2 _ hmem
          exact ⟨Bool.not_eq_false _ ▸ fun hclear => hkept (congrArg some hclear),
            forall_set i (h.kept horiginal).2 nofun⟩
        answered := fun horiginal hset => by
          -- a flag that was set by others is put back: one that was clear is still to come
          have hset' : originalFlags = true := hset
          obtain ⟨p, hp, hsaved⟩ := hsets (by rw [hset', horiginal]; decide)
          rw [horiginal] at hsaved
          refine ⟨p, mem_set_of_ne hphase ?_ hp, .inl hsaved⟩
          rintro rfl
          rw [hset'] at hsaved
          cases hsaved }
    | restoreFails originalFlags reply hclosed =>
      exact absurd ((h.isOpen _ hmem nofun).symm.trans hclosed) Bool.true_eq_false.mp

end

/-- **Calls that must not wait.**  In every run in which the flags are put back in order, the flag is set whenever a
call is about to make its `mq_send` or `mq_receive`, no call waits, and once all have returned the flag is what it was
at the start. -/
theorem nonBlocking_kept {q : PosixMessageQueue} {d : MqDescriptor} {calls : List NbCall} {ops : List NbOp}
    {s : NbSystem}
    (hrun : Run (fun s op s' => op.RestoresInOrder d.nonBlocking s ∧ NbOp.exec q op s = some s')
      (NbSystem.start d calls) ops s) :
    (∀ phase ∈ s.locals, phase.AboutToCall → s.shared.nonBlocking = true) ∧
      (∀ phase ∈ s.locals, ¬ phase.Waits) ∧
      ((∀ phase ∈ s.locals, phase.HasReturned) → s.shared.nonBlocking = d.nonBlocking) := by
  have hkept : FlagKept d.nonBlocking s :=
    hrun.invariant (fun _ _ _ h hstep => FlagKept.exec h hstep.1 hstep.2) (FlagKept.start d calls)
  refine ⟨hkept.armed, hkept.awake, fun hreturned => ?_⟩
  cases horiginal : d.nonBlocking with
  | true => exact (hkept.kept horiginal).1
  | false =>
    rw [← Bool.not_eq_true]
    intro hset
    obtain ⟨phase, hphase, hanswers⟩ := hkept.answered horiginal hset
    have hdone := hreturned phase hphase
    cases phase with
    | returned reply =>
      rcases hanswers with heq | hholds
      · cases heq
      · exact hholds
    | _ => exact hdone

/-- A send and a receive on a queue of one message. -/
def nestedCalls : List NbCall :=
  [.send (text "step") 1, .receive ([], 0)]

def narrowQueue : MqDescriptor :=
  { queue := { maxMsg := 1, msgSize := 256 } }

def openedQueue : PosixMessageQueue :=
  (PosixMessageQueue.create {} 3 {}).2

/-- The receive runs inside the send. -/
theorem nonBlocking_kept_nested :
    ∃ s, Run (fun s op s' => NbOp.RestoresInOrder false s op ∧ NbOp.exec openedQueue op s = some s')
        (NbSystem.start narrowQueue nestedCalls)
        [.turn 0, .turn 0, .turn 1, .turn 1, .turn 0, .turn 1, .turn 1, .turn 0] s ∧
      ((∀ phase ∈ s.locals, phase.HasReturned) → s.shared.nonBlocking = false) := by
  have hsome : ([.turn 0, .turn 0, .turn 1, .turn 1, .turn 0, .turn 1, .turn 1, .turn 0].foldlM
      (fun s op => if NbOp.RestoresInOrder false s op then NbOp.exec openedQueue op s else none)
      (NbSystem.start narrowQueue nestedCalls)).isSome = true := by decide
  obtain ⟨s, hs⟩ := Option.isSome_iff_exists.1 hsome
  have hrun := Run.of_foldlM_guarded hs
  exact ⟨s, hrun, (nonBlocking_kept (d := narrowQueue) hrun).2.2⟩

/-- The send puts the cleared flag back while the receive, which has set it, is about to call; or it does so before the
receive sets the flag, which then stays set. -/
theorem nonBlocking_not_kept :
    (¬ ∀ (q : PosixMessageQueue) (d : MqDescriptor) (calls : List NbCall) (ops : List NbOp) (s : NbSystem),
        Run (fun s op s' => NbOp.exec q op s = some s') (NbSystem.start d calls) ops s →
          ∀ phase ∈ s.locals, phase.AboutToCall → s.shared.nonBlocking = true) ∧
      ¬ ∀ (q : PosixMessageQueue) (d : MqDescriptor) (calls : List NbCall) (ops : List NbOp) (s : NbSystem),
        Run (fun s op s' => NbOp.exec q op s = some s') (NbSystem.start d calls) ops s →
          (∀ phase ∈ s.locals, phase.HasReturned) → s.shared.nonBlocking = d.nonBlocking := by
  constructor
  · intro h
    have hexec : ([.turn 0, .turn 0, .turn 1, .turn 1, .turn 0, .turn 0].foldlM (fun s op => NbOp.exec openedQueue op s)
        (NbSystem.start narrowQueue nestedCalls)).map (fun s => (s.shared.nonBlocking, s.locals[1]?)) =
        some (false, some (.flagSet (.receive ([], 0)) true)) := by decide
    obtain ⟨s, hs, heq⟩ := Option.map_eq_some_iff.1 hexec
    simp only [Prod.mk.injEq] at heq
    have hset := h _ _ _ _ s (Run.of_foldlM hs) _ (List.mem_of_getElem? heq.2) trivial
    rw [heq.1] at hset
    cases hset
  · intro h
    have hexec : ([.turn 0, .turn 0, .turn 1, .turn 0, .turn 0, .turn 1, .turn 1, .turn 1].foldlM
        (fun s op => NbOp.exec openedQueue op s) (NbSystem.start narrowQueue nestedCalls)).map
          (fun s => (s.shared.nonBlocking, s.locals)) =
        some (true, [.returned (.returned .ok none), .returned (.returned .ok (some (text "step", 1)))]) := by decide
    obtain ⟨s, hs, heq⟩ := Option.map_eq_some_iff.1 hexec
    simp only [Prod.mk.injEq] at heq
    have hclear := h _ _ _ _ s (Run.of_foldlM hs) (by rw [heq.2]; simp [NbPhase.HasReturned])
    rw [heq.1] at hclear
    cases hclear

end VehicleBridge
