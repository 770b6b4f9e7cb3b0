import VehicleBridge.Lib.Threads
import VehicleBridge.Lib.Transition

/-!
# Events

`osal::Event` is a flag under a mutex with a condition variable.  Both `NotifyOne` and `NotifyAll` set the flag, which
stays set until `Reset`, and they notify the condition variable after they have released the mutex; so a thread can
reset the event, or begin to wait for it, in between.  `event_waits` says what the waiting threads can rely on: a call
returns for what the event was during the call, nobody sleeps through a `NotifyAll`, and while the event stays set each
`NotifyOne` wakes one of those that sleep.
-/

namespace VehicleBridge

open Threads Transition

/-! ### Calls on an event -/

/-- What a section under the mutex does with `signaled_`. -/
inductive EventChange
  | notified (everyone : Bool)
  | reset
  deriving DecidableEq, Repr

/-- Where a call of `Wait` or `WaitFor` stands.  It looks at `signaled_` whenever it has the mutex; after a timeout it
does so for the last time. -/
inductive WaitPhase
  | locking (timedOut : Bool)
  | waiting
  | returned (result : Bool) (finish : Nat)
  deriving DecidableEq, Repr

/-- A call of `Wait`, or of `WaitFor`, and how many changes the event has had before. -/
structure WaitCall where
  timed : Bool
  start : Nat
  phase : WaitPhase := .locking false
  deriving DecidableEq, Repr

/-- A call of `NotifyOne` or `NotifyAll` that has set the event. -/
structure NotifyCall where
  everyone : Bool
  notifying : Bool := true
  deriving DecidableEq, Repr

/-- An event with the calls that are made on it and the changes it has had. -/
structure EventThreads where
  signaled : Bool := false
  waits : List WaitCall := []
  notifies : List NotifyCall := []
  changes : List EventChange := []
  deriving DecidableEq, Repr

/-- A step of one thread.  `wake` is a wakeup without a notification, which `wait` allows for. -/
inductive EventOp
  | wait (timed : Bool)
  | check (call : Nat)
  | wake (call : Nat)
  | timeout (call : Nat)
  | notify (everyone : Bool)
  | notifyOne (call : Nat) (woken : Option Nat)
  | notifyAll (call : Nat)
  | reset
  deriving DecidableEq, Repr

def WaitCall.moveTo (call : WaitCall) (phase : WaitPhase) : WaitCall :=
  { call with phase }

/-- The predicate of `wait`, under the mutex. -/
def EventThreads.checked (s : EventThreads) (timedOut : Bool) : WaitPhase :=
  if s.signaled then .returned true s.changes.length
  else if timedOut then .returned false s.changes.length
  else .waiting

/-- A call that is woken goes for the mutex. -/
def WaitCall.wakeUp (call : WaitCall) : WaitCall :=
  if call.phase = .waiting then call.moveTo (.locking false) else call

/-- The next state, where the step can be taken. -/
def EventThreads.exec (s : EventThreads) : EventOp → Option EventThreads
  | .wait timed => some { s with waits := s.waits ++ [{ timed, start := s.changes.length }] }
  | .check call =>
    s.waits[call]?.bind fun w =>
      match w.phase with
      | .locking timedOut => some { s with waits := s.waits.set call (w.moveTo (s.checked timedOut)) }
      | _ => none
  | .wake call =>
    s.waits[call]?.bind fun w =>
      if w.phase = .waiting then some { s with waits := s.waits.set call (w.moveTo (.locking false)) } else none
  | .timeout call =>
    s.waits[call]?.bind fun w =>
      if w.phase = .waiting ∧ w.timed then some { s with waits := s.waits.set call (w.moveTo (.locking true)) }
      else none
  | .notify everyone =>
    some { s with
      signaled := true
      notifies := s.notifies ++ [{ everyone }]
      changes := s.changes ++ [.notified everyone] }
  | .notifyOne call woken =>
    if s.notifies[call]? = some { everyone := false } then
      match woken with
      | some waiter =>
        s.waits[waiter]?.bind fun w =>
          if w.phase = .waiting then
            some { s with
              waits := s.waits.set waiter (w.moveTo (.locking false))
              notifies := s.notifies.set call { everyone := false, notifying := false } }
          else none
      | none =>
        if ∃ w ∈ s.waits, w.phase = .waiting then none
        else some { s with notifies := s.notifies.set call { everyone := false, notifying := false } }
    else none
  | .notifyAll call =>
    if s.notifies[call]? = some { everyone := true } then
      some { s with
        waits := s.waits.map WaitCall.wakeUp
        notifies := s.notifies.set call { everyone := true, notifying := false } }
    else none
  | .reset => some { s with signaled := false, changes := s.changes ++ [.reset] }

/-! ### Steps -/

/-- The steps of `EventThreads.exec`, with what each of them finds. -/
inductive EventStep (s : EventThreads) : EventOp → EventThreads → Prop
  | wait (timed : Bool) :
      EventStep s (.wait timed) { s with waits := s.waits ++ [{ timed, start := s.changes.length }] }
  | check {call : Nat} {w : WaitCall} {timedOut : Bool} :
      s.waits[call]? = some w → w.phase = .locking timedOut →
      EventStep s (.check call) { s with waits := s.waits.set call (w.moveTo (s.checked timedOut)) }
  | wake {call : Nat} {w : WaitCall} :
      s.waits[call]? = some w → w.phase = .waiting →
      EventStep s (.wake call) { s with waits := s.waits.set call (w.moveTo (.locking false)) }
  | timeout {call : Nat} {w : WaitCall} :
      s.waits[call]? = some w → w.phase = .waiting → w.timed = true →
      EventStep s (.timeout call) { s with waits := s.waits.set call (w.moveTo (.locking true)) }
  | notify (everyone : Bool) :
      EventStep s (.notify everyone)
        { s with
          signaled := true
          notifies := s.notifies ++ [{ everyone }]
          changes := s.changes ++ [.notified everyone] }
  | notifyOne {call waiter : Nat} {w : WaitCall} :
      s.notifies[call]? = some { everyone := false } → s.waits[waiter]? = some w → w.phase = .waiting →
      EventStep s (.notifyOne call (some waiter))
        { s with
          waits := s.waits.set waiter (w.moveTo (.locking false))
          notifies := s.notifies.set call { everyone := false, notifying := false } }
  | notifyNobody {call : Nat} :
      s.notifies[call]? = some { everyone := false } → (∀ w ∈ s.waits, w.phase ≠ .waiting) →
      EventStep s (.notifyOne call none)
        { s with notifies := s.notifies.set call { everyone := false, notifying := false } }
  | notifyAll {call : Nat} :
      s.notifies[call]? = some { everyone := true } →
      EventStep s (.notifyAll call)
        { s with
          waits := s.waits.map WaitCall.wakeUp
          notifies := s.notifies.set call { everyone := true, notifying := false } }
  | reset : EventStep s .reset { s with signaled := false, changes := s.changes ++ [.reset] }

theorem EventThreads.exec_cases {s s' : EventThreads} {op : EventOp} (h : s.exec op = some s') : EventStep s op s' := by
  cases op with
  | wait timed => cases h; exact .wait timed
  | check call =>
    obtain ⟨w, hw, h⟩ := Option.bind_eq_some_iff.1 h
    cases hphase : w.phase with
    | locking timedOut =>
      simp only [hphase] at h
      cases h
      exact .check hw hphase
    | waiting => simp only [hphase] at h; cases h
    | returned result finish => simp only [hphase] at h; cases h
  | wake call =>
    obtain ⟨w, hw, h⟩ := Option.bind_eq_some_iff.1 h
    split at h
    · next hphase => cases h; exact .wake hw hphase
    · cases h
  | timeout call =>
    obtain ⟨w, hw, h⟩ := Option.bind_eq_some_iff.1 h
    split at h
    · next hphase => cases h; exact .timeout hw hphase.1 hphase.2
    · cases h
  | notify everyone => cases h; exact .notify everyone
  | notifyOne call woken =>
    simp only [EventThreads.exec] at h
    split at h
    · next hcall =>
      cases woken with
      | some waiter =>
        obtain ⟨w, hw, h⟩ := Option.bind_eq_some_iff.1 h
        split at h
        · next hphase => cases h; exact .notifyOne hcall hw hphase
        · cases h
      | none =>
        simp only at h
        split at h
        · cases h
        · next hnone =>
          cases h
          exact .notifyNobody hcall fun w hw hphase => hnone ⟨w, hw, hphase⟩
    · cases h
  | notifyAll call =>
    simp only [EventThreads.exec] at h
    split at h
    · next hcall => cases h; exact .notifyAll hcall
    · cases h
  | reset => cases h; exact .reset

/-! ### What the calls have seen -/

/-- What the event is after some changes. -/
def signaledAfter (changes : List EventChange) : Bool :=
  match changes.getLast? with
  | some (.notified _) => true
  | _ => false

/-- Has there been a `NotifyAll` since the last `Reset`? -/
def allNotified (changes : List EventChange) : Bool :=
  changes.foldl (fun all change => match change with
    | .notified everyone => all || everyone
    | .reset => false) false

section
variable {changes : List EventChange}

private theorem signaledAfter_notified (everyone : Bool) : signaledAfter (changes ++ [.notified everyone]) = true := by
  rw [signaledAfter, List.getLast?_concat]

private theorem signaledAfter_reset : signaledAfter (changes ++ [.reset]) = false := by
  rw [signaledAfter, List.getLast?_concat]

private theorem allNotified_notified (everyone : Bool) :
    allNotified (changes ++ [.notified everyone]) = (allNotified changes || everyone) := by
  rw [allNotified, List.foldl_concat, ← allNotified]

private theorem allNotified_reset : allNotified (changes ++ [.reset]) = false := by
  rw [allNotified, List.foldl_concat]

private theorem signaledAfter_of_allNotified (h : allNotified changes = true) : signaledAfter changes = true := by
  rcases List.eq_nil_or_concat changes with rfl | ⟨before, change, rfl⟩
  · cases h
  · rw [List.concat_eq_append] at h ⊢
    cases change with
    | notified everyone => exact signaledAfter_notified everyone
    | reset => rw [allNotified_reset] at h; cases h

end

/-- A call that has returned tells what the event was at the time; only a `WaitFor` returns from an event that is not
set. -/
structure WaitCall.Ok (changes : List EventChange) (w : WaitCall) : Prop where
  start_le : w.start ≤ changes.length
  timedOut : w.phase = .locking true → w.timed = true
  returned : ∀ result finish, w.phase = .returned result finish →
    w.start ≤ finish ∧ finish ≤ changes.length ∧ signaledAfter (changes.take finish) = result ∧
      (result = false → w.timed = true)

theorem WaitCall.Ok.mono {changes : List EventChange} {w : WaitCall} (h : w.Ok changes) (change : EventChange) :
    w.Ok (changes ++ [change]) where
  start_le := by
    rw [List.length_append]
    exact Nat.le_add_right_of_le h.start_le
  timedOut := h.timedOut
  returned result finish hphase := by
    obtain ⟨hstart, hfinish, hresult, htimed⟩ := h.returned result finish hphase
    rw [List.length_append, List.take_append_of_le_length hfinish]
    exact ⟨hstart, Nat.le_add_right_of_le hfinish, hresult, htimed⟩

/-- The calls, and who sleeps. -/
structure EventOk (s : EventThreads) : Prop where
  signaled : s.signaled = signaledAfter s.changes
  waits : ∀ w ∈ s.waits, w.Ok s.changes
  awake : allNotified s.changes = true → { everyone := true } ∈ s.notifies ∨ ∀ w ∈ s.waits, w.phase ≠ .waiting

private theorem WaitCall.wakeUp_phase_ne (w : WaitCall) : w.wakeUp.phase ≠ .waiting := by
  unfold WaitCall.wakeUp
  split
  · exact nofun
  · next h => exact h

section
variable {s s' : EventThreads} {op : EventOp}

/-- A call that is woken, or looks at the event. -/
private theorem EventOk.moveTo (h : EventOk s) (call : Nat) {w : WaitCall} {phase : WaitPhase}
    (hphase : (w.moveTo phase).Ok s.changes) (hsleeps : phase = .waiting → s.signaled = false) :
    EventOk { s with waits := s.waits.set call (w.moveTo phase) } where
  signaled := h.signaled
  waits := forall_set call h.waits hphase
  awake hall := by
    refine (h.awake hall).imp_right fun hawake => forall_set call hawake fun hwaiting => ?_
    have hset : s.signaled = true := h.signaled.trans (signaledAfter_of_allNotified hall)
    rw [hsleeps hwaiting] at hset
    cases hset

theorem EventOk.checked (h : EventOk s) {w : WaitCall} {timedOut : Bool} (hw : w ∈ s.waits)
    (hphase : w.phase = .locking timedOut) : (w.moveTo (s.checked timedOut)).Ok s.changes where
  start_le := (h.waits w hw).start_le
  timedOut hlocking := by
    unfold WaitCall.moveTo EventThreads.checked at hlocking
    split at hlocking
    · cases hlocking
    · split at hlocking <;> cases hlocking
  returned result finish hreturned := by
    have hstart := (h.waits w hw).start_le
    have hnow : signaledAfter (s.changes.take s.changes.length) = s.signaled := by rw [List.take_length, h.signaled]
    unfold WaitCall.moveTo EventThreads.checked at hreturned
    split at hreturned
    · next hset =>
      cases hreturned
      exact ⟨hstart, Nat.le_refl _, hnow.trans hset, nofun⟩
    · next hunset =>
      split at hreturned
      · next htimed =>
        cases hreturned
        refine ⟨hstart, Nat.le_refl _, hnow.trans (Bool.not_eq_true _ ▸ hunset), fun _ => ?_⟩
        exact (h.waits w hw).timedOut (htimed ▸ hphase)
      · cases hreturned

/-- **The step lemma.** -/
theorem EventOk.step (h : EventOk s) (hstep : EventStep s op s') : EventOk s' := by
  cases hstep with
  | wait timed =>
    refine ⟨h.signaled, fun w hw => ?_, fun hall => (h.awake hall).imp_right fun hawake w hw => ?_⟩ <;>
      rcases List.mem_append.1 hw with hw | hw
    · exact h.waits w hw
    · rw [List.mem_singleton.1 hw]
      exact ⟨Nat.le_refl _, nofun, nofun⟩
    · exact hawake w hw
    · rw [List.mem_singleton.1 hw]
      exact nofun
  | check hw hphase =>
    refine h.moveTo _ (h.checked (List.mem_of_getElem? hw) hphase) fun hwaiting => ?_
    unfold EventThreads.checked at hwaiting
    split at hwaiting
    · cases hwaiting
    · next hunset => exact Bool.not_eq_true _ ▸ hunset
  | wake hw hphase =>
    exact h.moveTo _ ⟨(h.waits _ (List.mem_of_getElem? hw)).start_le, nofun, nofun⟩ nofun
  | timeout hw hphase htimed =>
    exact h.moveTo _ ⟨(h.waits _ (List.mem_of_getElem? hw)).start_le, fun _ => htimed, nofun⟩ nofun
  | notify everyone =>
    refine ⟨(signaledAfter_notified everyone).symm, fun w hw => (h.waits w hw).mono _, fun hall => ?_⟩
    rw [allNotified_notified] at hall
    cases everyone with
    | true => exact .inl (List.mem_append_right _ List.mem_cons_self)
    | false => exact (h.awake (by rwa [Bool.or_false] at hall)).imp_left (List.mem_append_left _)
  | notifyOne hcall hw hphase =>
    -- a `NotifyAll` that is still to notify stays so: this is another call
    have hstart := (h.waits _ (List.mem_of_getElem? hw)).start_le
    exact ⟨h.signaled, forall_set _ h.waits ⟨hstart, nofun, nofun⟩, fun hall =>
      (h.awake hall).imp (mem_set_of_ne hcall nofun) fun hawake => forall_set _ hawake nofun⟩
  | notifyNobody hcall hnone =>
    exact ⟨h.signaled, h.waits, fun _ => .inr hnone⟩
  | notifyAll hcall =>
    refine ⟨h.signaled, fun w hw => ?_, fun _ => .inr fun w hw => ?_⟩ <;>
      obtain ⟨w, hmem, rfl⟩ := List.mem_map.1 hw
    · unfold WaitCall.wakeUp
      split
      · exact ⟨(h.waits w hmem).start_le, nofun, nofun⟩
      · exact h.waits w hmem
    · exact w.wakeUp_phase_ne
  | reset =>
    refine ⟨signaledAfter_reset.symm, fun w hw => (h.waits w hw).mono _, fun hall => ?_⟩
    rw [allNotified_reset] at hall
    cases hall

/-! ### Who sleeps -/

def WaitCall.asleep (w : WaitCall) : Nat :=
  if w.phase = .waiting then 1 else 0

/-- How many calls sleep in the condition variable. -/
def EventThreads.asleep (s : EventThreads) : Nat :=
  total WaitCall.asleep s.waits

def EventOp.notifiesOne : EventOp → Bool
  | .notifyOne .. => true
  | _ => false

def EventOp.notifiesAll : EventOp → Bool
  | .notifyAll _ => true
  | _ => false

private theorem WaitCall.asleep_eq_zero {w : WaitCall} (h : w.phase ≠ .waiting) : w.asleep = 0 :=
  if_neg h

private theorem EventThreads.asleep_eq_zero (h : ∀ w ∈ s.waits, w.phase ≠ .waiting) : s.asleep = 0 :=
  total_eq_zero fun w hw => WaitCall.asleep_eq_zero (h w hw)

/-- A call that does not go to sleep. -/
private theorem EventThreads.asleep_moveTo {call : Nat} {w : WaitCall} (phase : WaitPhase)
    (hw : s.waits[call]? = some w) (hphase : phase ≠ .waiting) :
    total WaitCall.asleep (s.waits.set call (w.moveTo phase)) = s.asleep - w.asleep := by
  have hset := total_set WaitCall.asleep hw (w.moveTo phase)
  rw [WaitCall.asleep_eq_zero (w := w.moveTo phase) hphase, Nat.add_zero] at hset
  exact Nat.eq_sub_of_add_eq hset

/-- While an event is set and stays so, nobody falls asleep, and notifications wake those that do. -/
private theorem EventStep.asleep_le (hstep : EventStep s op s') (hset : s.signaled = true) (hop : op ≠ .reset) :
    s'.signaled = true ∧ s'.asleep ≤ s.asleep - (if op.notifiesOne then 1 else 0) ∧
      (op.notifiesAll = true → s'.asleep = 0) := by
  have hless {call : Nat} {w : WaitCall} (phase : WaitPhase) (hw : s.waits[call]? = some w)
      (hphase : phase ≠ .waiting) : total WaitCall.asleep (s.waits.set call (w.moveTo phase)) ≤ s.asleep := by
    rw [EventThreads.asleep_moveTo phase hw hphase]
    exact Nat.sub_le _ _
  cases hstep with
  | wait timed =>
    have hnew : WaitCall.asleep { timed, start := s.changes.length } = 0 := rfl
    refine ⟨hset, ?_, nofun⟩
    rw [EventThreads.asleep, total_append, total_singleton, hnew]
    exact Nat.le_refl _
  | check hw hphase =>
    -- whoever looks at an event that is set returns
    refine ⟨hset, hless _ hw ?_, nofun⟩
    rw [EventThreads.checked, if_pos hset]
    exact nofun
  | wake hw hphase => exact ⟨hset, hless (.locking false) hw nofun, nofun⟩
  | timeout hw hphase htimed => exact ⟨hset, hless (.locking true) hw nofun, nofun⟩
  | notify everyone => exact ⟨rfl, Nat.le_refl _, nofun⟩
  | notifyOne hcall hw hphase =>
    refine ⟨hset, le_of_eq ?_, nofun⟩
    refine (EventThreads.asleep_moveTo (.locking false) hw nofun).trans ?_
    rw [WaitCall.asleep, if_pos hphase]
    rfl
  | notifyNobody hcall hnone =>
    have hzero : s.asleep = 0 := EventThreads.asleep_eq_zero hnone
    refine ⟨hset, ?_, nofun⟩
    exact show s.asleep ≤ _ from hzero.trans_le (Nat.zero_le _)
  | notifyAll hcall =>
    have hnone : total WaitCall.asleep (s.waits.map WaitCall.wakeUp) = 0 :=
      EventThreads.asleep_eq_zero (s := { s with waits := s.waits.map WaitCall.wakeUp }) fun w hw => by
        obtain ⟨w, -, rfl⟩ := List.mem_map.1 hw
        exact w.wakeUp_phase_ne
    exact ⟨hset, hnone.trans_le (Nat.zero_le _), fun _ => hnone⟩
  | reset => exact absurd rfl hop

/-- **The run lemma** for an event that stays set. -/
theorem EventThreads.asleep_le_of_run {ops : List EventOp} (h : Run EventStep s ops s') (hset : s.signaled = true)
    (hops : .reset ∉ ops) :
    s'.signaled = true ∧ s'.asleep ≤ s.asleep - ops.countP EventOp.notifiesOne ∧
      (ops.any EventOp.notifiesAll = true → s'.asleep = 0) := by
  induction h with
  | refl => exact ⟨hset, Nat.le_refl _, nofun⟩
  | @snoc s₁ s₂ before op _ hlast ih =>
    rw [List.mem_append, not_or, List.mem_singleton] at hops
    obtain ⟨hset₁, hless, hnone⟩ := ih hops.1
    obtain ⟨hset₂, hless₂, hnone₂⟩ := hlast.asleep_le hset₁ (Ne.symm hops.2)
    refine ⟨hset₂, ?_, fun hany => ?_⟩
    · rw [List.countP_append, List.countP_singleton]
      omega
    · rw [List.any_append, Bool.or_eq_true, List.any_cons, List.any_nil, Bool.or_false] at hany
      rcases hany with hany | hany
      · have hzero := hnone hany
        omega
      · exact hnone₂ hany

end

private theorem eventOk_run {ops : List EventOp} {s : EventThreads} (h : ops.foldlM EventThreads.exec {} = some s) :
    EventOk s := by
  refine (Run.of_foldlM h).invariant (fun s op s' hs hstep => hs.step (EventThreads.exec_cases hstep)) ?_
  exact ⟨rfl, fun w hw => absurd hw List.not_mem_nil, fun _ => .inr fun w hw => absurd hw List.not_mem_nil⟩

/-- **What a waiting thread can rely on.**  A call that has returned tells what the event was at a time during the call,
and without a timeout it returns only when the event is set.  Once `NotifyAll` has been called, and as long as nobody
resets the event or is still about to notify everyone, nobody sleeps: each call that has not returned does so, for a set
event, with its next step.  An event that is not reset stays set, and from then on nobody falls asleep: each
notification of a `NotifyOne` leaves one call less asleep, that of a `NotifyAll` none. -/
theorem event_waits {ops : List EventOp} {s : EventThreads} (h : ops.foldlM EventThreads.exec {} = some s) :
    (∀ w ∈ s.waits, ∀ result finish, w.phase = .returned result finish →
        w.start ≤ finish ∧ finish ≤ s.changes.length ∧ signaledAfter (s.changes.take finish) = result ∧
          (result = false → w.timed = true)) ∧
      (allNotified s.changes = true → { everyone := true } ∉ s.notifies → ∀ (call : Nat) (w : WaitCall),
        s.waits[call]? = some w → (∃ result finish, w.phase = .returned result finish) ∨
          s.exec (.check call) =
            some { s with waits := s.waits.set call (w.moveTo (.returned true s.changes.length)) }) ∧
      ∀ (more : List EventOp) (s' : EventThreads), more.foldlM EventThreads.exec s = some s' →
        s.signaled = true → .reset ∉ more →
          s'.signaled = true ∧ s'.asleep ≤ s.asleep - more.countP EventOp.notifiesOne ∧
            (more.any EventOp.notifiesAll = true → s'.asleep = 0) := by
  have hs : EventOk s := eventOk_run h
  refine ⟨fun w hw => (hs.waits w hw).returned, fun hall hnotified call w hw => ?_,
    fun more s' hmore hset hmoreops => ?_⟩
  · have hset : s.signaled = true := hs.signaled.trans (signaledAfter_of_allNotified hall)
    have hawake := (hs.awake hall).resolve_left hnotified w (List.mem_of_getElem? hw)
    cases hphase : w.phase with
    | returned result finish => exact .inl ⟨result, finish, rfl⟩
    | waiting => exact absurd hphase hawake
    | locking timedOut =>
      refine .inr ?_
      rw [EventThreads.exec, hw, Option.bind_some, hphase]
      simp only [EventThreads.checked, hset, if_true]
  · exact EventThreads.asleep_le_of_run ((Run.of_foldlM hmore).mono fun _ _ _ => EventThreads.exec_cases) hset hmoreops

/-- Two calls fall asleep, and a `NotifyOne` wakes the first of them. -/
def sleeperOps : List EventOp :=
  [.wait false, .wait true, .check 0, .check 1, .notify false, .notifyOne 0 (some 0), .check 0]

/-- The second one sleeps on while the event is set, until a `NotifyAll`. -/
theorem event_waits_sleeper : ∃ s s', sleeperOps.foldlM EventThreads.exec {} = some s ∧
    s.signaled = true ∧ s.asleep = 1 ∧ [EventOp.notify true, .notifyAll 1].foldlM EventThreads.exec s = some s' ∧
      s'.asleep = 0 := by
  refine ⟨_, _, rfl, rfl, rfl, rfl, ?_⟩
  have hwaits := event_waits (show sleeperOps.foldlM EventThreads.exec {} = some _ from rfl)
  exact (hwaits.2.2 [.notify true, .notifyAll 1] _ rfl rfl (by decide)).2.2 rfl

end VehicleBridge
