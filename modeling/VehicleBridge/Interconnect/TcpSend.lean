import VehicleBridge.Interconnect.TcpTransport
import VehicleBridge.Lib.Threads
import VehicleBridge.Lib.Transition

/-!
# Publishers on one TCP connection

`SendWithTimeout` writes the length of a message and then its bytes, each in as many turns of `SendAll` as the socket
makes it take.  Nothing keeps another call off the socket in between, and a call that fails in the middle of its frame
leaves the part it has written there.  `stream_wellFramed` says what saves a stream: no call begins its frame while
another one, going on or given up, has written part of a frame.  Then the stream is complete frames with at most part
of one behind them, and a call that has given up in the middle of its frame is the last one to have written anything.
-/

namespace VehicleBridge

open ByteText Framing Threads Transition

/-- One turn of the loop of `SendAll`: `WaitForSocket` times out or fails, or else `send` takes a number of bytes, is
interrupted by a signal or fails. -/
inductive SendEvent
  | waitTimedOut
  | waitFailed
  | sent (count : Nat)
  | sendInterrupted
  | sendFailed
  deriving DecidableEq, Repr

/-- A turn of `SendAll` with the bytes it has left, of which `send` takes no more than there are: what goes to the
socket, and the code the loop is left with or the bytes it goes on with. -/
def sendTurn (left : Bytes) : SendEvent → Option (Bytes × Except ErrorCode Bytes)
  | .waitTimedOut => some ([], .error .timeout)
  | .waitFailed => some ([], .error mapSocketError)
  | .sent count => if count ≤ left.length then some (left.take count, .ok (left.drop count)) else none
  | .sendInterrupted => some ([], .ok left)
  | .sendFailed => some ([], .error mapSocketError)

/-- Where a call of `SendWithTimeout` is: in one of its two calls of `SendAll`, with what that has left, or back. -/
inductive SendPhase
  | length (left : Bytes)
  | body (left : Bytes)
  | returned (ec : ErrorCode)
  deriving DecidableEq, Repr

/-- A call of `SendWithTimeout`, and the part of its frame that is not on the socket. -/
structure SendCall where
  message : Payload 4
  phase : SendPhase
  unsent : Bytes

/-- What is on the socket, and the messages whose call has returned `kOk`, in the order of their returns. -/
structure Outlet where
  connected : Bool := true
  stream : Bytes := []
  accepted : List (Payload 4) := []

/-- `SendWithTimeout` up to its first turn; `socket_fd_ < 0` is a transport that is not connected. -/
def SendCall.start (o : Outlet) (message : Payload 4) : SendCall :=
  { message
    phase := if o.connected then .length (bigEndian 4 message.bytes.length) else .returned .queueSendFailed
    unsent := message.frame }

/-- From a call of `SendAll` that has returned `kOk` to the next one, if there is one. -/
def SendPhase.next (message : Payload 4) : SendPhase → SendPhase
  | .length [] => if message.bytes = [] then .returned .ok else .body message.bytes
  | .body [] => .returned .ok
  | phase => phase

/-- Where a call goes from a turn of one of its loops. -/
def SendPhase.after (message : Payload 4) (loop : Bytes → SendPhase) : Except ErrorCode Bytes → SendPhase
  | .error ec => .returned ec
  | .ok left => (loop left).next message

/-- A call with bytes written to the socket and the phase it gets to. -/
def SendCall.advance (call : SendCall) (o : Outlet) (written : Bytes) (phase : SendPhase) : SendCall × Outlet :=
  ({ call with phase, unsent := call.unsent.drop written.length },
    { o with
      stream := o.stream ++ written
      accepted := if phase = .returned .ok then o.accepted ++ [call.message] else o.accepted })

/-- A turn of the loop that the call is in, and what the call does before the next one. -/
def SendCall.turn (call : SendCall) (e : SendEvent) (o : Outlet) : Option (SendCall × Outlet) :=
  match call.phase with
  | .length left => (sendTurn left e).map fun result =>
    call.advance o result.1 (.after call.message .length result.2)
  | .body left => (sendTurn left e).map fun result =>
    call.advance o result.1 (.after call.message .body result.2)
  | .returned _ => none

/-- Publishers on one transport: a call is made, or one of the calls made takes a turn. -/
inductive SendOp
  | call (message : Payload 4)
  | turn (call : Nat) (e : SendEvent)

abbrev Publishers := System Outlet SendCall

def Publishers.exec (s : Publishers) : SendOp → Option Publishers
  | .call message => some { s with locals := s.locals ++ [.start s.shared message] }
  | .turn i e => System.turn SendCall.turn s i e

/-- A transport with a connection or without one, and no calls yet. -/
def Publishers.start (connected : Bool) : Publishers :=
  { shared := { connected }, locals := [] }

/-! ### When a stream is well framed -/

/-- A part of the call's frame is on the socket, and another one is not. -/
def SendCall.MidFrame (call : SendCall) : Prop :=
  call.unsent ≠ [] ∧ call.unsent ≠ call.message.frame

instance SendCall.instDecidableMidFrame (call : SendCall) : Decidable call.MidFrame :=
  inferInstanceAs (Decidable (_ ∧ _))

/-- The call has returned `kOk`. -/
def SendCall.Accepted (call : SendCall) : Prop :=
  call.phase = .returned .ok

instance SendCall.instDecidableAccepted (call : SendCall) : Decidable call.Accepted :=
  inferInstanceAs (Decidable (_ = _))

/-- What is on the stream behind the complete frames: nothing, and no call is in the middle of its frame, or the part
that one call has written of its frame, and no other one is. -/
inductive Tail (calls : List SendCall) : Bytes → Prop
  | closed (hnone : ∀ call ∈ calls, ¬ call.MidFrame) : Tail calls []
  | torn {i : Nat} {call : SendCall} {front : Bytes} (hcall : calls[i]? = some call) (hmid : call.MidFrame)
      (hfront : front ++ call.unsent = call.message.frame)
      (honly : ∀ j other, calls[j]? = some other → other.MidFrame → j = i) : Tail calls front

/-- The stream is the frames of the messages whose call returned `kOk`, with at most a proper part of the frame of one
other call behind them, so that a peer decodes these messages. -/
structure WellFramed (s : Publishers) : Prop where
  stream : ∃ tail, s.shared.stream = framed s.shared.accepted ++ tail ∧ Tail s.locals tail
  decodes : unframes 4 s.shared.stream = s.shared.accepted.map Payload.bytes
  accepted : s.shared.accepted.Perm ((s.locals.filter (·.Accepted)).map SendCall.message)

/-- A call is back, and has left part of its frame on the socket. -/
def Publishers.Torn (s : Publishers) : Prop :=
  ∃ call ∈ s.locals, call.MidFrame ∧ ∃ ec, call.phase = .returned ec

/-- A call that begins its frame finds no other one in the middle of its own. -/
def SendOp.StartsAlone (s : Publishers) : SendOp → Prop
  | .turn i (.sent count) => 0 < count → ∀ call ∈ s.locals[i]?, call.unsent = call.message.frame →
      ∀ other ∈ s.locals, ¬ other.MidFrame
  | _ => True

instance (s : Publishers) (op : SendOp) : Decidable (op.StartsAlone s) := by
  unfold SendOp.StartsAlone
  split <;> infer_instance

/-- A step in which no call begins its frame while another one is in the middle of its own. -/
def AloneStep (s : Publishers) (op : SendOp) (s' : Publishers) : Prop :=
  op.StartsAlone s ∧ Publishers.exec s op = some s'

/-! ### One turn -/

private theorem sendTurn_cases {left written : Bytes} {e : SendEvent} {result : Except ErrorCode Bytes}
    (h : sendTurn left e = some (written, result)) :
    ∃ left', left = written ++ left' ∧ (result = .ok left' ∨ written = [] ∧ ∃ ec, ec ≠ .ok ∧ result = .error ec) ∧
      (written ≠ [] → ∃ count, 0 < count ∧ e = .sent count) := by
  cases e with
  | waitTimedOut =>
    cases h
    exact ⟨left, rfl, .inr ⟨rfl, _, by decide, rfl⟩, fun hne => absurd rfl hne⟩
  | waitFailed =>
    cases h
    exact ⟨left, rfl, .inr ⟨rfl, _, by decide, rfl⟩, fun hne => absurd rfl hne⟩
  | sent count =>
    rw [sendTurn] at h
    split at h
    · cases h
      refine ⟨left.drop count, (List.take_append_drop count left).symm, .inl rfl, fun hne => ⟨count, ?_, rfl⟩⟩
      exact Nat.pos_of_ne_zero fun hzero => hne (by rw [hzero, List.take_zero])
    · cases h
  | sendInterrupted =>
    cases h
    exact ⟨left, rfl, .inl rfl, fun hne => absurd rfl hne⟩
  | sendFailed =>
    cases h
    exact ⟨left, rfl, .inr ⟨rfl, _, by decide, rfl⟩, fun hne => absurd rfl hne⟩

/-- What a phase says of the part of the frame that is not on the socket: it is what the loops have left, and nothing
exactly when the call has returned `kOk`. -/
def SendPhase.Leaves (message : Payload 4) (unsent : Bytes) : SendPhase → Prop
  | .length left => left ≠ [] ∧ unsent = left ++ message.bytes
  | .body left => left ≠ [] ∧ unsent = left
  | .returned ec => ec = .ok ↔ unsent = []

/-- What a call keeps. -/
structure SendCall.Sound (call : SendCall) : Prop where
  suffix : call.unsent <:+ call.message.frame
  leaves : call.phase.Leaves call.message call.unsent

private theorem SendCall.Sound.accepted_iff {call : SendCall} (h : call.Sound) : call.Accepted ↔ call.unsent = [] := by
  have hleaves := h.leaves
  unfold SendCall.Accepted
  cases hphase : call.phase with
  | length left =>
    rw [hphase] at hleaves
    simp [hleaves.1, hleaves.2]
  | body left =>
    rw [hphase] at hleaves
    simp [hleaves.1, hleaves.2]
  | returned ec =>
    rw [hphase] at hleaves
    rw [SendPhase.returned.injEq]
    exact hleaves

private theorem SendCall.start_sound (o : Outlet) (message : Payload 4) : (SendCall.start o message).Sound := by
  have hheader : bigEndian 4 message.bytes.length ≠ [] := List.ne_nil_of_length_pos (by simp)
  refine ⟨List.suffix_refl _, ?_⟩
  unfold SendCall.start
  split
  · exact ⟨hheader, rfl⟩
  · exact iff_of_false (by decide) fun h => hheader (List.append_eq_nil_iff.1 h).1

private theorem next_length_leaves (message : Payload 4) (left : Bytes) :
    ((SendPhase.length left).next message).Leaves message (left ++ message.bytes) := by
  cases left with
  | nil =>
    rw [SendPhase.next]
    split
    · next hempty => exact iff_of_true rfl hempty
    · next hbody => exact ⟨hbody, rfl⟩
  | cons b left => exact ⟨List.cons_ne_nil b left, rfl⟩

private theorem next_body_leaves (message : Payload 4) (left : Bytes) :
    ((SendPhase.body left).next message).Leaves message left := by
  cases left with
  | nil => exact iff_of_true rfl rfl
  | cons b left => exact ⟨List.cons_ne_nil b left, rfl⟩

/-- What a turn of a call does. -/
structure TurnEffect (call call' : SendCall) (o o' : Outlet) (e : SendEvent) (written : Bytes) : Prop where
  sound : call'.Sound
  message : call'.message = call.message
  pending : call.unsent ≠ []
  unsent : call.unsent = written ++ call'.unsent
  stream : o'.stream = o.stream ++ written
  accepted : o'.accepted = if call'.unsent = [] then o.accepted ++ [call.message] else o.accepted
  sends : written ≠ [] → ∃ count, 0 < count ∧ e = .sent count

/-- A turn of a loop that has `left` left, with `rest` behind it. -/
private theorem SendCall.advance_effect {call : SendCall} {e : SendEvent} {left rest written : Bytes}
    {loop : Bytes → SendPhase} {result : Except ErrorCode Bytes} (hs : call.Sound) (hleft : left ≠ [])
    (hunsent : call.unsent = left ++ rest)
    (hnext : ∀ left', ((loop left').next call.message).Leaves call.message (left' ++ rest))
    (hturn : sendTurn left e = some (written, result)) (o : Outlet) :
    TurnEffect call (call.advance o written (.after call.message loop result)).1 o
      (call.advance o written (.after call.message loop result)).2 e written := by
  obtain ⟨left', rfl, hresult, hsends⟩ := sendTurn_cases hturn
  have hdrop : call.unsent.drop written.length = left' ++ rest := by
    rw [hunsent, List.append_assoc, List.drop_left]
  have hleaves : (SendPhase.after call.message loop result).Leaves call.message (left' ++ rest) := by
    rcases hresult with rfl | ⟨rfl, ec, hne, rfl⟩
    · exact hnext left'
    · exact iff_of_false hne fun h => hleft (List.append_eq_nil_iff.1 h).1
  have hsound : (call.advance o written (.after call.message loop result)).1.Sound := by
    refine ⟨(List.drop_suffix _ _).trans hs.suffix, ?_⟩
    simp only [SendCall.advance, hdrop]
    exact hleaves
  refine ⟨hsound, rfl, ?_, ?_, rfl, if_congr hsound.accepted_iff rfl rfl, hsends⟩
  · rw [hunsent]
    exact fun h => hleft (List.append_eq_nil_iff.1 h).1
  · exact (hunsent.trans (List.append_assoc ..)).trans (congrArg (written ++ ·) hdrop.symm)

private theorem SendCall.turn_cases {call call' : SendCall} {o o' : Outlet} {e : SendEvent} (hs : call.Sound)
    (h : call.turn e o = some (call', o')) : ∃ written, TurnEffect call call' o o' e written := by
  have hleaves := hs.leaves
  unfold SendCall.turn at h
  split at h
  · next left hphase =>
    obtain ⟨⟨written, result⟩, hturn, heq⟩ := Option.map_eq_some_iff.1 h
    rw [hphase] at hleaves
    have heffect := SendCall.advance_effect hs hleaves.1 hleaves.2 (next_length_leaves call.message) hturn o
    rw [heq] at heffect
    exact ⟨written, heffect⟩
  · next left hphase =>
    obtain ⟨⟨written, result⟩, hturn, heq⟩ := Option.map_eq_some_iff.1 h
    rw [hphase] at hleaves
    have hunsent : call.unsent = left ++ [] := hleaves.2.trans (List.append_nil left).symm
    have heffect := SendCall.advance_effect hs hleaves.1 hunsent
      (fun left' => by rw [List.append_nil]; exact next_body_leaves call.message left') hturn o
    rw [heq] at heffect
    exact ⟨written, heffect⟩
  · cases h

/-! ### Runs -/

/-- What a run in which each call starts alone keeps. -/
structure OneWriter (s : Publishers) : Prop where
  sound : ∀ call ∈ s.locals, call.Sound
  stream : ∃ tail, s.shared.stream = framed s.shared.accepted ++ tail ∧ Tail s.locals tail
  accepted : s.shared.accepted.Perm ((s.locals.filter (·.Accepted)).map SendCall.message)

theorem Tail.unframe_eq_none {calls : List SendCall} {tail : Bytes} (h : Tail calls tail) : unframe 4 tail = none := by
  cases h with
  | closed hnone => exact unframe_nil (by decide)
  | torn hcall hmid hfront honly => exact Framing.unframe_eq_none hfront hmid.1

private theorem OneWriter.wellFramed {s : Publishers} (h : OneWriter s) : WellFramed s := by
  obtain ⟨tail, hstream, htail⟩ := h.stream
  refine ⟨h.stream, ?_, h.accepted⟩
  rw [hstream]
  exact unframes_framed (by decide) _ htail.unframe_eq_none

private theorem SendCall.start_not_midFrame (o : Outlet) (message : Payload 4) :
    ¬ (SendCall.start o message).MidFrame :=
  fun h => h.2 rfl

/-- A call that is not in the middle of its frame joins the others. -/
theorem Tail.append {calls : List SendCall} {tail : Bytes} (h : Tail calls tail) {call : SendCall}
    (hcall : ¬ call.MidFrame) : Tail (calls ++ [call]) tail := by
  cases h with
  | closed hnone =>
    refine .closed fun other hother => ?_
    rcases List.mem_append.1 hother with hold | hnew
    · exact hnone other hold
    · rwa [List.mem_singleton.1 hnew]
  | @torn i torn front htorn hmid hfront honly =>
    refine .torn (i := i) ?_ hmid hfront fun j other hother hothermid => ?_
    · rw [List.getElem?_append_left (List.getElem?_eq_some_iff.1 htorn).1]
      exact htorn
    · rcases getElem?_append_singleton_cases hother with hold | rfl
      · exact honly j other hold hothermid
      · exact absurd hothermid hcall

/-- A call that is not in the middle of its frame takes a turn and still is not. -/
theorem Tail.set {calls : List SendCall} {tail : Bytes} (h : Tail calls tail) {i : Nat} {call call' : SendCall}
    (hcall : calls[i]? = some call) (hbefore : ¬ call.MidFrame) (hafter : ¬ call'.MidFrame) :
    Tail (calls.set i call') tail := by
  cases h with
  | closed hnone => exact .closed (forall_set i hnone hafter)
  | @torn k torn front htorn hmid hfront honly =>
    have hne : k ≠ i := by
      rintro rfl
      exact hbefore (Option.some.inj (htorn.symm.trans hcall) ▸ hmid)
    refine .torn (getElem?_set_of_ne _ hne htorn) hmid hfront fun j other hother hothermid => ?_
    rcases getElem?_set_cases hother with ⟨-, rfl⟩ | ⟨-, hold⟩
    · exact absurd hothermid hafter
    · exact honly j other hold hothermid

theorem OneWriter.call {s : Publishers} (h : OneWriter s) (message : Payload 4) :
    OneWriter { s with locals := s.locals ++ [.start s.shared message] } := by
  have hsound := SendCall.start_sound s.shared message
  have hnot : ¬ (SendCall.start s.shared message).MidFrame := SendCall.start_not_midFrame s.shared message
  obtain ⟨tail, hstream, htail⟩ := h.stream
  refine ⟨fun call hcall => ?_, ⟨tail, hstream, htail.append hnot⟩, ?_⟩
  · rcases List.mem_append.1 hcall with hold | hnew
    · exact h.sound call hold
    · rwa [List.mem_singleton.1 hnew]
  · have hpending : ¬ (SendCall.start s.shared message).Accepted := by
      rw [hsound.accepted_iff]
      exact fun hempty => absurd (congrArg List.length hempty) (by simp [SendCall.start])
    simpa [hpending] using h.accepted

/-- The calls that have returned `kOk` after a turn. -/
private theorem accepted_turn {s : Publishers} (h : OneWriter s) {i : Nat} {call call' : SendCall} {o : Outlet}
    {e : SendEvent} {written : Bytes} (hcall : s.locals[i]? = some call)
    (heffect : TurnEffect call call' s.shared o e written) :
    o.accepted.Perm (((s.locals.set i call').filter (·.Accepted)).map SendCall.message) := by
  have hpending : ¬ call.Accepted := by
    rw [(h.sound call (List.mem_of_getElem? hcall)).accepted_iff]
    exact heffect.pending
  have hperm := ((set_perm hcall call').filter (·.Accepted)).map SendCall.message
  rw [List.filter_cons_of_neg (by simpa using hpending)] at hperm
  rw [heffect.accepted]
  split
  · next hdone =>
    have hnow : call'.Accepted := heffect.sound.accepted_iff.2 hdone
    rw [List.filter_cons_of_pos (by simpa using hnow), List.map_cons, heffect.message] at hperm
    exact (List.perm_append_singleton _ _).trans ((h.accepted.cons _).trans hperm.symm)
  · next hmore =>
    have hnot : ¬ call'.Accepted := mt heffect.sound.accepted_iff.1 hmore
    rw [List.filter_cons_of_neg (by simpa using hnot)] at hperm
    exact h.accepted.trans hperm.symm

/-- The stream after a turn of the only call that may be in the middle of its frame. -/
private theorem stream_turn {calls : List SendCall} {i : Nat} {call call' : SendCall} {o o' : Outlet} {e : SendEvent}
    {front written : Bytes} (hcall : calls[i]? = some call) (heffect : TurnEffect call call' o o' e written)
    (hfront : front ++ call.unsent = call.message.frame) (hstream : o.stream = framed o.accepted ++ front)
    (hbegun : front ++ written ≠ [])
    (honly : ∀ j other, calls[j]? = some other → other.MidFrame → j = i) :
    ∃ tail, o'.stream = framed o'.accepted ++ tail ∧ Tail (calls.set i call') tail := by
  rw [heffect.stream, heffect.accepted, hstream]
  have hframe : (front ++ written) ++ call'.unsent = call'.message.frame := by
    rw [heffect.message, ← hfront, heffect.unsent, List.append_assoc]
  have hothers : ∀ j other, (calls.set i call')[j]? = some other → other.MidFrame → j = i := by
    intro j other hother hmid
    rcases getElem?_set_cases hother with ⟨rfl, -⟩ | ⟨-, hold⟩
    · rfl
    · exact honly j other hold hmid
  split
  · next hdone =>
    rw [hdone, List.append_nil, heffect.message] at hframe
    refine ⟨[], by rw [framed_snoc, ← hframe, List.append_nil, List.append_assoc], .closed fun other hother hmid => ?_⟩
    obtain ⟨j, hj⟩ := List.getElem?_of_mem hother
    cases hothers j other hj hmid
    rw [getElem?_set_of_some call' hcall] at hj
    exact hmid.1 (Option.some.inj hj ▸ hdone)
  · next hmore =>
    refine ⟨front ++ written, List.append_assoc .., .torn (getElem?_set_of_some call' hcall) ⟨hmore, fun hall => ?_⟩
      hframe hothers⟩
    rw [← hall] at hframe
    exact hbegun (List.append_left_eq_self.1 hframe)

theorem OneWriter.turn {s s' : Publishers} (h : OneWriter s) {i : Nat} {e : SendEvent}
    (halone : (SendOp.turn i e).StartsAlone s) (hturn : System.turn SendCall.turn s i e = some s') : OneWriter s' := by
  obtain ⟨call, call', o, hcall, hstep, rfl⟩ := System.turn_eq_some hturn
  obtain ⟨written, heffect⟩ := SendCall.turn_cases (h.sound call (List.mem_of_getElem? hcall)) hstep
  refine ⟨forall_set i h.sound heffect.sound, ?_, accepted_turn h hcall heffect⟩
  obtain ⟨tail, hstream, htail⟩ := h.stream
  by_cases hmid : call.MidFrame
  · -- the call goes on with the frame it has begun
    cases htail with
    | closed hnone => exact absurd hmid (hnone call (List.mem_of_getElem? hcall))
    | @torn k torn front htorn htornmid hfront honly =>
      cases honly i call hcall hmid
      cases htorn.symm.trans hcall
      refine stream_turn hcall heffect hfront hstream (fun hempty => ?_) honly
      rw [(List.append_eq_nil_iff.1 hempty).1, List.nil_append] at hfront
      exact hmid.2 hfront
  have hwhole : call.unsent = call.message.frame := not_not.1 fun hne => hmid ⟨heffect.pending, hne⟩
  by_cases hwritten : written = []
  · have hunsent : call'.unsent = call'.message.frame := by
      rw [heffect.message, ← hwhole, heffect.unsent, hwritten, List.nil_append]
    have hnot : ¬ call'.MidFrame := fun hmid' => hmid'.2 hunsent
    have hmore : call'.unsent ≠ [] := by
      intro hempty
      rw [heffect.unsent, hwritten, hempty] at hwhole
      exact heffect.pending (heffect.unsent.trans (by rw [hwritten, hempty]; rfl))
    refine ⟨tail, ?_, htail.set hcall hmid hnot⟩
    rw [heffect.stream, heffect.accepted, hwritten, List.append_nil, if_neg hmore]
    exact hstream
  · -- the call begins its frame, and does so alone
    obtain ⟨count, hcount, rfl⟩ := heffect.sends hwritten
    have hnone := halone hcount call hcall hwhole
    cases htail with
    | torn htorn htornmid => exact absurd htornmid (hnone _ (List.mem_of_getElem? htorn))
    | closed =>
      have hfront : [] ++ call.unsent = call.message.frame := hwhole
      refine stream_turn hcall heffect hfront hstream hwritten fun j other hother hothermid => ?_
      exact absurd hothermid (hnone other (List.mem_of_getElem? hother))

/-- **The step lemma.** -/
theorem OneWriter.step {s s' : Publishers} {op : SendOp} (h : OneWriter s) (hstep : AloneStep s op s') :
    OneWriter s' := by
  cases op with
  | call message =>
    cases hstep.2
    exact h.call message
  | turn i e => exact h.turn hstep.1 hstep.2

private theorem oneWriter_of_run {connected : Bool} {ops : List SendOp} {s : Publishers}
    (hrun : Run AloneStep (.start connected) ops s) : OneWriter s :=
  hrun.invariant (fun _ _ _ h hstep => h.step hstep)
    ⟨fun _ h => absurd h List.not_mem_nil, ⟨[], rfl, .closed fun _ h => absurd h List.not_mem_nil⟩, .refl _⟩

/-- A call that is back takes no turn. -/
private theorem SendCall.turn_of_returned {call : SendCall} {ec : ErrorCode} (h : call.phase = .returned ec)
    (e : SendEvent) (o : Outlet) : call.turn e o = none := by
  rw [SendCall.turn, h]

/-- Behind the frame of a call that has given up nothing more is written. -/
private theorem OneWriter.step_of_torn {s s' : Publishers} {op : SendOp} (h : OneWriter s) (htorn : s.Torn)
    (hstep : AloneStep s op s') : s'.Torn ∧ s'.shared.stream = s.shared.stream := by
  obtain ⟨torn, hmem, hmid, ec, hphase⟩ := htorn
  cases op with
  | call message =>
    cases hstep.2
    exact ⟨⟨torn, List.mem_append_left _ hmem, hmid, ec, hphase⟩, rfl⟩
  | turn i e =>
    obtain ⟨halone, hturn⟩ := hstep
    obtain ⟨call, call', o, hcall, hcallturn, rfl⟩ := System.turn_eq_some hturn
    obtain ⟨written, heffect⟩ := SendCall.turn_cases (h.sound call (List.mem_of_getElem? hcall)) hcallturn
    obtain ⟨k, hk⟩ := List.getElem?_of_mem hmem
    have hne : k ≠ i := by
      rintro rfl
      cases hk.symm.trans hcall
      rw [SendCall.turn_of_returned hphase] at hcallturn
      cases hcallturn
    -- the other call has not begun its frame, and does not begin it now
    have hbefore : ¬ call.MidFrame := by
      intro hcallmid
      obtain ⟨tail, -, htail⟩ := h.stream
      cases htail with
      | closed hnone => exact hnone torn hmem hmid
      | torn _ _ _ honly => exact hne ((honly k torn hk hmid).trans (honly i call hcall hcallmid).symm)
    have hwhole : call.unsent = call.message.frame := not_not.1 fun hnot => hbefore ⟨heffect.pending, hnot⟩
    have hwritten : written = [] := by
      by_contra hsome
      obtain ⟨count, hcount, rfl⟩ := heffect.sends hsome
      exact halone hcount call hcall hwhole torn hmem hmid
    refine ⟨⟨torn, List.mem_of_getElem? (getElem?_set_of_ne _ hne hk), hmid, ec, hphase⟩, ?_⟩
    rw [heffect.stream, hwritten, List.append_nil]

/-- **One TCP stream.**  In every run of publishers in which no call begins its frame while another one is in the
middle of its own, the stream is well framed, and once a call is back with part of its frame written, the stream stays
as it is. -/
theorem stream_wellFramed {connected : Bool} {ops : List SendOp} {s : Publishers}
    (hrun : Run AloneStep (.start connected) ops s) :
    WellFramed s ∧ (s.Torn → ∀ (more : List SendOp) (s' : Publishers), Run AloneStep s more s' →
      s'.shared.stream = s.shared.stream) := by
  have hwriter := oneWriter_of_run hrun
  refine ⟨hwriter.wellFramed, fun htorn more s' hmore => ?_⟩
  have hkept : OneWriter s' ∧ s'.Torn ∧ s'.shared.stream = s.shared.stream := by
    refine hmore.invariant (I := fun s₁ => OneWriter s₁ ∧ s₁.Torn ∧ s₁.shared.stream = s.shared.stream)
      (fun s₁ op s₂ h hstep => ?_) ⟨hwriter, htorn, rfl⟩
    obtain ⟨hsame, hstream⟩ := h.1.step_of_torn h.2.1 hstep
    exact ⟨h.1.step hstep, hsame, hstream.trans h.2.2⟩
  exact hkept.2.2

/-- A message of two bytes. -/
def pair : Payload 4 :=
  ⟨[1, 2], by decide⟩

/-- A message of one byte. -/
def bell : Payload 4 :=
  ⟨[7], by decide⟩

/-- Two calls, the second made while the first one is under way, each frame in pieces, and a third one that gives up. -/
def sendsInPieces : List SendOp :=
  [.call pair, .turn 0 (.sent 3), .turn 0 (.sent 1), .call bell, .turn 0 .sendInterrupted, .turn 0 (.sent 2),
    .turn 1 (.sent 4), .turn 1 (.sent 1), .call pair, .turn 2 (.sent 3), .turn 2 .waitTimedOut]

/-- A fourth one finds no time to write anything behind it. -/
theorem stream_wellFramed_pieces :
    ∃ s s', sendsInPieces.foldlM Publishers.exec (.start true) = some s ∧
      [.call bell, .turn 3 .waitTimedOut].foldlM Publishers.exec s = some s' ∧
      s.shared.stream = [0, 0, 0, 2, 1, 2, 0, 0, 0, 1, 7, 0, 0, 0] ∧ WellFramed s ∧
      s'.shared.stream = s.shared.stream := by
  have hrun : Run AloneStep (.start true) sendsInPieces _ :=
    .cons ⟨by decide, rfl⟩ <| .cons ⟨by decide, rfl⟩ <| .cons ⟨by decide, rfl⟩ <| .cons ⟨by decide, rfl⟩ <|
      .cons ⟨by decide, rfl⟩ <| .cons ⟨by decide, rfl⟩ <| .cons ⟨by decide, rfl⟩ <| .cons ⟨by decide, rfl⟩ <|
      .cons ⟨by decide, rfl⟩ <| .cons ⟨by decide, rfl⟩ <| .cons ⟨by decide, rfl⟩ (.refl _)
  obtain ⟨hframed, hkept⟩ := stream_wellFramed hrun
  refine ⟨_, _, rfl, rfl, rfl, hframed, hkept ?_ [.call bell, .turn 3 .waitTimedOut] _ ?_⟩
  · exact ⟨_, List.mem_of_getElem? (i := 2) rfl, by decide, _, rfl⟩
  · exact .cons ⟨by decide, rfl⟩ <| .cons ⟨by decide, rfl⟩ (.refl _)

/-- A timeout behind the length of a message, and another message: its length is taken for the first one's bytes. -/
theorem stream_not_wellFramed : ¬ ∀ (ops : List SendOp) (s : Publishers),
    Run (fun s op s' => Publishers.exec s op = some s') (.start true) ops s → WellFramed s := by
  intro hall
  have hframed := hall [.call pair, .turn 0 (.sent 4), .turn 0 .waitTimedOut, .call bell, .turn 1 (.sent 4),
    .turn 1 (.sent 1)] _ (Run.of_foldlM rfl)
  have hdecodes := hframed.decodes
  revert hdecodes
  decide

end VehicleBridge
