import VehicleBridge.Core.RetryPolicy
import VehicleBridge.Interconnect.BridgePolicy
import VehicleBridge.Interconnect.Transport

/-!
# Sending under backpressure

`PublishWithBackpressure` sends a message on one transport: a first attempt, then, as the policy allows, a second one
after discarding the oldest queued message, then retries while the transport would block.

`publishWithBackpressure_logged` describes the calls it makes: they are on that transport, they end with the first
accepted send, and their number is bounded by the retry budget.  `publishWithBackpressure_isSome` says that it
returns.
-/

namespace VehicleBridge

open ByteText Attempts

/-- The result of `PublishWithBackpressure`: its code, what it adds to `backpressure_drop_count_`, and the wire. -/
structure SendResult (σ : Type*) where
  ec : ErrorCode
  drops : Nat := 0
  wire : Wire σ

section
variable {σ : Type*} (net : Transports σ)

/-- `send_once`. -/
def sendOnce (t : TransportId) (encoded : Bytes) (priority : UInt32) (policy : BridgeSlaPolicy) (w : Wire σ) :
    ErrorCode × Wire σ :=
  w.sendWithTimeout net t encoded priority policy.transportSendTimeoutMs

/-- The policy and the result of the first send ask for room in the queue, and the transport can make some. -/
def shouldDiscardOldest (t : TransportId) (policy : BridgeSlaPolicy) (ec : ErrorCode) : Prop :=
  (policy.dropPolicy = .dropOldest ∨ policy.backpressurePolicy = .dropOldest) ∧
    (ec = .timeout ∨ ec = .threadQueueFull ∨ ec = .wouldBlock) ∧ (net.caps t).supportsDiscardOldest = true

instance (t : TransportId) (policy : BridgeSlaPolicy) (ec : ErrorCode) :
    Decidable (shouldDiscardOldest net t policy ec) :=
  inferInstanceAs (Decidable (_ ∧ _))

/-- Discard the oldest queued message and, if that works, send again. -/
def discardAndResend (t : TransportId) (encoded : Bytes) (priority : UInt32) (policy : BridgeSlaPolicy)
    (ec : ErrorCode) (w : Wire σ) : SendResult σ :=
  if (w.discardOldest net t).1 = .ok then
    { ec := (sendOnce net t encoded priority policy (w.discardOldest net t).2).1
      drops := 1
      wire := (sendOnce net t encoded priority policy (w.discardOldest net t).2).2 }
  else { ec, wire := (w.discardOldest net t).2 }

def retryOptions (budget : RetryBudget) : RetryOptions :=
  { maxRetries := budget.maxRetries, initialBackoffMs := budget.initialBackoffMs,
    maxBackoffMs := budget.maxBackoffMs }

/-- The retry budget is usable and the transport would block. -/
def shouldRetry (budget : RetryBudget) (ec : ErrorCode) : Prop :=
  budget.maxRetries > 0 ∧ budget.initialBackoffMs > 0 ∧ budget.maxBackoffMs ≥ budget.initialBackoffMs ∧
    ec = .wouldBlock

instance (budget : RetryBudget) (ec : ErrorCode) : Decidable (shouldRetry budget ec) :=
  inferInstanceAs (Decidable (_ ∧ _))

/-- Send again, with growing pauses, while the transport would block. -/
def retryWhileBlocked (t : TransportId) (encoded : Bytes) (priority : UInt32) (policy : BridgeSlaPolicy)
    (r : SendResult σ) : Option (SendResult σ) :=
  if shouldRetry policy.retryBudget r.ec then
    (retryOnWouldBlock (sendOnce net t encoded priority policy) (Wire.sleepFor net)
      (retryOptions policy.retryBudget) r.wire).map fun last => { r with ec := last.1, wire := last.2 }
  else some r

/-- `PublishWithBackpressure`; `none` is the overflow of the retry counter. -/
def publishWithBackpressure (t : TransportId) (encoded : Bytes) (priority : UInt32) (policy : BridgeSlaPolicy)
    (w : Wire σ) : Option (SendResult σ) :=
  let first := sendOnce net t encoded priority policy w
  -- with `kDropNew` the first answer is final, whatever the retry budget
  if first.1 = .ok ∨ policy.dropPolicy = .dropNew then some { ec := first.1, wire := first.2 }
  else if shouldDiscardOldest net t policy first.1 then
    retryWhileBlocked net t encoded priority policy
      (discardAndResend net t encoded priority policy first.1 first.2)
  else retryWhileBlocked net t encoded priority policy { ec := first.1, wire := first.2 }

end

/-! ### The calls of one send -/

/-- The call is made on the given transport and, if it is a send, for the given message. -/
def TransportCall.IsFor (t : TransportId) (encoded : Bytes) : TransportCall → Prop
  | .sendWithTimeout transport message _ _ _ => transport = t ∧ message = encoded
  | .discardOldest transport _ => transport = t

theorem TransportCall.IsFor.transport_eq {t : TransportId} {encoded : Bytes} {c : TransportCall}
    (h : c.IsFor t encoded) : c.transport = t := by
  cases c with
  | sendWithTimeout => exact h.1
  | discardOldest => exact h

/-- The calls made to send one message on one transport, with the code that came out: at most so many sends and so
many discards. -/
structure SendLog (t : TransportId) (encoded : Bytes) (calls : List TransportCall) (ec : ErrorCode)
    (sends discards : Nat) : Prop where
  settled : Settled TransportCall.isAcceptedSend calls (ec = .ok)
  isFor : ∀ c ∈ calls, c.IsFor t encoded
  sends_le : calls.countP TransportCall.isSend ≤ sends
  discards_le : calls.countP (fun c => !c.isSend) ≤ discards

section
variable {t : TransportId} {encoded : Bytes} {calls calls' : List TransportCall} {ec ec' : ErrorCode}
  {sends sends' discards discards' : Nat}

theorem SendLog.send (t : TransportId) (encoded : Bytes) (priority : UInt32) (timeoutMs : Int64) (ec : ErrorCode) :
    SendLog t encoded [.sendWithTimeout t encoded priority timeoutMs ec] ec 1 0 where
  settled := by
    have h : (ec = .ok) =
        (TransportCall.isAcceptedSend (.sendWithTimeout t encoded priority timeoutMs ec) = true) := by
      simp [TransportCall.isAcceptedSend]
    rw [h]
    exact .singleton
  isFor c hc := by
    rw [List.mem_singleton] at hc
    subst hc
    exact ⟨rfl, rfl⟩
  sends_le := Nat.le_refl 1
  discards_le := Nat.le_refl 0

theorem SendLog.discard (t : TransportId) (encoded : Bytes) (result : ErrorCode) (h : ec ≠ .ok) :
    SendLog t encoded [.discardOldest t result] ec 0 1 where
  settled := (Failed.singleton rfl).settled h
  isFor c hc := by
    rw [List.mem_singleton] at hc
    subst hc
    rfl
  sends_le := Nat.le_refl 0
  discards_le := Nat.le_refl 1

theorem SendLog.nil (t : TransportId) (encoded : Bytes) (h : ec ≠ .ok) : SendLog t encoded [] ec 0 0 where
  settled := .nil h
  isFor _ hc := absurd hc List.not_mem_nil
  sends_le := Nat.le_refl 0
  discards_le := Nat.le_refl 0

theorem SendLog.append (h : SendLog t encoded calls ec sends discards) (hec : ec ≠ .ok)
    (h' : SendLog t encoded calls' ec' sends' discards') :
    SendLog t encoded (calls ++ calls') ec' (sends + sends') (discards + discards') where
  settled := .prepend (h.settled.failed hec) h'.settled
  isFor c hc := (List.mem_append.1 hc).elim (h.isFor c) (h'.isFor c)
  sends_le := by
    rw [List.countP_append]
    exact Nat.add_le_add h.sends_le h'.sends_le
  discards_le := by
    rw [List.countP_append]
    exact Nat.add_le_add h.discards_le h'.discards_le

theorem SendLog.failed (h : SendLog t encoded calls ec sends discards) (hec : ec ≠ .ok) (hec' : ec' ≠ .ok) :
    SendLog t encoded calls ec' sends discards :=
  { h with settled := (h.settled.failed hec).settled hec' }

theorem SendLog.mono (h : SendLog t encoded calls ec sends discards) (hs : sends ≤ sends')
    (hd : discards ≤ discards') : SendLog t encoded calls ec sends' discards' :=
  { h with sends_le := h.sends_le.trans hs, discards_le := h.discards_le.trans hd }

end

/-- The wire grew by the calls of such a log. -/
def Logged {σ : Type*} (t : TransportId) (encoded : Bytes) (w w' : Wire σ) (ec : ErrorCode) (sends discards : Nat) :
    Prop :=
  ∃ calls, w'.calls = w.calls ++ calls ∧ SendLog t encoded calls ec sends discards

section
variable {σ : Type*} (net : Transports σ) {t : TransportId} {encoded : Bytes} {priority : UInt32}
  {policy : BridgeSlaPolicy} {w w' w'' : Wire σ} {ec ec' : ErrorCode} {sends sends' discards discards' : Nat}

theorem Logged.trans (h : Logged t encoded w w' ec sends discards) (hec : ec ≠ .ok)
    (h' : Logged t encoded w' w'' ec' sends' discards') :
    Logged t encoded w w'' ec' (sends + sends') (discards + discards') := by
  obtain ⟨calls, heq, hlog⟩ := h
  obtain ⟨calls', heq', hlog'⟩ := h'
  exact ⟨calls ++ calls', by rw [heq', heq, List.append_assoc], hlog.append hec hlog'⟩

private theorem sendOnce_logged (t : TransportId) (encoded : Bytes) (priority : UInt32) (policy : BridgeSlaPolicy)
    (w : Wire σ) :
    Logged t encoded w (sendOnce net t encoded priority policy w).2 (sendOnce net t encoded priority policy w).1
      1 0 :=
  ⟨_, rfl, .send ..⟩

private theorem discardOldest_logged (t : TransportId) (encoded : Bytes) (w : Wire σ) (h : ec ≠ .ok) :
    Logged t encoded w (w.discardOldest net t).2 ec 0 1 :=
  ⟨_, rfl, .discard t encoded _ h⟩

private theorem discardAndResend_logged (t : TransportId) (encoded : Bytes) (priority : UInt32)
    (policy : BridgeSlaPolicy) (w : Wire σ) (h : ec ≠ .ok) :
    Logged t encoded w (discardAndResend net t encoded priority policy ec w).wire
      (discardAndResend net t encoded priority policy ec w).ec 1 1 := by
  have hdiscard := discardOldest_logged net t encoded w h
  unfold discardAndResend
  split
  · exact hdiscard.trans h (sendOnce_logged net t encoded priority policy _)
  · obtain ⟨calls, heq, hlog⟩ := hdiscard
    exact ⟨calls, heq, hlog.mono (Nat.zero_le 1) (Nat.le_refl 1)⟩

/-- The retry loop makes at most `maxRetries + 1` sends. -/
private theorem retryOnWouldBlock_logged {options : RetryOptions} {w' : Wire σ} (hmax : 0 ≤ options.maxRetries.toInt)
    (h : retryOnWouldBlock (sendOnce net t encoded priority policy) (Wire.sleepFor net) options w = some (ec, w')) :
    Logged t encoded w w' ec (options.maxRetries.toInt.toNat + 1) 0 := by
  unfold retryOnWouldBlock at h
  split at h
  · simp only [Option.some.injEq, Prod.mk.injEq] at h
    obtain ⟨rfl, rfl⟩ := h
    exact ⟨[], (List.append_nil _).symm, (SendLog.nil t encoded (by decide)).mono (Nat.zero_le _) (Nat.le_refl 0)⟩
  · -- after `n` blocked sends the log has `n` sends, none of them accepted
    have hblock : ∀ (n : Nat) (v : Wire σ) (backoffMs : Int64), Logged t encoded w v .wouldBlock n 0 →
        (sendOnce net t encoded priority policy v).1 = .wouldBlock →
        Logged t encoded w ((sendOnce net t encoded priority policy v).2.sleepFor net backoffMs) .wouldBlock
          (n + 1) 0 := by
      intro n v backoffMs hv hblocked
      have hsend := sendOnce_logged net t encoded priority policy v
      rw [hblocked] at hsend
      exact hv.trans (by decide) hsend
    have hinit : Logged t encoded w w .wouldBlock 0 0 :=
      ⟨[], (List.append_nil _).symm, .nil t encoded (by decide)⟩
    rcases retryLoop_rule hblock rfl (by change (0 : Int) ≤ _; omega) hinit h with
      ⟨k, v, hk, hv, hlast, -⟩ | ⟨k, hk, ⟨calls, heq, hlog⟩, rfl⟩
    · have hsend := sendOnce_logged net t encoded priority policy v
      rw [hlast] at hsend
      obtain ⟨calls, heq, hlog⟩ := hv.trans (by decide) hsend
      exact ⟨calls, heq, hlog.mono (by omega) (Nat.le_refl 0)⟩
    · exact ⟨calls, heq, (hlog.failed (by decide) (by decide)).mono (by omega) (Nat.le_refl 0)⟩

/-- The number of sends a retry budget allows after the first two. -/
def retrySends (budget : RetryBudget) : Nat :=
  (max budget.maxRetries.toInt 0).toNat + 1

private theorem retryWhileBlocked_logged {r r' : SendResult σ}
    (h : retryWhileBlocked net t encoded priority policy r = some r')
    (hlog : Logged t encoded w r.wire r.ec sends discards) :
    Logged t encoded w r'.wire r'.ec (sends + retrySends policy.retryBudget) discards := by
  unfold retryWhileBlocked at h
  split at h
  · next hretry =>
    obtain ⟨⟨ec, v⟩, hloop, rfl⟩ := Option.map_eq_some_iff.1 h
    have hpos : 0 < policy.retryBudget.maxRetries.toInt := Int32.lt_iff_toInt_lt.1 hretry.1
    have hne : r.ec ≠ .ok := by
      rw [hretry.2.2.2]
      decide
    have hmax : 0 ≤ (retryOptions policy.retryBudget).maxRetries.toInt := Int.le_of_lt hpos
    have hretries := retryOnWouldBlock_logged net hmax hloop
    obtain ⟨calls, heq, hall⟩ := hlog.trans hne hretries
    refine ⟨calls, heq, hall.mono ?_ (Nat.le_refl _)⟩
    change sends + (policy.retryBudget.maxRetries.toInt.toNat + 1) ≤ sends + retrySends policy.retryBudget
    unfold retrySends
    omega
  · cases h
    obtain ⟨calls, heq, hall⟩ := hlog
    exact ⟨calls, heq, hall.mono (Nat.le_add_right _ _) (Nat.le_refl _)⟩

/-- **The log of one send under backpressure**: it ends with the first accepted send, with at most one discard and
at most two sends before the retries. -/
theorem publishWithBackpressure_logged {r : SendResult σ}
    (h : publishWithBackpressure net t encoded priority policy w = some r) :
    Logged t encoded w r.wire r.ec (2 + retrySends policy.retryBudget) 1 := by
  have hfirst := sendOnce_logged net t encoded priority policy w
  unfold publishWithBackpressure at h
  simp only at h
  split at h
  · cases h
    obtain ⟨calls, heq, hlog⟩ := hfirst
    exact ⟨calls, heq, hlog.mono (by omega) (Nat.zero_le 1)⟩
  · next hgo =>
    have hne : (sendOnce net t encoded priority policy w).1 ≠ .ok := fun hok => hgo (.inl hok)
    split at h
    · exact retryWhileBlocked_logged net h
        (hfirst.trans hne (discardAndResend_logged net t encoded priority policy _ hne))
    · obtain ⟨calls, heq, hlog⟩ := retryWhileBlocked_logged net h hfirst
      exact ⟨calls, heq, hlog.mono (by omega) (Nat.zero_le 1)⟩

/-- Below the largest retry budget, sending under backpressure returns. -/
theorem publishWithBackpressure_isSome (t : TransportId) (encoded : Bytes) (priority : UInt32)
    (hbudget : policy.retryBudget.maxRetries.toInt < 2 ^ 31 - 1) (w : Wire σ) :
    (publishWithBackpressure net t encoded priority policy w).isSome = true := by
  have hretry : ∀ r : SendResult σ, (retryWhileBlocked net t encoded priority policy r).isSome = true := by
    intro r
    unfold retryWhileBlocked
    split
    · next hretry =>
      have hpos : 0 < policy.retryBudget.maxRetries.toInt := Int32.lt_iff_toInt_lt.1 hretry.1
      rw [Option.isSome_map]
      unfold retryOnWouldBlock
      split
      · rfl
      · have hzero : (0 : Int32).toInt = 0 := rfl
        have hoptions : (retryOptions policy.retryBudget).maxRetries.toInt = policy.retryBudget.maxRetries.toInt :=
          rfl
        exact retryLoop_isSome (by omega) (by omega) (by omega)
    · rfl
  unfold publishWithBackpressure
  simp only
  split
  · rfl
  · split <;> exact hretry _

end

/-! ### What all calls keep -/

/-- A property of the wire that every call on the transports, and every sleep, keeps. -/
structure KeptByCalls {σ : Type*} (net : Transports σ) (I : Wire σ → Prop) : Prop where
  send : ∀ t message priority timeoutMs w, I w → I (w.sendWithTimeout net t message priority timeoutMs).2
  discard : ∀ t w, I w → I (w.discardOldest net t).2
  sleep : ∀ ms w, I w → I (w.sleepFor net ms)

section
variable {σ : Type*} {net : Transports σ} {I : Wire σ → Prop} {t : TransportId} {encoded : Bytes} {priority : UInt32}
  {policy : BridgeSlaPolicy} {w : Wire σ}

theorem KeptByCalls.retryWhileBlocked (hI : KeptByCalls net I) {r r' : SendResult σ}
    (h : VehicleBridge.retryWhileBlocked net t encoded priority policy r = some r') (hr : I r.wire) : I r'.wire := by
  unfold VehicleBridge.retryWhileBlocked at h
  split at h
  · next hretry =>
    obtain ⟨⟨ec, v⟩, hloop, rfl⟩ := Option.map_eq_some_iff.1 h
    unfold retryOnWouldBlock at hloop
    split at hloop
    · cases hloop
      exact hr
    · have hpos : 0 < policy.retryBudget.maxRetries.toInt := Int32.lt_iff_toInt_lt.1 hretry.1
      have hblock : ∀ (n : Nat) (v : Wire σ) (backoffMs : Int64), I v →
          (sendOnce net t encoded priority policy v).1 = .wouldBlock →
          I ((sendOnce net t encoded priority policy v).2.sleepFor net backoffMs) :=
        fun _ v backoffMs hv _ => hI.sleep backoffMs _ (hI.send _ _ _ _ v hv)
      have hbudget : (0 : Int32).toInt ≤ (retryOptions policy.retryBudget).maxRetries.toInt + 1 := by
        change (0 : Int) ≤ policy.retryBudget.maxRetries.toInt + 1
        omega
      rcases retryLoop_rule (I := fun _ => I) hblock (n := 0) rfl hbudget hr hloop with
        ⟨-, v, -, hv, hlast, -⟩ | ⟨-, -, hv, -⟩
      · have hsend := hI.send t encoded priority policy.transportSendTimeoutMs v hv
        change I (sendOnce net t encoded priority policy v).2 at hsend
        rw [hlast] at hsend
        exact hsend
      · exact hv
  · cases h
    exact hr

/-- **The rule for a send under backpressure.** -/
theorem KeptByCalls.publishWithBackpressure (hI : KeptByCalls net I) {r : SendResult σ}
    (h : VehicleBridge.publishWithBackpressure net t encoded priority policy w = some r) (hw : I w) : I r.wire := by
  have hfirst : I (sendOnce net t encoded priority policy w).2 := hI.send _ _ _ _ w hw
  unfold VehicleBridge.publishWithBackpressure at h
  simp only at h
  split at h
  · cases h
    exact hfirst
  split at h
  · refine hI.retryWhileBlocked h ?_
    unfold discardAndResend
    split
    · exact hI.send _ _ _ _ _ (hI.discard _ _ hfirst)
    · exact hI.discard _ _ hfirst
  · exact hI.retryWhileBlocked h hfirst

end

end VehicleBridge
