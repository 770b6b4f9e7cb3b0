import VehicleBridge.Interconnect.PublishOutcome
import VehicleBridge.Lib.Transition

/-!
# The idempotency window over runs

A key enters the window before the message is encoded, admitted by the flow control and sent, and stays there when
one of these fails.  `duplicate_was_published` says what saves a run: where every publish that enters a key is then
accepted by a transport, only messages that were published are suppressed.
-/

namespace VehicleBridge

open ByteText Transition

/-- A call of `Publish`: the transports that answer it with their wire, what it reads from outside, the slots that
other calls hold meanwhile, and its arguments. -/
structure PublishCall (σ : Type*) where
  net : Transports σ
  wire : Wire σ
  env : PublishEnv := {}
  inflight : InflightCounters := {}
  transport : TransportId
  envelope : MessageEnvelope

/-- A bridge, with the envelopes published so far and the codes returned. -/
structure PublishHistory where
  bridge : BridgeState
  past : List (MessageEnvelope × ErrorCode) := []

section
variable {σ : Type*}

/-- The bridge as the call finds it. -/
def PublishCall.before (call : PublishCall σ) (h : PublishHistory) : BridgeState :=
  { h.bridge with inflight := call.inflight }

def PublishCall.exec (call : PublishCall σ) (h : PublishHistory) : Option PublishHistory :=
  (publish call.net call.env call.transport call.envelope (call.before h) call.wire).map fun result =>
    { bridge := result.2.1, past := h.past ++ [(call.envelope, result.1)] }

/-- The call was dropped as a duplicate. -/
def Dropped (h h' : PublishHistory) : Prop :=
  h'.bridge.traffic.idempotencyDropCount ≠ h.bridge.traffic.idempotencyDropCount

/-- An envelope on the topic with the key was published. -/
def Published (h : PublishHistory) (topic key : Bytes) : Prop :=
  ∃ e, (e, ErrorCode.ok) ∈ h.past ∧ e.topic = topic ∧ dedupKey e = key

/-! ### When a run is saved -/

/-- The call enters a key that the window does not have. -/
def PublishCall.EntersKey (call : PublishCall σ) (h : PublishHistory) : Prop :=
  refuseEarly call.env call.envelope (call.before h) = none ∧
    shouldApplyIdempotency h.bridge.config call.envelope = true ∧ inWindow call.envelope h.bridge = false

/-- The transport of the call's direction accepts what is to be sent or, where failover from it is enabled, the
opposite one does. -/
def PublishCall.TransportAccepts (call : PublishCall σ) (h : PublishHistory) : Prop :=
  let out := outgoing call.env call.transport call.envelope (call.before h)
  ∃ r, publishWithBackpressure call.net call.transport out.encoded out.priority out.policy call.wire = some r ∧
    (r.ec = .ok ∨ (failoverEnabled h.bridge.tuning call.transport = true ∧
      ∃ r', publishWithBackpressure call.net call.transport.opposite out.encoded out.priority out.policy r.wire =
        some r' ∧ r'.ec = .ok))

/-- A call that enters a key finds a free flow slot and a transport that accepts its message. -/
def PublishCall.KeepsWord (call : PublishCall σ) (h : PublishHistory) : Prop :=
  call.EntersKey h → FlowSlotFree call.transport (call.before h) ∧ call.TransportAccepts h

/-! ### The window -/

/-- What is in the window was published. -/
def WindowPublished (h : PublishHistory) : Prop :=
  ∀ topic, ∀ key ∈ h.bridge.recentKeys topic, Published h topic key

theorem Published.snoc {h : PublishHistory} {topic key : Bytes} (hp : Published h topic key) (s' : BridgeState)
    (entry : MessageEnvelope × ErrorCode) : Published { bridge := s', past := h.past ++ [entry] } topic key := by
  obtain ⟨e, he, hrest⟩ := hp
  exact ⟨e, List.mem_append_left _ he, hrest⟩

private theorem mem_rememberKey {windowSize : UInt32} {key key' : Bytes} {bucket : List Bytes}
    (h : key' ∈ rememberKey windowSize key bucket) : key' ∈ bucket ∨ key' = key := by
  have hmem := List.mem_of_mem_drop h
  rwa [List.mem_append, List.mem_singleton] at hmem

/-- Behind the window there is at most one key more, under the topic of the envelope. -/
private theorem mem_passWindow {e : MessageEnvelope} {s : BridgeState} {topic key : Bytes}
    (h : key ∈ (passWindow e s).recentKeys topic) :
    key ∈ s.recentKeys topic ∨
      (shouldApplyIdempotency s.config e = true ∧ topic = e.topic ∧ key = dedupKey e) := by
  unfold passWindow at h
  split at h
  · next happly =>
    simp only [enterKey] at h
    split at h
    · next htopic =>
      subst htopic
      exact (mem_rememberKey h).imp_right fun hkey => ⟨happly, rfl, hkey⟩
    · exact .inl h
  · exact .inl h

/-- A call whose transports accept returns `kOk`. -/
private theorem SendOutcome.ec_ok {net : Transports σ} {t : TransportId} {out : Outgoing} {s : BridgeState}
    {w w' : Wire σ} {ec : ErrorCode} (h : SendOutcome net t out s w ec w')
    (haccepts : ∃ r, publishWithBackpressure net t out.encoded out.priority out.policy w = some r ∧
      (r.ec = .ok ∨ (failoverEnabled s.tuning t = true ∧
        ∃ r', publishWithBackpressure net t.opposite out.encoded out.priority out.policy r.wire = some r' ∧
          r'.ec = .ok))) : ec = .ok := by
  obtain ⟨r, hr, haccepts⟩ := haccepts
  cases h with
  | sent => rfl
  | failed hsend hne hdisabled =>
    cases hsend.symm.trans hr
    rcases haccepts with hok | ⟨henabled, -⟩
    · exact absurd hok hne
    · exact absurd (henabled.symm.trans hdisabled) (by decide)
  | failedOver => rfl
  | failedTwice hsend hne _ hsend' hne' =>
    cases hsend.symm.trans hr
    rcases haccepts with hok | ⟨-, r', hr', hok⟩
    · exact absurd hok hne
    · cases hsend'.symm.trans hr'
      exact absurd hok hne'

/-- **The step lemma**: a call that keeps its word keeps the window to what was published. -/
theorem WindowPublished.step {h h' : PublishHistory} {call : PublishCall σ} (hw : WindowPublished h)
    (hword : call.KeepsWord h) (hstep : call.exec h = some h') : WindowPublished h' := by
  obtain ⟨⟨ec, s', w'⟩, hpublish, rfl⟩ := Option.map_eq_some_iff.1 hstep
  obtain ⟨-, houtcome⟩ := publish_outcome hpublish
  -- a key behind the window was there before, or is the one the call enters
  have hpass : s'.recentKeys = (passWindow call.envelope (call.before h)).recentKeys →
      (shouldApplyIdempotency h.bridge.config call.envelope = true → ec = .ok) →
      WindowPublished { bridge := s', past := h.past ++ [(call.envelope, ec)] } := by
    intro hkeys hok topic key hkey
    rw [hkeys] at hkey
    rcases mem_passWindow hkey with hold | ⟨happly, rfl, rfl⟩
    · exact (hw topic key hold).snoc _ _
    · exact ⟨call.envelope, by simp [hok happly], rfl, rfl⟩
  have hsame : s'.recentKeys = h.bridge.recentKeys →
      WindowPublished { bridge := s', past := h.past ++ [(call.envelope, ec)] } := by
    intro hkeys topic key hkey
    rw [hkeys] at hkey
    exact (hw topic key hkey).snoc _ _
  have henters : refuseEarly call.env call.envelope (call.before h) = none →
      ¬ Suppressed call.envelope (call.before h) → shouldApplyIdempotency h.bridge.config call.envelope = true →
      call.EntersKey h := by
    intro hearly hnot happly
    exact ⟨hearly, happly, Bool.not_eq_true _ ▸ fun hin => hnot ⟨happly, hin⟩⟩
  cases houtcome with
  | refused _ hkeys => exact hsame hkeys
  | duplicate => exact hsame rfl
  | noSlot hearly hnot hfull hkeys =>
    exact hpass hkeys fun happly => absurd (hword (henters hearly hnot happly)).1 hfull
  | sent hearly hnot _ hkeys _ hsent =>
    exact hpass hkeys fun happly => hsent.ec_ok (hword (henters hearly hnot happly)).2

/-- **Deduplication suppresses only what was published**, in every run of a bridge with an empty window in which every
call that enters a key finds a free flow slot and a transport that accepts its message. -/
theorem duplicate_was_published {s : BridgeState} (hempty : ∀ topic, s.recentKeys topic = [])
    {calls : List (PublishCall σ)} {h h' : PublishHistory}
    (hrun : Run (fun h (call : PublishCall σ) h' => call.KeepsWord h ∧ call.exec h = some h') { bridge := s } calls h)
    {call : PublishCall σ} (hstep : call.exec h = some h') (hdrop : Dropped h h') :
    Published h call.envelope.topic (dedupKey call.envelope) := by
  have hwindow : WindowPublished h := by
    refine hrun.invariant (fun _ _ _ hw hs => hw.step hs.1 hs.2) fun topic key hkey => ?_
    rw [hempty topic] at hkey
    cases hkey
  obtain ⟨⟨ec, s', w'⟩, hpublish, rfl⟩ := Option.map_eq_some_iff.1 hstep
  obtain ⟨-, houtcome⟩ := publish_outcome hpublish
  cases houtcome with
  | refused _ _ hcount => exact absurd hcount hdrop
  | duplicate hsuppressed => exact hwindow _ _ (List.contains_iff_mem.1 hsuppressed.2)
  | noSlot _ _ _ _ hcount => exact absurd hcount hdrop
  | sent _ _ _ _ hcount => exact absurd hcount hdrop

end

/-! ### A command published twice -/

/-- A bridge that deduplicates the vehicle's commands. -/
def dedupBridge : BridgeState :=
  (start (fun _ => 0) {} { plainConfig with idempotencyTopics := [text "vehicle.command"] } {}).2

/-- The step command published by the vehicle, over transports that answer with the given codes. -/
def stepCall (script : List ErrorCode) : PublishCall (List ErrorCode) :=
  { net := scriptedTransports, wire := { state := script }, transport := .vehicleToRobot
    envelope := MessageCodec.stepCommand }

/-- The bridge after the command has been published once. -/
def afterStepCall (script : List ErrorCode) : PublishHistory :=
  ((stepCall script).exec { bridge := dedupBridge }).getD { bridge := dedupBridge }

theorem duplicate_was_published_stepCommand :
    Published (afterStepCall []) (text "vehicle.command") (dedupKey MessageCodec.stepCommand) := by
  have hfirst : (stepCall []).exec { bridge := dedupBridge } = some (afterStepCall []) := rfl
  have hword : (stepCall []).KeepsWord { bridge := dedupBridge } := fun _ =>
    ⟨.inr (by decide), _, rfl, .inl rfl⟩
  have hsecond : (stepCall []).exec (afterStepCall []) = some _ := rfl
  exact duplicate_was_published (fun _ => rfl) ((Run.refl _).snoc ⟨hword, hfirst⟩) hsecond (by
    unfold Dropped
    decide)

/-- A command whose send fails is suppressed when it is published again. -/
theorem duplicate_not_published : ¬ ∀ (s : BridgeState) (calls : List (PublishCall (List ErrorCode)))
    (h h' : PublishHistory) (call : PublishCall (List ErrorCode)), (∀ topic, s.recentKeys topic = []) →
    Run (fun h (call : PublishCall (List ErrorCode)) h' => call.exec h = some h') { bridge := s } calls h →
      call.exec h = some h' → Dropped h h' → Published h call.envelope.topic (dedupKey call.envelope) := by
  intro hall
  have hfirst : (stepCall [.queueSendFailed]).exec { bridge := dedupBridge } =
      some (afterStepCall [.queueSendFailed]) := rfl
  have hsecond : (stepCall []).exec (afterStepCall [.queueSendFailed]) = some _ := rfl
  obtain ⟨e, he, -⟩ := hall dedupBridge _ _ _ (stepCall []) (fun _ => rfl) ((Run.refl _).snoc hfirst) hsecond (by
    unfold Dropped
    decide)
  have hpast : (afterStepCall [.queueSendFailed]).past = [(MessageCodec.stepCommand, .queueSendFailed)] := rfl
  rw [hpast, List.mem_singleton] at he
  cases he

end VehicleBridge
