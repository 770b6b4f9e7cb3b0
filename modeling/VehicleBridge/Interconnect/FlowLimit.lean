import VehicleBridge.Interconnect.FlowSlots

/-!
# The in-flight limit

Publishers that send on the transport of their direction hold a flow slot of it while they do, so at most as many are
in `PublishWithBackpressure` there as its limit says.  That bounds all sends as long as nobody fails over
(`flow_limit_bounds_sends`).  A publisher that does enters the opposite transport without a slot, and the first one
exceeds the limit exactly where that transport is full.
-/

namespace VehicleBridge

open ByteText FixedWidth Threads Transition

/-! ### Who is inside -/

/-- In the send that a slot was taken for. -/
def PublishPhase.sendsOn (t : TransportId) : PublishPhase → Nat
  | .sending t' _ => if t' = t then 1 else 0
  | _ => 0

/-- In a send that failed over. -/
def PublishPhase.failsOverTo (t : TransportId) : PublishPhase → Nat
  | .failingOver t' => if t' = t then 1 else 0
  | _ => 0

private theorem sendsOn_idle (t : TransportId) : PublishPhase.idle.sendsOn t = 0 :=
  rfl

private theorem failsOverTo_idle (t : TransportId) : PublishPhase.idle.failsOverTo t = 0 :=
  rfl

/-- The publishers inside `PublishWithBackpressure` on a transport: with a slot of it, and failed over to it. -/
def FlowSystem.slotSends (s : FlowSystem) (t : TransportId) : Nat :=
  total (PublishPhase.sendsOn t) s.locals

def FlowSystem.failoverSends (s : FlowSystem) (t : TransportId) : Nat :=
  total (PublishPhase.failsOverTo t) s.locals

def FlowSystem.inside (s : FlowSystem) (t : TransportId) : Nat :=
  s.slotSends t + s.failoverSends t

/-- At most as many publishers are inside as the limit of the transport says. -/
def FlowSystem.Bounded (s : FlowSystem) : Prop :=
  ∀ t, s.inside t ≤ (flowLimit s.shared.tuning t).toNat

/-- The publisher does not fail over: it is not about to choose another transport, or there is none to choose. -/
def FlowSystem.StaysOnOwn (s : FlowSystem) (i : Nat) : Prop :=
  ∀ t, s.locals[i]? = some (.resolving t) → failoverTransport t s.shared = none

/-! ### How publishers come in -/

/-- What a step of a publisher does to the sends: it enters one with a slot, enters one by failover, or enters none. -/
inductive SendMove (phase phase' : PublishPhase) (s : BridgeState) : Prop
  | granted (t : TransportId) (counted : Bool) : phase = .acquiring t → phase' = .sending t counted →
      (flowLimit s.tuning t ≠ 0 → s.inflight.get t + 1 ≤ flowLimit s.tuning t) → SendMove phase phase' s
  | failedOver (t other : TransportId) : phase = .resolving t → phase' = .failingOver other →
      failoverTransport t s = some other → SendMove phase phase' s
  | other : (∀ t, phase'.sendsOn t = 0) → (∀ t, phase'.failsOverTo t = 0) →
      (∀ t, phase = .resolving t → failoverTransport t s = none) → SendMove phase phase' s

private theorem PublishPhase.step_sends {phase phase' : PublishPhase} {e : PublishEvent} {s s' : BridgeState}
    (h : phase.step e s = some (phase', s')) : SendMove phase phase' s := by
  unfold PublishPhase.step at h
  cases phase with
  | idle =>
    simp only at h
    split at h
    · cases h
      exact .other (fun _ => rfl) (fun _ => rfl) nofun
    · cases h
  | acquiring t =>
    simp only at h
    split at h
    · next hzero =>
      cases h
      exact .granted t false rfl rfl fun hlimit => absurd hzero hlimit
    · next hlimit =>
      simp only [Option.some.injEq, Prod.mk.injEq] at h
      obtain ⟨hphase, -⟩ := h
      split at hphase
      · next hfull =>
        subst hphase
        exact .other (fun _ => rfl) (fun _ => rfl) nofun
      · next hroom => exact .granted t true rfl hphase.symm fun _ => UInt32.not_lt.1 hroom
  | releasing t counted ec =>
    simp only [Option.some.injEq, Prod.mk.injEq] at h
    obtain ⟨hphase, -⟩ := h
    split at hphase <;> subst hphase <;> exact .other (fun _ => rfl) (fun _ => rfl) nofun
  | resolving t =>
    simp only [Option.some.injEq, Prod.mk.injEq] at h
    obtain ⟨hphase, -⟩ := h
    have hsame : failoverTransport t { s with orchestrator := s.orchestrator.onPrimarySendFailure } =
        failoverTransport t s := by
      rw [failoverTransport_eq, failoverTransport_eq]
    rw [hsame] at hphase
    cases hfailover : failoverTransport t s with
    | none =>
      rw [hfailover] at hphase
      subst hphase
      refine .other (fun _ => rfl) (fun _ => rfl) fun t' heq => ?_
      cases heq
      exact hfailover
    | some other =>
      rw [hfailover] at hphase
      exact .failedOver t other rfl hphase.symm hfailover
  | backingOut | sending | failingOver =>
    cases h
    exact .other (fun _ => rfl) (fun _ => rfl) nofun

/-! ### The bound -/

/-- With a limit on every transport, a publisher in the send its slot was taken for has counted. -/
private theorem slotSends_le {s : FlowSystem} (h : Paired s) (hlimits : ∀ t, flowLimit s.shared.tuning t ≠ 0)
    (t : TransportId) : s.slotSends t ≤ (s.shared.inflight.get t).toNat := by
  rw [h.counts t]
  refine total_le_total fun phase hphase => ?_
  have hagrees := h.undoes phase hphase
  cases phase with
  | sending t' counted =>
    obtain rfl : counted = true := (hagrees t' counted rfl).2 (hlimits t')
    have hslot : (PublishPhase.sending t' true).slot = some (t', true) := rfl
    rw [outstanding_of_some hslot, PublishPhase.sendsOn]
    simp only [eq_comm, Nat.le_refl]
  | idle | acquiring | backingOut | releasing | resolving | failingOver => exact Nat.zero_le _

private theorem inside_set {s : FlowSystem} {i : Nat} {phase : PublishPhase} (h : s.locals[i]? = some phase)
    (phase' : PublishPhase) (shared : BridgeState) (t : TransportId) :
    FlowSystem.inside { shared, locals := s.locals.set i phase' } t + (phase.sendsOn t + phase.failsOverTo t) =
      s.inside t + (phase'.sendsOn t + phase'.failsOverTo t) := by
  have hsends := total_set (PublishPhase.sendsOn t) h phase'
  have hfails := total_set (PublishPhase.failsOverTo t) h phase'
  simp only [FlowSystem.inside, FlowSystem.slotSends, FlowSystem.failoverSends]
  omega

/-- One more publisher inside keeps the bound exactly where there is room for one. -/
private theorem bounded_enter_iff {s s' : FlowSystem} (hb : s.Bounded) (htuning : s'.shared.tuning = s.shared.tuning)
    (t : TransportId) (henter : ∀ t', s'.inside t' = s.inside t' + if t' = t then 1 else 0) :
    s'.Bounded ↔ s.inside t < (flowLimit s.shared.tuning t).toNat := by
  unfold FlowSystem.Bounded
  rw [htuning]
  constructor
  · intro hb'
    have hle := hb' t
    rw [henter, if_pos rfl] at hle
    exact hle
  · intro hroom t'
    rw [henter]
    by_cases heq : t' = t
    · rw [if_pos heq, heq]
      exact hroom
    · rw [if_neg heq]
      exact hb t'

/-- A publisher that enters the send its slot was taken for keeps the bound where no failover send is inside. -/
private theorem bounded_granted {s s' : FlowSystem} (h : Paired s) {t : TransportId}
    (hlimits : ∀ t, flowLimit s.shared.tuning t ≠ 0) (hb : s.Bounded)
    (hnone : s.failoverSends t = 0) (hmax : s.shared.inflight.get t ≠ 4294967295)
    (hroom : s.shared.inflight.get t + 1 ≤ flowLimit s.shared.tuning t)
    (htuning : s'.shared.tuning = s.shared.tuning)
    (henter : ∀ t', s'.inside t' = s.inside t' + if t' = t then 1 else 0) : s'.Bounded := by
  rw [bounded_enter_iff hb htuning t henter]
  have hcount : (s.shared.inflight.get t + 1).toNat = (s.shared.inflight.get t).toNat + 1 := toNat_add_one_of_ne hmax
  have hle := UInt32.le_iff_toNat_le.1 hroom
  have hslots := slotSends_le h hlimits t
  unfold FlowSystem.inside
  omega

/-- A failover keeps the bound exactly where the transport it goes to is not full. -/
private theorem bounded_failover_iff {s s' : FlowSystem} (hb : s.Bounded) {i : Nat} {e : PublishEvent}
    {t other : TransportId} (hphase : s.locals[i]? = some (.resolving t))
    (hfailover : failoverTransport t s.shared = some other) (hexec : s.turn PublishPhase.step i e = some s') :
    s'.Bounded ↔ s.inside other < (flowLimit s.shared.tuning other).toNat := by
  obtain ⟨phase, phase', shared, hget, hstep, rfl⟩ := System.turn_eq_some hexec
  cases hphase.symm.trans hget
  cases PublishPhase.step_sends hstep with
  | granted _ _ heq => cases heq
  | failedOver t' other' heq hphase' hfailover' =>
    cases heq
    cases hfailover.symm.trans hfailover'
    subst hphase'
    refine bounded_enter_iff hb (PublishPhase.step_tuning hstep).1 other fun t' => ?_
    have hsum := inside_set hget (.failingOver other) shared t'
    simp only [PublishPhase.sendsOn, PublishPhase.failsOverTo, eq_comm (a := other)] at hsum
    omega
  | other _ _ hnone => cases (hnone t rfl).symm.trans hfailover

/-! ### Runs -/

/-- A step of a publisher that is in order and does not fail over. -/
def OwnStep (s : FlowSystem) (turn : Nat × PublishEvent) (s' : FlowSystem) : Prop :=
  s.InOrder (.turn turn.1 turn.2) ∧ s.StaysOnOwn turn.1 ∧ s.turn PublishPhase.step turn.1 turn.2 = some s'

/-- Counters and publishers are paired, no failover send is inside, and the bound holds under the limits there are. -/
structure WithinLimits (tuning : TransportTuning) (s : FlowSystem) : Prop where
  paired : Paired s
  tuning : s.shared.tuning = tuning
  failoverSends : ∀ t, s.failoverSends t = 0
  bounded : s.Bounded

/-- **The step lemma.** -/
theorem WithinLimits.step {tuning : TransportTuning} (hlimits : ∀ t, flowLimit tuning t ≠ 0) {s s' : FlowSystem}
    {turn : Nat × PublishEvent} (h : WithinLimits tuning s) (hstep : OwnStep s turn s') : WithinLimits tuning s' := by
  obtain ⟨horder, hown, hexec⟩ := hstep
  have hpaired := (h.paired.turn_iff hexec).2 horder
  have hlimits' : ∀ t, flowLimit s.shared.tuning t ≠ 0 := h.tuning ▸ hlimits
  obtain ⟨phase, phase', shared, hget, hphase, rfl⟩ := System.turn_eq_some hexec
  have htuning : shared.tuning = s.shared.tuning := (PublishPhase.step_tuning hphase).1
  have hinside := inside_set hget phase' shared
  have hfailovers := fun t => total_set (PublishPhase.failsOverTo t) hget phase'
  cases PublishPhase.step_sends hphase with
  | granted t counted hacquiring hsending hroom =>
    subst hacquiring hsending
    refine ⟨hpaired, htuning.trans h.tuning, fun t' => ?_, ?_⟩
    · exact (hfailovers t').trans (h.failoverSends t')
    · refine bounded_granted h.paired hlimits' h.bounded (h.failoverSends t) (horder t hget (hlimits' t))
        (hroom (hlimits' t)) htuning fun t' => ?_
      have hsum := hinside t'
      simp only [PublishPhase.sendsOn, PublishPhase.failsOverTo, eq_comm (a := t)] at hsum
      exact hsum
  | failedOver t other hresolving _ hfailover =>
    subst hresolving
    cases (hown t hget).symm.trans hfailover
  | other hsends hfails =>
    refine ⟨hpaired, htuning.trans h.tuning, fun t => ?_, fun t => ?_⟩
    · have hsum := hfailovers t
      have hbefore := h.failoverSends t
      rw [hfails] at hsum
      unfold FlowSystem.failoverSends at hbefore ⊢
      simp only
      omega
    · have hsum := hinside t
      have hbound := h.bounded t
      rw [hsends, hfails] at hsum
      change _ ≤ (flowLimit shared.tuning t).toNat
      rw [htuning]
      omega

private theorem start_inflight (hashString : ByteText.Bytes → UInt64) (env : StartEnv) (config : BridgeConfig) :
    (start hashString env config {}).2.inflight = {} := by
  by_cases htunes : Tunes env config {}
  · exact (start_of_tunes htunes).2
  · exact (start_of_not_tunes htunes).2

private theorem failoverSends_init (s : BridgeState) (publishers : Nat) (t : TransportId) :
    (FlowSystem.init s publishers).failoverSends t = 0 :=
  total_replicate (PublishPhase.failsOverTo t) (failsOverTo_idle t) publishers

private theorem withinLimits_init (s : BridgeState) (hzero : s.inflight = {}) (publishers : Nat) :
    WithinLimits s.tuning (FlowSystem.init s publishers) := by
  refine ⟨paired_init s hzero publishers, rfl, failoverSends_init s publishers, fun t => ?_⟩
  have hsends : (FlowSystem.init s publishers).slotSends t = 0 :=
    total_replicate (PublishPhase.sendsOn t) (sendsOn_idle t) publishers
  rw [FlowSystem.inside, hsends, failoverSends_init]
  exact Nat.zero_le _

section
variable {hashString : ByteText.Bytes → UInt64} {env : StartEnv} {config : BridgeConfig} {publishers : Nat}
  {turns : List (Nat × PublishEvent)} {s : FlowSystem}

private theorem withinLimits_of_run (hlimits : ∀ t, flowLimit (start hashString env config {}).2.tuning t ≠ 0)
    (hrun : Run OwnStep (FlowSystem.init (start hashString env config {}).2 publishers) turns s) :
    WithinLimits (start hashString env config {}).2.tuning s :=
  hrun.invariant (fun _ _ _ h hstep => h.step hlimits hstep)
    (withinLimits_init _ (start_inflight hashString env config) publishers)

/-- **The in-flight limit** of each transport bounds the sends on it in every run of publishers none of which fails
over.  The first one that does keeps the bound exactly where the transport it goes to is not full. -/
theorem flow_limit_bounds_sends (hlimits : ∀ t, flowLimit (start hashString env config {}).2.tuning t ≠ 0)
    (hrun : Run OwnStep (FlowSystem.init (start hashString env config {}).2 publishers) turns s) :
    s.Bounded ∧ ∀ i e t other (s' : FlowSystem), s.locals[i]? = some (.resolving t) →
      failoverTransport t s.shared = some other → s.turn PublishPhase.step i e = some s' →
      (s'.Bounded ↔ s.inside other < (flowLimit s.shared.tuning other).toNat) := by
  have hbounded := (withinLimits_of_run hlimits hrun).bounded
  exact ⟨hbounded, fun _ _ _ _ _ hphase hfailover hexec => bounded_failover_iff hbounded hphase hfailover hexec⟩

/-- Without an endpoint to fail over to, no publisher fails over. -/
theorem bounded_without_failover (hlimits : ∀ t, flowLimit (start hashString env config {}).2.tuning t ≠ 0)
    (hdisabled : ∀ t, failoverEnabled (start hashString env config {}).2.tuning t = false)
    (hrun : Run (fun (s : FlowSystem) turn s' => s.InOrder (.turn turn.1 turn.2) ∧
      s.turn PublishPhase.step turn.1 turn.2 = some s')
      (FlowSystem.init (start hashString env config {}).2 publishers) turns s) : s.Bounded := by
  have hown : Run OwnStep (FlowSystem.init (start hashString env config {}).2 publishers) turns s := by
    induction hrun with
    | refl => exact .refl _
    | snoc _ hstep ih =>
      refine .snoc ih ⟨hstep.1, fun t _ => ?_, hstep.2⟩
      rw [failoverTransport_eq, (withinLimits_of_run hlimits ih).tuning, hdisabled]
      rfl
  exact (withinLimits_of_run hlimits hown).bounded

end

/-- A configuration with one slot on each transport and an endpoint to fail over to. -/
def oneSlotConfig : BridgeConfig :=
  { plainConfig with
    vehicleToRobotEndpoint := { name := text "v2r", flowLimitInflight := 1 }
    robotToVehicleEndpoint := { name := text "r2v", flowLimitInflight := 1 }
    additionalEndpoints := [{ name := text "spare" }] }

/-- A robot's publisher that is in its send. -/
def robotSends : List (Nat × PublishEvent) :=
  [(0, { origin := .robot }), (0, {})]

/-- A vehicle's publisher whose send fails meanwhile. -/
def vehicleFails : List (Nat × PublishEvent) :=
  [(1, { origin := .vehicle }), (1, {}), (1, { result := .queueSendFailed }), (1, {})]

theorem flow_limit_bounds_sends_robot :
    ∃ s s' : FlowSystem,
      Run OwnStep (FlowSystem.init (start (fun _ => 0) {} oneSlotConfig {}).2 2) (robotSends ++ vehicleFails) s ∧
        s.inside .robotToVehicle = 1 ∧ s.Bounded ∧ s.turn PublishPhase.step 1 {} = some s' ∧ ¬ s'.Bounded := by
  have hrun : ∃ s s', Run OwnStep (FlowSystem.init (start (fun _ => 0) {} oneSlotConfig {}).2 2)
      (robotSends ++ vehicleFails) s ∧ s.inside .robotToVehicle = 1 ∧
      s.locals[1]? = some (.resolving .vehicleToRobot) ∧
      failoverTransport .vehicleToRobot s.shared = some .robotToVehicle ∧
      (flowLimit s.shared.tuning .robotToVehicle).toNat = 1 ∧ s.turn PublishPhase.step 1 {} = some s' := by
    refine ⟨_, _, .cons ⟨fun _ h => ?_, fun _ h => ?_, rfl⟩ <| .cons ⟨fun t _ _ => ?_, fun _ h => ?_, rfl⟩ <|
      .cons ⟨fun _ h => ?_, fun _ h => ?_, rfl⟩ <| .cons ⟨fun t _ _ => ?_, fun _ h => ?_, rfl⟩ <|
      .cons ⟨fun _ h => ?_, fun _ h => ?_, rfl⟩ <| .cons ⟨fun _ h => ?_, fun _ h => ?_, rfl⟩ (.refl _),
      ?_, rfl, rfl, rfl, rfl⟩
    · cases h
    · cases h
    · cases t <;> decide
    · cases h
    · cases h
    · cases h
    · cases t <;> decide
    · cases h
    · cases h
    · cases h
    · cases h
    · cases h
    · decide
  obtain ⟨s, s', hrun, hinside, hphase, hfailover, hlimit, hexec⟩ := hrun
  obtain ⟨hbounded, hfirst⟩ := flow_limit_bounds_sends (fun t => by cases t <;> decide) hrun
  refine ⟨s, s', hrun, hinside, hbounded, hexec, fun hbounded' => ?_⟩
  have hroom := (hfirst 1 {} _ _ s' hphase hfailover hexec).1 hbounded'
  omega

/-- It goes to the robot's transport. -/
def vehicleFailsOver : List (Nat × PublishEvent) :=
  vehicleFails.concat (1, {})

/-- It is the second one on the robot's transport, which has one slot. -/
theorem flow_limit_exceeded : ¬ ∀ (hashString : ByteText.Bytes → UInt64) (env : StartEnv) (config : BridgeConfig)
    (publishers : Nat) (turns : List (Nat × PublishEvent)) (s : FlowSystem),
    (∀ t, flowLimit (start hashString env config {}).2.tuning t ≠ 0) →
      turns.foldlM (fun s turn => s.turn PublishPhase.step turn.1 turn.2)
        (FlowSystem.init (start hashString env config {}).2 publishers) = some s → s.Bounded := by
  intro hall
  have hlimits : ∀ t, flowLimit (start (fun _ => 0) {} oneSlotConfig {}).2.tuning t ≠ 0 := by
    intro t
    cases t <;> decide
  have hbounded := hall (fun _ => 0) {} oneSlotConfig 2 (robotSends ++ vehicleFailsOver) _ hlimits rfl
  have hle := hbounded .robotToVehicle
  revert hle
  decide

end VehicleBridge
