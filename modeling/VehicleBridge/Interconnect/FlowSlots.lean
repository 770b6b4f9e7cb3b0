import VehicleBridge.Interconnect.Canary
import VehicleBridge.Interconnect.Direction
import VehicleBridge.Lib.FixedWidth
import VehicleBridge.Lib.Threads

/-!
# Flow slots

Publishers on several threads take a flow slot, send and give the slot back, while other threads stop and start the
bridge.  `AcquireFlowSlot` counts first and takes its count back where there is no room; both it and `ReleaseFlowSlot`
leave the counter alone while the limit is 0.  `Start` overwrites limits and counters, whoever is sending.

As long as it does so only while no publisher is between its acquire and its release (or while there is no limit before
and after), each counter is the number of increments still to be undone, and each release undoes that of its own acquire
(`flow_slots_pair_up`); a start at another moment breaks this (`Paired.exec_iff`).
-/

namespace VehicleBridge

open FixedWidth Threads Transition

/-- Where a call of `Publish` is: outside, before `AcquireFlowSlot`, in it with a count too many, in the first send,
before `ReleaseFlowSlot`, before `ResolveFailover`, or in the second send, on the transport that is named.  The flag
says whether the acquire has counted. -/
inductive PublishPhase
  | idle
  | acquiring (t : TransportId)
  | backingOut (t : TransportId)
  | sending (t : TransportId) (counted : Bool)
  | releasing (t : TransportId) (counted : Bool) (ec : ErrorCode)
  | resolving (t : TransportId)
  | failingOver (t : TransportId)
  deriving DecidableEq, Repr

/-- What a publisher meets in a step: the side it publishes for, and what a send returns. -/
structure PublishEvent where
  origin : Side := .vehicle
  result : ErrorCode := .ok
  deriving DecidableEq, Repr

def PublishPhase.step (phase : PublishPhase) (e : PublishEvent) (s : BridgeState) :
    Option (PublishPhase × BridgeState) :=
  match phase with
  -- a call that is refused before the flow slot is no step
  | .idle => if s.running then some (.acquiring e.origin.transport, s) else none
  | .acquiring t =>
    if flowLimit s.tuning t = 0 then some (.sending t false, s)
    else
      let current := s.inflight.get t + 1
      some (if current > flowLimit s.tuning t then .backingOut t else .sending t true,
        { s with inflight := s.inflight.set t current })
  | .backingOut t => some (.idle, { s with inflight := s.inflight.set t (s.inflight.get t - 1) })
  | .sending t counted => some (.releasing t counted e.result, s)
  | .releasing t _ ec => some (if ec = .ok then .idle else .resolving t, releaseFlowSlot t s)
  | .resolving t =>
    let s := { s with orchestrator := s.orchestrator.onPrimarySendFailure }
    some ((failoverTransport t s).elim .idle .failingOver, s)
  | .failingOver _ => some (.idle, s)

/-- A bridge and its publishers. -/
abbrev FlowSystem := System BridgeState PublishPhase

def FlowSystem.init (s : BridgeState) (publishers : Nat) : FlowSystem :=
  { shared := s, locals := List.replicate publishers .idle }

/-- A publisher takes a step, or the bridge is started or stopped. -/
inductive FlowOp
  | turn (i : Nat) (e : PublishEvent)
  | start (env : StartEnv) (config : BridgeConfig)
  | startFromProvider (env : StartEnv) (provider : Option ProviderReplies)
  | stop

section
variable (hashString : ByteText.Bytes → UInt64)

def FlowSystem.exec (s : FlowSystem) : FlowOp → Option FlowSystem
  | .turn i e => s.turn PublishPhase.step i e
  | .start env config => some { s with shared := (VehicleBridge.start hashString env config s.shared).2 }
  | .startFromProvider env provider =>
    some { s with shared := (VehicleBridge.startFromProvider hashString env provider s.shared).2 }
  | .stop => some { s with shared := VehicleBridge.stop s.shared }

end

/-! ### An undisturbed acquire -/

theorem acquiring_of_free {t : TransportId} {s : BridgeState} (e : PublishEvent)
    (hfree : (acquireFlowSlot t s).1 = true) :
    (PublishPhase.acquiring t).step e s =
      some (.sending t (decide (flowLimit s.tuning t ≠ 0)), (acquireFlowSlot t s).2) := by
  unfold acquireFlowSlot at hfree ⊢
  unfold PublishPhase.step
  by_cases hzero : flowLimit s.tuning t = 0
  · simp only [hzero, if_true, ne_eq, not_true_eq_false, decide_false]
  · simp only [hzero, if_false, ne_eq, not_false_eq_true, decide_true] at hfree ⊢
    by_cases hfull : s.inflight.get t + 1 > flowLimit s.tuning t
    · rw [if_pos hfull] at hfree
      cases hfree
    · simp only [hfull, if_false]

theorem acquiring_of_full {t : TransportId} {s : BridgeState} (e e' : PublishEvent)
    (hfull : (acquireFlowSlot t s).1 = false) :
    ((PublishPhase.acquiring t).step e s).bind (fun r => r.1.step e' r.2) = some (.idle, (acquireFlowSlot t s).2) := by
  unfold acquireFlowSlot at hfull ⊢
  unfold PublishPhase.step
  by_cases hzero : flowLimit s.tuning t = 0
  · simp [hzero] at hfull
  · simp only [hzero, if_false] at hfull ⊢
    by_cases hroom : s.inflight.get t + 1 > flowLimit s.tuning t
    · simp only [hroom, if_true, Option.bind_some]
      cases t <;> rfl
    · rw [if_neg hroom] at hfull
      cases hfull

/-! ### The increments that are outstanding -/

/-- The transport on which a publisher is between acquire and release, and whether its acquire has counted. -/
def PublishPhase.slot : PublishPhase → Option (TransportId × Bool)
  | .backingOut t => some (t, true)
  | .sending t counted => some (t, counted)
  | .releasing t counted _ => some (t, counted)
  | _ => none

/-- The increments of a publisher that are still to be undone. -/
def PublishPhase.outstanding (t : TransportId) (phase : PublishPhase) : Nat :=
  if phase.slot = some (t, true) then 1 else 0

/-- The publisher's acquire, if it is past it, has counted exactly if there is a limit. -/
def PublishPhase.Agrees (tuning : TransportTuning) (phase : PublishPhase) : Prop :=
  ∀ t counted, phase.slot = some (t, counted) → (counted = true ↔ flowLimit tuning t ≠ 0)

/-- Each counter is the number of the increments outstanding, and each release is going to undo what its acquire has
done: to count back, or nothing. -/
structure Paired (s : FlowSystem) : Prop where
  counts : ∀ t, (s.shared.inflight.get t).toNat = total (PublishPhase.outstanding t) s.locals
  undoes : ∀ phase ∈ s.locals, phase.Agrees s.shared.tuning

/-- With these limits in place of the present ones, every publisher between acquire and release is without a limit
before and after. -/
def FlowSystem.Retunes (s : FlowSystem) (tuning : TransportTuning) : Prop :=
  ∀ phase ∈ s.locals, ∀ t counted, phase.slot = some (t, counted) →
    flowLimit s.shared.tuning t = 0 ∧ flowLimit tuning t = 0

/-- No counter is at its maximum when it is incremented, and a start that gets as far as the tuning meets no publisher
between acquire and release on a transport with a limit, before or after. -/
def FlowSystem.InOrder (s : FlowSystem) : FlowOp → Prop
  | .turn i _ => ∀ t, s.locals[i]? = some (.acquiring t) → flowLimit s.shared.tuning t ≠ 0 →
      s.shared.inflight.get t ≠ 4294967295
  | .start env config => s.shared.running = false → refusedStart env config s.shared = false →
      s.Retunes (transportTuning config)
  | .startFromProvider env (some p) => p.load = .ok → s.shared.running = false →
      refusedStart env p.config s.shared = false → s.Retunes (transportTuning p.config)
  | .startFromProvider _ none => True
  | .stop => True

/-! ### A step of a publisher -/

theorem InflightCounters.get_set (c : InflightCounters) (t t' : TransportId) (n : UInt32) :
    (c.set t n).get t' = if t' = t then n else c.get t' := by
  cases t <;> cases t' <;> rfl

private theorem outstanding_idle (t : TransportId) : PublishPhase.idle.outstanding t = 0 :=
  rfl

private theorem outstanding_of_none {phase : PublishPhase} (h : phase.slot = none) (t : TransportId) :
    phase.outstanding t = 0 := by
  simp [PublishPhase.outstanding, h]

theorem outstanding_of_some {phase : PublishPhase} {t : TransportId} (h : phase.slot = some (t, true))
    (t' : TransportId) : phase.outstanding t' = if t' = t then 1 else 0 := by
  simp only [PublishPhase.outstanding, h, Option.some.injEq, Prod.mk.injEq, and_true, eq_comm]

private theorem outstanding_of_uncounted {phase : PublishPhase} {t : TransportId} (h : phase.slot = some (t, false))
    (t' : TransportId) : phase.outstanding t' = 0 := by
  simp [PublishPhase.outstanding, h]

private theorem total_outstanding_eq_zero {l : List PublishPhase} {t : TransportId}
    (h : ∀ phase ∈ l, phase.slot ≠ some (t, true)) : total (PublishPhase.outstanding t) l = 0 :=
  total_eq_zero fun phase hphase => if_neg (h phase hphase)

/-- How a step of a publisher moves the counters: it counts one more, takes one back, or leaves them alone. -/
inductive CounterMove (phase phase' : PublishPhase) (s s' : BridgeState) : Prop
  | counted (t : TransportId) : phase = .acquiring t → flowLimit s.tuning t ≠ 0 → phase'.slot = some (t, true) →
      s'.inflight = s.inflight.set t (s.inflight.get t + 1) → CounterMove phase phase' s s'
  | undone (t : TransportId) (counted : Bool) : phase.slot = some (t, counted) →
      (phase = .backingOut t ∨ flowLimit s.tuning t ≠ 0) → phase'.slot = none →
      s'.inflight = s.inflight.set t (s.inflight.get t - 1) → CounterMove phase phase' s s'
  | left (t : TransportId) (counted : Bool) : phase.slot = some (t, counted) → flowLimit s.tuning t = 0 →
      phase'.slot = none → s'.inflight = s.inflight → CounterMove phase phase' s s'
  | unlimited (t : TransportId) : phase = .acquiring t → flowLimit s.tuning t = 0 → phase'.slot = some (t, false) →
      s'.inflight = s.inflight → CounterMove phase phase' s s'
  | kept : (∀ t, phase ≠ .acquiring t) → phase'.slot = phase.slot → s'.inflight = s.inflight →
      CounterMove phase phase' s s'

theorem PublishPhase.step_tuning {phase phase' : PublishPhase} {e : PublishEvent} {s s' : BridgeState}
    (h : phase.step e s = some (phase', s')) : s'.tuning = s.tuning ∧ s'.running = s.running := by
  unfold PublishPhase.step at h
  cases phase with
  | idle =>
    simp only at h
    split at h
    · cases h
      exact ⟨rfl, rfl⟩
    · cases h
  | acquiring t =>
    simp only at h
    split at h <;> cases h <;> exact ⟨rfl, rfl⟩
  | releasing t counted ec =>
    simp only [Option.some.injEq, Prod.mk.injEq] at h
    rw [← h.2, releaseFlowSlot_frame]
    exact ⟨rfl, rfl⟩
  | backingOut | sending | resolving | failingOver =>
    cases h
    exact ⟨rfl, rfl⟩

theorem PublishPhase.step_move {phase phase' : PublishPhase} {e : PublishEvent} {s s' : BridgeState}
    (h : phase.step e s = some (phase', s')) : CounterMove phase phase' s s' := by
  unfold PublishPhase.step at h
  cases phase with
  | idle =>
    simp only at h
    split at h
    · cases h
      exact .kept nofun rfl rfl
    · cases h
  | acquiring t =>
    simp only at h
    split at h
    · next hzero =>
      cases h
      exact .unlimited t rfl hzero rfl rfl
    · next hlimit =>
      cases h
      refine .counted t rfl hlimit ?_ rfl
      split <;> rfl
  | backingOut t =>
    cases h
    exact .undone t true rfl (.inl rfl) rfl rfl
  | sending t counted =>
    cases h
    exact .kept nofun rfl rfl
  | releasing t counted ec =>
    simp only [Option.some.injEq, Prod.mk.injEq] at h
    obtain ⟨hphase, hstate⟩ := h
    have hslot : phase'.slot = none := by
      rw [← hphase]
      split <;> rfl
    unfold releaseFlowSlot at hstate
    split at hstate
    · next hzero =>
      exact .left t counted rfl hzero hslot (by rw [← hstate])
    · next hlimit =>
      exact .undone t counted rfl (.inr hlimit) hslot (by rw [← hstate])
  | resolving t =>
    simp only [Option.some.injEq, Prod.mk.injEq] at h
    obtain ⟨hphase, hstate⟩ := h
    refine .kept nofun ?_ (by rw [← hstate])
    rw [← hphase]
    cases failoverTransport t { s with orchestrator := s.orchestrator.onPrimarySendFailure } <;> rfl
  | failingOver t =>
    cases h
    exact .kept nofun rfl rfl

/-- **The step of a counter**: it moves as the increments that the publisher still has to undo. -/
theorem CounterMove.balance {phase phase' : PublishPhase} {s s' : BridgeState}
    (hmove : CounterMove phase phase' s s') (hagrees : phase.Agrees s.tuning)
    (hcount : ∀ t, phase.outstanding t ≤ (s.inflight.get t).toNat)
    (hroom : ∀ t, phase = .acquiring t → flowLimit s.tuning t ≠ 0 → s.inflight.get t ≠ 4294967295) (t' : TransportId) :
    (s'.inflight.get t').toNat + phase.outstanding t' = (s.inflight.get t').toNat + phase'.outstanding t' := by
  cases hmove with
  | counted t hphase hlimit hslot hinflight =>
    have hnone : phase.outstanding t' = 0 := outstanding_of_none (by rw [hphase]; rfl) t'
    rw [hinflight, InflightCounters.get_set, outstanding_of_some hslot, hnone]
    by_cases heq : t' = t
    · subst heq
      rw [if_pos rfl, if_pos rfl, toNat_add_one_of_ne (hroom t' hphase hlimit)]
    · rw [if_neg heq, if_neg heq]
  | undone t counted hslot hwhy hslot' hinflight =>
    have hcounted : counted = true := by
      rcases hwhy with hback | hlimit
      · rw [hback] at hslot
        cases hslot
        rfl
      · exact (hagrees t counted hslot).2 hlimit
    subst hcounted
    have hpos := hcount t
    rw [outstanding_of_some hslot, if_pos rfl] at hpos
    rw [hinflight, InflightCounters.get_set, outstanding_of_some hslot, outstanding_of_none hslot']
    by_cases heq : t' = t
    · subst heq
      rw [if_pos rfl, if_pos rfl, toNat_sub_one_of_pos hpos]
      omega
    · rw [if_neg heq, if_neg heq]
  | left t counted hslot hzero hslot' hinflight =>
    have huncounted : counted = false := by
      cases counted with
      | false => rfl
      | true => exact absurd hzero ((hagrees t true hslot).1 rfl)
    subst huncounted
    rw [hinflight, outstanding_of_uncounted hslot, outstanding_of_none hslot']
  | unlimited t hphase hzero hslot' hinflight =>
    have hnone : phase.outstanding t' = 0 := outstanding_of_none (by rw [hphase]; rfl) t'
    rw [hinflight, outstanding_of_uncounted hslot', hnone]
  | kept _ hslot hinflight =>
    rw [hinflight]
    simp only [PublishPhase.outstanding, hslot]

theorem CounterMove.agrees {phase phase' : PublishPhase} {s s' : BridgeState} (hmove : CounterMove phase phase' s s')
    (hagrees : phase.Agrees s.tuning) : phase'.Agrees s.tuning := by
  intro t' counted' hslot
  cases hmove with
  | counted t _ hlimit hslot' _ =>
    rw [hslot'] at hslot
    cases hslot
    exact iff_of_true rfl hlimit
  | undone t counted _ _ hslot' _ =>
    rw [hslot'] at hslot
    cases hslot
  | left t counted _ _ hslot' _ =>
    rw [hslot'] at hslot
    cases hslot
  | unlimited t _ hzero hslot' _ =>
    rw [hslot'] at hslot
    cases hslot
    exact iff_of_false Bool.false_ne_true (fun hlimit => hlimit hzero)
  | kept _ hslot' _ => exact hagrees t' counted' (hslot' ▸ hslot)

/-- At its maximum a counter starts again from 0, and no longer counts the publishers. -/
private theorem not_paired_of_wrap {s s' : FlowSystem} {i : Nat} {e : PublishEvent} {t : TransportId}
    (hexec : s.turn PublishPhase.step i e = some s') (hphase : s.locals[i]? = some (.acquiring t))
    (hlimit : flowLimit s.shared.tuning t ≠ 0) (hmax : s.shared.inflight.get t = 4294967295) :
    ¬ ∀ t, (s'.shared.inflight.get t).toNat = total (PublishPhase.outstanding t) s'.locals := by
  intro hcounts
  obtain ⟨phase, phase', shared, hget, hstep, rfl⟩ := System.turn_eq_some hexec
  obtain rfl : PublishPhase.acquiring t = phase := Option.some.inj (hphase.symm.trans hget)
  have hcount : (shared.inflight.get t).toNat = total (PublishPhase.outstanding t) (s.locals.set i phase') := hcounts t
  have htotal := total_set (PublishPhase.outstanding t) hget phase'
  cases PublishPhase.step_move hstep with
  | counted t₁ heq hlimit₁ hslot hinflight =>
    cases heq
    rw [hinflight, InflightCounters.get_set, if_pos rfl, hmax] at hcount
    rw [outstanding_of_some hslot, if_pos rfl] at htotal
    have hzero : ((4294967295 : UInt32) + 1).toNat = 0 := rfl
    have hnone : (PublishPhase.acquiring t).outstanding t = 0 := rfl
    rw [hzero] at hcount
    omega
  | undone t₁ counted hslot => cases hslot
  | left t₁ counted hslot => cases hslot
  | unlimited t₁ heq hzero =>
    cases heq
    exact hlimit hzero
  | kept hne => exact hne t rfl

/-! ### Starting and stopping -/

section
variable {hashString : ByteText.Bytes → UInt64}

private theorem prepareStart_inflight (config : BridgeConfig) (s : BridgeState) :
    (prepareStart hashString config s).inflight = s.inflight := by
  simp only [prepareStart, adoptConfig, rebuildPolicyIndex, noteFirstConfig]
  repeat' split
  all_goals rfl

/-- The start gets as far as the tuning of the transports. -/
def Tunes (env : StartEnv) (config : BridgeConfig) (s : BridgeState) : Prop :=
  s.running = false ∧ refusedStart env config s = false

theorem start_of_not_tunes {env : StartEnv} {config : BridgeConfig} {s : BridgeState} (h : ¬ Tunes env config s) :
    (start hashString env config s).2.tuning = s.tuning ∧ (start hashString env config s).2.inflight = s.inflight := by
  by_cases hrunning : s.running = true
  · rw [start_of_running hashString env config hrunning]
    exact ⟨rfl, rfl⟩
  · have hrefused : refusedStart env config s = true := by
      rw [← Bool.not_eq_false]
      exact fun hpassed => h ⟨Bool.not_eq_true _ ▸ hrunning, hpassed⟩
    rw [start_of_refused hashString hrefused]
    exact ⟨prepareStart_tuning hashString config s, prepareStart_inflight config s⟩

theorem start_of_tunes {env : StartEnv} {config : BridgeConfig} {s : BridgeState} (h : Tunes env config s) :
    (start hashString env config s).2.tuning = transportTuning config ∧
      (start hashString env config s).2.inflight = {} := by
  obtain ⟨hstopped, hpassed⟩ := h
  have hgate : refusedByConfigCanary env.nowMs config = false := by
    simpa [refusedStart, hstopped] using hpassed
  unfold start
  rw [prepareStart_config, refusedByConfigCanary_effectiveConfig, if_neg (by simp [hstopped]),
    if_neg (by simp [hgate]), launch_frame]
  exact ⟨transportTuning_effectiveConfig config, rfl⟩

/-- A new tuning, with the counters at 0, keeps them paired exactly where it finds no publisher that has to do with a
limit. -/
private theorem Paired.retune_iff {s : FlowSystem} (h : Paired s) {shared : BridgeState} {tuning : TransportTuning}
    (htuning : shared.tuning = tuning) (hzero : shared.inflight = {}) :
    Paired { s with shared } ↔ s.Retunes tuning := by
  have hget : ∀ t, shared.inflight.get t = 0 := by
    intro t
    rw [hzero]
    cases t <;> rfl
  constructor
  · intro hpaired phase hphase t counted hslot
    have htotal : total (PublishPhase.outstanding t) s.locals = 0 := by
      have hcount := hpaired.counts t
      change (shared.inflight.get t).toNat = total (PublishPhase.outstanding t) s.locals at hcount
      rw [← hcount, hget]
      rfl
    have huncounted : ¬ counted = true := by
      rintro rfl
      obtain ⟨i, hi⟩ := List.getElem?_of_mem hphase
      have hsum := total_set (PublishPhase.outstanding t) hi .idle
      rw [outstanding_of_some hslot, if_pos rfl, outstanding_idle] at hsum
      omega
    have hold := (h.undoes phase hphase t counted hslot).not.1 huncounted
    have hnew := (hpaired.undoes phase hphase t counted hslot).not.1 huncounted
    exact ⟨not_not.1 hold, htuning ▸ not_not.1 hnew⟩
  · intro hretunes
    refine ⟨fun t => ?_, fun phase hphase t counted hslot => ?_⟩
    · have htotal : total (PublishPhase.outstanding t) s.locals = 0 := by
        refine total_outstanding_eq_zero fun phase hphase hslot => ?_
        exact (h.undoes phase hphase t true hslot).1 rfl (hretunes phase hphase t true hslot).1
      change (shared.inflight.get t).toNat = total (PublishPhase.outstanding t) s.locals
      rw [hget, htotal]
      rfl
    · obtain ⟨hold, hnew⟩ := hretunes phase hphase t counted hslot
      refine iff_of_false (fun hcounted => ?_) fun hlimit => hlimit (htuning.symm ▸ hnew)
      exact (h.undoes phase hphase t counted hslot).1 hcounted hold

private theorem Paired.of_same {s : FlowSystem} (h : Paired s) {shared : BridgeState}
    (htuning : shared.tuning = s.shared.tuning) (hinflight : shared.inflight = s.shared.inflight) :
    Paired { s with shared } := by
  refine ⟨fun t => ?_, fun phase hphase => ?_⟩
  · change (shared.inflight.get t).toNat = total (PublishPhase.outstanding t) s.locals
    rw [hinflight]
    exact h.counts t
  · change phase.Agrees shared.tuning
    rw [htuning]
    exact h.undoes phase hphase

private theorem Paired.start_iff {s : FlowSystem} (h : Paired s) (env : StartEnv) (config : BridgeConfig) :
    Paired { s with shared := (start hashString env config s.shared).2 } ↔
      (Tunes env config s.shared → s.Retunes (transportTuning config)) := by
  by_cases htunes : Tunes env config s.shared
  · have htuned : (start hashString env config s.shared).2.tuning = transportTuning config ∧
        (start hashString env config s.shared).2.inflight = {} := start_of_tunes htunes
    obtain ⟨htuning, hzero⟩ := htuned
    rw [h.retune_iff htuning hzero]
    exact ⟨fun hretunes _ => hretunes, fun hretunes => hretunes htunes⟩
  · have hkept : (start hashString env config s.shared).2.tuning = s.shared.tuning ∧
        (start hashString env config s.shared).2.inflight = s.shared.inflight := start_of_not_tunes htunes
    obtain ⟨htuning, hinflight⟩ := hkept
    exact iff_of_true (h.of_same htuning hinflight) fun h => absurd h htunes

/-! ### Runs -/

private theorem outstanding_le_total {l : List PublishPhase} {i : Nat} {phase : PublishPhase} (h : l[i]? = some phase)
    (t : TransportId) : phase.outstanding t ≤ total (PublishPhase.outstanding t) l := by
  have hsum := total_set (PublishPhase.outstanding t) h .idle
  rw [outstanding_idle] at hsum
  omega

theorem Paired.turn_iff {s s' : FlowSystem} (h : Paired s) {i : Nat} {e : PublishEvent}
    (hexec : s.turn PublishPhase.step i e = some s') : Paired s' ↔ s.InOrder (.turn i e) := by
  constructor
  · intro hpaired t hphase hlimit hmax
    exact not_paired_of_wrap hexec hphase hlimit hmax hpaired.counts
  · intro horder
    obtain ⟨phase, phase', shared, hget, hstep, rfl⟩ := System.turn_eq_some hexec
    have hmove := PublishPhase.step_move hstep
    have hagrees := h.undoes phase (List.mem_of_getElem? hget)
    have hcount : ∀ t, phase.outstanding t ≤ (s.shared.inflight.get t).toNat := by
      intro t
      rw [h.counts t]
      exact outstanding_le_total hget t
    have hroom : ∀ t, phase = .acquiring t → flowLimit s.shared.tuning t ≠ 0 →
        s.shared.inflight.get t ≠ 4294967295 := by
      rintro t rfl
      exact horder t hget
    refine ⟨fun t => ?_, fun other hother => ?_⟩
    · have hbalance := hmove.balance hagrees hcount hroom t
      have htotal := total_set (PublishPhase.outstanding t) hget phase'
      have hcounts := h.counts t
      change (shared.inflight.get t).toNat = total (PublishPhase.outstanding t) (s.locals.set i phase')
      omega
    · change other.Agrees shared.tuning
      rw [(PublishPhase.step_tuning hstep).1]
      exact forall_set i h.undoes (hmove.agrees hagrees) other hother

/-- **The step lemma**: a step keeps counters and publishers paired exactly where it is in order. -/
theorem Paired.exec_iff {s s' : FlowSystem} {op : FlowOp} (h : Paired s) (hexec : s.exec hashString op = some s') :
    Paired s' ↔ s.InOrder op := by
  cases op with
  | turn i e => exact h.turn_iff hexec
  | start env config =>
    cases hexec
    rw [h.start_iff]
    exact and_imp
  | startFromProvider env provider =>
    cases hexec
    cases provider with
    | none => exact iff_of_true (h.of_same rfl rfl) trivial
    | some p =>
      by_cases hload : p.load = .ok
      · have hnoted : Paired { s with shared := noteProvider hashString p s.shared } := h.of_same rfl rfl
        rw [startFromProvider_of_loaded hashString env _ hload]
        refine (hnoted.start_iff env p.config).trans ?_
        exact ⟨fun hretunes _ hstopped hpassed => hretunes ⟨hstopped, hpassed⟩,
          fun hretunes htunes => hretunes hload htunes.1 htunes.2⟩
      · rw [startFromProvider_of_not_loaded hashString env _ hload]
        exact iff_of_true h fun hok => absurd hok hload
  | stop =>
    cases hexec
    exact iff_of_true (h.of_same rfl rfl) trivial

theorem paired_init (s : BridgeState) (hzero : s.inflight = {}) (publishers : Nat) :
    Paired (FlowSystem.init s publishers) := by
  refine ⟨fun t => ?_, fun phase hphase t counted hslot => ?_⟩
  · have htotal : total (PublishPhase.outstanding t) (FlowSystem.init s publishers).locals = 0 :=
      total_replicate (PublishPhase.outstanding t) (outstanding_idle t) publishers
    rw [htotal]
    change (s.inflight.get t).toNat = 0
    rw [hzero]
    cases t <;> rfl
  · rw [List.eq_of_mem_replicate hphase] at hslot
    cases hslot

/-- The acquires and releases belong together: a counter is the number of increments outstanding, a release takes one
back exactly if its own acquire has added it, and then there is one, and a bridge without publishers has both counters
at 0. -/
structure SlotsPairUp (s : FlowSystem) : Prop where
  outstanding : ∀ t, (s.shared.inflight.get t).toNat = total (PublishPhase.outstanding t) s.locals
  own : ∀ t counted ec, .releasing t counted ec ∈ s.locals → (flowLimit s.shared.tuning t ≠ 0 ↔ counted = true)
  positive : ∀ t counted ec, .releasing t counted ec ∈ s.locals → flowLimit s.shared.tuning t ≠ 0 →
    s.shared.inflight.get t ≠ 0
  quiet : (∀ phase ∈ s.locals, phase = .idle) → ∀ t, s.shared.inflight.get t = 0

private theorem Paired.slotsPairUp {s : FlowSystem} (h : Paired s) : SlotsPairUp s := by
  have hown : ∀ t counted ec, .releasing t counted ec ∈ s.locals →
      (flowLimit s.shared.tuning t ≠ 0 ↔ counted = true) :=
    fun t counted ec hmem => (h.undoes _ hmem t counted rfl).symm
  refine ⟨h.counts, hown, ?_, ?_⟩
  · intro t counted ec hmem hlimit hzero
    obtain rfl : counted = true := (hown t counted ec hmem).1 hlimit
    obtain ⟨i, hi⟩ := List.getElem?_of_mem hmem
    have hle := outstanding_le_total hi t
    have hslot : (PublishPhase.releasing t true ec).slot = some (t, true) := rfl
    rw [outstanding_of_some hslot, if_pos rfl, ← h.counts t, hzero] at hle
    exact absurd hle (by decide)
  · intro hidle t
    have htotal : total (PublishPhase.outstanding t) s.locals = 0 := by
      refine total_outstanding_eq_zero fun phase hphase => ?_
      rw [hidle phase hphase]
      nofun
    exact UInt32.toNat_inj.1 ((h.counts t).trans htotal)

variable (hashString) in
/-- A step that is in order. -/
def OrderedFlowStep (s : FlowSystem) (op : FlowOp) (s' : FlowSystem) : Prop :=
  s.InOrder op ∧ s.exec hashString op = some s'

private theorem paired_of_run {s s' : FlowSystem} {ops : List FlowOp} (h : Paired s)
    (hrun : Run (OrderedFlowStep hashString) s ops s') : Paired s' :=
  hrun.invariant (fun _ _ _ hpaired hstep => (hpaired.exec_iff hstep.2).2 hstep.1) h

/-- **Flow slots pair up** in every run of publishers, stops and starts whose steps are in order, and after it a step
keeps them so exactly if it is in order too. -/
theorem flow_slots_pair_up {publishers : Nat} {ops : List FlowOp} {s : FlowSystem}
    (hrun : Run (OrderedFlowStep hashString) (FlowSystem.init {} publishers) ops s) :
    SlotsPairUp s ∧ ∀ op s', s.exec hashString op = some s' → (Paired s' ↔ s.InOrder op) := by
  have hpaired := paired_of_run (paired_init {} rfl publishers) hrun
  exact ⟨hpaired.slotsPairUp, fun op s' => hpaired.exec_iff⟩

end

/-- A publisher that takes a slot on a bridge just started. -/
def slotTaken : List FlowOp :=
  [.start {} plainConfig, .turn 0 {}, .turn 0 {}]

theorem flow_slots_pair_up_slotTaken : ∃ s, Run (OrderedFlowStep fun _ => 0) (FlowSystem.init {} 1) slotTaken s ∧
    s.shared.inflight.vehicle = 1 ∧ SlotsPairUp s := by
  have hrun : ∃ s, Run (OrderedFlowStep fun _ => 0) (FlowSystem.init {} 1) slotTaken s ∧
      s.shared.inflight.vehicle = 1 := by
    refine ⟨_, .cons ⟨fun _ _ => ?_, rfl⟩
      (.cons ⟨fun _ hphase => ?_, rfl⟩ (.cons ⟨fun t _ _ => ?_, rfl⟩ (.refl _))), ?_⟩
    · intro phase hphase t counted hslot
      rw [List.eq_of_mem_replicate hphase] at hslot
      cases hslot
    · cases hphase
    · cases t <;> decide
    · decide
  obtain ⟨s, hrun, hcount⟩ := hrun
  exact ⟨s, hrun, hcount, (flow_slots_pair_up hrun).1⟩

/-- A publisher that is still sending while the bridge is stopped and started again. -/
def slowSend : List FlowOp :=
  [.start {} plainConfig, .turn 0 {}, .turn 0 {}, .turn 0 {}, .stop, .start {} plainConfig]

/-- Its release then takes one off a counter that is 0. -/
theorem flow_slots_not_pair_up : ¬ ∀ (hashString : ByteText.Bytes → UInt64) (publishers : Nat) (ops : List FlowOp)
    (s : FlowSystem), ops.foldlM (FlowSystem.exec hashString) (FlowSystem.init {} publishers) = some s →
      SlotsPairUp s := by
  intro hall
  have hpair := hall (fun _ => 0) 1 slowSend _ rfl
  exact hpair.positive .vehicleToRobot true .ok List.mem_cons_self (by decide) (by decide)

end VehicleBridge
