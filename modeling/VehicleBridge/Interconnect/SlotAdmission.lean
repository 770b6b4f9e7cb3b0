import VehicleBridge.Interconnect.FlowSlots

/-!
# Admission to a transport

Within a session, that is until the next start, the limit of a transport stays as it is.  `AcquireFlowSlot` raises the
counter first and tests afterwards, so the counter may exceed the limit for a while.  What bounds the publishers that
are admitted is that the counter is never less than their number: it is their number and that of the publishers that
are refused and have not yet taken their increment back (`Admitting.counts`).
-/

namespace VehicleBridge

open FixedWidth Threads Transition

/-! ### Holders and refused publishers -/

/-- Between an `AcquireFlowSlot` that succeeded and its `ReleaseFlowSlot`. -/
def PublishPhase.holds (t : TransportId) : PublishPhase → Nat
  | .sending t' _ => if t' = t then 1 else 0
  | .releasing t' _ _ => if t' = t then 1 else 0
  | _ => 0

/-- In an `AcquireFlowSlot` that is refused, before its `fetch_sub`. -/
def PublishPhase.backsOut (t : TransportId) : PublishPhase → Nat
  | .backingOut t' => if t' = t then 1 else 0
  | _ => 0

/-- The next step is a `fetch_sub` on the counter of the transport, as long as it has a limit. -/
def PublishPhase.Decrements (t : TransportId) : PublishPhase → Prop
  | .backingOut t' => t' = t
  | .releasing t' _ _ => t' = t
  | _ => False

def FlowSystem.holders (s : FlowSystem) (t : TransportId) : Nat :=
  total (PublishPhase.holds t) s.locals

def FlowSystem.refused (s : FlowSystem) (t : TransportId) : Nat :=
  total (PublishPhase.backsOut t) s.locals

/-- Holding a slot of the transport, or refused. -/
def PublishPhase.inside (t : TransportId) (phase : PublishPhase) : Nat :=
  phase.holds t + phase.backsOut t

private theorem inside_eq (t : TransportId) (phase : PublishPhase) :
    phase.inside t = if phase.slot.map (·.1) = some t then 1 else 0 := by
  cases phase <;> simp [PublishPhase.inside, PublishPhase.holds, PublishPhase.backsOut, PublishPhase.slot]

private theorem inside_of_some {phase : PublishPhase} {t : TransportId} {counted : Bool}
    (h : phase.slot = some (t, counted)) (t' : TransportId) : phase.inside t' = if t' = t then 1 else 0 := by
  rw [inside_eq, h, Option.map_some]
  simp only [Option.some.injEq, eq_comm]

private theorem inside_of_none {phase : PublishPhase} (h : phase.slot = none) (t : TransportId) :
    phase.inside t = 0 := by
  rw [inside_eq, h]
  rfl

private theorem inside_le_one (t : TransportId) (phase : PublishPhase) : phase.inside t ≤ 1 := by
  rw [inside_eq]
  split <;> decide

private theorem inside_of_decrements {t : TransportId} {phase : PublishPhase} (h : phase.Decrements t) :
    phase.inside t = 1 := by
  cases phase with
  | backingOut t' => rw [inside_eq, show t' = t from h]; exact if_pos rfl
  | releasing t' => rw [inside_eq, show t' = t from h]; exact if_pos rfl
  | idle | acquiring | sending | resolving | failingOver => exact h.elim

private theorem total_inside (s : FlowSystem) (t : TransportId) :
    total (PublishPhase.inside t) s.locals = s.holders t + s.refused t :=
  total_add (PublishPhase.holds t) (PublishPhase.backsOut t) s.locals

/-! ### A step of a publisher -/

/-- **The step of a counter** with a limit: it moves as the publishers do that hold a slot or are refused. -/
theorem CounterMove.inside_balance {phase phase' : PublishPhase} {s s' : BridgeState} {t : TransportId}
    (hmove : CounterMove phase phase' s s') (hlimit : flowLimit s.tuning t ≠ 0)
    (hcount : phase.inside t ≤ (s.inflight.get t).toNat)
    (hroom : phase = .acquiring t → s.inflight.get t ≠ 4294967295) :
    (s'.inflight.get t).toNat + phase.inside t = (s.inflight.get t).toNat + phase'.inside t := by
  cases hmove with
  | counted t' hphase _ hslot hinflight =>
    have hnone : phase.inside t = 0 := inside_of_none (by rw [hphase]; rfl) t
    rw [hinflight, InflightCounters.get_set, inside_of_some hslot, hnone]
    by_cases heq : t = t'
    · subst heq
      rw [if_pos rfl, if_pos rfl, toNat_add_one_of_ne (hroom hphase)]
    · rw [if_neg heq, if_neg heq]
  | undone t' counted hslot _ hslot' hinflight =>
    rw [inside_of_some hslot] at hcount
    rw [hinflight, InflightCounters.get_set, inside_of_some hslot, inside_of_none hslot']
    by_cases heq : t = t'
    · subst heq
      rw [if_pos rfl] at hcount
      rw [if_pos rfl, if_pos rfl, toNat_sub_one_of_pos hcount]
      omega
    · rw [if_neg heq, if_neg heq]
  | left t' counted hslot hzero hslot' hinflight =>
    have hne : t ≠ t' := fun heq => hlimit (heq ▸ hzero)
    rw [hinflight, inside_of_some hslot, if_neg hne, inside_of_none hslot']
  | unlimited t' hphase hzero hslot' hinflight =>
    have hne : t ≠ t' := fun heq => hlimit (heq ▸ hzero)
    have hnone : phase.inside t = 0 := inside_of_none (by rw [hphase]; rfl) t
    rw [hinflight, inside_of_some hslot', if_neg hne, hnone]
  | kept _ hslot hinflight => rw [hinflight, inside_eq, inside_eq, hslot]

/-- A slot is granted only where the counter, with the publisher in it, is within the limit. -/
private theorem PublishPhase.step_holds {phase phase' : PublishPhase} {e : PublishEvent} {s s' : BridgeState}
    {t : TransportId} (hlimit : flowLimit s.tuning t ≠ 0) (h : phase.step e s = some (phase', s')) :
    phase'.holds t ≤ phase.holds t ∨
      (phase = .acquiring t ∧ s.inflight.get t + 1 ≤ flowLimit s.tuning t ∧ phase'.holds t = 1) := by
  unfold PublishPhase.step at h
  cases phase with
  | idle =>
    simp only at h
    split at h
    · cases h
      exact .inl (Nat.le_refl _)
    · cases h
  | acquiring t' =>
    by_cases heq : t' = t
    · subst heq
      simp only [hlimit, if_false, Option.some.injEq, Prod.mk.injEq] at h
      obtain ⟨rfl, -⟩ := h
      split
      · exact .inl (Nat.le_refl _)
      · next hroom => exact .inr ⟨rfl, UInt32.not_lt.1 hroom, if_pos rfl⟩
    · left
      have hsending : ∀ counted, (PublishPhase.sending t' counted).holds t = 0 := fun _ => if_neg heq
      simp only at h
      split at h
      · cases h
        exact (hsending false).le
      · simp only [Option.some.injEq, Prod.mk.injEq] at h
        obtain ⟨rfl, -⟩ := h
        split
        · exact Nat.zero_le _
        · exact (hsending true).le
  | backingOut t' =>
    cases h
    exact .inl (Nat.le_refl _)
  | sending t' counted =>
    cases h
    exact .inl (Nat.le_refl _)
  | releasing t' counted ec =>
    simp only [Option.some.injEq, Prod.mk.injEq] at h
    obtain ⟨rfl, -⟩ := h
    left
    split <;> exact Nat.zero_le _
  | resolving t' =>
    simp only [Option.some.injEq, Prod.mk.injEq] at h
    obtain ⟨rfl, -⟩ := h
    left
    cases failoverTransport t' { s with orchestrator := s.orchestrator.onPrimarySendFailure } <;> exact Nat.zero_le _
  | failingOver t' =>
    cases h
    exact .inl (Nat.le_refl _)

/-! ### Sessions -/

/-- A step within a session: of a publisher, or the stop that lets no further publisher in. -/
inductive SessionStep : FlowSystem → FlowOp → FlowSystem → Prop
  | turn {s s' : FlowSystem} {i : Nat} {e : PublishEvent} :
      s.turn PublishPhase.step i e = some s' → SessionStep s (.turn i e) s'
  | stop (s : FlowSystem) : SessionStep s .stop { s with shared := stop s.shared }

/-- The counter of a transport with this limit is the number of the publishers that hold a slot or are refused, and no
more hold one than the limit says. -/
structure Admitting (limit : UInt32) (t : TransportId) (s : FlowSystem) : Prop where
  limited : flowLimit s.shared.tuning t = limit
  few : s.locals.length < 2 ^ 32
  counts : (s.shared.inflight.get t).toNat = s.holders t + s.refused t
  bounded : s.holders t ≤ limit.toNat

private theorem Admitting.inside_le {limit : UInt32} {t : TransportId} {s : FlowSystem} (h : Admitting limit t s)
    {i : Nat} {phase : PublishPhase} (hget : s.locals[i]? = some phase) :
    phase.inside t ≤ (s.shared.inflight.get t).toNat := by
  have hsum := total_set (PublishPhase.inside t) hget .idle
  have hidle : PublishPhase.idle.inside t = 0 := rfl
  rw [total_inside, hidle] at hsum
  rw [h.counts]
  omega

/-- A publisher that is about to acquire is not counted yet, so there is room in the counter. -/
private theorem Admitting.ne_max {limit : UInt32} {t : TransportId} {s : FlowSystem} (h : Admitting limit t s) {i : Nat}
    (hget : s.locals[i]? = some (.acquiring t)) : s.shared.inflight.get t ≠ 4294967295 := by
  intro hmax
  have hlt := total_lt_length (inside_le_one t) hget rfl
  have hcount := h.counts
  have hfew := h.few
  have hmaxNat : (4294967295 : UInt32).toNat = 4294967295 := rfl
  rw [total_inside, ← hcount, hmax, hmaxNat] at hlt
  omega

theorem Admitting.turn {limit : UInt32} {t : TransportId} {s s' : FlowSystem} {i : Nat} {e : PublishEvent}
    (hpos : limit ≠ 0) (h : Admitting limit t s) (hexec : s.turn PublishPhase.step i e = some s') :
    Admitting limit t s' := by
  obtain ⟨phase, phase', shared, hget, hstep, rfl⟩ := System.turn_eq_some hexec
  have hlimit : flowLimit s.shared.tuning t ≠ 0 := h.limited ▸ hpos
  have hroom : phase = .acquiring t → s.shared.inflight.get t ≠ 4294967295 := by
    rintro rfl
    exact h.ne_max hget
  have hbalance := (PublishPhase.step_move hstep).inside_balance hlimit (h.inside_le hget) hroom
  have hinside := total_set (PublishPhase.inside t) hget phase'
  have hholds := total_set (PublishPhase.holds t) hget phase'
  have hcounts := h.counts
  rw [← total_inside] at hcounts
  refine ⟨?_, ?_, ?_, ?_⟩
  · change flowLimit shared.tuning t = limit
    rw [(PublishPhase.step_tuning hstep).1]
    exact h.limited
  · change (s.locals.set i phase').length < 2 ^ 32
    rw [List.length_set]
    exact h.few
  · rw [← total_inside]
    change (shared.inflight.get t).toNat = total (PublishPhase.inside t) (s.locals.set i phase')
    omega
  · change total (PublishPhase.holds t) (s.locals.set i phase') ≤ limit.toNat
    have hbounded : total (PublishPhase.holds t) s.locals ≤ limit.toNat := h.bounded
    rcases PublishPhase.step_holds hlimit hstep with hle | ⟨hphase, hgranted, hone⟩
    · omega
    · -- the counter is at least the number of the holders, and with the new one within the limit
      have hgranted := UInt32.le_iff_toNat_le.1 hgranted
      rw [toNat_add_one_of_ne (hroom hphase), h.limited, h.counts] at hgranted
      have hnone : phase.holds t = 0 := by rw [hphase]; rfl
      have hholders : total (PublishPhase.holds t) s.locals = s.holders t := rfl
      omega

/-- **The step lemma**: a session keeps counting. -/
theorem Admitting.step {limit : UInt32} {t : TransportId} {s s' : FlowSystem} {op : FlowOp} (hpos : limit ≠ 0)
    (h : Admitting limit t s) (hstep : SessionStep s op s') : Admitting limit t s' := by
  cases hstep with
  | turn hexec => exact h.turn hpos hexec
  | stop => exact ⟨h.limited, h.few, h.counts, h.bounded⟩

private theorem admitting_init {b : BridgeState} {t : TransportId} (hzero : b.inflight.get t = 0) {publishers : Nat}
    (hfew : publishers < 2 ^ 32) : Admitting (flowLimit b.tuning t) t (FlowSystem.init b publishers) := by
  have hholders : (FlowSystem.init b publishers).holders t = 0 :=
    total_replicate (PublishPhase.holds t) rfl publishers
  have hrefused : (FlowSystem.init b publishers).refused t = 0 :=
    total_replicate (PublishPhase.backsOut t) rfl publishers
  refine ⟨rfl, ?_, ?_, ?_⟩
  · rw [FlowSystem.init, List.length_replicate]
    exact hfew
  · rw [hholders, hrefused]
    change (b.inflight.get t).toNat = 0
    rw [hzero]
    rfl
  · rw [hholders]
    exact Nat.zero_le _

/-! ### What admission guarantees -/

/-- No more publishers hold a slot than the limit says; the counter is their number and that of the refused ones; no
`fetch_sub` finds it at 0 and no `fetch_add` at its maximum; and without publishers inside it is 0. -/
structure AdmitsSafely (limit : UInt32) (t : TransportId) (s : FlowSystem) : Prop where
  bounded : s.holders t ≤ limit.toNat
  counts : (s.shared.inflight.get t).toNat = s.holders t + s.refused t
  noUnderflow : ∀ phase ∈ s.locals, phase.Decrements t → s.shared.inflight.get t ≠ 0
  noOverflow : .acquiring t ∈ s.locals → s.shared.inflight.get t ≠ 4294967295
  quiet : (∀ phase ∈ s.locals, phase.holds t = 0 ∧ phase.backsOut t = 0) → s.shared.inflight.get t = 0

private theorem Admitting.admitsSafely {limit : UInt32} {t : TransportId} {s : FlowSystem} (h : Admitting limit t s) :
    AdmitsSafely limit t s where
  bounded := h.bounded
  counts := h.counts
  noUnderflow phase hphase hdecrements hzero := by
    obtain ⟨i, hi⟩ := List.getElem?_of_mem hphase
    have hle := h.inside_le hi
    rw [inside_of_decrements hdecrements, hzero] at hle
    exact absurd hle (by decide)
  noOverflow hmem := by
    obtain ⟨i, hi⟩ := List.getElem?_of_mem hmem
    exact h.ne_max hi
  quiet hnone := by
    have hholders : s.holders t = 0 := total_eq_zero fun phase hphase => (hnone phase hphase).1
    have hrefused : s.refused t = 0 := total_eq_zero fun phase hphase => (hnone phase hphase).2
    have hcounts := h.counts
    rw [hholders, hrefused] at hcounts
    exact UInt32.toNat_inj.1 hcounts

/-- **Slot admission is safe within a session**, whatever the order in which the publishers take their steps. -/
theorem slot_admission_safe {b : BridgeState} {t : TransportId} {publishers : Nat} {ops : List FlowOp} {s : FlowSystem}
    (hlimit : flowLimit b.tuning t ≠ 0) (hzero : b.inflight.get t = 0) (hfew : publishers < 2 ^ 32)
    (hrun : Run SessionStep (FlowSystem.init b publishers) ops s) : AdmitsSafely (flowLimit b.tuning t) t s := by
  have hadmitting := hrun.invariant (fun _ _ _ h hstep => h.step hlimit hstep) (admitting_init hzero hfew)
  exact hadmitting.admitsSafely

/-- A running bridge that admits one publisher at a time. -/
def narrowBridge : BridgeState :=
  { running := true, tuning := { flowLimitVehicle := 1 } }

/-- The second publisher comes while the first one holds the slot; the counter exceeds the limit. -/
theorem slot_admission_safe_narrow : ∃ s,
    Run SessionStep (FlowSystem.init narrowBridge 2) [.turn 0 {}, .turn 0 {}, .turn 1 {}, .turn 1 {}] s ∧
      s.shared.inflight.vehicle = 2 ∧ s.holders .vehicleToRobot = 1 ∧ AdmitsSafely 1 .vehicleToRobot s := by
  have hrun : ∃ s, Run SessionStep (FlowSystem.init narrowBridge 2) [.turn 0 {}, .turn 0 {}, .turn 1 {}, .turn 1 {}] s ∧
      s.shared.inflight.vehicle = 2 ∧ s.holders .vehicleToRobot = 1 :=
    ⟨_, .cons (.turn rfl) (.cons (.turn rfl) (.cons (.turn rfl) (.cons (.turn rfl) (.refl _)))), rfl, rfl⟩
  obtain ⟨s, hrun, hcount, hholders⟩ := hrun
  have hlimit : flowLimit narrowBridge.tuning .vehicleToRobot ≠ 0 := by decide
  exact ⟨s, hrun, hcount, hholders, slot_admission_safe hlimit rfl (by decide) hrun⟩

end VehicleBridge
