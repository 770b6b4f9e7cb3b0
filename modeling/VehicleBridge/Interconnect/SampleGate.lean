import VehicleBridge.Interconnect.BridgeState
import VehicleBridge.Lib.Threads
import VehicleBridge.Lib.Transition

/-!
# Sampling gates shared by threads

The inbound loops and the publishers ask the same timestamps, with `NextLogAllowedMs`, whether they may log or sample.
A call loads the timestamp, compares it with its reading of the clock and then tries to exchange it for the next
deadline.  It is granted whether or not the exchange succeeds, and the deadline is a sum that may wrap around.  Where
every exchange finds the value that was loaded, and no deadline wraps around, the calls that are granted are an interval
apart (`gate_rate_limited`).
-/

namespace VehicleBridge

open Threads Transition

/-- Where a caller of `NextLogAllowedMs` is: outside, before its load, or before its exchange. -/
inductive GatePhase
  | idle
  | called (nowMs : UInt64)
  | loaded (nowMs nextAllowed : UInt64)
  deriving DecidableEq, Repr

/-- The timestamp, the latest reading of the clock, and the calls that have returned: the reading each was made with,
and its result. -/
structure Gate where
  timestamp : UInt64 := 0
  clockMs : UInt64 := 0
  returned : List (UInt64 × UInt64) := []
  deriving DecidableEq, Repr

/-- A step of a caller; when it makes a call, `clockMs` is its reading of the clock, which does not go back. -/
def GatePhase.step (intervalMs : UInt64) (phase : GatePhase) (clockMs : UInt64) (g : Gate) :
    Option (GatePhase × Gate) :=
  match phase with
  | .idle => if g.clockMs ≤ clockMs then some (.called clockMs, { g with clockMs }) else none
  | .called nowMs =>
    if nowMs < g.timestamp then some (.idle, { g with returned := g.returned ++ [(nowMs, g.timestamp)] })
    else some (.loaded nowMs g.timestamp, g)
  | .loaded nowMs nextAllowed =>
    -- the result of the exchange is not looked at
    some (.idle,
      { g with
        timestamp := if g.timestamp = nextAllowed then nowMs + intervalMs else g.timestamp
        returned := g.returned ++ [(nowMs, nowMs)] })

/-- A gate and its callers. -/
abbrev GateSystem := System Gate GatePhase

def GateSystem.init (timestamp : UInt64) (callers : Nat) : GateSystem :=
  { shared := { timestamp }, locals := List.replicate callers .idle }

/-- The caller takes a step; the reading is the clock's at that moment. -/
structure GateOp where
  caller : Nat
  clockMs : UInt64 := 0

def GateSystem.exec (intervalMs : UInt64) (s : GateSystem) (op : GateOp) : Option GateSystem :=
  s.turn (GatePhase.step intervalMs) op.caller op.clockMs

/-- The readings of the calls that were granted, which are those that returned their own. -/
def Gate.granted (g : Gate) : List UInt64 :=
  (g.returned.filter fun call => call.2 = call.1).map Prod.fst

/-- The two readings are at least the interval apart. -/
def Apart (intervalMs a b : UInt64) : Prop :=
  a.toNat + intervalMs.toNat ≤ b.toNat ∨ b.toNat + intervalMs.toNat ≤ a.toNat

instance (intervalMs a b : UInt64) : Decidable (Apart intervalMs a b) :=
  inferInstanceAs (Decidable (_ ∨ _))

/-- Any two calls that were granted have readings at least the interval apart. -/
def RateLimited (intervalMs : UInt64) (s : GateSystem) : Prop :=
  s.shared.granted.Pairwise (Apart intervalMs)

instance (intervalMs : UInt64) (s : GateSystem) : Decidable (RateLimited intervalMs s) :=
  inferInstanceAs (Decidable (List.Pairwise _ _))

/-- A caller at its exchange finds the value that it has loaded, and its deadline does not wrap around; without an
interval neither matters. -/
def GatePhase.Records (intervalMs : UInt64) (g : Gate) : GatePhase → Prop
  | .loaded nowMs nextAllowed =>
    intervalMs = 0 ∨ (g.timestamp = nextAllowed ∧ nowMs.toNat + intervalMs.toNat < 2 ^ 64)
  | _ => True

instance (intervalMs : UInt64) (g : Gate) (phase : GatePhase) : Decidable (phase.Records intervalMs g) := by
  unfold GatePhase.Records
  split <;> infer_instance

def GateOp.Records (intervalMs : UInt64) (s : GateSystem) (op : GateOp) : Prop :=
  ∀ phase ∈ s.locals[op.caller]?, phase.Records intervalMs s.shared

instance (intervalMs : UInt64) (s : GateSystem) (op : GateOp) : Decidable (op.Records intervalMs s) :=
  inferInstanceAs (Decidable (∀ phase ∈ s.locals[op.caller]?, phase.Records intervalMs s.shared))

/-! ### A call alone -/

/-- With nothing in between, the steps of a call are `nextLogAllowedMs`. -/
theorem step_undisturbed (intervalMs nowMs clockMs clockMs' : UInt64) (g : Gate) :
    ∃ phase g', (GatePhase.called nowMs).step intervalMs clockMs g = some (phase, g') ∧
      (if phase = .idle then some (phase, g') else phase.step intervalMs clockMs' g') =
        some (.idle,
          { g with
            timestamp := (nextLogAllowedMs g.timestamp nowMs intervalMs).2
            returned := g.returned ++ [(nowMs, (nextLogAllowedMs g.timestamp nowMs intervalMs).1)] }) := by
  unfold nextLogAllowedMs
  by_cases hearly : nowMs < g.timestamp
  · refine ⟨.idle, { g with returned := g.returned ++ [(nowMs, g.timestamp)] }, if_pos hearly, ?_⟩
    rw [if_pos rfl, if_pos hearly]
  · refine ⟨.loaded nowMs g.timestamp, g, if_neg hearly, ?_⟩
    rw [if_neg nofun, if_neg hearly, GatePhase.step, if_pos rfl]

/-! ### One step -/

private theorem Gate.granted_append (g : Gate) (timestamp nowMs result : UInt64) :
    Gate.granted { g with timestamp, returned := g.returned ++ [(nowMs, result)] } =
      g.granted ++ if result = nowMs then [nowMs] else [] := by
  rw [Gate.granted, List.filter_append, List.map_append, Gate.granted]
  congr 1
  by_cases h : result = nowMs <;> simp [h]

private theorem rateLimited_zero (s : GateSystem) : RateLimited 0 s :=
  List.pairwise_of_forall fun a b => Nat.le_total a.toNat b.toNat

/-- What a run in which every exchange records its deadline keeps. -/
structure Limited (intervalMs : UInt64) (s : GateSystem) : Prop where
  recorded : ∀ nowMs ∈ s.shared.granted, nowMs.toNat + intervalMs.toNat ≤ s.shared.timestamp.toNat
  tested : ∀ nowMs nextAllowed, .loaded nowMs nextAllowed ∈ s.locals → nextAllowed ≤ nowMs
  spaced : RateLimited intervalMs s

/-- The other callers are where they were, and this one is where its step took it. -/
private theorem tested_set {locals : List GatePhase} {phase : GatePhase} (i : Nat)
    (h : ∀ nowMs nextAllowed, .loaded nowMs nextAllowed ∈ locals → nextAllowed ≤ nowMs)
    (hphase : ∀ nowMs nextAllowed, phase = .loaded nowMs nextAllowed → nextAllowed ≤ nowMs) (nowMs nextAllowed : UInt64)
    (hmem : .loaded nowMs nextAllowed ∈ locals.set i phase) : nextAllowed ≤ nowMs := by
  rcases List.mem_or_eq_of_mem_set hmem with hold | hnew
  · exact h nowMs nextAllowed hold
  · exact hphase nowMs nextAllowed hnew.symm

/-- **The step lemma.** -/
theorem Limited.step {intervalMs : UInt64} {s s' : GateSystem} {op : GateOp} (hpos : intervalMs ≠ 0)
    (h : Limited intervalMs s) (hrecords : op.Records intervalMs s) (hexec : s.exec intervalMs op = some s') :
    Limited intervalMs s' := by
  obtain ⟨phase, phase', g, hget, hstep, rfl⟩ := System.turn_eq_some hexec
  have hmem := List.mem_of_getElem? hget
  cases phase with
  | idle =>
    rw [GatePhase.step] at hstep
    split at hstep
    · cases hstep
      exact ⟨h.recorded, tested_set _ h.tested nofun, h.spaced⟩
    · cases hstep
  | called nowMs =>
    rw [GatePhase.step] at hstep
    split at hstep
    · next hearly =>
      cases hstep
      have hne : s.shared.timestamp ≠ nowMs := fun heq => UInt64.lt_irrefl _ (heq ▸ hearly)
      have hgranted := s.shared.granted_append s.shared.timestamp nowMs s.shared.timestamp
      rw [if_neg hne, List.append_nil] at hgranted
      refine ⟨?_, tested_set _ h.tested nofun, ?_⟩
      · simp only [hgranted]
        exact h.recorded
      · simp only [RateLimited, hgranted]
        exact h.spaced
    · next hdue =>
      cases hstep
      refine ⟨h.recorded, tested_set _ h.tested fun _ _ heq => ?_, h.spaced⟩
      cases heq
      exact UInt64.not_lt.1 hdue
  | loaded nowMs nextAllowed =>
    obtain ⟨hfound, hfits⟩ := (hrecords _ hget).resolve_left hpos
    rw [GatePhase.step, if_pos hfound] at hstep
    cases hstep
    have hdue : s.shared.timestamp.toNat ≤ nowMs.toNat :=
      UInt64.le_iff_toNat_le.1 (hfound ▸ h.tested nowMs nextAllowed hmem)
    have hdeadline : (nowMs + intervalMs).toNat = nowMs.toNat + intervalMs.toNat := by
      rw [UInt64.toNat_add, Nat.mod_eq_of_lt hfits]
    have hgranted := s.shared.granted_append (nowMs + intervalMs) nowMs nowMs
    rw [if_pos rfl] at hgranted
    refine ⟨?_, tested_set _ h.tested nofun, ?_⟩
    · simp only [hgranted, List.mem_append, List.mem_singleton, hdeadline]
      rintro nowMs' (hold | rfl)
      · have hle := h.recorded nowMs' hold
        omega
      · exact Nat.le_refl _
    · simp only [RateLimited, hgranted]
      -- the deadline of every call granted before is at most the timestamp, and so the reading
      refine List.pairwise_append.2 ⟨h.spaced, List.pairwise_singleton _ _, fun nowMs' hold _ hnew => .inl ?_⟩
      rw [List.mem_singleton.1 hnew]
      exact Nat.le_trans (h.recorded nowMs' hold) hdue

/-! ### Runs -/

private theorem limited_init (intervalMs timestamp : UInt64) (callers : Nat) :
    Limited intervalMs (GateSystem.init timestamp callers) where
  recorded _ h := absurd h List.not_mem_nil
  tested _ _ h := nomatch List.eq_of_mem_replicate h
  spaced := List.Pairwise.nil

/-- **The gates limit the rate** in every run in which each exchange finds the value that was loaded and sets a deadline
that does not wrap around, whatever the order in which the callers take their steps. -/
theorem gate_rate_limited {intervalMs timestamp : UInt64} {callers : Nat} {ops : List GateOp} {s : GateSystem}
    (hrun : Run (fun s op s' => op.Records intervalMs s ∧ GateSystem.exec intervalMs s op = some s')
      (.init timestamp callers) ops s) : RateLimited intervalMs s := by
  by_cases hzero : intervalMs = 0
  · rw [hzero]
    exact rateLimited_zero s
  · refine Limited.spaced (hrun.invariant (fun _ _ _ h hstep => ?_) (limited_init intervalMs timestamp callers))
    exact h.step hzero hstep.1 hstep.2

/-- Two callers with their steps mixed: the first is granted at 5, and the second is too early at 90 and granted at
105. -/
def mixedCalls : List GateOp :=
  [⟨0, 5⟩, ⟨0, 5⟩, ⟨0, 5⟩, ⟨1, 90⟩, ⟨0, 105⟩, ⟨1, 105⟩, ⟨1, 105⟩, ⟨1, 105⟩, ⟨1, 105⟩]

theorem gate_rate_limited_mixedCalls : ∃ s,
    mixedCalls.foldlM (GateSystem.exec 100) (.init 0 2) = some s ∧ s.shared.granted = [5, 105] ∧ RateLimited 100 s := by
  have hrun : Run (fun s op s' => GateOp.Records 100 s op ∧ GateSystem.exec 100 s op = some s') (.init 0 2)
      mixedCalls _ := Run.of_foldlM_guarded rfl
  exact ⟨_, rfl, rfl, gate_rate_limited hrun⟩

/-- Both callers load the timestamp before either exchanges it, as the two inbound loops may: both are granted. -/
theorem gate_not_rate_limited :
    ¬ ∀ (intervalMs timestamp : UInt64) (callers : Nat) (ops : List GateOp) (s : GateSystem),
      Run (fun s op s' => GateSystem.exec intervalMs s op = some s') (.init timestamp callers) ops s →
        RateLimited intervalMs s := by
  intro hclaim
  have hlimited := hclaim 2000 0 2 [⟨0, 5⟩, ⟨1, 5⟩, ⟨0, 5⟩, ⟨1, 5⟩, ⟨0, 5⟩, ⟨1, 5⟩] _ (Run.of_foldlM rfl)
  revert hlimited
  decide

/-- A deadline that wraps around has passed at once. -/
example : (List.foldlM (GateSystem.exec 18446744073709551615) (.init 0 1) (List.replicate 6 ⟨0, 5⟩)).map
    (·.shared.granted) = some [5, 5] := by decide

end VehicleBridge
