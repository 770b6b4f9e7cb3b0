import VehicleBridge.Interconnect.Setup

/-!
# The bookkeeping of configurations

A bridge keeps the version and the source of the configuration it runs, and a last known good configuration with
version and source of its own.  `Start(IConfigProvider*)` writes these before it is known whether the bridge runs
already, and `Start(const BridgeConfig&)` takes them as it finds them.  `bookkeeping_kept` says which runs are safe:
no provider configuration is loaded by a `Start` on a running bridge, and no direct start follows a provider's version.
-/

namespace VehicleBridge

open ByteText Transition

/-- A configuration that a call put into force, with the version and the source it came with. -/
structure Activation where
  config : BridgeConfig
  version : UInt64
  source : Bytes

/-- A configuration handed over directly. -/
def directActivation (config : BridgeConfig) : Activation :=
  { config, version := 0, source := text "direct" }

def ProviderReplies.activation (p : ProviderReplies) : Activation :=
  { config := p.config, version := p.version, source := p.source }

/-- A bridge runs the configuration, and says so. -/
structure Activation.InForce (a : Activation) (s : BridgeSetup) : Prop where
  config : s.config = effectiveConfig a.config
  version : s.loaded.version = a.version
  source : s.loaded.source = a.source

/-- A last known good configuration comes to the same as the configuration, and is recorded as it. -/
structure Activation.KnownGood (a : Activation) (good : LastKnownGood) : Prop where
  config : effectiveConfig good.config = effectiveConfig a.config
  version : good.version = a.version
  source : good.source = a.source

section
variable (hashString : Bytes → UInt64)

/-- The configuration that a call applies, returning `kOk`.  A start leaves a running bridge alone, and a reload of
the version in force applies nothing. -/
def BridgeOp.activation (s : BridgeState) : BridgeOp → Option Activation
  | .start env config =>
    if s.running = false ∧ (VehicleBridge.start hashString env config s).1 = .ok then some (directActivation config)
    else none
  | .startFromProvider env (some p) =>
    if s.running = false ∧ (VehicleBridge.startFromProvider hashString env (some p) s).1 = .ok then
      some p.activation
    else none
  | .reload nowMs (some p) =>
    if p.version ≠ s.loaded.version ∧ (reloadConfigIfChanged hashString nowMs (some p) s).1 = .ok then
      some p.activation
    else none
  | _ => none

/-- A run of a bridge and what has been put into force in it, oldest first. -/
structure ConfigHistory (σ : Type*) where
  run : BridgeRun σ
  activations : List Activation := []

def ConfigHistory.exec {σ : Type*} (net : Transports σ) (h : ConfigHistory σ) (op : BridgeOp) :
    Option (ConfigHistory σ) :=
  (h.run.exec hashString net op).map fun run =>
    { run, activations := h.activations ++ (op.activation hashString h.run.bridge).toList }

end

/-- What the bookkeeping of a running bridge is for. -/
structure BooksRight {σ : Type*} (h : ConfigHistory σ) : Prop where
  inForce : ∃ a ∈ h.activations, a.InForce h.run.bridge.setup
  knownGood : ∃ a ∈ h.activations, a.KnownGood h.run.bridge.lastKnownGood

/-- A direct start that goes through finds a bridge without a version and without the source of a provider, and a
start that loads a provider's configuration finds a stopped bridge and, if it goes through, a source with a name. -/
def BridgeOp.KeepsBooks (s : BridgeState) : BridgeOp → Prop
  | .start env config =>
    s.running = false → StartSucceeds env config →
      s.loaded.version = 0 ∧ sourceOrDirect s.loaded.source = text "direct"
  | .startFromProvider env (some p) =>
    p.load = .ok → s.running = false ∧ (StartSucceeds env p.config → p.source ≠ [])
  | _ => True

/-! ### What a call does to the books -/

/-- The books are in order: both versions agree, and a running bridge is described by the last activation. -/
structure Booked (s : BridgeSetup) (activations : List Activation) : Prop where
  version : s.lastKnownGood.version = s.loaded.version
  described : s.running = true → ∃ a, activations.getLast? = some a ∧ a.InForce s ∧ a.KnownGood s.lastKnownGood

private theorem Booked.of_activation {s : BridgeSetup} {a : Activation} (activations : List Activation)
    (hforce : a.InForce s) (hgood : a.KnownGood s.lastKnownGood) : Booked s (activations ++ [a]) where
  version := hgood.version.trans hforce.version.symm
  described _ := ⟨a, by simp, hforce, hgood⟩

private theorem Booked.of_stopped {s : BridgeSetup} (activations : List Activation) (hstopped : s.running = false)
    (hversion : s.lastKnownGood.version = s.loaded.version) : Booked s activations where
  version := hversion
  described hrunning := absurd (hstopped.symm.trans hrunning) Bool.false_ne_true

section
variable {hashString : Bytes → UInt64} {activations : List Activation}

/-- A start on a stopped bridge whose bookkeeping already names the configuration. -/
private theorem booked_start_stopped {a : Activation} {s : BridgeState} (env : StartEnv) (hstopped : s.running = false)
    (hversion : s.lastKnownGood.version = s.loaded.version)
    (hnamed : StartSucceeds env a.config → s.loaded.version = a.version ∧ sourceOrDirect s.loaded.source = a.source ∧
      (s.lastKnownGood.version = 0 ∨ a.KnownGood s.lastKnownGood)) :
    Booked (start hashString env a.config s).2.setup
      (activations ++ if (start hashString env a.config s).1 = .ok then [a] else []) := by
  have hkept : (startedSetup hashString a.config s).lastKnownGood.version =
      (startedSetup hashString a.config s).loaded.version := by
    unfold startedSetup
    simp only
    split
    · rfl
    · exact hversion
  rcases start_stopped_cases hashString env a.config hstopped with
    ⟨hsucceeds, hok, hsetup⟩ | ⟨-, hne, hrollback | hsetup⟩
  · obtain ⟨hversion', hsource, hgood⟩ := hnamed hsucceeds
    rw [hok, if_pos rfl, hsetup]
    refine .of_activation _ ⟨rfl, hversion', hsource⟩ ?_
    · unfold startedSetup
      simp only
      split
      · exact ⟨effectiveConfig_normalizePolicyDefaults _, hversion', hsource⟩
      · next hne => exact hgood.resolve_left hne
  · rw [if_neg hne, hrollback]
    refine .of_stopped _ ?_ rfl
    exact (congrArg BridgeSetup.running (prepareStart_setup hashString a.config s)).trans hstopped
  · rw [if_neg hne, hsetup]
    exact .of_stopped _ rfl hkept

private theorem append_toList_ite (a : Activation) (p : Prop) [Decidable p] :
    activations ++ (if p then some a else none).toList = activations ++ if p then [a] else [] := by
  split <;> rfl

private theorem booked_start {s : BridgeState} (hb : Booked s.setup activations) {env : StartEnv}
    {config : BridgeConfig} (hkeeps : (BridgeOp.start env config).KeepsBooks s) :
    Booked (start hashString env config s).2.setup
      (activations ++ ((BridgeOp.start env config).activation hashString s).toList) := by
  unfold BridgeOp.activation
  rw [append_toList_ite]
  by_cases hrunning : s.running = false
  · simp only [hrunning, true_and]
    refine booked_start_stopped (a := directActivation config) env hrunning hb.version fun hsucceeds => ?_
    obtain ⟨hversion, hsource⟩ := hkeeps hrunning hsucceeds
    exact ⟨hversion, hsource, .inl (hb.version.trans hversion)⟩
  · have hsame := start_of_running hashString env config (Bool.not_eq_false _ ▸ hrunning)
    rw [if_neg fun h => hrunning h.1, List.append_nil, hsame]
    exact hb

private theorem booked_startFromProvider {s : BridgeState} (hb : Booked s.setup activations) {env : StartEnv}
    {provider : Option ProviderReplies} (hkeeps : (BridgeOp.startFromProvider env provider).KeepsBooks s) :
    Booked (startFromProvider hashString env provider s).2.setup
      (activations ++ ((BridgeOp.startFromProvider env provider).activation hashString s).toList) := by
  cases provider with
  | none =>
    have hnil : activations ++ ((BridgeOp.startFromProvider env none).activation hashString s).toList = activations :=
      List.append_nil _
    rw [hnil]
    exact hb
  | some p =>
    simp only [BridgeOp.activation]
    rw [append_toList_ite]
    by_cases hload : p.load = .ok
    · obtain ⟨hstopped, hnamed⟩ := hkeeps hload
      simp only [hstopped, true_and]
      rw [startFromProvider_of_loaded hashString env s hload]
      refine booked_start_stopped (a := p.activation) env hstopped rfl fun hsucceeds => ?_
      exact ⟨rfl, if_neg (hnamed hsucceeds), .inr ⟨rfl, rfl, rfl⟩⟩
    · rw [startFromProvider_of_not_loaded hashString env s hload, if_neg fun h => hload h.2, List.append_nil]
      exact hb

private theorem booked_reload {s : BridgeState} (hb : Booked s.setup activations) (nowMs : UInt64)
    (provider : Option ProviderReplies) :
    Booked (reloadConfigIfChanged hashString nowMs provider s).2.setup
      (activations ++ ((BridgeOp.reload nowMs provider).activation hashString s).toList) := by
  have hnone : ∀ s', s' = s.setup ∨ (∃ settings, s' = { s.setup with settings }) → Booked s' activations := by
    rintro s' (rfl | ⟨settings, rfl⟩)
    · exact hb
    · refine ⟨hb.version, fun hrunning => ?_⟩
      obtain ⟨a, hlast, hforce, hgood⟩ := hb.described hrunning
      exact ⟨a, hlast, ⟨hforce.config, hforce.version, hforce.source⟩, hgood⟩
  rcases reloadConfigIfChanged_cases hashString nowMs provider s with
    ⟨hearly, ec, audit, writes, heq⟩ | ⟨p, rfl, hreaches, -, heq⟩ | ⟨p, rfl, -, -, heq⟩
  · have happlies : (BridgeOp.reload nowMs provider).activation hashString s = none := by
      cases provider with
      | none => rfl
      | some p =>
        refine if_neg fun h => hearly ⟨p, rfl, ?_⟩
        exact ((reload_ok_iff hashString nowMs h.1).1 h.2).1
    rw [happlies, Option.toList_none, List.append_nil, heq]
    exact hnone _ (.inl rfl)
  · simp only [BridgeOp.activation]
    rw [append_toList_ite, if_pos ⟨hreaches.version, by rw [heq]⟩, heq, acceptReload_setup]
    exact .of_activation _ ⟨rfl, rfl, rfl⟩ ⟨effectiveConfig_idem _, rfl, rfl⟩
  · simp only [BridgeOp.activation]
    rw [append_toList_ite, if_neg fun h => rejectedStatus_ne_ok hashString p s (by rw [← h.2, heq]), List.append_nil,
      heq, rejectReload_setup]
    exact hnone _ (.inr ⟨_, rfl⟩)

/-- **The step lemma**: a call that keeps the books leaves them in order. -/
theorem booked_exec {σ : Type*} {net : Transports σ} {h h' : ConfigHistory σ} {op : BridgeOp}
    (hb : Booked h.run.bridge.setup h.activations) (hkeeps : op.KeepsBooks h.run.bridge)
    (hexec : h.exec hashString net op = some h') : Booked h'.run.bridge.setup h'.activations := by
  obtain ⟨r, hr, rfl⟩ := Option.map_eq_some_iff.1 hexec
  cases op with
  | start env config =>
    cases hr
    exact booked_start hb hkeeps
  | startFromProvider env provider =>
    cases hr
    exact booked_startFromProvider hb hkeeps
  | stop =>
    cases hr
    exact .of_stopped _ rfl hb.version
  | reload nowMs provider =>
    cases hr
    exact booked_reload hb nowMs provider
  | publish origin env e =>
    rw [exec_setup (by exact not_false) hr]
    simpa only [BridgeOp.activation, Option.toList_none, List.append_nil] using hb
  | inbound t env routers received =>
    rw [exec_setup (by exact not_false) hr]
    simpa only [BridgeOp.activation, Option.toList_none, List.append_nil] using hb

/-- **Bookkeeping.**  In every run of a new bridge whose starts keep the books, a running bridge runs a configuration
that was put into force, with its version and source, and its last known good configuration is one too. -/
theorem bookkeeping_kept {σ : Type*} (net : Transports σ) (w : Wire σ) {ops : List BridgeOp} {h : ConfigHistory σ}
    (hrun : Run (fun h op h' => op.KeepsBooks h.run.bridge ∧ h.exec hashString net op = some h')
      { run := { wire := w } } ops h) (hrunning : h.run.bridge.running = true) : BooksRight h := by
  have hbooked : Booked h.run.bridge.setup h.activations :=
    hrun.invariant (I := fun h => Booked h.run.bridge.setup h.activations)
      (fun _ _ _ hb hstep => booked_exec hb hstep.1 hstep.2) (.of_stopped _ rfl rfl)
  obtain ⟨a, hlast, hforce, hgood⟩ := hbooked.described hrunning
  exact ⟨⟨a, List.mem_of_getLast? hlast, hforce⟩, ⟨a, List.mem_of_getLast? hlast, hgood⟩⟩

end

/-! ### Two starts -/

/-- A provider's version 7 of the plain configuration, with another trace sampling rate. -/
def sampledReplies : ProviderReplies :=
  { version := 7, config := { plainConfig with traceSampleRatePercent := 50 }, source := text "static://sampled" }

/-- A new bridge with transports that answer by a script. -/
def newHistory : ConfigHistory (List ErrorCode) :=
  { run := { wire := { state := [] } } }

/-- A start with the plain configuration and a reload of the provider's. -/
theorem bookkeeping_kept_reload :
    ∃ h, [BridgeOp.start {} plainConfig, .reload 0 (some sampledReplies)].foldlM
        (ConfigHistory.exec (fun _ => 0) scriptedTransports) newHistory = some h ∧
      h.run.bridge.loaded.version = 7 ∧ BooksRight h := by
  have hstart : (BridgeOp.start {} plainConfig).KeepsBooks newHistory.run.bridge := fun _ _ => ⟨rfl, rfl⟩
  have hreload : ∀ s, (BridgeOp.reload 0 (some sampledReplies)).KeepsBooks s := fun _ => trivial
  exact ⟨_, rfl, rfl, bookkeeping_kept scriptedTransports { state := [] }
    (((Run.refl newHistory).snoc ⟨hstart, rfl⟩).snoc ⟨hreload _, rfl⟩) rfl⟩

/-- A bridge that runs the plain configuration is started with a provider, which changes nothing but what it says of
itself. -/
theorem bookkeeping_not_kept : ¬ ∀ (hashString : Bytes → UInt64) (ops : List BridgeOp)
    (h : ConfigHistory (List ErrorCode)),
    Run (fun h op h' => h.exec hashString scriptedTransports op = some h') newHistory ops h →
      h.run.bridge.running = true → BooksRight h := by
  intro hall
  have hright := hall (fun _ => 0) _ _
    (((Run.refl newHistory).snoc (o := .start {} plainConfig) rfl).snoc
      (o := .startFromProvider {} (some sampledReplies)) rfl) rfl
  obtain ⟨a, ha, hforce⟩ := hright.inForce
  have hdirect : a = directActivation plainConfig := List.mem_singleton.1 ha
  have hversion := hforce.version
  rw [hdirect] at hversion
  revert hversion
  decide

end VehicleBridge
