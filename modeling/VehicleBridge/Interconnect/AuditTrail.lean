import VehicleBridge.Interconnect.Canary
import VehicleBridge.Interconnect.ReloadAgreement

/-!
# The audit trail of reloads

Status code, reason code and summary are to tell an operator what the last reload did, or the last rollback that
`Start` made for the canary.  Each exit of a reload writes all three, but the one for a missing provider; the rollback
of `Start` writes the status only, and `Publish` writes a summary of its own for a message that the canary skips.

A run carries the last event with what was written down for it (`AuditEvent`), and `Describes` compares the record with
it.  A step keeps the record coherent exactly where none of the three incomplete exits is taken
(`Describes.exec_iff`), and so the record is coherent all along a run exactly where none of them occurs in it
(`audit_coherent_iff`).
-/

namespace VehicleBridge

open ByteText

/-- A reload attempt, or a rollback by `Start`: the status it ended with, and the summary written for it, if one was. -/
structure AuditEvent where
  status : ErrorCode
  summary : Option Bytes
  deriving DecidableEq, Repr

section
variable (hashString : Bytes → UInt64)

/-- The summary of a reload with a provider. -/
def reloadSummary (p : ProviderReplies) (s : BridgeState) : Bytes :=
  if p.reload ≠ .ok then
    text "reload_audit:\x7breload_stage=provider_reload,status=fail,reason=" ++ kReloadReasonProviderReloadFail ++
      text "\x7d"
  else if p.version = s.loaded.version then text "reload_audit:\x7bstatus=noop\x7d"
  else if p.load ≠ .ok then
    text "reload_audit:\x7breload_stage=provider_load,status=fail,reason=" ++ kReloadReasonProviderLoadFail ++
      text "\x7d"
  else if blockedByRiskGuard s.config (normalizePolicyDefaults p.config) then
    text "reload_audit:\x7bstatus=rollback,reason=high_risk_config_change\x7d"
  else if preservesLockedPolicy s.config (normalizePolicyDefaults p.config) = false then
    text "reload_audit:\x7bstatus=rollback,reason=policy_lock_violation\x7d"
  else
    reloadTransition s.loaded (nextLoaded hashString p) ++
      if commitChecks hashString p s then text ",status=ok" else text ",status=rollback"

/-- The event that an operation is, if it is one.  The rollback of `Start` writes no summary, and neither does a reload
without a provider. -/
def auditEvent (s : BridgeState) : BridgeOp → Option AuditEvent
  | .start env config =>
    if refusedStart env config s then some { status := .wouldBlock, summary := none } else none
  | .startFromProvider env (some p) =>
    if p.load = .ok ∧ refusedStart env p.config s = true then some { status := .wouldBlock, summary := none } else none
  | .reload _ none => some { status := .invalidParam, summary := none }
  | .reload nowMs (some p) =>
    some { status := (reloadConfigIfChanged hashString nowMs (some p) s).1
           summary := some (reloadSummary hashString p s) }
  | _ => none

end

/-- A run with its last event. -/
structure AuditRun (σ : Type*) where
  run : BridgeRun σ
  last : Option AuditEvent := none

/-- The record describes the last event, if there was one, and no more rollbacks are counted than failures. -/
structure Describes (audit : ReloadAudit) (last : Option AuditEvent) : Prop where
  status : audit.lastStatusCode = (last.elim ErrorCode.ok AuditEvent.status).value
  reason : audit.rollbackReasonCode = 0 ↔ audit.lastStatusCode = ErrorCode.ok.value
  summary : last.elim (some []) AuditEvent.summary = some audit.lastAuditSummary
  rollbacks : audit.rollbackCount ≤ audit.failCount

/-- The operation is none that leaves the record incomplete: a start refused by the canary, a reload without a provider,
or a message skipped by the canary. -/
def BridgeOp.WellAudited (s : BridgeState) : BridgeOp → Prop
  | .start env config => refusedStart env config s = false
  | .startFromProvider env (some p) => p.load = .ok → refusedStart env p.config s = false
  | .reload _ none => False
  | .publish _ env e => ¬ PublishSkipped env e s
  | _ => True

section
variable {σ : Type*} (hashString : Bytes → UInt64) (net : Transports σ)

def AuditRun.exec (r : AuditRun σ) (op : BridgeOp) : Option (AuditRun σ) :=
  (r.run.exec hashString net op).map fun run => { run, last := (auditEvent hashString r.run.bridge op).or r.last }

/-- The states after the operations of a sequence, as far as they can be carried out. -/
def AuditRun.states (r : AuditRun σ) : List BridgeOp → List (AuditRun σ)
  | [] => []
  | op :: ops =>
    match r.exec hashString net op with
    | some r' => r' :: r'.states ops
    | none => []

/-- All of these are well audited. -/
def AuditRun.WellAudited (r : AuditRun σ) : List BridgeOp → Prop
  | [] => True
  | op :: ops =>
    match r.exec hashString net op with
    | some r' => op.WellAudited r.run.bridge ∧ r'.WellAudited ops
    | none => True

end

/-! ### What a reload writes -/

section
variable {hashString : Bytes → UInt64}

private theorem errorCode_value_eq_ok_iff {ec : ErrorCode} : ec.value = ErrorCode.ok.value ↔ ec = .ok := by
  cases ec <;> decide

/-- What a reload with a provider leaves of the audit record. -/
structure Audited (audit audit' : ReloadAudit) (ec : ErrorCode) (written : Bytes) : Prop where
  status : audit'.lastStatusCode = ec.value
  reason : audit'.rollbackReasonCode = 0 ↔ ec = .ok
  summary : audit'.lastAuditSummary = written
  counts : audit.rollbackCount ≤ audit.failCount → audit'.rollbackCount ≤ audit'.failCount

private theorem ReloadAudit.refuse_audited (audit : ReloadAudit) {ec : ErrorCode} {reason : Int32} (summary : Bytes)
    (hec : ec ≠ .ok) (hreason : reason ≠ 0) : Audited audit (audit.refuse ec reason summary) ec summary where
  status := rfl
  reason := iff_of_false hreason hec
  summary := rfl
  counts h := Nat.le_succ_of_le h

private theorem ReloadAudit.rollback_audited (audit : ReloadAudit) {ec : ErrorCode} {reason : Int32} (summary : Bytes)
    (hec : ec ≠ .ok) (hreason : reason ≠ 0) : Audited audit (audit.rollback ec reason summary) ec summary where
  status := rfl
  reason := iff_of_false hreason hec
  summary := rfl
  counts h := Nat.succ_le_succ h

private theorem ReloadAudit.noop_audited (audit : ReloadAudit) :
    Audited audit audit.noop .ok (text "reload_audit:\x7bstatus=noop\x7d") :=
  ⟨rfl, iff_of_true rfl rfl, rfl, id⟩

private theorem ReloadAudit.succeed_audited (audit : ReloadAudit) (nowMs : UInt64) (summary : Bytes) :
    Audited audit (audit.succeed nowMs summary) .ok summary :=
  ⟨rfl, iff_of_true rfl rfl, rfl, id⟩

/-- **The record of a reload**: each of its exits writes the status it returns, a reason for a failure, and a
summary. -/
theorem reload_audited (nowMs : UInt64) (p : ProviderReplies) (s : BridgeState) :
    Audited s.audit (reloadConfigIfChanged hashString nowMs (some p) s).2.audit
      (reloadConfigIfChanged hashString nowMs (some p) s).1 (reloadSummary hashString p s) := by
  unfold reloadSummary
  simp only [reloadConfigIfChanged]
  by_cases hreload : p.reload = .ok
  · simp only [hreload, ne_eq, not_true_eq_false, if_false]
    by_cases hversion : p.version = s.loaded.version
    · simp only [hversion, if_true]
      exact s.audit.noop_audited
    · simp only [hversion, if_false]
      by_cases hload : p.load = .ok
      · simp only [hload, not_true_eq_false, if_false, installLoaded]
        by_cases hrisk : blockedByRiskGuard s.config (normalizePolicyDefaults p.config) = true
        · simp only [hrisk, if_true]
          exact s.audit.rollback_audited _ (by decide) (by decide)
        · simp only [hrisk]
          by_cases hlock : preservesLockedPolicy s.config (normalizePolicyDefaults p.config) = false
          · simp only [hlock, if_true]
            exact s.audit.rollback_audited _ (by decide) (by decide)
          · simp only [hlock]
            by_cases hchecks : commitChecks hashString p s = true
            · simp only [hchecks, if_true]
              exact s.audit.succeed_audited nowMs _
            · simp only [hchecks]
              refine s.audit.rollback_audited _ (rejectedStatus_ne_ok hashString p s) ?_
              split <;> decide
      · simp only [hload, not_false_eq_true, if_true]
        exact s.audit.refuse_audited _ hload (by decide)
  · simp only [hreload, ne_eq, not_false_eq_true, if_true]
    exact s.audit.refuse_audited _ hreload (by decide)

end

/-! ### What publishing and receiving write -/

/-- A message that the canary does not skip is not recorded before the send. -/
theorem PrepareStep.audit {env : PublishEnv} {t : TransportId} {e : MessageEnvelope} {s s' : BridgeState}
    {r : Except ErrorCode Outgoing} (h : PrepareStep env t e s r s') (hnot : ¬ PublishSkipped env e s) :
    s'.audit = s.audit := by
  cases h with
  | refused hearly =>
    rcases refuseEarly_cases hearly with ⟨-, rfl⟩ | ⟨-, rfl⟩ | ⟨rfl, rfl⟩
    · rfl
    · rfl
    · exact absurd hearly hnot
  | duplicate => rfl
  | noSlot => rw [afterSlot_frame, passWindow_frame]; rfl
  | ready => rw [afterSlot_frame, passWindow_frame]

private theorem processInbound_audit (env : InboundEnv) (router : MessageRouter) (received : ErrorCode × Bytes)
    (s : BridgeState) : (processInbound env router received s).2.audit = s.audit :=
  congrArg (·.2.1) (processInbound_unreceived env router received s)

section
variable {σ : Type*} {hashString : Bytes → UInt64} {net : Transports σ}

/-- A message that the canary does not skip leaves the record alone. -/
private theorem publish_audit {env : PublishEnv} {t : TransportId} {e : MessageEnvelope} {s s' : BridgeState}
    {w w' : Wire σ} {ec : ErrorCode} (h : publish net env t e s w = some (ec, s', w'))
    (hnot : ¬ PublishSkipped env e s) : s'.audit = s.audit := by
  have hprepare := (preparePublish_step env t e s).audit hnot
  rcases publish_cases h with ⟨-, rfl, -⟩ | ⟨out, s₁, -, rfl, hsend⟩
  · exact hprepare
  · refine Eq.trans ?_ hprepare
    rw [(sendOutgoing_step hsend).frame]

/-! ### Steps -/

private theorem Describes.of_audited {audit audit' : ReloadAudit} {last : Option AuditEvent} {ec : ErrorCode}
    {written : Bytes} (h : Describes audit last) (h' : Audited audit audit' ec written) :
    Describes audit' (some { status := ec, summary := some written }) where
  status := h'.status
  reason := by rw [h'.reason, h'.status, errorCode_value_eq_ok_iff]
  summary := congrArg some h'.summary.symm
  rollbacks := h'.counts h.rollbacks

/-- No record describes an event without a summary. -/
private theorem not_describes_of_no_summary (audit : ReloadAudit) (status : ErrorCode) :
    ¬ Describes audit (some { status, summary := none }) := by
  intro h
  cases h.summary

/-- No reload writes the summary of a message that the canary skips. -/
private theorem reloadSummary_ne_skip (p : ProviderReplies) (s : BridgeState) :
    reloadSummary hashString p s ≠ text "reload_audit:\x7bstatus=canary_skip,reason=segment_gate\x7d" := by
  unfold reloadSummary reloadTransition
  simp only [List.append_assoc]
  split
  · exact text_append_ne (by decide)
  split
  · exact text_ne (by decide)
  split
  · exact text_append_ne (by decide)
  split
  · exact text_ne (by decide)
  split
  · exact text_ne (by decide)
  · exact text_append_ne (by decide)

/-- A message skipped by the canary overwrites the summary of the last event, or the empty one of none. -/
private theorem not_describes_of_skipped {s : BridgeState} {last : Option AuditEvent}
    (hlast : ∀ event ∈ last,
      event.summary ≠ some (text "reload_audit:\x7bstatus=canary_skip,reason=segment_gate\x7d")) :
    ¬ Describes (countCanarySkip s).audit last := by
  intro h
  have hsummary := h.summary
  cases last with
  | none => cases hsummary
  | some event => exact hlast event rfl hsummary

/-- The summary of the last event is not that of a skipped message. -/
def AuditRun.NoSkip (r : AuditRun σ) : Prop :=
  ∀ event ∈ r.last, event.summary ≠ some (text "reload_audit:\x7bstatus=canary_skip,reason=segment_gate\x7d")

private theorem auditEvent_noSkip {s : BridgeState} {op : BridgeOp} {event : AuditEvent}
    (h : auditEvent hashString s op = some event) :
    event.summary ≠ some (text "reload_audit:\x7bstatus=canary_skip,reason=segment_gate\x7d") := by
  unfold auditEvent at h
  repeat' split at h
  · cases h
    exact (Option.some_ne_none _).symm
  · cases h
  · cases h
    exact (Option.some_ne_none _).symm
  · cases h
  · cases h
    exact (Option.some_ne_none _).symm
  · cases h
    exact fun heq => reloadSummary_ne_skip _ _ (Option.some.inj heq)
  · cases h

theorem AuditRun.NoSkip.exec {r r' : AuditRun σ} {op : BridgeOp} (h : r.NoSkip)
    (hexec : r.exec hashString net op = some r') : r'.NoSkip := by
  obtain ⟨run, -, rfl⟩ := Option.map_eq_some_iff.1 hexec
  intro event hevent
  rcases Option.or_eq_some_iff.1 hevent with hnew | ⟨-, hold⟩
  · exact auditEvent_noSkip hnew
  · exact h event hold

/-- An operation that is no event and leaves the record alone. -/
private theorem describes_of_kept {audit audit' : ReloadAudit} {event last : Option AuditEvent}
    (h : Describes audit last) (hnone : event = none) (hkept : audit' = audit) : Describes audit' (event.or last) := by
  rw [hnone, hkept]
  exact h

private theorem not_describes_of_event {event last : Option AuditEvent} {ec : ErrorCode}
    (hevent : event = some { status := ec, summary := none }) (audit' : ReloadAudit) :
    ¬ Describes audit' (event.or last) := by
  rw [hevent]
  exact not_describes_of_no_summary audit' ec

/-- A start keeps the record coherent if and only if the canary lets it pass. -/
private theorem describes_start_iff {env : StartEnv} {config : BridgeConfig} {s : BridgeState}
    {last : Option AuditEvent} (h : Describes s.audit last) :
    Describes (start hashString env config s).2.audit ((auditEvent hashString s (.start env config)).or last) ↔
      refusedStart env config s = false := by
  cases hrefused : refusedStart env config s with
  | true =>
    have hevent : auditEvent hashString s (.start env config) = some { status := .wouldBlock, summary := none } :=
      if_pos hrefused
    exact iff_of_false (not_describes_of_event hevent _) Bool.true_eq_false.mp
  | false =>
    have hnone : auditEvent hashString s (.start env config) = none := by
      simp only [auditEvent, hrefused, Bool.false_eq_true, if_false]
    exact iff_of_true (describes_of_kept h hnone (start_audit_of_passed hashString hrefused)) rfl

/-- **The step lemma**: a step keeps the record coherent exactly where it is well audited. -/
theorem Describes.exec_iff {r r' : AuditRun σ} {op : BridgeOp} (h : Describes r.run.bridge.audit r.last)
    (hskip : r.NoSkip) (hexec : r.exec hashString net op = some r') :
    Describes r'.run.bridge.audit r'.last ↔ op.WellAudited r.run.bridge := by
  obtain ⟨run, hrun, rfl⟩ := Option.map_eq_some_iff.1 hexec
  simp only
  cases op with
  | start env config =>
    cases hrun
    exact describes_start_iff h
  | startFromProvider env provider =>
    cases hrun
    simp only
    cases provider with
    | none => exact iff_of_true (describes_of_kept h rfl rfl) trivial
    | some p =>
      by_cases hload : p.load = .ok
      · have hevent : auditEvent hashString r.run.bridge (.startFromProvider env (some p)) =
            auditEvent hashString (noteProvider hashString p r.run.bridge) (.start env p.config) := by
          simp only [auditEvent, hload, true_and]
          rfl
        have hnoted : Describes (noteProvider hashString p r.run.bridge).audit r.last := h
        rw [startFromProvider_of_loaded hashString env _ hload, hevent, describes_start_iff hnoted]
        exact ⟨fun hpassed _ => hpassed, fun hpassed => hpassed hload⟩
      · have hnone : auditEvent hashString r.run.bridge (.startFromProvider env (some p)) = none := by
          simp only [auditEvent, hload, false_and, if_false]
        rw [startFromProvider_of_not_loaded hashString env _ hload]
        exact iff_of_true (describes_of_kept h hnone rfl) fun hok => absurd hok hload
  | stop =>
    cases hrun
    exact iff_of_true (describes_of_kept h rfl rfl) trivial
  | reload nowMs provider =>
    cases hrun
    cases provider with
    | none => exact iff_of_false (not_describes_of_event rfl _) id
    | some p => exact iff_of_true (h.of_audited (reload_audited nowMs p r.run.bridge)) trivial
  | publish origin env e =>
    obtain ⟨⟨ec, s', w'⟩, hpublish, rfl⟩ := Option.map_eq_some_iff.1 hrun
    rw [publishFrom_eq] at hpublish
    by_cases hskipped : PublishSkipped env e r.run.bridge
    · rw [publish_of_skipped net _ hskipped] at hpublish
      cases hpublish
      exact iff_of_false (not_describes_of_skipped hskip) fun hnot => hnot hskipped
    · exact iff_of_true (describes_of_kept h rfl (publish_audit hpublish hskipped)) hskipped
  | inbound t env routers received =>
    simp only [BridgeRun.exec] at hrun
    split at hrun
    · cases hrun
      refine iff_of_true (describes_of_kept h rfl ?_) trivial
      rw [inboundLoop_eq]
      exact processInbound_audit env _ received r.run.bridge
    · cases hrun

/-! ### Runs -/

private theorem describes_none : Describes {} none :=
  ⟨rfl, iff_of_true rfl rfl, rfl, Nat.le_refl 0⟩

private theorem states_describes_iff {r : AuditRun σ} (h : Describes r.run.bridge.audit r.last) (hskip : r.NoSkip)
    (ops : List BridgeOp) :
    (∀ r' ∈ r.states hashString net ops, Describes r'.run.bridge.audit r'.last) ↔
      r.WellAudited hashString net ops := by
  induction ops generalizing r with
  | nil => exact iff_of_true (fun _ hmem => absurd hmem List.not_mem_nil) trivial
  | cons op ops ih =>
    unfold AuditRun.states AuditRun.WellAudited
    cases hexec : r.exec hashString net op with
    | none => exact iff_of_true (fun _ hmem => absurd hmem List.not_mem_nil) trivial
    | some r₁ =>
      rw [List.forall_mem_cons, h.exec_iff hskip hexec]
      refine and_congr_right fun hop => ?_
      exact ih ((h.exec_iff hskip hexec).2 hop) (hskip.exec hexec)

end

/-- **The audit trail** of a bridge is coherent after every step of a run if and only if no step of it is a start that
the canary refuses, a reload without a provider or a publish that the canary skips. -/
theorem audit_coherent_iff {σ : Type*} (hashString : Bytes → UInt64) (net : Transports σ) (w : Wire σ)
    (ops : List BridgeOp) :
    (∀ r ∈ AuditRun.states hashString net { run := { wire := w } } ops, Describes r.run.bridge.audit r.last) ↔
      AuditRun.WellAudited hashString net { run := { wire := w } } ops :=
  states_describes_iff describes_none (fun _ h => absurd h (Option.not_mem_none _)) ops

/-- A start that the canary refuses is no coherent record: the reason is 0 and the summary empty. -/
theorem audit_not_coherent : ¬ ∀ (hashString : Bytes → UInt64) (net : Transports (List ErrorCode))
    (w : Wire (List ErrorCode)) (ops : List BridgeOp),
    ∀ r ∈ AuditRun.states hashString net { run := { wire := w } } ops, Describes r.run.bridge.audit r.last := by
  intro hall
  let refused : BridgeOp := .start {} controlCanary
  have hcoherent := hall (fun _ => 0) scriptedTransports { state := [] } [refused] _ (List.mem_singleton.2 rfl)
  have hreason := hcoherent.reason
  revert hreason
  decide

end VehicleBridge
