import Andromeda.Recovery.RedoStep

/-!
# Which records a replay handles

A recording target keeps, beside the target itself, the list of records handed to the
adapter. Run with it, a replay that succeeds is seen to handle exactly the records
that are to be redone, in LSN order and once each, and its report accounts for every
record of the plan.
-/

namespace Andromeda

open Fallible RecoveryReplayTarget Effect List

structure Recorded (σ : Type) where
  target : σ
  handled : List WalRecord

section Recording

variable {σ : Type} [RecoveryReplayTarget σ] {adapter : RecoveryWalReplayAdapter σ}

instance : RecoveryReplayTarget (Recorded σ) where
  appliedCount s := appliedCount s.target
  skippedCount s := skippedCount s.target
  errorRecords s := errorRecords s.target
  indexRebuildRequired s := indexRebuildRequired s.target
  observeCheckpointEnd s lsn :=
    { s with target := observeCheckpointEnd s.target lsn }
  requireManifestSwitchCheckpointEvidence s :=
    { s with target := requireManifestSwitchCheckpointEvidence s.target }

def RecoveryWalReplayAdapter.recording (adapter : RecoveryWalReplayAdapter σ) :
    RecoveryWalReplayAdapter (Recorded σ) where
  replayRecord record := fun s =>
    ((adapter.replayRecord record s.target).1,
      ⟨(adapter.replayRecord record s.target).2, s.handled ++ [record]⟩)
  isExplicitDeferredReplayError s record :=
    adapter.isExplicitDeferredReplayError s.target record

omit [RecoveryReplayTarget σ] in
theorem handleRecord_recording {r : WalRecord} {t t' : σ} {handled : List WalRecord}
    (h : handleRecord adapter r t = (.ok (), t')) :
    handleRecord adapter.recording r ⟨t, handled⟩ = (.ok (), ⟨t', handled ++ [r]⟩) := by
  unfold handleRecord at h ⊢
  rcases hrun : adapter.replayRecord r t with ⟨result, final⟩
  simp only [RecoveryWalReplayAdapter.recording, hrun] at h ⊢
  cases result with
  | ok u =>
    cases h
    rfl
  | error e =>
    by_cases hdeferred : adapter.isExplicitDeferredReplayError final r = true
    · simp only [hdeferred, if_true] at h ⊢
      cases h
      rfl
    · simp [hdeferred] at h

omit [RecoveryReplayTarget σ] in
theorem each_recording {rs : List WalRecord} {t t' : σ} {handled : List WalRecord}
    (h : each (handleRecord adapter) rs t = (.ok (), t')) :
    each (handleRecord adapter.recording) rs ⟨t, handled⟩ = (.ok (), ⟨t', handled ++ rs⟩) := by
  induction rs generalizing t handled with
  | nil =>
    cases h
    simp
  | cons r rs ih =>
    obtain ⟨middle, hr, hrest⟩ := each_cons_eq_ok.mp h
    refine each_cons_eq_ok.mpr ⟨_, handleRecord_recording hr, ?_⟩
    rw [ih hrest, append_assoc]
    rfl

theorem preparedTarget_recorded (durable : List WalRecord) (t : σ) (handled : List WalRecord) :
    preparedTarget durable (⟨t, handled⟩ : Recorded σ) = ⟨preparedTarget durable t, handled⟩ := by
  have hobserve : ∀ (records : List WalRecord) (t : σ),
      observeAll records (⟨t, handled⟩ : Recorded σ) = ⟨observeAll records t, handled⟩ := by
    intro records
    induction records with
    | nil => exact fun _ => rfl
    | cons r rs ih =>
      intro t
      have hstep : observeRecord r (⟨t, handled⟩ : Recorded σ) = ⟨observeRecord r t, handled⟩ := by
        unfold observeRecord
        split <;> rfl
      show observeAll rs (observeRecord r (⟨t, handled⟩ : Recorded σ)) = _
      rw [hstep, ih]
      rfl
  rw [preparedTarget, hobserve]
  rfl

end Recording

variable {manifest : DatabaseManifest} {mode : StartupMode} {durable : List WalRecord}
  {ctx ctx' : ReplayContext}

theorem counted_each {rs : List WalRecord} (hredo : ∀ r ∈ rs, r.kind.isRedoRelevant = true)
    (h : each redoRecord rs ctx = (.ok (), ctx')) : Counted rs.length ctx ctx' := by
  apply each_invariant (fun done c => Counted done.length ctx c) ?_ (Counted.refl ctx) h
  intro before r after heq c c' hcounted hstep
  rw [length_append]
  exact hcounted.trans (redoRecord_counted (hredo r (by simp [← heq])) hstep)

theorem increasing_replayedRecords (redoFrom : Lsn) (h : Increasing durable) :
    Increasing (replayedRecords redoFrom durable) :=
  h.sublist filter_sublist

theorem length_replayedRecords (redoFrom : Lsn) (durable : List WalRecord) :
    (replayedRecords redoFrom durable).length +
      (durable.countP fun r => ¬ ShouldReplay redoFrom durable r) = durable.length := by
  rw [replayedRecords, ← countP_eq_length_filter,
    length_eq_countP_add_countP fun r => decide (ShouldReplay redoFrom durable r)]
  simp

theorem replay_report_counts {report : WalReplayReport}
    (h : replayWalFromLsnIntoContext manifest mode durable ctx = (.ok report, ctx')) :
    report.appliedCount + report.handlerSkippedCount + report.planSkippedCount +
        report.notYetImplementedCount = report.totalRecords ∧
      report.totalRecords = durable.length := by
  obtain ⟨hlog, hrun⟩ := replay_succeeds_iff.mp ⟨report, h⟩
  obtain ⟨e, he⟩ := hlog.covered
  have hplanned : each (handleRecord recoveryOwnedWalReplayAdapter)
      (replayedRecords (recoveryPlanOf manifest mode).redoFromLsn durable)
      (preparedTarget durable (ctx.withManifest manifest)) = (.ok (), ctx') := hrun
  obtain ⟨endLsn, last, hok⟩ :=
    executeRedoPlan_of_each e hlog.valid (linked_increasing hlog.linked) hplanned
  rw [replay_eq_execute hlog he, hok] at h
  obtain ⟨hreport, -⟩ := Prod.mk.inj h
  cases hreport
  have hcounted : Counted (replayedRecords manifest.requiredWalStartLsn durable).length
      (startContext manifest durable ctx) ctx' :=
    counted_each (redoRelevant_replayedRecords _ _) hrun
  have hlength := length_replayedRecords manifest.requiredWalStartLsn durable
  have htotal : ((recoveryPlanOf manifest mode).redoPlan durable e).records.length =
      durable.length := length_map _
  rw [startContext_eq] at hcounted
  obtain ⟨happlied, hskipped, herrors, hsum⟩ := hcounted
  refine ⟨?_, htotal⟩
  show ctx'.appliedCount - ctx.appliedCount + (ctx'.skippedCount - ctx.skippedCount) +
    (durable.countP fun r => ¬ ShouldReplay manifest.requiredWalStartLsn durable r) +
    (ctx'.errorRecords.length - ctx.errorRecords.length) =
      ((recoveryPlanOf manifest mode).redoPlan durable e).records.length
  dsimp only at happlied hskipped herrors hsum
  omega

/-- A replay that succeeds hands its handler exactly the records at or above the redo
start that are redo relevant and, if they belong to a transaction, to one with a begin, a
commit and no rollback in the log; it does so in LSN order, once each, and every record
of the plan is counted under one heading of the report. -/
theorem replay_handles_exactly_redo_records {report : WalReplayReport}
    (h : replayWalFromLsnIntoContext manifest mode durable ctx = (.ok report, ctx')) :
    ∃ plan handled report', RecoveryPlan.fromManifestAndWal manifest mode durable = .ok plan ∧
      executeRedoPlanWithAdapter plan durable recoveryOwnedWalReplayAdapter.recording
        ⟨ctx.withManifest manifest, []⟩ = (.ok report', ⟨ctx', handled⟩) ∧
      (∀ r, r ∈ handled ↔ r ∈ durable ∧ manifest.requiredWalStartLsn ≤ r.lsn ∧
        r.kind.isRedoRelevant = true ∧ ∀ id, r.transactionId = some id →
          HasRecord durable id .txBegin ∧ HasRecord durable id .txCommit ∧
            ¬ HasRecord durable id .txRollback) ∧ Increasing handled ∧
      report.appliedCount + report.handlerSkippedCount + report.planSkippedCount +
        report.notYetImplementedCount = report.totalRecords ∧
      report.totalRecords = durable.length := by
  obtain ⟨hlog, hrun⟩ := replay_succeeds_iff.mp ⟨report, h⟩
  obtain ⟨e, he⟩ := hlog.covered
  have hinc := linked_increasing hlog.linked
  have hplan : RecoveryPlan.fromManifestAndWal manifest mode durable = .ok _ :=
    fromManifestAndWal_eq_ok.mpr ⟨hlog.manifestValid, hlog.valid, e, he, rfl⟩
  -- the same run with the recording adapter
  have hrecorded : each (handleRecord recoveryOwnedWalReplayAdapter.recording)
      (replayedRecords (recoveryPlanOf manifest mode).redoFromLsn durable)
      (preparedTarget durable ⟨ctx.withManifest manifest, []⟩) =
      (.ok (), ⟨ctx', replayedRecords manifest.requiredWalStartLsn durable⟩) := by
    rw [preparedTarget_recorded]
    exact each_recording hrun
  obtain ⟨report', hexecute⟩ := (executeRedoPlan_succeeds_iff hlog.valid hinc).mpr hrecorded
  refine ⟨_, _, report', hplan, hexecute, ?_, increasing_replayedRecords _ hinc,
    replay_report_counts h⟩
  intro r
  rw [replayedRecords, mem_filter, decide_eq_true_iff, shouldReplay_def]
  simp [committed_def]

/-! A log with two outcomes: transaction 7 commits its insert, transaction 8 rolls back. -/

def rowRecord (payload : HeapRowRedoPayloadV1) (previousLsn : Option Lsn) (id : TransactionId) :
    WalRecord :=
  .sealed payload.operation.walRecordKind payload.resultingPageLsn previousLsn (some id)
    payload.encode

def insertPayload (pageId : PageId) (slotId : UInt16) (expected lsn : Lsn) : HeapRowRedoPayloadV1 :=
  ⟨.insert, pageId, .kiB16, HeapRowRedoPayloadV1.noneSlotId, slotId, expected, lsn, [1]⟩

def bootstrapManifest : DatabaseManifest := ⟨1, 1, 1, 0, 0, [], 7, 0, 0⟩

def mixedOutcomeLog : List WalRecord :=
  [.sealed .txBegin 1 none (some 7) [],
   rowRecord (insertPayload 1 0 0 2) (some 1) 7,
   .sealed .txBegin 3 (some 2) (some 8) [],
   rowRecord (insertPayload 2 0 0 4) (some 3) 8,
   .sealed .txCommit 5 (some 4) (some 7) [],
   .sealed .txRollback 6 (some 5) (some 8) []]

theorem replay_handles_mixedOutcomeLog : ∃ plan handled report report' ctx,
      replayWalFromLsnIntoContext bootstrapManifest .safeStart mixedOutcomeLog .new =
        (.ok report, ctx) ∧
      executeRedoPlanWithAdapter plan mixedOutcomeLog recoveryOwnedWalReplayAdapter.recording
          ⟨ReplayContext.new.withManifest bootstrapManifest, []⟩ =
        (.ok report', ⟨ctx, handled⟩) ∧ Increasing handled := by
  obtain ⟨report, ctx, hreplay⟩ : ∃ report ctx,
      replayWalFromLsnIntoContext bootstrapManifest .safeStart mixedOutcomeLog .new =
        (.ok report, ctx) :=
    succeeds_iff.mp (by decide +kernel)
  obtain ⟨plan, handled, report', -, hrun, -, hinc, -⟩ :=
    replay_handles_exactly_redo_records hreplay
  exact ⟨plan, handled, report, report', ctx, hreplay, hrun, hinc⟩

end Andromeda
