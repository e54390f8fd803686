import Andromeda.Manifest
import Andromeda.Recovery.Coverage
import Andromeda.Wal.Transaction

/-!
# Redo planning

A recovery plan names the redo start; building the redo plan checks the durable
records, summarizes the transactions of the whole log and decides for every record
whether it is replayed. `ShouldReplay` is that decision without the table of
transactions, and `buildRedoPlan_eq_ok` is what the rest of the development uses.
-/

namespace Andromeda

open Fallible List WalRecord

/-- What planning needs of a manifest. -/
class RecoveryManifestView (μ : Type) where
  validateRecoveryManifest : μ → Result Unit
  mountedSnapshotId : μ → UInt64
  requiredWalStartLsn : μ → Lsn
  validateRecoveryStorageFormats : μ → StartupMode → Result Unit := fun _ _ => .ok ()

open RecoveryManifestView

instance : RecoveryManifestView DatabaseManifest where
  validateRecoveryManifest := DatabaseManifest.validate
  mountedSnapshotId := DatabaseManifest.snapshotId
  requiredWalStartLsn := DatabaseManifest.requiredWalStartLsn
  validateRecoveryStorageFormats := DatabaseManifest.validateRecoveryStorageFormats

structure RecoveryPlan where
  startupMode : StartupMode
  mountedSnapshotId : UInt64
  redoFromLsn : Lsn
  discardIncompleteTransactions : Bool

inductive RedoRecordDecision where
  | replay
  | skipBeforeRedoStart
  | skipIncompleteTransaction
  | skipRolledBackTransaction
  | skipMissingCommitEvidence
  | skipNonRedoRecord
deriving DecidableEq

structure RedoRecordPlan where
  lsn : Lsn
  kind : WalRecordKind
  transactionId : Option TransactionId
  transactionState : Option DurableTransactionState
  decision : RedoRecordDecision

def RedoRecordPlan.shouldReplay (p : RedoRecordPlan) : Bool := p.decision = .replay

structure ConceptualRedoPlan where
  startupMode : StartupMode
  mountedSnapshotId : UInt64
  redoFromLsn : Lsn
  durableLsn : Lsn
  discardIncompleteTransactions : Bool
  coverage : WalCoverageEvidence
  transactionEvidence : List DurableTransactionResume
  incompleteTransactions : List IncompleteDurableTransaction
  records : List RedoRecordPlan

open ConceptualRedoPlan

def ConceptualRedoPlan.replayLsns (p : ConceptualRedoPlan) : List Lsn :=
  (p.records.filter RedoRecordPlan.shouldReplay).map RedoRecordPlan.lsn

def findSummary (evidence : List DurableTransactionResume) (id : TransactionId) :
    Option DurableTransactionResume :=
  evidence.find? fun s => s.transactionId = id

namespace RecoveryPlan

section

variable (plan : RecoveryPlan)

def redoDecisionForRecord (r : WalRecord) (evidence : List DurableTransactionResume) :
    RedoRecordDecision :=
  if r.lsn < plan.redoFromLsn then .skipBeforeRedoStart
  else if !r.kind.isRedoRelevant then .skipNonRedoRecord
  else
    match r.transactionId with
    | none => .replay
    | some id =>
      match findSummary evidence id with
      | none => .skipMissingCommitEvidence
      | some summary =>
        match summary.state with
        | .committed => .replay
        | .rolledBack => .skipRolledBackTransaction
        | .open | .incomplete =>
          if plan.discardIncompleteTransactions then .skipIncompleteTransaction
          else .skipMissingCommitEvidence

def planRecord (evidence : List DurableTransactionResume) (r : WalRecord) : RedoRecordPlan :=
  { lsn := r.lsn
    kind := r.kind
    transactionId := r.transactionId
    transactionState := r.transactionId.bind fun id =>
      (findSummary evidence id).map DurableTransactionResume.state
    decision := plan.redoDecisionForRecord r evidence }

def redoPlan (durable : List WalRecord) (coverage : WalCoverageEvidence) : ConceptualRedoPlan :=
  let evidence := summarizeTransactionsFromRecords durable
  { startupMode := plan.startupMode
    mountedSnapshotId := plan.mountedSnapshotId
    redoFromLsn := plan.redoFromLsn
    durableLsn := (durable.map lsn).foldl max 0
    discardIncompleteTransactions := plan.discardIncompleteTransactions
    coverage
    transactionEvidence := evidence
    incompleteTransactions := (evidence.filter DurableTransactionResume.isIncomplete).map fun s =>
      ⟨s.transactionId, s.firstLsn, s.lastLsn, s.recordCount⟩
    records := durable.map (plan.planRecord evidence) }

def buildRedoPlan (durable : List WalRecord) : Result ConceptualRedoPlan := do
  forM durable validate
  let coverage ← validateWalCoverage plan.redoFromLsn durable
  pure (plan.redoPlan durable coverage)

end

variable {μ : Type} [RecoveryManifestView μ]

def fromManifest (manifest : μ) (startupMode : StartupMode) : Result RecoveryPlan := do
  validateRecoveryManifest manifest
  pure
    { startupMode
      mountedSnapshotId := RecoveryManifestView.mountedSnapshotId manifest
      redoFromLsn := requiredWalStartLsn manifest
      discardIncompleteTransactions := true }

def fromManifestAndWal (manifest : μ) (startupMode : StartupMode) (durable : List WalRecord) :
    Result ConceptualRedoPlan := do
  validateRecoveryStorageFormats manifest startupMode
  let plan ← fromManifest manifest startupMode
  plan.buildRedoPlan durable

end RecoveryPlan

open RecoveryPlan

/-! ## What is replayed -/

/-- A record is replayed: at or above the redo start, redo relevant, and committed if
it belongs to a transaction. -/
@[mk_iff shouldReplay_def]
structure ShouldReplay (redoFrom : Lsn) (durable : List WalRecord) (r : WalRecord) : Prop where
  inRange : redoFrom ≤ r.lsn
  redoRelevant : r.kind.isRedoRelevant = true
  committed : ∀ id, r.transactionId = some id → Committed durable id

variable {durable records : List WalRecord} {r : WalRecord} {id : TransactionId}
  {plan : RecoveryPlan} {l : Lsn} {p : WalRecord → Bool}

instance (redoFrom : Lsn) (durable : List WalRecord) (r : WalRecord) :
    Decidable (ShouldReplay redoFrom durable r) :=
  decidable_of_iff (_ ∧ _ ∧ ∀ id ∈ r.transactionId, _) (shouldReplay_def redoFrom durable r).symm

theorem findSummary_committed :
    (∃ s, findSummary (summarizeTransactionsFromRecords durable) id = some s ∧
      s.state = .committed) ↔ Committed durable id := by
  rw [findSummary, find_summary]
  constructor
  · rintro ⟨s, hs, hstate⟩
    exact (summarizeTransaction_state hs).2.mp hstate
  · intro hcommitted
    cases hs : summarizeTransaction id durable with
    | some s => exact ⟨s, rfl, (summarizeTransaction_state hs).2.mpr hcommitted⟩
    | none =>
      obtain ⟨r, hr, htx, -⟩ := hcommitted.begun
      exact absurd htx (summarizeTransaction_eq_none.mp hs r hr)

theorem redoDecisionForRecord_eq_replay :
    plan.redoDecisionForRecord r (summarizeTransactionsFromRecords durable) = .replay ↔
      ShouldReplay plan.redoFromLsn durable r := by
  rw [shouldReplay_def, redoDecisionForRecord]
  by_cases hrange : r.lsn < plan.redoFromLsn
  · simp [hrange, UInt64.not_le.mpr hrange]
  rw [if_neg hrange]
  have hle := UInt64.not_lt.mp hrange
  cases hkind : r.kind.isRedoRelevant with
  | false => simp
  | true =>
    cases htx : r.transactionId with
    | none => simp [hle]
    | some id =>
      simp only [Bool.not_true, Bool.false_eq_true, if_false, hle, true_and,
        Option.some.injEq, forall_eq']
      rw [← findSummary_committed]
      cases hs : findSummary (summarizeTransactionsFromRecords durable) id with
      | none => simp
      | some s => cases hstate : s.state <;> simp [hstate] <;> split <;> simp

theorem buildRedoPlan_eq_ok {p : ConceptualRedoPlan} :
    plan.buildRedoPlan durable = .ok p ↔ (∀ r ∈ durable, r.Valid) ∧
      ∃ e, validateWalCoverage plan.redoFromLsn durable = .ok e ∧ plan.redoPlan durable e = p := by
  simp only [buildRedoPlan, ok_iff, forM_eq_ok, validate_eq_ok]

theorem replayLsns_redoPlan (plan : RecoveryPlan) (durable : List WalRecord)
    (e : WalCoverageEvidence) : (plan.redoPlan durable e).replayLsns =
      (durable.filter fun r => ShouldReplay plan.redoFromLsn durable r).map lsn := by
  have hdecision : RedoRecordPlan.shouldReplay ∘
      plan.planRecord (summarizeTransactionsFromRecords durable) =
      fun r => decide (ShouldReplay plan.redoFromLsn durable r) := by
    funext r
    simp [Function.comp, RedoRecordPlan.shouldReplay, planRecord, redoDecisionForRecord_eq_replay]
  simp only [replayLsns, redoPlan, filter_map, hdecision, map_map]
  rfl

/-! ## Truncated logs

Coverage looks at the records from the redo start on, the transaction table at the
whole log. A transaction that straddles the start is judged by records a truncated
log no longer has. -/

theorem redoRange_idem (l : Lsn) (records : List WalRecord) :
    redoRange l (redoRange l records) = redoRange l records := by
  simp [redoRange]

theorem filter_redoRange (h : ∀ r, p r = true → l ≤ r.lsn) :
    (redoRange l records).filter p = records.filter p := by
  rw [redoRange, filter_filter]
  apply filter_congr
  intro r _
  rw [Bool.and_eq_left_iff_imp]
  exact fun hp => decide_eq_true (h r hp)

theorem HasRecord.of_redoRange {kind : WalRecordKind}
    (h : HasRecord (redoRange l records) id kind) : HasRecord records id kind := by
  obtain ⟨r, hr, htx, hkind⟩ := h
  exact ⟨r, mem_of_mem_filter hr, htx, hkind⟩

/-- The records at or above `l` alone settle the transaction the way the whole log
does: a committed transaction begins and commits there, and one that seems committed
there was not rolled back below. -/
structure SettledAbove (l : Lsn) (records : List WalRecord) (id : TransactionId) : Prop where
  evidence : Committed records id →
    HasRecord (redoRange l records) id .txBegin ∧ HasRecord (redoRange l records) id .txCommit
  noEarlierRollback : HasRecord (redoRange l records) id .txBegin →
    HasRecord (redoRange l records) id .txCommit →
    ¬ HasRecord (redoRange l records) id .txRollback → ¬ HasRecord records id .txRollback

theorem settledAbove_iff : SettledAbove l records id ↔
      (Committed records id ↔ Committed (redoRange l records) id) := by
  constructor
  · intro h
    constructor
    · intro hwhole
      obtain ⟨hbegin, hcommit⟩ := h.evidence hwhole
      exact ⟨hbegin, hcommit, fun hrollback => hwhole.notRolledBack hrollback.of_redoRange⟩
    · intro hcut
      exact ⟨hcut.begun.of_redoRange, hcut.committed.of_redoRange,
        h.noEarlierRollback hcut.begun hcut.committed hcut.notRolledBack⟩
  · intro h
    constructor
    · intro hwhole
      exact ⟨(h.mp hwhole).begun, (h.mp hwhole).committed⟩
    · intro hbegin hcommit hrollback
      exact (h.mpr ⟨hbegin, hcommit, hrollback⟩).notRolledBack

theorem map_lsn_filter_inj (hinc : Increasing records) {q : WalRecord → Bool} :
    (records.filter p).map lsn = (records.filter q).map lsn ↔ ∀ r ∈ records, p r = q r := by
  constructor
  · intro heq r hr
    have hmem : ∀ {f g : WalRecord → Bool},
        (records.filter f).map lsn = (records.filter g).map lsn →
        f r = true → g r = true := by
      intro f g hfg hf
      have hin : r.lsn ∈ (records.filter g).map lsn := by
        rw [← hfg]
        exact mem_map_of_mem (mem_filter.mpr ⟨hr, hf⟩)
      obtain ⟨r', hr', hlsn⟩ := mem_map.mp hin
      obtain ⟨hr'mem, hg⟩ := mem_filter.mp hr'
      rwa [hinc.eq_of_lsn_eq hr'mem hr hlsn] at hg
    exact Bool.eq_iff_iff.mpr ⟨hmem heq, hmem heq.symm⟩
  · intro h
    rw [filter_congr h]

/-- Planning from the records at or above the redo start alone replays the records
planning from the whole log replays exactly when no transaction with work to redo is
settled by a record below the start. -/
theorem truncated_replayLsns_eq_iff (plan : RecoveryPlan) (durable : List WalRecord)
    (hvalid : ∀ r ∈ durable, r.Valid) (hgap : GapFree durable)
    (hcovered : ∃ e, validateWalCoverage plan.redoFromLsn
      (redoRange plan.redoFromLsn durable) = .ok e) :
    ∃ whole truncated, plan.buildRedoPlan durable = .ok whole ∧
      plan.buildRedoPlan (redoRange plan.redoFromLsn durable) = .ok truncated ∧
      (whole.replayLsns = truncated.replayLsns ↔
        ∀ r ∈ durable, plan.redoFromLsn ≤ r.lsn → r.kind.isRedoRelevant = true →
          ∀ id, r.transactionId = some id → SettledAbove plan.redoFromLsn durable id) := by
  have hwhole : ∃ e, validateWalCoverage plan.redoFromLsn durable = .ok e := by
    rw [covered_iff, redoRange_idem] at hcovered
    rwa [covered_iff]
  obtain ⟨e, he⟩ := hwhole
  obtain ⟨e', he'⟩ := hcovered
  refine ⟨_, _, buildRedoPlan_eq_ok.mpr ⟨hvalid, e, he, rfl⟩,
    buildRedoPlan_eq_ok.mpr ⟨fun r hr => hvalid r (mem_of_mem_filter hr), e', he', rfl⟩, ?_⟩
  -- the truncated plan selects from the whole log, by the table of the truncated one
  have hrange : ∀ r, decide (ShouldReplay plan.redoFromLsn
      (redoRange plan.redoFromLsn durable) r) = true → plan.redoFromLsn ≤ r.lsn :=
    fun r hr => (of_decide_eq_true hr).inRange
  rw [replayLsns_redoPlan, replayLsns_redoPlan, filter_redoRange hrange,
    map_lsn_filter_inj hgap.increasing]
  apply forall₂_congr
  intro r _
  rw [decide_eq_decide, shouldReplay_def, shouldReplay_def]
  simp only [settledAbove_iff]
  cases htx : r.transactionId with
  | none => simp
  | some id =>
    simp only [Option.some.injEq, forall_eq']
    tauto

def safeStartFrom (redoFrom : Lsn) : RecoveryPlan :=
  { startupMode := .safeStart
    mountedSnapshotId := 9
    redoFromLsn := redoFrom
    discardIncompleteTransactions := true }

/-- Transaction 44 begins at LSN 1, inserts at LSN 2 and commits at LSN 3. -/
def straddlingLog : List WalRecord :=
  [.sealed .txBegin 1 none (some 44) [], .sealed .rowInsert 2 (some 1) (some 44) [],
    .sealed .txCommit 3 (some 2) (some 44) []]

/-- Cut at LSN 2, the log still passes the coverage check, and the insert of a
committed transaction is no longer replayed. -/
theorem truncation_drops_committed_record : (∀ r ∈ straddlingLog, r.Valid) ∧ GapFree straddlingLog ∧
    (∃ r ∈ straddlingLog, r.lsn = 2) ∧
    (∃ e, validateWalCoverage 2 (redoRange 2 straddlingLog) = .ok e) ∧
    ((safeStartFrom 2).buildRedoPlan straddlingLog).map replayLsns = .ok [2] ∧
    ((safeStartFrom 2).buildRedoPlan (redoRange 2 straddlingLog)).map replayLsns = .ok [] := by
  refine ⟨by decide +kernel, by decide +kernel, by decide +kernel,
    ⟨⟨2, some 2, some 3, 2⟩, by decide +kernel⟩, by decide +kernel, by decide +kernel⟩

/-- A transaction that lies above the cut is replayed from either log. -/
def settledLog : List WalRecord :=
  [.sealed .securityAuditAppend 1 none none [], .sealed .txBegin 2 (some 1) (some 44) [],
    .sealed .rowInsert 3 (some 2) (some 44) [], .sealed .txCommit 4 (some 3) (some 44) []]

theorem truncation_keeps_settled_record :
    ∃ whole truncated, (safeStartFrom 2).buildRedoPlan settledLog = .ok whole ∧
      (safeStartFrom 2).buildRedoPlan (redoRange 2 settledLog) = .ok truncated ∧
      whole.replayLsns = truncated.replayLsns := by
  obtain ⟨whole, truncated, hwhole, htruncated, hiff⟩ :=
    truncated_replayLsns_eq_iff (safeStartFrom 2) settledLog (by decide +kernel)
      (by decide +kernel) ⟨⟨2, some 2, some 4, 3⟩, by decide +kernel⟩
  refine ⟨whole, truncated, hwhole, htruncated, hiff.mpr ?_⟩
  have hsettled : SettledAbove 2 settledLog 44 := by
    rw [settledAbove_iff]
    decide +kernel
  have hids : ∀ r ∈ settledLog, r.transactionId = none ∨ r.transactionId = some 44 := by
    decide +kernel
  intro r hr _ _ id hid
  rcases hids r hr with hnone | hsome
  · rw [hnone] at hid
    cases hid
  · rw [hsome] at hid
    cases hid
    exact hsettled

end Andromeda
