import Andromeda.Lib.Effect
import Andromeda.Lib.KeyedUpdates
import Andromeda.Recovery.Planning
import Andromeda.Recovery.ReplayContext

/-!
# The redo driver

The generic replay loop. It walks a redo plan in LSN order, looks each planned
record up in the durable log, checks it against the plan and hands it to an adapter;
the adapter may mark an error as an explicit deferral, which the loop passes over.
Run on a plan made from the same log, the loop hands the adapter exactly the records
that `ShouldReplay`, in log order.
-/

namespace Andromeda

open Fallible Effect Function List KeyedUpdates

/-- What the driver needs of a replay target. -/
class RecoveryReplayTarget (σ : Type) where
  appliedCount : σ → Nat
  skippedCount : σ → Nat
  errorRecords : σ → List ReplayResult
  indexRebuildRequired : σ → List IndexRebuildRequiredEvidence
  observeCheckpointEnd : σ → Lsn → σ
  requireManifestSwitchCheckpointEvidence : σ → σ

/-- `RecoveryWalReplayAdapter`; a state of its own is part of `σ`. -/
structure RecoveryWalReplayAdapter (σ : Type) where
  replayRecord : WalRecord → Effect σ Error Unit
  isExplicitDeferredReplayError : σ → WalRecord → Bool

structure WalReplayReport where
  startupMode : StartupMode
  replayStartLsn : Lsn
  replayEndLsn : Option Lsn
  totalRecords : Nat
  appliedCount : Nat
  handlerSkippedCount : Nat
  planSkippedCount : Nat
  notYetImplementedCount : Nat
  indexRebuildRequiredCount : Nat
  indexRebuildRequired : List IndexRebuildRequiredEvidence
  incompleteTransactionCount : Nat
  committedTransactionCount : Nat
  hasReplayErrors : Bool

def validatePlannedReplayRecord (redo : RedoRecordPlan) (record : WalRecord) : Result Unit := do
  failIf (record.kind ≠ redo.kind) (storageError
    s!"redo plan LSN {redo.lsn} expects {redo.kind.debugName} but durable WAL contains {record.kind.debugName}")
  failIf (record.transactionId ≠ redo.transactionId) (storageError
    s!"redo plan LSN {redo.lsn} transaction evidence does not match durable WAL")
  match record.transactionId, redo.transactionState with
  | some _, some .committed => .ok ()
  | some _, some state => .error (storageError
      s!"redo plan attempted to replay non-committed transaction record at LSN {redo.lsn}: state={state.debugName}")
  | some _, none => .error (storageError
      s!"redo plan attempted to replay transaction record at LSN {redo.lsn} without commit evidence")
  | none, _ => .ok ()

section Driver

variable {σ : Type} [RecoveryReplayTarget σ]

open RecoveryReplayTarget

abbrev ReplayIndex := Lsn → Option WalRecord

/-- The checkpoint marker the index pass reports to the target. -/
def observeRecord (record : WalRecord) (target : σ) : σ :=
  if record.kind = .checkpointEnd then observeCheckpointEnd target record.lsn else target

def buildReplayIndex : List WalRecord → ReplayIndex → Effect σ Error ReplayIndex
  | [], byLsn => pure byLsn
  | record :: records, byLsn => do
    lift record.validate
    modify (observeRecord record)
    lift (failIf (byLsn record.lsn ≠ none)
      (storageError s!"durable WAL replay input contains duplicate LSN {record.lsn}"))
    buildReplayIndex records (Function.update byLsn record.lsn (some record))

structure ReplaySession (σ : Type) where
  target : σ
  planSkippedCount : Nat
  replayEndLsn : Option Lsn
  previousPlanLsn : Option Lsn

def checkPlanOrder (previousPlanLsn : Option Lsn) (currentLsn : Lsn) : Result Unit :=
  match previousPlanLsn with
  | some previous => failIf (currentLsn ≤ previous) (storageError
      s!"redo plan records must be strictly ordered by LSN: previous={previous}, current={currentLsn}")
  | none => .ok ()

def validateNextPlanLsn (currentLsn : Lsn) : Effect (ReplaySession σ) Error Unit := do
  let session ← get
  lift (checkPlanOrder session.previousPlanLsn currentLsn)
  modify fun session => { session with previousPlanLsn := some currentLsn }

section

variable (adapter : RecoveryWalReplayAdapter σ)

/-- One record through the adapter; an explicit deferral is passed over. -/
def handleRecord (record : WalRecord) : Effect σ Error Unit := fun target =>
  match adapter.replayRecord record target with
  | (.ok (), target) => (.ok (), target)
  | (.error e, target) =>
    if adapter.isExplicitDeferredReplayError target record then (.ok (), target)
    else (.error e, target)

def handleInSession (record : WalRecord) : Effect (ReplaySession σ) Error Unit := fun session =>
  match handleRecord adapter record session.target with
  | (.ok (), target) => (.ok (),
      { session with
        target
        replayEndLsn :=
          if appliedCount target > appliedCount session.target then some record.lsn
          else session.replayEndLsn })
  | (.error e, target) => (.error e, { session with target })

def replayPlannedRecord (byLsn : ReplayIndex) (redo : RedoRecordPlan) :
    Effect (ReplaySession σ) Error Unit := do
  let record ← lift (orError (byLsn redo.lsn) (storageError
    s!"redo plan references LSN {redo.lsn} but the durable WAL input does not contain it"))
  lift (validatePlannedReplayRecord redo record)
  handleInSession adapter record

def executePlanRecord (byLsn : ReplayIndex) (redo : RedoRecordPlan) :
    Effect (ReplaySession σ) Error Unit := do
  validateNextPlanLsn redo.lsn
  if redo.decision = .replay then replayPlannedRecord adapter byLsn redo
  else modify fun session =>
    { session with planSkippedCount := session.planSkippedCount + 1 }

def executePlan (byLsn : ReplayIndex) (records : List RedoRecordPlan) :
    Effect σ Error (ReplaySession σ) := fun target =>
  match each (executePlanRecord adapter byLsn) records ⟨target, 0, none, none⟩ with
  | (.ok (), session) => (.ok session, session.target)
  | (.error e, session) => (.error e, session.target)

end

def replayReport (plan : ConceptualRedoPlan) (baseline : σ) (session : ReplaySession σ) :
    WalReplayReport :=
  let evidence := (indexRebuildRequired session.target).drop (indexRebuildRequired baseline).length
  { startupMode := plan.startupMode
    replayStartLsn := plan.redoFromLsn
    replayEndLsn := session.replayEndLsn
    totalRecords := plan.records.length
    appliedCount := appliedCount session.target - appliedCount baseline
    handlerSkippedCount := skippedCount session.target - skippedCount baseline
    planSkippedCount := session.planSkippedCount
    notYetImplementedCount := (errorRecords session.target).length - (errorRecords baseline).length
    indexRebuildRequiredCount := evidence.length
    indexRebuildRequired := evidence
    incompleteTransactionCount := plan.incompleteTransactions.length
    committedTransactionCount := plan.transactionEvidence.countP fun t => t.commitLsn.isSome
    hasReplayErrors := decide ((errorRecords session.target).length > (errorRecords baseline).length) }

def executeRedoPlanWithAdapter (plan : ConceptualRedoPlan) (durable : List WalRecord)
    (adapter : RecoveryWalReplayAdapter σ) : Effect σ Error WalReplayReport := do
  let baseline ← get
  let byLsn ← buildReplayIndex durable fun _ => none
  modify requireManifestSwitchCheckpointEvidence
  let session ← executePlan adapter byLsn plan.records
  pure (replayReport plan baseline session)

/-! ## What the loop does -/

/-- The target after the index pass has shown it every checkpoint marker. -/
def observeAll (records : List WalRecord) (target : σ) : σ :=
  records.foldl (fun t r => observeRecord r t) target

theorem buildReplayIndex_of_increasing {records : List WalRecord} (byLsn : ReplayIndex)
    (hvalid : ∀ r ∈ records, r.Valid) (hinc : Increasing records)
    (hfree : ∀ r ∈ records, byLsn r.lsn = none) (target : σ) :
    ∃ byLsn', buildReplayIndex records byLsn target = (.ok byLsn', observeAll records target) ∧
      (∀ r ∈ records, byLsn' r.lsn = some r) ∧
      ∀ l, (∀ r ∈ records, r.lsn ≠ l) → byLsn' l = byLsn l := by
  induction records generalizing byLsn target with
  | nil => exact ⟨byLsn, rfl, by simp, fun _ _ => rfl⟩
  | cons r rs ih =>
    have hne : ∀ r' ∈ rs, r'.lsn ≠ r.lsn :=
      fun r' hr' => (UInt64.ne_of_lt ((pairwise_cons.mp hinc).1 r' hr')).symm
    obtain ⟨hr, hvalid⟩ := forall_mem_cons.mp hvalid
    obtain ⟨hfirst, hfree⟩ := forall_mem_cons.mp hfree
    have hvalidate : r.validate = .ok () := r.validate_eq_ok.mpr hr
    obtain ⟨byLsn', hrun, hmem, hother⟩ :=
      ih (Function.update byLsn r.lsn (some r))
        hvalid (pairwise_cons.mp hinc).2
        (fun r' hr' => update_some_eq_none_iff.mpr ⟨hne r' hr', hfree r' hr'⟩)
        (observeRecord r target)
    refine ⟨byLsn', ?_, ?_, ?_⟩
    · rw [buildReplayIndex, hvalidate, lift_ok_bind, modify_bind,
        failIf_bind (not_not.mpr hfirst)]
      exact hrun
    · exact forall_mem_cons.mpr ⟨by rw [hother r.lsn hne, update_self], hmem⟩
    · intro l hl
      obtain ⟨hlr, hl⟩ := forall_mem_cons.mp hl
      rw [hother l hl, update_of_ne hlr.symm]

variable {r : WalRecord} {redo : RedoRecordPlan} {planned : List RedoRecordPlan}
  {replayed : List WalRecord} {skipped : Nat}

theorem validatePlannedReplayRecord_planRecord {plan : RecoveryPlan} {durable : List WalRecord}
    (h : ShouldReplay plan.redoFromLsn durable r) : validatePlannedReplayRecord
      (plan.planRecord (summarizeTransactionsFromRecords durable) r) r = .ok () := by
  simp only [validatePlannedReplayRecord, RecoveryPlan.planRecord, ok_iff, ne_eq, not_true_eq_false,
    not_false_eq_true, true_and]
  cases htx : r.transactionId with
  | none => rfl
  | some id =>
    obtain ⟨s, hs, hstate⟩ := findSummary_committed.mpr (h.committed id htx)
    simp [hs, hstate]

omit [RecoveryReplayTarget σ] in
theorem validateNextPlanLsn_of_lt {lsn : Lsn} {session : ReplaySession σ}
    (h : ∀ previous ∈ session.previousPlanLsn, previous < lsn) :
    validateNextPlanLsn lsn session = (.ok (), { session with previousPlanLsn := some lsn }) := by
  have horder : checkPlanOrder session.previousPlanLsn lsn = .ok () := by
    unfold checkPlanOrder
    cases hprevious : session.previousPlanLsn with
    | none => rfl
    | some previous =>
      rw [failIf_eq_ok, UInt64.not_le]
      exact h previous hprevious
  rw [validateNextPlanLsn, get_bind, horder, lift_ok_bind]
  rfl

variable {adapter : RecoveryWalReplayAdapter σ} {byLsn : ReplayIndex}
  {session session' : ReplaySession σ}

theorem executePlanRecord_skip (hdecision : redo.decision ≠ .replay)
    (hlt : ∀ previous ∈ session.previousPlanLsn, previous < redo.lsn) :
    executePlanRecord adapter byLsn redo session =
      (.ok (), { session with
        previousPlanLsn := some redo.lsn
        planSkippedCount := session.planSkippedCount + 1 }) := by
  rw [executePlanRecord, bind_of_ok (validateNextPlanLsn_of_lt hlt), if_neg hdecision]
  rfl

theorem executePlanRecord_replay (hdecision : redo.decision = .replay)
    (hindex : byLsn redo.lsn = some r) (hplanned : validatePlannedReplayRecord redo r = .ok ())
    (hlt : ∀ previous ∈ session.previousPlanLsn, previous < redo.lsn) :
    executePlanRecord adapter byLsn redo session =
      handleInSession adapter r { session with previousPlanLsn := some redo.lsn } := by
  rw [executePlanRecord, bind_of_ok (validateNextPlanLsn_of_lt hlt), if_pos hdecision,
    replayPlannedRecord, hindex, orError_some, lift_ok_bind, hplanned,
    lift_ok_bind]

variable {target : σ}

theorem handleInSession_of_ok (session : ReplaySession σ)
    (h : handleRecord adapter r session.target = (.ok (), target)) :
    ∃ endLsn, handleInSession adapter r session =
      (.ok (), { session with target, replayEndLsn := endLsn }) := by
  rw [handleInSession, h]
  exact ⟨_, rfl⟩

/-- How a run of the loop over planned records compares with a run of the adapter over
the records to replay. -/
structure LoopMatches (adapter : RecoveryWalReplayAdapter σ) (byLsn : ReplayIndex)
    (planned : List RedoRecordPlan) (replayed : List WalRecord) (skipped : Nat)
    (session : ReplaySession σ) : Prop where
  ok : ∀ target, each (handleRecord adapter) replayed session.target = (.ok (), target) →
    ∃ endLsn last, each (executePlanRecord adapter byLsn) planned session =
      (.ok (), ⟨target, session.planSkippedCount + skipped, endLsn, last⟩)
  error : ∀ e target, each (handleRecord adapter) replayed session.target = (.error e, target) →
    ∃ session', each (executePlanRecord adapter byLsn) planned session =
      (.error e, session') ∧ session'.target = target

theorem LoopMatches.skip (hstep : executePlanRecord adapter byLsn redo session = (.ok (), session'))
    (htarget : session'.target = session.target)
    (hcount : session'.planSkippedCount = session.planSkippedCount + 1)
    (hrest : LoopMatches adapter byLsn planned replayed skipped session') :
    LoopMatches adapter byLsn (redo :: planned) replayed (skipped + 1) session := by
  constructor
  · intro target hrun
    obtain ⟨endLsn, last, hloop⟩ := hrest.ok target (by rw [htarget, hrun])
    refine ⟨endLsn, last, ?_⟩
    have hsum : session'.planSkippedCount + skipped =
        session.planSkippedCount + (skipped + 1) := by omega
    rw [each_cons, bind_of_ok hstep, hloop, hsum]
  · intro e target hrun
    obtain ⟨final, hloop, hfinal⟩ := hrest.error e target (by rw [htarget, hrun])
    refine ⟨final, ?_, hfinal⟩
    rw [each_cons, bind_of_ok hstep, hloop]

theorem LoopMatches.replay (hstep : executePlanRecord adapter byLsn redo session =
      handleInSession adapter r { session with previousPlanLsn := some redo.lsn })
    (hrest : ∀ target endLsn, LoopMatches adapter byLsn planned replayed skipped
      ⟨target, session.planSkippedCount, endLsn, some redo.lsn⟩) :
    LoopMatches adapter byLsn (redo :: planned) (r :: replayed) skipped session := by
  constructor
  · intro target hrun
    obtain ⟨middle, hr, hrun⟩ := each_cons_eq_ok.mp hrun
    obtain ⟨endLsn, hsession⟩ :=
      handleInSession_of_ok { session with previousPlanLsn := some redo.lsn } hr
    obtain ⟨endLsn', last, hloop⟩ := (hrest middle endLsn).ok target hrun
    refine ⟨endLsn', last, ?_⟩
    rw [each_cons, bind_of_ok (hstep.trans hsession), hloop]
  · intro e target hrun
    rcases hr : handleRecord adapter r session.target with ⟨result, middle⟩
    cases result with
    | error e' =>
      rw [each_cons, bind_of_error hr] at hrun
      obtain ⟨he, htarget⟩ := Prod.mk.inj hrun
      have hsession : handleInSession adapter r
          { session with previousPlanLsn := some redo.lsn } =
            (.error e', { session with target := middle, previousPlanLsn := some redo.lsn }) := by
        rw [handleInSession, hr]
      refine ⟨{ session with target := middle, previousPlanLsn := some redo.lsn }, ?_, htarget⟩
      rw [each_cons, bind_of_error (hstep.trans hsession), he]
    | ok u =>
      rw [each_cons, bind_of_ok hr] at hrun
      obtain ⟨endLsn, hsession⟩ :=
        handleInSession_of_ok { session with previousPlanLsn := some redo.lsn } hr
      obtain ⟨final, hloop, hfinal⟩ := (hrest middle endLsn).error e target hrun
      refine ⟨final, ?_, hfinal⟩
      rw [each_cons, bind_of_ok (hstep.trans hsession), hloop]

def replayedRecords (redoFrom : Lsn) (durable : List WalRecord) : List WalRecord :=
  durable.filter fun r => ShouldReplay redoFrom durable r

def preparedTarget (durable : List WalRecord) (target : σ) : σ :=
  requireManifestSwitchCheckpointEvidence (observeAll durable target)

theorem loopMatches_planned (adapter : RecoveryWalReplayAdapter σ) (plan : RecoveryPlan)
    (durable : List WalRecord) (session : ReplaySession σ) {rs : List WalRecord}
    (hinc : Increasing rs) (hindex : ∀ r ∈ rs, byLsn r.lsn = some r)
    (hprevious : ∀ previous ∈ session.previousPlanLsn, ∀ r ∈ rs, previous < r.lsn) :
    LoopMatches adapter byLsn (rs.map (plan.planRecord (summarizeTransactionsFromRecords durable)))
      (rs.filter fun r => ShouldReplay plan.redoFromLsn durable r)
      (rs.countP fun r => ¬ ShouldReplay plan.redoFromLsn durable r) session := by
  induction rs generalizing session with
  | nil =>
    constructor
    · intro target hrun
      cases hrun
      exact ⟨session.replayEndLsn, session.previousPlanLsn, rfl⟩
    · intro e target hrun
      cases hrun
  | cons r rs ih =>
    obtain ⟨hhead, htail⟩ := pairwise_cons.mp hinc
    have hrest : ∀ r' ∈ rs, byLsn r'.lsn = some r' :=
      (forall_mem_cons.mp hindex).2
    have hnext : ∀ previous ∈ some r.lsn, ∀ r' ∈ rs, previous < r'.lsn := by
      intro previous heq r' hr'
      cases heq
      exact hhead r' hr'
    have hlt : ∀ previous ∈ session.previousPlanLsn, previous < r.lsn :=
      fun previous hmem => hprevious previous hmem r (by simp)
    by_cases hreplay : ShouldReplay plan.redoFromLsn durable r
    · rw [map_cons, filter_cons_of_pos (by simpa using hreplay),
        countP_cons_of_neg (by simpa using hreplay)]
      apply LoopMatches.replay (executePlanRecord_replay
        (redoDecisionForRecord_eq_replay.mpr hreplay) (hindex r (by simp))
        (validatePlannedReplayRecord_planRecord hreplay) hlt)
      intro target endLsn
      exact ih _ htail hrest hnext
    · have hdecision : (plan.planRecord (summarizeTransactionsFromRecords durable) r).decision ≠
          .replay := fun h => hreplay (redoDecisionForRecord_eq_replay.mp h)
      rw [map_cons, filter_cons_of_neg (by simpa using hreplay),
        countP_cons_of_pos (by simpa using hreplay)]
      exact LoopMatches.skip (executePlanRecord_skip hdecision hlt) rfl rfl (ih _ htail hrest hnext)

section Spec

variable {plan : RecoveryPlan} {durable : List WalRecord} {coverage : WalCoverageEvidence}
  {target target' : σ}

/-- A replay ends where the loop over the records it handles ends: with the report of that loop,
or with the adapter's failure. -/
theorem executeRedoPlan_of_each (coverage : WalCoverageEvidence) {result : Result Unit}
    (hvalid : ∀ r ∈ durable, r.Valid) (hinc : Increasing durable)
    (hrun : each (handleRecord adapter) (replayedRecords plan.redoFromLsn durable)
      (preparedTarget durable target) = (result, target')) : ∃ endLsn last,
      executeRedoPlanWithAdapter (plan.redoPlan durable coverage) durable adapter target =
        (result.map fun _ => replayReport (plan.redoPlan durable coverage) target
          ⟨target', durable.countP fun r => ¬ ShouldReplay plan.redoFromLsn durable r,
            endLsn, last⟩, target') := by
  obtain ⟨byLsn, hbuild, hindex, -⟩ :=
    buildReplayIndex_of_increasing (fun _ => none) hvalid hinc (fun _ _ => rfl) target
  have hloop := loopMatches_planned adapter plan durable
    ⟨preparedTarget durable target, 0, none, none⟩ hinc hindex (by simp)
  rw [executeRedoPlanWithAdapter, get_bind, bind_of_ok hbuild, modify_bind]
  cases result with
  | ok _ =>
    obtain ⟨endLsn, last, heach⟩ := hloop.ok target' hrun
    have hplan : executePlan adapter byLsn (plan.redoPlan durable coverage).records
        (preparedTarget durable target) = (.ok ⟨target', durable.countP fun r =>
          ¬ ShouldReplay plan.redoFromLsn durable r, endLsn, last⟩, target') := by
      rw [executePlan, RecoveryPlan.redoPlan, heach, Nat.zero_add]
    exact ⟨endLsn, last, bind_of_ok hplan⟩
  | error e =>
    obtain ⟨session, heach, hsession⟩ := hloop.error e target' hrun
    have hplan : executePlan adapter byLsn (plan.redoPlan durable coverage).records
        (preparedTarget durable target) = (.error e, target') := by
      rw [executePlan, RecoveryPlan.redoPlan, heach, ← hsession]
    exact ⟨none, none, bind_of_error hplan⟩

theorem executeRedoPlan_succeeds_iff (hvalid : ∀ r ∈ durable, r.Valid) (hinc : Increasing durable) :
    (∃ report, executeRedoPlanWithAdapter (plan.redoPlan durable coverage) durable adapter target =
        (.ok report, target')) ↔
      each (handleRecord adapter) (replayedRecords plan.redoFromLsn durable)
        (preparedTarget durable target) = (.ok (), target') := by
  constructor
  · rintro ⟨report, hexecute⟩
    rcases hrun : each (handleRecord adapter) (replayedRecords plan.redoFromLsn durable)
      (preparedTarget durable target) with ⟨result, final⟩
    obtain ⟨endLsn, last, hends⟩ := executeRedoPlan_of_each coverage hvalid hinc hrun
    rw [hends] at hexecute
    cases result <;> cases hexecute
    rfl
  · intro hrun
    obtain ⟨endLsn, last, hok⟩ := executeRedoPlan_of_each coverage hvalid hinc hrun
    exact ⟨_, hok⟩

end Spec

end Driver

end Andromeda
