import Andromeda.Recovery.Driver
import Andromeda.Recovery.Handlers

/-!
# Replay of a durable log

`replay_wal_from_lsn_into_context`: the durable records are checked as a chain, the
plan is made from the manifest, and the driver runs it with the recovery-owned
adapter over a replay context.
-/

namespace Andromeda

open Fallible ReplayContext Effect Function List RecoveryPlan KeyedUpdates
open Effect hiding bind_eq_ok

/-! ## Checks on the durable records -/

def observedPrevious : Option Lsn → String
  | some lsn => toString lsn
  | none => "None"

def validateDurableReplayChain : Option Lsn → List WalRecord → Result Unit
  | _, [] => .ok ()
  | none, record :: records => do
    record.validate
    validateDurableReplayChain (some record.lsn) records
  | some previous, record :: records => do
    record.validate
    failIf (record.lsn ≤ previous) (storageError
      s!"durable WAL replay input must be strictly increasing by LSN: previous={previous}, current={record.lsn}")
    failIf (record.header.previousLsn ≠ some previous) (storageError
      s!"durable WAL replay input previous LSN chain mismatch at LSN {record.lsn}: expected previous {previous}, observed {observedPrevious record.header.previousLsn}")
    validateDurableReplayChain (some record.lsn) records

def validateBootstrapRedoBoundary (manifest : DatabaseManifest) (durable : List WalRecord) :
    Result Unit :=
  if manifest.requiredWalStartLsn ≠ 0 then .ok ()
  else do
    failIf (manifest.baseCheckpointLsn ≠ 0) (storageError
      "bootstrap ZERO redo boundary requires a ZERO base checkpoint; non-bootstrap snapshots must name a nonzero required WAL start LSN")
    failIf (∃ first ∈ durable.head?, first.lsn ≠ 1 ∨ first.header.previousLsn ≠ none) (storageError
        "bootstrap ZERO redo boundary requires durable WAL to start at LSN 1 with no previous LSN so recovery cannot skip required WAL")

def checkTerminalRecord (terminal : TransactionId → Option (WalRecordKind × Lsn))
    (record : WalRecord) (id : TransactionId) : Result Unit :=
  match terminal id with
  | some (firstKind, firstLsn) => .error (storageError
      s!"durable WAL replay input contains duplicate or conflicting terminal records for transaction {id}: first {firstKind.debugName} at LSN {firstLsn}, second {record.kind.debugName} at LSN {record.lsn}")
  | none => .ok ()

def validateConflictingTerminalRecords :
    (TransactionId → Option (WalRecordKind × Lsn)) → List WalRecord → Result Unit
  | _, [] => .ok ()
  | terminal, record :: records =>
    if record.isTransactionTerminal then do
      let id ← orError record.transactionId
        (storageError "transaction terminal WAL record requires a transaction id")
      checkTerminalRecord terminal record id
      validateConflictingTerminalRecords
        (Function.update terminal id (some (record.kind, record.lsn))) records
    else validateConflictingTerminalRecords terminal records

/-! ## The adapter over a replay context -/

instance : RecoveryReplayTarget ReplayContext where
  appliedCount := appliedCount
  skippedCount := skippedCount
  errorRecords := errorRecords
  indexRebuildRequired := indexRebuildRequired
  observeCheckpointEnd := observeCheckpointEnd
  requireManifestSwitchCheckpointEvidence := requireManifestSwitchCheckpointEvidence

def validateManifestSwitchReplayResult (ctx : ReplayContext)
    (previousManifest : Option DatabaseManifest) (traceCountBefore : Nat) : Result Unit :=
  match ctx.manifestSwitchTraces[traceCountBefore]? with
  | none => .error (storageError
      "ManifestSwitch replay produced no recovery trace; recovery cannot open without observable switch evidence")
  | some (.validationFailed lsn version reason) => .error (storageError
      s!"ManifestSwitch at LSN {lsn} for manifest version {version} failed validation: {reason}")
  | some (.applied lsn version _ base required) =>
    match previousManifest with
    | none => .ok ()
    | some previous => do
      failIf (version ≤ previous.manifestVersion) (storageError
        s!"ManifestSwitch at LSN {lsn} regresses manifest version: previous={previous.manifestVersion}, next={version}")
      failIf (base ≤ previous.baseCheckpointLsn) (storageError
        s!"ManifestSwitch at LSN {lsn} must strictly advance base checkpoint LSN: previous={previous.baseCheckpointLsn}, next={base}")
      failIf (required < previous.requiredWalStartLsn) (storageError
        s!"ManifestSwitch at LSN {lsn} regresses required WAL start LSN: previous={previous.requiredWalStartLsn}, next={required}")
      failIf (lsn ≤ previous.baseCheckpointLsn) (storageError
        s!"ManifestSwitch record LSN {lsn} must follow the previous base checkpoint LSN {previous.baseCheckpointLsn}")

def isExplicitDeferredKind (result : ReplayResult) : Bool :=
  match result.kind with
  | .pageAllocate | .pageFormat | .indexInsert | .indexDelete | .mvccVersionCreate
  | .mvccVersionClose | .mapDeltaAppend | .catalogChangeBegin | .catalogChangeApply
  | .catalogChangeCommit | .bTreeInsert | .bTreeDelete | .bTreeSplit | .bTreeMerge =>
    result.error.any fun message => containsText message "not promoted"
  | _ => false

def replayRecord (record : WalRecord) : Effect ReplayContext Error Unit := do
  let before ← get
  let _ ← replayWalRecordResult record
  let ctx ← get
  if record.kind = .manifestSwitch then
    lift (validateManifestSwitchReplayResult ctx before.activeManifest
      before.manifestSwitchTraces.length)
  else pure ()

def isExplicitDeferredReplayError (ctx : ReplayContext) (record : WalRecord) : Bool :=
  match ctx.errorRecords.getLast? with
  | none => false
  | some result => decide (result.lsn = record.lsn) && decide (result.kind = record.kind)
      && decide (result.outcome = .notYetImplemented) && isExplicitDeferredKind result

def recoveryOwnedWalReplayAdapter : RecoveryWalReplayAdapter ReplayContext where
  replayRecord := replayRecord
  isExplicitDeferredReplayError := isExplicitDeferredReplayError

def executeRedoPlanIntoContext (plan : ConceptualRedoPlan) (durable : List WalRecord) :
    Effect ReplayContext Error WalReplayReport := do
  lift (validateConflictingTerminalRecords (fun _ => none) durable)
  executeRedoPlanWithAdapter plan durable recoveryOwnedWalReplayAdapter

/-- The manifest a context starts from when it has none of its own. -/
def ReplayContext.withManifest (ctx : ReplayContext) (manifest : DatabaseManifest) :
    ReplayContext :=
  { ctx with activeManifest := some (ctx.activeManifest.getD manifest) }

def replayWalFromLsnIntoContext (manifest : DatabaseManifest) (startupMode : StartupMode)
    (durable : List WalRecord) : Effect ReplayContext Error WalReplayReport := do
  lift (validateDurableReplayChain none durable)
  lift (validateBootstrapRedoBoundary manifest durable)
  let plan ← lift (fromManifestAndWal manifest startupMode durable)
  modify fun ctx => ctx.withManifest manifest
  executeRedoPlanIntoContext plan durable

/-! ## When a replay succeeds -/

/-- The link `validate_durable_replay_chain` checks between neighbours. -/
def WalRecord.Linked (a b : WalRecord) : Prop :=
  a.lsn < b.lsn ∧ b.header.previousLsn = some a.lsn

theorem WalRecord.Follows.linked {a b : WalRecord} (h : a.Follows b) : a.Linked b :=
  ⟨h.lt, h.2⟩

variable {records rs : List WalRecord} {u : Unit} {r : WalRecord}

theorem linked_increasing (h : records.IsChain WalRecord.Linked) : Increasing records := by
  have hlt : records.IsChain fun a b => a.lsn < b.lsn := h.imp fun _ _ hab => hab.1
  exact hlt.pairwise

theorem validateDurableReplayChain_some {previous : Lsn} :
    validateDurableReplayChain (some previous) records = .ok u ↔
      (∀ r ∈ records, r.Valid) ∧ records.IsChain WalRecord.Linked ∧
        ∀ r ∈ records.head?, previous < r.lsn ∧ r.header.previousLsn = some previous := by
  induction records generalizing previous with
  | nil => simp [validateDurableReplayChain]
  | cons r rs ih =>
    rw [validateDurableReplayChain]
    simp only [ok_iff, WalRecord.validate_eq_ok, ih, UInt64.not_le, forall_mem_cons, List.head?_cons, Option.mem_def, Option.some.injEq, forall_eq', isChain_cons, WalRecord.Linked]
    tauto

theorem validateDurableReplayChain_none : validateDurableReplayChain none records = .ok u ↔
      (∀ r ∈ records, r.Valid) ∧ records.IsChain WalRecord.Linked := by
  cases records with
  | nil => simp [validateDurableReplayChain]
  | cons r rs =>
    rw [validateDurableReplayChain]
    simp only [ok_iff, WalRecord.validate_eq_ok, validateDurableReplayChain_some,
      forall_mem_cons, isChain_cons, WalRecord.Linked]
    tauto

/-- At most one terminal record per transaction, each with a transaction id. -/
@[mk_iff]
structure TerminalUnique (records : List WalRecord) : Prop where
  identified : ∀ r ∈ records, r.isTransactionTerminal = true → r.transactionId ≠ none
  distinct : (records.filter WalRecord.isTransactionTerminal).Pairwise fun a b =>
    a.transactionId ≠ b.transactionId

theorem terminalUnique_nil : TerminalUnique [] := ⟨by simp, by simp⟩

theorem terminalUnique_cons_of_terminal (hr : r.isTransactionTerminal = true) :
    TerminalUnique (r :: rs) ↔ r.transactionId ≠ none ∧ TerminalUnique rs ∧
        ∀ r' ∈ rs, r'.isTransactionTerminal = true → r'.transactionId ≠ r.transactionId := by
  simp only [terminalUnique_iff, forall_mem_cons, filter_cons_of_pos hr, pairwise_cons, mem_filter,
    hr, forall_const, and_imp]
  constructor
  · rintro ⟨⟨hid, hrest⟩, hother, hdistinct⟩
    exact ⟨hid, ⟨hrest, hdistinct⟩, fun r' hr' hterminal => (hother r' hr' hterminal).symm⟩
  · rintro ⟨hid, ⟨hrest, hdistinct⟩, hother⟩
    exact ⟨⟨hid, hrest⟩, fun r' hr' hterminal => (hother r' hr' hterminal).symm, hdistinct⟩

/-- Terminal records are accepted when no transaction has two, in the log or before it. -/
theorem validateConflictingTerminalRecords_eq_ok
    {terminal : TransactionId → Option (WalRecordKind × Lsn)} :
    validateConflictingTerminalRecords terminal records = .ok u ↔ TerminalUnique records ∧
      ∀ r ∈ records, r.isTransactionTerminal = true → ∀ id, r.transactionId = some id →
        terminal id = none := by
  induction records generalizing terminal with
  | nil => simp [validateConflictingTerminalRecords, terminalUnique_nil]
  | cons r rs ih =>
    rw [validateConflictingTerminalRecords]
    by_cases hr : r.isTransactionTerminal = true
    · rw [if_pos hr, terminalUnique_cons_of_terminal hr]
      cases hid : r.transactionId with
      | none => simp [orError]
      | some id =>
        have hcheck : checkTerminalRecord terminal r id = .ok () ↔ terminal id = none := by
          unfold checkTerminalRecord
          cases terminal id with
          | none => simp
          | some first => simp
        simp only [orError_some, ok_iff, Except.ok.injEq, exists_eq_left', hcheck, ih,
          forall_mem_cons, hr, hid, Option.some.injEq, forall_eq', forall_const, ne_eq,
          reduceCtorEq, not_false_eq_true, true_and, update_some_eq_none_iff]
        constructor
        · rintro ⟨hfree, hunique, hrest⟩
          refine ⟨⟨hunique, ?_⟩, hfree, ?_⟩
          · intro r' hr' hterminal hsame
            exact (hrest r' hr' hterminal id hsame).1 rfl
          · intro r' hr' hterminal id' hid'
            exact (hrest r' hr' hterminal id' hid').2
        · rintro ⟨⟨hunique, hother⟩, hfree, hrest⟩
          refine ⟨hfree, hunique, ?_⟩
          intro r' hr' hterminal id' hid'
          refine ⟨?_, hrest r' hr' hterminal id' hid'⟩
          rintro rfl
          exact hother r' hr' hterminal hid'
    · rw [if_neg hr, ih, terminalUnique_iff, terminalUnique_iff, forall_mem_cons,
        filter_cons_of_neg hr, and_iff_right fun hterminal => absurd hterminal hr]
      simp [hr]

/-- The checks a replay makes before it touches the context. -/
structure Replayable (manifest : DatabaseManifest) (durable : List WalRecord) : Prop where
  valid : ∀ r ∈ durable, r.Valid
  linked : durable.IsChain WalRecord.Linked
  bootstrap : validateBootstrapRedoBoundary manifest durable = .ok ()
  manifestValid : manifest.validate = .ok ()
  covered : ∃ e, validateWalCoverage manifest.requiredWalStartLsn durable = .ok e
  terminals : TerminalUnique durable

def recoveryPlanOf (manifest : DatabaseManifest) (startupMode : StartupMode) : RecoveryPlan :=
  ⟨startupMode, manifest.snapshotId, manifest.requiredWalStartLsn, true⟩

theorem fromManifestAndWal_eq_ok {manifest : DatabaseManifest} {mode : StartupMode}
    {durable : List WalRecord} {plan : ConceptualRedoPlan} :
    fromManifestAndWal manifest mode durable = .ok plan ↔
      manifest.validate = .ok () ∧ (∀ r ∈ durable, r.Valid) ∧
        ∃ e, validateWalCoverage manifest.requiredWalStartLsn durable = .ok e ∧
          (recoveryPlanOf manifest mode).redoPlan durable e = plan := by
  have hformats : RecoveryManifestView.validateRecoveryStorageFormats manifest mode = .ok () ↔
      manifest.validate = .ok () := validateRecoveryStorageFormats_eq_ok
  have hplan : ∀ p, fromManifest manifest mode = .ok p ↔
      manifest.validate = .ok () ∧ recoveryPlanOf manifest mode = p := by
    intro p
    simp only [fromManifest, ok_iff]
    rfl
  simp only [fromManifestAndWal, ok_iff, hformats, hplan]
  constructor
  · rintro ⟨hmanifest, p, ⟨-, hp⟩, hbuild⟩
    rw [← hp, buildRedoPlan_eq_ok] at hbuild
    exact ⟨hmanifest, hbuild⟩
  · intro h
    exact ⟨h.1, _, ⟨h.1, rfl⟩, buildRedoPlan_eq_ok.mpr h.2⟩

variable {manifest : DatabaseManifest} {mode : StartupMode} {durable : List WalRecord}
  {ctx ctx' : ReplayContext}

def startContext (manifest : DatabaseManifest) (durable : List WalRecord) (ctx : ReplayContext) :
    ReplayContext :=
  preparedTarget durable (ctx.withManifest manifest)

def redoRecord (record : WalRecord) : Effect ReplayContext Error Unit :=
  handleRecord recoveryOwnedWalReplayAdapter record

def observedCheckpoint (latest : Option Lsn) (record : WalRecord) : Option Lsn :=
  if record.kind = .checkpointEnd then
    match latest with
    | none => some record.lsn
    | some current => if record.lsn > current then some record.lsn else some current
  else latest

theorem observeAll_context (records : List WalRecord) (ctx : ReplayContext) :
    observeAll records ctx =
      { ctx with
        latestCheckpointEndLsn := records.foldl observedCheckpoint ctx.latestCheckpointEndLsn } := by
  induction records generalizing ctx with
  | nil => rfl
  | cons r rs ih =>
    have hstep : observeRecord r ctx =
        { ctx with
          latestCheckpointEndLsn := observedCheckpoint ctx.latestCheckpointEndLsn r } := by
      unfold observeRecord observedCheckpoint
      by_cases hkind : r.kind = .checkpointEnd
      · rw [if_pos hkind, if_pos hkind]
        show ctx.observeCheckpointEnd r.lsn = _
        unfold observeCheckpointEnd
        cases hlatest : ctx.latestCheckpointEndLsn with
        | none => rfl
        | some current =>
          dsimp only
          by_cases hgt : r.lsn > current
          · rw [if_pos hgt, if_pos hgt]
          · rw [if_neg hgt, if_neg hgt, ← hlatest]
      · rw [if_neg hkind, if_neg hkind]
    show observeAll rs (observeRecord r ctx) = _
    rw [ih, hstep]
    rfl

theorem startContext_eq (manifest : DatabaseManifest) (durable : List WalRecord)
    (ctx : ReplayContext) : startContext manifest durable ctx =
      { ctx with
        activeManifest := some (ctx.activeManifest.getD manifest)
        latestCheckpointEndLsn := durable.foldl observedCheckpoint ctx.latestCheckpointEndLsn
        requireCheckpointEndForManifestSwitch := true } := by
  rw [startContext, preparedTarget, observeAll_context]
  rfl

theorem replay_eq_execute (hlog : Replayable manifest durable) {e : WalCoverageEvidence}
    (he : validateWalCoverage manifest.requiredWalStartLsn durable = .ok e) :
    replayWalFromLsnIntoContext manifest mode durable ctx =
      executeRedoPlanWithAdapter ((recoveryPlanOf manifest mode).redoPlan durable e) durable
        recoveryOwnedWalReplayAdapter (ctx.withManifest manifest) := by
  have hchain : validateDurableReplayChain none durable = .ok () :=
    validateDurableReplayChain_none.mpr ⟨hlog.valid, hlog.linked⟩
  have hplan : fromManifestAndWal manifest mode durable = .ok _ :=
    fromManifestAndWal_eq_ok.mpr ⟨hlog.manifestValid, hlog.valid, e, he, rfl⟩
  have hterminal : validateConflictingTerminalRecords (fun _ => none) durable = .ok () :=
    validateConflictingTerminalRecords_eq_ok.mpr ⟨hlog.terminals, by simp⟩
  rw [replayWalFromLsnIntoContext, hchain, lift_ok_bind, hlog.bootstrap,
    lift_ok_bind, hplan, lift_ok_bind, modify_bind,
    executeRedoPlanIntoContext, hterminal, lift_ok_bind]

/-- A replay succeeds exactly when the log passes its checks and every record to replay
goes through the adapter. -/
theorem replay_succeeds_iff :
    (∃ report, replayWalFromLsnIntoContext manifest mode durable ctx = (.ok report, ctx')) ↔
      Replayable manifest durable ∧
        each redoRecord (replayedRecords manifest.requiredWalStartLsn durable)
          (startContext manifest durable ctx) = (.ok (), ctx') := by
  constructor
  · rintro ⟨report, hreplay⟩
    simp only [replayWalFromLsnIntoContext, executeRedoPlanIntoContext, Effect.bind_eq_ok,
      lift_apply, modify_apply, Prod.mk.injEq] at hreplay
    obtain ⟨_, _, ⟨hchain, rfl⟩, _, _, ⟨hbootstrap, rfl⟩, plan, _, ⟨hplan, rfl⟩, _, _,
      ⟨-, rfl⟩, _, _, ⟨hterminal, rfl⟩, hexecute⟩ := hreplay
    obtain ⟨hvalid, hlinked⟩ := validateDurableReplayChain_none.mp hchain
    obtain ⟨hmanifest, -, e, he, rfl⟩ := fromManifestAndWal_eq_ok.mp hplan
    refine ⟨⟨hvalid, hlinked, hbootstrap, hmanifest, ⟨e, he⟩,
      (validateConflictingTerminalRecords_eq_ok.mp hterminal).1⟩, ?_⟩
    exact (executeRedoPlan_succeeds_iff hvalid (linked_increasing hlinked)).mp ⟨report, hexecute⟩
  · rintro ⟨hlog, hrun⟩
    obtain ⟨e, he⟩ := hlog.covered
    rw [replay_eq_execute hlog he]
    exact (executeRedoPlan_succeeds_iff hlog.valid (linked_increasing hlog.linked)).mpr hrun

/-! ## Positions of a replay -/

/-- The records a replay has handled when it stands at a position of the log. -/
def handledAt (redoFrom : Lsn) (durable : List WalRecord) (position : Nat) : List WalRecord :=
  (durable.take position).filter fun r => ShouldReplay redoFrom durable r

def replayStateAt (manifest : DatabaseManifest) (durable : List WalRecord) (position : Nat) :
    ReplayContext :=
  (each redoRecord (handledAt manifest.requiredWalStartLsn durable position)
    (startContext manifest durable .new)).2

theorem replayedRecords_split (redoFrom : Lsn) (durable : List WalRecord) (position : Nat) :
    replayedRecords redoFrom durable = handledAt redoFrom durable position ++
      (durable.drop position).filter fun r => ShouldReplay redoFrom durable r := by
  rw [handledAt, ← filter_append, take_append_drop]
  rfl

theorem mem_replayedRecords {redoFrom : Lsn} : r ∈ replayedRecords redoFrom durable ↔
    r ∈ durable ∧ ShouldReplay redoFrom durable r := by
  rw [replayedRecords, mem_filter, decide_eq_true_iff]

theorem redoRelevant_replayedRecords (redoFrom : Lsn) (durable : List WalRecord) :
    ∀ r ∈ replayedRecords redoFrom durable, r.kind.isRedoRelevant = true :=
  fun _ hr => (mem_replayedRecords.mp hr).2.redoRelevant

theorem each_replayStateAt (position : Nat)
    (h : each redoRecord (replayedRecords manifest.requiredWalStartLsn durable)
      (startContext manifest durable .new) = (.ok (), ctx')) :
    each redoRecord (handledAt manifest.requiredWalStartLsn durable position)
        (startContext manifest durable .new) = (.ok (), replayStateAt manifest durable position) ∧
      each redoRecord ((durable.drop position).filter fun r =>
          ShouldReplay manifest.requiredWalStartLsn durable r)
        (replayStateAt manifest durable position) = (.ok (), ctx') := by
  rw [replayedRecords_split _ _ position] at h
  obtain ⟨mid, hfront, hback⟩ := each_append_eq_ok.mp h
  have hmid : replayStateAt manifest durable position = mid := by
    rw [replayStateAt, hfront]
  rw [hmid]
  exact ⟨hfront, hback⟩

end Andromeda
