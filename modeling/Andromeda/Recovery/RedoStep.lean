import Andromeda.Recovery.WalReplay

/-!
# One step of a replay

What handing one record to the recovery-owned adapter does to the context, kind by
kind. Row records change one heap page, manifest switches change the manifest
state, every other kind leaves both alone; and each record that gets through is
counted once.
-/

namespace Andromeda

open Fallible ReplayContext Effect ReplayOutcome

/-- A result that speaks about the record: an error outcome carries its message. -/
structure ReplayResult.Of (r : WalRecord) (result : ReplayResult) : Prop where
  lsn : result.lsn = r.lsn
  kind : result.kind = r.kind
  failure : result.outcome.isError = true →
    result.outcome = .notYetImplemented ∧ ∃ message, result.error = some message

namespace ReplayResult.Of

variable {r : WalRecord}

theorem applied : Of r (.applied r.lsn r.kind) :=
  ⟨rfl, rfl, fun h => by simp [ReplayResult.applied, isError] at h⟩

theorem skipped : Of r (.skipped r.lsn r.kind) :=
  ⟨rfl, rfl, fun h => by simp [ReplayResult.skipped, isError] at h⟩

theorem indexRebuildRequired (message : String) :
    Of r (.indexRebuildRequired r.lsn r.kind message) :=
  ⟨rfl, rfl, fun h => by simp [ReplayResult.indexRebuildRequired, isError] at h⟩

theorem failed (message : String) : Of r (.failed r.lsn r.kind message) :=
  ⟨rfl, rfl, fun _ => ⟨rfl, message, rfl⟩⟩

end ReplayResult.Of

variable {r : WalRecord} {ctx ctx' c : ReplayContext} {result : ReplayResult}

/-! ## Frames of the handlers -/

theorem replayHeapRowRecord_frame (ctx : ReplayContext) (r : WalRecord) :
    (replayHeapRowRecord ctx r r.kind).1.Of r ∧
      ∃ pages, (replayHeapRowRecord ctx r r.kind).2 = { ctx with heapRedoPages := pages } := by
  unfold replayHeapRowRecord
  split
  · exact ⟨.failed _, _, rfl⟩
  split
  · exact ⟨.failed _, _, rfl⟩
  dsimp only
  split
  · exact ⟨.failed _, _, rfl⟩
  split
  · exact ⟨.failed _, _, rfl⟩
  · exact ⟨.applied, _, rfl⟩

theorem indexRebuildHandler_frame (r : WalRecord) :
    ∃ result evidence, result.Of r ∧ ∀ ctx, indexRebuildHandler ctx r r.kind =
      (result, { ctx with indexRebuildRequired := ctx.indexRebuildRequired ++ evidence }) := by
  cases hcheck : checkIndexRecoveryPayload r r.kind with
  | error message =>
    refine ⟨.failed r.lsn r.kind message, [], .failed _, ?_⟩
    intro ctx
    simp [indexRebuildHandler, hcheck]
  | ok payload =>
    refine ⟨.indexRebuildRequired r.lsn r.kind (indexRebuildReason r.kind),
      [indexRebuildEvidence r r.kind payload], .indexRebuildRequired _, ?_⟩
    intro ctx
    simp only [indexRebuildHandler, hcheck]
    rfl

theorem replayManifestSwitch_eq_ok : replayManifestSwitch r ctx = (.ok result, c) ↔
    ∃ payload, parseManifestSwitchPayload r.payload = .ok payload ∧
      ((∃ reason, manifestSwitchRejection ctx r.lsn payload = some reason ∧
          result = .skipped r.lsn .manifestSwitch ∧
          c = ctx.pushTrace (.validationFailed r.lsn payload.manifestVersion reason)) ∨
        manifestSwitchRejection ctx r.lsn payload = none ∧
          (nextManifest ctx.activeManifest payload).validate = .ok () ∧
          result = .applied r.lsn .manifestSwitch ∧ c = ctx.installManifest r.lsn payload) := by
  cases hparse : parseManifestSwitchPayload r.payload with
  | error e => simp [replayManifestSwitch, hparse]
  | ok payload =>
    cases hreject : manifestSwitchRejection ctx r.lsn payload with
    | some reason =>
      simp [replayManifestSwitch, hparse, hreject]
      tauto
    | none =>
      cases hvalid : (nextManifest ctx.activeManifest payload).validate with
      | error e => simp [replayManifestSwitch, hparse, hreject, hvalid]
      | ok u =>
        simp [replayManifestSwitch, hparse, hreject, hvalid]
        tauto

def WalRecordKind.isRow : WalRecordKind → Bool
  | rowInsert | rowUpdate | rowDelete => true
  | _ => false

variable {k : WalRecordKind}

theorem WalRecordKind.requiresTransactionId_of_isRow (h : k.isRow = true) :
    k.requiresTransactionId = true := by
  cases k <;> first | rfl | cases h

theorem WalRecordKind.isRedoRelevant_of_isRow (h : k.isRow = true) : k.isRedoRelevant = true := by
  cases k <;> first | rfl | cases h

/-- The kinds that go neither to a heap page nor to the manifest. -/
structure WalRecordKind.IsPassive (k : WalRecordKind) : Prop where
  redoRelevant : k.isRedoRelevant = true
  not_row : k.isRow = false
  not_switch : k ≠ .manifestSwitch

theorem replayHandler_passive (hkind : r.kind.IsPassive) :
    ∃ result evidence, result.Of r ∧ ∀ ctx, replayHandler r ctx =
      (.ok result, { ctx with indexRebuildRequired := ctx.indexRebuildRequired ++ evidence }) := by
  have hsame : ∀ result : ReplayResult, result.Of r →
      (∀ ctx, replayHandler r ctx = (.ok result, ctx)) →
      ∃ result evidence, result.Of r ∧ ∀ ctx, replayHandler r ctx = (.ok result,
          { ctx with indexRebuildRequired := ctx.indexRebuildRequired ++ evidence }) := by
    intro result hof hrun
    refine ⟨result, [], hof, ?_⟩
    intro ctx
    rw [hrun ctx, List.append_nil]
  obtain ⟨indexResult, evidence, hof, hindex⟩ := indexRebuildHandler_frame r
  cases hk : r.kind with
  | rowInsert | rowUpdate | rowDelete =>
    have := hkind.not_row
    rw [hk] at this
    cases this
  | manifestSwitch => exact absurd hk hkind.not_switch
  | pageAllocate =>
    apply hsame (replayPageAllocate r)
    · rw [replayPageAllocate, pageRecordPromotionGate, ← hk]
      exact .failed _
    · intro ctx
      simp [replayHandler, hk]
  | pageFormat =>
    apply hsame (replayPageFormat r)
    · rw [replayPageFormat, pageRecordPromotionGate, ← hk]
      exact .failed _
    · intro ctx
      simp [replayHandler, hk]
  | mvccVersionCreate | mvccVersionClose | mapDeltaAppend | catalogChangeApply
  | catalogChangeCommit =>
    apply hsame (deferredHandler r r.kind) (.failed _)
    intro ctx
    simp [replayHandler, hk]
  | securityAuditAppend =>
    apply hsame (.skipped r.lsn r.kind) .skipped
    intro ctx
    simp [replayHandler, hk]
  | indexInsert | indexDelete | bTreeInsert | bTreeDelete | bTreeSplit | bTreeMerge =>
    refine ⟨indexResult, evidence, hof, ?_⟩
    intro ctx
    have := hindex ctx
    simp only [replayHandler, hk] at this ⊢
    rw [this]
  | txBegin | txCommit | txRollback | checkpointBegin | checkpointEnd | snapshotBegin
  | snapshotEnd | catalogChangeBegin =>
    have := hkind.redoRelevant
    rw [hk] at this
    cases this

/-! ## The adapter around a handler -/

theorem replayWalRecordResult_of_success (h : replayHandler r ctx = (.ok result, c))
    (houtcome : result.outcome.isError = false) :
    replayWalRecordResult r ctx = (.ok result, c.recordResult result) := by
  rw [replayWalRecordResult, bind_of_ok h, modify_bind, houtcome]
  rfl

/-- Outside manifest switches a record gets through when its handler reports no error,
or one of a kind that may be deferred. -/
theorem redoRecord_of_handler (hkind : r.kind ≠ .manifestSwitch)
    (h : replayHandler r ctx = (.ok result, c)) (hof : result.Of r) :
    redoRecord r ctx = (.ok (), ctx') ↔
      (result.outcome.isError = false ∨ isExplicitDeferredKind result = true) ∧
        c.recordResult result = ctx' := by
  cases houtcome : result.outcome.isError with
  | false =>
    have hreplay : replayRecord r ctx = (.ok (), c.recordResult result) := by
      rw [replayRecord, get_bind,
        bind_of_ok (replayWalRecordResult_of_success h houtcome), get_bind,
        if_neg hkind]
      rfl
    simp [redoRecord, handleRecord, recoveryOwnedWalReplayAdapter, hreplay]
  | true =>
    obtain ⟨hnot, message, hmessage⟩ := hof.failure houtcome
    have hreplay : replayRecord r ctx = (.error (storageError message), c.recordResult result) := by
      rw [replayRecord, get_bind]
      apply bind_of_error
      rw [replayWalRecordResult, bind_of_ok h, modify_bind, houtcome, hmessage]
      rfl
    have hlast : (c.recordResult result).errorRecords.getLast? = some result := by
      simp [recordResult, hnot]
    have hdeferred : isExplicitDeferredReplayError (c.recordResult result) r =
        isExplicitDeferredKind result := by
      simp [isExplicitDeferredReplayError, hlast, hof.lsn, hof.kind, hnot]
    simp only [redoRecord, handleRecord, recoveryOwnedWalReplayAdapter, hreplay, hdeferred]
    cases isExplicitDeferredKind result with
    | false => simp
    | true => simp

/-! ## Row records -/

theorem heapRowPayload_eq_ok {kind : WalRecordKind} {payload : HeapRowRedoPayloadV1} :
    heapRowPayload r kind = .ok payload ↔ r.Valid ∧
      HeapRowRedoPayloadV1.decode r.payload kind = .ok payload ∧
        payload.resultingPageLsn = r.lsn := by
  unfold heapRowPayload
  cases hvalidate : r.validate with
  | error e =>
    have hinvalid : ¬ r.Valid := by
      intro hvalid
      have hok : r.validate = .ok () := WalRecord.validate_eq_ok.mpr hvalid
      rw [hok] at hvalidate
      cases hvalidate
    simp [hinvalid]
  | ok u =>
    have hvalid := WalRecord.validate_eq_ok.mp hvalidate
    simp only [ok_iff, hvalid, true_and]
    constructor
    · rintro ⟨p, hdecode, hlsn, heq⟩
      rw [← heq]
      exact ⟨hdecode, hlsn⟩
    · intro h
      exact ⟨payload, h.1, h.2, rfl⟩

/-- A row record that gets through: its payload is sound, its page exists or starts with
this insert, and the row applies to it. -/
structure RowStep (r : WalRecord) (ctx : ReplayContext) (payload : HeapRowRedoPayloadV1)
    (page' : HeapRedoPageState) : Prop where
  decoded : heapRowPayload r r.kind = .ok payload
  base : payload.operation = .insert ∨ ctx.heapRedoPages payload.pageId ≠ none
  size : (ctx.heapRedoPageOrNew payload.pageId payload.pageSize).pageSize = payload.pageSize
  applied : (ctx.heapRedoPageOrNew payload.pageId payload.pageSize).applyRow payload = .ok page'

theorem setHeapRedoPage_twice (ctx : ReplayContext) (page page' : HeapRedoPageState)
    (pageId : PageId) : (ctx.setHeapRedoPage page pageId).setHeapRedoPage page' pageId =
      ctx.setHeapRedoPage page' pageId := by
  simp [setHeapRedoPage]

theorem replayHeapRowRecord_success_iff :
    (replayHeapRowRecord ctx r r.kind = (result, c) ∧ result.outcome.isError = false) ↔
      ∃ payload page', RowStep r ctx payload page' ∧ result = .applied r.lsn r.kind ∧
        c = ctx.setHeapRedoPage page' payload.pageId := by
  constructor
  · rintro ⟨hrun, houtcome⟩
    unfold replayHeapRowRecord at hrun
    split at hrun
    · cases hrun
      cases houtcome
    rename_i payload hpayload
    split at hrun
    · cases hrun
      cases houtcome
    rename_i hbase
    dsimp only at hrun
    split at hrun
    · cases hrun
      cases houtcome
    rename_i hsize
    split at hrun
    · cases hrun
      cases houtcome
    rename_i page' happly
    obtain ⟨hresult, hctx⟩ := Prod.mk.inj hrun
    refine ⟨payload, page', ⟨hpayload, ?_, not_not.mp hsize, happly⟩, hresult.symm, ?_⟩
    · by_cases hop : payload.operation = .insert
      · exact .inl hop
      · exact .inr fun hnone => hbase ⟨hop, hnone⟩
    · rw [← hctx, setHeapRedoPage_twice]
  · rintro ⟨payload, page', hstep, hresult, hctx⟩
    have hbase : ¬ (payload.operation ≠ .insert ∧ ctx.heapRedoPages payload.pageId = none) := by
      intro hboth
      rcases hstep.base with hop | hpage
      · exact hboth.1 hop
      · exact hpage hboth.2
    refine ⟨?_, by rw [hresult]; rfl⟩
    simp [replayHeapRowRecord, hstep.decoded, if_neg hbase, hstep.size, hstep.applied, setHeapRedoPage_twice, hresult, hctx]

theorem redoRecord_row (hkind : r.kind.isRow = true) :
    redoRecord r ctx = (.ok (), ctx') ↔ ∃ payload page', RowStep r ctx payload page' ∧
      ctx' = (ctx.setHeapRedoPage page' payload.pageId).recordResult (.applied r.lsn r.kind) := by
  have hswitch : r.kind ≠ .manifestSwitch := by
    intro hk
    rw [hk] at hkind
    cases hkind
  rcases hrun : replayHeapRowRecord ctx r r.kind with ⟨result, c⟩
  have hhandler : replayHandler r ctx = (.ok result, c) := by
    unfold replayHandler
    cases hk : r.kind <;> rw [hk] at hkind hrun <;> simp only [hrun] <;> cases hkind
  have hof : result.Of r := by
    have := (replayHeapRowRecord_frame ctx r).1
    rwa [hrun] at this
  have hdeferred : isExplicitDeferredKind result = false := by
    unfold isExplicitDeferredKind
    rw [hof.kind]
    cases hk : r.kind <;> rw [hk] at hkind <;> first | rfl | cases hkind
  rw [redoRecord_of_handler hswitch hhandler hof, hdeferred]
  simp only [Bool.false_eq_true, or_false]
  constructor
  · intro h
    obtain ⟨payload, page', hstep, hresult, hctx⟩ :=
      replayHeapRowRecord_success_iff.mp ⟨hrun, h.1⟩
    refine ⟨payload, page', hstep, ?_⟩
    rw [← h.2, hctx, hresult]
  · rintro ⟨payload, page', hstep, hctx⟩
    obtain ⟨hrun', houtcome⟩ :=
      replayHeapRowRecord_success_iff.mpr ⟨payload, page', hstep, rfl, rfl⟩
    rw [hrun] at hrun'
    obtain ⟨hresult, hc⟩ := Prod.mk.inj hrun'
    rw [hresult, hc, hctx]
    exact ⟨houtcome, rfl⟩

/-! ## Manifest switches -/

theorem isExplicitDeferredReplayError_switch (hkind : r.kind = .manifestSwitch)
    (ctx : ReplayContext) : isExplicitDeferredReplayError ctx r = false := by
  unfold isExplicitDeferredReplayError
  cases ctx.errorRecords.getLast? with
  | none => rfl
  | some result =>
    by_cases hsame : result.kind = r.kind
    · simp [isExplicitDeferredKind, hsame, hkind]
    · simp [hsame]

theorem replayHandler_switch (hkind : r.kind = .manifestSwitch) (ctx : ReplayContext) :
    replayHandler r ctx = replayManifestSwitch r ctx := by
  unfold replayHandler
  rw [hkind]

theorem redoRecord_switch_iff (hkind : r.kind = .manifestSwitch) :
    redoRecord r ctx = (.ok (), ctx') ↔ replayRecord r ctx = (.ok (), ctx') := by
  rcases hrun : replayRecord r ctx with ⟨_ | _, c⟩ <;>
    simp [redoRecord, handleRecord, recoveryOwnedWalReplayAdapter, hrun,
      isExplicitDeferredReplayError_switch hkind]

/-- A manifest switch that gets through. -/
structure SwitchStep (r : WalRecord) (ctx : ReplayContext) (payload : ManifestSwitchPayload) :
    Prop where
  parsed : parseManifestSwitchPayload r.payload = .ok payload
  accepted : manifestSwitchRejection ctx r.lsn payload = none
  installed : (nextManifest ctx.activeManifest payload).validate = .ok ()
  forward : ∀ previous ∈ ctx.activeManifest, previous.manifestVersion < payload.manifestVersion ∧
      previous.baseCheckpointLsn < payload.baseCheckpointLsn ∧
      previous.requiredWalStartLsn ≤ payload.requiredWalStartLsn ∧
      previous.baseCheckpointLsn < r.lsn

theorem validateManifestSwitchReplayResult_installed {payload : ManifestSwitchPayload} {u : Unit} :
    validateManifestSwitchReplayResult
        ((ctx.installManifest r.lsn payload).recordResult (.applied r.lsn .manifestSwitch))
        ctx.activeManifest ctx.manifestSwitchTraces.length = .ok u ↔
      ∀ previous ∈ ctx.activeManifest, previous.manifestVersion < payload.manifestVersion ∧
          previous.baseCheckpointLsn < payload.baseCheckpointLsn ∧
          previous.requiredWalStartLsn ≤ payload.requiredWalStartLsn ∧
          previous.baseCheckpointLsn < r.lsn := by
  have htrace : ((ctx.installManifest r.lsn payload).recordResult
      (.applied r.lsn .manifestSwitch)).manifestSwitchTraces[ctx.manifestSwitchTraces.length]? =
      some (.applied r.lsn payload.manifestVersion payload.snapshotId payload.baseCheckpointLsn
        payload.requiredWalStartLsn) := by
    simp [recordResult, ReplayResult.applied, installManifest]
  rw [validateManifestSwitchReplayResult, htrace]
  cases ctx.activeManifest with
  | none => simp
  | some previous =>
    simp

theorem redoRecord_switch (hkind : r.kind = .manifestSwitch) :
    redoRecord r ctx = (.ok (), ctx') ↔ ∃ payload, SwitchStep r ctx payload ∧
      ctx' = (ctx.installManifest r.lsn payload).recordResult (.applied r.lsn .manifestSwitch) := by
  have hhandler := replayHandler_switch hkind ctx
  rw [redoRecord_switch_iff hkind, replayRecord, get_bind, Effect.bind_eq_ok]
  simp only [get_bind, if_pos hkind, lift_apply, Prod.mk.injEq]
  constructor
  · rintro ⟨_, _, hreplay, hcheck, rfl⟩
    rw [replayWalRecordResult, Effect.bind_eq_ok] at hreplay
    obtain ⟨result, c, hrun, hrecord⟩ := hreplay
    rw [hhandler] at hrun
    obtain ⟨payload, hparse, hcase⟩ := replayManifestSwitch_eq_ok.mp hrun
    rcases hcase with ⟨reason, -, rfl, rfl⟩ | ⟨hreject, hvalid, rfl, rfl⟩ <;> cases hrecord
    · -- a refused switch leaves a failed trace, which the adapter turns into an error
      have htrace : (ctx.pushTrace (.validationFailed r.lsn payload.manifestVersion
          reason)).manifestSwitchTraces[ctx.manifestSwitchTraces.length]? =
          some (.validationFailed r.lsn payload.manifestVersion reason) := by
        simp [pushTrace]
      rw [validateManifestSwitchReplayResult, recordResult_manifestSwitchTraces, htrace] at hcheck
      cases hcheck
    · exact ⟨payload, ⟨hparse, hreject, hvalid,
        validateManifestSwitchReplayResult_installed.mp hcheck⟩, rfl⟩
  · rintro ⟨payload, hstep, rfl⟩
    have hrun : replayManifestSwitch r ctx =
        (.ok (.applied r.lsn .manifestSwitch), ctx.installManifest r.lsn payload) :=
      replayManifestSwitch_eq_ok.mpr
        ⟨payload, hstep.parsed, .inr ⟨hstep.accepted, hstep.installed, rfl, rfl⟩⟩
    exact ⟨_, _, replayWalRecordResult_of_success (hhandler.trans hrun) rfl,
      validateManifestSwitchReplayResult_installed.mpr hstep.forward, rfl⟩

/-! ## Passive records -/

theorem redoRecord_passive (hkind : r.kind.IsPassive) :
    ∃ result evidence, ∀ ctx ctx', redoRecord r ctx = (.ok (), ctx') ↔
      (result.outcome.isError = false ∨ isExplicitDeferredKind result = true) ∧
        ({ ctx with
          indexRebuildRequired := ctx.indexRebuildRequired ++ evidence }).recordResult result =
          ctx' := by
  obtain ⟨result, evidence, hof, hrun⟩ := replayHandler_passive hkind
  refine ⟨result, evidence, ?_⟩
  intro ctx ctx'
  exact redoRecord_of_handler hkind.not_switch (hrun ctx) hof

/-! ## Heap pages -/

theorem redoRecord_heapRedoPages (hredo : r.kind.isRedoRelevant = true)
    (h : redoRecord r ctx = (.ok (), ctx')) :
    (r.kind.isRow = false ∧ ctx'.heapRedoPages = ctx.heapRedoPages) ∨
      ∃ payload page', r.kind.isRow = true ∧ RowStep r ctx payload page' ∧
        ctx'.heapRedoPages = Function.update ctx.heapRedoPages payload.pageId (some page') := by
  cases hrow : r.kind.isRow with
  | true =>
    obtain ⟨payload, page', hstep, hctx⟩ := (redoRecord_row hrow).mp h
    refine .inr ⟨payload, page', rfl, hstep, ?_⟩
    rw [hctx, recordResult_heapRedoPages]
    rfl
  | false =>
    refine .inl ⟨rfl, ?_⟩
    by_cases hswitch : r.kind = .manifestSwitch
    · obtain ⟨payload, -, hctx⟩ := (redoRecord_switch hswitch).mp h
      rw [hctx, recordResult_heapRedoPages]
      rfl
    · obtain ⟨result, evidence, hpassive⟩ := redoRecord_passive ⟨hredo, hrow, hswitch⟩
      rw [← ((hpassive ctx ctx').mp h).2, recordResult_heapRedoPages]

/-! ## Counting -/

/-- `steps` records were counted between two contexts, each under one heading. -/
structure Counted (steps : Nat) (ctx ctx' : ReplayContext) : Prop where
  applied : ctx.appliedCount ≤ ctx'.appliedCount
  skipped : ctx.skippedCount ≤ ctx'.skippedCount
  errors : ctx.errorRecords.length ≤ ctx'.errorRecords.length
  total : ctx'.appliedCount + ctx'.skippedCount + ctx'.errorRecords.length =
    ctx.appliedCount + ctx.skippedCount + ctx.errorRecords.length + steps

theorem Counted.refl (ctx : ReplayContext) : Counted 0 ctx ctx :=
  ⟨Nat.le_refl _, Nat.le_refl _, Nat.le_refl _, rfl⟩

theorem Counted.trans {m n : Nat} (h : Counted m ctx c) (h' : Counted n c ctx') :
    Counted (m + n) ctx ctx' := by
  obtain ⟨happlied, hskipped, herrors, htotal⟩ := h
  obtain ⟨happlied', hskipped', herrors', htotal'⟩ := h'
  constructor <;> omega

theorem counted_recordResult (happlied : c.appliedCount = ctx.appliedCount)
    (hskipped : c.skippedCount = ctx.skippedCount) (herrors : c.errorRecords = ctx.errorRecords)
    (result : ReplayResult) : Counted 1 ctx (c.recordResult result) := by
  have hlength : c.errorRecords.length = ctx.errorRecords.length := by rw [herrors]
  unfold recordResult
  cases result.outcome with
  | applied | skipped | indexRebuildRequired => constructor <;> dsimp only <;> omega
  | notYetImplemented | deprecated =>
    constructor <;> simp only [List.length_append, List.length_singleton] <;> omega

theorem redoRecord_counted (hredo : r.kind.isRedoRelevant = true)
    (h : redoRecord r ctx = (.ok (), ctx')) : Counted 1 ctx ctx' := by
  cases hrow : r.kind.isRow with
  | true =>
    obtain ⟨payload, page', -, hctx⟩ := (redoRecord_row hrow).mp h
    rw [hctx]
    apply counted_recordResult <;> rfl
  | false =>
    by_cases hswitch : r.kind = .manifestSwitch
    · obtain ⟨payload, -, hctx⟩ := (redoRecord_switch hswitch).mp h
      rw [hctx]
      apply counted_recordResult <;> rfl
    · obtain ⟨result, evidence, hpassive⟩ := redoRecord_passive ⟨hredo, hrow, hswitch⟩
      rw [← ((hpassive ctx ctx').mp h).2]
      apply counted_recordResult <;> rfl

end Andromeda
