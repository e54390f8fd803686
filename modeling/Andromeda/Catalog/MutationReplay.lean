import Andromeda.Catalog.PayloadCodec
import Andromeda.Catalog.Snapshot

/-!
# Replaying catalog mutations

The recovery side of the catalog: durable payloads are decoded, grouped into batches between a
begin and a commit record, and each complete batch is checked and applied to a recovery target.
Everything that is skipped on the way is reported.
-/

namespace Andromeda.Catalog

open Fallible

inductive CatalogSkippedBatchReason where
  | beginSupersededByAnotherBegin
  | endOfLogBeforeCommit
  | commitBoundaryMismatch
  | missingApplyRecords
  | duplicateApplyIndex
  | sparseApplyIndexes
  | applyRecordCountMismatch
  | applyRecordLimitExceeded
  | applyRecordOrderMismatch
  | wrongCatalogIdentity
  | versionGap
  | definitionBatchHashMismatch
  | planRejected
  | replayRejected
deriving DecidableEq

inductive CatalogRecoveryAnomalyKind where
  | payloadCorruption
  | payloadMagicMismatch
  | payloadFormatVersionMismatch
  | payloadChecksumMismatch
  | wrongKindTag
  | outerStorageKindMismatch
  | commitWithoutBegin
  | applyWithoutBegin
  | beginWhileBatchOpen
  | commitBoundaryMismatch
  | wrongCatalogIdentity
  | versionGap
  | missingApplyRecords
  | duplicateApplyIndex
  | sparseApplyIndexes
  | applyRecordCountMismatch
  | applyRecordLimitExceeded
  | applyRecordOrderMismatch
  | planRejected
  | definitionBatchHashMismatch
  | replayRejected
deriving DecidableEq

structure CatalogRecoveryAnomaly where
  recordIndex : Nat
  batchId : Option DefinitionBatchId
  kind : CatalogRecoveryAnomalyKind
  detail : String

structure CatalogSkippedBatch where
  batchId : DefinitionBatchId
  previousVersion : CatalogVersion
  nextVersion : CatalogVersion
  observedApplyCount : Nat
  reason : CatalogSkippedBatchReason

structure CatalogRecoveredBatch where
  batchId : DefinitionBatchId
  previousVersion : CatalogVersion
  nextVersion : CatalogVersion
  sourceHash : DefinitionBatchSourceHash
  dependencyGraphHash : DefinitionBatchDependencyGraphHash
  appliedDeltaCount : Nat
deriving DecidableEq

def recoveryAnomalyKindForDecodeError :
    CatalogWalPayloadDecodeErrorKind → CatalogRecoveryAnomalyKind
  | .magicMismatch => .payloadMagicMismatch
  | .legacyFormatVersion | .unsupportedFormatVersion => .payloadFormatVersionMismatch
  | .checksumMismatch => .payloadChecksumMismatch
  | .unknownRecordKindTag => .wrongKindTag
  | .truncatedHeader | .bodyLengthMismatch | .bodyInvalid => .payloadCorruption

class CatalogRecoveryApplyTarget (τ : Type) where
  recoveryDatabaseId : τ → DatabaseId
  recoveryNamespaceId : τ → NamespaceId
  recoveryVisibleCatalogVersion : τ → CatalogVersion
  applyRecoveredCatalogMutation :
    CatalogMutationBoundary → List CatalogMutationDelta → Effect τ Error Unit

open CatalogRecoveryApplyTarget

structure PendingCatalogBatch where
  beginRecordIndex : Nat
  boundary : CatalogMutationBoundary
  deltas : List (Nat × CatalogMutationDelta)

def PendingCatalogBatch.skipped (batch : PendingCatalogBatch) (reason : CatalogSkippedBatchReason) :
    CatalogSkippedBatch :=
  { batchId := batch.boundary.batchId
    previousVersion := batch.boundary.previousVersion
    nextVersion := batch.boundary.nextVersion
    observedApplyCount := batch.deltas.length
    reason }

structure MutationReplay (τ : Type) where
  target : τ
  pending : Option PendingCatalogBatch
  replayedBatches : List CatalogRecoveredBatch
  skippedIncompleteBatches : List CatalogSkippedBatch
  skippedAnomalousBatches : List CatalogSkippedBatch
  anomalies : List CatalogRecoveryAnomaly

/-- Why a committed batch is not applied, and in which list it is reported. -/
structure ReplayFault where
  recordIndex : Nat
  kind : CatalogRecoveryAnomalyKind
  detail : String
  reason : CatalogSkippedBatchReason
  incomplete : Bool

/-! ## Checks on a committed batch -/

def duplicateApplyIndex (seen : List Nat) : List (Nat × CatalogMutationDelta) → Option (Nat × Nat)
  | [] => none
  | (recordIndex, delta) :: deltas =>
    if delta.operationIndex ∈ seen then some (recordIndex, delta.operationIndex)
    else duplicateApplyIndex (delta.operationIndex :: seen) deltas

/-- The first delta that does not stand at its operation index: its record index, the position
and the operation index. -/
def misplacedDelta (expectedIndex : Nat) :
    List (Nat × CatalogMutationDelta) → Option (Nat × Nat × Nat)
  | [] => none
  | (recordIndex, delta) :: deltas =>
    if delta.operationIndex ≠ expectedIndex then
      some (recordIndex, expectedIndex, delta.operationIndex)
    else misplacedDelta (expectedIndex + 1) deltas

def sortByOperationIndex (deltas : List (Nat × CatalogMutationDelta)) :
    List (Nat × CatalogMutationDelta) :=
  deltas.insertionSort fun a b => a.2.operationIndex ≤ b.2.operationIndex

def failAt {ε α : Type} (found : Option α) (fault : α → ε) : Except ε Unit :=
  match found with
  | some a => .error (fault a)
  | none => .ok ()

def definitionBatchFromRecoveredDeltas (boundary : CatalogMutationBoundary)
    (deltas : List CatalogMutationDelta) : DefinitionBatch :=
  { batchId := boundary.batchId
    databaseId := boundary.databaseId
    namespaceId := boundary.namespaceId
    baseVersion := boundary.previousVersion
    operations := deltas.map fun delta => delta.operation.toDefinition }

def validateRecoveredPlanShape (boundary : CatalogMutationBoundary)
    (deltas : List CatalogMutationDelta) : Result Unit := do
  failIf (deltas = []) (catalogError "catalog mutation plan must contain at least one delta")
  validateDeltasFrom boundary.previousVersion boundary.nextVersion 0 [] [] deltas

def saturatingSucc (version : CatalogVersion) : CatalogVersion :=
  (checkedAdd version 1).getD version

def debugVersion (version : CatalogVersion) : String :=
  "CatalogVersion(" ++ toString version.toNat ++ ")"

section Committed

variable {τ : Type} [CatalogRecoveryApplyTarget τ]

def checkRecords (batch : PendingCatalogBatch) (commitRecordIndex : Nat) :
    Except ReplayFault Unit := do
  failIf (batch.deltas = []) ⟨commitRecordIndex, .missingApplyRecords,
      "committed catalog mutation batch contains no apply records", .missingApplyRecords, true⟩
  failAt (duplicateApplyIndex [] batch.deltas) fun found =>
    ⟨found.1, .duplicateApplyIndex,
      "duplicate catalog apply operation index " ++ toString found.2, .duplicateApplyIndex, false⟩
  failIf (batch.deltas.length ≠ batch.boundary.expectedApplyCount)
    ⟨commitRecordIndex, .applyRecordCountMismatch,
      "catalog mutation batch expected " ++ toString batch.boundary.expectedApplyCount ++
        " apply records, observed " ++ toString batch.deltas.length,
      .applyRecordCountMismatch, true⟩
  failAt (misplacedDelta 0 (sortByOperationIndex batch.deltas)) fun found =>
    ⟨found.1, .sparseApplyIndexes,
      "catalog apply indexes are sparse: expected " ++ toString found.2.1 ++ ", observed " ++
        toString found.2.2, .sparseApplyIndexes, true⟩
  failAt (misplacedDelta 0 batch.deltas) fun found =>
    ⟨found.1, .applyRecordOrderMismatch,
      "catalog apply record physical order mismatch: expected operation index " ++
        toString found.2.1 ++ ", observed " ++ toString found.2.2,
      .applyRecordOrderMismatch, false⟩

def checkTarget (target : τ) (batch : PendingCatalogBatch) : Except ReplayFault Unit := do
  failIf (batch.boundary.databaseId ≠ recoveryDatabaseId target ∨
      batch.boundary.namespaceId ≠ recoveryNamespaceId target)
    ⟨batch.beginRecordIndex, .wrongCatalogIdentity,
      "catalog mutation batch targets a different recovery target identity",
      .wrongCatalogIdentity, false⟩
  failIf (batch.boundary.previousVersion ≠ recoveryVisibleCatalogVersion target)
    ⟨batch.beginRecordIndex, .versionGap,
      "catalog mutation previous version " ++ debugVersion batch.boundary.previousVersion ++
        " does not match recovered target visible version " ++
        debugVersion (recoveryVisibleCatalogVersion target), .versionGap, false⟩
  failIf (batch.boundary.nextVersion ≠ saturatingSucc batch.boundary.previousVersion)
    ⟨batch.beginRecordIndex, .versionGap,
      "catalog mutation next version " ++ debugVersion batch.boundary.nextVersion ++
        " is not the contiguous successor of previous version " ++
        debugVersion batch.boundary.previousVersion, .versionGap, false⟩

def checkRebuilt (batch : PendingCatalogBatch) (deltas : List CatalogMutationDelta) :
    Except ReplayFault Unit := do
  let rebuilt := definitionBatchFromRecoveredDeltas batch.boundary deltas
  failIf (rebuilt.sourceHash ≠ batch.boundary.sourceHash)
    ⟨batch.beginRecordIndex, .definitionBatchHashMismatch,
      "recovered DefinitionBatch source hash does not match durable boundary",
      .definitionBatchHashMismatch, false⟩
  let dependencyGraphHash ← rebuilt.dependencyGraphHash.mapError fun error =>
    (⟨batch.beginRecordIndex, .definitionBatchHashMismatch, error.message,
      .definitionBatchHashMismatch, false⟩ : ReplayFault)
  failIf (dependencyGraphHash ≠ batch.boundary.dependencyGraphHash)
    ⟨batch.beginRecordIndex, .definitionBatchHashMismatch,
      "recovered DefinitionBatch dependency graph hash does not match durable boundary",
      .definitionBatchHashMismatch, false⟩
  (validateRecoveredPlanShape batch.boundary deltas).mapError fun error =>
    ⟨batch.beginRecordIndex, .planRejected, error.message, .planRejected, false⟩

def checkCommittedBatch (target : τ) (batch : PendingCatalogBatch) (commitRecordIndex : Nat) :
    Except ReplayFault (List CatalogMutationDelta) := do
  checkRecords batch commitRecordIndex
  checkTarget target batch
  let deltas := (sortByOperationIndex batch.deltas).map Prod.snd
  checkRebuilt batch deltas
  pure deltas

end Committed

/-! ## The replay loop -/

namespace MutationReplay

variable {τ : Type} [CatalogRecoveryApplyTarget τ]

def start (target : τ) (anomalies : List CatalogRecoveryAnomaly) : MutationReplay τ :=
  ⟨target, none, [], [], [], anomalies⟩

section

variable (state : MutationReplay τ)

def report (anomaly : CatalogRecoveryAnomaly) : MutationReplay τ :=
  { state with anomalies := state.anomalies ++ [anomaly] }

def skipIncomplete (batch : CatalogSkippedBatch) : MutationReplay τ :=
  { state with skippedIncompleteBatches := state.skippedIncompleteBatches ++ [batch] }

def skipAnomalous (batch : CatalogSkippedBatch) : MutationReplay τ :=
  { state with skippedAnomalousBatches := state.skippedAnomalousBatches ++ [batch] }

def skipCommitted (batch : PendingCatalogBatch) (fault : ReplayFault) : MutationReplay τ :=
  let reported := state.report
    ⟨fault.recordIndex, some batch.boundary.batchId, fault.kind, fault.detail⟩
  if fault.incomplete then reported.skipIncomplete (batch.skipped fault.reason)
  else reported.skipAnomalous (batch.skipped fault.reason)

def replayCommittedBatch (batch : PendingCatalogBatch) (commitRecordIndex : Nat) :
    MutationReplay τ :=
  match checkCommittedBatch state.target batch commitRecordIndex with
  | .error fault => state.skipCommitted batch fault
  | .ok deltas =>
    match applyRecoveredCatalogMutation batch.boundary deltas state.target with
    | (.error error, target) =>
      { state with target }.skipCommitted batch
        ⟨batch.beginRecordIndex, .replayRejected, error.message, .replayRejected, false⟩
    | (.ok (), target) =>
      { state with
        target
        replayedBatches := state.replayedBatches ++
          [{ batchId := batch.boundary.batchId
             previousVersion := batch.boundary.previousVersion
             nextVersion := batch.boundary.nextVersion
             sourceHash := batch.boundary.sourceHash
             dependencyGraphHash := batch.boundary.dependencyGraphHash
             appliedDeltaCount := deltas.length }] }

section

variable (recordIndex : Nat)

def supersede : MutationReplay τ :=
  match state.pending with
  | none => state
  | some batch =>
    ({ state with pending := none }.report
      ⟨recordIndex, some batch.boundary.batchId, .beginWhileBatchOpen,
        "new catalog begin record encountered before the open batch committed"⟩).skipIncomplete
      (batch.skipped .beginSupersededByAnotherBegin)

def observeBegin (boundary : CatalogMutationBoundary) : MutationReplay τ :=
  let state := state.supersede recordIndex
  if maxApplyRecordsPerBatch < boundary.expectedApplyCount then
    (state.report ⟨recordIndex, some boundary.batchId, .applyRecordLimitExceeded,
        "catalog mutation batch expected " ++ toString boundary.expectedApplyCount ++
          " apply records, above replay limit 1024"⟩).skipAnomalous
      ((PendingCatalogBatch.mk recordIndex boundary []).skipped .applyRecordLimitExceeded)
  else { state with pending := some ⟨recordIndex, boundary, []⟩ }

def observeApply (delta : CatalogMutationDelta) : MutationReplay τ :=
  match state.pending with
  | none =>
    state.report ⟨recordIndex, none, .applyWithoutBegin,
      "catalog apply record has no preceding begin record"⟩
  | some batch =>
    if batch.boundary.expectedApplyCount ≤ batch.deltas.length then
      ({ state with pending := none }.report
        ⟨recordIndex, some batch.boundary.batchId, .applyRecordCountMismatch,
          "catalog mutation batch received more than " ++
            toString batch.boundary.expectedApplyCount ++
            " declared apply records"⟩).skipAnomalous
        (batch.skipped .applyRecordCountMismatch)
    else
      { state with
        pending := some { batch with deltas := batch.deltas ++ [(recordIndex, delta)] } }

def observeCommit (boundary : CatalogMutationBoundary) : MutationReplay τ :=
  match state.pending with
  | none =>
    state.report ⟨recordIndex, some boundary.batchId, .commitWithoutBegin,
      "catalog commit record has no preceding begin record"⟩
  | some batch =>
    let state := { state with pending := none }
    if batch.boundary ≠ boundary then
      (state.report ⟨recordIndex, some boundary.batchId, .commitBoundaryMismatch,
          "catalog commit boundary does not match its begin boundary"⟩).skipAnomalous
        (batch.skipped .commitBoundaryMismatch)
    else state.replayCommittedBatch batch recordIndex

end

/-- The loop body of `replay_indexed_catalog_mutation_records_into_target`. -/
def observe (indexed : Nat × CatalogMutationRecord) : MutationReplay τ :=
  match indexed.2 with
  | .begin boundary => state.observeBegin indexed.1 boundary
  | .apply delta => state.observeApply indexed.1 delta
  | .commit boundary => state.observeCommit indexed.1 boundary

def close : MutationReplay τ :=
  match state.pending with
  | none => state
  | some batch =>
    ({ state with pending := none }.report
      ⟨batch.beginRecordIndex, some batch.boundary.batchId, .missingApplyRecords,
        "catalog mutation batch reached end of log before commit"⟩).skipIncomplete
      (batch.skipped .endOfLogBeforeCommit)

end

end MutationReplay

section Recovery

variable {τ : Type} [CatalogRecoveryApplyTarget τ]

/-- `replay_indexed_catalog_mutation_records_into_target`. The final visible version of the
source's report is that of the target. -/
def replayIndexedRecords (target : τ) (records : List (Nat × CatalogMutationRecord))
    (anomalies : List CatalogRecoveryAnomaly) : MutationReplay τ :=
  (records.foldl MutationReplay.observe (MutationReplay.start target anomalies)).close

def replayCatalogMutationRecords (target : τ) (records : List CatalogMutationRecord) :
    MutationReplay τ :=
  replayIndexedRecords target (records.zipIdx.map Prod.swap) []

structure CatalogDurableMutationPayload where
  payload : Bytes
  storageWalKindTag : Option UInt16

def boundaryBatchId : CatalogMutationRecord → Option DefinitionBatchId
  | .begin boundary | .commit boundary => some boundary.batchId
  | .apply _ => none

/-- The loop body of `recover_catalog_target_from_durable_payloads`. -/
def decodeIndexedPayload (entry : CatalogDurableMutationPayload × Nat) :
    Except CatalogRecoveryAnomaly (Nat × CatalogMutationRecord) := do
  let record ← (decodeCatalogDurablePayload entry.1.payload).mapError fun error =>
    (⟨entry.2, none, recoveryAnomalyKindForDecodeError error.kind,
      error.kind.stableCode ++ ": " ++ error.detail⟩ : CatalogRecoveryAnomaly)
  match entry.1.storageWalKindTag with
  | none => pure (entry.2, record)
  | some outerTag =>
    let innerTag := record.kind.storageWalKindTag
    failIf (outerTag ≠ innerTag) ⟨entry.2, boundaryBatchId record, .outerStorageKindMismatch,
        "outer storage WAL kind tag " ++ toString outerTag.toNat ++
          " does not match inner catalog payload kind tag " ++ toString innerTag.toNat⟩
    pure (entry.2, record)

def recoverCatalogTargetFromDurablePayloads (target : τ)
    (payloads : List CatalogDurableMutationPayload) : MutationReplay τ :=
  let decoded := payloads.zipIdx.map decodeIndexedPayload
  replayIndexedRecords target (decoded.filterMap Except.toOption) (decoded.filterMap fun result =>
      match result with
      | .ok _ => none
      | .error anomaly => some anomaly)

end Recovery

namespace CatalogSnapshot

variable {ρ : Type}

def validateRecoveryBoundaryIdentity (s : CatalogSnapshot ρ) (boundary : CatalogMutationBoundary) :
    Result Unit := do
  failIf (boundary.databaseId ≠ s.databaseId ∨ boundary.namespaceId ≠ s.namespaceId)
    (catalogError "catalog recovery target identity must match mutation boundary")
  failIf (boundary.previousVersion ≠ s.visibleVersion)
    (catalogError "catalog recovery target version must match mutation previous version")

def applyRecovered (boundary : CatalogMutationBoundary) (deltas : List CatalogMutationDelta) :
    Effect (CatalogSnapshot ρ) Error Unit := do
  let s ← Effect.get
  Effect.lift (s.validateRecoveryBoundaryIdentity boundary)
  let plan ← Effect.lift (CatalogMutationPlan.new boundary.batchId boundary.databaseId
    boundary.namespaceId boundary.previousVersion boundary.nextVersion boundary.sourceHash
    boundary.dependencyGraphHash deltas)
  let _ ← applyMutationPlan { plan with publicationSemantics := boundary.publicationSemantics }
  Effect.modify fun s => s.markDurableVersionFromRecovery boundary.nextVersion

instance : CatalogRecoveryApplyTarget (CatalogSnapshot ρ) where
  recoveryDatabaseId := databaseId
  recoveryNamespaceId := namespaceId
  recoveryVisibleCatalogVersion := visibleVersion
  applyRecoveredCatalogMutation := applyRecovered

end CatalogSnapshot

def recoverCatalogSnapshotFromDurablePayloads {ρ : Type} (snapshot : CatalogSnapshot ρ)
    (payloads : List CatalogDurableMutationPayload) : MutationReplay (CatalogSnapshot ρ) :=
  recoverCatalogTargetFromDurablePayloads snapshot payloads

end Andromeda.Catalog
