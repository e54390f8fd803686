import Andromeda.Catalog.DefinitionBatch

/-!
# Mutation plans

What a definition batch becomes before it touches a snapshot: the ordered deltas with the
identity and hashes of the batch, the WAL records that persist them, and the evidence and
receipt of a durable publication.
-/

namespace Andromeda.Catalog

open Fallible List

def maxApplyRecordsPerBatch : Nat := 1024

inductive CatalogPublicationSemantics where
  | plannedVersionOnly
  | durablePublicationExternal
deriving DecidableEq

inductive CatalogMutationOperation where
  | createObject (object : CatalogObjectRef) (definition : CatalogDefinition)
  | deprecateObject (target : CatalogLifecycleTarget)
deriving DecidableEq

def CatalogMutationOperation.toDefinition : CatalogMutationOperation → DefinitionOperation
  | .createObject _ definition => .create definition
  | .deprecateObject target => .deprecateTarget target

structure CatalogMutationDelta where
  operationIndex : Nat
  plannedVersion : CatalogVersion
  operation : CatalogMutationOperation
deriving DecidableEq

def CatalogMutationDelta.create (operationIndex : Nat) (plannedVersion : CatalogVersion)
    (definition : CatalogDefinition) : CatalogMutationDelta :=
  ⟨operationIndex, plannedVersion, .createObject definition.objectRef definition⟩

def CatalogMutationDelta.deprecate (operationIndex : Nat) (plannedVersion : CatalogVersion)
    (target : CatalogLifecycleTarget) : CatalogMutationDelta :=
  ⟨operationIndex, plannedVersion, .deprecateObject target⟩

def CatalogMutationDelta.object (delta : CatalogMutationDelta) : CatalogObjectRef :=
  match delta.operation with
  | .createObject object _ => object
  | .deprecateObject target => target.object

structure CatalogMutationBoundary where
  batchId : DefinitionBatchId
  databaseId : DatabaseId
  namespaceId : NamespaceId
  previousVersion : CatalogVersion
  nextVersion : CatalogVersion
  sourceHash : DefinitionBatchSourceHash
  dependencyGraphHash : DefinitionBatchDependencyGraphHash
  expectedApplyCount : Nat
  publicationSemantics : CatalogPublicationSemantics
deriving DecidableEq

inductive CatalogMutationRecordKind where
  | catalogChangeBegin
  | catalogChangeApply
  | catalogChangeCommit
deriving DecidableEq

inductive CatalogMutationRecord where
  | begin (boundary : CatalogMutationBoundary)
  | apply (delta : CatalogMutationDelta)
  | commit (boundary : CatalogMutationBoundary)

def CatalogMutationRecord.kind : CatalogMutationRecord → CatalogMutationRecordKind
  | .begin _ => .catalogChangeBegin
  | .apply _ => .catalogChangeApply
  | .commit _ => .catalogChangeCommit

def validateDeltasFrom (previousVersion nextVersion : CatalogVersion) (expectedIndex : Nat)
    (ids : List CatalogObjectId) (names : List QualifiedName) :
    List CatalogMutationDelta → Result Unit
  | [] => .ok ()
  | delta :: deltas => do
    failIf (delta.operationIndex ≠ expectedIndex)
      (catalogError "catalog mutation deltas must be dense and operation ordered")
    failIf (delta.plannedVersion ≠ nextVersion) (catalogError
      "catalog mutation delta version must match the planned next catalog version")
    match delta.operation with
    | .createObject object definition => do
      definition.validate
      failIf (object.catalogVersion ≠ nextVersion) (catalogError
        "catalog mutation object version must match the planned next catalog version")
    | .deprecateObject target => do
      target.validate
      failIf (previousVersion < target.object.catalogVersion) (catalogError
        "catalog mutation lifecycle target version must not be newer than the previous catalog version")
    failIf (delta.object.objectId ∈ ids)
      (catalogError "catalog mutation plan must not change the same object id twice")
    failIf (delta.object.name ∈ names)
      (catalogError "catalog mutation plan must not change the same object name twice")
    validateDeltasFrom previousVersion nextVersion (expectedIndex + 1)
      (delta.object.objectId :: ids) (delta.object.name :: names) deltas

structure CatalogMutationPlan where
  batchId : DefinitionBatchId
  databaseId : DatabaseId
  namespaceId : NamespaceId
  previousVersion : CatalogVersion
  nextVersion : CatalogVersion
  sourceHash : DefinitionBatchSourceHash
  dependencyGraphHash : DefinitionBatchDependencyGraphHash
  publicationSemantics : CatalogPublicationSemantics
  deltas : List CatalogMutationDelta
deriving DecidableEq

namespace CatalogMutationPlan

/-- The checks of `CatalogMutationPlan::new`, on the fields of the plan it is to return. -/
def validateNew (plan : CatalogMutationPlan) : Result Unit := do
  failIf (plan.deltas = [])
    (catalogError "catalog mutation plan must contain at least one delta")
  failIf (maxApplyRecordsPerBatch < plan.deltas.length)
    (catalogError "catalog mutation plan must not exceed 1024 apply records")
  failIf (plan.batchId = 0) (catalogError "catalog mutation plan batch id must not be zero")
  failIf (plan.databaseId = 0)
    (catalogError "catalog mutation plan database id must not be zero")
  failIf (plan.namespaceId = 0)
    (catalogError "catalog mutation plan namespace id must not be zero")
  failIf (¬ plan.previousVersion < plan.nextVersion)
    (catalogError "catalog mutation plan must advance the catalog version")
  failIf plan.sourceHash.IsZero
    (catalogError "catalog mutation plan source hash must not be zero")
  failIf plan.dependencyGraphHash.IsZero
    (catalogError "catalog mutation plan dependency graph hash must not be zero")
  validateDeltasFrom plan.previousVersion plan.nextVersion 0 [] [] plan.deltas

def new (batchId : DefinitionBatchId) (databaseId : DatabaseId) (namespaceId : NamespaceId)
    (previousVersion nextVersion : CatalogVersion) (sourceHash : DefinitionBatchSourceHash)
    (dependencyGraphHash : DefinitionBatchDependencyGraphHash)
    (deltas : List CatalogMutationDelta) : Result CatalogMutationPlan := do
  let plan : CatalogMutationPlan :=
    { batchId, databaseId, namespaceId, previousVersion, nextVersion, sourceHash,
      dependencyGraphHash, publicationSemantics := .durablePublicationExternal, deltas }
  plan.validateNew
  pure plan

def definitionBatch (plan : CatalogMutationPlan) : DefinitionBatch :=
  { batchId := plan.batchId
    databaseId := plan.databaseId
    namespaceId := plan.namespaceId
    baseVersion := plan.previousVersion
    operations := plan.deltas.map fun delta => delta.operation.toDefinition }

def integrityMessage (message : String) : String :=
  if message = "definition batch source hash must match the current ordered batch source" then
    "catalog mutation plan source hash must match the current definition batch operations"
  else if message =
      "definition batch dependency graph hash must match the current batch dependency graph" then
    "catalog mutation plan dependency graph hash must match the current definition batch operations"
  else message

section

variable (plan : CatalogMutationPlan)

def validateDefinitionBatchIntegrity : Result Unit := do
  plan.validateNew
  (plan.definitionBatch.validateIntegrityHashes plan.sourceHash plan.dependencyGraphHash).mapError
    fun error => catalogError (integrityMessage error.message)

def commitBoundary : CatalogMutationBoundary :=
  { batchId := plan.batchId
    databaseId := plan.databaseId
    namespaceId := plan.namespaceId
    previousVersion := plan.previousVersion
    nextVersion := plan.nextVersion
    sourceHash := plan.sourceHash
    dependencyGraphHash := plan.dependencyGraphHash
    expectedApplyCount := plan.deltas.length
    publicationSemantics := plan.publicationSemantics }

def records : List CatalogMutationRecord :=
  .begin plan.commitBoundary :: plan.deltas.map .apply ++ [.commit plan.commitBoundary]

def recordCount : Nat := plan.deltas.length + 2

@[simp] theorem length_records : plan.records.length = plan.recordCount := by
  simp [records, recordCount]

end

end CatalogMutationPlan

def mutationDeltas (operations : List DefinitionOperation) (nextVersion : CatalogVersion) :
    List CatalogMutationDelta :=
  operations.zipIdx.map fun entry =>
    match entry.1 with
    | .create definition => CatalogMutationDelta.create entry.2 nextVersion definition
    | .deprecateTarget target => CatalogMutationDelta.deprecate entry.2 nextVersion target

/-- `DefinitionBatchPlan`, without the fields it repeats from its mutation plan. -/
structure DefinitionBatchPlan where
  createdObjects : List PlannedObject
  deprecatedObjects : List PlannedObject
  mutationPlan : CatalogMutationPlan
deriving DecidableEq

def DefinitionBatch.dryRun (batch : DefinitionBatch) : Result DefinitionBatchPlan := do
  let dryRun ← dryRunDefinitionBatch batch
  failIf (¬ batch.baseVersion < dryRun.nextVersion)
    (catalogError "catalog mutation must advance the catalog version")
  let mutationPlan ← CatalogMutationPlan.new batch.batchId batch.databaseId batch.namespaceId
    batch.baseVersion dryRun.nextVersion dryRun.sourceHash dryRun.dependencyGraphHash
    (mutationDeltas batch.operations dryRun.nextVersion)
  pure
    { createdObjects := dryRun.createdObjects
      deprecatedObjects := dryRun.deprecatedObjects
      mutationPlan }

/-! ### Batches that create one table -/

theorem sampleNames_parts :
    (["Inventory", "Product"] ≠ [] ∧
        ∀ part ∈ ["Inventory", "Product"], isIdentifier part = true) ∧
      (["Inventory", "Stock"] ≠ [] ∧ ∀ part ∈ ["Inventory", "Stock"], isIdentifier part = true) := by
  decide +kernel

def productName : QualifiedName :=
  ⟨["Inventory", "Product"], sampleNames_parts.1.1, sampleNames_parts.1.2⟩

def stockName : QualifiedName :=
  ⟨["Inventory", "Stock"], sampleNames_parts.2.1, sampleNames_parts.2.2⟩

section

variable (objectId : CatalogObjectId) (name : QualifiedName)

def sampleTable (version : CatalogVersion) : CatalogDefinition :=
  .table ⟨⟨objectId, name, .table, version⟩, [⟨"ProductId", .required .i64, 0⟩]⟩

def tableBatch (baseVersion : CatalogVersion) : DefinitionBatch :=
  ⟨objectId, 10, 20, baseVersion, [.create (sampleTable objectId name (baseVersion + 1))]⟩

def tablePlan (baseVersion : CatalogVersion) : CatalogMutationPlan :=
  { batchId := objectId
    databaseId := 10
    namespaceId := 20
    previousVersion := baseVersion
    nextVersion := baseVersion + 1
    sourceHash := (tableBatch objectId name baseVersion).sourceHash
    dependencyGraphHash := (BatchDependencyGraph.empty.addNode name).dependencyGraphHash
    publicationSemantics := .durablePublicationExternal
    deltas := mutationDeltas (tableBatch objectId name baseVersion).operations (baseVersion + 1) }

end

theorem tableBatch_dryRun_product : (tableBatch 1 productName 7).dryRun =
      .ok ⟨[⟨1, productName, .table⟩], [], tablePlan 1 productName 7⟩ := by
  decide +kernel

def oneHash : Digest32 := ⟨List.replicate 32 1, rfl⟩

def productInput : StructuredObjectDefinition :=
  ⟨⟨1, productName, .structuredObject, 8⟩, [⟨"ProductId", .required .i64, 0⟩], ["ProductId"]⟩

/-- A procedure that takes `productInput`. -/
def restock : ProcedureContract :=
  let contract : ProcedureContract :=
    ⟨⟨2, stockName, .procedure, 8⟩, 2, oneHash, 1, ⟨oneHash, oneHash⟩, [], [productName], [],
      ["stock.write"], ⟨.readWrite, .snapshot, false⟩, .exactHash, .requireBeforePayload,
      ⟨true, []⟩, .singleResultOnly⟩
  { contract with contractHash := contract.canonicalHash }

def restockBatch : DefinitionBatch :=
  ⟨3, 10, 20, 7, [.create (.structuredObject productInput), .create (.procedure restock)]⟩

def restockPlan : CatalogMutationPlan :=
  let graph := (BatchDependencyGraph.empty.addNode productName).addNode stockName
  { batchId := 3
    databaseId := 10
    namespaceId := 20
    previousVersion := 7
    nextVersion := 8
    sourceHash := restockBatch.sourceHash
    dependencyGraphHash := BatchDependencyGraph.dependencyGraphHash
      ⟨graph.edges, [.procedureStructuredInput stockName productName]⟩
    publicationSemantics := .durablePublicationExternal
    deltas := mutationDeltas restockBatch.operations 8 }

inductive CatalogMutationDurability where
  | storageWal (commitLsn durableLsn : UInt64)
  | externalMarker (marker : UInt64)
deriving DecidableEq

namespace CatalogMutationDurability

def validate : CatalogMutationDurability → Result Unit
  | .storageWal commitLsn durableLsn => do
    failIf (commitLsn = 0) (catalogError "catalog publication commit LSN must not be zero")
    failIf (durableLsn < commitLsn)
      (catalogError "catalog publication durable LSN must reach the commit LSN")
  | .externalMarker marker =>
    failIf (marker = 0)
      (catalogError "catalog publication durable evidence marker must not be zero")

def durableLsn : CatalogMutationDurability → Option UInt64
  | .storageWal _ durableLsn => some durableLsn
  | .externalMarker _ => none

def durableMarker : CatalogMutationDurability → Option UInt64
  | .storageWal _ _ => none
  | .externalMarker marker => some marker

end CatalogMutationDurability

structure CatalogMutationCommitEvidence where
  commitBoundary : CatalogMutationBoundary
  recordCount : Nat
  durability : CatalogMutationDurability

namespace CatalogMutationCommitEvidence

def fromDurableCommitRecord (record : CatalogMutationRecord) (recordCount : Nat)
    (durability : CatalogMutationDurability) : Result CatalogMutationCommitEvidence :=
  match record with
  | .commit commitBoundary => .ok ⟨commitBoundary, recordCount, durability⟩
  | .begin _ | .apply _ =>
    .error (catalogError "catalog publication requires committed mutation evidence")

/-- The boundary fields compared with the plan; the apply count is not among them. -/
def MatchesPlan (boundary : CatalogMutationBoundary) (plan : CatalogMutationPlan) : Prop :=
  boundary.batchId = plan.batchId ∧ boundary.databaseId = plan.databaseId ∧
    boundary.namespaceId = plan.namespaceId ∧ boundary.previousVersion = plan.previousVersion ∧
    boundary.nextVersion = plan.nextVersion ∧ boundary.sourceHash = plan.sourceHash ∧
    boundary.dependencyGraphHash = plan.dependencyGraphHash ∧
    boundary.publicationSemantics = plan.publicationSemantics
deriving Decidable

def validateForPlan (evidence : CatalogMutationCommitEvidence) (plan : CatalogMutationPlan) :
    Result Unit := do
  plan.validateDefinitionBatchIntegrity
  evidence.durability.validate
  failIf (¬ plan.previousVersion < plan.nextVersion) (catalogError
    "catalog publication mutation plan must advance the catalog version")
  failIf (evidence.recordCount ≠ plan.recordCount)
    (catalogError "catalog publication record count must match the mutation plan")
  failIf (¬ MatchesPlan evidence.commitBoundary plan) (catalogError
    "catalog publication commit evidence must match the mutation plan boundary")
  failIf (evidence.commitBoundary.publicationSemantics ≠ .durablePublicationExternal)
    (catalogError "catalog publication requires durable publication semantics")

end CatalogMutationCommitEvidence

/-- `CatalogPublicationReceipt`. The recovery decision and the audit trace are constant here
and left out. -/
structure CatalogPublicationReceipt where
  batchId : DefinitionBatchId
  databaseId : DatabaseId
  namespaceId : NamespaceId
  previousVersion : CatalogVersion
  nextVersion : CatalogVersion
  sourceHash : DefinitionBatchSourceHash
  dependencyGraphHash : DefinitionBatchDependencyGraphHash
  durableLsn : Option UInt64
  durableEvidenceMarker : Option UInt64
  recordCount : Nat
  publicationSemantics : CatalogPublicationSemantics
  firstOperationIndex : UInt32
  lastOperationIndex : UInt32

def CatalogPublicationReceipt.fromPlanAndEvidence (plan : CatalogMutationPlan)
    (evidence : CatalogMutationCommitEvidence) : Result CatalogPublicationReceipt := do
  evidence.validateForPlan plan
  let firstOperationIndex : UInt32 := 0
  let lastOperationIndex : UInt32 := UInt32.ofNat (plan.deltas.length - 1)
  failIf (lastOperationIndex < firstOperationIndex) (catalogError
    "catalog publication receipt last operation index must not precede first operation index")
  failIf (evidence.recordCount ≠ (lastOperationIndex - firstOperationIndex + 1).toNat + 2)
    (catalogError
      "catalog publication receipt record count must equal operation span plus two boundary records")
  pure
    { batchId := plan.batchId
      databaseId := plan.databaseId
      namespaceId := plan.namespaceId
      previousVersion := plan.previousVersion
      nextVersion := plan.nextVersion
      sourceHash := plan.sourceHash
      dependencyGraphHash := plan.dependencyGraphHash
      durableLsn := evidence.durability.durableLsn
      durableEvidenceMarker := evidence.durability.durableMarker
      recordCount := evidence.recordCount
      publicationSemantics := plan.publicationSemantics
      firstOperationIndex
      lastOperationIndex }

end Andromeda.Catalog
