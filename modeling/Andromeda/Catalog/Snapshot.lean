import Andromeda.Catalog.MutationPlan
import Andromeda.Lib.Effect

/-!
# Catalog snapshots

The state of the catalog: the definitions by id, the name index, the lifecycle of each object,
the applied version and the last durable one. Applying a plan checks everything first and
changes the maps afterwards; a durable receipt lifts the visible version with it.
-/

namespace Andromeda.Catalog

open Fallible Effect PlannedObject

inductive CatalogObjectLifecycleStatus where
  | active
  | deprecated
deriving DecidableEq

structure CatalogObjectLifecycle where
  status : CatalogObjectLifecycleStatus
  createdVersion : CatalogVersion
  lastChangedVersion : CatalogVersion

def CatalogObjectLifecycle.active (createdVersion : CatalogVersion) : CatalogObjectLifecycle :=
  ⟨.active, createdVersion, createdVersion⟩

def CatalogObjectLifecycle.deprecated (lifecycle : CatalogObjectLifecycle)
    (changedVersion : CatalogVersion) : CatalogObjectLifecycle :=
  ⟨.deprecated, lifecycle.createdVersion, changedVersion⟩

inductive CatalogSnapshotPublication (ρ : Type) where
  | inMemoryOnly
  | durable (receipt : ρ)

/-- `CatalogSnapshot`. The maps are association lists with unique keys; nothing reads the
order of their entries. -/
structure CatalogSnapshot (ρ : Type) where
  databaseId : DatabaseId
  namespaceId : NamespaceId
  version : CatalogVersion
  publication : CatalogSnapshotPublication ρ
  lastDurableVersion : CatalogVersion
  objectsById : AList fun _ : CatalogObjectId => CatalogDefinition
  objectNames : AList fun _ : QualifiedName => CatalogObjectId
  objectLifecycle : AList fun _ : CatalogObjectId => CatalogObjectLifecycle

structure CatalogSnapshotApplyReport where
  previousVersion : CatalogVersion
  nextVersion : CatalogVersion
  appliedDeltaCount : Nat
  publicationSemantics : CatalogPublicationSemantics
  durablePublicationPerformed : Bool

namespace CatalogSnapshot

variable {ρ : Type}

def empty (databaseId : DatabaseId) (namespaceId : NamespaceId) (version : CatalogVersion) :
    CatalogSnapshot ρ :=
  { databaseId, namespaceId, version
    publication := .inMemoryOnly
    lastDurableVersion := version
    objectsById := ∅
    objectNames := ∅
    objectLifecycle := ∅ }

/-! ## What a snapshot shows -/

section

variable (s : CatalogSnapshot ρ)

def visibleVersion : CatalogVersion := s.lastDurableVersion

def stagedInMemoryVersion : Option CatalogVersion :=
  if s.lastDurableVersion < s.version then some s.version else none

def DefinitionIsVisible (definition : CatalogDefinition) : Prop :=
  definition.objectRef.catalogVersion ≤ s.visibleVersion
deriving Decidable

def visibleLifecycle (lifecycle : CatalogObjectLifecycle) : Option CatalogObjectLifecycle :=
  if s.visibleVersion < lifecycle.createdVersion then none
  else
    match lifecycle.status with
    | .active => some lifecycle
    | .deprecated =>
      if lifecycle.lastChangedVersion ≤ s.visibleVersion then some lifecycle
      else some (.active lifecycle.createdVersion)

def markDurableVersionFromRecovery (version : CatalogVersion) : CatalogSnapshot ρ :=
  if s.lastDurableVersion < version then { s with lastDurableVersion := version } else s

section

variable (objectId : CatalogObjectId)

def appliedGetById : Option CatalogDefinition :=
  s.objectsById.lookup objectId

def visibleGetById : Option CatalogDefinition :=
  (s.appliedGetById objectId).filter fun definition => s.DefinitionIsVisible definition

def appliedGetByName (name : QualifiedName) : Option CatalogDefinition :=
  (s.objectNames.lookup name).bind s.appliedGetById

def visibleGetByName (name : QualifiedName) : Option CatalogDefinition :=
  (s.objectNames.lookup name).bind s.visibleGetById

def appliedLifecycleById : Option CatalogObjectLifecycle :=
  s.objectLifecycle.lookup objectId

def lifecycleById : Option CatalogObjectLifecycle :=
  (s.appliedLifecycleById objectId).bind s.visibleLifecycle

def AppliedIsActiveObject : Prop :=
  (s.appliedLifecycleById objectId).map CatalogObjectLifecycle.status = some .active
deriving Decidable

end

/-! ## Dependency checks -/

def Targeted (deprecatedObjects : List PlannedObject) (dependency : CatalogDependency) : Prop :=
  ∃ target ∈ deprecatedObjects,
    target.name = dependency.dependencyName ∧ target.kind = dependency.dependencyKind
deriving Decidable

def validateDependency (createdObjects deprecatedObjects : List PlannedObject)
    (dependency : CatalogDependency) :
    Result Unit := do
  dependency.validate
  failIf (Targeted deprecatedObjects dependency) (catalogError
    "definition batch cannot create active dependents of a deprecated catalog dependency")
  match createdObjects.find? fun created => created.name = dependency.dependencyName with
  | some created =>
    failIf (created.kind ≠ dependency.dependencyKind) (catalogError
      "definition batch catalog dependency must reference an object of the expected kind")
  | none =>
    let existing ← orError (s.appliedGetByName dependency.dependencyName) (catalogError
      "definition batch procedure structured input dependency catalog edge is missing from catalog snapshot")
    failIf (existing.objectRef.kind ≠ dependency.dependencyKind) (catalogError
      "definition batch catalog dependency must reference an object of the expected kind")
    failIf (¬ s.AppliedIsActiveObject existing.objectRef.objectId) (catalogError
      "definition batch catalog dependency must reference an active catalog object")

def validateDefinitionDependencies (definition : CatalogDefinition)
    (createdObjects deprecatedObjects : List PlannedObject) : Result Unit :=
  definition.dependencies.forM (s.validateDependency createdObjects deprecatedObjects)

def validateNoActiveDependentsForDeprecations (deprecatedObjects : List PlannedObject) :
    Result Unit :=
  if deprecatedObjects = [] then .ok ()
  else
    s.objectsById.entries.forM fun entry =>
      let dependent := entry.2.objectRef
      if ¬ s.AppliedIsActiveObject dependent.objectId ∨
          dependent.objectId ∈ deprecatedObjects.map objectId then .ok ()
      else
        entry.2.dependencies.forM fun dependency =>
          failIf (Targeted deprecatedObjects dependency) (catalogError
            "definition batch cannot deprecate a catalog object with active dependents")

/-! ## Planning against a snapshot -/

def validateBatchOperation (createdObjects deprecatedObjects : List PlannedObject) :
    DefinitionOperation → Result Unit
  | .create definition => do
    let object := definition.objectRef
    failIf (object.objectId ∈ s.objectsById) (catalogError
      "definition batch cannot create object id already present in catalog snapshot")
    failIf (object.name ∈ s.objectNames) (catalogError
      "definition batch cannot create object name already present in catalog snapshot")
    s.validateDefinitionDependencies definition createdObjects deprecatedObjects
  | .deprecateTarget target => do
    target.validate
    let existing ← orError (s.appliedGetById target.object.objectId)
      (catalogError "definition batch cannot deprecate unknown object id")
    failIf (existing.objectRef ≠ target.object) (catalogError
      "definition batch lifecycle target must match the current catalog object")
    failIf (s.objectNames.lookup target.object.name ≠ some target.object.objectId) (catalogError
      "definition batch lifecycle target name index must match the existing object id")
    failIf (¬ s.AppliedIsActiveObject target.object.objectId)
      (catalogError "definition batch cannot deprecate an inactive catalog object")

def validateDefinitionBatchOperations (batch : DefinitionBatch)
    (createdObjects deprecatedObjects : List PlannedObject) : Result Unit := do
  failIf (batch.databaseId ≠ s.databaseId)
    (catalogError "definition batch database id must match catalog snapshot database id")
  failIf (batch.namespaceId ≠ s.namespaceId)
    (catalogError "definition batch namespace id must match catalog snapshot namespace id")
  failIf (batch.baseVersion ≠ s.version)
    (catalogError "definition batch base version must match catalog snapshot version")
  batch.operations.forM (s.validateBatchOperation createdObjects deprecatedObjects)
  s.validateNoActiveDependentsForDeprecations deprecatedObjects

def planDefinitionBatch (batch : DefinitionBatch) : Result DefinitionBatchPlan := do
  let plan ← batch.dryRun
  s.validateDefinitionBatchOperations batch plan.createdObjects plan.deprecatedObjects
  pure plan

/-! ## Applying a plan -/

def plannedCreated (deltas : List CatalogMutationDelta) : List PlannedObject :=
  deltas.filterMap fun delta =>
    match delta.operation with
    | .createObject object _ => some (ofRef object)
    | .deprecateObject _ => none

def plannedDeprecated (deltas : List CatalogMutationDelta) : List PlannedObject :=
  deltas.filterMap fun delta =>
    match delta.operation with
    | .createObject _ _ => none
    | .deprecateObject target => some (ofRef target.object)

def validateDelta (plan : CatalogMutationPlan) (ids : List CatalogObjectId)
    (names : List QualifiedName) (delta : CatalogMutationDelta) :
    Result Unit :=
  match delta.operation with
  | .createObject object definition => do
    definition.validate
    s.validateDefinitionDependencies definition (plannedCreated plan.deltas)
      (plannedDeprecated plan.deltas)
    failIf (object.catalogVersion ≠ plan.nextVersion) (catalogError
      "created object catalog version must match the planned next catalog version")
    failIf (object.objectId ∈ s.objectsById)
      (catalogError "catalog snapshot already contains object id")
    failIf (object.objectId ∈ ids)
      (catalogError "catalog mutation plan must not change the same object id twice")
    failIf (object.name ∈ s.objectNames)
      (catalogError "catalog snapshot already contains object name")
    failIf (object.name ∈ names)
      (catalogError "catalog mutation plan must not change the same object name twice")
  | .deprecateObject target => do
    target.validate
    failIf (plan.previousVersion < target.object.catalogVersion) (catalogError
      "catalog lifecycle target version must not be newer than the previous catalog version")
    failIf (target.object.objectId ∈ ids)
      (catalogError "catalog mutation plan must not change the same object id twice")
    failIf (target.object.name ∈ names)
      (catalogError "catalog mutation plan must not change the same object name twice")
    let existing ← orError (s.objectsById.lookup target.object.objectId)
      (catalogError "catalog snapshot cannot deprecate unknown object id")
    failIf (existing.objectRef.name ≠ target.object.name)
      (catalogError "catalog lifecycle target name must match the existing object")
    failIf (existing.objectRef.kind ≠ target.object.kind)
      (catalogError "catalog lifecycle target kind must match the existing object")
    failIf (existing.objectRef.catalogVersion ≠ target.object.catalogVersion)
      (catalogError "catalog lifecycle target version must match the existing object version")
    failIf (s.objectNames.lookup target.object.name ≠ some target.object.objectId)
      (catalogError "catalog lifecycle target name index must match the existing object id")
    failIf ((s.appliedLifecycleById target.object.objectId).map CatalogObjectLifecycle.status =
        some .deprecated)
      (catalogError "catalog snapshot object is already deprecated")

end

def validateDeltas (s : CatalogSnapshot ρ) (plan : CatalogMutationPlan) (expectedIndex : Nat)
    (ids : List CatalogObjectId) (names : List QualifiedName) :
    List CatalogMutationDelta → Result Unit
  | [] => .ok ()
  | delta :: deltas => do
    failIf (delta.operationIndex ≠ expectedIndex)
      (catalogError "catalog mutation deltas must be dense and operation ordered")
    failIf (delta.plannedVersion ≠ plan.nextVersion) (catalogError
      "catalog mutation delta version must match the planned next catalog version")
    s.validateDelta plan ids names delta
    s.validateDeltas plan (expectedIndex + 1) (delta.object.objectId :: ids)
      (delta.object.name :: names) deltas

def validatePlan (s : CatalogSnapshot ρ) (plan : CatalogMutationPlan) : Result Unit := do
  failIf (s.databaseId ≠ plan.databaseId)
    (catalogError "catalog mutation plan database id must match snapshot database id")
  failIf (s.namespaceId ≠ plan.namespaceId)
    (catalogError "catalog mutation plan namespace id must match snapshot namespace id")
  failIf (s.version ≠ plan.previousVersion)
    (catalogError "catalog mutation plan previous version must match snapshot version")
  failIf (¬ plan.previousVersion < plan.nextVersion)
    (catalogError "catalog mutation plan must advance the snapshot version")
  s.validateDeltas plan 0 [] [] plan.deltas
  s.validateNoActiveDependentsForDeprecations (plannedDeprecated plan.deltas)

def applyDelta (nextVersion : CatalogVersion) (s : CatalogSnapshot ρ)
    (delta : CatalogMutationDelta) : CatalogSnapshot ρ :=
  match delta.operation with
  | .createObject object definition =>
    { s with
      objectsById := s.objectsById.insert object.objectId definition
      objectNames := s.objectNames.insert object.name object.objectId
      objectLifecycle :=
        s.objectLifecycle.insert object.objectId (.active object.catalogVersion) }
  | .deprecateObject target =>
    let lifecycle := (s.appliedLifecycleById target.object.objectId).getD
      (.active target.object.catalogVersion)
    { s with
      objectLifecycle :=
        s.objectLifecycle.insert target.object.objectId (lifecycle.deprecated nextVersion) }

def recordPublication (s : CatalogSnapshot ρ) (nextVersion : CatalogVersion)
    (receipt : Option ρ) : CatalogSnapshot ρ :=
  match receipt with
  | some receipt =>
    { s with
      version := nextVersion
      publication := .durable receipt
      lastDurableVersion := nextVersion }
  | none => { s with version := nextVersion, publication := .inMemoryOnly }

section

variable (plan : CatalogMutationPlan)

def applyMutationPlanInternal (receipt : Option ρ) :
    Effect (CatalogSnapshot ρ) Error CatalogSnapshotApplyReport := do
  let before ← get
  lift (before.validatePlan plan)
  modify fun s => plan.deltas.foldl (applyDelta plan.nextVersion) s
  modify fun s => s.recordPublication plan.nextVersion receipt
  pure
    { previousVersion := before.version
      nextVersion := plan.nextVersion
      appliedDeltaCount := plan.deltas.length
      publicationSemantics := plan.publicationSemantics
      durablePublicationPerformed := receipt.isSome }

def applyMutationPlan : Effect (CatalogSnapshot ρ) Error CatalogSnapshotApplyReport := do
  lift plan.validateDefinitionBatchIntegrity
  applyMutationPlanInternal plan none

def publishDurableMutationPlan (evidence : CatalogMutationCommitEvidence) :
    Effect (CatalogSnapshot CatalogPublicationReceipt) Error CatalogPublicationReceipt := do
  lift plan.validateDefinitionBatchIntegrity
  let receipt ← lift (CatalogPublicationReceipt.fromPlanAndEvidence plan evidence)
  let _ ← applyMutationPlanInternal plan (some receipt)
  pure receipt

end

end CatalogSnapshot

end Andromeda.Catalog
