import Andromeda.Catalog.Definition
import Mathlib.Data.List.AList
import Mathlib.Data.List.Sort

/-!
# Definition batches

An ordered set of create and deprecate operations on one base version. A dry run validates
the operations, hashes their source and their dependency graph, and lists the objects the
batch creates and deprecates.
-/

namespace Andromeda.Catalog

open Fallible LittleEndian

structure CatalogLifecycleTarget where
  object : CatalogObjectRef
deriving DecidableEq

def CatalogLifecycleTarget.validate (target : CatalogLifecycleTarget) : Result Unit :=
  target.object.validateForDefinition target.object.kind

inductive DefinitionOperation where
  | create (definition : CatalogDefinition)
  | deprecateTarget (target : CatalogLifecycleTarget)

abbrev DefinitionBatchId := UInt64
abbrev DefinitionBatchSourceHash := Digest32
abbrev DefinitionBatchDependencyGraphHash := Digest32

def lexLt {α : Type} (lt : α → α → Bool) : List α → List α → Bool
  | [], [] => false
  | [], _ :: _ => true
  | _ :: _, [] => false
  | x :: xs, y :: ys => lt x y || (!lt y x && lexLt lt xs ys)

def pathLt : List Bytes → List Bytes → Bool :=
  lexLt (lexLt fun x y => decide (x < y))

def sortByPath {α : Type} (path : α → List Bytes) (values : List α) : List α :=
  values.insertionSort fun x y => pathLt (path y) (path x) = false

/-- `dedup_by` after the element kept last. -/
def dedupAfter {α : Type} (same : α → α → Bool) (kept : α) : List α → List α
  | [] => []
  | value :: values =>
    if same value kept then dedupAfter same kept values
    else value :: dedupAfter same value values

def dedupBy {α : Type} (same : α → α → Bool) : List α → List α
  | [] => []
  | value :: values => value :: dedupAfter same value values

/-- The created names with the last position and kind they are created with. -/
abbrev CreatedNames := AList fun _ : QualifiedName => Nat × ObjectKind

def recordCreated (created : CreatedNames) (entry : DefinitionOperation × Nat) : CreatedNames :=
  match entry.1 with
  | .create definition =>
    created.insert definition.objectRef.name (entry.2, definition.objectRef.kind)
  | .deprecateTarget _ => created

def createdNames (operations : List DefinitionOperation) : CreatedNames :=
  operations.zipIdx.foldl recordCreated ∅

structure BatchDependencyGraph where
  edges : AList fun _ : QualifiedName => List QualifiedName
  dependencies : List CatalogDependency

namespace BatchDependencyGraph

def empty : BatchDependencyGraph := ⟨∅, []⟩

def addNode (graph : BatchDependencyGraph) (node : QualifiedName) : BatchDependencyGraph :=
  match graph.edges.lookup node with
  | some _ => graph
  | none => { graph with edges := graph.edges.insert node [] }

def addEdge (graph : BatchDependencyGraph) (node dependent : QualifiedName) :
    BatchDependencyGraph :=
  { graph with
    edges := graph.edges.insert node (((graph.edges.lookup node).getD []).insert dependent) }

def absorbDependency (created : CreatedNames) (dependentName : QualifiedName)
    (operationIndex : Nat) (graph : BatchDependencyGraph) (dependency : CatalogDependency) :
    Result BatchDependencyGraph := do
  dependency.validate
  let graph := { graph with dependencies := graph.dependencies ++ [dependency] }
  match created.lookup dependency.dependencyName with
  | none => pure graph
  | some (dependencyIndex, kind) =>
    failIf (kind ≠ dependency.dependencyKind)
      (catalogError "catalog dependency must reference an object of the expected kind")
    failIf (operationIndex ≤ dependencyIndex) (catalogError
      "definition batch must create intra-batch dependencies before dependent objects")
    pure (graph.addEdge dependency.dependencyName dependentName)

/-- The loop body of `from_operations` over the created definitions. -/
def absorbOperation (created : CreatedNames) (graph : BatchDependencyGraph)
    (entry : DefinitionOperation × Nat) : Result BatchDependencyGraph :=
  match entry.1 with
  | .create definition =>
    definition.dependencies.foldlM (absorbDependency created definition.objectRef.name entry.2)
      (graph.addNode definition.objectRef.name)
  | .deprecateTarget _ => pure graph

structure Visit where
  visiting : List QualifiedName
  visited : List QualifiedName

def acyclicError : Error :=
  catalogError "definition batch catalog dependencies must be acyclic"

/-- `visit`. The path grows by a node of the graph at each level, so its number of nodes
bounds the depth. -/
def visit (graph : BatchDependencyGraph) : Nat → Visit → QualifiedName → Result Visit
  | 0, _, _ => .error acyclicError
  | fuel + 1, state, node =>
    if node ∈ state.visited then .ok state
    else if node ∈ state.visiting then .error acyclicError
    else do
      let state ← ((graph.edges.lookup node).getD []).foldlM (graph.visit fuel)
        { state with visiting := node :: state.visiting }
      pure ⟨state.visiting.erase node, node :: state.visited⟩

def nodes (graph : BatchDependencyGraph) : List QualifiedName :=
  sortByPath (fun name => name.parts.map strBytes) graph.edges.keys

def validateAcyclic (graph : BatchDependencyGraph) : Result Unit := do
  let _ ← graph.nodes.foldlM (graph.visit (graph.edges.keys.length + 1)) ⟨[], []⟩
  pure ()

def fromOperations (operations : List DefinitionOperation) : Result BatchDependencyGraph := do
  let graph ← operations.zipIdx.foldlM (absorbOperation (createdNames operations)) empty
  graph.validateAcyclic
  pure graph

def canonicalDependencyKey (dependency : CatalogDependency) : List Bytes :=
  [[dependency.kind.tag], strBytes dependency.dependencyName.asCatalogPath,
    [dependency.dependencyKind.tag], strBytes dependency.dependentName.asCatalogPath,
    [dependency.dependentKind.tag]]

def canonicalDependencies (graph : BatchDependencyGraph) : List CatalogDependency :=
  dedupBy (fun left right => canonicalDependencyKey left == canonicalDependencyKey right)
    (sortByPath canonicalDependencyKey graph.dependencies)

def dependencyMaterial (dependency : CatalogDependency) : Bytes :=
  [dependency.kind.tag, dependency.dependentKind.tag] ++ dependency.dependentName.material ++
    [dependency.dependencyKind.tag] ++ dependency.dependencyName.material

def dependencyGraphHash (graph : BatchDependencyGraph) : DefinitionBatchDependencyGraphHash :=
  sha256 (strMaterial "andromeda.catalog.definition-batch.dependency-graph.v1.sha256" ++
    countPrefixed QualifiedName.material graph.nodes ++
    countPrefixed dependencyMaterial graph.canonicalDependencies)

end BatchDependencyGraph

/-! ## The batch and its hashes -/

def CatalogObjectRef.sourceMaterial (object : CatalogObjectRef) : Bytes :=
  u64 object.objectId ++ object.name.material ++ [object.kind.tag] ++ u64 object.catalogVersion

def DefinitionOperation.sourceMaterial (entry : DefinitionOperation × Nat) : Bytes :=
  u64 (UInt64.ofNat entry.2) ++ match entry.1 with
    | .create definition =>
      0 :: definition.objectRef.sourceMaterial ++ definition.shapeHash.bytes
    | .deprecateTarget target => 1 :: target.object.sourceMaterial

structure DefinitionBatch where
  batchId : DefinitionBatchId
  databaseId : DatabaseId
  namespaceId : NamespaceId
  baseVersion : CatalogVersion
  operations : List DefinitionOperation

namespace DefinitionBatch

def sourceHash (batch : DefinitionBatch) : DefinitionBatchSourceHash :=
  sha256 (strMaterial "andromeda.catalog.definition-batch.source.v1.sha256" ++
    u64 batch.batchId ++ u64 batch.databaseId ++
    u64 batch.namespaceId ++ u64 batch.baseVersion ++
    countPrefixed DefinitionOperation.sourceMaterial batch.operations.zipIdx)

def dependencyGraphHash (batch : DefinitionBatch) : Result DefinitionBatchDependencyGraphHash := do
  let graph ← BatchDependencyGraph.fromOperations batch.operations
  pure graph.dependencyGraphHash

def validateIntegrityHashes (batch : DefinitionBatch) (sourceHash : DefinitionBatchSourceHash)
    (dependencyGraphHash : DefinitionBatchDependencyGraphHash) : Result Unit := do
  failIf sourceHash.IsZero (catalogError "definition batch source hash must not be zero")
  failIf dependencyGraphHash.IsZero
    (catalogError "definition batch dependency graph hash must not be zero")
  failIf (sourceHash ≠ batch.sourceHash) (catalogError
    "definition batch source hash must match the current ordered batch source")
  let current ← batch.dependencyGraphHash
  failIf (dependencyGraphHash ≠ current) (catalogError
    "definition batch dependency graph hash must match the current batch dependency graph")

end DefinitionBatch

def procedureRejection (entry : DefinitionOperation × Nat) : Option String :=
  match entry.1 with
  | .create (.procedure contract) =>
    let subject :=
      "operation " ++ toString entry.2 ++ " procedure " ++ contract.object.name.asCatalogPath ++ ": "
    if contract.object.kind ≠ .procedure then
      some (subject ++ "catalog object kind must be Procedure")
    else
      match contract.validateCanonicalHash with
      | .error error => some (subject ++ error.message)
      | .ok () =>
        match contract.validateBinding with
        | .error error => some (subject ++ error.message)
        | .ok () => none
  | _ => none

def validateSrplOperationsDryRun (operations : List DefinitionOperation) : Result Unit :=
  let reasons := operations.zipIdx.filterMap procedureRejection
  failIf (reasons ≠ []) (contractError
    ("definition batch SRPL dry-run rejected " ++ toString reasons.length ++ " procedure(s): " ++
      "; ".intercalate reasons))

/-- `PlannedDefinition` and `PlannedLifecycleTransition`: what later stages read of them. -/
structure PlannedObject where
  objectId : CatalogObjectId
  name : QualifiedName
  kind : ObjectKind
deriving DecidableEq

def PlannedObject.ofRef (object : CatalogObjectRef) : PlannedObject :=
  ⟨object.objectId, object.name, object.kind⟩

def duplicateLifecycleError : Error :=
  catalogError "definition batch must not change the same lifecycle object id twice"

def duplicateLifecycleNameError : Error :=
  catalogError "definition batch must not change the same lifecycle object name twice"

structure DryRunState where
  objectIds : List CatalogObjectId
  objectNames : List QualifiedName
  lifecycleTargetIds : List CatalogObjectId
  lifecycleTargetNames : List QualifiedName
  createdObjects : List PlannedObject
  deprecatedObjects : List PlannedObject

def DryRunState.empty : DryRunState := ⟨[], [], [], [], [], []⟩

def dryRunOperation (baseVersion nextVersion : CatalogVersion) (state : DryRunState)
    (operation : DefinitionOperation) : Result DryRunState :=
  match operation with
  | .create definition => do
    definition.validate
    let object := definition.objectRef
    failIf (object.catalogVersion ≠ nextVersion) (catalogError
      "created object catalog version must match the planned next catalog version")
    failIf (object.objectId ∈ state.lifecycleTargetIds ∨ object.objectId ∈ state.objectIds)
      duplicateLifecycleError
    failIf (object.name ∈ state.lifecycleTargetNames ∨ object.name ∈ state.objectNames)
      duplicateLifecycleNameError
    pure { state with
      objectIds := object.objectId :: state.objectIds
      objectNames := object.name :: state.objectNames
      createdObjects := state.createdObjects ++ [PlannedObject.ofRef object] }
  | .deprecateTarget target => do
    target.validate
    failIf (baseVersion < target.object.catalogVersion) (catalogError
      "deprecated object version must not be newer than the definition batch base version")
    failIf (target.object.objectId ∈ state.objectIds ∨
        target.object.objectId ∈ state.lifecycleTargetIds)
      duplicateLifecycleError
    failIf (target.object.name ∈ state.objectNames ∨
        target.object.name ∈ state.lifecycleTargetNames)
      duplicateLifecycleNameError
    pure { state with
      lifecycleTargetIds := target.object.objectId :: state.lifecycleTargetIds
      lifecycleTargetNames := target.object.name :: state.lifecycleTargetNames
      deprecatedObjects := state.deprecatedObjects ++ [PlannedObject.ofRef target.object] }

/-- `DefinitionBatchDryRun`, without the fields it repeats from the batch. -/
structure DefinitionBatchDryRun where
  nextVersion : CatalogVersion
  sourceHash : DefinitionBatchSourceHash
  dependencyGraphHash : DefinitionBatchDependencyGraphHash
  createdObjects : List PlannedObject
  deprecatedObjects : List PlannedObject

def dryRunDefinitionBatch (batch : DefinitionBatch) : Result DefinitionBatchDryRun := do
  failIf (batch.operations = [])
    (catalogError "definition batch must contain at least one operation")
  failIf (batch.batchId = 0) (catalogError "definition batch id must not be zero")
  failIf (batch.databaseId = 0) (catalogError "definition batch database id must not be zero")
  failIf (batch.namespaceId = 0) (catalogError "definition batch namespace id must not be zero")
  let nextVersion ← orError (checkedAdd batch.baseVersion 1)
    (catalogError "catalog version overflow during definition batch planning")
  validateSrplOperationsDryRun batch.operations
  let state ← batch.operations.foldlM (dryRunOperation batch.baseVersion nextVersion)
    DryRunState.empty
  let dependencyGraphHash ← batch.dependencyGraphHash
  pure
    { nextVersion
      sourceHash := batch.sourceHash
      dependencyGraphHash
      createdObjects := state.createdObjects
      deprecatedObjects := state.deprecatedObjects }

end Andromeda.Catalog
