import Andromeda.Catalog.SnapshotSteps

/-!
# A planned batch is accepted

What the dry run of a batch puts into its plan, and that a plan made against a snapshot passes
every check the snapshot makes when the plan is applied or published.
-/

namespace Andromeda.Catalog

open Fallible Effect List CatalogMutationOperation PlannedObject

def createdObjectsOf (operations : List DefinitionOperation) : List PlannedObject :=
  operations.filterMap fun operation =>
    match operation with
    | .create definition => some (ofRef definition.objectRef)
    | .deprecateTarget _ => none

def deprecatedObjectsOf (operations : List DefinitionOperation) : List PlannedObject :=
  operations.filterMap fun operation =>
    match operation with
    | .create _ => none
    | .deprecateTarget target => some (ofRef target.object)

variable {nextVersion : CatalogVersion} {batch : DefinitionBatch} {batchPlan : DefinitionBatchPlan}

theorem dryRunOperations_objects {baseVersion : CatalogVersion}
    {operations : List DefinitionOperation} {state state' : DryRunState}
    (h : operations.foldlM (dryRunOperation baseVersion nextVersion) state = .ok state') :
    state'.createdObjects = state.createdObjects ++ createdObjectsOf operations ∧
      state'.deprecatedObjects = state.deprecatedObjects ++ deprecatedObjectsOf operations := by
  induction operations generalizing state with
  | nil =>
    rw [foldlM_nil, pure_eq_ok] at h
    subst h
    simp [createdObjectsOf, deprecatedObjectsOf]
  | cons operation operations ih =>
    rw [foldlM_cons, Fallible.bind_eq_ok] at h
    obtain ⟨next, hnext, hrest⟩ := h
    obtain ⟨hcreated, hdeprecated⟩ := ih hrest
    rw [hcreated, hdeprecated]
    cases operation with
    | create definition | deprecateTarget target =>
      simp only [dryRunOperation, ok_iff] at hnext
      obtain ⟨-, -, -, -, rfl⟩ := hnext
      simp [createdObjectsOf, deprecatedObjectsOf]

section Deltas

variable (operations : List DefinitionOperation) (nextVersion : CatalogVersion)

theorem mutationDeltas_toDefinition :
    (mutationDeltas operations nextVersion).map (fun delta => delta.operation.toDefinition) =
      operations := by
  have hentry : ∀ entry : DefinitionOperation × Nat,
      toDefinition (CatalogMutationDelta.operation (match entry.1 with
          | .create definition => CatalogMutationDelta.create entry.2 nextVersion definition
          | .deprecateTarget target =>
            CatalogMutationDelta.deprecate entry.2 nextVersion target)) = entry.1 := by
    rintro ⟨operation, index⟩
    cases operation <;> rfl
  calc (mutationDeltas operations nextVersion).map (fun delta => delta.operation.toDefinition)
      = operations.zipIdx.map Prod.fst := by
        rw [mutationDeltas, map_map]
        exact map_congr_left fun entry _ => hentry entry
    _ = operations := zipIdx_map_fst 0 operations

theorem plannedObjects_eq {deltas : List CatalogMutationDelta}
    (hrefs : ∀ delta ∈ deltas, ∀ object definition,
      delta.operation = .createObject object definition → object = definition.objectRef) :
    CatalogSnapshot.plannedCreated deltas =
        createdObjectsOf (deltas.map fun delta => delta.operation.toDefinition) ∧
      CatalogSnapshot.plannedDeprecated deltas =
        deprecatedObjectsOf (deltas.map fun delta => delta.operation.toDefinition) := by
  induction deltas with
  | nil => exact ⟨rfl, rfl⟩
  | cons delta deltas ih =>
    obtain ⟨hcreated, hdeprecated⟩ := ih fun delta' hdelta' =>
      hrefs delta' (mem_cons_of_mem delta hdelta')
    obtain ⟨index, version, operation⟩ := delta
    cases operation with
    | createObject object definition =>
      have href := hrefs _ mem_cons_self object definition rfl
      subst href
      exact ⟨congrArg (ofRef definition.objectRef :: ·) hcreated, hdeprecated⟩
    | deprecateObject target =>
      exact ⟨hcreated, congrArg (ofRef target.object :: ·) hdeprecated⟩

theorem mutationDeltas_refs : ∀ delta ∈ mutationDeltas operations nextVersion, ∀ object definition,
      delta.operation = .createObject object definition → object = definition.objectRef := by
  intro delta hmem object definition hoperation
  rw [mutationDeltas, mem_map] at hmem
  obtain ⟨⟨operation, index⟩, -, rfl⟩ := hmem
  cases operation with
  | create definition' =>
    cases hoperation
    rfl
  | deprecateTarget target => cases hoperation

end Deltas

structure IsPlanOf (batch : DefinitionBatch) (batchPlan : DefinitionBatchPlan) : Prop where
  successor : checkedAdd batch.baseVersion 1 = some batchPlan.mutationPlan.nextVersion
  deltas : batchPlan.mutationPlan.deltas =
    mutationDeltas batch.operations batchPlan.mutationPlan.nextVersion
  definitionBatch : batchPlan.mutationPlan.definitionBatch = batch
  sourceHash : batchPlan.mutationPlan.sourceHash = batch.sourceHash
  dependencyGraphHash : batch.dependencyGraphHash = .ok batchPlan.mutationPlan.dependencyGraphHash
  semantics : batchPlan.mutationPlan.publicationSemantics = .durablePublicationExternal
  valid : batchPlan.mutationPlan.validateNew = .ok ()
  created : batchPlan.createdObjects = CatalogSnapshot.plannedCreated batchPlan.mutationPlan.deltas
  deprecated :
    batchPlan.deprecatedObjects = CatalogSnapshot.plannedDeprecated batchPlan.mutationPlan.deltas

theorem isPlanOf_of_dryRun (h : batch.dryRun = .ok batchPlan) : IsPlanOf batch batchPlan := by
  simp only [DefinitionBatch.dryRun, dryRunDefinitionBatch, CatalogMutationPlan.new, ok_iff] at h
  obtain ⟨dryRun, ⟨-, -, -, -, nextVersion, hnext, -, state, hstate, graphHash, hgraph, rfl⟩, -,
    plan, ⟨hvalid, rfl⟩, rfl⟩ := h
  obtain ⟨hcreated, hdeprecated⟩ := dryRunOperations_objects hstate
  obtain ⟨hplannedCreated, hplannedDeprecated⟩ :=
    plannedObjects_eq (mutationDeltas_refs batch.operations nextVersion)
  rw [mutationDeltas_toDefinition] at hplannedCreated hplannedDeprecated
  refine ⟨hnext, rfl, ?_, rfl, hgraph, rfl, hvalid, hcreated.trans hplannedCreated.symm,
    hdeprecated.trans hplannedDeprecated.symm⟩
  rw [CatalogMutationPlan.definitionBatch]
  simp [mutationDeltas_toDefinition]

namespace IsPlanOf

variable {batch : DefinitionBatch} {batchPlan : DefinitionBatchPlan}

theorem refs (h : IsPlanOf batch batchPlan) :
    ∀ delta ∈ batchPlan.mutationPlan.deltas, ∀ object definition,
      delta.operation = .createObject object definition → object = definition.objectRef := by
  rw [h.deltas]
  exact mutationDeltas_refs batch.operations batchPlan.mutationPlan.nextVersion

theorem validateDefinitionBatchIntegrity (h : IsPlanOf batch batchPlan) :
    batchPlan.mutationPlan.validateDefinitionBatchIntegrity = .ok () := by
  have hvalid := h.valid
  simp only [CatalogMutationPlan.validateNew, ok_iff] at hvalid
  obtain ⟨-, -, -, -, -, -, hsource, hgraph, -⟩ := hvalid
  simp only [CatalogMutationPlan.validateDefinitionBatchIntegrity, ok_iff, mapError_eq_ok, DefinitionBatch.validateIntegrityHashes, h.definitionBatch, h.dependencyGraphHash]
  exact ⟨h.valid, hsource, hgraph, h.sourceHash, _, rfl, rfl⟩

end IsPlanOf

theorem validateDeltasFrom_cons {previousVersion : CatalogVersion} {expectedIndex : Nat}
    {ids : List CatalogObjectId} {names : List QualifiedName} {delta : CatalogMutationDelta}
    {deltas : List CatalogMutationDelta}
    (h : validateDeltasFrom previousVersion nextVersion expectedIndex ids names
      (delta :: deltas) = .ok ()) :
    delta.operationIndex = expectedIndex ∧ delta.plannedVersion = nextVersion ∧
      validateDeltasFrom previousVersion nextVersion (expectedIndex + 1)
        (delta.object.objectId :: ids) (delta.object.name :: names) deltas = .ok () := by
  obtain ⟨index, version, operation⟩ := delta
  cases operation with
  | createObject object definition | deprecateObject target =>
    simp only [validateDeltasFrom, ok_iff] at h
    obtain ⟨hindex, hversion, -, -, -, -, hrest⟩ := h
    exact ⟨hindex, hversion, hrest⟩

namespace CatalogSnapshot

variable {ρ : Type} {s : CatalogSnapshot ρ} {plan : CatalogMutationPlan}
  {ids : List CatalogObjectId} {names : List QualifiedName} {expectedIndex : Nat}
  {deltas : List CatalogMutationDelta}

theorem validateDelta_of_planned {delta : CatalogMutationDelta}
    (hshape : validateDeltasFrom plan.previousVersion plan.nextVersion expectedIndex ids names
      (delta :: deltas) = .ok ()) (hplanned : s.validateBatchOperation (plannedCreated plan.deltas)
      (plannedDeprecated plan.deltas) delta.operation.toDefinition = .ok ())
    (href : ∀ object definition,
      delta.operation = .createObject object definition → object = definition.objectRef) :
    s.validateDelta plan ids names delta = .ok () := by
  obtain ⟨index, version, operation⟩ := delta
  cases operation with
  | createObject object definition =>
    obtain rfl := href object definition rfl
    simp only [validateDeltasFrom, ok_iff] at hshape
    obtain ⟨-, -, hdefinition, hversion, hids, hnames, -⟩ := hshape
    simp only [toDefinition, validateBatchOperation, ok_iff] at hplanned
    obtain ⟨hid, hname, hdependencies⟩ := hplanned
    simp only [validateDelta, ok_iff]
    exact ⟨hdefinition, hdependencies, hversion, hid, hids, hname, hnames⟩
  | deprecateObject target =>
    simp only [validateDeltasFrom, ok_iff] at hshape
    obtain ⟨-, -, htarget, hversion, hids, hnames, -⟩ := hshape
    simp only [toDefinition, validateBatchOperation, ok_iff] at hplanned
    obtain ⟨-, existing, hexisting, hobject, hindex, hactive⟩ := hplanned
    have hstatus : ¬ (s.appliedLifecycleById target.object.objectId).map
        CatalogObjectLifecycle.status = some .deprecated := by
      intro hdeprecated
      rw [AppliedIsActiveObject, hdeprecated] at hactive
      cases hactive
    simp only [validateDelta, ok_iff]
    refine ⟨htarget, hversion, hids, hnames, existing, hexisting, ?_, ?_, ?_, hindex, hstatus⟩
    · rw [hobject]
    · rw [hobject]
    · rw [hobject]

theorem validateDeltas_of_planned
    (hshape : validateDeltasFrom plan.previousVersion plan.nextVersion expectedIndex ids names
      deltas = .ok ())
    (hplanned : ∀ delta ∈ deltas, s.validateBatchOperation (plannedCreated plan.deltas)
      (plannedDeprecated plan.deltas) delta.operation.toDefinition = .ok ())
    (hrefs : ∀ delta ∈ deltas, ∀ object definition,
      delta.operation = .createObject object definition → object = definition.objectRef) :
    s.validateDeltas plan expectedIndex ids names deltas = .ok () := by
  induction deltas generalizing expectedIndex ids names with
  | nil => rfl
  | cons delta deltas ih =>
    have hdelta := validateDelta_of_planned hshape (hplanned delta mem_cons_self)
      (hrefs delta mem_cons_self)
    obtain ⟨hindex, hversion, hrest⟩ := validateDeltasFrom_cons hshape
    simp only [validateDeltas, ok_iff]
    exact ⟨hindex, hversion, hdelta, ih hrest
      (forall_mem_cons.mp hplanned).2
      (forall_mem_cons.mp hrefs).2⟩

theorem validatePlan_of_planDefinitionBatch {batch : DefinitionBatch}
    {batchPlan : DefinitionBatchPlan} (h : s.planDefinitionBatch batch = .ok batchPlan) :
    IsPlanOf batch batchPlan ∧ s.validatePlan batchPlan.mutationPlan = .ok () := by
  simp only [planDefinitionBatch, validateDefinitionBatchOperations, ok_iff] at h
  obtain ⟨plan, hdry, ⟨hdatabase, hnamespace, hversion, hoperations, hdependents⟩, rfl⟩ := h
  have hplan := isPlanOf_of_dryRun hdry
  refine ⟨hplan, ?_⟩
  have hvalid := hplan.valid
  simp only [CatalogMutationPlan.validateNew, ok_iff] at hvalid
  obtain ⟨-, -, -, -, -, hadvances, -, -, hshape⟩ := hvalid
  rw [hplan.created, hplan.deprecated] at hoperations
  have hplanned : ∀ delta ∈ plan.mutationPlan.deltas, s.validateBatchOperation
      (plannedCreated plan.mutationPlan.deltas) (plannedDeprecated plan.mutationPlan.deltas)
      delta.operation.toDefinition = .ok () := by
    intro delta hdelta
    apply forM_eq_ok.mp hoperations
    rw [← hplan.definitionBatch]
    exact mem_map_of_mem hdelta
  have hbatch := hplan.definitionBatch
  subst hbatch
  rw [hplan.deprecated] at hdependents
  simp only [validatePlan, ok_iff]
  refine ⟨hdatabase.symm, hnamespace.symm, hversion.symm, hadvances, ?_, hdependents⟩
  exact validateDeltas_of_planned hshape hplanned hplan.refs

theorem applyMutationPlan_of_valid (hintegrity : plan.validateDefinitionBatchIntegrity = .ok ())
    (hvalid : s.validatePlan plan = .ok ()) :
    ∃ report, applyMutationPlan plan s = (.ok report, s.applied plan none) := by
  rw [applyMutationPlan, hintegrity, lift_ok_bind, applyMutationPlanInternal,
    get_bind, hvalid, lift_ok_bind, modify_bind, modify_bind,
    pure_apply]
  exact ⟨_, rfl⟩

end CatalogSnapshot

def CatalogMutationPlan.commitEvidence (plan : CatalogMutationPlan)
    (durability : CatalogMutationDurability) : CatalogMutationCommitEvidence :=
  ⟨plan.commitBoundary, plan.recordCount, durability⟩

namespace IsPlanOf

variable {batch : DefinitionBatch} {batchPlan : DefinitionBatchPlan}

theorem length_deltas (h : IsPlanOf batch batchPlan) : 1 ≤ batchPlan.mutationPlan.deltas.length ∧
      batchPlan.mutationPlan.deltas.length ≤ maxApplyRecordsPerBatch := by
  have hvalid := h.valid
  simp only [CatalogMutationPlan.validateNew, ok_iff] at hvalid
  obtain ⟨hnonempty, hlimit, -⟩ := hvalid
  exact ⟨length_pos_of_ne_nil hnonempty, Nat.le_of_not_lt hlimit⟩

theorem advances (h : IsPlanOf batch batchPlan) :
    batchPlan.mutationPlan.previousVersion < batchPlan.mutationPlan.nextVersion := by
  have hvalid := h.valid
  simp only [CatalogMutationPlan.validateNew, ok_iff] at hvalid
  obtain ⟨-, -, -, -, -, hadvances, -⟩ := hvalid
  exact hadvances

variable {durability : CatalogMutationDurability}

theorem validateForPlan (h : IsPlanOf batch batchPlan) (hdurable : durability.validate = .ok ()) :
    (batchPlan.mutationPlan.commitEvidence durability).validateForPlan batchPlan.mutationPlan =
      .ok () := by
  simp only [CatalogMutationCommitEvidence.validateForPlan, ok_iff]
  exact ⟨h.validateDefinitionBatchIntegrity, hdurable, h.advances, rfl,
    ⟨rfl, rfl, rfl, rfl, rfl, rfl, rfl, rfl⟩, h.semantics⟩

/-- The operation span of the receipt fits its record count. -/
theorem fromPlanAndEvidence (h : IsPlanOf batch batchPlan)
    (hdurable : durability.validate = .ok ()) :
    ∃ receipt, CatalogPublicationReceipt.fromPlanAndEvidence batchPlan.mutationPlan
      (batchPlan.mutationPlan.commitEvidence durability) = .ok receipt := by
  obtain ⟨hpos, hlimit⟩ := h.length_deltas
  have hspan : (UInt32.ofNat (batchPlan.mutationPlan.deltas.length - 1) - 0 + 1).toNat =
      batchPlan.mutationPlan.deltas.length := by
    have hsmall : batchPlan.mutationPlan.deltas.length ≤ 1024 := hlimit
    rw [UInt32.sub_zero, UInt32.toNat_add, UInt32.toNat_ofNat']
    simp only [UInt32.reduceToNat]
    omega
  simp only [CatalogPublicationReceipt.fromPlanAndEvidence, ok_iff]
  refine ⟨_, h.validateForPlan hdurable, UInt32.not_lt_zero, ?_, rfl⟩
  rw [hspan]
  rfl

end IsPlanOf

theorem CatalogSnapshot.publishDurableMutationPlan_of_planned
    {s : CatalogSnapshot CatalogPublicationReceipt}
    (h : s.planDefinitionBatch batch = .ok batchPlan) {durability : CatalogMutationDurability}
    (hdurable : durability.validate = .ok ()) :
    ∃ receipt, publishDurableMutationPlan batchPlan.mutationPlan
        (batchPlan.mutationPlan.commitEvidence durability) s =
      (.ok receipt, s.applied batchPlan.mutationPlan (some receipt)) := by
  obtain ⟨hplan, hvalid⟩ := validatePlan_of_planDefinitionBatch h
  obtain ⟨receipt, hreceipt⟩ := hplan.fromPlanAndEvidence hdurable
  refine ⟨receipt, ?_⟩
  rw [publishDurableMutationPlan, hplan.validateDefinitionBatchIntegrity, lift_ok_bind,
    hreceipt, lift_ok_bind]
  apply bind_of_ok
  rw [applyMutationPlanInternal, get_bind, hvalid, lift_ok_bind, modify_bind,
    modify_bind, pure_apply]
  rfl

end Andromeda.Catalog
