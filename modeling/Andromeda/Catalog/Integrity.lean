import Andromeda.Catalog.Planning

/-!
# Catalog integrity

Over every run of applications and publications of planned batches the name index and the
definitions stay inverse to each other, and what an active object depends on stays there,
of the right kind and active. One plan may create and deprecate many objects that depend on
each other, so the step is proved from the maps before and after the whole plan.
-/

namespace Andromeda.Catalog

open Fallible Effect List PlannedObject

abbrev Snapshot := CatalogSnapshot CatalogPublicationReceipt

inductive SnapshotCall where
  | apply (plan : CatalogMutationPlan)
  | publish (plan : CatalogMutationPlan) (evidence : CatalogMutationCommitEvidence)

namespace SnapshotCall

def plan : SnapshotCall → CatalogMutationPlan
  | .apply plan => plan
  | .publish plan _ => plan

def perform : SnapshotCall → Effect Snapshot Error Unit
  | .apply plan => do
    let _ ← CatalogSnapshot.applyMutationPlan plan
    pure ()
  | .publish plan evidence => do
    let _ ← CatalogSnapshot.publishDurableMutationPlan plan evidence
    pure ()

def run (calls : List SnapshotCall) (s : Snapshot) : Snapshot :=
  calls.foldl (fun s call => (call.perform s).2) s

theorem perform_cases (call : SnapshotCall) (s : Snapshot) : (∃ e, call.perform s = (.error e, s)) ∨
      ∃ receipt, call.perform s = (.ok (), s.applied call.plan receipt) ∧
        s.validatePlan call.plan = .ok () ∧
        (receipt.isSome = true ↔ ∃ plan evidence, call = .publish plan evidence) := by
  rcases hrun : call.perform s with ⟨result, t⟩
  cases call with
  | apply plan =>
    rcases bind_cases hrun with ⟨e, hfail, rfl⟩ | ⟨report, u, hok, hpure⟩
    · rcases CatalogSnapshot.applyMutationPlan_cases hfail with ⟨_, -, rfl⟩ | ⟨_, hok, -⟩
      · exact .inl ⟨e, rfl⟩
      · contradiction
    · rcases CatalogSnapshot.applyMutationPlan_cases hok with ⟨_, herror, -⟩ | ⟨_, -, hvalid, rfl⟩
      · contradiction
      · cases hpure
        exact .inr ⟨none, rfl, hvalid, by simp⟩
  | publish plan evidence =>
    rcases bind_cases hrun with ⟨e, hfail, rfl⟩ | ⟨receipt, u, hok, hpure⟩
    · rcases CatalogSnapshot.publishDurableMutationPlan_cases hfail with
        ⟨_, -, rfl⟩ | ⟨_, hok, -⟩
      · exact .inl ⟨e, rfl⟩
      · contradiction
    · rcases CatalogSnapshot.publishDurableMutationPlan_cases hok with
        ⟨_, herror, -⟩ | ⟨receipt', -, hvalid, rfl⟩
      · contradiction
      · cases hpure
        exact .inr ⟨some receipt', rfl, hvalid, by simp⟩

end SnapshotCall

namespace CatalogSnapshot

variable {ρ : Type} {s : CatalogSnapshot ρ} {plan : CatalogMutationPlan}

/-! ## Plans of definition batches -/

def BuiltFromBatch (plan : CatalogMutationPlan) : Prop :=
  ∃ batch : DefinitionBatch, ∃ batchPlan, batch.dryRun = .ok batchPlan ∧
    batchPlan.mutationPlan = plan

/-- Created objects carry the reference of their own definition. -/
def RefsAgree (plan : CatalogMutationPlan) : Prop :=
  ∀ object definition, Creates plan object definition → object = definition.objectRef

theorem refsAgree_of_builtFromBatch (h : BuiltFromBatch plan) : RefsAgree plan := by
  obtain ⟨batch, batchPlan, hdry, rfl⟩ := h
  rintro object definition ⟨index, version, hmem⟩
  exact (isPlanOf_of_dryRun hdry).refs _ hmem object definition rfl

/-! ## Facts about the objects of an admitted plan -/

variable {definition : CatalogDefinition} {target : CatalogLifecycleTarget}
  {deltas : List CatalogMutationDelta} {planned : PlannedObject} {dependency : CatalogDependency}

theorem Admitted.created (h : Admitted s plan) {object : CatalogObjectRef}
    (hcreates : Creates plan object definition) :
    s.validateDefinitionDependencies definition (plannedCreated plan.deltas)
        (plannedDeprecated plan.deltas) = .ok () ∧
      object.catalogVersion = plan.nextVersion ∧ object.objectId ∉ s.objectsById ∧
      object.name ∉ s.objectNames := by
  obtain ⟨index, version, hmem⟩ := hcreates
  rcases h.fits _ hmem with ⟨hdependencies, hversion, hid, hname⟩ | _
  exact ⟨hdependencies, hversion, hid, hname⟩

theorem Admitted.deprecated (h : Admitted s plan) (hdeprecates : Deprecates plan target) :
    ∃ existing, s.objectsById.lookup target.object.objectId = some existing ∧
      existing.objectRef.name = target.object.name ∧
      existing.objectRef.kind = target.object.kind := by
  obtain ⟨index, version, hmem⟩ := hdeprecates
  rcases h.fits _ hmem with _ | ⟨hexisting, hname, hkind⟩
  exact ⟨_, hexisting, hname, hkind⟩

theorem mem_plannedCreated : planned ∈ plannedCreated deltas ↔ ∃ index version object definition,
        ⟨index, version, .createObject object definition⟩ ∈ deltas ∧ ofRef object = planned := by
  rw [plannedCreated, mem_filterMap]
  constructor
  · rintro ⟨⟨index, version, operation⟩, hmem, hplanned⟩
    cases operation with
    | createObject object definition =>
      exact ⟨index, version, object, definition, hmem, Option.some.inj hplanned⟩
    | deprecateObject target => contradiction
  · rintro ⟨index, version, object, definition, hmem, hplanned⟩
    exact ⟨_, hmem, congrArg some hplanned⟩

theorem mem_plannedDeprecated : planned ∈ plannedDeprecated deltas ↔
      ∃ index version target, ⟨index, version, .deprecateObject target⟩ ∈ deltas ∧
        ofRef target.object = planned := by
  rw [plannedDeprecated, mem_filterMap]
  constructor
  · rintro ⟨⟨index, version, operation⟩, hmem, hplanned⟩
    cases operation with
    | createObject object definition => contradiction
    | deprecateObject target => exact ⟨index, version, target, hmem, Option.some.inj hplanned⟩
  · rintro ⟨index, version, target, hmem, hplanned⟩
    exact ⟨_, hmem, congrArg some hplanned⟩

/-! ## What the dependency checks say -/

def Supports (s : CatalogSnapshot ρ) (dependency : CatalogDependency) : Prop :=
  ∃ definition, s.appliedGetByName dependency.dependencyName = some definition ∧
    definition.objectRef.kind = dependency.dependencyKind ∧
    s.AppliedIsActiveObject definition.objectRef.objectId

theorem validateDependency_cases {created deprecated : List PlannedObject}
    (h : s.validateDependency created deprecated dependency = .ok ()) :
    ¬ Targeted deprecated dependency ∧
      ((∃ planned ∈ created, planned.name = dependency.dependencyName ∧
          planned.kind = dependency.dependencyKind) ∨ s.Supports dependency) := by
  simp only [validateDependency, ok_iff] at h
  obtain ⟨-, htargeted, h⟩ := h
  refine ⟨htargeted, ?_⟩
  split at h
  next planned hfind =>
    rw [failIf_eq_ok, not_not] at h
    have hname : planned.name = dependency.dependencyName := by
      simpa using List.find?_some hfind
    exact .inl ⟨planned, List.mem_of_find?_eq_some hfind, hname, h⟩
  next =>
    simp only [ok_iff] at h
    obtain ⟨existing, hexisting, hkind, hactive⟩ := h
    exact .inr ⟨existing, hexisting, hkind, hactive⟩

theorem not_targeted_of_noDependents {deprecated : List PlannedObject}
    (h : s.validateNoActiveDependentsForDeprecations deprecated = .ok ()) {id : CatalogObjectId}
    (hlookup : s.objectsById.lookup id = some definition)
    (hactive : s.AppliedIsActiveObject definition.objectRef.objectId)
    (hkept : ∀ planned ∈ deprecated, planned.objectId ≠ definition.objectRef.objectId)
    (hdependency : dependency ∈ definition.dependencies) : ¬ Targeted deprecated dependency := by
  rw [validateNoActiveDependentsForDeprecations] at h
  split at h
  next hnil =>
    rintro ⟨target, htarget, -⟩
    rw [hnil] at htarget
    exact not_mem_nil htarget
  next =>
    have hentry := forM_eq_ok.mp h ⟨id, definition⟩ (AList.mem_lookup_iff.mp hlookup)
    have hnot : ¬ (¬ s.AppliedIsActiveObject definition.objectRef.objectId ∨
        definition.objectRef.objectId ∈ deprecated.map objectId) := by
      rintro (hinactive | hmem)
      · exact hinactive hactive
      · obtain ⟨planned, hplanned, heq⟩ := mem_map.mp hmem
        exact hkept planned hplanned heq
    rw [if_neg hnot] at hentry
    exact failIf_eq_ok.mp (forM_eq_ok.mp hentry dependency hdependency)

/-! ## The invariant -/

/-- The name index and the definitions are inverse to each other, and the dependencies of
active objects are there, of the right kind and active. -/
structure Integrity (s : CatalogSnapshot ρ) : Prop where
  keyed : ∀ id definition, s.objectsById.lookup id = some definition →
    definition.objectRef.objectId = id
  indexed : ∀ name id, s.objectNames.lookup name = some id ↔
    ∃ definition, s.objectsById.lookup id = some definition ∧ definition.objectRef.name = name
  supported : ∀ id definition, s.objectsById.lookup id = some definition →
    s.AppliedIsActiveObject id → ∀ dependency ∈ definition.dependencies, s.Supports dependency

theorem integrity_empty (databaseId : DatabaseId) (namespaceId : NamespaceId)
    (version : CatalogVersion) : Integrity (empty databaseId namespaceId version : CatalogSnapshot ρ) where
  keyed id definition h := by
    rw [empty, AList.lookup_empty] at h
    contradiction
  indexed name id := by
    simp [empty, AList.lookup_empty, reduceCtorEq, false_and, exists_false]
  supported id definition h := by
    rw [empty, AList.lookup_empty] at h
    contradiction

section Step

variable {receipt : Option ρ}
  {id : CatalogObjectId} {definition : CatalogDefinition} {name : QualifiedName}
  {dependency : CatalogDependency}

section

variable (h : Admitted s plan)
include h

theorem applied_objectsById_cases
    (hlookup : (s.applied plan receipt).objectsById.lookup id = some definition) :
    (∃ object, Creates plan object definition ∧ object.objectId = id) ∨
      s.objectsById.lookup id = some definition := by
  by_cases hcreated : ∃ object definition', Creates plan object definition' ∧ object.objectId = id
  · obtain ⟨object, definition', hcreates, rfl⟩ := hcreated
    rw [applied_objectsById_created h hcreates, Option.some.injEq] at hlookup
    subst hlookup
    exact .inl ⟨object, hcreates, rfl⟩
  · rw [applied_objectsById_of_not_created] at hlookup
    · exact .inr hlookup
    · intro object definition' hcreates heq
      exact hcreated ⟨object, definition', hcreates, heq⟩

theorem not_stored_of_creates {object : CatalogObjectRef}
    {definition' : CatalogDefinition} (hcreates : Creates plan object definition)
    (hlookup : s.objectsById.lookup object.objectId = some definition') : False := by
  have hnone := AList.lookup_eq_none.mpr (h.created hcreates).2.2.1
  rw [hnone] at hlookup
  contradiction

theorem applied_objectsById_of_stored (hlookup : s.objectsById.lookup id = some definition) :
    (s.applied plan receipt).objectsById.lookup id = some definition := by
  rw [applied_objectsById_of_not_created, hlookup]
  rintro object definition' hcreates rfl
  exact not_stored_of_creates h hcreates hlookup

theorem applied_objectNames_of_indexed (hlookup : s.objectNames.lookup name = some id) :
    (s.applied plan receipt).objectNames.lookup name = some id := by
  rw [applied_objectNames_of_not_created, hlookup]
  rintro object definition hcreates rfl
  have hnone := AList.lookup_eq_none.mpr (h.created hcreates).2.2.2
  rw [hnone] at hlookup
  contradiction

theorem applied_active_of_stored (hlookup : s.objectsById.lookup id = some definition)
    (hkept : ∀ target, Deprecates plan target → target.object.objectId ≠ id) :
    (s.applied plan receipt).AppliedIsActiveObject id ↔ s.AppliedIsActiveObject id := by
  rw [AppliedIsActiveObject, AppliedIsActiveObject, applied_lifecycle_of_untouched _ hkept]
  rintro object definition' hcreates rfl
  exact not_stored_of_creates h hcreates hlookup

theorem not_deprecates_of_active (hactive : (s.applied plan receipt).AppliedIsActiveObject id) :
    ∀ target, Deprecates plan target → target.object.objectId ≠ id := by
  rintro target hdeprecates rfl
  rw [AppliedIsActiveObject, applied_lifecycle_deprecated h hdeprecates] at hactive
  cases hactive

end

theorem appliedGetByName_eq_some : s.appliedGetByName name = some definition ↔
      ∃ id, s.objectNames.lookup name = some id ∧ s.objectsById.lookup id = some definition :=
  Option.bind_eq_some_iff

theorem Supports.applied (hs : Integrity s) (h : Admitted s plan)
    (hsupports : s.Supports dependency)
    (hnot : ¬ Targeted (plannedDeprecated plan.deltas) dependency) :
    (s.applied plan receipt).Supports dependency := by
  obtain ⟨definition, hget, hkind, hactive⟩ := hsupports
  obtain ⟨id, hname, hlookup⟩ := appliedGetByName_eq_some.mp hget
  have hid : definition.objectRef.objectId = id := hs.keyed id definition hlookup
  have hdefinitionName : definition.objectRef.name = dependency.dependencyName := by
    obtain ⟨definition', hlookup', hname'⟩ := (hs.indexed _ id).mp hname
    rw [hlookup, Option.some.injEq] at hlookup'
    rw [hlookup', hname']
  have hkept : ∀ target, Deprecates plan target →
      target.object.objectId ≠ definition.objectRef.objectId := by
    intro target hdeprecates heq
    obtain ⟨existing, hexisting, htargetName, htargetKind⟩ := h.deprecated hdeprecates
    rw [heq, hid, hlookup, Option.some.injEq] at hexisting
    subst hexisting
    obtain ⟨index, version, hmem⟩ := hdeprecates
    exact hnot ⟨_, mem_plannedDeprecated.mpr ⟨index, version, target, hmem, rfl⟩,
      htargetName.symm.trans hdefinitionName, htargetKind.symm.trans hkind⟩
  refine ⟨definition, appliedGetByName_eq_some.mpr ⟨id, applied_objectNames_of_indexed h hname,
    applied_objectsById_of_stored h hlookup⟩, hkind, ?_⟩
  rw [applied_active_of_stored h (hid ▸ hlookup) hkept]
  exact hactive

theorem supports_of_created (h : Admitted s plan) (hrefs : RefsAgree plan) {planned : PlannedObject}
    (hplanned : planned ∈ plannedCreated plan.deltas)
    (hname : planned.name = dependency.dependencyName)
    (hkind : planned.kind = dependency.dependencyKind) :
    (s.applied plan receipt).Supports dependency := by
  obtain ⟨index, version, object, definition, hmem, rfl⟩ := mem_plannedCreated.mp hplanned
  have hcreates : Creates plan object definition := ⟨index, version, hmem⟩
  obtain rfl := hrefs object definition hcreates
  refine ⟨definition, appliedGetByName_eq_some.mpr ⟨definition.objectRef.objectId, ?_,
    applied_objectsById_created h hcreates⟩, hkind, ?_⟩
  · rw [← hname]
    exact applied_objectNames_created h hcreates
  · rw [AppliedIsActiveObject, applied_lifecycle_created h hcreates]
    rfl

section

variable (hs : Integrity s) (h : Admitted s plan) (hrefs : RefsAgree plan)
include hs h hrefs

theorem applied_indexed (name : QualifiedName) (id : CatalogObjectId) :
    (s.applied plan receipt).objectNames.lookup name = some id ↔
      ∃ definition, (s.applied plan receipt).objectsById.lookup id = some definition ∧
        definition.objectRef.name = name := by
  constructor
  · intro hlookup
    by_cases hcreated : ∃ object definition, Creates plan object definition ∧ object.name = name
    · obtain ⟨object, definition, hcreates, rfl⟩ := hcreated
      rw [applied_objectNames_created h hcreates, Option.some.injEq] at hlookup
      subst hlookup
      refine ⟨definition, applied_objectsById_created h hcreates, ?_⟩
      rw [hrefs object definition hcreates]
    · rw [applied_objectNames_of_not_created] at hlookup
      · obtain ⟨definition, hstored, hname⟩ := (hs.indexed name id).mp hlookup
        exact ⟨definition, applied_objectsById_of_stored h hstored, hname⟩
      · intro object definition hcreates heq
        exact hcreated ⟨object, definition, hcreates, heq⟩
  · rintro ⟨definition, hlookup, rfl⟩
    rcases applied_objectsById_cases h hlookup with ⟨object, hcreates, rfl⟩ | hstored
    · obtain rfl := hrefs object definition hcreates
      exact applied_objectNames_created h hcreates
    · exact applied_objectNames_of_indexed h ((hs.indexed _ id).mpr ⟨definition, hstored, rfl⟩)

theorem applied_supported
    (hlookup : (s.applied plan receipt).objectsById.lookup id = some definition)
    (hactive : (s.applied plan receipt).AppliedIsActiveObject id)
    (hdependency : dependency ∈ definition.dependencies) :
    (s.applied plan receipt).Supports dependency := by
  have hkept := not_deprecates_of_active h hactive
  rcases applied_objectsById_cases h hlookup with ⟨object, hcreates, rfl⟩ | hstored
  · -- a new object: its own dependency check covers the objects of the plan and the old ones
    have hcheck := forM_eq_ok.mp (h.created hcreates).1 dependency hdependency
    obtain ⟨hnot, ⟨planned, hplanned, hname, hkind⟩ | hsupports⟩ := validateDependency_cases hcheck
    · exact supports_of_created h hrefs hplanned hname hkind
    · exact hsupports.applied hs h hnot
  · -- an old one: it keeps its dependencies because it would have blocked their deprecation
    have hid := hs.keyed id definition hstored
    have hactiveBefore : s.AppliedIsActiveObject id :=
      (applied_active_of_stored h hstored hkept).mp hactive
    have hnot : ¬ Targeted (plannedDeprecated plan.deltas) dependency := by
      apply not_targeted_of_noDependents h.noDependents hstored (hid.symm ▸ hactiveBefore) _ hdependency
      intro planned hplanned
      obtain ⟨index, version, target, hmem, rfl⟩ := mem_plannedDeprecated.mp hplanned
      rw [hid]
      exact hkept target ⟨index, version, hmem⟩
    exact (hs.supported id definition hstored hactiveBefore dependency hdependency).applied hs h hnot

theorem Integrity.applied :
    Integrity (s.applied plan receipt) where
  keyed id definition hlookup := by
    rcases applied_objectsById_cases h hlookup with ⟨object, hcreates, rfl⟩ | hstored
    · rw [hrefs object definition hcreates]
    · exact hs.keyed id definition hstored
  indexed := applied_indexed hs h hrefs
  supported id definition hlookup hactive dependency hdependency :=
    applied_supported hs h hrefs hlookup hactive hdependency

end

end Step

end CatalogSnapshot

namespace SnapshotCall

open CatalogSnapshot

variable {s : Snapshot}

theorem integrity_perform (hs : Integrity s) {call : SnapshotCall}
    (hplan : BuiltFromBatch call.plan) : Integrity (call.perform s).2 := by
  rcases call.perform_cases s with ⟨e, hrun⟩ | ⟨receipt, hrun, hvalid, -⟩
  · rw [hrun]
    exact hs
  · rw [hrun]
    exact hs.applied (admitted_of_validatePlan hvalid) (refsAgree_of_builtFromBatch hplan)

theorem integrity_run (hs : Integrity s) {calls : List SnapshotCall}
    (hplans : ∀ call ∈ calls, BuiltFromBatch call.plan) : Integrity (run calls s) := by
  apply foldlRecOn (motive := Integrity) calls _ hs
  intro s hs call hcall
  exact integrity_perform hs (hplans call hcall)

/-- Every snapshot reached by applying and publishing planned batches has integrity, and a
call that fails on it leaves it unchanged. -/
theorem integrity_of_reachable (databaseId : DatabaseId) (namespaceId : NamespaceId)
    (version : CatalogVersion) (calls : List SnapshotCall)
    (hplans : ∀ call ∈ calls, BuiltFromBatch call.plan) :
    Integrity (run calls (empty databaseId namespaceId version)) ∧
      ∀ (call : SnapshotCall) (e : Error),
        (call.perform (run calls (empty databaseId namespaceId version))).1 = .error e →
          (call.perform (run calls (empty databaseId namespaceId version))).2 =
            run calls (empty databaseId namespaceId version) := by
  refine ⟨integrity_run (integrity_empty databaseId namespaceId version) hplans, ?_⟩
  intro call e herror
  rcases call.perform_cases (run calls (empty databaseId namespaceId version)) with
    ⟨e', hrun⟩ | ⟨receipt, hrun, -⟩
  · rw [hrun]
  · rw [hrun] at herror
    contradiction

/-- The run that applies the batch creating a procedure and its input. -/
theorem integrity_of_reachable_restock :
    (run [.apply restockPlan] (empty 10 20 7)).appliedGetByName stockName =
        some (.procedure restock) ∧
      Integrity (run [.apply restockPlan] (empty 10 20 7)) ∧
      ∀ (call : SnapshotCall) (e : Error),
        (call.perform (run [.apply restockPlan] (empty 10 20 7))).1 = .error e →
          (call.perform (run [.apply restockPlan] (empty 10 20 7))).2 =
            run [.apply restockPlan] (empty 10 20 7) := by
  refine ⟨by decide +kernel, integrity_of_reachable 10 20 7 _ ?_⟩
  intro call hcall
  rw [mem_singleton.mp hcall]
  exact ⟨restockBatch, ⟨[⟨1, productName, .structuredObject⟩, ⟨2, stockName, .procedure⟩], [],
    restockPlan⟩, by decide +kernel, rfl⟩

end SnapshotCall

end Andromeda.Catalog
