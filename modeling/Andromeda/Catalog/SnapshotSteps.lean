import Andromeda.Catalog.Snapshot
import Andromeda.Lib.KeyedUpdates

/-!
# What applying a plan does to a snapshot

A call either fails and leaves the snapshot alone, or its plan passed every check and the
snapshot becomes `applied`. The checks are read once, as facts about each delta; the maps
after the deltas are read key by key.
-/

namespace Andromeda.Catalog.CatalogSnapshot

open Fallible Effect List KeyedUpdates

variable {ρ : Type} {s : CatalogSnapshot ρ} {plan : CatalogMutationPlan}

def applied (s : CatalogSnapshot ρ) (plan : CatalogMutationPlan) (receipt : Option ρ) :
    CatalogSnapshot ρ :=
  (plan.deltas.foldl (applyDelta plan.nextVersion) s).recordPublication plan.nextVersion receipt

variable {t : CatalogSnapshot ρ} {result : Result CatalogSnapshotApplyReport}
  {ids : List CatalogObjectId} {names : List QualifiedName}

theorem applyMutationPlanInternal_cases {receipt : Option ρ}
    (h : applyMutationPlanInternal plan receipt s = (result, t)) :
    (∃ e, result = .error e ∧ t = s) ∨
      (∃ report, result = .ok report ∧ s.validatePlan plan = .ok () ∧
        t = s.applied plan receipt) := by
  rw [applyMutationPlanInternal, get_bind] at h
  refine refused_or h fun _ hvalid h => ?_
  · rw [modify_bind, modify_bind, pure_apply, Prod.mk.injEq] at h
    exact .inr ⟨_, h.1.symm, hvalid, h.2.symm⟩

theorem applyMutationPlan_cases (h : applyMutationPlan plan s = (result, t)) :
    (∃ e, result = .error e ∧ t = s) ∨
      (∃ report, result = .ok report ∧ s.validatePlan plan = .ok () ∧ t = s.applied plan none) := by
  rw [applyMutationPlan] at h
  refine refused_or h fun _ _ h => ?_
  · exact applyMutationPlanInternal_cases h

theorem publishDurableMutationPlan_cases {evidence : CatalogMutationCommitEvidence}
    {s t : CatalogSnapshot CatalogPublicationReceipt} {result : Result CatalogPublicationReceipt}
    (h : publishDurableMutationPlan plan evidence s = (result, t)) :
    (∃ e, result = .error e ∧ t = s) ∨
      (∃ receipt, result = .ok receipt ∧ s.validatePlan plan = .ok () ∧
        t = s.applied plan (some receipt)) := by
  rw [publishDurableMutationPlan] at h
  refine refused_or h fun _ _ h => ?_
  refine refused_or h fun receipt _ h => ?_
  rcases bind_cases h with ⟨e, hfail, hresult⟩ | ⟨report, u, happly, h⟩
  · rcases applyMutationPlanInternal_cases hfail with ⟨e', -, ht⟩ | ⟨_, hok, -⟩
    · exact .inl ⟨e, hresult, ht⟩
    · contradiction
  · rcases applyMutationPlanInternal_cases happly with ⟨_, herror, -⟩ | ⟨_, -, hvalid, hu⟩
    · contradiction
    · rw [pure_apply, Prod.mk.injEq] at h
      exact .inr ⟨receipt, h.1.symm, hvalid, h.2.symm.trans hu⟩

/-! ## What the checks say -/

inductive Fits (s : CatalogSnapshot ρ) (plan : CatalogMutationPlan) :
    CatalogMutationDelta → Prop where
  | createObject {index : Nat} {version : CatalogVersion} {object : CatalogObjectRef}
      {definition : CatalogDefinition}
      (hdependencies : s.validateDefinitionDependencies definition (plannedCreated plan.deltas)
        (plannedDeprecated plan.deltas) = .ok ())
      (hversion : object.catalogVersion = plan.nextVersion)
      (hid : object.objectId ∉ s.objectsById) (hname : object.name ∉ s.objectNames) :
      Fits s plan ⟨index, version, .createObject object definition⟩
  | deprecateObject {index : Nat} {version : CatalogVersion} {target : CatalogLifecycleTarget}
      {existing : CatalogDefinition}
      (hexisting : s.objectsById.lookup target.object.objectId = some existing)
      (hname : existing.objectRef.name = target.object.name)
      (hkind : existing.objectRef.kind = target.object.kind) :
      Fits s plan ⟨index, version, .deprecateObject target⟩

theorem validateDelta_fits {delta : CatalogMutationDelta}
    (h : s.validateDelta plan ids names delta = .ok ()) :
    Fits s plan delta ∧ delta.object.objectId ∉ ids ∧ delta.object.name ∉ names := by
  obtain ⟨index, version, operation⟩ := delta
  cases operation with
  | createObject object definition =>
    simp only [validateDelta, ok_iff] at h
    obtain ⟨-, hdependencies, hversion, hid, hids, hname, hnames⟩ := h
    exact ⟨.createObject hdependencies hversion hid hname, hids, hnames⟩
  | deprecateObject target =>
    simp only [validateDelta, ok_iff] at h
    obtain ⟨-, -, hids, hnames, existing, hexisting, hname, hkind, -⟩ := h
    exact ⟨.deprecateObject hexisting hname hkind, hids, hnames⟩

theorem validateDeltas_fits {expectedIndex : Nat} {deltas : List CatalogMutationDelta}
    (h : s.validateDeltas plan expectedIndex ids names deltas = .ok ()) :
    (∀ delta ∈ deltas, Fits s plan delta ∧ delta.object.objectId ∉ ids ∧
        delta.object.name ∉ names) ∧
      deltas.Pairwise (fun a b => a.object.objectId ≠ b.object.objectId ∧
        a.object.name ≠ b.object.name) := by
  induction deltas generalizing expectedIndex ids names with
  | nil => exact ⟨forall_mem_nil _, List.Pairwise.nil⟩
  | cons delta deltas ih =>
    simp only [validateDeltas, ok_iff] at h
    obtain ⟨-, -, hdelta, hrest⟩ := h
    obtain ⟨hall, hpairwise⟩ := ih hrest
    refine ⟨forall_mem_cons.mpr ⟨validateDelta_fits hdelta, ?_⟩, pairwise_cons.mpr ⟨?_, hpairwise⟩⟩
    · intro other hother
      obtain ⟨hfits, hid, hname⟩ := hall other hother
      exact ⟨hfits, fun hmem => hid (mem_cons_of_mem _ hmem),
        fun hmem => hname (mem_cons_of_mem _ hmem)⟩
    · intro other hother
      obtain ⟨-, hid, hname⟩ := hall other hother
      exact ⟨fun heq => hid (heq ▸ mem_cons_self), fun heq => hname (heq ▸ mem_cons_self)⟩

structure Admitted (s : CatalogSnapshot ρ) (plan : CatalogMutationPlan) : Prop where
  previous : s.version = plan.previousVersion
  advances : plan.previousVersion < plan.nextVersion
  fits : ∀ delta ∈ plan.deltas, Fits s plan delta
  distinct : plan.deltas.Pairwise fun a b =>
    a.object.objectId ≠ b.object.objectId ∧ a.object.name ≠ b.object.name
  noDependents :
    s.validateNoActiveDependentsForDeprecations (plannedDeprecated plan.deltas) = .ok ()

theorem admitted_of_validatePlan (h : s.validatePlan plan = .ok ()) : Admitted s plan := by
  simp only [validatePlan, ok_iff] at h
  obtain ⟨-, -, hprevious, hadvances, hdeltas, hdependents⟩ := h
  obtain ⟨hfits, hdistinct⟩ := validateDeltas_fits hdeltas
  exact ⟨hprevious, hadvances, fun delta hdelta => (hfits delta hdelta).1, hdistinct, hdependents⟩

/-! ## The maps after a plan -/

def Creates (plan : CatalogMutationPlan) (object : CatalogObjectRef)
    (definition : CatalogDefinition) : Prop :=
  ∃ index version, ⟨index, version, .createObject object definition⟩ ∈ plan.deltas

def Deprecates (plan : CatalogMutationPlan) (target : CatalogLifecycleTarget) : Prop :=
  ∃ index version, ⟨index, version, .deprecateObject target⟩ ∈ plan.deltas

section

variable (s : CatalogSnapshot ρ)

theorem recordPublication_objectLifecycle (version : CatalogVersion) (receipt : Option ρ) :
    (s.recordPublication version receipt).objectLifecycle = s.objectLifecycle := by
  cases receipt <;> rfl

theorem applied_version (plan : CatalogMutationPlan) (receipt : Option ρ) :
    (s.applied plan receipt).version = plan.nextVersion := by
  cases receipt <;> rfl

theorem applied_lastDurableVersion_none (plan : CatalogMutationPlan) :
    (s.applied plan none).lastDurableVersion = s.lastDurableVersion := by
  have hfold : ∀ (deltas : List CatalogMutationDelta) (u : CatalogSnapshot ρ),
      (deltas.foldl (applyDelta plan.nextVersion) u).lastDurableVersion = u.lastDurableVersion := by
    intro deltas
    induction deltas with
    | nil => exact fun u => rfl
    | cons delta deltas ih =>
      intro u
      rw [foldl_cons, ih]
      obtain ⟨index, version, operation⟩ := delta
      cases operation <;> rfl
  exact hfold plan.deltas s

end

section Maps

variable {object : CatalogObjectRef} {definition : CatalogDefinition}
  {target : CatalogLifecycleTarget} {receipt : Option ρ} {id : CatalogObjectId}
  {name : QualifiedName}

def CreatesAt {κ : Type} (key : CatalogObjectRef → κ) (delta : CatalogMutationDelta) (k : κ) :
    Prop :=
  ∃ object definition, delta.operation = .createObject object definition ∧ key object = k

structure CreatedMap {κ β : Type} [DecidableEq κ] (view : CatalogSnapshot ρ → AList fun _ : κ => β)
    (key : CatalogObjectRef → κ) (value : CatalogObjectRef → CatalogDefinition → β) : Prop where
  written : ∀ version s index planned object definition,
    view (applyDelta version s ⟨index, planned, .createObject object definition⟩) =
      (view s).insert (key object) (value object definition)
  kept : ∀ version s index planned target,
    view (applyDelta version s ⟨index, planned, .deprecateObject target⟩) = view s
  published : ∀ s version receipt, view (recordPublication s version receipt) = view s

section Created

variable {κ β : Type} [DecidableEq κ] {view : CatalogSnapshot ρ → AList fun _ : κ => β}
  {key : CatalogObjectRef → κ} {value : CatalogObjectRef → CatalogDefinition → β} {k : κ}

section

variable (h : CreatedMap view key value)
include h

theorem CreatedMap.frame (version : CatalogVersion)
    (s : CatalogSnapshot ρ) (delta : CatalogMutationDelta) (k : κ) (hk : ¬ CreatesAt key delta k) :
    (view (applyDelta version s delta)).lookup k = (view s).lookup k := by
  obtain ⟨index, planned, operation⟩ := delta
  cases operation with
  | createObject object definition =>
    rw [h.written]
    exact AList.lookup_insert_ne fun heq => hk ⟨object, definition, rfl, heq.symm⟩
  | deprecateObject target => rw [h.kept]

theorem CreatedMap.at_key (version : CatalogVersion)
    (s t : CatalogSnapshot ρ) (delta : CatalogMutationDelta) (k : κ)
    (heq : (view s).lookup k = (view t).lookup k) :
    (view (applyDelta version s delta)).lookup k = (view (applyDelta version t delta)).lookup k := by
  by_cases hk : CreatesAt key delta k
  · obtain ⟨index, planned, operation⟩ := delta
    obtain ⟨object, definition, hoperation, rfl⟩ := hk
    cases hoperation
    rw [h.written, h.written, AList.lookup_insert, AList.lookup_insert]
  · rw [h.frame version s delta k hk, h.frame version t delta k hk, heq]

theorem CreatedMap.lookup_created
    (hdistinct : plan.deltas.Pairwise fun a b => key a.object ≠ key b.object)
    (hcreates : Creates plan object definition) :
    (view (s.applied plan receipt)).lookup (key object) = some (value object definition) := by
  obtain ⟨index, version, hmem⟩ := hcreates
  have hdisjoint : plan.deltas.Pairwise fun a b => ∀ k, CreatesAt key a k → ¬ CreatesAt key b k := by
    apply hdistinct.imp
    rintro a b hne k ⟨object, definition, ha, hk⟩ ⟨object', definition', hb, hk'⟩
    apply hne
    rw [CatalogMutationDelta.object, CatalogMutationDelta.object, ha, hb]
    exact hk.trans hk'.symm
  rw [applied, h.published]
  refine (view_foldl_of_touched (fun u k => (view u).lookup k)
    (h.frame plan.nextVersion) (h.at_key plan.nextVersion) hdisjoint hmem
    ⟨object, definition, rfl, rfl⟩ s).trans ?_
  rw [h.written, AList.lookup_insert]

theorem CreatedMap.lookup_of_not_created
    (hk : ∀ object definition, Creates plan object definition → key object ≠ k) :
    (view (s.applied plan receipt)).lookup k = (view s).lookup k := by
  rw [applied, h.published]
  apply view_foldl_of_untouched (fun u k => (view u).lookup k)
    (h.frame plan.nextVersion)
  rintro ⟨index, version, operation⟩ hmem ⟨object, definition, hoperation, heq⟩
  cases hoperation
  exact hk object definition ⟨index, version, hmem⟩ heq

end

end Created

theorem objectsById_createdMap :
    CreatedMap (ρ := ρ) objectsById CatalogObjectRef.objectId fun _ definition => definition :=
  ⟨fun _ _ _ _ _ _ => rfl, fun _ _ _ _ _ => rfl, fun s version receipt => by cases receipt <;> rfl⟩

theorem objectNames_createdMap :
    CreatedMap (ρ := ρ) objectNames CatalogObjectRef.name fun object _ => object.objectId :=
  ⟨fun _ _ _ _ _ _ => rfl, fun _ _ _ _ _ => rfl, fun s version receipt => by cases receipt <;> rfl⟩

def writesLifecycle (delta : CatalogMutationDelta) (id : CatalogObjectId) : Prop :=
  delta.object.objectId = id

theorem applyDelta_objectLifecycle (version : CatalogVersion) (s : CatalogSnapshot ρ)
    (delta : CatalogMutationDelta) (id : CatalogObjectId) (h : ¬ writesLifecycle delta id) :
    (applyDelta version s delta).objectLifecycle.lookup id = s.objectLifecycle.lookup id := by
  have hne : id ≠ delta.object.objectId := fun heq => h heq.symm
  obtain ⟨index, planned, operation⟩ := delta
  cases operation with
  | createObject object definition | deprecateObject target => exact AList.lookup_insert_ne hne

/-! What a delta writes at a key depends on the snapshot at that key only. -/

theorem applyDelta_objectLifecycle_local (version : CatalogVersion) (s t : CatalogSnapshot ρ)
    (delta : CatalogMutationDelta) (id : CatalogObjectId)
    (h : s.objectLifecycle.lookup id = t.objectLifecycle.lookup id) :
    (applyDelta version s delta).objectLifecycle.lookup id =
      (applyDelta version t delta).objectLifecycle.lookup id := by
  by_cases hid : delta.object.objectId = id
  · subst hid
    obtain ⟨index, planned, operation⟩ := delta
    cases operation with
    | createObject object definition =>
      have hwritten : ∀ u : CatalogSnapshot ρ,
          (u.objectLifecycle.insert object.objectId (.active object.catalogVersion)).lookup
            object.objectId = some (.active object.catalogVersion) :=
        fun u => AList.lookup_insert _
      exact (hwritten s).trans (hwritten t).symm
    | deprecateObject target =>
      have hwritten : ∀ u : CatalogSnapshot ρ, ∀ lifecycle : CatalogObjectLifecycle,
          (u.objectLifecycle.insert target.object.objectId lifecycle).lookup
            target.object.objectId = some lifecycle :=
        fun u lifecycle => AList.lookup_insert _
      change s.appliedLifecycleById target.object.objectId =
        t.appliedLifecycleById target.object.objectId at h
      refine (hwritten s _).trans (Eq.trans ?_ (hwritten t _).symm)
      rw [h]
  · rw [applyDelta_objectLifecycle version s delta id hid,
      applyDelta_objectLifecycle version t delta id hid, h]

theorem applied_objectsById_created (h : Admitted s plan) (hcreates : Creates plan object definition) :
    (s.applied plan receipt).objectsById.lookup object.objectId = some definition :=
  objectsById_createdMap.lookup_created (h.distinct.imp And.left) hcreates

theorem applied_objectsById_of_not_created
    (hid : ∀ object definition, Creates plan object definition → object.objectId ≠ id) :
    (s.applied plan receipt).objectsById.lookup id = s.objectsById.lookup id :=
  objectsById_createdMap.lookup_of_not_created hid

theorem applied_objectNames_created (h : Admitted s plan) (hcreates : Creates plan object definition) :
    (s.applied plan receipt).objectNames.lookup object.name = some object.objectId :=
  objectNames_createdMap.lookup_created (h.distinct.imp And.right) hcreates

theorem applied_objectNames_of_not_created
    (hname : ∀ object definition, Creates plan object definition → object.name ≠ name) :
    (s.applied plan receipt).objectNames.lookup name = s.objectNames.lookup name :=
  objectNames_createdMap.lookup_of_not_created hname

theorem lifecycle_foldl_of_touched (h : Admitted s plan) {delta : CatalogMutationDelta}
    (hmem : delta ∈ plan.deltas) :
    (s.applied plan receipt).appliedLifecycleById delta.object.objectId =
      (applyDelta plan.nextVersion s delta).appliedLifecycleById delta.object.objectId := by
  rw [appliedLifecycleById, applied, recordPublication_objectLifecycle]
  exact view_foldl_of_touched
    (fun (u : CatalogSnapshot ρ) id => u.objectLifecycle.lookup id)
    (applyDelta_objectLifecycle plan.nextVersion)
    (applyDelta_objectLifecycle_local plan.nextVersion)
    (h.distinct.imp fun hne _ ha hb => hne.1 (ha.trans hb.symm)) hmem rfl s

theorem applied_lifecycle_created (h : Admitted s plan) (hcreates : Creates plan object definition) :
    (s.applied plan receipt).appliedLifecycleById object.objectId =
      some (.active object.catalogVersion) := by
  obtain ⟨index, version, hmem⟩ := hcreates
  exact (lifecycle_foldl_of_touched h hmem).trans (AList.lookup_insert _)

theorem applied_lifecycle_deprecated (h : Admitted s plan) (hdeprecates : Deprecates plan target) :
    (s.applied plan receipt).appliedLifecycleById target.object.objectId =
      some (((s.appliedLifecycleById target.object.objectId).getD
        (.active target.object.catalogVersion)).deprecated plan.nextVersion) := by
  obtain ⟨index, version, hmem⟩ := hdeprecates
  exact (lifecycle_foldl_of_touched h hmem).trans (AList.lookup_insert _)

theorem applied_lifecycle_of_untouched
    (hcreated : ∀ object definition, Creates plan object definition → object.objectId ≠ id)
    (hdeprecated : ∀ target, Deprecates plan target → target.object.objectId ≠ id) :
    (s.applied plan receipt).appliedLifecycleById id = s.appliedLifecycleById id := by
  rw [appliedLifecycleById, applied, recordPublication_objectLifecycle]
  apply view_foldl_of_untouched
    (fun (u : CatalogSnapshot ρ) id => u.objectLifecycle.lookup id)
    (applyDelta_objectLifecycle plan.nextVersion)
  rintro ⟨index, version, operation⟩ hmem heq
  cases operation with
  | createObject object definition => exact hcreated object definition ⟨index, version, hmem⟩ heq
  | deprecateObject target => exact hdeprecated target ⟨index, version, hmem⟩ heq

end Maps

end Andromeda.Catalog.CatalogSnapshot
