import Andromeda.Catalog.Integrity

/-!
# What a snapshot shows was published

Visibility is one comparison with the durable version, so a publication shows whatever was
staged below it. When nothing is staged at a publication, every visible object was created by
a plan that was itself published.
-/

namespace Andromeda.Catalog

open Fallible Effect List

namespace CatalogSnapshot

variable {ρ : Type} {s : CatalogSnapshot ρ} {plan : CatalogMutationPlan}

/-! ## The versions an object is recorded at -/

def Recorded (s : CatalogSnapshot ρ) (id : CatalogObjectId) (definition : CatalogDefinition)
    (version : CatalogVersion) : Prop :=
  s.objectsById.lookup id = some definition ∧ (definition.objectRef.catalogVersion = version ∨
      ∃ lifecycle, s.appliedLifecycleById id = some lifecycle ∧ lifecycle.createdVersion = version)

def Tracked (s : CatalogSnapshot ρ) : Prop :=
  ∀ id, (s.objectsById.lookup id).isSome = (s.appliedLifecycleById id).isSome

theorem Tracked.applied (hs : Tracked s) (h : Admitted s plan) (receipt : Option ρ) :
    Tracked (s.applied plan receipt) := by
  intro id
  by_cases hcreated : ∃ object definition, Creates plan object definition ∧ object.objectId = id
  · obtain ⟨object, definition, hcreates, rfl⟩ := hcreated
    rw [applied_objectsById_created h hcreates, applied_lifecycle_created h hcreates]
    rfl
  have hnot : ∀ object definition, Creates plan object definition → object.objectId ≠ id :=
    fun object definition hcreates heq => hcreated ⟨object, definition, hcreates, heq⟩
  rw [applied_objectsById_of_not_created hnot]
  by_cases hdeprecated : ∃ target, Deprecates plan target ∧ target.object.objectId = id
  · obtain ⟨target, hdeprecates, rfl⟩ := hdeprecated
    obtain ⟨existing, hexisting, -⟩ := h.deprecated hdeprecates
    rw [applied_lifecycle_deprecated h hdeprecates, hexisting]
    rfl
  · rw [applied_lifecycle_of_untouched hnot]
    · exact hs id
    · exact fun target hdeprecates heq => hdeprecated ⟨target, hdeprecates, heq⟩

variable {receipt : Option ρ} {id : CatalogObjectId}

theorem createdVersion_applied (hs : Tracked s) (h : Admitted s plan)
    {lifecycle : CatalogObjectLifecycle}
    (hnot : ∀ object definition, Creates plan object definition → object.objectId ≠ id)
    (hlookup : (s.applied plan receipt).appliedLifecycleById id = some lifecycle) :
    ∃ before, s.appliedLifecycleById id = some before ∧
      before.createdVersion = lifecycle.createdVersion := by
  by_cases hdeprecated : ∃ target, Deprecates plan target ∧ target.object.objectId = id
  · obtain ⟨target, hdeprecates, rfl⟩ := hdeprecated
    obtain ⟨existing, hexisting, -⟩ := h.deprecated hdeprecates
    have htracked := hs target.object.objectId
    rw [hexisting, Option.isSome_some, eq_comm, Option.isSome_iff_exists] at htracked
    obtain ⟨before, hbefore⟩ := htracked
    rw [applied_lifecycle_deprecated h hdeprecates, hbefore, Option.some.injEq] at hlookup
    subst hlookup
    exact ⟨before, hbefore, rfl⟩
  · rw [applied_lifecycle_of_untouched hnot] at hlookup
    · exact ⟨lifecycle, hlookup, rfl⟩
    · exact fun target hdeprecates heq => hdeprecated ⟨target, hdeprecates, heq⟩

theorem recorded_applied_cases (hs : Tracked s) (h : Admitted s plan) (hrefs : RefsAgree plan)
    {definition : CatalogDefinition} {version : CatalogVersion}
    (hrecorded : Recorded (s.applied plan receipt) id definition version) :
    (∃ object, Creates plan object definition ∧ object.objectId = id ∧ version = plan.nextVersion) ∨
      Recorded s id definition version := by
  obtain ⟨hlookup, hversion⟩ := hrecorded
  rcases applied_objectsById_cases h hlookup with ⟨object, hcreates, rfl⟩ | hstored
  · left
    refine ⟨object, hcreates, rfl, ?_⟩
    have hnext := (h.created hcreates).2.1
    rcases hversion with rfl | ⟨lifecycle, hlifecycle, rfl⟩
    · rw [← hrefs object definition hcreates]
      exact hnext
    · rw [applied_lifecycle_created h hcreates, Option.some.injEq] at hlifecycle
      subst hlifecycle
      exact hnext
  · right
    refine ⟨hstored, ?_⟩
    rcases hversion with hversion | ⟨lifecycle, hlifecycle, rfl⟩
    · exact .inl hversion
    · have hnot : ∀ object definition', Creates plan object definition' → object.objectId ≠ id := by
        rintro object definition' hcreates rfl
        exact not_stored_of_creates h hcreates hstored
      exact .inr (createdVersion_applied hs h hnot hlifecycle)

end CatalogSnapshot

namespace SnapshotCall

open CatalogSnapshot

def DurablyPublished (calls : List SnapshotCall) (s : Snapshot) (plan : CatalogMutationPlan) :
    Prop :=
  ∃ before evidence after, calls = before ++ .publish plan evidence :: after ∧
    succeeds ((SnapshotCall.publish plan evidence).perform (run before s)).1 = true

def Published (calls : List SnapshotCall) (s : Snapshot) (id : CatalogObjectId)
    (definition : CatalogDefinition) : Prop :=
  ∃ plan object, DurablyPublished calls s plan ∧ Creates plan object definition ∧
    object.objectId = id

/-- Whatever the snapshot shows at the end of the run, by id, by name or as a lifecycle, was
published in it. -/
structure ShowsOnlyPublished (calls : List SnapshotCall) (s : Snapshot) : Prop where
  byId : ∀ id definition, (run calls s).visibleGetById id = some definition →
    Published calls s id definition
  byName : ∀ name definition, (run calls s).visibleGetByName name = some definition →
    ∃ id, Published calls s id definition
  lifecycle : ∀ id lifecycle, (run calls s).lifecycleById id = some lifecycle →
    ∃ definition, Published calls s id definition

def Unstaged (calls : List SnapshotCall) (s : Snapshot) : Prop :=
  ∀ before plan evidence after, calls = before ++ .publish plan evidence :: after →
    (run before s).stagedInMemoryVersion = none

structure Accounted (calls : List SnapshotCall) (s : Snapshot) : Prop where
  tracked : Tracked (run calls s)
  durable_le : (run calls s).lastDurableVersion ≤ (run calls s).version
  recorded_le : ∀ id definition version, Recorded (run calls s) id definition version →
    version ≤ (run calls s).version
  published : ∀ id definition version, Recorded (run calls s) id definition version →
    version ≤ (run calls s).lastDurableVersion → Published calls s id definition

section Run

variable {calls : List SnapshotCall} {s : Snapshot}

theorem run_append_singleton (calls : List SnapshotCall) (call : SnapshotCall) (s : Snapshot) :
    run (calls ++ [call]) s = (call.perform (run calls s)).2 := by
  rw [run, foldl_append]
  rfl

variable {id : CatalogObjectId} {definition : CatalogDefinition} {call : SnapshotCall}

theorem Published.append (h : Published calls s id definition) (more : List SnapshotCall) :
    Published (calls ++ more) s id definition := by
  obtain ⟨plan, object, ⟨before, evidence, after, rfl, hok⟩, hcreates⟩ := h
  refine ⟨plan, object, ⟨before, evidence, after ++ more, ?_, hok⟩, hcreates⟩
  rw [append_assoc, cons_append]

theorem Unstaged.of_append {more : List SnapshotCall} (h : Unstaged (calls ++ more) s) :
    Unstaged calls s := by
  intro before plan evidence after heq
  apply h before plan evidence (after ++ more)
  rw [heq, append_assoc, cons_append]

theorem Accounted.of_error (hs : Accounted calls s)
    (hrun : (call.perform (run calls s)).2 = run calls s) : Accounted (calls ++ [call]) s := by
  have heq : run (calls ++ [call]) s = run calls s := (run_append_singleton calls call s).trans hrun
  refine ⟨heq ▸ hs.tracked, heq ▸ hs.durable_le, heq ▸ hs.recorded_le, ?_⟩
  rw [heq]
  intro id definition version hrecorded hle
  exact (hs.published id definition version hrecorded hle).append [call]

variable {plan : CatalogMutationPlan}

theorem Accounted.recorded_le_applied (hs : Accounted calls s) (h : Admitted (run calls s) plan)
    (hrefs : RefsAgree plan) {receipt : Option CatalogPublicationReceipt} {version : CatalogVersion}
    (hrecorded : Recorded ((run calls s).applied plan receipt) id definition version) :
    version ≤ ((run calls s).applied plan receipt).version := by
  have hprevious : (run calls s).version < plan.nextVersion := h.previous ▸ h.advances
  rw [applied_version]
  rcases recorded_applied_cases hs.tracked h hrefs hrecorded with ⟨_, _, _, rfl⟩ | hrecorded
  · exact UInt64.le_refl _
  · exact UInt64.le_trans (hs.recorded_le id definition version hrecorded)
      (UInt64.le_of_lt hprevious)

theorem Accounted.of_apply (hs : Accounted calls s) (h : Admitted (run calls s) plan)
    (hrefs : RefsAgree plan)
    (hrun : run (calls ++ [.apply plan]) s = (run calls s).applied plan none) :
    Accounted (calls ++ [.apply plan]) s := by
  have hprevious : (run calls s).version < plan.nextVersion := h.previous ▸ h.advances
  have hbelow : (run calls s).lastDurableVersion < plan.nextVersion :=
    UInt64.lt_of_le_of_lt hs.durable_le hprevious
  refine ⟨?_, ?_, ?_, ?_⟩ <;> rw [hrun]
  · exact hs.tracked.applied h none
  · rw [applied_version, applied_lastDurableVersion_none]
    exact UInt64.le_of_lt hbelow
  · exact fun id definition version => hs.recorded_le_applied h hrefs
  · intro id definition version hrecorded hle
    rw [applied_lastDurableVersion_none] at hle
    rcases recorded_applied_cases hs.tracked h hrefs hrecorded with ⟨_, _, _, rfl⟩ | hrecorded
    · exact absurd hle (UInt64.not_le.mpr hbelow)
    · exact (hs.published id definition version hrecorded hle).append _

/-- A publication on top of nothing staged shows its own objects in addition. -/
theorem Accounted.of_publish (hs : Accounted calls s) {evidence : CatalogMutationCommitEvidence}
    {receipt : CatalogPublicationReceipt} (h : Admitted (run calls s) plan) (hrefs : RefsAgree plan)
    (hstaged : (run calls s).stagedInMemoryVersion = none)
    (hok : ((SnapshotCall.publish plan evidence).perform (run calls s)).1 = .ok ())
    (hrun : run (calls ++ [.publish plan evidence]) s = (run calls s).applied plan (some receipt)) :
    Accounted (calls ++ [.publish plan evidence]) s := by
  have hnothing : (run calls s).version ≤ (run calls s).lastDurableVersion := by
    rw [stagedInMemoryVersion] at hstaged
    split at hstaged
    · cases hstaged
    · exact UInt64.not_lt.mp ‹_›
  have hpublished : DurablyPublished (calls ++ [.publish plan evidence]) s plan :=
    ⟨calls, evidence, [], rfl, by rw [hok, succeeds_ok]⟩
  refine ⟨?_, ?_, ?_, ?_⟩ <;> rw [hrun]
  · exact hs.tracked.applied h (some receipt)
  · rw [applied_version]
    exact UInt64.le_refl _
  · exact fun id definition version => hs.recorded_le_applied h hrefs
  · intro id definition version hrecorded _
    rcases recorded_applied_cases hs.tracked h hrefs hrecorded with
      ⟨object, hcreates, hid, -⟩ | hrecorded
    · exact ⟨plan, object, hpublished, hcreates, hid⟩
    · have hle := hs.recorded_le id definition version hrecorded
      exact (hs.published id definition version hrecorded (UInt64.le_trans hle hnothing)).append _

theorem accounted_step (hs : Accounted calls s) (hrefs : RefsAgree call.plan)
    (hstaged : Unstaged (calls ++ [call]) s) : Accounted (calls ++ [call]) s := by
  have hrun := run_append_singleton calls call s
  rcases call.perform_cases (run calls s) with ⟨e, hperform⟩ | ⟨receipt, hperform, hvalid, hsome⟩
  · exact hs.of_error (by rw [hperform])
  have h := admitted_of_validatePlan hvalid
  rw [hperform] at hrun
  cases call with
  | apply plan =>
    cases receipt with
    | none => exact hs.of_apply h hrefs hrun
    | some receipt =>
      obtain ⟨_, _, hpublish⟩ := hsome.mp rfl
      cases hpublish
  | publish plan evidence =>
    obtain ⟨receipt, rfl⟩ := Option.isSome_iff_exists.mp (hsome.mpr ⟨plan, evidence, rfl⟩)
    exact hs.of_publish h hrefs (hstaged calls plan evidence [] rfl) (by rw [hperform]) hrun

theorem accounted_run (databaseId : DatabaseId) (namespaceId : NamespaceId)
    (version : CatalogVersion) (calls : List SnapshotCall)
    (hrefs : ∀ call ∈ calls, RefsAgree call.plan)
    (hstaged : Unstaged calls (empty databaseId namespaceId version)) :
    Accounted calls (empty databaseId namespaceId version) := by
  induction calls using List.reverseRecOn with
  | nil =>
    refine ⟨fun _ => rfl, UInt64.le_refl version, ?_, ?_⟩ <;> rintro id definition version ⟨⟨⟩, -⟩
  | append_singleton calls call ih =>
    have hs := ih (fun call' hcall' => hrefs call' (mem_append_left _ hcall')) hstaged.of_append
    exact accounted_step hs (hrefs call (mem_append_right _ mem_cons_self)) hstaged

end Run

variable {s : Snapshot} {plan : CatalogMutationPlan}

theorem Accounted.showsOnlyPublished {calls : List SnapshotCall} (h : Accounted calls s) :
    ShowsOnlyPublished calls s := by
  have hbyId : ∀ id definition, (run calls s).visibleGetById id = some definition →
      Published calls s id definition := by
    intro id definition hvisible
    obtain ⟨hlookup, hle⟩ := Option.filter_eq_some_iff.mp hvisible
    exact h.published id definition _ ⟨hlookup, .inl rfl⟩ (of_decide_eq_true hle)
  refine ⟨hbyId, ?_, ?_⟩
  · intro name definition hvisible
    obtain ⟨id, -, hvisible⟩ := Option.bind_eq_some_iff.mp hvisible
    exact ⟨id, hbyId id definition hvisible⟩
  · intro id lifecycle hvisible
    obtain ⟨stored, hstored, hshown⟩ := Option.bind_eq_some_iff.mp hvisible
    have htracked := h.tracked id
    rw [hstored, Option.isSome_some, Option.isSome_iff_exists] at htracked
    obtain ⟨definition, hdefinition⟩ := htracked
    have hle : stored.createdVersion ≤ (run calls s).lastDurableVersion := by
      rw [visibleLifecycle] at hshown
      split at hshown
      · cases hshown
      · exact UInt64.not_lt.mp ‹_›
    exact ⟨definition, h.published id definition _ ⟨hdefinition, .inr ⟨stored, hstored, rfl⟩⟩ hle⟩

/-- When nothing is staged at any publication, only published objects are visible. -/
theorem showsOnlyPublished_of_unstaged (databaseId : DatabaseId) (namespaceId : NamespaceId)
    (version : CatalogVersion) (calls : List SnapshotCall)
    (hrefs : ∀ call ∈ calls, RefsAgree call.plan)
    (hstaged : Unstaged calls (empty databaseId namespaceId version)) :
    ShowsOnlyPublished calls (empty databaseId namespaceId version) :=
  (accounted_run databaseId namespaceId version calls hrefs hstaged).showsOnlyPublished

/-! ### Runs that create two tables -/

/-- A published table is visible. -/
theorem showsOnlyPublished_of_unstaged_product :
    ∃ calls : List SnapshotCall, ShowsOnlyPublished calls (empty 10 20 7) ∧
      (run calls (empty 10 20 7)).visibleGetById 1 = some (sampleTable 1 productName 8) := by
  refine ⟨[.publish (tablePlan 1 productName 7)
    ((tablePlan 1 productName 7).commitEvidence (.storageWal 3 3))], ?_, by decide +kernel⟩
  apply showsOnlyPublished_of_unstaged 10 20 7
  · intro call hcall
    rw [mem_singleton.mp hcall]
    exact refsAgree_of_builtFromBatch ⟨_, _, tableBatch_dryRun_product, rfl⟩
  · intro before plan evidence after heq
    obtain ⟨rfl, -⟩ := append_eq_singleton_iff.mp heq.symm |>.resolve_right (by simp)
    decide

/-- The product table is applied in memory only; publishing the stock table shows it. -/
def stagedRun : List SnapshotCall :=
  [.apply (tablePlan 1 productName 7),
    .publish (tablePlan 2 stockName 8) ((tablePlan 2 stockName 8).commitEvidence (.storageWal 3 3))]

theorem stagedRun_publishes_only_stock (h : DurablyPublished stagedRun s plan) :
    plan = tablePlan 2 stockName 8 := by
  obtain ⟨before, evidence, after, heq, -⟩ := h
  have hmem : SnapshotCall.publish plan evidence ∈ stagedRun := by
    rw [heq]
    exact mem_append_right _ mem_cons_self
  rcases mem_cons.mp hmem with happly | hpublish
  · cases happly
  · cases mem_singleton.mp hpublish
    rfl

theorem staged_plan_becomes_visible :
    (∀ call ∈ stagedRun, BuiltFromBatch call.plan) ∧
      (run stagedRun (empty 10 20 7)).visibleGetById 1 = some (sampleTable 1 productName 8) ∧
      (∀ plan, DurablyPublished stagedRun (empty 10 20 7) plan → plan = tablePlan 2 stockName 8) ∧
      ¬ ShowsOnlyPublished stagedRun (empty 10 20 7) := by
  have hvisible : (run stagedRun (empty 10 20 7)).visibleGetById 1 =
      some (sampleTable 1 productName 8) := by
    decide +kernel
  refine ⟨?_, hvisible, fun _ => stagedRun_publishes_only_stock, ?_⟩
  · intro call hcall
    rcases mem_cons.mp hcall with rfl | hcall
    · exact ⟨_, _, tableBatch_dryRun_product, rfl⟩
    · cases mem_singleton.mp hcall
      exact ⟨tableBatch 2 stockName 8, ⟨[⟨2, stockName, .table⟩], [], tablePlan 2 stockName 8⟩,
        by decide +kernel, rfl⟩
  · intro hshows
    obtain ⟨plan, object, hpublished, ⟨index, version, hcreates⟩, hid⟩ :=
      hshows.byId 1 (sampleTable 1 productName 8) hvisible
    rw [stagedRun_publishes_only_stock hpublished] at hcreates
    cases mem_singleton.mp hcreates

end SnapshotCall

end Andromeda.Catalog
