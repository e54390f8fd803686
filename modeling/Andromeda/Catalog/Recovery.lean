import Andromeda.Catalog.ReplaySteps
import Andromeda.Catalog.SystemStore

/-!
# Recovery reproduces the live catalog

The live store and the replay of its log are run side by side. A batch that is cut short opens
a group that the next begin record supersedes; a batch that is published is replayed by the same
plan into a snapshot that differs from the live one in its publication state only. What breaks
the correspondence is a group that is complete in the log while the live store did not publish
it.
-/

namespace Andromeda.Catalog

open Fallible Effect List

namespace CatalogSnapshot

variable {ρ : Type} {s t : CatalogSnapshot ρ} {batch : DefinitionBatch}
  {batchPlan : DefinitionBatchPlan}

/-! ## The publication state is not read -/

section

variable (s : CatalogSnapshot ρ) (publication : CatalogSnapshotPublication ρ)
  (plan : CatalogMutationPlan)

theorem validateDeltas_publication (index : Nat) (ids : List CatalogObjectId)
    (names : List QualifiedName) (deltas : List CatalogMutationDelta) :
    ({ s with publication } : CatalogSnapshot ρ).validateDeltas plan index ids names deltas =
      s.validateDeltas plan index ids names deltas := by
  induction deltas generalizing index ids names with
  | nil => rfl
  | cons delta deltas ih =>
    have hdelta : ({ s with publication } : CatalogSnapshot ρ).validateDelta plan ids names delta =
        s.validateDelta plan ids names delta := rfl
    rw [validateDeltas, validateDeltas, ih, hdelta]

theorem applied_publication (receipt : Option ρ) :
    ({ s with publication } : CatalogSnapshot ρ).applied plan receipt = s.applied plan receipt := by
  have hfold : ∀ (deltas : List CatalogMutationDelta) (u : CatalogSnapshot ρ),
      deltas.foldl (applyDelta plan.nextVersion) { u with publication } =
        { deltas.foldl (applyDelta plan.nextVersion) u with publication } := by
    intro deltas
    induction deltas with
    | nil => exact fun u => rfl
    | cons delta deltas ih =>
      intro u
      have hstep : applyDelta plan.nextVersion { u with publication } delta =
          { applyDelta plan.nextVersion u delta with publication } := by
        obtain ⟨index, version, operation⟩ := delta
        cases operation <;> rfl
      rw [foldl_cons, foldl_cons, hstep, ih]
  rw [applied, applied, hfold]
  cases receipt <;> rfl

end

/-! ## Replaying a plan -/

/-- The second snapshot is the first one up to its publication state, and nothing is staged. -/
structure Mirrors (s t : CatalogSnapshot ρ) : Prop where
  eq : t = { s with publication := t.publication }
  settled : s.lastDurableVersion = s.version

theorem Mirrors.validatePlan (h : Mirrors s t) (plan : CatalogMutationPlan) :
    t.validatePlan plan = s.validatePlan plan := by
  rw [h.eq, CatalogSnapshot.validatePlan, CatalogSnapshot.validatePlan, validateDeltas_publication]
  rfl

theorem Mirrors.applied (h : Mirrors s t) (plan : CatalogMutationPlan) (receipt : Option ρ) :
    t.applied plan receipt = s.applied plan receipt := by
  rw [h.eq, applied_publication]

def recovered (s : CatalogSnapshot ρ) (plan : CatalogMutationPlan) : CatalogSnapshot ρ :=
  (s.applied plan none).markDurableVersionFromRecovery plan.nextVersion

theorem mirrors_recovered (hsettled : s.lastDurableVersion = s.version) (h : Admitted s batchPlan.mutationPlan)
    (receipt : ρ) :
    Mirrors (s.applied batchPlan.mutationPlan (some receipt)) (s.recovered batchPlan.mutationPlan) := by
  have hbelow : (s.applied batchPlan.mutationPlan none).lastDurableVersion <
      batchPlan.mutationPlan.nextVersion := by
    rw [applied_lastDurableVersion_none, hsettled, h.previous]
    exact h.advances
  refine ⟨?_, rfl⟩
  rw [recovered, markDurableVersionFromRecovery, if_pos hbelow]
  rfl

theorem new_of_isPlanOf (h : IsPlanOf batch batchPlan) :
    CatalogMutationPlan.new batchPlan.mutationPlan.batchId batchPlan.mutationPlan.databaseId
        batchPlan.mutationPlan.namespaceId batchPlan.mutationPlan.previousVersion
        batchPlan.mutationPlan.nextVersion batchPlan.mutationPlan.sourceHash
        batchPlan.mutationPlan.dependencyGraphHash batchPlan.mutationPlan.deltas =
      .ok batchPlan.mutationPlan := by
  have hplan : (⟨batchPlan.mutationPlan.batchId, batchPlan.mutationPlan.databaseId,
      batchPlan.mutationPlan.namespaceId, batchPlan.mutationPlan.previousVersion,
      batchPlan.mutationPlan.nextVersion, batchPlan.mutationPlan.sourceHash,
      batchPlan.mutationPlan.dependencyGraphHash, .durablePublicationExternal,
      batchPlan.mutationPlan.deltas⟩ : CatalogMutationPlan) = batchPlan.mutationPlan := by
    rw [← h.semantics]
  rw [CatalogMutationPlan.new, hplan]
  simp only [ok_iff]
  exact ⟨h.valid, trivial⟩

theorem identity_of_validatePlan {plan : CatalogMutationPlan} (h : s.validatePlan plan = .ok ()) :
    s.databaseId = plan.databaseId ∧ s.namespaceId = plan.namespaceId := by
  simp only [CatalogSnapshot.validatePlan, ok_iff] at h
  obtain ⟨hdatabase, hnamespace, -⟩ := h
  exact ⟨hdatabase, hnamespace⟩

theorem applyRecovered_of_valid (hplan : IsPlanOf batch batchPlan)
    (hvalid : s.validatePlan batchPlan.mutationPlan = .ok ())
    (hsettled : s.lastDurableVersion = s.version) :
    applyRecovered batchPlan.mutationPlan.commitBoundary batchPlan.mutationPlan.deltas s =
      (.ok (), s.recovered batchPlan.mutationPlan) := by
  obtain ⟨hdatabase, hnamespace⟩ := identity_of_validatePlan hvalid
  have hprevious := (admitted_of_validatePlan hvalid).previous
  have hidentity : s.validateRecoveryBoundaryIdentity batchPlan.mutationPlan.commitBoundary =
      .ok () := by
    simp only [validateRecoveryBoundaryIdentity, ok_iff, not_or]
    exact ⟨⟨hdatabase.symm, hnamespace.symm⟩, (hsettled.trans hprevious).symm⟩
  obtain ⟨report, happly⟩ :=
    applyMutationPlan_of_valid hplan.validateDefinitionBatchIntegrity hvalid
  rw [applyRecovered, get_bind, hidentity, lift_ok_bind]
  have hnew := new_of_isPlanOf hplan
  simp only [CatalogMutationPlan.commitBoundary, hnew, lift_ok_bind]
  exact bind_of_ok happly

end CatalogSnapshot

open CatalogSnapshot

/-! ## Replaying the records of a plan -/

def CatalogMutationPlan.recoveredBatch (plan : CatalogMutationPlan) : CatalogRecoveredBatch :=
  { batchId := plan.batchId
    previousVersion := plan.previousVersion
    nextVersion := plan.nextVersion
    sourceHash := plan.sourceHash
    dependencyGraphHash := plan.dependencyGraphHash
    appliedDeltaCount := plan.deltas.length }

namespace MutationReplay

variable {ρ : Type} {batch : DefinitionBatch} {batchPlan : DefinitionBatchPlan}

theorem denseFrom_of_validateDeltasFrom {previousVersion nextVersion : CatalogVersion} {k : Nat}
    {ids : List CatalogObjectId} {names : List QualifiedName} {deltas : List CatalogMutationDelta}
    (h : validateDeltasFrom previousVersion nextVersion k ids names deltas = .ok ()) :
    DenseFrom k deltas := by
  induction deltas generalizing k ids names with
  | nil => trivial
  | cons delta deltas ih =>
    obtain ⟨hindex, -, hrest⟩ := validateDeltasFrom_cons h
    exact ⟨hindex, ih hrest⟩

section

variable (h : IsPlanOf batch batchPlan)
include h

theorem shape_of_isPlanOf : batchPlan.mutationPlan.deltas ≠ [] ∧
      validateDeltasFrom batchPlan.mutationPlan.previousVersion batchPlan.mutationPlan.nextVersion 0
        [] [] batchPlan.mutationPlan.deltas = .ok () := by
  have hvalid := h.valid
  simp only [CatalogMutationPlan.validateNew, ok_iff] at hvalid
  obtain ⟨hnonempty, -, -, -, -, -, -, -, hshape⟩ := hvalid
  exact ⟨hnonempty, hshape⟩

theorem checkRebuilt_of_isPlanOf (n : Nat) (deltas : List (Nat × CatalogMutationDelta)) :
    checkRebuilt ⟨n, batchPlan.mutationPlan.commitBoundary, deltas⟩ batchPlan.mutationPlan.deltas =
      .ok () := by
  obtain ⟨hnonempty, hshape⟩ := shape_of_isPlanOf h
  have hrebuilt : definitionBatchFromRecoveredDeltas batchPlan.mutationPlan.commitBoundary
      batchPlan.mutationPlan.deltas = batch := h.definitionBatch
  simp only [checkRebuilt, hrebuilt, ok_iff, mapError_eq_ok, h.dependencyGraphHash, validateRecoveredPlanShape]
  exact ⟨h.sourceHash.symm, _, rfl, rfl, hnonempty, hshape⟩

theorem checkTarget_of_valid {s : CatalogSnapshot ρ}
    (hvalid : s.validatePlan batchPlan.mutationPlan = .ok ())
    (hsettled : s.lastDurableVersion = s.version) (n : Nat)
    (deltas : List (Nat × CatalogMutationDelta)) :
    checkTarget s ⟨n, batchPlan.mutationPlan.commitBoundary, deltas⟩ = .ok () := by
  obtain ⟨hdatabase, hnamespace⟩ := identity_of_validatePlan hvalid
  have hprevious := (admitted_of_validatePlan hvalid).previous
  have hbase : batchPlan.mutationPlan.previousVersion = batch.baseVersion := by
    rw [← h.definitionBatch]
    rfl
  have hsuccessor : batchPlan.mutationPlan.nextVersion =
      saturatingSucc batchPlan.mutationPlan.previousVersion := by
    rw [saturatingSucc, hbase, h.successor]
    rfl
  simp only [checkTarget, ok_iff, not_or]
  exact ⟨⟨hdatabase.symm, hnamespace.symm⟩, (hsettled.trans hprevious).symm, hsuccessor⟩

theorem replayCommittedBatch_of_valid {state : MutationReplay (CatalogSnapshot ρ)}
    (hvalid : state.target.validatePlan batchPlan.mutationPlan = .ok ())
    (hsettled : state.target.lastDurableVersion = state.target.version) (n commitIndex : Nat) :
    state.replayCommittedBatch ⟨n, batchPlan.mutationPlan.commitBoundary,
        indexedFrom (n + 1) batchPlan.mutationPlan.deltas⟩ commitIndex =
      { state with
        target := state.target.recovered batchPlan.mutationPlan
        replayedBatches := state.replayedBatches ++ [batchPlan.mutationPlan.recoveredBatch] } := by
  obtain ⟨hnonempty, hshape⟩ := shape_of_isPlanOf h
  have hdense := denseFrom_of_validateDeltasFrom hshape
  have hcheck : checkCommittedBatch state.target ⟨n, batchPlan.mutationPlan.commitBoundary,
      indexedFrom (n + 1) batchPlan.mutationPlan.deltas⟩ commitIndex =
        .ok batchPlan.mutationPlan.deltas := by
    have hindexed : DenseFrom 0 ((indexedFrom (n + 1) batchPlan.mutationPlan.deltas).map Prod.snd) := by
      rw [indexedFrom_map_snd]
      exact hdense
    simp only [checkCommittedBatch, ok_iff, sortByOperationIndex_of_dense hindexed,
      indexedFrom_map_snd]
    exact ⟨checkRecords_of_dense hdense hnonempty rfl (n + 1) n commitIndex,
      checkTarget_of_valid h hvalid hsettled n _, checkRebuilt_of_isPlanOf h n _, trivial⟩
  have happly : CatalogRecoveryApplyTarget.applyRecoveredCatalogMutation
      batchPlan.mutationPlan.commitBoundary batchPlan.mutationPlan.deltas state.target =
        (.ok (), state.target.recovered batchPlan.mutationPlan) :=
    applyRecovered_of_valid h hvalid hsettled
  rw [replayCommittedBatch, hcheck]
  dsimp only
  rw [happly]
  rfl

end

end MutationReplay

open MutationReplay

/-! ## Recovering a log -/

def LogEntry.durablePayload (tagged : Bool) (entry : LogEntry) : CatalogDurableMutationPayload :=
  ⟨entry.payload, if tagged then some entry.kind.storageWalKindTag else none⟩

def recoverLog {ρ : Type} (tagged : Bool) (initial : CatalogSnapshot ρ) (log : List LogEntry) :
    MutationReplay (CatalogSnapshot ρ) :=
  recoverCatalogSnapshotFromDurablePayloads initial (log.map (LogEntry.durablePayload tagged))

structure Holds (log : List LogEntry) (records : List CatalogMutationRecord) : Prop where
  encodes : List.Forall₂ CatalogSystemStore.Encodes records log
  fits : ∀ record ∈ records, record.IndexFits

variable {log : List LogEntry} {records : List CatalogMutationRecord}

theorem Holds.append {log' : List LogEntry} {records' : List CatalogMutationRecord}
    (h : Holds log records) (h' : Holds log' records') :
    Holds (log ++ log') (records ++ records') :=
  ⟨rel_append h.encodes h'.encodes, forall_mem_append.mpr ⟨h.fits, h'.fits⟩⟩

theorem decodeIndexedPayload_of_encodes {record : CatalogMutationRecord} {entry : LogEntry}
    (h : CatalogSystemStore.Encodes record entry) (hfits : record.IndexFits) (tagged : Bool)
    (n : Nat) : decodeIndexedPayload (entry.durablePayload tagged, n) = .ok (n, record) := by
  obtain ⟨hkind, hencode⟩ := h
  simp only [encodeCatalogDurablePayload, ok_iff] at hencode
  obtain ⟨hvalid, hsmall, hpayload⟩ := hencode
  have hdecode := decode_writtenPayload hfits hvalid
    (UInt64.toNat_ofNat_of_lt' (Nat.lt_of_not_le hsmall))
  rw [hpayload] at hdecode
  rw [decodeIndexedPayload, LogEntry.durablePayload, hdecode]
  cases tagged with
  | false => rfl
  | true =>
    have htag : entry.kind.storageWalKindTag = record.kind.storageWalKindTag := by rw [hkind]
    exact bind_eq_ok.mpr ⟨record, rfl, bind_eq_ok.mpr ⟨(), failIf_neg (not_not.mpr htag), rfl⟩⟩

theorem decoded_of_holds (h : Holds log records) (tagged : Bool) (n : Nat) :
    ((log.map (LogEntry.durablePayload tagged)).zipIdx n).map decodeIndexedPayload =
      (indexedFrom n records).map .ok := by
  obtain ⟨hencodes, hfits⟩ := h
  induction hencodes generalizing n with
  | nil => rfl
  | @cons record entry records log hentry hrest ih =>
    have hdecode := decodeIndexedPayload_of_encodes hentry (hfits record mem_cons_self) tagged n
    have hlater := ih (n + 1) (forall_mem_cons.mp hfits).2
    rw [map_cons, zipIdx_cons, map_cons, hdecode, hlater, indexedFrom_cons, map_cons]

theorem recoverLog_of_holds {ρ : Type} (h : Holds log records) (tagged : Bool)
    (initial : CatalogSnapshot ρ) :
    recoverLog tagged initial log = ((indexedFrom 0 records).foldl observe
        (start initial [])).close := by
  have hrecords : ∀ indexed : List (Nat × CatalogMutationRecord),
      (indexed.map (fun entry => (.ok entry : Except CatalogRecoveryAnomaly _))).filterMap
        Except.toOption = indexed := by
    intro indexed
    rw [filterMap_map]
    exact filterMap_some
  rw [recoverLog, recoverCatalogSnapshotFromDurablePayloads,
    recoverCatalogTargetFromDurablePayloads, decoded_of_holds h tagged 0]
  simp only [replayIndexedRecords, hrecords, filterMap_map, Function.comp_def]
  rw [filterMap_none]

end Andromeda.Catalog
