import Andromeda.Catalog.MutationReplay

/-!
# Steps of the replay loop

How the loop of the mutation replay runs through the records of one batch: the begin and apply
records open it, the commit record hands it to `replayCommittedBatch`, and a batch whose apply
records stand in order passes the checks on its records.
-/

namespace Andromeda.Catalog

open Fallible List

namespace MutationReplay

variable {τ : Type}

/-! ## Opening a batch -/

/-- Records with their positions in the log, the first one at `n`. -/
def indexedFrom {α : Type} (n : Nat) (values : List α) : List (Nat × α) :=
  (values.zipIdx n).map Prod.swap

@[simp] theorem indexedFrom_nil {α : Type} (n : Nat) : indexedFrom n ([] : List α) = [] := rfl

@[simp] theorem indexedFrom_cons {α : Type} (n : Nat) (value : α) (values : List α) :
    indexedFrom n (value :: values) = (n, value) :: indexedFrom (n + 1) values := rfl

theorem indexedFrom_append {α : Type} (n : Nat) (xs ys : List α) :
    indexedFrom n (xs ++ ys) = indexedFrom n xs ++ indexedFrom (n + xs.length) ys := by
  rw [indexedFrom, zipIdx_append, map_append]
  rfl

@[simp] theorem length_indexedFrom {α : Type} (n : Nat) (values : List α) :
    (indexedFrom n values).length = values.length := by
  rw [indexedFrom, length_map, length_zipIdx]

theorem indexedFrom_map_snd {α : Type} (n : Nat) (values : List α) :
    (indexedFrom n values).map Prod.snd = values := by
  rw [indexedFrom, map_map]
  exact zipIdx_map_fst n values

section

variable (state : MutationReplay τ)

@[simp] theorem supersede_target (n : Nat) : (state.supersede n).target = state.target := by
  rw [supersede]
  split <;> rfl

@[simp] theorem supersede_replayedBatches (n : Nat) :
    (state.supersede n).replayedBatches = state.replayedBatches := by
  rw [supersede]
  split <;> rfl

@[simp] theorem supersede_pending (n : Nat) : (state.supersede n).pending = none := by
  rw [supersede]
  split
  · assumption
  · rfl

@[simp] theorem close_target : state.close.target = state.target := by
  rw [close]
  split <;> rfl

@[simp] theorem close_replayedBatches : state.close.replayedBatches = state.replayedBatches := by
  rw [close]
  split <;> rfl

end

section Target

variable [CatalogRecoveryApplyTarget τ]

section

variable (state : MutationReplay τ) (n : Nat)

theorem observe_begin (boundary : CatalogMutationBoundary) :
    state.observe (n, .begin boundary) = state.observeBegin n boundary := rfl

theorem observe_apply (delta : CatalogMutationDelta) :
    state.observe (n, .apply delta) = state.observeApply n delta := rfl

theorem observe_commit (boundary : CatalogMutationBoundary) :
    state.observe (n, .commit boundary) = state.observeCommit n boundary := rfl

end

theorem foldl_observe_applies {state : MutationReplay τ} {batch : PendingCatalogBatch}
    (hpending : state.pending = some batch) (n : Nat) (deltas : List CatalogMutationDelta)
    (hroom : batch.deltas.length + deltas.length ≤ batch.boundary.expectedApplyCount) :
    (indexedFrom n (deltas.map .apply)).foldl observe state =
      { state with
        pending := some { batch with deltas := batch.deltas ++ indexedFrom n deltas } } := by
  induction deltas generalizing state batch n with
  | nil =>
    rw [map_nil, indexedFrom_nil, foldl_nil, indexedFrom_nil, append_nil]
    rw [← hpending]
  | cons delta deltas ih =>
    rw [length_cons] at hroom
    have hfits : ¬ batch.boundary.expectedApplyCount ≤ batch.deltas.length := by omega
    have hstep : state.observe (n, .apply delta) =
        { state with
          pending := some { batch with deltas := batch.deltas ++ [(n, delta)] } } := by
      rw [observe_apply, observeApply, hpending]
      exact if_neg hfits
    rw [map_cons, indexedFrom_cons, foldl_cons, hstep, ih rfl]
    · rw [indexedFrom_cons, append_assoc, singleton_append]
    · have hroom' : (batch.deltas ++ [(n, delta)]).length + deltas.length ≤
          batch.boundary.expectedApplyCount := by
        rw [length_append, length_singleton]
        omega
      exact hroom'

section

variable (state : MutationReplay τ) (n : Nat)

section

variable (boundary : CatalogMutationBoundary) (deltas : List CatalogMutationDelta)
  (hlimit : boundary.expectedApplyCount ≤ maxApplyRecordsPerBatch)
  (hroom : deltas.length ≤ boundary.expectedApplyCount)
include hlimit hroom

theorem foldl_observe_opening :
    (indexedFrom n (.begin boundary :: deltas.map .apply)).foldl observe state =
      { state.supersede n with
        pending := some ⟨n, boundary, indexedFrom (n + 1) deltas⟩ } := by
  have hbegin : state.observe (n, .begin boundary) =
      { state.supersede n with pending := some ⟨n, boundary, []⟩ } := by
    rw [observe_begin, observeBegin]
    exact if_neg (Nat.not_lt.mpr hlimit)
  have hempty : ([] : List (Nat × CatalogMutationDelta)).length + deltas.length ≤
      boundary.expectedApplyCount := by
    rw [length_nil]
    omega
  rw [indexedFrom_cons, foldl_cons, hbegin, foldl_observe_applies rfl (n + 1) deltas hempty]
  rfl

theorem foldl_observe_batch :
    (indexedFrom n (.begin boundary :: deltas.map .apply ++ [.commit boundary])).foldl observe
        state = (state.supersede n).replayCommittedBatch ⟨n, boundary, indexedFrom (n + 1) deltas⟩
        (n + (deltas.length + 1)) := by
  rw [indexedFrom_append, foldl_append, foldl_observe_opening state n boundary deltas hlimit
    hroom, length_cons, length_map, indexedFrom_cons, indexedFrom_nil, foldl_cons,
    foldl_nil, observe_commit, observeCommit]
  have hpending : { state.supersede n with pending := none } = state.supersede n := by
    rw [← supersede_pending state n]
  simp only [ne_eq, not_true_eq_false, if_false, hpending]

end

theorem observe_frame {record : CatalogMutationRecord}
    (hrecord : ∀ boundary, record ≠ .commit boundary) :
    (state.observe (n, record)).target = state.target ∧
      (state.observe (n, record)).replayedBatches = state.replayedBatches := by
  cases record with
  | begin boundary =>
    have htarget := supersede_target state n
    have hreplayed := supersede_replayedBatches state n
    rw [observe_begin, observeBegin]
    split
    · exact ⟨htarget, hreplayed⟩
    · exact ⟨htarget, hreplayed⟩
  | apply delta =>
    rw [observe_apply, observeApply]
    split
    · exact ⟨rfl, rfl⟩
    · split
      · exact ⟨rfl, rfl⟩
      · exact ⟨rfl, rfl⟩
  | commit boundary => exact absurd rfl (hrecord boundary)

theorem foldl_observe_frame {records : List CatalogMutationRecord}
    (hrecords : ∀ record ∈ records, ∀ boundary, record ≠ .commit boundary) :
    ((indexedFrom n records).foldl observe state).target = state.target ∧
      ((indexedFrom n records).foldl observe state).replayedBatches = state.replayedBatches := by
  induction records generalizing state n with
  | nil => exact ⟨rfl, rfl⟩
  | cons record records ih =>
    obtain ⟨htarget, hreplayed⟩ := observe_frame state n (hrecords record mem_cons_self)
    obtain ⟨htargets, hreplays⟩ := ih (state.observe (n, record)) (n + 1)
      (forall_mem_cons.mp hrecords).2
    rw [indexedFrom_cons, foldl_cons]
    exact ⟨htargets.trans htarget, hreplays.trans hreplayed⟩

end

end Target

/-! ## Apply records in order -/

/-- The operation indexes count up from `k`. -/
def DenseFrom : Nat → List CatalogMutationDelta → Prop
  | _, [] => True
  | k, delta :: deltas => delta.operationIndex = k ∧ DenseFrom (k + 1) deltas

variable {k : Nat} {deltas : List CatalogMutationDelta}

section

variable (h : DenseFrom k deltas)
include h

theorem DenseFrom.le : ∀ delta ∈ deltas, k ≤ delta.operationIndex := by
  induction deltas generalizing k with
  | nil => exact forall_mem_nil _
  | cons delta deltas ih =>
    refine forall_mem_cons.mpr ⟨Nat.le_of_eq h.1.symm, ?_⟩
    exact fun delta' hmem => Nat.le_of_succ_le (ih h.2 delta' hmem)

theorem DenseFrom.lt : ∀ delta ∈ deltas, delta.operationIndex < k + deltas.length := by
  induction deltas generalizing k with
  | nil => exact forall_mem_nil _
  | cons delta deltas ih =>
    intro delta' hmem
    rw [length_cons]
    rcases mem_cons.mp hmem with rfl | hmem
    · have hindex := h.1
      omega
    · have hlater := ih h.2 delta' hmem
      omega

end

variable {entries : List (Nat × CatalogMutationDelta)}

theorem misplacedDelta_eq_none :
    misplacedDelta k entries = none ↔ DenseFrom k (entries.map Prod.snd) := by
  induction entries generalizing k with
  | nil => simp [misplacedDelta, DenseFrom]
  | cons entry entries ih =>
    rw [misplacedDelta, map_cons, DenseFrom, ← ih]
    split_ifs with hindex
    · simp [hindex]
    · simp [not_not.mp hindex]

section

variable (h : DenseFrom k (entries.map Prod.snd))
include h

theorem duplicateApplyIndex_of_dense {seen : List Nat} (hseen : ∀ index ∈ seen, index < k) :
    duplicateApplyIndex seen entries = none := by
  induction entries generalizing k seen with
  | nil => rfl
  | cons entry entries ih =>
    have hnew : entry.2.operationIndex ∉ seen := fun hmem => (hseen _ hmem).ne h.1
    rw [duplicateApplyIndex, if_neg hnew]
    exact ih h.2 (forall_mem_cons.mpr ⟨Nat.lt_succ_of_le (Nat.le_of_eq h.1),
      fun index hmem => Nat.lt_succ_of_lt (hseen index hmem)⟩)

theorem sortByOperationIndex_of_dense : sortByOperationIndex entries = entries := by
  apply List.Pairwise.insertionSort_eq
  induction entries generalizing k with
  | nil => exact List.Pairwise.nil
  | cons entry entries ih =>
    refine pairwise_cons.mpr ⟨?_, ih h.2⟩
    intro later hmem
    have hle := h.2.le later.2 (mem_map_of_mem hmem)
    have hindex : entry.2.operationIndex = k := h.1
    omega

end

theorem checkRecords_eq_ok {batch : PendingCatalogBatch} {commitIndex : Nat} :
    checkRecords batch commitIndex = .ok () ↔ batch.deltas ≠ [] ∧
      batch.deltas.length = batch.boundary.expectedApplyCount ∧
      DenseFrom 0 (batch.deltas.map Prod.snd) := by
  have hfailAt : ∀ {ε α : Type} {found : Option α} {fault : α → ε},
      failAt found fault = .ok () ↔ found = none := by
    intro ε α found fault
    cases found <;> simp [failAt]
  simp only [checkRecords, ok_iff, hfailAt, misplacedDelta_eq_none]
  constructor
  · rintro ⟨hne, -, hcount, -, hdense⟩
    exact ⟨hne, hcount, hdense⟩
  · rintro ⟨hne, hcount, hdense⟩
    refine ⟨hne, duplicateApplyIndex_of_dense hdense (forall_mem_nil _), hcount, ?_, hdense⟩
    rw [sortByOperationIndex_of_dense hdense]
    exact hdense

theorem checkRecords_of_dense (hdense : DenseFrom 0 deltas) (hne : deltas ≠ [])
    {boundary : CatalogMutationBoundary} (hcount : deltas.length = boundary.expectedApplyCount)
    (n m commitIndex : Nat) :
    checkRecords ⟨m, boundary, indexedFrom n deltas⟩ commitIndex = .ok () := by
  rw [checkRecords_eq_ok, indexedFrom_map_snd, length_indexedFrom, ← length_pos_iff,
    length_indexedFrom, length_pos_iff]
  exact ⟨hne, hcount, hdense⟩

end MutationReplay

end Andromeda.Catalog
