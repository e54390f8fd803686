import Andromeda.Catalog.ReplaySteps

/-!
# Replaying catalog publications from the storage WAL

The second reader of the catalog records: it groups the observed records of the storage WAL into
publications and fails on the first record that does not fit. Histories of publications, some of
them cut short by a crash, are read by both readers.
-/

namespace Andromeda.Catalog

open Fallible List PendingCatalogBatch

structure CatalogWalObservedRecord where
  lsn : Lsn
  kind : CatalogMutationRecordKind
  transactionId : Option TransactionId
  payload : Bytes

structure CatalogWalPublicationRecord (κ : Type) where
  lsn : Lsn
  payload : Bytes
  catalogRecord : κ

structure CatalogWalDurablePublication (κ : Type) where
  transactionId : TransactionId
  beginLsn : Lsn
  commitLsn : Lsn
  beginPayload : Bytes
  applyRecords : List (CatalogWalPublicationRecord κ)
  commitPayload : Bytes

structure CatalogWalPublicationReplayReport (κ : Type) where
  totalRecords : Nat
  catalogRecordsSeen : Nat
  incompleteTailRecords : Nat
  publications : List (CatalogWalDurablePublication κ)

structure PendingCatalogPublication (κ : Type) where
  transactionId : TransactionId
  beginLsn : Lsn
  beginPayload : Bytes
  applyRecords : List (CatalogWalPublicationRecord κ)

structure CatalogPublicationReplayState (κ : Type) where
  report : CatalogWalPublicationReplayReport κ
  lastLsn : Option Lsn
  pending : Option (PendingCatalogPublication κ)

def catalogRecordTransactionId (record : CatalogWalObservedRecord) : Result TransactionId :=
  orError record.transactionId
    (storageError "catalog WAL publication record requires a transaction id")

namespace CatalogPublicationReplayState

variable {κ : Type}

def new (totalRecords : Nat) : CatalogPublicationReplayState κ :=
  ⟨⟨totalRecords, 0, 0, []⟩, none, none⟩

section

variable (state : CatalogPublicationReplayState κ)

def validateLsnOrder (lsn : Lsn) : Result (CatalogPublicationReplayState κ) := do
  match state.lastLsn with
  | none => pure ()
  | some previous =>
    failIf (lsn ≤ previous) (storageError
      ("catalog WAL replay requires strictly increasing LSN order: previous " ++
        toString previous.toNat ++ ", current " ++ toString lsn.toNat))
  pure { state with lastLsn := some lsn }

def countRecord : CatalogPublicationReplayState κ :=
  { state with
    report := { state.report with catalogRecordsSeen := state.report.catalogRecordsSeen + 1 } }

def observeBegin (record : CatalogWalObservedRecord) :
    Result (CatalogPublicationReplayState κ) := do
  let state := state.countRecord
  failIf (state.pending.isSome = true) (storageError
    "catalog WAL begin observed before the previous catalog publication committed")
  let transactionId ← catalogRecordTransactionId record
  pure { state with pending := some ⟨transactionId, record.lsn, record.payload, []⟩ }

end

section

variable (decodeApplyPayload : CatalogWalObservedRecord → Result κ)
  (state : CatalogPublicationReplayState κ) (record : CatalogWalObservedRecord)

def observeApply : Result (CatalogPublicationReplayState κ) := do
  let state := state.countRecord
  let transactionId ← catalogRecordTransactionId record
  let pending ← orError state.pending
    (storageError "catalog WAL apply observed before catalog publication begin")
  failIf (pending.transactionId ≠ transactionId)
    (storageError "catalog WAL apply transaction id does not match publication begin")
  let catalogRecord ← decodeApplyPayload record
  pure { state with
    pending := some { pending with
      applyRecords := pending.applyRecords ++ [⟨record.lsn, record.payload, catalogRecord⟩] } }

def observeCommit : Result (CatalogPublicationReplayState κ) := do
  let state := state.countRecord
  let transactionId ← catalogRecordTransactionId record
  let pending ← orError state.pending
    (storageError "catalog WAL commit observed before catalog publication begin")
  failIf (pending.transactionId ≠ transactionId)
    (storageError "catalog WAL commit transaction id does not match publication begin")
  failIf (pending.applyRecords = [])
    (storageError "catalog WAL publication commit requires at least one apply record")
  pure { state with
    pending := none
    report := { state.report with
      publications := state.report.publications ++
        [{ transactionId
           beginLsn := pending.beginLsn
           commitLsn := record.lsn
           beginPayload := pending.beginPayload
           applyRecords := pending.applyRecords
           commitPayload := record.payload }] } }

def observeRecord : Result (CatalogPublicationReplayState κ) := do
  let state ← state.validateLsnOrder record.lsn
  match record.kind with
  | .catalogChangeBegin => state.observeBegin record
  | .catalogChangeApply => state.observeApply decodeApplyPayload record
  | .catalogChangeCommit => state.observeCommit record

end

def intoReport (state : CatalogPublicationReplayState κ) : CatalogWalPublicationReplayReport κ :=
  match state.pending with
  | none => state.report
  | some pending =>
    { state.report with incompleteTailRecords := pending.applyRecords.length + 1 }

end CatalogPublicationReplayState

def replayCatalogPublicationsFromObservedWal {κ : Type} (totalRecords : Nat)
    (records : List CatalogWalObservedRecord)
    (decodeApplyPayload : CatalogWalObservedRecord → Result κ) :
    Result (CatalogWalPublicationReplayReport κ) := do
  let state ← records.foldlM (CatalogPublicationReplayState.observeRecord decodeApplyPayload)
    (.new totalRecords)
  pure state.intoReport

namespace CatalogPublicationReplayState

variable {κ : Type} {decode : CatalogWalObservedRecord → Result κ}
  {state state' : CatalogPublicationReplayState κ} {record : CatalogWalObservedRecord}
  {log : List CatalogWalObservedRecord}
  {pending : PendingCatalogPublication κ}

structure Ordered (state : CatalogPublicationReplayState κ) (log : List CatalogWalObservedRecord) :
    Prop where
  above : ∀ previous, state.lastLsn = some previous → ∀ record ∈ log, previous < record.lsn
  ascending : log.Pairwise fun a b => a.lsn < b.lsn

theorem Ordered.cons (h : Ordered state (record :: log)) (hlast : state'.lastLsn = some record.lsn) :
    Ordered state' log := by
  obtain ⟨habove, hascending⟩ := pairwise_cons.mp h.ascending
  refine ⟨?_, hascending⟩
  intro previous heq later hmem
  rw [hlast] at heq
  cases heq
  exact habove later hmem

theorem validateLsnOrder_eq_ok {lsn : Lsn} (h : state.validateLsnOrder lsn = .ok state') :
    state' = { state with lastLsn := some lsn } := by
  rw [validateLsnOrder] at h
  split at h
  · exact (Except.ok.inj h).symm
  · simp only [ok_iff] at h
    exact h.2.symm

theorem Ordered.validateLsnOrder (h : Ordered state (record :: log)) :
    state.validateLsnOrder record.lsn = .ok { state with lastLsn := some record.lsn } := by
  rw [CatalogPublicationReplayState.validateLsnOrder]
  cases hlast : state.lastLsn with
  | none => rfl
  | some previous =>
    have habove := h.above previous hlast record mem_cons_self
    simp only [ok_iff, and_true]
    exact UInt64.not_le.mpr habove

theorem observeRecord_begin_open (hkind : record.kind = .catalogChangeBegin)
    (hpending : state.pending = some pending) : state.observeRecord decode record ≠ .ok state' := by
  intro hok
  rw [observeRecord, bind_eq_ok] at hok
  obtain ⟨checked, horder, hbegin⟩ := hok
  obtain rfl := validateLsnOrder_eq_ok horder
  simp only [hkind, observeBegin, countRecord, hpending, ok_iff, Option.isSome_some,
    not_true_eq_false, false_and] at hbegin

variable {before middle after : Option (PendingCatalogPublication κ)}
  {found found' : List (CatalogWalDurablePublication κ)} {log' : List CatalogWalObservedRecord}

/-- From `before` on the log is read to `after`, whatever follows it, and these publications are
found on the way. -/
def Reads (decode : CatalogWalObservedRecord → Result κ) (log : List CatalogWalObservedRecord)
    (before after : Option (PendingCatalogPublication κ))
    (found : List (CatalogWalDurablePublication κ)) : Prop :=
  ∀ (state : CatalogPublicationReplayState κ) rest, state.pending = before →
    Ordered state (log ++ rest) → ∃ state', log.foldlM (observeRecord decode) state = .ok state' ∧
      state'.pending = after ∧ state'.report.publications = state.report.publications ++ found ∧
      Ordered state' rest

theorem reads_nil : Reads decode [] before before [] :=
  fun state _ hbefore hordered => ⟨state, rfl, hbefore, (append_nil _).symm, hordered⟩

theorem Reads.append (h : Reads decode log before middle found)
    (h' : Reads decode log' middle after found') :
    Reads decode (log ++ log') before after (found ++ found') := by
  intro state rest hbefore hordered
  rw [append_assoc] at hordered
  obtain ⟨next, hfold, hmiddle, hfound, hrest⟩ := h state _ hbefore hordered
  obtain ⟨state', hfold', hafter, hfound', hrest'⟩ := h' next rest hmiddle hrest
  refine ⟨state', ?_, hafter, ?_, hrest'⟩
  · rw [foldlM_append, hfold]
    exact hfold'
  · rw [hfound', hfound, append_assoc]

end CatalogPublicationReplayState

/-! ## What the mutation replay takes for complete -/

namespace MutationReplay

variable {τ : Type}

section

variable (state : MutationReplay τ)

def incompleteIds : List DefinitionBatchId :=
  state.skippedIncompleteBatches.map CatalogSkippedBatch.batchId ++
    state.pending.toList.map fun batch => batch.boundary.batchId

def settledIds : List DefinitionBatchId :=
  state.replayedBatches.map CatalogRecoveredBatch.batchId ++
    state.skippedAnomalousBatches.map CatalogSkippedBatch.batchId

theorem ids_supersede (n : Nat) : (state.supersede n).incompleteIds = state.incompleteIds ∧
      (state.supersede n).settledIds = state.settledIds := by
  rw [supersede]
  cases hpending : state.pending <;>
    simp [incompleteIds, settledIds, skipIncomplete, report, skipped, hpending]

theorem ids_close :
    state.close.incompleteIds = state.incompleteIds ∧ state.close.settledIds = state.settledIds := by
  rw [close]
  cases hpending : state.pending <;>
    simp [incompleteIds, settledIds, skipIncomplete, report, skipped, hpending]

end

variable [CatalogRecoveryApplyTarget τ] {batch : PendingCatalogBatch}

theorem not_incomplete_of_checkRecords {target : τ} {n : Nat} {fault : ReplayFault}
    (hrecords : checkRecords batch n = .ok ())
    (h : checkCommittedBatch target batch n = .error fault) : fault.incomplete = false := by
  have htarget : ∀ fault', checkTarget target batch = .error fault' → fault'.incomplete = false := by
    intro fault' herror
    simp only [checkTarget, bind_eq_error, failIf_eq_error, exists_unit] at herror
    rcases herror with ⟨-, rfl⟩ | ⟨-, ⟨-, rfl⟩ | ⟨-, -, rfl⟩⟩ <;> rfl
  have hrebuilt : ∀ deltas fault', checkRebuilt batch deltas = .error fault' →
      fault'.incomplete = false := by
    intro deltas fault' herror
    simp only [checkRebuilt, bind_eq_error, failIf_eq_error, exists_unit,
      mapError_eq_error] at herror
    rcases herror with ⟨-, rfl⟩ | ⟨-, ⟨-, -, rfl⟩ | ⟨-, -, ⟨-, rfl⟩ | ⟨-, -, -, rfl⟩⟩⟩ <;> rfl
  simp only [checkCommittedBatch, hrecords, bind_eq_error, exists_unit, reduceCtorEq, false_or,
    true_and] at h
  rcases h with herror | ⟨-, herror | ⟨-, herror⟩⟩
  · exact htarget fault herror
  · exact hrebuilt _ fault herror
  · cases herror

theorem settles_of_checkRecords (state : MutationReplay τ) {n : Nat}
    (hrecords : checkRecords batch n = .ok ()) :
    (state.replayCommittedBatch batch n).incompleteIds = state.incompleteIds ∧
      (state.replayCommittedBatch batch n).settledIds.Perm
        (batch.boundary.batchId :: state.settledIds) := by
  have hskip : ∀ (state' : MutationReplay τ) (fault : ReplayFault), fault.incomplete = false →
      (state'.skipCommitted batch fault).incompleteIds = state'.incompleteIds ∧
        (state'.skipCommitted batch fault).settledIds.Perm
          (batch.boundary.batchId :: state'.settledIds) := by
    intro state' fault hincomplete
    simp only [skipCommitted, hincomplete, Bool.false_eq_true, if_false, skipAnomalous, report,
      incompleteIds, settledIds, skipped, map_append, map_singleton,
      ← append_assoc, true_and]
    exact perm_append_singleton _ _
  rw [replayCommittedBatch]
  split
  next fault hfault => exact hskip state fault (not_incomplete_of_checkRecords hrecords hfault)
  next =>
    split
    next error target _ => exact hskip { state with target } _ rfl
    next =>
      refine ⟨rfl, ?_⟩
      simp only [settledIds, map_append, map_singleton, append_assoc]
      exact perm_middle

end MutationReplay

open MutationReplay

/-! ## Histories of publications -/

/-- A publication on its way into the log: its begin, apply and commit records are written in
this order, the first `written` of them before a crash or the end. -/
structure PublicationAttempt where
  transactionId : TransactionId
  boundary : CatalogMutationBoundary
  deltas : List CatalogMutationDelta
  lsn : Nat → Lsn
  payload : Nat → Bytes
  written : Nat
  nonempty : deltas ≠ []
  dense : MutationReplay.DenseFrom 0 deltas
  counted : deltas.length = boundary.expectedApplyCount
  limited : boundary.expectedApplyCount ≤ maxApplyRecordsPerBatch

namespace PublicationAttempt

variable {κ : Type}

section

variable (attempt : PublicationAttempt)

def records : List CatalogMutationRecord :=
  .begin attempt.boundary :: attempt.deltas.map .apply ++ [.commit attempt.boundary]

def writtenRecords : List CatalogMutationRecord :=
  attempt.records.take attempt.written

def observed (kind : CatalogMutationRecordKind) (i : Nat) : CatalogWalObservedRecord :=
  ⟨attempt.lsn i, kind, some attempt.transactionId, attempt.payload i⟩

/-- The apply records at `k` positions from `n` on, as the storage WAL shows them. -/
def applies (n k : Nat) : List CatalogWalObservedRecord :=
  (List.range' n k).map (attempt.observed .catalogChangeApply)

def shown (n : Nat) (records : List CatalogMutationRecord) : List CatalogWalObservedRecord :=
  (indexedFrom n records).map fun entry => attempt.observed entry.2.kind entry.1

def log : List CatalogWalObservedRecord :=
  attempt.shown 0 attempt.writtenRecords

def Completed : Prop := attempt.deltas.length + 2 ≤ attempt.written
deriving Decidable

def Cut : Prop := 0 < attempt.written ∧ ¬ attempt.Completed
deriving Decidable

end

def applyRecord (decoded : CatalogWalObservedRecord → κ) (attempt : PublicationAttempt) (i : Nat) :
    CatalogWalPublicationRecord κ :=
  ⟨attempt.lsn i, attempt.payload i, decoded (attempt.observed .catalogChangeApply i)⟩

def publication (decoded : CatalogWalObservedRecord → κ) (attempt : PublicationAttempt) :
    CatalogWalDurablePublication κ :=
  { transactionId := attempt.transactionId
    beginLsn := attempt.lsn 0
    commitLsn := attempt.lsn (attempt.deltas.length + 1)
    beginPayload := attempt.payload 0
    applyRecords := (List.range' 1 attempt.deltas.length).map (attempt.applyRecord decoded)
    commitPayload := attempt.payload (attempt.deltas.length + 1) }

theorem shown_applies (attempt : PublicationAttempt) (n : Nat) (deltas : List CatalogMutationDelta) :
    attempt.shown n (deltas.map .apply) = attempt.applies n deltas.length := by
  induction deltas generalizing n with
  | nil => rfl
  | cons delta deltas ih =>
    rw [map_cons, shown, indexedFrom_cons, map_cons, applies, length_cons, range'_succ, map_cons]
    exact congrArg _ (ih (n + 1))

variable {attempt : PublicationAttempt}

theorem writtenRecords_completed (h : attempt.Completed) :
    attempt.writtenRecords = attempt.records := by
  apply take_of_length_le
  rw [records, length_append, length_cons, length_map, length_singleton]
  exact h

theorem writtenRecords_cut (h : attempt.Cut) : attempt.writtenRecords =
      .begin attempt.boundary :: (attempt.deltas.take (attempt.written - 1)).map .apply := by
  obtain ⟨hpos, hcut⟩ := h
  rw [Completed] at hcut
  obtain ⟨k, hk⟩ : ∃ k, attempt.written = k + 1 := ⟨attempt.written - 1, by omega⟩
  have hle : k ≤ (attempt.deltas.map CatalogMutationRecord.apply).length := by
    rw [length_map]
    omega
  rw [writtenRecords, records, hk, cons_append, take_succ_cons,
    take_append_of_le_length hle, Nat.add_sub_cancel, map_take]

theorem writtenRecords_none (h : attempt.written = 0) : attempt.writtenRecords = [] := by
  rw [writtenRecords, h, take_zero]

theorem log_none (h : attempt.written = 0) : attempt.log = [] := by
  rw [log, writtenRecords_none h]
  rfl

theorem log_cut (h : attempt.Cut) : attempt.log =
      attempt.observed .catalogChangeBegin 0 :: attempt.applies 1 (attempt.written - 1) := by
  have hlength : (attempt.deltas.take (attempt.written - 1)).length = attempt.written - 1 := by
    have hcut := h.2
    rw [Completed] at hcut
    rw [length_take]
    omega
  have happlies := shown_applies attempt 1 (attempt.deltas.take (attempt.written - 1))
  rw [hlength] at happlies
  rw [log, writtenRecords_cut h, ← happlies]
  rfl

theorem log_completed (h : attempt.Completed) :
    attempt.log = attempt.observed .catalogChangeBegin 0 ::
      (attempt.applies 1 attempt.deltas.length ++
        [attempt.observed .catalogChangeCommit (attempt.deltas.length + 1)]) := by
  rw [log, writtenRecords_completed h, records, ← shown_applies, shown, cons_append,
    indexedFrom_cons, indexedFrom_append, map_cons,
    map_append, length_map, Nat.zero_add, Nat.add_comm 1]
  rfl

theorem log_written (h : attempt.written ≠ 0) :
    ∃ rest, attempt.log = attempt.observed .catalogChangeBegin 0 :: rest := by
  by_cases hcompleted : attempt.Completed
  · exact ⟨_, log_completed hcompleted⟩
  · exact ⟨_, log_cut ⟨Nat.pos_of_ne_zero h, hcompleted⟩⟩

section Read

open CatalogPublicationReplayState

/-- The decoder gives the apply records of a log what `decoded` says. -/
def Decodes (decode : CatalogWalObservedRecord → Result κ) (decoded : CatalogWalObservedRecord → κ)
    (log : List CatalogWalObservedRecord) : Prop :=
  ∀ record ∈ log, record.kind = .catalogChangeApply → decode record = .ok (decoded record)

theorem decodes_append {decode : CatalogWalObservedRecord → Result κ}
    {decoded : CatalogWalObservedRecord → κ} {xs ys : List CatalogWalObservedRecord} :
    Decodes decode decoded (xs ++ ys) ↔ Decodes decode decoded xs ∧ Decodes decode decoded ys :=
  forall_mem_append

variable {decode : CatalogWalObservedRecord → Result κ} {decoded : CatalogWalObservedRecord → κ}
  {state : CatalogPublicationReplayState κ} {attempt : PublicationAttempt}
  {rest : List CatalogWalObservedRecord}

def opened (attempt : PublicationAttempt) (records : List (CatalogWalPublicationRecord κ)) :
    PendingCatalogPublication κ :=
  ⟨attempt.transactionId, attempt.lsn 0, attempt.payload 0, records⟩

variable {records : List (CatalogWalPublicationRecord κ)}

theorem reads_begin : Reads decode [attempt.observed .catalogChangeBegin 0] none
    (some (attempt.opened [])) [] := by
  intro state rest hpending hordered
  have horder : state.validateLsnOrder (attempt.lsn 0) = .ok _ := hordered.validateLsnOrder
  refine ⟨{ state.countRecord with
    lastLsn := some (attempt.lsn 0), pending := some (attempt.opened []) }, ?_, rfl,
    (append_nil _).symm, hordered.cons rfl⟩
  simp [observeRecord, horder, observed, CatalogPublicationReplayState.observeBegin, countRecord,
    hpending, catalogRecordTransactionId, opened]

theorem reads_apply {n : Nat} (hdecode : decode (attempt.observed .catalogChangeApply n) =
      .ok (decoded (attempt.observed .catalogChangeApply n))) :
    Reads decode [attempt.observed .catalogChangeApply n] (some (attempt.opened records))
      (some (attempt.opened (records ++ [attempt.applyRecord decoded n]))) [] := by
  intro state rest hpending hordered
  have horder : state.validateLsnOrder (attempt.lsn n) = .ok _ := hordered.validateLsnOrder
  refine ⟨{ state.countRecord with
    lastLsn := some (attempt.lsn n)
    pending := some (attempt.opened (records ++ [attempt.applyRecord decoded n])) }, ?_, rfl,
    (append_nil _).symm, hordered.cons rfl⟩
  rw [observed] at hdecode
  simp [observeRecord, horder, observed, CatalogPublicationReplayState.observeApply, countRecord,
    hpending, catalogRecordTransactionId, opened, hdecode, applyRecord]

theorem reads_commit {n : Nat} (happlied : records ≠ []) :
    Reads decode [attempt.observed .catalogChangeCommit n] (some (attempt.opened records)) none
      [⟨attempt.transactionId, attempt.lsn 0, attempt.lsn n, attempt.payload 0, records,
        attempt.payload n⟩] := by
  intro state rest hpending hordered
  have horder : state.validateLsnOrder (attempt.lsn n) = .ok _ := hordered.validateLsnOrder
  refine ⟨{ state.countRecord with
    lastLsn := some (attempt.lsn n)
    pending := none
    report := { state.countRecord.report with publications := state.report.publications ++ [_] } },
    ?_, rfl, rfl, hordered.cons rfl⟩
  simp [observeRecord, horder, observed, CatalogPublicationReplayState.observeCommit, countRecord,
    hpending, catalogRecordTransactionId, opened, happlied, failIf]

theorem reads_applies (n k : Nat) (hdecode : Decodes decode decoded (attempt.applies n k)) :
    Reads decode (attempt.applies n k) (some (attempt.opened records)) (some (attempt.opened
      (records ++ (List.range' n k).map (attempt.applyRecord decoded)))) [] := by
  induction k generalizing n records with
  | zero =>
    rw [range'_zero, map_nil, append_nil]
    exact reads_nil
  | succ k ih =>
    have hcons : attempt.applies n (k + 1) =
        [attempt.observed .catalogChangeApply n] ++ attempt.applies (n + 1) k := by
      rw [applies, range'_succ, map_cons, applies, singleton_append]
    rw [hcons, decodes_append] at hdecode
    have hrest : Reads decode (attempt.applies (n + 1) k)
        (some (attempt.opened (records ++ [attempt.applyRecord decoded n]))) _ _ :=
      ih (n + 1) hdecode.2
    rw [hcons, range'_succ, map_cons]
    rw [append_assoc, singleton_append] at hrest
    exact (reads_apply (hdecode.1 _ mem_cons_self rfl)).append hrest

theorem reads_opening (k : Nat) (hdecode : Decodes decode decoded (attempt.applies 1 k)) :
    Reads decode (attempt.observed .catalogChangeBegin 0 :: attempt.applies 1 k) none
      (some (attempt.opened ((List.range' 1 k).map (attempt.applyRecord decoded)))) [] :=
  reads_begin.append (reads_applies 1 k hdecode)

theorem reads_cut (hcut : attempt.Cut) (hdecode : Decodes decode decoded attempt.log) :
    ∃ pending, Reads decode attempt.log none (some pending) [] := by
  rw [log_cut hcut] at hdecode ⊢
  exact ⟨_, reads_opening _ (forall_mem_cons.mp hdecode).2⟩

theorem reads_completed (hcompleted : attempt.Completed)
    (hdecode : Decodes decode decoded attempt.log) :
    Reads decode attempt.log none none [attempt.publication decoded] := by
  rw [log_completed hcompleted] at hdecode ⊢
  have happlied : (List.range' 1 attempt.deltas.length).map (attempt.applyRecord decoded) ≠ [] := by
    simpa using attempt.nonempty
  rw [← cons_append]
  exact (reads_opening _ (decodes_append.mp (forall_mem_cons.mp hdecode).2).1).append
    (reads_commit happlied)

end Read

/-! ### A history, read -/

section

variable (history : List PublicationAttempt)

def historyLog : List CatalogWalObservedRecord :=
  history.flatMap log

def historyRecords : List CatalogMutationRecord :=
  history.flatMap writtenRecords

def OnlyLastCut : Prop :=
  history.Pairwise fun attempt later => attempt.Cut → later.written = 0

end

theorem cases_written (attempt : PublicationAttempt) :
    attempt.written = 0 ∨ attempt.Cut ∨ attempt.Completed := by
  by_cases hnone : attempt.written = 0
  · exact .inl hnone
  · by_cases hcompleted : attempt.Completed
    · exact .inr (.inr hcompleted)
    · exact .inr (.inl ⟨Nat.pos_of_ne_zero hnone, hcompleted⟩)

theorem not_completed_of_none (h : attempt.written = 0) : ¬ attempt.Completed := by
  rw [Completed]
  omega

theorem historyLog_cons (attempt : PublicationAttempt) (history : List PublicationAttempt) :
    historyLog (attempt :: history) = attempt.log ++ historyLog history := flatMap_cons

section History

open CatalogPublicationReplayState

variable {decode : CatalogWalObservedRecord → Result κ} {decoded : CatalogWalObservedRecord → κ}
  {state state' : CatalogPublicationReplayState κ} {history : List PublicationAttempt}

theorem written_of_read_open {pending : PendingCatalogPublication κ}
    (hpending : state.pending = some pending)
    (h : (historyLog history).foldlM (observeRecord decode) state = .ok state') :
    ∀ attempt ∈ history, attempt.written = 0 := by
  induction history with
  | nil => exact forall_mem_nil _
  | cons attempt history ih =>
    have hnone : attempt.written = 0 := by
      by_contra hwritten
      obtain ⟨rest, hlog⟩ := log_written hwritten
      rw [historyLog_cons, hlog, cons_append, foldlM_cons, bind_eq_ok] at h
      obtain ⟨next, hbegin, -⟩ := h
      exact observeRecord_begin_open rfl hpending hbegin
    rw [historyLog_cons, log_none hnone, nil_append] at h
    exact forall_mem_cons.mpr ⟨hnone, ih h⟩

/-- Only the last publication that left records may be cut: the log is read, and the completed
publications are found. -/
theorem reads_history (hcut : OnlyLastCut history)
    (hdecode : Decodes decode decoded (historyLog history)) :
    ∃ after, Reads decode (historyLog history) none after
      ((history.filter fun attempt => attempt.Completed).map (publication decoded)) := by
  induction history with
  | nil => exact ⟨none, reads_nil⟩
  | cons attempt history ih =>
    obtain ⟨hlater, hcut'⟩ := pairwise_cons.mp hcut
    rw [historyLog_cons, decodes_append] at hdecode
    obtain ⟨after, hrest⟩ := ih hcut' hdecode.2
    rw [historyLog_cons]
    rcases attempt.cases_written with hnone | hiscut | hcompleted
    · rw [log_none hnone, nil_append, filter_cons_of_neg (by simp [not_completed_of_none hnone])]
      exact ⟨after, hrest⟩
    · have hnothing : ∀ later ∈ history, later.written = 0 := fun later hmem =>
        hlater later hmem hiscut
      have hnone : (history.filter fun later => decide later.Completed) = [] := by
        rw [filter_eq_nil_iff]
        intro later hmem
        simp [not_completed_of_none (hnothing later hmem)]
      obtain ⟨pending, hread⟩ := reads_cut hiscut hdecode.1
      refine ⟨some pending, ?_⟩
      rw [historyLog, flatMap_eq_nil_iff.mpr fun later hmem => log_none (hnothing later hmem), append_nil, filter_cons_of_neg (by simp [hiscut.2]), hnone]
      exact hread
    · rw [filter_cons_of_pos (by simp [hcompleted])]
      exact ⟨after, (reads_completed hcompleted hdecode.1).append hrest⟩

theorem onlyLastCut_of_read (hpending : state.pending = none)
    (hordered : Ordered state (historyLog history))
    (hdecode : Decodes decode decoded (historyLog history))
    (h : (historyLog history).foldlM (observeRecord decode) state = .ok state') :
    OnlyLastCut history := by
  induction history generalizing state with
  | nil => exact List.Pairwise.nil
  | cons attempt history ih =>
    rw [historyLog_cons] at hordered hdecode h
    obtain ⟨hhead, htail⟩ := decodes_append.mp hdecode
    rw [OnlyLastCut, pairwise_cons]
    rcases attempt.cases_written with hnone | hiscut | hcompleted
    · rw [log_none hnone, nil_append] at hordered h
      exact ⟨fun _ _ hiscut => absurd hnone (Nat.ne_of_gt hiscut.1), ih hpending hordered htail h⟩
    · obtain ⟨pending, hreads⟩ := reads_cut hiscut hhead
      obtain ⟨next, hread, hopen, -, -⟩ := hreads state _ hpending hordered
      rw [foldlM_append, hread] at h
      have hlater := written_of_read_open hopen h
      exact ⟨fun later hmem _ => hlater later hmem,
        pairwise_of_forall_mem_list fun earlier _ later hmem _ => hlater later hmem⟩
    · obtain ⟨next, hread, hclosed, -, hrest⟩ :=
        reads_completed hcompleted hhead state _ hpending hordered
      rw [foldlM_append, hread] at h
      exact ⟨fun _ _ hiscut => absurd hcompleted hiscut.2, ih hclosed hrest htail h⟩

end History

section Both

variable {τ : Type} [CatalogRecoveryApplyTarget τ]

def batchId (attempt : PublicationAttempt) : DefinitionBatchId := attempt.boundary.batchId

def completedIds (history : List PublicationAttempt) : List DefinitionBatchId :=
  (history.filter fun attempt => attempt.Completed).map batchId

def cutIds (history : List PublicationAttempt) : List DefinitionBatchId :=
  (history.filter fun attempt => attempt.Cut).map batchId

theorem foldl_observe_attempt (state : MutationReplay τ) (n : Nat) (attempt : PublicationAttempt) :
    ((indexedFrom n attempt.writtenRecords).foldl observe
        state).incompleteIds = state.incompleteIds ++ cutIds [attempt] ∧
      ((indexedFrom n attempt.writtenRecords).foldl observe
        state).settledIds.Perm (completedIds [attempt] ++ state.settledIds) := by
  obtain ⟨hsuperseded, hsettled⟩ := ids_supersede state n
  rcases attempt.cases_written with hnone | hcut | hcompleted
  · have hnotCut : ¬ attempt.Cut := fun hcut => Nat.ne_of_gt hcut.1 hnone
    rw [writtenRecords_none hnone]
    simp [cutIds, completedIds, hnotCut, not_completed_of_none hnone, indexedFrom]
  · have hroom : (attempt.deltas.take (attempt.written - 1)).length ≤
        attempt.boundary.expectedApplyCount := by
      rw [length_take, ← attempt.counted]
      exact Nat.min_le_right _ _
    have hcutIds : cutIds [attempt] = [attempt.batchId] := by simp [cutIds, hcut]
    have hcompletedIds : completedIds [attempt] = [] := by simp [completedIds, hcut.2]
    rw [writtenRecords_cut hcut, foldl_observe_opening state n _ _ attempt.limited hroom, hcutIds,
      hcompletedIds, ← hsuperseded, ← hsettled]
    refine ⟨?_, List.Perm.refl _⟩
    simp [incompleteIds, batchId]
  · have hnotCut : ¬ attempt.Cut := fun hcut => hcut.2 hcompleted
    have hcutIds : cutIds [attempt] = [] := by simp [cutIds, hnotCut]
    have hcompletedIds : completedIds [attempt] = [attempt.batchId] := by
      simp [completedIds, hcompleted]
    have hrecords := checkRecords_of_dense attempt.dense attempt.nonempty
      attempt.counted (n + 1) n (n + (attempt.deltas.length + 1))
    rw [writtenRecords_completed hcompleted, records,
      foldl_observe_batch state n _ _ attempt.limited
        (Nat.le_of_eq attempt.counted), hcutIds, hcompletedIds, append_nil, ← hsuperseded,
      ← hsettled]
    exact settles_of_checkRecords (state.supersede n) hrecords

theorem foldl_observe_history (state : MutationReplay τ) (n : Nat)
    (history : List PublicationAttempt) : ((indexedFrom n (historyRecords history)).foldl observe
        state).incompleteIds = state.incompleteIds ++ cutIds history ∧
      ((indexedFrom n (historyRecords history)).foldl observe
        state).settledIds.Perm (completedIds history ++ state.settledIds) := by
  induction history generalizing state n with
  | nil => exact ⟨(append_nil _).symm, List.Perm.refl _⟩
  | cons attempt history ih =>
    obtain ⟨hincomplete, hsettled⟩ := foldl_observe_attempt state n attempt
    obtain ⟨hincompletes, hsettles⟩ := ih
      ((indexedFrom n attempt.writtenRecords).foldl observe state)
      (n + attempt.writtenRecords.length)
    have hcut : cutIds (attempt :: history) = cutIds [attempt] ++ cutIds history := by
      simp [cutIds, ← map_append, ← filter_append]
    have hcompleted : completedIds (attempt :: history) =
        completedIds [attempt] ++ completedIds history := by
      simp [completedIds, ← map_append, ← filter_append]
    rw [historyRecords, flatMap_cons, indexedFrom_append, foldl_append,
      hcut, hcompleted, ← append_assoc, ← hincomplete]
    refine ⟨hincompletes, (hsettles.trans (hsettled.append_left _)).trans ?_⟩
    rw [← append_assoc]
    exact List.perm_append_comm.append_right _

/-- The log of the history is read, the publications found are the completed ones, and the
mutation replay settles the same ones and reports the others as incomplete. -/
def ReadsCompleted (target : τ) (totalRecords : Nat)
    (decode : CatalogWalObservedRecord → Result κ) (decoded : CatalogWalObservedRecord → κ)
    (history : List PublicationAttempt) : Prop :=
  let replayed := replayCatalogMutationRecords target (historyRecords history)
  (∃ report, replayCatalogPublicationsFromObservedWal totalRecords (historyLog history) decode =
      .ok report ∧
    report.publications =
      (history.filter fun attempt => attempt.Completed).map (publication decoded)) ∧
    replayed.settledIds.Perm (completedIds history) ∧ replayed.incompleteIds = cutIds history

theorem replayed_of_history (target : τ) (history : List PublicationAttempt) :
    (replayCatalogMutationRecords target (historyRecords history)).settledIds.Perm
        (completedIds history) ∧
      (replayCatalogMutationRecords target (historyRecords history)).incompleteIds =
        cutIds history := by
  obtain ⟨hincomplete, hsettled⟩ :=
    foldl_observe_history (start target []) 0 history
  have hstart : (start target []).settledIds = [] := rfl
  rw [hstart, append_nil] at hsettled
  rw [replayCatalogMutationRecords, replayIndexedRecords, (ids_close _).1, (ids_close _).2]
  exact ⟨hsettled, hincomplete⟩

/-- Both readers find the completed publications exactly when no record follows a publication
that was cut short. -/
theorem readsCompleted_iff (target : τ) (totalRecords : Nat)
    (decode : CatalogWalObservedRecord → Result κ) (decoded : CatalogWalObservedRecord → κ)
    (history : List PublicationAttempt)
    (hascending : (historyLog history).Pairwise fun a b => a.lsn < b.lsn)
    (hdecode : ∀ record ∈ historyLog history, record.kind = .catalogChangeApply →
      decode record = .ok (decoded record)) :
    ReadsCompleted target totalRecords decode decoded history ↔ OnlyLastCut history := by
  have hordered : CatalogPublicationReplayState.Ordered
      (.new totalRecords : CatalogPublicationReplayState κ) (historyLog history) := by
    refine ⟨?_, hascending⟩
    intro previous hnone
    cases hnone
  constructor
  · rintro ⟨⟨report, hreport, -⟩, -⟩
    rw [replayCatalogPublicationsFromObservedWal, bind_eq_ok] at hreport
    obtain ⟨state, hread, -⟩ := hreport
    exact onlyLastCut_of_read rfl hordered hdecode hread
  · intro hcut
    obtain ⟨after, hreads⟩ := reads_history hcut hdecode
    obtain ⟨state, hread, -, hfound, -⟩ := hreads _ [] rfl (by rwa [append_nil])
    have hpublications : state.intoReport.publications = state.report.publications := by
      rw [CatalogPublicationReplayState.intoReport]
      split <;> rfl
    refine ⟨⟨state.intoReport, ?_, hpublications.trans hfound⟩, replayed_of_history target history⟩
    rw [replayCatalogPublicationsFromObservedWal, hread]
    rfl

end Both

/-! ### The product table, published twice -/

def ofProduct (firstLsn written : Nat) : PublicationAttempt :=
  { transactionId := 1
    boundary := (tablePlan 1 productName 7).commitBoundary
    deltas := (tablePlan 1 productName 7).deltas
    lsn := fun i => UInt64.ofNat (firstLsn + i)
    payload := fun _ => []
    written
    nonempty := cons_ne_nil _ _
    dense := ⟨rfl, trivial⟩
    counted := rfl
    limited := by decide }

/-- A completed publication, and one that a crash cuts after its begin record. -/
theorem readsCompleted_iff_product :
    ReadsCompleted (CatalogSnapshot.empty 10 20 7 : CatalogSnapshot Unit) 4 (fun _ => .ok ())
        (fun _ => ()) [ofProduct 1 3, ofProduct 4 1] ∧
      completedIds [ofProduct 1 3, ofProduct 4 1] = [1] := by
  have hascending : (historyLog [ofProduct 1 3, ofProduct 4 1]).Pairwise
      fun a b => a.lsn < b.lsn := by
    decide
  have hcut : OnlyLastCut [ofProduct 1 3, ofProduct 4 1] := by
    refine pairwise_cons.mpr ⟨?_, pairwise_singleton _ _⟩
    intro later _ hiscut
    exact absurd hiscut (by decide)
  exact ⟨(readsCompleted_iff _ 4 (fun _ => .ok ()) (fun _ => ()) _ hascending
    fun _ _ _ => rfl).mpr hcut, rfl⟩

def cutFirst : List PublicationAttempt := [ofProduct 1 1, ofProduct 2 3]

/-- The crash comes first: the begin record of the second publication stops the reader. -/
theorem cut_publication_blocks_reader :
    (historyLog cutFirst).Pairwise (fun a b => a.lsn < b.lsn) ∧ completedIds cutFirst = [1] ∧
      succeeds (replayCatalogPublicationsFromObservedWal 4 (historyLog cutFirst)
        fun _ => .ok ()) = false ∧
      ¬ ReadsCompleted (CatalogSnapshot.empty 10 20 7 : CatalogSnapshot Unit) 4 (fun _ => .ok ())
        (fun _ => ()) cutFirst := by
  have hfails : succeeds (replayCatalogPublicationsFromObservedWal 4 (historyLog cutFirst)
      fun _ => .ok ()) = false := by
    decide
  refine ⟨by decide, by decide, hfails, ?_⟩
  rintro ⟨⟨report, hreport, -⟩, -⟩
  rw [hreport] at hfails
  cases hfails

end PublicationAttempt

end Andromeda.Catalog
