import Andromeda.Catalog.Planning
import Andromeda.Catalog.PayloadRoundTrip

/-!
# Durable application of a definition batch

The system store plans a batch, appends its records to the WAL of its caller, has them flushed
and publishes the plan. The WAL is behind two callbacks: what they answer is arbitrary, and the
log holds the records whose append was answered with an LSN.
-/

namespace Andromeda.Catalog

open Fallible CatalogMutationCommitEvidence Effect List CatalogMutationDurability CatalogMutationPlan

structure CatalogStoreWalAppend where
  kind : CatalogMutationRecordKind
  lsn : Lsn

open CatalogStoreWalAppend

inductive CatalogStoreWalAppendSequenceError where
  | missingPlannedRecord
  | missingCommitRecord
  | kindMismatch (index : Nat)
  | zeroLsn (index : Nat)
  | nonIncreasingLsn (index : Nat)

def validateAppendsFrom (index : Nat) (previousLsn : Option Lsn) :
    List (CatalogStoreWalAppend × CatalogMutationRecordKind) →
      Except CatalogStoreWalAppendSequenceError Unit
  | [] => .ok ()
  | (append, expectedKind) :: appends => do
    failIf (append.kind ≠ expectedKind) (.kindMismatch index)
    failIf (append.lsn = 0) (.zeroLsn index)
    failIf (previousLsn.any (fun previous => append.lsn ≤ previous) = true)
      (.nonIncreasingLsn index)
    validateAppendsFrom (index + 1) (some append.lsn) appends

section

variable (appendedRecords : List CatalogStoreWalAppend)
  (expectedKinds : List CatalogMutationRecordKind)

def validateCatalogStoreWalAppendSequence : Except CatalogStoreWalAppendSequenceError Unit := do
  failIf (appendedRecords.length ≠ expectedKinds.length) .missingPlannedRecord
  failIf (appendedRecords.getLast?.map kind ≠ some .catalogChangeCommit) .missingCommitRecord
  validateAppendsFrom 0 none (appendedRecords.zip expectedKinds)

def appendSequenceMessage : CatalogStoreWalAppendSequenceError → String
  | .missingPlannedRecord =>
    "catalog WAL append sequence must include every planned mutation record"
  | .missingCommitRecord => "catalog WAL append sequence must end with the commit record"
  | .kindMismatch index =>
    "catalog WAL append kind at index " ++ toString index ++ " must match the mutation plan"
  | .zeroLsn index =>
    "catalog WAL append LSN at index " ++ toString index ++
      " must not be zero (LSN must not be zero)"
  | .nonIncreasingLsn index =>
    "catalog WAL append LSN at index " ++ toString index ++ " must be strictly increasing"

def validateCatalogWalAppendSequence : Result Unit :=
  (validateCatalogStoreWalAppendSequence appendedRecords expectedKinds).mapError fun error =>
    catalogError (appendSequenceMessage error)

end

/-! ## The store and its callbacks -/

structure LogEntry where
  kind : CatalogMutationRecordKind
  payload : Bytes

structure CatalogSystemStore where
  snapshot : CatalogSnapshot CatalogPublicationReceipt
  log : List LogEntry

/-- What the callbacks of one call answer: the appends by their position, the flush by the LSN
it is asked for. -/
structure WalCallbacks where
  append : Nat → Result Lsn
  flushThrough : Lsn → Result Lsn

structure CatalogSystemDurableApplyReport where
  plan : DefinitionBatchPlan
  receipt : CatalogPublicationReceipt
  appendedRecords : List CatalogStoreWalAppend
  sourceHash : DefinitionBatchSourceHash
  dependencyGraphHash : DefinitionBatchDependencyGraphHash

namespace CatalogSystemStore

def callAppend (callbacks : WalCallbacks) (index : Nat) (entry : LogEntry) :
    Effect CatalogSystemStore Error Lsn := do
  let lsn ← lift (callbacks.append index)
  modify fun store => { store with log := store.log ++ [entry] }
  pure lsn

/-- The append loop of `apply_definition_batch_durably`. -/
def appendRecords (callbacks : WalCallbacks) (index : Nat) :
    List CatalogMutationRecord → Effect CatalogSystemStore Error (List CatalogStoreWalAppend)
  | [] => pure []
  | record :: records => do
    let payload ← lift (encodeCatalogDurablePayload record)
    let lsn ← callAppend callbacks index ⟨record.kind, payload⟩
    let appended ← appendRecords callbacks (index + 1) records
    pure (⟨record.kind, lsn⟩ :: appended)

def publishDurableMutationPlan (plan : CatalogMutationPlan)
    (evidence : CatalogMutationCommitEvidence) :
    Effect CatalogSystemStore Error CatalogPublicationReceipt :=
  zoom snapshot (fun snapshot store => { store with snapshot })
    (CatalogSnapshot.publishDurableMutationPlan plan evidence)

def publishAppended (batch : DefinitionBatch) (callbacks : WalCallbacks)
    (plan : DefinitionBatchPlan) (dependencyGraphHash : DefinitionBatchDependencyGraphHash)
    (appendedRecords : List CatalogStoreWalAppend) :
    Effect CatalogSystemStore Error CatalogSystemDurableApplyReport := do
  let records := plan.mutationPlan.records
  lift (validateCatalogWalAppendSequence appendedRecords (records.map CatalogMutationRecord.kind))
  let commitRecord ← lift (orError records.getLast?
    (catalogError "catalog mutation plan must emit a commit record"))
  let commitLsn ← lift (orError (appendedRecords.getLast?.map CatalogStoreWalAppend.lsn)
    (catalogError "catalog mutation plan must append at least one record"))
  let durableLsn ← lift (callbacks.flushThrough commitLsn)
  let evidence ← lift (fromDurableCommitRecord commitRecord
    records.length (.storageWal commitLsn durableLsn))
  let receipt ← publishDurableMutationPlan plan.mutationPlan evidence
  pure { plan, receipt, appendedRecords, sourceHash := batch.sourceHash, dependencyGraphHash }

def applyDefinitionBatchDurably (batch : DefinitionBatch) (callbacks : WalCallbacks) :
    Effect CatalogSystemStore Error CatalogSystemDurableApplyReport := do
  let store ← get
  let plan ← lift (store.snapshot.planDefinitionBatch batch)
  let dependencyGraphHash ← lift batch.dependencyGraphHash
  let appendedRecords ← appendRecords callbacks 0 plan.mutationPlan.records
  publishAppended batch callbacks plan dependencyGraphHash appendedRecords

/-! ## What the append loop does -/

def Encodes (record : CatalogMutationRecord) (entry : LogEntry) : Prop :=
  entry.kind = record.kind ∧ encodeCatalogDurablePayload record = .ok entry.payload

structure Answered (callbacks : WalCallbacks) (index : Nat) (records : List CatalogMutationRecord)
    (appended : List CatalogStoreWalAppend) : Prop where
  kinds : appended.map kind = records.map CatalogMutationRecord.kind
  lsns : ∀ i append, appended[i]? = some append → callbacks.append (index + i) = .ok append.lsn

def Stops (callbacks : WalCallbacks) (index : Nat) (records : List CatalogMutationRecord) : Prop :=
  (∃ record ∈ records, ∀ payload, encodeCatalogDurablePayload record ≠ .ok payload) ∨
    ∃ i < records.length, ∃ e, callbacks.append (index + i) = .error e

variable {index : Nat} {records : List CatalogMutationRecord} {callbacks : WalCallbacks}

theorem Stops.cons (h : Stops callbacks (index + 1) records) (record : CatalogMutationRecord) :
    Stops callbacks index (record :: records) := by
  rcases h with ⟨failing, hmem, hfails⟩ | ⟨i, hi, e, herror⟩
  · exact .inl ⟨failing, mem_cons_of_mem record hmem, hfails⟩
  · rw [Nat.add_right_comm] at herror
    exact .inr ⟨i + 1, Nat.succ_lt_succ hi, e, herror⟩

/-- A first part of the records is written, all of them exactly on success. -/
def Wrote (callbacks : WalCallbacks) (index : Nat) (records : List CatalogMutationRecord)
    (store : CatalogSystemStore) (result : Result (List CatalogStoreWalAppend))
    (store' : CatalogSystemStore) : Prop :=
  ∃ written entries, written <+: records ∧ List.Forall₂ Encodes written entries ∧
    store' = { store with log := store.log ++ entries } ∧
    ((∃ e, result = .error e ∧ written.length < records.length ∧ Stops callbacks index records) ∨
      ∃ appended, result = .ok appended ∧ written = records ∧
        Answered callbacks index records appended)

variable {store store' : CatalogSystemStore}

theorem appendRecords_wrote {result : Result (List CatalogStoreWalAppend)}
    (h : appendRecords callbacks index records store = (result, store')) :
    Wrote callbacks index records store result store' := by
  induction records generalizing index store store' result with
  | nil =>
    cases h
    refine ⟨[], [], prefix_rfl, .nil, ?_, .inr ⟨[], rfl, rfl, rfl, ?_⟩⟩
    · rw [append_nil]
    · intro i append hget
      cases hget
  | cons record records ih =>
    have hstop : ∀ e, result = .error e → store' = store →
        Stops callbacks index (record :: records) →
        Wrote callbacks index (record :: records) store result store' := by
      intro e hresult hstore hstops
      refine ⟨[], [], nil_prefix, .nil, ?_, .inl ⟨e, hresult, Nat.zero_lt_succ _, hstops⟩⟩
      rw [hstore, append_nil]
    rw [appendRecords] at h
    rcases lift_bind_cases h with ⟨e, hfails, hresult, hstore⟩ | ⟨payload, hpayload, h⟩
    · apply hstop e hresult hstore
      refine .inl ⟨record, mem_cons_self, fun payload hok => ?_⟩
      rw [hfails] at hok
      cases hok
    rcases bind_cases h with ⟨e, hfail, hresult⟩ | ⟨lsn, store₁, happend, h⟩
    · rw [callAppend] at hfail
      rcases lift_bind_cases hfail with ⟨e', herror, -, hstore⟩ | ⟨_, -, hrest⟩
      · exact hstop e hresult hstore (.inr ⟨0, Nat.zero_lt_succ _, e', herror⟩)
      · cases hrest
    have hlsn : callbacks.append index = .ok lsn ∧
        store₁ = { store with log := store.log ++ [⟨record.kind, payload⟩] } := by
      rw [callAppend] at happend
      obtain ⟨lsn', hanswer, hrest⟩ := lift_bind_ok happend
      · cases hrest
        exact ⟨hanswer, rfl⟩
    obtain ⟨hanswer, rfl⟩ := hlsn
    rcases bind_cases h with ⟨e, hfail, hresult⟩ | ⟨appended, store₂, hrest, h⟩
    · obtain ⟨written, entries, hpre, hencodes, hstore, ⟨_, -, hshort, hstops⟩ | ⟨_, hok, -⟩⟩ :=
        ih hfail
      · refine ⟨record :: written, ⟨record.kind, payload⟩ :: entries,
          (prefix_cons_inj record).mpr hpre, .cons ⟨rfl, hpayload⟩ hencodes, ?_,
          .inl ⟨e, hresult, Nat.succ_lt_succ hshort, hstops.cons record⟩⟩
        rw [hstore, append_assoc, singleton_append]
      · cases hok
    · obtain ⟨written, entries, hpre, hencodes, hstore, ⟨_, herror, -⟩ | ⟨appended', hok, hall,
        hanswered⟩⟩ := ih hrest
      · cases herror
      · cases hok
        cases h
        subst hall
        refine ⟨record :: written, ⟨record.kind, payload⟩ :: entries, prefix_rfl,
          .cons ⟨rfl, hpayload⟩ hencodes, ?_, .inr ⟨_, rfl, rfl, ?_, ?_⟩⟩
        · rw [hstore, append_assoc, singleton_append]
        · rw [map_cons, map_cons, hanswered.kinds]
        · intro i append hget
          cases i with
          | zero =>
            cases hget
            exact hanswer
          | succ i =>
            have hlater := hanswered.lsns i append hget
            rw [Nat.add_right_comm] at hlater
            exact hlater

/-! ## Answers that let a batch through -/

/-- The first `count` appends are answered with ascending LSNs, and the flush reaches the last
of them. -/
def AnswersReach (callbacks : WalCallbacks) (count : Nat) : Prop :=
  ∃ lsn : Nat → Lsn, (∀ i < count, callbacks.append i = .ok (lsn i) ∧ lsn i ≠ 0) ∧
    (∀ i j, i < j → j < count → lsn i < lsn j) ∧
    ∃ durable, callbacks.flushThrough (lsn (count - 1)) = .ok durable ∧ lsn (count - 1) ≤ durable

theorem validateAppendsFrom_eq_ok {previousLsn : Option Lsn}
    {appends : List CatalogStoreWalAppend} :
    validateAppendsFrom index previousLsn (appends.zip (appends.map kind)) = .ok () ↔
      (∀ append ∈ appends, append.lsn ≠ 0) ∧ appends.Pairwise (fun a b => a.lsn < b.lsn) ∧
        ∀ previous, previousLsn = some previous → ∀ append ∈ appends, previous < append.lsn := by
  induction appends generalizing index previousLsn with
  | nil => simp [validateAppendsFrom]
  | cons append appends ih =>
    have habove : (¬ previousLsn.any (fun previous => append.lsn ≤ previous) = true) ↔
        ∀ previous, previousLsn = some previous → previous < append.lsn := by
      cases previousLsn <;> simp
    simp only [map_cons, zip_cons_cons, validateAppendsFrom, ok_iff,
      true_and, habove, ih, forall_mem_cons,
      pairwise_cons, Option.some.injEq, forall_eq']
    constructor
    · rintro ⟨hzero, hprevious, hnonzero, hascend, hrest⟩
      refine ⟨⟨hzero, hnonzero⟩, ⟨hrest, hascend⟩, ?_⟩
      intro previous heq
      have hfirst := hprevious previous heq
      exact ⟨hfirst, fun append' hmem => UInt64.lt_trans hfirst (hrest append' hmem)⟩
    · rintro ⟨⟨hzero, hnonzero⟩, ⟨hrest, hascend⟩, hprevious⟩
      exact ⟨hzero, fun previous heq => (hprevious previous heq).1, hnonzero, hascend, hrest⟩

section Reach

variable {callbacks : WalCallbacks} {plan : CatalogMutationPlan}
  {appended : List CatalogStoreWalAppend}

theorem Answered.length_eq (h : Answered callbacks index records appended) :
    appended.length = records.length := by
  have hlength := congrArg List.length h.kinds
  rwa [length_map, length_map] at hlength

theorem records_getLast? (plan : CatalogMutationPlan) :
    plan.records.getLast? = some (.commit plan.commitBoundary) := by
  rw [records, List.getLast?_concat]

def lsnAt (appended : List CatalogStoreWalAppend) (i : Nat) : Lsn :=
  (appended[i]?.map CatalogStoreWalAppend.lsn).getD 0

theorem lsnAt_eq {i : Nat} (hi : i < appended.length) : lsnAt appended i = appended[i].lsn := by
  rw [lsnAt, List.getElem?_eq_getElem hi]
  rfl

theorem Answered.append_eq (h : Answered callbacks 0 records appended) {i : Nat}
    (hi : i < records.length) : callbacks.append i = .ok (lsnAt appended i) := by
  rw [← h.length_eq] at hi
  have hanswer := h.lsns i _ (List.getElem?_eq_getElem hi)
  rwa [Nat.zero_add, ← lsnAt_eq hi] at hanswer

theorem validateSequence_eq_ok (h : Answered callbacks 0 plan.records appended) :
    validateCatalogWalAppendSequence appended (plan.records.map CatalogMutationRecord.kind) =
        .ok () ↔ (∀ i < plan.recordCount, lsnAt appended i ≠ 0) ∧
      ∀ i j, i < j → j < plan.recordCount → lsnAt appended i < lsnAt appended j := by
  have hlength : appended.length = plan.recordCount := h.length_eq.trans plan.length_records
  have hlast : appended.getLast?.map kind = some .catalogChangeCommit := by
    rw [← List.getLast?_map, h.kinds, List.getLast?_map, records_getLast?]
    rfl
  rw [validateCatalogWalAppendSequence, mapError_eq_ok, ← h.kinds]
  simp only [validateCatalogStoreWalAppendSequence, ok_iff, validateAppendsFrom_eq_ok, length_map,
    hlast, true_and, reduceCtorEq, false_implies, implies_true, and_true, pairwise_iff_getElem,
    forall_mem_iff_getElem, ← hlength]
  constructor
  · rintro ⟨hnonzero, hascend⟩
    refine ⟨fun i hi => lsnAt_eq hi ▸ hnonzero i hi, fun i j hij hj => ?_⟩
    rw [lsnAt_eq (Nat.lt_trans hij hj), lsnAt_eq hj]
    exact hascend i j _ hj hij
  · rintro ⟨hnonzero, hascend⟩
    refine ⟨fun i hi => lsnAt_eq hi ▸ hnonzero i hi, fun i j hi hj hij => ?_⟩
    rw [← lsnAt_eq hi, ← lsnAt_eq hj]
    exact hascend i j hij hj

theorem reach_iff (h : Answered callbacks 0 plan.records appended) :
    AnswersReach callbacks plan.recordCount ↔
      validateCatalogWalAppendSequence appended (plan.records.map CatalogMutationRecord.kind) =
        .ok () ∧ ∃ commitLsn durableLsn,
      appended.getLast?.map CatalogStoreWalAppend.lsn = some commitLsn ∧
      callbacks.flushThrough commitLsn = .ok durableLsn ∧ commitLsn ≠ 0 ∧
      commitLsn ≤ durableLsn := by
  have hlength : appended.length = plan.recordCount := h.length_eq.trans plan.length_records
  have hpos : plan.recordCount - 1 < plan.recordCount := Nat.sub_one_lt (Nat.succ_ne_zero _)
  have hanswer : ∀ i < plan.recordCount, callbacks.append i = .ok (lsnAt appended i) :=
    fun i hi => h.append_eq (plan.length_records ▸ hi)
  have hlast : appended.getLast?.map CatalogStoreWalAppend.lsn =
      some (lsnAt appended (plan.recordCount - 1)) := by
    rw [← hlength] at hpos ⊢
    rw [lsnAt_eq hpos, List.getLast?_eq_getElem?, List.getElem?_eq_getElem hpos, Option.map_some]
  rw [validateSequence_eq_ok h]
  constructor
  · rintro ⟨lsn, hanswers, hascend, durable, hflush, hdurable⟩
    have hsame : ∀ i < plan.recordCount, lsnAt appended i = lsn i := fun i hi =>
      Except.ok.inj ((hanswer i hi).symm.trans (hanswers i hi).1)
    refine ⟨⟨fun i hi => hsame i hi ▸ (hanswers i hi).2, fun i j hij hj => ?_⟩, _, durable, hlast, ?_⟩
    · rw [hsame i (Nat.lt_trans hij hj), hsame j hj]
      exact hascend i j hij hj
    · rw [hsame _ hpos]
      exact ⟨hflush, (hanswers _ hpos).2, hdurable⟩
  · rintro ⟨⟨hnonzero, hascend⟩, _, durable, hcommit, hflush, -, hdurable⟩
    rw [hlast] at hcommit
    cases hcommit
    exact ⟨_, fun i hi => ⟨hanswer i hi, hnonzero i hi⟩, hascend, durable, hflush, hdurable⟩

variable {store : CatalogSystemStore} {batch : DefinitionBatch} {batchPlan : DefinitionBatchPlan}
  {dependencyGraphHash : DefinitionBatchDependencyGraphHash}

theorem publishAppended_of_reach (hplan : store.snapshot.planDefinitionBatch batch = .ok batchPlan)
    (h : Answered callbacks 0 batchPlan.mutationPlan.records appended)
    (hreach : AnswersReach callbacks batchPlan.mutationPlan.recordCount) :
    ∃ report store', publishAppended batch callbacks batchPlan dependencyGraphHash appended store =
      (.ok report, store') := by
  obtain ⟨hsequence, commitLsn, durableLsn, hlast, hflush, hzero, hdurable⟩ :=
    (reach_iff h).mp hreach
  have hvalid : (storageWal commitLsn durableLsn).validate = .ok () := by
    simp only [validate, ok_iff]
    exact ⟨hzero, UInt64.not_lt.mpr hdurable⟩
  obtain ⟨receipt, hpublish⟩ :=
    CatalogSnapshot.publishDurableMutationPlan_of_planned hplan hvalid
  have hzoom : publishDurableMutationPlan batchPlan.mutationPlan
      (batchPlan.mutationPlan.commitEvidence (.storageWal commitLsn durableLsn)) store =
      (.ok receipt,
        { store with snapshot := store.snapshot.applied batchPlan.mutationPlan (some receipt) }) :=
    zoom_eq_iff.mpr ⟨_, hpublish, rfl⟩
  rw [publishAppended, hsequence, lift_ok_bind, records_getLast?, orError_some,
    lift_ok_bind, hlast, orError_some, lift_ok_bind, hflush, lift_ok_bind,
    fromDurableCommitRecord, lift_ok_bind,
    length_records]
  exact ⟨_, _, bind_of_ok hzoom⟩

theorem durable_of_publish {evidence : CatalogMutationCommitEvidence}
    {s t : CatalogSnapshot CatalogPublicationReceipt} {receipt : CatalogPublicationReceipt}
    (h : CatalogSnapshot.publishDurableMutationPlan plan evidence s = (.ok receipt, t)) :
    evidence.durability.validate = .ok () := by
  rw [CatalogSnapshot.publishDurableMutationPlan] at h
  obtain ⟨_, -, h⟩ := lift_bind_ok h
  obtain ⟨_, hreceipt, -⟩ := lift_bind_ok h
  simp only [CatalogPublicationReceipt.fromPlanAndEvidence, validateForPlan, ok_iff] at hreceipt
  exact hreceipt.1.2.1

theorem publishAppended_cases {store' : CatalogSystemStore}
    (hanswered : Answered callbacks 0 batchPlan.mutationPlan.records appended)
    {result : Result CatalogSystemDurableApplyReport}
    (h : publishAppended batch callbacks batchPlan dependencyGraphHash appended store =
      (result, store')) : (∃ e, result = .error e ∧ store' = store) ∨
      ∃ report receipt, result = .ok report ∧ report.plan = batchPlan ∧
        AnswersReach callbacks batchPlan.mutationPlan.recordCount ∧
        store' = { store with
          snapshot := store.snapshot.applied batchPlan.mutationPlan (some receipt) } := by
  rw [publishAppended] at h
  refine refused_or h fun _ hsequence h => ?_
  rw [records_getLast?, orError_some, lift_ok_bind] at h
  refine refused_or h fun commitLsn hlast h => ?_
  refine refused_or h fun durableLsn hflush h => ?_
  rw [fromDurableCommitRecord, lift_ok_bind] at h
  rcases bind_cases h with ⟨e, hfail, hresult⟩ | ⟨receipt, store₁, hpublish, h⟩
  · obtain ⟨t, hinner, rfl⟩ := zoom_eq_iff.mp hfail
    rcases CatalogSnapshot.publishDurableMutationPlan_cases hinner with ⟨_, -, rfl⟩ | ⟨_, hok, -⟩
    · exact .inl ⟨e, hresult, rfl⟩
    · cases hok
  · obtain ⟨t, hinner, rfl⟩ := zoom_eq_iff.mp hpublish
    have hdurable := durable_of_publish hinner
    simp only [validate, ok_iff] at hdurable
    have hreach := (reach_iff hanswered).mpr ⟨hsequence, commitLsn, durableLsn,
      orError_eq_ok.mp hlast, hflush, hdurable.1, UInt64.not_lt.mp hdurable.2⟩
    rcases CatalogSnapshot.publishDurableMutationPlan_cases hinner with
      ⟨_, herror, -⟩ | ⟨receipt', -, -, rfl⟩
    · cases herror
    · cases h
      exact .inr ⟨_, receipt', rfl, rfl, hreach, rfl⟩

end Reach

/-! ## What a call does -/

/-- The outcomes of a call: the batch is not planned, its records are cut short, all of them
are written but not published, or the plan is published. -/
inductive CallOutcome (batch : DefinitionBatch) (callbacks : WalCallbacks)
    (store : CatalogSystemStore) :
    Result CatalogSystemDurableApplyReport → CatalogSystemStore → Prop where
  | rejected (e : Error)
      (hplan : ∀ batchPlan, store.snapshot.planDefinitionBatch batch ≠ .ok batchPlan) :
      CallOutcome batch callbacks store (.error e) store
  | cut {batchPlan : DefinitionBatchPlan} {written : List CatalogMutationRecord}
      {entries : List LogEntry} (e : Error)
      (hplan : store.snapshot.planDefinitionBatch batch = .ok batchPlan)
      (hwritten : written <+: batchPlan.mutationPlan.records)
      (hshort : written.length < batchPlan.mutationPlan.records.length)
      (hencodes : List.Forall₂ Encodes written entries)
      (hstops : Stops callbacks 0 batchPlan.mutationPlan.records) :
      CallOutcome batch callbacks store (.error e) { store with log := store.log ++ entries }
  | unpublished {batchPlan : DefinitionBatchPlan} {entries : List LogEntry} (e : Error)
      (hplan : store.snapshot.planDefinitionBatch batch = .ok batchPlan)
      (hencodes : List.Forall₂ Encodes batchPlan.mutationPlan.records entries)
      (hanswered : ∀ i < batchPlan.mutationPlan.recordCount, ∃ lsn, callbacks.append i = .ok lsn)
      (hreach : ¬ AnswersReach callbacks batchPlan.mutationPlan.recordCount) :
      CallOutcome batch callbacks store (.error e) { store with log := store.log ++ entries }
  | published {batchPlan : DefinitionBatchPlan} {entries : List LogEntry}
      {report : CatalogSystemDurableApplyReport} {receipt : CatalogPublicationReceipt}
      (hplan : store.snapshot.planDefinitionBatch batch = .ok batchPlan)
      (hencodes : List.Forall₂ Encodes batchPlan.mutationPlan.records entries)
      (hreport : report.plan = batchPlan)
      (hreach : AnswersReach callbacks batchPlan.mutationPlan.recordCount) :
      CallOutcome batch callbacks store (.ok report)
        ⟨store.snapshot.applied batchPlan.mutationPlan (some receipt), store.log ++ entries⟩

theorem applyDefinitionBatchDurably_outcome {batch : DefinitionBatch}
    {result : Result CatalogSystemDurableApplyReport}
    (h : applyDefinitionBatchDurably batch callbacks store = (result, store')) :
    CallOutcome batch callbacks store result store' := by
  rw [applyDefinitionBatchDurably, get_bind] at h
  rcases lift_bind_cases h with ⟨e, hfails, rfl, rfl⟩ | ⟨batchPlan, hplan, h⟩
  · apply CallOutcome.rejected e
    intro batchPlan hok
    rw [hfails] at hok
    cases hok
  have hgraph := (CatalogSnapshot.validatePlan_of_planDefinitionBatch hplan).1.dependencyGraphHash
  rw [hgraph, lift_ok_bind] at h
  rcases bind_cases h with ⟨e, hfail, rfl⟩ | ⟨appended, store₁, happend, h⟩
  · obtain ⟨written, entries, hpre, hencodes, rfl, ⟨_, -, hshort, hstops⟩ | ⟨_, hok, -⟩⟩ :=
      appendRecords_wrote hfail
    · exact .cut e hplan hpre hshort hencodes hstops
    · cases hok
  · obtain ⟨written, entries, hpre, hencodes, rfl, ⟨_, herror, -⟩ | ⟨_, hok, rfl, hanswered⟩⟩ :=
      appendRecords_wrote happend
    · cases herror
    cases hok
    rcases publishAppended_cases hanswered h with
      ⟨e, rfl, rfl⟩ | ⟨report, receipt, rfl, hreport, hreach, rfl⟩
    · apply CallOutcome.unpublished e hplan hencodes
      · intro i hi
        exact ⟨_, hanswered.append_eq (length_records _ ▸ hi)⟩
      · -- answers that reach would have led to the publication
        intro hreach
        have hplan' : ({ store with log := store.log ++ entries } :
            CatalogSystemStore).snapshot.planDefinitionBatch batch = .ok batchPlan := hplan
        obtain ⟨report, store₂, hok⟩ := publishAppended_of_reach hplan' hanswered hreach
        rw [h] at hok
        cases hok
    · exact .published hplan hencodes hreport hreach

end CatalogSystemStore

end Andromeda.Catalog
