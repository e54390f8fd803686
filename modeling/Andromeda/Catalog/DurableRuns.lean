import Andromeda.Catalog.Recovery
import Andromeda.Catalog.Visibility

/-!
# Runs of the durable store and their recovery

Any sequence of durable calls, each with its own answers of the WAL, next to the recovery of the
log it leaves behind.
-/

namespace Andromeda.Catalog

open Fallible CatalogSystemStore MutationReplay CatalogSnapshot List CatalogMutationPlan SnapshotCall

abbrev LiveSnapshot := CatalogSnapshot CatalogPublicationReceipt

/-! ## The records of a planned batch -/

section Records

variable {batch : DefinitionBatch} {batchPlan : DefinitionBatchPlan}
  {plan : CatalogMutationPlan} {written : List CatalogMutationRecord}

theorem indexFits_records (h : IsPlanOf batch batchPlan) :
    ∀ record ∈ batchPlan.mutationPlan.records, record.IndexFits := by
  intro record hmem
  simp only [records, mem_append, mem_cons, mem_map, not_mem_nil, or_false, or_assoc] at hmem
  rcases hmem with rfl | ⟨delta, hdelta, rfl⟩ | rfl
  · trivial
  · have hdense := denseFrom_of_validateDeltasFrom (shape_of_isPlanOf h).2
    have hindex := hdense.lt delta hdelta
    have hlimit : batchPlan.mutationPlan.deltas.length ≤ 1024 := h.length_deltas.2
    change delta.operationIndex < 2 ^ 64
    omega
  · trivial

theorem holds_of_encodes (h : IsPlanOf batch batchPlan)
    (hwritten : written <+: batchPlan.mutationPlan.records) {entries : List LogEntry}
    (hencodes : List.Forall₂ Encodes written entries) : Holds entries written :=
  ⟨hencodes, fun record hmem => indexFits_records h record (hwritten.subset hmem)⟩

theorem no_commit_of_short (hwritten : written <+: plan.records)
    (hshort : written.length < plan.records.length) :
    ∀ record ∈ written, ∀ boundary, record ≠ .commit boundary := by
  have hopening : written <+: .begin plan.commitBoundary :: plan.deltas.map .apply := by
    rw [records] at hwritten
    rcases prefix_concat_iff.mp hwritten with rfl | hopening
    · exact absurd hshort (Nat.lt_irrefl _)
    · exact hopening
  intro record hmem boundary heq
  subst heq
  rcases mem_cons.mp (hopening.subset hmem) with hbegin | happly
  · cases hbegin
  · obtain ⟨delta, -, hdelta⟩ := mem_map.mp happly
    cases hdelta

end Records

structure DurableCall where
  batch : DefinitionBatch
  callbacks : WalCallbacks

namespace DurableCall

def perform (call : DurableCall) :
    Effect CatalogSystemStore Error CatalogSystemDurableApplyReport :=
  applyDefinitionBatchDurably call.batch call.callbacks

def run : List DurableCall → CatalogSystemStore →
    List (Result CatalogSystemDurableApplyReport) × CatalogSystemStore
  | [], store => ([], store)
  | call :: calls, store =>
    let (result, next) := call.perform store
    let (results, final) := run calls next
    (result :: results, final)

def acknowledged (results : List (Result CatalogSystemDurableApplyReport)) :
    List CatalogMutationPlan :=
  results.filterMap fun result =>
    match result with
    | .ok report => some report.plan.mutationPlan
    | .error _ => none

def recordCount (call : DurableCall) : Nat := call.batch.operations.length + 2

/-- The appends of the batch are answered with ascending LSNs and the flush reaches the last. -/
def Reaching (call : DurableCall) : Prop := AnswersReach call.callbacks call.recordCount

/-- An append of the batch fails, or all its answers are good. -/
def Steady (call : DurableCall) : Prop :=
  (∃ i < call.recordCount, ∃ e, call.callbacks.append i = .error e) ∨ call.Reaching

variable {call : DurableCall}

theorem recordCount_eq {batchPlan : DefinitionBatchPlan} (h : IsPlanOf call.batch batchPlan) :
    batchPlan.mutationPlan.recordCount = call.recordCount := by
  rw [CatalogMutationPlan.recordCount, h.deltas, mutationDeltas, length_map, length_zipIdx,
    recordCount]

/-! ## The replay of the log follows the store -/

/-- The records in the log, replayed from the initial snapshot, lead to a mirror of the live
snapshot, and the batches replayed are those of the plans. -/
def Tracks (initial : LiveSnapshot) (store : CatalogSystemStore)
    (plans : List CatalogMutationPlan) : Prop :=
  ∃ records, Holds store.log records ∧ CatalogSnapshot.Mirrors store.snapshot
      ((indexedFrom 0 records).foldl observe (start initial [])).target ∧
    ((indexedFrom 0 records).foldl observe (start initial [])).replayedBatches =
      plans.map recoveredBatch

section Track

variable {initial : LiveSnapshot} {store : CatalogSystemStore} {plans : List CatalogMutationPlan}
  {batchPlan : DefinitionBatchPlan} {batch : DefinitionBatch}

theorem tracks_start (hsettled : initial.version = initial.visibleVersion) :
    Tracks initial ⟨initial, []⟩ [] :=
  ⟨[], ⟨.nil, forall_mem_nil _⟩, ⟨rfl, hsettled.symm⟩, rfl⟩

variable {entries : List LogEntry}

theorem Tracks.cut (h : Tracks initial store plans) (hplan : IsPlanOf batch batchPlan)
    {written : List CatalogMutationRecord} (hwritten : written <+: batchPlan.mutationPlan.records)
    (hshort : written.length < batchPlan.mutationPlan.records.length)
    (hencodes : List.Forall₂ Encodes written entries) :
    Tracks initial { store with log := store.log ++ entries } plans := by
  obtain ⟨records, hholds, hmirrors, hreplayed⟩ := h
  obtain ⟨htarget, hbatches⟩ := foldl_observe_frame
    ((indexedFrom 0 records).foldl observe (start initial [])) (0 + records.length)
    (no_commit_of_short hwritten hshort)
  refine ⟨records ++ written, hholds.append (holds_of_encodes hplan hwritten hencodes), ?_, ?_⟩
  · rw [indexedFrom_append, foldl_append, htarget]
    exact hmirrors
  · rw [indexedFrom_append, foldl_append, hbatches]
    exact hreplayed

theorem Tracks.published (h : Tracks initial store plans)
    (hplan : store.snapshot.planDefinitionBatch batch = .ok batchPlan)
    (hencodes : List.Forall₂ Encodes batchPlan.mutationPlan.records entries)
    (receipt : CatalogPublicationReceipt) : Tracks initial
      ⟨store.snapshot.applied batchPlan.mutationPlan (some receipt), store.log ++ entries⟩
      (plans ++ [batchPlan.mutationPlan]) := by
  obtain ⟨records, hholds, hmirrors, hreplayed⟩ := h
  obtain ⟨hisPlan, hvalid⟩ := validatePlan_of_planDefinitionBatch hplan
  generalize hstate : (indexedFrom 0 records).foldl observe (start initial []) = state at *
  have hvalidTarget : state.target.validatePlan batchPlan.mutationPlan = .ok () := by
    rw [hmirrors.validatePlan]
    exact hvalid
  have hsettled : state.target.lastDurableVersion = state.target.version := by
    rw [hmirrors.eq]
    exact hmirrors.settled
  have hreplay : (indexedFrom 0 (records ++ batchPlan.mutationPlan.records)).foldl observe
      (start initial []) = { state.supersede (0 + records.length) with
        target := state.target.recovered batchPlan.mutationPlan
        replayedBatches := state.replayedBatches ++ [batchPlan.mutationPlan.recoveredBatch] } := by
    rw [← supersede_target state (0 + records.length)] at hvalidTarget hsettled
    rw [indexedFrom_append, foldl_append, hstate, CatalogMutationPlan.records,
      foldl_observe_batch state _ _ _ hisPlan.length_deltas.2 (Nat.le_refl _),
      replayCommittedBatch_of_valid hisPlan hvalidTarget hsettled, supersede_target,
      supersede_replayedBatches]
  have hrecovered : state.target.recovered batchPlan.mutationPlan =
      store.snapshot.recovered batchPlan.mutationPlan := by
    rw [recovered, recovered, hmirrors.applied]
  refine ⟨records ++ batchPlan.mutationPlan.records,
    hholds.append (holds_of_encodes hisPlan prefix_rfl hencodes), ?_, ?_⟩
  · rw [hreplay]
    dsimp only
    rw [hrecovered]
    exact mirrors_recovered hmirrors.settled (admitted_of_validatePlan hvalid) receipt
  · rw [hreplay]
    dsimp only
    rw [hreplayed, map_append, map_singleton]

theorem acknowledged_error (e : Error) : acknowledged [.error e] = [] := rfl

theorem tracks_step (h : Tracks initial store plans) {call : DurableCall} (hsteady : call.Steady)
    {result : Result CatalogSystemDurableApplyReport} {store' : CatalogSystemStore}
    (hcall : call.perform store = (result, store')) :
    Tracks initial store' (plans ++ acknowledged [result]) := by
  cases applyDefinitionBatchDurably_outcome hcall with
  | rejected e hplan =>
    rw [acknowledged_error, append_nil]
    exact h
  | cut e hplan hwritten hshort hencodes hstops =>
    obtain ⟨hisPlan, -⟩ := validatePlan_of_planDefinitionBatch hplan
    rw [acknowledged_error, append_nil]
    exact h.cut hisPlan hwritten hshort hencodes
  | unpublished e hplan hencodes hanswered hreach =>
    obtain ⟨hisPlan, -⟩ := validatePlan_of_planDefinitionBatch hplan
    rw [recordCount_eq hisPlan] at hanswered hreach
    rcases hsteady with ⟨i, hi, e', herror⟩ | hreaching
    · obtain ⟨lsn, hok⟩ := hanswered i hi
      rw [herror] at hok
      cases hok
    · exact absurd hreaching hreach
  | @published batchPlan entries report receipt hplan hencodes hreport hreach =>
    have hone : acknowledged [.ok report] = [batchPlan.mutationPlan] := by
      rw [← hreport]
      rfl
    rw [hone]
    exact h.published hplan hencodes receipt

theorem tracks_run (h : Tracks initial store plans) {calls : List DurableCall}
    (hsteady : ∀ call ∈ calls, call.Steady) :
    Tracks initial (run calls store).2 (plans ++ acknowledged (run calls store).1) := by
  induction calls generalizing store plans with
  | nil =>
    rw [run, acknowledged, filterMap_nil, append_nil]
    exact h
  | cons call calls ih =>
    rcases hcall : call.perform store with ⟨result, next⟩
    have hstep := tracks_step h (hsteady call mem_cons_self) hcall
    have hrest := ih hstep (forall_mem_cons.mp hsteady).2
    have hresults : acknowledged (result :: (run calls next).1) =
        acknowledged [result] ++ acknowledged (run calls next).1 :=
      filterMap_append (l := [result])
    rw [run, hcall]
    dsimp only
    rw [hresults, ← append_assoc]
    exact hrest

end Track

/-! ## Calls that create a table -/

def counting (flushThrough : Lsn → Result Lsn) : WalCallbacks :=
  ⟨fun i => .ok (UInt64.ofNat (i + 1)), flushThrough⟩

section

variable (objectId : CatalogObjectId)

def createTable (name : QualifiedName) (baseVersion : CatalogVersion)
    (flushThrough : Lsn → Result Lsn) : DurableCall :=
  ⟨tableBatch objectId name baseVersion, counting flushThrough⟩

theorem createTable_reaching (name : QualifiedName) (baseVersion : CatalogVersion) :
    (createTable objectId name baseVersion .ok).Reaching := by
  have hnonzero : ∀ i < 3, UInt64.ofNat (i + 1) ≠ 0 := by decide
  have hascend : ∀ j < 3, ∀ i < j, UInt64.ofNat (i + 1) < UInt64.ofNat (j + 1) := by decide
  exact ⟨fun i => UInt64.ofNat (i + 1), fun i hi => ⟨rfl, hnonzero i hi⟩,
    fun i j hij hj => hascend j hj i hij, _, rfl, UInt64.le_refl _⟩

/-! ## What the recovery of the log shows -/

structure SameCatalog (s t : LiveSnapshot) : Prop where
  version : t.version = s.version
  visibleVersion : t.visibleVersion = s.visibleVersion
  byId : ∀ id, t.visibleGetById id = s.visibleGetById id
  byName : ∀ name, t.visibleGetByName name = s.visibleGetByName name
  lifecycle : ∀ id, t.lifecycleById id = s.lifecycleById id

def recoveredSnapshot (tagged : Bool) (initial : LiveSnapshot) (calls : List DurableCall) :
    LiveSnapshot :=
  (recoverLog tagged initial (run calls ⟨initial, []⟩).2.log).target

def replayedBatches (tagged : Bool) (initial : LiveSnapshot) (calls : List DurableCall) :
    List CatalogRecoveredBatch :=
  (recoverLog tagged initial (run calls ⟨initial, []⟩).2.log).replayedBatches

/-- Calls with good answers: the log is recovered to the live catalog. -/
theorem recovery_reproduces_live (initial : LiveSnapshot) (calls : List DurableCall)
    (hsettled : initial.version = initial.visibleVersion)
    (hreaching : ∀ call ∈ calls, call.Reaching) (tagged : Bool) :
    SameCatalog (run calls ⟨initial, []⟩).2.snapshot (recoveredSnapshot tagged initial calls) := by
  have hsteady : ∀ call ∈ calls, call.Steady := fun call hmem => .inr (hreaching call hmem)
  obtain ⟨records, hholds, hmirrors, -⟩ := tracks_run (tracks_start hsettled) hsteady
  rw [recoveredSnapshot, recoverLog_of_holds hholds, close_target, hmirrors.eq]
  exact ⟨rfl, rfl, fun _ => rfl, fun _ => rfl, fun _ => rfl⟩

/-- The product table is created and found again. -/
theorem recovery_reproduces_live_product :
    SameCatalog (run [createTable 1 productName 7 .ok] ⟨.empty 10 20 7, []⟩).2.snapshot
        (recoveredSnapshot true (.empty 10 20 7) [createTable 1 productName 7 .ok]) ∧
      (recoveredSnapshot true (.empty 10 20 7) [createTable 1 productName 7 .ok]).version = 8 := by
  have hreaching : ∀ call ∈ [createTable 1 productName 7 .ok], call.Reaching :=
    forall_mem_singleton.mpr (createTable_reaching 1 productName 7)
  have hsame := recovery_reproduces_live (.empty 10 20 7) [createTable 1 productName 7 .ok] rfl
    hreaching true
  exact ⟨hsame, hsame.version.trans (by decide +kernel)⟩

def NeverFails (call : DurableCall) : Prop :=
  (∀ i, ∃ lsn, call.callbacks.append i = .ok lsn) ∧
    ∀ lsn, ∃ durable, call.callbacks.flushThrough lsn = .ok durable

def stagedProduct : LiveSnapshot :=
  (empty 10 20 7).applied (tablePlan 1 productName 7) none

theorem createTable_neverFails (name : QualifiedName) (baseVersion : CatalogVersion)
    {flushThrough : Lsn → Result Lsn}
    (hflush : ∀ lsn, ∃ durable, flushThrough lsn = .ok durable) :
    (createTable objectId name baseVersion flushThrough).NeverFails :=
  ⟨fun i => ⟨UInt64.ofNat (i + 1), rfl⟩, hflush⟩

end

/-- A flush stays behind the commit record: version 7 is live, 8 is recovered. A version is staged
in memory below the batch: version 9 is live, 8 is recovered. -/
theorem recovery_diverges_from_live :
    ((createTable 1 productName 7 fun _ => .ok 0).NeverFails ∧
      (run [createTable 1 productName 7 fun _ => .ok 0] ⟨.empty 10 20 7, []⟩).2.snapshot.version = 7 ∧
      (recoveredSnapshot true (.empty 10 20 7)
        [createTable 1 productName 7 fun _ => .ok 0]).version = 8) ∧
    ((createTable 2 stockName 8 .ok).NeverFails ∧ (createTable 2 stockName 8 .ok).Reaching) ∧
      (run [createTable 2 stockName 8 .ok] ⟨stagedProduct, []⟩).2.snapshot.version = 9 ∧
      (recoveredSnapshot true stagedProduct [createTable 2 stockName 8 .ok]).version = 8 :=
  ⟨⟨createTable_neverFails _ _ _ fun _ => ⟨0, rfl⟩, by decide +kernel⟩,
    ⟨createTable_neverFails _ _ _ fun lsn => ⟨lsn, rfl⟩, createTable_reaching 2 stockName 8⟩,
    by decide +kernel⟩

variable {store store' : CatalogSystemStore} {call : DurableCall}

/-- The catalog after some acknowledged calls: sound, with nothing staged, one version a call. -/
structure Advanced (initial s : LiveSnapshot) (count : Nat) : Prop where
  integrity : Integrity s
  settled : s.visibleVersion = s.version
  version : s.version.toNat = initial.version.toNat + count

variable {initial : LiveSnapshot}

theorem Advanced.perform {count : Nat} (h : Advanced initial store.snapshot count)
    {result : Result CatalogSystemDurableApplyReport}
    (hcall : call.perform store = (result, store')) :
    Advanced initial store'.snapshot (count + (acknowledged [result]).length) := by
  cases applyDefinitionBatchDurably_outcome hcall with
  | rejected | cut | unpublished => exact h
  | @published batchPlan entries report receipt hplan hencodes hreport hreach =>
    obtain ⟨hisPlan, hvalid⟩ := validatePlan_of_planDefinitionBatch hplan
    have hadmitted := admitted_of_validatePlan hvalid
    have hrefs : RefsAgree _ := fun object definition ⟨_, _, hmem⟩ =>
      hisPlan.refs _ hmem object definition rfl
    have hintegrity : Integrity (store.snapshot.applied batchPlan.mutationPlan (some receipt)) :=
      h.integrity.applied hadmitted hrefs
    refine ⟨hintegrity, rfl, ?_⟩
    have hnext := checkedAdd_eq_some.mp hisPlan.successor
    have hbase := congrArg DefinitionBatch.baseVersion hisPlan.definitionBatch
    have hcount := h.version
    rw [hadmitted.previous] at hcount
    rw [applied_version, hnext, ← hbase]
    exact congrArg (· + 1) hcount

theorem Advanced.run {count : Nat} (h : Advanced initial store.snapshot count)
    (calls : List DurableCall) :
    Advanced initial (run calls store).2.snapshot
      (count + (acknowledged (run calls store).1).length) := by
  induction calls generalizing store count with
  | nil => exact h
  | cons call calls ih =>
    rcases hcall : call.perform store with ⟨result, next⟩
    have hlength : acknowledged (result :: (DurableCall.run calls next).1) =
        acknowledged [result] ++ acknowledged (DurableCall.run calls next).1 :=
      filterMap_append (l := [result])
    rw [DurableCall.run, hcall]
    dsimp only
    rw [hlength, length_append, ← Nat.add_assoc]
    exact ih (h.perform hcall)

theorem snapshot_of_failed {e : Error} (h : call.perform store = (.error e, store')) :
    store'.snapshot = store.snapshot := by
  cases applyDefinitionBatchDurably_outcome h with
  | rejected | cut | unpublished => rfl

/-- Whatever the WAL answers, the live catalog is sound, shows all it has and is at the version
that counts the acknowledged calls; a call that fails on it leaves it unchanged. -/
theorem live_catalog_advanced (databaseId : DatabaseId) (namespaceId : NamespaceId)
    (version : CatalogVersion) (calls : List DurableCall) :
    let live := (run calls ⟨.empty databaseId namespaceId version, []⟩).2
    Advanced (.empty databaseId namespaceId version) live.snapshot
        (acknowledged (run calls ⟨.empty databaseId namespaceId version, []⟩).1).length ∧
      ∀ (call : DurableCall) (e : Error), (call.perform live).1 = .error e →
        (call.perform live).2.snapshot = live.snapshot := by
  have hstart : Advanced (.empty databaseId namespaceId version)
      (⟨.empty databaseId namespaceId version, []⟩ : CatalogSystemStore).snapshot 0 :=
    ⟨integrity_empty _ _ _, rfl, rfl⟩
  have hrun := hstart.run calls
  rw [Nat.zero_add] at hrun
  exact ⟨hrun, fun call e herror => snapshot_of_failed (Prod.ext herror rfl)⟩

end DurableCall

/-! ## Recovery of any log -/

theorem CatalogSnapshot.Integrity.markDurableVersionFromRecovery {s : LiveSnapshot}
    (h : Integrity s) (version : CatalogVersion) :
    Integrity (s.markDurableVersionFromRecovery version) := by
  rw [CatalogSnapshot.markDurableVersionFromRecovery]
  split_ifs
  · exact ⟨h.keyed, h.indexed, h.supported⟩
  · exact h

theorem CatalogSnapshot.Integrity.applyRecovered {s t : LiveSnapshot} (hs : Integrity s)
    {boundary : CatalogMutationBoundary} {deltas : List CatalogMutationDelta}
    (hvalid : ∀ delta ∈ deltas, delta.validate = .ok ()) {result : Result Unit}
    (h : applyRecovered boundary deltas s = (result, t)) : Integrity t := by
  rw [CatalogSnapshot.applyRecovered, Effect.get_bind] at h
  rcases Effect.lift_bind_cases h with ⟨_, -, -, rfl⟩ | ⟨_, -, h⟩
  · exact hs
  rcases Effect.lift_bind_cases h with ⟨_, -, -, rfl⟩ | ⟨plan, hnew, h⟩
  · exact hs
  have hrefs : RefsAgree { plan with publicationSemantics := boundary.publicationSemantics } := by
    simp only [CatalogMutationPlan.new, ok_iff] at hnew
    obtain ⟨-, rfl⟩ := hnew
    rintro object definition ⟨index, version, hmem⟩
    have hdelta := hvalid _ hmem
    simp only [CatalogMutationDelta.validate, ok_iff, not_not] at hdelta
    exact hdelta.2.2.1
  rcases Effect.bind_cases h with ⟨e, happly, -⟩ | ⟨report, u, happly, hmark⟩ <;>
    rcases applyMutationPlan_cases happly with ⟨_, hresult, rfl⟩ | ⟨_, hresult, hplan, rfl⟩
  · exact hs
  · cases hresult
  · cases hresult
  · cases hmark
    exact (hs.applied (admitted_of_validatePlan hplan) hrefs).markDurableVersionFromRecovery _

/-- What the replay keeps: a sound catalog, and an open batch of valid changes. -/
structure Sane (state : MutationReplay LiveSnapshot) : Prop where
  target : Integrity state.target
  pending : ∀ entry ∈ (state.pending.map PendingCatalogBatch.deltas).getD [],
    entry.2.validate = .ok ()

variable {record : CatalogMutationRecord}

theorem Sane.observe {state : MutationReplay LiveSnapshot} (h : Sane state) {n : Nat}
    (hvalid : record.validate = .ok ()) :
    Sane (state.observe (n, record)) := by
  have hpending := h.pending
  cases record with
  | begin boundary =>
    have htarget : Integrity (state.supersede n).target :=
      (supersede_target state n).symm ▸ h.target
    rw [observe_begin, observeBegin]
    split_ifs
    · exact ⟨htarget, by simp [skipAnomalous, report]⟩
    · exact ⟨htarget, by simp⟩
  | apply delta =>
    rw [observe_apply, observeApply]
    split
    · exact ⟨h.target, hpending⟩
    · rename_i batch hbatch
      rw [hbatch] at hpending
      split_ifs
      · exact ⟨h.target, by simp [skipAnomalous, report]⟩
      · exact ⟨h.target, forall_mem_append.mpr ⟨hpending, forall_mem_singleton.mpr hvalid⟩⟩
  | commit boundary =>
    rw [observe_commit, observeCommit]
    split
    · exact ⟨h.target, hpending⟩
    · rename_i batch hbatch
      rw [hbatch] at hpending
      dsimp only
      split_ifs
      · exact ⟨h.target, by simp [skipAnomalous, report]⟩
      rw [replayCommittedBatch]
      have hskip : ∀ target fault, Integrity target → Sane (skipCommitted
          { state with target, pending := none } batch fault) := by
        intro target fault htarget
        unfold skipCommitted
        dsimp only
        split_ifs <;> exact ⟨htarget, by simp [skipAnomalous, skipIncomplete, report]⟩
      split
      · exact hskip _ _ h.target
      · rename_i deltas hcheck
        have hdeltas : ∀ delta ∈ deltas, delta.validate = .ok () := by
          simp only [checkCommittedBatch, ok_iff] at hcheck
          obtain ⟨-, -, -, rfl⟩ := hcheck
          intro delta hmem
          obtain ⟨entry, hentry, rfl⟩ := mem_map.mp hmem
          exact hpending entry ((perm_insertionSort _ _).mem_iff.mp hentry)
        split
        · rename_i happly
          exact hskip _ _ (h.target.applyRecovered hdeltas happly)
        · rename_i happly
          exact ⟨h.target.applyRecovered hdeltas happly, by simp⟩

theorem validate_of_decodeIndexedPayload {entry : CatalogDurableMutationPayload × Nat} {n : Nat}
    (h : decodeIndexedPayload entry = .ok (n, record)) :
    record.validate = .ok () := by
  rw [decodeIndexedPayload, bind_eq_ok] at h
  obtain ⟨decoded, hdecode, h⟩ := h
  have hsame : decoded = record := by
    split at h <;> simp only [ok_iff, Prod.mk.injEq] at h
    · exact h.2
    · exact h.2.2
  simp only [mapError_eq_ok, decodeCatalogDurablePayload, ok_iff] at hdecode
  obtain ⟨_, -, _, -, -, _, -, -, hvalid, rfl⟩ := hdecode
  exact hsame ▸ hvalid

/-- Whatever bytes are in the log: if recovery returns, it has made a sound catalog of them. -/
theorem recovered_integrity (databaseId : DatabaseId) (namespaceId : NamespaceId)
    (version : CatalogVersion) (payloads : List CatalogDurableMutationPayload) :
    Integrity (recoverCatalogSnapshotFromDurablePayloads
      (.empty databaseId namespaceId version : LiveSnapshot) payloads).target := by
  have hstart : ∀ anomalies, Sane (start (.empty databaseId namespaceId version) anomalies) :=
    fun _ => ⟨integrity_empty _ _ _, by simp [start]⟩
  rw [recoverCatalogSnapshotFromDurablePayloads, recoverCatalogTargetFromDurablePayloads,
    replayIndexedRecords, close_target]
  refine (foldlRecOn (motive := Sane) _ _ (hstart _) ?_).target
  rintro state h ⟨n, record⟩ hmem
  obtain ⟨result, hresult, hsome⟩ := mem_filterMap.mp hmem
  obtain ⟨entry, -, rfl⟩ := mem_map.mp hresult
  cases hdecode : decodeIndexedPayload entry with
  | error anomaly => rw [hdecode] at hsome; cases hsome
  | ok indexed =>
    rw [hdecode] at hsome
    cases hsome
    exact h.observe (validate_of_decodeIndexedPayload hdecode)

end Andromeda.Catalog
