import Andromeda.Catalog.PublicationReplay

/-!
# What the mutation replay accounts for

Over any log, whatever strays, repeats or is cut off in it: each begin record ends in one of the
three lists of the report, and the target takes the batches that were replayed and nothing else.
-/

namespace Andromeda.Catalog

open Fallible Effect List CatalogRecoveryApplyTarget

/-- A target moves to the next version of a batch it takes, and a batch it refuses leaves it. -/
structure AllOrNothing (τ : Type) [CatalogRecoveryApplyTarget τ] : Prop where
  moves : ∀ boundary deltas (target target' : τ),
    applyRecoveredCatalogMutation boundary deltas target = (.ok (), target') →
      recoveryVisibleCatalogVersion target' = boundary.nextVersion
  stays : ∀ boundary deltas (target target' : τ) error,
    applyRecoveredCatalogMutation boundary deltas target = (.error error, target') →
      target' = target

/-- The deltas are complete, dense in the order of the log, and have the hashes of the boundary,
which goes to the next version. -/
structure Validated (boundary : CatalogMutationBoundary) (deltas : List CatalogMutationDelta) :
    Prop where
  nonempty : deltas ≠ []
  counted : deltas.length = boundary.expectedApplyCount
  dense : MutationReplay.DenseFrom 0 deltas
  sourceHash : (definitionBatchFromRecoveredDeltas boundary deltas).sourceHash =
    boundary.sourceHash
  dependencyGraphHash : (definitionBatchFromRecoveredDeltas boundary deltas).dependencyGraphHash =
    .ok boundary.dependencyGraphHash
  shape : validateRecoveredPlanShape boundary deltas = .ok ()
  limited : boundary.expectedApplyCount ≤ maxApplyRecordsPerBatch
  next : boundary.nextVersion = saturatingSucc boundary.previousVersion

def batchRecords (boundary : CatalogMutationBoundary) (deltas : List CatalogMutationDelta) :
    List CatalogMutationRecord :=
  .begin boundary :: deltas.map .apply ++ [.commit boundary]

def beginId : CatalogMutationRecord → Option DefinitionBatchId
  | .begin boundary => some boundary.batchId
  | .apply _ | .commit _ => none

def openRecords : Option PendingCatalogBatch → List CatalogMutationRecord
  | none => []
  | some batch => .begin batch.boundary :: batch.deltas.map fun entry => .apply entry.2

variable {τ : Type} [CatalogRecoveryApplyTarget τ]

/-- The target takes batches of the log, each of them whole and in one piece, on top of the
version before it, and nothing else. -/
inductive Replays (start : τ) :
    List CatalogMutationRecord → List CatalogRecoveredBatch → τ → Prop
  | nil : Replays start [] [] start
  | skip {log replayed target} (others) : Replays start log replayed target →
      Replays start (log ++ others) replayed target
  | take {log replayed target target' boundary deltas} : Replays start log replayed target →
      Validated boundary deltas →
      boundary.previousVersion = recoveryVisibleCatalogVersion target →
      applyRecoveredCatalogMutation boundary deltas target = (.ok (), target') →
      Replays start (log ++ batchRecords boundary deltas)
        (replayed ++ [⟨boundary.batchId, boundary.previousVersion, boundary.nextVersion,
          boundary.sourceHash, boundary.dependencyGraphHash, deltas.length⟩]) target'

theorem saturatingSucc_toNat {version : CatalogVersion} (h : version.toNat + 1 < 2 ^ 64) :
    (saturatingSucc version).toNat = version.toNat + 1 := by
  have hadd : checkedAdd version 1 = some (version + 1) := if_pos h
  rw [saturatingSucc, hadd, Option.getD_some]
  exact checkedAdd_eq_some.mp hadd

variable {start : τ} {log : List CatalogMutationRecord}

def lastVersion : CatalogVersion := 0xffffffffffffffff

/-- No batch of the log that could be replayed stands on the last version. -/
def BelowLastVersion (log : List CatalogMutationRecord) : Prop :=
  ∀ boundary deltas, Validated boundary deltas → boundary.previousVersion = lastVersion →
    ¬ batchRecords boundary deltas <:+: log

theorem BelowLastVersion.left {later : List CatalogMutationRecord}
    (h : BelowLastVersion (log ++ later)) : BelowLastVersion log :=
  fun boundary deltas hvalid hlast hsub =>
    h boundary deltas hvalid hlast (hsub.trans (prefix_append _ _).isInfix)

theorem Replays.version (hτ : AllOrNothing τ) {replayed : List CatalogRecoveredBatch} {target : τ}
    (h : Replays start log replayed target) (hbelow : BelowLastVersion log) :
    (recoveryVisibleCatalogVersion target).toNat =
      (recoveryVisibleCatalogVersion start).toNat + replayed.length := by
  induction h with
  | nil => rfl
  | skip others _ ih => exact ih hbelow.left
  | @take log replayed target target' boundary deltas _ hvalid hprevious happly ih =>
    have hbefore := ih hbelow.left
    have hroom : (recoveryVisibleCatalogVersion target).toNat + 1 < 2 ^ 64 := by
      by_contra hfull
      refine hbelow boundary deltas hvalid ?_ (suffix_append _ _).isInfix
      have hlt := UInt64.toNat_lt (recoveryVisibleCatalogVersion target)
      rw [hprevious, ← UInt64.toNat_inj]
      change _ = 2 ^ 64 - 1
      omega
    rw [hτ.moves _ _ _ _ happly, hvalid.next, hprevious, saturatingSucc_toNat hroom, hbefore,
      length_append, length_singleton, Nat.add_assoc]

namespace MutationReplay

structure Accounted (start : τ) (log : List CatalogMutationRecord) (state : MutationReplay τ) :
    Prop where
  ids : (log.filterMap beginId).Perm (state.incompleteIds ++ state.settledIds)
  replays : ∃ earlier, log = earlier ++ openRecords state.pending ∧
    Replays start earlier state.replayedBatches state.target
  limited : ∀ batch ∈ state.pending, batch.boundary.expectedApplyCount ≤ maxApplyRecordsPerBatch

variable {state state' : MutationReplay τ} {batch : PendingCatalogBatch}
  {record : CatalogMutationRecord} {n : Nat}

theorem Accounted.skip (h : Accounted start log state)
    (hframe : state'.target = state.target ∧ state'.replayedBatches = state.replayedBatches)
    (hids : (state'.incompleteIds ++ state'.settledIds).Perm
      (state.incompleteIds ++ state.settledIds ++ (beginId record).toList))
    (hopen : openRecords state'.pending <:+ openRecords state.pending ++ [record])
    (hlimited : ∀ batch ∈ state'.pending,
      batch.boundary.expectedApplyCount ≤ maxApplyRecordsPerBatch) :
    Accounted start (log ++ [record]) state' := by
  obtain ⟨earlier, hlog, hreplays⟩ := h.replays
  obtain ⟨rest, hrest⟩ := hopen
  refine ⟨?_, ?_, hlimited⟩
  · rw [filterMap_append]
    refine Perm.trans ?_ hids.symm
    cases record <;> exact h.ids.append_right _
  · refine ⟨earlier ++ rest, ?_, ?_⟩
    · rw [hlog, append_assoc, append_assoc, hrest]
    · rw [hframe.1, hframe.2]
      exact hreplays.skip rest

theorem Accounted.skipOpen (h : Accounted start log state) (hpending : state.pending = some batch)
    (hrecord : beginId record = none) (anomaly : CatalogRecoveryAnomaly)
    (reason : CatalogSkippedBatchReason) : Accounted start (log ++ [record])
        (({ state with pending := none }.report anomaly).skipIncomplete (batch.skipped reason)) ∧
      Accounted start (log ++ [record])
        (({ state with pending := none }.report anomaly).skipAnomalous (batch.skipped reason)) := by
  constructor
  · refine h.skip ⟨rfl, rfl⟩ ?_ nil_suffix (by rintro _ ⟨⟩)
    simp [incompleteIds, settledIds, skipIncomplete, report, PendingCatalogBatch.skipped, hpending,
      hrecord]
  · refine h.skip ⟨rfl, rfl⟩ (perm_iff_count.mpr fun id => ?_) nil_suffix (by rintro _ ⟨⟩)
    simp [incompleteIds, settledIds, skipAnomalous, report, PendingCatalogBatch.skipped, hpending,
      hrecord, count_cons]
    omega

variable {deltas : List CatalogMutationDelta}

theorem checkCommittedBatch_eq_ok {target : τ}
    (hlimited : batch.boundary.expectedApplyCount ≤ maxApplyRecordsPerBatch) :
    checkCommittedBatch target batch n = .ok deltas ↔
      batch.deltas.map Prod.snd = deltas ∧ Validated batch.boundary deltas ∧
        (batch.boundary.databaseId = recoveryDatabaseId target ∧
          batch.boundary.namespaceId = recoveryNamespaceId target) ∧
        batch.boundary.previousVersion = recoveryVisibleCatalogVersion target := by
  simp only [checkCommittedBatch, ok_iff, checkRecords_eq_ok, checkTarget, checkRebuilt,
    mapError_eq_ok, not_or, not_not]
  constructor
  · rintro ⟨⟨hnonempty, hcount, hdense⟩, ⟨hids, hprevious, hnext⟩,
      ⟨hsource, graphHash, hgraph, rfl, hshape⟩, rfl⟩
    rw [sortByOperationIndex_of_dense hdense] at *
    exact ⟨rfl, ⟨by simpa using hnonempty, by simpa using hcount, hdense, hsource, hgraph, hshape,
      hlimited, hnext⟩, hids, hprevious⟩
  · rintro ⟨rfl, hvalid, hids, hprevious⟩
    rw [sortByOperationIndex_of_dense hvalid.dense]
    exact ⟨⟨by simpa using hvalid.nonempty, by simpa using hvalid.counted, hvalid.dense⟩,
      ⟨hids, hprevious, hvalid.next⟩,
      ⟨hvalid.sourceHash, _, hvalid.dependencyGraphHash, rfl, hvalid.shape⟩, rfl⟩

theorem Accounted.begin (h : Accounted start log state) (boundary : CatalogMutationBoundary) :
    Accounted start (log ++ [.begin boundary]) (state.observe (n, .begin boundary)) := by
  obtain ⟨hincomplete, hsettled⟩ := ids_supersede state n
  refine h.skip (observe_frame state n (by simp)) ?_ ?_ ?_ <;> rw [observe_begin, observeBegin]
  · rw [← hincomplete, ← hsettled, perm_iff_count]
    intro id
    split_ifs <;> simp [incompleteIds, settledIds, skipAnomalous, report,
      PendingCatalogBatch.skipped, beginId, count_cons]
    omega
  · split_ifs
    · simp [skipAnomalous, report, openRecords]
    · exact suffix_append _ _
  · split_ifs with hlimit
    · simp [skipAnomalous, report]
    · simpa using hlimit

theorem Accounted.apply (h : Accounted start log state) (delta : CatalogMutationDelta) :
    Accounted start (log ++ [.apply delta]) (state.observe (n, .apply delta)) := by
  rw [observe_apply, observeApply]
  cases hpending : state.pending with
  | none =>
    refine h.skip ⟨rfl, rfl⟩ (by simp [beginId, incompleteIds, settledIds, report]) ?_ h.limited
    simp [report, hpending, openRecords]
  | some batch =>
    dsimp only
    split_ifs
    · exact (h.skipOpen hpending rfl _ _).2
    · refine h.skip ⟨rfl, rfl⟩ ?_ ?_ ?_
      · simp [beginId, incompleteIds, settledIds, hpending]
      · simp [openRecords, hpending]
      · simpa using h.limited batch hpending

theorem Accounted.commit (hτ : AllOrNothing τ) (h : Accounted start log state)
    (boundary : CatalogMutationBoundary) :
    Accounted start (log ++ [.commit boundary]) (state.observe (n, .commit boundary)) := by
  rw [observe_commit, observeCommit]
  cases hpending : state.pending with
  | none =>
    refine h.skip ⟨rfl, rfl⟩ (by simp [beginId, incompleteIds, settledIds, report]) ?_ h.limited
    simp [report, hpending, openRecords]
  | some batch =>
    have hskip : ∀ fault, Accounted start (log ++ [.commit boundary])
        ({ state with pending := none }.skipCommitted batch fault) := by
      intro fault
      rw [skipCommitted]
      split_ifs
      · exact (h.skipOpen hpending rfl _ _).1
      · exact (h.skipOpen hpending rfl _ _).2
    dsimp only
    split_ifs with hboundary
    · exact (h.skipOpen hpending rfl _ _).2
    rw [replayCommittedBatch]
    cases hcheck : checkCommittedBatch state.target batch n with
    | error fault => exact hskip fault
    | ok deltas =>
      obtain ⟨rfl, hvalid, -, hprevious⟩ :=
        (checkCommittedBatch_eq_ok (h.limited batch hpending)).mp hcheck
      dsimp only
      split
      next error target happly =>
        obtain rfl := hτ.stays _ _ _ _ _ happly
        exact hskip _
      next target happly =>
        obtain ⟨earlier, hlog, hreplays⟩ := h.replays
        refine ⟨perm_iff_count.mpr fun id => ?_,
          ⟨_, ?_, hreplays.take hvalid hprevious happly⟩, by rintro _ ⟨⟩⟩
        · rw [filterMap_append, count_append, perm_iff_count.mp h.ids id]
          simp [incompleteIds, settledIds, filterMap_cons, beginId, hpending, count_cons]
          omega
        · rw [hlog, hpending, ← not_not.mp hboundary]
          simp [openRecords, batchRecords]

theorem foldl_accounted (hτ : AllOrNothing τ) (start : τ)
    (records : List (Nat × CatalogMutationRecord)) (anomalies : List CatalogRecoveryAnomaly) :
    Accounted start (records.map Prod.snd) (records.foldl observe (.start start anomalies)) := by
  induction records using List.reverseRecOn with
  | nil =>
    exact ⟨by simp [incompleteIds, settledIds, MutationReplay.start], ⟨[], rfl, .nil⟩,
      by rintro _ ⟨⟩⟩
  | append_singleton records indexed ih =>
    rw [foldl_append, map_append]
    obtain ⟨n, record⟩ := indexed
    cases record with
    | begin boundary => exact ih.begin boundary
    | apply delta => exact ih.apply delta
    | commit boundary => exact ih.commit hτ boundary

/-- Nothing is left open, the log is accounted for, and the version counts the batches. -/
structure Complete (start : τ) (log : List CatalogMutationRecord) (final : MutationReplay τ) :
    Prop where
  closed : final.pending = none
  accounted : Accounted start log final
  version : (recoveryVisibleCatalogVersion final.target).toNat =
    (recoveryVisibleCatalogVersion start).toNat + final.replayedBatches.length

theorem complete_of_belowLastVersion (hτ : AllOrNothing τ) (start : τ)
    (records : List (Nat × CatalogMutationRecord)) (anomalies : List CatalogRecoveryAnomaly)
    (hbelow : BelowLastVersion (records.map Prod.snd)) :
    Complete start (records.map Prod.snd) (replayIndexedRecords start records anomalies) := by
  have hrun := foldl_accounted hτ start records anomalies
  rw [replayIndexedRecords]
  generalize records.foldl observe (.start start anomalies) = state at hrun
  obtain ⟨hincomplete, hsettled⟩ := ids_close state
  obtain ⟨earlier, hlog, hreplays⟩ := hrun.replays
  have hpending : state.close.pending = none := by
    rw [close]
    split
    · assumption
    · rfl
  have htaken : Replays start (records.map Prod.snd) state.close.replayedBatches
      state.close.target := by
    rw [close_replayedBatches, close_target, hlog]
    exact hreplays.skip _
  refine ⟨hpending, ⟨?_, ⟨_, ?_, htaken⟩, by simp [hpending]⟩, htaken.version hτ hbelow⟩
  · rw [hincomplete, hsettled]
    exact hrun.ids
  · rw [hpending]
    exact (append_nil _).symm

/-! ### The last version -/

theorem replayedBatches_observe (state : MutationReplay τ) (indexed : Nat × CatalogMutationRecord) :
    state.replayedBatches <+: (state.observe indexed).replayedBatches := by
  obtain ⟨n, record⟩ := indexed
  cases record with
  | begin | apply =>
    refine ⟨[], (append_nil _).trans ?_⟩
    exact (observe_frame state n (by simp)).2.symm
  | commit boundary =>
    have hskip : ∀ (state : MutationReplay τ) batch fault,
        (state.skipCommitted batch fault).replayedBatches = state.replayedBatches := by
      intro state batch fault
      rw [skipCommitted]
      split_ifs <;> rfl
    rw [observe_commit, observeCommit]
    split
    · exact prefix_rfl
    dsimp only
    split_ifs
    · exact prefix_rfl
    rw [replayCommittedBatch]
    split
    · simp only [hskip, prefix_rfl]
    split
    · simp only [hskip, prefix_rfl]
    · exact prefix_append _ _

theorem replayedBatches_foldl (state : MutationReplay τ)
    (records : List (Nat × CatalogMutationRecord)) :
    state.replayedBatches <+: (records.foldl observe state).replayedBatches := by
  induction records generalizing state with
  | nil => exact prefix_rfl
  | cons indexed records ih => exact (replayedBatches_observe state indexed).trans (ih _)

theorem foldl_observe_entries (state : MutationReplay τ) (batch : PendingCatalogBatch)
    {entries : List (Nat × CatalogMutationRecord)} (hpending : state.pending = some batch)
    (hentries : entries.map Prod.snd = deltas.map .apply)
    (hroom : batch.deltas.length + deltas.length ≤ batch.boundary.expectedApplyCount) :
    ∃ joined, joined.map Prod.snd = batch.deltas.map Prod.snd ++ deltas ∧
      entries.foldl observe state = { state with pending := some { batch with deltas := joined } } := by
  induction deltas generalizing state batch entries with
  | nil =>
    obtain rfl := map_eq_nil_iff.mp hentries
    exact ⟨batch.deltas, by simp, by rw [foldl_nil, ← hpending]⟩
  | cons delta deltas ih =>
    obtain ⟨⟨i, _⟩, entries, rfl, rfl, hlater⟩ := map_eq_cons_iff.mp hentries
    rw [length_cons] at hroom
    have hfits : ¬ batch.boundary.expectedApplyCount ≤ batch.deltas.length := by omega
    obtain ⟨joined, hjoined, hrest⟩ := ih { state with pending := some _ }
      { batch with deltas := batch.deltas ++ [(i, delta)] } rfl hlater (by simp; omega)
    refine ⟨joined, by simpa using hjoined, ?_⟩
    rw [foldl_cons, observe_apply, observeApply, hpending]
    dsimp only
    rw [if_neg hfits, hrest]

structure BareTarget where
  databaseId : DatabaseId
  namespaceId : NamespaceId
  version : CatalogVersion

instance : CatalogRecoveryApplyTarget BareTarget where
  recoveryDatabaseId := BareTarget.databaseId
  recoveryNamespaceId := BareTarget.namespaceId
  recoveryVisibleCatalogVersion := BareTarget.version
  applyRecoveredCatalogMutation boundary _ :=
    Effect.modify fun target => { target with version := boundary.nextVersion }

theorem bareTarget_allOrNothing : AllOrNothing BareTarget := by
  constructor
  · intro boundary deltas target target' happly
    cases happly
    rfl
  · intro boundary deltas target target' error happly
    cases happly

theorem bareTarget_stays {start target : BareTarget} {replayed : List CatalogRecoveredBatch}
    (hlast : start.version = lastVersion) (h : Replays start log replayed target) :
    target = start := by
  induction h with
  | nil => rfl
  | skip others _ ih => exact ih
  | @take _ _ _ _ boundary _ _ hvalid hprevious happly ih =>
    subst ih
    have hnext : boundary.nextVersion = lastVersion := by
      rw [hvalid.next, hprevious.trans hlast]
      decide
    cases happly
    rw [hnext, ← hlast]

theorem bareTarget_takes {boundary : CatalogMutationBoundary} (hvalid : Validated boundary deltas)
    (hlast : boundary.previousVersion = lastVersion)
    {start : BareTarget} (hids : boundary.databaseId = start.databaseId ∧
      boundary.namespaceId = start.namespaceId) (hstart : start.version = lastVersion)
    {records : List (Nat × CatalogMutationRecord)}
    (hsub : batchRecords boundary deltas <:+: records.map Prod.snd)
    (anomalies : List CatalogRecoveryAnomaly) :
    (replayIndexedRecords start records anomalies).replayedBatches ≠ [] := by
  obtain ⟨_, _, hlog⟩ := hsub
  obtain ⟨front, later, rfl, hfront, rfl⟩ := map_eq_append_iff.mp hlog.symm
  obtain ⟨earlier, middle, rfl, rfl, hmiddle⟩ := map_eq_append_iff.mp hfront
  obtain ⟨opening, ending, rfl, hopening, hending⟩ := map_eq_append_iff.mp hmiddle
  obtain ⟨⟨n, _⟩, entries, rfl, rfl, hentries⟩ := map_eq_cons_iff.mp hopening
  obtain ⟨⟨m, _⟩, _, rfl, rfl, hnil⟩ := map_eq_cons_iff.mp hending
  obtain rfl := map_eq_nil_iff.mp hnil
  have hrun := foldl_accounted bareTarget_allOrNothing start earlier anomalies
  rw [replayIndexedRecords, close_replayedBatches, foldl_append, foldl_append, foldl_append,
    foldl_cons]
  generalize earlier.foldl observe (.start start anomalies) = state at hrun ⊢
  obtain ⟨_, -, hreplays⟩ := hrun.replays
  have htarget := bareTarget_stays hstart hreplays
  have hbegin : state.observe (n, .begin boundary) =
      { state.supersede n with pending := some ⟨n, boundary, []⟩ } := by
    rw [observe_begin, observeBegin]
    exact if_neg (Nat.not_lt.mpr hvalid.limited)
  obtain ⟨joined, hjoined, happlies⟩ := foldl_observe_entries
    { state.supersede n with pending := some _ } ⟨n, boundary, []⟩ rfl hentries
    (by simp [hvalid.counted])
  have hcheck : checkCommittedBatch (state.supersede n).target ⟨n, boundary, joined⟩ m =
      .ok deltas := by
    rw [supersede_target, htarget]
    exact (checkCommittedBatch_eq_ok hvalid.limited).mpr
      ⟨hjoined, hvalid, hids, hlast.trans hstart.symm⟩
  apply (replayedBatches_foldl _ later).ne_nil
  rw [foldl_nil, foldl_cons, hbegin, happlies, observe_commit, observeCommit]
  simp only [ne_eq, not_true_eq_false, if_false, replayCommittedBatch, hcheck]
  exact append_ne_nil_of_right_ne_nil _ (cons_ne_nil _ _)

/-- The successor of a version saturates, so that a batch on the last version is replayed without
moving it. The replay of a log is right for every target exactly when it has no such batch. -/
theorem replay_accounted_iff (records : List (Nat × CatalogMutationRecord))
    (anomalies : List CatalogRecoveryAnomaly) :
    (∀ (τ : Type) [CatalogRecoveryApplyTarget τ], AllOrNothing τ → ∀ start : τ,
        Complete start (records.map Prod.snd) (replayIndexedRecords start records anomalies)) ↔
      BelowLastVersion (records.map Prod.snd) := by
  constructor
  · intro hright boundary deltas hvalid hlast hsub
    have hcomplete := hright BareTarget bareTarget_allOrNothing
      ⟨boundary.databaseId, boundary.namespaceId, lastVersion⟩
    obtain ⟨_, -, hreplays⟩ := hcomplete.accounted.replays
    have hversion := hcomplete.version
    rw [bareTarget_stays rfl hreplays] at hversion
    have hnone := List.length_eq_zero_iff.mp (Nat.left_eq_add.mp hversion)
    exact bareTarget_takes hvalid hlast ⟨rfl, rfl⟩ rfl hsub anomalies hnone
  · intro hbelow τ _ hτ start
    exact complete_of_belowLastVersion hτ start records anomalies hbelow

def productLog (previousVersion nextVersion : CatalogVersion) :
    List (Nat × CatalogMutationRecord) :=
  let batch : DefinitionBatch :=
    { tableBatch 1 productName (nextVersion - 1) with baseVersion := previousVersion }
  let boundary := { (tablePlan 1 productName (nextVersion - 1)).commitBoundary with
    previousVersion, sourceHash := batch.sourceHash }
  [(0, .begin boundary),
    (1, .apply (CatalogMutationDelta.create 0 nextVersion (sampleTable 1 productName nextVersion))),
    (2, .commit boundary)]

theorem replay_accounted_product :
    (replayIndexedRecords (⟨10, 20, 7⟩ : BareTarget) (productLog 7 8) []).replayedBatches.length =
        1 ∧ Complete (⟨10, 20, 7⟩ : BareTarget) ((productLog 7 8).map Prod.snd)
        (replayIndexedRecords ⟨10, 20, 7⟩ (productLog 7 8) []) := by
  refine ⟨by decide +kernel, (replay_accounted_iff (productLog 7 8) []).mpr ?_ BareTarget
    bareTarget_allOrNothing _⟩
  intro boundary deltas _ hlast hsub
  have hmem : .begin boundary ∈ (productLog 7 8).map Prod.snd := hsub.subset mem_cons_self
  have hseven : boundary.previousVersion = 7 := by
    simp only [productLog, map_cons, map_nil, mem_cons, not_mem_nil, reduceCtorEq, or_false,
      CatalogMutationRecord.begin.injEq] at hmem
    rw [hmem]
  rw [hseven] at hlast
  exact absurd hlast (by decide)

/-- A batch on the last version is replayed and leaves the target there. -/
theorem last_version_replays_batch :
    let start : BareTarget := ⟨10, 20, lastVersion⟩
    let final := replayIndexedRecords start (productLog lastVersion lastVersion) []
    AllOrNothing BareTarget ∧ final.replayedBatches.length = 1 ∧
      final.target.version = start.version :=
  ⟨bareTarget_allOrNothing, by decide +kernel⟩

end MutationReplay

end Andromeda.Catalog
