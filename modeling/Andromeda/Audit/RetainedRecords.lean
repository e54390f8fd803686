import Andromeda.Audit.JournalRuns

/-!
# What compaction keeps

On any journal that opens, a compaction succeeds and keeps exactly the retained records if and
only if no lock is held and every retained record carries the checksum of its payload in the
current format. Records of the previous format carry another checksum, so that a journal with
such a record cannot be compacted.
-/

namespace Andromeda.Audit

open Fallible AsciiText Traced DurableAuditJournalRecordFormat List DurableAuditReplayQuery
open Catalog (strBytes)

/-! ## LSNs behind a run -/

def reportsOf : JournalFiles → List JournalCall → List DurableAuditSinkReport
  | _, [] => []
  | files, call :: calls =>
    (match (call.run files).1 with
      | .ok (some report) => [report]
      | _ => []) ++ reportsOf (call.run.final files) calls

theorem Settled.reports_increase {state : JournalState} (h : Settled state)
    {calls : List JournalCall} (hroom : (lastLsn state.2).toNat + calls.length < 2 ^ 64) :
    (∀ report ∈ reportsOf state.1 calls, lastLsn state.2 < report.evidence.recordLsn) ∧
      (reportsOf state.1 calls).Pairwise fun a b =>
        a.evidence.recordLsn < b.evidence.recordLsn := by
  induction calls generalizing state with
  | nil => exact ⟨fun _ hmem => absurd hmem not_mem_nil, List.Pairwise.nil⟩
  | cons call calls ih =>
    rw [length_cons] at hroom
    have hlsn : lastLsn state.2 ≠ 0xffffffffffffffff := ne_max (by omega)
    obtain ⟨hsettled, hle, hbound⟩ := h.step hlsn call
    obtain ⟨habove, hordered⟩ := ih hsettled (by omega)
    have habove' : ∀ report ∈ reportsOf (call.step state).1 calls,
        lastLsn state.2 < report.evidence.recordLsn := fun report hmem =>
      UInt64.lt_of_le_of_lt hle (habove report hmem)
    cases call_effect h hlsn call with
    | @appended record hresult hstep _ =>
      rw [hstep, lastLsn_append] at habove
      rw [reportsOf, hresult]
      refine ⟨forall_mem_cons.mpr ⟨lt_saturatingSucc hlsn, habove'⟩,
        pairwise_cons.mpr ⟨habove, hordered⟩⟩
    | compacted hresult hstep _ | refused hresult hstep =>
      rw [reportsOf, hresult]
      exact ⟨habove', hordered⟩

/-! ## Journals that open -/

theorem openSink_final (files : JournalFiles) : openSink.final files = createJournal files := by
  cases hreplay : replayDurableAuditJournal (createJournal files) all with
  | error e =>
    have hreturns : openSink.Returns files (.error e) (createJournal files) := by
      refine (returns_operate createJournal files).bind ((returns_get _).bind ?_)
      rw [hreplay]
      exact (returns_lift (.error e) _).bind_error
    exact hreturns.2
  | ok records =>
    have hreturns : openSink.Returns files (.ok ()) (createJournal files) := by
      refine (returns_operate createJournal files).bind ((returns_get _).bind ?_)
      rw [hreplay]
      exact (returns_lift (.ok records) _).bind (returns_pure () _)
    exact hreturns.2

/-- Compaction succeeds, keeps exactly the retained records and never lets an LSN be used again,
for as many later calls as there are LSNs left. -/
def KeepsPromise (files : JournalFiles) (policy : DurableAuditRetentionPolicy)
    (archiveProofs : List DurableAuditWalSegmentArchiveProof)
    (records : List DurableAuditReplayRecord) : Prop :=
  ∃ report after,
    (compactRecordsWithArchiveProofs policy archiveProofs).Returns files (.ok report) after ∧
      replayDurableAuditJournal after all =
        .ok (retainedBy policy archiveProofs records) ∧
      ∀ later : List JournalCall, (lastLsn records).toNat + later.length < 2 ^ 64 →
        (∀ report ∈ reportsOf after later, ∀ record ∈ records,
          record.lsn < report.evidence.recordLsn) ∧
        (reportsOf after later).Pairwise fun a b => a.evidence.recordLsn < b.evidence.recordLsn

theorem compaction_keeps_promise_iff {files : JournalFiles}
    {records : List DurableAuditReplayRecord} {policy : DurableAuditRetentionPolicy}
    {archiveProofs : List DurableAuditWalSegmentArchiveProof}
    (hopens : replayDurableAuditJournal (openSink.final files) all = .ok records)
    (hpolicy : policy.validate = .ok ())
    (hproofs : ∀ proof ∈ archiveProofs, proof.validate = .ok ()) :
    KeepsPromise (openSink.final files) policy archiveProofs records ↔
      files.lock = none ∧ ∀ record ∈ retainedBy policy archiveProofs records,
        checksum64 (payloadText record) = record.report.evidence.checksum := by
  rw [openSink_final] at hopens ⊢
  have hjournal : (createJournal files).journal = some (files.journal.getD []) := rfl
  obtain ⟨parsed, haccepts, rfl⟩ := (replay_eq_ok_iff hjournal).mp hopens
  generalize hretained : retainedBy policy archiveProofs (parsed.map (·.record)) = retained
  obtain ⟨hfacts, -⟩ := haccepts.retained_facts hretained
  constructor
  · rintro ⟨report, after, hreturns, -, -⟩
    cases hlock : files.lock with
    | some text =>
      have hheld : (withMutationLock .retentionRejected none
          (compactLocked policy archiveProofs)).Returns (createJournal files)
          (.error (sinkFailure .retentionRejected none
            "durable audit journal mutation lock is already held")) (createJournal files) := by
        have hlocked : (createJournal files).lock.isSome = true := by
          change files.lock.isSome = true
          rw [hlock]
          rfl
        rw [Returns, Traced.final, withMutationLock_held hlocked]
        exact ⟨rfl, rfl⟩
      cases (hreturns.unique (compactRecords_unfold hpolicy hproofs hheld)).1
    | none =>
      have hholds : Holds (createJournal files) parsed := ⟨⟨_, hjournal, haccepts⟩, hlock⟩
      refine ⟨rfl, ?_⟩
      by_contra hnot
      have hbad : ∃ record ∈ retained, ¬ Canonical record := by
        by_contra hall
        push Not at hall
        exact hnot fun record hmem => (hall record hmem).checksum
      obtain ⟨failure, text, hfails⟩ := compactRecords_fails hpolicy hproofs hretained hholds hbad
      cases (hreturns.unique hfails).1
  · rintro ⟨hlock, hchecksums⟩
    have hholds : Holds (createJournal files) parsed := ⟨⟨_, hjournal, haccepts⟩, hlock⟩
    have hcanonical : ∀ record ∈ retained, Canonical record := fun record hmem =>
      ⟨(hfacts record hmem).1, hchecksums record hmem⟩
    obtain ⟨report, hreturns⟩ := compactRecords_returns hpolicy hproofs hretained hholds hcanonical
    have hcompacted := hholds.compacted hretained hcanonical
    have hreplay := hcompacted.replay
    rw [map_record_chained] at hreplay
    refine ⟨report, _, hreturns, hretained ▸ hreplay, ?_⟩
    intro later hroom
    have hsettled : Settled (((createJournal files).compacted retained).withLock none, retained) :=
      ⟨⟨_, hcompacted, map_record_chained _ _⟩, hcanonical⟩
    rw [← @lastLsn_retainedBy policy archiveProofs, hretained] at hroom
    obtain ⟨habove, hordered⟩ := hsettled.reports_increase hroom
    refine ⟨?_, hordered⟩
    intro report hreport record hrecord
    have hlt := habove report hreport
    obtain ⟨entry, hentry, rfl⟩ := mem_map.mp hrecord
    rw [← hretained, lastLsn_retainedBy, ← tailLsn_eq_lastLsn] at hlt
    exact UInt64.lt_of_le_of_lt ((le_tailLsn haccepts.reads).2 entry hentry) hlt

theorem openSink_final_of_holds {files : JournalFiles} {parsed : List DurableAuditJournalRecord}
    (h : Holds files parsed) : openSink.final files = files := by
  obtain ⟨content, hjournal, -⟩ := h.accepted
  rw [openSink_final, createJournal, hjournal, Option.getD_some, ← hjournal]

def fromSecond : DurableAuditRetentionPolicy := { minRecordLsn := some 2 }

def archived (checksum : UInt64) : DurableAuditWalSegmentArchiveProof :=
  ⟨"segment-1", 1, 1, checksum⟩

theorem retainedBy_fromSecond (c d : UInt64) : retainedBy fromSecond [archived c]
      [replayRecordAt genericRecord 1 c, replayRecordAt genericRecord 2 d] =
    [replayRecordAt genericRecord 2 d] := by
  simp [retainedBy, keptRecords, DurableAuditReplayRecord.lsn, replayRecordAt, genericRecord,
    DurableAuditRetentionPolicy.block, DurableAuditRetentionPolicy.retains, fromSecond,
    DurableAuditRetentionPolicy.hasNoExpiryCriteria, archived, archiveProofForRecord,
    DurableAuditWalSegmentArchiveProof.covers]

def firstArchived : DurableAuditWalSegmentArchiveProof :=
  archived (checksum64 (payloadText (replayRecordAt genericRecord 1 1)))

/-- Of two appended records the first is archived and expires. -/
theorem compaction_keeps_promise_iff_second :
    retainedBy fromSecond [firstArchived] (afterCalls newJournal twoAppends).2 =
        [appendedRecord genericRecord 2] ∧
      KeepsPromise (openSink.final (afterCalls newJournal twoAppends).1) fromSecond
        [firstArchived] (afterCalls newJournal twoAppends).2 := by
  have hroom : (lastLsn newJournal.2).toNat + twoAppends.length < 2 ^ 64 := by decide
  obtain ⟨⟨⟨parsed, hholds, hrecords⟩, hcanonical⟩, -⟩ := settled_newJournal.run hroom
  have hopens := hholds.replay
  rw [← openSink_final_of_holds hholds, hrecords] at hopens
  have hproof : firstArchived.validate = .ok () := by decide +kernel
  refine ⟨?_, (compaction_keeps_promise_iff hopens rfl (forall_mem_singleton.mpr hproof)).mpr
    ⟨hholds.unlocked, ?_⟩⟩
  · rw [records_twoAppends, firstArchived, appendedRecord, appendedRecord, retainedBy_fromSecond]
  · exact fun record hmem => (hcanonical record (retainedBy_sublist.subset hmem)).checksum

/-! ## The previous line format -/

/-- The payload of the previous format, which has no policy fields. -/
def legacyFields (record : DurableAuditReplayRecord) : List Bytes :=
  v1.tag :: ((payloadFields record).tail.take 12 ++ (payloadFields record).drop 15)

def legacyText (record : DurableAuditReplayRecord) : Bytes :=
  [124].intercalate (legacyFields record)

def legacyRecord : DurableAuditReplayRecord :=
  replayRecordAt genericRecord 1 (checksum64 (legacyText (replayRecordAt genericRecord 1 1)))

def legacyEntry : DurableAuditJournalRecord :=
  ⟨legacyRecord, chainLink 0 (legacyText legacyRecord)⟩

def legacyFiles : JournalFiles where
  journal := some (unlines [lineText (legacyText legacyRecord)
    (checksum64 (legacyText legacyRecord)) (chainLink 0 (legacyText legacyRecord)) 0])
  anchor := some ([] ++ (anchorText (anchorOf [legacyEntry]) ++ [10]))
  lock := none
  temporary := none

/-- A journal with a line of the previous format opens, but no compaction of it succeeds. -/
theorem legacy_journal_not_compacted : succeeds (openSink legacyFiles).1 = true ∧
      succeeds (compactRecords {} (openSink.final legacyFiles)).1 = false := by
  decide +kernel

end Andromeda.Audit
