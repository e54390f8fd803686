import Andromeda.Audit.JournalSteps

/-!
# Compaction of the journal

Compaction reads the records, keeps those that the policy and the archive proofs do not release
and writes them again behind the genesis checksum. A record is written again only if it carries
the checksum of its payload in the current format.
-/

namespace Andromeda.Audit

open Fallible AsciiText Traced DurableAuditReplayRecord List DurableAuditCompactionReport
open Catalog (strBytes)

def lastLsn (records : List DurableAuditReplayRecord) : UInt64 :=
  (records.getLast?.map lsn).getD 0

theorem tailLsn_eq_lastLsn (parsed : List DurableAuditJournalRecord) :
    tailLsn 0 parsed = lastLsn (parsed.map (·.record)) := by
  rw [tailLsn, lastLsn, List.getLast?_map, Option.map_map]
  rfl

def retainedBy (policy : DurableAuditRetentionPolicy)
    (archiveProofs : List DurableAuditWalSegmentArchiveProof)
    (records : List DurableAuditReplayRecord) : List DurableAuditReplayRecord :=
  keptRecords policy archiveProofs (records.getLast?.map lsn) records

section Retained

variable {policy : DurableAuditRetentionPolicy}
  {archiveProofs : List DurableAuditWalSegmentArchiveProof}
  {records : List DurableAuditReplayRecord}

theorem retainedBy_sublist : (retainedBy policy archiveProofs records).Sublist records :=
  filter_sublist

theorem getLast?_retainedBy :
    (retainedBy policy archiveProofs records).getLast? = records.getLast? := by
  rcases eq_nil_or_concat records with rfl | ⟨front, last, rfl⟩
  · rfl
  · rw [concat_eq_append, retainedBy, keptRecords, filter_append, List.getLast?_concat]
    have hkept : decide (some last.lsn = Option.map lsn (some last) ∨
        (policy.block last (archiveProofForRecord last archiveProofs)).isSome = true) = true :=
      decide_eq_true (.inl rfl)
    rw [filter_cons, if_pos hkept, filter_nil, List.getLast?_concat]

theorem lastLsn_retainedBy : lastLsn (retainedBy policy archiveProofs records) = lastLsn records := by
  rw [lastLsn, lastLsn, getLast?_retainedBy]

end Retained

theorem writeRetained_returns {previous : UInt64} {records : List DurableAuditReplayRecord}
    (hcanonical : ∀ record ∈ records, Canonical record) (files : JournalFiles) (text : Bytes) :
    (writeRetained previous records).Returns (files.withTemporary (some text))
      (.ok (tailChain previous (chained previous records)))
      (files.withTemporary (some (text ++ unlines (chainedLines previous records)))) := by
  induction records generalizing previous text with
  | nil =>
    rw [show unlines (chainedLines previous []) = [] from rfl, append_nil]
    exact returns_pure _ _
  | cons record records ih =>
    obtain ⟨hhead, hrest⟩ := forall_mem_cons.mp hcanonical
    have hline := journalLine_of_canonical hhead previous
    have htail := @ih (chainLink previous (payloadText record)) hrest
      (text ++ (recordLine previous record ++ [10]))
    rw [writeRetained, hline, chained, tailChain_cons]
    have htext : text ++ unlines (chainedLines previous (record :: records)) =
        text ++ (recordLine previous record ++ [10]) ++
          unlines (chainedLines (chainLink previous (payloadText record)) records) := by
      rw [chainedLines, unlines_cons]
      simp
    rw [htext]
    exact (returns_lift (.ok _) _).bind ((returns_operate _ _).bind htail)

theorem writeRetained_fails {previous : UInt64} {records : List DurableAuditReplayRecord}
    (hnot : ∃ record ∈ records, ¬ Canonical record) (files : JournalFiles) (text : Option Bytes) :
    ∃ failure text', (writeRetained previous records).Returns (files.withTemporary text)
      (.error failure) (files.withTemporary text') := by
  induction records generalizing previous text with
  | nil =>
    obtain ⟨record, hmem, -⟩ := hnot
    exact absurd hmem not_mem_nil
  | cons record records ih =>
    cases hline : journalLine record previous with
    | error e =>
      refine ⟨sinkFailure .retentionRejected (some record.report.identity) e.message, text, ?_⟩
      rw [writeRetained, hline]
      exact (returns_lift (.error _) _).bind_error
    | ok line =>
      have hhead := hline
      simp only [journalLine, journalPayload, ok_iff] at hhead
      obtain ⟨payload, ⟨hvalid, rfl⟩, hchecksum, -⟩ := hhead
      have hrest : ∃ record ∈ records, ¬ Canonical record := by
        obtain ⟨bad, hmem, hbad⟩ := hnot
        rcases mem_cons.mp hmem with rfl | hmem
        · exact absurd ⟨hvalid, hchecksum⟩ hbad
        · exact ⟨bad, hmem, hbad⟩
      obtain ⟨failure, text', htail⟩ := @ih line.chainChecksum hrest
        (some (text.getD [] ++ line.text))
      refine ⟨failure, text', ?_⟩
      rw [writeRetained, hline]
      exact (returns_lift (.ok _) _).bind ((returns_operate _ _).bind htail)

def JournalFiles.compacted (files : JournalFiles) (records : List DurableAuditReplayRecord) :
    JournalFiles :=
  { files with
    journal := some (unlines (chainedLines 0 records))
    anchor :=
      if records = [] then none
      else some (files.anchor.getD [] ++ (anchorText (anchorOf (chained 0 records)) ++ [10]))
    temporary := none }

/-- The records that can be written again: canonical and in the order of their LSNs. -/
structure Rewritable (records : List DurableAuditReplayRecord) : Prop where
  canonical : ∀ record ∈ records, Canonical record
  positive : ∀ record ∈ records, 0 < record.lsn
  ordered : records.Pairwise fun a b => a.lsn < b.lsn

variable {records : List DurableAuditReplayRecord} {files : JournalFiles}

theorem Rewritable.accepts (h : Rewritable records)
    (htext : AnchorReadable (files.anchor.getD [])) :
    Accepts (unlines (chainedLines 0 records)) (files.compacted records).anchor
      (chained 0 records) := by
  by_cases hnil : records = []
  · subst hnil
    exact accepts_nil
  · rw [JournalFiles.compacted, if_neg hnil]
    exact accepts_chained hnil h.canonical h.positive h.ordered htext

theorem anchorOf_chained {first last : DurableAuditReplayRecord}
    (hfirst : records.head? = some first) (hlast : records.getLast? = some last) :
    anchorOf (chained 0 records) =
      { firstRecordLsn := first.lsn
        lastRecordLsn := last.lsn
        recordCount := records.length
        tailChainChecksum := tailChain 0 (chained 0 records) } := by
  have hrecords := map_record_chained 0 records
  have hlength : (chained 0 records).length = records.length := by
    rw [← length_map (f := DurableAuditJournalRecord.record), hrecords]
  have hhead : (chained 0 records).head?.map (fun entry => entry.record.lsn) = some first.lsn := by
    have hmap : (chained 0 records).head?.map (fun entry => entry.record.lsn) =
        ((chained 0 records).map (·.record)).head?.map lsn := by
      rw [List.head?_map, Option.map_map]
      rfl
    rw [hmap, hrecords, hfirst]
    rfl
  have htail : tailLsn 0 (chained 0 records) = last.lsn := by
    rw [tailLsn_eq_lastLsn, hrecords, lastLsn, hlast]
    rfl
  rw [anchorOf, hhead, htail, hlength]
  rfl

theorem rewriteCompactedJournal_returns (h : Rewritable records)
    (htext : AnchorReadable (files.anchor.getD [])) :
    (rewriteCompactedJournal records).Returns files (.ok ()) (files.compacted records) := by
  have hwrite := @writeRetained_returns 0 records h.canonical files []
  have haccepts := h.accepts htext
  rw [rewriteCompactedJournal]
  refine (returns_operate _ files).bind ((returns_operate _ _).bind (hwrite.bind
    ((returns_operate publishCompactedJournal _).bind ?_)))
  cases records with
  | nil => exact (returns_operate removeJournalChainAnchor _).bind (returns_operate _ _)
  | cons first rest =>
    have hlast := List.getLast?_eq_some_getLast (cons_ne_nil first rest)
    have hanchor := anchorOf_chained (List.head?_cons) hlast
    have hshape := validateAnchorShape_anchorOf haccepts.reads
      (show chained 0 (first :: rest) ≠ [] from cons_ne_nil _ _)
    rw [hanchor] at hshape
    have hanchored := writeJournalChainAnchor_returns hshape none .retentionRejected
      (publishCompactedJournal
        (files.withTemporary (some ([] ++ unlines (chainedLines 0 (first :: rest))))))
    rw [hlast, JournalFiles.compacted, if_neg (cons_ne_nil first rest), hanchor]
    exact hanchored.bind (returns_operate _ _)

theorem rewriteCompactedJournal_fails (hnot : ∃ record ∈ records, ¬ Canonical record)
    (files : JournalFiles) :
    ∃ failure text, (rewriteCompactedJournal records).Returns files (.error failure)
      (files.withTemporary text) := by
  obtain ⟨failure, text, hwrite⟩ := @writeRetained_fails 0 records hnot files (some [])
  refine ⟨failure, text, ?_⟩
  rw [rewriteCompactedJournal]
  exact (returns_operate _ files).bind ((returns_operate _ _).bind hwrite.bind_error)

/-! ## The whole call -/

section Compact

variable {files : JournalFiles} {content : Bytes} {parsed : List DurableAuditJournalRecord}
  {policy : DurableAuditRetentionPolicy}
  {archiveProofs : List DurableAuditWalSegmentArchiveProof}
  {retained : List DurableAuditReplayRecord}

section

variable (hretained : retainedBy policy archiveProofs (parsed.map (·.record)) = retained)
include hretained

theorem Accepts.retained_facts (h : Accepts content files.anchor parsed) :
    (∀ record ∈ retained, record.validate = .ok () ∧ 0 < record.lsn) ∧
      retained.Pairwise fun a b => a.lsn < b.lsn := by
  subst hretained
  obtain ⟨hpositive, hordered⟩ := h.reads.ordered
  have hvalid := h.reads.validate
  have hmapped : (parsed.map (·.record)).Pairwise
      fun a b => a.lsn < b.lsn := pairwise_map.mpr hordered
  refine ⟨?_, hmapped.sublist retainedBy_sublist⟩
  intro record hmem
  obtain ⟨entry, hentry, rfl⟩ := mem_map.mp (retainedBy_sublist.subset hmem)
  exact ⟨hvalid entry hentry, hpositive entry hentry⟩

theorem Accepts.rewritable (h : Accepts content files.anchor parsed)
    (hcanonical : ∀ record ∈ retained, Canonical record) : Rewritable retained := by
  obtain ⟨hfacts, hordered⟩ := h.retained_facts hretained
  exact ⟨hcanonical, fun record hmem => (hfacts record hmem).2, hordered⟩

theorem Holds.compacted (h : Holds files parsed) (hcanonical : ∀ record ∈ retained, Canonical record) :
    Holds ((files.compacted retained).withLock none) (chained 0 retained) := by
  obtain ⟨content, -, haccepts⟩ := h.accepted
  have hrewritable := haccepts.rewritable hretained hcanonical
  exact ⟨⟨_, rfl, hrewritable.accepts haccepts.anchored.readable⟩, rfl⟩

end

variable (hpolicy : policy.validate = .ok ())
  (hproofs : ∀ proof ∈ archiveProofs, proof.validate = .ok ())
include hpolicy hproofs

theorem compactRecords_unfold
    {result : DurableAuditSinkResult DurableAuditCompactionReport} {files' : JournalFiles}
    (h : (withMutationLock .retentionRejected none (compactLocked policy archiveProofs)).Returns
      files result files') :
    (compactRecordsWithArchiveProofs policy archiveProofs).Returns files result files' := by
  have hchecks : forM archiveProofs (fun proof =>
      orSinkFailure proof.validate .retentionRejected none) = .ok () := by
    rw [forM_eq_ok]
    intro proof hmem
    rw [hproofs proof hmem]
    rfl
  rw [compactRecordsWithArchiveProofs, hpolicy, hchecks]
  exact (returns_lift (.ok ()) files).bind ((returns_lift (.ok ()) files).bind h)

variable (hretained : retainedBy policy archiveProofs (parsed.map (·.record)) = retained)
include hretained

theorem compactLocked_prepares (hjournal : files.journal = some content)
    (haccepts : Accepts content files.anchor parsed) :
    ∃ report : DurableAuditCompactionReport, ∀ {result files'}, (do
        rewriteCompactedJournal retained
        let files ← Traced.get
        let _ ← Traced.lift (replayDurableAuditJournal files DurableAuditReplayQuery.all)
        pure report : JournalOp DurableAuditCompactionReport).Returns files result files' →
      (compactLocked policy archiveProofs).Returns files result files' := by
  have hreplay := (replay_eq_ok_iff hjournal).mpr ⟨parsed, haccepts, rfl⟩
  have hvalid : ∀ record ∈ parsed.map (·.record),
      record.validate = .ok () := by
    intro record hmem
    obtain ⟨entry, hentry, rfl⟩ := mem_map.mp hmem
    exact haccepts.reads.validate entry hentry
  have hkept := @retainRecords_of_valid policy archiveProofs _
    ((parsed.map (·.record)).getLast?.map lsn) hpolicy hproofs hvalid
  obtain ⟨hfacts, hordered⟩ := haccepts.retained_facts hretained
  have hlength : retained.length ≤ (parsed.map (·.record)).length := by
    rw [← hretained]
    exact retainedBy_sublist.length_le
  have hevidence : ∃ total, retainedEvidence 0 0 retained = .ok total :=
    retainedEvidence_of_ordered (fun record hmem => (hfacts record hmem).1)
      (fun record hmem => (hfacts record hmem).2) hordered
  obtain ⟨total, htotal⟩ := hevidence
  have hreport : ∃ report, fromRecords (parsed.map (·.record)).length retained = .ok report := by
    simp only [fromRecords, ok_iff, Nat.not_lt]
    exact ⟨_, hlength, total, htotal, rfl⟩
  obtain ⟨report, hreport⟩ := hreport
  refine ⟨report, fun hrest => ?_⟩
  rw [compactLocked]
  refine (returns_get files).bind ?_
  rw [hreplay]
  refine (returns_lift (.ok _) files).bind ?_
  rw [hpolicy]
  refine (returns_lift (.ok ()) files).bind ?_
  rw [hkept]
  refine (returns_lift (.ok _) files).bind ?_
  rw [show keptRecords policy archiveProofs _ _ = retained from hretained, hreport]
  exact (returns_lift (.ok report) files).bind hrest

theorem compactRecords_returns (h : Holds files parsed)
    (hcanonical : ∀ record ∈ retained, Canonical record) :
    ∃ report, (compactRecordsWithArchiveProofs policy archiveProofs).Returns files (.ok report)
      ((files.compacted retained).withLock none) := by
  obtain ⟨content, hjournal, haccepts⟩ := h.accepted
  have hrewritable := haccepts.rewritable hretained hcanonical
  have hreadable := haccepts.anchored.readable
  let locked := files.withLock (some mutationLockText)
  have hlocked : locked.journal = some content := hjournal
  obtain ⟨report, hprepares⟩ := compactLocked_prepares hpolicy hproofs hretained hlocked haccepts
  have hreplay : replayDurableAuditJournal (locked.compacted retained)
      DurableAuditReplayQuery.all = .ok _ :=
    (replay_eq_ok_iff rfl).mpr ⟨_, hrewritable.accepts hreadable, rfl⟩
  have hbody : (compactLocked policy archiveProofs).Returns locked (.ok report)
      (locked.compacted retained) := by
    refine hprepares (Returns.bind (@rewriteCompactedJournal_returns _ locked hrewritable hreadable)
      ((returns_get _).bind ?_))
    rw [hreplay]
    exact (returns_lift (.ok _) _).bind (returns_pure report _)
  exact ⟨report, compactRecords_unfold hpolicy hproofs
    (withMutationLock_returns h.unlocked hbody rfl)⟩

theorem compactRecords_fails (h : Holds files parsed)
    (hnot : ∃ record ∈ retained, ¬ Canonical record) :
    ∃ failure text, (compactRecordsWithArchiveProofs policy archiveProofs).Returns files
      (.error failure) ((files.withTemporary text).withLock none) := by
  obtain ⟨content, hjournal, haccepts⟩ := h.accepted
  have hlocked : (files.withLock (some mutationLockText)).journal = some content := hjournal
  obtain ⟨report, hprepares⟩ := compactLocked_prepares hpolicy hproofs hretained hlocked haccepts
  obtain ⟨failure, text, hrewrite⟩ :=
    rewriteCompactedJournal_fails hnot (files.withLock (some mutationLockText))
  exact ⟨failure, text, compactRecords_unfold hpolicy hproofs
    (withMutationLock_returns h.unlocked (hprepares hrewrite.bind_error) rfl)⟩

end Compact

end Andromeda.Audit
