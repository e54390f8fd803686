import Andromeda.Audit.JournalWrites

/-!
# What a call on the journal does

`Holds` is the state between calls: the scan accepts the journal and no lock is left. On such a
state an append of a valid record adds its entry, and a compaction replaces the entries by the
retained ones if those can be written again; otherwise the journal stays as it is.
-/

namespace Andromeda.Audit

open Fallible AsciiText Traced List DurableAuditReplayQuery
open Catalog (strBytes)

structure Holds (files : JournalFiles) (parsed : List DurableAuditJournalRecord) : Prop where
  accepted : ∃ content, files.journal = some content ∧ Accepts content files.anchor parsed
  unlocked : files.lock = none

variable {files : JournalFiles} {parsed : List DurableAuditJournalRecord}
  {record : DurableAuditAppendRecord}

theorem Holds.replay (h : Holds files parsed) : replayDurableAuditJournal files all =
      .ok (parsed.map (·.record)) := by
  obtain ⟨content, hjournal, haccepts⟩ := h.accepted
  exact (replay_eq_ok_iff hjournal).mpr ⟨parsed, haccepts, rfl⟩

variable {content : Bytes} {lsn recordLsn : UInt64} {kind : DurableAuditFailureKind}
  {identity : Option DurableAuditRecordIdentity}

theorem openSink_returns (hjournal : files.journal.getD [] = content)
    (haccepts : Accepts content files.anchor parsed) :
    openSink.Returns files (.ok ()) (createJournal files) := by
  have hcreated : (createJournal files).journal = some content := congrArg some hjournal
  have hreplay := (replay_eq_ok_iff hcreated).mpr ⟨parsed, haccepts, rfl⟩
  refine (returns_operate createJournal files).bind ((returns_get _).bind ?_)
  rw [hreplay]
  exact (returns_lift _ _).bind (returns_pure () _)

/-! ## The next LSN -/

theorem saturatingSucc_toNat (h : lsn ≠ 0xffffffffffffffff) :
    (saturatingSucc lsn).toNat = lsn.toNat + 1 := by
  have hne : lsn.toNat ≠ 2 ^ 64 - 1 := fun heq => h (UInt64.toNat_inj.mp heq)
  have hlt := lsn.toNat_lt
  rw [saturatingSucc, if_neg h, UInt64.toNat_add]
  exact Nat.mod_eq_of_lt (by change lsn.toNat + 1 < 2 ^ 64; omega)

theorem lt_saturatingSucc (h : lsn ≠ 0xffffffffffffffff) : lsn < saturatingSucc lsn := by
  rw [UInt64.lt_iff_toNat_lt, saturatingSucc_toNat h]
  omega

theorem saturatingSucc_ne_zero (lsn : UInt64) : saturatingSucc lsn ≠ 0 := by
  by_cases h : lsn = 0xffffffffffffffff
  · rw [saturatingSucc, if_pos h, h]
    decide
  · exact UInt64.pos_iff_ne_zero.mp (UInt64.lt_of_le_of_lt UInt64.zero_le (lt_saturatingSucc h))

theorem Accepts.content_eq_nil_iff {anchor : Option Bytes} (h : Accepts content anchor parsed) :
    content = [] ↔ parsed = [] := by
  constructor
  · rintro rfl
    cases h.reads
    rfl
  · rintro rfl
    obtain ⟨rows, hrows, rfl⟩ := exists_unlines h.delimited
    have hreads := h.reads
    rw [lines_unlines_strip hrows] at hreads
    cases rows with
    | nil => rfl
    | cons row rows => cases hreads

def nextAnchor (parsed : List DurableAuditJournalRecord) : DurableAuditJournalAppendAnchor where
  recordLsn := saturatingSucc (tailLsn 0 parsed)
  previousChainChecksum := tailChain 0 parsed
  firstRecordLsn :=
    (parsed.head?.map fun entry => entry.record.lsn).getD (saturatingSucc (tailLsn 0 parsed))
  priorRecordCount := parsed.length

theorem nextRecordAnchor_of_accepts (hjournal : files.journal = some content)
    (haccepts : Accepts content files.anchor parsed)
    (identity : Option DurableAuditRecordIdentity) :
    nextRecordAnchor files identity = .ok (nextAnchor parsed) := by
  rw [nextRecordAnchor, hjournal, orError_some, ok_bind]
  by_cases hnil : content = []
  · have hparsed := haccepts.content_eq_nil_iff.mp hnil
    subst hparsed
    have hanchor : files.anchor = none := by
      have hanchored := haccepts.anchored
      cases htext : files.anchor with
      | none => rfl
      | some text =>
        rw [htext] at hanchored
        exact absurd rfl hanchored.1
    rw [if_pos hnil, hanchor]
    rfl
  · have hparsed : parsed ≠ [] := fun h => hnil (haccepts.content_eq_nil_iff.mpr h)
    have hscan := (scan_eq_ok_iff hjournal
      (show all.validate = .ok () from rfl)
      (show DurableAuditReplayWindow.all.validate = .ok () from rfl)).mpr ⟨parsed, haccepts, rfl⟩
    obtain ⟨hscanned, hfirst, -, hchain⟩ := scanOf_fields all
      DurableAuditReplayWindow.all files.anchor.isSome parsed
    have hlast := List.getLast?_eq_some_getLast hparsed
    have hhead := List.head?_eq_some_head hparsed
    rw [if_neg hnil, hscan, ok_bind, orError_eq_ok, scanOf_all_records haccepts, hscanned, hfirst,
      hchain, List.getLast?_map, hlast, nextAnchor, tailLsn, hlast, hhead]
    rfl

def appendedRecord (record : DurableAuditAppendRecord) (recordLsn : UInt64) :
    DurableAuditReplayRecord :=
  replayRecordAt record recordLsn (checksum64 (payloadText (replayRecordAt record recordLsn 1)))

@[simp] theorem appendedRecord_lsn (record : DurableAuditAppendRecord) (recordLsn : UInt64) :
    (appendedRecord record recordLsn).lsn = recordLsn := rfl

section

variable (hvalid : record.validate = .ok ()) (hlsn : recordLsn ≠ 0)
include hvalid hlsn

theorem replayRecordAt_validate {checksum : UInt64} (hchecksum : checksum ≠ 0) :
    (replayRecordAt record recordLsn checksum).validate = .ok () := by
  simp only [DurableAuditAppendRecord.validate, validateCompletePermissionBinding,
    validatePermissionedCriticalPolicyBinding, ok_iff] at hvalid
  obtain ⟨hidentity, hbinding, hblank, hsensitive, hcomplete, hpolicy, hversion⟩ := hvalid
  have hdurable : (⟨recordLsn, recordLsn, checksum⟩ : DurableAuditWalEvidence).ProvesDurable :=
    ⟨hlsn, UInt64.le_refl _, hchecksum⟩
  have hsecurity : ¬ (record.identity.family = .securityDecision ∧
      record.principalBinding.policyVersion.isNone = true) := by
    rintro ⟨hfamily, hnone⟩
    exact hpolicy ⟨by rw [hfamily]; rfl, hnone⟩
  simp only [DurableAuditReplayRecord.validate, DurableAuditSinkReport.validate, validateCompletePermissionBinding, validatePermissionedCriticalPolicyBinding, ok_iff]
  exact ⟨⟨hidentity, hdurable⟩, hbinding, hblank, hsensitive, hcomplete, hsecurity, hpolicy,
    hversion⟩

theorem canonical_appendedRecord :
    Canonical (appendedRecord record recordLsn) where
  valid := replayRecordAt_validate hvalid hlsn (checksum64_ne_zero _)
  checksum := rfl

theorem replayRecordFromPending_of_valid :
    replayRecordFromPending record recordLsn = .ok (appendedRecord record recordLsn) := by
  have hpending : journalPayload (replayRecordAt record recordLsn 1) =
      .ok (payloadText (replayRecordAt record recordLsn 1)) := by
    rw [journalPayload, replayRecordAt_validate hvalid hlsn (by decide)]
    rfl
  have hfinal := (canonical_appendedRecord hvalid hlsn).valid
  rw [appendedRecord] at hfinal
  rw [replayRecordFromPending, hpending]
  simp only [orSinkFailure, Except.mapError, ok_bind, hfinal]
  rfl

end

def appendedEntry (record : DurableAuditAppendRecord) (parsed : List DurableAuditJournalRecord) :
    DurableAuditJournalRecord :=
  let appended := appendedRecord record (saturatingSucc (tailLsn 0 parsed))
  ⟨appended, chainLink (tailChain 0 parsed) (payloadText appended)⟩

def JournalFiles.withEntry (files : JournalFiles) (record : DurableAuditAppendRecord)
    (parsed : List DurableAuditJournalRecord) : JournalFiles :=
  { files with
    journal := some (files.journal.getD [] ++
      (recordLine (tailChain 0 parsed) (appendedEntry record parsed).record ++ [10]))
    anchor := some (files.anchor.getD [] ++
      (anchorText (anchorOf (parsed ++ [appendedEntry record parsed])) ++ [10])) }

theorem writeJournalChainAnchor_returns {anchor : DurableAuditJournalAnchor}
    (hshape : validateAnchorShape anchor = .ok ()) (identity : Option DurableAuditRecordIdentity)
    (kind : DurableAuditFailureKind) (files : JournalFiles) :
    (writeJournalChainAnchor identity kind anchor).Returns files (.ok ())
      { files with anchor := some (files.anchor.getD [] ++ (anchorText anchor ++ [10])) } := by
  rw [writeJournalChainAnchor, hshape]
  exact (returns_lift (.ok ()) files).bind ((returns_operate createAnchor files).bind
    (returns_operate (appendToAnchor (anchorText anchor ++ [10])) (createAnchor files)))

section Append

variable {files : JournalFiles} {parsed : List DurableAuditJournalRecord}
  {record : DurableAuditAppendRecord}
  {content : Bytes}

theorem Accepts.append_entry (haccepts : Accepts content files.anchor parsed)
    (hvalid : record.validate = .ok ()) (hroom : tailLsn 0 parsed ≠ 0xffffffffffffffff) : Accepts
      (content ++ (recordLine (tailChain 0 parsed) (appendedEntry record parsed).record ++ [10]))
      (some (files.anchor.getD [] ++
        (anchorText (anchorOf (parsed ++ [appendedEntry record parsed])) ++ [10])))
      (parsed ++ [appendedEntry record parsed]) := by
  have hcanonical := canonical_appendedRecord hvalid (saturatingSucc_ne_zero (tailLsn 0 parsed))
  exact haccepts.append hcanonical (lt_saturatingSucc hroom)

section

variable (hjournal : files.journal = some content) (haccepts : Accepts content files.anchor parsed)
  (hvalid : record.validate = .ok ())
include hjournal haccepts hvalid

theorem appendLocked_prepares
    {result : DurableAuditSinkResult DurableAuditSinkReport} {files' : JournalFiles} (hrest : (do
      Traced.lift (failIf (2 ^ 64 ≤ parsed.length + 1) (sinkFailure .walAppendRejected
        (some record.identity) "durable audit journal record count exhausted before append"))
      writeJournalLine
        (recordLine (tailChain 0 parsed) (appendedEntry record parsed).record ++ [10])
      writeJournalChainAnchor (some record.identity) .walFlushRejected
        { firstRecordLsn := (nextAnchor parsed).firstRecordLsn
          lastRecordLsn := (nextAnchor parsed).recordLsn
          recordCount := (nextAnchor parsed).priorRecordCount + 1
          tailChainChecksum := (appendedEntry record parsed).chainChecksum }
      pure (appendedEntry record parsed).record.report : JournalOp DurableAuditSinkReport).Returns
        files result files') : (appendLocked record).Returns files result files' := by
  have hne := saturatingSucc_ne_zero (tailLsn 0 parsed)
  have hanchor := nextRecordAnchor_of_accepts hjournal haccepts (some record.identity)
  have hpending := replayRecordFromPending_of_valid hvalid hne
  have hline := journalLine_of_canonical (canonical_appendedRecord hvalid hne) (tailChain 0 parsed)
  rw [appendLocked]
  refine (returns_get files).bind ?_
  rw [hanchor]
  refine (returns_lift (.ok (nextAnchor parsed)) files).bind ?_
  rw [show (nextAnchor parsed).recordLsn = saturatingSucc (tailLsn 0 parsed) from rfl, hpending]
  refine (returns_lift (.ok _) files).bind ?_
  rw [show (nextAnchor parsed).previousChainChecksum = tailChain 0 parsed from rfl, hline]
  exact (returns_lift (.ok _) files).bind hrest

theorem appendLocked_returns (hroom : tailLsn 0 parsed ≠ 0xffffffffffffffff) :
    (appendLocked record).Returns files (.ok (appendedEntry record parsed).record.report)
      (files.withEntry record parsed) := by
  have hcount : ¬ 2 ^ 64 ≤ parsed.length + 1 := by
    have hlength := haccepts.reads.length_le
    have hsucc := saturatingSucc_toNat hroom
    have hlt := (saturatingSucc (tailLsn 0 parsed)).toNat_lt
    change 0 + parsed.length ≤ (tailLsn 0 parsed).toNat at hlength
    omega
  have hshape := validateAnchorShape_anchorOf (haccepts.append_entry hvalid hroom).reads
    (append_ne_nil_of_right_ne_nil parsed (cons_ne_nil _ _))
  have hanchorOf : anchorOf (parsed ++ [appendedEntry record parsed]) =
      { firstRecordLsn := (nextAnchor parsed).firstRecordLsn
        lastRecordLsn := (nextAnchor parsed).recordLsn
        recordCount := (nextAnchor parsed).priorRecordCount + 1
        tailChainChecksum := chainLink (tailChain 0 parsed)
          (payloadText (appendedRecord record (saturatingSucc (tailLsn 0 parsed)))) } := by
    rw [anchorOf, tailLsn, tailChain, List.getLast?_concat, length_append]
    cases parsed <;> rfl
  rw [hanchorOf] at hshape
  have hwrite := writeJournalChainAnchor_returns hshape (some record.identity) .walFlushRejected
    (appendToJournal (recordLine (tailChain 0 parsed)
        (appendedRecord record (saturatingSucc (tailLsn 0 parsed))) ++ [10])
      (createJournal files))
  rw [JournalFiles.withEntry, hanchorOf]
  apply appendLocked_prepares hjournal haccepts hvalid
  rw [failIf_neg hcount]
  refine (returns_lift (.ok ()) files).bind ?_
  refine ((returns_operate createJournal files).bind (returns_operate _ _)).bind ?_
  exact hwrite.bind (returns_pure _ _)

end

end Append

theorem acquireMutationLock_free (hlock : files.lock = none) :
    acquireMutationLock kind identity files =
      (.ok (), [files.withLock (some []), files.withLock (some mutationLockText)]) := by
  have hfree : ¬ files.lock.isSome = true := by
    rw [hlock]
    exact Bool.false_ne_true
  rw [acquireMutationLock, get_bind, failIf_neg hfree, lift_ok_bind, operate_bind]
  rfl

theorem withMutationLock_returns {α : Type} {body : JournalOp α} {files' files'' : JournalFiles}
    {result : DurableAuditSinkResult α} (hlock : files.lock = none)
    (hbody : body.Returns (files.withLock (some mutationLockText)) result files')
    (hreleased : files'.withLock none = files'') :
    (withMutationLock kind identity body).Returns files result files'' := by
  have hacquire : (acquireMutationLock kind identity).Returns files (.ok ())
      (files.withLock (some mutationLockText)) := by
    rw [Returns, Traced.final, acquireMutationLock_free hlock]
    exact ⟨rfl, rfl⟩
  rw [← hreleased]
  exact hacquire.bind (hbody.ensuring _)

/-- A lock that is left keeps every call out. -/
theorem withMutationLock_held {α : Type} {body : JournalOp α} (hlock : files.lock.isSome = true) :
    withMutationLock kind identity body files =
      (.error (sinkFailure kind identity "durable audit journal mutation lock is already held"),
        []) := by
  refine bind_of_error ?_
  rw [acquireMutationLock, get_bind, failIf_pos hlock]
  exact lift_error_bind _ _ _

section Append

variable {files : JournalFiles} {parsed : List DurableAuditJournalRecord}
  {record : DurableAuditAppendRecord}

section

variable (h : Holds files parsed) (hvalid : record.validate = .ok ())
include h hvalid

theorem appendRecord_returns (hroom : tailLsn 0 parsed ≠ 0xffffffffffffffff) :
    (appendRecord record).Returns files (.ok (appendedEntry record parsed).record.report)
      ((files.withEntry record parsed).withLock none) := by
  obtain ⟨content, hjournal, haccepts⟩ := h.accepted
  have hbody : (appendLocked record).Returns (files.withLock (some mutationLockText))
      (.ok (appendedEntry record parsed).record.report)
      ((files.withLock (some mutationLockText)).withEntry record parsed) :=
    appendLocked_returns hjournal haccepts hvalid hroom
  rw [appendRecord, hvalid]
  exact (returns_lift (.ok ()) files).bind (withMutationLock_returns h.unlocked hbody rfl)

theorem Holds.append (hroom : tailLsn 0 parsed ≠ 0xffffffffffffffff) :
    Holds ((files.withEntry record parsed).withLock none)
      (parsed ++ [appendedEntry record parsed]) := by
  obtain ⟨content, hjournal, haccepts⟩ := h.accepted
  refine ⟨⟨_, ?_, haccepts.append_entry hvalid hroom⟩, rfl⟩
  change some (files.journal.getD [] ++ _) = _
  rw [hjournal]
  rfl

theorem appendRecord_exhausted (hfull : 2 ^ 64 ≤ parsed.length + 1) :
    ∃ failure, (appendRecord record).Returns files (.error failure) files := by
  obtain ⟨content, hjournal, haccepts⟩ := h.accepted
  have hlocked : (files.withLock (some mutationLockText)).journal = some content := hjournal
  have hunlocked : (files.withLock (some mutationLockText)).withLock none = files := by
    rw [← show files.withLock files.lock = files from rfl, h.unlocked]
    rfl
  refine ⟨sinkFailure .walAppendRejected (some record.identity)
    "durable audit journal record count exhausted before append", ?_⟩
  rw [appendRecord, hvalid]
  refine (returns_lift (.ok ()) files).bind (withMutationLock_returns h.unlocked ?_ hunlocked)
  apply appendLocked_prepares hlocked haccepts hvalid
  rw [failIf_pos hfull]
  exact (returns_lift (.error _) _).bind_error

end

end Append

def keptRecords (policy : DurableAuditRetentionPolicy)
    (archiveProofs : List DurableAuditWalSegmentArchiveProof) (highWaterRecordLsn : Option UInt64)
    (records : List DurableAuditReplayRecord) : List DurableAuditReplayRecord :=
  records.filter fun record =>
    some record.lsn = highWaterRecordLsn ∨
      (policy.block record (archiveProofForRecord record archiveProofs)).isSome = true

section Retention

variable {policy : DurableAuditRetentionPolicy}
  {archiveProofs : List DurableAuditWalSegmentArchiveProof}
  {record : DurableAuditReplayRecord}

theorem retainRecordAfterPruneEvaluation_of_valid (hpolicy : policy.validate = .ok ())
    (hproofs : ∀ proof ∈ archiveProofs, proof.validate = .ok ())
    (hvalid : record.validate = .ok ()) :
    retainRecordAfterPruneEvaluation policy archiveProofs record =
      .ok (if (policy.block record (archiveProofForRecord record archiveProofs)).isSome = true
        then some record else none) := by
  have hproof : forM (archiveProofForRecord record archiveProofs).toList
      DurableAuditWalSegmentArchiveProof.validate = .ok () := by
    rw [forM_eq_ok]
    intro proof hmem
    rw [Option.mem_toList, archiveProofForRecord, Option.or_eq_some_iff] at hmem
    rcases hmem with hmem | ⟨-, hmem⟩
    · exact hproofs proof (List.mem_of_find?_eq_some hmem)
    · exact hproofs proof (List.mem_of_find?_eq_some hmem)
  rw [retainRecordAfterPruneEvaluation, DurableAuditRetentionPolicy.evaluatePrune, hvalid, hpolicy,
    hproof]
  change Except.ok (if (policy.block record _).isNone = true then none else some record) = _
  cases policy.block record (archiveProofForRecord record archiveProofs) <;> rfl

variable {records : List DurableAuditReplayRecord}

theorem retainRecords_of_valid {highWaterRecordLsn : Option UInt64}
    (hpolicy : policy.validate = .ok ())
    (hproofs : ∀ proof ∈ archiveProofs, proof.validate = .ok ())
    (hvalid : ∀ record ∈ records, record.validate = .ok ()) :
    retainRecords policy archiveProofs highWaterRecordLsn records =
      .ok (keptRecords policy archiveProofs highWaterRecordLsn records) := by
  induction records with
  | nil => rfl
  | cons record records ih =>
    obtain ⟨hhead, hrest⟩ := forall_mem_cons.mp hvalid
    have hstep := retainRecordAfterPruneEvaluation_of_valid hpolicy hproofs hhead
    rw [retainRecords, ih hrest, hstep, keptRecords, keptRecords, filter_cons]
    by_cases hhigh : some record.lsn = highWaterRecordLsn
    · simp only [hhigh, true_or, decide_true, if_true]
      rfl
    · simp only [ok_bind, hhigh, false_or]
      by_cases hblock :
          (policy.block record (archiveProofForRecord record archiveProofs)).isSome = true
      · simp only [hblock, decide_true, if_true]
        rfl
      · simp only [hblock, if_false]
        rfl

theorem retainedEvidence_of_ordered {previousLsn evidence : UInt64}
    (hvalid : ∀ record ∈ records, record.validate = .ok ())
    (habove : ∀ record ∈ records, previousLsn < record.lsn)
    (hordered : records.Pairwise fun a b => a.lsn < b.lsn) :
    ∃ total, retainedEvidence previousLsn evidence records = .ok total := by
  induction records generalizing previousLsn evidence with
  | nil => exact ⟨evidence, rfl⟩
  | cons record records ih =>
    obtain ⟨hhead, hrest⟩ := forall_mem_cons.mp hvalid
    have hlt := habove record mem_cons_self
    obtain ⟨hbelow, hordered'⟩ := pairwise_cons.mp hordered
    have hnext : ∃ total, retainedEvidence record.lsn
        (evidence * 1099511628211 + record.report.evidence.checksum + record.lsn) records =
        .ok total := ih hrest hbelow hordered'
    obtain ⟨total, htotal⟩ := hnext
    refine ⟨total, ?_⟩
    simp only [retainedEvidence, ok_iff, UInt64.not_le]
    exact ⟨hhead, hlt, htotal⟩

end Retention

end Andromeda.Audit
