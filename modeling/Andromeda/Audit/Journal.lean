import Andromeda.Audit.JournalScan
import Andromeda.Lib.Traced

/-!
# Operations of the durable audit journal

Open, append and compaction as procedures over the four files. Each file operation is one step
of the trail: creating a file and writing to it are two steps, a rename is one. Flushes leave
the contents as they are and are no step of their own. Errors of the file system itself are not
modelled; a lock file that exists and a journal that does not are ordinary states.
-/

namespace Andromeda.Audit

open Fallible Traced DurableAuditReplayQuery
open Catalog (strBytes)

abbrev JournalOp (α : Type) := Traced JournalFiles DurableAuditSinkFailure α

def mutationLockText : Bytes := strBytes "andromeda-durable-audit-mutation-lock-v1\n"

def JournalFiles.withLock (files : JournalFiles) (lock : Option Bytes) : JournalFiles :=
  { files with lock }

/-- `acquire_mutation_lock`: `create_new` refuses a lock file that exists. -/
def acquireMutationLock (kind : DurableAuditFailureKind)
    (identity : Option DurableAuditRecordIdentity) : JournalOp Unit := do
  let files ← get
  lift (failIf (files.lock.isSome = true)
    (sinkFailure kind identity "durable audit journal mutation lock is already held"))
  operate fun files => files.withLock (some [])
  operate fun files => files.withLock (some mutationLockText)

/-- A procedure under the lock, which is dropped however the procedure ends. -/
def withMutationLock {α : Type} (kind : DurableAuditFailureKind)
    (identity : Option DurableAuditRecordIdentity) (body : JournalOp α) : JournalOp α := do
  acquireMutationLock kind identity
  ensuring body fun files => files.withLock none

/-- `OpenOptions::new().create(true).append(true).open(path)` of the journal. -/
def createJournal (files : JournalFiles) : JournalFiles :=
  { files with journal := some (files.journal.getD []) }

def appendToJournal (text : Bytes) (files : JournalFiles) : JournalFiles :=
  { files with journal := some (files.journal.getD [] ++ text) }

def createAnchor (files : JournalFiles) : JournalFiles :=
  { files with anchor := some (files.anchor.getD []) }

def appendToAnchor (text : Bytes) (files : JournalFiles) : JournalFiles :=
  { files with anchor := some (files.anchor.getD [] ++ text) }

def writeJournalLine (text : Bytes) : JournalOp Unit := do
  operate createJournal
  operate (appendToJournal text)

def writeJournalChainAnchor (identity : Option DurableAuditRecordIdentity)
    (kind : DurableAuditFailureKind) (anchor : DurableAuditJournalAnchor) : JournalOp Unit := do
  lift ((validateAnchorShape anchor).mapError (sinkFailure kind identity))
  operate createAnchor
  operate (appendToAnchor (anchorText anchor ++ [10]))

def openSink : JournalOp Unit := do
  operate createJournal
  let files ← get
  let _ ← lift (replayDurableAuditJournal files all)
  pure ()

section

variable (record : DurableAuditAppendRecord)

def replayRecordAt (recordLsn checksum : UInt64) : DurableAuditReplayRecord where
  report :=
    { identity := record.identity
      evidence := ⟨recordLsn, recordLsn, checksum⟩
      replayBehavior := record.replayBehavior
      retention := record.retention }
  principalBinding := record.principalBinding
  eventKind := record.eventKind

def replayRecordFromPending (recordLsn : UInt64) :
    DurableAuditSinkResult DurableAuditReplayRecord := do
  let identity := some record.identity
  let payload ← orSinkFailure (journalPayload (replayRecordAt record recordLsn 1))
    .validationRejected identity
  let replayRecord := replayRecordAt record recordLsn (checksum64 payload)
  orSinkFailure replayRecord.validate .validationRejected identity
  pure replayRecord

def appendLocked : JournalOp DurableAuditSinkReport := do
  let identity := some record.identity
  let files ← get
  let anchor ← lift (nextRecordAnchor files identity)
  let replayRecord ← lift (replayRecordFromPending record anchor.recordLsn)
  let line ← lift (orSinkFailure (journalLine replayRecord anchor.previousChainChecksum)
    .validationRejected identity)
  lift (failIf (2 ^ 64 ≤ anchor.priorRecordCount + 1) (sinkFailure .walAppendRejected identity
    "durable audit journal record count exhausted before append"))
  writeJournalLine line.text
  writeJournalChainAnchor identity .walFlushRejected
    { firstRecordLsn := anchor.firstRecordLsn
      lastRecordLsn := anchor.recordLsn
      recordCount := anchor.priorRecordCount + 1
      tailChainChecksum := line.chainChecksum }
  pure replayRecord.report

def appendRecord : JournalOp DurableAuditSinkReport := do
  let identity := some record.identity
  lift (orSinkFailure record.validate .validationRejected identity)
  withMutationLock .walAppendRejected identity (appendLocked record)

end

def archiveProofForRecord (record : DurableAuditReplayRecord)
    (archiveProofs : List DurableAuditWalSegmentArchiveProof) :
    Option DurableAuditWalSegmentArchiveProof :=
  (archiveProofs.find? fun proof =>
      proof.covers record.report.evidence && proof.checksum == record.report.evidence.checksum).or
    (archiveProofs.find? fun proof => proof.covers record.report.evidence)

def retainRecordAfterPruneEvaluation (policy : DurableAuditRetentionPolicy)
    (archiveProofs : List DurableAuditWalSegmentArchiveProof) (record : DurableAuditReplayRecord) :
    DurableAuditSinkResult (Option DurableAuditReplayRecord) := do
  let evidence ← orSinkFailure
    (policy.evaluatePrune record (archiveProofForRecord record archiveProofs))
    .retentionRejected (some record.report.identity)
  pure (if evidence.pruneAllowed then none else some record)

def retainRecords (policy : DurableAuditRetentionPolicy)
    (archiveProofs : List DurableAuditWalSegmentArchiveProof) (highWaterRecordLsn : Option UInt64) :
    List DurableAuditReplayRecord → DurableAuditSinkResult (List DurableAuditReplayRecord)
  | [] => pure []
  | record :: records => do
    let kept ←
      if some record.lsn = highWaterRecordLsn then pure (some record)
      else retainRecordAfterPruneEvaluation policy archiveProofs record
    let rest ← retainRecords policy archiveProofs highWaterRecordLsn records
    pure (kept.toList ++ rest)

def JournalFiles.withTemporary (files : JournalFiles) (temporary : Option Bytes) : JournalFiles :=
  { files with temporary }

/-- The loop of `rewrite_compacted_journal`; it returns the checksum at the end of the chain. -/
def writeRetained : UInt64 → List DurableAuditReplayRecord → JournalOp UInt64
  | previousChainChecksum, [] => pure previousChainChecksum
  | previousChainChecksum, record :: records => do
    let line ← lift (orSinkFailure (journalLine record previousChainChecksum)
      .retentionRejected (some record.report.identity))
    operate fun files => files.withTemporary (some (files.temporary.getD [] ++ line.text))
    writeRetained line.chainChecksum records

def publishCompactedJournal (files : JournalFiles) : JournalFiles :=
  { files with journal := files.temporary, temporary := none }

def removeJournalChainAnchor (files : JournalFiles) : JournalFiles := { files with anchor := none }

def rewriteCompactedJournal (retained : List DurableAuditReplayRecord) : JournalOp Unit := do
  operate fun files => files.withTemporary none
  operate fun files => files.withTemporary (some [])
  let tailChainChecksum ← writeRetained 0 retained
  operate publishCompactedJournal
  match retained.head?, retained.getLast? with
  | some first, some last =>
    writeJournalChainAnchor none .retentionRejected
      { firstRecordLsn := first.lsn
        lastRecordLsn := last.lsn
        recordCount := retained.length
        tailChainChecksum }
  | _, _ => operate removeJournalChainAnchor
  operate fun files => files.withTemporary none

section

variable (policy : DurableAuditRetentionPolicy)
  (archiveProofs : List DurableAuditWalSegmentArchiveProof)

def compactLocked : JournalOp DurableAuditCompactionReport := do
  let files ← get
  let records ← lift (replayDurableAuditJournal files all)
  lift (orSinkFailure policy.validate .retentionRejected none)
  let retained ← lift (retainRecords policy archiveProofs
    (records.getLast?.map DurableAuditReplayRecord.lsn) records)
  let report ← lift (orSinkFailure
    (DurableAuditCompactionReport.fromRecords records.length retained) .retentionRejected none)
  rewriteCompactedJournal retained
  let files ← get
  let _ ← lift (replayDurableAuditJournal files all)
  pure report

def compactRecordsWithArchiveProofs : JournalOp DurableAuditCompactionReport := do
  lift (orSinkFailure policy.validate .retentionRejected none)
  lift (forM archiveProofs fun proof => orSinkFailure proof.validate .retentionRejected none)
  withMutationLock .retentionRejected none (compactLocked policy archiveProofs)

def compactRecords : JournalOp DurableAuditCompactionReport :=
  compactRecordsWithArchiveProofs policy []

end

end Andromeda.Audit
