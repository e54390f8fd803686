import Andromeda.Audit.LineRoundTrip

/-!
# The scan of the durable audit journal

The journal is read line by line, with the chain of checksums and the order of LSNs checked on
the way, and what was read is compared with the last line of the anchor file. `Reads` says what
the loop accepts, `Accepts` what the whole scan accepts; `scan_eq_ok_iff` ties them to the scan.
-/

namespace Andromeda.Audit

open Fallible AsciiText
open Catalog (strBytes)

structure DurableAuditJournalAnchor where
  firstRecordLsn : UInt64
  lastRecordLsn : UInt64
  recordCount : Nat
  tailChainChecksum : UInt64

section

variable (anchor : DurableAuditJournalAnchor)

def validateAnchorShape : Except String Unit := do
  failIf (anchor.firstRecordLsn = 0 ∨ anchor.lastRecordLsn = 0)
    "durable audit chain anchor LSNs must be non-zero"
  failIf (anchor.lastRecordLsn < anchor.firstRecordLsn)
    "durable audit chain anchor LSN range must be ordered"
  failIf (anchor.recordCount = 0) "durable audit chain anchor record count must be non-zero"
  failIf (anchor.tailChainChecksum = 0) "durable audit chain anchor tail checksum must be non-zero"

def journalAnchorTag : Bytes := strBytes "andromeda-durable-audit-chain-v1"

def anchorFields : List Bytes :=
  [journalAnchorTag,
    field "first_record_lsn" (decimal anchor.firstRecordLsn.toNat),
    field "last_record_lsn" (decimal anchor.lastRecordLsn.toNat),
    field "record_count" (decimal anchor.recordCount),
    field "tail_chain_checksum" (hexChecksum anchor.tailChainChecksum)]

def anchorPayload : Bytes :=
  [124].intercalate (anchorFields anchor)

/-- `anchor_line`, without the line feed. -/
def anchorText : Bytes :=
  anchorPayload anchor ++ strBytes "|checksum=" ++ hexChecksum (checksum64 (anchorPayload anchor))

end

def parseAnchorLine (line : Bytes) : Except String DurableAuditJournalAnchor := do
  let (payload, checksumField) ←
    orError (rsplitOnce (strBytes "|checksum=") line) "missing checksum field"
  failIf (payload.any (fun b => 128 ≤ b) = true) "durable audit chain anchor payload must be ASCII"
  let expectedChecksum ← parseHexChecksum checksumField "checksum"
  failIf (checksum64 payload ≠ expectedChecksum) "durable audit chain anchor checksum mismatch"
  let fields := payload.splitOn 124
  failIf (fields.length ≠ 5) "unexpected durable audit chain anchor field count"
  failIf (fields.headD [] ≠ journalAnchorTag)
    "unsupported durable audit chain anchor format version"
  let firstRecordLsn ← parseU64Field (fields.getD 1 []) "first_record_lsn"
  let lastRecordLsn ← parseU64Field (fields.getD 2 []) "last_record_lsn"
  let recordCount ← parseUsizeField (fields.getD 3 []) "record_count"
  let tailChecksumField ← stripField (fields.getD 4 []) "tail_chain_checksum"
  let tailChainChecksum ← parseHexChecksum tailChecksumField "tail_chain_checksum"
  let anchor : DurableAuditJournalAnchor :=
    { firstRecordLsn, lastRecordLsn, recordCount, tailChainChecksum }
  validateAnchorShape anchor
  pure anchor

/-- The loop over the lines of the anchor file, which keeps the last one. -/
def latestAnchor : Option DurableAuditJournalAnchor → Nat → List Bytes →
    DurableAuditSinkResult (Option DurableAuditJournalAnchor)
  | latest, _, [] => pure latest
  | _, lineIndex, line :: rest => do
    let anchor ← (parseAnchorLine line).mapError fun reason =>
      sinkFailure .corruptionDetected none
        ("durable audit chain anchor corruption at record " ++ toString (lineIndex + 1) ++ ": " ++
          reason)
    latestAnchor (some anchor) (lineIndex + 1) rest

def readAnchor (text : Bytes) : DurableAuditSinkResult DurableAuditJournalAnchor := do
  failIf (¬ IsUtf8 text) (sinkFailure .corruptionDetected none
    "failed to read durable audit chain anchor: stream did not contain valid UTF-8")
  failIf (text.getLast? ≠ some 10) (sinkFailure .corruptionDetected none
    "durable audit chain anchor has a truncated tail: last record must be record-delimited")
  let latest ← latestAnchor none 0 (lines text)
  orError latest (sinkFailure .corruptionDetected none
    "durable audit chain anchor must contain at least one record")

/-! ## Files and results -/

/-- The journal, its `.chain`, `.lock` and `.compact.tmp` sidecars. -/
structure JournalFiles where
  journal : Option Bytes
  anchor : Option Bytes
  lock : Option Bytes
  temporary : Option Bytes

structure DurableAuditReplayEvidence where
  recordsScanned : Nat
  recordsMatched : Nat
  recordsReturned : Nat
  filterApplied : Bool
  limit : Nat
  offset : Nat
  truncated : Bool
  firstReturnedLsn : Option UInt64
  lastReturnedLsn : Option UInt64
  chainAnchorPresent : Bool
  firstScannedLsn : Option UInt64
  lastScannedLsn : Option UInt64
  tailChainChecksum : UInt64

def DurableAuditReplayEvidence.empty (query : DurableAuditReplayQuery)
    (window : DurableAuditReplayWindow) : DurableAuditReplayEvidence where
  recordsScanned := 0
  recordsMatched := 0
  recordsReturned := 0
  filterApplied := query.hasFilter
  limit := window.limit
  offset := window.offset
  truncated := false
  firstReturnedLsn := none
  lastReturnedLsn := none
  chainAnchorPresent := false
  firstScannedLsn := none
  lastScannedLsn := none
  tailChainChecksum := 0

structure DurableAuditReplayResult where
  evidence : DurableAuditReplayEvidence
  records : List DurableAuditReplayRecord

structure DurableAuditJournalScan where
  result : DurableAuditReplayResult
  lastChainChecksum : UInt64
  firstRecordLsn : Option UInt64
  lastRecordLsn : Option UInt64

def validateJournalAnchor (anchor : Option Bytes) (scan : DurableAuditJournalScan) :
    DurableAuditSinkResult Unit :=
  let corruption := sinkFailure .corruptionDetected none
  match anchor with
  | none =>
    failIf (scan.result.evidence.recordsScanned ≠ 0) (corruption
      "durable audit chain anchor is required for non-empty durable audit journal")
  | some text => do
    failIf (scan.result.evidence.recordsScanned = 0)
      (corruption "durable audit chain anchor exists for empty durable audit journal")
    failIf (scan.lastChainChecksum = 0) (corruption ("durable audit chain anchor cannot " ++
      "reference the genesis checksum for a non-empty journal"))
    failIf (scan.firstRecordLsn.isNone = true ∨ scan.lastRecordLsn.isNone = true)
      (corruption "durable audit chain anchor requires scanned LSN evidence")
    failIf (scan.result.evidence.tailChainChecksum ≠ scan.lastChainChecksum)
      (corruption "durable audit replay evidence tail checksum mismatch")
    failIf (scan.result.evidence.firstScannedLsn ≠ scan.firstRecordLsn ∨
        scan.result.evidence.lastScannedLsn ≠ scan.lastRecordLsn)
      (corruption "durable audit replay evidence scanned LSN mismatch")
    failIf (scan.result.evidence.chainAnchorPresent = false)
      (corruption "durable audit replay evidence must report the persisted chain anchor")
    let latest ← readAnchor text
    failIf (scan.firstRecordLsn ≠ some latest.firstRecordLsn)
      (corruption "durable audit chain anchor first record LSN mismatch")
    failIf (scan.lastRecordLsn ≠ some latest.lastRecordLsn)
      (corruption "durable audit chain anchor last record LSN mismatch")
    failIf (scan.result.evidence.recordsScanned ≠ latest.recordCount)
      (corruption "durable audit chain anchor record count mismatch")
    failIf (scan.lastChainChecksum ≠ latest.tailChainChecksum)
      (corruption "durable audit chain anchor tail checksum mismatch")

/-- The variables of the loop over the lines. Counters are natural numbers: LSNs increase
strictly, so that no counter reaches the bound at which the source saturates. -/
structure ScanState where
  records : List DurableAuditReplayRecord
  previousLsn : UInt64
  recordsScanned : Nat
  recordsMatched : Nat
  skipped : Nat
  firstReturnedLsn : Option UInt64
  lastReturnedLsn : Option UInt64
  firstScannedLsn : Option UInt64
  lastScannedLsn : Option UInt64
  previousChainChecksum : UInt64

def ScanState.start : ScanState := ⟨[], 0, 0, 0, 0, none, none, none, none, 0⟩

def ScanState.collect (window : DurableAuditReplayWindow) (state : ScanState)
    (record : DurableAuditReplayRecord) : ScanState :=
  let state := { state with recordsMatched := state.recordsMatched + 1 }
  if state.skipped < window.offset then { state with skipped := state.skipped + 1 }
  else if state.records.length < window.limit then
    { state with
      firstReturnedLsn := state.firstReturnedLsn.or (some record.lsn)
      lastReturnedLsn := some record.lsn
      records := state.records ++ [record] }
  else state

/-- What the body of the loop does with a line that passed its checks. -/
def ScanState.absorb (query : DurableAuditReplayQuery) (window : DurableAuditReplayWindow)
    (state : ScanState) (parsed : DurableAuditJournalRecord) : ScanState :=
  let state :=
    { state with
      recordsScanned := state.recordsScanned + 1
      firstScannedLsn := state.firstScannedLsn.or (some parsed.record.lsn)
      previousLsn := parsed.record.lsn
      lastScannedLsn := some parsed.record.lsn
      previousChainChecksum := parsed.chainChecksum }
  if parsed.record.matchesReplayFilter query then state.collect window parsed.record else state

def readLines (query : DurableAuditReplayQuery) (window : DurableAuditReplayWindow) :
    ScanState → Nat → List Bytes → DurableAuditSinkResult ScanState
  | state, _, [] => pure state
  | state, lineIndex, line :: rest => do
    failIf (¬ IsUtf8 line) (sinkFailure .corruptionDetected none
      "failed to read durable audit journal line: stream did not contain valid UTF-8")
    let parsed ← (parseJournalLine line state.previousChainChecksum).mapError fun reason =>
      sinkFailure .corruptionDetected none
        ("durable audit journal corruption at line " ++ toString (lineIndex + 1) ++ ": " ++
          reason)
    failIf (parsed.record.lsn ≤ state.previousLsn)
      (sinkFailure .corruptionDetected (some parsed.record.report.identity)
        "durable audit journal record LSNs must increase strictly")
    readLines query window (state.absorb query window parsed) (lineIndex + 1) rest

def ScanState.toScan (query : DurableAuditReplayQuery) (window : DurableAuditReplayWindow)
    (chainAnchorPresent : Bool) (state : ScanState) : DurableAuditJournalScan where
  result :=
    { evidence :=
        { recordsScanned := state.recordsScanned
          recordsMatched := state.recordsMatched
          recordsReturned := state.records.length
          filterApplied := query.hasFilter
          limit := window.limit
          offset := window.offset
          truncated := decide (state.records.length < state.recordsMatched - window.offset)
          firstReturnedLsn := state.firstReturnedLsn
          lastReturnedLsn := state.lastReturnedLsn
          chainAnchorPresent
          firstScannedLsn := state.firstScannedLsn
          lastScannedLsn := state.lastScannedLsn
          tailChainChecksum := state.previousChainChecksum }
      records := state.records }
  lastChainChecksum := state.previousChainChecksum
  firstRecordLsn := state.firstScannedLsn
  lastRecordLsn := state.lastScannedLsn

def validateJournalTailIsRecordDelimited (content : Bytes) : DurableAuditSinkResult Unit :=
  failIf (content ≠ [] ∧ content.getLast? ≠ some 10) (sinkFailure .corruptionDetected none
    "durable audit journal has a truncated tail: last record must be record-delimited")

section

variable (files : JournalFiles) (query : DurableAuditReplayQuery)

def scanDurableAuditJournal (window : DurableAuditReplayWindow) :
    DurableAuditSinkResult DurableAuditJournalScan := do
  orSinkFailure query.validate .validationRejected none
  orSinkFailure window.validate .validationRejected none
  match files.journal with
  | none => do
    failIf (files.anchor.isSome = true) (sinkFailure .corruptionDetected none
      "durable audit chain anchor exists without durable audit journal")
    pure ⟨⟨DurableAuditReplayEvidence.empty query window, []⟩, 0, none, none⟩
  | some content => do
    validateJournalTailIsRecordDelimited content
    let state ← readLines query window ScanState.start 0 (lines content)
    let scan := state.toScan query window files.anchor.isSome
    validateJournalAnchor files.anchor scan
    pure scan

def replayDurableAuditJournalWithEvidence (window : DurableAuditReplayWindow) :
    DurableAuditSinkResult DurableAuditReplayResult := do
  let scan ← scanDurableAuditJournal files query window
  pure scan.result

def replayDurableAuditJournal : DurableAuditSinkResult (List DurableAuditReplayRecord) := do
  let result ← replayDurableAuditJournalWithEvidence files query DurableAuditReplayWindow.all
  pure result.records

structure DurableAuditJournalAppendAnchor where
  recordLsn : UInt64
  previousChainChecksum : UInt64
  firstRecordLsn : UInt64
  priorRecordCount : Nat

def saturatingSucc (lsn : UInt64) : UInt64 := if lsn = 0xffffffffffffffff then lsn else lsn + 1

def nextRecordAnchor (identity : Option DurableAuditRecordIdentity) :
    DurableAuditSinkResult DurableAuditJournalAppendAnchor := do
  let content ← orError files.journal (sinkFailure .walAppendRejected identity
    "failed to inspect durable audit journal length: No such file or directory (os error 2)")
  if content = [] then do
    failIf (files.anchor.isSome = true) (sinkFailure .corruptionDetected identity
      "durable audit chain anchor exists for empty durable audit journal")
    pure ⟨1, 0, 1, 0⟩
  else do
    let scan ← scanDurableAuditJournal files DurableAuditReplayQuery.all DurableAuditReplayWindow.all
    orError (scan.result.records.getLast?.map fun record =>
        { recordLsn := saturatingSucc record.lsn
          previousChainChecksum := scan.lastChainChecksum
          firstRecordLsn := scan.firstRecordLsn.getD record.lsn
          priorRecordCount := scan.result.evidence.recordsScanned })
      (sinkFailure .corruptionDetected identity
        "durable audit journal contains bytes but no replayable records")

end

end Andromeda.Audit
