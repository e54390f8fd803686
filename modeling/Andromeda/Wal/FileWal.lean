import Andromeda.Lib.TornFile
import Andromeda.Wal.FileHeader
import Andromeda.Wal.Scan

/-!
# The file-backed log

`FileWal` keeps its records in memory and writes their encodings behind the
header of one file. Opening scans the durable prefix, cuts the file back to it
and rewrites the header; appending writes record bytes; flushing syncs them,
publishes the new durable LSN and then records it in the header. The file is a
`TornFile`, so every one of these steps may fail or be the last.
-/

namespace Andromeda

open Fallible Effect Disk FileWalHeader

inductive WalIoQueueClass where
  | p0Durability
  | p1Maintenance
deriving DecidableEq

def WalIoQueueClass.isCommitCritical : WalIoQueueClass → Bool
  | .p0Durability => true
  | .p1Maintenance => false

structure WalQueueSeparationEvidence where
  queueClass : WalIoQueueClass
  sharesQueueWithTempSpill : Bool
deriving DecidableEq

namespace WalQueueSeparationEvidence

def p0Durable : WalQueueSeparationEvidence := ⟨.p0Durability, false⟩

def preservesP0Separation (e : WalQueueSeparationEvidence) : Bool :=
  !e.queueClass.isCommitCritical || !e.sharesQueueWithTempSpill

def validate (e : WalQueueSeparationEvidence) : Result Unit :=
  failIf (!e.preservesP0Separation) (storageError
    "commit-critical WAL P0 queue must remain separated from temp/spill queues")

end WalQueueSeparationEvidence

structure FileWalRecordBoundary where
  lsn : Lsn
  endBytes : UInt64
deriving DecidableEq

/-- `FileWal` without its path and file handle. The shared signal is a field, since
only this value writes it. -/
structure FileWal where
  records : List WalRecord
  recordBoundaries : List FileWalRecordBoundary
  appendBytes : UInt64
  durableBytes : UInt64
  durableLsn : Lsn
  scanStop : Option WalScanStop
  sharedDurableLsn : Lsn
  flushSeparation : WalQueueSeparationEvidence
deriving DecidableEq

/-- A running process: its log value and the file behind it. -/
structure FileWalProcess where
  wal : FileWal
  disk : Disk

namespace FileWal

section

variable (w : FileWal)

def lastLsn : Option Lsn := tailLsn w.records

def withFlushSeparation (separation : WalQueueSeparationEvidence) : FileWal :=
  { w with flushSeparation := separation }

/-- `record_boundaries_for`, from the offset already reached. -/
def boundariesFrom (offset : UInt64) : List WalRecord → Result (List FileWalRecordBoundary)
  | [] => .ok []
  | record :: records => do
    let encodedLen ← encodedWalRecordLen record
    let offset ← orError (checkedAdd offset encodedLen)
      (storageError "file WAL record boundary would overflow u64")
    let rest ← boundariesFrom offset records
    pure (⟨record.lsn, offset⟩ :: rest)

def recordBoundariesFor (records : List WalRecord) : Result (List FileWalRecordBoundary) :=
  boundariesFrom 0 records

def isForensicScanStop (stop : Option WalScanStop) : Bool :=
  match stop.map WalScanStop.reason with
  | some .lsnGap | some .duplicateOrReorderedLsn | some .previousLsnMismatch => true
  | _ => false

structure FileWalDiskScan where
  header : FileWalHeader
  physicalWalBytes : Nat
  scannedBytes : Nat
  durableBytes : UInt64
  durableLsn : Lsn
  scan : WalCodecScanResult WalRecord

/-- `scan_open_file_wal`. Reading is taken not to fail; sizes are those of the file
the process sees. -/
def scanOpenFileWal (file : TornFile) : Result FileWalDiskScan := do
  failIf (file.length < fileWalHeaderLen) (storageError "file WAL header is truncated")
  let header ← decodeFileWalHeader file.head
  header.validate
  let physicalWalBytes := file.length - fileWalHeaderLen
  let scannedBytes := min header.durableBytes.toNat physicalWalBytes
  let scan := scanWalRecords (file.body.take scannedBytes)
  pure { header, physicalWalBytes, scannedBytes, scan
         durableBytes := UInt64.ofNat scan.validBytes
         durableLsn := scan.lastValidLsn.getD 0 }

def fileOffsetForWalBytes (walBytes : UInt64) : Result UInt64 :=
  orError (checkedAdd (UInt64.ofNat fileWalHeaderLen) walBytes)
    (storageError "file WAL offset would overflow u64")

def ioError (action reason : String) : Error := storageError s!"{action}: {reason}"

def checked {σ α : Type} (x : Result α) : Effect σ (Interrupt Error) α :=
  lift (x.mapError .failed)

/-- The largest offset a file can have, an `off_t`, counted from the first record. -/
def maxBodyLen : Nat := 2 ^ 63 - 1 - fileWalHeaderLen

def writeFileWalHeader (header : FileWalHeader) : Effect Disk (Interrupt Error) Unit := do
  checked header.validate
  seek (ioError "seek file WAL header")
  writeHead (encodeFileWalHeader header) (ioError "write file WAL header")

def createIfEmpty : Effect Disk (Interrupt Error) Unit := do
  let d ← get
  if d.file.length = 0 then do
    writeFileWalHeader (new 0 0 0)
    sync (ioError "sync new file WAL header")
  else pure ()

def truncateTo (desiredLen : UInt64) : Effect Disk (Interrupt Error) Unit := do
  let d ← get
  if d.file.length ≠ desiredLen.toNat then
    setBodyLen (desiredLen.toNat - fileWalHeaderLen)
      (ioError "truncate file WAL to durable prefix")
  else pure ()

/-- The second half of opening: make the file end where the scan did. -/
def settleScan (scan : WalCodecScanResult WalRecord) : Effect Disk (Interrupt Error) FileWal := do
  checked (failIf (isForensicScanStop scan.stopped)
    (storageError "file WAL scan stopped at a non-recoverable LSN chain boundary"))
  let durableBytes := UInt64.ofNat scan.validBytes
  let durableLsn := scan.lastValidLsn.getD 0
  let durableRecordCount := UInt64.ofNat scan.records.length
  let desiredLen ← checked (fileOffsetForWalBytes durableBytes)
  truncateTo desiredLen
  writeFileWalHeader (new durableLsn durableBytes durableRecordCount)
  sync (ioError "sync file WAL durable header")
  let recordBoundaries ← checked (recordBoundariesFor scan.records)
  pure { records := scan.records
         recordBoundaries
         appendBytes := durableBytes
         durableBytes
         durableLsn
         scanStop := scan.stopped
         sharedDurableLsn := durableLsn
         flushSeparation := .p0Durable }

def openFile : Effect Disk (Interrupt Error) FileWal := do
  createIfEmpty
  let d ← get
  let diskScan ← checked (scanOpenFileWal d.file)
  settleScan diskScan.scan

/-! ## Appending and flushing -/

def onDisk {α : Type} (x : Effect Disk (Interrupt Error) α) :
    Effect FileWalProcess (Interrupt Error) α := fun p =>
  ((x p.disk).1, { p with disk := (x p.disk).2 })

/-- The record is part of the log once its bytes are written. -/
def push (record : WalRecord) (appendBytes : UInt64) : FileWal :=
  { w with
    appendBytes
    recordBoundaries := w.recordBoundaries ++ [⟨record.lsn, appendBytes⟩]
    records := w.records ++ [record] }

def append (record : WalRecord) : Effect FileWalProcess (Interrupt Error) Lsn := do
  let p ← get
  checked (validateAppendRecord record p.wal.lastLsn
    "file WAL record must equal the next append LSN"
    "file WAL record previous LSN must chain to the append tail")
  let encoded ← checked (encodeWalRecord record)
  let _ ← checked (fileOffsetForWalBytes p.wal.appendBytes)
  onDisk (seek (ioError "seek file WAL append offset"))
  onDisk (writeBody maxBodyLen p.wal.appendBytes.toNat encoded
    (ioError "append file WAL record"))
  let appendBytes ← checked (orError (checkedAdd p.wal.appendBytes (UInt64.ofNat encoded.length))
    (storageError "file WAL append byte count would overflow u64"))
  modify fun p => { p with wal := p.wal.push record appendBytes }
  pure record.lsn

def appendPayload (kind : WalRecordKind) (transactionId : Option TransactionId)
    (payload : Bytes) : Effect FileWalProcess (Interrupt Error) Lsn := do
  let p ← get
  let record ← checked (payloadRecord kind p.wal.lastLsn transactionId payload)
  append record

/-- The bytes and records up to and including `lsn`. -/
def flushBoundary (lsn : Lsn) : Result (UInt64 × UInt64) := do
  let durableIndex ← orError (w.recordBoundaries.findIdx? fun boundary => boundary.lsn == lsn)
    (storageError "file WAL flush LSN was not appended")
  let boundary ← orError w.recordBoundaries[durableIndex]?
    (storageError "file WAL flush LSN was not appended")
  pure (boundary.endBytes, UInt64.ofNat (durableIndex + 1))

/-- The flush target, or `none` if there is nothing to do. -/
def flushTarget (lsn : Lsn) : Result (Option Lsn) := do
  w.flushSeparation.validate
  validateFlushTarget lsn w.durableLsn w.lastLsn
    "cannot flush file WAL before records are appended"
    "cannot flush file WAL beyond the last appended LSN"

def publish (lsn : Lsn) (durableBytes : UInt64) : FileWal :=
  { w with durableLsn := lsn, durableBytes, sharedDurableLsn := lsn }

end

/-- The part of `flush_through` that does the work. -/
def flushTo (lsn : Lsn) : Effect FileWalProcess (Interrupt Error) Lsn := do
  let p ← get
  let (durableBytes, durableRecordCount) ← checked (p.wal.flushBoundary lsn)
  onDisk (sync (ioError "sync file WAL records"))
  modify fun p => { p with wal := p.wal.publish lsn durableBytes }
  onDisk (writeFileWalHeader (new lsn durableBytes durableRecordCount))
  onDisk (sync (ioError "sync file WAL header"))
  pure lsn

def flushThrough (lsn : Lsn) : Effect FileWalProcess (Interrupt Error) Lsn := do
  let p ← get
  let target ← checked (p.wal.flushTarget lsn)
  match target with
  | none => pure p.wal.durableLsn
  | some lsn => flushTo lsn

def flushAll : Effect FileWalProcess (Interrupt Error) Lsn := do
  let p ← get
  match p.wal.lastLsn with
  | some lastLsn => flushThrough lastLsn
  | none => pure p.wal.durableLsn

end FileWal

end Andromeda
