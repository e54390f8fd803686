import Andromeda.Lib.Effect
import Andromeda.Mvcc.Status
import Andromeda.Wal.InMemoryWal

/-!
# The commit log

`CommitLogManager` decides the outcome of transactions: it appends a terminal
record, flushes the log through it, and only then remembers the outcome and mirrors
it into the status table. The log below it is the in-memory one.
-/

namespace Andromeda

open Fallible Effect LittleEndian

/-- How the log treats the append and the flush of one call. -/
structure WalOutcome where
  appendFailure : Option Error := none
  flush : FlushOutcome := .done

inductive IsolationLevel where
  | snapshot
  | serializable
deriving DecidableEq

def validateDurableEvidence (name : String) (txId : TransactionId) (recordLsn durableLsn : Lsn) :
    Result Unit := do
  failIf (txId = 0) (transactionError s!"{name} log entry transaction id must not be zero")
  failIf (recordLsn = 0) (transactionError s!"{name} log entry {name} LSN must not be zero")
  failIf (durableLsn < recordLsn) (storageError
    s!"durable WAL flush ended before {name} LSN: durable={durableLsn}, {name}={recordLsn}")

structure CommitLogEntry where
  txId : TransactionId
  commitLsn : Lsn
  durableLsn : Lsn
  timestamp : UInt64
  rowCountAffected : UInt64
  isolationLevel : IsolationLevel

def CommitLogEntry.validateDurableEvidence (e : CommitLogEntry) : Result Unit :=
  Andromeda.validateDurableEvidence "commit" e.txId e.commitLsn e.durableLsn

def CommitLogEntry.fromDurableWal (txId : TransactionId) (commitLsn durableLsn : Lsn)
    (timestamp rowCountAffected : UInt64) (isolationLevel : IsolationLevel) :
    Result CommitLogEntry := do
  let entry : CommitLogEntry :=
    ⟨txId, commitLsn, durableLsn, timestamp, rowCountAffected, isolationLevel⟩
  entry.validateDurableEvidence
  pure entry

structure RollbackLogEntry where
  txId : TransactionId
  rollbackLsn : Lsn
  durableLsn : Lsn
  timestamp : UInt64
  parameterHash : UInt64

def RollbackLogEntry.validateDurableEvidence (e : RollbackLogEntry) : Result Unit :=
  Andromeda.validateDurableEvidence "rollback" e.txId e.rollbackLsn e.durableLsn

def RollbackLogEntry.fromDurableWal (txId : TransactionId) (rollbackLsn durableLsn : Lsn)
    (timestamp parameterHash : UInt64) : Result RollbackLogEntry := do
  let entry : RollbackLogEntry := ⟨txId, rollbackLsn, durableLsn, timestamp, parameterHash⟩
  entry.validateDurableEvidence
  pure entry

def encodeCommitPayload (isolationLevel : IsolationLevel) (affectedRows parameterHash : UInt64) :
    Bytes :=
  (match isolationLevel with
    | .snapshot => 1
    | .serializable => 2) ::
  (encode 8 affectedRows.toNat ++ encode 8 parameterHash.toNat ++ encode 8 0)

def encodeRollbackPayload (parameterHash : UInt64) : Bytes :=
  encode 8 parameterHash.toNat ++ encode 8 0

structure CommitLogManager where
  wal : InMemoryWal
  statusTable : TransactionStatusTable
  commitEntries : TransactionId → Option CommitLogEntry
  rollbackEntries : TransactionId → Option RollbackLogEntry

namespace CommitLogManager

def new : CommitLogManager := ⟨.new, .new, fun _ => none, fun _ => none⟩

def onWal {α : Type} (f : InMemoryWal → Result α × InMemoryWal) :
    Effect CommitLogManager Error α := fun m =>
  ((f m.wal).1, { m with wal := (f m.wal).2 })

/-- A write to the status table; a rejected one leaves it as it is. -/
def onStatus (f : TransactionStatusTable → Result TransactionStatusTable) :
    Effect CommitLogManager Error Unit := fun m =>
  match f m.statusTable with
  | .ok table => (.ok (), { m with statusTable := table })
  | .error e => (.error e, m)

def validateDurableFlushCoversRecord (durableLsn recordLsn : Lsn) (recordName : String) :
    Result Unit :=
  failIf (durableLsn < recordLsn) (storageError
    s!"durable WAL flush ended before {recordName} LSN: durable={durableLsn}, record={recordLsn}")

/-- The two LSNs are those of the record and of the flush that covers it. -/
def appendAndFlushTerminalRecord (kind : WalRecordKind) (id : TransactionId) (payload : Bytes)
    (recordName : String) (outcome : WalOutcome) :
    Effect CommitLogManager Error (Lsn × Lsn) := do
  let recordLsn ← onWal fun w => w.tryAppendPayload outcome.appendFailure kind (some id) payload
  let durableLsn ← onWal fun w => w.flushThrough recordLsn outcome.flush
  lift (validateDurableFlushCoversRecord durableLsn recordLsn recordName)
  pure (recordLsn, durableLsn)

section

variable (m : CommitLogManager) (id : TransactionId)

def existingCommitEntry : Result (Option CommitLogEntry) :=
  match m.commitEntries id with
  | none => .ok none
  | some entry => do
    entry.validateDurableEvidence
    pure (some entry)

def existingRollbackEntry : Result (Option RollbackLogEntry) :=
  match m.rollbackEntries id with
  | none => .ok none
  | some entry => do
    entry.validateDurableEvidence
    pure (some entry)

def terminalStatusIs (status : TransactionStatus) : Bool :=
  m.statusTable id = some status

def rejectCommitAfterRollback : Result Unit :=
  failIf (m.rollbackEntries id ≠ none ∨ m.terminalStatusIs id .rolledBack)
    (transactionError "cannot commit a transaction with durable rollback evidence")

def rejectRollbackAfterCommit : Result Unit :=
  failIf (m.commitEntries id ≠ none ∨ m.terminalStatusIs id .committed)
    (transactionError "cannot rollback a transaction with durable commit evidence")

def restoreCommitStatusFromEntry (entry : CommitLogEntry) : Effect CommitLogManager Error Unit := do
  lift entry.validateDurableEvidence
  onStatus fun t => t.recordCommittedAfterDurableWal entry.txId entry.commitLsn entry.durableLsn

def restoreRollbackStatusFromEntry (entry : RollbackLogEntry) :
    Effect CommitLogManager Error Unit := do
  lift entry.validateDurableEvidence
  onStatus fun t =>
    t.recordRolledBackAfterDurableWal entry.txId entry.rollbackLsn entry.durableLsn

def insertCommitEntry (entry : CommitLogEntry) : CommitLogManager :=
  { m with commitEntries := Function.update m.commitEntries entry.txId (some entry) }

def insertRollbackEntry (entry : RollbackLogEntry) : CommitLogManager :=
  { m with rollbackEntries := Function.update m.rollbackEntries entry.txId (some entry) }

end

section

variable (id : TransactionId)

def recordNewCommit (isolationLevel : IsolationLevel) (affectedRows parameterHash now : UInt64)
    (outcome : WalOutcome) :
    Effect CommitLogManager Error CommitLogEntry := do
  let m ← get
  lift (m.rejectCommitAfterRollback id)
  let lsns ← appendAndFlushTerminalRecord .txCommit id
    (encodeCommitPayload isolationLevel affectedRows parameterHash) "commit" outcome
  let entry ← lift
    (CommitLogEntry.fromDurableWal id lsns.1 lsns.2 now affectedRows isolationLevel)
  modify fun m => m.insertCommitEntry entry
  restoreCommitStatusFromEntry entry
  pure entry

def recordNewRollback (parameterHash now : UInt64) (outcome : WalOutcome) :
    Effect CommitLogManager Error RollbackLogEntry := do
  let m ← get
  lift (m.rejectRollbackAfterCommit id)
  let lsns ← appendAndFlushTerminalRecord .txRollback id (encodeRollbackPayload parameterHash)
    "rollback" outcome
  let entry ← lift (RollbackLogEntry.fromDurableWal id lsns.1 lsns.2 now parameterHash)
  modify fun m => m.insertRollbackEntry entry
  restoreRollbackStatusFromEntry entry
  pure entry

def validateTransactionId (message : String) : Result Unit :=
  failIf (id = 0) (transactionError message)

/-- `now` is what the clock reads when the flush is done. -/
def recordCommit (isolationLevel : IsolationLevel) (affectedRows parameterHash now : UInt64)
    (outcome : WalOutcome) :
    Effect CommitLogManager Error CommitLogEntry := do
  lift (validateTransactionId id "cannot commit transaction with zero ID")
  let m ← get
  match ← lift (m.existingCommitEntry id) with
  | some existing => do
    restoreCommitStatusFromEntry existing
    pure existing
  | none => recordNewCommit id isolationLevel affectedRows parameterHash now outcome

def recordRollback (parameterHash now : UInt64) (outcome : WalOutcome) :
    Effect CommitLogManager Error RollbackLogEntry := do
  lift (validateTransactionId id "cannot rollback transaction with zero ID")
  let m ← get
  match ← lift (m.existingRollbackEntry id) with
  | some existing => do
    restoreRollbackStatusFromEntry existing
    pure existing
  | none => recordNewRollback id parameterHash now outcome

end

end CommitLogManager

end Andromeda
