import Andromeda.Basic
import Andromeda.Lib.LittleEndian

/-!
# WAL records

The record taxonomy, the record checksum and record validation. A record is
accepted when its header is sound, its payload has the announced length, it
points strictly backwards and its checksum is the FNV-1a hash of its contents.
-/

namespace Andromeda

open Fallible

def walFormatVersion : UInt16 := 1

inductive WalRecordKind where
  | txBegin
  | txCommit
  | txRollback
  | pageAllocate
  | pageFormat
  | rowInsert
  | rowUpdate
  | rowDelete
  | indexInsert
  | indexDelete
  | mvccVersionCreate
  | mvccVersionClose
  | mapDeltaAppend
  | checkpointBegin
  | checkpointEnd
  | snapshotBegin
  | snapshotEnd
  | manifestSwitch
  | catalogChangeBegin
  | catalogChangeApply
  | catalogChangeCommit
  | securityAuditAppend
  | bTreeInsert
  | bTreeDelete
  | bTreeSplit
  | bTreeMerge
deriving DecidableEq

namespace WalRecordKind

def requiresTransactionId : WalRecordKind → Bool
  | txBegin | txCommit | txRollback | rowInsert | rowUpdate | rowDelete | indexInsert
  | indexDelete | mvccVersionCreate | mvccVersionClose | catalogChangeBegin
  | catalogChangeApply | catalogChangeCommit | bTreeInsert | bTreeDelete | bTreeSplit
  | bTreeMerge => true
  | _ => false

def isRedoRelevant : WalRecordKind → Bool
  | pageAllocate | pageFormat | rowInsert | rowUpdate | rowDelete | indexInsert
  | indexDelete | mvccVersionCreate | mvccVersionClose | mapDeltaAppend | manifestSwitch
  | catalogChangeApply | catalogChangeCommit | securityAuditAppend | bTreeInsert
  | bTreeDelete | bTreeSplit | bTreeMerge => true
  | _ => false

def debugName : WalRecordKind → String
  | txBegin => "TxBegin"
  | txCommit => "TxCommit"
  | txRollback => "TxRollback"
  | pageAllocate => "PageAllocate"
  | pageFormat => "PageFormat"
  | rowInsert => "RowInsert"
  | rowUpdate => "RowUpdate"
  | rowDelete => "RowDelete"
  | indexInsert => "IndexInsert"
  | indexDelete => "IndexDelete"
  | mvccVersionCreate => "MvccVersionCreate"
  | mvccVersionClose => "MvccVersionClose"
  | mapDeltaAppend => "MapDeltaAppend"
  | checkpointBegin => "CheckpointBegin"
  | checkpointEnd => "CheckpointEnd"
  | snapshotBegin => "SnapshotBegin"
  | snapshotEnd => "SnapshotEnd"
  | manifestSwitch => "ManifestSwitch"
  | catalogChangeBegin => "CatalogChangeBegin"
  | catalogChangeApply => "CatalogChangeApply"
  | catalogChangeCommit => "CatalogChangeCommit"
  | securityAuditAppend => "SecurityAuditAppend"
  | bTreeInsert => "BTreeInsert"
  | bTreeDelete => "BTreeDelete"
  | bTreeSplit => "BTreeSplit"
  | bTreeMerge => "BTreeMerge"

def tag : WalRecordKind → UInt64
  | txBegin => 1
  | txCommit => 2
  | txRollback => 3
  | pageAllocate => 4
  | pageFormat => 5
  | rowInsert => 6
  | rowUpdate => 7
  | rowDelete => 8
  | indexInsert => 9
  | indexDelete => 10
  | mvccVersionCreate => 11
  | mvccVersionClose => 12
  | mapDeltaAppend => 13
  | checkpointBegin => 14
  | checkpointEnd => 15
  | snapshotBegin => 16
  | snapshotEnd => 17
  | manifestSwitch => 18
  | catalogChangeBegin => 19
  | catalogChangeApply => 20
  | catalogChangeCommit => 21
  | securityAuditAppend => 22
  | bTreeInsert => 23
  | bTreeDelete => 24
  | bTreeSplit => 25
  | bTreeMerge => 26

def fromTag : UInt64 → Option WalRecordKind
  | 1 => some txBegin
  | 2 => some txCommit
  | 3 => some txRollback
  | 4 => some pageAllocate
  | 5 => some pageFormat
  | 6 => some rowInsert
  | 7 => some rowUpdate
  | 8 => some rowDelete
  | 9 => some indexInsert
  | 10 => some indexDelete
  | 11 => some mvccVersionCreate
  | 12 => some mvccVersionClose
  | 13 => some mapDeltaAppend
  | 14 => some checkpointBegin
  | 15 => some checkpointEnd
  | 16 => some snapshotBegin
  | 17 => some snapshotEnd
  | 18 => some manifestSwitch
  | 19 => some catalogChangeBegin
  | 20 => some catalogChangeApply
  | 21 => some catalogChangeCommit
  | 22 => some securityAuditAppend
  | 23 => some bTreeInsert
  | 24 => some bTreeDelete
  | 25 => some bTreeSplit
  | 26 => some bTreeMerge
  | _ => none

theorem tag_of_fromTag {t : UInt64} {k : WalRecordKind} (h : fromTag t = some k) : k.tag = t := by
  unfold fromTag at h
  split at h <;> first | cases h; rfl | cases h

end WalRecordKind

def fnvOffset : UInt64 := 0xcbf29ce484222325

def fnvPrime : UInt64 := 0x00000100000001b3

def fnvBytes (state : UInt64) (bs : Bytes) : UInt64 :=
  bs.foldl (fun s b => (s ^^^ b.toUInt64) * fnvPrime) state

/-- `fold_u64`: absorb a `u64` as its eight little-endian bytes. -/
def fnvU64 (state value : UInt64) : UInt64 :=
  fnvBytes state (LittleEndian.encode 8 value.toNat)

/-- Zero is reserved for "no checksum". -/
def nonzero (h : UInt64) : UInt64 := if h = 0 then 1 else h

theorem nonzero_ne_zero (h : UInt64) : nonzero h ≠ 0 := by
  unfold nonzero
  split
  · decide
  · assumption

def walRecordChecksum (kind : WalRecordKind) (lsn : Lsn) (previousLsn : Option Lsn)
    (transactionId : Option TransactionId) (payload : Bytes) : UInt64 :=
  let state := fnvU64 fnvOffset kind.tag
  let state := fnvU64 state lsn
  let state := fnvU64 state (previousLsn.getD 0)
  let state := fnvU64 state (transactionId.getD 0)
  let state := fnvU64 state (UInt64.ofNat payload.length)
  nonzero (fnvBytes state payload)

structure WalRecordHeader where
  kind : WalRecordKind
  lsn : Lsn
  previousLsn : Option Lsn
  transactionId : Option TransactionId
  payloadLength : UInt64
  checksum : UInt64
deriving DecidableEq

def WalRecordHeader.validate (h : WalRecordHeader) : Result Unit := do
  failIf (h.lsn = 0) (storageError "WAL record LSN must not be zero")
  failIf (h.kind.requiresTransactionId ∧ h.transactionId = none)
    (storageError "WAL record kind requires a transaction id")
  failIf (h.checksum = 0) (storageError "WAL record checksum must not be zero")

structure WalRecord where
  header : WalRecordHeader
  payload : Bytes
deriving DecidableEq

namespace WalRecord

def lsn (r : WalRecord) : Lsn := r.header.lsn

def kind (r : WalRecord) : WalRecordKind := r.header.kind

def transactionId (r : WalRecord) : Option TransactionId := r.header.transactionId

def expectedChecksum (r : WalRecord) : UInt64 :=
  walRecordChecksum r.header.kind r.header.lsn r.header.previousLsn r.header.transactionId r.payload

def validate (r : WalRecord) : Result Unit := do
  r.header.validate
  failIf (r.header.payloadLength ≠ UInt64.ofNat r.payload.length)
    (storageError "WAL record payload length mismatch")
  failIf (∃ previous ∈ r.header.previousLsn, previous ≥ r.header.lsn)
    (storageError "WAL record previous LSN must precede record LSN")
  failIf (r.header.checksum ≠ r.expectedChecksum)
    (storageError "WAL record checksum mismatch")

def sealed (kind : WalRecordKind) (lsn : Lsn) (previousLsn : Option Lsn)
    (transactionId : Option TransactionId) (payload : Bytes) : WalRecord :=
  { header :=
      { kind, lsn, previousLsn, transactionId
        payloadLength := UInt64.ofNat payload.length
        checksum := walRecordChecksum kind lsn previousLsn transactionId payload }
    payload }

def new (header : WalRecordHeader) (payload : Bytes) : Result WalRecord := do
  let record : WalRecord := ⟨header, payload⟩
  record.validate
  pure record

def fromParts (kind : WalRecordKind) (lsn : Lsn) (previousLsn : Option Lsn)
    (transactionId : Option TransactionId) (payload : Bytes) : Result WalRecord := do
  let record := sealed kind lsn previousLsn transactionId payload
  record.validate
  pure record

def isForTransaction (r : WalRecord) (id : TransactionId) : Bool :=
  r.header.transactionId = some id

def isTransactionTerminal (r : WalRecord) : Bool :=
  match r.header.kind with
  | .txCommit | .txRollback => true
  | _ => false

variable {r : WalRecord}

theorem isTransactionTerminal_iff :
    r.isTransactionTerminal = true ↔ r.kind = .txCommit ∨ r.kind = .txRollback := by
  unfold isTransactionTerminal kind
  cases r.header.kind <;> simp

structure Valid (r : WalRecord) : Prop where
  lsn_ne_zero : r.header.lsn ≠ 0
  transaction : r.header.kind.requiresTransactionId → r.header.transactionId ≠ none
  length : r.header.payloadLength = UInt64.ofNat r.payload.length
  previous_lt : ∀ previous, r.header.previousLsn = some previous → previous < r.header.lsn
  checksum : r.header.checksum = r.expectedChecksum

theorem validate_eq_ok {u : Unit} : r.validate = .ok u ↔ r.Valid := by
  have hnonzero : r.header.checksum = r.expectedChecksum → r.header.checksum ≠ 0 := by
    intro h
    rw [h]
    exact nonzero_ne_zero _
  simp only [validate, WalRecordHeader.validate, ok_iff]
  constructor
  · rintro ⟨⟨hlsn, htx, -⟩, hlength, hprevious, hchecksum⟩
    refine ⟨hlsn, ?_, ?_, ?_, ?_⟩
    · exact fun hkind hnone => htx ⟨hkind, hnone⟩
    · simpa using hlength
    · intro previous hsome
      rw [← UInt64.not_le]
      exact fun hle => hprevious ⟨previous, hsome, hle⟩
    · simpa using hchecksum
  · intro h
    refine ⟨⟨h.lsn_ne_zero, ?_, hnonzero h.checksum⟩, ?_, ?_, ?_⟩
    · exact fun hmissing => h.transaction hmissing.1 hmissing.2
    · simpa using h.length
    · rintro ⟨previous, hsome, hge⟩
      exact UInt64.not_le.mpr (h.previous_lt previous hsome) hge
    · simpa using h.checksum

instance (r : WalRecord) : Decidable r.Valid :=
  decidable_of_iff (r.validate = .ok ()) validate_eq_ok

end WalRecord

end Andromeda
