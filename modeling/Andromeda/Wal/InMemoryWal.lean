import Andromeda.Wal.AppendChain

/-!
# The log in memory

`InMemoryWal` keeps its records in a list. Each of its operations may be disturbed: an append may
fail, a flush may fail or stop short, in both cases after some of the records became durable.
-/

namespace Andromeda

open Fallible

structure InMemoryWal where
  records : List WalRecord
  durableLsn : Lsn

/-- How a flush ends, and for the disturbed ones the LSN it got to. -/
inductive FlushOutcome where
  | done
  | short (reached : Lsn)
  | fails (reached : Lsn) (error : Error)

namespace InMemoryWal

def new : InMemoryWal := ⟨[], 0⟩

def lastLsn (w : InMemoryWal) : Option Lsn := tailLsn w.records

def append (w : InMemoryWal) (record : WalRecord) : Result (Lsn × InMemoryWal) := do
  validateAppendRecord record w.lastLsn "WAL record LSN must equal the next append LSN"
    "WAL record previous LSN must chain to the append tail"
  pure (record.lsn, { w with records := w.records ++ [record] })

section

variable (w : InMemoryWal)

def appendPayload (kind : WalRecordKind) (transactionId : Option TransactionId) (payload : Bytes) :
    Result (Lsn × InMemoryWal) := do
  let record ← payloadRecord kind w.lastLsn transactionId payload
  w.append record

/-- An append that the medium may refuse; then nothing is written. -/
def tryAppendPayload (failure : Option Error) (kind : WalRecordKind)
    (transactionId : Option TransactionId) (payload : Bytes) : Result Lsn × InMemoryWal :=
  match failure with
  | some e => (.error e, w)
  | none =>
    match w.appendPayload kind transactionId payload with
    | .error e => (.error e, w)
    | .ok (lsn, w') => (.ok lsn, w')

/-- The durable LSN after records up to `reached`, but not past the target, were written. -/
def advance (target reached : Lsn) : InMemoryWal :=
  { w with
    durableLsn := if w.durableLsn < min reached target then min reached target else w.durableLsn }

/-- `flush_through`; the source has the `done` case, the others are its disturbances. -/
def flushThrough (lsn : Lsn) (outcome : FlushOutcome) : Result Lsn × InMemoryWal :=
  match validateFlushTarget lsn w.durableLsn w.lastLsn
      "cannot flush WAL before records are appended"
      "cannot flush WAL beyond the last appended LSN" with
  | .error e => (.error e, w)
  | .ok none => (.ok w.durableLsn, w)
  | .ok (some target) =>
    match outcome with
    | .done => (.ok target, { w with durableLsn := target })
    | .short reached => (.ok (w.advance target reached).durableLsn, w.advance target reached)
    | .fails reached e => (.error e, w.advance target reached)

def flushAll : Result Lsn × InMemoryWal :=
  match w.lastLsn with
  | some lastLsn => w.flushThrough lastLsn .done
  | none => (.ok w.durableLsn, w)

def settle : Result (Lsn × InMemoryWal) → Result Lsn × InMemoryWal
  | .error e => (.error e, w)
  | .ok (lsn, w') => (.ok lsn, w')

def replayDurable : List WalRecord := durableRecords w.records w.durableLsn

end

end InMemoryWal

end Andromeda
