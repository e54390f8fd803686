import Andromeda.Lib.Effect
import Andromeda.Basic

/-!
# The transaction state machine

The states of a transaction, the events that move it, and the two terminal transitions,
which ask for durable log evidence. Beside it stands the savepoint stack, the
transaction-local part of rolling back.
-/

namespace Andromeda

open Fallible Effect

inductive TransactionState where
  | created
  | active
  | committing
  | committed
  | failed
  | rollingBack
  | rolledBack
  | poisoned
  | disposed
deriving DecidableEq

inductive TransactionEvent where
  | begin
  | commitRequested
  | durableWalFlushed
  | fail
  | poison
  | rollbackRequested
  | rollbackComplete
  | dispose
deriving DecidableEq

def TransactionState.apply : TransactionState → TransactionEvent → Result TransactionState
  | .created, .begin => .ok .active
  | .active, .commitRequested => .ok .committing
  | .committing, .durableWalFlushed => .ok .committed
  | .committed, .dispose => .ok .disposed
  | .active, .rollbackRequested => .ok .rollingBack
  | .active, .fail => .ok .failed
  | .failed, .rollbackRequested => .ok .rollingBack
  | .active, .poison => .ok .poisoned
  | .poisoned, .rollbackRequested => .ok .rollingBack
  | .rollingBack, .rollbackComplete => .ok .rolledBack
  | .rolledBack, .dispose => .ok .disposed
  | _, _ => .error (transactionError "illegal transaction state transition")

structure TransactionStateMachine where
  transactionId : TransactionId
  state : TransactionState
  durableCommitLsn : Option Lsn
  durableRollbackLsn : Option Lsn

def validateTerminalDurableEvidence (recordLsn durableLsn : Lsn) (recordName durableName : String) :
    Result Unit := do
  failIf (recordLsn = 0) (transactionError s!"{recordName} must not be zero")
  failIf (durableLsn = 0) (transactionError s!"{durableName} must not be zero")
  failIf (durableLsn < recordLsn) (storageError
    s!"{durableName} must cover {recordName}: durable={durableLsn}, record={recordLsn}")

namespace TransactionStateMachine

def new (transactionId : TransactionId) : TransactionStateMachine :=
  ⟨transactionId, .created, none, none⟩

def apply (event : TransactionEvent) : Effect TransactionStateMachine Error Unit := do
  let machine ← get
  let next ← lift (machine.state.apply event)
  lift (failIf (next = .committed ∧ machine.durableCommitLsn = none)
    (transactionError "commit requires durable WAL LSN before visibility"))
  lift (failIf (next = .rolledBack ∧ machine.durableRollbackLsn = none)
    (transactionError "rollback requires durable WAL LSN before completion"))
  modify fun machine => { machine with state := next }

def markDurableCommitLsn (lsn : Lsn) : Effect TransactionStateMachine Error Unit := do
  let machine ← get
  lift (failIf (machine.state ≠ .committing)
    (transactionError "durable commit LSN can only be recorded while committing"))
  lift (failIf (lsn = 0) (transactionError "durable commit LSN must not be zero"))
  modify fun machine => { machine with durableCommitLsn := some lsn }

def markDurableRollbackLsn (lsn : Lsn) : Effect TransactionStateMachine Error Unit := do
  let machine ← get
  lift (failIf (machine.state ≠ .rollingBack)
    (transactionError "durable rollback LSN can only be recorded while rolling back"))
  lift (failIf (lsn = 0) (transactionError "durable rollback LSN must not be zero"))
  modify fun machine => { machine with durableRollbackLsn := some lsn }

def publishVisibleCommitWithDurableEvidence (commitRecordLsn durableLsn : Lsn) :
    Effect TransactionStateMachine Error Unit := do
  lift (validateTerminalDurableEvidence commitRecordLsn durableLsn "commit record LSN"
    "durable commit LSN")
  markDurableCommitLsn durableLsn
  apply .durableWalFlushed

def completeRollbackWithDurableEvidence (rollbackRecordLsn durableLsn : Lsn) :
    Effect TransactionStateMachine Error Unit := do
  lift (validateTerminalDurableEvidence rollbackRecordLsn durableLsn "rollback record LSN"
    "durable rollback LSN")
  markDurableRollbackLsn durableLsn
  apply .rollbackComplete

end TransactionStateMachine

abbrev SavepointId := UInt64

def SavepointId.validate (id : SavepointId) : Result Unit :=
  failIf (id = 0) (transactionError "savepoint id must be non-zero")

structure SavepointRollbackMarker where
  savepointId : SavepointId
  rollbackOrdinal : UInt64

def SavepointRollbackMarker.new (savepointId : SavepointId) (rollbackOrdinal : UInt64) :
    Result SavepointRollbackMarker := do
  SavepointId.validate savepointId
  pure ⟨savepointId, rollbackOrdinal⟩

structure Savepoint where
  id : SavepointId
  name : String
  rollbackMarker : SavepointRollbackMarker

structure SavepointReleaseEvidence where
  released : List Savepoint

structure SavepointRollbackEvidence where
  target : Savepoint
  discardedDescendants : List Savepoint

/-- The Unicode property `White_Space`, which `str::trim` strips. -/
def isWhiteSpace (c : Char) : Bool :=
  (9 ≤ c.toNat ∧ c.toNat ≤ 13) ∨ c.toNat = 32 ∨ c.toNat = 0x85 ∨ c.toNat = 0xA0 ∨
    c.toNat = 0x1680 ∨ (0x2000 ≤ c.toNat ∧ c.toNat ≤ 0x200A) ∨ c.toNat = 0x2028 ∨
    c.toNat = 0x2029 ∨ c.toNat = 0x202F ∨ c.toNat = 0x205F ∨ c.toNat = 0x3000

def validateSavepointName (name : String) : Result Unit :=
  failIf (name.toList.all isWhiteSpace) (transactionError "savepoint name must not be empty")

structure SavepointStack where
  nextId : UInt64
  stack : List Savepoint

namespace SavepointStack

def new : SavepointStack := ⟨1, []⟩

section

variable (s : SavepointStack) (name : String)

def createWithRollbackOrdinal (rollbackOrdinal : UInt64) : Result (Savepoint × SavepointStack) := do
  validateSavepointName name
  failIf (s.stack.any fun savepoint => savepoint.name = name)
    (transactionError "savepoint name must be unique within a transaction")
  SavepointId.validate s.nextId
  let nextId ← orError (checkedAdd s.nextId 1)
    (transactionError "savepoint id allocator overflowed")
  -- The marker checks the id again, so it cannot fail once the id above was accepted.
  let rollbackMarker ← SavepointRollbackMarker.new s.nextId rollbackOrdinal
  let savepoint : Savepoint := ⟨s.nextId, name, rollbackMarker⟩
  pure (savepoint, ⟨nextId, s.stack ++ [savepoint]⟩)

def create : Result (Savepoint × SavepointStack) :=
  s.createWithRollbackOrdinal name s.nextId

def findIndex : Result Nat :=
  orError (s.stack.findIdx? fun savepoint => savepoint.name = name)
    (transactionError "savepoint is not active in this transaction")

def release : Result (SavepointReleaseEvidence × SavepointStack) := do
  validateSavepointName name
  let index ← s.findIndex name
  pure (⟨s.stack.drop index⟩, { s with stack := s.stack.take index })

def rollbackTo : Result (SavepointRollbackEvidence × SavepointStack) := do
  validateSavepointName name
  let index ← s.findIndex name
  let target ← orError s.stack[index]?
    (transactionError "savepoint is not active in this transaction")
  pure (⟨target, s.stack.drop (index + 1)⟩, { s with stack := s.stack.take (index + 1) })

def clear : SavepointStack := { s with stack := [] }

def depth : Nat := s.stack.length

end

end SavepointStack

/-! ## What the machine can do -/

namespace TransactionStateMachine

variable {machine machine' : TransactionStateMachine} {result : Except Error Unit}
  {durableLsn : Lsn}

theorem validateTerminalDurableEvidence_eq_ok {recordLsn : Lsn} {recordName durableName : String}
    {u : Unit} :
    validateTerminalDurableEvidence recordLsn durableLsn recordName durableName = .ok u ↔
      recordLsn ≠ 0 ∧ durableLsn ≠ 0 ∧ recordLsn ≤ durableLsn := by
  simp [validateTerminalDurableEvidence]

/-- The commit is published from `committing`, under evidence that covers its record, or
nothing changes: the mark and the transition are never separated. -/
theorem publishVisibleCommitWithDurableEvidence_cases {commitRecordLsn : Lsn}
    (h : publishVisibleCommitWithDurableEvidence commitRecordLsn durableLsn machine =
      (result, machine')) : (∃ err, result = .error err ∧ machine' = machine) ∨
      machine.state = .committing ∧ (commitRecordLsn ≠ 0 ∧ commitRecordLsn ≤ durableLsn) ∧
        result = .ok () ∧
        machine' = { machine with state := .committed, durableCommitLsn := some durableLsn } := by
  rw [publishVisibleCommitWithDurableEvidence] at h
  refine refused_or h fun _ hevidence h => ?_
  obtain ⟨hrecord, hdurable, hcovers⟩ := validateTerminalDurableEvidence_eq_ok.mp hevidence
  by_cases hstate : machine.state = .committing
  · simp [bind_apply, markDurableCommitLsn, failIf, hstate, hdurable, apply,
      TransactionState.apply] at h
    exact .inr ⟨hstate, ⟨hrecord, hcovers⟩, h.1.symm, h.2.symm⟩
  · simp [bind_apply, markDurableCommitLsn, failIf, hstate] at h
    exact .inl ⟨_, h.1.symm, h.2.symm⟩

theorem completeRollbackWithDurableEvidence_cases {rollbackRecordLsn : Lsn}
    (h : completeRollbackWithDurableEvidence rollbackRecordLsn durableLsn machine =
      (result, machine')) : (∃ err, result = .error err ∧ machine' = machine) ∨
      machine.state = .rollingBack ∧ (rollbackRecordLsn ≠ 0 ∧ rollbackRecordLsn ≤ durableLsn) ∧
        result = .ok () ∧ machine' =
          { machine with state := .rolledBack, durableRollbackLsn := some durableLsn } := by
  rw [completeRollbackWithDurableEvidence] at h
  refine refused_or h fun _ hevidence h => ?_
  obtain ⟨hrecord, hdurable, hcovers⟩ := validateTerminalDurableEvidence_eq_ok.mp hevidence
  by_cases hstate : machine.state = .rollingBack
  · simp [bind_apply, markDurableRollbackLsn, failIf, hstate, hdurable, apply,
      TransactionState.apply] at h
    exact .inr ⟨hstate, ⟨hrecord, hcovers⟩, h.1.symm, h.2.symm⟩
  · simp [bind_apply, markDurableRollbackLsn, failIf, hstate] at h
    exact .inl ⟨_, h.1.symm, h.2.symm⟩

end TransactionStateMachine

end Andromeda
