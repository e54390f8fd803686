import Andromeda.Transactions.StateMachine
import Andromeda.Mvcc.Status

/-!
# The transaction manager

The manager owns the id allocator, the live state machines, the savepoint stacks and the
mirrored status table. A call may stop between two of its writes, and what it wrote before
stays written, so every call is a computation over the manager that keeps its state on failure.
-/

namespace Andromeda

open Fallible TransactionStateMachine Effect Function

structure TransactionIdAllocator where
  /-- Highest id handed out so far; 0 means none yet. -/
  lastIssued : UInt64

namespace TransactionIdAllocator

def withFloor (floor : UInt64) : TransactionIdAllocator := ⟨floor⟩

def allocate (a : TransactionIdAllocator) : Result (TransactionId × TransactionIdAllocator) := do
  let next ← orError (checkedAdd a.lastIssued 1)
    (transactionError "transaction id allocator exhausted durable id space")
  pure (next, ⟨next⟩)

def seed (a : TransactionIdAllocator) (floor : UInt64) : Result TransactionIdAllocator := do
  failIf (floor < a.lastIssued)
    (transactionError "transaction id allocator floor cannot move backwards")
  pure ⟨floor⟩

end TransactionIdAllocator

structure TransactionManager where
  allocator : TransactionIdAllocator
  live : TransactionId → Option TransactionStateMachine
  savepoints : TransactionId → Option SavepointStack
  status : TransactionStatusTable

namespace TransactionManager

def withRecoveredFloor (floor : UInt64) : TransactionManager :=
  ⟨.withFloor floor, fun _ => none, fun _ => none, .new⟩

def new : TransactionManager := withRecoveredFloor 0

def unknownTransaction : Error :=
  transactionError "transaction id is not registered with the manager"

def validateNonZeroTransactionId (id : TransactionId) : Result Unit :=
  failIf (id = 0) (transactionError "transaction id must not be zero")

def onAllocator {α : Type} (op : TransactionIdAllocator → Result (α × TransactionIdAllocator)) :
    Effect TransactionManager Error α := fun m =>
  match op m.allocator with
  | .error err => (.error err, m)
  | .ok (a, allocator) => (.ok a, { m with allocator := allocator })

/-- `machine_mut`: work on the live machine in place, keeping what a failure wrote. -/
def onMachine (id : TransactionId) (op : Effect TransactionStateMachine Error Unit) :
    Effect TransactionManager Error Unit := fun m =>
  match m.live id with
  | none => (.error unknownTransaction, m)
  | some machine =>
    ((op machine).1, { m with live := update m.live id (some (op machine).2) })

/-- `savepoints_mut`: work on the stack, which its operations write only on success. -/
def onSavepoints {α : Type} (id : TransactionId)
    (op : SavepointStack → Result (α × SavepointStack)) :
    Effect TransactionManager Error α := fun m =>
  match m.savepoints id with
  | none => (.error unknownTransaction, m)
  | some stack =>
    match op stack with
    | .error err => (.error err, m)
    | .ok (a, stack') =>
      (.ok a, { m with savepoints := update m.savepoints id (some stack') })

def onStatus (op : TransactionStatusTable → Result TransactionStatusTable) :
    Effect TransactionManager Error Unit := fun m =>
  match op m.status with
  | .error err => (.error err, m)
  | .ok status => (.ok (), { m with status := status })

def clearSavepoints (m : TransactionManager) (id : TransactionId) : TransactionManager :=
  { m with savepoints := update m.savepoints id ((m.savepoints id).map .clear) }

def seedAllocator (floor : UInt64) : Effect TransactionManager Error Unit :=
  onAllocator fun allocator => do
    let seeded ← allocator.seed floor
    pure ((), seeded)

def beginInner (id : TransactionId) : Effect TransactionManager Error TransactionId := do
  let m ← get
  lift (failIf (m.live id).isSome
    (transactionError "transaction id allocator returned a live id; allocator corrupted"))
  let begun := apply .begin (.new id)
  lift begun.1
  modify fun m => { m with
    live := update m.live id (some begun.2)
    savepoints := update m.savepoints id (some .new) }
  onStatus fun status => status.record id .inFlight
  pure id

def begin : Effect TransactionManager Error TransactionId := do
  let id ← onAllocator TransactionIdAllocator.allocate
  beginInner id

section

variable (id : TransactionId)

def requestCommit : Effect TransactionManager Error Unit := do
  onMachine id (apply .commitRequested)
  modify fun m => m.clearSavepoints id

def commitDurableAfterWalRecord (commitRecordLsn durableLsn : Lsn) :
    Effect TransactionManager Error Unit := do
  onMachine id (publishVisibleCommitWithDurableEvidence commitRecordLsn durableLsn)
  onStatus fun status => status.recordCommittedAfterDurableWal id commitRecordLsn durableLsn

def requestRollback : Effect TransactionManager Error Unit := do
  onMachine id (apply .rollbackRequested)
  modify fun m => m.clearSavepoints id

def rollbackDurableAfterWalRecord (rollbackRecordLsn durableLsn : Lsn) :
    Effect TransactionManager Error Unit := do
  onMachine id (completeRollbackWithDurableEvidence rollbackRecordLsn durableLsn)
  onStatus fun status => status.recordRolledBackAfterDurableWal id rollbackRecordLsn durableLsn

end

-- Unlike the two requests, neither of these clears the savepoints.
def poison (id : TransactionId) : Effect TransactionManager Error Unit :=
  onMachine id (apply .poison)

def fail (id : TransactionId) : Effect TransactionManager Error Unit :=
  onMachine id (apply .fail)

def dispose (id : TransactionId) : Effect TransactionManager Error Unit := do
  onMachine id (apply .dispose)
  let m ← get
  lift (failIf ((m.live id).map state ≠ some .disposed)
    (transactionError "transaction dispose did not reach Disposed state"))
  -- The status entry stays: it is the outcome that visibility queries read.
  modify fun m => { m with
    live := update m.live id none
    savepoints := update m.savepoints id none }

def requireActiveInFlight (m : TransactionManager) (id : TransactionId) (operation : String) :
    Result Unit := do
  validateNonZeroTransactionId id
  let machine ← orError (m.live id) unknownTransaction
  let status ← orError (m.status id) unknownTransaction
  failIf (machine.state ≠ .active ∨ status ≠ .inFlight)
    (transactionError s!"{operation} requires an active in-flight transaction")

/-- The three savepoint calls: the same guard, then one operation of the stack. -/
def onActiveSavepoints {α : Type} (id : TransactionId) (operation : String)
    (op : SavepointStack → Result (α × SavepointStack)) :
    Effect TransactionManager Error α := do
  let m ← get
  lift (m.requireActiveInFlight id operation)
  onSavepoints id op

def createSavepoint (id : TransactionId) (name : String) :
    Effect TransactionManager Error Savepoint :=
  onActiveSavepoints id "savepoint creation" fun stack => stack.create name

def releaseSavepoint (id : TransactionId) (name : String) :
    Effect TransactionManager Error SavepointReleaseEvidence :=
  onActiveSavepoints id "savepoint release" fun stack => stack.release name

def rollbackToSavepoint (id : TransactionId) (name : String) :
    Effect TransactionManager Error SavepointRollbackEvidence :=
  onActiveSavepoints id "savepoint rollback" fun stack => stack.rollbackTo name

def savepointDepth (m : TransactionManager) (id : TransactionId) : Nat :=
  ((m.savepoints id).map SavepointStack.depth).getD 0

end TransactionManager

end Andromeda
