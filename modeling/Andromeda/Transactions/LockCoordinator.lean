import Andromeda.Transactions.Calls
import Andromeda.Locking.TableRun

/-!
# The lock coordinator

The coordinator puts the phase rules of two-phase locking in front of the lock manager: a
call is checked against the caller's state machine and mirrored status, and only then reaches
the lock table. It never writes the transaction manager.
-/

namespace Andromeda

open Fallible

/-! ## The phase rules -/

def TransactionState.debug : TransactionState → String
  | .created => "Created"
  | .active => "Active"
  | .committing => "Committing"
  | .committed => "Committed"
  | .failed => "Failed"
  | .rollingBack => "RollingBack"
  | .rolledBack => "RolledBack"
  | .poisoned => "Poisoned"
  | .disposed => "Disposed"

inductive TwoPhaseOperation where
  | acquire
  | release
  | releaseAll
  | noOp
deriving DecidableEq

namespace TwoPhaseLocksValidator

section

variable (state : TransactionState)

def stateAllowsAcquire : Bool := state = .active

def stateAllowsRelease : Bool :=
  state = .committing ∨ state = .rollingBack

def stateAllowsReleaseAll : Bool :=
  state = .committed ∨ state = .rolledBack

def validateOperation : TwoPhaseOperation → Result Unit
  | .acquire => failIf (!stateAllowsAcquire state) (transactionError
      s!"cannot acquire lock in {state.debug} state; 2PL requires Active or Committing")
  | .release => failIf (!stateAllowsRelease state) (transactionError
      s!"cannot release lock in {state.debug} state; 2PL requires Committing or RollingBack")
  | .releaseAll => failIf (!stateAllowsReleaseAll state) (transactionError
      s!"cannot release_all in {state.debug} state; 2PL requires Committed or RolledBack")
  | .noOp => pure ()

end

end TwoPhaseLocksValidator

namespace TransactionManager

section

variable (m : TransactionManager)

def requireLockAcquireTransaction (id : TransactionId) : Result Unit := do
  validateNonZeroTransactionId id
  let machine ← orError (m.live id) unknownTransaction
  let status ← orError (m.status id) unknownTransaction
  failIf (machine.state ≠ .active ∨ status ≠ .inFlight)
    (transactionError "lock acquisition requires an active in-flight transaction")
  TwoPhaseLocksValidator.validateOperation machine.state .acquire

/-- The check in front of a release of one resource. -/
def requireKnownTransaction (id : TransactionId) : Result Unit := do
  validateNonZeroTransactionId id
  let machine ← orError (m.live id) unknownTransaction
  let status ← orError (m.status id) unknownTransaction
  failIf (status ≠ .inFlight) (transactionError
    "single-resource lock release requires an in-flight shrinking transaction")
  TwoPhaseLocksValidator.validateOperation machine.state .release

/-- The check in front of `release_all`; it reads the status, which outlives the machine. -/
def requireTerminalCleanupTransaction (id : TransactionId) : Result Unit := do
  validateNonZeroTransactionId id
  let status ← orError (m.status id) unknownTransaction
  failIf (status = .inFlight) (transactionError
    "release_all locks requires committed or rolled-back transaction evidence")

end

end TransactionManager

structure TransactionLockCoordinator where
  transactions : TransactionManager
  locks : LockManager

namespace TransactionLockCoordinator

def start (floor : UInt64) : TransactionLockCoordinator :=
  ⟨.withRecoveredFloor floor, .new⟩

def guarded {α : Type} (s : TransactionLockCoordinator) (check : Result Unit)
    (op : LockManager → Result α × LockManager) : Result α × TransactionLockCoordinator :=
  match check with
  | .error err => (.error err, s)
  | .ok () => ((op s.locks).1, { s with locks := (op s.locks).2 })

def acquire (s : TransactionLockCoordinator) (txId : TransactionId) (resource : LockResource)
    (mode : LockMode) : Result LockAcquireStatus × TransactionLockCoordinator :=
  s.guarded (s.transactions.requireLockAcquireTransaction txId)
    fun locks => locks.acquire txId resource mode

def release (s : TransactionLockCoordinator) (txId : TransactionId) (resource : LockResource) :
    Result LockReleaseEvidence × TransactionLockCoordinator :=
  s.guarded (s.transactions.requireKnownTransaction txId) fun locks => locks.release txId resource

def releaseAll (s : TransactionLockCoordinator) (txId : TransactionId) :
    Result (LockReleaseAllSummary × List LockPromotion) × TransactionLockCoordinator :=
  s.guarded (s.transactions.requireTerminalCleanupTransaction txId)
    fun locks => locks.releaseAll txId

end TransactionLockCoordinator

inductive CoordinatorCall where
  | transaction (c : TransactionCall)
  | acquire (txId : TransactionId) (resource : LockResource) (mode : LockMode)
  | release (txId : TransactionId) (resource : LockResource)
  | releaseAll (txId : TransactionId)

namespace TransactionLockCoordinator

def call (s : TransactionLockCoordinator) : CoordinatorCall → TransactionLockCoordinator
  | .transaction c => { s with transactions := s.transactions.call c }
  | .acquire txId resource mode => (s.acquire txId resource mode).2
  | .release txId resource => (s.release txId resource).2
  | .releaseAll txId => (s.releaseAll txId).2

def calls (s : TransactionLockCoordinator) (cs : List CoordinatorCall) :
    TransactionLockCoordinator :=
  cs.foldl call s

variable {s : TransactionLockCoordinator} {α : Type}

theorem guarded_cases (s : TransactionLockCoordinator) (check : Result Unit)
    (op : LockManager → Result α × LockManager) :
    (∃ err, check = .error err ∧ s.guarded check op = (.error err, s)) ∨
      (check = .ok () ∧ s.guarded check op = ((op s.locks).1, { s with locks := (op s.locks).2 })) := by
  cases check with
  | error err => exact .inl ⟨err, rfl, rfl⟩
  | ok u => exact .inr ⟨rfl, rfl⟩

structure Sound (s : TransactionLockCoordinator) : Prop where
  coherent : ∀ id, s.transactions.Coherent id
  orderly : s.locks.Orderly

theorem Sound.start (floor : UInt64) : (start floor).Sound :=
  ⟨TransactionManager.coherent_withRecoveredFloor floor, LockManager.Orderly.new⟩

theorem Sound.guarded (h : s.Sound) (check : Result Unit)
    (op : LockManager → Result α × LockManager) (hop : (op s.locks).2.Orderly) :
    (s.guarded check op).2.Sound := by
  rcases guarded_cases s check op with ⟨err, -, heq⟩ | ⟨-, heq⟩
  · rw [heq]
    exact h
  · rw [heq]
    exact ⟨h.coherent, hop⟩

theorem Sound.call (h : s.Sound) (c : CoordinatorCall) : (s.call c).Sound := by
  cases c with
  | transaction c =>
    exact ⟨(TransactionManager.call_change h.coherent c).coherent h.coherent, h.orderly⟩
  | acquire txId resource mode =>
    exact h.guarded _ _ (h.orderly.call (.acquire txId resource mode))
  | release txId resource => exact h.guarded _ _ (h.orderly.call (.release txId resource))
  | releaseAll txId => exact h.guarded _ _ (h.orderly.call (.releaseAll txId))

theorem Sound.calls (h : s.Sound) (cs : List CoordinatorCall) : (s.calls cs).Sound := by
  induction cs generalizing s with
  | nil => exact h
  | cons c cs ih => exact ih (h.call c)

end TransactionLockCoordinator

end Andromeda
