import Andromeda.Lib.CycleSearch
import Andromeda.Locking.LockTable
import Mathlib.Data.List.Dedup

/-!
# Deadlock detection

The wait-for graph of a lock-table snapshot, the depth-first search for a first cycle
under a deadline, the choice of a victim and the decision handed to a coordinator.
Detection reads only: no part of it changes the lock table.
-/

namespace Andromeda

open Fallible

namespace Deadlock

def validateTransactionId (txId : TransactionId) : Result Unit :=
  failIf (txId = 0) (transactionError "deadlock transaction id must not be zero")

def validateNotSelfEdge (waitingTx blockingTx : TransactionId) : Result Unit :=
  failIf (waitingTx = blockingTx) (transactionError "deadlock wait-for self edge is invalid")

def validateCycleParticipants (cycleParticipants : List TransactionId) : Result Unit := do
  failIf (cycleParticipants.length < 2)
    (transactionError "deadlock cycle must contain at least two transactions")
  forM cycleParticipants validateTransactionId

end Deadlock

open Deadlock

/-! ## Policy and deadline

Durations are nanoseconds. -/

def maxDeadlockTimeout : Nat := 60000000000

def validateDeadlockTimeout (detectionTimeout : Nat) : Result Unit := do
  failIf (detectionTimeout = 0) (transactionError "deadlock detection timeout must not be zero")
  failIf (maxDeadlockTimeout < detectionTimeout)
    (transactionError "deadlock detection timeout exceeds V0 bound")

inductive DeadlockVictimPolicy where
  | youngestTransactionStartOrder
  | youngestTransactionId
  | oldestTransactionId
deriving DecidableEq

structure DeadlockPolicy where
  detectionTimeout : Nat := 500000000
  victimPolicy : DeadlockVictimPolicy := .youngestTransactionStartOrder

def DeadlockPolicy.validate (policy : DeadlockPolicy) : Result Unit :=
  validateDeadlockTimeout policy.detectionTimeout

/-- A clock, as the instants that its readers see one after the other. -/
abbrev DeadlockClock := Nat → Nat

structure DeadlockDetectionDeadline where
  startedAt : Nat
  timeout : Nat

namespace DeadlockDetectionDeadline

def elapsedAt (deadline : DeadlockDetectionDeadline) (now : Nat) : Nat := now - deadline.startedAt

def isExpiredAt (deadline : DeadlockDetectionDeadline) (now : Nat) : Bool :=
  deadline.timeout ≤ deadline.elapsedAt now

end DeadlockDetectionDeadline

/-! ## The wait-for graph -/

def sortedUnique (txIds : List TransactionId) : List TransactionId :=
  txIds.dedup.insertionSort fun a b => a ≤ b

structure WaitForGraph where
  edges : List (TransactionId × TransactionId)

namespace WaitForGraph

def new : WaitForGraph := ⟨[]⟩

def edgeLe (a b : TransactionId × TransactionId) : Prop := a.1 < b.1 ∨ a.1 = b.1 ∧ a.2 ≤ b.2
deriving Decidable

/-- Whether the graph changed, and the graph. -/
def insertEdge (g : WaitForGraph) (waitingTx blockingTx : TransactionId) :
    Result (Bool × WaitForGraph) := do
  validateTransactionId waitingTx
  validateTransactionId blockingTx
  validateNotSelfEdge waitingTx blockingTx
  pure (if (waitingTx, blockingTx) ∈ g.edges then (false, g)
    else (true, ⟨g.edges.orderedInsert edgeLe (waitingTx, blockingTx)⟩))

/-- The inner loop of `from_lock_table_snapshot`; a holder of the waiter's own transaction
is skipped. -/
def addHolder (waiter : LockWaiter) (g : WaitForGraph) (holder : LockHolder) :
    Result WaitForGraph := do
  validateTransactionId holder.txId
  if holder.txId = waiter.txId then pure g
  else if holder.mode.isCompatibleWith waiter.mode then pure g
  else do
    let inserted ← g.insertEdge waiter.txId holder.txId
    pure inserted.2

def addWaiter (holders : List LockHolder) (g : WaitForGraph) (waiter : LockWaiter) :
    Result WaitForGraph := do
  validateTransactionId waiter.txId
  holders.foldlM (addHolder waiter) g

def addEntry (g : WaitForGraph) (resource : LockResource × LockEntry) : Result WaitForGraph :=
  resource.2.waiters.foldlM (addWaiter resource.2.holders) g

def fromLockTableSnapshot (snapshot : List (LockResource × LockEntry)) : Result WaitForGraph :=
  snapshot.foldlM addEntry new

def blockersFor (g : WaitForGraph) (waitingTx : TransactionId) : Result (List TransactionId) := do
  validateTransactionId waitingTx
  pure ((g.edges.filter fun e => e.1 = waitingTx).map Prod.snd)

def isEmpty (g : WaitForGraph) : Bool := g.edges.isEmpty

def transactionIds (g : WaitForGraph) : List TransactionId :=
  sortedUnique (g.edges.flatMap fun e => [e.1, e.2])

def validate (g : WaitForGraph) : Result Unit :=
  forM g.edges fun e => do
    validateTransactionId e.1
    validateTransactionId e.2
    validateNotSelfEdge e.1 e.2

/-- The outcome, and how often the clock was read. -/
def findFirstCycleUntil (g : WaitForGraph) (deadline : DeadlockDetectionDeadline)
    (clock : DeadlockClock) : Result (CycleSearch.Outcome TransactionId) × Nat :=
  CycleSearch.findFirstCycle g.blockersFor (fun n => deadline.isExpiredAt (clock n))
    g.transactionIds

end WaitForGraph

structure DeadlockTransactionMetadata where
  txId : TransactionId
  startOrder : UInt64

structure DeadlockTransactionMetadataTable where
  entries : TransactionId → Option DeadlockTransactionMetadata

namespace DeadlockTransactionMetadataTable

def new : DeadlockTransactionMetadataTable := ⟨fun _ => none⟩

def metadataFor (table : DeadlockTransactionMetadataTable) (txId : TransactionId) :
    Result (Option DeadlockTransactionMetadata) := do
  validateTransactionId txId
  pure (table.entries txId)

def hasMetadataForAll (table : DeadlockTransactionMetadataTable) : List TransactionId → Result Bool
  | [] => pure true
  | txId :: txIds => do
    validateTransactionId txId
    if (table.entries txId).isNone then pure false else table.hasMetadataForAll txIds

end DeadlockTransactionMetadataTable

def missingTransactionOrderingMetadataReason : String :=
  "deadlock transaction ordering metadata missing for cycle participant"

def deadlockDetectionTimeoutReason : String := "deadlock detection deadline expired"

structure DeadlockVictim where
  txId : TransactionId
  victimPolicy : DeadlockVictimPolicy
  cycleParticipants : List TransactionId
deriving DecidableEq

/-- The loop over the participants; later start orders win, then greater ids. -/
def selectYoungestLoop (table : DeadlockTransactionMetadataTable) :
    List TransactionId → Option (UInt64 × TransactionId) → Result (Option (UInt64 × TransactionId))
  | [], selected => pure selected
  | txId :: txIds, selected => do
    let found ← table.metadataFor txId
    let metadata ← orError found (transactionError missingTransactionOrderingMetadataReason)
    selectYoungestLoop table txIds (match selected with
      | none => some (metadata.startOrder, txId)
      | some current =>
        if current.1 < metadata.startOrder ∨
            current.1 = metadata.startOrder ∧ current.2 < txId then
          some (metadata.startOrder, txId)
        else some current)

def selectYoungestByStartOrder (sortedParticipants : List TransactionId)
    (table : DeadlockTransactionMetadataTable) : Result TransactionId := do
  let selected ← selectYoungestLoop table sortedParticipants none
  orError (selected.map Prod.snd) (transactionError "deadlock cycle must not be empty")

def DeadlockVictimPolicy.select (sortedParticipants : List TransactionId)
    (table : DeadlockTransactionMetadataTable) : DeadlockVictimPolicy → Result TransactionId
  | .youngestTransactionStartOrder => selectYoungestByStartOrder sortedParticipants table
  | .youngestTransactionId =>
    orError sortedParticipants.getLast? (transactionError "deadlock cycle must not be empty")
  | .oldestTransactionId =>
    orError sortedParticipants.head? (transactionError "deadlock cycle must not be empty")

def DeadlockVictim.fromCycleWithTransactionMetadata (cycleParticipants : List TransactionId)
    (victimPolicy : DeadlockVictimPolicy) (table : DeadlockTransactionMetadataTable) :
    Result DeadlockVictim := do
  validateCycleParticipants cycleParticipants
  let sortedParticipants := sortedUnique cycleParticipants
  let txId ← victimPolicy.select sortedParticipants table
  pure ⟨txId, victimPolicy, sortedParticipants⟩

inductive DeadlockDetectionStatus where
  | noCycle
  | cycleFound (victim : DeadlockVictim) (cycleParticipants : List TransactionId)
  | timedOut (reason : String) (elapsed timeout : Nat)
  | deferred (reason : String)

def timeoutStatus (deadline : DeadlockDetectionDeadline) (now : Nat) : DeadlockDetectionStatus :=
  .timedOut deadlockDetectionTimeoutReason (deadline.elapsedAt now) deadline.timeout

section

variable (policy : DeadlockPolicy)

/-- Start orders are looked up under the policy that uses them only. -/
def DeadlockPolicy.missesMetadata (table : DeadlockTransactionMetadataTable)
    (cycleParticipants : List TransactionId) :
    Result Bool :=
  if policy.victimPolicy = .youngestTransactionStartOrder then do
    let complete ← table.hasMetadataForAll cycleParticipants
    pure !complete
  else pure false

def DeadlockPolicy.statusOfCycle (table : DeadlockTransactionMetadataTable)
    (cycleParticipants : List TransactionId) :
    Result DeadlockDetectionStatus := do
  let missing ← policy.missesMetadata table cycleParticipants
  if missing then pure (.deferred missingTransactionOrderingMetadataReason)
  else do
    let victim ← DeadlockVictim.fromCycleWithTransactionMetadata cycleParticipants
      policy.victimPolicy table
    pure (.cycleFound victim victim.cycleParticipants)

/-- `DeadlockDetector::detect_with_transaction_metadata_and_deadline`. The first look at the
clock is the one before the search. -/
def detectWithTransactionMetadataAndDeadline (g : WaitForGraph)
    (table : DeadlockTransactionMetadataTable) (deadline : DeadlockDetectionDeadline)
    (clock : DeadlockClock) : Result DeadlockDetectionStatus := do
  policy.validate
  validateDeadlockTimeout deadline.timeout
  failIf (policy.detectionTimeout < deadline.timeout)
    (transactionError "deadlock detection deadline exceeds policy timeout")
  if deadline.isExpiredAt (clock 0) then pure (timeoutStatus deadline (clock 0))
  else do
    g.validate
    if g.isEmpty then pure .noCycle
    else
      let search := g.findFirstCycleUntil deadline fun n => clock (n + 1)
      match search.1 with
      | .error err => .error err
      | .ok (.cycleFound cycleParticipants) => policy.statusOfCycle table cycleParticipants
      | .ok .timedOut => pure (timeoutStatus deadline (clock (search.2 + 1)))
      -- the search does not run out of fuel
      | .ok .noCycle | .ok .exhausted => pure .noCycle

end

structure DeadlockDecisionEvidence where
  lockSnapshotResourceCount : Nat
  waitForEdges : List (TransactionId × TransactionId)
deriving DecidableEq

inductive DeadlockDecision where
  | noCycle (evidence : DeadlockDecisionEvidence)
  | victimSuggested (victim : DeadlockVictim) (cycleParticipants : List TransactionId)
      (evidence : DeadlockDecisionEvidence)
  | deferred (reason : String) (evidence : DeadlockDecisionEvidence)
  | timedOut (reason : String) (elapsed timeout : Nat) (evidence : DeadlockDecisionEvidence)
deriving DecidableEq

def decisionFromDetectionStatus (status : DeadlockDetectionStatus)
    (evidence : DeadlockDecisionEvidence) : DeadlockDecision :=
  match status with
  | .noCycle => .noCycle evidence
  | .cycleFound victim cycleParticipants => .victimSuggested victim cycleParticipants evidence
  | .timedOut reason elapsed timeout => .timedOut reason elapsed timeout evidence
  | .deferred reason => .deferred reason evidence

def decideDeadlockFromLockTableSnapshotWithDeadline (snapshot : List (LockResource × LockEntry))
    (policy : DeadlockPolicy) (transactionMetadata : Option DeadlockTransactionMetadataTable)
    (deadline : DeadlockDetectionDeadline) (clock : DeadlockClock) : Result DeadlockDecision := do
  let graph ← WaitForGraph.fromLockTableSnapshot snapshot
  policy.validate
  let status ← detectWithTransactionMetadataAndDeadline policy graph
    (transactionMetadata.getD .new) deadline clock
  pure (decisionFromDetectionStatus status ⟨snapshot.length, graph.edges⟩)

end Andromeda
