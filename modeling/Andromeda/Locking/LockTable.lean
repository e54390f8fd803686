import Andromeda.Basic
import Mathlib.Data.List.AList
import Mathlib.Data.List.Lex
import Mathlib.Data.List.Sort

/-!
# The lock table

Lock modes with their compatibility matrix, the queue of one resource, and the lock
manager over all resources. A request is granted, turned into an upgrade, queued or
rejected by `acquire`; queued requests become holders when somebody else releases,
from the front of the queue up to the first one that still conflicts.
-/

namespace Andromeda

open Fallible

inductive LockMode where
  | shared
  | exclusive
  | intentShared
  | intentExclusive
  | schemaShared
  | schemaExclusive
deriving DecidableEq

namespace LockMode

def isCompatibleWith : LockMode → LockMode → Bool
  | shared, shared
  | shared, intentShared
  | shared, schemaShared
  | intentShared, shared
  | intentShared, intentShared
  | intentShared, intentExclusive
  | intentShared, schemaShared
  | intentExclusive, intentShared
  | intentExclusive, intentExclusive
  | intentExclusive, schemaShared
  | schemaShared, shared
  | schemaShared, intentShared
  | schemaShared, intentExclusive
  | schemaShared, schemaShared => true
  | _, _ => false

end LockMode

def heldModeCoversRequested : LockMode → LockMode → Bool
  | .exclusive, .shared
  | .exclusive, .intentShared
  | .exclusive, .intentExclusive
  | .intentExclusive, .intentShared
  | .schemaExclusive, .schemaShared => true
  | _, _ => false

def isV0Upgrade : LockMode → LockMode → Bool
  | .shared, .exclusive
  | .intentShared, .intentExclusive
  | .schemaShared, .schemaExclusive => true
  | _, _ => false

inductive LockResource where
  | schema (schemaId : UInt64)
  | object (schemaId objectId : UInt64)
  | table (schemaId tableId : UInt64)
  | page (schemaId tableId pageId : UInt64)
  | row (schemaId tableId rowId : UInt64)
deriving DecidableEq

def validateNonZero (value : UInt64) (message : String) : Result Unit :=
  failIf (value = 0) (transactionError message)

def validateLockResource : LockResource → Result Unit
  | .schema schemaId => validateNonZero schemaId "lock schema resource id must not be zero"
  | .object schemaId objectId => do
    validateNonZero schemaId "lock object schema id must not be zero"
    validateNonZero objectId "lock object resource id must not be zero"
  | .table schemaId tableId => do
    validateNonZero schemaId "lock table schema id must not be zero"
    validateNonZero tableId "lock table resource id must not be zero"
  | .page schemaId tableId pageId => do
    validateNonZero schemaId "lock page schema id must not be zero"
    validateNonZero tableId "lock page table id must not be zero"
    validateNonZero pageId "lock page resource id must not be zero"
  | .row schemaId tableId rowId => do
    validateNonZero schemaId "lock row schema id must not be zero"
    validateNonZero tableId "lock row table id must not be zero"
    validateNonZero rowId "lock row resource id must not be zero"

/-- The position of a resource in the derived order: first its kind, then its ids. -/
def LockResource.rank : LockResource → List Nat
  | .schema schemaId => [0, schemaId.toNat]
  | .object schemaId objectId => [1, schemaId.toNat, objectId.toNat]
  | .table schemaId tableId => [2, schemaId.toNat, tableId.toNat]
  | .page schemaId tableId pageId => [3, schemaId.toNat, tableId.toNat, pageId.toNat]
  | .row schemaId tableId rowId => [4, schemaId.toNat, tableId.toNat, rowId.toNat]

structure LockHolder where
  txId : TransactionId
  mode : LockMode
deriving DecidableEq

structure LockWaiter where
  txId : TransactionId
  mode : LockMode
  sequence : UInt64
deriving DecidableEq

def validateLockTransactionId (txId : TransactionId) : Result Unit :=
  failIf (txId = 0) (transactionError "lock transaction id must not be zero")

def LockWaiter.new (txId : TransactionId) (mode : LockMode) (sequence : UInt64) :
    Result LockWaiter := do
  validateLockTransactionId txId
  validateNonZero sequence "lock waiter sequence must not be zero"
  pure ⟨txId, mode, sequence⟩

structure LockEntry where
  holders : List LockHolder
  waiters : List LockWaiter
deriving DecidableEq

inductive LockAcquireStatus where
  | granted
  | alreadyHeld (heldMode : LockMode)
  | upgraded (previousMode newMode : LockMode)
  | waiting (sequence : UInt64) (blockers : List LockHolder)
  | waitingUpgrade (sequence : UInt64) (heldMode requestedMode : LockMode)
      (blockers : List LockHolder)

def setHolderMode (txId : TransactionId) (mode : LockMode) : List LockHolder → List LockHolder
  | [] => []
  | h :: hs => if h.txId = txId then ⟨h.txId, mode⟩ :: hs else h :: setHolderMode txId mode hs

namespace LockEntry

def new : LockEntry := ⟨[], []⟩

def isEmpty (e : LockEntry) : Bool := e.holders.isEmpty && e.waiters.isEmpty

section

variable (e : LockEntry) (txId : TransactionId)

def holderOf : Option LockHolder :=
  e.holders.find? fun h => h.txId = txId

def waiterOf (mode : LockMode) : Option LockWaiter :=
  e.waiters.find? fun w => w.txId = txId ∧ w.mode = mode

def conflictingHolders (mode : LockMode) : List LockHolder :=
  e.holders.filter fun h => ¬ h.mode.isCompatibleWith mode

def blockers (mode : LockMode) : List LockHolder :=
  e.holders.filter fun h => h.txId ≠ txId ∧ ¬ h.mode.isCompatibleWith mode

/-- `has_older_incompatible_waiter`; requests of the same transaction count as well. -/
def hasIncompatibleWaiter (mode : LockMode) : Bool :=
  e.waiters.any fun w => !w.mode.isCompatibleWith mode

section

variable (nextSequence : UInt64)

def allocateSequence : Result UInt64 :=
  orError (checkedAdd nextSequence 1)
    (transactionError "lock waiter sequence counter overflowed")

section

variable (txId : TransactionId)

/-- The status an enqueued request is answered with, the queue and the counter. -/
def enqueue (mode : LockMode) (status : UInt64 → LockAcquireStatus) :
    Result LockAcquireStatus × LockEntry × UInt64 :=
  match allocateSequence nextSequence with
  | .error err => (.error err, e, nextSequence)
  | .ok sequence =>
    match LockWaiter.new txId mode sequence with
    | .error err => (.error err, e, sequence)
    | .ok waiter => (.ok (status sequence), { e with waiters := e.waiters ++ [waiter] }, sequence)

def acquireHeld (heldMode mode : LockMode) : Result LockAcquireStatus × LockEntry × UInt64 :=
  if heldMode = mode ∨ heldModeCoversRequested heldMode mode then
    (.ok (.alreadyHeld heldMode), e, nextSequence)
  else if !isV0Upgrade heldMode mode then
    (.error (transactionError "lock conversion between different modes is not supported by V0"), e,
      nextSequence)
  else if (e.blockers txId mode).isEmpty ∧ !e.hasIncompatibleWaiter mode then
    (.ok (.upgraded heldMode mode), { e with holders := setHolderMode txId mode e.holders },
      nextSequence)
  else
    match e.waiterOf txId mode with
    | some waiter =>
      (.ok (.waitingUpgrade waiter.sequence heldMode mode (e.blockers txId mode)), e, nextSequence)
    | none => e.enqueue nextSequence txId mode fun sequence =>
      .waitingUpgrade sequence heldMode mode (e.blockers txId mode)

def acquireNew (mode : LockMode) : Result LockAcquireStatus × LockEntry × UInt64 :=
  match e.waiterOf txId mode with
  | some waiter => (.ok (.waiting waiter.sequence (e.conflictingHolders mode)), e, nextSequence)
  | none =>
    if (e.conflictingHolders mode).isEmpty ∧ !e.hasIncompatibleWaiter mode then
      (.ok .granted, { e with holders := e.holders ++ [⟨txId, mode⟩] }, nextSequence)
    else e.enqueue nextSequence txId mode fun sequence =>
      .waiting sequence (e.conflictingHolders mode)

/-- The part of `acquire` that works on the entry. -/
def acquire (mode : LockMode) : Result LockAcquireStatus × LockEntry × UInt64 :=
  match e.holderOf txId with
  | some holder => e.acquireHeld nextSequence txId holder.mode mode
  | none => e.acquireNew nextSequence txId mode

end

end

end

end LockEntry

def waiterIsCompatibleWithHolders (holders : List LockHolder) (waiter : LockWaiter) : Bool :=
  (holders.filter fun h => h.txId ≠ waiter.txId).all fun h => h.mode.isCompatibleWith waiter.mode

def promoteWaiterToHolder (holders : List LockHolder) (waiter : LockWaiter) : List LockHolder :=
  match holders.find? fun h => h.txId = waiter.txId with
  | some holder =>
    if holder.mode ≠ waiter.mode ∧ !heldModeCoversRequested holder.mode waiter.mode then
      setHolderMode waiter.txId waiter.mode holders
    else holders
  | none => holders ++ [⟨waiter.txId, waiter.mode⟩]

/-- What a round of promotions leaves, and whom it promoted. -/
structure Promotions where
  entry : LockEntry
  promoted : List LockWaiter

def promoteCompatibleWaiters (holders : List LockHolder) : List LockWaiter → Promotions
  | [] => ⟨⟨holders, []⟩, []⟩
  | waiter :: waiters =>
    if waiterIsCompatibleWithHolders holders waiter then
      let rest := promoteCompatibleWaiters (promoteWaiterToHolder holders waiter) waiters
      ⟨rest.entry, waiter :: rest.promoted⟩
    else ⟨⟨holders, waiter :: waiters⟩, []⟩

structure EntryRelease where
  releasedHolderCount : Nat
  removedWaiterCount : Nat
  entry : LockEntry
  promoted : List LockWaiter

namespace LockEntry

/-- The two `retain` calls. -/
def withdraw (e : LockEntry) (txId : TransactionId) : LockEntry :=
  ⟨e.holders.filter fun h => h.txId ≠ txId, e.waiters.filter fun w => w.txId ≠ txId⟩

/-- What a release does to one entry; promotion runs only if a record was removed. -/
def release (e : LockEntry) (txId : TransactionId) : EntryRelease :=
  let kept := e.withdraw txId
  let releasedHolderCount := e.holders.length - kept.holders.length
  let removedWaiterCount := e.waiters.length - kept.waiters.length
  if releasedHolderCount = 0 ∧ removedWaiterCount = 0 then ⟨0, 0, kept, []⟩
  else
    let promotions := promoteCompatibleWaiters kept.holders kept.waiters
    ⟨releasedHolderCount, removedWaiterCount, promotions.entry, promotions.promoted⟩

end LockEntry

abbrev LockEntries := AList fun _ : LockResource => LockEntry

structure LockManager where
  entries : LockEntries
  nextSequence : UInt64

/-- A `LockDecisionEvidence::promotion`; its other fields are constants. -/
structure LockPromotion where
  resource : LockResource
  waiter : LockWaiter

structure LockReleaseEvidence where
  releasedAny : Bool
  evidence : List LockPromotion

structure LockReleaseAllSummary where
  affectedResourceCount : Nat := 0
  releasedHolderCount : Nat := 0
  removedWaiterCount : Nat := 0

structure ReleaseAllScan where
  entries : LockEntries
  summary : LockReleaseAllSummary := {}
  evidence : List LockPromotion := []
  emptyResources : List LockResource := []

namespace LockManager

def new : LockManager := ⟨∅, 0⟩

def entry (m : LockManager) (resource : LockResource) : Option LockEntry :=
  m.entries.lookup resource

def resources (m : LockManager) : List LockResource :=
  m.entries.keys.insertionSort fun a b => a.rank ≤ b.rank

def snapshot (m : LockManager) : List (LockResource × LockEntry) :=
  m.resources.filterMap fun resource => (m.entry resource).map fun e => (resource, e)

def acquire (m : LockManager) (txId : TransactionId) (resource : LockResource) (mode : LockMode) :
    Result LockAcquireStatus × LockManager :=
  match (do validateLockTransactionId txId; validateLockResource resource : Result Unit) with
  | .error err => (.error err, m)
  | .ok () =>
    let answer := ((m.entry resource).getD .new).acquire m.nextSequence txId mode
    (answer.1, ⟨m.entries.insert resource answer.2.1, answer.2.2⟩)

def release (m : LockManager) (txId : TransactionId) (resource : LockResource) :
    Result LockReleaseEvidence × LockManager :=
  match (do validateLockTransactionId txId; validateLockResource resource : Result Unit) with
  | .error err => (.error err, m)
  | .ok () =>
    match m.entry resource with
    | none => (.ok ⟨false, []⟩, m)
    | some e =>
      let released := e.release txId
      let entries := m.entries.insert resource released.entry
      (.ok ⟨released.releasedHolderCount ≠ 0 ∨ released.removedWaiterCount ≠ 0,
          released.promoted.map fun waiter => ⟨resource, waiter⟩⟩,
        { m with entries :=
            if released.entry.isEmpty then entries.erase resource else entries })

def releaseAllStep (txId : TransactionId) (scan : ReleaseAllScan) (resource : LockResource) :
    ReleaseAllScan :=
  match scan.entries.lookup resource with
  | none => scan
  | some e =>
    let released := e.release txId
    if released.releasedHolderCount = 0 ∧ released.removedWaiterCount = 0 then scan
    else
      { entries := scan.entries.insert resource released.entry
        summary :=
          { affectedResourceCount := scan.summary.affectedResourceCount + 1
            releasedHolderCount :=
              scan.summary.releasedHolderCount + released.releasedHolderCount
            removedWaiterCount := scan.summary.removedWaiterCount + released.removedWaiterCount }
        evidence :=
          scan.evidence ++ released.promoted.map fun waiter => ⟨resource, waiter⟩
        emptyResources :=
          if released.entry.isEmpty then scan.emptyResources ++ [resource]
          else scan.emptyResources }

/-- The promotions come after the summary in the source's evidence list. -/
def releaseAll (m : LockManager) (txId : TransactionId) :
    Result (LockReleaseAllSummary × List LockPromotion) × LockManager :=
  match validateLockTransactionId txId with
  | .error err => (.error err, m)
  | .ok () =>
    let scan := m.resources.foldl (releaseAllStep txId) { entries := m.entries }
    (.ok (scan.summary, scan.evidence),
      { m with entries := scan.emptyResources.foldl (fun s r => s.erase r) scan.entries })

end LockManager

end Andromeda
