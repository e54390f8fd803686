import Andromeda.Mvcc.Status

/-!
# Snapshots and row visibility

A row version names the transaction that created it and, once closed, the one that
deleted it, each with a timestamp. A snapshot sees the version when it sees the
creation and does not see the deletion. Both sides ask the status table; under
repeatable read a committed transaction that the snapshot lists as active stays
hidden.
-/

namespace Andromeda

open Fallible

inductive MvccIsolationPolicy where
  | readCommitted
  | repeatableRead
deriving DecidableEq

structure Snapshot where
  timestamp : UInt64
  catalogVersion : Option UInt64
  isolationPolicy : MvccIsolationPolicy
  transactionId : Option TransactionId
  activeTxIds : List TransactionId

namespace Snapshot

section

variable (s : Snapshot)

def isCurrentTransaction (id : TransactionId) : Bool :=
  s.transactionId == some id

def isTransactionActive (id : TransactionId) : Bool :=
  s.activeTxIds.contains id

def validateActive (previous : Option TransactionId) : List TransactionId → Result Unit
  | [] => .ok ()
  | id :: ids => do
    failIf (id = 0) (transactionError "snapshot active transaction id must not be zero")
    failIf (previous.any fun previous => previous ≥ id)
      (transactionError "snapshot active transaction ids must be sorted and unique")
    validateActive (some id) ids

def validate : Result Unit := do
  failIf (s.timestamp = 0) (transactionError "snapshot timestamp must not be zero")
  failIf (s.catalogVersion = some 0) (transactionError "snapshot catalog version must not be zero")
  failIf (s.transactionId = some 0) (transactionError "snapshot transaction id must not be zero")
  validateActive none s.activeTxIds

def validateOwner (statuses : TransactionStatusTable) : Result Unit :=
  match s.transactionId with
  | none => .ok ()
  | some id =>
    match statuses id with
    | some .inFlight => .ok ()
    | some _ => .error (transactionError "snapshot owner transaction is not in flight")
    | none => .error (transactionError
        "snapshot owner transaction is not registered with the manager")

def validateAgainstStatuses (statuses : TransactionStatusTable) : Result Unit := do
  s.validateOwner statuses
  forM s.activeTxIds fun id => failIf (statuses.isTerminalAt id)
    (transactionError "snapshot active transaction list contains a terminal transaction")

end

end Snapshot

structure MvccRowHeader where
  beginTs : UInt64
  endTs : Option UInt64
  creatorTxId : TransactionId
  deleterTxId : Option TransactionId
  previousVersionPtr : Option UInt64
  flags : UInt32

/-- A committed transaction is in the snapshot: always under read committed, and under
repeatable read unless the snapshot lists it as active and is not its own. -/
def Snapshot.admitsCommitted (s : Snapshot) (id : TransactionId) : Bool :=
  match s.isolationPolicy with
  | .readCommitted => true
  | .repeatableRead => s.isCurrentTransaction id || !s.isTransactionActive id

def creatorIsVisible (id : TransactionId) (status : TransactionStatus) (s : Snapshot) : Bool :=
  match status with
  | .committed => s.admitsCommitted id
  | .inFlight => s.isCurrentTransaction id
  | .rolledBack => false

def deleteIsVisible (id : TransactionId) (endTs : UInt64) (status : TransactionStatus)
    (s : Snapshot) : Bool :=
  match status with
  | .committed => if endTs > s.timestamp then false else s.admitsCommitted id
  | .inFlight => s.isCurrentTransaction id
  | .rolledBack => false

namespace MvccRowHeader

section

variable (v : MvccRowHeader)

def validate : Result Unit := do
  failIf (v.beginTs = 0) (transactionError "MVCC begin timestamp must not be zero")
  failIf (v.creatorTxId = 0) (transactionError "MVCC creator transaction id must not be zero")
  failIf (v.endTs.any fun endTs => endTs ≤ v.beginTs)
    (transactionError "MVCC end timestamp must be greater than begin timestamp")
  failIf (v.endTs.isSome ∧ v.deleterTxId.isNone)
    (transactionError "closed MVCC version requires deleter transaction id")
  failIf (v.endTs.isNone ∧ v.deleterTxId.isSome)
    (transactionError "open MVCC version must not contain deleter transaction id")
  failIf (v.deleterTxId = some 0)
    (transactionError "MVCC deleter transaction id must not be zero")

def notDeletedIn (s : Snapshot) (statuses : TransactionStatusTable) : Result Bool :=
  match v.endTs with
  | none => .ok true
  | some endTs =>
    match v.deleterTxId with
    | none => .error
        (transactionError "closed MVCC version requires deleter transaction id")
    | some deleter =>
      .ok (!deleteIsVisible deleter endTs (statuses.statusOrInFlight deleter) s)

def visibleInSnapshot (s : Snapshot) (statuses : TransactionStatusTable) : Result Bool := do
  s.validate
  v.validate
  if !creatorIsVisible v.creatorTxId (statuses.statusOrInFlight v.creatorTxId) s then pure false
  else if v.beginTs > s.timestamp ∧ !s.isCurrentTransaction v.creatorTxId then pure false
  else v.notDeletedIn s statuses

def SeenBy (s : Snapshot) (statuses : TransactionStatusTable) : Prop :=
  v.visibleInSnapshot s statuses = .ok true
deriving Decidable

end

variable {v : MvccRowHeader} {endTs : UInt64}

theorem validate_closed (h : v.validate = .ok ()) (hend : v.endTs = some endTs) :
    v.beginTs < endTs ∧ ∃ deleter, v.deleterTxId = some deleter := by
  simp only [validate, ok_iff, hend, Option.any_some, decide_eq_true_eq, UInt64.not_le,
    Option.isSome_some, true_and] at h
  obtain ⟨-, -, hlt, hdeleter, -⟩ := h
  refine ⟨hlt, Option.isSome_iff_exists.mp ?_⟩
  cases hid : v.deleterTxId with
  | none => simp [hid] at hdeleter
  | some deleter => rfl

def createdIn (v : MvccRowHeader) (s : Snapshot) (statuses : TransactionStatusTable) : Bool :=
  creatorIsVisible v.creatorTxId (statuses.statusOrInFlight v.creatorTxId) s &&
    (decide (v.beginTs ≤ s.timestamp) || s.isCurrentTransaction v.creatorTxId)

theorem visibleInSnapshot_eq (v : MvccRowHeader) (s : Snapshot)
    (statuses : TransactionStatusTable) :
    v.visibleInSnapshot s statuses = (do
      s.validate
      v.validate
      if v.createdIn s statuses then v.notDeletedIn s statuses else pure false) := by
  unfold visibleInSnapshot createdIn
  cases creatorIsVisible v.creatorTxId (statuses.statusOrInFlight v.creatorTxId) s with
  | false => simp
  | true =>
    cases s.isCurrentTransaction v.creatorTxId with
    | true => simp
    | false =>
      by_cases hle : v.beginTs ≤ s.timestamp
      · simp [hle, UInt64.not_lt.mpr hle]
      · simp [hle, UInt64.not_le.mp hle]

end MvccRowHeader

end Andromeda
