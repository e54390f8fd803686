import Andromeda.Wal.Record
import Mathlib.Data.List.Chain

/-!
# Undo chains

Rollback groups the redo records by transaction and keeps one chain of undo records
for each. A chain is stored from the latest record to the earliest, and records are
taken from its end: `build_chains` says that they come out in log order.
-/

namespace Andromeda

open Fallible Function List

inductive UndoOperation where
  | undoRowInsert
  | undoRowDelete
  | undoRowUpdate
  | undoIndexInsert
  | undoIndexDelete
deriving DecidableEq

def UndoOperation.reverses : UndoOperation → WalRecordKind
  | undoRowInsert => .rowInsert
  | undoRowDelete => .rowDelete
  | undoRowUpdate => .rowUpdate
  | undoIndexInsert => .indexInsert
  | undoIndexDelete => .indexDelete

structure UndoRecord where
  originalRedoLsn : Lsn
  operation : UndoOperation
  transactionId : TransactionId
deriving DecidableEq

structure UndoChain where
  transactionId : TransactionId
  records : List UndoRecord
deriving DecidableEq

namespace UndoChain

def nextUndoRecord (chain : UndoChain) : Option (UndoRecord × UndoChain) :=
  chain.records.getLast?.map fun r => (r, { chain with records := chain.records.dropLast })

/-- The records that at most so many calls of `next_undo_record` return. -/
def calls : Nat → UndoChain → List UndoRecord
  | 0, _ => []
  | n + 1, chain =>
    match chain.nextUndoRecord with
    | none => []
    | some (r, rest) => r :: calls n rest

def drain (chain : UndoChain) : List UndoRecord := calls chain.records.length chain

def validate (chain : UndoChain) : Result Unit := do
  failIf (¬ chain.records.IsChain fun a b => ¬ a.originalRedoLsn < b.originalRedoLsn)
    (storageError "undo chain LSN ordering violated: records not in descending order")
  forM chain.records fun r => failIf (r.transactionId ≠ chain.transactionId)
    (storageError "undo chain transaction mismatch: found record for different transaction")

theorem calls_eq_reverse {id : TransactionId} {records : List UndoRecord} {n : Nat}
    (h : records.length ≤ n) : calls n ⟨id, records⟩ = records.reverse := by
  induction records using reverseRecOn generalizing n with
  | nil => cases n <;> rfl
  | append_singleton rest r ih =>
    rw [length_append, length_singleton] at h
    obtain ⟨n, rfl⟩ := Nat.exists_eq_add_of_le' (Nat.le_of_add_left_le h)
    simp [calls, nextUndoRecord, ih (Nat.le_of_add_le_add_right h)]

end UndoChain

/-- The arguments of `add_redo_record`. -/
structure RedoRecord where
  lsn : Lsn
  kind : WalRecordKind
  transactionId : TransactionId

/-- `pending_records`; a transaction without an entry has no records. -/
abbrev UndoChainsBuilder := TransactionId → List UndoRecord

namespace UndoChainsBuilder

def undoOp : WalRecordKind → Option UndoOperation
  | .rowInsert => some .undoRowInsert
  | .rowDelete => some .undoRowDelete
  | .rowUpdate => some .undoRowUpdate
  | .indexInsert => some .undoIndexInsert
  | .indexDelete => some .undoIndexDelete
  | _ => none

def addRedoRecord (builder : UndoChainsBuilder) (r : RedoRecord) : UndoChainsBuilder :=
  match undoOp r.kind with
  | none => builder
  | some operation => update builder r.transactionId
      (builder r.transactionId ++ [⟨r.lsn, operation, r.transactionId⟩])

def buildChain (id : TransactionId) (records : List UndoRecord) : Result UndoChain := do
  forM records.reverse fun r => failIf (r.transactionId ≠ id)
    (storageError "undo chain transaction mismatch: record belongs to different transaction")
  let chain : UndoChain := ⟨id, records.reverse⟩
  chain.validate
  return chain

def build (builder : UndoChainsBuilder) (order : List TransactionId) : Result (List UndoChain) :=
  order.mapM fun id => buildChain id (builder id)

end UndoChainsBuilder

open UndoChainsBuilder

def RedoRecord.undo (r : RedoRecord) : Option UndoRecord :=
  ([.undoRowInsert, .undoRowDelete, .undoRowUpdate, .undoIndexInsert, .undoIndexDelete].find?
    fun op : UndoOperation => op.reverses = r.kind).map fun op => ⟨r.lsn, op, r.transactionId⟩

/-- What rolling back a transaction has to undo, in log order. -/
def undoRecords (redo : List RedoRecord) (id : TransactionId) : List UndoRecord :=
  (redo.filterMap RedoRecord.undo).filter fun r => r.transactionId = id

def undone (chains : List UndoChain) (id : TransactionId) : List UndoRecord :=
  (chains.filter fun chain => chain.transactionId = id).flatMap UndoChain.drain

/-- Each record of each transaction is undone once, the latest first. -/
def UndoneInOrder (redo : List RedoRecord) (chains : List UndoChain) : Prop :=
  ∀ id, (undone chains id).Perm (undoRecords redo id) ∧
    (undone chains id).Pairwise fun a b => b.originalRedoLsn < a.originalRedoLsn

variable {redo : List RedoRecord} {order : List TransactionId}

theorem addRedoRecord_eq (builder : UndoChainsBuilder) (r : RedoRecord) :
    builder.addRedoRecord r = match r.undo with
      | some undo => update builder undo.transactionId (builder undo.transactionId ++ [undo])
      | none => builder := by
  obtain ⟨lsn, kind, id⟩ := r
  cases kind <;> rfl

theorem foldl_addRedoRecord : redo.foldl addRedoRecord (fun _ => []) = undoRecords redo := by
  induction redo using reverseRecOn with
  | nil => rfl
  | append_singleton redo r ih =>
    funext id
    rw [foldl_concat, ih, addRedoRecord_eq]
    cases hundo : r.undo with
    | none => simp [undoRecords, hundo]
    | some undo =>
      by_cases hid : id = undo.transactionId
      · simp [undoRecords, hundo, hid]
      · simp [undoRecords, hundo, hid, Ne.symm hid]

section Increasing

variable (h : redo.Pairwise fun a b => a.lsn < b.lsn)
include h

theorem undoRecords_increasing (id : TransactionId) :
    (undoRecords redo id).Pairwise fun a b => a.originalRedoLsn < b.originalRedoLsn := by
  refine Pairwise.filter _ (pairwise_filterMap.mpr (h.imp ?_))
  intro a b hlt x hx y hy
  simp only [RedoRecord.undo, Option.map_eq_some_iff] at hx hy
  obtain ⟨⟨_, -, rfl⟩, ⟨_, -, rfl⟩⟩ := And.intro hx hy
  exact hlt

/-- Two records are not in decreasing order too. -/
theorem undoRecords_decreasing_iff (id : TransactionId) :
    (undoRecords redo id).Pairwise (fun a b => b.originalRedoLsn < a.originalRedoLsn) ↔
      (undoRecords redo id).length ≤ 1 := by
  have hincreasing := undoRecords_increasing h id
  match undoRecords redo id, hincreasing with
  | [], _ | [_], _ => simp
  | a :: b :: rest, hincreasing =>
    have hab := rel_of_pairwise_cons hincreasing mem_cons_self
    simp [UInt64.lt_asymm hab]

theorem buildChain_undoRecords (id : TransactionId) :
    buildChain id (undoRecords redo id) = .ok ⟨id, (undoRecords redo id).reverse⟩ := by
  have hid : ∀ r ∈ (undoRecords redo id).reverse, r.transactionId = id := by
    intro r hr
    simpa using (mem_filter.mp (mem_reverse.mp hr)).2
  have hchain := (pairwise_reverse.mpr ((undoRecords_increasing h id).imp UInt64.lt_asymm)).isChain
  simp only [buildChain, UndoChain.validate, ok_iff, forM_eq_ok]
  exact ⟨hid, ⟨hchain, hid⟩, trivial⟩

variable (hnodup : order.Nodup)
  (horder : ∀ id, id ∈ order ↔ redo.foldl addRedoRecord (fun _ => []) id ≠ [])
include hnodup horder

/-- Building succeeds, and each transaction's records come out in log order. -/
theorem build_chains : ∃ chains, build (redo.foldl addRedoRecord fun _ => []) order = .ok chains ∧
    ∀ id, undone chains id = undoRecords redo id := by
  rw [foldl_addRedoRecord] at horder ⊢
  refine ⟨_, mapM_eq_ok_map fun id _ => buildChain_undoRecords h id, ?_⟩
  intro id
  have hchains : (order.map fun id => (⟨id, (undoRecords redo id).reverse⟩ : UndoChain)).filter
      (fun chain => chain.transactionId = id) =
        replicate (order.count id) ⟨id, (undoRecords redo id).reverse⟩ := by
    simp [filter_map, Function.comp_def, filter_eq]
  rw [undone, hchains, hnodup.count]
  split_ifs with hmem
  · rw [replicate_one, flatMap_singleton, UndoChain.drain, UndoChain.calls_eq_reverse le_rfl,
      reverse_reverse]
  · rw [horder, not_not] at hmem
    rw [hmem]
    rfl

/-- The latest record comes first only where a transaction has a single one. -/
theorem undone_in_order_iff :
    (∃ chains, build (redo.foldl addRedoRecord fun _ => []) order = .ok chains ∧
      UndoneInOrder redo chains) ↔ ∀ id, (undoRecords redo id).length ≤ 1 := by
  obtain ⟨chains, hbuild, hundone⟩ := build_chains h hnodup horder
  simp only [hbuild, Except.ok.injEq, exists_eq_left', UndoneInOrder, hundone, Perm.refl, true_and,
    undoRecords_decreasing_iff h]

end Increasing

/-- Three transactions, of which the last only begins. -/
def interleavedRedo : List RedoRecord :=
  [⟨1, .txBegin, 7⟩, ⟨2, .txBegin, 8⟩, ⟨3, .rowUpdate, 8⟩, ⟨4, .rowInsert, 7⟩, ⟨5, .txBegin, 9⟩,
    ⟨6, .txCommit, 8⟩]

theorem undone_interleaved :
    ∃ chains, build (interleavedRedo.foldl addRedoRecord fun _ => []) [8, 7] = .ok chains ∧
      UndoneInOrder interleavedRedo chains := by
  have hundo : interleavedRedo.filterMap RedoRecord.undo =
      [⟨3, .undoRowUpdate, 8⟩, ⟨4, .undoRowInsert, 7⟩] := by
    decide
  have hrecords : ∀ id, undoRecords interleavedRedo id =
      if id = 8 then [⟨3, .undoRowUpdate, 8⟩] else if id = 7 then [⟨4, .undoRowInsert, 7⟩] else [] := by
    intro id
    rw [undoRecords, hundo]
    by_cases hupdates : id = 8
    · subst hupdates
      rfl
    · by_cases hinserts : id = 7
      · subst hinserts
        rfl
      · simp [Ne.symm hupdates, Ne.symm hinserts, hupdates, hinserts]
  refine (undone_in_order_iff (by decide) (by decide) fun id => ?_).mpr fun id => ?_
  · rw [foldl_addRedoRecord, hrecords]
    split_ifs <;> simp_all
  · rw [hrecords]
    split_ifs <;> simp

/-- Of one transaction's two inserts the earlier is undone first. -/
theorem undone_earliest_first : ∃ chain,
    build ([⟨1, .rowInsert, 7⟩, ⟨2, .rowInsert, 7⟩].foldl addRedoRecord fun _ => []) [7] =
      .ok [chain] ∧ chain.drain = [⟨1, .undoRowInsert, 7⟩, ⟨2, .undoRowInsert, 7⟩] :=
  ⟨⟨7, [⟨2, .undoRowInsert, 7⟩, ⟨1, .undoRowInsert, 7⟩]⟩, by decide +kernel, by decide⟩

end Andromeda
