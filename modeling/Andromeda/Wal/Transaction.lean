import Andromeda.Wal.Record
import Andromeda.Lib.Grouping
import Mathlib.Data.List.Find

/-!
# Transactions as the log shows them

The durable state of a transaction is read off the boundary records the log holds
for it, in one pass over the log. The results of this module replace that pass by
the question which kinds of record occur: `state_eq_committed` for a transaction,
`find_summary` for the table of all transactions.
-/

namespace Andromeda

open WalRecord List Grouping

inductive DurableTransactionState where
  | open
  | committed
  | rolledBack
  | incomplete
deriving DecidableEq

def DurableTransactionState.debugName : DurableTransactionState → String
  | .open => "Open"
  | committed => "Committed"
  | rolledBack => "RolledBack"
  | incomplete => "Incomplete"

structure DurableTransactionResume where
  transactionId : TransactionId
  state : DurableTransactionState
  firstLsn : Lsn
  lastLsn : Lsn
  beginLsn : Option Lsn
  commitLsn : Option Lsn
  rollbackLsn : Option Lsn
  recordCount : Nat

def DurableTransactionResume.isIncomplete (s : DurableTransactionResume) : Bool :=
  match s.state with
  | .open | .incomplete => true
  | _ => false

structure IncompleteDurableTransaction where
  transactionId : TransactionId
  firstLsn : Lsn
  lastLsn : Lsn
  recordCount : Nat

/-- The mutable variables of `summarize_transaction`. -/
structure TransactionScan where
  firstLsn : Option Lsn := none
  lastLsn : Option Lsn := none
  beginLsn : Option Lsn := none
  commitLsn : Option Lsn := none
  rollbackLsn : Option Lsn := none
  recordCount : Nat := 0

namespace TransactionScan

def step (id : TransactionId) (s : TransactionScan) (r : WalRecord) : TransactionScan :=
  if r.isForTransaction id then
    { firstLsn := some (s.firstLsn.elim r.lsn fun current => min current r.lsn)
      lastLsn := some (s.lastLsn.elim r.lsn fun current => max current r.lsn)
      beginLsn := if r.kind = .txBegin then some r.lsn else s.beginLsn
      commitLsn := if r.kind = .txCommit then some r.lsn else s.commitLsn
      rollbackLsn := if r.kind = .txRollback then some r.lsn else s.rollbackLsn
      recordCount := s.recordCount + 1 }
  else s

def run (id : TransactionId) (records : List WalRecord) : TransactionScan :=
  records.foldl (step id) {}

def state (s : TransactionScan) : DurableTransactionState :=
  match s.beginLsn, s.commitLsn, s.rollbackLsn with
  | some _, some _, none => .committed
  | some _, none, some _ => .rolledBack
  | some _, none, none => .open
  | _, _, _ => .incomplete

end TransactionScan

open TransactionScan

def summarizeTransaction (id : TransactionId) (records : List WalRecord) :
    Option DurableTransactionResume :=
  let s := run id records
  match s.firstLsn, s.lastLsn with
  | some firstLsn, some lastLsn =>
    some
      { transactionId := id
        state := s.state
        firstLsn, lastLsn
        beginLsn := s.beginLsn
        commitLsn := s.commitLsn
        rollbackLsn := s.rollbackLsn
        recordCount := s.recordCount }
  | _, _ => none

def summarizeTransactionsFromRecords (records : List WalRecord) : List DurableTransactionResume :=
  (group transactionId records).filterMap fun g =>
    summarizeTransaction g.1 g.2

/-! ## Which records occur -/

def HasRecord (records : List WalRecord) (id : TransactionId) (kind : WalRecordKind) : Prop :=
  ∃ r ∈ records, r.transactionId = some id ∧ r.kind = kind
deriving Decidable

@[mk_iff committed_def]
structure Committed (records : List WalRecord) (id : TransactionId) : Prop where
  begun : HasRecord records id .txBegin
  committed : HasRecord records id .txCommit
  notRolledBack : ¬ HasRecord records id .txRollback

variable {records : List WalRecord} {id : TransactionId}

instance (records : List WalRecord) (id : TransactionId) : Decidable (Committed records id) :=
  decidable_of_iff _ (committed_def records id).symm

theorem hasRecord_concat {r : WalRecord} {kind : WalRecordKind} :
    HasRecord (records ++ [r]) id kind ↔
      HasRecord records id kind ∨ (r.transactionId = some id ∧ r.kind = kind) := by
  simp [HasRecord, or_and_right, exists_or]

namespace TransactionScan

section

variable (id : TransactionId) (records : List WalRecord)

theorem run_concat (r : WalRecord) : run id (records ++ [r]) = (run id records).step id r := by
  rw [run, foldl_append]
  rfl

theorem run_spec : ((run id records).beginLsn.isSome ↔ HasRecord records id .txBegin) ∧
    ((run id records).commitLsn.isSome ↔ HasRecord records id .txCommit) ∧
    ((run id records).rollbackLsn.isSome ↔ HasRecord records id .txRollback) ∧
    ((run id records).firstLsn.isSome ↔ ∃ r ∈ records, r.transactionId = some id) ∧
    ((run id records).lastLsn.isSome ↔ ∃ r ∈ records, r.transactionId = some id) := by
  induction records using List.reverseRecOn with
  | nil => simp [run, HasRecord]
  | append_singleton records r ih =>
    obtain ⟨hbegin, hcommit, hrollback, hfirst, hlast⟩ := ih
    rw [run_concat]
    simp only [hasRecord_concat]
    by_cases hfor : r.transactionId = some id
    · have hstep : r.isForTransaction id = true := by
        simpa [isForTransaction, transactionId] using hfor
      simp only [step, hstep, if_true, hfor, true_and]
      refine ⟨?_, ?_, ?_, ?_, ?_⟩
      · by_cases hkind : r.kind = .txBegin <;> simp [hkind, hbegin]
      · by_cases hkind : r.kind = .txCommit <;> simp [hkind, hcommit]
      · by_cases hkind : r.kind = .txRollback <;> simp [hkind, hrollback]
      · simpa using Or.inr hfor
      · simpa using Or.inr hfor
    · have hstep : r.isForTransaction id = false := by
        simpa [isForTransaction, transactionId] using hfor
      simp [step, hstep, hbegin, hcommit, hrollback, hfirst, hlast, hfor]

theorem run_filter :
    run id (records.filter fun r => r.transactionId = some id) = run id records := by
  induction records using List.reverseRecOn with
  | nil => rfl
  | append_singleton records r ih =>
    rw [filter_append, run_concat]
    by_cases hfor : r.transactionId = some id
    · rw [filter_cons_of_pos (by simpa using hfor), filter_nil, run_concat, ih]
    · have hstep : r.isForTransaction id = false := by
        simpa [isForTransaction, transactionId] using hfor
      rw [filter_cons_of_neg (by simpa using hfor), filter_nil, append_nil, ih]
      simp [step, hstep]

theorem state_eq_committed : (run id records).state = .committed ↔ Committed records id := by
  obtain ⟨hbegin, hcommit, hrollback, -, -⟩ := run_spec id records
  rw [committed_def, ← hbegin, ← hcommit, ← hrollback, state]
  cases (run id records).beginLsn <;> cases (run id records).commitLsn <;>
    cases (run id records).rollbackLsn <;> simp

theorem state_eq_rolledBack : (run id records).state = .rolledBack ↔ HasRecord records id .txBegin ∧
      ¬ HasRecord records id .txCommit ∧ HasRecord records id .txRollback := by
  obtain ⟨hbegin, hcommit, hrollback, -, -⟩ := run_spec id records
  rw [← hbegin, ← hcommit, ← hrollback, state]
  cases (run id records).beginLsn <;> cases (run id records).commitLsn <;>
    cases (run id records).rollbackLsn <;> simp

end

end TransactionScan

theorem summarizeTransaction_eq_none :
    summarizeTransaction id records = none ↔ ∀ r ∈ records, r.transactionId ≠ some id := by
  obtain ⟨-, -, -, hfirst, hlast⟩ := run_spec id records
  have hnot : (∀ r ∈ records, r.transactionId ≠ some id) ↔
      ¬ ∃ r ∈ records, r.transactionId = some id := by
    simp
  rw [hnot]
  simp only [summarizeTransaction]
  cases h₁ : (run id records).firstLsn with
  | none => simpa [h₁] using hfirst
  | some l₁ =>
    cases h₂ : (run id records).lastLsn with
    | none => simpa [h₂] using hlast
    | some l₂ => simpa [h₁] using hfirst

theorem summarizeTransaction_map_state (h : ∃ r ∈ records, r.transactionId = some id) :
    (summarizeTransaction id records).map DurableTransactionResume.state =
      some (run id records).state := by
  obtain ⟨-, -, -, hfirst, hlast⟩ := run_spec id records
  obtain ⟨first, hfirst⟩ := Option.isSome_iff_exists.mp (hfirst.mpr h)
  obtain ⟨last, hlast⟩ := Option.isSome_iff_exists.mp (hlast.mpr h)
  simp [summarizeTransaction, hfirst, hlast]

theorem summarizeTransaction_state {s : DurableTransactionResume}
    (h : summarizeTransaction id records = some s) :
    s.transactionId = id ∧ (s.state = .committed ↔ Committed records id) := by
  simp only [summarizeTransaction] at h
  split at h
  next =>
    cases h
    exact ⟨rfl, state_eq_committed id records⟩
  next => cases h

theorem summarizeTransaction_group {g : TransactionId × List WalRecord}
    (h : g ∈ group transactionId records) :
    summarizeTransaction g.1 g.2 = summarizeTransaction g.1 records ∧
      ∃ s, summarizeTransaction g.1 g.2 = some s ∧ s.transactionId = g.1 := by
  obtain ⟨hfilter, hne⟩ := mem_group h
  have hsame : summarizeTransaction g.1 g.2 = summarizeTransaction g.1 records := by
    simp [hfilter, summarizeTransaction, run_filter]
  refine ⟨hsame, ?_⟩
  cases hsum : summarizeTransaction g.1 g.2 with
  | some s => exact ⟨s, rfl, (summarizeTransaction_state hsum).1⟩
  | none =>
    rw [summarizeTransaction_eq_none] at hsum
    obtain ⟨r, rest, hcons⟩ := exists_cons_of_ne_nil hne
    have hr : r ∈ g.2 := by simp [hcons]
    have htx : r.transactionId = some g.1 := by
      rw [hfilter] at hr
      simpa using (mem_filter.mp hr).2
    exact absurd htx (hsum r hr)

theorem find_summary (id : TransactionId) (records : List WalRecord) :
    (summarizeTransactionsFromRecords records).find? (fun s => s.transactionId = id) =
      summarizeTransaction id records := by
  have hkeys : ∀ g ∈ group transactionId records,
      (summarizeTransaction g.1 g.2).any (fun s => s.transactionId = id) = decide (g.1 = id) := by
    intro g hg
    obtain ⟨-, s, hsome, hid⟩ := summarizeTransaction_group hg
    rw [hsome, Option.any_some, hid]
  rw [summarizeTransactionsFromRecords, List.find?_filterMap, List.find?_congr hkeys]
  cases hfind : (group transactionId records).find? (fun g => decide (g.1 = id)) with
  | some g =>
    have hg := List.mem_of_find?_eq_some hfind
    have hid : g.1 = id := by simpa using List.find?_some hfind
    rw [Option.bind_some, (summarizeTransaction_group hg).1, hid]
  | none =>
    rw [find_group] at hfind
    split_ifs at hfind with hempty
    rw [Option.bind_none, eq_comm, summarizeTransaction_eq_none]
    simpa using hempty

end Andromeda
