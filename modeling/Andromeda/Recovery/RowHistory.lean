import Andromeda.Recovery.RedoRun

/-!
# Histories of row operations

Logs of transactions that insert, update and delete rows: what such a log must satisfy,
the rows it means, and which of its records the planner keeps. Everything said of a
history can be checked on a concrete log.
-/

namespace Andromeda

open Fallible CellHistory WalRecord List

def WalRecord.rowPayload (r : WalRecord) : Option HeapRowRedoPayloadV1 :=
  if r.kind.isRow then (HeapRowRedoPayloadV1.decode r.payload r.kind).toOption else none

def WalRecord.rowOp (r : WalRecord) : Option (RowOp (PageId × UInt16) Bytes) :=
  r.rowPayload.map fun p => p.rowOp.mapKey (Prod.mk p.pageId)

def WalRecord.onPage (pageId : PageId) (r : WalRecord) : Bool :=
  r.rowPayload.any fun p => p.pageId = pageId

def lastOnPage (pageId : PageId) (records : List WalRecord) : Option WalRecord :=
  (records.filter (onPage pageId)).getLast?

/-- The LSN the last row record on a page left there, zero on an untouched page. -/
def lastLsnOnPage (pageId : PageId) (records : List WalRecord) : Lsn :=
  ((lastOnPage pageId records).map lsn).getD 0

def rowsAfter (records : List WalRecord) : PageId × UInt16 → Cell Bytes :=
  CellHistory.run (records.filterMap rowOp)

def CommittedIn (log : List WalRecord) (r : WalRecord) : Prop :=
  ∃ id, r.transactionId = some id ∧ HasRecord log id .txCommit

instance (log : List WalRecord) (r : WalRecord) : Decidable (CommittedIn log r) :=
  inferInstanceAs (Decidable (∃ id ∈ r.transactionId, _))

/-- The rows after the committed transactions' operations, in log order. -/
def committedRows (log : List WalRecord) (pageId : PageId) (slotId : UInt16) : Option Bytes :=
  (rowsAfter (log.filter fun r => CommittedIn log r) (pageId, slotId)).value?

def ReplayContext.readTuple (ctx : ReplayContext) (pageId : PageId) (slotId : UInt16) :
    Option Bytes :=
  (ctx.heapRedoPages pageId).bind fun page => page.readTuple slotId

def ExpectsPrevious (before : List WalRecord) (r : WalRecord) : Prop :=
  ∀ p ∈ r.rowPayload, p.expectedPreviousPageLsn = lastLsnOnPage p.pageId before
deriving Decidable

/-- Rows are created where none is live and removed where one is. -/
def PossibleAfter (before : List WalRecord) (r : WalRecord) : Prop :=
  ∀ op ∈ r.rowOp, op.Enabled (rowsAfter before)
deriving Decidable

/-- The record touches no row that a transaction which does not commit, other than its
own, has written. -/
def IsolatedAfter (log before : List WalRecord) (r : WalRecord) : Prop :=
  ∀ r' ∈ before, ∀ op ∈ r.rowOp, ∀ op' ∈ r'.rowOp, (∃ k ∈ op.keys, k ∈ op'.keys) →
    r'.transactionId ≠ r.transactionId → CommittedIn log r'
deriving Decidable

/-- The condition under which redo of a record gets through: the last row record on its
page, if any, is committed too, and the slot it writes was never used before. -/
def RedoableAfter (log before : List WalRecord) (r : WalRecord) : Prop :=
  ∀ p ∈ r.rowPayload, (∀ r' ∈ lastOnPage p.pageId before, CommittedIn log r') ∧
      p.rowOp.TargetFresh fun slotId => rowsAfter before (p.pageId, slotId)
deriving Decidable

structure RowHistory (log : List WalRecord) : Prop where
  valid : ∀ r ∈ log, r.Valid
  chained : Chained none log
  kinds : ∀ r ∈ log, r.kind = .txBegin ∨ r.kind = .txCommit ∨ r.kind = .txRollback ∨
    r.kind.isRow = true
  /-- transactions begin, and end at most once -/
  begun : ∀ id, HasRecord log id .txCommit → HasRecord log id .txBegin
  terminals : TerminalUnique log
  /-- row records carry payloads that lead to their own LSN, on pages of one size -/
  payloads : ∀ r ∈ log, r.kind.isRow = true →
    ∃ p, r.rowPayload = some p ∧ p.resultingPageLsn = r.lsn
  sizes : ∀ r ∈ log, ∀ r' ∈ log, ∀ p p', r.rowPayload = some p → r'.rowPayload = some p' →
    p.pageId = p'.pageId → p.pageSize = p'.pageSize
  expected : ∀ before r after, log = before ++ r :: after → ExpectsPrevious before r
  possible : ∀ before r after, log = before ++ r :: after → PossibleAfter before r
  isolated : ∀ before r after, log = before ++ r :: after → IsolatedAfter log before r

def RedoUnbroken (log : List WalRecord) : Prop :=
  ∀ before r after, log = before ++ r :: after → CommittedIn log r → RedoableAfter log before r

/-! ## Row records -/

variable {r : WalRecord}

theorem rowPayload_eq_some {p : HeapRowRedoPayloadV1} : r.rowPayload = some p ↔
      r.kind.isRow = true ∧ HeapRowRedoPayloadV1.decode r.payload r.kind = .ok p := by
  unfold rowPayload
  by_cases hrow : r.kind.isRow = true
  · rw [if_pos hrow]
    cases HeapRowRedoPayloadV1.decode r.payload r.kind with
    | error e => simp [Except.toOption]
    | ok q => simp [Except.toOption, hrow]
  · simp [hrow]

variable {op : RowOp (PageId × UInt16) Bytes} {pageId : PageId} {records : List WalRecord}

theorem rowOp_eq_some : r.rowOp = some op ↔
      ∃ p, r.rowPayload = some p ∧ op = p.rowOp.mapKey (Prod.mk p.pageId) := by
  unfold rowOp
  rw [Option.map_eq_some_iff]
  constructor
  · rintro ⟨p, hp, heq⟩
    exact ⟨p, hp, heq.symm⟩
  · rintro ⟨p, hp, heq⟩
    exact ⟨p, hp, heq.symm⟩

theorem onPage_iff : r.onPage pageId = true ↔ ∃ p, r.rowPayload = some p ∧ p.pageId = pageId := by
  unfold onPage
  rw [Option.any_eq_true]
  simp

theorem onPage_of_mem_keys {slotId : UInt16} (hop : r.rowOp = some op)
    (hkey : (pageId, slotId) ∈ op.keys) : r.onPage pageId = true := by
  obtain ⟨p, hp, heq⟩ := rowOp_eq_some.mp hop
  rw [heq, RowOp.keys_mapKey, mem_map] at hkey
  obtain ⟨slot, -, hpair⟩ := hkey
  exact onPage_iff.mpr ⟨p, hp, (Prod.mk.inj hpair).1⟩

@[simp] theorem lastOnPage_concat (pageId : PageId) (records : List WalRecord) (r : WalRecord) :
    lastOnPage pageId (records ++ [r]) =
      if r.onPage pageId then some r else lastOnPage pageId records := by
  unfold lastOnPage
  rw [filter_append]
  by_cases hr : r.onPage pageId = true
  · simp [hr]
  · simp [hr]

theorem lastOnPage_mem (h : lastOnPage pageId records = some r) :
    r ∈ records ∧ r.onPage pageId = true :=
  mem_filter.mp (List.mem_of_getLast? h)

theorem rowsAfter_of_lastOnPage_none (h : lastOnPage pageId records = none) (slotId : UInt16) :
    rowsAfter records (pageId, slotId) = .fresh := by
  rw [lastOnPage, List.getLast?_eq_none_iff, filter_eq_nil_iff] at h
  have hdropped : rowsAfter records (pageId, slotId) =
      CellHistory.run ((records.filter fun _ => false).filterMap rowOp) (pageId, slotId) := by
    refine (CellHistory.run_filter ?_).symm
    intro r hr op hop hkey
    exact absurd (onPage_of_mem_keys hop hkey) (h r hr)
  rw [hdropped]
  simp

theorem lastLsnOnPage_filter {keep : WalRecord → Bool} (hinc : Increasing records)
    (hne : ∀ r ∈ records, r.lsn ≠ 0) :
    lastLsnOnPage pageId (records.filter keep) = lastLsnOnPage pageId records ↔
      ∀ r, lastOnPage pageId records = some r → keep r = true := by
  induction records using List.reverseRecOn with
  | nil => simp [lastOnPage]
  | append_singleton records r ih =>
    have hbefore : Increasing records := hinc.sublist (sublist_append_left _ _)
    have hlt : ∀ r' ∈ records, r'.lsn < r.lsn := by
      intro r' hr'
      exact (pairwise_append.mp hinc).2.2 r' hr' r (by simp)
    have ih := ih hbefore fun r' hr' => hne r' (mem_append_left _ hr')
    rw [filter_append]
    by_cases hpage : r.onPage pageId = true
    · cases hkeep : keep r with
      | true => simp [lastLsnOnPage, hkeep, hpage]
      | false =>
        -- the last LSN of what is left is zero or belongs to an earlier record
        simp only [hkeep, filter_cons, filter_nil, Bool.false_eq_true, if_false,
          append_nil, lastLsnOnPage, lastOnPage_concat, hpage, if_true, Option.map_some,
          Option.getD_some, Option.some.injEq, forall_eq', iff_false]
        cases hlast : lastOnPage pageId (records.filter keep) with
        | none => exact fun heq => hne r (by simp) heq.symm
        | some r' =>
          have hr' := (mem_filter.mp (lastOnPage_mem hlast).1).1
          exact UInt64.ne_of_lt (hlt r' hr')
    · cases hkeep : keep r with
      | true | false => simpa [lastLsnOnPage, hkeep, hpage] using ih

/-! ## What is replayed of a row history -/

namespace RowHistory

variable {log : List WalRecord} {r : WalRecord} {id : TransactionId}

theorem not_rolledBack (h : RowHistory log) (hcommit : HasRecord log id .txCommit) :
    ¬ HasRecord log id .txRollback := by
  intro hrollback
  obtain ⟨a, ha, haid, hakind⟩ := hcommit
  obtain ⟨b, hb, hbid, hbkind⟩ := hrollback
  have hmema : a ∈ log.filter isTransactionTerminal :=
    mem_filter.mpr ⟨ha, isTransactionTerminal_iff.mpr (.inl hakind)⟩
  have hmemb : b ∈ log.filter isTransactionTerminal :=
    mem_filter.mpr ⟨hb, isTransactionTerminal_iff.mpr (.inr hbkind)⟩
  have hsymm : Std.Symm fun a b : WalRecord => a.transactionId ≠ b.transactionId :=
    ⟨fun _ _ hab => hab.symm⟩
  have hne : a ≠ b := by
    intro heq
    rw [heq, hbkind] at hakind
    cases hakind
  exact h.terminals.distinct.forall hmema hmemb hne (haid.trans hbid.symm)

theorem shouldReplay_iff (h : RowHistory log) (hr : r ∈ log) :
    ShouldReplay 0 log r ↔ r.kind.isRow = true ∧ CommittedIn log r := by
  constructor
  · intro hreplay
    have hrow : r.kind.isRow = true := by
      have hredo := hreplay.redoRelevant
      by_contra hnot
      rcases h.kinds r hr with hk | hk | hk | hk
      all_goals simp [hk, WalRecordKind.isRedoRelevant] at hredo hnot
    refine ⟨hrow, ?_⟩
    have hid : r.transactionId ≠ none :=
      (h.valid r hr).transaction (WalRecordKind.requiresTransactionId_of_isRow hrow)
    obtain ⟨id, hid⟩ := Option.ne_none_iff_exists'.mp hid
    exact ⟨id, hid, (hreplay.committed id hid).committed⟩
  · rintro ⟨hrow, id, hid, hcommit⟩
    refine ⟨UInt64.zero_le, WalRecordKind.isRedoRelevant_of_isRow hrow, ?_⟩
    intro id' hid'
    rw [hid] at hid'
    cases hid'
    exact ⟨h.begun id hcommit, hcommit, h.not_rolledBack hcommit⟩

end RowHistory

/-! ## Checking histories -/

theorem forall_split_iff {α : Type} {xs : List α} {P : List α → α → Prop} :
    (∀ before x after, xs = before ++ x :: after → P before x) ↔
      ∀ i : Fin xs.length, P (xs.take i) (xs.get i) := by
  constructor
  · intro h i
    apply h (xs.take i) (xs.get i) (xs.drop (i + 1))
    rw [get_eq_getElem, ← drop_eq_getElem_cons i.isLt, take_append_drop]
  · intro h before x after hsplit
    subst hsplit
    have := h ⟨before.length, by simp⟩
    simpa using this

theorem rowHistory_iff {log : List WalRecord} : RowHistory log ↔
    (∀ r ∈ log, r.Valid) ∧ Chained none log ∧
    (∀ r ∈ log, r.kind = .txBegin ∨ r.kind = .txCommit ∨ r.kind = .txRollback ∨
      r.kind.isRow = true) ∧
    (∀ r ∈ log, r.kind = .txCommit → ∀ id ∈ r.transactionId, HasRecord log id .txBegin) ∧
    TerminalUnique log ∧
    (∀ r ∈ log, r.kind.isRow = true → ∃ p ∈ r.rowPayload, p.resultingPageLsn = r.lsn) ∧
    (∀ r ∈ log, ∀ r' ∈ log, ∀ p ∈ r.rowPayload, ∀ p' ∈ r'.rowPayload, p.pageId = p'.pageId →
      p.pageSize = p'.pageSize) ∧ ∀ i : Fin log.length, ExpectsPrevious (log.take i) (log.get i) ∧
      PossibleAfter (log.take i) (log.get i) ∧ IsolatedAfter log (log.take i) (log.get i) := by
  constructor
  · intro h
    refine ⟨h.valid, h.chained, h.kinds, ?_, h.terminals, h.payloads, ?_, ?_⟩
    · intro r hr hkind id hid
      exact h.begun id ⟨r, hr, hid, hkind⟩
    · intro r hr r' hr' p hp p' hp'
      exact h.sizes r hr r' hr' p p' hp hp'
    · intro i
      exact ⟨forall_split_iff.mp h.expected i, forall_split_iff.mp h.possible i,
        forall_split_iff.mp h.isolated i⟩
  · rintro ⟨hvalid, hchained, hkinds, hbegun, hterminals, hpayloads, hsizes, hplaces⟩
    refine ⟨hvalid, hchained, hkinds, ?_, hterminals, hpayloads, ?_,
      forall_split_iff.mpr fun i => (hplaces i).1,
      forall_split_iff.mpr fun i => (hplaces i).2.1,
      forall_split_iff.mpr fun i => (hplaces i).2.2⟩
    · rintro id ⟨r, hr, hid, hkind⟩
      exact hbegun r hr hkind id hid
    · intro r hr r' hr' p p' hp hp'
      exact hsizes r hr r' hr' p hp p' hp'

instance (log : List WalRecord) : Decidable (TerminalUnique log) :=
  decidable_of_iff _ (terminalUnique_iff log).symm

instance (log : List WalRecord) : Decidable (RowHistory log) :=
  decidable_of_iff _ rowHistory_iff.symm

instance (log : List WalRecord) : Decidable (RedoUnbroken log) :=
  decidable_of_iff _ (forall_split_iff
    (P := fun before r => CommittedIn log r → RedoableAfter log before r)).symm

end Andromeda
