import Andromeda.Recovery.RedoRun
import Andromeda.TransactionLog.CommitLog

/-!
# One terminal outcome per transaction

What `record_commit` and `record_rollback` leave in the log over whole runs, and what
recovery makes of it. The manager knows a transaction from its entries only, and an
entry is written after the flush, so a call that fails in between leaves a terminal
record it does not know of. As long as no later call decides that transaction again,
every durable log is accepted and shows each reported outcome.
-/

namespace Andromeda

open Fallible Effect Function List DurableTransactionResume
open InMemoryWal hiding new

/-! ## What one log operation does -/

variable {result : Result Lsn} {rs : List WalRecord}

theorem InMemoryWal.tryAppendPayload_cases {w w' : InMemoryWal} {failure : Option Error}
    {kind : WalRecordKind} {transactionId : Option TransactionId} {payload : Bytes}
    (h : w.tryAppendPayload failure kind transactionId payload = (result, w')) :
    (∃ e, result = .error e ∧ w' = w) ∨
      ∃ r : WalRecord, result = .ok r.lsn ∧ w' = { w with records := w.records ++ [r] } ∧
        r.Valid ∧ r.Extends w.lastLsn ∧ r.kind = kind ∧ r.transactionId = transactionId := by
  unfold tryAppendPayload at h
  split at h
  · cases h
    exact .inl ⟨_, rfl, rfl⟩
  · split at h
    · cases h
      exact .inl ⟨_, rfl, rfl⟩
    · next happend =>
      cases h
      simp only [appendPayload, append, ok_iff] at happend
      obtain ⟨r, hrecord, -, happended⟩ := happend
      cases happended
      obtain ⟨hvalid, hextends, hkind, htx, -⟩ := payloadRecord_extends hrecord
      exact .inr ⟨r, rfl, rfl, hvalid, hextends, hkind, htx⟩

theorem InMemoryWal.le_advance (w : InMemoryWal) (target reached : Lsn) :
    w.durableLsn ≤ (w.advance target reached).durableLsn := by
  unfold advance
  dsimp only
  split
  next h => exact UInt64.le_of_lt h
  next => exact UInt64.le_refl _

theorem InMemoryWal.flushThrough_cases {w w' : InMemoryWal} {lsn : Lsn} {outcome : FlushOutcome}
    (h : w.flushThrough lsn outcome = (result, w')) :
    w'.records = w.records ∧ w.durableLsn ≤ w'.durableLsn ∧
      ∀ durable, result = .ok durable → durable = w'.durableLsn := by
  unfold flushThrough at h
  split at h
  · cases h
    exact ⟨rfl, UInt64.le_refl _, by simp⟩
  · cases h
    exact ⟨rfl, UInt64.le_refl _, by simp⟩
  · next target htarget =>
    obtain ⟨rfl, -, hlt, -⟩ := validateFlushTarget_eq_some.mp htarget
    split at h <;> cases h
    · exact ⟨rfl, UInt64.le_of_lt hlt, by simp⟩
    · exact ⟨rfl, w.le_advance _ _, by simp⟩
    · exact ⟨rfl, w.le_advance _ _, by simp⟩

/-! ## What one call does -/

/-- The manager has an entry of this kind for the transaction. -/
def CommitLogManager.Decided (m : CommitLogManager) (kind : WalRecordKind) (id : TransactionId) :
    Prop :=
  (kind = .txCommit ∧ m.commitEntries id ≠ none) ∨ (kind = .txRollback ∧ m.rollbackEntries id ≠ none)

/-- Everything a call of `record_commit` or `record_rollback` can do. `reported` says
whether it returned an entry, `entered` whether the record it appended got one. -/
inductive TerminalEffect (kind : WalRecordKind) (id : TransactionId) (m m' : CommitLogManager)
    (reported : Bool) : Prop
  | unchanged (wal : m'.wal = m.wal) (decided : ∀ k i, m'.Decided k i ↔ m.Decided k i)
      (known : reported = true → m.Decided kind id)
  | appended (r : WalRecord) (entered : Prop) (fresh : ∀ k, ¬ m.Decided k id)
      (valid : r.Valid) (next : r.Extends m.wal.lastLsn) (kind_eq : r.kind = kind)
      (transaction : r.transactionId = some id)
      (records : m'.wal.records = m.wal.records ++ [r])
      (durable : m.wal.durableLsn ≤ m'.wal.durableLsn)
      (decided : ∀ k i, m'.Decided k i ↔ m.Decided k i ∨ (entered ∧ k = kind ∧ i = id))
      (covered : entered → r.lsn ≤ m'.wal.durableLsn) (known : reported = true → entered)

namespace CommitLogManager

open Effect (checked_or)

variable {m m' : CommitLogManager} {id : TransactionId} {outcome : WalOutcome}

theorem onWal_bind_cases {α β : Type} {f : InMemoryWal → Result α × InMemoryWal}
    {g : α → Effect CommitLogManager Error β} {result : Result β}
    (h : (onWal f >>= g) m = (result, m')) :
    (∃ e w, f m.wal = (.error e, w) ∧ result = .error e ∧ m' = { m with wal := w }) ∨
      ∃ a w, f m.wal = (.ok a, w) ∧ g a { m with wal := w } = (result, m') := by
  rcases bind_cases h with ⟨e, hfirst, hresult⟩ | ⟨a, m₁, hfirst, hrest⟩
  · obtain ⟨hf, hm⟩ := Prod.mk.inj hfirst
    exact .inl ⟨e, (f m.wal).2, Prod.ext hf rfl, hresult, hm.symm⟩
  · obtain ⟨hf, hm⟩ := Prod.mk.inj hfirst
    rw [← hm] at hrest
    exact .inr ⟨a, (f m.wal).2, Prod.ext hf rfl, hrest⟩

variable {result : Result Unit} {kind : WalRecordKind} {payload : Bytes} {recordName : String}
  {isolationLevel : IsolationLevel} {parameterHash now : UInt64}

theorem status_only {α : Type} {a : α} {check : Result Unit}
    {f : TransactionStatusTable → Result TransactionStatusTable} {result : Result α}
    (h : ((Effect.lift check >>= fun _ => onStatus f) >>= fun _ => pure a) m = (result, m')) :
    ∃ table, m' = { m with statusTable := table } := by
  have hstatus : ∀ {result m'}, (Effect.lift check >>= fun _ => onStatus f) m = (result, m') →
      ∃ table, m' = { m with statusTable := table } := by
    intro result m' h
    refine checked_or h (fun _ => ⟨_, rfl⟩) fun _ _ hrest => ?_
    unfold onStatus at hrest
    split at hrest <;> cases hrest
    · exact ⟨_, rfl⟩
    · exact ⟨m.statusTable, rfl⟩
  rcases bind_cases h with ⟨e, hfailed, -⟩ | ⟨_, m₁, hstored, hpure⟩
  · exact hstatus hfailed
  · cases hpure
    exact hstatus hstored

theorem appendAndFlushTerminalRecord_cases {result : Result (Lsn × Lsn)}
    (h : appendAndFlushTerminalRecord kind id payload recordName outcome m = (result, m')) :
    (∃ e, result = .error e ∧ m' = m) ∨
      ∃ (r : WalRecord) (w : InMemoryWal), m' = { m with wal := w } ∧
        w.records = m.wal.records ++ [r] ∧ m.wal.durableLsn ≤ w.durableLsn ∧
        r.Valid ∧ r.Extends m.wal.lastLsn ∧ r.kind = kind ∧ r.transactionId = some id ∧
        ∀ lsns, result = .ok lsns → r.lsn ≤ w.durableLsn := by
  unfold appendAndFlushTerminalRecord at h
  rcases onWal_bind_cases h with ⟨e, w, happend, rfl, rfl⟩ | ⟨recordLsn, w₁, happend, hflush⟩
  · rcases tryAppendPayload_cases happend with ⟨_, -, rfl⟩ | ⟨r, hr, -⟩
    · exact .inl ⟨e, rfl, rfl⟩
    · cases hr
  rcases tryAppendPayload_cases happend with
    ⟨e, he, -⟩ | ⟨r, hr, rfl, hvalid, hextends, hkind, htx⟩
  · cases he
  cases hr
  right
  -- the record is in the log from here on, however the flush ends
  rcases onWal_bind_cases hflush with ⟨e, w, hfailed, rfl, rfl⟩ | ⟨durableLsn, w, hdone, hcheck⟩
  · obtain ⟨hrecords, hle, -⟩ := flushThrough_cases hfailed
    exact ⟨r, w, rfl, hrecords, hle, hvalid, hextends, hkind, htx, by simp⟩
  obtain ⟨hrecords, hle, hdurable⟩ := flushThrough_cases hdone
  refine checked_or hcheck
    (fun _ => ⟨r, w, rfl, hrecords, hle, hvalid, hextends, hkind, htx, by simp⟩)
    fun _ hcovers hpure => ?_
  cases hpure
  refine ⟨r, w, rfl, hrecords, hle, hvalid, hextends, hkind, htx, ?_⟩
  intro _ _
  rw [← hdurable durableLsn rfl]
  simpa [validateDurableFlushCoversRecord] using hcovers

theorem update_ne_none {β : Type} {f : TransactionId → Option β} {i j : TransactionId} {entry : β} :
    update f j (some entry) i ≠ none ↔ f i ≠ none ∨ i = j := by
  by_cases hi : i = j
  · simp [hi]
  · simp [hi]

/-- What follows the flush keeps the log, and enters the decision or fails. -/
def Enters {α : Type} (kind : WalRecordKind) (id : TransactionId)
    (finish : Effect CommitLogManager Error α) : Prop :=
  ∀ m m' result, finish m = (result, m') → m'.wal = m.wal ∧
    ((∃ e, result = .error e ∧ ∀ k i, m'.Decided k i ↔ m.Decided k i) ∨
      ∀ k i, m'.Decided k i ↔ m.Decided k i ∨ (k = kind ∧ i = id))

theorem newDecision_effect {α : Type} {allowed : Result Unit}
    {finish : Lsn × Lsn → Effect CommitLogManager Error α} {result : Result α}
    (hfresh : allowed = .ok () → ∀ k, ¬ m.Decided k id)
    (hfinish : ∀ lsns, Enters kind id (finish lsns)) (h : (Effect.lift allowed >>= fun _ =>
      appendAndFlushTerminalRecord kind id payload recordName outcome >>= finish) m =
        (result, m')) : TerminalEffect kind id m m' (succeeds result) := by
  refine checked_or h (fun _ => .unchanged rfl (fun _ _ => Iff.rfl) (by simp))
    fun _ hallowed happend => ?_
  have hnew := hfresh hallowed
  rcases bind_cases happend with ⟨e, hfailed, rfl⟩ | ⟨lsns, m₁, hdone, hrest⟩
  · rcases appendAndFlushTerminalRecord_cases hfailed with
      ⟨_, -, rfl⟩ | ⟨r, w, rfl, hrecords, hle, hvalid, hextends, hkind, htx, -⟩
    · exact .unchanged rfl (fun _ _ => Iff.rfl) (by simp)
    · refine .appended r False hnew hvalid hextends hkind htx hrecords hle ?_ False.elim (by simp)
      intro k i
      rw [false_and, or_false]
      exact Iff.rfl
  rcases appendAndFlushTerminalRecord_cases hdone with
    ⟨_, hno, -⟩ | ⟨r, w, rfl, hrecords, hle, hvalid, hextends, hkind, htx, hcovered⟩
  · cases hno
  obtain ⟨hwal, hdecided⟩ := hfinish lsns _ _ _ hrest
  have hw : w = m'.wal := hwal.symm
  rw [hw] at hrecords hle hcovered
  rcases hdecided with ⟨e, rfl, hsame⟩ | hentered
  · refine .appended r False hnew hvalid hextends hkind htx hrecords hle ?_ False.elim (by simp)
    intro k i
    rw [false_and, or_false]
    exact hsame k i
  · refine .appended r True hnew hvalid hextends hkind htx hrecords hle ?_
      (fun _ => hcovered lsns rfl) (fun _ => trivial)
    intro k i
    rw [true_and]
    exact hentered k i

variable {affectedRows : UInt64}

theorem recordNewCommit_effect {result : Result CommitLogEntry} (hnew : m.commitEntries id = none)
    (h : recordNewCommit id isolationLevel affectedRows parameterHash now outcome m =
      (result, m')) : TerminalEffect .txCommit id m m' (succeeds result) := by
  rw [recordNewCommit, get_bind] at h
  refine newDecision_effect ?_ ?_ h
  · intro hallowed k
    simp only [rejectCommitAfterRollback, failIf_eq_ok, not_or, not_not] at hallowed
    simp [Decided, hnew, hallowed.1]
  · intro lsns m₁ m₂ result hrest
    refine checked_or hrest (fun e => ⟨rfl, .inl ⟨e, rfl, fun _ _ => Iff.rfl⟩⟩)
      fun entry hfrom hstore => ?_
    simp only [CommitLogEntry.fromDurableWal, ok_iff] at hfrom
    rw [modify_bind] at hstore
    -- the entry is there, whatever the status table says to it
    obtain ⟨table, rfl⟩ := status_only hstore
    refine ⟨rfl, .inr ?_⟩
    intro k i
    rw [← hfrom.2]
    simp only [Decided, insertCommitEntry, update_ne_none]
    tauto

theorem recordNewRollback_effect {result : Result RollbackLogEntry}
    (hnew : m.rollbackEntries id = none)
    (h : recordNewRollback id parameterHash now outcome m = (result, m')) :
    TerminalEffect .txRollback id m m' (succeeds result) := by
  rw [recordNewRollback, get_bind] at h
  refine newDecision_effect ?_ ?_ h
  · intro hallowed k
    simp only [rejectRollbackAfterCommit, failIf_eq_ok, not_or, not_not] at hallowed
    simp [Decided, hnew, hallowed.1]
  · intro lsns m₁ m₂ result hrest
    refine checked_or hrest (fun e => ⟨rfl, .inl ⟨e, rfl, fun _ _ => Iff.rfl⟩⟩)
      fun entry hfrom hstore => ?_
    simp only [RollbackLogEntry.fromDurableWal, ok_iff] at hfrom
    rw [modify_bind] at hstore
    obtain ⟨table, rfl⟩ := status_only hstore
    refine ⟨rfl, .inr ?_⟩
    intro k i
    rw [← hfrom.2]
    simp only [Decided, insertRollbackEntry, update_ne_none]
    tauto

theorem existingCommitEntry_eq_ok {found : Option CommitLogEntry}
    (h : m.existingCommitEntry id = .ok found) : m.commitEntries id = found := by
  unfold existingCommitEntry at h
  cases hentry : m.commitEntries id with
  | none => simpa [hentry] using h
  | some entry =>
    simp only [hentry, ok_iff] at h
    exact h.2

theorem existingRollbackEntry_eq_ok {found : Option RollbackLogEntry}
    (h : m.existingRollbackEntry id = .ok found) : m.rollbackEntries id = found := by
  unfold existingRollbackEntry at h
  cases hentry : m.rollbackEntries id with
  | none => simpa [hentry] using h
  | some entry =>
    simp only [hentry, ok_iff] at h
    exact h.2

theorem recordCommit_effect {result : Result CommitLogEntry}
    (h : recordCommit id isolationLevel affectedRows parameterHash now outcome m = (result, m')) :
    TerminalEffect .txCommit id m m' (succeeds result) := by
  unfold recordCommit at h
  refine checked_or h (fun _ => .unchanged rfl (fun _ _ => Iff.rfl) (by simp))
    fun _ _ hlookup => ?_
  rw [get_bind] at hlookup
  refine checked_or hlookup (fun _ => .unchanged rfl (fun _ _ => Iff.rfl) (by simp))
    fun found hfound hrest => ?_
  have hentry := existingCommitEntry_eq_ok hfound
  cases found with
  | none => exact recordNewCommit_effect hentry hrest
  | some existing =>
    obtain ⟨table, rfl⟩ := status_only hrest
    exact .unchanged rfl (fun _ _ => Iff.rfl) (fun _ => .inl ⟨rfl, by simp [hentry]⟩)

theorem recordRollback_effect {result : Result RollbackLogEntry}
    (h : recordRollback id parameterHash now outcome m = (result, m')) :
    TerminalEffect .txRollback id m m' (succeeds result) := by
  unfold recordRollback at h
  refine checked_or h (fun _ => .unchanged rfl (fun _ _ => Iff.rfl) (by simp))
    fun _ _ hlookup => ?_
  rw [get_bind] at hlookup
  refine checked_or hlookup (fun _ => .unchanged rfl (fun _ _ => Iff.rfl) (by simp))
    fun found hfound hrest => ?_
  have hentry := existingRollbackEntry_eq_ok hfound
  cases found with
  | none => exact recordNewRollback_effect hentry hrest
  | some existing =>
    obtain ⟨table, rfl⟩ := status_only hrest
    exact .unchanged rfl (fun _ _ => Iff.rfl) (fun _ => .inr ⟨rfl, by simp [hentry]⟩)

end CommitLogManager

open CommitLogManager

/-! ## Logs of boundary records -/

theorem TerminalUnique.sublist {xs ys : List WalRecord} (h : TerminalUnique ys)
    (hsub : xs.Sublist ys) : TerminalUnique xs :=
  ⟨fun r hr => h.identified r (hsub.subset hr), h.distinct.sublist (hsub.filter _)⟩

variable {r : WalRecord}

theorem TerminalUnique.concat_of_not (h : TerminalUnique rs)
    (hr : ¬ r.isTransactionTerminal = true) : TerminalUnique (rs ++ [r]) := by
  constructor
  · rw [forall_mem_append, forall_mem_singleton]
    exact ⟨h.identified, fun hterminal => absurd hterminal hr⟩
  · rw [filter_append, filter_cons_of_neg hr, filter_nil, append_nil]
    exact h.distinct

theorem TerminalUnique.concat (h : TerminalUnique rs) (hid : r.transactionId ≠ none)
    (hnew : ∀ r' ∈ rs, r'.isTransactionTerminal = true → r'.transactionId ≠ r.transactionId) :
    TerminalUnique (rs ++ [r]) := by
  constructor
  · rw [forall_mem_append, forall_mem_singleton]
    exact ⟨h.identified, fun _ => hid⟩
  · rw [filter_append, pairwise_append]
    refine ⟨h.distinct, (pairwise_singleton _ r).filter _, ?_⟩
    intro a ha b hb
    obtain ⟨hmem, hterminal⟩ := mem_filter.mp ha
    rw [mem_singleton.mp (mem_filter.mp hb).1]
    exact hnew a hmem hterminal

theorem TerminalUnique.exclusive {id : TransactionId} (h : TerminalUnique rs)
    (hcommit : HasRecord rs id .txCommit) : ¬ HasRecord rs id .txRollback := by
  rintro ⟨b, hb, hbtx, hbkind⟩
  obtain ⟨a, ha, hatx, hakind⟩ := hcommit
  have hne : a ≠ b := by
    rintro rfl
    rw [hakind] at hbkind
    cases hbkind
  have hmem : ∀ r ∈ rs, r.kind = .txCommit ∨ r.kind = .txRollback →
      r ∈ rs.filter WalRecord.isTransactionTerminal := by
    intro r hr hkind
    exact mem_filter.mpr ⟨hr, WalRecord.isTransactionTerminal_iff.mpr hkind⟩
  have : Std.Symm fun a b : WalRecord => a.transactionId ≠ b.transactionId :=
    ⟨fun _ _ hab => hab.symm⟩
  have hdistinct := h.distinct.forall (hmem a ha (.inl hakind)) (hmem b hb (.inr hbkind)) hne
  exact hdistinct (hatx.trans hbtx.symm)

/-- A log of transaction boundaries in which each transaction begins before it ends, and
ends once. -/
structure BoundaryLog (records : List WalRecord) : Prop where
  chained : Chained none records
  valid : ∀ r ∈ records, r.Valid
  boundary : ∀ r ∈ records, r.kind.isRedoRelevant = false
  unique : TerminalUnique records
  begun : ∀ r ∈ records, r.isTransactionTerminal = true →
    ∃ b ∈ records, b.kind = .txBegin ∧ b.transactionId = r.transactionId ∧ b.lsn < r.lsn

namespace BoundaryLog

variable {records : List WalRecord} {r : WalRecord} {id : TransactionId}

theorem nil : BoundaryLog [] :=
  ⟨⟨List.isChain_nil, by simp⟩, by simp, by simp, terminalUnique_nil, by simp⟩

section

variable (h : BoundaryLog records)
include h

theorem concat (hvalid : r.Valid)
    (hextends : r.Extends (tailLsn records)) (hboundary : r.kind.isRedoRelevant = false)
    (hunique : TerminalUnique (records ++ [r])) (hbegun : r.isTransactionTerminal = true →
      ∃ b ∈ records, b.kind = .txBegin ∧ b.transactionId = r.transactionId) :
    BoundaryLog (records ++ [r]) := by
  have hchained := chained_concat.mpr ⟨h.chained, hextends⟩
  refine ⟨hchained, ?_, ?_, hunique, ?_⟩ <;> rw [forall_mem_append, forall_mem_singleton]
  · exact ⟨h.valid, hvalid⟩
  · exact ⟨h.boundary, hboundary⟩
  constructor
  · intro x hx hterminal
    obtain ⟨b, hb, hrest⟩ := h.begun x hx hterminal
    exact ⟨b, mem_append_left _ hb, hrest⟩
  · intro hterminal
    obtain ⟨b, hb, hkind, htx⟩ := hbegun hterminal
    have hlt : b.lsn < r.lsn :=
      (pairwise_append.mp hchained.gapFree.increasing).2.2 b hb r (by simp)
    exact ⟨b, mem_append_left _ hb, hkind, htx, hlt⟩

theorem concat_begin (hvalid : r.Valid)
    (hextends : r.Extends (tailLsn records)) (hkind : r.kind = .txBegin) :
    BoundaryLog (records ++ [r]) := by
  have hnot : ¬ r.isTransactionTerminal = true := by
    rw [WalRecord.isTransactionTerminal_iff, hkind]
    decide
  exact h.concat hvalid hextends (by rw [hkind]; rfl) (h.unique.concat_of_not hnot)
    fun hterminal => absurd hterminal hnot

theorem concat_terminal (hvalid : r.Valid)
    (hextends : r.Extends (tailLsn records)) (hkind : r.kind = .txCommit ∨ r.kind = .txRollback)
    (htx : r.transactionId = some id) (hbegun : HasRecord records id .txBegin)
    (hcommit : ¬ HasRecord records id .txCommit) (hrollback : ¬ HasRecord records id .txRollback) :
    BoundaryLog (records ++ [r]) := by
  have hnew : ∀ x ∈ records, x.isTransactionTerminal = true →
      x.transactionId ≠ r.transactionId := by
    intro x hx hterminal hsame
    rw [htx] at hsame
    rcases WalRecord.isTransactionTerminal_iff.mp hterminal with hx' | hx'
    · exact hcommit ⟨x, hx, hsame, hx'⟩
    · exact hrollback ⟨x, hx, hsame, hx'⟩
  have hboundary : r.kind.isRedoRelevant = false := by
    rcases hkind with hkind | hkind <;> rw [hkind] <;> rfl
  obtain ⟨b, hb, hbtx, hbkind⟩ := hbegun
  exact h.concat hvalid hextends hboundary (h.unique.concat (by simp [htx]) hnew)
    fun _ => ⟨b, hb, hbkind, hbtx.trans htx.symm⟩

theorem durable (lsn : Lsn) : BoundaryLog (durableRecords records lsn) := by
  have hpre := h.chained.gapFree.increasing.durableRecords_isPrefix lsn
  refine ⟨h.chained.of_isPrefix hpre, fun r hr => h.valid r (hpre.subset hr),
    fun r hr => h.boundary r (hpre.subset hr), h.unique.sublist hpre.sublist, ?_⟩
  intro r hr hterminal
  obtain ⟨hmem, hle⟩ := mem_filter.mp hr
  obtain ⟨b, hb, hkind, htx, hlt⟩ := h.begun r hmem hterminal
  have hle' : b.lsn ≤ lsn := UInt64.le_trans (UInt64.le_of_lt hlt) (by simpa using hle)
  exact ⟨b, mem_filter.mpr ⟨hb, by simpa using hle'⟩, hkind, htx, hlt⟩

theorem accepted {manifest : DatabaseManifest} (mode : StartupMode)
    (hmanifest : manifest.validate = .ok ()) (hstart : manifest.requiredWalStartLsn = 0)
    (hbase : manifest.baseCheckpointLsn = 0) :
    ∃ report ctx, replayWalFromLsnIntoContext manifest mode records .new = (.ok report, ctx) := by
  have hbootstrap : validateBootstrapRedoBoundary manifest records = .ok () := by
    simp only [validateBootstrapRedoBoundary, hstart, ne_eq, not_true_eq_false, if_false, ok_iff,
      hbase, not_false_eq_true, true_and]
    rintro ⟨first, hfirst, hlsn | hprevious⟩
    · exact hlsn (UInt64.toNat_inj.mp (h.chained.head first hfirst).lsn)
    · exact hprevious (h.chained.head first hfirst).previous
  have hnothing : replayedRecords manifest.requiredWalStartLsn records = [] := by
    rw [eq_nil_iff_forall_not_mem]
    intro r hr
    obtain ⟨hmem, hshould⟩ := mem_replayedRecords.mp hr
    have hredo := hshould.redoRelevant
    rw [h.boundary r hmem] at hredo
    cases hredo
  have hreplayable : Replayable manifest records :=
    { valid := h.valid
      linked := h.chained.gapFree.imp fun _ _ hab => hab.linked
      bootstrap := hbootstrap
      manifestValid := hmanifest
      covered := by
        rw [hstart]
        exact ⟨_, rfl⟩
      terminals := h.unique }
  obtain ⟨report, hreport⟩ := replay_succeeds_iff.mpr ⟨hreplayable, by rw [hnothing]; rfl⟩
  exact ⟨report, _, hreport⟩

theorem recovered_state {kind : WalRecordKind}
    (hkind : kind = .txCommit ∨ kind = .txRollback) (hrecord : HasRecord records id kind) :
    (summarizeTransaction id records).map state =
      some (if kind = .txCommit then .committed else .rolledBack) := by
  obtain ⟨r, hr, htx, hrkind⟩ := hrecord
  have hterminal : r.isTransactionTerminal = true := by
    rw [WalRecord.isTransactionTerminal_iff, hrkind]
    exact hkind
  obtain ⟨b, hb, hbkind, hbtx, -⟩ := h.begun r hr hterminal
  have hbegun : HasRecord records id .txBegin := ⟨b, hb, hbtx.trans htx, hbkind⟩
  rw [summarizeTransaction_map_state ⟨r, hr, htx⟩, Option.some.injEq]
  rcases hkind with rfl | rfl
  · rw [if_pos rfl, TransactionScan.state_eq_committed]
    have hcommit : HasRecord records id .txCommit := ⟨r, hr, htx, hrkind⟩
    exact ⟨hbegun, hcommit, h.unique.exclusive hcommit⟩
  · rw [if_neg (by decide), TransactionScan.state_eq_rolledBack]
    have hrollback : HasRecord records id .txRollback := ⟨r, hr, htx, hrkind⟩
    exact ⟨hbegun, fun hcommit => h.unique.exclusive hcommit hrollback, hrollback⟩

end

end BoundaryLog

inductive CommitLogCall where
  /-- `append_tx_begin`, on the log the manager shares with the rest of the engine. -/
  | begin (id : TransactionId) (failure : Option Error)
  | commit (id : TransactionId) (isolationLevel : IsolationLevel)
      (affectedRows parameterHash now : UInt64) (outcome : WalOutcome)
  | rollback (id : TransactionId) (parameterHash now : UInt64) (outcome : WalOutcome)
  /-- `flush_through_tx_lsn`. -/
  | flush (lsn : Lsn) (outcome : FlushOutcome)

/-- The manager with the outcomes its callers were told. -/
structure CommitLogRun where
  manager : CommitLogManager
  committed : List TransactionId
  rolledBack : List TransactionId

namespace CommitLogRun

def start : CommitLogRun := ⟨.new, [], []⟩

def call (run : CommitLogRun) : CommitLogCall → CommitLogRun
  | .begin id failure =>
    { run with
      manager :=
        (onWal (fun w => w.tryAppendPayload failure .txBegin (some id) []) run.manager).2 }
  | .commit id isolationLevel affectedRows parameterHash now outcome =>
    let (result, manager) :=
      recordCommit id isolationLevel affectedRows parameterHash now outcome run.manager
    { run with
      manager
      committed := if succeeds result then id :: run.committed else run.committed }
  | .rollback id parameterHash now outcome =>
    let (result, manager) :=
      recordRollback id parameterHash now outcome run.manager
    { run with
      manager
      rolledBack := if succeeds result then id :: run.rolledBack else run.rolledBack }
  | .flush lsn outcome =>
    { run with
      manager :=
        (onWal (fun w => w.flushThrough lsn outcome) run.manager).2 }

def calls (run : CommitLogRun) (cs : List CommitLogCall) : CommitLogRun := cs.foldl call run

def durableLog (run : CommitLogRun) : List WalRecord := run.manager.wal.replayDurable

/-- Recovery accepts the log of a crash at this point and finds what was reported. -/
structure OneOutcome (run : CommitLogRun) : Prop where
  unique : TerminalUnique run.durableLog
  accepted : ∀ (manifest : DatabaseManifest) (mode : StartupMode), manifest.validate = .ok () →
    manifest.requiredWalStartLsn = 0 → manifest.baseCheckpointLsn = 0 →
    ∃ report ctx, replayWalFromLsnIntoContext manifest mode run.durableLog .new = (.ok report, ctx)
  committed : ∀ id ∈ run.committed,
    (summarizeTransaction id run.durableLog).map state = some .committed
  rolledBack : ∀ id ∈ run.rolledBack,
    (summarizeTransaction id run.durableLog).map state = some .rolledBack

/-! ## Runs that decide each transaction once -/

/-- The call does not decide a transaction again behind a record the manager has
forgotten: the manager has an entry of it, or the log holds its begin and no end. -/
def Clear (m : CommitLogManager) : CommitLogCall → Prop
  | .commit id _ _ _ _ _ | .rollback id _ _ _ =>
    (m.commitEntries id ≠ none ∨ m.rollbackEntries id ≠ none) ∨
      (HasRecord m.wal.records id .txBegin ∧ ¬ HasRecord m.wal.records id .txCommit ∧
        ¬ HasRecord m.wal.records id .txRollback)
  | .begin .. | .flush .. => True

instance (m : CommitLogManager) : (c : CommitLogCall) → Decidable (Clear m c)
  | .commit .. | .rollback .. => inferInstanceAs (Decidable (_ ∨ _))
  | .begin .. | .flush .. => inferInstanceAs (Decidable True)

def ClearRun : CommitLogRun → List CommitLogCall → Prop
  | _, [] => True
  | run, c :: cs => Clear run.manager c ∧ ClearRun (run.call c) cs

instance : (run : CommitLogRun) → (cs : List CommitLogCall) → Decidable (ClearRun run cs)
  | _, [] => inferInstanceAs (Decidable True)
  | run, c :: cs =>
    have := instDecidableClearRun (run.call c) cs
    inferInstanceAs (Decidable (_ ∧ _))

/-- Each entry stands for a durable record of a boundary log, each report for an entry. -/
structure Sound (run : CommitLogRun) : Prop where
  log : BoundaryLog run.manager.wal.records
  decided : ∀ kind id, run.manager.Decided kind id → ∃ r ∈ run.manager.wal.records,
    r.kind = kind ∧ r.transactionId = some id ∧ r.lsn ≤ run.manager.wal.durableLsn
  committed : ∀ id ∈ run.committed, run.manager.Decided .txCommit id
  rolledBack : ∀ id ∈ run.rolledBack, run.manager.Decided .txRollback id

theorem sound_start : Sound start := by
  refine ⟨BoundaryLog.nil, ?_, by simp [start], by simp [start]⟩
  intro kind id h
  simp [CommitLogManager.Decided, start, new] at h

variable {run : CommitLogRun} {m : CommitLogManager}

/-- A log that only grew, or got further onto the medium, still has the records of the
entries. -/
theorem Sound.of_growth (h : run.Sound) (hlog : BoundaryLog m.wal.records)
    (hsub : run.manager.wal.records ⊆ m.wal.records)
    (hdurable : run.manager.wal.durableLsn ≤ m.wal.durableLsn)
    (hdecided : ∀ kind id, m.Decided kind id ↔ run.manager.Decided kind id) :
    Sound { run with manager := m } := by
  refine ⟨hlog, ?_, fun id hid => (hdecided _ id).mpr (h.committed id hid),
    fun id hid => (hdecided _ id).mpr (h.rolledBack id hid)⟩
  intro kind id hentry
  obtain ⟨r, hr, hkind, htx, hle⟩ := h.decided kind id ((hdecided kind id).mp hentry)
  exact ⟨r, hsub hr, hkind, htx, UInt64.le_trans hle hdurable⟩

theorem Sound.begin (h : run.Sound) (id : TransactionId) (failure : Option Error) :
    (run.call (.begin id failure)).Sound := by
  rw [call, onWal]
  dsimp only
  rcases happend : run.manager.wal.tryAppendPayload failure .txBegin (some id) [] with ⟨result, w⟩
  rcases tryAppendPayload_cases happend with
    ⟨e, -, rfl⟩ | ⟨r, -, rfl, hvalid, hextends, hkind, -⟩
  · exact h
  · exact h.of_growth (h.log.concat_begin hvalid hextends hkind) (subset_append_left _ _)
      (UInt64.le_refl _) (fun _ _ => Iff.rfl)

theorem Sound.flush (h : run.Sound) (lsn : Lsn) (outcome : FlushOutcome) :
    (run.call (.flush lsn outcome)).Sound := by
  rw [call, onWal]
  dsimp only
  rcases hflush : run.manager.wal.flushThrough lsn outcome with ⟨result, w⟩
  obtain ⟨hrecords, hle, -⟩ := flushThrough_cases hflush
  apply h.of_growth
  · rw [hrecords]
    exact h.log
  · rw [hrecords]
    exact List.Subset.refl _
  · exact hle
  · exact fun _ _ => Iff.rfl

theorem Sound.decision (h : run.Sound) {kind : WalRecordKind} {id : TransactionId} {reported : Bool}
    (hkind : kind = .txCommit ∨ kind = .txRollback)
    (heffect : TerminalEffect kind id run.manager m reported)
    (hclear : (run.manager.commitEntries id ≠ none ∨ run.manager.rollbackEntries id ≠ none) ∨
      (HasRecord run.manager.wal.records id .txBegin ∧
        ¬ HasRecord run.manager.wal.records id .txCommit ∧
        ¬ HasRecord run.manager.wal.records id .txRollback)) :
    Sound { run with manager := m } ∧ (reported = true → m.Decided kind id) := by
  cases heffect with
  | unchanged hwal hdecided hknown =>
    refine ⟨?_, fun hreported => (hdecided kind id).mpr (hknown hreported)⟩
    apply h.of_growth _ _ _ hdecided
    · rw [hwal]
      exact h.log
    · rw [hwal]
      exact List.Subset.refl _
    · rw [hwal]
      exact UInt64.le_refl _
  | appended r entered hfresh hvalid hnext hrkind htx hrecords hle hdecided hcovered hknown =>
    have hno : run.manager.commitEntries id = none ∧ run.manager.rollbackEntries id = none := by
      have hcommit := hfresh .txCommit
      have hrollback := hfresh .txRollback
      simpa [CommitLogManager.Decided] using And.intro hcommit hrollback
    obtain ⟨hbegun, hcommit, hrollback⟩ := hclear.resolve_left (by simp [hno.1, hno.2])
    have hlog : BoundaryLog m.wal.records := by
      rw [hrecords]
      exact h.log.concat_terminal hvalid hnext (by rw [hrkind]; exact hkind) htx hbegun hcommit
        hrollback
    refine ⟨⟨hlog, ?_, fun i hi => (hdecided _ i).mpr (.inl (h.committed i hi)),
      fun i hi => (hdecided _ i).mpr (.inl (h.rolledBack i hi))⟩,
      fun hreported => (hdecided kind id).mpr (.inr ⟨hknown hreported, rfl, rfl⟩)⟩
    intro k i hentry
    rcases (hdecided k i).mp hentry with hold | ⟨hentered, rfl, rfl⟩
    · obtain ⟨x, hx, hxkind, hxtx, hxle⟩ := h.decided k i hold
      refine ⟨x, ?_, hxkind, hxtx, UInt64.le_trans hxle hle⟩
      rw [hrecords]
      exact mem_append_left _ hx
    · refine ⟨r, ?_, hrkind, htx, hcovered hentered⟩
      rw [hrecords]
      simp

theorem forall_mem_reported {P : TransactionId → Prop} {id : TransactionId}
    {ids : List TransactionId} {ok : Bool} (hids : ∀ i ∈ ids, P i) (hid : ok = true → P id) :
    ∀ i ∈ (if ok then id :: ids else ids), P i := by
  split_ifs with hok
  · exact forall_mem_cons.mpr ⟨hid hok, hids⟩
  · exact hids

theorem Sound.call (h : run.Sound) {c : CommitLogCall} (hclear : Clear run.manager c) :
    (run.call c).Sound := by
  cases c with
  | begin id failure => exact h.begin id failure
  | flush lsn outcome => exact h.flush lsn outcome
  | commit id isolationLevel affectedRows parameterHash now outcome =>
    rw [CommitLogRun.call]
    rcases hcall : recordCommit id isolationLevel affectedRows parameterHash now
      outcome run.manager with ⟨result, m⟩
    obtain ⟨hsound, hreported⟩ :=
      h.decision (.inl rfl) (recordCommit_effect hcall) hclear
    exact ⟨hsound.log, hsound.decided, forall_mem_reported hsound.committed hreported,
      hsound.rolledBack⟩
  | rollback id parameterHash now outcome =>
    rw [CommitLogRun.call]
    rcases hcall : recordRollback id parameterHash now outcome run.manager with
      ⟨result, m⟩
    obtain ⟨hsound, hreported⟩ :=
      h.decision (.inr rfl) (recordRollback_effect hcall) hclear
    exact ⟨hsound.log, hsound.decided, hsound.committed,
      forall_mem_reported hsound.rolledBack hreported⟩

variable {cs : List CommitLogCall}

theorem Sound.calls (h : run.Sound) (hclear : ClearRun run cs) : (run.calls cs).Sound := by
  induction cs generalizing run with
  | nil => exact h
  | cons c cs ih => exact ih (h.call hclear.1) hclear.2

theorem Sound.oneOutcome (h : run.Sound) : run.OneOutcome := by
  have hdurable : BoundaryLog run.durableLog := h.log.durable _
  have hpresent : ∀ kind id, run.manager.Decided kind id → HasRecord run.durableLog id kind := by
    intro kind id hdecided
    obtain ⟨r, hr, hkind, htx, hle⟩ := h.decided kind id hdecided
    exact ⟨r, mem_filter.mpr ⟨hr, by simpa using hle⟩, htx, hkind⟩
  refine ⟨hdurable.unique, fun _ mode => hdurable.accepted mode, ?_, ?_⟩
  · intro id hid
    exact hdurable.recovered_state (.inl rfl) (hpresent _ _ (h.committed id hid))
  · intro id hid
    exact hdurable.recovered_state (.inr rfl) (hpresent _ _ (h.rolledBack id hid))

theorem ClearRun.take (h : ClearRun run cs) (n : Nat) : ClearRun run (cs.take n) := by
  induction cs generalizing run n with
  | nil => simpa using h
  | cons c cs ih =>
    cases n with
    | zero => trivial
    | succ n => exact ⟨h.1, ih h.2 n⟩

/-- In every state of a run in which no call decides a transaction behind a forgotten
record, recovery accepts the durable log and finds every reported outcome. -/
theorem clear_run_one_outcome (cs : List CommitLogCall) (hclear : ClearRun start cs) (n : Nat) :
    (start.calls (cs.take n)).OneOutcome :=
  (sound_start.calls (hclear.take n)).oneOutcome

/-- Transaction 1 commits after its record was refused once, transaction 2 rolls back with
a flush that fails behind its record, transaction 3 commits over it. -/
def clearCalls : List CommitLogCall :=
  [.begin 1 none, .begin 2 none, .begin 3 none,
   .commit 1 .snapshot 5 0 9 ⟨some (storageError "append refused"), .done⟩,
   .commit 1 .snapshot 5 0 9 {},
   .rollback 2 0 9 ⟨none, .fails 0 (storageError "fsync failed")⟩,
   .commit 3 .serializable 1 0 9 {},
   .commit 1 .snapshot 5 0 9 {}]

theorem clear_run_one_outcome_clearCalls :
    ClearRun start clearCalls ∧ (start.calls clearCalls).OneOutcome ∧
      (start.calls clearCalls).committed = [1, 3, 1] := by
  have hclear : ClearRun start clearCalls := by decide +kernel
  exact ⟨hclear, clear_run_one_outcome clearCalls hclear 8, by decide +kernel⟩

/-- The flush of a commit fails, the caller retries, and the retry appends a second
commit record. -/
def retriedCommit : List CommitLogCall :=
  [.begin 1 none,
   .commit 1 .snapshot 5 0 9 ⟨none, .fails 0 (storageError "fsync failed")⟩,
   .commit 1 .snapshot 5 0 9 {}]

/-- The retry is reported as a success, and recovery refuses the log it leaves. -/
theorem retried_commit_breaks_recovery : (start.calls retriedCommit).committed = [1] ∧
    (start.calls retriedCommit).durableLog.map WalRecord.kind =
      [.txBegin, .txCommit, .txCommit] ∧
    succeeds (replayWalFromLsnIntoContext bootstrapManifest .safeStart
      (start.calls retriedCommit).durableLog .new).1 = false ∧
    ¬ (start.calls retriedCommit).OneOutcome := by
  have hrefused : succeeds (replayWalFromLsnIntoContext bootstrapManifest .safeStart
      (start.calls retriedCommit).durableLog .new).1 = false := by
    decide +kernel
  refine ⟨by decide +kernel, by decide +kernel, hrefused, fun h => ?_⟩
  obtain ⟨report, ctx, hreplay⟩ := h.accepted bootstrapManifest .safeStart (by decide) rfl rfl
  rw [hreplay] at hrefused
  cases hrefused

end CommitLogRun

end Andromeda
