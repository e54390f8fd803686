import Andromeda.Locking.LockTable

/-!
# What a call does to the queue of a resource

`AcquireEffect` lists everything an `acquire` can do to an entry, and
`promoteCompatibleWaiters_split` and `promoted_conflict` say where promotion stops.
All later results about the lock table are read off these.
-/

namespace Andromeda

open Fallible List

theorem LockMode.isCompatibleWith_comm (a b : LockMode) :
    a.isCompatibleWith b = b.isCompatibleWith a := by
  cases a <;> cases b <;> rfl

theorem covers_of_isV0Upgrade {a b : LockMode} (h : isV0Upgrade a b = true) :
    heldModeCoversRequested b a = true := by
  cases a <;> cases b <;> first | rfl | exact absurd h (by decide)

theorem covers_trans {a b c : LockMode} (hab : heldModeCoversRequested a b = true)
    (hbc : heldModeCoversRequested b c = true) : heldModeCoversRequested a c = true := by
  cases a <;> cases b <;> first
    | exact absurd hab (by decide)
    | (cases c <;> first | rfl | exact absurd hbc (by decide))

theorem conflict_of_covers {a b c : LockMode} (hab : heldModeCoversRequested a b = true)
    (hbc : b.isCompatibleWith c = false) : a.isCompatibleWith c = false := by
  cases a <;> cases b <;> first
    | exact absurd hab (by decide)
    | (cases c <;> first | rfl | exact absurd hbc (by decide))

abbrev holderIds (holders : List LockHolder) : List TransactionId := holders.map LockHolder.txId

theorem holderIds_setHolderMode (txId : TransactionId) (mode : LockMode)
    (holders : List LockHolder) :
    holderIds (setHolderMode txId mode holders) = holderIds holders := by
  induction holders with
  | nil => rfl
  | cons h hs ih =>
    rw [setHolderMode]
    split_ifs
    · rfl
    · exact congrArg (h.txId :: ·) ih

variable {txId : TransactionId} {holders : List LockHolder} {e : LockEntry}

theorem mem_setHolderMode {mode : LockMode} (hsingle : (holderIds holders).Nodup) {h : LockHolder} :
    h ∈ setHolderMode txId mode holders ↔
      (h ∈ holders ∧ h.txId ≠ txId) ∨ (h = ⟨txId, mode⟩ ∧ txId ∈ holderIds holders) := by
  induction holders with
  | nil => simp [setHolderMode]
  | cons a hs ih =>
    rw [holderIds, map_cons, nodup_cons] at hsingle
    rw [setHolderMode]
    split_ifs with ha
    · -- the record is here, so no later one is of this transaction
      have hlater : ∀ x ∈ hs, x.txId ≠ txId := by
        intro x hx heq
        exact hsingle.1 (ha ▸ heq ▸ mem_map_of_mem hx)
      grind
    · rw [mem_cons, ih hsingle.2]
      grind

theorem holderOf_eq_none : e.holderOf txId = none ↔ txId ∉ holderIds e.holders := by
  simp [LockEntry.holderOf, List.find?_eq_none]

theorem holderOf_eq_some {holder : LockHolder} (h : e.holderOf txId = some holder) :
    holder ∈ e.holders ∧ holder.txId = txId :=
  ⟨List.mem_of_find?_eq_some h, by simpa using List.find?_some h⟩

/-- Everything `acquire` can do to an entry and the sequence counter. -/
inductive AcquireEffect (e : LockEntry) (nextSequence : UInt64) (txId : TransactionId)
    (mode : LockMode) : Result LockAcquireStatus → LockEntry → UInt64 → Prop
  /-- Held already, queued already, or rejected. -/
  | kept {result : Result LockAcquireStatus} {sequence : UInt64}
      (notGranted : result ≠ .ok .granted) (notUpgraded : ∀ a b, result ≠ .ok (.upgraded a b))
      (counter : nextSequence ≤ sequence)
      (nonempty : e.isEmpty = false) :
      AcquireEffect e nextSequence txId mode result e sequence
  | granted (free : txId ∉ holderIds e.holders)
      (compatible : ∀ h ∈ e.holders, h.mode.isCompatibleWith mode = true)
      (unqueued : ∀ w ∈ e.waiters, w.mode.isCompatibleWith mode = true) :
      AcquireEffect e nextSequence txId mode (.ok .granted)
        { e with holders := e.holders ++ [⟨txId, mode⟩] } nextSequence
  | upgraded (held : LockMode) (holder : ⟨txId, held⟩ ∈ e.holders)
      (upgrade : isV0Upgrade held mode = true)
      (compatible : ∀ h ∈ e.holders, h.txId ≠ txId → h.mode.isCompatibleWith mode = true)
      (unqueued : ∀ w ∈ e.waiters, w.mode.isCompatibleWith mode = true) :
      AcquireEffect e nextSequence txId mode (.ok (.upgraded held mode))
        { e with holders := setHolderMode txId mode e.holders } nextSequence
  | queued {result : Result LockAcquireStatus} (sequence : UInt64)
      (next : sequence.toNat = nextSequence.toNat + 1)
      (notGranted : result ≠ .ok .granted) (notUpgraded : ∀ a b, result ≠ .ok (.upgraded a b))
      (nonzero : txId ≠ 0)
      (held : ∀ h, e.holderOf txId = some h → heldModeCoversRequested mode h.mode = true)
      (blocked : (∃ h ∈ e.holders, h.txId ≠ txId ∧ h.mode.isCompatibleWith mode = false) ∨
        ∃ w ∈ e.waiters, w.mode.isCompatibleWith mode = false) :
      AcquireEffect e nextSequence txId mode result
        { e with waiters := e.waiters ++ [⟨txId, mode, sequence⟩] } sequence

namespace LockEntry

variable {e : LockEntry} {nextSequence : UInt64} {txId : TransactionId} {mode : LockMode}

theorem isEmpty_eq_false : e.isEmpty = false ↔ e.holders ≠ [] ∨ e.waiters ≠ [] := by
  rw [isEmpty, Bool.and_eq_false_iff, isEmpty_eq_false_iff, isEmpty_eq_false_iff]

theorem isEmpty_of_mem_holders {h : LockHolder} (hmem : h ∈ e.holders) : e.isEmpty = false :=
  isEmpty_eq_false.mpr (.inl (ne_nil_of_mem hmem))

theorem isEmpty_of_mem_waiters {w : LockWaiter} (hmem : w ∈ e.waiters) : e.isEmpty = false :=
  isEmpty_eq_false.mpr (.inr (ne_nil_of_mem hmem))

theorem blockers_eq_nil : e.blockers txId mode = [] ↔
    ∀ h ∈ e.holders, h.txId ≠ txId → h.mode.isCompatibleWith mode = true := by
  simp [blockers]

theorem conflictingHolders_eq_nil : e.conflictingHolders mode = [] ↔
    ∀ h ∈ e.holders, h.mode.isCompatibleWith mode = true := by
  simp [conflictingHolders]

theorem hasIncompatibleWaiter_eq_false : e.hasIncompatibleWaiter mode = false ↔
    ∀ w ∈ e.waiters, w.mode.isCompatibleWith mode = true := by
  simp [hasIncompatibleWaiter]

theorem blocked_of_not_free
    (hfree : ¬ ((e.blockers txId mode).isEmpty = true ∧ (!e.hasIncompatibleWaiter mode) = true)) :
    (∃ h ∈ e.holders, h.txId ≠ txId ∧ h.mode.isCompatibleWith mode = false) ∨
      ∃ w ∈ e.waiters, w.mode.isCompatibleWith mode = false := by
  rw [List.isEmpty_iff, Bool.not_eq_true', blockers_eq_nil, hasIncompatibleWaiter_eq_false,
    not_and_or] at hfree
  rcases hfree with hfree | hfree
  · left
    simpa using hfree
  · right
    simpa using hfree

theorem enqueue_effect {status : UInt64 → LockAcquireStatus}
    (hgranted : ∀ s, status s ≠ .granted) (hupgraded : ∀ s a b, status s ≠ .upgraded a b)
    (hheld : ∀ h, e.holderOf txId = some h → heldModeCoversRequested mode h.mode = true)
    (hblocked : (∃ h ∈ e.holders, h.txId ≠ txId ∧ h.mode.isCompatibleWith mode = false) ∨
      ∃ w ∈ e.waiters, w.mode.isCompatibleWith mode = false) :
    AcquireEffect e nextSequence txId mode (e.enqueue nextSequence txId mode status).1
      (e.enqueue nextSequence txId mode status).2.1
      (e.enqueue nextSequence txId mode status).2.2 := by
  have hnonempty : e.isEmpty = false := by
    rcases hblocked with ⟨h, hh, -⟩ | ⟨w, hw, -⟩
    · exact isEmpty_of_mem_holders hh
    · exact isEmpty_of_mem_waiters hw
  unfold enqueue
  cases hallocate : allocateSequence nextSequence with
  | error err => exact .kept (by simp) (by simp) (UInt64.le_refl _) hnonempty
  | ok sequence =>
    have hnext : sequence.toNat = nextSequence.toNat + 1 := by
      rw [allocateSequence, orError_eq_ok, checkedAdd_eq_some] at hallocate
      exact hallocate
    dsimp only
    cases hwaiter : LockWaiter.new txId mode sequence with
    | error err =>
      dsimp only
      refine .kept (by simp) (by simp) ?_ hnonempty
      rw [UInt64.le_iff_toNat_le]
      omega
    | ok waiter =>
      simp only [LockWaiter.new, validateLockTransactionId, validateNonZero, ok_iff] at hwaiter
      obtain ⟨hnonzero, -, rfl⟩ := hwaiter
      exact .queued sequence hnext (by simpa using hgranted sequence)
        (by simpa using hupgraded sequence) hnonzero hheld hblocked

theorem acquireHeld_effect {holder : LockHolder} (hholder : e.holderOf txId = some holder) :
    AcquireEffect e nextSequence txId mode (e.acquireHeld nextSequence txId holder.mode mode).1
      (e.acquireHeld nextSequence txId holder.mode mode).2.1
      (e.acquireHeld nextSequence txId holder.mode mode).2.2 := by
  obtain ⟨hmem, htx⟩ := holderOf_eq_some hholder
  have hnonempty := isEmpty_of_mem_holders hmem
  unfold acquireHeld
  split_ifs with hcovered hupgrade hfree
  · exact .kept (by simp) (by simp) (UInt64.le_refl _) hnonempty
  · exact .kept (by simp) (by simp) (UInt64.le_refl _) hnonempty
  · rw [List.isEmpty_iff, Bool.not_eq_true', blockers_eq_nil,
      hasIncompatibleWaiter_eq_false] at hfree
    exact .upgraded holder.mode (htx ▸ hmem) (by simpa using hupgrade) hfree.1 hfree.2
  · cases e.waiterOf txId mode with
    | some waiter => exact .kept (by simp) (by simp) (UInt64.le_refl _) hnonempty
    | none =>
      apply enqueue_effect (by simp) (by simp) _ (blocked_of_not_free hfree)
      intro h hh
      rw [hholder, Option.some.injEq] at hh
      rw [← hh]
      exact covers_of_isV0Upgrade (by simpa using hupgrade)

theorem acquireNew_effect (hfree : e.holderOf txId = none) :
    AcquireEffect e nextSequence txId mode (e.acquireNew nextSequence txId mode).1
      (e.acquireNew nextSequence txId mode).2.1 (e.acquireNew nextSequence txId mode).2.2 := by
  have hother : ∀ h ∈ e.holders, h.txId ≠ txId := by
    intro h hh heq
    exact holderOf_eq_none.mp hfree (heq ▸ mem_map_of_mem hh)
  unfold acquireNew
  cases hwaiting : e.waiterOf txId mode with
  | some waiter =>
    have hmem : waiter ∈ e.waiters := List.mem_of_find?_eq_some hwaiting
    exact .kept (by simp) (by simp) (UInt64.le_refl _) (isEmpty_of_mem_waiters hmem)
  | none =>
    dsimp only
    split_ifs with hgrant
    · rw [List.isEmpty_iff, Bool.not_eq_true', conflictingHolders_eq_nil,
        hasIncompatibleWaiter_eq_false] at hgrant
      exact .granted (holderOf_eq_none.mp hfree) hgrant.1 hgrant.2
    · apply enqueue_effect (by simp) (by simp) (by simp [hfree])
      apply blocked_of_not_free
      rw [List.isEmpty_iff, blockers_eq_nil]
      rw [List.isEmpty_iff, conflictingHolders_eq_nil] at hgrant
      exact fun hnone => hgrant ⟨fun h hh => hnone.1 h hh (hother h hh), hnone.2⟩

theorem acquire_effect (e : LockEntry) (nextSequence : UInt64) (txId : TransactionId)
    (mode : LockMode) : AcquireEffect e nextSequence txId mode (e.acquire nextSequence txId mode).1
      (e.acquire nextSequence txId mode).2.1 (e.acquire nextSequence txId mode).2.2 := by
  unfold acquire
  cases hholder : e.holderOf txId with
  | some holder => exact acquireHeld_effect hholder
  | none => exact acquireNew_effect hholder

end LockEntry

/-! ## Holders that may coexist -/

/-- One record per transaction, and records of different transactions are compatible. -/
structure HoldersSafe (holders : List LockHolder) : Prop where
  single : (holderIds holders).Nodup
  compatible : ∀ a ∈ holders, ∀ b ∈ holders, a.txId ≠ b.txId → a.mode.isCompatibleWith b.mode = true

namespace HoldersSafe

variable {holders : List LockHolder} {txId : TransactionId} {mode : LockMode}

theorem nil : HoldersSafe [] := ⟨by simp, by simp⟩

theorem setMode (h : HoldersSafe holders)
    (hcompatible : ∀ x ∈ holders, x.txId ≠ txId → x.mode.isCompatibleWith mode = true) :
    HoldersSafe (setHolderMode txId mode holders) := by
  refine ⟨by rw [holderIds_setHolderMode]; exact h.single, ?_⟩
  intro a ha b hb hne
  rcases (mem_setHolderMode h.single).mp ha with ⟨ha, hane⟩ | ⟨rfl, -⟩
  · rcases (mem_setHolderMode h.single).mp hb with ⟨hb, -⟩ | ⟨rfl, -⟩
    · exact h.compatible a ha b hb hne
    · exact hcompatible a ha hane
  · rcases (mem_setHolderMode h.single).mp hb with ⟨hb, hbne⟩ | ⟨rfl, -⟩
    · rw [LockMode.isCompatibleWith_comm]
      exact hcompatible b hb hbne
    · exact absurd rfl hne

theorem push (h : HoldersSafe holders) (hnew : txId ∉ holderIds holders)
    (hcompatible : ∀ x ∈ holders, x.mode.isCompatibleWith mode = true) :
    HoldersSafe (holders ++ [⟨txId, mode⟩]) := by
  constructor
  · rw [holderIds, map_append, nodup_append]
    refine ⟨h.single, by simp, ?_⟩
    rintro a ha b hb rfl
    rw [mem_singleton.mp hb] at ha
    exact hnew ha
  · intro a ha b hb hne
    rw [mem_append, mem_singleton] at ha hb
    rcases ha with ha | rfl
    · rcases hb with hb | rfl
      · exact h.compatible a ha b hb hne
      · exact hcompatible a ha
    · rcases hb with hb | rfl
      · rw [LockMode.isCompatibleWith_comm]
        exact hcompatible b hb
      · exact absurd rfl hne

theorem filter (h : HoldersSafe holders) (p : LockHolder → Bool) :
    HoldersSafe (holders.filter p) := by
  refine ⟨h.single.sublist (filter_sublist.map _), ?_⟩
  intro a ha b hb
  exact h.compatible a (mem_filter.mp ha).1 b (mem_filter.mp hb).1

theorem eq_of_txId (h : HoldersSafe holders) {a b : LockHolder} (ha : a ∈ holders)
    (hb : b ∈ holders) (heq : a.txId = b.txId) : a = b :=
  inj_on_of_nodup_map h.single ha hb heq

end HoldersSafe

variable {w : LockWaiter}

theorem waiterIsCompatibleWithHolders_iff : waiterIsCompatibleWithHolders holders w = true ↔
      ∀ h ∈ holders, h.txId ≠ w.txId → h.mode.isCompatibleWith w.mode = true := by
  simp only [waiterIsCompatibleWithHolders, all_eq_true, mem_filter, decide_eq_true_eq, and_imp]

/-- The three things a promotion can do to the holders. -/
theorem promoteWaiterToHolder_cases (holders : List LockHolder) (w : LockWaiter) :
    (w.txId ∉ holderIds holders ∧ promoteWaiterToHolder holders w = holders ++ [⟨w.txId, w.mode⟩]) ∨
    ∃ held, ⟨w.txId, held⟩ ∈ holders ∧ ((promoteWaiterToHolder holders w = holders ∧
          (held = w.mode ∨ heldModeCoversRequested held w.mode = true)) ∨
        (promoteWaiterToHolder holders w = setHolderMode w.txId w.mode holders ∧
          held ≠ w.mode ∧ heldModeCoversRequested held w.mode = false)) := by
  unfold promoteWaiterToHolder
  cases hfind : holders.find? fun h => h.txId = w.txId with
  | none => exact .inl ⟨holderOf_eq_none (e := ⟨holders, []⟩).mp hfind, rfl⟩
  | some holder =>
    obtain ⟨hmem, htx⟩ := holderOf_eq_some (e := ⟨holders, []⟩) hfind
    refine .inr ⟨holder.mode, htx ▸ hmem, ?_⟩
    dsimp only
    split_ifs with hrewrite
    · exact .inr ⟨rfl, hrewrite.1, by simpa using hrewrite.2⟩
    · rw [not_and_or, not_not, Bool.not_eq_true', Bool.not_eq_false] at hrewrite
      exact .inl ⟨rfl, hrewrite⟩

theorem HoldersSafe.promote (h : HoldersSafe holders)
    (hcompatible : waiterIsCompatibleWithHolders holders w = true) :
    HoldersSafe (promoteWaiterToHolder holders w) := by
  rw [waiterIsCompatibleWithHolders_iff] at hcompatible
  rcases promoteWaiterToHolder_cases holders w with
    ⟨hnew, heq⟩ | ⟨held, -, ⟨heq, -⟩ | ⟨heq, -⟩⟩ <;> rw [heq]
  · apply h.push hnew
    intro x hx
    apply hcompatible x hx
    intro htx
    exact hnew (htx ▸ mem_map_of_mem hx)
  · exact h
  · exact h.setMode hcompatible

theorem HoldersSafe.promoteAll (h : HoldersSafe holders) (waiters : List LockWaiter) :
    HoldersSafe (promoteCompatibleWaiters holders waiters).entry.holders := by
  induction waiters generalizing holders with
  | nil => exact h
  | cons w ws ih =>
    rw [promoteCompatibleWaiters]
    split_ifs with hw
    · exact ih (h.promote hw)
    · exact h

theorem promoteCompatibleWaiters_split (holders : List LockHolder) (waiters : List LockWaiter) :
    (promoteCompatibleWaiters holders waiters).promoted ++
      (promoteCompatibleWaiters holders waiters).entry.waiters = waiters := by
  induction waiters generalizing holders with
  | nil => rfl
  | cons w ws ih =>
    rw [promoteCompatibleWaiters]
    split_ifs
    · exact congrArg (w :: ·) (ih _)
    · rfl

theorem promoted_conflict (holders : List LockHolder) (waiters : List LockWaiter)
    (hw : (promoteCompatibleWaiters holders waiters).entry.waiters.head? = some w) :
    ∃ h ∈ (promoteCompatibleWaiters holders waiters).entry.holders, h.txId ≠ w.txId ∧
      h.mode.isCompatibleWith w.mode = false := by
  induction waiters generalizing holders with
  | nil => simp [promoteCompatibleWaiters] at hw
  | cons a ws ih =>
    rw [promoteCompatibleWaiters] at hw ⊢
    split_ifs at hw ⊢ with ha
    · exact ih _ hw
    · obtain rfl : a = w := by simpa using hw
      rw [waiterIsCompatibleWithHolders_iff] at ha
      simpa using ha

variable {h : LockHolder}

theorem mem_push_holder (hmem : h ∈ holders ++ [⟨txId, mode⟩]) : h ∈ holders ∨ h.txId = txId :=
  (mem_append.mp hmem).imp_right fun hlast => by rw [mem_singleton.mp hlast]

theorem mem_set_holder (hsafe : HoldersSafe holders)
    (hmem : h ∈ setHolderMode txId mode holders) : h ∈ holders ∨ h.txId = txId := by
  rcases (mem_setHolderMode hsafe.single).mp hmem with ⟨hmem, -⟩ | ⟨rfl, -⟩
  · exact .inl hmem
  · exact .inr rfl

theorem mem_promoteWaiterToHolder (hsafe : HoldersSafe holders)
    (hmem : h ∈ promoteWaiterToHolder holders w) : h ∈ holders ∨ h.txId = w.txId := by
  rcases promoteWaiterToHolder_cases holders w with
    ⟨-, heq⟩ | ⟨held, -, ⟨heq, -⟩ | ⟨heq, -⟩⟩ <;> rw [heq] at hmem
  · exact mem_push_holder hmem
  · exact .inl hmem
  · exact mem_set_holder hsafe hmem

theorem mem_promoteCompatibleWaiters {waiters : List LockWaiter} (hsafe : HoldersSafe holders)
    (hmem : h ∈ (promoteCompatibleWaiters holders waiters).entry.holders) :
    h ∈ holders ∨ ∃ w ∈ waiters, w.txId = h.txId := by
  induction waiters generalizing holders with
  | nil => exact .inl hmem
  | cons w ws ih =>
    rw [promoteCompatibleWaiters] at hmem
    split_ifs at hmem with hw
    · rcases ih (hsafe.promote hw) hmem with hold | ⟨w', hw', htx⟩
      · rcases mem_promoteWaiterToHolder hsafe hold with hold | htx
        · exact .inl hold
        · exact .inr ⟨w, mem_cons_self, htx.symm⟩
      · exact .inr ⟨w', mem_cons_of_mem w hw', htx⟩
    · exact .inl hmem

/-! ## The invariant of an entry -/

/-- What holds of every entry of the table, and of the entry a first request starts from. -/
structure LockEntry.Orderly (e : LockEntry) : Prop where
  holders : HoldersSafe e.holders
  ordered : e.waiters.Pairwise fun a b => a.sequence < b.sequence
  front : ∀ w, e.waiters.head? = some w →
    ∃ h ∈ e.holders, h.txId ≠ w.txId ∧ h.mode.isCompatibleWith w.mode = false
  holderIds : ∀ h ∈ e.holders, h.txId ≠ 0
  waiterIds : ∀ w ∈ e.waiters, w.txId ≠ 0

namespace LockEntry.Orderly

variable {e e' : LockEntry} {nextSequence sequence : UInt64} {txId : TransactionId}
  {mode : LockMode} {result : Result LockAcquireStatus}

theorem new : LockEntry.new.Orderly :=
  ⟨HoldersSafe.nil, by simp [LockEntry.new], by simp [LockEntry.new], by simp [LockEntry.new],
    by simp [LockEntry.new]⟩

theorem acquire (h : e.Orderly) (htx : txId ≠ 0)
    (hbound : ∀ w ∈ e.waiters, w.sequence ≤ nextSequence)
    (heffect : AcquireEffect e nextSequence txId mode result e' sequence) :
    e'.Orderly ∧ e'.isEmpty = false ∧ nextSequence ≤ sequence ∧
      ∀ w ∈ e'.waiters, w.sequence ≤ sequence := by
  cases heffect with
  | kept _ _ hcounter hnonempty =>
    exact ⟨h, hnonempty, hcounter, fun w hw => UInt64.le_trans (hbound w hw) hcounter⟩
  | granted hfree hcompatible hunqueued =>
    refine ⟨⟨h.holders.push hfree hcompatible, h.ordered, ?_, ?_, h.waiterIds⟩,
      isEmpty_eq_false.mpr (.inl (by simp)), UInt64.le_refl _, hbound⟩
    · intro w hw
      obtain ⟨x, hx, hrest⟩ := h.front w hw
      exact ⟨x, mem_append_left _ hx, hrest⟩
    · simpa [or_imp, forall_and] using ⟨h.holderIds, htx⟩
  | upgraded held hholder hupgrade hcompatible hunqueued =>
    have hmem : ∀ x, x ∈ setHolderMode txId mode e.holders ↔
        (x ∈ e.holders ∧ x.txId ≠ txId) ∨ x = ⟨txId, mode⟩ := by
      intro x
      rw [mem_setHolderMode h.holders.single, and_iff_left (mem_map_of_mem hholder)]
    refine ⟨⟨h.holders.setMode hcompatible, h.ordered, ?_, ?_, h.waiterIds⟩,
      isEmpty_of_mem_holders ((hmem ⟨txId, mode⟩).mpr (.inr rfl)), UInt64.le_refl _, hbound⟩
    · intro w hw
      obtain ⟨x, hx, hne, hconflict⟩ := h.front w hw
      by_cases hxtx : x.txId = txId
      · -- the upgraded mode conflicts with whatever the old one conflicted with
        obtain rfl : x = ⟨txId, held⟩ := h.holders.eq_of_txId hx hholder hxtx
        exact ⟨⟨txId, mode⟩, (hmem _).mpr (.inr rfl), hne,
          conflict_of_covers (covers_of_isV0Upgrade hupgrade) hconflict⟩
      · exact ⟨x, (hmem x).mpr (.inl ⟨hx, hxtx⟩), hne, hconflict⟩
    · intro x hx
      rcases (hmem x).mp hx with ⟨hx, -⟩ | rfl
      · exact h.holderIds x hx
      · exact htx
  | queued sequence hnext _ _ hnonzero hheld hblocked =>
    have hlt : nextSequence < sequence := by
      rw [UInt64.lt_iff_toNat_lt, hnext]
      omega
    refine ⟨⟨h.holders, ?_, ?_, h.holderIds, ?_⟩, isEmpty_eq_false.mpr (.inr (by simp)),
      UInt64.le_of_lt hlt, ?_⟩
    · rw [pairwise_append]
      refine ⟨h.ordered, pairwise_singleton _ _, ?_⟩
      intro a ha b hb
      rw [mem_singleton.mp hb]
      exact UInt64.lt_of_le_of_lt (hbound a ha) hlt
    · intro w hw
      cases hwaiters : e.waiters with
      | nil =>
        obtain rfl : ⟨txId, mode, sequence⟩ = w := by simpa [hwaiters] using hw
        exact hblocked.resolve_right (by simp [hwaiters])
      | cons a ws =>
        apply h.front w
        simpa [hwaiters] using hw
    · simpa [or_imp, forall_and] using ⟨h.waiterIds, hnonzero⟩
    · rw [forall_mem_append, forall_mem_singleton]
      exact ⟨fun w hw => UInt64.le_trans (hbound w hw) (UInt64.le_of_lt hlt), UInt64.le_refl _⟩

end LockEntry.Orderly

structure LockEntry.Absent (e : LockEntry) (txId : TransactionId) : Prop where
  holders : ∀ h ∈ e.holders, h.txId ≠ txId
  waiters : ∀ w ∈ e.waiters, w.txId ≠ txId

namespace LockEntry

variable {e : LockEntry} {txId : TransactionId}

theorem removed_none_iff : e.holders.length - (e.withdraw txId).holders.length = 0 ∧
    e.waiters.length - (e.withdraw txId).waiters.length = 0 ↔ e.Absent txId := by
  have hremoved : ∀ {α : Type} (p : α → Bool) (xs : List α),
      xs.length - (xs.filter p).length = 0 ↔ ∀ x ∈ xs, p x = true := by
    intro α p xs
    have hle := length_filter_le p xs
    rw [← length_filter_eq_length_iff]
    omega
  rw [withdraw, hremoved, hremoved]
  simp only [ne_eq, decide_not, Bool.not_eq_true', decide_eq_false_iff_not]
  exact ⟨fun h => ⟨h.1, h.2⟩, fun h => ⟨h.holders, h.waiters⟩⟩

theorem withdraw_of_absent (h : e.Absent txId) : e.withdraw txId = e := by
  have hholders : e.holders.filter (fun h => h.txId ≠ txId) = e.holders :=
    filter_eq_self.mpr (by simpa using h.holders)
  have hwaiters : e.waiters.filter (fun w => w.txId ≠ txId) = e.waiters :=
    filter_eq_self.mpr (by simpa using h.waiters)
  rw [withdraw, hholders, hwaiters]

theorem release_of_absent (h : e.Absent txId) : e.release txId = ⟨0, 0, e, []⟩ := by
  rw [release]
  dsimp only
  rw [if_pos (removed_none_iff.mpr h), withdraw_of_absent h]

theorem release_of_present (h : ¬ e.Absent txId) : (e.release txId).entry =
        (promoteCompatibleWaiters (e.withdraw txId).holders (e.withdraw txId).waiters).entry ∧
      (e.release txId).promoted =
        (promoteCompatibleWaiters (e.withdraw txId).holders (e.withdraw txId).waiters).promoted ∧
      ¬ ((e.release txId).releasedHolderCount = 0 ∧ (e.release txId).removedWaiterCount = 0) := by
  have hcount := removed_none_iff.not.mpr h
  rw [release]
  dsimp only
  rw [if_neg hcount]
  exact ⟨rfl, rfl, hcount⟩

theorem release_split (e : LockEntry) (txId : TransactionId) :
    (e.release txId).promoted ++ (e.release txId).entry.waiters = (e.withdraw txId).waiters := by
  by_cases h : e.Absent txId
  · rw [release_of_absent h, withdraw_of_absent h]
    rfl
  · obtain ⟨hentry, hpromoted, -⟩ := release_of_present h
    rw [hentry, hpromoted]
    exact promoteCompatibleWaiters_split _ _

theorem mem_release {h : LockHolder} (hsafe : HoldersSafe e.holders)
    (hmem : h ∈ (e.release txId).entry.holders) :
    h ∈ e.holders ∨ (¬ e.Absent txId ∧ ∃ w ∈ e.waiters, w.txId ≠ txId ∧ w.txId = h.txId) := by
  by_cases habsent : e.Absent txId
  · rw [release_of_absent habsent] at hmem
    exact .inl hmem
  · rw [(release_of_present habsent).1] at hmem
    rcases mem_promoteCompatibleWaiters (hsafe.filter _) hmem with hold | ⟨w, hw, htx⟩
    · exact .inl (mem_filter.mp hold).1
    · obtain ⟨hw, hne⟩ := mem_filter.mp hw
      exact .inr ⟨habsent, w, hw, by simpa using hne, htx⟩

theorem Orderly.release (h : e.Orderly) : (e.release txId).entry.Orderly := by
  by_cases habsent : e.Absent txId
  · rw [release_of_absent habsent]
    exact h
  have hqueue : (e.release txId).entry.waiters.Sublist e.waiters :=
    (List.IsSuffix.sublist ⟨_, release_split e txId⟩).trans filter_sublist
  obtain ⟨hentry, -, -⟩ := release_of_present habsent
  refine ⟨?_, h.ordered.sublist hqueue, ?_, ?_, fun w hw => h.waiterIds w (hqueue.subset hw)⟩
  · rw [hentry]
    exact (h.holders.filter _).promoteAll _
  · intro w hw
    rw [hentry] at hw ⊢
    exact promoted_conflict _ _ hw
  · intro x hx
    rcases mem_release h.holders hx with hold | ⟨-, w, hw, -, htx⟩
    · exact h.holderIds x hold
    · exact htx ▸ h.waiterIds w hw

end LockEntry

end Andromeda
