import Andromeda.Locking.TableRun

/-!
# What becomes of a granted mode

A transaction may have several requests of different modes in one queue. Promotion
writes the mode of each into the holder record, so the record ends up with a mode
that need not cover the ones granted before. Granted modes survive exactly as long as
the modes a transaction asks for are comparable.
-/

namespace Andromeda

open Fallible LockManager List
open LockEntry hiding new release

def LockMode.Comparable (a b : LockMode) : Prop :=
  a = b ∨ heldModeCoversRequested a b = true ∨ heldModeCoversRequested b a = true
deriving Decidable

theorem LockMode.Comparable.symm {a b : LockMode} (h : a.Comparable b) : b.Comparable a := by
  rcases h with rfl | h | h
  · exact .inl rfl
  · exact .inr (.inr h)
  · exact .inr (.inl h)

def HeldAtLeast (holders : List LockHolder) (txId : TransactionId) (mode : LockMode) : Prop :=
  ∃ h ∈ holders, h.txId = txId ∧ (h.mode = mode ∨ heldModeCoversRequested h.mode mode = true)
deriving Decidable

/-- The modes each transaction has or asks for are comparable. -/
structure ModesComparable (holders : List LockHolder) (waiters : List LockWaiter) : Prop where
  held : ∀ h ∈ holders, ∀ w ∈ waiters, h.txId = w.txId → h.mode.Comparable w.mode
  queued : ∀ w ∈ waiters, ∀ w' ∈ waiters, w.txId = w'.txId → w.mode.Comparable w'.mode

section Promotion

variable {holders : List LockHolder} {w : LockWaiter} {ws : List LockWaiter}
  {txId : TransactionId} {mode : LockMode}

section

variable (hsafe : HoldersSafe holders)
include hsafe

theorem HeldAtLeast.setMode {held new : LockMode}
    {owner : TransactionId} (hholder : ⟨owner, held⟩ ∈ holders)
    (hraise : heldModeCoversRequested new held = true) (h : HeldAtLeast holders txId mode) :
    HeldAtLeast (setHolderMode owner new holders) txId mode := by
  obtain ⟨x, hx, hxtx, hxmode⟩ := h
  by_cases howner : x.txId = owner
  · have hxeq : x = ⟨owner, held⟩ := hsafe.eq_of_txId hx hholder howner
    refine ⟨⟨owner, new⟩, (mem_setHolderMode hsafe.single).mpr
      (.inr ⟨rfl, mem_map_of_mem hholder⟩), howner ▸ hxtx, .inr ?_⟩
    rw [hxeq] at hxmode
    rcases hxmode with rfl | hcovers
    · exact hraise
    · exact covers_trans hraise hcovers
  · exact ⟨x, (mem_setHolderMode hsafe.single).mpr (.inl ⟨hx, howner⟩), hxtx, hxmode⟩

theorem HeldAtLeast.promote
    (hmodes : ModesComparable holders (w :: ws)) (h : HeldAtLeast holders txId mode) :
    HeldAtLeast (promoteWaiterToHolder holders w) txId mode := by
  rcases promoteWaiterToHolder_cases holders w with
    ⟨-, heq⟩ | ⟨held, hholder, ⟨heq, -⟩ | ⟨heq, hne, hnot⟩⟩ <;> rw [heq]
  · obtain ⟨x, hx, hrest⟩ := h
    exact ⟨x, mem_append_left _ hx, hrest⟩
  · exact h
  · have hraise : heldModeCoversRequested w.mode held = true := by
      rcases hmodes.held _ hholder w mem_cons_self rfl with hsame | hcovers | hcovers
      · exact absurd hsame hne
      · rw [hnot] at hcovers
        cases hcovers
      · exact hcovers
    exact h.setMode hsafe hholder hraise

theorem heldAtLeast_promoted : HeldAtLeast (promoteWaiterToHolder holders w) w.txId w.mode := by
  rcases promoteWaiterToHolder_cases holders w with
    ⟨-, heq⟩ | ⟨held, hholder, ⟨heq, hmode⟩ | ⟨heq, -⟩⟩ <;> rw [heq]
  · exact ⟨⟨w.txId, w.mode⟩, by simp, rfl, .inl rfl⟩
  · exact ⟨⟨w.txId, held⟩, hholder, rfl, hmode⟩
  · exact ⟨⟨w.txId, w.mode⟩, (mem_setHolderMode hsafe.single).mpr
      (.inr ⟨rfl, mem_map_of_mem hholder⟩), rfl, .inl rfl⟩

theorem ModesComparable.promote (h : ModesComparable holders (w :: ws)) :
    ModesComparable (promoteWaiterToHolder holders w) ws := by
  have hqueue : ∀ x ∈ ws, w.txId = x.txId → w.mode.Comparable x.mode :=
    fun x hx => h.queued w mem_cons_self x (mem_cons_of_mem _ hx)
  have hold : ∀ x ∈ holders, ∀ y ∈ ws, x.txId = y.txId → x.mode.Comparable y.mode :=
    fun x hx y hy => h.held x hx y (mem_cons_of_mem _ hy)
  refine ⟨?_, fun x hx y hy => h.queued x (mem_cons_of_mem _ hx) y (mem_cons_of_mem _ hy)⟩
  rcases promoteWaiterToHolder_cases holders w with
    ⟨-, heq⟩ | ⟨held, -, ⟨heq, -⟩ | ⟨heq, -⟩⟩ <;> rw [heq]
  · exact forall_mem_append.mpr ⟨hold, forall_mem_singleton.mpr hqueue⟩
  · exact hold
  · intro x hx
    rcases (mem_setHolderMode hsafe.single).mp hx with ⟨hx, -⟩ | ⟨rfl, -⟩
    · exact hold x hx
    · exact hqueue

/-- A whole round of promotions keeps comparable modes, keeps what was held, and holds
what it promoted. -/
theorem promoteCompatibleWaiters_modes {waiters : List LockWaiter}
    (hmodes : ModesComparable holders waiters) :
    ModesComparable (promoteCompatibleWaiters holders waiters).entry.holders
        (promoteCompatibleWaiters holders waiters).entry.waiters ∧
      (∀ txId mode, HeldAtLeast holders txId mode →
        HeldAtLeast (promoteCompatibleWaiters holders waiters).entry.holders txId mode) ∧
      ∀ x ∈ (promoteCompatibleWaiters holders waiters).promoted,
        HeldAtLeast (promoteCompatibleWaiters holders waiters).entry.holders x.txId x.mode := by
  induction waiters generalizing holders with
  | nil => exact ⟨hmodes, fun _ _ h => h, by simp [promoteCompatibleWaiters]⟩
  | cons w ws ih =>
    rw [promoteCompatibleWaiters]
    split_ifs with hw
    · obtain ⟨hrest, hkept, hpromoted⟩ := ih (hsafe.promote hw) (hmodes.promote hsafe)
      exact ⟨hrest, fun txId mode h => hkept txId mode (h.promote hsafe hmodes),
        forall_mem_cons.mpr ⟨hkept _ _ (heldAtLeast_promoted hsafe), hpromoted⟩⟩
    · exact ⟨hmodes, fun _ _ h => h, by simp⟩

end

end Promotion

section Entry

variable {e e' : LockEntry} {nextSequence sequence : UInt64} {txId : TransactionId}
  {mode : LockMode} {result : Result LockAcquireStatus}

theorem ModesComparable.acquire (h : ModesComparable e.holders e.waiters)
    (hsafe : HoldersSafe e.holders)
    (hcomparable : ∀ w ∈ e.waiters, w.txId = txId → w.mode.Comparable mode)
    (heffect : AcquireEffect e nextSequence txId mode result e' sequence) :
    ModesComparable e'.holders e'.waiters := by
  have hown : ∀ w ∈ e.waiters, txId = w.txId → mode.Comparable w.mode :=
    fun w hw heq => (hcomparable w hw heq.symm).symm
  cases heffect with
  | kept => exact h
  | granted => exact ⟨forall_mem_append.mpr ⟨h.held, forall_mem_singleton.mpr hown⟩, h.queued⟩
  | upgraded =>
    refine ⟨?_, h.queued⟩
    intro x hx
    rcases (mem_setHolderMode hsafe.single).mp hx with ⟨hx, -⟩ | ⟨rfl, -⟩
    · exact h.held x hx
    · exact hown
  | queued sequence _ _ _ _ hheld _ =>
    constructor
    · intro x hx
      refine forall_mem_append.mpr ⟨h.held x hx, forall_mem_singleton.mpr ?_⟩
      intro (hxtx : x.txId = txId)
      cases hholder : e.holderOf txId with
      | none =>
        have hmem : txId ∈ holderIds e.holders := hxtx ▸ mem_map_of_mem hx
        exact absurd hmem (holderOf_eq_none.mp hholder)
      | some holder =>
        obtain ⟨hmem, htx⟩ := holderOf_eq_some hholder
        rw [hsafe.eq_of_txId hx hmem (hxtx.trans htx.symm)]
        exact .inr (.inr (hheld holder hholder))
    · refine forall_mem_append.mpr ⟨fun w hw => ?_, forall_mem_singleton.mpr ?_⟩
      · exact forall_mem_append.mpr ⟨h.queued w hw, forall_mem_singleton.mpr (hcomparable w hw)⟩
      · exact forall_mem_append.mpr ⟨hown, forall_mem_singleton.mpr fun _ => .inl rfl⟩

theorem HeldAtLeast.acquire {owner : TransactionId} {held : LockMode}
    (h : HeldAtLeast e.holders owner held) (hsafe : HoldersSafe e.holders)
    (heffect : AcquireEffect e nextSequence txId mode result e' sequence) :
    HeldAtLeast e'.holders owner held := by
  cases heffect with
  | kept => exact h
  | granted =>
    obtain ⟨x, hx, hrest⟩ := h
    exact ⟨x, mem_append_left _ hx, hrest⟩
  | upgraded old hholder hupgrade =>
    exact h.setMode hsafe hholder (covers_of_isV0Upgrade hupgrade)
  | queued => exact h

theorem heldAtLeast_acquired (hsafe : HoldersSafe e.holders)
    (heffect : AcquireEffect e nextSequence txId mode result e' sequence)
    (hgrant : result = .ok .granted ∨ ∃ a, result = .ok (.upgraded a mode)) :
    HeldAtLeast e'.holders txId mode := by
  cases heffect with
  | kept hnot hnot' | queued _ _ hnot hnot' => exact absurd hgrant (by simp [hnot, hnot'])
  | granted => exact ⟨⟨txId, mode⟩, by simp, rfl, .inl rfl⟩
  | upgraded old hholder =>
    exact ⟨⟨txId, mode⟩, (mem_setHolderMode hsafe.single).mpr
      (.inr ⟨rfl, mem_map_of_mem hholder⟩), rfl, .inl rfl⟩

theorem ModesComparable.withdraw (h : ModesComparable e.holders e.waiters) (txId : TransactionId) :
    ModesComparable (e.withdraw txId).holders (e.withdraw txId).waiters :=
  ⟨fun x hx w hw => h.held x (mem_filter.mp hx).1 w (mem_filter.mp hw).1,
    fun w hw w' hw' => h.queued w (mem_filter.mp hw).1 w' (mem_filter.mp hw').1⟩

theorem release_modes (h : ModesComparable e.holders e.waiters) (hsafe : HoldersSafe e.holders)
    (txId : TransactionId) :
    ModesComparable (e.release txId).entry.holders (e.release txId).entry.waiters ∧
      (∀ owner held, owner ≠ txId → HeldAtLeast e.holders owner held →
        HeldAtLeast (e.release txId).entry.holders owner held) ∧ ∀ w ∈ (e.release txId).promoted,
        HeldAtLeast (e.release txId).entry.holders w.txId w.mode := by
  by_cases habsent : e.Absent txId
  · rw [release_of_absent habsent]
    exact ⟨h, fun _ _ _ hheld => hheld, by simp⟩
  · obtain ⟨hentry, hpromoted, -⟩ := release_of_present habsent
    obtain ⟨hmodes, hkept, hnew⟩ :=
      promoteCompatibleWaiters_modes (hsafe.filter _) (h.withdraw txId)
    rw [hentry, hpromoted]
    refine ⟨hmodes, ?_, hnew⟩
    rintro owner held hne ⟨x, hx, hxtx, hxmode⟩
    apply hkept
    refine ⟨x, mem_filter.mpr ⟨hx, ?_⟩, hxtx, hxmode⟩
    rw [hxtx]
    simpa using hne

end Entry

structure LockGrant where
  resource : LockResource
  txId : TransactionId
  mode : LockMode
deriving DecidableEq

/-- The lock manager with the grants its callers were told of and have not released. -/
structure LockRun where
  manager : LockManager
  grants : List LockGrant

namespace LockRun

def start : LockRun := ⟨.new, []⟩

def promotedGrants (evidence : List LockPromotion) : List LockGrant :=
  evidence.map fun p => ⟨p.resource, p.waiter.txId, p.waiter.mode⟩

def granted (run : LockRun) (txId : TransactionId) (resource : LockResource) (mode : LockMode) :
    Result LockAcquireStatus → List LockGrant
  | .ok .granted => ⟨resource, txId, mode⟩ :: run.grants
  | .ok (.upgraded _ newMode) => ⟨resource, txId, newMode⟩ :: run.grants
  | _ => run.grants

def call (run : LockRun) : LockCall → LockRun
  | .acquire txId resource mode =>
    let (result, manager) := run.manager.acquire txId resource mode
    ⟨manager, run.granted txId resource mode result⟩
  | .release txId resource =>
    match run.manager.release txId resource with
    | (.ok evidence, manager) => ⟨manager, promotedGrants evidence.evidence ++
        run.grants.filter fun g => ¬ (g.resource = resource ∧ g.txId = txId)⟩
    | (.error _, manager) => ⟨manager, run.grants⟩
  | .releaseAll txId =>
    match run.manager.releaseAll txId with
    | (.ok (_, evidence), manager) => ⟨manager, promotedGrants evidence ++
        run.grants.filter fun g => g.txId ≠ txId⟩
    | (.error _, manager) => ⟨manager, run.grants⟩

def calls (run : LockRun) (cs : List LockCall) : LockRun := cs.foldl call run

def GrantsKept (run : LockRun) : Prop :=
  ∀ g ∈ run.grants, ∃ e, run.manager.entry g.resource = some e ∧ HeldAtLeast e.holders g.txId g.mode

/-- The request is comparable with what its transaction has queued on the resource. -/
def Comparable (m : LockManager) : LockCall → Prop
  | .acquire txId resource mode => ∀ w ∈ ((m.entry resource).getD .new).waiters,
      w.txId = txId → w.mode.Comparable mode
  | .release .. | .releaseAll .. => True

instance (m : LockManager) : (c : LockCall) → Decidable (Comparable m c)
  | .acquire .. => inferInstanceAs (Decidable (∀ w ∈ LockEntry.waiters _, _))
  | .release .. | .releaseAll .. => inferInstanceAs (Decidable True)

def ComparableRun : LockRun → List LockCall → Prop
  | _, [] => True
  | run, c :: cs => Comparable run.manager c ∧ ComparableRun (run.call c) cs

instance instDecidableComparableRun :
    (run : LockRun) → (cs : List LockCall) → Decidable (ComparableRun run cs)
  | _, [] => inferInstanceAs (Decidable True)
  | run, c :: cs =>
    have := instDecidableComparableRun (run.call c) cs
    inferInstanceAs (Decidable (_ ∧ _))

structure Sound (run : LockRun) : Prop where
  orderly : run.manager.Orderly
  modes : ∀ r e, run.manager.entry r = some e → ModesComparable e.holders e.waiters
  kept : run.GrantsKept

variable {run : LockRun}

theorem sound_start : start.Sound := by
  refine ⟨LockManager.Orderly.new, ?_, ?_⟩
  · intro r e he
    cases he
  · intro g hg
    cases hg

theorem modes_met (h : run.Sound) (r : LockResource) :
    ModesComparable ((run.manager.entry r).getD .new).holders
      ((run.manager.entry r).getD .new).waiters := by
  cases hentry : run.manager.entry r with
  | none => exact ⟨by simp [LockEntry.new], by simp [LockEntry.new]⟩
  | some e => exact h.modes r e hentry

variable {resource : LockResource} {cs : List LockCall} {txId : TransactionId} {mode : LockMode}

theorem mem_granted {result : Result LockAcquireStatus} {g : LockGrant}
    (h : g ∈ run.granted txId resource mode result) :
    g ∈ run.grants ∨ (g.resource = resource ∧ g.txId = txId ∧
      ((result = .ok .granted ∧ g.mode = mode) ∨ ∃ a, result = .ok (.upgraded a g.mode))) := by
  unfold granted at h
  split at h
  · rcases mem_cons.mp h with rfl | h
    · exact .inr ⟨rfl, rfl, .inl ⟨rfl, rfl⟩⟩
    · exact .inl h
  · rcases mem_cons.mp h with rfl | h
    · exact .inr ⟨rfl, rfl, .inr ⟨_, rfl⟩⟩
    · exact .inl h
  · exact .inl h

theorem upgraded_mode {e e' : LockEntry} {nextSequence sequence : UInt64} {a b : LockMode}
    (h : AcquireEffect e nextSequence txId mode (.ok (.upgraded a b)) e' sequence) : b = mode := by
  cases h with
  | kept _ hnot | queued _ _ _ hnot => exact absurd rfl (hnot a b)
  | upgraded => rfl

theorem Sound.acquire (h : run.Sound)
    (hcomparable : Comparable run.manager (.acquire txId resource mode)) :
    (run.call (.acquire txId resource mode)).Sound := by
  by_cases hvalid : LockManager.ValidCall txId resource
  · have hsafe := (h.orderly.met resource).1.holders
    have heffect := acquire_effect ((run.manager.entry resource).getD .new)
      run.manager.nextSequence txId mode
    have hentry := entry_acquire run.manager mode hvalid
    refine ⟨h.orderly.acquire txId resource mode, ?_, ?_⟩
    · intro r e he
      rw [call, hentry] at he
      split_ifs at he with hr
      · cases he
        exact (modes_met h resource).acquire hsafe hcomparable heffect
      · exact h.modes r e he
    · intro g hg
      have hg' : g ∈ run.granted txId resource mode (run.manager.acquire txId resource mode).1 := hg
      rw [acquire_of_valid hvalid] at hg'
      rcases mem_granted hg' with hold | ⟨hr, htx, hgrant⟩
      · obtain ⟨e, he, hheld⟩ := h.kept g hold
        by_cases hr : g.resource = resource
        · rw [hr] at he
          rw [he, Option.getD_some] at heffect hsafe
          refine ⟨_, by rw [call, hentry, if_pos hr, he, Option.getD_some], ?_⟩
          exact hheld.acquire hsafe heffect
        · exact ⟨e, by rw [call, hentry, if_neg hr]; exact he, hheld⟩
      · refine ⟨_, by rw [call, hentry, if_pos hr], ?_⟩
        rw [htx]
        rcases hgrant with ⟨hgranted, hmode⟩ | ⟨a, hupgraded⟩
        · rw [hmode]
          exact heldAtLeast_acquired hsafe heffect (.inl hgranted)
        · have hmode : g.mode = mode := upgraded_mode (hupgraded ▸ heffect)
          rw [hmode] at hupgraded ⊢
          exact heldAtLeast_acquired hsafe heffect (.inr ⟨a, hupgraded⟩)
  · obtain ⟨err, heq⟩ := acquire_of_invalid run.manager mode hvalid
    rw [call, heq]
    exact h

theorem afterRelease_of_held {e : LockEntry} {owner : TransactionId}
    (h : HeldAtLeast (e.release txId).entry.holders owner mode) :
    e.afterRelease txId = some (e.release txId).entry := by
  obtain ⟨x, hx, -⟩ := h
  rw [afterRelease, isEmpty_of_mem_holders hx]
  rfl

theorem Sound.of_released (h : run.Sound) (txId : TransactionId) {m : LockManager}
    {grants : List LockGrant} (horderly : m.Orderly)
    (hentries : ∀ r, m.entry r = run.manager.entry r ∨
      m.entry r = (run.manager.entry r).bind (·.afterRelease txId))
    (hgrants : ∀ g ∈ grants, (g ∈ run.grants ∧
        (g.txId ≠ txId ∨ m.entry g.resource = run.manager.entry g.resource)) ∨
      ∃ e, ∃ w ∈ (e.release txId).promoted, run.manager.entry g.resource = some e ∧
        m.entry g.resource = e.afterRelease txId ∧ g.txId = w.txId ∧ g.mode = w.mode) :
    Sound ⟨m, grants⟩ := by
  refine ⟨horderly, ?_, ?_⟩
  · intro r e he
    obtain ⟨e₀, he₀, rfl | ⟨rfl, -⟩⟩ := entry_of_released (hentries r) he
    · exact h.modes r e he₀
    · exact (release_modes (h.modes r e₀ he₀) (h.orderly.entries r e₀ he₀).1.holders txId).1
  · intro g hg
    rcases hgrants g hg with ⟨hold, hother⟩ | ⟨e, w, hw, he, hafter, htx, hmode⟩
    · obtain ⟨e, he, hheld⟩ := h.kept g hold
      by_cases hsame : m.entry g.resource = run.manager.entry g.resource
      · exact ⟨e, hsame ▸ he, hheld⟩
      · have hkept := (release_modes (h.modes _ e he) (h.orderly.entries _ e he).1.holders txId).2.1
          g.txId g.mode (hother.resolve_right hsame) hheld
        refine ⟨(e.release txId).entry, ?_, hkept⟩
        show m.entry g.resource = _
        rw [(hentries g.resource).resolve_left hsame, he, Option.bind_some,
          afterRelease_of_held hkept]
    · have hnew := (release_modes (h.modes _ e he) (h.orderly.entries _ e he).1.holders txId).2.2 w hw
      refine ⟨(e.release txId).entry, ?_, by rw [htx, hmode]; exact hnew⟩
      exact hafter.trans (afterRelease_of_held hnew)

theorem release_promotions (m : LockManager) (hvalid : LockManager.ValidCall txId resource) :
    ∃ evidence, (m.release txId resource).1 = .ok evidence ∧
      ∀ p ∈ evidence.evidence, p.resource = resource ∧
        ∃ e, m.entry resource = some e ∧ p.waiter ∈ (e.release txId).promoted := by
  cases hentry : m.entry resource with
  | none =>
    refine ⟨⟨false, []⟩, ?_, by simp⟩
    rw [release, check_eq_ok (u := ()) |>.mpr hvalid, hentry]
  | some e =>
    refine ⟨_, release_evidence hvalid hentry, ?_⟩
    intro p hp
    obtain ⟨w, hw, rfl⟩ := mem_map.mp hp
    exact ⟨rfl, e, rfl, hw⟩

theorem Sound.release (h : run.Sound) (txId : TransactionId) (resource : LockResource) :
    (run.call (.release txId resource)).Sound := by
  by_cases hvalid : LockManager.ValidCall txId resource
  · have horderly : (run.manager.release txId resource).2.Orderly :=
      h.orderly.call (.release txId resource)
    have hentry := entry_release (m := run.manager) hvalid
    obtain ⟨evidence, hanswer, hpromotions⟩ := release_promotions run.manager hvalid
    have hcall : run.manager.release txId resource =
        (.ok evidence, (run.manager.release txId resource).2) := Prod.ext hanswer rfl
    rw [call, hcall]
    refine h.of_released txId horderly ?_ ?_
    · intro r
      rw [hentry]
      split_ifs with hr
      · exact .inr rfl
      · exact .inl rfl
    · intro g hg
      rcases mem_append.mp hg with hg | hg
      · obtain ⟨p, hp, rfl⟩ := mem_map.mp hg
        obtain ⟨hr, e, he, hw⟩ := hpromotions p hp
        refine .inr ⟨e, p.waiter, hw, by rw [hr]; exact he, ?_, rfl, rfl⟩
        rw [hentry, if_pos hr, hr, he, Option.bind_some]
      · obtain ⟨hg, hother⟩ := mem_filter.mp hg
        refine .inl ⟨hg, ?_⟩
        rw [decide_eq_true_eq, not_and] at hother
        by_cases hr : g.resource = resource
        · exact .inl (hother hr)
        · exact .inr (by rw [hentry, if_neg hr])
  · obtain ⟨err, heq⟩ := release_of_invalid (m := run.manager) hvalid
    rw [call, heq]
    exact h

theorem Sound.releaseAll (h : run.Sound) (txId : TransactionId) :
    (run.call (.releaseAll txId)).Sound := by
  by_cases hzero : txId = 0
  · rw [hzero]
    exact h
  · have horderly : (run.manager.releaseAll txId).2.Orderly := h.orderly.call (.releaseAll txId)
    have hentry := entry_releaseAll (m := run.manager) hzero
      fun r e he => (h.orderly.entries r e he).2
    obtain ⟨summary, evidence, hanswer⟩ : ∃ summary evidence,
        (run.manager.releaseAll txId).1 = .ok (summary, evidence) := by
      rw [releaseAll_of_ne_zero hzero]
      exact ⟨_, _, rfl⟩
    have hcall : run.manager.releaseAll txId =
        (.ok (summary, evidence), (run.manager.releaseAll txId).2) := Prod.ext hanswer rfl
    rw [call, hcall]
    refine h.of_released txId horderly (fun r => .inr (hentry r)) ?_
    intro g hg
    rcases mem_append.mp hg with hg | hg
    · obtain ⟨p, hp, rfl⟩ := mem_map.mp hg
      have hw : p.waiter ∈ promotedOn p.resource evidence :=
        mem_map_of_mem (mem_filter.mpr ⟨hp, by simp⟩)
      rw [releaseAll_evidence hanswer] at hw
      cases he : run.manager.entry p.resource with
      | none => simp [he] at hw
      | some e =>
        rw [he, Option.map_some, Option.getD_some] at hw
        refine .inr ⟨e, p.waiter, hw, rfl, ?_, rfl, rfl⟩
        rw [hentry, he, Option.bind_some]
    · obtain ⟨hg, hother⟩ := mem_filter.mp hg
      exact .inl ⟨hg, .inl (by simpa using hother)⟩

theorem Sound.call (h : run.Sound) {c : LockCall} (hcomparable : Comparable run.manager c) :
    (run.call c).Sound := by
  cases c with
  | acquire txId resource mode => exact h.acquire hcomparable
  | release txId resource => exact h.release txId resource
  | releaseAll txId => exact h.releaseAll txId

theorem Sound.calls (h : run.Sound) (hcomparable : ComparableRun run cs) :
    (run.calls cs).Sound := by
  induction cs generalizing run with
  | nil => exact h
  | cons c cs ih => exact ih (h.call hcomparable.1) hcomparable.2

theorem ComparableRun.take (h : ComparableRun run cs) (n : Nat) :
    ComparableRun run (cs.take n) := by
  induction cs generalizing run n with
  | nil => simpa using h
  | cons c cs ih =>
    cases n with
    | zero => trivial
    | succ n => exact ⟨h.1, ih h.2 n⟩

/-- As long as no transaction queues incomparable modes on one resource, every grant is
covered by what its transaction holds, until it releases the resource. -/
theorem comparable_run_keeps_grants (cs : List LockCall) (hcomparable : ComparableRun start cs)
    (n : Nat) : (start.calls (cs.take n)).GrantsKept :=
  (sound_start.calls (hcomparable.take n)).kept

/-- Transaction 1 waits for an upgrade that the release of transaction 2 promotes. -/
def promotedUpgrade : List LockCall :=
  [.acquire 1 (.table 1 1) .shared, .acquire 2 (.table 1 1) .shared,
   .acquire 1 (.table 1 1) .exclusive, .acquire 3 (.table 1 1) .intentShared,
   .release 2 (.table 1 1)]

theorem comparable_run_keeps_grants_promotedUpgrade :
    ComparableRun start promotedUpgrade ∧ (start.calls promotedUpgrade).GrantsKept ∧
      (start.calls promotedUpgrade).grants =
        [⟨.table 1 1, 1, .exclusive⟩, ⟨.table 1 1, 1, .shared⟩] := by
  have hcomparable : ComparableRun start promotedUpgrade := by decide +kernel
  exact ⟨hcomparable, comparable_run_keeps_grants promotedUpgrade hcomparable 5, by decide +kernel⟩

/-- Transaction 2 queues an exclusive and then a schema-shared request. The release of
transaction 1 promotes both, and the second overwrites the first. -/
def overwrittenExclusive : List LockCall :=
  [.acquire 1 (.table 1 1) .shared, .acquire 2 (.table 1 1) .exclusive,
   .acquire 2 (.table 1 1) .schemaShared, .release 1 (.table 1 1)]

/-- The exclusive lock was granted, and its transaction is left with schema-shared. -/
theorem exclusive_grant_overwritten :
    ⟨.table 1 1, 2, .exclusive⟩ ∈ (start.calls overwrittenExclusive).grants ∧
      (start.calls overwrittenExclusive).manager.entry (.table 1 1) =
        some ⟨[⟨2, .schemaShared⟩], []⟩ ∧
      ¬ (start.calls overwrittenExclusive).GrantsKept := by
  have hgranted : ⟨.table 1 1, 2, .exclusive⟩ ∈ (start.calls overwrittenExclusive).grants := by
    decide +kernel
  have hentry : (start.calls overwrittenExclusive).manager.entry (.table 1 1) =
      some ⟨[⟨2, .schemaShared⟩], []⟩ := by
    decide +kernel
  refine ⟨hgranted, hentry, fun h => ?_⟩
  obtain ⟨e, he, hheld⟩ := h _ hgranted
  rw [hentry, Option.some.injEq] at he
  rw [← he] at hheld
  revert hheld
  decide

end LockRun

end Andromeda
