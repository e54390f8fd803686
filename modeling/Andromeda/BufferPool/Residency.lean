import Andromeda.BufferPool.Calls

/-!
# Page table, frames and dirty tracker

In every state that calls can reach, returned or failed, the page table is the inverse of the
page ids in the resident frames and the tracker lists the dirty ones. A call takes a page out of
the table only if the page's frame was clean and without pins when the call was made.
-/

namespace Andromeda

open Fallible Effect BufferFrameCore

namespace BufferPool

variable {σ : Type} {n : Nat} {b b' : BufferPool σ n} {k : Fin n} {p q : PageId}

/-! ## What the bookkeeping says -/

structure Consistent (b : BufferPool σ n) : Prop where
  /-- Between calls a frame is free and empty or holds a page. -/
  lifecycle : ∀ k, (b.frames k).core.state = .free ∧ (b.frames k).core.pageId = none ∧
      (b.frames k).image = none ∧ (b.frames k).core.isDirty = false ∨
    (b.frames k).core.state = .resident ∧ (b.frames k).core.pageId ≠ none ∧
      (b.frames k).image ≠ none
  table : ∀ p k, b.pageTable p = some k ↔
    (b.frames k).core.state = .resident ∧ (b.frames k).core.pageId = some p
  tracker : ∀ p e, b.dirtyTracker.dirtyPages.lookup p = some e ↔
    e.pageId = p ∧ ∃ k, (b.frames k).core.state = .resident ∧ (b.frames k).core.pageId = some p ∧
      (b.frames k).core.isDirty = true ∧
      (b.frames k).core.firstDirtyLsn = some e.firstDirtyLsn ∧
      (b.frames k).core.lastDirtyLsn = some e.lastDirtyLsn

theorem Booked.table_iff (h : b.Booked) : b.pageTable p = some k ↔
    (b.frames k).core.state = .resident ∧ (b.frames k).core.pageId = some p := by
  constructor
  · intro htable
    have htidy := h.table p k htable
    exact ⟨htidy.core.state, htidy.core.pageId⟩
  · rintro ⟨hstate, hpage⟩
    rcases h.frames k with hfree | ⟨q, htidy, htable⟩
    · rw [hfree.core] at hstate
      cases hstate
    · rw [htidy.core.pageId, Option.some.injEq] at hpage
      rwa [hpage] at htable

theorem Booked.tracker_iff (h : b.Booked) {e : DirtyEntry} :
    b.dirtyTracker.dirtyPages.lookup p = some e ↔
      e.pageId = p ∧ ∃ k, (b.frames k).core.state = .resident ∧
        (b.frames k).core.pageId = some p ∧ (b.frames k).core.isDirty = true ∧
        (b.frames k).core.firstDirtyLsn = some e.firstDirtyLsn ∧
        (b.frames k).core.lastDirtyLsn = some e.lastDirtyLsn := by
  constructor
  · intro htracked
    obtain ⟨hpage, k, l, htable, hline, hrange⟩ := h.line_of_tracked htracked
    have htidy := h.table p k htable
    rw [line_eq htable, BufferFrame.line, Option.map_eq_some_iff] at hline
    obtain ⟨image, -, rfl⟩ := hline
    refine ⟨hpage, k, htidy.core.state, htidy.core.pageId, ?_⟩
    rcases htidy.core.range_cases with ⟨-, hnone⟩ | ⟨first, last, hdirty, -, -, hsome⟩
    · rw [hnone] at hrange
      cases hrange
    · rw [hsome, Option.some.injEq, Prod.mk.injEq] at hrange
      obtain ⟨rfl, rfl⟩ := hrange
      exact hdirty
  · rintro ⟨rfl, k, hstate, hpage, hdirty⟩
    have htable := h.table_iff.mpr ⟨hstate, hpage⟩
    have hrange : (b.frames k).core.range = some (e.firstDirtyLsn, e.lastDirtyLsn) :=
      BufferFrameCore.DirtyOver.range hdirty
    obtain ⟨image, himage⟩ := Option.ne_none_iff_exists'.mp (h.table _ k htable).image
    rw [h.tracked, line_eq htable, BufferFrame.line, himage, hrange]
    rfl

theorem Booked.consistent (h : b.Booked) : b.Consistent := by
  refine ⟨?_, fun p k => h.table_iff, fun p e => h.tracker_iff⟩
  intro k
  rcases h.frames k with hfree | ⟨p, htidy, -⟩
  · refine .inl ⟨?_, ?_, hfree.image, ?_⟩
    all_goals rw [hfree.core]; rfl
  · exact .inr ⟨htidy.core.state, by simp [htidy.core.pageId], htidy.image⟩

/-! ## Operations that leave the page table alone -/

/-- Whatever the operation does, returned or failed, the page table stays. -/
def KeepsTable {α : Type} (op : Effect (BufferPool σ n) Error α) : Prop :=
  ∀ b, (op b).2.pageTable = b.pageTable

namespace KeepsTable

variable {α β : Type}

theorem run {op : Effect (BufferPool σ n) Error α} (h : KeepsTable op) {result : Except Error α}
    (hrun : op b = (result, b')) : b'.pageTable = b.pageTable := by
  have hkept := h b
  rwa [hrun] at hkept

theorem pure (a : α) : KeepsTable (pure a : Effect (BufferPool σ n) Error α) := fun _ => rfl

theorem lift (x : Except Error α) :
    KeepsTable (lift x : Effect (BufferPool σ n) Error α) := fun _ => rfl

theorem get : KeepsTable (get : Effect (BufferPool σ n) Error _) := fun _ => rfl

theorem bind {x : Effect (BufferPool σ n) Error α} {f : α → Effect (BufferPool σ n) Error β}
    (hx : KeepsTable x) (hf : ∀ a, KeepsTable (f a)) : KeepsTable (x >>= f) := by
  intro b
  rw [bind_apply]
  rcases hrun : x b with ⟨_ | a, b₁⟩
  · exact hx.run hrun
  · exact (hf a b₁).trans (hx.run hrun)

theorem onFrame (k : Fin n) (op : Effect BufferFrame Error α) :
    KeepsTable (onFrame k op : Effect (BufferPool σ n) Error α) := fun _ => rfl

theorem onCore (k : Fin n) (op : Effect BufferFrameCore Error α) :
    KeepsTable (onCore k op : Effect (BufferPool σ n) Error α) := fun _ => rfl

theorem onTracker (op : DirtyTracker → Result DirtyTracker) :
    KeepsTable (onTracker op : Effect (BufferPool σ n) Error Unit) := by
  intro b
  rw [BufferPool.onTracker]
  cases op b.dirtyTracker <;> rfl

theorem markDirty (k : Fin n) (dirtyLsn : Lsn) (noPage : Result Unit) :
    KeepsTable (markDirty k dirtyLsn noPage : Effect (BufferPool σ n) Error Unit) := by
  refine bind (onCore k _) fun _ => bind get fun p => ?_
  cases (p.frames k).core.pageId with
  | none => exact lift noPage
  | some pageId => exact onTracker _

theorem guardAction (k : Fin n) (action : GuardAction) :
    KeepsTable (guardAction k action : Effect (BufferPool σ n) Error Unit) := by
  cases action with
  | markDirty dirtyLsn => exact markDirty k dirtyLsn _
  | dirtyImageMut dirtyLsn image => exact bind (markDirty k dirtyLsn _) fun _ => onFrame k _

theorem unpinPage (frameId : Nat) (dirtyLsn : Option Lsn) :
    KeepsTable (unpinPage frameId dirtyLsn : Effect (BufferPool σ n) Error Unit) := by
  refine bind (lift _) fun _ => ?_
  by_cases hlt : frameId - 1 < n
  · rw [dif_pos hlt]
    refine bind ?_ fun _ => onCore _ _
    cases dirtyLsn with
    | none => exact pure ()
    | some dirtyLsn => exact markDirty _ dirtyLsn _
  · rw [dif_neg hlt]
    exact lift _

end KeepsTable

open KeepsTable

theorem guardActions_pageTable (k : Fin n) (b : BufferPool σ n) (actions : List GuardAction) :
    (guardActions k b actions).pageTable = b.pageTable := by
  induction actions generalizing b with
  | nil => rfl
  | cons action actions ih =>
    exact (ih (guardAction k action b).2).trans (KeepsTable.guardAction k action b)

theorem useGuard_pageTable (actions : List GuardAction) (dropped : Bool)
    (answer : Except Error (Fin n × Option PageImage) × BufferPool σ n) :
    (useGuard actions dropped answer).2.pageTable = answer.2.pageTable := by
  rcases answer with ⟨_ | ⟨k, image⟩, b⟩
  · rfl
  · cases dropped <;> exact guardActions_pageTable k b actions

/-! ## Pages that may not leave -/

theorem KeepsBusy.then_pageTable {c : BufferPool σ n} (h : KeepsBusy b c)
    (htable : b'.pageTable = c.pageTable) : KeepsBusy b b' := by
  intro p k hp hbusy
  rw [htable]
  exact h p k hp hbusy

theorem KeepsBusy.bind {α β : Type} {x : Effect (BufferPool σ n) Error α}
    {f : α → Effect (BufferPool σ n) Error β}
    (hx : ∀ result b', x b = (result, b') → KeepsBusy b b') (hf : ∀ a, KeepsTable (f a)) :
    KeepsBusy b ((x >>= f) b).2 := by
  rw [bind_apply]
  rcases hrun : x b with ⟨_ | a, b₁⟩
  · exact hx _ b₁ hrun
  · exact (hx _ b₁ hrun).then_pageTable (hf a b₁)

variable [PageStore σ]

theorem Booked.call_keepsBusy (h : b.Booked) (c : PoolCall) : KeepsBusy b (b.call c) := by
  have hpin : ∀ k : Fin n, KeepsTable
      (onCore k BufferFrameCore.pin : Effect (BufferPool σ n) Error Unit) :=
    fun k => KeepsTable.onCore k _
  have hpinned : ∀ k : Fin n, KeepsTable (do let image ← BufferPool.pinned k; pure (k, image) :
        Effect (BufferPool σ n) Error (Fin n × Option PageImage)) := fun k =>
    KeepsTable.bind (KeepsTable.bind (hpin k) fun _ => KeepsTable.bind get fun _ =>
      pure _) fun _ => pure _
  have hensure : ∀ pageId (result : Except Error (Fin n)) b',
      BufferPool.ensureResident pageId b = (result, b') → KeepsBusy b b' :=
    fun _ _ _ hrun => (h.ensureResident hrun).2.1
  have hallocate : ∀ layout (result : Except Error (Fin n)) b',
      BufferPool.allocateResidentFrame layout b = (result, b') → KeepsBusy b b' :=
    fun _ _ _ hrun => (h.allocateResidentFrame hrun).2.1
  cases c with
  | fetchPage pageId actions dropped =>
    have hfetch : KeepsBusy b (BufferPool.fetch pageId b).2 := KeepsBusy.bind (hensure pageId) hpinned
    exact hfetch.then_pageTable (useGuard_pageTable actions dropped _)
  | newPage layout actions dropped =>
    have hnew : KeepsBusy b (BufferPool.newPage layout b).2 := KeepsBusy.bind (hallocate layout) hpinned
    exact hnew.then_pageTable (useGuard_pageTable actions dropped _)
  | pinPage pageId =>
    exact KeepsBusy.bind (hensure pageId) fun k => KeepsTable.bind (hpin k) fun _ =>
      KeepsTable.bind get fun _ => pure _
  | newPageFrame layout =>
    exact KeepsBusy.bind (hallocate layout) fun k => KeepsTable.bind (hpin k) fun _ =>
      KeepsTable.bind get fun _ => pure _
  | unpinPage frameId dirtyLsn =>
    exact .of_pageTable (KeepsTable.unpinPage frameId dirtyLsn b)
  | flushDirtyFrames observer
  | flushAllDirtyWithReport observer =>
    obtain ⟨htracked, hdistinct⟩ := h.flushCandidates
    exact .of_pageTable
      (h.flushLoop _ observer 0 (fun e he => (htracked e).mp he) hdistinct rfl).2.1
  | flushAllDirty => exact .of_pageTable rfl

/-! ## Every reachable state -/

theorem Booked.calls (h : b.Booked) (cs : List PoolCall) : (b.calls cs).Booked := by
  induction cs generalizing b with
  | nil => exact h
  | cons c cs ih => exact ih (h.call c).booked

/-- In every reachable state the page table, the frames and the tracker agree, and whatever is
called next leaves every pinned and every dirty page in its frame. -/
theorem reachable_consistent {pageSize : PageSize} {store : σ} (hnew : new n pageSize store = .ok b)
    (cs : List PoolCall) : (b.calls cs).Consistent ∧ ∀ c p k, (b.calls cs).pageTable p = some k →
      ((b.calls cs).frames k).core.pinCount ≠ 0 ∨ ((b.calls cs).frames k).core.isDirty = true →
        ((b.calls cs).call c).pageTable p = some k := by
  have hbooked := (new_eq_ok hnew).1.calls cs
  exact ⟨hbooked.consistent, fun c => hbooked.call_keepsBusy c⟩

structure Reports (observer : WalDurabilityObserver) (b b' : BufferPool σ n)
    (report : FlushAllDirtyResult) (turns : List CandidateFlush) : Prop where
  once : (turns.map CandidateFlush.pageId).Nodup
  dirty : ∀ p, p ∈ turns.map CandidateFlush.pageId ↔
    ∃ image range, b.line p = some ⟨image, some range⟩
  flushed : report.flushed = flushedCount turns
  blocked : report.blockedByWalDurability = turns.filterMap CandidateFlush.blocked?
  errors : report.errors = turns.filterMap CandidateFlush.flushError?
  category : ∀ turn ∈ turns, [decide (turn.outcome = .flushed), turn.blocked?.isSome,
    turn.flushError?.isSome].count true = 1
  settled : ∀ turn ∈ turns, Settled observer 0 b b' turns turn
  /-- The store took the image of every page that was cleaned. -/
  moves : Moves b (turns.flatMap turnEvents) b'
  others : ∀ p ∉ turns.map CandidateFlush.pageId, b'.line p = b.line p

/-- In every reachable state, with any store and any observer, a flush takes every dirty page
once, also behind pages that it cannot write. -/
theorem flush_reports_every_dirty_page {pageSize : PageSize} {store : σ}
    (hnew : new n pageSize store = .ok b) (cs : List PoolCall) (observer : WalDurabilityObserver) :
    Reports observer (b.calls cs) (flushAllDirtyWithReport observer (b.calls cs)).2
      (flushAllDirtyWithReport observer (b.calls cs)).1 (flushAllTurns observer (b.calls cs)).1 := by
  have h := (new_eq_ok hnew).1.calls cs
  obtain ⟨htracked, hdistinct⟩ := h.flushCandidates
  obtain ⟨⟨hruns, -⟩, -, hothers, hsettled, hids⟩ := h.flushLoop (fun _ => false) observer 0
    (fun e he => (htracked e).mp he) hdistinct rfl
  have hturns : (flushAllTurns observer (b.calls cs)).1.map CandidateFlush.pageId =
      (b.calls cs).dirtyTracker.flushCandidates.map DirtyEntry.pageId := hids fun _ => rfl
  refine ⟨hturns ▸ hdistinct, fun p => ?_, rfl, rfl, rfl, fun turn _ => ?_,
    fun turn hturn => (hsettled turn hturn).1, hruns.moves, hturns ▸ hothers⟩
  · rw [hturns, List.mem_map]
    constructor
    · rintro ⟨e, he, rfl⟩
      obtain ⟨-, -, ⟨image, range⟩, -, hline, rfl⟩ := h.line_of_tracked ((htracked e).mp he)
      exact ⟨image, _, hline⟩
    · rintro ⟨image, range, hline⟩
      refine ⟨⟨p, range.1, range.2⟩, (htracked _).mpr ?_, rfl⟩
      rw [h.tracked, hline]
      rfl
  · obtain ⟨p, outcome, wrote⟩ := turn
    cases outcome <;> rfl

def twoDirtyPages : List PoolCall :=
  [.fetchPage 1 [.markDirty 5] true, .fetchPage 2 [.markDirty 7] true]

/-- Of two dirty pages the flush writes the first one, and the log is not far enough for the
second. -/
theorem flush_reports_firstPage : ∃ b : BufferPool InMemoryPageStore 2,
    new 2 .kiB16 twoPageStore = .ok b ∧
      Reports (.reporting fun _ => 5) (b.calls twoDirtyPages)
        (flushAllDirtyWithReport (.reporting fun _ => 5) (b.calls twoDirtyPages)).2
        (flushAllDirtyWithReport (.reporting fun _ => 5) (b.calls twoDirtyPages)).1
        (flushAllTurns (.reporting fun _ => 5) (b.calls twoDirtyPages)).1 ∧
      (flushAllDirtyWithReport (.reporting fun _ => 5) (b.calls twoDirtyPages)).1.flushed = 1 ∧
      (flushAllDirtyWithReport (.reporting fun _ => 5)
        (b.calls twoDirtyPages)).1.blockedByWalDurability = [⟨2, 7, 7, 5⟩] := by
  refine ⟨_, rfl, flush_reports_every_dirty_page
    (show new 2 .kiB16 twoPageStore = .ok _ from rfl) _ _, ?_, ?_⟩ <;> decide +kernel

/-- With its only frame dirty the pool cannot take in another page, and keeps the one it has. -/
theorem reachable_consistent_firstPage :
    ∃ b : BufferPool InMemoryPageStore 1, new 1 .kiB16 twoPageStore = .ok b ∧
      (b.calls [.fetchPage 1 [.markDirty 5] true]).Consistent ∧
      ((b.calls [.fetchPage 1 [.markDirty 5] true]).call (.fetchPage 2 [] true)).pageTable 1 =
        some 0 := by
  refine ⟨_, rfl, ?_⟩
  have hrun := reachable_consistent (show new 1 .kiB16 twoPageStore = .ok _ from rfl)
    [.fetchPage 1 [.markDirty 5] true]
  exact ⟨hrun.1, hrun.2 _ 1 0 (by decide +kernel) (.inr (by decide +kernel))⟩

end BufferPool

end Andromeda
