import Andromeda.BufferPool.Calls

/-!
# WAL before page

For each page the LSNs that dirtied it since it was last clean are kept beside the pool. A
write is fenced when none of them is above the durable LSN reported last, for the page whose
frame is flushed and for the page whose image is written.

The two pages differ when an image of another page was put through `dirty_image_mut`, which
nothing checks; then the gate looked at the wrong page. And the gate is not repeated for the
LSN that is handed to the store, which may have fallen since. Runs in which neither happens
are fenced.
-/

namespace Andromeda

open Fallible Function List

namespace BufferPool

/-! ## The LSNs that dirtied a page -/

def dirtiedAfter (dirtied : PageId → List Lsn) : PoolEvent → PageId → List Lsn
  | .dirtied p dirtyLsn => Function.update dirtied p (dirtyLsn :: dirtied p)
  | .cleaned p => Function.update dirtied p []
  | .assigned _ _ | .created _ _ => dirtied

/-- A pool, and for each page the LSNs that dirtied it since it was last clean. -/
structure FenceRun (σ : Type) (n : Nat) where
  pool : BufferPool σ n
  dirtied : PageId → List Lsn

def TurnFenced (dirtied : PageId → List Lsn) (turn : CandidateFlush) : Prop :=
  ∀ w ∈ turn.wrote.toList, ∀ p ∈ turn.pageId :: w.image.pageId.toList,
    ∀ lsn ∈ dirtied p, lsn ≤ w.durableLsn

instance (dirtied : PageId → List Lsn) (turn : CandidateFlush) :
    Decidable (TurnFenced dirtied turn) :=
  @List.decidableBAll _ _ (fun _ => @List.decidableBAll _ _ (fun _ => List.decidableBAll _ _) _) _

/-- The turns of a flush, each against the LSNs as they are when it starts. -/
def TurnsFenced : (PageId → List Lsn) → List CandidateFlush → Prop
  | _, [] => True
  | dirtied, turn :: turns =>
    TurnFenced dirtied turn ∧ TurnsFenced ((turnEvents turn).foldl dirtiedAfter dirtied) turns

instance decidableTurnsFenced : (dirtied : PageId → List Lsn) → (turns : List CandidateFlush) →
    Decidable (TurnsFenced dirtied turns)
  | _, [] => inferInstanceAs (Decidable True)
  | dirtied, turn :: turns =>
    have := decidableTurnsFenced ((turnEvents turn).foldl dirtiedAfter dirtied) turns
    inferInstanceAs (Decidable (_ ∧ _))

namespace FenceRun

variable {σ : Type} [PageStore σ] {n : Nat}

def start (b : BufferPool σ n) : FenceRun σ n := ⟨b, fun _ => []⟩

def call (r : FenceRun σ n) (c : PoolCall) : FenceRun σ n :=
  ⟨r.pool.call c, (r.pool.events c).foldl dirtiedAfter r.dirtied⟩

def calls (r : FenceRun σ n) (cs : List PoolCall) : FenceRun σ n := cs.foldl call r

/-- The next call writes no page ahead of the WAL. A page that is not resident, which
`new_page` may allocate in the store, has no LSN to wait for. -/
def Fenced (r : FenceRun σ n) (c : PoolCall) : Prop :=
  TurnsFenced r.dirtied (r.pool.turns c) ∧ ∀ p, r.pool.pageTable p = none → r.dirtied p = []

end FenceRun

/-! ## The condition on calls -/

/-- The reported durable LSN does not fall during the call. -/
def WalDurabilityObserver.Steady (observer : WalDurabilityObserver) : Prop :=
  ∀ i j, i ≤ j → observer.maxDurableLsn i ≤ observer.maxDurableLsn j

def PoolCall.Steady : PoolCall → Prop
  | .flushDirtyFrames observer | .flushAllDirtyWithReport observer => observer.Steady
  | _ => True

section Invariant

variable {σ : Type} {n : Nat} {b b' : BufferPool σ n} {p : PageId} {dirtied : PageId → List Lsn}

/-- Every line is an image of its page, and every LSN kept is in the range of a dirty line. -/
structure Covered (b : BufferPool σ n) (dirtied : PageId → List Lsn) : Prop where
  own : ∀ p l, b.line p = some l → l.image.pageId = some p
  range : ∀ p, ∀ lsn ∈ dirtied p, ∃ l r, b.line p = some l ∧ l.range = some r ∧ lsn ≤ r.2

variable {l : Option Line}

theorem Covered.update (h : Covered b dirtied) {lsns : List Lsn}
    (hlines : b'.line = Function.update b.line p l)
    (hown : ∀ l', l = some l' → l'.image.pageId = some p)
    (hrange : ∀ lsn ∈ lsns, ∃ l' r, l = some l' ∧ l'.range = some r ∧ lsn ≤ r.2) :
    Covered b' (Function.update dirtied p lsns) := by
  constructor
  · intro q l' hq
    rw [hlines] at hq
    by_cases hqp : q = p
    · rw [hqp, update_self] at hq
      rw [hqp]
      exact hown l' hq
    · rw [update_of_ne hqp] at hq
      exact h.own q l' hq
  · intro q lsn hlsn
    rw [hlines]
    by_cases hqp : q = p
    · rw [hqp, update_self] at hlsn ⊢
      exact hrange lsn hlsn
    · rw [update_of_ne hqp] at hlsn ⊢
      exact h.range q lsn hlsn

theorem Covered.setLine (h : Covered b dirtied) (hlines : b'.line = Function.update b.line p l)
    (hown : ∀ l', l = some l' → l'.image.pageId = some p)
    (hrange : ∀ lsn ∈ dirtied p, ∃ l' r, l = some l' ∧ l'.range = some r ∧ lsn ≤ r.2) :
    Covered b' dirtied := by
  have hupdate := h.update hlines hown hrange
  rwa [update_eq_self] at hupdate

theorem Covered.same (h : Covered b dirtied) (hlines : b'.line = b.line) : Covered b' dirtied := by
  constructor
  · rw [hlines]
    exact h.own
  · rw [hlines]
    exact h.range

theorem Covered.dirtied_eq_nil (h : Covered b dirtied)
    (hclean : ∀ l, b.line p = some l → l.range = none) : dirtied p = [] := by
  rw [eq_nil_iff_forall_not_mem]
  intro lsn hlsn
  obtain ⟨l, r, hline, hrange, -⟩ := h.range p lsn hlsn
  rw [hclean l hline] at hrange
  cases hrange

variable [PageStore σ]

theorem Move.covered {event : Option PoolEvent} (h : Covered b dirtied) (hmove : Move b event b')
    (hown : ∀ p image, event = some (.assigned p image) → image.pageId = some p) :
    Covered b' (event.toList.foldl dirtiedAfter dirtied) := by
  cases hmove with
  | quiet hlines _ | allocated layout result _ _ hlines
  | writeFailed image durableLsn err _ hlines => exact h.same hlines
  | evicted p l hline hclean hlines _ =>
    have hnil : dirtied p = [] := by
      refine h.dirtied_eq_nil fun l' hl' => ?_
      rw [hline, Option.some.injEq] at hl'
      rw [← hl', hclean]
    exact h.setLine hlines (fun l' hl' => by cases hl') (by simp [hnil])
  | admitted p image hline hid _ hlines _ =>
    have hnil : dirtied p = [] := by
      refine h.dirtied_eq_nil fun l' hl' => ?_
      rw [hline] at hl'
      cases hl'
    refine h.setLine hlines ?_ (by simp [hnil])
    intro l' hl'
    cases hl'
    exact hid
  | created p image _ => exact h
  | dirtied p dirtyLsn l hline hlast hlines _ =>
    refine h.update hlines ?_ ?_
    · intro l' hl'
      cases hl'
      exact h.own p l hline
    · -- the new LSN is the last of the range, and no older one is above it
      intro lsn hlsn
      refine ⟨_, _, rfl, rfl, ?_⟩
      rcases mem_cons.mp hlsn with rfl | hlsn
      · exact UInt64.le_refl _
      · obtain ⟨l', r, hline', hrange, hle⟩ := h.range p lsn hlsn
        rw [hline, Option.some.injEq] at hline'
        subst hline'
        exact UInt64.le_trans hle (hlast r hrange)
  | assigned p image l hline _ hlines _ =>
    refine h.setLine hlines ?_ ?_
    · intro l' hl'
      cases hl'
      exact hown p image rfl
    · intro lsn hlsn
      obtain ⟨l', r, hline', hrange, hle⟩ := h.range p lsn hlsn
      rw [hline, Option.some.injEq] at hline'
      subst hline'
      exact ⟨_, r, rfl, hrange, hle⟩
  | written p l durableLsn hline _ hlines =>
    refine h.update hlines ?_ (by simp)
    intro l' hl'
    cases hl'
    exact h.own p l hline

theorem Moves.covered {events : List PoolEvent} (h : Covered b dirtied) (hmoves : Moves b events b')
    (hown : ∀ p image, PoolEvent.assigned p image ∈ events → image.pageId = some p) :
    Covered b' (events.foldl dirtiedAfter dirtied) := by
  induction hmoves generalizing dirtied with
  | refl => exact h
  | step head _ ih =>
    rw [foldl_append]
    refine ih (head.covered h ?_) fun p image hmem => hown p image (mem_append_right _ hmem)
    intro p image hevent
    exact hown p image (by simp [hevent])

end Invariant

namespace FenceRun

variable {σ : Type} {n : Nat} {r : FenceRun σ n}

structure Kept (r : FenceRun σ n) : Prop where
  booked : r.pool.Booked
  covered : Covered r.pool r.dirtied

variable {observer : WalDurabilityObserver} {turn : CandidateFlush} {c : PoolCall}
  {dirtied : PageId → List Lsn}

/-- A write past the gate is fenced if the report has not fallen since. -/
theorem Kept.turn_fenced (h : r.Kept) (hsteady : observer.Steady)
    (hgated : Gated observer r.pool turn) (hsub : ∀ p, ∀ lsn ∈ dirtied p, lsn ∈ r.dirtied p) :
    TurnFenced dirtied turn := by
  intro w hw p hp lsn hlsn
  obtain ⟨l, range, i, hline, hrange, himage, hdurable, hgate⟩ :=
    hgated w (Option.mem_toList.mp hw)
  have hid : w.image.pageId = some turn.pageId := by
    rw [himage]
    exact h.covered.own turn.pageId l hline
  have hpage : p = turn.pageId := by
    simpa [hid] using hp
  subst hpage
  obtain ⟨l', range', hline', hrange', hle⟩ := h.covered.range turn.pageId lsn (hsub _ lsn hlsn)
  rw [hline, Option.some.injEq] at hline'
  subst hline'
  rw [hrange, Option.some.injEq] at hrange'
  subst hrange'
  have hreport : observer.maxDurableLsn i ≤ w.durableLsn := by
    rw [hdurable]
    exact hsteady i (i + 2) (by omega)
  exact UInt64.le_trans hle (UInt64.le_trans hgate hreport)

theorem mem_of_mem_turnEvents {p : PageId} {lsn : Lsn}
    (hlsn : lsn ∈ (turnEvents turn).foldl dirtiedAfter dirtied p) : lsn ∈ dirtied p := by
  rw [turnEvents] at hlsn
  split at hlsn
  · simp only [foldl_cons, foldl_nil, dirtiedAfter] at hlsn
    by_cases hp : p = turn.pageId
    · rw [hp, update_self] at hlsn
      cases hlsn
    · rwa [update_of_ne hp] at hlsn
  · exact hlsn

theorem Kept.turns_fenced (h : r.Kept) (hsteady : observer.Steady) {turns : List CandidateFlush}
    (hgated : ∀ turn ∈ turns, Gated observer r.pool turn)
    (hsub : ∀ p, ∀ lsn ∈ dirtied p, lsn ∈ r.dirtied p) : TurnsFenced dirtied turns := by
  induction turns generalizing dirtied with
  | nil => trivial
  | cons turn turns ih =>
    refine ⟨h.turn_fenced hsteady (hgated turn mem_cons_self) hsub, ?_⟩
    refine ih (forall_mem_cons.mp hgated).2 ?_
    intro p lsn hlsn
    exact hsub p lsn (mem_of_mem_turnEvents hlsn)

variable [PageStore σ]

theorem Kept.call (h : r.Kept) (hstore : AllocatesAsked σ) (hown : c.Own) : (r.call c).Kept := by
  have hruns := h.booked.call c
  refine ⟨hruns.booked, hruns.moves.covered h.covered ?_⟩
  intro p image hmem
  exact own_of_mem_events h.booked hstore hown hmem

theorem Kept.calls (h : r.Kept) (hstore : AllocatesAsked σ) {cs : List PoolCall}
    (hown : ∀ c ∈ cs, c.Own) : (r.calls cs).Kept := by
  apply foldlRecOn (motive := Kept) cs _ h
  intro r h c hc
  exact h.call hstore (hown c hc)

theorem kept_start {pageSize : PageSize} {store : σ} {b : BufferPool σ n}
    (hnew : BufferPool.new n pageSize store = .ok b) : (start b).Kept := by
  obtain ⟨hbooked, -, hlines⟩ := new_eq_ok hnew
  refine ⟨hbooked, ?_, nofun⟩
  intro p l hline
  rw [start, hlines p] at hline
  cases hline

theorem Kept.fenced (h : r.Kept) (hsteady : c.Steady) : r.Fenced c := by
  constructor
  · have hflush : ∀ observer : WalDurabilityObserver, observer.Steady →
        (∀ turn ∈ r.pool.turns c, Gated observer r.pool turn) →
          TurnsFenced r.dirtied (r.pool.turns c) :=
      fun observer hobserver hgated => h.turns_fenced hobserver hgated fun _ _ hlsn => hlsn
    cases c with
    | flushDirtyFrames observer | flushAllDirtyWithReport observer =>
      refine hflush observer hsteady fun turn hturn => ?_
      obtain ⟨observer', hc | hc, hgated⟩ := h.booked.turns_gated hturn <;> cases hc
      exact hgated
    | _ => trivial
  · intro p htable
    refine h.covered.dirtied_eq_nil fun l hline => ?_
    rw [h.booked.line_eq_none_iff.mpr htable] at hline
    cases hline

/-- WAL before page, for the runs in which every image put through a guard is of the guard's
page and no report falls during a flush. -/
theorem own_steady_run_fenced (hstore : AllocatesAsked σ) {pageSize : PageSize} {store : σ}
    {b : BufferPool σ n} (hnew : BufferPool.new n pageSize store = .ok b) (cs : List PoolCall)
    (hown : ∀ c ∈ cs, c.Own) (hsteady : ∀ c ∈ cs, c.Steady) :
    ∀ before c after, cs = before ++ c :: after → ((start b).calls before).Fenced c := by
  rintro before c after rfl
  have hkept : ((start b).calls before).Kept :=
    (kept_start hnew).calls hstore fun c' hc' => hown c' (mem_append_left _ hc')
  exact hkept.fenced (hsteady c (by simp))

/-- A page is written through its own guard and flushed. -/
theorem own_steady_run_fenced_firstPage :
    ∃ b : BufferPool InMemoryPageStore 2, BufferPool.new 2 .kiB16 twoPageStore = .ok b ∧
      ((start b).calls [.fetchPage 1 [.dirtyImageMut 5 rewrittenPage] true]).Fenced
        (.flushDirtyFrames (.reporting fun _ => 10)) := by
  have hnew : ∃ b : BufferPool InMemoryPageStore 2,
      BufferPool.new 2 .kiB16 twoPageStore = .ok b := ⟨_, rfl⟩
  obtain ⟨b, hnew⟩ := hnew
  refine ⟨b, hnew, own_steady_run_fenced (allocatesAsked_of_keeping InMemoryPageStore.keeping) hnew
    [.fetchPage 1 [.dirtyImageMut 5 rewrittenPage] true,
      .flushDirtyFrames (.reporting fun _ => 10)] ?_ ?_ _ _ [] rfl⟩
  · simp [PoolCall.Own, GuardAction.Own, rewrittenPage, filledImage, PageImage.pageId, blankLayout]
  · simp [PoolCall.Steady, WalDurabilityObserver.Steady, WalDurabilityObserver.reporting]

/-- An image of page 2 goes into the frame of page 1, while LSN 100 dirtied page 2. -/
def foreignCalls : List PoolCall :=
  [.fetchPage 2 [.markDirty 100] true, .fetchPage 1 [.dirtyImageMut 5 secondPage] true]

/-- From the third question on less is durable than before. -/
def fallingReport : WalDurabilityObserver := .reporting fun i => if i < 2 then 10 else 3

/-- Neither condition can be dropped. The image of page 2 is written while LSN 100 is above the
durable LSN 10; and a page dirtied at LSN 5 is written after the report has fallen to 3. -/
theorem unfenced_runs :
    ∃ b : BufferPool InMemoryPageStore 2, BufferPool.new 2 .kiB16 twoPageStore = .ok b ∧
      ((∀ c ∈ foreignCalls ++ [.flushDirtyFrames (.reporting fun _ => 10)], c.Steady) ∧
        ¬ ((start b).calls foreignCalls).Fenced (.flushDirtyFrames (.reporting fun _ => 10))) ∧
      (∀ c ∈ [PoolCall.fetchPage 1 [.markDirty 5] true, .flushDirtyFrames fallingReport], c.Own) ∧
        ¬ ((start b).calls [.fetchPage 1 [.markDirty 5] true]).Fenced
          (.flushDirtyFrames fallingReport) := by
  refine ⟨_, rfl, ⟨?_, ?_⟩, ?_, ?_⟩
  · simp [foreignCalls, PoolCall.Steady, WalDurabilityObserver.Steady,
      WalDurabilityObserver.reporting]
  · intro hfenced
    exact absurd hfenced.1 (by decide +kernel)
  · simp [PoolCall.Own, GuardAction.Own]
  · intro hfenced
    exact absurd hfenced.1 (by decide +kernel)

end FenceRun

end BufferPool

end Andromeda
