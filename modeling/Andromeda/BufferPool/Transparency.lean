import Andromeda.BufferPool.Calls

/-!
# The pool is transparent

Beside the pool runs a plain map from pages to images: the pages in the store at the start,
those created by `new_page`, and what was last written to each through a guard. A fetch
returns the image of the map, whatever was evicted, flushed or reloaded in between, as long as
every image put through a guard is of the guard's page. An image of another page is written
back to that page.
-/

namespace Andromeda

open Fallible Function List

namespace BufferPool

def writtenAfter (pages : PageId → Option PageImage) : PoolEvent → PageId → Option PageImage
  | .assigned p image | .created p image => Function.update pages p (some image)
  | .dirtied _ _ | .cleaned _ => pages

structure PageRun (σ : Type) (n : Nat) where
  pool : BufferPool σ n
  pages : PageId → Option PageImage

namespace PageRun

variable {σ : Type} [PageStore σ] {n : Nat}

def start (contents : σ → PageId → Option PageImage) (b : BufferPool σ n) : PageRun σ n :=
  ⟨b, contents b.store⟩

def call (r : PageRun σ n) (c : PoolCall) : PageRun σ n :=
  ⟨r.pool.call c, (r.pool.events c).foldl writtenAfter r.pages⟩

def calls (r : PageRun σ n) (cs : List PoolCall) : PageRun σ n := cs.foldl call r

/-- A successful fetch of a page of the map returns the image of the map. -/
def Transparent (r : PageRun σ n) : Prop :=
  ∀ p image, r.pages p = some image →
    ∀ answer, (r.pool.fetch p).1 = .ok answer → answer.2 = some image

end PageRun

/-! ## What a fetch sees -/

section Visible

variable {σ : Type} {n : Nat} {b b' : BufferPool σ n} {p : PageId} {l : Line}
  {contents : σ → PageId → Option PageImage} {pages : PageId → Option PageImage}

/-- The image of a page: its line if it is resident, and the store otherwise. -/
def visible (contents : σ → PageId → Option PageImage) (b : BufferPool σ n) (p : PageId) :
    Option PageImage :=
  match b.line p with
  | some l => some l.image
  | none => contents b.store p

theorem visible_of_line (hline : b.line p = some l) : visible contents b p = some l.image := by
  rw [visible, hline]

theorem visible_of_none (hline : b.line p = none) : visible contents b p = contents b.store p := by
  rw [visible, hline]

/-- The pool over its store stands for the map. -/
structure Mirrors (contents : σ → PageId → Option PageImage) (b : BufferPool σ n)
    (pages : PageId → Option PageImage) : Prop where
  own : ∀ p l, b.line p = some l → l.image.pageId = some p
  clean : ∀ p l, b.line p = some l → l.range = none → contents b.store p = some l.image
  seen : ∀ p image, pages p = some image → visible contents b p = some image

variable {pages' : PageId → Option PageImage}

section

variable (h : Mirrors contents b pages)
include h

theorem Mirrors.update (hlines : ∀ q, q ≠ p → b'.line q = b.line q)
    (hstore : ∀ q, q ≠ p → contents b'.store q = contents b.store q)
    (hpages : ∀ q, q ≠ p → pages' q = pages q)
    (hown : ∀ l, b'.line p = some l → l.image.pageId = some p)
    (hclean : ∀ l, b'.line p = some l → l.range = none → contents b'.store p = some l.image)
    (hseen : ∀ image, pages' p = some image → visible contents b' p = some image) :
    Mirrors contents b' pages' := by
  refine ⟨?_, ?_, ?_⟩
  · intro q l hq
    by_cases hqp : q = p
    · subst hqp
      exact hown l hq
    · rw [hlines q hqp] at hq
      exact h.own q l hq
  · intro q l hq hrange
    by_cases hqp : q = p
    · subst hqp
      exact hclean l hq hrange
    · rw [hlines q hqp] at hq
      rw [hstore q hqp]
      exact h.clean q l hq hrange
  · intro q image hq
    by_cases hqp : q = p
    · subst hqp
      exact hseen image hq
    · rw [hpages q hqp] at hq
      rw [visible, hlines q hqp, hstore q hqp]
      exact h.seen q image hq

theorem Mirrors.setLine (hlines : b'.line = Function.update b.line p (some l))
    (hstore : ∀ q, q ≠ p → contents b'.store q = contents b.store q)
    (hpages : ∀ q, q ≠ p → pages' q = pages q) (hown : l.image.pageId = some p)
    (hclean : l.range = none → contents b'.store p = some l.image)
    (hseen : ∀ image, pages' p = some image → l.image = image) : Mirrors contents b' pages' := by
  have hline : b'.line p = some l := by rw [hlines, update_self]
  refine h.update (p := p) (fun q hq => ?_) hstore hpages ?_ ?_ ?_
  · rw [hlines, update_of_ne hq]
  · intro l' hl'
    rw [hline, Option.some.injEq] at hl'
    rw [← hl']
    exact hown
  · intro l' hl' hrange
    rw [hline, Option.some.injEq] at hl'
    rw [← hl'] at hrange ⊢
    exact hclean hrange
  · intro image himage
    rw [visible_of_line hline, hseen image himage]

theorem Mirrors.image_eq (hline : b.line p = some l)
    {image : PageImage} (hpages : pages p = some image) : l.image = image := by
  have hseen := h.seen p image hpages
  rwa [visible_of_line hline, Option.some.injEq] at hseen

theorem Mirrors.same (hlines : b'.line = b.line)
    (hstore : contents b'.store = contents b.store) : Mirrors contents b' pages := by
  refine ⟨?_, ?_, ?_⟩
  · rw [hlines]
    exact h.own
  · rw [hlines, hstore]
    exact h.clean
  · intro p image hp
    rw [visible, hlines, hstore]
    exact h.seen p image hp

end

end Visible

section Moves

variable {σ : Type} [PageStore σ] {n : Nat} {b b' : BufferPool σ n} {p : PageId}
  {contents : σ → PageId → Option PageImage} {pages : PageId → Option PageImage}

theorem Provided.contents_eq (hkeep : PageStore.Keeping contents) {s : σ} {image : PageImage}
    (h : Provided s p image) (hid : image.pageId = some p) : contents s p = some image := by
  rcases h with hread | ⟨s₀, layout, durableLsn, hcall⟩
  · exact (hkeep.read hread).symm
  · obtain ⟨hasked, -, hcontents⟩ := hkeep.allocate hcall
    rw [hid, Option.some.injEq] at hasked
    rw [hcontents, hasked, update_self]

theorem Move.mirrors (hkeep : PageStore.Keeping contents) {event : Option PoolEvent}
    (h : Mirrors contents b pages) (hmove : Move b event b')
    (hown : ∀ p image, event = some (.assigned p image) → image.pageId = some p) :
    Mirrors contents b' (event.toList.foldl writtenAfter pages) := by
  cases hmove with
  | quiet hlines hstore => exact h.same hlines (by rw [hstore])
  | evicted p l hline hclean hlines hstore =>
    -- a clean page is seen in the store as it was in its frame
    have hnone : b'.line p = none := by rw [hlines, update_self]
    refine h.update (p := p) (fun q hq => ?_) (fun q _ => by rw [hstore]) (fun q _ => rfl) ?_ ?_ ?_
    · rw [hlines, update_of_ne hq]
    · intro l' hl'
      rw [hnone] at hl'
      cases hl'
    · intro l' hl'
      rw [hnone] at hl'
      cases hl'
    · intro image himage
      have hseen := h.seen p image himage
      rw [visible_of_line hline] at hseen
      rw [visible_of_none hnone, hstore, h.clean p l hline hclean, hseen]
  | admitted p image hline hid hsource hlines hstore =>
    have hkept : contents b.store p = some image := hsource.contents_eq hkeep hid
    refine h.setLine hlines (fun q _ => by rw [hstore]) (fun q _ => rfl) hid ?_ ?_
    · intro _
      rw [hstore, hkept]
    · intro seen hpages
      have hseen := h.seen p seen hpages
      rwa [visible_of_none hline, hkept, Option.some.injEq] at hseen
  | allocated layout result hline hcall hlines =>
    cases result with
    | error err => exact h.same hlines (hkeep.allocateError hcall)
    | ok image =>
      obtain ⟨-, hfresh, hcontents⟩ := hkeep.allocate hcall
      have hline' : b'.line layout.header.pageId = none := by rw [hlines, hline]
      refine h.update (p := layout.header.pageId) (fun q _ => by rw [hlines])
        (fun q hq => ?_) (fun q _ => rfl) ?_ ?_ ?_
      · rw [hcontents, update_of_ne hq]
      · intro l hl
        rw [hline'] at hl
        cases hl
      · intro l hl
        rw [hline'] at hl
        cases hl
      · -- the page was neither resident nor in the store, so it is not in the map
        intro seen hpages
        have hseen := h.seen _ seen hpages
        rw [visible_of_none hline, hfresh] at hseen
        cases hseen
  | created p image hline =>
    refine h.update (p := p) (fun q _ => rfl) (fun q _ => rfl)
      (fun q hq => update_of_ne hq _ _) (h.own p) (h.clean p) ?_
    intro seen hpages
    have hself : Function.update pages p (some image) p = some seen := hpages
    rw [update_self] at hself
    rw [visible_of_line hline, hself]
  | dirtied p dirtyLsn l hline _ hlines hstore =>
    refine h.setLine hlines (fun q _ => by rw [hstore]) (fun q _ => rfl) (h.own p l hline) ?_ ?_
    · intro hrange
      cases hrange
    · intro seen hpages
      exact h.image_eq hline hpages
  | assigned p image l hline hdirty hlines hstore =>
    refine h.setLine hlines (fun q _ => by rw [hstore])
      (fun q hq => update_of_ne hq _ _) (hown p image rfl) ?_ ?_
    · intro hrange
      exact absurd hrange hdirty
    · intro seen hpages
      have hself : Function.update pages p (some image) p = some seen := hpages
      rwa [update_self, Option.some.injEq] at hself
  | writeFailed image durableLsn err hcall hlines => exact h.same hlines (hkeep.writeError hcall)
  | written p l durableLsn hline hcall hlines =>
    -- the image is of the page, so it is that page the store now keeps it for
    obtain ⟨q, hq, hcontents⟩ := hkeep.write hcall
    rw [h.own p l hline, Option.some.injEq] at hq
    subst hq
    refine h.setLine hlines (fun q hq => ?_) (fun q _ => rfl) (h.own p l hline) ?_ ?_
    · rw [hcontents, update_of_ne hq]
    · intro _
      rw [hcontents, update_self]
      rfl
    · intro seen hpages
      exact h.image_eq hline hpages

theorem Moves.mirrors (hkeep : PageStore.Keeping contents) {events : List PoolEvent}
    (h : Mirrors contents b pages) (hmoves : Moves b events b')
    (hown : ∀ p image, PoolEvent.assigned p image ∈ events → image.pageId = some p) :
    Mirrors contents b' (events.foldl writtenAfter pages) := by
  induction hmoves generalizing pages with
  | refl => exact h
  | step head _ ih =>
    rw [foldl_append]
    refine ih (head.mirrors hkeep h ?_) fun p image hmem =>
      hown p image (mem_append_right _ hmem)
    intro p image hevent
    exact hown p image (by simp [hevent])

end Moves

namespace PageRun

variable {σ : Type} [PageStore σ] {n : Nat} {r : PageRun σ n}
  {contents : σ → PageId → Option PageImage}

structure Kept (contents : σ → PageId → Option PageImage) (r : PageRun σ n) : Prop where
  booked : r.pool.Booked
  mirrors : Mirrors contents r.pool r.pages

theorem Kept.call (hkeep : PageStore.Keeping contents) (h : r.Kept contents) {c : PoolCall}
    (hown : c.Own) : (r.call c).Kept contents := by
  have hruns := h.booked.call c
  refine ⟨hruns.booked, hruns.moves.mirrors hkeep h.mirrors ?_⟩
  intro p image hmem
  exact own_of_mem_events h.booked (allocatesAsked_of_keeping hkeep) hown hmem

theorem Kept.calls (hkeep : PageStore.Keeping contents) (h : r.Kept contents)
    {cs : List PoolCall} (hown : ∀ c ∈ cs, c.Own) : (r.calls cs).Kept contents := by
  apply foldlRecOn (motive := Kept contents) cs _ h
  intro r h c hc
  exact h.call hkeep (hown c hc)

theorem kept_start {pageSize : PageSize} {store : σ} {b : BufferPool σ n}
    (hnew : BufferPool.new n pageSize store = .ok b) : (start contents b).Kept contents := by
  obtain ⟨hbooked, -, hlines⟩ := new_eq_ok hnew
  have hnone : ∀ p l, b.line p = some l → False := by
    intro p l hline
    rw [hlines p] at hline
    cases hline
  refine ⟨hbooked, fun p l hline => (hnone p l hline).elim,
    fun p l hline => (hnone p l hline).elim, ?_⟩
  intro p image hpages
  exact (visible_of_none (hlines p)).trans hpages

/-- A fetch is itself a chain of silent moves, after which the page is on its line. -/
theorem Kept.transparent (hkeep : PageStore.Keeping contents) (h : r.Kept contents) :
    r.Transparent := by
  intro p image hpages answer hanswer
  rcases hrun : r.pool.fetch p with ⟨result, b'⟩
  rw [hrun] at hanswer
  subst hanswer
  obtain ⟨hruns, hok⟩ := h.booked.fetch hrun
  obtain ⟨htable, hfound⟩ := hok answer.1 answer.2 rfl
  have hmirrors : Mirrors contents b' r.pages :=
    hruns.moves.mirrors hkeep h.mirrors (by simp)
  obtain ⟨l, hline⟩ := Option.ne_none_iff_exists'.mp
    (fun hnone => by rw [hruns.booked.line_eq_none_iff.mp hnone] at htable; cases htable)
  rw [hfound, hline, Option.map_some, hmirrors.image_eq hline hpages]

/-- The pool is transparent in every run in which every image put through a guard is of the
guard's page. -/
theorem own_run_transparent (hkeep : PageStore.Keeping contents) {pageSize : PageSize} {store : σ}
    {b : BufferPool σ n} (hnew : BufferPool.new n pageSize store = .ok b) (cs : List PoolCall)
    (hown : ∀ c ∈ cs, c.Own) :
    ∀ before after, cs = before ++ after → ((start contents b).calls before).Transparent := by
  rintro before after rfl
  have hkept : ((start contents b).calls before).Kept contents :=
    (kept_start hnew).calls hkeep fun c hc => hown c (mem_append_left _ hc)
  exact hkept.transparent hkeep

/-- Page 1 is rewritten through its own guard, flushed and evicted for page 2. -/
def rewritingCalls : List PoolCall :=
  [.fetchPage 1 [.dirtyImageMut 5 rewrittenPage] true, .flushDirtyFrames (.reporting fun _ => 10),
    .fetchPage 2 [] true]

theorem own_run_transparent_firstPage :
    ∃ b : BufferPool InMemoryPageStore 1, BufferPool.new 1 .kiB16 twoPageStore = .ok b ∧
      ((start InMemoryPageStore.pages b).calls rewritingCalls).Transparent ∧
      ((start InMemoryPageStore.pages b).calls rewritingCalls).pages 1 = some rewrittenPage := by
  have hnew : ∃ b : BufferPool InMemoryPageStore 1,
      BufferPool.new 1 .kiB16 twoPageStore = .ok b := ⟨_, rfl⟩
  obtain ⟨b, hnew⟩ := hnew
  refine ⟨b, hnew, own_run_transparent InMemoryPageStore.keeping hnew _ ?_ _ [] (append_nil _).symm,
    ?_⟩
  · simp [rewritingCalls, PoolCall.Own, GuardAction.Own, rewrittenPage, filledImage,
      PageImage.pageId, blankLayout]
  · cases hnew
    rfl

def fetchedByte (r : PageRun σ n) (p : PageId) : Option UInt8 :=
  match (r.pool.fetch p).1 with
  | .ok answer => answer.2.bind fun image => image.bytes.head?
  | .error _ => none

theorem not_transparent_of_fetchedByte (p : PageId) (image : PageImage) (byte : UInt8)
    (hpages : r.pages p = some image) (hbyte : r.fetchedByte p = some byte)
    (hne : image.bytes.head? ≠ some byte) : ¬ r.Transparent := by
  intro htransparent
  rw [fetchedByte] at hbyte
  cases hfetch : (r.pool.fetch p).1 with
  | error err =>
    rw [hfetch] at hbyte
    cases hbyte
  | ok answer =>
    rw [hfetch] at hbyte
    change (answer.2.bind fun image => image.bytes.head?) = some byte at hbyte
    rw [htransparent p image hpages answer hfetch] at hbyte
    exact hne hbyte

/-- An image of page 2 put through the guard of page 1 is flushed to page 2, which nobody wrote
to: a fetch of page 2 no longer returns its initial image. -/
theorem foreign_image_not_transparent :
    ∃ b : BufferPool InMemoryPageStore 1, BufferPool.new 1 .kiB16 twoPageStore = .ok b ∧
      ∃ r : PageRun InMemoryPageStore 1, r = (start InMemoryPageStore.pages b).calls
          [.fetchPage 1 [.dirtyImageMut 5 (filledImage (blankLayout 2) blankLayout_two_valid 7)] true,
            .flushDirtyFrames (.reporting fun _ => 10)] ∧
        r.pages 2 = some secondPage ∧ r.fetchedByte 2 = some 7 ∧ secondPage.bytes.head? = some 0 ∧
          ¬ r.Transparent := by
  refine ⟨_, rfl, _, rfl, rfl, by decide +kernel, by decide +kernel, ?_⟩
  refine not_transparent_of_fetchedByte 2 secondPage 7 rfl ?_ ?_
  · decide +kernel
  · decide +kernel

/-! ## After a full flush -/

theorem Kept.clean_of_full_flush (hkept : r.Kept contents) {observer : WalDurabilityObserver}
    (hblocked : (flushAllDirtyWithReport observer r.pool).1.blockedByWalDurability = [])
    (herrors : (flushAllDirtyWithReport observer r.pool).1.errors = []) {p : PageId} {l : Line}
    (hline : (r.call (.flushAllDirtyWithReport observer)).pool.line p = some l) :
    l.range = none := by
  obtain ⟨htracked, hdistinct⟩ := hkept.booked.flushCandidates
  obtain ⟨-, -, hothers, hsettled, hids⟩ := hkept.booked.flushLoop (fun _ => false) observer 0
    (fun e he => (htracked e).mp he) hdistinct rfl
  by_cases hcandidate : p ∈ r.pool.dirtyTracker.flushCandidates.map DirtyEntry.pageId
  · rw [← hids fun _ => rfl] at hcandidate
    obtain ⟨turn, hturn, rfl⟩ := mem_map.mp hcandidate
    have hflushed : turn.outcome = .flushed := by
      have hunblocked := filterMap_eq_nil_iff.mp hblocked turn hturn
      have hfine := filterMap_eq_nil_iff.mp herrors turn hturn
      cases houtcome : turn.outcome <;>
        simp_all [CandidateFlush.blocked?, CandidateFlush.flushError?]
    obtain ⟨⟨-, -, -, j, e, k, image, c, c', -, -, hstep, -, -, -, -, hafter⟩, -⟩ :=
      hsettled turn hturn
    rw [← hstep.pageId, if_pos hflushed] at hafter
    cases hline.symm.trans hafter
    rfl
  · cases hrange : l.range with
    | none => rfl
    | some range =>
      have hline' := (hothers p hcandidate).symm.trans hline
      have htrack := hkept.booked.tracked p
      rw [hline', Option.bind_some, Line.entry, hrange] at htrack
      exact absurd (mem_map_of_mem ((htracked ⟨p, range.1, range.2⟩).mpr htrack)) hcandidate

/-- A flush that reports neither blocked pages nor errors leaves nothing for `flush_all_dirty`, and
the store has every page as it was written last. -/
theorem full_flush_persists (hkeep : PageStore.Keeping contents) {pageSize : PageSize} {store : σ}
    {b : BufferPool σ n} (hnew : BufferPool.new n pageSize store = .ok b) {cs : List PoolCall}
    (hown : ∀ c ∈ cs, c.Own) (observer : WalDurabilityObserver)
    (hblocked : (flushAllDirtyWithReport observer
      ((start contents b).calls cs).pool).1.blockedByWalDurability = [])
    (herrors : (flushAllDirtyWithReport observer
      ((start contents b).calls cs).pool).1.errors = []) :
    let flushed := ((start contents b).calls cs).call (.flushAllDirtyWithReport observer)
    flushed.pool.flushAllDirty = .ok () ∧
      ∀ p image, flushed.pages p = some image → contents flushed.pool.store p = some image := by
  have hkept := (kept_start hnew).calls hkeep hown
  generalize (start contents b).calls cs = r at hkept hblocked herrors
  have hafter := hkept.call hkeep (c := .flushAllDirtyWithReport observer) trivial
  constructor
  · rw [flushAllDirty, failIf_eq_ok]
    intro hdirty
    obtain ⟨p, hp⟩ := exists_mem_of_ne_nil _
      (by simpa [DirtyTracker.isEmpty] using hdirty : _ ≠ [])
    obtain ⟨e, he⟩ := Option.isSome_iff_exists.mp (AList.lookup_isSome.mpr (AList.mem_keys.mpr hp))
    obtain ⟨-, -, l, -, hline, hrange⟩ := hafter.booked.line_of_tracked he
    rw [hkept.clean_of_full_flush hblocked herrors hline] at hrange
    cases hrange
  · intro p image hpages
    have hseen := hafter.mirrors.seen p image hpages
    cases hline : (r.call (.flushAllDirtyWithReport observer)).pool.line p with
    | none => rwa [visible_of_none hline] at hseen
    | some l =>
      have hclean := hkept.clean_of_full_flush hblocked herrors hline
      rw [visible_of_line hline] at hseen
      rw [hafter.mirrors.clean p l hline hclean, hseen]

/-- The first page is rewritten and flushed, and the store has the new image. -/
theorem full_flush_persists_firstPage : ∃ b : BufferPool InMemoryPageStore 1,
    BufferPool.new 1 .kiB16 twoPageStore = .ok b ∧
      ∃ flushed : PageRun InMemoryPageStore 1, flushed = ((start InMemoryPageStore.pages b).calls
          [.fetchPage 1 [.dirtyImageMut 5 rewrittenPage] true]).call
            (.flushAllDirtyWithReport (.reporting fun _ => 10)) ∧
        flushed.pool.flushAllDirty = .ok () ∧
          InMemoryPageStore.pages flushed.pool.store 1 = some rewrittenPage := by
  have hnew : ∃ b : BufferPool InMemoryPageStore 1,
      BufferPool.new 1 .kiB16 twoPageStore = .ok b := ⟨_, rfl⟩
  obtain ⟨b, hnew⟩ := hnew
  have hown : ∀ c ∈ [PoolCall.fetchPage 1 [.dirtyImageMut 5 rewrittenPage] true], c.Own := by
    simp [PoolCall.Own, GuardAction.Own, rewrittenPage, filledImage, PageImage.pageId, blankLayout]
  have hpersists :=
    full_flush_persists InMemoryPageStore.keeping hnew hown (.reporting fun _ => 10)
  cases hnew
  obtain ⟨hclean, hstored⟩ := hpersists (by decide +kernel) (by decide +kernel)
  exact ⟨_, rfl, _, rfl, hclean, hstored 1 rewrittenPage rfl⟩

end PageRun

end BufferPool

end Andromeda
