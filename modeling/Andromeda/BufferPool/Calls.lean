import Andromeda.BufferPool.Updates

/-!
# Calls of the pool

The calls a user of the pool can make, with what is done through the guard of each, and the
events of a call read off its own results. `Booked.call` says that every call keeps the
bookkeeping and is a chain of moves with these events.
-/

namespace Andromeda

open Fallible Effect List PoolEvent

namespace BufferPool

variable {σ : Type} [PageStore σ] {n : Nat} {b b' : BufferPool σ n} {k : Fin n} {p q : PageId}

inductive PoolCall where
  /-- `fetch_page_mut`; without actions also `fetch_page`. -/
  | fetchPage (pageId : PageId) (actions : List GuardAction) (dropped : Bool)
  | newPage (layout : PageLayoutContract) (actions : List GuardAction) (dropped : Bool)
  | pinPage (pageId : PageId)
  | newPageFrame (layout : PageLayoutContract)
  | unpinPage (frameId : Nat) (dirtyLsn : Option Lsn)
  | flushDirtyFrames (observer : WalDurabilityObserver)
  | flushAllDirtyWithReport (observer : WalDurabilityObserver)
  | flushAllDirty

def call (b : BufferPool σ n) : PoolCall → BufferPool σ n
  | .fetchPage pageId actions dropped => (useGuard actions dropped (fetch pageId b)).2
  | .newPage layout actions dropped => (useGuard actions dropped (newPage layout b)).2
  | .pinPage pageId => (pinPage pageId b).2
  | .newPageFrame layout => (newPageFrame layout b).2
  | .unpinPage frameId dirtyLsn => (unpinPage frameId dirtyLsn b).2
  | .flushDirtyFrames observer => (flushDirtyFrames observer b).2
  | .flushAllDirtyWithReport observer => (flushAllDirtyWithReport observer b).2
  | .flushAllDirty => b

def calls (b : BufferPool σ n) (cs : List PoolCall) : BufferPool σ n := cs.foldl call b

def turns (b : BufferPool σ n) : PoolCall → List CandidateFlush
  | .flushDirtyFrames observer => (flushDirtyTurns observer b).1
  | .flushAllDirtyWithReport observer => (flushAllTurns observer b).1
  | _ => []

def createdEvents : Except Error (Fin n × Option PageImage) × BufferPool σ n → List PoolEvent
  | (.ok (k, some image), b) => ((b.frames k).core.pageId.map fun p => .created p image).toList
  | _ => []

def usedEvents (actions : List GuardAction) :
    Except Error (Fin n × Option PageImage) × BufferPool σ n → List PoolEvent
  | (.ok (k, _), b) => guardEvents k b actions
  | _ => []

/-- `unpin_page` may dirty its page and still fail. -/
def unpinEvents (frameId : Nat) (dirtyLsn : Option Lsn) (b : BufferPool σ n) : List PoolEvent :=
  if h : frameId ≠ 0 ∧ frameId - 1 < n then
    match dirtyLsn, (b.frames ⟨frameId - 1, h.2⟩).core.pageId,
        (unpinMarkDirty ⟨frameId - 1, h.2⟩ dirtyLsn b).1 with
    | some dirtyLsn, some p, .ok () => [.dirtied p dirtyLsn]
    | _, _, _ => []
  else []

def events (b : BufferPool σ n) : PoolCall → List PoolEvent
  | .fetchPage pageId actions _ => usedEvents actions (fetch pageId b)
  | .newPage layout actions _ =>
    createdEvents (newPage layout b) ++ usedEvents actions (newPage layout b)
  | .pinPage _ => []
  | .newPageFrame layout => createdEvents (newPage layout b)
  | .unpinPage frameId dirtyLsn => unpinEvents frameId dirtyLsn b
  | .flushDirtyFrames observer => (turns b (.flushDirtyFrames observer)).flatMap turnEvents
  | .flushAllDirtyWithReport observer =>
    (turns b (.flushAllDirtyWithReport observer)).flatMap turnEvents
  | .flushAllDirty => []

/-! ## Every call is a chain of moves -/

theorem Booked.pinned (h : b.Booked) {result : Except Error (Option PageImage)}
    (hrun : pinned k b = (result, b')) :
    b.Runs [] b' ∧ b'.pageTable = b.pageTable ∧ b'.line = b.line ∧
      ∀ image, result = .ok image → image = (b'.frames k).image := by
  rcases bind_cases hrun with ⟨err, hpin, rfl⟩ | ⟨_, b₁, hpin, hrest⟩
  · obtain ⟨hruns, htable, hlines⟩ := h.pin hpin
    exact ⟨hruns, htable, hlines, by rintro _ ⟨⟩⟩
  · obtain ⟨hruns, htable, hlines⟩ := h.pin hpin
    cases hrest
    refine ⟨hruns, htable, hlines, ?_⟩
    intro image hok
    cases hok
    rfl

omit [PageStore σ] in
theorem line_image (htable : b.pageTable p = some k) :
    (b.frames k).image = (b.line p).map Line.image := by
  rw [line_eq htable, BufferFrame.line, Option.map_map]
  exact Option.map_id'.symm

variable {result : Except Error (Fin n × Option PageImage)}

theorem Booked.fetch (h : b.Booked) (hrun : fetch p b = (result, b')) :
    b.Runs [] b' ∧ ∀ k image, result = .ok (k, image) →
      b'.pageTable p = some k ∧ image = (b'.line p).map Line.image := by
  rcases bind_cases hrun with ⟨err, hensure, rfl⟩ | ⟨k, b₁, hensure, hrest⟩
  · exact ⟨(h.ensureResident hensure).1, by rintro _ _ ⟨⟩⟩
  obtain ⟨hruns, -, htable⟩ := h.ensureResident hensure
  rcases bind_cases hrest with ⟨err, hpin, rfl⟩ | ⟨image, b₂, hpin, hdone⟩
  · exact ⟨hruns.trans (hruns.booked.pinned hpin).1, by rintro _ _ ⟨⟩⟩
  obtain ⟨hpinned, hsame, -, hread⟩ := hruns.booked.pinned hpin
  cases hdone
  refine ⟨hruns.trans hpinned, ?_⟩
  intro k' image' hok
  cases hok
  have htable' : b'.pageTable p = some k := by rw [hsame, htable k rfl]
  exact ⟨htable', (hread image rfl).trans (line_image htable')⟩

theorem Booked.newPage (h : b.Booked) {layout : PageLayoutContract}
    (hrun : newPage layout b = (result, b')) : b.Runs [] b' ∧ ∀ k found, result = .ok (k, found) →
      ∃ p image, b'.pageTable p = some k ∧ found = some image ∧
        b'.line p = some ⟨image, none⟩ ∧ image.pageId = some p ∧ Allocated σ layout image := by
  rcases bind_cases hrun with ⟨err, halloc, rfl⟩ | ⟨k, b₁, halloc, hrest⟩
  · exact ⟨(h.allocateResidentFrame halloc).1, by rintro _ _ ⟨⟩⟩
  obtain ⟨hruns, -, hresident⟩ := h.allocateResidentFrame halloc
  rcases bind_cases hrest with ⟨err, hpin, rfl⟩ | ⟨found, b₂, hpin, hdone⟩
  · exact ⟨hruns.trans (hruns.booked.pinned hpin).1, by rintro _ _ ⟨⟩⟩
  obtain ⟨hpinned, hsame, hlines, hread⟩ := hruns.booked.pinned hpin
  obtain ⟨p, image, htable, hline, hasked⟩ := hresident k rfl
  cases hdone
  refine ⟨hruns.trans hpinned, ?_⟩
  intro k' found' hok
  cases hok
  have htable' : b'.pageTable p = some k := by rw [hsame, htable]
  have hline' : b'.line p = some ⟨image, none⟩ := by rw [hlines, hline]
  refine ⟨p, image, htable', ?_, hline', hasked⟩
  rw [hread found rfl, line_image htable', hline']
  rfl

theorem Booked.useGuard (h : b.Booked) (htable : b.pageTable p = some k)
    (actions : List GuardAction) (dropped : Bool) (image : Option PageImage) :
    b.Runs (usedEvents actions (.ok (k, image), b))
      (useGuard actions dropped (.ok (k, image), b)).2 := by
  have hactions := h.guardActions htable actions
  have hdropped := hactions.trans (hactions.booked.dropGuard k dropped)
  rwa [append_nil] at hdropped

theorem Booked.createdEvents (h : b.Booked) (htable : b.pageTable p = some k) {image : PageImage}
    (hline : b.line p = some ⟨image, none⟩) :
    createdEvents (.ok (k, some image), b) = [.created p image] ∧ b.Runs [.created p image] b := by
  refine ⟨?_, h, (Move.created p image hline).moves⟩
  rw [BufferPool.createdEvents, (h.table p k htable).core.pageId]
  rfl

theorem newPageFrame_snd (layout : PageLayoutContract) (b : BufferPool σ n) :
    (newPageFrame layout b).2 = (newPage layout b).2 := by
  rw [newPageFrame, newPage, bind_apply, bind_apply]
  rcases allocateResidentFrame layout b with ⟨_ | k, b₁⟩
  · rfl
  · simp only [pinned, bind_apply]
    rcases onCore k BufferFrameCore.pin b₁ with ⟨_ | _, b₂⟩ <;> rfl

theorem Booked.unpinMarkDirty (h : b.Booked) {dirtyLsn : Option Lsn} {result : Except Error Unit}
    (hrun : unpinMarkDirty k dirtyLsn b = (result, b')) :
    (b.Runs [] b' ∧ (dirtyLsn = none ∨ ∃ err, result = .error err)) ∨
      ∃ p lsn, dirtyLsn = some lsn ∧ (b.frames k).core.pageId = some p ∧ result = .ok () ∧
        b.Runs [.dirtied p lsn] b' := by
  cases dirtyLsn with
  | none =>
    cases hrun
    exact .inl ⟨h.runs, .inl rfl⟩
  | some lsn =>
    rcases h.markDirty hrun with ⟨err, rfl, rfl⟩ | ⟨p, rfl, hpage, -, -, hruns, -⟩
    · exact .inl ⟨h.runs, .inr ⟨err, rfl⟩⟩
    · exact .inr ⟨p, lsn, rfl, hpage, rfl, hruns⟩

theorem Booked.unpinPage (h : b.Booked) (frameId : Nat) (dirtyLsn : Option Lsn) :
    b.Runs (unpinEvents frameId dirtyLsn b) (unpinPage frameId dirtyLsn b).2 := by
  by_cases hframe : frameId ≠ 0 ∧ frameId - 1 < n
  · have hrun : (BufferPool.unpinPage frameId dirtyLsn b : Except Error Unit × BufferPool σ n) = (do
          BufferPool.unpinMarkDirty ⟨frameId - 1, hframe.2⟩ dirtyLsn
          onCore ⟨frameId - 1, hframe.2⟩ BufferFrameCore.unpin :
            Effect (BufferPool σ n) Error Unit) b := by
      rw [BufferPool.unpinPage, validateFrameId, failIf_bind hframe.1, dif_pos hframe.2]
    rw [hrun, unpinEvents, dif_pos hframe]
    rcases hmark : BufferPool.unpinMarkDirty ⟨frameId - 1, hframe.2⟩ dirtyLsn b with ⟨result, b₁⟩
    rcases h.unpinMarkDirty hmark with ⟨hruns, hquiet⟩ | ⟨p, lsn, rfl, hpage, rfl, hruns⟩
    · -- no LSN was given, or it was rejected
      have hevents : (match dirtyLsn, (b.frames ⟨frameId - 1, hframe.2⟩).core.pageId, result with
          | some dirtyLsn, some p, .ok () => [dirtied p dirtyLsn]
          | _, _, _ => []) = [] := by
        rcases hquiet with rfl | ⟨err, rfl⟩
        · rfl
        · cases dirtyLsn <;> cases (b.frames ⟨frameId - 1, hframe.2⟩).core.pageId <;> rfl
      rw [hevents]
      cases result with
      | error err =>
        rw [bind_of_error hmark]
        exact hruns
      | ok _ =>
        rw [bind_of_ok hmark]
        exact hruns.trans (hruns.booked.unpin rfl).1
    · rw [bind_of_ok hmark, hpage]
      exact hruns.trans (hruns.booked.unpin rfl).1
  · have hrun : (BufferPool.unpinPage frameId dirtyLsn b).2 = b := by
      rw [BufferPool.unpinPage]
      by_cases hzero : frameId = 0
      · rw [validateFrameId, failIf, if_pos hzero]
        rfl
      · rw [validateFrameId, failIf_bind hzero, dif_neg fun hlt => hframe ⟨hzero, hlt⟩]
        rfl
    rw [hrun, unpinEvents, dif_neg hframe]
    exact h.runs

/-- Every call keeps the bookkeeping and is a chain of moves with the events of the call. -/
theorem Booked.call (h : b.Booked) (c : PoolCall) : b.Runs (events b c) (b.call c) := by
  cases c with
  | fetchPage pageId actions dropped =>
    rcases hrun : BufferPool.fetch pageId b with ⟨_ | ⟨k, image⟩, b₁⟩
    · obtain ⟨hruns, -⟩ := h.fetch hrun
      simp only [events, BufferPool.call, hrun]
      exact hruns
    · obtain ⟨hruns, hok⟩ := h.fetch hrun
      have hused := hruns.booked.useGuard (hok k image rfl).1 actions dropped image
      simp only [events, BufferPool.call, hrun]
      exact hruns.trans hused
  | newPage layout actions dropped =>
    rcases hrun : BufferPool.newPage layout b with ⟨_ | ⟨k, found⟩, b₁⟩
    · obtain ⟨hruns, -⟩ := h.newPage hrun
      simp only [events, BufferPool.call, hrun]
      exact hruns
    · obtain ⟨hruns, hok⟩ := h.newPage hrun
      obtain ⟨p, image, htable, rfl, hline, -⟩ := hok k found rfl
      obtain ⟨hevents, hcreated⟩ := hruns.booked.createdEvents htable hline
      have hused := hruns.booked.useGuard htable actions dropped (some image)
      simp only [events, BufferPool.call, hrun, hevents]
      exact hruns.trans (hcreated.trans hused)
  | pinPage pageId =>
    rcases hrun : BufferPool.pinPage pageId b with ⟨result, b₁⟩
    simp only [events, BufferPool.call, hrun]
    rcases bind_cases hrun with ⟨err, hensure, -⟩ | ⟨k, b₂, hensure, hrest⟩
    · exact (h.ensureResident hensure).1
    · obtain ⟨hruns, -⟩ := h.ensureResident hensure
      rcases bind_cases hrest with ⟨err, hpin, -⟩ | ⟨_, b₃, hpin, hdone⟩
      · exact hruns.trans (hruns.booked.pin hpin).1
      · cases hdone
        exact hruns.trans (hruns.booked.pin hpin).1
  | newPageFrame layout =>
    rw [BufferPool.call, newPageFrame_snd]
    rcases hrun : BufferPool.newPage layout b with ⟨_ | ⟨k, found⟩, b₁⟩
    · obtain ⟨hruns, -⟩ := h.newPage hrun
      simp only [events, hrun]
      exact hruns
    · obtain ⟨hruns, hok⟩ := h.newPage hrun
      obtain ⟨p, image, htable, rfl, hline, -⟩ := hok k found rfl
      obtain ⟨hevents, hcreated⟩ := hruns.booked.createdEvents htable hline
      simp only [events, hrun, hevents]
      exact hruns.trans hcreated
  | unpinPage frameId dirtyLsn => exact h.unpinPage frameId dirtyLsn
  | flushDirtyFrames observer | flushAllDirtyWithReport observer =>
    obtain ⟨htracked, hdistinct⟩ := h.flushCandidates
    exact (h.flushLoop _ observer 0 (fun e he => (htracked e).mp he) hdistinct rfl).1.1
  | flushAllDirty => exact h.runs

/-! ## The start -/

theorem new_eq_ok {pageSize : PageSize} {store : σ} (h : new n pageSize store = .ok b) :
    b.Booked ∧ b.store = store ∧ ∀ p, b.line p = none := by
  simp only [new, ok_iff] at h
  obtain ⟨-, -, rfl⟩ := h
  refine ⟨⟨fun k => .inl ⟨rfl, Nat.succ_ne_zero k.val, rfl⟩, ?_, fun p => rfl⟩, rfl, fun p => rfl⟩
  intro p k htable
  cases htable

theorem Booked.turns_gated (h : b.Booked) {c : PoolCall} {turn : CandidateFlush}
    (hturn : turn ∈ turns b c) :
    ∃ observer, (c = .flushDirtyFrames observer ∨ c = .flushAllDirtyWithReport observer) ∧
      Gated observer b turn := by
  obtain ⟨htracked, hdistinct⟩ := h.flushCandidates
  have hloop := fun stops observer =>
    h.flushLoop stops observer 0 (fun e he => (htracked e).mp he) hdistinct rfl
  cases c with
  | flushDirtyFrames observer =>
    exact ⟨observer, .inl rfl, ((hloop _ observer).2.2.2.1 turn hturn).1.gated⟩
  | flushAllDirtyWithReport observer =>
    exact ⟨observer, .inr rfl, ((hloop _ observer).2.2.2.1 turn hturn).1.gated⟩
  | _ => cases hturn

/-! ## Images assigned by a call -/

/-- The image put through the guard is of the guard's page. -/
def GuardAction.Own (p : PageId) : GuardAction → Prop
  | .markDirty _ => True
  | .dirtyImageMut _ image => image.pageId = some p

/-- Every image put through a guard is of the page the guard was asked for. -/
def PoolCall.Own : PoolCall → Prop
  | .fetchPage pageId actions _ => ∀ action ∈ actions, action.Own pageId
  | .newPage layout actions _ => ∀ action ∈ actions, action.Own layout.header.pageId
  | _ => True

def AllocatesAsked (σ : Type) [PageStore σ] : Prop :=
  ∀ layout image, Allocated σ layout image → image.pageId = some layout.header.pageId

theorem allocatesAsked_of_keeping {contents : σ → PageId → Option PageImage}
    (h : PageStore.Keeping contents) : AllocatesAsked σ := by
  rintro layout image ⟨s, s', hcall⟩
  exact (h.allocate hcall).1

section Assigned

variable {image : PageImage}

omit [PageStore σ] in
theorem mem_actionEvents_assigned {action : GuardAction} (hpage : (b.frames k).core.pageId = some p)
    (hmem : assigned q image ∈ actionEvents k b action) :
    q = p ∧ ∃ dirtyLsn, action = .dirtyImageMut dirtyLsn image := by
  cases hresult : (guardAction k action b).1 with
  | error err => simp [actionEvents, hresult] at hmem
  | ok _ =>
    cases action with
    | markDirty dirtyLsn => simp [actionEvents, hpage, hresult] at hmem
    | dirtyImageMut dirtyLsn put =>
      simp only [actionEvents, hpage, hresult, mem_cons, reduceCtorEq, assigned.injEq,
        not_mem_nil, or_false, false_or] at hmem
      obtain ⟨rfl, rfl⟩ := hmem
      exact ⟨rfl, dirtyLsn, rfl⟩

variable {actions : List GuardAction}

theorem mem_guardEvents_assigned (h : b.Booked) (htable : b.pageTable p = some k)
    (hmem : assigned q image ∈ guardEvents k b actions) :
    q = p ∧ ∃ dirtyLsn, .dirtyImageMut dirtyLsn image ∈ actions := by
  induction actions generalizing b with
  | nil => cases hmem
  | cons action actions ih =>
    rcases mem_append.mp hmem with hmem | hmem
    · obtain ⟨hq, dirtyLsn, rfl⟩ :=
        mem_actionEvents_assigned (h.table p k htable).core.pageId hmem
      exact ⟨hq, dirtyLsn, mem_cons_self⟩
    · obtain ⟨hruns, hsame⟩ := h.guardAction htable action
      have htable' : (guardAction k action b).2.pageTable p = some k := by
        rw [hsame, htable]
      obtain ⟨hq, dirtyLsn, hin⟩ := ih hruns.booked htable' hmem
      exact ⟨hq, dirtyLsn, mem_cons_of_mem action hin⟩

theorem own_of_mem_guardEvents (h : b.Booked) (htable : b.pageTable p = some k)
    (hown : ∀ action ∈ actions, action.Own p)
    (hmem : assigned q image ∈ guardEvents k b actions) : image.pageId = some q := by
  obtain ⟨rfl, dirtyLsn, hin⟩ := mem_guardEvents_assigned h htable hmem
  exact hown _ hin

theorem not_mem_turnEvents_assigned {turns : List CandidateFlush} :
    assigned q image ∉ turns.flatMap turnEvents := by
  intro hmem
  obtain ⟨turn, -, hturn⟩ := mem_flatMap.mp hmem
  rw [turnEvents] at hturn
  split at hturn <;> simp at hturn

omit [PageStore σ] in
theorem not_mem_createdEvents_assigned
    {answer : Except Error (Fin n × Option PageImage) × BufferPool σ n} :
    assigned q image ∉ createdEvents answer := by
  rcases answer with ⟨_ | ⟨k, _ | found⟩, b⟩ <;> simp [createdEvents]

theorem own_of_mem_events (h : b.Booked) (hstore : AllocatesAsked σ) {c : PoolCall}
    (hown : c.Own) (hmem : assigned q image ∈ b.events c) : image.pageId = some q := by
  cases c with
  | fetchPage pageId actions dropped =>
    rcases hrun : BufferPool.fetch pageId b with ⟨_ | ⟨k, found⟩, b₁⟩
    · simp [events, hrun, usedEvents] at hmem
    · obtain ⟨hruns, hok⟩ := h.fetch hrun
      simp only [events, hrun, usedEvents] at hmem
      exact own_of_mem_guardEvents hruns.booked (hok k found rfl).1 hown hmem
  | newPage layout actions dropped =>
    rcases mem_append.mp hmem with hmem | hmem
    · exact absurd hmem not_mem_createdEvents_assigned
    rcases hrun : BufferPool.newPage layout b with ⟨_ | ⟨k, found⟩, b₁⟩
    · simp [hrun, usedEvents] at hmem
    · obtain ⟨hruns, hok⟩ := h.newPage hrun
      obtain ⟨p, created, htable, -, -, hid, hasked⟩ := hok k found rfl
      have hp := hstore layout created hasked
      rw [hid, Option.some.injEq] at hp
      subst hp
      simp only [hrun, usedEvents] at hmem
      exact own_of_mem_guardEvents hruns.booked htable hown hmem
  | pinPage pageId => cases hmem
  | newPageFrame layout => exact absurd hmem not_mem_createdEvents_assigned
  | unpinPage frameId dirtyLsn =>
    simp only [events, unpinEvents] at hmem
    split at hmem
    · split at hmem <;> simp at hmem
    · cases hmem
  | flushDirtyFrames observer
  | flushAllDirtyWithReport observer => exact absurd hmem not_mem_turnEvents_assigned
  | flushAllDirty => cases hmem

end Assigned

end BufferPool

end Andromeda
