import Andromeda.BufferPool.Moves

/-!
# Updates of resident pages

What is done through a guard, and what a flush does in each turn, as moves of the pool.
-/

namespace Andromeda

open Fallible BufferFrameCore Effect Function

/-! ## One more dirty LSN -/

variable {dirtyLsn : Lsn} {p : PageId}

/-- The frame and the tracker extend a range in the same way. -/
theorem Line.entry_dirtied {l : Line} (h : ∀ r, l.range = some r → r.1 ≤ r.2 ∧ r.2 ≤ dirtyLsn) :
    (l.dirtied dirtyLsn).entry p = some (DirtyTracker.touched p dirtyLsn (l.entry p)) := by
  cases hrange : l.range with
  | none => simp [dirtied, entry, hrange, DirtyTracker.touched]
  | some r =>
    obtain ⟨hordered, hlast⟩ := h r hrange
    have hfirst : ¬ dirtyLsn < r.1 := UInt64.not_lt.mpr (UInt64.le_trans hordered hlast)
    have hmax : (if r.2 < dirtyLsn then dirtyLsn else r.2) = dirtyLsn := by
      by_cases hlt : r.2 < dirtyLsn
      · rw [if_pos hlt]
      · rw [if_neg hlt]
        exact UInt64.le_antisymm hlast (UInt64.not_lt.mp hlt)
    simp [dirtied, entry, hrange, DirtyTracker.touched, hfirst, hmax]

theorem BufferFrame.Tidy.markDirty {f : BufferFrame} (h : f.Tidy p) {core : BufferFrameCore}
    (hrun : markDirty dirtyLsn f.core = (.ok (), core)) :
    dirtyLsn ≠ 0 ∧ BufferFrame.Tidy { f with core := core } p ∧
      ∃ l, f.line = some l ∧ (∀ r, l.range = some r → r.1 ≤ r.2 ∧ r.2 ≤ dirtyLsn) ∧
        BufferFrame.line { f with core := core } = some (l.dirtied dirtyLsn) := by
  rcases markDirty_cases hrun with
    ⟨_, herr, -⟩ | ⟨lsn, -, hlsn, hne, hfloor, hlast, -, rfl⟩
  · cases herr
  obtain ⟨image, himage⟩ := Option.ne_none_iff_exists'.mp h.image
  have hline : f.line = some ⟨image, f.core.range⟩ := by
    rw [line, himage]
    rfl
  refine ⟨hne, ⟨h.core.dirtied hlsn hfloor hlast, h.image⟩, _, hline, ?_, ?_⟩
  · intro r hr
    rcases h.core.range_cases with ⟨-, hnone⟩ | ⟨first, last, hdirty, -, hle, hsome⟩
    · rw [hnone] at hr
      cases hr
    · rw [hsome, Option.some.injEq] at hr
      rw [← hr]
      exact ⟨hle, hlast last hdirty.2.2⟩
  · rcases h.core.range_cases with ⟨hclean, -⟩ | ⟨first, last, hdirty, -, -, -⟩
    · simp [line, himage, Line.dirtied, range, hclean.2.2]
    · simp [line, himage, Line.dirtied, range, hdirty.2.1, hdirty.2.2]

namespace BufferPool

variable {σ : Type} [PageStore σ] {n : Nat} {b b' : BufferPool σ n} {k : Fin n} {p q : PageId}
  {result : Except Error Unit} {l : Line} {e : DirtyFlushCandidate}
  {observer : WalDurabilityObserver} {turns : List CandidateFlush}

theorem Booked.markDirty (h : b.Booked) {noPage : Result Unit}
    (hrun : markDirty k dirtyLsn noPage b = (result, b')) : (∃ err, result = .error err ∧ b' = b) ∨
      ∃ p, result = .ok () ∧ (b.frames k).core.pageId = some p ∧ b.pageTable p = some k ∧
        b'.pageTable = b.pageTable ∧ b.Runs [.dirtied p dirtyLsn] b' ∧
        ∃ l, b'.line p = some l ∧ l.range ≠ none := by
  rw [BufferPool.markDirty] at hrun
  rcases bind_cases hrun with ⟨err, hmark, hresult⟩ | ⟨_, b₁, hmark, hrest⟩
  · obtain ⟨core, hcore, rfl⟩ := onCore_eq_iff.mp hmark
    rcases markDirty_cases hcore with ⟨_, -, rfl⟩ | ⟨_, -, -, -, -, -, hok, -⟩
    · exact .inl ⟨err, hresult, setFrame_self b k⟩
    · cases hok
  obtain ⟨core, hcore, rfl⟩ := onCore_eq_iff.mp hmark
  rcases h.frames k with hfree | ⟨p, htidy, htable⟩
  · -- a free frame is refused
    rcases markDirty_cases hcore with ⟨_, herr, -⟩ | ⟨_, hstate, -⟩
    · cases herr
    · rw [hfree.core] at hstate
      cases hstate
  obtain ⟨hne, htidy', l, hline, hrange, hline'⟩ := htidy.markDirty hcore
  rw [← line_eq htable] at hline
  have htracker : DirtyTracker.markDirty b.dirtyTracker p dirtyLsn =
      .ok ⟨b.dirtyTracker.dirtyPages.insert p
        (DirtyTracker.touched p dirtyLsn (b.dirtyTracker.dirtyPages.lookup p))⟩ := by
    simp [DirtyTracker.markDirty, validatePageIdValue, validateDirtyLsn, failIf,
      htidy.core.pageId_ne, hne]
  have hself : (b.setFrame k { b.frames k with core := core }).frames k =
      { b.frames k with core := core } := update_self _ _ _
  rw [get_bind, hself, htidy'.core.pageId] at hrest
  have hdone := hrest.symm.trans (onTracker_of_ok htracker)
  have hentry : (b.dirtyTracker.dirtyPages.insert p
      (DirtyTracker.touched p dirtyLsn (b.dirtyTracker.dirtyPages.lookup p))).lookup p =
        (BufferFrame.line { b.frames k with core := core }).bind fun l => l.entry p := by
    rw [AList.lookup_insert, h.tracked p, hline, hline']
    exact (Line.entry_dirtied hrange).symm
  have hother : ∀ q, q ≠ p → (b.dirtyTracker.dirtyPages.insert p
      (DirtyTracker.touched p dirtyLsn (b.dirtyTracker.dirtyPages.lookup p))).lookup q =
        b.dirtyTracker.dirtyPages.lookup q := fun q hq => AList.lookup_insert_ne hq
  obtain ⟨hbooked, hlines⟩ := Booked.replace h htable htidy' hother hentry
  cases hdone
  rw [hline'] at hlines
  refine .inr ⟨p, rfl, htidy.core.pageId, htable, rfl, ⟨hbooked, ?_⟩, l.dirtied dirtyLsn, ?_, ?_⟩
  · exact (Move.dirtied p dirtyLsn l hline (fun r hr => (hrange r hr).2) hlines rfl).moves
  · exact (congrFun hlines p).trans (update_self _ _ _)
  · simp [Line.dirtied]

/-- The events of one use of a guard: none if it was rejected. -/
def actionEvents (k : Fin n) (b : BufferPool σ n) (action : GuardAction) : List PoolEvent :=
  match (guardAction k action b).1, (b.frames k).core.pageId, action with
  | .ok (), some p, .markDirty dirtyLsn => [.dirtied p dirtyLsn]
  | .ok (), some p, .dirtyImageMut dirtyLsn image => [.dirtied p dirtyLsn, .assigned p image]
  | _, _, _ => []

def guardEvents (k : Fin n) : BufferPool σ n → List GuardAction → List PoolEvent
  | _, [] => []
  | b, action :: actions =>
    actionEvents k b action ++ guardEvents k (guardAction k action b).2 actions

theorem Booked.assign (h : b.Booked) (htable : b.pageTable p = some k) (hline : b.line p = some l)
    (hdirty : l.range ≠ none) (image : PageImage)
    (hrun : onFrame k (Effect.modify fun f => { f with image := f.image.map fun _ => image }) b =
      (result, b')) :
    result = .ok () ∧ b'.pageTable = b.pageTable ∧ b.Runs [.assigned p image] b' := by
  obtain ⟨f, hop, rfl⟩ := onFrame_eq_iff.mp hrun
  cases hop
  have htidy := h.table p k htable
  obtain ⟨old, hold⟩ := Option.ne_none_iff_exists'.mp htidy.image
  have hl : l = ⟨old, (b.frames k).core.range⟩ := by
    rw [line_eq htable, BufferFrame.line, hold, Option.map_some, Option.some.injEq] at hline
    exact hline.symm
  have htidy' : BufferFrame.Tidy
      { b.frames k with image := (b.frames k).image.map fun _ => image } p :=
    ⟨htidy.core, by simp [hold]⟩
  have hline' : BufferFrame.line
      { b.frames k with image := (b.frames k).image.map fun _ => image } =
        some { l with image := image } := by
    simp [BufferFrame.line, hold, hl]
  have hentry : b.dirtyTracker.dirtyPages.lookup p = (BufferFrame.line
      { b.frames k with image := (b.frames k).image.map fun _ => image }).bind
        fun l => l.entry p := by
    rw [h.tracked p, hline, hline']
    rfl
  obtain ⟨hbooked, hlines⟩ := Booked.replace h htable htidy' (fun _ _ => rfl) hentry
  rw [hline'] at hlines
  exact ⟨rfl, rfl, hbooked, (Move.assigned p image l hline hdirty hlines rfl).moves⟩

theorem Booked.guardAction (h : b.Booked) (htable : b.pageTable p = some k) (action : GuardAction) :
    b.Runs (actionEvents k b action) (guardAction k action b).2 ∧
      (guardAction k action b).2.pageTable = b.pageTable := by
  have hpage : (b.frames k).core.pageId = some p := (h.table p k htable).core.pageId
  cases action with
  | markDirty dirtyLsn =>
    rcases hrun : BufferPool.guardAction k (.markDirty dirtyLsn) b with ⟨result, b'⟩
    rcases h.markDirty hrun with ⟨err, rfl, rfl⟩ | ⟨p', rfl, hp', -, hsame, hruns, -⟩
    · simp only [actionEvents, hrun]
      exact ⟨h.runs, trivial⟩
    · rw [hpage, Option.some.injEq] at hp'
      subst hp'
      simp only [actionEvents, hrun, hpage]
      exact ⟨hruns, hsame⟩
  | dirtyImageMut dirtyLsn image =>
    rcases hmark : guardMarkDirty k dirtyLsn b with ⟨result, b₁⟩
    rcases h.markDirty hmark with
      ⟨err, rfl, rfl⟩ | ⟨p', rfl, hp', -, hsame, hruns, l, hline, hdirty⟩
    · have hrun : BufferPool.guardAction k (.dirtyImageMut dirtyLsn image) b₁ =
          (.error err, b₁) := bind_of_error hmark
      simp only [actionEvents, hrun]
      exact ⟨h.runs, trivial⟩
    · rw [hpage, Option.some.injEq] at hp'
      subst hp'
      rcases hput : onFrame k (Effect.modify fun f =>
        { f with image := f.image.map fun _ => image }) b₁ with ⟨result, b₂⟩
      have htable₁ : b₁.pageTable p = some k := by rw [hsame, htable]
      obtain ⟨rfl, hsame', hassigned⟩ := hruns.booked.assign htable₁ hline hdirty image hput
      have hrun : BufferPool.guardAction k (.dirtyImageMut dirtyLsn image) b = (.ok (), b₂) :=
        (bind_of_ok hmark).trans hput
      simp only [actionEvents, hrun, hpage]
      exact ⟨hruns.trans hassigned, hsame'.trans hsame⟩

theorem Booked.guardActions (h : b.Booked) (htable : b.pageTable p = some k)
    (actions : List GuardAction) : b.Runs (guardEvents k b actions) (guardActions k b actions) := by
  induction actions generalizing b with
  | nil => exact h.runs
  | cons action actions ih =>
    obtain ⟨hruns, hsame⟩ := h.guardAction htable action
    have htable' : (BufferPool.guardAction k action b).2.pageTable p = some k := by
      rw [hsame, htable]
    exact hruns.trans (ih hruns.booked htable')

theorem Booked.dropGuard (h : b.Booked) (k : Fin n) (dropped : Bool) :
    b.Runs [] (dropGuard k dropped b) := by
  rw [BufferPool.dropGuard]
  split
  · exact (h.unpin rfl).1
  · exact h.runs

def turnEvents (turn : CandidateFlush) : List PoolEvent :=
  if turn.outcome = .flushed then [.cleaned turn.pageId] else []

def flushing (b : BufferPool σ n) (k : Fin n) : BufferPool σ n :=
  b.setFrame k { b.frames k with core := (b.frames k).core.inState .flushing }

inductive FlushTurn (observer : WalDurabilityObserver) (i : Nat) (e : DirtyFlushCandidate)
    (k : Fin n) (image : PageImage) (b : BufferPool σ n) : CandidateFlush → BufferPool σ n → Prop
  | blocked {frame : FlushBlockedFrame}
      (hgate : classifyFlushCandidate e observer i = .blocked frame) :
      FlushTurn observer i e k image b ⟨e.pageId, .blocked frame, none⟩ b
  | pinned (hgate : classifyFlushCandidate e observer i = .ready)
      (hpins : (b.frames k).core.pinCount ≠ 0) :
      FlushTurn observer i e k image b
        ⟨e.pageId, .framePinned (b.frames k).core.pinCount, none⟩ b
  | failed {err : Error} {s : σ} (hgate : classifyFlushCandidate e observer i = .ready)
      (hpins : (b.frames k).core.pinCount = 0)
      (hcall : PageStore.writePage image (observer.maxDurableLsn (i + 2)) b.store =
        (.error err, s)) :
      FlushTurn observer i e k image b
        ⟨e.pageId, .writeFailed err, some ⟨image, observer.maxDurableLsn (i + 2)⟩⟩
        { b with store := s }
  | flushed {s : σ} (hgate : classifyFlushCandidate e observer i = .ready)
      (hpins : (b.frames k).core.pinCount = 0)
      (hcall : PageStore.writePage image (observer.maxDurableLsn (i + 2)) b.store = (.ok (), s)) :
      FlushTurn observer i e k image b
        ⟨e.pageId, .flushed, some ⟨image, observer.maxDurableLsn (i + 2)⟩⟩
        { b.cleaned k e.pageId with store := s }

section Turn

variable {i : Nat} {image : PageImage} {turn : CandidateFlush} (h : b.Booked)
  (htable : b.pageTable e.pageId = some k)
  (hline : b.line e.pageId = some ⟨image, some (e.firstDirtyLsn, e.lastDirtyLsn)⟩)

include h htable hline

omit [PageStore σ] in
theorem Booked.dirtyOver : (b.frames k).core.DirtyOver e.firstDirtyLsn e.lastDirtyLsn ∧
    e.firstDirtyLsn ≤ e.lastDirtyLsn := by
  rw [line_eq htable, BufferFrame.line, Option.map_eq_some_iff] at hline
  obtain ⟨image, -, hframe⟩ := hline
  obtain ⟨-, hrange⟩ := (Line.mk.injEq ..).mp hframe
  rcases (h.table e.pageId k htable).core.range_cases with
    ⟨-, hnone⟩ | ⟨first, last, hover, -, hle, hsome⟩
  · rw [hnone] at hrange
    cases hrange
  · rw [hsome, Option.some.injEq, Prod.mk.injEq] at hrange
    obtain ⟨rfl, rfl⟩ := hrange
    exact ⟨hover, hle⟩

theorem Booked.writeBack (hpins : (b.frames k).core.pinCount = 0)
    (hgate : classifyFlushCandidate e observer i = .ready) : FlushTurn observer i e k image b
      ⟨e.pageId, (writeBack k e image (observer.maxDurableLsn (i + 2)) (b.flushing k)).1,
        some ⟨image, observer.maxDurableLsn (i + 2)⟩⟩
      (writeBack k e image (observer.maxDurableLsn (i + 2)) (b.flushing k)).2 := by
  have htidy := h.table e.pageId k htable
  obtain ⟨hdirty, hle⟩ := h.dirtyOver htable hline
  rcases hcall : PageStore.writePage image (observer.maxDurableLsn (i + 2)) b.store with ⟨_ | _, s⟩
  · -- the store refuses and `abort_flush` undoes `begin_flush`
    rename_i err
    have habort : onCore k abortFlush { b.flushing k with store := s } =
        (.ok (), { b with store := s }) := by
      refine onCore_eq_iff.mpr ⟨(b.frames k).core, ?_, ?_⟩
      · simpa [flushing, setFrame] using htidy.core.abortFlush hdirty.1 hpins
      · simp [flushing, setFrame]
    have hstore : onStore (PageStore.writePage image (observer.maxDurableLsn (i + 2)))
        (b.flushing k) = (.error err, { b.flushing k with store := s }) :=
      onStore_eq_iff.mpr ⟨s, hcall, rfl⟩
    simp only [BufferPool.writeBack, hstore, habort]
    exact .failed hgate hpins hcall
  · have hstore : onStore (PageStore.writePage image (observer.maxDurableLsn (i + 2)))
        (b.flushing k) = (.ok (), { b.flushing k with store := s }) :=
      onStore_eq_iff.mpr ⟨s, hcall, rfl⟩
    have hfinish : onCore k (finishFlush e.lastDirtyLsn)
        { b.flushing k with store := s } =
          (.ok (), { b.setFrame k { b.frames k with core := (b.frames k).core.cleaned } with
            store := s }) := by
      refine onCore_eq_iff.mpr ⟨(b.frames k).core.cleaned, ?_, ?_⟩
      · simpa [flushing, setFrame] using htidy.core.finishFlush hdirty hle
      · simp [flushing, setFrame]
    have hclean : onTracker (fun tracker => tracker.markClean e.pageId)
        { b.setFrame k { b.frames k with core := (b.frames k).core.cleaned } with store := s } =
          (.ok (), { b.cleaned k e.pageId with store := s }) :=
      onTracker_of_ok (markClean_of_ne htidy.core.pageId_ne)
    simp only [BufferPool.writeBack, hstore, hfinish, hclean]
    exact .flushed hgate hpins hcall

theorem Booked.flushTurn (hturn : FlushTurn observer i e k image b turn b') :
    b.Runs (turnEvents turn) b' ∧ b'.line = update b.line e.pageId
      (if turn.outcome = .flushed then some ⟨image, none⟩ else b.line e.pageId) := by
  cases hturn with
  | blocked | pinned => exact ⟨h.runs, (update_eq_self _ _).symm⟩
  | @failed err s hgate hpins hcall =>
    have hmove : Move b none { b with store := s } := .writeFailed image _ _ hcall rfl
    exact ⟨⟨h.setStore s, hmove.moves⟩, (update_eq_self _ _).symm⟩
  | @flushed s hgate hpins hcall =>
    obtain ⟨hbooked, hlines⟩ := h.clean htable hline
    have hmove : Move b (some (.cleaned e.pageId)) { b.cleaned k e.pageId with store := s } :=
      .written e.pageId _ _ hline hcall hlines
    exact ⟨⟨hbooked.setStore s, hmove.moves⟩, hlines⟩

end Turn

theorem Booked.flushCandidate (h : b.Booked) (observer : WalDurabilityObserver) (i : Nat)
    (htracked : b.dirtyTracker.dirtyPages.lookup e.pageId = some e) :
    ∃ k image, b.pageTable e.pageId = some k ∧
      b.line e.pageId = some ⟨image, some (e.firstDirtyLsn, e.lastDirtyLsn)⟩ ∧
      FlushTurn observer i e k image b (flushCandidate observer i e b).1
        (flushCandidate observer i e b).2.2 := by
  obtain ⟨-, k, ⟨image, range⟩, htable, hline, rfl⟩ := h.line_of_tracked htracked
  have htidy := h.table e.pageId k htable
  have himage : (b.frames k).image = some image := by
    rw [line_eq htable, BufferFrame.line, Option.map_eq_some_iff] at hline
    obtain ⟨found, hfound, hframe⟩ := hline
    rw [hfound, ((Line.mk.injEq ..).mp hframe).1]
  refine ⟨k, image, htable, hline, ?_⟩
  rw [BufferPool.flushCandidate]
  cases hgate : classifyFlushCandidate e observer i with
  | blocked frame => exact .blocked hgate
  | ready =>
    simp only [flushReady, htable, himage]
    by_cases hpins : (b.frames k).core.pinCount = 0
    · have hbegin : onCore k beginFlush b = (.ok (), b.flushing k) :=
        onCore_eq_iff.mpr ⟨_, htidy.core.beginFlush (h.dirtyOver htable hline).1.1 hpins, rfl⟩
      rw [if_neg (by simp [hpins]), hbegin]
      exact h.writeBack htable hline hpins hgate
    · rw [if_pos hpins]
      exact .pinned hgate hpins

def CandidateFlush.readings (turn : CandidateFlush) : Nat :=
  if turn.blocked?.isSome then 2 else 3

/-- Turns one after the other, each at the pool and the reading the one before it led to. -/
inductive FlushPass (observer : WalDurabilityObserver) :
    Nat → BufferPool σ n → List CandidateFlush → BufferPool σ n → Prop
  | nil {i : Nat} {b : BufferPool σ n} : FlushPass observer i b [] b
  | cons {i : Nat} {e : DirtyFlushCandidate} {k : Fin n} {image : PageImage}
      {b c b' : BufferPool σ n} {turn : CandidateFlush} {turns : List CandidateFlush}
      (first : FlushTurn observer i e k image b turn c)
      (rest : FlushPass observer (i + turn.readings) c turns b') :
      FlushPass observer i b (turn :: turns) b'

/-- What a pass from `b` to `b'` made of one page: its turn at the pool and the reading that the
turns before it lead to, the turns behind it from there on, and the page's line afterwards. -/
def Settled (observer : WalDurabilityObserver) (i : Nat) (b b' : BufferPool σ n)
    (turns : List CandidateFlush) (turn : CandidateFlush) : Prop :=
  ∃ before after, turns = before ++ turn :: after ∧ ∃ j e k image, ∃ c c' : BufferPool σ n,
    j = i + (before.map CandidateFlush.readings).sum ∧ FlushPass observer i b before c ∧
    FlushTurn observer j e k image c turn c' ∧ FlushPass observer (j + turn.readings) c' after b' ∧
    b.pageTable e.pageId = some k ∧ (c.frames k).core.pinCount = (b.frames k).core.pinCount ∧
    b.line e.pageId = some ⟨image, some (e.firstDirtyLsn, e.lastDirtyLsn)⟩ ∧
    b'.line e.pageId = if turn.outcome = .flushed then some ⟨image, none⟩ else b.line e.pageId

/-- What a write of one turn is: the image on the page's line, past a gate that saw the last
dirty LSN durable, with the LSN the observer reported after the gate. -/
def Gated (observer : WalDurabilityObserver) (b : BufferPool σ n) (turn : CandidateFlush) : Prop :=
  ∀ w, turn.wrote = some w → ∃ l r i, b.line turn.pageId = some l ∧ l.range = some r ∧
    w.image = l.image ∧ w.durableLsn = observer.maxDurableLsn (i + 2) ∧
    r.2 ≤ observer.maxDurableLsn i

variable {i : Nat}

theorem classifyFlushCandidate_ready (h : classifyFlushCandidate e observer i = .ready) :
    e.lastDirtyLsn ≤ observer.maxDurableLsn i := by
  rw [classifyFlushCandidate] at h
  split at h
  · rename_i hgate
    exact hgate.2
  · cases h

variable {turn : CandidateFlush}

theorem Settled.gated (h : Settled observer i b b' turns turn) : Gated observer b turn := by
  intro w hw
  obtain ⟨-, -, -, j, e, k, image, c, c', -, -, hturn, -, -, -, hline, -⟩ := h
  cases hturn with
  | blocked | pinned => cases hw
  | failed hgate | flushed hgate =>
    cases hw
    exact ⟨_, _, j, hline, rfl, rfl, rfl, classifyFlushCandidate_ready hgate⟩

variable {image : PageImage}

theorem FlushTurn.pageId (h : FlushTurn observer i e k image b turn b') :
    turn.pageId = e.pageId := by
  cases h <;> rfl

theorem FlushTurn.frames (h : FlushTurn observer i e k image b turn b') :
    b'.pageTable = b.pageTable ∧
      ∀ j, (b'.frames j).core.pinCount = (b.frames j).core.pinCount := by
  cases h with
  | blocked | pinned | failed => exact ⟨rfl, fun _ => rfl⟩
  | flushed =>
    refine ⟨rfl, fun j => ?_⟩
    by_cases hj : j = k
    · subst hj
      simp [BufferPool.cleaned, setFrame, BufferFrameCore.cleaned]
    · simp [BufferPool.cleaned, setFrame, update_of_ne hj]

theorem FlushTurn.readings {i j : Nat} (h : FlushTurn observer i e k image b turn b')
    (hcall : BufferPool.flushCandidate observer i e b = (turn, j, b')) :
    j = i + turn.readings := by
  rw [BufferPool.flushCandidate] at hcall
  cases h with
  | blocked hgate | pinned hgate | failed hgate | flushed hgate =>
    rw [hgate] at hcall
    exact (Prod.mk.inj (Prod.mk.inj hcall).2).1.symm

/-- The loop: every page is still as it was when the loop reaches it, and stays as its turn left
it. -/
theorem Booked.flushLoop (h : b.Booked) (stops : FlushOutcome → Bool)
    (observer : WalDurabilityObserver) {candidates : List DirtyFlushCandidate} (i : Nat)
    (htracked : ∀ e ∈ candidates, b.dirtyTracker.dirtyPages.lookup e.pageId = some e)
    (hdistinct : (candidates.map DirtyEntry.pageId).Nodup)
    (hrun : flushLoop stops observer candidates i b = (turns, b')) :
    (b.Runs (turns.flatMap turnEvents) b' ∧ FlushPass observer i b turns b') ∧
      b'.pageTable = b.pageTable ∧
      (∀ q ∉ candidates.map DirtyEntry.pageId, b'.line q = b.line q) ∧
      (∀ turn ∈ turns, Settled observer i b b' turns turn ∧
        turn.pageId ∈ candidates.map DirtyEntry.pageId) ∧ ((∀ outcome, stops outcome = false) →
        turns.map CandidateFlush.pageId = candidates.map DirtyEntry.pageId) := by
  induction candidates generalizing b i turns with
  | nil =>
    cases hrun
    exact ⟨⟨h.runs, .nil⟩, rfl, fun _ _ => rfl, by simp, fun _ => rfl⟩
  | cons e candidates ih =>
    obtain ⟨k, image, htable, hline, hturn⟩ :=
      h.flushCandidate observer i (htracked e List.mem_cons_self)
    rw [BufferPool.flushLoop] at hrun
    rcases hcall : BufferPool.flushCandidate observer i e b with ⟨turn, j, c⟩
    rw [hcall] at hturn hrun
    have hpage : turn.pageId = e.pageId := hturn.pageId
    obtain rfl : j = i + turn.readings := hturn.readings hcall
    obtain ⟨hruns, hlines⟩ := h.flushTurn htable hline hturn
    obtain ⟨hpages, hpins⟩ := hturn.frames
    have hself : c.line e.pageId = if turn.outcome = .flushed then some ⟨image, none⟩ else
        b.line e.pageId := by
      rw [hlines, update_self]
    have hother : ∀ q, q ≠ e.pageId → c.line q = b.line q := fun q hq => by
      rw [hlines, update_of_ne hq]
    rw [List.map_cons, List.nodup_cons] at hdistinct
    dsimp only at hrun
    split_ifs at hrun with hstop
    · cases hrun
      refine ⟨⟨by simpa using hruns, .cons hturn .nil⟩, hpages,
        fun q hq => hother q fun heq => hq (by simp [heq]),
        List.forall_mem_singleton.mpr ⟨⟨[], [], rfl, i, e, k, image, b, _, rfl, .nil, hturn, .nil,
          htable, rfl, hline, hself⟩, by simp [hpage]⟩, fun hgoes => ?_⟩
      rw [hgoes] at hstop
      cases hstop
    · have hne : ∀ p ∈ candidates.map DirtyEntry.pageId, p ≠ e.pageId := by
        rintro p hp rfl
        exact hdistinct.1 hp
      have htracked' : ∀ e' ∈ candidates,
          c.dirtyTracker.dirtyPages.lookup e'.pageId = some e' := by
        intro e' he'
        rw [hruns.booked.tracked, hother _ (hne _ (List.mem_map_of_mem he')), ← h.tracked]
        exact htracked e' (List.mem_cons_of_mem e he')
      rcases hrest : BufferPool.flushLoop stops observer candidates (i + turn.readings) c with
        ⟨rest, b₁⟩
      rw [hrest] at hrun
      cases hrun
      obtain ⟨⟨hruns', hpass⟩, hpages', hkept, hsettled, hids⟩ :=
        ih hruns.booked _ htracked' hdistinct.2 hrest
      refine ⟨⟨hruns.trans hruns', .cons hturn hpass⟩, hpages'.trans hpages, fun q hq => ?_,
        List.forall_mem_cons.mpr ⟨⟨⟨[], rest, rfl, i, e, k, image, b, c, rfl, .nil, hturn, hpass,
          htable, rfl, hline, ?_⟩, by simp [hpage]⟩, fun later hlater => ?_⟩,
        fun hgoes => by rw [List.map_cons, List.map_cons, hpage, hids hgoes]⟩
      · rw [List.map_cons, List.mem_cons, not_or] at hq
        rw [hkept q hq.2, hother q hq.1]
      · rw [hkept _ hdistinct.1, hself]
      · obtain ⟨⟨before, after, rfl, j, e', k', image', d, d', rfl, hbefore, hturn', hafter, htable',
          hpins', hline', hend⟩, hmem⟩ := hsettled later hlater
        have hfrom := hother e'.pageId (hturn'.pageId ▸ hne _ hmem)
        rw [hpages] at htable'
        rw [hpins] at hpins'
        rw [hfrom] at hline' hend
        refine ⟨⟨turn :: before, after, rfl, _, e', k', image', d, d', ?_, .cons hturn hbefore,
          hturn', hafter, htable', hpins', hline', hend⟩, List.mem_cons_of_mem _ hmem⟩
        rw [List.map_cons, List.sum_cons, Nat.add_assoc]

end BufferPool

end Andromeda
