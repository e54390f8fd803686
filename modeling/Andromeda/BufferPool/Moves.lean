import Andromeda.BufferPool.ClockSweep

/-!
# Moves of the pool

Every part of a call is a chain of moves on the lines and the store. A move is silent (a page
is evicted or admitted, a write fails) or an event that the caller can tell.
-/

namespace Andromeda

open Fallible BufferFrameCore Effect Function ClockEvictionPolicy PageStore

inductive PoolEvent where
  | dirtied (pageId : PageId) (dirtyLsn : Lsn)
  | assigned (pageId : PageId) (image : PageImage)
  | created (pageId : PageId) (image : PageImage)
  | cleaned (pageId : PageId)

def BufferFrame.Busy (f : BufferFrame) : Prop := f.core.pinCount ≠ 0 ∨ f.core.isDirty = true

namespace BufferPool

variable {σ : Type} [PageStore σ] {n : Nat} {b b' c : BufferPool σ n} {k : Fin n} {p q : PageId}

def Provided (s : σ) (p : PageId) (image : PageImage) : Prop :=
  readPage s p = .ok (some image) ∨
    ∃ s₀ layout durableLsn, allocatePage layout durableLsn s₀ = (.ok image, s)

inductive Move : BufferPool σ n → Option PoolEvent → BufferPool σ n → Prop
  | quiet {b b' : BufferPool σ n} (hlines : b'.line = b.line) (hstore : b'.store = b.store) :
      Move b none b'
  /-- Only clean pages leave. -/
  | evicted {b b' : BufferPool σ n} (p : PageId) (l : Line) (hline : b.line p = some l)
      (hclean : l.range = none) (hlines : b'.line = update b.line p none)
      (hstore : b'.store = b.store) : Move b none b'
  | admitted {b b' : BufferPool σ n} (p : PageId) (image : PageImage) (hline : b.line p = none)
      (hid : image.pageId = some p) (hsource : Provided b.store p image)
      (hlines : b'.line = update b.line p (some ⟨image, none⟩))
      (hstore : b'.store = b.store) : Move b none b'
  | allocated {b b' : BufferPool σ n} (layout : PageLayoutContract)
      (result : Except Error PageImage) (hline : b.line layout.header.pageId = none)
      (hcall : allocatePage layout layout.header.pageLsn b.store = (result, b'.store))
      (hlines : b'.line = b.line) : Move b none b'
  | created {b : BufferPool σ n} (p : PageId) (image : PageImage)
      (hline : b.line p = some ⟨image, none⟩) : Move b (some (.created p image)) b
  | dirtied {b b' : BufferPool σ n} (p : PageId) (dirtyLsn : Lsn) (l : Line)
      (hline : b.line p = some l) (hlast : ∀ r, l.range = some r → r.2 ≤ dirtyLsn)
      (hlines : b'.line = update b.line p (some (l.dirtied dirtyLsn)))
      (hstore : b'.store = b.store) : Move b (some (.dirtied p dirtyLsn)) b'
  | assigned {b b' : BufferPool σ n} (p : PageId) (image : PageImage) (l : Line)
      (hline : b.line p = some l) (hdirty : l.range ≠ none)
      (hlines : b'.line = update b.line p (some { l with image := image }))
      (hstore : b'.store = b.store) : Move b (some (.assigned p image)) b'
  | writeFailed {b b' : BufferPool σ n} (image : PageImage) (durableLsn : Lsn) (err : Error)
      (hcall : writePage image durableLsn b.store = (.error err, b'.store))
      (hlines : b'.line = b.line) : Move b none b'
  | written {b b' : BufferPool σ n} (p : PageId) (l : Line) (durableLsn : Lsn)
      (hline : b.line p = some l)
      (hcall : writePage l.image durableLsn b.store = (.ok (), b'.store))
      (hlines : b'.line = update b.line p (some l.cleaned)) :
      Move b (some (.cleaned p)) b'

/-- Moves in a row, with the events among them. -/
inductive Moves : BufferPool σ n → List PoolEvent → BufferPool σ n → Prop
  | refl (b : BufferPool σ n) : Moves b [] b
  | step {b c d : BufferPool σ n} {event : Option PoolEvent} {events : List PoolEvent}
      (head : Move b event c) (tail : Moves c events d) : Moves b (event.toList ++ events) d

theorem Move.moves {event : Option PoolEvent} (h : Move b event b') : Moves b event.toList b' := by
  have hstep := Moves.step h (.refl b')
  rwa [List.append_nil] at hstep

variable {events events' : List PoolEvent}

theorem Moves.trans (h : Moves b events c) (h' : Moves c events' b') :
    Moves b (events ++ events') b' := by
  induction h with
  | refl => exact h'
  | step head _ ih =>
    rw [List.append_assoc]
    exact .step head (ih h')

/-- A booked pool is left by moves with these events. -/
structure Runs (b : BufferPool σ n) (events : List PoolEvent) (b' : BufferPool σ n) : Prop where
  booked : b'.Booked
  moves : Moves b events b'

theorem Booked.runs (h : b.Booked) : b.Runs [] b := ⟨h, .refl b⟩

theorem Runs.trans (h : b.Runs events c) (h' : c.Runs events' b') : b.Runs (events ++ events') b' :=
  ⟨h'.booked, h.moves.trans h'.moves⟩

theorem Booked.onCore_touched (h : b.Booked) {α : Type} {op : Effect BufferFrameCore Error α}
    {result : Except Error α} (htouched : ∀ core, op (b.frames k).core = (result, core) →
      (b.frames k).Touched { b.frames k with core := core })
    (hrun : onCore k op b = (result, b')) :
    b.Runs [] b' ∧ b'.pageTable = b.pageTable ∧ b'.line = b.line := by
  obtain ⟨core, hop, rfl⟩ := onCore_eq_iff.mp hrun
  have hall : ∀ j, (b.frames j).Touched (update b.frames k { b.frames k with core := core } j) := by
    intro j
    by_cases hj : j = k
    · subst hj
      rw [update_self]
      exact htouched core hop
    · rw [update_of_ne hj]
      exact .inl rfl
  obtain ⟨hbooked, hlines⟩ := h.touched hall b.clock
  exact ⟨⟨hbooked, (Move.quiet hlines rfl).moves⟩, rfl, hlines⟩

theorem Booked.pin (h : b.Booked) {result : Except Error Unit}
    (hrun : onCore k pin b = (result, b')) :
    b.Runs [] b' ∧ b'.pageTable = b.pageTable ∧ b'.line = b.line := by
  refine h.onCore_touched ?_ hrun
  intro core hcore
  rcases pin_cases hcore with ⟨err, -, rfl⟩ | ⟨hstate, -, rfl⟩
  · exact .inl rfl
  · exact .inr ⟨hstate, _, _, rfl⟩

theorem Booked.unpin (h : b.Booked) {result : Except Error Unit}
    (hrun : onCore k unpin b = (result, b')) :
    b.Runs [] b' ∧ b'.pageTable = b.pageTable ∧ b'.line = b.line := by
  refine h.onCore_touched ?_ hrun
  intro core hcore
  rcases unpin_cases hcore with ⟨err, -, rfl⟩ | ⟨hstate, -, rfl⟩
  · exact .inl rfl
  · exact .inr ⟨hstate, _, _, rfl⟩

def KeepsBusy {σ : Type} (b b' : BufferPool σ n) : Prop :=
  ∀ p k, b.pageTable p = some k → (b.frames k).Busy → b'.pageTable p = some k

omit [PageStore σ] in
theorem KeepsBusy.of_pageTable (h : b'.pageTable = b.pageTable) : KeepsBusy b b' := by
  intro p k htable _
  rw [h, htable]

/-- Pages may leave, nothing comes in, and the store is not called. -/
structure Settles (b b' : BufferPool σ n) : Prop where
  runs : b.Runs [] b'
  store : b'.store = b.store
  absent : ∀ p, b.line p = none → b'.line p = none

theorem Booked.settles (h : b.Booked) : b.Settles b := ⟨h.runs, rfl, fun _ hline => hline⟩

theorem Settles.trans (h : b.Settles c) (h' : c.Settles b') : b.Settles b' :=
  ⟨h.runs.trans h'.runs, h'.store.trans h.store, fun p hline => h'.absent p (h.absent p hline)⟩

variable {result : Except Error (Fin n)} {image : PageImage} {layout : PageLayoutContract}

theorem Booked.selectVictim (h : b.Booked) (hrun : selectVictim b = (result, b')) :
    b.Settles b' := by
  have htouched : ∀ k, (b.frames k).Touched ((b.clock.selectVictim b.frames).2.2 k) := by
    intro k
    rcases b.clock.selectVictim_rested b.frames k with hsame | ⟨hclean, hrested⟩
    · exact .inl hsame
    · rw [hrested]
      exact .inr ⟨resident_of_clean hclean, (b.frames k).core.pinCount, false, rfl⟩
  obtain ⟨hbooked, hlines⟩ := h.touched htouched (b.clock.selectVictim b.frames).2.1
  cases hrun
  exact ⟨⟨hbooked, (Move.quiet hlines rfl).moves⟩, rfl,
    fun p hline => (congrFun hlines p).trans hline⟩

omit [PageStore σ] in
theorem KeepsBusy.of_swept (hvictim : BufferPool.selectVictim b = (result, c))
    (h : KeepsBusy c b') : KeepsBusy b b' := by
  intro q j hq hbusy
  cases hvictim
  refine h q j hq ?_
  rcases b.clock.selectVictim_rested b.frames j with hsame | ⟨-, hrested⟩
  · rwa [← hsame] at hbusy
  · change ((b.clock.selectVictim b.frames).2.2 j).Busy
    rw [hrested]
    exact hbusy

theorem markClean_of_ne {tracker : DirtyTracker} (h : p ≠ 0) :
    tracker.markClean p = .ok ⟨tracker.dirtyPages.erase p⟩ := by
  simp [DirtyTracker.markClean, validatePageIdValue, failIf, h]

theorem Booked.evict (h : b.Booked) {result : Except Error Unit} (hrun : evict k b = (result, b')) :
    b.Settles b' ∧ KeepsBusy b b' ∧ (result = .ok () → (b'.frames k).Free) := by
  have hrefused : ∀ err, result = .error err → b' = b →
      b.Settles b' ∧ KeepsBusy b b' ∧ (result = .ok () → (b'.frames k).Free) := by
    rintro err rfl rfl
    exact ⟨h.settles, .of_pageTable rfl, nofun⟩
  rw [BufferPool.evict, get_bind] at hrun
  rcases lift_bind_cases hrun with ⟨err, -, hresult, hsame⟩ | ⟨p, hp, hrun⟩
  · exact hrefused err hresult hsame
  rw [orError_eq_ok] at hp
  rcases h.frames k with hfree | ⟨p', htidy, htable⟩
  · rw [hfree.core] at hp
    cases hp
  have hpp : p' = p := by
    have hid := htidy.core.pageId
    rw [hp, Option.some.injEq] at hid
    exact hid.symm
  subst hpp
  rcases bind_cases hrun with ⟨err, hbegin, hresult⟩ | ⟨_, b₁, hbegin, hrun⟩
  · obtain ⟨core, hcore, rfl⟩ := onCore_eq_iff.mp hbegin
    rcases htidy.core.beginEviction_cases hcore with ⟨_, -, rfl⟩ | ⟨-, -, hok, -⟩
    · exact hrefused err hresult (setFrame_self b k)
    · cases hok
  obtain ⟨core, hcore, rfl⟩ := onCore_eq_iff.mp hbegin
  rcases htidy.core.beginEviction_cases hcore with ⟨_, herr, -⟩ | ⟨hclean, hpins, -, rfl⟩
  · cases herr
  rw [modify_bind, bind_of_ok (onTracker_of_ok (markClean_of_ne htidy.core.pageId_ne))] at hrun
  obtain ⟨f, hfinish, rfl⟩ := onFrame_eq_iff.mp hrun
  have hself : (b.setFrame k { b.frames k with
      core := (b.frames k).core.inState .evicting }).frames k =
        { b.frames k with core := (b.frames k).core.inState .evicting } :=
    update_self _ _ _
  have hzoom : BufferFrame.onCore finishEviction
      { b.frames k with core := (b.frames k).core.inState .evicting } =
        (.ok (), { b.frames k with core := .free (b.frames k).core.id }) :=
    zoom_eq_iff.mpr ⟨_, finishEviction_of_evicting htidy.core.id_ne, rfl⟩
  have hfinished : BufferFrame.finishEviction
      { b.frames k with core := (b.frames k).core.inState .evicting } =
        (.ok (), ⟨.free (b.frames k).core.id, none, (b.frames k).pageSize⟩) := by
    rw [BufferFrame.finishEviction, bind_of_ok hzoom]
    rfl
  change BufferFrame.finishEviction ((b.setFrame k _).frames k) = (result, f) at hfinish
  rw [hself, hfinished] at hfinish
  cases hfinish
  have hfree : BufferFrame.Free ⟨.free (b.frames k).core.id, none, (b.frames k).pageSize⟩ :=
    ⟨rfl, htidy.core.id_ne, rfl⟩
  obtain ⟨hbooked, hlines⟩ := h.remove htable hfree
  obtain ⟨image, himage⟩ := Option.ne_none_iff_exists'.mp htidy.image
  have hline : b.line p' = some ⟨image, none⟩ := by
    rw [line_eq htable, BufferFrame.line, himage, hclean.range]
    rfl
  simp only [setFrame, update_idem]
  refine ⟨⟨⟨hbooked, (Move.evicted p' _ hline rfl hlines rfl).moves⟩, rfl, ?_⟩, ?_, fun _ => ?_⟩
  · intro q hq
    rw [hlines]
    by_cases hqp : q = p'
    · rw [hqp, update_self]
    · rw [update_of_ne hqp, hq]
  · intro q j hq hbusy
    have hqp : q ≠ p' := by
      rintro rfl
      -- then `k` is the frame of the page, which is neither pinned nor dirty
      rw [htable, Option.some.injEq] at hq
      subst hq
      rcases hbusy with hpinned | hdirty
      · exact hpinned hpins
      · rw [hclean.1] at hdirty
        cases hdirty
    exact (update_of_ne hqp _ _).trans hq
  · rw [update_self]
    exact hfree

theorem Booked.reusableFrameIndex (h : b.Booked) (hrun : reusableFrameIndex b = (result, b')) :
    b.Settles b' ∧ KeepsBusy b b' ∧ ∀ k, result = .ok k → (b'.frames k).Free := by
  rw [BufferPool.reusableFrameIndex, get_bind] at hrun
  cases hfind : (List.finRange n).find? fun k => (b.frames k).core.state = .free with
  | some k =>
    rw [hfind] at hrun
    cases hrun
    refine ⟨h.settles, .of_pageTable rfl, ?_⟩
    intro j hj
    cases hj
    have hstate : (b.frames k).core.state = .free := by
      simpa using List.find?_some hfind
    rcases h.frames k with hfree | ⟨p, htidy, -⟩
    · exact hfree
    · rw [htidy.core.state] at hstate
      cases hstate
  | none =>
    rw [hfind] at hrun
    rcases bind_cases hrun with ⟨err, hvictim, rfl⟩ | ⟨k, b₁, hvictim, hrun⟩
    · exact ⟨h.selectVictim hvictim, .of_swept hvictim (.of_pageTable rfl), nofun⟩
    have hswept := h.selectVictim hvictim
    rcases bind_cases hrun with ⟨err, hevict, rfl⟩ | ⟨_, b₂, hevict, hrun⟩
    · obtain ⟨hsettles, hkept, -⟩ := hswept.runs.booked.evict hevict
      exact ⟨hswept.trans hsettles, .of_swept hvictim hkept, nofun⟩
    obtain ⟨hsettles, hkept, hfree⟩ := hswept.runs.booked.evict hevict
    cases hrun
    refine ⟨hswept.trans hsettles, .of_swept hvictim hkept, ?_⟩
    intro j hj
    cases hj
    exact hfree rfl

theorem withImage_eq_ok {id : Nat} {f : BufferFrame} (h : BufferFrame.withImage id image = .ok f)
    (hid : image.pageId = some p) : f.Tidy p ∧ f.core.Clean ∧ f.image = some image := by
  simp only [BufferFrame.withImage, resident, validate, ok_iff, validatePageIdValue,
    validateDirtyLsn, validateFrameId] at h
  obtain ⟨layout, -, -, p', hp', hp0, lsn, -, hlsn, core, ⟨-, -, ⟨hid0, -⟩, rfl⟩, -, rfl⟩ := h
  rw [hid, Option.some.injEq] at hp'
  subst hp'
  refine ⟨⟨⟨⟨hid0, rfl, hp0, lsn, rfl, hlsn, .inl ⟨rfl, rfl, rfl⟩⟩, rfl⟩, by simp⟩,
    ⟨rfl, rfl, rfl⟩, rfl⟩

theorem validateImageForPool_eq_ok {pageSize : PageSize}
    (h : validateImageForPool image pageSize = .ok p) : image.pageId = some p := by
  simp only [validateImageForPool, ok_iff] at h
  obtain ⟨-, layout, hlayout, -, -, rfl⟩ := h
  rw [PageImage.pageId, hlayout]
  rfl

theorem Booked.admitImage (h : b.Booked)
    (hsource : ∀ p, image.pageId = some p → Provided b.store p image)
    (hrun : admitImage image b = (result, b')) :
    b.Runs [] b' ∧ KeepsBusy b b' ∧ ∀ k, result = .ok k →
      ∃ p, image.pageId = some p ∧ b'.pageTable p = some k ∧ b'.line p = some ⟨image, none⟩ := by
  rw [BufferPool.admitImage, get_bind] at hrun
  refine checked_or hrun (fun _ => ⟨h.runs, .of_pageTable rfl, nofun⟩) fun p hvalid hrun => ?_
  have hid := validateImageForPool_eq_ok hvalid
  refine absent_or hrun (fun _ => ⟨h.runs, .of_pageTable rfl, nofun⟩) fun hnone hrest => ?_
  rcases bind_cases hrest with ⟨err, hreuse, rfl⟩ | ⟨k, b₁, hreuse, hplace⟩
  · obtain ⟨hsettles, hkept, -⟩ := h.reusableFrameIndex hreuse
    exact ⟨hsettles.runs, hkept, nofun⟩
  obtain ⟨hsettles, hkept, hfree⟩ := h.reusableFrameIndex hreuse
  have hbooked₁ := hsettles.runs.booked
  rw [get_bind] at hplace
  refine checked_or hplace (fun _ => ⟨hsettles.runs, hkept, nofun⟩) fun f hf hdone => ?_
  cases hdone
  obtain ⟨htidy, hclean, himage⟩ := withImage_eq_ok hf hid
  have hline₁ : b₁.line p = none := hsettles.absent p (h.line_eq_none_iff.mpr hnone)
  obtain ⟨hbooked, hlines⟩ :=
    hbooked₁.admit (hfree k rfl) (hbooked₁.line_eq_none_iff.mp hline₁) htidy hclean
  have hfline : f.line = some ⟨image, none⟩ := by
    rw [BufferFrame.line, himage, hclean.range]
    rfl
  rw [hfline] at hlines
  have hprovided : Provided b₁.store p image := by
    rw [hsettles.store]
    exact hsource p hid
  have hadmitted : b₁.Runs [] _ :=
    ⟨hbooked, (Move.admitted p image hline₁ hid hprovided hlines rfl).moves⟩
  refine ⟨hsettles.runs.trans hadmitted, ?_, ?_⟩
  · intro q j hq hbusy
    have hqp : q ≠ p := by
      rintro rfl
      rw [hnone] at hq
      cases hq
    exact (update_of_ne hqp _ _).trans (hkept q j hq hbusy)
  · intro j hj
    cases hj
    refine ⟨p, hid, update_self _ _ _, ?_⟩
    rw [hlines, update_self]

theorem readImage_cases {result : Except Error PageImage} (hrun : readImage p b = (result, b')) :
    b' = b ∧ ∀ image, result = .ok image →
      image.pageId = some p ∧ readPage b.store p = .ok (some image) := by
  rw [readImage, get_bind] at hrun
  refine checked_or hrun (fun _ => ⟨rfl, by rintro _ ⟨⟩⟩) fun found hfound hrest => ?_
  refine checked_or hrest (fun _ => ⟨rfl, by rintro _ ⟨⟩⟩) fun image himage hcheck => ?_
  refine checked_or hcheck (fun _ => ⟨rfl, by rintro _ ⟨⟩⟩) fun _ hid hdone => ?_
  rw [orError_eq_ok] at himage
  rw [failIf_eq_ok, not_not] at hid
  rw [himage] at hfound
  cases hdone
  refine ⟨rfl, ?_⟩
  intro image' hok
  cases hok
  exact ⟨hid, hfound⟩

theorem Booked.ensureResident (h : b.Booked) (hrun : ensureResident p b = (result, b')) :
    b.Runs [] b' ∧ KeepsBusy b b' ∧ ∀ k, result = .ok k → b'.pageTable p = some k := by
  rw [BufferPool.ensureResident] at hrun
  refine checked_or hrun (fun _ => ⟨h.runs, .of_pageTable rfl, nofun⟩) fun _ _ hrun => ?_
  rw [get_bind] at hrun
  cases htable : b.pageTable p with
  | some k =>
    rw [htable] at hrun
    cases hrun
    refine ⟨h.runs, .of_pageTable rfl, ?_⟩
    intro j hj
    cases hj
    exact htable
  | none =>
    rw [htable] at hrun
    rcases bind_cases hrun with ⟨err, hread, rfl⟩ | ⟨image, b₁, hread, hadmit⟩
    · obtain ⟨rfl, -⟩ := readImage_cases hread
      exact ⟨h.runs, .of_pageTable rfl, nofun⟩
    obtain ⟨rfl, hok⟩ := readImage_cases hread
    obtain ⟨hid, hfound⟩ := hok image rfl
    have hsource : ∀ q, image.pageId = some q → Provided b₁.store q image := by
      intro q hq
      rw [hid, Option.some.injEq] at hq
      rw [← hq]
      exact .inl hfound
    obtain ⟨hruns, hkept, hresident⟩ := h.admitImage hsource hadmit
    refine ⟨hruns, hkept, ?_⟩
    intro k hk
    obtain ⟨q, hq, htable', -⟩ := hresident k hk
    rw [hid, Option.some.injEq] at hq
    rw [hq]
    exact htable'

def Allocated (σ : Type) [PageStore σ] (layout : PageLayoutContract) (image : PageImage) : Prop :=
  ∃ s s' : σ, allocatePage layout layout.header.pageLsn s = (.ok image, s')

theorem Booked.allocated (h : b.Booked) {result : Except Error PageImage} {s : σ}
    (hline : b.line layout.header.pageId = none)
    (hcall : allocatePage layout layout.header.pageLsn b.store = (result, s)) :
    b.Runs [] { b with store := s } := by
  have hmove : Move b none { b with store := s } := .allocated layout result hline hcall rfl
  exact ⟨h.setStore s, hmove.moves⟩

theorem Booked.allocateResidentFrame (h : b.Booked)
    (hrun : allocateResidentFrame layout b = (result, b')) :
    b.Runs [] b' ∧ KeepsBusy b b' ∧ ∀ k, result = .ok k →
      ∃ p image, b'.pageTable p = some k ∧ b'.line p = some ⟨image, none⟩ ∧
        image.pageId = some p ∧ Allocated σ layout image := by
  rw [BufferPool.allocateResidentFrame] at hrun
  refine checked_or hrun (fun _ => ⟨h.runs, .of_pageTable rfl, nofun⟩) fun _ _ hrun => ?_
  rw [get_bind] at hrun
  refine checked_or hrun (fun _ => ⟨h.runs, .of_pageTable rfl, nofun⟩) fun _ _ hrun => ?_
  refine checked_or hrun (fun _ => ⟨h.runs, .of_pageTable rfl, nofun⟩) fun _ _ hrun => ?_
  refine absent_or hrun (fun _ => ⟨h.runs, .of_pageTable rfl, nofun⟩) fun hnone hrest => ?_
  have hline := h.line_eq_none_iff.mpr hnone
  rcases bind_cases hrest with ⟨err, halloc, rfl⟩ | ⟨image, b₁, halloc, hadmit⟩
  · obtain ⟨s, hcall, rfl⟩ := onStore_eq_iff.mp halloc
    exact ⟨h.allocated hline hcall, .of_pageTable rfl, nofun⟩
  obtain ⟨s, hcall, rfl⟩ := onStore_eq_iff.mp halloc
  have hallocated := h.allocated hline hcall
  obtain ⟨hruns, hkept, hresident⟩ :=
    hallocated.booked.admitImage (fun _ _ => .inr ⟨_, _, _, hcall⟩) hadmit
  refine ⟨hallocated.trans hruns, hkept, ?_⟩
  intro k hk
  obtain ⟨p, hid, htable, hadmitted⟩ := hresident k hk
  exact ⟨p, image, htable, hadmitted, hid, _, _, hcall⟩

end BufferPool

end Andromeda
