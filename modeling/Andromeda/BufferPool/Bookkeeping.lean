import Andromeda.BufferPool.FrameSteps

/-!
# Bookkeeping of the pool

`Booked` ties the page table, the frames and the dirty tracker together. Under it the pool
is a map from pages to lines, an image with the LSN range that dirtied it; the lemmas say for
each part of a call what becomes of the lines and of the store.
-/

namespace Andromeda

open Fallible Effect Function

/-- A resident page: its image, and its first and last dirty LSN if it is dirty. -/
structure Line where
  image : PageImage
  range : Option (Lsn × Lsn)

namespace Line

def entry (l : Line) (p : PageId) : Option DirtyEntry := l.range.map fun r => ⟨p, r.1, r.2⟩

def dirtied (l : Line) (dirtyLsn : Lsn) : Line :=
  { l with range := some ((l.range.map Prod.fst).getD dirtyLsn, dirtyLsn) }

def cleaned (l : Line) : Line := { l with range := none }

end Line

def BufferFrameCore.range (f : BufferFrameCore) : Option (Lsn × Lsn) :=
  match f.firstDirtyLsn, f.lastDirtyLsn with
  | some first, some last => some (first, last)
  | _, _ => none

namespace BufferFrame

def line (f : BufferFrame) : Option Line := f.image.map fun image => ⟨image, f.core.range⟩

/-- The frame holds the page, with an image, between calls. -/
structure Tidy (f : BufferFrame) (p : PageId) : Prop where
  core : f.core.Tidy p
  image : f.image ≠ none

structure Free (f : BufferFrame) : Prop where
  core : f.core = .free f.core.id
  id_ne : f.core.id ≠ 0
  image : f.image = none

/-- A change of pins and reference bits, which only a resident frame sees. -/
def Touched (f f' : BufferFrame) : Prop :=
  f' = f ∨ f.core.state = .resident ∧ ∃ pinCount clockUsage,
    f' = { f with core := { f.core with pinCount := pinCount, clockUsage := clockUsage } }

variable {f : BufferFrame} {p : PageId}

variable {f' : BufferFrame}

theorem Touched.tidy (h : f.Touched f') (htidy : f.Tidy p) : f'.Tidy p := by
  rcases h with rfl | ⟨-, pinCount, clockUsage, rfl⟩
  · exact htidy
  · obtain ⟨⟨⟨hid, hpage, hne, hlsn⟩, hstate⟩, himage⟩ := htidy
    exact ⟨⟨⟨hid, hpage, hne, hlsn⟩, hstate⟩, himage⟩

theorem Touched.free (h : f.Touched f') (hfree : f.Free) : f'.Free := by
  rcases h with rfl | ⟨hstate, -⟩
  · exact hfree
  · rw [hfree.core] at hstate
    cases hstate

theorem Touched.line (h : f.Touched f') : f'.line = f.line := by
  rcases h with rfl | ⟨-, pinCount, clockUsage, rfl⟩ <;> rfl

def rested (f : BufferFrame) : BufferFrame :=
  { f with core := { f.core with clockUsage := false } }

theorem consumeClockUsage_of_resident (h : f.core.state = .resident) :
    ClockFrame.consumeClockUsage f = (.ok f.core.clockUsage, f.rested) := by
  have hcore : BufferFrameCore.consumeClockUsage f.core =
      (.ok f.core.clockUsage, { f.core with clockUsage := false }) := by
    rw [BufferFrameCore.consumeClockUsage, get_bind, failIf_bind (by simp [h]), modify_bind]
    rfl
  change BufferFrame.onCore BufferFrameCore.consumeClockUsage f = _
  rw [BufferFrame.onCore, zoom_eq_iff]
  exact ⟨_, hcore, rfl⟩

end BufferFrame

variable {f : BufferFrameCore}

theorem BufferFrameCore.Clean.range (h : f.Clean) : f.range = none := by
  rw [BufferFrameCore.range, h.2.1]

theorem BufferFrameCore.DirtyOver.range {first last : Lsn} (h : f.DirtyOver first last) :
    f.range = some (first, last) := by
  rw [BufferFrameCore.range, h.2.1, h.2.2]

theorem BufferFrameCore.Tidy.range_cases {p : PageId} (h : f.Tidy p) :
    (f.Clean ∧ f.range = none) ∨ ∃ first last, f.DirtyOver first last ∧ first ≠ 0 ∧
      first ≤ last ∧ f.range = some (first, last) := by
  rcases h.toHolds.clean_or_dirty with hclean | ⟨first, last, hdirty, hne, hle⟩
  · exact .inl ⟨hclean, hclean.range⟩
  · exact .inr ⟨first, last, hdirty, hne, hle, hdirty.range⟩

namespace BufferPool

variable {σ : Type} {n : Nat} {b b' : BufferPool σ n} {k : Fin n} {p q : PageId}

def line (b : BufferPool σ n) (p : PageId) : Option Line :=
  (b.pageTable p).bind fun k => (b.frames k).line

structure Booked (b : BufferPool σ n) : Prop where
  frames : ∀ k, (b.frames k).Free ∨ ∃ p, (b.frames k).Tidy p ∧ b.pageTable p = some k
  table : ∀ p k, b.pageTable p = some k → (b.frames k).Tidy p
  tracked : ∀ p, b.dirtyTracker.dirtyPages.lookup p = (b.line p).bind fun l => l.entry p

def setFrame (b : BufferPool σ n) (k : Fin n) (f : BufferFrame) : BufferPool σ n :=
  { b with frames := update b.frames k f }

variable {α : Type}

theorem onFrame_eq_iff {op : Effect BufferFrame Error α} {result : Except Error α} :
    onFrame k op b = (result, b') ↔ ∃ f, op (b.frames k) = (result, f) ∧ b' = b.setFrame k f :=
  zoom_eq_iff

theorem onCore_eq_iff {op : Effect BufferFrameCore Error α} {result : Except Error α} :
    onCore k op b = (result, b') ↔ ∃ core, op (b.frames k).core = (result, core) ∧
        b' = b.setFrame k { b.frames k with core := core } := by
  rw [onCore, onFrame_eq_iff]
  constructor
  · rintro ⟨f, hop, hb⟩
    obtain ⟨core, hcore, rfl⟩ := zoom_eq_iff.mp hop
    exact ⟨core, hcore, hb⟩
  · rintro ⟨core, hcore, hb⟩
    exact ⟨_, zoom_eq_iff.mpr ⟨core, hcore, rfl⟩, hb⟩

theorem onStore_eq_iff {op : Effect σ Error α} {result : Except Error α} :
    onStore op b = (result, b') ↔ ∃ s, op b.store = (result, s) ∧ b' = { b with store := s } :=
  zoom_eq_iff

variable {tracker : DirtyTracker}

theorem onTracker_of_ok {op : DirtyTracker → Result DirtyTracker}
    (h : op b.dirtyTracker = .ok tracker) :
    onTracker op b = (.ok (), { b with dirtyTracker := tracker }) := by
  rw [onTracker, h]

@[elab_as_elim]
theorem absent_or {f : Unit → Effect (BufferPool σ n) Error α} {result : Except Error α}
    {P : Except Error α → BufferPool σ n → Prop}
    (hrun : (checkNotResident p >>= f) b = (result, b')) (hfail : ∀ e, P (.error e) b)
    (hrest : b.pageTable p = none → f () b = (result, b') → P result b') : P result b' := by
  refine checked_or (show (lift _ >>= f) b = _ from hrun) hfail fun _ hcheck hrun => ?_
  rw [failIf_eq_ok, Option.not_isSome_iff_eq_none] at hcheck
  exact hrest hcheck hrun

theorem setFrame_self (b : BufferPool σ n) (k : Fin n) : b.setFrame k (b.frames k) = b := by
  rw [setFrame, update_eq_self]

theorem line_eq (htable : b.pageTable p = some k) : b.line p = (b.frames k).line := by
  rw [line, htable]
  rfl

theorem Booked.line_eq_none_iff (h : b.Booked) : b.line p = none ↔ b.pageTable p = none := by
  rw [line]
  cases htable : b.pageTable p with
  | none => simp
  | some k =>
    simpa [BufferFrame.line] using (h.table p k htable).image

theorem Booked.setStore (h : b.Booked) (s : σ) : Booked { b with store := s } :=
  ⟨h.frames, h.table, h.tracked⟩

theorem Booked.line_of_tracked (h : b.Booked) {e : DirtyEntry}
    (htracked : b.dirtyTracker.dirtyPages.lookup p = some e) :
    e.pageId = p ∧ ∃ k l, b.pageTable p = some k ∧ b.line p = some l ∧
      l.range = some (e.firstDirtyLsn, e.lastDirtyLsn) := by
  rw [h.tracked p, Option.bind_eq_some_iff] at htracked
  obtain ⟨l, hline, hentry⟩ := htracked
  rw [Line.entry, Option.map_eq_some_iff] at hentry
  obtain ⟨r, hrange, rfl⟩ := hentry
  cases htable : b.pageTable p with
  | none =>
    rw [h.line_eq_none_iff.mpr htable] at hline
    cases hline
  | some k => exact ⟨rfl, k, l, rfl, hline, hrange⟩

/-! ## Changing one frame -/

variable {f : BufferFrame}

theorem Booked.change (h : b.Booked) {l : Option Line}
    (hframes : ∀ j, j ≠ k → b'.frames j = b.frames j)
    (htable : ∀ q, q ≠ p → b'.pageTable q = b.pageTable q)
    (hown : ∀ q j, b.pageTable q = some j → (q = p ↔ j = k))
    (hself : b'.pageTable p = none ∧ (b'.frames k).Free ∨
      b'.pageTable p = some k ∧ (b'.frames k).Tidy p) (hline : b'.line p = l) (hother : ∀ q, q ≠ p →
      b'.dirtyTracker.dirtyPages.lookup q = b.dirtyTracker.dirtyPages.lookup q)
    (hentry : b'.dirtyTracker.dirtyPages.lookup p = l.bind fun l => l.entry p) :
    b'.Booked ∧ b'.line = update b.line p l := by
  have hlines : b'.line = update b.line p l := by
    funext q
    by_cases hq : q = p
    · rw [hq, update_self, hline]
    · rw [update_of_ne hq, line, line, htable q hq]
      cases hqtable : b.pageTable q with
      | none => rfl
      | some j => simp [hframes j fun hj => hq ((hown q j hqtable).mpr hj)]
  refine ⟨⟨?_, ?_, ?_⟩, hlines⟩
  · intro j
    by_cases hj : j = k
    · subst hj
      rcases hself with ⟨-, hfree⟩ | ⟨hin, htidy⟩
      · exact .inl hfree
      · exact .inr ⟨p, htidy, hin⟩
    · rw [hframes j hj]
      rcases h.frames j with hfree | ⟨q, htidy, hq⟩
      · exact .inl hfree
      · exact .inr ⟨q, htidy, (htable q fun hqp => hj ((hown q j hq).mp hqp)).trans hq⟩
  · intro q j hq
    by_cases hqp : q = p
    · subst hqp
      rcases hself with ⟨hout, -⟩ | ⟨hin, htidy⟩
      · rw [hout] at hq
        cases hq
      · rw [hin, Option.some.injEq] at hq
        rwa [← hq]
    · rw [htable q hqp] at hq
      rw [hframes j fun hj => hqp ((hown q j hq).mpr hj)]
      exact h.table q j hq
  · intro q
    rw [hlines]
    by_cases hq : q = p
    · rw [hq, update_self, hentry]
    · rw [update_of_ne hq, hother q hq, h.tracked]

theorem Booked.own (h : b.Booked) (htable : b.pageTable p = some k) (q : PageId) (j : Fin n)
    (hq : b.pageTable q = some j) : q = p ↔ j = k := by
  constructor
  · rintro rfl
    rwa [htable, Option.some.injEq, eq_comm] at hq
  · rintro rfl
    have hid := (h.table q j hq).core.pageId
    rw [(h.table p j htable).core.pageId, Option.some.injEq] at hid
    exact hid.symm

theorem Booked.replace (h : b.Booked) (htable : b.pageTable p = some k) (hf : f.Tidy p)
    (hother : ∀ q, q ≠ p → tracker.dirtyPages.lookup q = b.dirtyTracker.dirtyPages.lookup q)
    (hself : tracker.dirtyPages.lookup p = f.line.bind fun l => l.entry p) :
    Booked { b.setFrame k f with dirtyTracker := tracker } ∧
      ({ b.setFrame k f with dirtyTracker := tracker } : BufferPool σ n).line =
        update b.line p f.line :=
  h.change (fun j hj => update_of_ne hj _ _) (fun _ _ => rfl) (h.own htable)
    (.inr ⟨htable, by simpa [setFrame] using hf⟩) (by simp [line, setFrame, htable]) hother hself

def cleaned (b : BufferPool σ n) (k : Fin n) (p : PageId) : BufferPool σ n :=
  { b.setFrame k { b.frames k with core := (b.frames k).core.cleaned } with
    dirtyTracker := ⟨b.dirtyTracker.dirtyPages.erase p⟩ }

theorem Booked.clean (h : b.Booked) (htable : b.pageTable p = some k) {l : Line}
    (hline : b.line p = some l) :
    (b.cleaned k p).Booked ∧ (b.cleaned k p).line = update b.line p (some l.cleaned) := by
  have htidy := h.table p k htable
  have htidy' : BufferFrame.Tidy { b.frames k with core := (b.frames k).core.cleaned } p :=
    ⟨htidy.core.cleaned, htidy.image⟩
  have hline' : BufferFrame.line { b.frames k with core := (b.frames k).core.cleaned } =
      some l.cleaned := by
    rw [line_eq htable, BufferFrame.line, Option.map_eq_some_iff] at hline
    obtain ⟨image, himage, rfl⟩ := hline
    simp [BufferFrame.line, himage, Line.cleaned, BufferFrameCore.range, BufferFrameCore.cleaned]
  have hentry : (b.dirtyTracker.dirtyPages.erase p).lookup p =
      (BufferFrame.line { b.frames k with core := (b.frames k).core.cleaned }).bind
        fun l => l.entry p := by
    rw [AList.lookup_erase, hline']
    rfl
  have hother : ∀ q, q ≠ p → (b.dirtyTracker.dirtyPages.erase p).lookup q =
      b.dirtyTracker.dirtyPages.lookup q := fun q hq => AList.lookup_erase_ne hq
  obtain ⟨hbooked, hlines⟩ := Booked.replace h htable htidy' hother hentry
  rw [hline'] at hlines
  exact ⟨hbooked, hlines⟩

theorem Booked.touched (h : b.Booked) {frames : Fin n → BufferFrame}
    (htouched : ∀ k, (b.frames k).Touched (frames k)) (clock : ClockEvictionPolicy) :
    Booked { b with frames := frames, clock := clock } ∧
      ({ b with frames := frames, clock := clock } : BufferPool σ n).line = b.line := by
  have hlines : ({ b with frames := frames, clock := clock } : BufferPool σ n).line = b.line := by
    funext p
    simp only [line]
    cases b.pageTable p with
    | none => rfl
    | some k => exact (htouched k).line
  refine ⟨⟨?_, ?_, ?_⟩, hlines⟩
  · intro k
    rcases h.frames k with hfree | ⟨p, htidy, htable⟩
    · exact .inl ((htouched k).free hfree)
    · exact .inr ⟨p, (htouched k).tidy htidy, htable⟩
  · intro p k htable
    exact (htouched k).tidy (h.table p k htable)
  · intro p
    rw [hlines]
    exact h.tracked p

/-! ## Pages coming and going -/

theorem Booked.admit (h : b.Booked) (hfree : (b.frames k).Free) (hnone : b.pageTable p = none)
    (hf : f.Tidy p) (hclean : f.core.Clean) :
    Booked { b with
      frames := update b.frames k f, pageTable := update b.pageTable p (some k) } ∧
    ({ b with
      frames := update b.frames k f
      pageTable := update b.pageTable p (some k) } : BufferPool σ n).line =
        update b.line p f.line := by
  have hline : f.line.bind (fun l => l.entry p) = none := by
    cases himage : f.image with
    | none => simp [BufferFrame.line, himage]
    | some image => simp [BufferFrame.line, himage, Line.entry, hclean.range]
  refine h.change (fun j hj => update_of_ne hj _ _) (fun q hq => update_of_ne hq _ _) ?_
    (.inr ⟨update_self _ _ _, by simpa using hf⟩) (by simp [line]) (fun _ _ => rfl) ?_
  · intro q j hq
    constructor
    · rintro rfl
      rw [hnone] at hq
      cases hq
    · rintro rfl
      have hstate := (h.table q j hq).core.state
      rw [hfree.core] at hstate
      cases hstate
  · rw [h.tracked, line, hnone, hline]
    rfl

theorem Booked.remove (h : b.Booked) (htable : b.pageTable p = some k) (hf : f.Free) :
    Booked { b with
      frames := update b.frames k f
      pageTable := update b.pageTable p none
      dirtyTracker := ⟨b.dirtyTracker.dirtyPages.erase p⟩ } ∧
    ({ b with
      frames := update b.frames k f
      pageTable := update b.pageTable p none
      dirtyTracker := ⟨b.dirtyTracker.dirtyPages.erase p⟩ } : BufferPool σ n).line =
        update b.line p none := by
  refine h.change (fun j hj => update_of_ne hj _ _) (fun q hq => update_of_ne hq _ _)
    (h.own htable) (.inl ⟨update_self _ _ _, by simpa using hf⟩) (by simp [line])
    (fun q hq => AList.lookup_erase_ne hq) ?_
  rw [AList.lookup_erase]
  rfl

/-! ## Flush candidates -/

theorem Booked.flushCandidates (h : b.Booked) : (∀ e, e ∈ b.dirtyTracker.flushCandidates ↔
      b.dirtyTracker.dirtyPages.lookup e.pageId = some e) ∧
    (b.dirtyTracker.flushCandidates.map DirtyEntry.pageId).Nodup := by
  have hkey : ∀ entry ∈ b.dirtyTracker.dirtyPages.entries,
      b.dirtyTracker.dirtyPages.lookup entry.1 = some entry.2 ∧ entry.2.pageId = entry.1 := by
    intro entry hentry
    have hlookup : b.dirtyTracker.dirtyPages.lookup entry.1 = some entry.2 :=
      AList.mem_lookup_iff.mpr hentry
    exact ⟨hlookup, (h.line_of_tracked hlookup).1⟩
  have hperm := List.perm_insertionSort DirtyTracker.flushOrder
    (b.dirtyTracker.dirtyPages.entries.map fun entry => entry.2)
  constructor
  · refine fun e => ⟨fun he => ?_, fun hlookup => hperm.mem_iff.mpr (List.mem_map.mpr
      ⟨⟨e.pageId, e⟩, AList.mem_lookup_iff.mp hlookup, rfl⟩)⟩
    obtain ⟨entry, hentry, rfl⟩ := List.mem_map.mp (hperm.mem_iff.mp he)
    obtain ⟨hlookup, hid⟩ := hkey entry hentry
    rw [hid]
    exact hlookup
  · rw [DirtyTracker.flushCandidates, (hperm.map DirtyEntry.pageId).nodup_iff, List.map_map]
    have hkeys : b.dirtyTracker.dirtyPages.entries.map
        (DirtyEntry.pageId ∘ fun entry => entry.2) = b.dirtyTracker.dirtyPages.keys :=
      List.map_congr_left fun entry hentry => (hkey entry hentry).2
    rw [hkeys]
    exact b.dirtyTracker.dirtyPages.nodupKeys

end BufferPool

end Andromeda
