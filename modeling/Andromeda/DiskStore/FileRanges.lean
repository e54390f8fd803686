import Andromeda.DiskStore.Extents

/-!
# File ranges of pages

Every page id is in at most one registered extent and the search finds it. Whether two pages
share bytes of the file is another matter: page ids are checked when an extent is added, file
offsets are not, so pages keep apart exactly when the extents were placed apart.
-/

namespace Andromeda

open Fallible Effect List ExtentDescriptor

namespace FileDiskManager

open ExtentDescriptor

variable {m m' : FileDiskManager} {es : List ExtentDescriptor} {e d : ExtentDescriptor} {p q : PageId}

instance : Std.Symm PagesApart := ⟨fun _ _ h => h.symm⟩

instance : Std.Symm FileApart := ⟨fun _ _ h => h.elim .inr .inl⟩

inductive ExtentCall where
  | register (descriptor : ExtentDescriptor)
  | allocate (descriptor : ExtentDescriptor) (refused : Option String)

namespace ExtentCall

def run : ExtentCall → Effect FileDiskManager Error Unit
  | register descriptor => registerExtent descriptor
  | allocate descriptor refused => allocateExtent descriptor refused

def placed (m : FileDiskManager) : ExtentCall → ExtentDescriptor
  | register descriptor => descriptor
  | allocate descriptor _ => { descriptor with fileOffset := m.currentFileSize }

end ExtentCall

/-- The extents that calls in a row place, each at the state its call finds. -/
def placements (m : FileDiskManager) : List ExtentCall → List ExtentDescriptor
  | [] => []
  | c :: cs => c.placed m :: placements (c.run m).2 cs

structure Mapped (m : FileDiskManager) (es : List ExtentDescriptor) : Prop where
  valid : ∀ e ∈ es, e.validate = .ok ()
  apart : es.Pairwise PagesApart
  entries : ∀ x, x ∈ m.extentsByPageRange ↔ ∃ e ∈ es, x = (e.firstPageId, e)
  ordered : m.extentsByPageRange.Pairwise fun x y => y.2.last < x.1.toNat
  ranges : ∀ r, r ∈ m.allocatedPageRanges ↔ ∃ e ∈ es, r.1 = e.firstPageId ∧ r.2.toNat = e.last

theorem mapped_open (volume : Volume) (mode : PageIntegrityMode) :
    (openWithIntegrity volume mode).Mapped [] := by
  refine ⟨?_, .nil, ?_, .nil, ?_⟩
  · simp
  · simp [openWithIntegrity]
  · simp [openWithIntegrity]

variable {x : UInt64 × ExtentDescriptor}

theorem Mapped.entry (h : m.Mapped es) (hx : x ∈ m.extentsByPageRange) :
    x.2 ∈ es ∧ x.1 = x.2.firstPageId := by
  obtain ⟨e, he, rfl⟩ := (h.entries x).mp hx
  exact ⟨he, rfl⟩

variable {xs : List (UInt64 × ExtentDescriptor)}

theorem searchExtents_eq (p : PageId)
    (hvalid : ∀ x ∈ xs, x.2.validate = .ok () ∧ x.1 = x.2.firstPageId)
    (hordered : xs.Pairwise fun x y => y.2.last < x.1.toNat) :
    (∃ x ∈ xs, searchExtents p xs = .ok (some x.2) ∧ x.2.Covers p) ∨
      (searchExtents p xs = .ok none ∧ ∀ x ∈ xs, ¬ x.2.Covers p) := by
  induction xs with
  | nil => exact .inr ⟨rfl, by simp⟩
  | cons x xs ih =>
    obtain ⟨⟨hx, hkey⟩, hvalid⟩ := forall_mem_cons.mp hvalid
    obtain ⟨-, -, l, hlast, hl⟩ := validate_eq_ok hx
    rw [pairwise_cons] at hordered
    have hsearch : searchExtents p (x :: xs) =
        if x.1 ≤ p ∧ p ≤ l then .ok (some x.2)
        else if l < p then .ok none else searchExtents p xs := by
      rw [searchExtents, hlast]
      rfl
    have hinside : (x.1 ≤ p ∧ p ≤ l) ↔ x.2.Covers p := by
      rw [UInt64.le_iff_toNat_le, UInt64.le_iff_toNat_le, hl, hkey, Covers]
    rw [hsearch]
    by_cases hcovers : x.2.Covers p
    · exact .inl ⟨x, mem_cons_self, if_pos (hinside.mpr hcovers), hcovers⟩
    rw [if_neg fun hin => hcovers (hinside.mp hin)]
    by_cases hpast : l < p
    · -- every later extent ends below this one
      refine .inr ⟨if_pos hpast, forall_mem_cons.mpr ⟨hcovers, ?_⟩⟩
      rw [UInt64.lt_iff_toNat_lt, hl] at hpast
      intro y hy hcovered
      have hbelow := hordered.1 y hy
      have hle := hcovered.2
      have hfirst : x.1.toNat ≤ x.2.last := by
        rw [hkey]
        exact x.2.covers_first.2
      omega
    · rw [if_neg hpast]
      rcases ih hvalid hordered.2 with ⟨y, hy, hfound, hcovered⟩ | ⟨hnone, habsent⟩
      · exact .inl ⟨y, mem_cons_of_mem x hy, hfound, hcovered⟩
      · exact .inr ⟨hnone, forall_mem_cons.mpr ⟨hcovers, habsent⟩⟩

theorem Mapped.extentForPage (h : m.Mapped es) (p : PageId) :
    (∃ e ∈ es, m.extentForPage p = .ok (some e) ∧ e.Covers p) ∨
      (m.extentForPage p = .ok none ∧ ∀ e ∈ es, ¬ e.Covers p) := by
  have hvalid : ∀ x ∈ m.extentsByPageRange, x.2.validate = .ok () ∧ x.1 = x.2.firstPageId := by
    intro x hx
    obtain ⟨he, hkey⟩ := h.entry hx
    exact ⟨h.valid _ he, hkey⟩
  rcases searchExtents_eq p hvalid h.ordered with ⟨x, hx, hfound, hcovers⟩ | ⟨hnone, habsent⟩
  · exact .inl ⟨x.2, (h.entry hx).1, hfound, hcovers⟩
  · refine .inr ⟨hnone, ?_⟩
    intro e he
    exact habsent (e.firstPageId, e) ((h.entries _).mpr ⟨e, he, rfl⟩)

theorem Mapped.covers_unique (h : m.Mapped es) (he : e ∈ es) (hd : d ∈ es) (hp : e.Covers p)
    (hp' : d.Covers p) : e = d := by
  by_contra hne
  exact (h.apart.forall he hd hne).not_covers hp hp'

theorem Mapped.extentForPage_iff (h : m.Mapped es) :
    m.extentForPage p = .ok (some e) ↔ e ∈ es ∧ e.Covers p := by
  rcases h.extentForPage p with ⟨e', he', hfound, hcovers⟩ | ⟨hnone, habsent⟩
  · rw [hfound, Except.ok.injEq, Option.some.injEq]
    constructor
    · rintro rfl
      exact ⟨he', hcovers⟩
    · rintro ⟨he, hp⟩
      exact h.covers_unique he' he hcovers hp
  · rw [hnone]
    constructor
    · intro hsome
      cases hsome
    · rintro ⟨he, hp⟩
      exact absurd hp (habsent e he)

/-! ## Adding an extent -/

theorem mem_insertDescending {key : UInt64} (hne : ∀ x ∈ xs, x.1 ≠ key)
    (y : UInt64 × ExtentDescriptor) : y ∈ insertDescending key e xs ↔ y = (key, e) ∨ y ∈ xs := by
  induction xs with
  | nil => simp [insertDescending]
  | cons x xs ih =>
    obtain ⟨hx, hne⟩ := forall_mem_cons.mp hne
    rw [insertDescending]
    by_cases hlt : x.1 < key
    · rw [if_pos hlt]
      exact mem_cons
    · rw [if_neg hlt, if_neg hx, mem_cons, ih hne, mem_cons]
      exact or_left_comm

theorem key_ne_of_pagesApart (hkey : x.1 = x.2.firstPageId) (hapart : e.PagesApart x.2) :
    x.1 ≠ e.firstPageId := by
  intro heq
  have hcovers := x.2.covers_first
  rw [← hkey, heq] at hcovers
  exact hapart.not_covers e.covers_first hcovers

theorem ordered_insertDescending (hkeys : ∀ x ∈ xs, x.1 = x.2.firstPageId)
    (hordered : xs.Pairwise fun x y => y.2.last < x.1.toNat) (hapart : ∀ x ∈ xs, e.PagesApart x.2) :
    (insertDescending e.firstPageId e xs).Pairwise fun x y => y.2.last < x.1.toNat := by
  induction xs with
  | nil => exact pairwise_singleton _ _
  | cons x xs ih =>
    obtain ⟨hkey, hkeys⟩ := forall_mem_cons.mp hkeys
    obtain ⟨hx, hapart⟩ := forall_mem_cons.mp hapart
    have hfirst := x.2.covers_first.2
    rw [pairwise_cons] at hordered
    rw [insertDescending]
    by_cases hlt : x.1 < e.firstPageId
    · -- the new extent is above all others
      rw [if_pos hlt]
      rw [hkey, UInt64.lt_iff_toNat_lt] at hlt
      have hbelow : x.2.last < e.firstPageId.toNat := by
        rcases hx with hx | hx
        · have := e.covers_first.2
          omega
        · exact hx
      refine pairwise_cons.mpr ⟨forall_mem_cons.mpr ⟨hbelow, ?_⟩, pairwise_cons.mpr hordered⟩
      intro y hy
      have hly := hordered.1 y hy
      rw [hkey] at hly
      change y.2.last < e.firstPageId.toNat
      omega
    · rw [if_neg hlt, if_neg (key_ne_of_pagesApart hkey hx)]
      rw [UInt64.not_lt, UInt64.le_iff_toNat_le] at hlt
      have hnext := fun y hy => key_ne_of_pagesApart (hkeys y hy) (hapart y hy)
      refine pairwise_cons.mpr ⟨?_, ih hkeys hordered.2 hapart⟩
      intro y hy
      rcases (mem_insertDescending hnext y).mp hy with rfl | hy
      · rw [hkey] at hlt ⊢
        rcases hx with hx | hx
        · exact hx
        · omega
      · exact hordered.1 y hy

section

variable (h : m.Mapped es)
include h

theorem Mapped.validateExtentRegistration :
    m.validateExtentRegistration d = .ok () ↔ d.validate = .ok () ∧ ∀ e ∈ es, d.PagesApart e := by
  simp only [FileDiskManager.validateExtentRegistration, verifyExtentContiguity, ok_iff, mapError_eq_ok, forM_eq_ok]
  constructor
  · rintro ⟨hvalid, -, l', hl', hranges⟩
    obtain ⟨-, -, l, hlast, hl⟩ := validate_eq_ok hvalid
    rw [hlast, Except.ok.injEq] at hl'
    subst hl'
    refine ⟨hvalid, ?_⟩
    intro e he
    obtain ⟨-, -, r, -, hr⟩ := validate_eq_ok (h.valid e he)
    have hapart := hranges (e.firstPageId, r) ((h.ranges _).mpr ⟨e, he, rfl, hr⟩)
    rwa [UInt64.lt_iff_toNat_lt, UInt64.lt_iff_toNat_lt, hl, hr] at hapart
  · rintro ⟨hvalid, hapart⟩
    obtain ⟨-, -, l, hlast, hl⟩ := validate_eq_ok hvalid
    refine ⟨hvalid, hvalid, l, hlast, ?_⟩
    intro r hr
    obtain ⟨e, he, hfirst, hrlast⟩ := (h.ranges r).mp hr
    rw [UInt64.lt_iff_toNat_lt, UInt64.lt_iff_toNat_lt, hl, hrlast, hfirst]
    exact hapart e he

theorem Mapped.registerValidatedExtent (hvalid : d.validate = .ok ())
    (hapart : ∀ e ∈ es, d.PagesApart e) :
    ∃ m', registerValidatedExtent d m = (.ok (), m') ∧ m'.Mapped (es ++ [d]) ∧
      m'.volume = m.volume ∧ m'.pageIntegrityMode = m.pageIntegrityMode ∧
      m'.tempWriteQueueClass = m.tempWriteQueueClass := by
  obtain ⟨-, -, l, hlast, hl⟩ := validate_eq_ok hvalid
  have hrun : FileDiskManager.registerValidatedExtent d m = (.ok (), { m with
      extentsByPageRange := insertDescending d.firstPageId d m.extentsByPageRange
      allocatedPageRanges :=
        (m.allocatedPageRanges ++ [(d.firstPageId, l)]).insertionSort rangeOrder }) := by
    rw [FileDiskManager.registerValidatedExtent, modify_bind, hlast]
    rfl
  have hentryApart : ∀ x ∈ m.extentsByPageRange, d.PagesApart x.2 :=
    fun x hx => hapart _ (h.entry hx).1
  have hne : ∀ x ∈ m.extentsByPageRange, x.1 ≠ d.firstPageId :=
    fun x hx => key_ne_of_pagesApart (h.entry hx).2 (hentryApart x hx)
  refine ⟨_, hrun, ⟨?_, ?_, ?_, ?_, ?_⟩, rfl, rfl, rfl⟩
  · simp only [mem_append, mem_singleton]
    rintro e (he | rfl)
    · exact h.valid e he
    · exact hvalid
  · refine pairwise_append.mpr ⟨h.apart, pairwise_singleton _ _, ?_⟩
    intro e he d' hd'
    rw [mem_singleton.mp hd']
    exact (hapart e he).symm
  · intro x
    rw [mem_insertDescending hne, h.entries]
    simp only [mem_append, mem_singleton, or_and_right, exists_or, exists_eq_left]
    exact or_comm
  · exact ordered_insertDescending (fun x hx => (h.entry hx).2) h.ordered hentryApart
  · intro r
    have hperm := perm_insertionSort rangeOrder (m.allocatedPageRanges ++ [(d.firstPageId, l)])
    rw [hperm.mem_iff, mem_append, h.ranges, mem_singleton]
    simp only [mem_append, mem_singleton, or_and_right, exists_or, exists_eq_left]
    rw [Prod.ext_iff, ← hl, UInt64.toNat_inj]

theorem Mapped.run {c : ExtentCall} (hrun : c.run m = (.ok (), m')) :
    m'.Mapped (es ++ [c.placed m]) := by
  cases c with
  | register d =>
    rw [ExtentCall.run, registerExtent, get_bind] at hrun
    obtain ⟨_, hok, hrun⟩ := lift_bind_ok hrun
    obtain ⟨hvalid, hapart⟩ := h.validateExtentRegistration.mp hok
    obtain ⟨m₁, hdone, hmapped, -⟩ := h.registerValidatedExtent hvalid hapart
    rw [hdone] at hrun
    cases hrun
    exact hmapped
  | allocate d refused =>
    rw [ExtentCall.run, allocateExtent, get_bind] at hrun
    obtain ⟨_, hok, hrun⟩ := lift_bind_ok hrun
    obtain ⟨hvalid, hapart⟩ := h.validateExtentRegistration.mp hok
    obtain ⟨extentSize, -, hrun⟩ := lift_bind_ok hrun
    obtain ⟨fileSize, -, hrun⟩ := lift_bind_ok hrun
    rw [modify_bind] at hrun
    cases refused with
    | some reason => cases hrun
    | none =>
      rw [setFileLen, modify_bind] at hrun
      -- the checks do not look at the file offset
      have hmapped : Mapped { m with
          currentFileSize := fileSize
          volume := { m.volume with data := m.volume.data.setLen fileSize.toNat } } es :=
        ⟨h.valid, h.apart, h.entries, h.ordered, h.ranges⟩
      obtain ⟨m₁, hdone, hplaced, -⟩ := hmapped.registerValidatedExtent
        (d := { d with fileOffset := m.currentFileSize }) hvalid hapart
      rw [hdone] at hrun
      cases hrun
      exact hplaced

theorem Mapped.runs {cs : List ExtentCall} (hrun : each ExtentCall.run cs m = (.ok (), m')) :
    m'.Mapped (es ++ placements m cs) := by
  induction cs generalizing m es with
  | nil =>
    cases hrun
    rwa [placements, append_nil]
  | cons c cs ih =>
    rcases bind_cases hrun with ⟨err, -, herr⟩ | ⟨_, m₁, hfirst, hrest⟩
    · cases herr
    have hmapped := ih (h.run hfirst) hrest
    rwa [append_assoc, singleton_append, ← show (c.run m).2 = m₁ by rw [hfirst]] at hmapped

theorem Mapped.registerExtents {fs : List ExtentDescriptor}
    (hvalid : ∀ e ∈ fs, e.validate = .ok ()) (hapart : (es ++ fs).Pairwise PagesApart) :
    ∃ m', each registerExtent fs m = (.ok (), m') ∧ m'.Mapped (es ++ fs) ∧
      m'.volume = m.volume ∧ m'.pageIntegrityMode = m.pageIntegrityMode ∧
      m'.tempWriteQueueClass = m.tempWriteQueueClass := by
  induction fs generalizing m es with
  | nil => exact ⟨m, rfl, by rwa [append_nil], rfl, rfl, rfl⟩
  | cons d fs ih =>
    have hd := hvalid d mem_cons_self
    have hmeets : ∀ e ∈ es, d.PagesApart e := fun e he =>
      ((pairwise_append.mp hapart).2.2 e he d mem_cons_self).symm
    obtain ⟨m₁, hdone, hmapped, hvolume, hmode, hclass⟩ := h.registerValidatedExtent hd hmeets
    have hregister : registerExtent d m = (.ok (), m₁) := by
      rw [registerExtent, get_bind, h.validateExtentRegistration.mpr ⟨hd, hmeets⟩, lift_ok_bind]
      exact hdone
    rw [append_cons] at hapart
    obtain ⟨m₂, hrest, hmapped₂, hvolume₂, hmode₂, hclass₂⟩ :=
      ih hmapped (forall_mem_cons.mp hvalid).2 hapart
    refine ⟨m₂, ?_, ?_, hvolume₂.trans hvolume, hmode₂.trans hmode, hclass₂.trans hclass⟩
    · exact (bind_of_ok hregister).trans hrest
    · rwa [append_cons]

/-! ## Bytes of pages -/

theorem Mapped.pageToFileOffset (he : e ∈ es) (hcovers : e.Covers p) (a : UInt64) :
    m.pageToFileOffset p = .ok a ↔
      a.toNat = e.fileOffset.toNat + (p.toNat - e.firstPageId.toNat) * e.pageSize.bytes := by
  have hfound := h.extentForPage_iff.mpr ⟨he, hcovers⟩
  obtain ⟨index, hindex, hindexNat⟩ := checkedSub_of_le hcovers.1
  have hsize : (UInt64.ofNat e.pageSize.bytes).toNat = e.pageSize.bytes := by
    cases e.pageSize <;> rfl
  simp only [FileDiskManager.pageToFileOffset, hfound, hindex, ok_iff, Except.ok.injEq,
    exists_eq_left', Option.some.injEq, checkedMul_eq_some, checkedAdd_eq_some, hsize, hindexNat]
  constructor
  · rintro ⟨offset, hoffset, ha⟩
    rw [ha, hoffset]
  · intro ha
    have hlt : (p.toNat - e.firstPageId.toNat) * e.pageSize.bytes < UInt64.size := by
      have := a.toNat_lt
      rw [UInt64.size]
      omega
    refine ⟨UInt64.ofNat ((p.toNat - e.firstPageId.toNat) * e.pageSize.bytes), ?_, ?_⟩
    · rw [UInt64.toNat_ofNat_of_lt' hlt]
    · rw [UInt64.toNat_ofNat_of_lt' hlt, ha]

end

def PagesDisjoint (m : FileDiskManager) : Prop :=
  ∀ p q e e' a b, p ≠ q → m.extentForPage p = .ok (some e) → m.extentForPage q = .ok (some e') →
    m.pageToFileOffset p = .ok a → m.pageToFileOffset q = .ok b →
      a.toNat + e.pageSize.bytes ≤ b.toNat ∨ b.toNat + e'.pageSize.bytes ≤ a.toNat

theorem stride_le {i n size : Nat} (h : i + 1 ≤ n) : i * size + size ≤ n * size :=
  calc i * size + size = (i + 1) * size := (Nat.succ_mul i size).symm
    _ ≤ n * size := Nat.mul_le_mul_right size h

theorem page_le_fileLen (hvalid : e.validate = .ok ()) (hcovers : e.Covers p) :
    (p.toNat - e.firstPageId.toNat) * e.pageSize.bytes + e.pageSize.bytes ≤ e.fileLen := by
  obtain ⟨-, hcount, -⟩ := validate_eq_ok hvalid
  have hindex : p.toNat - e.firstPageId.toNat + 1 ≤ e.pageCount.toNat := by
    have hlast := hcovers.2
    rw [last] at hlast
    omega
  exact stride_le hindex

theorem page_le_page (hp : e.Covers p) (hlt : p.toNat < q.toNat) :
    (p.toNat - e.firstPageId.toNat) * e.pageSize.bytes + e.pageSize.bytes ≤
      (q.toNat - e.firstPageId.toNat) * e.pageSize.bytes := by
  have hindex : p.toNat - e.firstPageId.toNat + 1 ≤ q.toNat - e.firstPageId.toNat := by
    have := hp.1
    omega
  exact stride_le hindex

theorem Mapped.pagesDisjoint (h : m.Mapped es)
    (hfiles : ∀ e ∈ es, ∀ e' ∈ es, e ≠ e' → e.FileApart e') : m.PagesDisjoint := by
  intro p q e e' a b hne hp hq ha hb
  obtain ⟨he, hcovers⟩ := h.extentForPage_iff.mp hp
  obtain ⟨he', hcovers'⟩ := h.extentForPage_iff.mp hq
  rw [h.pageToFileOffset he hcovers] at ha
  rw [h.pageToFileOffset he' hcovers'] at hb
  by_cases heq : e = e'
  · subst heq
    have hpq : p.toNat ≠ q.toNat := fun heq => hne (UInt64.toNat_inj.mp heq)
    rcases Nat.lt_or_gt_of_ne hpq with hlt | hgt
    · have := page_le_page hcovers hlt
      omega
    · have := page_le_page hcovers' hgt
      omega
  · have hin := page_le_fileLen (h.valid e he) hcovers
    have hin' := page_le_fileLen (h.valid e' he') hcovers'
    rcases hfiles e he e' he' heq with hapart | hapart
    · omega
    · omega

theorem Mapped.not_pagesDisjoint (h : m.Mapped es) (he : e ∈ es) (hd : d ∈ es)
    (hapart : e.PagesApart d) (hle : e.fileOffset.toNat ≤ d.fileOffset.toNat)
    (hlt : d.fileOffset.toNat < e.fileOffset.toNat + e.fileLen) : ¬ m.PagesDisjoint := by
  intro hdisjoint
  have hbytes : ∀ s : PageSize, 0 < s.bytes := by
    intro s
    cases s <;> decide
  -- the page of `e` that holds the byte at which `d` begins
  generalize hk : (d.fileOffset.toNat - e.fileOffset.toNat) / e.pageSize.bytes = k
  have hkcount : k < e.pageCount.toNat := by
    rw [← hk, Nat.div_lt_iff_lt_mul (hbytes _)]
    rw [fileLen] at hlt
    omega
  have hkle : k * e.pageSize.bytes ≤ d.fileOffset.toNat - e.fileOffset.toNat := by
    rw [← hk]
    exact Nat.div_mul_le_self _ _
  have hklt : d.fileOffset.toNat - e.fileOffset.toNat < k * e.pageSize.bytes + e.pageSize.bytes := by
    rw [← hk]
    exact Nat.lt_div_mul_add (hbytes _)
  obtain ⟨-, -, l, -, hl⟩ := validate_eq_ok (h.valid e he)
  have hlast := l.toNat_lt
  rw [hl, last] at hlast
  have hpNat : (UInt64.ofNat (e.firstPageId.toNat + k)).toNat = e.firstPageId.toNat + k := by
    apply UInt64.toNat_ofNat_of_lt'
    rw [UInt64.size]
    omega
  have hp : e.Covers (UInt64.ofNat (e.firstPageId.toNat + k)) := by
    rw [Covers, hpNat, last]
    omega
  have haNat : (UInt64.ofNat (e.fileOffset.toNat + k * e.pageSize.bytes)).toNat =
      e.fileOffset.toNat + k * e.pageSize.bytes := by
    apply UInt64.toNat_ofNat_of_lt'
    have := d.fileOffset.toNat_lt
    rw [UInt64.size]
    omega
  have hne : UInt64.ofNat (e.firstPageId.toNat + k) ≠ d.firstPageId := by
    intro heq
    rw [heq] at hp
    exact hapart.not_covers hp d.covers_first
  have ha : m.pageToFileOffset (UInt64.ofNat (e.firstPageId.toNat + k)) =
      .ok (UInt64.ofNat (e.fileOffset.toNat + k * e.pageSize.bytes)) := by
    rw [h.pageToFileOffset he hp, haNat, hpNat, Nat.add_sub_cancel_left]
  have hb : m.pageToFileOffset d.firstPageId = .ok d.fileOffset := by
    rw [h.pageToFileOffset hd d.covers_first, Nat.sub_self, Nat.zero_mul, Nat.add_zero]
  have hd0 := hbytes d.pageSize
  have hfoundE := h.extentForPage_iff.mpr ⟨he, hp⟩
  have hfoundD := h.extentForPage_iff.mpr ⟨hd, d.covers_first⟩
  have hsides := hdisjoint _ _ e d _ _ hne hfoundE hfoundD ha hb
  rw [haNat] at hsides
  omega

/-- Whatever extents were added, every page id is found in the one that contains it or in none;
and pages keep apart in the file exactly when the extents were placed apart. -/
theorem page_ranges_of_placements (volume : Volume) (mode : PageIntegrityMode)
    (cs : List ExtentCall)
    (hrun : each ExtentCall.run cs (openWithIntegrity volume mode) = (.ok (), m)) :
    (∀ p, (∃ e ∈ placements (openWithIntegrity volume mode) cs,
          m.extentForPage p = .ok (some e) ∧ e.Covers p ∧
            ∀ e' ∈ placements (openWithIntegrity volume mode) cs, e'.Covers p → e' = e) ∨
        (m.extentForPage p = .ok none ∧
          ∀ e ∈ placements (openWithIntegrity volume mode) cs, ¬ e.Covers p)) ∧
      (m.PagesDisjoint ↔ (placements (openWithIntegrity volume mode) cs).Pairwise FileApart) := by
  have h := (mapped_open volume mode).runs hrun
  rw [nil_append] at h
  refine ⟨?_, ?_, ?_⟩
  · intro p
    rcases h.extentForPage p with ⟨e, he, hfound, hcovers⟩ | hnone
    · exact .inl ⟨e, he, hfound, hcovers, fun e' he' hp => h.covers_unique he' he hp hcovers⟩
    · exact .inr hnone
  · intro hdisjoint
    refine h.apart.imp_of_mem ?_
    intro e d he hd hapart
    by_contra hshared
    rw [FileApart, not_or, Nat.not_le, Nat.not_le] at hshared
    rcases Nat.le_total e.fileOffset.toNat d.fileOffset.toNat with hle | hle
    · exact h.not_pagesDisjoint he hd hapart hle hshared.1 hdisjoint
    · exact h.not_pagesDisjoint hd he hapart.symm hle hshared.2 hdisjoint
  · intro hfiles
    exact h.pagesDisjoint fun e he e' he' hne => hfiles.forall he he' hne

def sampleExtent (extentId : UInt64) (firstPageId : PageId) (pageCount : UInt32)
    (fileOffset : UInt64) : ExtentDescriptor :=
  ⟨extentId, 1, 1, firstPageId, pageCount, .kiB16, .allocatingHot, none, fileOffset⟩

def emptyVolume : Volume := ⟨.stable [], fun _ => none⟩

/-- Two extents allocated one after the other. -/
theorem page_ranges_of_placements_allocated : ∃ m, each ExtentCall.run
        [.allocate (sampleExtent 1 1 10 0) none, .allocate (sampleExtent 2 11 5 0) none]
        (openWithIntegrity emptyVolume .none) = (.ok (), m) ∧ m.PagesDisjoint := by
  have hrun : ∃ m, each ExtentCall.run
      [.allocate (sampleExtent 1 1 10 0) none, .allocate (sampleExtent 2 11 5 0) none]
      (openWithIntegrity emptyVolume .none) = (.ok (), m) := ⟨_, rfl⟩
  obtain ⟨m, hrun⟩ := hrun
  exact ⟨m, hrun, (page_ranges_of_placements emptyVolume .none _ hrun).2.mpr (by decide +kernel)⟩

/-- Two extents registered at the same file offset: both calls succeed, and pages 1 and 11 are the
same bytes. So are they when an extent is registered at the end of the file and the next one is
allocated there. -/
theorem registered_pages_share_bytes : (∃ m, each ExtentCall.run
        [.register (sampleExtent 1 1 10 0), .register (sampleExtent 2 11 10 0)]
        (openWithIntegrity emptyVolume .none) = (.ok (), m) ∧ ¬ m.PagesDisjoint) ∧
      ∃ m, each ExtentCall.run
        [.register (sampleExtent 1 1 10 0), .allocate (sampleExtent 2 11 10 0) none]
        (openWithIntegrity emptyVolume .none) = (.ok (), m) ∧ ¬ m.PagesDisjoint := by
  refine ⟨⟨_, rfl, ?_⟩, _, rfl, ?_⟩
  all_goals
    intro hdisjoint
    have hapart := hdisjoint 1 11 (sampleExtent 1 1 10 0) (sampleExtent 2 11 10 0) 0 0
      (by decide) (by decide +kernel) (by decide +kernel) (by decide +kernel) (by decide +kernel)
    exact absurd hapart (by decide)

end FileDiskManager

end Andromeda
