import Andromeda.DiskStore.StoredPages

/-!
# Disk and memory

The two page stores under the same calls. They answer alike as long as a page is allocated once,
is written only after that, and has a layout the codec keeps; the store on disk checks none of
this, and an allocation repeated there wipes the page.
-/

namespace Andromeda

open Fallible LittleEndian PageCodecV1 FileDiskManager PageImage Effect List

inductive StoreCall where
  | read (pageId : PageId)
  | write (image : PageImage) (durableLsn : Lsn)
  | allocate (layout : PageLayoutContract) (durableLsn : Lsn)

def StoreCall.run {σ : Type} [PageStore σ] : StoreCall → σ → Except Error (Option PageImage) × σ
  | read pageId, s => (PageStore.readPage s pageId, s)
  | write image durableLsn, s =>
    let r := PageStore.writePage image durableLsn s
    (r.1.map fun _ => none, r.2)
  | allocate layout durableLsn, s =>
    let r := PageStore.allocatePage layout durableLsn s
    (r.1.map some, r.2)

/-- Both succeed, with the same page if there is one, or both fail. -/
def SameAnswer : Except Error (Option PageImage) → Except Error (Option PageImage) → Prop
  | .ok none, .ok none => True
  | .ok (some i), .ok (some j) => i.SamePage j
  | .error _, .error _ => True
  | _, _ => False

def Agree {σ τ : Type} [PageStore σ] [PageStore τ] (s : σ) (t : τ) : List StoreCall → Prop
  | [] => True
  | c :: cs => SameAnswer (c.run s).1 (c.run t).1 ∧ Agree (c.run s).2 (c.run t).2 cs

def StoreCall.pageId : StoreCall → Option PageId
  | read pageId => some pageId
  | write image _ => image.pageId
  | allocate layout _ => some layout.header.pageId

/-! ## Admitted calls -/

/-- What both stores ask of an image: its size, a layout, and the log at its page LSN. -/
def PageImage.Admitted (image : PageImage) (pageSize : PageSize) (durableLsn : Lsn) : Prop :=
  image.pageSize = pageSize ∧ ∃ c, image.layoutContract = some c ∧ c.header.pageLsn ≤ durableLsn

def PageLayoutContract.Admitted (c : PageLayoutContract) (pageSize : PageSize)
    (durableLsn : Lsn) : Prop :=
  c.header.pageSize = pageSize ∧ c.validate = .ok () ∧ c.header.pageLsn ≤ durableLsn

open PageLayoutContract

variable {c : PageLayoutContract}

theorem PageLayoutContract.pageId_ne_zero (h : c.validate = .ok ()) : c.header.pageId ≠ 0 := by
  simp only [validate, PageHeader.validate, PageHeader.validateIdentity, ok_iff] at h
  exact h.1.1.2.2.1

def PageLayoutContract.zeroed (c : PageLayoutContract) (h : c.validate = .ok ()) : PageImage :=
  ⟨c.header.pageSize, List.replicate c.header.pageSize.bytes 0, some c, length_replicate,
    layout_valid_some h⟩

theorem PageImage.zeroedWithLayout_eq (h : c.validate = .ok ()) :
    zeroedWithLayout c = .ok (c.zeroed h) := by
  simp only [zeroedWithLayout, ok_iff, withLayout_eq_ok]
  exact ⟨h, h, length_replicate, rfl, rfl, rfl⟩

theorem PageImage.of_zeroedWithLayout {image : PageImage} (h : zeroedWithLayout c = .ok image) :
    c.validate = .ok () ∧ image.layoutContract = some c := by
  simp only [zeroedWithLayout, ok_iff, withLayout_eq_ok] at h
  obtain ⟨hvalid, -, -, -, -, hlayout⟩ := h
  exact ⟨hvalid, hlayout⟩

theorem not_lt_and_ne_zero {a b : UInt64} : ¬ (a ≠ 0 ∧ b < a) ↔ a ≤ b := by
  rw [not_and, UInt64.not_lt]
  constructor
  · intro h
    by_cases hzero : a = 0
    · rw [hzero, UInt64.le_iff_toNat_le]
      exact Nat.zero_le _
    · exact h hzero
  · exact fun h _ => h

namespace InMemoryPageStore

variable {t : InMemoryPageStore} {c : PageLayoutContract} {image : PageImage} {durableLsn : Lsn}

@[simp] theorem pages_insert_self (p : PageId) : (t.insert p image).pages p = some image := by
  exact Function.update_self p _ t.pages

theorem pages_insert_of_ne {p q : PageId} (h : q ≠ p) : (t.insert p image).pages q = t.pages q := by
  exact Function.update_of_ne h _ t.pages

theorem validateImageForStore_iff {p : PageId} : t.validateImageForStore image = .ok p ↔
      image.pageSize = t.pageSize ∧ ∃ c, image.layoutContract = some c ∧ c.header.pageId = p := by
  simp only [validateImageForStore, validatePageId, ok_iff]
  refine and_congr_right fun _ => exists_congr fun c => and_congr_right fun hc => ?_
  have hvalid := (image.layout_valid c hc).1
  simp [hvalid, pageId_ne_zero hvalid]

theorem validateWalBeforePageFlush_iff (hlayout : image.layoutContract = some c) :
    validateWalBeforePageFlush image durableLsn = .ok () ↔ c.header.pageLsn ≤ durableLsn := by
  simp only [validateWalBeforePageFlush, pageLsn, hlayout, Option.map_some, ok_iff,
    Option.some.injEq, exists_eq_left', not_lt_and_ne_zero]

theorem writePage_of_admitted (hsize : image.pageSize = t.pageSize)
    (hlayout : image.layoutContract = some c) (hlsn : c.header.pageLsn ≤ durableLsn)
    (hpage : (t.pages c.header.pageId).isSome) :
    writePage image durableLsn t = (.ok (), t.insert c.header.pageId image) := by
  have hpresent : ¬ ((t.pages c.header.pageId).isNone = true) := by
    rw [Option.isNone_iff_eq_none]
    exact Option.isSome_iff_ne_none.mp hpage
  rw [writePage, get_bind, validateImageForStore_iff.mpr ⟨hsize, c, hlayout, rfl⟩,
    lift_ok_bind, (validateWalBeforePageFlush_iff hlayout).mpr hlsn, lift_ok_bind,
    failIf, if_neg hpresent]
  rfl

theorem writePage_of_not_admitted (h : ¬ image.Admitted t.pageSize durableLsn) :
    ∃ err, writePage image durableLsn t = (.error err, t) := by
  rw [writePage, get_bind]
  refine lift_bind_refuses fun p hvalid => lift_bind_refuses fun _ hwal => ?_
  obtain ⟨hsize, c, hlayout, -⟩ := validateImageForStore_iff.mp hvalid
  exact absurd ⟨hsize, c, hlayout, (validateWalBeforePageFlush_iff hlayout).mp hwal⟩ h

theorem allocatePage_of_admitted (hsize : c.header.pageSize = t.pageSize)
    (hvalid : c.validate = .ok ()) (hlsn : c.header.pageLsn ≤ durableLsn)
    (hpage : t.pages c.header.pageId = none) : allocatePage c durableLsn t =
      (.ok (c.zeroed hvalid), t.insert c.header.pageId (c.zeroed hvalid)) := by
  have hlayout : (c.zeroed hvalid).layoutContract = some c := rfl
  have hcheck : t.validateImageForStore (c.zeroed hvalid) = .ok c.header.pageId :=
    validateImageForStore_iff.mpr ⟨hsize, c, hlayout, rfl⟩
  rw [allocatePage, get_bind, failIf_bind (not_not.mpr hsize),
    zeroedWithLayout_eq hvalid, lift_ok_bind, hcheck, lift_ok_bind,
    (validateWalBeforePageFlush_iff hlayout).mpr hlsn, lift_ok_bind, failIf, hpage]
  rfl

theorem allocatePage_refused
    (h : ¬ c.Admitted t.pageSize durableLsn ∨ (t.pages c.header.pageId).isSome) :
    ∃ err, allocatePage c durableLsn t = (.error err, t) := by
  rw [allocatePage, get_bind]
  refine lift_bind_refuses fun _ hsize => lift_bind_refuses fun image himage =>
    lift_bind_refuses fun p hid => lift_bind_refuses fun _ hwal =>
      lift_bind_refuses fun _ habsent => ?_
  obtain ⟨hvalid, hlayout⟩ := of_zeroedWithLayout himage
  obtain ⟨-, c', hlayout', rfl⟩ := validateImageForStore_iff.mp hid
  obtain rfl : c' = c := Option.some.inj (hlayout'.symm.trans hlayout)
  rw [failIf_eq_ok] at hsize habsent
  rcases h with hrejected | hpage
  · exact absurd ⟨not_not.mp hsize, hvalid, (validateWalBeforePageFlush_iff hlayout).mp hwal⟩
      hrejected
  · exact absurd hpage habsent

end InMemoryPageStore

open InMemoryPageStore hiding new

namespace DiskPageStore

variable {d : PageDigest} {s s' : DiskPageStore d} {es : List ExtentDescriptor}
  {e : ExtentDescriptor} {p : PageId} {c : PageLayoutContract} {image : PageImage} {durableLsn : Lsn}

theorem validateImageForStore_iff : s.validateImageForStore image = .ok c ↔
      image.pageSize = s.pageSize ∧ image.layoutContract = some c := by
  simp only [validateImageForStore, validatePageId, ok_iff]
  refine and_congr_right fun _ => ?_
  constructor
  · rintro ⟨c', hc', -, -, rfl⟩
    exact hc'
  · intro hc
    have hvalid := (image.layout_valid c hc).1
    exact ⟨c, hc, hvalid, pageId_ne_zero hvalid, rfl⟩

theorem validateWalBeforePageFlush_iff (hlayout : image.layoutContract = some c) :
    validateWalBeforePageFlush image durableLsn = .ok () ↔ c.header.pageLsn ≤ durableLsn := by
  simp [validateWalBeforePageFlush, pageLsn, hlayout, validatePageFlushBoundary]

theorem Ready.writePage_of_admitted (h : s.Ready es) (he : e ∈ es) (hcovers : e.Covers c.header.pageId)
    (hstore : Storable c.header) (hsize : image.pageSize = s.pageSize)
    (hlayout : image.layoutContract = some c) (hlsn : c.header.pageLsn ≤ durableLsn) :
    ∃ s', writePage image durableLsn s = (.ok (), s') ∧ Stored es c.header.pageId image s s' := by
  obtain ⟨encoded, s', hencode, -, hwrite, hstored⟩ := h.put he hcovers hlayout hsize hstore hlsn
  refine ⟨s', ?_, hstored⟩
  rw [writePage, get_bind, validateImageForStore_iff.mpr ⟨hsize, hlayout⟩,
    lift_ok_bind, (validateWalBeforePageFlush_iff hlayout).mpr hlsn, lift_ok_bind,
    h.mapped.extentForPage_iff.mpr ⟨he, hcovers⟩, lift_ok_bind, failIf_bind (by simp), hencode,
    lift_ok_bind]
  exact hwrite

theorem writePage_of_not_admitted (h : ¬ image.Admitted s.pageSize durableLsn) :
    ∃ err, writePage image durableLsn s = (.error err, s) := by
  rw [writePage, get_bind]
  refine lift_bind_refuses fun c hvalid => lift_bind_refuses fun _ hwal => ?_
  obtain ⟨hsize, hlayout⟩ := validateImageForStore_iff.mp hvalid
  exact absurd ⟨hsize, c, hlayout, (validateWalBeforePageFlush_iff hlayout).mp hwal⟩ h

theorem Ready.allocatePage_of_admitted (h : s.Ready es) (he : e ∈ es)
    (hcovers : e.Covers c.header.pageId) (hstore : Storable c.header)
    (hsize : c.header.pageSize = s.pageSize) (hvalid : c.validate = .ok ())
    (hlsn : c.header.pageLsn ≤ durableLsn) :
    ∃ durable s', allocatePage c durableLsn s = (.ok durable, s') ∧
      durable.SamePage (c.zeroed hvalid) ∧ Stored es c.header.pageId (c.zeroed hvalid) s s' := by
  have hlayout : (c.zeroed hvalid).layoutContract = some c := rfl
  obtain ⟨encoded, s', hencode, hsame, hwrite, hstored⟩ := h.put he hcovers hlayout hsize hstore hlsn
  refine ⟨encoded, s', ?_, hsame, hstored⟩
  have hid : validatePageId c.header.pageId = .ok () := by
    rw [validatePageId, failIf_eq_ok]
    exact pageId_ne_zero hvalid
  rw [allocatePage, get_bind, failIf_bind (not_not.mpr hsize), hvalid,
    lift_ok_bind, hid, lift_ok_bind, zeroedWithLayout_eq hvalid,
    lift_ok_bind, (validateWalBeforePageFlush_iff hlayout).mpr hlsn, lift_ok_bind,
    h.mapped.extentForPage_iff.mpr ⟨he, hcovers⟩, lift_ok_bind, failIf_bind (by simp), hencode,
    lift_ok_bind, bind_of_ok hwrite]
  rfl

theorem allocatePage_of_not_admitted (h : ¬ c.Admitted s.pageSize durableLsn) :
    ∃ err, allocatePage c durableLsn s = (.error err, s) := by
  rw [allocatePage, get_bind]
  refine lift_bind_refuses fun _ hsize => lift_bind_refuses fun _ hvalid =>
    lift_bind_refuses fun _ _ => lift_bind_refuses fun image himage =>
      lift_bind_refuses fun _ hwal => ?_
  have hlayout := (of_zeroedWithLayout himage).2
  exact absurd ⟨not_not.mp (failIf_eq_ok.mp hsize), hvalid,
    (validateWalBeforePageFlush_iff hlayout).mp hwal⟩ h

/-! ## One store follows the other -/

structure Tracks (es : List ExtentDescriptor) (s : DiskPageStore d) (t : InMemoryPageStore) :
    Prop where
  ready : s.Ready es
  pageSize : t.pageSize = s.pageSize
  absent : ∀ e ∈ es, ∀ p, e.Covers p → t.pages p = none → (s.region e p).all (· = 0) = true
  present : ∀ e ∈ es, ∀ p, e.Covers p → ∀ image, t.pages p = some image →
    Encodes d s.manager.pageIntegrityMode (s.region e p) p image

variable {t : InMemoryPageStore}

theorem Tracks.insert (h : Tracks es s t) (hstored : Stored es p image s s') :
    Tracks es s' (t.insert p image) := by
  refine ⟨hstored.ready, h.pageSize.trans hstored.pageSize.symm, ?_, ?_⟩
  · intro e he q hq hnone
    by_cases hqp : q = p
    · subst hqp
      rw [pages_insert_self] at hnone
      cases hnone
    · rw [pages_insert_of_ne hqp] at hnone
      rw [hstored.others e he q hq hqp]
      exact h.absent e he q hq hnone
  · intro e he q hq image' hsome
    rw [hstored.mode]
    by_cases hqp : q = p
    · subst hqp
      rw [pages_insert_self] at hsome
      cases hsome
      exact hstored.encodes e he hq
    · rw [pages_insert_of_ne hqp] at hsome
      rw [hstored.others e he q hq hqp]
      exact h.present e he q hq image' hsome

end DiskPageStore

/-- The page of a call, if there is one, is in one of the extents. -/
def StoreCall.Inside (es : List ExtentDescriptor) (c : StoreCall) : Prop :=
  ∀ p, c.pageId = some p → ∃ e ∈ es, e.Covers p

/-- A page is allocated once and written only after that, with a layout the codec keeps. -/
def StoreCall.Orderly (t : InMemoryPageStore) : StoreCall → Prop
  | read _ => True
  | write image _ => ∀ c, image.layoutContract = some c →
      Storable c.header ∧ (t.pages c.header.pageId).isSome
  | allocate layout _ => Storable layout.header ∧ t.pages layout.header.pageId = none

def OrderlyRun (t : InMemoryPageStore) : List StoreCall → Prop
  | [] => True
  | c :: cs => c.Orderly t ∧ OrderlyRun (c.run t).2 cs

namespace DiskPageStore

variable {d : PageDigest} {s : DiskPageStore d} {es : List ExtentDescriptor} {t : InMemoryPageStore}

theorem Tracks.step (h : Tracks es s t) {c : StoreCall} (hinside : c.Inside es)
    (horderly : c.Orderly t) :
    SameAnswer (c.run s).1 (c.run t).1 ∧ Tracks es (c.run s).2 (c.run t).2 := by
  cases c with
  | read p =>
    obtain ⟨e, he, hcovers⟩ := hinside p rfl
    have hmem : t.readPage p = .ok (t.pages p) := by
      simp only [InMemoryPageStore.readPage, InMemoryPageStore.validatePageId, ok_iff]
      exact ⟨h.ready.page_ne_zero he hcovers, trivial⟩
    refine ⟨?_, h⟩
    change SameAnswer (s.readPage p) (t.readPage p)
    rw [hmem]
    cases hpage : t.pages p with
    | none =>
      rw [h.ready.readPage_of_zero he hcovers (h.absent e he p hcovers hpage)]
      trivial
    | some image =>
      obtain ⟨found, hread, hsame⟩ :=
        h.ready.readPage_of_encodes he hcovers (h.present e he p hcovers image hpage)
      rw [hread]
      exact hsame
  | write image durableLsn =>
    by_cases hadmitted : image.Admitted s.pageSize durableLsn
    · obtain ⟨hsize, c, hlayout, hlsn⟩ := hadmitted
      obtain ⟨hstore, hpage⟩ := horderly c hlayout
      obtain ⟨e, he, hcovers⟩ := hinside c.header.pageId (by
        rw [StoreCall.pageId, pageId, hlayout]
        rfl)
      obtain ⟨s', hdisk, hstored⟩ :=
        h.ready.writePage_of_admitted he hcovers hstore hsize hlayout hlsn
      have hmem := writePage_of_admitted (hsize.trans h.pageSize.symm) hlayout hlsn hpage
      simp only [StoreCall.run, PageStore.writePage, hdisk, hmem]
      exact ⟨trivial, h.insert hstored⟩
    · obtain ⟨err, hdisk⟩ := writePage_of_not_admitted hadmitted
      rw [← h.pageSize] at hadmitted
      obtain ⟨err', hmem⟩ := InMemoryPageStore.writePage_of_not_admitted hadmitted
      simp only [StoreCall.run, PageStore.writePage, hdisk, hmem]
      exact ⟨trivial, h⟩
  | allocate layout durableLsn =>
    obtain ⟨hstore, hpage⟩ := horderly
    obtain ⟨e, he, hcovers⟩ := hinside layout.header.pageId rfl
    by_cases hadmitted : layout.Admitted s.pageSize durableLsn
    · obtain ⟨hsize, hvalid, hlsn⟩ := hadmitted
      obtain ⟨durable, s', hdisk, hsame, hstored⟩ :=
        h.ready.allocatePage_of_admitted he hcovers hstore hsize hvalid hlsn
      have hmem := allocatePage_of_admitted (hsize.trans h.pageSize.symm) hvalid hlsn hpage
      simp only [StoreCall.run, PageStore.allocatePage, hdisk, hmem]
      exact ⟨hsame, h.insert hstored⟩
    · obtain ⟨err, hdisk⟩ := allocatePage_of_not_admitted hadmitted
      rw [← h.pageSize] at hadmitted
      obtain ⟨err', hmem⟩ := allocatePage_refused (.inl hadmitted)
      simp only [StoreCall.run, PageStore.allocatePage, hdisk, hmem]
      exact ⟨trivial, h⟩

theorem Tracks.agree (h : Tracks es s t) {cs : List StoreCall} (hinside : ∀ c ∈ cs, c.Inside es)
    (horderly : OrderlyRun t cs) : Agree s t cs := by
  induction cs generalizing s t with
  | nil => trivial
  | cons c cs ih =>
    obtain ⟨hanswer, hnext⟩ := h.step (hinside c mem_cons_self) horderly.1
    exact ⟨hanswer, ih hnext (forall_mem_cons.mp hinside).2 horderly.2⟩

/-- The store on disk, its extents blank, answers like a new store in memory to every orderly run
on pages of the extents. -/
theorem disk_agrees_with_memory (hready : s.Ready es)
    (hblank : ∀ e ∈ es, ∀ p, e.Covers p → (s.region e p).all (· = 0) = true)
    (cs : List StoreCall) (hinside : ∀ c ∈ cs, c.Inside es)
    (horderly : OrderlyRun (InMemoryPageStore.new s.pageSize) cs) :
    Agree s (InMemoryPageStore.new s.pageSize) cs := by
  have htracks : Tracks es s (InMemoryPageStore.new s.pageSize) := by
    refine ⟨hready, rfl, ?_, ?_⟩
    · intro e he p hp _
      exact hblank e he p hp
    · intro e he p hp image hsome
      cases hsome
  exact htracks.agree hinside horderly

/-! ## A page allocated, written, and allocated again -/

def codecLayout : PageLayoutContract :=
  { blankLayout 1 with header := { (blankLayout 1).header with
      headerLen := 112, payloadOffset := 112, freeStart := 112, freeEnd := 1112 } }

theorem codecLayout_valid : codecLayout.validate = .ok () := by decide +kernel

theorem codecLayout_storable : Storable codecLayout.header :=
  ⟨rfl, rfl, by decide, by decide, by decide⟩

def codecOnes : PageImage := filledImage codecLayout codecLayout_valid 1

def onePageStore (d : PageDigest) : DiskPageStore d :=
  (allocateExtent (sampleExtent 1 1 1 0) none (newWithIntegrity d emptyVolume .none)).2

theorem onePageStore_manager (d : PageDigest) : (onePageStore d).manager = onePageManager := by
  rw [onePageStore, allocateExtent, modify_bind, onManager, Effect.zoom, newWithIntegrity,
    onePageManager]

theorem onePageStore_ready (d : PageDigest) : (onePageStore d).Ready [sampleExtent 1 1 1 0] := by
  have hlen : (onePageStore d).manager.volume.data.seen.length = 16384 := by
    rw [onePageStore_manager, onePageManager_seen, length_replicate]
    rfl
  refine ⟨?_, pairwise_singleton _ _, ?_, ?_, ?_, ?_⟩
  · rw [onePageStore_manager]
    exact onePageManager_mapped
  · intro e he
    rw [mem_singleton.mp he]
    rfl
  · rw [onePageStore_manager]
    decide
  · intro e he
    rw [mem_singleton.mp he, hlen]
    decide
  · rw [hlen]
    decide

theorem onePageStore_blank (d : PageDigest) (e : ExtentDescriptor) (p : PageId) :
    ((onePageStore d).region e p).all (· = 0) = true := by
  rw [region, onePageStore_manager, onePageManager_seen, all_eq_true]
  intro b hb
  have hmem := mem_of_mem_drop (mem_of_mem_take hb)
  exact decide_eq_true (eq_of_mem_replicate hmem)

theorem onePageStore_pageSize (d : PageDigest) : (onePageStore d).pageSize = .kiB16 := by
  rw [onePageStore, allocateExtent, modify_bind, onManager, Effect.zoom]
  rfl

theorem codec_covered : (sampleExtent 1 1 1 0).Covers codecLayout.header.pageId :=
  ExtentDescriptor.covers_first _

def allocatedMemory : InMemoryPageStore :=
  (InMemoryPageStore.new .kiB16).insert 1 (codecLayout.zeroed codecLayout_valid)

theorem new_allocatePage : InMemoryPageStore.allocatePage codecLayout 1 (.new .kiB16) =
    (.ok (codecLayout.zeroed codecLayout_valid), allocatedMemory) :=
  allocatePage_of_admitted rfl codecLayout_valid (UInt64.le_refl 1) rfl

theorem allocatedMemory_writePage : InMemoryPageStore.writePage codecOnes 1 allocatedMemory =
    (.ok (), allocatedMemory.insert 1 codecOnes) :=
  writePage_of_admitted (c := codecLayout) rfl rfl (UInt64.le_refl 1) rfl

def constantDigest : PageDigest := ⟨fun _ => List.replicate 32 7, fun _ => rfl⟩

theorem disk_agrees_with_memory_written :
    Agree (onePageStore constantDigest) (InMemoryPageStore.new .kiB16)
      [.allocate codecLayout 1, .write codecOnes 1, .read 1] := by
  have hinside : ∀ c ∈ [StoreCall.allocate codecLayout 1, .write codecOnes 1, .read 1],
      c.Inside [sampleExtent 1 1 1 0] := by
    intro c hc p hp
    refine ⟨_, mem_singleton.mpr rfl, ?_⟩
    simp only [mem_cons, not_mem_nil, or_false] at hc
    rcases hc with rfl | rfl | rfl <;> cases hp <;> exact codec_covered
  have horderly : OrderlyRun (InMemoryPageStore.new .kiB16)
      [.allocate codecLayout 1, .write codecOnes 1, .read 1] := by
    refine ⟨⟨codecLayout_storable, rfl⟩, ?_, trivial, trivial⟩
    simp only [StoreCall.run, PageStore.allocatePage, new_allocatePage]
    intro c hc
    cases hc
    exact ⟨codecLayout_storable, rfl⟩
  have hagree := disk_agrees_with_memory (onePageStore_ready constantDigest)
    (fun e _ p _ => onePageStore_blank constantDigest e p)
    [.allocate codecLayout 1, .write codecOnes 1, .read 1] hinside
  rw [onePageStore_pageSize] at hagree
  exact hagree horderly

theorem codec_writePage (hready : s.Ready [sampleExtent 1 1 1 0]) (hsize : s.pageSize = .kiB16) :
    ∃ s', writePage codecOnes 1 s = (.ok (), s') ∧ Stored [sampleExtent 1 1 1 0] 1 codecOnes s s' :=
  hready.writePage_of_admitted (c := codecLayout) mem_cons_self codec_covered
    codecLayout_storable hsize.symm rfl (UInt64.le_refl 1)

theorem codec_allocatePage (hready : s.Ready [sampleExtent 1 1 1 0]) (hsize : s.pageSize = .kiB16) :
    ∃ durable s', allocatePage codecLayout 1 s = (.ok durable, s') ∧
      Stored [sampleExtent 1 1 1 0] 1 (codecLayout.zeroed codecLayout_valid) s s' := by
  obtain ⟨durable, s', hrun, -, hstored⟩ := hready.allocatePage_of_admitted mem_cons_self
    codec_covered codecLayout_storable hsize.symm codecLayout_valid (UInt64.le_refl 1)
  exact ⟨durable, s', hrun, hstored⟩

def stateAfter {σ : Type} [PageStore σ] (s : σ) (cs : List StoreCall) : σ :=
  cs.foldl (fun s c => (c.run s).2) s

theorem codec_run (d : PageDigest) : ∃ durable s₁ s₂ durable' s₃,
      allocatePage codecLayout 1 (onePageStore d) = (.ok durable, s₁) ∧
        writePage codecOnes 1 s₁ = (.ok (), s₂) ∧
        allocatePage codecLayout 1 s₂ = (.ok durable', s₃) ∧
        ∃ found, s₃.readPage 1 = .ok (some found) ∧
          found.SamePage (codecLayout.zeroed codecLayout_valid) := by
  obtain ⟨durable, s₁, hfirst, hstored₁⟩ := codec_allocatePage (onePageStore_ready d)
    (onePageStore_pageSize d)
  have hsize₁ := hstored₁.pageSize.trans (onePageStore_pageSize d)
  obtain ⟨s₂, hwrite, hstored₂⟩ := codec_writePage hstored₁.ready hsize₁
  obtain ⟨durable', s₃, hsecond, hstored₃⟩ := codec_allocatePage hstored₂.ready
    (hstored₂.pageSize.trans hsize₁)
  have hencodes := hstored₃.encodes _ mem_cons_self codec_covered
  rw [← hstored₃.mode] at hencodes
  exact ⟨durable, s₁, s₂, durable', s₃, hfirst, hwrite, hsecond,
    hstored₃.ready.readPage_of_encodes mem_cons_self codec_covered hencodes⟩

/-- On disk an allocation repeated succeeds and wipes the page, and a page never allocated is
written; in memory both calls fail. This is so whatever the digest. -/
theorem repeated_allocation_wipes_page : codecLayout.validate = .ok () ∧
      (∀ d, ¬ Agree (onePageStore d) (InMemoryPageStore.new .kiB16)
        [.allocate codecLayout 1, .write codecOnes 1, .allocate codecLayout 1]) ∧
      (∀ d, ∃ i j, (stateAfter (onePageStore d)
          [.allocate codecLayout 1, .write codecOnes 1, .allocate codecLayout 1]).readPage 1 =
            .ok (some i) ∧ (stateAfter (InMemoryPageStore.new .kiB16)
          [.allocate codecLayout 1, .write codecOnes 1, .allocate codecLayout 1]).readPage 1 =
            .ok (some j) ∧ i.payload ≠ j.payload) ∧
      ∀ d, ¬ Agree (onePageStore d) (InMemoryPageStore.new .kiB16) [.write codecOnes 1] := by
  obtain ⟨err, hagain⟩ : ∃ err, InMemoryPageStore.allocatePage codecLayout 1
      (allocatedMemory.insert 1 codecOnes) = (.error err, _) := allocatePage_refused (.inr rfl)
  refine ⟨codecLayout_valid, ?_, ?_, ?_⟩
  · intro d hagree
    obtain ⟨durable, s₁, s₂, durable', s₃, hfirst, hwrite, hsecond, -⟩ := codec_run d
    simp only [Agree, StoreCall.run, PageStore.allocatePage, PageStore.writePage, hfirst, hwrite,
      hsecond, new_allocatePage, allocatedMemory_writePage, hagain] at hagree
    exact hagree.2.2.1
  · intro d
    obtain ⟨durable, s₁, s₂, durable', s₃, hfirst, hwrite, hsecond, found, hread, hsame⟩ := codec_run d
    simp only [stateAfter, foldl_cons, foldl_nil, StoreCall.run, PageStore.allocatePage,
      PageStore.writePage, hfirst, hwrite, hsecond, new_allocatePage, allocatedMemory_writePage, hagain]
    refine ⟨found, codecOnes, hread, ?_, ?_⟩
    · rfl
    · rw [hsame.2.2]
      decide +kernel
  · intro d hagree
    obtain ⟨s₁, hwrite, -⟩ := codec_writePage (onePageStore_ready d) (onePageStore_pageSize d)
    have hmem : ∃ err, InMemoryPageStore.writePage codecOnes 1 (.new .kiB16) =
        (.error err, .new .kiB16) := ⟨_, rfl⟩
    obtain ⟨err', hmem⟩ := hmem
    simp only [Agree, StoreCall.run, PageStore.writePage, hwrite, hmem] at hagree
    exact hagree.1

end DiskPageStore

end Andromeda
