import Andromeda.Lib.Effect
import Andromeda.Heap.RedoPayload

/-!
# Pages and page stores

A page image is a byte array of the page size with an optional layout contract, from which
its page id and page LSN are read. `PageStore` is the boundary the buffer pool works
against; `Keeping` says of a store that it keeps what is written to it, and the store in
memory is one.
-/

namespace Andromeda

open Fallible Effect

inductive PageType where
  | fixedRow
  | hybridRow
  | manifest
  | free
deriving DecidableEq

abbrev PageFlags := UInt16

namespace PageFlags

def hasPrevious : PageFlags := 1
def hasNext : PageFlags := 2
def coldImmutableImage : PageFlags := 4

def contains (flags flag : PageFlags) : Bool := flags &&& flag = flag

def hasOnlyKnownBits (flags : PageFlags) : Bool :=
  flags &&& ~~~(hasPrevious ||| hasNext ||| coldImmutableImage) = 0

end PageFlags

structure PageHeader where
  magic : UInt32
  formatVersion : UInt16
  pageSize : PageSize
  pageType : PageType
  pageId : PageId
  objectId : UInt64
  allocationId : UInt64
  pageLsn : Lsn
  pageEpoch : UInt64
  previousPageId : Option PageId
  nextPageId : Option PageId
  headerLen : UInt16
  payloadOffset : UInt32
  payloadLen : UInt32
  freeStart : UInt32
  freeEnd : UInt32
  freeBytes : UInt32
  slotCount : UInt16
  rowCount : UInt32
  flags : PageFlags
  headerCrc : UInt32
deriving DecidableEq

structure PageTrailer where
  payloadCrc64 : UInt64
  /-- 32 bytes in the source; only compared with the zero hash. -/
  pageHash : Bytes
  tornWriteGuard : UInt64
deriving DecidableEq

structure PageLayoutContract where
  header : PageHeader
  trailer : PageTrailer

def PageTrailer.v0Len : Nat := 8 + 32 + 8

namespace PageHeader

def pageMagic : UInt32 := 0x414E4452
def formatVersionV0 : UInt16 := 1
def minHeaderLenV0 : UInt16 := 96

def validateIdentity (h : PageHeader) : Result Unit := do
  failIf (h.magic ≠ pageMagic) (storageError "page header magic mismatch")
  failIf (h.formatVersion ≠ formatVersionV0) (storageError "unsupported page format version")
  failIf (h.pageId = 0) (storageError "page id must not be zero")
  failIf (h.pageType ≠ .free ∧ (h.objectId = 0 ∨ h.allocationId = 0))
    (storageError "non-free page object/allocation identity must not be zero")
  failIf (h.pageType = .free ∧ (h.slotCount ≠ 0 ∨ h.rowCount ≠ 0))
    (storageError "free page must not advertise rows or slots")
  failIf (h.pageLsn = 0) (storageError "page LSN must not be zero")
  failIf (h.pageEpoch = 0) (storageError "page epoch must not be zero")
  failIf (h.previousPageId = some h.pageId ∨ h.nextPageId = some h.pageId)
    (storageError "page links must not point to self")
  failIf (h.previousPageId.isSome ∧ h.previousPageId = h.nextPageId)
    (storageError "page previous and next links must differ")
  failIf (h.previousPageId.isSome ≠ h.flags.contains PageFlags.hasPrevious)
    (storageError "page previous-link flag mismatch")
  failIf (h.nextPageId.isSome ≠ h.flags.contains PageFlags.hasNext)
    (storageError "page next-link flag mismatch")
  failIf (!h.flags.hasOnlyKnownBits) (storageError "page flags contain unknown bits")

def validateExtents (h : PageHeader) : Result Unit := do
  failIf (h.headerLen < minHeaderLenV0) (storageError "page header length is below V0 minimum")
  failIf (h.pageSize.bytes ≤ h.headerLen.toNat)
    (storageError "page header length exceeds page size")
  failIf (h.payloadOffset.toNat < h.headerLen.toNat)
    (storageError "page payload offset overlaps header")
  failIf (2 ^ 32 ≤ h.payloadOffset.toNat + h.payloadLen.toNat)
    (storageError "page payload end overflows u32")
  failIf (h.pageSize.bytes - PageTrailer.v0Len < h.payloadOffset.toNat + h.payloadLen.toNat)
    (storageError "page payload overlaps trailer or exceeds page size")
  failIf (h.freeStart < h.payloadOffset ∨ h.freeEnd < h.freeStart ∨
      h.payloadOffset.toNat + h.payloadLen.toNat < h.freeEnd.toNat)
    (storageError "page free-space offsets are invalid")
  failIf (h.freeBytes ≠ h.freeEnd - h.freeStart)
    (storageError "page free byte count does not match offsets")
  failIf (h.slotCount.toNat < h.rowCount.toNat) (storageError "page row count exceeds slot count")
  failIf (h.headerCrc = 0) (storageError "page header CRC must not be zero")

def validate (h : PageHeader) : Result Unit := do
  h.validateIdentity
  h.validateExtents

end PageHeader

def PageTrailer.validate (t : PageTrailer) : Result Unit := do
  failIf (t.payloadCrc64 = 0 ∨ t.tornWriteGuard = 0)
    (storageError "page trailer checks must not be zero")
  failIf (t.pageHash = List.replicate 32 0) (storageError "page payload hash must not be zero")

def PageLayoutContract.validate (c : PageLayoutContract) : Result Unit := do
  c.header.validate
  c.trailer.validate
  failIf (c.trailer.tornWriteGuard = c.header.pageId)
    (storageError "page torn-write guard must not be only the page id")

/-- A page image; its constructors check the length, and the layout if there is one. -/
structure PageImage where
  pageSize : PageSize
  bytes : Bytes
  layoutContract : Option PageLayoutContract
  length_eq : bytes.length = pageSize.bytes
  layout_valid : ∀ c, layoutContract = some c → c.validate = .ok () ∧ c.header.pageSize = pageSize

namespace PageImage

def pageId (i : PageImage) : Option PageId := i.layoutContract.map fun c => c.header.pageId

def pageLsn (i : PageImage) : Option Lsn := i.layoutContract.map fun c => c.header.pageLsn

def validateLen (pageSize : PageSize) (len : Nat) : Result Unit :=
  failIf (len ≠ pageSize.bytes)
    (storageError s!"page image length {len} does not match canonical page size {pageSize.bytes}")

theorem validateLen_eq_ok {pageSize : PageSize} {len : Nat} {u : Unit} :
    validateLen pageSize len = .ok u ↔ len = pageSize.bytes := by
  rw [validateLen, failIf_eq_ok, not_not]

theorem layout_valid_some {c : PageLayoutContract} (hvalid : c.validate = .ok ()) :
    ∀ c', some c = some c' → c'.validate = .ok () ∧ c'.header.pageSize = c.header.pageSize := by
  intro c' hc'
  cases hc'
  exact ⟨hvalid, rfl⟩

def withLayout (c : PageLayoutContract) (bytes : Bytes) : Result PageImage :=
  match hvalid : c.validate with
  | .error err => .error err
  | .ok () =>
    match hlen : validateLen c.header.pageSize bytes.length with
    | .error err => .error err
    | .ok () => .ok ⟨c.header.pageSize, bytes, some c, validateLen_eq_ok.mp hlen,
        layout_valid_some hvalid⟩

def zeroedWithLayout (c : PageLayoutContract) : Result PageImage := do
  c.validate
  withLayout c (List.replicate c.header.pageSize.bytes 0)

end PageImage

open PageImage

/-- The `PageStore` trait. -/
class PageStore (σ : Type) where
  pageSize : σ → PageSize
  readPage : σ → PageId → Result (Option PageImage)
  writePage : PageImage → Lsn → Effect σ Error Unit
  allocatePage : PageLayoutContract → Lsn → Effect σ Error PageImage

open PageStore

/-- The store keeps what is written: its contents change by successful calls only, and only
at the page concerned. -/
structure PageStore.Keeping {σ : Type} [PageStore σ] (contents : σ → PageId → Option PageImage) :
    Prop where
  read : ∀ {s p found}, readPage s p = .ok found → found = contents s p
  write : ∀ {s s' image durableLsn}, writePage image durableLsn s = (.ok (), s') →
    ∃ p, image.pageId = some p ∧ contents s' = Function.update (contents s) p (some image)
  writeError : ∀ {s s' image durableLsn err},
    writePage image durableLsn s = (.error err, s') → contents s' = contents s
  allocate : ∀ {s s' layout durableLsn image},
    allocatePage layout durableLsn s = (.ok image, s') →
      image.pageId = some layout.header.pageId ∧ contents s layout.header.pageId = none ∧
        contents s' = Function.update (contents s) layout.header.pageId (some image)
  allocateError : ∀ {s s' layout durableLsn err},
    allocatePage layout durableLsn s = (.error err, s') → contents s' = contents s

structure InMemoryPageStore where
  pageSize : PageSize
  pages : PageId → Option PageImage

namespace InMemoryPageStore

def new (pageSize : PageSize) : InMemoryPageStore := ⟨pageSize, fun _ => none⟩

def validatePageId (pageId : PageId) : Result Unit :=
  failIf (pageId = 0) (storageError "page store page id must not be zero")

def validateImageForStore (s : InMemoryPageStore) (image : PageImage) : Result PageId := do
  failIf (image.pageSize ≠ s.pageSize)
    (storageError "page image size does not match page store size")
  let layout ← orError image.layoutContract
    (storageError "page image must include a validated layout contract")
  layout.validate
  validatePageId layout.header.pageId
  pure layout.header.pageId

/-- The boundary lets a zero page LSN pass. -/
def validateWalBeforePageFlush (image : PageImage) (durableLsn : Lsn) : Result Unit := do
  let pageLsn ← orError image.pageLsn
    (storageError "page image must expose page LSN through its layout")
  failIf (pageLsn ≠ 0 ∧ durableLsn < pageLsn) (storageError
    "WAL-before-page-flush precondition failed: durable WAL LSN is behind page LSN")

def readPage (s : InMemoryPageStore) (pageId : PageId) : Result (Option PageImage) := do
  validatePageId pageId
  pure (s.pages pageId)

def insert (pageId : PageId) (image : PageImage) (s : InMemoryPageStore) : InMemoryPageStore :=
  { s with pages := Function.update s.pages pageId (some image) }

def writePage (image : PageImage) (durableLsn : Lsn) : Effect InMemoryPageStore Error Unit := do
  let s ← get
  let pageId ← lift (s.validateImageForStore image)
  lift (validateWalBeforePageFlush image durableLsn)
  lift (failIf (s.pages pageId).isNone
    (storageError "page store write requires prior allocation"))
  modify (insert pageId image)

def allocatePage (layout : PageLayoutContract) (durableLsn : Lsn) :
    Effect InMemoryPageStore Error PageImage := do
  let s ← get
  lift (failIf (layout.header.pageSize ≠ s.pageSize)
    (storageError "allocated page size does not match page store size"))
  let image ← lift (zeroedWithLayout layout)
  let pageId ← lift (s.validateImageForStore image)
  lift (validateWalBeforePageFlush image durableLsn)
  lift (failIf (s.pages pageId).isSome
    (storageError "page store allocation would overwrite existing page"))
  modify (insert pageId image)
  pure image

instance pageStore : PageStore InMemoryPageStore :=
  ⟨InMemoryPageStore.pageSize, readPage, writePage, allocatePage⟩

variable {image : PageImage}

theorem validateImageForStore_eq_ok {s : InMemoryPageStore} {p : PageId}
    (h : s.validateImageForStore image = .ok p) : image.pageId = some p := by
  simp only [validateImageForStore, ok_iff] at h
  obtain ⟨-, layout, hlayout, -, -, rfl⟩ := h
  rw [pageId, hlayout]
  rfl

theorem withLayout_eq_ok {c : PageLayoutContract} {bytes : Bytes}
    (h : withLayout c bytes = .ok image) : image.layoutContract = some c := by
  unfold withLayout at h
  split at h
  · cases h
  · split at h
    · cases h
    · cases h
      rfl

theorem keeping : PageStore.Keeping InMemoryPageStore.pages where
  read := by
    intro s p found h
    change s.readPage p = .ok found at h
    simp only [readPage, ok_iff] at h
    exact h.2.symm
  write := by
    intro s s' image durableLsn h
    change writePage image durableLsn s = _ at h
    rw [writePage, get_bind] at h
    obtain ⟨p, hp, h⟩ := lift_bind_ok h
    obtain ⟨_, -, h⟩ := lift_bind_ok h
    obtain ⟨_, -, h⟩ := lift_bind_ok h
    cases h
    exact ⟨p, validateImageForStore_eq_ok hp, rfl⟩
  writeError := by
    intro s s' image durableLsn err h
    change writePage image durableLsn s = _ at h
    rw [writePage, get_bind] at h
    refine checked_or h (fun _ => rfl) fun p _ h => ?_
    refine checked_or h (fun _ => rfl) fun _ _ h => ?_
    refine checked_or h (fun _ => rfl) fun _ _ h => ?_
    cases h
  allocate := by
    intro s s' layout durableLsn image h
    change allocatePage layout durableLsn s = _ at h
    rw [allocatePage, get_bind] at h
    obtain ⟨_, -, h⟩ := lift_bind_ok h
    obtain ⟨zeroed, hzeroed, h⟩ := lift_bind_ok h
    obtain ⟨p, hp, h⟩ := lift_bind_ok h
    obtain ⟨_, -, h⟩ := lift_bind_ok h
    obtain ⟨_, hfree, h⟩ := lift_bind_ok h
    cases h
    simp only [zeroedWithLayout, ok_iff] at hzeroed
    have hid : image.pageId = some layout.header.pageId := by
      rw [pageId, withLayout_eq_ok hzeroed.2]
      rfl
    have hp' := validateImageForStore_eq_ok hp
    rw [hid, Option.some.injEq] at hp'
    subst hp'
    rw [failIf_eq_ok, Option.not_isSome_iff_eq_none] at hfree
    exact ⟨hid, hfree, rfl⟩
  allocateError := by
    intro s s' layout durableLsn err h
    change allocatePage layout durableLsn s = _ at h
    rw [allocatePage, get_bind] at h
    refine checked_or h (fun _ => rfl) fun _ _ h => ?_
    refine checked_or h (fun _ => rfl) fun zeroed _ h => ?_
    refine checked_or h (fun _ => rfl) fun p _ h => ?_
    refine checked_or h (fun _ => rfl) fun _ _ h => ?_
    refine checked_or h (fun _ => rfl) fun _ _ h => ?_
    cases h

end InMemoryPageStore

def blankLayout (pageId : PageId) : PageLayoutContract where
  header :=
    { magic := PageHeader.pageMagic, formatVersion := PageHeader.formatVersionV0
      pageSize := .kiB16, pageType := .fixedRow, pageId := pageId, objectId := 1
      allocationId := 1, pageLsn := 1, pageEpoch := 1, previousPageId := none
      nextPageId := none, headerLen := 96, payloadOffset := 96, payloadLen := 1000
      freeStart := 96, freeEnd := 1096, freeBytes := 1000, slotCount := 0, rowCount := 0
      flags := 0, headerCrc := 1 }
  trailer := ⟨1, List.replicate 32 1, 99⟩

def filledImage (c : PageLayoutContract) (h : c.validate = .ok ()) (byte : UInt8) : PageImage :=
  ⟨c.header.pageSize, List.replicate c.header.pageSize.bytes byte, some c, List.length_replicate,
    layout_valid_some h⟩

theorem blankLayout_one_valid : (blankLayout 1).validate = .ok () := by decide +kernel

theorem blankLayout_two_valid : (blankLayout 2).validate = .ok () := by decide +kernel

def firstPage : PageImage := filledImage (blankLayout 1) blankLayout_one_valid 0

def secondPage : PageImage := filledImage (blankLayout 2) blankLayout_two_valid 0

def rewrittenPage : PageImage := filledImage (blankLayout 1) blankLayout_one_valid 7

def twoPageStore : InMemoryPageStore :=
  ⟨.kiB16, fun p => if p = 1 then some firstPage else if p = 2 then some secondPage else none⟩

end Andromeda
