import Andromeda.BufferPool.Page
import Andromeda.Wal.FileWal
import Andromeda.Lib.MixedFile
import Mathlib.Data.List.Sort

/-!
# Extents of the disk manager

Extent descriptors, the manager with its two extent maps, and the calls that add an extent:
`register_extent` at the file offset the descriptor gives, `allocate_extent` at the end of the
file as the manager tracks it. `extents_by_id` is written by both and read by nothing, and
`allocated_on_disk` is not looked at; they are left out.
-/

namespace Andromeda

open Fallible Effect

inductive DiskManagerError where
  | pageNotAllocated (pageId : PageId)
  | pageCorrupted (pageId : PageId) (reason : String)
  | pageLayoutInvalid (reason : String)
  | invalidExtentDescriptor (reason : String)
  | offsetOverflow (pageId : PageId) (reason : String)
  | ioError (operation reason : String)
  | extentOverlap (reason : String)
  | diskSpaceExhausted (reason : String)
  | walFenceViolation (pageLsn durableLsn : Lsn)
  | queueClassViolation (reason : String)

namespace DiskManagerError

def text : DiskManagerError → String
  | pageNotAllocated pageId => s!"page {pageId} not allocated"
  | pageCorrupted pageId reason => s!"page {pageId} corrupted: {reason}"
  | pageLayoutInvalid reason => s!"page layout invalid: {reason}"
  | invalidExtentDescriptor reason => s!"invalid extent descriptor: {reason}"
  | offsetOverflow pageId reason => s!"offset overflow for page {pageId}: {reason}"
  | ioError operation reason => s!"{operation} failed: {reason}"
  | extentOverlap reason => s!"extent overlap: {reason}"
  | diskSpaceExhausted reason => s!"disk space exhausted: {reason}"
  | walFenceViolation pageLsn durableLsn =>
    s!"WAL-before-page flush violated: page LSN {pageLsn} exceeds durable WAL LSN {durableLsn}"
  | queueClassViolation reason => s!"WAL queue class violation: {reason}"

def intoAndromedaError (e : DiskManagerError) : Error := storageError e.text

end DiskManagerError

open DiskManagerError

inductive ExtentState where
  | allocatingHot
  | sealed
  | publishedCold
deriving DecidableEq

structure ExtentDescriptor where
  extentId : UInt64
  objectId : UInt64
  allocationId : UInt64
  firstPageId : PageId
  pageCount : UInt32
  pageSize : PageSize
  state : ExtentState
  segmentId : Option UInt64
  fileOffset : UInt64
deriving DecidableEq

namespace ExtentDescriptor

section

variable (e : ExtentDescriptor)

/-- Called only after the page count was seen to be nonzero. -/
def checkedLastPageId : Result PageId :=
  orError (checkedAdd e.firstPageId (e.pageCount - 1).toUInt64)
    (storageError "extent page range overflows u64")

def validate : Result Unit := do
  failIf (e.extentId = 0) (storageError "extent id must not be zero")
  failIf (e.objectId = 0 ∨ e.allocationId = 0)
    (storageError "extent object/allocation identity must not be zero")
  failIf (e.firstPageId = 0) (storageError "extent first page id must not be zero")
  failIf (e.pageCount = 0) (storageError "extent page count must not be zero")
  let _ ← e.checkedLastPageId
  failIf (e.segmentId = some 0) (storageError "extent segment id must not be zero")
  failIf (e.state = .publishedCold ∧ e.segmentId = none)
    (storageError "published cold extent must reference a segment")

def lastPageId : Result PageId := do
  e.validate
  e.checkedLastPageId

def last : Nat := e.firstPageId.toNat + (e.pageCount.toNat - 1)

def Covers (p : PageId) : Prop :=
  e.firstPageId.toNat ≤ p.toNat ∧ p.toNat ≤ e.last

end

def PagesApart (e e' : ExtentDescriptor) : Prop :=
  e.last < e'.firstPageId.toNat ∨ e'.last < e.firstPageId.toNat

def fileLen (e : ExtentDescriptor) : Nat := e.pageCount.toNat * e.pageSize.bytes

def FileApart (e e' : ExtentDescriptor) : Prop :=
  e.fileOffset.toNat + e.fileLen ≤ e'.fileOffset.toNat ∨
    e'.fileOffset.toNat + e'.fileLen ≤ e.fileOffset.toNat
deriving Decidable

variable {e e' : ExtentDescriptor} {p l : PageId}

theorem validate_eq_ok (h : e.validate = .ok ()) : e.firstPageId ≠ 0 ∧ 0 < e.pageCount.toNat ∧
      ∃ l, e.lastPageId = .ok l ∧ l.toNat = e.last := by
  have hvalid := h
  simp only [validate, ok_iff] at h
  obtain ⟨-, -, hfirst, hcount, l, hl, -⟩ := h
  have hpos : 0 < e.pageCount.toNat := by
    rw [Nat.pos_iff_ne_zero]
    intro hzero
    exact hcount (UInt32.toNat_inj.mp hzero)
  have hpred : (e.pageCount - 1).toUInt64.toNat = e.pageCount.toNat - 1 := by
    have hle : (1 : UInt32) ≤ e.pageCount := by
      rw [UInt32.le_iff_toNat_le]
      exact hpos
    rw [UInt32.toNat_toUInt64, UInt32.toNat_sub_of_le _ _ hle]
    rfl
  refine ⟨hfirst, hpos, l, ?_, ?_⟩
  · simp only [lastPageId, ok_iff]
    exact ⟨hvalid, hl⟩
  · rw [checkedLastPageId, orError_eq_ok, checkedAdd_eq_some, hpred] at hl
    exact hl

theorem PagesApart.symm (h : e.PagesApart e') : e'.PagesApart e := h.elim .inr .inl

theorem PagesApart.not_covers (h : e.PagesApart e') (hp : e.Covers p) : ¬ e'.Covers p := by
  rintro ⟨hfirst, hlast⟩
  rcases h with h | h
  · have := hp.2
    omega
  · have := hp.1
    omega

theorem covers_first (e : ExtentDescriptor) : e.Covers e.firstPageId :=
  ⟨Nat.le_refl _, Nat.le_add_right _ _⟩

end ExtentDescriptor

inductive PageIntegrityMode where
  | none
  | headerCrc32
deriving DecidableEq

/-- The data file, and the files `page_<id>.tmp` of the temporary directory. -/
structure Volume where
  data : MixedFile
  temp : PageId → Option MixedFile

structure FileDiskManager where
  volume : Volume
  /-- The entries of the map from first page ids, in descending order. -/
  extentsByPageRange : List (UInt64 × ExtentDescriptor)
  currentFileSize : UInt64
  allocatedPageRanges : List (UInt64 × UInt64)
  pageIntegrityMode : PageIntegrityMode
  tempWriteQueueClass : WalIoQueueClass
  tempWriteCount : UInt64

def insertDescending (key : UInt64) (e : ExtentDescriptor) :
    List (UInt64 × ExtentDescriptor) → List (UInt64 × ExtentDescriptor)
  | [] => [(key, e)]
  | (key', e') :: rest =>
    if key' < key then (key, e) :: (key', e') :: rest
    else if key' = key then (key, e) :: rest
    else (key', e') :: insertDescending key e rest

def rangeOrder (r r' : UInt64 × UInt64) : Prop := r.1 < r'.1 ∨ (r.1 = r'.1 ∧ r.2 ≤ r'.2)
deriving Decidable

def checkedMul (a b : UInt64) : Option UInt64 :=
  if a.toNat * b.toNat < UInt64.size then some (a * b) else none

theorem checkedMul_eq_some {a b c : UInt64} :
    checkedMul a b = some c ↔ c.toNat = a.toNat * b.toNat := by
  have hc := c.toNat_lt
  unfold checkedMul
  by_cases h : a.toNat * b.toNat < UInt64.size
  · rw [if_pos h, Option.some.injEq, ← UInt64.toNat_inj, UInt64.toNat_mul, Nat.mod_eq_of_lt h]
    exact eq_comm
  · rw [if_neg h]
    simp only [reduceCtorEq, false_iff]
    simp only [UInt64.size] at h
    omega

def checkedSub (a b : UInt64) : Option UInt64 := if b ≤ a then some (a - b) else none

theorem checkedSub_of_le {a b : UInt64} (h : b.toNat ≤ a.toNat) :
    ∃ c, checkedSub a b = some c ∧ c.toNat = a.toNat - b.toNat := by
  have hle : b ≤ a := UInt64.le_iff_toNat_le.mpr h
  exact ⟨a - b, if_pos hle, UInt64.toNat_sub_of_le _ _ hle⟩

namespace FileDiskManager

/-- On the files found at the two paths; `open` is this with mode `none`. -/
def openWithIntegrity (volume : Volume) (mode : PageIntegrityMode) : FileDiskManager where
  volume := volume
  extentsByPageRange := []
  currentFileSize := UInt64.ofNat volume.data.seen.length
  allocatedPageRanges := []
  pageIntegrityMode := mode
  tempWriteQueueClass := .p1Maintenance
  tempWriteCount := 0

def boundsError (err : Error) : Error :=
  (invalidExtentDescriptor
    s!"failed to compute extent bounds: {err.message}").intoAndromedaError

/-- The search goes down from the greatest first page and stops below the page. -/
def searchExtents (pageId : PageId) :
    List (UInt64 × ExtentDescriptor) → Result (Option ExtentDescriptor)
  | [] => .ok none
  | (firstPage, extent) :: rest => do
    let lastPage ← extent.lastPageId.mapError boundsError
    if firstPage ≤ pageId ∧ pageId ≤ lastPage then .ok (some extent)
    else if lastPage < pageId then .ok none
    else searchExtents pageId rest

section

variable (m : FileDiskManager)

def extentForPage (pageId : PageId) : Result (Option ExtentDescriptor) :=
  searchExtents pageId m.extentsByPageRange

def pageToFileOffset (pageId : PageId) : Result UInt64 := do
  let found ← m.extentForPage pageId
  let extent ← orError found (pageNotAllocated pageId).intoAndromedaError
  let offsetWithinExtent ← orError (checkedSub pageId extent.firstPageId)
    (offsetOverflow pageId
      s!"page id is before extent start {extent.firstPageId}").intoAndromedaError
  let pageOffset ← orError (checkedMul offsetWithinExtent (UInt64.ofNat extent.pageSize.bytes))
    (offsetOverflow pageId "page offset computation overflowed").intoAndromedaError
  orError (checkedAdd extent.fileOffset pageOffset)
    (offsetOverflow pageId "file offset computation overflowed").intoAndromedaError

def invalidDescriptor (err : Error) : Error :=
  (invalidExtentDescriptor err.message).intoAndromedaError

def verifyExtentContiguity (descriptor : ExtentDescriptor) : Result Unit := do
  descriptor.validate.mapError invalidDescriptor
  let newEnd ← descriptor.lastPageId.mapError boundsError
  let newStart := descriptor.firstPageId
  forM m.allocatedPageRanges fun existing =>
    failIf (¬ (newEnd < existing.1 ∨ existing.2 < newStart)) (extentOverlap
        s!"Extent [{newStart}, {newEnd}] overlaps existing range [{existing.1}, {existing.2}]").intoAndromedaError

def validateExtentRegistration (descriptor : ExtentDescriptor) : Result Unit := do
  descriptor.validate.mapError invalidDescriptor
  m.verifyExtentContiguity descriptor

end

section

variable (descriptor : ExtentDescriptor)

def registerValidatedExtent : Effect FileDiskManager Error Unit := do
  modify fun m => { m with
    extentsByPageRange := insertDescending descriptor.firstPageId descriptor m.extentsByPageRange }
  let lastPageId ← lift (descriptor.lastPageId.mapError fun err =>
    (invalidExtentDescriptor
      s!"failed to compute last page: {err.message}").intoAndromedaError)
  modify fun m => { m with
    allocatedPageRanges :=
      (m.allocatedPageRanges ++ [(descriptor.firstPageId, lastPageId)]).insertionSort rangeOrder }

def registerExtent : Effect FileDiskManager Error Unit := do
  let m ← get
  lift (m.validateExtentRegistration descriptor)
  registerValidatedExtent descriptor

/-- `File::set_len` on the data file; `refused` is why the system refuses it, if it does. -/
def setFileLen (refused : Option String) (size : UInt64) : Effect FileDiskManager Error Unit :=
  match refused with
  | some reason => lift (.error (ioError
      s!"pre-allocate file space to {size} bytes" reason).intoAndromedaError)
  | none => modify fun m =>
    { m with volume := { m.volume with data := m.volume.data.setLen size.toNat } }

/-- The tracked file size is written before the file is extended. -/
def allocateExtent (refused : Option String) : Effect FileDiskManager Error Unit := do
  let m ← get
  lift (m.validateExtentRegistration descriptor)
  let descriptorWithOffset := { descriptor with fileOffset := m.currentFileSize }
  let extentSize ← lift (orError
    (checkedMul descriptorWithOffset.pageCount.toUInt64
      (UInt64.ofNat descriptorWithOffset.pageSize.bytes))
    (offsetOverflow descriptorWithOffset.firstPageId
      "extent size computation overflowed").intoAndromedaError)
  let fileSize ← lift (orError (checkedAdd descriptorWithOffset.fileOffset extentSize)
    (diskSpaceExhausted "file size would overflow").intoAndromedaError)
  modify fun m => { m with currentFileSize := fileSize }
  setFileLen refused fileSize
  registerValidatedExtent descriptorWithOffset

end

end FileDiskManager

end Andromeda
