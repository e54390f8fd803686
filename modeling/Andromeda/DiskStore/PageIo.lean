import Andromeda.DiskStore.FileRanges

/-!
# Pages on disk

Reading and writing whole pages through the disk manager: the page integrity checksum, the
checks before a write, and the file operations of `atomic_write_page` in order. File operations
succeed; the crash model is in what they leave unsynced.
-/

namespace Andromeda

open Fallible LittleEndian DiskManagerError Effect List

def crc32Byte (crc : UInt32) (byte : UInt8) : UInt32 :=
  (range 8).foldl (fun crc _ => (crc >>> 1) ^^^ (0xEDB88320 &&& (0 - (crc &&& 1))))
    (crc ^^^ byte.toUInt32)

/-- The CRC-32 of a buffer with the masked bytes read as zero; never zero itself. -/
def crc32Masking (masked : Nat → Bool) (bytes : Bytes) : UInt32 :=
  let crc := ~~~ (bytes.mapIdx fun i byte => if masked i then 0 else byte).foldl crc32Byte 0xFFFFFFFF
  if crc = 0 then 1 else crc

theorem crc32Masking_ne_zero (masked : Nat → Bool) (bytes : Bytes) :
    crc32Masking masked bytes ≠ 0 := by
  rw [crc32Masking]
  split
  · decide
  · assumption

theorem crc32Masking_congr {masked : Nat → Bool} {xs ys : Bytes} (hlen : xs.length = ys.length)
    (h : ∀ i, masked i = false → xs[i]? = ys[i]?) :
    crc32Masking masked xs = crc32Masking masked ys := by
  have hmap : (xs.mapIdx fun i byte => if masked i then 0 else byte) =
      ys.mapIdx fun i byte => if masked i then 0 else byte := by
    apply ext_getElem?
    intro i
    rw [getElem?_mapIdx, getElem?_mapIdx]
    cases hmasked : masked i with
    | false => rw [h i hmasked]
    | true =>
      by_cases hi : i < xs.length
      · rw [getElem?_eq_getElem hi, getElem?_eq_getElem (hlen ▸ hi)]
        rfl
      · rw [getElem?_eq_none (by omega), getElem?_eq_none (by omega)]
  rw [crc32Masking, crc32Masking, hmap]

def pageCodecV1HeaderLen : Nat := 112

def pageCodecV1HeaderIntegrityOffset : Nat := 104

def inIntegrityField (i : Nat) : Bool := 104 ≤ i ∧ i < 108

def headerIntegrityCrc32 (headerBytes : Bytes) : UInt32 := crc32Masking inIntegrityField headerBytes

namespace FileDiskManager

def headerCrcOffset : Nat := 100

def inHeaderCrcField (i : Nat) : Bool := 100 ≤ i ∧ i < 104

section

variable (bytes : Bytes)

/-- Both checksum fields are left out, so that writing one does not change the other. -/
def computeIntegrityCrc32 : UInt32 :=
  crc32Masking (fun i => inHeaderCrcField i || inIntegrityField i) bytes

def integrityError (reason : String) : Error :=
  (pageCorrupted 0 reason).intoAndromedaError

def readPersistedHeaderCrc : Result UInt32 := do
  failIf (bytes.length < headerCrcOffset + 4)
    (integrityError "page image is too small for header CRC")
  pure (readU32 bytes headerCrcOffset)

def writePersistedHeaderCrc (crc : UInt32) : Result Bytes := do
  failIf (bytes.length < headerCrcOffset + 4)
    (integrityError "page image is too small for header CRC")
  pure (bytes.overwrite headerCrcOffset (u32 crc))

def readPersistedMagic : Result UInt32 := do
  failIf (bytes.length < 4) (integrityError "page image is too small for page magic")
  pure (readU32 bytes 0)

/-- Whether the page has a layout; a page of zeros has none. -/
def validatePersistedLayoutMarker : Result Bool := do
  let magic ← readPersistedMagic bytes
  if magic = 0 then
    if bytes.all (· = 0) then .ok false
    else .error (integrityError
      "Page integrity check failed: page layout marker is missing from non-empty page")
  else if magic = PageHeader.pageMagic then .ok true
  else .error (integrityError "Page integrity check failed: page layout marker is corrupted")

/-! ## Integrity of images -/

/-- The bytes with the checksum, and with the checksum of the header that covers it. -/
def stampBytes (crc : UInt32) : Result Bytes := do
  let stamped ← writePersistedHeaderCrc bytes crc
  if pageCodecV1HeaderLen ≤ stamped.length then
    pure (stamped.overwrite pageCodecV1HeaderIntegrityOffset
      (u32 (headerIntegrityCrc32 (stamped.take pageCodecV1HeaderLen))))
  else pure stamped

end

def stampPageIntegrityIfEnabled (mode : PageIntegrityMode) (image : PageImage) : Result PageImage :=
  match mode with
  | .none => .ok image
  | .headerCrc32 => do
    let layout ← orError image.layoutContract (pageLayoutInvalid
      "HeaderCrc32 integrity mode requires page layout contract").intoAndromedaError
    let marked ← validatePersistedLayoutMarker image.bytes
    failIf (!marked)
      (integrityError "HeaderCrc32 integrity mode requires persisted page layout bytes")
    let crc := computeIntegrityCrc32 image.bytes
    let stamped ← stampBytes image.bytes crc
    (PageImage.withLayout { layout with header := { layout.header with headerCrc := crc } }
      stamped).mapError fun err => (pageLayoutInvalid
        s!"failed to stamp page integrity CRC: {err.message}").intoAndromedaError

def hex32 (v : UInt32) : String :=
  "0x" ++ String.ofList (leftpad 8 '0' (Nat.toDigits 16 v.toNat))

def validatePageIntegrity (mode : PageIntegrityMode) (image : PageImage) : Result Unit :=
  match mode with
  | .none => .ok ()
  | .headerCrc32 => do
    let marked ← validatePersistedLayoutMarker image.bytes
    if !marked then pure ()
    else
      let expected ← readPersistedHeaderCrc image.bytes
      failIf (expected = 0)
        (integrityError "Page integrity check failed: persisted header CRC is zero")
      let actual := computeIntegrityCrc32 image.bytes
      failIf (expected ≠ actual) (pageCorrupted (image.pageId.getD 0)
        ("Page integrity check failed: expected header CRC " ++ hex32 expected ++ ", got "
          ++ hex32 actual)).intoAndromedaError

end FileDiskManager

variable {pageSize : PageSize} {bytes : Bytes} {image : PageImage}

theorem PageImage.layout_valid_none :
    ∀ c : PageLayoutContract, none = some c → c.validate = .ok () ∧ c.header.pageSize = pageSize :=
  fun _ h => nomatch h

def PageImage.new (pageSize : PageSize) (bytes : Bytes) : Result PageImage :=
  match hlen : validateLen pageSize bytes.length with
  | .error err => .error err
  | .ok () => .ok ⟨pageSize, bytes, none, validateLen_eq_ok.mp hlen, layout_valid_none⟩

open PageImage

theorem PageImage.new_eq_ok : new pageSize bytes = .ok image ↔
      image.pageSize = pageSize ∧ image.bytes = bytes ∧ image.layoutContract = none := by
  unfold new
  split
  · rename_i err hlen
    constructor
    · intro h
      cases h
    · rintro ⟨rfl, rfl, -⟩
      have hok : validateLen image.pageSize image.bytes.length = .ok () :=
        validateLen_eq_ok.mpr image.length_eq
      rw [hok] at hlen
      cases hlen
  · constructor
    · intro h
      cases h
      exact ⟨rfl, rfl, rfl⟩
    · obtain ⟨pageSize', bytes', layout, hlength, hlayout⟩ := image
      rintro ⟨rfl, rfl, rfl⟩
      rfl

theorem PageImage.withLayout_eq_ok {c : PageLayoutContract} :
    withLayout c bytes = .ok image ↔ c.validate = .ok () ∧
      bytes.length = c.header.pageSize.bytes ∧ image.pageSize = c.header.pageSize ∧
        image.bytes = bytes ∧ image.layoutContract = some c := by
  unfold withLayout
  split
  · rename_i err hvalid
    simp [hvalid]
  · rename_i hvalid
    split
    · rename_i err hlen
      have hne : bytes.length ≠ c.header.pageSize.bytes := by
        intro heq
        have hok : validateLen c.header.pageSize bytes.length = .ok () := validateLen_eq_ok.mpr heq
        rw [hok] at hlen
        cases hlen
      simp [hne]
    · rename_i hlen
      have hlen' := validateLen_eq_ok.mp hlen
      constructor
      · intro h
        cases h
        exact ⟨hvalid, hlen', rfl, rfl, rfl⟩
      · obtain ⟨pageSize', bytes', layout, hlength, hlayout⟩ := image
        rintro ⟨-, -, rfl, rfl, rfl⟩
        rfl

namespace FileDiskManager

def maxFilePageReadBytes : Nat := 32 * 1024

def boundedPageReadLen (pageBytes : Nat) (pageId : PageId) : Result Nat := do
  failIf (pageBytes = 0 ∨ maxFilePageReadBytes < pageBytes) (pageLayoutInvalid
    s!"page {pageId} read length {pageBytes} exceeds fixed disk manager page budget {maxFilePageReadBytes}").intoAndromedaError
  pure pageBytes

def readExact (m : FileDiskManager) (pageId : PageId) (offset : UInt64) (len : Nat) :
    Result Bytes := do
  failIf (m.volume.data.seen.length < offset.toNat + len) (ioError
    s!"read page {pageId} at offset {offset}" "failed to fill whole buffer").intoAndromedaError
  pure (m.volume.data.seen.slice offset.toNat len)

def readExtentPage (m : FileDiskManager) (pageId : PageId) (extent : ExtentDescriptor) :
    Result PageImage := do
  let offset ← m.pageToFileOffset pageId
  let pageReadLen ← boundedPageReadLen extent.pageSize.bytes pageId
  let buffer ← m.readExact pageId offset pageReadLen
  let image ← (new extent.pageSize buffer).mapError fun err =>
    (pageCorrupted pageId
      s!"failed to construct page image: {err.message}").intoAndromedaError
  validatePageIntegrity m.pageIntegrityMode image
  pure image

def readPage (m : FileDiskManager) (pageId : PageId) : Result (Option PageImage) := do
  match ← m.extentForPage pageId with
  | none => pure none
  | some extent => do
    let image ← m.readExtentPage pageId extent
    pure (some image)

end FileDiskManager

/-! ## File operations -/

/-- The operations of one page write; the seek before the write into the data file is part of it. -/
inductive FileStep where
  | createTemp (pageId : PageId)
  | writeTemp (pageId : PageId) (bytes : Bytes)
  | syncTemp (pageId : PageId)
  | writeData (offset : Nat) (bytes : Bytes)
  | syncData
  | removeTemp (pageId : PageId)

namespace Volume

/-- The file is created, or emptied if it was left over. -/
def createTemp (v : Volume) (pageId : PageId) : MixedFile :=
  match v.temp pageId with
  | some f => { f with seen := [] }
  | none => .stable []

def step (v : Volume) : FileStep → Volume
  | .createTemp pageId => { v with temp := Function.update v.temp pageId (some (v.createTemp pageId)) }
  | .writeTemp pageId bytes => { v with
      temp := Function.update v.temp pageId ((v.temp pageId).map (MixedFile.write 0 bytes)) }
  | .syncTemp pageId => { v with
      temp := Function.update v.temp pageId ((v.temp pageId).map MixedFile.sync) }
  | .writeData offset bytes => { v with data := v.data.write offset bytes }
  | .syncData => { v with data := v.data.sync }
  | .removeTemp pageId => { v with temp := Function.update v.temp pageId none }

def steps (v : Volume) (ss : List FileStep) : Volume := ss.foldl step v

end Volume

/-- `atomic_write_page`, operation by operation. -/
def writeSteps (pageId : PageId) (offset : Nat) (bytes : Bytes) : List FileStep :=
  [.createTemp pageId, .writeTemp pageId bytes, .syncTemp pageId, .writeData offset bytes, .syncData,
    .removeTemp pageId]

def validatePageFlushBoundary (pageLsn durableLsn : Lsn) : Result Unit :=
  failIf (durableLsn < pageLsn) (walFenceViolation pageLsn durableLsn).intoAndromedaError

namespace FileDiskManager

def atomicWriteOffset (m : FileDiskManager) (pageId : PageId) : Result UInt64 := do
  failIf (m.tempWriteQueueClass = .p0Durability) (queueClassViolation
    s!"atomic_write_page for page {pageId} attempted with P0Durability queue class; temp/spill writes must use P1Maintenance — P0 is reserved for the WAL→commit critical path").intoAndromedaError
  m.pageToFileOffset pageId

/-- `u64::saturating_add` of one. -/
def countTempWrite (m : FileDiskManager) : FileDiskManager :=
  { m with tempWriteCount :=
      if m.tempWriteCount = Lsn.max then m.tempWriteCount else m.tempWriteCount + 1 }

def atomicWritePage (pageId : PageId) (image : PageImage) : Effect FileDiskManager Error Unit := do
  let m ← get
  let offset ← lift (m.atomicWriteOffset pageId)
  modify fun m =>
    { m with volume := m.volume.steps (writeSteps pageId offset.toNat image.bytes) }
  modify countTempWrite

def prepareWrite (m : FileDiskManager) (image : PageImage) (durableLsn : Lsn) :
    Result (PageId × PageImage) := do
  let pageId ← orError image.pageId (pageLayoutInvalid
    "page image missing layout contract for page ID").intoAndromedaError
  let pageLsn ← orError image.pageLsn (pageLayoutInvalid
    "page image missing layout contract for page LSN").intoAndromedaError
  validatePageFlushBoundary pageLsn durableLsn
  let found ← m.extentForPage pageId
  let _ ← orError found (pageNotAllocated pageId).intoAndromedaError
  let imageForWrite ← stampPageIntegrityIfEnabled m.pageIntegrityMode image
  pure (pageId, imageForWrite)

def writePage (image : PageImage) (durableLsn : Lsn) : Effect FileDiskManager Error Unit := do
  let m ← get
  let prepared ← lift (m.prepareWrite image durableLsn)
  atomicWritePage prepared.1 prepared.2

end FileDiskManager

end Andromeda
