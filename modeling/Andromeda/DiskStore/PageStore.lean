import Andromeda.DiskStore.PageCodec
import Andromeda.DiskStore.CrashAtomicity

/-!
# The page store on disk

`DiskPageStore` puts the page codec over the disk manager. An image that it encodes, stamps and
writes is decoded to the same header, but for the header checksum, and to the same payload.
-/

namespace Andromeda

open Fallible LittleEndian PageHeader List FileDiskManager Effect PageImage PageCodecV1

/-- Pages are encoded with the digest `d`. -/
structure DiskPageStore (d : PageDigest) where
  manager : FileDiskManager
  pageSize : PageSize

namespace DiskPageStore

variable {d : PageDigest}

/-- The `storage_error` of the disk page store. -/
def layoutError (reason : String) : Error :=
  (DiskManagerError.pageLayoutInvalid reason).intoAndromedaError

/-- `new` is this with mode `none`. -/
def newWithIntegrity (d : PageDigest) (volume : Volume) (mode : PageIntegrityMode) :
    DiskPageStore d :=
  ⟨.openWithIntegrity volume mode, .kiB16⟩

def onManager {α : Type} (x : Effect FileDiskManager Error α) : Effect (DiskPageStore d) Error α :=
  zoom manager (fun m s => { s with manager := m }) x

/-- The page size is the one of the last extent, added or refused. -/
def allocateExtent (descriptor : ExtentDescriptor) (refused : Option String) :
    Effect (DiskPageStore d) Error Unit := do
  modify fun s => { s with pageSize := descriptor.pageSize }
  onManager (FileDiskManager.allocateExtent descriptor refused)

def validatePageId (pageId : PageId) : Result Unit :=
  failIf (pageId = 0) (layoutError "disk page store page id must not be zero")

def validateImageForStore (s : DiskPageStore d) (image : PageImage) :
    Result PageLayoutContract := do
  failIf (image.pageSize ≠ s.pageSize)
    (layoutError "page image size does not match disk page store size")
  let layout ← orError image.layoutContract
    (layoutError "page image must include a validated layout contract")
  layout.validate
  validatePageId layout.header.pageId
  pure layout

def validateWalBeforePageFlush (image : PageImage) (durableLsn : Lsn) : Result Unit := do
  let pageLsn ← orError image.pageLsn
    (layoutError "page image must expose page LSN through its layout")
  validatePageFlushBoundary pageLsn durableLsn

/-- The sum of an offset and a length of a header does not overflow `usize`. -/
def sliceAt (bytes : Bytes) (offset len : Nat) : Result Bytes := do
  failIf (bytes.length < offset + len) (layoutError "page layout read exceeds image")
  pure (bytes.slice offset len)

def payloadSlice (header : PageHeader) (bytes : Bytes) : Result Bytes :=
  sliceAt bytes header.payloadOffset.toNat header.payloadLen.toNat

def refreshLayoutIntegrity (d : PageDigest) (layout : PageLayoutContract) (bytes : Bytes) :
    Result PageLayoutContract := do
  let payload ← payloadSlice layout.header bytes
  let refreshed := { layout with trailer := integrityTrailerForPayload d layout.header payload }
  refreshed.validate
  pure refreshed

def imageWithV1Codec (d : PageDigest) (image : PageImage) : Result PageImage := do
  let layout ← orError image.layoutContract
    (layoutError "page image must include a validated layout contract")
  let refreshed ← refreshLayoutIntegrity d layout image.bytes
  let headerBytes ← (encodeHeader refreshed.header).mapError fun err =>
    layoutError err.message
  let bytes := image.bytes.overwrite 0 headerBytes
  let trailerBytes ← (encodeTrailer refreshed.trailer).mapError fun err =>
    layoutError err.message
  withLayout refreshed (bytes.overwrite (bytes.length - pageCodecV1TrailerLen) trailerBytes)

/-- A page of zeros is one that was never allocated. -/
def decodeLayoutContract (d : PageDigest) (bytes : Bytes) : Result (Option PageLayoutContract) := do
  failIf (bytes.length < pageCodecV1HeaderLen + pageCodecV1TrailerLen)
    (layoutError "page image is too small for PageCodecV1 header and trailer")
  if bytes.all (· = 0) then pure none
  else do
    let header ← (decodeHeader (bytes.take pageCodecV1HeaderLen)).mapError fun err =>
      layoutError err.message
    let trailer ← (decodeTrailer
      (bytes.drop (bytes.length - pageCodecV1TrailerLen))).mapError fun err =>
        layoutError err.message
    let layout : PageLayoutContract := ⟨header, trailer⟩
    layout.validate
    let payload ← payloadSlice layout.header bytes
    validatePayloadIntegrity d layout.header payload layout.trailer
    pure (some layout)

def readPage (s : DiskPageStore d) (pageId : PageId) : Result (Option PageImage) := do
  validatePageId pageId
  match ← s.manager.readPage pageId with
  | none => pure none
  | some image =>
    match ← decodeLayoutContract d image.bytes with
    | none => pure none
    | some layout => do
      failIf (layout.header.pageId ≠ pageId)
        (layoutError "persisted page layout has mismatched page id")
      let found ← withLayout layout image.bytes
      pure (some found)

def writePage (image : PageImage) (durableLsn : Lsn) : Effect (DiskPageStore d) Error Unit := do
  let s ← get
  let layout ← lift (s.validateImageForStore image)
  lift (validateWalBeforePageFlush image durableLsn)
  let found ← lift (s.manager.extentForPage layout.header.pageId)
  lift (failIf found.isNone (layoutError "disk page store write requires allocated extent"))
  let encoded ← lift (imageWithV1Codec d image)
  onManager (FileDiskManager.writePage encoded durableLsn)

/-- Nothing is looked up but the extent. -/
def allocatePage (layout : PageLayoutContract) (durableLsn : Lsn) :
    Effect (DiskPageStore d) Error PageImage := do
  let s ← get
  lift (failIf (layout.header.pageSize ≠ s.pageSize)
    (layoutError "allocated page size does not match disk page store size"))
  lift layout.validate
  lift (validatePageId layout.header.pageId)
  let image ← lift (zeroedWithLayout layout)
  lift (validateWalBeforePageFlush image durableLsn)
  let found ← lift (s.manager.extentForPage layout.header.pageId)
  lift (failIf found.isNone
    (layoutError "disk page store allocation requires an allocated extent"))
  let durableImage ← lift (imageWithV1Codec d image)
  onManager (FileDiskManager.writePage durableImage durableLsn)
  pure durableImage

instance pageStore : PageStore (DiskPageStore d) :=
  ⟨DiskPageStore.pageSize, readPage, writePage, allocatePage⟩

/-! ## Encoded pages -/

open PageCodecV1

variable {h : PageHeader} {c : PageLayoutContract} {image : PageImage}

def bodyOf (bytes : Bytes) : Bytes := bytes.slice 112 (bytes.length - 160)

def trailerFor (d : PageDigest) (h : PageHeader) (body : Bytes) : PageTrailer :=
  integrityTrailerForPayload d h (body.take h.payloadLen.toNat)

def encodedBytes (d : PageDigest) (h : PageHeader) (body : Bytes) : Bytes :=
  headerBytes h ++ (body ++ trailerBytes (trailerFor d h body))

theorem length_trailerFor (d : PageDigest) (h : PageHeader) (body : Bytes) :
    (trailerBytes (trailerFor d h body)).length = 48 :=
  length_trailerBytes (payloadHash_spec d _).1

theorem length_encodedBytes (d : PageDigest) (h : PageHeader) (body : Bytes) :
    (encodedBytes d h body).length = body.length + 160 := by
  rw [encodedBytes, length_append, length_append, length_headerBytes, length_trailerFor]
  omega

theorem payload_le (hvalid : h.validate = .ok ()) (hstore : Storable h) :
    112 + h.payloadLen.toNat ≤ h.pageSize.bytes - 48 := by
  simp only [validate, validateExtents, ok_iff] at hvalid
  have hpayload := hvalid.2.2.2.2.2.1
  rw [hstore.payloadOffset, PageTrailer.v0Len] at hpayload
  have hoffset : (112 : UInt32).toNat = 112 := rfl
  omega

variable {body : Bytes}

theorem payloadSlice_encodedBytes (hstore : Storable h) {front back : Bytes}
    (hfront : front.length = 112) (hle : h.payloadLen.toNat ≤ body.length) :
    payloadSlice h (front ++ (body ++ back)) = .ok (body.take h.payloadLen.toNat) := by
  have hoffset : h.payloadOffset.toNat = 112 := by
    rw [hstore.payloadOffset]
    rfl
  simp only [payloadSlice, sliceAt, ok_iff, hoffset]
  constructor
  · rw [length_append, length_append, hfront]
    omega
  · rw [slice_append_right (by omega), hfront, slice_append_left (by omega)]
    rfl

theorem exists_parts (image : PageImage) : ∃ head tail,
    image.bytes = head ++ (bodyOf image.bytes ++ tail) ∧ head.length = 112 ∧ tail.length = 48 ∧
      (bodyOf image.bytes).length + 160 = image.pageSize.bytes := by
  have hlong := pageSize_bytes_ge image.pageSize
  rw [← image.length_eq] at hlong ⊢
  generalize image.bytes = bytes at hlong ⊢
  refine ⟨bytes.take 112, (bytes.drop 112).drop (bytes.length - 160), ?_, ?_, ?_, ?_⟩
  · rw [bodyOf, slice, take_append_drop, take_append_drop]
  · rw [length_take]
    omega
  · rw [length_drop, length_drop]
    omega
  · rw [bodyOf, length_slice (by omega)]
    omega

theorem length_encodedBytes_bodyOf (d : PageDigest) (h : PageHeader) (image : PageImage) :
    (encodedBytes d h (bodyOf image.bytes)).length = image.pageSize.bytes := by
  obtain ⟨-, -, -, -, -, hbody⟩ := exists_parts image
  rw [length_encodedBytes, hbody]

theorem header_valid (hlayout : image.layoutContract = some c) : c.header.validate = .ok () := by
  have hvalid := (image.layout_valid c hlayout).1
  simp only [PageLayoutContract.validate, ok_iff] at hvalid
  exact hvalid.1

theorem payload_le_bodyOf (hlayout : image.layoutContract = some c) (hstore : Storable c.header) :
    c.header.payloadLen.toNat ≤ (bodyOf image.bytes).length := by
  obtain ⟨-, -, -, -, -, hbody⟩ := exists_parts image
  have hle := payload_le (header_valid hlayout) hstore
  rw [(image.layout_valid c hlayout).2] at hle
  omega

theorem imageWithV1Codec_eq (d : PageDigest) (hlayout : image.layoutContract = some c)
    (hstore : Storable c.header) : ∃ encoded, imageWithV1Codec d image = .ok encoded ∧
      encoded.layoutContract = some ⟨c.header, trailerFor d c.header (bodyOf image.bytes)⟩ ∧
      encoded.bytes = encodedBytes d c.header (bodyOf image.bytes) := by
  have hheader := header_valid hlayout
  have hencoded := length_encodedBytes_bodyOf d c.header image
  rw [← (image.layout_valid c hlayout).2] at hencoded
  have hle := payload_le_bodyOf hlayout hstore
  obtain ⟨head, tail, hparts, hhead, htail, -⟩ := exists_parts image
  generalize bodyOf image.bytes = body at hencoded hle hparts ⊢
  have hpayload : payloadSlice c.header image.bytes = .ok (body.take c.header.payloadLen.toNat) := by
    rw [hparts]
    exact payloadSlice_encodedBytes hstore hhead hle
  have hrefreshed := integrityTrailer_valid d hheader hstore.pageId
    (body.take c.header.payloadLen.toNat)
  have htrailer : (trailerFor d c.header body).validate = .ok () := by
    simp only [PageLayoutContract.validate, ok_iff] at hrefreshed
    exact hrefreshed.2.1
  -- the header replaces the first 112 bytes, the trailer the last 48
  have hfront : image.bytes.overwrite 0 (headerBytes c.header) =
      headerBytes c.header ++ (body ++ tail) := by
    rw [hparts]
    exact overwrite_append [] _ (by rw [hhead, length_headerBytes])
  have hstart : (headerBytes c.header ++ (body ++ tail)).length - pageCodecV1TrailerLen =
      (headerBytes c.header ++ body).length := by
    rw [← append_assoc, length_append, htail, pageCodecV1TrailerLen, Nat.add_sub_cancel]
  have hback : (headerBytes c.header ++ (body ++ tail)).overwrite
      (headerBytes c.header ++ body).length (trailerBytes (trailerFor d c.header body)) =
      encodedBytes d c.header body := by
    have hwrite := overwrite_append (headerBytes c.header ++ body) []
      (htail.trans (length_trailerFor d c.header body).symm)
    simpa only [encodedBytes, append_nil, append_assoc] using hwrite
  let layout : PageLayoutContract := ⟨c.header, trailerFor d c.header body⟩
  refine ⟨⟨c.header.pageSize, encodedBytes d c.header body, some layout, hencoded,
    layout_valid_some hrefreshed⟩, ?_, rfl, rfl⟩
  simp only [imageWithV1Codec, refreshLayoutIntegrity, encodeHeader, encodeTrailer,
    validateV1FixedHeaderLayout, ok_iff, mapError_eq_ok]
  refine ⟨c, hlayout, layout, ⟨_, hpayload, hrefreshed, rfl⟩, headerBytes c.header,
    ⟨hheader, ⟨hstore.headerLen, hstore.payloadOffset⟩, rfl⟩, _, ⟨htrailer, rfl⟩, ?_⟩
  rw [hfront, hstart, withLayout_eq_ok]
  exact ⟨hrefreshed, hback ▸ hencoded, rfl, hback.symm, rfl⟩

theorem headerCrc_valid (hvalid : h.validate = .ok ()) {crc : UInt32} (hcrc : crc ≠ 0) :
    { h with headerCrc := crc }.validate = .ok () := by
  simp only [validate, validateIdentity, validateExtents, ok_iff] at hvalid ⊢
  obtain ⟨hidentity, h₁, h₂, h₃, h₄, h₅, h₆, h₇, h₈, -⟩ := hvalid
  exact ⟨hidentity, h₁, h₂, h₃, h₄, h₅, h₆, h₇, h₈, hcrc⟩

theorem magic_of_valid (hvalid : h.validate = .ok ()) : h.magic = pageMagic := by
  simp only [validate, validateIdentity, ok_iff] at hvalid
  exact hvalid.1.1

theorem readU32_encodedBytes (d : PageDigest) (h : PageHeader) (body : Bytes) :
    readU32 (encodedBytes d h body) 0 = h.magic := by
  simp [encodedBytes, headerBytes, headerBytesWith, leadBytes]

theorem stampPageIntegrityIfEnabled_encoded (mode : PageIntegrityMode)
    (hvalid : h.validate = .ok ()) (hstore : Storable h)
    (hlayout : image.layoutContract = some ⟨h, trailerFor d h body⟩)
    (hbytes : image.bytes = encodedBytes d h body) :
    ∃ stamped crc, stampPageIntegrityIfEnabled mode image = .ok stamped ∧ crc ≠ 0 ∧
      stamped.bytes = encodedBytes d { h with headerCrc := crc } body := by
  cases mode with
  | none =>
    have hcrc : h.headerCrc ≠ 0 := by
      simp only [validate, validateExtents, ok_iff] at hvalid
      exact hvalid.2.2.2.2.2.2.2.2.2
    exact ⟨image, h.headerCrc, rfl, hcrc, hbytes⟩
  | headerCrc32 =>
    have hlen : (encodedBytes d h body).length = image.pageSize.bytes := by
      rw [← hbytes, image.length_eq]
    have hlong := pageSize_bytes_ge image.pageSize
    generalize hcrcEq : computeIntegrityCrc32 image.bytes = crc
    have hcrc : crc ≠ 0 := by
      rw [← hcrcEq]
      exact crc32Masking_ne_zero _ _
    have hmarked : validatePersistedLayoutMarker image.bytes = .ok true := by
      rw [validatePersistedLayoutMarker_eq_true, hbytes,
        readPersistedMagic, readU32_encodedBytes, magic_of_valid hvalid, failIf,
        if_neg (by omega)]
      rfl
    have hstamp := stampBytes_headerBytes h (body ++ trailerBytes (trailerFor d h body)) crc
    rw [← encodedBytes, ← hbytes] at hstamp
    have hsize := (image.layout_valid _ hlayout).2
    let layout : PageLayoutContract := ⟨{ h with headerCrc := crc }, trailerFor d h body⟩
    have hlayoutValid : layout.validate = .ok () :=
      integrityTrailer_valid d (headerCrc_valid hvalid hcrc) hstore.pageId _
    have hstampedLen : (encodedBytes d { h with headerCrc := crc } body).length =
        layout.header.pageSize.bytes := by
      rw [length_encodedBytes, ← length_encodedBytes d h, hlen]
      exact congrArg PageSize.bytes hsize.symm
    let stamped : PageImage := ⟨h.pageSize, encodedBytes d { h with headerCrc := crc } body,
      some layout, hstampedLen, layout_valid_some hlayoutValid⟩
    refine ⟨stamped, crc, ?_, hcrc, rfl⟩
    simp only [stampPageIntegrityIfEnabled, ok_iff, mapError_eq_ok, withLayout_eq_ok, hcrcEq]
    exact ⟨_, hlayout, true, hmarked, by simp, _, hstamp, hlayoutValid, hstampedLen, rfl, rfl, rfl⟩

theorem decodeLayoutContract_encodedBytes (d : PageDigest) (hvalid : h.validate = .ok ())
    (hstore : Storable h) (hlen : (encodedBytes d h body).length = h.pageSize.bytes) :
    decodeLayoutContract d (encodedBytes d h body) = .ok (some ⟨h, trailerFor d h body⟩) := by
  have hlayout := integrityTrailer_valid d hvalid hstore.pageId (body.take h.payloadLen.toNat)
  have htrailer : (trailerFor d h body).validate = .ok () := by
    simp only [PageLayoutContract.validate, ok_iff] at hlayout
    exact hlayout.2.1
  have hnonzero : (encodedBytes d h body).all (· = 0) = false := by
    -- the first byte of the magic number
    rw [encodedBytes, headerBytes, headerBytesWith, leadBytes, magic_of_valid hvalid]
    rfl
  have htake : (encodedBytes d h body).take pageCodecV1HeaderLen = headerBytes h := by
    rw [encodedBytes, pageCodecV1HeaderLen, ← length_headerBytes h, take_left]
  have hdrop : (encodedBytes d h body).drop
      ((encodedBytes d h body).length - pageCodecV1TrailerLen) =
        trailerBytes (trailerFor d h body) := by
    have hfront : (headerBytes h ++ body).length =
        (encodedBytes d h body).length - pageCodecV1TrailerLen := by
      rw [length_append, length_headerBytes, length_encodedBytes, pageCodecV1TrailerLen]
      omega
    rw [← hfront, encodedBytes, ← append_assoc, drop_left]
  have hle := payload_le hvalid hstore
  rw [← hlen, length_encodedBytes] at hle
  have hpayload : payloadSlice h (encodedBytes d h body) = .ok (body.take h.payloadLen.toNat) :=
    payloadSlice_encodedBytes hstore (length_headerBytes h) (by omega)
  have hintegrity : validatePayloadIntegrity d h (body.take h.payloadLen.toNat)
      (trailerFor d h body) = .ok () := by
    simp only [validatePayloadIntegrity, ok_iff]
    exact ⟨rfl, rfl, rfl⟩
  simp only [decodeLayoutContract, ok_iff, hnonzero, htake, hdrop,
    decodeHeader_eq_ok.mpr ⟨rfl, hvalid, hstore.headerLen, hstore.payloadOffset, hstore.previous,
      hstore.next⟩, decodeTrailer_eq_ok.mpr ⟨rfl, htrailer, (payloadHash_spec d _).1⟩]
  refine ⟨?_, ?_⟩
  · rw [length_encodedBytes, pageCodecV1HeaderLen, pageCodecV1TrailerLen]
    omega
  · rw [if_neg (by simp)]
    simp only [ok_iff, mapError_eq_ok]
    exact ⟨h, rfl, _, rfl, hlayout, _, hpayload, hintegrity, rfl⟩

end DiskPageStore

end Andromeda
