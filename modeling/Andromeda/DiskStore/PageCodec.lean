import Andromeda.DiskStore.PageIo

/-!
# The page codec

`PageCodecV1`: a header of 112 bytes with its own checksum, the payload and free space as they
are, and a trailer of 48 bytes with the checks of the payload. A page that the codec wrote is
decoded to the layout it was written from.
-/

namespace Andromeda

open Fallible LittleEndian List PageHeader FileDiskManager

/-- `Sha256::digest`; all that is used of it is its length. -/
structure PageDigest where
  digest : Bytes → Bytes
  length_digest : ∀ payload, (digest payload).length = 32

def payloadCrc64 (payload : Bytes) : UInt64 := nonzero (fnvBytes fnvOffset payload)

def payloadHash (d : PageDigest) (payload : Bytes) : Bytes :=
  let hash := d.digest payload
  if hash = replicate 32 0 then replicate 32 1 else hash

/-- The FNV state over the words that tie a page to its payload. -/
def tornWriteState (header : PageHeader) (crc : UInt64) : UInt64 :=
  [header.magic.toUInt64, header.formatVersion.toUInt64, header.pageId, header.objectId,
    header.allocationId, header.pageLsn, header.pageEpoch, crc, header.payloadOffset.toUInt64,
    header.payloadLen.toUInt64].foldl fnvU64 fnvOffset

def tornWriteGuard (header : PageHeader) (crc : UInt64) : UInt64 :=
  let state := tornWriteState header crc
  if state = 0 ∨ state = header.pageId then state ^^^ 0xA9D378B54C2F6101 else state

def integrityTrailerForPayload (d : PageDigest) (header : PageHeader) (payload : Bytes) :
    PageTrailer :=
  ⟨payloadCrc64 payload, payloadHash d payload, tornWriteGuard header (payloadCrc64 payload)⟩

def validatePayloadIntegrity (d : PageDigest) (header : PageHeader) (payload : Bytes)
    (trailer : PageTrailer) : Result Unit := do
  let expected := integrityTrailerForPayload d header payload
  failIf (trailer.payloadCrc64 ≠ expected.payloadCrc64) (storageError "page payload CRC mismatch")
  failIf (trailer.pageHash ≠ expected.pageHash) (storageError "page payload hash mismatch")
  failIf (trailer.tornWriteGuard ≠ expected.tornWriteGuard)
    (storageError "page torn-write guard mismatch")

theorem payloadHash_spec (d : PageDigest) (payload : Bytes) :
    (payloadHash d payload).length = 32 ∧ payloadHash d payload ≠ replicate 32 0 := by
  rw [payloadHash]
  split
  · exact ⟨rfl, by decide⟩
  · rename_i hne
    exact ⟨d.length_digest payload, hne⟩

variable {header : PageHeader}

theorem tornWriteGuard_spec (h : header.pageId ≠ 0xA9D378B54C2F6101) (crc : UInt64) :
    tornWriteGuard header crc ≠ 0 ∧ tornWriteGuard header crc ≠ header.pageId := by
  rw [tornWriteGuard]
  generalize tornWriteState header crc = state
  split_ifs with hcases
  · rcases hcases with hzero | hsame
    · rw [hzero, UInt64.zero_xor]
      exact ⟨by decide, h.symm⟩
    · rw [hsame]
      refine ⟨fun heq => h (UInt64.xor_eq_zero_iff.mp heq), fun heq => ?_⟩
      have hmask : header.pageId ^^^ 0xA9D378B54C2F6101 = header.pageId ^^^ 0 := by
        rw [heq, UInt64.xor_zero]
      exact absurd ((UInt64.xor_right_inj _).mp hmask) (by decide)
  · exact not_or.mp hcases

theorem integrityTrailer_valid (d : PageDigest) (hvalid : header.validate = .ok ())
    (hid : header.pageId ≠ 0xA9D378B54C2F6101) (payload : Bytes) :
    (⟨header, integrityTrailerForPayload d header payload⟩ : PageLayoutContract).validate = .ok () := by
  obtain ⟨hzero, hpage⟩ := tornWriteGuard_spec hid (payloadCrc64 payload)
  simp only [PageLayoutContract.validate, PageTrailer.validate, ok_iff, not_or]
  exact ⟨hvalid, ⟨⟨nonzero_ne_zero _, hzero⟩, (payloadHash_spec d payload).2⟩, hpage⟩

def pageSizeTag : PageSize → UInt16
  | .kiB16 => 1
  | .kiB32 => 2

def pageSizeFromTag (tag : UInt16) : Result PageSize :=
  if tag = 1 then .ok .kiB16
  else if tag = 2 then .ok .kiB32
  else .error (storageError "unknown page size tag")

def pageTypeTag : PageType → UInt16
  | .fixedRow => 1
  | .hybridRow => 2
  | .manifest => 3
  | .free => 4

def pageTypeFromTag (tag : UInt16) : Result PageType :=
  if tag = 1 then .ok .fixedRow
  else if tag = 2 then .ok .hybridRow
  else if tag = 3 then .ok .manifest
  else if tag = 4 then .ok .free
  else .error (storageError "unknown page type tag")

theorem pageSizeFromTag_eq_ok {tag : UInt16} {size : PageSize} :
    pageSizeFromTag tag = .ok size ↔ tag = pageSizeTag size := by
  unfold pageSizeFromTag
  split_ifs <;> cases size <;> simp_all [pageSizeTag]

theorem pageTypeFromTag_eq_ok {tag : UInt16} {type : PageType} :
    pageTypeFromTag tag = .ok type ↔ tag = pageTypeTag type := by
  unfold pageTypeFromTag
  split_ifs <;> cases type <;> simp_all [pageTypeTag]

def pageCodecV1TrailerLen : Nat := 48

namespace PageCodecV1

def validateV1FixedHeaderLayout (header : PageHeader) : Result Unit := do
  failIf (header.headerLen ≠ 112)
    (storageError "page codec v1 header_len must match fixed header length")
  failIf (header.payloadOffset ≠ 112)
    (storageError "page codec v1 payload_offset must match fixed header length")

def leadBytes (h : PageHeader) : Bytes :=
  u32 h.magic ++ (u16 h.formatVersion ++ (u16 (pageSizeTag h.pageSize) ++
    (u16 (pageTypeTag h.pageType) ++ (u16 h.flags ++ (u64 h.pageId ++ (u64 h.objectId ++
      (u64 h.allocationId ++ (u64 h.pageLsn ++ (u64 h.pageEpoch ++ (u64 (h.previousPageId.getD 0) ++
        (u64 (h.nextPageId.getD 0) ++ (u16 h.headerLen ++ (replicate 2 0 ++
          (u32 h.payloadOffset ++ (u32 h.payloadLen ++ (u32 h.freeStart ++ (u32 h.freeEnd ++
            (u32 h.freeBytes ++ (u16 h.slotCount ++ (replicate 2 0 ++
              u32 h.rowCount))))))))))))))))))))

def headerBytesWith (h : PageHeader) (integrity : Bytes) : Bytes :=
  leadBytes h ++ (u32 h.headerCrc ++ (integrity ++ replicate 4 0))

/-- The checksum is taken while its own place is still zero. -/
def headerBytes (h : PageHeader) : Bytes :=
  headerBytesWith h (u32 (headerIntegrityCrc32 (headerBytesWith h (replicate 4 0))))

def encodeHeader (header : PageHeader) : Result Bytes := do
  header.validate
  validateV1FixedHeaderLayout header
  pure (headerBytes header)

/-- A page id of zero stands for no link. -/
def linkFromWord (word : UInt64) : Option PageId := if word = 0 then none else some word

def readHeader (bytes : Bytes) (pageSize : PageSize) (pageType : PageType) : PageHeader where
  magic := readU32 bytes 0
  formatVersion := readU16 bytes 4
  pageSize := pageSize
  pageType := pageType
  pageId := readU64 bytes 12
  objectId := readU64 bytes 20
  allocationId := readU64 bytes 28
  pageLsn := readU64 bytes 36
  pageEpoch := readU64 bytes 44
  previousPageId := linkFromWord (readU64 bytes 52)
  nextPageId := linkFromWord (readU64 bytes 60)
  headerLen := readU16 bytes 68
  payloadOffset := readU32 bytes 72
  payloadLen := readU32 bytes 76
  freeStart := readU32 bytes 80
  freeEnd := readU32 bytes 84
  freeBytes := readU32 bytes 88
  slotCount := readU16 bytes 92
  rowCount := readU32 bytes 96
  flags := readU16 bytes 10
  headerCrc := readU32 bytes 100

def decodeHeader (bytes : Bytes) : Result PageHeader := do
  failIf (bytes.length ≠ pageCodecV1HeaderLen)
    (storageError "page codec v1 header length must match fixed header length")
  failIf (readU32 bytes 0 ≠ pageMagic)
    (storageError "page codec v1 little-endian magic mismatch")
  failIf (readU16 bytes 4 ≠ formatVersionV0)
    (storageError "unsupported page codec v1 format version")
  failIf (readU16 bytes 68 ≠ 112)
    (storageError "page codec v1 header_len must match fixed header length")
  failIf (readU32 bytes 72 ≠ 112)
    (storageError "page codec v1 payload_offset must match fixed header length")
  failIf (bytes.slice 70 2 ≠ replicate 2 0)
    (storageError "page codec v1 nonzero reserved header bytes at offset 70")
  failIf (bytes.slice 94 2 ≠ replicate 2 0)
    (storageError "page codec v1 nonzero reserved header bytes at offset 94")
  failIf (bytes.slice 108 4 ≠ replicate 4 0)
    (storageError "page codec v1 nonzero reserved header bytes at offset 108")
  let pageSize ← pageSizeFromTag (readU16 bytes 6)
  let pageType ← pageTypeFromTag (readU16 bytes 8)
  let header := readHeader bytes pageSize pageType
  header.validate
  failIf (readU32 bytes pageCodecV1HeaderIntegrityOffset = 0)
    (storageError "page codec v1 header integrity CRC is zero")
  failIf (readU32 bytes pageCodecV1HeaderIntegrityOffset ≠ headerIntegrityCrc32 bytes)
    (storageError "page codec v1 header integrity CRC mismatch")
  pure header

def trailerBytes (t : PageTrailer) : Bytes :=
  u64 t.payloadCrc64 ++ (t.pageHash ++ u64 t.tornWriteGuard)

def encodeTrailer (trailer : PageTrailer) : Result Bytes := do
  trailer.validate
  pure (trailerBytes trailer)

def decodeTrailer (bytes : Bytes) : Result PageTrailer := do
  failIf (bytes.length ≠ pageCodecV1TrailerLen)
    (storageError "page codec v1 trailer length must match fixed trailer length")
  let trailer : PageTrailer := ⟨readU64 bytes 0, bytes.slice 8 32, readU64 bytes 40⟩
  trailer.validate
  pure trailer

/-! ## Round trips -/

variable {h : PageHeader}

theorem length_leadBytes (h : PageHeader) : (leadBytes h).length = 100 := by
  simp [leadBytes]

theorem length_headerBytesWith {integrity : Bytes} (hlen : integrity.length = 4) :
    (headerBytesWith h integrity).length = 112 := by
  simp [headerBytesWith, length_leadBytes, hlen]

theorem length_headerBytes (h : PageHeader) : (headerBytes h).length = 112 :=
  length_headerBytesWith (length_u32 _)

theorem headerIntegrityCrc32_headerBytesWith {xs ys : Bytes} (hx : xs.length = 4)
    (hy : ys.length = 4) :
    headerIntegrityCrc32 (headerBytesWith h xs) = headerIntegrityCrc32 (headerBytesWith h ys) := by
  apply crc32Masking_congr
  · rw [length_headerBytesWith hx, length_headerBytesWith hy]
  · intro i hi
    simp only [inIntegrityField, decide_eq_false_iff_not] at hi
    have hlead := length_leadBytes h
    by_cases hlt : i < 104
    · have hsplit : ∀ zs : Bytes, headerBytesWith h zs =
          (leadBytes h ++ u32 h.headerCrc) ++ (zs ++ replicate 4 0) := by
        intro zs
        rw [headerBytesWith, append_assoc]
      have hfront : i < (leadBytes h ++ u32 h.headerCrc).length := by
        rw [length_append, hlead, length_u32]
        omega
      rw [hsplit, hsplit, getElem?_append_left hfront, getElem?_append_left hfront]
    · have hsplit : ∀ zs : Bytes, headerBytesWith h zs =
          (leadBytes h ++ (u32 h.headerCrc ++ zs)) ++ replicate 4 0 := by
        intro zs
        rw [headerBytesWith, append_assoc, append_assoc]
      have hfront : ∀ zs : Bytes, zs.length = 4 →
          (leadBytes h ++ (u32 h.headerCrc ++ zs)).length = 108 := by
        intro zs hz
        rw [length_append, length_append, hlead, length_u32, hz]
      rw [hsplit, hsplit, getElem?_append_right (by rw [hfront xs hx]; omega),
        getElem?_append_right (by rw [hfront ys hy]; omega), hfront xs hx, hfront ys hy]

/-- What the codec asks of a header beyond the layout checks: its fixed lengths, links that are not
to page zero, and not the one page id on which a torn-write guard can fall. -/
structure Storable (h : PageHeader) : Prop where
  headerLen : h.headerLen = 112
  payloadOffset : h.payloadOffset = 112
  previous : h.previousPageId ≠ some 0
  next : h.nextPageId ≠ some 0
  pageId : h.pageId ≠ 0xA9D378B54C2F6101

theorem linkFromWord_eq_iff {word : UInt64} {link : Option PageId} :
    linkFromWord word = link ↔ word = link.getD 0 ∧ link ≠ some 0 := by
  unfold linkFromWord
  cases link <;> split_ifs <;> aesop

variable {bytes : Bytes}

theorem headerBytesWith_eq_iff (hbytes : bytes.length = 112) {crc : UInt32} :
    headerBytesWith h (u32 crc) = bytes ∧ h.previousPageId ≠ some 0 ∧ h.nextPageId ≠ some 0 ↔
      readU16 bytes 6 = pageSizeTag h.pageSize ∧ readU16 bytes 8 = pageTypeTag h.pageType ∧
        bytes.slice 70 2 = replicate 2 0 ∧ bytes.slice 94 2 = replicate 2 0 ∧
        bytes.slice 108 4 = replicate 4 0 ∧ readU32 bytes 104 = crc ∧
        readHeader bytes h.pageSize h.pageType = h := by
  have hrest : bytes.drop 108 = bytes.slice 108 4 :=
    (take_of_length_le (by rw [length_drop]; omega)).symm
  have hstart : headerBytesWith h (u32 crc) = bytes ↔
      headerBytesWith h (u32 crc) = bytes.drop 0 := Iff.rfl
  rw [hstart]
  cases h
  simp (disch := omega) only [headerBytesWith, leadBytes, readHeader, append_assoc,
    u64_append_eq_drop, u32_append_eq_drop, u16_append_eq_drop, append_eq_drop (replicate 2 0),
    length_replicate, Nat.reduceAdd, ← slice.eq_def, linkFromWord_eq_iff,
    PageHeader.mk.injEq, hrest]
  tauto

theorem decodeHeader_eq_ok : decodeHeader bytes = .ok h ↔ headerBytes h = bytes ∧
    h.validate = .ok () ∧ h.headerLen = 112 ∧ h.payloadOffset = 112 ∧
      h.previousPageId ≠ some 0 ∧ h.nextPageId ≠ some 0 := by
  simp only [decodeHeader, ok_iff, ne_eq, pageSizeFromTag_eq_ok, pageTypeFromTag_eq_ok]
  constructor
  · rintro ⟨hlen, -, -, hheaderLen, hoffset, h70, h94, h108, size, hsize, type, htype, hvalid, -,
      hcrc, rfl⟩
    obtain ⟨hbytes, hlinks⟩ := (headerBytesWith_eq_iff (h := readHeader bytes size type) hlen).mpr
      ⟨hsize, htype, h70, h94, h108, rfl, rfl⟩
    have hplace : headerIntegrityCrc32 (headerBytesWith (readHeader bytes size type)
        (replicate 4 0)) = readU32 bytes 104 := by
      rw [headerIntegrityCrc32_headerBytesWith length_replicate (length_u32 (readU32 bytes 104)),
        hbytes]
      exact hcrc.symm
    exact ⟨by rw [headerBytes, hplace, hbytes], hvalid, hheaderLen, hoffset, hlinks⟩
  · rintro ⟨rfl, hvalid, hheaderLen, hoffset, hlinks⟩
    obtain ⟨hsize, htype, h70, h94, h108, hcrc, hread⟩ :=
      (headerBytesWith_eq_iff (length_headerBytes h)).mp ⟨rfl, hlinks⟩
    have hidentity := hvalid
    simp only [validate, validateIdentity, ok_iff] at hidentity
    have hsame : headerIntegrityCrc32 (headerBytes h) =
        headerIntegrityCrc32 (headerBytesWith h (replicate 4 0)) :=
      headerIntegrityCrc32_headerBytesWith (length_u32 _) length_replicate
    -- the words checked first are fields of the header that is read
    exact ⟨length_headerBytes h, (congrArg magic hread).trans hidentity.1.1,
      (congrArg formatVersion hread).trans hidentity.1.2.1,
      (congrArg headerLen hread).trans hheaderLen,
      (congrArg payloadOffset hread).trans hoffset, h70, h94, h108, _, hsize, _, htype,
      by rw [hread]; exact hvalid, fun hzero => crc32Masking_ne_zero _ _ (hcrc.symm.trans hzero),
      hcrc.trans hsame.symm, hread⟩

theorem stampBytes_headerBytes (h : PageHeader) (rest : Bytes) (crc : UInt32) :
    stampBytes (headerBytes h ++ rest) crc =
      .ok (headerBytes { h with headerCrc := crc } ++ rest) := by
  generalize hold : u32 (headerIntegrityCrc32 (headerBytesWith h (replicate 4 0))) = old
  have holdLen : old.length = 4 := by rw [← hold, length_u32]
  have hsplit : headerBytes h ++ rest =
      leadBytes h ++ (u32 h.headerCrc ++ (old ++ (replicate 4 0 ++ rest))) := by
    rw [headerBytes, hold, headerBytesWith]
    simp
  have hlead := length_leadBytes h
  -- the checksum of the page goes in first
  have hfirst : (headerBytes h ++ rest).overwrite 100 (u32 crc) =
      headerBytesWith { h with headerCrc := crc } old ++ rest := by
    have hword : (u32 h.headerCrc).length = (u32 crc).length := by rw [length_u32, length_u32]
    have hwrite := overwrite_append (leadBytes h) (old ++ (replicate 4 0 ++ rest)) hword
    rw [hlead, ← hsplit] at hwrite
    rw [hwrite, headerBytesWith]
    simp only [append_assoc]
    rfl
  have hfront : (leadBytes h ++ u32 crc).length = 104 := by
    rw [length_append, hlead, length_u32]
  have hsecond : ∀ word : Bytes, word.length = 4 →
      (headerBytesWith { h with headerCrc := crc } old ++ rest).overwrite 104 word =
        headerBytesWith { h with headerCrc := crc } word ++ rest := by
    intro word hword
    have hwrite := overwrite_append (leadBytes h ++ u32 crc) (replicate 4 0 ++ rest)
      (holdLen.trans hword.symm)
    rw [hfront] at hwrite
    have hjoin : ∀ zs : Bytes, headerBytesWith { h with headerCrc := crc } zs ++ rest =
        (leadBytes h ++ u32 crc) ++ (zs ++ (replicate 4 0 ++ rest)) := by
      intro zs
      simp only [headerBytesWith, append_assoc]
      rfl
    rw [hjoin, hwrite, hjoin]
  have hlen := length_headerBytesWith (h := { h with headerCrc := crc }) holdLen
  have hcrc : headerIntegrityCrc32 (headerBytesWith { h with headerCrc := crc } old) =
      headerIntegrityCrc32 (headerBytesWith { h with headerCrc := crc } (replicate 4 0)) :=
    headerIntegrityCrc32_headerBytesWith holdLen length_replicate
  simp only [stampBytes, writePersistedHeaderCrc, ok_iff]
  refine ⟨_, ⟨?_, hfirst⟩, ?_⟩
  · rw [length_append, length_headerBytes, headerCrcOffset]
    omega
  · have htake : (headerBytesWith { h with headerCrc := crc } old ++ rest).take pageCodecV1HeaderLen =
        headerBytesWith { h with headerCrc := crc } old := by
      rw [pageCodecV1HeaderLen, ← hlen, take_left]
    rw [if_pos (by rw [length_append, hlen, pageCodecV1HeaderLen]; omega), pure_eq_ok, htake, hcrc]
    exact hsecond _ (length_u32 _)

variable {t : PageTrailer}

theorem length_trailerBytes (hhash : t.pageHash.length = 32) : (trailerBytes t).length = 48 := by
  simp [trailerBytes, hhash]

theorem trailerBytes_eq_iff (hbytes : bytes.length = 48) (hhash : t.pageHash.length = 32) :
    trailerBytes t = bytes ↔ ⟨readU64 bytes 0, bytes.slice 8 32, readU64 bytes 40⟩ = t := by
  obtain ⟨crc, hash, tornWriteGuard⟩ := t
  have hend : bytes.drop 48 = [] := drop_of_length_le hbytes.le
  have hstart : trailerBytes ⟨crc, hash, tornWriteGuard⟩ = bytes ↔
      u64 crc ++ (hash ++ (u64 tornWriteGuard ++ [])) = bytes.drop 0 := by
    rw [append_nil]
    exact Iff.rfl
  have hlength : hash.length = 32 := hhash
  simp (disch := omega) only [hstart, u64_append_eq_drop, append_eq_drop hash, hlength,
    Nat.reduceAdd, ← slice.eq_def, PageTrailer.mk.injEq, hend, and_true]

theorem decodeTrailer_eq_ok : decodeTrailer bytes = .ok t ↔
    trailerBytes t = bytes ∧ t.validate = .ok () ∧ t.pageHash.length = 32 := by
  simp only [decodeTrailer, ok_iff, ne_eq]
  constructor
  · rintro ⟨hlen, hvalid, rfl⟩
    have hbytes : bytes.length = 48 := hlen
    have hhash : (bytes.slice 8 32).length = 32 := length_slice (by omega)
    exact ⟨(trailerBytes_eq_iff hbytes hhash).mpr rfl, hvalid, hhash⟩
  · rintro ⟨rfl, hvalid, hhash⟩
    have hread := (trailerBytes_eq_iff (length_trailerBytes hhash) hhash).mp rfl
    exact ⟨length_trailerBytes hhash, by rw [hread]; exact hvalid, hread⟩

end PageCodecV1

end Andromeda
