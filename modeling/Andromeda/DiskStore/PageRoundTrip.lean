import Andromeda.DiskStore.PageCodec
import Andromeda.Digest.Sha256

/-!
# Whole pages

`encode_page` checks the payload's CRC only, while `decode_page` also recomputes its hash and the
torn-write guard; the layout contract of `encode_page` in turn refuses a guard that is the page id,
which `decode_page` lets pass. The two round trips hold exactly where these checks agree.
-/

namespace Andromeda

open Fallible LittleEndian List

namespace PageCodecV1

structure DecodedPageV1 where
  header : PageHeader
  payload : Bytes
  trailer : PageTrailer
deriving DecidableEq

def encodePage (header : PageHeader) (payload : Bytes) (trailer : PageTrailer) : Result Bytes := do
  (⟨header, trailer⟩ : PageLayoutContract).validate
  failIf (payload.length ≠ header.payloadLen.toNat)
    (storageError "page payload length does not match header payload_len")
  failIf (payloadCrc64 payload ≠ trailer.payloadCrc64) (storageError "page payload CRC mismatch")
  let header ← encodeHeader header
  let trailer ← encodeTrailer trailer
  pure (header ++ (payload ++ trailer))

/-- `decode_page`; a `u32` length cannot overflow the offsets. -/
def decodePage (d : PageDigest) (bytes : Bytes) : Result DecodedPageV1 := do
  failIf (bytes.length < pageCodecV1HeaderLen + pageCodecV1TrailerLen)
    (storageError "page image is smaller than v1 header+trailer")
  let header ← decodeHeader (bytes.take pageCodecV1HeaderLen)
  let payloadEnd := pageCodecV1HeaderLen + header.payloadLen.toNat
  failIf (bytes.length ≠ payloadEnd + pageCodecV1TrailerLen)
    (storageError "page image length does not match header payload_len")
  let payload := bytes.slice pageCodecV1HeaderLen header.payloadLen.toNat
  let trailer ← decodeTrailer (bytes.drop payloadEnd)
  validatePayloadIntegrity d header payload trailer
  pure ⟨header, payload, trailer⟩

variable {d : PageDigest} {header h : PageHeader} {payload bytes : Bytes} {trailer : PageTrailer}

theorem encodePage_eq_ok : encodePage header payload trailer = .ok bytes ↔
    (⟨header, trailer⟩ : PageLayoutContract).validate = .ok () ∧
      payload.length = header.payloadLen.toNat ∧ payloadCrc64 payload = trailer.payloadCrc64 ∧
      header.headerLen = 112 ∧ header.payloadOffset = 112 ∧
      headerBytes header ++ (payload ++ trailerBytes trailer) = bytes := by
  simp only [encodePage, encodeHeader, encodeTrailer, validateV1FixedHeaderLayout,
    PageLayoutContract.validate, ok_iff, ne_eq]
  constructor
  · rintro ⟨hlayout, hlength, hcrc, _, ⟨-, ⟨hlen, hoffset⟩, rfl⟩, _, ⟨-, rfl⟩, hbytes⟩
    exact ⟨hlayout, hlength, hcrc, hlen, hoffset, hbytes⟩
  · rintro ⟨hlayout, hlength, hcrc, hlen, hoffset, hbytes⟩
    exact ⟨hlayout, hlength, hcrc, _, ⟨hlayout.1, ⟨hlen, hoffset⟩, rfl⟩, _, ⟨hlayout.2.1, rfl⟩,
      hbytes⟩

theorem decodePage_eq_ok {page : DecodedPageV1} : decodePage d bytes = .ok page ↔
    bytes.length = 160 + page.header.payloadLen.toNat ∧
      decodeHeader (bytes.take 112) = .ok page.header ∧
      bytes.slice 112 page.header.payloadLen.toNat = page.payload ∧
      decodeTrailer (bytes.drop (112 + page.header.payloadLen.toNat)) = .ok page.trailer ∧
      page.trailer = integrityTrailerForPayload d page.header page.payload := by
  obtain ⟨header, payload, trailer⟩ := page
  have hchecks : validatePayloadIntegrity d header payload trailer = .ok () ↔
      trailer = integrityTrailerForPayload d header payload := by
    cases trailer
    simp only [validatePayloadIntegrity, ok_iff, ne_eq]
    rw [integrityTrailerForPayload, PageTrailer.mk.injEq]
  simp only [decodePage, ok_iff, ne_eq, DecodedPageV1.mk.injEq]
  simp only [pageCodecV1HeaderLen, pageCodecV1TrailerLen]
  constructor
  · rintro ⟨-, _, hheader, hlen, _, htrailer, hvalid, rfl, rfl, rfl⟩
    exact ⟨by omega, hheader, rfl, htrailer, hchecks.mp hvalid⟩
  · rintro ⟨hlen, hheader, rfl, htrailer, hvalid⟩
    exact ⟨by omega, _, hheader, by omega, _, htrailer, hchecks.mpr hvalid, rfl, rfl, rfl⟩

/-! ## Round trips -/

/-- An encoded page is decoded to itself exactly when the trailer is the one of its payload and no
link is to page zero. -/
theorem decodePage_encodePage_iff (hhash : trailer.pageHash.length = 32)
    (hencode : encodePage header payload trailer = .ok bytes) :
    decodePage d bytes = .ok ⟨header, payload, trailer⟩ ↔ trailer.pageHash = payloadHash d payload ∧
        trailer.tornWriteGuard = tornWriteGuard header trailer.payloadCrc64 ∧
        header.previousPageId ≠ some 0 ∧ header.nextPageId ≠ some 0 := by
  obtain ⟨hlayout, hlength, hcrc, hheaderLen, hoffset, rfl⟩ := encodePage_eq_ok.mp hencode
  simp only [PageLayoutContract.validate, ok_iff] at hlayout
  have hheader := length_headerBytes header
  have htake : (headerBytes header ++ (payload ++ trailerBytes trailer)).take 112 =
      headerBytes header := take_left' hheader
  have hslice : (headerBytes header ++ (payload ++ trailerBytes trailer)).slice 112
      header.payloadLen.toNat = payload := by
    rw [slice, drop_left' hheader, take_left' hlength]
  have hdrop : (headerBytes header ++ (payload ++ trailerBytes trailer)).drop
      (112 + header.payloadLen.toNat) = trailerBytes trailer := by
    rw [← drop_drop, drop_left' hheader, drop_left' hlength]
  have htrailer : trailer = integrityTrailerForPayload d header payload ↔
      trailer.pageHash = payloadHash d payload ∧
        trailer.tornWriteGuard = tornWriteGuard header trailer.payloadCrc64 := by
    rw [← hcrc]
    cases trailer
    simp [integrityTrailerForPayload, hcrc]
  have htotal : (headerBytes header ++ (payload ++ trailerBytes trailer)).length =
      160 + header.payloadLen.toNat := by
    rw [length_append, length_append, hheader, hlength, length_trailerBytes hhash]
    omega
  simp only [decodePage_eq_ok, htotal, htake, hslice, hdrop, htrailer, decodeHeader_eq_ok,
    decodeTrailer_eq_ok, hlayout.1, hlayout.2.1, hhash, hheaderLen, hoffset, true_and]
  tauto

/-! Pages under the real digest. -/

def sha256Digest : PageDigest :=
  ⟨fun payload => (sha256 payload).bytes, fun payload => (sha256 payload).length_bytes⟩

def emptyHash : Bytes :=
  [0xe3, 0xb0, 0xc4, 0x42, 0x98, 0xfc, 0x1c, 0x14, 0x9a, 0xfb, 0xf4, 0xc8, 0x99, 0x6f, 0xb9, 0x24,
    0x27, 0xae, 0x41, 0xe4, 0x64, 0x9b, 0x93, 0x4c, 0xa4, 0x95, 0x99, 0x1b, 0x78, 0x52, 0xb8, 0x55]

def emptyHeader (pageId objectId allocationId pageLsn pageEpoch : UInt64) : PageHeader :=
  ⟨PageHeader.pageMagic, PageHeader.formatVersionV0, .kiB16, .fixedRow, pageId, objectId,
    allocationId, pageLsn, pageEpoch, none, none, 112, 112, 0, 112, 112, 0, 0, 0, 0, 1⟩

def emptyPage (hash : Bytes) (h : PageHeader) : DecodedPageV1 :=
  ⟨h, [], payloadCrc64 [], hash, tornWriteGuard h (payloadCrc64 [])⟩

def imageOf (page : DecodedPageV1) : Bytes :=
  headerBytes page.header ++ (page.payload ++ trailerBytes page.trailer)

def plainHash : Bytes :=
  [0x03, 0x90, 0x58, 0xc6, 0xf2, 0xc0, 0xcb, 0x49, 0x2c, 0x53, 0x3b, 0x0a, 0x4d, 0x14, 0xef, 0x77,
    0xcc, 0x0f, 0x78, 0xab, 0xcc, 0xce, 0xd5, 0x28, 0x7d, 0x84, 0xa1, 0xa2, 0x01, 0x1c, 0xfb, 0x81]

def plainHeader : PageHeader :=
  { emptyHeader 1 1 1 1 1 with payloadLen := 3, freeStart := 115, freeEnd := 115 }

def plainPage : DecodedPageV1 :=
  ⟨plainHeader, [1, 2, 3], payloadCrc64 [1, 2, 3], plainHash,
    tornWriteGuard plainHeader (payloadCrc64 [1, 2, 3])⟩

theorem plain_page_decoded : encodePage plainPage.header [1, 2, 3] plainPage.trailer =
      .ok (imageOf plainPage) ∧
    decodePage sha256Digest (imageOf plainPage) = .ok plainPage := by
  have hencode : encodePage plainPage.header [1, 2, 3] plainPage.trailer =
      .ok (imageOf plainPage) := by
    decide +kernel
  exact ⟨hencode, (decodePage_encodePage_iff rfl hencode).mpr
    ⟨by decide +kernel, by decide +kernel, nofun, nofun⟩⟩

/-- `encode_page` does not look at the hash. -/
def forgedPage : DecodedPageV1 := emptyPage (List.replicate 32 1) (emptyHeader 1 1 1 1 1)

theorem forged_hash_not_decoded :
    encodePage forgedPage.header [] forgedPage.trailer = .ok (imageOf forgedPage) ∧
      decodePage sha256Digest (imageOf forgedPage) =
        .error (storageError "page payload hash mismatch") :=
  ⟨by decide +kernel, by decide +kernel⟩

/-- An accepted page is encoded to its image exactly when its guard is not its page id. -/
theorem encodePage_decodePage_iff {page : DecodedPageV1} (hdecode : decodePage d bytes = .ok page) :
    encodePage page.header page.payload page.trailer = .ok bytes ↔
      page.trailer.tornWriteGuard ≠ page.header.pageId := by
  obtain ⟨hlen, hheader, hpayload, htrailer, hchecks⟩ := decodePage_eq_ok.mp hdecode
  obtain ⟨hfront, hvalid, hheaderLen, hoffset, -⟩ := decodeHeader_eq_ok.mp hheader
  obtain ⟨hback, hvalid', -⟩ := decodeTrailer_eq_ok.mp htrailer
  have hbytes : headerBytes page.header ++ (page.payload ++ trailerBytes page.trailer) = bytes := by
    rw [hfront, hback, ← hpayload, slice, ← drop_drop, take_append_drop, take_append_drop]
  have hlength : page.payload.length = page.header.payloadLen.toNat := by
    rw [← hpayload, length_slice (by omega)]
  have hcrc : payloadCrc64 page.payload = page.trailer.payloadCrc64 := by rw [hchecks]; rfl
  simp [encodePage_eq_ok, PageLayoutContract.validate, hvalid, hvalid', hlength, hcrc, hheaderLen, hoffset, hbytes]

theorem plain_image_encoded : ∃ page, decodePage sha256Digest (imageOf plainPage) = .ok page ∧
    encodePage page.header page.payload page.trailer = .ok (imageOf plainPage) := by
  have hdecode : decodePage sha256Digest (imageOf plainPage) = .ok plainPage := by decide +kernel
  exact ⟨_, hdecode, (encodePage_decodePage_iff hdecode).mpr (by decide +kernel)⟩

/-- The torn-write state of this header is zero, so the guard is the page id. -/
def zeroStatePage : DecodedPageV1 := emptyPage emptyHash
  (emptyHeader 0xA9D378B54C2F6101 2 13 0x190004FB040C0806 0x06050C1F0C390A08)

theorem zero_state_image_not_encoded :
    decodePage sha256Digest (imageOf zeroStatePage) = .ok zeroStatePage ∧
      encodePage zeroStatePage.header zeroStatePage.payload zeroStatePage.trailer =
        .error (storageError "page torn-write guard must not be only the page id") :=
  ⟨by decide +kernel, by decide +kernel⟩

end PageCodecV1

end Andromeda
