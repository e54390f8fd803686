import Andromeda.DiskStore.PageStore

/-!
# Pages in their places

The store on disk knows a page by the bytes in its place of the file: zeros until it is
allocated, its encoded image afterwards. Writing a page fills its place and no other, and reading
it gives the page id, the page LSN and the payload back.
-/

namespace Andromeda

open Fallible LittleEndian PageCodecV1 FileDiskManager PageImage Effect List PageLayoutContract

def PageImage.payload (i : PageImage) : Option Bytes :=
  i.layoutContract.map fun c => i.bytes.slice c.header.payloadOffset.toNat c.header.payloadLen.toNat

def PageImage.SamePage (i j : PageImage) : Prop :=
  i.pageId = j.pageId ∧ i.pageLsn = j.pageLsn ∧ i.payload = j.payload

/-! ## Pages of the file -/

def ExtentDescriptor.pageOffset (e : ExtentDescriptor) (p : PageId) : Nat :=
  e.fileOffset.toNat + (p.toNat - e.firstPageId.toNat) * e.pageSize.bytes

namespace DiskPageStore

variable {d : PageDigest} {s s' : DiskPageStore d} {es : List ExtentDescriptor}
  {e : ExtentDescriptor} {p q : PageId} {c : PageLayoutContract} {image : PageImage}

def region (s : DiskPageStore d) (e : ExtentDescriptor) (p : PageId) : Bytes :=
  s.manager.volume.data.seen.slice (e.pageOffset p) e.pageSize.bytes

/-- The extents `es` are registered, are of the store's page size, and lie apart in the file. -/
structure Ready (s : DiskPageStore d) (es : List ExtentDescriptor) : Prop where
  mapped : s.manager.Mapped es
  apart : es.Pairwise ExtentDescriptor.FileApart
  size : ∀ e ∈ es, e.pageSize = s.pageSize
  queueClass : s.manager.tempWriteQueueClass ≠ .p0Durability
  within : ∀ e ∈ es, e.fileOffset.toNat + e.fileLen ≤ s.manager.volume.data.seen.length
  addressable : s.manager.volume.data.seen.length < UInt64.size

structure Encodes (d : PageDigest) (mode : PageIntegrityMode) (bytes : Bytes) (p : PageId)
    (image : PageImage) : Prop where
  layout : ∃ c crc, image.layoutContract = some c ∧ c.header.pageId = p ∧ Storable c.header ∧
    crc ≠ 0 ∧ bytes = encodedBytes d { c.header with headerCrc := crc } (bodyOf image.bytes)
  integrity : ∀ found : PageImage, found.bytes = bytes → validatePageIntegrity mode found = .ok ()

structure Stored (es : List ExtentDescriptor) (p : PageId) (image : PageImage)
    (s s' : DiskPageStore d) : Prop where
  ready : s'.Ready es
  pageSize : s'.pageSize = s.pageSize
  mode : s'.manager.pageIntegrityMode = s.manager.pageIntegrityMode
  encodes : ∀ e ∈ es, e.Covers p → Encodes d s.manager.pageIntegrityMode (s'.region e p) p image
  others : ∀ e ∈ es, ∀ q, e.Covers q → q ≠ p → s'.region e q = s.region e q

section

variable (h : s.Ready es) (he : e ∈ es)
include h he

theorem Ready.page_within (hcovers : e.Covers p) :
    e.pageOffset p + e.pageSize.bytes ≤ s.manager.volume.data.seen.length := by
  have hin := page_le_fileLen (h.mapped.valid e he) hcovers
  have hwithin := h.within e he
  rw [ExtentDescriptor.pageOffset]
  omega

theorem Ready.pageToFileOffset (hcovers : e.Covers p) :
    ∃ a : UInt64, s.manager.pageToFileOffset p = .ok a ∧ a.toNat = e.pageOffset p := by
  have hlt : e.pageOffset p < UInt64.size := by
    have hin := h.page_within he hcovers
    have haddr := h.addressable
    omega
  have ha : (UInt64.ofNat (e.pageOffset p)).toNat = e.pageOffset p := UInt64.toNat_ofNat_of_lt' hlt
  exact ⟨_, (h.mapped.pageToFileOffset he hcovers _).mpr ha, ha⟩

theorem Ready.pages_apart {e' : ExtentDescriptor} (he' : e' ∈ es)
    (hp : e.Covers p) (hq : e'.Covers q) (hne : p ≠ q) :
    e.pageOffset p + e.pageSize.bytes ≤ e'.pageOffset q ∨
      e'.pageOffset q + e'.pageSize.bytes ≤ e.pageOffset p := by
  have hdisjoint := h.mapped.pagesDisjoint fun x hx y hy hxy => h.apart.forall hx hy hxy
  obtain ⟨a, ha, haNat⟩ := h.pageToFileOffset he hp
  obtain ⟨b, hb, hbNat⟩ := h.pageToFileOffset he' hq
  have := hdisjoint p q e e' a b hne (h.mapped.extentForPage_iff.mpr ⟨he, hp⟩)
    (h.mapped.extentForPage_iff.mpr ⟨he', hq⟩) ha hb
  rwa [haNat, hbNat] at this

theorem length_region (hcovers : e.Covers p) : (s.region e p).length = e.pageSize.bytes :=
  length_slice (h.page_within he hcovers)

theorem Ready.page_ne_zero (hcovers : e.Covers p) : p ≠ 0 := by
  rintro rfl
  obtain ⟨hfirst, -⟩ := ExtentDescriptor.validate_eq_ok (h.mapped.valid e he)
  apply hfirst
  rw [← UInt64.toNat_inj]
  have := hcovers.1
  exact Nat.le_zero.mp this

end

/-! ## Writing on disk -/

theorem payload_encodedBytes (crc : UInt32) (hlayout : image.layoutContract = some c)
    (hstore : Storable c.header) :
    (encodedBytes d { c.header with headerCrc := crc } (bodyOf image.bytes)).slice
        c.header.payloadOffset.toNat c.header.payloadLen.toNat =
      image.bytes.slice c.header.payloadOffset.toNat c.header.payloadLen.toNat := by
  have hle := payload_le_bodyOf hlayout hstore
  obtain ⟨head, tail, hparts, hhead, -, -⟩ := exists_parts image
  have hoffset : c.header.payloadOffset.toNat = 112 := by
    rw [hstore.payloadOffset]
    rfl
  have hfront := length_headerBytes { c.header with headerCrc := crc }
  conv_rhs => rw [hparts]
  rw [hoffset, encodedBytes, slice_append_right (by omega), hfront, slice_append_left (by omega),
    slice_append_right (by omega), hhead, slice_append_left (by omega)]

theorem Ready.stored (h : s.Ready es) (he : e ∈ es) (hcovers : e.Covers c.header.pageId)
    (hlayout : image.layoutContract = some c) (hsize : image.pageSize = s.pageSize)
    (hstore : Storable c.header) {crc : UInt32} (hcrc : crc ≠ 0) {a : UInt64}
    (ha : a.toNat = e.pageOffset c.header.pageId) {encoded stamped : PageImage}
    (hbytes : stamped.bytes = encodedBytes d { c.header with headerCrc := crc } (bodyOf image.bytes))
    (hstamp : stampPageIntegrityIfEnabled s.manager.pageIntegrityMode encoded = .ok stamped) :
    Stored es c.header.pageId image s { s with
      manager := countTempWrite { s.manager with
        volume := s.manager.volume.steps (writeSteps c.header.pageId a.toNat stamped.bytes) } } := by
  have hin := h.page_within he hcovers
  have hlen : stamped.bytes.length = e.pageSize.bytes := by
    rw [hbytes, length_encodedBytes_bodyOf, hsize, h.size e he]
  have hfile : (s.manager.volume.data.seen.overwrite a.toNat stamped.bytes).length =
      s.manager.volume.data.seen.length := by
    rw [length_overwrite (by omega), hlen]
    omega
  refine ⟨⟨?_, h.apart, h.size, h.queueClass, ?_, ?_⟩, rfl, rfl, ?_, ?_⟩
  · exact ⟨h.mapped.valid, h.mapped.apart, h.mapped.entries, h.mapped.ordered, h.mapped.ranges⟩
  · intro e' he'
    change _ ≤ (s.manager.volume.data.seen.overwrite a.toNat stamped.bytes).length
    rw [hfile]
    exact h.within e' he'
  · change (s.manager.volume.data.seen.overwrite a.toNat stamped.bytes).length < _
    rw [hfile]
    exact h.addressable
  · intro e' he' hcovers'
    have heq := h.mapped.covers_unique he' he hcovers' hcovers
    subst heq
    have hregion : (s.manager.volume.data.seen.overwrite a.toNat stamped.bytes).slice
        (e'.pageOffset c.header.pageId) e'.pageSize.bytes = stamped.bytes := by
      rw [← ha, ← hlen]
      exact slice_overwrite_self _ _ _
    refine ⟨⟨c, crc, hlayout, rfl, hstore, hcrc, hregion.trans hbytes⟩, ?_⟩
    intro found hfound
    exact validatePageIntegrity_of_stamped hstamp (hfound.trans hregion)
  · intro e' he' q hq hne
    apply slice_overwrite_of_apart (h.page_within he' hq)
    rw [ha, hlen]
    exact h.pages_apart he' he hq hcovers hne

theorem Ready.put (h : s.Ready es) (he : e ∈ es) (hcovers : e.Covers c.header.pageId)
    (hlayout : image.layoutContract = some c) (hsize : image.pageSize = s.pageSize)
    (hstore : Storable c.header) {durableLsn : Lsn} (hlsn : c.header.pageLsn ≤ durableLsn) :
    ∃ encoded s', imageWithV1Codec d image = .ok encoded ∧ encoded.SamePage image ∧
      onManager (FileDiskManager.writePage encoded durableLsn) s = (.ok (), s') ∧
      Stored es c.header.pageId image s s' := by
  obtain ⟨encoded, hencode, hencodedLayout, hencodedBytes⟩ := imageWithV1Codec_eq d hlayout hstore
  obtain ⟨stamped, crc, hstamp, hcrc, hstampedBytes⟩ := stampPageIntegrityIfEnabled_encoded
    s.manager.pageIntegrityMode (header_valid hlayout) hstore hencodedLayout hencodedBytes
  obtain ⟨a, ha, haNat⟩ := h.pageToFileOffset he hcovers
  have hprepared : s.manager.prepareWrite encoded durableLsn = .ok (c.header.pageId, stamped) := by
    simp only [prepareWrite, pageId, pageLsn, hencodedLayout, Option.map_some,
      validatePageFlushBoundary, ok_iff]
    exact ⟨_, rfl, _, rfl, UInt64.not_lt.mpr hlsn, _, h.mapped.extentForPage_iff.mpr ⟨he, hcovers⟩,
      e, rfl, stamped, hstamp, rfl⟩
  have hoffset : s.manager.atomicWriteOffset c.header.pageId = .ok a := by
    simp only [atomicWriteOffset, ok_iff]
    exact ⟨h.queueClass, ha⟩
  have hsame : encoded.SamePage image := by
    refine ⟨?_, ?_, ?_⟩
    · rw [pageId, pageId, hencodedLayout, hlayout]
      rfl
    · rw [pageLsn, pageLsn, hencodedLayout, hlayout]
      rfl
    · rw [payload, payload, hencodedLayout, hlayout, hencodedBytes]
      exact congrArg some (payload_encodedBytes c.header.headerCrc hlayout hstore)
  let written : FileDiskManager := countTempWrite { s.manager with
    volume := s.manager.volume.steps (writeSteps c.header.pageId a.toNat stamped.bytes) }
  have hrun : FileDiskManager.writePage encoded durableLsn s.manager = (.ok (), written) := by
    rw [FileDiskManager.writePage, get_bind, hprepared, lift_ok_bind,
      atomicWritePage, get_bind, hoffset]
    rfl
  refine ⟨encoded, { s with manager := written }, hencode, hsame, ?_, ?_⟩
  · rw [onManager, zoom_eq_iff]
    exact ⟨written, hrun, rfl⟩
  · exact h.stored he hcovers hlayout hsize hstore hcrc haNat hstampedBytes hstamp

/-! ## Reading on disk -/

theorem Ready.manager_readPage (h : s.Ready es) (he : e ∈ es) (hcovers : e.Covers p)
    (hintegrity : ∀ found : PageImage, found.bytes = s.region e p →
      validatePageIntegrity s.manager.pageIntegrityMode found = .ok ()) :
    ∃ found, s.manager.readPage p = .ok (some found) ∧ found.bytes = s.region e p := by
  obtain ⟨a, ha, haNat⟩ := h.pageToFileOffset he hcovers
  let found : PageImage :=
    ⟨e.pageSize, s.region e p, none, length_region h he hcovers, layout_valid_none⟩
  refine ⟨found, ?_, rfl⟩
  rw [h.mapped.readPage_eq_some he hcovers ha, haNat]
  exact ⟨h.page_within he hcovers, rfl, rfl, rfl, hintegrity found rfl⟩

theorem readU32_of_zero {bytes : Bytes} (hzero : bytes.all (· = 0) = true) : readU32 bytes 0 = 0 := by
  have hfield : field bytes 0 4 = 0 := by
    apply decode_eq_zero
    intro b hb
    have hmem : b ∈ bytes := mem_of_mem_drop (mem_of_mem_take hb)
    exact of_decide_eq_true (all_eq_true.mp hzero b hmem)
  rw [readU32, hfield]
  rfl

theorem Ready.readPage_of_zero (h : s.Ready es) (he : e ∈ es) (hcovers : e.Covers p)
    (hzero : (s.region e p).all (· = 0) = true) : s.readPage p = .ok none := by
  have hlong := pageSize_bytes_ge e.pageSize
  have hlen := length_region h he hcovers
  have hmagic := readU32_of_zero hzero
  have hintegrity : ∀ found : PageImage, found.bytes = s.region e p →
      validatePageIntegrity s.manager.pageIntegrityMode found = .ok () := by
    intro found hfound
    cases s.manager.pageIntegrityMode with
    | none => rfl
    | headerCrc32 =>
      have hmarker : validatePersistedLayoutMarker found.bytes = .ok false := by
        simp only [validatePersistedLayoutMarker, readPersistedMagic, hfound, hmagic, ok_iff]
        refine ⟨0, ⟨by omega, rfl⟩, ?_⟩
        rw [if_pos rfl, if_pos hzero]
      simp only [validatePageIntegrity, Fallible.bind_eq_ok]
      exact ⟨false, hmarker, rfl⟩
  obtain ⟨found, hread, hbytes⟩ := h.manager_readPage he hcovers hintegrity
  have hdecode : decodeLayoutContract d found.bytes = .ok none := by
    simp only [decodeLayoutContract, ok_iff, hbytes]
    rw [if_pos hzero]
    refine ⟨?_, rfl⟩
    rw [hlen, pageCodecV1HeaderLen, pageCodecV1TrailerLen]
    omega
  simp only [readPage, validatePageId, ok_iff]
  refine ⟨h.page_ne_zero he hcovers, some found, hread, ?_⟩
  change (decodeLayoutContract d found.bytes >>= _) = _
  rw [hdecode]
  rfl

theorem Ready.readPage_of_encodes (h : s.Ready es) (he : e ∈ es) (hcovers : e.Covers p)
    (hencodes : Encodes d s.manager.pageIntegrityMode (s.region e p) p image) :
    ∃ found, s.readPage p = .ok (some found) ∧ found.SamePage image := by
  obtain ⟨c, crc, hlayout, rfl, hstore, hcrc, hbytes⟩ := hencodes.layout
  obtain ⟨found, hread, hfound⟩ := h.manager_readPage he hcovers hencodes.integrity
  have hheader := header_valid hlayout
  have hlen : (s.region e c.header.pageId).length = c.header.pageSize.bytes := by
    rw [hbytes, length_encodedBytes_bodyOf, (image.layout_valid c hlayout).2]
  have hstore' : Storable { c.header with headerCrc := crc } :=
    ⟨hstore.headerLen, hstore.payloadOffset, hstore.previous, hstore.next, hstore.pageId⟩
  have hdecode := decodeLayoutContract_encodedBytes d (headerCrc_valid hheader hcrc) hstore'
    (hbytes ▸ hlen)
  rw [← hbytes, ← hfound] at hdecode
  let layout : PageLayoutContract := ⟨{ c.header with headerCrc := crc },
    trailerFor d { c.header with headerCrc := crc } (bodyOf image.bytes)⟩
  have hlayoutValid : layout.validate = .ok () :=
    integrityTrailer_valid d (headerCrc_valid hheader hcrc) hstore.pageId _
  let result : PageImage :=
    ⟨c.header.pageSize, s.region e c.header.pageId, some layout, hlen,
      layout_valid_some hlayoutValid⟩
  refine ⟨result, ?_, ?_, ?_, ?_⟩
  · simp only [readPage, validatePageId, ok_iff]
    refine ⟨h.page_ne_zero he hcovers, some found, hread, ?_⟩
    change (decodeLayoutContract d found.bytes >>= _) = _
    rw [Fallible.bind_eq_ok]
    refine ⟨some layout, hdecode, ?_⟩
    simp only [ok_iff, Option.some.injEq, exists_eq_right, withLayout_eq_ok]
    exact ⟨rfl, hlayoutValid, hfound ▸ hlen, rfl, hfound.symm, rfl⟩
  · rw [pageId, pageId, hlayout]
    rfl
  · rw [pageLsn, pageLsn, hlayout]
    rfl
  · rw [payload, payload, hlayout]
    refine congrArg some ?_
    change (s.region e c.header.pageId).slice _ _ = _
    rw [hbytes]
    exact payload_encodedBytes crc hlayout hstore

end DiskPageStore

end Andromeda
