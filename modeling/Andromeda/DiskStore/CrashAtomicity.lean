import Andromeda.DiskStore.PageIo

/-!
# Crashes during a page write

A page is written to a temporary file, synced, then written in place and synced again. Opening
the manager after a crash looks at the data file only, so the temporary copy never helps: between
the write in place and its sync the page may come back as neither image.
-/

namespace Andromeda

open Fallible LittleEndian List MixedFile PageImage

/-! ## Fields of an overwritten buffer -/

theorem readU32_overwrite_self (xs : Bytes) (off : Nat) (v : UInt32) :
    readU32 (xs.overwrite off (u32 v)) off = v := by
  have hslice : (xs.overwrite off (u32 v)).slice off 4 = u32 v := by
    have := slice_overwrite_self xs off (u32 v)
    rwa [length_u32] at this
  change UInt32.ofNat (decode ((xs.overwrite off (u32 v)).slice off 4)) = v
  rw [hslice, u32, decode_encode v.toNat_lt, UInt32.ofNat_toNat]

theorem readU32_overwrite_of_apart {xs bytes : Bytes} {off off' : Nat}
    (hin : off' + 4 ≤ xs.length) (hapart : off' + 4 ≤ off ∨ off + bytes.length ≤ off') :
    readU32 (xs.overwrite off bytes) off' = readU32 xs off' := by
  have hslice := slice_overwrite_of_apart hin hapart
  exact congrArg (fun ys => UInt32.ofNat (decode ys)) hslice

namespace FileDiskManager

variable {m m' : FileDiskManager} {es : List ExtentDescriptor} {e : ExtentDescriptor} {p : PageId}
  {mode : PageIntegrityMode} {image stamped : PageImage}

/-! ## Stamped images -/

theorem pageSize_bytes_ge (s : PageSize) : 16384 ≤ s.bytes := by
  cases s <;> decide

variable {bytes : Bytes} {found : PageImage}

theorem stampBytes_eq_ok {stamped : Bytes} {crc : UInt32} (hlen : 16384 ≤ bytes.length)
    (h : stampBytes bytes crc = .ok stamped) :
    stamped.length = bytes.length ∧ readU32 stamped 100 = crc ∧
      ∀ i, ¬ (100 ≤ i ∧ i < 108) → stamped[i]? = bytes[i]? := by
  simp only [stampBytes, writePersistedHeaderCrc, headerCrcOffset, ok_iff] at h
  obtain ⟨written, ⟨-, rfl⟩, h⟩ := h
  have hwritten : (bytes.overwrite 100 (u32 crc)).length = bytes.length := by
    rw [length_overwrite (by omega), length_u32]
    omega
  rw [if_pos (by rw [hwritten, pageCodecV1HeaderLen]; omega), pure_eq_ok] at h
  subst h
  refine ⟨?_, ?_, ?_⟩
  · rw [length_overwrite (by rw [hwritten, pageCodecV1HeaderIntegrityOffset]; omega), hwritten,
      length_u32, pageCodecV1HeaderIntegrityOffset]
    omega
  · have hapart : 100 + 4 ≤ pageCodecV1HeaderIntegrityOffset := by decide
    rw [readU32_overwrite_of_apart (by rw [hwritten]; omega) (.inl hapart)]
    exact readU32_overwrite_self bytes 100 crc
  · intro i hi
    have hcases : i < 100 ∨ 108 ≤ i := by omega
    rcases hcases with hlt | hge
    · rw [getElem?_overwrite_before (by rw [pageCodecV1HeaderIntegrityOffset]; omega) (by omega),
        getElem?_overwrite_before (by omega) (by omega)]
    · rw [getElem?_overwrite_after (by rw [length_u32, pageCodecV1HeaderIntegrityOffset]; omega),
        getElem?_overwrite_after (by rw [length_u32]; omega)]

theorem readPersistedMagic_congr {xs ys : Bytes} (hlen : xs.length = ys.length)
    (h : ∀ i < 4, xs[i]? = ys[i]?) : readPersistedMagic xs = readPersistedMagic ys := by
  have hread : readU32 xs 0 = readU32 ys 0 := by
    have hslice : xs.slice 0 4 = ys.slice 0 4 := slice_congr fun i hi => by
      rw [Nat.zero_add]
      exact h i hi
    exact congrArg (fun zs => UInt32.ofNat (decode zs)) hslice
  rw [readPersistedMagic, readPersistedMagic, hlen, hread]

theorem validatePersistedLayoutMarker_eq_true : validatePersistedLayoutMarker bytes = .ok true ↔
      readPersistedMagic bytes = .ok PageHeader.pageMagic := by
  rw [validatePersistedLayoutMarker, bind_eq_ok]
  constructor
  · rintro ⟨magic, hmagic, hmarked⟩
    rw [hmagic]
    split at hmarked
    · split at hmarked
      · cases hmarked
      · cases hmarked
    · split at hmarked
      · rename_i heq
        rw [heq]
      · cases hmarked
  · intro hmagic
    refine ⟨_, hmagic, ?_⟩
    rw [if_neg (by decide), if_pos rfl]

theorem validatePageIntegrity_of_stamped
    (hstamp : stampPageIntegrityIfEnabled mode image = .ok stamped)
    (hbytes : found.bytes = stamped.bytes) : validatePageIntegrity mode found = .ok () := by
  cases mode with
  | none => rfl
  | headerCrc32 =>
    simp only [stampPageIntegrityIfEnabled, ok_iff, mapError_eq_ok,
      withLayout_eq_ok] at hstamp
    obtain ⟨layout, -, marked, hmarked, htrue, bytes, hbs, -, -, -, hsame, -⟩ := hstamp
    have hmarkedTrue : marked = true := by simpa using htrue
    rw [hmarkedTrue, validatePersistedLayoutMarker_eq_true] at hmarked
    have hlen : 16384 ≤ image.bytes.length := by
      rw [image.length_eq]
      exact pageSize_bytes_ge _
    obtain ⟨hlength, hcrc, hother⟩ := stampBytes_eq_ok hlen hbs
    have hmagic : readPersistedMagic found.bytes = .ok PageHeader.pageMagic := by
      rw [hbytes, hsame, readPersistedMagic_congr hlength fun i hi => hother i (by omega)]
      exact hmarked
    have hactual : computeIntegrityCrc32 found.bytes = computeIntegrityCrc32 image.bytes := by
      rw [hbytes, hsame]
      apply crc32Masking_congr hlength
      intro i hi
      apply hother
      intro hin
      simp only [inHeaderCrcField, inIntegrityField, Bool.or_eq_false_iff, decide_eq_false_iff_not]
        at hi
      omega
    have hexpected : readPersistedHeaderCrc found.bytes = .ok (computeIntegrityCrc32 image.bytes) := by
      rw [readPersistedHeaderCrc, hbytes, hsame, hlength, failIf,
        if_neg (by rw [headerCrcOffset]; omega)]
      exact congrArg Except.ok hcrc
    simp only [validatePageIntegrity, bind_eq_ok]
    refine ⟨true, validatePersistedLayoutMarker_eq_true.mpr hmagic, ?_⟩
    rw [if_neg (by simp)]
    simp only [ok_iff]
    exact ⟨_, hexpected, crc32Masking_ne_zero _ _, hactual.symm⟩

theorem validatePageIntegrity_congr (hbytes : found.bytes = image.bytes)
    (h : validatePageIntegrity mode image = .ok ()) :
    validatePageIntegrity mode found = .ok () := by
  cases mode with
  | none => rfl
  | headerCrc32 =>
    simp only [validatePageIntegrity, bind_eq_ok] at h ⊢
    obtain ⟨marked, hmarked, hrest⟩ := h
    refine ⟨marked, by rw [hbytes, hmarked], ?_⟩
    split
    · rfl
    · rename_i hnot
      rw [if_neg hnot] at hrest
      simpa only [hbytes, bind_eq_ok, exists_unit, failIf_eq_ok] using hrest

/-! ## Reading after a restart -/

theorem Mapped.readPage_eq_some (h : m.Mapped es) (he : e ∈ es) (hcovers : e.Covers p) {a : UInt64}
    (ha : m.pageToFileOffset p = .ok a) : m.readPage p = .ok (some found) ↔
      a.toNat + e.pageSize.bytes ≤ m.volume.data.seen.length ∧ found.pageSize = e.pageSize ∧
        found.bytes = m.volume.data.seen.slice a.toNat e.pageSize.bytes ∧
        found.layoutContract = none ∧ validatePageIntegrity m.pageIntegrityMode found = .ok () := by
  have hextent := h.extentForPage_iff.mpr ⟨he, hcovers⟩
  have hlen : boundedPageReadLen e.pageSize.bytes p = .ok e.pageSize.bytes := by
    have hbound : ¬ (e.pageSize.bytes = 0 ∨ maxFilePageReadBytes < e.pageSize.bytes) := by
      cases e.pageSize <;> decide
    rw [boundedPageReadLen, failIf, if_neg hbound]
    rfl
  simp only [readPage, hextent, readExtentPage, ha, hlen, readExact, ok_iff, Except.ok.injEq,
    exists_eq_left', Nat.not_lt, mapError_eq_ok, new_eq_ok, Option.some.injEq]
  constructor
  · rintro ⟨image, ⟨buffer, ⟨hin, rfl⟩, image', ⟨hsize, hbytes, hlayout⟩, hvalid, rfl⟩, rfl⟩
    exact ⟨hin, hsize, hbytes, hlayout, hvalid⟩
  · rintro ⟨hin, hsize, hbytes, hlayout, hvalid⟩
    exact ⟨found, ⟨_, ⟨hin, rfl⟩, found, ⟨hsize, hbytes, hlayout⟩, hvalid, rfl⟩, rfl⟩

def reopen (v : Volume) (mode : PageIntegrityMode) (es : List ExtentDescriptor) :
    Except Error Unit × FileDiskManager :=
  Effect.each registerExtent es (openWithIntegrity v mode)

theorem Mapped.reopen (h : m.Mapped es) (v : Volume) (mode : PageIntegrityMode) :
    ∃ m', reopen v mode es = (.ok (), m') ∧ m'.Mapped es ∧ m'.volume = v ∧
      m'.pageIntegrityMode = mode := by
  obtain ⟨m', hrun, hmapped, hvolume, hmode, -⟩ :=
    (mapped_open v mode).registerExtents h.valid (by rw [nil_append]; exact h.apart)
  rw [nil_append] at hmapped
  exact ⟨m', hrun, hmapped, hvolume, hmode⟩

end FileDiskManager

/-! ## What a crash leaves -/

namespace Volume

def settled (v : Volume) : Volume := { v with data := .stable v.data.seen }

/-- The files found after a crash; a temporary file may be gone. -/
structure CrashImage (v found : Volume) : Prop where
  data : ∃ b, v.data.CrashImage b ∧ found.data = .stable b
  temp : ∀ p, found.temp p = none ∨
    ∃ f b, v.temp p = some f ∧ f.CrashImage b ∧ found.temp p = some (.stable b)

theorem crashImage_of_data {v : Volume} {b : Bytes} (h : v.data.CrashImage b) :
    v.CrashImage ⟨.stable b, fun _ => none⟩ :=
  ⟨⟨b, h, rfl⟩, fun _ => .inl rfl⟩

theorem data_steps_take (v : Volume) (p : PageId) (off : Nat) (bytes : Bytes) (k : Nat) :
    (v.settled.steps ((writeSteps p off bytes).take k)).data =
      if k ≤ 3 then .stable v.data.seen
      else if k = 4 then ⟨v.data.seen.overwrite off bytes, v.data.seen⟩
      else .stable (v.data.seen.overwrite off bytes) := by
  match k with
  | 0 | 1 | 2 | 3 | 4 | 5 => rfl
  | k + 6 =>
    rw [take_of_length_le (by simp [writeSteps]), if_neg (by omega), if_neg (by omega)]
    rfl

end Volume

/-- The bytes of a page once it is overwritten with an image, which may be of another size. -/
def overwritten (old new : Bytes) : Bytes := (old.overwrite 0 new).take old.length

def DifferAtMostOnce (xs ys : Bytes) : Prop :=
  ∀ i j : Nat, xs[i]? ≠ ys[i]? → xs[j]? ≠ ys[j]? → i = j

/-- After `k` of the six operations a crash is harmless: the write in place has not begun, or
cannot be told from the old page, or is complete and synced, or is of a single byte. -/
def CrashSafe (k : Nat) (old new : Bytes) : Prop :=
  k ≤ 3 ∨ overwritten old new = old ∨ overwritten old new = new ∧ (5 ≤ k ∨ DifferAtMostOnce old new)

theorem getElem?_overwritten {old new : Bytes} {i : Nat} (hi : i < old.length) :
    (overwritten old new)[i]? = if i < new.length then new[i]? else old[i]? := by
  rw [overwritten, getElem?_take_of_lt hi]
  by_cases hnew : i < new.length
  · have hinside := getElem?_overwrite_inside old 0 hnew
    rw [Nat.zero_add] at hinside
    rw [if_pos hnew, hinside]
  · rw [if_neg hnew, getElem?_overwrite_after (by omega)]

theorem slice_overwrite_eq_overwritten {file : Bytes} (new : Bytes) {off len : Nat}
    (hin : off + len ≤ file.length) :
    (file.overwrite off new).slice off len = overwritten (file.slice off len) new := by
  have hlen := length_slice hin
  apply ext_getElem?
  intro i
  by_cases hi : i < len
  · rw [getElem?_slice hi, getElem?_overwritten (by omega)]
    by_cases hnew : i < new.length
    · rw [if_pos hnew, getElem?_overwrite_inside file off hnew]
    · rw [if_neg hnew, getElem?_overwrite_after (by omega), getElem?_slice hi]
  · rw [getElem?_eq_none, getElem?_eq_none]
    · rw [overwritten, length_take]
      omega
    · rw [slice, length_take]
      omega

namespace FileDiskManager

variable {m : FileDiskManager} {es : List ExtentDescriptor} {e : ExtentDescriptor}

/-- After a restart on these files the page is read and is one of the two images. -/
def ReadsOldOrNew (v : Volume) (mode : PageIntegrityMode) (es : List ExtentDescriptor) (p : PageId)
    (old new : Bytes) : Prop :=
  ∃ m', reopen v mode es = (.ok (), m') ∧
    ∃ found, m'.readPage p = .ok (some found) ∧ (found.bytes = old ∨ found.bytes = new)

variable {durableLsn : Lsn} {prepared : PageId × PageImage} {a : UInt64} {b file : Bytes}
  {image : PageImage} {new : Bytes}

theorem prepareWrite_eq_ok (h : m.prepareWrite image durableLsn = .ok prepared) :
    (∃ e, m.extentForPage prepared.1 = .ok (some e)) ∧
      stampPageIntegrityIfEnabled m.pageIntegrityMode image = .ok prepared.2 := by
  simp only [prepareWrite, ok_iff] at h
  obtain ⟨p, -, pageLsn, -, -, found, hfound, e, rfl, stamped, hstamp, rfl⟩ := h
  exact ⟨⟨e, hfound⟩, hstamp⟩

theorem Mapped.readsOldOrNew_iff (h : m.Mapped es) {old : PageImage}
    (hstamp : stampPageIntegrityIfEnabled m.pageIntegrityMode image = .ok prepared.2)
    (hold : m.readPage prepared.1 = .ok (some old)) (he : e ∈ es) (hcovers : e.Covers prepared.1)
    (ha : m.pageToFileOffset prepared.1 = .ok a) {v : Volume} (hv : v.data = .stable b)
    (hin : a.toNat + e.pageSize.bytes ≤ b.length) :
    ReadsOldOrNew v m.pageIntegrityMode es prepared.1 old.bytes prepared.2.bytes ↔
      b.slice a.toNat e.pageSize.bytes = old.bytes ∨
        b.slice a.toNat e.pageSize.bytes = prepared.2.bytes := by
  obtain ⟨m', hreopen, hmapped, hvolume, hmode⟩ := h.reopen v m.pageIntegrityMode
  have ha' : m'.pageToFileOffset prepared.1 = .ok a :=
    (hmapped.pageToFileOffset he hcovers a).mpr ((h.pageToFileOffset he hcovers a).mp ha)
  have hread : ∀ found, m'.readPage prepared.1 = .ok (some found) ↔ _ :=
    fun found => hmapped.readPage_eq_some he hcovers ha'
  simp only [hvolume, hv, hmode, stable] at hread
  constructor
  · rintro ⟨m'', hreopen', found, hfound, hbytes⟩
    rw [hreopen] at hreopen'
    cases hreopen'
    obtain ⟨-, -, hslice, -, -⟩ := (hread found).mp hfound
    rwa [← hslice]
  · intro hbytes
    let found : PageImage := ⟨e.pageSize, b.slice a.toNat e.pageSize.bytes, none,
      length_slice hin, layout_valid_none⟩
    have hvalid : validatePageIntegrity m.pageIntegrityMode found = .ok () := by
      rcases hbytes with hbytes | hbytes
      · obtain ⟨-, -, -, -, hvalid⟩ := (h.readPage_eq_some he hcovers ha).mp hold
        exact validatePageIntegrity_congr hbytes hvalid
      · exact validatePageIntegrity_of_stamped hstamp hbytes
    exact ⟨m', hreopen, found, (hread found).mpr ⟨hin, rfl, rfl, rfl, hvalid⟩, hbytes⟩

theorem length_of_crashImage {off len : Nat} (hin : off + len ≤ file.length)
    (h : MixedFile.CrashImage ⟨file.overwrite off new, file⟩ b) : off + len ≤ b.length := by
  by_contra hshort
  have hlt : b.length < file.length := by omega
  have hnone : b[b.length]? = none := getElem?_eq_none (Nat.le_refl _)
  have hover : b.length < (file.overwrite off new).length := by
    rw [length_overwrite (by omega)]
    omega
  rcases h b.length with hb | hb
  · rw [hnone, getElem?_eq_getElem hlt] at hb
    cases hb
  · rw [hnone, getElem?_eq_getElem hover] at hb
    cases hb

/-- The page in a crash image: at every position the old byte or the overwritten one. -/
theorem slice_of_crashImage {off len : Nat} (hin : off + len ≤ file.length)
    (h : MixedFile.CrashImage ⟨file.overwrite off new, file⟩ b) (i : Nat) :
    (b.slice off len)[i]? = (file.slice off len)[i]? ∨
      (b.slice off len)[i]? = (overwritten (file.slice off len) new)[i]? := by
  by_cases hi : i < len
  · rw [← slice_overwrite_eq_overwritten new hin, getElem?_slice hi, getElem?_slice hi,
      getElem?_slice hi]
    exact h (off + i)
  · left
    rw [getElem?_eq_none, getElem?_eq_none]
    · rw [slice, length_take]
      omega
    · rw [slice, length_take]
      omega

/-- A crash image in which one byte of the page has been overwritten and another one has not. -/
theorem crashImage_of_one_byte (new : Bytes) {off len i j : Nat} (hin : off + len ≤ file.length)
    (hij : i ≠ j) :
    ∃ b, MixedFile.CrashImage ⟨file.overwrite off new, file⟩ b ∧ b.length = file.length ∧
      (b.slice off len)[i]? = (overwritten (file.slice off len) new)[i]? ∧
      (b.slice off len)[j]? = (file.slice off len)[j]? := by
  have hout : ∀ {zs : Bytes} {x : Nat}, len ≤ x → (zs.slice off len)[x]? = none := by
    intro zs x hx
    apply getElem?_eq_none
    rw [slice, length_take]
    omega
  by_cases hi : i < len
  · have hover : off + i < (file.overwrite off new).length := by
      rw [length_overwrite (by omega)]
      omega
    refine ⟨file.set (off + i) (file.overwrite off new)[off + i], ?_, length_set, ?_, ?_⟩
    · intro x
      by_cases hx : off + i = x
      · right
        rw [← hx, getElem?_set_self (by omega), getElem?_eq_getElem hover]
      · left
        rw [getElem?_set_ne hx]
    · rw [← slice_overwrite_eq_overwritten new hin, getElem?_slice hi, getElem?_slice hi,
        getElem?_set_self (by omega), getElem?_eq_getElem hover]
    · by_cases hj : j < len
      · rw [getElem?_slice hj, getElem?_slice hj, getElem?_set_ne (by omega)]
      · rw [hout (by omega), hout (by omega)]
  · refine ⟨file, fun x => .inl rfl, rfl, ?_, rfl⟩
    rw [← slice_overwrite_eq_overwritten new hin, hout (by omega), hout (by omega)]

theorem eq_or_eq_of_mixed {old page : Bytes} (hdiffer : DifferAtMostOnce old new)
    (hmixed : ∀ i : Nat, page[i]? = old[i]? ∨ page[i]? = new[i]?) : page = old ∨ page = new := by
  by_cases hsame : ∀ i : Nat, page[i]? = old[i]?
  · exact .inl (ext_getElem? hsame)
  · obtain ⟨i, hi⟩ := not_forall.mp hsame
    have hinew : page[i]? = new[i]? := (hmixed i).resolve_left hi
    refine .inr (ext_getElem? fun j => ?_)
    rcases hmixed j with hj | hj
    · by_contra hne
      have hoi : old[i]? ≠ new[i]? := fun heq => hi (hinew.trans heq.symm)
      have hoj : old[j]? ≠ new[j]? := fun heq => hne (hj.trans heq)
      rw [← hdiffer i j hoi hoj] at hne
      exact hne hinew
    · exact hj

theorem Mapped.exists_torn_page (h : m.Mapped es) {old : PageImage}
    (hprepared : m.prepareWrite image durableLsn = .ok prepared)
    (ha : m.atomicWriteOffset prepared.1 = .ok a) (hold : m.readPage prepared.1 = .ok (some old))
    (hnew : overwritten old.bytes prepared.2.bytes = prepared.2.bytes) {i j : Nat} (hij : i ≠ j)
    (hi : old.bytes[i]? ≠ prepared.2.bytes[i]?) (hj : old.bytes[j]? ≠ prepared.2.bytes[j]?) :
    ∃ v, (m.volume.settled.steps
        ((writeSteps prepared.1 a.toNat prepared.2.bytes).take 4)).CrashImage v ∧
      ¬ ReadsOldOrNew v m.pageIntegrityMode es prepared.1 old.bytes prepared.2.bytes := by
  obtain ⟨⟨e, hfound⟩, hstamp⟩ := prepareWrite_eq_ok hprepared
  obtain ⟨he, hcovers⟩ := h.extentForPage_iff.mp hfound
  simp only [atomicWriteOffset, ok_iff] at ha
  obtain ⟨hin, -, holdBytes, -, -⟩ := (h.readPage_eq_some he hcovers ha.2).mp hold
  obtain ⟨b, himage, hlen, hbi, hbj⟩ := crashImage_of_one_byte prepared.2.bytes hin hij
  rw [← holdBytes, hnew] at hbi
  rw [← holdBytes] at hbj
  refine ⟨⟨.stable b, fun _ => none⟩, Volume.crashImage_of_data himage, ?_⟩
  rw [h.readsOldOrNew_iff hstamp hold he hcovers ha.2 rfl (by rw [hlen]; exact hin)]
  rintro (hpage | hpage)
  · rw [hpage] at hbi
    exact hi hbi
  · rw [hpage] at hbj
    exact hj hbj.symm

/-- Whatever the page, the images and the point of the crash: reopening gives the old or the new
image in every case exactly when the crash is at a safe point. -/
theorem write_crash_atomic_iff (h : m.Mapped es) {image old : PageImage} {durableLsn : Lsn}
    {prepared : PageId × PageImage} {a : UInt64}
    (hprepared : m.prepareWrite image durableLsn = .ok prepared)
    (ha : m.atomicWriteOffset prepared.1 = .ok a)
    (hold : m.readPage prepared.1 = .ok (some old)) (k : Nat) : (∀ v, (m.volume.settled.steps
          ((writeSteps prepared.1 a.toNat prepared.2.bytes).take k)).CrashImage v →
        ReadsOldOrNew v m.pageIntegrityMode es prepared.1 old.bytes prepared.2.bytes) ↔
      CrashSafe k old.bytes prepared.2.bytes := by
  obtain ⟨⟨e, hfound⟩, hstamp⟩ := prepareWrite_eq_ok hprepared
  obtain ⟨he, hcovers⟩ := h.extentForPage_iff.mp hfound
  have hoffset := ha
  simp only [atomicWriteOffset, ok_iff] at hoffset
  obtain ⟨hin, -, holdBytes, -, -⟩ := (h.readPage_eq_some he hcovers hoffset.2).mp hold
  have hreads := fun {v b} (hv : v.data = .stable b) hin =>
    h.readsOldOrNew_iff hstamp hold he hcovers hoffset.2 (v := v) (b := b) hv hin
  have hdata := m.volume.data_steps_take prepared.1 a.toNat prepared.2.bytes k
  have hregion := slice_overwrite_eq_overwritten prepared.2.bytes hin
  rw [← holdBytes] at hregion
  have hover : a.toNat + e.pageSize.bytes ≤
      (m.volume.data.seen.overwrite a.toNat prepared.2.bytes).length := by
    rw [length_overwrite (by omega)]
    omega
  constructor
  · intro hall
    by_cases hk3 : k ≤ 3
    · exact .inl hk3
    -- the complete write is among the images
    have hcomplete : overwritten old.bytes prepared.2.bytes = old.bytes ∨
        overwritten old.bytes prepared.2.bytes = prepared.2.bytes := by
      rw [← hregion]
      refine (hreads rfl hover).mp (hall _ (Volume.crashImage_of_data ?_))
      rw [hdata, if_neg hk3]
      split
      · exact fun i => .inr rfl
      · exact crashImage_stable.mpr rfl
    rcases hcomplete with hsame | hnew
    · exact .inr (.inl hsame)
    by_cases hk5 : 5 ≤ k
    · exact .inr (.inr ⟨hnew, .inl hk5⟩)
    refine .inr (.inr ⟨hnew, .inr ?_⟩)
    intro i j hi hj
    by_contra hij
    have hk4 : k = 4 := by omega
    subst hk4
    obtain ⟨v, hcrash, htorn⟩ := h.exists_torn_page hprepared ha hold hnew hij hi hj
    exact htorn (hall v hcrash)
  · intro hsafe v hv
    obtain ⟨b, hb, hvb⟩ := hv.data
    rw [hdata] at hb
    -- at every point the bytes are mixed of the old and the complete file
    have hmixed : MixedFile.CrashImage
        ⟨m.volume.data.seen.overwrite a.toNat prepared.2.bytes, m.volume.data.seen⟩ b := by
      intro i
      split at hb
      · exact .inl (by rw [crashImage_stable.mp hb])
      · split at hb
        · exact hb i
        · exact .inr (by rw [crashImage_stable.mp hb])
    have hpage := slice_of_crashImage hin hmixed
    rw [← holdBytes] at hpage
    refine (hreads hvb (length_of_crashImage hin hmixed)).mpr ?_
    rcases hsafe with hk3 | hsame | ⟨hnew, hk5 | hdiffer⟩
    · rw [if_pos hk3] at hb
      rw [crashImage_stable.mp hb]
      exact .inl holdBytes.symm
    · rw [hsame] at hpage
      exact .inl (ext_getElem? fun i => (hpage i).elim id id)
    · rw [if_neg (by omega), if_neg (by omega)] at hb
      rw [crashImage_stable.mp hb, hregion]
      exact .inr hnew
    · rw [hnew] at hpage
      exact eq_or_eq_of_mixed hdiffer hpage

/-! ## A page of zeros overwritten with ones -/

def onePageManager : FileDiskManager :=
  (allocateExtent (sampleExtent 1 1 1 0) none (openWithIntegrity emptyVolume .none)).2

def zeroPage : PageImage :=
  ⟨.kiB16, replicate PageSize.kiB16.bytes 0, none, length_replicate, layout_valid_none⟩

def onesPage : PageImage := filledImage (blankLayout 1) blankLayout_one_valid 1

theorem onePageManager_mapped : onePageManager.Mapped [sampleExtent 1 1 1 0] :=
  (mapped_open emptyVolume .none).run (c := .allocate (sampleExtent 1 1 1 0) none) rfl

theorem onePageManager_seen :
    onePageManager.volume.data.seen = replicate PageSize.kiB16.bytes 0 := by
  change [].take _ ++ replicate _ 0 = _
  rw [take_nil, nil_append]
  rfl

theorem onePageManager_reads : onePageManager.readPage 1 = .ok (some zeroPage) := by
  have hcovers : (sampleExtent 1 1 1 0).Covers 1 := ExtentDescriptor.covers_first _
  rw [onePageManager_mapped.readPage_eq_some mem_cons_self hcovers
      (show _ = Except.ok 0 by decide +kernel), onePageManager_seen]
  refine ⟨?_, rfl, ?_, rfl, rfl⟩
  · rw [length_replicate]
    exact Nat.le_refl _
  · rw [slice, take_of_length_le]
    · rfl
    · exact Nat.le_of_eq zeroPage.length_eq

theorem overwritten_zeroPage : overwritten zeroPage.bytes onesPage.bytes = onesPage.bytes := by
  have hlen : zeroPage.bytes.length = onesPage.bytes.length := by
    rw [zeroPage.length_eq, onesPage.length_eq]
    rfl
  have hslice := slice_overwrite_self zeroPage.bytes 0 onesPage.bytes
  rw [overwritten, hlen]
  exact hslice

theorem onesPage_prepared : onePageManager.prepareWrite onesPage 1 = .ok (1, onesPage) := rfl

theorem onePageManager_writeOffset : onePageManager.atomicWriteOffset 1 = .ok 0 := by
  decide +kernel

/-- With the write synced a crash is harmless. -/
theorem write_crash_atomic_iff_synced : CrashSafe 5 zeroPage.bytes onesPage.bytes ∧
      ∀ v, (onePageManager.volume.settled.steps
            ((writeSteps 1 0 onesPage.bytes).take 5)).CrashImage v →
        ReadsOldOrNew v .none [sampleExtent 1 1 1 0] 1 zeroPage.bytes onesPage.bytes := by
  have hsafe : CrashSafe 5 zeroPage.bytes onesPage.bytes :=
    .inr (.inr ⟨overwritten_zeroPage, .inl (Nat.le_refl 5)⟩)
  exact ⟨hsafe, (write_crash_atomic_iff onePageManager_mapped onesPage_prepared
    onePageManager_writeOffset onePageManager_reads 5).mpr hsafe⟩

/-- A crash between the write in place and its sync: the page comes back with its first byte
overwritten and its second byte old. -/
theorem unsynced_write_tears_page : onePageManager.Mapped [sampleExtent 1 1 1 0] ∧
      onePageManager.readPage 1 = .ok (some zeroPage) ∧
      onePageManager.prepareWrite onesPage 1 = .ok (1, onesPage) ∧
      ∃ v, (onePageManager.volume.settled.steps
          ((writeSteps 1 0 onesPage.bytes).take 4)).CrashImage v ∧
        ¬ ReadsOldOrNew v .none [sampleExtent 1 1 1 0] 1 zeroPage.bytes onesPage.bytes := by
  have hbyte : ∀ i < 16384, zeroPage.bytes[i]? ≠ onesPage.bytes[i]? := by
    intro i hi
    have hzero : zeroPage.bytes[i]? = some 0 := getElem?_replicate_of_lt hi
    have hone : onesPage.bytes[i]? = some 1 := getElem?_replicate_of_lt hi
    rw [hzero, hone]
    decide
  have hij : (0 : Nat) ≠ 1 := by decide
  have htorn := onePageManager_mapped.exists_torn_page onesPage_prepared onePageManager_writeOffset
    onePageManager_reads overwritten_zeroPage hij (hbyte 0 (by decide)) (hbyte 1 (by decide))
  exact ⟨onePageManager_mapped, onePageManager_reads, onesPage_prepared, htorn⟩

end FileDiskManager

end Andromeda
