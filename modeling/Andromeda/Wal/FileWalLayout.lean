import Andromeda.Wal.FileWal

/-!
# What a log file holds

A log is laid out as the encodings of its records, and a header names a prefix of
it. `OnDisk` relates a file to the log in memory and to the prefixes that the
headers the device may hold name; the lemmas below say how each file operation of
the log moves that relation.
-/

namespace Andromeda

open Fallible List FileWal FileWalHeader

structure ValidLog (records : List WalRecord) : Prop where
  valid : ∀ r ∈ records, r.Valid ∧ r.Fits
  chained : Chained none records
  size : fileWalHeaderLen + (encodedAll records).length < UInt64.size

theorem encodedAll_isPrefix {xs ys : List WalRecord} (h : xs <+: ys) :
    encodedAll xs <+: encodedAll ys := by
  obtain ⟨zs, rfl⟩ := h
  rw [encodedAll_append]
  exact prefix_append _ _

theorem length_le_encodedAll (records : List WalRecord) :
    records.length ≤ (encodedAll records).length := by
  induction records with
  | nil => exact Nat.le_refl _
  | cons r rs ih =>
    have hpos := length_pos_of_ne_nil (encoded_ne_nil r)
    rw [encodedAll_cons, length_append, length_cons]
    omega

namespace ValidLog

variable {records : List WalRecord}

theorem of_isPrefix {xs : List WalRecord} (h : ValidLog records) (hpre : xs <+: records) :
    ValidLog xs where
  valid := fun r hr => h.valid r (hpre.subset hr)
  chained := h.chained.of_isPrefix hpre
  size := by
    have hle := (encodedAll_isPrefix hpre).length_le
    have hsize := h.size
    omega

theorem toNat_bytes (h : ValidLog records) :
    (UInt64.ofNat (encodedAll records).length).toNat = (encodedAll records).length :=
  UInt64.toNat_ofNat_of_lt' (by have := h.size; omega)

theorem toNat_count (h : ValidLog records) :
    (UInt64.ofNat records.length).toNat = records.length := by
  apply UInt64.toNat_ofNat_of_lt'
  have := length_le_encodedAll records
  have := h.size
  omega

end ValidLog

/-! ## Record boundaries -/

/-- Where each record ends, for records that start at `offset`. -/
def boundariesOf (offset : Nat) : List WalRecord → List FileWalRecordBoundary
  | [] => []
  | r :: rs =>
    ⟨r.lsn, UInt64.ofNat (offset + r.encoded.length)⟩ :: boundariesOf (offset + r.encoded.length) rs

theorem boundariesOf_append (offset : Nat) (xs ys : List WalRecord) :
    boundariesOf offset (xs ++ ys) =
      boundariesOf offset xs ++ boundariesOf (offset + (encodedAll xs).length) ys := by
  induction xs generalizing offset with
  | nil => rfl
  | cons x xs ih =>
    rw [cons_append, boundariesOf, boundariesOf, ih, encodedAll_cons, length_append,
      cons_append, Nat.add_assoc]

theorem length_boundariesOf (offset : Nat) (records : List WalRecord) :
    (boundariesOf offset records).length = records.length := by
  induction records generalizing offset with
  | nil => rfl
  | cons r rs ih => rw [boundariesOf, length_cons, length_cons, ih]

variable {offset : Nat} {durable : List WalRecord} {records : List WalRecord}

theorem lsn_mem_of_mem_boundariesOf {b : FileWalRecordBoundary}
    (h : b ∈ boundariesOf offset records) : ∃ r ∈ records, r.lsn = b.lsn := by
  induction records generalizing offset with
  | nil => simp [boundariesOf] at h
  | cons r rs ih =>
    rcases mem_cons.mp h with rfl | h
    · exact ⟨r, by simp, rfl⟩
    · obtain ⟨x, hx, hlsn⟩ := ih h
      exact ⟨x, mem_cons_of_mem _ hx, hlsn⟩

theorem boundariesFrom_eq (hvalid : ∀ r ∈ records, r.Valid ∧ r.Fits)
    (hsize : offset + (encodedAll records).length < UInt64.size) :
    boundariesFrom (UInt64.ofNat offset) records = .ok (boundariesOf offset records) := by
  induction records generalizing offset with
  | nil => rfl
  | cons r rs ih =>
    obtain ⟨hr, hfits⟩ := hvalid r (by simp)
    rw [encodedAll_cons, length_append] at hsize
    have hend : checkedAdd (UInt64.ofNat offset) r.frameHeader.totalLength =
        some (UInt64.ofNat (offset + r.encoded.length)) := by
      rw [checkedAdd_eq_some, r.toNat_totalLength hfits, r.length_encoded,
        UInt64.toNat_ofNat_of_lt' (by omega : offset < UInt64.size)]
      apply UInt64.toNat_ofNat_of_lt'
      rw [← r.length_encoded]
      omega
    have hsize' : offset + r.encoded.length + (encodedAll rs).length < UInt64.size := by omega
    have hrest := ih (forall_mem_cons.mp hvalid).2 hsize'
    rw [boundariesFrom, WalRecord.encodedWalRecordLen_eq hr hfits]
    simp only [ok_iff, Except.ok.injEq, exists_eq_left', hend, Option.some.injEq, hrest,
      boundariesOf]

theorem ValidLog.recordBoundariesFor_eq (h : ValidLog records) :
    recordBoundariesFor records = .ok (boundariesOf 0 records) := by
  have hsize : 0 + (encodedAll records).length < UInt64.size := by
    have := h.size
    omega
  exact boundariesFrom_eq h.valid hsize

theorem flushBoundary_eq {w : FileWal} {before : List WalRecord} {r : WalRecord}
    (hlog : ValidLog w.records) (hboundaries : w.recordBoundaries = boundariesOf 0 w.records)
    (hpre : before ++ [r] <+: w.records) :
    w.flushBoundary r.lsn = .ok (UInt64.ofNat (encodedAll (before ++ [r])).length,
      UInt64.ofNat (before ++ [r]).length) := by
  obtain ⟨after, hrecords⟩ := hpre
  have hsplit : w.recordBoundaries = boundariesOf 0 before ++
      ⟨r.lsn, UInt64.ofNat (encodedAll (before ++ [r])).length⟩ ::
        boundariesOf (encodedAll (before ++ [r])).length after := by
    rw [hboundaries, ← hrecords, boundariesOf_append, boundariesOf_append]
    simp [boundariesOf, encodedAll_append]
  have hearlier : ∀ b ∈ boundariesOf 0 before, ¬ (b.lsn == r.lsn) = true := by
    intro b hb heq
    obtain ⟨x, hx, hlsn⟩ := lsn_mem_of_mem_boundariesOf hb
    have hlt : x.lsn < r.lsn := by
      have hpair := hlog.chained.gapFree.increasing
      rw [← hrecords, append_assoc, Increasing, pairwise_append] at hpair
      exact hpair.2.2 x hx r (by simp)
    rw [hlsn, beq_iff_eq.mp heq] at hlt
    exact UInt64.lt_irrefl _ hlt
  have hfind : (w.recordBoundaries.findIdx? fun b => b.lsn == r.lsn) = some before.length := by
    have hnone : ((boundariesOf 0 before).findIdx? fun b => b.lsn == r.lsn) = none := by
      rw [List.findIdx?_eq_none_iff]
      intro b hb
      exact Bool.eq_false_iff.mpr (hearlier b hb)
    rw [hsplit, List.findIdx?_append, hnone, List.findIdx?_cons]
    simp [length_boundariesOf]
  have hget : w.recordBoundaries[before.length]? =
      some ⟨r.lsn, UInt64.ofNat (encodedAll (before ++ [r])).length⟩ := by
    rw [hsplit, ← length_boundariesOf 0 before]
    simp
  rw [flushBoundary, hfind]
  simp [hget]

/-! ## Headers that name a prefix -/

section

variable (durable : List WalRecord)

def durableHeader : FileWalHeader :=
  new (lastLsnOf durable) (UInt64.ofNat (encodedAll durable).length)
    (UInt64.ofNat durable.length)

theorem durableHeader_concat (before : List WalRecord) (r : WalRecord) :
    new r.lsn (UInt64.ofNat (encodedAll (before ++ [r])).length)
      (UInt64.ofNat (before ++ [r]).length) = durableHeader (before ++ [r]) := by
  rw [durableHeader, lastLsnOf, tailLsn_concat, Option.getD_some]

def headImage : Bytes := encodeFileWalHeader (durableHeader durable)

theorem length_headImage : (headImage durable).length = fileWalHeaderLen :=
  length_encodeFileWalHeader _

end

theorem ValidLog.header_consistent (h : ValidLog durable) :
    FileWalHeader.Consistent (lastLsnOf durable) (UInt64.ofNat (encodedAll durable).length)
      (UInt64.ofNat durable.length) := by
  have hlast := h.chained.toNat_lastLsnOf
  constructor
  · intro hzero
    rw [hzero] at hlast
    obtain rfl : durable = [] := length_eq_zero_iff.mp hlast.symm
    exact ⟨rfl, rfl⟩
  · intro hne hcount
    apply hne
    rw [← UInt64.toNat_inj, hlast, ← h.toNat_count, hcount]

theorem ValidLog.header_validate (h : ValidLog durable) :
    (durableHeader durable).validate = .ok () :=
  new_validate h.header_consistent

theorem scanOpenFileWal_headImage {file : TornFile} (hlog : ValidLog durable)
    (hhead : file.head = headImage durable) (hbody : encodedAll durable <+: file.body) :
    ∃ diskScan, scanOpenFileWal file = .ok diskScan ∧
      diskScan.scan = ⟨durable, (encodedAll durable).length, tailLsn durable, none⟩ := by
  have hlength : file.length = fileWalHeaderLen + file.body.length := by
    rw [TornFile.length, hhead, length_headImage]
  have hdecode : decodeFileWalHeader file.head = .ok (durableHeader durable) := by
    rw [hhead]
    exact decode_encode_new hlog.header_consistent
  have hscanned : file.body.take (min (durableHeader durable).durableBytes.toNat
      (file.length - fileWalHeaderLen)) = encodedAll durable := by
    change file.body.take (min (UInt64.ofNat (encodedAll durable).length).toNat _) = _
    rw [hlog.toNat_bytes, hlength, Nat.add_sub_cancel_left,
      Nat.min_eq_left hbody.length_le]
    exact (prefix_iff_eq_take.mp hbody).symm
  simp only [scanOpenFileWal, ok_iff, hdecode, Except.ok.injEq, exists_eq_left',
    hlog.header_validate, true_and, hscanned, scanWalRecords,
    scanWalRecordsFrom_encodedAll hlog.valid (chainedFrom_one_iff.mpr hlog.chained)]
  refine ⟨_, ⟨by omega, rfl⟩, rfl⟩

/-! ## Files against logs -/

/-- The file holds the encodings of `records`. The process reads the header of
`current`; the device may also hold the header of one of `older`. -/
structure OnDisk (file : TornFile) (records : List WalRecord) (older : List (List WalRecord))
    (current : List WalRecord) : Prop where
  head : file.head = headImage current
  heads : file.heads = (older ++ [current]).map headImage
  body : encodedAll records <+: file.body
  stable : file.stable ≤ file.body.length
  durable : ∀ d ∈ older ++ [current], d <+: records ∧ (encodedAll d).length ≤ file.stable

namespace OnDisk

variable {file : TornFile} {records : List WalRecord} {older : List (List WalRecord)}
  {current : List WalRecord}

section

variable (h : OnDisk file records older current)
include h

theorem current_isPrefix : current <+: records :=
  (h.durable current (by simp)).1

theorem durable_le_writeBody (bytes : Bytes) : ∀ d ∈ older ++ [current], d <+: records ∧
      (encodedAll d).length ≤ (file.writeBody (encodedAll records).length bytes).stable := by
  intro d hd
  obtain ⟨hpre, hstable⟩ := h.durable d hd
  exact ⟨hpre, Nat.le_min.mpr ⟨hstable, (encodedAll_isPrefix hpre).length_le⟩⟩

theorem writeBody_record (r : WalRecord) :
    OnDisk (file.writeBody (encodedAll records).length r.encoded) (records ++ [r]) older
      current where
  head := h.head
  heads := h.heads
  body := by
    rw [encodedAll_append, encodedAll_singleton]
    exact TornFile.prefix_writeBody h.body r.encoded
  stable := TornFile.stable_writeBody_le h.stable _ _
  durable := by
    intro d hd
    obtain ⟨hpre, hstable⟩ := h.durable_le_writeBody r.encoded d hd
    exact ⟨hpre.trans (prefix_append _ _), hstable⟩

theorem sync : OnDisk file.sync records [] current where
  head := h.head
  heads := by
    rw [TornFile.sync, h.head]
    rfl
  body := h.body
  stable := Nat.le_refl _
  durable := by
    intro d hd
    obtain rfl : d = current := by simpa using hd
    exact ⟨h.current_isPrefix, ((encodedAll_isPrefix h.current_isPrefix).trans h.body).length_le⟩

end

variable {d : List WalRecord}

section

variable (h : OnDisk file records older current)
include h

theorem writeHead (hd : d <+: records) (hstable : (encodedAll d).length ≤ file.stable) :
    OnDisk (file.writeHead (headImage d)) records (older ++ [current]) d where
  head := rfl
  heads := by
    rw [map_append, ← h.heads]
    rfl
  body := h.body
  stable := h.stable
  durable := forall_mem_append.mpr ⟨h.durable, forall_mem_singleton.mpr ⟨hd, hstable⟩⟩

theorem exists_of_crashImage {head body : Bytes} (himage : file.CrashImage head body) :
    ∃ d ∈ older ++ [current], head = headImage d ∧ encodedAll d <+: body := by
  have hhead := himage.head
  rw [h.heads] at hhead
  obtain ⟨d, hd, hheadImage⟩ := mem_map.mp hhead
  obtain ⟨hpre, hstable⟩ := h.durable d hd
  exact ⟨d, hd, hheadImage.symm,
    himage.prefix_body ((encodedAll_isPrefix hpre).trans h.body) hstable⟩

end

end OnDisk

end Andromeda
