import Andromeda.Wal.AppendChain
import Andromeda.Wal.FrameCodec

/-!
# Scanning a log

The scan reads frame after frame and stops at the first one that is torn, corrupt or out
of line. One iteration succeeds exactly when the bytes at the current offset start with
the encoding of a valid record that continues the chain; so the scan returns the records
whose encodings make up the buffer's valid prefix, and a buffer made of the encodings of
a chain is read back in full.
-/

namespace Andromeda

open Fallible List WalRecord

inductive WalScanStopReason where
  | truncatedHeader
  | truncatedRecord
  | corruptHeader
  | corruptRecord
  | lsnGap
  | duplicateOrReorderedLsn
  | previousLsnMismatch
deriving DecidableEq

structure WalScanStop where
  offset : Nat
  reason : WalScanStopReason
deriving DecidableEq

structure WalCodecScanResult (τ : Type) where
  records : List τ
  validBytes : Nat
  lastValidLsn : Option Lsn
  stopped : Option WalScanStop

structure WalScanState (τ : Type) where
  records : List τ
  offset : Nat
  previousLsnForChain : Option Lsn
  lastValidLsn : Option Lsn
  nextLsn : Option Lsn

section Loop

variable {τ : Type} (validateHeader : WalCodecFrameHeader → Result Unit)
  (decodeFrame : Bytes → Result (Option (τ × Nat))) (buffer : Bytes)

section

variable (s : WalScanState τ)

def WalScanState.stop (reason : WalScanStopReason) : WalCodecScanResult τ :=
  ⟨s.records, s.offset, s.lastValidLsn, some ⟨s.offset, reason⟩⟩

def WalScanState.complete : WalCodecScanResult τ :=
  ⟨s.records, s.offset, s.lastValidLsn, none⟩

def WalScanState.push (record : τ) (lsn : Lsn) (totalLength : Nat) : WalScanState τ where
  records := s.records ++ [record]
  offset := s.offset + totalLength
  previousLsnForChain := some lsn
  lastValidLsn := some lsn
  nextLsn := lsn.checkedNext

def decodeAndValidateHeader (bytes : Bytes) : Result WalCodecFrameHeader := do
  let header ← decodeFrameHeader bytes
  validateHeader header
  pure header

def scanHeader (rest : Bytes) : Except WalScanStopReason WalCodecFrameHeader := do
  failIf (rest.length < walRecordHeaderLen) .truncatedHeader
  let header ← (decodeAndValidateHeader validateHeader (rest.take walRecordHeaderLen)).mapError
    fun _ => .corruptHeader
  failIf (rest.length < header.totalLength.toNat) .truncatedRecord
  pure header

def scanChain (header : WalCodecFrameHeader) : Except WalScanStopReason Unit := do
  let expectedLsn ← orError s.nextLsn .duplicateOrReorderedLsn
  failIf (header.lsn < expectedLsn) .duplicateOrReorderedLsn
  failIf (header.lsn > expectedLsn) .lsnGap
  failIf (s.previousLsnForChain ≠ header.previousLsn) .previousLsnMismatch

def scanRecord (frame : Bytes) : Except WalScanStopReason τ :=
  match decodeFrame frame with
  | .ok (some (record, consumed)) =>
    if consumed = frame.length then .ok record else .error .corruptRecord
  | _ => .error .corruptRecord

def scanStep : Except WalScanStopReason (WalScanState τ) := do
  let rest := buffer.drop s.offset
  let header ← scanHeader validateHeader rest
  scanChain s header
  let record ← scanRecord decodeFrame (rest.take header.totalLength.toNat)
  pure (s.push record header.lsn header.totalLength.toNat)

end

def scanLoop : Nat → WalScanState τ → WalCodecScanResult τ
  | 0, s => s.complete
  | fuel + 1, s =>
    if s.offset < buffer.length then
      match scanStep validateHeader decodeFrame buffer s with
      | .error reason => s.stop reason
      | .ok s' => scanLoop fuel s'
    else s.complete

def scanWalRecordFramesFromWith (firstLsn : Lsn) (basePreviousLsn : Option Lsn) :
    WalCodecScanResult τ :=
  scanLoop validateHeader decodeFrame buffer buffer.length ⟨[], 0, basePreviousLsn, none, some firstLsn⟩

end Loop

def validateTypedHeader (header : WalCodecFrameHeader) : Result Unit := do
  let _ ← header.fromRaw
  pure ()

def scanWalRecordsFrom (buffer : Bytes) (firstLsn : Lsn) (basePreviousLsn : Option Lsn) :
    WalCodecScanResult WalRecord :=
  scanWalRecordFramesFromWith validateTypedHeader decodeWalRecordFrame buffer firstLsn
    basePreviousLsn

def scanWalRecords (buffer : Bytes) : WalCodecScanResult WalRecord :=
  scanWalRecordsFrom buffer 1 none

/-! ## One iteration -/

def encodedAll (records : List WalRecord) : Bytes := records.flatMap encoded

theorem encodedAll_append (xs ys : List WalRecord) :
    encodedAll (xs ++ ys) = encodedAll xs ++ encodedAll ys :=
  flatMap_append

theorem encodedAll_cons (r : WalRecord) (rs : List WalRecord) :
    encodedAll (r :: rs) = r.encoded ++ encodedAll rs := rfl

@[simp] theorem encodedAll_singleton (r : WalRecord) : encodedAll [r] = r.encoded := by
  simp [encodedAll]

theorem encoded_ne_nil (r : WalRecord) : r.encoded ≠ [] := by
  intro h
  have := congrArg List.length h
  rw [r.length_encoded, walRecordHeaderLen, length_nil] at this
  omega

variable {r : WalRecord} {h : WalCodecFrameHeader} {s : WalScanState WalRecord}
  {records : List WalRecord}

theorem scanRecord_eq_ok {frame : Bytes} :
    scanRecord decodeWalRecordFrame frame = .ok r ↔ r.Valid ∧ r.Fits ∧ frame = r.encoded := by
  have hcases : scanRecord decodeWalRecordFrame frame = .ok r ↔
      decodeWalRecordFrame frame = .ok (some (r, frame.length)) := by
    unfold scanRecord
    split
    · rename_i record consumed hdecode
      by_cases hlength : consumed = frame.length
      · simp [hdecode, hlength]
      · simp [hdecode, hlength]
    · rename_i hnone
      constructor
      · intro h
        cases h
      · intro h
        exact absurd h (hnone r frame.length)
  rw [hcases, decodeWalRecordFrame_eq_some]
  constructor
  · rintro ⟨hvalid, hfits, hlength, hpre⟩
    exact ⟨hvalid, hfits, (hpre.eq_of_length hlength.symm).symm⟩
  · rintro ⟨hvalid, hfits, heq⟩
    rw [heq]
    exact ⟨hvalid, hfits, rfl, prefix_refl _⟩

theorem scanHeader_eq_ok {rest : Bytes} : scanHeader validateTypedHeader rest = .ok h ↔
      decodeFrameHeader (rest.take walRecordHeaderLen) = .ok h ∧ h.fromRaw = .ok h ∧
        h.totalLength.toNat ≤ rest.length := by
  have htyped : ∀ header : WalCodecFrameHeader,
      validateTypedHeader header = .ok () ↔ header.fromRaw = .ok header := by
    intro header
    simp only [validateTypedHeader, WalCodecFrameHeader.fromRaw, ok_iff]
    constructor
    · rintro ⟨_, ⟨hvalid, htyped, -⟩, -⟩
      exact ⟨hvalid, htyped, trivial⟩
    · intro hok
      exact ⟨header, ⟨hok.1, hok.2.1, rfl⟩, trivial⟩
  simp only [scanHeader, decodeAndValidateHeader, ok_iff, mapError_eq_ok, htyped, not_lt]
  constructor
  · rintro ⟨-, header, ⟨header', hdecode, hraw, heq⟩, hle, heq'⟩
    subst heq heq'
    exact ⟨hdecode, hraw, hle⟩
  · rintro ⟨hdecode, hraw, hle⟩
    have hlength := (decodeFrameHeader_eq_ok.mp hdecode).1
    rw [length_take] at hlength
    exact ⟨by omega, h, ⟨h, hdecode, hraw, rfl⟩, hle, rfl⟩

theorem scanChain_eq_ok {u : Unit} :
    scanChain s h = .ok u ↔ s.nextLsn = some h.lsn ∧ s.previousLsnForChain = h.previousLsn := by
  simp only [scanChain, ok_iff, UInt64.not_lt, gt_iff_lt]
  constructor
  · rintro ⟨expected, hexpected, hle, hge, hprevious⟩
    rw [hexpected, UInt64.le_antisymm hle hge]
    exact ⟨rfl, hprevious⟩
  · intro hok
    exact ⟨h.lsn, hok.1, UInt64.le_refl _, UInt64.le_refl _, hok.2⟩

theorem scanStep_eq_ok {buffer : Bytes} {s' : WalScanState WalRecord} :
    scanStep validateTypedHeader decodeWalRecordFrame buffer s = .ok s' ↔
      ∃ r : WalRecord, r.Valid ∧ r.Fits ∧ r.encoded <+: buffer.drop s.offset ∧
        s.nextLsn = some r.lsn ∧ s.previousLsnForChain = r.header.previousLsn ∧
        s' = s.push r r.lsn r.encoded.length := by
  simp only [scanStep, ok_iff, scanHeader_eq_ok, scanChain_eq_ok, scanRecord_eq_ok]
  constructor
  · rintro ⟨header, ⟨hdecode, -, hle⟩, hchain, r, ⟨hvalid, hfits, hframe⟩, heq⟩
    have hpre : r.encoded <+: buffer.drop s.offset := by
      rw [← hframe]
      exact take_prefix _ _
    have hheader : header = r.frameHeader := by
      obtain ⟨rest, hrest⟩ := hpre
      rw [← hrest, decodeFrameHeader_encoded hfits] at hdecode
      exact (Except.ok.inj hdecode).symm
    rw [hheader] at hchain heq
    refine ⟨r, hvalid, hfits, hpre, hchain.1, hchain.2, ?_⟩
    rw [← heq, toNat_totalLength hfits, ← length_encoded]
    rfl
  · rintro ⟨r, hvalid, hfits, ⟨rest, hrest⟩, hnext, hprevious, heq⟩
    have htotal := toNat_totalLength hfits
    rw [← length_encoded] at htotal
    rw [← hrest]
    refine ⟨r.frameHeader, ⟨decodeFrameHeader_encoded hfits rest,
      fromRaw_frameHeader hfits, ?_⟩, ⟨hnext, hprevious⟩, r, ⟨hvalid, hfits, ?_⟩, ?_⟩
    · rw [htotal, length_append]
      exact Nat.le_add_right _ _
    · rw [htotal, take_left]
    · rw [htotal, heq]
      rfl

/-! ## What a scan has read -/

def nextLsnAfter (firstLsn : Lsn) (records : List WalRecord) : Option Lsn :=
  match tailLsn records with
  | some last => last.checkedNext
  | none => some firstLsn

def previousLsnAfter (basePreviousLsn : Option Lsn) (records : List WalRecord) : Option Lsn :=
  (tailLsn records).or basePreviousLsn

structure ChainedFrom (firstLsn : Lsn) (basePreviousLsn : Option Lsn) (records : List WalRecord) :
    Prop where
  gapFree : GapFree records
  head : ∀ r ∈ records.head?, r.lsn = firstLsn ∧ r.header.previousLsn = basePreviousLsn

theorem chainedFrom_nil (firstLsn : Lsn) (basePreviousLsn : Option Lsn) :
    ChainedFrom firstLsn basePreviousLsn [] :=
  ⟨isChain_nil, by simp⟩

variable {firstLsn : Lsn} {basePreviousLsn : Option Lsn}

theorem ChainedFrom.left {xs ys : List WalRecord}
    (h : ChainedFrom firstLsn basePreviousLsn (xs ++ ys)) :
    ChainedFrom firstLsn basePreviousLsn xs := by
  refine ⟨List.IsChain.left_of_append h.gapFree, ?_⟩
  intro r hr
  apply h.head r
  cases xs with
  | nil => cases hr
  | cons x xs => exact hr

theorem chainedFrom_one_iff : ChainedFrom 1 none records ↔ Chained none records := by
  constructor
  · intro h
    refine ⟨h.gapFree, ?_⟩
    intro r hr
    exact ⟨by rw [(h.head r hr).1]; rfl, (h.head r hr).2⟩
  · intro h
    refine ⟨h.gapFree, ?_⟩
    intro r hr
    exact ⟨UInt64.toNat_inj.mp (h.head r hr).lsn, (h.head r hr).previous⟩

theorem chainedFrom_concat : ChainedFrom firstLsn basePreviousLsn (records ++ [r]) ↔
      ChainedFrom firstLsn basePreviousLsn records ∧ nextLsnAfter firstLsn records = some r.lsn ∧
        previousLsnAfter basePreviousLsn records = r.header.previousLsn := by
  have hiff : ∀ rs, ChainedFrom firstLsn basePreviousLsn rs ↔ GapFree rs ∧ ∀ x ∈ rs.head?,
      x.lsn = firstLsn ∧ x.header.previousLsn = basePreviousLsn :=
    fun _ => ⟨fun h => ⟨h.gapFree, h.head⟩, fun h => ⟨h.1, h.2⟩⟩
  rw [hiff, hiff, gapFree_concat, nextLsnAfter, previousLsnAfter, tailLsn]
  cases records.getLast? with
  | none => simp [eq_comm]
  | some last =>
    simp [WalRecord.Follows, Lsn.checkedNext_eq_some, @eq_comm _ (some last.lsn)]

/-- The loop variables when the given records have been read from the buffer. -/
def scannedState (firstLsn : Lsn) (basePreviousLsn : Option Lsn) (records : List WalRecord) :
    WalScanState WalRecord where
  records := records
  offset := (encodedAll records).length
  previousLsnForChain := previousLsnAfter basePreviousLsn records
  lastValidLsn := tailLsn records
  nextLsn := nextLsnAfter firstLsn records

theorem scannedState_push (firstLsn : Lsn) (basePreviousLsn : Option Lsn)
    (records : List WalRecord) (r : WalRecord) :
    (scannedState firstLsn basePreviousLsn records).push r r.lsn r.encoded.length =
      scannedState firstLsn basePreviousLsn (records ++ [r]) := by
  simp [scannedState, WalScanState.push, encodedAll_append, previousLsnAfter, nextLsnAfter]

/-- Records that stand at the start of a buffer, encoded and in line. -/
structure Scanned (buffer : Bytes) (firstLsn : Lsn) (basePreviousLsn : Option Lsn)
    (records : List WalRecord) : Prop where
  bytes : encodedAll records <+: buffer
  valid : ∀ r ∈ records, r.Valid ∧ r.Fits
  chained : ChainedFrom firstLsn basePreviousLsn records

section Scan

variable {buffer : Bytes} {firstLsn : Lsn} {basePreviousLsn : Option Lsn}

variable {records : List WalRecord} {fuel : Nat}

theorem scanStep_scanned {s' : WalScanState WalRecord}
    (h : Scanned buffer firstLsn basePreviousLsn records) :
    scanStep validateTypedHeader decodeWalRecordFrame buffer
        (scannedState firstLsn basePreviousLsn records) = .ok s' ↔
      ∃ r, Scanned buffer firstLsn basePreviousLsn (records ++ [r]) ∧
        s' = scannedState firstLsn basePreviousLsn (records ++ [r]) := by
  have hdrop : ∀ r : WalRecord, encodedAll (records ++ [r]) <+: buffer ↔
      r.encoded <+: buffer.drop (encodedAll records).length := by
    intro r
    obtain ⟨rest, hrest⟩ := h.bytes
    rw [← hrest, drop_left, encodedAll_append, encodedAll_singleton, prefix_append_right_inj]
  rw [scanStep_eq_ok]
  constructor
  · rintro ⟨r, hvalid, hfits, hpre, hnext, hprevious, heq⟩
    refine ⟨r, ⟨(hdrop r).mpr hpre, ?_, ?_⟩, ?_⟩
    · exact forall_mem_append.mpr ⟨h.valid, forall_mem_singleton.mpr ⟨hvalid, hfits⟩⟩
    · exact chainedFrom_concat.mpr ⟨h.chained, hnext, hprevious⟩
    · rw [heq, scannedState_push]
  · rintro ⟨r, hscanned, heq⟩
    obtain ⟨hvalid, hfits⟩ := hscanned.valid r (by simp)
    obtain ⟨-, hnext, hprevious⟩ := chainedFrom_concat.mp hscanned.chained
    refine ⟨r, hvalid, hfits, (hdrop r).mp hscanned.bytes, hnext, hprevious, ?_⟩
    rw [heq, scannedState_push]

theorem Scanned.left {xs ys : List WalRecord}
    (h : Scanned buffer firstLsn basePreviousLsn (xs ++ ys)) :
    Scanned buffer firstLsn basePreviousLsn xs := by
  refine ⟨?_, fun r hr => h.valid r (mem_append_left _ hr), h.chained.left⟩
  have hbytes := h.bytes
  rw [encodedAll_append] at hbytes
  exact (prefix_append _ _).trans hbytes

structure ScanResult (buffer : Bytes) (firstLsn : Lsn) (basePreviousLsn : Option Lsn)
    (result : WalCodecScanResult WalRecord) : Prop where
  scanned : Scanned buffer firstLsn basePreviousLsn result.records
  validBytes : result.validBytes = (encodedAll result.records).length
  lastValidLsn : result.lastValidLsn = tailLsn result.records
  complete : result.stopped = none → result.validBytes = buffer.length

theorem scanLoop_result (h : Scanned buffer firstLsn basePreviousLsn records)
    (hfuel : buffer.length ≤ (encodedAll records).length + fuel) :
    ScanResult buffer firstLsn basePreviousLsn (scanLoop validateTypedHeader decodeWalRecordFrame
      buffer fuel (scannedState firstLsn basePreviousLsn records)) := by
  have hle : (encodedAll records).length ≤ buffer.length := h.bytes.length_le
  induction fuel generalizing records with
  | zero =>
    refine ⟨h, rfl, rfl, fun _ => ?_⟩
    show (encodedAll records).length = buffer.length
    omega
  | succ fuel ih =>
    rw [scanLoop]
    split_ifs with hoffset
    · cases hstep : scanStep validateTypedHeader decodeWalRecordFrame buffer
          (scannedState firstLsn basePreviousLsn records) with
      | error reason => exact ⟨h, rfl, rfl, fun hnone => by cases hnone⟩
      | ok s' =>
        obtain ⟨r, hscanned, rfl⟩ := (scanStep_scanned h).mp hstep
        have hlength : (encodedAll (records ++ [r])).length =
            (encodedAll records).length + r.encoded.length := by
          rw [encodedAll_append, encodedAll_singleton, length_append]
        have hpos := length_pos_of_ne_nil (encoded_ne_nil r)
        exact ih hscanned (by omega) hscanned.bytes.length_le
    · refine ⟨h, rfl, rfl, fun _ => ?_⟩
      have : ¬ (encodedAll records).length < buffer.length := hoffset
      show (encodedAll records).length = buffer.length
      omega

theorem scanWalRecordsFrom_result (buffer : Bytes) (firstLsn : Lsn) (basePreviousLsn : Option Lsn) :
    ScanResult buffer firstLsn basePreviousLsn
      (scanWalRecordsFrom buffer firstLsn basePreviousLsn) :=
  scanLoop_result ⟨List.nil_prefix, by simp, chainedFrom_nil _ _⟩ (by simp)

theorem scanLoop_reaches {done todo : List WalRecord}
    (h : Scanned buffer firstLsn basePreviousLsn (done ++ todo))
    (hfuel : buffer.length ≤ (encodedAll done).length + fuel) :
    ∃ fuel', buffer.length ≤ (encodedAll (done ++ todo)).length + fuel' ∧
      scanLoop validateTypedHeader decodeWalRecordFrame buffer fuel
          (scannedState firstLsn basePreviousLsn done) =
        scanLoop validateTypedHeader decodeWalRecordFrame buffer fuel'
          (scannedState firstLsn basePreviousLsn (done ++ todo)) := by
  induction todo generalizing done fuel with
  | nil =>
    rw [append_nil]
    exact ⟨fuel, hfuel, rfl⟩
  | cons r todo ih =>
    have happend : done ++ r :: todo = (done ++ [r]) ++ todo := by simp
    rw [happend] at h ⊢
    have hpos := length_pos_of_ne_nil (encoded_ne_nil r)
    have hlength : (encodedAll (done ++ [r])).length =
        (encodedAll done).length + r.encoded.length := by
      rw [encodedAll_append, encodedAll_singleton, length_append]
    have hle := h.left.bytes.length_le
    obtain ⟨fuel, rfl⟩ : ∃ k, fuel = k + 1 := ⟨fuel - 1, by omega⟩
    have hoffset : (scannedState firstLsn basePreviousLsn done).offset < buffer.length := by
      show (encodedAll done).length < buffer.length
      omega
    rw [scanLoop, if_pos hoffset, (scanStep_scanned h.left.left).mpr ⟨r, h.left, rfl⟩]
    exact ih h (by omega)

theorem scanLoop_of_end (h : buffer.length ≤ (encodedAll records).length) :
    scanLoop validateTypedHeader decodeWalRecordFrame buffer fuel
        (scannedState firstLsn basePreviousLsn records) =
      (scannedState firstLsn basePreviousLsn records).complete := by
  cases fuel with
  | zero => rfl
  | succ fuel =>
    rw [scanLoop]
    exact if_neg (Nat.not_lt.mpr h)

theorem scanWalRecordsFrom_encodedAll (hvalid : ∀ r ∈ records, r.Valid ∧ r.Fits)
    (hchained : ChainedFrom firstLsn basePreviousLsn records) :
    scanWalRecordsFrom (encodedAll records) firstLsn basePreviousLsn =
      ⟨records, (encodedAll records).length, tailLsn records, none⟩ := by
  have hscanned : Scanned (encodedAll records) firstLsn basePreviousLsn ([] ++ records) :=
    ⟨prefix_refl _, hvalid, hchained⟩
  obtain ⟨fuel, -, hloop⟩ := scanLoop_reaches hscanned (Nat.le_add_left _ _)
  exact hloop.trans (scanLoop_of_end (Nat.le_refl _))

/-- The scan of any bytes: the records are in line, each passes `validate`, and their encodings
are the first `valid_bytes` bytes. A scan that reports no stop has read everything. -/
theorem scanWalRecordsFrom_sound (buffer : Bytes) (firstLsn : Lsn) (basePreviousLsn : Option Lsn) :
    let result := scanWalRecordsFrom buffer firstLsn basePreviousLsn
    ChainedFrom firstLsn basePreviousLsn result.records ∧
      (∀ r ∈ result.records, r.validate = .ok () ∧ encodeWalRecord r = .ok r.encoded) ∧
      encodedAll result.records = buffer.take result.validBytes ∧
      result.validBytes ≤ buffer.length ∧
      (result.stopped = none → result.validBytes = buffer.length) := by
  intro result
  have hresult : ScanResult buffer firstLsn basePreviousLsn result :=
    scanWalRecordsFrom_result buffer firstLsn basePreviousLsn
  obtain ⟨hbytes, hvalid, hchained⟩ := hresult.scanned
  refine ⟨hchained, ?_, ?_, ?_, hresult.complete⟩
  · intro r hr
    obtain ⟨hok, hfits⟩ := hvalid r hr
    exact ⟨validate_eq_ok.mpr hok, encodeWalRecord_eq hok hfits⟩
  · rw [hresult.validBytes]
    exact prefix_iff_eq_take.mp hbytes
  · rw [hresult.validBytes]
    exact hbytes.length_le

/-! ## A log that was cut -/

def wholeBefore : Nat → List WalRecord → List WalRecord
  | _, [] => []
  | cut, r :: rs =>
    if r.encoded.length ≤ cut then r :: wholeBefore (cut - r.encoded.length) rs else []

theorem wholeBefore_split (cut : Nat) (records : List WalRecord) :
    ∃ rest k, records = wholeBefore cut records ++ rest ∧ (encodedAll records).take cut =
        encodedAll (wholeBefore cut records) ++ (encodedAll rest).take k ∧
      ∀ r ∈ rest.head?, k < r.encoded.length := by
  induction records generalizing cut with
  | nil => exact ⟨[], 0, rfl, by simp [encodedAll, wholeBefore], by simp⟩
  | cons r rs ih =>
    rw [wholeBefore]
    split_ifs with hwhole
    · obtain ⟨rest, k, hsplit, hbytes, hhead⟩ := ih (cut - r.encoded.length)
      refine ⟨rest, k, congrArg (r :: ·) hsplit, ?_, hhead⟩
      rw [encodedAll_cons, encodedAll_cons, take_append, take_of_length_le hwhole, hbytes,
        append_assoc]
    · exact ⟨r :: rs, cut, rfl, rfl, by simpa using hwhole⟩

/-- A piece of a record is a torn tail, never a corrupt one. -/
theorem scanStep_torn {k : Nat} (hfits : r.Fits)
    (hrest : buffer.drop s.offset = r.encoded.take k) (hk : k < r.encoded.length) :
    ∃ reason, scanStep validateTypedHeader decodeWalRecordFrame buffer s = .error reason ∧
      (reason = .truncatedHeader ∨ reason = .truncatedRecord) := by
  rw [r.length_encoded] at hk
  have hlength : (r.encoded.take k).length = k := by
    rw [length_take, r.length_encoded]
    omega
  rw [scanStep, hrest, scanHeader, hlength]
  by_cases hheader : k < walRecordHeaderLen
  · exact ⟨.truncatedHeader, by simp [failIf, hheader], .inl rfl⟩
  · have hdecode := decodeFrameHeader_encoded hfits []
    rw [append_nil] at hdecode
    have hread : decodeAndValidateHeader validateTypedHeader
        ((r.encoded.take k).take walRecordHeaderLen) = .ok r.frameHeader := by
      rw [take_take, Nat.min_eq_left (Nat.not_lt.mp hheader), decodeAndValidateHeader, hdecode]
      simp [validateTypedHeader, fromRaw_frameHeader hfits]
    refine ⟨.truncatedRecord, ?_, .inr rfl⟩
    rw [hread]
    simp [failIf, hheader, Except.mapError, toNat_totalLength hfits, hk]

/-- The scan of a log cut at any byte returns the records before the cut, and a stop exactly
when the cut goes through a record. -/
theorem scanWalRecordsFrom_torn (hvalid : ∀ r ∈ records, r.validate = .ok () ∧ r.Fits)
    (hchained : ChainedFrom firstLsn basePreviousLsn records) (cut : Nat) :
    ∃ stopped, scanWalRecordsFrom ((encodedAll records).take cut) firstLsn basePreviousLsn =
        ⟨wholeBefore cut records, (encodedAll (wholeBefore cut records)).length,
          tailLsn (wholeBefore cut records), stopped⟩ ∧
      (stopped = none ↔ (encodedAll (wholeBefore cut records)).length =
        ((encodedAll records).take cut).length) ∧
      ∀ stop ∈ stopped, stop.offset = (encodedAll (wholeBefore cut records)).length ∧
        (stop.reason = .truncatedHeader ∨ stop.reason = .truncatedRecord) := by
  obtain ⟨rest, k, hsplit, hbytes, hhead⟩ := wholeBefore_split cut records
  generalize hwhole : wholeBefore cut records = whole at *
  generalize hbuffer : (encodedAll records).take cut = buffer at *
  subst hsplit
  have hscanned : Scanned buffer firstLsn basePreviousLsn ([] ++ whole) := by
    refine ⟨⟨_, hbytes.symm⟩, ?_, hchained.left⟩
    intro r hr
    obtain ⟨hok, hfits⟩ := hvalid r (mem_append_left _ hr)
    exact ⟨validate_eq_ok.mp hok, hfits⟩
  obtain ⟨fuel, hfuel, hloop⟩ := scanLoop_reaches hscanned (Nat.le_add_left _ _)
  have hscan : scanWalRecordsFrom buffer firstLsn basePreviousLsn = _ := hloop
  rw [nil_append] at hscan hfuel
  rw [hscan]
  by_cases hend : buffer.length ≤ (encodedAll whole).length
  · refine ⟨none, scanLoop_of_end hend, ⟨fun _ => ?_, fun _ => rfl⟩, by simp⟩
    exact Nat.le_antisymm hscanned.bytes.length_le hend
  · -- a piece of the next record is left
    have hpiece : buffer.drop (encodedAll whole).length = (encodedAll rest).take k := by
      rw [hbytes, drop_left]
    cases rest with
    | nil => simp [hbytes, encodedAll] at hend
    | cons r rest =>
      have hk := hhead r rfl
      rw [encodedAll_cons, take_append_of_le_length hk.le] at hpiece
      obtain ⟨reason, hstep, htorn⟩ := @scanStep_torn r
        (scannedState firstLsn basePreviousLsn whole) buffer k (hvalid r (by simp)).2 hpiece hk
      obtain ⟨fuel, rfl⟩ : ∃ i, fuel = i + 1 := ⟨fuel - 1, by omega⟩
      refine ⟨some ⟨(encodedAll whole).length, reason⟩, ?_, ?_, ?_⟩
      · have hoffset : (scannedState firstLsn basePreviousLsn whole).offset < buffer.length :=
          Nat.not_le.mp hend
        rw [scanLoop, if_pos hoffset, hstep]
        rfl
      · simp only [reduceCtorEq, false_iff]
        omega
      · rintro stop ⟨⟩
        exact ⟨rfl, htorn⟩

def twoRecords : List WalRecord :=
  [.sealed .securityAuditAppend 1 none none [7], .sealed .securityAuditAppend 2 (some 1) none []]

/-- A cut through the header of the second record. -/
theorem scanWalRecordsFrom_torn_second : wholeBefore 100 twoRecords = twoRecords.take 1 ∧
      ∃ stopped, scanWalRecordsFrom ((encodedAll twoRecords).take 100) 1 none =
          ⟨twoRecords.take 1, (encodedAll (twoRecords.take 1)).length, some 1, stopped⟩ ∧
        stopped ≠ none := by
  have hwhole : wholeBefore 100 twoRecords = twoRecords.take 1 := by decide +kernel
  have hchained : ChainedFrom 1 none twoRecords := by
    refine ⟨?_, by simp [twoRecords, sealed, lsn]⟩
    unfold GapFree twoRecords
    exact isChain_pair.mpr (by decide)
  obtain ⟨stopped, hscan, hnone, -⟩ := @scanWalRecordsFrom_torn 1 none twoRecords
    (by unfold WalRecord.Fits; decide +kernel) hchained 100
  rw [hwhole] at hscan hnone
  exact ⟨hwhole, stopped, hscan, fun h => absurd (hnone.mp h) (by decide +kernel)⟩

end Scan

end Andromeda
