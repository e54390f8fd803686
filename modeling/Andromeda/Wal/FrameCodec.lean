import Andromeda.Wal.Record
import Mathlib.Tactic.IntervalCases

/-!
# WAL record frames

The byte format of a WAL record: a header of 72 bytes with its own checksum, then the
payload. Encoding and decoding are inverse to each other: an encoded record decodes to
itself whatever bytes follow it, and whatever the decoder accepts is the encoding of the
record it returns.
-/

namespace Andromeda

open Fallible LittleEndian List WalRecordKind

def walByteOrderLittleEndian : UInt16 := 0x0102

def walRecordMagic : UInt64 := 0x414e44524f57414c

def walRecordHeaderLen : Nat := 72

def flagHasPreviousLsn : UInt16 := 0x0001

def flagHasTransactionId : UInt16 := 0x0002

@[ext]
structure WalCodecFrameHeader where
  magic : UInt64
  formatVersion : UInt16
  headerLength : UInt16
  totalLength : UInt64
  kindTag : UInt16
  flags : UInt16
  lsn : UInt64
  previousLsn : Option UInt64
  transactionId : Option UInt64
  payloadLength : UInt64
  recordChecksum : UInt64
  headerChecksum : UInt64

structure WalCodecRecordFrame where
  kindTag : UInt16
  lsn : UInt64
  previousLsn : Option UInt64
  transactionId : Option UInt64
  payload : Bytes
  recordChecksum : UInt64

def fnv64Nonzero (bytes : Bytes) : UInt64 := nonzero (fnvBytes fnvOffset bytes)

def flagsFor (previousLsn transactionId : Option UInt64) : UInt16 :=
  let flags := 0
  let flags := if previousLsn.isSome then flags ||| flagHasPreviousLsn else flags
  if transactionId.isSome then flags ||| flagHasTransactionId else flags

namespace WalCodecFrameHeader

section

variable (h : WalCodecFrameHeader)

def fieldBytes : Bytes :=
  u64 h.magic ++ u16 h.formatVersion ++ u16 h.headerLength ++ u64 h.totalLength
    ++ u16 h.kindTag ++ u16 h.flags ++ u64 h.lsn ++ u64 (h.previousLsn.getD 0)
    ++ u64 (h.transactionId.getD 0) ++ u64 h.payloadLength ++ u64 h.recordChecksum

def checksumWithoutChecksum : UInt64 := fnv64Nonzero h.fieldBytes

def validate : Result Unit := do
  failIf (h.magic ≠ walRecordMagic) (storageError "WAL frame magic mismatch")
  failIf (h.formatVersion ≠ walFormatVersion)
    (storageError "unsupported WAL frame format version")
  failIf (h.headerLength.toNat ≠ walRecordHeaderLen)
    (storageError "WAL frame header length mismatch")
  failIf (h.totalLength < h.headerLength.toUInt64)
    (storageError "WAL frame total length is smaller than header")
  failIf (h.payloadLength ≠ h.totalLength - h.headerLength.toUInt64)
    (storageError "WAL frame payload length mismatch")
  failIf (h.flags &&& ~~~(flagHasPreviousLsn ||| flagHasTransactionId) ≠ 0)
    (storageError "unknown WAL frame flags")
  failIf (h.previousLsn.isSome ≠ decide (h.flags &&& flagHasPreviousLsn ≠ 0))
    (storageError "WAL frame previous LSN flag mismatch")
  failIf (h.transactionId.isSome ≠ decide (h.flags &&& flagHasTransactionId ≠ 0))
    (storageError "WAL frame transaction id flag mismatch")
  failIf (h.headerChecksum ≠ h.checksumWithoutChecksum)
    (storageError "WAL frame header checksum mismatch")

end

end WalCodecFrameHeader

open WalCodecFrameHeader

def encodedWalRecordFrameLen (payloadLength : UInt64) : Result UInt64 :=
  orError (checkedAdd (UInt64.ofNat walRecordHeaderLen) payloadLength)
    (storageError "WAL frame total length would overflow u64")

section

variable (frame : WalCodecRecordFrame)

def WalCodecRecordFrame.uncheckedHeader (totalLength : UInt64) : WalCodecFrameHeader where
  magic := walRecordMagic
  formatVersion := walFormatVersion
  headerLength := UInt16.ofNat walRecordHeaderLen
  totalLength
  kindTag := frame.kindTag
  flags := flagsFor frame.previousLsn frame.transactionId
  lsn := frame.lsn
  previousLsn := frame.previousLsn
  transactionId := frame.transactionId
  payloadLength := UInt64.ofNat frame.payload.length
  recordChecksum := frame.recordChecksum
  headerChecksum := 0

def WalCodecRecordFrame.header (totalLength : UInt64) : WalCodecFrameHeader :=
  { frame.uncheckedHeader totalLength with
    headerChecksum := (frame.uncheckedHeader totalLength).checksumWithoutChecksum }

def WalCodecFrameHeader.fromRecordFrame : Result WalCodecFrameHeader := do
  let totalLength ← encodedWalRecordFrameLen (UInt64.ofNat frame.payload.length)
  let header := frame.header totalLength
  header.validate
  pure header

def encodeWalRecordFrame : Result Bytes := do
  let header ← fromRecordFrame frame
  pure (header.fieldBytes ++ u64 header.headerChecksum ++ frame.payload)

end

section

variable (buffer : Bytes)

def readFrameHeader : WalCodecFrameHeader :=
  let flags := readU16 buffer 22
  { magic := readU64 buffer 0
    formatVersion := readU16 buffer 8
    headerLength := readU16 buffer 10
    totalLength := readU64 buffer 12
    kindTag := readU16 buffer 20
    flags
    lsn := readU64 buffer 24
    previousLsn := if flags &&& flagHasPreviousLsn ≠ 0 then some (readU64 buffer 32) else none
    transactionId := if flags &&& flagHasTransactionId ≠ 0 then some (readU64 buffer 40) else none
    payloadLength := readU64 buffer 48
    recordChecksum := readU64 buffer 56
    headerChecksum := readU64 buffer 64 }

def decodeFrameHeader : Result WalCodecFrameHeader := do
  failIf (buffer.length < walRecordHeaderLen) (storageError "truncated WAL frame header")
  failIf (readU16 buffer 22 &&& flagHasPreviousLsn = 0 ∧ readU64 buffer 32 ≠ 0)
    (storageError "WAL frame has unflagged previous LSN bytes")
  failIf (readU16 buffer 22 &&& flagHasTransactionId = 0 ∧ readU64 buffer 40 ≠ 0)
    (storageError "WAL frame has unflagged transaction id bytes")
  let header := readFrameHeader buffer
  header.validate
  pure header

def decodeFrameBody (header : WalCodecFrameHeader) :
    Result (Option (WalCodecRecordFrame × Nat)) := do
  let totalLength := header.totalLength.toNat
  failIf (buffer.length < totalLength) (storageError "truncated WAL frame payload")
  pure (some
    ({ kindTag := header.kindTag
       lsn := header.lsn
       previousLsn := header.previousLsn
       transactionId := header.transactionId
       payload := (buffer.take totalLength).drop walRecordHeaderLen
       recordChecksum := header.recordChecksum }, totalLength))

def decodeRawRecordFrame : Result (Option (WalCodecRecordFrame × Nat)) :=
  if buffer = [] then .ok none
  else do
    failIf (buffer.length < walRecordHeaderLen) (storageError "truncated WAL frame header")
    let header ← decodeFrameHeader (buffer.take walRecordHeaderLen)
    decodeFrameBody buffer header

def WalCodecFrameHeader.kind (h : WalCodecFrameHeader) : Result WalRecordKind :=
  orError (fromTag h.kindTag.toUInt64) (storageError "unknown WAL record kind tag")

def WalCodecFrameHeader.typedValidate (h : WalCodecFrameHeader) : Result Unit := do
  h.validate
  let _ ← h.kind
  pure ()

def WalCodecFrameHeader.fromRaw (raw : WalCodecFrameHeader) : Result WalCodecFrameHeader := do
  raw.validate
  raw.typedValidate
  pure raw

def rawRecordFrameFromRecord (record : WalRecord) : Result WalCodecRecordFrame := do
  failIf (record.header.kind.tag.toNat ≥ UInt16.size)
    (storageError "WAL record kind tag does not fit frame")
  pure
    { kindTag := record.header.kind.tag.toUInt16
      lsn := record.header.lsn
      previousLsn := record.header.previousLsn
      transactionId := record.header.transactionId
      payload := record.payload
      recordChecksum := record.header.checksum }

def recordFromRaw (raw : WalCodecRecordFrame) : Result WalRecord := do
  let kind ← orError (fromTag raw.kindTag.toUInt64)
    (storageError "unknown WAL record kind tag")
  WalRecord.new
    { kind
      lsn := raw.lsn
      previousLsn := raw.previousLsn
      transactionId := raw.transactionId
      payloadLength := UInt64.ofNat raw.payload.length
      checksum := raw.recordChecksum } raw.payload

def encodeWalRecord (record : WalRecord) : Result Bytes := do
  record.validate
  let raw ← rawRecordFrameFromRecord record
  encodeWalRecordFrame raw

def encodedWalRecordLen (record : WalRecord) : Result UInt64 := do
  record.validate
  encodedWalRecordFrameLen record.header.payloadLength

def typedRecordFrame : Option (WalCodecRecordFrame × Nat) → Result (Option (WalRecord × Nat))
  | none => .ok none
  | some (raw, consumed) => do
    let record ← recordFromRaw raw
    pure (some (record, consumed))

def decodeWalRecordFrame : Result (Option (WalRecord × Nat)) := do
  let raw ← decodeRawRecordFrame buffer
  typedRecordFrame raw

end

/-! ## Valid headers -/

theorem flagsFor_known (p t : Option UInt64) :
    flagsFor p t &&& ~~~(flagHasPreviousLsn ||| flagHasTransactionId) = 0 := by
  unfold flagsFor
  cases p <;> cases t <;> simp only [Option.isSome] <;> decide

theorem flagsFor_previousLsn (p t : Option UInt64) :
    p.isSome = decide (flagsFor p t &&& flagHasPreviousLsn ≠ 0) := by
  unfold flagsFor
  cases p <;> cases t <;> simp only [Option.isSome] <;> decide

theorem flagsFor_transactionId (p t : Option UInt64) :
    t.isSome = decide (flagsFor p t &&& flagHasTransactionId ≠ 0) := by
  unfold flagsFor
  cases p <;> cases t <;> simp only [Option.isSome] <;> decide

variable {flags : UInt16} {h : WalCodecFrameHeader} {b : Prop} {buffer : Bytes}

theorem flags_lt_four (h : flags &&& ~~~(flagHasPreviousLsn ||| flagHasTransactionId) = 0) :
    flags.toNat < 4 := by
  have hnat : flags.toNat &&& 65532 = 0 := by
    have := congrArg UInt16.toNat h
    rw [UInt16.toNat_and] at this
    exact this
  apply Nat.lt_pow_two_of_testBit (n := 2)
  intro i hi
  by_cases hhigh : i < 16
  · have hbit := congrArg (Nat.testBit · i) hnat
    simp only [Nat.testBit_and, Nat.zero_testBit] at hbit
    have hmask : Nat.testBit 65532 i = true := by
      interval_cases i <;> decide
    simpa [hmask] using hbit
  · apply Nat.testBit_lt_two_pow
    exact lt_of_lt_of_le flags.toNat_lt (Nat.pow_le_pow_right (by decide) (not_lt.mp hhigh))

theorem flags_eq_flagsFor {p t : Option UInt64}
    (hknown : flags &&& ~~~(flagHasPreviousLsn ||| flagHasTransactionId) = 0)
    (hp : p.isSome = decide (flags &&& flagHasPreviousLsn ≠ 0))
    (ht : t.isSome = decide (flags &&& flagHasTransactionId ≠ 0)) : flags = flagsFor p t := by
  have hlt := flags_lt_four hknown
  obtain ⟨n, hn, rfl⟩ : ∃ n, n < 4 ∧ flags = UInt16.ofNat n :=
    ⟨flags.toNat, hlt, by simp⟩
  have hflags : ∀ n < 4, UInt16.ofNat n =
      flagsFor (if UInt16.ofNat n &&& flagHasPreviousLsn ≠ 0 then some 0 else none)
        (if UInt16.ofNat n &&& flagHasTransactionId ≠ 0 then some 0 else none) := by decide
  rw [hflags n hn]
  unfold flagsFor
  rw [hp, ht]
  by_cases h1 : UInt16.ofNat n &&& flagHasPreviousLsn ≠ 0 <;>
    by_cases h2 : UInt16.ofNat n &&& flagHasTransactionId ≠ 0 <;> simp [h1, h2]

structure WalCodecFrameHeader.Valid (h : WalCodecFrameHeader) : Prop where
  magic : h.magic = walRecordMagic
  formatVersion : h.formatVersion = walFormatVersion
  headerLength : h.headerLength = UInt16.ofNat walRecordHeaderLen
  totalLength : h.totalLength.toNat = walRecordHeaderLen + h.payloadLength.toNat
  flags : h.flags = flagsFor h.previousLsn h.transactionId
  headerChecksum : h.headerChecksum = h.checksumWithoutChecksum

theorem WalCodecFrameHeader.validate_eq_ok {u : Unit} : h.validate = .ok u ↔ h.Valid := by
  have hlength : h.headerLength.toNat = walRecordHeaderLen ↔
      h.headerLength = UInt16.ofNat walRecordHeaderLen := by
    rw [← UInt16.toNat_inj]
    rfl
  simp only [validate, ok_iff, hlength, UInt64.not_lt]
  constructor
  · rintro ⟨hmagic, hversion, hheader, hle, hpayload, hknown, hp, ht, hchecksum⟩
    refine ⟨hmagic, hversion, hheader, ?_, flags_eq_flagsFor hknown hp ht, hchecksum⟩
    rw [hheader] at hle hpayload
    have hle' : walRecordHeaderLen ≤ h.totalLength.toNat := UInt64.le_iff_toNat_le.mp hle
    rw [hpayload, UInt64.toNat_sub_of_le _ _ hle]
    show _ = walRecordHeaderLen + (_ - walRecordHeaderLen)
    omega
  · intro hv
    have hle : h.headerLength.toUInt64 ≤ h.totalLength := by
      rw [UInt64.le_iff_toNat_le, hv.totalLength, hv.headerLength]
      exact Nat.le_add_right _ _
    refine ⟨hv.magic, hv.formatVersion, hv.headerLength, hle, ?_, ?_, ?_, ?_, hv.headerChecksum⟩
    · rw [← UInt64.toNat_inj, UInt64.toNat_sub_of_le _ _ hle, hv.totalLength, hv.headerLength]
      exact (Nat.add_sub_cancel_left ..).symm
    · rw [hv.flags]
      exact flagsFor_known _ _
    · rw [hv.flags]
      exact flagsFor_previousLsn _ _
    · rw [hv.flags]
      exact flagsFor_transactionId _ _

theorem WalCodecFrameHeader.Valid.ext {h' : WalCodecFrameHeader} (hh : h.Valid) (hh' : h'.Valid)
    (kindTag : h.kindTag = h'.kindTag) (lsn : h.lsn = h'.lsn)
    (previousLsn : h.previousLsn = h'.previousLsn)
    (transactionId : h.transactionId = h'.transactionId)
    (payloadLength : h.payloadLength = h'.payloadLength)
    (recordChecksum : h.recordChecksum = h'.recordChecksum) : h = h' := by
  have magic := hh.magic.trans hh'.magic.symm
  have formatVersion := hh.formatVersion.trans hh'.formatVersion.symm
  have headerLength := hh.headerLength.trans hh'.headerLength.symm
  have totalLength : h.totalLength = h'.totalLength := by
    rw [← UInt64.toNat_inj, hh.totalLength, hh'.totalLength, payloadLength]
  have flags : h.flags = h'.flags := by
    rw [hh.flags, hh'.flags, previousLsn, transactionId]
  have headerChecksum : h.headerChecksum = h'.headerChecksum := by
    rw [hh.headerChecksum, hh'.headerChecksum, checksumWithoutChecksum, checksumWithoutChecksum,
      fieldBytes, fieldBytes, magic, formatVersion, headerLength, totalLength, kindTag, flags, lsn,
      previousLsn, transactionId, payloadLength, recordChecksum]
  exact WalCodecFrameHeader.ext magic formatVersion headerLength totalLength kindTag flags lsn
    previousLsn transactionId payloadLength recordChecksum headerChecksum

theorem WalCodecFrameHeader.length_fieldBytes (h : WalCodecFrameHeader) :
    h.fieldBytes.length = 64 := by
  simp [fieldBytes]

theorem optional_word {o : Option UInt64} [Decidable b] (h : o.isSome = decide b) :
    (if b then some (o.getD 0) else none) = o ∧ ¬ (¬ b ∧ o.getD 0 ≠ 0) := by
  cases o with
  | none => simp [of_decide_eq_false h.symm]
  | some v => simp [of_decide_eq_true h.symm]

theorem getD_if_flag [Decidable b] {v : UInt64} (h : ¬ (¬ b ∧ v ≠ 0)) :
    (if b then some v else none).getD 0 = v := by
  split_ifs with hb
  · rfl
  · by_contra hv
    exact h ⟨hb, fun heq => hv heq.symm⟩

theorem take_eq_fieldBytes (hlength : walRecordHeaderLen ≤ buffer.length) :
    buffer.take walRecordHeaderLen = h.fieldBytes ++ u64 h.headerChecksum ↔
      readU64 buffer 32 = h.previousLsn.getD 0 ∧ readU64 buffer 40 = h.transactionId.getD 0 ∧
        { readFrameHeader buffer with
          previousLsn := h.previousLsn, transactionId := h.transactionId } = h := by
  have hlength' : 72 ≤ buffer.length := hlength
  have hspells : buffer.take walRecordHeaderLen = h.fieldBytes ++ u64 h.headerChecksum ↔
      h.fieldBytes ++ u64 h.headerChecksum ++ buffer.drop 72 = buffer.drop 0 := by
    have hlen : (h.fieldBytes ++ u64 h.headerChecksum).length = 72 := by simp [length_fieldBytes]
    rw [append_eq_drop, hlen]
    simp [walRecordHeaderLen]
  rw [hspells]
  simp (disch := omega) only [fieldBytes, append_assoc, u64_append_eq_drop, u16_append_eq_drop,
    Nat.reduceAdd, WalCodecFrameHeader.ext_iff, readFrameHeader, and_true]
  grind

theorem decodeFrameHeader_eq_ok :
    decodeFrameHeader buffer = .ok h ↔ walRecordHeaderLen ≤ buffer.length ∧ h.Valid ∧
      buffer.take walRecordHeaderLen = h.fieldBytes ++ u64 h.headerChecksum := by
  simp only [decodeFrameHeader, ok_iff, not_lt, WalCodecFrameHeader.validate_eq_ok]
  constructor
  · rintro ⟨hlength, hp, ht, hvalid, rfl⟩
    rw [take_eq_fieldBytes hlength]
    exact ⟨hlength, hvalid, (getD_if_flag (by simpa using hp)).symm,
      (getD_if_flag (by simpa using ht)).symm, rfl⟩
  · rintro ⟨hlength, hvalid, hbytes⟩
    obtain ⟨hprevious, htransaction, hread⟩ := (take_eq_fieldBytes hlength).mp hbytes
    have hflags : readU16 buffer 22 = flagsFor h.previousLsn h.transactionId :=
      (congrArg WalCodecFrameHeader.flags hread).trans hvalid.flags
    obtain ⟨hp, hp'⟩ := optional_word (flagsFor_previousLsn h.previousLsn h.transactionId)
    obtain ⟨ht, ht'⟩ := optional_word (flagsFor_transactionId h.previousLsn h.transactionId)
    rw [← hflags, ← hprevious] at hp hp'
    rw [← hflags, ← htransaction] at ht ht'
    have hheader : readFrameHeader buffer = h := by
      rw [← hread, ← hp, ← ht]
      rfl
    rw [hheader]
    exact ⟨hlength, by simpa using hp', by simpa using ht', hvalid, rfl⟩

namespace WalRecord

theorem checksum_header (frame : WalCodecRecordFrame) (totalLength : UInt64) :
    (frame.header totalLength).headerChecksum =
      (frame.header totalLength).checksumWithoutChecksum := by
  have hbytes : (frame.header totalLength).fieldBytes =
      (frame.uncheckedHeader totalLength).fieldBytes := by
    simp only [fieldBytes, WalCodecRecordFrame.header]
  have hsum : (frame.header totalLength).headerChecksum =
      (frame.uncheckedHeader totalLength).checksumWithoutChecksum := by
    rw [WalCodecRecordFrame.header]
  rw [hsum, checksumWithoutChecksum, checksumWithoutChecksum, hbytes]

section

variable (r : WalRecord)

def frame : WalCodecRecordFrame where
  kindTag := r.header.kind.tag.toUInt16
  lsn := r.header.lsn
  previousLsn := r.header.previousLsn
  transactionId := r.header.transactionId
  payload := r.payload
  recordChecksum := r.header.checksum

/-- The length of the record's frame fits a `u64`. -/
def Fits : Prop := walRecordHeaderLen + r.payload.length < UInt64.size

def frameHeader : WalCodecFrameHeader :=
  r.frame.header (UInt64.ofNat (walRecordHeaderLen + r.payload.length))

def encoded : Bytes :=
  r.frameHeader.fieldBytes ++ u64 r.frameHeader.headerChecksum ++ r.payload

theorem length_encoded : r.encoded.length = walRecordHeaderLen + r.payload.length := by
  simp only [encoded, length_append, length_fieldBytes, length_u64]
  rfl

end

variable {r : WalRecord}

theorem toNat_totalLength (h : r.Fits) :
    r.frameHeader.totalLength.toNat = walRecordHeaderLen + r.payload.length :=
  UInt64.toNat_ofNat_of_lt' h

theorem toNat_payloadLength (h : r.Fits) :
    r.frameHeader.payloadLength.toNat = r.payload.length := by
  have hlt : r.payload.length < UInt64.size := by
    unfold Fits at h
    omega
  exact UInt64.toNat_ofNat_of_lt' hlt

theorem frameHeader_valid (h : r.Fits) : r.frameHeader.Valid where
  magic := rfl
  formatVersion := rfl
  headerLength := rfl
  totalLength := by rw [toNat_totalLength h, toNat_payloadLength h]
  flags := rfl
  headerChecksum := checksum_header _ _

theorem encodedWalRecordFrameLen_eq (h : r.Fits) :
    encodedWalRecordFrameLen (UInt64.ofNat r.payload.length) = .ok r.frameHeader.totalLength := by
  have hadd : checkedAdd (UInt64.ofNat walRecordHeaderLen) (UInt64.ofNat r.payload.length) =
      some r.frameHeader.totalLength := by
    have hpayload : (UInt64.ofNat r.payload.length).toNat = r.payload.length :=
      toNat_payloadLength h
    rw [checkedAdd_eq_some, toNat_totalLength h, hpayload]
    rfl
  rw [encodedWalRecordFrameLen, hadd, orError_some]

theorem encodeWalRecord_eq (hvalid : r.Valid) (hfits : r.Fits) :
    encodeWalRecord r = .ok r.encoded := by
  have hheader : fromRecordFrame r.frame = .ok r.frameHeader := by
    simp only [fromRecordFrame, ok_iff, WalCodecFrameHeader.validate_eq_ok]
    exact ⟨_, encodedWalRecordFrameLen_eq hfits, frameHeader_valid hfits, rfl⟩
  simp only [encodeWalRecord, encodeWalRecordFrame, rawRecordFrameFromRecord, ok_iff,
    validate_eq_ok, not_le]
  exact ⟨hvalid, r.frame, ⟨by cases r.header.kind <;> decide, rfl⟩, r.frameHeader, hheader, rfl⟩

theorem encodedWalRecordLen_eq (hvalid : r.Valid) (hfits : r.Fits) :
    encodedWalRecordLen r = .ok r.frameHeader.totalLength := by
  simp only [encodedWalRecordLen, ok_iff, validate_eq_ok]
  refine ⟨hvalid, ?_⟩
  rw [hvalid.length]
  exact encodedWalRecordFrameLen_eq hfits

theorem fromTag_frame (r : WalRecord) : fromTag r.frame.kindTag.toUInt64 = some r.header.kind := by
  show fromTag r.header.kind.tag.toUInt16.toUInt64 = _
  cases r.header.kind <;> rfl

theorem fromRaw_frameHeader (h : r.Fits) : r.frameHeader.fromRaw = .ok r.frameHeader := by
  have hvalid : r.frameHeader.validate = .ok () :=
    WalCodecFrameHeader.validate_eq_ok.mpr (frameHeader_valid h)
  simp only [fromRaw, typedValidate, WalCodecFrameHeader.kind, ok_iff, hvalid, true_and, and_true]
  exact ⟨r.header.kind, fromTag_frame r⟩

theorem decodeFrameHeader_encoded (h : r.Fits) (rest : Bytes) :
    decodeFrameHeader ((r.encoded ++ rest).take walRecordHeaderLen) = .ok r.frameHeader := by
  have htake : (r.encoded ++ rest).take walRecordHeaderLen =
      r.frameHeader.fieldBytes ++ u64 r.frameHeader.headerChecksum := by
    rw [encoded, append_assoc]
    apply take_left'
    simp [length_fieldBytes, walRecordHeaderLen]
  apply decodeFrameHeader_eq_ok.mpr
  refine ⟨?_, frameHeader_valid h, ?_⟩
  · rw [htake]
    simp [length_fieldBytes, walRecordHeaderLen]
  · rw [take_take, Nat.min_self, htake]

theorem recordFromRaw_eq_ok {raw : WalCodecRecordFrame} :
    recordFromRaw raw = .ok r ↔ r.Valid ∧ r.frame = raw := by
  simp only [recordFromRaw, WalRecord.new, ok_iff, validate_eq_ok]
  constructor
  · rintro ⟨kind, hkind, hvalid, heq⟩
    rw [heq] at hvalid
    refine ⟨hvalid, ?_⟩
    have htag : kind.tag.toUInt16 = raw.kindTag := by
      rw [tag_of_fromTag hkind]
      simp
    rw [← heq, frame, htag]
  · rintro ⟨hvalid, hraw⟩
    have hrecord : r = ⟨⟨r.header.kind, raw.lsn, raw.previousLsn, raw.transactionId,
        UInt64.ofNat raw.payload.length, raw.recordChecksum⟩, raw.payload⟩ := by
      rw [← hraw]
      simp [frame, ← hvalid.length]
    refine ⟨r.header.kind, ?_, ?_⟩
    · rw [← hraw]
      exact fromTag_frame r
    · rw [← hrecord]
      exact ⟨hvalid, rfl⟩

/-- A buffer decodes to a record exactly when it starts with the bytes of that record. -/
theorem decodeWalRecordFrame_eq_some {n : Nat} : decodeWalRecordFrame buffer = .ok (some (r, n)) ↔
      r.Valid ∧ r.Fits ∧ n = r.encoded.length ∧ r.encoded <+: buffer := by
  constructor
  · intro h
    simp only [decodeWalRecordFrame, bind_eq_ok] at h
    obtain ⟨decoded, hdecoded, htyped⟩ := h
    unfold decodeRawRecordFrame at hdecoded
    split at hdecoded
    · cases hdecoded
      cases htyped
    simp only [decodeFrameBody, ok_iff, not_lt] at hdecoded
    obtain ⟨hheaderLen, header, hheader, htotal, rfl⟩ := hdecoded
    simp only [typedRecordFrame, ok_iff, Option.some.injEq, Prod.mk.injEq,
      recordFromRaw_eq_ok] at htyped
    obtain ⟨r', ⟨hvalid, hframe⟩, rfl, rfl⟩ := htyped
    obtain ⟨-, hheaderValid, hbytes⟩ := decodeFrameHeader_eq_ok.mp hheader
    rw [take_take, Nat.min_self] at hbytes
    obtain ⟨hkind, hlsn, hprevious, htransaction, hpayload, hchecksum⟩ :=
      WalCodecRecordFrame.mk.inj hframe
    have hge : walRecordHeaderLen ≤ header.totalLength.toNat := by
      rw [hheaderValid.totalLength]
      exact Nat.le_add_right _ _
    have hlength : walRecordHeaderLen + r'.payload.length = header.totalLength.toNat := by
      rw [hpayload, length_drop, length_take, Nat.min_eq_left htotal]
      omega
    have hfits : r'.Fits := by
      rw [Fits, hlength]
      exact header.totalLength.toNat_lt
    have hsame : header = r'.frameHeader := by
      refine hheaderValid.ext (frameHeader_valid hfits) hkind.symm hlsn.symm hprevious.symm
        htransaction.symm ?_ hchecksum.symm
      rw [← UInt64.toNat_inj, toNat_payloadLength hfits]
      have := hheaderValid.totalLength
      omega
    have hencoded : r'.encoded = buffer.take header.totalLength.toNat := by
      have hsplit := take_append_drop walRecordHeaderLen (buffer.take header.totalLength.toNat)
      rw [take_take, Nat.min_eq_left hge, hbytes, ← hpayload] at hsplit
      rw [encoded, ← hsame]
      exact hsplit
    refine ⟨hvalid, hfits, ?_, ?_⟩
    · rw [length_encoded, hlength]
    · rw [hencoded]
      exact take_prefix _ _
  · rintro ⟨hvalid, hfits, hn, rest, hbuffer⟩
    have hlength := length_encoded r
    have hbufferLen : walRecordHeaderLen + r.payload.length ≤ buffer.length := by
      rw [← hbuffer, length_append, hlength]
      exact Nat.le_add_right _ _
    have hne : buffer ≠ [] := by
      rintro rfl
      simp [walRecordHeaderLen] at hbufferLen
    have hheader := decodeFrameHeader_encoded hfits rest
    rw [hbuffer] at hheader
    have hpayload : (buffer.take r.frameHeader.totalLength.toNat).drop walRecordHeaderLen =
        r.payload := by
      rw [toNat_totalLength hfits, ← hlength, ← hbuffer, take_left, encoded]
      apply drop_left'
      simp [length_fieldBytes, walRecordHeaderLen]
    simp only [decodeWalRecordFrame, decodeRawRecordFrame, if_neg hne, decodeFrameBody, ok_iff,
      not_lt]
    refine ⟨_, ⟨by omega, r.frameHeader, hheader, ?_, rfl⟩, ?_⟩
    · rw [toNat_totalLength hfits]
      exact hbufferLen
    · simp only [typedRecordFrame, ok_iff, recordFromRaw_eq_ok]
      refine ⟨r, ⟨hvalid, ?_⟩, ?_⟩
      · rw [hpayload]
        rfl
      · rw [toNat_totalLength hfits, hn, hlength]

end WalRecord

end Andromeda
