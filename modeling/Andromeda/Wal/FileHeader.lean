import Andromeda.Wal.FrameCodec

/-!
# The header of a log file

Eighty bytes in front of the records. Besides the fixed identification the
header says how much of the log was durable when it was written: the last durable
LSN, its bytes and its records. Opening a file reads no record beyond them.
-/

namespace Andromeda

open Fallible LittleEndian

def fileWalMagic : UInt64 := 0x314c415752444e41

/-- `FILE_WAL_HEADER_LEN`; also `FILE_WAL_DATA_OFFSET`. -/
def fileWalHeaderLen : Nat := 80

def fileWalMonoSegmentId : UInt64 := 1

@[ext]
structure FileWalHeader where
  magic : UInt64
  formatVersion : UInt16
  byteOrder : UInt16
  headerLength : UInt32
  segmentId : UInt64
  firstLsn : Lsn
  basePreviousLsn : Option Lsn
  durableLsn : Lsn
  durableBytes : UInt64
  durableRecordCount : UInt64
  headerChecksum : UInt64
  reserved : UInt64

namespace FileWalHeader

def fieldBytes (h : FileWalHeader) : Bytes :=
  u64 h.magic ++ u16 h.formatVersion ++ u16 h.byteOrder ++ u32 h.headerLength ++ u64 h.segmentId
    ++ u64 h.firstLsn ++ u64 (h.basePreviousLsn.getD 0) ++ u64 h.durableLsn ++ u64 h.durableBytes
    ++ u64 h.durableRecordCount

def checksumWithoutChecksum (h : FileWalHeader) : UInt64 :=
  fnv64Nonzero (h.fieldBytes ++ u64 h.reserved)

def unchecked (durableLsn : Lsn) (durableBytes durableRecordCount : UInt64) : FileWalHeader where
  magic := fileWalMagic
  formatVersion := walFormatVersion
  byteOrder := walByteOrderLittleEndian
  headerLength := UInt32.ofNat fileWalHeaderLen
  segmentId := fileWalMonoSegmentId
  firstLsn := 1
  basePreviousLsn := none
  durableLsn
  durableBytes
  durableRecordCount
  headerChecksum := 0
  reserved := 0

def new (durableLsn : Lsn) (durableBytes durableRecordCount : UInt64) : FileWalHeader :=
  { unchecked durableLsn durableBytes durableRecordCount with
    headerChecksum := (unchecked durableLsn durableBytes durableRecordCount).checksumWithoutChecksum }

def validate (h : FileWalHeader) : Result Unit := do
  failIf (h.magic ≠ fileWalMagic) (storageError "file WAL magic mismatch")
  failIf (h.formatVersion ≠ walFormatVersion)
    (storageError "unsupported file WAL format version")
  failIf (h.byteOrder ≠ walByteOrderLittleEndian) (storageError "file WAL byte order mismatch")
  failIf (h.headerLength ≠ UInt32.ofNat fileWalHeaderLen)
    (storageError "file WAL header length mismatch")
  failIf (h.segmentId ≠ fileWalMonoSegmentId) (storageError "file WAL segment id mismatch")
  failIf (h.firstLsn ≠ 1) (storageError "file WAL first LSN must be 1")
  failIf h.basePreviousLsn.isSome (storageError "file WAL mono-segment base LSN must be empty")
  failIf (h.reserved ≠ 0) (storageError "file WAL reserved bytes must be zero")
  failIf (h.durableLsn = 0 ∧ (h.durableBytes ≠ 0 ∨ h.durableRecordCount ≠ 0))
    (storageError "file WAL empty durable LSN must not carry durable bytes")
  failIf (h.durableLsn ≠ 0 ∧ h.durableRecordCount = 0)
    (storageError "file WAL durable LSN requires at least one durable record")
  failIf (h.headerChecksum ≠ h.checksumWithoutChecksum)
    (storageError "file WAL header checksum mismatch")

end FileWalHeader

def encodeFileWalHeader (h : FileWalHeader) : Bytes :=
  h.fieldBytes ++ u64 h.headerChecksum ++ u64 h.reserved

def readFileWalHeader (bytes : Bytes) : FileWalHeader :=
  let basePreviousLsn := readU64 bytes 32
  { magic := readU64 bytes 0
    formatVersion := readU16 bytes 8
    byteOrder := readU16 bytes 10
    headerLength := readU32 bytes 12
    segmentId := readU64 bytes 16
    firstLsn := readU64 bytes 24
    basePreviousLsn := if basePreviousLsn ≠ 0 then some basePreviousLsn else none
    durableLsn := readU64 bytes 40
    durableBytes := readU64 bytes 48
    durableRecordCount := readU64 bytes 56
    headerChecksum := readU64 bytes 64
    reserved := readU64 bytes 72 }

/-- `decode_file_wal_header`; the buffer always has the full header length. -/
def decodeFileWalHeader (bytes : Bytes) : Result FileWalHeader := do
  let header := readFileWalHeader bytes
  header.validate
  pure header

/-! ## Reading back what was written -/

@[simp] theorem length_encodeFileWalHeader (h : FileWalHeader) :
    (encodeFileWalHeader h).length = fileWalHeaderLen := by
  simp [encodeFileWalHeader, FileWalHeader.fieldBytes, fileWalHeaderLen]

theorem readFileWalHeader_encode {h : FileWalHeader} (hbase : h.basePreviousLsn = none) :
    readFileWalHeader (encodeFileWalHeader h) = h := by
  have hlast : u64 h.reserved = u64 h.reserved ++ [] := (List.append_nil _).symm
  unfold readFileWalHeader encodeFileWalHeader FileWalHeader.fieldBytes
  rw [hlast]
  simp only [List.append_assoc, readU64_append, readU32_append, readU16_append, length_u64,
    length_u32, length_u16, Nat.reduceLeDiff, Nat.reduceSub, readU64_u64, readU32_u32,
    readU16_u16, hbase, Option.getD_none, ne_eq, not_true_eq_false, if_false]
  rw [← hbase]

namespace FileWalHeader

theorem checksum_new (lsn : Lsn) (bytes count : UInt64) :
    (new lsn bytes count).headerChecksum = (new lsn bytes count).checksumWithoutChecksum := by
  -- both headers spell these bytes
  let fields := u64 fileWalMagic ++ u16 walFormatVersion ++ u16 walByteOrderLittleEndian
    ++ u32 (UInt32.ofNat fileWalHeaderLen) ++ u64 fileWalMonoSegmentId ++ u64 1 ++ u64 0
    ++ u64 lsn ++ u64 bytes ++ u64 count
  have hunchecked : (unchecked lsn bytes count).fieldBytes ++ u64 (unchecked lsn bytes count).reserved
      = fields ++ u64 0 := rfl
  have hnew : (new lsn bytes count).fieldBytes ++ u64 (new lsn bytes count).reserved =
      fields ++ u64 0 := rfl
  have hsum : (new lsn bytes count).headerChecksum =
      (unchecked lsn bytes count).checksumWithoutChecksum := by
    rw [new]
  rw [hsum, checksumWithoutChecksum, checksumWithoutChecksum, hunchecked, hnew]

/-- The numbers of a header agree on whether anything is durable. -/
structure Consistent (lsn : Lsn) (bytes count : UInt64) : Prop where
  empty : lsn = 0 → bytes = 0 ∧ count = 0
  nonempty : lsn ≠ 0 → count ≠ 0

variable {lsn : Lsn}

theorem new_validate {bytes count : UInt64} (h : Consistent lsn bytes count) :
    (new lsn bytes count).validate = .ok () := by
  have hempty : ¬ (lsn = 0 ∧ (bytes ≠ 0 ∨ count ≠ 0)) := by
    intro hzero
    obtain ⟨hbytes, hcount⟩ := h.empty hzero.1
    exact hzero.2.elim (fun hne => hne hbytes) (fun hne => hne hcount)
  have hnonempty : ¬ (lsn ≠ 0 ∧ count = 0) := fun hboth => h.nonempty hboth.1 hboth.2
  simp only [validate, ok_iff]
  refine ⟨by rw [new]; rfl, by rw [new]; rfl, by rw [new]; rfl, by rw [new]; rfl, by rw [new]; rfl,
    by rw [new]; rfl, by rw [new]; simp [unchecked], by rw [new]; rfl, ?_, ?_,
    checksum_new lsn bytes count⟩
  · rw [new]
    exact hempty
  · rw [new]
    exact hnonempty

theorem decode_encode_new {bytes count : UInt64} (h : Consistent lsn bytes count) :
    decodeFileWalHeader (encodeFileWalHeader (new lsn bytes count)) =
      .ok (new lsn bytes count) := by
  have hbase : (new lsn bytes count).basePreviousLsn = none := by
    rw [new]
    rfl
  rw [decodeFileWalHeader, readFileWalHeader_encode hbase, new_validate h]
  rfl

end FileWalHeader

end Andromeda
