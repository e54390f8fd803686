import Andromeda.Wal.Record

/-!
# Heap row redo payloads

`HREDOV1`, the payload of `RowInsert`, `RowDelete` and `RowUpdate` records: a
44-byte little-endian header followed by the tuple. A payload names the page,
the slot it closes, the slot it writes, the page LSN it expects and the page LSN
it leaves behind.
-/

namespace Andromeda

open Fallible LittleEndian

abbrev PageId := UInt64

inductive PageSize where
  | kiB16
  | kiB32
deriving DecidableEq

namespace PageSize

def bytes : PageSize → Nat
  | kiB16 => 16384
  | kiB32 => 32768

def tag : PageSize → UInt8
  | kiB16 => 1
  | kiB32 => 2

def fromTag (t : UInt8) : Except String PageSize :=
  if t = 1 then .ok kiB16
  else if t = 2 then .ok kiB32
  else .error s!"unsupported heap row redo page size tag {t.toNat}"

theorem fromTag_eq_ok {t : UInt8} {size : PageSize} : fromTag t = .ok size ↔ size.tag = t := by
  unfold fromTag
  split_ifs <;> cases size <;> simp_all [tag, eq_comm]

end PageSize

inductive HeapRowRedoOperation where
  | insert
  | delete
  | update
deriving DecidableEq

namespace HeapRowRedoOperation

def walRecordKind : HeapRowRedoOperation → WalRecordKind
  | insert => .rowInsert
  | delete => .rowDelete
  | update => .rowUpdate

def tag : HeapRowRedoOperation → UInt8
  | insert => 1
  | delete => 2
  | update => 3

def tagForKind : WalRecordKind → Option UInt8
  | .rowInsert => some 1
  | .rowDelete => some 2
  | .rowUpdate => some 3
  | _ => none

def fromTag (t : UInt8) : Option HeapRowRedoOperation :=
  if t = 1 then some insert
  else if t = 2 then some delete
  else if t = 3 then some update
  else none

def debugName : HeapRowRedoOperation → String
  | insert => "Insert"
  | delete => "Delete"
  | update => "Update"

variable {operation : HeapRowRedoOperation}

theorem fromTag_eq_some {t : UInt8} : fromTag t = some operation ↔ operation.tag = t := by
  unfold fromTag
  split_ifs <;> cases operation <;> simp_all [tag, eq_comm]

theorem tagForKind_eq_some {kind : WalRecordKind} :
    tagForKind kind = some operation.tag ↔ operation.walRecordKind = kind := by
  cases kind <;> cases operation <;> decide

end HeapRowRedoOperation

open HeapRowRedoOperation

structure HeapRowRedoPayloadV1 where
  operation : HeapRowRedoOperation
  pageId : PageId
  pageSize : PageSize
  beforeSlotId : UInt16
  afterSlotId : UInt16
  expectedPreviousPageLsn : Lsn
  resultingPageLsn : Lsn
  tuple : Bytes

namespace HeapRowRedoPayloadV1

/-- The bytes `HREDOV1\0`. -/
def payloadMagic : Bytes := [72, 82, 69, 68, 79, 86, 49, 0]

def payloadVersion : Nat := 1

def headerLen : Nat := 44

def noneSlotId : UInt16 := 65535

def validateLsnPair (expectedPreviousPageLsn resultingPageLsn : Lsn) : Except String Unit := do
  failIf (resultingPageLsn = 0) "heap row redo resulting page LSN must not be zero"
  failIf (expectedPreviousPageLsn ≠ 0 ∧ expectedPreviousPageLsn ≥ resultingPageLsn)
    "expected_previous_page_lsn must be zero or precede resulting_page_lsn"

def validateSlots (operation : HeapRowRedoOperation) (beforeSlotId afterSlotId : UInt16)
    (tuple : Bytes) : Except String Unit :=
  match operation with
  | .insert => do
    failIf (beforeSlotId ≠ noneSlotId) "RowInsert before_slot_id must be NONE_SLOT_ID"
    failIf (afterSlotId = noneSlotId) "RowInsert after_slot_id must identify a concrete slot"
    failIf (tuple = []) "RowInsert tuple bytes must not be empty"
  | .delete => do
    failIf (beforeSlotId = noneSlotId) "RowDelete before_slot_id must identify a concrete slot"
    failIf (afterSlotId ≠ noneSlotId) "RowDelete after_slot_id must be NONE_SLOT_ID"
    failIf (tuple ≠ []) "RowDelete tuple bytes must be empty"
  | .update => do
    failIf (beforeSlotId = noneSlotId ∨ afterSlotId = noneSlotId)
      "RowUpdate before_slot_id and after_slot_id must identify concrete slots"
    failIf (beforeSlotId = afterSlotId) "RowUpdate must close an old slot and insert a new slot"
    failIf (tuple = []) "RowUpdate new tuple bytes must not be empty"

def build (parts : HeapRowRedoPayloadV1) : Except String HeapRowRedoPayloadV1 := do
  failIf (parts.pageId = 0) "page_id must not be zero"
  validateLsnPair parts.expectedPreviousPageLsn parts.resultingPageLsn
  validateSlots parts.operation parts.beforeSlotId parts.afterSlotId parts.tuple
  failIf (parts.tuple.length > 4294967295) "heap row redo tuple length exceeds u32"
  pure parts

def rowInsert (pageId : PageId) (pageSize : PageSize) (slotId : UInt16)
    (expectedPreviousPageLsn resultingPageLsn : Lsn) (tuple : Bytes) :
    Except String HeapRowRedoPayloadV1 :=
  build ⟨.insert, pageId, pageSize, noneSlotId, slotId, expectedPreviousPageLsn,
    resultingPageLsn, tuple⟩

def encode (p : HeapRowRedoPayloadV1) : Bytes :=
  payloadMagic ++ LittleEndian.encode 2 payloadVersion ++ [p.operation.tag] ++ [p.pageSize.tag]
    ++ LittleEndian.encode 8 p.pageId.toNat ++ LittleEndian.encode 2 p.beforeSlotId.toNat
    ++ LittleEndian.encode 2 p.afterSlotId.toNat
    ++ LittleEndian.encode 8 p.expectedPreviousPageLsn.toNat
    ++ LittleEndian.encode 8 p.resultingPageLsn.toNat
    ++ LittleEndian.encode 4 p.tuple.length ++ p.tuple

def encodeForWalKind (p : HeapRowRedoPayloadV1) (kind : WalRecordKind) : Except String Bytes := do
  failIf (p.operation.walRecordKind ≠ kind)
    s!"heap row redo operation {p.operation.debugName} cannot be encoded for WAL record kind {kind.debugName}"
  pure p.encode

/-- `HeapRowRedoPayloadV1::decode`. The first check bounds every field read of the
header and the length check bounds the tuple read, so no read fails on its own. -/
def decode (bytes : Bytes) (kind : WalRecordKind) : Except String HeapRowRedoPayloadV1 := do
  failIf (bytes.length < headerLen) s!"expected at least 44 bytes, got {bytes.length}"
  failIf (bytes.take 8 ≠ payloadMagic) "missing HREDOV1 heap row redo envelope magic"
  let version := field bytes 8 2
  failIf (version ≠ payloadVersion) s!"unsupported heap row redo payload version {version}"
  let operationTag := UInt8.ofNat (field bytes 10 1)
  let expectedTag ← orError (tagForKind kind)
    s!"heap row redo payload cannot decode WAL record kind {kind.debugName}"
  failIf (operationTag ≠ expectedTag)
    s!"operation tag {operationTag.toNat} does not match record kind {kind.debugName}"
  let operation ← orError (fromTag operationTag)
    s!"unknown heap row redo operation tag {operationTag.toNat}"
  let pageSize ← PageSize.fromTag (UInt8.ofNat (field bytes 11 1))
  let pageId := UInt64.ofNat (field bytes 12 8)
  failIf (pageId = 0) "page_id must not be zero"
  let beforeSlotId := UInt16.ofNat (field bytes 20 2)
  let afterSlotId := UInt16.ofNat (field bytes 22 2)
  let expectedPreviousPageLsn := UInt64.ofNat (field bytes 24 8)
  let resultingPageLsn := UInt64.ofNat (field bytes 32 8)
  validateLsnPair expectedPreviousPageLsn resultingPageLsn
  let tupleLen := field bytes 40 4
  let expectedLen := headerLen + tupleLen
  failIf (bytes.length ≠ expectedLen)
    s!"tuple length {tupleLen} does not match payload length {bytes.length}; expected {expectedLen}"
  let tuple := (bytes.drop headerLen).take tupleLen
  validateSlots operation beforeSlotId afterSlotId tuple
  pure ⟨operation, pageId, pageSize, beforeSlotId, afterSlotId, expectedPreviousPageLsn,
    resultingPageLsn, tuple⟩

structure Valid (p : HeapRowRedoPayloadV1) : Prop where
  page_ne_zero : p.pageId ≠ 0
  lsns : validateLsnPair p.expectedPreviousPageLsn p.resultingPageLsn = .ok ()
  slots : validateSlots p.operation p.beforeSlotId p.afterSlotId p.tuple = .ok ()

namespace Valid

variable {p : HeapRowRedoPayloadV1}

theorem resulting_ne_zero (h : p.Valid) : p.resultingPageLsn ≠ 0 := by
  have := h.lsns
  simp only [validateLsnPair, ok_iff] at this
  exact this.1

theorem tuple_ne_nil (h : p.Valid) (hop : p.operation ≠ .delete) : p.tuple ≠ [] := by
  have hslots := h.slots
  cases hcase : p.operation with
  | insert | update =>
    simp only [validateSlots, hcase, ok_iff] at hslots
    exact hslots.2.2
  | delete => exact absurd hcase hop

theorem before_ne_after (h : p.Valid) (hop : p.operation = .update) :
    p.beforeSlotId ≠ p.afterSlotId := by
  have hslots := h.slots
  simp only [validateSlots, hop, ok_iff] at hslots
  exact hslots.2.1

end Valid

variable {bytes : Bytes} {kind : WalRecordKind} {p : HeapRowRedoPayloadV1}

theorem decode_valid (h : decode bytes kind = .ok p) :
    p.Valid ∧ p.operation.walRecordKind = kind := by
  simp only [decode, ok_iff] at h
  obtain ⟨-, -, -, tag, htag, heq, operation, hop, size, -, hpage, hlsns, -, hslots, hp⟩ := h
  subst hp
  rw [← heq, ← fromTag_eq_some.mp hop, tagForKind_eq_some] at htag
  exact ⟨⟨hpage, hlsns, hslots⟩, htag⟩

theorem build_eq_ok : build p = .ok p ↔ p.Valid ∧ p.tuple.length ≤ 4294967295 := by
  simp only [build, ok_iff, gt_iff_lt, not_lt, and_true]
  constructor
  · rintro ⟨hpage, hlsns, hslots, hlength⟩
    exact ⟨⟨hpage, hlsns, hslots⟩, hlength⟩
  · rintro ⟨⟨hpage, hlsns, hslots⟩, hlength⟩
    exact ⟨hpage, hlsns, hslots, hlength⟩

theorem encode_eq_iff (hbytes : headerLen ≤ bytes.length) (htuple : p.tuple.length < 256 ^ 4) :
    p.encode = bytes ↔ bytes.take 8 = payloadMagic ∧ field bytes 8 2 = payloadVersion ∧
      UInt8.ofNat (field bytes 10 1) = p.operation.tag ∧
      UInt8.ofNat (field bytes 11 1) = p.pageSize.tag ∧ readU64 bytes 12 = p.pageId ∧
      readU16 bytes 20 = p.beforeSlotId ∧ readU16 bytes 22 = p.afterSlotId ∧
      readU64 bytes 24 = p.expectedPreviousPageLsn ∧ readU64 bytes 32 = p.resultingPageLsn ∧
      field bytes 40 4 = p.tuple.length ∧ p.tuple = bytes.drop headerLen := by
  have hlength : 44 ≤ bytes.length := hbytes
  have hversion : payloadVersion < 256 ^ 2 := by decide
  have hmagic : payloadMagic.length = 8 := rfl
  change p.encode = bytes.drop 0 ↔ _
  simp (disch := first | omega | assumption) only [encode, List.append_assoc, ← u64.eq_def,
    ← u16.eq_def, append_eq_drop payloadMagic, hmagic, encode_append_eq_drop, byte_append_eq_drop,
    u64_append_eq_drop, u16_append_eq_drop, Nat.reduceAdd]
  rfl

theorem decode_encode (hbuild : build p = .ok p) (hencode : p.encode = bytes) :
    decode bytes p.operation.walRecordKind = .ok p := by
  obtain ⟨hvalid, hlength⟩ := build_eq_ok.mp hbuild
  have htotal : bytes.length = headerLen + p.tuple.length := by
    rw [← hencode, headerLen]
    simp [encode, payloadMagic]
    omega
  obtain ⟨hmagic, hversion, hop, hsize, hpage, hbefore, hafter, hprevious, hresulting, hlen,
    htuple⟩ := (encode_eq_iff (by omega) (by omega)).mp hencode
  rw [readU64] at hpage hprevious hresulting
  rw [readU16] at hbefore hafter
  simp only [decode, ok_iff, hmagic, hversion, hop, hsize, hpage, hbefore, hafter, hprevious,
    hresulting, hlen, htotal, ← htuple, List.take_length]
  exact ⟨by omega, trivial, trivial, _, tagForKind_eq_some.mpr rfl, rfl, _,
    fromTag_eq_some.mpr rfl, _, PageSize.fromTag_eq_ok.mpr rfl, hvalid.page_ne_zero, hvalid.lsns,
    trivial, hvalid.slots, rfl⟩

/-- Decoding accepts exactly the encodings of buildable payloads, each under the record kind
of its own operation. -/
theorem decode_eq_ok_iff : decode bytes kind = .ok p ↔
    build p = .ok p ∧ p.operation.walRecordKind = kind ∧ p.encode = bytes := by
  constructor
  · intro h
    obtain ⟨hvalid, hkind⟩ := decode_valid h
    simp only [decode, ok_iff] at h
    obtain ⟨hlength, hmagic, hversion, tag, -, -, operation, hop, size, hsize, -, -, hexact, -,
      rfl⟩ := h
    have hlen : (bytes.drop headerLen).length = field bytes 40 4 := by simp [hexact]
    have hshort : (bytes.drop headerLen).length < 256 ^ 4 := hlen ▸ field_lt bytes 40 4
    rw [List.take_of_length_le hlen.le] at hvalid ⊢
    refine ⟨build_eq_ok.mpr ⟨hvalid, Nat.le_of_lt_succ hshort⟩, hkind, ?_⟩
    rw [encode_eq_iff (by omega) hshort]
    exact ⟨hmagic, hversion, (fromTag_eq_some.mp hop).symm, (PageSize.fromTag_eq_ok.mp hsize).symm,
      rfl, rfl, rfl, rfl, rfl, hlen.symm, rfl⟩
  · rintro ⟨hbuild, rfl, hencode⟩
    exact decode_encode hbuild hencode

end HeapRowRedoPayloadV1

end Andromeda
