import Andromeda.Heap.RedoPayload
import Andromeda.Digest.Sha256

/-!
# Local redo templates

A row insert whose record has no LSN yet. Once the LSN is known the template becomes an `HREDOV1`
payload. Version 2 of the format carries a contract binding between the fixed fields and the
length of the tuple; the versions differ in the last byte of their domains.
-/

namespace Andromeda

open Fallible LittleEndian

structure LocalHeapRowRedoContractBinding where
  tableObjectId : UInt64
  procedureId : UInt64
  catalogVersion : UInt64
  contractHash : Digest32

namespace LocalHeapRowRedoContractBinding

section

variable (b : LocalHeapRowRedoContractBinding)

def validate : Result Unit := do
  failIf (b.tableObjectId = 0)
    (storageError "local heap redo contract binding table object id must not be zero")
  failIf (b.procedureId = 0)
    (storageError "local heap redo contract binding procedure id must not be zero")
  failIf (b.catalogVersion = 0)
    (storageError "local heap redo contract binding catalog version must not be zero")
  failIf b.contractHash.IsZero
    (storageError "local heap redo contract binding contract hash must not be zero")

def new : Result LocalHeapRowRedoContractBinding := do
  b.validate
  pure b

def encode : Bytes :=
  u64 b.tableObjectId ++ u64 b.procedureId ++ u64 b.catalogVersion ++ b.contractHash.bytes

end

/-- The binding at offset 19 of a template's data. -/
def read (data : Bytes) : Result LocalHeapRowRedoContractBinding :=
  let hash := (data.drop 43).take 32
  if h : hash.length = 32 then
    new ⟨readU64 data 19, readU64 data 27, readU64 data 35, ⟨hash, h⟩⟩
  else
    .error (storageError "local heap row insert redo template contract hash truncated")

variable {b : LocalHeapRowRedoContractBinding} {data : Bytes}

theorem read_eq_ok (h : 75 ≤ data.length) (rest : Bytes) :
    (read data = .ok b ∧ rest = data.drop 75) ↔
      b.validate = .ok () ∧ b.encode ++ rest = data.drop 19 := by
  have hhash : ((data.drop 43).take 32).length = 32 := by simp; omega
  obtain ⟨table, procedure, version, ⟨hash, hlength⟩⟩ := b
  simp (disch := omega) only [read, hhash, dif_pos, new, ok_iff, encode, List.append_assoc,
    u64_append_eq_drop, append_eq_drop hash, hlength, Nat.reduceAdd,
    LocalHeapRowRedoContractBinding.mk.injEq, Digest32.mk.injEq]
  constructor
  · rintro ⟨⟨hvalid, rfl, rfl, rfl, rfl⟩, hrest⟩
    exact ⟨hvalid, rfl, rfl, rfl, rfl, hrest⟩
  · rintro ⟨hvalid, rfl, rfl, rfl, rfl, hrest⟩
    exact ⟨⟨hvalid, rfl, rfl, rfl, rfl⟩, hrest⟩

end LocalHeapRowRedoContractBinding

structure LocalHeapRowInsertRedoTemplate where
  pageId : PageId
  pageSize : PageSize
  slotId : UInt16
  expectedPreviousPageLsn : Lsn
  redoBinding : Option LocalHeapRowRedoContractBinding
  tuple : Bytes

namespace LocalHeapRowInsertRedoTemplate

def validate (t : LocalHeapRowInsertRedoTemplate) : Result Unit := do
  failIf (t.pageId = 0) (storageError "local heap redo template page id must not be zero")
  failIf (t.slotId = HeapRowRedoPayloadV1.noneSlotId)
    (storageError "local heap row insert redo template slot id must be a real heap slot")
  failIf (t.tuple = [])
    (storageError "local heap row insert redo template tuple must not be empty")
  failIf (t.tuple.length > 4294967295)
    (storageError "local heap row insert redo template tuple length exceeds u32")
  failIf (t.tuple.length > t.pageSize.bytes)
    (storageError "local heap row insert redo template tuple length exceeds page size budget")
  t.redoBinding.forM fun binding => binding.validate

section

variable (t : LocalHeapRowInsertRedoTemplate)

def new : Result LocalHeapRowInsertRedoTemplate := do
  t.validate
  pure t

def domainV1 : Bytes :=
  "andromeda.exec.local.heap-row-insert-redo-template.v1".toList.map fun c => UInt8.ofNat c.toNat

def domainV2 : Bytes :=
  "andromeda.exec.local.heap-row-insert-redo-template.v2".toList.map fun c => UInt8.ofNat c.toNat

def domain (hasBinding : Bool) : Bytes := if hasBinding then domainV2 else domainV1

def encodeData : Bytes :=
  [t.pageSize.tag] ++ u64 t.pageId ++ u16 t.slotId ++ u64 t.expectedPreviousPageLsn
    ++ (t.redoBinding.elim [] fun binding => binding.encode)
    ++ LittleEndian.encode 4 t.tuple.length ++ t.tuple

def encodeTemplate : Result Bytes := do
  t.validate
  pure (domain t.redoBinding.isSome ++ ([0] ++ t.encodeData))

def pageSizeFromTag (tag : UInt8) : Result PageSize :=
  (PageSize.fromTag tag).mapError fun _ =>
    storageError s!"unknown local heap row insert redo template page size tag {tag.toNat}"

def fixedLen (hasBinding : Bool) : Nat := if hasBinding then 79 else 23

def readBinding (hasBinding : Bool) (data : Bytes) :
    Result (Option LocalHeapRowRedoContractBinding) :=
  if hasBinding then do
    let binding ← LocalHeapRowRedoContractBinding.read data
    pure (some binding)
  else
    pure none

def decodeTemplateWithDomain (bytes : Bytes) (hasBinding : Bool) :
    Result LocalHeapRowInsertRedoTemplate := do
  let separatorOffset := (domain hasBinding).length
  failIf (bytes[separatorOffset]? ≠ some 0)
    (storageError "local heap row insert redo template domain separator missing")
  let data := bytes.drop (separatorOffset + 1)
  let fixedLen := fixedLen hasBinding
  failIf (data.length < fixedLen) (storageError "local heap row insert redo template truncated")
  let pageSize ← pageSizeFromTag (UInt8.ofNat (field data 0 1))
  let redoBinding ← readBinding hasBinding data
  let tupleLen := field data (fixedLen - 4) 4
  failIf (data.length ≠ fixedLen + tupleLen) (storageError
    s!"local heap row insert redo template tuple length {tupleLen} does not match payload length {data.length}")
  new ⟨readU64 data 1, pageSize, readU16 data 9, readU64 data 11, redoBinding, data.drop fixedLen⟩

def tryDecodeTemplate (bytes : Bytes) : Result (Option LocalHeapRowInsertRedoTemplate) :=
  if domainV2 <+: bytes then do
    let template ← decodeTemplateWithDomain bytes true
    pure (some template)
  else if ¬ domainV1 <+: bytes then
    .ok none
  else do
    let template ← decodeTemplateWithDomain bytes false
    pure (some template)

def materializeHeapRedoPayload (resultingPageLsn : Lsn) : Result HeapRowRedoPayloadV1 := do
  t.validate
  (HeapRowRedoPayloadV1.rowInsert t.pageId t.pageSize t.slotId t.expectedPreviousPageLsn
    resultingPageLsn t.tuple).mapError storageError

def materializeWalPayload (resultingPageLsn : Lsn) : Result Bytes := do
  let payload ← t.materializeHeapRedoPayload resultingPageLsn
  (payload.encodeForWalKind .rowInsert).mapError storageError

end

variable {t : LocalHeapRowInsertRedoTemplate} {data bytes rest : Bytes} {hasBinding : Bool}
  {binding : Option LocalHeapRowRedoContractBinding}

theorem isSome_of_readBinding (h : readBinding hasBinding data = .ok binding) :
    binding.isSome = hasBinding := by
  cases hasBinding with
  | false =>
    cases h
    rfl
  | true =>
    simp only [readBinding, if_true, ok_iff] at h
    obtain ⟨b, -, rfl⟩ := h
    rfl

theorem binding_append_eq_drop (hlen : fixedLen binding.isSome ≤ data.length)
    (hvalid : binding.forM (fun b => b.validate) = .ok ()) :
    (binding.elim [] fun b => b.encode) ++ rest = data.drop 19 ↔
      readBinding binding.isSome data = .ok binding ∧
        rest = data.drop (fixedLen binding.isSome - 4) := by
  cases binding with
  | none => simp [readBinding, fixedLen]
  | some b =>
    have hle : 75 ≤ data.length := le_trans (show 75 ≤ fixedLen true by decide) hlen
    have hb : b.validate = .ok () := hvalid
    have hread := LocalHeapRowRedoContractBinding.read_eq_ok (b := b) (h := hle) rest
    simp only [hb, true_and] at hread
    simp only [readBinding, Option.isSome_some, if_true, ok_iff, Option.some.injEq,
      exists_eq_right, fixedLen]
    exact hread.symm

theorem length_encodeData (t : LocalHeapRowInsertRedoTemplate) :
    t.encodeData.length = fixedLen t.redoBinding.isSome + t.tuple.length := by
  cases h : t.redoBinding with
  | none =>
    simp [encodeData, fixedLen, h]
    omega
  | some b =>
    simp [encodeData, fixedLen, h, LocalHeapRowRedoContractBinding.encode,
      b.contractHash.length_bytes]
    omega

theorem encodeData_eq_iff (hvalid : t.validate = .ok ())
    (hlen : fixedLen t.redoBinding.isSome ≤ data.length) :
    t.encodeData = data ↔ UInt8.ofNat (field data 0 1) = t.pageSize.tag ∧
      readU64 data 1 = t.pageId ∧ readU16 data 9 = t.slotId ∧
      readU64 data 11 = t.expectedPreviousPageLsn ∧
      readBinding t.redoBinding.isSome data = .ok t.redoBinding ∧
      field data (fixedLen t.redoBinding.isSome - 4) 4 = t.tuple.length ∧
      t.tuple = data.drop (fixedLen t.redoBinding.isSome) := by
  simp only [validate, ok_iff, gt_iff_lt, not_lt] at hvalid
  have htuple : t.tuple.length < 256 ^ 4 := Nat.lt_succ_of_le hvalid.2.2.2.1
  have hfixed : 23 ≤ fixedLen t.redoBinding.isSome := by
    unfold fixedLen
    split_ifs <;> decide
  have hend : fixedLen t.redoBinding.isSome - 4 + 4 = fixedLen t.redoBinding.isSome := by omega
  change encodeData _ = data.drop 0 ↔ _
  simp (disch := first | omega | assumption) only [encodeData, List.append_assoc,
    byte_append_eq_drop, u64_append_eq_drop, u16_append_eq_drop, Nat.reduceAdd,
    binding_append_eq_drop hlen hvalid.2.2.2.2.2, encode_append_eq_drop, hend]

theorem pageSizeFromTag_eq_ok {tag : UInt8} {size : PageSize} :
    pageSizeFromTag tag = .ok size ↔ size.tag = tag := by
  rw [pageSizeFromTag, mapError_eq_ok, PageSize.fromTag_eq_ok]

theorem domain_inj {other : Bool} (h : domain hasBinding <+: bytes) (h' : domain other <+: bytes) :
    hasBinding = other := by
  have hlength : ∀ a b, (domain a).length ≤ (domain b).length := by decide
  have hdiffer : ∀ a b, domain a <+: domain b → a = b := by decide
  exact hdiffer _ _ (List.prefix_of_prefix_length_le h h' (hlength _ _))

theorem domain_of_encodeTemplate (h : t.encodeTemplate = .ok bytes) :
    domain t.redoBinding.isSome <+: bytes := by
  simp only [encodeTemplate, ok_iff] at h
  exact ⟨_, h.2⟩

theorem decodeTemplateWithDomain_eq_ok (hdomain : domain hasBinding <+: bytes) :
    decodeTemplateWithDomain bytes hasBinding = .ok t ↔ t.encodeTemplate = .ok bytes := by
  obtain ⟨tail, rfl⟩ := hdomain
  have hseparator : (domain hasBinding ++ tail)[(domain hasBinding).length]? = tail[0]? := by
    rw [List.getElem?_append_right le_rfl, Nat.sub_self]
  have hdata : (domain hasBinding ++ tail).drop ((domain hasBinding).length + 1) = tail.drop 1 := by
    rw [← List.drop_drop, List.drop_left]
  simp only [decodeTemplateWithDomain, new, ok_iff, pageSizeFromTag_eq_ok, ne_eq, not_lt,
    hseparator, hdata]
  constructor
  · rintro ⟨hzero, hlen, size, hsize, binding, hbinding, hexact, hvalid, rfl⟩
    obtain rfl := isSome_of_readBinding hbinding
    have hspelled := (encodeData_eq_iff hvalid hlen).mpr ⟨hsize.symm, rfl, rfl, rfl, hbinding,
      by rw [List.length_drop, hexact, Nat.add_sub_cancel_left], rfl⟩
    simp only [encodeTemplate, ok_iff, hspelled]
    cases tail with
    | nil => cases hzero
    | cons z data =>
      cases hzero
      exact ⟨hvalid, rfl⟩
  · intro hencode
    obtain rfl := domain_inj (domain_of_encodeTemplate hencode) ⟨tail, rfl⟩
    simp only [encodeTemplate, ok_iff] at hencode
    obtain ⟨hvalid, hbytes⟩ := hencode
    obtain rfl := List.append_cancel_left hbytes
    have hlength := length_encodeData t
    obtain ⟨hsize, hpage, hslot, hlsn, hread, hfield, htuple⟩ :=
      (encodeData_eq_iff hvalid (by omega)).mp rfl
    simp only [List.singleton_append, List.drop_one, List.tail_cons, hpage, hslot, hlsn, hfield,
      ← htuple]
    exact ⟨rfl, by omega, _, hsize.symm, _, hread, hlength, hvalid, rfl⟩

/-- Every valid template is encoded, bytes are accepted as a template exactly when they encode it,
and what a template materializes to is the row insert it stands for and no template. -/
theorem template_format_exact (t : LocalHeapRowInsertRedoTemplate) :
    (t.validate = .ok () ↔ ∃ bytes, t.encodeTemplate = .ok bytes) ∧
      (∀ bytes, tryDecodeTemplate bytes = .ok (some t) ↔ t.encodeTemplate = .ok bytes) ∧
      ∀ lsn payload, t.materializeWalPayload lsn = .ok payload →
        HeapRowRedoPayloadV1.decode payload .rowInsert =
          .ok ⟨.insert, t.pageId, t.pageSize, HeapRowRedoPayloadV1.noneSlotId, t.slotId,
            t.expectedPreviousPageLsn, lsn, t.tuple⟩ ∧ tryDecodeTemplate payload = .ok none := by
  refine ⟨by simp only [encodeTemplate, ok_iff, exists_and_left, exists_eq', and_true], ?_, ?_⟩
  · intro bytes
    unfold tryDecodeTemplate
    split_ifs with h₂ h₁
    · simp only [ok_iff, Option.some.injEq, exists_eq_right]
      exact decodeTemplateWithDomain_eq_ok h₂
    · simp only [ok_iff, Option.some.injEq, exists_eq_right]
      exact decodeTemplateWithDomain_eq_ok h₁
    · refine iff_of_false (by simp) fun hencode => ?_
      have hdomain := domain_of_encodeTemplate hencode
      cases hsome : t.redoBinding.isSome <;> rw [hsome] at hdomain
      · exact h₁ hdomain
      · exact h₂ hdomain
  · intro lsn payload h
    simp only [materializeWalPayload, materializeHeapRedoPayload, HeapRowRedoPayloadV1.rowInsert,
      HeapRowRedoPayloadV1.encodeForWalKind, ok_iff, mapError_eq_ok] at h
    obtain ⟨p, ⟨-, hbuild⟩, hkind, rfl⟩ := h
    have hparts := hbuild
    simp only [HeapRowRedoPayloadV1.build, ok_iff] at hparts
    obtain rfl := hparts.2.2.2.2
    refine ⟨hkind ▸ HeapRowRedoPayloadV1.decode_encode hbuild rfl, ?_⟩
    -- a payload starts with its own magic
    rw [tryDecodeTemplate, if_neg, if_pos]
    all_goals
      rintro ⟨rest, hrest⟩
      exact absurd (show some (97 : UInt8) = some 72 from congrArg List.head? hrest) (by decide)

end LocalHeapRowInsertRedoTemplate

end Andromeda
