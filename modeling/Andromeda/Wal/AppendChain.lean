import Andromeda.Wal.Record
import Mathlib.Data.List.Chain
import Mathlib.Data.List.Nodup

/-!
# The append chain

Every log in this development is a list of records in which each record carries
the LSN after its predecessor's and names that predecessor. `Follows` is that
relation, `GapFree` the lists it links, and the append-side checks below accept a
record exactly when it extends the list.
-/

namespace Andromeda

open Fallible List

/-! ## Gap-free lists of records -/

/-- `b` carries the LSN right after `a`'s and names `a` as its predecessor. -/
def WalRecord.Follows (a b : WalRecord) : Prop :=
  b.lsn.toNat = a.lsn.toNat + 1 ∧ b.header.previousLsn = some a.lsn
deriving Decidable

open WalRecord

abbrev GapFree (records : List WalRecord) : Prop := records.IsChain WalRecord.Follows

abbrev Increasing (records : List WalRecord) : Prop :=
  records.Pairwise fun a b => a.lsn < b.lsn

variable {a b r : WalRecord} {records xs : List WalRecord} {tail : Option Lsn} {u : Unit}

theorem WalRecord.Follows.lt (h : a.Follows b) : a.lsn < b.lsn := by
  rw [UInt64.lt_iff_toNat_lt, h.1]
  omega

theorem GapFree.increasing (h : GapFree records) : Increasing records := by
  have hlt : records.IsChain fun a b => a.lsn < b.lsn := h.imp fun _ _ hab => hab.lt
  have htrans : Trans (fun a b : WalRecord => a.lsn < b.lsn)
      (fun a b : WalRecord => a.lsn < b.lsn) (fun a b : WalRecord => a.lsn < b.lsn) :=
    ⟨UInt64.lt_trans⟩
  exact isChain_iff_pairwise.mp hlt

theorem Increasing.eq_of_lsn_eq (h : Increasing records) (ha : a ∈ records) (hb : b ∈ records)
    (heq : a.lsn = b.lsn) : a = b :=
  inj_on_of_nodup_map (pairwise_map.mpr (h.imp UInt64.ne_of_lt)) ha hb heq

def tailLsn (records : List WalRecord) : Option Lsn := records.getLast?.map lsn

def tryNextLsn (tail : Option Lsn) : Result Lsn :=
  match tail with
  | some last => Lsn.tryNext last
  | none => .ok 1

def payloadRecord (kind : WalRecordKind) (tail : Option Lsn)
    (transactionId : Option TransactionId) (payload : Bytes) : Result WalRecord := do
  let lsn ← tryNextLsn tail
  fromParts kind lsn tail transactionId payload

def walRecordSizeLimit : UInt64 := 1048576

def validateRecordSize (r : WalRecord) : Result Unit := do
  let payloadLen := r.header.payloadLength
  failIf (payloadLen > walRecordSizeLimit) (storageError
    s!"WAL record payload {payloadLen} bytes exceeds limit {walRecordSizeLimit} bytes")
  let actualLen := UInt64.ofNat r.payload.length
  failIf (actualLen > walRecordSizeLimit) (storageError
    s!"WAL record actual size {actualLen} bytes exceeds limit {walRecordSizeLimit} bytes")

def validateWalRecordBounds (r : WalRecord) : Result Unit := do
  r.validate
  validateRecordSize r

def validateAppendRecord (r : WalRecord) (tail : Option Lsn)
    (lsnMismatchMsg previousLsnMismatchMsg : String) : Result Unit := do
  r.validate
  validateWalRecordBounds r
  let expectedLsn ← tryNextLsn tail
  failIf (r.header.lsn ≠ expectedLsn) (storageError lsnMismatchMsg)
  failIf (r.header.previousLsn ≠ tail) (storageError previousLsnMismatchMsg)

def validateFlushTarget (requested durable : Lsn) (tail : Option Lsn)
    (emptyLogMsg beyondTailMsg : String) : Result (Option Lsn) :=
  if requested = 0 ∨ requested ≤ durable then .ok none
  else
    match tail with
    | none => .error (storageError emptyLogMsg)
    | some last =>
      if requested > last then .error (storageError beyondTailMsg) else .ok (some requested)

def durableRecords (records : List WalRecord) (durable : Lsn) : List WalRecord :=
  records.filter fun r => r.lsn ≤ durable

/-- `r` is the record that goes right after `tail`. -/
@[mk_iff]
structure WalRecord.Extends (tail : Option Lsn) (r : WalRecord) : Prop where
  lsn : r.lsn.toNat = (tail.map UInt64.toNat).getD 0 + 1
  previous : r.header.previousLsn = tail

/-- Gap-free from the given tail on. -/
@[mk_iff]
structure Chained (tail : Option Lsn) (records : List WalRecord) : Prop where
  gapFree : GapFree records
  head : ∀ r ∈ records.head?, r.Extends tail

instance (tail : Option Lsn) (r : WalRecord) : Decidable (r.Extends tail) :=
  decidable_of_iff _ (r.extends_iff tail).symm

instance (tail : Option Lsn) (records : List WalRecord) : Decidable (Chained tail records) :=
  decidable_of_iff _ (chained_iff tail records).symm

theorem tryNextLsn_eq_ok {n : Lsn} :
    tryNextLsn tail = .ok n ↔ n.toNat = (tail.map UInt64.toNat).getD 0 + 1 := by
  cases tail with
  | none =>
    simp only [tryNextLsn, Except.ok.injEq, Option.map_none, Option.getD_none]
    rw [eq_comm, ← UInt64.toNat_inj]
    rfl
  | some last => exact Lsn.tryNext_eq_ok

theorem validateRecordSize_eq_ok (h : r.Valid) :
    validateRecordSize r = .ok u ↔ r.header.payloadLength ≤ walRecordSizeLimit := by
  simp [validateRecordSize, ← h.length]

theorem validateAppendRecord_eq_ok {m₁ m₂ : String} : validateAppendRecord r tail m₁ m₂ = .ok u ↔
      r.Valid ∧ r.header.payloadLength ≤ walRecordSizeLimit ∧ r.Extends tail := by
  simp only [validateAppendRecord, validateWalRecordBounds, ok_iff, validate_eq_ok, tryNextLsn_eq_ok]
  constructor
  · rintro ⟨hvalid, ⟨-, hsize⟩, n, hn, hlsn, hprevious⟩
    refine ⟨hvalid, (validateRecordSize_eq_ok hvalid).mp hsize, ?_, hprevious⟩
    rw [lsn, hlsn, hn]
  · rintro ⟨hvalid, hsize, hextends⟩
    exact ⟨hvalid, ⟨hvalid, (validateRecordSize_eq_ok hvalid).mpr hsize⟩, r.lsn,
      hextends.lsn, rfl, hextends.previous⟩

theorem validateFlushTarget_eq_some {requested durable target : Lsn} {m₁ m₂ : String} :
    validateFlushTarget requested durable tail m₁ m₂ = .ok (some target) ↔
      target = requested ∧ requested ≠ 0 ∧ durable < requested ∧ ∃ last, tail = some last ∧
        requested ≤ last := by
  unfold validateFlushTarget
  split_ifs with hdone
  · simp only [Except.ok.injEq, reduceCtorEq, false_iff]
    rintro ⟨-, hne, hlt, -⟩
    exact hdone.elim hne (UInt64.not_le.mpr hlt)
  · obtain ⟨hne, hlt⟩ := not_or.mp hdone
    have hlt' : durable < requested := UInt64.not_le.mp hlt
    cases tail with
    | none => simp
    | some last =>
      by_cases hlast : requested > last
      · simp [if_pos hlast, reduceCtorEq, UInt64.not_le.mpr hlast]
      · simp only [if_neg hlast, Except.ok.injEq, Option.some.injEq, exists_eq_left',
          UInt64.not_lt.mp hlast, hne, hlt', ne_eq, not_false_eq_true, and_true]
        exact eq_comm

theorem payloadRecord_extends {kind : WalRecordKind} {transactionId : Option TransactionId}
    {payload : Bytes} (h : payloadRecord kind tail transactionId payload = .ok r) :
    r.Valid ∧ r.Extends tail ∧ r.kind = kind ∧ r.transactionId = transactionId ∧
      r.payload = payload := by
  simp only [payloadRecord, tryNextLsn_eq_ok, fromParts, ok_iff] at h
  obtain ⟨n, hn, hvalid, rfl⟩ := h
  exact ⟨validate_eq_ok.mp hvalid, ⟨hn, rfl⟩, rfl, rfl, rfl⟩

@[simp] theorem tailLsn_concat (records : List WalRecord) (r : WalRecord) :
    tailLsn (records ++ [r]) = some r.lsn := by
  simp [tailLsn]

theorem gapFree_concat {P : WalRecord → Prop} :
    (GapFree (records ++ [r]) ∧ ∀ x ∈ (records ++ [r]).head?, P x) ↔
      (GapFree records ∧ ∀ x ∈ records.head?, P x) ∧
        match records.getLast? with
        | none => P r
        | some last => last.Follows r := by
  rcases eq_nil_or_concat records with rfl | ⟨init, last, rfl⟩
  · simp [GapFree]
  · have hhead : ((init.concat last) ++ [r]).head? = (init.concat last).head? := by
      cases init <;> simp
    rw [concat_eq_append] at hhead ⊢
    have hchain : GapFree (init ++ [last] ++ [r]) ↔ GapFree (init ++ [last]) ∧ last.Follows r := by
      rw [GapFree, isChain_append]
      simp
    rw [hhead, hchain, getLast?_concat]
    exact and_right_comm

theorem chained_concat :
    Chained none (records ++ [r]) ↔ Chained none records ∧ r.Extends (tailLsn records) := by
  rw [chained_iff, chained_iff, gapFree_concat, tailLsn]
  cases records.getLast? with
  | none => rfl
  | some last => simp [WalRecord.extends_iff, WalRecord.Follows]

def lastLsnOf (records : List WalRecord) : Lsn := (tailLsn records).getD 0

variable {ys : List WalRecord}

theorem Chained.left (h : Chained none (xs ++ ys)) : Chained none xs := by
  refine ⟨(isChain_append.mp h.gapFree).1, ?_⟩
  intro r hr
  apply h.head r
  cases xs with
  | nil => simp at hr
  | cons x xs => exact hr

section

variable (h : Chained none records)
include h

theorem Chained.of_isPrefix (hpre : xs <+: records) : Chained none xs := by
  obtain ⟨ys, rfl⟩ := hpre
  exact h.left

theorem Chained.toNat_lastLsnOf : (lastLsnOf records).toNat = records.length := by
  induction records using List.reverseRecOn with
  | nil => rfl
  | append_singleton xs r ih =>
    obtain ⟨hxs, hextends⟩ := chained_concat.mp h
    have hlast : ((tailLsn xs).map UInt64.toNat).getD 0 = (lastLsnOf xs).toNat := by
      unfold lastLsnOf
      cases tailLsn xs <;> rfl
    rw [lastLsnOf, tailLsn_concat, Option.getD_some, hextends.lsn, hlast, ih hxs,
      length_append, length_singleton]

theorem Chained.exists_prefix {lsn : Lsn} (hpos : lsn ≠ 0)
    (hle : lsn ≤ lastLsnOf records) : ∃ before r, before ++ [r] <+: records ∧ r.lsn = lsn := by
  have hlength : lsn.toNat ≤ records.length := by
    rw [← h.toNat_lastLsnOf]
    exact UInt64.le_iff_toNat_le.mp hle
  have hpre : records.take lsn.toNat <+: records := take_prefix _ _
  have hlast := (h.of_isPrefix hpre).toNat_lastLsnOf
  rw [length_take, Nat.min_eq_left hlength] at hlast
  rcases eq_nil_or_concat (records.take lsn.toNat) with hnil | ⟨before, r, hconcat⟩
  · rw [hnil] at hlast
    exact absurd (UInt64.toNat_inj.mp hlast).symm hpos
  · rw [concat_eq_append] at hconcat
    rw [hconcat] at hpre hlast
    rw [lastLsnOf, tailLsn_concat] at hlast
    exact ⟨before, r, hpre, UInt64.toNat_inj.mp hlast⟩

end

theorem Increasing.durableRecords_isPrefix (h : Increasing records) (durable : Lsn) :
    durableRecords records durable <+: records := by
  unfold durableRecords
  induction records with
  | nil => exact prefix_rfl
  | cons r rs ih =>
    obtain ⟨hhead, htail⟩ := pairwise_cons.mp h
    by_cases hr : r.lsn ≤ durable
    · rw [filter_cons_of_pos (by simpa using hr)]
      exact prefix_cons_inj r |>.mpr (ih htail)
    · have hnone : ∀ r' ∈ rs, ¬ r'.lsn ≤ durable := by
        intro r' hr' hle
        exact hr (UInt64.le_trans (UInt64.le_of_lt (hhead r' hr')) hle)
      have hempty : rs.filter (fun r' => r'.lsn ≤ durable) = [] := by
        rw [filter_eq_nil_iff]
        simpa using hnone
      rw [filter_cons_of_neg (by simpa using hr), hempty]
      exact nil_prefix

theorem Chained.mem_of_lsn_le (h : Chained none records) (hxs : xs <+: records) (hr : r ∈ records)
    (hle : r.lsn ≤ lastLsnOf xs) : r ∈ xs := by
  obtain ⟨before, after, rfl⟩ := append_of_mem hr
  have hreach : before ++ [r] <+: before ++ r :: after := ⟨after, by simp⟩
  have hlast : lastLsnOf (before ++ [r]) = r.lsn := by
    rw [lastLsnOf, tailLsn_concat, Option.getD_some]
  have hpre : before ++ [r] <+: xs := by
    apply prefix_of_prefix_length_le hreach hxs
    rwa [← (h.of_isPrefix hreach).toNat_lastLsnOf, ← (h.of_isPrefix hxs).toNat_lastLsnOf,
      ← UInt64.le_iff_toNat_le, hlast]
  exact hpre.subset (by simp)

end Andromeda
