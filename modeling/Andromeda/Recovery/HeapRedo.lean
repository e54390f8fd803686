import Andromeda.Heap.RedoPayload
import Andromeda.Lib.CellHistory
import Mathlib.Data.List.Nodup

/-!
# Heap pages during redo

The recovery-owned image of a heap page: its LSN and, per slot, the live tuple or
the tombstone left by a delete. Each row payload is first checked against the
page LSN and then against the slots it names; a page changes only when both
checks pass.
-/

namespace Andromeda

open Fallible HeapRowRedoPayloadV1 Function

inductive HeapRedoSlotState where
  | live (tuple : Bytes) (lastLsn : Lsn)
  | deleted (previousTuple : Option Bytes) (lastLsn : Lsn)

open HeapRedoSlotState

inductive HeapRedoPageOrigin where
  | redoCreated
  | snapshotHydrated
deriving DecidableEq

/-- The slot map of a page, `BTreeMap<u16, HeapRedoSlotState>`. -/
abbrev HeapRedoSlots := UInt16 → Option HeapRedoSlotState

@[ext]
structure HeapRedoPageState where
  pageId : PageId
  pageSize : PageSize
  pageLsn : Lsn
  origin : HeapRedoPageOrigin
  slots : HeapRedoSlots

namespace HeapRedoPageState

def redoCreated (pageId : PageId) (pageSize : PageSize) : HeapRedoPageState :=
  ⟨pageId, pageSize, 0, .redoCreated, fun _ => none⟩

def hydrateSlots (pageId : PageId) (pageLsn : Lsn) :
    List (UInt16 × Bytes) → HeapRedoSlots → Result HeapRedoSlots
  | [], slots => .ok slots
  | (slotId, tuple) :: rest, slots => do
    failIf (tuple = []) (storageError
      s!"snapshot-hydrated heap page {pageId} slot {slotId} must carry durable tuple bytes")
    failIf (slots slotId ≠ none) (storageError
      s!"snapshot-hydrated heap page {pageId} declares duplicate slot {slotId}")
    hydrateSlots pageId pageLsn rest (update slots slotId (some (.live tuple pageLsn)))

def snapshotHydrated (pageId : PageId) (pageSize : PageSize) (pageLsn : Lsn)
    (liveSlots : List (UInt16 × Bytes)) : Result HeapRedoPageState := do
  failIf (pageLsn = 0) (storageError
    s!"snapshot-hydrated heap page {pageId} must carry a nonzero durable page LSN")
  let slots ← hydrateSlots pageId pageLsn liveSlots (fun _ => none)
  pure ⟨pageId, pageSize, pageLsn, .snapshotHydrated, slots⟩

section

variable (page : HeapRedoPageState)

def readTuple (slotId : UInt16) : Option Bytes :=
  match page.slots slotId with
  | some (.live tuple _) => some tuple
  | _ => none

section

variable (payload : HeapRowRedoPayloadV1)

def validateLsnTransition : Result Unit :=
  if payload.resultingPageLsn = 0 then
    .error (storageError "heap row redo resulting page LSN must not be zero")
  else if page.pageLsn = payload.resultingPageLsn then .ok ()
  else if page.pageLsn > payload.resultingPageLsn then
    .error (storageError
      s!"heap row redo record for page {page.pageId} is older than recovered page LSN: record={payload.resultingPageLsn}, page={page.pageLsn}")
  else if payload.expectedPreviousPageLsn = 0 then
    failIf (page.pageLsn ≠ 0) (storageError
      s!"heap row redo record for page {page.pageId} omits expected previous page LSN but recovered page LSN is {page.pageLsn}")
  else
    failIf (page.pageLsn ≠ payload.expectedPreviousPageLsn) (storageError
      s!"heap row redo expected previous page LSN {payload.expectedPreviousPageLsn} but recovered page {page.pageId} is at LSN {page.pageLsn}")

/-- The row is already there: only the page LSN moves. -/
def advanced : HeapRedoPageState :=
  { page with pageLsn := max page.pageLsn payload.resultingPageLsn }

def written (slots : HeapRedoSlots) : HeapRedoPageState :=
  { page with slots := slots, pageLsn := payload.resultingPageLsn }

def insertRow : Result HeapRedoPageState :=
  match page.slots payload.afterSlotId with
  | some (.live tuple _) =>
    if tuple = payload.tuple then .ok (page.advanced payload)
    else .error (storageError
      s!"heap row insert conflict on page {page.pageId} slot {payload.afterSlotId}: slot already contains different tuple bytes")
  | some (.deleted _ _) => .error (storageError
      s!"heap row insert conflict on page {page.pageId} slot {payload.afterSlotId}: slot is already deleted")
  | none => .ok (page.written payload (update page.slots payload.afterSlotId
      (some (.live payload.tuple payload.resultingPageLsn))))

def applyInsert : Result HeapRedoPageState := do
  page.validateLsnTransition payload
  page.insertRow payload

def deleteRow : Result HeapRedoPageState :=
  match page.slots payload.beforeSlotId with
  | some (.deleted _ _) => .ok (page.advanced payload)
  | some (.live tuple _) => .ok (page.written payload (update page.slots
      payload.beforeSlotId (some (.deleted (some tuple) payload.resultingPageLsn))))
  | none => .error (storageError
      s!"heap row delete references unknown page {page.pageId} slot {payload.beforeSlotId}")

def applyDelete : Result HeapRedoPageState := do
  page.validateLsnTransition payload
  page.deleteRow payload

def updateNewSlot : Result HeapRedoSlots :=
  match page.slots payload.afterSlotId with
  | some (.live tuple _) =>
    if tuple = payload.tuple then .ok page.slots
    else .error (storageError
      s!"heap row update conflict on page {page.pageId} new slot {payload.afterSlotId}: slot already contains different tuple bytes")
  | some (.deleted _ _) => .error (storageError
      s!"heap row update conflict on page {page.pageId} new slot {payload.afterSlotId}: slot is already deleted")
  | none => .ok (update page.slots payload.afterSlotId
      (some (.live payload.tuple payload.resultingPageLsn)))

def updateRow : Result HeapRedoPageState :=
  match page.slots payload.beforeSlotId with
  | some (.deleted _ _) =>
    -- With the new version in place both halves of the update were applied before.
    if page.readTuple payload.afterSlotId = some payload.tuple then .ok (page.advanced payload)
    else .error (storageError
      s!"heap row update conflict on page {page.pageId} slot {payload.beforeSlotId}: old version is deleted but new version is not present with matching bytes")
  | some (.live previousTuple _) => do
    let slots ← page.updateNewSlot payload
    pure (page.written payload (update slots payload.beforeSlotId
      (some (.deleted (some previousTuple) payload.resultingPageLsn))))
  | none => .error (storageError
      s!"heap row update references unknown old page {page.pageId} slot {payload.beforeSlotId}")

def applyUpdate : Result HeapRedoPageState := do
  page.validateLsnTransition payload
  page.updateRow payload

/-- The dispatch of `replay_heap_row_record` on the operation. -/
def applyRow : Result HeapRedoPageState :=
  match payload.operation with
  | .insert => page.applyInsert payload
  | .delete => page.applyDelete payload
  | .update => page.applyUpdate payload

end

end

/-! ## The page LSN check -/

/-- What `validate_lsn_transition` accepts: the record was applied before, or it is the
next record on the page. -/
structure LsnTransition (page : HeapRedoPageState) (payload : HeapRowRedoPayloadV1) : Prop where
  resulting_ne_zero : payload.resultingPageLsn ≠ 0
  current : page.pageLsn = payload.resultingPageLsn ∨
    page.pageLsn < payload.resultingPageLsn ∧ page.pageLsn = payload.expectedPreviousPageLsn

variable {page page' : HeapRedoPageState} {payload : HeapRowRedoPayloadV1}

theorem validateLsnTransition_eq_ok {u : Unit} :
    page.validateLsnTransition payload = .ok u ↔ page.LsnTransition payload := by
  unfold validateLsnTransition
  split_ifs with hzero hsame hold hfirst
  · exact iff_of_false (by simp) fun h => h.resulting_ne_zero hzero
  · exact iff_of_true rfl ⟨hzero, .inl hsame⟩
  · refine iff_of_false (by simp) fun h => ?_
    rcases h.current with heq | ⟨hlt, -⟩
    · exact hsame heq
    · exact UInt64.lt_irrefl _ (UInt64.lt_trans hold hlt)
  all_goals
    have hlt : page.pageLsn < payload.resultingPageLsn :=
      UInt64.lt_of_le_of_ne (UInt64.not_lt.mp hold) hsame
    rw [failIf_eq_ok, not_not]
    constructor
    · intro h
      exact ⟨hzero, .inr ⟨hlt, by simp [h, hfirst]⟩⟩
    · intro h
      simpa [hsame, hlt, hfirst] using h.current

theorem LsnTransition.max_eq (h : page.LsnTransition payload) :
    max page.pageLsn payload.resultingPageLsn = payload.resultingPageLsn := by
  show (if page.pageLsn ≤ payload.resultingPageLsn then _ else _) = _
  rcases h.current with heq | ⟨hlt, -⟩
  · rw [heq, if_pos (UInt64.le_refl _)]
  · rw [if_pos (UInt64.le_of_lt hlt)]

/-! ## Row effects -/

/-- The slot part of the three operations. -/
def writeRow (page : HeapRedoPageState) (payload : HeapRowRedoPayloadV1) :
    Result HeapRedoPageState :=
  match payload.operation with
  | .insert => page.insertRow payload
  | .delete => page.deleteRow payload
  | .update => page.updateRow payload

theorem applyRow_eq_ok : page.applyRow payload = .ok page' ↔
    page.LsnTransition payload ∧ page.writeRow payload = .ok page' := by
  unfold applyRow writeRow
  cases payload.operation with
  | insert => simp [applyInsert, validateLsnTransition_eq_ok]
  | delete => simp [applyDelete, validateLsnTransition_eq_ok]
  | update => simp [applyUpdate, validateLsnTransition_eq_ok]

theorem readTuple_update {slots : HeapRedoSlots} {slotId slotId' : UInt16}
    {slot : HeapRedoSlotState} {tuple : Bytes}
    (h : (page.written payload (update slots slotId (some slot))).readTuple slotId' = some tuple) :
    (∃ lsn, slot = .live tuple lsn) ∨ (page.written payload slots).readTuple slotId' =
      some tuple := by
  by_cases hs : slotId' = slotId
  · subst hs
    cases slot with
    | live t lsn =>
      simp only [readTuple, written, update_self, Option.some.injEq] at h
      exact .inl ⟨lsn, by rw [h]⟩
    | deleted previous lsn => simp [readTuple, written] at h
  · simp only [readTuple, written, update_of_ne hs] at h
    exact .inr h

theorem writeRow_cases (h : page.writeRow payload = .ok page') :
    page' = page.advanced payload ∨ ∃ slots, page' = page.written payload slots ∧
      ∀ slotId tuple, page'.readTuple slotId = some tuple → page.readTuple slotId = some tuple ∨
          payload.operation ≠ .delete ∧ tuple = payload.tuple := by
  unfold writeRow at h
  cases hop : payload.operation with
  | insert =>
    simp only [hop, insertRow] at h
    split at h
    · split at h <;> cases h
      exact .inl rfl
    · cases h
    · cases h
      refine .inr ⟨_, rfl, fun slotId tuple hread => ?_⟩
      rcases readTuple_update hread with ⟨lsn, hslot⟩ | hold
      · cases hslot
        exact .inr ⟨by simp, rfl⟩
      · exact .inl hold
  | delete =>
    simp only [hop, deleteRow] at h
    split at h <;> cases h
    · exact .inl rfl
    · refine .inr ⟨_, rfl, fun slotId tuple hread => ?_⟩
      rcases readTuple_update hread with ⟨lsn, hslot⟩ | hold
      · cases hslot
      · exact .inl hold
  | update =>
    simp only [hop, updateRow] at h
    split at h
    · split at h <;> cases h
      exact .inl rfl
    · simp only [ok_iff, updateNewSlot] at h
      obtain ⟨slots, hslots, rfl⟩ := h
      refine .inr ⟨_, rfl, fun slotId tuple hread => ?_⟩
      rcases readTuple_update hread with ⟨lsn, hslot⟩ | hold
      · cases hslot
      split at hslots
      · split at hslots <;> cases hslots
        exact .inl hold
      · cases hslots
      · cases hslots
        rcases readTuple_update hold with ⟨lsn, hslot⟩ | hold
        · cases hslot
          exact .inr ⟨by simp, rfl⟩
        · exact .inl hold
    · cases h

/-- What an applied row leaves alone, and the LSN it leaves behind. -/
structure SameHeader (page page' : HeapRedoPageState) : Prop where
  pageId : page'.pageId = page.pageId
  pageSize : page'.pageSize = page.pageSize
  origin : page'.origin = page.origin

theorem applyRow_header (h : page.applyRow payload = .ok page') :
    page.SameHeader page' ∧ page'.pageLsn = payload.resultingPageLsn := by
  obtain ⟨htransition, hwrite⟩ := applyRow_eq_ok.mp h
  rcases writeRow_cases hwrite with rfl | ⟨slots, rfl, -⟩
  · exact ⟨⟨rfl, rfl, rfl⟩, htransition.max_eq⟩
  · exact ⟨⟨rfl, rfl, rfl⟩, rfl⟩

end HeapRedoPageState

/-! ## Pages as cell histories -/

open CellHistory

def HeapRowRedoPayloadV1.rowOp (p : HeapRowRedoPayloadV1) : RowOp UInt16 Bytes :=
  match p.operation with
  | .insert => .insert p.afterSlotId p.tuple
  | .delete => .delete p.beforeSlotId
  | .update => .update p.beforeSlotId p.afterSlotId p.tuple

/-- The history a slot entry stands for: a missing entry was never written. -/
def HeapRedoSlotState.cell : Option HeapRedoSlotState → Cell Bytes
  | none => .fresh
  | some (live tuple _) => .live tuple
  | some (deleted _ _) => .dead

namespace HeapRedoPageState

variable {page page' : HeapRedoPageState} {payload : HeapRowRedoPayloadV1}

def cells (page : HeapRedoPageState) (slotId : UInt16) : Cell Bytes :=
  cell (page.slots slotId)

theorem readTuple_eq (page : HeapRedoPageState) (slotId : UInt16) :
    page.readTuple slotId = (page.cells slotId).value? := by
  unfold readTuple cells
  cases page.slots slotId with
  | none => rfl
  | some slot => cases slot <;> rfl

theorem cell_update (slots : HeapRedoSlots) (slotId : UInt16) (slot : HeapRedoSlotState) :
    (fun s => cell (update slots slotId (some slot) s)) = update (fun s => cell (slots s)) slotId
        (cell (some slot)) := by
  funext s
  by_cases hs : s = slotId
  · subst hs
    simp
  · simp [hs]

variable {slotId : UInt16} {tuple : Bytes}

theorem slots_of_fresh (h : page.cells slotId = .fresh) : page.slots slotId = none := by
  unfold cells at h
  cases hslot : page.slots slotId with
  | none => rfl
  | some slot => cases slot <;> simp [hslot, cell] at h

theorem slots_of_live (h : (page.cells slotId).IsLive) :
    ∃ tuple lsn, page.slots slotId = some (.live tuple lsn) := by
  unfold cells at h
  cases hslot : page.slots slotId with
  | none => simp [hslot, cell] at h
  | some slot =>
    cases slot with
    | live tuple lsn => exact ⟨tuple, lsn, rfl⟩
    | deleted previous lsn => simp [hslot, cell] at h

theorem slots_of_dead (hlive : ¬ (page.cells slotId).IsLive) (hfresh : page.cells slotId ≠ .fresh) :
    ∃ previous lsn, page.slots slotId = some (.deleted previous lsn) := by
  unfold cells at hlive hfresh
  cases hslot : page.slots slotId with
  | none => simp [hslot, cell] at hfresh
  | some slot =>
    cases slot with
    | live tuple lsn => simp [hslot, cell] at hlive
    | deleted previous lsn => exact ⟨previous, lsn, rfl⟩

section

variable (henabled : payload.rowOp.Enabled page.cells)
include henabled

/-- A row operation that is possible in the history and writes to a slot never used
before changes the cells as the history says. -/
theorem writeRow_of_targetFresh (hfresh : payload.rowOp.TargetFresh page.cells) :
    ∃ slots, page.writeRow payload = .ok (page.written payload slots) ∧
      (page.written payload slots).cells = payload.rowOp.apply page.cells := by
  unfold writeRow
  cases hop : payload.operation with
  | insert =>
    simp only [rowOp, hop, RowOp.TargetFresh] at hfresh
    simp only [insertRow, slots_of_fresh hfresh, rowOp, hop, RowOp.apply]
    exact ⟨_, rfl, cell_update _ _ _⟩
  | delete =>
    simp only [rowOp, hop, RowOp.Enabled] at henabled
    obtain ⟨tuple, lsn, hslot⟩ := slots_of_live henabled
    simp only [deleteRow, hslot, rowOp, hop, RowOp.apply]
    exact ⟨_, rfl, cell_update _ _ _⟩
  | update =>
    simp only [rowOp, hop, RowOp.Enabled] at henabled
    simp only [rowOp, hop, RowOp.TargetFresh] at hfresh
    obtain ⟨tuple, lsn, hslot⟩ := slots_of_live henabled.1
    simp only [updateRow, hslot, updateNewSlot, slots_of_fresh hfresh, rowOp, hop, RowOp.apply]
    refine ⟨_, rfl, ?_⟩
    -- the new slot is written first and the old one closed over it
    refine (cell_update _ _ _).trans ?_
    rw [cell_update]
    rfl

/-- A slot that was closed before is never written again. -/
theorem writeRow_of_not_targetFresh
    (hfresh : ¬ payload.rowOp.TargetFresh page.cells) (page' : HeapRedoPageState) :
    page.writeRow payload ≠ .ok page' := by
  unfold writeRow
  cases hop : payload.operation with
  | insert =>
    simp only [rowOp, hop, RowOp.Enabled] at henabled
    simp only [rowOp, hop, RowOp.TargetFresh] at hfresh
    obtain ⟨previous, lsn, hslot⟩ := slots_of_dead henabled hfresh
    simp [insertRow, hslot]
  | delete => simp [rowOp, hop, RowOp.TargetFresh] at hfresh
  | update =>
    simp only [rowOp, hop, RowOp.Enabled] at henabled
    simp only [rowOp, hop, RowOp.TargetFresh] at hfresh
    obtain ⟨tuple, lsn, hold⟩ := slots_of_live henabled.1
    obtain ⟨previous, lsn', hnew⟩ := slots_of_dead henabled.2.1 hfresh
    simp [updateRow, hold, updateNewSlot, hnew]

theorem applyRow_succeeds_iff : (∃ page', page.applyRow payload = .ok page') ↔
      page.LsnTransition payload ∧ payload.rowOp.TargetFresh page.cells := by
  simp only [applyRow_eq_ok]
  constructor
  · rintro ⟨page', htransition, hwrite⟩
    refine ⟨htransition, ?_⟩
    by_contra hfresh
    exact writeRow_of_not_targetFresh henabled hfresh page' hwrite
  · intro h
    obtain ⟨slots, hwrite, -⟩ := writeRow_of_targetFresh henabled h.2
    exact ⟨_, h.1, hwrite⟩

theorem applyRow_cells (h : page.applyRow payload = .ok page') :
    page'.cells = payload.rowOp.apply page.cells := by
  have hfresh := ((applyRow_succeeds_iff henabled).mp ⟨page', h⟩).2
  obtain ⟨slots, hwrite, hcells⟩ := writeRow_of_targetFresh henabled hfresh
  have heq : page' = page.written payload slots := by
    have := (applyRow_eq_ok.mp h).2
    rw [hwrite] at this
    cases this
    rfl
  rw [heq, hcells]

end

end HeapRedoPageState

end Andromeda
