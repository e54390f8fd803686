import Andromeda.Heap.Slots
import Andromeda.Lib.Effect
import Andromeda.Lib.MixedFile

/-!
# Heap pages

`HeapPage`: tuples written upwards from the page header, found through a directory of slots.
Deleting a tuple marks its slot and keeps the slot's length; compaction moves the live tuples
together and leaves the slot ids.
-/

namespace Andromeda

open Fallible Effect SlotEntry

structure HeapPage where
  pageSize : PageSize
  data : Bytes
  slotDirectory : List SlotEntry

namespace HeapPage

def new (pageSize : PageSize) : HeapPage := ⟨pageSize, List.replicate pageSize.bytes 0, []⟩

def slot (page : HeapPage) (slotId : Nat) : Result SlotEntry :=
  orError page.slotDirectory[slotId]? (storageError
    s!"slot {slotId} out of range: page has {page.slotDirectory.length} slots")

def readTuple (page : HeapPage) (slotId : Nat) : Result Bytes := do
  let entry ← page.slot slotId
  failIf entry.isDeleted (storageError s!"slot {slotId} has been deleted")
  failIf (entry.offset + entry.length > page.data.length) (storageError
    s!"slot {slotId} has invalid offset/length: offset={entry.offset}, len={entry.length}, page_size={page.data.length}")
  pure (page.data.slice entry.offset entry.length)

def liveEnds (slots : List SlotEntry) : List Nat :=
  (slots.filter fun e => ¬ e.isDeleted).map fun e => e.offset + e.length

def nextTupleOffset (page : HeapPage) : Nat :=
  (liveEnds page.slotDirectory).max?.getD heapPayloadOffset

def computeFreeSpaceBytes (page : HeapPage) : Nat :=
  page.data.length - heapTrailerSize - page.slotDirectory.length * SlotEntry.size
    - page.nextTupleOffset

def insertTuple (tuple : Bytes) : Effect HeapPage Error Nat := do
  lift (failIf (tuple.length > 65535) (storageError "tuple too large: exceeds u16::MAX"))
  let page ← get
  let needed := tuple.length + SlotEntry.size
  lift (failIf (page.computeFreeSpaceBytes < needed) (storageError
    s!"heap page full: need {needed} bytes, have {page.computeFreeSpaceBytes} bytes"))
  let insertOffset := page.nextTupleOffset
  lift (failIf (insertOffset + tuple.length > page.data.length)
    (storageError "page layout violation: tuple exceeds page bounds"))
  modify fun page => { page with
    data := page.data.overwrite insertOffset tuple
    slotDirectory := page.slotDirectory ++ [.new insertOffset tuple.length] }
  pure page.slotDirectory.length

def deleteTuple (slotId : Nat) : Effect HeapPage Error Unit := do
  let page ← get
  let entry ← lift (page.slot slotId)
  lift (failIf entry.isDeleted (storageError s!"slot {slotId} already deleted"))
  modify fun page => { page with slotDirectory := page.slotDirectory.set slotId entry.markDeleted }

def updateTuple (slotId : Nat) (newTuple : Bytes) : Effect HeapPage Error Nat := do
  deleteTuple slotId
  insertTuple newTuple

/-- The lengths that deleted slots keep, before the sum is cut to 16 bits. -/
def deletedBytes (slots : List SlotEntry) : Nat :=
  ((slots.filter fun e => e.isDeleted).map (·.length)).sum

/-- The loop of `compact_deleted`: live tuples are copied from `old` to `newOffset` on. -/
def moveLive (old : Bytes) : List SlotEntry → Bytes → Nat → Bytes × List SlotEntry
  | [], data, _ => (data, [])
  | e :: slots, data, newOffset =>
    if e.isDeleted then
      let rest := moveLive old slots data newOffset
      (rest.1, e :: rest.2)
    else
      let rest := moveLive old slots (data.overwrite newOffset (old.slice e.offset e.length))
        (min (newOffset + e.length) 65535)
      (rest.1, .new newOffset e.length :: rest.2)

/-- The buffer compaction starts from: header and trailer kept, zeros between. -/
def clearedData (data : Bytes) : Bytes :=
  data.take heapPayloadOffset
    ++ List.replicate (data.length - heapTrailerSize - heapPayloadOffset) 0
    ++ data.drop (data.length - heapTrailerSize)

/-- `compact_deleted`, the sum of the deleted lengths wrapped as a build without overflow checks
wraps it. -/
def compactDeleted (page : HeapPage) : Nat × HeapPage :=
  let reclaimed := deletedBytes page.slotDirectory % 65536
  if reclaimed = 0 then (0, page)
  else
    let moved := moveLive page.data page.slotDirectory (clearedData page.data) heapPayloadOffset
    (reclaimed, { page with data := moved.1, slotDirectory := moved.2 })

variable {page page' : HeapPage} {slotId : Nat} {tuple bytes : Bytes}

theorem readTuple_eq_ok : page.readTuple slotId = .ok bytes ↔
    ∃ e, LiveAt page.slotDirectory slotId e ∧ e.offset + e.length ≤ page.data.length ∧
      page.data.slice e.offset e.length = bytes := by
  simp only [readTuple, slot, ok_iff, LiveAt, gt_iff_lt, not_lt, and_assoc]

theorem insertTuple_cases {result : Result Nat} (h : insertTuple tuple page = (result, page')) :
    (∃ e, result = .error e ∧ page' = page) ∨ result = .ok page.slotDirectory.length ∧
      tuple.length + SlotEntry.size ≤ page.computeFreeSpaceBytes ∧
      page' = { page with
        data := page.data.overwrite page.nextTupleOffset tuple
        slotDirectory := page.slotDirectory ++ [.new page.nextTupleOffset tuple.length] } := by
  refine refused_or h fun _ _ hget => ?_
  rw [get_bind] at hget
  refine refused_or hget fun _ hroom hbounds => refused_or hbounds fun _ _ hwrite => ?_
  cases hwrite
  exact .inr ⟨rfl, by simpa using hroom, rfl⟩

def markSlot (page : HeapPage) (slotId : Nat) : HeapPage :=
  { page with slotDirectory := page.slotDirectory.modify slotId markDeleted }

def Deletable (page : HeapPage) (slotId : Nat) : Prop := ∃ e, LiveAt page.slotDirectory slotId e

theorem deleteTuple_cases {result : Result Unit} (h : deleteTuple slotId page = (result, page')) :
    (∃ e, result = .error e ∧ page' = page ∧ ¬ page.Deletable slotId) ∨
      result = .ok () ∧ page.Deletable slotId ∧ page' = page.markSlot slotId := by
  rw [deleteTuple, get_bind, slot] at h
  cases hslot : page.slotDirectory[slotId]? with
  | none =>
    rw [hslot] at h
    cases h
    exact .inl ⟨_, rfl, rfl, by simp [Deletable, LiveAt, hslot]⟩
  | some entry =>
    rw [hslot, orError, lift_ok_bind] at h
    rcases lift_bind_cases h with ⟨e, hdeleted, rfl, rfl⟩ | ⟨_, hlive, hmark⟩
    · rw [failIf_eq_error] at hdeleted
      exact .inl ⟨e, rfl, rfl, by simp [Deletable, LiveAt, hslot, hdeleted.1]⟩
    · cases hmark
      rw [markSlot, List.modify_eq_set_getElem?, hslot]
      exact .inr ⟨rfl, ⟨entry, hslot, failIf_eq_ok.mp hlive⟩, rfl⟩

theorem liveAt_markSlot {i : Nat} {e : SlotEntry} : LiveAt (page.markSlot i).slotDirectory slotId e ↔
    i ≠ slotId ∧ LiveAt page.slotDirectory slotId e := by
  by_cases hi : i = slotId <;> simp [LiveAt, markSlot, hi]
  rintro entry - rfl
  exact isDeleted_markDeleted entry

@[simp] theorem length_data_new (pageSize : PageSize) :
    (new pageSize).data.length = pageSize.bytes := List.length_replicate

def singlePage : HeapPage := ⟨.kiB16, (new .kiB16).data.overwrite 112 [7], [.new 112 1]⟩

theorem length_data_singlePage : singlePage.data.length = 16384 := by
  rw [singlePage, List.length_overwrite] <;> simp [PageSize.bytes]

theorem insertTuple_new : insertTuple [7] (new .kiB16) = (.ok 0, singlePage) := by
  have hfree : (new .kiB16).computeFreeSpaceBytes = 16224 := by
    rw [computeFreeSpaceBytes, length_data_new]
    rfl
  have hnext : (new .kiB16).nextTupleOffset = 112 := rfl
  simp [insertTuple, bind_apply, failIf, hfree, hnext, SlotEntry.size, PageSize.bytes]
  exact ⟨rfl, rfl⟩

/-! ## Failed updates -/

/-- A failed update leaves every tuple readable as before exactly when the slot it names held none:
the old tuple is deleted before the new one is tried. -/
theorem failed_update_keeps_reads_iff {newTuple : Bytes} {e : Error}
    (h : updateTuple slotId newTuple page = (.error e, page')) :
    (∀ id bytes, page'.readTuple id = .ok bytes ↔ page.readTuple id = .ok bytes) ↔
      ∀ bytes, page.readTuple slotId ≠ .ok bytes := by
  rcases bind_cases h with ⟨e', hdelete, -⟩ | ⟨_, page₁, hdelete, hinsert⟩
  · rcases deleteTuple_cases hdelete with ⟨_, -, rfl, hdead⟩ | ⟨hok, -⟩
    · refine ⟨fun _ bytes hbytes => hdead ?_, fun _ _ _ => Iff.rfl⟩
      obtain ⟨entry, hlive, -⟩ := readTuple_eq_ok.mp hbytes
      exact ⟨entry, hlive⟩
    · cases hok
  rcases insertTuple_cases hinsert with ⟨_, -, rfl⟩ | ⟨hok, -⟩
  swap
  · cases hok
  rcases deleteTuple_cases hdelete with ⟨_, hno, -⟩ | ⟨-, -, rfl⟩
  · cases hno
  have hread : ∀ id bytes, (page.markSlot slotId).readTuple id = .ok bytes ↔
      slotId ≠ id ∧ page.readTuple id = .ok bytes := by
    intro id bytes
    simp only [readTuple_eq_ok, liveAt_markSlot, and_assoc, exists_and_left]
    rfl
  constructor
  · intro hsame bytes hbytes
    exact ((hread slotId bytes).mp ((hsame slotId bytes).mpr hbytes)).1 rfl
  · intro hnone id bytes
    rw [hread, and_iff_right_iff_imp]
    rintro hbytes rfl
    exact hnone bytes hbytes

/-- The page has a live tuple in slot 0, and slot 1 is updated. -/
theorem failed_update_of_missing_slot : updateTuple 1 [5] singlePage =
      (.error (storageError "slot 1 out of range: page has 1 slots"), singlePage) ∧
    ∀ bytes, singlePage.readTuple 1 ≠ .ok bytes := by
  have hfails : updateTuple 1 [5] singlePage =
      (.error (storageError "slot 1 out of range: page has 1 slots"), singlePage) := rfl
  exact ⟨hfails, (failed_update_keeps_reads_iff hfails).mp fun _ _ => Iff.rfl⟩

theorem failed_update_loses_tuple : singlePage.readTuple 0 = .ok [7] ∧ ∃ e page',
    updateTuple 0 (new .kiB32).data singlePage = (.error e, page') ∧
      ∀ bytes, page'.readTuple 0 ≠ .ok bytes := by
  constructor
  · rw [readTuple_eq_ok, length_data_singlePage]
    exact ⟨_, ⟨rfl, not_isDeleted_new 112 1⟩, by decide, List.slice_overwrite_self _ 112 [7]⟩
  rcases hrun : updateTuple 0 (new .kiB32).data singlePage with ⟨result, page'⟩
  rcases bind_cases hrun with ⟨_, hdelete, -⟩ | ⟨_, _, hdelete, hinsert⟩
  · cases hdelete
  cases hdelete
  rcases insertTuple_cases hinsert with ⟨e, rfl, rfl⟩ | ⟨-, hroom, -⟩
  · exact ⟨e, _, rfl, by simp [readTuple_eq_ok, LiveAt, singlePage]⟩
  · simp only [computeFreeSpaceBytes, length_data_singlePage, length_data_new, PageSize.bytes]
      at hroom
    omega

/-! ## What compaction returns -/

theorem deletedBytes_cons (e : SlotEntry) (slots : List SlotEntry) :
    deletedBytes (e :: slots) = (if e.isDeleted then e.length else 0) + deletedBytes slots := by
  unfold deletedBytes
  by_cases h : e.isDeleted <;> simp [h]

theorem deletedBytes_moveLive (old : Bytes) (slots : List SlotEntry) (data : Bytes) (o : Nat) :
    deletedBytes (moveLive old slots data o).2 = deletedBytes slots := by
  induction slots generalizing data o with
  | nil => rfl
  | cons e slots ih =>
    rw [moveLive]
    split_ifs with h
    · rw [deletedBytes_cons, deletedBytes_cons, ih]
    · rw [deletedBytes_cons, deletedBytes_cons, ih, if_neg h, if_neg (not_isDeleted_new _ _)]

/-- Compaction is exact and its repetition returns zero only where no deleted slot has a length:
the deleted slots keep theirs. -/
theorem compaction_accounting_iff (page : HeapPage) : (deletedBytes page.slotDirectory < 65536 ∧
      page.compactDeleted.2.computeFreeSpaceBytes =
        page.computeFreeSpaceBytes + page.compactDeleted.1 ∧
      page.compactDeleted.2.compactDeleted.1 = 0) ↔ deletedBytes page.slotDirectory = 0 := by
  constructor
  · rintro ⟨hsum, -, hagain⟩
    by_contra hpos
    have hfirst : deletedBytes page.compactDeleted.2.slotDirectory =
        deletedBytes page.slotDirectory := by
      rw [compactDeleted]
      dsimp only
      split_ifs
      · rfl
      · exact deletedBytes_moveLive _ _ _ _
    rw [compactDeleted, hfirst, Nat.mod_eq_of_lt hsum] at hagain
    simp [hpos] at hagain
  · intro hzero
    simp [compactDeleted, hzero]

theorem length_clearedData {data : Bytes} (h : heapPayloadOffset + heapTrailerSize ≤ data.length) :
    (clearedData data).length = data.length := by
  simp only [clearedData, List.length_append, List.length_take, List.length_replicate,
    List.length_drop]
  omega

/-- The page's only tuple is deleted: both runs return its length, and no space is gained. -/
theorem repeated_compaction_returns_again : insertTuple [7] (new .kiB16) = (.ok 0, singlePage) ∧
    ∃ page, deleteTuple 0 singlePage = (.ok (), page) ∧ page.compactDeleted.1 = 1 ∧
      page.compactDeleted.2.computeFreeSpaceBytes = page.computeFreeSpaceBytes ∧
      page.compactDeleted.2.compactDeleted.1 = 1 := by
  let emptied (data : Bytes) : HeapPage := ⟨.kiB16, data, [(SlotEntry.new 112 1).markDeleted]⟩
  have hfree : ∀ data, (emptied data).computeFreeSpaceBytes =
      data.length - heapTrailerSize - SlotEntry.size - 112 := fun _ => rfl
  have hcompacted : ∀ data, (emptied data).compactDeleted.2 = emptied (clearedData data) :=
    fun _ => rfl
  refine ⟨insertTuple_new, emptied singlePage.data, rfl, by decide, ?_, by decide⟩
  rw [hcompacted, hfree, hfree,
    length_clearedData (by rw [length_data_singlePage]; decide)]

def checkDeletable (page : HeapPage) (slotId : Nat) : Result Unit := do
  let entry ← page.slot slotId
  failIf entry.isDeleted (storageError s!"slot {slotId} already deleted")

def markDeletedBatch (slotIds : List Nat) : Effect HeapPage Error Nat := do
  if slotIds = [] then
    return 0
  let page ← get
  lift (forM slotIds page.checkDeletable)
  modify fun page => slotIds.foldl markSlot page
  pure slotIds.length

def deletedSlots (page : HeapPage) : Nat := page.slotDirectory.countP (·.isDeleted)

theorem checkDeletable_eq_ok : page.checkDeletable slotId = .ok () ↔ page.Deletable slotId := by
  simp only [checkDeletable, slot, ok_iff, Deletable, LiveAt]

theorem deleteTuple_eq_ok : deleteTuple slotId page = (.ok (), page') ↔
    page.Deletable slotId ∧ page' = page.markSlot slotId := by
  rcases hrun : deleteTuple slotId page with ⟨result, after⟩
  rcases deleteTuple_cases hrun with ⟨e, rfl, rfl, hdead⟩ | ⟨rfl, hlive, rfl⟩
  · simp [hdead]
  · simp [hlive, eq_comm]

theorem deletedSlots_markSlot (h : page.Deletable slotId) :
    (page.markSlot slotId).deletedSlots = page.deletedSlots + 1 := by
  obtain ⟨entry, hslot, hlive⟩ := h
  obtain ⟨hlt, rfl⟩ := List.getElem?_eq_some_iff.mp hslot
  rw [deletedSlots, markSlot, List.modify_eq_set_getElem?, hslot]
  simp [List.countP_set hlt, hlive, deletedSlots]

variable {slotIds : List Nat}

/-- The single deletes succeed on live slots only, each named once: the second delete of an id
finds its slot deleted. -/
theorem each_deleteTuple_eq_ok : each deleteTuple slotIds page = (.ok (), page') ↔
    (∀ id ∈ slotIds, page.Deletable id) ∧ slotIds.Nodup ∧ page' = slotIds.foldl markSlot page := by
  induction slotIds generalizing page with
  | nil => simp [eq_comm]
  | cons id ids ih =>
    have hrest : (∀ i ∈ ids, (page.markSlot id).Deletable i) ↔
        id ∉ ids ∧ ∀ i ∈ ids, page.Deletable i := by
      simp only [Deletable, liveAt_markSlot, exists_and_left, forall_and, List.forall_mem_ne]
    simp only [each_cons_eq_ok, deleteTuple_eq_ok, ih, and_assoc, exists_and_left, exists_eq_left, hrest,
      List.forall_mem_cons, List.nodup_cons, List.foldl_cons]
    tauto

theorem deletedSlots_each (h : each deleteTuple slotIds page = (.ok (), page')) :
    page'.deletedSlots = page.deletedSlots + slotIds.length := by
  refine each_invariant (fun ids p => p.deletedSlots = page.deletedSlots + ids.length)
    (fun before id after _ p p' hcount hdelete => ?_) rfl h
  obtain ⟨hlive, rfl⟩ := deleteTuple_eq_ok.mp hdelete
  rw [deletedSlots_markSlot hlive, hcount, List.length_append]
  rfl

theorem markDeletedBatch_eq_ok {n : Nat} : markDeletedBatch slotIds page = (.ok n, page') ↔
    (∀ id ∈ slotIds, page.Deletable id) ∧ n = slotIds.length ∧
      page' = slotIds.foldl markSlot page := by
  have hcheck : forM slotIds page.checkDeletable = .ok () ↔
      ∀ id ∈ slotIds, page.Deletable id := by
    simp only [forM_eq_ok, checkDeletable_eq_ok]
  unfold markDeletedBatch
  split_ifs with hempty
  · simp [hempty, eq_comm]
  · rw [get_bind, ← hcheck]
    cases forM slotIds page.checkDeletable <;> simp [eq_comm]

theorem markDeletedBatch_refused {e : Error}
    (h : markDeletedBatch slotIds page = (.error e, page')) : page' = page := by
  unfold markDeletedBatch at h
  split_ifs at h
  · cases h
  · rw [get_bind] at h
    rcases lift_bind_cases h with ⟨_, -, -, hpage⟩ | ⟨_, -, hmark⟩
    · exact hpage
    · cases hmark

/-- The batch is the single deletes, one after another, exactly when it refuses or no id is named
twice: it checks every id before it deletes the first. -/
theorem markDeletedBatch_single_iff (page : HeapPage) (slotIds : List Nat) :
    ((∀ n page', markDeletedBatch slotIds page = (.ok n, page') ↔
        each deleteTuple slotIds page = (.ok (), page') ∧
          page'.deletedSlots = page.deletedSlots + n) ∧
      ∀ e page', markDeletedBatch slotIds page = (.error e, page') → page' = page) ↔
      slotIds.Nodup ∨ ∃ id ∈ slotIds, ¬ page.Deletable id := by
  constructor
  · rintro ⟨hsame, -⟩
    by_cases hlive : ∀ id ∈ slotIds, page.Deletable id
    · have hsingle := ((hsame _ _).mp (markDeletedBatch_eq_ok.mpr ⟨hlive, rfl, rfl⟩)).1
      exact .inl (each_deleteTuple_eq_ok.mp hsingle).2.1
    · exact .inr (by simpa using hlive)
  · intro hcase
    refine ⟨fun n page' => ?_, fun _ _ => markDeletedBatch_refused⟩
    rw [markDeletedBatch_eq_ok]
    constructor
    · rintro ⟨hlive, rfl, hpage⟩
      have hnodup : slotIds.Nodup := hcase.resolve_right (by simpa using hlive)
      have hsingle := each_deleteTuple_eq_ok.mpr ⟨hlive, hnodup, hpage⟩
      exact ⟨hsingle, deletedSlots_each hsingle⟩
    · rintro ⟨hsingle, hcount⟩
      obtain ⟨hlive, -, hpage⟩ := each_deleteTuple_eq_ok.mp hsingle
      rw [deletedSlots_each hsingle] at hcount
      exact ⟨hlive, (Nat.add_left_cancel hcount).symm, hpage⟩

theorem markDeletedBatch_repeated : (markDeletedBatch [0, 0] singlePage).1 = .ok 2 ∧
    (each deleteTuple [0, 0] singlePage).1 = .error (storageError "slot 0 already deleted") ∧
    (markDeletedBatch [0, 0] singlePage).2.deletedSlots = singlePage.deletedSlots + 1 :=
  ⟨rfl, rfl, rfl⟩

end HeapPage

end Andromeda
