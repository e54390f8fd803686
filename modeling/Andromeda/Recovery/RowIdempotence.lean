import Andromeda.Recovery.Hydration

/-!
# Redoing one row record twice

Redo does not look at where a page came from, and applying one row record a second time
changes nothing. A page that holds a single inserted row loses nothing in a snapshot.
-/

namespace Andromeda

open Fallible

namespace HeapRedoPageState

variable {page page' : HeapRedoPageState} {payload : HeapRowRedoPayloadV1}

section

variable (page : HeapRedoPageState)

/-- The page without the note where it came from. -/
def content : HeapRedoPageState :=
  { page with origin := .redoCreated }

@[simp] theorem content_slots : page.content.slots = page.slots := rfl

theorem content_readTuple (slotId : UInt16) :
    page.content.readTuple slotId = page.readTuple slotId := rfl

theorem applyRow_content (payload : HeapRowRedoPayloadV1) :
    page.content.applyRow payload = (page.applyRow payload).map content := by
  have hcheck : page.content.validateLsnTransition payload =
      page.validateLsnTransition payload := rfl
  unfold applyRow
  cases payload.operation with
  | insert =>
    rw [applyInsert, applyInsert, hcheck]
    cases page.validateLsnTransition payload with
    | error e => rfl
    | ok u =>
      show page.content.insertRow payload = (page.insertRow payload).map content
      unfold insertRow
      rw [content_slots]
      split
      · split <;> rfl
      · rfl
      · rfl
  | delete =>
    rw [applyDelete, applyDelete, hcheck]
    cases page.validateLsnTransition payload with
    | error e => rfl
    | ok u =>
      show page.content.deleteRow payload = (page.deleteRow payload).map content
      unfold deleteRow
      rw [content_slots]
      split <;> rfl
  | update =>
    rw [applyUpdate, applyUpdate, hcheck]
    cases page.validateLsnTransition payload with
    | error e => rfl
    | ok u =>
      show page.content.updateRow payload = (page.updateRow payload).map content
      have hnew : page.content.updateNewSlot payload = page.updateNewSlot payload := rfl
      unfold updateRow
      rw [content_slots, content_readTuple, hnew]
      split
      · split <;> rfl
      · cases page.updateNewSlot payload <;> rfl
      · rfl

end

theorem applyRow_of_content {other : HeapRedoPageState} (hsame : page.content = other.content)
    (h : page.applyRow payload = .ok page') :
    ∃ other', other.applyRow payload = .ok other' ∧ page'.content = other'.content := by
  have hcontent : other.content.applyRow payload = .ok page'.content := by
    rw [← hsame, applyRow_content, h]
    rfl
  rw [applyRow_content] at hcontent
  cases hother : other.applyRow payload with
  | error e =>
    rw [hother] at hcontent
    cases hcontent
  | ok other' =>
    rw [hother] at hcontent
    exact ⟨other', rfl, (Except.ok.inj hcontent).symm⟩

def Settled (page : HeapRedoPageState) (payload : HeapRowRedoPayloadV1) : Prop :=
  match payload.operation with
  | .insert => page.readTuple payload.afterSlotId = some payload.tuple
  | .delete => ∃ previous lsn, page.slots payload.beforeSlotId = some (.deleted previous lsn)
  | .update => page.readTuple payload.afterSlotId = some payload.tuple ∧
      ∃ previous lsn, page.slots payload.beforeSlotId = some (.deleted previous lsn)

theorem updateNewSlot_readTuple {slots : HeapRedoSlots}
    (h : page.updateNewSlot payload = .ok slots) :
    (page.written payload slots).readTuple payload.afterSlotId = some payload.tuple := by
  unfold updateNewSlot at h
  split at h
  · rename_i tuple lsn hslot
    split at h
    · rename_i htuple
      cases h
      simp [readTuple, written, hslot, htuple]
    · cases h
  · cases h
  · cases h
    simp [readTuple, written]

theorem writeRow_settled (hvalid : payload.Valid) (h : page.writeRow payload = .ok page') :
    page'.Settled payload := by
  unfold writeRow at h
  cases hop : payload.operation with
  | insert =>
    simp only [hop, insertRow] at h
    simp only [Settled, hop]
    split at h
    · rename_i tuple lsn hslot
      split at h
      · rename_i htuple
        cases h
        simp [readTuple, advanced, hslot, htuple]
      · cases h
    · cases h
    · cases h
      simp [readTuple, written]
  | delete =>
    simp only [hop, deleteRow] at h
    simp only [Settled, hop]
    split at h
    · rename_i previous lsn hslot
      cases h
      exact ⟨previous, lsn, hslot⟩
    · rename_i tuple lsn hslot
      cases h
      exact ⟨some tuple, payload.resultingPageLsn, by simp [written]⟩
    · cases h
  | update =>
    have hne := hvalid.before_ne_after hop
    simp only [hop, updateRow] at h
    simp only [Settled, hop]
    split at h
    · rename_i previous lsn hslot
      split at h
      · rename_i hread
        cases h
        exact ⟨hread, previous, lsn, hslot⟩
      · cases h
    · rename_i previousTuple lsn hslot
      simp only [ok_iff] at h
      obtain ⟨slots, hslots, heq⟩ := h
      rw [← heq]
      constructor
      · have hread := updateNewSlot_readTuple hslots
        simp only [readTuple, written] at hread ⊢
        rwa [Function.update_of_ne hne.symm]
      · exact ⟨some previousTuple, payload.resultingPageLsn, by simp [written]⟩
    · cases h

theorem writeRow_of_settled (h : page.Settled payload) :
    page.writeRow payload = .ok (page.advanced payload) := by
  unfold writeRow
  cases hop : payload.operation with
  | insert =>
    simp only [Settled, hop, readTuple] at h
    simp only [insertRow]
    split at h
    · rename_i tuple lsn hslot
      rw [hslot]
      simp [Option.some.inj h]
    · cases h
  | delete =>
    simp only [Settled, hop] at h
    obtain ⟨previous, lsn, hslot⟩ := h
    simp [deleteRow, hslot]
  | update =>
    simp only [Settled, hop] at h
    obtain ⟨hread, previous, lsn, hslot⟩ := h
    simp [updateRow, hslot, hread]

theorem applyRow_again (hvalid : payload.Valid) (h : page.applyRow payload = .ok page') :
    page'.applyRow payload = .ok page' := by
  obtain ⟨htransition, hwrite⟩ := applyRow_eq_ok.mp h
  have hlsn := (applyRow_header h).2
  have hagain : page'.LsnTransition payload := ⟨htransition.resulting_ne_zero, .inl hlsn⟩
  have hadvanced : page'.advanced payload = page' := by
    rw [advanced, hagain.max_eq, ← hlsn]
  apply applyRow_eq_ok.mpr
  exact ⟨hagain, by rw [writeRow_of_settled (writeRow_settled hvalid hwrite), hadvanced]⟩

theorem hydratedImage_of_insert {pageId : PageId} {pageSize : PageSize}
    (hop : payload.operation = .insert)
    (h : (redoCreated pageId pageSize).applyRow payload = .ok page') :
    page'.content = page'.hydratedImage.content := by
  have hpage : page' = (redoCreated pageId pageSize).written payload
      (Function.update (fun _ => none) payload.afterSlotId
        (some (.live payload.tuple payload.resultingPageLsn))) := by
    have hwrite := (applyRow_eq_ok.mp h).2
    simp only [writeRow, hop, insertRow, redoCreated] at hwrite
    exact (Except.ok.inj hwrite).symm
  have hslots : page'.slots = page'.hydratedImage.slots := by
    funext slotId
    show page'.slots slotId = (page'.readTuple slotId).map _
    rw [hpage]
    by_cases hslot : slotId = payload.afterSlotId
    · simp [readTuple, written, hslot]
    · simp [readTuple, written, hslot]
  unfold content
  rw [hslots]
  rfl

end HeapRedoPageState

end Andromeda
