import Andromeda.BufferPool.Pool

/-!
# What the transitions of a frame do

A frame of the pool is free or tidily resident between any two calls. For such frames every
transition is rejected without a trace or has the one effect stated here; in particular the
checks that run after a write cannot fail.
-/

namespace Andromeda

open Fallible Effect

namespace BufferFrameCore

variable {f f' : BufferFrameCore} {p : PageId} {result : Except Error Unit}

def Clean (f : BufferFrameCore) : Prop :=
  f.isDirty = false ∧ f.firstDirtyLsn = none ∧ f.lastDirtyLsn = none

def DirtyOver (f : BufferFrameCore) (first last : Lsn) : Prop :=
  f.isDirty = true ∧ f.firstDirtyLsn = some first ∧ f.lastDirtyLsn = some last

/-- The metadata of a page in a frame, whatever the state of the frame. -/
structure Holds (f : BufferFrameCore) (p : PageId) : Prop where
  id_ne : f.id ≠ 0
  pageId : f.pageId = some p
  pageId_ne : p ≠ 0
  lsn : ∃ lsn, f.pageLsn = some lsn ∧ lsn ≠ 0 ∧
    (f.Clean ∨ ∃ first last, f.DirtyOver first last ∧ lsn ≤ first ∧ first ≤ last)

/-- A resident frame as it is between calls. -/
structure Tidy (f : BufferFrameCore) (p : PageId) : Prop extends f.Holds p where
  state : f.state = .resident

theorem ne_zero_of_le {a b : Lsn} (ha : a ≠ 0) (h : a ≤ b) : b ≠ 0 := by
  rintro rfl
  exact ha (UInt64.le_antisymm h UInt64.zero_le)

theorem Holds.clean_or_dirty (h : f.Holds p) :
    f.Clean ∨ ∃ first last, f.DirtyOver first last ∧ first ≠ 0 ∧ first ≤ last := by
  obtain ⟨lsn, -, hlsn, hclean | ⟨first, last, hdirty, hle, hrange⟩⟩ := h.lsn
  · exact .inl hclean
  · exact .inr ⟨first, last, hdirty, ne_zero_of_le hlsn hle, hrange⟩

theorem Holds.validate (h : f.Holds p) (hstate : f.state ≠ .free)
    (hflushing : f.state = .flushing → f.pinCount = 0)
    (hevicting : f.state = .evicting → f.pinCount = 0 ∧ f.isDirty = false) :
    f.validate = .ok () := by
  obtain ⟨lsn, hpageLsn, hlsn, hrange⟩ := h.lsn
  have hmetadata : f.dirtyRangeValid = true ∧ f.validateResidentMetadata = .ok () := by
    simp only [validateResidentMetadata, ok_iff, validatePageIdValue, validateDirtyLsn]
    rcases hrange with ⟨hd, hf, hl⟩ | ⟨first, last, ⟨hd, hf, hl⟩, hle, hrange⟩
    · exact ⟨by simp [dirtyRangeValid, hd, hf, hl], p, h.pageId, h.pageId_ne, lsn, hpageLsn, hlsn,
        by simp [hf], by simp [hl]⟩
    · have hfirst := ne_zero_of_le hlsn hle
      have hlast := ne_zero_of_le hfirst hrange
      refine ⟨by simp [dirtyRangeValid, hd, hf, hl, hfirst, hlast, hrange], p, h.pageId,
        h.pageId_ne, lsn, hpageLsn, hlsn, ?_, ?_⟩
      · simp [hf, hfirst, UInt64.not_lt.mpr hle]
      · simp [hl, hlast, UInt64.not_lt.mpr (UInt64.le_trans hle hrange)]
  have hid := h.id_ne
  simp only [BufferFrameCore.validate, ok_iff, validateFrameId]
  refine ⟨hid, by simp [hmetadata.1], ?_⟩
  rw [if_neg hstate]
  simp only [ok_iff]
  refine ⟨hmetadata.2, ?_, ?_⟩
  · rintro ⟨hs, hpins⟩
    exact hpins (hflushing hs)
  · rintro ⟨hs, hbusy⟩
    obtain ⟨hpins, hdirty⟩ := hevicting hs
    rcases hbusy with hbusy | hbusy
    · exact hbusy hpins
    · rw [hdirty] at hbusy
      cases hbusy

theorem modifyChecked_of_ok {update : BufferFrameCore → BufferFrameCore}
    (h : (update f).validate = .ok ()) : modifyChecked update f = (.ok (), update f) := by
  rw [modifyChecked, modify_bind, get_bind, h]
  rfl

/-! ## Pins and reference bits -/

theorem setClockUsage_of_ne_free (h : f.state ≠ .free) :
    setClockUsage f = (.ok (), { f with clockUsage := true }) := by
  simp [setClockUsage, failIf, h]

theorem pin_cases (h : pin f = (result, f')) : (∃ err, result = .error err ∧ f' = f) ∨
      (f.state = .resident ∧ result = .ok () ∧
        f' = { f with pinCount := f.pinCount + 1, clockUsage := true }) := by
  rw [pin, get_bind] at h
  refine refused_or h fun _ hstate h => ?_
  refine refused_or h fun _ _ h => ?_
  rw [failIf_eq_ok, not_not] at hstate
  rw [modify_bind, setClockUsage_of_ne_free (by simp [hstate])] at h
  cases h
  exact .inr ⟨hstate, rfl, rfl⟩

theorem unpin_cases (h : unpin f = (result, f')) : (∃ err, result = .error err ∧ f' = f) ∨
      (f.state = .resident ∧ result = .ok () ∧ f' = { f with pinCount := f.pinCount - 1 }) := by
  rw [unpin, get_bind] at h
  refine refused_or h fun _ hstate h => ?_
  refine refused_or h fun _ _ h => ?_
  rw [failIf_eq_ok, not_not] at hstate
  cases h
  exact .inr ⟨hstate, rfl, rfl⟩

theorem markDirty_cases {dirtyLsn : Lsn} (h : markDirty dirtyLsn f = (result, f')) :
    (∃ err, result = .error err ∧ f' = f) ∨
      ∃ lsn, f.state = .resident ∧ f.pageLsn = some lsn ∧ dirtyLsn ≠ 0 ∧ lsn ≤ dirtyLsn ∧
        (∀ last, f.lastDirtyLsn = some last → last ≤ dirtyLsn) ∧ result = .ok () ∧
        f' = { f with
          firstDirtyLsn := if f.lastDirtyLsn.isSome then f.firstDirtyLsn else some dirtyLsn
          lastDirtyLsn := some dirtyLsn
          isDirty := true
          clockUsage := true } := by
  rw [markDirty, get_bind] at h
  refine refused_or h fun _ hstate h => ?_
  refine refused_or h fun _ _ h => ?_
  refine refused_or h fun lsn hlsn h => ?_
  refine refused_or h fun _ hfloor h => ?_
  refine refused_or h fun _ hlast h => ?_
  rw [failIf_eq_ok, not_not] at hstate
  rw [orError_eq_ok] at hlsn
  rw [failIf_eq_ok, not_or, UInt64.not_lt] at hfloor
  rw [failIf_eq_ok] at hlast
  rw [modify_bind, setClockUsage_of_ne_free (by simp [hstate])] at h
  cases h
  refine .inr ⟨lsn, hstate, hlsn, hfloor.1, hfloor.2, ?_, rfl, rfl⟩
  intro last hsome
  simpa [hsome] using hlast

theorem Tidy.dirtied (h : f.Tidy p) {lsn dirtyLsn : Lsn} (hlsn : f.pageLsn = some lsn)
    (hfloor : lsn ≤ dirtyLsn) (hlast : ∀ last, f.lastDirtyLsn = some last → last ≤ dirtyLsn) :
    Tidy { f with
      firstDirtyLsn := if f.lastDirtyLsn.isSome then f.firstDirtyLsn else some dirtyLsn
      lastDirtyLsn := some dirtyLsn
      isDirty := true
      clockUsage := true } p := by
  obtain ⟨lsn', hlsn', hne, hrange⟩ := h.lsn
  rw [hlsn, Option.some.injEq] at hlsn'
  subst hlsn'
  refine ⟨⟨h.id_ne, h.pageId, h.pageId_ne, lsn, hlsn, hne, .inr ?_⟩, h.state⟩
  rcases hrange with ⟨-, -, hl⟩ | ⟨first, last, ⟨-, hf, hl⟩, hle, hrange⟩
  · exact ⟨dirtyLsn, dirtyLsn, ⟨rfl, by simp [hl], rfl⟩, hfloor, UInt64.le_refl _⟩
  · exact ⟨first, dirtyLsn, ⟨rfl, by simp [hl, hf], rfl⟩, hle,
      UInt64.le_trans hrange (hlast last hl)⟩

def inState (f : BufferFrameCore) (state : BufferFrameState) : BufferFrameCore :=
  { f with state := state }

theorem inState_self (h : f.state = .resident) : f.inState .resident = f := by
  rw [inState, ← h]

theorem Holds.inState (h : f.Holds p) (state : BufferFrameState) : (f.inState state).Holds p :=
  ⟨h.id_ne, h.pageId, h.pageId_ne, h.lsn⟩

theorem Tidy.validate (h : f.Tidy p) : f.validate = .ok () :=
  h.toHolds.validate (by simp [h.state]) (by simp [h.state]) (by simp [h.state])

theorem Tidy.beginFlush (h : f.Tidy p) (hdirty : f.isDirty = true) (hpins : f.pinCount = 0) :
    beginFlush f = (.ok (), f.inState .flushing) := by
  have hvalid : (f.inState .flushing).validate = .ok () := by
    refine (h.toHolds.inState .flushing).validate (by simp [inState]) (fun _ => hpins) ?_
    intro hstate
    cases hstate
  have hguard : ¬ (f.state ≠ .resident ∨ (!f.isDirty) = true ∨ f.pinCount ≠ 0) := by
    simp [h.state, hdirty, hpins]
  rw [BufferFrameCore.beginFlush, get_bind, failIf_bind hguard]
  exact modifyChecked_of_ok hvalid

theorem Tidy.abortFlush (h : f.Tidy p) (hdirty : f.isDirty = true) (hpins : f.pinCount = 0) :
    abortFlush (f.inState .flushing) = (.ok (), f) := by
  have hchecked : modifyChecked (fun f => f.inState .resident) (f.inState .flushing) =
      (.ok (), f.inState .resident) := by
    apply modifyChecked_of_ok
    change (f.inState .resident).validate = .ok ()
    rw [inState_self h.state]
    exact h.validate
  have hguard : ¬ ((f.inState .flushing).state ≠ .flushing ∨
      (!(f.inState .flushing).isDirty) = true ∨ (f.inState .flushing).pinCount ≠ 0) := by
    simp [inState, hdirty, hpins]
  rw [BufferFrameCore.abortFlush, get_bind, failIf_bind hguard]
  rw [inState_self h.state] at hchecked
  exact hchecked

def cleaned (f : BufferFrameCore) : BufferFrameCore :=
  { f with isDirty := false, firstDirtyLsn := none, lastDirtyLsn := none }

theorem Tidy.cleaned (h : f.Tidy p) : f.cleaned.Tidy p := by
  obtain ⟨lsn, hlsn, hne, -⟩ := h.lsn
  exact ⟨⟨h.id_ne, h.pageId, h.pageId_ne, lsn, hlsn, hne, .inl ⟨rfl, rfl, rfl⟩⟩, h.state⟩

theorem Tidy.finishFlush (h : f.Tidy p) {first last : Lsn} (hdirty : f.DirtyOver first last)
    (hle : first ≤ last) : finishFlush last (f.inState .flushing) = (.ok (), f.cleaned) := by
  have hchecked : modifyChecked (fun f => f.cleaned.inState .resident) (f.inState .flushing) =
      (.ok (), f.cleaned.inState .resident) := by
    apply modifyChecked_of_ok
    change (f.cleaned.inState .resident).validate = .ok ()
    rw [inState_self h.cleaned.state]
    exact h.cleaned.validate
  rw [inState_self h.cleaned.state] at hchecked
  have hfirst : (f.inState .flushing).firstDirtyLsn = some first := hdirty.2.1
  have hlast : (f.inState .flushing).lastDirtyLsn = some last := hdirty.2.2
  have hguard : ¬ (last < first ∨ last < last) := by
    rw [not_or, UInt64.not_lt]
    exact ⟨hle, UInt64.lt_irrefl last⟩
  rw [BufferFrameCore.finishFlush, get_bind, failIf_bind (by simp [inState]), markCleanAfterFlush,
    get_bind, failIf_bind (by simp [inState]), hfirst, orError_some, lift_ok_bind, hlast,
    orError_some, lift_ok_bind, failIf_bind hguard]
  exact hchecked

theorem validate_free {id : Nat} (h : id ≠ 0) : (free id).validate = .ok () := by
  simp [BufferFrameCore.validate, free, validateFrameId, dirtyRangeValid, h]

theorem Tidy.beginEviction_cases (h : f.Tidy p) (hrun : beginEviction f = (result, f')) :
    (∃ err, result = .error err ∧ f' = f) ∨
      (f.Clean ∧ f.pinCount = 0 ∧ result = .ok () ∧ f' = f.inState .evicting) := by
  rw [beginEviction, get_bind] at hrun
  refine refused_or hrun fun _ hguard hrun => ?_
  rw [failIf_eq_ok, not_or, not_or, not_not, not_not] at hguard
  obtain ⟨-, hpins, hdirty⟩ := hguard
  have hclean : f.Clean := by
    rcases h.toHolds.clean_or_dirty with hclean | ⟨first, last, hover, -⟩
    · exact hclean
    · exact absurd hover.1 hdirty
  have hvalid : (f.inState .evicting).validate = .ok () := by
    refine (h.toHolds.inState .evicting).validate (by simp [inState]) ?_
      (fun _ => ⟨hpins, hclean.1⟩)
    intro hstate
    cases hstate
  have hchecked : modifyChecked (fun f => f.inState .evicting) f = (.ok (), f.inState .evicting) :=
    modifyChecked_of_ok hvalid
  have hresult := hrun.symm.trans hchecked
  cases hresult
  exact .inr ⟨hclean, hpins, rfl, rfl⟩

theorem finishEviction_of_evicting (hid : f.id ≠ 0) :
    finishEviction (f.inState .evicting) = (.ok (), free f.id) := by
  have hchecked : modifyChecked (fun f => free f.id) (f.inState .evicting) = (.ok (), free f.id) :=
    modifyChecked_of_ok (validate_free hid)
  rw [finishEviction, get_bind, failIf_bind (by simp [inState])]
  exact hchecked

end BufferFrameCore

end Andromeda
