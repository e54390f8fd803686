import Andromeda.BufferPool.Page
import Mathlib.Data.List.AList
import Mathlib.Data.List.Lex
import Mathlib.Data.List.Sort

/-!
# Buffer frames, the dirty tracker and the clock

The parts the pool is built from: one frame with its lifecycle, the tracker of dirty pages
with the LSN range of each, and the clock that picks a frame to evict.
-/

namespace Andromeda

open Fallible Effect

/-- `BufferPoolError`; `BufferPoolCoreError` has the same cases and texts and is mapped onto it. -/
inductive BufferPoolError where
  | invalidFrameCount (frameCount maxFrameCount : Nat)
  | invalidFrameId (frameId : Nat)
  | invalidPageId
  | invalidDirtyLsn
  | invalidPinCount
  | invalidPageLayout
  | invalidPageImage
  | invalidFrameState
  | invalidClockUsage
  | noEvictionFrames
  | allFramesPinned
  | noEvictableFrame
  | pageNotFound (pageId : PageId)
  | pageSizeMismatch
  | walDurabilityRequired
  | pageTableConflict (pageId : PageId)

namespace BufferPoolError

def message : BufferPoolError → String
  | invalidFrameCount frameCount maxFrameCount =>
    s!"buffer pool frame count {frameCount} must be in 1..={maxFrameCount}"
  | invalidFrameId frameId => s!"buffer frame id {frameId} must not be zero"
  | invalidPageId => "buffer frame page id must not be zero"
  | invalidDirtyLsn => "dirty buffer frame LSN must not be zero"
  | invalidPinCount => "buffer frame pin count is invalid"
  | invalidPageLayout => "buffer frame page layout contract is invalid"
  | invalidPageImage => "buffer frame page image does not match resident metadata"
  | invalidFrameState => "buffer frame lifecycle state transition is invalid"
  | invalidClockUsage => "free buffer frame must not have Clock usage set"
  | noEvictionFrames => "Clock eviction requires at least one buffer frame"
  | allFramesPinned =>
    "Clock eviction exhausted all frames because every resident frame is pinned"
  | noEvictableFrame => "Clock eviction found no clean unpinned resident frame"
  | pageNotFound pageId => s!"page {pageId} is not present in the page store"
  | pageSizeMismatch => "buffer pool page size does not match the page store or image"
  | walDurabilityRequired =>
    "WAL durability observer is required before flushing dirty buffer pages"
  | pageTableConflict pageId => s!"buffer pool frame table already contains resident page {pageId}"

def intoAndromedaError (e : BufferPoolError) : Error := storageError e.message

end BufferPoolError

open BufferPoolError

inductive BufferFrameState where
  | free
  | resident
  | flushing
  | evicting
deriving DecidableEq

structure BufferFrameCore where
  /-- One-based. -/
  id : Nat
  state : BufferFrameState
  pageId : Option PageId
  pageLsn : Option Lsn
  pinCount : Nat
  isDirty : Bool
  firstDirtyLsn : Option Lsn
  lastDirtyLsn : Option Lsn
  clockUsage : Bool

def validateFrameId (id : Nat) : Result Unit :=
  failIf (id = 0) (invalidFrameId id).intoAndromedaError

def validatePageIdValue (pageId : PageId) : Result Unit :=
  failIf (pageId = 0) invalidPageId.intoAndromedaError

def validateDirtyLsn (lsn : Lsn) : Result Unit :=
  failIf (lsn = 0) invalidDirtyLsn.intoAndromedaError

namespace BufferFrameCore

def validateResidentMetadata (f : BufferFrameCore) : Result Unit := do
  let pageId ← orError f.pageId invalidPageId.intoAndromedaError
  validatePageIdValue pageId
  let pageLsn ← orError f.pageLsn invalidPageImage.intoAndromedaError
  validateDirtyLsn pageLsn
  failIf (f.firstDirtyLsn.any fun first => first = 0 ∨ first < pageLsn)
    invalidDirtyLsn.intoAndromedaError
  failIf (f.lastDirtyLsn.any fun last => last = 0 ∨ last < pageLsn)
    invalidDirtyLsn.intoAndromedaError

def dirtyRangeValid (f : BufferFrameCore) : Bool :=
  match f.isDirty, f.firstDirtyLsn, f.lastDirtyLsn with
  | true, some first, some last => first ≠ 0 ∧ last ≠ 0 ∧ first ≤ last
  | false, none, none => true
  | _, _, _ => false

def validate (f : BufferFrameCore) : Result Unit := do
  validateFrameId f.id
  failIf (!f.dirtyRangeValid) invalidDirtyLsn.intoAndromedaError
  if f.state = .free then
    failIf (f.pageId.isSome ∨ f.pageLsn.isSome ∨ f.pinCount ≠ 0 ∨ f.isDirty ∨
        f.firstDirtyLsn.isSome ∨ f.lastDirtyLsn.isSome)
      invalidFrameState.intoAndromedaError
    failIf f.clockUsage invalidClockUsage.intoAndromedaError
  else
    f.validateResidentMetadata
    failIf (f.state = .flushing ∧ f.pinCount ≠ 0) invalidFrameState.intoAndromedaError
    failIf (f.state = .evicting ∧ (f.pinCount ≠ 0 ∨ f.isDirty)) invalidFrameState.intoAndromedaError

def free (id : Nat) : BufferFrameCore :=
  ⟨id, .free, none, none, 0, false, none, none, false⟩

def resident (id : Nat) (pageId : PageId) (pageLsn : Lsn) : Result BufferFrameCore := do
  validatePageIdValue pageId
  validateDirtyLsn pageLsn
  let frame : BufferFrameCore :=
    ⟨id, .resident, some pageId, some pageLsn, 0, false, none, none, true⟩
  frame.validate
  pure frame

/-- Write the frame, then check it; a failed check leaves the write. -/
def modifyChecked (update : BufferFrameCore → BufferFrameCore) :
    Effect BufferFrameCore Error Unit := do
  modify update
  let f ← get
  lift f.validate

def setClockUsage : Effect BufferFrameCore Error Unit := do
  let f ← get
  lift (failIf (f.state = .free) invalidClockUsage.intoAndromedaError)
  modify fun f => { f with clockUsage := true }

def consumeClockUsage : Effect BufferFrameCore Error Bool := do
  let f ← get
  lift (failIf (f.state = .free) invalidClockUsage.intoAndromedaError)
  modify fun f => { f with clockUsage := false }
  pure f.clockUsage

/-- The pin count is a `u32`. -/
def pin : Effect BufferFrameCore Error Unit := do
  let f ← get
  lift (failIf (f.state ≠ .resident) invalidFrameState.intoAndromedaError)
  lift (failIf (2 ^ 32 ≤ f.pinCount + 1) invalidPinCount.intoAndromedaError)
  modify fun f => { f with pinCount := f.pinCount + 1 }
  setClockUsage

def unpin : Effect BufferFrameCore Error Unit := do
  let f ← get
  lift (failIf (f.state ≠ .resident) invalidFrameState.intoAndromedaError)
  lift (failIf (f.pinCount = 0) invalidPinCount.intoAndromedaError)
  modify fun f => { f with pinCount := f.pinCount - 1 }

def markDirty (dirtyLsn : Lsn) : Effect BufferFrameCore Error Unit := do
  let f ← get
  lift (failIf (f.state ≠ .resident) invalidFrameState.intoAndromedaError)
  lift (failIf (f.pinCount = 0) invalidPinCount.intoAndromedaError)
  let pageLsn ← lift (orError f.pageLsn invalidPageImage.intoAndromedaError)
  lift (failIf (dirtyLsn = 0 ∨ dirtyLsn < pageLsn) invalidDirtyLsn.intoAndromedaError)
  lift (failIf (f.lastDirtyLsn.any fun last => dirtyLsn < last) invalidDirtyLsn.intoAndromedaError)
  -- The first LSN is written only when there is no last one yet.
  modify fun f => { f with
    firstDirtyLsn := if f.lastDirtyLsn.isSome then f.firstDirtyLsn else some dirtyLsn
    lastDirtyLsn := some dirtyLsn
    isDirty := true }
  setClockUsage

def markCleanAfterFlush (flushedLsn : Lsn) : Effect BufferFrameCore Error Unit := do
  let f ← get
  lift (failIf (f.state ≠ .resident ∧ f.state ≠ .flushing) invalidFrameState.intoAndromedaError)
  let first ← lift
    (orError f.firstDirtyLsn invalidDirtyLsn.intoAndromedaError)
  let last ← lift
    (orError f.lastDirtyLsn invalidDirtyLsn.intoAndromedaError)
  lift (failIf (last < first ∨ flushedLsn < last) invalidDirtyLsn.intoAndromedaError)
  modifyChecked fun f => { f with
    isDirty := false, firstDirtyLsn := none, lastDirtyLsn := none, state := .resident }

def beginFlush : Effect BufferFrameCore Error Unit := do
  let f ← get
  lift (failIf (f.state ≠ .resident ∨ !f.isDirty ∨ f.pinCount ≠ 0)
    invalidFrameState.intoAndromedaError)
  modifyChecked fun f => { f with state := .flushing }

def abortFlush : Effect BufferFrameCore Error Unit := do
  let f ← get
  lift (failIf (f.state ≠ .flushing ∨ !f.isDirty ∨ f.pinCount ≠ 0)
    invalidFrameState.intoAndromedaError)
  modifyChecked fun f => { f with state := .resident }

def finishFlush (flushedLsn : Lsn) : Effect BufferFrameCore Error Unit := do
  let f ← get
  lift (failIf (f.state ≠ .flushing) invalidFrameState.intoAndromedaError)
  markCleanAfterFlush flushedLsn

def beginEviction : Effect BufferFrameCore Error Unit := do
  let f ← get
  lift (failIf (f.state ≠ .resident ∨ f.pinCount ≠ 0 ∨ f.isDirty)
    invalidFrameState.intoAndromedaError)
  modifyChecked fun f => { f with state := .evicting }

def finishEviction : Effect BufferFrameCore Error Unit := do
  let f ← get
  lift (failIf (f.state ≠ .evicting) invalidFrameState.intoAndromedaError)
  modifyChecked fun f => free f.id

end BufferFrameCore

structure BufferFrame where
  core : BufferFrameCore
  image : Option PageImage
  pageSize : PageSize

namespace BufferFrame

def free (id : Nat) (pageSize : PageSize) : BufferFrame := ⟨.free id, none, pageSize⟩

def validateResidentMetadata (f : BufferFrame) : Result Unit := do
  let image ← orError f.image invalidPageImage.intoAndromedaError
  failIf (image.pageSize ≠ f.pageSize) invalidPageImage.intoAndromedaError
  let pageId ← orError f.core.pageId invalidPageId.intoAndromedaError
  validatePageIdValue pageId
  let imagePageId ← orError image.pageId invalidPageImage.intoAndromedaError
  failIf (imagePageId ≠ pageId) invalidPageImage.intoAndromedaError
  let pageLsn ← orError f.core.pageLsn invalidPageImage.intoAndromedaError
  failIf (pageLsn = 0) invalidPageImage.intoAndromedaError
  let imagePageLsn ← orError image.pageLsn invalidPageImage.intoAndromedaError
  failIf (imagePageLsn ≠ pageLsn) invalidPageImage.intoAndromedaError

def validate (f : BufferFrame) : Result Unit := do
  f.core.validate
  if f.core.state = .free then
    failIf f.image.isSome invalidFrameState.intoAndromedaError
  else f.validateResidentMetadata

def checkLayout (layout : PageLayoutContract) : Result Unit :=
  layout.validate.mapError fun _ => invalidPageLayout.intoAndromedaError

def withImage (id : Nat) (image : PageImage) : Result BufferFrame := do
  let layout ← orError image.layoutContract invalidPageImage.intoAndromedaError
  checkLayout layout
  let pageId ← orError image.pageId invalidPageImage.intoAndromedaError
  validatePageIdValue pageId
  let pageLsn ← orError image.pageLsn invalidPageImage.intoAndromedaError
  failIf (pageLsn = 0) invalidPageImage.intoAndromedaError
  let core ← BufferFrameCore.resident id pageId pageLsn
  let frame : BufferFrame := ⟨core, some image, image.pageSize⟩
  frame.validate
  pure frame

/-- A transition of the frame is one of its metadata; only `finish_eviction` drops the image. -/
def onCore {α : Type} (op : Effect BufferFrameCore Error α) : Effect BufferFrame Error α :=
  zoom core (fun core f => { f with core := core }) op

def finishEviction : Effect BufferFrame Error Unit := do
  onCore BufferFrameCore.finishEviction
  modify fun f => { f with image := none }

end BufferFrame

structure DirtyEntry where
  pageId : PageId
  firstDirtyLsn : Lsn
  lastDirtyLsn : Lsn

/-- `DirtyFlushCandidate` has the fields of the entry it is made from. -/
abbrev DirtyFlushCandidate := DirtyEntry

structure DirtyTracker where
  dirtyPages : AList fun _ : PageId => DirtyEntry

namespace DirtyTracker

def new : DirtyTracker := ⟨∅⟩

def isEmpty (t : DirtyTracker) : Bool := t.dirtyPages.keys.isEmpty

def touched (pageId : PageId) (dirtyLsn : Lsn) : Option DirtyEntry → DirtyEntry
  | none => ⟨pageId, dirtyLsn, dirtyLsn⟩
  | some e =>
    { e with
      firstDirtyLsn := if dirtyLsn < e.firstDirtyLsn then dirtyLsn else e.firstDirtyLsn
      lastDirtyLsn := if e.lastDirtyLsn < dirtyLsn then dirtyLsn else e.lastDirtyLsn }

def markDirty (t : DirtyTracker) (pageId : PageId) (dirtyLsn : Lsn) : Result DirtyTracker := do
  validatePageIdValue pageId
  validateDirtyLsn dirtyLsn
  pure ⟨t.dirtyPages.insert pageId (touched pageId dirtyLsn (t.dirtyPages.lookup pageId))⟩

def markClean (t : DirtyTracker) (pageId : PageId) : Result DirtyTracker := do
  validatePageIdValue pageId
  pure ⟨t.dirtyPages.erase pageId⟩

def flushOrder (a b : DirtyFlushCandidate) : Prop :=
  a.firstDirtyLsn < b.firstDirtyLsn ∨ (a.firstDirtyLsn = b.firstDirtyLsn ∧ a.pageId ≤ b.pageId)
deriving Decidable

def flushCandidates (t : DirtyTracker) : List DirtyFlushCandidate :=
  (t.dirtyPages.entries.map fun entry => entry.2).insertionSort flushOrder

end DirtyTracker

/-- What the clock reads and writes of a frame. -/
class ClockFrame (F : Type) where
  clockState : F → BufferFrameState
  clockPinCount : F → Nat
  clockIsDirty : F → Bool
  consumeClockUsage : Effect F Error Bool

open ClockFrame

instance bufferFrameClock : ClockFrame BufferFrame :=
  ⟨fun f => f.core.state, fun f => f.core.pinCount, fun f => f.core.isDirty,
    BufferFrame.onCore BufferFrameCore.consumeClockUsage⟩

structure ClockEvictionPolicy where
  cursor : Nat

namespace ClockEvictionPolicy

variable {F : Type} [ClockFrame F] {n : Nat}

def new : ClockEvictionPolicy := ⟨0⟩

def isCleanUnpinnedResident (f : F) : Bool :=
  clockState f = .resident ∧ clockPinCount f = 0 ∧ !clockIsDirty f

def classifyExhaustion (frames : Fin n → F) : BufferPoolError :=
  if (List.finRange n).all fun k =>
      clockState (frames k) = .resident ∧ 0 < clockPinCount (frames k) then
    .allFramesPinned
  else .noEvictableFrame

/-- The loop of `select_victim` with so many turns left. -/
def sweep (hn : 0 < n) : Nat → Nat → (Fin n → F) →
    Result (Fin n) × ClockEvictionPolicy × (Fin n → F)
  | 0, cursor, frames => (.error (classifyExhaustion frames).intoAndromedaError, ⟨cursor⟩, frames)
  | turns + 1, cursor, frames =>
    let index : Fin n := ⟨cursor % n, Nat.mod_lt cursor hn⟩
    let next := (cursor + 1) % n
    if isCleanUnpinnedResident (frames index) then
      let used := consumeClockUsage (frames index)
      let frames := Function.update frames index used.2
      match used.1 with
      | .error err => (.error err, ⟨next⟩, frames)
      | .ok true => sweep hn turns next frames
      | .ok false => (.ok index, ⟨next⟩, frames)
    else sweep hn turns next frames

def selectVictim (clock : ClockEvictionPolicy) (frames : Fin n → F) :
    Result (Fin n) × ClockEvictionPolicy × (Fin n → F) :=
  if hn : 0 < n then sweep hn (n * 2) (clock.cursor % n) frames
  else (.error noEvictionFrames.intoAndromedaError, clock, frames)

end ClockEvictionPolicy

end Andromeda
