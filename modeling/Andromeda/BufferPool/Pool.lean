import Andromeda.BufferPool.Frame

/-!
# The buffer pool

A fixed number of frames over a page store: pages are admitted into free or evicted frames,
pinned, dirtied and written through guards, and flushed behind the durability gate. The
metrics counters are left out; nothing else reads them.
-/

namespace Andromeda

open Fallible BufferPoolError Effect BufferFrameCore BufferFrame

/-- The pool over the store `σ` with `n` frames. An index in the page table is a frame. -/
structure BufferPool (σ : Type) (n : Nat) where
  pageSize : PageSize
  store : σ
  frames : Fin n → BufferFrame
  pageTable : PageId → Option (Fin n)
  clock : ClockEvictionPolicy
  dirtyTracker : DirtyTracker

namespace BufferPool

variable {σ : Type} [PageStore σ] {n : Nat}

def maxFrameCount : Nat := 1048576

def new (n : Nat) (pageSize : PageSize) (store : σ) : Result (BufferPool σ n) := do
  failIf (n = 0 ∨ maxFrameCount < n) (invalidFrameCount n maxFrameCount).intoAndromedaError
  failIf (PageStore.pageSize store ≠ pageSize) pageSizeMismatch.intoAndromedaError
  pure
    { pageSize := pageSize
      store := store
      frames := fun k => .free (k.val + 1) pageSize
      pageTable := fun _ => none
      clock := .new
      dirtyTracker := .new }

def onFrame {α : Type} (k : Fin n) (op : Effect BufferFrame Error α) :
    Effect (BufferPool σ n) Error α :=
  zoom (fun p => p.frames k) (fun f p => { p with frames := Function.update p.frames k f }) op

def onCore {α : Type} (k : Fin n) (op : Effect BufferFrameCore Error α) :
    Effect (BufferPool σ n) Error α :=
  onFrame k (BufferFrame.onCore op)

def onStore {α : Type} (op : Effect σ Error α) : Effect (BufferPool σ n) Error α :=
  zoom store (fun s p => { p with store := s }) op

def onTracker (op : DirtyTracker → Result DirtyTracker) : Effect (BufferPool σ n) Error Unit :=
  fun p =>
    match op p.dirtyTracker with
    | .error err => (.error err, p)
    | .ok tracker => (.ok (), { p with dirtyTracker := tracker })

def validateImageForPool (image : PageImage) (pageSize : PageSize) : Result PageId := do
  failIf (image.pageSize ≠ pageSize) pageSizeMismatch.intoAndromedaError
  let layout ← orError image.layoutContract invalidPageImage.intoAndromedaError
  checkLayout layout
  validatePageIdValue layout.header.pageId
  pure layout.header.pageId

/-- The clock writes its hand and the reference bits whether or not it finds a victim. -/
def selectVictim : Effect (BufferPool σ n) Error (Fin n) := fun p =>
  let swept := p.clock.selectVictim p.frames
  (swept.1, { p with clock := swept.2.1, frames := swept.2.2 })

def evict (k : Fin n) : Effect (BufferPool σ n) Error Unit := do
  let p ← get
  let pageId ← lift
    (orError (p.frames k).core.pageId invalidFrameState.intoAndromedaError)
  onCore k beginEviction
  modify fun p => { p with pageTable := Function.update p.pageTable pageId none }
  onTracker fun tracker => tracker.markClean pageId
  onFrame k finishEviction

def reusableFrameIndex : Effect (BufferPool σ n) Error (Fin n) := do
  let p ← get
  match (List.finRange n).find? fun k => (p.frames k).core.state = .free with
  | some k => pure k
  | none => do
    let k ← selectVictim
    evict k
    pure k

def checkNotResident (pageId : PageId) : Effect (BufferPool σ n) Error Unit := do
  let p ← get
  lift (failIf (p.pageTable pageId).isSome (pageTableConflict pageId).intoAndromedaError)

def admitImage (image : PageImage) : Effect (BufferPool σ n) Error (Fin n) := do
  let p ← get
  let pageId ← lift (validateImageForPool image p.pageSize)
  checkNotResident pageId
  let k ← reusableFrameIndex
  let p ← get
  let frame ← lift (withImage (p.frames k).core.id image)
  modify fun p => { p with
    frames := Function.update p.frames k frame
    pageTable := Function.update p.pageTable pageId (some k) }
  pure k

def readImage (pageId : PageId) : Effect (BufferPool σ n) Error PageImage := do
  let p ← get
  let found ← lift (PageStore.readPage p.store pageId)
  let image ← lift
    (orError found (pageNotFound pageId).intoAndromedaError)
  lift (failIf (image.pageId ≠ some pageId) invalidPageImage.intoAndromedaError)
  pure image

def ensureResident (pageId : PageId) : Effect (BufferPool σ n) Error (Fin n) := do
  lift (validatePageIdValue pageId)
  let p ← get
  match p.pageTable pageId with
  | some k => pure k
  | none => do
    let image ← readImage pageId
    admitImage image

def allocateResidentFrame (layout : PageLayoutContract) : Effect (BufferPool σ n) Error (Fin n) := do
  lift (checkLayout layout)
  let p ← get
  lift (failIf (layout.header.pageSize ≠ p.pageSize) pageSizeMismatch.intoAndromedaError)
  lift (validatePageIdValue layout.header.pageId)
  checkNotResident layout.header.pageId
  let image ← onStore (PageStore.allocatePage layout layout.header.pageLsn)
  admitImage image

/-- What a holder of a mutable guard does with it. -/
inductive GuardAction where
  | markDirty (dirtyLsn : Lsn)
  /-- `dirty_image_mut`, and the image the caller puts through the reference. -/
  | dirtyImageMut (dirtyLsn : Lsn) (image : PageImage)

/-- `mark_dirty` of the frame and then of the tracker. A frame without a page, which neither
caller can meet after the first step, is passed over by a guard and an error in `unpin_page`. -/
def markDirty (k : Fin n) (dirtyLsn : Lsn) (noPage : Result Unit) :
    Effect (BufferPool σ n) Error Unit := do
  onCore k (BufferFrameCore.markDirty dirtyLsn)
  let p ← get
  match (p.frames k).core.pageId with
  | some pageId => onTracker fun tracker => tracker.markDirty pageId dirtyLsn
  | none => lift noPage

section

variable (k : Fin n)

def guardMarkDirty (dirtyLsn : Lsn) : Effect (BufferPool σ n) Error Unit :=
  markDirty k dirtyLsn (.ok ())

/-- One use of the guard; the reference is to the image in the frame, if there is one. -/
def guardAction : GuardAction → Effect (BufferPool σ n) Error Unit
  | .markDirty dirtyLsn => guardMarkDirty k dirtyLsn
  | .dirtyImageMut dirtyLsn image => do
    guardMarkDirty k dirtyLsn
    onFrame k (modify fun f => { f with image := f.image.map fun _ => image })

def guardActions (p : BufferPool σ n) (actions : List GuardAction) : BufferPool σ n :=
  actions.foldl (fun p action => (guardAction k action p).2) p

/-- The guard goes out of scope, or is leaked with its pin. -/
def dropGuard (dropped : Bool) (p : BufferPool σ n) : BufferPool σ n :=
  if dropped then (onCore k unpin p).2 else p

/-- Pin a frame and read the image through the guard. -/
def pinned : Effect (BufferPool σ n) Error (Option PageImage) := do
  onCore k pin
  let p ← get
  pure (p.frames k).image

end

def fetch (pageId : PageId) : Effect (BufferPool σ n) Error (Fin n × Option PageImage) := do
  let k ← ensureResident pageId
  let image ← pinned k
  pure (k, image)

def newPage (layout : PageLayoutContract) :
    Effect (BufferPool σ n) Error (Fin n × Option PageImage) := do
  let k ← allocateResidentFrame layout
  let image ← pinned k
  pure (k, image)

/-- The trait's `pin_page`: the pin stays until `unpin_page`. -/
def pinPage (pageId : PageId) : Effect (BufferPool σ n) Error Nat := do
  let k ← ensureResident pageId
  onCore k pin
  let p ← get
  pure (p.frames k).core.id

/-- The trait's `new_page`, which also leaves its pin. -/
def newPageFrame (layout : PageLayoutContract) : Effect (BufferPool σ n) Error (PageId × Nat) := do
  let k ← allocateResidentFrame layout
  onCore k pin
  let p ← get
  pure (layout.header.pageId, (p.frames k).core.id)

def useGuard (actions : List GuardAction) (dropped : Bool)
    (answer : Except Error (Fin n × Option PageImage) × BufferPool σ n) :
    Except Error (Option PageImage) × BufferPool σ n :=
  match answer with
  | (.error err, p) => (.error err, p)
  | (.ok (k, image), p) => (.ok image, dropGuard k dropped (guardActions k p actions))

def unpinMarkDirty (k : Fin n) : Option Lsn → Effect (BufferPool σ n) Error Unit
  | some dirtyLsn =>
    markDirty k dirtyLsn (.error invalidFrameState.intoAndromedaError)
  | none => pure ()

def unpinPage (frameId : Nat) (dirtyLsn : Option Lsn) : Effect (BufferPool σ n) Error Unit := do
  lift (validateFrameId frameId)
  if h : frameId - 1 < n then do
    unpinMarkDirty ⟨frameId - 1, h⟩ dirtyLsn
    onCore ⟨frameId - 1, h⟩ unpin
  else lift (.error (invalidFrameId frameId).intoAndromedaError)

structure FlushBlockedFrame where
  pageId : PageId
  firstDirtyLsn : Lsn
  lastDirtyLsn : Lsn
  maxDurableLsn : Lsn
deriving DecidableEq

inductive FlushOutcome where
  | blocked (frame : FlushBlockedFrame)
  | frameNotResident
  | framePinned (pinCount : Nat)
  | noImage
  | beginRejected (err : Error)
  | writeFailed (err : Error)
  | abortRejected (err : Error)
  | finishRejected (err : Error)
  | markCleanFailed (err : Error)
  | flushed
deriving DecidableEq

structure PageWrite where
  image : PageImage
  durableLsn : Lsn

/-- The flush of one candidate: its outcome, and the call of the store if there was one. -/
structure CandidateFlush where
  pageId : PageId
  outcome : FlushOutcome
  wrote : Option PageWrite

/-- The `WalDurabilityObserver` trait. A flush calls it many times and it may answer each
call differently; the first argument counts the calls made before. -/
structure WalDurabilityObserver where
  isDurable : Nat → Lsn → Bool
  maxDurableLsn : Nat → Lsn

/-- An observer of one durable LSN, which it reports as `report i` when called the `i`-th time. -/
def WalDurabilityObserver.reporting (report : Nat → Lsn) : WalDurabilityObserver :=
  ⟨fun i lsn => lsn ≤ report i, report⟩

inductive FlushReadiness where
  | ready
  | blocked (frame : FlushBlockedFrame)

/-- The gate, which calls the observer twice. -/
def classifyFlushCandidate (c : DirtyFlushCandidate) (observer : WalDurabilityObserver) (i : Nat) :
    FlushReadiness :=
  let maxDurableLsn := observer.maxDurableLsn i
  if observer.isDurable (i + 1) c.lastDirtyLsn ∧ c.lastDirtyLsn ≤ maxDurableLsn then .ready
  else .blocked ⟨c.pageId, c.firstDirtyLsn, c.lastDirtyLsn, maxDurableLsn⟩

/-- After `begin_flush` the image is written, and the frame made clean or put back. -/
def writeBack (k : Fin n) (c : DirtyFlushCandidate) (image : PageImage) (durableLsn : Lsn)
    (p : BufferPool σ n) : FlushOutcome × BufferPool σ n :=
  match onStore (PageStore.writePage image durableLsn) p with
  | (.error err, p) =>
    match onCore k abortFlush p with
    | (.error err, p) => (.abortRejected err, p)
    | (.ok (), p) => (.writeFailed err, p)
  | (.ok (), p) =>
    match onCore k (finishFlush c.lastDirtyLsn) p with
    | (.error err, p) => (.finishRejected err, p)
    | (.ok (), p) =>
      match onTracker (fun tracker => tracker.markClean c.pageId) p with
      | (.error err, p) => (.markCleanFailed err, p)
      | (.ok (), p) => (.flushed, p)

def flushReady (c : DirtyFlushCandidate) (durableLsn : Lsn) (p : BufferPool σ n) :
    CandidateFlush × BufferPool σ n :=
  match p.pageTable c.pageId with
  | none => (⟨c.pageId, .frameNotResident, none⟩, p)
  | some k =>
    if (p.frames k).core.pinCount ≠ 0 then
      (⟨c.pageId, .framePinned (p.frames k).core.pinCount, none⟩, p)
    else
      match (p.frames k).image with
      | none => (⟨c.pageId, .noImage, none⟩, p)
      | some image =>
        match onCore k beginFlush p with
        | (.error err, p) => (⟨c.pageId, .beginRejected err, none⟩, p)
        | (.ok (), p) =>
          let written := writeBack k c image durableLsn p
          (⟨c.pageId, written.1, some ⟨image, durableLsn⟩⟩, written.2)

/-- One turn of a flush loop, after `i` calls of the observer; past the gate it is called once
more, for the durable LSN handed to the store. -/
def flushCandidate (observer : WalDurabilityObserver) (i : Nat) (c : DirtyFlushCandidate)
    (p : BufferPool σ n) : CandidateFlush × Nat × BufferPool σ n :=
  match classifyFlushCandidate c observer i with
  | .blocked frame => (⟨c.pageId, .blocked frame, none⟩, i + 2, p)
  | .ready =>
    let turn := flushReady c (observer.maxDurableLsn (i + 2)) p
    (turn.1, i + 3, turn.2)

/-- The loop of both flush functions, which ends early at an outcome that stops it. -/
def flushLoop (stops : FlushOutcome → Bool) (observer : WalDurabilityObserver) :
    List DirtyFlushCandidate → Nat → BufferPool σ n → List CandidateFlush × BufferPool σ n
  | [], _, p => ([], p)
  | c :: cs, i, p =>
    let turn := flushCandidate observer i c p
    if stops turn.1.outcome then ([turn.1], turn.2.2)
    else
      let rest := flushLoop stops observer cs turn.2.1 turn.2.2
      (turn.1 :: rest.1, rest.2)

def FlushOutcome.error? : FlushOutcome → Option Error
  | .blocked _ | .flushed => none
  | .frameNotResident => some invalidFrameState.intoAndromedaError
  | .framePinned _ => some allFramesPinned.intoAndromedaError
  | .noImage => some invalidPageImage.intoAndromedaError
  | .beginRejected err | .writeFailed err | .abortRejected err | .finishRejected err
  | .markCleanFailed err => some err

section

variable (observer : WalDurabilityObserver) (p : BufferPool σ n)

/-- The turns of `flush_dirty_frames`, which returns at the first error. -/
def flushDirtyTurns : List CandidateFlush × BufferPool σ n :=
  flushLoop (fun outcome => (FlushOutcome.error? outcome).isSome) observer
    p.dirtyTracker.flushCandidates 0 p

/-- The turns of `flush_all_dirty_with_report`, which goes on past errors. -/
def flushAllTurns : List CandidateFlush × BufferPool σ n :=
  flushLoop (fun _ => false) observer p.dirtyTracker.flushCandidates 0 p

def flushedCount (turns : List CandidateFlush) : Nat :=
  turns.countP fun turn => turn.outcome = .flushed

def flushDirtyFrames : Result Nat × BufferPool σ n :=
  let turns := flushDirtyTurns observer p
  (match turns.1.findSome? fun turn => FlushOutcome.error? turn.outcome with
    | some err => .error err
    | none => .ok (flushedCount turns.1),
    turns.2)

inductive FlushStorageOperation where
  | pageStoreWrite
  | dirtyTrackerMarkClean
deriving DecidableEq

inductive FlushError where
  | frameNotResident (pageId : PageId)
  | framePinned (pageId : PageId) (pinCount : Nat)
  | storageError (pageId : PageId) (operation : FlushStorageOperation) (message : String)
  | invalidFrameState (pageId : PageId)
  | invalidPageImage (pageId : PageId)

structure FlushAllDirtyResult where
  flushed : Nat
  blockedByWalDurability : List FlushBlockedFrame
  errors : List FlushError

def CandidateFlush.blocked? (turn : CandidateFlush) : Option FlushBlockedFrame :=
  match turn.outcome with
  | .blocked frame => some frame
  | _ => none

def CandidateFlush.flushError? (turn : CandidateFlush) : Option FlushError :=
  match turn.outcome with
  | .blocked _ | .flushed => none
  | .frameNotResident => some (.frameNotResident turn.pageId)
  | .framePinned pinCount => some (.framePinned turn.pageId pinCount)
  | .noImage => some (.invalidPageImage turn.pageId)
  | .writeFailed err => some (.storageError turn.pageId .pageStoreWrite err.message)
  | .markCleanFailed _ => some (.storageError turn.pageId .dirtyTrackerMarkClean
      s!"failed to mark page {turn.pageId} clean after flush")
  | .beginRejected _ | .abortRejected _ | .finishRejected _ =>
    some (.invalidFrameState turn.pageId)

def flushAllDirtyWithReport : FlushAllDirtyResult × BufferPool σ n :=
  let turns := flushAllTurns observer p
  (⟨flushedCount turns.1, turns.1.filterMap CandidateFlush.blocked?,
    turns.1.filterMap CandidateFlush.flushError?⟩, turns.2)

end

/-- The trait's `flush_all_dirty`, which has no observer and never writes. -/
def flushAllDirty (p : BufferPool σ n) : Result Unit :=
  failIf (!p.dirtyTracker.isEmpty) walDurabilityRequired.intoAndromedaError

end BufferPool

end Andromeda
