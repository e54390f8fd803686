import Andromeda.Manifest
import Andromeda.Recovery.HeapRedo

/-!
# Replay results and the replay context

What a handler reports about one record, and the state a replay session carries:
counters, deferred records, rebuild evidence, recovered heap pages and the active
manifest.
-/

namespace Andromeda

open Fallible

inductive ReplayOutcome where
  | applied
  | skipped
  | indexRebuildRequired
  | notYetImplemented
  | deprecated
deriving DecidableEq

def ReplayOutcome.isError : ReplayOutcome → Bool
  | notYetImplemented | deprecated => true
  | _ => false

structure ReplayResult where
  lsn : Lsn
  kind : WalRecordKind
  outcome : ReplayOutcome
  error : Option String

namespace ReplayResult

-- The constructor named `error` in the source is `failed` here.

def applied (lsn : Lsn) (kind : WalRecordKind) : ReplayResult := ⟨lsn, kind, .applied, none⟩

def skipped (lsn : Lsn) (kind : WalRecordKind) : ReplayResult := ⟨lsn, kind, .skipped, none⟩

def indexRebuildRequired (lsn : Lsn) (kind : WalRecordKind) (message : String) : ReplayResult :=
  ⟨lsn, kind, .indexRebuildRequired, some message⟩

def failed (lsn : Lsn) (kind : WalRecordKind) (message : String) : ReplayResult :=
  ⟨lsn, kind, .notYetImplemented, some message⟩

def deferred (lsn : Lsn) (kind : WalRecordKind) : ReplayResult :=
  failed lsn kind (kind.debugName ++ " recovery handler is not promoted; redo payload decoding and idempotent apply semantics must be implemented before records of this type can replay.")

end ReplayResult

structure IndexRebuildRequiredEvidence where
  lsn : Lsn
  kind : WalRecordKind
  transactionId : Option TransactionId
  indexId : UInt64
  keyFormatMajor : UInt32
  keyFormatMinor : UInt32
  codecVersion : UInt8
  maxKeySize : UInt16
  payloadLen : Nat
  payloadChecksum : UInt64
  reason : String

inductive ManifestSwitchRecoveryTrace where
  | applied (lsn : Lsn) (manifestVersion snapshotId : UInt64)
      (baseCheckpointLsn requiredWalStartLsn : Lsn)
  | validationFailed (lsn : Lsn) (manifestVersion : UInt64) (reason : String)
deriving DecidableEq

structure ReplayContext where
  lastReplayedLsn : Option Lsn
  appliedCount : Nat
  skippedCount : Nat
  errorRecords : List ReplayResult
  indexRebuildRequired : List IndexRebuildRequiredEvidence
  heapRedoPages : PageId → Option HeapRedoPageState
  activeManifest : Option DatabaseManifest
  knownManifestCrcByVersion : UInt64 → Option UInt32
  manifestSwitchTraces : List ManifestSwitchRecoveryTrace
  latestCheckpointEndLsn : Option Lsn
  requireCheckpointEndForManifestSwitch : Bool

namespace ReplayContext

def new : ReplayContext where
  lastReplayedLsn := none
  appliedCount := 0
  skippedCount := 0
  errorRecords := []
  indexRebuildRequired := []
  heapRedoPages := fun _ => none
  activeManifest := none
  knownManifestCrcByVersion := fun _ => none
  manifestSwitchTraces := []
  latestCheckpointEndLsn := none
  requireCheckpointEndForManifestSwitch := false

section

variable (ctx : ReplayContext)

def recordResult (result : ReplayResult) : ReplayContext :=
  match result.outcome with
  | .applied =>
    { ctx with lastReplayedLsn := some result.lsn, appliedCount := ctx.appliedCount + 1 }
  | .skipped | .indexRebuildRequired =>
    { ctx with lastReplayedLsn := some result.lsn, skippedCount := ctx.skippedCount + 1 }
  | .notYetImplemented | .deprecated =>
    { ctx with lastReplayedLsn := some result.lsn, errorRecords := ctx.errorRecords ++ [result] }

def recordIndexRebuildRequired (evidence : IndexRebuildRequiredEvidence) : ReplayContext :=
  { ctx with indexRebuildRequired := ctx.indexRebuildRequired ++ [evidence] }

def observeCheckpointEnd (lsn : Lsn) : ReplayContext :=
  match ctx.latestCheckpointEndLsn with
  | none => { ctx with latestCheckpointEndLsn := some lsn }
  | some current =>
    if lsn > current then { ctx with latestCheckpointEndLsn := some lsn } else ctx

def requireManifestSwitchCheckpointEvidence : ReplayContext :=
  { ctx with requireCheckpointEndForManifestSwitch := true }

def setHeapRedoPage (page : HeapRedoPageState) (pageId : PageId) : ReplayContext :=
  { ctx with heapRedoPages := Function.update ctx.heapRedoPages pageId (some page) }

def hydrateHeapRedoPageFromSnapshot (pageId : PageId) (pageSize : PageSize) (pageLsn : Lsn)
    (liveSlots : List (UInt16 × Bytes)) :
    Result ReplayContext := do
  failIf (ctx.heapRedoPages pageId ≠ none) (storageError
    s!"heap redo page {pageId} already has replay state; snapshot hydration must happen before WAL replay touches the page")
  let page ← HeapRedoPageState.snapshotHydrated pageId pageSize pageLsn liveSlots
  pure (ctx.setHeapRedoPage page pageId)

/-- The page `heap_redo_page_mut_or_insert` hands out, existing or fresh. -/
def heapRedoPageOrNew (pageId : PageId) (pageSize : PageSize) : HeapRedoPageState :=
  (ctx.heapRedoPages pageId).getD (.redoCreated pageId pageSize)

end

/-! Recording a result moves the counters only. -/

section RecordResult

variable (ctx : ReplayContext) (result : ReplayResult)

@[simp] theorem recordResult_heapRedoPages :
    (ctx.recordResult result).heapRedoPages = ctx.heapRedoPages := by
  unfold recordResult
  split <;> rfl

@[simp] theorem recordResult_activeManifest :
    (ctx.recordResult result).activeManifest = ctx.activeManifest := by
  unfold recordResult
  split <;> rfl

@[simp] theorem recordResult_knownManifestCrcByVersion :
    (ctx.recordResult result).knownManifestCrcByVersion = ctx.knownManifestCrcByVersion := by
  unfold recordResult
  split <;> rfl

@[simp] theorem recordResult_latestCheckpointEndLsn :
    (ctx.recordResult result).latestCheckpointEndLsn = ctx.latestCheckpointEndLsn := by
  unfold recordResult
  split <;> rfl

@[simp] theorem recordResult_requireCheckpointEnd :
    (ctx.recordResult result).requireCheckpointEndForManifestSwitch =
      ctx.requireCheckpointEndForManifestSwitch := by
  unfold recordResult
  split <;> rfl

@[simp] theorem recordResult_manifestSwitchTraces :
    (ctx.recordResult result).manifestSwitchTraces = ctx.manifestSwitchTraces := by
  unfold recordResult
  split <;> rfl

end RecordResult

@[simp] theorem setHeapRedoPage_heapRedoPages (ctx : ReplayContext) (page : HeapRedoPageState)
    (pageId : PageId) : (ctx.setHeapRedoPage page pageId).heapRedoPages =
      Function.update ctx.heapRedoPages pageId (some page) := rfl

end ReplayContext

end Andromeda
