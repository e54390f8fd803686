import Andromeda.Lib.Effect
import Andromeda.Recovery.ReplayContext
import Mathlib.Data.List.Infix

/-!
# Record handlers

One handler per record kind: transaction and boundary markers are skipped, row
records go to the heap pages, index records leave rebuild evidence, manifest
switches move the active manifest, and the kinds without a redo format report that
they are not promoted.
-/

namespace Andromeda

open Fallible LittleEndian Effect

def containsText (message pattern : String) : Bool :=
  decide (pattern.toList <:+: message.toList)

/-! ## Kinds without a promoted redo format -/

section

variable (record : WalRecord)

def deferredHandler (kind : WalRecordKind) : ReplayResult :=
  .deferred record.lsn kind

def pageRecordPromotionGate (kind : WalRecordKind) (missingContract : String) : ReplayResult :=
  .failed record.lsn kind (kind.debugName ++ " recovery handler is not promoted; "
    ++ missingContract
    ++ ". Recovery must fail closed instead of inferring a durable page WAL payload format; payload decoding and idempotent apply semantics must be implemented before records of this type can replay.")

def replayPageAllocate : ReplayResult :=
  pageRecordPromotionGate record .pageAllocate
    "no durable PageAllocate payload schema or page-inventory apply target is defined"

def replayPageFormat : ReplayResult :=
  pageRecordPromotionGate record .pageFormat
    "no durable PageFormat payload schema or page-initialization apply target is defined"

end

structure BTreeKeyFormatIdentity where
  major : UInt32
  minor : UInt32
  codecVersion : UInt8
  maxKeySize : UInt16

namespace BTreeKeyFormatIdentity

def display (f : BTreeKeyFormatIdentity) : String :=
  s!"BTreeKeyFormat(v{f.major}.{f.minor}, codec={f.codecVersion}, max_key={f.maxKeySize})"

def validateParts (f : BTreeKeyFormatIdentity) : Except String Unit := do
  failIf (f.major = 0 ∧ f.minor = 0) "B-Tree key format version 0.0 is reserved"
  failIf (f.maxKeySize = 0) "B-Tree key format max_key_size must not be zero"

def tryNew (major minor : UInt32) (codecVersion : UInt8) (maxKeySize : UInt16) :
    Except String BTreeKeyFormatIdentity := do
  validateParts ⟨major, minor, codecVersion, maxKeySize⟩
  pure ⟨major, minor, codecVersion, maxKeySize⟩

end BTreeKeyFormatIdentity

inductive BTreeOperationType where
  | lookup
  | rangeScan
  | insert
  | delete
  | split
  | merge
deriving DecidableEq

namespace BTreeOperationType

def isReadOnly : BTreeOperationType → Bool
  | lookup | rangeScan => true
  | _ => false

def name : BTreeOperationType → String
  | lookup => "lookup"
  | rangeScan => "range_scan"
  | insert => "insert"
  | delete => "delete"
  | split => "split"
  | merge => "merge"

end BTreeOperationType

structure KeyV1FormatGate where
  storageVersionMajor : UInt32
  storageVersionMinor : UInt32
  keyFormat : BTreeKeyFormatIdentity

namespace KeyV1FormatGate

def validateFormatSupported (g : KeyV1FormatGate) : Except String Unit := do
  g.keyFormat.validateParts
  failIf (g.keyFormat.major ≠ 1)
    s!"B-Tree format major version {g.keyFormat.major} not supported. This database only supports v1.x formats (KeyV1). Format details: {g.keyFormat.display}. Recovery mode: ForensicStart (read-only) only. For compatibility details, see DEC-038."
  failIf (g.storageVersionMajor ≠ g.keyFormat.major)
    s!"B-Tree storage format version {g.storageVersionMajor}.{g.storageVersionMinor} is incompatible with index key format {g.keyFormat.major}.{g.keyFormat.minor}. Recovery mode: ForensicStart (read-only) only. For compatibility details, see DEC-038."
  failIf (g.keyFormat.codecVersion ≠ 1)
    s!"B-Tree codec version {g.keyFormat.codecVersion} not supported. Expected codec version 1 (KeyV1 order-preserving encoding). Format details: {g.keyFormat.display}. Possible causes: Future codec version, or corrupted format metadata. See DEC-038 and btree_key_codec.rs for details."

def validateOperation (g : KeyV1FormatGate) (operation : BTreeOperationType) :
    Except String Unit := do
  g.validateFormatSupported
  failIf (operation.isReadOnly = false)
    s!"B-Tree mutation '{operation.name}' is not promoted for durable page-backed indexes. See DEC-038 for rationale. Index format: {g.keyFormat.display}. If you believe this is an error, escalate to Release Governance."

end KeyV1FormatGate

structure IndexRecoveryPayload where
  keyFormat : BTreeKeyFormatIdentity
  operation : BTreeOperationType
  indexId : UInt64

/-- The bytes `IDXRBV1\0`. -/
def indexRebuildPayloadMagic : Bytes := [73, 68, 88, 82, 66, 86, 49, 0]

def indexOperationTagForKind : WalRecordKind → Nat
  | .indexInsert => 1
  | .indexDelete => 2
  | .bTreeInsert => 3
  | .bTreeDelete => 4
  | .bTreeSplit => 5
  | .bTreeMerge => 6
  | _ => 0

def indexOperationFromTag : Nat → Option BTreeOperationType
  | 1 | 3 => some .insert
  | 2 | 4 => some .delete
  | 5 => some .split
  | 6 => some .merge
  | _ => none

def parseIndexRecoveryPayload (bytes : Bytes) (kind : WalRecordKind) :
    Except String IndexRecoveryPayload := do
  failIf (bytes.length ≠ 28) s!"expected 28 bytes, got {bytes.length}"
  failIf (bytes.take 8 ≠ indexRebuildPayloadMagic) "missing IDXRBV1 recovery envelope magic"
  let major := UInt32.ofNat (field bytes 8 4)
  let minor := UInt32.ofNat (field bytes 12 4)
  let codecVersion := UInt8.ofNat (field bytes 16 1)
  let operationTag := field bytes 17 1
  let maxKeySize := UInt16.ofNat (field bytes 18 2)
  let indexId := UInt64.ofNat (field bytes 20 8)
  let operation ← orError (indexOperationFromTag operationTag)
    s!"unknown index recovery operation tag {operationTag}"
  failIf (operationTag ≠ indexOperationTagForKind kind)
    s!"operation tag {operationTag} does not match record kind {kind.debugName}"
  failIf (indexId = 0) "index_id must not be zero"
  let keyFormat ← BTreeKeyFormatIdentity.tryNew major minor codecVersion maxKeySize
  pure ⟨keyFormat, operation, indexId⟩

def validateIndexRecoveryFormat (f : BTreeKeyFormatIdentity) : Option String :=
  if f.major ≠ 1 then
    some s!"B-Tree recovery format major version {f.major} is not supported for inline replay or rebuild evidence; format={f.display}"
  else if f.codecVersion ≠ 1 then
    some s!"B-Tree recovery codec version {f.codecVersion} is not supported for inline replay or rebuild evidence; format={f.display}"
  else none

/-- The three checks of `index_rebuild_handler` before it leaves evidence. -/
def checkIndexRecoveryPayload (record : WalRecord) (kind : WalRecordKind) :
    Except String IndexRecoveryPayload :=
  match parseIndexRecoveryPayload record.payload kind with
  | .error message => .error (kind.debugName ++ " recovery payload is malformed: " ++ message)
  | .ok payload =>
    match validateIndexRecoveryFormat payload.keyFormat with
    | some message => .error message
    | none =>
      match KeyV1FormatGate.validateOperation ⟨1, 0, payload.keyFormat⟩ payload.operation with
      | .error message =>
        if containsText message "not promoted" then .ok payload else .error message
      | .ok () => .ok payload

/-- Why an index record is not applied inline. -/
def indexRebuildReason (kind : WalRecordKind) : String :=
  kind.debugName
    ++ " recovery payload validated; durable B-Tree mutation format is not promoted, so recovery records index rebuild required instead of applying inline redo"

def indexRebuildEvidence (record : WalRecord) (kind : WalRecordKind)
    (payload : IndexRecoveryPayload) : IndexRebuildRequiredEvidence where
  lsn := record.lsn
  kind := kind
  transactionId := record.transactionId
  indexId := payload.indexId
  keyFormatMajor := payload.keyFormat.major
  keyFormatMinor := payload.keyFormat.minor
  codecVersion := payload.keyFormat.codecVersion
  maxKeySize := payload.keyFormat.maxKeySize
  payloadLen := record.payload.length
  payloadChecksum := record.header.checksum
  reason := indexRebuildReason kind

section

variable (ctx : ReplayContext) (record : WalRecord) (kind : WalRecordKind)

def indexRebuildHandler : ReplayResult × ReplayContext :=
  match checkIndexRecoveryPayload record kind with
  | .error message => (.failed record.lsn kind message, ctx)
  | .ok payload =>
    (.indexRebuildRequired record.lsn kind (indexRebuildReason kind),
      ctx.recordIndexRebuildRequired (indexRebuildEvidence record kind payload))

def heapRowRedoError (message : String) : ReplayResult :=
  .failed record.lsn kind (kind.debugName
    ++ " recovery handler is promoted only for durable HREDOV1 heap row redo payloads; unversioned or malformed heap WAL payloads are not promoted and recovery must fail closed: "
    ++ message)

def heapRowPayload : Except String HeapRowRedoPayloadV1 :=
  match record.validate with
  | .error e => .error ("WAL record validation failed: " ++ e.message)
  | .ok () => do
    let payload ← HeapRowRedoPayloadV1.decode record.payload kind
    failIf (payload.resultingPageLsn ≠ record.lsn)
      s!"resulting_page_lsn {payload.resultingPageLsn} must match WAL record LSN {record.lsn}"
    pure payload

def PageSize.debugName : PageSize → String
  | kiB16 => "KiB16"
  | kiB32 => "KiB32"

def replayHeapRowRecord : ReplayResult × ReplayContext :=
  match heapRowPayload record kind with
  | .error message => (heapRowRedoError record kind message, ctx)
  | .ok payload =>
    if payload.operation ≠ .insert ∧ ctx.heapRedoPages payload.pageId = none then
      (heapRowRedoError record kind
        s!"{payload.operation.debugName} requires an explicit heap page base state for page {payload.pageId}; the base must be snapshot-hydrated from cold system truth or redo-created by an earlier durable insert",
        ctx)
    else
      let page := ctx.heapRedoPageOrNew payload.pageId payload.pageSize
      -- a page created here stays in the context even when the row is refused
      let ctx := ctx.setHeapRedoPage page payload.pageId
      if page.pageSize ≠ payload.pageSize then
        (heapRowRedoError record kind
          s!"heap row redo page {payload.pageId} has size {page.pageSize.debugName}, payload declares {payload.pageSize.debugName}",
          ctx)
      else
        match page.applyRow payload with
        | .error e =>
          (.failed record.lsn kind (kind.debugName ++ " heap row redo failed: " ++ e.message),
            ctx)
        | .ok page' =>
          (.applied record.lsn kind, ctx.setHeapRedoPage page' payload.pageId)

structure ManifestSwitchPayload where
  manifestVersion : UInt64
  snapshotId : UInt64
  baseCheckpointLsn : Lsn
  requiredWalStartLsn : Lsn
  previousManifestHash : Bytes
  manifestCrc : UInt32

def parseManifestSwitchPayload (bytes : Bytes) : Result ManifestSwitchPayload := do
  failIf (bytes.length ≠ 68)
    (storageError "manifest switch payload length must be exactly 68 bytes")
  pure
    { manifestVersion := UInt64.ofNat (field bytes 0 8)
      snapshotId := UInt64.ofNat (field bytes 8 8)
      baseCheckpointLsn := UInt64.ofNat (field bytes 16 8)
      requiredWalStartLsn := UInt64.ofNat (field bytes 24 8)
      previousManifestHash := (bytes.drop 32).take 32
      manifestCrc := UInt32.ofNat (field bytes 64 4) }

/-- The checksum a manifest version is already known to have. -/
def ReplayContext.expectedManifestCrc (manifestVersion : UInt64) : Option UInt32 :=
  (ctx.knownManifestCrcByVersion manifestVersion).or
    ((ctx.activeManifest.filter fun m => m.manifestVersion = manifestVersion).map
      DatabaseManifest.manifestCrc)

/-- The guards of `replay_manifest_switch` in order; the first that fires gives the reason. -/
def manifestSwitchRejection (lsn : Lsn) (payload : ManifestSwitchPayload) : Option String :=
  if ∃ active ∈ ctx.activeManifest, payload.manifestVersion ≤ active.manifestVersion then
    some "regresses manifest version (must be strictly monotonically increasing)"
  else if payload.requiredWalStartLsn < payload.baseCheckpointLsn then
    some "required_wal_start_lsn precedes base_checkpoint_lsn"
  else if payload.baseCheckpointLsn > lsn then
    some "base_checkpoint_lsn exceeds manifest switch record LSN"
  else if ctx.requireCheckpointEndForManifestSwitch = true ∧ payload.baseCheckpointLsn ≠ 0 ∧
      ∀ checkpointLsn ∈ ctx.latestCheckpointEndLsn, checkpointLsn < payload.baseCheckpointLsn then
    some "base_checkpoint_lsn lacks durable checkpoint_end evidence"
  else if ∃ expected ∈ ctx.expectedManifestCrc payload.manifestVersion,
      expected ≠ payload.manifestCrc then
    some "manifest CRC mismatch"
  else none

/-- The manifest a switch installs. The payload carries no database id, so it is
inherited, with 1 for a bootstrap. -/
def nextManifest (active : Option DatabaseManifest) (payload : ManifestSwitchPayload) :
    DatabaseManifest where
  databaseId := (active.map DatabaseManifest.databaseId).getD 1
  manifestVersion := payload.manifestVersion
  snapshotId := payload.snapshotId
  baseCheckpointLsn := payload.baseCheckpointLsn
  requiredWalStartLsn := payload.requiredWalStartLsn
  previousManifestHash := payload.previousManifestHash
  manifestCrc := payload.manifestCrc
  segmentIndexFileId := 0
  btreeRootPageId := 0

def ReplayContext.pushTrace (trace : ManifestSwitchRecoveryTrace) : ReplayContext :=
  { ctx with manifestSwitchTraces := ctx.manifestSwitchTraces ++ [trace] }

def ReplayContext.installManifest (lsn : Lsn) (payload : ManifestSwitchPayload) : ReplayContext :=
  { ctx with
    knownManifestCrcByVersion := Function.update ctx.knownManifestCrcByVersion
      payload.manifestVersion (some payload.manifestCrc)
    activeManifest := some (nextManifest ctx.activeManifest payload)
    manifestSwitchTraces := ctx.manifestSwitchTraces ++
      [.applied lsn payload.manifestVersion payload.snapshotId payload.baseCheckpointLsn
        payload.requiredWalStartLsn] }

end

def replayManifestSwitch (record : WalRecord) : Effect ReplayContext Error ReplayResult := do
  let payload ← lift (parseManifestSwitchPayload record.payload)
  let ctx ← get
  match manifestSwitchRejection ctx record.lsn payload with
  | some reason => do
    modify fun ctx =>
      ctx.pushTrace (.validationFailed record.lsn payload.manifestVersion reason)
    pure (.skipped record.lsn .manifestSwitch)
  | none => do
    lift (nextManifest ctx.activeManifest payload).validate
    modify fun ctx => ctx.installManifest record.lsn payload
    pure (.applied record.lsn .manifestSwitch)

def replayHandler (record : WalRecord) : Effect ReplayContext Error ReplayResult := fun ctx =>
  match record.kind with
  | .pageAllocate => (.ok (replayPageAllocate record), ctx)
  | .pageFormat => (.ok (replayPageFormat record), ctx)
  | .rowInsert | .rowUpdate | .rowDelete =>
    let (result, ctx) := replayHeapRowRecord ctx record record.kind
    (.ok result, ctx)
  | .indexInsert | .indexDelete | .bTreeInsert | .bTreeDelete | .bTreeSplit | .bTreeMerge =>
    let (result, ctx) := indexRebuildHandler ctx record record.kind
    (.ok result, ctx)
  | .mvccVersionCreate | .mvccVersionClose | .mapDeltaAppend | .catalogChangeBegin
  | .catalogChangeApply | .catalogChangeCommit => (.ok (deferredHandler record record.kind), ctx)
  | .manifestSwitch => replayManifestSwitch record ctx
  | .checkpointEnd =>
    (.ok (.skipped record.lsn record.kind), ctx.observeCheckpointEnd record.lsn)
  | .txBegin | .txCommit | .txRollback | .checkpointBegin | .snapshotBegin | .snapshotEnd
  | .securityAuditAppend => (.ok (.skipped record.lsn record.kind), ctx)

def replayWalRecordResult (record : WalRecord) : Effect ReplayContext Error ReplayResult := do
  let result ← replayHandler record
  modify fun ctx => ctx.recordResult result
  match result.outcome.isError, result.error with
  | true, some message => lift (.error (storageError message))
  | _, _ => pure result

end Andromeda
