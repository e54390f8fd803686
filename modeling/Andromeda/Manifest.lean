import Andromeda.Basic
import Andromeda.Lib.LittleEndian

/-!
# Database manifests and the storage format gate

A manifest says where recovery starts. Before redo, recovery builds the storage
format manifest of the database and refuses formats it cannot read. The formats a
manifest announces are fixed, so the gate lets a manifest through exactly when the
manifest itself is valid (`validateRecoveryStorageFormats_eq_ok`).
-/

namespace Andromeda

open Fallible LittleEndian

/-- `DatabaseManifest`; the hash is a byte string of the source's 32 bytes. -/
structure DatabaseManifest where
  databaseId : UInt64
  manifestVersion : UInt64
  snapshotId : UInt64
  baseCheckpointLsn : Lsn
  requiredWalStartLsn : Lsn
  previousManifestHash : Bytes
  manifestCrc : UInt32
  segmentIndexFileId : UInt64
  btreeRootPageId : UInt64
deriving DecidableEq

open DatabaseManifest

def DatabaseManifest.validate (m : DatabaseManifest) : Result Unit := do
  failIf (m.databaseId = 0 ∨ m.manifestVersion = 0 ∨ m.snapshotId = 0)
    (storageError "manifest identity fields must not be zero")
  failIf (m.requiredWalStartLsn < m.baseCheckpointLsn)
    (storageError "manifest required WAL start LSN must not precede checkpoint LSN")
  failIf (m.manifestCrc = 0) (storageError "manifest CRC must not be zero")

inductive StartupMode where
  | fastStart
  | safeStart
  | forensicStart
deriving DecidableEq

structure FormatVersion where
  major : UInt32
  minor : UInt32

def FormatVersion.v1_0 : FormatVersion := ⟨1, 0⟩

inductive CompatibilityResult where
  | fullyCompatible
  | backwardCompatible
  | incompatible

def FormatVersion.compatibilityWith (reader writer : FormatVersion) : CompatibilityResult :=
  if reader.major ≠ writer.major then .incompatible
  else if reader.minor > writer.minor then .backwardCompatible
  else if reader.minor = writer.minor then .fullyCompatible
  else .incompatible

/-- `CompatibilityMatrix::new(reader).can_read(writer).is_ok()`. -/
def FormatVersion.canRead (reader writer : FormatVersion) : Bool :=
  match reader.compatibilityWith writer with
  | .fullyCompatible | .backwardCompatible => true
  | .incompatible => false

inductive StorageFormatKind where
  | page
  | heapPage
  | bTreeKey
  | bTreeNode
  | walRecord
  | walPayload
  | manifest
  | segment
  | checkpoint
deriving DecidableEq

namespace StorageFormatKind

def currentVersion : StorageFormatKind → FormatVersion := fun _ => .v1_0

def name : StorageFormatKind → String
  | page => "Page"
  | heapPage => "Heap Page"
  | bTreeKey => "B-Tree Key"
  | bTreeNode => "B-Tree Node"
  | walRecord => "WAL Record"
  | walPayload => "WAL Payload"
  | manifest => "Backup Manifest"
  | segment => "WAL Segment"
  | checkpoint => "Checkpoint"

def tag : StorageFormatKind → UInt64
  | page => 1
  | heapPage => 2
  | bTreeKey => 3
  | bTreeNode => 4
  | walRecord => 5
  | walPayload => 6
  | manifest => 7
  | segment => 8
  | checkpoint => 9

end StorageFormatKind

structure StorageFormatFingerprint where
  kind : StorageFormatKind
  version : FormatVersion

def databaseManifestStorageFormatFingerprints : List StorageFormatFingerprint :=
  [⟨.page, .v1_0⟩, ⟨.heapPage, .v1_0⟩, ⟨.bTreeKey, .v1_0⟩, ⟨.bTreeNode, .v1_0⟩,
    ⟨.walPayload, .v1_0⟩]

def recoveryRequiredStorageFormats : List StorageFormatKind :=
  [.page, .heapPage, .bTreeKey, .bTreeNode, .walPayload]

structure HashLanes where
  lane0 : UInt64
  lane1 : UInt64
  lane2 : UInt64
  lane3 : UInt64

def mixHashLane (lane value : UInt64) : UInt64 :=
  let mixed := lane ^^^ (value * 0x9e3779b97f4a7c15)
  ((mixed <<< 27) ||| (mixed >>> 37)) * 0x94d049bb133111eb

def StorageFormatFingerprint.word (f : StorageFormatFingerprint) : UInt64 :=
  f.kind.tag ^^^ (f.version.major.toUInt64 <<< 32) ^^^ f.version.minor.toUInt64

def HashLanes.absorb (l : HashLanes) (f : StorageFormatFingerprint) : HashLanes :=
  { lane0 := mixHashLane l.lane0 f.kind.tag
    lane1 := mixHashLane l.lane1 f.version.major.toUInt64
    lane2 := mixHashLane l.lane2 f.version.minor.toUInt64
    lane3 := mixHashLane l.lane3 f.word }

def hashLanes (databaseId manifestVersion snapshotId : UInt64)
    (fingerprints : List StorageFormatFingerprint) : HashLanes :=
  fingerprints.foldl HashLanes.absorb
    { lane0 := mixHashLane 0x9e3779b97f4a7c15 databaseId
      lane1 := mixHashLane 0xc2b2ae3d27d4eb4f manifestVersion
      lane2 := mixHashLane 0x165667b19e3779f9 snapshotId
      lane3 := mixHashLane 0x85ebca77c2b2ae63 (UInt64.ofNat fingerprints.length) }

def storageFormatManifestHash (databaseId manifestVersion snapshotId : UInt64)
    (fingerprints : List StorageFormatFingerprint) : Bytes :=
  let l := hashLanes databaseId manifestVersion snapshotId fingerprints
  encode 8 l.lane0.toNat ++ encode 8 l.lane1.toNat ++
    encode 8 l.lane2.toNat ++ encode 8 l.lane3.toNat

structure StorageFormatManifest where
  databaseId : UInt64
  manifestVersion : UInt64
  snapshotId : UInt64
  fingerprints : List StorageFormatFingerprint
  fingerprintHash : Bytes

def validateFingerprints (before : List StorageFormatFingerprint) :
    List StorageFormatFingerprint → Result Unit
  | [] => .ok ()
  | f :: rest => do
    failIf (f.version.major = 0 ∧ f.version.minor = 0)
      (storageError "storage format manifest fingerprint version must not be zero")
    failIf (∃ previous ∈ before, previous.kind = f.kind)
      (storageError "storage format manifest must not duplicate format fingerprints")
    validateFingerprints (before ++ [f]) rest

def StorageFormatManifest.validate (m : StorageFormatManifest) : Result Unit := do
  failIf (m.databaseId = 0 ∨ m.manifestVersion = 0 ∨ m.snapshotId = 0)
    (storageError "storage format manifest identity fields must not be zero")
  failIf (m.fingerprints = [])
    (storageError "storage format manifest must carry durable format fingerprints")
  failIf (m.fingerprintHash = List.replicate 32 0)
    (storageError "storage format manifest fingerprint hash must not be zero")
  validateFingerprints [] m.fingerprints
  failIf (m.fingerprintHash ≠ storageFormatManifestHash m.databaseId m.manifestVersion
      m.snapshotId m.fingerprints)
    (storageError "storage format manifest fingerprint hash mismatch")

def DatabaseManifest.storageFormatManifest (m : DatabaseManifest) :
    Result StorageFormatManifest := do
  m.validate
  pure
    { databaseId := m.databaseId
      manifestVersion := m.manifestVersion
      snapshotId := m.snapshotId
      fingerprints := databaseManifestStorageFormatFingerprints
      fingerprintHash := storageFormatManifestHash m.databaseId m.manifestVersion m.snapshotId
        databaseManifestStorageFormatFingerprints }

inductive PreRedoStorageFormatRejection where
  | unknown (kind : StorageFormatKind)
  | unsupported (kind : StorageFormatKind) (observed reader : FormatVersion)
  | forensicReportRequired (kind : StorageFormatKind)

namespace PreRedoStorageFormatRejection

def kind : PreRedoStorageFormatRejection → StorageFormatKind
  | unknown kind => kind
  | unsupported kind _ _ => kind
  | forensicReportRequired kind => kind

def message : PreRedoStorageFormatRejection → String
  | unknown kind =>
    "unknown storage subformat `" ++ kind.name ++ "` must be rejected before redo"
  | unsupported kind observed reader =>
    "unsupported storage subformat `" ++ kind.name ++ "` version " ++ toString observed.major ++
      "." ++ toString observed.minor ++ " for reader " ++ toString reader.major ++ "." ++
      toString reader.minor ++ " must be rejected before redo"
  | forensicReportRequired kind =>
    "ForensicStart requires a forensic report before opening unknown or unsupported `" ++
      kind.name ++ "` without replay"

end PreRedoStorageFormatRejection

def firstFormatRejection (observedFormats : List StorageFormatFingerprint) :
    List StorageFormatKind → Option PreRedoStorageFormatRejection
  | [] => none
  | required :: rest =>
    match observedFormats.find? fun observed => observed.kind = required with
    | none => some (.unknown required)
    | some observed =>
      if required.currentVersion.canRead observed.version then
        firstFormatRejection observedFormats rest
      else some (.unsupported required observed.version required.currentVersion)

/-- `PreRedoStorageFormatGate::validate_replay`: no forensic report is attached here,
so a rejection always stops redo. -/
def validateReplayFormats (mode : StartupMode) (required : List StorageFormatKind)
    (observed : List StorageFormatFingerprint) : Result Unit :=
  match firstFormatRejection observed required with
  | none => .ok ()
  | some reason =>
    if mode = .forensicStart then
      .error (storageError
        (PreRedoStorageFormatRejection.forensicReportRequired reason.kind).message)
    else .error (storageError reason.message)

def DatabaseManifest.validateRecoveryStorageFormats (m : DatabaseManifest) (mode : StartupMode) :
    Result Unit := do
  let formats ← m.storageFormatManifest
  formats.validate
  validateReplayFormats mode recoveryRequiredStorageFormats formats.fingerprints

variable {m : DatabaseManifest} {u : Unit}

theorem DatabaseManifest.validate_eq_ok :
    m.validate = .ok u ↔ (m.databaseId ≠ 0 ∧ m.manifestVersion ≠ 0 ∧ m.snapshotId ≠ 0) ∧
      m.baseCheckpointLsn ≤ m.requiredWalStartLsn ∧ m.manifestCrc ≠ 0 := by
  simp [validate]

theorem lane3_absorb (l : HashLanes) (fingerprints : List StorageFormatFingerprint) :
    (fingerprints.foldl HashLanes.absorb l).lane3 =
      fingerprints.foldl (fun lane f => mixHashLane lane f.word) l.lane3 := by
  induction fingerprints generalizing l with
  | nil => rfl
  | cons f fingerprints ih => exact ih (l.absorb f)

/-- The last lane depends on the announced formats only, so the hash of a database
manifest is never the reserved all-zero one. -/
theorem storageFormatManifestHash_ne_zero (databaseId manifestVersion snapshotId : UInt64) :
    storageFormatManifestHash databaseId manifestVersion snapshotId
      databaseManifestStorageFormatFingerprints ≠ List.replicate 32 0 := by
  intro hzero
  have hconstant : databaseManifestStorageFormatFingerprints.foldl
      (fun lane f => mixHashLane lane f.word) (mixHashLane 0x85ebca77c2b2ae63 5) =
      768201721166073224 := by
    decide +kernel
  have hlane : (hashLanes databaseId manifestVersion snapshotId
      databaseManifestStorageFormatFingerprints).lane3 = 768201721166073224 := by
    rw [hashLanes, lane3_absorb]
    exact hconstant
  have hdrop := congrArg (List.drop 24) hzero
  rw [storageFormatManifestHash, List.drop_left' (by simp), hlane] at hdrop
  revert hdrop
  decide +kernel

theorem validateRecoveryStorageFormats_eq_ok {mode : StartupMode} :
    m.validateRecoveryStorageFormats mode = .ok u ↔ m.validate = .ok () := by
  have hfingerprints : validateFingerprints [] databaseManifestStorageFormatFingerprints =
      .ok () := by
    decide +kernel
  have hgate : validateReplayFormats mode recoveryRequiredStorageFormats
      databaseManifestStorageFormatFingerprints = .ok () := by
    cases mode <;> decide +kernel
  simp only [validateRecoveryStorageFormats, storageFormatManifest, StorageFormatManifest.validate, ok_iff, not_or]
  constructor
  · rintro ⟨formats, ⟨hvalid, -⟩, -⟩
    exact hvalid
  · intro hvalid
    refine ⟨_, ⟨hvalid, rfl⟩, ⟨(validate_eq_ok.mp hvalid).1,
      List.cons_ne_nil _ _, storageFormatManifestHash_ne_zero _ _ _, hfingerprints, rfl⟩, hgate⟩

end Andromeda
