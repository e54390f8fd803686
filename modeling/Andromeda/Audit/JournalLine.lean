import Andromeda.Audit.Record
import Andromeda.Lib.AsciiText

/-!
# Lines of the durable audit journal

A record is one line of text: a payload of labelled fields, the checksum of the line before, the
checksum of the chain up to this line and the checksum of the payload. The reader takes the
current and the previous version of the payload.
-/

namespace Andromeda.Audit

open Fallible AsciiText SecurityPolicyVersionEvidence
open Catalog (strBytes)

/-- `checksum64`: the first eight bytes of the digest, and never zero. -/
@[irreducible] def checksum64 (bytes : Bytes) : UInt64 :=
  let checksum :=
    UInt64.ofNat (((sha256 bytes).bytes.take 8).foldl (fun n b => 256 * n + b.toNat) 0)
  if checksum = 0 then 1 else checksum

theorem checksum64_ne_zero (bytes : Bytes) : checksum64 bytes ≠ 0 := by
  rw [checksum64]
  split
  · decide
  · assumption

/-- `{:016x}` of a `u64`. -/
def hexChecksum (checksum : UInt64) : Bytes := hex 16 checksum.toNat

def noneField : Bytes := strBytes "-"

def field (label : String) (value : Bytes) : Bytes := strBytes label ++ 61 :: value

section

variable (text : Bytes) (label : String)

def stripField : Except String Bytes :=
  if (field label []).isPrefixOf text then .ok (text.drop (field label []).length)
  else .error ("missing " ++ label ++ " field")

def parseHexChecksum : Except String UInt64 := do
  failIf (text.length ≠ 16 ∨ text.any (fun b => (digitValue 16 b).isNone) = true)
    (label ++ " field must be 16 ASCII hex characters")
  let value ← orError (readUnsigned 16 (2 ^ 64) text) (label ++ " field is not valid hex")
  pure (UInt64.ofNat value)

def parseU64Field : Except String UInt64 := do
  let digits ← stripField text label
  let value ← orError (readUnsigned 10 (2 ^ 64) digits) (label ++ " field is not a valid u64")
  pure (UInt64.ofNat value)

def parseUsizeField : Except String Nat := do
  let digits ← stripField text label
  orError (readUnsigned 10 (2 ^ 64) digits) (label ++ " field is not a valid usize")

def parseU128Field : Except String (BitVec 128) := do
  let digits ← stripField text label
  let value ← orError (readUnsigned 10 (2 ^ 128) digits) (label ++ " field is not a valid u128")
  pure (BitVec.ofNat 128 value)

end

def formatOptional {α : Type} (format : α → Bytes) : Option α → Bytes
  | none => noneField
  | some value => format value

def parseOptional {α : Type} (parse : Bytes → Except String α) (text : Bytes) :
    Except String (Option α) :=
  if text = noneField then .ok none else some <$> parse text

def parseOptionalU64 : Bytes → Except String (Option UInt64) :=
  parseOptional fun text => do
    let value ← orError (readUnsigned 10 (2 ^ 64) text) "optional integer field is not valid u64"
    pure (UInt64.ofNat value)

def encodeString (value : String) : Bytes := hexBytes (strBytes value)

def encodeOptionalString : Option String → Bytes := formatOptional encodeString

def decodeString (text : Bytes) : Except String String := do
  failIf (text.length % 2 ≠ 0) "hex string has odd length"
  let bytes ← orError (readHexBytes text) "hex string contains non-hex bytes"
  orError (String.fromUTF8? ⟨bytes.toArray⟩) "hex string is not valid UTF-8"

def decodeOptionalString : Bytes → Except String (Option String) := parseOptional decodeString

def parseLabel {α : Type} (values : List α) (format : α → String) (unknown : String)
    (text : Bytes) : Except String α :=
  orError (values.find? fun value => strBytes (format value) = text) unknown

def parseFamily : Bytes → Except String DurableAuditEventFamily :=
  parseLabel DurableAuditEventFamily.all formatFamily "unknown durable audit family"

def formatReplay : DurableAuditReplayBehavior → String
  | .forensicOnly => "ForensicOnly"
  | .rebuildDecisionIndex => "RebuildDecisionIndex"
  | .corruptionBoundary => "CorruptionBoundary"

def parseReplay : Bytes → Except String DurableAuditReplayBehavior :=
  parseLabel [.forensicOnly, .rebuildDecisionIndex, .corruptionBoundary] formatReplay
    "unknown durable audit replay behavior"

def formatRetention : DurableAuditRetentionBoundary → String
  | .walSegment => "WalSegment"
  | .catalogVersion => "CatalogVersion"
  | .securityPolicy => "SecurityPolicy"
  | .forensicHold => "ForensicHold"

def parseRetention : Bytes → Except String DurableAuditRetentionBoundary :=
  parseLabel [.walSegment, .catalogVersion, .securityPolicy, .forensicHold] formatRetention
    "unknown durable audit retention boundary"

def formatSurface : SurfaceScope → String
  | .application => "Application"
  | .administration => "Administration"
  | .cluster => "Cluster"
  | .backupAgent => "BackupAgent"
  | .monitoringAgent => "MonitoringAgent"

def parseOptionalSurface : Bytes → Except String (Option SurfaceScope) :=
  parseOptional (parseLabel
    [.application, .administration, .cluster, .backupAgent, .monitoringAgent] formatSurface
    "unknown durable audit surface scope")

def formatPermission : Permission → String
  | .executeProcedure => "ExecuteProcedure"
  | .readContract => "ReadContract"
  | .createTable => "CreateTable"
  | .createMap => "CreateMap"
  | .createProcedure => "CreateProcedure"
  | .importDefinitionBatch => "ImportDefinitionBatch"
  | .debugProcedure => "DebugProcedure"
  | .readProcedureStore => "ReadProcedureStore"
  | .inspectPlans => "InspectPlans"
  | .manageSecurity => "ManageSecurity"
  | .rotateCertificate => "RotateCertificate"
  | .revokeCertificateIdentity => "RevokeCertificateIdentity"
  | .backup => "Backup"
  | .restore => "Restore"
  | .forensicStart => "ForensicStart"
  | .clusterPromote => "ClusterPromote"
  | .fenceNode => "FenceNode"
  | .updateClusterManifest => "UpdateClusterManifest"

def parseOptionalPermission : Bytes → Except String (Option Permission) :=
  parseOptional (parseLabel
    [.executeProcedure, .readContract, .createTable, .createMap, .createProcedure,
      .importDefinitionBatch, .debugProcedure, .readProcedureStore, .inspectPlans,
      .manageSecurity, .rotateCertificate, .revokeCertificateIdentity, .backup, .restore,
      .forensicStart, .clusterPromote, .fenceNode, .updateClusterManifest] formatPermission
    "unknown durable audit permission")

def parseOptionalPolicyVersion (policyVersionValue policyDigestValue : Bytes) :
    Except String (Option SecurityPolicyVersionEvidence) := do
  let policyVersion ← parseOptionalU64 policyVersionValue
  let policyDigest ← decodeOptionalString policyDigestValue
  match policyVersion, policyDigest with
  | none, none => pure none
  | some policyVersion, some policyDigest =>
    some <$> (new policyVersion policyDigest).mapError Error.message
  | _, _ =>
    .error
      "durable audit policy version evidence requires both policy_version and policy_digest"

inductive DurableAuditJournalRecordFormat where
  | v1
  | v2
deriving DecidableEq

open DurableAuditJournalRecordFormat

def DurableAuditJournalRecordFormat.tag : DurableAuditJournalRecordFormat → Bytes
  | .v1 => strBytes "andromeda-durable-audit-v1"
  | .v2 => strBytes "andromeda-durable-audit-v2"

def DurableAuditJournalRecordFormat.fieldCount : DurableAuditJournalRecordFormat → Nat
  | .v1 => 16
  | .v2 => 18

def parseJournalRecordFormat (text : Bytes) : Except String DurableAuditJournalRecordFormat :=
  if text = v1.tag then .ok .v1
  else if text = v2.tag then .ok .v2
  else .error
    "unsupported durable audit journal format version; supported versions are v1 and v2"

section

variable (record : DurableAuditReplayRecord)

def payloadFields : List Bytes :=
  let report := record.report
  let binding := record.principalBinding
  [v2.tag,
    field "record_lsn" (decimal report.evidence.recordLsn.toNat),
    field "durable_lsn" (decimal report.evidence.durableLsn.toNat),
    field "event_id" (decimal report.identity.eventId.toNat),
    field "trace_id" (decimal report.identity.traceId.toNat),
    field "family" (strBytes (formatFamily report.identity.family)),
    field "sequence" (decimal report.identity.sequenceNumber.toNat),
    field "retention" (strBytes (formatRetention report.retention)),
    field "replay" (strBytes (formatReplay report.replayBehavior)),
    field "principal_id" (encodeString binding.principalId),
    field "certificate_fingerprint" (encodeOptionalString binding.certificateFingerprint),
    field "surface" (formatOptional (fun surface => strBytes (formatSurface surface))
      binding.surface),
    field "permission" (formatOptional (fun permission => strBytes (formatPermission permission))
      binding.permission),
    field "policy_version" (formatOptional (fun policy => decimal policy.policyVersion.toNat)
      binding.policyVersion),
    field "policy_digest" (encodeOptionalString
      (binding.policyVersion.map policyDigest)),
    field "request_id" (formatOptional (fun id => decimal id.toNat) binding.requestId),
    field "session_id" (formatOptional (fun id => decimal id.toNat) binding.sessionId),
    field "event_kind" (encodeString record.eventKind)]

def payloadText : Bytes :=
  [124].intercalate (payloadFields record)

def journalPayload : Result Bytes := do
  record.validate
  pure (payloadText record)

/-- What `journal_chain_checksum` digests. -/
def chainText (payload : Bytes) (checksum previousChainChecksum : UInt64) : Bytes :=
  hexChecksum previousChainChecksum ++ 124 :: (hexChecksum checksum ++ 124 :: payload)

def journalChainChecksum (payload : Bytes) (checksum previousChainChecksum : UInt64) : UInt64 :=
  checksum64 (chainText payload checksum previousChainChecksum)

def lineText (payload : Bytes) (checksum chainChecksum previousChainChecksum : UInt64) : Bytes :=
  payload ++ strBytes "|previous_chain_checksum=" ++ hexChecksum previousChainChecksum ++
    strBytes "|chain_checksum=" ++ hexChecksum chainChecksum ++
    strBytes "|checksum=" ++ hexChecksum checksum

structure DurableAuditJournalLine where
  text : Bytes
  chainChecksum : UInt64

def journalLine (previousChainChecksum : UInt64) : Result DurableAuditJournalLine := do
  let payload ← journalPayload record
  let checksum := checksum64 payload
  failIf (checksum ≠ record.report.evidence.checksum)
    (auditError "durable audit journal checksum must match report evidence")
  let chainChecksum := journalChainChecksum payload checksum previousChainChecksum
  pure ⟨lineText payload checksum chainChecksum previousChainChecksum ++ [10], chainChecksum⟩

end

structure DurableAuditJournalRecord where
  record : DurableAuditReplayRecord
  chainChecksum : UInt64

/-- The second half of `parse_journal_line`: the record in the fields of a payload. -/
def parsePayload (payload : Bytes) (checksum : UInt64) :
    Except String DurableAuditReplayRecord := do
  let fields := payload.splitOn 124
  let format ← parseJournalRecordFormat (fields.headD [])
  failIf (fields.length ≠ format.fieldCount)
    ("durable audit journal format version field count mismatch: expected " ++
      toString format.fieldCount ++ " fields")
  let recordLsn ← parseU64Field (fields.getD 1 []) "record_lsn"
  let durableLsn ← parseU64Field (fields.getD 2 []) "durable_lsn"
  let eventId ← parseU128Field (fields.getD 3 []) "event_id"
  let traceId ← parseU128Field (fields.getD 4 []) "trace_id"
  let family ← stripField (fields.getD 5 []) "family" >>= parseFamily
  let sequenceNumber ← parseU64Field (fields.getD 6 []) "sequence"
  let retention ← stripField (fields.getD 7 []) "retention" >>= parseRetention
  let replayBehavior ← stripField (fields.getD 8 []) "replay" >>= parseReplay
  let principalId ← stripField (fields.getD 9 []) "principal_id" >>= decodeString
  let certificateFingerprint ←
    stripField (fields.getD 10 []) "certificate_fingerprint" >>= decodeOptionalString
  let surface ← stripField (fields.getD 11 []) "surface" >>= parseOptionalSurface
  let permission ← stripField (fields.getD 12 []) "permission" >>= parseOptionalPermission
  let policyVersion ← match format with
    | .v2 => do
      let version ← stripField (fields.getD 13 []) "policy_version"
      let digest ← stripField (fields.getD 14 []) "policy_digest"
      parseOptionalPolicyVersion version digest
    | .v1 => pure none
  let requestIdIndex := format.fieldCount - 3
  let requestId ← stripField (fields.getD requestIdIndex []) "request_id" >>= parseOptionalU64
  let sessionId ←
    stripField (fields.getD (requestIdIndex + 1) []) "session_id" >>= parseOptionalU64
  let eventKind ← stripField (fields.getD (requestIdIndex + 2) []) "event_kind" >>= decodeString
  let record : DurableAuditReplayRecord :=
    { report :=
        { identity := ⟨eventId, traceId, family, sequenceNumber⟩
          evidence := ⟨recordLsn, durableLsn, checksum⟩
          replayBehavior
          retention }
      principalBinding :=
        { principalId, certificateFingerprint, surface, permission, policyVersion, requestId,
          sessionId }
      eventKind }
  record.validate.mapError Error.message
  pure record

def parseJournalLine (line : Bytes) (expectedPreviousChainChecksum : UInt64) :
    Except String DurableAuditJournalRecord := do
  let (chainPayload, checksumField) ←
    orError (rsplitOnce (strBytes "|checksum=") line) "missing checksum field"
  let (payloadWithPreviousChecksum, chainChecksumField) ←
    orError (rsplitOnce (strBytes "|chain_checksum=") chainPayload) "missing chain_checksum field"
  let (payload, previousChainChecksumField) ←
    orError (rsplitOnce (strBytes "|previous_chain_checksum=") payloadWithPreviousChecksum)
      "missing previous_chain_checksum field"
  failIf (payload.any (fun b => 128 ≤ b) = true) "durable audit journal payload must be ASCII"
  let previousChainChecksum ←
    parseHexChecksum previousChainChecksumField "previous_chain_checksum"
  failIf (previousChainChecksum ≠ expectedPreviousChainChecksum)
    "checksum chain previous value mismatch"
  let expectedChainChecksum ← parseHexChecksum chainChecksumField "chain_checksum"
  let expectedChecksum ← parseHexChecksum checksumField "checksum"
  failIf (checksum64 payload ≠ expectedChecksum) "durable audit journal record checksum mismatch"
  failIf (journalChainChecksum payload expectedChecksum expectedPreviousChainChecksum ≠
      expectedChainChecksum)
    "durable audit journal chain checksum mismatch"
  let record ← parsePayload payload expectedChecksum
  pure ⟨record, expectedChainChecksum⟩

end Andromeda.Audit
