import Andromeda.Catalog.Types

/-!
# Durable audit records

The records of the durable audit journal with their validators, the retention policy and the
decision whether a record may be pruned.
-/

namespace Andromeda.Audit

open Fallible
open Catalog (strBytes trim)

def auditError (message : String) : Error := ⟨.internal, message⟩

def isBlank (text : String) : Bool := (trim text).toList.isEmpty

def containsChars (needle : List Char) : List Char → Bool
  | [] => needle.isEmpty
  | c :: cs => needle.isPrefixOf (c :: cs) || containsChars needle cs

def toAsciiLowercase (c : Char) : Char :=
  if 'A'.toNat ≤ c.toNat ∧ c.toNat ≤ 'Z'.toNat then Char.ofNat (c.toNat + 32) else c

def sensitiveMarkers : List String :=
  ["-----begin", "private key", "private_key", "bearer ", "credential=", "password=", "passwd=",
    "secret=", "token=", "authorization:", "x-api-key", "payload:", "payload body"]

def containsSensitiveMarker (text : String) : Bool :=
  let lowered := text.toList.map toAsciiLowercase
  sensitiveMarkers.any fun marker => containsChars marker.toList lowered

inductive DurableAuditEventFamily where
  | securityDecision
  | adminDecision
  | admissionDecision
  | catalogDecision
  | hadrDecision
  | backupDecision
  | restoreDecision
  | forensicDecision
  | recoveryDecision
  | genericAudit
deriving DecidableEq

def DurableAuditEventFamily.all : List DurableAuditEventFamily :=
  [.securityDecision, .adminDecision, .admissionDecision, .catalogDecision, .hadrDecision,
    .backupDecision, .restoreDecision, .forensicDecision, .recoveryDecision, .genericAudit]

def DurableAuditEventFamily.requiresCompletePermissionBinding : DurableAuditEventFamily → Bool
  | .securityDecision | .adminDecision | .hadrDecision | .backupDecision | .restoreDecision
  | .forensicDecision => true
  | .admissionDecision | .catalogDecision | .recoveryDecision | .genericAudit => false

inductive DurableAuditReplayBehavior where
  | forensicOnly
  | rebuildDecisionIndex
  | corruptionBoundary
deriving DecidableEq

inductive DurableAuditRetentionBoundary where
  | walSegment
  | catalogVersion
  | securityPolicy
  | forensicHold
deriving DecidableEq

inductive SurfaceScope where
  | application
  | administration
  | cluster
  | backupAgent
  | monitoringAgent
deriving DecidableEq

inductive PermissionFamily where
  | application
  | definition
  | diagnostics
  | security
  | recovery
  | cluster
deriving DecidableEq

inductive Permission where
  | executeProcedure
  | readContract
  | createTable
  | createMap
  | createProcedure
  | importDefinitionBatch
  | debugProcedure
  | readProcedureStore
  | inspectPlans
  | manageSecurity
  | rotateCertificate
  | revokeCertificateIdentity
  | backup
  | restore
  | forensicStart
  | clusterPromote
  | fenceNode
  | updateClusterManifest
deriving DecidableEq

def Permission.family : Permission → PermissionFamily
  | .executeProcedure | .readContract => .application
  | .createTable | .createMap | .createProcedure | .importDefinitionBatch => .definition
  | .debugProcedure | .readProcedureStore | .inspectPlans => .diagnostics
  | .manageSecurity | .rotateCertificate | .revokeCertificateIdentity => .security
  | .backup | .restore | .forensicStart => .recovery
  | .clusterPromote | .fenceNode | .updateClusterManifest => .cluster

def SurfaceScope.permitsPermission (surface : SurfaceScope) (permission : Permission) : Bool :=
  match surface with
  | .application => permission == .executeProcedure || permission == .readContract
  | .backupAgent => permission.family == .recovery || permission.family == .diagnostics
  | .monitoringAgent => permission.family == .diagnostics
  | .administration =>
    permission.family == .definition || permission.family == .diagnostics ||
      permission.family == .security || permission.family == .recovery
  | .cluster => permission.family == .cluster

abbrev EventId := BitVec 128
abbrev TraceId := BitVec 128

structure DurableAuditRecordIdentity where
  eventId : EventId
  traceId : TraceId
  family : DurableAuditEventFamily
  sequenceNumber : UInt64
deriving DecidableEq

def DurableAuditRecordIdentity.validate (identity : DurableAuditRecordIdentity) : Result Unit := do
  failIf (identity.eventId = 0)
    (auditError "durable audit record identity requires non-zero event_id")
  failIf (identity.traceId = 0)
    (auditError "durable audit record identity requires non-zero trace_id")
  failIf (identity.sequenceNumber = 0)
    (auditError "durable audit record identity requires non-zero sequence_number")

structure DurableAuditWalEvidence where
  recordLsn : UInt64
  durableLsn : UInt64
  checksum : UInt64
deriving DecidableEq

def DurableAuditWalEvidence.ProvesDurable (evidence : DurableAuditWalEvidence) : Prop :=
  evidence.recordLsn ≠ 0 ∧ evidence.recordLsn ≤ evidence.durableLsn ∧ evidence.checksum ≠ 0
deriving Decidable

structure SecurityPolicyVersionEvidence where
  policyVersion : UInt64
  policyDigest : String
deriving DecidableEq

def isCanonicalSha256Digest (value : String) : Bool :=
  "sha256:".toList.isPrefixOf value.toList &&
    (let hex := value.toList.drop 7
     hex.length == 64 && hex.all fun c =>
       ('0'.toNat ≤ c.toNat && c.toNat ≤ '9'.toNat) || ('a'.toNat ≤ c.toNat && c.toNat ≤ 'f'.toNat))

def SecurityPolicyVersionEvidence.hasVersionEvidence
    (evidence : SecurityPolicyVersionEvidence) : Bool :=
  evidence.policyVersion != 0 && isCanonicalSha256Digest evidence.policyDigest &&
    !containsSensitiveMarker evidence.policyDigest

def SecurityPolicyVersionEvidence.new (policyVersion : UInt64) (policyDigest : String) :
    Result SecurityPolicyVersionEvidence := do
  failIf (isBlank policyDigest = true)
    (auditError "audit security policy digest evidence requires a non-empty value")
  let evidence : SecurityPolicyVersionEvidence := ⟨policyVersion, policyDigest⟩
  failIf (evidence.hasVersionEvidence = false) (auditError
    "security policy version evidence requires non-zero version and canonical sha256 digest")
  pure evidence

structure DurableAuditPrincipalBinding where
  principalId : String
  certificateFingerprint : Option String
  surface : Option SurfaceScope
  permission : Option Permission
  policyVersion : Option SecurityPolicyVersionEvidence
  requestId : Option UInt64
  sessionId : Option UInt64
deriving DecidableEq

def DurableAuditPrincipalBinding.validate (binding : DurableAuditPrincipalBinding) :
    Result Unit := do
  failIf (isBlank binding.principalId = true)
    (auditError "durable audit principal binding requires non-empty principal_id")
  failIf (binding.certificateFingerprint.any isBlank = true) (auditError
    "durable audit principal binding certificate fingerprint must not be empty when present")
  failIf (containsSensitiveMarker binding.principalId = true ∨
      binding.certificateFingerprint.any containsSensitiveMarker = true ∨
      binding.policyVersion.any (fun policy => containsSensitiveMarker policy.policyDigest) = true)
    (auditError "durable audit principal binding must not contain secret evidence")
  failIf (binding.policyVersion.any (fun policy => !policy.hasVersionEvidence) = true) (auditError
    "durable audit principal binding policy version evidence must be non-zero and canonical")
  failIf (binding.surface.any (fun surface =>
      binding.permission.any fun permission => !surface.permitsPermission permission) = true)
    (auditError "durable audit principal binding surface must permit permission evidence")
  failIf (binding.requestId.isSome ≠ binding.sessionId.isSome) (auditError
    "durable audit principal binding request/session ids must be present together")
  failIf (binding.requestId = some 0 ∨ binding.sessionId = some 0) (auditError
    "durable audit principal binding request/session ids must be non-zero when present")

section

variable (family : DurableAuditEventFamily) (binding : DurableAuditPrincipalBinding)

def requiresPolicyEvidence : Bool :=
  match family with
  | .securityDecision | .adminDecision | .hadrDecision | .backupDecision | .restoreDecision
  | .forensicDecision => true
  | .catalogDecision | .recoveryDecision => binding.permission.isSome
  | .admissionDecision | .genericAudit => false

def formatFamily : DurableAuditEventFamily → String
  | .securityDecision => "SecurityDecision"
  | .adminDecision => "AdminDecision"
  | .admissionDecision => "AdmissionDecision"
  | .catalogDecision => "CatalogDecision"
  | .hadrDecision => "HadrDecision"
  | .backupDecision => "BackupDecision"
  | .restoreDecision => "RestoreDecision"
  | .forensicDecision => "ForensicDecision"
  | .recoveryDecision => "RecoveryDecision"
  | .genericAudit => "GenericAudit"

def validateCompletePermissionBinding (context : String) : Result Unit :=
  failIf (family.requiresCompletePermissionBinding = true ∧
      (binding.certificateFingerprint.isNone = true ∨ binding.surface.isNone = true ∨
        binding.permission.isNone = true))
    (auditError (context ++ " require certificate, surface, and permission evidence for " ++
      "permissioned critical " ++ formatFamily family ++ " records"))

def validatePermissionedCriticalPolicyBinding (context : String) : Result Unit := do
  failIf (requiresPolicyEvidence family binding = true ∧ binding.policyVersion.isNone = true)
    (auditError (context ++ " require policy version evidence for permissioned critical " ++
      formatFamily family ++ " records"))
  failIf (requiresPolicyEvidence family binding = true ∧
      binding.policyVersion.any (fun policy => !policy.hasVersionEvidence) = true)
    (auditError (context ++ " require non-zero canonical policy version and digest evidence for " ++
      "permissioned critical " ++ formatFamily family ++ " records"))

end

structure DurableAuditSinkReport where
  identity : DurableAuditRecordIdentity
  evidence : DurableAuditWalEvidence
  replayBehavior : DurableAuditReplayBehavior
  retention : DurableAuditRetentionBoundary
deriving DecidableEq

def DurableAuditSinkReport.validate (report : DurableAuditSinkReport) : Result Unit := do
  report.identity.validate
  failIf (¬ report.evidence.ProvesDurable)
    (auditError "durable audit sink report requires non-zero WAL LSN/checksum evidence")

structure DurableAuditAppendRecord where
  identity : DurableAuditRecordIdentity
  principalBinding : DurableAuditPrincipalBinding
  retention : DurableAuditRetentionBoundary
  replayBehavior : DurableAuditReplayBehavior
  eventKind : String

def DurableAuditAppendRecord.validate (record : DurableAuditAppendRecord) : Result Unit := do
  record.identity.validate
  record.principalBinding.validate
  failIf (isBlank record.eventKind = true)
    (auditError "durable audit append record requires event kind evidence")
  failIf (containsSensitiveMarker record.eventKind = true)
    (auditError "durable audit append event kind must not contain secret evidence")
  validateCompletePermissionBinding record.identity.family record.principalBinding
    "durable audit append records"
  validatePermissionedCriticalPolicyBinding record.identity.family record.principalBinding
    "durable audit append records"

structure DurableAuditReplayRecord where
  report : DurableAuditSinkReport
  principalBinding : DurableAuditPrincipalBinding
  eventKind : String
deriving DecidableEq

def DurableAuditReplayRecord.validate (record : DurableAuditReplayRecord) : Result Unit := do
  record.report.validate
  record.principalBinding.validate
  failIf (isBlank record.eventKind = true)
    (auditError "durable audit replay record requires event kind evidence")
  failIf (containsSensitiveMarker record.eventKind = true)
    (auditError "durable audit replay event kind must not contain secret evidence")
  validateCompletePermissionBinding record.report.identity.family record.principalBinding
    "durable audit replay records"
  failIf (record.report.identity.family = .securityDecision ∧
      record.principalBinding.policyVersion.isNone = true)
    (auditError "durable audit security replay record requires policy version evidence")
  validatePermissionedCriticalPolicyBinding record.report.identity.family record.principalBinding
    "durable audit replay records"

def DurableAuditReplayRecord.lsn (record : DurableAuditReplayRecord) : UInt64 :=
  record.report.evidence.recordLsn

structure DurableAuditRetentionPolicy where
  minRecordLsn : Option UInt64 := none
  minDurableLsn : Option UInt64 := none
  preserveForensicHold : Bool := true
  retainBoundaries : List DurableAuditRetentionBoundary := []

section

variable (policy : DurableAuditRetentionPolicy)

def DurableAuditRetentionPolicy.validate : Result Unit := do
  failIf (policy.minRecordLsn = some 0) (auditError
    "durable audit retention policy min_record_lsn must be non-zero when present")
  failIf (policy.minDurableLsn = some 0) (auditError
    "durable audit retention policy min_durable_lsn must be non-zero when present")

def DurableAuditRetentionPolicy.hasNoExpiryCriteria : Bool :=
  policy.minRecordLsn.isNone && policy.minDurableLsn.isNone && policy.retainBoundaries.isEmpty

section

variable (record : DurableAuditReplayRecord)

def DurableAuditRetentionPolicy.retains : Bool :=
  policy.hasNoExpiryCriteria ||
    (policy.preserveForensicHold && record.report.retention == .forensicHold) ||
    policy.retainBoundaries.contains record.report.retention ||
    policy.minRecordLsn.any (fun minLsn => minLsn ≤ record.report.evidence.recordLsn) ||
    policy.minDurableLsn.any (fun minLsn => minLsn ≤ record.report.evidence.durableLsn)

structure DurableAuditWalSegmentArchiveProof where
  archiveId : String
  firstLsn : UInt64
  lastLsn : UInt64
  checksum : UInt64

section

variable (proof : DurableAuditWalSegmentArchiveProof)

def DurableAuditWalSegmentArchiveProof.validate : Result Unit := do
  failIf (isBlank proof.archiveId = true)
    (auditError "durable audit WAL archive proof requires non-empty archive_id")
  failIf (containsSensitiveMarker proof.archiveId = true)
    (auditError "durable audit WAL archive proof must not contain secret evidence")
  failIf (proof.firstLsn = 0 ∨ proof.lastLsn = 0 ∨ proof.lastLsn < proof.firstLsn)
    (auditError "durable audit WAL archive proof requires a non-zero ordered LSN range")
  failIf (proof.checksum = 0)
    (auditError "durable audit WAL archive proof requires non-zero checksum evidence")

def DurableAuditWalSegmentArchiveProof.covers (evidence : DurableAuditWalEvidence) : Bool :=
  proof.firstLsn ≤ evidence.recordLsn && evidence.durableLsn ≤ proof.lastLsn

end

inductive DurableAuditPruneBlockReason where
  | policyRetainsRecord
  | forensicHold
  | securityPolicy
  | catalogVersionRetentionBoundary
  | missingWalSegmentArchiveProof
  | walSegmentArchiveProofMismatch

structure DurableAuditPruneEvidence where
  identity : DurableAuditRecordIdentity
  recordLsn : UInt64
  durableLsn : UInt64
  recordChecksum : UInt64
  retention : DurableAuditRetentionBoundary
  archiveProof : Option DurableAuditWalSegmentArchiveProof
  pruneAllowed : Bool
  blockedBy : Option DurableAuditPruneBlockReason

section

variable (archiveProof : Option DurableAuditWalSegmentArchiveProof)

def DurableAuditRetentionPolicy.block : Option DurableAuditPruneBlockReason :=
  match record.report.retention with
  | .forensicHold => some .forensicHold
  | .securityPolicy => some .securityPolicy
  | .walSegment =>
    if policy.retains record then some .policyRetainsRecord
    else
      match archiveProof with
      | some proof =>
        if proof.covers record.report.evidence = true ∧
            proof.checksum = record.report.evidence.checksum then none
        else some .walSegmentArchiveProofMismatch
      | none => some .missingWalSegmentArchiveProof
  | .catalogVersion =>
    if policy.retains record then some .policyRetainsRecord
    else some .catalogVersionRetentionBoundary

def DurableAuditRetentionPolicy.evaluatePrune :
    Result DurableAuditPruneEvidence := do
  record.validate
  policy.validate
  forM archiveProof.toList DurableAuditWalSegmentArchiveProof.validate
  pure
    { identity := record.report.identity
      recordLsn := record.report.evidence.recordLsn
      durableLsn := record.report.evidence.durableLsn
      recordChecksum := record.report.evidence.checksum
      retention := record.report.retention
      archiveProof
      pruneAllowed := (policy.block record archiveProof).isNone
      blockedBy := policy.block record archiveProof }

end

end

end

structure DurableAuditCompactionReport where
  recordsScanned : Nat
  recordsRetained : Nat
  recordsExpired : Nat
  firstRetainedLsn : Option UInt64
  lastRetainedLsn : Option UInt64
  retainedChecksumEvidence : UInt64

def retainedEvidence : UInt64 → UInt64 → List DurableAuditReplayRecord → Result UInt64
  | _, evidence, [] => pure evidence
  | previousLsn, evidence, record :: records => do
    record.validate
    failIf (record.lsn ≤ previousLsn)
      (auditError "durable audit compaction retained records must remain LSN ordered")
    retainedEvidence record.lsn
      (evidence * 1099511628211 + record.report.evidence.checksum + record.lsn) records

def DurableAuditCompactionReport.fromRecords (recordsScanned : Nat)
    (retained : List DurableAuditReplayRecord) : Result DurableAuditCompactionReport := do
  failIf (recordsScanned < retained.length)
    (auditError "durable audit compaction cannot retain more records than it scanned")
  let evidence ← retainedEvidence 0 0 retained
  pure
    { recordsScanned
      recordsRetained := retained.length
      recordsExpired := recordsScanned - retained.length
      firstRetainedLsn := retained.head?.map DurableAuditReplayRecord.lsn
      lastRetainedLsn := retained.getLast?.map DurableAuditReplayRecord.lsn
      retainedChecksumEvidence := evidence }

inductive DurableAuditFailureKind where
  | validationRejected
  | walAppendRejected
  | walFlushRejected
  | corruptionDetected
  | permissionDenied
  | retentionRejected
deriving DecidableEq

structure DurableAuditSinkFailure where
  kind : DurableAuditFailureKind
  identity : Option DurableAuditRecordIdentity
  reason : String

def sinkFailure (kind : DurableAuditFailureKind) (identity : Option DurableAuditRecordIdentity)
    (reason : String) : DurableAuditSinkFailure where
  kind := kind
  identity := identity.filter fun identity => succeeds identity.validate
  reason :=
    if isBlank reason = true ∨ containsSensitiveMarker reason = true then
      "durable audit sink operation failed"
    else reason

abbrev DurableAuditSinkResult (α : Type) := Except DurableAuditSinkFailure α

def orSinkFailure {α : Type} (result : Result α) (kind : DurableAuditFailureKind)
    (identity : Option DurableAuditRecordIdentity) : DurableAuditSinkResult α :=
  result.mapError fun error => sinkFailure kind identity error.message

structure DurableAuditReplayLsnRange where
  startLsn : UInt64
  endLsn : UInt64

def DurableAuditReplayLsnRange.isValid (range : DurableAuditReplayLsnRange) : Bool :=
  range.startLsn != 0 && range.endLsn != 0 && decide (range.startLsn ≤ range.endLsn)

def DurableAuditReplayLsnRange.contains (range : DurableAuditReplayLsnRange) (lsn : UInt64) :
    Bool :=
  range.startLsn ≤ lsn && lsn ≤ range.endLsn

structure DurableAuditReplayQuery where
  family : Option DurableAuditEventFamily := none
  traceId : Option TraceId := none
  principalId : Option String := none
  lsnRange : Option DurableAuditReplayLsnRange := none

def DurableAuditReplayQuery.all : DurableAuditReplayQuery := {}

def DurableAuditReplayQuery.hasFilter (query : DurableAuditReplayQuery) : Bool :=
  query.family.isSome || query.traceId.isSome || query.principalId.isSome || query.lsnRange.isSome

def DurableAuditReplayQuery.validate (query : DurableAuditReplayQuery) : Result Unit := do
  failIf (query.traceId = some 0)
    (auditError "durable audit replay trace_id filter must be non-zero when present")
  failIf (query.principalId.any isBlank = true)
    (auditError "durable audit replay principal filter must be non-empty when present")
  failIf (query.principalId.any containsSensitiveMarker = true)
    (auditError "durable audit replay principal filter must not contain secret evidence")
  failIf (query.lsnRange.any (fun range => !range.isValid) = true)
    (auditError "durable audit replay LSN range must be non-zero and start_lsn <= end_lsn")

def DurableAuditReplayRecord.matchesReplayFilter (record : DurableAuditReplayRecord)
    (query : DurableAuditReplayQuery) : Bool :=
  query.family.all (fun family => record.report.identity.family == family) &&
    query.traceId.all (fun traceId => record.report.identity.traceId == traceId) &&
    query.principalId.all (fun principalId => record.principalBinding.principalId == principalId) &&
    query.lsnRange.all fun range =>
      range.contains record.report.evidence.recordLsn ||
        range.contains record.report.evidence.durableLsn

structure DurableAuditReplayWindow where
  limit : Nat
  offset : Nat

def DurableAuditReplayWindow.all : DurableAuditReplayWindow := ⟨2 ^ 64 - 1, 0⟩

def DurableAuditReplayWindow.validate (window : DurableAuditReplayWindow) : Result Unit :=
  failIf (window.limit = 0) (auditError "durable audit replay window limit must be non-zero")

end Andromeda.Audit
