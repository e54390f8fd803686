import Andromeda.Lib.ByteReader
import Andromeda.Catalog.MutationPlan
import Andromeda.Wal.Record

/-!
# The durable payload of a catalog mutation

Every mutation record is written to the WAL as a header with a checksum and a body that lists
the fields of the record. The decoder reads the fields back in the same order and validates
the record once more.
-/

namespace Andromeda.Catalog

open Fallible ByteReader LittleEndian

namespace CatalogMutationRecordKind

def storageWalKindTag : CatalogMutationRecordKind → UInt16
  | .catalogChangeBegin => 19
  | .catalogChangeApply => 20
  | .catalogChangeCommit => 21

def fromStorageWalKindTag (tag : UInt16) : Option CatalogMutationRecordKind :=
  match tag with
  | 19 => some .catalogChangeBegin
  | 20 => some .catalogChangeApply
  | 21 => some .catalogChangeCommit
  | _ => none

end CatalogMutationRecordKind

def CatalogMutationBoundary.validate (boundary : CatalogMutationBoundary) : Result Unit := do
  failIf (boundary.batchId = 0) (catalogError "catalog WAL boundary batch id must not be zero")
  failIf (boundary.databaseId = 0)
    (catalogError "catalog WAL boundary database id must not be zero")
  failIf (boundary.namespaceId = 0)
    (catalogError "catalog WAL boundary namespace id must not be zero")
  failIf (boundary.nextVersion ≤ boundary.previousVersion)
    (catalogError "catalog WAL boundary must advance the catalog version")
  failIf boundary.sourceHash.IsZero
    (catalogError "catalog WAL boundary source hash must not be zero")
  failIf boundary.dependencyGraphHash.IsZero
    (catalogError "catalog WAL boundary dependency graph hash must not be zero")
  failIf (boundary.expectedApplyCount = 0)
    (catalogError "catalog WAL boundary expected apply count must not be zero")
  failIf (maxApplyRecordsPerBatch < boundary.expectedApplyCount)
    (catalogError "catalog WAL boundary expected apply count must not exceed 1024")
  failIf (boundary.publicationSemantics ≠ .durablePublicationExternal)
    (catalogError "catalog WAL boundary requires durable publication semantics")

def CatalogMutationDelta.validate (delta : CatalogMutationDelta) : Result Unit := do
  failIf (delta.plannedVersion = 0)
    (catalogError "catalog WAL delta planned version must not be zero")
  match delta.operation with
  | .createObject object definition => do
    definition.validate
    failIf (object ≠ definition.objectRef)
      (catalogError "catalog WAL create delta object must match its definition object")
    failIf (object.catalogVersion ≠ delta.plannedVersion)
      (catalogError "catalog WAL create delta version must match its object version")
  | .deprecateObject target => target.validate

def CatalogMutationRecord.validate : CatalogMutationRecord → Result Unit
  | .begin boundary | .commit boundary => boundary.validate
  | .apply delta => delta.validate

def CatalogPublicationSemantics.tag : CatalogPublicationSemantics → UInt8
  | .plannedVersionOnly => 0
  | .durablePublicationExternal => 1

def encodeString (value : String) : Bytes := strMaterial value

def encodeStrings (values : List String) : Bytes := countPrefixed encodeString values

def encodeQualifiedName (name : QualifiedName) : Bytes := encodeStrings name.parts

def encodeQualifiedNames (names : List QualifiedName) : Bytes :=
  countPrefixed encodeQualifiedName names

def encodeObjectRef (object : CatalogObjectRef) : Bytes :=
  u64 object.objectId ++ encodeQualifiedName object.name ++ [object.kind.tag] ++
    u64 object.catalogVersion

def encodeDecimalType (decimal : DecimalType) : Bytes := decimal.material

def encodeFloatType (float : FloatType) : Bytes := float.material

def encodeOptional {α : Type} (write : α → Bytes) : Option α → Bytes
  | some value => boolMaterial true ++ write value
  | none => boolMaterial false

def encodeScalarType : ScalarType → Bytes
  | .i8 => [0]
  | .i16 => [1]
  | .i32 => [2]
  | .i64 => [3]
  | .i128 => [4]
  | .u8 => [5]
  | .u16 => [6]
  | .u32 => [7]
  | .u64 => [8]
  | .u128 => [9]
  | .decimal shape => [10] ++ encodeDecimalType shape
  | .float shape => [11] ++ encodeFloatType shape
  | .bool => [12]
  | .text shape =>
    [13] ++ [shape.encoding.tag] ++ encodeOptional u32 shape.maxLength ++
      encodeOptional encodeString shape.collation
  | .timestamp source => [14] ++ [source.tag]

def encodeTypeDescriptor (descriptor : TypeDescriptor) : Bytes :=
  encodeScalarType descriptor.scalar ++ [descriptor.absence.tag]

def encodeColumn (column : ColumnDescriptor) : Bytes :=
  encodeString column.name ++ encodeTypeDescriptor column.dataType ++ u32 column.ordinal

def encodeColumns (columns : List ColumnDescriptor) : Bytes := countPrefixed encodeColumn columns

def i64Bytes (value : Int64) : Bytes := u64 value.toUInt64

def encodeVariant (variant : EnumVariant) : Bytes :=
  encodeString variant.name ++ i64Bytes variant.value

def encodeResultStream (stream : ResultStreamContract) : Bytes :=
  u64 stream.streamId ++ encodeString stream.name ++ encodeColumns stream.columns ++
    boolMaterial stream.rowCountExactRequired ++ [stream.cardinality.stableTag]

def encodeTransactionPolicy (policy : TransactionPolicy) : Bytes :=
  [policy.accessMode.tag] ++ [policy.isolation.tag] ++ boolMaterial policy.retryable

def encodeTable (table : TableDefinition) : Bytes :=
  encodeObjectRef table.object ++ encodeColumns table.columns

def encodeStructuredObject (object : StructuredObjectDefinition) : Bytes :=
  encodeObjectRef object.object ++ encodeColumns object.fields ++ encodeStrings object.uniqueBy

def encodeEnum (definition : EnumDefinition) : Bytes :=
  encodeObjectRef definition.object ++ countPrefixed encodeVariant definition.variants

def encodeProcedure (procedure : ProcedureContract) : Bytes :=
  encodeObjectRef procedure.object ++ u64 procedure.procedureId ++
    procedure.contractHash.bytes ++ u64 procedure.statsVersion ++
    procedure.protocolLayout.descriptorSetHash.bytes ++
    procedure.protocolLayout.frameEnvelopeHash.bytes ++ encodeColumns procedure.inputs ++
    encodeQualifiedNames procedure.structuredInputs ++
    countPrefixed encodeResultStream procedure.resultStreams ++
    encodeStrings procedure.requiredPermissions ++
    encodeTransactionPolicy procedure.transactionPolicy ++
    [procedure.compatibilityPolicy.tag] ++ [procedure.resultMetadataPolicy.tag] ++
    boolMaterial procedure.errorPolicy.rollbackOnError ++
    encodeStrings procedure.errorPolicy.allowedErrorCodes ++ [procedure.multiResultPolicy.tag]

def encodeDefinition : CatalogDefinition → Bytes
  | .table table => [0] ++ encodeTable table
  | .structuredObject object => [1] ++ encodeStructuredObject object
  | .enum definition => [2] ++ encodeEnum definition
  | .procedure procedure => [3] ++ encodeProcedure procedure

def encodeLifecycleTarget (target : CatalogLifecycleTarget) : Bytes :=
  encodeObjectRef target.object

def encodeDelta (delta : CatalogMutationDelta) : Bytes :=
  u64 (UInt64.ofNat delta.operationIndex) ++ u64 delta.plannedVersion ++ match delta.operation with
    | .createObject object definition =>
      [0] ++ encodeObjectRef object ++ encodeDefinition definition
    | .deprecateObject target => [1] ++ encodeLifecycleTarget target

def encodeBoundary (boundary : CatalogMutationBoundary) : Bytes :=
  u64 boundary.batchId ++ u64 boundary.databaseId ++
    u64 boundary.namespaceId ++ u64 boundary.previousVersion ++
    u64 boundary.nextVersion ++ boundary.sourceHash.bytes ++
    boundary.dependencyGraphHash.bytes ++
    u64 (UInt64.ofNat boundary.expectedApplyCount) ++
    [boundary.publicationSemantics.tag]

def encodeBody : CatalogMutationRecord → Bytes
  | .begin boundary | .commit boundary => encodeBoundary boundary
  | .apply delta => encodeDelta delta

def payloadMagic : UInt64 := 0x414e445243415457

def payloadVersion : UInt16 := 4

def payloadHeaderLen : Nat := 28

def catalogWalPayloadChecksum (version kindTag : UInt16) (bodyLen : UInt64) (body : Bytes) :
    UInt64 :=
  nonzero (fnvBytes (fnvBytes (fnvBytes (fnvBytes (fnvBytes fnvOffset
    (u64 payloadMagic)) (u16 version)) (u16 kindTag))
    (u64 bodyLen)) body)

def encodePayloadHeader (kindTag : UInt16) (bodyLen checksum : UInt64) : Bytes :=
  u64 payloadMagic ++ u16 payloadVersion ++ u16 kindTag ++ u64 bodyLen ++ u64 checksum

def encodeCatalogDurablePayload (record : CatalogMutationRecord) : Result Bytes := do
  record.validate
  let body := encodeBody record
  let kindTag := record.kind.storageWalKindTag
  failIf (2 ^ 64 ≤ body.length) (catalogError "catalog WAL payload body is too large")
  let bodyLen := UInt64.ofNat body.length
  pure (encodePayloadHeader kindTag bodyLen
    (catalogWalPayloadChecksum payloadVersion kindTag bodyLen body) ++ body)

/-! ## Reading the body -/

/-- What `Decoder::bytes` fails with. -/
def bodyFaults : Faults Error :=
  ⟨catalogError "catalog WAL payload offset overflow",
    catalogError "truncated catalog WAL payload body"⟩

/-- A byte that stands for one of a few values. -/
def readTag {α : Type} (fromTag : UInt8 → Result α) : Reader Error α := do
  let tag ← u8 bodyFaults
  lift (fromTag tag)

/-- The values of a byte, from zero on. -/
def tagIn {α : Type} (values : List α) (unknown : Error) (tag : UInt8) : Result α :=
  orError values[tag.toNat]? unknown

def readBool : Reader Error Bool :=
  readTag (tagIn [false, true] (catalogError "unknown bool tag"))

def readString : Reader Error String := do
  let bytes ← sized bodyFaults
  lift (orError (String.fromUTF8? ⟨bytes.toArray⟩)
    (catalogError "catalog WAL string is not valid UTF-8"))

/-- `Decoder::i64`. -/
def readI64 : Reader Error Int64 := do
  let word ← u64 bodyFaults
  pure word.toInt64

/-- A 32-byte array; `wrongWidth` is what the conversion would fail with. -/
def digestOf (wrongWidth : Error) (bytes : Bytes) : Result Digest32 :=
  if h : bytes.length = 32 then .ok ⟨bytes, h⟩ else .error wrongWidth

def readSha256Array : Reader Error Digest32 := do
  let bytes ← slice bodyFaults 32
  lift (digestOf (catalogError "catalog WAL SHA-256 field has invalid width") bytes)

def readContractHash : Reader Error ContractHash := do
  let bytes ← slice bodyFaults 32
  lift (digestOf (contractError "ContractHash must contain exactly 32 bytes") bytes)

/-- A flag, and the value behind it when it is set. -/
def readOptional {α : Type} (reader : Reader Error α) : Reader Error (Option α) := do
  let isPresent ← readBool
  if isPresent then do
    let value ← reader
    pure (some value)
  else pure none

-- The source reserves memory for the announced number of items before it reads the first, and may
-- abort there on a forged number; here, as below, the reading runs out of bytes instead.
def decodeStrings : Reader Error (List String) := counted bodyFaults readString

def decodeQualifiedName : Reader Error QualifiedName := do
  let parts ← counted bodyFaults readString
  lift (QualifiedName.new parts)

def decodeQualifiedNames : Reader Error (List QualifiedName) :=
  counted bodyFaults decodeQualifiedName

def objectKindFromTag : UInt8 → Result ObjectKind :=
  tagIn [.database, .namespace, .table, .map, .enum, .structuredObject, .procedure]
    (catalogError "unknown object kind tag")

def decodeObjectRef : Reader Error CatalogObjectRef := do
  let objectId ← u64 bodyFaults
  let name ← decodeQualifiedName
  let kind ← readTag objectKindFromTag
  let catalogVersion ← u64 bodyFaults
  pure { objectId, name, kind, catalogVersion }

def decodeDecimalType : Reader Error DecimalType := do
  let tag ← u8 bodyFaults
  match tag with
  | 0 => pure .min
  | 1 => pure .mid
  | 2 => pure .max
  | 3 => do
    let precision ← u8 bodyFaults
    let scale ← u8 bodyFaults
    pure (.custom precision scale)
  | _ => lift (.error (catalogError "unknown decimal type tag"))

def decodeFloatType : Reader Error FloatType := do
  let tag ← u8 bodyFaults
  match tag with
  | 0 => pure .min
  | 1 => pure .mid
  | 2 => pure .max
  | 3 => do
    let bits ← u16 bodyFaults
    let mode ← readTag (tagIn [FloatMode.approximate, .deterministicAnalytics]
      (catalogError "unknown float mode tag"))
    pure (.custom bits mode)
  | _ => lift (.error (catalogError "unknown float type tag"))

def decodeTextType : Reader Error TextType := do
  let encoding ← readTag (tagIn [TextEncoding.utf8, .utf16, .unicode]
    (catalogError "unknown text encoding tag"))
  let maxLength ← readOptional (u32 bodyFaults)
  let collation ← readOptional readString
  pure { encoding, maxLength, collation }

def decodeScalarType : Reader Error ScalarType := do
  let tag ← u8 bodyFaults
  match tag with
  | 0 => pure .i8
  | 1 => pure .i16
  | 2 => pure .i32
  | 3 => pure .i64
  | 4 => pure .i128
  | 5 => pure .u8
  | 6 => pure .u16
  | 7 => pure .u32
  | 8 => pure .u64
  | 9 => pure .u128
  | 10 => do
    let shape ← decodeDecimalType
    pure (.decimal shape)
  | 11 => do
    let shape ← decodeFloatType
    pure (.float shape)
  | 12 => pure .bool
  | 13 => do
    let shape ← decodeTextType
    pure (.text shape)
  | 14 => do
    let source ← readTag (tagIn [TimestampType.transaction, .invocation, .monotonicEpoch]
      (catalogError "unknown timestamp type tag"))
    pure (.timestamp source)
  | _ => lift (.error (catalogError "unknown scalar type tag"))

def decodeTypeDescriptor : Reader Error TypeDescriptor := do
  let scalar ← decodeScalarType
  let absence ← readTag (tagIn [AbsencePolicy.required, .explicitOptional]
    (catalogError "unknown absence policy tag"))
  pure { scalar, absence }

def decodeColumn : Reader Error ColumnDescriptor := do
  let name ← readString
  let dataType ← decodeTypeDescriptor
  let ordinal ← u32 bodyFaults
  pure { name, dataType, ordinal }

def decodeColumns : Reader Error (List ColumnDescriptor) := counted bodyFaults decodeColumn

def decodeVariant : Reader Error EnumVariant := do
  let name ← readString
  let value ← readI64
  pure { name, value }

/-- The loop body of `decode_result_streams`. The header lets only version 4 through, so the
cardinality is always read from its own tag. -/
def decodeResultStream : Reader Error ResultStreamContract := do
  let streamId ← u64 bodyFaults
  let name ← readString
  let columns ← decodeColumns
  let rowCountExactRequired ← readBool
  let cardinality ← readTag (tagIn [ResultStreamCardinality.one, .optionalOne, .many, .nonEmptyMany]
    (contractError "unknown result stream cardinality tag"))
  pure { streamId, name, columns, cardinality, rowCountExactRequired }

def decodeTransactionPolicy : Reader Error TransactionPolicy := do
  let accessMode ← readTag (tagIn [AccessMode.readOnly, .readWrite]
    (catalogError "unknown access mode tag"))
  let isolation ← readTag (tagIn [IsolationPolicy.snapshot, .serializable]
    (catalogError "unknown isolation policy tag"))
  let retryable ← readBool
  pure { accessMode, isolation, retryable }

def decodeTable : Reader Error TableDefinition := do
  let object ← decodeObjectRef
  let columns ← decodeColumns
  pure { object, columns }

def decodeStructuredObject : Reader Error StructuredObjectDefinition := do
  let object ← decodeObjectRef
  let fields ← decodeColumns
  let uniqueBy ← decodeStrings
  pure { object, fields, uniqueBy }

def decodeEnum : Reader Error EnumDefinition := do
  let object ← decodeObjectRef
  let variants ← counted bodyFaults decodeVariant
  pure { object, variants }

def decodeProcedure : Reader Error ProcedureContract := do
  let object ← decodeObjectRef
  let procedureId ← u64 bodyFaults
  let contractHash ← readContractHash
  let statsVersion ← u64 bodyFaults
  let descriptorSetHash ← readContractHash
  let frameEnvelopeHash ← readContractHash
  let inputs ← decodeColumns
  let structuredInputs ← decodeQualifiedNames
  let resultStreams ← counted bodyFaults decodeResultStream
  let requiredPermissions ← decodeStrings
  let transactionPolicy ← decodeTransactionPolicy
  let compatibilityPolicy ← readTag (tagIn [CompatibilityPolicy.additiveOnly, .exactHash]
    (catalogError "unknown compatibility policy tag"))
  let resultMetadataPolicy ← readTag
    (tagIn [ResultMetadataPolicy.requireBeforePayload, .allowStreamingUnknown]
      (catalogError "unknown result metadata policy tag"))
  let rollbackOnError ← readBool
  let allowedErrorCodes ← decodeStrings
  let multiResultPolicy ← readTag
    (tagIn [MultiResultPolicy.singleResultOnly, .multipleResultStreamsAllowed]
      (catalogError "unknown multi-result policy tag"))
  pure
    { object, procedureId, contractHash, statsVersion
      protocolLayout := { descriptorSetHash, frameEnvelopeHash }
      inputs, structuredInputs, resultStreams, requiredPermissions, transactionPolicy
      compatibilityPolicy, resultMetadataPolicy
      errorPolicy := { rollbackOnError, allowedErrorCodes }
      multiResultPolicy }

def decodeDefinition : Reader Error CatalogDefinition := do
  let tag ← u8 bodyFaults
  match tag with
  | 0 => do
    let table ← decodeTable
    pure (.table table)
  | 1 => do
    let object ← decodeStructuredObject
    pure (.structuredObject object)
  | 2 => do
    let definition ← decodeEnum
    pure (.enum definition)
  | 3 => do
    let procedure ← decodeProcedure
    pure (.procedure procedure)
  | _ => lift (.error (catalogError "unknown catalog definition tag"))

def decodeLifecycleTarget : Reader Error CatalogLifecycleTarget := do
  let object ← decodeObjectRef
  pure { object }

def decodeOperation : Reader Error CatalogMutationOperation := do
  let tag ← u8 bodyFaults
  match tag with
  | 0 => do
    let object ← decodeObjectRef
    let definition ← decodeDefinition
    pure (.createObject object definition)
  | 1 => do
    let target ← decodeLifecycleTarget
    pure (.deprecateObject target)
  | _ => lift (.error (catalogError "unknown catalog WAL delta operation tag"))

def decodeDelta : Reader Error CatalogMutationDelta := do
  let operationIndex ← u64 bodyFaults
  let plannedVersion ← u64 bodyFaults
  let operation ← decodeOperation
  let delta : CatalogMutationDelta :=
    { operationIndex := operationIndex.toNat, plannedVersion, operation }
  lift delta.validate
  pure delta

def decodeBoundary : Reader Error CatalogMutationBoundary := do
  let batchId ← u64 bodyFaults
  let databaseId ← u64 bodyFaults
  let namespaceId ← u64 bodyFaults
  let previousVersion ← u64 bodyFaults
  let nextVersion ← u64 bodyFaults
  let sourceHash ← readSha256Array
  let dependencyGraphHash ← readSha256Array
  let expectedApplyCount ← u64 bodyFaults
  let publicationSemantics ← readTag
    (tagIn [CatalogPublicationSemantics.plannedVersionOnly, .durablePublicationExternal]
      (catalogError "unknown catalog publication semantics tag"))
  let boundary : CatalogMutationBoundary :=
    { batchId, databaseId, namespaceId, previousVersion, nextVersion, sourceHash
      dependencyGraphHash, expectedApplyCount := expectedApplyCount.toNat, publicationSemantics }
  lift boundary.validate
  pure boundary

def decodeBody : CatalogMutationRecordKind → Reader Error CatalogMutationRecord
  | .catalogChangeBegin => do
    let boundary ← decodeBoundary
    pure (.begin boundary)
  | .catalogChangeApply => do
    let delta ← decodeDelta
    pure (.apply delta)
  | .catalogChangeCommit => do
    let boundary ← decodeBoundary
    pure (.commit boundary)

inductive CatalogWalPayloadDecodeErrorKind where
  | truncatedHeader
  | magicMismatch
  | legacyFormatVersion
  | unsupportedFormatVersion
  | unknownRecordKindTag
  | bodyLengthMismatch
  | checksumMismatch
  | bodyInvalid
deriving DecidableEq

def CatalogWalPayloadDecodeErrorKind.stableCode : CatalogWalPayloadDecodeErrorKind → String
  | .truncatedHeader => "catalog_wal_payload_truncated_header"
  | .magicMismatch => "catalog_wal_payload_magic_mismatch"
  | .legacyFormatVersion => "catalog_wal_payload_legacy_format_version"
  | .unsupportedFormatVersion => "catalog_wal_payload_unsupported_format_version"
  | .unknownRecordKindTag => "catalog_wal_payload_unknown_record_kind_tag"
  | .bodyLengthMismatch => "catalog_wal_payload_body_length_mismatch"
  | .checksumMismatch => "catalog_wal_payload_checksum_mismatch"
  | .bodyInvalid => "catalog_wal_payload_body_invalid"

structure CatalogWalPayloadDecodeError where
  kind : CatalogWalPayloadDecodeErrorKind
  detail : String

def fromBodyError (error : Error) : CatalogWalPayloadDecodeError := ⟨.bodyInvalid, error.message⟩

structure PayloadHeader where
  version : UInt16
  kind : CatalogMutationRecordKind
  kindTag : UInt16
  bodyLen : UInt64
  checksum : UInt64

def validatePayloadVersion (version : UInt16) : Except CatalogWalPayloadDecodeError Unit := do
  failIf (version = 1 ∨ version = 2 ∨ version = 3) ⟨.legacyFormatVersion,
    "legacy catalog WAL payload lacks complete DefinitionBatch replay integrity"⟩
  failIf (version ≠ 4) ⟨.unsupportedFormatVersion, "unsupported catalog WAL payload version"⟩

def headerFaults : Faults CatalogWalPayloadDecodeError :=
  ⟨fromBodyError bodyFaults.overflow, fromBodyError bodyFaults.truncated⟩

def readPayloadHeader : Reader CatalogWalPayloadDecodeError PayloadHeader := do
  let magic ← u64 headerFaults
  lift (failIf (magic ≠ payloadMagic) ⟨.magicMismatch, "catalog WAL payload magic mismatch"⟩)
  let version ← u16 headerFaults
  lift (validatePayloadVersion version)
  let kindTag ← u16 headerFaults
  let kind ← lift (orError (CatalogMutationRecordKind.fromStorageWalKindTag kindTag)
    ⟨.unknownRecordKindTag, "unknown catalog WAL record kind tag"⟩)
  let bodyLen ← u64 headerFaults
  let checksum ← u64 headerFaults
  pure { version, kind, kindTag, bodyLen, checksum }

def decodePayloadHeader (payload : Bytes) : Except CatalogWalPayloadDecodeError PayloadHeader := do
  failIf (payload.length < payloadHeaderLen)
    ⟨.truncatedHeader, "truncated catalog WAL payload header"⟩
  let (header, _) ← readPayloadHeader ⟨0, payload⟩
  pure header

def payloadBody (payload : Bytes) (header : PayloadHeader) :
    Except CatalogWalPayloadDecodeError Bytes := do
  failIf (payload.length - payloadHeaderLen ≠ header.bodyLen.toNat)
    ⟨.bodyLengthMismatch, "catalog WAL payload body length mismatch"⟩
  pure (payload.drop payloadHeaderLen)

def verifyPayloadChecksum (header : PayloadHeader) (body : Bytes) :
    Except CatalogWalPayloadDecodeError Unit :=
  failIf (header.checksum ≠
      catalogWalPayloadChecksum header.version header.kindTag header.bodyLen body)
    ⟨.checksumMismatch, "catalog WAL payload checksum mismatch"⟩

def finish (cursor : Cursor) : Result Unit :=
  failIf (cursor.rest ≠ []) (catalogError "trailing bytes in catalog WAL payload body")

def decodeCatalogDurablePayload (payload : Bytes) :
    Except CatalogWalPayloadDecodeError CatalogMutationRecord := do
  let header ← decodePayloadHeader payload
  let body ← payloadBody payload header
  verifyPayloadChecksum header body
  let (record, cursor) ← (decodeBody header.kind ⟨0, body⟩).mapError fromBodyError
  (finish cursor).mapError fromBodyError
  record.validate.mapError fromBodyError
  pure record

end Andromeda.Catalog
