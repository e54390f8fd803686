import Andromeda.Catalog.Types

/-!
# Catalog definitions

Procedure contracts, tables, structured objects and enums: their validation, the hashes that
identify their shape, and the dependencies they declare.
-/

namespace Andromeda.Catalog

open Fallible LittleEndian

inductive AccessMode where
  | readOnly
  | readWrite
deriving DecidableEq

def AccessMode.tag : AccessMode → UInt8
  | .readOnly => 0
  | .readWrite => 1

inductive IsolationPolicy where
  | snapshot
  | serializable
deriving DecidableEq

def IsolationPolicy.tag : IsolationPolicy → UInt8
  | .snapshot => 0
  | .serializable => 1

structure TransactionPolicy where
  accessMode : AccessMode
  isolation : IsolationPolicy
  retryable : Bool
deriving DecidableEq

inductive CompatibilityPolicy where
  | additiveOnly
  | exactHash
deriving DecidableEq

def CompatibilityPolicy.tag : CompatibilityPolicy → UInt8
  | .additiveOnly => 0
  | .exactHash => 1

inductive ResultMetadataPolicy where
  | requireBeforePayload
  | allowStreamingUnknown
deriving DecidableEq

def ResultMetadataPolicy.tag : ResultMetadataPolicy → UInt8
  | .requireBeforePayload => 0
  | .allowStreamingUnknown => 1

inductive MultiResultPolicy where
  | singleResultOnly
  | multipleResultStreamsAllowed
deriving DecidableEq

def MultiResultPolicy.tag : MultiResultPolicy → UInt8
  | .singleResultOnly => 0
  | .multipleResultStreamsAllowed => 1

inductive ResultStreamCardinality where
  | one
  | optionalOne
  | many
  | nonEmptyMany
deriving DecidableEq

namespace ResultStreamCardinality

def legacyRowCountExactRequired : ResultStreamCardinality → Bool
  | .one | .nonEmptyMany => true
  | .optionalOne | .many => false

def stableTag : ResultStreamCardinality → UInt8
  | .one => 0
  | .optionalOne => 1
  | .many => 2
  | .nonEmptyMany => 3

end ResultStreamCardinality

structure ResultStreamContract where
  streamId : UInt64
  name : String
  columns : List ColumnDescriptor
  cardinality : ResultStreamCardinality
  rowCountExactRequired : Bool
deriving DecidableEq

namespace ResultStreamContract

def validate (stream : ResultStreamContract) : Result Unit := do
  failIf (stream.streamId = 0) (contractError "result stream id must not be zero")
  failIf ((trim stream.name).isEmpty = true) (contractError "result stream name must not be empty")
  validateColumns stream.columns
  failIf (stream.rowCountExactRequired ≠ stream.cardinality.legacyRowCountExactRequired)
    (contractError "result stream legacy row-count flag must match full cardinality")

def material (stream : ResultStreamContract) : Bytes :=
  u64 stream.streamId ++ strMaterial stream.name ++ [stream.cardinality.stableTag] ++
    columnsMaterial stream.columns

end ResultStreamContract

structure ProtocolLayoutRef where
  descriptorSetHash : ContractHash
  frameEnvelopeHash : ContractHash
deriving DecidableEq

def ProtocolLayoutRef.validate (layout : ProtocolLayoutRef) : Result Unit := do
  failIf layout.descriptorSetHash.IsZero
    (contractError "procedure protocol descriptor set hash must not be zero")
  failIf layout.frameEnvelopeHash.IsZero
    (contractError "procedure protocol frame envelope hash must not be zero")

/-- The loop over error codes or permissions: none blank, none twice. -/
def validateTokens (blank duplicate : Error) (seen : List String) : List String → Result Unit
  | [] => .ok ()
  | token :: tokens => do
    failIf ((trim token).isEmpty = true) blank
    failIf (token ∈ seen) duplicate
    validateTokens blank duplicate (token :: seen) tokens

structure ProcedureErrorPolicy where
  rollbackOnError : Bool
  allowedErrorCodes : List String
deriving DecidableEq

def ProcedureErrorPolicy.validate (policy : ProcedureErrorPolicy) : Result Unit :=
  validateTokens (contractError "procedure error codes must not be empty")
    (contractError "procedure error codes must be unique") [] policy.allowedErrorCodes

structure ProcedureContract where
  object : CatalogObjectRef
  procedureId : ProcedureId
  contractHash : ContractHash
  statsVersion : UInt64
  protocolLayout : ProtocolLayoutRef
  inputs : List ColumnDescriptor
  structuredInputs : List QualifiedName
  resultStreams : List ResultStreamContract
  requiredPermissions : List String
  transactionPolicy : TransactionPolicy
  compatibilityPolicy : CompatibilityPolicy
  resultMetadataPolicy : ResultMetadataPolicy
  errorPolicy : ProcedureErrorPolicy
  multiResultPolicy : MultiResultPolicy
deriving DecidableEq

/-- The loop over the result streams, with the ids and names so far. -/
def validateResultStreamsFrom (ids : List UInt64) (names : List String) :
    List ResultStreamContract → Result Unit
  | [] => .ok ()
  | stream :: streams => do
    stream.validate
    failIf (stream.streamId ∈ ids) (contractError "procedure result stream ids must be unique")
    failIf (stream.name ∈ names) (contractError "procedure result stream names must be unique")
    validateResultStreamsFrom (stream.streamId :: ids) (stream.name :: names) streams

namespace ProcedureContract

/-- `ProcedureContract::validate`; the checks of `ProcedureContractRef` stand inline. -/
def validate (contract : ProcedureContract) : Result Unit := do
  contract.object.validateForDefinition .procedure
  failIf (contract.procedureId = 0) (contractError "procedure id must not be zero")
  failIf (contract.object.catalogVersion = 0)
    (contractError "procedure catalog version must not be zero")
  failIf contract.contractHash.IsZero (contractError "procedure contract hash must not be zero")
  validateColumnsAllowEmpty contract.inputs
  failIf (contract.statsVersion = 0) (contractError "procedure stats version must not be zero")
  contract.protocolLayout.validate
  contract.errorPolicy.validate
  failIf (contract.requiredPermissions = [])
    (securityError "procedure contract must declare required permissions")
  validateTokens (securityError "procedure required permissions must not be empty")
    (securityError "procedure required permissions must be unique") [] contract.requiredPermissions
  failIf (¬ contract.structuredInputs.Nodup)
    (contractError "procedure structured input names must be unique")
  validateResultStreamsFrom [] [] contract.resultStreams
  failIf (contract.multiResultPolicy = .singleResultOnly ∧ 1 < contract.resultStreams.length)
    (contractError "procedure multi-result policy allows only one result stream")

section

variable (contract : ProcedureContract)

/-- The policy fields, in the order both hashes write them. -/
def policyMaterial : Bytes :=
  u64 contract.statsVersion ++ countPrefixed strMaterial contract.requiredPermissions ++
    [contract.transactionPolicy.accessMode.tag, contract.transactionPolicy.isolation.tag] ++
    boolMaterial contract.transactionPolicy.retryable ++
    [contract.compatibilityPolicy.tag, contract.resultMetadataPolicy.tag] ++
    boolMaterial contract.errorPolicy.rollbackOnError ++
    countPrefixed strMaterial contract.errorPolicy.allowedErrorCodes ++
    [contract.multiResultPolicy.tag]

def canonicalHash : ContractHash :=
  sha256 (strMaterial "andromeda.catalog.procedure-contract.v4.sha256" ++
    contract.object.name.material ++ contract.protocolLayout.descriptorSetHash.bytes ++
    contract.protocolLayout.frameEnvelopeHash.bytes ++ columnsMaterial contract.inputs ++
    countPrefixed QualifiedName.material contract.structuredInputs ++
    countPrefixed ResultStreamContract.material contract.resultStreams ++
    contract.policyMaterial)

def policyVersion : Digest32 :=
  sha256 (strMaterial "andromeda.catalog.policy-version.v1.sha256" ++ contract.policyMaterial)

def validateCanonicalHash : Result Unit := do
  contract.validate
  failIf (contract.contractHash ≠ contract.canonicalHash)
    (contractError "procedure contract hash must match canonical contract shape")

/-- `binding().validate()`: the checks of `ProcedureContractBinding` on the projected fields. -/
def validateBinding : Result Unit := do
  failIf (contract.procedureId = 0) (contractError "procedure binding id must not be zero")
  failIf (contract.object.catalogVersion = 0)
    (contractError "procedure binding catalog version must not be zero")
  failIf contract.contractHash.IsZero
    (contractError "procedure binding contract hash must not be zero")
  failIf (contract.statsVersion = 0)
    (contractError "procedure binding stats version must not be zero")
  failIf contract.policyVersion.IsZero
    (contractError "procedure binding policy version must not be zero")

end

end ProcedureContract

structure TableDefinition where
  object : CatalogObjectRef
  columns : List ColumnDescriptor
deriving DecidableEq

def TableDefinition.validate (definition : TableDefinition) : Result Unit := do
  definition.object.validateForDefinition .table
  validateColumns definition.columns

structure StructuredObjectDefinition where
  object : CatalogObjectRef
  fields : List ColumnDescriptor
  uniqueBy : List String
deriving DecidableEq

def StructuredObjectDefinition.validate (definition : StructuredObjectDefinition) :
    Result Unit := do
  definition.object.validateForDefinition .structuredObject
  validateColumns definition.fields
  definition.uniqueBy.forM fun uniqueField =>
    failIf (uniqueField ∉ definition.fields.map ColumnDescriptor.name)
      (catalogError "structured object unique key must reference an existing field")

structure EnumVariant where
  name : String
  value : Int64
deriving DecidableEq

structure EnumDefinition where
  object : CatalogObjectRef
  variants : List EnumVariant
deriving DecidableEq

/-- The loop over the variants, with the names and values so far. -/
def validateVariantsFrom (names : List String) (values : List Int64) :
    List EnumVariant → Result Unit
  | [] => .ok ()
  | variant :: variants => do
    failIf ((trim variant.name).isEmpty = true)
      (catalogError "enum variant name must not be empty")
    failIf (variant.name ∈ names) (catalogError "enum variant names must be unique")
    failIf (variant.value ∈ values) (catalogError "enum variant values must be unique")
    validateVariantsFrom (variant.name :: names) (variant.value :: values) variants

def EnumDefinition.validate (definition : EnumDefinition) : Result Unit := do
  definition.object.validateForDefinition .enum
  failIf (definition.variants = [])
    (catalogError "enum definition must contain at least one variant")
  validateVariantsFrom [] [] definition.variants

inductive CatalogDefinition where
  | table (definition : TableDefinition)
  | structuredObject (definition : StructuredObjectDefinition)
  | enum (definition : EnumDefinition)
  | procedure (contract : ProcedureContract)
deriving DecidableEq

inductive CatalogDependencyKind where
  | namespaceContainsObject
  | procedureStructuredInput
  | procedureReadsTable
  | procedureWritesTable
  | procedureEmitsStructuredObject
deriving DecidableEq

namespace CatalogDependencyKind

def dependentKind : CatalogDependencyKind → ObjectKind
  | .namespaceContainsObject => .namespace
  | .procedureStructuredInput | .procedureReadsTable | .procedureWritesTable
  | .procedureEmitsStructuredObject => .procedure

def fixedDependencyKind : CatalogDependencyKind → Option ObjectKind
  | .namespaceContainsObject => none
  | .procedureStructuredInput | .procedureEmitsStructuredObject => some .structuredObject
  | .procedureReadsTable | .procedureWritesTable => some .table

def tag : CatalogDependencyKind → UInt8
  | .procedureStructuredInput => 0
  | .procedureReadsTable => 1
  | .procedureWritesTable => 2
  | .procedureEmitsStructuredObject => 3
  | .namespaceContainsObject => 4

end CatalogDependencyKind

structure CatalogDependency where
  kind : CatalogDependencyKind
  dependentName : QualifiedName
  dependentKind : ObjectKind
  dependencyName : QualifiedName
  dependencyKind : ObjectKind

namespace CatalogDependency

def procedureStructuredInput (dependentName dependencyName : QualifiedName) : CatalogDependency :=
  { kind := .procedureStructuredInput
    dependentName
    dependentKind := .procedure
    dependencyName
    dependencyKind := .structuredObject }

def validate (dependency : CatalogDependency) : Result Unit := do
  failIf (dependency.dependentKind ≠ dependency.kind.dependentKind)
    (catalogError "catalog dependency dependent kind must match dependency kind")
  failIf (dependency.kind.fixedDependencyKind.any (dependency.dependencyKind ≠ ·) = true)
    (catalogError "catalog dependency dependency kind must match dependency kind")
  failIf (dependency.dependentName = dependency.dependencyName)
    (catalogError "catalog dependency dependent and dependency names must differ")

end CatalogDependency

def CatalogObjectRef.shapeMaterial (object : CatalogObjectRef) : Bytes :=
  u64 object.objectId ++ u64 object.catalogVersion ++ [object.kind.tag] ++ object.name.material

namespace CatalogDefinition

def objectRef : CatalogDefinition → CatalogObjectRef
  | .table definition => definition.object
  | .structuredObject definition => definition.object
  | .enum definition => definition.object
  | .procedure contract => contract.object

def validate : CatalogDefinition → Result Unit
  | .table definition => definition.validate
  | .structuredObject definition => definition.validate
  | .enum definition => definition.validate
  | .procedure contract => contract.validateCanonicalHash

def shapeHash : CatalogDefinition → ContractHash
  | .table definition =>
    sha256 (strMaterial "andromeda.catalog.table-shape.v2.sha256" ++
      definition.object.shapeMaterial ++ columnsMaterial definition.columns)
  | .structuredObject definition =>
    sha256 (strMaterial "andromeda.catalog.structured-object-shape.v2.sha256" ++
      definition.object.shapeMaterial ++ columnsMaterial definition.fields ++
      countPrefixed strMaterial definition.uniqueBy)
  | .enum definition =>
    sha256 (strMaterial "andromeda.catalog.enum-shape.v2.sha256" ++
      definition.object.shapeMaterial ++
      countPrefixed (fun variant => strMaterial variant.name ++
        u64 variant.value.toUInt64) definition.variants)
  | .procedure contract =>
    sha256 (strMaterial "andromeda.catalog.procedure-definition-shape.v1.sha256" ++
      contract.object.shapeMaterial ++ u64 contract.procedureId ++
      contract.contractHash.bytes ++ u64 contract.statsVersion ++
      contract.policyVersion.bytes)

def dependencies : CatalogDefinition → List CatalogDependency
  | .procedure contract =>
    contract.structuredInputs.map (CatalogDependency.procedureStructuredInput contract.object.name)
  | .table _ | .structuredObject _ | .enum _ => []

end CatalogDefinition

end Andromeda.Catalog
