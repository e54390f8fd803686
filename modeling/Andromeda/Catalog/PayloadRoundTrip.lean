import Andromeda.Catalog.PayloadCodec

/-!
# Decoding undoes encoding

Field by field, then record by record: the decoder reads back what the encoder wrote. The
encoder refuses a body whose length does not fit 64 bits, so no length or count inside a body
is ever truncated.
-/

namespace Andromeda.Catalog

open Fallible ByteReader List
open LittleEndian hiding u16
open Reads hiding lift map u32 u64

theorem reads_tag {α : Type} {fromTag : UInt8 → Result α} {tag : UInt8} {value : α}
    (h : fromTag tag = .ok value) : Reads (readTag fromTag) [tag] value :=
  (u8 tag).bind_nil (Reads.lift h)

theorem reads_tagIn {α : Type} {values : List α} {unknown : Error} {tag : UInt8} {value : α}
    (h : values[tag.toNat]? = some value) : Reads (readTag (tagIn values unknown)) [tag] value :=
  reads_tag (orError_eq_ok.mpr h)

theorem reads_bool (value : Bool) : Reads readBool (boolMaterial value) value := by
  cases value <;> exact reads_tag rfl

theorem reads_string (value : String) : Reads readString (encodeString value) value := by
  apply (sized (strBytes value)).bind_nil
  apply Reads.lift
  rw [orError_eq_ok]
  exact fromUTF8_strBytes value

theorem reads_digest {wrongWidth : Error} (digest : Digest32) :
    Reads (do let bytes ← slice bodyFaults 32; lift (digestOf wrongWidth bytes)) digest.bytes
      digest := by
  have hslice : Reads (slice bodyFaults digest.bytes.length) digest.bytes digest.bytes :=
    slice digest.bytes
  rw [digest.length_bytes] at hslice
  exact hslice.bind_nil (Reads.lift (dif_pos digest.length_bytes))

theorem reads_optional {α : Type} {reader : Reader Error α} {write : α → Bytes} {value : Option α}
    (h : ∀ a, value = some a → Reads reader (write a) a) :
    Reads (readOptional reader) (encodeOptional write value) value := by
  cases value with
  | none => exact (reads_bool false).bind_nil (pure none)
  | some a => exact (reads_bool true).bind (h a rfl).map

theorem length_encodeString (value : String) : 1 ≤ (encodeString value).length := by
  rw [encodeString, strMaterial, lenPrefixed, length_append, length_u64]
  omega

theorem reads_strings (values : List String) : Reads decodeStrings (encodeStrings values) values :=
  counted (fun value _ => reads_string value) (fun value _ => length_encodeString value)

theorem reads_qualifiedName (name : QualifiedName) :
    Reads decodeQualifiedName (encodeQualifiedName name) name :=
  (reads_strings name.parts).bind_nil (Reads.lift name.new_parts)

theorem length_encodeQualifiedName (name : QualifiedName) :
    1 ≤ (encodeQualifiedName name).length := by
  rw [encodeQualifiedName, encodeStrings, countPrefixed, length_append, length_u64]
  omega

theorem reads_qualifiedNames (names : List QualifiedName) :
    Reads decodeQualifiedNames (encodeQualifiedNames names) names :=
  counted (fun name _ => reads_qualifiedName name) (fun name _ => length_encodeQualifiedName name)

theorem reads_objectKind (kind : ObjectKind) : Reads (readTag objectKindFromTag) [kind.tag] kind := by
  cases kind <;> exact reads_tag rfl

theorem reads_objectRef (object : CatalogObjectRef) :
    Reads decodeObjectRef (encodeObjectRef object) object := by
  simp only [encodeObjectRef, append_assoc]
  exact (Reads.u64 _).bind ((reads_qualifiedName _).bind ((reads_objectKind _).bind
    (Reads.u64 _).map))

/-! ## Types and columns -/

theorem reads_decimalType (decimal : DecimalType) :
    Reads decodeDecimalType (encodeDecimalType decimal) decimal := by
  cases decimal with
  | min => exact (u8 0).bind_nil (pure _)
  | mid => exact (u8 1).bind_nil (pure _)
  | max => exact (u8 2).bind_nil (pure _)
  | custom precision scale =>
    exact (u8 3).bind ((u8 precision).bind (u8 scale).map)

theorem reads_floatType (float : FloatType) :
    Reads decodeFloatType (encodeFloatType float) float := by
  cases float with
  | min => exact (u8 0).bind_nil (pure _)
  | mid => exact (u8 1).bind_nil (pure _)
  | max => exact (u8 2).bind_nil (pure _)
  | custom bits mode =>
    exact (u8 3).bind ((u16 bits).bind (reads_tagIn (by cases mode <;> rfl)).map)

theorem reads_textType (text : TextType) : Reads decodeTextType
      ([text.encoding.tag] ++ (encodeOptional u32 text.maxLength ++
        encodeOptional encodeString text.collation)) text := by
  have hmaxLength : Reads (readOptional (u32 bodyFaults))
      (encodeOptional u32 text.maxLength) text.maxLength :=
    reads_optional fun n _ => Reads.u32 n
  have hcollation : Reads (readOptional readString) (encodeOptional encodeString text.collation)
      text.collation := reads_optional fun value _ => reads_string value
  exact (reads_tagIn (by cases text.encoding <;> rfl)).bind (hmaxLength.bind hcollation.map)

theorem reads_scalarType (scalar : ScalarType) :
    Reads decodeScalarType (encodeScalarType scalar) scalar := by
  cases scalar with
  | i8 => exact (u8 0).bind_nil (pure _)
  | i16 => exact (u8 1).bind_nil (pure _)
  | i32 => exact (u8 2).bind_nil (pure _)
  | i64 => exact (u8 3).bind_nil (pure _)
  | i128 => exact (u8 4).bind_nil (pure _)
  | u8 => exact (u8 5).bind_nil (pure _)
  | u16 => exact (u8 6).bind_nil (pure _)
  | u32 => exact (u8 7).bind_nil (pure _)
  | u64 => exact (u8 8).bind_nil (pure _)
  | u128 => exact (u8 9).bind_nil (pure _)
  | decimal shape => exact (u8 10).bind (reads_decimalType shape).map
  | float shape => exact (u8 11).bind (reads_floatType shape).map
  | bool => exact (u8 12).bind_nil (pure _)
  | text shape =>
    simp only [encodeScalarType, append_assoc]
    exact (u8 13).bind (reads_textType shape).map
  | timestamp source =>
    exact (u8 14).bind (reads_tagIn (by cases source <;> rfl)).map

theorem reads_typeDescriptor (descriptor : TypeDescriptor) :
    Reads decodeTypeDescriptor (encodeTypeDescriptor descriptor) descriptor :=
  (reads_scalarType descriptor.scalar).bind
    (reads_tagIn (by cases descriptor.absence <;> rfl)).map

theorem reads_column (column : ColumnDescriptor) :
    Reads decodeColumn (encodeColumn column) column := by
  simp only [encodeColumn, append_assoc]
  exact (reads_string _).bind ((reads_typeDescriptor _).bind (Reads.u32 _).map)

theorem reads_columns (columns : List ColumnDescriptor) :
    Reads decodeColumns (encodeColumns columns) columns := by
  apply counted fun column _ => reads_column column
  intro column _
  have hname := length_encodeString column.name
  rw [encodeColumn, length_append, length_append]
  omega

theorem reads_structuredObject (object : StructuredObjectDefinition) :
    Reads decodeStructuredObject (encodeStructuredObject object) object := by
  simp only [encodeStructuredObject, append_assoc]
  exact (reads_objectRef _).bind ((reads_columns _).bind (reads_strings _).map)

theorem reads_variant (variant : EnumVariant) :
    Reads decodeVariant (encodeVariant variant) variant :=
  (reads_string variant.name).bind ((Reads.u64 variant.value.toUInt64).map).map

theorem reads_enum (definition : EnumDefinition) :
    Reads decodeEnum (encodeEnum definition) definition := by
  apply (reads_objectRef definition.object).bind
  apply Reads.map
  apply counted fun variant _ => reads_variant variant
  intro variant _
  have hname := length_encodeString variant.name
  rw [encodeVariant, length_append]
  omega

theorem reads_resultStream (stream : ResultStreamContract) :
    Reads decodeResultStream (encodeResultStream stream) stream := by
  simp only [encodeResultStream, append_assoc]
  exact (Reads.u64 _).bind ((reads_string _).bind ((reads_columns _).bind ((reads_bool _).bind
    (reads_tagIn (by cases stream.cardinality <;> rfl)).map)))

theorem reads_resultStreams (streams : List ResultStreamContract) :
    Reads (counted bodyFaults decodeResultStream) (countPrefixed encodeResultStream streams)
      streams := by
  apply counted fun stream _ => reads_resultStream stream
  intro stream _
  have hname := length_encodeString stream.name
  simp only [encodeResultStream, length_append]
  omega

theorem reads_transactionPolicy (policy : TransactionPolicy) :
    Reads decodeTransactionPolicy (encodeTransactionPolicy policy) policy := by
  simp only [encodeTransactionPolicy, append_assoc]
  exact (reads_tagIn (by cases policy.accessMode <;> rfl)).bind
    ((reads_tagIn (by cases policy.isolation <;> rfl)).bind (reads_bool _).map)

theorem reads_procedure (procedure : ProcedureContract) :
    Reads decodeProcedure (encodeProcedure procedure) procedure := by
  simp only [encodeProcedure, append_assoc]
  exact (reads_objectRef _).bind ((Reads.u64 _).bind ((reads_digest _).bind ((Reads.u64 _).bind
    ((reads_digest _).bind ((reads_digest _).bind ((reads_columns _).bind
    ((reads_qualifiedNames _).bind ((reads_resultStreams _).bind ((reads_strings _).bind
    ((reads_transactionPolicy _).bind ((reads_tagIn
    (by cases procedure.compatibilityPolicy <;> rfl)).bind ((reads_tagIn
    (by cases procedure.resultMetadataPolicy <;> rfl)).bind ((reads_bool _).bind
    ((reads_strings _).bind (reads_tagIn
    (by cases procedure.multiResultPolicy <;> rfl)).map))))))))))))))

theorem reads_definition (definition : CatalogDefinition) :
    Reads decodeDefinition (encodeDefinition definition) definition := by
  cases definition with
  | table table => exact (u8 0).bind ((reads_objectRef _).bind (reads_columns _).map).map
  | structuredObject object => exact (u8 1).bind (reads_structuredObject object).map
  | enum definition => exact (u8 2).bind (reads_enum definition).map
  | procedure procedure => exact (u8 3).bind (reads_procedure procedure).map

theorem reads_operation (operation : CatalogMutationOperation) : Reads decodeOperation
      (match operation with
        | .createObject object definition =>
          [0] ++ encodeObjectRef object ++ encodeDefinition definition
        | .deprecateObject target => [1] ++ encodeLifecycleTarget target) operation := by
  cases operation with
  | createObject object definition =>
    simp only [append_assoc]
    exact (u8 0).bind ((reads_objectRef object).bind (reads_definition definition).map)
  | deprecateObject target =>
    have htarget : Reads decodeLifecycleTarget (encodeLifecycleTarget target) target :=
      (reads_objectRef target.object).map
    exact (u8 1).bind htarget.map

theorem reads_delta {delta : CatalogMutationDelta} (hindex : delta.operationIndex < 2 ^ 64)
    (hvalid : delta.validate = .ok ()) : Reads decodeDelta (encodeDelta delta) delta := by
  have hnat : (UInt64.ofNat delta.operationIndex).toNat = delta.operationIndex :=
    UInt64.toNat_ofNat_of_lt' hindex
  rw [encodeDelta, append_assoc]
  apply (Reads.u64 _).bind
  apply (Reads.u64 _).bind
  apply (reads_operation delta.operation).bind_nil
  simp only [hnat]
  exact (Reads.lift hvalid).bind_nil (pure delta)

theorem reads_boundary {boundary : CatalogMutationBoundary} (hvalid : boundary.validate = .ok ()) :
    Reads decodeBoundary (encodeBoundary boundary) boundary := by
  have hcount : (UInt64.ofNat boundary.expectedApplyCount).toNat = boundary.expectedApplyCount := by
    have hchecks := hvalid
    simp only [CatalogMutationBoundary.validate, ok_iff] at hchecks
    obtain ⟨-, -, -, -, -, -, -, hlimit, -⟩ := hchecks
    have hsmall : boundary.expectedApplyCount ≤ 1024 := Nat.le_of_not_lt hlimit
    exact UInt64.toNat_ofNat_of_lt' (Nat.lt_of_le_of_lt hsmall (by decide))
  have hsemantics : [.plannedVersionOnly, .durablePublicationExternal][
      boundary.publicationSemantics.tag.toNat]? = some boundary.publicationSemantics := by
    cases boundary.publicationSemantics <;> rfl
  simp only [encodeBoundary, append_assoc]
  apply (Reads.u64 _).bind
  apply (Reads.u64 _).bind
  apply (Reads.u64 _).bind
  apply (Reads.u64 _).bind
  apply (Reads.u64 _).bind
  apply (reads_digest _).bind
  apply (reads_digest _).bind
  apply (Reads.u64 _).bind
  apply (reads_tagIn hsemantics).bind_nil
  simp only [hcount]
  exact (Reads.lift hvalid).bind_nil (pure boundary)

/-- The index of an apply record fits the 64 bits of the source's `usize`. -/
def CatalogMutationRecord.IndexFits : CatalogMutationRecord → Prop
  | .begin _ | .commit _ => True
  | .apply delta => delta.operationIndex < 2 ^ 64

variable {record : CatalogMutationRecord}

theorem reads_body (hindex : record.IndexFits) (hvalid : record.validate = .ok ()) :
    Reads (decodeBody record.kind) (encodeBody record) record := by
  cases record with
  | begin boundary | commit boundary => exact (reads_boundary hvalid).map
  | apply delta => exact (reads_delta hindex hvalid).map

theorem length_encodePayloadHeader (kindTag : UInt16) (bodyLen checksum : UInt64) :
    (encodePayloadHeader kindTag bodyLen checksum).length = payloadHeaderLen := by
  simp [encodePayloadHeader, payloadHeaderLen]

theorem decodePayloadHeader_encode (kind : CatalogMutationRecordKind) (bodyLen checksum : UInt64)
    (body : Bytes) :
    decodePayloadHeader (encodePayloadHeader kind.storageWalKindTag bodyLen checksum ++ body) =
      .ok ⟨payloadVersion, kind, kind.storageWalKindTag, bodyLen, checksum⟩ := by
  have hlength := length_encodePayloadHeader kind.storageWalKindTag bodyLen checksum
  have hmagic : failIf (payloadMagic ≠ payloadMagic)
      (⟨.magicMismatch, "catalog WAL payload magic mismatch"⟩ : CatalogWalPayloadDecodeError) =
        .ok () := failIf_eq_ok.mpr fun h => h rfl
  have hversion : validatePayloadVersion payloadVersion = .ok () := rfl
  have hkind : orError (CatalogMutationRecordKind.fromStorageWalKindTag kind.storageWalKindTag)
      (⟨.unknownRecordKindTag, "unknown catalog WAL record kind tag"⟩ :
        CatalogWalPayloadDecodeError) = .ok kind := by
    rw [orError_eq_ok]
    cases kind <;> rfl
  have hread : Reads readPayloadHeader (encodePayloadHeader kind.storageWalKindTag bodyLen checksum)
      ⟨payloadVersion, kind, kind.storageWalKindTag, bodyLen, checksum⟩ := by
    simp only [encodePayloadHeader, append_assoc]
    apply (Reads.u64 payloadMagic).bind
    apply (Reads.lift hmagic).bind
    apply (u16 payloadVersion).bind
    apply (Reads.lift hversion).bind
    apply (u16 kind.storageWalKindTag).bind
    apply (Reads.lift hkind).bind
    exact (Reads.u64 bodyLen).bind (Reads.u64 checksum).map
  have hrun := hread 0 body (by rw [hlength]; decide)
  have henough : ¬ (encodePayloadHeader kind.storageWalKindTag bodyLen checksum ++ body).length <
      payloadHeaderLen := by
    rw [length_append, hlength]
    omega
  simp only [decodePayloadHeader, ok_iff]
  exact ⟨henough, _, hrun, rfl⟩

theorem decode_writtenPayload {bodyLen : UInt64} (hindex : record.IndexFits)
    (hvalid : record.validate = .ok ()) (hlen : bodyLen.toNat = (encodeBody record).length) :
    decodeCatalogDurablePayload (encodePayloadHeader record.kind.storageWalKindTag bodyLen
      (catalogWalPayloadChecksum payloadVersion record.kind.storageWalKindTag bodyLen
        (encodeBody record)) ++ encodeBody record) = .ok record := by
  have hsmall := bodyLen.toNat_lt
  have hbody := reads_body hindex hvalid 0 [] (by omega)
  rw [append_nil] at hbody
  have hheader := length_encodePayloadHeader record.kind.storageWalKindTag bodyLen
    (catalogWalPayloadChecksum payloadVersion record.kind.storageWalKindTag bodyLen
      (encodeBody record))
  rw [decodeCatalogDurablePayload, decodePayloadHeader_encode]
  simp only [ok_iff, payloadBody, verifyPayloadChecksum, finish, mapError_eq_ok]
  refine ⟨_, rfl, encodeBody record, ⟨?_, ?_⟩, rfl, (record, _), hbody, rfl, hvalid, rfl⟩
  · rw [length_append, hheader, Nat.add_sub_cancel_left]
    exact hlen.symm
  · rw [← hheader, drop_left]

/-- Decoding undoes encoding. -/
theorem decode_encodeCatalogDurablePayload {payload : Bytes} (hindex : record.IndexFits)
    (h : encodeCatalogDurablePayload record = .ok payload) :
    decodeCatalogDurablePayload payload = .ok record := by
  simp only [encodeCatalogDurablePayload, ok_iff] at h
  obtain ⟨hvalid, hfits, rfl⟩ := h
  exact decode_writtenPayload hindex hvalid (UInt64.toNat_ofNat_of_lt' (Nat.lt_of_not_le hfits))

def restockRecord : CatalogMutationRecord := .apply (.create 1 8 (.procedure restock))

theorem decode_encode_restockRecord : ∃ payload,
    encodeCatalogDurablePayload restockRecord = .ok payload ∧
      decodeCatalogDurablePayload payload = .ok restockRecord := by
  obtain ⟨payload, h⟩ := succeeds_iff.mp
    (by decide +kernel : succeeds (encodeCatalogDurablePayload restockRecord) = true)
  exact ⟨payload, h, decode_encodeCatalogDurablePayload (Nat.one_lt_two_pow (by decide)) h⟩

end Andromeda.Catalog
