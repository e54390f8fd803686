import Andromeda.Digest.Sha256

/-!
# Names, types and columns of catalog objects

The vocabulary of the catalog: identifiers, qualified names, object references, type
descriptors and columns, with the validators of each. A `QualifiedName` carries the proof
that it went through normalisation, so a name read back from its parts is the same name.

The hash sinks of the source all write the same primitive fields; `strMaterial` and its
companions are those fields.
-/

namespace Andromeda.Catalog

open Fallible List LittleEndian

abbrev CatalogVersion := UInt64
abbrev CatalogObjectId := UInt64
abbrev DatabaseId := UInt64
abbrev NamespaceId := UInt64
abbrev ProcedureId := UInt64

abbrev ContractHash := Digest32

def catalogError (message : String) : Error := ⟨.catalog, message⟩

def contractError (message : String) : Error := ⟨.contract, message⟩

def securityError (message : String) : Error := ⟨.security, message⟩

section

variable (value : String)

def strBytes : Bytes := value.toUTF8.data.toList

theorem fromUTF8_strBytes : String.fromUTF8? ⟨(strBytes value).toArray⟩ = some value := by
  have hbytes : (⟨(strBytes value).toArray⟩ : ByteArray) = value.toUTF8 := by
    rw [strBytes, Array.toArray_toList]
  rw [hbytes]
  exact dif_pos value.isValidUTF8

def isWhitespace (c : Char) : Bool :=
  (9 ≤ c.toNat && c.toNat ≤ 13) || (8192 ≤ c.toNat && c.toNat ≤ 8202) ||
    [32, 133, 160, 5760, 8232, 8233, 8239, 8287, 12288].contains c.toNat

def trim : String :=
  String.ofList ((value.toList.dropWhile isWhitespace).reverse.dropWhile isWhitespace).reverse

def lenPrefixed (bytes : Bytes) : Bytes := u64 (UInt64.ofNat bytes.length) ++ bytes

def strMaterial : Bytes := lenPrefixed (strBytes value)

end

def countPrefixed {α : Type} (write : α → Bytes) (values : List α) : Bytes :=
  u64 (UInt64.ofNat values.length) ++ values.flatMap write

def boolMaterial (value : Bool) : Bytes := [if value then 1 else 0]

def isIdentifierStart (ch : Char) : Bool := ch.isAlpha || ch == '_'

def isIdentifierContinue (ch : Char) : Bool := ch.isAlphanum || ch == '_'

def isIdentifier (part : String) : Bool :=
  match part.toList with
  | [] => false
  | first :: rest => isIdentifierStart first && rest.all isIdentifierContinue

def normalizePart (raw : String) : Result String := do
  let part := trim raw
  failIf (part.toList = []) (catalogError "qualified name must contain non-empty parts")
  failIf (part.toList.any isWhitespace = true)
    (catalogError "qualified name parts must not contain whitespace")
  failIf (isIdentifier part = false) (catalogError
    "qualified name parts must use ASCII letters, digits, or underscore and start with a letter or underscore")
  pure part

variable {part : String}

theorem isIdentifier_of_normalizePart {raw : String} (h : normalizePart raw = .ok part) :
    isIdentifier part = true := by
  simp only [normalizePart, ok_iff] at h
  obtain ⟨-, -, hidentifier, rfl⟩ := h
  exact Bool.of_not_eq_false hidentifier

theorem isWhitespace_of_isIdentifierContinue {ch : Char} (h : isIdentifierContinue ch = true) :
    isWhitespace ch = false := by
  rw [isIdentifierContinue, Char.isAlphanum] at h
  delta Char.isAlpha Char.isUpper Char.isLower at h
  simp only [Char.isDigit, Bool.or_eq_true, Bool.and_eq_true, decide_eq_true_eq, beq_iff_eq] at h
  simp only [isWhitespace, Bool.or_eq_false_iff, Bool.and_eq_false_iff, decide_eq_false_iff_not,
    contains_eq_mem, mem_cons, not_mem_nil, or_false, Char.toNat]
  simp only [UInt32.le_iff_toNat_le, ge_iff_le, Char.reduceVal, UInt32.reduceToNat] at h
  rcases h with h | rfl
  · omega
  · decide

theorem dropWhile_isWhitespace_of_isIdentifier {cs : List Char}
    (h : ∀ c ∈ cs, isWhitespace c = false) : cs.dropWhile isWhitespace = cs := by
  cases cs with
  | nil => rfl
  | cons c cs => rw [dropWhile_cons_of_neg (by simp [h c mem_cons_self])]

theorem noWhitespace_of_isIdentifier (h : isIdentifier part = true) :
    ∀ c ∈ part.toList, isWhitespace c = false := by
  have hstart : ∀ ch, isIdentifierStart ch = true → isIdentifierContinue ch = true := by
    intro ch hch
    simp only [isIdentifierStart, Bool.or_eq_true] at hch
    simp only [isIdentifierContinue, Char.isAlphanum, Bool.or_eq_true]
    tauto
  intro c hc
  apply isWhitespace_of_isIdentifierContinue
  rw [isIdentifier] at h
  split at h
  case h_1 => exact absurd h Bool.false_ne_true
  case h_2 first rest hparts =>
    rw [Bool.and_eq_true, all_eq_true] at h
    rw [hparts] at hc
    rcases mem_cons.mp hc with rfl | hrest
    · exact hstart _ h.1
    · exact h.2 c hrest

theorem normalizePart_of_isIdentifier (h : isIdentifier part = true) :
    normalizePart part = .ok part := by
  have hspace := noWhitespace_of_isIdentifier h
  have htrim : trim part = part := by
    have hreverse : ∀ c ∈ part.toList.reverse, isWhitespace c = false :=
      fun c hc => hspace c (mem_reverse.mp hc)
    rw [trim, dropWhile_isWhitespace_of_isIdentifier hspace,
      dropWhile_isWhitespace_of_isIdentifier hreverse, reverse_reverse, String.ofList_toList]
  have hne : part.toList ≠ [] := by
    intro hnil
    rw [isIdentifier, hnil] at h
    contradiction
  simp only [normalizePart, htrim, ok_iff]
  refine ⟨hne, ?_, by simp [h], trivial⟩
  rw [any_eq_true]
  rintro ⟨c, hc, hwhite⟩
  rw [hspace c hc] at hwhite
  contradiction

structure QualifiedName where
  parts : List String
  nonempty : parts ≠ []
  identifiers : ∀ part ∈ parts, isIdentifier part = true
deriving DecidableEq

namespace QualifiedName

variable {parts : List String}

theorem identifiers_of_mapM {raw : List String} (h : raw.mapM normalizePart = .ok parts) :
    ∀ part ∈ parts, isIdentifier part = true := by
  induction raw generalizing parts with
  | nil =>
    rw [mapM_nil, pure_eq_ok] at h
    rw [← h]
    exact forall_mem_nil _
  | cons value raw ih =>
    rw [mapM_cons, bind_eq_ok] at h
    obtain ⟨part, hpart, h⟩ := h
    rw [bind_eq_ok] at h
    obtain ⟨rest, hrest, h⟩ := h
    rw [pure_eq_ok] at h
    rw [← h]
    exact forall_mem_cons.mpr ⟨isIdentifier_of_normalizePart hpart, ih hrest⟩

def new (raw : List String) : Result QualifiedName :=
  match h : raw.mapM normalizePart with
  | .error e => .error e
  | .ok parts =>
    if hne : parts = [] then
      .error (catalogError "qualified name must contain non-empty parts")
    else .ok ⟨parts, hne, identifiers_of_mapM h⟩

section

variable (name : QualifiedName)

theorem new_parts : new name.parts = .ok name := by
  have hparts := mapM_eq_ok_map (f := normalizePart) (g := id) fun part hpart =>
    normalizePart_of_isIdentifier (name.identifiers part hpart)
  rw [map_id] at hparts
  unfold new
  split
  case h_1 e herror =>
    rw [hparts] at herror
    contradiction
  case h_2 parts hok =>
    obtain rfl : name.parts = parts := by
      rw [hparts] at hok
      exact Except.ok.inj hok
    rw [dif_neg name.nonempty]

def asCatalogPath : String := ".".intercalate name.parts

def material : Bytes := countPrefixed strMaterial name.parts

end

end QualifiedName

inductive AbsencePolicy where
  | required
  | explicitOptional
deriving DecidableEq

def AbsencePolicy.tag : AbsencePolicy → UInt8
  | .required => 0
  | .explicitOptional => 1

inductive DecimalType where
  | min
  | mid
  | max
  | custom (precision scale : UInt8)
deriving DecidableEq

def DecimalType.validate : DecimalType → Result Unit
  | .custom precision scale =>
    failIf (precision = 0 ∨ precision < scale)
      (contractError "decimal precision must be positive and scale must not exceed precision")
  | _ => .ok ()

inductive FloatMode where
  | approximate
  | deterministicAnalytics
deriving DecidableEq

def FloatMode.tag : FloatMode → UInt8
  | .approximate => 0
  | .deterministicAnalytics => 1

inductive FloatType where
  | min
  | mid
  | max
  | custom (bits : UInt16) (mode : FloatMode)
deriving DecidableEq

def FloatType.validate : FloatType → Result Unit
  | .custom bits mode => do
    failIf (bits ∉ [16, 32, 64, 128])
      (contractError "custom float bits must be one of 16, 32, 64, or 128")
    failIf (mode ≠ .deterministicAnalytics)
      (contractError "custom float mode must be deterministic")
  | _ => .ok ()

def FloatType.canBackExactInvariant (_ : FloatType) : Bool := false

inductive TextEncoding where
  | utf8
  | utf16
  | unicode
deriving DecidableEq

def TextEncoding.tag : TextEncoding → UInt8
  | .utf8 => 0
  | .utf16 => 1
  | .unicode => 2

structure TextType where
  encoding : TextEncoding
  maxLength : Option UInt32
  collation : Option String
deriving DecidableEq

def TextType.validate (text : TextType) : Result Unit := do
  failIf (text.maxLength = some 0)
    (contractError "text max length must be positive when present")
  failIf (text.collation.any (fun collation => (trim collation).isEmpty) = true)
    (contractError "text collation must not be empty when present")

inductive TimestampType where
  | transaction
  | invocation
  | monotonicEpoch
deriving DecidableEq

def TimestampType.tag : TimestampType → UInt8
  | .transaction => 0
  | .invocation => 1
  | .monotonicEpoch => 2

inductive ScalarType where
  | i8
  | i16
  | i32
  | i64
  | i128
  | u8
  | u16
  | u32
  | u64
  | u128
  | decimal (decimal : DecimalType)
  | float (float : FloatType)
  | bool
  | text (text : TextType)
  | timestamp (timestamp : TimestampType)
deriving DecidableEq

structure TypeDescriptor where
  scalar : ScalarType
  absence : AbsencePolicy
deriving DecidableEq

namespace TypeDescriptor

def required (scalar : ScalarType) : TypeDescriptor := ⟨scalar, .required⟩

def validate (descriptor : TypeDescriptor) : Result Unit :=
  match descriptor.scalar with
  | .decimal decimal => decimal.validate
  | .float float => do
    float.validate
    failIf (float.canBackExactInvariant = true)
      (contractError "float types must not back exact relational invariants")
  | .text text => text.validate
  | _ => .ok ()

end TypeDescriptor

/-! ### The hash material of a type

`canonical_type_descriptor_bytes` and the sink of structured object shapes write the same
bytes. -/

def DecimalType.material : DecimalType → Bytes
  | .min => [0]
  | .mid => [1]
  | .max => [2]
  | .custom precision scale => [3, precision, scale]

def FloatType.material : FloatType → Bytes
  | .min => [0]
  | .mid => [1]
  | .max => [2]
  | .custom bits mode => 3 :: u16 bits ++ [mode.tag]

def ScalarType.material : ScalarType → Bytes
  | .i8 => [0]
  | .i16 => [1]
  | .i32 => [2]
  | .i64 => [3]
  | .i128 => [4]
  | .u8 => [5]
  | .u16 => [6]
  | .u32 => [7]
  | .u64 => [8]
  | .u128 => [9]
  | .decimal shape => 10 :: shape.material
  | .float shape => 11 :: shape.material
  | .bool => [12]
  | .text shape =>
    [13, shape.encoding.tag] ++ LittleEndian.u32 (shape.maxLength.getD 0) ++
      boolMaterial shape.maxLength.isSome ++
      match shape.collation with
      | some collation => 1 :: strMaterial collation
      | none => [0]
  | .timestamp source => [14, source.tag]

def TypeDescriptor.material (descriptor : TypeDescriptor) : Bytes :=
  descriptor.scalar.material ++ [descriptor.absence.tag]

structure ColumnDescriptor where
  name : String
  dataType : TypeDescriptor
  ordinal : UInt32
deriving DecidableEq

namespace ColumnDescriptor

def validate (column : ColumnDescriptor) : Result Unit := do
  failIf ((trim column.name).isEmpty = true) (contractError "column name must not be empty")
  column.dataType.validate

def material (column : ColumnDescriptor) : Bytes :=
  strMaterial column.name ++ column.dataType.material ++ LittleEndian.u32 column.ordinal

end ColumnDescriptor

def columnsMaterial (columns : List ColumnDescriptor) : Bytes :=
  countPrefixed ColumnDescriptor.material columns

/-- The loop over the columns, with the ordinal the next one must have and the names so far. -/
def validateColumnsFrom (expectedOrdinal : Nat) (names : List String) :
    List ColumnDescriptor → Result Unit
  | [] => .ok ()
  | column :: columns => do
    column.validate
    failIf (column.name ∈ names) (catalogError "column names must be unique")
    failIf (column.ordinal ≠ UInt32.ofNat expectedOrdinal)
      (catalogError "column ordinals must be dense and zero-based")
    validateColumnsFrom (expectedOrdinal + 1) (column.name :: names) columns

section

variable (columns : List ColumnDescriptor)

/-- `validate_columns_with_min`, the same in the contract crates and in the shape of
structured objects. -/
def validateColumnsWithMin (requireNonEmpty : Bool) : Result Unit := do
  failIf (requireNonEmpty = true ∧ columns = []) (catalogError "column list must not be empty")
  validateColumnsFrom 0 [] columns

def validateColumns : Result Unit :=
  validateColumnsWithMin columns true

def validateColumnsAllowEmpty : Result Unit :=
  validateColumnsWithMin columns false

end

inductive ObjectKind where
  | database
  | namespace
  | table
  | map
  | enum
  | structuredObject
  | procedure
deriving DecidableEq

def ObjectKind.tag : ObjectKind → UInt8
  | .database => 0
  | .namespace => 1
  | .table => 2
  | .map => 3
  | .enum => 4
  | .structuredObject => 5
  | .procedure => 6

structure CatalogObjectRef where
  objectId : CatalogObjectId
  name : QualifiedName
  kind : ObjectKind
  catalogVersion : CatalogVersion
deriving DecidableEq

namespace CatalogObjectRef

def validateForDefinition (object : CatalogObjectRef) (expectedKind : ObjectKind) :
    Result Unit := do
  failIf (object.objectId = 0) (catalogError "catalog object id must not be zero")
  failIf (object.catalogVersion = 0) (catalogError "catalog object version must not be zero")
  failIf (object.kind ≠ expectedKind)
    (catalogError "catalog object kind must match its definition")

end CatalogObjectRef

end Andromeda.Catalog
