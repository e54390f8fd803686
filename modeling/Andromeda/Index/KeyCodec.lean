import Andromeda.Catalog.Types

/-!
# Index keys as bytes

`KeyCodec` writes keys so that the index can compare them byte by byte.
-/

namespace Andromeda

open Fallible LittleEndian
open Catalog (strBytes fromUTF8_strBytes)

/-- `KeyDatum`. The variants the codec refuses are one, with the text that `{:?}` gives. -/
inductive KeyDatum where
  | null
  | int32 (value : Int32)
  | int64 (value : Int64)
  | bool (value : Bool)
  | bytes (value : Bytes)
  | text (value : String)
  | unsupported (debug : String)

inductive Key where
  | null
  | int32 (value : Int32)
  | int64 (value : Int64)
  | text (value : String)
  | bytes (value : Bytes)
  | composite (datums : List KeyDatum)

inductive KeyType where
  | null
  | int32
  | int64
  | text
  | bytes
  | composite
deriving DecidableEq

def KeyType.tag : KeyType → UInt8
  | null => 0
  | int32 => 1
  | int64 => 2
  | text => 3
  | bytes => 4
  | composite => 5

def KeyComparator.compare (lhs rhs : Bytes) : Ordering := Ord.compare lhs rhs

namespace KeyCodec

def datumBoolTag : UInt8 := 6

def checkedU16Len (len : Nat) (errMsg : String) : Result UInt16 := do
  failIf (65535 < len) (storageError errMsg)
  pure (.ofNat len)

def encodeLenPrefixedKey (keyType : KeyType) (payload : Bytes) (tooLargeMsg : String) :
    Result Bytes := do
  let payloadLen ← checkedU16Len payload.length tooLargeMsg
  pure (keyType.tag :: u16 payloadLen ++ payload)

def flipSignBit : Bytes → Bytes
  | [] => []
  | b :: bs => (b ^^^ 0x80) :: bs

def encodeInt32OrderPreserving (value : Int32) : Bytes :=
  flipSignBit (u32 value.toUInt32).reverse

def encodeInt64OrderPreserving (value : Int64) : Bytes :=
  flipSignBit (u64 value.toUInt64).reverse

def escape (byte : UInt8) : Bytes := byte :: if byte = 0 then [0xff] else []

def encodeTextOrderPreserving (value : String) : Bytes := (strBytes value).flatMap escape ++ [0]

/-! The branches of `encode_key` that `encode_datum` goes through too. -/

def encodeNull : Result Bytes := encodeLenPrefixedKey .null [] "null key too large"

def encodeInt32 (value : Int32) : Result Bytes :=
  encodeLenPrefixedKey .int32 (encodeInt32OrderPreserving value) "int32 key too large"

def encodeInt64 (value : Int64) : Result Bytes :=
  encodeLenPrefixedKey .int64 (encodeInt64OrderPreserving value) "int64 key too large"

def encodeText (value : String) : Result Bytes := do
  let _ ← checkedU16Len (encodeTextOrderPreserving value).length "text too large for encoding"
  pure (KeyType.text.tag :: encodeTextOrderPreserving value)

def encodeBytes (value : Bytes) : Result Bytes :=
  encodeLenPrefixedKey .bytes value "byte sequence too large for encoding"

def encodeDatum : KeyDatum → Result Bytes
  | .null => encodeNull
  | .int32 value => encodeInt32 value
  | .int64 value => encodeInt64 value
  | .text value => encodeText value
  | .bytes value => encodeBytes value
  | .bool value => .ok [datumBoolTag, if value then 1 else 0]
  | .unsupported debug =>
    .error (storageError s!"unsupported datum variant for durable index key: {debug}")

def encodeColumn (datum : KeyDatum) : Result Bytes := do
  let encoded ← encodeDatum datum
  let _ ← checkedU16Len encoded.length "encoded column too large"
  pure encoded

def encodeKey : Key → Result Bytes
  | .null => encodeNull
  | .int32 value => encodeInt32 value
  | .int64 value => encodeInt64 value
  | .text value => encodeText value
  | .bytes value => encodeBytes value
  | .composite datums => do
    let columnCount ← checkedU16Len datums.length "too many columns in composite key"
    let columns ← datums.mapM encodeColumn
    pure (KeyType.composite.tag :: u16 columnCount ++ columns.flatten)

variable {p q s t : Bytes}

theorem compare_append (h : p.length = q.length) :
    compare (p ++ s) (q ++ t) = (compare p q).then (compare s t) := by
  induction p generalizing q with
  | nil =>
    cases List.length_eq_zero_iff.mp h.symm
    rfl
  | cons a p ih =>
    cases q with
    | nil => cases h
    | cons b q =>
      rw [List.cons_append, List.cons_append, List.compare_cons_cons, List.compare_cons_cons,
        ih (by simpa using h), Ordering.then_assoc]

theorem encodeLenPrefixedKey_eq_ok {keyType : KeyType} {payload encoded : Bytes} {msg : String} :
    encodeLenPrefixedKey keyType payload msg = .ok encoded ↔ payload.length ≤ 65535 ∧
      encoded = keyType.tag :: u16 (.ofNat payload.length) ++ payload := by
  simp only [encodeLenPrefixedKey, checkedU16Len, ok_iff, Nat.not_lt]
  grind

theorem u16_ofNat_inj {m n : Nat} (hm : m ≤ 65535) (hn : n ≤ 65535)
    (h : u16 (.ofNat m) = u16 (.ofNat n)) : m = n := by
  have hread := congrArg (fun bytes => (readU16 (bytes ++ []) 0).toNat) h
  simp only [readU16_u16, UInt16.toNat_ofNat'] at hread
  omega

/-- Two byte keys compare as their bytes do exactly if they have one length, or if their length
prefixes, low byte first, compare so too. -/
theorem bytes_order_iff {a b ea eb : Bytes} (ha : encodeKey (.bytes a) = .ok ea)
    (hb : encodeKey (.bytes b) = .ok eb) :
    KeyComparator.compare ea eb = compare a b ↔ a.length = b.length ∨
      compare (u16 (.ofNat a.length)) (u16 (.ofNat b.length)) = compare a b := by
  obtain ⟨hla, rfl⟩ := encodeLenPrefixedKey_eq_ok.mp ha
  obtain ⟨hlb, rfl⟩ := encodeLenPrefixedKey_eq_ok.mp hb
  rw [KeyComparator.compare, compare_append (by simp), List.compare_cons_cons, Std.compare_self,
    Ordering.eq_then]
  by_cases hlen : a.length = b.length
  · rw [hlen, Std.compare_self]
    simp
  · have hne : compare (u16 (.ofNat a.length)) (u16 (.ofNat b.length)) ≠ .eq := by
      rw [Ne, Std.compare_eq_iff_eq]
      exact fun heq => hlen (u16_ofNat_inj hla hlb heq)
    rw [or_iff_right hlen]
    cases hlengths : compare (u16 (.ofNat a.length)) (u16 (.ofNat b.length)) with
    | eq => exact absurd hlengths hne
    | lt | gt => rfl

theorem bytes_order_of_two_bytes : encodeKey (.bytes [1, 2]) = .ok [4, 2, 0, 1, 2] ∧
    encodeKey (.bytes [1, 3]) = .ok [4, 2, 0, 1, 3] ∧
    KeyComparator.compare [4, 2, 0, 1, 2] [4, 2, 0, 1, 3] = compare [1, 2] ([1, 3] : Bytes) :=
  ⟨rfl, rfl, (bytes_order_iff rfl rfl).mpr (.inl rfl)⟩

/-- The lengths decide before the bytes do. -/
theorem short_key_sorts_first : encodeKey (.bytes [2]) = .ok [4, 1, 0, 2] ∧
    encodeKey (.bytes [1, 1]) = .ok [4, 2, 0, 1, 1] ∧
    KeyComparator.compare [4, 1, 0, 2] [4, 2, 0, 1, 1] = .lt ∧
    compare [2] ([1, 1] : Bytes) = .gt := by
  decide

end KeyCodec

end Andromeda
