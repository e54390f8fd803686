import Andromeda.Lib.Fallible
import Andromeda.Lib.LittleEndian

/-!
# Readers of a byte string

A reader takes a value off the front of the bytes still to come and moves its cursor past it.
`Reads reader encoded value` says that the reader undoes one encoding in front of any bytes,
as long as the cursor stays within 64 bits; the rules below build such facts field by field,
following the writer.
-/

namespace ByteReader

open List LittleEndian

structure Cursor where
  offset : Nat
  rest : List UInt8

abbrev Reader (ε α : Type) := StateT Cursor (Except ε) α

structure Faults (ε : Type) where
  overflow : ε
  truncated : ε

variable {ε α β : Type}

section

variable (faults : Faults ε)

def slice (len : Nat) : Reader ε (List UInt8) := fun cursor =>
  if 2 ^ 64 ≤ cursor.offset + len then .error faults.overflow
  else if cursor.rest.length < len then .error faults.truncated
  else .ok (cursor.rest.take len, ⟨cursor.offset + len, cursor.rest.drop len⟩)

def lift (x : Except ε α) : Reader ε α := fun cursor => do
  let value ← x
  pure (value, cursor)

def u8 : Reader ε UInt8 := do
  let bytes ← slice faults 1
  pure (bytes.headD 0)

def u16 : Reader ε UInt16 := do
  let bytes ← slice faults 2
  pure (UInt16.ofNat (decode bytes))

def u32 : Reader ε UInt32 := do
  let bytes ← slice faults 4
  pure (UInt32.ofNat (decode bytes))

def u64 : Reader ε UInt64 := do
  let bytes ← slice faults 8
  pure (UInt64.ofNat (decode bytes))

def many (reader : Reader ε α) : Nat → Reader ε (List α)
  | 0 => pure []
  | n + 1 => do
    let value ← reader
    let values ← many reader n
    pure (value :: values)

def counted (reader : Reader ε α) : Reader ε (List α) := do
  let count ← u64 faults
  many reader count.toNat

def sized : Reader ε (List UInt8) := do
  let len ← u64 faults
  slice faults len.toNat

end

/-! ## What a reader undoes -/

/-- The reader turns the encoding into the value, whatever follows it. -/
def Reads (reader : Reader ε α) (encoded : List UInt8) (value : α) : Prop :=
  ∀ offset rest, offset + encoded.length < 2 ^ 64 →
    reader ⟨offset, encoded ++ rest⟩ = .ok (value, ⟨offset + encoded.length, rest⟩)

namespace Reads

variable {reader : Reader ε α} {faults : Faults ε} {encoded : List UInt8} {value : α}

theorem pure (value : α) : Reads (Pure.pure value : Reader ε α) [] value := by
  intro offset rest _
  rfl

theorem lift {x : Except ε α} (h : x = .ok value) : Reads (lift x) [] value := by
  intro offset rest _
  rw [ByteReader.lift, h]
  rfl

variable {next : α → Reader ε β} {value' : β} {write : α → List UInt8} {values : List α}

theorem bind {encoded' : List UInt8} (h : Reads reader encoded value)
    (hnext : Reads (next value) encoded' value') :
    Reads (reader >>= next) (encoded ++ encoded') value' := by
  intro offset rest hbound
  rw [length_append] at hbound ⊢
  have hfirst := h offset (encoded' ++ rest) (by omega)
  have hsecond := hnext (offset + encoded.length) rest (by omega)
  calc (reader >>= next) ⟨offset, encoded ++ encoded' ++ rest⟩
      = (reader ⟨offset, encoded ++ (encoded' ++ rest)⟩ >>= fun p => next p.1 p.2) := by
        rw [append_assoc]
        rfl
    _ = next value ⟨offset + encoded.length, encoded' ++ rest⟩ := by
        rw [hfirst]
        rfl
    _ = .ok (value', ⟨offset + (encoded.length + encoded'.length), rest⟩) := by
        rw [hsecond, Nat.add_assoc]

theorem bind_nil (h : Reads reader encoded value) (hnext : Reads (next value) [] value') :
    Reads (reader >>= next) encoded value' := by
  have hbind := h.bind hnext
  rwa [append_nil] at hbind

theorem map {f : α → β} (h : Reads reader encoded value) :
    Reads (reader >>= fun a => Pure.pure (f a)) encoded (f value) :=
  h.bind_nil (Reads.pure (f value))

theorem slice (bytes : List UInt8) : Reads (slice faults bytes.length) bytes bytes := by
  intro offset rest hbound
  have hfits : ¬ 2 ^ 64 ≤ offset + bytes.length := by omega
  have henough : ¬ (bytes ++ rest).length < bytes.length := by
    rw [length_append]
    omega
  rw [ByteReader.slice, if_neg hfits, if_neg henough, take_left, drop_left]

theorem field {f : List UInt8 → α} {bytes : List UInt8} {width : Nat} (hwidth : bytes.length = width)
    (hvalue : f bytes = value) :
    Reads (do let read ← ByteReader.slice faults width; Pure.pure (f read)) bytes value := by
  subst hwidth hvalue
  exact (slice bytes).map

theorem u8 (byte : UInt8) : Reads (u8 faults) [byte] byte :=
  field rfl rfl

theorem u16 (word : UInt16) : Reads (u16 faults) (LittleEndian.u16 word) word := by
  apply field (length_u16 word)
  rw [LittleEndian.u16, decode_encode word.toNat_lt, UInt16.ofNat_toNat]

theorem u32 (word : UInt32) : Reads (u32 faults) (LittleEndian.u32 word) word := by
  apply field (length_u32 word)
  rw [LittleEndian.u32, decode_encode word.toNat_lt, UInt32.ofNat_toNat]

theorem u64 (word : UInt64) : Reads (u64 faults) (LittleEndian.u64 word) word := by
  apply field (length_u64 word)
  rw [LittleEndian.u64, decode_encode word.toNat_lt, UInt64.ofNat_toNat]

theorem sized (bytes : List UInt8) :
    Reads (sized faults) (LittleEndian.u64 (UInt64.ofNat bytes.length) ++ bytes) bytes := by
  intro offset rest hbound
  have hsmall : bytes.length < 2 ^ 64 := by
    rw [length_append] at hbound
    omega
  have hread : Reads (ByteReader.sized faults)
      (LittleEndian.u64 (UInt64.ofNat bytes.length) ++ bytes) bytes := by
    apply (u64 (UInt64.ofNat bytes.length)).bind
    rw [UInt64.toNat_ofNat_of_lt' hsmall]
    exact slice bytes
  exact hread offset rest hbound

theorem many (h : ∀ value ∈ values, Reads reader (write value) value) :
    Reads (many reader values.length) (values.flatMap write) values := by
  induction values with
  | nil => exact Reads.pure []
  | cons value values ih =>
    have hrest := ih (forall_mem_cons.mp h).2
    exact (h value mem_cons_self).bind hrest.map

theorem length_le_of_nonempty (h : ∀ value ∈ values, 1 ≤ (write value).length) :
    values.length ≤ (values.flatMap write).length := by
  induction values with
  | nil => exact Nat.le_refl 0
  | cons value values ih =>
    have hvalue := h value mem_cons_self
    have hrest := ih (forall_mem_cons.mp h).2
    rw [flatMap_cons, length_append, length_cons]
    omega

theorem counted (h : ∀ value ∈ values, Reads reader (write value) value)
    (hnonempty : ∀ value ∈ values, 1 ≤ (write value).length) : Reads (counted faults reader)
      (LittleEndian.u64 (UInt64.ofNat values.length) ++ values.flatMap write) values := by
  intro offset rest hbound
  have hle := length_le_of_nonempty hnonempty
  rw [length_append] at hbound
  have hsmall : values.length < 2 ^ 64 := by omega
  have hcount : (UInt64.ofNat values.length).toNat = values.length :=
    UInt64.toNat_ofNat_of_lt' hsmall
  have hread : Reads (ByteReader.counted faults reader)
      (LittleEndian.u64 (UInt64.ofNat values.length) ++ values.flatMap write) values := by
    apply (u64 (UInt64.ofNat values.length)).bind
    rw [hcount]
    exact many h
  rw [← length_append] at hbound
  exact hread offset rest hbound

end Reads

end ByteReader
