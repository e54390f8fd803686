import Mathlib.Tactic.Ring

/-!
# Little-endian integers

The fixed-width little-endian image of a natural number and its inverse, over
lists of bytes. `encode w` truncates to `w` bytes; the round trips say that it
loses nothing below `256 ^ w` and that every byte list is the image of its value.
-/

namespace LittleEndian

open List

/-- The `w` low-order bytes of `n`, least significant first. -/
def encode : Nat → Nat → List UInt8
  | 0, _ => []
  | w + 1, n => UInt8.ofNat n :: encode w (n / 256)

def decode : List UInt8 → Nat
  | [] => 0
  | b :: bs => b.toNat + 256 * decode bs

/-- The number stored in the `w` bytes at offset `off`. -/
def field (bs : List UInt8) (off w : Nat) : Nat :=
  decode ((bs.drop off).take w)

@[simp] theorem length_encode (w n : Nat) : (encode w n).length = w := by
  induction w generalizing n with
  | zero => rfl
  | succ w ih => simp [encode, ih]

variable {bs : List UInt8}

theorem decode_eq_zero (h : ∀ b ∈ bs, b = 0) : decode bs = 0 := by
  induction bs with
  | nil => rfl
  | cons b bs ih =>
    have hrest := ih (forall_mem_cons.mp h).2
    rw [decode, hrest, h b mem_cons_self]
    rfl

theorem decode_lt (bs : List UInt8) : decode bs < 256 ^ bs.length := by
  induction bs with
  | nil => simp [decode]
  | cons b bs ih =>
    have hb := b.toNat_lt
    have hstep : b.toNat + 256 * decode bs < 256 * 256 ^ bs.length := by omega
    rw [length_cons, pow_succ']
    exact hstep

theorem decode_encode {w n : Nat} (hn : n < 256 ^ w) : decode (encode w n) = n := by
  induction w generalizing n with
  | zero =>
    have hzero : n = 0 := by simpa using hn
    simp [encode, decode, hzero]
  | succ w ih =>
    have hdiv : n / 256 < 256 ^ w := by
      apply Nat.div_lt_of_lt_mul
      rwa [← pow_succ']
    rw [encode, decode, ih hdiv, UInt8.toNat_ofNat']
    exact Nat.mod_add_div n 256

theorem encode_decode (bs : List UInt8) : encode bs.length (decode bs) = bs := by
  induction bs with
  | nil => rfl
  | cons b bs ih =>
    have hb := b.toNat_lt
    have hdiv : (b.toNat + 256 * decode bs) / 256 = decode bs := by omega
    have hmod : UInt8.ofNat (b.toNat + 256 * decode bs) = b := by
      rw [← UInt8.toNat_inj, UInt8.toNat_ofNat']
      omega
    rw [length_cons, decode, encode, hdiv, hmod, ih]

/-! ## Fields of a buffer -/

theorem field_lt (bs : List UInt8) (off w : Nat) : field bs off w < 256 ^ w := by
  have hlt := decode_lt ((bs.drop off).take w)
  have hlength : ((bs.drop off).take w).length ≤ w := by simp
  exact lt_of_lt_of_le hlt (Nat.pow_le_pow_right (by decide) hlength)

theorem field_encode {w n : Nat} (hn : n < 256 ^ w) (bs : List UInt8) :
    field (encode w n ++ bs) 0 w = n := by
  have htake : ((encode w n ++ bs).drop 0).take w = encode w n := by
    simp
  rw [field, htake, decode_encode hn]

theorem field_append {xs : List UInt8} {off : Nat} (h : xs.length ≤ off) (bs : List UInt8)
    (w : Nat) : field (xs ++ bs) off w = field bs (off - xs.length) w := by
  rw [field, field, drop_append, drop_of_length_le h, nil_append]

theorem encode_field {off w : Nat} (h : off + w ≤ bs.length) :
    encode w (field bs off w) = (bs.drop off).take w := by
  have hlength : ((bs.drop off).take w).length = w := by
    rw [length_take, length_drop]
    omega
  have := encode_decode ((bs.drop off).take w)
  rwa [hlength] at this

def u16 (v : UInt16) : List UInt8 := encode 2 v.toNat

def u32 (v : UInt32) : List UInt8 := encode 4 v.toNat

def u64 (v : UInt64) : List UInt8 := encode 8 v.toNat

def readU16 (bs : List UInt8) (off : Nat) : UInt16 := UInt16.ofNat (field bs off 2)

def readU32 (bs : List UInt8) (off : Nat) : UInt32 := UInt32.ofNat (field bs off 4)

def readU64 (bs : List UInt8) (off : Nat) : UInt64 := UInt64.ofNat (field bs off 8)

@[simp] theorem length_u16 (v : UInt16) : (u16 v).length = 2 := length_encode 2 _

@[simp] theorem length_u32 (v : UInt32) : (u32 v).length = 4 := length_encode 4 _

@[simp] theorem length_u64 (v : UInt64) : (u64 v).length = 8 := length_encode 8 _

@[simp] theorem readU16_u16 (v : UInt16) (bs : List UInt8) : readU16 (u16 v ++ bs) 0 = v := by
  rw [readU16, u16, field_encode v.toNat_lt, UInt16.ofNat_toNat]

@[simp] theorem readU32_u32 (v : UInt32) (bs : List UInt8) : readU32 (u32 v ++ bs) 0 = v := by
  rw [readU32, u32, field_encode v.toNat_lt, UInt32.ofNat_toNat]

@[simp] theorem readU64_u64 (v : UInt64) (bs : List UInt8) : readU64 (u64 v ++ bs) 0 = v := by
  rw [readU64, u64, field_encode v.toNat_lt, UInt64.ofNat_toNat]

section Skip

variable {xs : List UInt8} {off : Nat}

section

variable (h : xs.length ≤ off) (bs : List UInt8)
include h

theorem readU16_append : readU16 (xs ++ bs) off = readU16 bs (off - xs.length) := by
  rw [readU16, field_append h, readU16]

theorem readU32_append : readU32 (xs ++ bs) off = readU32 bs (off - xs.length) := by
  rw [readU32, field_append h, readU32]

theorem readU64_append : readU64 (xs ++ bs) off = readU64 bs (off - xs.length) := by
  rw [readU64, field_append h, readU64]

end

end Skip

/-! ## Exact formats

Bytes that spell a word and then the rest are bytes from which both can be read; applied field
by field, this turns "the encoding is these bytes" into what a decoder reads. -/

section Exact

variable {rest : List UInt8} {off : Nat}

theorem append_eq_drop (xs : List UInt8) : xs ++ rest = bs.drop off ↔
    (bs.drop off).take xs.length = xs ∧ rest = bs.drop (off + xs.length) := by
  rw [← drop_drop]
  constructor
  · intro h
    rw [← h]
    exact ⟨take_left, drop_left.symm⟩
  · rintro ⟨hxs, rfl⟩
    nth_rewrite 1 [← hxs]
    exact take_append_drop _ _

theorem encode_append_eq_drop {w n : Nat} (hn : n < 256 ^ w) (h : off + w ≤ bs.length) :
    encode w n ++ rest = bs.drop off ↔ field bs off w = n ∧ rest = bs.drop (off + w) := by
  rw [append_eq_drop, length_encode, and_congr_left_iff]
  intro _
  constructor
  · intro htake
    rw [field, htake, decode_encode hn]
  · rintro rfl
    exact (encode_field h).symm

theorem byte_append_eq_drop (v : UInt8) (h : off + 1 ≤ bs.length) :
    [v] ++ rest = bs.drop off ↔ UInt8.ofNat (field bs off 1) = v ∧ rest = bs.drop (off + 1) := by
  have hbyte : [v] = encode 1 v.toNat := by simp [encode]
  rw [hbyte, encode_append_eq_drop v.toNat_lt h, ← UInt8.toNat_inj,
    UInt8.toNat_ofNat_of_lt' (field_lt bs off 1)]

theorem u16_append_eq_drop (v : UInt16) (h : off + 2 ≤ bs.length) :
    u16 v ++ rest = bs.drop off ↔ readU16 bs off = v ∧ rest = bs.drop (off + 2) := by
  rw [u16, encode_append_eq_drop v.toNat_lt h, readU16, ← UInt16.toNat_inj,
    UInt16.toNat_ofNat_of_lt' (field_lt bs off 2)]

theorem u32_append_eq_drop (v : UInt32) (h : off + 4 ≤ bs.length) :
    u32 v ++ rest = bs.drop off ↔ readU32 bs off = v ∧ rest = bs.drop (off + 4) := by
  rw [u32, encode_append_eq_drop v.toNat_lt h, readU32, ← UInt32.toNat_inj,
    UInt32.toNat_ofNat_of_lt' (field_lt bs off 4)]

theorem u64_append_eq_drop (v : UInt64) (h : off + 8 ≤ bs.length) :
    u64 v ++ rest = bs.drop off ↔ readU64 bs off = v ∧ rest = bs.drop (off + 8) := by
  rw [u64, encode_append_eq_drop v.toNat_lt h, readU64, ← UInt64.toNat_inj,
    UInt64.toNat_ofNat_of_lt' (field_lt bs off 8)]

end Exact

end LittleEndian
