import Andromeda.Basic
import Andromeda.Lib.LittleEndian

/-!
# The SHA-256 hasher

The streaming hasher behind every contract, shape and batch hash. Sinks feed it field by
field; `finalize_foldl_update` says that only the concatenation of the fields matters, so the
hash functions of the catalog are written over their whole material.
-/

namespace Andromeda

open List LittleEndian

structure Digest32 where
  bytes : Bytes
  length_bytes : bytes.length = 32
deriving DecidableEq

namespace Digest32

/-- `is_zero` of the hash newtypes. -/
def IsZero (d : Digest32) : Prop := ∀ byte ∈ d.bytes, byte = 0

instance (d : Digest32) : Decidable d.IsZero :=
  List.decidableBAll _ _

end Digest32

namespace Sha256

def roundConstants : List UInt32 :=
  [0x428a2f98, 0x71374491, 0xb5c0fbcf, 0xe9b5dba5, 0x3956c25b, 0x59f111f1, 0x923f82a4, 0xab1c5ed5,
    0xd807aa98, 0x12835b01, 0x243185be, 0x550c7dc3, 0x72be5d74, 0x80deb1fe, 0x9bdc06a7, 0xc19bf174,
    0xe49b69c1, 0xefbe4786, 0x0fc19dc6, 0x240ca1cc, 0x2de92c6f, 0x4a7484aa, 0x5cb0a9dc, 0x76f988da,
    0x983e5152, 0xa831c66d, 0xb00327c8, 0xbf597fc7, 0xc6e00bf3, 0xd5a79147, 0x06ca6351, 0x14292967,
    0x27b70a85, 0x2e1b2138, 0x4d2c6dfc, 0x53380d13, 0x650a7354, 0x766a0abb, 0x81c2c92e, 0x92722c85,
    0xa2bfe8a1, 0xa81a664b, 0xc24b8b70, 0xc76c51a3, 0xd192e819, 0xd6990624, 0xf40e3585, 0x106aa070,
    0x19a4c116, 0x1e376c08, 0x2748774c, 0x34b0bcb5, 0x391c0cb3, 0x4ed8aa4a, 0x5b9cca4f, 0x682e6ff3,
    0x748f82ee, 0x78a5636f, 0x84c87814, 0x8cc70208, 0x90befffa, 0xa4506ceb, 0xbef9a3f7, 0xc67178f2]

structure State where
  a : UInt32
  b : UInt32
  c : UInt32
  d : UInt32
  e : UInt32
  f : UInt32
  g : UInt32
  h : UInt32
deriving DecidableEq

def initialState : State :=
  ⟨0x6a09e667, 0xbb67ae85, 0x3c6ef372, 0xa54ff53a, 0x510e527f, 0x9b05688c, 0x1f83d9ab, 0x5be0cd19⟩

def rotateRight (x n : UInt32) : UInt32 := (x >>> n) ||| (x <<< (32 - n))

def be32 (x : UInt32) : Bytes := (u32 x).reverse

def be64 (x : UInt64) : Bytes := (u64 x).reverse

def words : Bytes → List UInt32
  | b₀ :: b₁ :: b₂ :: b₃ :: rest =>
    UInt32.ofNat (decode [b₃, b₂, b₁, b₀]) :: words rest
  | _ => []

/-- The next word of the schedule; the words so far are listed from the last one back. -/
def nextWord (schedule : List UInt32) : UInt32 :=
  let prev15 := schedule.getD 14 0
  let prev2 := schedule.getD 1 0
  let s0 := rotateRight prev15 7 ^^^ rotateRight prev15 18 ^^^ (prev15 >>> 3)
  let s1 := rotateRight prev2 17 ^^^ rotateRight prev2 19 ^^^ (prev2 >>> 10)
  schedule.getD 15 0 + s0 + schedule.getD 6 0 + s1

def extendSchedule : Nat → List UInt32 → List UInt32
  | 0, schedule => schedule
  | n + 1, schedule => extendSchedule n (nextWord schedule :: schedule)

/-- The 64 words of a block's schedule, first word first. -/
def scheduleOf (block : Bytes) : List UInt32 :=
  (extendSchedule 48 (words block).reverse).reverse

def round (s : State) (input : UInt32 × UInt32) : State :=
  let s1 := rotateRight s.e 6 ^^^ rotateRight s.e 11 ^^^ rotateRight s.e 25
  let choose := (s.e &&& s.f) ^^^ (~~~ s.e &&& s.g)
  let temp1 := s.h + s1 + choose + input.1 + input.2
  let s0 := rotateRight s.a 2 ^^^ rotateRight s.a 13 ^^^ rotateRight s.a 22
  let majority := (s.a &&& s.b) ^^^ (s.a &&& s.c) ^^^ (s.b &&& s.c)
  let temp2 := s0 + majority
  { a := temp1 + temp2, b := s.a, c := s.b, d := s.c, e := s.d + temp1, f := s.e, g := s.f,
    h := s.g }

def compressBlock (s : State) (block : Bytes) : State :=
  let t := (roundConstants.zip (scheduleOf block)).foldl round s
  ⟨s.a + t.a, s.b + t.b, s.c + t.c, s.d + t.d, s.e + t.e, s.f + t.f, s.g + t.g, s.h + t.h⟩

def absorb : Nat → State → Bytes → State × Bytes
  | 0, s, data => (s, data)
  | n + 1, s, data =>
    if data.length < 64 then (s, data)
    else absorb n (compressBlock s (data.take 64)) (data.drop 64)

def output (s : State) : Bytes :=
  be32 s.a ++ be32 s.b ++ be32 s.c ++ be32 s.d ++ be32 s.e ++ be32 s.f ++ be32 s.g ++ be32 s.h

theorem length_output (s : State) : (output s).length = 32 := by
  simp [output, be32, Nat.reduceAdd]

end Sha256

/-- The streaming hasher. The source keeps the bytes of the unfinished block in an array with
a length, here they are a list. -/
structure Sha256 where
  state : Sha256.State
  buffer : Bytes
  lengthBits : UInt64
deriving DecidableEq

namespace Sha256

def new : Sha256 := ⟨initialState, [], 0⟩

/-- `Sha256::update`: the buffer is filled up first, so the blocks compressed are those of the
buffer followed by the data. -/
def update (hasher : Sha256) (data : Bytes) : Sha256 :=
  let pending := hasher.buffer ++ data
  let absorbed := absorb (pending.length / 64) hasher.state pending
  { state := absorbed.1, buffer := absorbed.2,
    lengthBits := hasher.lengthBits + UInt64.ofNat data.length * 8 }

/-! ## Feeding the hasher in pieces -/

def absorbAll (s : State) (data : Bytes) : State × Bytes := absorb (data.length / 64) s data

variable {data : Bytes}

theorem absorbAll_short (h : data.length < 64) (s : State) : absorbAll s data = (s, data) := by
  have hblocks : data.length / 64 = 0 := by omega
  rw [absorbAll, hblocks, absorb]

theorem absorbAll_block (h : 64 ≤ data.length) (s : State) :
    absorbAll s data = absorbAll (compressBlock s (data.take 64)) (data.drop 64) := by
  have hblocks : data.length / 64 = (data.drop 64).length / 64 + 1 := by
    rw [length_drop]
    omega
  rw [absorbAll, hblocks, absorb, if_neg (Nat.not_lt.mpr h), absorbAll]

theorem absorbAll_append (s : State) (xs ys : Bytes) :
    absorbAll s (xs ++ ys) = absorbAll (absorbAll s xs).1 ((absorbAll s xs).2 ++ ys) := by
  by_cases h : xs.length < 64
  · rw [absorbAll_short h]
  · have hlength : 64 ≤ xs.length := by omega
    have hlengthAppend : 64 ≤ (xs ++ ys).length := by
      rw [length_append]
      omega
    rw [absorbAll_block hlength, absorbAll_block hlengthAppend,
      take_append_of_le_length hlength, drop_append_of_le_length hlength]
    exact absorbAll_append _ (xs.drop 64) ys
termination_by xs.length
decreasing_by
  rw [length_drop]
  omega

theorem update_update (hasher : Sha256) (xs ys : Bytes) :
    (hasher.update xs).update ys = hasher.update (xs ++ ys) := by
  have hblocks := absorbAll_append hasher.state (hasher.buffer ++ xs) ys
  have hlength : UInt64.ofNat (xs ++ ys).length = UInt64.ofNat xs.length + UInt64.ofNat ys.length := by
    rw [length_append, UInt64.ofNat_add]
  have hbits : hasher.lengthBits + UInt64.ofNat xs.length * 8 + UInt64.ofNat ys.length * 8 =
      hasher.lengthBits + UInt64.ofNat (xs ++ ys).length * 8 := by
    rw [hlength, UInt64.add_mul, UInt64.add_assoc]
  simp only [absorbAll, append_assoc] at hblocks
  simp only [update, hblocks, hbits]

/-- `Sha256::update` in the phases of the source: a begun block is filled up, whole blocks are
compressed where they lie, and what is left begins the next block. -/
def updateInPhases (hasher : Sha256) (data : Bytes) : Sha256 :=
  let taken := if hasher.buffer = [] then 0 else min (64 - hasher.buffer.length) data.length
  let filled := hasher.buffer ++ data.take taken
  let (state, kept) :=
    if filled.length = 64 then (compressBlock hasher.state filled, []) else (hasher.state, filled)
  let (state, rest) := absorbAll state (data.drop taken)
  ⟨state, if rest = [] then kept else rest, hasher.lengthBits + UInt64.ofNat data.length * 8⟩

theorem length_absorbAll_lt (s : State) (data : Bytes) : (absorbAll s data).2.length < 64 := by
  by_cases h : data.length < 64
  · rw [absorbAll_short h]
    exact h
  · rw [absorbAll_block (Nat.not_lt.mp h)]
    exact length_absorbAll_lt _ (data.drop 64)
termination_by data.length
decreasing_by
  rw [length_drop]
  omega

theorem updateInPhases_eq_update {hasher : Sha256} (h : hasher.buffer.length < 64)
    (data : Bytes) : hasher.updateInPhases data = hasher.update data := by
  rw [updateInPhases, update, ← absorbAll]
  generalize htaken : (if hasher.buffer = [] then 0 else
    min (64 - hasher.buffer.length) data.length) = taken
  have hrest : ∀ rest : Bytes, (if rest = [] then [] else rest) = rest := by
    intro rest
    split_ifs with hnil
    · exact hnil.symm
    · rfl
  by_cases hempty : hasher.buffer = []
  · obtain rfl : 0 = taken := by simpa [hempty] using htaken
    simp [hempty, hrest]
  rw [if_neg hempty] at htaken
  by_cases hfull : (hasher.buffer ++ data.take taken).length = 64
  · have hblock : absorbAll hasher.state (hasher.buffer ++ data.take taken) =
        (compressBlock hasher.state (hasher.buffer ++ data.take taken), []) := by
      rw [absorbAll_block hfull.ge, take_of_length_le hfull.le, drop_of_length_le hfull.le]
      rfl
    have hsplit : hasher.buffer ++ data = hasher.buffer ++ data.take taken ++ data.drop taken := by
      rw [append_assoc, take_append_drop]
    rw [hsplit, absorbAll_append, hblock, nil_append]
    simp only [hfull, if_true, hrest]
  · -- The begun block takes all the data and is not full yet.
    rw [length_append, length_take] at hfull
    have hall : data.length ≤ taken := by omega
    have hshort : (hasher.buffer ++ data).length < 64 := by
      rw [length_append]
      omega
    rw [take_of_length_le hall, drop_of_length_le hall, absorbAll_short hshort]
    simp only [if_neg hshort.ne]
    rfl

theorem foldl_updateInPhases {hasher : Sha256} (h : hasher.buffer.length < 64)
    (pieces : List Bytes) : pieces.foldl updateInPhases hasher = pieces.foldl update hasher := by
  induction pieces generalizing hasher with
  | nil => rfl
  | cons piece pieces ih =>
    rw [foldl_cons, foldl_cons, updateInPhases_eq_update h]
    exact ih (length_absorbAll_lt _ _)

def finalize (hasher : Sha256) : Digest32 :=
  let marked := hasher.buffer ++ [0x80]
  let flushed :=
    if 56 < marked.length then
      (compressBlock hasher.state (marked ++ List.replicate (64 - marked.length) 0), [])
    else (hasher.state, marked)
  let block := flushed.2 ++ List.replicate (56 - flushed.2.length) 0 ++ be64 hasher.lengthBits
  let final := compressBlock flushed.1 block
  ⟨output final, length_output final⟩

theorem foldl_update (hasher : Sha256) (xs : Bytes) (pieces : List Bytes) :
    pieces.foldl update (hasher.update xs) = hasher.update (xs ++ pieces.flatten) := by
  induction pieces generalizing xs with
  | nil => rw [foldl_nil, flatten_nil, append_nil]
  | cons piece pieces ih =>
    rw [foldl_cons, update_update, ih, flatten_cons, append_assoc]

end Sha256

/-- `sha256`: digest one byte slice in one call. -/
def sha256 (bytes : Bytes) : Digest32 := (Sha256.new.update bytes).finalize

theorem finalize_foldl_update (pieces : List Bytes) :
    (pieces.foldl Sha256.update Sha256.new).finalize = sha256 pieces.flatten := by
  have hnew : Sha256.new = Sha256.new.update [] := by decide
  rw [hnew, Sha256.foldl_update, nil_append, sha256]

/-- However a message is cut into pieces, hashing them one after the other gives its digest. -/
theorem digest_of_pieces (pieces : List Bytes) :
    (pieces.foldl Sha256.updateInPhases Sha256.new).finalize = sha256 pieces.flatten := by
  rw [Sha256.foldl_updateInPhases (by decide), finalize_foldl_update]

example : (sha256 [0x61, 0x62, 0x63]).bytes =
    [0xba, 0x78, 0x16, 0xbf, 0x8f, 0x01, 0xcf, 0xea, 0x41, 0x41, 0x40, 0xde, 0x5d, 0xae, 0x22, 0x23,
      0xb0, 0x03, 0x61, 0xa3, 0x96, 0x17, 0x7a, 0x9c, 0xb4, 0x10, 0xff, 0x61, 0xf2, 0x00, 0x15,
      0xad] := by
  decide +kernel

end Andromeda
