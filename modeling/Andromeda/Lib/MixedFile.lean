import Mathlib.Data.List.Basic

/-!
# Files overwritten in place

A file as the process sees it and as it was when last synced. Until the next sync a crash may
apply any part of what was written since: at every position the device holds the old byte or the
new one.
-/

namespace List

/-- Overwrite from `off` on; a gap before `off` reads as zeros. -/
def overwrite (xs : List UInt8) (off : Nat) (bytes : List UInt8) : List UInt8 :=
  xs.take off ++ List.replicate (off - xs.length) 0 ++ bytes ++ xs.drop (off + bytes.length)

/-- Cut to `n` bytes, or fill up with zeros. -/
def resize (xs : List UInt8) (n : Nat) : List UInt8 :=
  xs.take n ++ List.replicate (n - xs.length) 0

def slice (xs : List UInt8) (off len : Nat) : List UInt8 := (xs.drop off).take len

variable {xs ys bytes : List UInt8} {off off' len i n : Nat}

theorem getElem?_slice (h : i < len) : (xs.slice off len)[i]? = xs[off + i]? := by
  rw [slice, getElem?_take_of_lt h, getElem?_drop]

theorem length_slice (h : off + len ≤ xs.length) : (xs.slice off len).length = len := by
  rw [slice, length_take, length_drop]
  omega

theorem slice_congr (h : ∀ i < len, xs[off + i]? = ys[off' + i]?) :
    xs.slice off len = ys.slice off' len := by
  apply ext_getElem?
  intro i
  by_cases hi : i < len
  · rw [getElem?_slice hi, getElem?_slice hi, h i hi]
  · have hout : ∀ zs : List UInt8, ∀ o, (zs.slice o len)[i]? = none := by
      intro zs o
      apply getElem?_eq_none
      rw [slice, length_take]
      omega
    rw [hout, hout]

theorem length_overwrite (h : off ≤ xs.length) :
    (xs.overwrite off bytes).length = max xs.length (off + bytes.length) := by
  simp only [overwrite, length_append, length_take, length_replicate, length_drop]
  omega

theorem getElem?_overwrite_inside (xs : List UInt8) (off : Nat) (h : i < bytes.length) :
    (xs.overwrite off bytes)[off + i]? = bytes[i]? := by
  have hfront : (xs.take off ++ replicate (off - xs.length) 0).length = off := by
    simp only [length_append, length_take, length_replicate]
    omega
  rw [overwrite, append_assoc _ bytes, getElem?_append_right (by omega), hfront,
    Nat.add_sub_cancel_left, getElem?_append_left h]

theorem getElem?_overwrite_before (h : i < off) (hi : i < xs.length) :
    (xs.overwrite off bytes)[i]? = xs[i]? := by
  have htake : i < (xs.take off).length := by
    rw [length_take]
    omega
  rw [overwrite, append_assoc, append_assoc, getElem?_append_left htake, getElem?_take_of_lt h]

theorem getElem?_overwrite_after (h : off + bytes.length ≤ i) :
    (xs.overwrite off bytes)[i]? = xs[i]? := by
  have hfront : (xs.take off ++ replicate (off - xs.length) 0 ++ bytes).length =
      off + bytes.length := by
    simp only [length_append, length_take, length_replicate]
    omega
  rw [overwrite, getElem?_append_right (by omega), hfront, getElem?_drop]
  congr 1
  omega

theorem slice_overwrite_self (xs : List UInt8) (off : Nat) (bytes : List UInt8) :
    (xs.overwrite off bytes).slice off bytes.length = bytes := by
  apply ext_getElem?
  intro i
  by_cases hi : i < bytes.length
  · rw [getElem?_slice hi, getElem?_overwrite_inside xs off hi]
  · rw [getElem?_eq_none (by rw [slice, length_take]; omega), getElem?_eq_none (by omega)]

theorem slice_overwrite_of_apart (hin : off' + len ≤ xs.length)
    (hapart : off' + len ≤ off ∨ off + bytes.length ≤ off') :
    (xs.overwrite off bytes).slice off' len = xs.slice off' len := by
  apply slice_congr
  intro i hi
  rcases hapart with hbefore | hafter
  · exact getElem?_overwrite_before (by omega) (by omega)
  · exact getElem?_overwrite_after (by omega)

theorem overwrite_append (xs : List UInt8) (zs : List UInt8) (h : ys.length = bytes.length) :
    (xs ++ (ys ++ zs)).overwrite xs.length bytes = xs ++ (bytes ++ zs) := by
  have hgap : xs.length - (xs ++ (ys ++ zs)).length = 0 := by
    rw [length_append]
    omega
  have hdrop : (xs ++ (ys ++ zs)).drop (xs.length + bytes.length) = zs := by
    rw [← append_assoc, drop_append_of_le_length (by rw [length_append]; omega), ← h,
      ← length_append, drop_length, nil_append]
  rw [overwrite, hgap, hdrop, take_left, replicate_zero, append_nil, append_assoc]

theorem slice_append_right (h : xs.length ≤ off) (len : Nat) :
    (xs ++ ys).slice off len = ys.slice (off - xs.length) len := by
  rw [slice, slice, drop_append, drop_of_length_le h, nil_append]

theorem slice_append_left (h : off + len ≤ xs.length) : (xs ++ ys).slice off len = xs.slice off len := by
  rw [slice, slice, drop_append_of_le_length (by omega), take_append_of_le_length]
  rw [length_drop]
  omega

end List

structure MixedFile where
  seen : List UInt8
  synced : List UInt8

namespace MixedFile

variable {f : MixedFile} {b : List UInt8}

def stable (bytes : List UInt8) : MixedFile := ⟨bytes, bytes⟩

def write (off : Nat) (bytes : List UInt8) (f : MixedFile) : MixedFile :=
  { f with seen := f.seen.overwrite off bytes }

def setLen (n : Nat) (f : MixedFile) : MixedFile := { f with seen := f.seen.resize n }

def sync (f : MixedFile) : MixedFile := stable f.seen

/-- The device may hold `b` if the process dies now. -/
def CrashImage (f : MixedFile) (b : List UInt8) : Prop :=
  ∀ i : Nat, b[i]? = f.synced[i]? ∨ b[i]? = f.seen[i]?

theorem crashImage_stable {bytes : List UInt8} : (stable bytes).CrashImage b ↔ b = bytes := by
  constructor
  · intro h
    apply List.ext_getElem?
    intro i
    rcases h i with hi | hi
    · exact hi
    · exact hi
  · rintro rfl i
    exact .inl rfl

end MixedFile
