import Mathlib.Data.List.Basic
import Mathlib.Tactic.Ring

/-!
# Text of numbers and fields

Byte strings that hold ASCII text: numbers in decimal and in hexadecimal, byte strings in
hexadecimal, fields behind a separator, and lines. Each writer comes with the reader that takes
its output back; the readers also accept what no writer produces, such as leading zeros.
-/

namespace AsciiText

open List

def digit (d : Nat) : UInt8 := UInt8.ofNat (if d < 10 then 48 + d else 87 + d)

def digitValue (radix : Nat) (b : UInt8) : Option Nat :=
  let value :=
    if 48 ≤ b.toNat ∧ b.toNat ≤ 57 then b.toNat - 48
    else if 97 ≤ b.toNat ∧ b.toNat ≤ 122 then b.toNat - 87
    else if 65 ≤ b.toNat ∧ b.toNat ≤ 90 then b.toNat - 55
    else radix
  if value < radix then some value else none

def readDigits (radix : Nat) : Nat → List UInt8 → Option Nat
  | value, [] => some value
  | value, b :: bs => (digitValue radix b).bind fun d => readDigits radix (value * radix + d) bs

/-- `from_str_radix` of an unsigned integer below the bound. -/
def readUnsigned (radix bound : Nat) (text : List UInt8) : Option Nat :=
  let digits := if text.head? = some 43 then text.tail else text
  if digits = [] then none
  else (readDigits radix 0 digits).filter fun value => value < bound

variable {d n : Nat} {text bytes : List UInt8} {b : UInt8} {rows : List (List UInt8)}

theorem toNat_digit (hd : d < 16) : (digit d).toNat = if d < 10 then 48 + d else 87 + d := by
  decide +revert

theorem digitValue_digit {radix : Nat} (hradix : radix ≤ 16) (hd : d < radix) :
    digitValue radix (digit d) = some d := by
  have hdigit := toNat_digit (by omega : d < 16)
  rw [digitValue]
  split_ifs at hdigit with hsmall
  · have hrange : 48 ≤ (digit d).toNat ∧ (digit d).toNat ≤ 57 := by omega
    have hvalue : (digit d).toNat - 48 = d := by omega
    simp [if_pos hrange, hvalue, if_pos hd]
  · have hdecimal : ¬ (48 ≤ (digit d).toNat ∧ (digit d).toNat ≤ 57) := by omega
    have hrange : 97 ≤ (digit d).toNat ∧ (digit d).toNat ≤ 122 := by omega
    have hvalue : (digit d).toNat - 87 = d := by omega
    simp [if_neg hdecimal, if_pos hrange, hvalue, if_pos hd]

theorem digit_ne_plus (hd : d < 16) : digit d ≠ 43 := by
  decide +revert

theorem digit_ge (hd : d < 16) : 48 ≤ (digit d).toNat ∧ (digit d).toNat ≤ 102 := by
  decide +revert

theorem readDigits_append (radix value : Nat) (xs ys : List UInt8) :
    readDigits radix value (xs ++ ys) =
      (readDigits radix value xs).bind fun value' => readDigits radix value' ys := by
  induction xs generalizing value with
  | nil => rfl
  | cons b bs ih =>
    rw [cons_append, readDigits, readDigits]
    cases digitValue radix b with
    | none => rfl
    | some d => exact ih (value * radix + d)

/-- The decimal digits of a number in front of those written so far. -/
def decimalOnto : Nat → Nat → List UInt8 → List UInt8
  | 0, _, text => text
  | fuel + 1, n, text =>
    if n < 10 then digit n :: text else decimalOnto fuel (n / 10) (digit (n % 10) :: text)

def decimal (n : Nat) : List UInt8 := decimalOnto (n + 1) n []

/-- Only digits, at least one of them, that are read as the number. -/
structure IsDecimal (text : List UInt8) (n : Nat) : Prop where
  ne_nil : text ≠ []
  digits : ∀ b ∈ text, 48 ≤ b.toNat ∧ b.toNat ≤ 57
  value : readDigits 10 0 text = some n

theorem isDecimal_digit (hd : d < 10) : IsDecimal [digit d] d := by
  have hvalue := digitValue_digit (by omega : 10 ≤ 16) hd
  refine ⟨cons_ne_nil _ _, ?_, ?_⟩
  · intro b hb
    have hdigit := toNat_digit (by omega : d < 16)
    rw [mem_singleton.mp hb, hdigit, if_pos hd]
    omega
  · rw [readDigits, hvalue]
    simp [readDigits]

theorem IsDecimal.snoc (h : IsDecimal text n) (hd : d < 10) :
    IsDecimal (text ++ [digit d]) (10 * n + d) := by
  have hlast := isDecimal_digit hd
  refine ⟨append_ne_nil_of_left_ne_nil h.ne_nil _, ?_, ?_⟩
  · exact forall_mem_append.mpr ⟨h.digits, hlast.digits⟩
  · have hvalue := digitValue_digit (by omega : 10 ≤ 16) hd
    rw [readDigits_append, h.value, Option.bind_some, readDigits, hvalue, Option.bind_some,
      readDigits, Nat.mul_comm]

theorem decimalOnto_eq {fuel : Nat} (hfuel : n < fuel) (text : List UInt8) :
    ∃ front, decimalOnto fuel n text = front ++ text ∧ IsDecimal front n := by
  induction fuel generalizing n text with
  | zero => omega
  | succ fuel ih =>
    by_cases hsmall : n < 10
    · exact ⟨[digit n], by rw [decimalOnto, if_pos hsmall]; rfl, isDecimal_digit hsmall⟩
    · obtain ⟨front, hfront, hdecimal⟩ := ih (by omega : n / 10 < fuel) (digit (n % 10) :: text)
      refine ⟨front ++ [digit (n % 10)], ?_, ?_⟩
      · rw [decimalOnto, if_neg hsmall, hfront, append_assoc, singleton_append]
      · have hn : n = 10 * (n / 10) + n % 10 := by omega
        have hsnoc := hdecimal.snoc (by omega : n % 10 < 10)
        rwa [← hn] at hsnoc

theorem isDecimal_decimal (n : Nat) : IsDecimal (decimal n) n := by
  obtain ⟨front, hfront, hdecimal⟩ := decimalOnto_eq (Nat.lt_succ_self n) []
  rw [decimal, hfront, append_nil]
  exact hdecimal

theorem readUnsigned_decimal {bound : Nat} (h : n < bound) :
    readUnsigned 10 bound (decimal n) = some n := by
  have hdecimal := isDecimal_decimal n
  have hplus : (decimal n).head? ≠ some 43 := by
    intro hhead
    have hdigit := hdecimal.digits 43 (mem_of_mem_head? hhead)
    revert hdigit
    decide
  rw [readUnsigned, if_neg hplus, if_neg hdecimal.ne_nil, hdecimal.value]
  simp [h]

/-- The `w` low-order hexadecimal digits of a number. -/
def hex : Nat → Nat → List UInt8
  | 0, _ => []
  | w + 1, n => hex w (n / 16) ++ [digit (n % 16)]

@[simp] theorem length_hex (w n : Nat) : (hex w n).length = w := by
  induction w generalizing n with
  | zero => rfl
  | succ w ih => rw [hex, length_append, ih, length_singleton]

variable {w : Nat}

theorem readDigits_hex (h : n < 16 ^ w) (value : Nat) :
    readDigits 16 value (hex w n) = some (value * 16 ^ w + n) := by
  induction w generalizing n with
  | zero =>
    have hzero : n = 0 := by simpa using h
    simp [hex, readDigits, hzero]
  | succ w ih =>
    have hdiv : n / 16 < 16 ^ w := by
      rw [pow_succ] at h
      omega
    have hvalue := digitValue_digit (Nat.le_refl 16) (Nat.mod_lt n (by omega : 0 < 16))
    rw [hex, readDigits_append, ih hdiv, Option.bind_some, readDigits, hvalue, Option.bind_some,
      readDigits]
    congr 1
    calc (value * 16 ^ w + n / 16) * 16 + n % 16
        = value * 16 ^ (w + 1) + (16 * (n / 16) + n % 16) := by ring
      _ = value * 16 ^ (w + 1) + n := by rw [Nat.div_add_mod]

theorem mem_hex (h : b ∈ hex w n) : ∃ d < 16, b = digit d := by
  induction w generalizing n with
  | zero => cases h
  | succ w ih =>
    rw [hex, mem_append, mem_singleton] at h
    rcases h with h | h
    · exact ih h
    · exact ⟨n % 16, Nat.mod_lt n (by omega), h⟩

theorem hex_inj {m : Nat} (hm : m < 16 ^ w) (hn : n < 16 ^ w) (h : hex w m = hex w n) : m = n := by
  have hvalues := congrArg (readDigits 16 0) h
  rw [readDigits_hex hm, readDigits_hex hn, Nat.zero_mul, Nat.zero_add, Nat.zero_add] at hvalues
  exact Option.some.inj hvalues

def hexBytes (bytes : List UInt8) : List UInt8 := bytes.flatMap fun b => hex 2 b.toNat

def readHexBytes : List UInt8 → Option (List UInt8)
  | [] => some []
  | [_] => none
  | high :: low :: text => do
    let h ← digitValue 16 high
    let l ← digitValue 16 low
    let bytes ← readHexBytes text
    some (UInt8.ofNat (16 * h + l) :: bytes)

theorem readHexBytes_hexBytes (bytes : List UInt8) :
    readHexBytes (hexBytes bytes) = some bytes := by
  induction bytes with
  | nil => rfl
  | cons b bytes ih =>
    have hb := b.toNat_lt
    have hhigh := digitValue_digit (Nat.le_refl 16) (by omega : b.toNat / 16 % 16 < 16)
    have hlow := digitValue_digit (Nat.le_refl 16) (by omega : b.toNat % 16 < 16)
    have hbyte : UInt8.ofNat (16 * (b.toNat / 16 % 16) + b.toNat % 16) = b := by
      have hsum : 16 * (b.toNat / 16 % 16) + b.toNat % 16 = b.toNat := by omega
      rw [hsum, UInt8.ofNat_toNat]
    have htext : hexBytes (b :: bytes) =
        digit (b.toNat / 16 % 16) :: digit (b.toNat % 16) :: hexBytes bytes := rfl
    rw [htext, readHexBytes, hhigh, hlow, ih]
    change some (UInt8.ofNat (16 * (b.toNat / 16 % 16) + b.toNat % 16) :: bytes) = _
    rw [hbyte]

theorem even_length_hexBytes (bytes : List UInt8) : (hexBytes bytes).length % 2 = 0 := by
  induction bytes with
  | nil => rfl
  | cons b bytes ih =>
    have htext : hexBytes (b :: bytes) = hex 2 b.toNat ++ hexBytes bytes := rfl
    rw [htext, length_append, length_hex]
    omega

theorem mem_hexBytes (h : b ∈ hexBytes bytes) : ∃ d < 16, b = digit d := by
  obtain ⟨byte, -, hmem⟩ := mem_flatMap.mp h
  exact mem_hex hmem

def IsUtf8 (bytes : List UInt8) : Prop := ByteArray.IsValidUTF8 ⟨bytes.toArray⟩
deriving Decidable

theorem IsUtf8.append {xs ys : List UInt8} (hxs : IsUtf8 xs) (hys : IsUtf8 ys) :
    IsUtf8 (xs ++ ys) := by
  have happend := ByteArray.IsValidUTF8.append hxs hys
  have hbytes : (⟨xs.toArray⟩ : ByteArray) ++ ⟨ys.toArray⟩ = ⟨(xs ++ ys).toArray⟩ := by
    apply ByteArray.ext
    simp
  rwa [hbytes] at happend

theorem isUtf8_singleton (h : b.toNat < 128) : IsUtf8 [b] := by
  have hval : (Char.ofNat b.toNat).val.toNat = b.toNat := by
    have hvalid : b.toNat.isValidChar := .inl (by omega)
    rw [Char.ofNat, dif_pos hvalid]
    rfl
  have hchar : String.utf8EncodeChar (Char.ofNat b.toNat) = [b] := by
    have hsmall : b.toNat ≤ 127 := by omega
    simp [String.utf8EncodeChar, hval, if_pos hsmall]
  have hvalid := Char.isValidUTF8_toByteArray_utf8EncodeChar (c := Char.ofNat b.toNat)
  rw [hchar] at hvalid
  exact hvalid

theorem isUtf8_of_ascii (h : ∀ b ∈ bytes, b.toNat < 128) : IsUtf8 bytes := by
  induction bytes with
  | nil => exact ByteArray.isValidUTF8_empty
  | cons b bytes ih =>
    have hhead := isUtf8_singleton (h b mem_cons_self)
    exact hhead.append (ih (forall_mem_cons.mp h).2)

def rsplitOnce (separator : List UInt8) : List UInt8 → Option (List UInt8 × List UInt8)
  | [] => none
  | b :: bs =>
    match rsplitOnce separator bs with
    | some (front, back) => some (b :: front, back)
    | none =>
      if separator.isPrefixOf (b :: bs) then some ([], (b :: bs).drop separator.length)
      else none

theorem rsplitOnce_append {mark : UInt8} {label front back : List UInt8}
    (hlabel : mark ∉ label) (hback : mark ∉ back) :
    rsplitOnce (mark :: label) (front ++ mark :: label ++ back) = some (front, back) := by
  have hnone : ∀ text : List UInt8, mark ∉ text → rsplitOnce (mark :: label) text = none := by
    intro text hmark
    induction text with
    | nil => rfl
    | cons b bs ih =>
      rw [mem_cons, not_or] at hmark
      have hstart : ¬ (mark :: label).isPrefixOf (b :: bs) = true := by
        intro hprefixes
        obtain ⟨rest, hrest⟩ := isPrefixOf_iff_prefix.mp hprefixes
        exact hmark.1 (cons.inj hrest).1
      rw [rsplitOnce, ih hmark.2]
      exact if_neg hstart
  induction front with
  | nil =>
    have htail := hnone (label ++ back) fun hmem =>
      (mem_append.mp hmem).elim hlabel hback
    have hstart : (mark :: label).isPrefixOf (mark :: (label ++ back)) = true :=
      isPrefixOf_iff_prefix.mpr ⟨back, rfl⟩
    rw [nil_append, cons_append, rsplitOnce, htail]
    simp [hstart]
  | cons b front ih =>
    rw [cons_append, cons_append, rsplitOnce, ih]

def stripReturn (line : List UInt8) : List UInt8 :=
  if line.getLast? = some 13 then line.dropLast else line

/-- `lines`: the last piece counts only if it is not empty, and keeps its carriage return. -/
def lines (text : List UInt8) : List (List UInt8) :=
  let pieces := text.splitOn 10
  pieces.dropLast.map stripReturn ++ [pieces.getLastD []].filter fun last => last ≠ []

def unlines (rows : List (List UInt8)) : List UInt8 := rows.flatMap fun row => row ++ [10]

@[simp] theorem unlines_cons (row : List UInt8) (rows : List (List UInt8)) :
    unlines (row :: rows) = row ++ 10 :: unlines rows := by
  rw [unlines, flatMap_cons, append_assoc]
  rfl

theorem unlines_append (rows rows' : List (List UInt8)) :
    unlines (rows ++ rows') = unlines rows ++ unlines rows' := flatMap_append

theorem splitOn_unlines (h : ∀ row ∈ rows, 10 ∉ row) :
    (unlines rows).splitOn 10 = rows ++ [[]] := by
  have hjoin : unlines rows = [10].intercalate (rows ++ [[]]) := by
    induction rows with
    | nil => rfl
    | cons row rows ih =>
      rw [unlines_cons, ih (forall_mem_cons.mp h).2]
      cases rows <;> simp [intercalate, intersperse]
  rw [hjoin]
  refine splitOn_intercalate 10 ?_ (append_ne_nil_of_right_ne_nil _ (by decide))
  exact forall_mem_append.mpr ⟨h, forall_mem_singleton.mpr not_mem_nil⟩

theorem exists_unlines_append (text : List UInt8) :
    ∃ rows last, (∀ row ∈ rows, 10 ∉ row) ∧ 10 ∉ last ∧ text = unlines rows ++ last := by
  induction text with
  | nil => exact ⟨[], [], fun _ h => absurd h not_mem_nil, not_mem_nil, rfl⟩
  | cons b text ih =>
    obtain ⟨rows, last, hrows, hlast, rfl⟩ := ih
    by_cases hb : b = 10
    · subst hb
      refine ⟨[] :: rows, last, ?_, hlast, by rw [unlines_cons]; rfl⟩
      exact forall_mem_cons.mpr ⟨not_mem_nil, hrows⟩
    · have hne : ∀ row : List UInt8, 10 ∉ row → 10 ∉ b :: row := fun row hrow hmem =>
        (mem_cons.mp hmem).elim (fun h => hb h.symm) hrow
      cases rows with
      | nil => exact ⟨[], b :: last, hrows, hne last hlast, rfl⟩
      | cons row rows =>
        obtain ⟨hrow, hrest⟩ := forall_mem_cons.mp hrows
        refine ⟨(b :: row) :: rows, last, ?_, hlast, by rw [unlines_cons, unlines_cons]; rfl⟩
        exact forall_mem_cons.mpr ⟨hne row hrow, hrest⟩

theorem exists_unlines (h : text = [] ∨ text.getLast? = some 10) :
    ∃ rows, (∀ row ∈ rows, 10 ∉ row) ∧ text = unlines rows := by
  obtain ⟨rows, last, hrows, hlast, rfl⟩ := exists_unlines_append text
  have hnil : last = [] := by
    by_contra hne
    rcases h with h | h
    · exact hne (append_eq_nil_iff.mp h).2
    · rw [getLast?_append_of_ne_nil _ hne] at h
      exact hlast (mem_of_mem_getLast? h)
  exact ⟨rows, hrows, by rw [hnil, append_nil]⟩

theorem lines_unlines_strip (h : ∀ row ∈ rows, 10 ∉ row) :
    lines (unlines rows) = rows.map stripReturn := by
  rw [lines, splitOn_unlines h, dropLast_concat]
  simp

theorem lines_append_unlines (htext : text = [] ∨ text.getLast? = some 10)
    (hrows : ∀ row ∈ rows, 10 ∉ row ∧ 13 ∉ row) :
    lines (text ++ unlines rows) = lines text ++ rows := by
  obtain ⟨front, hfront, rfl⟩ := exists_unlines htext
  have hstrip : rows.map stripReturn = rows := by
    refine (map_congr_left fun row hmem => ?_).trans (map_id rows)
    exact if_neg fun hlast => (hrows row hmem).2 (mem_of_mem_getLast? hlast)
  have hall : ∀ row ∈ front ++ rows, 10 ∉ row :=
    forall_mem_append.mpr ⟨hfront, fun row hmem => (hrows row hmem).1⟩
  rw [← unlines_append, lines_unlines_strip hall, lines_unlines_strip hfront, map_append, hstrip]

theorem lines_unlines (h : ∀ row ∈ rows, 10 ∉ row ∧ 13 ∉ row) : lines (unlines rows) = rows :=
  lines_append_unlines (.inl rfl) h

theorem getLast?_unlines (hne : rows ≠ []) : (unlines rows).getLast? = some 10 := by
  rw [← dropLast_append_getLast hne, unlines_append]
  simp [unlines]

end AsciiText
