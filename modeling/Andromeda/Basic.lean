import Andromeda.Lib.Fallible

/-!
# Errors, log sequence numbers and identifiers

The vocabulary every other module shares: the error value with its category and
message, and the `u64` newtypes `Lsn` and `TransactionId`. Advancing an LSN is
the one operation on them that can fail.
-/

namespace Andromeda

inductive ErrorKind where
  | catalog
  | contract
  | execution
  | internal
  | protocol
  | resource
  | security
  | srpl
  | storage
  | timeout
  | transaction
  | transport
deriving DecidableEq

/-- `AndromedaError`. The diagnostic source chain is not part of its equality in
the source either, so it is left out. -/
structure Error where
  kind : ErrorKind
  message : String
deriving DecidableEq

/-- `AndromedaResult<T>`. -/
abbrev Result (α : Type) := Except Error α

/-- The category every WAL and recovery check reports. -/
def storageError (message : String) : Error := ⟨.storage, message⟩

def transactionError (message : String) : Error := ⟨.transaction, message⟩

/-- Byte buffers, `Vec<u8>`. -/
abbrev Bytes := List UInt8

/-- `Lsn(u64)`; zero stands for "no position". -/
abbrev Lsn := UInt64

abbrev TransactionId := UInt64

/-- A quantifier over an optional id looks at the option, not at all ids. -/
instance (priority := high) decidableForallMemId {p : UInt64 → Prop} [DecidablePred p] (o : Option UInt64) :
    Decidable (∀ a ∈ o, p a) :=
  Option.decidableForallMem o

namespace Lsn

def max : Lsn := 18446744073709551615

def checkedNext (l : Lsn) : Option Lsn :=
  if l = max then none else some (l + 1)

def tryNext (l : Lsn) : Result Lsn :=
  match checkedNext l with
  | some next => .ok next
  | none => .error (storageError "LSN advancement would overflow u64")

theorem toNat_add_one {l : Lsn} (h : l ≠ max) : (l + 1).toNat = l.toNat + 1 := by
  have hlt := l.toNat_lt
  have hne : l.toNat ≠ 18446744073709551615 := by
    intro heq
    exact h (UInt64.toNat_inj.mp heq)
  rw [UInt64.toNat_add]
  simp only [UInt64.reduceToNat]
  omega

theorem checkedNext_eq_some {l n : Lsn} : checkedNext l = some n ↔ n.toNat = l.toNat + 1 := by
  unfold checkedNext
  split
  next hmax =>
    have hn := n.toNat_lt
    have hl : l.toNat = 18446744073709551615 := by rw [hmax]; rfl
    simp only [reduceCtorEq, false_iff]
    omega
  next hmax =>
    rw [Option.some.injEq, ← UInt64.toNat_inj, toNat_add_one hmax]
    exact eq_comm

theorem tryNext_eq_ok {l n : Lsn} : tryNext l = .ok n ↔ n.toNat = l.toNat + 1 := by
  rw [← checkedNext_eq_some]
  unfold tryNext
  split <;> simp_all

end Lsn

def checkedAdd (a b : UInt64) : Option UInt64 :=
  if a.toNat + b.toNat < UInt64.size then some (a + b) else none

theorem checkedAdd_eq_some {a b c : UInt64} :
    checkedAdd a b = some c ↔ c.toNat = a.toNat + b.toNat := by
  have hc := c.toNat_lt
  unfold checkedAdd
  by_cases h : a.toNat + b.toNat < UInt64.size
  · rw [if_pos h, Option.some.injEq, ← UInt64.toNat_inj, UInt64.toNat_add, Nat.mod_eq_of_lt h]
    exact eq_comm
  · rw [if_neg h]
    simp only [reduceCtorEq, false_iff]
    simp only [UInt64.size] at h
    omega

end Andromeda
