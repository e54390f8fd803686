import Andromeda.Heap.RedoPayload

/-!
# Slot entries

A slot says where a tuple of a heap page lies. A deleted slot keeps its length and gives up its
offset. Offsets and lengths are `u16` in the source; a page has at most 32 KiB.
-/

namespace Andromeda

structure SlotEntry where
  offset : Nat
  length : Nat
  flags : UInt8

def heapPayloadOffset : Nat := 112

def heapTrailerSize : Nat := 48

namespace SlotEntry

def size : Nat := 5

def new (offset length : Nat) : SlotEntry := ⟨offset, length, 0⟩

def markDeleted (e : SlotEntry) : SlotEntry := { e with flags := e.flags ||| 1, offset := 0 }

def isDeleted (e : SlotEntry) : Prop := e.flags &&& 1 ≠ 0
deriving Decidable

@[simp] theorem not_isDeleted_new (offset length : Nat) : ¬ (new offset length).isDeleted := by
  simp [isDeleted, new]

@[simp] theorem isDeleted_markDeleted (e : SlotEntry) : e.markDeleted.isDeleted := by
  have hbit : (e.flags ||| 1) &&& 1 = 1 := by
    rw [← UInt8.toNat_inj]
    simp
  simp [isDeleted, markDeleted, hbit]

/-- Slot `i` holds a tuple. -/
def LiveAt (slots : List SlotEntry) (i : Nat) (e : SlotEntry) : Prop :=
  slots[i]? = some e ∧ ¬ e.isDeleted

end SlotEntry

end Andromeda
