import Andromeda.Transactions.Manager

/-!
# The id allocator under concurrent calls

`allocate` and `seed` are retry loops on one atomic counter. Threads take their atomic steps in
any order: a load starts a call, every later step is one compare-exchange.
-/

namespace Andromeda

open Function List

namespace TransactionIdAllocator

/-- What a thread is in the middle of, with the counter as it last saw it. -/
inductive Call where
  | idle
  | allocating (current : UInt64)
  | seeding (floor current : UInt64)

inductive Move where
  | allocate
  | seed (floor : UInt64)
  /-- The next compare-exchange; the weak one of `try_update` may fail for no reason. -/
  | exchange (spurious : Bool)

inductive Event (τ : Type) where
  | issued (thread : τ) (id : TransactionId)
  | seeded (floor : UInt64)

def Event.value {τ : Type} : Event τ → UInt64
  | .issued _ id => id
  | .seeded floor => floor

/-- The counter, the calls under way and, newest first, what happened. -/
structure Threads (τ : Type) where
  lastIssued : UInt64
  call : τ → Call
  history : List (Event τ)

def Threads.start {τ : Type} (floor : UInt64) : Threads τ := ⟨floor, fun _ => .idle, []⟩

variable {τ : Type} [DecidableEq τ] {s : Threads τ}

def Threads.step (s : Threads τ) (t : τ) (move : Move) : Threads τ :=
  match s.call t, move with
  | .idle, .allocate => { s with call := update s.call t (.allocating s.lastIssued) }
  | .idle, .seed floor => { s with call := update s.call t (.seeding floor s.lastIssued) }
  | .allocating current, .exchange spurious =>
    match checkedAdd current 1 with
    | none => { s with call := update s.call t .idle }
    | some next =>
      if s.lastIssued = current ∧ !spurious then
        ⟨next, update s.call t .idle, .issued t next :: s.history⟩
      else { s with call := update s.call t (.allocating s.lastIssued) }
  | .seeding floor current, .exchange _ =>
    if floor < current then { s with call := update s.call t .idle }
    else if s.lastIssued = current then
      ⟨floor, update s.call t .idle, .seeded floor :: s.history⟩
    else { s with call := update s.call t (.seeding floor s.lastIssued) }
  | _, _ => s

def Threads.run (s : Threads τ) (moves : List (τ × Move)) : Threads τ :=
  moves.foldl (fun s m => s.step m.1 m.2) s

structure Threads.Inv (s : Threads τ) : Prop where
  ordered : s.history.Pairwise fun later earlier =>
    ∀ t id, later = .issued t id → earlier.value < id
  bounded : ∀ e ∈ s.history, e.value ≤ s.lastIssued

theorem Threads.Inv.step (h : s.Inv) (t : τ) (move : Move) : (s.step t move).Inv := by
  unfold Threads.step
  split
  · exact ⟨h.ordered, h.bounded⟩
  · exact ⟨h.ordered, h.bounded⟩
  · rename_i current spurious hcall
    split
    · exact ⟨h.ordered, h.bounded⟩
    rename_i next hnext
    split_ifs with hwon
    · -- the counter still holds what the thread saw
      have hlt : s.lastIssued < next := by
        rw [hwon.1, UInt64.lt_iff_toNat_lt, checkedAdd_eq_some.mp hnext]
        exact Nat.lt_succ_self _
      have habove : ∀ e ∈ s.history, e.value < next :=
        fun e he => UInt64.lt_of_le_of_lt (h.bounded e he) hlt
      refine ⟨pairwise_cons.mpr ⟨?_, h.ordered⟩, forall_mem_cons.mpr ⟨UInt64.le_refl _, ?_⟩⟩
      · rintro e he _ _ ⟨⟩
        exact habove e he
      · exact fun e he => UInt64.le_of_lt (habove e he)
    · exact ⟨h.ordered, h.bounded⟩
  · rename_i floor current spurious hcall
    split_ifs with hback hwon
    · exact ⟨h.ordered, h.bounded⟩
    · -- the counter is not above the floor
      have hle : s.lastIssued ≤ floor := by
        rw [hwon]
        exact UInt64.not_lt.mp hback
      refine ⟨pairwise_cons.mpr ⟨nofun, h.ordered⟩, forall_mem_cons.mpr ⟨UInt64.le_refl _, ?_⟩⟩
      exact fun e he => UInt64.le_trans (h.bounded e he) hle
    · exact ⟨h.ordered, h.bounded⟩
  · exact h

theorem Threads.Inv.run (h : s.Inv) (moves : List (τ × Move)) : (s.run moves).Inv := by
  induction moves generalizing s with
  | nil => exact h
  | cons m moves ih => exact ih (h.step m.1 m.2)

/-- Whatever the interleaving, ids are distinct, each thread sees its own increase, and what is
issued after a seed completed, started before or behind it, lies above the seeded floor. -/
theorem concurrent_allocation (floor : UInt64) (moves : List (τ × Move)) :
    (((Threads.start floor).run moves).history.Pairwise fun later earlier =>
        ∀ t t' id id', later = .issued t id → earlier = .issued t' id' → id ≠ id') ∧
      (((Threads.start floor).run moves).history.Pairwise fun later earlier =>
        ∀ t id id', later = .issued t id → earlier = .issued t id' → id' < id) ∧
      ((Threads.start floor).run moves).history.Pairwise fun later earlier =>
        ∀ t id floor, later = .issued t id → earlier = .seeded floor → floor < id := by
  have hstart : (Threads.start (τ := τ) floor).Inv := ⟨Pairwise.nil, nofun⟩
  have h := (hstart.run moves).ordered
  refine ⟨h.imp ?_, h.imp ?_, h.imp ?_⟩
  · rintro _ _ hlt t t' id _ rfl rfl rfl
    exact UInt64.lt_irrefl id (hlt t id rfl)
  · rintro _ _ hlt t id _ rfl rfl
    exact hlt t id rfl
  · rintro _ _ hlt t id _ rfl rfl
    exact hlt t id rfl

end TransactionIdAllocator

end Andromeda
