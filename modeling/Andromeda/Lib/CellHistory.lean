import Mathlib.Data.List.Induction

/-!
# Histories of keyed cells

Rows are inserted, deleted and moved between keyed cells. A cell starts fresh,
holds a value while its row is live and stays dead once the row is gone. The
state after a history depends, key by key, only on the operations that touch the
key, so operations on other keys may be dropped from the history.
-/

namespace CellHistory

variable {κ ν : Type}

inductive Cell (ν : Type) where
  | fresh
  | live (value : ν)
  | dead
deriving DecidableEq

namespace Cell

def value? : Cell ν → Option ν
  | live v => some v
  | _ => none

def IsLive (c : Cell ν) : Prop := c.value? ≠ none

@[simp] theorem isLive_live (v : ν) : (live v).IsLive := by simp [IsLive, value?]

@[simp] theorem not_isLive_fresh : ¬ (fresh : Cell ν).IsLive := by simp [IsLive, value?]

@[simp] theorem not_isLive_dead : ¬ (dead : Cell ν).IsLive := by simp [IsLive, value?]

instance (c : Cell ν) : Decidable c.IsLive :=
  match c with
  | live v => .isTrue (isLive_live v)
  | fresh => .isFalse not_isLive_fresh
  | dead => .isFalse not_isLive_dead

end Cell

/-- A row operation. An update closes the row of one key and opens it under another. -/
inductive RowOp (κ ν : Type) where
  | insert (key : κ) (value : ν)
  | delete (key : κ)
  | update (old new : κ) (value : ν)

namespace RowOp

def keys : RowOp κ ν → List κ
  | insert k _ => [k]
  | delete k => [k]
  | update old new _ => [old, new]

def mapKey {κ' : Type} (f : κ → κ') : RowOp κ ν → RowOp κ' ν
  | insert k v => insert (f k) v
  | delete k => delete (f k)
  | update old new v => update (f old) (f new) v

def Enabled (op : RowOp κ ν) (cells : κ → Cell ν) : Prop :=
  match op with
  | insert k _ => ¬ (cells k).IsLive
  | delete k => (cells k).IsLive
  | update old new _ => (cells old).IsLive ∧ ¬ (cells new).IsLive ∧ old ≠ new

/-- The key that receives a value was never used before. -/
def TargetFresh (op : RowOp κ ν) (cells : κ → Cell ν) : Prop :=
  match op with
  | insert k _ => cells k = .fresh
  | delete _ => True
  | update _ new _ => cells new = .fresh

variable {op : RowOp κ ν}

variable {cells cells' : κ → Cell ν}

theorem enabled_congr (h : ∀ k ∈ op.keys, cells k = cells' k) :
    op.Enabled cells ↔ op.Enabled cells' := by
  cases op with
  | insert key v | delete key => simp [Enabled, h key (by simp [keys])]
  | update old new v => simp [Enabled, h old (by simp [keys]), h new (by simp [keys])]

theorem targetFresh_congr (h : ∀ k ∈ op.keys, cells k = cells' k) :
    op.TargetFresh cells ↔ op.TargetFresh cells' := by
  cases op with
  | insert key v => simp [TargetFresh, h key (by simp [keys])]
  | delete key => simp [TargetFresh]
  | update old new v => simp [TargetFresh, h new (by simp [keys])]

variable {κ' : Type}

theorem keys_mapKey (f : κ → κ') (op : RowOp κ ν) : (op.mapKey f).keys = op.keys.map f := by
  cases op <;> rfl

theorem enabled_mapKey {f : κ → κ'} (hf : Function.Injective f) (op : RowOp κ ν)
    (cells : κ' → Cell ν) : (op.mapKey f).Enabled cells ↔ op.Enabled (cells ∘ f) := by
  cases op with
  | insert k v => rfl
  | delete k => rfl
  | update old new v => simp [mapKey, Enabled, hf.eq_iff]

variable [DecidableEq κ]

def apply (op : RowOp κ ν) (cells : κ → Cell ν) : κ → Cell ν :=
  match op with
  | insert k v => Function.update cells k (.live v)
  | delete k => Function.update cells k .dead
  | update old new v => Function.update (Function.update cells new (.live v)) old .dead

instance [DecidableEq ν] (op : RowOp κ ν) (cells : κ → Cell ν) : Decidable (op.Enabled cells) :=
  match op with
  | insert _ _ => inferInstanceAs (Decidable (¬ _))
  | delete _ => inferInstanceAs (Decidable (Cell.IsLive _))
  | update _ _ _ => inferInstanceAs (Decidable (_ ∧ _ ∧ _))

instance [DecidableEq ν] (op : RowOp κ ν) (cells : κ → Cell ν) :
    Decidable (op.TargetFresh cells) :=
  match op with
  | insert _ _ => inferInstanceAs (Decidable (_ = _))
  | delete _ => inferInstanceAs (Decidable True)
  | update _ _ _ => inferInstanceAs (Decidable (_ = _))

theorem apply_of_not_mem {k : κ} (hk : k ∉ op.keys) (cells : κ → Cell ν) :
    op.apply cells k = cells k := by
  cases op with
  | insert key v | delete key =>
    have hne : k ≠ key := by simpa [keys] using hk
    simp [apply, hne]
  | update old new v =>
    have hne : k ≠ old ∧ k ≠ new := by simpa [keys] using hk
    simp [apply, hne.1, hne.2]

theorem apply_of_mem {k : κ} (hk : k ∈ op.keys) (cells cells' : κ → Cell ν) :
    op.apply cells k = op.apply cells' k := by
  cases op with
  | insert key v | delete key =>
    have heq : k = key := by simpa [keys] using hk
    simp [apply, heq]
  | update old new v =>
    by_cases hold : k = old
    · simp [apply, hold]
    · have hnew : k = new := by simpa [keys, hold] using hk
      subst hnew
      simp [apply, hold]

theorem apply_mapKey [DecidableEq κ'] {f : κ → κ'} (hf : Function.Injective f) (op : RowOp κ ν)
    (cells : κ' → Cell ν) :
    (op.mapKey f).apply cells ∘ f = op.apply (cells ∘ f) := by
  cases op with
  | insert k v | delete k => exact Function.update_comp_eq_of_injective _ hf _ _
  | update old new v =>
    simp [mapKey, apply, Function.update_comp_eq_of_injective _ hf]

end RowOp

variable [DecidableEq κ]

def run (ops : List (RowOp κ ν)) : κ → Cell ν :=
  ops.foldl (fun cells op => op.apply cells) (fun _ => .fresh)

@[simp] theorem run_nil (k : κ) : run ([] : List (RowOp κ ν)) k = .fresh := rfl

@[simp] theorem run_concat (ops : List (RowOp κ ν)) (op : RowOp κ ν) :
    run (ops ++ [op]) = op.apply (run ops) := by
  simp [run]

/-- Dropping steps that do not touch a key leaves its cell as it is. A step `x`
performs the operation `f x`, if any. -/
theorem run_filter {α : Type} {xs : List α} {f : α → Option (RowOp κ ν)} {keep : α → Bool}
    {k : κ} (h : ∀ x ∈ xs, ∀ op, f x = some op → k ∈ op.keys → keep x = true) :
    run ((xs.filter keep).filterMap f) k = run (xs.filterMap f) k := by
  induction xs using List.reverseRecOn with
  | nil => rfl
  | append_singleton xs x ih =>
    have hprevious : run ((xs.filter keep).filterMap f) k = run (xs.filterMap f) k := by
      apply ih
      intro y hmem
      exact h y (List.mem_append_left _ hmem)
    rw [List.filter_append, List.filterMap_append, List.filterMap_append]
    cases hx : f x with
    | none =>
      have hnone : ([x].filter keep).filterMap f = [] := by
        cases hkeep : keep x with
        | false => simp [hkeep]
        | true => simp [hkeep, hx]
      simpa [hnone, hx] using hprevious
    | some op =>
      have hsome : [x].filterMap f = [op] := by simp [hx]
      rw [hsome, run_concat]
      by_cases hk : k ∈ op.keys
      · have hkeep : keep x = true := h x (by simp) op hx hk
        have hkept : ([x].filter keep).filterMap f = [op] := by simp [hkeep, hx]
        rw [hkept, run_concat]
        exact RowOp.apply_of_mem hk _ _
      · rw [RowOp.apply_of_not_mem hk, ← hprevious]
        cases hkeep : keep x with
        | false => simp [hkeep]
        | true =>
          have hkept : ([x].filter keep).filterMap f = [op] := by simp [hkeep, hx]
          rw [hkept, run_concat]
          exact RowOp.apply_of_not_mem hk _

end CellHistory
