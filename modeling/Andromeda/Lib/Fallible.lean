import Mathlib.Order.Basic

/-!
# Early return in `Except`

A validator returns at the first check that fails. `failIf` is one such check,
and the inversion lemmas below turn a successful validator into the conjunction
of its checks, so that no later proof unfolds a validator twice.
-/

namespace Fallible

open List

variable {ε α β : Type}

/-- Return early with `e` when the condition holds. -/
def failIf (c : Prop) [Decidable c] (e : ε) : Except ε Unit :=
  if c then .error e else .ok ()

def succeeds : Except ε α → Bool
  | .ok _ => true
  | .error _ => false

@[simp] theorem succeeds_ok (a : α) : succeeds (.ok a : Except ε α) = true := rfl

@[simp] theorem succeeds_error (e : ε) : succeeds (.error e : Except ε α) = false := rfl

variable {x : Except ε α} {c : Prop} {e : ε} {u : Unit} {a : α} {f : α → Except ε β} {xs : List α}

theorem succeeds_iff : succeeds x = true ↔ ∃ a, x = .ok a := by
  cases x with
  | error e => simp
  | ok a => simp

@[simp] theorem failIf_eq_ok [Decidable c] : failIf c e = .ok u ↔ ¬ c := by
  unfold failIf
  split <;> simp_all

@[simp] theorem failIf_eq_error [Decidable c] {e' : ε} : failIf c e = .error e' ↔ c ∧ e = e' := by
  unfold failIf
  split <;> simp_all

theorem failIf_pos [Decidable c] (h : c) : failIf c e = .error e := if_pos h

theorem failIf_neg [Decidable c] (h : ¬ c) : failIf c e = .ok () := if_neg h

def orError (value : Option α) (e : ε) : Except ε α :=
  match value with
  | some a => .ok a
  | none => .error e

@[simp] theorem orError_some (a : α) (e : ε) : orError (some a) e = .ok a := rfl

@[simp] theorem orError_eq_ok {value : Option α} : orError value e = .ok a ↔ value = some a := by
  cases value with
  | none => simp [orError]
  | some b => simp [orError]

@[simp] theorem bind_eq_ok {b : β} : x >>= f = .ok b ↔ ∃ a, x = .ok a ∧ f a = .ok b := by
  cases x with
  | error e | ok a => simp [bind, Except.bind]

theorem ok_bind (a : α) (f : α → Except ε β) : (Except.ok a >>= f) = f a := rfl

@[simp] theorem exists_unit {p : Unit → Prop} : (∃ u, p u) ↔ p () := by
  constructor
  · rintro ⟨⟨⟩, h⟩
    exact h
  · exact fun h => ⟨(), h⟩

@[simp] theorem bind_eq_error :
    x >>= f = .error e ↔ x = .error e ∨ ∃ a, x = .ok a ∧ f a = .error e := by
  cases x with
  | error e' | ok a => simp [bind, Except.bind]

@[simp] theorem pure_eq_ok {b : α} : (pure a : Except ε α) = .ok b ↔ a = b := by
  simp [pure, Except.pure]

/-- What success asks of each part of a checked computation; for `simp`. -/
theorem ok_iff : (∀ {ε α β : Type} {x : Except ε α} {f : α → Except ε β} {b : β},
        x >>= f = .ok b ↔ ∃ a, x = .ok a ∧ f a = .ok b) ∧ (∀ {p : Unit → Prop}, (∃ u, p u) ↔ p ()) ∧
      (∀ {ε : Type} {c : Prop} {e : ε} {u : Unit} [Decidable c], failIf c e = .ok u ↔ ¬ c) ∧
      (∀ {ε α : Type} {a b : α}, (pure a : Except ε α) = .ok b ↔ a = b) ∧
      (∀ {ε α : Type} {e : ε} {a : α} {value : Option α},
        orError value e = .ok a ↔ value = some a) ∧ ∀ {p : Prop}, ¬ ¬ p ↔ p :=
  ⟨bind_eq_ok, exists_unit, failIf_eq_ok, pure_eq_ok, orError_eq_ok, not_not⟩

theorem mapError_eq_ok {ε' : Type} {f : ε → ε'} : x.mapError f = .ok a ↔ x = .ok a := by
  cases x <;> simp [Except.mapError]

theorem mapError_eq_error {ε' : Type} {f : ε → ε'} {e : ε'} :
    x.mapError f = .error e ↔ ∃ e', x = .error e' ∧ f e' = e := by
  cases x <;> simp [Except.mapError]

theorem forM_eq_ok {f : α → Except ε Unit} : forM xs f = .ok u ↔ ∀ x ∈ xs, f x = .ok () := by
  induction xs with
  | nil => simp
  | cons x xs ih =>
    rw [forM_cons, bind_eq_ok, exists_unit, ih, forall_mem_cons]

theorem mapM_eq_ok_map {g : α → β} (h : ∀ x ∈ xs, f x = .ok (g x)) :
    xs.mapM f = .ok (xs.map g) := by
  induction xs with
  | nil => rfl
  | cons x xs ih =>
    obtain ⟨hx, hxs⟩ := forall_mem_cons.mp h
    rw [mapM_cons, hx, ok_bind, ih hxs]
    rfl

/-- A fold that only adds: if each step succeeds and adds what `Adds` says, the whole fold
adds what one of its elements adds. -/
theorem foldlM_collects {γ : Type} (Has : β → γ → Prop) {Adds : α → γ → Prop}
    {f : β → α → Except ε β}
    (hstep : ∀ x ∈ xs, ∀ b, ∃ b', f b x = .ok b' ∧ ∀ c, Has b' c ↔ Has b c ∨ Adds x c) (b : β) :
    ∃ b', xs.foldlM f b = .ok b' ∧ ∀ c, Has b' c ↔ Has b c ∨ ∃ x ∈ xs, Adds x c := by
  induction xs generalizing b with
  | nil => exact ⟨b, rfl, by simp⟩
  | cons x xs ih =>
    obtain ⟨b₁, hx, hadds⟩ := hstep x mem_cons_self b
    obtain ⟨b₂, hxs, hadds'⟩ := ih (forall_mem_cons.mp hstep).2 b₁
    refine ⟨b₂, ?_, ?_⟩
    · rw [foldlM_cons, bind_eq_ok]
      exact ⟨b₁, hx, hxs⟩
    · intro c
      simp [hadds', hadds, or_assoc]

end Fallible
