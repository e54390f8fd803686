import Andromeda.Lib.Fallible
import Mathlib.Data.List.Induction

/-!
# Fallible computations over a state

A procedure with a mutable receiver that returns a `Result` is a function from
states to a result and a state. The state survives a failure: what was written
before the early return stays written. `each` runs one such procedure over a
list and stops at the first failure; its rules relate what holds after a whole
run to what one step does.
-/

/-- A computation over the state `σ` that may fail with an `ε`. -/
def Effect (σ ε α : Type) : Type := σ → Except ε α × σ

namespace Effect

variable {σ τ ε α β γ : Type}

instance : Monad (Effect σ ε) where
  pure a := fun s => (.ok a, s)
  bind x f := fun s =>
    match x s with
    | (.ok a, t) => f a t
    | (.error e, t) => (.error e, t)

def get : Effect σ ε σ := fun s => (.ok s, s)

def modify (f : σ → σ) : Effect σ ε Unit := fun s => (.ok (), f s)

def lift (x : Except ε α) : Effect σ ε α := fun s => (x, s)

@[simp] theorem pure_apply (a : α) (s : σ) : (pure a : Effect σ ε α) s = (.ok a, s) := rfl

@[simp] theorem get_apply (s : σ) : (get : Effect σ ε σ) s = (.ok s, s) := rfl

@[simp] theorem modify_apply (f : σ → σ) (s : σ) :
    (modify f : Effect σ ε Unit) s = (.ok (), f s) := rfl

@[simp] theorem lift_apply (x : Except ε α) (s : σ) : (lift x : Effect σ ε α) s = (x, s) := rfl

theorem bind_apply (x : Effect σ ε α) (f : α → Effect σ ε β) (s : σ) : (x >>= f) s = match x s with
      | (.ok a, t) => f a t
      | (.error e, t) => (.error e, t) := rfl

variable {x : Effect σ ε α} {f : α → Effect σ ε β} {u : σ} {result : Except ε β}
  {s : σ}

theorem bind_of_ok {t : σ} {a : α} (h : x s = (.ok a, t)) : (x >>= f) s = f a t := by
  rw [bind_apply, h]

theorem bind_of_error {t : σ} {e : ε} (h : x s = (.error e, t)) : (x >>= f) s = (.error e, t) := by
  rw [bind_apply, h]

theorem bind_pure_apply (x : Effect σ ε α) (s : σ) : (x >>= pure) s = x s := by
  rw [bind_apply]
  rcases x s with ⟨_ | a, t⟩ <;> rfl

@[simp] theorem get_bind (f : σ → Effect σ ε β) (s : σ) : (get >>= f) s = f s s := rfl

@[simp] theorem modify_bind (g : σ → σ) (f : Unit → Effect σ ε β) (s : σ) :
    (modify g >>= f) s = f () (g s) := rfl

@[simp] theorem lift_ok_bind (a : α) (f : α → Effect σ ε β) (s : σ) :
    (lift (.ok a) >>= f) s = f a s := rfl

@[simp] theorem lift_error_bind (e : ε) (f : α → Effect σ ε β) (s : σ) :
    (lift (.error e) >>= f) s = (.error e, s) := rfl

theorem bind_cases (h : (x >>= f) s = (result, u)) :
    (∃ e, x s = (.error e, u) ∧ result = .error e) ∨
      ∃ a t, x s = (.ok a, t) ∧ f a t = (result, u) := by
  rw [bind_apply] at h
  rcases hx : x s with ⟨_ | a, t⟩
  · rw [hx] at h
    cases h
    exact .inl ⟨_, rfl, rfl⟩
  · rw [hx] at h
    exact .inr ⟨a, t, rfl, h⟩

theorem bind_eq_ok {b : β} :
    (x >>= f) s = (.ok b, u) ↔ ∃ a t, x s = (.ok a, t) ∧ f a t = (.ok b, u) := by
  constructor
  · intro h
    rcases bind_cases h with ⟨e, -, hresult⟩ | hok
    · cases hresult
    · exact hok
  · rintro ⟨a, t, hx, hf⟩
    rw [bind_of_ok hx, hf]

theorem lift_bind_cases {x : Except ε α} (h : (lift x >>= f) s = (result, u)) :
    (∃ e, x = .error e ∧ result = .error e ∧ u = s) ∨ ∃ a, x = .ok a ∧ f a s = (result, u) := by
  cases x with
  | error e =>
    cases h
    exact .inl ⟨e, rfl, rfl, rfl⟩
  | ok a => exact .inr ⟨a, rfl, h⟩

theorem lift_bind_ok {x : Except ε α} {b : β} (h : (lift x >>= f) s = (.ok b, u)) :
    ∃ a, x = .ok a ∧ f a s = (.ok b, u) := by
  rcases lift_bind_cases h with ⟨e, -, hresult, -⟩ | hok
  · cases hresult
  · exact hok

@[elab_as_elim]
theorem checked_or {x : Except ε α} {P : Except ε β → σ → Prop}
    (h : (lift x >>= f) s = (result, u)) (hfail : ∀ e, P (.error e) s)
    (hrest : ∀ a, x = .ok a → f a s = (result, u) → P result u) : P result u := by
  rcases lift_bind_cases h with ⟨e, -, rfl, rfl⟩ | ⟨a, hx, hf⟩
  · exact hfail e
  · exact hrest a hx hf

theorem refused_or {x : Except ε α} {p : Prop} (h : (lift x >>= f) s = (result, u))
    (hrest : ∀ a, x = .ok a → f a s = (result, u) → (∃ e, result = .error e ∧ u = s) ∨ p) :
    (∃ e, result = .error e ∧ u = s) ∨ p :=
  checked_or h (fun e => .inl ⟨e, rfl, rfl⟩) hrest

theorem failIf_bind {c : Prop} [Decidable c] {e : ε} {f : Unit → Effect σ ε β} (h : ¬ c) :
    (lift (Fallible.failIf c e) >>= f) s = f () s := by
  rw [Fallible.failIf, if_neg h, lift_ok_bind]

theorem lift_bind_refuses {x : Except ε α} (h : ∀ a, x = .ok a → ∃ e, f a s = (.error e, s)) :
    ∃ e, (lift x >>= f) s = (.error e, s) := by
  cases x with
  | error e => exact ⟨e, rfl⟩
  | ok a => exact h a rfl

theorem succeeds_iff : Fallible.succeeds (x s).1 = true ↔ ∃ a t, x s = (.ok a, t) := by
  rw [Fallible.succeeds_iff]
  constructor
  · rintro ⟨a, ha⟩
    exact ⟨a, (x s).2, by rw [← ha]⟩
  · rintro ⟨a, t, hrun⟩
    exact ⟨a, by rw [hrun]⟩

/-- Work on a part of the state; what it wrote there stays on a failure too. -/
def zoom (view : σ → τ) (put : τ → σ → σ) (x : Effect τ ε α) : Effect σ ε α := fun s =>
  ((x (view s)).1, put (x (view s)).2 s)

theorem zoom_eq_iff {view : σ → τ} {put : τ → σ → σ} {x : Effect τ ε α} {result : Except ε α} :
    zoom view put x s = (result, u) ↔ ∃ t, x (view s) = (result, t) ∧ u = put t s := by
  rw [zoom, Prod.mk.injEq]
  constructor
  · rintro ⟨hresult, hput⟩
    exact ⟨(x (view s)).2, Prod.ext hresult rfl, hput.symm⟩
  · rintro ⟨t, hx, hput⟩
    rw [hx]
    exact ⟨rfl, hput.symm⟩

/-! ## Running one step over a list -/

/-- Run `step` on every element in order and stop at the first failure. -/
def each (step : α → Effect σ ε Unit) : List α → Effect σ ε Unit
  | [] => pure ()
  | x :: xs => do
    step x
    each step xs

section Each

variable {step : α → Effect σ ε Unit} {s s' : σ}

@[simp] theorem each_nil : each step [] s = (.ok (), s) := rfl

variable {x : α} {xs : List α}

theorem each_cons : each step (x :: xs) s = (step x >>= fun _ => each step xs) s := rfl

theorem each_cons_eq_ok : each step (x :: xs) s = (.ok (), s') ↔
      ∃ t, step x s = (.ok (), t) ∧ each step xs t = (.ok (), s') := by
  rw [each_cons, bind_eq_ok]
  exact ⟨fun ⟨_, h⟩ => h, fun h => ⟨(), h⟩⟩

theorem each_singleton_eq_ok : each step [x] s = (.ok (), s') ↔ step x s = (.ok (), s') := by
  simp [each_cons_eq_ok]

theorem each_append_eq_ok {ys : List α} : each step (xs ++ ys) s = (.ok (), s') ↔
      ∃ t, each step xs s = (.ok (), t) ∧ each step ys t = (.ok (), s') := by
  induction xs generalizing s with
  | nil => simp
  | cons x xs ih =>
    simp only [List.cons_append, each_cons_eq_ok, ih]
    grind

/-- The invariant rule. `Inv done t` speaks about the elements already handled. -/
theorem each_invariant (Inv : List α → σ → Prop)
    (hstep : ∀ before x after, before ++ x :: after = xs → ∀ t t', Inv before t →
      step x t = (.ok (), t') → Inv (before ++ [x]) t') (hInv : Inv [] s)
    (hrun : each step xs s = (.ok (), s')) : Inv xs s' := by
  induction xs using List.reverseRecOn generalizing s' with
  | nil =>
    cases hrun
    exact hInv
  | append_singleton xs x ih =>
    obtain ⟨t, hxs, hx⟩ := each_append_eq_ok.mp hrun
    have ht : Inv xs t :=
      ih (fun before y after heq => hstep before y (after ++ [x]) (by simp [← heq])) hxs
    exact hstep xs x [] rfl t s' ht (each_singleton_eq_ok.mp hx)

theorem each_preserves (Inv : σ → Prop)
    (hstep : ∀ x ∈ xs, ∀ t t', Inv t → step x t = (.ok (), t') → Inv t') (hInv : Inv s)
    (hrun : each step xs s = (.ok (), s')) : Inv s' :=
  each_invariant (fun _ t => Inv t) (fun _ x _ heq => hstep x (by simp [← heq])) hInv hrun

/-- The success rule. If under the invariant each step succeeds exactly when its
guard holds, the run succeeds exactly when every guard does. -/
theorem each_succeeds_iff (Inv : List α → σ → Prop) (Guard : List α → α → Prop)
    (hguard : ∀ before x after, before ++ x :: after = xs → ∀ t, Inv before t →
      ((∃ t', step x t = (.ok (), t')) ↔ Guard before x))
    (hstep : ∀ before x after, before ++ x :: after = xs → ∀ t t', Inv before t →
      step x t = (.ok (), t') → Inv (before ++ [x]) t') (hInv : Inv [] s) :
    (∃ s', each step xs s = (.ok (), s')) ↔
      ∀ before x after, before ++ x :: after = xs → Guard before x := by
  induction xs using List.reverseRecOn with
  | nil => simp
  | append_singleton xs x ih =>
    have hsplit : ∀ before y after, before ++ y :: after = xs →
        before ++ y :: (after ++ [x]) = xs ++ [x] := by
      intro before y after heq
      simp [← heq]
    have hrun := ih (fun before y after heq => hguard before y _ (hsplit before y after heq))
      fun before y after heq => hstep before y _ (hsplit before y after heq)
    have hreached : ∀ {t}, each step xs s = (.ok (), t) → Inv xs t :=
      each_invariant Inv (fun before y after heq => hstep before y _ (hsplit before y after heq))
        hInv
    constructor
    · rintro ⟨s', hall⟩ before y after heq
      obtain ⟨t, hxs, hx⟩ := each_append_eq_ok.mp hall
      rcases List.eq_nil_or_concat after with rfl | ⟨after, z, rfl⟩
      · obtain ⟨rfl, rfl⟩ : before = xs ∧ y = x := by simpa using heq
        exact (hguard before y [] rfl t (hreached hxs)).mp ⟨s', each_singleton_eq_ok.mp hx⟩
      · obtain ⟨rfl, -⟩ : before ++ y :: after = xs ∧ z = x := by
          rw [← List.append_singleton_inj]
          simpa using heq
        exact hrun.mp ⟨t, hxs⟩ before y after rfl
    · intro hall
      obtain ⟨t, hxs⟩ :=
        hrun.mpr fun before y after heq => hall before y _ (hsplit before y after heq)
      obtain ⟨s', hx⟩ := (hguard xs x [] rfl t (hreached hxs)).mpr (hall xs x [] rfl)
      exact ⟨s', each_append_eq_ok.mpr ⟨t, hxs, each_singleton_eq_ok.mpr hx⟩⟩

/-- The simulation rule. A run is followed by another one, step for step. -/
theorem each_simulates {step' : α → Effect τ ε Unit} (Rel : σ → τ → Prop) {t : τ}
    (hstep : ∀ x ∈ xs, ∀ s s' t, Rel s t → step x s = (.ok (), s') →
      ∃ t', step' x t = (.ok (), t') ∧ Rel s' t') (hrel : Rel s t)
    (hrun : each step xs s = (.ok (), s')) : ∃ t', each step' xs t = (.ok (), t') ∧ Rel s' t' := by
  induction xs generalizing s t with
  | nil =>
    cases hrun
    exact ⟨t, rfl, hrel⟩
  | cons x xs ih =>
    obtain ⟨s₁, hx, hxs⟩ := each_cons_eq_ok.mp hrun
    obtain ⟨t₁, hx', hrel₁⟩ := hstep x (by simp) s s₁ t hrel hx
    obtain ⟨t', hxs', hrel'⟩ := ih (fun y hy => hstep y (by simp [hy])) hrel₁ hxs
    exact ⟨t', each_cons_eq_ok.mpr ⟨t₁, hx', hxs'⟩, hrel'⟩

end Each

end Effect
