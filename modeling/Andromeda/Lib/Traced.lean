import Andromeda.Lib.Fallible
import Mathlib.Data.List.Basic

/-!
# Computations that leave a trail of states

A procedure that works on files passes through a state after each of its file operations. A
`Traced` computation returns those states, oldest first, next to its result. A crash between
two operations leaves one of them, and the trail ends in the state the procedure leaves.
-/

/-- A computation over the state `σ` that may fail with an `ε` and shows every state on the
way. -/
def Traced (σ ε α : Type) : Type := σ → Except ε α × List σ

namespace Traced

open List

variable {σ ε α β : Type}

def last (s : σ) (trail : List σ) : σ := trail.getLastD s

instance : Monad (Traced σ ε) where
  pure a := fun _ => (.ok a, [])
  bind x f := fun s =>
    match x s with
    | (.ok a, trail) => ((f a (last s trail)).1, trail ++ (f a (last s trail)).2)
    | (.error e, trail) => (.error e, trail)

def get : Traced σ ε σ := fun s => (.ok s, [])

def lift (x : Except ε α) : Traced σ ε α := fun _ => (x, [])

def operate (f : σ → σ) : Traced σ ε Unit := fun s => (.ok (), [f s])

section

variable (x : Traced σ ε α)

def ensuring (cleanup : σ → σ) : Traced σ ε α := fun s =>
  ((x s).1, (x s).2 ++ [cleanup (last s (x s).2)])

def final (s : σ) : σ := last s (x s).2

def after (k : Nat) (s : σ) : σ := last s ((x s).2.take k)

@[simp] theorem last_nil (s : σ) : last s [] = s := rfl

@[simp] theorem last_cons (s t : σ) (trail : List σ) : last s (t :: trail) = last t trail := by
  cases trail <;> rfl

theorem last_append (s : σ) (trail trail' : List σ) :
    last s (trail ++ trail') = last (last s trail) trail' := by
  induction trail generalizing s with
  | nil => rfl
  | cons t trail ih => rw [cons_append, last_cons, last_cons, ih]

@[simp] theorem last_concat (s t : σ) (trail : List σ) : last s (trail ++ [t]) = t := by
  rw [last_append]
  rfl

@[simp] theorem after_zero (s : σ) : x.after 0 s = s := rfl

theorem after_length (s : σ) : x.after (x s).2.length s = x.final s := by
  rw [after, take_length, final]

end

variable {x : Traced σ ε α} {s t : σ} {f : α → Traced σ ε β} {trail : List σ} {result : Except ε α}

theorem after_mem_dropLast {k : Nat} (hk : 0 < k) (hlt : k < (x s).2.length) :
    x.after k s ∈ (x s).2.dropLast := by
  obtain ⟨k, rfl⟩ : ∃ i, k = i + 1 := ⟨k - 1, by omega⟩
  have hindex : k < (x s).2.dropLast.length := by
    rw [length_dropLast]
    omega
  have hstate : x.after (k + 1) s = (x s).2.dropLast[k] := by
    rw [getElem_dropLast, after, take_add_one, List.getElem?_eq_getElem (by omega)]
    exact last_concat _ _ _
  rw [hstate]
  exact getElem_mem hindex

theorem pure_apply (a : α) (s : σ) : (pure a : Traced σ ε α) s = (.ok a, []) := rfl

theorem bind_of_ok {a : α} (h : x s = (.ok a, trail)) :
    (x >>= f) s = ((f a (last s trail)).1, trail ++ (f a (last s trail)).2) := by
  simp only [bind, h]

theorem bind_of_error {e : ε} (h : x s = (.error e, trail)) : (x >>= f) s = (.error e, trail) := by
  simp only [bind, h]

theorem get_bind (f : σ → Traced σ ε β) (s : σ) : (get >>= f) s = f s s := by
  rw [bind_of_ok (show get s = (.ok s, []) from rfl), last_nil, nil_append]

theorem lift_ok_bind (a : α) (f : α → Traced σ ε β) (s : σ) :
    ((lift (.ok a) : Traced σ ε α) >>= f) s = f a s := by
  rw [bind_of_ok (show lift (.ok a) s = (.ok a, []) from rfl), last_nil, nil_append]

theorem lift_error_bind (e : ε) (f : α → Traced σ ε β) (s : σ) :
    ((lift (.error e) : Traced σ ε α) >>= f) s = (.error e, []) :=
  bind_of_error rfl

theorem operate_bind (g : σ → σ) (f : Unit → Traced σ ε β) (s : σ) :
    ((operate g : Traced σ ε Unit) >>= f) s = ((f () (g s)).1, g s :: (f () (g s)).2) := by
  rw [bind_of_ok (show operate g s = (.ok (), [g s]) from rfl), last_cons, last_nil]
  rfl

theorem bind_pure_snd (x : Traced σ ε α) (g : α → β) (s : σ) :
    ((x >>= fun a => pure (g a)) s).2 = (x s).2 := by
  cases hresult : (x s).1 with
  | error e => rw [bind_of_error (show x s = (.error e, (x s).2) from Prod.ext hresult rfl)]
  | ok a =>
    rw [bind_of_ok (show x s = (.ok a, (x s).2) from Prod.ext hresult rfl), pure_apply, append_nil]

def Returns (x : Traced σ ε α) (s : σ) (result : Except ε α) (t : σ) : Prop :=
  (x s).1 = result ∧ x.final s = t

theorem Returns.unique {t' : σ} {result' : Except ε α} (h : x.Returns s result t)
    (h' : x.Returns s result' t') : result = result' ∧ t = t' :=
  ⟨h.1.symm.trans h'.1, h.2.symm.trans h'.2⟩

theorem returns_pure (a : α) (s : σ) : (pure a : Traced σ ε α).Returns s (.ok a) s := ⟨rfl, rfl⟩

theorem returns_get (s : σ) : (get : Traced σ ε σ).Returns s (.ok s) s := ⟨rfl, rfl⟩

theorem returns_lift (x : Except ε α) (s : σ) : (lift x : Traced σ ε α).Returns s x s := ⟨rfl, rfl⟩

theorem returns_operate (f : σ → σ) (s : σ) :
    (operate f : Traced σ ε Unit).Returns s (.ok ()) (f s) := ⟨rfl, rfl⟩

theorem Returns.bind {u : σ} {a : α} {result : Except ε β} (hx : x.Returns s (.ok a) t)
    (hf : (f a).Returns t result u) : (x >>= f).Returns s result u := by
  obtain ⟨hresult, rfl⟩ := hx
  obtain ⟨hresult', rfl⟩ := hf
  have hbind := bind_of_ok (f := f) (show x s = (.ok a, (x s).2) from Prod.ext hresult rfl)
  refine ⟨by rw [hbind]; exact hresult', ?_⟩
  rw [final, hbind, last_append]
  rfl

theorem Returns.bind_error {e : ε} (hx : x.Returns s (.error e) t) :
    (x >>= f).Returns s (.error e) t := by
  obtain ⟨hresult, rfl⟩ := hx
  have hbind := bind_of_error (f := f) (show x s = (.error e, (x s).2) from Prod.ext hresult rfl)
  exact ⟨by rw [hbind], by rw [final, hbind, final]⟩

theorem Returns.ensuring (hx : x.Returns s result t) (cleanup : σ → σ) :
    (x.ensuring cleanup).Returns s result (cleanup t) := by
  obtain ⟨rfl, rfl⟩ := hx
  exact ⟨rfl, last_concat _ _ _⟩

/-! ## What every state on the way shares -/

/-- Every state on the way agrees with the first one on the view. -/
def Preserves {γ : Type} (view : σ → γ) (x : Traced σ ε α) : Prop :=
  ∀ s, ∀ t ∈ (x s).2, view t = view s

section Preserves

variable {γ : Type} {view : σ → γ}
  {x : Traced σ ε α}

theorem Preserves.final (h : x.Preserves view) (s : σ) : view (x.final s) = view s := by
  rw [Traced.final, last, List.getLastD_eq_getLast?]
  cases hlast : (x s).2.getLast? with
  | none => rfl
  | some t => exact h s t (List.mem_of_getLast? hlast)

theorem preserves_pure (a : α) : (pure a : Traced σ ε α).Preserves view :=
  fun _ _ hmem => absurd hmem not_mem_nil

theorem preserves_get : (get : Traced σ ε σ).Preserves view :=
  fun _ _ hmem => absurd hmem not_mem_nil

theorem preserves_lift (x : Except ε α) : (lift x : Traced σ ε α).Preserves view :=
  fun _ _ hmem => absurd hmem not_mem_nil

theorem preserves_operate {f : σ → σ} (h : ∀ s, view (f s) = view s) :
    (operate f : Traced σ ε Unit).Preserves view := by
  intro s t hmem
  rw [mem_singleton.mp hmem]
  exact h s

theorem Preserves.bind (hx : x.Preserves view) (hf : ∀ a, (f a).Preserves view) :
    (x >>= f).Preserves view := by
  intro s t hmem
  cases hresult : (x s).1 with
  | error e =>
    rw [bind_of_error (show x s = (.error e, (x s).2) from Prod.ext hresult rfl)] at hmem
    exact hx s t hmem
  | ok a =>
    rw [bind_of_ok (show x s = (.ok a, (x s).2) from Prod.ext hresult rfl)] at hmem
    rcases mem_append.mp hmem with hmem | hmem
    · exact hx s t hmem
    · exact (hf a _ t hmem).trans (hx.final s)

end Preserves

end Traced
