import Mathlib.Data.List.Basic

/-!
# Folds of keyed updates

A list of updates is folded into a state that is read key by key. Each update touches some
keys; the others read as before. If no two updates touch a common key, the fold leaves at
every touched key what its own update would have written into the first state.
-/

namespace KeyedUpdates

open List

variable {σ α κ β : Type} {update : σ → α → σ} (view : σ → κ → β) {touches : α → κ → Prop}
  {updates : List α}

theorem update_some_eq_none_iff [DecidableEq κ] {m : κ → Option β} {k k' : κ} {v : β} :
    Function.update m k (some v) k' = none ↔ k' ≠ k ∧ m k' = none := by
  by_cases hk : k' = k
  · simp [hk]
  · simp [hk]

theorem view_foldl_of_untouched (hframe : ∀ s a k, ¬ touches a k → view (update s a) k = view s k)
    {k : κ} (h : ∀ a ∈ updates, ¬ touches a k) (s : σ) :
    view (updates.foldl update s) k = view s k := by
  induction updates generalizing s with
  | nil => rfl
  | cons a updates ih =>
    have hrest := ih (forall_mem_cons.mp h).2
    rw [foldl_cons, hrest, hframe s a k (h a mem_cons_self)]

theorem view_foldl_of_touched (hframe : ∀ s a k, ¬ touches a k → view (update s a) k = view s k)
    (hlocal : ∀ s t a k, view s k = view t k → view (update s a) k = view (update t a) k)
    (hdisjoint : updates.Pairwise fun a b => ∀ k, touches a k → ¬ touches b k) {a : α}
    (ha : a ∈ updates) {k : κ} (hk : touches a k) (s : σ) :
    view (updates.foldl update s) k = view (update s a) k := by
  induction updates generalizing s with
  | nil => contradiction
  | cons b updates ih =>
    rw [pairwise_cons] at hdisjoint
    rw [foldl_cons]
    rcases mem_cons.mp ha with rfl | hrest
    · exact view_foldl_of_untouched view hframe (fun c hc => hdisjoint.1 c hc k hk) _
    · have hb : ¬ touches b k := fun hb => hdisjoint.1 a hrest k hb hk
      rw [ih hdisjoint.2 hrest (update s b)]
      exact hlocal (update s b) s a k (hframe s b k hb)

end KeyedUpdates
