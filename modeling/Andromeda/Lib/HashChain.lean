import Mathlib.Data.List.Basic

/-!
# Chains of digests

Each link digests the value of the chain so far together with the next item. Two chains of one
length that end in one value hold the same items, provided that no two of their links collide.
The value at the end then stands for the whole list.
-/

namespace HashChain

variable {κ α : Type}

def links (link : κ → α → κ) : κ → List α → List (κ × α)
  | _, [] => []
  | value, item :: items => (value, item) :: links link (link value item) items

/-- No link of one chain has the digest of another link of the other. -/
def CollisionFree (link : κ → α → κ) (xs ys : List (κ × α)) : Prop :=
  ∀ x ∈ xs, ∀ y ∈ ys, link x.1 x.2 = link y.1 y.2 → x = y

theorem eq_of_foldl_eq {link : κ → α → κ} {start start' : κ} {items items' : List α}
    (hfree : CollisionFree link (links link start items) (links link start' items'))
    (hlength : items.length = items'.length)
    (hlast : items.foldl link start = items'.foldl link start') :
    start = start' ∧ items = items' := by
  induction items generalizing start start' items' with
  | nil =>
    have hnil : items' = [] := List.eq_nil_of_length_eq_zero hlength.symm
    subst hnil
    exact ⟨hlast, rfl⟩
  | cons item items ih =>
    cases items' with
    | nil => cases hlength
    | cons item' items' =>
      have hrest := ih
        (fun x hx y hy => hfree x (List.mem_cons_of_mem _ hx) y (List.mem_cons_of_mem _ hy))
        (Nat.succ.inj hlength) hlast
      have hhead := hfree (start, item) List.mem_cons_self (start', item') List.mem_cons_self
        hrest.1
      obtain ⟨hstart, hitem⟩ := Prod.mk.inj hhead
      exact ⟨hstart, by rw [hitem, hrest.2]⟩

end HashChain
