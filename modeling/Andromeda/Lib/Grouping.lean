import Mathlib.Order.Basic
import Mathlib.Data.List.Induction

/-!
# Grouping a list by a key

An ordered map from keys to the elements seen under them, filled in one pass: the
association list a sorted map iterates over. `find_group` says what one finds in
it: the elements with that key, in the order they came.
-/

namespace Grouping

open List

variable {κ α : Type} [LT κ] [DecidableLT κ] [DecidableEq κ]

/-- Append an element to the entry of its key, creating the entry in key order. -/
def push (k : κ) (a : α) : List (κ × List α) → List (κ × List α)
  | [] => [(k, [a])]
  | (k', as) :: rest =>
    if k = k' then (k', as ++ [a]) :: rest
    else if k < k' then (k, [a]) :: (k', as) :: rest
    else (k', as) :: push k a rest

def group (key : α → Option κ) (xs : List α) : List (κ × List α) :=
  xs.foldl (fun groups a => match key a with
    | some k => push k a groups
    | none => groups) []

abbrev Sorted (groups : List (κ × List α)) : Prop := groups.Pairwise fun a b => a.1 < b.1

def entry (groups : List (κ × List α)) (k : κ) : List α :=
  match groups.find? (fun g => g.1 = k) with
  | some g => g.2
  | none => []

theorem mem_push {k : κ} {a : α} {groups : List (κ × List α)} {g : κ × List α}
    (h : g ∈ push k a groups) : g.1 = k ∨ ∃ g' ∈ groups, g'.1 = g.1 := by
  induction groups with
  | nil =>
    obtain rfl : g = (k, [a]) := by simpa [push] using h
    exact Or.inl rfl
  | cons head rest ih =>
    obtain ⟨k', as⟩ := head
    unfold push at h
    split_ifs at h with heq hlt
    · rcases mem_cons.mp h with rfl | hg
      · exact Or.inl heq.symm
      · exact Or.inr ⟨g, mem_cons_of_mem _ hg, rfl⟩
    · rcases mem_cons.mp h with rfl | hg
      · exact Or.inl rfl
      · exact Or.inr ⟨g, hg, rfl⟩
    · rcases mem_cons.mp h with rfl | hg
      · exact Or.inr ⟨(k', as), by simp, rfl⟩
      · rcases ih hg with hk | ⟨g', hg', heq'⟩
        · exact Or.inl hk
        · exact Or.inr ⟨g', mem_cons_of_mem _ hg', heq'⟩

theorem group_concat (key : α → Option κ) (xs : List α) (a : α) : group key (xs ++ [a]) =
      match key a with
      | some k => push k a (group key xs)
      | none => group key xs := by
  rw [group, foldl_append]
  rfl

section Order

variable [LE κ] [Std.IsLinearOrder κ] [Std.LawfulOrderLT κ]
  {k : κ} {groups : List (κ × List α)} {g : κ × List α}

theorem push_sorted {a : α} (h : Sorted groups) : Sorted (push k a groups) := by
  induction groups with
  | nil => simp [push]
  | cons head rest ih =>
    obtain ⟨k', as⟩ := head
    obtain ⟨hhead, hrest⟩ := pairwise_cons.mp h
    unfold push
    split_ifs with heq hlt
    · exact pairwise_cons.mpr ⟨hhead, hrest⟩
    · refine pairwise_cons.mpr ⟨forall_mem_cons.mpr ⟨hlt, ?_⟩, h⟩
      exact fun g hg => Std.lt_trans hlt (hhead g hg)
    · refine pairwise_cons.mpr ⟨?_, ih hrest⟩
      intro g hg
      rcases mem_push hg with hk | ⟨g', hg', hk⟩
      · have hle : k' ≤ k := Std.not_lt.mp hlt
        rw [hk]
        exact Std.lt_of_le_of_ne hle (fun e => heq e.symm)
      · rw [← hk]
        exact hhead g' hg'

omit [DecidableLT κ] [Std.IsLinearOrder κ] in
theorem find_eq_none_of_lt (h : ∀ g ∈ groups, k < g.1) :
    groups.find? (fun g => g.1 = k) = none := by
  rw [find?_eq_none]
  intro g hg hgk
  have hgt := h g hg
  rw [of_decide_eq_true hgk] at hgt
  exact Std.lt_irrefl hgt

theorem find_push {a : α} (h : Sorted groups) (j : κ) : (push k a groups).find? (fun g => g.1 = j) =
      if j = k then some (k, entry groups k ++ [a]) else groups.find? (fun g => g.1 = j) := by
  induction groups with
  | nil =>
    by_cases hj : j = k
    · simp [push, entry, hj]
    · simp [push, hj, Ne.symm hj]
  | cons head rest ih =>
    obtain ⟨k', as⟩ := head
    obtain ⟨hhead, hrest⟩ := pairwise_cons.mp h
    unfold push
    by_cases heq : k = k'
    · subst heq
      by_cases hj : j = k
      · simp [entry, hj]
      · simp [hj, Ne.symm hj]
    rw [if_neg heq]
    by_cases hlt : k < k'
    · rw [if_pos hlt]
      by_cases hj : j = k
      · subst hj
        have hnone : ((k', as) :: rest).find? (fun g => g.1 = j) = none := by
          refine find_eq_none_of_lt (forall_mem_cons.mpr ⟨hlt, ?_⟩)
          exact fun g hg => Std.lt_trans hlt (hhead g hg)
        simp [entry, hnone]
      · rw [find?_cons_of_neg (by simpa using Ne.symm hj), if_neg hj]
    rw [if_neg hlt]
    by_cases hk' : k' = j
    · have hj : ¬ j = k := fun e => heq (by rw [hk', e])
      rw [if_neg hj]
      simp [hk']
    · rw [find?_cons_of_neg (by simpa using hk'), ih hrest,
        find?_cons_of_neg (by simpa using hk')]
      by_cases hj : j = k
      · subst hj
        simp [entry, hk']
      · rw [if_neg hj, if_neg hj]

theorem group_sorted (key : α → Option κ) (xs : List α) : Sorted (group key xs) := by
  induction xs using reverseRecOn with
  | nil => exact List.Pairwise.nil
  | append_singleton xs a ih =>
    rw [group_concat]
    split
    · exact push_sorted ih
    · exact ih

theorem find_group (key : α → Option κ) (xs : List α) (k : κ) :
    (group key xs).find? (fun g => g.1 = k) =
      if xs.filter (fun a => key a = some k) = [] then none
      else some (k, xs.filter fun a => key a = some k) := by
  induction xs using reverseRecOn with
  | nil => rfl
  | append_singleton xs a ih =>
    have hat : entry (group key xs) k = xs.filter fun a => key a = some k := by
      rw [entry, ih]
      split_ifs with hempty
      · exact hempty.symm
      · rfl
    rw [group_concat, filter_append]
    cases hkey : key a with
    | none => simp [hkey, ih]
    | some k₁ =>
      simp only [find_push (group_sorted key xs)]
      by_cases hk : k = k₁
      · subst hk
        simp [hkey, hat]
      · simp [hkey, hk, Ne.symm hk, ih]

omit [DecidableLT κ] [Std.IsLinearOrder κ] in
theorem find_of_mem (h : Sorted groups) (hg : g ∈ groups) :
    groups.find? (fun x => x.1 = g.1) = some g := by
  induction groups with
  | nil => simp at hg
  | cons head rest ih =>
    obtain ⟨hhead, hrest⟩ := pairwise_cons.mp h
    rcases mem_cons.mp hg with rfl | hg
    · simp
    · have hne : ¬ head.1 = g.1 := by
        intro heq
        have hlt := hhead g hg
        rw [heq] at hlt
        exact Std.lt_irrefl hlt
      rw [find?_cons_of_neg (by simpa using hne), ih hrest hg]

theorem mem_group {key : α → Option κ} {xs : List α} (h : g ∈ group key xs) :
    g.2 = (xs.filter fun a => key a = some g.1) ∧ g.2 ≠ [] := by
  have hfind := find_of_mem (group_sorted key xs) h
  rw [find_group] at hfind
  split_ifs at hfind with hempty
  rw [Option.some.injEq] at hfind
  rw [← hfind]
  exact ⟨rfl, hempty⟩

end Order

end Grouping
