import Andromeda.BufferPool.Bookkeeping
import Mathlib.Data.List.Find
import Mathlib.Data.List.Rotate

/-!
# The victim of the clock

The hand passes every frame twice, clearing reference bits on its way. So it finds a clean unpinned
frame if there is one: the first it meets whose bit is clear, else the first it meets.
-/

namespace Andromeda.ClockEvictionPolicy

open Function List

variable {n : Nat} {frames frames' : Fin n → BufferFrame}

theorem resident_of_clean {f : BufferFrame} (h : isCleanUnpinnedResident f = true) :
    f.core.state = .resident := by
  simp only [isCleanUnpinnedResident, decide_eq_true_eq] at h
  exact h.1

/-- One turn of the loop: the reference bit of a clean unpinned frame is read and cleared. -/
theorem sweep_succ (hn : 0 < n) (turns cursor : Nat) (frames : Fin n → BufferFrame) :
    sweep hn (turns + 1) cursor frames =
      let k : Fin n := ⟨cursor % n, Nat.mod_lt cursor hn⟩
      if isCleanUnpinnedResident (frames k) then
        if (frames k).core.clockUsage then
          sweep hn turns ((cursor + 1) % n) (update frames k (frames k).rested)
        else (.ok k, ⟨(cursor + 1) % n⟩, update frames k (frames k).rested)
      else sweep hn turns ((cursor + 1) % n) frames := by
  rw [sweep]
  dsimp only
  split_ifs with hclean hbit
  · rw [BufferFrame.consumeClockUsage_of_resident (resident_of_clean hclean), hbit]
  · rw [BufferFrame.consumeClockUsage_of_resident (resident_of_clean hclean),
      Bool.eq_false_of_not_eq_true hbit]
  · rfl

theorem sweep_rested {hn : 0 < n} {turns cursor : Nat} {result : Result (Fin n)}
    {clock : ClockEvictionPolicy}
    (hrun : sweep hn turns cursor frames = (result, clock, frames')) (k : Fin n) :
    frames' k = frames k ∨
      isCleanUnpinnedResident (frames k) = true ∧ frames' k = (frames k).rested := by
  induction turns generalizing cursor frames with
  | zero =>
    cases hrun
    exact .inl rfl
  | succ turns ih =>
    rw [sweep_succ] at hrun
    generalize (⟨cursor % n, Nat.mod_lt cursor hn⟩ : Fin n) = index at hrun
    dsimp only at hrun
    have hstep : isCleanUnpinnedResident (frames index) = true →
        update frames index (frames index).rested k = frames k ∨
          isCleanUnpinnedResident (frames k) = true ∧
            update frames index (frames index).rested k = (frames k).rested := by
      intro hclean
      by_cases hk : k = index
      · rw [hk, update_self]
        exact .inr ⟨hclean, rfl⟩
      · rw [update_of_ne hk]
        exact .inl rfl
    split_ifs at hrun with hclean hbit
    · rcases hstep hclean with hsame | ⟨hclean', hrested⟩
      · simpa only [hsame] using ih hrun
      · rcases ih hrun with hrest | ⟨-, hrest⟩ <;> rw [hrested] at hrest <;>
          exact .inr ⟨hclean', hrest⟩
    · cases hrun
      exact hstep hclean
    · exact ih hrun

theorem selectVictim_rested (clock : ClockEvictionPolicy) (frames : Fin n → BufferFrame)
    (k : Fin n) : (clock.selectVictim frames).2.2 k = frames k ∨
      isCleanUnpinnedResident (frames k) = true ∧
        (clock.selectVictim frames).2.2 k = (frames k).rested := by
  rw [selectVictim]
  split
  · exact sweep_rested rfl k
  · exact .inl rfl

/-! ## Two passes -/

/-- The loop over the frames the hand is to pass, of which some are clean and unpinned and some
have their reference bit set. -/
def walk (clean : Fin n → Bool) : List (Fin n) → (Fin n → Bool) → Option (Fin n)
  | [], _ => none
  | k :: ks, used =>
    if clean k then if used k then walk clean ks (update used k false) else some k
    else walk clean ks used

def passed (hn : 0 < n) (cursor turns : Nat) : List (Fin n) :=
  (range turns).map fun i => ⟨(cursor + i) % n, Nat.mod_lt _ hn⟩

theorem sweep_toOption (hn : 0 < n) (turns cursor : Nat) (frames : Fin n → BufferFrame) :
    (sweep hn turns cursor frames).1.toOption =
      walk (fun k => isCleanUnpinnedResident (frames k)) (passed hn cursor turns)
        fun k => (frames k).core.clockUsage := by
  induction turns generalizing cursor frames with
  | zero => rfl
  | succ turns ih =>
    have hpassed : passed hn cursor (turns + 1) =
        ⟨cursor % n, Nat.mod_lt cursor hn⟩ :: passed hn ((cursor + 1) % n) turns := by
      simp [passed, range_succ_eq_map, Nat.add_assoc, Nat.add_comm 1]
    rw [sweep_succ, hpassed, walk]
    generalize (⟨cursor % n, Nat.mod_lt cursor hn⟩ : Fin n) = k
    dsimp only
    split_ifs
    · rw [ih]
      congr 1 <;> funext j <;> by_cases hj : j = k
      all_goals simp [hj, BufferFrame.rested, isCleanUnpinnedResident, ClockFrame.clockState,
        ClockFrame.clockPinCount, ClockFrame.clockIsDirty]
    · rfl
    · exact ih _ _

theorem walk_append (clean : Fin n → Bool) {ks : List (Fin n)} (hks : ks.Nodup)
    (rest : List (Fin n)) (used : Fin n → Bool) :
    walk clean (ks ++ rest) used = (ks.find? fun k => clean k && !used k).or
      (walk clean rest fun k => used k && !(k ∈ ks && clean k)) := by
  induction ks generalizing used with
  | nil => simp
  | cons k ks ih =>
    rw [nodup_cons] at hks
    have hother : ∀ j ∈ ks, j ≠ k := by
      rintro j hj rfl
      exact hks.1 hj
    have hpass : ∀ used' : Fin n → Bool, (∀ j, j ≠ k → used' j = used j) →
        used' k = (used k && !clean k) →
        walk clean (ks ++ rest) used' = (ks.find? fun j => clean j && !used j).or
          (walk clean rest fun j => used j && !(j ∈ k :: ks && clean j)) := by
      intro used' hsame hself
      rw [ih hks.2]
      congr 1
      · apply find?_congr
        intro j hj
        rw [hsame j (hother j hj)]
      · congr 1
        funext j
        by_cases hj : j = k
        · simp [hj, hself, hks.1]
        · simp [hj, hsame j hj]
    rw [cons_append, walk, find?_cons]
    cases hclean : clean k with
    | false => simpa using hpass used (fun _ _ => rfl) (by simp [hclean])
    | true =>
      cases hused : used k with
      | false => simp
      | true =>
        simpa using hpass (update used k false) (fun j hj => update_of_ne hj _ _) (by simp [hclean])

theorem walk_twice {clean : Fin n → Bool} {ks : List (Fin n)} (hks : ks.Nodup)
    (used : Fin n → Bool) : walk clean (ks ++ ks) used =
      (ks.find? fun k => clean k && !used k).or (ks.find? clean) := by
  have hsecond := walk_append clean hks [] fun k => used k && !(k ∈ ks && clean k)
  rw [append_nil] at hsecond
  rw [walk_append clean hks, hsecond, walk, Option.or_none]
  congr 1
  apply find?_congr
  intro k hk
  cases clean k <;> simp [hk]

theorem passed_two (hn : 0 < n) (cursor : Nat) :
    passed hn (cursor % n) (n * 2) = (finRange n).rotate cursor ++ (finRange n).rotate cursor := by
  have hone : ∀ c, passed hn c n = (finRange n).rotate c := by
    intro c
    apply ext_getElem (by simp [passed])
    intro i _ _
    simp [passed, getElem_rotate, Nat.add_comm]
  have hsplit : passed hn (cursor % n) (n * 2) =
      passed hn (cursor % n) n ++ passed hn (cursor % n) n := by
    simp [passed, Nat.mul_two, range_add, ← Nat.add_assoc, Nat.add_right_comm _ n]
  rw [hsplit, hone, ← rotate_mod (finRange n) cursor, length_finRange]

/-- The clock finds a victim exactly if there is a clean unpinned frame, the first from the hand
whose reference bit is clear or else the first from the hand, and no other bit is changed. -/
theorem selectVictim_second_chance (clock : ClockEvictionPolicy) (frames : Fin n → BufferFrame) :
    (∀ k, (clock.selectVictim frames).1 = .ok k ↔ (((finRange n).rotate clock.cursor).find? fun k =>
          isCleanUnpinnedResident (frames k) && !(frames k).core.clockUsage).or
        (((finRange n).rotate clock.cursor).find? fun k => isCleanUnpinnedResident (frames k)) =
          some k) ∧
      ((∃ k, (clock.selectVictim frames).1 = .ok k ∧ isCleanUnpinnedResident (frames k) = true) ↔
        ∃ k, isCleanUnpinnedResident (frames k) = true) ∧
      ∀ k, isCleanUnpinnedResident (frames k) = false →
        (clock.selectVictim frames).2.2 k = frames k := by
  have hvictim : (clock.selectVictim frames).1.toOption =
      (((finRange n).rotate clock.cursor).find? fun k =>
          isCleanUnpinnedResident (frames k) && !(frames k).core.clockUsage).or
        (((finRange n).rotate clock.cursor).find? fun k => isCleanUnpinnedResident (frames k)) := by
    rw [selectVictim]
    split
    · rw [sweep_toOption, passed_two, walk_twice (nodup_rotate.mpr (nodup_finRange n))]
    · obtain rfl : n = 0 := by omega
      rfl
  have hok : ∀ k, (clock.selectVictim frames).1 = .ok k ↔
      (clock.selectVictim frames).1.toOption = some k := by
    intro k
    cases (clock.selectVictim frames).1 <;> simp [Except.toOption]
  refine ⟨fun k => by rw [hok, hvictim], ?_, ?_⟩
  · constructor
    · rintro ⟨k, -, hclean⟩
      exact ⟨k, hclean⟩
    · rintro ⟨k, hclean⟩
      simp only [hok, hvictim]
      cases hready : ((finRange n).rotate clock.cursor).find? fun k =>
          isCleanUnpinnedResident (frames k) && !(frames k).core.clockUsage with
      | some j =>
        have hj := find?_some hready
        rw [Bool.and_eq_true] at hj
        exact ⟨j, rfl, hj.1⟩
      | none =>
        have hfound : (((finRange n).rotate clock.cursor).find? fun k =>
            isCleanUnpinnedResident (frames k)).isSome = true :=
          find?_isSome.mpr ⟨k, mem_rotate.mpr (mem_finRange k), hclean⟩
        obtain ⟨j, hj⟩ := Option.isSome_iff_exists.mp hfound
        exact ⟨j, hj, find?_some (p := fun k => isCleanUnpinnedResident (frames k)) hj⟩
  · intro k hclean
    rcases selectVictim_rested clock frames k with hsame | ⟨hclean', -⟩
    · exact hsame
    · rw [hclean] at hclean'
      cases hclean'

end Andromeda.ClockEvictionPolicy
