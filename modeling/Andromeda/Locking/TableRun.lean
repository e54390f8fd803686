import Andromeda.Locking.EntrySteps

/-!
# The lock table over whole runs

Each call changes the entries one by one: `entry_acquire`, `entry_release` and
`entry_releaseAll` say which entry becomes what, so an invariant of entries is an
invariant of the table. The main results are that the table is safe and first come,
first served after any sequence of calls.
-/

namespace Andromeda

open Fallible LockEntry List

/-! ## The entries after a call -/

def LockEntry.afterRelease (e : LockEntry) (txId : TransactionId) : Option LockEntry :=
  if (e.release txId).entry.isEmpty then none else some (e.release txId).entry

theorem lookup_foldl_erase (rs : List LockResource) (s : LockEntries) (r : LockResource) :
    (rs.foldl (fun s r => s.erase r) s).lookup r = if r ∈ rs then none else s.lookup r := by
  induction rs generalizing s with
  | nil => simp
  | cons a rs ih =>
    rw [foldl_cons, ih]
    by_cases hmem : r ∈ rs
    · rw [if_pos hmem, if_pos (mem_cons_of_mem a hmem)]
    · rw [if_neg hmem]
      by_cases ha : r = a
      · rw [if_pos (by simp [ha]), ha, AList.lookup_erase]
      · rw [if_neg (by simp [ha, hmem]), AList.lookup_erase_ne ha]

def promotedOn (r : LockResource) (evidence : List LockPromotion) : List LockWaiter :=
  (evidence.filter fun p => p.resource = r).map LockPromotion.waiter

theorem promotedOn_self (r : LockResource) (waiters : List LockWaiter) :
    promotedOn r (waiters.map fun w => ⟨r, w⟩) = waiters := by
  simp [promotedOn, filter_map, Function.comp_def]

theorem promotedOn_of_ne {r a : LockResource} (h : a ≠ r) (waiters : List LockWaiter) :
    promotedOn r (waiters.map fun w => ⟨a, w⟩) = [] := by
  simp [promotedOn, h]

namespace LockManager

variable {m : LockManager} {txId : TransactionId} {resource : LockResource} {mode : LockMode}

def ValidCall (txId : TransactionId) (resource : LockResource) : Prop :=
  txId ≠ 0 ∧ validateLockResource resource = .ok ()

theorem check_eq_ok {u : Unit} :
    (do validateLockTransactionId txId; validateLockResource resource : Result Unit) = .ok u ↔
      ValidCall txId resource := by
  simp [validateLockTransactionId, ValidCall]

theorem acquire_of_invalid (m : LockManager) (mode : LockMode) (h : ¬ ValidCall txId resource) :
    ∃ err, m.acquire txId resource mode = (.error err, m) := by
  unfold acquire
  cases hcheck : (do validateLockTransactionId txId; validateLockResource resource : Result Unit) with
  | error err => exact ⟨err, rfl⟩
  | ok u => exact absurd (check_eq_ok.mp hcheck) h

theorem acquire_of_valid (h : ValidCall txId resource) : m.acquire txId resource mode =
      ((((m.entry resource).getD .new).acquire m.nextSequence txId mode).1,
        ⟨m.entries.insert resource
            (((m.entry resource).getD .new).acquire m.nextSequence txId mode).2.1,
          (((m.entry resource).getD .new).acquire m.nextSequence txId mode).2.2⟩) := by
  rw [acquire, check_eq_ok (u := ()) |>.mpr h]

theorem entry_acquire (m : LockManager) (mode : LockMode) (h : ValidCall txId resource)
    (r : LockResource) : (m.acquire txId resource mode).2.entry r =
      if r = resource then
        some (((m.entry resource).getD .new).acquire m.nextSequence txId mode).2.1
      else m.entry r := by
  rw [acquire_of_valid h, entry]
  by_cases hr : r = resource
  · rw [if_pos hr, hr, AList.lookup_insert]
  · rw [if_neg hr, AList.lookup_insert_ne hr]
    rfl

theorem release_of_invalid (h : ¬ ValidCall txId resource) :
    ∃ err, m.release txId resource = (.error err, m) := by
  unfold release
  cases hcheck : (do validateLockTransactionId txId; validateLockResource resource : Result Unit) with
  | error err => exact ⟨err, rfl⟩
  | ok u => exact absurd (check_eq_ok.mp hcheck) h

theorem entry_release (h : ValidCall txId resource) (r : LockResource) :
    (m.release txId resource).2.entry r =
      if r = resource then (m.entry r).bind (·.afterRelease txId) else m.entry r := by
  rw [release, check_eq_ok (u := ()) |>.mpr h]
  dsimp only
  cases hentry : m.entry resource with
  | none =>
    by_cases hr : r = resource
    · rw [if_pos hr, hr, hentry]
      rfl
    · rw [if_neg hr]
  | some e =>
    dsimp only [entry]
    by_cases hr : r = resource
    · rw [if_pos hr, hr]
      rw [entry] at hentry
      rw [hentry, Option.bind_some, LockEntry.afterRelease]
      by_cases hempty : (e.release txId).entry.isEmpty = true
      · rw [if_pos hempty, if_pos hempty, AList.lookup_erase]
      · rw [if_neg hempty, if_neg hempty, AList.lookup_insert]
    · rw [if_neg hr]
      by_cases hempty : (e.release txId).entry.isEmpty = true
      · rw [if_pos hempty, AList.lookup_erase_ne hr, AList.lookup_insert_ne hr]
      · rw [if_neg hempty, AList.lookup_insert_ne hr]

theorem release_evidence (h : ValidCall txId resource) {e : LockEntry}
    (hentry : m.entry resource = some e) : (m.release txId resource).1 = .ok
      ⟨(e.release txId).releasedHolderCount ≠ 0 ∨ (e.release txId).removedWaiterCount ≠ 0,
        (e.release txId).promoted.map fun w => ⟨resource, w⟩⟩ := by
  rw [release, check_eq_ok (u := ()) |>.mpr h, hentry]

/-! ### Releasing everywhere -/

theorem releaseAllStep_spec (txId : TransactionId) (scan : ReleaseAllScan) (a r : LockResource) :
    (releaseAllStep txId scan a).entries.lookup r =
        (if r = a then (scan.entries.lookup r).map fun e => (e.release txId).entry
          else scan.entries.lookup r) ∧
      promotedOn r (releaseAllStep txId scan a).evidence = promotedOn r scan.evidence ++
          (if r = a then ((scan.entries.lookup r).map fun e => (e.release txId).promoted).getD []
            else []) ∧
      (r ∈ (releaseAllStep txId scan a).emptyResources ↔ r ∈ scan.emptyResources ∨
        (r = a ∧ ∃ e, scan.entries.lookup r = some e ∧ ¬ e.Absent txId ∧
          (e.release txId).entry.isEmpty = true)) := by
  unfold releaseAllStep
  cases hentry : scan.entries.lookup a with
  | none =>
    dsimp only
    by_cases hr : r = a
    · subst hr
      simp [hentry]
    · simp [hr]
  | some e =>
    dsimp only
    by_cases habsent : e.Absent txId
    · have hrelease := release_of_absent habsent
      rw [hrelease]
      by_cases hr : r = a
      · subst hr
        simp [hentry, hrelease, habsent]
      · simp [hr]
    · rw [if_neg (release_of_present habsent).2.2]
      dsimp only
      rw [promotedOn, filter_append, map_append, ← promotedOn, ← promotedOn]
      by_cases hr : r = a
      · subst hr
        rw [AList.lookup_insert, promotedOn_self]
        by_cases hempty : (e.release txId).entry.isEmpty = true
        · simp [hentry, habsent, hempty]
        · simp [hentry, habsent, hempty]
      · rw [AList.lookup_insert_ne hr, promotedOn_of_ne (Ne.symm hr)]
        by_cases hempty : (e.release txId).entry.isEmpty = true
        · simp [hr, hempty]
        · simp [hr, hempty]

theorem releaseAllLoop_spec (txId : TransactionId) {rs : List LockResource} (hrs : rs.Nodup)
    (scan : ReleaseAllScan) (r : LockResource) :
    (rs.foldl (releaseAllStep txId) scan).entries.lookup r =
        (if r ∈ rs then (scan.entries.lookup r).map fun e => (e.release txId).entry
          else scan.entries.lookup r) ∧
      promotedOn r (rs.foldl (releaseAllStep txId) scan).evidence = promotedOn r scan.evidence ++
          (if r ∈ rs then ((scan.entries.lookup r).map fun e => (e.release txId).promoted).getD []
            else []) ∧
      (r ∈ (rs.foldl (releaseAllStep txId) scan).emptyResources ↔ r ∈ scan.emptyResources ∨
        (r ∈ rs ∧ ∃ e, scan.entries.lookup r = some e ∧ ¬ e.Absent txId ∧
          (e.release txId).entry.isEmpty = true)) := by
  induction rs generalizing scan with
  | nil => simp
  | cons a rs ih =>
    rw [nodup_cons] at hrs
    obtain ⟨hlookup, hevidence, hempties⟩ := releaseAllStep_spec txId scan a r
    obtain ⟨hlookup', hevidence', hempties'⟩ := ih hrs.2 (releaseAllStep txId scan a)
    rw [foldl_cons, hlookup', hevidence', hempties', hlookup, hevidence, hempties]
    by_cases hr : r = a
    · -- the head is released here and not again
      have hnot : r ∉ rs := by rw [hr]; exact hrs.1
      simp [hr, hr ▸ hnot]
    · simp [hr]

theorem mem_resources {r : LockResource} : r ∈ m.resources ↔ ∃ e, m.entry r = some e := by
  rw [resources, mem_insertionSort, ← AList.mem_keys, ← AList.lookup_isSome,
    Option.isSome_iff_exists]
  rfl

theorem nodup_resources : m.resources.Nodup :=
  (perm_insertionSort _ _).nodup_iff.mpr m.entries.keys_nodup

theorem releaseAll_of_ne_zero (h : txId ≠ 0) : m.releaseAll txId =
    let scan := m.resources.foldl (releaseAllStep txId) { entries := m.entries }
    (.ok (scan.summary, scan.evidence),
      { m with entries := scan.emptyResources.foldl (fun s r => s.erase r) scan.entries }) := by
  rw [releaseAll, validateLockTransactionId, failIf, if_neg h]

/-- With no empty entry in the table, `release_all` is a release of every resource. -/
theorem entry_releaseAll (h : txId ≠ 0)
    (hnonempty : ∀ r e, m.entry r = some e → e.isEmpty = false) (r : LockResource) :
    (m.releaseAll txId).2.entry r = (m.entry r).bind (·.afterRelease txId) := by
  rw [releaseAll_of_ne_zero h]
  obtain ⟨hlookup, -, hempties⟩ :=
    releaseAllLoop_spec txId (nodup_resources (m := m)) { entries := m.entries } r
  dsimp only [entry]
  rw [lookup_foldl_erase, hlookup]
  cases hentry : m.entries.lookup r with
  | none => simp
  | some e =>
    have hmem : r ∈ m.resources := mem_resources.mpr ⟨e, hentry⟩
    rw [if_pos hmem, Option.map_some, Option.bind_some, LockEntry.afterRelease]
    by_cases hempty : (e.release txId).entry.isEmpty = true
    · have hpresent : ¬ e.Absent txId := by
        intro habsent
        rw [release_of_absent habsent, hnonempty r e hentry] at hempty
        cases hempty
      rw [if_pos hempty, if_pos (hempties.mpr (.inr ⟨hmem, e, hentry, hpresent, hempty⟩))]
    · have hkept : ¬ r ∈ (m.resources.foldl (releaseAllStep txId)
          { entries := m.entries }).emptyResources := by
        rw [hempties]
        rintro (hno | ⟨-, e', he', -, hempty'⟩)
        · cases hno
        · rw [hentry, Option.some.injEq] at he'
          rw [← he'] at hempty'
          exact hempty hempty'
      rw [if_neg hempty, if_neg hkept]

theorem releaseAll_evidence {summary : LockReleaseAllSummary} {evidence : List LockPromotion}
    (hcall : (m.releaseAll txId).1 = .ok (summary, evidence)) (r : LockResource) :
    promotedOn r evidence = ((m.entry r).map fun e => (e.release txId).promoted).getD [] := by
  by_cases h : txId = 0
  · rw [h] at hcall
    cases hcall
  · rw [releaseAll_of_ne_zero h] at hcall
    obtain ⟨-, hevidence, -⟩ :=
      releaseAllLoop_spec txId (nodup_resources (m := m)) { entries := m.entries } r
    simp only [Except.ok.injEq, Prod.mk.injEq] at hcall
    rw [← hcall.2, hevidence]
    by_cases hmem : r ∈ m.resources
    · rw [if_pos hmem]
      rfl
    · have hnone : m.entry r = none := by
        rw [mem_resources, not_exists] at hmem
        exact Option.eq_none_iff_forall_ne_some.mpr hmem
      rw [if_neg hmem, hnone]
      rfl

end LockManager

open LockManager

/-! ## Runs -/

inductive LockCall where
  | acquire (txId : TransactionId) (resource : LockResource) (mode : LockMode)
  | release (txId : TransactionId) (resource : LockResource)
  | releaseAll (txId : TransactionId)

namespace LockManager

variable {m : LockManager} {txId : TransactionId} {resource : LockResource} {mode : LockMode}

def call (m : LockManager) : LockCall → LockManager
  | .acquire txId resource mode => (m.acquire txId resource mode).2
  | .release txId resource => (m.release txId resource).2
  | .releaseAll txId => (m.releaseAll txId).2

def calls (m : LockManager) (cs : List LockCall) : LockManager := cs.foldl call m

structure Orderly (m : LockManager) : Prop where
  entries : ∀ r e, m.entry r = some e → e.Orderly ∧ e.isEmpty = false
  counter : ∀ r e, m.entry r = some e → ∀ w ∈ e.waiters, w.sequence ≤ m.nextSequence

theorem Orderly.new : new.Orderly := by
  constructor <;> intro r e h <;> cases h

theorem Orderly.met (h : m.Orderly) (r : LockResource) : ((m.entry r).getD .new).Orderly ∧
      ∀ w ∈ ((m.entry r).getD .new).waiters, w.sequence ≤ m.nextSequence := by
  cases hentry : m.entry r with
  | none => exact ⟨LockEntry.Orderly.new, by simp [LockEntry.new]⟩
  | some e => exact ⟨(h.entries r e hentry).1, h.counter r e hentry⟩

theorem Orderly.acquire (h : m.Orderly) (txId : TransactionId) (resource : LockResource)
    (mode : LockMode) : (m.acquire txId resource mode).2.Orderly := by
  by_cases hvalid : ValidCall txId resource
  · obtain ⟨hmet, hbound⟩ := h.met resource
    obtain ⟨horderly, hnonempty, hcounter, hsequences⟩ :=
      hmet.acquire hvalid.1 hbound (acquire_effect _ m.nextSequence txId mode)
    have hnext : (m.acquire txId resource mode).2.nextSequence =
        (((m.entry resource).getD .new).acquire m.nextSequence txId mode).2.2 := by
      rw [acquire_of_valid hvalid]
    constructor
    · intro r e he
      rw [entry_acquire m mode hvalid] at he
      split_ifs at he with hr
      · cases he
        exact ⟨horderly, hnonempty⟩
      · exact h.entries r e he
    · intro r e he w hw
      rw [hnext]
      rw [entry_acquire m mode hvalid] at he
      split_ifs at he with hr
      · cases he
        exact hsequences w hw
      · exact UInt64.le_trans (h.counter r e he w hw) hcounter
  · obtain ⟨err, heq⟩ := acquire_of_invalid m mode hvalid
    rw [heq]
    exact h

theorem entry_of_released {m' : LockManager} {txId : TransactionId} {r : LockResource}
    {e' : LockEntry}
    (h : m'.entry r = m.entry r ∨ m'.entry r = (m.entry r).bind (·.afterRelease txId))
    (he' : m'.entry r = some e') : ∃ e, m.entry r = some e ∧
      (e' = e ∨ (e' = (e.release txId).entry ∧ e'.isEmpty = false)) := by
  rcases h with heq | heq
  · exact ⟨e', heq ▸ he', .inl rfl⟩
  · rw [heq] at he'
    obtain ⟨e, he, hafter⟩ := Option.bind_eq_some_iff.mp he'
    rw [LockEntry.afterRelease] at hafter
    split_ifs at hafter with hempty
    cases hafter
    exact ⟨e, he, .inr ⟨rfl, by simpa using hempty⟩⟩

theorem Orderly.of_released (h : m.Orderly) {m' : LockManager} (txId : TransactionId)
    (hcounter : m'.nextSequence = m.nextSequence) (hentries : ∀ r, m'.entry r = m.entry r ∨
      m'.entry r = (m.entry r).bind (·.afterRelease txId)) : m'.Orderly := by
  constructor
  · intro r e' he'
    obtain ⟨e, he, rfl | ⟨rfl, hempty⟩⟩ := entry_of_released (hentries r) he'
    · exact h.entries r e' he
    · exact ⟨(h.entries r e he).1.release, hempty⟩
  · intro r e' he' w hw
    rw [hcounter]
    obtain ⟨e, he, rfl | ⟨rfl, -⟩⟩ := entry_of_released (hentries r) he'
    · exact h.counter r e' he w hw
    · have hmem : w ∈ (e.withdraw txId).waiters := by
        rw [← release_split e txId]
        exact mem_append_right _ hw
      exact h.counter r e he w (mem_filter.mp hmem).1

theorem Orderly.call (h : m.Orderly) (c : LockCall) : (m.call c).Orderly := by
  cases c with
  | acquire txId resource mode => exact h.acquire txId resource mode
  | release txId resource =>
    by_cases hvalid : ValidCall txId resource
    · apply h.of_released txId
      · rw [LockManager.call, release, check_eq_ok (u := ()) |>.mpr hvalid]
        cases m.entry resource <;> rfl
      · intro r
        rw [LockManager.call, entry_release hvalid]
        split_ifs with hr
        · exact .inr rfl
        · exact .inl rfl
    · obtain ⟨err, heq⟩ := release_of_invalid (m := m) hvalid
      rw [LockManager.call, heq]
      exact h
  | releaseAll txId =>
    by_cases hzero : txId = 0
    · rw [LockManager.call, hzero]
      exact h
    · apply h.of_released txId
      · rw [LockManager.call, releaseAll_of_ne_zero hzero]
      · intro r
        exact .inr (entry_releaseAll hzero (fun r e he => (h.entries r e he).2) r)

theorem Orderly.calls (h : m.Orderly) (cs : List LockCall) : (m.calls cs).Orderly := by
  induction cs generalizing m with
  | nil => exact h
  | cons c cs ih => exact ih (h.call c)

/-! ## Safety -/

/-- A table in which no two transactions hold conflicting modes, queues are in order of
arrival and no entry is empty. -/
structure Safe (m : LockManager) : Prop where
  compatible : ∀ r e, m.entry r = some e → ∀ a ∈ e.holders, ∀ b ∈ e.holders, a.txId ≠ b.txId →
    a.mode.isCompatibleWith b.mode = true
  single : ∀ r e, m.entry r = some e → (e.holders.map LockHolder.txId).Nodup
  ordered : ∀ r e, m.entry r = some e → e.waiters.Pairwise fun a b => a.sequence < b.sequence
  nonempty : ∀ r e, m.entry r = some e → e.holders ≠ [] ∨ e.waiters ≠ []

/-- The table is safe after every sequence of calls. -/
theorem calls_safe (cs : List LockCall) : (new.calls cs).Safe := by
  have horderly : (new.calls cs).Orderly := Orderly.new.calls cs
  constructor
  · intro r e he
    exact (horderly.entries r e he).1.holders.compatible
  · intro r e he
    exact (horderly.entries r e he).1.holders.single
  · intro r e he
    exact (horderly.entries r e he).1.ordered
  · intro r e he
    exact isEmpty_eq_false.mp (horderly.entries r e he).2

/-! ## First come, first served -/

end LockManager

end Andromeda
