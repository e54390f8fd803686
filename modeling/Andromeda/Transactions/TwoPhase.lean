import Andromeda.Transactions.LockCoordinator
import Andromeda.Transactions.Outcome

/-!
# Two-phase locking

A transaction that has left `active` cannot acquire: the coordinator rejects its calls. But
a request it queued while it was active stays queued, and the release of another transaction
promotes it without looking at phases. So the protocol holds for the runs in which every
release meets only requests of active transactions, and fails without that condition.
-/

namespace Andromeda

open Fallible Function List LockEntry

/-! ## Where new holder records come from -/

namespace LockManager

def holdersOn (m : LockManager) (r : LockResource) : List LockHolder :=
  ((m.entry r).map holders).getD []

def waitersOn (m : LockManager) (r : LockResource) : List LockWaiter :=
  ((m.entry r).map waiters).getD []

def HasRecord (m : LockManager) (txId : TransactionId) (r : LockResource) : Prop :=
  (∃ h ∈ m.holdersOn r, h.txId = txId) ∨ ∃ w ∈ m.waitersOn r, w.txId = txId
deriving Decidable

end LockManager

open LockManager

variable {holders : List LockHolder} {h : LockHolder} {txId : TransactionId}

/-- A request makes no holder of anybody else. -/
theorem AcquireEffect.mem_holders {e e' : LockEntry} {nextSequence sequence : UInt64}
    {mode : LockMode} {result : Result LockAcquireStatus}
    (heffect : AcquireEffect e nextSequence txId mode result e' sequence)
    (hsafe : HoldersSafe e.holders) (hmem : h ∈ e'.holders) : h ∈ e.holders ∨ h.txId = txId := by
  cases heffect with
  | kept | queued => exact .inl hmem
  | granted => exact mem_push_holder hmem
  | upgraded => exact mem_set_holder hsafe hmem

namespace LockManager

variable {m : LockManager} {txId : TransactionId} {resource r : LockResource} {mode : LockMode}
  {h : LockHolder}

theorem mem_holdersOn : h ∈ m.holdersOn r ↔ ∃ e, m.entry r = some e ∧ h ∈ e.holders := by
  rw [holdersOn]
  cases m.entry r with
  | none => simp
  | some e => simp

theorem mem_waitersOn {w : LockWaiter} :
    w ∈ m.waitersOn r ↔ ∃ e, m.entry r = some e ∧ w ∈ e.waiters := by
  rw [waitersOn]
  cases m.entry r with
  | none => simp
  | some e => simp

theorem hasRecord_of_not_absent {e : LockEntry} (hentry : m.entry r = some e)
    (hpresent : ¬ e.Absent txId) : m.HasRecord txId r := by
  by_contra hnone
  rw [HasRecord, not_or] at hnone
  apply hpresent
  constructor
  · intro x hx htx
    exact hnone.1 ⟨x, mem_holdersOn.mpr ⟨e, hentry, hx⟩, htx⟩
  · intro w hw htx
    exact hnone.2 ⟨w, mem_waitersOn.mpr ⟨e, hentry, hw⟩, htx⟩

theorem mem_holdersOn_acquire (horderly : m.Orderly)
    (hmem : h ∈ (m.acquire txId resource mode).2.holdersOn r) :
    h ∈ m.holdersOn r ∨ h.txId = txId := by
  by_cases hvalid : ValidCall txId resource
  · obtain ⟨e, hentry, hmem⟩ := mem_holdersOn.mp hmem
    rw [entry_acquire m mode hvalid] at hentry
    split_ifs at hentry with hr
    · rw [Option.some.injEq] at hentry
      rw [← hentry] at hmem
      have heffect := acquire_effect ((m.entry resource).getD .new) m.nextSequence txId mode
      rcases heffect.mem_holders (horderly.met resource).1.holders hmem with hold | htx
      · left
        rw [hr, holdersOn]
        cases hmet : m.entry resource with
        | none =>
          rw [hmet] at hold
          cases hold
        | some met =>
          rw [hmet] at hold
          exact hold
      · exact .inr htx
    · exact .inl (mem_holdersOn.mpr ⟨e, hentry, hmem⟩)
  · obtain ⟨err, heq⟩ := acquire_of_invalid m mode hvalid
    rw [heq] at hmem
    exact .inl hmem

/-- Entries that are old ones or what a release left of them: new holders were waiting. -/
theorem mem_holdersOn_of_released {m' : LockManager} (horderly : m.Orderly)
    (hentries : m'.entry r = m.entry r ∨ m'.entry r = (m.entry r).bind (·.afterRelease txId))
    (hmem : h ∈ m'.holdersOn r) : h ∈ m.holdersOn r ∨
      (m.HasRecord txId r ∧ ∃ w ∈ m.waitersOn r, w.txId ≠ txId ∧ w.txId = h.txId) := by
  obtain ⟨e', hentry', hmem⟩ := mem_holdersOn.mp hmem
  obtain ⟨e, hentry, rfl | ⟨rfl, -⟩⟩ := entry_of_released hentries hentry'
  · exact .inl (mem_holdersOn.mpr ⟨e', hentry, hmem⟩)
  · rcases mem_release (horderly.entries r e hentry).1.holders hmem with
      hold | ⟨hpresent, w, hw, hne, htx⟩
    · exact .inl (mem_holdersOn.mpr ⟨e, hentry, hold⟩)
    · exact .inr ⟨hasRecord_of_not_absent hentry hpresent, w,
        mem_waitersOn.mpr ⟨e, hentry, hw⟩, hne, htx⟩

theorem mem_holdersOn_release (horderly : m.Orderly)
    (hmem : h ∈ (m.release txId resource).2.holdersOn r) :
    h ∈ m.holdersOn r ∨ (r = resource ∧ m.HasRecord txId r ∧
      ∃ w ∈ m.waitersOn r, w.txId ≠ txId ∧ w.txId = h.txId) := by
  by_cases hvalid : ValidCall txId resource
  · have hentry := entry_release (m := m) hvalid r
    split_ifs at hentry with hr
    · rcases mem_holdersOn_of_released horderly (.inr hentry) hmem with hold | hnew
      · exact .inl hold
      · exact .inr ⟨hr, hnew⟩
    · rw [holdersOn, hentry] at hmem
      exact .inl hmem
  · obtain ⟨err, heq⟩ := release_of_invalid (m := m) hvalid
    rw [heq] at hmem
    exact .inl hmem

theorem mem_holdersOn_releaseAll (horderly : m.Orderly)
    (hmem : h ∈ (m.releaseAll txId).2.holdersOn r) : h ∈ m.holdersOn r ∨ (m.HasRecord txId r ∧
      ∃ w ∈ m.waitersOn r, w.txId ≠ txId ∧ w.txId = h.txId) := by
  by_cases hzero : txId = 0
  · rw [hzero] at hmem
    exact .inl hmem
  · have hentry := entry_releaseAll hzero (fun r e he => (horderly.entries r e he).2) r
    exact mem_holdersOn_of_released horderly (.inr hentry) hmem

end LockManager

/-! ## Leaving the active state -/

namespace TransactionManager

variable {m m' : TransactionManager} {id : TransactionId} {c : TransactionCall}

def isActive (m : TransactionManager) (id : TransactionId) : Bool :=
  (m.live id).any fun machine => machine.state = .active

/-- The transaction has begun and is not active any more; its machine may be disposed of. -/
def LeftActive (m : TransactionManager) (id : TransactionId) : Prop :=
  m.status id ≠ none ∧ m.isActive id = false
deriving Decidable

theorem isActive_eq_true :
    m.isActive id = true ↔ ∃ machine, m.live id = some machine ∧ machine.state = .active := by
  rw [isActive, Option.any_eq_true]
  simp

theorem isActive_congr (h : m'.live id = m.live id) : m'.isActive id = m.isActive id := by
  rw [isActive, isActive, h]

theorem isActive_of_live {machine : TransactionStateMachine} (hlive : m.live id = some machine)
    (hstate : machine.state ≠ .active) : m.isActive id = false := by
  rw [isActive, hlive]
  simpa using hstate

/-- No call takes a transaction back to `active`: ids are issued once. -/
theorem Change.isActive_false (h : Change m c m') (hcoherent : ∀ id, m.Coherent id)
    (hleft : m.LeftActive id) : m'.isActive id = false := by
  have hmoved : ∀ (moved : TransactionId) (machine : TransactionStateMachine),
      machine.state ≠ .active → m'.live = Function.update m.live moved (some machine) →
        m'.isActive id = false := by
    intro moved machine hstate hlive
    by_cases hid : id = moved
    · apply isActive_of_live _ hstate
      rw [hlive, hid, update_self]
    · have hother : m'.live id = m.live id := by rw [hlive, update_of_ne hid]
      rw [isActive_congr hother]
      exact hleft.2
  cases h with
  | rejected => exact hleft.2
  | seeded => exact hleft.2
  | began started hfresh =>
    have hid : id ≠ started := by
      intro heq
      rw [← heq] at hfresh
      exact hleft.1 ((hcoherent id).fresh hfresh).1
    rw [isActive_congr (update_of_ne hid _ _)]
    exact hleft.2
  | commitRequested moved machine
  | rollbackRequested moved machine | poisoned moved machine
  | failed moved machine | committed moved | rolledBack moved => exact hmoved moved _ (by simp) rfl
  | disposed gone =>
    by_cases hid : id = gone
    · rw [isActive, hid]
      simp
    · rw [isActive_congr (update_of_ne hid _ _)]
      exact hleft.2
  | savepoint => exact hleft.2

theorem LeftActive.call (hleft : m.LeftActive id) (hcoherent : ∀ id, m.Coherent id)
    (c : TransactionCall) : (m.call c).LeftActive id := by
  have hchange := call_change hcoherent c
  refine ⟨?_, hchange.isActive_false hcoherent hleft⟩
  rcases hchange.status_cases hcoherent id with
    hsame | ⟨-, hstatus⟩ | ⟨-, hstatus, -⟩ | ⟨-, hstatus, -⟩
  · rw [hsame]
    exact hleft.1
  all_goals
    rw [hstatus]
    exact Option.some_ne_none _

variable {u : Unit}

theorem left_of_requireKnownTransaction (h : m.requireKnownTransaction id = .ok u) :
    m.LeftActive id := by
  simp only [requireKnownTransaction, ok_iff, TwoPhaseLocksValidator.validateOperation,
    TwoPhaseLocksValidator.stateAllowsRelease] at h
  obtain ⟨-, machine, hlive, status, hstatus, -, hshrinking⟩ := h
  refine ⟨by rw [hstatus]; exact Option.some_ne_none _, isActive_of_live hlive ?_⟩
  intro hactive
  simp [hactive] at hshrinking

theorem left_of_requireTerminalCleanupTransaction (hcoherent : ∀ id, m.Coherent id)
    (h : m.requireTerminalCleanupTransaction id = .ok u) : m.LeftActive id := by
  simp only [requireTerminalCleanupTransaction, ok_iff] at h
  obtain ⟨-, status, hstatus, hterminal⟩ := h
  refine ⟨by rw [hstatus]; exact Option.some_ne_none _, ?_⟩
  -- An active machine is mirrored in flight, which the check rejects.
  by_contra hactive
  obtain ⟨machine, hlive, hstate⟩ := isActive_eq_true.mp (by simpa using hactive)
  have hmirror := ((hcoherent id).mirrored machine hlive).2
  rw [hstate, hstatus] at hmirror
  cases hmirror
  exact hterminal rfl

end TransactionManager

open TransactionManager

/-! ## The protocol -/

namespace TransactionLockCoordinator

variable {s : TransactionLockCoordinator} {cs : List CoordinatorCall} {id : TransactionId}

section

variable (s : TransactionLockCoordinator)

def Releases (id : TransactionId) : CoordinatorCall → Prop
  | .release txId resource => txId = id ∧ succeeds (s.release txId resource).1 = true
  | .releaseAll txId => txId = id ∧ succeeds (s.releaseAll txId).1 = true
  | _ => False

/-- By the `n`-th state of the run the transaction has released a lock or left `active`. -/
def HasShrunk (cs : List CoordinatorCall) (n : Nat) (id : TransactionId) : Prop :=
  (s.calls (cs.take n)).transactions.LeftActive id ∨
    ∃ i c, i < n ∧ cs[i]? = some c ∧ (s.calls (cs.take i)).Releases id c

/-- From then on every holder record it has is one that it had. -/
def TwoPhase (cs : List CoordinatorCall) : Prop :=
  ∀ n k id, n ≤ k → s.HasShrunk cs n id → ∀ r, ∀ h ∈ (s.calls (cs.take k)).locks.holdersOn r,
    h.txId = id → h ∈ (s.calls (cs.take n)).locks.holdersOn r

/-- Transaction 2 waits for the table, requests its commit, and becomes holder when transaction 1
releases. -/
def promotedRun : List CoordinatorCall :=
  [.transaction .begin, .transaction .begin, .acquire 1 (.table 1 1) .exclusive,
    .acquire 2 (.table 1 1) .exclusive, .transaction (.requestCommit 2),
    .transaction (.requestCommit 1), .release 1 (.table 1 1)]

/-- A queued request outlives the active state of its transaction. -/
theorem promoted_while_committing :
    ((start 0).calls (promotedRun.take 5)).transactions.LeftActive 2 ∧
      ((start 0).calls (promotedRun.take 5)).locks.holdersOn (.table 1 1) = [⟨1, .exclusive⟩] ∧
      ((start 0).calls promotedRun).locks.holdersOn (.table 1 1) = [⟨2, .exclusive⟩] ∧
      ¬ (start 0).TwoPhase promotedRun := by
  have hleft : ((start 0).calls (promotedRun.take 5)).transactions.LeftActive 2 := by
    decide +kernel
  have hbefore : ((start 0).calls (promotedRun.take 5)).locks.holdersOn (.table 1 1) =
      [⟨1, .exclusive⟩] := by
    decide +kernel
  have hafter : ((start 0).calls promotedRun).locks.holdersOn (.table 1 1) =
      [⟨2, .exclusive⟩] := by
    decide +kernel
  refine ⟨hleft, hbefore, hafter, fun htwoPhase => ?_⟩
  have hheld := htwoPhase 5 7 2 (by decide) (.inl hleft) (.table 1 1) ⟨2, .exclusive⟩
    (hafter ▸ List.mem_singleton_self _) rfl
  rw [hbefore] at hheld
  revert hheld
  decide

/-! ## When it holds -/

def WaitersActive (txId : TransactionId) (r : LockResource) : Prop :=
  s.locks.HasRecord txId r →
    ∀ w ∈ s.locks.waitersOn r, w.txId ≠ txId → s.transactions.isActive w.txId = true
deriving Decidable

def Undisturbed : CoordinatorCall → Prop
  | .release txId resource => s.WaitersActive txId resource
  | .releaseAll txId => ∀ r ∈ s.locks.resources, s.WaitersActive txId r
  | _ => True

end

instance decidableUndisturbed (s : TransactionLockCoordinator) :
    (c : CoordinatorCall) → Decidable (s.Undisturbed c)
  | .release txId resource => inferInstanceAs (Decidable (s.WaitersActive txId resource))
  | .releaseAll _ => inferInstanceAs (Decidable (∀ r ∈ s.locks.resources, _))
  | .transaction _ | .acquire .. => isTrue trivial

def UndisturbedRun (s : TransactionLockCoordinator) : List CoordinatorCall → Prop
  | [] => True
  | c :: cs => s.Undisturbed c ∧ (s.call c).UndisturbedRun cs

instance decidableUndisturbedRun : (s : TransactionLockCoordinator) →
    (cs : List CoordinatorCall) → Decidable (s.UndisturbedRun cs)
  | _, [] => isTrue trivial
  | s, c :: cs =>
    @instDecidableAnd _ _ (decidableUndisturbed s c) (decidableUndisturbedRun (s.call c) cs)

theorem UndisturbedRun.drop (h : s.UndisturbedRun cs) (n : Nat) :
    (s.calls (cs.take n)).UndisturbedRun (cs.drop n) := by
  induction n generalizing s cs with
  | zero => exact h
  | succ n ih =>
    cases cs with
    | nil => exact h
    | cons c cs => exact ih h.2

theorem UndisturbedRun.take (h : s.UndisturbedRun cs) (n : Nat) : s.UndisturbedRun (cs.take n) := by
  induction n generalizing s cs with
  | zero => exact trivial
  | succ n ih =>
    cases cs with
    | nil => exact h
    | cons c cs => exact ⟨h.1, ih h.2⟩

/-- One call: a transaction that left `active` stays so and gets no holder record. -/
theorem call_leftActive (hsound : s.Sound) (hleft : s.transactions.LeftActive id)
    (c : CoordinatorCall) : (s.call c).transactions.LeftActive id := by
  have hguarded : ∀ {α : Type} (check : Result Unit) (op : LockManager → Result α × LockManager),
      (s.guarded check op).2.transactions = s.transactions := by
    intro α check op
    rcases guarded_cases s check op with ⟨err, -, heq⟩ | ⟨-, heq⟩ <;> rw [heq]
  cases c with
  | transaction c => exact hleft.call hsound.coherent c
  | acquire txId resource mode =>
    rw [call, acquire, hguarded]
    exact hleft
  | release txId resource =>
    rw [call, release, hguarded]
    exact hleft
  | releaseAll txId =>
    rw [call, releaseAll, hguarded]
    exact hleft

variable {c : CoordinatorCall} {r : LockResource} {h : LockHolder}

section

variable (hsound : s.Sound) (hleft : s.transactions.LeftActive id)
include hsound hleft

omit hsound hleft in
theorem mem_guarded {α : Type} {check : Result Unit} {op : LockManager → Result α × LockManager}
    (hmem : h ∈ (s.guarded check op).2.locks.holdersOn r) :
    h ∈ s.locks.holdersOn r ∨ (check = .ok () ∧ h ∈ (op s.locks).2.holdersOn r) := by
  rcases guarded_cases s check op with ⟨err, -, heq⟩ | ⟨hcheck, heq⟩ <;> rw [heq] at hmem
  · exact .inl hmem
  · exact .inr ⟨hcheck, hmem⟩

theorem call_holders_old
    (hundisturbed : s.Undisturbed c) (hmem : h ∈ (s.call c).locks.holdersOn r) (hid : h.txId = id) :
    h ∈ s.locks.holdersOn r := by
  cases c with
  | transaction c => exact hmem
  | acquire txId resource mode =>
    rcases mem_guarded hmem with hold | ⟨hcheck, hmem⟩
    · exact hold
    rcases mem_holdersOn_acquire hsound.orderly hmem with hold | htx
    · exact hold
    · -- its own request would have needed an active state
      simp only [requireLockAcquireTransaction, ok_iff, not_or] at hcheck
      obtain ⟨-, machine, hlive, -, -, ⟨hstate, -⟩, -⟩ := hcheck
      have hactive := isActive_eq_true.mpr ⟨machine, hlive, hstate⟩
      rw [← htx, hid, hleft.2] at hactive
      cases hactive
  | release txId resource =>
    rcases mem_guarded hmem with hold | ⟨-, hmem⟩
    · exact hold
    rcases mem_holdersOn_release hsound.orderly hmem with
      hold | ⟨rfl, hrecord, w, hw, hne, htx⟩
    · exact hold
    · have hactive := hundisturbed hrecord w hw hne
      rw [htx, hid, hleft.2] at hactive
      cases hactive
  | releaseAll txId =>
    rcases mem_guarded hmem with hold | ⟨-, hmem⟩
    · exact hold
    rcases mem_holdersOn_releaseAll hsound.orderly hmem with hold | ⟨hrecord, w, hw, hne, htx⟩
    · exact hold
    · obtain ⟨e, hentry, -⟩ := mem_waitersOn.mp hw
      have hresource : r ∈ s.locks.resources := mem_resources.mpr ⟨e, hentry⟩
      have hactive := hundisturbed r hresource hrecord w hw hne
      rw [htx, hid, hleft.2] at hactive
      cases hactive

theorem calls_leftActive (cs : List CoordinatorCall) : (s.calls cs).transactions.LeftActive id := by
  induction cs generalizing s with
  | nil => exact hleft
  | cons c cs ih => exact ih (hsound.call c) (call_leftActive hsound hleft c)

theorem calls_holders_old
    (hrun : s.UndisturbedRun cs) (hmem : h ∈ (s.calls cs).locks.holdersOn r) (hid : h.txId = id) :
    h ∈ s.locks.holdersOn r := by
  induction cs generalizing s with
  | nil => exact hmem
  | cons c cs ih =>
    have hnext : h ∈ (s.call c).locks.holdersOn r :=
      ih (hsound.call c) (call_leftActive hsound hleft c) hrun.2 hmem
    exact call_holders_old hsound hleft hrun.1 hnext hid

end

theorem guarded_accepted {α : Type} {check : Result Unit}
    {op : LockManager → Result α × LockManager}
    (h : succeeds (s.guarded check op).1 = true) : check = .ok () := by
  rcases guarded_cases s check op with ⟨err, -, heq⟩ | ⟨hcheck, -⟩
  · rw [heq] at h
    cases h
  · exact hcheck

theorem Releases.leftActive (h : s.Releases id c) (hsound : s.Sound) :
    s.transactions.LeftActive id := by
  cases c with
  | transaction c => exact h.elim
  | acquire txId resource mode => exact h.elim
  | release txId resource =>
    obtain ⟨rfl, hok⟩ := h
    exact left_of_requireKnownTransaction (guarded_accepted hok)
  | releaseAll txId =>
    obtain ⟨rfl, hok⟩ := h
    exact left_of_requireTerminalCleanupTransaction hsound.coherent (guarded_accepted hok)

theorem calls_take_drop_take (s : TransactionLockCoordinator) (cs : List CoordinatorCall)
    {n k : Nat} (h : n ≤ k) :
    (s.calls (cs.take n)).calls ((cs.take k).drop n) = s.calls (cs.take k) := by
  have htake : (cs.take k).take n = cs.take n := by
    rw [take_take, Nat.min_eq_left h]
  have hsplit : cs.take n ++ (cs.take k).drop n = cs.take k := by
    rw [← htake, take_append_drop]
  rw [calls, calls, calls, ← foldl_append, hsplit]

theorem HasShrunk.leftActive (hsound : s.Sound) {n : Nat} (h : s.HasShrunk cs n id) :
    (s.calls (cs.take n)).transactions.LeftActive id := by
  rcases h with hleft | ⟨i, c, hlt, -, hreleases⟩
  · exact hleft
  · have hthen := hreleases.leftActive (hsound.calls (cs.take i))
    rw [← calls_take_drop_take s cs (Nat.le_of_lt hlt)]
    exact calls_leftActive (hsound.calls _) hthen _

/-- Two-phase locking holds in every run whose releases meet only requests of active
transactions. -/
theorem undisturbed_run_two_phase (floor : UInt64) (cs : List CoordinatorCall)
    (h : (start floor).UndisturbedRun cs) : (start floor).TwoPhase cs := by
  intro n k id hle hshrunk r holder hmem hid
  have hsound := Sound.start floor
  have hleft := HasShrunk.leftActive hsound hshrunk
  have hrest : ((start floor).calls (cs.take n)).UndisturbedRun ((cs.take k).drop n) := by
    have hdrop := (h.take k).drop n
    rw [take_take, Nat.min_eq_left hle] at hdrop
    exact hdrop
  rw [← calls_take_drop_take _ cs hle] at hmem
  exact calls_holders_old (hsound.calls _) hleft hrest hmem hid

/-- Transaction 2 is promoted while active and commits afterwards. -/
theorem undisturbed_run_two_phase_promotedActive : (start 0).TwoPhase
      [.transaction .begin, .transaction .begin, .acquire 1 (.table 1 1) .exclusive,
        .acquire 2 (.table 1 1) .exclusive, .transaction (.requestCommit 1),
        .release 1 (.table 1 1), .transaction (.requestCommit 2)] :=
  undisturbed_run_two_phase 0 _ (by decide +kernel)

end TransactionLockCoordinator

end Andromeda
