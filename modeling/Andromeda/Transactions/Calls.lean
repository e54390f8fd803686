import Andromeda.Transactions.Manager

/-!
# What a call of the transaction manager can do

`Change` lists the outcomes of a call on a coherent manager: the machine and its mirrored
status move together or not at all. A call between whose writes an error could fall either
fails before the first one or succeeds.
-/

namespace Andromeda

open Fallible TransactionStateMachine TransactionIdAllocator Effect Function TransactionStatusTable

inductive TransactionCall where
  | seedAllocator (floor : UInt64)
  | begin
  | requestCommit (id : TransactionId)
  | commitDurableAfterWalRecord (id : TransactionId) (commitRecordLsn durableLsn : Lsn)
  | requestRollback (id : TransactionId)
  | rollbackDurableAfterWalRecord (id : TransactionId) (rollbackRecordLsn durableLsn : Lsn)
  | poison (id : TransactionId)
  | fail (id : TransactionId)
  | dispose (id : TransactionId)
  | createSavepoint (id : TransactionId) (name : String)
  | releaseSavepoint (id : TransactionId) (name : String)
  | rollbackToSavepoint (id : TransactionId) (name : String)

/-- The two calls that take a transaction out of `active` without a request; they leave its
savepoints where they are. -/
def TransactionCall.stops : TransactionCall → Bool
  | .poison _ | .fail _ => true
  | _ => false

namespace TransactionManager

section

variable (m : TransactionManager)

def call : TransactionCall → TransactionManager
  | .seedAllocator floor => (seedAllocator floor m).2
  | .begin => (begin m).2
  | .requestCommit id => (requestCommit id m).2
  | .commitDurableAfterWalRecord id recordLsn durableLsn =>
    (commitDurableAfterWalRecord id recordLsn durableLsn m).2
  | .requestRollback id => (requestRollback id m).2
  | .rollbackDurableAfterWalRecord id recordLsn durableLsn =>
    (rollbackDurableAfterWalRecord id recordLsn durableLsn m).2
  | .poison id => (poison id m).2
  | .fail id => (fail id m).2
  | .dispose id => (dispose id m).2
  | .createSavepoint id name => (createSavepoint id name m).2
  | .releaseSavepoint id name => (releaseSavepoint id name m).2
  | .rollbackToSavepoint id name => (rollbackToSavepoint id name m).2

def calls (cs : List TransactionCall) : TransactionManager :=
  cs.foldl call m

theorem calls_append (cs : List TransactionCall) (c : TransactionCall) :
    m.calls (cs ++ [c]) = (m.calls cs).call c := by
  rw [calls, List.foldl_append]
  rfl

end

/-- The status a live machine in this state is mirrored by; a machine the manager holds is
never `created` or `disposed`. -/
def mirror : TransactionState → Option TransactionStatus
  | .committed => some .committed
  | .rolledBack => some .rolledBack
  | .active | .committing | .failed | .rollingBack | .poisoned => some .inFlight
  | .created | .disposed => none

/-- What ties the tables together at one id. -/
structure Coherent (m : TransactionManager) (id : TransactionId) : Prop where
  issued : m.status id ≠ none → id ≠ 0 ∧ id ≤ m.allocator.lastIssued
  mirrored : ∀ machine, m.live id = some machine →
    m.status id ≠ none ∧ m.status id = mirror machine.state
  stacked : m.savepoints id ≠ none → m.live id ≠ none

open Coherent

def setMachine (m : TransactionManager) (id : TransactionId) (machine : TransactionStateMachine) :
    TransactionManager :=
  { m with live := update m.live id (some machine) }

inductive Change (m : TransactionManager) : TransactionCall → TransactionManager → Prop
  | rejected (c : TransactionCall) : Change m c m
  | seeded (floor : UInt64) (hfloor : m.allocator.lastIssued ≤ floor) :
      Change m (.seedAllocator floor) { m with allocator := ⟨floor⟩ }
  | began (id : TransactionId) (hfresh : m.allocator.lastIssued < id) :
      Change m .begin
        { allocator := ⟨id⟩
          live := update m.live id (some ⟨id, .active, none, none⟩)
          savepoints := update m.savepoints id (some .new)
          status := update m.status id (some .inFlight) }
  | commitRequested (id : TransactionId) (machine : TransactionStateMachine)
      (hlive : m.live id = some machine) (hstate : machine.state = .active) :
      Change m (.requestCommit id)
        ((m.setMachine id { machine with state := .committing }).clearSavepoints id)
  | rollbackRequested (id : TransactionId) (machine : TransactionStateMachine)
      (hlive : m.live id = some machine)
      (hstate : machine.state = .active ∨ machine.state = .failed ∨ machine.state = .poisoned) :
      Change m (.requestRollback id)
        ((m.setMachine id { machine with state := .rollingBack }).clearSavepoints id)
  | poisoned (id : TransactionId) (machine : TransactionStateMachine)
      (hlive : m.live id = some machine) (hstate : machine.state = .active) :
      Change m (.poison id) (m.setMachine id { machine with state := .poisoned })
  | failed (id : TransactionId) (machine : TransactionStateMachine)
      (hlive : m.live id = some machine) (hstate : machine.state = .active) :
      Change m (.fail id) (m.setMachine id { machine with state := .failed })
  | committed (id : TransactionId) (recordLsn durableLsn : Lsn)
      (machine : TransactionStateMachine) (hlive : m.live id = some machine)
      (hstate : machine.state = .committing) (hcovers : recordLsn ≠ 0 ∧ recordLsn ≤ durableLsn) :
      Change m (.commitDurableAfterWalRecord id recordLsn durableLsn)
        { m.setMachine id { machine with state := .committed, durableCommitLsn := some durableLsn }
          with status := update m.status id (some .committed) }
  | rolledBack (id : TransactionId) (recordLsn durableLsn : Lsn)
      (machine : TransactionStateMachine) (hlive : m.live id = some machine)
      (hstate : machine.state = .rollingBack) (hcovers : recordLsn ≠ 0 ∧ recordLsn ≤ durableLsn) :
      Change m (.rollbackDurableAfterWalRecord id recordLsn durableLsn)
        { m.setMachine id
            { machine with state := .rolledBack, durableRollbackLsn := some durableLsn }
          with status := update m.status id (some .rolledBack) }
  | disposed (id : TransactionId) (machine : TransactionStateMachine)
      (hlive : m.live id = some machine)
      (hstate : machine.state = .committed ∨ machine.state = .rolledBack) :
      Change m (.dispose id)
        { m with
          live := update m.live id none
          savepoints := update m.savepoints id none }
  | savepoint (c : TransactionCall) (id : TransactionId) (machine : TransactionStateMachine)
      (stack : SavepointStack) (hlive : m.live id = some machine)
      (hstate : machine.state = .active) :
      Change m c { m with savepoints := update m.savepoints id (some stack) }

/-! ## The parts of a call -/

variable {m m' : TransactionManager} {id : TransactionId}
  {machine machine' : TransactionStateMachine} {result : Except Error Unit}
  {operation : String}

theorem onMachine_cases {op : Effect TransactionStateMachine Error Unit}
    (h : onMachine id op m = (result, m')) : (∃ err, result = .error err ∧ m' = m) ∨
      ∃ machine machine', m.live id = some machine ∧ op machine = (result, machine') ∧
        m' = m.setMachine id machine' := by
  rw [onMachine] at h
  cases hlive : m.live id with
  | none =>
    rw [hlive] at h
    cases h
    exact .inl ⟨_, rfl, rfl⟩
  | some machine =>
    rw [hlive] at h
    cases h
    exact .inr ⟨machine, (op machine).2, rfl, rfl, rfl⟩

theorem onStatus_of_ok {op : TransactionStatusTable → Result TransactionStatusTable}
    {status : TransactionStatusTable} (h : op m.status = .ok status) :
    onStatus op m = (.ok (), { m with status := status }) := by
  rw [onStatus, h]

theorem onActiveSavepoints_cases {α : Type} {op : SavepointStack → Result (α × SavepointStack)}
    {result : Except Error α} (h : onActiveSavepoints id operation op m = (result, m')) :
    m' = m ∨ ∃ machine stack, m.live id = some machine ∧ machine.state = .active ∧
      m' = { m with savepoints := update m.savepoints id (some stack) } := by
  rw [onActiveSavepoints, get_bind] at h
  rcases lift_bind_cases h with ⟨err, -, -, hsame⟩ | ⟨_, hguard, h⟩
  · exact .inl hsame
  simp only [requireActiveInFlight, ok_iff, not_or] at hguard
  obtain ⟨-, machine, hlive, -, -, hactive, -⟩ := hguard
  rw [onSavepoints] at h
  split at h
  · cases h
    exact .inl rfl
  · split at h
    · cases h
      exact .inl rfl
    · cases h
      exact .inr ⟨machine, _, hlive, hactive, rfl⟩

/-! ## Every call is one of the changes -/

theorem Coherent.fresh (h : m.Coherent id) (hfresh : m.allocator.lastIssued < id) :
    m.status id = none ∧ m.live id = none := by
  have hstatus : m.status id = none := by
    by_contra hsome
    exact UInt64.lt_irrefl _ (UInt64.lt_of_lt_of_le hfresh (h.issued hsome).2)
  refine ⟨hstatus, ?_⟩
  cases hlive : m.live id with
  | none => rfl
  | some machine => exact absurd hstatus (h.mirrored machine hlive).1

theorem allocate_eq_ok {a a' : TransactionIdAllocator} (h : a.allocate = .ok (id, a')) :
    a.lastIssued < id ∧ id ≠ 0 ∧ a' = ⟨id⟩ := by
  simp only [allocate, ok_iff, checkedAdd_eq_some, Prod.mk.injEq] at h
  obtain ⟨next, hnext, rfl, rfl⟩ := h
  have hone : (1 : UInt64).toNat = 1 := rfl
  rw [hone] at hnext
  refine ⟨?_, ?_, rfl⟩
  · rw [UInt64.lt_iff_toNat_lt]
    omega
  · intro hzero
    rw [hzero] at hnext
    have hzeroNat : (0 : UInt64).toNat = 0 := rfl
    omega

theorem begin_change (hcoherent : ∀ id, m.Coherent id) : Change m .begin (begin m).2 := by
  rw [begin]
  cases halloc : m.allocator.allocate with
  | error err =>
    have hrun : onAllocator allocate m = (.error err, m) := by
      rw [onAllocator, halloc]
    rw [bind_of_error hrun]
    exact .rejected _
  | ok issued =>
    obtain ⟨id, a'⟩ := issued
    obtain ⟨hless, hne, rfl⟩ := allocate_eq_ok halloc
    have hrun : onAllocator allocate m = (.ok id, { m with allocator := ⟨id⟩ }) := by
      rw [onAllocator, halloc]
    -- The new id is in no table, so neither check of the admission can fail.
    obtain ⟨hstatus, hlive⟩ := (hcoherent id).fresh hless
    have hrecord : m.status.record id .inFlight = .ok (update m.status id (some .inFlight)) := by
      rw [record_eq_ok]
      exact ⟨hne, rfl, by simp [isTerminalAt, hstatus], rfl⟩
    have hbegun : apply .begin (.new id) = (.ok (), ⟨id, .active, none, none⟩) := rfl
    rw [bind_of_ok hrun, beginInner, get_bind]
    simp only [hlive, Option.isSome_none, Bool.false_eq_true, failIf, if_false, hbegun,
      lift_ok_bind, modify_bind]
    rw [bind_of_ok (onStatus_of_ok hrecord)]
    exact .began id hless

theorem seedAllocator_change (floor : UInt64) :
    Change m (.seedAllocator floor) (seedAllocator floor m).2 := by
  rw [seedAllocator, onAllocator]
  by_cases hless : floor < m.allocator.lastIssued
  · simp only [seed, failIf, if_pos hless]
    exact .rejected _
  · simp only [seed, failIf, if_neg hless]
    exact .seeded floor (UInt64.not_lt.mp hless)

section Moves

variable {c : TransactionCall} {rest : Unit → Effect TransactionManager Error Unit}

theorem move_change {op : Effect TransactionStateMachine Error Unit}
    (hmove : ∀ machine machine' result, m.live id = some machine →
      op machine = (result, machine') → (∃ err, result = .error err ∧ machine' = machine) ∨
        result = .ok () ∧ Change m c (rest () (m.setMachine id machine')).2) :
    Change m c ((onMachine id op >>= rest) m).2 := by
  rcases hrun : onMachine id op m with ⟨result, t⟩
  rcases onMachine_cases hrun with ⟨err, rfl, rfl⟩ | ⟨machine, machine', hlive, hop, rfl⟩
  · rw [bind_of_error hrun]
    exact .rejected c
  rcases hmove machine machine' result hlive hop with ⟨err, rfl, rfl⟩ | ⟨rfl, hchange⟩
  · rw [bind_of_error hrun, setMachine, ← hlive, update_eq_self]
    exact .rejected c
  · rw [bind_of_ok hrun]
    exact hchange

theorem event_change {event : TransactionEvent}
    (hmove : ∀ machine next, m.live id = some machine → machine.state.apply event = .ok next →
      Change m c (rest () (m.setMachine id { machine with state := next })).2) :
    Change m c ((onMachine id (apply event) >>= rest) m).2 := by
  refine move_change ?_
  intro machine machine' result hlive hop
  rw [apply, get_bind] at hop
  refine refused_or hop fun next hnext hop => ?_
  refine refused_or hop fun _ _ hop => ?_
  refine refused_or hop fun _ _ hop => ?_
  cases hop
  exact .inr ⟨rfl, hmove machine next hlive hnext⟩

end Moves

section

variable (id : TransactionId)

theorem requestCommit_change : Change m (.requestCommit id) (requestCommit id m).2 := by
  refine event_change ?_
  intro machine next hlive hnext
  cases hstate : machine.state <;> rw [hstate] at hnext <;> cases hnext
  exact .commitRequested id machine hlive hstate

theorem requestRollback_change : Change m (.requestRollback id) (requestRollback id m).2 := by
  refine event_change ?_
  intro machine next hlive hnext
  cases hstate : machine.state <;> rw [hstate] at hnext <;> cases hnext
  all_goals exact .rollbackRequested id machine hlive (by simp [hstate])

theorem poison_change : Change m (.poison id) (poison id m).2 := by
  rw [poison, ← bind_pure_apply (onMachine id _) m]
  refine event_change ?_
  intro machine next hlive hnext
  cases hstate : machine.state <;> rw [hstate] at hnext <;> cases hnext
  exact .poisoned id machine hlive hstate

theorem fail_change : Change m (.fail id) (fail id m).2 := by
  rw [fail, ← bind_pure_apply (onMachine id _) m]
  refine event_change ?_
  intro machine next hlive hnext
  cases hstate : machine.state <;> rw [hstate] at hnext <;> cases hnext
  exact .failed id machine hlive hstate

theorem dispose_change : Change m (.dispose id) (dispose id m).2 := by
  refine event_change ?_
  intro machine next hlive hnext
  -- Only the two terminal states take the event, and both reach `disposed`.
  have hdisposed : next = .disposed ∧
      (machine.state = .committed ∨ machine.state = .rolledBack) := by
    cases hstate : machine.state <;> rw [hstate] at hnext <;> cases hnext
    all_goals simp
  obtain ⟨rfl, hstate⟩ := hdisposed
  rw [get_bind]
  simp only [setMachine, update_self, Option.map_some, ne_eq, not_true_eq_false, failIf,
    if_false, lift_ok_bind, modify_apply, update_idem]
  exact .disposed id machine hlive hstate

end

theorem Coherent.recordTerminal (h : m.Coherent id) (hlive : m.live id = some machine)
    (hmirror : mirror machine.state = some .inFlight) (status : TransactionStatus)
    (hterminal : status.isTerminal = true) {recordLsn durableLsn : Lsn}
    (hcovers : recordLsn ≠ 0 ∧ recordLsn ≤ durableLsn) :
    m.status.recordTerminalFromDurableEvidence id status recordLsn durableLsn =
      .ok (update m.status id (some status)) := by
  rw [recordTerminalFromDurableEvidence_eq_ok]
  refine ⟨hcovers, hterminal, ?_, rfl⟩
  intro hfinal
  rw [isTerminalAt, (h.mirrored machine hlive).2, hmirror] at hfinal
  cases hfinal

section

variable (hcoherent : ∀ id, m.Coherent id) (id : TransactionId) (recordLsn durableLsn : Lsn)
include hcoherent

theorem commitDurableAfterWalRecord_change :
    Change m (.commitDurableAfterWalRecord id recordLsn durableLsn)
      (commitDurableAfterWalRecord id recordLsn durableLsn m).2 := by
  refine move_change ?_
  intro machine machine' result hlive hop
  refine (publishVisibleCommitWithDurableEvidence_cases hop).imp_right ?_
  rintro ⟨hstate, hcovers, rfl, rfl⟩
  have hrecord := (hcoherent id).recordTerminal hlive (by rw [hstate]; rfl) .committed rfl hcovers
  rw [onStatus_of_ok hrecord]
  exact ⟨rfl, .committed id recordLsn durableLsn machine hlive hstate hcovers⟩

theorem rollbackDurableAfterWalRecord_change :
    Change m (.rollbackDurableAfterWalRecord id recordLsn durableLsn)
      (rollbackDurableAfterWalRecord id recordLsn durableLsn m).2 := by
  refine move_change ?_
  intro machine machine' result hlive hop
  refine (completeRollbackWithDurableEvidence_cases hop).imp_right ?_
  rintro ⟨hstate, hcovers, rfl, rfl⟩
  have hrecord := (hcoherent id).recordTerminal hlive (by rw [hstate]; rfl) .rolledBack rfl hcovers
  rw [onStatus_of_ok hrecord]
  exact ⟨rfl, .rolledBack id recordLsn durableLsn machine hlive hstate hcovers⟩

end

theorem onActiveSavepoints_change {α : Type} (c : TransactionCall) (id : TransactionId)
    (operation : String) (op : SavepointStack → Result (α × SavepointStack)) :
    Change m c (onActiveSavepoints id operation op m).2 := by
  rcases hrun : onActiveSavepoints id operation op m with ⟨result, m'⟩
  rcases onActiveSavepoints_cases hrun with rfl | ⟨machine, stack, hlive, hstate, rfl⟩
  · exact .rejected c
  · exact .savepoint c id machine stack hlive hstate

theorem call_change (hcoherent : ∀ id, m.Coherent id) (c : TransactionCall) :
    Change m c (m.call c) := by
  cases c with
  | seedAllocator floor => exact seedAllocator_change floor
  | begin => exact begin_change hcoherent
  | requestCommit id => exact requestCommit_change id
  | commitDurableAfterWalRecord id recordLsn durableLsn =>
    exact commitDurableAfterWalRecord_change hcoherent id recordLsn durableLsn
  | requestRollback id => exact requestRollback_change id
  | rollbackDurableAfterWalRecord id recordLsn durableLsn =>
    exact rollbackDurableAfterWalRecord_change hcoherent id recordLsn durableLsn
  | poison id => exact poison_change id
  | fail id => exact fail_change id
  | dispose id => exact dispose_change id
  | createSavepoint id name | releaseSavepoint id name
  | rollbackToSavepoint id name => exact onActiveSavepoints_change _ id _ _

/-! ## Coherence over a run -/

/-- Coherence at an id depends on the tables at that id and on the allocator's floor. -/
theorem Coherent.transfer (h : m.Coherent id)
    (hfloor : m.allocator.lastIssued ≤ m'.allocator.lastIssued) (hlive : m'.live id = m.live id)
    (hsavepoints : m'.savepoints id = m.savepoints id) (hstatus : m'.status id = m.status id) :
    m'.Coherent id where
  issued hsome := by
    rw [hstatus] at hsome
    obtain ⟨hne, hle⟩ := h.issued hsome
    exact ⟨hne, UInt64.le_trans hle hfloor⟩
  mirrored machine hmachine := by
    rw [hlive] at hmachine
    rw [hstatus]
    exact h.mirrored machine hmachine
  stacked hsome := by
    rw [hsavepoints] at hsome
    rw [hlive]
    exact h.stacked hsome

theorem Coherent.move (h : m.Coherent id) (hmachine : m.live id = some machine)
    (hfloor : m'.allocator.lastIssued = m.allocator.lastIssued) (hlive : m'.live id = some machine')
    (hmirror : mirror machine'.state ≠ none) (hstatus : m'.status id = mirror machine'.state) :
    m'.Coherent id where
  issued _ := by
    rw [hfloor]
    exact h.issued (h.mirrored machine hmachine).1
  mirrored machine'' hmachine'' := by
    rw [hlive, Option.some.injEq] at hmachine''
    subst hmachine''
    rw [hstatus]
    exact ⟨hmirror, rfl⟩
  stacked _ := by
    rw [hlive]
    exact Option.some_ne_none machine'

theorem Coherent.clearSavepoints (h : m.Coherent id) (other : TransactionId) :
    (m.clearSavepoints other).Coherent id where
  issued := h.issued
  mirrored := h.mirrored
  stacked hsome := by
    apply h.stacked
    intro hnone
    apply hsome
    by_cases hid : id = other
    · subst hid
      simp [TransactionManager.clearSavepoints, hnone]
    · simp [TransactionManager.clearSavepoints, update_of_ne hid, hnone]

theorem Coherent.moveTerminal (hcoherent : ∀ id, m.Coherent id)
    (hmachine : m.live id = some machine) {outcome : TransactionStatus}
    (hafter : mirror machine'.state = some outcome) (other : TransactionId) :
    Coherent { m.setMachine id machine' with
      status := update m.status id (some outcome) } other := by
  by_cases hid : other = id
  · subst hid
    refine (hcoherent other).move hmachine rfl (update_self _ _ _) ?_ ?_
    · rw [hafter]
      exact Option.some_ne_none _
    · rw [hafter]
      exact update_self _ _ _
  · exact (hcoherent other).transfer (UInt64.le_refl _) (update_of_ne hid _ _) rfl
      (update_of_ne hid _ _)

/-- A request, failure or poisoning: only the machine moves, between states in flight. -/
theorem Coherent.moveInFlight (hcoherent : ∀ id, m.Coherent id)
    (hmachine : m.live id = some machine) (hbefore : mirror machine.state = some .inFlight)
    (hafter : mirror machine'.state = some .inFlight) (other : TransactionId) :
    (m.setMachine id machine').Coherent other := by
  have hstatus := ((hcoherent id).mirrored machine hmachine).2
  have hmoved := moveTerminal hcoherent hmachine hafter other
  rw [← hbefore, ← hstatus, update_eq_self] at hmoved
  exact hmoved

theorem Change.coherent {c : TransactionCall} (h : Change m c m')
    (hcoherent : ∀ id, m.Coherent id) (other : TransactionId) : m'.Coherent other := by
  cases h with
  | rejected => exact hcoherent other
  | seeded floor hfloor => exact (hcoherent other).transfer hfloor rfl rfl rfl
  | began id hfresh =>
    by_cases hid : other = id
    · subst hid
      have hpos : other ≠ 0 := by
        intro hzero
        rw [hzero] at hfresh
        exact absurd hfresh (UInt64.not_lt.mpr (UInt64.zero_le))
      refine ⟨fun _ => ⟨hpos, UInt64.le_refl _⟩, ?_, ?_⟩
      · intro machine hmachine
        simp only [update_self, Option.some.injEq] at hmachine
        subst hmachine
        simp [mirror]
      · simp
    · exact (hcoherent other).transfer (UInt64.le_of_lt hfresh) (update_of_ne hid _ _)
        (update_of_ne hid _ _) (update_of_ne hid _ _)
  | commitRequested id machine hlive hstate =>
    apply Coherent.clearSavepoints
    exact moveInFlight hcoherent hlive (by rw [hstate]; rfl) rfl other
  | rollbackRequested id machine hlive hstate =>
    have hbefore : mirror machine.state = some .inFlight := by
      rcases hstate with hstate | hstate | hstate <;> rw [hstate] <;> rfl
    apply Coherent.clearSavepoints
    exact moveInFlight hcoherent hlive hbefore rfl other
  | poisoned id machine hlive hstate | failed id machine hlive hstate =>
    exact moveInFlight hcoherent hlive (by rw [hstate]; rfl) rfl other
  | committed id recordLsn durableLsn machine hlive hstate hcovers
  | rolledBack id recordLsn durableLsn machine hlive hstate hcovers =>
    exact moveTerminal hcoherent hlive rfl other
  | disposed id machine hlive hstate =>
    by_cases hid : other = id
    · subst hid
      exact ⟨(hcoherent other).issued, by simp, by simp⟩
    · exact (hcoherent other).transfer (UInt64.le_refl _) (update_of_ne hid _ _)
        (update_of_ne hid _ _) rfl
  | savepoint _ id machine stack hlive hstate =>
    by_cases hid : other = id
    · subst hid
      refine ⟨(hcoherent other).issued, (hcoherent other).mirrored, fun _ => ?_⟩
      rw [hlive]
      exact Option.some_ne_none machine
    · exact (hcoherent other).transfer (UInt64.le_refl _) rfl (update_of_ne hid _ _) rfl

theorem coherent_withRecoveredFloor (floor : UInt64) (id : TransactionId) :
    (withRecoveredFloor floor).Coherent id where
  issued h := absurd rfl h
  mirrored machine h := by cases h
  stacked h := absurd rfl h

theorem coherent_calls (hcoherent : ∀ id, m.Coherent id) (cs : List TransactionCall)
    (id : TransactionId) : (m.calls cs).Coherent id := by
  induction cs generalizing m with
  | nil => exact hcoherent id
  | cons c cs ih =>
    have hnext : ∀ other, (m.call c).Coherent other :=
      (call_change hcoherent c).coherent hcoherent
    exact ih hnext

end TransactionManager

end Andromeda
