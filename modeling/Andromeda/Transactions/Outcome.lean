import Andromeda.Transactions.Calls

/-!
# Outcomes of transactions over whole runs

The mirrored status of a transaction is terminal exactly when a durable call of the run took
its machine to that outcome, and then for good: disposing of the machine leaves the status.
Savepoints are left behind by no request.
-/

namespace Andromeda

open TransactionStateMachine Function List

namespace TransactionManager

variable {m m' : TransactionManager} {id : TransactionId} {c : TransactionCall}
  {cs : List TransactionCall}

section

variable (m : TransactionManager) (cs : List TransactionCall)

/-- Within the run the machine of `id` went from `before` to `after` in one terminal call,
under a durable LSN that covers the record LSN of the call. -/
def Reached (id : TransactionId) (request : Lsn → Lsn → TransactionCall)
    (before after : TransactionState)
    (evidence : TransactionStateMachine → Option Lsn) : Prop :=
  ∃ n recordLsn durableLsn machine machine',
    cs[n]? = some (request recordLsn durableLsn) ∧ recordLsn ≤ durableLsn ∧
    (m.calls (cs.take n)).live id = some machine ∧ machine.state = before ∧
    (m.calls (cs.take (n + 1))).live id = some machine' ∧ machine'.state = after ∧
    evidence machine' = some durableLsn

def ReachedCommitted (id : TransactionId) : Prop :=
  m.Reached cs id (.commitDurableAfterWalRecord id) .committing .committed durableCommitLsn

def ReachedRolledBack (id : TransactionId) : Prop :=
  m.Reached cs id (.rollbackDurableAfterWalRecord id) .rollingBack .rolledBack durableRollbackLsn

end

def Publishes (m m' : TransactionManager) (c : TransactionCall) (id : TransactionId)
    (request : Lsn → Lsn → TransactionCall) (before after : TransactionState)
    (evidence : TransactionStateMachine → Option Lsn) (outcome : TransactionStatus) : Prop :=
  m.status id = some .inFlight ∧ m'.status id = some outcome ∧
    ∃ recordLsn durableLsn machine machine',
      c = request recordLsn durableLsn ∧ recordLsn ≤ durableLsn ∧
      m.live id = some machine ∧ machine.state = before ∧
      m'.live id = some machine' ∧ machine'.state = after ∧ evidence machine' = some durableLsn

theorem Change.status_cases (h : Change m c m') (hcoherent : ∀ id, m.Coherent id)
    (id : TransactionId) :
    m'.status id = m.status id ∨ (m.status id = none ∧ m'.status id = some .inFlight) ∨
      Publishes m m' c id (.commitDurableAfterWalRecord id) .committing .committed
        durableCommitLsn .committed ∨
      Publishes m m' c id (.rollbackDurableAfterWalRecord id) .rollingBack .rolledBack
        durableRollbackLsn .rolledBack := by
  cases h with
  | rejected | seeded | commitRequested | rollbackRequested | poisoned | failed | disposed
  | savepoint => exact .inl rfl
  | began started hfresh =>
    by_cases hid : id = started
    · subst hid
      exact .inr (.inl ⟨((hcoherent id).fresh hfresh).1, update_self _ _ _⟩)
    · exact .inl (update_of_ne hid _ _)
  | committed ended recordLsn durableLsn machine hlive hstate hcovers =>
    by_cases hid : id = ended
    · subst hid
      have hstatus := ((hcoherent id).mirrored machine hlive).2
      rw [hstate] at hstatus
      exact .inr (.inr (.inl ⟨hstatus, update_self _ _ _, recordLsn, durableLsn,
        machine, _, rfl, hcovers.2, hlive, hstate, update_self _ _ _, rfl, rfl⟩))
    · exact .inl (update_of_ne hid _ _)
  | rolledBack ended recordLsn durableLsn machine hlive hstate hcovers =>
    by_cases hid : id = ended
    · subst hid
      have hstatus := ((hcoherent id).mirrored machine hlive).2
      rw [hstate] at hstatus
      exact .inr (.inr (.inr ⟨hstatus, update_self _ _ _, recordLsn, durableLsn,
        machine, _, rfl, hcovers.2, hlive, hstate, update_self _ _ _, rfl, rfl⟩))
    · exact .inl (update_of_ne hid _ _)

/-! ## A terminal status is final -/

variable {outcome : TransactionStatus}

section

variable (hcoherent : ∀ id, m.Coherent id) (hterminal : outcome.isTerminal = true)
  (h : m.status id = some outcome)
include hcoherent hterminal h

theorem call_status_final (c : TransactionCall) : (m.call c).status id = some outcome := by
  rcases (call_change hcoherent c).status_cases hcoherent id with
    hsame | ⟨hnone, -⟩ | ⟨hflight, -⟩ | ⟨hflight, -⟩
  · rw [hsame, h]
  · rw [h] at hnone
    cases hnone
  all_goals
    rw [h, Option.some.injEq] at hflight
    rw [hflight] at hterminal
    cases hterminal

theorem calls_status_final (cs : List TransactionCall) : (m.calls cs).status id = some outcome := by
  induction cs generalizing m with
  | nil => exact h
  | cons c cs ih =>
    have hnext : ∀ other, (m.call c).Coherent other :=
      (call_change hcoherent c).coherent hcoherent
    exact ih hnext (call_status_final hcoherent hterminal h c)

end

theorem status_final_from_take (hcoherent : ∀ id, m.Coherent id)
    (hterminal : outcome.isTerminal = true) {n : Nat}
    (h : (m.calls (cs.take n)).status id = some outcome) :
    (m.calls cs).status id = some outcome := by
  rw [← take_append_drop n cs, calls, foldl_append]
  exact calls_status_final (coherent_calls hcoherent _) hterminal h _

/-! ## A terminal status was published -/

section Reached

variable {request : Lsn → Lsn → TransactionCall} {before after : TransactionState}
  {evidence : TransactionStateMachine → Option Lsn} {outcome : TransactionStatus}

theorem Reached.append (h : m.Reached cs id request before after evidence)
    (c : TransactionCall) : m.Reached (cs ++ [c]) id request before after evidence := by
  obtain ⟨n, recordLsn, durableLsn, machine, machine', hcall, hcovers, hlive, hstate, hlive',
    hstate', hevidence⟩ := h
  obtain ⟨hlt, -⟩ := List.getElem?_eq_some_iff.mp hcall
  refine ⟨n, recordLsn, durableLsn, machine, machine', ?_, hcovers, ?_, hstate, ?_, hstate',
    hevidence⟩
  · rw [List.getElem?_append_left hlt]
    exact hcall
  · rw [take_append_of_le_length (Nat.le_of_lt hlt)]
    exact hlive
  · rw [take_append_of_le_length hlt]
    exact hlive'

theorem Publishes.reached
    (h : Publishes (m.calls cs) (m.calls (cs ++ [c])) c id request before after evidence outcome) :
    m.Reached (cs ++ [c]) id request before after evidence := by
  obtain ⟨-, -, recordLsn, durableLsn, machine, machine', hcall, hcovers, hlive, hstate, hlive',
    hstate', hevidence⟩ := h
  refine ⟨cs.length, recordLsn, durableLsn, machine, machine', ?_, hcovers, ?_, hstate, ?_,
    hstate', hevidence⟩
  · rw [List.getElem?_concat_length, hcall]
  · rw [take_left]
    exact hlive
  · rw [take_of_length_le (by simp)]
    exact hlive'

theorem Reached.status (hcoherent : ∀ id, m.Coherent id)
    (h : m.Reached cs id request before after evidence) (hafter : mirror after = some outcome)
    (hterminal : outcome.isTerminal = true) : (m.calls cs).status id = some outcome := by
  obtain ⟨n, recordLsn, durableLsn, machine, machine', -, -, -, -, hlive', hstate', -⟩ := h
  have hmirror := ((coherent_calls hcoherent (cs.take (n + 1)) id).mirrored machine' hlive').2
  rw [hstate', hafter] at hmirror
  exact status_final_from_take hcoherent hterminal hmirror

end Reached

/-- Induction on the run: the last call keeps the status or publishes it. -/
theorem reached_of_status (floor : UInt64) (cs : List TransactionCall) (id : TransactionId) :
    (((withRecoveredFloor floor).calls cs).status id = some .committed →
      (withRecoveredFloor floor).ReachedCommitted cs id) ∧
    (((withRecoveredFloor floor).calls cs).status id = some .rolledBack →
      (withRecoveredFloor floor).ReachedRolledBack cs id) := by
  induction cs using List.reverseRecOn with
  | nil =>
    constructor <;> intro h <;> cases h
  | append_singleton cs c ih =>
    have hcoherent := coherent_calls (coherent_withRecoveredFloor floor) cs
    have hchange := call_change hcoherent c
    rw [← calls_append] at hchange
    rcases hchange.status_cases hcoherent id with
      hsame | ⟨-, hflight⟩ | hcommit | hrollback
    · rw [hsame]
      exact ⟨fun h => Reached.append (ih.1 h) c, fun h => Reached.append (ih.2 h) c⟩
    · rw [hflight]
      constructor <;> intro h <;> cases h
    · refine ⟨fun _ => hcommit.reached, fun h => ?_⟩
      rw [hcommit.2.1] at h
      cases h
    · refine ⟨fun h => ?_, fun _ => hrollback.reached⟩
      rw [hrollback.2.1] at h
      cases h

/-! ## Savepoints -/

/-- Savepoints exist only while the transaction is active. -/
def SavepointsOnlyActive (m : TransactionManager) (id : TransactionId) : Prop :=
  m.savepointDepth id ≠ 0 → ∃ machine, m.live id = some machine ∧ machine.state = .active

theorem savepointDepth_clearSavepoints (m : TransactionManager) (id : TransactionId) :
    (m.clearSavepoints id).savepointDepth id = 0 := by
  have hself : (m.clearSavepoints id).savepoints id = (m.savepoints id).map .clear :=
    update_self _ _ _
  rw [savepointDepth, hself]
  cases m.savepoints id with
  | none => rfl
  | some stack => rfl

theorem SavepointsOnlyActive.transfer (h : m.SavepointsOnlyActive id)
    (hlive : m'.live id = m.live id) (hsavepoints : m'.savepoints id = m.savepoints id) :
    m'.SavepointsOnlyActive id := by
  intro hdepth
  rw [savepointDepth, hsavepoints] at hdepth
  rw [hlive]
  exact h hdepth

theorem Change.savepointsOnlyActive (h : Change m c m') (hstops : c.stops = false)
    (hactive : ∀ id, m.SavepointsOnlyActive id) (other : TransactionId) :
    m'.SavepointsOnlyActive other := by
  cases h with
  | rejected => exact hactive other
  | seeded floor hfloor => exact (hactive other).transfer rfl rfl
  | began id hfresh =>
    by_cases hid : other = id
    · subst hid
      intro _
      exact ⟨_, update_self _ _ _, rfl⟩
    · exact (hactive other).transfer (update_of_ne hid _ _) (update_of_ne hid _ _)
  | commitRequested id machine hlive hstate | rollbackRequested id machine hlive hstate =>
    by_cases hid : other = id
    · subst hid
      exact fun hdepth => absurd (savepointDepth_clearSavepoints _ other) hdepth
    · exact (hactive other).transfer (update_of_ne hid _ _) (update_of_ne hid _ _)
  | poisoned => cases hstops
  | failed => cases hstops
  | committed id recordLsn durableLsn machine hlive hstate hcovers
  | rolledBack id recordLsn durableLsn machine hlive hstate hcovers =>
    by_cases hid : other = id
    · subst hid
      intro hdepth
      obtain ⟨active, hlive', hstate'⟩ := hactive other hdepth
      rw [hlive, Option.some.injEq] at hlive'
      rw [← hlive', hstate] at hstate'
      cases hstate'
    · exact (hactive other).transfer (update_of_ne hid _ _) rfl
  | disposed id machine hlive hstate =>
    by_cases hid : other = id
    · subst hid
      intro hdepth
      simp [savepointDepth] at hdepth
    · exact (hactive other).transfer (update_of_ne hid _ _) (update_of_ne hid _ _)
  | savepoint _ id machine stack hlive hstate =>
    by_cases hid : other = id
    · subst hid
      intro _
      exact ⟨machine, hlive, hstate⟩
    · exact (hactive other).transfer rfl (update_of_ne hid _ _)

theorem calls_savepointsOnlyActive (hcoherent : ∀ id, m.Coherent id)
    (hactive : ∀ id, m.SavepointsOnlyActive id) (hstops : ∀ c ∈ cs, c.stops = false)
    (id : TransactionId) : (m.calls cs).SavepointsOnlyActive id := by
  induction cs generalizing m with
  | nil => exact hactive id
  | cons c cs ih =>
    have hchange := call_change hcoherent c
    apply ih (hchange.coherent hcoherent)
    · exact hchange.savepointsOnlyActive (hstops c (by simp)) hactive
    · intro c' hc'
      exact hstops c' (mem_cons_of_mem c hc')

/-! ## The outcome of a transaction -/

/-- Over every run, rejected calls included, the mirrored status tells the outcome the machine
reached, and tells it for good; savepoints belong to active transactions as long as no
transaction is stopped without a request. -/
theorem calls_outcome_visible (floor : UInt64) (cs : List TransactionCall) (id : TransactionId) :
    (((withRecoveredFloor floor).calls cs).status id = some .committed ↔
      (withRecoveredFloor floor).ReachedCommitted cs id) ∧
    (((withRecoveredFloor floor).calls cs).status id = some .rolledBack ↔
      (withRecoveredFloor floor).ReachedRolledBack cs id) ∧
    ¬ ((withRecoveredFloor floor).ReachedCommitted cs id ∧
      (withRecoveredFloor floor).ReachedRolledBack cs id) ∧
    (∀ n outcome, outcome.isTerminal = true →
      ((withRecoveredFloor floor).calls (cs.take n)).status id = some outcome →
        ((withRecoveredFloor floor).calls cs).status id = some outcome) ∧
    ((∀ c ∈ cs, c.stops = false) →
      ((withRecoveredFloor floor).calls cs).SavepointsOnlyActive id) := by
  have hcoherent := coherent_withRecoveredFloor floor
  obtain ⟨hcommitted, hrolledBack⟩ := reached_of_status floor cs id
  have hcommitted' : (withRecoveredFloor floor).ReachedCommitted cs id →
      ((withRecoveredFloor floor).calls cs).status id = some .committed :=
    fun h => Reached.status hcoherent h rfl rfl
  have hrolledBack' : (withRecoveredFloor floor).ReachedRolledBack cs id →
      ((withRecoveredFloor floor).calls cs).status id = some .rolledBack :=
    fun h => Reached.status hcoherent h rfl rfl
  refine ⟨⟨hcommitted, hcommitted'⟩, ⟨hrolledBack, hrolledBack'⟩, ?_, ?_, ?_⟩
  · rintro ⟨hc, hr⟩
    have hstatus := hcommitted' hc
    rw [hrolledBack' hr] at hstatus
    cases hstatus
  · intro n outcome hterminal h
    exact status_final_from_take hcoherent hterminal h
  · intro hstops
    apply calls_savepointsOnlyActive hcoherent _ hstops
    intro other hdepth
    exact absurd rfl hdepth

-- The restriction on the last part is needed: poisoning keeps the stack.
example : ((new.calls [.begin, .createSavepoint 1 "a", .poison 1]).savepointDepth 1,
    ((new.calls [.begin, .createSavepoint 1 "a", .poison 1]).live 1).map
      state) = (1, some .poisoned) := by
  decide +kernel

end TransactionManager

end Andromeda
