import Andromeda.Basic

/-!
# The transaction status table

Visibility trusts one table: a transaction is committed or rolled back when an
entry says so, and in flight otherwise. Terminal entries need durable log
evidence and are final; `StatusChange.apply_eq_ok` says so for every way the table
can be written.
-/

namespace Andromeda

open Fallible Function

inductive TransactionStatus where
  | inFlight
  | committed
  | rolledBack
deriving DecidableEq

namespace TransactionStatus

def isTerminal : TransactionStatus → Bool
  | inFlight => false
  | committed | rolledBack => true

end TransactionStatus

open TransactionStatus

/-- `TransactionStatusTable`, the map behind its mutex. -/
abbrev TransactionStatusTable := TransactionId → Option TransactionStatus

namespace TransactionStatusTable

def new : TransactionStatusTable := fun _ => none

section

variable (t : TransactionStatusTable) (id : TransactionId)

def isTerminalAt : Bool :=
  (t id).any isTerminal

/-- `status(id).unwrap_or(InFlight)`; also `status_for_snapshot`, which ignores its two
other arguments. -/
def statusOrInFlight : TransactionStatus :=
  (t id).getD .inFlight

def terminalStatusConflict : Error := transactionError "conflicting transaction terminal status"

def terminalStatusRequiresDurableWal : Error :=
  transactionError "terminal transaction status requires durable WAL evidence"

def validateTransactionId (message : String) : Result Unit :=
  failIf (id = 0) (transactionError message)

def record (status : TransactionStatus) : Result TransactionStatusTable := do
  validateTransactionId id "transaction status id must not be zero"
  failIf status.isTerminal terminalStatusRequiresDurableWal
  failIf (t.isTerminalAt id) terminalStatusConflict
  pure (update t id (some status))

def validateTerminalStatus (status : TransactionStatus) : Result Unit :=
  failIf (!status.isTerminal) (transactionError "terminal transaction status expected")

def validateTerminalLsnEvidence (terminalRecordLsn durableLsn : Lsn) : Result Unit := do
  failIf (terminalRecordLsn = 0)
    (transactionError "terminal transaction status record LSN must not be zero")
  failIf (durableLsn < terminalRecordLsn) (storageError
    s!"terminal transaction status durable LSN must cover record LSN: durable={durableLsn}, record={terminalRecordLsn}")

section

variable (status : TransactionStatus)

/-- The entry a terminal status may be written over. -/
def insertTerminal : Result TransactionStatusTable :=
  match t id with
  | some existing =>
    if existing = status then .ok t
    else if existing = .inFlight then .ok (update t id (some status))
    else .error terminalStatusConflict
  | none => .ok (update t id (some status))

def recordValidatedTerminalStatus : Result TransactionStatusTable := do
  validateTerminalStatus status
  t.insertTerminal id status

def recordTerminalFromDurableEvidence (terminalRecordLsn durableLsn : Lsn) :
    Result TransactionStatusTable := do
  validateTerminalStatus status
  validateTerminalLsnEvidence terminalRecordLsn durableLsn
  t.recordValidatedTerminalStatus id status

def recordCommittedAfterDurableWal (commitLsn durableLsn : Lsn) : Result TransactionStatusTable :=
  t.recordTerminalFromDurableEvidence id .committed commitLsn durableLsn

def recordRolledBackAfterDurableWal (rollbackLsn durableLsn : Lsn) :
    Result TransactionStatusTable :=
  t.recordTerminalFromDurableEvidence id .rolledBack rollbackLsn durableLsn

def restoreTerminalFromValidatedReplay : Result TransactionStatusTable := do
  validateTransactionId id "transaction status id must not be zero"
  failIf (!status.isTerminal) (transactionError "validated replay status must be terminal")
  t.recordValidatedTerminalStatus id status

end

end

/-! ## What a write does -/

variable {t t' : TransactionStatusTable} {id : TransactionId} {status : TransactionStatus}
  {recordLsn : Lsn}
  {durableLsn : Lsn}

theorem validateTerminalLsnEvidence_eq_ok {u : Unit} :
    validateTerminalLsnEvidence recordLsn durableLsn = .ok u ↔
      recordLsn ≠ 0 ∧ recordLsn ≤ durableLsn := by
  simp [validateTerminalLsnEvidence]

theorem record_eq_ok : t.record id status = .ok t' ↔
    id ≠ 0 ∧ status = .inFlight ∧ t.isTerminalAt id = false ∧ t' = update t id (some status) := by
  simp only [record, validateTransactionId, ok_iff, Bool.not_eq_true]
  have hterminal : status.isTerminal = false ↔ status = .inFlight := by
    cases status <;> simp [isTerminal]
  rw [hterminal, eq_comm (b := t')]

theorem insertTerminal_eq_ok : t.insertTerminal id status = .ok t' ↔
      (t.isTerminalAt id = true → t id = some status) ∧ t' = update t id (some status) := by
  unfold insertTerminal isTerminalAt
  cases hentry : t id with
  | none => simp [eq_comm]
  | some existing =>
    by_cases hsame : existing = status
    · -- writing the entry that is there changes nothing
      subst hsame
      have hself : update t id (some existing) = t := by
        rw [← hentry]
        exact update_eq_self id t
      simp only [if_true, hself, implies_true, true_and, Except.ok.injEq]
      exact eq_comm
    · simp only [if_neg hsame]
      cases existing with
      | inFlight => simp [isTerminal, eq_comm (b := t')]
      | committed | rolledBack => simp [isTerminal, hsame]

theorem recordValidatedTerminalStatus_eq_ok : t.recordValidatedTerminalStatus id status = .ok t' ↔
      status.isTerminal = true ∧ (t.isTerminalAt id = true → t id = some status) ∧
        t' = update t id (some status) := by
  simp [recordValidatedTerminalStatus, validateTerminalStatus, insertTerminal_eq_ok]

theorem recordTerminalFromDurableEvidence_eq_ok :
    t.recordTerminalFromDurableEvidence id status recordLsn durableLsn = .ok t' ↔
      (recordLsn ≠ 0 ∧ recordLsn ≤ durableLsn) ∧ status.isTerminal = true ∧
        (t.isTerminalAt id = true → t id = some status) ∧ t' = update t id (some status) := by
  simp only [recordTerminalFromDurableEvidence, validateTerminalStatus, ok_iff,
    validateTerminalLsnEvidence_eq_ok, recordValidatedTerminalStatus_eq_ok, Bool.not_eq_true',
    Bool.not_eq_false]
  constructor
  · rintro ⟨-, hevidence, hrest⟩
    exact ⟨hevidence, hrest⟩
  · rintro ⟨hevidence, hterminal, hrest⟩
    exact ⟨hterminal, hevidence, hterminal, hrest⟩

end TransactionStatusTable

open TransactionStatusTable

/-! ## Sequences of changes -/

/-- The ways the table is written. -/
inductive StatusChange where
  | record (id : TransactionId) (status : TransactionStatus)
  | committed (id : TransactionId) (commitLsn durableLsn : Lsn)
  | rolledBack (id : TransactionId) (rollbackLsn durableLsn : Lsn)
  | restored (id : TransactionId) (status : TransactionStatus)

namespace StatusChange

def id : StatusChange → TransactionId
  | record id _ | committed id _ _ | rolledBack id _ _ | restored id _ => id

def status : StatusChange → TransactionStatus
  | record _ status | restored _ status => status
  | committed .. => .committed
  | rolledBack .. => .rolledBack

def apply (t : TransactionStatusTable) : StatusChange → Result TransactionStatusTable
  | record id status => t.record id status
  | committed id commitLsn durableLsn => t.recordCommittedAfterDurableWal id commitLsn durableLsn
  | rolledBack id rollbackLsn durableLsn =>
    t.recordRolledBackAfterDurableWal id rollbackLsn durableLsn
  | restored id status => t.restoreTerminalFromValidatedReplay id status

theorem apply_eq_ok {t t' : TransactionStatusTable} {c : StatusChange} (h : c.apply t = .ok t') :
    t' = update t c.id (some c.status) ∧ (t.isTerminalAt c.id = true → t c.id = some c.status) := by
  cases c with
  | record id status =>
    obtain ⟨-, -, hopen, htable⟩ := record_eq_ok.mp h
    refine ⟨htable, ?_⟩
    intro hterminal
    rw [StatusChange.id, hopen] at hterminal
    cases hterminal
  | committed id commitLsn durableLsn | rolledBack id rollbackLsn durableLsn =>
    obtain ⟨-, -, hkept, htable⟩ :=
      recordTerminalFromDurableEvidence_eq_ok.mp h
    exact ⟨htable, hkept⟩
  | restored id status =>
    simp only [apply, restoreTerminalFromValidatedReplay, validateTransactionId, ok_iff,
      recordValidatedTerminalStatus_eq_ok] at h
    obtain ⟨-, -, -, hkept, htable⟩ := h
    exact ⟨htable, hkept⟩

def applyAll (t : TransactionStatusTable) (changes : List StatusChange) : TransactionStatusTable :=
  changes.foldl (fun t c => match c.apply t with | .ok t' => t' | .error _ => t) t

end StatusChange

/-- `t'` keeps the final entries of `t` and the entry of `owner`. -/
structure TransactionStatusTable.LaterFor (owner : Option TransactionId)
    (t t' : TransactionStatusTable) : Prop where
  terminal : ∀ id, t.isTerminalAt id = true → t' id = t id
  owner : ∀ id, owner = some id → t' id = t id

variable {owner : Option TransactionId}

theorem TransactionStatusTable.LaterFor.trans {t t' t'' : TransactionStatusTable}
    (h : t.LaterFor owner t') (h' : t'.LaterFor owner t'') : t.LaterFor owner t'' := by
  refine ⟨?_, fun id hid => (h'.owner id hid).trans (h.owner id hid)⟩
  intro id hterminal
  have hsame := h.terminal id hterminal
  rw [← hsame]
  apply h'.terminal
  rw [isTerminalAt, hsame]
  exact hterminal

theorem StatusChange.apply_laterFor {t t' : TransactionStatusTable} {c : StatusChange}
    (hother : owner ≠ some c.id) (h : c.apply t = .ok t') : t.LaterFor owner t' := by
  obtain ⟨rfl, hkept⟩ := StatusChange.apply_eq_ok h
  constructor
  · intro id hterminal
    by_cases hid : id = c.id
    · subst hid
      rw [update_self, hkept hterminal]
    · rw [update_of_ne hid]
  · intro id hid
    apply update_of_ne
    rintro rfl
    exact hother hid

theorem StatusChange.applyAll_laterFor {changes : List StatusChange}
    (hothers : ∀ c ∈ changes, owner ≠ some c.id) (t : TransactionStatusTable) :
    t.LaterFor owner (applyAll t changes) := by
  induction changes generalizing t with
  | nil => exact ⟨fun _ _ => rfl, fun _ _ => rfl⟩
  | cons c cs ih =>
    have hrest := fun t => ih (List.forall_mem_cons.mp hothers).2 t
    rw [applyAll, List.foldl_cons]
    cases happly : c.apply t with
    | error e => exact hrest t
    | ok t₁ =>
      have hfirst := StatusChange.apply_laterFor (hothers c List.mem_cons_self) happly
      exact hfirst.trans (hrest t₁)

end Andromeda
