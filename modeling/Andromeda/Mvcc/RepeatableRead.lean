import Andromeda.Mvcc.Visibility

/-!
# Repeatable read

What a repeatable-read snapshot sees of a version depends on the status table only
through transactions whose outcome was open when the snapshot was taken. If the
snapshot lists those as active, or their stamps lie after it, no later outcome of
another transaction changes what it sees.
-/

namespace Andromeda

open StatusChange MvccRowHeader TransactionStatusTable

/-- The outcome of `id`, which stamped something with `ts`, is settled for the snapshot:
it is the snapshot's own transaction, listed as active, already terminal, or too late. -/
def Snapshot.Settles (s : Snapshot) (statuses : TransactionStatusTable) (id : TransactionId)
    (ts : UInt64) : Prop :=
  s.isCurrentTransaction id = true ∨ s.isTransactionActive id = true ∨
    statuses.isTerminalAt id = true ∨ s.timestamp < ts
deriving Decidable

section Later

variable {s : Snapshot} {t t' : TransactionStatusTable} {id : TransactionId} {ts : UInt64}

/-- A settled outcome is either not going to change or not looked at. -/
theorem Snapshot.Settles.cases (h : s.Settles t id ts) (hlater : t.LaterFor s.transactionId t') :
    t'.statusOrInFlight id = t.statusOrInFlight id ∨ (s.isCurrentTransaction id = false ∧
        (s.isTransactionActive id = true ∨ s.timestamp < ts)) := by
  have hkept (hsame : t' id = t id) : t'.statusOrInFlight id = t.statusOrInFlight id := by
    rw [statusOrInFlight, hsame, statusOrInFlight]
  cases hown : s.isCurrentTransaction id with
  | true => exact .inl (hkept (hlater.owner id (beq_iff_eq.mp hown)))
  | false =>
    rcases h with h | h | h | h
    · rw [hown] at h
      cases h
    · exact .inr ⟨rfl, .inl h⟩
    · exact .inl (hkept (hlater.terminal id h))
    · exact .inr ⟨rfl, .inr h⟩

section

variable (hpolicy : s.isolationPolicy = .repeatableRead)
  (hother : s.isCurrentTransaction id = false)
  (hactive : s.isTransactionActive id = true)
  (status : TransactionStatus)
include hpolicy hother hactive

theorem creatorIsVisible_of_active : creatorIsVisible id status s = false := by
  cases status <;> simp [creatorIsVisible, Snapshot.admitsCommitted, hpolicy, hother, hactive]

theorem deleteIsVisible_of_active : deleteIsVisible id ts status s = false := by
  cases status <;> simp [deleteIsVisible, Snapshot.admitsCommitted, hpolicy, hother, hactive]

end

theorem deleteIsVisible_of_late (hother : s.isCurrentTransaction id = false)
    (hlate : s.timestamp < ts) (status : TransactionStatus) :
    deleteIsVisible id ts status s = false := by
  cases status <;> simp [deleteIsVisible, hother, hlate]

variable {v : MvccRowHeader}

theorem MvccRowHeader.createdIn_later (hpolicy : s.isolationPolicy = .repeatableRead)
    (hcreator : s.Settles t v.creatorTxId v.beginTs) (hlater : t.LaterFor s.transactionId t') :
    v.createdIn s t' = v.createdIn s t := by
  rcases hcreator.cases hlater with hsame | ⟨hother, hactive | hlate⟩
  · rw [createdIn, hsame, createdIn]
  · rw [createdIn, creatorIsVisible_of_active hpolicy hother hactive, createdIn,
      creatorIsVisible_of_active hpolicy hother hactive]
  · simp [createdIn, hother, UInt64.not_le.mpr hlate]

theorem MvccRowHeader.notDeletedIn_later (hpolicy : s.isolationPolicy = .repeatableRead)
    (hdeleter : ∀ endTs deleter, v.endTs = some endTs → v.deleterTxId = some deleter →
      s.Settles t deleter endTs) (hlater : t.LaterFor s.transactionId t') :
    v.notDeletedIn s t' = v.notDeletedIn s t := by
  unfold notDeletedIn
  cases hend : v.endTs with
  | none => rfl
  | some endTs =>
    cases hid : v.deleterTxId with
    | none => rfl
    | some deleter =>
      have hsame : deleteIsVisible deleter endTs (t'.statusOrInFlight deleter) s =
          deleteIsVisible deleter endTs (t.statusOrInFlight deleter) s := by
        rcases (hdeleter endTs deleter hend hid).cases hlater with
          hsame | ⟨hother, hactive | hlate⟩
        · rw [hsame]
        · rw [deleteIsVisible_of_active hpolicy hother hactive,
            deleteIsVisible_of_active hpolicy hother hactive]
        · rw [deleteIsVisible_of_late hother hlate, deleteIsVisible_of_late hother hlate]
      simp [hsame]

end Later

/-- A repeatable-read snapshot for which the authors of a version are settled sees the same
of it after every sequence of changes for other transactions. -/
theorem repeatable_read_visibility_stable {s : Snapshot} {v : MvccRowHeader}
    {t : TransactionStatusTable} (hpolicy : s.isolationPolicy = .repeatableRead)
    (hcreator : s.Settles t v.creatorTxId v.beginTs)
    (hdeleter : ∀ endTs deleter, v.endTs = some endTs → v.deleterTxId = some deleter →
      s.Settles t deleter endTs)
    {changes : List StatusChange} (hothers : ∀ c ∈ changes, s.transactionId ≠ some c.id) :
    v.visibleInSnapshot s (applyAll t changes) = v.visibleInSnapshot s t := by
  have hlater := applyAll_laterFor hothers t
  rw [visibleInSnapshot_eq, visibleInSnapshot_eq,
    createdIn_later hpolicy hcreator hlater,
    notDeletedIn_later hpolicy hdeleter hlater]

def twoInFlight : TransactionStatusTable :=
  Function.update (Function.update new 9 (some .inFlight)) 5 (some .inFlight)

def snapshotAt50 (active : List TransactionId) : Snapshot where
  timestamp := 50
  catalogVersion := some 1
  isolationPolicy := .repeatableRead
  transactionId := some 9
  activeTxIds := active

def versionOf5 : MvccRowHeader where
  beginTs := 10
  endTs := none
  creatorTxId := 5
  deleterTxId := none
  previousVersionPtr := none
  flags := 0

theorem listed_writer_stays_hidden : (snapshotAt50 [5]).validate = .ok () ∧
      versionOf5.visibleInSnapshot (snapshotAt50 [5]) (applyAll twoInFlight [.committed 5 1 1]) =
        versionOf5.visibleInSnapshot (snapshotAt50 [5]) twoInFlight :=
  ⟨by decide, repeatable_read_visibility_stable rfl (by decide) (by simp [versionOf5]) (by decide)⟩

/-- A snapshot that passes both validations but does not list a writer in flight starts to
see its version when the writer commits. -/
theorem unlisted_writer_appears : (snapshotAt50 []).validate = .ok () ∧
      (snapshotAt50 []).validateAgainstStatuses twoInFlight = .ok () ∧
      versionOf5.visibleInSnapshot (snapshotAt50 []) twoInFlight = .ok false ∧
      (∃ t', (committed 5 1 1).apply twoInFlight = .ok t') ∧
      versionOf5.visibleInSnapshot (snapshotAt50 [])
        (applyAll twoInFlight [.committed 5 1 1]) = .ok true := by
  refine ⟨by decide, by decide, by decide, ⟨_, rfl⟩, by decide⟩

end Andromeda
