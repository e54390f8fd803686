import Andromeda.Mvcc.Visibility

/-!
# Reclaiming row versions

Three places decide that a version may go: the collector, the eligibility checker
and the constructor of reclamation marks. All of them ask for the creator's status
and compare the end timestamp with the oldest registered snapshot; none asks what
became of the deleter.
-/

namespace Andromeda

open Fallible

structure SnapshotHandle where
  beginTs : UInt64
  txId : TransactionId
deriving DecidableEq

def minTsInf : UInt64 := 18446744073709551615

def minBeginTs (active : List SnapshotHandle) : UInt64 :=
  (active.map SnapshotHandle.beginTs).min?.getD minTsInf

/-- `ActiveSnapshotRegistry`; the cached minimum is recomputed by every operation. -/
structure ActiveSnapshotRegistry where
  active : List SnapshotHandle
  cachedMinVisibleTs : UInt64
  cached : cachedMinVisibleTs = minBeginTs active

namespace ActiveSnapshotRegistry

def ofActive (active : List SnapshotHandle) : ActiveSnapshotRegistry :=
  ⟨active, minBeginTs active, rfl⟩

def minimumVisibleTimestamp (r : ActiveSnapshotRegistry) : UInt64 := r.cachedMinVisibleTs

theorem minimumVisibleTimestamp_le (r : ActiveSnapshotRegistry) {h : SnapshotHandle}
    (hmem : h ∈ r.active) : r.minimumVisibleTimestamp ≤ h.beginTs := by
  have hts : h.beginTs ∈ r.active.map SnapshotHandle.beginTs := List.mem_map_of_mem hmem
  rw [minimumVisibleTimestamp, r.cached, minBeginTs]
  cases hmin : (r.active.map SnapshotHandle.beginTs).min? with
  | none =>
    rw [List.min?_eq_none_iff.mp hmin] at hts
    cases hts
  | some m => exact (List.min?_eq_some_iff.mp hmin).2 _ hts

end ActiveSnapshotRegistry

/-! ## The three decisions -/

def isVersionReclaimable (registry : ActiveSnapshotRegistry) (statuses : TransactionStatusTable)
    (creatorTxId : TransactionId) (endTs : UInt64) : Bool :=
  if endTs = minTsInf then false
  else
    match statuses.statusOrInFlight creatorTxId with
    | .rolledBack => true
    | .committed => decide (endTs < registry.minimumVisibleTimestamp)
    | .inFlight => false

structure VersionRecord where
  versionId : UInt64
  creatorTxId : TransactionId
  endTs : UInt64
  markedAtGcEpoch : UInt64

structure VersionEligibility where
  isCreatorCommitted : Bool
  isEndTsInvisible : Bool
  isGracePeriodMet : Bool

def VersionEligibility.isFullyEligible (e : VersionEligibility) : Bool :=
  e.isCreatorCommitted && e.isEndTsInvisible && e.isGracePeriodMet

/-- `VersionEligibilityChecker` without its counters. -/
structure VersionEligibilityChecker where
  statusTable : TransactionStatusTable
  snapshotRegistry : ActiveSnapshotRegistry
  gracePeriodEpochs : UInt64

namespace VersionEligibilityChecker

section

variable (c : VersionEligibilityChecker) (v : VersionRecord)

/-- `check_all_criteria`; the sum of epochs wraps as in a release build. -/
def checkAllCriteria (gcEpoch : UInt64) : VersionEligibility where
  isCreatorCommitted := c.statusTable.statusOrInFlight v.creatorTxId == .committed
  isEndTsInvisible := decide (v.endTs < c.snapshotRegistry.minimumVisibleTimestamp)
  isGracePeriodMet := decide (gcEpoch ≥ v.markedAtGcEpoch + c.gracePeriodEpochs)

def isEligible (gcEpoch : UInt64) : Bool :=
  (c.checkAllCriteria v gcEpoch).isFullyEligible

def isAbortedVersionEligible : Bool :=
  c.statusTable.statusOrInFlight v.creatorTxId == .rolledBack

def isInFlightVersionSafe : Bool :=
  !(c.statusTable.statusOrInFlight v.creatorTxId == .inFlight)

def isEligibleExtended (gcEpoch : UInt64) : Bool :=
  if c.isAbortedVersionEligible v then true
  else if !c.isInFlightVersionSafe v then false
  else c.isEligible v gcEpoch

end

end VersionEligibilityChecker

open VersionEligibilityChecker

/-- `ReclamationMark`; also `ReclamationMarkCandidate`, which has the same fields. -/
structure ReclamationMark where
  versionId : UInt64
  creatorTxId : TransactionId
  endTs : UInt64
  markedAt : UInt64
  gcEpoch : UInt64
deriving DecidableEq

namespace ReclamationMark

def new (versionId : UInt64) (creatorTxId : TransactionId) (endTs markedAt gcEpoch : UInt64) :
    Result ReclamationMark := do
  failIf (versionId = 0) (transactionError "reclamation mark version_id must not be zero")
  failIf (creatorTxId = 0) (transactionError "reclamation mark creator_tx_id must not be zero")
  failIf (endTs = minTsInf) (transactionError
    "reclamation mark end_ts must be less than u64::MAX (live versions cannot be marked)")
  pure ⟨versionId, creatorTxId, endTs, markedAt, gcEpoch⟩

def fromVersionIfEligible (candidate : ReclamationMark) (statuses : TransactionStatusTable)
    (minVisibleTs gracePeriodEpochs currentGcEpoch : UInt64) : Result (Option ReclamationMark) :=
  if statuses.statusOrInFlight candidate.creatorTxId ≠ .committed then .ok none
  else if candidate.endTs ≥ minVisibleTs then .ok none
  else if ¬ currentGcEpoch ≥ candidate.gcEpoch + gracePeriodEpochs then .ok none
  else do
    let mark ← new candidate.versionId candidate.creatorTxId candidate.endTs candidate.markedAt
      candidate.gcEpoch
    pure (some mark)

end ReclamationMark

/-! ## What they share -/

/-- The end timestamp the decisions are given; `u64::MAX` stands for a live version. -/
def MvccRowHeader.gcEndTs (v : MvccRowHeader) : UInt64 := v.endTs.getD minTsInf

open MvccRowHeader

/-- What the decisions are given besides the version. -/
structure GcBookkeeping where
  versionId : UInt64
  markedAt : UInt64
  markedAtGcEpoch : UInt64
  gracePeriodEpochs : UInt64
  gcEpoch : UInt64

/-- One of the decisions lets the version go. -/
def DeclaredReclaimable (registry : ActiveSnapshotRegistry) (statuses : TransactionStatusTable)
    (v : MvccRowHeader) (b : GcBookkeeping) : Prop :=
  let checker : VersionEligibilityChecker := ⟨statuses, registry, b.gracePeriodEpochs⟩
  let record : VersionRecord := ⟨b.versionId, v.creatorTxId, v.gcEndTs, b.markedAtGcEpoch⟩
  let candidate : ReclamationMark :=
    ⟨b.versionId, v.creatorTxId, v.gcEndTs, b.markedAt, b.markedAtGcEpoch⟩
  isVersionReclaimable registry statuses v.creatorTxId v.gcEndTs = true ∨
    checker.isEligible record b.gcEpoch = true ∨
    checker.isEligibleExtended record b.gcEpoch = true ∨
    ∃ mark, candidate.fromVersionIfEligible statuses registry.minimumVisibleTimestamp
      b.gracePeriodEpochs b.gcEpoch = .ok (some mark)

section Decisions

variable {registry : ActiveSnapshotRegistry} {statuses : TransactionStatusTable}
  {v : MvccRowHeader} {b : GcBookkeeping}

/-- The creator committed and the version was closed before the oldest snapshot. -/
structure OutOfReach (registry : ActiveSnapshotRegistry) (statuses : TransactionStatusTable)
    (v : MvccRowHeader) : Prop where
  committed : statuses.statusOrInFlight v.creatorTxId = .committed
  closed : v.gcEndTs < registry.minimumVisibleTimestamp

theorem minimumVisibleTimestamp_le_inf (registry : ActiveSnapshotRegistry) :
    registry.minimumVisibleTimestamp ≤ minTsInf := by
  rw [UInt64.le_iff_toNat_le]
  have := registry.minimumVisibleTimestamp.toNat_lt
  have hinf : minTsInf.toNat = 18446744073709551615 := rfl
  omega

theorem OutOfReach.endTs (h : OutOfReach registry statuses v) : v.endTs = some v.gcEndTs := by
  have hclosed := h.closed
  unfold gcEndTs at hclosed ⊢
  cases hend : v.endTs with
  | none =>
    rw [hend] at hclosed
    exact absurd (minimumVisibleTimestamp_le_inf registry) (UInt64.not_le.mpr hclosed)
  | some endTs => rfl

theorem OutOfReach.isVersionReclaimable (h : OutOfReach registry statuses v) :
    isVersionReclaimable registry statuses v.creatorTxId v.gcEndTs = true := by
  have hlive : v.gcEndTs ≠ minTsInf := by
    intro heq
    have hclosed := h.closed
    rw [heq] at hclosed
    exact UInt64.not_le.mpr hclosed (minimumVisibleTimestamp_le_inf registry)
  simp [Andromeda.isVersionReclaimable, hlive, h.committed, h.closed]

theorem DeclaredReclaimable.cases (h : DeclaredReclaimable registry statuses v b) :
    statuses.statusOrInFlight v.creatorTxId = .rolledBack ∨ OutOfReach registry statuses v := by
  have heligible {grace : UInt64} {record : VersionRecord} {epoch : UInt64}
      (hcreator : record.creatorTxId = v.creatorTxId) (hend : record.endTs = v.gcEndTs)
      (he : isEligible ⟨statuses, registry, grace⟩ record epoch = true) :
      OutOfReach registry statuses v := by
    simp only [isEligible, VersionEligibility.isFullyEligible,
      checkAllCriteria, Bool.and_eq_true, beq_iff_eq,
      decide_eq_true_eq, hcreator, hend] at he
    exact ⟨he.1.1, he.1.2⟩
  rcases h with h | h | h | ⟨mark, h⟩
  · unfold isVersionReclaimable at h
    split at h
    · cases h
    · split at h
      next hstatus => exact .inl hstatus
      next hstatus => exact .inr ⟨hstatus, of_decide_eq_true h⟩
      next => cases h
  · exact .inr (heligible rfl rfl h)
  · unfold isEligibleExtended at h
    split at h
    next haborted => exact .inl (beq_iff_eq.mp haborted)
    next =>
      split at h
      · cases h
      · exact .inr (heligible rfl rfl h)
  · unfold ReclamationMark.fromVersionIfEligible at h
    split at h
    · simp at h
    next hcommitted =>
      split at h
      · simp at h
      next hend => exact .inr ⟨not_not.mp hcommitted, UInt64.not_le.mp hend⟩

end Decisions

/-! ## Reclaimed and still visible -/

/-- The snapshot sees the deletion of a version closed before it: its deleter committed and
is in the snapshot, or it is the snapshot's own. -/
def Snapshot.seesDeleter (s : Snapshot) (statuses : TransactionStatusTable)
    (deleter : TransactionId) : Bool :=
  match statuses.statusOrInFlight deleter with
  | .committed => s.admitsCommitted deleter
  | .inFlight => s.isCurrentTransaction deleter
  | .rolledBack => false

/-- A snapshot that has the creation of the version also has its deletion. -/
def DeletionFollows (s : Snapshot) (statuses : TransactionStatusTable) (v : MvccRowHeader) : Prop :=
  s.admitsCommitted v.creatorTxId = true →
    ∀ deleter, v.deleterTxId = some deleter → s.seesDeleter statuses deleter = true

variable {s : Snapshot} {statuses : TransactionStatusTable} {v : MvccRowHeader}

theorem deleteIsVisible_of_le {deleter : TransactionId} {endTs : UInt64} (h : endTs ≤ s.timestamp) :
    deleteIsVisible deleter endTs (statuses.statusOrInFlight deleter) s =
      s.seesDeleter statuses deleter := by
  have hnot : ¬ endTs > s.timestamp := UInt64.not_lt.mpr h
  unfold deleteIsVisible Snapshot.seesDeleter
  cases statuses.statusOrInFlight deleter <;> simp [hnot]

theorem OutOfReach.not_seenBy_iff {registry : ActiveSnapshotRegistry}
    (h : OutOfReach registry statuses v)
    (hregistered : ∃ handle ∈ registry.active, handle.beginTs = s.timestamp)
    (hs : s.validate = .ok ()) (hv : v.validate = .ok ()) :
    ¬ v.SeenBy s statuses ↔ DeletionFollows s statuses v := by
  obtain ⟨handle, hmem, hts⟩ := hregistered
  obtain ⟨hbegin, deleter, hdeleter⟩ := validate_closed hv h.endTs
  have hend : v.gcEndTs ≤ s.timestamp := by
    rw [← hts]
    exact UInt64.le_of_lt (UInt64.lt_of_lt_of_le h.closed
      (registry.minimumVisibleTimestamp_le hmem))
  have hbegin' : v.beginTs ≤ s.timestamp := UInt64.le_trans (UInt64.le_of_lt hbegin) hend
  have hcreated : v.createdIn s statuses = s.admitsCommitted v.creatorTxId := by
    simp [createdIn, creatorIsVisible, h.committed, hbegin']
  rw [SeenBy, visibleInSnapshot_eq, hs, hv, hcreated]
  cases hadmits : s.admitsCommitted v.creatorTxId <;>
    simp [notDeletedIn, h.endTs, deleteIsVisible_of_le hend, DeletionFollows, hdeleter, hadmits]

theorem MvccRowHeader.not_seenBy_of_rolledBack
    (h : statuses.statusOrInFlight v.creatorTxId = .rolledBack) : ¬ v.SeenBy s statuses := by
  have hcreated : v.createdIn s statuses = false := by
    simp [createdIn, creatorIsVisible, h]
  rw [SeenBy, visibleInSnapshot_eq, hcreated]
  simp only [ok_iff, Bool.false_eq_true, if_false]
  rintro ⟨-, -, hfalse⟩
  exact hfalse

theorem MvccRowHeader.SeenBy.valid (h : v.SeenBy s statuses) :
    s.validate = .ok () ∧ v.validate = .ok () := by
  rw [SeenBy, visibleInSnapshot_eq] at h
  simp only [ok_iff] at h
  exact ⟨h.1, h.2.1⟩

/-- A version that is declared reclaimable is seen by no registered snapshot, exactly when
every snapshot that has the creation of a version out of reach also has its deletion. -/
theorem reclaimable_unseen_iff (registry : ActiveSnapshotRegistry)
    (statuses : TransactionStatusTable) (snapshots : List Snapshot)
    (hregistered : ∀ s ∈ snapshots, ∃ handle ∈ registry.active, handle.beginTs = s.timestamp)
    (v : MvccRowHeader) (b : GcBookkeeping) :
    (DeclaredReclaimable registry statuses v b → ∀ s ∈ snapshots, ¬ v.SeenBy s statuses) ↔
      (OutOfReach registry statuses v → ∀ s ∈ snapshots, s.validate = .ok () →
        v.validate = .ok () → DeletionFollows s statuses v) := by
  constructor
  · intro hsafe hreach s hmem hs hv
    have hunseen := hsafe (.inl hreach.isVersionReclaimable) s hmem
    exact (hreach.not_seenBy_iff (hregistered s hmem) hs hv).mp hunseen
  · intro hfollows hdeclared s hmem hseen
    obtain ⟨hs, hv⟩ := hseen.valid
    rcases hdeclared.cases with hrolled | hreach
    · exact not_seenBy_of_rolledBack hrolled hseen
    · have hdeletion := hfollows hreach s hmem hs hv
      exact (hreach.not_seenBy_iff (hregistered s hmem) hs hv).mpr hdeletion hseen

def closedVersion : MvccRowHeader where
  beginTs := 10
  endTs := some 20
  creatorTxId := 1
  deleterTxId := some 2
  previousVersionPtr := none
  flags := 0

/-- The creator committed; the deleter has the given status. -/
def closedBy (deleter : TransactionStatus) : TransactionStatusTable :=
  Function.update (Function.update TransactionStatusTable.new 1 (some .committed)) 2 (some deleter)

def readerAt50 : Snapshot where
  timestamp := 50
  catalogVersion := some 1
  isolationPolicy := .readCommitted
  transactionId := some 9
  activeTxIds := []

def oneReader : ActiveSnapshotRegistry := .ofActive [⟨50, 9⟩]

def firstEpochs : GcBookkeeping := ⟨7, 60, 1, 1, 2⟩

theorem reclaimable_unseen_after_committed_delete :
    DeclaredReclaimable oneReader (closedBy .committed) closedVersion firstEpochs ∧
      ∀ s ∈ [readerAt50], ¬ closedVersion.SeenBy s (closedBy .committed) := by
  have hdeclared : DeclaredReclaimable oneReader (closedBy .committed) closedVersion firstEpochs :=
    .inl (by decide)
  refine ⟨hdeclared, (reclaimable_unseen_iff oneReader (closedBy .committed) [readerAt50] ?_
    closedVersion firstEpochs).mpr ?_ hdeclared⟩
  · intro s hs
    obtain rfl := List.mem_singleton.mp hs
    exact ⟨⟨50, 9⟩, by decide, rfl⟩
  · intro _ s hs _ _ _ deleter hdeleter
    obtain rfl := List.mem_singleton.mp hs
    obtain rfl : 2 = deleter := Option.some.inj hdeleter
    decide

/-- The deleter rolled back: all three decisions let the version go, and a registered
reader sees it. -/
theorem reclaimable_seen_after_rolled_back_delete :
    isVersionReclaimable oneReader (closedBy .rolledBack) 1 20 = true ∧
      isEligible ⟨closedBy .rolledBack, oneReader, 1⟩ ⟨7, 1, 20, 1⟩ 2 = true ∧
      isEligibleExtended ⟨closedBy .rolledBack, oneReader, 1⟩ ⟨7, 1, 20, 1⟩ 2 = true ∧
      ReclamationMark.fromVersionIfEligible ⟨7, 1, 20, 60, 1⟩ (closedBy .rolledBack)
        oneReader.minimumVisibleTimestamp 1 2 = .ok (some ⟨7, 1, 20, 60, 1⟩) ∧
      ⟨50, 9⟩ ∈ oneReader.active ∧ closedVersion.SeenBy readerAt50 (closedBy .rolledBack) := by
  refine ⟨by decide, by decide, by decide, by decide, by decide, by decide⟩

end Andromeda
