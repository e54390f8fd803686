import Andromeda.Recovery.Coverage

/-!
# WAL segments and their reclamation

A segment is a descriptor together with the records it bundles. Reclamation asks
two predicates about a candidate segment: the retention policy, which compares it
with four LSN boundaries, and the collector's own `is_eligible`. What both must
guarantee is that recovery can still start at the required LSN once the segments
they approve are gone.
-/

namespace Andromeda

open Fallible List

structure WalSegmentDescriptor where
  formatVersion : UInt16
  segmentId : UInt64
  firstLsn : Lsn
  lastLsn : Lsn
  basePreviousLsn : Option Lsn
  recordCount : Nat

namespace WalSegmentDescriptor

section

variable (d : WalSegmentDescriptor)

def validateBase : Result Unit :=
  match d.basePreviousLsn with
  | some previous => do
    let next ← Lsn.tryNext previous
    failIf (next ≠ d.firstLsn)
      (storageError "WAL segment base previous LSN must chain to first LSN")
  | none => failIf (d.firstLsn = 0) (storageError "WAL segment first LSN must not be zero")

def validate : Result Unit := do
  failIf (d.formatVersion ≠ walFormatVersion)
    (storageError "unsupported WAL segment format version")
  failIf (d.segmentId = 0) (storageError "WAL segment id must not be zero")
  failIf (d.recordCount = 0) (storageError "WAL segment record count must not be zero")
  failIf (d.firstLsn = 0 ∨ d.lastLsn = 0) (storageError "WAL segment LSN bounds must not be zero")
  failIf (d.lastLsn < d.firstLsn) (storageError "WAL segment last LSN precedes first LSN")
  failIf (∃ previous ∈ d.basePreviousLsn, previous ≥ d.firstLsn)
    (storageError "WAL segment base previous LSN must precede first LSN")
  d.validateBase

def validateChain : Lsn → Option Lsn → List WalRecord → Result Unit
  | _, _, [] => .ok ()
  | expectedLsn, expectedPrevious, r :: rs => do
    r.validate
    failIf (r.lsn ≠ expectedLsn) (storageError "WAL segment record LSN gap or duplicate")
    failIf (r.header.previousLsn ≠ expectedPrevious)
      (storageError "WAL segment previous LSN chain mismatch")
    match rs with
    | [] => .ok ()
    | _ :: _ => do
      let next ← Lsn.tryNext r.lsn
      validateChain next (some r.lsn) rs

def validateRecords (records : List WalRecord) : Result Unit := do
  d.validate
  failIf (records.length ≠ d.recordCount) (storageError "WAL segment record count mismatch")
  match records.head?, records.getLast? with
  | some first, some last => do
    failIf (first.lsn ≠ d.firstLsn ∨ last.lsn ≠ d.lastLsn)
      (storageError "WAL segment LSN bounds mismatch records")
    validateChain d.firstLsn d.basePreviousLsn records
  | _, _ => .error (storageError "WAL segment has no records")

end

end WalSegmentDescriptor

open WalSegmentDescriptor

/-- `WalSegment`; the field is the check its constructor makes. -/
structure WalSegment where
  descriptor : WalSegmentDescriptor
  records : List WalRecord
  valid : descriptor.validateRecords records = .ok ()

theorem WalSegmentDescriptor.validateChain_gapFree {e : Lsn} {p : Option Lsn}
    {records : List WalRecord} (h : validateChain e p records = .ok ()) :
    GapFree records ∧ (∀ r ∈ records, r.Valid) ∧
      ∀ r ∈ records.head?, r.lsn = e ∧ r.header.previousLsn = p := by
  induction records generalizing e p with
  | nil => simp [GapFree]
  | cons r rs ih =>
    cases rs with
    | nil =>
      simp only [validateChain, ok_iff, WalRecord.validate_eq_ok, and_true] at h
      obtain ⟨hvalid, hlsn, hprevious⟩ := h
      refine ⟨isChain_singleton r, by simpa using hvalid, ?_⟩
      intro x hx
      obtain rfl : r = x := by simpa using hx
      exact ⟨hlsn, hprevious⟩
    | cons b bs =>
      rw [validateChain] at h
      simp only [ok_iff, WalRecord.validate_eq_ok, Lsn.tryNext_eq_ok] at h
      obtain ⟨hvalid, hlsn, hprevious, next, hnext, hrest⟩ := h
      obtain ⟨hgap, hall, hhead⟩ := ih hrest
      obtain ⟨hb, hbprevious⟩ := hhead b rfl
      refine ⟨isChain_cons_cons.mpr ⟨⟨by rw [hb, hnext], hbprevious⟩, hgap⟩, ?_, ?_⟩
      · rw [forall_mem_cons]
        exact ⟨hvalid, hall⟩
      · intro x hx
        obtain rfl : r = x := by simpa using hx
        exact ⟨hlsn, hprevious⟩

theorem WalSegment.bounds (s : WalSegment) : (∃ r ∈ s.records, r.lsn = s.descriptor.firstLsn) ∧
      ∀ r ∈ s.records, s.descriptor.firstLsn ≤ r.lsn ∧ r.lsn ≤ s.descriptor.lastLsn := by
  have h := s.valid
  simp only [validateRecords, ok_iff] at h
  obtain ⟨-, -, h⟩ := h
  split at h
  next first last hfirst hlast =>
    simp only [ok_iff, not_or] at h
    obtain ⟨⟨hlo, hhi⟩, hchain⟩ := h
    have hinc := (validateChain_gapFree hchain).1.increasing
    refine ⟨⟨first, List.mem_of_mem_head? hfirst, hlo⟩, fun r hr => ⟨?_, ?_⟩⟩
    · obtain ⟨rs, hrs⟩ : ∃ rs, s.records = first :: rs := List.head?_eq_some_iff.mp hfirst
      rw [hrs] at hinc hr
      rw [← hlo]
      rcases mem_cons.mp hr with rfl | hr
      · exact UInt64.le_refl _
      · exact UInt64.le_of_lt ((pairwise_cons.mp hinc).1 r hr)
    · obtain ⟨rs, hrs⟩ : ∃ rs, s.records = rs ++ [last] := List.getLast?_eq_some_iff.mp hlast
      rw [hrs] at hinc hr
      rw [← hhi]
      rcases mem_append.mp hr with hr | hr
      · exact UInt64.le_of_lt ((pairwise_append.mp hinc).2.2 r hr last (by simp))
      · obtain rfl : r = last := by simpa using hr
        exact UInt64.le_refl _
  next => cases h

structure WalGcCandidate where
  segmentId : UInt64
  creationLsn : Lsn
  sealingLsn : Lsn
  sizeBytes : UInt64

def WalGcCandidate.isEligible (c : WalGcCandidate) (minActiveSnapshotLsn requiredWalStartLsn : Lsn) :
    Bool :=
  c.sealingLsn < minActiveSnapshotLsn && c.creationLsn > requiredWalStartLsn

structure RetentionBoundaryPolicy where
  requiredRecoveryLsn : Lsn
  minActiveSnapshotLsn : Lsn
  minStandbyReceivedLsn : Lsn
  pitrRetentionLsn : Lsn

def RetentionBoundaryPolicy.validate (p : RetentionBoundaryPolicy) : Result Unit :=
  failIf (p.requiredRecoveryLsn > p.minActiveSnapshotLsn)
    (storageError "required_recovery_lsn must not exceed min_active_snapshot_lsn")

inductive ReclaimabilityDecision where
  | reclaimable
  | blockedByRecovery (segmentStartLsn requiredRecoveryLsn : Lsn)
  | blockedByVisibility (segmentEndLsn minActiveSnapshotLsn : Lsn)
  | blockedByReplication (segmentEndLsn minStandbyReceivedLsn : Lsn)
  | blockedByPitrRetention (segmentEndLsn pitrRetentionLsn : Lsn)
deriving DecidableEq

structure ReclaimabilityEvidence where
  segmentStartLsn : Lsn
  segmentEndLsn : Lsn
  boundaries : RetentionBoundaryPolicy

open ReclaimabilityEvidence

def ReclaimabilityEvidence.new (c : WalGcCandidate) (boundaries : RetentionBoundaryPolicy) :
    ReclaimabilityEvidence :=
  { segmentStartLsn := c.creationLsn, segmentEndLsn := c.sealingLsn, boundaries }

def ReclaimabilityEvidence.evaluate (e : ReclaimabilityEvidence) : ReclaimabilityDecision :=
  if e.segmentStartLsn ≤ e.boundaries.requiredRecoveryLsn then
    .blockedByRecovery e.segmentStartLsn e.boundaries.requiredRecoveryLsn
  else if e.segmentEndLsn ≥ e.boundaries.minActiveSnapshotLsn then
    .blockedByVisibility e.segmentEndLsn e.boundaries.minActiveSnapshotLsn
  else if e.segmentEndLsn > e.boundaries.minStandbyReceivedLsn then
    .blockedByReplication e.segmentEndLsn e.boundaries.minStandbyReceivedLsn
  else if e.segmentEndLsn ≥ e.boundaries.pitrRetentionLsn then
    .blockedByPitrRetention e.segmentEndLsn e.boundaries.pitrRetentionLsn
  else .reclaimable

def canReclaimSegment (boundaries : RetentionBoundaryPolicy) (c : WalGcCandidate) :
    ReclaimabilityDecision :=
  (new c boundaries).evaluate

theorem evaluate_eq_reclaimable {e : ReclaimabilityEvidence} : e.evaluate = .reclaimable ↔
      e.boundaries.requiredRecoveryLsn < e.segmentStartLsn ∧
      e.segmentEndLsn < e.boundaries.minActiveSnapshotLsn ∧
      e.segmentEndLsn ≤ e.boundaries.minStandbyReceivedLsn ∧
      e.segmentEndLsn < e.boundaries.pitrRetentionLsn := by
  unfold evaluate
  simp only [← UInt64.not_le]
  split_ifs <;> simp_all

variable {required : Lsn} {segments : List WalSegment}

/-! ## What removal leaves to recovery -/

def WalSegment.gcCandidate (s : WalSegment) (sizeBytes : UInt64) : WalGcCandidate :=
  { segmentId := s.descriptor.segmentId
    creationLsn := s.descriptor.firstLsn
    sealingLsn := s.descriptor.lastLsn
    sizeBytes }

def segmentRecords (segments : List WalSegment) : List WalRecord :=
  segments.flatMap WalSegment.records

/-- Whatever approved segments are removed, recovery from `required` still finds its
log, and nothing at or above `required` is gone. -/
def RecoverySafe (required : Lsn) (segments : List WalSegment) (removable : WalSegment → Prop) :
    Prop :=
  ∀ remove : WalSegment → Bool, (∀ s ∈ segments, remove s → removable s) →
    (∃ e, validateWalCoverage required (segmentRecords (segments.filter (!remove ·))) = .ok e) ∧
      ∀ s ∈ segments, remove s → ∀ r ∈ s.records, r.lsn < required

/-- Segments that end below the required LSN can go: recovery never reads them. -/
theorem redoRange_removal {remove : WalSegment → Bool}
    (h : ∀ s ∈ segments, remove s → ∀ r ∈ s.records, r.lsn < required) :
    redoRange required (segmentRecords (segments.filter (!remove ·))) =
      redoRange required (segmentRecords segments) := by
  induction segments with
  | nil => rfl
  | cons s segments ih =>
    rw [forall_mem_cons] at h
    obtain ⟨hs, hrest⟩ := h
    have hcons : ∀ l, redoRange required (segmentRecords (s :: l)) =
        redoRange required s.records ++ redoRange required (segmentRecords l) := by
      simp [redoRange, segmentRecords]
    cases hremove : remove s with
    | false =>
      rw [filter_cons_of_pos (by simp [hremove]), hcons, hcons, ih hrest]
    | true =>
      have hempty : redoRange required s.records = [] := by
        rw [redoRange, filter_eq_nil_iff]
        intro r hr
        simpa using hs hremove r hr
      rw [filter_cons_of_neg (by simp [hremove]), hcons, hempty, ih hrest, nil_append]

theorem recoverySafe_iff {removable : WalSegment → Prop} [DecidablePred removable]
    (hcovered : ∃ e, validateWalCoverage required (segmentRecords segments) = .ok e) :
    RecoverySafe required segments removable ↔
      ∀ s ∈ segments, removable s → ∀ r ∈ s.records, r.lsn < required := by
  constructor
  · intro hsafe s hs hremovable
    have hremove := hsafe (fun s => decide (removable s)) (by simp)
    exact hremove.2 s hs (by simpa using hremovable)
  · intro hbelow remove happroved
    have hgone : ∀ s ∈ segments, remove s → ∀ r ∈ s.records, r.lsn < required :=
      fun s hs hremove => hbelow s hs (happroved s hs hremove)
    refine ⟨?_, hgone⟩
    rw [covered_iff, redoRange_removal hgone]
    exact covered_iff.mp hcovered

theorem WalSegment.not_spare {s : WalSegment} (h : required < s.descriptor.firstLsn) :
    ¬ ∀ r ∈ s.records, r.lsn < required := by
  intro hall
  obtain ⟨r, hr, hfirst⟩ := s.bounds.1
  have hlt := hall r hr
  rw [hfirst] at hlt
  exact UInt64.lt_irrefl _ (UInt64.lt_trans h hlt)

/-- The recovery boundary is compared the wrong way round: both predicates spare the
segments at and below the required LSN and give up those above it. Reclamation is
therefore safe exactly when it has nothing to reclaim. -/
theorem reclamation_recoverySafe_iff (boundaries : RetentionBoundaryPolicy)
    (segments : List WalSegment) (sizeBytes : WalSegment → UInt64)
    (hcovered : ∃ e, validateWalCoverage boundaries.requiredRecoveryLsn
      (segmentRecords segments) = .ok e) : (RecoverySafe boundaries.requiredRecoveryLsn segments
        (fun s => canReclaimSegment boundaries (s.gcCandidate (sizeBytes s)) = .reclaimable) ↔
      ∀ s ∈ segments, s.descriptor.firstLsn ≤ boundaries.requiredRecoveryLsn ∨
        boundaries.minActiveSnapshotLsn ≤ s.descriptor.lastLsn ∨
        boundaries.minStandbyReceivedLsn < s.descriptor.lastLsn ∨
        boundaries.pitrRetentionLsn ≤ s.descriptor.lastLsn) ∧
    (RecoverySafe boundaries.requiredRecoveryLsn segments
        (fun s => (s.gcCandidate (sizeBytes s)).isEligible boundaries.minActiveSnapshotLsn
          boundaries.requiredRecoveryLsn = true) ↔
      ∀ s ∈ segments, s.descriptor.firstLsn ≤ boundaries.requiredRecoveryLsn ∨
        boundaries.minActiveSnapshotLsn ≤ s.descriptor.lastLsn) := by
  rw [recoverySafe_iff hcovered, recoverySafe_iff hcovered]
  constructor
  · apply forall₂_congr
    intro s _
    rw [canReclaimSegment, evaluate_eq_reclaimable]
    simp only [← UInt64.not_le, new, WalSegment.gcCandidate]
    constructor
    · intro hspare
      by_contra hblocked
      simp only [not_or, not_not] at hblocked
      have hstart := UInt64.not_le.mp hblocked.1
      exact s.not_spare hstart (fun r hr => UInt64.not_le.mp (hspare hblocked r hr))
    · rintro (hrecovery | hvisible | hreplica | hpitr) ⟨h₁, h₂, h₃, h₄⟩
      · exact absurd hrecovery h₁
      · exact absurd hvisible h₂
      · exact absurd h₃ hreplica
      · exact absurd hpitr h₄
  · apply forall₂_congr
    intro s _
    simp only [WalGcCandidate.isEligible, decide_eq_true_eq, Bool.and_eq_true, ← UInt64.not_le,
      WalSegment.gcCandidate]
    constructor
    · intro hspare
      by_contra hblocked
      simp only [not_or] at hblocked
      have hstart := UInt64.not_le.mp hblocked.1
      exact s.not_spare hstart (fun r hr => UInt64.not_le.mp (hspare ⟨hblocked.2, hblocked.1⟩ r hr))
    · rintro (hrecovery | hvisible) ⟨h₁, h₂⟩
      · exact absurd hrecovery h₂
      · exact absurd hvisible h₁

def auditSegment (segmentId : UInt64) (lsn : Lsn) (previousLsn : Option Lsn)
    (h : validateRecords
      ⟨walFormatVersion, segmentId, lsn, lsn, previousLsn, 1⟩
      [WalRecord.sealed .securityAuditAppend lsn previousLsn none []] = .ok ()) : WalSegment :=
  { descriptor := ⟨walFormatVersion, segmentId, lsn, lsn, previousLsn, 1⟩
    records := [WalRecord.sealed .securityAuditAppend lsn previousLsn none []]
    valid := h }

def auditSegments : List WalSegment :=
  [auditSegment 1 1 none (by decide +kernel), auditSegment 2 2 (some 1) (by decide +kernel),
    auditSegment 3 3 (some 2) (by decide +kernel)]

/-- Three gap-free segments at LSNs 1, 2 and 3, recovery from LSN 1, every other
boundary at 3. The middle segment is approved by both predicates, and without it
recovery refuses the log. -/
theorem reclaimable_segment_breaks_recovery :
    RetentionBoundaryPolicy.validate ⟨1, 3, 3, 3⟩ = .ok () ∧
    GapFree (segmentRecords auditSegments) ∧
    (∃ e, validateWalCoverage 1 (segmentRecords auditSegments) = .ok e) ∧
    (∃ s ∈ auditSegments, canReclaimSegment ⟨1, 3, 3, 3⟩ (s.gcCandidate 80) = .reclaimable ∧
      (s.gcCandidate 80).isEligible 3 1 = true ∧ s.descriptor.segmentId = 2) ∧
    validateWalCoverage 1 (segmentRecords (auditSegments.filter
        fun s => !(s.descriptor.segmentId == 2))) =
      .error (storageError "recovery WAL coverage contains an LSN gap") ∧
    ¬ RecoverySafe 1 auditSegments
        (fun s => canReclaimSegment ⟨1, 3, 3, 3⟩ (s.gcCandidate 80) = .reclaimable ∨
          (s.gcCandidate 80).isEligible 3 1 = true) := by
  refine ⟨by decide +kernel, by decide +kernel, ⟨⟨1, some 1, some 3, 3⟩, by decide +kernel⟩,
    by decide +kernel, by decide +kernel, ?_⟩
  intro hsafe
  have happroved : ∀ s ∈ auditSegments, (s.descriptor.segmentId == 2) = true →
      canReclaimSegment ⟨1, 3, 3, 3⟩ (s.gcCandidate 80) = .reclaimable ∨
        (s.gcCandidate 80).isEligible 3 1 = true := by
    decide +kernel
  have hleft := (hsafe (fun s => s.descriptor.segmentId == 2) happroved).1
  have hgap : validateWalCoverage 1 (segmentRecords (auditSegments.filter
        fun s => !(s.descriptor.segmentId == 2))) =
      .error (storageError "recovery WAL coverage contains an LSN gap") := by
    decide +kernel
  obtain ⟨e, he⟩ := hleft
  rw [hgap] at he
  cases he

/-- With recovery from LSN 3 no segment starts above it, and nothing is reclaimed. -/
theorem reclamation_recoverySafe_at_tail :
    (∃ e, validateWalCoverage 3 (segmentRecords auditSegments) = .ok e) ∧
    RecoverySafe 3 auditSegments
      (fun s => canReclaimSegment ⟨3, 9, 9, 9⟩ (s.gcCandidate 80) = .reclaimable) := by
  have hcovered : ∃ e, validateWalCoverage 3 (segmentRecords auditSegments) = .ok e :=
    ⟨⟨3, some 3, some 3, 1⟩, by decide +kernel⟩
  refine ⟨hcovered, ?_⟩
  exact (reclamation_recoverySafe_iff ⟨3, 9, 9, 9⟩ auditSegments (fun _ => 80) hcovered).1.mpr
    (by decide +kernel)

end Andromeda
