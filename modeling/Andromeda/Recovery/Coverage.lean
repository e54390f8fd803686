import Andromeda.Wal.AppendChain

/-!
# WAL coverage

Before redo starts, recovery checks that the durable records from the redo start
on form one gap-free chain anchored at that start. The check is a loop over the
records in the redo range with a handful of mutable variables; `covered_iff` says
what it decides.
-/

namespace Andromeda

open Fallible

structure WalCoverageEvidence where
  requiredWalStartLsn : Lsn
  firstReplayRecordLsn : Option Lsn
  lastDurableLsn : Option Lsn
  recordCountInRedoRange : Nat
deriving DecidableEq

/-- The mutable variables of the loop in `validate_wal_coverage`. -/
structure CoverageScan where
  expectedLsn : Option Lsn := none
  previousInRedoRange : Option Lsn := none
  sawRedoStart : Bool := false
  firstReplayRecordLsn : Option Lsn := none
  lastDurableLsn : Option Lsn := none
  recordCountInRedoRange : Nat := 0

open CoverageScan

def expectedPreviousLsnForRecoveryStart (redoFrom : Lsn) : Option Lsn :=
  if redoFrom ≤ 1 then none else some (redoFrom - 1)

def CoverageScan.check (redoFrom : Lsn) (s : CoverageScan) (r : WalRecord) : Result Unit :=
  match s.expectedLsn with
  | some expected => do
    failIf (r.lsn < expected)
      (storageError "recovery WAL coverage contains duplicate or reordered LSN")
    failIf (r.lsn > expected) (storageError "recovery WAL coverage contains an LSN gap")
    failIf (r.header.previousLsn ≠ s.previousInRedoRange)
      (storageError "recovery WAL coverage previous LSN chain mismatch")
  | none => do
    failIf (r.lsn ≠ redoFrom) (storageError
      "recovery WAL coverage does not start at required WAL start LSN")
    failIf (r.header.previousLsn ≠ expectedPreviousLsnForRecoveryStart redoFrom) (storageError
      "recovery WAL coverage start is not anchored to the prior durable LSN")

/-- The LSN the next record must carry. Running out of LSNs is an error only if
another record follows, which the source finds out by peeking. -/
def nextExpectedLsn (lsn : Lsn) (more : Bool) : Result (Option Lsn) :=
  if more then (Lsn.tryNext lsn).map some else .ok (Lsn.checkedNext lsn)

def CoverageScan.step (redoFrom : Lsn) (s : CoverageScan) (r : WalRecord) (more : Bool) :
    Result CoverageScan := do
  s.check redoFrom r
  let expectedLsn ← nextExpectedLsn r.lsn more
  pure
    { expectedLsn
      previousInRedoRange := some r.lsn
      sawRedoStart := s.sawRedoStart || s.expectedLsn.isNone
      firstReplayRecordLsn :=
        if s.expectedLsn.isNone then some r.lsn else s.firstReplayRecordLsn
      lastDurableLsn := some r.lsn
      recordCountInRedoRange := s.recordCountInRedoRange + 1 }

def CoverageScan.run (redoFrom : Lsn) (s : CoverageScan) : List WalRecord → Result CoverageScan
  | [] => .ok s
  | r :: rs => do
    let s' ← s.step redoFrom r (!rs.isEmpty)
    s'.run redoFrom rs

def redoRange (redoFrom : Lsn) (records : List WalRecord) : List WalRecord :=
  records.filter fun r => r.lsn ≥ redoFrom

def validateWalCoverage (redoFrom : Lsn) (durable : List WalRecord) : Result WalCoverageEvidence :=
  if redoFrom = 0 then
    .ok
      { requiredWalStartLsn := redoFrom
        firstReplayRecordLsn := durable.head?.map WalRecord.lsn
        lastDurableLsn := durable.getLast?.map WalRecord.lsn
        recordCountInRedoRange := durable.length }
  else do
    let s ← run redoFrom {} (redoRange redoFrom durable)
    failIf (!s.sawRedoStart)
      (storageError "recovery WAL coverage is missing the required WAL start LSN")
    pure
      { requiredWalStartLsn := redoFrom
        firstReplayRecordLsn := s.firstReplayRecordLsn
        lastDurableLsn := s.lastDurableLsn
        recordCountInRedoRange := s.recordCountInRedoRange }

/-! ## What the loop decides -/

structure CoverageScan.After (s : CoverageScan) (a : WalRecord) (rest : List WalRecord) :
    Prop where
  previous : s.previousInRedoRange = some a.lsn
  expected : rest ≠ [] → ∃ e, s.expectedLsn = some e ∧ e.toNat = a.lsn.toNat + 1
  saw : s.sawRedoStart = true

variable {lsn redoFrom : Lsn} {rest : List WalRecord} {s : CoverageScan} {r : WalRecord}

theorem nextExpectedLsn_of_more {e : Option Lsn} (h : nextExpectedLsn lsn (!rest.isEmpty) = .ok e)
    (hrest : rest ≠ []) : ∃ n, e = some n ∧ n.toNat = lsn.toNat + 1 := by
  have hmore : (!rest.isEmpty) = true := by simpa using hrest
  rw [nextExpectedLsn, hmore, if_pos rfl] at h
  cases hnext : Lsn.tryNext lsn with
  | error err => simp [hnext, Except.map] at h
  | ok n =>
    obtain rfl : some n = e := by simpa [hnext, Except.map] using h
    exact ⟨n, rfl, Lsn.tryNext_eq_ok.mp hnext⟩

theorem nextExpectedLsn_succeeds (hnext : rest ≠ [] → ∃ n : Lsn, n.toNat = lsn.toNat + 1) :
    ∃ e, nextExpectedLsn lsn (!rest.isEmpty) = .ok e := by
  by_cases hrest : rest = []
  · subst hrest
    exact ⟨_, rfl⟩
  · obtain ⟨n, hn⟩ := hnext hrest
    have hmore : (!rest.isEmpty) = true := by simpa using hrest
    rw [nextExpectedLsn, hmore, if_pos rfl, Lsn.tryNext_eq_ok.mpr hn]
    exact ⟨_, rfl⟩

theorem CoverageScan.step_after {s' : CoverageScan}
    (hsaw : s.sawRedoStart = true ∨ s.expectedLsn = none)
    (h : s.step redoFrom r (!rest.isEmpty) = .ok s') :
    s.check redoFrom r = .ok () ∧ s'.After r rest := by
  simp only [step, ok_iff] at h
  obtain ⟨hcheck, e, he, rfl⟩ := h
  refine ⟨hcheck, rfl, nextExpectedLsn_of_more he, ?_⟩
  rcases hsaw with hsaw | hnone
  · simp [hsaw]
  · simp [hnone]

theorem CoverageScan.step_succeeds (hcheck : s.check redoFrom r = .ok ())
    (hgap : GapFree (r :: rest)) : ∃ s', s.step redoFrom r (!rest.isEmpty) = .ok s' := by
  have hnext : rest ≠ [] → ∃ n : Lsn, n.toNat = r.lsn.toNat + 1 := by
    intro hne
    obtain ⟨b, bs, rfl⟩ := List.exists_cons_of_ne_nil hne
    exact ⟨b.lsn, (List.isChain_cons_cons.mp hgap).1.1⟩
  obtain ⟨e, he⟩ := nextExpectedLsn_succeeds hnext
  simp only [step, ok_iff]
  exact ⟨_, hcheck, e, he, rfl⟩

variable {a : WalRecord}

theorem CoverageScan.After.check_eq_ok (h : s.After a (r :: rest)) {u : Unit} :
    s.check redoFrom r = .ok u ↔ a.Follows r := by
  obtain ⟨e, he, hsucc⟩ := h.expected (by simp)
  simp only [check, he, h.previous, ok_iff, gt_iff_lt, UInt64.not_lt, WalRecord.Follows]
  rw [← and_assoc, ← hsucc]
  apply and_congr_left
  intro _
  constructor
  · rintro ⟨hle, hge⟩
    rw [UInt64.le_antisymm hge hle]
  · intro heq
    have hre : r.lsn = e := UInt64.toNat_inj.mp heq
    rw [hre]
    exact ⟨UInt64.le_refl e, UInt64.le_refl e⟩

theorem CoverageScan.run_after (h : s.After a rest) :
    (∃ s', s.run redoFrom rest = .ok s' ∧ s'.sawRedoStart = true) ↔ GapFree (a :: rest) := by
  induction rest generalizing s a with
  | nil => exact iff_of_true ⟨s, rfl, h.saw⟩ (List.isChain_singleton a)
  | cons r rest ih =>
    rw [GapFree, List.isChain_cons_cons]
    constructor
    · rintro ⟨s', hrun, hsaw⟩
      simp only [run, bind_eq_ok] at hrun
      obtain ⟨s₁, hstep, hrest⟩ := hrun
      obtain ⟨hcheck, hafter⟩ := step_after (Or.inl h.saw) hstep
      exact ⟨h.check_eq_ok.mp hcheck, (ih hafter).mp ⟨s', hrest, hsaw⟩⟩
    · rintro ⟨hfollows, hgap⟩
      obtain ⟨s₁, hstep⟩ := step_succeeds (h.check_eq_ok.mpr hfollows) hgap
      have hafter := (step_after (Or.inl h.saw) hstep).2
      obtain ⟨s', hrest, hsaw⟩ := (ih hafter).mpr hgap
      exact ⟨s', by simp only [run, bind_eq_ok]; exact ⟨s₁, hstep, hrest⟩, hsaw⟩

/-- A redo range is covered when it starts at the redo start, is anchored to the
LSN before it and has no gap. -/
def Covered (redoFrom : Lsn) : List WalRecord → Prop
  | [] => False
  | r :: rs => r.lsn = redoFrom ∧
      r.header.previousLsn = expectedPreviousLsnForRecoveryStart redoFrom ∧ GapFree (r :: rs)

theorem covered_iff {durable : List WalRecord} :
    (∃ e, validateWalCoverage redoFrom durable = .ok e) ↔
      redoFrom = 0 ∨ Covered redoFrom (redoRange redoFrom durable) := by
  unfold validateWalCoverage
  by_cases hzero : redoFrom = 0
  · simp [hzero]
  rw [if_neg hzero, or_iff_right hzero]
  simp only [ok_iff]
  cases hrange : redoRange redoFrom durable with
  | nil => simp [run, Covered]
  | cons r rs =>
    have hcheck : check redoFrom {} r = .ok () ↔ r.lsn = redoFrom ∧
        r.header.previousLsn = expectedPreviousLsnForRecoveryStart redoFrom := by
      simp [check]
    rw [Covered, ← and_assoc, ← hcheck]
    constructor
    · rintro ⟨e, s, hrun, hsaw, -⟩
      simp only [run, bind_eq_ok] at hrun
      obtain ⟨s₁, hstep, hrest⟩ := hrun
      obtain ⟨hok, hafter⟩ := step_after (Or.inr rfl) hstep
      exact ⟨hok, (run_after hafter).mp ⟨s, hrest, by simpa using hsaw⟩⟩
    · rintro ⟨hok, hgap⟩
      obtain ⟨s₁, hstep⟩ := step_succeeds hok hgap
      have hafter := (step_after (Or.inr rfl) hstep).2
      obtain ⟨s, hrest, hsaw⟩ := (run_after hafter).mpr hgap
      refine ⟨_, s, ?_, by simpa using hsaw, rfl⟩
      simp only [run, bind_eq_ok]
      exact ⟨s₁, hstep, hrest⟩

theorem CoverageScan.run_evidence {s' : CoverageScan} (h : s.After a rest)
    (hlast : s.lastDurableLsn = some a.lsn) (hrun : s.run redoFrom rest = .ok s') :
    s'.firstReplayRecordLsn = s.firstReplayRecordLsn ∧
      s'.lastDurableLsn = (a :: rest).getLast?.map WalRecord.lsn ∧
      s'.recordCountInRedoRange = s.recordCountInRedoRange + rest.length := by
  induction rest generalizing s a with
  | nil =>
    cases hrun
    exact ⟨rfl, hlast, rfl⟩
  | cons r rest ih =>
    simp only [run, bind_eq_ok] at hrun
    obtain ⟨s₁, hstep, hrest⟩ := hrun
    obtain ⟨expected, hexpected, -⟩ := h.expected (by simp)
    have hafter := (step_after (Or.inl h.saw) hstep).2
    simp only [step, ok_iff] at hstep
    obtain ⟨-, _, -, rfl⟩ := hstep
    obtain ⟨hfirst, hlast', hcount⟩ := ih hafter rfl hrest
    refine ⟨by simpa [hexpected] using hfirst, by simpa using hlast', ?_⟩
    rw [hcount, List.length_cons, Nat.add_assoc, Nat.add_comm 1]

/-- The check succeeds exactly on a covered range, and its evidence describes that range. -/
theorem validateWalCoverage_exact {durable : List WalRecord} {e : WalCoverageEvidence}
    (hstart : redoFrom ≠ 0) : validateWalCoverage redoFrom durable = .ok e ↔
      Covered redoFrom (redoRange redoFrom durable) ∧
        e = ⟨redoFrom, (redoRange redoFrom durable).head?.map WalRecord.lsn,
          (redoRange redoFrom durable).getLast?.map WalRecord.lsn,
          (redoRange redoFrom durable).length⟩ := by
  have hcovered := @covered_iff redoFrom durable
  rw [or_iff_right hstart] at hcovered
  rw [← hcovered]
  have hevidence : ∀ e, validateWalCoverage redoFrom durable = .ok e →
      e = ⟨redoFrom, (redoRange redoFrom durable).head?.map WalRecord.lsn,
        (redoRange redoFrom durable).getLast?.map WalRecord.lsn,
        (redoRange redoFrom durable).length⟩ := by
    intro e h
    simp only [validateWalCoverage, if_neg hstart, ok_iff] at h
    obtain ⟨s, hrun, hsaw, rfl⟩ := h
    cases hrange : redoRange redoFrom durable with
    | nil =>
      rw [hrange] at hrun
      cases hrun
      simp at hsaw
    | cons r rs =>
      simp only [hrange, run, bind_eq_ok] at hrun
      obtain ⟨s₁, hstep, hrest⟩ := hrun
      have hafter := (step_after (Or.inr rfl) hstep).2
      simp only [step, ok_iff] at hstep
      obtain ⟨-, _, -, rfl⟩ := hstep
      obtain ⟨hfirst, hlast, hcount⟩ := run_evidence hafter rfl hrest
      simp [hfirst, hlast, hcount, Nat.add_comm]
  constructor
  · intro h
    exact ⟨⟨e, h⟩, hevidence e h⟩
  · rintro ⟨⟨e', h⟩, rfl⟩
    rw [h, hevidence e' h]

/-- Redo from the second of four chained records. -/
def insertLog : List WalRecord :=
  [.sealed .checkpointBegin 1 none none [], .sealed .txBegin 2 (some 1) (some 7) [],
    .sealed .rowInsert 3 (some 2) (some 7) [5], .sealed .txCommit 4 (some 3) (some 7) []]

theorem validateWalCoverage_insertLog :
    (2 : Lsn) ≠ 0 ∧ validateWalCoverage 2 insertLog = .ok ⟨2, some 2, some 4, 3⟩ := by
  refine ⟨by decide, (validateWalCoverage_exact (by decide)).mpr ⟨?_, rfl⟩⟩
  exact ⟨rfl, rfl, by decide⟩

end Andromeda
