import Andromeda.Audit.Compaction

/-!
# Runs of the journal

Appends and compactions on an open journal, with the records that the calls reported and retained
kept beside the files. `Settled` says that the two agree; one call preserves it, and so does a
run. Inside a call the lock file is on disk, and no later call gets past it.
-/

namespace Andromeda.Audit

open Fallible AsciiText Traced List

inductive JournalCall where
  | append (record : DurableAuditAppendRecord)
  | compact (policy : DurableAuditRetentionPolicy)
      (archiveProofs : List DurableAuditWalSegmentArchiveProof)

open JournalCall

def JournalCall.run : JournalCall → JournalOp (Option DurableAuditSinkReport)
  | .append record => do
    let report ← appendRecord record
    pure (some report)
  | .compact policy archiveProofs => do
    let _ ← compactRecordsWithArchiveProofs policy archiveProofs
    pure none

/-- The records that clients count on behind a call with the given result: a successful append
adds the one it reported, a successful compaction keeps the retained ones. -/
def JournalCall.outcome (result : DurableAuditSinkResult (Option DurableAuditSinkReport))
    (records : List DurableAuditReplayRecord) : JournalCall → List DurableAuditReplayRecord
  | .append record =>
    match result with
    | .ok (some report) => records ++ [⟨report, record.principalBinding, record.eventKind⟩]
    | _ => records
  | .compact policy archiveProofs =>
    match result with
    | .ok _ => retainedBy policy archiveProofs records
    | .error _ => records

abbrev JournalState := JournalFiles × List DurableAuditReplayRecord

def JournalCall.step (state : JournalState) (call : JournalCall) : JournalState :=
  (call.run.final state.1, call.outcome (call.run state.1).1 state.2)

def afterCalls (state : JournalState) (calls : List JournalCall) : JournalState :=
  calls.foldl step state

/-- A journal that was opened where there was none. -/
def newJournal : JournalState := (openSink.final ⟨none, none, none, none⟩, [])

def genericRecord : DurableAuditAppendRecord where
  identity := ⟨1, 1, .genericAudit, 1⟩
  principalBinding := ⟨"a", none, none, none, none, none, none⟩
  retention := .walSegment
  replayBehavior := .forensicOnly
  eventKind := "a"

theorem genericRecord_valid : genericRecord.validate = .ok () := by decide

/-! ## What one call preserves -/

/-- The journal holds the records, all of them canonical, and no lock is left. -/
structure Settled (state : JournalState) : Prop where
  holds : ∃ parsed, Holds state.1 parsed ∧ parsed.map DurableAuditJournalRecord.record = state.2
  canonical : ∀ record ∈ state.2, Canonical record

theorem settled_newJournal : Settled newJournal :=
  ⟨⟨[], ⟨⟨[], rfl, accepts_nil⟩, rfl⟩, rfl⟩, fun _ hmem => absurd hmem not_mem_nil⟩

theorem lastLsn_append (records : List DurableAuditReplayRecord)
    (record : DurableAuditReplayRecord) : lastLsn (records ++ [record]) = record.lsn := by
  rw [lastLsn, List.getLast?_concat]
  rfl

/-- What a call does to a settled journal that has an LSN left. -/
inductive CallEffect (state : JournalState) : JournalCall → Prop
  | appended {record : DurableAuditAppendRecord}
      (hresult : ((append record).run state.1).1 =
        .ok (some (appendedRecord record (saturatingSucc (lastLsn state.2))).report))
      (hstep : (append record).step state = ((append record).run.final state.1,
          state.2 ++ [appendedRecord record (saturatingSucc (lastLsn state.2))]))
      (hsettled : Settled ((append record).step state)) :
      CallEffect state (.append record)
  | compacted {policy : DurableAuditRetentionPolicy}
      {archiveProofs : List DurableAuditWalSegmentArchiveProof}
      (hresult : ((compact policy archiveProofs).run state.1).1 = .ok none)
      (hstep : (compact policy archiveProofs).step state =
        ((compact policy archiveProofs).run.final state.1, retainedBy policy archiveProofs state.2))
      (hsettled : Settled ((compact policy archiveProofs).step state)) :
      CallEffect state (.compact policy archiveProofs)
  | refused {call : JournalCall} {failure : DurableAuditSinkFailure}
      (hresult : (call.run state.1).1 = .error failure) (hstep : call.step state = state) :
      CallEffect state call

variable {state : JournalState}

section

variable (h : Settled state)
include h

omit h in
theorem ne_max {lsn : UInt64} (h : lsn.toNat + 1 < 2 ^ 64) : lsn ≠ 0xffffffffffffffff := by
  rintro rfl
  exact absurd h (by decide)

omit h in
theorem append_rejected {record : DurableAuditAppendRecord} {e : Error} (files : JournalFiles)
    (hinvalid : record.validate = .error e) : (append record).run files =
      (.error (sinkFailure .validationRejected (some record.identity) e.message), []) := by
  apply bind_of_error
  rw [appendRecord, hinvalid]
  exact lift_error_bind _ _ _

theorem append_effect (hroom : lastLsn state.2 ≠ 0xffffffffffffffff)
    (record : DurableAuditAppendRecord) : CallEffect state (.append record) := by
  obtain ⟨files, records⟩ := state
  obtain ⟨⟨parsed, hholds, rfl⟩, hcanonical⟩ := h
  have htail := tailLsn_eq_lastLsn parsed
  rw [← htail] at hroom
  cases hvalid : record.validate with
  | error e =>
    have hrun := append_rejected files hvalid
    refine .refused (congrArg Prod.fst hrun) ?_
    rw [step, Traced.final, hrun]
    rfl
  | ok u =>
    have hreturns : (append record).run.Returns files
        (.ok (some (appendedEntry record parsed).record.report))
        ((files.withEntry record parsed).withLock none) :=
      (appendRecord_returns hholds hvalid hroom).bind (returns_pure _ _)
    obtain ⟨hrun, hfinal⟩ := hreturns
    have happended := hholds.append hvalid hroom
    have hlsn : (appendedEntry record parsed).record =
        appendedRecord record (saturatingSucc (lastLsn
          (parsed.map (·.record)))) := by
      rw [← htail]
      rfl
    have hstep : (append record).step (files, parsed.map (·.record)) =
        ((append record).run.final files, parsed.map (·.record) ++
            [(appendedEntry record parsed).record]) := by
      rw [step, hrun]
      rfl
    refine .appended (by rw [← hlsn]; exact hrun) (by rw [← hlsn]; exact hstep) ?_
    rw [hstep, hfinal]
    refine ⟨⟨_, happended, map_append⟩, ?_⟩
    exact forall_mem_append.mpr ⟨hcanonical, forall_mem_singleton.mpr
      (canonical_appendedRecord hvalid (saturatingSucc_ne_zero _))⟩

theorem step_append {record : DurableAuditAppendRecord} (hvalid : record.validate = .ok ())
    (hroom : lastLsn state.2 ≠ 0xffffffffffffffff) : ((append record).step state).2 =
      state.2 ++ [appendedRecord record (saturatingSucc (lastLsn state.2))] := by
  cases append_effect h hroom record with
  | appended _ hstep _ => rw [hstep]
  | @refused _ failure hresult _ =>
    obtain ⟨⟨parsed, hholds, hrecords⟩, -⟩ := h
    rw [← hrecords, ← tailLsn_eq_lastLsn] at hroom
    have hreturns : (append record).run.Returns state.1 (.ok (some _)) _ :=
      (appendRecord_returns hholds hvalid hroom).bind (returns_pure _ _)
    cases hreturns.1.symm.trans hresult

theorem compact_effect (policy : DurableAuditRetentionPolicy)
    (archiveProofs : List DurableAuditWalSegmentArchiveProof) :
    CallEffect state (.compact policy archiveProofs) := by
  obtain ⟨files, records⟩ := state
  obtain ⟨⟨parsed, hholds, rfl⟩, hcanonical⟩ := h
  cases hpolicy : policy.validate with
  | error e =>
    have hrun : (compact policy archiveProofs).run files =
        (.error (sinkFailure .retentionRejected none e.message), []) := by
      refine bind_of_error ?_
      rw [compactRecordsWithArchiveProofs, hpolicy]
      exact lift_error_bind _ _ _
    refine .refused (congrArg Prod.fst hrun) ?_
    rw [step, Traced.final, hrun]
    rfl
  | ok u =>
    cases hchecks : forM archiveProofs (fun proof =>
        orSinkFailure proof.validate .retentionRejected none) with
    | error failure =>
      have hrun : (compact policy archiveProofs).run files = (.error failure, []) := by
        refine bind_of_error ?_
        rw [compactRecordsWithArchiveProofs, hpolicy, hchecks]
        exact (lift_ok_bind _ _ _).trans (lift_error_bind _ _ _)
      refine .refused (congrArg Prod.fst hrun) ?_
      rw [step, Traced.final, hrun]
      rfl
    | ok v =>
      have hproofs : ∀ proof ∈ archiveProofs, proof.validate = .ok () := fun proof hmem =>
        mapError_eq_ok.mp (forM_eq_ok.mp hchecks proof hmem)
      have hretained : ∀ record ∈ retainedBy policy archiveProofs
          (parsed.map (·.record)), Canonical record :=
        fun record hmem => hcanonical record (retainedBy_sublist.subset hmem)
      obtain ⟨report, hcompact⟩ := compactRecords_returns hpolicy hproofs rfl hholds hretained
      have hreturns : (compact policy archiveProofs).run.Returns files (.ok none) _ :=
        hcompact.bind (returns_pure _ _)
      obtain ⟨hrun, hfinal⟩ := hreturns
      have hstep : (compact policy archiveProofs).step
          (files, parsed.map (·.record)) =
          ((compact policy archiveProofs).run.final files, retainedBy policy archiveProofs
              (parsed.map (·.record))) := by
        rw [step, hrun]
        rfl
      refine .compacted hrun hstep ?_
      rw [hstep, hfinal]
      exact ⟨⟨_, hholds.compacted rfl hretained, map_record_chained _ _⟩, hretained⟩

theorem call_effect (hroom : lastLsn state.2 ≠ 0xffffffffffffffff)
    (call : JournalCall) : CallEffect state call := by
  cases call with
  | append record => exact append_effect h hroom record
  | compact policy archiveProofs => exact compact_effect h policy archiveProofs

theorem Settled.step (hroom : lastLsn state.2 ≠ 0xffffffffffffffff) (call : JournalCall) :
    Settled (call.step state) ∧ lastLsn state.2 ≤ lastLsn (call.step state).2 ∧
      (lastLsn (call.step state).2).toNat ≤ (lastLsn state.2).toNat + 1 := by
  cases call_effect h hroom call with
  | appended hresult hstep hsettled =>
    refine ⟨hsettled, ?_⟩
    rw [hstep, lastLsn_append, appendedRecord_lsn, saturatingSucc_toNat hroom]
    exact ⟨UInt64.le_of_lt (lt_saturatingSucc hroom), Nat.le_refl _⟩
  | compacted hresult hstep hsettled =>
    refine ⟨hsettled, ?_⟩
    rw [hstep, lastLsn_retainedBy]
    exact ⟨UInt64.le_refl _, Nat.le_succ _⟩
  | refused hresult hstep =>
    rw [hstep]
    exact ⟨h, UInt64.le_refl _, Nat.le_succ _⟩

theorem Settled.run {calls : List JournalCall}
    (hroom : (lastLsn state.2).toNat + calls.length < 2 ^ 64) : Settled (afterCalls state calls) ∧
      (lastLsn (afterCalls state calls).2).toNat ≤ (lastLsn state.2).toNat + calls.length := by
  induction calls generalizing state with
  | nil => exact ⟨h, Nat.le_refl _⟩
  | cons call calls ih =>
    rw [length_cons] at hroom
    have hlsn : lastLsn state.2 ≠ 0xffffffffffffffff := ne_max (by omega)
    obtain ⟨hstep, -, hle⟩ := h.step hlsn call
    obtain ⟨hrun, hbound⟩ := ih hstep (by omega)
    refine ⟨hrun, ?_⟩
    rw [length_cons]
    exact Nat.le_trans hbound (by omega)

end

def twoAppends : List JournalCall := [.append genericRecord, .append genericRecord]

theorem records_twoAppends : (afterCalls newJournal twoAppends).2 =
    [appendedRecord genericRecord 1, appendedRecord genericRecord 2] := by
  have hroom : lastLsn newJournal.2 ≠ 0xffffffffffffffff := by decide
  have hfirst := step_append settled_newJournal genericRecord_valid hroom
  obtain ⟨hsettled, -, -⟩ := settled_newJournal.step hroom (.append genericRecord)
  rw [afterCalls, twoAppends, foldl_cons, foldl_cons, foldl_nil]
  rw [step_append hsettled genericRecord_valid (by rw [hfirst]; decide), hfirst]
  rfl

end Andromeda.Audit
