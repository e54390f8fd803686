import Andromeda.Audit.JournalRuns

/-!
# Crashes of the journal

A crash leaves the files as they are after some of the operations of a call. Between calls the
journal recovers. Inside a call the lock file is left, which nothing removes, so that every
later append is refused.
-/

namespace Andromeda.Audit

open Fallible AsciiText Traced JournalFiles List JournalCall

/-! ## The lock inside a call -/

theorem preserves_lock_writeAnchor (identity : Option DurableAuditRecordIdentity)
    (kind : DurableAuditFailureKind) (anchor : DurableAuditJournalAnchor) :
    (writeJournalChainAnchor identity kind anchor).Preserves lock := by
  have hcreate : (operate createAnchor : JournalOp Unit).Preserves lock :=
    preserves_operate fun _ => rfl
  have hwrite : ∀ text, (operate (appendToAnchor text) : JournalOp Unit).Preserves
      lock := fun _ => preserves_operate fun _ => rfl
  exact (preserves_lift _).bind fun _ => hcreate.bind fun _ => hwrite _

theorem preserves_lock_createJournal : (operate createJournal : JournalOp Unit).Preserves lock :=
  preserves_operate fun _ => rfl

theorem preserves_lock_appendLocked (record : DurableAuditAppendRecord) :
    (appendLocked record).Preserves lock := by
  have hwrite : ∀ text, (operate (appendToJournal text) : JournalOp Unit).Preserves
      lock := fun _ => preserves_operate fun _ => rfl
  have hline : ∀ text, (writeJournalLine text).Preserves lock := fun text =>
    preserves_lock_createJournal.bind fun _ => hwrite text
  exact preserves_get.bind fun _ => (preserves_lift _).bind fun _ => (preserves_lift _).bind fun _ =>
    (preserves_lift _).bind fun _ => (preserves_lift _).bind fun _ => (hline _).bind fun _ =>
      (preserves_lock_writeAnchor _ _ _).bind fun _ => preserves_pure _

theorem preserves_lock_temporary (content : JournalFiles → Option Bytes) :
    (operate fun files => files.withTemporary (content files) : JournalOp Unit).Preserves lock :=
  preserves_operate fun _ => rfl

theorem preserves_lock_writeRetained (previous : UInt64) (records : List DurableAuditReplayRecord) :
    (writeRetained previous records).Preserves lock := by
  induction records generalizing previous with
  | nil => exact preserves_pure _
  | cons record records ih =>
    exact (preserves_lift _).bind fun line => (preserves_lock_temporary fun files =>
      some (files.temporary.getD [] ++ line.text)).bind fun _ => ih _

theorem preserves_lock_rewrite (retained : List DurableAuditReplayRecord) :
    (rewriteCompactedJournal retained).Preserves lock := by
  have hremove := preserves_lock_temporary fun _ => none
  have hpublish : (operate publishCompactedJournal : JournalOp Unit).Preserves
      lock := preserves_operate fun _ => rfl
  have hremoveAnchor : (operate removeJournalChainAnchor : JournalOp Unit).Preserves
      lock := preserves_operate fun _ => rfl
  rw [rewriteCompactedJournal]
  refine hremove.bind fun _ => (preserves_lock_temporary fun _ => some []).bind fun _ =>
    (preserves_lock_writeRetained 0 _).bind fun tail => hpublish.bind fun _ => ?_
  cases retained.head? with
  | none => exact hremoveAnchor.bind fun _ => hremove
  | some first =>
    cases retained.getLast? with
    | none => exact hremoveAnchor.bind fun _ => hremove
    | some last => exact (preserves_lock_writeAnchor _ _ _).bind fun _ => hremove

theorem preserves_lock_compactLocked (policy : DurableAuditRetentionPolicy)
    (archiveProofs : List DurableAuditWalSegmentArchiveProof) :
    (compactLocked policy archiveProofs).Preserves lock :=
  preserves_get.bind fun _ => (preserves_lift _).bind fun _ => (preserves_lift _).bind fun _ =>
    (preserves_lift _).bind fun _ => (preserves_lift _).bind fun _ =>
      (preserves_lock_rewrite _).bind fun _ => preserves_get.bind fun _ =>
        (preserves_lift _).bind fun _ => preserves_pure _

variable {files : JournalFiles} {required : List DurableAuditReplayRecord}

/-- The lock file exists from the first operation of a call to the last but one. -/
theorem withMutationLock_locked {α : Type} {kind : DurableAuditFailureKind}
    {identity : Option DurableAuditRecordIdentity} {body : JournalOp α}
    (hbody : body.Preserves lock) :
    ∀ state ∈ (withMutationLock kind identity body files).2.dropLast, state.lock.isSome = true := by
  cases hlock : files.lock with
  | some text =>
    rw [withMutationLock_held (by rw [hlock]; rfl)]
    exact fun _ hmem => absurd hmem not_mem_nil
  | none =>
    rw [withMutationLock, bind_of_ok (acquireMutationLock_free hlock)]
    simp only [ensuring, last_cons, last_nil]
    rw [← append_assoc, dropLast_concat]
    refine forall_mem_append.mpr ⟨forall_mem_cons.mpr ⟨rfl, forall_mem_singleton.mpr rfl⟩, ?_⟩
    intro state hmem
    rw [hbody _ state hmem]
    rfl

theorem lift_bind_locked {α β : Type} {check : DurableAuditSinkResult α} {next : α → JournalOp β}
    (hnext : ∀ a, ∀ state ∈ (next a files).2.dropLast, state.lock.isSome = true) :
    ∀ state ∈ ((Traced.lift check >>= next) files).2.dropLast, state.lock.isSome = true := by
  cases check with
  | error e =>
    rw [lift_error_bind]
    exact fun _ hmem => absurd hmem not_mem_nil
  | ok a =>
    rw [lift_ok_bind]
    exact hnext a

theorem JournalCall.run_locked (call : JournalCall) (files : JournalFiles) :
    ∀ state ∈ (call.run files).2.dropLast, state.lock.isSome = true := by
  cases call with
  | append record =>
    rw [run, bind_pure_snd]
    exact lift_bind_locked fun _ => withMutationLock_locked (preserves_lock_appendLocked record)
  | compact policy archiveProofs =>
    rw [run, bind_pure_snd]
    exact lift_bind_locked fun _ => lift_bind_locked fun _ =>
      withMutationLock_locked (preserves_lock_compactLocked policy archiveProofs)

/-! ## Recovery -/

/-- What clients may expect of the files that a crash leaves. -/
structure Recovers (crashed : JournalFiles) (required : List DurableAuditReplayRecord) : Prop where
  opens : succeeds (openSink crashed).1 = true
  replays : ∃ records,
    replayDurableAuditJournal (openSink.final crashed) DurableAuditReplayQuery.all = .ok records ∧
      ∀ record ∈ required, record ∈ records
  appends : ∀ record : DurableAuditAppendRecord, record.validate = .ok () →
    succeeds (appendRecord record (openSink.final crashed)).1 = true

/-- The records that must be there after `k` operations of a call: all that clients count on once
the call has returned, and before that those which the call would keep. -/
def requiredAfter (state : JournalState) (call : JournalCall) (k : Nat) :
    List DurableAuditReplayRecord :=
  if k = (call.run state.1).2.length then (call.step state).2
  else state.2.filter fun record => record ∈ (call.step state).2

theorem Settled.recovers {state : JournalState} (h : Settled state)
    (hroom : lastLsn state.2 ≠ 0xffffffffffffffff)
    (hrequired : ∀ record ∈ required, record ∈ state.2) : Recovers state.1 required := by
  obtain ⟨files, records⟩ := state
  obtain ⟨⟨parsed, hholds, rfl⟩, hcanonical⟩ := h
  obtain ⟨content, hjournal, haccepts⟩ := hholds.accepted
  have hcontent : files.journal.getD [] = content := by rw [hjournal]; rfl
  obtain ⟨hopen, hfinal⟩ := openSink_returns hcontent haccepts
  rw [createJournal, hjournal, Option.getD_some, ← hjournal] at hfinal
  refine ⟨by rw [hopen]; rfl, ⟨_, by rw [hfinal]; exact hholds.replay, hrequired⟩, ?_⟩
  intro record hvalid
  rw [← tailLsn_eq_lastLsn] at hroom
  rw [hfinal, (appendRecord_returns hholds hvalid hroom).1]
  rfl

/-- Nothing recovers from a lock file that is left. -/
theorem not_recovers_of_locked {crashed : JournalFiles} (hlock : crashed.lock.isSome = true) :
    ¬ Recovers crashed required := by
  intro hrecovers
  have hpreserves : openSink.Preserves lock :=
    preserves_lock_createJournal.bind fun _ => preserves_get.bind fun _ =>
      (preserves_lift _).bind fun _ => preserves_pure _
  have hlock' : (openSink.final crashed).lock.isSome = true := by
    rw [hpreserves.final]
    exact hlock
  have happend := hrecovers.appends genericRecord genericRecord_valid
  rw [appendRecord, genericRecord_valid] at happend
  change succeeds ((Traced.lift (.ok ()) >>= _) (openSink.final crashed)).1 = true at happend
  rw [lift_ok_bind, withMutationLock_held hlock'] at happend
  exact Bool.false_ne_true happend

/-- A crash inside a call is never recovered from; between calls it always is, as long as LSNs
last. -/
theorem recovers_iff_between_calls (calls : List JournalCall) (call : JournalCall) (k : Nat)
    (hlsns : calls.length + 2 < 2 ^ 64)
    (hk : k ≤ (call.run (afterCalls newJournal calls).1).2.length) :
    Recovers (call.run.after k (afterCalls newJournal calls).1)
        (requiredAfter (afterCalls newJournal calls) call k) ↔
      k = 0 ∨ k = (call.run (afterCalls newJournal calls).1).2.length := by
  have hstart : (lastLsn newJournal.2).toNat = 0 := rfl
  obtain ⟨hsettled, hbound⟩ := @Settled.run _ settled_newJournal calls (by rw [hstart]; omega)
  rw [hstart] at hbound
  have hroom : lastLsn (afterCalls newJournal calls).2 ≠ 0xffffffffffffffff := ne_max (by omega)
  obtain ⟨hstep, -, hle⟩ := hsettled.step hroom call
  constructor
  · intro hrecovers
    by_contra hinside
    rw [not_or] at hinside
    have hpos : 0 < k := by omega
    have hlt : k < (call.run (afterCalls newJournal calls).1).2.length := by omega
    exact not_recovers_of_locked (call.run_locked _ _ (after_mem_dropLast hpos hlt)) hrecovers
  · intro hbetween
    by_cases hlength : k = (call.run (afterCalls newJournal calls).1).2.length
    · have hroom' : lastLsn (call.step (afterCalls newJournal calls)).2 ≠ 0xffffffffffffffff :=
        ne_max (by omega)
      rw [requiredAfter, if_pos hlength, hlength, after_length]
      exact hstep.recovers hroom' fun _ hmem => hmem
    · rw [requiredAfter, if_neg hlength, hbetween.resolve_right hlength, after_zero]
      exact hsettled.recovers hroom fun _ hmem => (mem_filter.mp hmem).1

/-- The second of two appends has done all its operations: both records are required. -/
theorem recovers_iff_between_calls_second :
    let before := afterCalls newJournal [.append genericRecord]
    let k := ((append genericRecord).run before.1).2.length
    requiredAfter before (.append genericRecord) k =
        [appendedRecord genericRecord 1, appendedRecord genericRecord 2] ∧
      Recovers ((append genericRecord).run.after k before.1)
        (requiredAfter before (.append genericRecord) k) := by
  refine ⟨(if_pos rfl).trans records_twoAppends, ?_⟩
  exact (recovers_iff_between_calls [.append genericRecord] (.append genericRecord) _ (by decide)
    le_rfl).mpr (.inr rfl)

/-- A first append that crashes when it has created the lock file: nothing is appended ever
after. -/
theorem interrupted_append_not_recovered : 1 < ((append genericRecord).run newJournal.1).2.length ∧
      ¬ Recovers ((append genericRecord).run.after 1 newJournal.1)
        (requiredAfter newJournal (.append genericRecord) 1) := by
  have hlength : 1 < ((append genericRecord).run newJournal.1).2.length := by
    rw [run, bind_pure_snd, appendRecord, genericRecord_valid]
    change 1 < ((Traced.lift (.ok ()) >>= _) newJournal.1).2.length
    rw [lift_ok_bind, withMutationLock, bind_of_ok (acquireMutationLock_free rfl)]
    simp only [length_append, length_cons, length_nil]
    omega
  refine ⟨hlength, not_recovers_of_locked ?_⟩
  exact run_locked _ _ _ (after_mem_dropLast Nat.zero_lt_one hlength)

end Andromeda.Audit
