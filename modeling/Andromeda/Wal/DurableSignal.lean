import Andromeda.Wal.FileWalRun

/-!
# The published durable LSN

A flush stores the new durable LSN in the shared signal after the records are
synced and before the header that names them is, while opening trusts the header
alone. Between the two the signal is ahead of what a crash recovers, and it stays
ahead if the header does not get onto the device. So the signal is honest at every
moment exactly as long as no flush gets past the sync of its records.
-/

namespace Andromeda

open FileWal List

/-- Whatever a crash leaves now, opening it succeeds and recovers up to `lsn`. -/
def RecoversAtLeast (file : TornFile) (lsn : Lsn) : Prop :=
  ∀ head body, file.CrashImage head body →
    ∃ wal disk, reopen (head ++ body) = (.ok wal, disk) ∧ lsn ≤ wal.durableLsn

theorem FileWalInv.recoversAtLeast_iff {p : FileWalProcess} {older : List (List WalRecord)}
    {current : List WalRecord} (h : FileWalInv p older current) {lsn : Lsn} :
    RecoversAtLeast p.disk.file lsn ↔ ∀ d ∈ older ++ [current], lsn ≤ lastLsnOf d := by
  constructor
  · intro hrecovers d hd
    obtain ⟨head, body, himage, wal, disk, hreopen, hrecords⟩ := h.exists_crash hd
    obtain ⟨wal', disk', hreopen', hle⟩ := hrecovers head body himage
    have hsame : wal' = wal := by
      rw [hreopen] at hreopen'
      cases hreopen'
      rfl
    rw [← hrecords, (openFile_inv hreopen).2, ← hsame]
    exact hle
  · intro hall head body himage
    obtain ⟨d, hd, -, wal, disk, hreopen, hrecords⟩ := h.reopen himage
    refine ⟨wal, disk, hreopen, ?_⟩
    rw [← (openFile_inv hreopen).2, hrecords]
    exact hall d hd

namespace FileWalRun

section

variable (s : FileWalRun)

/-- Neither the signal nor a returned LSN is ahead of what a crash would recover. -/
def Honest : Prop :=
  RecoversAtLeast s.process.disk.file s.process.wal.sharedDurableLsn ∧
    ∀ l ∈ s.returned, RecoversAtLeast s.process.disk.file l

/-- If the step's flush publishes, the three file operations for the header succeed as
the sync before them did. -/
def HeaderFollows (x : FileWalStep) : Prop :=
  s.crashed = false → (x.1.publishes s.process.wal).isSome → (s.enter x.2).disk.Done 1 →
    (s.enter x.2).disk.Done 4

/-- The moment of a step at which `n` of its file operations are done and the next one is
`written` bytes on its way. -/
def interrupted (x : FileWalStep) (n written : Nat) : FileWalRun :=
  s.step (x.1, x.2.take n ++ List.replicate (n - x.2.length) .done ++ [.crash written])

/-- The step is a flush that has something to publish and syncs its records. -/
def PassesSync (x : FileWalStep) : Prop :=
  s.crashed = false ∧ (x.1.publishes s.process.wal).isSome ∧ (s.enter x.2).disk.Done 1

/-- The run is honest between its calls and at every moment of each of them. -/
def HonestThroughout (steps : List FileWalStep) : Prop :=
  (s.run steps).Honest ∧ ∀ before x after, steps = before ++ x :: after →
    (s.run before).Honest ∧ ∀ n written, ((s.run before).interrupted x n written).Honest

end

/-- What holds in every run: no header and no returned LSN is ahead of the durable LSN. -/
structure Tracked (s : FileWalRun) (older : List (List WalRecord)) (current : List WalRecord) :
    Prop where
  inv : FileWalInv s.process older current
  returned : ∀ l ∈ s.returned, l ≤ s.process.wal.durableLsn
  headers : ∀ d ∈ older ++ [current], lastLsnOf d ≤ s.process.wal.durableLsn

variable {s : FileWalRun} {older : List (List WalRecord)} {current : List WalRecord}

theorem Tracked.honest_iff (h : Tracked s older current) :
    s.Honest ↔ ∀ d ∈ older ++ [current], s.process.wal.durableLsn ≤ lastLsnOf d := by
  rw [Honest, h.inv.recoversAtLeast_iff, h.inv.signal]
  constructor
  · intro hhonest
    exact hhonest.1
  · intro hall
    refine ⟨hall, ?_⟩
    intro l hl
    rw [h.inv.recoversAtLeast_iff]
    intro d hd
    exact UInt64.le_trans (h.returned l hl) (hall d hd)

/-! ## One step -/

section Step

variable {s : FileWalRun} {x : FileWalStep} {older : List (List WalRecord)}
  {current durable : List WalRecord} {result : Except (Interrupt Error) Lsn}
  {p' : FileWalProcess} {target : Lsn}

theorem tracked_after_same (h : Tracked s older current) (hinv : FileWalInv p' older current)
    (hdurable : p'.wal.durableLsn = s.process.wal.durableLsn)
    (hreturned : x.1.isFlush = true → ∀ l, result = .ok l → l = s.process.wal.durableLsn) :
    Tracked (s.after x.1 (result, p')) older current := by
  refine ⟨by rw [after_process]; exact hinv, ?_, ?_⟩
  · intro l hl
    rw [after_process, hdurable]
    rcases mem_returned_after hl with hl | ⟨hflush, hl⟩
    · exact h.returned l hl
    · rw [hreturned hflush l hl]
      exact UInt64.le_refl _
  · rw [after_process, hdurable]
    exact h.headers

theorem honest_after_same (h : Tracked s older current)
    (h' : Tracked (s.after x.1 (result, p')) older current)
    (hdurable : p'.wal.durableLsn = s.process.wal.durableLsn) (hhonest : s.Honest) :
    (s.after x.1 (result, p')).Honest := by
  rw [h'.honest_iff, after_process, hdurable]
  exact h.honest_iff.mp hhonest

variable {older' : List (List WalRecord)} {current' : List WalRecord}

theorem tracked_after_published (h : Tracked s older current) (hinv : FileWalInv p' older' current')
    (hpublished : p'.wal.durableLsn = target) (hlt : s.process.wal.durableLsn < target)
    (hreturned : ∀ l, result = .ok l → l = target)
    (hheaders : ∀ d ∈ older' ++ [current'], d = current ∨ lastLsnOf d = target) :
    Tracked (s.after x.1 (result, p')) older' current' := by
  have hle : s.process.wal.durableLsn ≤ target := UInt64.le_of_lt hlt
  refine ⟨by rw [after_process]; exact hinv, ?_, ?_⟩
  · intro l hl
    rw [after_process, hpublished]
    rcases mem_returned_after hl with hl | ⟨-, hl⟩
    · exact UInt64.le_trans (h.returned l hl) hle
    · rw [hreturned l hl]
      exact UInt64.le_refl _
  · intro d hd
    rw [after_process, hpublished]
    rcases hheaders d hd with rfl | hd
    · exact UInt64.le_trans (h.headers d (by simp)) hle
    · rw [hd]
      exact UInt64.le_refl _

theorem not_honest_after_published (h : Tracked s older current)
    (h' : Tracked (s.after x.1 (result, p')) older' current')
    (hpublished : p'.wal.durableLsn = target) (hlt : s.process.wal.durableLsn < target)
    (hold : current ∈ older' ++ [current']) : ¬ (s.after x.1 (result, p')).Honest := by
  rw [h'.honest_iff, after_process, hpublished]
  intro hall
  have hcurrent : lastLsnOf current ≤ s.process.wal.durableLsn := h.headers current (by simp)
  exact UInt64.not_le.mpr hlt (UInt64.le_trans (hall current hold) hcurrent)

theorem step_flush (h : Tracked s older current) (hrunning : s.crashed = false)
    (hpublishes : (x.1.publishes s.process.wal).isSome) (htarget : lastLsnOf durable = target)
    (hlt : s.process.wal.durableLsn < target)
    (heffect : FlushEffect (s.enter x.2) older current target durable result p') :
    (∃ older' current', Tracked (s.after x.1 (result, p')) older' current') ∧
      p'.wal.records = s.process.wal.records ∧
      (s.Honest → ((s.after x.1 (result, p')).Honest ↔ HeaderFollows s x)) := by
  cases heffect with
  | @unsynced e _ outcomes wal inv =>
    have hdurable : p'.wal.durableLsn = s.process.wal.durableLsn := by
      rw [wal]
      rfl
    have h' : Tracked (s.after x.1 (.error e, p')) older current :=
      tracked_after_same h inv hdurable (by simp)
    refine ⟨⟨_, _, h'⟩, by rw [wal]; rfl,
      fun hhonest => iff_of_true (honest_after_same h h' hdurable hhonest) ?_⟩
    intro _ _ hone
    exact absurd hone outcomes
  | @unrecorded e _ synced outcomes why records published inv =>
    have h' : Tracked (s.after x.1 (.error e, p')) [] current :=
      tracked_after_published h inv published hlt (by simp) (by simp)
    refine ⟨⟨_, _, h'⟩, records, fun _ => iff_of_false
      (not_honest_after_published h h' published hlt (by simp)) ?_⟩
    intro hfollows
    exact outcomes (hfollows hrunning hpublishes synced)
  | @unsettled e _ synced outcomes why records published inv =>
    have h' : Tracked (s.after x.1 (.error e, p')) [current] durable :=
      tracked_after_published h inv published hlt (by simp) (by simp [htarget])
    refine ⟨⟨_, _, h'⟩, records, fun _ => iff_of_false
      (not_honest_after_published h h' published hlt (by simp)) ?_⟩
    intro hfollows
    exact outcomes (hfollows hrunning hpublishes synced)
  | settled outcomes records published inv =>
    have h' : Tracked (s.after x.1 (.ok target, p')) [] durable :=
      tracked_after_published h inv published hlt (fun l hl => (Except.ok.inj hl).symm)
        (by simp [htarget])
    refine ⟨⟨_, _, h'⟩, records, fun _ => iff_of_true ?_ fun _ _ _ => outcomes⟩
    rw [h'.honest_iff, after_process, published]
    intro d hd
    obtain rfl : d = durable := by simpa using hd
    rw [htarget]
    exact UInt64.le_refl _

/-- Every step keeps track and loses no record, and from an honest state it leads to an honest
one exactly when its header follows. -/
theorem step_tracked (x : FileWalStep) (h : Tracked s older current) :
    (∃ older' current', Tracked (s.step x) older' current') ∧
      s.process.wal.records <+: (s.step x).process.wal.records ∧
      (s.Honest → ((s.step x).Honest ↔ HeaderFollows s x)) := by
  cases hcrashed : s.crashed with
  | true =>
    rw [step_crashed hcrashed]
    refine ⟨⟨older, current, h⟩, prefix_rfl, fun hhonest => iff_of_true hhonest ?_⟩
    intro hrunning
    rw [hcrashed] at hrunning
    cases hrunning
  | false =>
    rw [step_running hcrashed, after_process]
    have henter := enter_inv h.inv x.2
    rcases hexec : x.1.exec (s.enter x.2) with ⟨result, p'⟩
    cases hpublishes : x.1.publishes s.process.wal with
    | none =>
      obtain ⟨hinv, heffect⟩ := FileWalCall.exec_idle henter hpublishes hexec
      have h' := tracked_after_same h hinv heffect.durableLsn heffect.returned
      refine ⟨⟨_, _, h'⟩, heffect.records, fun hhonest =>
        iff_of_true (honest_after_same h h' heffect.durableLsn hhonest) ?_⟩
      intro _ hsome
      rw [hpublishes] at hsome
      cases hsome
    | some target =>
      obtain ⟨-, durable, -, htarget, hlt, heffect⟩ :=
        FileWalCall.exec_effect henter hpublishes hexec
      obtain ⟨htracked, hrecords, hhonest⟩ :=
        step_flush h hcrashed (by rw [hpublishes]; rfl) htarget hlt heffect
      exact ⟨htracked, hrecords ▸ prefix_rfl, hhonest⟩

end Step

/-! ## Whole runs -/

theorem start_tracked {d disk : Disk} {wal : FileWal} (hopen : openFile d = (.ok wal, disk))
    (separation : WalQueueSeparationEvidence) :
    Tracked (start ⟨wal.withFlushSeparation separation, disk⟩) [] wal.records := by
  obtain ⟨hinv, hlast⟩ := openFile_inv hopen
  refine ⟨⟨hinv.log, hinv.appendBytes, hinv.boundaries, hinv.signal, hinv.onDisk⟩, ?_, ?_⟩
  · intro l hl
    cases hl
  · intro d hd
    obtain rfl : d = wal.records := by simpa using hd
    rw [hlast]
    exact UInt64.le_refl _

theorem start_honest {d disk : Disk} {wal : FileWal} (hopen : openFile d = (.ok wal, disk))
    (separation : WalQueueSeparationEvidence) :
    (start ⟨wal.withFlushSeparation separation, disk⟩).Honest := by
  rw [(start_tracked hopen separation).honest_iff]
  intro d hd
  obtain rfl : d = wal.records := by simpa using hd
  rw [(openFile_inv hopen).2]
  exact UInt64.le_refl _

theorem run_tracked (h : Tracked s older current) (steps : List FileWalStep) :
    ∃ older' current', Tracked (s.run steps) older' current' := by
  induction steps generalizing s older current with
  | nil => exact ⟨older, current, h⟩
  | cons x steps ih =>
    obtain ⟨older', current', h'⟩ := (step_tracked x h).1
    exact ih h'

variable {x : FileWalStep}

theorem headerFollows_of_not_passesSync (h : ¬ s.PassesSync x) : HeaderFollows s x :=
  fun hrunning hpublishes hdone => absurd ⟨hrunning, hpublishes, hdone⟩ h

/-- Dying between the sync and the header leaves the signal ahead. -/
theorem not_headerFollows_interrupted (h : s.PassesSync x) :
    ¬ HeaderFollows s (x.1, x.2.take 1 ++ List.replicate (1 - x.2.length) .done ++ [.crash 0]) := by
  obtain ⟨hrunning, hpublishes, hdone⟩ := h
  rw [Disk.done_one] at hdone
  obtain ⟨call, outcomes⟩ := x
  intro hfollows
  cases outcomes with
  | nil => exact absurd (hfollows hrunning hpublishes (by simp [enter, Disk.Done])) (by
      simp [enter, Disk.Done])
  | cons outcome outcomes =>
    obtain rfl : outcome = .done := hdone
    exact absurd (hfollows hrunning hpublishes (by simp [enter, Disk.Done])) (by
      simp [enter, Disk.Done])

theorem not_passesSync_interrupted (h : ¬ s.PassesSync x) (n written : Nat) :
    ¬ s.PassesSync (x.1, x.2.take n ++ List.replicate (n - x.2.length) .done ++
      [.crash written]) := by
  rintro ⟨hrunning, hpublishes, hdone⟩
  refine h ⟨hrunning, hpublishes, ?_⟩
  rw [Disk.done_one] at hdone ⊢
  obtain ⟨call, outcomes⟩ := x
  cases outcomes with
  | nil => rfl
  | cons outcome outcomes =>
    cases n with
    | zero => simp [Disk.next, enter] at hdone
    | succ n => exact hdone

theorem step_honest_iff (x : FileWalStep) (h : Tracked s older current) (hhonest : s.Honest) :
    ((s.step x).Honest ∧ ∀ n written, (s.interrupted x n written).Honest) ↔ ¬ s.PassesSync x := by
  have hstep : ∀ y, (s.step y).Honest ↔ HeaderFollows s y :=
    fun y => (step_tracked y h).2.2 hhonest
  constructor
  · rintro ⟨-, hmoments⟩ hpasses
    exact not_headerFollows_interrupted hpasses ((hstep _).mp (hmoments 1 0))
  · intro hstops
    refine ⟨(hstep x).mpr (headerFollows_of_not_passesSync hstops), fun n written => ?_⟩
    exact (hstep _).mpr
      (headerFollows_of_not_passesSync (not_passesSync_interrupted hstops n written))

theorem run_honest (h : Tracked s older current) (hhonest : s.Honest) {steps : List FileWalStep}
    (hstops : ∀ before x after, steps = before ++ x :: after → ¬ (s.run before).PassesSync x) :
    (s.run steps).Honest := by
  induction steps using List.reverseRecOn with
  | nil => exact hhonest
  | append_singleton steps x ih =>
    have hbefore := ih fun before y after heq =>
      hstops before y (after ++ [x]) (by rw [heq, append_assoc, cons_append])
    obtain ⟨older', current', h'⟩ := run_tracked h steps
    rw [run, foldl_append]
    exact ((step_honest_iff x h' hbefore).mpr (hstops steps x [] rfl)).1

/-- On an opened file, the signal and the returned LSNs stay within what a crash would recover,
at every moment of every call, exactly as long as no flush with something to publish gets past
the sync of its records. -/
theorem published_lsn_recoverable_iff {d disk : Disk} {wal : FileWal}
    (hopen : openFile d = (.ok wal, disk)) (separation : WalQueueSeparationEvidence)
    (steps : List FileWalStep) :
    HonestThroughout (start ⟨wal.withFlushSeparation separation, disk⟩) steps ↔
      ∀ before x after, steps = before ++ x :: after →
        ¬ (run (start ⟨wal.withFlushSeparation separation, disk⟩) before).PassesSync x := by
  have hstart := start_tracked hopen separation
  have hhonest := start_honest hopen separation
  constructor
  · rintro ⟨hend, hsteps⟩ before x after heq
    obtain ⟨hbefore, hmoments⟩ := hsteps before x after heq
    obtain ⟨older, current, htracked⟩ := run_tracked hstart before
    refine (step_honest_iff x htracked hbefore).mp ⟨?_, hmoments⟩
    cases after with
    | nil =>
      rw [heq, run, foldl_append] at hend
      exact hend
    | cons y after =>
      have hnext := (hsteps (before ++ [x]) y after (by rw [heq, append_assoc]; rfl)).1
      rw [run, foldl_append] at hnext
      exact hnext
  · intro hstops
    refine ⟨run_honest hstart hhonest hstops, fun before x after heq => ?_⟩
    have hbefore : (run (start ⟨wal.withFlushSeparation separation, disk⟩) before).Honest :=
      run_honest hstart hhonest fun earlier y later hearlier =>
        hstops earlier y (later ++ x :: after) (by rw [heq, hearlier, append_assoc, cons_append])
    obtain ⟨older, current, htracked⟩ := run_tracked hstart before
    exact ⟨hbefore, ((step_honest_iff x htracked hbefore).mpr (hstops before x after heq)).2⟩

def flushedSteps : List FileWalStep :=
  [(.appendPayload .txBegin (some 7) [] (Nat.zero_lt_succ _), []), (.flushAll, [])]

def flushedRun : FileWalRun :=
  run (start ⟨newProcess.wal.withFlushSeparation .p0Durable, newProcess.disk⟩) flushedSteps

theorem openFile_flushedRun : openFile ⟨flushedRun.process.disk.file, []⟩ =
    (.ok flushedRun.process.wal, flushedRun.process.disk) := by
  decide +kernel

/-- A second record, whose flush fails in its first sync. -/
def unsyncedSteps : List FileWalStep :=
  [(.appendPayload .txCommit (some 7) [] (Nat.zero_lt_succ _), []),
   (.flushAll, [.fail 0 "Input/output error (os error 5)"])]

/-- Reopened with one record durable, the log keeps to it through the failed flush. -/
theorem published_lsn_recoverable_unsynced :
    (start ⟨flushedRun.process.wal.withFlushSeparation .p0Durable,
        flushedRun.process.disk⟩).process.wal.sharedDurableLsn = 1 ∧
      HonestThroughout (start ⟨flushedRun.process.wal.withFlushSeparation .p0Durable,
        flushedRun.process.disk⟩) unsyncedSteps := by
  refine ⟨by decide +kernel,
    (published_lsn_recoverable_iff openFile_flushedRun .p0Durable unsyncedSteps).mpr ?_⟩
  rintro before x after heq ⟨-, hpublishes, hdone⟩
  have hmem : x ∈ unsyncedSteps := by
    rw [heq]
    simp
  simp only [unsyncedSteps, mem_cons, not_mem_nil, or_false] at hmem
  rcases hmem with rfl | rfl
  · cases hpublishes
  · rw [Disk.done_one] at hdone
    cases hdone

/-- The header write of the only flush fails; a second flush call then finds nothing to
do and returns the LSN. -/
def failedHeaderSteps : List FileWalStep :=
  [(.appendPayload .txBegin (some 7) [] (Nat.zero_lt_succ _), []),
   (.flushAll, [.done, .done, .fail 0 "Input/output error (os error 5)"]),
   (.flushAll, [])]

def failedHeaderRun : FileWalRun :=
  run (start ⟨newProcess.wal.withFlushSeparation .p0Durable, newProcess.disk⟩) failedHeaderSteps

def recoveredLsn (image : Bytes) : Option Lsn :=
  match (reopen image).1 with
  | .ok wal => some wal.durableLsn
  | .error _ => none

/-- After a failed header write the signal says 1 and the retry returned 1, but a crash
recovers nothing. -/
theorem published_lsn_lost_after_failed_header :
    openFile newDisk = (.ok newProcess.wal, newProcess.disk) ∧
      failedHeaderRun.process.wal.sharedDurableLsn = 1 ∧ failedHeaderRun.returned = [1] ∧
      failedHeaderRun.process.disk.file.CrashImage failedHeaderRun.process.disk.file.head
        failedHeaderRun.process.disk.file.body ∧
      recoveredLsn (failedHeaderRun.process.disk.file.head ++
        failedHeaderRun.process.disk.file.body) = some 0 ∧ ¬ failedHeaderRun.Honest := by
  have hsignal : failedHeaderRun.process.wal.sharedDurableLsn = 1 := by decide +kernel
  have himage : failedHeaderRun.process.disk.file.CrashImage
      failedHeaderRun.process.disk.file.head failedHeaderRun.process.disk.file.body :=
    ⟨by decide +kernel, take_prefix _ _⟩
  have hlost : recoveredLsn (failedHeaderRun.process.disk.file.head ++
      failedHeaderRun.process.disk.file.body) = some 0 := by decide +kernel
  refine ⟨openFile_newDisk, hsignal, by decide +kernel, himage, hlost, ?_⟩
  intro hhonest
  obtain ⟨wal, disk, hreopen, hle⟩ := hhonest.1 _ _ himage
  rw [recoveredLsn, hreopen] at hlost
  rw [hsignal, Option.some.inj hlost] at hle
  exact absurd hle (by decide)

end FileWalRun

end Andromeda
