import Andromeda.Wal.DurableSignal

/-!
# Crash safety of the file-backed log

As long as file operations do not report errors, a log file reopened after a crash
holds a prefix of what was appended, and that prefix reaches every LSN a flush had
returned. The invariant is that of the header: while the process runs there is one
header on the device and it names the durable LSN; a crash inside a flush may leave
the header from before it, which still covers everything returned so far.
-/

namespace Andromeda

open FileWal FileWalCall

namespace FileWalRun

/-! ## Runs keep the log -/

variable {d : Disk} {wal : FileWal} {disk : Disk}

theorem run_extends (hopen : openFile d = (.ok wal, disk)) (steps : List FileWalStep) :
    wal.records <+: (run (start ⟨wal, disk⟩) steps).process.wal.records ∧
      Chained none (run (start ⟨wal, disk⟩) steps).process.wal.records := by
  have hstart : Tracked (start ⟨wal, disk⟩) [] wal.records := start_tracked hopen wal.flushSeparation
  obtain ⟨⟨older, current, h⟩, hbase⟩ := List.foldlRecOn
    (motive := fun s => (∃ older current, Tracked s older current) ∧
      wal.records <+: s.process.wal.records)
    steps step ⟨⟨_, _, hstart⟩, List.prefix_rfl⟩ fun s ⟨⟨older, current, h⟩, hbase⟩ x _ =>
      ⟨(step_tracked x h).1, hbase.trans (step_tracked x h).2.1⟩
  exact ⟨hbase, h.inv.log.chained⟩

/-! ## Runs without I/O errors -/

/-- No file operation of the step reports an error; it may still be the last. -/
def Quiet (x : FileWalStep) : Prop :=
  ∀ written reason, IoOutcome.fail written reason ∉ x.2

/-- What was returned is safe, and so is the signal while the process runs. -/
def Safe (s : FileWalRun) : Prop :=
  (∀ l ∈ s.returned, RecoversAtLeast s.process.disk.file l) ∧ (s.crashed = false → s.Honest)

variable {older : List (List WalRecord)} {current : List WalRecord}

/-- A flush that publishes and loses its header ends in the crash of the process, and returns
nothing. -/
theorem safe_of_lost_header {s : FileWalRun} {x : FileWalStep} (h : Tracked s older current)
    (hhonest : s.Honest)
    (hquiet : Quiet x) (hlost : ¬ HeaderFollows s x) : (s.step x).Safe := by
  obtain ⟨hrunning, hpublishes, hsynced, hheader⟩ : s.crashed = false ∧
      (x.1.publishes s.process.wal).isSome ∧ (s.enter x.2).disk.Done 1 ∧
      ¬ (s.enter x.2).disk.Done 4 := by
    simpa [HeaderFollows] using hlost
  obtain ⟨target, htarget⟩ := Option.isSome_iff_exists.mp hpublishes
  have hcurrent : ∀ l ∈ s.returned, l ≤ lastLsnOf current := by
    intro l hl
    exact UInt64.le_trans (h.returned l hl) (h.honest_iff.mp hhonest current (by simp))
  have hcrash {e : Interrupt Error} (why : e = .crashed ∨ (s.enter x.2).disk.Fails) :
      e = .crashed := by
    rcases why with rfl | ⟨written, reason, hmem⟩
    · rfl
    · exact absurd hmem (hquiet written reason)
  rw [step_running hrunning]
  rcases hexec : x.1.exec (s.enter x.2) with ⟨result, p'⟩
  obtain ⟨-, durable, -, hlast, hlt, heffect⟩ := exec_effect (enter_inv h.inv x.2) htarget hexec
  cases heffect with
  | unsynced outcomes wal inv => exact absurd hsynced outcomes
  | settled outcomes records published inv => exact absurd outcomes hheader
  | unrecorded synced outcomes why records published inv =>
    obtain rfl := hcrash why
    refine ⟨fun l hl => inv.recoversAtLeast_iff.mpr ?_, fun hfalse => by cases hfalse⟩
    simpa using hcurrent l hl
  | unsettled synced outcomes why records published inv =>
    obtain rfl := hcrash why
    refine ⟨fun l hl => inv.recoversAtLeast_iff.mpr ?_, fun hfalse => by cases hfalse⟩
    have hdurable : l ≤ lastLsnOf durable := by
      rw [hlast]
      exact UInt64.le_trans (h.returned l hl) (UInt64.le_of_lt hlt)
    simpa using ⟨hcurrent l hl, hdurable⟩

theorem step_safe {s : FileWalRun} {x : FileWalStep} (h : Tracked s older current) (hsafe : s.Safe)
    (hquiet : Quiet x) :
    (s.step x).Safe := by
  cases hcrashed : s.crashed with
  | true =>
    rw [step_crashed hcrashed]
    exact hsafe
  | false =>
    have hhonest := hsafe.2 hcrashed
    by_cases hfollows : HeaderFollows s x
    · have hnext := ((step_tracked x h).2.2 hhonest).mpr hfollows
      exact ⟨hnext.2, fun _ => hnext⟩
    · exact safe_of_lost_header h hhonest hquiet hfollows

theorem run_safe (hopen : openFile d = (.ok wal, disk)) (separation : WalQueueSeparationEvidence)
    {steps : List FileWalStep} (hquiet : ∀ x ∈ steps, Quiet x) : ∃ older current,
      Tracked (run (start ⟨wal.withFlushSeparation separation, disk⟩) steps) older current ∧
        (run (start ⟨wal.withFlushSeparation separation, disk⟩) steps).Safe := by
  apply List.foldlRecOn (motive := fun s => ∃ older current, Tracked s older current ∧ s.Safe) steps
  · exact ⟨_, _, start_tracked hopen separation, by simp [start], fun _ =>
      start_honest hopen separation⟩
  · rintro s ⟨older, current, h, hsafe⟩ x hx
    obtain ⟨older', current', h'⟩ := (step_tracked x h).1
    exact ⟨older', current', h', step_safe h hsafe (hquiet x hx)⟩

/-! ## What a crash leaves -/

/-- Reopening after a crash, at any moment of a run without I/O errors: the recovered
records are a prefix of the appended ones, byte for byte what the device held, they
reach every LSN a flush returned, and later calls extend the same chain. -/
theorem reopen_after_crash {d disk : Disk} {wal : FileWal} (hopen : openFile d = (.ok wal, disk))
    (separation : WalQueueSeparationEvidence) {steps : List FileWalStep}
    (hquiet : ∀ x ∈ steps, Quiet x) {s : FileWalRun}
    (hrun : run (start ⟨wal.withFlushSeparation separation, disk⟩) steps = s) {head body : Bytes}
    (hcrash : s.process.disk.file.CrashImage head body) :
    ∃ wal' disk', reopen (head ++ body) = (.ok wal', disk') ∧
      wal'.records <+: s.process.wal.records ∧ encodedAll wal'.records <+: body ∧
      (∀ l ∈ s.returned, ∀ r ∈ s.process.wal.records, r.lsn ≤ l → r ∈ wal'.records) ∧
      ∀ steps', wal'.records <+: (run (start ⟨wal', disk'⟩) steps').process.wal.records ∧
        Chained none (run (start ⟨wal', disk'⟩) steps').process.wal.records := by
  obtain ⟨older, current, h, hsafe⟩ := run_safe hopen separation hquiet
  rw [hrun] at h hsafe
  obtain ⟨durable, hd, hbody, wal', disk', hreopen, hrecords⟩ := h.inv.reopen hcrash
  have hpre := (h.inv.onDisk.durable durable hd).1
  refine ⟨wal', disk', hreopen, by rw [hrecords]; exact hpre, by rw [hrecords]; exact hbody, ?_,
    run_extends hreopen⟩
  intro l hl r hr hle
  rw [hrecords]
  apply h.inv.log.chained.mem_of_lsn_le hpre hr
  exact UInt64.le_trans hle (h.inv.recoversAtLeast_iff.mp (hsafe.1 l hl) durable hd)

/-- Two records, the first one flushed; the process dies while it writes the header for
the second. -/
def crashedSteps : List FileWalStep :=
  [(.appendPayload .txBegin (some 7) [] (by decide), []),
   (.flushAll, []),
   (.appendPayload .txCommit (some 7) [] (by decide), []),
   (.flushAll, [.done, .done, .crash 0])]

def crashedRun : FileWalRun :=
  run (start ⟨newProcess.wal.withFlushSeparation .p0Durable, newProcess.disk⟩) crashedSteps

theorem reopen_after_crash_in_header_write : crashedRun.crashed = true ∧ crashedRun.returned = [1] ∧
      ∃ wal' disk', reopen (crashedRun.process.disk.file.head ++ crashedRun.process.disk.file.body) =
          (.ok wal', disk') ∧ wal'.records <+: crashedRun.process.wal.records ∧
        ∀ r ∈ crashedRun.process.wal.records, r.lsn ≤ 1 → r ∈ wal'.records := by
  have hquiet : ∀ x ∈ crashedSteps, Quiet x := by
    simp [crashedSteps, Quiet]
  have hrun : run (start ⟨newProcess.wal.withFlushSeparation .p0Durable, newProcess.disk⟩)
      crashedSteps = crashedRun := by
    rw [crashedRun]
  have hreturned : crashedRun.returned = [1] := by decide +kernel
  have hcrash : crashedRun.process.disk.file.CrashImage crashedRun.process.disk.file.head
      crashedRun.process.disk.file.body :=
    ⟨by decide +kernel, List.take_prefix _ _⟩
  obtain ⟨wal', disk', hreopen, hpre, -, hreturn, -⟩ :=
    reopen_after_crash openFile_newDisk .p0Durable hquiet hrun hcrash
  exact ⟨by decide +kernel, hreturned, wal', disk', hreopen, hpre,
    hreturn 1 (by rw [hreturned]; exact List.mem_singleton_self 1)⟩

/-! ## Any number of crashes -/

def acknowledged (s : FileWalRun) : List WalRecord :=
  s.process.wal.records.filter fun r => s.returned.any fun l => r.lsn ≤ l

/-- After each of that many runs without I/O errors, however they end, the log opens again and
holds what any of them acknowledged. -/
def KeepsAcknowledged : Nat → List WalRecord → FileWal → Disk → Prop
  | 0, kept, wal, _ => kept ⊆ wal.records
  | runs + 1, kept, wal, disk => ∀ separation steps head body, (∀ x ∈ steps, Quiet x) →
      let s := run (start ⟨wal.withFlushSeparation separation, disk⟩) steps
      s.process.disk.file.CrashImage head body → ∃ wal' disk',
        reopen (head ++ body) = (.ok wal', disk') ∧
          KeepsAcknowledged runs (kept ++ s.acknowledged) wal' disk'

/-- The same run, had a flush returned `l` before it. -/
def noting (s : FileWalRun) (l : Lsn) : FileWalRun := ⟨s.process, l :: s.returned, s.crashed⟩

theorem step_noting (s : FileWalRun) (l : Lsn) (x : FileWalStep) :
    (s.noting l).step x = (s.step x).noting l := by
  cases hcrashed : s.crashed with
  | true => rw [step_crashed hcrashed, step_crashed (s := s.noting l) hcrashed]
  | false =>
    rw [step_running hcrashed, step_running (s := s.noting l) hcrashed]
    have henter : (s.noting l).enter x.2 = s.enter x.2 := rfl
    rw [henter]
    rcases x.1.exec (s.enter x.2) with ⟨(_ | _) | _, _⟩
    · rfl
    · rfl
    · cases hflush : x.1.isFlush <;> simp [after, noting, hflush]

section

variable (hopen : openFile d = (.ok wal, disk)) (separation : WalQueueSeparationEvidence)
  {steps : List FileWalStep} (hquiet : ∀ x ∈ steps, Quiet x) {s : FileWalRun}
  (hrun : run (start ⟨wal.withFlushSeparation separation, disk⟩) steps = s)
include hopen hquiet hrun

/-- A run is safe also for what opening found, as if a flush had returned it. -/
theorem run_noting_safe : ∃ older current, Tracked (s.noting wal.durableLsn) older current ∧
    (s.noting wal.durableLsn).Safe ∧ wal.records <+: s.process.wal.records := by
  have hstart := start_tracked hopen separation
  have hhonest := start_honest hopen separation
  have hfound : ∀ l ∈ [wal.durableLsn], l ≤ wal.durableLsn := by simp
  have hnoted : ((start ⟨wal.withFlushSeparation separation, disk⟩).noting wal.durableLsn).Honest :=
    ⟨hhonest.1, List.forall_mem_cons.mpr ⟨hstart.inv.signal ▸ hhonest.1, hhonest.2⟩⟩
  rw [← hrun]
  refine List.foldlRecOn (motive := fun t : FileWalRun => ∃ older current,
    Tracked (t.noting wal.durableLsn) older current ∧ (t.noting wal.durableLsn).Safe ∧
      wal.records <+: t.process.wal.records) steps step ?_ ?_
  · exact ⟨_, _, ⟨hstart.inv, hfound, hstart.headers⟩, ⟨hnoted.2, fun _ => hnoted⟩,
      List.prefix_rfl⟩
  · rintro t ⟨older, current, h, hsafe, hextends⟩ x hx
    obtain ⟨⟨older', current', h'⟩, hmore, -⟩ := step_tracked x h
    have hnext := step_safe h hsafe (hquiet x hx)
    rw [step_noting] at h' hmore hnext
    exact ⟨older', current', h', hnext, hextends.trans hmore⟩

theorem run_kept {head body : Bytes} (hcrash : s.process.disk.file.CrashImage head body) :
    ∃ wal' disk', reopen (head ++ body) = (.ok wal', disk') ∧ wal.records ⊆ wal'.records ∧
      s.acknowledged ⊆ wal'.records := by
  obtain ⟨hopened, hlast⟩ := openFile_inv hopen
  obtain ⟨older, current, h, hsafe, hextends⟩ := run_noting_safe hopen separation hquiet hrun
  obtain ⟨durable, hd, -, wal', disk', hreopen, hrecords⟩ := h.inv.reopen hcrash
  have hpre := (h.inv.onDisk.durable durable hd).1
  have hreach : ∀ l ∈ wal.durableLsn :: s.returned, l ≤ lastLsnOf durable := fun l hl =>
    h.inv.recoversAtLeast_iff.mp (hsafe.1 l hl) durable hd
  refine ⟨wal', disk', hreopen, ?_, ?_⟩ <;> rw [hrecords]
  · have hlength : wal.records.length ≤ durable.length := by
      rw [← hopened.log.chained.toNat_lastLsnOf,
        ← (h.inv.log.chained.of_isPrefix hpre).toNat_lastLsnOf]
      exact UInt64.le_iff_toNat_le.mp (hlast ▸ hreach _ List.mem_cons_self)
    exact (List.prefix_of_prefix_length_le hextends hpre hlength).subset
  · intro r hr
    obtain ⟨hmem, hcovered⟩ := List.mem_filter.mp hr
    obtain ⟨l, hl, hle⟩ := List.any_eq_true.mp hcovered
    exact h.inv.log.chained.mem_of_lsn_le hpre hmem
      (UInt64.le_trans (of_decide_eq_true hle) (hreach l (List.mem_cons_of_mem _ hl)))

end

/-- Acknowledged records survive any number of crashes. -/
theorem acknowledged_kept (hopen : openFile d = (.ok wal, disk)) (runs : Nat) :
    KeepsAcknowledged runs [] wal disk := by
  suffices hkept : ∀ kept, kept ⊆ wal.records → KeepsAcknowledged runs kept wal disk from
    hkept [] (List.nil_subset _)
  induction runs generalizing d disk wal with
  | zero => exact fun _ hkept => hkept
  | succ runs ih =>
    intro kept hkept separation steps head body hquiet s hcrash
    obtain ⟨wal', disk', hreopen, hfound, hacknowledged⟩ :=
      run_kept hopen separation hquiet rfl hcrash
    exact ⟨wal', disk', hreopen,
      ih hreopen _ (List.append_subset.mpr ⟨List.Subset.trans hkept hfound, hacknowledged⟩)⟩

theorem acknowledged_kept_newDisk : KeepsAcknowledged 2 [] newProcess.wal newProcess.disk :=
  acknowledged_kept openFile_newDisk 2

end FileWalRun

end Andromeda
