import Andromeda.Wal.FileWalSteps

/-!
# Opening, calling and crashing

A run opens a file and makes append and flush calls on it; before each call the
environment chooses how the file operations of that call will go. A failed call
is reported and the run goes on, a crash ends it.
-/

namespace Andromeda

open Fallible Effect List

namespace FileWal

theorem fileOffsetForWalBytes_eq_ok {bytes offset : UInt64} :
    fileOffsetForWalBytes bytes = .ok offset ↔ offset.toNat = fileWalHeaderLen + bytes.toNat := by
  rw [fileOffsetForWalBytes, orError_eq_ok, checkedAdd_eq_some]
  rfl

theorem exists_fileOffset {bytes : UInt64} (h : fileWalHeaderLen + bytes.toNat < UInt64.size) :
    ∃ offset, fileOffsetForWalBytes bytes = .ok offset := by
  refine ⟨UInt64.ofNat (fileWalHeaderLen + bytes.toNat), ?_⟩
  rw [fileOffsetForWalBytes_eq_ok, UInt64.toNat_ofNat_of_lt' h]

theorem truncateTo_cases {xs : Bytes} {desiredLen : UInt64} {d d' : Disk}
    (hxs : xs <+: d.file.body) (hlen : desiredLen.toNat = fileWalHeaderLen + xs.length)
    (h : truncateTo desiredLen d = (.ok (), d')) : xs <+: d'.file.body := by
  unfold truncateTo at h
  rw [get_bind] at h
  by_cases hsame : d.file.length ≠ desiredLen.toNat
  · rw [if_pos hsame, hlen, Nat.add_sub_cancel_left] at h
    obtain ⟨-, rfl⟩ := Disk.io_ok h
    have hbody : (d.file.setBodyLen xs.length).body = xs := TornFile.setBodyLen_body hxs
    exact prefix_iff_eq_take.mpr (by rw [hbody, take_length])
  · rw [if_neg hsame] at h
    cases h
    exact hxs

variable {file : TornFile}

theorem scanOpenFileWal_scan {diskScan : FileWalDiskScan}
    (h : scanOpenFileWal file = .ok diskScan) :
    ∃ n < UInt64.size, diskScan.scan = scanWalRecords (file.body.take n) := by
  simp only [scanOpenFileWal, ok_iff] at h
  obtain ⟨-, header, -, -, rfl⟩ := h
  exact ⟨_, Nat.lt_of_le_of_lt (Nat.min_le_left _ _) header.durableBytes.toNat_lt, rfl⟩

theorem onDisk_rewritten {records : List WalRecord} (hbody : encodedAll records <+: file.body) :
    OnDisk (file.writeHead (headImage records)).sync records [] records where
  head := rfl
  heads := rfl
  body := hbody
  stable := Nat.le_refl _
  durable := by
    intro d hd
    obtain rfl : d = records := by simpa using hd
    exact ⟨prefix_refl _, hbody.length_le⟩

/-- Whatever the file held, an open that succeeds leaves one header, and it names the
whole log. -/
theorem openFile_inv {d d' : Disk} {wal : FileWal} (h : openFile d = (.ok wal, d')) :
    FileWalInv ⟨wal, d'⟩ [] wal.records ∧ lastLsnOf wal.records = wal.durableLsn := by
  unfold openFile at h
  obtain ⟨⟨⟩, d₁, -, h⟩ := Effect.bind_eq_ok.mp h
  rw [get_bind] at h
  obtain ⟨diskScan, hscan, h⟩ := checked_bind_ok h
  unfold settleScan at h
  obtain ⟨⟨⟩, -, h⟩ := checked_bind_ok h
  obtain ⟨desiredLen, hdesired, h⟩ := checked_bind_ok h
  obtain ⟨⟨⟩, d₂, htruncate, h⟩ := Effect.bind_eq_ok.mp h
  obtain ⟨⟨⟩, d₃, hwrite, h⟩ := Effect.bind_eq_ok.mp h
  obtain ⟨⟨⟩, d₄, hsync, h⟩ := Effect.bind_eq_ok.mp h
  obtain ⟨boundaries, hboundaries, h⟩ := checked_bind_ok h
  cases h
  -- the scan found a chain of valid records at the start of the body
  obtain ⟨n, hn, hscanned⟩ := scanOpenFileWal_scan hscan
  have hresult := scanWalRecordsFrom_result (d₁.file.body.take n) 1 none
  rw [← scanWalRecords, ← hscanned] at hresult
  have hbody : encodedAll diskScan.scan.records <+: d₁.file.body :=
    hresult.scanned.bytes.trans (List.take_prefix _ _)
  have hlt : (encodedAll diskScan.scan.records).length < UInt64.size := by
    have hle := hresult.scanned.bytes.length_le
    rw [length_take] at hle
    omega
  have hbytes : (UInt64.ofNat diskScan.scan.validBytes).toNat =
      (encodedAll diskScan.scan.records).length := by
    rw [hresult.validBytes, UInt64.toNat_ofNat_of_lt' hlt]
  have hlen : desiredLen.toNat = fileWalHeaderLen + (encodedAll diskScan.scan.records).length := by
    rw [fileOffsetForWalBytes_eq_ok.mp hdesired, hbytes]
  have hlog : ValidLog diskScan.scan.records := by
    refine ⟨hresult.scanned.valid, chainedFrom_one_iff.mp hresult.scanned.chained, ?_⟩
    rw [← hlen]
    exact desiredLen.toNat_lt
  have hlast : diskScan.scan.lastValidLsn.getD 0 = lastLsnOf diskScan.scan.records := by
    rw [hresult.lastValidLsn, lastLsnOf]
  -- so the rewritten header names exactly that chain
  have hheader : FileWalHeader.new (diskScan.scan.lastValidLsn.getD 0)
      (UInt64.ofNat diskScan.scan.validBytes) (UInt64.ofNat diskScan.scan.records.length) =
        durableHeader diskScan.scan.records := by
    rw [durableHeader, hlast, hresult.validBytes]
  have hkept : encodedAll diskScan.scan.records <+: d₂.file.body :=
    truncateTo_cases hbody hlen htruncate
  rw [hheader] at hwrite
  rcases writeFileWalHeader_cases hlog hwrite with
    ⟨-, -, rfl⟩ | ⟨-, _, herror, -⟩
  swap
  · cases herror
  obtain ⟨-, rfl⟩ := Disk.io_ok hsync
  rw [hlog.recordBoundariesFor_eq, Except.ok.injEq] at hboundaries
  exact ⟨⟨hlog, hbytes, hboundaries.symm, rfl, onDisk_rewritten hkept⟩, hlast.symm⟩

theorem openFile_headImage {durable : List WalRecord} (hlog : ValidLog durable)
    (hhead : file.head = headImage durable) (hbody : encodedAll durable <+: file.body) :
    ∃ wal disk, openFile ⟨file, []⟩ = (.ok wal, disk) ∧ wal.records = durable := by
  obtain ⟨diskScan, hscan, hresult⟩ := scanOpenFileWal_headImage hlog hhead hbody
  have hcreate : createIfEmpty ⟨file, []⟩ = (.ok (), ⟨file, []⟩) := by
    have hlength : file.length ≠ 0 := by
      rw [TornFile.length, hhead, length_headImage, fileWalHeaderLen]
      omega
    rw [createIfEmpty, get_bind, if_neg hlength]
    rfl
  obtain ⟨desiredLen, hdesired⟩ :=
    exists_fileOffset (by rw [hlog.toNat_bytes]; exact hlog.size)
  obtain ⟨file₂, htruncate⟩ : ∃ file₂, truncateTo desiredLen ⟨file, []⟩ =
      (.ok (), ⟨file₂, []⟩) := by
    rw [truncateTo, get_bind]
    split_ifs with hsame
    · exact ⟨_, rfl⟩
    · exact ⟨file, rfl⟩
  have hwrite := writeFileWalHeader_undisturbed hlog file₂
  refine ⟨{ records := durable
            recordBoundaries := boundariesOf 0 durable
            appendBytes := UInt64.ofNat (encodedAll durable).length
            durableBytes := UInt64.ofNat (encodedAll durable).length
            durableLsn := lastLsnOf durable
            scanStop := none
            sharedDurableLsn := lastLsnOf durable
            flushSeparation := .p0Durable },
    ⟨(file₂.writeHead (headImage durable)).sync, []⟩, ?_, rfl⟩
  have hsync : Disk.sync (ioError "sync file WAL durable header")
      ⟨file₂.writeHead (headImage durable), []⟩ =
        (.ok (), ⟨(file₂.writeHead (headImage durable)).sync, []⟩) := rfl
  have hforensic : ¬ isForensicScanStop none = true := by decide
  rw [openFile, bind_of_ok hcreate, get_bind, checked_ok_bind hscan, hresult]
  simp only [settleScan]
  rw [checked_ok_bind (failIf_neg hforensic), checked_ok_bind hdesired, bind_of_ok htruncate,
    ← lastLsnOf, ← durableHeader, bind_of_ok hwrite,
    bind_of_ok hsync, checked_ok_bind hlog.recordBoundariesFor_eq]
  rfl

def newDisk : Disk := ⟨TornFile.ofParts [] [], []⟩

def newProcess : FileWalProcess where
  wal :=
    { records := []
      recordBoundaries := []
      appendBytes := 0
      durableBytes := 0
      durableLsn := 0
      scanStop := none
      sharedDurableLsn := 0
      flushSeparation := .p0Durable }
  disk := ⟨⟨headImage [], [headImage []], [], 0⟩, []⟩

theorem openFile_newDisk : openFile newDisk = (.ok newProcess.wal, newProcess.disk) := by
  decide +kernel

def publishes (w : FileWal) (lsn : Lsn) : Option Lsn :=
  match w.flushTarget lsn with
  | .ok target => target
  | .error _ => none

section Flush

variable {p p' : FileWalProcess} {older : List (List WalRecord)} {current : List WalRecord}
  {result : Except (Interrupt Error) Lsn} {lsn target : Lsn}
  {w : FileWal}

theorem publishes_eq_some (h : w.publishes lsn = some target) :
    w.flushTarget lsn = .ok (some target) := by
  unfold publishes at h
  cases htarget : w.flushTarget lsn with
  | error e => simp [htarget] at h
  | ok t =>
    rw [htarget] at h
    rw [← h]

theorem publishes_prefix (hlog : ValidLog w.records) (h : w.publishes lsn = some target) :
    w.durableLsn < target ∧ ∃ before r, before ++ [r] <+: w.records ∧ r.lsn = target := by
  have htarget := publishes_eq_some h
  simp only [flushTarget, ok_iff] at htarget
  obtain ⟨rfl, hne, hlt, last, hlast, hle⟩ := validateFlushTarget_eq_some.mp htarget.2
  have hreach : target ≤ lastLsnOf w.records := by
    rw [lastLsnOf, ← lastLsn, hlast]
    exact hle
  exact ⟨hlt, hlog.chained.exists_prefix hne hreach⟩

theorem flushThrough_idle (hidle : p.wal.publishes lsn = none)
    (h : flushThrough lsn p = (result, p')) :
    p' = p ∧ ∀ l, result = .ok l → l = p.wal.durableLsn := by
  unfold flushThrough at h
  rw [get_bind] at h
  rcases checked_bind_cases h with ⟨e, -, rfl, rfl⟩ | ⟨t, htarget, h⟩
  · exact ⟨rfl, by simp⟩
  · have ht : t = none := by
      rw [publishes, htarget] at hidle
      exact hidle
    rw [ht] at h
    cases h
    exact ⟨rfl, fun l hl => (Except.ok.inj hl).symm⟩

theorem flushThrough_effect (hinv : FileWalInv p older current)
    (hpublishes : p.wal.publishes lsn = some target) (h : flushThrough lsn p = (result, p')) :
    ∃ durable, durable <+: p.wal.records ∧ lastLsnOf durable = target ∧
      p.wal.durableLsn < target ∧ FlushEffect p older current target durable result p' := by
  obtain ⟨hlt, before, r, hpre, rfl⟩ := publishes_prefix hinv.log hpublishes
  unfold flushThrough at h
  rw [get_bind, checked_ok_bind (publishes_eq_some hpublishes)] at h
  refine ⟨before ++ [r], hpre, ?_, hlt, flushTo_effect hinv hpre h⟩
  rw [lastLsnOf, tailLsn_concat, Option.getD_some]

end Flush

end FileWal

open FileWal

/-- The calls of a run. The bounds are those of a `Vec` length. -/
inductive FileWalCall where
  | append (record : WalRecord) (fits : record.payload.length < UInt64.size)
  | appendPayload (kind : WalRecordKind) (transactionId : Option TransactionId) (payload : Bytes)
      (fits : payload.length < UInt64.size)
  | flushThrough (lsn : Lsn)
  | flushAll

namespace FileWalCall

def exec : FileWalCall → Effect FileWalProcess (Interrupt Error) Lsn
  | append record _ => FileWal.append record
  | appendPayload kind transactionId payload _ => FileWal.appendPayload kind transactionId payload
  | flushThrough lsn => FileWal.flushThrough lsn
  | flushAll => FileWal.flushAll

def isFlush : FileWalCall → Bool
  | append .. | appendPayload .. => false
  | flushThrough _ | flushAll => true

/-- The LSN the call would publish if its file operations succeed. -/
def publishes (w : FileWal) : FileWalCall → Option Lsn
  | append .. | appendPayload .. => none
  | flushThrough lsn => w.publishes lsn
  | flushAll =>
    match w.lastLsn with
    | some last => w.publishes last
    | none => none

variable {p p' : FileWalProcess} {older : List (List WalRecord)} {current : List WalRecord}
  {call : FileWalCall} {result : Except (Interrupt Error) Lsn} {target : Lsn}

/-- A call that publishes nothing leaves the headers alone, whatever its file
operations do. -/
structure IdleEffect (p p' : FileWalProcess) (call : FileWalCall)
    (result : Except (Interrupt Error) Lsn) : Prop where
  durableLsn : p'.wal.durableLsn = p.wal.durableLsn
  records : p.wal.records <+: p'.wal.records
  returned : call.isFlush = true → ∀ l, result = .ok l → l = p.wal.durableLsn

theorem append_idle {r : WalRecord} (hcall : call.isFlush = false)
    (h : FileWal.AppendEffect p r result p') : IdleEffect p p' call result := by
  cases h with
  | rejected wal =>
    refine ⟨by rw [wal], ⟨[], by rw [wal, append_nil]⟩, ?_⟩
    intro hflush
    rw [hcall] at hflush
    cases hflush
  | appended records durableLsn =>
    refine ⟨durableLsn, by rw [records]; exact prefix_append _ _, ?_⟩
    intro hflush
    rw [hcall] at hflush
    cases hflush

theorem flushThrough_idle {lsn : Lsn} (hidle : p.wal.publishes lsn = none)
    (h : FileWal.flushThrough lsn p = (result, p')) : p' = p ∧ IdleEffect p p' call result := by
  obtain ⟨rfl, hresult⟩ := FileWal.flushThrough_idle hidle h
  exact ⟨rfl, rfl, prefix_refl _, fun _ => hresult⟩

theorem exec_idle (hinv : FileWalInv p older current) (hidle : call.publishes p.wal = none)
    (h : call.exec p = (result, p')) :
    FileWalInv p' older current ∧ IdleEffect p p' call result := by
  cases call with
  | append record fits =>
    obtain ⟨hinv', heffect⟩ := FileWal.append_inv hinv fits h
    exact ⟨hinv', append_idle rfl heffect⟩
  | appendPayload kind transactionId payload fits =>
    change FileWal.appendPayload kind transactionId payload p = (result, p') at h
    rw [FileWal.appendPayload, get_bind] at h
    rcases checked_bind_cases h with ⟨e, -, rfl, rfl⟩ | ⟨record, hrecord, h⟩
    · exact ⟨hinv, rfl, prefix_refl _, by simp⟩
    · have hpayload := (payloadRecord_extends hrecord).2.2.2.2
      obtain ⟨hinv', heffect⟩ := FileWal.append_inv hinv (by rw [hpayload]; exact fits) h
      exact ⟨hinv', append_idle rfl heffect⟩
  | flushThrough lsn =>
    obtain ⟨rfl, heffect⟩ := flushThrough_idle hidle h
    exact ⟨hinv, heffect⟩
  | flushAll =>
    change FileWal.flushAll p = (result, p') at h
    rw [FileWal.flushAll, get_bind] at h
    unfold publishes at hidle
    cases hlast : p.wal.lastLsn with
    | none =>
      rw [hlast] at h
      cases h
      exact ⟨hinv, rfl, prefix_refl _, fun _ l hl => (Except.ok.inj hl).symm⟩
    | some last =>
      rw [hlast] at h hidle
      obtain ⟨rfl, heffect⟩ := flushThrough_idle hidle h
      exact ⟨hinv, heffect⟩

theorem exec_effect (hinv : FileWalInv p older current)
    (hpublishes : call.publishes p.wal = some target) (h : call.exec p = (result, p')) :
    call.isFlush = true ∧ ∃ durable, durable <+: p.wal.records ∧ lastLsnOf durable = target ∧
      p.wal.durableLsn < target ∧ FileWal.FlushEffect p older current target durable result p' := by
  cases call with
  | append record fits
  | appendPayload kind transactionId payload fits => simp [publishes] at hpublishes
  | flushThrough lsn => exact ⟨rfl, flushThrough_effect hinv hpublishes h⟩
  | flushAll =>
    change FileWal.flushAll p = (result, p') at h
    rw [FileWal.flushAll, get_bind] at h
    unfold publishes at hpublishes
    cases hlast : p.wal.lastLsn with
    | none => simp [hlast] at hpublishes
    | some last =>
      rw [hlast] at h hpublishes
      exact ⟨rfl, flushThrough_effect hinv hpublishes h⟩

end FileWalCall

/-- A run so far: the process, the LSNs its flush calls returned, and whether it is
over. -/
structure FileWalRun where
  process : FileWalProcess
  returned : List Lsn
  crashed : Bool

abbrev FileWalStep := FileWalCall × List IoOutcome

namespace FileWalRun

def start (p : FileWalProcess) : FileWalRun := ⟨p, [], false⟩

section

variable (s : FileWalRun)

def enter (outcomes : List IoOutcome) : FileWalProcess :=
  ⟨s.process.wal, ⟨s.process.disk.file, outcomes⟩⟩

def after (call : FileWalCall) : Except (Interrupt Error) Lsn × FileWalProcess → FileWalRun
  | (.ok lsn, process) =>
    ⟨process, if call.isFlush then s.returned ++ [lsn] else s.returned, false⟩
  | (.error (.failed _), process) => ⟨process, s.returned, false⟩
  | (.error .crashed, process) => ⟨process, s.returned, true⟩

def step (x : FileWalStep) : FileWalRun :=
  if s.crashed then s else s.after x.1 (x.1.exec (s.enter x.2))

def run (steps : List FileWalStep) : FileWalRun := steps.foldl step s

end

variable {s : FileWalRun}

theorem step_crashed (h : s.crashed = true) (x : FileWalStep) : s.step x = s := by
  rw [step, if_pos h]

theorem step_running (h : s.crashed = false) (x : FileWalStep) :
    s.step x = s.after x.1 (x.1.exec (s.enter x.2)) := by
  rw [step, h]
  rfl

@[simp] theorem after_process (s : FileWalRun) (call : FileWalCall)
    (end_ : Except (Interrupt Error) Lsn × FileWalProcess) :
    (s.after call end_).process = end_.2 := by
  rcases end_ with ⟨(_ | _) | _, _⟩ <;> rfl

theorem mem_returned_after {call : FileWalCall} {result : Except (Interrupt Error) Lsn}
    {process : FileWalProcess} {l : Lsn} (h : l ∈ (s.after call (result, process)).returned) :
    l ∈ s.returned ∨ (call.isFlush = true ∧ result = .ok l) := by
  rcases result with (_ | _) | lsn
  · exact .inl h
  · exact .inl h
  · cases hflush : call.isFlush with
    | false =>
      simp only [after, hflush] at h
      exact .inl h
    | true =>
      simp only [after, hflush, if_true, mem_append, mem_singleton] at h
      exact h.imp_right fun heq => ⟨rfl, by rw [heq]⟩

theorem enter_inv {older : List (List WalRecord)} {current : List WalRecord}
    (h : FileWalInv s.process older current) (outcomes : List IoOutcome) :
    FileWalInv (s.enter outcomes) older current :=
  ⟨h.log, h.appendBytes, h.boundaries, h.signal, h.onDisk⟩

end FileWalRun

def fileOfImage (image : Bytes) : TornFile :=
  TornFile.ofParts (image.take fileWalHeaderLen) (image.drop fileWalHeaderLen)

def FileWal.reopen (image : Bytes) : Except (Interrupt Error) FileWal × Disk :=
  openFile ⟨fileOfImage image, []⟩

theorem FileWal.reopen_headImage {durable : List WalRecord} {body : Bytes}
    (hlog : ValidLog durable) (hbody : encodedAll durable <+: body) :
    ∃ wal disk, FileWal.reopen (headImage durable ++ body) = (.ok wal, disk) ∧
      wal.records = durable := by
  rw [FileWal.reopen, fileOfImage, take_left' (length_headImage durable),
    drop_left' (length_headImage durable)]
  exact openFile_headImage hlog rfl hbody

variable {p : FileWalProcess} {older : List (List WalRecord)} {current : List WalRecord}

theorem FileWalInv.reopen (h : FileWalInv p older current) {head body : Bytes}
    (himage : p.disk.file.CrashImage head body) : ∃ d ∈ older ++ [current], encodedAll d <+: body ∧
      ∃ wal disk, FileWal.reopen (head ++ body) = (.ok wal, disk) ∧ wal.records = d := by
  obtain ⟨d, hd, rfl, hbody⟩ := h.onDisk.exists_of_crashImage himage
  have hlog : ValidLog d := h.log.of_isPrefix (h.onDisk.durable d hd).1
  exact ⟨d, hd, hbody, reopen_headImage hlog hbody⟩

theorem FileWalInv.exists_crash (h : FileWalInv p older current) {d : List WalRecord}
    (hd : d ∈ older ++ [current]) : ∃ head body, p.disk.file.CrashImage head body ∧
      ∃ wal disk, FileWal.reopen (head ++ body) = (.ok wal, disk) ∧ wal.records = d := by
  have hlog : ValidLog d := h.log.of_isPrefix (h.onDisk.durable d hd).1
  have himage : p.disk.file.CrashImage (headImage d)
      (p.disk.file.body.take p.disk.file.stable) :=
    ⟨by rw [h.onDisk.heads]; exact mem_map_of_mem hd, prefix_refl _⟩
  obtain ⟨hpre, hstable⟩ := h.onDisk.durable d hd
  have hbody := himage.prefix_body ((encodedAll_isPrefix hpre).trans h.onDisk.body) hstable
  exact ⟨_, _, himage, reopen_headImage hlog hbody⟩

end Andromeda
