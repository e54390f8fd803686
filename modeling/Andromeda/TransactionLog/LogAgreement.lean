import Andromeda.TransactionLog.CommitLog
import Andromeda.Wal.FileWalRun

/-!
# The log file and the log in memory

The same calls on a new log file, whose file operations all succeed, and on a new log in memory.
The two stay `Alike`: they hold the same records and the same durable LSN, and their answers
differ in the texts of rejections only.
-/

namespace Andromeda

open Fallible Effect List

/-! ## Undisturbed file operations -/

namespace FileWal

variable {wal : FileWal} {file : TornFile} {current before : List WalRecord} {r : WalRecord}

theorem append_undisturbed (hinv : FileWalInv ⟨wal, ⟨file, []⟩⟩ [] current) (hfits : r.Fits)
    (haccept : r.Valid ∧ r.header.payloadLength ≤ walRecordSizeLimit ∧ r.Extends wal.lastLsn)
    (hroom : (encodedAll (wal.records ++ [r])).length ≤ maxBodyLen) :
    ∃ appendBytes disk, append r ⟨wal, ⟨file, []⟩⟩ =
      (.ok r.lsn, ⟨wal.push r appendBytes, disk⟩) := by
  have hbytes : wal.appendBytes.toNat = (encodedAll wal.records).length := hinv.appendBytes
  rw [encodedAll_append, encodedAll_singleton, length_append, ← hbytes] at hroom
  have hlimit : maxBodyLen + fileWalHeaderLen < UInt64.size := by decide
  obtain ⟨offset, hoffset⟩ := @exists_fileOffset wal.appendBytes (by omega)
  obtain ⟨appendBytes, hadd⟩ : ∃ appendBytes,
      checkedAdd wal.appendBytes (UInt64.ofNat r.encoded.length) = some appendBytes := by
    refine ⟨UInt64.ofNat (wal.appendBytes.toNat + r.encoded.length), ?_⟩
    rw [checkedAdd_eq_some, UInt64.toNat_ofNat_of_lt' (by omega),
      UInt64.toNat_ofNat_of_lt' (by omega)]
  have hseek : onDisk (Disk.seek (ioError "seek file WAL append offset")) ⟨wal, ⟨file, []⟩⟩ =
      (.ok (), ⟨wal, ⟨file, []⟩⟩) := rfl
  have hwrite : onDisk (Disk.writeBody maxBodyLen wal.appendBytes.toNat r.encoded
      (ioError "append file WAL record")) ⟨wal, ⟨file, []⟩⟩ =
        (.ok (), ⟨wal, ⟨file.writeBody wal.appendBytes.toNat r.encoded, []⟩⟩) := by
    rw [onDisk, Disk.writeBody, if_pos hroom]
    rfl
  refine ⟨appendBytes, ⟨file.writeBody wal.appendBytes.toNat r.encoded, []⟩, ?_⟩
  rw [append, get_bind, checked_ok_bind (validateAppendRecord_eq_ok (u := ()).mpr haccept),
    checked_ok_bind (WalRecord.encodeWalRecord_eq haccept.1 hfits), checked_ok_bind hoffset,
    bind_of_ok hseek, bind_of_ok hwrite, checked_ok_bind (orError_eq_ok.mpr hadd)]
  rfl

theorem flushTo_undisturbed (hinv : FileWalInv ⟨wal, ⟨file, []⟩⟩ [] current)
    (hpre : before ++ [r] <+: wal.records) : ∃ durableBytes disk, flushTo r.lsn ⟨wal, ⟨file, []⟩⟩ =
        (.ok r.lsn, ⟨wal.publish r.lsn durableBytes, disk⟩) ∧
      FileWalInv ⟨wal.publish r.lsn durableBytes, disk⟩ [] (before ++ [r]) := by
  have hlog : ValidLog (before ++ [r]) := hinv.log.of_isPrefix hpre
  have hwrite (w : FileWal) (d : TornFile) :
      onDisk (writeFileWalHeader (durableHeader (before ++ [r]))) ⟨w, ⟨d, []⟩⟩ =
        (.ok (), ⟨w, ⟨d.writeHead (headImage (before ++ [r])), []⟩⟩) := by
    rw [onDisk, writeFileWalHeader_undisturbed hlog]
  have hflush : flushTo r.lsn ⟨wal, ⟨file, []⟩⟩ = (.ok r.lsn,
      ⟨wal.publish r.lsn (UInt64.ofNat (encodedAll (before ++ [r])).length),
        ⟨(file.sync.writeHead (headImage (before ++ [r]))).sync, []⟩⟩) := by
    have hboundary := flushBoundary_eq (w := wal) hinv.log hinv.boundaries hpre
    rw [flushTo, get_bind, checked_ok_bind hboundary]
    simp only [durableHeader_concat]
    exact bind_of_ok (hwrite (wal.publish r.lsn _) file.sync)
  refine ⟨_, _, hflush, ?_⟩
  cases flushTo_effect hinv hpre hflush with
  | settled _ _ _ inv => exact inv

end FileWal

open FileWal

namespace FileWalCall

def onMemory (w : InMemoryWal) : FileWalCall → Result Lsn × InMemoryWal
  | append record _ => w.settle (w.append record)
  | appendPayload kind transactionId payload _ =>
    w.settle (w.appendPayload kind transactionId payload)
  | flushThrough lsn => w.flushThrough lsn .done
  | flushAll => w.flushAll

def memoryAfter (calls : List FileWalCall) : InMemoryWal :=
  calls.foldl (fun w call => (call.onMemory w).2) .new

def onFile (p : FileWalProcess) (call : FileWalCall) :
    Except (Interrupt Error) Lsn × FileWalProcess :=
  call.exec ⟨p.wal, ⟨p.disk.file, []⟩⟩

def fileAfter (calls : List FileWalCall) : FileWalProcess :=
  calls.foldl (fun p call => (call.onFile p).2) newProcess

/-! ## One call on both -/

/-- Both accept with the same LSN, or both reject. -/
inductive SameAnswer : Except (Interrupt Error) Lsn → Result Lsn → Prop
  | accepted (lsn : Lsn) : SameAnswer (.ok lsn) (.ok lsn)
  | rejected (e e' : Error) : SameAnswer (.error (.failed e)) (.error e')

structure Alike (p : FileWalProcess) (w : InMemoryWal) : Prop where
  inv : ∃ current, FileWalInv p [] current
  separation : p.wal.flushSeparation = .p0Durable
  records : p.wal.records = w.records
  durableLsn : p.wal.durableLsn = w.durableLsn
  reached : w.durableLsn ≤ lastLsnOf w.records

structure StepsAlike (w : InMemoryWal) (x : Except (Interrupt Error) Lsn × FileWalProcess)
    (y : Result Lsn × InMemoryWal) : Prop where
  answer : SameAnswer x.1 y.1
  alike : Alike x.2 y.2
  durable : w.durableLsn ≤ y.2.durableLsn

variable {p : FileWalProcess} {w : InMemoryWal} {r : WalRecord} {lsn : Lsn}

theorem Alike.undisturbed (h : Alike p w) : Alike ⟨p.wal, ⟨p.disk.file, []⟩⟩ w := by
  obtain ⟨current, hinv⟩ := h.inv
  exact { h with
    inv := ⟨current, hinv.log, hinv.appendBytes, hinv.boundaries, hinv.signal, hinv.onDisk⟩ }

theorem Alike.idle (h : Alike p w) {x : Except (Interrupt Error) Lsn} {y : Result Lsn}
    (hanswer : SameAnswer x y) : StepsAlike w (x, p) (y, w) :=
  ⟨hanswer, h, UInt64.le_refl _⟩

theorem append_alike (h : Alike p w) (hp : p.disk.outcomes = [])
    (hlength : r.payload.length < UInt64.size)
    (hroom : (encodedAll (w.settle (w.append r)).2.records).length ≤ maxBodyLen) :
    StepsAlike w (FileWal.append r p) (w.settle (w.append r)) := by
  obtain ⟨wal, file, outcomes⟩ := p
  obtain rfl : outcomes = [] := hp
  obtain ⟨current, hinv⟩ := h.inv
  have hlast : wal.lastLsn = w.lastLsn := congrArg tailLsn h.records
  by_cases haccept : r.Valid ∧ r.header.payloadLength ≤ walRecordSizeLimit ∧ r.Extends w.lastLsn
  · have hmemory : w.append r = .ok (r.lsn, { w with records := w.records ++ [r] }) := by
      rw [InMemoryWal.append, validateAppendRecord_eq_ok (u := ()).mpr haccept]
      rfl
    rw [hmemory] at hroom ⊢
    have hrecords : wal.records ++ [r] = w.records ++ [r] := congrArg (· ++ [r]) h.records
    obtain ⟨appendBytes, disk, hfile⟩ := append_undisturbed hinv
      (fits_of_size haccept.1 haccept.2.1 hlength) (by rw [hlast]; exact haccept)
      (by rw [hrecords]; exact hroom)
    have hinv' := (append_inv hinv hlength hfile).1
    rw [hfile]
    refine ⟨.accepted r.lsn, ⟨⟨current, hinv'⟩, h.separation, hrecords, h.durableLsn, ?_⟩,
      UInt64.le_refl _⟩
    have hchained : Chained none (w.records ++ [r]) := by
      rw [← hrecords]
      exact hinv'.log.chained
    have hgrows : lastLsnOf w.records ≤ lastLsnOf (w.records ++ [r]) := by
      rw [UInt64.le_iff_toNat_le, hchained.left.toNat_lastLsnOf, hchained.toNat_lastLsnOf,
        length_append]
      exact Nat.le_add_right _ _
    exact UInt64.le_trans h.reached hgrows
  · have hreject : ∀ m₁ m₂, ∃ e, validateAppendRecord r w.lastLsn m₁ m₂ = .error e := by
      intro m₁ m₂
      cases hv : validateAppendRecord r w.lastLsn m₁ m₂ with
      | error e => exact ⟨e, rfl⟩
      | ok u => exact absurd (validateAppendRecord_eq_ok.mp hv) haccept
    obtain ⟨e, hfile⟩ := hreject "file WAL record must equal the next append LSN"
      "file WAL record previous LSN must chain to the append tail"
    obtain ⟨e', hmemory⟩ := hreject "WAL record LSN must equal the next append LSN"
      "WAL record previous LSN must chain to the append tail"
    rw [FileWal.append, get_bind, hlast, hfile, InMemoryWal.append, hmemory]
    exact h.idle (.rejected e e')

theorem flushTarget_alike (h : Alike p w) (lsn : Lsn) (m₁ m₂ : String) :
    (∃ e e', p.wal.flushTarget lsn = .error e ∧
        validateFlushTarget lsn w.durableLsn w.lastLsn m₁ m₂ = .error e') ∨
      ∃ target, p.wal.flushTarget lsn = .ok target ∧
        validateFlushTarget lsn w.durableLsn w.lastLsn m₁ m₂ = .ok target := by
  have hlast : p.wal.lastLsn = w.lastLsn := congrArg tailLsn h.records
  have hseparation : WalQueueSeparationEvidence.p0Durable.validate = .ok () := rfl
  rw [flushTarget, h.separation, hseparation, ok_bind, h.durableLsn, hlast]
  unfold validateFlushTarget
  split_ifs
  · exact .inr ⟨none, rfl, rfl⟩
  · cases w.lastLsn with
    | none => exact .inl ⟨_, _, rfl, rfl⟩
    | some last =>
      dsimp only
      split_ifs
      · exact .inl ⟨_, _, rfl, rfl⟩
      · exact .inr ⟨some lsn, rfl, rfl⟩

theorem flushThrough_alike (h : Alike p w) (hp : p.disk.outcomes = []) (lsn : Lsn) :
    StepsAlike w (FileWal.flushThrough lsn p) (w.flushThrough lsn .done) := by
  obtain ⟨wal, file, outcomes⟩ := p
  obtain rfl : outcomes = [] := hp
  obtain ⟨current, hinv⟩ := h.inv
  rw [FileWal.flushThrough, get_bind, InMemoryWal.flushThrough]
  rcases flushTarget_alike h lsn "cannot flush WAL before records are appended"
      "cannot flush WAL beyond the last appended LSN" with
    ⟨e, e', hfile, hmemory⟩ | ⟨target, hfile, hmemory⟩
  · rw [hfile, hmemory]
    exact h.idle (.rejected e e')
  rw [checked_ok_bind hfile, hmemory]
  cases target with
  | none =>
    dsimp only
    rw [← h.durableLsn]
    exact h.idle (.accepted _)
  | some target =>
    obtain ⟨rfl, hne, hlt, last, hlast, hle⟩ := validateFlushTarget_eq_some.mp hmemory
    have hreach : target ≤ lastLsnOf w.records := by
      rw [lastLsnOf, ← InMemoryWal.lastLsn, hlast]
      exact hle
    obtain ⟨before, r, hpre, rfl⟩ := hinv.log.chained.exists_prefix hne (by
      rw [h.records]
      exact hreach)
    obtain ⟨durableBytes, disk, hflush, hinv'⟩ := flushTo_undisturbed hinv hpre
    dsimp only
    rw [hflush]
    exact ⟨.accepted _, ⟨⟨_, hinv'⟩, h.separation, h.records, rfl, hreach⟩, UInt64.le_of_lt hlt⟩

theorem onMemory_cases (w : InMemoryWal) (call : FileWalCall) :
    (call.onMemory w).2.records = w.records ∧
        (call.isFlush = true ∨ ∃ e, (call.onMemory w).1 = .error e) ∨
      ∃ r : WalRecord, call.isFlush = false ∧ (call.onMemory w).1 = .ok r.lsn ∧
        (call.onMemory w).2.records = w.records ++ [r] := by
  have hflush (lsn : Lsn) : (w.flushThrough lsn .done).2.records = w.records := by
    rw [InMemoryWal.flushThrough]
    split <;> rfl
  have happend (r : WalRecord) : (∃ e, w.append r = .error e) ∨
      w.append r = .ok (r.lsn, { w with records := w.records ++ [r] }) := by
    rw [InMemoryWal.append]
    cases validateAppendRecord r w.lastLsn "WAL record LSN must equal the next append LSN"
        "WAL record previous LSN must chain to the append tail" with
    | error e => exact .inl ⟨e, rfl⟩
    | ok u => exact .inr rfl
  cases call with
  | append record =>
    rcases happend record with ⟨e, herror⟩ | hok
    · exact .inl ⟨by rw [onMemory, herror]; rfl, .inr ⟨e, by rw [onMemory, herror]; rfl⟩⟩
    · exact .inr ⟨record, rfl, by rw [onMemory, hok]; rfl, by rw [onMemory, hok]; rfl⟩
  | appendPayload kind transactionId payload =>
    rw [onMemory, InMemoryWal.appendPayload]
    cases payloadRecord kind w.lastLsn transactionId payload with
    | error e => exact .inl ⟨rfl, .inr ⟨e, rfl⟩⟩
    | ok record =>
      rw [ok_bind]
      rcases happend record with ⟨e, herror⟩ | hok
      · rw [herror]
        exact .inl ⟨rfl, .inr ⟨e, rfl⟩⟩
      · rw [hok]
        exact .inr ⟨record, rfl, rfl, rfl⟩
  | flushThrough lsn => exact .inl ⟨hflush lsn, .inl rfl⟩
  | flushAll =>
    refine .inl ⟨?_, .inl rfl⟩
    rw [onMemory, InMemoryWal.flushAll]
    split
    · exact hflush _
    · rfl

theorem onMemory_records (w : InMemoryWal) (call : FileWalCall) :
    w.records <+: (call.onMemory w).2.records := by
  rcases onMemory_cases w call with ⟨hrecords, -⟩ | ⟨r, -, -, hrecords⟩
  · exact ⟨[], by rw [hrecords, append_nil]⟩
  · exact ⟨[r], hrecords.symm⟩

theorem exec_alike (h : Alike p w) (call : FileWalCall)
    (hroom : (encodedAll (call.onMemory w).2.records).length ≤ maxBodyLen) :
    StepsAlike w (call.onFile p) (call.onMemory w) := by
  have h' := h.undisturbed
  cases call with
  | append record fits => exact append_alike h' rfl fits hroom
  | appendPayload kind transactionId payload fits =>
    have hlast : p.wal.lastLsn = w.lastLsn := congrArg tailLsn h.records
    rw [onMemory, InMemoryWal.appendPayload] at hroom ⊢
    rw [onFile, exec, FileWal.appendPayload, get_bind, hlast]
    cases hrecord : payloadRecord kind w.lastLsn transactionId payload with
    | error e => exact h'.idle (.rejected e e)
    | ok record =>
      have hpayload := (payloadRecord_extends hrecord).2.2.2.2
      rw [hrecord, ok_bind] at hroom
      exact append_alike h' rfl (by rw [hpayload]; exact fits) hroom
  | flushThrough lsn => exact flushThrough_alike h' rfl lsn
  | flushAll =>
    have hlast : p.wal.lastLsn = w.lastLsn := congrArg tailLsn h.records
    rw [onFile, exec, FileWal.flushAll, get_bind, onMemory, InMemoryWal.flushAll, hlast]
    cases w.lastLsn with
    | none =>
      dsimp only
      rw [← h.durableLsn]
      exact h'.idle (.accepted _)
    | some last => exact flushThrough_alike h' rfl last

theorem memoryAfter_concat (calls : List FileWalCall) (call : FileWalCall) :
    memoryAfter (calls ++ [call]) = (call.onMemory (memoryAfter calls)).2 :=
  foldl_concat _ _ _ _

theorem alike_after {calls : List FileWalCall}
    (hroom : (encodedAll (memoryAfter calls).records).length ≤ maxBodyLen) :
    Alike (fileAfter calls) (memoryAfter calls) := by
  induction calls using List.reverseRecOn with
  | nil => exact ⟨⟨_, (openFile_inv openFile_newDisk).1⟩, rfl, rfl, rfl, UInt64.le_refl 0⟩
  | append_singleton calls call ih =>
    have hfile : fileAfter (calls ++ [call]) = (call.onFile (fileAfter calls)).2 :=
      foldl_concat _ _ _ _
    rw [memoryAfter_concat] at hroom ⊢
    rw [hfile]
    have hbefore := (encodedAll_isPrefix (onMemory_records (memoryAfter calls) call)).length_le
    exact (exec_alike (ih (hbefore.trans hroom)) call hroom).alike

theorem lsns_of_chained {records : List WalRecord} (h : Chained none records) :
    records.map (fun r => r.lsn.toNat) = List.range' 1 records.length := by
  induction records using List.reverseRecOn with
  | nil => rfl
  | append_singleton records r ih =>
    have hlast := h.toNat_lastLsnOf
    rw [lastLsnOf, tailLsn_concat, Option.getD_some, length_append] at hlast
    rw [map_append, ih h.left, length_append, length_singleton, range'_concat,
      map_singleton, hlast, Nat.add_comm, Nat.one_mul, length_singleton]

/-- After any calls and for any next call, while the file is below the largest file size. -/
theorem file_log_agrees_with_memory_log (calls : List FileWalCall) (call : FileWalCall)
    (hroom : (encodedAll (memoryAfter (calls ++ [call])).records).length ≤ maxBodyLen) :
    SameAnswer (call.onFile (fileAfter calls)).1 (call.onMemory (memoryAfter calls)).1 ∧
      (fileAfter (calls ++ [call])).wal.records = (memoryAfter (calls ++ [call])).records ∧
      (fileAfter (calls ++ [call])).wal.durableLsn = (memoryAfter (calls ++ [call])).durableLsn ∧
      (memoryAfter (calls ++ [call])).records.map (fun r => r.lsn.toNat) =
        List.range' 1 (memoryAfter (calls ++ [call])).records.length ∧
      (∀ lsn, call.isFlush = false → (call.onMemory (memoryAfter calls)).1 = .ok lsn →
        ∃ r, r.lsn = lsn ∧
          (memoryAfter (calls ++ [call])).records = (memoryAfter calls).records ++ [r]) ∧
      (memoryAfter calls).durableLsn ≤ (memoryAfter (calls ++ [call])).durableLsn ∧
      (memoryAfter (calls ++ [call])).durableLsn ≤
        lastLsnOf (memoryAfter (calls ++ [call])).records := by
  have halike := alike_after hroom
  rw [memoryAfter_concat] at hroom
  have hbefore := (encodedAll_isPrefix (onMemory_records (memoryAfter calls) call)).length_le
  have hstep := exec_alike (alike_after (hbefore.trans hroom)) call hroom
  obtain ⟨current, hinv⟩ := halike.inv
  have hchained : Chained none (memoryAfter (calls ++ [call])).records := by
    rw [← halike.records]
    exact hinv.log.chained
  refine ⟨hstep.answer, halike.records, halike.durableLsn, lsns_of_chained hchained, ?_, ?_,
    halike.reached⟩
  · intro lsn hcall hanswer
    rw [memoryAfter_concat]
    rcases onMemory_cases (memoryAfter calls) call with ⟨-, hflush | ⟨e, herror⟩⟩ |
      ⟨r, -, hok, hrecords⟩
    · rw [hcall] at hflush
      cases hflush
    · rw [herror] at hanswer
      cases hanswer
    · exact ⟨r, Except.ok.inj (hok.symm.trans hanswer), hrecords⟩
  · rw [memoryAfter_concat]
    exact hstep.durable

/-- A transaction begins, the log is flushed, and a flush beyond its end is rejected. -/
theorem begin_flush_beyond_agree : ∃ (calls : List FileWalCall) (call : FileWalCall),
      (memoryAfter (calls ++ [call])).durableLsn = 1 ∧
        SameAnswer (call.onFile (fileAfter calls)).1 (call.onMemory (memoryAfter calls)).1 := by
  let calls : List FileWalCall := [.appendPayload .txBegin (some 1) [] (by decide), .flushAll]
  have hroom : (encodedAll (memoryAfter (calls ++ [.flushThrough 2])).records).length ≤
      maxBodyLen := by
    decide +kernel
  exact ⟨calls, .flushThrough 2, by decide +kernel,
    (file_log_agrees_with_memory_log calls (.flushThrough 2) hroom).1⟩

end FileWalCall

end Andromeda
