import Andromeda.Wal.FileWalLayout

/-!
# What one call does to a log file

`FileWalInv` ties a running log to its file. Appending keeps it whatever the
file operations do. A flush has four ends: nothing synced, records synced but the
header not written, header written but not synced, and all done; `FlushEffect`
lists them with the headers each one leaves on the device.
-/

namespace Andromeda

open Fallible Effect Disk

/-- The log value and its file agree. `older` and `current` are the prefixes named
by the headers that the device may hold. -/
structure FileWalInv (p : FileWalProcess) (older : List (List WalRecord))
    (current : List WalRecord) : Prop where
  log : ValidLog p.wal.records
  appendBytes : p.wal.appendBytes.toNat = (encodedAll p.wal.records).length
  boundaries : p.wal.recordBoundaries = boundariesOf 0 p.wal.records
  signal : p.wal.sharedDurableLsn = p.wal.durableLsn
  onDisk : OnDisk p.disk.file p.wal.records older current

namespace FileWal

section Sequencing

variable {σ α β : Type} {x : Result α}
  {result : Except (Interrupt Error) β}

variable {f : α → Effect σ (Interrupt Error) β}

theorem checked_bind_cases {s t : σ} (h : (checked x >>= f) s = (result, t)) :
    (∃ e, x = .error e ∧ result = .error (.failed e) ∧ t = s) ∨
      ∃ a, x = .ok a ∧ f a s = (result, t) := by
  cases x with
  | error e =>
    cases h
    exact .inl ⟨e, rfl, rfl, rfl⟩
  | ok a => exact .inr ⟨a, rfl, h⟩

theorem checked_bind_ok {s t : σ} {b : β} (h : (checked x >>= f) s = (.ok b, t)) :
    ∃ a, x = .ok a ∧ f a s = (.ok b, t) := by
  rcases checked_bind_cases h with ⟨_, -, herror, -⟩ | hok
  · cases herror
  · exact hok

theorem checked_ok_bind {a : α} (hx : x = .ok a) (f : α → Effect σ (Interrupt Error) β) (s : σ) :
    (checked x >>= f) s = f a s := by
  rw [hx]
  rfl

theorem onDisk_bind_cases {x : Effect Disk (Interrupt Error) α}
    {f : α → Effect FileWalProcess (Interrupt Error) β} {p p' : FileWalProcess}
    (h : (onDisk x >>= f) p = (result, p')) :
    (∃ e d, x p.disk = (.error e, d) ∧ result = .error e ∧ p' = ⟨p.wal, d⟩) ∨
      ∃ a d, x p.disk = (.ok a, d) ∧ f a ⟨p.wal, d⟩ = (result, p') := by
  rcases hx : x p.disk with ⟨_ | a, d⟩
  · rw [bind_apply, onDisk, hx] at h
    cases h
    exact .inl ⟨_, d, rfl, rfl, rfl⟩
  · rw [bind_apply, onDisk, hx] at h
    exact .inr ⟨a, d, rfl, h⟩

end Sequencing

section Append

variable {p p' : FileWalProcess} {older : List (List WalRecord)} {current : List WalRecord}
  {r : WalRecord} {result : Except (Interrupt Error) Lsn}

def Appended (p p' : FileWalProcess) : Prop :=
  p'.disk.file = p.disk.file ∨
    ∃ bytes, p'.disk.file = p.disk.file.writeBody p.wal.appendBytes.toNat bytes

theorem writeBody_cases {bytes : Bytes} {d d' : Disk} {off : Nat}
    {result : Except (Interrupt Error) Unit} {describe : String → Error}
    (h : writeBody maxBodyLen off bytes describe d = (result, d')) :
    (off + bytes.length ≤ maxBodyLen ∧ result = .ok () ∧ d'.file = d.file.writeBody off bytes) ∨
      ∃ e, result = .error e ∧
        (d'.file = d.file ∨ ∃ part, d'.file = d.file.writeBody off part) := by
  unfold writeBody at h
  split_ifs at h with hlimit
  · rcases io_cases h with ⟨-, rfl, rfl⟩ | ⟨-, e, written, rfl, -, rfl⟩
    · exact .inl ⟨hlimit, rfl, rfl⟩
    · exact .inr ⟨e, rfl, .inr ⟨_, rfl⟩⟩
  · cases h
    exact .inr ⟨_, rfl, .inl rfl⟩

theorem append_cases (h : append r p = (result, p')) :
    (∃ e, result = .error e ∧ p'.wal = p.wal ∧ Appended p p') ∨
      ∃ encoded appendBytes, result = .ok r.lsn ∧
        validateAppendRecord r p.wal.lastLsn "file WAL record must equal the next append LSN"
          "file WAL record previous LSN must chain to the append tail" = .ok () ∧
        encodeWalRecord r = .ok encoded ∧ p.wal.appendBytes.toNat + encoded.length ≤ maxBodyLen ∧
        checkedAdd p.wal.appendBytes (UInt64.ofNat encoded.length) = some appendBytes ∧
        p'.wal = p.wal.push r appendBytes ∧
        p'.disk.file = p.disk.file.writeBody p.wal.appendBytes.toNat encoded := by
  unfold append at h
  rw [get_bind] at h
  rcases checked_bind_cases h with ⟨e, -, rfl, rfl⟩ | ⟨⟨⟩, hvalidate, h⟩
  · exact .inl ⟨_, rfl, rfl, .inl rfl⟩
  rcases checked_bind_cases h with ⟨e, -, rfl, rfl⟩ | ⟨encoded, hencoded, h⟩
  · exact .inl ⟨_, rfl, rfl, .inl rfl⟩
  rcases checked_bind_cases h with ⟨e, -, rfl, rfl⟩ | ⟨offset, -, h⟩
  · exact .inl ⟨_, rfl, rfl, .inl rfl⟩
  rcases onDisk_bind_cases h with ⟨e, d, hseek, rfl, rfl⟩ | ⟨⟨⟩, d, hseek, h⟩
  · obtain ⟨-, -, _, rfl⟩ := io_error hseek
    exact .inl ⟨_, rfl, rfl, .inl rfl⟩
  have hd : d.file = p.disk.file := by
    obtain ⟨-, rfl⟩ := io_ok hseek
    rfl
  rcases onDisk_bind_cases h with ⟨e, d', hwrite, rfl, rfl⟩ | ⟨⟨⟩, d', hwrite, h⟩
  · rcases writeBody_cases hwrite with ⟨-, hok, -⟩ | ⟨_, -, hfile⟩
    · cases hok
    · rw [hd] at hfile
      exact .inl ⟨_, rfl, rfl, hfile⟩
  rcases writeBody_cases hwrite with ⟨hlimit, -, hfile⟩ | ⟨_, herror, -⟩
  · rw [hd] at hfile
    rcases checked_bind_cases h with ⟨e, -, rfl, rfl⟩ | ⟨appendBytes, hadd, h⟩
    · exact .inl ⟨_, rfl, rfl, .inr ⟨encoded, hfile⟩⟩
    · rw [orError_eq_ok] at hadd
      cases h
      exact .inr ⟨encoded, appendBytes, rfl, hvalidate, hencoded, hlimit, hadd, rfl, hfile⟩
  · cases herror

inductive AppendEffect (p : FileWalProcess) (r : WalRecord) :
    Except (Interrupt Error) Lsn → FileWalProcess → Prop
  | rejected {e : Interrupt Error} {p' : FileWalProcess} (wal : p'.wal = p.wal) :
      AppendEffect p r (.error e) p'
  | appended {p' : FileWalProcess} (records : p'.wal.records = p.wal.records ++ [r])
      (durableLsn : p'.wal.durableLsn = p.wal.durableLsn) : AppendEffect p r (.ok r.lsn) p'

theorem fits_of_size (hvalid : r.Valid) (hsize : r.header.payloadLength ≤ walRecordSizeLimit)
    (hlength : r.payload.length < UInt64.size) : r.Fits := by
  have hbound := UInt64.le_iff_toNat_le.mp hsize
  rw [hvalid.length, UInt64.toNat_ofNat_of_lt' hlength] at hbound
  have hlimit : walRecordSizeLimit.toNat = 1048576 := rfl
  unfold WalRecord.Fits walRecordHeaderLen
  simp only [UInt64.size]
  omega

/-- Appending keeps the log and its file in step, however it ends. -/
theorem append_inv (hinv : FileWalInv p older current) (hlength : r.payload.length < UInt64.size)
    (h : append r p = (result, p')) : FileWalInv p' older current ∧ AppendEffect p r result p' := by
  rcases append_cases h with ⟨e, rfl, hwal, hfile⟩ |
    ⟨encoded, appendBytes, rfl, hvalidate, hencoded, hlimit, hadd, hwal, hfile⟩
  · have honDisk : OnDisk p'.disk.file p.wal.records older current := by
      rcases hfile with hfile | ⟨bytes, hfile⟩
      · rw [hfile]
        exact hinv.onDisk
      · rw [hfile, hinv.appendBytes]
        obtain ⟨hhead, hheads, hbody, hstable, hdurable⟩ := hinv.onDisk
        exact ⟨hhead, hheads, (List.prefix_append _ _).trans (TornFile.prefix_writeBody hbody bytes),
          TornFile.stable_writeBody_le hstable _ _, hinv.onDisk.durable_le_writeBody bytes⟩
    refine ⟨⟨?_, ?_, ?_, ?_, ?_⟩, .rejected hwal⟩
    all_goals rw [hwal]
    · exact hinv.log
    · exact hinv.appendBytes
    · exact hinv.boundaries
    · exact hinv.signal
    · exact honDisk
  · obtain ⟨hvalid, hsize, hextends⟩ := validateAppendRecord_eq_ok.mp hvalidate
    have hfits := fits_of_size hvalid hsize hlength
    rw [WalRecord.encodeWalRecord_eq hvalid hfits, Except.ok.injEq] at hencoded
    subst hencoded
    rw [hinv.appendBytes] at hlimit hfile
    have hrecords : p'.wal.records = p.wal.records ++ [r] := by
      rw [hwal]
      rfl
    have htotal : (encodedAll (p.wal.records ++ [r])).length =
        (encodedAll p.wal.records).length + r.encoded.length := by
      rw [encodedAll_append, encodedAll_singleton, List.length_append]
    have hfit : fileWalHeaderLen + ((encodedAll p.wal.records).length + r.encoded.length) <
        UInt64.size := by
      simp only [maxBodyLen, fileWalHeaderLen, UInt64.size] at hlimit ⊢
      omega
    have happend : appendBytes.toNat = (encodedAll (p.wal.records ++ [r])).length := by
      rw [checkedAdd_eq_some.mp hadd, hinv.appendBytes, htotal,
        UInt64.toNat_ofNat_of_lt' (by omega : r.encoded.length < UInt64.size)]
    have hboundary : appendBytes =
        UInt64.ofNat ((encodedAll p.wal.records).length + r.encoded.length) := by
      rw [← UInt64.toNat_inj, happend, htotal, UInt64.toNat_ofNat_of_lt' (by omega)]
    refine ⟨⟨?_, ?_, ?_, ?_, ?_⟩, .appended hrecords (by rw [hwal]; rfl)⟩
    · rw [hrecords]
      refine ⟨List.forall_mem_append.mpr ⟨hinv.log.valid, by simp [hvalid, hfits]⟩,
        chained_concat.mpr ⟨hinv.log.chained, hextends⟩, ?_⟩
      rwa [encodedAll_append, encodedAll_singleton, List.length_append]
    · rw [hrecords, ← happend, hwal]
      rfl
    · rw [hrecords, boundariesOf_append, hwal]
      show p.wal.recordBoundaries ++ [⟨r.lsn, appendBytes⟩] = _
      rw [hinv.boundaries, hboundary, Nat.zero_add]
      rfl
    · rw [hwal]
      exact hinv.signal
    · rw [hrecords, hfile]
      exact hinv.onDisk.writeBody_record r

end Append

variable {durable : List WalRecord}

theorem writeFileWalHeader_cases {d d' : Disk} {result : Except (Interrupt Error) Unit}
    (hlog : ValidLog durable)
    (h : writeFileWalHeader (durableHeader durable) d = (result, d')) :
    (d.Done 2 ∧ result = .ok () ∧ d' = ⟨d.file.writeHead (headImage durable), d.outcomes.drop 2⟩) ∨
      (¬ d.Done 2 ∧ ∃ e, result = .error e ∧ (e = .crashed ∨ d.Fails) ∧
        (d'.file = d.file ∨ d'.file = d.file.writeHead (headImage durable))) := by
  have htwo : d.Done 2 ↔ d.Done 1 ∧ Disk.Done ⟨d.file, d.outcomes.drop 1⟩ 1 :=
    done_add (m := 1) (n := 1) d.file
  unfold writeFileWalHeader at h
  rw [checked_ok_bind hlog.header_validate, ← headImage] at h
  rcases bind_cases h with ⟨e, hseek, rfl⟩ | ⟨⟨⟩, d₁, hseek, hwrite⟩
  · obtain ⟨hnot, hwhy, _, rfl⟩ := io_error hseek
    exact .inr ⟨fun hdone => hnot (htwo.mp hdone).1, e, rfl, hwhy, .inl rfl⟩
  obtain ⟨hone, rfl⟩ := io_ok hseek
  rcases io_cases hwrite with ⟨hdone, rfl, rfl⟩ | ⟨hnot, e, written, rfl, hwhy, rfl⟩
  · refine .inl ⟨htwo.mpr ⟨hone, hdone⟩, rfl, ?_⟩
    rw [List.drop_drop]
    rfl
  · refine .inr ⟨fun hdone => hnot (htwo.mp hdone).2, e, rfl, hwhy.imp_right .of_drop, ?_⟩
    by_cases hlanded : (headImage durable).length ≤ written
    · exact .inr (if_pos hlanded)
    · exact .inl (if_neg hlanded)

theorem writeFileWalHeader_undisturbed (hlog : ValidLog durable) (file : TornFile) :
    writeFileWalHeader (durableHeader durable) ⟨file, []⟩ =
      (.ok (), ⟨file.writeHead (headImage durable), []⟩) := by
  rw [writeFileWalHeader, checked_ok_bind hlog.header_validate]
  rfl

/-- The ends of a flush towards `target`, the LSN that ends `durable`. -/
inductive FlushEffect (p : FileWalProcess) (older : List (List WalRecord))
    (current : List WalRecord) (target : Lsn) (durable : List WalRecord) :
    Except (Interrupt Error) Lsn → FileWalProcess → Prop
  /-- The records were not synced. -/
  | unsynced {e : Interrupt Error} {p' : FileWalProcess} (outcomes : ¬ p.disk.Done 1)
      (wal : p'.wal = p.wal) (inv : FileWalInv p' older current) :
      FlushEffect p older current target durable (.error e) p'
  /-- The LSN is published, the header is the one from before. -/
  | unrecorded {e : Interrupt Error} {p' : FileWalProcess} (synced : p.disk.Done 1)
      (outcomes : ¬ p.disk.Done 4) (why : e = .crashed ∨ p.disk.Fails)
      (records : p'.wal.records = p.wal.records) (published : p'.wal.durableLsn = target)
      (inv : FileWalInv p' [] current) :
      FlushEffect p older current target durable (.error e) p'
  /-- The LSN is published, the new header is written but not synced. -/
  | unsettled {e : Interrupt Error} {p' : FileWalProcess} (synced : p.disk.Done 1)
      (outcomes : ¬ p.disk.Done 4) (why : e = .crashed ∨ p.disk.Fails)
      (records : p'.wal.records = p.wal.records) (published : p'.wal.durableLsn = target)
      (inv : FileWalInv p' [current] durable) :
      FlushEffect p older current target durable (.error e) p'
  | settled {p' : FileWalProcess} (outcomes : p.disk.Done 4)
      (records : p'.wal.records = p.wal.records) (published : p'.wal.durableLsn = target)
      (inv : FileWalInv p' [] durable) :
      FlushEffect p older current target durable (.ok target) p'

section Flush

variable {p p' : FileWalProcess} {older : List (List WalRecord)} {current : List WalRecord}
  {result : Except (Interrupt Error) Lsn}

/-- The ends of the part of a flush that does the work. -/
theorem flushTo_effect {before : List WalRecord} {r : WalRecord}
    (hinv : FileWalInv p older current) (hpre : before ++ [r] <+: p.wal.records)
    (h : flushTo r.lsn p = (result, p')) :
    FlushEffect p older current r.lsn (before ++ [r]) result p' := by
  have hlast : lastLsnOf (before ++ [r]) = r.lsn := by
    rw [lastLsnOf, tailLsn_concat, Option.getD_some]
  have hlog : ValidLog (before ++ [r]) := hinv.log.of_isPrefix hpre
  have hfour : p.disk.Done 4 ↔ p.disk.Done 1 ∧
      Disk.Done ⟨p.disk.file.sync, p.disk.outcomes.drop 1⟩ 3 :=
    done_add (m := 1) (n := 3) _
  have hthree (file : TornFile) : Disk.Done ⟨p.disk.file.sync, p.disk.outcomes.drop 1⟩ 3 ↔
      Disk.Done ⟨p.disk.file.sync, p.disk.outcomes.drop 1⟩ 2 ∧
        Disk.Done ⟨file, (p.disk.outcomes.drop 1).drop 2⟩ 1 :=
    done_add (m := 2) (n := 1) _
  have hsynced := hinv.onDisk.sync
  unfold flushTo at h
  rw [get_bind, checked_ok_bind (flushBoundary_eq hinv.log hinv.boundaries hpre)] at h
  simp only [durableHeader_concat] at h
  rcases onDisk_bind_cases h with ⟨e, d, hsync, rfl, rfl⟩ | ⟨⟨⟩, d, hsync, h⟩
  · obtain ⟨hnot, -, _, rfl⟩ := io_error hsync
    exact .unsynced hnot rfl ⟨hinv.log, hinv.appendBytes, hinv.boundaries, hinv.signal, hinv.onDisk⟩
  obtain ⟨hone, rfl⟩ := io_ok hsync
  -- the records are synced; from here on the LSN is published
  rw [modify_bind] at h
  have hwritten := hsynced.writeHead hpre ((encodedAll_isPrefix hpre).trans hinv.onDisk.body).length_le
  have hpublish {d : Disk} {older : List (List WalRecord)} {current : List WalRecord}
      (honDisk : OnDisk d.file p.wal.records older current) :
      FileWalInv ⟨p.wal.publish r.lsn (.ofNat (encodedAll (before ++ [r])).length), d⟩ older
        current :=
    ⟨hinv.log, hinv.appendBytes, hinv.boundaries, rfl, honDisk⟩
  rcases onDisk_bind_cases h with ⟨e, d, hwrite, rfl, rfl⟩ | ⟨⟨⟩, d, hwrite, h⟩
  · rcases writeFileWalHeader_cases hlog hwrite with ⟨-, hok, -⟩ | ⟨hnot, _, herror, hwhy, hfile⟩
    · cases hok
    · cases herror
      have hnot' : ¬ p.disk.Done 4 := fun hdone =>
        hnot ((hthree p.disk.file).mp (hfour.mp hdone).2).1
      rcases hfile with hfile | hfile
      · have honDisk : OnDisk d.file p.wal.records [] current := by
          rw [hfile]
          exact hsynced
        exact .unrecorded hone hnot' (hwhy.imp_right .of_drop) rfl rfl (hpublish honDisk)
      · have honDisk : OnDisk d.file p.wal.records [current] (before ++ [r]) := by
          rw [hfile]
          exact hwritten
        exact .unsettled hone hnot' (hwhy.imp_right .of_drop) rfl rfl (hpublish honDisk)
  rcases writeFileWalHeader_cases hlog hwrite with ⟨htwo, -, rfl⟩ | ⟨-, _, herror, -⟩
  swap
  · cases herror
  rcases onDisk_bind_cases h with ⟨e, d, hsync, rfl, rfl⟩ | ⟨⟨⟩, d, hsync, h⟩
  · obtain ⟨hnot, hwhy, _, rfl⟩ := io_error hsync
    have hnot' : ¬ p.disk.Done 4 := fun hdone => hnot ((hthree _).mp (hfour.mp hdone).2).2
    exact .unsettled hone hnot' (hwhy.imp_right fun hfails => hfails.of_drop.of_drop) rfl rfl
      (hpublish hwritten)
  · obtain ⟨hdone, rfl⟩ := io_ok hsync
    cases h
    exact .settled (hfour.mpr ⟨hone, (hthree _).mpr ⟨htwo, hdone⟩⟩) rfl rfl (hpublish hwritten.sync)

end Flush

end FileWal

end Andromeda
