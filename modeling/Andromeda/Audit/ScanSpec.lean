import Andromeda.Audit.JournalScan

/-!
# What the scan accepts

`Reads` lists the records that lines hold, `Accepts` adds the delimited tail and the anchor. A
scan succeeds exactly on what `Accepts` describes, and its result is a function of the records.
-/

namespace Andromeda.Audit

open Fallible AsciiText DurableAuditReplayWindow DurableAuditJournalRecord List ScanState
open Catalog (strBytes)

/-- The records that lines hold, behind a line with the given chain checksum and LSN. -/
inductive Reads : UInt64 → UInt64 → List Bytes → List DurableAuditJournalRecord → Prop
  | nil (chain lsn : UInt64) : Reads chain lsn [] []
  | cons {chain lsn : UInt64} {line : Bytes} {rest : List Bytes}
      {parsed : DurableAuditJournalRecord} {parsedRest : List DurableAuditJournalRecord}
      (hutf8 : IsUtf8 line) (hparse : parseJournalLine line chain = .ok parsed)
      (hlsn : lsn < parsed.record.lsn)
      (hrest : Reads parsed.chainChecksum parsed.record.lsn rest parsedRest) :
      Reads chain lsn (line :: rest) (parsed :: parsedRest)

def tailChain (chain : UInt64) (parsed : List DurableAuditJournalRecord) : UInt64 :=
  (parsed.getLast?.map chainChecksum).getD chain

def tailLsn (lsn : UInt64) (parsed : List DurableAuditJournalRecord) : UInt64 :=
  (parsed.getLast?.map fun entry => entry.record.lsn).getD lsn

@[simp] theorem tailChain_cons (chain : UInt64) (entry : DurableAuditJournalRecord)
    (parsed : List DurableAuditJournalRecord) :
    tailChain chain (entry :: parsed) = tailChain entry.chainChecksum parsed := by
  cases parsed <;> simp [tailChain, List.getLast?_cons]

@[simp] theorem tailLsn_cons (lsn : UInt64) (entry : DurableAuditJournalRecord)
    (parsed : List DurableAuditJournalRecord) :
    tailLsn lsn (entry :: parsed) = tailLsn entry.record.lsn parsed := by
  cases parsed <;> simp [tailLsn, List.getLast?_cons]

variable {chain lsn : UInt64} {xs : List Bytes} {parsed : List DurableAuditJournalRecord}
  {content : Bytes}

theorem Reads.append {ys : List Bytes} {parsed' : List DurableAuditJournalRecord}
    (hxs : Reads chain lsn xs parsed)
    (hys : Reads (tailChain chain parsed) (tailLsn lsn parsed) ys parsed') :
    Reads chain lsn (xs ++ ys) (parsed ++ parsed') := by
  induction hxs with
  | nil chain lsn => exact hys
  | cons hutf8 hparse hlsn hrest ih =>
    rw [tailChain_cons, tailLsn_cons] at hys
    exact .cons hutf8 hparse hlsn (ih hys)

section

variable (h : Reads chain lsn xs parsed)
include h

theorem Reads.length_le : lsn.toNat + parsed.length ≤ (tailLsn lsn parsed).toNat := by
  induction h with
  | nil chain lsn => exact Nat.le_refl _
  | cons hutf8 hparse hlsn hrest ih =>
    have hlt := UInt64.lt_iff_toNat_lt.mp hlsn
    rw [tailLsn_cons, length_cons]
    omega

theorem Reads.length_lt : lsn.toNat + parsed.length < 2 ^ 64 :=
  Nat.lt_of_le_of_lt h.length_le (tailLsn lsn parsed).toNat_lt

theorem Reads.ordered : (∀ entry ∈ parsed, lsn < entry.record.lsn) ∧
      parsed.Pairwise fun a b => a.record.lsn < b.record.lsn := by
  induction h with
  | nil chain lsn => exact ⟨fun _ hmem => absurd hmem not_mem_nil, List.Pairwise.nil⟩
  | cons hutf8 hparse hlsn hrest ih =>
    refine ⟨forall_mem_cons.mpr ⟨hlsn, ?_⟩, pairwise_cons.mpr ⟨ih.1, ih.2⟩⟩
    exact fun entry hmem => UInt64.lt_trans hlsn (ih.1 entry hmem)

theorem Reads.validate : ∀ entry ∈ parsed, entry.record.validate = .ok () := by
  induction h with
  | nil chain lsn => exact fun _ hmem => absurd hmem not_mem_nil
  | cons hutf8 hparse hlsn hrest ih =>
    obtain ⟨payload, -, -, hpayload⟩ := parseJournalLine_eq_ok hparse
    exact forall_mem_cons.mpr ⟨(parsePayload_eq_ok hpayload).1, ih⟩

/-- Every chain checksum is the one of a payload, hence not the one of the genesis. -/
theorem Reads.tailChain_ne_zero (hne : parsed ≠ []) : tailChain chain parsed ≠ 0 := by
  induction h with
  | nil chain lsn => exact absurd rfl hne
  | @cons chain lsn line rest parsed parsedRest hutf8 hparse hlsn hrest ih =>
    rw [tailChain_cons]
    by_cases hnil : parsedRest = []
    · obtain ⟨payload, -, hchain, -⟩ := parseJournalLine_eq_ok hparse
      rw [hnil, show tailChain parsed.chainChecksum [] = parsed.chainChecksum from rfl, hchain,
        chainLink, journalChainChecksum]
      exact checksum64_ne_zero _
    · exact ih hnil

end

section Loop

variable (query : DurableAuditReplayQuery) (window : DurableAuditReplayWindow)

theorem ScanState.absorb_cursor (state : ScanState) (entry : DurableAuditJournalRecord) :
    (state.absorb query window entry).previousLsn = entry.record.lsn ∧
      (state.absorb query window entry).recordsScanned = state.recordsScanned + 1 ∧
      (state.absorb query window entry).firstScannedLsn =
        state.firstScannedLsn.or (some entry.record.lsn) ∧
      (state.absorb query window entry).lastScannedLsn = some entry.record.lsn ∧
      (state.absorb query window entry).previousChainChecksum = entry.chainChecksum := by
  rw [absorb]
  split
  · rw [collect]
    split
    · exact ⟨rfl, rfl, rfl, rfl, rfl⟩
    · split <;> exact ⟨rfl, rfl, rfl, rfl, rfl⟩
  · exact ⟨rfl, rfl, rfl, rfl, rfl⟩

theorem ScanState.foldl_absorb_cursor (state : ScanState)
    (parsed : List DurableAuditJournalRecord) :
    (parsed.foldl (absorb query window) state).previousLsn = tailLsn state.previousLsn parsed ∧
      (parsed.foldl (absorb query window) state).recordsScanned =
        state.recordsScanned + parsed.length ∧
      (parsed.foldl (absorb query window) state).firstScannedLsn =
        state.firstScannedLsn.or (parsed.head?.map fun entry => entry.record.lsn) ∧
      (parsed.foldl (absorb query window) state).lastScannedLsn =
        (parsed.getLast?.map fun entry => entry.record.lsn).or state.lastScannedLsn ∧
      (parsed.foldl (absorb query window) state).previousChainChecksum =
        tailChain state.previousChainChecksum parsed := by
  induction parsed generalizing state with
  | nil => exact ⟨rfl, rfl, by simp, by simp, rfl⟩
  | cons entry parsed ih =>
    obtain ⟨hlsn, hscanned, hfirst, hlast, hchain⟩ := ih (state.absorb query window entry)
    obtain ⟨hlsn', hscanned', hfirst', hlast', hchain'⟩ := state.absorb_cursor query window entry
    rw [foldl_cons, tailLsn_cons, tailChain_cons, length_cons]
    refine ⟨by rw [hlsn, hlsn'], by rw [hscanned, hscanned']; omega, ?_, ?_, by rw [hchain, hchain']⟩
    · rw [hfirst, hfirst', Option.or_assoc]
      simp
    · rw [hlast, hlast', List.getLast?_cons]
      cases parsed.getLast? <;> rfl

theorem readLines_eq_ok_iff {state state' : ScanState} {lineIndex : Nat} :
    readLines query window state lineIndex xs = .ok state' ↔
      ∃ parsed, Reads state.previousChainChecksum state.previousLsn xs parsed ∧
        state' = parsed.foldl (absorb query window) state := by
  induction xs generalizing state lineIndex with
  | nil =>
    rw [readLines, pure_eq_ok]
    constructor
    · intro h
      exact ⟨[], .nil _ _, h.symm⟩
    · rintro ⟨parsed, hreads, rfl⟩
      cases hreads
      rfl
  | cons line rest ih =>
    simp only [readLines, ok_iff, mapError_eq_ok, UInt64.not_le]
    constructor
    · rintro ⟨hutf8, entry, hparse, hlsn, hrest⟩
      obtain ⟨hlsn', -, -, -, hchain'⟩ := state.absorb_cursor query window entry
      obtain ⟨parsed, hreads, rfl⟩ := ih.mp hrest
      rw [hlsn', hchain'] at hreads
      exact ⟨entry :: parsed, .cons hutf8 hparse hlsn hreads, rfl⟩
    · rintro ⟨parsed, hreads, rfl⟩
      cases hreads with
      | @cons _ _ _ _ entry parsedRest hutf8 hparse hlsn hrest =>
        obtain ⟨hlsn', -, -, -, hchain'⟩ := state.absorb_cursor query window entry
        refine ⟨hutf8, entry, hparse, hlsn, ih.mpr ⟨parsedRest, ?_, rfl⟩⟩
        rw [hlsn', hchain']
        exact hrest

end Loop

theorem ScanState.foldl_absorb_all {state : ScanState}
    (hroom : state.records.length + parsed.length < 2 ^ 64) :
    (parsed.foldl (absorb DurableAuditReplayQuery.all all) state).records =
      state.records ++ parsed.map record := by
  induction parsed generalizing state with
  | nil => simp
  | cons entry parsed ih =>
    rw [length_cons] at hroom
    have hlimit : state.records.length < all.limit := by
      change state.records.length < 2 ^ 64 - 1
      omega
    have habsorb : (state.absorb DurableAuditReplayQuery.all all
        entry).records = state.records ++ [entry.record] := by
      have hmatches : entry.record.matchesReplayFilter DurableAuditReplayQuery.all = true := rfl
      have hoffset : ¬ state.skipped < all.offset := Nat.not_lt_zero _
      rw [absorb, if_pos hmatches, collect]
      simp [if_neg hoffset, if_pos hlimit]
    have hroom' : (state.absorb DurableAuditReplayQuery.all all
        entry).records.length + parsed.length < 2 ^ 64 := by
      rw [habsorb, length_append, length_singleton]
      omega
    rw [foldl_cons, ih hroom', habsorb, map_cons, append_assoc]
    rfl

def anchorOf (parsed : List DurableAuditJournalRecord) : DurableAuditJournalAnchor where
  firstRecordLsn := (parsed.head?.map fun entry => entry.record.lsn).getD 0
  lastRecordLsn := tailLsn 0 parsed
  recordCount := parsed.length
  tailChainChecksum := tailChain 0 parsed

def Anchored (anchor : Option Bytes) (parsed : List DurableAuditJournalRecord) : Prop :=
  match anchor with
  | none => parsed = []
  | some text => parsed ≠ [] ∧ readAnchor text = .ok (anchorOf parsed)

structure Accepts (content : Bytes) (anchor : Option Bytes)
    (parsed : List DurableAuditJournalRecord) : Prop where
  delimited : content = [] ∨ content.getLast? = some 10
  reads : Reads 0 0 (lines content) parsed
  anchored : Anchored anchor parsed

def scanOf (query : DurableAuditReplayQuery) (window : DurableAuditReplayWindow)
    (chainAnchorPresent : Bool) (parsed : List DurableAuditJournalRecord) :
    DurableAuditJournalScan :=
  (parsed.foldl (absorb query window) start).toScan query window chainAnchorPresent

section Scan

variable {query : DurableAuditReplayQuery} {window : DurableAuditReplayWindow}

theorem scanOf_fields (query : DurableAuditReplayQuery) (window : DurableAuditReplayWindow)
    (present : Bool) (parsed : List DurableAuditJournalRecord) :
    (scanOf query window present parsed).result.evidence.recordsScanned = parsed.length ∧
      (scanOf query window present parsed).firstRecordLsn =
        parsed.head?.map (fun entry => entry.record.lsn) ∧
      (scanOf query window present parsed).lastRecordLsn =
        parsed.getLast?.map (fun entry => entry.record.lsn) ∧
      (scanOf query window present parsed).lastChainChecksum = tailChain 0 parsed := by
  obtain ⟨-, hscanned, hfirst, hlast, hchain⟩ :=
    start.foldl_absorb_cursor query window parsed
  refine ⟨?_, ?_, ?_, hchain⟩
  · exact hscanned.trans (Nat.zero_add _)
  · exact hfirst.trans (Option.none_or)
  · exact hlast.trans (Option.or_none)

variable {parsed : List DurableAuditJournalRecord}

theorem anchorOf_lsns (hne : parsed ≠ []) :
    parsed.head?.map (fun entry => entry.record.lsn) = some (anchorOf parsed).firstRecordLsn ∧
      parsed.getLast?.map (fun entry => entry.record.lsn) =
        some (anchorOf parsed).lastRecordLsn := by
  have hlast := List.getLast?_eq_some_getLast hne
  cases parsed with
  | nil => exact absurd rfl hne
  | cons entry rest =>
    refine ⟨rfl, ?_⟩
    rw [anchorOf, tailLsn, hlast]
    rfl

theorem validateJournalAnchor_scanOf {anchor : Option Bytes}
    (hchain : parsed ≠ [] → tailChain 0 parsed ≠ 0) :
    validateJournalAnchor anchor (scanOf query window anchor.isSome parsed) = .ok () ↔
      Anchored anchor parsed := by
  obtain ⟨hscanned, hfirst, hlast, htail⟩ := scanOf_fields query window anchor.isSome parsed
  cases anchor with
  | none =>
    rw [validateJournalAnchor, failIf_eq_ok, not_not, hscanned, length_eq_zero_iff]
    rfl
  | some text =>
    by_cases hne : parsed = []
    · subst hne
      constructor
      · intro h
        simp only [validateJournalAnchor, ok_iff] at h
        exact absurd hscanned h.1
      · exact fun h => absurd rfl h.1
    · obtain ⟨hfirstLsn, hlastLsn⟩ := anchorOf_lsns hne
      rw [hfirstLsn] at hfirst
      rw [hlastLsn] at hlast
      simp only [validateJournalAnchor, ok_iff, hscanned, hfirst, hlast, htail, Option.some.injEq]
      constructor
      · rintro ⟨-, -, -, -, -, -, latest, hread, hfirst', hlast', hcount, hchecksum⟩
        refine ⟨hne, hread.trans (congrArg Except.ok ?_)⟩
        cases latest
        cases hfirst'
        cases hlast'
        cases hcount
        cases hchecksum
        rfl
      · rintro ⟨-, hread⟩
        refine ⟨fun hzero => hne (length_eq_zero_iff.mp hzero), hchain hne, ?_, htail, ?_, ?_,
          anchorOf parsed, hread, rfl, rfl, rfl, rfl⟩
        · rintro (h | h) <;> cases h
        · rintro (h | h)
          · exact h hfirst
          · exact h hlast
        · exact Bool.true_eq_false_eq_False

theorem scan_eq_ok_iff {files : JournalFiles} {scan : DurableAuditJournalScan}
    (hjournal : files.journal = some content) (hquery : query.validate = .ok ())
    (hwindow : window.validate = .ok ()) : scanDurableAuditJournal files query window = .ok scan ↔
      ∃ parsed, Accepts content files.anchor parsed ∧
        scan = scanOf query window files.anchor.isSome parsed := by
  rw [scanDurableAuditJournal, hquery, hwindow, hjournal]
  simp only [ok_iff, validateJournalTailIsRecordDelimited, readLines_eq_ok_iff]
  constructor
  · rintro ⟨-, -, hdelimited, state, ⟨parsed, hreads, rfl⟩, hanchor, rfl⟩
    refine ⟨parsed, ⟨?_, hreads, ?_⟩, rfl⟩
    · rwa [not_and_or, not_not, not_not] at hdelimited
    · exact (validateJournalAnchor_scanOf hreads.tailChain_ne_zero).mp hanchor
  · rintro ⟨parsed, ⟨hdelimited, hreads, hanchored⟩, rfl⟩
    refine ⟨rfl, rfl, ?_, _, ⟨parsed, hreads, rfl⟩, ?_, rfl⟩
    · rwa [not_and_or, not_not, not_not]
    · exact (validateJournalAnchor_scanOf hreads.tailChain_ne_zero).mpr hanchored

end Scan

theorem scanOf_all_records {anchor : Option Bytes} {present : Bool}
    (h : Accepts content anchor parsed) :
    (scanOf DurableAuditReplayQuery.all all present parsed).result.records = parsed.map record := by
  have hlength := h.reads.length_lt
  have hroom : start.records.length + parsed.length < 2 ^ 64 := by
    change 0 + parsed.length < 2 ^ 64
    change 0 + parsed.length < 2 ^ 64 at hlength
    exact hlength
  exact foldl_absorb_all hroom

theorem replay_eq_ok_iff {files : JournalFiles} {records : List DurableAuditReplayRecord}
    (hjournal : files.journal = some content) :
    replayDurableAuditJournal files DurableAuditReplayQuery.all = .ok records ↔
      ∃ parsed, Accepts content files.anchor parsed ∧ records = parsed.map record := by
  simp only [replayDurableAuditJournal, replayDurableAuditJournalWithEvidence, ok_iff,
    scan_eq_ok_iff hjournal (show DurableAuditReplayQuery.all.validate = .ok () from rfl) (show all.validate = .ok () from rfl)]
  constructor
  · rintro ⟨result, ⟨scan, ⟨parsed, haccepts, rfl⟩, rfl⟩, rfl⟩
    exact ⟨parsed, haccepts, scanOf_all_records haccepts⟩
  · rintro ⟨parsed, haccepts, rfl⟩
    exact ⟨_, ⟨_, ⟨parsed, haccepts, rfl⟩, rfl⟩, scanOf_all_records haccepts⟩

end Andromeda.Audit
