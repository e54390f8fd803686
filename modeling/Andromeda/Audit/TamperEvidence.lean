import Andromeda.Audit.JournalRuns
import Andromeda.Lib.HashChain

/-!
# Tamper evidence of the journal

The anchor holds the number of records and the checksum at the end of the chain. Whatever
content is put in the place of a journal, if a replay accepts it under the same anchor then its
lines carry the payloads of the journal, and the replay returns the same records. This rests on
the checksum telling apart the texts that the two chains digest.
-/

namespace Andromeda.Audit

open Fallible AsciiText Traced List JournalCall HashChain

/-! ## What the chain of a content digests -/

def payloadsOf (content : Bytes) : List Bytes := (lines content).filterMap linePayload

def digestedTexts (content : Bytes) : List Bytes :=
  (links chainLink 0 (payloadsOf content)).map fun link =>
    chainText link.2 (checksum64 link.2) link.1

/-- A digested text says what it was made of. -/
theorem chainText_inj {payload payload' : Bytes} {checksum checksum' previous previous' : UInt64}
    (h : chainText payload checksum previous = chainText payload' checksum' previous') :
    previous = previous' ∧ payload = payload' := by
  have hwidth : (hexChecksum previous).length = (hexChecksum previous').length := by
    rw [hexChecksum, hexChecksum, length_hex, length_hex]
  have hwidth' : (hexChecksum checksum).length = (hexChecksum checksum').length := by
    rw [hexChecksum, hexChecksum, length_hex, length_hex]
  obtain ⟨hprevious, hrest⟩ := append_inj h hwidth
  obtain ⟨-, hpayload⟩ := append_inj (List.cons.inj hrest).2 hwidth'
  have heq := hex_inj (w := 16) previous.toNat_lt previous'.toNat_lt hprevious
  exact ⟨UInt64.toNat_inj.mp heq, (List.cons.inj hpayload).2⟩

/-! ## Accepted lines and their payloads -/

variable {parsed : List DurableAuditJournalRecord}

theorem Reads.payloads {chain lsn : UInt64} {xs : List Bytes} (h : Reads chain lsn xs parsed) :
    (xs.filterMap linePayload).length = parsed.length ∧
      (xs.filterMap linePayload).foldl chainLink chain = tailChain chain parsed := by
  induction h with
  | nil chain lsn => exact ⟨rfl, rfl⟩
  | cons hutf8 hparse hlsn hrest ih =>
    obtain ⟨payload, hpayload, hchain, -⟩ := parseJournalLine_eq_ok hparse
    rw [filterMap_cons_some hpayload, foldl_cons, tailChain_cons, ← hchain]
    exact ⟨congrArg Nat.succ ih.1, ih.2⟩

variable {parsed' : List DurableAuditJournalRecord}

theorem Reads.eq_of_payloads {chain lsn lsn' : UInt64} {xs ys : List Bytes}
    (h : Reads chain lsn xs parsed) (h' : Reads chain lsn' ys parsed')
    (hpayloads : xs.filterMap linePayload = ys.filterMap linePayload) : parsed = parsed' := by
  induction h generalizing lsn' ys parsed' with
  | nil chain lsn =>
    have hlength := h'.payloads.1
    rw [← hpayloads] at hlength
    exact (eq_nil_of_length_eq_zero hlength.symm).symm
  | @cons chain lsn line rest entry entries hutf8 hparse hlsn hrest ih =>
    obtain ⟨payload, hpayload, hchain, hrecord⟩ := parseJournalLine_eq_ok hparse
    rw [filterMap_cons_some hpayload] at hpayloads
    cases h' with
    | nil => cases hpayloads
    | @cons _ _ line' rest' entry' entries' hutf8' hparse' hlsn' hrest' =>
      obtain ⟨payload', hpayload', hchain', hrecord'⟩ := parseJournalLine_eq_ok hparse'
      rw [filterMap_cons_some hpayload'] at hpayloads
      obtain ⟨rfl, hrests⟩ := List.cons.inj hpayloads
      have hentry : entry = entry' := by
        cases entry
        cases entry'
        cases hrecord.symm.trans hrecord'
        cases hchain.trans hchain'.symm
        rfl
      subst hentry
      rw [ih hrest' hrests]

theorem Accepts.eq_of_collisionFree {content content' : Bytes} {anchor : Option Bytes}
    (h : Accepts content anchor parsed) (h' : Accepts content' anchor parsed')
    (hfree : HashChain.CollisionFree chainLink (links chainLink 0 (payloadsOf content))
      (links chainLink 0 (payloadsOf content'))) : parsed = parsed' := by
  have hanchored := h.anchored
  have hanchored' := h'.anchored
  cases anchor with
  | none => exact hanchored.trans hanchored'.symm
  | some text =>
    have hanchor : anchorOf parsed = anchorOf parsed' :=
      Except.ok.inj (hanchored.2.symm.trans hanchored'.2)
    have hcount : parsed.length = parsed'.length :=
      congrArg DurableAuditJournalAnchor.recordCount hanchor
    have htail : tailChain 0 parsed = tailChain 0 parsed' :=
      congrArg DurableAuditJournalAnchor.tailChainChecksum hanchor
    obtain ⟨hlength, hchain⟩ := h.reads.payloads
    obtain ⟨hlength', hchain'⟩ := h'.reads.payloads
    have hpayloads := (eq_of_foldl_eq hfree (hlength.trans (hcount.trans hlength'.symm))
      (hchain.trans (htail.trans hchain'.symm))).2
    exact h.reads.eq_of_payloads h'.reads hpayloads

/-! ## Journals written by appends -/

/-- A journal written by appends: LSNs count the records. -/
structure Appended (state : JournalState) : Prop where
  settled : Settled state
  counted : (lastLsn state.2).toNat = state.2.length

theorem Appended.step {state : JournalState} (h : Appended state)
    (record : DurableAuditAppendRecord) : Appended ((append record).step state) := by
  by_cases hroom : lastLsn state.2 = 0xffffffffffffffff
  · -- With the last LSN used up the record counter is exhausted, and the append is refused.
    have hcounted := h.counted
    rw [hroom] at hcounted
    obtain ⟨files, records⟩ := state
    obtain ⟨⟨parsed, hholds, rfl⟩, hcanonical⟩ := h.settled
    rw [length_map] at hcounted
    have hfull : 2 ^ 64 ≤ parsed.length + 1 := by
      change 2 ^ 64 - 1 = parsed.length at hcounted
      omega
    have hstep : (append record).step (files, parsed.map (·.record)) =
        (files, parsed.map (·.record)) := by
      cases hvalid : record.validate with
      | error e =>
        rw [JournalCall.step, Traced.final, append_rejected files hvalid]
        rfl
      | ok u =>
        obtain ⟨failure, hfails⟩ := appendRecord_exhausted hholds hvalid hfull
        have hreturns : (append record).run.Returns files (.error failure) files :=
          hfails.bind_error
        rw [JournalCall.step, hreturns.1, hreturns.2]
        rfl
    rw [hstep]
    exact h
  · have heffect := append_effect h.settled hroom record
    obtain ⟨hsettled, -, -⟩ := h.settled.step hroom (.append record)
    refine ⟨hsettled, ?_⟩
    cases heffect with
    | appended hresult hstep _ =>
      rw [hstep, lastLsn_append, appendedRecord_lsn, saturatingSucc_toNat hroom, h.counted,
        length_append, length_singleton]
    | refused hresult hstep =>
      rw [hstep]
      exact h.counted

def written (records : List DurableAuditAppendRecord) : JournalState :=
  afterCalls newJournal (records.map append)

theorem appended_written (records : List DurableAuditAppendRecord) : Appended (written records) := by
  rw [written, afterCalls, foldl_map]
  exact foldlRecOn (motive := Appended) records _ ⟨settled_newJournal, rfl⟩ fun _ h record _ =>
    h.step record

def JournalFiles.withJournal (files : JournalFiles) (journal : Option Bytes) : JournalFiles :=
  { files with journal }

theorem replay_missing {files : JournalFiles} {query : DurableAuditReplayQuery}
    {window : DurableAuditReplayWindow} {result : DurableAuditReplayResult}
    (hjournal : files.journal = none)
    (h : replayDurableAuditJournalWithEvidence files query window = .ok result) :
    files.anchor = none ∧ query.validate = .ok () ∧ window.validate = .ok () ∧
      result = ⟨DurableAuditReplayEvidence.empty query window, []⟩ := by
  simp only [replayDurableAuditJournalWithEvidence, scanDurableAuditJournal, hjournal,
    orSinkFailure, ok_iff, mapError_eq_ok] at h
  obtain ⟨scan, ⟨hquery, hwindow, hanchor, rfl⟩, rfl⟩ := h
  refine ⟨?_, hquery, hwindow, rfl⟩
  cases hsome : files.anchor with
  | none => rfl
  | some text =>
    rw [hsome] at hanchor
    exact absurd rfl hanchor

/-- Whatever is put in the place of a journal that appends wrote, under its anchor: replay fails,
or it returns what it returned before, which are the records that were appended. -/
theorem tampered_replay_fails_or_agrees (records : List DurableAuditAppendRecord)
    (content : Option Bytes)
    (hinjective : ∀ a ∈ digestedTexts ((written records).1.journal.getD []),
      ∀ b ∈ digestedTexts (content.getD []), checksum64 a = checksum64 b → a = b) :
    replayDurableAuditJournal (written records).1 DurableAuditReplayQuery.all =
        .ok (written records).2 ∧ ∀ query window, (∃ failure, replayDurableAuditJournalWithEvidence
          ((written records).1.withJournal content) query window = .error failure) ∨
        replayDurableAuditJournalWithEvidence ((written records).1.withJournal content) query window =
          replayDurableAuditJournalWithEvidence (written records).1 query window := by
  obtain ⟨⟨parsed, hholds, hrecords⟩, -⟩ := (appended_written records).settled
  obtain ⟨original, hjournal, haccepts⟩ := hholds.accepted
  refine ⟨by rw [← hrecords]; exact hholds.replay, ?_⟩
  intro query window
  cases hresult : replayDurableAuditJournalWithEvidence ((written records).1.withJournal content)
      query window with
  | error failure => exact .inl ⟨failure, rfl⟩
  | ok result =>
    refine .inr ?_
    cases content with
    | none =>
      obtain ⟨hanchor, hquery, hwindow, rfl⟩ := replay_missing rfl hresult
      change (written records).1.anchor = none at hanchor
      have hparsed : parsed = [] := by
        have hanchored := haccepts.anchored
        rw [hanchor] at hanchored
        exact hanchored
      subst hparsed
      have hscan := (scan_eq_ok_iff hjournal hquery hwindow).mpr ⟨[], haccepts, rfl⟩
      rw [replayDurableAuditJournalWithEvidence, hscan, hanchor]
      simp [scanOf, ScanState.toScan, ScanState.start, DurableAuditReplayEvidence.empty]
    | some content =>
      simp only [replayDurableAuditJournalWithEvidence, ok_iff] at hresult
      obtain ⟨scan, hscan, rfl⟩ := hresult
      have hvalid := hscan
      simp only [scanDurableAuditJournal, ok_iff, orSinkFailure, mapError_eq_ok] at hvalid
      obtain ⟨hquery, hwindow, -⟩ := hvalid
      have hcontent : ((written records).1.withJournal (some content)).journal = some content := rfl
      obtain ⟨parsed', haccepts', rfl⟩ := (scan_eq_ok_iff hcontent hquery hwindow).mp hscan
      have hparsed : parsed = parsed' := by
        rw [hjournal] at hinjective
        refine haccepts.eq_of_collisionFree haccepts' fun x hx y hy heq => ?_
        have htext := hinjective _ (mem_map_of_mem hx) _ (mem_map_of_mem hy) heq
        obtain ⟨hprevious, hpayload⟩ := chainText_inj htext
        exact Prod.ext hprevious hpayload
      subst hparsed
      have hscan' := (scan_eq_ok_iff hjournal hquery hwindow).mpr ⟨parsed, haccepts, rfl⟩
      rw [replayDurableAuditJournalWithEvidence, hscan']
      rfl

/-- The journal of one record, with another event id in its line. -/
def eventIdEdited : Bytes := ((written [genericRecord]).1.journal.getD []).set 63 50

theorem tampered_replay_fails_or_agrees_edited :
    replayDurableAuditJournal (written [genericRecord]).1 DurableAuditReplayQuery.all =
        .ok (written [genericRecord]).2 ∧
      ∀ query window, (∃ failure, replayDurableAuditJournalWithEvidence
          ((written [genericRecord]).1.withJournal (some eventIdEdited)) query window =
            .error failure) ∨
        replayDurableAuditJournalWithEvidence
            ((written [genericRecord]).1.withJournal (some eventIdEdited)) query window =
          replayDurableAuditJournalWithEvidence (written [genericRecord]).1 query window :=
  tampered_replay_fails_or_agrees [genericRecord] (some eventIdEdited) (by decide +kernel)

end Andromeda.Audit
