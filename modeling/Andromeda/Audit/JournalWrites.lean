import Andromeda.Audit.Journal
import Andromeda.Audit.ScanSpec

/-!
# What the journal writes is accepted

Lines written one behind another for canonical records are read back as those records, and an
anchor line written for them is the one the scan looks for. `Accepts.append` covers an append,
`accepts_chained` a rewritten journal.
-/

namespace Andromeda.Audit

open Fallible AsciiText List
open Catalog (strBytes)

/-! ## Lines of records -/

/-- A valid record that carries the checksum of its payload in the current format. -/
structure Canonical (record : DurableAuditReplayRecord) : Prop where
  valid : record.validate = .ok ()
  checksum : checksum64 (payloadText record) = record.report.evidence.checksum

def recordLine (previous : UInt64) (record : DurableAuditReplayRecord) : Bytes :=
  lineText (payloadText record) (checksum64 (payloadText record))
    (chainLink previous (payloadText record)) previous

def chained : UInt64 → List DurableAuditReplayRecord → List DurableAuditJournalRecord
  | _, [] => []
  | previous, record :: records =>
    ⟨record, chainLink previous (payloadText record)⟩ ::
      chained (chainLink previous (payloadText record)) records

def chainedLines : UInt64 → List DurableAuditReplayRecord → List Bytes
  | _, [] => []
  | previous, record :: records =>
    recordLine previous record :: chainedLines (chainLink previous (payloadText record)) records

@[simp] theorem map_record_chained (previous : UInt64) (records : List DurableAuditReplayRecord) :
    (chained previous records).map (·.record) = records := by
  induction records generalizing previous with
  | nil => rfl
  | cons record records ih => rw [chained, map_cons, ih]

variable {record : DurableAuditReplayRecord} {previous : UInt64} {text content : Bytes}
  {records : List DurableAuditReplayRecord} {anchor : DurableAuditJournalAnchor} {xs : List Bytes}
  {parsed : List DurableAuditJournalRecord}

theorem journalLine_of_canonical (h : Canonical record) (previous : UInt64) :
    journalLine record previous =
      .ok ⟨recordLine previous record ++ [10], chainLink previous (payloadText record)⟩ := by
  rw [journalLine, journalPayload, h.valid, ok_bind]
  change (failIf (checksum64 (payloadText record) ≠ record.report.evidence.checksum) _ >>= _) = _
  rw [failIf_neg (not_not.mpr h.checksum)]
  rfl

theorem printable_lineText {payload : Bytes} (hpayload : Printable payload)
    (checksum chainChecksum previous : UInt64) :
    Printable (lineText payload checksum chainChecksum previous) := by
  have hhex := fun checksum => (plain_hexChecksum checksum).printable
  have hprevious : Printable (strBytes "|previous_chain_checksum=") := by decide
  have hchain : Printable (strBytes "|chain_checksum=") := by decide
  have hchecksum : Printable (strBytes "|checksum=") := by decide
  exact (((((hpayload.append hprevious).append (hhex _)).append hchain).append (hhex _)).append
    hchecksum).append (hhex _)

theorem printable_recordLine (previous : UInt64) (record : DurableAuditReplayRecord) :
    Printable (recordLine previous record) :=
  printable_lineText (printable_payloadText record) _ _ _

theorem printable_chainedLines (previous : UInt64) (records : List DurableAuditReplayRecord) :
    ∀ row ∈ chainedLines previous records, Printable row := by
  induction records generalizing previous with
  | nil => exact fun _ hmem => absurd hmem not_mem_nil
  | cons record records ih =>
    exact forall_mem_cons.mpr ⟨printable_recordLine previous record, ih _⟩

theorem Printable.lineEnds_notMem (h : Printable text) : 10 ∉ text ∧ 13 ∉ text :=
  ⟨fun hmem => absurd (h 10 hmem).1 (by decide), fun hmem => absurd (h 13 hmem).1 (by decide)⟩

theorem Printable.isUtf8 (h : Printable text) : IsUtf8 text :=
  isUtf8_of_ascii fun b hb => (h b hb).2

theorem reads_chained {lsn : UInt64} (hcanonical : ∀ record ∈ records, Canonical record)
    (habove : ∀ record ∈ records, lsn < record.lsn)
    (hordered : records.Pairwise fun a b => a.lsn < b.lsn) :
    Reads previous lsn (chainedLines previous records) (chained previous records) := by
  induction records generalizing previous lsn with
  | nil => exact .nil previous lsn
  | cons record records ih =>
    have hcanonical' := forall_mem_cons.mp hcanonical
    have habove' := forall_mem_cons.mp habove
    have hordered' := pairwise_cons.mp hordered
    have hparse := parsePayload_payloadText hcanonical'.1.valid
    rw [← hcanonical'.1.checksum] at hparse
    have hline : parseJournalLine (recordLine previous record) previous =
        .ok ⟨record, chainLink previous (payloadText record)⟩ :=
      parseJournalLine_lineText (printable_payloadText record) rfl hparse
    exact .cons (printable_recordLine previous record).isUtf8 hline habove'.1
      (ih hcanonical'.2 hordered'.1 hordered'.2)

section

variable (anchor : DurableAuditJournalAnchor)

theorem plain_anchorFields : ∀ text ∈ anchorFields anchor, Plain text := by
  simp only [anchorFields, forall_mem_cons]
  exact ⟨by decide, plain_field (by decide) (plain_decimal _),
    plain_field (by decide) (plain_decimal _), plain_field (by decide) (plain_decimal _),
    plain_field (by decide) (plain_hexChecksum _), fun _ hmem => absurd hmem not_mem_nil⟩

theorem printable_anchorPayload : Printable (anchorPayload anchor) :=
  printable_intercalate (plain_anchorFields anchor)

theorem printable_anchorText : Printable (anchorText anchor) := by
  have hlabel : Printable (strBytes "|checksum=") := by decide
  exact ((printable_anchorPayload anchor).append hlabel).append (plain_hexChecksum _).printable

theorem splitOn_anchorPayload : (anchorPayload anchor).splitOn 124 = anchorFields anchor :=
  splitOn_intercalate 124 (fun text hmem => (plain_anchorFields anchor text hmem).mark_notMem)
    (cons_ne_nil _ _)

end

theorem parseAnchorLine_anchorText (hshape : validateAnchorShape anchor = .ok ())
    (hcount : anchor.recordCount < 2 ^ 64) : parseAnchorLine (anchorText anchor) = .ok anchor := by
  have hsplit := @rsplitOnce_checksum "|checksum=" (by decide) (by decide)
  have hhigh := (printable_anchorPayload anchor).not_any_high
  have hhead : (anchorFields anchor).headD [] = journalAnchorTag := rfl
  have hlength : (anchorFields anchor).length = 5 := rfl
  rw [parseAnchorLine, anchorText]
  simp only [hsplit, orError_some, ok_bind, parseHexChecksum_hexChecksum, splitOn_anchorPayload,
    hhead, hlength]
  simp only [ok_iff, true_and]
  refine ⟨hhigh, ?_⟩
  simp only [anchorFields, getD_cons_succ, getD_cons_zero, parseU64Field_field,
    parseUsizeField_field _ hcount, stripField_field, parseHexChecksum_hexChecksum,
    Except.ok.injEq, exists_eq_left', and_true]
  exact hshape

theorem latestAnchor_concat {latest latest' : Option DurableAuditJournalAnchor} {lineIndex : Nat}
    {line : Bytes} (hxs : latestAnchor latest lineIndex xs = .ok latest')
    (hline : parseAnchorLine line = .ok anchor) :
    latestAnchor latest lineIndex (xs ++ [line]) = .ok (some anchor) := by
  induction xs generalizing latest lineIndex with
  | nil =>
    rw [nil_append, latestAnchor, hline]
    rfl
  | cons x xs ih =>
    rw [latestAnchor, bind_eq_ok] at hxs
    obtain ⟨anchor', hparse, hrest⟩ := hxs
    rw [cons_append, latestAnchor, hparse, ok_bind]
    exact ih hrest

/-- An anchor file to which a line can be added. -/
structure AnchorReadable (text : Bytes) : Prop where
  utf8 : IsUtf8 text
  delimited : text = [] ∨ text.getLast? = some 10
  lines_ok : ∃ latest, latestAnchor none 0 (lines text) = .ok latest

theorem AnchorReadable.readAnchor_append (h : AnchorReadable text)
    (hshape : validateAnchorShape anchor = .ok ()) (hcount : anchor.recordCount < 2 ^ 64) :
    readAnchor (text ++ (anchorText anchor ++ [10])) = .ok anchor := by
  have hprintable := printable_anchorText anchor
  have hnewline : IsUtf8 [10] := by decide
  have hutf8 : IsUtf8 (text ++ (anchorText anchor ++ [10])) :=
    h.utf8.append (hprintable.isUtf8.append hnewline)
  have hlast : (text ++ (anchorText anchor ++ [10])).getLast? = some 10 := by simp
  have hlines : lines (text ++ (anchorText anchor ++ [10])) = lines text ++ [anchorText anchor] := by
    have hrows : ∀ row ∈ [anchorText anchor], 10 ∉ row ∧ 13 ∉ row := by
      intro row hmem
      rw [mem_singleton.mp hmem]
      exact hprintable.lineEnds_notMem
    have hunlines : unlines [anchorText anchor] = anchorText anchor ++ [10] := by
      rw [unlines_cons]
      rfl
    rw [← hunlines]
    exact lines_append_unlines h.delimited hrows
  obtain ⟨latest, hlatest⟩ := h.lines_ok
  have hconcat := latestAnchor_concat hlatest (parseAnchorLine_anchorText hshape hcount)
  rw [readAnchor, hlines]
  simp only [ok_iff]
  exact ⟨hutf8, hlast, some anchor, hconcat, rfl⟩

/-! ## Accepted contents -/

theorem le_tailLsn {chain lsn : UInt64} (h : Reads chain lsn xs parsed) :
    lsn ≤ tailLsn lsn parsed ∧ ∀ entry ∈ parsed, entry.record.lsn ≤ tailLsn lsn parsed := by
  induction h with
  | nil chain lsn => exact ⟨UInt64.le_refl _, fun _ hmem => absurd hmem not_mem_nil⟩
  | cons hutf8 hparse hlsn hrest ih =>
    rw [tailLsn_cons]
    refine ⟨UInt64.le_of_lt (UInt64.lt_of_lt_of_le hlsn ih.1), ?_⟩
    exact forall_mem_cons.mpr ⟨ih.1, ih.2⟩

theorem validateAnchorShape_anchorOf (h : Reads 0 0 xs parsed) (hne : parsed ≠ []) :
    validateAnchorShape (anchorOf parsed) = .ok () := by
  have hchain := h.tailChain_ne_zero hne
  have hle := (le_tailLsn h).2
  have hpos := h.ordered.1
  cases parsed with
  | nil => exact absurd rfl hne
  | cons entry rest =>
    have hfirst := hpos entry mem_cons_self
    have hlast := hle entry mem_cons_self
    simp only [validateAnchorShape, ok_iff]
    refine ⟨?_, UInt64.not_lt.mpr hlast, Nat.succ_ne_zero _, hchain⟩
    rintro (hzero | hzero)
    · exact UInt64.pos_iff_ne_zero.mp hfirst hzero
    · exact UInt64.pos_iff_ne_zero.mp (UInt64.lt_of_lt_of_le hfirst hlast) hzero

theorem Anchored.readable {anchor : Option Bytes} (h : Anchored anchor parsed) :
    AnchorReadable (anchor.getD []) := by
  cases anchor with
  | none => exact ⟨isUtf8_of_ascii fun _ hmem => absurd hmem not_mem_nil, .inl rfl, none, rfl⟩
  | some text =>
    have hread := h.2
    simp only [readAnchor, ok_iff] at hread
    obtain ⟨hutf8, hlast, latest, hlatest, -⟩ := hread
    exact ⟨hutf8, .inr hlast, latest, hlatest⟩

theorem accepts_of_reads (hdelimited : content = [] ∨ content.getLast? = some 10)
    (hreads : Reads 0 0 (lines content) parsed) (hne : parsed ≠ []) (htext : AnchorReadable text) :
    Accepts content (some (text ++ (anchorText (anchorOf parsed) ++ [10]))) parsed := by
  have hcount : (anchorOf parsed).recordCount < 2 ^ 64 := by
    have hlength := hreads.length_lt
    change 0 + parsed.length < 2 ^ 64 at hlength
    change parsed.length < 2 ^ 64
    omega
  exact ⟨hdelimited, hreads, hne,
    htext.readAnchor_append (validateAnchorShape_anchorOf hreads hne) hcount⟩

theorem Accepts.append {anchor : Option Bytes} (h : Accepts content anchor parsed)
    (hcanonical : Canonical record) (hlsn : tailLsn 0 parsed < record.lsn) :
    Accepts (content ++ (recordLine (tailChain 0 parsed) record ++ [10]))
      (some (anchor.getD [] ++ (anchorText (anchorOf (parsed ++
        [⟨record, chainLink (tailChain 0 parsed) (payloadText record)⟩])) ++ [10])))
      (parsed ++ [⟨record, chainLink (tailChain 0 parsed) (payloadText record)⟩]) := by
  have hrows : ∀ row ∈ chainedLines (tailChain 0 parsed) [record], 10 ∉ row ∧ 13 ∉ row :=
    fun row hmem => (printable_chainedLines _ _ row hmem).lineEnds_notMem
  have hlines := lines_append_unlines h.delimited hrows
  have hnew : Reads (tailChain 0 parsed) (tailLsn 0 parsed)
      (chainedLines (tailChain 0 parsed) [record]) (chained (tailChain 0 parsed) [record]) :=
    reads_chained (forall_mem_singleton.mpr hcanonical) (forall_mem_singleton.mpr hlsn)
      (pairwise_singleton _ _)
  have hreads := h.reads.append hnew
  rw [← hlines, show unlines (chainedLines (tailChain 0 parsed) [record]) =
    recordLine (tailChain 0 parsed) record ++ [10] from append_nil _] at hreads
  refine accepts_of_reads (.inr ?_) hreads (append_ne_nil_of_right_ne_nil _ (by simp))
    h.anchored.readable
  simp

theorem accepts_chained (hne : records ≠ []) (hcanonical : ∀ record ∈ records, Canonical record)
    (hpos : ∀ record ∈ records, 0 < record.lsn)
    (hordered : records.Pairwise fun a b => a.lsn < b.lsn) (htext : AnchorReadable text) :
    Accepts (unlines (chainedLines 0 records))
      (some (text ++ (anchorText (anchorOf (chained 0 records)) ++ [10]))) (chained 0 records) := by
  have hrows : ∀ row ∈ chainedLines 0 records, 10 ∉ row ∧ 13 ∉ row :=
    fun row hmem => (printable_chainedLines _ _ row hmem).lineEnds_notMem
  have hreads : Reads 0 0 (chainedLines 0 records) (chained 0 records) :=
    reads_chained hcanonical hpos hordered
  rw [← lines_unlines hrows] at hreads
  cases records with
  | nil => exact absurd rfl hne
  | cons record records =>
    exact accepts_of_reads (.inr (getLast?_unlines (cons_ne_nil _ _))) hreads
      (cons_ne_nil _ _) htext

theorem accepts_nil : Accepts [] none [] := ⟨.inl rfl, .nil 0 0, rfl⟩

end Andromeda.Audit
