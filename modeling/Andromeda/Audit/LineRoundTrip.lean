import Andromeda.Audit.JournalLine
import Mathlib.Data.List.TakeWhile

/-!
# Journal lines are read back

The payload of a valid record is split into the fields it was made of and parsed to the record,
and a line gives its payload and its checksums back. No field holds a line end or the mark
between fields, since every free text is written in hexadecimal.
-/

namespace Andromeda.Audit

open Fallible AsciiText SecurityPolicyVersionEvidence DurableAuditJournalRecordFormat List
open Catalog (strBytes fromUTF8_strBytes)

/-! ## Bytes of a field -/

/-- Text without line ends and without the mark between fields. -/
def Plain (text : Bytes) : Prop := ∀ b ∈ text, 13 < b.toNat ∧ b.toNat < 124

instance (text : Bytes) : Decidable (Plain text) := List.decidableBAll _ _

theorem Plain.append {xs ys : Bytes} (hxs : Plain xs) (hys : Plain ys) : Plain (xs ++ ys) :=
  forall_mem_append.mpr ⟨hxs, hys⟩

variable {text payload : Bytes} {label : String} {record : DurableAuditReplayRecord}
  {checksum previous : UInt64}

theorem Plain.mark_notMem (h : Plain text) : 124 ∉ text := fun hmem =>
  absurd (h 124 hmem).2 (by decide)

theorem plain_decimal (n : Nat) : Plain (decimal n) := by
  intro b hb
  have hdigit := (isDecimal_decimal n).digits b hb
  omega

theorem plain_digit {b : UInt8} (h : ∃ d < 16, b = digit d) : 13 < b.toNat ∧ b.toNat < 124 := by
  obtain ⟨d, hd, rfl⟩ := h
  have hrange := digit_ge hd
  omega

theorem plain_hexChecksum (checksum : UInt64) : Plain (hexChecksum checksum) :=
  fun _ hb => plain_digit (mem_hex hb)

theorem plain_encodeString (value : String) : Plain (encodeString value) :=
  fun _ hb => plain_digit (mem_hexBytes hb)

theorem plain_formatOptional {α : Type} {format : α → Bytes} (h : ∀ value, Plain (format value))
    (value : Option α) : Plain (formatOptional format value) := by
  cases value with
  | none => exact (by decide : Plain noneField)
  | some value => exact h value

theorem plain_field {value : Bytes} (hlabel : Plain (strBytes label)) (hvalue : Plain value) :
    Plain (field label value) := by
  have hmark : Plain [61] := by decide
  exact hlabel.append (hmark.append hvalue)

section

variable (record : DurableAuditReplayRecord)

theorem plain_payloadFields : ∀ text ∈ payloadFields record, Plain text := by
  simp only [payloadFields, forall_mem_cons]
  refine ⟨by decide, plain_field (by decide) (plain_decimal _),
    plain_field (by decide) (plain_decimal _), plain_field (by decide) (plain_decimal _),
    plain_field (by decide) (plain_decimal _),
    plain_field (by decide) (by cases record.report.identity.family <;> decide),
    plain_field (by decide) (plain_decimal _),
    plain_field (by decide) (by cases record.report.retention <;> decide),
    plain_field (by decide) (by cases record.report.replayBehavior <;> decide),
    plain_field (by decide) (plain_encodeString _),
    plain_field (by decide) (plain_formatOptional plain_encodeString _),
    plain_field (by decide) (plain_formatOptional (fun surface => by cases surface <;> decide) _),
    plain_field (by decide) (plain_formatOptional (fun name => by cases name <;> decide) _),
    plain_field (by decide) (plain_formatOptional (fun _ => plain_decimal _) _),
    plain_field (by decide) (plain_formatOptional plain_encodeString _),
    plain_field (by decide) (plain_formatOptional (fun _ => plain_decimal _) _),
    plain_field (by decide) (plain_formatOptional (fun _ => plain_decimal _) _),
    plain_field (by decide) (plain_encodeString _), fun _ hmem => absurd hmem not_mem_nil⟩

theorem splitOn_payloadText : (payloadText record).splitOn 124 = payloadFields record :=
  splitOn_intercalate 124 (fun text hmem => (plain_payloadFields record text hmem).mark_notMem)
    (cons_ne_nil _ _)

def Printable (text : Bytes) : Prop := ∀ b ∈ text, 13 < b.toNat ∧ b.toNat < 128

instance (text : Bytes) : Decidable (Printable text) := List.decidableBAll _ _

theorem Plain.printable (h : Plain text) : Printable text := by
  intro b hb
  have hplain := h b hb
  omega

theorem Printable.append {xs ys : Bytes} (hxs : Printable xs) (hys : Printable ys) :
    Printable (xs ++ ys) :=
  forall_mem_append.mpr ⟨hxs, hys⟩

theorem printable_intercalate {texts : List Bytes} (h : ∀ text ∈ texts, Plain text) :
    Printable ([124].intercalate texts) := by
  induction texts with
  | nil => exact (by decide : Printable [])
  | cons text texts ih =>
    have hrest := ih (forall_mem_cons.mp h).2
    have htext := (h text mem_cons_self).printable
    cases texts with
    | nil =>
      rw [intercalate_singleton]
      exact htext
    | cons text' texts =>
      rw [intercalate_cons_cons]
      exact (htext.append (by decide : Printable [124])).append hrest

theorem printable_payloadText : Printable (payloadText record) :=
  printable_intercalate (plain_payloadFields record)

end

/-! ## Fields are read back -/

section

variable (label : String)

theorem stripField_field (value : Bytes) : stripField (field label value) label = .ok value := by
  have htext : field label value = field label [] ++ value := by
    rw [field, field, append_assoc]
    rfl
  have hstart : (field label []).isPrefixOf (field label value) = true :=
    isPrefixOf_iff_prefix.mpr ⟨value, htext.symm⟩
  rw [stripField, if_pos hstart, htext, drop_left]

theorem parseU64Field_field (value : UInt64) :
    parseU64Field (field label (decimal value.toNat)) label = .ok value := by
  rw [parseU64Field, stripField_field, ok_bind, readUnsigned_decimal value.toNat_lt, orError_some,
    ok_bind, UInt64.ofNat_toNat]
  rfl

theorem parseUsizeField_field {value : Nat} (h : value < 2 ^ 64) :
    parseUsizeField (field label (decimal value)) label = .ok value := by
  rw [parseUsizeField, stripField_field, ok_bind, readUnsigned_decimal h, orError_some]

theorem parseU128Field_field (value : BitVec 128) :
    parseU128Field (field label (decimal value.toNat)) label = .ok value := by
  rw [parseU128Field, stripField_field, ok_bind, readUnsigned_decimal value.isLt, orError_some,
    ok_bind, BitVec.ofNat_toNat, BitVec.setWidth_eq]
  rfl

end

theorem parseOptional_formatOptional {α : Type} {format : α → Bytes}
    {parse : Bytes → Except String α} {value : Option α}
    (h : ∀ a, value = some a → format a ≠ noneField ∧ parse (format a) = .ok a) :
    parseOptional parse (formatOptional format value) = .ok value := by
  cases value with
  | none => exact if_pos rfl
  | some a =>
    obtain ⟨hne, hparse⟩ := h a rfl
    rw [formatOptional, parseOptional, if_neg hne, hparse]
    rfl

theorem decimal_ne_noneField (n : Nat) : decimal n ≠ noneField := by
  intro h
  have hmem : (45 : UInt8) ∈ decimal n := by
    rw [h]
    decide
  have hdigit := (isDecimal_decimal n).digits 45 hmem
  revert hdigit
  decide

theorem encodeString_ne_noneField (value : String) : encodeString value ≠ noneField := by
  intro h
  have heven := even_length_hexBytes (strBytes value)
  rw [show hexBytes (strBytes value) = noneField from h] at heven
  revert heven
  decide

theorem parseOptionalU64_formatOptional (value : Option UInt64) :
    parseOptionalU64 (formatOptional (fun id => decimal id.toNat) value) = .ok value := by
  apply parseOptional_formatOptional
  intro id _
  refine ⟨decimal_ne_noneField _, ?_⟩
  rw [readUnsigned_decimal id.toNat_lt, orError_some, ok_bind, UInt64.ofNat_toNat]
  rfl

theorem decodeString_encodeString (value : String) : decodeString (encodeString value) = .ok value := by
  have heven : (encodeString value).length % 2 = 0 := even_length_hexBytes (strBytes value)
  rw [decodeString, failIf_neg (not_not.mpr heven), ok_bind, encodeString, readHexBytes_hexBytes, orError_some, ok_bind,
    fromUTF8_strBytes, orError_some]

theorem decodeOptionalString_encodeOptionalString (value : Option String) :
    decodeOptionalString (encodeOptionalString value) = .ok value :=
  parseOptional_formatOptional fun text _ =>
    ⟨encodeString_ne_noneField text, decodeString_encodeString text⟩

theorem parseFamily_formatFamily (family : DurableAuditEventFamily) :
    parseFamily (strBytes (formatFamily family)) = .ok family := by
  cases family <;> decide

theorem parseRetention_formatRetention (retention : DurableAuditRetentionBoundary) :
    parseRetention (strBytes (formatRetention retention)) = .ok retention := by
  cases retention <;> decide

theorem parseReplay_formatReplay (replay : DurableAuditReplayBehavior) :
    parseReplay (strBytes (formatReplay replay)) = .ok replay := by
  cases replay <;> decide

theorem parseOptionalSurface_formatOptional (surface : Option SurfaceScope) :
    parseOptionalSurface (formatOptional (fun surface => strBytes (formatSurface surface)) surface) =
      .ok surface := by
  apply parseOptional_formatOptional
  intro surface _
  cases surface <;> decide

theorem parseOptionalPermission_formatOptional (permission : Option Permission) :
    parseOptionalPermission
        (formatOptional (fun permission => strBytes (formatPermission permission)) permission) =
      .ok permission := by
  apply parseOptional_formatOptional
  intro permission _
  cases permission <;> decide

theorem not_isBlank_of_canonical {digest : String} (h : isCanonicalSha256Digest digest = true) :
    isBlank digest = false := by
  rw [isCanonicalSha256Digest, Bool.and_eq_true] at h
  obtain ⟨rest, hrest⟩ := isPrefixOf_iff_prefix.mp h.1
  have hchars : digest.toList = 's' :: ("ha256:".toList ++ rest) := by
    rw [← hrest]
    rfl
  have hfront : digest.toList.dropWhile Catalog.isWhitespace = digest.toList := by
    rw [hchars, dropWhile_cons_of_neg (by decide)]
  have hne : (digest.toList.reverse.dropWhile Catalog.isWhitespace) ≠ [] := by
    intro hnil
    have hall := dropWhile_eq_nil_iff.mp hnil 's' (by rw [hchars]; simp)
    exact absurd hall (by decide)
  rw [isBlank, Catalog.trim, hfront, String.toList_ofList, isEmpty_reverse]
  simpa using hne

theorem parseOptionalPolicyVersion_format {policy : Option SecurityPolicyVersionEvidence}
    (h : ∀ evidence, policy = some evidence → evidence.hasVersionEvidence = true) :
    parseOptionalPolicyVersion
        (formatOptional (fun evidence => decimal evidence.policyVersion.toNat) policy)
        (encodeOptionalString (policy.map policyDigest)) = .ok policy := by
  have hversion : formatOptional (fun evidence => decimal evidence.policyVersion.toNat) policy =
      formatOptional (fun id => decimal id.toNat) (policy.map policyVersion) := by
    cases policy <;> rfl
  rw [parseOptionalPolicyVersion, hversion, parseOptionalU64_formatOptional, ok_bind,
    decodeOptionalString_encodeOptionalString, ok_bind]
  cases policy with
  | none => rfl
  | some evidence =>
    have hevidence := h evidence rfl
    have hcanonical : isCanonicalSha256Digest evidence.policyDigest = true := by
      simp only [hasVersionEvidence, Bool.and_eq_true] at hevidence
      exact hevidence.1.2
    have hnew : new evidence.policyVersion evidence.policyDigest = .ok evidence := by
      rw [new]
      simp only [ok_iff, and_true]
      refine ⟨?_, ?_⟩
      · rw [not_isBlank_of_canonical hcanonical]
        exact Bool.false_ne_true
      · rw [hevidence]
        exact Bool.false_ne_true.symm
    change some <$> Except.mapError Error.message (new
      evidence.policyVersion evidence.policyDigest) = _
    rw [hnew]
    rfl

theorem hasVersionEvidence_of_validate (h : record.validate = .ok ()) :
    ∀ evidence, record.principalBinding.policyVersion = some evidence →
      evidence.hasVersionEvidence = true := by
  intro evidence hsome
  simp only [DurableAuditReplayRecord.validate, DurableAuditPrincipalBinding.validate, ok_iff] at h
  have hpolicy := h.2.1.2.2.2.1
  rw [hsome] at hpolicy
  simpa using hpolicy

/-! ## Payloads and lines are read back -/

theorem parsePayload_payloadText (hvalid : record.validate = .ok ()) :
    parsePayload (payloadText record) record.report.evidence.checksum = .ok record := by
  have hpolicy := parseOptionalPolicyVersion_format (hasVersionEvidence_of_validate hvalid)
  have hcount : (payloadFields record).length = v2.fieldCount := rfl
  rw [parsePayload]
  simp only [splitOn_payloadText]
  rw [show (payloadFields record).headD [] = v2.tag from rfl,
    show parseJournalRecordFormat v2.tag = .ok v2 by decide, ok_bind,
    failIf_neg (not_not.mpr hcount), ok_bind]
  simp only [payloadFields, getD_cons_succ, getD_cons_zero,
    fieldCount, parseU64Field_field, parseU128Field_field,
    stripField_field, ok_bind, parseFamily_formatFamily, parseRetention_formatRetention,
    parseReplay_formatReplay, decodeString_encodeString, parseOptionalSurface_formatOptional,
    decodeOptionalString_encodeOptionalString, parseOptionalPermission_formatOptional, hpolicy,
    parseOptionalU64_formatOptional, Nat.reduceSub, Nat.reduceAdd]
  rw [hvalid]
  rfl

theorem parseHexChecksum_hexChecksum (checksum : UInt64) (label : String) :
    parseHexChecksum (hexChecksum checksum) label = .ok checksum := by
  have hlt : checksum.toNat < 16 ^ 16 := checksum.toNat_lt
  have hdigits : (hexChecksum checksum).any (fun b => (digitValue 16 b).isNone) ≠ true := by
    rw [ne_eq, any_eq_true]
    rintro ⟨b, hb, hnone⟩
    obtain ⟨d, hd, rfl⟩ := mem_hex hb
    rw [digitValue_digit (Nat.le_refl 16) hd] at hnone
    exact Bool.false_ne_true hnone
  have hplus : (hexChecksum checksum).head? ≠ some 43 := by
    intro hhead
    obtain ⟨d, hd, hdigit⟩ := mem_hex (List.mem_of_mem_head? hhead)
    exact digit_ne_plus hd hdigit.symm
  have hne : hexChecksum checksum ≠ [] := by
    intro hnil
    have hlength := length_hex 16 checksum.toNat
    rw [show hex 16 checksum.toNat = [] from hnil] at hlength
    exact absurd hlength (by decide)
  have hvalue : readUnsigned 16 (2 ^ 64) (hexChecksum checksum) = some checksum.toNat := by
    rw [readUnsigned, if_neg hplus, if_neg hne, hexChecksum, readDigits_hex hlt, Nat.zero_mul,
      Nat.zero_add, Option.filter_some, if_pos (decide_eq_true checksum.toNat_lt)]
  have hcheck : ¬ ((hexChecksum checksum).length ≠ 16 ∨
      (hexChecksum checksum).any (fun b => (digitValue 16 b).isNone) = true) := by
    rw [not_or, not_not]
    exact ⟨length_hex _ _, hdigits⟩
  rw [parseHexChecksum, failIf_neg hcheck, ok_bind, hvalue, orError_some, ok_bind, UInt64.ofNat_toNat]
  rfl

theorem rsplitOnce_checksum (hmark : strBytes label = 124 :: (strBytes label).tail)
    (hlabel : Plain (strBytes label).tail) (front : Bytes) (checksum : UInt64) :
    rsplitOnce (strBytes label) (front ++ strBytes label ++ hexChecksum checksum) =
      some (front, hexChecksum checksum) := by
  rw [hmark]
  exact rsplitOnce_append hlabel.mark_notMem (plain_hexChecksum checksum).mark_notMem

theorem Printable.not_any_high (h : Printable text) :
    ¬ text.any (fun b => decide (128 ≤ b)) = true := by
  rw [any_eq_true]
  rintro ⟨b, hb, hle⟩
  have hlt := (h b hb).2
  have hge : 128 ≤ b.toNat := UInt8.le_iff_toNat_le.mp (of_decide_eq_true hle)
  omega

theorem parseJournalLine_lineText (hascii : Printable payload)
    (hchecksum : checksum64 payload = checksum)
    (hparse : parsePayload payload checksum = .ok record) :
    parseJournalLine (lineText payload checksum (journalChainChecksum payload checksum previous)
        previous) previous = .ok ⟨record, journalChainChecksum payload checksum previous⟩ := by
  have hsplit := @rsplitOnce_checksum "|checksum=" (by decide) (by decide)
  have hsplitChain := @rsplitOnce_checksum "|chain_checksum=" (by decide) (by decide)
  have hsplitPrevious := @rsplitOnce_checksum "|previous_chain_checksum=" (by decide) (by decide)
  rw [parseJournalLine, lineText]
  simp only [hsplit, hsplitChain, hsplitPrevious, orError_some, ok_bind,
    parseHexChecksum_hexChecksum]
  simp only [ok_iff, hparse, hchecksum, true_and]
  exact ⟨hascii.not_any_high, record, rfl, rfl⟩

/-! ## What an accepted line says -/

def linePayload (line : Bytes) : Option Bytes := do
  let (chainPayload, _) ← rsplitOnce (strBytes "|checksum=") line
  let (payloadWithPreviousChecksum, _) ← rsplitOnce (strBytes "|chain_checksum=") chainPayload
  let (payload, _) ←
    rsplitOnce (strBytes "|previous_chain_checksum=") payloadWithPreviousChecksum
  pure payload

def chainLink (previous : UInt64) (payload : Bytes) : UInt64 :=
  journalChainChecksum payload (checksum64 payload) previous

/-- The chain checksum of an accepted line is the one of its payload, whatever else differs. -/
theorem parseJournalLine_eq_ok {line : Bytes} {parsed : DurableAuditJournalRecord}
    (h : parseJournalLine line previous = .ok parsed) :
    ∃ payload, linePayload line = some payload ∧ parsed.chainChecksum = chainLink previous payload ∧
      parsePayload payload (checksum64 payload) = .ok parsed.record := by
  rw [parseJournalLine] at h
  simp only [ok_iff, Prod.exists] at h
  obtain ⟨front, _, hsplit, front', _, hsplit', payload, _, hsplit'', -, _, -, -, _, -, checksum, -,
    hchecksum, hchain, record, hrecord, rfl⟩ := h
  refine ⟨payload, ?_, ?_, ?_⟩
  · rw [linePayload, hsplit, Option.bind_eq_bind, Option.bind_some]
    simp only [hsplit', hsplit'', Option.bind_some]
    rfl
  · rw [chainLink, hchecksum]
    exact hchain.symm
  · rw [hchecksum]
    exact hrecord

theorem parsePayload_eq_ok (h : parsePayload payload checksum = .ok record) :
    record.validate = .ok () ∧ record.report.evidence.checksum = checksum := by
  rw [parsePayload] at h
  obtain ⟨format, -, h⟩ := bind_eq_ok.mp h
  -- The field count and the fields up to the permission, which both formats have.
  iterate 13 obtain ⟨_, -, h⟩ := bind_eq_ok.mp h
  cases format with
  | v1 =>
    iterate 4 obtain ⟨_, -, h⟩ := bind_eq_ok.mp h
    obtain ⟨_, hvalid, h⟩ := bind_eq_ok.mp h
    cases pure_eq_ok.mp h
    exact ⟨mapError_eq_ok.mp hvalid, rfl⟩
  | v2 =>
    iterate 6 obtain ⟨_, -, h⟩ := bind_eq_ok.mp h
    obtain ⟨_, hvalid, h⟩ := bind_eq_ok.mp h
    cases pure_eq_ok.mp h
    exact ⟨mapError_eq_ok.mp hvalid, rfl⟩

end Andromeda.Audit
