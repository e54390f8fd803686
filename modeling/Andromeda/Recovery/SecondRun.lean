import Andromeda.Recovery.RowIdempotence
import Andromeda.Recovery.SwitchRestart

/-!
# A second run over the same records

Redo of a list of records on pages that already carry a part of it. The run follows
the first one step for step if no page has two row records in that part; otherwise it
stops at the first of the two, which is older than its page.
-/

namespace Andromeda

open Fallible HeapRedoPageState Effect List

/-! ## Contexts with the same manifest state -/

structure SameManifest (c d : ReplayContext) : Prop where
  activeManifest : c.activeManifest = d.activeManifest
  knownManifestCrcByVersion : c.knownManifestCrcByVersion = d.knownManifestCrcByVersion
  latestCheckpointEndLsn : c.latestCheckpointEndLsn = d.latestCheckpointEndLsn
  requireCheckpointEnd : c.requireCheckpointEndForManifestSwitch =
    d.requireCheckpointEndForManifestSwitch

variable {c c' d d' : ReplayContext} {r : WalRecord}

theorem SameManifest.recordResult (h : SameManifest c d) (result result' : ReplayResult) :
    SameManifest (c.recordResult result) (d.recordResult result') :=
  ⟨by simpa using h.activeManifest, by simpa using h.knownManifestCrcByVersion,
    by simpa using h.latestCheckpointEndLsn, by simpa using h.requireCheckpointEnd⟩

theorem SameManifest.switchStep {payload : ManifestSwitchPayload} (h : SameManifest c d)
    (hstep : SwitchStep r c payload) : SwitchStep r d payload := by
  have hrejection : manifestSwitchRejection d r.lsn payload =
      manifestSwitchRejection c r.lsn payload := by
    unfold manifestSwitchRejection ReplayContext.expectedManifestCrc
    rw [h.activeManifest, h.knownManifestCrcByVersion, h.latestCheckpointEndLsn,
      h.requireCheckpointEnd]
  exact ⟨hstep.parsed, hrejection.trans hstep.accepted, h.activeManifest ▸ hstep.installed,
    h.activeManifest ▸ hstep.forward⟩

theorem SameManifest.installManifest (h : SameManifest c d) (lsn : Lsn)
    (payload : ManifestSwitchPayload) :
    SameManifest (c.installManifest lsn payload) (d.installManifest lsn payload) :=
  ⟨by simp [ReplayContext.installManifest, h.activeManifest],
    by simp [ReplayContext.installManifest, h.knownManifestCrcByVersion],
    h.latestCheckpointEndLsn, h.requireCheckpointEnd⟩

theorem redoRecord_other_simulates (hredo : r.kind.isRedoRelevant = true)
    (hrow : r.kind.isRow = false) (hsame : r.kind = .manifestSwitch → SameManifest c d)
    (h : redoRecord r c = (.ok (), c')) :
    ∃ d', redoRecord r d = (.ok (), d') ∧ (SameManifest c d → SameManifest c' d') := by
  by_cases hswitch : r.kind = .manifestSwitch
  · obtain ⟨payload, hstep, rfl⟩ := (redoRecord_switch hswitch).mp h
    have hcd := hsame hswitch
    exact ⟨_, (redoRecord_switch hswitch).mpr ⟨payload, hcd.switchStep hstep, rfl⟩,
      fun _ => (hcd.installManifest r.lsn payload).recordResult _ _⟩
  · obtain ⟨result, evidence, hpassive⟩ := redoRecord_passive ⟨hredo, hrow, hswitch⟩
    obtain ⟨hok, rfl⟩ := (hpassive c c').mp h
    refine ⟨_, (hpassive d _).mpr ⟨hok, rfl⟩, fun hcd => SameManifest.recordResult ?_ _ _⟩
    exact ⟨hcd.activeManifest, hcd.knownManifestCrcByVersion, hcd.latestCheckpointEndLsn,
      hcd.requireCheckpointEnd⟩

theorem redoRecord_row_simulates {payload : HeapRowRedoPayloadV1} {page' : HeapRedoPageState}
    (hrow : r.kind.isRow = true) (hstep : RowStep r c payload page')
    (hpage : (c.heapRedoPages payload.pageId).map content =
      (d.heapRedoPages payload.pageId).map content) : ∃ other', redoRecord r d =
        (.ok (), (d.setHeapRedoPage other' payload.pageId).recordResult (.applied r.lsn r.kind)) ∧
      page'.content = other'.content := by
  have hbase : (c.heapRedoPageOrNew payload.pageId payload.pageSize).content =
      (d.heapRedoPageOrNew payload.pageId payload.pageSize).content := by
    have := congrArg (Option.getD · (redoCreated payload.pageId payload.pageSize).content) hpage
    simpa only [ReplayContext.heapRedoPageOrNew, Option.getD_map] using this
  obtain ⟨other', hother, hcontent⟩ :=
    applyRow_of_content hbase hstep.applied
  have hsize := congrArg pageSize hbase
  have hexists : payload.operation = .insert ∨ d.heapRedoPages payload.pageId ≠ none := by
    refine hstep.base.imp_right fun hsome hnone => hsome ?_
    simpa [hnone] using hpage
  have hrowStep : RowStep r d payload other' :=
    ⟨hstep.decoded, hexists, hsize.symm.trans hstep.size, hother⟩
  exact ⟨other', (redoRecord_row hrow).mpr ⟨payload, other', hrowStep, rfl⟩, hcontent⟩

section Run

variable {records : List WalRecord} {pageId : PageId} {mid : ReplayContext}

theorem mem_pagesOf :
    pageId ∈ pagesOf records ↔ ∃ r ∈ records, ∃ p, r.rowPayload = some p ∧ p.pageId = pageId := by
  simp [pagesOf]

theorem pagesOf_append (xs ys : List WalRecord) : pagesOf (xs ++ ys) = pagesOf xs ++ pagesOf ys :=
  filterMap_append

def OncePerPage (records : List WalRecord) : Prop := (pagesOf records).Nodup
deriving Decidable

theorem redoRecord_page (pageId : PageId) (hredo : r.kind.isRedoRelevant = true)
    (h : redoRecord r c = (.ok (), c')) :
    (pageId ∉ pagesOf [r] ∧ c'.heapRedoPages pageId = c.heapRedoPages pageId) ∨
      ∃ payload page', r.rowPayload = some payload ∧ payload.pageId = pageId ∧
        RowStep r c payload page' ∧ c'.heapRedoPages pageId = some page' := by
  rcases redoRecord_heapRedoPages hredo h with
    ⟨hrow, hsame⟩ | ⟨payload, page', hrow, hstep, hpages⟩
  · exact .inl ⟨by simp [pagesOf, WalRecord.rowPayload, hrow], by rw [hsame]⟩
  · have hpayload := hstep.rowPayload hrow
    by_cases hid : pageId = payload.pageId
    · exact .inr ⟨payload, page', hpayload, hid.symm, hstep, by simp [hpages, hid]⟩
    · exact .inl ⟨by simpa [pagesOf, hpayload] using hid, by simp [hpages, hid]⟩

theorem each_redo_frame (hredo : ∀ r ∈ records, r.kind.isRedoRelevant = true)
    (hpage : pageId ∉ pagesOf records) (h : each redoRecord records c = (.ok (), c')) :
    c'.heapRedoPages pageId = c.heapRedoPages pageId := by
  refine each_preserves (fun d => d.heapRedoPages pageId = c.heapRedoPages pageId) ?_ rfl h
  intro r hr d d' hd hstep
  rcases redoRecord_page pageId (hredo r hr) hstep with ⟨-, hsame⟩ | ⟨payload, page', hpayload, hid, -⟩
  · exact hsame.trans hd
  · exact absurd (mem_pagesOf.mpr ⟨r, hr, payload, hpayload, hid⟩) hpage

theorem each_redo_pageLsn (hredo : ∀ r ∈ records, r.kind.isRedoRelevant = true)
    (hpage : pageId ∈ pagesOf records) (h : each redoRecord records c = (.ok (), c')) :
    ∃ r ∈ records, ∃ page, c'.heapRedoPages pageId = some page ∧ page.pageLsn = r.lsn := by
  refine each_invariant (fun done d => pageId ∈ pagesOf done → ∃ r ∈ done, ∃ page,
    d.heapRedoPages pageId = some page ∧ page.pageLsn = r.lsn) ?_ (by simp [pagesOf]) h hpage
  intro before r after heq d d' hd hstep hmem
  rcases redoRecord_page pageId (hredo r (by simp [← heq])) hstep with
    ⟨hnot, hsame⟩ | ⟨payload, page', -, -, hrow, hset⟩
  · rw [pagesOf_append, mem_append] at hmem
    obtain ⟨r', hr', page, hsome, hlsn⟩ := hd (hmem.resolve_right hnot)
    exact ⟨r', by simp [hr'], page, hsame.trans hsome, hlsn⟩
  · refine ⟨r, by simp, page', hset, ?_⟩
    rw [(applyRow_header hrow.applied).2]
    exact (heapRowPayload_eq_ok.mp hrow.decoded).2.2

structure WroteFresh (ctx : ReplayContext) (r : WalRecord) (p : HeapRowRedoPayloadV1)
    (page : HeapRedoPageState) : Prop where
  decoded : heapRowPayload r r.kind = .ok p
  insert : p.operation = .insert
  applied : (redoCreated p.pageId p.pageSize).applyRow p = .ok page
  stored : ctx.heapRedoPages p.pageId = some page

/-- Where no page has two row records, each record's page is as the record left it. -/
theorem each_redo_wroteFresh (hredo : ∀ r ∈ records, r.kind.isRedoRelevant = true)
    (honce : OncePerPage records) (hempty : c.heapRedoPages = fun _ => none)
    (h : each redoRecord records c = (.ok (), c')) :
    ∀ r ∈ records, ∀ p, r.rowPayload = some p → ∃ page, WroteFresh c' r p page := by
  have hrun := each_invariant (fun done d =>
    (∀ r ∈ done, ∀ p, r.rowPayload = some p → ∃ page, WroteFresh d r p page) ∧
      ∀ pageId, pageId ∉ pagesOf done → d.heapRedoPages pageId = none) ?_
      ⟨by simp, by simp [hempty]⟩ h
  · exact hrun.1
  rintro before x after rfl d d' ⟨hwrote, huntouched⟩ hstep
  have hdisjoint : ∀ pageId ∈ pagesOf before, pageId ∉ pagesOf [x] := by
    rw [OncePerPage, ← singleton_append, pagesOf_append, pagesOf_append, nodup_append'] at honce
    exact fun pageId hbefore hmem => honce.2.2 hbefore (mem_append_left _ hmem)
  have hcases := fun pageId => redoRecord_page pageId (hredo x (by simp)) hstep
  -- a page without the new record is as it was
  have hframe : ∀ pageId, pageId ∉ pagesOf [x] →
      d'.heapRedoPages pageId = d.heapRedoPages pageId := by
    intro pageId hpage
    rcases hcases pageId with ⟨-, hsame⟩ | ⟨payload, page', hpayload, hid, -⟩
    · exact hsame
    · exact absurd (mem_pagesOf.mpr ⟨x, by simp, payload, hpayload, hid⟩) hpage
  constructor
  · intro r hr p hp
    rcases mem_append.mp hr with hr | hr
    · obtain ⟨page, hfresh⟩ := hwrote r hr p hp
      have hpage := hdisjoint p.pageId (mem_pagesOf.mpr ⟨r, hr, p, hp, rfl⟩)
      exact ⟨page, hfresh.decoded, hfresh.insert, hfresh.applied,
        (hframe _ hpage).trans hfresh.stored⟩
    · obtain rfl := mem_singleton.mp hr
      have hmem : p.pageId ∈ pagesOf [r] := mem_pagesOf.mpr ⟨r, by simp, p, hp, rfl⟩
      rcases hcases p.pageId with ⟨hnot, -⟩ | ⟨payload, page', hpayload, -, hrow, hset⟩
      · exact absurd hmem hnot
      obtain rfl : p = payload := Option.some.inj (hp.symm.trans hpayload)
      have hnone : d.heapRedoPages p.pageId = none :=
        huntouched p.pageId fun hbefore => hdisjoint p.pageId hbefore hmem
      have happlied := hrow.applied
      rw [ReplayContext.heapRedoPageOrNew, hnone] at happlied
      exact ⟨page', hrow.decoded, hrow.base.resolve_right (not_not.mpr hnone), happlied, hset⟩
  · intro pageId hpage
    rw [pagesOf_append, mem_append, not_or] at hpage
    exact (hframe pageId hpage.2).trans (huntouched pageId hpage.1)

/-! ## A second run over the same records -/

def ReplayContext.contents (ctx : ReplayContext) (pageId : PageId) : Option HeapRedoPageState :=
  (ctx.heapRedoPages pageId).map content

open ReplayContext

theorem contents_of_rowStep (ctx : ReplayContext) (page : HeapRedoPageState) (pageId : PageId)
    (result : ReplayResult) : ((ctx.setHeapRedoPage page pageId).recordResult result).contents =
      Function.update ctx.contents pageId (some page.content) := by
  funext pageId'
  by_cases hid : pageId' = pageId <;> simp [contents, hid]

theorem contents_congr (h : c'.heapRedoPages = c.heapRedoPages) : c'.contents = c.contents := by
  unfold contents
  rw [h]

/-- The two contexts treat the switches among the records alike. -/
def SwitchesAlike (records : List WalRecord) (c d : ReplayContext) : Prop :=
  SameManifest c d ∨ ∀ r ∈ records, r.kind ≠ .manifestSwitch

theorem SwitchesAlike.step (h : SwitchesAlike records c d) (hc : SameManifest c d →
    SameManifest c' d') : SwitchesAlike records c' d' :=
  h.imp hc id

theorem SwitchesAlike.sameManifest (h : SwitchesAlike records c d) (hr : r ∈ records)
    (hkind : r.kind = .manifestSwitch) : SameManifest c d :=
  h.resolve_right fun hnone => hnone r hr hkind

theorem sameManifest_setHeapRedoPage (page page' : HeapRedoPageState) (pageId pageId' : PageId)
    (result result' : ReplayResult) (h : SameManifest c d) :
    SameManifest ((c.setHeapRedoPage page pageId).recordResult result)
      ((d.setHeapRedoPage page' pageId').recordResult result') := by
  apply SameManifest.recordResult
  exact ⟨h.activeManifest, h.knownManifestCrcByVersion, h.latestCheckpointEndLsn,
    h.requireCheckpointEnd⟩

theorem contents_of_other (hredo : r.kind.isRedoRelevant = true) (hrow : r.kind.isRow = false)
    (h : redoRecord r c = (.ok (), c')) : c'.contents = c.contents := by
  rcases redoRecord_heapRedoPages hredo h with ⟨-, hsame⟩ | ⟨payload, page', hrow', -⟩
  · exact contents_congr hsame
  · exact absurd (hrow.symm.trans hrow') Bool.false_ne_true

theorem redoRecord_simulates (hredo : r.kind.isRedoRelevant = true) (hr : r ∈ records)
    (hcontents : c.contents = d.contents) (halike : SwitchesAlike records c d)
    (h : redoRecord r c = (.ok (), c')) :
    ∃ d', redoRecord r d = (.ok (), d') ∧ c'.contents = d'.contents ∧
      SwitchesAlike records c' d' := by
  cases hrow : r.kind.isRow with
  | true =>
    obtain ⟨payload, page', hstep, rfl⟩ := (redoRecord_row hrow).mp h
    obtain ⟨other', hd', hcontent⟩ :=
      redoRecord_row_simulates hrow hstep (congrFun hcontents payload.pageId)
    refine ⟨_, hd', ?_, halike.step (sameManifest_setHeapRedoPage _ _ _ _ _ _)⟩
    rw [contents_of_rowStep, contents_of_rowStep, hcontents, hcontent]
  | false =>
    obtain ⟨d', hd', hmanifest⟩ :=
      redoRecord_other_simulates hredo hrow (halike.sameManifest hr) h
    refine ⟨d', hd', ?_, halike.step hmanifest⟩
    rw [contents_of_other hredo hrow h, contents_of_other hredo hrow hd', hcontents]

theorem redoRecord_again (hredo : r.kind.isRedoRelevant = true) (hr : r ∈ records)
    (hwrote : ∀ p, r.rowPayload = some p → ∃ page, WroteFresh mid r p page)
    (hcontents : mid.contents = d.contents) (halike : SwitchesAlike records c d)
    (h : redoRecord r c = (.ok (), c')) :
    ∃ d', redoRecord r d = (.ok (), d') ∧ mid.contents = d'.contents ∧
      SwitchesAlike records c' d' := by
  cases hrow : r.kind.isRow with
  | true =>
    obtain ⟨payload, page', hstep, rfl⟩ := (redoRecord_row hrow).mp h
    obtain ⟨page, hfresh⟩ := hwrote payload (hstep.rowPayload hrow)
    have hvalid := (HeapRowRedoPayloadV1.decode_valid
      (heapRowPayload_eq_ok.mp hfresh.decoded).2.1).1
    have hbase : mid.heapRedoPageOrNew payload.pageId payload.pageSize = page := by
      rw [heapRedoPageOrNew, hfresh.stored]
      rfl
    have hagain : RowStep r mid payload page := by
      refine ⟨hfresh.decoded, .inl hfresh.insert, ?_, ?_⟩ <;> rw [hbase]
      · exact (applyRow_header hfresh.applied).1.pageSize
      · exact applyRow_again hvalid hfresh.applied
    obtain ⟨other', hd', hcontent⟩ :=
      redoRecord_row_simulates hrow hagain (congrFun hcontents payload.pageId)
    refine ⟨_, hd', ?_, halike.step (sameManifest_setHeapRedoPage _ _ _ _ _ _)⟩
    have hsame : mid.contents payload.pageId = some other'.content := by
      rw [contents, hfresh.stored, ← hcontent]
      rfl
    rw [contents_of_rowStep, ← hcontents, ← hsame, Function.update_eq_self]
  | false =>
    obtain ⟨d', hd', hmanifest⟩ :=
      redoRecord_other_simulates hredo hrow (halike.sameManifest hr) h
    exact ⟨d', hd', hcontents.trans (contents_of_other hredo hrow hd').symm, halike.step hmanifest⟩

/-- A second run over a log, on pages that carry the result of its first part, ends with
the pages of the first run, if no page has two row records in that part. -/
theorem each_redo_restarted {front back : List WalRecord} {final : ReplayContext}
    (hredo : ∀ r ∈ front ++ back, r.kind.isRedoRelevant = true)
    (hempty : c.heapRedoPages = fun _ => none) (hfront : each redoRecord front c = (.ok (), mid))
    (hback : each redoRecord back mid = (.ok (), final)) (honce : OncePerPage front)
    (hcontents : mid.contents = d.contents) (halike : SwitchesAlike (front ++ back) c d) :
    ∃ final', each redoRecord (front ++ back) d = (.ok (), final') ∧
      final.contents = final'.contents := by
  have hwrote := each_redo_wroteFresh (fun r hr => hredo r (mem_append_left _ hr)) honce
    hempty hfront
  obtain ⟨middle, hfront', hmiddle, halike'⟩ := each_simulates
    (fun c d => mid.contents = d.contents ∧ SwitchesAlike (front ++ back) c d)
    (fun r hr c c' d hrel hstep => redoRecord_again (hredo r (mem_append_left _ hr))
      (mem_append_left _ hr) (hwrote r hr) hrel.1 hrel.2 hstep)
    ⟨hcontents, halike⟩ hfront
  obtain ⟨final', hback', hfinal, -⟩ := each_simulates
    (fun c d => c.contents = d.contents ∧ SwitchesAlike (front ++ back) c d)
    (fun r hr c c' d hrel hstep => redoRecord_simulates (hredo r (mem_append_right _ hr))
      (mem_append_right _ hr) hrel.1 hrel.2 hstep)
    ⟨hmiddle, halike'⟩ hback
  exact ⟨final', each_append_eq_ok.mpr ⟨middle, hfront', hback'⟩, hfinal⟩

/-! ## Where a second run stops -/

theorem exists_first_of_two (h : ¬ OncePerPage records) :
    ∃ before r after p, records = before ++ r :: after ∧ r.rowPayload = some p ∧
      p.pageId ∉ pagesOf before ∧ p.pageId ∈ pagesOf after := by
  induction records with
  | nil => exact absurd nodup_nil h
  | cons x xs ih =>
    by_cases htwice : ∃ q, x.rowPayload = some q ∧ q.pageId ∈ pagesOf xs
    · obtain ⟨q, hx, hq⟩ := htwice
      exact ⟨[], x, xs, q, rfl, hx, by simp [pagesOf], hq⟩
    have hrest : ¬ OncePerPage xs := by
      refine fun honce => h ?_
      cases hx : x.rowPayload with
      | none => simpa [OncePerPage, pagesOf, hx] using honce
      | some q =>
        have hq : q.pageId ∉ pagesOf xs := fun hq => htwice ⟨q, hx, hq⟩
        simpa [OncePerPage, pagesOf, hx] using nodup_cons.mpr ⟨hq, honce⟩
    obtain ⟨before, r, after, p, rfl, hp, hbefore, hafter⟩ := ih hrest
    refine ⟨x :: before, r, after, p, rfl, hp, ?_, hafter⟩
    rw [mem_pagesOf]
    rintro ⟨y, hy, q, hq, hid⟩
    rcases mem_cons.mp hy with rfl | hy
    · exact htwice ⟨q, hq, mem_pagesOf.mpr ⟨r, by simp, p, hp, hid.symm⟩⟩
    · exact hbefore (mem_pagesOf.mpr ⟨y, hy, q, hq, hid⟩)

/-- A second run over the records whose result the pages carry gets through only if no
page has two of them: the first of two is older than its page. -/
theorem oncePerPage_of_each_redo (hinc : Increasing records)
    (hredo : ∀ r ∈ records, r.kind.isRedoRelevant = true)
    (hrun : each redoRecord records c = (.ok (), mid))
    (hpages : ∀ pageId page, mid.heapRedoPages pageId = some page →
      ∃ other, d.heapRedoPages pageId = some other ∧ other.pageLsn = page.pageLsn)
    (hagain : each redoRecord records d = (.ok (), d')) : OncePerPage records := by
  by_contra honce
  obtain ⟨before, r, after, p, rfl, hp, hbefore, hafter⟩ := exists_first_of_two honce
  -- the first run left the page at the LSN of a later record
  obtain ⟨c₁, -, hrest⟩ := each_append_eq_ok.mp hrun
  obtain ⟨c₂, -, hrest⟩ := each_cons_eq_ok.mp hrest
  obtain ⟨last, hlast, page, hpage, hlsn⟩ :=
    each_redo_pageLsn (fun r' hr' => hredo r' (by simp [hr'])) hafter hrest
  obtain ⟨other, hother, hotherLsn⟩ := hpages p.pageId page hpage
  have hlt : r.lsn < last.lsn :=
    (pairwise_cons.mp (pairwise_append.mp hinc).2.1).1 last hlast
  -- the second run meets the page as it was given
  obtain ⟨d₁, hfront, hrest⟩ := each_append_eq_ok.mp hagain
  obtain ⟨d₂, hstep, -⟩ := each_cons_eq_ok.mp hrest
  have hsame : d₁.heapRedoPages p.pageId = some other :=
    (each_redo_frame (fun r' hr' => hredo r' (by simp [hr'])) hbefore hfront).trans hother
  have hrow : r.kind.isRow = true := (rowPayload_eq_some.mp hp).1
  obtain ⟨payload, page', hrowStep, -⟩ := (redoRecord_row hrow).mp hstep
  obtain rfl : p = payload := Option.some.inj (hp.symm.trans (hrowStep.rowPayload hrow))
  have htransition := (applyRow_eq_ok.mp hrowStep.applied).1.current
  rw [heapRedoPageOrNew, hsame, Option.getD_some, hotherLsn, hlsn,
    (heapRowPayload_eq_ok.mp hrowStep.decoded).2.2] at htransition
  rcases htransition with heq | ⟨hlt', -⟩
  · exact UInt64.lt_irrefl _ (heq ▸ hlt)
  · exact UInt64.lt_irrefl _ (UInt64.lt_trans hlt hlt')

end Run

end Andromeda
