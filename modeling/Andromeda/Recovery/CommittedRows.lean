import Andromeda.Recovery.RowHistory

/-!
# Recovery of committed rows

What a replay from an empty context makes of a row history. The planner drops the
records of transactions that did not commit, while every row record names the page LSN
left by the row record before it, committed or not. So a committed record is redone
only if no dropped record stands directly before it on its page; and a page never
reopens a closed slot. Under these two conditions the pages hold the committed rows
exactly.
-/

namespace Andromeda

open Fallible CellHistory Effect List HeapRedoPageState RowOp

/-! ## Pages that match a history -/

structure PageMatches (done : List WalRecord) (pageId : PageId) (state : HeapRedoPageState) :
    Prop where
  last : ∃ r p, lastOnPage pageId done = some r ∧ r.rowPayload = some p ∧
    state.pageLsn = r.lsn ∧ state.pageSize = p.pageSize
  cells : ∀ slotId, state.cells slotId = rowsAfter done (pageId, slotId)

structure RowsMatch (done : List WalRecord) (ctx : ReplayContext) : Prop where
  untouched : ∀ pageId, ctx.heapRedoPages pageId = none → lastOnPage pageId done = none
  page : ∀ pageId state, ctx.heapRedoPages pageId = some state → PageMatches done pageId state

structure BaseMatches (done : List WalRecord) (p : HeapRowRedoPayloadV1)
    (state : HeapRedoPageState) : Prop where
  pageLsn : state.pageLsn = lastLsnOnPage p.pageId done
  pageSize : state.pageSize = p.pageSize
  cells : state.cells = fun slotId => rowsAfter done (p.pageId, slotId)

variable {pageId : PageId} {done : List WalRecord} {r : WalRecord} {p : HeapRowRedoPayloadV1}

theorem pageId_of_onPage (hp : r.rowPayload = some p) (hon : r.onPage pageId = true) :
    p.pageId = pageId := by
  obtain ⟨q, hq, hid⟩ := onPage_iff.mp hon
  exact Option.some.inj (hp.symm.trans hq) ▸ hid

theorem RowsMatch.base {ctx : ReplayContext} (h : RowsMatch done ctx)
    (hsizes : ∀ r' ∈ done, ∀ p', r'.rowPayload = some p' → p'.pageId = p.pageId →
      p'.pageSize = p.pageSize) :
    BaseMatches done p (ctx.heapRedoPageOrNew p.pageId p.pageSize) := by
  unfold ReplayContext.heapRedoPageOrNew
  cases hpage : ctx.heapRedoPages p.pageId with
  | none =>
    have hlast := h.untouched p.pageId hpage
    refine ⟨?_, rfl, ?_⟩
    · rw [lastLsnOnPage, hlast]
      rfl
    · funext slotId
      rw [rowsAfter_of_lastOnPage_none hlast]
      rfl
  | some state =>
    have hmatch := h.page p.pageId state hpage
    obtain ⟨r, q, hlast, hq, hlsn, hsize⟩ := hmatch.last
    obtain ⟨hmem, hon⟩ := lastOnPage_mem hlast
    refine ⟨?_, hsize.trans (hsizes r hmem q hq (pageId_of_onPage hq hon)), funext hmatch.cells⟩
    rw [lastLsnOnPage, hlast]
    exact hlsn

theorem rowsAfter_concat {op : RowOp (PageId × UInt16) Bytes} (hop : r.rowOp = some op) :
    rowsAfter (done ++ [r]) = op.apply (rowsAfter done) := by
  have hsingle : [r].filterMap WalRecord.rowOp = [op] := by simp [hop]
  rw [rowsAfter, filterMap_append, hsingle, CellHistory.run_concat, rowsAfter]

theorem rowsAfter_concat_page (hp : r.rowPayload = some p) :
    (fun slotId => rowsAfter (done ++ [r]) (p.pageId, slotId)) =
      p.rowOp.apply fun slotId => rowsAfter done (p.pageId, slotId) := by
  rw [rowsAfter_concat (rowOp_eq_some.mpr ⟨p, hp, rfl⟩)]
  exact apply_mapKey (Prod.mk_right_injective p.pageId) p.rowOp (rowsAfter done)

theorem rowsAfter_concat_other (hp : r.rowPayload = some p) (hne : pageId ≠ p.pageId)
    (slotId : UInt16) :
    rowsAfter (done ++ [r]) (pageId, slotId) = rowsAfter done (pageId, slotId) := by
  have hop := rowOp_eq_some.mpr ⟨p, hp, rfl⟩
  rw [rowsAfter_concat hop]
  apply apply_of_not_mem
  exact fun hkey => hne (pageId_of_onPage hp (onPage_of_mem_keys hop hkey)).symm

theorem exists_split_of_filter {keep : WalRecord → Bool} {log rest : List WalRecord}
    (h : done ++ r :: rest = log.filter keep) :
    ∃ before after, log = before ++ r :: after ∧ before.filter keep = done ∧ keep r = true := by
  obtain ⟨front, back, hlog, hfront, hback⟩ := filter_eq_append_iff.mp h.symm
  obtain ⟨gap, after, hback, hgap, hr, -⟩ := filter_eq_cons_iff.mp hback
  refine ⟨front ++ gap, after, ?_, ?_, hr⟩
  · rw [hlog, hback, append_assoc]
  · rw [filter_append, hfront, filter_eq_nil_iff.mpr hgap, append_nil]

/-! ## One committed row record -/

section Step

variable {log before after : List WalRecord} {r : WalRecord} {p : HeapRowRedoPayloadV1}
  {ctx ctx' : ReplayContext}

theorem mem_of_split (hsplit : log = before ++ r :: after) : r ∈ log := by
  rw [hsplit]
  simp

theorem mem_of_mem_before (hsplit : log = before ++ r :: after) {x : WalRecord}
    (hx : x ∈ before) : x ∈ log := by
  rw [hsplit]
  exact mem_append_left _ hx

def keptBy (log : List WalRecord) (r : WalRecord) : Bool := ShouldReplay 0 log r

theorem RowHistory.keptBy_iff (h : RowHistory log) (hr : r ∈ log) :
    keptBy log r = true ↔ r.kind.isRow = true ∧ CommittedIn log r := by
  rw [keptBy, decide_eq_true_iff]
  exact h.shouldReplay_iff hr

theorem RowHistory.resultingPageLsn (h : RowHistory log) (hr : r ∈ log)
    (hp : r.rowPayload = some p) : p.resultingPageLsn = r.lsn := by
  obtain ⟨q, hq, hresulting⟩ := h.payloads r hr (rowPayload_eq_some.mp hp).1
  exact Option.some.inj (hp.symm.trans hq) ▸ hresulting

variable (h : RowHistory log) (hsplit : log = before ++ r :: after) (hp : r.rowPayload = some p)

include h hsplit hp

/-- On the keys of a committed record the dropped records left nothing. -/
theorem RowHistory.rowsAfter_kept (hcommitted : CommittedIn log r) {slotId : UInt16}
    (hslot : slotId ∈ p.rowOp.keys) : rowsAfter (before.filter (keptBy log)) (p.pageId, slotId) =
      rowsAfter before (p.pageId, slotId) := by
  apply CellHistory.run_filter
  intro x hx op' hop' hkey
  obtain ⟨q, hq, -⟩ := rowOp_eq_some.mp hop'
  refine (h.keptBy_iff (mem_of_mem_before hsplit hx)).mpr ⟨(rowPayload_eq_some.mp hq).1, ?_⟩
  by_cases hsame : x.transactionId = r.transactionId
  · obtain ⟨id, hid, hcommit⟩ := hcommitted
    exact ⟨id, hsame.trans hid, hcommit⟩
  · have hmem : (p.pageId, slotId) ∈ (p.rowOp.mapKey (Prod.mk p.pageId)).keys := by
      rw [keys_mapKey]
      exact mem_map_of_mem hslot
    exact h.isolated before r after hsplit x hx _ (rowOp_eq_some.mpr ⟨p, hp, rfl⟩) op' hop'
      ⟨_, hmem, hkey⟩ hsame

omit h hsplit hp in
theorem lastLsnOnPage_lt {records : List WalRecord} {lsn : Lsn} (hlsn : lsn ≠ 0)
    (h : ∀ r' ∈ records, r'.lsn < lsn) : lastLsnOnPage pageId records < lsn := by
  unfold lastLsnOnPage
  cases hlast : lastOnPage pageId records with
  | none => exact UInt64.pos_iff_ne_zero.mpr hlsn
  | some r' => exact h r' (lastOnPage_mem hlast).1

omit h hsplit hp in
/-- A page created on the spot can only take an insert. -/
theorem page_exists_of_enabled (henabled : p.rowOp.Enabled
      (ctx.heapRedoPageOrNew p.pageId p.pageSize).cells) :
    p.operation = .insert ∨ ctx.heapRedoPages p.pageId ≠ none := by
  refine or_iff_not_imp_right.mpr fun hpage => ?_
  rw [not_not] at hpage
  simp only [ReplayContext.heapRedoPageOrNew, hpage, Option.getD_none,
    HeapRowRedoPayloadV1.rowOp] at henabled
  cases hop : p.operation with
  | insert => rfl
  | delete =>
    rw [hop] at henabled
    exact absurd henabled Cell.not_isLive_fresh
  | update =>
    rw [hop] at henabled
    exact absurd henabled.1 Cell.not_isLive_fresh

theorem RowHistory.lsnTransition_iff {state : HeapRedoPageState}
    (hlsn : state.pageLsn = lastLsnOnPage p.pageId (before.filter (keptBy log))) :
    state.LsnTransition p ↔ ∀ r', lastOnPage p.pageId before = some r' → CommittedIn log r' := by
  have hr : r ∈ log := mem_of_split hsplit
  have hresulting := h.resultingPageLsn hr hp
  have hne : r.lsn ≠ 0 := (h.valid r hr).lsn_ne_zero
  have hinc : Increasing (before ++ r :: after) := hsplit ▸ h.chained.gapFree.increasing
  have hbelow : state.pageLsn < p.resultingPageLsn := by
    rw [hlsn, hresulting]
    refine lastLsnOnPage_lt hne fun r' hr' => ?_
    exact (pairwise_append.mp hinc).2.2 r' (mem_filter.mp hr').1 r (by simp)
  have hkept : ∀ r', lastOnPage p.pageId before = some r' →
      (keptBy log r' = true ↔ CommittedIn log r') := by
    intro r' hlast
    obtain ⟨hmem, hon⟩ := lastOnPage_mem hlast
    obtain ⟨q, hq, -⟩ := onPage_iff.mp hon
    simp [h.keptBy_iff (mem_of_mem_before hsplit hmem), (rowPayload_eq_some.mp hq).1]
  have hfilter : state.pageLsn = p.expectedPreviousPageLsn ↔
      ∀ r', lastOnPage p.pageId before = some r' → keptBy log r' = true := by
    rw [hlsn, h.expected before r after hsplit p hp]
    apply lastLsnOnPage_filter (hinc.sublist (sublist_append_left _ _))
    exact fun r' hr' => (h.valid r' (mem_of_mem_before hsplit hr')).lsn_ne_zero
  constructor
  · intro htransition r' hlast
    rcases htransition.current with heq | ⟨-, heq⟩
    · exact absurd (heq ▸ hbelow) (UInt64.lt_irrefl _)
    · exact (hkept r' hlast).mp (hfilter.mp heq r' hlast)
  · intro hcommitted
    refine ⟨hresulting ▸ hne, .inr ⟨hbelow, hfilter.mpr ?_⟩⟩
    exact fun r' hlast => (hkept r' hlast).mpr (hcommitted r' hlast)

variable (hmatch : RowsMatch (before.filter (keptBy log)) ctx)

include hmatch

theorem RowHistory.base :
    BaseMatches (before.filter (keptBy log)) p (ctx.heapRedoPageOrNew p.pageId p.pageSize) := by
  apply hmatch.base
  intro r' hr' p' hp' hpage
  exact h.sizes r' (mem_of_mem_before hsplit (mem_filter.mp hr').1) r (mem_of_split hsplit)
    p' p hp' hp hpage

section

variable (hcommitted : CommittedIn log r)
include hcommitted

theorem RowHistory.enabled_base :
    p.rowOp.Enabled (ctx.heapRedoPageOrNew p.pageId p.pageSize).cells := by
  rw [(h.base hsplit hp hmatch).cells]
  have henabled := h.possible before r after hsplit _ (rowOp_eq_some.mpr ⟨p, hp, rfl⟩)
  rw [enabled_mapKey (Prod.mk_right_injective p.pageId)] at henabled
  exact (enabled_congr fun _ hslot => h.rowsAfter_kept hsplit hp hcommitted hslot).mpr henabled

theorem RowHistory.redoRecord_iff : redoRecord r ctx = (.ok (), ctx') ↔ ∃ page',
      (ctx.heapRedoPageOrNew p.pageId p.pageSize).applyRow p = .ok page' ∧
        ctx' = (ctx.setHeapRedoPage page' p.pageId).recordResult (.applied r.lsn r.kind) := by
  obtain ⟨hrow, hdecode⟩ := rowPayload_eq_some.mp hp
  have hr : r ∈ log := mem_of_split hsplit
  have hdecoded : heapRowPayload r r.kind = .ok p :=
    heapRowPayload_eq_ok.mpr ⟨h.valid r hr, hdecode, h.resultingPageLsn hr hp⟩
  rw [redoRecord_row hrow]
  constructor
  · rintro ⟨payload, page', hstep, hctx⟩
    obtain rfl : p = payload := Except.ok.inj (hdecoded.symm.trans hstep.decoded)
    exact ⟨page', hstep.applied, hctx⟩
  · rintro ⟨page', happly, hctx⟩
    have henabled := h.enabled_base hsplit hp hmatch hcommitted
    exact ⟨p, page', ⟨hdecoded, page_exists_of_enabled henabled,
      (h.base hsplit hp hmatch).pageSize, happly⟩, hctx⟩

theorem RowHistory.redo_succeeds_iff : (∃ ctx', redoRecord r ctx = (.ok (), ctx')) ↔
      (∀ r', lastOnPage p.pageId before = some r' → CommittedIn log r') ∧
        p.rowOp.TargetFresh fun slotId => rowsAfter before (p.pageId, slotId) := by
  have hbase := h.base hsplit hp hmatch
  have hfresh : p.rowOp.TargetFresh (ctx.heapRedoPageOrNew p.pageId p.pageSize).cells ↔
      p.rowOp.TargetFresh fun slotId => rowsAfter before (p.pageId, slotId) := by
    rw [hbase.cells]
    exact targetFresh_congr fun _ hslot => h.rowsAfter_kept hsplit hp hcommitted hslot
  rw [← h.lsnTransition_iff hsplit hp hbase.pageLsn, ← hfresh,
    ← applyRow_succeeds_iff (h.enabled_base hsplit hp hmatch hcommitted)]
  simp only [h.redoRecord_iff hsplit hp hmatch hcommitted]
  exact ⟨fun ⟨_, page', happly, _⟩ => ⟨page', happly⟩, fun ⟨page', happly⟩ =>
    ⟨_, page', happly, rfl⟩⟩

theorem RowHistory.redo_matches (hredo : redoRecord r ctx = (.ok (), ctx')) :
    RowsMatch (before.filter (keptBy log) ++ [r]) ctx' := by
  obtain ⟨page', happly, rfl⟩ := (h.redoRecord_iff hsplit hp hmatch hcommitted).mp hredo
  have hbase := h.base hsplit hp hmatch
  have hown : r.onPage p.pageId = true := onPage_iff.mpr ⟨p, hp, rfl⟩
  have hother : ∀ pageId, pageId ≠ p.pageId → ¬ r.onPage pageId = true :=
    fun pageId hne hon => hne (pageId_of_onPage hp hon).symm
  constructor
  · intro pageId hnone
    by_cases hpage : pageId = p.pageId
    · simp [hpage] at hnone
    · rw [lastOnPage_concat, if_neg (hother pageId hpage)]
      exact hmatch.untouched pageId (by simpa [hpage] using hnone)
  · intro pageId state hsome
    by_cases hpage : pageId = p.pageId
    · obtain rfl : page' = state := by simpa [hpage] using hsome
      subst hpage
      obtain ⟨hheader, hlsn⟩ := applyRow_header happly
      constructor
      · refine ⟨r, p, by rw [lastOnPage_concat, if_pos hown], hp, ?_,
          hheader.pageSize.trans hbase.pageSize⟩
        exact hlsn.trans (h.resultingPageLsn (mem_of_split hsplit) hp)
      · have hcells := applyRow_cells
          (h.enabled_base hsplit hp hmatch hcommitted) happly
        rw [hbase.cells, ← rowsAfter_concat_page hp] at hcells
        exact congrFun hcells
    · have hstate := hmatch.page pageId state (by simpa [hpage] using hsome)
      constructor
      · rw [lastOnPage_concat, if_neg (hother pageId hpage)]
        exact hstate.last
      · intro slotId
        rw [rowsAfter_concat_other hp hpage]
        exact hstate.cells slotId

end

end Step

/-! ## A whole replay -/

section Run

variable {log : List WalRecord} {ctx : ReplayContext} {manifest : DatabaseManifest} {r : WalRecord}

theorem Increasing.split_unique {before before' after after' : List WalRecord}
    (hinc : Increasing log) (h : log = before ++ r :: after) (h' : log = before' ++ r :: after') :
    before = before' := by
  have htake : ∀ {front back : List WalRecord}, log = front ++ r :: back →
      log.takeWhile (fun x => x.lsn < r.lsn) = front := by
    intro front back hsplit
    rw [hsplit] at hinc
    have hlt : ∀ x ∈ front, decide (x.lsn < r.lsn) = true := by
      intro x hx
      exact decide_eq_true ((pairwise_append.mp hinc).2.2 x hx r (by simp))
    rw [hsplit, takeWhile_append_of_pos hlt, takeWhile_cons_of_neg (by simp), append_nil]
  rw [← htake h, htake h']

theorem RowHistory.replayable (h : RowHistory log) (hvalid : manifest.validate = .ok ())
    (hstart : manifest.requiredWalStartLsn = 0) : Replayable manifest log where
  valid := h.valid
  linked := h.chained.gapFree.imp fun _ _ hab => hab.linked
  bootstrap := by
    have hbase : manifest.baseCheckpointLsn = 0 := by
      have := (DatabaseManifest.validate_eq_ok.mp hvalid).2.1
      rw [hstart] at this
      exact UInt64.le_zero_iff.mp this
    have hhead : ∀ first, log.head? = some first →
        first.lsn = 1 ∧ first.header.previousLsn = none := by
      intro first hfirst
      have hextends := h.chained.head first hfirst
      exact ⟨UInt64.toNat_inj.mp hextends.lsn, hextends.previous⟩
    simpa [validateBootstrapRedoBoundary, hstart, hbase] using hhead
  manifestValid := hvalid
  covered := covered_iff.mpr (.inl hstart)
  terminals := h.terminals

theorem RowHistory.rowsAfter_committed (h : RowHistory log) :
    rowsAfter (log.filter fun r => CommittedIn log r) = rowsAfter (log.filter (keptBy log)) := by
  rw [rowsAfter, rowsAfter, filterMap_filter, filterMap_filter]
  congr 1
  apply filterMap_congr
  intro r hr
  have hkept := h.keptBy_iff hr
  by_cases hrow : r.kind.isRow = true
  · have hsame : keptBy log r = decide (CommittedIn log r) := by
      rw [Bool.eq_iff_iff, hkept, decide_eq_true_iff]
      simp [hrow]
    rw [hsame]
  · simp [WalRecord.rowOp, WalRecord.rowPayload, hrow]

variable {done : List WalRecord}

theorem RowsMatch.readTuple (h : RowsMatch done ctx) (pageId : PageId) (slotId : UInt16) :
    ctx.readTuple pageId slotId = (rowsAfter done (pageId, slotId)).value? := by
  unfold ReplayContext.readTuple
  cases hpage : ctx.heapRedoPages pageId with
  | none =>
    rw [rowsAfter_of_lastOnPage_none (h.untouched pageId hpage)]
    rfl
  | some state =>
    rw [← (h.page pageId state hpage).cells slotId]
    exact state.readTuple_eq slotId

theorem rowsMatch_nil (hpages : ctx.heapRedoPages = fun _ => none) : RowsMatch [] ctx :=
  ⟨fun _ _ => rfl, by simp [hpages]⟩

theorem RowHistory.split_kept (h : RowHistory log) {rest : List WalRecord}
    (hdone : done ++ r :: rest = log.filter (keptBy log)) :
    ∃ before after p, log = before ++ r :: after ∧ before.filter (keptBy log) = done ∧
      CommittedIn log r ∧ r.rowPayload = some p := by
  obtain ⟨before, after, hsplit, hbefore, hkept⟩ := exists_split_of_filter hdone
  have hr : r ∈ log := mem_of_split hsplit
  obtain ⟨hrow, hcommitted⟩ := (h.keptBy_iff hr).mp hkept
  obtain ⟨p, hp, -⟩ := h.payloads r hr hrow
  exact ⟨before, after, p, hsplit, hbefore, hcommitted, hp⟩

def RedoUnbrokenAt (log : List WalRecord) (r : WalRecord) : Prop :=
  ∀ before after, log = before ++ r :: after → RedoableAfter log before r

/-- The loop over the kept records: it keeps the pages matching, and gets through exactly
when every kept record meets the condition. -/
theorem RowHistory.each_redo (h : RowHistory log) (hpages : ctx.heapRedoPages = fun _ => none) :
    ((∃ ctx', Effect.each redoRecord (log.filter (keptBy log)) ctx = (.ok (), ctx')) ↔
        ∀ r ∈ log.filter (keptBy log), RedoUnbrokenAt log r) ∧
      ∀ ctx', Effect.each redoRecord (log.filter (keptBy log)) ctx = (.ok (), ctx') →
        RowsMatch (log.filter (keptBy log)) ctx' := by
  have hinc := h.chained.gapFree.increasing
  have hstep : ∀ done r rest, done ++ r :: rest = log.filter (keptBy log) →
      ∀ c c', RowsMatch done c → redoRecord r c = (.ok (), c') → RowsMatch (done ++ [r]) c' := by
    intro done r rest hdone c c' hmatch hredo
    obtain ⟨before, after, p, hsplit, rfl, hcommitted, hp⟩ := h.split_kept hdone
    exact h.redo_matches hsplit hp hmatch hcommitted hredo
  have hguard : ∀ done r rest, done ++ r :: rest = log.filter (keptBy log) → ∀ c, RowsMatch done c →
        ((∃ c', redoRecord r c = (.ok (), c')) ↔ RedoUnbrokenAt log r) := by
    intro done r rest hdone c hmatch
    obtain ⟨before, after, p, hsplit, rfl, hcommitted, hp⟩ := h.split_kept hdone
    rw [h.redo_succeeds_iff hsplit hp hmatch hcommitted]
    constructor
    · intro hcond before' after' hsplit' q hq
      obtain rfl : p = q := Option.some.inj (hp.symm.trans hq)
      rw [← hinc.split_unique hsplit hsplit']
      exact hcond
    · exact fun hcond => hcond before after hsplit p hp
  constructor
  · rw [each_succeeds_iff RowsMatch (fun _ r => RedoUnbrokenAt log r) hguard hstep
      (rowsMatch_nil hpages)]
    constructor
    · intro hall r hr
      obtain ⟨front, back, heq⟩ := append_of_mem hr
      exact hall front r back heq.symm
    · exact fun hall front r back heq => hall r (by simp [← heq])
  · exact fun ctx' hrun => each_invariant RowsMatch hstep (rowsMatch_nil hpages) hrun

theorem RowHistory.redoUnbroken_iff (h : RowHistory log) :
    RedoUnbroken log ↔ ∀ r ∈ log.filter (keptBy log), RedoUnbrokenAt log r := by
  constructor
  · intro hall r hr before after hsplit p hp
    obtain ⟨hmem, hkept⟩ := mem_filter.mp hr
    exact hall before r after hsplit ((h.keptBy_iff hmem).mp hkept).2 p hp
  · intro hall before r after hsplit hcommitted p hp
    have hmem : r ∈ log := mem_of_split hsplit
    have hkept := (h.keptBy_iff hmem).mpr ⟨(rowPayload_eq_some.mp hp).1, hcommitted⟩
    exact hall r (mem_filter.mpr ⟨hmem, hkept⟩) before after hsplit p hp

/-- Replaying a row history from an empty context succeeds and leaves, slot by slot, the
result of the committed transactions' operations exactly when redo is unbroken. -/
theorem committed_rows_recovered_iff (manifest : DatabaseManifest) (mode : StartupMode)
    (log : List WalRecord) (hvalid : manifest.validate = .ok ())
    (hstart : manifest.requiredWalStartLsn = 0) (hlog : RowHistory log) :
    (∃ report ctx, replayWalFromLsnIntoContext manifest mode log .new = (.ok report, ctx) ∧
        ∀ pageId slotId, ctx.readTuple pageId slotId = committedRows log pageId slotId) ↔
      RedoUnbroken log := by
  have hpages : (startContext manifest log .new).heapRedoPages = fun _ => none := by
    rw [startContext_eq]
    rfl
  have hreplayed : replayedRecords manifest.requiredWalStartLsn log = log.filter (keptBy log) := by
    rw [hstart]
    rfl
  obtain ⟨hsucceeds, hmatch⟩ := hlog.each_redo hpages
  rw [hlog.redoUnbroken_iff, ← hsucceeds]
  constructor
  · rintro ⟨report, ctx, hreplay, -⟩
    have hrun := (replay_succeeds_iff.mp ⟨report, hreplay⟩).2
    rw [hreplayed] at hrun
    exact ⟨ctx, hrun⟩
  · rintro ⟨ctx, hrun⟩
    obtain ⟨report, hreplay⟩ : ∃ report,
        replayWalFromLsnIntoContext manifest mode log .new = (.ok report, ctx) :=
      replay_succeeds_iff.mpr ⟨hlog.replayable hvalid hstart, by rw [hreplayed]; exact hrun⟩
    refine ⟨report, ctx, hreplay, ?_⟩
    intro pageId slotId
    rw [committedRows, hlog.rowsAfter_committed]
    exact (hmatch ctx hrun).readTuple pageId slotId

end Run

/-! Transaction 1 rolls back, and the committed transaction 2 wrote the same page after it. -/

def interleavedLog : List WalRecord :=
  [.sealed .txBegin 1 none (some 1) [],
   .sealed .txBegin 2 (some 1) (some 2) [],
   rowRecord (insertPayload 1 0 0 3) (some 2) 1,
   rowRecord (insertPayload 1 1 3 4) (some 3) 2,
   .sealed .txRollback 5 (some 4) (some 1) [],
   .sealed .txCommit 6 (some 5) (some 2) []]

theorem committed_row_lost_behind_rolled_back :
    bootstrapManifest.validate = .ok () ∧ bootstrapManifest.requiredWalStartLsn = 0 ∧
      RowHistory interleavedLog ∧ committedRows interleavedLog 1 1 = some [1] ∧
      ¬ ∃ report ctx, replayWalFromLsnIntoContext bootstrapManifest .safeStart interleavedLog .new =
          (.ok report, ctx) := by
  refine ⟨by decide, rfl, by decide +kernel, by decide +kernel, ?_⟩
  rw [← Effect.succeeds_iff]
  decide +kernel

/-! Two committed transactions take turns on one page; a third rolls back on another. -/

def updatePayload (pageId : PageId) (oldSlot newSlot : UInt16) (expected lsn : Lsn) :
    HeapRowRedoPayloadV1 :=
  ⟨.update, pageId, .kiB16, oldSlot, newSlot, expected, lsn, [2]⟩

def takingTurnsLog : List WalRecord :=
  [.sealed .txBegin 1 none (some 1) [],
   .sealed .txBegin 2 (some 1) (some 2) [],
   .sealed .txBegin 3 (some 2) (some 3) [],
   rowRecord (insertPayload 1 0 0 4) (some 3) 1,
   rowRecord (insertPayload 1 1 4 5) (some 4) 2,
   rowRecord (insertPayload 2 0 0 6) (some 5) 3,
   rowRecord (updatePayload 1 0 2 5 7) (some 6) 1,
   .sealed .txCommit 8 (some 7) (some 2) [],
   .sealed .txRollback 9 (some 8) (some 3) [],
   .sealed .txCommit 10 (some 9) (some 1) []]

theorem committed_rows_recovered_taking_turns : ∃ report ctx,
      replayWalFromLsnIntoContext bootstrapManifest .safeStart takingTurnsLog .new =
        (.ok report, ctx) ∧
      ∀ pageId slotId, ctx.readTuple pageId slotId = committedRows takingTurnsLog pageId slotId :=
  (committed_rows_recovered_iff bootstrapManifest .safeStart takingTurnsLog (by decide) rfl
    (by decide +kernel)).mpr (by decide +kernel)

end Andromeda
