import Andromeda.Recovery.RowHistory
import Mathlib.Data.List.Dedup

/-!
# Hydrated contexts

A restarted recovery begins with heap pages read from a snapshot. A snapshot lists,
page by page, the page LSN and the live slots; what a page remembers about deleted
slots is not in it. Hydrating a fresh context from a snapshot of recovered pages gives
each page its image: the same LSN, the same live tuples, and nothing else.
-/

namespace Andromeda

open Fallible ReplayContext Function List KeyedUpdates

/-- The arguments of one `hydrate_heap_redo_page_from_snapshot` call. -/
structure SnapshotPage where
  pageId : PageId
  pageSize : PageSize
  pageLsn : Lsn
  liveSlots : List (UInt16 × Bytes)

def ReplayContext.hydrateAll : List SnapshotPage → ReplayContext → Result ReplayContext
  | [], ctx => .ok ctx
  | e :: es, ctx => do
    let ctx ← ctx.hydrateHeapRedoPageFromSnapshot e.pageId e.pageSize e.pageLsn e.liveSlots
    hydrateAll es ctx

structure SnapshotPage.Describes (e : SnapshotPage) (page : HeapRedoPageState) : Prop where
  pageSize : e.pageSize = page.pageSize
  pageLsn : e.pageLsn = page.pageLsn
  liveSlots : ∀ slotId tuple, (slotId, tuple) ∈ e.liveSlots ↔ page.readTuple slotId = some tuple

structure SnapshotOf (ctx : ReplayContext) (entries : List SnapshotPage) : Prop where
  describes : ∀ e ∈ entries, ∃ page, ctx.heapRedoPages e.pageId = some page ∧ e.Describes page
  complete : ∀ pageId, ctx.heapRedoPages pageId ≠ none → ∃ e ∈ entries, e.pageId = pageId

/-- The context is fresh but for pages hydrated with the state of another context. -/
def HydratedFrom (ctx hydrated : ReplayContext) : Prop :=
  ∃ entries, SnapshotOf ctx entries ∧ new.hydrateAll entries = .ok hydrated

/-! ## Filling a map -/

/-- A map was extended by new entries, one after the other. -/
structure Filled {α κ ν : Type} (key : α → κ) (val : α → ν → Prop) (entries : List α)
    (m m' : κ → Option ν) : Prop where
  absent : ∀ e ∈ entries, m (key e) = none
  found : ∀ e ∈ entries, ∃ v, m' (key e) = some v ∧ val e v
  frame : ∀ k, (∀ e ∈ entries, key e ≠ k) → m' k = m k

section Filled

variable {α κ ν : Type} [DecidableEq κ] {key : α → κ} {val : α → ν → Prop} {m m' : κ → Option ν}

omit [DecidableEq κ] in
theorem Filled.nil (m : κ → Option ν) : Filled key val [] m m :=
  ⟨by simp, by simp, fun _ _ => rfl⟩

theorem Filled.cons {e : α} {es : List α} {v : ν} (habsent : m (key e) = none) (hv : val e v)
    (h : Filled key val es (Function.update m (key e) (some v)) m') :
    Filled key val (e :: es) m m' := by
  have hfree := fun e' he' => update_some_eq_none_iff.mp (h.absent e' he')
  refine ⟨forall_mem_cons.mpr ⟨habsent, fun e' he' => (hfree e' he').2⟩,
    forall_mem_cons.mpr ⟨?_, h.found⟩, ?_⟩
  · rw [h.frame (key e) fun e' he' => (hfree e' he').1, update_self]
    exact ⟨v, rfl, hv⟩
  · intro k hk
    have hhead : key e ≠ k := hk e (by simp)
    rw [h.frame k (forall_mem_cons.mp hk).2, update_of_ne hhead.symm]

end Filled

/-! ## The image of a page -/

/-- What is left of a page in a snapshot. -/
def HeapRedoPageState.hydratedImage (page : HeapRedoPageState) : HeapRedoPageState where
  pageId := page.pageId
  pageSize := page.pageSize
  pageLsn := page.pageLsn
  origin := .snapshotHydrated
  slots := fun slotId => (page.readTuple slotId).map fun tuple => .live tuple page.pageLsn

open HeapRedoPageState

variable {pageId : PageId} {pageLsn : Lsn} {entries : List (UInt16 × Bytes)} {slots : HeapRedoSlots}
  {page page' : HeapRedoPageState} {ctx ctx' : ReplayContext} {pageIds : List PageId}
  {r : WalRecord} {manifest : DatabaseManifest} {durable : List WalRecord}

theorem hydrateSlots_filled {slots' : HeapRedoSlots}
    (h : hydrateSlots pageId pageLsn entries slots = .ok slots') :
    Filled Prod.fst (fun e slot => slot = .live e.2 pageLsn) entries slots slots' := by
  induction entries generalizing slots with
  | nil =>
    cases h
    exact .nil _
  | cons e rest ih =>
    obtain ⟨slotId, tuple⟩ := e
    simp only [hydrateSlots, ok_iff] at h
    obtain ⟨-, habsent, hrest⟩ := h
    exact .cons habsent rfl (ih hrest)

theorem snapshotHydrated_image {e : SnapshotPage} (he : e.Describes page)
    (hid : page.pageId = e.pageId)
    (h : HeapRedoPageState.snapshotHydrated e.pageId e.pageSize e.pageLsn e.liveSlots =
      .ok page') : page' = page.hydratedImage := by
  simp only [HeapRedoPageState.snapshotHydrated, ok_iff] at h
  obtain ⟨-, slots, hslots, hpage⟩ := h
  have hfilled := hydrateSlots_filled hslots
  have himage : slots = page.hydratedImage.slots := by
    funext slotId
    show slots slotId = (page.readTuple slotId).map _
    cases hread : page.readTuple slotId with
    | none =>
      apply hfilled.frame
      intro e' he' heq
      have := (he.liveSlots slotId e'.2).mp (heq ▸ he')
      rw [hread] at this
      cases this
    | some tuple =>
      obtain ⟨slot, hslot, hlive⟩ := hfilled.found _ ((he.liveSlots slotId tuple).mpr hread)
      rw [hslot, hlive, he.pageLsn]
      rfl
  rw [← hpage, himage, ← hid, he.pageSize, he.pageLsn]
  rfl

/-! ## The image of a context -/

def ReplayContext.Keyed (ctx : ReplayContext) : Prop :=
  ∀ pageId page, ctx.heapRedoPages pageId = some page → page.pageId = pageId

theorem hydrateAll_filled {entries : List SnapshotPage} (h : ctx.hydrateAll entries = .ok ctx') :
    ctx' = { ctx with heapRedoPages := ctx'.heapRedoPages } ∧
      Filled SnapshotPage.pageId (fun e page => HeapRedoPageState.snapshotHydrated e.pageId
        e.pageSize e.pageLsn e.liveSlots = .ok page) entries ctx.heapRedoPages
        ctx'.heapRedoPages := by
  induction entries generalizing ctx with
  | nil =>
    cases h
    exact ⟨rfl, .nil _⟩
  | cons e es ih =>
    simp only [hydrateAll, hydrateHeapRedoPageFromSnapshot, ok_iff] at h
    obtain ⟨_, ⟨habsent, page, hpage, rfl⟩, hrest⟩ := h
    obtain ⟨hframe, hfilled⟩ := ih hrest
    exact ⟨hframe, .cons habsent hpage hfilled⟩

theorem HydratedFrom.eq {hydrated : ReplayContext} (h : HydratedFrom ctx hydrated)
    (hkeyed : ctx.Keyed) :
    hydrated = { new with
      heapRedoPages := fun pageId =>
        (ctx.heapRedoPages pageId).map hydratedImage } := by
  obtain ⟨entries, hsnapshot, hrun⟩ := h
  obtain ⟨hframe, hfilled⟩ := hydrateAll_filled hrun
  have hpages : hydrated.heapRedoPages = fun pageId =>
      (ctx.heapRedoPages pageId).map hydratedImage := by
    funext pageId
    cases hpage : ctx.heapRedoPages pageId with
    | none =>
      apply hfilled.frame
      intro e he heq
      obtain ⟨page, hsome, -⟩ := hsnapshot.describes e he
      rw [heq, hpage] at hsome
      cases hsome
    | some page =>
      obtain ⟨e, he, hid⟩ := hsnapshot.complete pageId (by rw [hpage]; simp)
      obtain ⟨page', hsome, hdescribes⟩ := hsnapshot.describes e he
      obtain ⟨image, himage, hhydrated⟩ := hfilled.found e he
      rw [hid, hpage] at hsome
      cases hsome
      have hkey : page.pageId = e.pageId := by rw [hkeyed pageId page hpage, hid]
      rw [hid] at himage
      rw [himage, snapshotHydrated_image hdescribes hkey hhydrated]
      rfl
  rw [hframe, hpages]

/-! ## Recovered pages can be hydrated -/

structure HeapRedoPageState.Hydratable (page : HeapRedoPageState) : Prop where
  pageLsn : page.pageLsn ≠ 0
  tuples : ∀ slotId tuple, page.readTuple slotId = some tuple → tuple ≠ []

theorem hydrateSlots_succeeds (hkeys : (entries.map Prod.fst).Nodup)
    (htuples : ∀ e ∈ entries, e.2 ≠ []) (habsent : ∀ e ∈ entries, slots e.1 = none) :
    ∃ slots', hydrateSlots pageId pageLsn entries slots = .ok slots' := by
  induction entries generalizing slots with
  | nil => exact ⟨slots, rfl⟩
  | cons e rest ih =>
    obtain ⟨slotId, tuple⟩ := e
    rw [map_cons, nodup_cons] at hkeys
    obtain ⟨slots', hrest⟩ : ∃ slots', hydrateSlots pageId pageLsn rest
        (Function.update slots slotId (some (.live tuple pageLsn))) = .ok slots' := by
      apply ih hkeys.2 (forall_mem_cons.mp htuples).2
      intro e he
      refine update_some_eq_none_iff.mpr ⟨?_, habsent e (mem_cons_of_mem _ he)⟩
      intro heq
      exact hkeys.1 (mem_map.mpr ⟨e, he, heq⟩)
    refine ⟨slots', ?_⟩
    simp only [hydrateSlots, ok_iff]
    exact ⟨htuples (slotId, tuple) (by simp), habsent (slotId, tuple) (by simp), hrest⟩

-- irreducible, so that no unification walks through 65536 slot ids
@[irreducible] def allSlotIds : List UInt16 := (List.finRange UInt16.size).map UInt16.ofFin

theorem mem_allSlotIds (slotId : UInt16) : slotId ∈ allSlotIds := by
  unfold allSlotIds
  exact mem_map.mpr ⟨slotId.toFin, mem_finRange _, rfl⟩

theorem nodup_allSlotIds : allSlotIds.Nodup := by
  unfold allSlotIds
  apply List.Nodup.map _ (nodup_finRange _)
  intro i j hij
  exact congrArg UInt16.toFin hij

def HeapRedoPageState.liveSlots (page : HeapRedoPageState) : List (UInt16 × Bytes) :=
  allSlotIds.filterMap fun slotId => (page.readTuple slotId).map (Prod.mk slotId)

theorem mem_liveSlots {slotId : UInt16} {tuple : Bytes} :
    (slotId, tuple) ∈ page.liveSlots ↔ page.readTuple slotId = some tuple := by
  simp only [liveSlots, mem_filterMap, mem_allSlotIds, true_and,
    Option.map_eq_some_iff, Prod.mk.injEq]
  constructor
  · rintro ⟨slotId', t, hread, hslot, htuple⟩
    rw [← hslot, ← htuple]
    exact hread
  · intro h
    exact ⟨slotId, tuple, h, rfl, rfl⟩

theorem map_filterMap_key {κ ν β : Type} {key : β → κ} {entry : κ → ν → β}
    (hkey : ∀ k v, key (entry k v) = k) (m : κ → Option ν) (ks : List κ) :
    (ks.filterMap fun k => (m k).map (entry k)).map key = ks.filter fun k => (m k).isSome := by
  induction ks with
  | nil => rfl
  | cons k ks ih =>
    cases hm : m k with
    | none => simp [hm, ih]
    | some v => simp [hm, ih, hkey]

theorem nodup_liveSlots (page : HeapRedoPageState) : (page.liveSlots.map Prod.fst).Nodup := by
  rw [liveSlots, map_filterMap_key fun _ _ => rfl]
  exact nodup_allSlotIds.filter _

def HeapRedoPageState.snapshot (page : HeapRedoPageState) (pageId : PageId) : SnapshotPage :=
  ⟨pageId, page.pageSize, page.pageLsn, page.liveSlots⟩

theorem HeapRedoPageState.Hydratable.snapshotHydrated (h : page.Hydratable) (pageId : PageId) :
    ∃ page', HeapRedoPageState.snapshotHydrated pageId page.pageSize page.pageLsn
      page.liveSlots = .ok page' := by
  obtain ⟨slots, hslots⟩ : ∃ slots, hydrateSlots pageId page.pageLsn
      page.liveSlots (fun _ => none) = .ok slots := by
    apply hydrateSlots_succeeds (nodup_liveSlots page)
    · intro e he
      exact h.tuples e.1 e.2 (mem_liveSlots.mp he)
    · intro e he
      rfl
  refine ⟨⟨pageId, page.pageSize, page.pageLsn, .snapshotHydrated, slots⟩, ?_⟩
  simp only [HeapRedoPageState.snapshotHydrated, ok_iff]
  exact ⟨h.pageLsn, slots, hslots, rfl⟩

theorem hydrateAll_succeeds {entries : List SnapshotPage}
    (hkeys : (entries.map SnapshotPage.pageId).Nodup)
    (hpages : ∀ e ∈ entries, ∃ page, HeapRedoPageState.snapshotHydrated e.pageId e.pageSize
      e.pageLsn e.liveSlots = .ok page)
    (habsent : ∀ e ∈ entries, ctx.heapRedoPages e.pageId = none) :
    ∃ ctx', ctx.hydrateAll entries = .ok ctx' := by
  induction entries generalizing ctx with
  | nil => exact ⟨ctx, rfl⟩
  | cons e es ih =>
    rw [map_cons, nodup_cons] at hkeys
    obtain ⟨page, hpage⟩ := hpages e (by simp)
    obtain ⟨ctx', hrest⟩ : ∃ ctx', (ctx.setHeapRedoPage page e.pageId).hydrateAll es =
        .ok ctx' := by
      apply ih hkeys.2 (forall_mem_cons.mp hpages).2
      intro e' he'
      refine update_some_eq_none_iff.mpr ⟨?_, habsent e' (mem_cons_of_mem _ he')⟩
      intro heq
      exact hkeys.1 (mem_map.mpr ⟨e', he', heq⟩)
    refine ⟨ctx', ?_⟩
    simp only [hydrateAll, hydrateHeapRedoPageFromSnapshot, ok_iff]
    exact ⟨_, ⟨habsent e (by simp), page, hpage, rfl⟩, hrest⟩

/-- Every page of the context is a listed one, under its own id, and can be hydrated. -/
def RecoveredPages (pageIds : List PageId) (ctx : ReplayContext) : Prop :=
  ∀ pageId page, ctx.heapRedoPages pageId = some page →
    pageId ∈ pageIds ∧ page.pageId = pageId ∧ page.Hydratable

theorem RecoveredPages.keyed (h : RecoveredPages pageIds ctx) : ctx.Keyed :=
  fun pageId page hpage => (h pageId page hpage).2.1

theorem RecoveredPages.exists_hydratedFrom (h : RecoveredPages pageIds ctx) :
    ∃ hydrated, HydratedFrom ctx hydrated := by
  let entries := pageIds.dedup.filterMap fun pageId =>
    (ctx.heapRedoPages pageId).map fun page => page.snapshot pageId
  have hmem : ∀ e ∈ entries, ∃ page, ctx.heapRedoPages e.pageId = some page ∧
      e = page.snapshot e.pageId := by
    intro e he
    obtain ⟨pageId, -, heq⟩ := mem_filterMap.mp he
    obtain ⟨page, hpage, hsnapshot⟩ := Option.map_eq_some_iff.mp heq
    rw [← hsnapshot]
    exact ⟨page, hpage, rfl⟩
  obtain ⟨hydrated, hrun⟩ : ∃ hydrated, new.hydrateAll entries = .ok hydrated := by
    apply hydrateAll_succeeds
    · have hkeys : entries.map SnapshotPage.pageId =
          pageIds.dedup.filter fun pageId => (ctx.heapRedoPages pageId).isSome :=
        map_filterMap_key (fun _ _ => rfl) _ _
      rw [hkeys]
      exact (nodup_dedup _).filter _
    · intro e he
      obtain ⟨page, hpage, heq⟩ := hmem e he
      rw [heq]
      exact (h _ page hpage).2.2.snapshotHydrated _
    · intro e he
      rfl
  refine ⟨hydrated, entries, ⟨?_, ?_⟩, hrun⟩
  · intro e he
    obtain ⟨page, hpage, heq⟩ := hmem e he
    refine ⟨page, hpage, ?_⟩
    rw [heq]
    exact ⟨rfl, rfl, fun _ _ => mem_liveSlots⟩
  · intro pageId hpage
    obtain ⟨page, hsome⟩ := Option.ne_none_iff_exists'.mp hpage
    refine ⟨page.snapshot pageId, ?_, rfl⟩
    apply mem_filterMap.mpr
    exact ⟨pageId, mem_dedup.mpr (h pageId page hsome).1, by rw [hsome]; rfl⟩

def pagesOf (records : List WalRecord) : List PageId :=
  records.filterMap fun r => r.rowPayload.map HeapRowRedoPayloadV1.pageId

theorem RowStep.rowPayload {payload : HeapRowRedoPayloadV1} (hkind : r.kind.isRow = true)
    (h : RowStep r ctx payload page') : r.rowPayload = some payload :=
  rowPayload_eq_some.mpr ⟨hkind, (heapRowPayload_eq_ok.mp h.decoded).2.1⟩

theorem redoRecord_recoveredPages (hredo : r.kind.isRedoRelevant = true)
    (hlisted : ∀ p ∈ r.rowPayload, p.pageId ∈ pageIds) (hctx : RecoveredPages pageIds ctx)
    (h : redoRecord r ctx = (.ok (), ctx')) : RecoveredPages pageIds ctx' := by
  rcases redoRecord_heapRedoPages hredo h with ⟨-, hsame⟩ | ⟨payload, page', hrow, hstep, hpages⟩
  · rw [RecoveredPages, hsame]
    exact hctx
  obtain ⟨-, hdecode, -⟩ := heapRowPayload_eq_ok.mp hstep.decoded
  have hvalid := (HeapRowRedoPayloadV1.decode_valid hdecode).1
  obtain ⟨hheader, hlsn⟩ := applyRow_header hstep.applied
  -- the page the row was applied to, found or new
  have hbase : (ctx.heapRedoPageOrNew payload.pageId payload.pageSize).pageId = payload.pageId ∧
      ∀ slotId tuple, (ctx.heapRedoPageOrNew payload.pageId payload.pageSize).readTuple slotId =
        some tuple → tuple ≠ [] := by
    unfold heapRedoPageOrNew
    cases hpage : ctx.heapRedoPages payload.pageId with
    | none => exact ⟨rfl, fun _ _ hread => by cases hread⟩
    | some page => exact ⟨(hctx _ page hpage).2.1, (hctx _ page hpage).2.2.tuples⟩
  have hpage' : page'.Hydratable := by
    refine ⟨by rw [hlsn]; exact hvalid.resulting_ne_zero, ?_⟩
    intro slotId tuple hread
    rcases writeRow_cases (applyRow_eq_ok.mp hstep.applied).2 with rfl | ⟨slots, -, hreads⟩
    · exact hbase.2 slotId tuple hread
    · rcases hreads slotId tuple hread with hold | ⟨hop, rfl⟩
      · exact hbase.2 slotId tuple hold
      · exact hvalid.tuple_ne_nil hop
  intro pageId page hpage
  by_cases hid : pageId = payload.pageId
  · rw [hpages, hid, update_self] at hpage
    cases hpage
    rw [hid]
    exact ⟨hlisted payload (hstep.rowPayload hrow), by rw [hheader.pageId, hbase.1], hpage'⟩
  · rw [hpages, update_of_ne hid] at hpage
    exact hctx pageId page hpage

theorem replayStateAt_recoveredPages
    (h : Effect.each redoRecord (replayedRecords manifest.requiredWalStartLsn durable)
      (startContext manifest durable .new) = (.ok (), ctx')) (position : Nat) :
    RecoveredPages (pagesOf durable) (replayStateAt manifest durable position) := by
  refine Effect.each_preserves (RecoveredPages (pagesOf durable)) ?_ ?_
    (each_replayStateAt position h).1
  · intro r hr c c' hc hstep
    obtain ⟨htake, hreplay⟩ := mem_filter.mp hr
    apply redoRecord_recoveredPages (of_decide_eq_true hreplay).redoRelevant _ hc hstep
    intro p hp
    apply mem_filterMap.mpr
    exact ⟨r, mem_of_mem_take htake, by rw [hp]; rfl⟩
  · have hnone : (startContext manifest durable .new).heapRedoPages = fun _ => none := by
      rw [startContext_eq]
      rfl
    intro pageId page hpage
    rw [hnone] at hpage
    cases hpage

theorem exists_hydratedFrom_replayStateAt {mode : StartupMode} {report : WalReplayReport}
    {final : ReplayContext}
    (h : replayWalFromLsnIntoContext manifest mode durable .new = (.ok report, final))
    (position : Nat) : ∃ hydrated, HydratedFrom (replayStateAt manifest durable position) hydrated ∧
      hydrated = { new with
        heapRedoPages := fun pageId =>
          ((replayStateAt manifest durable position).heapRedoPages pageId).map hydratedImage } := by
  have hpages := replayStateAt_recoveredPages (replay_succeeds_iff.mp ⟨report, h⟩).2 position
  obtain ⟨hydrated, hhydrated⟩ := hpages.exists_hydratedFrom
  exact ⟨hydrated, hhydrated, hhydrated.eq hpages.keyed⟩

end Andromeda
