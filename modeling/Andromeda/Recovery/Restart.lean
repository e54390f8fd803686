import Andromeda.Recovery.SecondRun

/-!
# Restarted recovery

A second replay of a log, into a context hydrated with the state of the first replay at
some position, or into the context the first replay ended with. A page that two
replayed records have written is past the first of them, and that record is then refused
as older than the page; and a context that already went through a manifest switch
refuses the switch.
-/

namespace Andromeda

open Fallible HeapRedoPageState Effect

variable {c d : ReplayContext}

structure SameRows (c d : ReplayContext) : Prop where
  tuples : ∀ pageId slotId, d.readTuple pageId slotId = c.readTuple pageId slotId
  pageLsns : ∀ pageId, (d.heapRedoPages pageId).map pageLsn = (c.heapRedoPages pageId).map pageLsn

theorem sameRows_of_contents (h : c.contents = d.contents) : SameRows c d := by
  have hread : ∀ ctx : ReplayContext, ∀ pageId slotId, ctx.readTuple pageId slotId =
      (ctx.contents pageId).bind fun page => page.readTuple slotId := by
    intro ctx pageId slotId
    unfold ReplayContext.readTuple ReplayContext.contents
    cases ctx.heapRedoPages pageId <;> rfl
  have hlsn : ∀ ctx : ReplayContext, ∀ pageId, (ctx.heapRedoPages pageId).map pageLsn =
        (ctx.contents pageId).map pageLsn := by
    intro ctx pageId
    unfold ReplayContext.contents
    cases ctx.heapRedoPages pageId <;> rfl
  constructor
  · intro pageId slotId
    rw [hread, hread, h]
  · intro pageId
    rw [hlsn, hlsn, h]

section Restart

variable {manifest : DatabaseManifest} {mode : StartupMode} {durable : List WalRecord}
  {report : WalReplayReport} {final hydrated : ReplayContext}

theorem startContext_heapRedoPages (manifest : DatabaseManifest) (durable : List WalRecord)
    (ctx : ReplayContext) :
    (startContext manifest durable ctx).heapRedoPages = ctx.heapRedoPages := by
  rw [startContext_eq]

/-- Where no page has two row records, hydration keeps everything redo looks at. -/
theorem contents_hydrated {records : List WalRecord} {mid : ReplayContext}
    (hredo : ∀ r ∈ records, r.kind.isRedoRelevant = true)
    (hempty : c.heapRedoPages = fun _ => none)
    (hrun : Effect.each redoRecord records c = (.ok (), mid)) (honce : OncePerPage records)
    (hd : d.heapRedoPages = fun pageId =>
      (mid.heapRedoPages pageId).map hydratedImage) : mid.contents = d.contents := by
  funext pageId
  simp only [ReplayContext.contents, hd]
  by_cases hpage : pageId ∈ pagesOf records
  · obtain ⟨r, hr, p, hp, rfl⟩ := mem_pagesOf.mp hpage
    obtain ⟨page, hfresh⟩ := each_redo_wroteFresh hredo honce hempty hrun r hr p hp
    rw [hfresh.stored]
    exact congrArg some (hydratedImage_of_insert hfresh.insert hfresh.applied)
  · rw [each_redo_frame hredo hpage hrun, hempty]
    rfl

theorem replay_hydrated_iff {position : Nat}
    (h : replayWalFromLsnIntoContext manifest mode durable .new = (.ok report, final))
    (hhydrated : HydratedFrom (replayStateAt manifest durable position) hydrated) :
    (∃ report' final', replayWalFromLsnIntoContext manifest mode durable hydrated =
        (.ok report', final') ∧ SameRows final final') ↔
      OncePerPage (handledAt manifest.requiredWalStartLsn durable position) := by
  obtain ⟨hlog, hrun⟩ := replay_succeeds_iff.mp ⟨report, h⟩
  obtain ⟨hfront, hback⟩ := each_replayStateAt position hrun
  have hsplit := replayedRecords_split manifest.requiredWalStartLsn durable position
  have hredo := redoRelevant_replayedRecords manifest.requiredWalStartLsn durable
  rw [hsplit] at hredo
  have hredoFront : ∀ r ∈ handledAt manifest.requiredWalStartLsn durable position,
      r.kind.isRedoRelevant = true := fun r hr => hredo r (List.mem_append_left _ hr)
  have hempty : (startContext manifest durable .new).heapRedoPages = fun _ => none :=
    startContext_heapRedoPages manifest durable .new
  have heq := hhydrated.eq (replayStateAt_recoveredPages hrun position).keyed
  have hpages : (startContext manifest durable hydrated).heapRedoPages = fun pageId =>
      ((replayStateAt manifest durable position).heapRedoPages pageId).map hydratedImage := by
    rw [startContext_heapRedoPages, heq]
  constructor
  · rintro ⟨report', final', hreplay, -⟩
    have hrun' := (replay_succeeds_iff.mp ⟨report', hreplay⟩).2
    rw [hsplit] at hrun'
    obtain ⟨middle, hfront', -⟩ := each_append_eq_ok.mp hrun'
    have hinc : Increasing (handledAt manifest.requiredWalStartLsn durable position) :=
      (linked_increasing hlog.linked).sublist (List.filter_sublist.trans (List.take_sublist _ _))
    refine oncePerPage_of_each_redo hinc hredoFront hfront ?_ hfront'
    intro pageId page hpage
    refine ⟨page.hydratedImage, ?_, rfl⟩
    simp [hpages, hpage]
  · intro honce
    have hmanifest : SameManifest (startContext manifest durable .new)
        (startContext manifest durable hydrated) := by
      rw [startContext_eq, startContext_eq, heq]
      exact ⟨rfl, rfl, rfl, rfl⟩
    obtain ⟨final', hrun', hcontents⟩ := each_redo_restarted hredo hempty hfront hback honce
      (contents_hydrated hredoFront hempty hfront honce hpages) (.inl hmanifest)
    rw [← hsplit] at hrun'
    obtain ⟨report', hreplay⟩ : ∃ report', replayWalFromLsnIntoContext manifest mode durable
        hydrated = (.ok report', final') := replay_succeeds_iff.mpr ⟨hlog, hrun'⟩
    exact ⟨report', final', hreplay, sameRows_of_contents hcontents⟩

theorem replay_own_result_iff
    (h : replayWalFromLsnIntoContext manifest mode durable .new = (.ok report, final)) :
    (∃ report' final', replayWalFromLsnIntoContext manifest mode durable final =
        (.ok report', final') ∧ SameRows final final') ↔
      OncePerPage (replayedRecords manifest.requiredWalStartLsn durable) ∧
        ∀ r ∈ replayedRecords manifest.requiredWalStartLsn durable, r.kind ≠ .manifestSwitch := by
  obtain ⟨hlog, hrun⟩ := replay_succeeds_iff.mp ⟨report, h⟩
  have hredo := redoRelevant_replayedRecords manifest.requiredWalStartLsn durable
  have hpages := startContext_heapRedoPages manifest durable final
  constructor
  · rintro ⟨report', final', hreplay, -⟩
    have hrun' := (replay_succeeds_iff.mp ⟨report', hreplay⟩).2
    constructor
    · refine oncePerPage_of_each_redo
        (increasing_replayedRecords _ (linked_increasing hlog.linked)) hredo hrun ?_ hrun'
      intro pageId page hpage
      rw [hpages, hpage]
      exact ⟨page, rfl, rfl⟩
    · intro r hr hkind
      -- the first run went through the switch, so the second starts behind it
      obtain ⟨before, after, hsplit⟩ := List.append_of_mem hr
      rw [hsplit] at hrun
      obtain ⟨c₁, -, hrest⟩ := each_append_eq_ok.mp hrun
      obtain ⟨c₂, hstep, hafter⟩ := each_cons_eq_ok.mp hrest
      obtain ⟨payload, hparse, hreached⟩ := redoRecord_switch_reaches hkind hstep
      have hredoAfter : ∀ r' ∈ after, r'.kind.isRedoRelevant = true := by
        intro r' hr'
        apply hredo r'
        rw [hsplit]
        simp [hr']
      obtain ⟨active, hactive, hle⟩ := each_redo_versionReached hredoAfter hafter hreached
      have hstart : VersionReached payload.manifestVersion
          (startContext manifest durable final) := by
        refine ⟨active, ?_, hle⟩
        rw [startContext_eq, hactive]
        rfl
      exact each_redo_stale_switch hredo hr hkind hparse hstart hrun'
  · rintro ⟨honce, hswitch⟩
    have hempty : (startContext manifest durable .new).heapRedoPages = fun _ => none :=
      startContext_heapRedoPages manifest durable .new
    obtain ⟨final', hrun', hcontents⟩ :=
      each_redo_restarted (by simpa using hredo) hempty hrun each_nil honce
        (contents_congr hpages).symm (.inr (by simpa using hswitch))
    rw [List.append_nil] at hrun'
    obtain ⟨report', hreplay⟩ : ∃ report', replayWalFromLsnIntoContext manifest mode durable
        final = (.ok report', final') := replay_succeeds_iff.mpr ⟨hlog, hrun'⟩
    exact ⟨report', final', hreplay, sameRows_of_contents hcontents⟩

/-- Restarting a replay gives the same rows exactly when, up to the position whose state
the pages carry, no page was written twice; restarting it on its own result asks this of
the whole log, and that no manifest was switched. -/
theorem restarted_replay_same_rows_iff
    (h : replayWalFromLsnIntoContext manifest mode durable .new = (.ok report, final)) :
    (∀ position hydrated, HydratedFrom (replayStateAt manifest durable position) hydrated →
      ((∃ report' final', replayWalFromLsnIntoContext manifest mode durable hydrated =
          (.ok report', final') ∧ SameRows final final') ↔
        OncePerPage (handledAt manifest.requiredWalStartLsn durable position))) ∧
    ((∃ report' final', replayWalFromLsnIntoContext manifest mode durable final =
          (.ok report', final') ∧ SameRows final final') ↔
        OncePerPage (replayedRecords manifest.requiredWalStartLsn durable) ∧
          ∀ r ∈ replayedRecords manifest.requiredWalStartLsn durable, r.kind ≠ .manifestSwitch) :=
  ⟨fun _ _ hhydrated => replay_hydrated_iff h hhydrated, replay_own_result_iff h⟩

end Restart

/-! One transaction inserts two rows into a page. -/

def twoRowsLog : List WalRecord :=
  [.sealed .txBegin 1 none (some 7) [],
   rowRecord (insertPayload 1 0 0 2) (some 1) 7,
   rowRecord (insertPayload 1 1 2 3) (some 2) 7,
   .sealed .txCommit 4 (some 3) (some 7) []]

theorem two_rows_replay_not_restartable : ∃ report final hydrated,
      replayWalFromLsnIntoContext bootstrapManifest .safeStart twoRowsLog .new =
        (.ok report, final) ∧ HydratedFrom (replayStateAt bootstrapManifest twoRowsLog 4) hydrated ∧
      (¬ ∃ report' final',
        replayWalFromLsnIntoContext bootstrapManifest .safeStart twoRowsLog hydrated =
          (.ok report', final')) ∧ ¬ ∃ report' final',
        replayWalFromLsnIntoContext bootstrapManifest .safeStart twoRowsLog final =
          (.ok report', final') := by
  obtain ⟨report, final, hreplay⟩ : ∃ report final,
      replayWalFromLsnIntoContext bootstrapManifest .safeStart twoRowsLog .new =
        (.ok report, final) :=
    Effect.succeeds_iff.mp (by decide +kernel)
  obtain ⟨hydrated, hhydrated, heq⟩ := exists_hydratedFrom_replayStateAt hreplay 4
  have hfinal : final = (replayWalFromLsnIntoContext bootstrapManifest .safeStart twoRowsLog
      .new).2 := by
    rw [hreplay]
  refine ⟨report, final, hydrated, hreplay, hhydrated, ?_, ?_⟩
  · rw [heq, ← Effect.succeeds_iff]
    decide +kernel
  · rw [hfinal, ← Effect.succeeds_iff]
    decide +kernel

theorem mixedOutcomeLog_restartable : ∃ report final hydrated,
      replayWalFromLsnIntoContext bootstrapManifest .safeStart mixedOutcomeLog .new =
        (.ok report, final) ∧
      HydratedFrom (replayStateAt bootstrapManifest mixedOutcomeLog 6) hydrated ∧ ∃ report' final',
        replayWalFromLsnIntoContext bootstrapManifest .safeStart mixedOutcomeLog hydrated =
          (.ok report', final') ∧ SameRows final final' := by
  obtain ⟨report, final, hreplay⟩ : ∃ report final,
      replayWalFromLsnIntoContext bootstrapManifest .safeStart mixedOutcomeLog .new =
        (.ok report, final) :=
    Effect.succeeds_iff.mp (by decide +kernel)
  obtain ⟨hydrated, hhydrated, -⟩ := exists_hydratedFrom_replayStateAt hreplay 6
  exact ⟨report, final, hydrated, hreplay, hhydrated,
    ((restarted_replay_same_rows_iff hreplay).1 6 hydrated hhydrated).mpr (by decide +kernel)⟩

end Andromeda
