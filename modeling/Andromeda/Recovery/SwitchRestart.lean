import Andromeda.Recovery.Hydration

/-!
# Restarting behind a manifest switch

A recovery that starts from the manifest a switch record installed meets that record
again when the manifest's redo start is not above it. The active manifest never goes
back in version, so the monotonicity guard refuses the record, and a refused switch ends
the replay.
-/

namespace Andromeda

open Fallible Effect List LittleEndian ReplayContext

variable {manifest : DatabaseManifest} {mode : StartupMode} {durable : List WalRecord}
  {ctx ctx' : ReplayContext} {r : WalRecord}

/-! ## The active manifest during a replay -/

def VersionReached (version : UInt64) (ctx : ReplayContext) : Prop :=
  ∃ active, ctx.activeManifest = some active ∧ version ≤ active.manifestVersion

variable {version : UInt64} {records : List WalRecord}

section

variable (hredo : r.kind.isRedoRelevant = true) (h : redoRecord r ctx = (.ok (), ctx'))
include hredo h

theorem redoRecord_active : r.kind ≠ .manifestSwitch ∧ ctx'.activeManifest = ctx.activeManifest ∨
      r.kind = .manifestSwitch ∧ ∃ payload, SwitchStep r ctx payload ∧
        ctx'.activeManifest = some (nextManifest ctx.activeManifest payload) := by
  by_cases hswitch : r.kind = .manifestSwitch
  · obtain ⟨payload, hstep, heq⟩ := (redoRecord_switch hswitch).mp h
    refine .inr ⟨hswitch, payload, hstep, ?_⟩
    rw [heq, recordResult_activeManifest]
    rfl
  · refine .inl ⟨hswitch, ?_⟩
    cases hrow : r.kind.isRow with
    | true =>
      obtain ⟨payload, page', -, heq⟩ := (redoRecord_row hrow).mp h
      rw [heq]
      simp [setHeapRedoPage]
    | false =>
      obtain ⟨result, evidence, hpassive⟩ := redoRecord_passive ⟨hredo, hrow, hswitch⟩
      rw [← ((hpassive ctx ctx').mp h).2]
      simp

theorem redoRecord_versionReached (hctx : VersionReached version ctx) :
    VersionReached version ctx' := by
  obtain ⟨-, hsame⟩ | ⟨-, payload, hstep, hnext⟩ := redoRecord_active hredo h
  · rwa [VersionReached, hsame]
  · obtain ⟨active, hactive, hle⟩ := hctx
    have hlt := (hstep.forward active hactive).1
    exact ⟨_, hnext, UInt64.le_trans hle (UInt64.le_of_lt hlt)⟩

end

theorem each_redo_versionReached (hredo : ∀ r ∈ records, r.kind.isRedoRelevant = true)
    (h : Effect.each redoRecord records ctx = (.ok (), ctx')) (hctx : VersionReached version ctx) :
    VersionReached version ctx' := by
  refine each_preserves (VersionReached version) ?_ hctx h
  intro r hr c c' hc hstep
  exact redoRecord_versionReached (hredo r hr) hstep hc

theorem redoRecord_switch_reaches (hkind : r.kind = .manifestSwitch)
    (h : redoRecord r ctx = (.ok (), ctx')) :
    ∃ payload, parseManifestSwitchPayload r.payload = .ok payload ∧
      VersionReached payload.manifestVersion ctx' := by
  obtain ⟨payload, hstep, hctx⟩ := (redoRecord_switch hkind).mp h
  refine ⟨payload, hstep.parsed, nextManifest ctx.activeManifest payload, ?_, UInt64.le_refl _⟩
  rw [hctx, recordResult_activeManifest]
  rfl

variable {payload : ManifestSwitchPayload}

theorem each_redo_stale_switch (hredo : ∀ r ∈ records, r.kind.isRedoRelevant = true)
    (hmem : r ∈ records)
    (hkind : r.kind = .manifestSwitch) (hparse : parseManifestSwitchPayload r.payload = .ok payload)
    (hctx : VersionReached payload.manifestVersion ctx) :
    Effect.each redoRecord records ctx ≠ (.ok (), ctx') := by
  intro h
  obtain ⟨before, after, hsplit⟩ := append_of_mem hmem
  rw [hsplit] at h
  obtain ⟨c, hbefore, hrest⟩ := each_append_eq_ok.mp h
  obtain ⟨c', hstep, -⟩ := each_cons_eq_ok.mp hrest
  have hreached : VersionReached payload.manifestVersion c := by
    apply each_redo_versionReached _ hbefore hctx
    intro r' hr'
    apply hredo r'
    rw [hsplit]
    exact mem_append_left _ hr'
  obtain ⟨active, hactive, hle⟩ := hreached
  obtain ⟨payload', hswitch, -⟩ := (redoRecord_switch hkind).mp hstep
  have hsame : payload' = payload := Except.ok.inj (hswitch.parsed.symm.trans hparse)
  have hlt := (hswitch.forward active hactive).1
  rw [hsame] at hlt
  exact UInt64.not_lt.mpr hle hlt

/-! ## The switch a replay installed -/

theorem installed_by_switch {before after : List WalRecord} {installed : DatabaseManifest}
    (hrun : Effect.each redoRecord (replayedRecords manifest.requiredWalStartLsn durable)
      (startContext manifest durable .new) = (.ok (), ctx'))
    (hsplit : durable = before ++ r :: after) (hkind : r.kind = .manifestSwitch)
    (hreplay : ShouldReplay manifest.requiredWalStartLsn durable r)
    (hinstalled : (replayStateAt manifest durable (before.length + 1)).activeManifest =
      some installed) : ∃ payload, parseManifestSwitchPayload r.payload = .ok payload ∧
      payload.manifestVersion = installed.manifestVersion := by
  have hhandled : handledAt manifest.requiredWalStartLsn durable (before.length + 1) =
      (before.filter fun r => ShouldReplay manifest.requiredWalStartLsn durable r) ++ [r] := by
    have htake : durable.take (before.length + 1) = before ++ [r] := by
      rw [hsplit, take_append, take_of_length_le (Nat.le_succ _)]
      simp
    simp [handledAt, htake, hreplay]
  obtain ⟨hfront, -⟩ := each_replayStateAt (before.length + 1) hrun
  rw [hhandled] at hfront
  obtain ⟨c, -, hlast⟩ := each_append_eq_ok.mp hfront
  obtain ⟨c', hstep, hend⟩ := each_cons_eq_ok.mp hlast
  cases hend
  obtain ⟨payload, hswitch, hctx⟩ := (redoRecord_switch hkind).mp hstep
  refine ⟨payload, hswitch.parsed, ?_⟩
  rw [hctx, recordResult_activeManifest] at hinstalled
  have hnext : nextManifest c.activeManifest payload = installed := Option.some.inj hinstalled
  rw [← hnext]
  rfl

/-- Recovery from the manifest a switch installed never gets past that switch, when the
manifest's redo start is not above it. -/
theorem replay_from_installed_manifest_fails {report : WalReplayReport} {final : ReplayContext}
    {before after : List WalRecord} {installed : DatabaseManifest} {hydrated : ReplayContext}
    (h : replayWalFromLsnIntoContext manifest mode durable .new = (.ok report, final))
    (hsplit : durable = before ++ r :: after) (hkind : r.kind = .manifestSwitch)
    (hreplay : ShouldReplay manifest.requiredWalStartLsn durable r)
    (hinstalled : (replayStateAt manifest durable (before.length + 1)).activeManifest =
      some installed) (hstart : installed.requiredWalStartLsn ≤ r.lsn)
    (hhydrated : HydratedFrom (replayStateAt manifest durable
      (durable.countP fun r => r.lsn < installed.requiredWalStartLsn)) hydrated) :
    ¬ ∃ report' final',
      replayWalFromLsnIntoContext installed mode durable hydrated = (.ok report', final') ∧
        final'.activeManifest = final.activeManifest := by
  rintro ⟨report', final', hreplayed, -⟩
  obtain ⟨-, hrun⟩ := replay_succeeds_iff.mp ⟨report, h⟩
  obtain ⟨-, hrun'⟩ := replay_succeeds_iff.mp ⟨report', hreplayed⟩
  obtain ⟨payload, hparse, hversion⟩ := installed_by_switch hrun hsplit hkind hreplay hinstalled
  have hmem : r ∈ replayedRecords installed.requiredWalStartLsn durable := by
    apply mem_replayedRecords.mpr
    refine ⟨by simp [hsplit], hstart, hreplay.redoRelevant, hreplay.committed⟩
  have hredo := redoRelevant_replayedRecords installed.requiredWalStartLsn durable
  -- a fresh context starts with the manifest it is given
  have hreached : VersionReached payload.manifestVersion
      (startContext installed durable hydrated) := by
    refine ⟨installed, ?_, by rw [hversion]; exact UInt64.le_refl _⟩
    obtain ⟨entries, -, hentries⟩ := hhydrated
    rw [startContext_eq, (hydrateAll_filled hentries).1]
    rfl
  exact each_redo_stale_switch hredo hmem hkind hparse hreached hrun'

/-! A committed insert, a checkpoint and the switch to the checkpoint's manifest. -/

def switchRecord (payload : ManifestSwitchPayload) (lsn : Lsn) (previousLsn : Option Lsn) :
    WalRecord :=
  .sealed .manifestSwitch lsn previousLsn none (encode 8 payload.manifestVersion.toNat
      ++ encode 8 payload.snapshotId.toNat
      ++ encode 8 payload.baseCheckpointLsn.toNat
      ++ encode 8 payload.requiredWalStartLsn.toNat
      ++ payload.previousManifestHash ++ encode 4 payload.manifestCrc.toNat)

def checkpointSwitch : ManifestSwitchPayload := ⟨2, 2, 5, 5, List.replicate 32 0, 9⟩

def logBeforeSwitch : List WalRecord :=
  [.sealed .txBegin 1 none (some 7) [],
   rowRecord (insertPayload 1 0 0 2) (some 1) 7,
   .sealed .txCommit 3 (some 2) (some 7) [],
   .sealed .checkpointBegin 4 (some 3) none [],
   .sealed .checkpointEnd 5 (some 4) none []]

def checkpointedLog : List WalRecord :=
  logBeforeSwitch ++ [switchRecord checkpointSwitch 6 (some 5)]

def checkpointedManifest : DatabaseManifest :=
  nextManifest (some bootstrapManifest) checkpointSwitch

theorem checkpointedLog_replays : ∃ report final,
    replayWalFromLsnIntoContext bootstrapManifest .safeStart checkpointedLog .new =
      (.ok report, final) :=
  Effect.succeeds_iff.mp (by decide +kernel)

theorem restart_behind_checkpoint_switch_fails : ∃ report final hydrated,
      replayWalFromLsnIntoContext bootstrapManifest .safeStart checkpointedLog .new =
        (.ok report, final) ∧ (replayStateAt bootstrapManifest checkpointedLog 6).activeManifest =
        some checkpointedManifest ∧
      checkpointedManifest.requiredWalStartLsn ≤ (switchRecord checkpointSwitch 6 (some 5)).lsn ∧
      HydratedFrom (replayStateAt bootstrapManifest checkpointedLog
        (checkpointedLog.countP fun r => r.lsn < checkpointedManifest.requiredWalStartLsn))
        hydrated ∧ ¬ ∃ report' final',
        replayWalFromLsnIntoContext checkpointedManifest .safeStart checkpointedLog hydrated =
          (.ok report', final') := by
  obtain ⟨report, final, hreplay⟩ := checkpointedLog_replays
  obtain ⟨hydrated, hhydrated, heq⟩ := exists_hydratedFrom_replayStateAt hreplay
    (checkpointedLog.countP fun r => r.lsn < checkpointedManifest.requiredWalStartLsn)
  refine ⟨report, final, hydrated, hreplay, by decide +kernel, by decide +kernel, hhydrated, ?_⟩
  rw [heq, ← Effect.succeeds_iff]
  decide +kernel

theorem restart_fails_at_checkpoint_switch : ∃ report final hydrated,
      replayWalFromLsnIntoContext bootstrapManifest .safeStart checkpointedLog .new =
        (.ok report, final) ∧ ¬ ∃ report' final',
        replayWalFromLsnIntoContext checkpointedManifest .safeStart checkpointedLog hydrated =
          (.ok report', final') ∧ final'.activeManifest = final.activeManifest := by
  obtain ⟨report, final, hreplay⟩ := checkpointedLog_replays
  obtain ⟨hydrated, hhydrated, -⟩ := exists_hydratedFrom_replayStateAt hreplay
    (checkpointedLog.countP fun r => r.lsn < checkpointedManifest.requiredWalStartLsn)
  have hsplit : checkpointedLog =
      logBeforeSwitch ++ switchRecord checkpointSwitch 6 (some 5) :: [] := rfl
  exact ⟨report, final, hydrated, hreplay, replay_from_installed_manifest_fails hreplay hsplit rfl
    (by decide +kernel) (by decide +kernel) (by decide +kernel) hhydrated⟩

/-! ## Progress of the active manifest -/

/-- A switch record moves the active manifest forward. -/
structure Progress (r : WalRecord) (active next : DatabaseManifest) : Prop where
  carried : ∃ payload, parseManifestSwitchPayload r.payload = .ok payload ∧
    next = nextManifest (some active) payload
  version : active.manifestVersion < next.manifestVersion
  base : active.baseCheckpointLsn < next.baseCheckpointLsn
  start : active.requiredWalStartLsn ≤ next.requiredWalStartLsn
  base_le_start : next.baseCheckpointLsn ≤ next.requiredWalStartLsn
  base_le_lsn : next.baseCheckpointLsn ≤ r.lsn

theorem SwitchStep.progress {active : DatabaseManifest} (h : SwitchStep r ctx payload)
    (hactive : ctx.activeManifest = some active) :
    Progress r active (nextManifest (some active) payload) := by
  obtain ⟨hversion, hbase, hstart, -⟩ := h.forward active hactive
  have haccepted := h.accepted
  rw [manifestSwitchRejection] at haccepted
  split_ifs at haccepted with _ hbelow habove
  exact ⟨⟨payload, h.parsed, rfl⟩, hversion, hbase, hstart, UInt64.not_lt.mp hbelow,
    UInt64.not_lt.mp habove⟩

def activeAfter (start : ReplayContext) (records : List WalRecord) : Option DatabaseManifest :=
  (Effect.each redoRecord records start).2.activeManifest

theorem each_redo_unswitched (hredo : ∀ r ∈ records, r.kind.isRedoRelevant = true)
    (h : Effect.each redoRecord records ctx = (.ok (), ctx'))
    (hkind : ∀ r ∈ records, r.kind ≠ .manifestSwitch) :
    ctx'.activeManifest = ctx.activeManifest := by
  refine each_preserves (fun c => c.activeManifest = ctx.activeManifest) ?_ rfl h
  intro r hr c c' hc hstep
  obtain ⟨-, hsame⟩ | ⟨hswitch, -⟩ := redoRecord_active (hredo r hr) hstep
  · exact hsame.trans hc
  · exact absurd hswitch (hkind r hr)

/-- Each switch a replay handles moves the active manifest forward, the records between leave it
alone, and the last one stays. -/
theorem active_manifest_progress {report : WalReplayReport}
    (h : replayWalFromLsnIntoContext manifest mode durable ctx = (.ok report, ctx')) :
    (∀ before r after, replayedRecords manifest.requiredWalStartLsn durable = before ++ r :: after →
      ∃ active, activeAfter (startContext manifest durable ctx) before = some active ∧
        (r.kind ≠ .manifestSwitch →
          activeAfter (startContext manifest durable ctx) (before ++ [r]) = some active) ∧
        (r.kind = .manifestSwitch → ∃ next, Progress r active next ∧
          activeAfter (startContext manifest durable ctx) (before ++ [r]) = some next ∧
          ((∀ s ∈ after, s.kind ≠ .manifestSwitch) → ctx'.activeManifest = some next))) ∧
      ((∀ r ∈ replayedRecords manifest.requiredWalStartLsn durable, r.kind ≠ .manifestSwitch) →
        ctx'.activeManifest = some (ctx.activeManifest.getD manifest)) := by
  obtain ⟨-, hrun⟩ := replay_succeeds_iff.mp ⟨report, h⟩
  have hredo := redoRelevant_replayedRecords manifest.requiredWalStartLsn durable
  have hstart : (startContext manifest durable ctx).activeManifest =
      some (ctx.activeManifest.getD manifest) := by rw [startContext_eq]
  constructor
  · intro before r after hsplit
    rw [hsplit] at hrun hredo
    obtain ⟨c, hbefore, hrest⟩ := each_append_eq_ok.mp hrun
    obtain ⟨c', hstep, hafter⟩ := each_cons_eq_ok.mp hrest
    have hlast := each_append_eq_ok.mpr ⟨c, hbefore, each_singleton_eq_ok.mpr hstep⟩
    obtain ⟨active, hactive, -⟩ : VersionReached 0 c :=
      each_redo_versionReached (fun s hs => hredo s (mem_append_left _ hs)) hbefore
        ⟨_, hstart, UInt64.zero_le⟩
    simp only [activeAfter, hbefore, hlast]
    refine ⟨active, hactive, ?_⟩
    obtain ⟨hkind, hsame⟩ | ⟨hkind, payload, hswitch, hnext⟩ :=
      redoRecord_active (hredo r (by simp)) hstep
    · exact ⟨fun _ => hsame.trans hactive, fun h => absurd h hkind⟩
    · rw [hactive] at hnext
      refine ⟨fun h => absurd hkind h, fun _ => ⟨_, hswitch.progress hactive, hnext, fun hnone => ?_⟩⟩
      exact (each_redo_unswitched (fun s hs => hredo s (by simp [hs])) hafter hnone).trans hnext
  · exact fun hnone => (each_redo_unswitched hredo hrun hnone).trans hstart

theorem checkpoint_switch_stays :
    ∃ report final, replayWalFromLsnIntoContext bootstrapManifest .safeStart checkpointedLog .new =
        (.ok report, final) ∧
      ∃ active next, Progress (switchRecord checkpointSwitch 6 (some 5)) active next ∧
        final.activeManifest = some next := by
  obtain ⟨report, final, hreplay⟩ := checkpointedLog_replays
  have hsplit : replayedRecords bootstrapManifest.requiredWalStartLsn checkpointedLog =
      [rowRecord (insertPayload 1 0 0 2) (some 1) 7] ++
        switchRecord checkpointSwitch 6 (some 5) :: [] := by decide +kernel
  obtain ⟨active, -, -, hswitch⟩ := (active_manifest_progress hreplay).1 _ _ _ hsplit
  obtain ⟨next, hprogress, -, hfinal⟩ := hswitch rfl
  exact ⟨report, final, hreplay, active, next, hprogress, hfinal (by simp)⟩

end Andromeda
