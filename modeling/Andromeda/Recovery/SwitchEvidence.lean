import Andromeda.Recovery.SwitchRestart

/-!
# Checkpoint evidence of a manifest switch

The evidence a switch is checked against is gathered in one pass over the whole log, before the
first record is replayed. So a switch is applied when the log holds a checkpoint end at or above
its base checkpoint anywhere, also behind the switch itself.
-/

namespace Andromeda

open ReplayContext Effect

variable {manifest : DatabaseManifest} {mode : StartupMode} {durable records : List WalRecord}
  {ctx ctx' : ReplayContext} {r : WalRecord} {base lsn : Lsn}

theorem foldl_observedCheckpoint {latest : Option Lsn} :
    (∃ last ∈ records.foldl observedCheckpoint latest, base ≤ last) ↔
      (∃ last ∈ latest, base ≤ last) ∨ ∃ e ∈ records, e.kind = .checkpointEnd ∧ base ≤ e.lsn := by
  induction records generalizing latest with
  | nil => simp
  | cons r rs ih =>
    rw [List.foldl_cons, ih, List.exists_mem_cons_iff, ← or_assoc]
    refine or_congr_left ?_
    unfold observedCheckpoint
    split_ifs with hkind
    · cases latest with
      | none => simp [hkind]
      | some current =>
        dsimp only
        split_ifs with hgt
        · have hup : base ≤ current → base ≤ r.lsn := fun h => UInt64.le_trans h (UInt64.le_of_lt hgt)
          simpa [hkind] using hup
        · have hdown : base ≤ r.lsn → base ≤ current :=
            fun h => UInt64.le_trans h (UInt64.not_lt.mp hgt)
          simpa [hkind] using hdown
    · simp [hkind]

def switchTrace (r : WalRecord) : Option ManifestSwitchRecoveryTrace :=
  match r.kind, parseManifestSwitchPayload r.payload with
  | .manifestSwitch, .ok payload => some (.applied r.lsn payload.manifestVersion payload.snapshotId
      payload.baseCheckpointLsn payload.requiredWalStartLsn)
  | _, _ => none

theorem switchTrace_eq_some {trace : ManifestSwitchRecoveryTrace} :
    switchTrace r = some trace ↔ r.kind = .manifestSwitch ∧
      ∃ payload, parseManifestSwitchPayload r.payload = .ok payload ∧
        .applied r.lsn payload.manifestVersion payload.snapshotId payload.baseCheckpointLsn
          payload.requiredWalStartLsn = trace := by
  unfold switchTrace
  split
  · rename_i payload hkind hparse
    simp [hkind, hparse]
  · rename_i hother
    refine iff_of_false (by simp) ?_
    rintro ⟨hkind, payload, hparse, -⟩
    exact hother payload hkind hparse

/-- The switches handled so far are traced, and rest on the evidence of the pre-pass. -/
structure Evidenced (latest : Option Lsn) (handled : List WalRecord) (ctx : ReplayContext) :
    Prop where
  gathered : ctx.latestCheckpointEndLsn = latest
  required : ctx.requireCheckpointEndForManifestSwitch = true
  traces : ctx.manifestSwitchTraces = handled.filterMap switchTrace
  applied : ∀ lsn version snapshotId base start,
    .applied lsn version snapshotId base start ∈ ctx.manifestSwitchTraces → base ≠ 0 →
      ∃ last ∈ latest, base ≤ last

theorem SwitchStep.evidence {payload : ManifestSwitchPayload} (h : SwitchStep r ctx payload)
    (hrequired : ctx.requireCheckpointEndForManifestSwitch = true)
    (hbase : payload.baseCheckpointLsn ≠ 0) :
    ∃ last ∈ ctx.latestCheckpointEndLsn, payload.baseCheckpointLsn ≤ last := by
  have haccepted := h.accepted
  rw [manifestSwitchRejection] at haccepted
  split_ifs at haccepted with _ _ _ hlacks
  simpa [hrequired, hbase] using hlacks

theorem Evidenced.redoRecord {latest : Option Lsn} (hredo : r.kind.isRedoRelevant = true)
    (hstep : redoRecord r ctx = (.ok (), ctx')) (h : Evidenced latest records ctx) :
    Evidenced latest (records ++ [r]) ctx' := by
  have hquiet : r.kind ≠ .manifestSwitch →
      records.filterMap switchTrace = (records ++ [r]).filterMap switchTrace := by
    intro hkind
    have hnone : switchTrace r = none := by
      by_contra hsome
      obtain ⟨trace, htrace⟩ := Option.ne_none_iff_exists'.mp hsome
      exact hkind (switchTrace_eq_some.mp htrace).1
    simp [hnone]
  cases hrow : r.kind.isRow with
  | true =>
    obtain ⟨payload, page', -, rfl⟩ := (redoRecord_row hrow).mp hstep
    have hkind : r.kind ≠ .manifestSwitch := by
      intro hkind
      rw [hkind] at hrow
      cases hrow
    exact ⟨by simpa [setHeapRedoPage] using h.gathered, by simpa [setHeapRedoPage] using h.required,
      by simpa [setHeapRedoPage, ← hquiet hkind] using h.traces,
      by simpa [setHeapRedoPage] using h.applied⟩
  | false =>
    by_cases hswitch : r.kind = .manifestSwitch
    · obtain ⟨payload, hpayload, rfl⟩ := (redoRecord_switch hswitch).mp hstep
      have htrace := switchTrace_eq_some.mpr ⟨hswitch, payload, hpayload.parsed, rfl⟩
      refine ⟨by simpa [installManifest] using h.gathered,
        by simpa [installManifest] using h.required,
        by simp [installManifest, htrace, h.traces], ?_⟩
      intro lsn version snapshotId base start htrace hbase
      simp only [recordResult_manifestSwitchTraces, installManifest,
        List.mem_append, List.mem_singleton] at htrace
      rcases htrace with hold | hnew
      · exact h.applied _ _ _ _ _ hold hbase
      · cases hnew
        rw [← h.gathered]
        exact hpayload.evidence h.required hbase
    · obtain ⟨result, evidence, hpassive⟩ := redoRecord_passive ⟨hredo, hrow, hswitch⟩
      rw [← ((hpassive ctx ctx').mp hstep).2]
      exact ⟨by simpa using h.gathered, by simpa using h.required,
        by simpa [← hquiet hswitch] using h.traces, by simpa using h.applied⟩

/-- No checkpoint end that reaches the base of a switch to replay stands only behind it. -/
def EvidenceFirst (redoFrom : Lsn) (durable : List WalRecord) : Prop :=
  ∀ before r after payload, durable = before ++ r :: after → ShouldReplay redoFrom durable r →
    r.kind = .manifestSwitch → parseManifestSwitchPayload r.payload = .ok payload →
    payload.baseCheckpointLsn ≠ 0 →
    (∃ e ∈ after, e.kind = .checkpointEnd ∧ payload.baseCheckpointLsn ≤ e.lsn) →
      ∃ e ∈ before, e.kind = .checkpointEnd ∧ payload.baseCheckpointLsn ≤ e.lsn

theorem lt_iff_mem_before {before after : List WalRecord} {e : WalRecord}
    (hinc : Increasing (before ++ r :: after)) (he : e ∈ before ++ r :: after) :
    e.lsn < r.lsn ↔ e ∈ before := by
  obtain ⟨-, hbehind, hcross⟩ := List.pairwise_append.mp hinc
  constructor
  · intro hlt
    rcases List.mem_append.mp he with hbefore | hrest
    · exact hbefore
    · rcases List.mem_cons.mp hrest with rfl | hafter
      · exact absurd hlt (UInt64.lt_irrefl _)
      · exact absurd hlt (UInt64.lt_asymm ((List.pairwise_cons.mp hbehind).1 e hafter))
  · intro hbefore
    exact hcross e hbefore r List.mem_cons_self

/-- The applied switches all have a checkpoint end at or above their base before themselves
exactly when none of them relies on one behind it, which the pre-pass lets it do. -/
theorem applied_switch_justified_iff {report : WalReplayReport}
    (h : replayWalFromLsnIntoContext manifest mode durable .new = (.ok report, ctx')) :
    (∀ lsn version snapshotId base start,
        .applied lsn version snapshotId base start ∈ ctx'.manifestSwitchTraces → base ≠ 0 →
          ∃ e ∈ durable, e.kind = .checkpointEnd ∧ base ≤ e.lsn ∧ e.lsn < lsn) ↔
      EvidenceFirst manifest.requiredWalStartLsn durable := by
  obtain ⟨hlog, hrun⟩ := replay_succeeds_iff.mp ⟨report, h⟩
  have hinc : Increasing durable := linked_increasing hlog.linked
  have hstart : Evidenced (durable.foldl observedCheckpoint none) []
      (startContext manifest durable .new) := by
    rw [startContext_eq]
    exact ⟨rfl, rfl, rfl, by simp [new]⟩
  have hend := Effect.each_invariant (Evidenced (durable.foldl observedCheckpoint none))
    (fun before r after heq _ _ hc hstep => hc.redoRecord
      (redoRelevant_replayedRecords manifest.requiredWalStartLsn durable r (by simp [← heq])) hstep)
    hstart hrun
  constructor
  · intro hjustified before r after payload hsplit hreplay hkind hparse hbase _
    have hmem : r ∈ replayedRecords manifest.requiredWalStartLsn durable :=
      mem_replayedRecords.mpr ⟨by simp [hsplit], hreplay⟩
    have htrace := List.mem_filterMap.mpr
      ⟨r, hmem, switchTrace_eq_some.mpr ⟨hkind, payload, hparse, rfl⟩⟩
    rw [← hend.traces] at htrace
    obtain ⟨e, he, hcheckpoint, hle, hlt⟩ := hjustified _ _ _ _ _ htrace hbase
    rw [hsplit] at he hinc
    exact ⟨e, (lt_iff_mem_before hinc he).mp hlt, hcheckpoint, hle⟩
  · intro hfirst lsn version snapshotId base start happlied hbase
    have hevidence := hend.applied _ _ _ _ _ happlied hbase
    obtain ⟨e, he, hcheckpoint, hle⟩ : ∃ e ∈ durable, e.kind = .checkpointEnd ∧ base ≤ e.lsn := by
      simpa using foldl_observedCheckpoint.mp hevidence
    rw [hend.traces] at happlied
    obtain ⟨r, hr, htrace⟩ := List.mem_filterMap.mp happlied
    obtain ⟨hkind, payload, hparse, heq⟩ := switchTrace_eq_some.mp htrace
    cases heq
    obtain ⟨hmem, hreplay⟩ := mem_replayedRecords.mp hr
    obtain ⟨before, after, hsplit⟩ := List.append_of_mem hmem
    -- the evidence may stand behind the switch, and then there is some before it
    have hbefore : ∃ e ∈ before, e.kind = .checkpointEnd ∧ payload.baseCheckpointLsn ≤ e.lsn := by
      rw [hsplit, List.mem_append, List.mem_cons] at he
      rcases he with hbefore | rfl | hafter
      · exact ⟨e, hbefore, hcheckpoint, hle⟩
      · rw [hkind] at hcheckpoint
        cases hcheckpoint
      · exact hfirst before r after payload hsplit hreplay hkind hparse hbase
          ⟨e, hafter, hcheckpoint, hle⟩
    obtain ⟨e, hbefore, hcheckpoint, hle⟩ := hbefore
    have hmem : e ∈ before ++ r :: after := List.mem_append_left _ hbefore
    refine ⟨e, hsplit ▸ hmem, hcheckpoint, hle, (lt_iff_mem_before ?_ hmem).mpr hbefore⟩
    exact hsplit ▸ hinc

def twoCheckpointLog : List WalRecord :=
  checkpointedLog ++ [.sealed .checkpointBegin 7 (some 6) none [],
    .sealed .checkpointEnd 8 (some 7) none []]

theorem applied_switch_justified_by_checkpoint :
    .applied 6 2 2 5 5 ∈ (replayWalFromLsnIntoContext bootstrapManifest .safeStart
        twoCheckpointLog .new).2.manifestSwitchTraces ∧
      ∃ e ∈ twoCheckpointLog, e.kind = .checkpointEnd ∧ 5 ≤ e.lsn ∧ e.lsn < 6 := by
  obtain ⟨report, final, hreplay⟩ : ∃ report final, replayWalFromLsnIntoContext bootstrapManifest
      .safeStart twoCheckpointLog .new = (.ok report, final) :=
    Effect.succeeds_iff.mp (by decide +kernel)
  have happlied : .applied 6 2 2 5 5 ∈ (replayWalFromLsnIntoContext bootstrapManifest .safeStart
      twoCheckpointLog .new).2.manifestSwitchTraces := by decide +kernel
  refine ⟨happlied, (applied_switch_justified_iff hreplay).mpr ?_ 6 2 2 5 5 (by rwa [hreplay] at happlied)
    (by decide)⟩
  intro before r after payload hsplit _ hkind hparse _ _
  have hinc : Increasing twoCheckpointLog := by decide +kernel
  have hswitch : ∀ s ∈ twoCheckpointLog, s.kind = .manifestSwitch →
      s = switchRecord checkpointSwitch 6 (some 5) := by decide +kernel
  obtain rfl := hswitch r (by simp [hsplit]) hkind
  obtain rfl : checkpointSwitch = payload := Except.ok.inj hparse
  have hend : .sealed .checkpointEnd 5 (some 4) none [] ∈ twoCheckpointLog := by decide +kernel
  rw [hsplit] at hend hinc
  exact ⟨_, (lt_iff_mem_before hinc hend).mp (by decide), rfl, by decide⟩

def lateCheckpointLog : List WalRecord :=
  [.sealed .checkpointBegin 1 none none [],
   switchRecord ⟨2, 2, 1, 1, List.replicate 32 0, 9⟩ 2 (some 1),
   .sealed .checkpointEnd 3 (some 2) none []]

theorem switch_applied_before_checkpoint_end :
    (∃ report, (replayWalFromLsnIntoContext bootstrapManifest .safeStart
        lateCheckpointLog .new).1 = .ok report) ∧
      .applied 2 2 2 1 1 ∈ (replayWalFromLsnIntoContext bootstrapManifest .safeStart
        lateCheckpointLog .new).2.manifestSwitchTraces ∧
      ¬ ∃ e ∈ lateCheckpointLog, e.kind = .checkpointEnd ∧ 1 ≤ e.lsn ∧ e.lsn < 2 := by
  refine ⟨?_, by decide +kernel, by decide +kernel⟩
  obtain ⟨report, final, hreplay⟩ : ∃ report final,
      replayWalFromLsnIntoContext bootstrapManifest .safeStart lateCheckpointLog .new =
        (.ok report, final) :=
    Effect.succeeds_iff.mp (by decide +kernel)
  exact ⟨report, by rw [hreplay]⟩

/-! ## Switches that fail -/

theorem replayManifestSwitch_of_error {e : Error}
    (h : replayManifestSwitch r ctx = (.error e, ctx')) : ctx' = ctx := by
  rw [replayManifestSwitch] at h
  rcases lift_bind_cases h with ⟨_, -, -, rfl⟩ | ⟨payload, -, hguards⟩
  · rfl
  cases hreject : manifestSwitchRejection ctx r.lsn payload with
  | some reason =>
    rw [get_bind, hreject] at hguards
    cases hguards
  | none =>
    rw [get_bind, hreject] at hguards
    rcases lift_bind_cases hguards with ⟨_, -, -, rfl⟩ | ⟨_, -, hinstall⟩
    · rfl
    · cases hinstall

/-- A failed switch leaves the manifest and the known checksums alone exactly when it fails before
it is installed: the checks of the adapter come after the handler has written. -/
theorem failed_switch_keeps_manifest_iff {e : Error} (hkind : r.kind = .manifestSwitch)
    (h : replayRecord r ctx = (.error e, ctx')) : (ctx'.activeManifest = ctx.activeManifest ∧
        ctx'.knownManifestCrcByVersion = ctx.knownManifestCrcByVersion) ↔
      ¬ ∃ payload, parseManifestSwitchPayload r.payload = .ok payload ∧
        manifestSwitchRejection ctx r.lsn payload = none ∧
        (nextManifest ctx.activeManifest payload).validate = .ok () := by
  have hhandler := replayHandler_switch hkind ctx
  rw [replayRecord, get_bind] at h
  by_cases hinstalled : ∃ payload, parseManifestSwitchPayload r.payload = .ok payload ∧
      manifestSwitchRejection ctx r.lsn payload = none ∧
      (nextManifest ctx.activeManifest payload).validate = .ok ()
  · obtain ⟨payload, hparse, hreject, hvalid⟩ := hinstalled
    have hrun : replayManifestSwitch r ctx =
        (.ok (.applied r.lsn .manifestSwitch), ctx.installManifest r.lsn payload) :=
      replayManifestSwitch_eq_ok.mpr ⟨payload, hparse, .inr ⟨hreject, hvalid, rfl, rfl⟩⟩
    rw [bind_of_ok (replayWalRecordResult_of_success (hhandler.trans hrun) rfl), get_bind,
      if_pos hkind, lift_apply] at h
    obtain ⟨-, rfl⟩ := Prod.mk.inj h
    refine iff_of_false ?_ (not_not.mpr ⟨payload, hparse, hreject, hvalid⟩)
    rintro ⟨hsame, -⟩
    -- the installed manifest has a larger version than the active one
    have hactive : ctx.activeManifest = some (nextManifest ctx.activeManifest payload) := by
      simpa [installManifest] using hsame.symm
    rw [manifestSwitchRejection] at hreject
    split_ifs at hreject with hversion
    exact hversion ⟨_, hactive, UInt64.le_refl _⟩
  · refine iff_of_true ?_ hinstalled
    rcases hrun : replayManifestSwitch r ctx with ⟨e' | result, c⟩
    · have hfailed : replayWalRecordResult r ctx = (.error e', c) :=
        bind_of_error (hhandler.trans hrun)
      rw [bind_of_error hfailed] at h
      cases h
      rw [replayManifestSwitch_of_error hrun]
      exact ⟨rfl, rfl⟩
    · obtain ⟨payload, hparse, hcase⟩ := replayManifestSwitch_eq_ok.mp hrun
      rcases hcase with ⟨reason, -, rfl, rfl⟩ | ⟨hreject, hvalid, -, -⟩
      · rw [bind_of_ok (replayWalRecordResult_of_success (hhandler.trans hrun) rfl), get_bind,
          if_pos hkind, lift_apply] at h
        obtain ⟨-, rfl⟩ := Prod.mk.inj h
        exact ⟨by simp [pushTrace], by simp [pushTrace]⟩
      · exact absurd ⟨payload, hparse, hreject, hvalid⟩ hinstalled

/-- A switch back to the version that is active. -/
def regressingSwitch : WalRecord := switchRecord ⟨1, 2, 0, 0, List.replicate 32 0, 9⟩ 2 (some 1)

def regressionText : String :=
  "ManifestSwitch at LSN 2 for manifest version 1 failed validation: regresses manifest version (must be strictly monotonically increasing)"

theorem regressing_switch_keeps_manifest : ∃ ctx',
    replayRecord regressingSwitch (.withManifest .new bootstrapManifest) =
        (.error (storageError regressionText), ctx') ∧
      ctx'.activeManifest = some bootstrapManifest := by
  rcases hrun : replayRecord regressingSwitch (.withManifest .new bootstrapManifest) with
    ⟨result, ctx'⟩
  have hfailed : (replayRecord regressingSwitch (.withManifest .new bootstrapManifest)).1 =
      .error (storageError regressionText) := by
    decide +kernel
  rw [hrun] at hfailed
  cases hfailed
  refine ⟨ctx', rfl, ((failed_switch_keeps_manifest_iff rfl hrun).mpr ?_).1⟩
  rintro ⟨payload, hparse, haccepted, -⟩
  have hversion : parseManifestSwitchPayload regressingSwitch.payload =
      .ok ⟨1, 2, 0, 0, List.replicate 32 0, 9⟩ := rfl
  cases hversion.symm.trans hparse
  revert haccepted
  decide +kernel

/-- A switch whose version advances and whose base checkpoint does not. -/
def standingSwitch : WalRecord := switchRecord ⟨2, 2, 0, 0, List.replicate 32 0, 9⟩ 2 (some 1)

theorem failed_switch_replaces_manifest : standingSwitch.kind = .manifestSwitch ∧
    (replayRecord standingSwitch (.withManifest .new bootstrapManifest)).1 =
      .error (storageError "ManifestSwitch at LSN 2 must strictly advance base checkpoint LSN: previous=0, next=0") ∧
      (replayRecord standingSwitch (.withManifest .new bootstrapManifest)).2.activeManifest ≠
        (ReplayContext.withManifest .new bootstrapManifest).activeManifest :=
  ⟨rfl, by decide +kernel, by decide +kernel⟩

end Andromeda
