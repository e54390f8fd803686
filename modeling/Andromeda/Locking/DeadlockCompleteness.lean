import Andromeda.Locking.DeadlockDetection
import Andromeda.Locking.TableRun

/-!
# What deadlock detection finds

The graph of a reachable lock table has an edge for every request that conflicts with a
lock somebody else holds (`fromLockTableSnapshot_spec`). So a set of transactions that
hold each other up that way is always reported. A request that only waits behind an
older one in the queue has no edge, and transactions that are stuck for that reason are
not reported.
-/

namespace Andromeda

open Fallible Deadlock List

/-! ## The graph of a table -/

variable {u : Unit}

theorem validateTransactionId_eq_ok {txId : TransactionId} :
    validateTransactionId txId = .ok u ↔ txId ≠ 0 :=
  failIf_eq_ok

variable {x : TransactionId} {m : LockManager} {ps : List TransactionId}

theorem mem_sortedUnique {txIds : List TransactionId} : x ∈ sortedUnique txIds ↔ x ∈ txIds := by
  rw [sortedUnique, mem_insertionSort, mem_dedup]

/-- A request in the queue that conflicts with a lock that another transaction holds. -/
structure LockEntry.Conflict (e : LockEntry) (tx other : TransactionId) (w : LockWaiter)
    (h : LockHolder) : Prop where
  waiter : w ∈ e.waiters ∧ w.txId = tx
  holder : h ∈ e.holders ∧ h.txId = other
  others : other ≠ tx
  conflict : h.mode.isCompatibleWith w.mode = false

def LockManager.WaitsFor (m : LockManager) (tx other : TransactionId) : Prop :=
  ∃ r e, m.entry r = some e ∧ ∃ w h, e.Conflict tx other w h

namespace WaitForGraph

variable {g : WaitForGraph} {x y : TransactionId}

theorem insertEdge_spec (g : WaitForGraph) (hx : x ≠ 0) (hy : y ≠ 0) (hne : x ≠ y) :
    ∃ changed g', g.insertEdge x y = .ok (changed, g') ∧
      ∀ edge, edge ∈ g'.edges ↔ edge ∈ g.edges ∨ edge = (x, y) := by
  have hinsert : g.insertEdge x y = .ok (if (x, y) ∈ g.edges then (false, g)
      else (true, ⟨g.edges.orderedInsert edgeLe (x, y)⟩)) := by
    rw [insertEdge, validateTransactionId_eq_ok (u := ()) |>.mpr hx,
      validateTransactionId_eq_ok (u := ()) |>.mpr hy, validateNotSelfEdge, failIf, if_neg hne]
    rfl
  split_ifs at hinsert with hmem
  · refine ⟨false, g, hinsert, fun edge => ?_⟩
    constructor
    · exact .inl
    · rintro (hold | rfl)
      · exact hold
      · exact hmem
  · refine ⟨true, _, hinsert, fun edge => ?_⟩
    rw [mem_orderedInsert]
    exact or_comm

variable {w : LockWaiter}

theorem addHolder_spec {h : LockHolder} (hw : w.txId ≠ 0) (hh : h.txId ≠ 0) (g : WaitForGraph) :
    ∃ g', addHolder w g h = .ok g' ∧ ∀ edge, edge ∈ g'.edges ↔ edge ∈ g.edges ∨
      (edge = (w.txId, h.txId) ∧ h.txId ≠ w.txId ∧ h.mode.isCompatibleWith w.mode = false) := by
  rw [addHolder, validateTransactionId_eq_ok (u := ()) |>.mpr hh]
  by_cases hself : h.txId = w.txId
  · refine ⟨g, ?_, by simp [hself]⟩
    rw [if_pos hself]
    rfl
  by_cases hcompatible : h.mode.isCompatibleWith w.mode = true
  · refine ⟨g, ?_, by simp [hcompatible]⟩
    rw [if_neg hself, if_pos hcompatible]
    rfl
  obtain ⟨changed, g', hinsert, hedges⟩ := g.insertEdge_spec hw hh (Ne.symm hself)
  refine ⟨g', ?_, fun edge => ?_⟩
  · rw [if_neg hself, if_neg hcompatible, hinsert]
    rfl
  · rw [hedges]
    simp [hself, hcompatible]

theorem addWaiter_spec {holders : List LockHolder} (hw : w.txId ≠ 0)
    (hholders : ∀ h ∈ holders, h.txId ≠ 0) (g : WaitForGraph) :
    ∃ g', addWaiter holders g w = .ok g' ∧ ∀ edge, edge ∈ g'.edges ↔ edge ∈ g.edges ∨
      ∃ h ∈ holders, edge = (w.txId, h.txId) ∧ h.txId ≠ w.txId ∧
        h.mode.isCompatibleWith w.mode = false := by
  rw [addWaiter, validateTransactionId_eq_ok (u := ()) |>.mpr hw]
  exact foldlM_collects (fun g edge => edge ∈ g.edges)
    (fun h hh g => addHolder_spec hw (hholders h hh) g) g

theorem addEntry_spec {p : LockResource × LockEntry} (hp : p.2.Orderly) (g : WaitForGraph) :
    ∃ g', addEntry g p = .ok g' ∧ ∀ edge, edge ∈ g'.edges ↔ edge ∈ g.edges ∨
      ∃ w h, p.2.Conflict edge.1 edge.2 w h := by
  obtain ⟨g', hfold, hedges⟩ := foldlM_collects (fun g edge => edge ∈ g.edges)
    (fun w hw g => addWaiter_spec (hp.waiterIds w hw) hp.holderIds g) g
  refine ⟨g', hfold, fun edge => ?_⟩
  rw [hedges]
  apply or_congr_right
  constructor
  · rintro ⟨w, hw, h, hh, rfl, hne, hconflict⟩
    exact ⟨w, h, ⟨hw, rfl⟩, ⟨hh, rfl⟩, hne, hconflict⟩
  · rintro ⟨w, h, ⟨hw, htx⟩, ⟨hh, hother⟩, hne, hconflict⟩
    refine ⟨w, hw, h, hh, ?_, ?_, hconflict⟩
    · rw [htx, hother]
    · rwa [htx, hother]

end WaitForGraph

theorem LockManager.mem_snapshot {p : LockResource × LockEntry} :
    p ∈ m.snapshot ↔ m.entry p.1 = some p.2 := by
  rw [snapshot, mem_filterMap]
  constructor
  · rintro ⟨r, -, hr⟩
    obtain ⟨e, he, rfl⟩ := Option.map_eq_some_iff.mp hr
    exact he
  · intro h
    exact ⟨p.1, mem_resources.mpr ⟨p.2, h⟩, by rw [h]; rfl⟩

theorem WaitForGraph.fromLockTableSnapshot_spec (hm : m.Orderly) :
    ∃ g, fromLockTableSnapshot m.snapshot = .ok g ∧ ∀ x y, (x, y) ∈ g.edges ↔ m.WaitsFor x y := by
  obtain ⟨g, hfold, hedges⟩ := foldlM_collects (fun g edge => edge ∈ g.edges)
    (fun p hp g => addEntry_spec (hm.entries p.1 p.2 (LockManager.mem_snapshot.mp hp)).1 g) .new
  refine ⟨g, hfold, fun x y => ?_⟩
  rw [hedges]
  constructor
  · rintro (hnew | ⟨p, hp, hconflict⟩)
    · cases hnew
    · exact ⟨p.1, p.2, LockManager.mem_snapshot.mp hp, hconflict⟩
  · rintro ⟨r, e, he, hconflict⟩
    exact .inr ⟨(r, e), LockManager.mem_snapshot.mpr he, hconflict⟩

theorem LockManager.Orderly.waitsFor (hm : m.Orderly) {y : TransactionId} (h : m.WaitsFor x y) :
    x ≠ 0 ∧ y ≠ 0 ∧ x ≠ y := by
  obtain ⟨r, e, he, w, l, ⟨hw, rfl⟩, ⟨hl, rfl⟩, hne, -⟩ := h
  have horderly := (hm.entries r e he).1
  exact ⟨horderly.waiterIds w hw, horderly.holderIds l hl, Ne.symm hne⟩

/-! ## The victim -/

theorem validateCycleParticipants_eq_ok :
    validateCycleParticipants ps = .ok u ↔ 2 ≤ ps.length ∧ ∀ p ∈ ps, p ≠ 0 := by
  simp only [validateCycleParticipants, ok_iff, forM_eq_ok, validateTransactionId_eq_ok, not_lt]

namespace DeadlockTransactionMetadataTable

variable (table : DeadlockTransactionMetadataTable) {ps : List TransactionId}

theorem hasMetadataForAll_spec (hps : ∀ p ∈ ps, p ≠ 0) :
    ∃ complete, table.hasMetadataForAll ps = .ok complete ∧
      (complete = true ↔ ∀ p ∈ ps, (table.entries p).isSome = true) := by
  induction ps with
  | nil => exact ⟨true, rfl, by simp⟩
  | cons p ps ih =>
    rw [forall_mem_cons] at hps
    obtain ⟨complete, hrest, hiff⟩ := ih hps.2
    rw [hasMetadataForAll, validateTransactionId_eq_ok (u := ()) |>.mpr hps.1]
    cases hentry : table.entries p with
    | none => exact ⟨false, rfl, by simp [hentry]⟩
    | some metadata =>
      refine ⟨complete, hrest, ?_⟩
      rw [hiff, forall_mem_cons, hentry]
      simp

theorem selectYoungestLoop_spec (hps : ∀ p ∈ ps, p ≠ 0 ∧ (table.entries p).isSome = true)
    (selected : Option (UInt64 × TransactionId)) :
    ∃ selected', selectYoungestLoop table ps selected = .ok selected' ∧
      (∀ c ∈ selected', c.2 ∈ ps ∨ c ∈ selected) ∧
      (ps ≠ [] ∨ selected.isSome = true → selected'.isSome = true) := by
  induction ps generalizing selected with
  | nil => exact ⟨selected, rfl, fun c hc => .inr hc, by simp⟩
  | cons p ps ih =>
    rw [forall_mem_cons] at hps
    obtain ⟨metadata, hentry⟩ := Option.isSome_iff_exists.mp hps.1.2
    have hfound : table.metadataFor p = .ok (some metadata) := by
      rw [metadataFor, validateTransactionId_eq_ok (u := ()) |>.mpr hps.1.1, ← hentry]
      rfl
    rw [selectYoungestLoop, hfound]
    cases selected with
    | none =>
      obtain ⟨selected', hloop, hmem, hsome⟩ := ih hps.2 (some (metadata.startOrder, p))
      refine ⟨selected', hloop, fun c hc => ?_, fun _ => hsome (.inr rfl)⟩
      rcases hmem c hc with hmem | hmem
      · exact .inl (mem_cons_of_mem p hmem)
      · cases hmem
        exact .inl mem_cons_self
    | some current =>
      obtain ⟨selected', hloop, hmem, hsome⟩ := ih hps.2
        (if current.1 < metadata.startOrder ∨ current.1 = metadata.startOrder ∧ current.2 < p
          then some (metadata.startOrder, p) else some current)
      refine ⟨selected', hloop, fun c hc => ?_, fun _ => hsome (.inr (by split <;> rfl))⟩
      rcases hmem c hc with hmem | hmem
      · exact .inl (mem_cons_of_mem p hmem)
      · split at hmem
        · cases hmem
          exact .inl mem_cons_self
        · exact .inr hmem

theorem selectYoungestByStartOrder_spec (hne : ps ≠ [])
    (hps : ∀ p ∈ ps, p ≠ 0 ∧ (table.entries p).isSome = true) :
    ∃ txId ∈ ps, selectYoungestByStartOrder ps table = .ok txId := by
  obtain ⟨selected', hloop, hmem, hsome⟩ := table.selectYoungestLoop_spec hps none
  obtain ⟨c, rfl⟩ := Option.isSome_iff_exists.mp (hsome (.inl hne))
  have hc : c.2 ∈ ps := by simpa using hmem c rfl
  refine ⟨c.2, hc, ?_⟩
  rw [selectYoungestByStartOrder, hloop]
  rfl

end DeadlockTransactionMetadataTable

section

variable (hps : ∀ p ∈ ps, p ≠ 0) (victimPolicy : DeadlockVictimPolicy)
  (table : DeadlockTransactionMetadataTable)
  (hmetadata : victimPolicy = .youngestTransactionStartOrder →
    ∀ p ∈ ps, (table.entries p).isSome = true)
include hps hmetadata

theorem DeadlockVictimPolicy.select_spec (hne : ps ≠ []) :
    ∃ txId ∈ ps, victimPolicy.select ps table = .ok txId := by
  cases victimPolicy with
  | youngestTransactionStartOrder =>
    exact table.selectYoungestByStartOrder_spec hne fun p hp => ⟨hps p hp, hmetadata rfl p hp⟩
  | youngestTransactionId =>
    refine ⟨ps.getLast hne, getLast_mem hne, ?_⟩
    rw [select, List.getLast?_eq_some_getLast hne]
    rfl
  | oldestTransactionId =>
    refine ⟨ps.head hne, head_mem hne, ?_⟩
    rw [select, List.head?_eq_some_head hne]
    rfl

theorem DeadlockVictim.fromCycle_spec (htwo : 2 ≤ ps.length) :
    ∃ victim, fromCycleWithTransactionMetadata ps victimPolicy table = .ok victim ∧
      victim.txId ∈ ps ∧ victim.cycleParticipants = sortedUnique ps := by
  have hne : sortedUnique ps ≠ [] := by
    intro hnil
    have hmem := mem_sortedUnique.mpr (getElem_mem (l := ps) (n := 0) (by omega))
    rw [hnil] at hmem
    cases hmem
  obtain ⟨txId, hmem, hselect⟩ := victimPolicy.select_spec
    (fun p hp => hps p (mem_sortedUnique.mp hp)) table
    (fun horder p hp => hmetadata horder p (mem_sortedUnique.mp hp)) hne
  refine ⟨⟨txId, victimPolicy, sortedUnique ps⟩, ?_, mem_sortedUnique.mp hmem, rfl⟩
  rw [fromCycleWithTransactionMetadata,
    validateCycleParticipants_eq_ok (u := ()) |>.mpr ⟨htwo, hps⟩]
  dsimp only [bind, Except.bind]
  rw [hselect]
  rfl

end

/-- What becomes of a cycle: a victim is suggested, or its start orders are not known. -/
theorem DeadlockPolicy.statusOfCycle_spec (policy : DeadlockPolicy)
    (table : DeadlockTransactionMetadataTable) (htwo : 2 ≤ ps.length) (hps : ∀ p ∈ ps, p ≠ 0) :
    (∃ victim : DeadlockVictim,
        policy.statusOfCycle table ps = .ok (.cycleFound victim victim.cycleParticipants) ∧
        victim.txId ∈ ps ∧ victim.cycleParticipants = sortedUnique ps) ∨
      policy.statusOfCycle table ps = .ok (.deferred missingTransactionOrderingMetadataReason) ∧
        policy.victimPolicy = .youngestTransactionStartOrder ∧
        ∃ p ∈ ps, table.entries p = none := by
  obtain ⟨complete, hcomplete, hiff⟩ := table.hasMetadataForAll_spec hps
  have hfound (hmetadata : policy.victimPolicy = .youngestTransactionStartOrder →
      ∀ p ∈ ps, (table.entries p).isSome = true)
      (hmissing : policy.missesMetadata table ps = .ok false) :
      ∃ victim : DeadlockVictim,
        policy.statusOfCycle table ps = .ok (.cycleFound victim victim.cycleParticipants) ∧
        victim.txId ∈ ps ∧ victim.cycleParticipants = sortedUnique ps := by
    obtain ⟨victim, hvictim, hspec⟩ :=
      DeadlockVictim.fromCycle_spec hps policy.victimPolicy table hmetadata htwo
    refine ⟨victim, ?_, hspec⟩
    rw [statusOfCycle, hmissing]
    dsimp only [bind, Except.bind]
    rw [if_neg Bool.false_ne_true, hvictim]
    rfl
  by_cases horder : policy.victimPolicy = .youngestTransactionStartOrder
  · have hmissing : policy.missesMetadata table ps = .ok !complete := by
      rw [missesMetadata, if_pos horder, hcomplete]
      rfl
    cases complete with
    | true => exact .inl (hfound (fun _ => hiff.mp rfl) hmissing)
    | false =>
      refine .inr ⟨?_, horder, ?_⟩
      · rw [statusOfCycle, hmissing]
        rfl
      · by_contra hall
        push Not at hall
        have htrue := hiff.mpr fun p hp => Option.isSome_iff_ne_none.mpr (hall p hp)
        cases htrue
  · refine .inl (hfound (fun h => absurd h horder) ?_)
    rw [missesMetadata, if_neg horder]
    rfl

/-! ## The search -/

namespace WaitForGraph

variable {g : WaitForGraph} {x y : TransactionId}

theorem mem_transactionIds : x ∈ g.transactionIds ↔ ∃ e ∈ g.edges, x = e.1 ∨ x = e.2 := by
  rw [transactionIds, mem_sortedUnique, mem_flatMap]
  simp

/-- What `validate` accepts. -/
def Valid (g : WaitForGraph) : Prop := ∀ e ∈ g.edges, e.1 ≠ 0 ∧ e.2 ≠ 0 ∧ e.1 ≠ e.2

theorem validate_eq_ok : g.validate = .ok u ↔ g.Valid := by
  simp [validate, forM_eq_ok, validateTransactionId_eq_ok, validateNotSelfEdge, Valid]

theorem Valid.ne_zero (h : g.Valid) (hx : x ∈ g.transactionIds) : x ≠ 0 := by
  obtain ⟨e, he, rfl | rfl⟩ := mem_transactionIds.mp hx
  · exact (h e he).1
  · exact (h e he).2.1

theorem blockersFor_of_ne_zero (hx : x ≠ 0) :
    g.blockersFor x = .ok ((g.edges.filter fun e => e.1 = x).map Prod.snd) := by
  rw [blockersFor, validateTransactionId_eq_ok (u := ()) |>.mpr hx]
  rfl

theorem mem_blockers : y ∈ (g.edges.filter fun e => e.1 = x).map Prod.snd ↔ (x, y) ∈ g.edges := by
  rw [mem_map]
  constructor
  · rintro ⟨e, he, rfl⟩
    rw [mem_filter, decide_eq_true_eq] at he
    rw [← he.2]
    exact he.1
  · intro h
    exact ⟨(x, y), mem_filter.mpr ⟨h, decide_eq_true rfl⟩, rfl⟩

theorem Valid.total (h : g.Valid) (hx : x ∈ g.transactionIds) :
    ∃ ys, g.blockersFor x = .ok ys ∧ x ∉ ys ∧ ∀ y ∈ ys, y ∈ g.transactionIds := by
  refine ⟨_, blockersFor_of_ne_zero (h.ne_zero hx), ?_, ?_⟩
  · rw [mem_blockers]
    intro hself
    exact (h _ hself).2.2 rfl
  · intro y hy
    exact mem_transactionIds.mpr ⟨(x, y), mem_blockers.mp hy, .inr rfl⟩

theorem edge_iff (hx : x ≠ 0) : CycleSearch.Edge g.blockersFor x y ↔ (x, y) ∈ g.edges := by
  rw [CycleSearch.Edge, blockersFor_of_ne_zero hx]
  constructor
  · rintro ⟨ys, hys, hy⟩
    cases hys
    exact mem_blockers.mp hy
  · intro h
    exact ⟨_, rfl, mem_blockers.mpr h⟩

structure Cycle (g : WaitForGraph) (ps : List TransactionId) : Prop where
  two : 2 ≤ ps.length
  nonzero : ∀ p ∈ ps, p ≠ 0
  ring : CycleSearch.Ring (fun x y => (x, y) ∈ g.edges) ps

theorem Valid.cycle (h : g.Valid) {ps : List TransactionId}
    (htangle : CycleSearch.Tangle g.blockersFor g.transactionIds ps) : g.Cycle ps := by
  refine ⟨htangle.two, fun p hp => h.ne_zero (htangle.known p hp), htangle.ring.imp fun x y hxy => ?_⟩
  have hx : x ≠ 0 := by
    rintro rfl
    obtain ⟨ys, hys, -⟩ := hxy
    cases hys
  exact (edge_iff hx).mp hxy

section

variable (h : g.Valid) (deadline : DeadlockDetectionDeadline) (clock : DeadlockClock)
include h

theorem Valid.search_sound {ps : List TransactionId}
    (hfound : (g.findFirstCycleUntil deadline clock).1 = .ok (.cycleFound ps)) : g.Cycle ps :=
  h.cycle ((CycleSearch.findFirstCycle_outcome (fun _ hx => h.total hx) hfound).2 ps rfl)

theorem Valid.search_found (hbudget : ∀ n, deadline.isExpiredAt (clock n) = false)
    {S : TransactionId → Prop} (hsome : ∃ x, S x) (hS : ∀ x, S x → ∃ y, S y ∧ (x, y) ∈ g.edges) :
    ∃ ps, (g.findFirstCycleUntil deadline clock).1 = .ok (.cycleFound ps) ∧ g.Cycle ps := by
  have htrap : CycleSearch.Trap g.blockersFor g.transactionIds S := by
    constructor
    · exact fun x hx => h.total hx
    · intro x hx
      obtain ⟨y, -, hedge⟩ := hS x hx
      exact mem_transactionIds.mpr ⟨(x, y), hedge, .inl rfl⟩
    · intro x hx
      obtain ⟨y, hy, hedge⟩ := hS x hx
      exact ⟨y, (edge_iff (h _ hedge).1).mpr hedge, hy⟩
  rcases CycleSearch.findFirstCycle_spec htrap hbudget with ⟨ps, hfound, htangle⟩ | ⟨-, hnone⟩
  · exact ⟨ps, hfound, h.cycle htangle⟩
  · obtain ⟨x, hx⟩ := hsome
    exact absurd hx (hnone x)

end

end WaitForGraph

/-! ## The decision -/

/-- A decision that reports a cycle of the table: it suggests one of the transactions of a
cycle as the victim, or defers because the policy needs the start orders of a cycle and one of
them is not registered. -/
inductive ReportsCycle (m : LockManager) (policy : DeadlockPolicy)
    (transactionMetadata : Option DeadlockTransactionMetadataTable) : Result DeadlockDecision → Prop
  | suggested {victim : DeadlockVictim} {evidence : DeadlockDecisionEvidence}
      {ps : List TransactionId} (two : 2 ≤ ps.length) (ring : CycleSearch.Ring m.WaitsFor ps)
      (participants : victim.cycleParticipants = sortedUnique ps) (member : victim.txId ∈ ps) :
      ReportsCycle m policy transactionMetadata
        (.ok (.victimSuggested victim victim.cycleParticipants evidence))
  | deferred {evidence : DeadlockDecisionEvidence} {ps : List TransactionId} {tx : TransactionId}
      (two : 2 ≤ ps.length) (ring : CycleSearch.Ring m.WaitsFor ps) (member : tx ∈ ps)
      (needed : policy.victimPolicy = .youngestTransactionStartOrder)
      (missing : (transactionMetadata.getD .new).entries tx = none) :
      ReportsCycle m policy transactionMetadata
        (.ok (.deferred missingTransactionOrderingMetadataReason evidence))

/-- Transactions that hold each other up are reported. -/
theorem decision_reports_mutual_conflict (cs : List LockCall) (policy : DeadlockPolicy)
    (transactionMetadata : Option DeadlockTransactionMetadataTable)
    (deadline : DeadlockDetectionDeadline) (clock : DeadlockClock)
    (hpolicy : policy.validate = .ok ())
    (hdeadline : validateDeadlockTimeout deadline.timeout = .ok ())
    (hle : deadline.timeout ≤ policy.detectionTimeout)
    (hbudget : ∀ n, deadline.isExpiredAt (clock n) = false)
    (S : TransactionId → Prop) (hsome : ∃ x, S x)
    (hS : ∀ x, S x → ∃ y, S y ∧ (LockManager.new.calls cs).WaitsFor x y) :
    ReportsCycle (LockManager.new.calls cs) policy transactionMetadata
      (decideDeadlockFromLockTableSnapshotWithDeadline (LockManager.new.calls cs).snapshot policy
        transactionMetadata deadline clock) := by
  have hm : (LockManager.new.calls cs).Orderly := LockManager.Orderly.new.calls cs
  obtain ⟨g, hgraph, hedges⟩ := WaitForGraph.fromLockTableSnapshot_spec hm
  have hvalid : g.Valid := fun e he => hm.waitsFor ((hedges e.1 e.2).mp he)
  obtain ⟨ps, hsearch, hcycle⟩ := hvalid.search_found deadline
    (fun n => clock (n + 1)) (fun n => hbudget (n + 1)) hsome fun x hx => by
      obtain ⟨y, hy, hwaits⟩ := hS x hx
      exact ⟨y, hy, (hedges x y).mpr hwaits⟩
  have hnonempty : g.isEmpty = false := by
    obtain ⟨x, hx⟩ := hsome
    obtain ⟨y, -, hwaits⟩ := hS x hx
    have hmem := (hedges x y).mpr hwaits
    rw [WaitForGraph.isEmpty, isEmpty_eq_false_iff]
    exact ne_nil_of_mem hmem
  have hdetect : detectWithTransactionMetadataAndDeadline policy g
      (transactionMetadata.getD .new) deadline clock =
        policy.statusOfCycle (transactionMetadata.getD .new) ps := by
    rw [detectWithTransactionMetadataAndDeadline, hpolicy, hdeadline, failIf,
      if_neg (Nat.not_lt.mpr hle), hbudget, if_neg Bool.false_ne_true,
      WaitForGraph.validate_eq_ok (u := ()) |>.mpr hvalid, hnonempty, if_neg Bool.false_ne_true]
    dsimp only [bind, Except.bind]
    rw [hsearch]
  rw [decideDeadlockFromLockTableSnapshotWithDeadline, hgraph, hpolicy]
  dsimp only [bind, Except.bind]
  rw [hdetect]
  have hring : CycleSearch.Ring (LockManager.new.calls cs).WaitsFor ps :=
    hcycle.ring.imp fun x y => (hedges x y).mp
  rcases policy.statusOfCycle_spec (transactionMetadata.getD .new) hcycle.two hcycle.nonzero with
    ⟨victim, hstatus, hmember, hparticipants⟩ | ⟨hstatus, hneeded, p, hp, hmissing⟩
  · rw [hstatus]
    exact .suggested hcycle.two hring hparticipants hmember
  · rw [hstatus]
    exact .deferred hcycle.two hring hp hneeded hmissing

/-- Two transactions, each holding what the other one asks for. -/
def crossedCalls : List LockCall :=
  [.acquire 1 (.table 1 1) .exclusive, .acquire 2 (.table 1 2) .exclusive,
    .acquire 1 (.table 1 2) .shared, .acquire 2 (.table 1 1) .shared]

/-- Without metadata the decision defers under the default policy and suggests the second
transaction under the policy that goes by ids. -/
theorem decision_reports_mutual_conflict_crossed :
    (∀ policy ∈ [({} : DeadlockPolicy), { victimPolicy := .youngestTransactionId }],
      ReportsCycle (LockManager.new.calls crossedCalls) policy none
        (decideDeadlockFromLockTableSnapshotWithDeadline
          (LockManager.new.calls crossedCalls).snapshot policy none ⟨0, 500000000⟩ fun _ => 0)) ∧
      decideDeadlockFromLockTableSnapshotWithDeadline
          (LockManager.new.calls crossedCalls).snapshot { victimPolicy := .youngestTransactionId }
          none ⟨0, 500000000⟩ (fun _ => 0) =
        .ok (.victimSuggested ⟨2, .youngestTransactionId, [1, 2]⟩ [1, 2]
          ⟨2, [(1, 2), (2, 1)]⟩) := by
  refine ⟨fun policy hpolicy => ?_, by decide +kernel⟩
  have hvalid : policy.validate = .ok () ∧ policy.detectionTimeout = 500000000 := by
    rcases mem_pair.mp hpolicy with rfl | rfl <;> exact ⟨rfl, rfl⟩
  refine decision_reports_mutual_conflict crossedCalls policy none ⟨0, 500000000⟩ (fun _ => 0)
    hvalid.1 rfl hvalid.2.ge (fun _ => rfl) (fun x => x = 1 ∨ x = 2) ⟨1, .inl rfl⟩ ?_
  rintro x (rfl | rfl)
  · refine ⟨2, .inr rfl, .table 1 2, ⟨[⟨2, .exclusive⟩], [⟨1, .shared, 1⟩]⟩, by decide +kernel,
      ⟨1, .shared, 1⟩, ⟨2, .exclusive⟩, ?_⟩
    constructor <;> simp [LockMode.isCompatibleWith]
  · refine ⟨1, .inl rfl, .table 1 1, ⟨[⟨1, .exclusive⟩], [⟨2, .shared, 2⟩]⟩, by decide +kernel,
      ⟨2, .shared, 2⟩, ⟨1, .exclusive⟩, ?_⟩
    constructor <;> simp [LockMode.isCompatibleWith]

/-! ## Transactions that are stuck -/

/-- A transaction outside of the set gives locks back. -/
def LockCall.ReleaseOutside (S : TransactionId → Prop) : LockCall → Prop
  | .acquire _ _ _ => False
  | .release txId _ => ¬ S txId
  | .releaseAll txId => ¬ S txId

/-- Each member of the set has a request in a queue that stays there whatever transactions
outside of the set release. -/
structure LockManager.PermanentlyStuck (m : LockManager) (S : TransactionId → Prop) : Prop where
  nonempty : ∃ tx, S tx
  waiting : ∀ tx, S tx → ∃ r w, w.txId = tx ∧ ∀ cs : List LockCall,
    (∀ c ∈ cs, c.ReleaseOutside S) → ∃ e, (m.calls cs).entry r = some e ∧ w ∈ e.waiters

namespace LockManager

variable {m : LockManager} {S : TransactionId → Prop}

def OwnedBy (m : LockManager) (S : TransactionId → Prop) : Prop :=
  ∀ r e, m.entry r = some e → e.isEmpty = false ∧ ∀ tx, ¬ S tx → e.Absent tx

theorem OwnedBy.bind_afterRelease (h : m.OwnedBy S) {tx : TransactionId} (htx : ¬ S tx)
    (r : LockResource) : (m.entry r).bind (·.afterRelease tx) = m.entry r := by
  cases hentry : m.entry r with
  | none => rfl
  | some e =>
    obtain ⟨hnonempty, habsent⟩ := h r e hentry
    rw [Option.bind_some, LockEntry.afterRelease, LockEntry.release_of_absent (habsent tx htx),
      hnonempty, if_neg Bool.false_ne_true]

/-- Who has no record changes nothing by releasing. -/
theorem OwnedBy.entry_call (h : m.OwnedBy S) {c : LockCall} (hc : c.ReleaseOutside S)
    (r : LockResource) : (m.call c).entry r = m.entry r := by
  cases c with
  | acquire txId resource mode => cases hc
  | release txId resource =>
    rw [call]
    by_cases hvalid : ValidCall txId resource
    · rw [entry_release hvalid, h.bind_afterRelease hc, ite_self]
    · obtain ⟨err, heq⟩ := release_of_invalid (m := m) hvalid
      rw [heq]
  | releaseAll txId =>
    rw [call]
    by_cases hzero : txId = 0
    · rw [hzero]
      rfl
    · rw [entry_releaseAll hzero (fun r e he => (h r e he).1), h.bind_afterRelease hc]

theorem OwnedBy.entry_calls (h : m.OwnedBy S) {cs : List LockCall}
    (hcs : ∀ c ∈ cs, c.ReleaseOutside S) (r : LockResource) : (m.calls cs).entry r = m.entry r := by
  induction cs generalizing m with
  | nil => rfl
  | cons c cs ih =>
    rw [forall_mem_cons] at hcs
    have hentry := h.entry_call hcs.1
    have howned : (m.call c).OwnedBy S := by
      intro r e he
      rw [hentry] at he
      exact h r e he
    rw [← hentry r]
    exact ih howned hcs.2

theorem OwnedBy.permanentlyStuck (h : m.OwnedBy S) (hsome : ∃ tx, S tx)
    (hwaiting : ∀ tx, S tx → ∃ r e w, m.entry r = some e ∧ w ∈ e.waiters ∧ w.txId = tx) :
    m.PermanentlyStuck S := by
  refine ⟨hsome, fun tx htx => ?_⟩
  obtain ⟨r, e, w, hentry, hw, rfl⟩ := hwaiting tx htx
  exact ⟨r, w, rfl, fun cs hcs => ⟨e, (h.entry_calls hcs r).trans hentry, hw⟩⟩

end LockManager

open LockManager

/-- Transaction 2 waits for the lock of 1, which waits for the lock of 3, which waits behind
2 in a queue. -/
def queuedCalls : List LockCall :=
  [.acquire 1 (.table 1 1) .shared, .acquire 3 (.table 1 2) .exclusive,
    .acquire 2 (.table 1 1) .exclusive, .acquire 3 (.table 1 1) .shared,
    .acquire 1 (.table 1 2) .exclusive]

/-- What the two tables then have. -/
def queuedEntries : LockEntry × LockEntry :=
  (⟨[⟨1, .shared⟩], [⟨2, .exclusive, 1⟩, ⟨3, .shared, 2⟩]⟩,
    ⟨[⟨3, .exclusive⟩], [⟨1, .exclusive, 3⟩]⟩)

theorem entry_queuedCalls (r : LockResource) : (new.calls queuedCalls).entry r =
    if r = .table 1 1 then some queuedEntries.1
    else if r = .table 1 2 then some queuedEntries.2 else none := by
  have hresources : (new.calls queuedCalls).resources = [.table 1 1, .table 1 2] := by
    decide +kernel
  split_ifs with hfirst hsecond
  · rw [hfirst]
    decide +kernel
  · rw [hsecond]
    decide +kernel
  · by_contra hsome
    have hmem := mem_resources.mpr (Option.ne_none_iff_exists'.mp hsome)
    simp [hresources, hfirst, hsecond] at hmem

/-- The three are stuck for ever, and the decision with all its time left finds no cycle. -/
theorem queued_deadlock_unreported : (new.calls queuedCalls).PermanentlyStuck (· ∈ [1, 2, 3]) ∧
      (∀ n : Nat, (⟨0, 500000000⟩ : DeadlockDetectionDeadline).isExpiredAt
        ((fun _ => 0 : DeadlockClock) n) = false) ∧
      decideDeadlockFromLockTableSnapshotWithDeadline
          (new.calls queuedCalls).snapshot {} none ⟨0, 500000000⟩ (fun _ => 0) =
        .ok (.noCycle ⟨2, [(1, 3), (2, 1)]⟩) := by
  refine ⟨LockManager.OwnedBy.permanentlyStuck ?_ ⟨1, by simp⟩ ?_, fun _ => rfl, by decide +kernel⟩
  · intro r e he
    rw [entry_queuedCalls] at he
    split_ifs at he <;> cases he
    all_goals refine ⟨rfl, fun tx htx => ⟨?_, ?_⟩⟩ <;> simp_all [queuedEntries, eq_comm]
  · intro tx htx
    simp only [mem_cons, not_mem_nil, or_false] at htx
    rcases htx with rfl | rfl | rfl
    · exact ⟨.table 1 2, _, ⟨1, .exclusive, 3⟩, entry_queuedCalls _, by decide, rfl⟩
    · exact ⟨.table 1 1, _, ⟨2, .exclusive, 1⟩, entry_queuedCalls _, by decide, rfl⟩
    · exact ⟨.table 1 1, _, ⟨3, .shared, 2⟩, entry_queuedCalls _, by decide, rfl⟩

/-! ## No wrong suggestions -/

/-- A decision that blames nobody wrongly: a victim it suggests is one of the participants, and
these hold each other up. -/
def Justified (m : LockManager) : Result DeadlockDecision → Prop
  | .ok (.victimSuggested victim participants _) => victim.txId ∈ participants ∧
      ∀ x ∈ participants, ∃ y ∈ participants, x ≠ y ∧ m.WaitsFor x y
  | _ => True

theorem decision_justified (cs : List LockCall) (policy : DeadlockPolicy)
    (transactionMetadata : Option DeadlockTransactionMetadataTable)
    (deadline : DeadlockDetectionDeadline) (clock : DeadlockClock) :
    Justified (LockManager.new.calls cs)
      (decideDeadlockFromLockTableSnapshotWithDeadline (LockManager.new.calls cs).snapshot policy
        transactionMetadata deadline clock) := by
  have hm : (LockManager.new.calls cs).Orderly := LockManager.Orderly.new.calls cs
  obtain ⟨g, hgraph, hedges⟩ := WaitForGraph.fromLockTableSnapshot_spec hm
  have hvalid : g.Valid := fun e he => hm.waitsFor ((hedges e.1 e.2).mp he)
  rcases hdecision : decideDeadlockFromLockTableSnapshotWithDeadline
    (LockManager.new.calls cs).snapshot policy transactionMetadata deadline clock with _ | decision
  · trivial
  cases decision with
  | noCycle | deferred | timedOut => trivial
  | victimSuggested victim participants evidence =>
    simp only [decideDeadlockFromLockTableSnapshotWithDeadline, hgraph, ok_iff,
      Except.ok.injEq, exists_eq_left'] at hdecision
    obtain ⟨-, status, hstatus, hsuggested⟩ := hdecision
    cases status <;> cases hsuggested
    simp only [detectWithTransactionMetadataAndDeadline, ok_iff] at hstatus
    obtain ⟨-, -, -, hstatus⟩ := hstatus
    split_ifs at hstatus
    · cases hstatus
    · obtain ⟨-, -, hnone⟩ := bind_eq_ok.mp hstatus
      cases hnone
    obtain ⟨-, -, hstatus⟩ := bind_eq_ok.mp hstatus
    split at hstatus
    · cases hstatus
    · rename_i ps hsearch
      have hcycle := hvalid.search_sound deadline _ hsearch
      rcases policy.statusOfCycle_spec (transactionMetadata.getD .new) hcycle.two hcycle.nonzero with
        ⟨victim, hfound, hmember, hparticipants⟩ | ⟨hdeferred, -⟩
      · rw [hfound] at hstatus
        cases hstatus
        rw [Justified, hparticipants]
        refine ⟨mem_sortedUnique.mpr hmember, fun x hx => ?_⟩
        obtain ⟨y, hy, hxy⟩ := hcycle.ring.closed x (mem_sortedUnique.mp hx)
        have hwaits := (hedges x y).mp hxy
        exact ⟨y, mem_sortedUnique.mpr hy, (hm.waitsFor hwaits).2.2, hwaits⟩
      · rw [hdeferred] at hstatus
        cases hstatus
    all_goals cases hstatus

end Andromeda
