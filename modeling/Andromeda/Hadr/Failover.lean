import Andromeda.Hadr.Promotion
import Mathlib.Data.Finset.Card

/-!
# Failover over whole sequences of promotions

Every approval rests on a quorum of distinct members and exceeds every epoch the fencing
context knows (`evaluatePromotion_approved`). Two quorums share a member, and so do a
quorum and a majority that holds an LSN durably; the fencing context admits the token of
the last approval alone.
-/

namespace Andromeda

open Fallible HadrPromotionVote List PromotionPlan

/-! ## What an approval rests on -/

theorem le_greatest {x : UInt64} {xs : List UInt64} (hx : x ∈ xs) : x ≤ greatest xs := by
  induction xs with
  | nil => cases hx
  | cons y ys ih =>
    rw [greatest]
    split_ifs with hle
    · rcases mem_cons.mp hx with rfl | hx
      · exact UInt64.le_refl x
      · exact UInt64.le_trans (ih hx) hle
    · rcases mem_cons.mp hx with rfl | hx
      · exact UInt64.le_of_lt (UInt64.not_le.mp hle)
      · exact ih hx

namespace HadrQuorumMembership

variable {m : HadrQuorumMembership}

theorem validRoster_spec {votes : List HadrPromotionVote} {seen : List HadrNodeId}
    (h : m.validRoster votes seen = true) :
    (∀ v ∈ votes, v.voter ∈ m.members ∧ v.voter ∉ seen) ∧ (votes.map voter).Nodup := by
  induction votes generalizing seen with
  | nil => simp
  | cons vote votes ih =>
    rw [validRoster] at h
    split_ifs at h with hmember hseen
    obtain ⟨hrest, hnodup⟩ := ih h
    have hmember' : vote.voter ∈ m.members := by simpa [contains] using hmember
    have hseen' : vote.voter ∉ seen := by simpa using hseen
    constructor
    · rw [forall_mem_cons]
      refine ⟨⟨hmember', hseen'⟩, fun v hv => ⟨(hrest v hv).1, ?_⟩⟩
      intro hmem
      exact (hrest v hv).2 (mem_append_left _ hmem)
    · rw [map_cons, nodup_cons]
      refine ⟨?_, hnodup⟩
      intro hmem
      obtain ⟨v, hv, heq⟩ := mem_map.mp hmem
      apply (hrest v hv).2
      rw [heq]
      simp

theorem exists_common {xs ys : List HadrNodeId} (hxs : xs.Nodup) (hys : ys.Nodup)
    (hxm : ∀ x ∈ xs, x ∈ m.members) (hym : ∀ y ∈ ys, y ∈ m.members)
    (hlength : m.members.length < xs.length + ys.length) : ∃ v, v ∈ xs ∧ v ∈ ys := by
  have hinter : (xs.toFinset ∩ ys.toFinset).Nonempty := by
    apply Finset.inter_nonempty_of_card_lt_card_add_card (s := m.members.toFinset)
    · intro x hx
      exact mem_toFinset.mpr (hxm x (mem_toFinset.mp hx))
    · intro y hy
      exact mem_toFinset.mpr (hym y (mem_toFinset.mp hy))
    · rw [toFinset_card_of_nodup hxs, toFinset_card_of_nodup hys, toFinset_card_of_nodup m.nodup]
      exact hlength
  obtain ⟨v, hv⟩ := hinter
  rw [Finset.mem_inter, mem_toFinset, mem_toFinset] at hv
  exact ⟨v, hv⟩

end HadrQuorumMembership

def HadrPromotionRequest.grantedVoters (request : HadrPromotionRequest) : List HadrNodeId :=
  (request.votes.filter granted).map voter

/-- What the decision engine has checked when it approves. -/
structure ApprovedUnder (request : HadrPromotionRequest) (membership : HadrQuorumMembership)
    (fencing : HadrFencingContext) (token : HadrFencingToken) (committedSafeLsn : Lsn)
    (grantedVoters : List HadrNodeId) : Prop where
  token_eq : token = ⟨request.candidate.id, request.proposedEpoch⟩
  voters_eq : grantedVoters = request.grantedVoters
  members : ∀ v ∈ grantedVoters, v ∈ membership.members
  nodup : grantedVoters.Nodup
  quorum : membership.quorumSize ≤ grantedVoters.length
  highest : fencing.highestObservedEpoch < token.epoch
  active : ∀ t, fencing.activeToken = some t → t.epoch < token.epoch
  durable : ∀ v ∈ request.votes, v.granted = true → v.voterSafeLsn ≤ committedSafeLsn

variable {fencing : HadrFencingContext} {membership : HadrQuorumMembership}

theorem evaluatePromotion_approved {request : HadrPromotionRequest} {token : HadrFencingToken}
    {committedSafeLsn : Lsn} {grantedVoters : List HadrNodeId}
    (h : (evaluatePromotion request membership fencing).outcome =
      .approved token committedSafeLsn grantedVoters) :
    ApprovedUnder request membership fencing token committedSafeLsn grantedVoters := by
  rw [evaluatePromotion, decidePromotion] at h
  dsimp only at h
  split_ifs at h with hrole hcandidate hroster hepoch hvoters hactive hquorum hstale hown hseen
  simp only [HadrPromotionOutcome.approved.injEq] at h
  obtain ⟨rfl, rfl, rfl⟩ := h
  have hroster' : membership.validRoster request.votes [] = true := by simpa using hroster
  obtain ⟨hmembers, hnodup⟩ := HadrQuorumMembership.validRoster_spec hroster'
  constructor
  · rfl
  · rfl
  · intro v hv
    obtain ⟨vote, hvote, rfl⟩ := mem_map.mp hv
    exact (hmembers vote (mem_filter.mp hvote).1).1
  · exact hnodup.sublist ((filter_sublist).map _)
  · rw [length_map]
    exact Nat.not_lt.mp hquorum
  · exact UInt64.not_le.mp hepoch
  · intro t ht
    rw [ht] at hactive
    exact UInt64.not_le.mp (by simpa using hactive)
  · intro v hv hgranted
    have hmem : v.voterSafeLsn ∈ (request.votes.filter granted).map voterSafeLsn :=
      mem_map_of_mem (mem_filter.mpr ⟨hv, hgranted⟩)
    exact UInt64.le_trans (le_greatest hmem) (UInt64.not_lt.mp hstale)

theorem PromotionPlan.plan_eq_ok {snapshot : HadrMembershipSnapshot} {attempt : PromotionAttempt}
    {made : PromotionPlan} (hmembership : quorumMembershipFromSnapshot snapshot = .ok membership)
    (h : plan snapshot attempt = .ok made) : ∃ candidate proposedEpoch grantedVoters,
      (evaluatePromotion ⟨candidate, proposedEpoch, attempt.votes⟩ membership
        attempt.fencing).outcome = .approved made.token made.committedSafeLsn grantedVoters ∧
      made.marker.auditRecord.outcome =
        .approved made.token made.committedSafeLsn grantedVoters := by
  rw [plan, bind_eq_ok] at h
  obtain ⟨evidence, hcollect, h⟩ := h
  have hevidence : evidence.membership = membership := by
    simp only [PromotionQuorumEvidence.collect, ok_iff] at hcollect
    obtain ⟨member, -, -, -, m, hm, epoch, -, rfl⟩ := hcollect
    rw [hmembership] at hm
    cases hm
    rfl
  dsimp only at h
  cases houtcome : (evidence.evaluate attempt.votes attempt.fencing).outcome with
  | rejected reason =>
    rw [houtcome] at h
    cases h
  | approved token committedSafeLsn grantedVoters =>
    rw [houtcome] at h
    cases h
    refine ⟨evidence.candidate, evidence.proposedEpoch, grantedVoters, ?_, houtcome⟩
    rw [← hevidence]
    exact houtcome

theorem enforceFencingToken_eq_ok {presented active : HadrFencingToken} :
    enforceFencingToken presented fencing = .ok active ↔
      fencing.activeToken = some presented ∧ active = presented := by
  simp only [enforceFencingToken, ok_iff]
  constructor
  · rintro ⟨a, hactive, hstale, hmismatch, hfuture, rfl⟩
    have hepoch : presented.epoch = a.epoch :=
      UInt64.le_antisymm (UInt64.not_lt.mp hfuture) (UInt64.not_lt.mp hstale)
    have hprimary : presented.primaryId = a.primaryId := by
      by_contra hne
      exact hmismatch ⟨hepoch, hne⟩
    have heq : a = presented := by
      rw [HadrFencingToken.mk.injEq]
      exact ⟨hprimary.symm, hepoch.symm⟩
    rw [heq] at hactive ⊢
    exact ⟨hactive, rfl⟩
  · rintro ⟨hactive, rfl⟩
    refine ⟨active, hactive, UInt64.lt_irrefl _, ?_, UInt64.lt_irrefl _, rfl⟩
    rintro ⟨-, hne⟩
    exact hne rfl

/-! ## Sequences of promotions -/

abbrev DurableLsns := HadrNodeId → Lsn

def HadrQuorumMembership.HeldByMajority (m : HadrQuorumMembership) (durable : DurableLsns)
    (lsn : Lsn) : Prop :=
  m.members.length < 2 * (m.members.filter fun id => lsn ≤ durable id).length

structure PromotionApproval where
  durable : DurableLsns
  token : HadrFencingToken
  committedSafeLsn : Lsn
  grantedVoters : List HadrNodeId

/-- The fencing context, and the approvals so far with the latest in front. -/
structure FailoverRun where
  fencing : HadrFencingContext
  approvals : List PromotionApproval

/-- A promotion decision, directly by the engine or planned from a snapshot. -/
inductive PromotionCall where
  | evaluate (durable : DurableLsns) (request : HadrPromotionRequest)
  | plan (durable : DurableLsns) (snapshot : HadrMembershipSnapshot) (attempt : PromotionAttempt)

/-- The votes report what the voters hold, and a snapshot is one of the membership. -/
def PromotionCall.Truthful (membership : HadrQuorumMembership) : PromotionCall → Prop
  | .evaluate durable request => ∀ v ∈ request.votes, v.voterSafeLsn = durable v.voter
  | .plan durable snapshot attempt =>
    quorumMembershipFromSnapshot snapshot = .ok membership ∧
      ∀ v ∈ attempt.votes, v.voterSafeLsn = durable v.voter

namespace FailoverRun

def start (fencing : HadrFencingContext) : FailoverRun := ⟨fencing, []⟩

def record (run : FailoverRun) (durable : DurableLsns) : HadrPromotionOutcome → FailoverRun
  | .rejected _ => run
  | .approved token committedSafeLsn grantedVoters =>
    ⟨.withActive token token.epoch,
      ⟨durable, token, committedSafeLsn, grantedVoters⟩ :: run.approvals⟩

def call (membership : HadrQuorumMembership) (run : FailoverRun) : PromotionCall → FailoverRun
  | .evaluate durable request =>
    run.record durable (evaluatePromotion request membership run.fencing).outcome
  | .plan durable snapshot attempt =>
    match plan snapshot { attempt with fencing := run.fencing } with
    | .error _ => run
    | .ok plan => run.record durable plan.marker.auditRecord.outcome

def calls (membership : HadrQuorumMembership) (run : FailoverRun) (cs : List PromotionCall) :
    FailoverRun :=
  cs.foldl (call membership) run

def Admits (run : FailoverRun) (token : HadrFencingToken) : Prop :=
  ∃ active, enforceFencingToken token run.fencing = .ok active

/-- What the approvals of a run guarantee. -/
structure Safe (membership : HadrQuorumMembership) (run : FailoverRun) : Prop where
  nothingLost : ∀ a ∈ run.approvals, ∀ lsn, membership.HeldByMajority a.durable lsn →
    lsn ≤ a.committedSafeLsn
  epochs : run.approvals.Pairwise fun later earlier => earlier.token.epoch < later.token.epoch
  shared : ∀ a ∈ run.approvals, ∀ b ∈ run.approvals, ∃ v, v ∈ a.grantedVoters ∧ v ∈ b.grantedVoters
  onePrimary : ∀ a ∈ run.approvals, ∀ b ∈ run.approvals, run.Admits a.token → run.Admits b.token →
    a.token = b.token

/-- The invariant: each approval has a quorum behind it, kept what a majority held, and is
covered by the fencing context. -/
structure Sound (membership : HadrQuorumMembership) (run : FailoverRun) : Prop where
  quorums : ∀ a ∈ run.approvals, a.grantedVoters.Nodup ∧
    membership.quorumSize ≤ a.grantedVoters.length ∧ ∀ v ∈ a.grantedVoters, v ∈ membership.members
  nothingLost : ∀ a ∈ run.approvals, ∀ lsn, membership.HeldByMajority a.durable lsn →
    lsn ≤ a.committedSafeLsn
  epochs : run.approvals.Pairwise fun later earlier => earlier.token.epoch < later.token.epoch
  covered : ∀ a ∈ run.approvals, a.token.epoch ≤ run.fencing.highestObservedEpoch

end FailoverRun

namespace HadrQuorumMembership

variable {m : HadrQuorumMembership}

theorem exists_holder {voters : List HadrNodeId} (hnodup : voters.Nodup)
    (hquorum : m.quorumSize ≤ voters.length) (hmembers : ∀ v ∈ voters, v ∈ m.members)
    {durable : DurableLsns} {lsn : Lsn} (hheld : m.HeldByMajority durable lsn) :
    ∃ v ∈ voters, lsn ≤ durable v := by
  have hsize := m.quorumSize_eq
  unfold HeldByMajority at hheld
  obtain ⟨v, hv, hholder⟩ := m.exists_common hnodup
    (m.nodup.filter fun id => lsn ≤ durable id) hmembers
    (fun y hy => (mem_filter.mp hy).1) (by omega)
  exact ⟨v, hv, by simpa using (mem_filter.mp hholder).2⟩

end HadrQuorumMembership

namespace FailoverRun

variable {membership : HadrQuorumMembership} {run : FailoverRun} {durable : DurableLsns}

theorem Sound.start (membership : HadrQuorumMembership) (fencing : HadrFencingContext) :
    Sound membership (start fencing) :=
  ⟨by simp [FailoverRun.start], by simp [FailoverRun.start], by simp [FailoverRun.start],
    by simp [FailoverRun.start]⟩

theorem Sound.record (h : Sound membership run) {request : HadrPromotionRequest}
    (htruthful : ∀ v ∈ request.votes, v.voterSafeLsn = durable v.voter) : Sound membership
      (run.record durable (evaluatePromotion request membership run.fencing).outcome) := by
  cases houtcome : (evaluatePromotion request membership run.fencing).outcome with
  | rejected reason => exact h
  | approved token committedSafeLsn grantedVoters =>
    have hap := evaluatePromotion_approved houtcome
    constructor
    · rw [FailoverRun.record, forall_mem_cons]
      exact ⟨⟨hap.nodup, hap.quorum, hap.members⟩, h.quorums⟩
    · rw [FailoverRun.record, forall_mem_cons]
      refine ⟨fun lsn hheld => ?_, h.nothingLost⟩
      -- a granting voter is among those that hold the LSN
      obtain ⟨v, hv, hlsn⟩ :=
        membership.exists_holder hap.nodup hap.quorum hap.members hheld
      rw [hap.voters_eq] at hv
      obtain ⟨vote, hvote, rfl⟩ := mem_map.mp hv
      rw [mem_filter] at hvote
      have hsafe := hap.durable vote hvote.1 hvote.2
      rw [htruthful vote hvote.1] at hsafe
      exact UInt64.le_trans hlsn hsafe
    · rw [FailoverRun.record, pairwise_cons]
      refine ⟨fun a ha => ?_, h.epochs⟩
      exact UInt64.lt_of_le_of_lt (h.covered a ha) hap.highest
    · rw [FailoverRun.record, forall_mem_cons]
      refine ⟨UInt64.le_refl _, fun a ha => ?_⟩
      exact UInt64.le_trans (h.covered a ha) (UInt64.le_of_lt hap.highest)

theorem Sound.call (h : Sound membership run) {c : PromotionCall}
    (hc : c.Truthful membership) : Sound membership (run.call membership c) := by
  cases c with
  | evaluate durable request => exact h.record hc
  | plan durable snapshot attempt =>
    rw [FailoverRun.call]
    cases hplan : plan snapshot { attempt with fencing := run.fencing } with
    | error err => exact h
    | ok made =>
      obtain ⟨candidate, epoch, voters, houtcome, hmarker⟩ :=
        plan_eq_ok hc.1 hplan
      dsimp only
      rw [hmarker, ← houtcome]
      exact h.record hc.2

theorem Sound.calls (h : Sound membership run) {cs : List PromotionCall}
    (hcs : ∀ c ∈ cs, c.Truthful membership) : Sound membership (run.calls membership cs) := by
  apply foldlRecOn (motive := Sound membership) cs _ h
  intro run h c hc
  exact h.call (hcs c hc)

/-- Failover loses nothing that a majority holds and leaves one primary. -/
theorem calls_failover_safe (membership : HadrQuorumMembership) (fencing : HadrFencingContext)
    (cs : List PromotionCall) (hcs : ∀ c ∈ cs, c.Truthful membership) :
    Safe membership ((FailoverRun.start fencing).calls membership cs) := by
  have hsound := (Sound.start membership fencing).calls hcs
  refine ⟨hsound.nothingLost, hsound.epochs, ?_, ?_⟩
  · intro a ha b hb
    obtain ⟨hanodup, haquorum, hamembers⟩ := hsound.quorums a ha
    obtain ⟨hbnodup, hbquorum, hbmembers⟩ := hsound.quorums b hb
    have hsize := membership.quorumSize_eq
    exact membership.exists_common hanodup hbnodup hamembers hbmembers (by omega)
  · rintro a - b - ⟨activeA, hadmitsA⟩ ⟨activeB, hadmitsB⟩
    have hactiveA := (enforceFencingToken_eq_ok.mp hadmitsA).1
    have hactiveB := (enforceFencingToken_eq_ok.mp hadmitsB).1
    rw [hactiveA, Option.some.injEq] at hactiveB
    exact hactiveB

def threeNodes : HadrQuorumMembership := ⟨[1, 2, 3], 2, by decide, rfl⟩

/-- Node 1 is promoted by 1 and 2; then node 3, which went on to LSN 12, by 2 and 3. -/
def twoPromotions : List PromotionCall :=
  [.evaluate (fun _ => 10)
      ⟨⟨1, .replica, 0, 10, none⟩, 1, [.grant 1 0 10, .grant 2 0 10, .deny 3 0 10]⟩,
    .plan (fun _ => 12) ⟨1, [⟨1, .primary⟩, ⟨2, .replica⟩, ⟨3, .candidate⟩]⟩
      ⟨3, 0, 12, 12, [.grant 2 1 12, .grant 3 0 12], .empty⟩]

theorem calls_failover_safe_twoPromotions :
    Safe threeNodes ((FailoverRun.start .empty).calls threeNodes twoPromotions) ∧
      ((FailoverRun.start .empty).calls threeNodes twoPromotions).approvals.map
        PromotionApproval.token = [⟨3, 2⟩, ⟨1, 1⟩] := by
  refine ⟨calls_failover_safe threeNodes .empty twoPromotions ?_, by decide +kernel⟩
  rw [twoPromotions, forall_mem_cons, forall_mem_singleton]
  exact ⟨by simp [PromotionCall.Truthful, grant, deny], by rfl, by simp [grant]⟩

end FailoverRun

end Andromeda
