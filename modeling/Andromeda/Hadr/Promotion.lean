import Andromeda.Basic
import Mathlib.Data.List.Chain
import Mathlib.Data.List.Sort

/-!
# Promotion decisions and fencing

The quorum membership, the votes for a candidate, the pure decision engine with its
ordered checks, the planner that gathers its inputs from a membership snapshot, and the
fencing check that a primary's token has to pass.
-/

namespace Andromeda

open Fallible List

abbrev HadrNodeId := UInt64

abbrev HadrEpoch := UInt64

def HadrEpoch.checkedNext (epoch : HadrEpoch) : Option HadrEpoch := checkedAdd epoch 1

inductive HadrNodeRole where
  | primary
  | replica
  | candidate
deriving DecidableEq

def HadrNodeRole.isPromotionEligibleRole : HadrNodeRole → Bool
  | replica | candidate => true
  | primary => false

structure HadrNodeState where
  id : HadrNodeId
  role : HadrNodeRole
  observedEpoch : HadrEpoch
  safeLsn : Lsn
  divergenceLsn : Option Lsn := none

structure HadrFencingToken where
  primaryId : HadrNodeId
  epoch : HadrEpoch
deriving DecidableEq

structure HadrFencingContext where
  activeToken : Option HadrFencingToken
  highestObservedEpoch : HadrEpoch

namespace HadrFencingContext

def empty : HadrFencingContext := ⟨none, 0⟩

def withActive (token : HadrFencingToken) (highestObservedEpoch : HadrEpoch) : HadrFencingContext :=
  ⟨some token, highestObservedEpoch⟩

end HadrFencingContext

inductive HadrFencingRejection where
  | staleEpoch
  | futureEpoch
  | primaryIdMismatch
  | noActiveToken

namespace HadrFencingRejection

def asStr : HadrFencingRejection → String
  | staleEpoch => "hadr fencing token epoch is below active epoch"
  | futureEpoch =>
    "hadr fencing token epoch exceeds active epoch; possible split-brain evidence"
  | primaryIdMismatch => "hadr fencing token primary id does not match active primary"
  | noActiveToken => "hadr cluster has no active fencing token"

def intoError (reason : HadrFencingRejection) : Error := storageError reason.asStr

end HadrFencingRejection

open HadrFencingRejection

def enforceFencingToken (presented : HadrFencingToken) (fencing : HadrFencingContext) :
    Result HadrFencingToken := do
  let active ← orError fencing.activeToken noActiveToken.intoError
  failIf (presented.epoch < active.epoch) staleEpoch.intoError
  failIf (presented.epoch = active.epoch ∧ presented.primaryId ≠ active.primaryId)
    primaryIdMismatch.intoError
  failIf (active.epoch < presented.epoch) futureEpoch.intoError
  pure active

/-- `HadrQuorumMembership` has private fields and one constructor, so its values satisfy
what that one checks. -/
structure HadrQuorumMembership where
  members : List HadrNodeId
  quorumSize : Nat
  nodup : members.Nodup
  quorumSize_eq : quorumSize = members.length / 2 + 1

/-- A sorted list without equal neighbours has no duplicates. -/
theorem nodup_of_sorted_chain {l : List UInt64} (hsorted : l.Pairwise (· ≤ ·))
    (hchain : l.IsChain (· ≠ ·)) : l.Nodup := by
  have htrans : Trans (α := UInt64) (· < ·) (· < ·) (· < ·) := ⟨UInt64.lt_trans⟩
  have hlt : l.IsChain (· < ·) := by
    rw [isChain_iff_getElem] at hchain ⊢
    intro i hi
    exact UInt64.lt_of_le_of_ne (hsorted.isChain.getElem i hi) (hchain i hi)
  exact (isChain_iff_pairwise.mp hlt).imp UInt64.ne_of_lt

namespace HadrQuorumMembership

def new (members : List HadrNodeId) : Result HadrQuorumMembership :=
  let sorted := members.insertionSort (· ≤ ·)
  if members.isEmpty then .error (storageError "HADR quorum membership must not be empty")
  else if hchain : sorted.IsChain (· ≠ ·) then
    if sorted.any (· == 0) then .error (storageError "HADR quorum member id must not be zero")
    else .ok
      { members
        quorumSize := members.length / 2 + 1
        nodup := (perm_insertionSort _ members).nodup_iff.mp
          (nodup_of_sorted_chain (pairwise_insertionSort _ members) hchain)
        quorumSize_eq := rfl }
  else .error (storageError "HADR quorum membership contains duplicate node ids")

def contains (m : HadrQuorumMembership) (id : HadrNodeId) : Bool := m.members.contains id

end HadrQuorumMembership

structure HadrPromotionVote where
  voter : HadrNodeId
  voterObservedEpoch : HadrEpoch
  voterSafeLsn : Lsn
  voterObservedDivergence : Option Lsn
  granted : Bool

namespace HadrPromotionVote

def grant (voter : HadrNodeId) (voterObservedEpoch : HadrEpoch) (voterSafeLsn : Lsn) :
    HadrPromotionVote :=
  ⟨voter, voterObservedEpoch, voterSafeLsn, none, true⟩

def deny (voter : HadrNodeId) (voterObservedEpoch : HadrEpoch) (voterSafeLsn : Lsn) :
    HadrPromotionVote :=
  ⟨voter, voterObservedEpoch, voterSafeLsn, none, false⟩

end HadrPromotionVote

open HadrPromotionVote

structure HadrPromotionRequest where
  candidate : HadrNodeState
  proposedEpoch : HadrEpoch
  votes : List HadrPromotionVote

inductive HadrPromotionRejection where
  | candidateRoleIneligible
  | candidateNotMember
  | staleCandidateLsn
  | divergentCandidate
  | insufficientQuorum
  | invalidVoteRoster
  | epochNotMonotonic
  | splitBrainActiveToken

def HadrPromotionRejection.asStr : HadrPromotionRejection → String
  | candidateRoleIneligible => "hadr promotion candidate role is not eligible"
  | candidateNotMember => "hadr promotion candidate is not a quorum member"
  | staleCandidateLsn => "hadr promotion candidate safe LSN is below a granting voter"
  | divergentCandidate =>
    "hadr promotion candidate has divergence evidence at or below its safe LSN"
  | insufficientQuorum => "hadr promotion granted votes are below quorum size"
  | invalidVoteRoster => "hadr promotion vote roster contains non-members or duplicates"
  | epochNotMonotonic =>
    "hadr promotion proposed epoch is not strictly greater than highest observed epoch"
  | splitBrainActiveToken =>
    "hadr promotion would conflict with an active fencing token (split-brain)"

inductive HadrPromotionOutcome where
  | approved (token : HadrFencingToken) (committedSafeLsn : Lsn) (grantedVoters : List HadrNodeId)
  | rejected (reason : HadrPromotionRejection)

structure HadrAuditRecord where
  candidate : HadrNodeId
  candidateRole : HadrNodeRole
  candidateSafeLsn : Lsn
  candidateDivergenceLsn : Option Lsn
  proposedEpoch : HadrEpoch
  members : List HadrNodeId
  quorumSize : Nat
  grantedVotes : Nat
  maxVoterSafeLsn : Lsn
  highestObservedEpoch : HadrEpoch
  activeToken : Option HadrFencingToken
  outcome : HadrPromotionOutcome

def greatest : List UInt64 → UInt64
  | [] => 0
  | x :: xs => if greatest xs ≤ x then x else greatest xs

/-- The roster loop: every voter is a member and votes once. -/
def HadrQuorumMembership.validRoster (m : HadrQuorumMembership) :
    List HadrPromotionVote → List HadrNodeId → Bool
  | [], _ => true
  | vote :: votes, seen =>
    if !m.contains vote.voter then false
    else if seen.contains vote.voter then false
    else m.validRoster votes (seen ++ [vote.voter])

/-- Divergence evidence at or below an LSN. -/
def divergesWithin (divergence : Option Lsn) (safeLsn : Lsn) : Bool :=
  divergence.any fun div => div ≤ safeLsn

def decidePromotion (request : HadrPromotionRequest) (membership : HadrQuorumMembership)
    (fencing : HadrFencingContext) (maxVoterSafeLsn : Lsn) (grantedVotes : Nat) :
    HadrPromotionOutcome :=
  let candidate := request.candidate
  if !candidate.role.isPromotionEligibleRole then .rejected .candidateRoleIneligible
  else if !membership.contains candidate.id then .rejected .candidateNotMember
  else if !membership.validRoster request.votes [] then .rejected .invalidVoteRoster
  else if request.proposedEpoch ≤ fencing.highestObservedEpoch then .rejected .epochNotMonotonic
  else if request.votes.any fun v => request.proposedEpoch ≤ v.voterObservedEpoch then
    .rejected .epochNotMonotonic
  else if fencing.activeToken.any fun token => request.proposedEpoch ≤ token.epoch then
    .rejected .splitBrainActiveToken
  else if grantedVotes < membership.quorumSize then .rejected .insufficientQuorum
  else if candidate.safeLsn < maxVoterSafeLsn then .rejected .staleCandidateLsn
  else if divergesWithin candidate.divergenceLsn candidate.safeLsn then
    .rejected .divergentCandidate
  else if request.votes.any fun v => divergesWithin v.voterObservedDivergence candidate.safeLsn then
    .rejected .divergentCandidate
  else
    .approved ⟨candidate.id, request.proposedEpoch⟩ candidate.safeLsn
      ((request.votes.filter granted).map voter)

def evaluatePromotion (request : HadrPromotionRequest) (membership : HadrQuorumMembership)
    (fencing : HadrFencingContext) : HadrAuditRecord :=
  let candidate := request.candidate
  let granted := request.votes.filter granted
  let maxVoterSafeLsn := greatest (granted.map voterSafeLsn)
  let grantedVotes := granted.length
  { candidate := candidate.id
    candidateRole := candidate.role
    candidateSafeLsn := candidate.safeLsn
    candidateDivergenceLsn := candidate.divergenceLsn
    proposedEpoch := request.proposedEpoch
    members := membership.members
    quorumSize := membership.quorumSize
    grantedVotes
    maxVoterSafeLsn
    highestObservedEpoch := fencing.highestObservedEpoch
    activeToken := fencing.activeToken
    outcome := decidePromotion request membership fencing maxVoterSafeLsn grantedVotes }

structure HadrMembershipNode where
  id : HadrNodeId
  role : HadrNodeRole

structure HadrMembershipSnapshot where
  epoch : HadrEpoch
  nodes : List HadrMembershipNode

section

variable (snapshot : HadrMembershipSnapshot)

def HadrMembershipSnapshot.get (id : HadrNodeId) : Option HadrMembershipNode :=
  snapshot.nodes.find? fun node => node.id = id

structure PromotionAttempt where
  candidateId : HadrNodeId
  candidateObservedEpoch : HadrEpoch
  candidateSafeLsn : Lsn
  primaryDurableLsn : Lsn
  votes : List HadrPromotionVote
  fencing : HadrFencingContext

structure PromotionQuorumEvidence where
  candidateId : HadrNodeId
  proposedEpoch : HadrEpoch
  primaryDurableLsn : Lsn
  candidate : HadrNodeState
  membership : HadrQuorumMembership

def quorumMembershipFromSnapshot : Result HadrQuorumMembership :=
  HadrQuorumMembership.new (snapshot.nodes.map HadrMembershipNode.id)

def proposedPromotionEpoch (attempt : PromotionAttempt) : Result HadrEpoch :=
  let highest := greatest (snapshot.epoch :: attempt.fencing.highestObservedEpoch ::
    attempt.candidateObservedEpoch :: attempt.votes.map voterObservedEpoch)
  orError (HadrEpoch.checkedNext highest) (storageError "HADR promotion epoch would overflow")

end

namespace PromotionQuorumEvidence

def collect (snapshot : HadrMembershipSnapshot) (attempt : PromotionAttempt) :
    Result PromotionQuorumEvidence := do
  let member ← orError (snapshot.get attempt.candidateId)
    (storageError "promotion candidate is not registered in membership store")
  failIf (!member.role.isPromotionEligibleRole)
    (storageError "promotion candidate membership role is not promotion eligible")
  failIf (attempt.candidateSafeLsn < attempt.primaryDurableLsn)
    (storageError "promotion candidate safe LSN is behind primary durable LSN")
  let membership ← quorumMembershipFromSnapshot snapshot
  let proposedEpoch ← proposedPromotionEpoch snapshot attempt
  pure
    { candidateId := attempt.candidateId
      proposedEpoch
      primaryDurableLsn := attempt.primaryDurableLsn
      candidate :=
        { id := attempt.candidateId
          role := member.role
          observedEpoch := attempt.candidateObservedEpoch
          safeLsn := attempt.candidateSafeLsn }
      membership }

def evaluate (evidence : PromotionQuorumEvidence) (votes : List HadrPromotionVote)
    (fencing : HadrFencingContext) : HadrAuditRecord :=
  evaluatePromotion ⟨evidence.candidate, evidence.proposedEpoch, votes⟩ evidence.membership fencing

end PromotionQuorumEvidence

structure HadrPromotionAuditMarker where
  candidateId : HadrNodeId
  proposedEpoch : HadrEpoch
  primaryDurableLsn : Lsn
  committedSafeLsn : Lsn
  token : HadrFencingToken
  auditRecord : HadrAuditRecord

structure PromotionPlan where
  candidateId : HadrNodeId
  proposedEpoch : HadrEpoch
  committedSafeLsn : Lsn
  token : HadrFencingToken
  marker : HadrPromotionAuditMarker

def PromotionPlan.plan (snapshot : HadrMembershipSnapshot) (attempt : PromotionAttempt) :
    Result PromotionPlan := do
  let evidence ← PromotionQuorumEvidence.collect snapshot attempt
  let auditRecord := evidence.evaluate attempt.votes attempt.fencing
  match auditRecord.outcome with
  | .rejected reason => .error (storageError reason.asStr)
  | .approved token committedSafeLsn _ =>
    pure
      { candidateId := evidence.candidateId
        proposedEpoch := evidence.proposedEpoch
        committedSafeLsn
        token
        marker :=
          { candidateId := evidence.candidateId
            proposedEpoch := evidence.proposedEpoch
            primaryDurableLsn := evidence.primaryDurableLsn
            committedSafeLsn
            token
            auditRecord } }

end Andromeda
