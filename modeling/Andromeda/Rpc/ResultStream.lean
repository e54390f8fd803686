import Andromeda.Basic
import Andromeda.Lib.Effect

/-!
# Result streams

`ResultStreamSequence` checks a result stream frame by frame: metadata, batches, completion, all in
one request context. The context is bound before the order is checked, so the first frame binds
it even if it is rejected for its place in the stream.
-/

namespace Andromeda.Rpc

open Fallible Effect

def protocolError (message : String) : Error := ⟨.protocol, message⟩

inductive FrameFamily where
  | sessionControl | contractControl | rpcCommand | rpcResultStream | diagnostic | telemetry

inductive StreamRole where
  | sessionControl | commandBidirectional | resultUnidirectional | diagnostic | telemetryDatagram

def StreamRole.permitsFamily : StreamRole → FrameFamily → Bool
  | .sessionControl, .sessionControl => true
  | .commandBidirectional, .contractControl => true
  | .commandBidirectional, .rpcCommand => true
  | .resultUnidirectional, .rpcResultStream => true
  | .diagnostic, .diagnostic => true
  | .telemetryDatagram, .telemetry => true
  | _, _ => false

inductive FrameType where
  | hello | auth | contractRequest | contractResponse | rpcExecuteRequest | rpcMetadata | rpcBatch
  | rpcCompletion | error | telemetrySoftSignal

namespace FrameType

def frameFamily : FrameType → FrameFamily
  | hello | auth => .sessionControl
  | contractRequest | contractResponse => .contractControl
  | rpcExecuteRequest => .rpcCommand
  | rpcMetadata | rpcBatch | rpcCompletion => .rpcResultStream
  | error => .diagnostic
  | telemetrySoftSignal => .telemetry

def requiresNonEmptyPayload : FrameType → Bool
  | rpcExecuteRequest | rpcBatch | error => true
  | _ => false

end FrameType

def maxFramePayloadLength : UInt64 := 16 * 1024 * 1024

def reservedFrameFlagsMask : UInt32 := 0xffffffff

abbrev RequestContext := UInt64 × UInt64 × Option TransactionId

structure FrameHeader where
  frameType : FrameType
  requestId : UInt64
  sessionId : UInt64
  txId : Option TransactionId
  payloadLength : UInt64
  flags : UInt32

structure FrameBytes where
  header : FrameHeader
  payload : Bytes

def FrameHeader.context (h : FrameHeader) : RequestContext := (h.requestId, h.sessionId, h.txId)

def FrameHeader.validateStaticFields (h : FrameHeader) : Result Unit := do
  failIf (h.flags &&& reservedFrameFlagsMask ≠ 0)
    (protocolError "frame header contains reserved flags")
  failIf (maxFramePayloadLength < h.payloadLength)
    (protocolError "frame payload length exceeds maximum")

def FrameBytes.validate (frame : FrameBytes) (streamRole : StreamRole) : Result Unit := do
  frame.header.validateStaticFields
  failIf (frame.header.payloadLength ≠ UInt64.ofNat frame.payload.length)
    (protocolError "frame payload length mismatch")
  failIf (!streamRole.permitsFamily frame.header.frameType.frameFamily)
    (protocolError "frame type is not allowed on this stream role")
  failIf (frame.header.frameType.requiresNonEmptyPayload ∧ frame.payload = [])
    (protocolError "frame type requires a non-empty payload")

inductive ResultStreamMetadataPolicy where
  | rowBatchRequired
  | zeroRowCompletionAllowed
  | mutationOnly
deriving DecidableEq

def ResultStreamMetadataPolicy.allowsCompletionWithoutBatch : ResultStreamMetadataPolicy → Bool
  | zeroRowCompletionAllowed | mutationOnly => true
  | rowBatchRequired => false

structure ResultStreamSequence where
  metadataPolicy : ResultStreamMetadataPolicy
  requestContext : Option RequestContext
  sawMetadata : Bool
  sawBatch : Bool
  completed : Bool
deriving DecidableEq

namespace ResultStreamSequence

def newWithMetadataPolicy (metadataPolicy : ResultStreamMetadataPolicy) : ResultStreamSequence :=
  ⟨metadataPolicy, none, false, false, false⟩

def new : ResultStreamSequence := newWithMetadataPolicy .rowBatchRequired

def validateContext (header : FrameHeader) : Effect ResultStreamSequence Error Unit := do
  let s ← get
  match s.requestContext with
  | some expected =>
    lift (failIf (expected ≠ header.context)
      (protocolError "result-stream sequence changed request context"))
  | none => modify fun s => { s with requestContext := some header.context }

def marked (s : ResultStreamSequence) : FrameType → Result ResultStreamSequence
  | .rpcMetadata => do
    failIf (s.sawMetadata || s.sawBatch || s.completed)
      (protocolError "RPC metadata must be the first result-stream frame")
    pure { s with sawMetadata := true }
  | .rpcBatch => do
    failIf (!s.sawMetadata) (protocolError "RPC metadata must precede RPC batch frames")
    failIf s.completed (protocolError "RPC batch must not follow completion")
    pure { s with sawBatch := true }
  | .rpcCompletion => do
    failIf (!s.sawMetadata) (protocolError "RPC completion requires prior metadata")
    failIf (!s.sawBatch && !s.metadataPolicy.allowsCompletionWithoutBatch)
      (protocolError "RPC completion without a batch requires explicit metadata policy")
    failIf s.completed (protocolError "RPC completion must appear once")
    pure { s with completed := true }
  | _ => .error (protocolError
      "result-stream sequence accepts only RPC metadata, batch, and completion")

def mark (frameType : FrameType) : Effect ResultStreamSequence Error Unit := do
  let s ← get
  let next ← lift (s.marked frameType)
  modify fun _ => next

def accept (frame : FrameBytes) : Effect ResultStreamSequence Error Unit := do
  lift (frame.validate .resultUnidirectional)
  validateContext frame.header
  mark frame.header.frameType

def verdicts : List FrameBytes → ResultStreamSequence → List Bool
  | [], _ => []
  | frame :: frames, s => succeeds (accept frame s).1 :: verdicts frames (accept frame s).2

/-- The frame leaves the state as it was, and so the later frames are judged as without it. -/
def Unnoticed (frame : FrameBytes) (s : ResultStreamSequence) : Prop :=
  (accept frame s).2 = s ∧
    ∀ later, verdicts later (accept frame s).2 = verdicts later s

variable {frame : FrameBytes} {s : ResultStreamSequence}

theorem mark_rejected {frameType : FrameType} (h : (mark frameType s).1 ≠ .ok ()) :
    (mark frameType s).2 = s := by
  rw [mark, get_bind] at h ⊢
  cases hnext : s.marked frameType with
  | error err => rw [lift_error_bind]
  | ok next =>
    rw [hnext] at h
    exact absurd rfl h

theorem unnoticed_of_same (hsame : (accept frame s).2 = s) : Unnoticed frame s :=
  ⟨hsame, fun later => by rw [hsame]⟩

/-- A rejected frame goes unnoticed exactly if a context was bound before, or the frame is not
even a valid frame of a result stream. -/
theorem rejected_unnoticed_iff (hrejected : (accept frame s).1 ≠ .ok ()) : Unnoticed frame s ↔
      s.requestContext ≠ none ∨ frame.validate .resultUnidirectional ≠ .ok () := by
  cases hvalid : frame.validate .resultUnidirectional with
  | error err =>
    have hsame : (accept frame s).2 = s := by rw [accept, hvalid, lift_error_bind]
    exact iff_of_true (unnoticed_of_same hsame) (.inr (by simp))
  | ok u =>
    rw [accept, hvalid, lift_ok_bind] at hrejected
    cases hcontext : s.requestContext with
    | none =>
      -- The context is bound, and the later failure does not unbind it.
      have hbound : validateContext frame.header s =
          (.ok (), { s with requestContext := some frame.header.context }) := by
        rw [validateContext, get_bind, hcontext]
        rfl
      rw [bind_of_ok hbound] at hrejected
      refine iff_of_false (fun hsame => ?_) (by simp)
      have hlast := hsame.1
      rw [accept, hvalid, lift_ok_bind, bind_of_ok hbound, mark_rejected hrejected] at hlast
      have hnone := congrArg requestContext hlast
      rw [hcontext] at hnone
      cases hnone
    | some expected =>
      refine iff_of_true (unnoticed_of_same ?_) (.inl (by simp))
      have hcheck : (validateContext frame.header s).2 = s := by
        rw [validateContext, get_bind, hcontext]
        rfl
      rw [accept, hvalid, lift_ok_bind]
      rcases hrun : validateContext frame.header s with ⟨_ | _, s₁⟩ <;> rw [hrun] at hcheck
      · rw [bind_of_error hrun]
        exact hcheck
      · obtain rfl : s₁ = s := hcheck
        rw [bind_of_ok hrun] at hrejected ⊢
        exact mark_rejected hrejected

/-- A batch in front of the metadata of its stream. -/
def earlyBatch : FrameBytes := ⟨⟨.rpcBatch, 1, 1, none, 1, 0⟩, [0]⟩

def otherMetadata : FrameBytes := ⟨⟨.rpcMetadata, 2, 1, none, 0, 0⟩, []⟩

theorem unnoticed_in_bound_stream :
    Unnoticed otherMetadata ⟨.rowBatchRequired, some (1, 1, none), true, false, false⟩ :=
  (rejected_unnoticed_iff (by decide)).mpr (.inl (by decide))

/-- The rejected batch keeps out the stream that follows it. -/
theorem early_batch_binds_context :
    (accept earlyBatch new).1 ≠ .ok () ∧ ¬ Unnoticed earlyBatch new ∧
      verdicts [otherMetadata] new = [true] ∧
      verdicts [earlyBatch, otherMetadata] new = [false, false] := by
  refine ⟨by decide, fun h => ?_, by decide, by decide⟩
  exact absurd h.1 (by decide)

/-! ## Whole streams -/

variable {t : ResultStreamSequence} {frames : List FrameBytes}

def isComplete (s : ResultStreamSequence) : Bool :=
  s.sawMetadata && s.completed && (s.sawBatch || s.metadataPolicy.allowsCompletionWithoutBatch)

def validateResultStreamSequenceWithMetadataPolicy (frames : List FrameBytes)
    (metadataPolicy : ResultStreamMetadataPolicy) : Result Unit := do
  let (accepted, sequence) := each accept frames (newWithMetadataPolicy metadataPolicy)
  accepted
  failIf (!sequence.isComplete) (protocolError "result-stream sequence is incomplete")

def FitsContext (context : RequestContext) (frame : FrameBytes) : Prop :=
  frame.validate .resultUnidirectional = .ok () ∧ frame.header.context = context

/-- Metadata, batches and completion: valid frames in one context. -/
def IsResultStream (metadataPolicy : ResultStreamMetadataPolicy) (frames : List FrameBytes) :
    Prop :=
  (∃ context, ∀ frame ∈ frames, FitsContext context frame) ∧
    ∃ batches, frames.map (fun frame => frame.header.frameType) =
        .rpcMetadata :: (List.replicate batches .rpcBatch ++ [.rpcCompletion]) ∧
      (batches ≠ 0 ∨ metadataPolicy.allowsCompletionWithoutBatch = true)

theorem accept_eq_ok : accept frame s = (.ok (), t) ↔
    FitsContext (s.requestContext.getD frame.header.context) frame ∧
      { s with requestContext := some frame.header.context }.marked frame.header.frameType =
        .ok t := by
  have hmark : ∀ u, mark frame.header.frameType u = (.ok (), t) ↔
      u.marked frame.header.frameType = .ok t := by
    intro u
    rw [mark, get_bind]
    cases u.marked frame.header.frameType <;> simp
  rw [accept, FitsContext]
  cases frame.validate .resultUnidirectional with
  | error err => simp
  | ok u =>
    rw [lift_ok_bind, Effect.bind_eq_ok]
    rcases s with ⟨policy, _ | context, metadata, batch, done⟩
    · simp [validateContext, hmark]
    · by_cases hcontext : frame.header.context = context
      · simp [validateContext, hmark, hcontext, failIf]
      · simp [validateContext, hcontext, failIf, Ne.symm hcontext]

theorem each_completed (h : s.completed = true) :
    each accept frames s = (.ok (), t) ↔ frames = [] ∧ s = t := by
  cases frames with
  | nil => simp
  | cons frame frames =>
    simp only [each_cons_eq_ok, accept_eq_ok]
    cases frame.header.frameType <;> simp only [marked, ok_iff] <;> simp [h]

variable {policy : ResultStreamMetadataPolicy} {context : RequestContext} {batch : Bool}

theorem tail_accepted_iff : (∃ t, each accept frames ⟨policy, some context, true, batch, false⟩ =
      (.ok (), t) ∧ t.isComplete = true) ↔
    (∀ frame ∈ frames, FitsContext context frame) ∧
      ∃ batches, frames.map (fun frame => frame.header.frameType) =
          List.replicate batches .rpcBatch ++ [.rpcCompletion] ∧
        (batch = true ∨ batches ≠ 0 ∨ policy.allowsCompletionWithoutBatch = true) := by
  induction frames generalizing batch with
  | nil => simp [isComplete]
  | cons frame frames ih =>
    rw [← Nat.or_exists_add_one, List.forall_mem_cons]
    simp only [each_cons_eq_ok, accept_eq_ok]
    cases htype : frame.header.frameType <;> simp only [marked, ok_iff] <;>
      simp [htype, List.replicate_succ]
    case rpcBatch =>
      constructor
      · rintro ⟨t, ⟨hfits, hrest⟩, hdone⟩
        rw [hfits.2] at hrest
        obtain ⟨hframes, batches, hbatches, -⟩ := ih.mp ⟨t, hrest, hdone⟩
        exact ⟨⟨hfits, hframes⟩, batches, hbatches⟩
      · rintro ⟨⟨hfits, hframes⟩, batches, hbatches⟩
        obtain ⟨t, hrest, hdone⟩ := ih.mpr ⟨hframes, batches, hbatches, .inl rfl⟩
        exact ⟨t, ⟨hfits, by rwa [hfits.2]⟩, hdone⟩
    case rpcCompletion =>
      constructor
      · rintro ⟨t, ⟨⟨hfits, -⟩, hrest⟩, hdone⟩
        obtain ⟨rfl, rfl⟩ := (each_completed rfl).mp hrest
        exact ⟨⟨hfits, by simp⟩, rfl, by simpa [isComplete] using hdone⟩
      · rintro ⟨⟨hfits, -⟩, rfl, hallowed⟩
        exact ⟨_, ⟨⟨hfits, fun hnone => by simpa [hnone] using hallowed⟩, rfl⟩,
          by simpa [isComplete] using hallowed⟩

/-- The validator accepts exactly the result streams. -/
theorem validates_iff_isResultStream (frames : List FrameBytes)
    (policy : ResultStreamMetadataPolicy) :
    validateResultStreamSequenceWithMetadataPolicy frames policy = .ok () ↔
      IsResultStream policy frames := by
  have hends : validateResultStreamSequenceWithMetadataPolicy frames policy = .ok () ↔
      ∃ t, each accept frames (newWithMetadataPolicy policy) = (.ok (), t) ∧
        t.isComplete = true := by
    rw [validateResultStreamSequenceWithMetadataPolicy]
    rcases each accept frames (newWithMetadataPolicy policy) with ⟨_ | _, t⟩ <;> simp [failIf_eq_ok]
  rw [hends, IsResultStream]
  cases frames with
  | nil => simp [newWithMetadataPolicy, isComplete]
  | cons frame frames =>
    simp only [each_cons_eq_ok, accept_eq_ok]
    cases htype : frame.header.frameType <;> simp only [marked, ok_iff] <;>
      simp [htype, newWithMetadataPolicy, -Prod.exists]
    constructor
    · rintro ⟨t, ⟨hfits, hrest⟩, hdone⟩
      obtain ⟨hframes, hbatches⟩ := tail_accepted_iff.mp ⟨t, hrest, hdone⟩
      exact ⟨⟨_, hfits, hframes⟩, by simpa using hbatches⟩
    · rintro ⟨⟨context, hfits, hframes⟩, batches, hbatches, hallowed⟩
      obtain rfl := hfits.2
      obtain ⟨t, hrest, hdone⟩ :=
        tail_accepted_iff.mpr ⟨hframes, batches, hbatches, .inr hallowed⟩
      exact ⟨t, ⟨hfits, hrest⟩, hdone⟩

end ResultStreamSequence

end Andromeda.Rpc
