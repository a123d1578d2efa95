import Mathlib.Data.List.MinMax
import Raiko2.Server.TaskMetadata

/-!
# Loading the checkpoint of a pending proof

Several root tasks can wait for one engine task, and each keeps its own copy of the checkpoint of the remote
submission. Before a proof is requested, the copies are brought together: for each attempt there may be only one
checkpoint, and the last attempt is the one to resume.
-/

namespace Raiko2.Server

open Lib Raiko2.Engine Raiko2.Runtime

inductive NetworkProverBackend where
  | sp1
  deriving DecidableEq, Repr

def NetworkProverBackend.debug : NetworkProverBackend → String
  | sp1 => "Sp1"

inductive ProgressPersistenceError where
  | retryable (error : String)
  | permanent (error : String)
  deriving DecidableEq, Repr

/-- The attempt is a `NonZeroU32`; the payload is a raw JSON value. -/
structure PendingProofCheckpoint (Raw : Type) where
  backend : NetworkProverBackend
  attempt : { attempt : UInt32 // attempt ≠ 0 }
  submittedAtSecs : UInt64
  deadlineSecs : UInt64
  payload : Raw
  deriving DecidableEq

structure PayloadCodec (Raw : Type) where
  toRawValue : Sp1NetworkSubmissionProgress → Except String Raw
  fromRawValue : Raw → Except String Sp1NetworkSubmissionProgress

def PayloadCodec.RoundTrips {Raw : Type} (codec : PayloadCodec Raw) : Prop :=
  ∀ progress, ∃ raw, codec.toRawValue progress = .ok raw ∧ codec.fromRawValue raw = .ok progress

/-- `{error}` shows the outermost message. -/
def displayChain (chain : ErrorChain) : String := chain.headD ""

structure RuntimeEngineObserver where
  networkPair : String
  route : PipelineRoute

section Load

variable {Raw Proof : Type} (encoding : Encoding) (codec : PayloadCodec Raw)

def invalidCheckpoint (backend : NetworkProverBackend) (message : String) : String :=
  "invalid " ++ backend.debug ++ " checkpoint: " ++ message

def checkpointField {α : Type} (value : Option α) (message : String) : Except ProgressPersistenceError α :=
  match value with
  | some a => .ok a
  | none => .error (.permanent message)

/-- `NonZeroU32::new`. -/
def nonZeroAttempt (attempt : UInt32) : Except ProgressPersistenceError { attempt : UInt32 // attempt ≠ 0 } :=
  if h : attempt ≠ 0 then .ok ⟨attempt, h⟩
  else .error (.permanent "SP1 checkpoint request_attempt must be non-zero")

def buildPendingProofCheckpoint (runtime : TaskRuntimeMetadata) (backend : NetworkProverBackend) :
    Except ProgressPersistenceError (PendingProofCheckpoint Raw) := do
  let attempt ← checkpointField runtime.requestAttempt "SP1 checkpoint is missing request_attempt"
  let attempt ← nonZeroAttempt attempt
  let providerRequestId ← checkpointField runtime.providerRequestId "SP1 checkpoint is missing provider_request_id"
  let submittedAt ← checkpointField runtime.submittedAt "checkpoint is missing submitted_at"
  let networkMode ← checkpointField runtime.sp1NetworkMode "SP1 checkpoint is missing network_mode"
  let fulfillmentStrategy ← checkpointField runtime.sp1FulfillmentStrategy
    "SP1 checkpoint is missing fulfillment_strategy"
  let skipSimulation ← checkpointField runtime.sp1SkipSimulation "SP1 checkpoint is missing skip_simulation"
  let cycleLimit ← checkpointField runtime.sp1CycleLimit "SP1 checkpoint is missing cycle_limit"
  let timeoutSecs ← checkpointField runtime.sp1TimeoutSecs "SP1 checkpoint is missing timeout_secs"
  let resume : Sp1NetworkSubmissionProgress := {
    providerRequestId, submittedAt, networkMode, fulfillmentStrategy, skipSimulation, cycleLimit, timeoutSecs
    attempt := attempt.1
    maxPricePerPgu := runtime.sp1MaxPricePerPgu
    auctionTimeoutSecs := runtime.sp1AuctionTimeoutSecs }
  let deadlineSecs ← checkpointField runtime.expiresAt "checkpoint is missing expires_at"
  match codec.toRawValue resume with
  | .ok payload => return { backend, attempt, submittedAtSecs := submittedAt, deadlineSecs, payload }
  | .error message => .error (.permanent (invalidCheckpoint backend message))

def decodePayloadFor (checkpoint : PendingProofCheckpoint Raw) (expected : NetworkProverBackend) :
    Except String Sp1NetworkSubmissionProgress :=
  if checkpoint.backend ≠ expected then
    .error ("checkpoint backend " ++ checkpoint.backend.debug ++ " does not match adapter " ++ expected.debug)
  else
    match codec.fromRawValue checkpoint.payload with
    | .ok progress => .ok progress
    | .error message => .error (invalidCheckpoint checkpoint.backend message)

def preferCheckpointCandidate (selected : PendingProofCheckpoint Raw) (selectedUpdatedAt : Int64)
    (candidate : PendingProofCheckpoint Raw) (candidateUpdatedAt : Int64) : Except String Bool := do
  if selected.backend ≠ candidate.backend ∨ selected.attempt ≠ candidate.attempt ∨
      selected.submittedAtSecs ≠ candidate.submittedAtSecs ∨ selected.deadlineSecs ≠ candidate.deadlineSecs then
    throw "checkpoint identity differs"
  match selected.backend with
  | .sp1 =>
    let selectedResume ← decodePayloadFor codec selected .sp1
    let candidateResume ← decodePayloadFor codec candidate .sp1
    if selectedResume ≠ candidateResume then
      throw "SP1 submission identity differs"
    return candidateUpdatedAt > selectedUpdatedAt

def EngineTaskKey.pipelineKey : EngineTaskKey → PipelineKey
  | .proposal pipeline _ => pipeline
  | .aggregate pipeline _ => pipeline

def RuntimeEngineObserver.recordMatchesObserver (observer : RuntimeEngineObserver) (id : EngineTaskKey)
    (record : RuntimeTaskRecord) : Except ErrorChain Bool :=
  if record.pipelineKey ≠ EngineTaskKey.pipelineKey id then .ok false
  else if record.route ≠ observer.route then .ok false
  else if record.networkPair ≠ observer.networkPair then .ok false
  else do
    let metadata ← TaskMetadata.decodeForRecord encoding record
    return metadata.ownsEngineTask id

inductive CheckpointSource where
  | proveProposal
  | aggregate
  deriving DecidableEq, Repr

def checkpointSource (task : EngineTask Proof) : Option CheckpointSource :=
  match task.publicationSource with
  | .proveProposal _ _ => some .proveProposal
  | .aggregate _ _ => some .aggregate
  | _ => none

def CheckpointSource.runtime (source : CheckpointSource) (metadata : TaskMetadata) (taskId : String) :
    Option TaskRuntimeMetadata :=
  match source with
  | proveProposal => metadata.proposalRuntime taskId
  | aggregate => metadata.aggregateRuntime

structure CheckpointScan (Raw : Type) where
  hasActiveOwner : Bool := false
  matchedOwner : Bool := false
  checkpoints : Table UInt32 (Int64 × PendingProofCheckpoint Raw) := ∅

def CheckpointScan.meet (scan : CheckpointScan Raw) (record : RuntimeTaskRecord) : CheckpointScan Raw :=
  { scan with matchedOwner := true, hasActiveOwner := scan.hasActiveOwner || !record.runnerStatus.isTerminal }

def CheckpointScan.add (scan : CheckpointScan Raw) (taskId : String) (updatedAt : Int64)
    (checkpoint : PendingProofCheckpoint Raw) : Except ProgressPersistenceError (CheckpointScan Raw) :=
  let selected := { scan with checkpoints := scan.checkpoints.insert checkpoint.attempt.1 (updatedAt, checkpoint) }
  match scan.checkpoints.lookup checkpoint.attempt.1 with
  | none => .ok selected
  | some (selectedUpdatedAt, current) =>
    match preferCheckpointCandidate codec current selectedUpdatedAt checkpoint updatedAt with
    | .ok true => .ok selected
    | .ok false => .ok scan
    | .error reason => .error (.permanent ("conflicting provider checkpoints share attempt " ++
        toString checkpoint.attempt.1 ++ " for task " ++ taskId ++ ": " ++ reason))

def scanRecord (observer : RuntimeEngineObserver) (id : EngineTaskKey) (source : CheckpointSource)
    (backend : NetworkProverBackend) (scan : CheckpointScan Raw) (record : RuntimeTaskRecord) :
    Except ProgressPersistenceError (CheckpointScan Raw) :=
  let taskId := (rootTaskRef encoding id).name
  match observer.recordMatchesObserver encoding id record with
  | .error chain => .error (.permanent ("failed to validate runtime checkpoint owner: " ++ displayChain chain))
  | .ok false => .ok scan
  | .ok true =>
    let scan := scan.meet record
    match TaskMetadata.decodeForRecord encoding record with
    | .error chain => .error (.permanent ("runtime checkpoint metadata is invalid: " ++ displayChain chain))
    | .ok metadata =>
      match (source.runtime metadata taskId).filter (·.hasRemoteSubmissionProgress) with
      | none => .ok scan
      | some runtime => do
        let checkpoint ← buildPendingProofCheckpoint codec runtime backend
        scan.add codec taskId runtime.updatedAt checkpoint

def CheckpointScan.finish (scan : CheckpointScan Raw) (taskId : String) :
    Except ProgressPersistenceError (Option (PendingProofCheckpoint Raw)) :=
  if !scan.matchedOwner then .error (.permanent "runtime task record is missing while loading checkpoint")
  else if !scan.hasActiveOwner then
    .error (.permanent ("runtime task " ++ taskId ++ " has no active owner while loading checkpoint"))
  -- the last entry of a `BTreeMap` is the one with the greatest key
  else .ok ((scan.checkpoints.entries.argmax fun entry => entry.1.toNat).map fun entry => entry.2.2)

def loadPendingProofCheckpoint (observer : RuntimeEngineObserver) (id : EngineTaskKey) (task : EngineTask Proof)
    (backend : NetworkProverBackend) (records : List RuntimeTaskRecord) :
    Except ProgressPersistenceError (Option (PendingProofCheckpoint Raw)) :=
  match checkpointSource task with
  | none => .ok none
  | some source => do
    let scan ← records.foldlM (scanRecord encoding codec observer id source backend) {}
    scan.finish (rootTaskRef encoding id).name

end Load

section Checkpoints

variable {Raw : Type} (codec : PayloadCodec Raw) (backend : NetworkProverBackend)

structure IsCheckpointOf (progress : Sp1NetworkSubmissionProgress) (checkpoint : PendingProofCheckpoint Raw) :
    Prop where
  backend : checkpoint.backend = backend
  attempt : checkpoint.attempt.1 = progress.attempt
  submitted : checkpoint.submittedAtSecs = progress.submittedAt
  deadline : checkpoint.deadlineSecs = progress.submittedAt + progress.timeoutSecs
  payload : codec.toRawValue progress = .ok checkpoint.payload

variable {codec backend} {progress other : Sp1NetworkSubmissionProgress} {a b : PendingProofCheckpoint Raw}

theorem IsCheckpointOf.unique (ha : IsCheckpointOf codec backend progress a)
    (hb : IsCheckpointOf codec backend progress b) : a = b := by
  have hPayload : a.payload = b.payload := Except.ok.inj (ha.payload.symm.trans hb.payload)
  have hAttempt : a.attempt = b.attempt := Subtype.ext (ha.attempt.trans hb.attempt.symm)
  obtain ⟨backendA, attemptA, submittedA, deadlineA, payloadA⟩ := a
  obtain ⟨backendB, attemptB, submittedB, deadlineB, payloadB⟩ := b
  obtain rfl : backendA = backendB := ha.backend.trans hb.backend.symm
  obtain rfl : attemptA = attemptB := hAttempt
  obtain rfl : submittedA = submittedB := ha.submitted.trans hb.submitted.symm
  obtain rfl : deadlineA = deadlineB := ha.deadline.trans hb.deadline.symm
  obtain rfl : payloadA = payloadB := hPayload
  rfl

section Decoding

variable (hCodec : codec.RoundTrips)

include hCodec

theorem IsCheckpointOf.decodePayloadFor (h : IsCheckpointOf codec backend progress a) :
    decodePayloadFor codec a .sp1 = .ok progress := by
  obtain ⟨raw, hWrite, hRead⟩ := hCodec progress
  have hRaw : raw = a.payload := Except.ok.inj (hWrite.symm.trans h.payload)
  have hBackend : a.backend = .sp1 := by cases a.backend; rfl
  rw [Server.decodePayloadFor, hBackend, ← hRaw, hRead]
  rfl

theorem IsCheckpointOf.progress_unique (h : IsCheckpointOf codec backend progress a)
    (hOther : IsCheckpointOf codec backend other a) : progress = other :=
  Except.ok.inj ((h.decodePayloadFor hCodec).symm.trans (hOther.decodePayloadFor hCodec))

theorem buildPendingProofCheckpoint_checkpoint (h : Acceptable progress) (updatedAt : Int64) :
    ∃ checkpoint, buildPendingProofCheckpoint codec (.checkpoint progress updatedAt) backend = .ok checkpoint ∧
      IsCheckpointOf codec backend progress checkpoint := by
  obtain ⟨raw, hWrite, -⟩ := hCodec progress
  have hAttempt : progress.attempt ≠ 0 := by
    intro hZero
    exact absurd (hZero ▸ h.attempt) (UInt32.lt_irrefl 0)
  refine ⟨⟨backend, ⟨progress.attempt, hAttempt⟩, progress.submittedAt, _, raw⟩, ?_, rfl, rfl, rfl, rfl, hWrite⟩
  have hNonzero : nonZeroAttempt progress.attempt = .ok ⟨progress.attempt, hAttempt⟩ := dif_pos hAttempt
  simp only [buildPendingProofCheckpoint, TaskRuntimeMetadata.checkpoint, TaskRuntimeMetadata.candidate,
    checkpointField, hNonzero, bind, Except.bind, hWrite]
  rfl

theorem preferCheckpointCandidate_of_eq (ha : IsCheckpointOf codec backend progress a)
    (s t : Int64) : ∃ prefer, preferCheckpointCandidate codec a s a t = .ok prefer := by
  refine ⟨decide (t > s), ?_⟩
  have hBackend : a.backend = .sp1 := by cases a.backend; rfl
  rw [preferCheckpointCandidate, if_neg (by simp), hBackend, ha.decodePayloadFor hCodec]
  change (if progress ≠ progress then _ else _) = _
  rw [if_neg (not_not.mpr rfl)]
  rfl

theorem preferCheckpointCandidate_of_ne (ha : IsCheckpointOf codec backend progress a)
    (hb : IsCheckpointOf codec backend other b) (hNe : progress ≠ other) (s t : Int64) :
    ∃ reason, preferCheckpointCandidate codec a s b t = .error reason := by
  have hBackend : a.backend = .sp1 := by cases a.backend; rfl
  rw [preferCheckpointCandidate]
  split
  · exact ⟨_, rfl⟩
  · rw [hBackend, ha.decodePayloadFor hCodec, hb.decodePayloadFor hCodec]
    change ∃ reason, (if progress ≠ other then _ else _) = _
    rw [if_pos hNe]
    exact ⟨_, rfl⟩

end Decoding

end Checkpoints

end Raiko2.Server
