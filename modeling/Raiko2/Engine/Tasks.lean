import Raiko2.Protocol.Types
import Raiko2.Queue.Scheduler
import Raiko2.Runtime.Keys

/-!
# Tasks of the engine

What the engine puts into the queue, what comes out of it, and the errors and policies between the two. A proof and a
guest input are of any type: the engine only hands them on.
-/

namespace Raiko2.Engine

open Lib Queue Raiko2.Runtime

section Requests

inductive RecursionMode where
  | core
  | compressed
  | plonk
  deriving DecidableEq, Repr

inductive ProverMode where
  | mock
  | localProver
  | network
  deriving DecidableEq, Repr

inductive ExecutionMode where
  | prove
  | execute
  deriving DecidableEq, Repr

inductive Sp1NetworkMode where
  | reserved
  | mainnet
  deriving DecidableEq, Repr

inductive Sp1FulfillmentStrategy where
  | reserved
  | hosted
  | auction
  deriving DecidableEq, Repr

structure Sp1ConfigOverrides where
  recursion : Option RecursionMode := none
  prover : Option ProverMode := none
  mode : Option ExecutionMode := none
  verify : Option Bool := none
  networkMode : Option Sp1NetworkMode := none
  fulfillmentStrategy : Option Sp1FulfillmentStrategy := none
  skipSimulation : Option Bool := none
  cycleLimit : Option UInt64 := none
  timeoutSecs : Option UInt64 := none
  networkRequestMaxAttempts : Option UInt32 := none
  maxPricePerPgu : Option UInt64 := none
  auctionTimeoutSecs : Option UInt64 := none
  deriving DecidableEq, Repr

structure Sp1RemoteVerifyConfig where
  rpcUrl : String
  verifierAddress : String
  deriving DecidableEq, Repr

structure Sp1SystemConfig where
  remoteVerify : Option Sp1RemoteVerifyConfig := none
  deriving DecidableEq, Repr

structure ProverTaskConfig where
  sp1 : Option Sp1ConfigOverrides := none
  sp1System : Option Sp1SystemConfig := none
  deriving DecidableEq, Repr

structure L2BlockRange where
  start : UInt64
  stop : UInt64
  deriving DecidableEq, Repr

structure ShastaCheckpoint where
  blockNumber : UInt64
  blockHash : B256
  stateRoot : B256
  deriving DecidableEq, Repr

structure ProposalTaskRequest where
  proposalId : UInt64
  l2BlockRange : Option L2BlockRange := none
  l1InclusionBlockNumber : UInt64 := 0
  lastAnchorBlockNumber : UInt64 := 0
  checkpoint : Option ShastaCheckpoint := none
  blobProofType : Option String := none
  prover : Option String := none
  graffiti : Option String := none
  proverConfig : ProverTaskConfig := {}
  deriving DecidableEq, Repr

structure AggregationTaskRequest where
  requestId : String
  proposalIds : List UInt64
  proverConfig : ProverTaskConfig := {}
  deriving DecidableEq, Repr

inductive EngineTaskKey where
  | proposal (pipeline : PipelineKey) (request : ProposalTaskRequest)
  | aggregate (pipeline : PipelineKey) (request : AggregationTaskRequest)
  deriving DecidableEq, Repr

structure ProofArtifactRef where
  networkPair : String
  pipelineKey : PipelineKey
  route : PipelineRoute
  proofRef : String
  deriving DecidableEq, Repr

inductive AggregateProofInput where
  | proofArtifact (artifact : ProofArtifactRef)
  | pendingProofArtifact (artifact : ProofArtifactRef) (dependency : EngineTaskKey)
  deriving DecidableEq, Repr

def AggregateProofInput.artifact : AggregateProofInput → ProofArtifactRef
  | proofArtifact artifact => artifact
  | pendingProofArtifact artifact _ => artifact

/-- The first eight bytes of the order in which ready tasks run; the other eight are zero. -/
instance : ReadyQueueSort EngineTaskKey where
  readyQueueSortPrefix
    | .proposal _ request => beBytes 8 request.proposalId.toNat ++ List.replicate 8 0
    | .aggregate _ request =>
      beBytes 8 ((request.proposalIds.min?).getD U64.maxValue).toNat ++ List.replicate 8 0

end Requests

inductive EngineTask (Proof : Type) where
  | proposal (request : ProposalTaskRequest)
  | preflight (request : ProposalTaskRequest)
  | validate (request : ProposalTaskRequest) (preflightTask : EngineTaskKey)
  | encode (request : ProposalTaskRequest) (inputTask : EngineTaskKey)
  | proveProposal (request : ProposalTaskRequest) (inputTask : EngineTaskKey)
  | aggregate (request : AggregationTaskRequest) (source : List AggregateProofInput)
  | publishProof (task : EngineTask Proof) (proof : Proof)
  deriving DecidableEq, Repr

variable {I Proof : Type}

namespace EngineTask

def withPendingPublication : EngineTask Proof → Proof → EngineTask Proof
  | publishProof task _, proof => publishProof task proof
  | task, proof => publishProof task proof

def publicationSource : EngineTask Proof → EngineTask Proof
  | publishProof task _ => task.publicationSource
  | task => task

def isPublishProof : EngineTask Proof → Bool
  | publishProof _ _ => true
  | _ => false

def isProposal : EngineTask Proof → Bool
  | proposal _ => true
  | _ => false

end EngineTask

inductive PipelineStage where
  | preflight
  | validation
  | encode
  | prove
  | aggregate
  deriving DecidableEq, Repr

structure PipelineStageResult (T : Type) where
  stage : PipelineStage
  output : T
  deriving DecidableEq, Repr

abbrev EncodedGuestInput := List UInt8

inductive EngineOutput (I Proof : Type) where
  | guestInput (result : PipelineStageResult I)
  | encodedInput (result : PipelineStageResult EncodedGuestInput)
  | proof (result : PipelineStageResult Proof)
  deriving DecidableEq, Repr

inductive EngineTaskSuccess (Proof : Type) where
  | guestInput (stage : PipelineStage)
  | encodedInput (stage : PipelineStage)
  | proof (stage : PipelineStage) (proof : Proof)
  deriving DecidableEq, Repr

def taskSuccessFromOutput : EngineOutput I Proof → EngineTaskSuccess Proof
  | .guestInput input => .guestInput input.stage
  | .encodedInput input => .encodedInput input.stage
  | .proof result => .proof result.stage result.output

inductive EngineObserverError where
  | runtimeSync (error : String)
  | runtimeInactive (error : String)
  | progressRejected (error : String)
  | proofPublication (error : String)
  | proofInvalidated (error : String)
  deriving DecidableEq, Repr

def EngineObserverError.message : EngineObserverError → String
  | runtimeSync error => error
  | runtimeInactive error => error
  | progressRejected error => error
  | proofPublication error => error
  | proofInvalidated error => error

inductive TaskExecutionError (Proof : Type) where
  | retryable (error : String)
  | coordination (error : String)
  | stage (error : String) (observerTask : EngineTask Proof)
  | proofPublication (error : String) (proof : Proof)
  | proofInvalidated (error : String)
  deriving DecidableEq, Repr

namespace TaskExecutionError

def message : TaskExecutionError Proof → String
  | retryable error => error
  | coordination error => error
  | stage error _ => error
  | proofPublication error _ => error
  | proofInvalidated error => error

def observerTask : TaskExecutionError Proof → Option (EngineTask Proof)
  | stage _ task => some task
  | _ => none

def isStage : TaskExecutionError Proof → Bool
  | stage _ _ => true
  | _ => false

/-- `From<EngineObserverError>`. -/
def ofObserver : EngineObserverError → TaskExecutionError Proof
  | .runtimeSync error => coordination error
  | .runtimeInactive error => coordination error
  | .progressRejected error => coordination error
  | .proofPublication error => coordination error
  | .proofInvalidated error => proofInvalidated error

end TaskExecutionError

def taskCancelledError : String := "task cancelled"

def taskLeaseLostError : String := "task lease lost before completion"

section Policies

/-- One second, doubled up to five minutes, as often as attempts can be counted. -/
def durabilityRetryPolicy : RetryPolicy := .exponential 4294967295 1000000000 300000000000

abbrev EngineLease (Proof : Type) := TaskLease (EngineTask Proof) EngineTaskKey

def withRetry (lease : EngineLease Proof) (retry : RetryPolicy) : EngineLease Proof :=
  { lease with executionPolicy := { lease.executionPolicy with retry } }

abbrev ExecutionResult (I Proof : Type) := Except (TaskExecutionError Proof) (EngineOutput I Proof)

def applyExecutionFailurePolicy (lease : EngineLease Proof) (payload : EngineTask Proof) :
    ExecutionResult I Proof → EngineLease Proof
  | .error (.proofPublication _ proof) =>
    withRetry { lease with payload := payload.withPendingPublication proof } durabilityRetryPolicy
  | .error (.coordination _) => withRetry lease durabilityRetryPolicy
  | .error (.proofInvalidated _) => withRetry lease .none
  | _ => lease

def errorMessage : ExecutionResult I Proof → Option String
  | .error error => some error.message
  | .ok _ => none

def isStageError : ExecutionResult I Proof → Bool
  | .error error => error.isStage
  | .ok _ => false

def isProofOutput : ExecutionResult I Proof → Bool
  | .ok (.proof _) => true
  | _ => false

def shouldNotifyQueueTask (payload : EngineTask Proof) (result : ExecutionResult I Proof) (recoveredOutput : Bool) :
    Bool :=
  recoveredOutput || !payload.publicationSource.isProposal || isStageError result || isProofOutput result ||
    errorMessage result == some taskCancelledError || errorMessage result == some taskLeaseLostError

def proofObserverTask (id : EngineTaskKey) (task : EngineTask Proof) : EngineTask Proof :=
  match id with
  | .proposal _ request => .proveProposal request id
  | .aggregate _ _ => task.publicationSource

end Policies

end Raiko2.Engine
