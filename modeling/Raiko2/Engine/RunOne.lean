import Raiko2.Engine.Tasks
import Raiko2.Lib.Process

/-!
# One turn of a worker

`run_one`, from the lease that `next_ready` has returned to its end, as a program: every call of the observer, the
queue, the pipeline and the prover is a request, and other workers take their turns between any two of them. Permits
have no content here. What the prover tells the observer while it proves is part of the request to the prover.
-/

namespace Raiko2.Engine

open Lib Queue

inductive LeaseInterruption where
  | cancelled
  | lost
  deriving DecidableEq, Repr

inductive Request (I Proof : Type) where
  | acquireTaskExecutionPermit (id : EngineTaskKey) (task : EngineTask Proof)
  | onTaskStarted (id : EngineTaskKey) (task : EngineTask Proof) (worker : String)
  | loadCompletedProof (id : EngineTaskKey) (task : EngineTask Proof)
  | loadProofArtifact (artifact : ProofArtifactRef)
  | checkpointCompletedProof (id : EngineTaskKey) (task : EngineTask Proof) (proof : Proof)
  | onTaskSucceeded (id : EngineTaskKey) (task : EngineTask Proof) (success : EngineTaskSuccess Proof)
  | acquireTerminalFailurePermit (id : EngineTaskKey) (task : EngineTask Proof)
  | onTaskFailed (id : EngineTaskKey) (task : EngineTask Proof) (error : String)
  | preflight (request : ProposalTaskRequest)
  | validate (request : ProposalTaskRequest) (input : I)
  | encode (request : ProposalTaskRequest) (input : I)
  | prove (request : ProposalTaskRequest) (encoded : EncodedGuestInput)
  | aggregate (request : AggregationTaskRequest) (proofs : List Proof)
  | getView (id : EngineTaskKey)
  | leaseInterruption (lease : EngineLease Proof)
  | renewLease (lease : EngineLease Proof)
  | checkpointPayload (lease : EngineLease Proof) (payload : EngineTask Proof) (policy : TaskExecutionPolicy)
  | complete (lease : EngineLease Proof) (result : Except String (EngineOutput I Proof))
  | detach (owner : RootOwner) (mode : DetachMode)

abbrev Request.Ans {I Proof : Type} : Request I Proof → Type
  | .acquireTaskExecutionPermit _ _ => Except EngineObserverError Unit
  | .onTaskStarted _ _ _ => Unit
  | .loadCompletedProof _ _ => Except String (Option Proof)
  | .loadProofArtifact _ => Except String (Option Proof)
  | .checkpointCompletedProof _ _ _ => Except EngineObserverError Unit
  | .onTaskSucceeded _ _ _ => Except EngineObserverError Unit
  | .acquireTerminalFailurePermit _ _ => Except EngineObserverError Unit
  | .onTaskFailed _ _ _ => Except EngineObserverError (List RootOwner)
  | .preflight _ => Except String (PipelineStageResult I)
  | .validate _ _ => Except String (PipelineStageResult I)
  | .encode _ _ => Except String EncodedGuestInput
  | .prove _ _ => Except String Proof
  | .aggregate _ _ => Except String Proof
  | .getView _ => Option (TaskState (EngineOutput I Proof) EngineTaskKey)
  | .leaseInterruption _ => Option LeaseInterruption
  | .renewLease _ => Bool
  | .checkpointPayload _ _ _ => Bool
  | .complete _ _ => TaskCompletionDisposition
  | .detach _ _ => Unit

abbrev Turn (I Proof α : Type) := Program (Request I Proof) Request.Ans α

abbrev Execution (I Proof α : Type) := ExceptT (TaskExecutionError Proof) (Program (Request I Proof) Request.Ans) α

variable {I Proof : Type}

def call (request : Request I Proof) : Turn I Proof request.Ans := Program.request request

/-- The answer of the pipeline, the prover or the observer, with its error text as an error of the execution. -/
def orRetryable {α : Type} (answer : Except String α) : Execution I Proof α :=
  ExceptT.mk (pure (answer.mapError .retryable))

section Executing

variable (observer : Bool) (id : EngineTaskKey) (worker : String)

def notifyStageStarted (task : EngineTask Proof) : Turn I Proof Unit :=
  if observer then call (.onTaskStarted id task worker) else pure ()

def notifyStageSucceeded (task : EngineTask Proof) (success : EngineTaskSuccess Proof) :
    Turn I Proof (Except EngineObserverError Unit) :=
  if observer then call (.onTaskSucceeded id task success) else pure (.ok ())

def stageSuccess : PipelineStage → Option (EngineTaskSuccess Proof)
  | .encode => some (.encodedInput .encode)
  | .preflight => some (.guestInput .preflight)
  | .validation => some (.guestInput .validation)
  | .prove | .aggregate => none

/-- `execute_proposal_stage`, and the stage that encodes the input, which is written out in the source. -/
def executeProposalStage {T : Type} (task : EngineTask Proof) (stage : PipelineStage)
    (execute : Turn I Proof (Except String T)) : Execution I Proof T := do
  ExceptT.lift (notifyStageStarted observer id worker task)
  match ← ExceptT.lift execute with
  | .error error => throw (.stage error task)
  | .ok output =>
    match stageSuccess stage with
    | none => throw (.retryable "proof stages require proof output")
    | some success =>
      match ← ExceptT.lift (notifyStageSucceeded observer id task success) with
      | .error error => throw (.ofObserver error)
      | .ok () => return output

def proveProposalEncoded (request : ProposalTaskRequest) (inputTask : EngineTaskKey) (encoded : EncodedGuestInput) :
    Execution I Proof (EngineOutput I Proof) := do
  let progressTask := .proveProposal request inputTask
  ExceptT.lift (notifyStageStarted observer id worker progressTask)
  match ← ExceptT.lift (call (.prove request encoded)) with
  | .error error => throw (.stage error progressTask)
  | .ok proof => return .proof ⟨.prove, proof⟩

def executeProposal (request : ProposalTaskRequest) : Execution I Proof (EngineOutput I Proof) := do
  let preflight ← executeProposalStage observer id worker (.preflight request) .preflight (call (.preflight request))
  let validated ← executeProposalStage observer id worker (.validate request id) .validation
    (call (.validate request preflight.output))
  let encoded ← executeProposalStage observer id worker (.encode request id) .encode
    (call (.encode request validated.output))
  proveProposalEncoded observer id worker request id encoded

/-- What `get_guest_input` and `get_encoded_input` share: the output of a task that has succeeded, if it is of the kind
that is read. -/
def outputOf {α : Type} (task : EngineTaskKey) (taskName : String) (read : EngineOutput I Proof → Except String α) :
    Execution I Proof α := do
  match ← ExceptT.lift (call (.getView task)) with
  | none => throw (.retryable s!"missing {taskName} task")
  | some (.succeeded output) => orRetryable (read output)
  | some _ => throw (.retryable s!"{taskName} task not completed")

def getGuestInput (task : EngineTaskKey) (expectedStage : PipelineStage) (taskName : String) : Execution I Proof I :=
  outputOf task taskName fun
    | .guestInput input =>
      if input.stage = expectedStage then .ok input.output
      else .error (match expectedStage with
        | .preflight => "preflight task did not produce preflight output"
        | .validation => "input task did not produce validated GuestInput"
        | _ => "input task did not produce expected stage output")
    | _ => .error s!"{taskName} task did not produce GuestInput"

def getEncodedInput (task : EngineTaskKey) : Execution I Proof EncodedGuestInput :=
  outputOf task "input" fun
    | .encodedInput input =>
      if input.stage = .encode then .ok input.output else .error "input task did not produce encoded GuestInput"
    | _ => .error "input task did not produce encoded input"

def getProofArtifact (artifact : ProofArtifactRef) : Execution I Proof Proof := do
  if observer then
    match ← orRetryable (← ExceptT.lift (call (.loadProofArtifact artifact))) with
    | none => throw (.retryable s!"proof artifact {artifact.proofRef} is missing")
    | some proof => return proof
  else throw (.retryable "proof artifact resolver is not configured")

def resolveAggregationSource : List AggregateProofInput → Execution I Proof (List Proof)
  | [] => return []
  | input :: inputs => do
    let proof ← getProofArtifact observer input.artifact
    return proof :: (← resolveAggregationSource inputs)

def publicationStage : EngineTaskKey → PipelineStage
  | .proposal _ _ => .prove
  | .aggregate _ _ => .aggregate

def execute : EngineTask Proof → Execution I Proof (EngineOutput I Proof)
  | .proposal request => executeProposal observer id worker request
  | .preflight request => do
    return .guestInput (← orRetryable (← ExceptT.lift (call (.preflight request))))
  | .validate request preflightTask => do
    let input ← getGuestInput preflightTask .preflight "preflight"
    return .guestInput (← orRetryable (← ExceptT.lift (call (.validate request input))))
  | .encode request inputTask => do
    let input ← getGuestInput inputTask .validation "input"
    return .encodedInput ⟨.encode, ← orRetryable (← ExceptT.lift (call (.encode request input)))⟩
  | .proveProposal request inputTask => do
    let encoded ← getEncodedInput inputTask
    return .proof ⟨.prove, ← orRetryable (← ExceptT.lift (call (.prove request encoded)))⟩
  | .aggregate request source => do
    let proofs ← resolveAggregationSource observer source
    return .proof ⟨.aggregate, ← orRetryable (← ExceptT.lift (call (.aggregate request proofs)))⟩
  | .publishProof _ proof => return .proof ⟨publicationStage id, proof⟩

end Executing

section Controls

def interruptionError : LeaseInterruption → TaskExecutionError Proof
  | .cancelled => .retryable taskCancelledError
  | .lost => .retryable taskLeaseLostError

/-- An execution next to a wait for the interruption of its lease. The wait can end the execution before any of its
requests and before its end; the answer to a request that was under way is then not looked at. -/
def interruptible {α : Type} (lease : EngineLease Proof) :
    Turn I Proof (Except (TaskExecutionError Proof) α) → Turn I Proof (Except (TaskExecutionError Proof) α)
  | .done result => .ask (.leaseInterruption lease) fun
    | none => .done result
    | some interruption => .done (.error (interruptionError interruption))
  | .ask request next => .ask (.leaseInterruption lease) fun
    | none => .ask request fun answer => interruptible lease (next answer)
    | some interruption => .done (.error (interruptionError interruption))

variable (observer : Bool)

def executeWithTaskControls (lease : EngineLease Proof) (payload : EngineTask Proof) :
    Turn I Proof (ExecutionResult I Proof) :=
  interruptible lease (execute observer lease.id lease.worker payload).run

def recoverCompletedOutput (id : EngineTaskKey) (task : EngineTask Proof) :
    Execution I Proof (Option (EngineOutput I Proof)) := do
  if observer then
    match ← orRetryable (← ExceptT.lift (call (.loadCompletedProof id task))) with
    | none => return none
    | some proof =>
      let stage := match task.publicationSource with
        | .aggregate _ _ => PipelineStage.aggregate
        | _ => PipelineStage.prove
      return some (.proof ⟨stage, proof⟩)
  else return none

def executeLeasedTask (lease : EngineLease Proof) (payload terminalObserverTask : EngineTask Proof)
    (permitError : Option EngineObserverError) : Turn I Proof (ExecutionResult I Proof × Bool) := do
  match permitError with
  | some error => return (.error (.ofObserver error), false)
  | none =>
    if observer && !payload.isPublishProof && !payload.publicationSource.isProposal then
      call (.onTaskStarted lease.id terminalObserverTask lease.worker)
    match ← (recoverCompletedOutput observer lease.id payload).run with
    | .ok (some output) => return (.ok output, true)
    | .ok none => return (← executeWithTaskControls observer lease payload, false)
    | .error error => return (.error error, false)

def acquireCurrentExecutionPermit (lease : EngineLease Proof) (payload : EngineTask Proof) :
    Turn I Proof (Option (Option EngineObserverError)) := do
  let permit ← if observer then call (.acquireTaskExecutionPermit lease.id payload) else pure (.ok ())
  if ← call (.renewLease lease) then
    match permit with
    | .ok () => return some none
    | .error error => return some (some error)
  else return none

end Controls

section Completing

variable (observer : Bool)

structure Checkpointed (I Proof : Type) where
  lease : EngineLease Proof
  terminalObserverTask : EngineTask Proof
  result : ExecutionResult I Proof

def checkpointCompletedProof (lease : EngineLease Proof) (payload terminalObserverTask : EngineTask Proof)
    (result : ExecutionResult I Proof) : Turn I Proof (Checkpointed I Proof) := do
  match result with
  | .ok (.proof proof) =>
    let terminalObserverTask := proofObserverTask lease.id payload
    let checkpointPayload := payload.withPendingPublication proof.output
    let checkpointPolicy := { lease.executionPolicy with retry := durabilityRetryPolicy }
    if ← call (.checkpointPayload lease checkpointPayload checkpointPolicy) then
      let lease := { lease with payload := checkpointPayload, executionPolicy := checkpointPolicy }
      if observer then
        match ← call (.checkpointCompletedProof lease.id terminalObserverTask proof.output) with
        | .ok () => return ⟨lease, terminalObserverTask, result⟩
        | .error (.proofInvalidated error) => return ⟨lease, terminalObserverTask, .error (.proofInvalidated error)⟩
        | .error error =>
          return ⟨lease, terminalObserverTask, .error (.proofPublication error.message proof.output)⟩
      else return ⟨lease, terminalObserverTask, result⟩
    else return ⟨lease, terminalObserverTask, .error (.retryable taskLeaseLostError)⟩
  | _ => return ⟨lease, terminalObserverTask, result⟩

def notifyExecutionSuccess (id : EngineTaskKey) (task : EngineTask Proof) (result : ExecutionResult I Proof) :
    Turn I Proof (ExecutionResult I Proof) := do
  match result with
  | .error _ => return result
  | .ok output =>
    let success := taskSuccessFromOutput output
    match ← notifyStageSucceeded observer id task success with
    | .ok () => return result
    | .error error =>
      match success, error with
      | .proof _ _, .proofInvalidated error => return .error (.proofInvalidated error)
      | .proof _ proof, error => return .error (.proofPublication error.message proof)
      | _, error => return .error (.ofObserver error)

def retryAfterTerminalObserverError (lease : EngineLease Proof) (executionError : String)
    (observerError : EngineObserverError) : Turn I Proof Unit := do
  let _ ← call (.complete (withRetry lease durabilityRetryPolicy)
    (.error s!"{executionError}; terminal runtime persistence failed: {observerError.message}"))

def detachTerminalFailureProjection : List RootOwner → Turn I Proof Unit
  | [] => pure ()
  | owner :: owners => do
    call (.detach owner .remove)
    detachTerminalFailureProjection owners

def completeTerminalFailure (lease : EngineLease Proof) (task : EngineTask Proof) (error : String) :
    Turn I Proof Unit := do
  if observer then
    match ← call (.acquireTerminalFailurePermit lease.id task) with
    | .error observerError => retryAfterTerminalObserverError lease error observerError
    | .ok () =>
      if ← call (.renewLease lease) then
        match ← call (.onTaskFailed lease.id task error) with
        | .error observerError => retryAfterTerminalObserverError lease error observerError
        | .ok owners =>
          let _ ← call (.complete lease (.error error))
          detachTerminalFailureProjection owners
  else
    let _ ← call (.complete lease (.error error))

def failTaskAfterLeaseLoss (lease : EngineLease Proof) (observerTask : EngineTask Proof) : Turn I Proof Unit :=
  completeTerminalFailure observer (withRetry lease .none) observerTask taskLeaseLostError

def completeTurn (lease : EngineLease Proof) (task : EngineTask Proof) (result : ExecutionResult I Proof) :
    Turn I Proof Unit := do
  match result with
  | .error error =>
    if lease.executionPolicy.failureIsTerminal lease.attempt then
      completeTerminalFailure observer lease task error.message
    else
      let _ ← call (.complete lease (.error error.message))
  | .ok output =>
    let _ ← call (.complete lease (.ok output))

def finishTurn (payload : EngineTask Proof) (recoveredOutput : Bool) (checkpointed : Checkpointed I Proof) :
    Turn I Proof Unit := do
  let ⟨lease, task, result⟩ := checkpointed
  if errorMessage result = some taskLeaseLostError then failTaskAfterLeaseLoss observer lease task
  else
    let result ←
      if shouldNotifyQueueTask payload result recoveredOutput then notifyExecutionSuccess observer lease.id task result
      else pure result
    completeTurn observer (applyExecutionFailurePolicy lease payload result) task result

def observerTaskOf (lease : EngineLease Proof) (result : ExecutionResult I Proof) : EngineTask Proof :=
  let task := if lease.payload.isPublishProof then proofObserverTask lease.id lease.payload else lease.payload
  match result with
  | .error error => error.observerTask.getD task
  | .ok _ => task

/-- `run_one` once it has a lease. -/
def runLeased (lease : EngineLease Proof) : Turn I Proof Unit := do
  let payload := lease.payload
  match ← acquireCurrentExecutionPermit observer lease payload with
  | none => pure ()
  | some permitError =>
    let startTask := if payload.isPublishProof then proofObserverTask lease.id payload else payload
    let (result, recoveredOutput) ← executeLeasedTask observer lease payload startTask permitError
    let checkpointed ← checkpointCompletedProof observer lease payload (observerTaskOf lease result) result
    finishTurn observer payload recoveredOutput checkpointed

end Completing

end Raiko2.Engine
