import Raiko2.Runtime.Operations
import Raiko2.Server.PendingCheckpoint

/-!
# What the observer writes into root tasks

The engine reports starts, progress, results and failures of its tasks, and the observer writes them into the records
of all root tasks that refer to the engine task. Every such write is an update of records that runs inside one mutation
of the runtime state.
-/

namespace Raiko2.Server

open Lib Raiko2.Engine Raiko2.Runtime

namespace TaskMetadata

def upsertProposalSp1NetworkRuntime (metadata : TaskMetadata) (taskId : String)
    (progress : Sp1NetworkSubmissionProgress) (updatedAt : Int64) : Except SubmissionError TaskMetadata :=
  let current := (metadata.runtime.proposals.lookup taskId).getD {}
  match current.mergeSp1NetworkSubmission progress updatedAt with
  | (.error error, _) => .error error
  | (.ok _, merged) =>
    .ok { metadata with runtime := { metadata.runtime with proposals := metadata.runtime.proposals.insert taskId merged } }

def upsertAggregateSp1NetworkRuntime (metadata : TaskMetadata) (progress : Sp1NetworkSubmissionProgress)
    (updatedAt : Int64) : Except SubmissionError TaskMetadata :=
  match (metadata.runtime.aggregate.getD {}).mergeSp1NetworkSubmission progress updatedAt with
  | (.error error, _) => .error error
  | (.ok _, merged) => .ok { metadata with runtime := { metadata.runtime with aggregate := some merged } }

def markStageStarted (metadata : TaskMetadata) (taskId stage : String) (startedAtMs : Int64) : TaskMetadata :=
  { metadata with runtime := { metadata.runtime with
      stageTimings := metadata.runtime.stageTimings.insert taskId ⟨stage, startedAtMs, none, none⟩ } }

def markStageTerminal (metadata : TaskMetadata) (taskId stage : String) (finishedAtMs : Int64) (status : String) :
    TaskMetadata :=
  let startedAtMs := ((metadata.runtime.stageTimings.lookup taskId).map (·.startedAtMs)).getD finishedAtMs
  { metadata with runtime := { metadata.runtime with
      stageTimings := metadata.runtime.stageTimings.insert taskId ⟨stage, startedAtMs, some finishedAtMs, some status⟩ } }

def withEvent (metadata : TaskMetadata) (activeStage : Option String) (lastEvent : String) : TaskMetadata :=
  { metadata with runtime := { metadata.runtime with activeStage, lastEvent := some lastEvent } }

def withProofArtifact (metadata : TaskMetadata) (proofArtifact : Option ProofArtifactDescriptor) : TaskMetadata :=
  { metadata with runtime := { metadata.runtime with proofArtifact } }

end TaskMetadata

section Names

variable {Proof : Type} (encoding : Encoding)

def observedStageName (task : EngineTask Proof) : String :=
  match task.publicationSource with
  | .proposal _ => "proposal"
  | .preflight _ => "preflight"
  | .validate _ _ => "validation"
  | .encode _ _ => "encode"
  | .proveProposal _ _ => "prove"
  | .aggregate _ _ => "aggregate"
  | .publishProof _ _ => ""

def proposalStageFromTask (task : EngineTask Proof) : Option ProposalStage :=
  match task.publicationSource with
  | .preflight _ => some .preflight
  | .validate _ _ => some .validation
  | .encode _ _ => some .encode
  | .proveProposal _ _ => some .prove
  | .proposal _ | .aggregate _ _ | .publishProof _ _ => none

def timingKeyForStage (id : EngineTaskKey) (stage : ProposalStage) : String :=
  (stageTaskRefForStage encoding id stage).name

def timingKeyForRoot (id : EngineTaskKey) : String :=
  match id with
  | .proposal _ _ => timingKeyForStage encoding id .prove
  | .aggregate pipeline request => (aggregateTaskRef encoding pipeline request).name

def timingKeyForStageName (id : EngineTaskKey) : String → String
  | "preflight" => timingKeyForStage encoding id .preflight
  | "validation" => timingKeyForStage encoding id .validation
  | "encode" => timingKeyForStage encoding id .encode
  | "prove" => timingKeyForStage encoding id .prove
  | _ => timingKeyForRoot encoding id

def timingKeyForTask (id : EngineTaskKey) (task : EngineTask Proof) : String :=
  match proposalStageFromTask task with
  | none => timingKeyForRoot encoding id
  | some stage => timingKeyForStage encoding id stage

def stageNameFromPipelineStage : PipelineStage → String
  | .preflight => "preflight"
  | .validation => "validation"
  | .encode => "encode"
  | .prove => "prove"
  | .aggregate => "aggregate"

end Names

section Updates

variable {Proof : Type} (encoding : Encoding) (observer : RuntimeEngineObserver)

def updateTaskMetadata (record : RuntimeTaskRecord) (mutator : TaskMetadata → Except ErrorChain TaskMetadata) :
    Except ErrorChain RuntimeTaskRecord := do
  let metadata ← TaskMetadata.decodeForRecord encoding record
  let metadata ← mutator metadata
  metadata.validateRuntimeProgress record.route
  return { record with metadata := encoding.render metadata }

inductive TerminalRootPolicy where
  | exclude
  | includeCompleted
  | includeAll
  deriving DecidableEq, Repr

def TerminalRootPolicy.admits : TerminalRootPolicy → RunnerStatus → Bool
  | includeCompleted, .completed => true
  | includeAll, _ => true
  | _, _ => false

/-- A change of one record; the flag says whether it counts as an update. -/
abbrev RecordMutator := Int64 → RuntimeTaskRecord → Except ErrorChain (Bool × RuntimeTaskRecord)

/-- A record that the observer does not own is an error only for those who hold a checkpoint permit. -/
def matchesForUpdate (checkpoint : Bool) (id : EngineTaskKey) (record : RuntimeTaskRecord) : Except ErrorChain Bool :=
  match observer.recordMatchesObserver encoding id record with
  | .ok matched => .ok matched
  | .error error =>
    if checkpoint then .error ["provider checkpoint owner metadata is invalid: " ++ displayChain error] else .error error

def updateRootRecord (id : EngineTaskKey) (policy : TerminalRootPolicy) (mutator : RecordMutator)
    (owners : Option (List Incarnation)) (checkpoint : Bool) (now : Int64) (record : RuntimeTaskRecord) :
    Except ErrorChain (Bool × RuntimeTaskRecord) :=
  if owners.any (fun owners => !owners.contains record.incarnationId) ||
      (record.runnerStatus.isTerminal && !policy.admits record.runnerStatus) then .ok (false, record)
  else do
    match ← matchesForUpdate encoding observer checkpoint id record with
    | false => return (false, record)
    | true =>
      match ← mutator now record with
      | (false, record) => return (false, record)
      | (true, record) => return (true, { record with updatedAt := now })

/-- `update_root_records_with_policy_filter_count_mode`. The output is the number of updates. -/
def updateRootRecords (id : EngineTaskKey) (policy : TerminalRootPolicy) (mutator : RecordMutator)
    (owners : Option (List Incarnation)) (checkpoint : Bool) : RecordsUpdate Nat := fun now records =>
  if records.isEmpty then
    .error ["runtime task not registered for task ref " ++ (rootTaskRef encoding id).name]
  else do
    let results ← records.mapM (updateRootRecord encoding observer id policy mutator owners checkpoint now)
    return (results.map Prod.snd, (results.filter Prod.fst).length)

/-- `on_task_started`. -/
def startedMutator (id : EngineTaskKey) (task : EngineTask Proof) (worker : String) (observedAtMs : Int64) :
    RecordMutator := fun now record => do
  let stage := observedStageName task
  let record := { record with runnerStatus := .allocated, error := none }
  let record ← updateTaskMetadata encoding record fun metadata =>
    .ok ((metadata.markStageStarted (timingKeyForTask encoding id task) stage observedAtMs).withEvent (some stage)
      ("started:" ++ worker))
  return (true, { record with updatedAt := now })

def SubmissionError.toChain : SubmissionError → ErrorChain
  | conflict message => ["remote submission checkpoint conflict: " ++ message]
  | other chain => chain

def mergeProgress (id : EngineTaskKey) (task : EngineTask Proof) (progress : Sp1NetworkSubmissionProgress)
    (now : Int64) (metadata : TaskMetadata) : Except ErrorChain TaskMetadata :=
  match task.publicationSource with
  | .proveProposal _ _ =>
    (metadata.upsertProposalSp1NetworkRuntime (rootTaskRef encoding id).name progress now).mapError
      SubmissionError.toChain
  | .aggregate _ _ => (metadata.upsertAggregateSp1NetworkRuntime progress now).mapError SubmissionError.toChain
  | _ => .error ["internal error: entered unreachable code"]

/-- `on_task_progress`. -/
def progressMutator (id : EngineTaskKey) (task : EngineTask Proof) (progress : Sp1NetworkSubmissionProgress) :
    RecordMutator := fun now record => do
  let stage := observedStageName task
  let record ← (updateTaskMetadata encoding record fun metadata => do
    let metadata ← mergeProgress encoding id task progress now metadata
    return metadata.withEvent (some stage) "submission_registered").mapError fun error =>
      ["provider progress is not a canonical runtime checkpoint: " ++ displayChain error]
  return (true, { record with runnerStatus := .allocated, error := none })

/-- `on_task_succeeded`, for the stages before the proof. -/
def stageSucceededMutator (id : EngineTaskKey) (task : EngineTask Proof) (stage : PipelineStage)
    (observedAtMs : Int64) : RecordMutator := fun now record => do
  let record := { record with runnerStatus := .allocated, error := none }
  let record ← updateTaskMetadata encoding record fun metadata =>
    .ok ((metadata.markStageTerminal (timingKeyForTask encoding id task) (observedStageName task) observedAtMs
      "completed").withEvent (some (stageNameFromPipelineStage stage)) "stage_completed")
  return (true, { record with updatedAt := now })

/-- `on_task_failed`. -/
def failedMutator (id : EngineTaskKey) (task : EngineTask Proof) (error : String) (observedAtMs : Int64) :
    RecordMutator := fun now record => do
  let stage := observedStageName task
  let record := { record with runnerStatus := .failed, error := some error }
  let record ← updateTaskMetadata encoding record fun metadata =>
    .ok ((metadata.markStageTerminal (timingKeyForTask encoding id task) stage observedAtMs "failed").withEvent
      (some stage) "failed")
  return (true, { record with updatedAt := now })

/-- `mark_proof_publication_failed`, when the publication may be tried again. -/
def publicationFailedMutator (id : EngineTaskKey) (stage message : String) (owners : List Incarnation)
    (observedAtMs : Int64) : RecordMutator := fun now record =>
  if !owners.contains record.incarnationId then .ok (false, record)
  else do
    let record := { record with runnerStatus := .allocated, proofUri := none, error := some message }
    let record ← updateTaskMetadata encoding record fun metadata =>
      .ok (((metadata.markStageTerminal (timingKeyForStageName encoding id stage) stage observedAtMs "failed").withEvent
        (some stage) "failed").withProofArtifact none)
    return (true, { record with updatedAt := now })

structure PublishedProofCommit where
  proofUri : String
  synchronizedRoots : List TaskRef
  descriptor : ProofArtifactDescriptor

inductive InvalidationVote where
  | none
  | cancelled
  | preserves
  deriving DecidableEq, Repr

def skipsPublication (id : EngineTaskKey) (owners : List Incarnation) (record : RuntimeTaskRecord) :
    Except ErrorChain Bool :=
  if !owners.contains record.incarnationId then .ok true
  else do
    match ← observer.recordMatchesObserver encoding id record with
    | false => return true
    | true => return record.runnerStatus.isTerminal && record.runnerStatus ≠ .completed

/-- A completed root keeps its artifact unless this publication completed it. -/
def invalidateRecord (id : EngineTaskKey) (stage message : String) (publication : Option PublishedProofCommit)
    (owners : List Incarnation) (observedAtMs now : Int64) (record : RuntimeTaskRecord) :
    Except ErrorChain (InvalidationVote × RuntimeTaskRecord) := do
  match ← skipsPublication encoding observer id owners record with
  | true => return (.none, record)
  | false =>
    if record.runnerStatus = .completed ∧
        publication.all (fun publication => !publication.synchronizedRoots.contains record.taskId) = true then
      return (.preserves, record)
    else
      let record := { record with runnerStatus := .cancelled, proofUri := none, error := some message }
      let record ← updateTaskMetadata encoding record fun metadata =>
        .ok (((metadata.markStageTerminal (timingKeyForStageName encoding id stage) stage observedAtMs
          "cancelled").withEvent none "cancelled").withProofArtifact none)
      return (.cancelled, { record with updatedAt := now })

/-- `invalidate_failed_publication`. -/
def invalidatePublication (id : EngineTaskKey) (stage message : String) (publication : Option PublishedProofCommit)
    (owners : List Incarnation) (observedAtMs : Int64) : RecordsUpdate (Bool × Bool) := fun now records => do
  let results ← records.mapM (invalidateRecord encoding observer id stage message publication owners observedAtMs now)
  let votes := results.map Prod.fst
  let invalidate := votes.any (· ≠ .none) && !votes.contains .preserves
  return (results.map Prod.snd, invalidate, invalidate)

def rootCompletedByProofSuccess (id : EngineTaskKey) (metadata : TaskMetadata) (pipeline : PipelineKey) : Bool :=
  match id with
  | .aggregate _ _ => true
  | .proposal _ _ =>
    if !metadata.aggregateRequested && metadata.aggregateTaskId.isNone then
      !metadata.proposals.isEmpty && metadata.proposals.all fun proposal =>
        let taskRef := timingKeyForStage encoding (.proposal pipeline proposal.request) .prove
        (metadata.runtime.stageTimings.lookup taskRef).bind (·.terminalStatus) = some "completed"
    else false

/-- Whether the proof became the root's proof, was so already, or is only one of its inputs. -/
inductive SyncVote where
  | none
  | synchronized
  | updated
  deriving DecidableEq, Repr

def syncRecord (id : EngineTaskKey) (task : EngineTask Proof) (stage : String) (publication : PublishedProofCommit)
    (owners : List Incarnation) (observedAtMs now : Int64) (record : RuntimeTaskRecord) :
    Except ErrorChain (SyncVote × RuntimeTaskRecord) := do
  match ← skipsPublication encoding observer id owners record with
  | true => return (.none, record)
  | false =>
    let record := { record with error := none }
    let decoded ← TaskMetadata.decodeForRecord encoding record
    let metadata := decoded.markStageTerminal (timingKeyForTask encoding id task) stage observedAtMs "completed"
    let rootCompleted := rootCompletedByProofSuccess encoding id metadata record.pipelineKey
    let event := if rootCompleted then "completed" else "stage_completed"
    let written := encoding.render ((metadata.withEvent (some stage) event).withProofArtifact
      (if rootCompleted then some publication.descriptor else none))
    if record.runnerStatus = .completed ∧ rootCompleted = false then return (.none, record)
    else if record.runnerStatus = .completed ∧ record.proofUri = some publication.proofUri ∧
        metadata.runtime.proofArtifact = some publication.descriptor then return (.synchronized, record)
    else if record.runnerStatus = .completed ∧ record.proofUri.isSome = true then return (.none, record)
    else if rootCompleted then
      return (.synchronized, { record with
        metadata := written, runnerStatus := .completed, proofUri := some publication.proofUri, updatedAt := now })
    else
      return (.updated, { record with
        metadata := written, runnerStatus := .allocated, proofUri := none, updatedAt := now })

def syncProofSuccess (id : EngineTaskKey) (task : EngineTask Proof) (stage : String)
    (publication : PublishedProofCommit) (owners : List Incarnation) (observedAtMs : Int64) :
    RecordsUpdate (Option (Nat × List TaskRef)) := fun now records => do
  let results ← records.mapM (syncRecord encoding observer id task stage publication owners observedAtMs now)
  let updatedRoots := (results.filter fun result => result.1 ≠ .none).length
  let synchronizedRoots := (results.filter fun result => result.1 = .synchronized).map (·.2.taskId)
  return (results.map Prod.snd, if updatedRoots > 0 then some (updatedRoots, synchronizedRoots) else none)

end Updates

end Raiko2.Server
