import Mathlib.Data.List.Sort
import Raiko2.Input.Types
import Raiko2.Server.RemoteSubmission

/-!
# Metadata of root tasks

What the server keeps in the record of a root task: the requests it was submitted with, how far their stages are, and
the checkpoints of remote submissions. The metadata is stored as a JSON value and checked each time it is read.
-/

namespace Raiko2.Runtime

def PipelineKey.proofType : PipelineKey → ProofType
  | shastaRisc0 => .risc0
  | shastaSp1 => .sp1
  | shastaNative => .native
  | shastaSgx => .sgx
  | shastaSgxGeth => .sgxGeth

end Raiko2.Runtime

namespace Raiko2.Server

open Lib Raiko2.Engine Raiko2.Runtime

inductive ProverType where
  | mock
  | localProver
  | network
  deriving DecidableEq, Repr

inductive ProposalStage where
  | preflight
  | validation
  | encode
  | prove
  deriving DecidableEq, Repr

structure AggregateInputProofArtifact where
  proofRef : String
  deriving DecidableEq, Repr

structure ProposalTask where
  proposalId : UInt64
  checkpoint : Option ShastaCheckpoint
  l1InclusionBlockNumber : UInt64
  l2BlockNumbers : List UInt64
  lastAnchorBlockNumber : UInt64
  taskId : String
  request : ProposalTaskRequest
  deriving DecidableEq

structure StageTimingMetadata where
  stage : String
  startedAtMs : Int64
  finishedAtMs : Option Int64
  terminalStatus : Option String
  deriving DecidableEq

structure RuntimeMetadata where
  activeStage : Option String := none
  lastEvent : Option String := none
  stageTimings : Table String StageTimingMetadata := ∅
  proposals : Table String TaskRuntimeMetadata := ∅
  aggregate : Option TaskRuntimeMetadata := none
  proofArtifact : Option ProofArtifactDescriptor := none

structure TaskMetadata where
  networkPair : String
  network : String
  l1Network : String
  proofType : ProofType
  requestedProofType : Option String
  proverType : Option ProverType
  executionMode : Option ExecutionMode
  aggregateRequested : Bool
  proposals : List ProposalTask
  aggregateTaskId : Option String
  aggregateRequest : Option AggregationTaskRequest
  aggregateInputArtifacts : List AggregateInputProofArtifact
  runtime : RuntimeMetadata

section References

/-- The JSON objects that references are made of, by what they are put together from. -/
inductive RefPayload where
  | proposal (pipeline : PipelineKey) (request : ProposalTaskRequest)
  | aggregate (pipeline : PipelineKey) (request : AggregationTaskRequest)
  | proposalStage (pipeline : PipelineKey) (request : ProposalTaskRequest) (stage : ProposalStage)
  | aggregateInput (requestFingerprint : String) (index : Nat)
  deriving DecidableEq, Repr

/-- JSON and the hash of it: reading and writing metadata, and the digest of a reference in hexadecimal. -/
structure Encoding where
  parse : String → Except String TaskMetadata
  render : TaskMetadata → String
  digest : RefPayload → String

variable (encoding : Encoding)

def proposalTaskRef (pipeline : PipelineKey) (request : ProposalTaskRequest) : TaskRef :=
  stableRef .task (encoding.digest (.proposal pipeline request))

def aggregateTaskRef (pipeline : PipelineKey) (request : AggregationTaskRequest) : TaskRef :=
  stableRef .task (encoding.digest (.aggregate pipeline request))

def stageTaskRefForStage (key : EngineTaskKey) (stage : ProposalStage) : TaskRef :=
  match key with
  | .proposal pipeline request => stableRef .stage (encoding.digest (.proposalStage pipeline request stage))
  | .aggregate pipeline request => aggregateTaskRef encoding pipeline request

def rootTaskRef : EngineTaskKey → TaskRef
  | .proposal pipeline request => proposalTaskRef encoding pipeline request
  | .aggregate pipeline request => aggregateTaskRef encoding pipeline request

inductive ProofArtifactKind where
  | proposal
  | aggregate
  deriving DecidableEq, Repr

structure ProofArtifactRefs where
  refs : List String
  kind : ProofArtifactKind

def proposalProofArtifactRefs (pipeline : PipelineKey) (proposal : ProposalTask) : List String :=
  [(proposalTaskRef encoding pipeline proposal.request).name]

def rootProofArtifactRefs (metadata : TaskMetadata) (pipeline : PipelineKey) : Option ProofArtifactRefs :=
  match metadata.aggregateRequest with
  | some request => some ⟨[(aggregateTaskRef encoding pipeline request).name], .aggregate⟩
  | none =>
    match metadata.proposals with
    | [proposal] => some ⟨proposalProofArtifactRefs encoding pipeline proposal, .proposal⟩
    | _ => none

def pushNew (refs : List String) (ref : String) : List String :=
  if refs.contains ref then refs else refs ++ [ref]

def publicationProofArtifactRefs (metadata : TaskMetadata) (pipeline : PipelineKey) : List String :=
  let root := ((rootProofArtifactRefs encoding metadata pipeline).map (·.refs)).getD []
  let proposals := metadata.proposals.flatMap (proposalProofArtifactRefs encoding pipeline)
  let inputs := metadata.aggregateInputArtifacts.map (·.proofRef)
  inputs.foldl pushNew (proposals.foldl pushNew root)

end References

section Checks

def contiguous : List UInt64 → Bool
  | a :: b :: rest => U64.checkedAdd a 1 = some b && contiguous (b :: rest)
  | _ => true

def canonicalL2BlockRange (blockNumbers : List UInt64) : Except ErrorChain L2BlockRange :=
  match blockNumbers with
  | [] => .error ["runtime proposal block projection is empty"]
  | start :: rest => do
    ensure (contiguous blockNumbers) "runtime proposal block projection is not contiguous"
    return ⟨start, (start :: rest).getLast (by simp)⟩

def validateRemoteSubmissionRoute (kind : Option RemoteSubmissionKind) (route : PipelineRoute) :
    Except ErrorChain Unit :=
  let matchesRoute := match kind with
    | none => true
    | some .sp1 => route = ⟨.sp1, .network⟩
  ensure matchesRoute "runtime provider checkpoint does not match the canonical proving route"

variable (encoding : Encoding)

namespace TaskMetadata

def validateProposal (pipeline : PipelineKey) (proposal : ProposalTask) : Except ErrorChain Unit := do
  let request := proposal.request
  ensure (proposal.proposalId = request.proposalId &&
      proposal.l1InclusionBlockNumber = request.l1InclusionBlockNumber &&
      proposal.lastAnchorBlockNumber = request.lastAnchorBlockNumber && proposal.checkpoint = request.checkpoint)
    "runtime proposal projection does not match its canonical request"
  let range ← canonicalL2BlockRange proposal.l2BlockNumbers
  ensure (request.l2BlockRange = some range) "runtime proposal block projection does not match its canonical request"
  ensure (proposal.taskId = (proposalTaskRef encoding pipeline request).name)
    "runtime proposal task_id does not match its canonical request"

def validateExecutionIdentity (self : TaskMetadata) (record : RuntimeTaskRecord) : Except ErrorChain Unit := do
  ensure (!self.proposals.isEmpty || self.aggregateRequest.isSome) "runtime task metadata has no execution request"
  ensure (self.aggregateRequested = self.aggregateRequest.isSome)
    "runtime task aggregate flag does not match its request"
  self.proposals.forM (validateProposal encoding record.pipelineKey)
  match self.aggregateRequest, self.aggregateTaskId with
  | some request, some taskId =>
    ensure (taskId = (aggregateTaskRef encoding record.pipelineKey request).name)
      "runtime aggregate task_id does not match its canonical request"
    if self.proposals.isEmpty then
      ensure (!self.aggregateInputArtifacts.isEmpty) "external aggregate metadata contains no input artifacts"
      ensure (request.proposalIds.isEmpty || request.proposalIds.length = self.aggregateInputArtifacts.length)
        "external aggregate proposal ids do not match input artifacts"
    else
      ensure (request.proposalIds = self.proposals.map (·.proposalId))
        "runtime aggregate proposal ids do not match its proposal requests"
      ensure self.aggregateInputArtifacts.isEmpty "batch aggregate metadata contains external input artifacts"
  | none, none =>
    ensure self.aggregateInputArtifacts.isEmpty "proposal metadata contains external aggregate input artifacts"
  | _, _ => .error ["runtime aggregate task identity is incomplete"]

def validateProgress (route : PipelineRoute) (runtime : TaskRuntimeMetadata) : Except ErrorChain Unit := do
  let kind ← runtime.validateRemoteSubmission
  validateRemoteSubmissionRoute kind route

def validateRuntimeProgress (self : TaskMetadata) (route : PipelineRoute) : Except ErrorChain Unit := do
  -- the entries of a `BTreeMap` come in the order of their keys
  let entries := self.runtime.proposals.entries.insertionSort fun a b => a.1 ≤ b.1
  entries.forM fun entry => do
    ensure (self.proposals.any (·.taskId = entry.1))
      "runtime proposal progress does not belong to a canonical proposal"
    validateProgress route entry.2
  match self.runtime.aggregate with
  | none => return ()
  | some runtime =>
    ensure self.aggregateRequest.isSome "runtime aggregate progress has no canonical aggregate request"
    validateProgress route runtime

def decodeForRecord (record : RuntimeTaskRecord) : Except ErrorChain TaskMetadata := do
  let metadata ← match encoding.parse record.metadata with
    | .ok metadata => .ok metadata
    | .error error => .error ["failed to parse runtime task metadata", error]
  let canonicalRoute ← optionContext (record.pipelineKey.canonicalizePersistedRoute record.route)
    "runtime task route does not match the canonical pipeline"
  ensure (metadata.networkPair = metadata.network ++ "/" ++ metadata.l1Network)
    "runtime task metadata network fields are inconsistent"
  ensure (metadata.networkPair = record.networkPair)
    "runtime task metadata network_pair does not match the canonical record"
  ensure (metadata.proofType = record.pipelineKey.proofType)
    "runtime task metadata proof_type does not match the canonical pipeline"
  metadata.validateExecutionIdentity encoding record
  metadata.validateRuntimeProgress canonicalRoute
  ensure (publicationProofArtifactRefs encoding metadata record.pipelineKey = record.artifactRefs.map (·.name))
    "runtime task metadata artifact references do not match the canonical record"
  return metadata

def proposalRuntime (self : TaskMetadata) (taskId : String) : Option TaskRuntimeMetadata :=
  self.runtime.proposals.lookup taskId

def aggregateRuntime (self : TaskMetadata) : Option TaskRuntimeMetadata := self.runtime.aggregate

def ownsEngineTask (self : TaskMetadata) : EngineTaskKey → Bool
  | .proposal _ request => self.proposals.any (·.request = request)
  | .aggregate _ request => self.aggregateRequest = some request

variable {encoding} {record : RuntimeTaskRecord} {metadata self : TaskMetadata} {route : PipelineRoute}

/-- Metadata that is read passes every check, and everything that passes is read. -/
theorem decodeForRecord_eq_ok_iff :
    decodeForRecord encoding record = .ok metadata ↔
      encoding.parse record.metadata = .ok metadata ∧
      ∃ route, record.pipelineKey.canonicalizePersistedRoute record.route = some route ∧
        metadata.networkPair = metadata.network ++ "/" ++ metadata.l1Network ∧
        metadata.networkPair = record.networkPair ∧ metadata.proofType = record.pipelineKey.proofType ∧
        metadata.validateExecutionIdentity encoding record = .ok () ∧ metadata.validateRuntimeProgress route = .ok () ∧
        publicationProofArtifactRefs encoding metadata record.pipelineKey = record.artifactRefs.map (·.name) := by
  rw [decodeForRecord]
  cases hParse : encoding.parse record.metadata with
  | error error => exact ⟨nofun, nofun⟩
  | ok parsed =>
    simp only [except_bind_eq_ok_iff, optionContext_eq_ok_iff, ensure_eq_ok, exists_const, decide_eq_true_eq,
      Except.ok.injEq, exists_eq_left']
    constructor
    · rintro ⟨route, hRoute, hFields, hPair, hType, ⟨⟩, hIdentity, ⟨⟩, hProgress, hRefs, ⟨⟩⟩
      exact ⟨rfl, route, hRoute, hFields, hPair, hType, hIdentity, hProgress, hRefs⟩
    · rintro ⟨rfl, route, hRoute, hFields, hPair, hType, hIdentity, hProgress, hRefs⟩
      exact ⟨route, hRoute, hFields, hPair, hType, (), hIdentity, (), hProgress, hRefs, rfl⟩

theorem validateRuntimeProgress_eq_ok_iff :
    self.validateRuntimeProgress route = .ok () ↔
      (∀ taskId runtime, self.runtime.proposals.lookup taskId = some runtime →
        (∃ proposal ∈ self.proposals, proposal.taskId = taskId) ∧ validateProgress route runtime = .ok ()) ∧
      ∀ runtime, self.runtime.aggregate = some runtime →
        self.aggregateRequest.isSome = true ∧ validateProgress route runtime = .ok () := by
  rw [validateRuntimeProgress, except_unit_bind_eq_ok_iff, except_forM_eq_ok_iff]
  refine and_congr ?_ ?_
  · simp only [List.mem_insertionSort, except_unit_bind_eq_ok_iff, ensure_eq_ok, List.any_eq_true, decide_eq_true_eq]
    constructor
    · intro h taskId runtime hLookup
      exact h ⟨taskId, runtime⟩ (Table.mem_entries_iff.mpr hLookup)
    · rintro h ⟨taskId, runtime⟩ hMem
      exact h taskId runtime (Table.mem_entries_iff.mp hMem)
  · cases self.runtime.aggregate with
    | none =>
      simp only [reduceCtorEq, false_implies, implies_true, iff_true]
      rfl
    | some runtime =>
      simp only [except_unit_bind_eq_ok_iff, ensure_eq_ok, Option.some.injEq, forall_eq']

end TaskMetadata

end Checks

end Raiko2.Server
