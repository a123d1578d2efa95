import Raiko2.Runtime.Keys
import Raiko2.Runtime.StateManager

/-!
# Records of tasks and proof artifacts

The document of the runtime state: tasks, artifacts and the intents to publish proofs, with the checks that every
state passes before it is written.
-/

namespace Raiko2.Runtime

open Lib

abbrev Bytes := List UInt8

def ensure (condition : Bool) (message : String) : Except ErrorChain Unit :=
  if condition then .ok () else .error [message]

theorem ensure_eq_ok {condition : Bool} {message : String} {done : Unit} :
    ensure condition message = .ok done ↔ condition = true := by
  unfold ensure
  split <;> simp_all

structure ProofArtifactDescriptor where
  proofUri : String
  contentHash : String
  generation : Option Int64
  deriving DecidableEq

structure ProofArtifactObject where
  proofUri : String
  contentHash : String
  generation : Option Int64
  bytes : Bytes
  deriving DecidableEq

structure ProofArtifactConflict where
  descriptor : ProofArtifactDescriptor
  object : Option ProofArtifactObject
  deriving DecidableEq

inductive ProofArtifactPutResult where
  | created (object : ProofArtifactObject)
  | alreadyExists (object : ProofArtifactObject)
  | conflict (found : ProofArtifactConflict)
  deriving DecidableEq

inductive ExactDeleteResult where
  | removed
  | missing
  | stale
  deriving DecidableEq, Repr

inductive ProofArtifactLifecycle where
  | pending
  | active
  | invalidated
  deriving DecidableEq, Repr

structure ArtifactExpectation where
  key : ProofArtifactKey
  descriptor : ProofArtifactDescriptor
  lifecycle : ProofArtifactLifecycle
  deriving DecidableEq

structure ProofArtifactPrecondition where
  key : ProofArtifactKey
  descriptor : ProofArtifactDescriptor
  deriving DecidableEq

structure ProofArtifactRegistration where
  key : ProofArtifactKey
  descriptor : ProofArtifactDescriptor
  deriving DecidableEq

structure ProofArtifactRecord where
  environment : String
  key : ProofArtifactKey
  descriptor : ProofArtifactDescriptor
  lifecycle : ProofArtifactLifecycle
  invalidatedAt : Option Int64
  updatedAt : Int64
  deriving DecidableEq

def ProofArtifactRecord.expectation (record : ProofArtifactRecord) : ArtifactExpectation :=
  ⟨record.key, record.descriptor, record.lifecycle⟩

inductive RunnerStatus where
  | allocated
  | running
  | completed
  | failed
  | cancelled
  deriving DecidableEq, Repr

def RunnerStatus.isTerminal : RunnerStatus → Bool
  | completed | failed | cancelled => true
  | allocated | running => false

def RunnerStatus.isLive : RunnerStatus → Bool
  | failed | cancelled => false
  | allocated | running | completed => true

inductive TaskRetentionState where
  | retained
  | removing
  deriving DecidableEq, Repr

/-- The identity of one task lifetime, a `Uuid`. -/
abbrev Incarnation := Nat

structure TaskLifetime where
  taskId : TaskRef
  incarnationId : Incarnation
  deriving DecidableEq

structure RuntimeTaskRecord where
  taskId : TaskRef
  incarnationId : Incarnation
  pipelineKey : PipelineKey
  route : PipelineRoute
  taskKind : String
  networkPair : String
  artifactRefs : List TaskRef
  runnerStatus : RunnerStatus
  retentionState : TaskRetentionState
  imageRef : Option String
  proofUri : Option String
  error : Option String
  metadata : String
  requestFingerprint : String
  updatedAt : Int64
  deriving DecidableEq

def RuntimeTaskRecord.lifetime (record : RuntimeTaskRecord) : TaskLifetime := ⟨record.taskId, record.incarnationId⟩

structure TaskRegistration where
  taskId : TaskRef
  pipelineKey : PipelineKey
  route : PipelineRoute
  taskKind : String
  networkPair : String
  artifactRefs : List TaskRef
  metadata : String
  requestFingerprint : String

/-- The new lifetime and the time are taken from the environment. -/
def buildTaskRecord (registration : TaskRegistration) (incarnationId : Incarnation) (now : Int64) :
    Except ErrorChain RuntimeTaskRecord := do
  ensure (registration.taskId.name ≠ "") "task registration id is empty"
  ensure (registration.taskKind ≠ "") "task registration kind is empty"
  ensure (registration.pipelineKey.supportsRoute registration.route)
    ("pipeline_key '" ++ registration.pipelineKey.asStr ++ "' does not match route '" ++ registration.route.text ++ "'")
  ensure (registration.networkPair ≠ "") "task registration requires network_pair"
  ensure (registration.artifactRefs.all (·.name ≠ "")) "task registration contains an empty artifact reference"
  ensure (registration.artifactRefs.Nodup) "task registration contains duplicate artifact references"
  ensure (registration.requestFingerprint ≠ "") "task registration request fingerprint is empty"
  return {
    taskId := registration.taskId
    incarnationId := incarnationId
    pipelineKey := registration.pipelineKey
    route := registration.route
    taskKind := registration.taskKind
    networkPair := registration.networkPair
    artifactRefs := registration.artifactRefs
    runnerStatus := .allocated
    retentionState := .retained
    imageRef := none
    proofUri := none
    error := none
    metadata := registration.metadata
    requestFingerprint := registration.requestFingerprint
    updatedAt := now }

structure PendingPublicationExpectation where
  key : ProofArtifactKey
  contentHash : String
  ownerIncarnations : List Incarnation
  deriving DecidableEq

structure PendingProofPublicationRecord where
  key : ProofArtifactKey
  contentHash : String
  ownerIncarnations : List Incarnation
  deriving DecidableEq

def PendingProofPublicationRecord.expectation (record : PendingProofPublicationRecord) : PendingPublicationExpectation :=
  ⟨record.key, record.contentHash, record.ownerIncarnations⟩

structure RuntimeState where
  tasks : Table TaskRef RuntimeTaskRecord := ∅
  artifacts : Table ProofArtifactKey ProofArtifactRecord := ∅
  pendingPublications : Table ProofArtifactKey PendingProofPublicationRecord := ∅

section Identity

def taskReferences (record : RuntimeTaskRecord) (taskRef : TaskRef) : Bool :=
  record.taskId = taskRef || record.artifactRefs.any (· = taskRef)

def taskMatchesArtifactIdentity (record : RuntimeTaskRecord) (key : ProofArtifactKey) : Bool :=
  if !taskReferences record key.proofRef || record.pipelineKey ≠ key.pipelineKey || record.route ≠ key.route then false
  else record.networkPair = key.networkPair

variable (state : RuntimeState) (key : ProofArtifactKey)

def artifactTaskRecords : List RuntimeTaskRecord := state.tasks.values.filter (taskMatchesArtifactIdentity · key)

def pendingPublicationHasLiveOwner : Bool :=
  (state.pendingPublications.lookup key).any fun pending =>
    pending.ownerIncarnations.any fun owner =>
      state.tasks.values.any fun task =>
        task.incarnationId = owner && taskMatchesArtifactIdentity task key && task.runnerStatus.isLive

def pendingPublicationHasRetentionOwner : Bool :=
  (state.pendingPublications.lookup key).isSome && state.tasks.values.any (taskMatchesArtifactIdentity · key)

def RetentionOwnershipIndex.fromState : List ProofArtifactKey :=
  state.tasks.values.flatMap fun task =>
    (task.taskId :: task.artifactRefs).map fun proofRef => ⟨task.networkPair, task.pipelineKey, task.route, proofRef⟩

def RetentionOwnershipIndex.hasArtifactOwner (ownedArtifacts : List ProofArtifactKey) : Bool := ownedArtifacts.contains key

def artifactIsReclaimableForRetention (record : ProofArtifactRecord) (ownership : List ProofArtifactKey) : Bool :=
  record.lifecycle = .invalidated || !RetentionOwnershipIndex.hasArtifactOwner key ownership

def ensureArtifactPreconditions : List ProofArtifactPrecondition → Except ErrorChain Unit
  | [] => .ok ()
  | expected :: rest =>
    match state.artifacts.lookup expected.key with
    | none => .error ["cached proof artifact disappeared before task admission"]
    | some artifact =>
      if artifact.lifecycle ≠ .active ∨ artifact.descriptor ≠ expected.descriptor then
        .error ["cached proof artifact changed before task admission"]
      else ensureArtifactPreconditions rest

def ensureTaskFingerprintAvailable (record : RuntimeTaskRecord) : Except ErrorChain Unit :=
  ensure (!state.tasks.values.any fun task =>
      task.taskId ≠ record.taskId && task.requestFingerprint = record.requestFingerprint)
    "request fingerprint already belongs to another task"

end Identity

section Validation

/-- The incarnations and the fingerprints of the tasks before are passed on. -/
def validateRuntimeTaskRecord (taskId : TaskRef) (record : RuntimeTaskRecord) (incarnations : List Incarnation)
    (requestFingerprints : List String) : Except ErrorChain (List Incarnation × List String) := do
  ensure (taskId = record.taskId) "runtime task key does not match record"
  ensure (record.taskId.name ≠ "") "runtime task id is empty"
  ensure (record.incarnationId ≠ 0) "runtime task incarnation is nil"
  ensure (!incarnations.contains record.incarnationId) "runtime task incarnation is duplicated"
  ensure (record.pipelineKey.canonicalizePersistedRoute record.route).isSome
    "runtime task pipeline does not support its route"
  ensure (record.taskKind ≠ "") "runtime task kind is empty"
  ensure (record.networkPair ≠ "") "runtime task network pair is empty"
  ensure (record.artifactRefs.all (·.name ≠ "")) "runtime task contains an empty artifact reference"
  ensure record.artifactRefs.Nodup "runtime task contains duplicate artifact references"
  ensure (record.retentionState = .retained || record.runnerStatus.isTerminal)
    "non-terminal runtime task cannot enter retention removal"
  ensure (record.requestFingerprint ≠ "") "runtime task request fingerprint is empty"
  ensure (!requestFingerprints.contains record.requestFingerprint) "runtime task request fingerprint is duplicated"
  return (record.incarnationId :: incarnations, record.requestFingerprint :: requestFingerprints)

def validateProofArtifactRecord (environment : String) (key : ProofArtifactKey) (record : ProofArtifactRecord) :
    Except ErrorChain Unit := do
  ensure (key = record.key) "runtime artifact key does not match record"
  ensure (record.environment = environment) "runtime artifact environment does not match the store"
  ensure (record.key.pipelineKey.canonicalizePersistedRoute record.key.route).isSome
    "runtime artifact pipeline does not support its route"
  ensure (record.key.networkPair ≠ "" && record.key.proofRef.name ≠ "" && record.descriptor.proofUri ≠ ""
      && record.descriptor.contentHash ≠ "")
    "runtime artifact identity or descriptor is empty"
  ensure ((record.lifecycle = .invalidated : Bool) = record.invalidatedAt.isSome)
    "runtime artifact invalidation timestamp does not match its lifecycle"

def validatePendingPublicationRecord (tasks : List RuntimeTaskRecord) (key : ProofArtifactKey)
    (record : PendingProofPublicationRecord) : Except ErrorChain Unit := do
  ensure (key = record.key) "pending publication key does not match record"
  ensure (record.key.pipelineKey.canonicalizePersistedRoute record.key.route).isSome
    "pending publication pipeline does not support its route"
  ensure (record.key.networkPair ≠ "" && record.key.proofRef.name ≠ "" && record.contentHash ≠ "")
    "pending publication identity or content hash is empty"
  ensure record.ownerIncarnations.Nodup "pending publication contains duplicate owners"
  ensure (record.ownerIncarnations.all fun owner =>
      tasks.any fun task => task.incarnationId = owner && taskMatchesArtifactIdentity task record.key)
    "pending publication owner does not match its artifact identity"

def validateRuntimeState (environment : String) (state : RuntimeState) : Except ErrorChain Unit := do
  let _ ← state.tasks.entries.foldlM
    (fun seen entry => validateRuntimeTaskRecord entry.1 entry.2 seen.1 seen.2) ([], [])
  state.artifacts.entries.forM fun entry => validateProofArtifactRecord environment entry.1 entry.2
  state.pendingPublications.entries.forM fun entry =>
    validatePendingPublicationRecord state.tasks.values entry.1 entry.2

end Validation

end Raiko2.Runtime
