import Raiko2.Runtime.ValidUpdates

/-!
# Operations on the runtime state

The operations of the runtime manager that build their update from the current state. Each one takes a valid
state to a valid state, so the validation that follows every update never refuses it.
-/

namespace Raiko2.Runtime

open Lib

/-- The operations with what they read before they take the state: `createdAt` and `builtAt` are the times at which a
record was built, `apply` reads the clock again. -/
inductive RuntimeOperation : Type 1 where
  | registerTaskIfAbsent (registration : TaskRegistration) (incarnationId : Incarnation) (createdAt : Int64)
    (preconditions : List ProofArtifactPrecondition)
  | replaceTaskIfUnchanged (expected : RuntimeTaskRecord) (registration : TaskRegistration)
    (incarnationId : Incarnation) (createdAt : Int64) (preconditions : List ProofArtifactPrecondition)
  | completeNonterminalTask (taskId : TaskRef) (expectedIncarnation : Incarnation) (proofUri : String)
    (preconditions : List ProofArtifactPrecondition)
  | prepareTaskForRecoveryIfUnchanged (expected : RuntimeTaskRecord)
  | restoreTaskAfterRecoveryIfUnchanged (prepared original : RuntimeTaskRecord)
  | failTaskIfUnchanged (expected : RuntimeTaskRecord) (error : String)
  | cancelTaskIfCurrent (lifetime : TaskLifetime) (error : Option String)
  | cancelTaskIfUnchanged (expected : RuntimeTaskRecord) (error : Option String)
  | retireTaskIfUnchanged (expected : RuntimeTaskRecord) (error : Option String)
  | removeTaskIfCurrent (lifetime : TaskLifetime)
  | updateTasksByRef {T : Type} (taskRef : TaskRef) (update : RecordsUpdate T)
  | recordPendingProofPublicationIntent (record : PendingProofPublicationRecord)
  | registerPendingProofArtifact (registration : ProofArtifactRegistration) (builtAt : Int64)
  | registerInvalidatedProofArtifact (registration : ProofArtifactRegistration) (builtAt : Int64)
  | activateProofArtifactWithTasks {T : Type} (taskRef : TaskRef) (registration : ProofArtifactRegistration)
    (ownerIncarnations : List Incarnation) (update : RecordsUpdate (Option T))
  | updateTasksAndInvalidateArtifact {T : Type} (key : ProofArtifactKey) (update : RecordsUpdate (T × Bool))
  | removeProofArtifactIfDescriptor (key : ProofArtifactKey) (descriptor : ProofArtifactDescriptor)
  | prepareArtifactRetentionBatch (expectedArtifacts : List ProofArtifactRecord) (invalidatedAt : Int64)
  | prepareTerminalTaskRetentionBatch (expectedTasks : List RuntimeTaskRecord)
  | finalizeTerminalTaskRetentionBatch (retiredTasks : List RuntimeTaskRecord)
    (finalizedArtifacts : List ArtifactExpectation) (finalizedPending : List PendingPublicationExpectation)
  | releasePendingProofPublicationOwner (key : ProofArtifactKey) (ownerIncarnation : Incarnation)
  | removePendingProofPublicationIfUnowned (key : ProofArtifactKey)
  | invalidatePendingProofPublication (key : ProofArtifactKey) (canonical : Option ProofArtifactDescriptor)
    (builtAt : Int64)
  | preparePendingCanonicalForRetention (expectation : PendingPublicationExpectation)
    (descriptor : ProofArtifactDescriptor) (builtAt : Int64)

namespace RuntimeOperation

def apply (environment : String) (now : Int64) (state : RuntimeState) :
    RuntimeOperation → Except ErrorChain RuntimeState
  | registerTaskIfAbsent registration incarnationId createdAt preconditions => do
    let record ← buildTaskRecord registration incarnationId createdAt
    (registerTaskUpdate record preconditions).state now state
  | replaceTaskIfUnchanged expected registration incarnationId createdAt preconditions => do
    let record ← buildTaskRecord registration incarnationId createdAt
    (replaceTaskUpdate expected record preconditions).state now state
  | completeNonterminalTask taskId expectedIncarnation proofUri preconditions =>
    (completeNonterminalTaskUpdate taskId expectedIncarnation proofUri preconditions).state now state
  | prepareTaskForRecoveryIfUnchanged expected => (prepareTaskForRecoveryUpdate expected).state now state
  | restoreTaskAfterRecoveryIfUnchanged prepared original => do
    ensureRecoveryRollback prepared original
    (restoreTaskUpdate prepared original).state now state
  | failTaskIfUnchanged expected error => (failTaskUpdate expected error).state now state
  | cancelTaskIfCurrent lifetime error => (cancelTaskIfCurrentUpdate lifetime error).state now state
  | cancelTaskIfUnchanged expected error => (cancelTaskIfUnchangedUpdate expected error).state now state
  | retireTaskIfUnchanged expected error => (retireTaskUpdate expected error).state now state
  | removeTaskIfCurrent lifetime => (removeTaskUpdate lifetime).state now state
  | updateTasksByRef taskRef update => (updateTasksByRefUpdate taskRef update).state now state
  | recordPendingProofPublicationIntent record =>
    (recordPendingProofPublicationIntentUpdate record).state now state
  | registerPendingProofArtifact registration builtAt => do
    ensureCanonicalArtifactRegistration registration
    (registerPendingProofArtifactUpdate (proofArtifactRecord environment registration .pending builtAt)).state now state
  | registerInvalidatedProofArtifact registration builtAt => do
    ensureCanonicalArtifactRegistration registration
    (registerInvalidatedProofArtifactUpdate (proofArtifactRecord environment registration .invalidated builtAt)).state
      now state
  | activateProofArtifactWithTasks taskRef registration ownerIncarnations update =>
    (activateProofArtifactUpdate taskRef registration.key registration.descriptor ownerIncarnations update).state
      now state
  | updateTasksAndInvalidateArtifact key update => (updateTasksAndInvalidateUpdate key update).state now state
  | removeProofArtifactIfDescriptor key descriptor =>
    (removeProofArtifactIfDescriptorUpdate key descriptor).state now state
  | prepareArtifactRetentionBatch expectedArtifacts invalidatedAt => do
    ensure (expectedArtifacts.map (·.key)).Nodup "artifact retention batch contains duplicate artifact keys"
    (prepareArtifactRetentionUpdate expectedArtifacts invalidatedAt).state now state
  | prepareTerminalTaskRetentionBatch expectedTasks => do
    ensure (expectedTasks.map (·.taskId)).Nodup "terminal task retention batch contains duplicate task ids"
    return (prepareTerminalTaskRetention state expectedTasks).1
  | finalizeTerminalTaskRetentionBatch retiredTasks finalizedArtifacts finalizedPending => do
    validateTerminalRetentionFinalization retiredTasks finalizedArtifacts finalizedPending
    (finalizeTerminalTaskRetentionUpdate retiredTasks finalizedArtifacts finalizedPending).state now state
  | releasePendingProofPublicationOwner key ownerIncarnation =>
    (releasePendingProofPublicationOwnerUpdate key ownerIncarnation).state now state
  | removePendingProofPublicationIfUnowned key => (removePendingProofPublicationUpdate key).state now state
  | invalidatePendingProofPublication key canonical builtAt =>
    (markUnownedPendingPublicationInvalidated key
      (canonical.map fun descriptor => proofArtifactRecord environment ⟨key, descriptor⟩ .invalidated builtAt)).state now
      state
  | preparePendingCanonicalForRetention expectation descriptor builtAt =>
    (preparePendingCanonicalUpdate expectation
      (proofArtifactRecord environment ⟨expectation.key, descriptor⟩ .invalidated builtAt)).state now state

end RuntimeOperation

/-- What the callers of an operation see to: identifiers are not empty, incarnations are new, updates of records make
progress only, and a rollback restores a record that was valid. -/
def RuntimeOperation.Admissible (state : RuntimeState) : RuntimeOperation → Prop
  | registerTaskIfAbsent _ incarnationId _ _ => state.Fresh incarnationId
  | replaceTaskIfUnchanged _ _ incarnationId _ _ => state.Fresh incarnationId
  | restoreTaskAfterRecoveryIfUnchanged _ original => original.Removable
  | updateTasksByRef _ update => update.Progresses
  | recordPendingProofPublicationIntent record => record.contentHash ≠ ""
  | registerPendingProofArtifact registration _ | registerInvalidatedProofArtifact registration _ =>
    registration.key.networkPair ≠ "" ∧ registration.key.proofRef.name ≠ "" ∧ registration.descriptor.NonEmpty
  | activateProofArtifactWithTasks _ _ _ update => update.Progresses
  | updateTasksAndInvalidateArtifact _ update => update.Progresses
  | invalidatePendingProofPublication key canonical _ =>
    ∀ descriptor, canonical = some descriptor → key.Valid ∧ descriptor.NonEmpty
  | preparePendingCanonicalForRetention _ descriptor _ => descriptor.NonEmpty
  | _ => True

/-- The operations on artifacts and publication intents only. -/
def RuntimeOperation.leavesTasks : RuntimeOperation → Bool
  | recordPendingProofPublicationIntent _ | registerPendingProofArtifact _ _ | registerInvalidatedProofArtifact _ _
  | removeProofArtifactIfDescriptor _ _ | prepareArtifactRetentionBatch _ _ | releasePendingProofPublicationOwner _ _
  | removePendingProofPublicationIfUnowned _ | invalidatePendingProofPublication _ _ _
  | preparePendingCanonicalForRetention _ _ _ => true
  | _ => false

section Apply

variable {environment : String} {now : Int64} {operation : RuntimeOperation} {state state' : RuntimeState}

theorem RuntimeOperation.keepsTasks_apply (h : state.Valid environment) (hAdmissible : operation.Admissible state)
    (hApply : operation.apply environment now state = .ok state') (hLeaves : operation.leavesTasks = true) :
    RuntimeState.Valid.KeepsTasks environment state state' := by
  cases operation with
  | recordPendingProofPublicationIntent record => exact (h.recordPendingIntent hAdmissible).of_state hApply
  | registerPendingProofArtifact registration builtAt =>
    obtain ⟨⟨⟩, hRoute, hUpdate⟩ := except_bind_eq_ok_iff.mp hApply
    have hValid := proofArtifactRecord_valid environment registration
      (ProofArtifactRegistration.keyValid hRoute hAdmissible.1 hAdmissible.2.1) hAdmissible.2.2 .pending builtAt
    exact (h.registerPendingArtifact ⟨rfl, hValid.key, hAdmissible.2.2⟩).of_state hUpdate
  | registerInvalidatedProofArtifact registration builtAt =>
    obtain ⟨⟨⟩, hRoute, hUpdate⟩ := except_bind_eq_ok_iff.mp hApply
    have hValid := proofArtifactRecord_valid environment registration
      (ProofArtifactRegistration.keyValid hRoute hAdmissible.1 hAdmissible.2.1) hAdmissible.2.2 .invalidated builtAt
    exact (h.registerInvalidatedArtifact hValid).of_state hUpdate
  | removeProofArtifactIfDescriptor key descriptor => exact h.removeProofArtifact.of_state hApply
  | prepareArtifactRetentionBatch expectedArtifacts invalidatedAt =>
    obtain ⟨-, -, hUpdate⟩ := except_bind_eq_ok_iff.mp hApply
    exact h.prepareArtifactRetentionBatch.of_state hUpdate
  | releasePendingProofPublicationOwner key ownerIncarnation => exact h.releasePendingOwner.of_state hApply
  | removePendingProofPublicationIfUnowned key => exact h.removePending.of_state hApply
  | invalidatePendingProofPublication key canonical builtAt =>
    refine (h.markInvalidated fun record hRecord => ?_).of_state hApply
    obtain ⟨descriptor, hDescriptor, rfl⟩ := Option.map_eq_some_iff.mp hRecord
    obtain ⟨hKey, hNonEmpty⟩ := hAdmissible descriptor hDescriptor
    exact ⟨rfl, proofArtifactRecord_valid environment ⟨key, descriptor⟩ hKey hNonEmpty .invalidated builtAt⟩
  | preparePendingCanonicalForRetention expectation descriptor builtAt =>
    refine (h.preparePendingCanonical rfl fun hKey => ?_).of_state hApply
    exact proofArtifactRecord_valid environment ⟨expectation.key, descriptor⟩ hKey hAdmissible .invalidated builtAt
  | _ => cases hLeaves

theorem RuntimeOperation.valid_apply (h : state.Valid environment) (hAdmissible : operation.Admissible state)
    (hApply : operation.apply environment now state = .ok state') : state'.Valid environment := by
  cases hLeaves : operation.leavesTasks with
  | true => exact (operation.keepsTasks_apply h hAdmissible hApply hLeaves).valid
  | false =>
  cases operation with
  | registerTaskIfAbsent registration incarnationId createdAt preconditions =>
    obtain ⟨record, hRecord, hUpdate⟩ := except_bind_eq_ok_iff.mp hApply
    obtain ⟨hValid, rfl⟩ := buildTaskRecord_valid hRecord hAdmissible.1
    obtain rfl | ⟨hAbsent, hFingerprint, rfl⟩ := registerTaskUpdate_cases hUpdate
    · exact h
    · exact h.addTask hValid hAbsent hAdmissible.2 hFingerprint
  | replaceTaskIfUnchanged expected registration incarnationId createdAt preconditions =>
    obtain ⟨record, hRecord, hUpdate⟩ := except_bind_eq_ok_iff.mp hApply
    obtain ⟨hValid, rfl⟩ := buildTaskRecord_valid hRecord hAdmissible.1
    exact h.replaceTask hValid hAdmissible hUpdate
  | completeNonterminalTask taskId expectedIncarnation proofUri preconditions =>
    obtain rfl | ⟨task, hTask, -, -, rfl⟩ := completeNonterminalTaskUpdate_cases hApply
    · exact h
    · exact h.withTask hTask (.set ..) (.inr rfl)
  | prepareTaskForRecoveryIfUnchanged expected =>
    obtain rfl | ⟨hTask, -, -, rfl⟩ := prepareTaskForRecoveryUpdate_cases hApply
    · exact h
    · exact h.withTask hTask (.set ..) (.inl rfl)
  | restoreTaskAfterRecoveryIfUnchanged prepared original =>
    obtain ⟨⟨⟩, hRollback, hUpdate⟩ := except_bind_eq_ok_iff.mp hApply
    exact h.restoreTask hRollback hAdmissible hUpdate
  | failTaskIfUnchanged expected error =>
    obtain rfl | ⟨hTask, -, rfl⟩ := openTaskUpdate_cases hApply
    · exact h
    · exact h.withTask hTask (.set ..) (.inr rfl)
  | cancelTaskIfCurrent lifetime error =>
    obtain rfl | ⟨task, hTask, -, -, rfl⟩ := cancelTaskIfCurrentUpdate_cases hApply
    · exact h
    · exact h.withTask hTask (.set ..) (.inr rfl)
  | cancelTaskIfUnchanged expected error =>
    obtain rfl | ⟨hTask, -, rfl⟩ := openTaskUpdate_cases hApply
    · exact h
    · exact h.withTask hTask (.set ..) (.inr rfl)
  | retireTaskIfUnchanged expected error =>
    obtain rfl | ⟨hTask, -, rfl⟩ := retireTaskUpdate_cases hApply
    · exact h
    · exact h.withTask hTask (.set ..) (.inr rfl)
  | removeTaskIfCurrent lifetime =>
    obtain rfl | ⟨current, hCurrent, -, -, rfl⟩ := removeTaskUpdate_cases hApply
    · exact h
    · exact h.withoutTask hCurrent
  | updateTasksByRef taskRef update => exact (h.updateTasksByRef hAdmissible).of_state hApply
  | activateProofArtifactWithTasks taskRef registration ownerIncarnations update =>
    exact h.activateArtifact hAdmissible hApply
  | updateTasksAndInvalidateArtifact key update => exact h.updateTasksAndInvalidate hAdmissible hApply
  | prepareTerminalTaskRetentionBatch expectedTasks =>
    obtain ⟨-, -, hEq⟩ := except_bind_eq_ok_iff.mp hApply
    cases hEq
    exact h.prepareTerminalTaskRetention expectedTasks
  | finalizeTerminalTaskRetentionBatch retiredTasks finalizedArtifacts finalizedPending =>
    obtain ⟨-, -, hUpdate⟩ := except_bind_eq_ok_iff.mp hApply
    exact (h.finalizeTerminalTaskRetention hUpdate).1
  | _ => cases hLeaves

end Apply

/-- Every operation takes an accepted state to an accepted one. In it each owner of a publication is a task that
refers to the artifact, no two tasks have one fingerprint, and exactly the invalidated artifacts have a time of
invalidation. -/
theorem runtime_operations_keep_the_state_valid (environment : String) (now : Int64) (operation : RuntimeOperation)
    (state state' : RuntimeState) (hState : validateRuntimeState environment state = .ok ())
    (hAdmissible : operation.Admissible state) (hApply : operation.apply environment now state = .ok state') :
    validateRuntimeState environment state' = .ok () ∧
    (∀ key pending, state'.pendingPublications.lookup key = some pending → ∀ owner ∈ pending.ownerIncarnations,
      ∃ taskId task, state'.tasks.lookup taskId = some task ∧ task.incarnationId = owner ∧
        taskMatchesArtifactIdentity task key = true) ∧
    (∀ taskId taskId' task task', state'.tasks.lookup taskId = some task → state'.tasks.lookup taskId' = some task' →
      task.requestFingerprint = task'.requestFingerprint → taskId = taskId') ∧
    ∀ key artifact, state'.artifacts.lookup key = some artifact →
      (artifact.lifecycle = .invalidated ↔ artifact.invalidatedAt.isSome = true) := by
  have hValid := RuntimeOperation.valid_apply (validateRuntimeState_eq_ok_iff.mp hState) hAdmissible hApply
  refine ⟨validateRuntimeState_eq_ok_iff.mpr hValid, fun key pending hPending owner hOwner => ?_,
    fun _ _ _ _ => hValid.fingerprint, fun _ _ hArtifact => (hValid.artifact hArtifact).invalidatedAt⟩
  have hHas := (hValid.pending hPending).owners owner hOwner
  rwa [hValid.pendingKey hPending] at hHas

section Sample

def sampleTaskRecord : RuntimeTaskRecord where
  taskId := stableRef .proof "1"
  incarnationId := 7
  pipelineKey := .shastaSp1
  route := PipelineKey.shastaSp1.route
  taskKind := "proposal"
  networkPair := "taiko/ethereum"
  artifactRefs := [stableRef .proof "2"]
  runnerStatus := .failed
  retentionState := .removing
  imageRef := none
  proofUri := none
  error := some "prover failed"
  metadata := ""
  requestFingerprint := "f"
  updatedAt := 0

def removingState : RuntimeState where
  tasks := AList.singleton sampleTaskRecord.taskId sampleTaskRecord

def reopenAll : RecordsUpdate (Unit × Bool) := fun _ records =>
  .ok (records.map fun record => { record with runnerStatus := .running }, (), false)

def sampleArtifactKey : ProofArtifactKey :=
  ⟨sampleTaskRecord.networkPair, sampleTaskRecord.pipelineKey, sampleTaskRecord.route, sampleTaskRecord.taskId⟩

theorem reopenAll_progressOf (now : Int64) (records records' : List RuntimeTaskRecord) (output : Unit × Bool)
    (h : reopenAll now records = .ok (records', output)) :
    ∀ after ∈ records', ∃ before ∈ records, before.ProgressOf after := by
  cases h
  intro after hAfter
  obtain ⟨before, hBefore, rfl⟩ := List.mem_map.mp hAfter
  exact ⟨before, hBefore, rfl⟩

def reopenedRecord : RuntimeTaskRecord := { sampleTaskRecord with runnerStatus := .running }

def recoveredState : RuntimeState where
  tasks := AList.singleton sampleTaskRecord.taskId (reopenedRecord.recovered 1)

/-- An update that changes only the status can be refused, if it reopens a task that is being removed; and so can a
rollback to a record that was not valid itself. -/
theorem reopening_a_removed_task_is_refused :
    (validateRuntimeState "dev" removingState = .ok () ∧
      (∀ now records records' output, reopenAll now records = .ok (records', output) → ∀ after ∈ records',
        ∃ before ∈ records, before.ProgressOf after) ∧
      ∃ state', (RuntimeOperation.updateTasksAndInvalidateArtifact sampleArtifactKey reopenAll).apply "dev" 1
          removingState = .ok state' ∧
        validateRuntimeState "dev" state' = .error ["non-terminal runtime task cannot enter retention removal"]) ∧
    validateRuntimeState "dev" recoveredState = .ok () ∧
    ∃ state', (RuntimeOperation.restoreTaskAfterRecoveryIfUnchanged (reopenedRecord.recovered 1) reopenedRecord).apply
        "dev" 1 recoveredState = .ok state' ∧
      validateRuntimeState "dev" state' = .error ["non-terminal runtime task cannot enter retention removal"] := by
  refine ⟨⟨by decide +kernel, reopenAll_progressOf, _, rfl, by decide +kernel⟩, by decide +kernel, _, rfl,
    by decide +kernel⟩

def runningRecord : RuntimeTaskRecord :=
  { sampleTaskRecord with
    taskId := stableRef .proof "3", incarnationId := 9, artifactRefs := [sampleTaskRecord.taskId]
    runnerStatus := .running, retentionState := .retained, error := none, requestFingerprint := "g" }

/-- Two tasks refer to an artifact, which one of them is about to publish. -/
def publishingState : RuntimeState where
  tasks := removingState.tasks.insert runningRecord.taskId runningRecord
  artifacts := AList.singleton sampleArtifactKey ⟨"dev", sampleArtifactKey, ⟨"gs://b/p", "h", some 3⟩, .pending, none, 0⟩
  pendingPublications := AList.singleton sampleArtifactKey ⟨sampleArtifactKey, "h", [9]⟩

def failAll : RecordsUpdate (Unit × Bool) := fun now records =>
  .ok (records.map fun record =>
    { record with runnerStatus := .failed, error := some "prover failed", updatedAt := now }, (), true)

theorem failAll_progresses : failAll.Progresses := by
  intro now records records' output h after hAfter
  cases h
  obtain ⟨before, hBefore, rfl⟩ := List.mem_map.mp hAfter
  exact ⟨before, hBefore, rfl, fun _ => .inr rfl⟩

/-- The failure of all tasks of the artifact takes its owner away and invalidates it. -/
theorem sample_failure_keeps_the_state_valid :
    validateRuntimeState "dev" publishingState = .ok () ∧
    ∃ state', (RuntimeOperation.updateTasksAndInvalidateArtifact sampleArtifactKey failAll).apply "dev" 1
        publishingState = .ok state' ∧
      (state'.artifacts.lookup sampleArtifactKey).map (·.lifecycle) = some .invalidated ∧
      (state'.pendingPublications.lookup sampleArtifactKey).map (·.ownerIncarnations) = some [] ∧
      validateRuntimeState "dev" state' = .ok () := by
  have hState : validateRuntimeState "dev" publishingState = .ok () := by decide +kernel
  refine ⟨hState, _, rfl, by decide +kernel, by decide +kernel, ?_⟩
  exact (runtime_operations_keep_the_state_valid "dev" 1 (.updateTasksAndInvalidateArtifact sampleArtifactKey failAll)
    publishingState _ hState failAll_progresses rfl).1

end Sample

end Raiko2.Runtime
