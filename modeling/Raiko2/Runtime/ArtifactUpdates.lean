import Raiko2.Runtime.TaskUpdates

/-!
# Changes of artifacts and of publication intents

The closures of the operations that publish, activate, invalidate and remove proofs.
-/

namespace Raiko2.Runtime

open Lib

namespace RuntimeState

def putArtifact (state : RuntimeState) (key : ProofArtifactKey) (record : ProofArtifactRecord) : RuntimeState :=
  { state with artifacts := state.artifacts.insert key record }

def putPending (state : RuntimeState) (key : ProofArtifactKey) (pending : PendingProofPublicationRecord) :
    RuntimeState :=
  { state with pendingPublications := state.pendingPublications.insert key pending }

def liveIncarnations (state : RuntimeState) (key : ProofArtifactKey) : List Incarnation :=
  ((artifactTaskRecords state key).filter (·.runnerStatus.isLive)).map (·.incarnationId)

end RuntimeState

def proofArtifactRecord (environment : String) (registration : ProofArtifactRegistration)
    (lifecycle : ProofArtifactLifecycle) (now : Int64) : ProofArtifactRecord where
  environment := environment
  key := registration.key
  descriptor := registration.descriptor
  lifecycle := lifecycle
  invalidatedAt := if lifecycle = .invalidated then some now else none
  updatedAt := now

def ensureCanonicalArtifactRegistration (registration : ProofArtifactRegistration) : Except ErrorChain Unit :=
  ensure (registration.key.pipelineKey.supportsRoute registration.key.route)
    "proof artifact pipeline does not support its route"

def ProofArtifactRecord.invalidate (record : ProofArtifactRecord) (now : Int64) : ProofArtifactRecord :=
  { record with lifecycle := .invalidated, invalidatedAt := some (record.invalidatedAt.getD now), updatedAt := now }

section Publication

def registerPendingProofArtifactUpdate (record : ProofArtifactRecord) : Update ProofArtifactLifecycle := fun now state =>
  let insert : RuntimeState × ProofArtifactLifecycle :=
    let hasOwner := pendingPublicationHasLiveOwner state record.key
    let next := { record with
      lifecycle := if hasOwner then .pending else .invalidated
      invalidatedAt := if hasOwner then none else some now }
    (state.putArtifact record.key next, next.lifecycle)
  match state.artifacts.lookup record.key with
  | some existing =>
    if existing.descriptor ≠ record.descriptor then .ok (state, .invalidated)
    else if existing.lifecycle = .invalidated then .ok (state, .invalidated)
    else .ok insert
  | none => .ok insert

def registerInvalidatedProofArtifactUpdate (record : ProofArtifactRecord) : Update Unit := fun now state =>
  match state.artifacts.lookup record.key with
  | some existing =>
    if existing.descriptor ≠ record.descriptor then .ok (state, ())
    else .ok (state.putArtifact record.key (existing.invalidate now), ())
  | none => .ok (state.putArtifact record.key record, ())

def recordPendingProofPublicationIntentUpdate (record : PendingProofPublicationRecord) : Update Bool := fun _ state =>
  let liveIncarnations := state.liveIncarnations record.key
  let owners := record.ownerIncarnations.filter (liveIncarnations.contains ·)
  if owners.isEmpty then .ok (state, false)
  else do
    let current := state.pendingPublications.lookup record.key
    let differentLiveIntent := current.any fun pending =>
      pending.contentHash ≠ record.contentHash && pending.ownerIncarnations.any (liveIncarnations.contains ·)
    ensure (!differentLiveIntent) "different pending proof is owned by another task incarnation"
    let kept := match current with
      | some pending =>
        if pending.contentHash = record.contentHash then
          pending.ownerIncarnations.filter (liveIncarnations.contains ·)
        else []
      | none => []
    let owners := ((owners ++ kept).insertionSort (· ≤ ·)).dedup
    return (state.putPending record.key { record with ownerIncarnations := owners }, true)

def removePendingProofPublicationUpdate (key : ProofArtifactKey) : Update Bool := fun _ state =>
  if pendingPublicationHasLiveOwner state key then .ok (state, false)
  else
    .ok ({ state with pendingPublications := state.pendingPublications.erase key },
      (state.pendingPublications.lookup key).isSome)

def releasePendingProofPublicationOwnerUpdate (key : ProofArtifactKey) (owner : Incarnation) : Update Bool :=
  fun _ state =>
    match state.pendingPublications.lookup key with
    | none => .ok (state, false)
    | some pending =>
      let pending := { pending with ownerIncarnations := pending.ownerIncarnations.filter (· ≠ owner) }
      .ok (state.putPending key pending, true)

end Publication

section Activation

/-- The update may leave everything as it is by giving no output. The tasks are found by a reference of their own. -/
def activateProofArtifactUpdate {T : Type} (taskRef : TaskRef) (key : ProofArtifactKey)
    (descriptor : ProofArtifactDescriptor) (ownerIncarnations : List Incarnation) (update : RecordsUpdate (Option T)) :
    Update (Option T) := fun now state =>
  match state.pendingPublications.lookup key with
  | none => .error ["pending proof publication ownership is missing"]
  | some pending =>
    match state.artifacts.lookup key with
    | none => .error ["proof artifact lifecycle registration is missing"]
    | some artifact => do
      ensure (artifact.descriptor = descriptor) "proof artifact lifecycle descriptor changed before activation"
      ensure (artifact.lifecycle ≠ .invalidated) "proof artifact lifecycle was invalidated before activation"
      ensure (artifact.lifecycle = .active || pending.contentHash = descriptor.contentHash)
        "pending proof publication content changed before activation"
      let consumers := { key with proofRef := taskRef }
      let activeIncarnations := state.liveIncarnations consumers
      if !ownerIncarnations.any (activeIncarnations.contains ·) then return (state, none)
      ensure (ownerIncarnations.all (activeIncarnations.contains ·))
        "proof publication activation includes a stale runtime owner"
      match ← update now (sortRecords (artifactTaskRecords state consumers)) with
      | (_, none) => return (state, none)
      | (records, some output) =>
        let active := { artifact with lifecycle := .active, invalidatedAt := none, updatedAt := now }
        return (((state.putTasks records).putArtifact key active).putPending key
          { pending with ownerIncarnations := [] }, some output)

/-- The update says whether the artifact is to be invalidated; a live task prevents that. -/
def updateTasksAndInvalidateUpdate {T : Type} (key : ProofArtifactKey) (update : RecordsUpdate (T × Bool)) :
    Update (T × Bool × Option ProofArtifactDescriptor) := fun now state => do
  let (records, output, requestedInvalidation) ← update now (sortRecords (artifactTaskRecords state key))
  let state := state.putTasks records
  let liveIncarnations := state.liveIncarnations key
  let release (pending : PendingProofPublicationRecord) :=
    { pending with ownerIncarnations := pending.ownerIncarnations.filter (liveIncarnations.contains ·) }
  let state := { state with pendingPublications := state.pendingPublications.modify key release }
  if requestedInvalidation && liveIncarnations.isEmpty then
    match state.artifacts.lookup key with
    | none => return (state, output, true, none)
    | some artifact =>
      if artifact.lifecycle = .invalidated then return (state, output, true, some artifact.descriptor)
      else return (state.putArtifact key (artifact.invalidate now), output, true, some artifact.descriptor)
  else return (state, output, false, none)

def removeProofArtifactIfDescriptorUpdate (key : ProofArtifactKey) (descriptor : ProofArtifactDescriptor) : Update Bool :=
  fun _ state =>
    if (state.artifacts.lookup key).map (·.descriptor) = some descriptor then
      .ok ({ state with artifacts := state.artifacts.erase key }, true)
    else .ok (state, false)

end Activation

section Invalidation

/-- A publication intent without a live owner, and the published object that was found: `none` when there is a reason
to leave them, otherwise whether the object is to be deleted. -/
def markUnownedPendingPublicationInvalidated (key : ProofArtifactKey) (canonicalRecord : Option ProofArtifactRecord) :
    Update (Option Bool) := fun now state =>
  if pendingPublicationHasLiveOwner state key then .ok (state, none)
  else
    let hasLiveTask := (artifactTaskRecords state key).any (·.runnerStatus.isLive)
    let pending := state.pendingPublications.lookup key
    let artifact := state.artifacts.lookup key
    let canonicalDescriptor := canonicalRecord.map (·.descriptor)
    let canonicalHasLifecycle (lifecycle : ProofArtifactLifecycle) :=
      artifact.any fun record => canonicalDescriptor = some record.descriptor && record.lifecycle = lifecycle
    if hasLiveTask && (pending.isNone || canonicalHasLifecycle .active) then .ok (state, none)
    else
      let pendingMatchesCanonical := pending.any fun pending =>
        canonicalDescriptor.any fun descriptor => pending.contentHash = descriptor.contentHash
      let invalidateCanonical := canonicalRecord.isSome
        && (canonicalHasLifecycle .invalidated || pendingMatchesCanonical || !hasLiveTask)
      match canonicalRecord with
      | some canonicalRecord =>
        if invalidateCanonical then
          match artifact with
          | none => .ok (state.putArtifact key canonicalRecord, some true)
          | some record =>
            if record.descriptor = canonicalRecord.descriptor then
              .ok (state.putArtifact key (record.invalidate now), some true)
            -- A record of another object is left alone, and the object is still to be deleted.
            else .ok (state, some true)
        else .ok (state, some false)
      | none => .ok (state, some false)

def preparePendingCanonicalUpdate (expectation : PendingPublicationExpectation) (canonicalRecord : ProofArtifactRecord) :
    Update (Option ArtifactExpectation) := fun _ state =>
  match state.pendingPublications.lookup expectation.key with
  | none => .ok (state, none)
  | some currentPending => do
    ensure (currentPending.expectation = expectation)
      "pending proof publication changed before canonical cleanup admission"
    ensure (!pendingPublicationHasRetentionOwner state expectation.key)
      "pending proof publication gained a retained owner before canonical cleanup admission"
    match state.artifacts.lookup expectation.key with
    | some current =>
      if current.descriptor = canonicalRecord.descriptor then
        if current.lifecycle ≠ .invalidated then return (state, none)
        else return (state, some current.expectation)
      else return (state, none)
    | none => return (state.putArtifact expectation.key canonicalRecord, some canonicalRecord.expectation)

end Invalidation

section Retention

structure ArtifactRetentionPrepare where
  artifactInvalidations : List ArtifactExpectation := []
  newlyInvalidatedArtifacts : Nat := 0
  skippedArtifacts : Nat := 0

/-- One artifact of a retention batch. The owners are those of the state before the batch. -/
def prepareArtifactRetention (ownership : List ProofArtifactKey) (invalidatedAt : Int64)
    (prepared : RuntimeState × ArtifactRetentionPrepare) (expected : ProofArtifactRecord) :
    RuntimeState × ArtifactRetentionPrepare :=
  let (state, batch) := prepared
  match state.artifacts.lookup expected.key with
  | none => (state, { batch with skippedArtifacts := batch.skippedArtifacts + 1 })
  | some current =>
    if current = expected ∧ artifactIsReclaimableForRetention expected.key current ownership = true then
      if current.lifecycle ≠ .invalidated then
        let artifact := { current with
          lifecycle := .invalidated, invalidatedAt := some invalidatedAt, updatedAt := invalidatedAt }
        (state.putArtifact expected.key artifact, { batch with
          newlyInvalidatedArtifacts := batch.newlyInvalidatedArtifacts + 1
          artifactInvalidations := batch.artifactInvalidations ++ [artifact.expectation] })
      else (state, { batch with artifactInvalidations := batch.artifactInvalidations ++ [current.expectation] })
    else (state, { batch with skippedArtifacts := batch.skippedArtifacts + 1 })

def prepareArtifactRetentionUpdate (expectedArtifacts : List ProofArtifactRecord) (invalidatedAt : Int64) :
    Update ArtifactRetentionPrepare := fun _ state =>
  .ok (expectedArtifacts.foldl
    (prepareArtifactRetention (RetentionOwnershipIndex.fromState state) invalidatedAt) (state, {}))

structure TerminalTaskRetentionFinalize where
  removedTasks : List TaskLifetime := []
  removedArtifacts : List ArtifactExpectation := []
  removedPendingPublications : List PendingPublicationExpectation := []
  skippedTasks : Nat := 0
  skippedArtifacts : Nat := 0
  skippedPendingPublications : Nat := 0

def validateTerminalRetentionFinalization (retiredTasks : List RuntimeTaskRecord)
    (finalizedArtifacts : List ArtifactExpectation) (finalizedPending : List PendingPublicationExpectation) :
    Except ErrorChain Unit := do
  ensure (retiredTasks.map (·.taskId)).Nodup "terminal task retention finalization contains duplicate task ids"
  ensure (retiredTasks.all fun task => task.runnerStatus.isTerminal && task.retentionState = .removing)
    "terminal task retention finalization requires retired tasks"
  ensure (finalizedArtifacts.map (·.key)).Nodup "terminal task retention finalization contains duplicate artifacts"
  ensure (finalizedArtifacts.all (·.lifecycle = .invalidated))
    "terminal task retention finalization requires invalidated artifacts"
  ensure (finalizedPending.map (·.key)).Nodup
    "terminal task retention finalization contains duplicate pending publications"

def finalizeTerminalPendingPublication (ownership : List ProofArtifactKey)
    (finalized : RuntimeState × TerminalTaskRetentionFinalize) (expected : PendingPublicationExpectation) :
    RuntimeState × TerminalTaskRetentionFinalize :=
  let (state, batch) := finalized
  let removed := { batch with removedPendingPublications := batch.removedPendingPublications ++ [expected] }
  match state.pendingPublications.lookup expected.key with
  | none => (state, removed)
  | some current =>
    if current.expectation ≠ expected ∨ RetentionOwnershipIndex.hasArtifactOwner expected.key ownership = true then
      (state, { batch with skippedPendingPublications := batch.skippedPendingPublications + 1 })
    else ({ state with pendingPublications := state.pendingPublications.erase expected.key }, removed)

def finalizeTerminalTask (finalized : RuntimeState × TerminalTaskRetentionFinalize × List Incarnation)
    (expected : RuntimeTaskRecord) : RuntimeState × TerminalTaskRetentionFinalize × List Incarnation :=
  let (state, batch, removedIncarnations) := finalized
  if state.tasks.lookup expected.taskId = some expected then
    ({ state with tasks := state.tasks.erase expected.taskId },
      { batch with removedTasks := batch.removedTasks ++ [expected.lifetime] },
      expected.incarnationId :: removedIncarnations)
  else (state, { batch with skippedTasks := batch.skippedTasks + 1 }, removedIncarnations)

def finalizeTerminalArtifact (finalized : RuntimeState × TerminalTaskRetentionFinalize)
    (expected : ArtifactExpectation) : RuntimeState × TerminalTaskRetentionFinalize :=
  let (state, batch) := finalized
  if (state.artifacts.lookup expected.key).map (·.expectation) = some expected then
    ({ state with artifacts := state.artifacts.erase expected.key },
      { batch with removedArtifacts := batch.removedArtifacts ++ [expected] })
  else (state, { batch with skippedArtifacts := batch.skippedArtifacts + 1 })

/-- Publication intents first, under the owners of the state before; then tasks; then artifacts. -/
def finalizeTerminalTaskRetentionUpdate (retiredTasks : List RuntimeTaskRecord)
    (finalizedArtifacts : List ArtifactExpectation) (finalizedPending : List PendingPublicationExpectation) :
    Update TerminalTaskRetentionFinalize := fun _ state =>
  let (state, batch) := finalizedPending.foldl
    (finalizeTerminalPendingPublication (RetentionOwnershipIndex.fromState state)) (state, {})
  let (state, batch, removedIncarnations) := retiredTasks.foldl finalizeTerminalTask (state, batch, [])
  let state := if removedIncarnations.isEmpty then state else state.withoutOwners (removedIncarnations.contains ·)
  .ok (finalizedArtifacts.foldl finalizeTerminalArtifact (state, batch))

end Retention

section Cases

variable {now : Int64} {state state' : RuntimeState} {key : ProofArtifactKey}

theorem activateProofArtifactUpdate_cases {T : Type} {taskRef : TaskRef} {descriptor : ProofArtifactDescriptor}
    {ownerIncarnations : List Incarnation} {update : RecordsUpdate (Option T)}
    (h : (activateProofArtifactUpdate taskRef key descriptor ownerIncarnations update).state now state = .ok state') :
    state' = state ∨ ∃ pending artifact records output, state.pendingPublications.lookup key = some pending ∧
      state.artifacts.lookup key = some artifact ∧
      update now (sortRecords (artifactTaskRecords state { key with proofRef := taskRef })) = .ok (records, output) ∧
      state' = ((state.putTasks records).putArtifact key { artifact with
        lifecycle := .active, invalidatedAt := none, updatedAt := now }).putPending key
          { pending with ownerIncarnations := [] } := by
  apply Leads.of_state ?_ h
  unfold activateProofArtifactUpdate
  split
  · trivial
  · rename_i pending hPending
    split
    · trivial
    · rename_i artifact hArtifact
      refine Leads.bind fun _ _ => Leads.bind fun _ _ => Leads.bind fun _ _ => ?_
      dsimp only
      split
      · exact .inl rfl
      · refine Leads.bind fun _ _ => Leads.bind ?_
        rintro ⟨records, result⟩ hRun
        cases result with
        | none => exact .inl rfl
        | some result => exact .inr ⟨pending, artifact, records, some result, hPending, hArtifact, hRun, rfl⟩

def RuntimeState.releaseDeadOwners (state : RuntimeState) (key : ProofArtifactKey) : RuntimeState :=
  { state with pendingPublications := state.pendingPublications.modify key fun pending =>
    { pending with ownerIncarnations := pending.ownerIncarnations.filter ((state.liveIncarnations key).contains ·) } }

theorem updateTasksAndInvalidateUpdate_cases {T : Type} {update : RecordsUpdate (T × Bool)}
    (h : (updateTasksAndInvalidateUpdate key update).state now state = .ok state') :
    ∃ records output, update now (sortRecords (artifactTaskRecords state key)) = .ok (records, output) ∧
      (state' = (state.putTasks records).releaseDeadOwners key ∨
        ∃ artifact, ((state.putTasks records).releaseDeadOwners key).artifacts.lookup key = some artifact ∧
          state' = ((state.putTasks records).releaseDeadOwners key).putArtifact key (artifact.invalidate now)) := by
  apply Leads.of_state (Leads.bind ?_) h
  rintro ⟨records, result, requested⟩ hRun
  dsimp only
  split
  · split
    · exact ⟨records, _, hRun, .inl rfl⟩
    · rename_i artifact hArtifact
      split
      · exact ⟨records, _, hRun, .inl rfl⟩
      · exact ⟨records, _, hRun, .inr ⟨artifact, hArtifact, rfl⟩⟩
  · exact ⟨records, _, hRun, .inl rfl⟩

end Cases

end Raiko2.Runtime
