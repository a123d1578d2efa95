import Raiko2.Server.ObserverUpdates

/-!
# The status of a root only moves forward

Everything the server does to root tasks, as operations on the runtime state. A cancelled root stays cancelled, a
completed one can only be cancelled and keeps its proof until then, a failed one is reopened by recovery alone. An
operation that was given a lifetime or a snapshot does nothing once the stored task is another one.
-/

namespace Raiko2.Server

open Lib Raiko2.Engine Raiko2.Runtime

structure Advances (before after : RuntimeTaskRecord) : Prop where
  cancelled : before.runnerStatus = .cancelled →
    after.runnerStatus = .cancelled ∧ after.proofUri = before.proofUri
  completed : before.runnerStatus = .completed → after.runnerStatus = .completed ∨ after.runnerStatus = .cancelled
  proofUri : ∀ uri, before.runnerStatus = .completed → before.proofUri = some uri →
    (after.runnerStatus = .completed ∧ after.proofUri = some uri) ∨
    (after.runnerStatus = .cancelled ∧ after.proofUri = none)

namespace Advances

variable {a b c : RuntimeTaskRecord}

theorem refl (a : RuntimeTaskRecord) : Advances a a :=
  ⟨fun h => ⟨h, rfl⟩, .inl, fun _ h hUri => .inl ⟨h, hUri⟩⟩

theorem trans (h : Advances a b) (h' : Advances b c) : Advances a c where
  cancelled hCancelled := by
    obtain ⟨hStatus, hUri⟩ := h.cancelled hCancelled
    obtain ⟨hStatus', hUri'⟩ := h'.cancelled hStatus
    exact ⟨hStatus', hUri'.trans hUri⟩
  completed hCompleted := by
    rcases h.completed hCompleted with hStatus | hStatus
    · exact h'.completed hStatus
    · exact .inr (h'.cancelled hStatus).1
  proofUri uri hCompleted hUri := by
    rcases h.proofUri uri hCompleted hUri with ⟨hStatus, hUri⟩ | ⟨hStatus, hUri⟩
    · exact h'.proofUri uri hStatus hUri
    · obtain ⟨hStatus', hUri'⟩ := h'.cancelled hStatus
      exact .inr ⟨hStatus', hUri'.trans hUri⟩

theorem of_nonterminal (h : a.runnerStatus.isTerminal = false) : Advances a b where
  cancelled hCancelled := by rw [hCancelled] at h; cases h
  completed hCompleted := by rw [hCompleted] at h; cases h
  proofUri _ hCompleted := by rw [hCompleted] at h; cases h

theorem of_cancelled (h : a.runnerStatus ≠ .cancelled) (hStatus : b.runnerStatus = .cancelled)
    (hUri : b.proofUri = none) : Advances a b where
  cancelled hCancelled := absurd hCancelled h
  completed _ := .inr hStatus
  proofUri _ _ _ := .inr ⟨hStatus, hUri⟩

end Advances

/-- What the observer does to one record, on behalf of some owners. -/
structure ObserverStep (owners : List Incarnation) (before after : RuntimeTaskRecord) : Prop where
  owned : before.incarnationId ∉ owners → after = before
  progress : before.ProgressOf after
  advances : Advances before after
  failed : before.runnerStatus = .failed → after.runnerStatus = .failed
  removable : before.Removable → after.Removable

namespace ObserverStep

variable {owners : List Incarnation} {before after : RuntimeTaskRecord}

theorem refl (owners : List Incarnation) (record : RuntimeTaskRecord) : ObserverStep owners record record :=
  ⟨fun _ => rfl, rfl, .refl record, id, id⟩

theorem of_nonterminal (hOwned : before.incarnationId ∉ owners → after = before)
    (h : before.runnerStatus.isTerminal = false) (hProgress : before.ProgressOf after) :
    ObserverStep owners before after where
  owned := hOwned
  progress := hProgress
  advances := .of_nonterminal h
  failed hFailed := by rw [hFailed] at h; cases h
  removable hRemovable := by
    have hRetained : after.retentionState = before.retentionState := by rw [hProgress]
    rcases hRemovable with hRemovable | hRemovable
    · exact .inl (hRetained.trans hRemovable)
    · rw [h] at hRemovable
      cases hRemovable

end ObserverStep

section Observer

variable {Proof : Type} {encoding : Encoding} {observer : RuntimeEngineObserver} {id : EngineTaskKey}
  {now observedAtMs : Int64} {before after : RuntimeTaskRecord}

theorem updateTaskMetadata_cases {mutator : TaskMetadata → Except ErrorChain TaskMetadata}
    (h : updateTaskMetadata encoding before mutator = .ok after) :
    ∃ metadata, after = { before with metadata := metadata } := by
  obtain ⟨decoded, -, h⟩ := except_bind_eq_ok_iff.mp h
  obtain ⟨metadata, -, h⟩ := except_bind_eq_ok_iff.mp h
  obtain ⟨-, -, h⟩ := except_bind_eq_ok_iff.mp h
  exact ⟨encoding.render metadata, (Except.ok.inj h).symm⟩

def ProgressMutator (mutator : RecordMutator) : Prop :=
  ∀ now before applied after, mutator now before = .ok (applied, after) → before.ProgressOf after

theorem progressMutator_edit (set : RuntimeTaskRecord → RuntimeTaskRecord)
    (edit : TaskMetadata → Except ErrorChain TaskMetadata)
    (hSet : ∀ record : RuntimeTaskRecord, record.ProgressOf (set record)) :
    ProgressMutator fun now record => do
      let record ← updateTaskMetadata encoding (set record) edit
      return (true, { record with updatedAt := now }) := by
  intro now before applied after h
  obtain ⟨record, hRecord, h⟩ := except_bind_eq_ok_iff.mp h
  obtain ⟨metadata, rfl⟩ := updateTaskMetadata_cases hRecord
  cases h
  rw [RuntimeTaskRecord.ProgressOf, hSet before]

variable (task : EngineTask Proof)

theorem progressMutator_started (worker : String) :
    ProgressMutator (startedMutator encoding id task worker observedAtMs) :=
  progressMutator_edit _ _ fun _ => rfl

theorem progressMutator_progress (progress : Sp1NetworkSubmissionProgress) :
    ProgressMutator (progressMutator encoding id task progress) := by
  intro now before applied after h
  obtain ⟨record, hRecord, h⟩ := except_bind_eq_ok_iff.mp h
  cases hUpdate : updateTaskMetadata encoding before fun metadata => do
      let metadata ← mergeProgress encoding id task progress now metadata
      return metadata.withEvent (some (observedStageName task)) "submission_registered" with
  | error error =>
    rw [hUpdate] at hRecord
    cases hRecord
  | ok updated =>
    rw [hUpdate] at hRecord
    obtain ⟨metadata, rfl⟩ := updateTaskMetadata_cases hUpdate
    cases hRecord
    cases h
    rfl

theorem progressMutator_stageSucceeded (stage : PipelineStage) :
    ProgressMutator (stageSucceededMutator encoding id task stage observedAtMs) :=
  progressMutator_edit _ _ fun _ => rfl

theorem progressMutator_failed (error : String) :
    ProgressMutator (failedMutator encoding id task error observedAtMs) :=
  progressMutator_edit _ _ fun _ => rfl

theorem progressMutator_publicationFailed (stage message : String) (owners : List Incarnation) :
    ProgressMutator (publicationFailedMutator encoding id stage message owners observedAtMs) := by
  intro now before applied after h
  unfold publicationFailedMutator at h
  split at h
  · cases h
    rfl
  · exact progressMutator_edit (fun record => { record with
      runnerStatus := .allocated, proofUri := none, error := some message }) _ (fun _ => rfl) now before applied after h

def OwnedMutator (owners : List Incarnation) (mutator : RecordMutator) : Prop :=
  ∀ now before applied after, mutator now before = .ok (applied, after) → before.incarnationId ∉ owners →
    applied = false ∧ after = before

theorem ownedMutator_publicationFailed (stage message : String) (owners : List Incarnation) :
    OwnedMutator owners (publicationFailedMutator encoding id stage message owners observedAtMs) := by
  intro now before applied after h hOther
  unfold publicationFailedMutator at h
  rw [if_pos (by simpa using hOther)] at h
  cases h
  exact ⟨rfl, rfl⟩

variable {owners : List Incarnation}

theorem updateRootRecord_step {mutator : RecordMutator} (hMutator : ProgressMutator mutator)
    {filter : Option (List Incarnation)} (hOwners : filter = some owners ∨ OwnedMutator owners mutator)
    {checkpoint applied : Bool}
    (h : updateRootRecord encoding observer id .exclude mutator filter checkpoint now before = .ok (applied, after)) :
    ObserverStep owners before after := by
  unfold updateRootRecord at h
  split at h
  · cases h
    exact .refl owners before
  · rename_i hGuard
    rw [Bool.not_eq_true, Bool.or_eq_false_iff] at hGuard
    have hNonterminal : before.runnerStatus.isTerminal = false := by
      cases hTerminal : before.runnerStatus.isTerminal with
      | false => rfl
      | true => simp [hTerminal, TerminalRootPolicy.admits] at hGuard
    obtain ⟨matched, -, h⟩ := except_bind_eq_ok_iff.mp h
    cases matched with
    | false =>
      cases h
      exact .refl owners before
    | true =>
      obtain ⟨⟨flag, record⟩, hMutated, h⟩ := except_bind_eq_ok_iff.mp h
      have hOwned : before.incarnationId ∉ owners → flag = false ∧ record = before := by
        intro hOther
        rcases hOwners with rfl | hOwners
        · simp [hOther] at hGuard
        · exact hOwners now before flag record hMutated hOther
      have hProgress := hMutator now before flag record hMutated
      cases flag with
      | false =>
        cases h
        exact .of_nonterminal (fun hOther => (hOwned hOther).2) hNonterminal hProgress
      | true =>
        cases h
        refine .of_nonterminal (fun hOther => nomatch (hOwned hOther).1) hNonterminal ?_
        rw [RuntimeTaskRecord.ProgressOf, hProgress]

theorem skipsPublication_eq_false (h : skipsPublication encoding observer id owners before = .ok false) :
    before.incarnationId ∈ owners ∧
      (before.runnerStatus.isTerminal = false ∨ before.runnerStatus = .completed) := by
  unfold skipsPublication at h
  split at h
  · cases h
  · rename_i hOwner
    refine ⟨by simpa using hOwner, ?_⟩
    obtain ⟨matched, -, h⟩ := except_bind_eq_ok_iff.mp h
    cases matched with
    | false => cases h
    | true =>
      cases hStatus : before.runnerStatus <;> simp [hStatus, RunnerStatus.isTerminal, pure, Except.pure] at h ⊢

theorem invalidateRecord_step {stage message : String} {publication : Option PublishedProofCommit}
    {vote : InvalidationVote}
    (h : invalidateRecord encoding observer id stage message publication owners observedAtMs now before =
      .ok (vote, after)) : ObserverStep owners before after := by
  obtain ⟨skips, hSkips, h⟩ := except_bind_eq_ok_iff.mp h
  cases skips with
  | true =>
    cases h
    exact .refl owners before
  | false =>
    obtain ⟨hOwner, hStatus⟩ := skipsPublication_eq_false hSkips
    dsimp only at h
    split at h
    · cases h
      exact .refl owners before
    · obtain ⟨record, hRecord, h⟩ := except_bind_eq_ok_iff.mp h
      obtain ⟨metadata, rfl⟩ := updateTaskMetadata_cases hRecord
      cases h
      refine ⟨absurd hOwner, rfl, .of_cancelled ?_ rfl rfl, fun hFailed => ?_, fun _ => .inr rfl⟩
      · rintro hCancelled
        simp [hCancelled, RunnerStatus.isTerminal] at hStatus
      · simp [hFailed, RunnerStatus.isTerminal] at hStatus

theorem syncRecord_step {task : EngineTask Proof} {stage : String} {publication : PublishedProofCommit}
    {vote : SyncVote}
    (h : syncRecord encoding observer id task stage publication owners observedAtMs now before = .ok (vote, after)) :
    ObserverStep owners before after := by
  obtain ⟨skips, hSkips, h⟩ := except_bind_eq_ok_iff.mp h
  cases skips with
  | true =>
    cases h
    exact .refl owners before
  | false =>
    obtain ⟨decoded, -, h⟩ := except_bind_eq_ok_iff.mp h
    obtain ⟨hOwner, hStatus⟩ := skipsPublication_eq_false hSkips
    have hCleared : ObserverStep owners before { before with error := none } :=
      ⟨absurd hOwner, rfl, ⟨fun h => ⟨h, rfl⟩, .inl, fun _ h hUri => .inl ⟨h, hUri⟩⟩, fun h => h, fun h => h⟩
    dsimp only at h
    split at h
    · cases h
      exact hCleared
    · rename_i hInput
      split at h
      · cases h
        exact hCleared
      · split at h
        · cases h
          exact hCleared
        · rename_i hNoProof
          split at h
          · cases h
            rcases hStatus with hStatus | hStatus
            · exact .of_nonterminal (absurd hOwner) hStatus rfl
            · -- a completed root without a proof gets one
              refine ⟨absurd hOwner, rfl, ⟨fun hCancelled => ?_, fun _ => .inl rfl, fun uri _ hUri => ?_⟩, fun hFailed => ?_,
                fun _ => .inr rfl⟩
              · rw [hStatus] at hCancelled
                cases hCancelled
              · exact absurd ⟨hStatus, by rw [hUri]; rfl⟩ hNoProof
              · rw [hStatus] at hFailed
                cases hFailed
          · rename_i hIncomplete
            cases h
            rcases hStatus with hStatus | hStatus
            · exact .of_nonterminal (absurd hOwner) hStatus rfl
            · exact absurd ⟨hStatus, eq_false_of_ne_true hIncomplete⟩ hInput

end Observer

section Closures

variable {Proof : Type} (encoding : Encoding) (observer : RuntimeEngineObserver) (id : EngineTaskKey)

/-- Every record that an update gives is a step of the observer from one that it was given. -/
def Observes {T : Type} (owners : List Incarnation) (update : RecordsUpdate T) : Prop :=
  ∀ now records records' output, update now records = .ok (records', output) → ∀ after ∈ records',
    ∃ before ∈ records, ObserverStep owners before after

variable {owners : List Incarnation}

theorem Observes.progresses {T : Type} {update : RecordsUpdate T} (h : Observes owners update) :
    update.Progresses := by
  intro now records records' output hUpdate after hAfter
  obtain ⟨before, hBefore, hStep⟩ := h now records records' output hUpdate after hAfter
  exact ⟨before, hBefore, hStep.progress, hStep.removable⟩

theorem observerStep_of_mapM {V : Type} {f : RuntimeTaskRecord → Except ErrorChain (V × RuntimeTaskRecord)}
    (hStep : ∀ before vote after, f before = .ok (vote, after) → ObserverStep owners before after)
    {records : List RuntimeTaskRecord} {results : List (V × RuntimeTaskRecord)} (h : records.mapM f = .ok results) :
    ∀ after ∈ results.map Prod.snd, ∃ before ∈ records, ObserverStep owners before after := by
  intro after hAfter
  obtain ⟨⟨vote, _⟩, hResult, rfl⟩ := List.mem_map.mp hAfter
  obtain ⟨before, hBefore, hEq⟩ := except_mapM_mem h _ hResult
  exact ⟨before, hBefore, hStep before vote _ hEq⟩

theorem observes_updateRootRecords {mutator : RecordMutator} (hMutator : ProgressMutator mutator)
    {filter : Option (List Incarnation)} (hOwners : filter = some owners ∨ OwnedMutator owners mutator)
    (checkpoint : Bool) :
    Observes owners (updateRootRecords encoding observer id .exclude mutator filter checkpoint) := by
  intro now records records' output h
  unfold updateRootRecords at h
  split at h
  · cases h
  · obtain ⟨results, hResults, h⟩ := except_bind_eq_ok_iff.mp h
    cases h
    exact observerStep_of_mapM (fun _ _ _ => updateRootRecord_step hMutator hOwners) hResults

theorem observes_invalidatePublication (stage message : String) (publication : Option PublishedProofCommit)
    (owners : List Incarnation) (observedAtMs : Int64) :
    Observes owners (invalidatePublication encoding observer id stage message publication owners observedAtMs) := by
  intro now records records' output h
  obtain ⟨results, hResults, h⟩ := except_bind_eq_ok_iff.mp h
  cases h
  exact observerStep_of_mapM (fun _ _ _ => invalidateRecord_step) hResults

theorem observes_syncProofSuccess (task : EngineTask Proof) (stage : String) (publication : PublishedProofCommit)
    (owners : List Incarnation) (observedAtMs : Int64) :
    Observes owners (syncProofSuccess encoding observer id task stage publication owners observedAtMs) := by
  intro now records records' output h
  obtain ⟨results, hResults, h⟩ := except_bind_eq_ok_iff.mp h
  cases h
  exact observerStep_of_mapM (fun _ _ _ => syncRecord_step) hResults

def keepRecords : RecordsUpdate (Option Unit) := fun _ records => .ok (records, some ())

theorem observes_keepRecords (owners : List Incarnation) : Observes owners keepRecords := by
  intro now records records' output h after hAfter
  cases h
  exact ⟨after, hAfter, .refl owners after⟩

end Closures

section Operations

def isPlain : RuntimeOperation → Bool
  | .updateTasksByRef _ _ | .activateProofArtifactWithTasks _ _ _ _ | .updateTasksAndInvalidateArtifact _ _
  | .restoreTaskAfterRecoveryIfUnchanged _ _ => false
  | _ => true

def newIncarnation : RuntimeOperation → Option Incarnation
  | .registerTaskIfAbsent _ incarnationId _ _ => some incarnationId
  | .replaceTaskIfUnchanged _ _ incarnationId _ _ => some incarnationId
  | _ => none

def isRecovery : RuntimeOperation → Bool
  | .prepareTaskForRecoveryIfUnchanged _ => true
  | _ => false

/-- The operations that run a closure of the observer on records. -/
inductive ObserverOperation (owners : List Incarnation) : RuntimeOperation → Prop
  | byRef {T : Type} (taskRef : TaskRef) {update : RecordsUpdate T} (h : Observes owners update) :
      ObserverOperation owners (.updateTasksByRef taskRef update)
  | activate {T : Type} (taskRef : TaskRef) (registration : ProofArtifactRegistration)
      (ownerIncarnations : List Incarnation) {update : RecordsUpdate (Option T)} (h : Observes owners update) :
      ObserverOperation owners (.activateProofArtifactWithTasks taskRef registration ownerIncarnations update)
  | invalidate {T : Type} (key : ProofArtifactKey) {update : RecordsUpdate (T × Bool)} (h : Observes owners update) :
      ObserverOperation owners (.updateTasksAndInvalidateArtifact key update)

theorem ObserverOperation.admissible {owners : List Incarnation} {operation : RuntimeOperation}
    (h : ObserverOperation owners operation) (state : RuntimeState) : operation.Admissible state := by
  cases h <;> rename_i h <;> exact h.progresses

/-- What the server does to the runtime state. A rollback restores the record from which recovery prepared the stored
one. -/
inductive ServerOperation (Proof : Type) : Type 1 where
  | plain (operation : RuntimeOperation) (hPlain : isPlain operation = true)
  | restoreRecovery (original : RuntimeTaskRecord) (preparedAt : Int64)
  | taskStarted (observer : RuntimeEngineObserver) (id : EngineTaskKey) (task : EngineTask Proof) (worker : String)
    (owners : List Incarnation) (observedAtMs : Int64)
  | taskProgress (observer : RuntimeEngineObserver) (id : EngineTaskKey) (task : EngineTask Proof)
    (progress : Sp1NetworkSubmissionProgress) (owners : List Incarnation)
  | stageSucceeded (observer : RuntimeEngineObserver) (id : EngineTaskKey) (task : EngineTask Proof)
    (stage : PipelineStage) (owners : List Incarnation) (observedAtMs : Int64)
  | taskFailed (observer : RuntimeEngineObserver) (id : EngineTaskKey) (task : EngineTask Proof) (error : String)
    (owners : List Incarnation) (observedAtMs : Int64)
  | publicationFailed (observer : RuntimeEngineObserver) (id : EngineTaskKey) (stage message : String)
    (owners : List Incarnation) (observedAtMs : Int64)
  | publicationInvalidated (observer : RuntimeEngineObserver) (id : EngineTaskKey) (stage message : String)
    (publication : Option PublishedProofCommit) (owners : List Incarnation) (observedAtMs : Int64)
  | proofSucceeded (observer : RuntimeEngineObserver) (id : EngineTaskKey) (task : EngineTask Proof) (stage : String)
    (publication : PublishedProofCommit) (owners : List Incarnation) (observedAtMs : Int64)
  | activateInput (registration : ProofArtifactRegistration) (owner : Incarnation)

variable {Proof : Type} (encoding : Encoding)

def RuntimeEngineObserver.rootArtifact (observer : RuntimeEngineObserver) (id : EngineTaskKey) : ProofArtifactKey :=
  ⟨observer.networkPair, EngineTaskKey.pipelineKey id, observer.route, rootTaskRef encoding id⟩

namespace ServerOperation

def operation : ServerOperation Proof → RuntimeOperation
  | plain operation _ => operation
  | restoreRecovery original preparedAt =>
    .restoreTaskAfterRecoveryIfUnchanged (original.recovered preparedAt) original
  | taskStarted observer id task worker owners observedAtMs =>
    .updateTasksByRef (rootTaskRef encoding id) (updateRootRecords encoding observer id .exclude
      (startedMutator encoding id task worker observedAtMs) (some owners) false)
  | taskProgress observer id task progress owners =>
    .updateTasksByRef (rootTaskRef encoding id) (updateRootRecords encoding observer id .exclude
      (progressMutator encoding id task progress) (some owners) true)
  | stageSucceeded observer id task stage owners observedAtMs =>
    .updateTasksByRef (rootTaskRef encoding id) (updateRootRecords encoding observer id .exclude
      (stageSucceededMutator encoding id task stage observedAtMs) (some owners) false)
  | taskFailed observer id task error owners observedAtMs =>
    .updateTasksByRef (rootTaskRef encoding id) (updateRootRecords encoding observer id .exclude
      (failedMutator encoding id task error observedAtMs) (some owners) false)
  | publicationFailed observer id stage message owners observedAtMs =>
    .updateTasksByRef (rootTaskRef encoding id) (updateRootRecords encoding observer id .exclude
      (publicationFailedMutator encoding id stage message owners observedAtMs) none false)
  | publicationInvalidated observer id stage message publication owners observedAtMs =>
    .updateTasksAndInvalidateArtifact (observer.rootArtifact encoding id)
      (invalidatePublication encoding observer id stage message publication owners observedAtMs)
  | proofSucceeded observer id task stage publication owners observedAtMs =>
    .activateProofArtifactWithTasks (rootTaskRef encoding id)
      ⟨observer.rootArtifact encoding id, publication.descriptor⟩ owners
      (syncProofSuccess encoding observer id task stage publication owners observedAtMs)
  | activateInput registration owner =>
    .activateProofArtifactWithTasks registration.key.proofRef registration [owner] keepRecords

/-- The incarnations that an operation of the observer is for. -/
def owners : ServerOperation Proof → Option (List Incarnation)
  | plain _ _ | restoreRecovery _ _ => none
  | taskStarted _ _ _ _ owners _ | taskProgress _ _ _ _ owners | stageSucceeded _ _ _ _ owners _
  | taskFailed _ _ _ _ owners _ | publicationFailed _ _ _ _ owners _ | publicationInvalidated _ _ _ _ _ owners _
  | proofSucceeded _ _ _ _ _ owners _ => some owners
  | activateInput _ owner => some [owner]

variable {operation : ServerOperation Proof} {owners : List Incarnation}

theorem observed (hOwners : operation.owners = some owners) :
    ObserverOperation owners (operation.operation encoding) := by
  cases operation with
  | plain | restoreRecovery => cases hOwners
  | taskStarted observer id task worker owners observedAtMs =>
    cases hOwners
    exact .byRef _ (observes_updateRootRecords encoding observer id (progressMutator_started task worker) (.inl rfl) _)
  | taskProgress observer id task progress owners =>
    cases hOwners
    exact .byRef _ (observes_updateRootRecords encoding observer id (progressMutator_progress task progress) (.inl rfl) _)
  | stageSucceeded observer id task stage owners observedAtMs =>
    cases hOwners
    exact .byRef _
      (observes_updateRootRecords encoding observer id (progressMutator_stageSucceeded task stage) (.inl rfl) _)
  | taskFailed observer id task error owners observedAtMs =>
    cases hOwners
    exact .byRef _ (observes_updateRootRecords encoding observer id (progressMutator_failed task error) (.inl rfl) _)
  | publicationFailed observer id stage message owners observedAtMs =>
    cases hOwners
    exact .byRef _ (observes_updateRootRecords encoding observer id (progressMutator_publicationFailed stage message _)
      (.inr (ownedMutator_publicationFailed stage message _)) _)
  | publicationInvalidated observer id stage message publication owners observedAtMs =>
    cases hOwners
    exact .invalidate _ (observes_invalidatePublication encoding observer id stage message publication _ observedAtMs)
  | proofSucceeded observer id task stage publication owners observedAtMs =>
    cases hOwners
    exact .activate _ _ _ (observes_syncProofSuccess encoding observer id task stage publication _ observedAtMs)
  | activateInput registration owner =>
    cases hOwners
    exact .activate _ _ _ (observes_keepRecords [owner])

/-- Identifiers are not empty, incarnations are new to the run, and a rollback restores a record that was valid. -/
def Admitted (used : Incarnation → Prop) (state : RuntimeState) : ServerOperation Proof → Prop
  | plain operation _ =>
    operation.Admissible state ∧ ∀ incarnationId, newIncarnation operation = some incarnationId → ¬used incarnationId
  | restoreRecovery original _ => original.Removable
  | _ => True

theorem Admitted.admissible {used : Incarnation → Prop} {state : RuntimeState}
    (h : operation.Admitted used state) : (operation.operation encoding).Admissible state := by
  cases hOwners : operation.owners with
  | some owners => exact (observed encoding hOwners).admissible state
  | none =>
    cases operation with
    | plain operation hPlain => exact h.1
    | restoreRecovery original preparedAt => exact h
    | _ => cases hOwners

end ServerOperation

end Operations

end Raiko2.Server
