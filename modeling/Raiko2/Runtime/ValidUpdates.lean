import Mathlib.Data.List.Dedup
import Raiko2.Runtime.Validity

/-!
# Changes of a valid state

What the changes of tasks and artifacts make of a state that validation accepts. A change of artifacts and publication
intents keeps the tasks as well.
-/

namespace Raiko2.Runtime

open Lib List

/-- A record of which only status, error, proof, metadata and time were changed. -/
def RuntimeTaskRecord.ProgressOf (before after : RuntimeTaskRecord) : Prop :=
  after = { before with
    runnerStatus := after.runnerStatus, error := after.error, proofUri := after.proofUri
    metadata := after.metadata, updatedAt := after.updatedAt }

/-- An update of records that makes progress on each, and does not reopen a task that is being removed. -/
def RecordsUpdate.Progresses {T : Type} (update : RecordsUpdate T) : Prop :=
  ∀ now records records' output, update now records = .ok (records', output) → ∀ after ∈ records',
    ∃ before ∈ records, before.ProgressOf after ∧ (before.Removable → after.Removable)

def RuntimeState.Fresh (state : RuntimeState) (incarnationId : Incarnation) : Prop :=
  incarnationId ≠ 0 ∧ ∀ taskId task, state.tasks.lookup taskId = some task → task.incarnationId ≠ incarnationId

structure ProofArtifactDescriptor.NonEmpty (descriptor : ProofArtifactDescriptor) : Prop where
  proofUri : descriptor.proofUri ≠ ""
  contentHash : descriptor.contentHash ≠ ""

theorem RuntimeTaskRecord.ProgressOf.sameIdentity {before after : RuntimeTaskRecord} (h : before.ProgressOf after) :
    before.SameIdentity after := by
  rw [h]
  exact .set ..

theorem canonicalizePersistedRoute_of_supportsRoute {key : PipelineKey} {route : PipelineRoute}
    (h : key.supportsRoute route = true) : (key.canonicalizePersistedRoute route).isSome = true := by
  unfold PipelineKey.canonicalizePersistedRoute
  rw [if_pos h]
  rfl

theorem buildTaskRecord_valid {registration : TaskRegistration} {incarnationId : Incarnation} {createdAt : Int64}
    {record : RuntimeTaskRecord} (h : buildTaskRecord registration incarnationId createdAt = .ok record)
    (hIncarnation : incarnationId ≠ 0) : record.Valid ∧ record.incarnationId = incarnationId := by
  simp only [buildTaskRecord, except_bind_eq_ok_iff, ensure_eq_ok, exists_const, decide_eq_true_eq,
    all_eq_true] at h
  obtain ⟨hId, hKind, hRoute, hPair, hRefs, hNodup, hFingerprint, hRecord⟩ := h
  cases hRecord
  exact ⟨⟨hId, hIncarnation, canonicalizePersistedRoute_of_supportsRoute hRoute, hKind, hPair, hRefs, hNodup, .inl rfl,
    hFingerprint⟩, rfl⟩

structure ProofArtifactRecord.Identified (environment : String) (record : ProofArtifactRecord) : Prop where
  environment : record.environment = environment
  key : record.key.Valid
  descriptor : record.descriptor.NonEmpty

theorem ProofArtifactRegistration.keyValid {registration : ProofArtifactRegistration}
    (hRoute : ensureCanonicalArtifactRegistration registration = .ok ()) (hPair : registration.key.networkPair ≠ "")
    (hRef : registration.key.proofRef.name ≠ "") : registration.key.Valid :=
  ⟨canonicalizePersistedRoute_of_supportsRoute (ensure_eq_ok.mp hRoute), hPair, hRef⟩

theorem proofArtifactRecord_valid (environment : String) (registration : ProofArtifactRegistration)
    (hKey : registration.key.Valid) (hDescriptor : registration.descriptor.NonEmpty)
    (lifecycle : ProofArtifactLifecycle) (now : Int64) :
    (proofArtifactRecord environment registration lifecycle now).Valid environment where
  environment := rfl
  key := hKey
  proofUri := hDescriptor.proofUri
  contentHash := hDescriptor.contentHash
  invalidatedAt := by cases lifecycle <;> simp [proofArtifactRecord]

theorem ProofArtifactRecord.Valid.invalidate {environment : String} {record : ProofArtifactRecord}
    (h : record.Valid environment) (now : Int64) : (record.invalidate now).Valid environment where
  environment := h.environment
  key := h.key
  proofUri := h.proofUri
  contentHash := h.contentHash
  invalidatedAt := by simp [ProofArtifactRecord.invalidate]

theorem RuntimeTaskRecord.Valid.keyValid {task : RuntimeTaskRecord} (h : task.Valid) {key : ProofArtifactKey}
    (hMatch : taskMatchesArtifactIdentity task key = true) : key.Valid := by
  unfold taskMatchesArtifactIdentity at hMatch
  split at hMatch
  · cases hMatch
  · rename_i hIdentity
    simp only [Bool.or_eq_true, Bool.not_eq_true', decide_eq_true_eq, not_or, Bool.not_eq_false, not_ne_iff]
      at hIdentity hMatch
    obtain ⟨⟨hRef, hPipeline⟩, hRoute⟩ := hIdentity
    refine ⟨by rw [← hPipeline, ← hRoute]; exact h.route, by rw [← hMatch]; exact h.networkPair, ?_⟩
    simp only [taskReferences, Bool.or_eq_true, decide_eq_true_eq, any_eq_true] at hRef
    rcases hRef with hRef | ⟨artifactRef, hMem, hRef⟩
    · rw [← hRef]
      exact h.taskId
    · rw [← hRef]
      exact h.artifactRefs artifactRef hMem

theorem hasOwner_of_liveIncarnation {state : RuntimeState} {key : ProofArtifactKey} {owner : Incarnation}
    (h : (state.liveIncarnations key).contains owner = true) : state.HasOwner key owner := by
  rw [contains_eq_mem, decide_eq_true_eq] at h
  obtain ⟨task, hTask, rfl⟩ := mem_map.mp h
  obtain ⟨hMem, hMatch⟩ := mem_filter.mp (mem_filter.mp hTask).1
  obtain ⟨taskId, hLookup⟩ := Table.mem_values_iff.mp hMem
  exact ⟨taskId, task, hLookup, rfl, hMatch⟩

namespace RuntimeState.Valid

variable {environment : String} {state state' : RuntimeState} {now : Int64} {key : ProofArtifactKey}
  {preconditions : List ProofArtifactPrecondition} {finalized : RuntimeState × TerminalTaskRetentionFinalize}

section Tasks

variable (h : state.Valid environment)

include h

theorem withTask {taskId : TaskRef} {before after : RuntimeTaskRecord}
    (hBefore : state.tasks.lookup taskId = some before) (hSame : before.SameIdentity after)
    (hRemovable : after.Removable) : (state.withTask taskId after).Valid environment := by
  have hId : after.taskId = taskId := hSame.taskId.trans (h.taskKey hBefore)
  subst hId
  exact h.changeTask hBefore hSame hRemovable

theorem withoutTask {taskId : TaskRef} {current : RuntimeTaskRecord}
    (hCurrent : state.tasks.lookup taskId = some current) :
    (state.withoutTask taskId current.incarnationId).Valid environment := by
  refine h.removeTasks _ _ (fun other task hTask => (Table.lookup_erase_eq_some.mp hTask).2) fun other task hTask hGone =>
    Table.lookup_erase_eq_some.mpr ⟨?_, hTask⟩
  rintro rfl
  rw [hCurrent] at hTask
  cases hTask
  simp at hGone

theorem replaceTask {expected record : RuntimeTaskRecord} (hRecord : record.Valid)
    (hFresh : state.Fresh record.incarnationId)
    (hUpdate : (replaceTaskUpdate expected record preconditions).state now state = .ok state') :
    state'.Valid environment := by
  obtain rfl | ⟨hCurrent, hId, hFingerprint, rfl⟩ := replaceTaskUpdate_cases hUpdate
  · exact h
  · have hErased : ∀ taskId task,
        (state.withoutTask expected.taskId expected.incarnationId).tasks.lookup taskId = some task →
        taskId ≠ expected.taskId ∧ state.tasks.lookup taskId = some task :=
      fun _ _ hTask => Table.lookup_erase_eq_some.mp hTask
    -- the old task goes with its publications, and leaves room for the new one
    have hRemoved := h.withoutTask hCurrent
    refine hRemoved.addTask hRecord ?_ (fun taskId task hTask => hFresh.2 taskId task (hErased taskId task hTask).2)
      fun taskId task hTask hShared => ?_
    · rw [RuntimeState.withoutTask, RuntimeState.withoutOwners, Table.lookup_erase_ite, ite_eq_left_iff]
      exact fun hNe => hId.resolve_left hNe
    · have hTaskId := hFingerprint task (Table.mem_values_iff.mpr ⟨taskId, hTask⟩) hShared
      obtain ⟨hNe, hOld⟩ := hErased taskId task hTask
      rw [h.taskKey hOld] at hTaskId
      subst hTaskId
      -- the id of the new record is that of the old task, or was free
      rcases hId with hId | hId
      · exact hNe hId
      · rw [hOld] at hId
        cases hId

theorem restoreTask {prepared original : RuntimeTaskRecord}
    (hRollback : ensureRecoveryRollback prepared original = .ok ()) (hOriginal : original.Removable)
    (hUpdate : (restoreTaskUpdate prepared original).state now state = .ok state') : state'.Valid environment := by
  obtain rfl | ⟨hTask, rfl⟩ := restoreTaskUpdate_cases hUpdate
  · exact h
  · refine h.withTask hTask ?_ hOriginal
    simp only [ensureRecoveryRollback, except_bind_eq_ok_iff, ensure_eq_ok, exists_const, decide_eq_true_eq] at hRollback
    rw [← hRollback.2]
    exact .set ..

theorem putTasks {records : List RuntimeTaskRecord}
    (hRecords : ∀ after ∈ records, ∃ before, state.tasks.lookup after.taskId = some before ∧
      before.SameIdentity after ∧ after.Removable) : (state.putTasks records).Valid environment := by
  induction records generalizing state with
  | nil => exact h
  | cons after records ih =>
    obtain ⟨before, hBefore, hSame, hRemovable⟩ := hRecords after mem_cons_self
    refine ih (h.changeTask hBefore hSame hRemovable) fun other hOther => ?_
    obtain ⟨otherBefore, hOtherBefore, hOtherSame, hOtherRemovable⟩ := hRecords other (mem_cons_of_mem _ hOther)
    rw [RuntimeState.putTask, Table.lookup_insert_ite]
    split
    · rename_i hId
      -- the same task comes twice
      rw [hId, hBefore] at hOtherBefore
      cases hOtherBefore
      exact ⟨after, rfl, hSame.symm.trans hOtherSame, hOtherRemovable⟩
    · exact ⟨otherBefore, hOtherBefore, hOtherSame, hOtherRemovable⟩

theorem putProgress {T : Type} {update : RecordsUpdate T} (hUpdate : update.Progresses)
    {selected records : List RuntimeTaskRecord} {output : T} (hSelected : ∀ record ∈ selected, record ∈ state.tasks.values)
    (hRun : update now selected = .ok (records, output)) : (state.putTasks records).Valid environment := by
  refine h.putTasks fun after hAfter => ?_
  obtain ⟨before, hBefore, hProgress, hRemovable⟩ := hUpdate _ _ _ _ hRun after hAfter
  obtain ⟨taskId, hTask⟩ := Table.mem_values_iff.mp (hSelected before hBefore)
  refine ⟨before, ?_, hProgress.sameIdentity, hRemovable (h.task hTask).retentionState⟩
  rw [hProgress.sameIdentity.taskId, h.taskKey hTask]
  exact hTask

theorem updateTasksByRef {T : Type} {taskRef : TaskRef} {update : RecordsUpdate T} (hProgresses : update.Progresses) :
    Leads (RuntimeState.Valid environment) (updateTasksByRefUpdate taskRef update now state) := by
  refine Leads.bind fun result hRun => h.putProgress hProgresses (fun record hRecord => ?_) hRun
  exact (mem_filter.mp ((mem_insertionSort _).mp hRecord)).1

theorem prepareTerminalTaskRetention (expectedTasks : List RuntimeTaskRecord) :
    (Runtime.prepareTerminalTaskRetention state expectedTasks).1.Valid environment := by
  induction expectedTasks generalizing state with
  | nil => exact h
  | cons expected rest ih =>
    unfold Runtime.prepareTerminalTaskRetention
    split
    · exact ih h
    · rename_i current hCurrent
      split
      · exact ih h
      · rename_i hSame
        have hTerminal : current.runnerStatus.isTerminal = true := by
          simpa using (not_or.mp hSame).2
        exact ih (h.withTask hCurrent (.set ..) (.inr hTerminal))

end Tasks

section Artifacts

variable (environment) in
/-- The next state is valid, and its tasks are those of the state. -/
structure KeepsTasks (state state' : RuntimeState) : Prop where
  valid : state'.Valid environment
  tasks : state'.tasks = state.tasks

theorem KeepsTasks.trans {state'' : RuntimeState} (h : KeepsTasks environment state state')
    (h' : KeepsTasks environment state' state'') : KeepsTasks environment state state'' :=
  ⟨h'.valid, h'.tasks.trans h.tasks⟩

theorem KeepsTasks.foldl {α β : Type} {step : RuntimeState × β → α → RuntimeState × β}
    (hStep : ∀ current a, current.1.Valid environment → KeepsTasks environment current.1 (step current a).1)
    (h : state.Valid environment) (batch : β) (entries : List α) :
    KeepsTasks environment state (entries.foldl step (state, batch)).1 :=
  foldlRecOn (motive := fun current => KeepsTasks environment state current.1) entries step ⟨h, rfl⟩
    fun current hCurrent a _ => hCurrent.trans (hStep current a hCurrent.valid)

theorem mem_values_of_mem_artifactTaskRecords {record : RuntimeTaskRecord}
    (h : record ∈ sortRecords (artifactTaskRecords state key)) : record ∈ state.tasks.values :=
  (mem_filter.mp ((mem_insertionSort _).mp h)).1

theorem prepareArtifactRetention {prepared : RuntimeState × ArtifactRetentionPrepare}
    (h : prepared.1.Valid environment) (ownership : List ProofArtifactKey) (invalidatedAt : Int64)
    (expected : ProofArtifactRecord) :
    KeepsTasks environment prepared.1 (Runtime.prepareArtifactRetention ownership invalidatedAt prepared expected).1 := by
  obtain ⟨state, batch⟩ := prepared
  unfold Runtime.prepareArtifactRetention
  dsimp only
  split
  · exact ⟨h, rfl⟩
  · rename_i current hCurrent
    split
    · split
      · have hValid := h.artifact hCurrent
        have hKey := h.artifactKey hCurrent
        exact ⟨h.putArtifact hKey ⟨hValid.environment, hValid.key, hValid.proofUri, hValid.contentHash, by simp⟩, rfl⟩
      · exact ⟨h, rfl⟩
    · exact ⟨h, rfl⟩

variable (h : state.Valid environment)

include h

theorem invalidateArtifact {artifact : ProofArtifactRecord} (hArtifact : state.artifacts.lookup key = some artifact) :
    (state.putArtifact key (artifact.invalidate now)).Valid environment := by
  have hKey := h.artifactKey hArtifact
  exact h.putArtifact hKey ((h.artifact hArtifact).invalidate now)

theorem removeProofArtifact {descriptor : ProofArtifactDescriptor} :
    Leads (KeepsTasks environment state) (removeProofArtifactIfDescriptorUpdate key descriptor now state) := by
  unfold removeProofArtifactIfDescriptorUpdate
  split
  · exact ⟨h.eraseArtifact key, rfl⟩
  · exact ⟨h, rfl⟩

theorem registerPendingArtifact {record : ProofArtifactRecord} (hRecord : record.Identified environment) :
    Leads (KeepsTasks environment state) (registerPendingProofArtifactUpdate record now state) := by
  have hInsert : (state.putArtifact record.key { record with
      lifecycle := if pendingPublicationHasLiveOwner state record.key then .pending else .invalidated
      invalidatedAt := if pendingPublicationHasLiveOwner state record.key then none else some now }).Valid
        environment := by
    refine h.putArtifact rfl ⟨hRecord.environment, hRecord.key, hRecord.descriptor.proofUri,
      hRecord.descriptor.contentHash, ?_⟩
    cases pendingPublicationHasLiveOwner state record.key <;> simp
  unfold registerPendingProofArtifactUpdate
  dsimp only
  split
  · split
    · exact ⟨h, rfl⟩
    · split
      · exact ⟨h, rfl⟩
      · exact ⟨hInsert, rfl⟩
  · exact ⟨hInsert, rfl⟩

theorem registerInvalidatedArtifact {record : ProofArtifactRecord} (hRecord : record.Valid environment) :
    Leads (KeepsTasks environment state) (registerInvalidatedProofArtifactUpdate record now state) := by
  unfold registerInvalidatedProofArtifactUpdate
  split
  · rename_i existing hExisting
    split
    · exact ⟨h, rfl⟩
    · exact ⟨h.invalidateArtifact hExisting, rfl⟩
  · exact ⟨h.putArtifact rfl hRecord, rfl⟩

theorem recordPendingIntent {record : PendingProofPublicationRecord} (hContent : record.contentHash ≠ "") :
    Leads (KeepsTasks environment state) (recordPendingProofPublicationIntentUpdate record now state) := by
  unfold recordPendingProofPublicationIntentUpdate
  dsimp only
  split
  · exact ⟨h, rfl⟩
  · rename_i hOwners
    refine Leads.bind fun _ _ => ?_
    -- every owner is a live task, and the artifact takes its identity from one of them
    obtain ⟨first, hFirst⟩ := exists_mem_of_ne_nil _ (mt isEmpty_iff.mpr hOwners)
    obtain ⟨taskId, task, hTask, -, hMatch⟩ := hasOwner_of_liveIncarnation (mem_filter.mp hFirst).2
    refine ⟨h.putPending rfl ⟨(h.task hTask).keyValid hMatch, hContent, nodup_dedup _, fun owner hOwner => ?_⟩, rfl⟩
    rw [mem_dedup, mem_insertionSort, mem_append] at hOwner
    rcases hOwner with hOwner | hOwner
    · exact hasOwner_of_liveIncarnation (mem_filter.mp hOwner).2
    · split at hOwner
      · split at hOwner
        · exact hasOwner_of_liveIncarnation (mem_filter.mp hOwner).2
        · cases hOwner
      · cases hOwner

theorem releasePendingOwner {owner : Incarnation} :
    Leads (KeepsTasks environment state) (releasePendingProofPublicationOwnerUpdate key owner now state) := by
  unfold releasePendingProofPublicationOwnerUpdate
  split
  · exact ⟨h, rfl⟩
  · rename_i pending hPending
    have hKey := h.pendingKey hPending
    exact ⟨h.putPending hKey ((h.pending hPending).withOwners filter_sublist), rfl⟩

theorem removePending : Leads (KeepsTasks environment state) (removePendingProofPublicationUpdate key now state) := by
  unfold removePendingProofPublicationUpdate
  split
  · exact ⟨h, rfl⟩
  · exact ⟨h.erasePending key, rfl⟩

theorem activateArtifact {T : Type} {taskRef : TaskRef}
    {descriptor : ProofArtifactDescriptor} {ownerIncarnations : List Incarnation} {update : RecordsUpdate (Option T)}
    (hProgresses : update.Progresses)
    (hUpdate : (activateProofArtifactUpdate taskRef key descriptor ownerIncarnations update).state now state =
      .ok state') : state'.Valid environment := by
  obtain rfl | ⟨pending, artifact, records, output, hPending, hArtifact, hRun, rfl⟩ :=
    activateProofArtifactUpdate_cases hUpdate
  · exact h
  · have hTasks := h.putProgress hProgresses (fun _ => mem_values_of_mem_artifactTaskRecords) hRun
    have hValid := h.artifact hArtifact
    have hKey := h.artifactKey hArtifact
    have hPendingKey := h.pendingKey hPending
    have hActive : ((state.putTasks records).putArtifact key { artifact with
        lifecycle := .active, invalidatedAt := none, updatedAt := now }).Valid environment := hTasks.putArtifact hKey
      ⟨hValid.environment, hValid.key, hValid.proofUri, hValid.contentHash, by simp⟩
    refine hActive.putPending hPendingKey ?_
    exact ⟨(h.pending hPending).key, (h.pending hPending).contentHash, nodup_nil, nofun⟩

theorem releaseDeadOwners (key : ProofArtifactKey) : (state.releaseDeadOwners key).Valid environment := by
  rw [RuntimeState.releaseDeadOwners, Table.modify]
  split
  · rename_i pending hPending
    have hKey := h.pendingKey hPending
    exact h.putPending hKey ((h.pending hPending).withOwners filter_sublist)
  · exact h

theorem updateTasksAndInvalidate {T : Type} {update : RecordsUpdate (T × Bool)} (hProgresses : update.Progresses)
    (hUpdate : (updateTasksAndInvalidateUpdate key update).state now state = .ok state') :
    state'.Valid environment := by
  obtain ⟨records, output, hRun, hState⟩ := updateTasksAndInvalidateUpdate_cases hUpdate
  have hTasks := h.putProgress hProgresses (fun _ => mem_values_of_mem_artifactTaskRecords) hRun
  obtain rfl | ⟨artifact, hArtifact, rfl⟩ := hState
  · exact hTasks.releaseDeadOwners key
  · exact (hTasks.releaseDeadOwners key).invalidateArtifact hArtifact

theorem markInvalidated {canonicalRecord : Option ProofArtifactRecord}
    (hRecord : ∀ record, canonicalRecord = some record → record.key = key ∧ record.Valid environment) :
    Leads (KeepsTasks environment state) (markUnownedPendingPublicationInvalidated key canonicalRecord now state) := by
  unfold markUnownedPendingPublicationInvalidated
  dsimp only
  split
  · exact ⟨h, rfl⟩
  · split
    · exact ⟨h, rfl⟩
    · split
      · rename_i record _
        split
        · split
          · exact ⟨h.putArtifact (hRecord record rfl).1 (hRecord record rfl).2, rfl⟩
          · rename_i artifact hArtifact
            split
            · exact ⟨h.invalidateArtifact hArtifact, rfl⟩
            · exact ⟨h, rfl⟩
        · exact ⟨h, rfl⟩
      · exact ⟨h, rfl⟩

theorem preparePendingCanonical {expectation : PendingPublicationExpectation}
    {canonicalRecord : ProofArtifactRecord} (hKey : canonicalRecord.key = expectation.key)
    (hRecord : expectation.key.Valid → canonicalRecord.Valid environment) :
    Leads (KeepsTasks environment state) (preparePendingCanonicalUpdate expectation canonicalRecord now state) := by
  unfold preparePendingCanonicalUpdate
  split
  · exact ⟨h, rfl⟩
  · rename_i pending hPending
    refine Leads.bind fun _ _ => Leads.bind fun _ _ => ?_
    split
    · split
      · split <;> exact ⟨h, rfl⟩
      · exact ⟨h, rfl⟩
    · -- the intent that is there vouches for the identity of the object
      have hPendingKey := (h.pending hPending).key
      rw [h.pendingKey hPending] at hPendingKey
      exact ⟨h.putArtifact hKey (hRecord hPendingKey), rfl⟩

theorem prepareArtifactRetentionBatch {expectedArtifacts : List ProofArtifactRecord} {invalidatedAt : Int64} :
    Leads (KeepsTasks environment state) (prepareArtifactRetentionUpdate expectedArtifacts invalidatedAt now state) :=
  KeepsTasks.foldl (fun _ expected hPrepared => prepareArtifactRetention hPrepared _ _ expected) h {} expectedArtifacts

end Artifacts

section Finalization

theorem finalizePending (h : finalized.1.Valid environment) (ownership : List ProofArtifactKey)
    (expected : PendingPublicationExpectation) :
    KeepsTasks environment finalized.1 (finalizeTerminalPendingPublication ownership finalized expected).1 := by
  obtain ⟨state, batch⟩ := finalized
  unfold finalizeTerminalPendingPublication
  dsimp only
  split
  · exact ⟨h, rfl⟩
  · split
    · exact ⟨h, rfl⟩
    · exact ⟨h.erasePending expected.key, rfl⟩

theorem finalizeArtifact (h : finalized.1.Valid environment) (expected : ArtifactExpectation) :
    KeepsTasks environment finalized.1 (finalizeTerminalArtifact finalized expected).1 := by
  obtain ⟨state, batch⟩ := finalized
  unfold finalizeTerminalArtifact
  dsimp only
  split
  · exact ⟨h.eraseArtifact expected.key, rfl⟩
  · exact ⟨h, rfl⟩

/-- How far the pass over the retired tasks has come: only tasks were taken out, and their incarnations are noted. -/
structure TasksFinalized (state current : RuntimeState) (removed : List Incarnation) : Prop where
  rest : current = { state with tasks := current.tasks }
  old : ∀ taskId task, current.tasks.lookup taskId = some task → state.tasks.lookup taskId = some task
  kept : ∀ taskId task, state.tasks.lookup taskId = some task → removed.contains task.incarnationId = false →
    current.tasks.lookup taskId = some task
  none : removed = [] → current = state

theorem TasksFinalized.step {finalized : RuntimeState × TerminalTaskRetentionFinalize × List Incarnation}
    (h : TasksFinalized state finalized.1 finalized.2.2) (expected : RuntimeTaskRecord) :
    TasksFinalized state (finalizeTerminalTask finalized expected).1 (finalizeTerminalTask finalized expected).2.2 := by
  obtain ⟨current, batch, removed⟩ := finalized
  unfold finalizeTerminalTask
  dsimp only at h ⊢
  split
  · rename_i hExpected
    refine ⟨?_, fun taskId task hTask => ?_, fun taskId task hTask hKept => ?_, nofun⟩
    · exact congrArg (fun s : RuntimeState => { s with tasks := current.tasks.erase expected.taskId }) h.rest
    · exact h.old taskId task (Table.lookup_erase_eq_some.mp hTask).2
    · simp only [contains_cons, Bool.or_eq_false_iff, beq_eq_false_iff_ne] at hKept
      have hCurrent := h.kept taskId task hTask hKept.2
      refine Table.lookup_erase_eq_some.mpr ⟨?_, hCurrent⟩
      rintro rfl
      rw [hExpected] at hCurrent
      cases hCurrent
      exact hKept.1 rfl
  · exact h

theorem finalizeTerminalTaskRetention (h : state.Valid environment) {retiredTasks : List RuntimeTaskRecord}
    {finalizedArtifacts : List ArtifactExpectation} {finalizedPending : List PendingPublicationExpectation}
    (hUpdate : (finalizeTerminalTaskRetentionUpdate retiredTasks finalizedArtifacts finalizedPending).state now state =
      .ok state') :
    state'.Valid environment ∧
      ∀ taskId task, state'.tasks.lookup taskId = some task → state.tasks.lookup taskId = some task := by
  obtain ⟨output, hUpdate⟩ := Update.state_eq_ok_iff.mp hUpdate
  unfold finalizeTerminalTaskRetentionUpdate at hUpdate
  dsimp only at hUpdate
  have hPending := KeepsTasks.foldl (fun finalized expected hFinalized =>
    finalizePending hFinalized (RetentionOwnershipIndex.fromState state) expected) h {} finalizedPending
  generalize finalizedPending.foldl _ _ = pendingDone at hUpdate hPending
  obtain ⟨current, batch⟩ := pendingDone
  have hTasks := foldlRecOn retiredTasks finalizeTerminalTask
    (motive := fun finalized => TasksFinalized current finalized.1 finalized.2.2)
    (show TasksFinalized current (current, batch, []).1 [] from ⟨rfl, fun _ _ h => h, fun _ _ h _ => h, fun _ => rfl⟩)
    fun finalized hFinalized expected _ => hFinalized.step expected
  generalize retiredTasks.foldl _ _ = tasksDone at hUpdate hTasks
  obtain ⟨remaining, batch', removed⟩ := tasksDone
  dsimp only at hUpdate hPending hTasks
  have hReleased : (if removed.isEmpty = true then remaining
        else remaining.withoutOwners (removed.contains ·)).Valid environment ∧
      (if removed.isEmpty = true then remaining else remaining.withoutOwners (removed.contains ·)).tasks =
        remaining.tasks := by
    split
    · rename_i hNone
      rw [hTasks.none (isEmpty_iff.mp hNone)]
      exact ⟨hPending.valid, rfl⟩
    · rw [hTasks.rest]
      exact ⟨hPending.valid.removeTasks _ _ hTasks.old hTasks.kept, rfl⟩
  generalize (if removed.isEmpty = true then remaining else remaining.withoutOwners (removed.contains ·)) = released
    at hUpdate hReleased
  have hArtifacts := KeepsTasks.foldl (fun finalized expected hFinalized =>
    finalizeArtifact hFinalized expected) hReleased.1 batch' finalizedArtifacts
  rw [Except.ok.inj hUpdate] at hArtifacts
  refine ⟨hArtifacts.valid, fun taskId task hTask => ?_⟩
  rw [hArtifacts.tasks, hReleased.2] at hTask
  exact hPending.tasks ▸ hTasks.old taskId task hTask

end Finalization

end RuntimeState.Valid

end Raiko2.Runtime
