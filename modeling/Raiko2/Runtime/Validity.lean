import Raiko2.Runtime.ArtifactUpdates

/-!
# What the validation of a runtime state accepts

`validate_runtime_state` as a proposition over the three maps, and how it is kept by the elementary changes
of a state: a task is put in, changed or taken out, an artifact or a publication intent is put in or
taken out.
-/

namespace Raiko2.Runtime

open Lib Table

structure RuntimeTaskRecord.Valid (record : RuntimeTaskRecord) : Prop where
  taskId : record.taskId.name ≠ ""
  incarnationId : record.incarnationId ≠ 0
  route : (record.pipelineKey.canonicalizePersistedRoute record.route).isSome = true
  taskKind : record.taskKind ≠ ""
  networkPair : record.networkPair ≠ ""
  artifactRefs : ∀ artifactRef ∈ record.artifactRefs, artifactRef.name ≠ ""
  artifactRefsNodup : record.artifactRefs.Nodup
  retentionState : record.retentionState = .retained ∨ record.runnerStatus.isTerminal = true
  requestFingerprint : record.requestFingerprint ≠ ""

/-- The identity of an artifact: its parts are there, and its pipeline has its route. -/
structure ProofArtifactKey.Valid (key : ProofArtifactKey) : Prop where
  route : (key.pipelineKey.canonicalizePersistedRoute key.route).isSome = true
  networkPair : key.networkPair ≠ ""
  proofRef : key.proofRef.name ≠ ""

structure ProofArtifactRecord.Valid (environment : String) (record : ProofArtifactRecord) : Prop where
  environment : record.environment = environment
  key : record.key.Valid
  proofUri : record.descriptor.proofUri ≠ ""
  contentHash : record.descriptor.contentHash ≠ ""
  invalidatedAt : record.lifecycle = .invalidated ↔ record.invalidatedAt.isSome = true

/-- A task of the state with this incarnation refers to the artifact. -/
def RuntimeState.HasOwner (state : RuntimeState) (key : ProofArtifactKey) (owner : Incarnation) : Prop :=
  ∃ taskId task, state.tasks.lookup taskId = some task ∧ task.incarnationId = owner ∧
    taskMatchesArtifactIdentity task key = true

structure PendingProofPublicationRecord.Valid (state : RuntimeState) (record : PendingProofPublicationRecord) :
    Prop where
  key : record.key.Valid
  contentHash : record.contentHash ≠ ""
  ownersNodup : record.ownerIncarnations.Nodup
  owners : ∀ owner ∈ record.ownerIncarnations, state.HasOwner record.key owner

structure RuntimeState.Valid (environment : String) (state : RuntimeState) : Prop where
  taskKey : ∀ {taskId task}, state.tasks.lookup taskId = some task → task.taskId = taskId
  task : ∀ {taskId task}, state.tasks.lookup taskId = some task → task.Valid
  incarnation : state.tasks.Distinct (·.incarnationId)
  fingerprint : state.tasks.Distinct (·.requestFingerprint)
  artifactKey : ∀ {key artifact}, state.artifacts.lookup key = some artifact → artifact.key = key
  artifact : ∀ {key artifact}, state.artifacts.lookup key = some artifact → artifact.Valid environment
  pendingKey : ∀ {key pending}, state.pendingPublications.lookup key = some pending → pending.key = key
  pending : ∀ {key pending}, state.pendingPublications.lookup key = some pending → pending.Valid state

section Checks

variable {environment : String} {state : RuntimeState} {key : ProofArtifactKey}

theorem validateRuntimeTaskRecord_eq_ok_iff {taskId : TaskRef} {record : RuntimeTaskRecord}
    {incarnations : List Incarnation} {fingerprints : List String} {out : List Incarnation × List String} :
    validateRuntimeTaskRecord taskId record incarnations fingerprints = .ok out ↔
      ((record.taskId = taskId ∧ record.Valid) ∧ record.incarnationId ∉ incarnations ∧
        record.requestFingerprint ∉ fingerprints) ∧
      out = (record.incarnationId :: incarnations, record.requestFingerprint :: fingerprints) := by
  simp only [validateRuntimeTaskRecord, except_bind_eq_ok_iff, ensure_eq_ok, exists_const, decide_eq_true_eq,
    Bool.or_eq_true, Bool.not_eq_true', List.contains_eq_mem, decide_eq_false_iff_not, List.all_eq_true]
  constructor
  · rintro ⟨h1, h2, h3, h4, h5, h6, h7, h8, h9, h10, h11, h12, h13⟩
    exact ⟨⟨⟨h1.symm, ⟨h2, h3, h5, h6, h7, h8, h9, h10, h11⟩⟩, h4, h12⟩, (Except.ok.inj h13).symm⟩
  · rintro ⟨⟨⟨h1, ⟨h2, h3, h5, h6, h7, h8, h9, h10, h11⟩⟩, h4, h12⟩, h13⟩
    exact ⟨h1.symm, h2, h3, h4, h5, h6, h7, h8, h9, h10, h11, h12, congrArg Except.ok h13.symm⟩

theorem foldlM_validateRuntimeTaskRecord_iff {entries : List (Sigma fun _ : TaskRef => RuntimeTaskRecord)}
    {seen : List Incarnation × List String} :
    (∃ out, entries.foldlM (fun seen entry => validateRuntimeTaskRecord entry.1 entry.2 seen.1 seen.2) seen = .ok out) ↔
      (∀ entry ∈ entries, entry.2.taskId = entry.1 ∧ entry.2.Valid) ∧
      (entries.map (·.2.incarnationId)).Nodup ∧ (∀ entry ∈ entries, entry.2.incarnationId ∉ seen.1) ∧
      (entries.map (·.2.requestFingerprint)).Nodup ∧ ∀ entry ∈ entries, entry.2.requestFingerprint ∉ seen.2 := by
  induction entries generalizing seen with
  | nil => simp [pure, Except.pure]
  | cons entry entries ih =>
    simp only [List.foldlM_cons, except_bind_eq_ok_iff, validateRuntimeTaskRecord_eq_ok_iff, List.forall_mem_cons,
      List.map_cons, List.nodup_cons, List.mem_map, not_exists, not_and]
    constructor
    · rintro ⟨out, next, ⟨⟨hEntry, hInc, hFp⟩, rfl⟩, hRest⟩
      obtain ⟨hValid, hIncs, hSeenInc, hFps, hSeenFp⟩ := ih.mp ⟨out, hRest⟩
      simp only [List.mem_cons, not_or] at hSeenInc hSeenFp
      exact ⟨⟨hEntry, hValid⟩, ⟨fun e he => (hSeenInc e he).1, hIncs⟩, ⟨hInc, fun e he => (hSeenInc e he).2⟩,
        ⟨fun e he => (hSeenFp e he).1, hFps⟩, hFp, fun e he => (hSeenFp e he).2⟩
    · rintro ⟨⟨hEntry, hValid⟩, ⟨hFreshInc, hIncs⟩, ⟨hInc, hSeenInc⟩, ⟨hFreshFp, hFps⟩, hFp, hSeenFp⟩
      obtain ⟨out, hOut⟩ := (@ih (entry.2.incarnationId :: seen.1, entry.2.requestFingerprint :: seen.2)).mpr
        ⟨hValid, hIncs, fun e he => by simp [hFreshInc e he, hSeenInc e he], hFps,
          fun e he => by simp [hFreshFp e he, hSeenFp e he]⟩
      exact ⟨out, _, ⟨⟨hEntry, hInc, hFp⟩, rfl⟩, hOut⟩

theorem validateProofArtifactRecord_eq_ok_iff {record : ProofArtifactRecord} :
    validateProofArtifactRecord environment key record = .ok () ↔ record.key = key ∧ record.Valid environment := by
  simp only [validateProofArtifactRecord, except_bind_eq_ok_iff, ensure_eq_ok, exists_const, decide_eq_true_eq,
    Bool.and_eq_true]
  constructor
  · rintro ⟨h1, h2, h3, ⟨⟨⟨h4, h5⟩, h6⟩, h7⟩, h8⟩
    refine ⟨h1.symm, h2, ⟨h3, h4, h5⟩, h6, h7, ?_⟩
    rw [← h8, decide_eq_true_eq]
  · rintro ⟨h1, h2, ⟨h3, h4, h5⟩, h6, h7, h8⟩
    refine ⟨h1.symm, h2, h3, ⟨⟨⟨h4, h5⟩, h6⟩, h7⟩, ?_⟩
    rw [Bool.eq_iff_iff, decide_eq_true_eq, h8]

theorem any_owner_iff {owner : Incarnation} :
    (state.tasks.values.any fun task => task.incarnationId = owner && taskMatchesArtifactIdentity task key) = true ↔
      state.HasOwner key owner := by
  simp only [List.any_eq_true, mem_values_iff, Bool.and_eq_true, decide_eq_true_eq, RuntimeState.HasOwner]
  constructor
  · rintro ⟨task, ⟨taskId, hTask⟩, hOwner⟩
    exact ⟨taskId, task, hTask, hOwner⟩
  · rintro ⟨taskId, task, hTask, hOwner⟩
    exact ⟨task, ⟨taskId, hTask⟩, hOwner⟩

theorem validatePendingPublicationRecord_eq_ok_iff {record : PendingProofPublicationRecord} :
    validatePendingPublicationRecord state.tasks.values key record = .ok () ↔
      record.key = key ∧ record.Valid state := by
  simp only [validatePendingPublicationRecord, except_bind_eq_ok_iff, ensure_eq_ok, exists_const, decide_eq_true_eq,
    Bool.and_eq_true, List.all_eq_true, any_owner_iff]
  constructor
  · rintro ⟨h1, h2, ⟨⟨h3, h4⟩, h5⟩, h6, h7⟩
    exact ⟨h1.symm, ⟨h2, h3, h4⟩, h5, h6, h7⟩
  · rintro ⟨h1, ⟨h2, h3, h4⟩, h5, h6, h7⟩
    exact ⟨h1.symm, h2, ⟨⟨h3, h4⟩, h5⟩, h6, h7⟩

theorem validateRuntimeState_eq_ok_iff : validateRuntimeState environment state = .ok () ↔ state.Valid environment := by
  rw [validateRuntimeState, except_bind_eq_ok_iff]
  simp only [except_unit_bind_eq_ok_iff, except_forM_eq_ok_iff, validateProofArtifactRecord_eq_ok_iff,
    validatePendingPublicationRecord_eq_ok_iff]
  rw [exists_and_right, foldlM_validateRuntimeTaskRecord_iff, nodup_map_entries_iff, nodup_map_entries_iff]
  constructor
  · rintro ⟨⟨hTasks, hInc, -, hFp, -⟩, hArtifacts, hPending⟩
    have entry {κ ν : Type} [DecidableEq κ] {table : Table κ ν} {key : κ} {value : ν}
        (h : table.lookup key = some value) := mem_entries_iff.mpr h
    exact ⟨fun h => (hTasks _ (entry h)).1, fun h => (hTasks _ (entry h)).2, hInc, hFp,
      fun h => (hArtifacts _ (entry h)).1, fun h => (hArtifacts _ (entry h)).2, fun h => (hPending _ (entry h)).1,
      fun h => (hPending _ (entry h)).2⟩
  · intro h
    refine ⟨⟨fun entry hEntry => ?_, h.incarnation, by simp, h.fingerprint, by simp⟩, fun entry hEntry => ?_,
      fun entry hEntry => ?_⟩
    · have hTask := mem_entries_iff.mp hEntry
      exact ⟨h.taskKey hTask, h.task hTask⟩
    · have hArtifact := mem_entries_iff.mp hEntry
      exact ⟨h.artifactKey hArtifact, h.artifact hArtifact⟩
    · have hPending := mem_entries_iff.mp hEntry
      exact ⟨h.pendingKey hPending, h.pending hPending⟩

end Checks

/-- Two records of one task: what never changes in its lifetime is the same. -/
structure RuntimeTaskRecord.SameIdentity (before after : RuntimeTaskRecord) : Prop where
  taskId : after.taskId = before.taskId
  incarnationId : after.incarnationId = before.incarnationId
  pipelineKey : after.pipelineKey = before.pipelineKey
  route : after.route = before.route
  taskKind : after.taskKind = before.taskKind
  networkPair : after.networkPair = before.networkPair
  artifactRefs : after.artifactRefs = before.artifactRefs
  requestFingerprint : after.requestFingerprint = before.requestFingerprint

def RuntimeTaskRecord.Removable (record : RuntimeTaskRecord) : Prop :=
  record.retentionState = .retained ∨ record.runnerStatus.isTerminal = true

namespace RuntimeTaskRecord.SameIdentity

variable {a b c : RuntimeTaskRecord}

/-- The fields that are not part of the identity. -/
theorem set (a : RuntimeTaskRecord) (runnerStatus : RunnerStatus) (retentionState : TaskRetentionState)
    (imageRef proofUri error : Option String) (metadata : String) (updatedAt : Int64) :
    a.SameIdentity { a with runnerStatus, retentionState, imageRef, proofUri, error, metadata, updatedAt } :=
  ⟨rfl, rfl, rfl, rfl, rfl, rfl, rfl, rfl⟩

theorem refl (a : RuntimeTaskRecord) : a.SameIdentity a := .set ..

theorem symm (h : a.SameIdentity b) : b.SameIdentity a :=
  ⟨h.1.symm, h.2.symm, h.3.symm, h.4.symm, h.5.symm, h.6.symm, h.7.symm, h.8.symm⟩

theorem trans (h : a.SameIdentity b) (h' : b.SameIdentity c) : a.SameIdentity c :=
  ⟨h'.1.trans h.1, h'.2.trans h.2, h'.3.trans h.3, h'.4.trans h.4, h'.5.trans h.5, h'.6.trans h.6, h'.7.trans h.7,
    h'.8.trans h.8⟩

theorem taskMatchesArtifactIdentity (h : a.SameIdentity b) (key : ProofArtifactKey) :
    Runtime.taskMatchesArtifactIdentity b key = Runtime.taskMatchesArtifactIdentity a key := by
  obtain ⟨hId, -, hPipeline, hRoute, -, hPair, hRefs, -⟩ := h
  unfold Runtime.taskMatchesArtifactIdentity taskReferences
  rw [hId, hPipeline, hRoute, hPair, hRefs]

theorem valid (h : a.SameIdentity b) (hValid : a.Valid) (hRemovable : b.Removable) : b.Valid where
  taskId := by rw [h.taskId]; exact hValid.taskId
  incarnationId := by rw [h.incarnationId]; exact hValid.incarnationId
  route := by rw [h.pipelineKey, h.route]; exact hValid.route
  taskKind := by rw [h.taskKind]; exact hValid.taskKind
  networkPair := by rw [h.networkPair]; exact hValid.networkPair
  artifactRefs := by rw [h.artifactRefs]; exact hValid.artifactRefs
  artifactRefsNodup := by rw [h.artifactRefs]; exact hValid.artifactRefsNodup
  retentionState := hRemovable
  requestFingerprint := by rw [h.requestFingerprint]; exact hValid.requestFingerprint

end RuntimeTaskRecord.SameIdentity

namespace RuntimeState

theorem HasOwner.mono {state state' : RuntimeState} {key : ProofArtifactKey} {owner : Incarnation}
    (h : state.HasOwner key owner)
    (hTasks : ∀ taskId task, state.tasks.lookup taskId = some task → task.incarnationId = owner →
      ∃ task', state'.tasks.lookup taskId = some task' ∧ task.SameIdentity task') : state'.HasOwner key owner := by
  obtain ⟨taskId, task, hTask, hOwner, hMatch⟩ := h
  obtain ⟨task', hTask', hSame⟩ := hTasks taskId task hTask hOwner
  exact ⟨taskId, task', hTask', hSame.incarnationId.trans hOwner, by rwa [hSame.taskMatchesArtifactIdentity]⟩

end RuntimeState

variable {pending : PendingProofPublicationRecord}

theorem PendingProofPublicationRecord.Valid.mono {state state' : RuntimeState} (h : pending.Valid state)
    (hOwners : ∀ owner ∈ pending.ownerIncarnations, state.HasOwner pending.key owner →
      state'.HasOwner pending.key owner) : pending.Valid state' where
  key := h.key
  contentHash := h.contentHash
  ownersNodup := h.ownersNodup
  owners owner hOwner := hOwners owner hOwner (h.owners owner hOwner)

theorem PendingProofPublicationRecord.Valid.withOwners {state : RuntimeState} (h : pending.Valid state)
    {owners : List Incarnation} (hOwners : owners.Sublist pending.ownerIncarnations) :
    ({ pending with ownerIncarnations := owners } : PendingProofPublicationRecord).Valid state where
  key := h.key
  contentHash := h.contentHash
  ownersNodup := h.ownersNodup.sublist hOwners
  owners owner hOwner := h.owners owner (hOwners.subset hOwner)

namespace RuntimeState.Valid

variable {environment : String} {state : RuntimeState} (h : state.Valid environment)

include h

/-- A task gets a record of the same lifetime. -/
theorem changeTask {before after : RuntimeTaskRecord}
    (hBefore : state.tasks.lookup after.taskId = some before) (hSame : before.SameIdentity after)
    (hRemovable : after.Removable) : (state.putTask after).Valid environment := by
  -- what stands at an id afterwards is a record of the task that stood there before
  have hTasks : ∀ taskId task', (state.putTask after).tasks.lookup taskId = some task' →
      ∃ task, state.tasks.lookup taskId = some task ∧ task.SameIdentity task' ∧ task'.Removable := by
    intro taskId task' hTask'
    rcases lookup_insert_eq_some.mp hTask' with ⟨rfl, rfl⟩ | ⟨_, hOld⟩
    · exact ⟨before, hBefore, hSame, hRemovable⟩
    · exact ⟨task', hOld, .refl task', (h.task hOld).retentionState⟩
  have hOwners : ∀ key owner, state.HasOwner key owner → (state.putTask after).HasOwner key owner := by
    intro key owner hOwner
    refine hOwner.mono fun taskId task hTask _ => ?_
    rw [putTask, lookup_insert_ite]
    split
    · rename_i hId
      rw [hId, hBefore] at hTask
      cases hTask
      exact ⟨after, rfl, hSame⟩
    · exact ⟨task, hTask, .refl task⟩
  have hDistinct {β : Type} (f : RuntimeTaskRecord → β) (hf : ∀ a b, a.SameIdentity b → f b = f a)
      (hOld : state.tasks.Distinct f) : (state.putTask after).tasks.Distinct f := by
    intro taskId₁ taskId₂ task₁' task₂' hTask₁ hTask₂ hEq
    obtain ⟨task₁, hTask₁, hSame₁, -⟩ := hTasks taskId₁ task₁' hTask₁
    obtain ⟨task₂, hTask₂, hSame₂, -⟩ := hTasks taskId₂ task₂' hTask₂
    rw [hf _ _ hSame₁, hf _ _ hSame₂] at hEq
    exact hOld hTask₁ hTask₂ hEq
  constructor
  · intro taskId task' hTask'
    obtain ⟨task, hTask, hSame, -⟩ := hTasks taskId task' hTask'
    rw [hSame.taskId, h.taskKey hTask]
  · intro taskId task' hTask'
    obtain ⟨task, hTask, hSame, hRemovable⟩ := hTasks taskId task' hTask'
    exact hSame.valid (h.task hTask) hRemovable
  · exact hDistinct (·.incarnationId) (fun _ _ hSame => hSame.incarnationId) h.incarnation
  · exact hDistinct (·.requestFingerprint) (fun _ _ hSame => hSame.requestFingerprint) h.fingerprint
  · exact h.artifactKey
  · exact h.artifact
  · exact h.pendingKey
  · exact fun hPending => (h.pending hPending).mono fun owner _ => hOwners _ owner

theorem addTask {record : RuntimeTaskRecord} (hRecord : record.Valid)
    (hAbsent : state.tasks.lookup record.taskId = none)
    (hIncarnation : ∀ taskId task, state.tasks.lookup taskId = some task → task.incarnationId ≠ record.incarnationId)
    (hFingerprint : ∀ taskId task, state.tasks.lookup taskId = some task →
      task.requestFingerprint ≠ record.requestFingerprint) : (state.putTask record).Valid environment := by
  constructor
  · intro taskId task hTask
    rcases lookup_insert_eq_some.mp hTask with ⟨rfl, rfl⟩ | ⟨_, hOld⟩
    · rfl
    · exact h.taskKey hOld
  · intro taskId task hTask
    rcases lookup_insert_eq_some.mp hTask with ⟨_, rfl⟩ | ⟨_, hOld⟩
    · exact hRecord
    · exact h.task hOld
  · exact Table.Distinct.insert h.incarnation hIncarnation
  · exact Table.Distinct.insert h.fingerprint hFingerprint
  · exact h.artifactKey
  · exact h.artifact
  · exact h.pendingKey
  · refine fun hPending => (h.pending hPending).mono fun owner _ hOwner => hOwner.mono fun taskId task hTask _ => ?_
    have hNe : taskId ≠ record.taskId := by
      rintro rfl
      rw [hAbsent] at hTask
      cases hTask
    exact ⟨task, by rw [putTask, lookup_insert_ite, if_neg hNe]; exact hTask, .refl task⟩

theorem removeTasks (tasks : Table TaskRef RuntimeTaskRecord) (gone : Incarnation → Bool)
    (hOld : ∀ taskId task, tasks.lookup taskId = some task → state.tasks.lookup taskId = some task)
    (hKept : ∀ taskId task, state.tasks.lookup taskId = some task → gone task.incarnationId = false →
      tasks.lookup taskId = some task) : ({ state with tasks }.withoutOwners gone).Valid environment := by
  have hPending : ∀ key pending',
      ({ state with tasks }.withoutOwners gone).pendingPublications.lookup key = some pending' →
      ∃ pending, state.pendingPublications.lookup key = some pending ∧ pending' =
        { pending with ownerIncarnations := pending.ownerIncarnations.filter (!gone ·) } := by
    intro key pending' hPending'
    rw [withoutOwners, lookup_retain] at hPending'
    obtain ⟨pending, hPending, hEq⟩ := Option.bind_eq_some_iff.mp hPending'
    exact ⟨pending, hPending, (Option.some.inj hEq).symm⟩
  constructor
  · exact fun hTask => h.taskKey (hOld _ _ hTask)
  · exact fun hTask => h.task (hOld _ _ hTask)
  · exact fun hTask hTask' => h.incarnation (hOld _ _ hTask) (hOld _ _ hTask')
  · exact fun hTask hTask' => h.fingerprint (hOld _ _ hTask) (hOld _ _ hTask')
  · exact h.artifactKey
  · exact h.artifact
  · intro key pending' hPending'
    obtain ⟨pending, hPending, rfl⟩ := hPending key pending' hPending'
    have hKey := h.pendingKey hPending
    exact hKey
  · intro key pending' hPending'
    obtain ⟨pending, hPending, rfl⟩ := hPending key pending' hPending'
    refine ((h.pending hPending).withOwners List.filter_sublist).mono fun owner hOwner hHas => ?_
    refine hHas.mono fun taskId task hTask hInc => ⟨task, hKept taskId task hTask ?_, .refl task⟩
    have hStays := (List.mem_filter.mp hOwner).2
    rw [hInc]
    simpa using hStays

theorem withArtifacts {artifacts : Table ProofArtifactKey ProofArtifactRecord}
    (hArtifacts : ∀ key artifact, artifacts.lookup key = some artifact → artifact.key = key ∧ artifact.Valid environment) :
    ({ state with artifacts } : RuntimeState).Valid environment where
  taskKey := h.taskKey
  task := h.task
  incarnation := h.incarnation
  fingerprint := h.fingerprint
  artifactKey hArtifact := (hArtifacts _ _ hArtifact).1
  artifact hArtifact := (hArtifacts _ _ hArtifact).2
  pendingKey := h.pendingKey
  pending hPending := (h.pending hPending).mono fun _ _ hOwner => hOwner

theorem putArtifact {key : ProofArtifactKey} {record : ProofArtifactRecord}
    (hKey : record.key = key) (hRecord : record.Valid environment) :
    (state.putArtifact key record).Valid environment := by
  refine h.withArtifacts fun other artifact hArtifact => ?_
  rcases lookup_insert_eq_some.mp hArtifact with ⟨rfl, rfl⟩ | ⟨_, hOld⟩
  · exact ⟨hKey, hRecord⟩
  · exact ⟨h.artifactKey hOld, h.artifact hOld⟩

theorem eraseArtifact (key : ProofArtifactKey) :
    ({ state with artifacts := state.artifacts.erase key } : RuntimeState).Valid environment := by
  refine h.withArtifacts fun other artifact hArtifact => ?_
  have hOld := (lookup_erase_eq_some.mp hArtifact).2
  exact ⟨h.artifactKey hOld, h.artifact hOld⟩

theorem withPending {pendingPublications : Table ProofArtifactKey PendingProofPublicationRecord}
    (hPending : ∀ key pending, pendingPublications.lookup key = some pending → pending.key = key ∧ pending.Valid state) :
    ({ state with pendingPublications } : RuntimeState).Valid environment where
  taskKey := h.taskKey
  task := h.task
  incarnation := h.incarnation
  fingerprint := h.fingerprint
  artifactKey := h.artifactKey
  artifact := h.artifact
  pendingKey hLookup := (hPending _ _ hLookup).1
  pending hLookup := (hPending _ _ hLookup).2.mono fun _ _ hOwner => hOwner

theorem putPending {key : ProofArtifactKey} {record : PendingProofPublicationRecord}
    (hKey : record.key = key) (hRecord : record.Valid state) : (state.putPending key record).Valid environment := by
  refine h.withPending fun other pending hPending => ?_
  rcases lookup_insert_eq_some.mp hPending with ⟨rfl, rfl⟩ | ⟨_, hOld⟩
  · exact ⟨hKey, hRecord⟩
  · exact ⟨h.pendingKey hOld, h.pending hOld⟩

theorem erasePending (key : ProofArtifactKey) :
    ({ state with pendingPublications := state.pendingPublications.erase key } : RuntimeState).Valid environment := by
  refine h.withPending fun other pending hPending => ?_
  have hOld := (lookup_erase_eq_some.mp hPending).2
  exact ⟨h.pendingKey hOld, h.pending hOld⟩

end RuntimeState.Valid

end Raiko2.Runtime
