import Raiko2.Server.CheckpointScan
import Raiko2.Server.RootSteps

/-!
# Histories of roots

What any run of the server's operations does to the tasks. What was given a lifetime or a snapshot that is not current
does nothing.
-/

namespace Raiko2.Server

open Lib Raiko2.Engine Raiko2.Runtime List

section Runs

variable {Proof : Type} {environment : String} {encoding : Encoding}

structure ServerState where
  state : RuntimeState
  used : Incarnation → Prop

structure ServerState.Sound (environment : String) (server : ServerState) : Prop where
  valid : server.state.Valid environment
  used : ∀ taskId task, server.state.tasks.lookup taskId = some task → server.used task.incarnationId

/-- An incarnation has one task. -/
theorem ServerState.Sound.eq_of_incarnation {server : ServerState} (h : server.Sound environment)
    {taskId taskId' : TaskRef} {task task' : RuntimeTaskRecord} (hTask : server.state.tasks.lookup taskId = some task)
    (hTask' : server.state.tasks.lookup taskId' = some task') (hSame : task.incarnationId = task'.incarnationId) :
    task = task' := by
  obtain rfl := h.valid.incarnation hTask hTask' hSame
  exact Option.some.inj (hTask.symm.trans hTask')

structure ServerStep (environment : String) (encoding : Encoding) (operation : ServerOperation Proof)
    (server server' : ServerState) : Prop where
  admitted : operation.Admitted server.used server.state
  apply : ∃ now, (operation.operation encoding).apply environment now server.state = .ok server'.state
  used : ∀ incarnationId, server'.used incarnationId ↔
    server.used incarnationId ∨ newIncarnation (operation.operation encoding) = some incarnationId

def Reaches (Proof : Type) (environment : String) (encoding : Encoding) : ServerState → ServerState → Prop :=
  Relation.ReflTransGen fun server server' =>
    ∃ operation : ServerOperation Proof, ServerStep environment encoding operation server server'

variable {server server' : ServerState}

theorem ServerStep.sound {operation : ServerOperation Proof}
    (h : ServerStep environment encoding operation server server') (hSound : server.Sound environment) :
    server'.Sound environment := by
  obtain ⟨now, hApply⟩ := h.apply
  refine ⟨RuntimeOperation.valid_apply hSound.valid (h.admitted.admissible encoding) hApply, fun taskId task hTask => ?_⟩
  rw [h.used]
  rcases ServerOperation.continues hSound.valid h.admitted hApply taskId task hTask with ⟨before, hBefore, hSame, -⟩ | hNew
  · exact .inl (hSame ▸ hSound.used taskId before hBefore)
  · exact .inr hNew

theorem Reaches.sound (h : Reaches Proof environment encoding server server') (hSound : server.Sound environment) :
    server'.Sound environment := by
  induction h with
  | refl => exact hSound
  | tail _ hStep ih => exact hStep.choose_spec.sound ih

theorem Reaches.used (h : Reaches Proof environment encoding server server') {incarnationId : Incarnation}
    (hUsed : server.used incarnationId) : server'.used incarnationId := by
  induction h with
  | refl => exact hUsed
  | tail _ hStep ih => exact (hStep.choose_spec.used incarnationId).mpr (.inl ih)

theorem ServerStep.statusStep {operation : ServerOperation Proof}
    (h : ServerStep environment encoding operation server server') (hSound : server.Sound environment)
    {taskId : TaskRef} {after : RuntimeTaskRecord} (hAfter : server'.state.tasks.lookup taskId = some after)
    (hUsed : server.used after.incarnationId) :
    ∃ before, server.state.tasks.lookup taskId = some before ∧ before.incarnationId = after.incarnationId ∧
      StatusStep (operation.operation encoding) before after := by
  obtain ⟨now, hApply⟩ := h.apply
  rcases ServerOperation.continues hSound.valid h.admitted hApply taskId after hAfter with hOld | hNew
  · exact hOld
  · -- an incarnation that was given out is not given out again
    have hAdmitted := h.admitted
    cases operation with
    | plain operation hPlain => exact absurd hUsed (hAdmitted.2 _ hNew)
    | _ => cases hNew

/-- A task of a later state whose incarnation was known before has been there all the time. -/
theorem Reaches.advances (h : Reaches Proof environment encoding server server') (hSound : server.Sound environment)
    {taskId : TaskRef} {after : RuntimeTaskRecord} (hAfter : server'.state.tasks.lookup taskId = some after)
    (hUsed : server.used after.incarnationId) :
    ∃ before, server.state.tasks.lookup taskId = some before ∧ before.incarnationId = after.incarnationId ∧
      Advances before after := by
  induction h generalizing after with
  | refl => exact ⟨after, hAfter, rfl, .refl after⟩
  | tail hReached hStep ih =>
    obtain ⟨operation, hStep⟩ := hStep
    have hReached : Reaches Proof environment encoding server _ := hReached
    obtain ⟨middle, hMiddle, hSame, hStatus⟩ :=
      hStep.statusStep (hReached.sound hSound) hAfter (hReached.used hUsed)
    obtain ⟨before, hBefore, hSame', hAdvances⟩ := ih hMiddle (hSame ▸ hUsed)
    exact ⟨before, hBefore, hSame'.trans hSame, hAdvances.trans hStatus.advances⟩

end Runs

section Stale

variable {environment : String} {state state' : RuntimeState} {now : Int64}

def isCurrent (state : RuntimeState) (record : RuntimeTaskRecord) : Bool :=
  state.tasks.lookup record.taskId = some record

def Stale (state : RuntimeState) : RuntimeOperation → Prop
  | .completeNonterminalTask taskId expectedIncarnation _ _ =>
    ∀ task, state.tasks.lookup taskId = some task → task.incarnationId ≠ expectedIncarnation
  | .cancelTaskIfCurrent lifetime _ | .removeTaskIfCurrent lifetime =>
    ∀ task, state.tasks.lookup lifetime.taskId = some task → task.incarnationId ≠ lifetime.incarnationId
  | .replaceTaskIfUnchanged expected _ _ _ _ | .prepareTaskForRecoveryIfUnchanged expected
  | .restoreTaskAfterRecoveryIfUnchanged expected _ | .failTaskIfUnchanged expected _
  | .cancelTaskIfUnchanged expected _ | .retireTaskIfUnchanged expected _ => isCurrent state expected = false
  | _ => False

theorem apply_of_stale {operation : RuntimeOperation} (hStale : Stale state operation)
    (hApply : operation.apply environment now state = .ok state') : state' = state := by
  cases operation with
  | completeNonterminalTask taskId expectedIncarnation proofUri preconditions =>
    obtain hSame | ⟨task, hTask, hIncarnation, -, -⟩ := completeNonterminalTaskUpdate_cases hApply
    · exact hSame
    · exact absurd hIncarnation (hStale task hTask)
  | cancelTaskIfCurrent lifetime error =>
    obtain hSame | ⟨task, hTask, hIncarnation, -, -⟩ := cancelTaskIfCurrentUpdate_cases hApply
    · exact hSame
    · exact absurd hIncarnation (hStale task hTask)
  | removeTaskIfCurrent lifetime =>
    obtain hSame | ⟨task, hTask, hIncarnation, -, -⟩ := removeTaskUpdate_cases hApply
    · exact hSame
    · exact absurd hIncarnation (hStale task hTask)
  | replaceTaskIfUnchanged expected registration incarnationId createdAt preconditions =>
    obtain ⟨record, -, hUpdate⟩ := except_bind_eq_ok_iff.mp hApply
    exact (replaceTaskUpdate_cases hUpdate).resolve_right fun h => of_decide_eq_false hStale h.1
  | prepareTaskForRecoveryIfUnchanged expected =>
    exact (prepareTaskForRecoveryUpdate_cases hApply).resolve_right fun h => of_decide_eq_false hStale h.1
  | restoreTaskAfterRecoveryIfUnchanged prepared original =>
    obtain ⟨⟨⟩, -, hUpdate⟩ := except_bind_eq_ok_iff.mp hApply
    exact (restoreTaskUpdate_cases hUpdate).resolve_right fun h => of_decide_eq_false hStale h.1
  | failTaskIfUnchanged expected error =>
    exact (openTaskUpdate_cases hApply).resolve_right fun h => of_decide_eq_false hStale h.1
  | cancelTaskIfUnchanged expected error =>
    exact (openTaskUpdate_cases hApply).resolve_right fun h => of_decide_eq_false hStale h.1
  | retireTaskIfUnchanged expected error =>
    exact (retireTaskUpdate_cases hApply).resolve_right fun h => of_decide_eq_false hStale h.1
  | _ => cases hStale

def onlyCurrent (state : RuntimeState) : RuntimeOperation → RuntimeOperation
  | .prepareTerminalTaskRetentionBatch expectedTasks =>
    .prepareTerminalTaskRetentionBatch (expectedTasks.filter (isCurrent state))
  | .finalizeTerminalTaskRetentionBatch retiredTasks finalizedArtifacts finalizedPending =>
    .finalizeTerminalTaskRetentionBatch (retiredTasks.filter (isCurrent state)) finalizedArtifacts finalizedPending
  | operation => operation

theorem nodup_filter {α β : Type} {f : α → β} {xs : List α} (h : (xs.map f).Nodup) (p : α → Bool) :
    ((xs.filter p).map f).Nodup :=
  (filter_sublist.map f).nodup h

theorem prepareTerminalTaskRetention_filter {expectedTasks : List RuntimeTaskRecord}
    (hNodup : (expectedTasks.map (·.taskId)).Nodup) {current : RuntimeState}
    (hCurrent : ∀ expected ∈ expectedTasks, current.tasks.lookup expected.taskId = state.tasks.lookup expected.taskId) :
    (prepareTerminalTaskRetention current (expectedTasks.filter (isCurrent state))).1 =
      (prepareTerminalTaskRetention current expectedTasks).1 := by
  induction expectedTasks generalizing current with
  | nil => rfl
  | cons expected rest ih =>
    rw [map_cons, nodup_cons] at hNodup
    have hHead := hCurrent expected mem_cons_self
    have hRest := ih hNodup.2 fun other hOther => hCurrent other (mem_cons_of_mem _ hOther)
    cases hIs : isCurrent state expected with
    | false =>
      rw [filter_cons_of_neg (by simp [hIs]), hRest]
      rw [isCurrent, decide_eq_false_iff_not, ← hHead] at hIs
      conv_rhs => unfold prepareTerminalTaskRetention
      split
      · rfl
      · rename_i stored hStored
        rw [if_pos (.inl fun hSame => hIs (hSame ▸ hStored))]
    | true =>
      rw [filter_cons_of_pos hIs]
      unfold prepareTerminalTaskRetention
      split
      · exact hRest
      · split
        · exact hRest
        · refine ih hNodup.2 fun other hOther => ?_
          rw [Table.lookup_insert_ite, if_neg]
          · exact hCurrent other (mem_cons_of_mem _ hOther)
          · intro hId
            exact hNodup.1 (mem_map.mpr ⟨other, hOther, hId⟩)

variable {retiredTasks : List RuntimeTaskRecord}

theorem foldl_finalizeTerminalTask_filter (hNodup : (retiredTasks.map (·.taskId)).Nodup) {current : RuntimeState}
    (hCurrent : ∀ retired ∈ retiredTasks, current.tasks.lookup retired.taskId = state.tasks.lookup retired.taskId)
    (removed : List Incarnation) (batch batch' : TerminalTaskRetentionFinalize) :
    ((retiredTasks.filter (isCurrent state)).foldl finalizeTerminalTask (current, batch, removed)).1 =
        (retiredTasks.foldl finalizeTerminalTask (current, batch', removed)).1 ∧
      ((retiredTasks.filter (isCurrent state)).foldl finalizeTerminalTask (current, batch, removed)).2.2 =
        (retiredTasks.foldl finalizeTerminalTask (current, batch', removed)).2.2 := by
  induction retiredTasks generalizing current removed batch batch' with
  | nil => exact ⟨rfl, rfl⟩
  | cons retired rest ih =>
    rw [map_cons, nodup_cons] at hNodup
    have hHead := hCurrent retired mem_cons_self
    rw [foldl_cons]
    cases hIs : isCurrent state retired with
    | false =>
      rw [filter_cons_of_neg (by simp [hIs])]
      rw [isCurrent, decide_eq_false_iff_not, ← hHead] at hIs
      rw [show finalizeTerminalTask (current, batch', removed) retired =
        (current, { batch' with skippedTasks := batch'.skippedTasks + 1 }, removed) from if_neg hIs]
      exact ih hNodup.2 (fun other hOther => hCurrent other (mem_cons_of_mem _ hOther)) _ _ _
    | true =>
      rw [filter_cons_of_pos hIs, foldl_cons]
      rw [isCurrent, decide_eq_true_eq, ← hHead] at hIs
      have hTaken (batch : TerminalTaskRetentionFinalize) : finalizeTerminalTask (current, batch, removed) retired =
        ({ current with tasks := current.tasks.erase retired.taskId },
          { batch with removedTasks := batch.removedTasks ++ [retired.lifetime] },
          retired.incarnationId :: removed) := if_pos hIs
      rw [hTaken, hTaken]
      refine ih hNodup.2 (fun other hOther => ?_) _ _ _
      rw [Table.lookup_erase_ite, if_neg]
      · exact hCurrent other (mem_cons_of_mem _ hOther)
      · intro hId
        exact hNodup.1 (mem_map.mpr ⟨other, hOther, hId⟩)

theorem foldl_finalizeTerminalArtifact_state (finalizedArtifacts : List ArtifactExpectation) (current : RuntimeState)
    (batch batch' : TerminalTaskRetentionFinalize) :
    (finalizedArtifacts.foldl finalizeTerminalArtifact (current, batch)).1 =
      (finalizedArtifacts.foldl finalizeTerminalArtifact (current, batch')).1 := by
  induction finalizedArtifacts generalizing current batch batch' with
  | nil => rfl
  | cons expected rest ih =>
    rw [foldl_cons, foldl_cons]
    unfold finalizeTerminalArtifact
    dsimp only
    split <;> exact ih _ _ _

def finalizedState (state : RuntimeState) (retiredTasks : List RuntimeTaskRecord)
    (finalizedArtifacts : List ArtifactExpectation) (finalizedPending : List PendingPublicationExpectation) :
    RuntimeState :=
  let pendingDone := finalizedPending.foldl
    (finalizeTerminalPendingPublication (RetentionOwnershipIndex.fromState state)) (state, {})
  let tasksDone := retiredTasks.foldl finalizeTerminalTask (pendingDone.1, pendingDone.2, [])
  let released :=
    if tasksDone.2.2.isEmpty then tasksDone.1 else tasksDone.1.withoutOwners (tasksDone.2.2.contains ·)
  (finalizedArtifacts.foldl finalizeTerminalArtifact (released, tasksDone.2.1)).1

theorem foldl_finalizeTerminalPendingPublication_tasks (ownership : List ProofArtifactKey)
    (finalizedPending : List PendingPublicationExpectation) (start : RuntimeState × TerminalTaskRetentionFinalize) :
    (finalizedPending.foldl (finalizeTerminalPendingPublication ownership) start).1.tasks = start.1.tasks := by
  refine foldlRecOn finalizedPending (finalizeTerminalPendingPublication ownership)
    (motive := fun finalized => finalized.1.tasks = start.1.tasks) rfl fun finalized hFinalized expected _ => ?_
  unfold finalizeTerminalPendingPublication
  dsimp only
  split
  · exact hFinalized
  · split <;> exact hFinalized

theorem finalizedState_filter (hNodup : (retiredTasks.map (·.taskId)).Nodup)
    (finalizedArtifacts : List ArtifactExpectation) (finalizedPending : List PendingPublicationExpectation) :
    finalizedState state (retiredTasks.filter (isCurrent state)) finalizedArtifacts finalizedPending =
      finalizedState state retiredTasks finalizedArtifacts finalizedPending := by
  unfold finalizedState
  have hTasks := foldl_finalizeTerminalPendingPublication_tasks (RetentionOwnershipIndex.fromState state)
    finalizedPending (state, {})
  generalize finalizedPending.foldl _ _ = pendingDone at hTasks ⊢
  obtain ⟨hState, hRemoved⟩ := foldl_finalizeTerminalTask_filter hNodup
    (fun retired _ => congrArg (·.lookup retired.taskId) hTasks) [] pendingDone.2 pendingDone.2
  dsimp only
  rw [hState, hRemoved]
  exact foldl_finalizeTerminalArtifact_state _ _ _ _

theorem apply_onlyCurrent {operation : RuntimeOperation}
    (hApply : operation.apply environment now state = .ok state') :
    (onlyCurrent state operation).apply environment now state = .ok state' := by
  cases operation with
  | prepareTerminalTaskRetentionBatch expectedTasks =>
    obtain ⟨⟨⟩, hNodup, hEq⟩ := except_bind_eq_ok_iff.mp hApply
    rw [ensure_eq_ok, decide_eq_true_eq] at hNodup
    cases hEq
    refine except_bind_eq_ok_iff.mpr ⟨(), ensure_eq_ok.mpr (decide_eq_true (nodup_filter hNodup _)), ?_⟩
    exact congrArg Except.ok (prepareTerminalTaskRetention_filter hNodup fun _ _ => rfl)
  | finalizeTerminalTaskRetentionBatch retiredTasks finalizedArtifacts finalizedPending =>
    obtain ⟨⟨⟩, hChecks, hUpdate⟩ := except_bind_eq_ok_iff.mp hApply
    obtain ⟨output, hUpdate⟩ := Update.state_eq_ok_iff.mp hUpdate
    simp only [validateTerminalRetentionFinalization, except_bind_eq_ok_iff, ensure_eq_ok, exists_const,
      decide_eq_true_eq, all_eq_true] at hChecks
    obtain ⟨hNodup, hRetired, hRest⟩ := hChecks
    refine except_bind_eq_ok_iff.mpr ⟨(), ?_, Update.state_eq_ok_iff.mpr ?_⟩
    · simp only [validateTerminalRetentionFinalization, except_bind_eq_ok_iff, ensure_eq_ok, exists_const,
        decide_eq_true_eq, all_eq_true]
      exact ⟨nodup_filter hNodup _, fun task hTask => hRetired task (mem_filter.mp hTask).1, hRest⟩
    · have hState : finalizedState state retiredTasks finalizedArtifacts finalizedPending = state' :=
        congrArg Prod.fst (Except.ok.inj hUpdate)
      rw [← hState, ← finalizedState_filter hNodup]
      exact ⟨_, rfl⟩
  | _ => exact hApply

end Stale

/-- Along any run from a state that validation accepts: within one incarnation a cancelled root stays cancelled, a
completed root can only be cancelled and does not get another proof, and a failed root is only reopened by recovery
or cancelled. What was given a lifetime or a snapshot does nothing once the stored task is another one, and the
observer does nothing to tasks of other incarnations. -/
theorem root_status_only_moves_forward (Proof : Type) (environment : String) (encoding : Encoding)
    (start server : ServerState) (hStart : start.Sound environment)
    (hServer : Reaches Proof environment encoding start server) :
    (∀ later, Reaches Proof environment encoding server later → ∀ taskId taskId' before after,
      server.state.tasks.lookup taskId = some before → later.state.tasks.lookup taskId' = some after →
      before.incarnationId = after.incarnationId →
        (before.runnerStatus = .cancelled → after.runnerStatus = .cancelled) ∧
        (before.runnerStatus = .completed → after.runnerStatus = .completed ∨ after.runnerStatus = .cancelled) ∧
        ∀ uri, before.runnerStatus = .completed → before.proofUri = some uri →
          (after.runnerStatus = .completed ∧ after.proofUri = some uri) ∨
          (after.runnerStatus = .cancelled ∧ after.proofUri = none)) ∧
    (∀ (operation : ServerOperation Proof) next, ServerStep environment encoding operation server next →
      ∀ taskId taskId' before after, server.state.tasks.lookup taskId = some before →
        next.state.tasks.lookup taskId' = some after → before.incarnationId = after.incarnationId →
        before.runnerStatus = .failed → after.runnerStatus = .failed ∨
          (after.runnerStatus = .allocated ∧ isRecovery (operation.operation encoding) = true) ∨
          after.runnerStatus = .cancelled) ∧
    (∀ (operation : RuntimeOperation) now state', operation.apply environment now server.state = .ok state' →
      (Stale server.state operation → state' = server.state) ∧
      (onlyCurrent server.state operation).apply environment now server.state = .ok state') ∧
    ∀ (operation : ServerOperation Proof) owners now state', operation.owners = some owners →
      (operation.operation encoding).apply environment now server.state = .ok state' →
      ∀ taskId task, server.state.tasks.lookup taskId = some task → task.incarnationId ∉ owners →
        state'.tasks.lookup taskId = some task := by
  have hSound := hServer.sound hStart
  refine ⟨fun later hLater taskId taskId' before after hBefore hAfter hSame => ?_,
    fun operation next hStep taskId taskId' before after hBefore hAfter hSame => ?_,
    fun operation now state' hApply => ⟨fun hStale => apply_of_stale hStale hApply, apply_onlyCurrent hApply⟩,
    fun operation owners now state' hOwners hApply taskId task hTask hOther =>
      ((ServerOperation.observed encoding hOwners).written hApply).others hSound.valid hTask hOther⟩
  · have hUsed := hSound.used taskId before hBefore
    obtain ⟨earlier, hEarlier, hSame', hAdvances⟩ := hLater.advances hSound hAfter (hSame ▸ hUsed)
    obtain rfl := hSound.eq_of_incarnation hBefore hEarlier (hSame.trans hSame'.symm)
    exact ⟨fun h => (hAdvances.cancelled h).1, hAdvances.completed, hAdvances.proofUri⟩
  · have hUsed := hSound.used taskId before hBefore
    obtain ⟨earlier, hEarlier, hSame', hStatus⟩ := hStep.statusStep hSound hAfter (hSame ▸ hUsed)
    obtain rfl := hSound.eq_of_incarnation hBefore hEarlier (hSame.trans hSame'.symm)
    exact hStatus.failed

/-- The state stays one that a restart accepts, and an incarnation belongs to one task for good. -/
theorem reachable_server_states_are_accepted (Proof : Type) (environment : String) (encoding : Encoding)
    (start server later : ServerState) (hStart : start.Sound environment)
    (hServer : Reaches Proof environment encoding start server) (hLater : Reaches Proof environment encoding server later) :
    validateRuntimeState environment later.state = .ok () ∧
    ∀ taskId taskId' before after, server.state.tasks.lookup taskId = some before →
      later.state.tasks.lookup taskId' = some after → before.incarnationId = after.incarnationId → taskId = taskId' := by
  have hSound := hServer.sound hStart
  refine ⟨validateRuntimeState_eq_ok_iff.mpr (hLater.sound hSound).valid, ?_⟩
  intro taskId taskId' before after hBefore hAfter hSame
  have hUsed := hSound.used taskId before hBefore
  obtain ⟨earlier, hEarlier, hSame', _⟩ := hLater.advances hSound hAfter (hSame ▸ hUsed)
  exact hSound.valid.incarnation hBefore hEarlier (hSame.trans hSame'.symm)

section Sample

def openRoot : RuntimeTaskRecord :=
  { sampleTaskRecord with runnerStatus := .allocated, retentionState := .retained, error := none }

def openServer : ServerState :=
  ⟨{ tasks := AList.singleton openRoot.taskId openRoot }, fun incarnationId => incarnationId = openRoot.incarnationId⟩

def completedRoot : RuntimeTaskRecord :=
  { openRoot with runnerStatus := .completed, proofUri := some "gs://proof", updatedAt := 1 }

def completedServer : ServerState :=
  ⟨openServer.state.withTask openRoot.taskId completedRoot, openServer.used⟩

theorem sound_openServer : openServer.Sound "dev" where
  valid := validateRuntimeState_eq_ok_iff.mp (by decide +kernel)
  used taskId task hTask := by
    have hMem := Table.mem_entries_iff.mpr hTask
    cases mem_singleton.mp hMem
    rfl

theorem openServer_completes : ServerStep "dev" sampleEncoding
    (.plain (.completeNonterminalTask openRoot.taskId openRoot.incarnationId "gs://proof" []) rfl : ServerOperation Unit)
    openServer completedServer where
  admitted := ⟨trivial, nofun⟩
  apply := ⟨1, rfl⟩
  used _ := ⟨.inl, fun h => h.resolve_right nofun⟩

theorem completedServer_accepted : validateRuntimeState "dev" completedServer.state = .ok () :=
  (reachable_server_states_are_accepted Unit "dev" sampleEncoding openServer openServer completedServer sound_openServer
    .refl (.single ⟨_, openServer_completes⟩)).1

/-- The proof of a completed root is there until the root is cancelled, whatever happens. -/
theorem completed_root_keeps_its_proof :
    openServer.Sound "dev" ∧ Reaches Unit "dev" sampleEncoding openServer completedServer ∧
    ∀ later, Reaches Unit "dev" sampleEncoding completedServer later → ∀ taskId after,
      later.state.tasks.lookup taskId = some after → after.incarnationId = 7 →
        (after.runnerStatus = .completed ∧ after.proofUri = some "gs://proof") ∨
        (after.runnerStatus = .cancelled ∧ after.proofUri = none) := by
  have hReaches : Reaches Unit "dev" sampleEncoding openServer completedServer := .single ⟨_, openServer_completes⟩
  refine ⟨sound_openServer, hReaches, fun later hLater taskId after hAfter hIncarnation => ?_⟩
  have hLookup : completedServer.state.tasks.lookup openRoot.taskId = some completedRoot := AList.lookup_insert _
  have hForward := root_status_only_moves_forward Unit "dev" sampleEncoding openServer completedServer sound_openServer
    hReaches
  exact (hForward.1 later hLater _ _ completedRoot after hLookup hAfter hIncarnation.symm).2.2 _ rfl rfl

end Sample

end Raiko2.Server
