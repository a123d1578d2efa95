import Raiko2.Server.RootStatus

/-!
# Steps of roots

What every operation of the server does to the tasks of a state. A task of the next state continues the task at its id,
in the same incarnation and with a status that moved forward, or has the incarnation that the operation brought.
-/

namespace Raiko2.Server

open Lib Raiko2.Engine Raiko2.Runtime

structure StatusStep (operation : RuntimeOperation) (before after : RuntimeTaskRecord) : Prop where
  advances : Advances before after
  failed : before.runnerStatus = .failed → after.runnerStatus = .failed ∨
    (after.runnerStatus = .allocated ∧ isRecovery operation = true) ∨ after.runnerStatus = .cancelled

namespace StatusStep

variable {operation : RuntimeOperation} {before after : RuntimeTaskRecord}

theorem refl (operation : RuntimeOperation) (record : RuntimeTaskRecord) : StatusStep operation record record :=
  ⟨.refl record, .inl⟩

theorem of_nonterminal (h : before.runnerStatus.isTerminal = false) : StatusStep operation before after where
  advances := .of_nonterminal h
  failed hFailed := by rw [hFailed] at h; cases h

theorem of_same (hStatus : after.runnerStatus = before.runnerStatus) (hUri : after.proofUri = before.proofUri) :
    StatusStep operation before after where
  advances :=
    ⟨fun h => ⟨hStatus.trans h, hUri⟩, fun h => .inl (hStatus.trans h),
      fun _ h hSome => .inl ⟨hStatus.trans h, hUri.trans hSome⟩⟩
  failed h := .inl (hStatus.trans h)

theorem of_observer {owners : List Incarnation} (h : ObserverStep owners before after) : StatusStep operation before after :=
  ⟨h.advances, fun hFailed => .inl (h.failed hFailed)⟩

end StatusStep

/-- Every task of the next state continues one of this state, or is new. -/
def Continues (operation : RuntimeOperation) (state state' : RuntimeState) : Prop :=
  ∀ taskId after, state'.tasks.lookup taskId = some after →
    (∃ before, state.tasks.lookup taskId = some before ∧ before.incarnationId = after.incarnationId ∧
      StatusStep operation before after) ∨
    newIncarnation operation = some after.incarnationId

namespace Continues

variable {operation : RuntimeOperation} {state state' : RuntimeState} {now : Int64}

theorem of_old (h : ∀ taskId task, state'.tasks.lookup taskId = some task → state.tasks.lookup taskId = some task) :
    Continues operation state state' :=
  fun taskId after hAfter => .inl ⟨after, h taskId after hAfter, rfl, .refl operation after⟩

theorem of_tasks (h : state'.tasks = state.tasks) : Continues operation state state' :=
  of_old fun _ _ hTask => h ▸ hTask

theorem withTask {taskId : TaskRef} {before after : RuntimeTaskRecord}
    (hBefore : state.tasks.lookup taskId = some before) (hIncarnation : before.incarnationId = after.incarnationId)
    (hStep : StatusStep operation before after) : Continues operation state (state.withTask taskId after) := by
  intro other task hTask
  rcases Table.lookup_insert_eq_some.mp hTask with ⟨rfl, rfl⟩ | ⟨_, hOld⟩
  · exact .inl ⟨before, hBefore, hIncarnation, hStep⟩
  · exact .inl ⟨task, hOld, rfl, .refl operation task⟩

theorem putTask {record : RuntimeTaskRecord} (h : Continues operation state state')
    (hNew : newIncarnation operation = some record.incarnationId) :
    Continues operation state (state'.putTask record) := by
  intro taskId task hTask
  rcases Table.lookup_insert_eq_some.mp hTask with ⟨_, rfl⟩ | ⟨_, hOld⟩
  · exact .inr hNew
  · exact h taskId task hOld

theorem withoutTask (taskId : TaskRef) (incarnationId : Incarnation) :
    Continues operation state (state.withoutTask taskId incarnationId) :=
  of_old fun _ _ hTask => (Table.lookup_erase_eq_some.mp hTask).2

end Continues

theorem lookup_putTasks {state : RuntimeState} {records : List RuntimeTaskRecord} {taskId : TaskRef}
    {task : RuntimeTaskRecord} (h : (state.putTasks records).tasks.lookup taskId = some task) :
    state.tasks.lookup taskId = some task ∨ task ∈ records ∧ task.taskId = taskId := by
  induction records generalizing state with
  | nil => exact .inl h
  | cons record records ih =>
    rcases ih h with hOld | ⟨hMem, hId⟩
    · rcases Table.lookup_insert_eq_some.mp hOld with ⟨hId, rfl⟩ | ⟨_, hOld⟩
      · exact .inr ⟨List.mem_cons_self, hId.symm⟩
      · exact .inl hOld
    · exact .inr ⟨List.mem_cons_of_mem _ hMem, hId⟩

theorem exists_lookup_putTasks {state : RuntimeState} {taskId : TaskRef} {task : RuntimeTaskRecord}
    (h : state.tasks.lookup taskId = some task) (records : List RuntimeTaskRecord) :
    ∃ after, (state.putTasks records).tasks.lookup taskId = some after := by
  induction records generalizing state task with
  | nil => exact ⟨task, h⟩
  | cons record records ih =>
    have hNext : ∃ next, (state.putTask record).tasks.lookup taskId = some next := by
      rw [RuntimeState.putTask, Table.lookup_insert_ite]
      split
      · exact ⟨record, rfl⟩
      · exact ⟨task, h⟩
    obtain ⟨next, hNext⟩ := hNext
    exact ih hNext

section Operations

variable {environment : String} {operation : RuntimeOperation} {state state' : RuntimeState} {now : Int64}
  {owners : List Incarnation}

/-- The tasks are as before, or records were written that are steps of an observer from tasks of the state. -/
def RecordsWritten (owners : List Incarnation) (state state' : RuntimeState) : Prop :=
  state'.tasks = state.tasks ∨ ∃ records : List RuntimeTaskRecord,
    (∀ after ∈ records, ∃ before ∈ state.tasks.values, ObserverStep owners before after) ∧
    state'.tasks = (state.putTasks records).tasks

theorem Observes.written {T : Type} {update : RecordsUpdate T} (h : Observes owners update)
    {selected records : List RuntimeTaskRecord} {output : T}
    (hSelected : ∀ record ∈ selected, record ∈ state.tasks.values) (hRun : update now selected = .ok (records, output))
    (hTasks : state'.tasks = (state.putTasks records).tasks) : RecordsWritten owners state state' := by
  refine .inr ⟨records, fun after hAfter => ?_, hTasks⟩
  obtain ⟨before, hBefore, hStep⟩ := h _ _ _ _ hRun after hAfter
  exact ⟨before, hSelected before hBefore, hStep⟩

theorem ObserverOperation.written (h : ObserverOperation owners operation)
    (hApply : operation.apply environment now state = .ok state') : RecordsWritten owners state state' := by
  cases h with
  | byRef taskRef h =>
    apply Leads.of_state (Leads.bind ?_) hApply
    intro result hRun
    refine h.written (fun record hRecord => ?_) hRun rfl
    exact (List.mem_filter.mp ((List.mem_insertionSort _).mp hRecord)).1
  | activate taskRef registration ownerIncarnations h =>
    obtain rfl | ⟨pending, artifact, records, output, -, -, hRun, rfl⟩ := activateProofArtifactUpdate_cases hApply
    · exact .inl rfl
    · exact h.written (fun _ => RuntimeState.Valid.mem_values_of_mem_artifactTaskRecords) hRun rfl
  | invalidate key h =>
    obtain ⟨records, output, hRun, hState⟩ := updateTasksAndInvalidateUpdate_cases hApply
    refine h.written (fun _ => RuntimeState.Valid.mem_values_of_mem_artifactTaskRecords) hRun ?_
    obtain rfl | ⟨artifact, -, rfl⟩ := hState <;> rfl

theorem lookup_of_observerStep (hValid : state.Valid environment) {before after : RuntimeTaskRecord}
    (hBefore : before ∈ state.tasks.values) (hStep : ObserverStep owners before after) :
    state.tasks.lookup after.taskId = some before := by
  obtain ⟨taskId, hTask⟩ := Table.mem_values_iff.mp hBefore
  rw [hStep.progress.sameIdentity.taskId, hValid.taskKey hTask]
  exact hTask

theorem RecordsWritten.continues (h : RecordsWritten owners state state') (hValid : state.Valid environment) :
    Continues operation state state' := by
  rcases h with hTasks | ⟨records, hRecords, hTasks⟩
  · exact .of_tasks hTasks
  · intro taskId after hAfter
    rw [hTasks] at hAfter
    rcases lookup_putTasks hAfter with hOld | ⟨hMem, rfl⟩
    · exact .inl ⟨after, hOld, rfl, .refl operation after⟩
    · obtain ⟨before, hBefore, hStep⟩ := hRecords after hMem
      exact .inl ⟨before, lookup_of_observerStep hValid hBefore hStep,
        hStep.progress.sameIdentity.incarnationId.symm, .of_observer hStep⟩

theorem RecordsWritten.others (h : RecordsWritten owners state state') (hValid : state.Valid environment)
    {taskId : TaskRef} {task : RuntimeTaskRecord} (hTask : state.tasks.lookup taskId = some task)
    (hOther : task.incarnationId ∉ owners) : state'.tasks.lookup taskId = some task := by
  rcases h with hTasks | ⟨records, hRecords, hTasks⟩
  · rw [hTasks]
    exact hTask
  · rw [hTasks]
    clear hTasks
    obtain ⟨after, hAfter⟩ := exists_lookup_putTasks hTask records
    rw [hAfter]
    rcases lookup_putTasks hAfter with hOld | ⟨hMem, rfl⟩
    · rw [← hOld, hTask]
    · obtain ⟨before, hBefore, hStep⟩ := hRecords after hMem
      have hLookup := lookup_of_observerStep hValid hBefore hStep
      rw [hTask] at hLookup
      cases hLookup
      rw [hStep.owned hOther]

theorem lookup_prepareTerminalTaskRetention {expectedTasks : List RuntimeTaskRecord} {taskId : TaskRef}
    {after : RuntimeTaskRecord}
    (h : (prepareTerminalTaskRetention state expectedTasks).1.tasks.lookup taskId = some after) :
    ∃ before retentionState, state.tasks.lookup taskId = some before ∧
      after = { before with retentionState := retentionState } := by
  induction expectedTasks generalizing state with
  | nil => exact ⟨after, after.retentionState, h, rfl⟩
  | cons expected rest ih =>
    unfold prepareTerminalTaskRetention at h
    split at h
    · exact ih h
    · rename_i current hCurrent
      split at h
      · exact ih h
      · obtain ⟨before, retentionState, hBefore, rfl⟩ := ih h
        rcases Table.lookup_insert_eq_some.mp hBefore with ⟨rfl, rfl⟩ | ⟨_, hOld⟩
        · exact ⟨current, retentionState, hCurrent, rfl⟩
        · exact ⟨before, retentionState, hOld, rfl⟩

theorem continues_plain (hValid : state.Valid environment) (hPlain : isPlain operation = true)
    (hAdmissible : operation.Admissible state) (hApply : operation.apply environment now state = .ok state') :
    Continues operation state state' := by
  cases hLeaves : operation.leavesTasks with
  | true => exact .of_tasks (operation.keepsTasks_apply hValid hAdmissible hApply hLeaves).tasks
  | false =>
  cases operation with
  | registerTaskIfAbsent registration incarnationId createdAt preconditions =>
    obtain ⟨record, hRecord, hUpdate⟩ := except_bind_eq_ok_iff.mp hApply
    have hNew := (buildTaskRecord_valid hRecord hAdmissible.1).2
    obtain rfl | ⟨-, -, rfl⟩ := registerTaskUpdate_cases hUpdate
    · exact .of_tasks rfl
    · exact (Continues.of_tasks rfl).putTask (congrArg some hNew.symm)
  | replaceTaskIfUnchanged expected registration incarnationId createdAt preconditions =>
    obtain ⟨record, hRecord, hUpdate⟩ := except_bind_eq_ok_iff.mp hApply
    have hNew := (buildTaskRecord_valid hRecord hAdmissible.1).2
    obtain rfl | ⟨-, -, -, rfl⟩ := replaceTaskUpdate_cases hUpdate
    · exact .of_tasks rfl
    · exact (Continues.withoutTask _ _).putTask (congrArg some hNew.symm)
  | completeNonterminalTask taskId expectedIncarnation proofUri preconditions =>
    obtain rfl | ⟨task, hTask, -, hOpen, rfl⟩ := completeNonterminalTaskUpdate_cases hApply
    · exact .of_tasks rfl
    · exact .withTask hTask rfl (.of_nonterminal hOpen)
  | prepareTaskForRecoveryIfUnchanged expected =>
    obtain rfl | ⟨hTask, hCompleted, hCancelled, rfl⟩ := prepareTaskForRecoveryUpdate_cases hApply
    · exact .of_tasks rfl
    · refine .withTask hTask rfl ⟨⟨fun h => absurd h hCancelled, fun h => absurd h hCompleted,
        fun _ h => absurd h hCompleted⟩, fun _ => .inr (.inl ⟨rfl, rfl⟩)⟩
  | failTaskIfUnchanged expected error =>
    obtain rfl | ⟨hTask, hOpen, rfl⟩ := openTaskUpdate_cases hApply
    · exact .of_tasks rfl
    · exact .withTask hTask rfl (.of_nonterminal hOpen)
  | cancelTaskIfCurrent lifetime error =>
    obtain rfl | ⟨task, hTask, -, hOpen, rfl⟩ := cancelTaskIfCurrentUpdate_cases hApply
    · exact .of_tasks rfl
    · exact .withTask hTask rfl (.of_nonterminal hOpen)
  | cancelTaskIfUnchanged expected error =>
    obtain rfl | ⟨hTask, hOpen, rfl⟩ := openTaskUpdate_cases hApply
    · exact .of_tasks rfl
    · exact .withTask hTask rfl (.of_nonterminal hOpen)
  | retireTaskIfUnchanged expected error =>
    obtain rfl | ⟨hTask, hCancelled, rfl⟩ := retireTaskUpdate_cases hApply
    · exact .of_tasks rfl
    · exact .withTask hTask rfl ⟨.of_cancelled hCancelled rfl rfl, fun _ => .inr (.inr rfl)⟩
  | removeTaskIfCurrent lifetime =>
    obtain rfl | ⟨current, -, -, -, rfl⟩ := removeTaskUpdate_cases hApply
    · exact .of_tasks rfl
    · exact .withoutTask _ _
  | prepareTerminalTaskRetentionBatch expectedTasks =>
    obtain ⟨⟨⟩, -, hEq⟩ := except_bind_eq_ok_iff.mp hApply
    cases hEq
    intro taskId after hAfter
    obtain ⟨before, retentionState, hBefore, rfl⟩ := lookup_prepareTerminalTaskRetention hAfter
    exact .inl ⟨before, hBefore, rfl, .of_same rfl rfl⟩
  | finalizeTerminalTaskRetentionBatch retiredTasks finalizedArtifacts finalizedPending =>
    obtain ⟨⟨⟩, -, hUpdate⟩ := except_bind_eq_ok_iff.mp hApply
    exact .of_old (hValid.finalizeTerminalTaskRetention hUpdate).2
  | updateTasksByRef | activateProofArtifactWithTasks | updateTasksAndInvalidateArtifact
  | restoreTaskAfterRecoveryIfUnchanged => cases hPlain
  | _ => cases hLeaves

end Operations

section Server

variable {Proof : Type} {environment : String} {encoding : Encoding} {operation : ServerOperation Proof}
  {state state' : RuntimeState} {now : Int64}

theorem continues_restoreRecovery {original : RuntimeTaskRecord} {preparedAt : Int64} {operation : RuntimeOperation}
    (hApply : (RuntimeOperation.restoreTaskAfterRecoveryIfUnchanged (original.recovered preparedAt) original).apply
      environment now state = .ok state') : Continues operation state state' := by
  obtain ⟨⟨⟩, -, hUpdate⟩ := except_bind_eq_ok_iff.mp hApply
  obtain rfl | ⟨hPrepared, rfl⟩ := restoreTaskUpdate_cases hUpdate
  · exact .of_tasks rfl
  · exact .withTask hPrepared rfl (.of_nonterminal rfl)

theorem ServerOperation.continues {used : Incarnation → Prop} (hValid : state.Valid environment)
    (hAdmitted : operation.Admitted used state)
    (hApply : (operation.operation encoding).apply environment now state = .ok state') :
    Continues (operation.operation encoding) state state' := by
  cases hOwners : operation.owners with
  | some owners => exact ((observed encoding hOwners).written hApply).continues hValid
  | none =>
    cases operation with
    | plain operation hPlain => exact continues_plain hValid hPlain hAdmitted.1 hApply
    | restoreRecovery original preparedAt => exact continues_restoreRecovery hApply
    | _ => cases hOwners

end Server

end Raiko2.Server
