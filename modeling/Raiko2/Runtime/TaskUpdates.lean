import Mathlib.Data.List.Sort
import Raiko2.Lib.Outcome
import Raiko2.Runtime.Records

/-!
# Changes of tasks

The closures that task operations hand to a mutation of the runtime state. A closure gets the time and the state and
gives the next state with its output, or an error.
-/

namespace Raiko2.Runtime

open Lib

abbrev Update (T : Type) := Int64 → RuntimeState → Except ErrorChain (RuntimeState × T)

inductive RuntimeMutationOutcome where
  | applied
  | alreadyApplied
  | stale
  | blocked
  | missing
  | conflict
  deriving DecidableEq, Repr

inductive TaskRegistrationOutcome where
  | created (record : RuntimeTaskRecord)
  | existing (record : RuntimeTaskRecord)

namespace RuntimeState

def putTask (state : RuntimeState) (record : RuntimeTaskRecord) : RuntimeState :=
  { state with tasks := state.tasks.insert record.taskId record }

def withoutOwners (state : RuntimeState) (gone : Incarnation → Bool) : RuntimeState :=
  let release (pending : PendingProofPublicationRecord) :=
    { pending with ownerIncarnations := pending.ownerIncarnations.filter (!gone ·) }
  { state with pendingPublications := state.pendingPublications.retain fun _ pending => some (release pending) }

end RuntimeState

def registerTaskUpdate (record : RuntimeTaskRecord) (preconditions : List ProofArtifactPrecondition) :
    Update TaskRegistrationOutcome := fun _ state =>
  match (state.tasks.lookup record.taskId).or
      (state.tasks.values.find? (·.requestFingerprint = record.requestFingerprint)) with
  | some existing => .ok (state, .existing existing)
  | none => do
    ensureArtifactPreconditions state preconditions
    return (state.putTask record, .created record)

def replaceTaskUpdate (expected record : RuntimeTaskRecord) (preconditions : List ProofArtifactPrecondition) :
    Update (Option RuntimeTaskRecord) := fun _ state =>
  match state.tasks.lookup expected.taskId with
  | none => .ok (state, none)
  | some current =>
    if current ≠ expected then .ok (state, none)
    else do
      ensureArtifactPreconditions state preconditions
      ensure (record.taskId = expected.taskId || (state.tasks.lookup record.taskId).isNone)
        "replacement task id already belongs to another task"
      let removed := current
      let state := { state with tasks := state.tasks.erase expected.taskId }.withoutOwners (· = removed.incarnationId)
      ensureTaskFingerprintAvailable state record
      return (state.putTask record, some record)

def completeNonterminalTaskUpdate (taskId : TaskRef) (expectedIncarnation : Incarnation) (proofUri : String)
    (preconditions : List ProofArtifactPrecondition) : Update Bool := fun now state =>
  match state.tasks.lookup taskId with
  | none => .ok (state, false)
  | some task =>
    if task.incarnationId ≠ expectedIncarnation ∨ task.runnerStatus.isTerminal = true then .ok (state, false)
    else
      match ensureArtifactPreconditions state preconditions with
      | .error _ => .ok (state, false)
      | .ok () =>
        let task := { task with
          runnerStatus := .completed, proofUri := some proofUri, error := none, updatedAt := now }
        .ok ({ state with tasks := state.tasks.insert taskId task }, true)

def prepareTaskForRecoveryUpdate (expected : RuntimeTaskRecord) : Update (Option RuntimeTaskRecord) := fun now state =>
  match state.tasks.lookup expected.taskId with
  | none => .ok (state, none)
  | some task =>
    if task.incarnationId ≠ expected.incarnationId then .ok (state, none)
    else if task ≠ expected ∨ task.runnerStatus = .completed ∨ task.runnerStatus = .cancelled then .ok (state, none)
    else
      let task := { task with
        runnerStatus := .allocated, retentionState := .retained, error := none, updatedAt := now }
      .ok ({ state with tasks := state.tasks.insert expected.taskId task }, some task)

def ensureRecoveryRollback (prepared original : RuntimeTaskRecord) : Except ErrorChain Unit := do
  ensure (prepared.taskId = original.taskId && prepared.incarnationId = original.incarnationId)
    "recovery rollback snapshots belong to different task lifetimes"
  let expectedOriginal := { prepared with
    runnerStatus := original.runnerStatus, retentionState := original.retentionState, error := original.error
    updatedAt := original.updatedAt }
  ensure (expectedOriginal = original)
    "recovery rollback may only restore status, retention state, error, and update time"

/-- A change of the task at an id, guarded by a test of the task that is there. -/
def guardedTaskUpdate (lifetime : TaskLifetime)
    (change : Int64 → RuntimeTaskRecord → RuntimeMutationOutcome × RuntimeTaskRecord) :
    Update RuntimeMutationOutcome := fun now state =>
  match state.tasks.lookup lifetime.taskId with
  | none => .ok (state, .missing)
  | some task =>
    if task.incarnationId ≠ lifetime.incarnationId then .ok (state, .stale)
    else
      match change now task with
      | (.applied, task) => .ok ({ state with tasks := state.tasks.insert lifetime.taskId task }, .applied)
      | (outcome, _) => .ok (state, outcome)

def restoreTaskUpdate (prepared original : RuntimeTaskRecord) : Update RuntimeMutationOutcome :=
  guardedTaskUpdate prepared.lifetime fun _ current =>
    if current ≠ prepared then (.blocked, current) else (.applied, original)

def failTaskUpdate (expected : RuntimeTaskRecord) (error : String) : Update RuntimeMutationOutcome :=
  guardedTaskUpdate expected.lifetime fun now current =>
    if current ≠ expected ∨ current.runnerStatus.isTerminal = true then (.blocked, current)
    else (.applied, { current with runnerStatus := .failed, error := some error, updatedAt := now })

def cancelTaskIfCurrentUpdate (lifetime : TaskLifetime) (error : Option String) : Update RuntimeMutationOutcome :=
  guardedTaskUpdate lifetime fun now task =>
    match task.runnerStatus with
    | .cancelled => (.alreadyApplied, task)
    | .completed | .failed => (.blocked, task)
    | .allocated | .running => (.applied, { task with runnerStatus := .cancelled, error, updatedAt := now })

def cancelTaskIfUnchangedUpdate (expected : RuntimeTaskRecord) (error : Option String) :
    Update RuntimeMutationOutcome :=
  guardedTaskUpdate expected.lifetime fun now task =>
    if task ≠ expected ∨ task.runnerStatus.isTerminal = true then (.blocked, task)
    else (.applied, { task with runnerStatus := .cancelled, error, updatedAt := now })

def retireTaskUpdate (expected : RuntimeTaskRecord) (error : Option String) : Update RuntimeMutationOutcome :=
  guardedTaskUpdate expected.lifetime fun _ task =>
    if task ≠ expected then (.blocked, task)
    else if task.runnerStatus = .cancelled then (.alreadyApplied, task)
    else (.applied, { task with runnerStatus := .cancelled, error, proofUri := none })

def removeTaskUpdate (lifetime : TaskLifetime) : Update RuntimeMutationOutcome := fun _ state =>
  match state.tasks.lookup lifetime.taskId with
  | none => .ok (state, .missing)
  | some current =>
    if current.incarnationId ≠ lifetime.incarnationId then .ok (state, .stale)
    else if current.runnerStatus ≠ .cancelled then .ok (state, .blocked)
    else
      .ok ({ state with tasks := state.tasks.erase lifetime.taskId }.withoutOwners (· = current.incarnationId), .applied)

def sortRecords (records : List RuntimeTaskRecord) : List RuntimeTaskRecord :=
  records.insertionSort fun left right => left.taskId.name ≤ right.taskId.name

def RuntimeState.putTasks (state : RuntimeState) (records : List RuntimeTaskRecord) : RuntimeState :=
  records.foldl RuntimeState.putTask state

abbrev RecordsUpdate (T : Type) := Int64 → List RuntimeTaskRecord → Except ErrorChain (List RuntimeTaskRecord × T)

def updateTasksByRefUpdate {T : Type} (taskRef : TaskRef) (update : RecordsUpdate T) : Update T := fun now state => do
  let (records, output) ← update now (sortRecords (state.tasks.values.filter (taskReferences · taskRef)))
  return (state.putTasks records, output)

structure TerminalTaskRetentionPrepare where
  retiredTasks : List RuntimeTaskRecord := []
  skippedTasks : Nat := 0

/-- The marks of a retention batch, which are made in the local copy only. -/
def prepareTerminalTaskRetention (state : RuntimeState) :
    List RuntimeTaskRecord → RuntimeState × TerminalTaskRetentionPrepare
  | [] => (state, {})
  | expected :: rest =>
    match state.tasks.lookup expected.taskId with
    | none =>
      let (state, prepared) := prepareTerminalTaskRetention state rest
      (state, { prepared with skippedTasks := prepared.skippedTasks + 1 })
    | some current =>
      if current ≠ expected ∨ current.runnerStatus.isTerminal = false then
        let (state, prepared) := prepareTerminalTaskRetention state rest
        (state, { prepared with skippedTasks := prepared.skippedTasks + 1 })
      else
        let retired := { current with retentionState := .removing }
        let (state, prepared) :=
          prepareTerminalTaskRetention { state with tasks := state.tasks.insert expected.taskId retired } rest
        (state, { prepared with retiredTasks := retired :: prepared.retiredTasks })

def Update.state {T : Type} (update : Update T) (now : Int64) (state : RuntimeState) : Except ErrorChain RuntimeState :=
  (update now state).map Prod.fst

section Cases

variable {now : Int64} {state state' : RuntimeState}

theorem Update.state_eq_ok_iff {T : Type} {update : Update T} :
    update.state now state = .ok state' ↔ ∃ output, update now state = .ok (state', output) := by
  rw [Update.state]
  cases update now state with
  | error reason => exact ⟨nofun, nofun⟩
  | ok result =>
    obtain ⟨next, output⟩ := result
    constructor
    · rintro ⟨⟩
      exact ⟨output, rfl⟩
    · rintro ⟨_, ⟨⟩⟩
      rfl

/-- The states that a result of an update can lead to have a property. -/
def Leads {T : Type} (Q : RuntimeState → Prop) : Except ErrorChain (RuntimeState × T) → Prop
  | .ok result => Q result.1
  | .error _ => True

theorem Leads.bind {α T : Type} {Q : RuntimeState → Prop} {x : Except ErrorChain α}
    {f : α → Except ErrorChain (RuntimeState × T)} (h : ∀ a, x = .ok a → Leads Q (f a)) : Leads Q (x >>= f) := by
  cases x with
  | error error => trivial
  | ok a => exact h a rfl

theorem Leads.of_state {T : Type} {Q : RuntimeState → Prop} {update : Update T} (h : Leads Q (update now state))
    (hUpdate : update.state now state = .ok state') : Q state' := by
  obtain ⟨output, hUpdate⟩ := Update.state_eq_ok_iff.mp hUpdate
  rwa [hUpdate] at h

def RuntimeState.withTask (state : RuntimeState) (taskId : TaskRef) (record : RuntimeTaskRecord) : RuntimeState :=
  { state with tasks := state.tasks.insert taskId record }

def RuntimeState.withoutTask (state : RuntimeState) (taskId : TaskRef) (incarnationId : Incarnation) : RuntimeState :=
  { state with tasks := state.tasks.erase taskId }.withoutOwners (· = incarnationId)

variable {preconditions : List ProofArtifactPrecondition} {expected record : RuntimeTaskRecord} {lifetime : TaskLifetime}
  {error : Option String}

theorem registerTaskUpdate_cases (h : (registerTaskUpdate record preconditions).state now state = .ok state') :
    state' = state ∨
      state.tasks.lookup record.taskId = none ∧
      (∀ taskId task, state.tasks.lookup taskId = some task → task.requestFingerprint ≠ record.requestFingerprint) ∧
      state' = state.putTask record := by
  apply Leads.of_state ?_ h
  unfold registerTaskUpdate
  split
  · exact .inl rfl
  · rename_i hNone
    rw [Option.or_eq_none_iff] at hNone
    refine Leads.bind fun _ _ => .inr ⟨hNone.1, fun taskId task hTask => ?_, rfl⟩
    have hOther := List.find?_eq_none.mp hNone.2 task (Table.mem_values_iff.mpr ⟨taskId, hTask⟩)
    simpa using hOther

theorem replaceTaskUpdate_cases (h : (replaceTaskUpdate expected record preconditions).state now state = .ok state') :
    state' = state ∨
      state.tasks.lookup expected.taskId = some expected ∧
      (record.taskId = expected.taskId ∨ state.tasks.lookup record.taskId = none) ∧
      (∀ task ∈ (state.withoutTask expected.taskId expected.incarnationId).tasks.values,
        task.requestFingerprint = record.requestFingerprint → task.taskId = record.taskId) ∧
      state' = (state.withoutTask expected.taskId expected.incarnationId).putTask record := by
  apply Leads.of_state ?_ h
  unfold replaceTaskUpdate
  split
  · exact .inl rfl
  · rename_i current hCurrent
    split
    · exact .inl rfl
    · rename_i hSame
      obtain rfl := not_ne_iff.mp hSame
      refine Leads.bind fun _ _ => Leads.bind fun _ hId => Leads.bind fun _ hFingerprint => ?_
      simp only [ensure_eq_ok, ensureTaskFingerprintAvailable, Bool.or_eq_true, decide_eq_true_eq,
        Option.isNone_iff_eq_none, Bool.not_eq_true', List.any_eq_false, Bool.and_eq_true, not_and] at hId hFingerprint
      refine .inr ⟨hCurrent, hId, fun task hTask hShared => ?_, rfl⟩
      by_contra hNe
      exact hFingerprint task hTask hNe hShared

theorem completeNonterminalTaskUpdate_cases {taskId : TaskRef} {expectedIncarnation : Incarnation} {proofUri : String}
    (h : (completeNonterminalTaskUpdate taskId expectedIncarnation proofUri preconditions).state now state = .ok state') :
    state' = state ∨ ∃ task, state.tasks.lookup taskId = some task ∧ task.incarnationId = expectedIncarnation ∧
      task.runnerStatus.isTerminal = false ∧
      state' = state.withTask taskId { task with
        runnerStatus := .completed, proofUri := some proofUri, error := none, updatedAt := now } := by
  apply Leads.of_state ?_ h
  unfold completeNonterminalTaskUpdate
  split
  · exact .inl rfl
  · rename_i task hTask
    split
    · exact .inl rfl
    · rename_i hGuard
      rw [not_or, not_ne_iff, Bool.not_eq_true] at hGuard
      split
      · exact .inl rfl
      · exact .inr ⟨task, hTask, hGuard.1, hGuard.2, rfl⟩

def RuntimeTaskRecord.recovered (record : RuntimeTaskRecord) (now : Int64) : RuntimeTaskRecord :=
  { record with runnerStatus := .allocated, retentionState := .retained, error := none, updatedAt := now }

theorem prepareTaskForRecoveryUpdate_cases (h : (prepareTaskForRecoveryUpdate expected).state now state = .ok state') :
    state' = state ∨ state.tasks.lookup expected.taskId = some expected ∧ expected.runnerStatus ≠ .completed ∧
      expected.runnerStatus ≠ .cancelled ∧ state' = state.withTask expected.taskId (expected.recovered now) := by
  apply Leads.of_state ?_ h
  unfold prepareTaskForRecoveryUpdate
  split
  · exact .inl rfl
  · rename_i task hTask
    split
    · exact .inl rfl
    · split
      · exact .inl rfl
      · rename_i hGuard
        simp only [not_or, not_ne_iff] at hGuard
        obtain ⟨rfl, hCompleted, hCancelled⟩ := hGuard
        exact .inr ⟨hTask, hCompleted, hCancelled, rfl⟩

theorem guardedTaskUpdate_cases {change : Int64 → RuntimeTaskRecord → RuntimeMutationOutcome × RuntimeTaskRecord}
    (h : (guardedTaskUpdate lifetime change).state now state = .ok state') :
    state' = state ∨ ∃ before after, state.tasks.lookup lifetime.taskId = some before ∧
      before.incarnationId = lifetime.incarnationId ∧ change now before = (.applied, after) ∧
      state' = state.withTask lifetime.taskId after := by
  apply Leads.of_state ?_ h
  unfold guardedTaskUpdate
  split
  · exact .inl rfl
  · rename_i before hBefore
    split
    · exact .inl rfl
    · rename_i hIncarnation
      split
      · rename_i after hChange
        exact .inr ⟨before, after, hBefore, not_ne_iff.mp hIncarnation, hChange, rfl⟩
      · exact .inl rfl

theorem restoreTaskUpdate_cases {prepared original : RuntimeTaskRecord}
    (h : (restoreTaskUpdate prepared original).state now state = .ok state') :
    state' = state ∨ state.tasks.lookup prepared.taskId = some prepared ∧
      state' = state.withTask prepared.taskId original := by
  obtain hSame | ⟨before, after, hBefore, -, hApplied, rfl⟩ := guardedTaskUpdate_cases h
  · exact .inl hSame
  · split at hApplied
    · cases hApplied
    · rename_i hPrepared
      obtain rfl := not_ne_iff.mp hPrepared
      cases hApplied
      exact .inr ⟨hBefore, rfl⟩

/-- A change of a task that is as expected and not over, as failing and cancelling are. -/
theorem openTaskUpdate_cases {change : Int64 → RuntimeTaskRecord → RuntimeTaskRecord}
    (h : (guardedTaskUpdate expected.lifetime fun now task =>
      if task ≠ expected ∨ task.runnerStatus.isTerminal = true then (.blocked, task)
      else (.applied, change now task)).state now state = .ok state') :
    state' = state ∨ state.tasks.lookup expected.taskId = some expected ∧ expected.runnerStatus.isTerminal = false ∧
      state' = state.withTask expected.taskId (change now expected) := by
  obtain hSame | ⟨before, after, hBefore, -, hApplied, rfl⟩ := guardedTaskUpdate_cases h
  · exact .inl hSame
  · split at hApplied
    · cases hApplied
    · rename_i hGuard
      rw [not_or, not_ne_iff, Bool.not_eq_true] at hGuard
      obtain ⟨rfl, hOpen⟩ := hGuard
      cases hApplied
      exact .inr ⟨hBefore, hOpen, rfl⟩

theorem cancelTaskIfCurrentUpdate_cases (h : (cancelTaskIfCurrentUpdate lifetime error).state now state = .ok state') :
    state' = state ∨ ∃ task, state.tasks.lookup lifetime.taskId = some task ∧
      task.incarnationId = lifetime.incarnationId ∧ task.runnerStatus.isTerminal = false ∧
      state' = state.withTask lifetime.taskId { task with runnerStatus := .cancelled, error, updatedAt := now } := by
  obtain hSame | ⟨task, after, hTask, hIncarnation, hApplied, rfl⟩ := guardedTaskUpdate_cases h
  · exact .inl hSame
  · split at hApplied <;> cases hApplied <;> rename_i hStatus <;>
      exact .inr ⟨task, hTask, hIncarnation, by rw [hStatus]; rfl, rfl⟩

theorem retireTaskUpdate_cases (h : (retireTaskUpdate expected error).state now state = .ok state') :
    state' = state ∨ state.tasks.lookup expected.taskId = some expected ∧ expected.runnerStatus ≠ .cancelled ∧
      state' = state.withTask expected.taskId { expected with runnerStatus := .cancelled, error, proofUri := none } := by
  obtain hSame | ⟨before, after, hBefore, -, hApplied, rfl⟩ := guardedTaskUpdate_cases h
  · exact .inl hSame
  · split at hApplied
    · cases hApplied
    · rename_i hExpected
      obtain rfl := not_ne_iff.mp hExpected
      split at hApplied
      · cases hApplied
      · rename_i hCancelled
        cases hApplied
        exact .inr ⟨hBefore, hCancelled, rfl⟩

theorem removeTaskUpdate_cases (h : (removeTaskUpdate lifetime).state now state = .ok state') :
    state' = state ∨ ∃ current, state.tasks.lookup lifetime.taskId = some current ∧
      current.incarnationId = lifetime.incarnationId ∧ current.runnerStatus = .cancelled ∧
      state' = state.withoutTask lifetime.taskId current.incarnationId := by
  apply Leads.of_state ?_ h
  unfold removeTaskUpdate
  split
  · exact .inl rfl
  · rename_i current hCurrent
    split
    · exact .inl rfl
    · rename_i hIncarnation
      split
      · exact .inl rfl
      · rename_i hStatus
        exact .inr ⟨current, hCurrent, not_ne_iff.mp hIncarnation, not_ne_iff.mp hStatus, rfl⟩

end Cases

end Raiko2.Runtime
