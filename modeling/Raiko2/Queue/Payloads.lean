import Raiko2.Queue.Execution

/-!
# The payloads of tasks that are not over

A live task keeps its payload and its policy under every step, but for the two that a worker makes with its lease: a
checkpoint, and a completion that puts the task back. A lease carries the payload that its task has.
-/

namespace Raiko2.Queue

open Lib

variable {P O Id : Type} [DecidableEq Id]

section Kept

variable {s s' : Inner P O Id}

/-- A task that was live, or that is running, has only been moved on. -/
def KeepsTasks (s s' : Inner P O Id) : Prop :=
  ∀ y after, s'.tasks.lookup y = some after →
    (s.isLive y = true ∨ ∃ leaseToken attempt, after.state = .running leaseToken attempt) →
    ∃ before, s.tasks.lookup y = some before ∧ Evolved before after

omit [DecidableEq Id] in
theorem Evolved.running {before after : TaskRecord P O Id} (h : Evolved before after) {leaseToken : String}
    {attempt : UInt32} (hState : after.state = .running leaseToken attempt) :
    before.state = .running leaseToken attempt := by
  rcases h.state with hSame | hMoved
  · rw [← hSame, hState]
  · rw [hState] at hMoved
    cases hMoved

theorem Evolves.keepsTasks (h : Evolves s s') : KeepsTasks s s' := fun y after hAfter _ => h y after hAfter

theorem keepsTasks_attachGraph [BEq P] [ReadyQueueSort Id] {owner : RootOwner} {nodes : List (ExecutionNode P Id)}
    {outcome : AttachOutcome} (h : attachGraph s owner nodes = .ok (s', outcome)) : KeepsTasks s s' := by
  intro y after hAfter hTask
  have hLive : s.isLive y = true := by
    rcases hTask with hLive | ⟨leaseToken, attempt, hState⟩
    · exact hLive
    · -- What runs now ran before.
      rcases keepsRuns_attachGraph h y after hAfter with hIdle | ⟨before, hBefore, hSame, _⟩
      · rw [hState] at hIdle
        cases hIdle
      · exact Inner.isLive_iff.mpr ⟨before, hBefore, by rw [hSame, hState]; rfl⟩
  rw [keepsLive_attachGraph h y hLive] at hAfter
  exact ⟨after, hAfter, .refl⟩

theorem evolves_renew {id : Id} {time : TaskRecord P O Id → Option UInt64} :
    Evolves s { s with tasks := s.tasks.modify id fun record => { record with leaseUntilMs := time record } } := by
  refine .of_lookup (x := id) (fun y hy => Table.lookup_modify.trans (if_neg hy)) fun after hAfter => ?_
  rw [Table.lookup_modify, if_pos rfl] at hAfter
  obtain ⟨before, hBefore, rfl⟩ := Option.map_eq_some_iff.mp hAfter
  exact ⟨before, hBefore, rfl, rfl, rfl, Or.inl rfl, fun _ => rfl⟩

theorem evolves_renewTaskLease (storeLease : Nat) (lease : TaskLease P Id) (nowMs : UInt64) :
    Evolves s (renewTaskLease s storeLease lease nowMs).1 := by
  rw [renewTaskLease, renewLease]
  split
  · exact evolves_renew
  · exact .refl

theorem lookup_of_retireTasks_remove {retired : List Id} {y : Id} {after : TaskRecord P O Id}
    (hAfter : (retireTasks s .remove retired).tasks.lookup y = some after) : s.tasks.lookup y = some after := by
  have hRetire : ∀ (retired : List Id) (s : Inner P O Id),
      (retired.foldl removeRetired s).tasks.lookup y = some after → s.tasks.lookup y = some after := by
    intro retired
    induction retired with
    | nil => exact fun s hLookup => hLookup
    | cons id retired ih =>
      intro s hLookup
      exact (Table.lookup_erase_eq_some.mp (ih _ hLookup)).2
  rw [retireTasks] at hAfter
  have hBefore := hRetire retired _ hAfter
  exact hBefore

theorem lookup_of_detachOwner_remove {owner : RootOwner} {outcome : DetachOutcome Id}
    (h : detachOwner s owner .remove = .ok (s', outcome)) {y : Id} {after : TaskRecord P O Id}
    (hAfter : s'.tasks.lookup y = some after) : s.tasks.lookup y = some after := by
  rw [detachOwner] at h
  split at h
  · cases h
    exact hAfter
  · rename_i graph _
    dsimp only at h
    split at h
    · cases h
      exact hAfter
    · rw [Outcome.ensure_bind_eq_ok_iff] at h
      cases h.2
      obtain ⟨left, hLeft⟩ := leaveTasks_eq s owner graph
      rw [hLeft] at hAfter
      exact lookup_of_retireTasks_remove (s := { s with taskOwners := left }) hAfter

end Kept

section Granted

variable {s s' : System P O Id} {lease : TaskLease P Id}

/-- A step that hands out a lease, on the payload that its task has. -/
structure Grant (s s' : System P O Id) (lease : TaskLease P Id) : Prop where
  granted : s'.granted = lease :: s.granted
  fresh : ∀ other ∈ s.granted, other.leaseToken ≠ lease.leaseToken
  own : ∃ before after, s.store.tasks.lookup lease.id = some before ∧ before.state = .ready ∧
    before.payload = some lease.payload ∧ before.executionPolicy = lease.executionPolicy ∧
    s'.store.tasks.lookup lease.id = some after ∧ after.payload = before.payload ∧
    after.executionPolicy = before.executionPolicy ∧ after.state = .running lease.leaseToken lease.attempt
  others : ∀ y, y ≠ lease.id → s'.store.tasks.lookup y = s.store.tasks.lookup y

def Event.isWorkers : Event P O Id → Bool
  | .complete _ _ _ => true
  | .checkpoint _ _ _ => true
  | _ => false

variable [ReadyQueueSort Id] [BEq P]

theorem SystemInv.keepsTasks_or_grant (h : SystemInv s) (storeLease : Nat) {event : Event P O Id}
    (hWorkers : event.isWorkers = false) :
    KeepsTasks s.store (System.step storeLease s event).store ∧ (System.step storeLease s event).granted = s.granted ∨
      ∃ lease, Grant s (System.step storeLease s event) lease := by
  have hMove := System.storeMove storeLease s event
  generalize System.step storeLease s event = s' at hMove ⊢
  obtain ⟨store, calls, usedTokens, granted, completed⟩ := s'
  cases hMove with
  | same => exact Or.inl ⟨Evolves.refl.keepsTasks, rfl⟩
  | attach hOk => exact Or.inl ⟨keepsTasks_attachGraph hOk, rfl⟩
  | detach hOk => exact Or.inl ⟨(evolves_detachOwner hOk).keepsTasks, rfl⟩
  | pop => exact Or.inl ⟨(Evolves.of_tasks_eq (Inner.tasks_setQueue _ _ _)).keepsTasks, rfl⟩
  | take attempt sequence hCall hRecord hState hPayload =>
    refine Or.inr ⟨_, rfl, h.tokens.callFresh _ _ hCall, ?_, fun y hy => Table.lookup_insert_ite.trans (if_neg hy)⟩
    exact ⟨_, _, hRecord, hState, hPayload, rfl, Table.lookup_insert_ite.trans (if_pos rfl), rfl, rfl, rfl⟩
  | complete => cases hWorkers
  | checkpoint => cases hWorkers
  | renew => exact Or.inl ⟨evolves_renew.keepsTasks, rfl⟩
  | promote => exact Or.inl ⟨evolves_promoteScheduled.keepsTasks, rfl⟩
  | requeue nowMs order => exact Or.inl ⟨(evolves_requeueExpiredLeases order nowMs _).keepsTasks, rfl⟩

end Granted

section Used

variable {s : Inner P O Id} {lease : TaskLease P Id} {result : Except String O} {nowMs : UInt64}

structure Returned (lease : TaskLease P Id) (result : Except String O) (before after : TaskRecord P O Id) : Prop where
  executionPolicy : after.executionPolicy = before.executionPolicy
  ended : ∀ leaseToken attempt, after.state ≠ .running leaseToken attempt
  retried : after.state.isTerminal = false → after.payload = some lease.payload ∧ ∃ error, result = .error error
  failed : ∀ error, after.state = .failed error none →
    result = .error error ∧ lease.executionPolicy.failureIsTerminal lease.attempt = true

variable {s' : Inner P O Id} {state : TaskState O Id} {y : Id} {after : TaskRecord P O Id}

theorem returned_of_finished (hEvolves : Evolves (finishTask s lease.id state) s') (hTerminal : state.isTerminal = true)
    (hFailed : ∀ error, state = .failed error none →
      result = .error error ∧ lease.executionPolicy.failureIsTerminal lease.attempt = true)
    (hAfter : s'.tasks.lookup y = some after) :
    ∃ before, s.tasks.lookup y = some before ∧ (y ≠ lease.id → Evolved before after) ∧
      (y = lease.id → Returned lease result before after) := by
  obtain ⟨middle, hMiddle, hEvolved⟩ := hEvolves y after hAfter
  rw [Inner.lookup_finishTask] at hMiddle
  split at hMiddle
  · rename_i hy
    obtain ⟨before, hBefore, rfl⟩ := Option.map_eq_some_iff.mp hMiddle
    have hSame : after.state = state := hEvolved.ended hTerminal
    refine ⟨before, hBefore, fun hNe => absurd hy hNe, fun _ => ⟨hEvolved.executionPolicy, ?_, ?_, ?_⟩⟩
    · intro leaseToken attempt hRunning
      rw [← hSame, hRunning] at hTerminal
      cases hTerminal
    · intro hLive
      rw [hSame, hTerminal] at hLive
      cases hLive
    · rw [hSame]
      exact hFailed
  · rename_i hy
    exact ⟨middle, hMiddle, fun _ => hEvolved, fun h => absurd h hy⟩

theorem returned_of_retried (state : TaskState O Id) {error : String}
    (hTasks : s'.tasks = ((setPayload s lease.id lease.payload).setState lease.id state).tasks)
    (hLive : state.isTerminal = false) (hIdle : state.isIdle = true) (hAfter : s'.tasks.lookup y = some after) :
    ∃ before, s.tasks.lookup y = some before ∧ (y ≠ lease.id → Evolved before after) ∧
      (y = lease.id → Returned lease (.error error : Except String O) before after) := by
  rw [hTasks, Inner.lookup_setState, setPayload, Table.lookup_modify] at hAfter
  split at hAfter
  · rename_i hy
    rw [Option.map_map] at hAfter
    obtain ⟨before, hBefore, rfl⟩ := Option.map_eq_some_iff.mp hAfter
    refine ⟨before, hBefore, fun hNe => absurd hy hNe, fun _ => ⟨rfl, ?_, fun _ => ⟨rfl, error, rfl⟩, ?_⟩⟩
    · rintro leaseToken attempt (rfl : state = _)
      cases hIdle
    · rintro error (rfl : state = _)
      cases hLive
  · rename_i hy
    exact ⟨after, hAfter, fun _ => .refl, fun h => absurd h hy⟩

theorem checkpointPayload_lookup (payload : P) (policy : TaskExecutionPolicy)
    (hMatch : runningLeaseMatches s lease.id lease.leaseToken lease.attempt = true) (y : Id) :
    (checkpointPayload s lease payload policy).1.tasks.lookup y =
      if y = lease.id then (s.tasks.lookup y).map fun record =>
        { record with payload := some payload, executionPolicy := policy }
      else s.tasks.lookup y := by
  rw [checkpointPayload, checkpointPayloadIfRunning, if_pos hMatch]
  exact Table.lookup_modify

variable [ReadyQueueSort Id]

theorem completeWithDisposition_lookup
    (hMatch : runningLeaseMatches s lease.id lease.leaseToken lease.attempt = true)
    (hAfter : (completeWithDisposition s lease result nowMs).1.tasks.lookup y = some after) :
    ∃ before, s.tasks.lookup y = some before ∧ (y ≠ lease.id → Evolved before after) ∧
      (y = lease.id → Returned lease result before after) := by
  obtain ⟨store, disposition, hEq, hDone⟩ := completeWithDisposition_completes s lease result nowMs
  rw [hEq] at hAfter
  cases hDone with
  | stale _ hNot => cases hMatch.symm.trans hNot
  | succeeded output => exact returned_of_finished (evolves_releaseDependentsLocked _) rfl (by rintro _ ⟨⟩) hAfter
  | failed error _ _ hDelay =>
    refine returned_of_finished (evolves_failDependentsLocked _ _) rfl ?_ hAfter
    rintro _ ⟨⟩
    rw [TaskExecutionPolicy.failureIsTerminal, hDelay]
    exact ⟨rfl, rfl⟩
  | retryNow => exact returned_of_retried .ready (tasks_pushReadyLocked _ _ _) rfl rfl hAfter
  | retryLater error time => exact returned_of_retried (.retrying error lease.attempt time) rfl rfl rfl hAfter

theorem completeWithDisposition_retrying
    (hMatch : runningLeaseMatches s lease.id lease.leaseToken lease.attempt = true) {error : String} {delay : Nat}
    (hDelay : lease.executionPolicy.retry.retryDelay lease.attempt = some delay) (hPositive : delay ≠ 0) :
    ∃ after time, (completeWithDisposition s lease (.error error) nowMs).1.tasks.lookup lease.id = some after ∧
      after.state = .retrying error lease.attempt time := by
  obtain ⟨store, disposition, hEq, hDone⟩ := completeWithDisposition_completes s lease (.error error) nowMs
  rw [hEq]
  cases hDone with
  | stale _ hNot => cases hMatch.symm.trans hNot
  | failed _ _ _ hNone => cases hDelay.symm.trans hNone
  | retryNow _ _ _ hZero => exact absurd (Option.some.inj (hDelay.symm.trans hZero)) hPositive
  | retryLater _ time hRecord hState =>
    exact ⟨_, time, (taskUpdate_setPayload_setState lease.payload _ hRecord (by rw [hState]; rfl) rfl).after, rfl⟩

end Used

end Raiko2.Queue
