import Raiko2.Queue.Loops

/-!
# Which steps start or finish a task

No step of the store but a lease makes a task run, and none but a successful completion makes it succeed. What a
completion does to its own task is stated apart.
-/

namespace Raiko2.Queue

open Lib

variable {P O Id : Type} {s s' s'' : Inner P O Id} {x id : Id}

/-- The states that a task gets by a change of other tasks or of the time. -/
def TaskState.isMoved : TaskState O Id → Bool
  | .running _ _ => false
  | .succeeded _ => false
  | .failed _ none => false
  | _ => true

theorem isIdle_of_isMoved {state : TaskState O Id} (h : state.isMoved = true) : state.isIdle = true := by
  cases state with
  | running leaseToken attempt => cases h
  | succeeded output => cases h
  | _ => rfl

/-- A record that is moved on: it keeps what is to be done, and its state unless that has ended. -/
structure Evolved (before after : TaskRecord P O Id) : Prop where
  payload : after.payload = before.payload
  executionPolicy : after.executionPolicy = before.executionPolicy
  priority : after.priority = before.priority
  state : after.state = before.state ∨ after.state.isMoved = true
  ended : before.state.isTerminal = true → after.state = before.state

theorem Evolved.refl {record : TaskRecord P O Id} : Evolved record record :=
  ⟨rfl, rfl, rfl, Or.inl rfl, fun _ => rfl⟩

theorem Evolved.trans {before middle after : TaskRecord P O Id} (h : Evolved before middle)
    (h' : Evolved middle after) : Evolved before after where
  payload := h'.payload.trans h.payload
  executionPolicy := h'.executionPolicy.trans h.executionPolicy
  priority := h'.priority.trans h.priority
  state := by
    rcases h'.state with hSame | hMoved
    · rw [hSame]
      exact h.state
    · exact Or.inr hMoved
  ended := by
    intro hEnded
    have hMiddle := h.ended hEnded
    rw [h'.ended (hMiddle ▸ hEnded), hMiddle]

variable [DecidableEq Id]

/-- Every task is idle, or has the state and the priority it had. -/
def KeepsRuns (s s' : Inner P O Id) : Prop :=
  ∀ y after, s'.tasks.lookup y = some after → after.state.isIdle = true ∨
    ∃ before, s.tasks.lookup y = some before ∧ before.state = after.state ∧ before.priority = after.priority

theorem KeepsRuns.of_tasks_eq (h : s'.tasks = s.tasks) : KeepsRuns s s' := by
  intro y after hAfter
  rw [h] at hAfter
  exact Or.inr ⟨after, hAfter, rfl, rfl⟩

theorem KeepsRuns.refl : KeepsRuns s s := .of_tasks_eq rfl

theorem KeepsRuns.trans (h : KeepsRuns s s') (h' : KeepsRuns s' s'') : KeepsRuns s s'' := by
  intro y after hAfter
  rcases h' y after hAfter with hIdle | ⟨middle, hMiddle, hState, hPriority⟩
  · exact Or.inl hIdle
  · rcases h y middle hMiddle with hIdle | ⟨before, hBefore, hState', hPriority'⟩
    · exact Or.inl (hState ▸ hIdle)
    · exact Or.inr ⟨before, hBefore, hState'.trans hState, hPriority'.trans hPriority⟩

theorem KeepsRuns.of_lookup (hOthers : ∀ y, y ≠ x → s'.tasks.lookup y = s.tasks.lookup y)
    (hIdle : ∀ after, s'.tasks.lookup x = some after → after.state.isIdle = true) : KeepsRuns s s' := by
  intro y after hAfter
  by_cases hy : y = x
  · subst hy
    exact Or.inl (hIdle after hAfter)
  · rw [hOthers y hy] at hAfter
    exact Or.inr ⟨after, hAfter, rfl, rfl⟩

theorem KeepsRuns.not_running (h : KeepsRuns s s') {leaseToken : String} {attempt : UInt32}
    (hNot : runningLeaseMatches s x leaseToken attempt = false) :
    runningLeaseMatches s' x leaseToken attempt = false := by
  rw [← Bool.not_eq_true] at hNot ⊢
  intro hMatch
  obtain ⟨after, hAfter, hState⟩ := runningLeaseMatches_iff.mp hMatch
  rcases h x after hAfter with hIdle | ⟨before, hBefore, hSame, _⟩
  · rw [hState] at hIdle
    cases hIdle
  · exact hNot (runningLeaseMatches_iff.mpr ⟨before, hBefore, hSame.trans hState⟩)

def Evolves (s s' : Inner P O Id) : Prop :=
  ∀ y after, s'.tasks.lookup y = some after → ∃ before, s.tasks.lookup y = some before ∧ Evolved before after

section Evolving

theorem Evolves.of_tasks_eq (h : s'.tasks = s.tasks) : Evolves s s' := by
  intro y after hAfter
  rw [h] at hAfter
  exact ⟨after, hAfter, .refl⟩

theorem Evolves.refl : Evolves s s := .of_tasks_eq rfl

theorem Evolves.trans (h : Evolves s s') (h' : Evolves s' s'') : Evolves s s'' := by
  intro y after hAfter
  obtain ⟨middle, hMiddle, hLast⟩ := h' y after hAfter
  obtain ⟨before, hBefore, hFirst⟩ := h y middle hMiddle
  exact ⟨before, hBefore, hFirst.trans hLast⟩

theorem Evolves.of_lookup (hOthers : ∀ y, y ≠ x → s'.tasks.lookup y = s.tasks.lookup y)
    (hSelf : ∀ after, s'.tasks.lookup x = some after → ∃ before, s.tasks.lookup x = some before ∧ Evolved before after) :
    Evolves s s' := by
  intro y after hAfter
  by_cases hy : y = x
  · subst hy
    exact hSelf after hAfter
  · rw [hOthers y hy] at hAfter
    exact ⟨after, hAfter, .refl⟩

theorem Evolves.keepsRuns (h : Evolves s s') : KeepsRuns s s' := by
  intro y after hAfter
  obtain ⟨before, hBefore, hEvolved⟩ := h y after hAfter
  rcases hEvolved.state with hSame | hMoved
  · exact Or.inr ⟨before, hBefore, hSame.symm, hEvolved.priority.symm⟩
  · exact Or.inl (isIdle_of_isMoved hMoved)

theorem evolves_setState {state : TaskState O Id} (hNot : isTerminalTask s id = false) (h : state.isMoved = true) :
    Evolves s (s.setState id state) := by
  refine .of_lookup (x := id) (fun y hy => by rw [Inner.lookup_setState, if_neg hy]) fun after hAfter => ?_
  rw [Inner.lookup_setState, if_pos rfl] at hAfter
  obtain ⟨before, hBefore, rfl⟩ := Option.map_eq_some_iff.mp hAfter
  refine ⟨before, hBefore, rfl, rfl, rfl, Or.inr h, fun hEnded => ?_⟩
  rw [isTerminalTask_of_lookup hBefore, hEnded] at hNot
  cases hNot

theorem evolves_finishTask {state : TaskState O Id} (hNot : isTerminalTask s id = false) (h : state.isMoved = true) :
    Evolves s (finishTask s id state) :=
  Evolves.trans (.of_tasks_eq rfl) (evolves_setState hNot h)

theorem evolves_failDependentsLocked (root : Id) (error : String) : Evolves s (failDependentsLocked s root error) :=
  failDependentsLocked_keeps (fun _ _ hNot h => h.trans (evolves_finishTask hNot rfl)) .refl

theorem evolves_cancelTaskLocked (error : String) : Evolves s (cancelTaskLocked s id error).1 :=
  cancelTaskLocked_keeps (fun _ _ hNot h => h.trans (evolves_finishTask hNot rfl))
    (fun _ _ h => h.trans (evolves_failDependentsLocked _ _)) .refl

theorem evolves_removeRetired : Evolves s (removeRetired s id) := by
  refine .of_lookup (x := id) (fun y hy => (Table.lookup_erase_ite).trans (if_neg hy)) fun after hAfter => ?_
  rw [(gone_removeRetired (Or.inl rfl)).tasks] at hAfter
  cases hAfter

theorem evolves_detachOwner {owner : RootOwner} {mode : DetachMode} {outcome : DetachOutcome Id}
    (h : detachOwner s owner mode = .ok (s', outcome)) : Evolves s s' :=
  detachOwner_keeps (fun _ _ _ h => h.trans (.of_tasks_eq rfl)) (fun _ _ _ h => h.trans (evolves_cancelTaskLocked _))
    (fun _ _ h => h.trans evolves_removeRetired) h .refl

variable [ReadyQueueSort Id]

theorem evolves_pushReadyLocked (p : Priority) : Evolves s (pushReadyLocked s p id) :=
  .of_tasks_eq (tasks_pushReadyLocked _ _ _)

theorem evolves_ready {record : TaskRecord P O Id} (hNot : isTerminalTask s id = false) :
    Evolves s (pushReadyLocked (s.setState id .ready) record.priority id) :=
  (evolves_setState hNot rfl).trans (evolves_pushReadyLocked _)

theorem evolves_releaseDependentsLocked (root : Id) : Evolves s (releaseDependentsLocked s root) := by
  refine List.foldlRecOn _ _ .refl fun s' h id _ => releaseDependent_keeps ?_ ?_ h
  · intro s' record remaining state k hRecord hPending hState h
    refine h.trans (.of_lookup (x := id) (fun y hy => Table.lookup_insert_ite.trans (if_neg hy)) fun after hAfter => ?_)
    rw [Table.lookup_insert_ite, if_pos rfl] at hAfter
    cases hAfter
    refine ⟨record, hRecord, rfl, rfl, rfl, Or.inr ?_, fun hEnded => ?_⟩
    · rcases hState with rfl | ⟨_, rfl⟩ <;> rfl
    · rw [hPending] at hEnded
      cases hEnded
  · exact fun _ p h => h.trans (evolves_pushReadyLocked p)

theorem evolves_promoteScheduled {nowMs : UInt64} {limit : Nat} : Evolves s (promoteScheduled s nowMs limit).2 := by
  refine promoteScheduled_keeps (fun _ _ h => h.trans (.of_tasks_eq rfl)) ?_ .refl
  intro s' id record error attempt time hRecord hRetrying h
  refine h.trans (evolves_ready ?_)
  rw [isTerminalTask_of_lookup hRecord, hRetrying]
  rfl

theorem evolves_requeueExpiredLeases (order : List Id) (nowMs : UInt64) (limit : Nat) :
    Evolves s (requeueExpiredLeases s order nowMs limit).2 :=
  requeueExpiredLeases_keeps (fun _ _ _ _ hNot h => h.trans (evolves_ready hNot)) .refl

end Evolving

section Attaching

variable [ReadyQueueSort Id]

theorem keepsRuns_attachGraph [BEq P] {owner : RootOwner} {nodes : List (ExecutionNode P Id)}
    {outcome : AttachOutcome} (h : attachGraph s owner nodes = .ok (s', outcome)) : KeepsRuns s s' := by
  obtain ⟨ordered, _, hRule⟩ := attachGraph_attaching h
  refine hRule (KeepsRuns s) ⟨fun _ _ _ h => h, fun _ _ h => h, fun _ _ h => h, ?_⟩ .refl
  intro s' node record remaining waited _ _ _ hIdle h
  have hPlaced := placed_placeTask s' node.id record remaining waited
  refine h.trans (.of_lookup (fun y hy => (hPlaced.tasks y).trans (if_neg hy)) fun after hAfter => ?_)
  rw [hPlaced.tasks, if_pos rfl] at hAfter
  cases hAfter
  exact hIdle

def KeepsLive (s s' : Inner P O Id) : Prop := ∀ y, s.isLive y = true → s'.tasks.lookup y = s.tasks.lookup y

theorem keepsLive_attachGraph [BEq P] {owner : RootOwner} {nodes : List (ExecutionNode P Id)}
    {outcome : AttachOutcome} (h : attachGraph s owner nodes = .ok (s', outcome)) : KeepsLive s s' := by
  obtain ⟨ordered, _, hRule⟩ := attachGraph_attaching h
  refine hRule (KeepsLive s) ⟨fun _ _ _ h => h, fun _ _ h => h, fun _ _ h => h, ?_⟩ fun _ _ => rfl
  intro s' node record remaining waited _ hStart _ _ h y hy
  have hNe : y ≠ node.id := by
    rintro rfl
    cases hStart.not_done_live.2.symm.trans hy
  rw [(placed_placeTask _ _ _ _ _).tasks, if_neg hNe, h y hy]

end Attaching

section Completion

variable {lease : TaskLease P Id} {result : Except String O} {nowMs : UInt64}

/-- What a completion with effect does: its task has succeeded with the reported output or is idle, and no other task
starts or finishes. -/
structure Completion (s s' : Inner P O Id) (id : Id) (result : Except String O) : Prop where
  self : ∀ after, s'.tasks.lookup id = some after → after.state.isIdle = true ∨
    ∃ output, result = .ok output ∧ after.state = .succeeded output
  others : ∀ y after, y ≠ id → s'.tasks.lookup y = some after → after.state.isIdle = true ∨
    ∃ before, s.tasks.lookup y = some before ∧ before.state = after.state ∧ before.priority = after.priority

theorem Completion.trans (c : Completion s s' id result) (k : KeepsRuns s' s'') : Completion s s'' id result where
  self := by
    intro after hAfter
    rcases k id after hAfter with hIdle | ⟨middle, hMiddle, hState, _⟩
    · exact Or.inl hIdle
    · rw [← hState]
      exact c.self middle hMiddle
  others := by
    intro y after hy hAfter
    rcases k y after hAfter with hIdle | ⟨middle, hMiddle, hState, hPriority⟩
    · exact Or.inl hIdle
    · rw [← hState, ← hPriority]
      exact c.others y middle hy hMiddle

theorem completion_of_lookup (hOthers : ∀ y, y ≠ id → s'.tasks.lookup y = s.tasks.lookup y)
    (hSelf : ∀ after, s'.tasks.lookup id = some after → after.state.isIdle = true ∨
      ∃ output, result = .ok output ∧ after.state = .succeeded output) : Completion s s' id result := by
  refine ⟨hSelf, fun y after hy hAfter => ?_⟩
  rw [hOthers y hy] at hAfter
  exact Or.inr ⟨after, hAfter, rfl, rfl⟩

theorem completion_finishTask {state : TaskState O Id}
    (h : state.isIdle = true ∨ ∃ output, result = .ok output ∧ state = .succeeded output) :
    Completion s (finishTask s id state) id result := by
  refine completion_of_lookup (fun y hy => by rw [Inner.lookup_finishTask, if_neg hy]) fun after hAfter => ?_
  rw [Inner.lookup_finishTask, if_pos rfl] at hAfter
  obtain ⟨before, _, rfl⟩ := Option.map_eq_some_iff.mp hAfter
  exact h

theorem completion_setPayload_setState {payload : P} {state : TaskState O Id} (h : state.isIdle = true) :
    Completion s ((setPayload s id payload).setState id state) id result := by
  refine completion_of_lookup (fun y hy => ?_) fun after hAfter => ?_
  · rw [Inner.lookup_setState, if_neg hy]
    exact (Table.lookup_modify).trans (if_neg hy)
  · rw [Inner.lookup_setState, if_pos rfl] at hAfter
    obtain ⟨before, _, rfl⟩ := Option.map_eq_some_iff.mp hAfter
    exact Or.inl h

theorem keepsRuns_modify (f : TaskRecord P O Id → TaskRecord P O Id) (hState : ∀ record, (f record).state = record.state)
    (hPriority : ∀ record, (f record).priority = record.priority) :
    KeepsRuns s { s with tasks := s.tasks.modify id f } := by
  intro y after hAfter
  right
  change (s.tasks.modify id f).lookup y = some after at hAfter
  rw [Table.lookup_modify] at hAfter
  split at hAfter
  · obtain ⟨before, hBefore, rfl⟩ := Option.map_eq_some_iff.mp hAfter
    exact ⟨before, hBefore, (hState before).symm, (hPriority before).symm⟩
  · exact ⟨after, hAfter, rfl, rfl⟩

/-- A call with a lease that has an effect exactly while the lease runs. -/
structure LeaseCall (s : Inner P O Id) (lease : TaskLease P Id) (called : Inner P O Id × Bool) : Prop where
  accepted : called.2 = runningLeaseMatches s lease.id lease.leaseToken lease.attempt
  refused : called.2 = false → called.1 = s
  keeps : KeepsRuns s called.1

theorem leaseCall_modify {lease : TaskLease P Id} (f : TaskRecord P O Id → TaskRecord P O Id)
    (hState : ∀ record, (f record).state = record.state) (hPriority : ∀ record, (f record).priority = record.priority) :
    LeaseCall s lease (if runningLeaseMatches s lease.id lease.leaseToken lease.attempt then
      ({ s with tasks := s.tasks.modify lease.id f }, true) else (s, false)) := by
  split
  · rename_i hMatch
    exact ⟨hMatch.symm, by simp, keepsRuns_modify f hState hPriority⟩
  · rename_i hMatch
    exact ⟨by simpa using hMatch, fun _ => rfl, .refl⟩

theorem leaseCall_checkpointPayload (s : Inner P O Id) (lease : TaskLease P Id) (payload : P)
    (executionPolicy : TaskExecutionPolicy) : LeaseCall s lease (checkpointPayload s lease payload executionPolicy) :=
  leaseCall_modify _ (fun _ => rfl) fun _ => rfl

theorem leaseCall_renewTaskLease (s : Inner P O Id) (storeLease : Nat) (lease : TaskLease P Id) (nowMs : UInt64) :
    LeaseCall s lease (renewTaskLease s storeLease lease nowMs) :=
  leaseCall_modify _ (fun _ => rfl) fun _ => rfl

variable [ReadyQueueSort Id]

theorem completeWithDisposition_cases (s : Inner P O Id) (lease : TaskLease P Id) (result : Except String O)
    (nowMs : UInt64) :
    (runningLeaseMatches s lease.id lease.leaseToken lease.attempt = false ∧
      completeWithDisposition s lease result nowMs = (s, .stale)) ∨
    (runningLeaseMatches s lease.id lease.leaseToken lease.attempt = true ∧
      (completeWithDisposition s lease result nowMs).2 ≠ .stale ∧
      Completion s (completeWithDisposition s lease result nowMs).1 lease.id result) := by
  cases hMatch : runningLeaseMatches s lease.id lease.leaseToken lease.attempt with
  | false => exact Or.inl ⟨rfl, completes_stale hMatch result nowMs⟩
  | true =>
    obtain ⟨store, disposition, hEq, hDone⟩ := completeWithDisposition_completes s lease result nowMs
    rw [hEq]
    refine Or.inr ⟨rfl, ?_⟩
    cases hDone with
    | stale _ hNot =>
      rw [hMatch] at hNot
      cases hNot
    | succeeded output =>
      exact ⟨nofun,
        (completion_finishTask (Or.inr ⟨output, rfl, rfl⟩)).trans (evolves_releaseDependentsLocked _).keepsRuns⟩
    | failed error =>
      exact ⟨nofun, (completion_finishTask (Or.inl rfl)).trans (evolves_failDependentsLocked _ _).keepsRuns⟩
    | retryNow error =>
      exact ⟨nofun, (completion_setPayload_setState rfl).trans (evolves_pushReadyLocked _).keepsRuns⟩
    | retryLater error time =>
      exact ⟨nofun, Completion.trans (completion_setPayload_setState rfl) (.of_tasks_eq rfl)⟩

end Completion

end Raiko2.Queue
