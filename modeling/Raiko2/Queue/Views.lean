import Raiko2.Queue.Store

/-!
# What each store update leaves in place

The parts of the store that its invariants read, after each of the updates the operations are made of.
-/

namespace Raiko2.Queue

open Lib List

variable {P O Id : Type}

/-- The id is in a bucket of the time. -/
def InBucket (scheduled : List (UInt64 × List Id)) (time : UInt64) (id : Id) : Prop :=
  ∃ ids, (time, ids) ∈ scheduled ∧ id ∈ ids

@[simp] theorem not_inBucket_nil {time : UInt64} {id : Id} : ¬InBucket [] time id := by
  rintro ⟨ids, h, _⟩
  cases h

variable {scheduled : List (UInt64 × List Id)}

@[simp] theorem inBucket_cons {entry : UInt64 × List Id} {time : UInt64} {id : Id} :
    InBucket (entry :: scheduled) time id ↔ time = entry.1 ∧ id ∈ entry.2 ∨ InBucket scheduled time id := by
  simp only [InBucket, mem_cons]
  constructor
  · rintro ⟨ids, rfl | h, hMem⟩
    · exact Or.inl ⟨rfl, hMem⟩
    · exact Or.inr ⟨ids, h, hMem⟩
  · rintro (⟨rfl, hMem⟩ | ⟨ids, h, hMem⟩)
    · exact ⟨entry.2, Or.inl rfl, hMem⟩
    · exact ⟨ids, Or.inr h, hMem⟩

theorem inBucket_pushScheduled {time t : UInt64} {id x : Id} :
    InBucket (pushScheduled time id scheduled) t x ↔ t = time ∧ x = id ∨ InBucket scheduled t x := by
  induction scheduled with
  | nil => simp [pushScheduled]
  | cons entry scheduled ih =>
    obtain ⟨t', ids⟩ := entry
    simp only [pushScheduled]
    split
    · simp
    · split
      · rename_i hEq
        subst hEq
        simp only [inBucket_cons, mem_append, mem_singleton]
        tauto
      · simp only [inBucket_cons, ih]
        tauto

namespace Inner

variable (s : Inner P O Id) (p q : Priority) (ids : List Id)

@[simp] theorem queue_setQueue : (s.setQueue p ids).queue q = if q = p then ids else s.queue q := by
  cases p <;> cases q <;> rfl

@[simp] theorem queue_withScheduled (scheduled : List (UInt64 × List Id)) :
    ({ s with scheduled } : Inner P O Id).queue p = s.queue p := by
  cases p <;> rfl

@[simp] theorem tasks_setQueue : (s.setQueue p ids).tasks = s.tasks := by cases p <;> rfl

@[simp] theorem remaining_setQueue : (s.setQueue p ids).remaining = s.remaining := by cases p <;> rfl

@[simp] theorem dependents_setQueue : (s.setQueue p ids).dependents = s.dependents := by cases p <;> rfl

@[simp] theorem scheduled_setQueue : (s.setQueue p ids).scheduled = s.scheduled := by cases p <;> rfl

@[simp] theorem taskOwners_setQueue : (s.setQueue p ids).taskOwners = s.taskOwners := by cases p <;> rfl

@[simp] theorem ownerGraphs_setQueue : (s.setQueue p ids).ownerGraphs = s.ownerGraphs := by cases p <;> rfl

end Inner

section Ready

variable [ReadyQueueSort Id]

@[simp] theorem mem_insertReadySorted {deque : List Id} {id x : Id} :
    x ∈ insertReadySorted deque id ↔ x = id ∨ x ∈ deque := by
  rw [insertReadySorted, mem_append, mem_cons, or_left_comm, ← mem_append, takeWhile_append_dropWhile]

theorem mem_queue_pushReadyLocked {s : Inner P O Id} {p q : Priority} {id x : Id} :
    x ∈ (pushReadyLocked s p id).queue q ↔ q = p ∧ x = id ∨ x ∈ s.queue q := by
  rw [pushReadyLocked, Inner.queue_setQueue]
  split
  · rename_i h
    subst h
    simp
  · simp_all

variable (s : Inner P O Id) (p : Priority) (id : Id)

@[simp] theorem tasks_pushReadyLocked : (pushReadyLocked s p id).tasks = s.tasks := Inner.tasks_setQueue _ _ _

@[simp] theorem remaining_pushReadyLocked : (pushReadyLocked s p id).remaining = s.remaining :=
  Inner.remaining_setQueue _ _ _

@[simp] theorem dependents_pushReadyLocked : (pushReadyLocked s p id).dependents = s.dependents :=
  Inner.dependents_setQueue _ _ _

@[simp] theorem scheduled_pushReadyLocked : (pushReadyLocked s p id).scheduled = s.scheduled :=
  Inner.scheduled_setQueue _ _ _

@[simp] theorem taskOwners_pushReadyLocked : (pushReadyLocked s p id).taskOwners = s.taskOwners :=
  Inner.taskOwners_setQueue _ _ _

@[simp] theorem ownerGraphs_pushReadyLocked : (pushReadyLocked s p id).ownerGraphs = s.ownerGraphs :=
  Inner.ownerGraphs_setQueue _ _ _

end Ready

variable [DecidableEq Id]

theorem inBucket_retainScheduled {t : UInt64} {id x : Id} :
    InBucket (retainScheduled id scheduled) t x ↔ InBucket scheduled t x ∧ x ≠ id := by
  induction scheduled with
  | nil => simp [retainScheduled]
  | cons entry scheduled ih =>
    obtain ⟨t', ids⟩ := entry
    have hStep : InBucket (retainScheduled id ((t', ids) :: scheduled)) t x ↔
        t = t' ∧ x ∈ ids.filter (· ≠ id) ∨ InBucket (retainScheduled id scheduled) t x := by
      by_cases hEmpty : (ids.filter (· ≠ id)).isEmpty
      · rw [retainScheduled, filterMap_cons_none (by simp only [hEmpty, if_true]), ← retainScheduled,
          isEmpty_iff.mp hEmpty]
        simp
      · rw [retainScheduled, filterMap_cons_some (b := (t', ids.filter (· ≠ id)))
          (by simp only [hEmpty]; rfl), ← retainScheduled, inBucket_cons]
    rw [hStep, ih, inBucket_cons]
    simp only [mem_filter, decide_eq_true_eq]
    tauto

namespace Inner

variable (s : Inner P O Id) (p : Priority) (id x d : Id) {state : TaskState O Id}

theorem lookup_setState : (s.setState id state).tasks.lookup x =
    if x = id then (s.tasks.lookup x).map fun record => { record with state, leaseUntilMs := none }
    else s.tasks.lookup x :=
  Table.lookup_modify

@[simp] theorem queue_setState : (s.setState id state).queue p = s.queue p := by
  cases p <;> rfl

theorem queue_removeQueueMemberships : (removeQueueMemberships s id).queue p = (s.queue p).filter (· ≠ id) := by
  cases p <;> rfl

theorem lookup_finishTask : (finishTask s id state).tasks.lookup x =
    if x = id then (s.tasks.lookup x).map fun record => { record with state, leaseUntilMs := none }
    else s.tasks.lookup x :=
  lookup_setState _ _ _

theorem mem_queue_finishTask :
    x ∈ (finishTask s id state).queue p ↔ x ∈ s.queue p ∧ x ≠ id := by
  rw [finishTask, queue_setState, queue_removeQueueMemberships, mem_filter, decide_eq_true_eq]

theorem inBucket_finishTask {time : UInt64} :
    InBucket (finishTask s id state).scheduled time x ↔ InBucket s.scheduled time x ∧ x ≠ id :=
  inBucket_retainScheduled

theorem dependentsOf_removeDependentEdges :
    (removeDependentEdges s id).dependentsOf d = (s.dependentsOf d).filter (· ≠ id) := by
  rw [dependentsOf, removeDependentEdges, Table.lookup_retain, dependentsOf]
  cases s.dependents.lookup d with
  | none => rfl
  | some ids =>
    by_cases hEmpty : (ids.filter (· ≠ id)).isEmpty
    · simp only [Option.bind_some, hEmpty, if_true, Option.getD_none, Option.getD_some]
      rw [isEmpty_iff.mp hEmpty]
    · simp only [Option.bind_some, hEmpty, Option.getD_some]
      rfl

theorem dependentsOf_addDependentEdges {deps : List Id} :
    (addDependentEdges s deps id).dependentsOf d = s.dependentsOf d ++ replicate (deps.count d) id := by
  induction deps generalizing s with
  | nil => simp [addDependentEdges]
  | cons dep deps ih =>
    have hStep : addDependentEdges s (dep :: deps) id =
        addDependentEdges { s with dependents := s.dependents.insert dep (s.dependentsOf dep ++ [id]) } deps id := rfl
    rw [hStep, ih, dependentsOf, Table.lookup_insert_ite, count_cons]
    by_cases hDep : d = dep
    · subst hDep
      simp [replicate_succ]
    · have hNe : dep ≠ d := fun h => hDep h.symm
      simp [hDep, hNe, dependentsOf]

end Inner

section Leases

theorem runningLeaseMatches_iff {s : Inner P O Id} {id : Id} {leaseToken : String} {attempt : UInt32} :
    runningLeaseMatches s id leaseToken attempt = true ↔
      ∃ record, s.tasks.lookup id = some record ∧ record.state = .running leaseToken attempt := by
  rw [runningLeaseMatches, Inner.stateOf]
  cases s.tasks.lookup id with
  | none => simp
  | some record => cases hState : record.state <;> simp [hState]

end Leases

end Raiko2.Queue
