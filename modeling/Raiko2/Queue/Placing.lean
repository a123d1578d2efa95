import Mathlib.Data.Finset.Lattice.Lemmas
import Raiko2.Queue.Invariant

/-!
# Placing a task in the store

The state that a new task gets from those of its dependencies, and the one change by which a task is entered: its
record, its counter, the edges of the dependencies it waits for and its place in the ready queue.
-/

namespace Raiko2.Queue

open Lib Queue.Inner List

variable {P O Id : Type} [DecidableEq Id] {s s' : Inner P O Id} {popped exempt : Id → Prop} {x : Id}

section Resolving

def Inner.isLostTask (s : Inner P O Id) (id : Id) : Bool := (s.stateOf id).any (·.isLost)

theorem Inner.isLostTask_of_lookup {record : TaskRecord P O Id} (h : s.tasks.lookup x = some record) :
    s.isLostTask x = record.state.isLost := by
  simp [isLostTask, stateOf, h]

theorem Inner.isLostTask_congr (h : s'.tasks.lookup x = s.tasks.lookup x) : s'.isLostTask x = s.isLostTask x := by
  rw [isLostTask, isLostTask, stateOf, stateOf, h]

theorem Inner.isDone_or_isLive {record : TaskRecord P O Id} (hRecord : s.tasks.lookup x = some record)
    (hLost : s.isLostTask x = false) : s.isDone x = true ∨ s.isLive x = true := by
  rw [isDone_of_lookup hRecord, isLive_of_lookup hRecord]
  rw [isLostTask_of_lookup hRecord] at hLost
  cases hState : record.state <;> simp_all [TaskState.isLost, TaskState.isSucceeded, TaskState.isTerminal]

theorem Inner.not_done_live_of_isLostTask (h : s.isLostTask x = true) : s.isDone x = false ∧ s.isLive x = false := by
  rw [isLostTask] at h
  rw [isDone, isLive]
  cases hState : s.stateOf x with
  | none => exact ⟨rfl, rfl⟩
  | some state =>
    rw [hState] at h
    exact ⟨isSucceeded_of_isLost h, by simp [isTerminal_of_isLost h]⟩

theorem Inner.not_done_live_of_lookup_eq_none (h : s.tasks.lookup x = none) :
    s.isDone x = false ∧ s.isLive x = false := by
  simp [isDone, isLive, stateOf, h]

theorem resolveDependencyInsertState_of_not_lost {deps : List Id} (h : ∀ d ∈ deps, s.isLostTask d = false) :
    resolveDependencyInsertState s deps =
      .pending (deps.countP fun d => !s.isDone d) (deps.filter fun d => !s.isDone d) := by
  induction deps with
  | nil => rfl
  | cons dep deps ih =>
    have hRest := ih fun d hd => h d (mem_cons_of_mem _ hd)
    have hDep := h dep mem_cons_self
    have hDone : s.isDone dep = (s.stateOf dep).any (·.isSucceeded) := rfl
    rw [resolveDependencyInsertState, hRest, countP_cons, filter_cons, hDone]
    rw [isLostTask] at hDep
    generalize s.stateOf dep = state at hDep ⊢
    rcases state with _ | state
    · rfl
    · cases state <;> first | rfl | cases hDep

theorem resolveDependencyInsertState_of_lost {deps : List Id} (h : ∃ d ∈ deps, s.isLostTask d = true) :
    resolveDependencyInsertState s deps = .failed ∨ resolveDependencyInsertState s deps = .cancelled := by
  induction deps with
  | nil => simp at h
  | cons dep deps ih =>
    have hRest : s.isLostTask dep = false →
        resolveDependencyInsertState s deps = .failed ∨ resolveDependencyInsertState s deps = .cancelled := by
      intro hDep
      obtain ⟨d, hd, hLost⟩ := h
      rcases mem_cons.mp hd with rfl | hd
      · rw [hLost] at hDep
        cases hDep
      · exact ih ⟨d, hd, hLost⟩
    rw [resolveDependencyInsertState]
    rw [isLostTask] at hRest
    cases hState : s.stateOf dep with
    | none =>
      rw [hState] at hRest
      rcases hRest rfl with h | h <;> simp [h]
    | some state =>
      rw [hState] at hRest
      cases state with
      | failed => exact Or.inl rfl
      | cancelled => exact Or.inr rfl
      | _ => rcases hRest rfl with h | h <;> simp [h]

end Resolving

section Placing

variable {base : Inner P O Id} {record : TaskRecord P O Id} {remaining : Nat} {waited : List Id}

/-- The parts of the store that placing a task leaves alone or changes in one place. -/
structure Placed (base s : Inner P O Id) (x : Id) (record : TaskRecord P O Id) (remaining : Nat)
    (waited : List Id) : Prop where
  tasks : ∀ y, s.tasks.lookup y = if y = x then some record else base.tasks.lookup y
  remaining : ∀ y, s.remaining.lookup y = if y = x then some remaining else base.remaining.lookup y
  dependents : ∀ d, s.dependentsOf d = base.dependentsOf d ++ replicate (waited.count d) x
  owners : s.taskOwners = base.taskOwners
  graphs : s.ownerGraphs = base.ownerGraphs
  scheduled : s.scheduled = base.scheduled
  queue : ∀ y p, y ∈ s.queue p ↔ y ∈ base.queue p ∨ y = x ∧ p = record.priority ∧ record.state = .ready

theorem placed_placeTask [ReadyQueueSort Id] (base : Inner P O Id) (x : Id) (record : TaskRecord P O Id) (remaining : Nat)
    (waited : List Id) : Placed base (placeTask base x record remaining waited) x record remaining waited := by
  rw [placeTask]
  split
  · rename_i hReady
    constructor
    · intro y
      rw [tasks_pushReadyLocked]
      exact Table.lookup_insert_ite
    · intro y
      rw [remaining_pushReadyLocked]
      exact Table.lookup_insert_ite
    · intro d
      rw [dependentsOf, dependents_pushReadyLocked]
      exact dependentsOf_addDependentEdges base x d
    · exact taskOwners_pushReadyLocked _ _ _
    · exact ownerGraphs_pushReadyLocked _ _ _
    · exact scheduled_pushReadyLocked _ _ _
    · intro y p
      rw [mem_queue_pushReadyLocked, or_comm]
      refine or_congr (by cases p <;> exact Iff.rfl) ?_
      rw [and_comm]
      exact and_congr_right fun _ => (and_iff_left hReady).symm
  · rename_i hNot
    constructor
    · exact fun y => Table.lookup_insert_ite
    · exact fun y => Table.lookup_insert_ite
    · exact fun d => dependentsOf_addDependentEdges base x d
    · rfl
    · rfl
    · rfl
    · intro y p
      have hFalse : ¬(y = x ∧ p = record.priority ∧ record.state = .ready) := fun h => hNot h.2.2
      rw [or_iff_left hFalse]
      cases p <;> exact Iff.rfl

/-- The store with the old edges and queue entries of a task gone. -/
structure Cleared (s base : Inner P O Id) (x : Id) : Prop where
  tasks : base.tasks = s.tasks
  remaining : base.remaining = s.remaining
  dependents : ∀ d, base.dependentsOf d = (s.dependentsOf d).filter (· ≠ x)
  owners : base.taskOwners = s.taskOwners
  graphs : base.ownerGraphs = s.ownerGraphs
  queue : ∀ y, y ≠ x → ∀ p, y ∈ s.queue p → y ∈ base.queue p
  bucket : ∀ y, y ≠ x → ∀ time, InBucket s.scheduled time y → InBucket base.scheduled time y

theorem cleared_self (hEdges : ∀ d, x ∉ s.dependentsOf d) : Cleared s s x where
  tasks := rfl
  remaining := rfl
  dependents := by
    intro d
    rw [filter_eq_self.mpr]
    intro y hy
    exact decide_eq_true fun hEq => hEdges d (hEq ▸ hy)
  owners := rfl
  graphs := rfl
  queue := fun _ _ _ h => h
  bucket := fun _ _ _ h => h

theorem cleared_remove (s : Inner P O Id) (x : Id) :
    Cleared s (removeQueueMemberships (removeDependentEdges s x) x) x where
  tasks := rfl
  remaining := rfl
  dependents := dependentsOf_removeDependentEdges s x
  owners := rfl
  graphs := rfl
  queue := by
    intro y hy p hIn
    rw [queue_removeQueueMemberships]
    refine mem_filter.mpr ⟨?_, by simpa using hy⟩
    cases p <;> exact hIn
  bucket := fun y hy time hIn => inBucket_retainScheduled.mpr ⟨hIn, hy⟩

/-- What a task is entered with: lost if a dependency is lost, and otherwise as its dependencies are. -/
structure Resolved (s : Inner P O Id) (record : TaskRecord P O Id) (remaining : Nat) (waited : List Id) : Prop where
  present : ∀ d ∈ record.dependencies, (s.tasks.lookup d).isSome = true
  lost : (record.state.isLost = true ∧ waited = []) ∨
    (∀ d ∈ record.dependencies, s.isLostTask d = false) ∧
      remaining = (record.dependencies.countP fun d => !s.isDone d) ∧
      waited = (record.dependencies.filter fun d => !s.isDone d) ∧
      record.state = if remaining = 0 then .ready else .pending remaining

theorem Resolved.waited_subset (r : Resolved s record remaining waited) {d : Id} (hd : d ∈ waited) :
    d ∈ record.dependencies := by
  rcases r.lost with ⟨_, rfl⟩ | ⟨_, _, rfl, _⟩
  · cases hd
  · exact (mem_filter.mp hd).1

theorem Resolved.waited_nodup (r : Resolved s record remaining waited) (h : record.dependencies.Nodup) :
    waited.Nodup := by
  rcases r.lost with ⟨_, rfl⟩ | ⟨_, _, rfl, _⟩
  · exact nodup_nil
  · exact h.filter _

theorem resolved_insertedState {state : TaskState O Id}
    (hResolve : insertedState (resolveDependencyInsertState s record.dependencies) = (remaining, state, waited))
    (hState : record.state = state) (hPresent : ∀ d ∈ record.dependencies, (s.tasks.lookup d).isSome = true) :
    Resolved s record remaining waited := by
  refine ⟨hPresent, ?_⟩
  by_cases hLost : ∃ d ∈ record.dependencies, s.isLostTask d = true
  · left
    rcases resolveDependencyInsertState_of_lost hLost with h | h
    all_goals
      rw [h] at hResolve
      cases hResolve
      exact ⟨by rw [hState]; rfl, rfl⟩
  · right
    have hKept : ∀ d ∈ record.dependencies, s.isLostTask d = false := by simpa using hLost
    rw [resolveDependencyInsertState_of_not_lost hKept] at hResolve
    cases hResolve
    exact ⟨hKept, rfl, rfl, hState⟩

theorem Resolved.dependency (r : Resolved s record remaining waited)
    (hLost : record.state.isLost = false) {d : Id} (hd : d ∈ record.dependencies) :
    s.isDone d = true ∨ s.isLive d = true := by
  obtain ⟨found, hFound⟩ := Option.isSome_iff_exists.mp (r.present d hd)
  rcases r.lost with ⟨h, _⟩ | ⟨hKept, _⟩
  · rw [hLost] at h
    cases h
  · exact isDone_or_isLive hFound (hKept d hd)

theorem entered_of_placed {newOwners : Finset RootOwner} {taskOwners : Table Id (Finset RootOwner)}
    (hEdges : ∀ d, (s.dependentsOf d).Nodup) (c : Cleared s base x) (p : Placed base s' x record remaining waited)
    (r : Resolved s record remaining waited) (hNodup : record.dependencies.Nodup)
    (hPayload : record.payload.isSome = true)
    (hOwners : ∀ y, (taskOwners.lookup y).getD ∅ = if y = x then s.ownersOf x ∪ newOwners else s.ownersOf y)
    (hOwned : (s.ownersOf x ∪ newOwners).Nonempty) :
    Entered s { s' with taskOwners } x record newOwners := by
  have hQueue : ∀ y p, y ∈ ({ s' with taskOwners } : Inner P O Id).queue p ↔ y ∈ s'.queue p := by
    intro y p
    cases p <;> exact Iff.rfl
  have hDependents : ∀ d, ({ s' with taskOwners } : Inner P O Id).dependentsOf d =
      (s.dependentsOf d).filter (· ≠ x) ++ replicate (waited.count d) x := by
    intro d
    rw [← c.dependents d, ← p.dependents d]
    rfl
  constructor
  · exact (p.tasks x).trans (if_pos rfl)
  · intro y hy
    change s'.tasks.lookup y = _
    rw [p.tasks y, if_neg hy, c.tasks]
  · exact hNodup
  · exact hPayload
  · rcases r.lost with ⟨hLost, _⟩ | ⟨_, hCount, _, hState⟩
    · exact Or.inl hLost
    · right
      rw [hState, ← hCount]
      split
      · exact Or.inl rfl
      · exact Or.inr rfl
  · intro hReady
    refine ⟨(hQueue x _).mpr ((p.queue x _).mpr (Or.inr ⟨rfl, rfl, hReady⟩)), fun d hd => ?_⟩
    rcases r.lost with ⟨hLost, _⟩ | ⟨_, hCount, _, hState⟩
    · rw [hReady] at hLost
      cases hLost
    · rw [hState] at hReady
      split at hReady
      · rename_i hZero
        rw [hCount, countP_eq_zero] at hZero
        simpa using hZero d hd
      · cases hReady
  · intro k hk
    rcases r.lost with ⟨hLost, _⟩ | ⟨hKept, _, hWaited, hState⟩
    · rw [hk] at hLost
      cases hLost
    · rw [hState] at hk
      split at hk
      · cases hk
      · rename_i hPositive
        cases hk
        refine ⟨Nat.one_le_iff_ne_zero.mpr hPositive, (p.remaining x).trans (if_pos rfl), fun d hd hNotDone => ?_⟩
        obtain ⟨found, hFound⟩ := Option.isSome_iff_exists.mp (r.present d hd)
        refine ⟨(isDone_or_isLive hFound (hKept d hd)).resolve_left (by simp [hNotDone]), ?_⟩
        rw [hDependents d, mem_append, mem_replicate]
        refine Or.inr ⟨?_, rfl⟩
        rw [hWaited, ← Nat.pos_iff_ne_zero, count_pos_iff, mem_filter]
        exact ⟨hd, by simp [hNotDone]⟩
  · intro y hy
    change s'.remaining.lookup y = _
    rw [p.remaining y, if_neg hy, c.remaining]
  · intro d hEdge
    rw [hDependents d, mem_append, mem_replicate] at hEdge
    rcases hEdge with hEdge | ⟨hCount, _⟩
    · simp at hEdge
    · exact r.waited_subset (count_pos_iff.mp (Nat.pos_iff_ne_zero.mpr hCount))
  · intro d y hy
    rw [hDependents d, mem_append, mem_replicate, mem_filter]
    simp [hy]
  · intro d
    rw [hDependents d]
    have hOnce : waited.count d ≤ 1 := nodup_iff_count_le_one.mp (r.waited_nodup hNodup) d
    refine nodup_append.mpr ⟨(hEdges d).filter _, ?_, ?_⟩
    · exact nodup_replicate.mpr hOnce
    · intro y hy z hz hEq
      obtain ⟨_, rfl⟩ := mem_replicate.mp hz
      have hNe := (mem_filter.mp hy).2
      simp [hEq] at hNe
  · exact hOwners
  · exact hOwned
  · intro y hy q hIn
    exact (hQueue y q).mpr ((p.queue y q).mpr (Or.inl (c.queue y hy q hIn)))
  · intro y hy time hIn
    change InBucket s'.scheduled time y
    rw [p.scheduled]
    exact c.bucket y hy time hIn

theorem StoreInv.clear (h : StoreInv s popped exempt) (c : Cleared s base x)
    (hEnded : ∀ record, s.tasks.lookup x = some record → record.state.isTerminal = true) :
    StoreInv base popped exempt := by
  have hLookup : ∀ y, base.tasks.lookup y = s.tasks.lookup y := fun y => by rw [c.tasks]
  have hOwners : ∀ y, base.ownersOf y = s.ownersOf y := fun y => by rw [ownersOf, c.owners, ownersOf]
  constructor
  · constructor
    · exact fun y record hRecord => h.nodup y record (hLookup y ▸ hRecord)
    · exact fun y record hRecord => h.payload y record (hLookup y ▸ hRecord)
    · intro y d hEdge
      rw [c.dependents d] at hEdge
      rw [hLookup y]
      exact h.edge y d (mem_filter.mp hEdge).1
    · intro d
      rw [c.dependents d]
      exact (h.edges d).filter _
    · intro owner y hOwner
      rw [hOwners y] at hOwner
      simp only [hLookup, hOwners]
      exact h.closed owner y hOwner
    · intro owner y
      rw [hOwners y, c.graphs]
      exact h.graphs owner y
  · intro y record hRecord hy
    rw [hLookup y] at hRecord
    refine (h.task y record hRecord hy).frame fun hLive => ?_
    have hNe : y ≠ x := by
      rintro rfl
      rw [hEnded record hRecord] at hLive
      cases hLive
    constructor
    · intro hNonempty
      rwa [hOwners y]
    · rw [c.remaining]
    · exact fun d _ => isDone_congr (hLookup d)
    · intro d _ hLive
      rw [isLive_congr (hLookup d), hLive]
    · intro d _ hEdge
      rw [c.dependents d]
      exact mem_filter.mpr ⟨hEdge, by simpa using hNe⟩
    · exact fun p => Or.imp_left (c.queue y hNe p)
    · exact c.bucket y hNe

end Placing

end Raiko2.Queue
