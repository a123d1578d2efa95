import Raiko2.Queue.AttachSteps
import Raiko2.Queue.DetachSteps

/-!
# What the loops of the store keep

A property of the store that is kept by the single changes of a loop is kept by the loop.
-/

namespace Raiko2.Queue

open Lib

variable {P O Id : Type}

def TaskState.isIdle : TaskState O Id → Bool
  | .running _ _ => false
  | .succeeded _ => false
  | _ => true

variable [DecidableEq Id] {I : Inner P O Id → Prop} {s s' : Inner P O Id}

section Ending

variable {error : String}

theorem failDependentsLocked_keeps {root : Id}
    (hFail : ∀ s id, isTerminalTask s id = false → I s → I (finishTask s id (.failed error (some root)))) (h : I s) :
    I (failDependentsLocked s root error) := by
  obtain ⟨order, hEq, _⟩ := failDependentsLocked_eq_foldl s root error
  rw [hEq]
  refine List.foldlRecOn order _ h fun s h id _ => ?_
  rw [failDependent]
  split
  · exact h
  · rename_i hNot
    exact hFail s id (by simpa using hNot) h

theorem cancelTaskLocked_keeps {id : Id}
    (hCancel : ∀ s id, isTerminalTask s id = false → I s → I (finishTask s id .cancelled))
    (hFail : ∀ s id, I s → I (failDependentsLocked s id error)) (h : I s) : I (cancelTaskLocked s id error).1 := by
  rw [cancelTaskLocked]
  split
  · exact h
  · rename_i state hState
    split
    · exact h
    · rename_i hNot
      have hLive : isTerminalTask s id = false := by
        rw [isTerminalTask, hState]
        simpa using hNot
      exact hFail _ id (hCancel s id hLive h)

theorem detachOwner_keeps {owner : RootOwner} {mode : DetachMode} {outcome : DetachOutcome Id}
    (hOwners : ∀ (s : Inner P O Id) taskOwners ownerGraphs, I s → I { s with taskOwners, ownerGraphs })
    (hCancel : ∀ s id error, I s → I (cancelTaskLocked s id error).1) (hRemove : ∀ s id, I s → I (removeRetired s id))
    (hDetach : detachOwner s owner mode = .ok (s', outcome)) (h : I s) : I s' := by
  rw [detachOwner] at hDetach
  split at hDetach
  · cases hDetach
    exact h
  rename_i graph _
  dsimp only at hDetach
  split at hDetach
  · cases hDetach
    exact h
  rw [Outcome.ensure_bind_eq_ok_iff] at hDetach
  cases hDetach.2
  obtain ⟨left, hLeft⟩ := leaveTasks_eq s owner graph
  rw [hLeft]
  have hRetire : ∀ (base : Inner P O Id) (retired : List Id), I base → I (retireTasks base mode retired) := by
    intro base retired hBase
    have hLeave := hOwners base (retired.foldl (fun owners id => owners.erase id) base.taskOwners) base.ownerGraphs hBase
    cases mode with
    | cancel => exact List.foldlRecOn retired _ hLeave fun s h id _ => hCancel s id _ h
    | remove => exact List.foldlRecOn retired _ hLeave fun s h id _ => hRemove s id h
  exact hOwners _ _ _ (hRetire _ _ (hOwners s left s.ownerGraphs h))

end Ending

section Moving

variable [ReadyQueueSort Id] {nowMs : UInt64} {limit : Nat}

theorem releaseDependent_keeps {id : Id}
    (hState : ∀ (s : Inner P O Id) record remaining state k, s.tasks.lookup id = some record →
      record.state = .pending k → (state = .ready ∨ ∃ k, state = .pending k) → I s →
      I { s with remaining, tasks := s.tasks.insert id { record with state } })
    (hPush : ∀ s p, I s → I (pushReadyLocked s p id)) (h : I s) : I (releaseDependent s id) := by
  rw [releaseDependent]
  split
  · rename_i record hRecord
    split
    · rename_i hPending
      dsimp only
      split
      · exact hPush _ _ (hState s record _ _ _ hRecord hPending (.inl rfl) h)
      · exact hState s record _ _ _ hRecord hPending (.inr ⟨_, rfl⟩) h
    · exact h
  · exact h

theorem promoteScheduled_keeps (hScheduled : ∀ (s : Inner P O Id) scheduled, I s → I { s with scheduled })
    (hReady : ∀ s id record error attempt time, s.tasks.lookup id = some record →
      record.state = .retrying error attempt time → I s → I (pushReadyLocked (s.setState id .ready) record.priority id))
    (h : I s) : I (promoteScheduled s nowMs limit).2 := by
  have hBucket : ∀ ids moved s, I s → I (promoteBucket nowMs limit ids moved s).2.2 := by
    intro ids
    induction ids with
    | nil => exact fun _ _ h => h
    | cons id ids ih =>
      intro moved s h
      rw [promoteBucket]
      split
      · split
        · exact ih moved s h
        · rename_i record hRecord
          split
          · rename_i hRetrying
            split
            · exact ih moved _ (hScheduled s _ h)
            · exact ih (moved + 1) _ (hReady s id record _ _ _ hRecord hRetrying h)
          · exact ih moved s h
      · exact h
  have hLoop : ∀ turns moved s, I s → I (promoteLoop nowMs limit turns moved s).2 := by
    intro turns
    induction turns with
    | zero => exact fun _ _ h => h
    | succ turns ih =>
      intro moved s h
      rw [promoteLoop]
      split
      · split
        · exact h
        · split
          · exact h
          · rename_i time ids scheduled _ _
            apply ih
            have hPassed := hBucket ids moved _ (hScheduled s scheduled h)
            split
            · exact hPassed
            · exact hScheduled _ _ hPassed
      · exact h
  exact hLoop _ 0 s h

theorem requeueExpiredLeases_keeps {order : List Id}
    (hReady : ∀ s id record, s.tasks.lookup id = some record → isTerminalTask s id = false → I s →
      I (pushReadyLocked (s.setState id .ready) record.priority id)) (h : I s) :
    I (requeueExpiredLeases s order nowMs limit).2 := by
  have hExpired : ∀ id ∈ ((sortExpired (order.filterMap (expiredLease s nowMs))).take limit).map (·.2.2),
      isTerminalTask s id = false := by
    intro id hId
    obtain ⟨lease, hLease, rfl⟩ := List.mem_map.mp hId
    obtain ⟨id, _, hSome⟩ := List.mem_filterMap.mp (mem_sortByKey.mp (List.mem_of_mem_take hLease))
    obtain ⟨hEq, record, leaseToken, attempt, hRecord, hState⟩ := expiredLease_eq_some hSome
    rw [hEq, isTerminalTask_of_lookup hRecord, hState]
    rfl
  -- A task that was put back has not ended, so that the ids still to come have not.
  refine (List.foldlRecOn _ requeueLease ⟨h, hExpired⟩ (motive := fun s => I s ∧ ∀ id ∈ _, isTerminalTask s id = false)
    fun s ⟨h, hLive⟩ id hId => ?_).1
  rw [requeueLease]
  split
  · exact ⟨h, hLive⟩
  · rename_i record hRecord
    refine ⟨hReady s id record hRecord (hLive id hId) h, fun y hy => ?_⟩
    rw [isTerminalTask, Inner.stateOf, tasks_pushReadyLocked, Inner.lookup_setState]
    split
    · cases s.tasks.lookup y <;> rfl
    · exact hLive y hy

end Moving

section Attaching

variable [ReadyQueueSort Id] {start : Inner P O Id} {ordered : List (ExecutionNode P Id)} {node : ExecutionNode P Id}

/-- The task is missing or lost. -/
def Startable (s : Inner P O Id) (id : Id) : Prop := ∀ record, s.tasks.lookup id = some record → record.state.isLost = true

omit [ReadyQueueSort Id] in
theorem Startable.not_done_live {id : Id} (h : Startable s id) : s.isDone id = false ∧ s.isLive id = false := by
  cases hRecord : s.tasks.lookup id with
  | none => exact Inner.not_done_live_of_lookup_eq_none hRecord
  | some record =>
    exact Inner.not_done_live_of_isLostTask ((Inner.isLostTask_of_lookup hRecord).trans (h record hRecord))

/-- What the changes of an attach keep: nodes of the graph are placed where the store it began with had no live task. -/
structure Attaching (start : Inner P O Id) (ordered : List (ExecutionNode P Id)) (I : Inner P O Id → Prop) : Prop where
  indexes : ∀ (s : Inner P O Id) taskOwners ownerGraphs, I s → I { s with taskOwners, ownerGraphs }
  edges : ∀ s id, I s → I (removeDependentEdges s id)
  queues : ∀ s id, I s → I (removeQueueMemberships s id)
  place : ∀ s node record remaining waited, node ∈ ordered → Startable start node.id →
    record.dependencies = node.dependencies → record.state.isIdle = true → I s →
    I (placeTask s node.id record remaining waited)

namespace Attaching

theorem tracked (a : Attaching start ordered I) :
    Attaching start ordered fun s => (∀ id, s.tasks.lookup id = start.tasks.lookup id ∨ Startable start id) ∧ I s where
  indexes := fun s _ _ h => ⟨h.1, a.indexes s _ _ h.2⟩
  edges := fun s id h => ⟨h.1, a.edges s id h.2⟩
  queues := fun s id h => ⟨h.1, a.queues s id h.2⟩
  place := by
    intro s node record remaining waited hMem hStart hDeps hIdle h
    refine ⟨fun id => ?_, a.place s node record remaining waited hMem hStart hDeps hIdle h.2⟩
    rw [(placed_placeTask _ _ _ _ _).tasks]
    split
    · rename_i hId
      exact .inr (hId ▸ hStart)
    · exact h.1 id

omit [DecidableEq Id] [ReadyQueueSort Id] in
theorem isIdle_insertedState (state : DependencyInsertState Id) :
    (insertedState state : Nat × TaskState O Id × List Id).2.1.isIdle = true := by
  rcases state with ⟨remaining, waited⟩ | _ | _
  · rw [insertedState]
    dsimp only
    split <;> rfl
  · rfl
  · rfl

theorem enter (a : Attaching start ordered I) (owner : RootOwner) (hMem : node ∈ ordered)
    (hTracked : ∀ id, s.tasks.lookup id = start.tasks.lookup id ∨ Startable start id) (h : I s) :
    I (enterNode owner s node) := by
  refine a.indexes _ _ _ ?_
  dsimp only
  split
  · rename_i hEnter
    have hNow : Startable s node.id := by
      intro record hRecord
      rw [Bool.or_eq_true, Option.isNone_iff_eq_none, isUnownedLost, Bool.and_eq_true] at hEnter
      rcases hEnter with hNone | ⟨hLost, -⟩
      · cases hNone.symm.trans hRecord
      · rwa [Inner.stateOf, hRecord] at hLost
    have hStart : Startable start node.id := by
      rcases hTracked node.id with hSame | hStart
      · rwa [Startable, ← hSame]
      · exact hStart
    refine a.place _ _ _ _ _ hMem hStart rfl (isIdle_insertedState _) ?_
    split
    · exact a.queues _ _ (a.edges s _ h)
    · exact h
  · exact h

theorem reset (a : Attaching start ordered I) {resetIds : List Id} (hReset : ∀ id ∈ resetIds, Startable start id)
    {nodes : List (ExecutionNode P Id)} (hMem : ∀ node ∈ nodes, node ∈ ordered)
    (hLoop : nodes.foldlM (resetNode resetIds) s = .ok s') (h : I s) : I s' := by
  induction nodes generalizing s with
  | nil =>
    cases hLoop
    exact h
  | cons node nodes ih =>
    rw [List.foldlM_cons, Outcome.bind_eq_ok_iff] at hLoop
    obtain ⟨middle, hNode, hRest⟩ := hLoop
    refine ih (fun other hOther => hMem other (List.mem_cons_of_mem _ hOther)) hRest ?_
    rw [resetNode] at hNode
    split at hNode
    · cases hNode
      exact h
    rename_i hIn
    split at hNode
    · obtain ⟨record, _, hEq⟩ := Outcome.bind_eq_ok_iff.mp hNode
      cases hEq
      refine a.place _ _ _ _ _ (hMem node List.mem_cons_self) (hReset _ (not_not.mp hIn)) rfl ?_ h
      dsimp only
      split <;> rfl
    · cases hNode

end Attaching

/-- What the changes of an attach keep is kept by it. -/
theorem attachGraph_attaching [BEq P] {owner : RootOwner} {nodes : List (ExecutionNode P Id)} {outcome : AttachOutcome}
    (hAttach : attachGraph start owner nodes = .ok (s', outcome)) :
    ∃ ordered, EntryOrder [] ordered ∧ ∀ I, Attaching start ordered I → I start → I s' := by
  rcases attachGraph_cases start owner nodes with ⟨e, hError, _⟩ | ⟨graph, s'', _, hGraph, hAttaches, hResult, _⟩
  · cases hError.symm.trans hAttach
  cases hResult.symm.trans hAttach
  refine ⟨_, (graphTopologicalNodes_spec hGraph).1, fun I a h => ?_⟩
  cases hAttaches with
  | again _ _ _ hReset _ =>
    rw [resetAttachedTerminalNodes] at hReset
    dsimp only at hReset
    split at hReset
    · cases hReset
      exact h
    obtain ⟨final, hLoop, hEq⟩ := Outcome.bind_eq_ok_iff.mp hReset
    cases hEq
    refine a.reset (fun id hIn record hRecord => ?_) (fun _ hNode => hNode) hLoop
      (List.foldlRecOn _ _ h fun s h id _ => a.edges _ _ (a.queues s id h))
    rw [← Inner.isLostTask_of_lookup hRecord]
    exact (mem_lostIds.mp hIn).2
  | fresh _ _ =>
    have hAll := List.foldlRecOn
      (motive := fun s => (∀ id, s.tasks.lookup id = start.tasks.lookup id ∨ Startable start id) ∧ I s)
      (graphTopologicalNodes graph) (enterNode owner) ⟨fun _ => .inl rfl, h⟩
      fun s h node hNode => a.tracked.enter owner hNode h.1 h
    exact a.indexes _ _ _ hAll.2

end Attaching

end Raiko2.Queue
