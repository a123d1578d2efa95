import Raiko2.Queue.Placing

/-!
# Entering lost tasks again

An owner that attaches its graph again gets the failed and cancelled tasks of the graph entered anew. All of them are
taken out of the queues and edges first, and then placed in the order of the graph, each after its dependencies.
-/

namespace Raiko2.Queue

open Lib List Queue.Inner

variable {P O Id : Type} [DecidableEq Id] {s s' : Inner P O Id} {popped exempt : Id → Prop} {x : Id}
  {resetIds entered : List Id} {node : ExecutionNode P Id}

section Clearing

/-- The ids of the graph whose tasks are entered again. -/
abbrev lostIds (s : Inner P O Id) (nodes : List (ExecutionNode P Id)) : List Id :=
  (nodes.map (·.id)).filter fun id => (s.stateOf id).any (·.isLost)

theorem mem_lostIds {nodes : List (ExecutionNode P Id)} :
    x ∈ lostIds s nodes ↔ x ∈ nodes.map (·.id) ∧ s.isLostTask x = true :=
  mem_filter

/-- The first loop of `reset_attached_terminal_nodes`. -/
abbrev clearTasks (s : Inner P O Id) (ids : List Id) : Inner P O Id :=
  ids.foldl (fun s id => removeDependentEdges (removeQueueMemberships s id) id) s

structure ClearedTasks (s s' : Inner P O Id) (ids : List Id) : Prop where
  tasks : s'.tasks = s.tasks
  owners : s'.taskOwners = s.taskOwners
  graphs : s'.ownerGraphs = s.ownerGraphs
  edges : ∀ y d, y ∈ s'.dependentsOf d → y ∈ s.dependentsOf d ∧ y ∉ ids

theorem clearedTasks (s : Inner P O Id) (ids : List Id) : ClearedTasks s (clearTasks s ids) ids := by
  induction ids generalizing s with
  | nil => exact ⟨rfl, rfl, rfl, fun _ _ hy => ⟨hy, not_mem_nil⟩⟩
  | cons id ids ih =>
    have hRest := ih (removeDependentEdges (removeQueueMemberships s id) id)
    refine ⟨hRest.tasks, hRest.owners, hRest.graphs, fun y d hy => ?_⟩
    obtain ⟨hMem, hNot⟩ := hRest.edges y d hy
    rw [dependentsOf_removeDependentEdges, mem_filter, decide_eq_true_eq] at hMem
    exact ⟨hMem.1, not_mem_cons_of_ne_of_not_mem hMem.2 hNot⟩

theorem ClearedTasks.lookup_eq {ids : List Id} (c : ClearedTasks s s' ids) (y : Id) :
    s'.tasks.lookup y = s.tasks.lookup y := by
  rw [c.tasks]

theorem StoreInv.clearTasks {ids : List Id} (h : StoreInv s popped exempt)
    (hLost : ∀ id ∈ ids, s.isLostTask id = true) : StoreInv (clearTasks s ids) popped exempt := by
  induction ids generalizing s with
  | nil => exact h
  | cons id ids ih =>
    refine ih (h.clear (cleared_remove s id) fun record hRecord => ?_) fun y hy => hLost y (mem_cons_of_mem _ hy)
    have hId := hLost id mem_cons_self
    rw [isLostTask_of_lookup hRecord] at hId
    exact isTerminal_of_isLost hId

end Clearing

section Placing

structure ResetEffect (s s' : Inner P O Id) (resetIds : List Id) (nodes : List (ExecutionNode P Id)) : Prop where
  kept : ∀ node ∈ nodes, ∃ record, s'.tasks.lookup node.id = some record ∧ record.state.isLost = false
  others : ∀ y, y ∉ resetIds → s'.tasks.lookup y = s.tasks.lookup y
  outside : ∀ y, y ∉ nodes.map (·.id) → s'.tasks.lookup y = s.tasks.lookup y
  owners : s'.taskOwners = s.taskOwners
  graphs : s'.ownerGraphs = s.ownerGraphs

theorem ResetEffect.refl {nodes : List (ExecutionNode P Id)}
    (h : ∀ node ∈ nodes, ∃ record, s.tasks.lookup node.id = some record ∧ record.state.isLost = false) :
    ResetEffect s s resetIds nodes :=
  ⟨h, fun _ _ => rfl, fun _ _ => rfl, rfl, rfl⟩

theorem ResetEffect.trans {s'' : Inner P O Id} {rest : List (ExecutionNode P Id)}
    (h : ResetEffect s s' resetIds [node]) (h' : ResetEffect s' s'' resetIds rest)
    (hFresh : node.id ∉ rest.map (·.id)) : ResetEffect s s'' resetIds (node :: rest) where
  kept := by
    intro other hOther
    rcases mem_cons.mp hOther with rfl | hOther
    · rw [h'.outside _ hFresh]
      exact h.kept other mem_cons_self
    · exact h'.kept other hOther
  others := fun y hy => (h'.others y hy).trans (h.others y hy)
  outside := by
    intro y hy
    rw [map_cons, mem_cons, not_or] at hy
    rw [h'.outside y hy.2, h.outside y (by simpa using hy.1)]
  owners := h'.owners.trans h.owners
  graphs := h'.graphs.trans h.graphs

/-- What a node of the graph needs for its turn to keep the invariant. -/
structure Resettable (s : Inner P O Id) (resetIds : List Id) (node : ExecutionNode P Id) : Prop where
  record : ∃ record, s.tasks.lookup node.id = some record ∧ ∀ d, d ∈ record.dependencies ↔ d ∈ node.dependencies
  owned : (s.ownersOf node.id).Nonempty
  lost : node.id ∈ resetIds → s.isLostTask node.id = true ∧ ∀ d, node.id ∉ s.dependentsOf d

theorem Resettable.turn {other : ExecutionNode P Id} (h : Resettable s resetIds other)
    (e : ResetEffect s s' resetIds [node])
    (hEdges : ∀ d y, y ≠ node.id → y ∈ s'.dependentsOf d → y ∈ s.dependentsOf d) (hNe : other.id ≠ node.id) : Resettable s' resetIds other := by
  have hOut : other.id ∉ [node].map (·.id) := by simpa using hNe
  refine ⟨?_, ?_, fun hReset => ?_⟩
  · rw [e.outside _ hOut]
    exact h.record
  · rw [ownersOf, e.owners]
    exact h.owned
  · rw [isLostTask_congr (e.outside _ hOut)]
    exact ⟨(h.lost hReset).1, fun d hMem => (h.lost hReset).2 d (hEdges d _ hNe hMem)⟩

theorem StoreInv.resetPlaced (h : StoreInv s popped exempt) (hNode : Resettable s resetIds node)
    (hReset : node.id ∈ resetIds) (hNodup : node.dependencies.Nodup) {record : TaskRecord P O Id} {remaining : Nat}
    {waited : List Id} (hPlaced : Placed s s' node.id record remaining waited)
    (hResolved : Resolved s record remaining waited) (hDeps : record.dependencies = node.dependencies)
    (hPayload : record.payload.isSome = true) : StoreInv s' popped exempt := by
  obtain ⟨before, hBefore, hSame⟩ := hNode.record
  obtain ⟨hLost, hEdges⟩ := hNode.lost hReset
  obtain ⟨hDone, hLive⟩ := not_done_live_of_isLostTask hLost
  have hOwners : ∀ y, s'.ownersOf y = s.ownersOf y := fun y => by
    rw [ownersOf, hPlaced.owners, ownersOf]
  have hEntered : Entered s s' node.id record ∅ := by
    refine entered_of_placed h.edges (cleared_self hEdges) hPlaced hResolved (hDeps ▸ hNodup) hPayload (fun y => ?_) ?_
    · rw [Finset.union_empty]
      refine (hOwners y).trans ?_
      split
      · rename_i hy
        rw [hy]
      · rfl
    · rw [Finset.union_empty]
      exact hNode.owned
  refine h.enter hEntered hDone hLive (fun hLost d hd => hResolved.dependency hLost hd) ?_ fun owner y => ?_
  · intro owner hOwner d hd
    rw [Finset.union_empty] at hOwner
    exact h.toGraphInv.owner_dependency hOwner hBefore ((hSame d).mpr (hDeps ▸ hd))
  · rw [hOwners y, hPlaced.graphs]
    exact h.graphs owner y

variable [ReadyQueueSort Id]

theorem resetNode_placed {record : TaskRecord P O Id} (hRecord : s.tasks.lookup node.id = some record)
    (hReset : node.id ∈ resetIds) (hKept : ∀ d ∈ node.dependencies, s.isLostTask d = false) :
    ∃ s' record' remaining waited, resetNode resetIds s node = .ok s' ∧
      Placed s s' node.id record' remaining waited ∧ record'.dependencies = node.dependencies ∧
      record'.payload = some node.task.payload ∧ record'.state.isLost = false ∧
      ((∀ d ∈ node.dependencies, (s.tasks.lookup d).isSome = true) → Resolved s record' remaining waited) := by
  refine ⟨_, _, _, _, ?_, placed_placeTask _ _ { record with
    payload := some node.task.payload
    state := if (node.dependencies.countP fun d => !s.isDone d) = 0 then TaskState.ready
      else .pending (node.dependencies.countP fun d => !s.isDone d)
    attempt := 0
    leaseUntilMs := none
    executionPolicy := node.executionPolicy
    dependencies := node.dependencies } _ _, rfl, rfl, ?_, fun hPresent => ⟨hPresent, Or.inr ⟨hKept, rfl, rfl, rfl⟩⟩⟩
  · rw [resetNode, if_neg (not_not_intro hReset), resolveDependencyInsertState_of_not_lost hKept]
    dsimp only
    rw [hRecord]
    rfl
  · dsimp only
    split <;> rfl

theorem resetNode_effect (hPresent : (s.tasks.lookup node.id).isSome = true)
    (hKept : node.id ∉ resetIds → s.isLostTask node.id = false)
    (hEarlier : ∀ d ∈ node.dependencies, s.isLostTask d = false) :
    ∃ s', resetNode resetIds s node = .ok s' ∧ ResetEffect s s' resetIds [node] ∧
      (∀ d y, y ≠ node.id → y ∈ s'.dependentsOf d → y ∈ s.dependentsOf d) ∧
      ∀ popped exempt, StoreInv s popped exempt → Resettable s resetIds node → node.dependencies.Nodup →
        (∀ d ∈ node.dependencies, (s.tasks.lookup d).isSome = true) → StoreInv s' popped exempt := by
  obtain ⟨record, hRecord⟩ := Option.isSome_iff_exists.mp hPresent
  by_cases hReset : node.id ∈ resetIds
  · obtain ⟨s', record', remaining, waited, hResult, hPlaced, hDeps, hPayload, hState, hResolved⟩ :=
      resetNode_placed hRecord hReset hEarlier
    have hOthers : ∀ y, y ≠ node.id → s'.tasks.lookup y = s.tasks.lookup y := fun y hy => by
      rw [hPlaced.tasks y, if_neg hy]
    refine ⟨s', hResult, ⟨?_, ?_, fun y hy => hOthers y (by simpa using hy), hPlaced.owners, hPlaced.graphs⟩, ?_, ?_⟩
    · intro other hOther
      rw [mem_singleton.mp hOther, hPlaced.tasks, if_pos rfl]
      exact ⟨record', rfl, hState⟩
    · intro y hy
      refine hOthers y ?_
      rintro rfl
      exact hy hReset
    · intro d y hy hMem
      rw [hPlaced.dependents, mem_append, mem_replicate] at hMem
      exact hMem.resolve_right fun hNew => hy hNew.2
    · intro popped exempt h hNode hNodup hDepsPresent
      exact h.resetPlaced hNode hReset hNodup hPlaced (hResolved hDepsPresent) hDeps (by rw [hPayload]; rfl)
  · refine ⟨s, by rw [resetNode, if_pos hReset], .refl fun other hOther => ?_, fun _ _ _ h => h,
      fun _ _ h _ _ _ => h⟩
    rw [mem_singleton.mp hOther]
    exact ⟨record, hRecord, (isLostTask_of_lookup hRecord).symm.trans (hKept hReset)⟩

end Placing

section Loop

variable [ReadyQueueSort Id] {nodes : List (ExecutionNode P Id)}

theorem resetLoop_effect (resetIds : List Id) (hOrder : EntryOrder entered nodes) (hNodup : (nodes.map (·.id)).Nodup)
    (hPresent : ∀ node ∈ nodes, (s.tasks.lookup node.id).isSome = true)
    (hKept : ∀ node ∈ nodes, node.id ∉ resetIds → s.isLostTask node.id = false)
    (hEntered : ∀ d ∈ entered, s.isLostTask d = false) :
    ∃ s', nodes.foldlM (resetNode resetIds) s = .ok s' ∧ ResetEffect s s' resetIds nodes ∧
      ∀ popped exempt, StoreInv s popped exempt → (∀ node ∈ nodes, Resettable s resetIds node) →
        (∀ d ∈ entered, (s.tasks.lookup d).isSome = true) → StoreInv s' popped exempt := by
  induction hOrder generalizing s with
  | nil => exact ⟨s, rfl, .refl (by simp), fun _ _ h _ _ => h⟩
  | @cons entered node rest _ hDeps hEarlier _ ih =>
    rw [map_cons, nodup_cons] at hNodup
    obtain ⟨middle, hResult, hEffect, hEdges, hInv⟩ := resetNode_effect (hPresent node mem_cons_self)
      (hKept node mem_cons_self) fun d hd => hEntered d (hEarlier d hd)
    obtain ⟨record, hRecord, hLost⟩ := hEffect.kept node mem_cons_self
    have hNe : ∀ other ∈ rest, other.id ≠ node.id := fun other hOther hEq =>
      hNodup.1 (hEq ▸ mem_map_of_mem hOther)
    have hSame : ∀ y, y ≠ node.id → middle.tasks.lookup y = s.tasks.lookup y := fun y hy =>
      hEffect.outside y (by simpa using hy)
    have hBefore : ∀ d ∈ entered ++ [node.id], d ≠ node.id → d ∈ entered := fun d hd hNot =>
      (mem_append.mp hd).resolve_right (by simpa using hNot)
    obtain ⟨s', hLoop, hEffect', hInv'⟩ := ih hNodup.2
      (fun other hOther => by
        rw [hSame _ (hNe other hOther)]
        exact hPresent other (mem_cons_of_mem _ hOther))
      (fun other hOther hNot => by
        rw [isLostTask_congr (hSame _ (hNe other hOther))]
        exact hKept other (mem_cons_of_mem _ hOther) hNot)
      (fun d hd => by
        by_cases hNode : d = node.id
        · rw [hNode, isLostTask_of_lookup hRecord, hLost]
        · rw [isLostTask_congr (hSame d hNode)]
          exact hEntered d (hBefore d hd hNode))
    refine ⟨s', ?_, hEffect.trans hEffect' hNodup.1, fun popped exempt h hNodes hDone => ?_⟩
    · rw [foldlM_cons, hResult]
      exact hLoop
    · refine hInv' popped exempt (hInv popped exempt h (hNodes node mem_cons_self) hDeps fun d hd =>
        hDone d (hEarlier d hd)) (fun other hOther => ?_) fun d hd => ?_
      · exact (hNodes other (mem_cons_of_mem _ hOther)).turn hEffect hEdges (hNe other hOther)
      · by_cases hNode : d = node.id
        · rw [hNode, hRecord]
          rfl
        · rw [hSame d hNode]
          exact hDone d (hBefore d hd hNode)

/-- The two forms of `reset_attached_terminal_nodes` do the same, whatever the loop does. -/
theorem resetAttachedTerminalNodes_cases (s : Inner P O Id) (nodes : List (ExecutionNode P Id)) :
    (lostIds s nodes = [] ∧ resetAttachedTerminalNodes s nodes = .ok (s, false) ∧
      (resetAttachedTerminalNodesInPlace nodes).run s = (.ok false, s)) ∨
    ∀ s', nodes.foldlM (resetNode (lostIds s nodes)) (clearTasks s (lostIds s nodes)) = .ok s' →
      resetAttachedTerminalNodes s nodes = .ok (s', true) ∧
      (resetAttachedTerminalNodesInPlace nodes).run s = (.ok true, s') := by
  rw [resetAttachedTerminalNodes, resetAttachedTerminalNodesInPlace, Edit.read_bind_run]
  by_cases hEmpty : (lostIds s nodes).isEmpty = true
  · refine Or.inl ⟨isEmpty_iff.mp hEmpty, if_pos hEmpty, ?_⟩
    rw [if_pos hEmpty]
    rfl
  · refine Or.inr fun s' hLoop => ⟨(if_neg hEmpty).trans ?_, ?_⟩
    · exact Outcome.bind_eq_ok_iff.mpr ⟨s', hLoop, rfl⟩
    · rw [if_neg hEmpty, Edit.bind_run_of_ok (Edit.forM_change_run _), Edit.bind_run_of_ok (Edit.forM_update_run hLoop)]
      rfl

theorem resetAttachedTerminalNodes_effect (hOrder : EntryOrder [] nodes) (hNodup : (nodes.map (·.id)).Nodup)
    (hPresent : ∀ node ∈ nodes, (s.tasks.lookup node.id).isSome = true) :
    ∃ s' reset, resetAttachedTerminalNodes s nodes = .ok (s', reset) ∧
      (resetAttachedTerminalNodesInPlace nodes).run s = (.ok reset, s') ∧ ResetEffect s s' (lostIds s nodes) nodes ∧
      ∀ popped exempt, StoreInv s popped exempt →
        (∀ node ∈ nodes, (s.ownersOf node.id).Nonempty ∧ ∃ record, s.tasks.lookup node.id = some record ∧
          ∀ d, d ∈ record.dependencies ↔ d ∈ node.dependencies) → StoreInv s' popped exempt := by
  have hLost : ∀ id ∈ lostIds s nodes, s.isLostTask id = true := fun id hId => (mem_lostIds.mp hId).2
  have hKept : ∀ node ∈ nodes, node.id ∉ lostIds s nodes → s.isLostTask node.id = false := by
    intro node hNode hNot
    by_contra hLost
    exact hNot (mem_lostIds.mpr ⟨mem_map_of_mem hNode, by simpa using hLost⟩)
  rcases resetAttachedTerminalNodes_cases s nodes with ⟨hEmpty, hResult, hRun⟩ | hCases
  · refine ⟨s, false, hResult, hRun, .refl fun node hNode => ?_, fun _ _ h _ => h⟩
    obtain ⟨record, hRecord⟩ := Option.isSome_iff_exists.mp (hPresent node hNode)
    refine ⟨record, hRecord, (isLostTask_of_lookup hRecord).symm.trans (hKept node hNode ?_)⟩
    simp [hEmpty]
  · generalize lostIds s nodes = resetIds at *
    have hClear := clearedTasks s resetIds
    have hSame : ∀ y, (clearTasks s resetIds).isLostTask y = s.isLostTask y := fun y =>
      isLostTask_congr (hClear.lookup_eq y)
    obtain ⟨s', hLoop, hEffect, hInv⟩ := resetLoop_effect resetIds hOrder hNodup
      (fun node hNode => by
        rw [hClear.lookup_eq]
        exact hPresent node hNode)
      (fun node hNode hNot => (hSame _).trans (hKept node hNode hNot)) (by simp)
    refine ⟨s', true, (hCases s' hLoop).1, (hCases s' hLoop).2, ⟨hEffect.kept, ?_, ?_, hEffect.owners.trans hClear.owners,
      hEffect.graphs.trans hClear.graphs⟩, fun popped exempt h hNodes => ?_⟩
    · exact fun y hy => (hEffect.others y hy).trans (hClear.lookup_eq y)
    · exact fun y hy => (hEffect.outside y hy).trans (hClear.lookup_eq y)
    · refine hInv popped exempt (h.clearTasks hLost) (fun node hNode => ⟨?_, ?_, fun hReset => ?_⟩) (by simp)
      · rw [hClear.lookup_eq]
        exact (hNodes node hNode).2
      · rw [ownersOf, hClear.owners]
        exact (hNodes node hNode).1
      · exact ⟨(hSame _).trans (hLost _ hReset), fun d hMem => (hClear.edges _ d hMem).2 hReset⟩

end Loop

end Raiko2.Queue
