import Raiko2.Queue.ResetSteps

/-!
# Attaching a graph keeps the invariant

A new owner's graph is entered node by node, each node after its dependencies. An owner that is attached already gets
its lost tasks entered again, in the same order.
-/

namespace Raiko2.Queue

open Lib Outcome Option

variable {P O Id : Type} [DecidableEq Id] {s s' : Inner P O Id} {popped exempt : Id → Prop} {x : Id}

section NewOwner

variable {owner : RootOwner} {node : ExecutionNode P Id} {entered : List Id}

/-- The store in which an owner has the graph of the tasks entered so far. -/
def withGraph (s : Inner P O Id) (owner : RootOwner) (taskIds : List Id) : Inner P O Id :=
  { s with ownerGraphs := s.ownerGraphs.insert owner ⟨taskIds, true⟩ }

omit [DecidableEq Id] in
theorem exists_graph_insert_iff {graphs : Table RootOwner (OwnerGraph Id)} {taskIds : List Id} {o : RootOwner} :
    (∃ graph, (graphs.insert owner ⟨taskIds, true⟩).lookup o = some graph ∧ graph.attached = true ∧
      x ∈ graph.taskIds) ↔
    if o = owner then x ∈ taskIds
    else ∃ graph, graphs.lookup o = some graph ∧ graph.attached = true ∧ x ∈ graph.taskIds := by
  rw [Table.lookup_insert_ite]
  split <;> simp

theorem mem_ownersOf_withGraph (h : GraphInv (withGraph s owner entered)) {o : RootOwner} :
    o ∈ s.ownersOf x ↔ if o = owner then x ∈ entered
      else ∃ graph, s.ownerGraphs.lookup o = some graph ∧ graph.attached = true ∧ x ∈ graph.taskIds :=
  (h.graphs o x).trans exists_graph_insert_iff

variable {record : TaskRecord P O Id}

theorem Entered.withGraphs {newOwners : Finset RootOwner} (e : Entered s s' x record newOwners)
    (graphs graphs' : Table RootOwner (OwnerGraph Id)) :
    Entered { s with ownerGraphs := graphs } { s' with ownerGraphs := graphs' } x record newOwners :=
  { e with
    ready := fun h => ⟨by
      have := (e.ready h).1
      cases hp : record.priority <;> rw [hp] at this <;> exact this, (e.ready h).2⟩
    queue := fun y hy p h => by
      have := e.queue y hy p
      cases p <;> exact this h }

theorem exists_graph_concat_iff (h : GraphInv (withGraph s owner entered)) {o : RootOwner} {y : Id} :
    (∃ graph, (s.ownerGraphs.insert owner ⟨entered ++ [x], true⟩).lookup o = some graph ∧ graph.attached = true ∧
      y ∈ graph.taskIds) ↔ o ∈ s.ownersOf y ∨ y = x ∧ o = owner := by
  rw [exists_graph_insert_iff, mem_ownersOf_withGraph h]
  split
  · rename_i ho
    subst ho
    simp
  · rename_i ho
    simp [ho]

theorem StoreInv.join (h : StoreInv (withGraph s owner entered) popped fun _ => False)
    (hRecord : s.tasks.lookup x = some record) (hDeps : ∀ d ∈ record.dependencies, d ∈ entered) :
    StoreInv (withGraph { s with taskOwners := s.taskOwners.insert x (insert owner (s.ownersOf x)) } owner
      (entered ++ [x])) popped fun _ => False := by
  have hOwners : ∀ o y, o ∈ (withGraph { s with taskOwners := s.taskOwners.insert x (insert owner (s.ownersOf x)) }
      owner (entered ++ [x])).ownersOf y ↔ o ∈ s.ownersOf y ∨ y = x ∧ o = owner := by
    intro o y
    rw [withGraph, Inner.ownersOf, Table.lookup_insert_ite]
    split
    · rename_i hy
      subst hy
      rw [getD_some, Finset.mem_insert, or_comm]
      simp
    · rename_i hy
      simp [hy, Inner.ownersOf]
  constructor
  · constructor
    · exact h.nodup
    · exact h.payload
    · exact h.edge
    · exact h.edges
    · intro o y ho
      rw [hOwners o y] at ho
      rcases ho with ho | ⟨rfl, rfl⟩
      · obtain ⟨before, hBefore, hClosed⟩ := h.closed o y ho
        exact ⟨before, hBefore, fun d hd => (hOwners o d).mpr (Or.inl (hClosed d hd))⟩
      · refine ⟨record, hRecord, fun d hd => (hOwners o d).mpr (Or.inl ?_)⟩
        rw [mem_ownersOf_withGraph h.toGraphInv, if_pos rfl]
        exact hDeps d hd
    · intro o y
      rw [hOwners o y]
      exact (exists_graph_concat_iff h.toGraphInv).symm
  · intro y after hAfter hy
    refine (h.task y after hAfter hy).frame fun _ => ⟨?_, rfl, fun _ _ => rfl, fun _ _ h => h, fun _ _ h => h, ?_,
      fun _ h => h⟩
    · rintro ⟨o, ho⟩
      exact ⟨o, (hOwners o y).mpr (Or.inl ho)⟩
    · intro p hIn
      cases p <;> exact hIn

theorem GraphInv.unowned_of_enter (h : GraphInv s)
    (hEnter : ((s.tasks.lookup x).isNone || isUnownedLost s x) = true) :
    s.ownersOf x = ∅ ∧ s.isDone x = false ∧ s.isLive x = false := by
  rw [Bool.or_eq_true, isNone_iff_eq_none] at hEnter
  rcases hEnter with hNone | hLost
  · refine ⟨Finset.eq_empty_of_forall_notMem fun owner hOwner => ?_, Inner.not_done_live_of_lookup_eq_none hNone⟩
    obtain ⟨record, hRecord, _⟩ := h.closed owner x hOwner
    rw [hNone] at hRecord
    cases hRecord
  · rw [isUnownedLost, Bool.and_eq_true, beq_iff_eq] at hLost
    exact ⟨hLost.2, Inner.not_done_live_of_isLostTask hLost.1⟩

theorem cleared_of_enter (hEdge : ∀ d, x ∈ s.dependentsOf d → (s.tasks.lookup x).isNone = false)
    (hEnter : ((s.tasks.lookup x).isNone || isUnownedLost s x) = true) :
    Cleared s (if isUnownedLost s x then removeQueueMemberships (removeDependentEdges s x) x else s) x := by
  split
  · exact cleared_remove s x
  · rename_i hNot
    refine cleared_self fun d hMem => ?_
    simp [hNot, hEdge d hMem] at hEnter

theorem StoreInv.enterPlaced {base : Inner P O Id} {remaining : Nat} {waited : List Id}
    (h : StoreInv (withGraph s owner entered) popped fun _ => False) (c : Cleared s base x)
    (p : Placed base s' x record remaining waited) (r : Resolved s record remaining waited)
    (hNodup : record.dependencies.Nodup) (hPayload : record.payload.isSome = true) (hUnowned : s.ownersOf x = ∅)
    (hDone : s.isDone x = false) (hLive : s.isLive x = false)
    (hOwned : ∀ d ∈ record.dependencies, owner ∈ s.ownersOf d) :
    StoreInv (withGraph { s' with taskOwners := s'.taskOwners.insert x (insert owner (s'.ownersOf x)) } owner
      (entered ++ [x])) popped fun _ => False := by
  have hOwnersOf : ∀ y, s'.ownersOf y = s.ownersOf y := fun y => by
    rw [Inner.ownersOf, p.owners, c.owners, Inner.ownersOf]
  have hEntered : Entered s { s' with taskOwners := s'.taskOwners.insert x (insert owner (s'.ownersOf x)) } x record
      {owner} := by
    refine entered_of_placed h.edges c p r hNodup hPayload (fun y => ?_) ⟨owner, by simp⟩
    rw [Table.lookup_insert_ite]
    split
    · rw [getD_some, hOwnersOf x, Finset.insert_eq, Finset.union_comm]
    · exact hOwnersOf y
  have hGraphs : s'.ownerGraphs = s.ownerGraphs := p.graphs.trans c.graphs
  refine h.enter (hEntered.withGraphs _ _) hDone hLive (fun hLost d hd => r.dependency hLost hd) ?_ ?_
  · intro o ho d hd
    change o ∈ s.ownersOf x ∪ {owner} at ho
    rw [hUnowned, Finset.empty_union, Finset.mem_singleton] at ho
    rw [ho]
    exact hOwned d hd
  · intro o y
    refine (hEntered.withGraphs (withGraph s owner entered).ownerGraphs _).mem_ownersOf.trans ?_
    change _ ↔ ∃ graph, (s'.ownerGraphs.insert owner ⟨entered ++ [x], true⟩).lookup o = some graph ∧ _
    rw [hGraphs, exists_graph_concat_iff h.toGraphInv, Finset.mem_singleton]
    rfl

variable [ReadyQueueSort Id]

theorem StoreInv.enterNode (h : StoreInv (withGraph s owner entered) popped fun _ => False)
    (hNodup : node.dependencies.Nodup) (hEarlier : ∀ d ∈ node.dependencies, d ∈ entered)
    (hMatch : ∀ record, s.tasks.lookup node.id = some record →
      ∀ d, d ∈ record.dependencies ↔ d ∈ node.dependencies) :
    StoreInv (withGraph (enterNode owner s node) owner (entered ++ [node.id])) popped fun _ => False := by
  rw [Queue.enterNode]
  dsimp only
  split
  · rename_i hEnter
    obtain ⟨hUnowned, hDone, hLive⟩ : s.ownersOf node.id = ∅ ∧ s.isDone node.id = false ∧ s.isLive node.id = false :=
      h.toGraphInv.unowned_of_enter hEnter
    have hOwned : ∀ d ∈ node.dependencies, owner ∈ s.ownersOf d := by
      intro d hd
      rw [mem_ownersOf_withGraph h.toGraphInv, if_pos rfl]
      exact hEarlier d hd
    have hClear := cleared_of_enter (fun d hMem => by
      obtain ⟨record, hRecord, _⟩ := h.edge node.id d hMem
      change s.tasks.lookup node.id = some record at hRecord
      rw [hRecord]
      rfl) hEnter
    generalize (if isUnownedLost s node.id then _ else s) = base at hClear ⊢
    generalize hResolve : insertedState (resolveDependencyInsertState s node.dependencies) = resolved
    obtain ⟨remaining, state, waited⟩ := resolved
    have hPresent : ∀ d ∈ node.dependencies, (s.tasks.lookup d).isSome = true := by
      intro d hd
      obtain ⟨record, hRecord, _⟩ := h.closed owner d (hOwned d hd)
      exact isSome_iff_exists.mpr ⟨record, hRecord⟩
    exact h.enterPlaced hClear (placed_placeTask base node.id _ remaining waited)
      (resolved_insertedState hResolve rfl hPresent) hNodup rfl hUnowned hDone hLive hOwned
  · rename_i hStays
    obtain ⟨record, hRecord⟩ : ∃ record, s.tasks.lookup node.id = some record := by
      rw [Bool.or_eq_true, not_or, isNone_iff_eq_none] at hStays
      exact ne_none_iff_exists'.mp hStays.1
    exact h.join hRecord fun d hd => hEarlier d ((hMatch record hRecord d).mp hd)

theorem lookup_enterNode_ne {y : Id} (hy : y ≠ node.id) :
    (enterNode owner s node).tasks.lookup y = s.tasks.lookup y := by
  rw [enterNode]
  dsimp only
  split
  · rw [(placed_placeTask _ _ _ _ _).tasks y, if_neg hy]
    split <;> rfl
  · rfl

theorem ownersOf_enterNode (y : Id) : (enterNode owner s node).ownersOf y =
    if y = node.id then insert owner (s.ownersOf y) else s.ownersOf y := by
  have hOwners : ∀ base : Inner P O Id, base.taskOwners = s.taskOwners →
      ({ base with taskOwners := base.taskOwners.insert node.id (insert owner (base.ownersOf node.id)) } :
        Inner P O Id).ownersOf y = if y = node.id then insert owner (s.ownersOf y) else s.ownersOf y := by
    intro base hBase
    rw [Inner.ownersOf, Inner.ownersOf, hBase, Table.lookup_insert_ite]
    split
    · rename_i hy
      rw [getD_some, hy]
      rfl
    · rfl
  rw [enterNode]
  dsimp only
  apply hOwners
  split
  · rw [(placed_placeTask _ _ _ _ _).owners]
    split <;> rfl
  · rfl

theorem ownerGraphs_enterNode : (enterNode owner s node).ownerGraphs = s.ownerGraphs := by
  rw [enterNode]
  dsimp only
  split
  · rw [(placed_placeTask _ _ _ _ _).graphs]
    split <;> rfl
  · rfl

theorem isLost_enterNode (owner : RootOwner) (hUnowned : s.ownersOf node.id = ∅)
    (hEarlier : ∀ d ∈ node.dependencies, s.isLostTask d = false) :
    ∃ record, (enterNode owner s node).tasks.lookup node.id = some record ∧ record.state.isLost = false := by
  rw [enterNode]
  dsimp only
  split
  · rw [(placed_placeTask _ _ _ _ _).tasks, if_pos rfl]
    refine ⟨_, rfl, ?_⟩
    dsimp only
    rw [resolveDependencyInsertState_of_not_lost hEarlier, insertedState]
    dsimp only
    split <;> rfl
  · rename_i hStays
    rw [Bool.or_eq_true, not_or, isNone_iff_eq_none, isUnownedLost, hUnowned] at hStays
    obtain ⟨record, hRecord⟩ := ne_none_iff_exists'.mp hStays.1
    refine ⟨record, hRecord, ?_⟩
    simpa [Inner.stateOf, hRecord] using hStays.2

/-- The loop of a new owner: each node is entered after its dependencies. -/
theorem StoreInv.enterGraph {nodes : List (ExecutionNode P Id)} (hOrder : EntryOrder entered nodes)
    (h : StoreInv (withGraph s owner entered) popped fun _ => False)
    (hMatch : ∀ node ∈ nodes, ∀ record, s.tasks.lookup node.id = some record →
      ∀ d, d ∈ record.dependencies ↔ d ∈ node.dependencies) :
    StoreInv (withGraph (nodes.foldl (Queue.enterNode owner) s) owner (entered ++ nodes.map (·.id))) popped
      fun _ => False := by
  induction hOrder generalizing s with
  | nil =>
    rw [List.map_nil, List.append_nil]
    exact h
  | @cons entered node rest _ hNodup hEarlier hLater ih =>
    have hNode := h.enterNode hNodup hEarlier (hMatch node List.mem_cons_self)
    rw [List.foldl_cons, List.map_cons, List.append_cons]
    refine ih hNode fun other hOther record hRecord => ?_
    have hNe : other.id ≠ node.id := fun hEq => hLater.fresh other hOther (by simp [hEq])
    rw [lookup_enterNode_ne hNe] at hRecord
    exact hMatch other (List.mem_cons_of_mem _ hOther) record hRecord

end NewOwner

section Attach

variable [ReadyQueueSort Id] [BEq P]

variable {owner : RootOwner}

omit [ReadyQueueSort Id] [BEq P] in
theorem StoreInv.withEmptyGraph (h : StoreInv s popped exempt) (hOwner : s.ownerGraphs.lookup owner = none) :
    StoreInv (withGraph s owner []) popped exempt := by
  refine ⟨⟨h.nodup, h.payload, h.edge, h.edges, h.closed, fun o y => ?_⟩, fun y record hRecord hy => ?_⟩
  · refine (h.graphs o y).trans (Iff.trans ?_ exists_graph_insert_iff.symm)
    split
    · rename_i ho
      rw [ho, hOwner]
      simp
    · rfl
  · refine (h.task y record hRecord hy).frame fun _ => ⟨fun h => h, rfl, fun _ _ => rfl, fun _ _ h => h,
      fun _ _ h => h, fun p hIn => ?_, fun _ h => h⟩
    cases p <;> exact hIn

omit [ReadyQueueSort Id] in
theorem mem_dependencies_of_taskDefinitionMatches {record : TaskRecord P O Id} {node : ExecutionNode P Id}
    (h : taskDefinitionMatches record node = true) (d : Id) : d ∈ record.dependencies ↔ d ∈ node.dependencies := by
  simp only [taskDefinitionMatches, Bool.and_eq_true] at h
  exact (graphTaskSetsMatch_iff.mp h.2).2 d

theorem StoreInv.attachNew (h : StoreInv s popped fun _ => False) {graph : List (ExecutionNode P Id)}
    (hOwner : s.ownerGraphs.lookup owner = none) (hOrder : EntryOrder [] (graphTopologicalNodes graph))
    (hMatch : ∀ node ∈ graphTopologicalNodes graph, ∀ record ∈ s.tasks.lookup node.id,
      taskDefinitionMatches record node = true) :
    StoreInv (withGraph ((graphTopologicalNodes graph).foldl (Queue.enterNode owner) s) owner
      ((graphTopologicalNodes graph).map (·.id))) popped fun _ => False :=
  StoreInv.enterGraph hOrder (h.withEmptyGraph hOwner) fun node hNode record hRecord =>
    mem_dependencies_of_taskDefinitionMatches (hMatch node hNode record hRecord)

omit [ReadyQueueSort Id] in
theorem checkAttachedNode_eq_ok_iff {node : ExecutionNode P Id} :
    checkAttachedNode owner s node = .ok () ↔ ∃ record, s.tasks.lookup node.id = some record ∧
      taskDefinitionMatches record node = true ∧ owner ∈ s.ownersOf node.id := by
  simp only [checkAttachedNode, bind_eq_ok_iff, ofOption_eq_ok_iff, ensure_eq_ok_iff,
    exists_const]

/-- What attaching a checked graph does, for an owner that is attached already and for a new one. -/
inductive Attaches (s : Inner P O Id) (owner : RootOwner) (graph : List (ExecutionNode P Id)) :
    Inner P O Id → AttachOutcome → Prop where
  | again {existing : OwnerGraph Id} {s' : Inner P O Id} {reset : Bool}
      (owner_eq : s.ownerGraphs.lookup owner = some existing) (attached : existing.attached = true)
      (checked : ∀ node ∈ graph, ∃ record, s.tasks.lookup node.id = some record ∧
        taskDefinitionMatches record node = true ∧ owner ∈ s.ownersOf node.id)
      (result : resetAttachedTerminalNodes s (graphTopologicalNodes graph) = .ok (s', reset))
      (effect : ResetEffect s s' (lostIds s (graphTopologicalNodes graph)) (graphTopologicalNodes graph)) :
      Attaches s owner graph s' (if reset then .attached else .alreadyAttached)
  | fresh (owner_eq : s.ownerGraphs.lookup owner = none)
      (matched : ∀ node ∈ graph, ∀ record ∈ s.tasks.lookup node.id, taskDefinitionMatches record node = true) :
      Attaches s owner graph (withGraph ((graphTopologicalNodes graph).foldl (Queue.enterNode owner) s) owner
        ((graphTopologicalNodes graph).map (·.id))) .attached

/-- In any store, attaching returns an error before it has written anything, or it does all of its work. -/
theorem attachGraph_cases (s : Inner P O Id) (owner : RootOwner) (nodes : List (ExecutionNode P Id)) :
    (∃ e, attachGraph s owner nodes = .error e ∧ (attachGraphInPlace owner nodes).run s = (.error e, s)) ∨
      ∃ graph s' outcome, normalizeAndValidateGraph owner nodes = .ok graph ∧ Attaches s owner graph s' outcome ∧
        attachGraph s owner nodes = .ok (s', outcome) ∧ (attachGraphInPlace owner nodes).run s = (.ok outcome, s') := by
  rw [attachGraph, attachGraphInPlace]
  cases hGraph : normalizeAndValidateGraph owner nodes with
  | abort m => exact absurd hGraph normalizeAndValidateGraph_ne_abort
  | error e => exact Or.inl ⟨e, rfl, rfl⟩
  | ok graph =>
    obtain ⟨hOrder, hMem, hNodup⟩ := graphTopologicalNodes_spec hGraph
    rw [ok_bind, Edit.check_ok_bind_run]
    dsimp only
    rw [Edit.read_bind_run]
    cases hOwner : s.ownerGraphs.lookup owner with
    | none =>
      dsimp only
      by_cases hMatch : ∀ node ∈ graph, ∀ record ∈ s.tasks.lookup node.id, taskDefinitionMatches record node = true
      · rw [ensure_of_pos hMatch, Edit.check_ok_bind_run, Edit.bind_run_of_ok (Edit.forM_change_run _)]
        exact Or.inr ⟨graph, _, _, rfl, .fresh hOwner hMatch, rfl, rfl⟩
      · rw [ensure_of_neg hMatch]
        exact Or.inl ⟨_, rfl, rfl⟩
    | some existing =>
      dsimp only
      by_cases hAttached : existing.attached = true
      swap
      · rw [ensure_of_neg hAttached]
        exact Or.inl ⟨_, rfl, rfl⟩
      by_cases hSame : graphTaskSetsMatch existing.taskIds ((graphTopologicalNodes graph).map (·.id)) = true
      swap
      · rw [ensure_of_pos hAttached, ensure_of_neg hSame]
        exact Or.inl ⟨_, rfl, rfl⟩
      rw [ensure_of_pos hAttached, ensure_of_pos hSame, ok_bind, ok_bind,
        Edit.check_ok_bind_run, Edit.check_ok_bind_run]
      cases hCheck : graph.mapM (checkAttachedNode owner s) with
      | abort m =>
        refine absurd hCheck (mapM_ne_abort fun node => ?_)
        simp [checkAttachedNode, bind_eq_abort_iff]
      | error e => exact Or.inl ⟨e, rfl, rfl⟩
      | ok checked =>
        have hChecked : ∀ node ∈ graph, ∃ record, s.tasks.lookup node.id = some record ∧
            taskDefinitionMatches record node = true ∧ owner ∈ s.ownersOf node.id := by
          intro node hNode
          obtain ⟨_, _, hOk⟩ := forall₂_mem_right (mapM_eq_ok_iff.mp hCheck).flip hNode
          exact checkAttachedNode_eq_ok_iff.mp hOk
        obtain ⟨s', reset, hReset, hRun, hEffect, _⟩ :=
          resetAttachedTerminalNodes_effect hOrder hNodup fun node hNode => by
            obtain ⟨record, hRecord, _⟩ := hChecked node ((hMem node).mp hNode)
            exact isSome_iff_exists.mpr ⟨record, hRecord⟩
        rw [ok_bind, hReset, Edit.check_ok_bind_run, Edit.bind_run_of_ok hRun]
        exact Or.inr ⟨graph, _, _, rfl, .again hOwner hAttached hChecked hReset hEffect, rfl, rfl⟩

/-- Attaching a graph returns an error or keeps the invariant; it does not abort. -/
theorem StoreInv.attachGraph (h : StoreInv s popped fun _ => False) (owner : RootOwner)
    (nodes : List (ExecutionNode P Id)) :
    (∃ e, attachGraph s owner nodes = .error e) ∨
      ∃ s' outcome, attachGraph s owner nodes = .ok (s', outcome) ∧ StoreInv s' popped fun _ => False := by
  rcases attachGraph_cases s owner nodes with ⟨e, hError, _⟩ | ⟨graph, s', outcome, hGraph, hAttaches, hResult, _⟩
  · exact Or.inl ⟨e, hError⟩
  obtain ⟨hOrder, hMem, hNodup⟩ := graphTopologicalNodes_spec hGraph
  refine Or.inr ⟨s', outcome, hResult, ?_⟩
  cases hAttaches with
  | fresh hOwner hMatch => exact h.attachNew hOwner hOrder fun node hNode => hMatch node ((hMem node).mp hNode)
  | again _ _ hChecked hReset _ =>
    obtain ⟨_, _, hReset', _, _, hInv⟩ := resetAttachedTerminalNodes_effect hOrder hNodup fun node hNode => by
      obtain ⟨record, hRecord, _⟩ := hChecked node ((hMem node).mp hNode)
      exact isSome_iff_exists.mpr ⟨record, hRecord⟩
    cases hReset.symm.trans hReset'
    refine hInv _ _ h fun node hNode => ?_
    obtain ⟨record, hRecord, hMatch, hOwned⟩ := hChecked node ((hMem node).mp hNode)
    exact ⟨⟨owner, hOwned⟩, record, hRecord, mem_dependencies_of_taskDefinitionMatches hMatch⟩

end Attach

end Raiko2.Queue
