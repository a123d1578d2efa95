import Raiko2.Queue.Graph

/-!
# Which graphs are admitted

The checks on a graph pass exactly on the graphs that can be executed at all, and the order computed afterwards is
an order of all nodes in which dependencies come first.
-/

namespace Raiko2.Queue

open Lib List

variable {P Id : Type}

def DependsOn (nodes : List (ExecutionNode P Id)) (a b : Id) : Prop :=
  ∃ node ∈ nodes, node.id = a ∧ b ∈ node.dependencies

structure Admissible (owner : RootOwner) (nodes : List (ExecutionNode P Id)) : Prop where
  named : ∃ c ∈ owner.taskId.toList, isWhiteSpace c = false
  incarnation : owner.incarnationId ≠ 0
  nonempty : nodes ≠ []
  distinct : (nodes.map (·.id)).Nodup
  closed : ∀ node ∈ nodes, ∀ d ∈ node.dependencies, ∃ dependency ∈ nodes, dependency.id = d
  acyclic : ∀ id, ¬Relation.TransGen (DependsOn nodes) id id

variable [DecidableEq Id]

/-- The second list has the elements of the first, each once, in the order of their first occurrences. -/
structure KeepsFirst (before after : List Id) : Prop where
  nodup : after.Nodup
  mem : ∀ d, d ∈ after ↔ d ∈ before
  order : ∀ a ∈ before, ∀ b ∈ before, after.idxOf a < after.idxOf b ↔ before.idxOf a < before.idxOf b

structure Normalized (before after : ExecutionNode P Id) : Prop where
  id : after.id = before.id
  task : after.task = before.task
  policy : after.executionPolicy = before.executionPolicy
  dependencies : KeepsFirst before.dependencies after.dependencies

section Normalizing

theorem idxOf_filter_lt_iff {xs : List Id} {x a b : Id} (ha : a ≠ x) (hb : b ≠ x) (haMem : a ∈ xs) (hbMem : b ∈ xs) :
    (xs.filter (· ≠ x)).idxOf a < (xs.filter (· ≠ x)).idxOf b ↔ xs.idxOf a < xs.idxOf b := by
  induction xs with
  | nil => simp at haMem
  | cons y xs ih =>
    have hTail : ∀ c, c ≠ y → c ∈ y :: xs → c ∈ xs := fun c hc h => (mem_cons.mp h).resolve_left hc
    by_cases hy : y = x
    · subst hy
      rw [filter_cons_of_neg (by simp), ih (hTail a ha haMem) (hTail b hb hbMem),
        idxOf_cons_ne _ ha.symm, idxOf_cons_ne _ hb.symm, Nat.succ_lt_succ_iff]
    · rw [filter_cons_of_pos (by simpa using hy)]
      by_cases hay : y = a <;> by_cases hby : y = b
      · subst hay hby
        simp
      · subst hay
        rw [idxOf_cons_self, idxOf_cons_self, idxOf_cons_ne _ hby, idxOf_cons_ne _ hby]
        simp
      · subst hby
        simp
      · rw [idxOf_cons_ne _ hay, idxOf_cons_ne _ hay, idxOf_cons_ne _ hby, idxOf_cons_ne _ hby,
          Nat.succ_lt_succ_iff, Nat.succ_lt_succ_iff]
        exact ih (hTail a (Ne.symm hay) haMem) (hTail b (Ne.symm hby) hbMem)

theorem idxOf_eraseDups_lt_iff : ∀ (xs : List Id) {a b : Id}, a ∈ xs → b ∈ xs →
    (xs.eraseDups.idxOf a < xs.eraseDups.idxOf b ↔ xs.idxOf a < xs.idxOf b)
  | [], _, _, ha, _ => by simp at ha
  | x :: xs, a, b, ha, hb => by
    rw [eraseDups_cons]
    by_cases hax : x = a <;> by_cases hbx : x = b
    · subst hax hbx
      simp
    · subst hax
      rw [idxOf_cons_self, idxOf_cons_self, idxOf_cons_ne _ hbx, idxOf_cons_ne _ hbx]
      simp
    · subst hbx
      simp
    · have haTail := (mem_cons.mp ha).resolve_left (Ne.symm hax)
      have hbTail := (mem_cons.mp hb).resolve_left (Ne.symm hbx)
      have hFilter : (xs.filter fun c => !c == x) = xs.filter (· ≠ x) := by
        congr 1
        funext c
        by_cases hc : c = x <;> simp [hc]
      rw [idxOf_cons_ne _ hax, idxOf_cons_ne _ hax, idxOf_cons_ne _ hbx, idxOf_cons_ne _ hbx,
        Nat.succ_lt_succ_iff, Nat.succ_lt_succ_iff, hFilter,
        idxOf_eraseDups_lt_iff (xs.filter (· ≠ x)) (by simp [haTail, Ne.symm hax]) (by simp [hbTail, Ne.symm hbx])]
      exact idxOf_filter_lt_iff (Ne.symm hax) (Ne.symm hbx) haTail hbTail
termination_by xs => xs.length
decreasing_by exact Nat.lt_succ_of_le (length_filter_le _ _)

theorem keepsFirst_eraseDups (xs : List Id) : KeepsFirst xs xs.eraseDups :=
  ⟨nodup_eraseDups xs, fun _ => mem_eraseDups, fun _ ha _ hb => idxOf_eraseDups_lt_iff xs ha hb⟩

theorem normalized_normalizeNode (node : ExecutionNode P Id) : Normalized node (normalizeNode node) :=
  ⟨rfl, rfl, rfl, keepsFirst_eraseDups _⟩

end Normalizing

section Admitting

variable {nodes : List (ExecutionNode P Id)}

theorem follows_nodeDependencies_iff (hNodup : (nodes.map (·.id)).Nodup) {a b : Id} :
    Lib.Follows (nodeDependencies nodes) a b ↔ DependsOn nodes a b := by
  constructor
  · rintro ⟨_, hNext, hb⟩
    obtain ⟨node, hFind, rfl⟩ := Option.map_eq_some_iff.mp hNext
    obtain ⟨hMem, hId⟩ := (find?_node_eq_some_iff hNodup).mp hFind
    exact ⟨node, hMem, hId, hb⟩
  · rintro ⟨node, hMem, hId, hb⟩
    refine ⟨node.dependencies, ?_, hb⟩
    rw [nodeDependencies, (find?_node_eq_some_iff hNodup).mpr ⟨hMem, hId⟩, Option.map_some]

theorem dependsOn_normalize_iff {a b : Id} : DependsOn (nodes.map normalizeNode) a b ↔ DependsOn nodes a b := by
  simp [DependsOn, normalizeNode, mem_eraseDups]

theorem nodeDependencies_closed (hNodup : (nodes.map (·.id)).Nodup)
    (hClosed : ∀ node ∈ nodes, ∀ d ∈ node.dependencies, d ∈ nodes.map (·.id)) :
    ∀ a ∈ nodes.map (·.id), ∃ next, nodeDependencies nodes a = some next ∧ ∀ b ∈ next, b ∈ nodes.map (·.id) := by
  intro a ha
  obtain ⟨node, hMem, rfl⟩ := mem_map.mp ha
  refine ⟨node.dependencies, ?_, hClosed node hMem⟩
  rw [nodeDependencies, (find?_node_eq_some_iff hNodup).mpr ⟨hMem, rfl⟩, Option.map_some]

theorem validateGraphIsAcyclic_eq_ok_iff (hNodup : (nodes.map (·.id)).Nodup)
    (hClosed : ∀ node ∈ nodes, ∀ d ∈ node.dependencies, d ∈ nodes.map (·.id)) :
    validateGraphIsAcyclic nodes = .ok () ↔ ∀ id, ¬Relation.TransGen (DependsOn nodes) id id := by
  have hRelation : Lib.Follows (nodeDependencies nodes) = DependsOn nodes := by
    funext a b
    exact propext (follows_nodeDependencies_iff hNodup)
  rw [validateGraphIsAcyclic, ← hRelation]
  constructor
  · intro h id hCycle
    split at h
    · rename_i order hOrder
      obtain ⟨-, hDependency, hAll⟩ := postOrderAll_of_depthFirst hOrder
      -- an element on a cycle has successors, so it is a node and was finished
      obtain ⟨_, ⟨_, hNext, _⟩, _⟩ := Relation.TransGen.head'_iff.mp hCycle
      obtain ⟨node, hFind, _⟩ := Option.map_eq_some_iff.mp hNext
      obtain ⟨hMem, rfl⟩ := (find?_node_eq_some_iff hNodup).mp hFind
      exact hDependency.not_cycle (hAll node.id (mem_map_of_mem hMem)) hCycle
    · cases h
  · intro hAcyclic
    obtain ⟨order, hOrder⟩ := exists_depthFirstAll (nodeDependencies_closed hNodup hClosed) hAcyclic fun a ha => ha
    simp only [hOrder (nodes.length + 1) (by simp)]

theorem normalizeAndValidateGraph_isOk_iff {owner : RootOwner} :
    (∃ graph, normalizeAndValidateGraph owner nodes = .ok graph) ↔ Admissible owner nodes := by
  have hIds : (nodes.map normalizeNode).map (·.id) = nodes.map (·.id) := by
    rw [map_map]
    rfl
  have hBlank : isBlank owner.taskId = false ↔ ∃ c ∈ owner.taskId.toList, isWhiteSpace c = false := by
    simp [isBlank]
  have hCycles : (∀ id, ¬Relation.TransGen (DependsOn (nodes.map normalizeNode)) id id) ↔
      ∀ id, ¬Relation.TransGen (DependsOn nodes) id id := by
    rw [show DependsOn (nodes.map normalizeNode) = DependsOn nodes from
      funext fun a => funext fun b => propext dependsOn_normalize_iff]
  have hDeps : (∀ node ∈ nodes.map normalizeNode, ∀ d ∈ node.dependencies, d ∈ nodes.map (·.id)) ↔
      ∀ node ∈ nodes, ∀ d ∈ node.dependencies, ∃ dependency ∈ nodes, dependency.id = d := by
    simp [normalizeNode, mem_eraseDups]
  simp only [normalizeAndValidateGraph_eq_ok_iff]
  constructor
  · rintro ⟨graph, hName, hNil, hNodes, hNodup, rfl, hClosed, hAcyclic⟩
    rw [hIds] at hClosed
    rw [validateGraphIsAcyclic_eq_ok_iff (hIds ▸ hNodup) (hIds ▸ hClosed), hCycles] at hAcyclic
    exact ⟨hBlank.mp hName, hNil, hNodes, hNodup, hDeps.mp hClosed, hAcyclic⟩
  · intro h
    have hClosed := hDeps.mpr h.closed
    refine ⟨_, hBlank.mpr h.named, h.incarnation, h.nonempty, h.distinct, rfl, hIds ▸ hClosed, ?_⟩
    rw [validateGraphIsAcyclic_eq_ok_iff (hIds ▸ h.distinct) (hIds ▸ hClosed), hCycles]
    exact h.acyclic

end Admitting

section Indices

variable {nodes : List (ExecutionNode P Id)}

def idAt (nodes : List (ExecutionNode P Id)) (index : Nat) : Option Id := (nodes[index]?).map (·.id)

omit [DecidableEq Id] in
theorem idAt_injective (hNodup : (nodes.map (·.id)).Nodup) {i j : Nat} {id : Id} (hi : idAt nodes i = some id)
    (hj : idAt nodes j = some id) : i = j := by
  rw [idAt, ← getElem?_map] at hi hj
  obtain ⟨hShort, _⟩ := List.getElem?_eq_some_iff.mp hi
  exact (getElem?_inj hShort hNodup).mp (hi.trans hj.symm)

theorem graphIndex_eq_some_iff (hNodup : (nodes.map (·.id)).Nodup) {id : Id} {i : Nat} :
    graphIndex nodes id = some i ↔ idAt nodes i = some id := by
  have hSound : ∀ j, graphIndex nodes id = some j → idAt nodes j = some id := by
    intro j hj
    have hAny := find?_some hj
    obtain ⟨node, hNode, hId⟩ := Option.any_eq_true _ _ |>.mp hAny
    rw [idAt, hNode, Option.map_some, of_decide_eq_true hId]
  refine ⟨hSound i, fun hi => ?_⟩
  cases hIndex : graphIndex nodes id with
  | some j => rw [idAt_injective hNodup hi (hSound j hIndex)]
  | none =>
    obtain ⟨node, hNode, hId⟩ := Option.map_eq_some_iff.mp hi
    obtain ⟨hShort, _⟩ := List.getElem?_eq_some_iff.mp hNode
    have := find?_eq_none.mp hIndex i (by simpa using hShort)
    simp [hNode, hId] at this

omit [DecidableEq Id] in
theorem exists_idAt {id : Id} (h : id ∈ nodes.map (·.id)) : ∃ i, i < nodes.length ∧ idAt nodes i = some id := by
  obtain ⟨node, hNode, rfl⟩ := mem_map.mp h
  obtain ⟨i, hi⟩ := mem_iff_getElem?.mp hNode
  obtain ⟨hShort, _⟩ := List.getElem?_eq_some_iff.mp hi
  exact ⟨i, hShort, by rw [idAt, hi, Option.map_some]⟩

structure Collected (nodes : List (ExecutionNode P Id)) (active done : List Id) (state : List Id × List Nat) :
    Prop where
  ordered : state.2.map (idAt nodes) = done.map some
  visited : ∀ b, b ∈ state.1 ↔ b ∈ active ∨ b ∈ done

theorem appendIndex_of_depthFirst (hNodup : (nodes.map (·.id)).Nodup)
    (hClosed : ∀ node ∈ nodes, ∀ d ∈ node.dependencies, d ∈ nodes.map (·.id)) {fuel i : Nat} {id : Id}
    {active done result : List Id} {state : List Id × List Nat} (hIndex : idAt nodes i = some id)
    (h : depthFirst (nodeDependencies nodes) fuel active id done = some result)
    (hState : Collected nodes active done state) :
    ∃ state', appendIndex nodes fuel i state = some state' ∧ Collected nodes active result state' := by
  induction fuel generalizing i id active done result state with
  | zero => cases h
  | succ fuel ih =>
    obtain ⟨visited, ordered⟩ := state
    obtain ⟨node, hNode, rfl⟩ := Option.map_eq_some_iff.mp hIndex
    rw [depthFirst] at h
    rw [appendIndex, hNode]
    split at h
    · rename_i hDone
      cases h
      exact ⟨_, if_pos ((hState.visited _).mpr (Or.inr hDone)), hState⟩
    rename_i hFresh
    split at h
    · cases h
    rename_i hInactive
    have hUnseen : node.id ∉ visited := fun hMem => ((hState.visited _).mp hMem).elim hInactive hFresh
    have hMem := mem_of_getElem? hNode
    have hDeps : nodeDependencies nodes node.id = some node.dependencies := by
      rw [nodeDependencies, (find?_node_eq_some_iff hNodup).mpr ⟨hMem, rfl⟩, Option.map_some]
    rw [hDeps] at h
    obtain ⟨_, ⟨⟩, h⟩ := Option.bind_eq_some_iff.mp h
    obtain ⟨middle, hFold, h⟩ := Option.bind_eq_some_iff.mp h
    cases h
    have hSame : List.Forall₂ (fun b c => b = c ∧ b ∈ nodes.map (·.id)) node.dependencies node.dependencies :=
      forall₂_same.mpr fun d hd => ⟨rfl, hClosed node hMem d hd⟩
    obtain ⟨⟨visited', ordered'⟩, hAppend, hCollected⟩ := foldlM_simulates (Collected nodes (node.id :: active))
      (fun state dependency => do appendIndex nodes fuel (← graphIndex nodes dependency) state) hSame (by
        rintro done state b _ done' ⟨rfl, hInside⟩ hCollected hVisit
        obtain ⟨j, _, hj⟩ := exists_idAt hInside
        obtain ⟨state', hAppend, hCollected'⟩ := ih hj hVisit hCollected
        refine ⟨state', ?_, hCollected'⟩
        rw [(graphIndex_eq_some_iff hNodup).mpr hj]
        exact hAppend)
      (node.id :: visited, ordered) ⟨hState.ordered, fun b => by
        rw [mem_cons, mem_cons, hState.visited b, or_assoc]⟩ hFold
    refine ⟨(visited', ordered' ++ [i]), ?_, ?_, ?_⟩
    · change (if node.id ∈ visited then _ else _) = _
      rw [if_neg hUnseen, hAppend]
      rfl
    · simp [hCollected.ordered, hIndex]
    · intro b
      rw [hCollected.visited b, mem_append, mem_cons, mem_singleton]
      tauto

/-- An order of the indices of a graph in which every dependency comes before the nodes that wait for it. -/
structure TopologicalOrder (nodes : List (ExecutionNode P Id)) (order : List Nat) : Prop where
  perm : order.Perm (range nodes.length)
  earlier : ∀ (p q i j : Nat) (node dependency : ExecutionNode P Id), order[p]? = some i → order[q]? = some j →
    nodes[i]? = some node → nodes[j]? = some dependency → dependency.id ∈ node.dependencies → q < p

theorem topologicalOrder_of_dependencyOrder (hNodup : (nodes.map (·.id)).Nodup) {ids : List Id} {order : List Nat}
    (hOrder : DependencyOrder (nodeDependencies nodes) ids) (hAll : ∀ id ∈ nodes.map (·.id), id ∈ ids)
    (hIds : order.map (idAt nodes) = ids.map some) : TopologicalOrder nodes order where
  perm := by
    have hDistinct : (order.map (idAt nodes)).Nodup := by
      rw [hIds]
      exact hOrder.nodup.map (Option.some_injective _)
    rw [perm_ext_iff_of_nodup hDistinct.of_map nodup_range]
    intro i
    rw [mem_range]
    constructor
    · intro hi
      have hMem := mem_map_of_mem (f := idAt nodes) hi
      rw [hIds] at hMem
      obtain ⟨id, _, hId⟩ := mem_map.mp hMem
      obtain ⟨node, hNode, _⟩ := Option.map_eq_some_iff.mp hId.symm
      exact (List.getElem?_eq_some_iff.mp hNode).1
    · intro hi
      have hId : idAt nodes i = some (nodes[i]).id := by rw [idAt, getElem?_eq_getElem hi, Option.map_some]
      have hMem := mem_map_of_mem (f := some) (hAll _ (mem_map_of_mem (getElem_mem hi)))
      rw [← hIds] at hMem
      obtain ⟨j, hj, hSame⟩ := mem_map.mp hMem
      rwa [idAt_injective hNodup hId hSame]
  earlier := by
    intro p q i j node dependency hp hq hNode hDependency hDep
    have hAt : ∀ (r k : Nat) (other : ExecutionNode P Id), order[r]? = some k → nodes[k]? = some other → ids[r]? = some other.id := by
      intro r k other hr hk
      have := congrArg (·[r]?) hIds
      simpa [hr, idAt, hk] using this.symm
    obtain ⟨next, hNext, hEarlier⟩ := hOrder.earlier p node.id (hAt p i node hp hNode)
    rw [nodeDependencies, (find?_node_eq_some_iff hNodup).mpr ⟨mem_of_getElem? hNode, rfl⟩] at hNext
    cases hNext
    obtain ⟨r, hr⟩ := mem_iff_getElem?.mp (hEarlier _ hDep)
    rw [getElem?_take] at hr
    split at hr
    · rename_i hShort
      have hSame := hAt q j dependency hq hDependency
      obtain ⟨hBound, _⟩ := List.getElem?_eq_some_iff.mp hr
      rwa [(getElem?_inj hBound hOrder.nodup).mp (hr.trans hSame.symm)] at hShort
    · cases hr

theorem order_eq_filterMap (hNodup : (nodes.map (·.id)).Nodup) {ids : List Id} {order : List Nat}
    (h : order.map (idAt nodes) = ids.map some) : order = ids.filterMap (graphIndex nodes) ∧
      order.filterMap (nodes[·]?) = ids.filterMap fun id => nodes.find? (·.id = id) := by
  induction ids generalizing order with
  | nil =>
    obtain rfl := map_eq_nil_iff.mp h
    exact ⟨rfl, rfl⟩
  | cons id ids ih =>
    obtain ⟨i, order, rfl, hId, hRest⟩ := map_eq_cons_iff.mp h
    obtain ⟨node, hNode, rfl⟩ := Option.map_eq_some_iff.mp hId
    obtain ⟨hOrder, hNodes⟩ := ih hRest
    have hFind := (find?_node_eq_some_iff hNodup).mpr ⟨mem_of_getElem? hNode, rfl⟩
    constructor
    · rw [filterMap_cons_some ((graphIndex_eq_some_iff hNodup).mpr hId), ← hOrder]
    · simp only [filterMap_cons, hNode, hFind, hNodes]

omit [DecidableEq Id] in
theorem forall₂_idAt (nodes : List (ExecutionNode P Id)) :
    List.Forall₂ (fun id i => idAt nodes i = some id) (nodes.map (·.id)) (range nodes.length) := by
  rw [forall₂_iff_get]
  refine ⟨by simp, fun i hi hi' => ?_⟩
  have hShort : i < nodes.length := by simpa using hi
  simp [idAt, hShort]

theorem graphTopologicalIndices_spec {owner : RootOwner} {graph : List (ExecutionNode P Id)}
    (h : normalizeAndValidateGraph owner nodes = .ok graph) :
    ∃ order, (∀ fuel, graph.length + 1 ≤ fuel → graphTopologicalIndices fuel graph = some order) ∧
      TopologicalOrder graph order ∧ graphTopologicalNodes graph = order.filterMap (graph[·]?) := by
  obtain ⟨_, _, _, hNodup, rfl, hClosed, hAcyclic⟩ := normalizeAndValidateGraph_eq_ok_iff.mp h
  have hIds : ((nodes.map normalizeNode).map (·.id)).Nodup := by
    rw [map_map]
    exact hNodup
  generalize nodes.map normalizeNode = graph at hIds hClosed hAcyclic
  rw [validateGraphIsAcyclic_eq_ok_iff hIds hClosed] at hAcyclic
  rw [show DependsOn graph = Lib.Follows (nodeDependencies graph) from
    funext fun a => funext fun b => propext (follows_nodeDependencies_iff hIds).symm] at hAcyclic
  obtain ⟨ids, hSearch⟩ := exists_depthFirstAll (nodeDependencies_closed hIds hClosed) hAcyclic fun a ha => ha
  rw [length_map] at hSearch
  -- every amount of fuel that suffices collects indices of the same ids, and the ids determine the indices
  have hCollect : ∀ fuel, graph.length + 1 ≤ fuel → ∃ order, graphTopologicalIndices fuel graph = some order ∧
      order.map (idAt graph) = ids.map some := by
    intro fuel hFuel
    obtain ⟨state, hFold, hState⟩ := foldlM_simulates (Collected graph [])
      (fun state index => appendIndex graph fuel index state) (forall₂_idAt graph)
      (fun done state id i done' hIndex hState hVisit => appendIndex_of_depthFirst hIds hClosed hIndex hVisit hState)
      ([], []) ⟨rfl, by simp⟩ (hSearch fuel hFuel)
    exact ⟨state.2, by rw [graphTopologicalIndices, hFold, Option.map_some], hState.ordered⟩
  obtain ⟨order, _, hOrder⟩ := hCollect (graph.length + 1) (Nat.le_refl _)
  obtain ⟨hPost, hDependency, hAll⟩ := postOrderAll_of_depthFirst (hSearch (graph.length + 1) (Nat.le_refl _))
  refine ⟨order, ?_, topologicalOrder_of_dependencyOrder hIds hDependency hAll hOrder, ?_⟩
  · intro fuel hFuel
    obtain ⟨order', hRun, hOrder'⟩ := hCollect fuel hFuel
    rw [hRun, (order_eq_filterMap hIds hOrder').1, (order_eq_filterMap hIds hOrder).1]
  · rw [graphTopologicalNodes, hPost, (order_eq_filterMap hIds hOrder).2]

/-- The checks admit exactly the graphs that can be executed, change nothing but repeated dependencies, and leave a
graph whose order is found. -/
theorem graph_admission_exact (owner : RootOwner) (nodes : List (ExecutionNode P Id)) :
    ((∃ graph, normalizeAndValidateGraph owner nodes = .ok graph) ↔ Admissible owner nodes) ∧
      ∀ graph, normalizeAndValidateGraph owner nodes = .ok graph →
        List.Forall₂ Normalized nodes graph ∧
        ∃ order, (∀ fuel, graph.length + 1 ≤ fuel → graphTopologicalIndices fuel graph = some order) ∧
          TopologicalOrder graph order := by
  refine ⟨normalizeAndValidateGraph_isOk_iff, fun graph hGraph => ⟨?_, ?_⟩⟩
  · obtain ⟨_, _, _, _, rfl, _⟩ := normalizeAndValidateGraph_eq_ok_iff.mp hGraph
    rw [forall₂_map_right_iff]
    exact forall₂_same.mpr fun node _ => normalized_normalizeNode node
  · obtain ⟨order, hRun, hOrder, _⟩ := graphTopologicalIndices_spec hGraph
    exact ⟨order, hRun, hOrder⟩

/-- A diamond with a repeated dependency is admitted and ordered from its bottom. -/
example : (normalizeAndValidateGraph ⟨"root", 1⟩
    [⟨4, ⟨.high, 40⟩, [2, 3, 2], ⟨1, .none⟩⟩, ⟨2, ⟨.high, 20⟩, [1], ⟨1, .none⟩⟩, ⟨3, ⟨.high, 30⟩, [1], ⟨1, .none⟩⟩,
      ⟨1, ⟨.high, 10⟩, [], ⟨1, .none⟩⟩] :
      Outcome TaskStoreError (List (ExecutionNode UInt64 UInt64))).bind
    (fun graph => .ok (graphTopologicalIndices 5 graph)) = .ok (some [3, 1, 2, 0]) := by
  decide +kernel

end Indices

end Raiko2.Queue
