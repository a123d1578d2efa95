import Mathlib.Data.Finset.Dedup
import Raiko2.Lib.DepthFirst
import Raiko2.Lib.Text
import Raiko2.Queue.Types

/-!
# Execution graphs

The checks on a graph before it is attached, and the order in which its nodes are then entered: every node after
its dependencies.
-/

namespace Raiko2.Queue

open Lib List Outcome

variable {P O Id : Type} [DecidableEq Id]

def nodeDependencies (nodes : List (ExecutionNode P Id)) (id : Id) : Option (List Id) :=
  (nodes.find? (·.id = id)).map (·.dependencies)

def validateGraphIsAcyclic (nodes : List (ExecutionNode P Id)) : Outcome TaskStoreError Unit :=
  let visit := fun done id => depthFirst (nodeDependencies nodes) (nodes.length + 1) [] id done
  match (nodes.map (·.id)).foldlM visit [] with
  | some _ => .ok ()
  | none => .error (.invalidGraph "an execution graph must not contain dependency cycles")

/-- `retain` with a set of what was seen: the first of several equal dependencies stays. -/
def normalizeNode (node : ExecutionNode P Id) : ExecutionNode P Id :=
  { node with dependencies := node.dependencies.eraseDups }

def normalizeAndValidateGraph (owner : RootOwner) (nodes : List (ExecutionNode P Id)) :
    Outcome TaskStoreError (List (ExecutionNode P Id)) := do
  ensure (isBlank owner.taskId = false)
    (.invalidGraph "root owner task id must not be empty")
  ensure (owner.incarnationId ≠ 0) (.invalidGraph "root owner incarnation must not be nil")
  ensure (nodes ≠ []) (.invalidGraph "an execution graph must contain at least one task")
  ensure (nodes.map (·.id)).Nodup (.invalidGraph "an execution graph contains duplicate task ids")
  let nodes := nodes.map normalizeNode
  ensure (∀ node ∈ nodes, ∀ dependency ∈ node.dependencies, dependency ∈ nodes.map (·.id))
    (.invalidGraph "every dependency must be part of the attached execution graph")
  validateGraphIsAcyclic nodes
  pure nodes

def graphTaskSetsMatch (left right : List Id) : Bool :=
  left.length == right.length && left.toFinset == right.toFinset

def taskDefinitionMatches [BEq P] (record : TaskRecord P O Id) (node : ExecutionNode P Id) : Bool :=
  record.definitionPayload == node.task.payload && record.priority == node.task.priority &&
    record.definitionExecutionPolicy == node.executionPolicy &&
    graphTaskSetsMatch record.dependencies node.dependencies

def graphTopologicalNodes (nodes : List (ExecutionNode P Id)) : List (ExecutionNode P Id) :=
  (postOrderAll (nodeDependencies nodes) (nodes.length + 1) (nodes.map (·.id))).filterMap
    fun id => nodes.find? (·.id = id)

/-- The map from ids to indices; it is collected from the left, so that the last of several equal ids counts. -/
def graphIndex (nodes : List (ExecutionNode P Id)) (id : Id) : Option Nat :=
  (range nodes.length).reverse.find? fun index => (nodes[index]?).any (·.id = id)

/-- `append`, with the visited ids and the indices collected so far. It has no value where the code would not come
back or would look up a key that is not there. -/
def appendIndex (nodes : List (ExecutionNode P Id)) : Nat → Nat → List Id × List Nat → Option (List Id × List Nat)
  | 0, _, _ => none
  | fuel + 1, index, (visited, ordered) => do
    let node ← nodes[index]?
    if node.id ∈ visited then some (visited, ordered)
    else
      let (visited, ordered) ← node.dependencies.foldlM
        (fun state dependency => do appendIndex nodes fuel (← graphIndex nodes dependency) state)
        (node.id :: visited, ordered)
      some (visited, ordered ++ [index])

def graphTopologicalIndices (fuel : Nat) (nodes : List (ExecutionNode P Id)) : Option (List Nat) :=
  ((range nodes.length).foldlM (fun state index => appendIndex nodes fuel index state) ([], [])).map (·.2)

section Order

/-- A list of nodes that can be entered from the left: every node is new, and its dependencies are among the
nodes before it. -/
inductive EntryOrder : List Id → List (ExecutionNode P Id) → Prop where
  | nil {entered : List Id} : EntryOrder entered []
  | cons {entered : List Id} {node : ExecutionNode P Id} {rest : List (ExecutionNode P Id)}
      (fresh : node.id ∉ entered) (nodup : node.dependencies.Nodup)
      (earlier : ∀ dependency ∈ node.dependencies, dependency ∈ entered)
      (later : EntryOrder (entered ++ [node.id]) rest) : EntryOrder entered (node :: rest)

variable {nodes : List (ExecutionNode P Id)}

omit [DecidableEq Id] in
theorem EntryOrder.fresh {entered : List Id} (h : EntryOrder entered nodes) :
    ∀ node ∈ nodes, node.id ∉ entered := by
  induction h with
  | nil => simp
  | cons hFresh _ _ _ ih =>
    intro node hNode
    rcases mem_cons.mp hNode with rfl | hNode
    · exact hFresh
    · exact fun hMem => ih node hNode (mem_append_left _ hMem)

theorem graphTaskSetsMatch_iff {left right : List Id} :
    graphTaskSetsMatch left right = true ↔ left.length = right.length ∧ ∀ x, x ∈ left ↔ x ∈ right := by
  simp [graphTaskSetsMatch, Finset.ext_iff]

theorem nodup_eraseDups (xs : List Id) : xs.eraseDups.Nodup := by
  cases xs with
  | nil => simp
  | cons x xs =>
    rw [eraseDups_cons, nodup_cons]
    constructor
    · simp [mem_eraseDups]
    · exact nodup_eraseDups _
termination_by xs.length
decreasing_by exact Nat.lt_succ_of_le (length_filter_le _ _)

variable {owner : RootOwner}

theorem normalizeAndValidateGraph_eq_ok_iff {nodes result : List (ExecutionNode P Id)} :
    normalizeAndValidateGraph owner nodes = .ok result ↔
      isBlank owner.taskId = false ∧ owner.incarnationId ≠ 0 ∧ nodes ≠ [] ∧
      (nodes.map (·.id)).Nodup ∧ result = nodes.map normalizeNode ∧
      (∀ node ∈ result, ∀ dependency ∈ node.dependencies, dependency ∈ result.map (·.id)) ∧
      validateGraphIsAcyclic result = .ok () := by
  simp only [normalizeAndValidateGraph, unit_bind_eq_ok_iff, ensure_eq_ok_iff, pure_eq_ok,
    ok.injEq]
  constructor
  · rintro ⟨hId, hNil, hNodes, hNodup, hDeps, hAcyclic, rfl⟩
    exact ⟨hId, hNil, hNodes, hNodup, rfl, hDeps, hAcyclic⟩
  · rintro ⟨hId, hNil, hNodes, hNodup, rfl, hDeps, hAcyclic⟩
    exact ⟨hId, hNil, hNodes, hNodup, hDeps, hAcyclic, rfl⟩

theorem normalizeAndValidateGraph_ne_abort {m : String} :
    normalizeAndValidateGraph owner nodes ≠ .abort m := by
  have hAcyclic : ∀ graph : List (ExecutionNode P Id), validateGraphIsAcyclic graph ≠ .abort m := by
    intro graph
    rw [validateGraphIsAcyclic]
    split <;> exact nofun
  simp [normalizeAndValidateGraph, bind_eq_abort_iff, hAcyclic]

theorem find?_node_eq_some_iff (hNodup : (nodes.map (·.id)).Nodup) {id : Id} {node : ExecutionNode P Id} :
    nodes.find? (·.id = id) = some node ↔ node ∈ nodes ∧ node.id = id := by
  constructor
  · intro h
    exact ⟨mem_of_find?_eq_some h, by simpa using find?_some h⟩
  · rintro ⟨hMem, rfl⟩
    cases hFind : nodes.find? (·.id = node.id) with
    | none => simpa using find?_eq_none.mp hFind node hMem
    | some other =>
      have hSame : other.id = node.id := by simpa using find?_some hFind
      rw [inj_on_of_nodup_map hNodup (mem_of_find?_eq_some hFind) hMem hSame]

theorem entryOrder_of_dependencyOrder (hDeps : ∀ node ∈ nodes, node.dependencies.Nodup) (entered : List Id)
    {rest : List Id} (h : DependencyOrder (nodeDependencies nodes) (entered ++ rest)) :
    EntryOrder entered (rest.filterMap fun id => nodes.find? (·.id = id)) ∧
      (rest.filterMap fun id => nodes.find? (·.id = id)).map (·.id) = rest := by
  induction rest generalizing entered with
  | nil => exact ⟨.nil, rfl⟩
  | cons id rest ih =>
    have hAt : (entered ++ id :: rest)[entered.length]? = some id := by simp
    obtain ⟨next, hNext, hEarlier⟩ := h.earlier entered.length id hAt
    rw [take_left'] at hEarlier
    · obtain ⟨node, hFind, rfl⟩ := Option.map_eq_some_iff.mp hNext
      have hId : node.id = id := by simpa using find?_some hFind
      have hFresh : id ∉ entered := by
        intro hMem
        exact (nodup_append.mp h.nodup).2.2 id hMem id (by simp) rfl
      obtain ⟨hOrder, hIds⟩ := ih (entered ++ [id]) (by simpa using h)
      subst hId
      simp only [filterMap_cons, hFind, map_cons, hIds]
      exact ⟨.cons hFresh (hDeps node (mem_of_find?_eq_some hFind)) hEarlier hOrder, trivial⟩
    · rfl

theorem graphTopologicalNodes_spec {nodes graph : List (ExecutionNode P Id)}
    (h : normalizeAndValidateGraph owner nodes = .ok graph) :
    EntryOrder [] (graphTopologicalNodes graph) ∧ (∀ node, node ∈ graphTopologicalNodes graph ↔ node ∈ graph) ∧
      ((graphTopologicalNodes graph).map (·.id)).Nodup := by
  obtain ⟨_, _, _, hNodup, rfl, _, hAcyclic⟩ := normalizeAndValidateGraph_eq_ok_iff.mp h
  have hIds : ((nodes.map normalizeNode).map (·.id)).Nodup := by
    rw [map_map]
    exact hNodup
  have hDeps : ∀ node ∈ nodes.map normalizeNode, node.dependencies.Nodup := by
    intro node hNode
    obtain ⟨raw, _, rfl⟩ := mem_map.mp hNode
    exact nodup_eraseDups _
  generalize nodes.map normalizeNode = graph at hIds hDeps hAcyclic
  rw [validateGraphIsAcyclic] at hAcyclic
  split at hAcyclic
  · rename_i order hOrder
    obtain ⟨hPost, hDependency, hAll⟩ := postOrderAll_of_depthFirst hOrder
    obtain ⟨hEntry, hEntryIds⟩ := entryOrder_of_dependencyOrder hDeps [] hDependency
    rw [graphTopologicalNodes, hPost]
    refine ⟨hEntry, fun node => ⟨?_, fun hNode => ?_⟩, ?_⟩
    · intro hNode
      obtain ⟨id, _, hFind⟩ := mem_filterMap.mp hNode
      exact mem_of_find?_eq_some hFind
    · have hMem := hAll node.id (mem_map_of_mem hNode)
      exact mem_filterMap.mpr ⟨node.id, hMem, (find?_node_eq_some_iff hIds).mpr ⟨hNode, rfl⟩⟩
    · rw [hEntryIds]
      exact hDependency.nodup
  · cases hAcyclic

end Order

end Raiko2.Queue
