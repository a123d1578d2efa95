import Raiko2.Queue.Loops

/-!
# All calls of the in-memory store

The calls of the store trait that change the store, those by which single tasks are submitted, cancelled and removed
included, with `attach_graph` as the sequence of reads and writes that it is. Only attaching and detaching a root
touch the ownership indexes, so that in every state that any calls lead to the index of tasks agrees with the graphs.
-/

namespace Raiko2.Queue

open Lib List

variable {P O Id : Type} [DecidableEq Id]

section Definitions

variable [ReadyQueueSort Id]

/-- The state of a submitted task: one without unresolved dependencies waits to be marked ready. -/
def submittedState : DependencyInsertState Id → Nat × TaskState O Id × List Id
  | .pending remaining unresolvedDeps => (remaining, .pending remaining, unresolvedDeps)
  | .failed => (0, .failed "dependency failed" none, [])
  | .cancelled => (0, .cancelled, [])

def insertTask (s : Inner P O Id) (id : Id) (payload : P) (priority : Priority) (deps : List Id)
    (executionPolicy : TaskExecutionPolicy) : Inner P O Id × Bool :=
  let (remaining, state, unresolvedDeps) := submittedState (resolveDependencyInsertState s deps)
  let record := {
    definitionPayload := payload
    definitionExecutionPolicy := executionPolicy
    payload := some payload
    state
    priority
    attempt := 0
    leaseUntilMs := none
    leaseSequence := 0
    executionPolicy
    dependencies := deps }
  let enter := fun s : Inner P O Id =>
    let s := addDependentEdges s unresolvedDeps id
    { s with remaining := s.remaining.insert id remaining, tasks := s.tasks.insert id record }
  if isUnownedLost s id then (removeQueueMemberships (enter (removeDependentEdges s id)) id, true)
  else if (s.tasks.lookup id).isSome then (s, false)
  else (enter s, true)

def TaskState.isRunning : TaskState O Id → Bool
  | .running _ _ => true
  | _ => false

/-- The end of the lease stays only with a task that goes on running. -/
def setStateIfRunning (s : Inner P O Id) (id : Id) (leaseToken : String) (attempt : UInt32)
    (state : TaskState O Id) (payload : Option P) : Inner P O Id × Bool :=
  if runningLeaseMatches s id leaseToken attempt then
    ({ s with
      tasks := s.tasks.modify id fun record =>
        { record with
          payload := payload.or record.payload
          state
          leaseUntilMs := if state.isRunning then record.leaseUntilMs else none } }, true)
  else (s, false)

def cancelAndFailDependents (s : Inner P O Id) (id : Id) (dependentError : String) : Inner P O Id :=
  if s.ownersOf id ≠ ∅ then s else (cancelTaskLocked s id dependentError).1

def tryMarkReady (s : Inner P O Id) (id : Id) : Inner P O Id :=
  if (s.remaining.lookup id).getD 0 ≠ 0 then s
  else
    { s with
      tasks := s.tasks.modify id fun record =>
        match record.state with
        | .pending _ => { record with state := .ready }
        | _ => record }

def removeTask (s : Inner P O Id) (id : Id) : Inner P O Id :=
  if s.ownersOf id ≠ ∅ then s
  else if (s.tasks.lookup id).isNone then s
  else removeRetired s id

/-- The calls of the store that change it. The clock and the order of an iteration are arguments. -/
inductive StoreCall (P O Id : Type) where
  | attachGraph (owner : RootOwner) (nodes : List (ExecutionNode P Id))
  | detachOwner (owner : RootOwner) (mode : DetachMode)
  | insertTask (id : Id) (payload : P) (priority : Priority) (deps : List Id) (policy : TaskExecutionPolicy)
  | setStateIfRunning (id : Id) (leaseToken : String) (attempt : UInt32) (state : TaskState O Id)
      (payload : Option P)
  | completeSuccess (id : Id) (leaseToken : String) (attempt : UInt32) (output : O)
  | completeFailure (id : Id) (leaseToken : String) (attempt : UInt32) (error dependentError : String)
  | cancelAndFailDependents (id : Id) (dependentError : String)
  | retryNow (id : Id) (leaseToken : String) (attempt : UInt32) (priority : Priority) (payload : P)
  | retryLater (id : Id) (leaseToken : String) (attempt : UInt32) (error : String) (payload : P)
      (nextReadyAtMs : UInt64)
  | tryMarkReady (id : Id)
  | pushReady (priority : Priority) (id : Id)
  | popReady (priority : Priority)
  | takeReady (id : Id) (leaseToken : String) (nowMs : UInt64)
  | putPayload (id : Id) (payload : P)
  | checkpointPayload (id : Id) (leaseToken : String) (attempt : UInt32) (payload : P)
      (policy : TaskExecutionPolicy)
  | renewLease (id : Id) (leaseToken : String) (attempt : UInt32) (nowMs : UInt64)
  | schedule (id : Id) (notBeforeMs : UInt64)
  | promoteScheduled (nowMs : UInt64) (limit : Nat)
  | requeueExpiredLeases (order : List Id) (nowMs : UInt64) (limit : Nat)
  | removeTask (id : Id)

def StoreCall.apply [BEq P] (storeLease : Nat) (s : Inner P O Id) : StoreCall P O Id → Inner P O Id
  | .attachGraph owner nodes => ((attachGraphInPlace owner nodes).run s).2
  | .detachOwner owner mode =>
    match Queue.detachOwner s owner mode with
    | .ok (s', _) => s'
    | _ => s
  | .insertTask id payload priority deps policy => (Queue.insertTask s id payload priority deps policy).1
  | .setStateIfRunning id leaseToken attempt state payload =>
    (Queue.setStateIfRunning s id leaseToken attempt state payload).1
  | .completeSuccess id leaseToken attempt output =>
    (completeSuccessAndReleaseDependentsIfRunning s id leaseToken attempt output).1
  | .completeFailure id leaseToken attempt error dependentError =>
    (completeFailureAndFailDependentsIfRunning s id leaseToken attempt error dependentError).1
  | .cancelAndFailDependents id dependentError => Queue.cancelAndFailDependents s id dependentError
  | .retryNow id leaseToken attempt priority payload =>
    (retryNowIfRunning s id leaseToken attempt priority payload).1
  | .retryLater id leaseToken attempt error payload nextReadyAtMs =>
    (retryLaterIfRunning s id leaseToken attempt error payload nextReadyAtMs).1
  | .tryMarkReady id => Queue.tryMarkReady s id
  | .pushReady priority id => pushReadyLocked s priority id
  | .popReady priority => (Queue.popReady s priority).2
  | .takeReady id leaseToken nowMs => (takeReadyLocked s storeLease id leaseToken nowMs).2
  | .putPayload id payload => setPayload s id payload
  | .checkpointPayload id leaseToken attempt payload policy =>
    (checkpointPayloadIfRunning s id leaseToken attempt payload policy).1
  | .renewLease id leaseToken attempt nowMs => (Queue.renewLease s storeLease id leaseToken attempt nowMs).1
  | .schedule id notBeforeMs => { s with scheduled := pushScheduled notBeforeMs id s.scheduled }
  | .promoteScheduled nowMs limit => (Queue.promoteScheduled s nowMs limit).2
  | .requeueExpiredLeases order nowMs limit => (Queue.requeueExpiredLeases s order nowMs limit).2
  | .removeTask id => Queue.removeTask s id

end Definitions

section Owners

variable {s s' s'' : Inner P O Id} {id : Id}

structure SameOwners (s s' : Inner P O Id) : Prop where
  owners : s'.taskOwners = s.taskOwners
  graphs : s'.ownerGraphs = s.ownerGraphs

omit [DecidableEq Id] in
theorem SameOwners.refl : SameOwners s s := ⟨rfl, rfl⟩

omit [DecidableEq Id] in
theorem SameOwners.trans (h : SameOwners s s') (h' : SameOwners s' s'') : SameOwners s s'' :=
  ⟨h'.owners.trans h.owners, h'.graphs.trans h.graphs⟩

theorem LostUpdate.sameOwners {lost : Id → Prop} (u : LostUpdate s s' lost) : SameOwners s s' := ⟨u.owners, u.graphs⟩

theorem sameOwners_removeRetired : SameOwners s (removeRetired s id) := ⟨rfl, rfl⟩

def OwnersAgree (s : Inner P O Id) : Prop :=
  ∀ owner x, owner ∈ s.ownersOf x →
    ∃ graph, s.ownerGraphs.lookup owner = some graph ∧ graph.attached = true ∧ x ∈ graph.taskIds

theorem OwnersAgree.congr (h : OwnersAgree s) (hSame : SameOwners s s') : OwnersAgree s' := by
  intro owner x hOwner
  rw [Inner.ownersOf, hSame.owners] at hOwner
  rw [hSame.graphs]
  exact h owner x hOwner

theorem sameOwners_retireTasks (mode : DetachMode) (retired : List Id) :
    SameOwners { s with taskOwners := retired.foldl (fun owners id => owners.erase id) s.taskOwners }
      (retireTasks s mode retired) := by
  cases mode with
  | cancel => exact foldlRecOn _ _ .refl fun s h id _ => h.trans (lostUpdate_cancelTaskLocked s id _).sameOwners
  | remove => exact foldlRecOn _ _ .refl fun s h id _ => h.trans sameOwners_removeRetired

variable {owner : RootOwner}

theorem OwnersAgree.detach (h : OwnersAgree s) {mode : DetachMode} {outcome : DetachOutcome Id}
    (hDetach : detachOwner s owner mode = .ok (s', outcome)) : OwnersAgree s' := by
  rw [detachOwner] at hDetach
  split at hDetach
  · cases hDetach
    exact h
  rename_i graph hGraph
  dsimp only at hDetach
  split at hDetach
  · cases hDetach
    exact h
  obtain ⟨_, _, hDetach⟩ := Outcome.bind_eq_ok_iff.mp hDetach
  cases hDetach
  generalize graph.taskIds.filter (fun id => (leaveTasks s owner graph).ownersOf id = ∅) = retired
  have hSame := sameOwners_retireTasks (s := leaveTasks s owner graph) mode retired
  intro o x hOwner
  -- the owners that a task has afterwards it had before, and the one that left is none of them
  have hLeft : (leaveTasks s owner graph).ownersOf x = (s.ownersOf x).erase owner := by
    apply ownersOf_leaveTasks_of_mem
    intro hMem
    obtain ⟨graph', hGraph', hAttached, hIn⟩ := h owner x hMem
    rw [hGraph] at hGraph'
    cases hGraph'
    exact ⟨hAttached, hIn⟩
  have hBefore : o ∈ (s.ownersOf x).erase owner := by
    change o ∈ ((retireTasks (leaveTasks s owner graph) mode retired).taskOwners.lookup x).getD ∅ at hOwner
    rw [hSame.owners, lookup_foldl_erase] at hOwner
    split at hOwner
    · cases hOwner
    · rw [← hLeft]
      exact hOwner
  obtain ⟨hNe, hMem⟩ := Finset.mem_erase.mp hBefore
  obtain ⟨taskOwners, hLeave⟩ := leaveTasks_eq s owner graph
  rw [lookup_retireGraph_ne hNe, hSame.graphs, hLeave]
  exact h o x hMem

variable [ReadyQueueSort Id]

omit [DecidableEq Id] in
theorem SameOwners.push (h : SameOwners s s') (p : Priority) (id : Id) : SameOwners s (pushReadyLocked s' p id) :=
  ⟨(taskOwners_pushReadyLocked s' p id).trans h.owners, (ownerGraphs_pushReadyLocked s' p id).trans h.graphs⟩

theorem sameOwners_ready {p : Priority} (h : SameOwners s s') :
    SameOwners s (pushReadyLocked (s'.setState id .ready) p id) := by
  apply SameOwners.push
  exact ⟨h.owners, h.graphs⟩

theorem sameOwners_apply [BEq P] (storeLease : Nat) (s : Inner P O Id) (call : StoreCall P O Id)
    (hAttach : ∀ owner nodes, call ≠ .attachGraph owner nodes) (hDetach : ∀ owner mode, call ≠ .detachOwner owner mode) :
    SameOwners s (call.apply storeLease s) := by
  cases call with
  | attachGraph owner nodes => exact absurd rfl (hAttach owner nodes)
  | detachOwner owner mode => exact absurd rfl (hDetach owner mode)
  | insertTask id payload priority deps policy =>
    rw [StoreCall.apply, Queue.insertTask]
    dsimp only
    split
    · exact ⟨rfl, rfl⟩
    · split
      · exact .refl
      · exact ⟨rfl, rfl⟩
  | setStateIfRunning id leaseToken attempt state payload =>
    rw [StoreCall.apply, Queue.setStateIfRunning]
    split <;> exact ⟨rfl, rfl⟩
  | completeSuccess id leaseToken attempt output =>
    rw [StoreCall.apply, completeSuccessAndReleaseDependentsIfRunning]
    split
    · refine foldlRecOn _ _ ⟨rfl, rfl⟩ fun s' h id _ => releaseDependent_keeps ?_ (fun _ p h => h.push p id) h
      exact fun _ _ _ _ _ _ _ _ h => ⟨h.owners, h.graphs⟩
    · exact .refl
  | completeFailure id leaseToken attempt error dependentError =>
    rw [StoreCall.apply, completeFailureAndFailDependentsIfRunning]
    split
    · refine SameOwners.trans ?_ (lostUpdate_failDependentsLocked _ _ _).sameOwners
      exact ⟨rfl, rfl⟩
    · exact .refl
  | cancelAndFailDependents id dependentError =>
    rw [StoreCall.apply, Queue.cancelAndFailDependents]
    split
    · exact .refl
    · exact (lostUpdate_cancelTaskLocked _ _ _).sameOwners
  | retryNow id leaseToken attempt priority payload =>
    rw [StoreCall.apply, retryNowIfRunning]
    split
    · apply SameOwners.push
      exact ⟨rfl, rfl⟩
    · exact .refl
  | retryLater id leaseToken attempt error payload nextReadyAtMs =>
    rw [StoreCall.apply, retryLaterIfRunning]
    split <;> exact ⟨rfl, rfl⟩
  | tryMarkReady id =>
    rw [StoreCall.apply, Queue.tryMarkReady]
    split <;> exact ⟨rfl, rfl⟩
  | pushReady priority id => exact SameOwners.push .refl _ _
  | popReady priority =>
    rw [StoreCall.apply]
    rcases popReady_cases s priority with ⟨_, h⟩ | ⟨_, _, _, h⟩ <;> rw [h]
    · exact .refl
    · exact ⟨Inner.taskOwners_setQueue _ _ _, Inner.ownerGraphs_setQueue _ _ _⟩
  | takeReady id leaseToken nowMs =>
    rw [StoreCall.apply]
    rcases takeReadyLocked_cases s id storeLease leaseToken nowMs with ⟨h, _⟩ | ⟨_, _, _, _, _, _, _, h⟩
    · rw [h]
      exact .refl
    · rw [h]
      exact ⟨rfl, rfl⟩
  | putPayload id payload => exact ⟨rfl, rfl⟩
  | checkpointPayload id leaseToken attempt payload policy =>
    rw [StoreCall.apply, checkpointPayloadIfRunning]
    split <;> exact ⟨rfl, rfl⟩
  | renewLease id leaseToken attempt nowMs =>
    rw [StoreCall.apply, Queue.renewLease]
    split <;> exact ⟨rfl, rfl⟩
  | schedule id notBeforeMs => exact ⟨rfl, rfl⟩
  | promoteScheduled nowMs limit =>
    exact promoteScheduled_keeps (fun _ _ h => ⟨h.owners, h.graphs⟩) (fun _ _ _ _ _ _ _ _ h => sameOwners_ready h) .refl
  | requeueExpiredLeases order nowMs limit =>
    exact requeueExpiredLeases_keeps (fun _ _ _ _ _ h => sameOwners_ready h) .refl
  | removeTask id =>
    rw [StoreCall.apply, Queue.removeTask]
    split
    · exact .refl
    · split
      · exact .refl
      · exact sameOwners_removeRetired

theorem mem_ownersOf_enterGraph {owner o : RootOwner} {x : Id} {nodes : List (ExecutionNode P Id)}
    (h : o ∈ (nodes.foldl (enterNode owner) s).ownersOf x) :
    o ∈ s.ownersOf x ∨ o = owner ∧ x ∈ nodes.map (·.id) := by
  induction nodes generalizing s with
  | nil => exact Or.inl h
  | cons node nodes ih =>
    rcases ih h with hMem | ⟨hEq, hIn⟩
    · rw [ownersOf_enterNode] at hMem
      split at hMem
      · rename_i hx
        rcases Finset.mem_insert.mp hMem with hEq | hMem
        · exact Or.inr ⟨hEq, by simp [hx]⟩
        · exact Or.inl hMem
      · exact Or.inl hMem
    · exact Or.inr ⟨hEq, mem_cons_of_mem _ hIn⟩

theorem ownerGraphs_enterGraph {nodes : List (ExecutionNode P Id)} :
    (nodes.foldl (enterNode owner) s).ownerGraphs = s.ownerGraphs := by
  induction nodes generalizing s with
  | nil => rfl
  | cons node nodes ih => rw [foldl_cons, ih, ownerGraphs_enterNode]

theorem OwnersAgree.attach [BEq P] (h : OwnersAgree s) {graph : List (ExecutionNode P Id)} {outcome : AttachOutcome}
    (hAttaches : Attaches s owner graph s' outcome) : OwnersAgree s' := by
  cases hAttaches with
  | again _ _ _ _ hEffect => exact h.congr ⟨hEffect.owners, hEffect.graphs⟩
  | fresh hOwner _ =>
    intro o x hMem
    rw [withGraph, ownerGraphs_enterGraph, exists_graph_insert_iff]
    rcases mem_ownersOf_enterGraph hMem with hMem | ⟨rfl, hIn⟩
    · obtain ⟨graph', hGraph', hAttached, hIn⟩ := h o x hMem
      have hNe : o ≠ owner := by
        rintro rfl
        rw [hOwner] at hGraph'
        cases hGraph'
      rw [if_neg hNe]
      exact ⟨graph', hGraph', hAttached, hIn⟩
    · rwa [if_pos rfl]

theorem OwnersAgree.apply [BEq P] (h : OwnersAgree s) (storeLease : Nat) (call : StoreCall P O Id) :
    OwnersAgree (call.apply storeLease s) := by
  by_cases hAttach : ∃ owner nodes, call = .attachGraph owner nodes
  · obtain ⟨owner, nodes, rfl⟩ := hAttach
    rw [StoreCall.apply]
    rcases attachGraph_cases s owner nodes with ⟨_, _, hRun⟩ | ⟨_, _, _, _, hAttaches, _, hRun⟩
    · rw [hRun]
      exact h
    · rw [hRun]
      exact h.attach hAttaches
  by_cases hDetach : ∃ owner mode, call = .detachOwner owner mode
  · obtain ⟨owner, mode, rfl⟩ := hDetach
    rw [StoreCall.apply]
    split
    · rename_i hResult
      exact h.detach hResult
    · exact h
  · exact h.congr (sameOwners_apply storeLease s call (fun owner nodes hEq => hAttach ⟨owner, nodes, hEq⟩)
      fun owner mode hEq => hDetach ⟨owner, mode, hEq⟩)

theorem ownersAgree_foldl [BEq P] (storeLease : Nat) (calls : List (StoreCall P O Id)) :
    OwnersAgree (calls.foldl (StoreCall.apply storeLease) {}) := by
  have hFold : ∀ s : Inner P O Id, OwnersAgree s → OwnersAgree (calls.foldl (StoreCall.apply storeLease) s) := by
    induction calls with
    | nil => exact fun s h => h
    | cons call calls ih => exact fun s h => ih _ (h.apply storeLease call)
  apply hFold
  intro owner x hOwner
  cases hOwner

end Owners

section Attaching

variable [ReadyQueueSort Id] {s : Inner P O Id}

theorem lookup_enterGraph_of_notMem {owner : RootOwner} {x : Id} {nodes : List (ExecutionNode P Id)}
    (hx : x ∉ nodes.map (·.id)) : (nodes.foldl (enterNode owner) s).tasks.lookup x = s.tasks.lookup x := by
  induction nodes generalizing s with
  | nil => rfl
  | cons node nodes ih =>
    rw [map_cons, mem_cons, not_or] at hx
    rw [foldl_cons, ih hx.2, lookup_enterNode_ne hx.1]

theorem enterGraph_kept {owner : RootOwner} {entered : List Id} {nodes : List (ExecutionNode P Id)}
    (hOrder : EntryOrder entered nodes) (hNodup : (nodes.map (·.id)).Nodup)
    (hUnowned : ∀ node ∈ nodes, s.ownersOf node.id = ∅) (hEntered : ∀ d ∈ entered, s.isLostTask d = false) :
    ∀ node ∈ nodes, ∃ record, (nodes.foldl (enterNode owner) s).tasks.lookup node.id = some record ∧
      record.state.isLost = false := by
  induction hOrder generalizing s with
  | nil => simp
  | @cons entered node rest _ _ hEarlier _ ih =>
    rw [map_cons, nodup_cons] at hNodup
    obtain ⟨record, hRecord, hLost⟩ := isLost_enterNode owner (hUnowned node mem_cons_self)
      fun d hd => hEntered d (hEarlier d hd)
    have hRest : ∀ other ∈ rest, other.id ≠ node.id := fun other hOther hEq =>
      hNodup.1 (hEq ▸ mem_map_of_mem hOther)
    have hLater := ih (s := enterNode owner s node) hNodup.2
      (fun other hOther => by
        rw [ownersOf_enterNode, if_neg (hRest other hOther)]
        exact hUnowned other (mem_cons_of_mem _ hOther))
      (fun d hd => by
        by_cases hNode : d = node.id
        · rw [hNode, Inner.isLostTask_of_lookup hRecord, hLost]
        · rw [Inner.isLostTask_congr (lookup_enterNode_ne hNode)]
          exact hEntered d ((mem_append.mp hd).resolve_right (by simpa using hNode)))
    intro other hOther
    rcases mem_cons.mp hOther with rfl | hOther
    · rw [foldl_cons, lookup_enterGraph_of_notMem hNodup.1]
      exact ⟨record, hRecord, hLost⟩
    · exact hLater other hOther

structure AttachExact (s : Inner P O Id) (owner : RootOwner) (nodes : List (ExecutionNode P Id))
    (result : Outcome TaskStoreError AttachOutcome) (s' : Inner P O Id) : Prop where
  returns : ∀ message, result ≠ .abort message
  unchanged : ∀ e, result = .error e → s' = s
  again : ∀ graph outcome, s.ownerGraphs.lookup owner = some graph → graph.attached = true → result = .ok outcome →
    ∀ node ∈ nodes, (∃ record, s'.tasks.lookup node.id = some record ∧ record.state.isLost = false) ∧
      (s.isLostTask node.id = false → s'.tasks.lookup node.id = s.tasks.lookup node.id)
  fresh : ∀ outcome, s.ownerGraphs.lookup owner = none → (∀ node ∈ nodes, ∀ o ∈ s.ownersOf node.id, o = owner) →
    result = .ok outcome → ∀ node ∈ nodes, ∃ record, s'.tasks.lookup node.id = some record ∧
      record.state.isLost = false

theorem OwnersAgree.attachExact [BEq P] (h : OwnersAgree s) (owner : RootOwner) (nodes : List (ExecutionNode P Id)) :
    AttachExact s owner nodes ((attachGraphInPlace owner nodes).run s).1 ((attachGraphInPlace owner nodes).run s).2 := by
  rcases attachGraph_cases s owner nodes with ⟨e, _, hRun⟩ | ⟨graph, s', outcome, hGraph, hAttaches, _, hRun⟩
  · rw [hRun]
    refine ⟨?_, ?_, ?_, ?_⟩
    · rintro _ ⟨⟩
    · intros
      rfl
    · rintro _ _ _ _ ⟨⟩
    · rintro _ _ _ ⟨⟩
  rw [hRun]
  obtain ⟨hOrder, hMem, hNodup⟩ := graphTopologicalNodes_spec hGraph
  obtain ⟨_, _, _, _, hNormalized, _⟩ := normalizeAndValidateGraph_eq_ok_iff.mp hGraph
  -- every node is entered under its own id
  have hNodes : ∀ node ∈ nodes, ∃ other ∈ graphTopologicalNodes graph, other.id = node.id := by
    intro node hNode
    refine ⟨normalizeNode node, (hMem _).mpr ?_, rfl⟩
    rw [hNormalized]
    exact mem_map_of_mem hNode
  constructor
  · rintro _ ⟨⟩
  · rintro _ ⟨⟩
  · intro existing _ hExisting _ _ node hNode
    obtain ⟨other, hOther, hId⟩ := hNodes node hNode
    cases hAttaches with
    | fresh hOwner _ =>
      rw [hOwner] at hExisting
      cases hExisting
    | again _ _ _ _ hEffect =>
      rw [← hId]
      refine ⟨hEffect.kept other hOther, fun hKept => hEffect.others _ fun hReset => ?_⟩
      have hLost : s.isLostTask other.id = true := (mem_filter.mp hReset).2
      rw [hKept] at hLost
      cases hLost
  · intro _ hNone hOwned _ node hNode
    obtain ⟨other, hOther, hId⟩ := hNodes node hNode
    cases hAttaches with
    | again hExisting _ _ _ _ =>
      rw [hNone] at hExisting
      cases hExisting
    | fresh _ _ =>
      rw [← hId]
      refine enterGraph_kept hOrder hNodup (fun node hNode => ?_) (by simp) other hOther
      have hIn := (hMem node).mp hNode
      rw [hNormalized] at hIn
      obtain ⟨raw, hRaw, rfl⟩ := mem_map.mp hIn
      refine Finset.eq_empty_of_forall_notMem fun o ho => ?_
      obtain rfl := hOwned raw hRaw o ho
      obtain ⟨existing, hExisting, _⟩ := h o _ ho
      rw [hNone] at hExisting
      cases hExisting

/-- In every state of the store that any calls lead to, attaching a graph makes it runnable or changes nothing. -/
theorem attachGraph_exact [BEq P] (storeLease : Nat) (calls : List (StoreCall P O Id)) (owner : RootOwner)
    (nodes : List (ExecutionNode P Id)) :
    AttachExact (calls.foldl (StoreCall.apply storeLease) {}) owner nodes
      ((attachGraphInPlace owner nodes).run (calls.foldl (StoreCall.apply storeLease) {})).1
      ((attachGraphInPlace owner nodes).run (calls.foldl (StoreCall.apply storeLease) {})).2 :=
  (ownersAgree_foldl storeLease calls).attachExact owner nodes

end Attaching

end Raiko2.Queue
