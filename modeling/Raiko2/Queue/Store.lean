import Raiko2.Lib.Canonical
import Raiko2.Lib.Edit
import Raiko2.Lib.Worklist
import Raiko2.Queue.Graph

/-!
# The in-memory task store

Every operation runs under the one lock of the store, so that it is a function from the contents before to the
contents after. An operation that reads the clock gets the time as an argument, and the one that iterates over a
hash map gets the order of the iteration.
-/

namespace Raiko2.Queue

open Lib Outcome

variable {P O Id : Type} [DecidableEq Id]

section Buckets

def pushScheduled (time : UInt64) (id : Id) : List (UInt64 × List Id) → List (UInt64 × List Id)
  | [] => [(time, [id])]
  | (t, ids) :: rest =>
    if time < t then (time, [id]) :: (t, ids) :: rest
    else if time = t then (t, ids ++ [id]) :: rest
    else (t, ids) :: pushScheduled time id rest

def retainScheduled (id : Id) (scheduled : List (UInt64 × List Id)) : List (UInt64 × List Id) :=
  scheduled.filterMap fun (t, ids) =>
    let ids := ids.filter (· ≠ id)
    if ids.isEmpty then none else some (t, ids)

end Buckets

namespace Inner

def queue (s : Inner P O Id) : Priority → List Id
  | .high => s.readyHigh
  | .medium => s.readyMed
  | .low => s.readyLow

def setQueue (s : Inner P O Id) (priority : Priority) (ids : List Id) : Inner P O Id :=
  match priority with
  | .high => { s with readyHigh := ids }
  | .medium => { s with readyMed := ids }
  | .low => { s with readyLow := ids }

def stateOf (s : Inner P O Id) (id : Id) : Option (TaskState O Id) := (s.tasks.lookup id).map (·.state)

def dependentsOf (s : Inner P O Id) (id : Id) : List Id := (s.dependents.lookup id).getD []

def ownersOf (s : Inner P O Id) (id : Id) : Finset RootOwner := (s.taskOwners.lookup id).getD ∅

def setState (s : Inner P O Id) (id : Id) (state : TaskState O Id) : Inner P O Id :=
  { s with tasks := s.tasks.modify id fun record => { record with state, leaseUntilMs := none } }

end Inner

section Queues

/-- The id goes behind all ids that are not greater. The code finds the place by binary search, which is the end of
the longest prefix of such ids because the queue is sorted. -/
def insertReadySorted [ReadyQueueSort Id] (deque : List Id) (id : Id) : List Id :=
  let notGreater := fun existing => (ReadyQueueSort.cmpForReadyQueue existing id).isLE
  deque.takeWhile notGreater ++ id :: deque.dropWhile notGreater

def pushReadyLocked [ReadyQueueSort Id] (s : Inner P O Id) (priority : Priority) (id : Id) : Inner P O Id :=
  s.setQueue priority (insertReadySorted (s.queue priority) id)

def removeQueueMemberships (s : Inner P O Id) (id : Id) : Inner P O Id :=
  { s with
    readyHigh := s.readyHigh.filter (· ≠ id)
    readyMed := s.readyMed.filter (· ≠ id)
    readyLow := s.readyLow.filter (· ≠ id)
    scheduled := retainScheduled id s.scheduled }

def finishTask (s : Inner P O Id) (id : Id) (state : TaskState O Id) : Inner P O Id :=
  (removeQueueMemberships s id).setState id state

def nextSequence (s : Inner P O Id) : UInt64 × Inner P O Id :=
  (s.nextSequence, { s with nextSequence := U64.saturatingAdd s.nextSequence 1 })

def leaseEnd (storeLease : Nat) (policy : TaskExecutionPolicy) (nowMs : UInt64) : UInt64 :=
  U64.saturatingAdd nowMs (durationMillis (max policy.leaseDuration storeLease))

def popReady (s : Inner P O Id) (priority : Priority) : Option Id × Inner P O Id :=
  match s.queue priority with
  | [] => (none, s)
  | id :: rest => (some id, s.setQueue priority rest)

def takeReadyLocked (s : Inner P O Id) (storeLease : Nat) (id : Id) (leaseToken : String) (nowMs : UInt64) :
    Option (P × Priority × UInt32 × TaskExecutionPolicy) × Inner P O Id :=
  match s.tasks.lookup id with
  | none => (none, s)
  | some record =>
    match record.state, record.payload with
    | .ready, some payload =>
      let (leaseSequence, s) := nextSequence s
      let attempt := if record.attempt.toNat + 1 < 2 ^ 32 then record.attempt + 1 else record.attempt
      let record := { record with
        attempt
        state := .running leaseToken attempt
        leaseSequence
        leaseUntilMs := some (leaseEnd storeLease record.executionPolicy nowMs) }
      (some (payload, record.priority, attempt, record.executionPolicy),
        { s with tasks := s.tasks.insert id record })
    | _, _ => (none, s)

end Queues

section Dependencies

inductive DependencyInsertState (Id : Type) where
  | pending (remaining : Nat) (unresolvedDeps : List Id)
  | failed
  | cancelled

/-- The first failed or cancelled dependency decides; without one, those that have not succeeded are waited for. -/
def resolveDependencyInsertState (s : Inner P O Id) : List Id → DependencyInsertState Id
  | [] => .pending 0 []
  | dep :: deps =>
    match s.stateOf dep with
    | some (.succeeded _) => resolveDependencyInsertState s deps
    | some (.failed _ _) => .failed
    | some .cancelled => .cancelled
    | _ =>
      match resolveDependencyInsertState s deps with
      | .pending remaining unresolvedDeps => .pending (remaining + 1) (dep :: unresolvedDeps)
      | lost => lost

def addDependentEdges (s : Inner P O Id) (dependencies : List Id) (id : Id) : Inner P O Id :=
  { s with
    dependents := dependencies.foldl
      (fun dependents dep => dependents.insert dep (((dependents.lookup dep).getD []) ++ [id])) s.dependents }

def removeDependentEdges (s : Inner P O Id) (target : Id) : Inner P O Id :=
  { s with
    dependents := s.dependents.retain fun _ ids =>
      let ids := ids.filter (· ≠ target)
      if ids.isEmpty then none else some ids }

def runningLeaseMatches (s : Inner P O Id) (id : Id) (leaseToken : String) (attempt : UInt32) : Bool :=
  match s.stateOf id with
  | some (.running currentLeaseToken currentAttempt) => currentLeaseToken == leaseToken && currentAttempt == attempt
  | _ => false

/-- One turn of `release_dependents_locked`. -/
def releaseDependent [ReadyQueueSort Id] (s : Inner P O Id) (dependent : Id) : Inner P O Id :=
  match s.tasks.lookup dependent with
  | some record =>
    match record.state with
    | .pending _ =>
      let remaining := ((s.remaining.lookup dependent).getD 0) - 1
      let s := { s with remaining := s.remaining.insert dependent remaining }
      if remaining = 0 then
        pushReadyLocked { s with tasks := s.tasks.insert dependent { record with state := .ready } }
          record.priority dependent
      else { s with tasks := s.tasks.insert dependent { record with state := .pending remaining } }
    | _ => s
  | none => s

def releaseDependentsLocked [ReadyQueueSort Id] (s : Inner P O Id) (root : Id) : Inner P O Id :=
  (s.dependentsOf root).foldl releaseDependent s

def isTerminalTask (s : Inner P O Id) (id : Id) : Bool := (s.stateOf id).any (·.isTerminal)

/-- One visit of `fail_dependents_locked`. -/
def failDependent (root : Id) (error : String) (s : Inner P O Id) (id : Id) : Inner P O Id :=
  if isTerminalTask s id then s
  else finishTask s id (.failed error (some root))

/-- The loop runs until its queue is empty: no list of dependents changes on the way, so that every task enters the
queue at most once for each edge. -/
def failDependentsLocked (s : Inner P O Id) (root : Id) (error : String) : Inner P O Id :=
  worklist s.dependentsOf (failDependent root error)
    ((s.dependentsOf root).length + (s.dependents.keys.map fun id => (s.dependentsOf id).length).sum)
    (s.dependentsOf root) [] s

def cancelTaskLocked (s : Inner P O Id) (id : Id) (dependentError : String) : Inner P O Id × Bool :=
  match s.stateOf id with
  | none => (s, false)
  | some state =>
    if state.isTerminal then (s, false)
    else (failDependentsLocked (finishTask s id .cancelled) id dependentError, true)

end Dependencies

section Attach

variable [ReadyQueueSort Id]

/-- What becomes of a task whose dependencies are in the given states: its counter, its state and the dependencies
it waits for. -/
def insertedState : DependencyInsertState Id → Nat × TaskState O Id × List Id
  | .pending remaining unresolvedDeps =>
    (remaining, if remaining = 0 then .ready else .pending remaining, unresolvedDeps)
  | .failed => (0, .failed "dependency failed" none, [])
  | .cancelled => (0, .cancelled, [])

def placeTask (s : Inner P O Id) (id : Id) (record : TaskRecord P O Id) (remaining : Nat)
    (unresolvedDependencies : List Id) : Inner P O Id :=
  let s := addDependentEdges s unresolvedDependencies id
  let s := { s with
    remaining := s.remaining.insert id remaining
    tasks := s.tasks.insert id record }
  match record.state with
  | .ready => pushReadyLocked s record.priority id
  | _ => s

/-- One turn of the second loop of `reset_attached_terminal_nodes`. -/
def resetNode (resetIds : List Id) (s : Inner P O Id) (node : ExecutionNode P Id) :
    Outcome TaskStoreError (Inner P O Id) :=
  if node.id ∉ resetIds then .ok s
  else
    match resolveDependencyInsertState s node.dependencies with
    | .pending remaining unresolvedDeps => do
      let record ← expect "attached graph task was checked before recovery reset" (s.tasks.lookup node.id)
      let record := { record with
        payload := some node.task.payload
        state := if remaining = 0 then TaskState.ready else .pending remaining
        attempt := 0
        leaseUntilMs := none
        executionPolicy := node.executionPolicy
        dependencies := node.dependencies }
      pure (placeTask s node.id record remaining unresolvedDeps)
    | _ => .abort "all terminal dependencies in the attached graph are reset together"

/-- The first loop is over a set; each turn drops the entries of one id, so that its order does not matter. -/
def resetAttachedTerminalNodes (s : Inner P O Id) (ordered : List (ExecutionNode P Id)) :
    Outcome TaskStoreError (Inner P O Id × Bool) :=
  let resetIds := (ordered.map (·.id)).filter fun id => (s.stateOf id).any (·.isLost)
  if resetIds.isEmpty then .ok (s, false)
  else do
    let s := resetIds.foldl (fun s id => removeDependentEdges (removeQueueMemberships s id) id) s
    let s ← ordered.foldlM (resetNode resetIds) s
    pure (s, true)

def resetAttachedTerminalNodesInPlace (ordered : List (ExecutionNode P Id)) :
    Edit (Inner P O Id) TaskStoreError Bool := do
  let s ← Edit.read
  let resetIds := (ordered.map (·.id)).filter fun id => (s.stateOf id).any (·.isLost)
  if resetIds.isEmpty then pure false
  else do
    forM resetIds fun id => Edit.change fun s => removeDependentEdges (removeQueueMemberships s id) id
    forM ordered fun node => Edit.update fun s => resetNode resetIds s node
    pure true

def isUnownedLost (s : Inner P O Id) (id : Id) : Bool := (s.stateOf id).any (·.isLost) && s.ownersOf id == ∅

def enterNode (owner : RootOwner) (s : Inner P O Id) (node : ExecutionNode P Id) : Inner P O Id :=
  let resetUnownedTerminal := isUnownedLost s node.id
  let s :=
    if (s.tasks.lookup node.id).isNone || resetUnownedTerminal then
      let (remaining, state, unresolvedDependencies) :=
        insertedState (resolveDependencyInsertState s node.dependencies)
      let s := if resetUnownedTerminal then removeQueueMemberships (removeDependentEdges s node.id) node.id else s
      let record := {
        definitionPayload := node.task.payload
        definitionExecutionPolicy := node.executionPolicy
        payload := some node.task.payload
        state
        priority := node.task.priority
        attempt := 0
        leaseUntilMs := none
        leaseSequence := 0
        executionPolicy := node.executionPolicy
        dependencies := node.dependencies }
      placeTask s node.id record remaining unresolvedDependencies
    else s
  { s with taskOwners := s.taskOwners.insert node.id (insert owner (s.ownersOf node.id)) }

def checkAttachedNode [BEq P] (owner : RootOwner) (s : Inner P O Id) (node : ExecutionNode P Id) :
    Outcome TaskStoreError Unit := do
  let record ← ofOption (.corruptData "an attached root owner references a missing task")
    (s.tasks.lookup node.id)
  ensure (taskDefinitionMatches record node = true)
    (.conflict "an attached task id has a different execution definition")
  ensure (owner ∈ s.ownersOf node.id) (.corruptData "owner and task ownership indexes disagree")

def attachGraph [BEq P] (s : Inner P O Id) (owner : RootOwner) (nodes : List (ExecutionNode P Id)) :
    Outcome TaskStoreError (Inner P O Id × AttachOutcome) := do
  let nodes ← normalizeAndValidateGraph owner nodes
  let ordered := graphTopologicalNodes nodes
  let graphIds := ordered.map (·.id)
  match s.ownerGraphs.lookup owner with
  | some existingGraph =>
    ensure (existingGraph.attached = true) (.conflict "a retired root owner cannot be attached again")
    ensure (graphTaskSetsMatch existingGraph.taskIds graphIds = true)
      (.conflict "the same root owner is already attached to a different graph")
    let _ ← nodes.mapM (checkAttachedNode owner s)
    let (s, reset) ← resetAttachedTerminalNodes s ordered
    pure (s, if reset then .attached else .alreadyAttached)
  | none =>
    ensure (∀ node ∈ nodes, ∀ record ∈ s.tasks.lookup node.id, taskDefinitionMatches record node = true)
      (.conflict "a task id is already attached with a different execution definition")
    let s := ordered.foldl (enterNode owner) s
    pure ({ s with ownerGraphs := s.ownerGraphs.insert owner ⟨graphIds, true⟩ }, .attached)

def attachGraphInPlace [BEq P] (owner : RootOwner) (nodes : List (ExecutionNode P Id)) :
    Edit (Inner P O Id) TaskStoreError AttachOutcome := do
  let nodes ← Edit.check (normalizeAndValidateGraph owner nodes)
  let ordered := graphTopologicalNodes nodes
  let graphIds := ordered.map (·.id)
  let s ← Edit.read
  match s.ownerGraphs.lookup owner with
  | some existingGraph => do
    Edit.check (ensure (existingGraph.attached = true)
      (.conflict "a retired root owner cannot be attached again"))
    Edit.check (ensure (graphTaskSetsMatch existingGraph.taskIds graphIds = true)
      (.conflict "the same root owner is already attached to a different graph"))
    let _ ← Edit.check (nodes.mapM (checkAttachedNode owner s))
    let reset ← resetAttachedTerminalNodesInPlace ordered
    pure (if reset then .attached else .alreadyAttached)
  | none => do
    Edit.check (ensure
      (∀ node ∈ nodes, ∀ record ∈ s.tasks.lookup node.id, taskDefinitionMatches record node = true)
      (.conflict "a task id is already attached with a different execution definition"))
    forM ordered fun node => Edit.change fun s => enterNode owner s node
    Edit.change fun s => { s with ownerGraphs := s.ownerGraphs.insert owner ⟨graphIds, true⟩ }
    pure .attached

end Attach

section Detach

def DetachOutcome.notAttached (mode : DetachMode) : DetachOutcome Id := ⟨false, mode, [], []⟩

def removeOwner (owner : RootOwner) (s : Inner P O Id) (id : Id) : Inner P O Id :=
  { s with taskOwners := s.taskOwners.modify id fun owners => owners.erase owner }

def removeRetired (s : Inner P O Id) (id : Id) : Inner P O Id :=
  let s := { s with
    tasks := s.tasks.erase id
    remaining := s.remaining.erase id
    dependents := s.dependents.erase id }
  removeQueueMemberships (removeDependentEdges s id) id

def leaveTasks (s : Inner P O Id) (owner : RootOwner) (graph : OwnerGraph Id) : Inner P O Id :=
  if graph.attached then graph.taskIds.foldl (removeOwner owner) s else s

def retireTasks (s : Inner P O Id) (mode : DetachMode) (retired : List Id) : Inner P O Id :=
  let s := { s with taskOwners := retired.foldl (fun owners id => owners.erase id) s.taskOwners }
  match mode with
  | .cancel => retired.foldl (fun s id => (cancelTaskLocked s id "dependency cancelled").1) s
  | .remove => retired.foldl removeRetired s

def retireGraph (graphs : Table RootOwner (OwnerGraph Id)) (owner : RootOwner) :
    DetachMode → Table RootOwner (OwnerGraph Id)
  | .cancel => graphs.modify owner fun graph => { graph with attached := false }
  | .remove => graphs.erase owner

/-- The ids of a graph are distinct, so that taking the entries of the retired tasks away after all of them have
been told apart is the same as taking each away at once. -/
def detachOwner (s : Inner P O Id) (owner : RootOwner) (mode : DetachMode) :
    Outcome TaskStoreError (Inner P O Id × DetachOutcome Id) :=
  match s.ownerGraphs.lookup owner with
  | none => .ok (s, .notAttached mode)
  | some ownerGraph =>
    let taskIds := ownerGraph.taskIds
    if ownerGraph.attached = false ∧ mode = .cancel then .ok (s, .notAttached mode)
    else do
      ensure
        (ownerGraph.attached = true → ∀ id ∈ taskIds, (s.tasks.lookup id).isSome = true ∧ owner ∈ s.ownersOf id)
        (.corruptData "owner and task ownership indexes disagree")
      let s := leaveTasks s owner ownerGraph
      let retained := taskIds.filter fun id => s.ownersOf id ≠ ∅
      let retired := taskIds.filter fun id => s.ownersOf id = ∅
      let s := retireTasks s mode retired
      pure ({ s with ownerGraphs := retireGraph s.ownerGraphs owner mode }, ⟨true, mode, retired, retained⟩)

end Detach

section Completion

variable [ReadyQueueSort Id]

def completeSuccessAndReleaseDependentsIfRunning (s : Inner P O Id) (id : Id) (leaseToken : String)
    (attempt : UInt32) (output : O) : Inner P O Id × Bool :=
  if runningLeaseMatches s id leaseToken attempt then
    (releaseDependentsLocked (finishTask s id (.succeeded output)) id, true)
  else (s, false)

def completeFailureAndFailDependentsIfRunning (s : Inner P O Id) (id : Id) (leaseToken : String)
    (attempt : UInt32) (error dependentError : String) : Inner P O Id × Bool :=
  if runningLeaseMatches s id leaseToken attempt then
    (failDependentsLocked (finishTask s id (.failed error none)) id dependentError, true)
  else (s, false)

def setPayload (s : Inner P O Id) (id : Id) (payload : P) : Inner P O Id :=
  { s with tasks := s.tasks.modify id fun record => { record with payload := some payload } }

def retryNowIfRunning (s : Inner P O Id) (id : Id) (leaseToken : String) (attempt : UInt32) (priority : Priority)
    (payload : P) : Inner P O Id × Bool :=
  if runningLeaseMatches s id leaseToken attempt then
    (pushReadyLocked ((setPayload s id payload).setState id .ready) priority id, true)
  else (s, false)

def retryLaterIfRunning (s : Inner P O Id) (id : Id) (leaseToken : String) (attempt : UInt32) (error : String)
    (payload : P) (nextReadyAtMs : UInt64) : Inner P O Id × Bool :=
  if runningLeaseMatches s id leaseToken attempt then
    let s := (setPayload s id payload).setState id (.retrying error attempt nextReadyAtMs)
    ({ s with scheduled := pushScheduled nextReadyAtMs id s.scheduled }, true)
  else (s, false)

def checkpointPayloadIfRunning (s : Inner P O Id) (id : Id) (leaseToken : String) (attempt : UInt32) (payload : P)
    (executionPolicy : TaskExecutionPolicy) : Inner P O Id × Bool :=
  if runningLeaseMatches s id leaseToken attempt then
    ({ s with tasks := s.tasks.modify id fun record => { record with payload := some payload, executionPolicy } },
      true)
  else (s, false)

def renewLease (s : Inner P O Id) (storeLease : Nat) (id : Id) (leaseToken : String) (attempt : UInt32)
    (nowMs : UInt64) : Inner P O Id × Bool :=
  if runningLeaseMatches s id leaseToken attempt then
    ({ s with
      tasks := s.tasks.modify id fun record =>
        { record with leaseUntilMs := some (leaseEnd storeLease record.executionPolicy nowMs) } }, true)
  else (s, false)

end Completion

section Maintenance

variable [ReadyQueueSort Id]

/-- The inner loop of `promote_scheduled` over one bucket: the number of tasks moved, the ids left in the bucket
when the limit is reached, and the store. -/
def promoteBucket (nowMs : UInt64) (limit : Nat) : List Id → Nat → Inner P O Id → Nat × List Id × Inner P O Id
  | [], moved, s => (moved, [], s)
  | id :: ids, moved, s =>
    if moved < limit then
      match s.tasks.lookup id with
      | none => promoteBucket nowMs limit ids moved s
      | some record =>
        match record.state with
        | .retrying _ _ nextReadyAtMs =>
          if nextReadyAtMs > nowMs then
            promoteBucket nowMs limit ids moved { s with scheduled := pushScheduled nextReadyAtMs id s.scheduled }
          else promoteBucket nowMs limit ids (moved + 1) (pushReadyLocked (s.setState id .ready) record.priority id)
        | _ => promoteBucket nowMs limit ids moved s
    else (moved, id :: ids, s)

/-- The outer loop. Each turn takes the first bucket, and all buckets that a turn adds are later than now, so that
there are at most as many turns as there were buckets. A bucket that is put back is the first one again. -/
def promoteLoop (nowMs : UInt64) (limit : Nat) : Nat → Nat → Inner P O Id → Nat × Inner P O Id
  | 0, moved, s => (moved, s)
  | turns + 1, moved, s =>
    if moved < limit then
      match s.scheduled with
      | [] => (moved, s)
      | (time, ids) :: scheduled =>
        if time > nowMs then (moved, s)
        else
          let (moved, left, s) := promoteBucket nowMs limit ids moved { s with scheduled }
          promoteLoop nowMs limit turns moved
            (if left.isEmpty then s else { s with scheduled := (time, left) :: s.scheduled })
    else (moved, s)

def promoteScheduled (s : Inner P O Id) (nowMs : UInt64) (limit : Nat) : Nat × Inner P O Id :=
  promoteLoop nowMs limit s.scheduled.length 0 s

def expiredLease (s : Inner P O Id) (nowMs : UInt64) (id : Id) : Option (UInt64 × UInt64 × Id) :=
  match s.tasks.lookup id with
  | none => none
  | some record =>
    match record.state, record.leaseUntilMs with
    | .running _ _, some leaseUntilMs =>
      if leaseUntilMs > nowMs then none else some (leaseUntilMs, record.leaseSequence, id)
    | _, _ => none

def sortExpired (expired : List (UInt64 × UInt64 × Id)) : List (UInt64 × UInt64 × Id) :=
  sortByKey (fun lease => lease.1.toNat * 2 ^ 64 + lease.2.1.toNat) expired

def requeueLease (s : Inner P O Id) (id : Id) : Inner P O Id :=
  match s.tasks.lookup id with
  | none => s
  | some record => pushReadyLocked (s.setState id .ready) record.priority id

/-- `order` is the order in which the hash map of tasks is iterated. -/
def requeueExpiredLeases (s : Inner P O Id) (order : List Id) (nowMs : UInt64) (limit : Nat) :
    Nat × Inner P O Id :=
  let expired := sortExpired (order.filterMap (expiredLease s nowMs))
  (min expired.length limit, ((expired.take limit).map (·.2.2)).foldl requeueLease s)

end Maintenance

end Raiko2.Queue
