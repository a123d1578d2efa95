import Raiko2.Lib.Notify
import Raiko2.Queue.Fencing

/-!
# Workers, watchers and their wake-ups

Workers that look for a ready task and wait when there is none, and watchers of leases that wait until their lease has
ended. The operations on the store send their notifications in steps of their own, after the step on the store.
-/

namespace Raiko2.Queue

open Lib Queue.Inner

variable {P O Id : Type} {n : Nat}

section Model

variable [DecidableEq Id] [ReadyQueueSort Id]

inductive Signal where
  | readyWaiters
  | readyOne
  | leaseWaiters
  deriving DecidableEq, Repr

/-- `notify_ready_workers`. -/
def notifyReadyWorkers : List Signal := [.readyWaiters, .readyOne]

def completionSignals (lease : TaskLease P Id) (result : Except String O) (nowMs : UInt64) : List Signal :=
  match result with
  | .ok _ => notifyReadyWorkers ++ [.leaseWaiters]
  | .error _ =>
    match lease.executionPolicy.retry.retryDelay lease.attempt with
    | none => [.leaseWaiters]
    | some delay =>
      match retrySchedule delay nowMs with
      | .now => notifyReadyWorkers ++ [.leaseWaiters]
      | .at _ => [.leaseWaiters]

def signalsOf [BEq P] (s : Inner P O Id) : Event P O Id → List Signal
  | .attach owner nodes =>
    match attachGraph s owner nodes with
    | .ok (_, .attached) => notifyReadyWorkers
    | _ => []
  | .detach owner mode =>
    match detachOwner s owner mode with
    | .ok (_, outcome) => if outcome.detached then [.leaseWaiters] else []
    | _ => []
  | .complete lease result nowMs =>
    if (completeWithDisposition s lease result nowMs).2 = .stale then [] else completionSignals lease result nowMs
  | _ => []

def maintenanceSignals (movedScheduled movedLeases : Nat) : List Signal :=
  (if movedScheduled + movedLeases > 0 then notifyReadyWorkers else []) ++
    if movedLeases > 0 then [.leaseWaiters] else []

/-- An operation after a step on the store: a tick that has yet to look for expired leases, or one that has
notifications to send. -/
inductive Operation where
  | requeueing (nowMs : UInt64) (movedScheduled : Nat)
  | notifying (signals : List Signal)
  deriving DecidableEq, Repr

def Operation.isRequeueing : Operation → Bool
  | requeueing _ _ => true
  | notifying _ => false

def Operation.hasSignal : Operation → Bool
  | requeueing _ _ => false
  | notifying signals => !signals.isEmpty

def Operation.owesReady : Operation → Bool
  | requeueing _ movedScheduled => movedScheduled > 0
  | notifying signals => signals.contains .readyOne

def Operation.owesLease : Operation → Bool
  | requeueing _ _ => false
  | notifying signals => signals.contains .leaseWaiters

/-- Where a worker is in its loop. It runs a task or is about to look for one, looks at the queues, has found them
empty, has made a waiter after so many broadcasts, or has polled it. -/
inductive WorkerPhase where
  | running
  | scanning
  | empty
  | created (seen : Nat)
  | waiting
  deriving DecidableEq, Repr

def WorkerPhase.isCreated : WorkerPhase → Bool
  | created _ => true
  | _ => false

/-- Where `wait_lease_interruption` is in its loop: the waiter is made, it is enabled, or the lease has been read and
still matched. -/
inductive WatcherPhase where
  | created (seen : Nat)
  | enabled
  | waiting
  deriving DecidableEq, Repr

def WatcherPhase.isCreated : WatcherPhase → Bool
  | created _ => true
  | _ => false

structure Watcher (Id : Type) where
  id : Id
  leaseToken : String
  attempt : UInt32
  phase : WatcherPhase
  deriving DecidableEq, Repr

structure Wakeups (n : Nat) (P O Id : Type) where
  system : System P O Id := {}
  ready : Notify (Fin n) := {}
  lease : Notify Nat := {}
  workers : Fin n → WorkerPhase := fun _ => .running
  watchers : Table Nat (Watcher Id) := ∅
  operations : Table Nat Operation := ∅

inductive WakeupEvent (n : Nat) (P O Id : Type) where
  | store (operation : Nat) (event : Event P O Id)
  | promote (operation : Nat) (nowMs : UInt64)
  | requeue (operation : Nat) (order : List Id)
  | signal (operation : Nat)
  | startScan (worker : Fin n) (name uuid : String)
  | pop (worker : Fin n) (uuid : String)
  | take (worker : Fin n) (nowMs : UInt64)
  | createWaiter (worker : Fin n)
  | pollWaiter (worker : Fin n)
  | wake (worker : Fin n)
  | watch (watcher : Nat) (id : Id) (leaseToken : String) (attempt : UInt32)
  | enable (watcher : Nat)
  | readLease (watcher : Nat)
  | wakeWatcher (watcher : Nat)
  | dropWatcher (watcher : Nat)

def Event.isOperation : Event P O Id → Bool
  | .attach _ _ | .detach _ _ | .complete _ _ _ | .checkpoint _ _ _ | .renew _ _ => true
  | _ => false

namespace Wakeups

def phaseOf (s : Wakeups n P O Id) (watcher : Nat) : Option WatcherPhase := (s.watchers.lookup watcher).map (·.phase)

def Allowed (s : Wakeups n P O Id) : WakeupEvent n P O Id → Prop
  | .store operation event =>
    s.operations.lookup operation = none ∧ event.isOperation = true ∧ s.system.Allowed event
  | .promote operation _ => s.operations.lookup operation = none
  | .requeue operation order =>
    (s.operations.lookup operation).any Operation.isRequeueing = true ∧ order.Perm s.system.store.tasks.keys
  | .signal operation => (s.operations.lookup operation).any Operation.hasSignal = true
  | .startScan worker name uuid =>
    s.workers worker = .running ∧ s.system.Allowed (.startNextReady worker name uuid)
  | .pop worker uuid => s.workers worker = .scanning ∧ s.system.Allowed (.popReady worker uuid)
  | .take worker nowMs => s.workers worker = .scanning ∧ s.system.Allowed (.takeReady worker nowMs)
  | .createWaiter worker => s.workers worker = .empty
  | .pollWaiter worker => (s.workers worker).isCreated = true
  | .wake worker => s.workers worker = .waiting ∧ worker ∉ s.ready.waiting
  | .watch watcher _ _ _ => s.watchers.lookup watcher = none
  | .enable watcher => (s.phaseOf watcher).any WatcherPhase.isCreated = true
  | .readLease watcher => s.phaseOf watcher = some .enabled
  | .wakeWatcher watcher => s.phaseOf watcher = some .waiting ∧ watcher ∉ s.lease.waiting
  | .dropWatcher watcher => (s.watchers.lookup watcher).isSome = true

instance (s : Wakeups n P O Id) (event : WakeupEvent n P O Id) : Decidable (s.Allowed event) := by
  cases event <;> unfold Allowed <;> infer_instance

section Inversion

omit [DecidableEq Id] [ReadyQueueSort Id]

variable {s : Wakeups n P O Id} {operation : Nat} {worker : Fin n}

theorem exists_requeueing {order : List Id} (h : s.Allowed (.requeue operation order)) :
    ∃ nowMs movedScheduled, s.operations.lookup operation = some (.requeueing nowMs movedScheduled) := by
  obtain ⟨current, hLookup, hRequeueing⟩ := (Option.any_eq_true _ _).mp h.1
  cases current with
  | requeueing nowMs movedScheduled => exact ⟨nowMs, movedScheduled, hLookup⟩
  | notifying => cases hRequeueing

theorem exists_signal (h : s.Allowed (.signal operation)) :
    ∃ signal rest, s.operations.lookup operation = some (.notifying (signal :: rest)) := by
  obtain ⟨current, hLookup, hSignal⟩ := (Option.any_eq_true _ _).mp h
  cases current with
  | requeueing => cases hSignal
  | notifying signals =>
    cases signals with
    | nil => cases hSignal
    | cons signal rest => exact ⟨signal, rest, hLookup⟩

theorem exists_created (h : s.Allowed (.pollWaiter worker)) : ∃ seen, s.workers worker = .created seen := by
  have hCreated : (s.workers worker).isCreated = true := h
  cases hPhase : s.workers worker with
  | created seen => exact ⟨seen, rfl⟩
  | _ =>
    rw [hPhase] at hCreated
    cases hCreated

theorem exists_watcher_created {watcher : Nat} (h : s.Allowed (.enable watcher)) :
    ∃ seen, s.phaseOf watcher = some (.created seen) := by
  obtain ⟨phase, hPhase, hCreated⟩ := (Option.any_eq_true _ _).mp h
  cases phase with
  | created seen => exact ⟨seen, hPhase⟩
  | _ => cases hCreated

end Inversion

def setWorker (s : Wakeups n P O Id) (worker : Fin n) (phase : WorkerPhase) : Wakeups n P O Id :=
  { s with workers := Function.update s.workers worker phase }

def setWatcher (s : Wakeups n P O Id) (watcher : Nat) (phase : WatcherPhase) : Wakeups n P O Id :=
  { s with watchers := s.watchers.modify watcher fun w => { w with phase } }

def setSignals (s : Wakeups n P O Id) (operation : Nat) (signals : List Signal) : Wakeups n P O Id :=
  { s with operations := s.operations.insert operation (.notifying signals) }

def send (s : Wakeups n P O Id) : Signal → Wakeups n P O Id
  | .readyWaiters => { s with ready := s.ready.notifyWaiters }
  | .readyOne => { s with ready := s.ready.notifyOne }
  | .leaseWaiters => { s with lease := s.lease.notifyWaiters }

/-- The store step of a scan, and where the worker is afterwards. A call that has ended has found a task or nothing. -/
def scanStep [BEq P] (storeLease : Nat) (s : Wakeups n P O Id) (worker : Fin n) (event : Event P O Id)
    (ended : WorkerPhase) : Wakeups n P O Id :=
  let system := System.step storeLease s.system event
  { s with system }.setWorker worker (if (system.calls.lookup worker.val).isSome then .scanning else ended)

def readLease (s : Wakeups n P O Id) (key : Nat) (watcher : Watcher Id) : Wakeups n P O Id :=
  if runningLeaseMatches s.system.store watcher.id watcher.leaseToken watcher.attempt then s.setWatcher key .waiting
  else { s with watchers := s.watchers.erase key, lease := s.lease.forget key }

def step [BEq P] (storeLease : Nat) (s : Wakeups n P O Id) : WakeupEvent n P O Id → Wakeups n P O Id
  | .store operation event =>
    { s with system := System.step storeLease s.system event }.setSignals operation (signalsOf s.system.store event)
  | .promote operation nowMs =>
    let moved := (promoteScheduled s.system.store nowMs maintenanceTickLimit).1
    { s with
      system := System.step storeLease s.system (.promote nowMs)
      operations := s.operations.insert operation (.requeueing nowMs moved) }
  | .requeue operation order =>
    match s.operations.lookup operation with
    | some (.requeueing nowMs movedScheduled) =>
      let moved := (requeueExpiredLeases s.system.store order nowMs maintenanceTickLimit).1
      { s with system := System.step storeLease s.system (.requeue nowMs order) }.setSignals operation
        (maintenanceSignals movedScheduled moved)
    | _ => s
  | .signal operation =>
    match s.operations.lookup operation with
    | some (.notifying (signal :: rest)) => (s.send signal).setSignals operation rest
    | _ => s
  | .startScan worker name uuid =>
    { s with system := System.step storeLease s.system (.startNextReady worker name uuid) }.setWorker worker .scanning
  | .pop worker uuid => s.scanStep storeLease worker (.popReady worker uuid) .empty
  | .take worker nowMs => s.scanStep storeLease worker (.takeReady worker nowMs) .running
  | .createWaiter worker => s.setWorker worker (.created s.ready.broadcasts)
  | .pollWaiter worker =>
    match s.workers worker with
    | .created seen =>
      let (done, ready) := s.ready.poll worker seen
      { s with ready }.setWorker worker (if done then .running else .waiting)
    | _ => s
  | .wake worker => s.setWorker worker .running
  | .watch watcher id leaseToken attempt =>
    { s with
      watchers := s.watchers.insert watcher ⟨id, leaseToken, attempt, .created s.lease.broadcasts⟩ }
  | .enable watcher =>
    match s.phaseOf watcher with
    | some (.created seen) => { s with lease := (s.lease.poll watcher seen).2 }.setWatcher watcher .enabled
    | _ => s
  | .readLease key =>
    match s.watchers.lookup key with
    | some watcher => s.readLease key watcher
    | none => s
  | .wakeWatcher watcher => s.setWatcher watcher (.created s.lease.broadcasts)
  | .dropWatcher watcher => { s with watchers := s.watchers.erase watcher, lease := s.lease.forget watcher }

/-- The worker has polled its waiter and nobody has notified it. -/
def Parked (s : Wakeups n P O Id) (worker : Fin n) : Prop := s.workers worker = .waiting ∧ worker ∈ s.ready.waiting

def WatcherParked (s : Wakeups n P O Id) (key : Nat) : Prop := s.phaseOf key = some .waiting ∧ key ∈ s.lease.waiting

end Wakeups

end Model

section EmptyQueues

variable {s s' s'' : Inner P O Id} {id : Id}

def KeepsEmpty (s s' : Inner P O Id) : Prop := ∀ p, s.queue p = [] → s'.queue p = []

theorem KeepsEmpty.of_queue (h : ∀ p, s'.queue p = s.queue p) : KeepsEmpty s s' := fun p hp => (h p).trans hp

theorem KeepsEmpty.refl : KeepsEmpty s s := fun _ hp => hp

theorem KeepsEmpty.trans (h : KeepsEmpty s s') (h' : KeepsEmpty s' s'') : KeepsEmpty s s'' := fun p hp => h' p (h p hp)

variable [DecidableEq Id]

theorem keepsEmpty_removeQueueMemberships : KeepsEmpty s (removeQueueMemberships s id) := by
  intro p hp
  rw [queue_removeQueueMemberships, hp]
  rfl

theorem keepsEmpty_finishTask {state : TaskState O Id} : KeepsEmpty s (finishTask s id state) :=
  keepsEmpty_removeQueueMemberships.trans (.of_queue fun p => queue_setState _ p id)

theorem keepsEmpty_failDependentsLocked (root : Id) (error : String) :
    KeepsEmpty s (failDependentsLocked s root error) :=
  failDependentsLocked_keeps (fun _ _ _ h => h.trans keepsEmpty_finishTask) .refl

theorem keepsEmpty_detachOwner {owner : RootOwner} {mode : DetachMode} {outcome : DetachOutcome Id}
    (h : detachOwner s owner mode = .ok (s', outcome)) : KeepsEmpty s s' := by
  refine detachOwner_keeps (fun _ _ _ h => h.trans (.of_queue fun p => by cases p <;> rfl)) ?_ ?_ h .refl
  · intro s' id error h
    refine h.trans (cancelTaskLocked_keeps ?_ ?_ .refl)
    · exact fun _ _ _ h => h.trans keepsEmpty_finishTask
    · exact fun _ _ h => h.trans (keepsEmpty_failDependentsLocked _ _)
  · intro s' id h p hp
    rw [queue_removeRetired, h p hp]
    rfl

variable [ReadyQueueSort Id]

theorem keepsEmpty_completes {lease : TaskLease P Id} {result : Except String O} {nowMs : UInt64}
    {disposition : TaskCompletionDisposition} (hDone : Completes s lease nowMs result s' disposition)
    (h : disposition = .stale ∨ .readyOne ∉ completionSignals lease result nowMs) : KeepsEmpty s s' := by
  cases hDone with
  | stale => exact .refl
  | succeeded => simp [completionSignals, notifyReadyWorkers] at h
  | failed => exact keepsEmpty_finishTask.trans (keepsEmpty_failDependentsLocked _ _)
  | retryNow _ _ _ hDelay => simp [completionSignals, hDelay, retrySchedule, notifyReadyWorkers] at h
  | retryLater => exact .of_queue fun p => by cases p <;> rfl

theorem promoteBucket_unmoved (nowMs : UInt64) (limit : Nat) (ids : List Id) (moved : Nat) (s : Inner P O Id) :
    moved ≤ (promoteBucket nowMs limit ids moved s).1 ∧
      ((promoteBucket nowMs limit ids moved s).1 = moved → KeepsEmpty s (promoteBucket nowMs limit ids moved s).2.2) := by
  induction ids generalizing moved s with
  | nil => exact ⟨le_rfl, fun _ => .refl⟩
  | cons id ids ih =>
    rw [promoteBucket]
    split
    · split
      · exact ih moved s
      · split
        · split
          · obtain ⟨hLe, hKeeps⟩ := ih moved { s with scheduled := pushScheduled _ id s.scheduled }
            exact ⟨hLe, fun h => KeepsEmpty.trans (.of_queue fun p => by cases p <;> rfl) (hKeeps h)⟩
          · -- here the count grows
            obtain ⟨hLe, -⟩ := ih (moved + 1) (pushReadyLocked (s.setState id .ready) _ id)
            exact ⟨by omega, fun h => absurd (h ▸ hLe) (by omega)⟩
        · exact ih moved s
    · exact ⟨le_rfl, fun _ => .refl⟩

theorem promoteLoop_unmoved (nowMs : UInt64) (limit turns moved : Nat) (s : Inner P O Id) :
    moved ≤ (promoteLoop nowMs limit turns moved s).1 ∧
      ((promoteLoop nowMs limit turns moved s).1 = moved → KeepsEmpty s (promoteLoop nowMs limit turns moved s).2) := by
  induction turns generalizing moved s with
  | zero => exact ⟨le_rfl, fun _ => .refl⟩
  | succ turns ih =>
    rw [promoteLoop]
    split
    · split
      · exact ⟨le_rfl, fun _ => .refl⟩
      · rename_i time ids scheduled _
        split
        · exact ⟨le_rfl, fun _ => .refl⟩
        · obtain ⟨hBucket, hKeeps⟩ := promoteBucket_unmoved nowMs limit ids moved { s with scheduled }
          generalize promoteBucket nowMs limit ids moved { s with scheduled } = result at hBucket hKeeps ⊢
          obtain ⟨moved', left, passed⟩ := result
          obtain ⟨hLoop, hKeeps'⟩ := ih moved'
            (if left.isEmpty then passed else { passed with scheduled := (time, left) :: passed.scheduled })
          refine ⟨hBucket.trans hLoop, fun h => ?_⟩
          have hSame : moved' = moved := le_antisymm (h ▸ hLoop) hBucket
          have hFirst : KeepsEmpty s passed :=
            KeepsEmpty.trans (.of_queue fun p => by cases p <;> rfl) (hKeeps hSame)
          refine hFirst.trans (KeepsEmpty.trans ?_ (hKeeps' (h.trans hSame.symm)))
          split
          · exact .refl
          · exact .of_queue fun p => by cases p <;> rfl
    · exact ⟨le_rfl, fun _ => .refl⟩

theorem keepsEmpty_promoteScheduled {nowMs : UInt64} {limit : Nat} (h : (promoteScheduled s nowMs limit).1 = 0) :
    KeepsEmpty s (promoteScheduled s nowMs limit).2 :=
  (promoteLoop_unmoved nowMs limit s.scheduled.length 0 s).2 h

theorem requeueExpiredLeases_unmoved {order : List Id} {nowMs : UInt64}
    (h : (requeueExpiredLeases s order nowMs maintenanceTickLimit).1 = 0) :
    (requeueExpiredLeases s order nowMs maintenanceTickLimit).2 = s := by
  unfold requeueExpiredLeases at h ⊢
  dsimp only at h ⊢
  have hNone : sortExpired (order.filterMap (expiredLease s nowMs)) = [] := by
    rw [← List.length_eq_zero_iff]
    unfold maintenanceTickLimit at h
    omega
  rw [hNone]
  rfl

end EmptyQueues

section Leases

variable [DecidableEq Id] {s s' s'' : Inner P O Id} {id : Id}

def KeepsLeases (s s' : Inner P O Id) : Prop := ∀ id leaseToken attempt,
  runningLeaseMatches s id leaseToken attempt = true → runningLeaseMatches s' id leaseToken attempt = true

theorem KeepsLeases.refl : KeepsLeases s s := fun _ _ _ h => h

theorem KeepsLeases.trans (h : KeepsLeases s s') (h' : KeepsLeases s' s'') : KeepsLeases s s'' :=
  fun id leaseToken attempt hMatch => h' id leaseToken attempt (h id leaseToken attempt hMatch)

theorem KeepsLeases.of_stateOf
    (h : ∀ id leaseToken attempt, s.stateOf id = some (.running leaseToken attempt) → s'.stateOf id = s.stateOf id) :
    KeepsLeases s s' := by
  intro id leaseToken attempt hMatch
  unfold runningLeaseMatches at hMatch ⊢
  split at hMatch
  · rename_i currentLeaseToken currentAttempt hState
    rw [h id _ _ hState, hState]
    exact hMatch
  · cases hMatch

theorem KeepsLeases.of_tasks (h : s'.tasks = s.tasks) : KeepsLeases s s' :=
  .of_stateOf fun id _ _ _ => by rw [stateOf, h, stateOf]

theorem keepsLeases_attachGraph [ReadyQueueSort Id] [BEq P] {owner : RootOwner} {nodes : List (ExecutionNode P Id)}
    {outcome : AttachOutcome} (h : attachGraph s owner nodes = .ok (s', outcome)) : KeepsLeases s s' := by
  refine .of_stateOf fun id leaseToken attempt hState => ?_
  rw [stateOf, keepsLive_attachGraph h id (by rw [isLive, hState]; rfl), stateOf]

theorem keepsLeases_leased {id : Id} {record : TaskRecord P O Id} {storeLease : Nat} {leaseToken : String}
    {attempt : UInt32} {sequence nextSequence nowMs : UInt64} (hRecord : s.tasks.lookup id = some record)
    (hReady : record.state = .ready) :
    KeepsLeases s
      { s with nextSequence, tasks := s.tasks.insert id (record.leased storeLease leaseToken attempt sequence nowMs) } := by
  refine .of_stateOf fun other token attempt' hState => ?_
  have hNe : other ≠ id := by
    rintro rfl
    rw [stateOf, hRecord, Option.map_some, hReady] at hState
    cases hState
  rw [stateOf, stateOf, Table.lookup_insert_ite, if_neg hNe]

theorem keepsLeases_modify (f : TaskRecord P O Id → TaskRecord P O Id) (hState : ∀ record, (f record).state = record.state) :
    KeepsLeases s { s with tasks := s.tasks.modify id f } := by
  refine .of_stateOf fun other _ _ _ => ?_
  rw [stateOf, stateOf, Table.lookup_modify]
  split
  · rw [Option.map_map]
    exact Option.map_congr fun record _ => hState record
  · rfl

variable [ReadyQueueSort Id]

theorem keepsLeases_promoteScheduled {nowMs : UInt64} {limit : Nat} :
    KeepsLeases s (promoteScheduled s nowMs limit).2 := by
  refine promoteScheduled_keeps (fun _ _ h => h.trans (.of_tasks rfl)) ?_ .refl
  intro s' id record error attempt time hRecord hRetrying h
  refine h.trans (.of_stateOf fun other leaseToken attempt' hState => ?_)
  have hNe : other ≠ id := by
    rintro rfl
    rw [stateOf, hRecord, Option.map_some, hRetrying] at hState
    cases hState
  rw [stateOf, tasks_pushReadyLocked, lookup_setState, if_neg hNe, stateOf]

end Leases

section Steps

variable [DecidableEq Id] [ReadyQueueSort Id] [BEq P] {system : System P O Id} {event : Event P O Id} {storeLease : Nat}

theorem calls_step (h : event.isOperation = true) : (System.step storeLease system event).calls = system.calls := by
  cases event with
  | attach owner nodes =>
    unfold System.step
    dsimp only
    split <;> rfl
  | detach owner mode =>
    unfold System.step
    dsimp only
    split <;> rfl
  | complete lease result nowMs =>
    unfold System.step System.completeStep
    dsimp only
    split <;> rfl
  | checkpoint | renew => rfl
  | _ => cases h

theorem keepsEmpty_attachGraph {s s' : Inner P O Id} {owner : RootOwner} {nodes : List (ExecutionNode P Id)}
    {outcome : AttachOutcome} (hOk : attachGraph s owner nodes = .ok (s', outcome))
    (h : .readyOne ∉ signalsOf s (.attach owner nodes : Event P O Id)) : KeepsEmpty s s' := by
  rw [signalsOf, hOk] at h
  rcases attachGraph_cases s owner nodes with ⟨error, hError, -⟩ | ⟨graph, store, outcome', -, hAttaches, hOk', -⟩
  · cases hError.symm.trans hOk
  · cases hOk'.symm.trans hOk
    cases hAttaches with
    | fresh => exact absurd (by simp [notifyReadyWorkers]) h
    | @again _ _ reset _ _ _ hReset _ =>
      cases reset with
      | true => exact absurd (by simp [notifyReadyWorkers]) h
      | false =>
        -- without a task to reset the store is as it was
        unfold resetAttachedTerminalNodes at hReset
        dsimp only at hReset
        split at hReset
        · cases hReset
          exact .refl
        · obtain ⟨_, -, hReset⟩ := Outcome.bind_eq_ok_iff.mp hReset
          cases hReset

theorem keepsEmpty_step (hOperation : event.isOperation = true) (h : .readyOne ∉ signalsOf system.store event) :
    KeepsEmpty system.store (System.step storeLease system event).store := by
  have hMove := System.storeMove storeLease system event
  generalize System.step storeLease system event = system' at hMove ⊢
  obtain ⟨store, calls, usedTokens, granted, completed⟩ := system'
  cases hMove with
  | same => exact .refl
  | attach hOk => exact keepsEmpty_attachGraph hOk h
  | detach hOk => exact keepsEmpty_detachOwner hOk
  | complete hEq hDone =>
    refine keepsEmpty_completes hDone ?_
    rw [signalsOf, hEq] at h
    exact or_iff_not_imp_left.mpr fun hStale => by rwa [if_neg hStale] at h
  | checkpoint | renew => exact .of_queue fun p => by cases p <;> rfl
  | _ => cases hOperation

omit [DecidableEq Id] [ReadyQueueSort Id] [BEq P] in
theorem leaseWaiters_mem_completionSignals (lease : TaskLease P Id) (result : Except String O) (nowMs : UInt64) :
    .leaseWaiters ∈ completionSignals lease result nowMs := by
  unfold completionSignals
  split
  · simp
  · split
    · simp
    · split <;> simp

omit [ReadyQueueSort Id] [BEq P] in
theorem keepsLeases_detachOwner {s s' : Inner P O Id} {owner : RootOwner} {mode : DetachMode} {outcome : DetachOutcome Id}
    (hOk : detachOwner s owner mode = .ok (s', outcome)) (h : outcome.detached = false) : KeepsLeases s s' := by
  unfold detachOwner at hOk
  split at hOk
  · cases hOk
    exact .refl
  · split at hOk
    · cases hOk
      exact .refl
    · obtain ⟨_, hOk⟩ := Outcome.ensure_bind_eq_ok_iff.mp hOk
      cases hOk
      cases h

theorem keepsLeases_step (h : .leaseWaiters ∉ signalsOf system.store event)
    (hRequeue : ∀ nowMs order, event ≠ .requeue nowMs order) :
    KeepsLeases system.store (System.step storeLease system event).store := by
  have hMove := System.storeMove storeLease system event
  generalize System.step storeLease system event = system' at hMove ⊢
  obtain ⟨store, calls, usedTokens, granted, completed⟩ := system'
  cases hMove with
  | same => exact .refl
  | attach hOk => exact keepsLeases_attachGraph hOk
  | detach hOk =>
    rw [signalsOf, hOk] at h
    exact keepsLeases_detachOwner hOk (by simpa using h)
  | pop => exact .of_tasks (tasks_setQueue _ _ _)
  | take _ _ _ hRecord hReady => exact keepsLeases_leased hRecord hReady
  | complete hEq hDone =>
    rw [signalsOf, hEq] at h
    split at h
    · cases hDone with
      | stale => exact .refl
      | _ => contradiction
    · exact absurd (leaseWaiters_mem_completionSignals _ _ _) h
  | checkpoint | renew => exact keepsLeases_modify _ fun _ => rfl
  | promote => exact keepsLeases_promoteScheduled
  | requeue nowMs order => exact absurd rfl (hRequeue nowMs order)

end Steps

end Raiko2.Queue
