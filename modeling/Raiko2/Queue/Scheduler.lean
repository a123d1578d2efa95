import Raiko2.Queue.Store

/-!
# The scheduler and its clients

The calls of any number of clients as steps on one store. A call takes the lock of the store for every step by
itself, so that the steps of different calls come in any order; `next_ready` takes it twice for each task it tries.
The two logs record the leases handed out and the completions that had an effect. No step reads them.
-/

namespace Raiko2.Queue

open Lib

variable {P O Id : Type} [DecidableEq Id] [ReadyQueueSort Id]

inductive TaskCompletionDisposition where
  | succeeded
  | retrying
  | failed
  | stale
  deriving DecidableEq, Repr

inductive RetrySchedule where
  | now
  | at (nextReadyAtMs : UInt64)
  deriving DecidableEq, Repr

def retrySchedule (delay : Nat) (nowMs : UInt64) : RetrySchedule :=
  if delay = 0 then .now else .at (U64.saturatingAdd nowMs (durationMillis delay))

def dispositionOf (applied : TaskCompletionDisposition) (updated : Bool) : TaskCompletionDisposition :=
  if updated then applied else .stale

def completeSuccess (s : Inner P O Id) (lease : TaskLease P Id) (output : O) : Inner P O Id × Bool :=
  completeSuccessAndReleaseDependentsIfRunning s lease.id lease.leaseToken lease.attempt output

def failCompletedLease (s : Inner P O Id) (lease : TaskLease P Id) (error : String) : Inner P O Id × Bool :=
  completeFailureAndFailDependentsIfRunning s lease.id lease.leaseToken lease.attempt error "dependency failed"

def retryNow (s : Inner P O Id) (lease : TaskLease P Id) : Inner P O Id × Bool :=
  retryNowIfRunning s lease.id lease.leaseToken lease.attempt lease.priority lease.payload

def retryLater (s : Inner P O Id) (lease : TaskLease P Id) (error : String) (nextReadyAtMs : UInt64) :
    Inner P O Id × Bool :=
  retryLaterIfRunning s lease.id lease.leaseToken lease.attempt error lease.payload nextReadyAtMs

def completeFailure (s : Inner P O Id) (lease : TaskLease P Id) (error : String) (nowMs : UInt64) :
    Inner P O Id × TaskCompletionDisposition :=
  match lease.executionPolicy.retry.retryDelay lease.attempt with
  | none =>
    let (s, updated) := failCompletedLease s lease error
    (s, dispositionOf .failed updated)
  | some delay =>
    let (s, updated) := match retrySchedule delay nowMs with
      | .now => retryNow s lease
      | .at nextReadyAtMs => retryLater s lease error nextReadyAtMs
    (s, dispositionOf .retrying updated)

def completeWithDisposition (s : Inner P O Id) (lease : TaskLease P Id) (result : Except String O)
    (nowMs : UInt64) : Inner P O Id × TaskCompletionDisposition :=
  match result with
  | .ok output =>
    let (s, updated) := completeSuccess s lease output
    (s, dispositionOf .succeeded updated)
  | .error error => completeFailure s lease error nowMs

def checkpointPayload (s : Inner P O Id) (lease : TaskLease P Id) (payload : P)
    (executionPolicy : TaskExecutionPolicy) : Inner P O Id × Bool :=
  checkpointPayloadIfRunning s lease.id lease.leaseToken lease.attempt payload executionPolicy

def renewTaskLease (s : Inner P O Id) (storeLease : Nat) (lease : TaskLease P Id) (nowMs : UInt64) :
    Inner P O Id × Bool :=
  renewLease s storeLease lease.id lease.leaseToken lease.attempt nowMs

def maintenanceTickLimit : Nat := 128

/-- A `next_ready` call under way: the priority it looks at, the token made for it, and the task that it has taken
from the ready queue and not yet leased. -/
structure NextReadyCall (Id : Type) where
  worker : String
  priority : Priority
  leaseToken : String
  popped : Option Id
  deriving DecidableEq, Repr

def formatLeaseToken (worker uuid : String) : String := worker ++ "/" ++ uuid

def Priority.next : Priority → Option Priority
  | .high => some .medium
  | .medium => some .low
  | .low => none

structure System (P O Id : Type) where
  store : Inner P O Id := {}
  calls : Table Nat (NextReadyCall Id) := ∅
  usedTokens : List String := []
  granted : List (TaskLease P Id) := []
  completed : List (TaskLease P Id × Except String O) := []

/-- The store steps of the clients. A step of a call of `next_ready` names the call. -/
inductive Event (P O Id : Type) where
  | attach (owner : RootOwner) (nodes : List (ExecutionNode P Id))
  | detach (owner : RootOwner) (mode : DetachMode)
  | startNextReady (call : Nat) (worker uuid : String)
  | popReady (call : Nat) (uuid : String)
  | takeReady (call : Nat) (nowMs : UInt64)
  | complete (lease : TaskLease P Id) (result : Except String O) (nowMs : UInt64)
  | checkpoint (lease : TaskLease P Id) (payload : P) (executionPolicy : TaskExecutionPolicy)
  | renew (lease : TaskLease P Id) (nowMs : UInt64)
  | promote (nowMs : UInt64)
  | requeue (nowMs : UInt64) (order : List Id)

/-- A lease in the hands of a client: the one that `next_ready` returned, up to the payload and the policy, which a
worker changes before it completes the lease. -/
def TaskLease.SameGrant (lease granted : TaskLease P Id) : Prop :=
  lease.id = granted.id ∧ lease.leaseToken = granted.leaseToken ∧ lease.attempt = granted.attempt ∧
    lease.priority = granted.priority

instance (lease granted : TaskLease P Id) : Decidable (lease.SameGrant granted) := by
  unfold TaskLease.SameGrant
  infer_instance

namespace System

/-- When a step can come: tokens are not made twice, a call takes its steps in turn, only leases that were handed
out are used, and a map is iterated over its keys. -/
def Allowed (s : System P O Id) : Event P O Id → Prop
  | .startNextReady call worker uuid =>
    s.calls.lookup call = none ∧ formatLeaseToken worker uuid ∉ s.usedTokens
  | .popReady call uuid =>
    (s.calls.lookup call).any fun c => c.popped.isNone && decide (formatLeaseToken c.worker uuid ∉ s.usedTokens)
  | .takeReady call _ => (s.calls.lookup call).any (·.popped.isSome)
  | .complete lease _ _ => ∃ granted ∈ s.granted, lease.SameGrant granted
  | .checkpoint lease _ _ => ∃ granted ∈ s.granted, lease.SameGrant granted
  | .renew lease _ => ∃ granted ∈ s.granted, lease.SameGrant granted
  | .requeue _ order => order.Perm s.store.tasks.keys
  | _ => True

instance (s : System P O Id) (event : Event P O Id) : Decidable (s.Allowed event) := by
  cases event <;> unfold Allowed <;> infer_instance

def startNextReady (s : System P O Id) (call : Nat) (worker uuid : String) : System P O Id :=
  let leaseToken := formatLeaseToken worker uuid
  { s with
    calls := s.calls.insert call ⟨worker, .high, leaseToken, none⟩
    usedTokens := leaseToken :: s.usedTokens }

/-- An empty queue sends the call on to the next priority, with a new token, and ends it after the last one. -/
def popStep (s : System P O Id) (call : Nat) (c : NextReadyCall Id) (uuid : String) : System P O Id :=
  match Queue.popReady s.store c.priority with
  | (some id, store) => { s with store, calls := s.calls.insert call { c with popped := some id } }
  | (none, store) =>
    match c.priority.next with
    | none => { s with store, calls := s.calls.erase call }
    | some priority =>
      let leaseToken := formatLeaseToken c.worker uuid
      { s with
        store
        calls := s.calls.insert call ⟨c.worker, priority, leaseToken, none⟩
        usedTokens := leaseToken :: s.usedTokens }

/-- A task that cannot be leased any more sends the call back to its queue. -/
def takeStep (storeLease : Nat) (s : System P O Id) (call : Nat) (c : NextReadyCall Id) (id : Id)
    (nowMs : UInt64) : System P O Id :=
  match takeReadyLocked s.store storeLease id c.leaseToken nowMs with
  | (some (payload, priority, attempt, executionPolicy), store) =>
    { s with
      store
      calls := s.calls.erase call
      granted := ⟨id, payload, priority, attempt, c.leaseToken, c.worker, executionPolicy⟩ :: s.granted }
  | (none, store) => { s with store, calls := s.calls.insert call { c with popped := none } }

def completeStep (s : System P O Id) (lease : TaskLease P Id) (result : Except String O) (nowMs : UInt64) :
    System P O Id :=
  match completeWithDisposition s.store lease result nowMs with
  | (store, .stale) => { s with store }
  | (store, _) => { s with store, completed := (lease, result) :: s.completed }

/-- The state after a step. An attach or detach that returns an error leaves the store as it was. -/
def step [BEq P] (storeLease : Nat) (s : System P O Id) : Event P O Id → System P O Id
  | .attach owner nodes =>
    match attachGraph s.store owner nodes with
    | .ok (store, _) => { s with store }
    | _ => s
  | .detach owner mode =>
    match detachOwner s.store owner mode with
    | .ok (store, _) => { s with store }
    | _ => s
  | .startNextReady call worker uuid => s.startNextReady call worker uuid
  | .popReady call uuid =>
    match s.calls.lookup call with
    | some c => s.popStep call c uuid
    | none => s
  | .takeReady call nowMs =>
    match s.calls.lookup call with
    | some c =>
      match c.popped with
      | some id => takeStep storeLease s call c id nowMs
      | none => s
    | none => s
  | .complete lease result nowMs => s.completeStep lease result nowMs
  | .checkpoint lease payload executionPolicy =>
    { s with store := (checkpointPayload s.store lease payload executionPolicy).1 }
  | .renew lease nowMs => { s with store := (renewTaskLease s.store storeLease lease nowMs).1 }
  | .promote nowMs => { s with store := (promoteScheduled s.store nowMs maintenanceTickLimit).2 }
  | .requeue nowMs order =>
    { s with store := (requeueExpiredLeases s.store order nowMs maintenanceTickLimit).2 }

def Popped (s : System P O Id) (id : Id) : Prop := ∃ call c, s.calls.lookup call = some c ∧ c.popped = some id

end System

end Raiko2.Queue
