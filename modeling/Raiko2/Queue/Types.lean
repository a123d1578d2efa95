import Mathlib.Data.Finset.Basic
import Raiko2.Lib.BigEndian
import Raiko2.Lib.Outcome
import Raiko2.Lib.Table
import Raiko2.Lib.Word

/-!
# Task queue data

Tasks, their states and policies, the nodes of an execution graph and the contents of the in-memory store.
Durations are in nanoseconds; a duration is cut to milliseconds where the code does so.
-/

namespace Raiko2.Queue

open Lib

structure RootOwner where
  taskId : String
  incarnationId : BitVec 128
  deriving DecidableEq, Repr

inductive Priority where
  | high
  | medium
  | low
  deriving DecidableEq, Repr

inductive RetryPolicy where
  | none
  | fixed (maxAttempts : UInt32) (delay : Nat)
  | exponential (maxAttempts : UInt32) (baseDelay maxDelay : Nat)
  deriving DecidableEq, Repr

/-- `as_millis`, cut to 64 bits. -/
def durationMillis (duration : Nat) : UInt64 := UInt64.ofNat (min (duration / 1000000) (2 ^ 64 - 1))

/-- `1u64.checked_shl`, with the largest value where the shift is too wide. -/
def shiftFactor (exponent : UInt32) : Nat := if exponent.toNat < 64 then 2 ^ exponent.toNat else 2 ^ 64 - 1

def RetryPolicy.retryDelay (policy : RetryPolicy) (attempt : UInt32) : Option Nat :=
  match policy with
  | .none => Option.none
  | .fixed maxAttempts delay => if attempt ≥ maxAttempts then Option.none else some delay
  | .exponential maxAttempts baseDelay maxDelay =>
    if attempt ≥ maxAttempts then Option.none
    else
      let exponent := if attempt = 0 then 0 else attempt - 1
      let product := min ((durationMillis baseDelay).toNat * shiftFactor exponent) (2 ^ 64 - 1)
      some (min product (durationMillis maxDelay).toNat * 1000000)

structure TaskExecutionPolicy where
  leaseDuration : Nat
  retry : RetryPolicy
  deriving DecidableEq, Repr

def TaskExecutionPolicy.failureIsTerminal (policy : TaskExecutionPolicy) (attempt : UInt32) : Bool :=
  (policy.retry.retryDelay attempt).isNone

inductive TaskState (O Id : Type) where
  | pending (remainingDeps : Nat)
  | ready
  | running (leaseToken : String) (attempt : UInt32)
  | retrying (error : String) (attempt : UInt32) (nextReadyAtMs : UInt64)
  | succeeded (output : O)
  | failed (error : String) (causedByDep : Option Id)
  | cancelled
  deriving DecidableEq, Repr

structure NewTask (P : Type) where
  priority : Priority
  payload : P
  deriving DecidableEq, Repr

structure ExecutionNode (P Id : Type) where
  id : Id
  task : NewTask P
  dependencies : List Id
  executionPolicy : TaskExecutionPolicy
  deriving DecidableEq, Repr

structure TaskLease (P Id : Type) where
  id : Id
  payload : P
  priority : Priority
  attempt : UInt32
  leaseToken : String
  worker : String
  executionPolicy : TaskExecutionPolicy
  deriving DecidableEq, Repr

inductive AttachOutcome where
  | attached
  | alreadyAttached
  deriving DecidableEq, Repr

inductive DetachMode where
  | cancel
  | remove
  deriving DecidableEq, Repr

structure DetachOutcome (Id : Type) where
  detached : Bool
  mode : DetachMode
  retired : List Id
  retained : List Id
  deriving DecidableEq, Repr

/-- The variants of the store error that the in-memory store returns. -/
inductive TaskStoreError where
  | corruptData (message : String)
  | invalidGraph (message : String)
  | conflict (message : String)
  deriving DecidableEq, Repr

class ReadyQueueSort (Id : Type) where
  readyQueueSortPrefix : Id → List UInt8
  cmpForReadyQueue : Id → Id → Ordering := fun a b =>
    List.compareLex compare (readyQueueSortPrefix a) (readyQueueSortPrefix b)

instance : ReadyQueueSort UInt64 where
  readyQueueSortPrefix id := beBytes 8 id.toNat ++ List.replicate 8 0

structure TaskRecord (P O Id : Type) where
  definitionPayload : P
  definitionExecutionPolicy : TaskExecutionPolicy
  payload : Option P
  state : TaskState O Id
  priority : Priority
  attempt : UInt32
  leaseUntilMs : Option UInt64
  leaseSequence : UInt64
  executionPolicy : TaskExecutionPolicy
  dependencies : List Id
  deriving DecidableEq, Repr

structure OwnerGraph (Id : Type) where
  taskIds : List Id
  attached : Bool
  deriving DecidableEq, Repr

/-- The contents of the store. `scheduled` is a map from times to queues, as the list of its entries in key
order; no queue in it is empty. -/
structure Inner (P O Id : Type) where
  tasks : Table Id (TaskRecord P O Id) := ∅
  dependents : Table Id (List Id) := ∅
  remaining : Table Id Nat := ∅
  readyHigh : List Id := []
  readyMed : List Id := []
  readyLow : List Id := []
  scheduled : List (UInt64 × List Id) := []
  ownerGraphs : Table RootOwner (OwnerGraph Id) := ∅
  taskOwners : Table Id (Finset RootOwner) := ∅
  nextSequence : UInt64 := 0

variable {P O Id : Type}

def TaskState.isTerminal : TaskState O Id → Bool
  | .succeeded _ => true
  | .failed _ _ => true
  | .cancelled => true
  | _ => false

def TaskState.isSucceeded : TaskState O Id → Bool
  | .succeeded _ => true
  | _ => false

def TaskState.isLost : TaskState O Id → Bool
  | .failed _ _ => true
  | .cancelled => true
  | _ => false

/-- Ready, running or waiting for a retry: the states of a task whose dependencies are met. -/
def TaskState.isReleased : TaskState O Id → Bool
  | .ready => true
  | .running _ _ => true
  | .retrying _ _ _ => true
  | _ => false

end Raiko2.Queue
