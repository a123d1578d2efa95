import Raiko2.Lib.Run
import Raiko2.Runtime.StateManager

/-!
# Runs of the runtime state

Any number of calls on one manager and one register, in any order of their moves, with the events of the environment:
writes that take effect or are refused, writes and deletions of other processes, calls that are dropped, and the two
stages of a shutdown. The logs of commits and returns are written and never read.
-/

namespace Raiko2.Runtime

open Lib

variable {S B T : Type}

structure Acquired (S B : Type) where
  durable : Option (B × Int64)
  state : S
  generation : Option Int64
  coherence : StateCoherence

inductive Call (S B T : Type) where
  | mutate (request : Mutation S T) (acquired : Option (Acquired S B)) (point : MutatePoint S B T)
  | checkReadiness (point : ReadinessPoint S B)

def MutatePoint.openWrite : MutatePoint S B T → Option (Attempt S B T)
  | .writing a => some a
  | .written a _ => some a
  | .readingBack a _ => some a
  | .readBack a _ _ => some a
  | .installing a _ => some a
  | _ => none

def Call.openWrite : Call S B T → Option (Attempt S B T)
  | .mutate _ _ point => point.openWrite
  | .checkReadiness _ => none

def Call.writing : Call S B T → Option Nat
  | .mutate _ _ (.writing a) => some a.write
  | _ => none

structure Commit (S B T : Type) where
  write : Write S B T
  replaced : Option (B × Int64)
  generation : Int64

structure Return (S B T : Type) where
  call : Nat
  request : Mutation S T
  acquired : Option (Acquired S B)
  result : Except ErrorChain T
  durable : Option (B × Int64)
  manager : Manager S

structure StateSystem (S B T : Type) where
  manager : Manager S
  register : Versioned B Int64
  writes : List (Write S B T) := []
  lock : Option Nat := none
  calls : Table Nat (Call S B T) := ∅
  nextCall : Nat := 0
  commits : List (Commit S B T) := []
  returns : List (Return S B T) := []

inductive StateEvent (S B T : Type) where
  | mutate (request : Mutation S T)
  | checkReadiness
  | move (call : Nat) (choice : Choice)
  | drop (call : Nat)
  | commit (write : Nat) (generation : Int64)
  | refuse (write : Nat)
  | foreign (value : Option (B × Int64))
  | startDraining
  | deactivate

namespace StateSystem

variable (s : StateSystem S B T)

def view : View S B T := ⟨s.manager, s.register, s.writes, s.lock⟩

def start (call : Call S B T) : StateSystem S B T :=
  { s with calls := s.calls.insert s.nextCall call, nextCall := s.nextCall + 1 }

def endCall (call : Nat) : StateSystem S B T :=
  { s with calls := s.calls.erase call, lock := if s.lock = some call then none else s.lock }

def acquired : Acquired S B := ⟨s.register.current, s.manager.state, s.manager.generation, s.manager.coherence⟩

def applyMutate (call : Nat) (request : Mutation S T) (acquired : Option (Acquired S B)) :
    Move S B T (MutatePoint S B T) T → StateSystem S B T
  | .wait => s
  | .goto point => { s with calls := s.calls.insert call (.mutate request acquired point) }
  | .acquire point =>
    { s with lock := some call, calls := s.calls.insert call (.mutate request (some s.acquired) point) }
  | .update manager point => { s with manager, calls := s.calls.insert call (.mutate request acquired point) }
  | .write base a point =>
    { s with
      writes := s.writes ++ [{ call, request, base, attempt := a }]
      calls := s.calls.insert call (.mutate request acquired point) }
  | .finish manager result =>
    endCall { s with
      manager
      returns := ⟨call, request, acquired, result, s.register.current, manager⟩ :: s.returns } call

def applyReadiness (call : Nat) : Move S B T (ReadinessPoint S B) Unit → StateSystem S B T
  | .wait => s
  | .goto point => { s with calls := s.calls.insert call (.checkReadiness point) }
  | .acquire point => { s with lock := some call, calls := s.calls.insert call (.checkReadiness point) }
  | .update manager point => { s with manager, calls := s.calls.insert call (.checkReadiness point) }
  | .write _ _ _ => s
  | .finish manager _ => endCall { s with manager } call

/-- The conditional write of the store: it takes effect if the register still has the expected generation. -/
def commitWrite (write : Nat) (generation : Int64) : StateSystem S B T :=
  match s.writes[write]? with
  | some w =>
    if w.outcome = .pending ∧ s.register.version = w.attempt.expected then
      { s with
        register := s.register.put (some (w.attempt.bytes, generation))
        writes := s.writes.set write { w with outcome := .committed generation }
        commits := ⟨w, s.register.current, generation⟩ :: s.commits }
    else s
  | none => s

def refuseWrite (write : Nat) : StateSystem S B T :=
  match s.writes[write]? with
  | some w =>
    if w.outcome = .pending ∧ s.register.version ≠ w.attempt.expected then
      { s with writes := s.writes.set write { w with outcome := .refused } }
    else s
  | none => s

def moveCall [DecidableEq S] [DecidableEq B] (codec : StateCodec S B) (call : Nat) (choice : Choice) :
    StateSystem S B T :=
  match s.calls.lookup call with
  | some (.mutate request acquired point) =>
    s.applyMutate call request acquired (mutateMove codec s.view request choice point)
  | some (.checkReadiness point) => s.applyReadiness call (readinessMove codec s.view choice point)
  | none => s

def step [DecidableEq S] [DecidableEq B] (codec : StateCodec S B) (s : StateSystem S B T) :
    StateEvent S B T → StateSystem S B T
  | .mutate request => s.start (.mutate request none .entry)
  | .checkReadiness => s.start (.checkReadiness .entry)
  | .move call choice => s.moveCall codec call choice
  | .drop call => s.endCall call
  | .commit write generation => s.commitWrite write generation
  | .refuse write => s.refuseWrite write
  | .foreign value => { s with register := s.register.put value }
  | .startDraining => { s with manager := { s.manager with draining := true } }
  | .deactivate => { s with manager := { s.manager with active := false } }

/-- Generations are not used twice. Nothing else restricts the order of events. -/
def Allowed : StateEvent S B T → Prop
  | .commit _ generation => s.register.Fresh generation
  | .foreign (some value) => s.register.Fresh value.2
  | _ => True

instance (event : StateEvent S B T) : Decidable (s.Allowed event) := by
  unfold Allowed
  split <;> infer_instance

def Writing (write : Nat) : Prop := ∃ call ∈ s.calls.keys, (s.calls.lookup call).bind Call.writing = some write

/-- Only this process writes, no call is dropped once it has started a write, and a write takes effect before its
answer or not at all. -/
def AllowedAlone : StateEvent S B T → Prop
  | .commit write generation => s.register.Fresh generation ∧ s.Writing write
  | .foreign _ => False
  | .drop call => (((s.calls.lookup call).bind Call.openWrite).isNone : Bool)
  | _ => True

instance (event : StateEvent S B T) : Decidable (s.AllowedAlone event) := by
  unfold AllowedAlone Writing
  split <;> infer_instance

def AllowedDropping : StateEvent S B T → Prop
  | .drop _ => True
  | event => s.AllowedAlone event

instance (event : StateEvent S B T) : Decidable (s.AllowedDropping event) := by
  unfold AllowedDropping
  split <;> infer_instance

end StateSystem

end Raiko2.Runtime
