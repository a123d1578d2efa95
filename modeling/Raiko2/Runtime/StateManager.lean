import Raiko2.Lib.Table
import Raiko2.Lib.Versioned

/-!
# The authoritative runtime state

The manager keeps a copy of a state document that lives in an object store, with the generation of the object, and
changes the document by conditional writes. A call is cut at its await points and wherever another thread can close
the lifecycle; what lies between two cuts is one move. The store answers with the true result or with an error, and a
write takes effect on its own, before or after the call has its answer.
-/

namespace Raiko2.Runtime

open Lib

abbrev ErrorChain := List String

inductive StateCoherence where
  | coherent
  | recoverable
  | violated
  deriving DecidableEq, Repr

structure RuntimeStateObject (B : Type) where
  bytes : B
  generation : Option Int64
  deriving DecidableEq

inductive RuntimeStateWriteResult (B : Type) where
  | stored (generation : Option Int64)
  | conflict (observed : Option (RuntimeStateObject B))

/-- The document as bytes. `encode` depends on the order in which the hash maps of the state are iterated, which its
first argument stands for; `forget` drops the retention marks, which are not written. -/
structure StateCodec (S B : Type) where
  default : S
  encode : Nat → S → B
  decode : B → Except String S
  validateRuntimeState : S → Except String Unit
  forget : S → S
  decode_encode : ∀ layout state, decode (encode layout state) = .ok (forget state)
  forget_forget : ∀ state, forget (forget state) = forget state
  validate_forget : ∀ state, validateRuntimeState state = .ok () → validateRuntimeState (forget state) = .ok ()

structure CheckpointPermit where
  sameRuntime : Bool
  deriving DecidableEq, Repr

structure Manager (S : Type) where
  state : S
  generation : Option Int64 := none
  coherence : StateCoherence := .coherent
  active : Bool := true
  draining : Bool := false
  initialized : Bool := false

variable {S B T : Type}

namespace Manager

variable (m : Manager S)

def ensureActiveLifecycle : Except ErrorChain Unit :=
  if m.active && !m.draining then .ok () else .error ["runtime is draining"]

def ensureActive : Except ErrorChain Unit := do
  m.ensureActiveLifecycle
  if m.coherence = .coherent then .ok ()
  else .error ["runtime state generation is not coherent with the authoritative store"]

def ensureCheckpointWriteAllowed (permit : CheckpointPermit) : Except ErrorChain Unit :=
  if m.active = false then .error ["runtime checkpoint deadline elapsed"]
  else if m.coherence = .violated then .error ["runtime state generation invariant was violated"]
  else if permit.sameRuntime = false then .error ["submission checkpoint permit belongs to another runtime"]
  else .ok ()

def ensureAuthoritativeWriteAllowed : Option CheckpointPermit → Except ErrorChain Unit
  | some permit => m.ensureCheckpointWriteAllowed permit
  | none => m.ensureActive

def markStateCoherenceRecoverable : Manager S := { m with coherence := .recoverable }

def violate : Manager S := { m with coherence := .violated }

def ensureInFlightWriteAllowed (permit : Option CheckpointPermit) (context : String) :
    Manager S × Except ErrorChain Unit :=
  match m.ensureAuthoritativeWriteAllowed permit with
  | .error error => (m.markStateCoherenceRecoverable, .error (context :: error))
  | .ok () => (m, .ok ())

/-- The copy and its generation are replaced together, under the lock that also guards `active`. -/
def install (state : S) (generation : Option Int64) : Manager S := { m with state, generation, coherence := .coherent }

def installRuntimeState (state : S) (generation : Option Int64) : Except ErrorChain (Manager S) :=
  if m.active then .ok (m.install state generation)
  else .error ["runtime became inactive before authoritative state was installed locally"]

def installCheckpointedRuntimeState (state : S) (generation : Option Int64) (permit : Option CheckpointPermit) :
    Manager S × Except ErrorChain Unit :=
  match m.ensureAuthoritativeWriteAllowed permit with
  | .error error =>
    (m.markStateCoherenceRecoverable,
      .error ("runtime lifecycle closed before authoritative state was installed locally" :: error))
  | .ok () => (m.install state generation, .ok ())

end Manager

/-- The state and generation that a loaded object stands for; no object stands for the default state. -/
def readRuntimeStateObject (codec : StateCodec S B) :
    Option (RuntimeStateObject B) → Except ErrorChain (S × Option Int64)
  | some stored =>
    match codec.decode stored.bytes with
    | .error error => .error ["decode authoritative runtime store state", error]
    | .ok state =>
      match codec.validateRuntimeState state with
      | .error error => .error [error]
      | .ok () => .ok (state, stored.generation)
  | none => .ok (codec.default, none)

def Manager.installRuntimeStateObject (codec : StateCodec S B) (m : Manager S)
    (stored : Option (RuntimeStateObject B)) : Except ErrorChain (Manager S) := do
  let (state, generation) ← readRuntimeStateObject codec stored
  m.installRuntimeState state generation

/-- `initialize`, with what it loads from the store. -/
def Manager.initializeRuntime (codec : StateCodec S B) (m : Manager S) (stored : Option (RuntimeStateObject B)) :
    Except ErrorChain (Manager S) := do
  if m.initialized then .error ["runtime is already initialized"]
  let m ← m.installRuntimeStateObject codec stored
  pure { m with initialized := true }

def runtimeGenerationIsUnchanged (observed : Option (RuntimeStateObject B)) (expected : Option Int64) : Bool :=
  match observed with
  | some observed => observed.generation = expected
  | none => expected.isNone

section Calls

/-- A request to change the state. The closure is run once for every attempt; what it reads besides the state (the
clock, fresh identifiers) may differ from run to run. -/
structure Mutation (S T : Type) where
  update : Nat → S → Except ErrorChain (S × T)
  permit : Option CheckpointPermit

structure Attempt (S B T : Type) where
  attempt : Nat
  next : S
  output : T
  bytes : B
  expected : Option Int64
  write : Nat

inductive MutatePoint (S B T : Type) where
  | entry
  | fence
  | fenced
  | waiting
  | locked
  | reloading
  | reloaded (state : S) (generation : Option Int64)
  | attempting (attempt : Nat)
  | reading (attempt : Nat)
  | writing (a : Attempt S B T)
  | written (a : Attempt S B T) (result : Except ErrorChain (RuntimeStateWriteResult B))
  | readingBack (a : Attempt S B T) (error : ErrorChain)
  | readBack (a : Attempt S B T) (error : ErrorChain) (observed : Option (RuntimeStateObject B))
  | installing (a : Attempt S B T) (generation : Option Int64)

inductive ReadinessPoint (S B : Type) where
  | entry
  | waiting
  | locked
  | loading
  | loaded (stored : Option (RuntimeStateObject B))
  | installing (state : S) (generation : Option Int64)
  | final

inductive WriteOutcome where
  | pending
  | committed (generation : Int64)
  | refused
  deriving DecidableEq, Repr

structure Write (S B T : Type) where
  call : Nat
  request : Mutation S T
  base : S
  attempt : Attempt S B T
  outcome : WriteOutcome := .pending

/-- The answer of the environment to a move: whether the store, or the fence, gives the call what it asks for, the
error it gives otherwise, and the order of the maps when the state is encoded. -/
structure Choice where
  ok : Bool := true
  error : ErrorChain := []
  layout : Nat := 0
  deriving DecidableEq, Repr

inductive Move (S B T P : Type) (R : Type) where
  | wait
  | goto (point : P)
  | acquire (point : P)
  | update (manager : Manager S) (point : P)
  | write (base : S) (a : Attempt S B T) (point : P)
  | finish (manager : Manager S) (result : Except ErrorChain R)

structure View (S B T : Type) where
  manager : Manager S
  register : Versioned B Int64
  writes : List (Write S B T)
  lock : Option Nat

def registerObject (r : Versioned B Int64) : Option (RuntimeStateObject B) :=
  r.current.map fun value => ⟨value.1, some value.2⟩

def loadRuntimeState (view : View S B T) (choice : Choice) : Except ErrorChain (Option (RuntimeStateObject B)) :=
  if choice.ok then .ok (registerObject view.register) else .error choice.error

/-- The answer to a write: an error, or the true result once there is one. A refused write is answered with the object
that is there when the answer is made. -/
def storeRuntimeState (view : View S B T) (a : Attempt S B T) (choice : Choice) :
    Option (Except ErrorChain (RuntimeStateWriteResult B)) :=
  if choice.ok then
    match view.writes[a.write]?.map Write.outcome with
    | some (.committed generation) => some (.ok (.stored (some generation)))
    | some .refused => some (.ok (.conflict (registerObject view.register)))
    | _ => none
  else some (.error choice.error)

def maxAttempts : Nat := 3

def acquireOr {P R : Type} (view : View S B T) (point : P) : Move S B T P R :=
  if view.lock = none then .acquire point else .wait

variable [DecidableEq S] [DecidableEq B]

def rejectForeignRuntimeState (view : View S B T) : Move S B T (MutatePoint S B T) T :=
  .finish view.manager.violate
    (.error ["runtime state generation changed during mutation; refusing foreign state"])

def attemptMove (codec : StateCodec S B) (view : View S B T) (request : Mutation S T) (attempt : Nat)
    (choice : Choice) : Move S B T (MutatePoint S B T) T :=
  let current := view.manager.state
  match request.update attempt current with
  | .error error => .finish view.manager (.error error)
  | .ok (next, output) =>
    match codec.validateRuntimeState next with
    | .error error => .finish view.manager (.error [error])
    | .ok () =>
      if next = current then .finish view.manager (.ok output)
      else
        let a := ⟨attempt, next, output, codec.encode choice.layout next, view.manager.generation, view.writes.length⟩
        .write current a (.writing a)

def writtenMove (view : View S B T) (a : Attempt S B T) :
    Except ErrorChain (RuntimeStateWriteResult B) → Move S B T (MutatePoint S B T) T
  | .ok (.stored generation) => .goto (.installing a generation)
  | .ok (.conflict (some observed)) =>
    if observed.bytes = a.bytes then .goto (.installing a observed.generation) else rejectForeignRuntimeState view
  | .ok (.conflict none) => rejectForeignRuntimeState view
  | .error error => .goto (.readingBack a error)

def readBackMove (view : View S B T) (a : Attempt S B T) (error : ErrorChain)
    (observed : Option (RuntimeStateObject B)) : Move S B T (MutatePoint S B T) T :=
  match observed.filter (·.bytes = a.bytes) with
  | some observed => .goto (.installing a observed.generation)
  | none =>
    if runtimeGenerationIsUnchanged observed a.expected then
      if a.attempt < maxAttempts then .goto (.attempting (a.attempt + 1))
      else
        .finish view.manager.markStateCoherenceRecoverable
          (.error ("runtime state write failed before commit" :: error))
    else
      .finish view.manager.violate
        (.error ("runtime state write outcome conflicted with authoritative read-back" :: error))

def orElseFinish {P R : Type} (view : View S B T) (check : Except ErrorChain Unit) (next : Move S B T P R) :
    Move S B T P R :=
  match check with
  | .error error => .finish view.manager (.error error)
  | .ok () => next

def orElseRecover {R : Type} (check : Manager S × Except ErrorChain Unit)
    (next : Move S B T (MutatePoint S B T) R) : Move S B T (MutatePoint S B T) R :=
  match check with
  | (manager, .error error) => .finish manager (.error error)
  | (_, .ok ()) => next

def mutateMove (codec : StateCodec S B) (view : View S B T) (request : Mutation S T) (choice : Choice) :
    MutatePoint S B T → Move S B T (MutatePoint S B T) T
  | .entry => orElseFinish view (view.manager.ensureAuthoritativeWriteAllowed request.permit) (.goto .fence)
  | .fence =>
    if request.permit.isSome || choice.ok then .goto .fenced
    else .finish view.manager (.error ("runtime is draining" :: choice.error))
  | .fenced => orElseFinish view (view.manager.ensureAuthoritativeWriteAllowed request.permit) (.goto .waiting)
  | .waiting => acquireOr view .locked
  | .locked =>
    if request.permit.isSome ∧ view.manager.coherence = .recoverable then .goto .reloading else .goto (.attempting 1)
  | .reloading =>
    match loadRuntimeState view choice >>= readRuntimeStateObject codec with
    | .error error =>
      .finish view.manager (.error ("reload authoritative runtime state for checkpoint retry" :: error))
    | .ok (state, generation) => .goto (.reloaded state generation)
  | .reloaded state generation =>
    match view.manager.installRuntimeState state generation with
    | .error error =>
      .finish view.manager (.error ("reload authoritative runtime state for checkpoint retry" :: error))
    | .ok manager => .update manager (.attempting 1)
  | .attempting attempt =>
    orElseFinish view (view.manager.ensureAuthoritativeWriteAllowed request.permit) (.goto (.reading attempt))
  | .reading attempt => attemptMove codec view request attempt choice
  | .writing a =>
    match storeRuntimeState view a choice with
    | none => .wait
    | some result => .goto (.written a result)
  | .written a result =>
    orElseRecover
      (view.manager.ensureInFlightWriteAllowed request.permit
        "runtime lifecycle closed while authoritative state write was in flight")
      (writtenMove view a result)
  | .readingBack a error =>
    match loadRuntimeState view choice with
    | .error readError =>
      .finish view.manager.markStateCoherenceRecoverable
        (.error (("runtime state write outcome is unknown and read-back failed: " ++
          String.intercalate ": " readError) :: error))
    | .ok observed => .goto (.readBack a error observed)
  | .readBack a error observed =>
    orElseRecover
      (view.manager.ensureInFlightWriteAllowed request.permit
        "runtime lifecycle closed during authoritative state read-back")
      (readBackMove view a error observed)
  | .installing a generation =>
    match view.manager.installCheckpointedRuntimeState a.next generation request.permit with
    | (manager, .error error) => .finish manager (.error error)
    | (manager, .ok ()) => .finish manager (.ok a.output)

omit [DecidableEq S] [DecidableEq B] in
def readinessLoaded (codec : StateCodec S B) (view : View S B T) (stored : Option (RuntimeStateObject B)) :
    Move S B T (ReadinessPoint S B) Unit :=
  match view.manager.coherence with
  | .coherent =>
    if stored.bind (·.generation) = view.manager.generation then .goto .final
    else
      .finish view.manager.violate
        (.error ["runtime state generation changed outside the authoritative repository"])
  | .recoverable =>
    match readRuntimeStateObject codec stored with
    | .error error => .finish view.manager (.error error)
    | .ok (state, generation) => .goto (.installing state generation)
  | .violated => .finish view.manager (.error ["runtime state generation invariant was violated"])

omit [DecidableEq S] [DecidableEq B] in
def readinessMove (codec : StateCodec S B) (view : View S B T) (choice : Choice) :
    ReadinessPoint S B → Move S B T (ReadinessPoint S B) Unit
  | .entry => orElseFinish view view.manager.ensureActiveLifecycle (.goto .waiting)
  | .waiting => acquireOr view .locked
  | .locked => orElseFinish view view.manager.ensureActiveLifecycle (.goto .loading)
  | .loading =>
    match loadRuntimeState view choice with
    | .error error => .finish view.manager (.error ("authoritative runtime store is unavailable" :: error))
    | .ok stored => .goto (.loaded stored)
  | .loaded stored => readinessLoaded codec view stored
  | .installing state generation =>
    match view.manager.installRuntimeState state generation with
    | .error error => .finish view.manager (.error error)
    | .ok manager => .update manager .final
  | .final => orElseFinish view view.manager.ensureActive (.finish view.manager (.ok ()))

end Calls

end Raiko2.Runtime
