import Raiko2.Runtime.StateHistory

/-!
# Moves of a process that is the only writer

What a call that holds the lock knows when only this process writes: the register has the value that the call found, or
the one that it wrote. A mutation that ends with a result has then applied its update once to the value it found; one
that ends with an error has applied it at most once, and leaves the copy marked if it did.
-/

namespace Raiko2.Runtime

open Lib

variable {S B T : Type} {codec : StateCodec S B}

section Points

def LocalKept (codec : StateCodec S B) (request : Mutation S T) (found : Acquired S B) (m : Manager S) : Prop :=
  (m.state = found.state ∧ m.generation = found.generation) ∨
    (request.permit.isSome = true ∧ found.coherence = .recoverable ∧
      Matches codec found.durable m.state m.generation)

def Outcome (codec : StateCodec S B) (request : Mutation S T) (found : Acquired S B) (durable : Option (B × Int64))
    (m : Manager S) : Except ErrorChain T → Prop
  | .ok output => ∃ attempt current generation, Matches codec found.durable current generation ∧
      request.update attempt current = .ok (m.state, output) ∧ Matches codec durable m.state m.generation ∧
      m.coherence = .coherent
  | .error _ => LocalKept codec request found m ∧
      (durable = found.durable ∨ ∃ attempt current next output generation,
        Matches codec found.durable current generation ∧ request.update attempt current = .ok (next, output) ∧
        Matches codec durable next (durable.map Prod.snd) ∧ m.coherence ≠ .coherent)

structure Unwritten (codec : StateCodec S B) (m : Manager S) (register : Versioned B Int64) (request : Mutation S T)
    (found : Acquired S B) : Prop where
  durable : register.current = found.durable
  kept : LocalKept codec request found m
  agrees : m.coherence = .coherent → Matches codec register.current m.state m.generation

structure Untouched (codec : StateCodec S B) (m : Manager S) (register : Versioned B Int64) (request : Mutation S T)
    (found : Acquired S B) : Prop extends Unwritten codec m register request found where
  state : m.state = found.state
  generation : m.generation = found.generation
  coherence : m.coherence = found.coherence

/-- A call with the lock that has started a write, which took effect or not. -/
structure OpenWrite (codec : StateCodec S B) (m : Manager S) (register : Versioned B Int64) (request : Mutation S T)
    (found : Acquired S B) (a : Attempt S B T) : Prop where
  base : Matches codec found.durable m.state m.generation
  update : request.Updates m.state a
  attempt : AttemptOk codec a
  expected : a.expected = m.generation
  coherent : m.coherence = .coherent
  kept : LocalKept codec request found m
  progress : register.current = found.durable ∨ ∃ generation, register.current = some (a.bytes, generation)

def Landed (register : Versioned B Int64) (a : Attempt S B T) (generation : Option Int64) : Prop :=
  ∃ g, generation = some g ∧ register.current = some (a.bytes, g)

def MutatePoint.Alone (codec : StateCodec S B) (m : Manager S) (register : Versioned B Int64)
    (writes : List (Write S B T)) (request : Mutation S T) (found : Acquired S B) : MutatePoint S B T → Prop
  | .locked => Untouched codec m register request found
  | .reloading => Untouched codec m register request found ∧ request.permit.isSome = true ∧ m.coherence = .recoverable
  | .reloaded state generation => Untouched codec m register request found ∧ request.permit.isSome = true ∧
      m.coherence = .recoverable ∧ Matches codec register.current state generation
  | .attempting _ => Unwritten codec m register request found ∧
      (request.permit.isSome = true → m.coherence ≠ .recoverable)
  | .reading _ => Unwritten codec m register request found ∧ m.coherence = .coherent
  | .writing a => OpenWrite codec m register request found a ∧ ∃ w, writes[a.write]? = some w ∧ w.attempt = a ∧
      ((w.outcome = .pending ∧ register.current = found.durable) ∨
        ∃ generation, w.outcome = .committed generation ∧ register.current = some (a.bytes, generation))
  | .written a (.ok (.stored generation)) => OpenWrite codec m register request found a ∧ Landed register a generation
  | .written _ (.ok (.conflict _)) => False
  | .written a (.error _) => OpenWrite codec m register request found a
  | .readingBack a _ => OpenWrite codec m register request found a
  | .readBack a _ observed => OpenWrite codec m register request found a ∧ observed = registerObject register
  | .installing a generation => OpenWrite codec m register request found a ∧ Landed register a generation
  | _ => True

def ReadinessPoint.Alone (codec : StateCodec S B) (m : Manager S) (register : Versioned B Int64)
    (point : ReadinessPoint S B) : Prop :=
  (m.coherence = .coherent → Matches codec register.current m.state m.generation) ∧
    match point with
    | .loaded stored => stored = registerObject register
    | .installing state generation => Matches codec register.current state generation
    | _ => True

def Call.Alone (codec : StateCodec S B) (m : Manager S) (register : Versioned B Int64) (writes : List (Write S B T)) :
    Call S B T → Prop
  | .mutate request (some found) point => point.Alone codec m register writes request found
  | .mutate _ none _ => False
  | .checkReadiness point => point.Alone codec m register

variable {m : Manager S} {register : Versioned B Int64} {request : Mutation S T} {found : Acquired S B}
  {a : Attempt S B T}

theorem MutatePoint.Alone.agrees {writes : List (Write S B T)} {point : MutatePoint S B T}
    (h : point.Alone codec m register writes request found) (hHolds : point.holds = true)
    (hCoherent : m.coherence = .coherent) :
    Matches codec register.current m.state m.generation ∨
      ∃ a generation, point.openWrite = some a ∧ register.current = some (a.bytes, generation) := by
  have hOpen : ∀ a, point.openWrite = some a → OpenWrite codec m register request found a →
      Matches codec register.current m.state m.generation ∨
        ∃ a generation, point.openWrite = some a ∧ register.current = some (a.bytes, generation) := by
    intro a ha hWrite
    rcases hWrite.progress with hSame | ⟨generation, hLanded⟩
    · left
      rw [hSame]
      exact hWrite.base
    · exact Or.inr ⟨a, generation, ha, hLanded⟩
  cases point with
  | locked => exact Or.inl (Unwritten.agrees (Untouched.toUnwritten h) hCoherent)
  | reloading => exact Or.inl (h.1.agrees hCoherent)
  | reloaded state generation => exact Or.inl (h.1.agrees hCoherent)
  | attempting attempt => exact Or.inl (h.1.agrees hCoherent)
  | reading attempt => exact Or.inl (h.1.agrees hCoherent)
  | writing a => exact hOpen a rfl h.1
  | written a result =>
    rcases result with error | ⟨generation⟩ | ⟨observed⟩
    · exact hOpen a rfl h
    · exact hOpen a rfl h.1
    · exact h.elim
  | readingBack a error => exact hOpen a rfl h
  | readBack a error observed => exact hOpen a rfl h.1
  | installing a generation => exact hOpen a rfl h.1
  | _ => cases hHolds

theorem Call.Alone.exists_found {writes : List (Write S B T)} {acquired : Option (Acquired S B)} {point : MutatePoint S B T}
    (h : (Call.mutate request acquired point).Alone codec m register writes) :
    ∃ found, acquired = some found ∧ point.Alone codec m register writes request found := by
  cases acquired with
  | none => exact h.elim
  | some found => exact ⟨found, rfl, h⟩

theorem Call.Alone.agrees {c : Call S B T} {writes : List (Write S B T)} (h : c.Alone codec m register writes)
    (hHolds : c.holds = true) (hCoherent : m.coherence = .coherent) :
    Matches codec register.current m.state m.generation ∨
      ∃ a generation, c.openWrite = some a ∧ register.current = some (a.bytes, generation) := by
  cases c with
  | mutate request acquired point =>
    obtain ⟨found, _, hPoint⟩ := h.exists_found
    exact hPoint.agrees hHolds hCoherent
  | checkReadiness point => exact Or.inl (h.1 hCoherent)

/-- What a call knows does not depend on the lifecycle. -/
theorem Call.Alone.flags {c : Call S B T} {writes : List (Write S B T)} (h : c.Alone codec m register writes)
    (active draining : Bool) :
    c.Alone codec { m with active, draining } register writes := by
  have hUnwritten : ∀ (request : Mutation S T) (found : Acquired S B), Unwritten codec m register request found →
      Unwritten codec { m with active, draining } register request found :=
    fun _ _ h => ⟨h.durable, h.kept, h.agrees⟩
  have hUntouched : ∀ (request : Mutation S T) (found : Acquired S B), Untouched codec m register request found →
      Untouched codec { m with active, draining } register request found :=
    fun request found h => ⟨hUnwritten request found h.toUnwritten, h.state, h.generation, h.coherence⟩
  have hOpen : ∀ (request : Mutation S T) (found : Acquired S B) (a : Attempt S B T),
      OpenWrite codec m register request found a →
      OpenWrite codec { m with active, draining } register request found a :=
    fun _ _ _ h => ⟨h.base, h.update, h.attempt, h.expected, h.coherent, h.kept, h.progress⟩
  cases c with
  | checkReadiness point => exact h
  | mutate request acquired point =>
    obtain ⟨found, rfl, hPoint⟩ := h.exists_found
    cases point with
    | locked => exact hUntouched _ _ hPoint
    | reloading => exact ⟨hUntouched _ _ hPoint.1, hPoint.2⟩
    | reloaded state generation => exact ⟨hUntouched _ _ hPoint.1, hPoint.2⟩
    | attempting attempt => exact ⟨hUnwritten _ _ hPoint.1, hPoint.2⟩
    | reading attempt => exact ⟨hUnwritten _ _ hPoint.1, hPoint.2⟩
    | writing a => exact ⟨hOpen _ _ _ hPoint.1, hPoint.2⟩
    | written a result =>
      rcases result with error | ⟨generation⟩ | ⟨observed⟩
      · exact hOpen _ _ _ hPoint
      · exact ⟨hOpen _ _ _ hPoint.1, hPoint.2⟩
      · exact hPoint.elim
    | readingBack a error => exact hOpen _ _ _ hPoint
    | readBack a error observed => exact ⟨hOpen _ _ _ hPoint.1, hPoint.2⟩
    | installing a generation => exact ⟨hOpen _ _ _ hPoint.1, hPoint.2⟩
    | _ => trivial

end Points

section Moves

variable {P R : Type}

/-- What a move of a call with the lock does, when `stay` is the call at a point. -/
def MoveAlone (codec : StateCodec S B) (view : View S B T) (stay : P → Call S B T)
    (outcome : Manager S → Except ErrorChain R → Prop) : Move S B T P R → Prop
  | .wait => True
  | .goto next => (stay next).Alone codec view.manager view.register view.writes
  | .acquire _ => False
  | .update manager next => manager.coherence ≠ .violated ∧
      (stay next).Alone codec manager view.register view.writes
  | .write _ a next => ∀ w, w.attempt = a → w.outcome = .pending →
      (stay next).Alone codec view.manager view.register (view.writes ++ [w])
  | .finish manager result => manager.coherence ≠ .violated ∧
      (manager.coherence = .coherent → Matches codec view.register.current manager.state manager.generation) ∧
      outcome manager result

/-- What a move of a call without the lock does; `locked` is the point at which it gets the lock. -/
def MoveUnlocked (view : View S B T) (locked : P) (outcome : Except ErrorChain R → Prop) : Move S B T P R → Prop
  | .wait | .goto _ => True
  | .acquire next => next = locked
  | .finish manager result => manager = view.manager ∧ outcome result
  | _ => False

abbrev MutateAlone (codec : StateCodec S B) (view : View S B T) (request : Mutation S T) (found : Acquired S B)
    (move : Move S B T (MutatePoint S B T) T) : Prop :=
  MoveAlone codec view (.mutate request (some found)) (Outcome codec request found view.register.current) move

variable {view : View S B T} {request : Mutation S T} {found : Acquired S B} {a : Attempt S B T}
  {next : Move S B T (MutatePoint S B T) T}

theorem Unwritten.finish (h : Unwritten codec view.manager view.register request found)
    (hViolated : view.manager.coherence ≠ .violated) (error : ErrorChain) :
    MutateAlone codec view request found (.finish view.manager (.error error)) :=
  ⟨hViolated, h.agrees, h.kept, Or.inl h.durable⟩

theorem Unwritten.orElseFinish (h : Unwritten codec view.manager view.register request found)
    (hViolated : view.manager.coherence ≠ .violated) {check : Except ErrorChain Unit}
    (hNext : check = .ok () → MutateAlone codec view request found next) :
    MutateAlone codec view request found (orElseFinish view check next) := by
  cases check with
  | error error => exact h.finish hViolated error
  | ok _ => exact hNext rfl

section Open

variable (h : OpenWrite codec view.manager view.register request found a)

include h

theorem OpenWrite.finish (error : ErrorChain) :
    MutateAlone codec view request found (.finish view.manager.markStateCoherenceRecoverable (.error error)) := by
  refine ⟨nofun, nofun, h.kept, ?_⟩
  rcases h.progress with hSame | ⟨generation, hLanded⟩
  · exact Or.inl hSame
  · refine Or.inr ⟨a.attempt, view.manager.state, a.next, a.output, view.manager.generation, h.base, h.update, ?_, nofun⟩
    rw [hLanded]
    exact h.attempt.matches generation

theorem OpenWrite.orElseRecover {context : String} (hNext : MutateAlone codec view request found next) :
    MutateAlone codec view request found
      (orElseRecover (view.manager.ensureInFlightWriteAllowed request.permit context) next) := by
  rw [Manager.ensureInFlightWriteAllowed]
  cases view.manager.ensureAuthoritativeWriteAllowed request.permit with
  | error error => exact h.finish (context :: error)
  | ok _ => exact hNext

theorem OpenWrite.unwritten
    (hSame : view.register.current = found.durable) : Unwritten codec view.manager view.register request found :=
  ⟨hSame, h.kept, fun _ => by rw [hSame]; exact h.base⟩

end Open

theorem coherent_of_ensureAuthoritativeWriteAllowed {m : Manager S} {permit : Option CheckpointPermit}
    (h : m.ensureAuthoritativeWriteAllowed permit = .ok ())
    (hMarked : permit.isSome = true → m.coherence ≠ .recoverable) : m.coherence = .coherent := by
  have hOpen := coherence_of_ensureAuthoritativeWriteAllowed h
  cases permit with
  | some permit =>
    have hNot := hMarked rfl
    cases hCoherence : m.coherence with
    | coherent => rfl
    | recoverable => exact absurd hCoherence hNot
    | violated => exact absurd hCoherence hOpen
  | none =>
    simp only [Manager.ensureAuthoritativeWriteAllowed, Manager.ensureActive, bind, Except.bind] at h
    split at h
    · cases h
    · split at h
      · assumption
      · cases h

theorem readinessMove_unlocked (codec : StateCodec S B) (view : View S B T) {point : ReadinessPoint S B}
    (hHolds : point.holds = false) (choice : Choice) :
    MoveUnlocked view .locked (fun _ => True) (readinessMove codec view choice point) := by
  cases point with
  | entry =>
    rw [readinessMove]
    cases view.manager.ensureActiveLifecycle with
    | error error => exact ⟨rfl, trivial⟩
    | ok _ => trivial
  | waiting =>
    rw [readinessMove, acquireOr]
    split
    · exact rfl
    · trivial
  | _ => cases hHolds

theorem readinessMove_alone (view : View S B T) {point : ReadinessPoint S B} (hHolds : point.holds = true)
    (hViolated : view.manager.coherence ≠ .violated) (h : point.Alone codec view.manager view.register)
    (choice : Choice) :
    MoveAlone codec view .checkReadiness (fun _ _ => True) (readinessMove codec view choice point) := by
  obtain ⟨hAgrees, hPoint⟩ := h
  cases point with
  | locked =>
    rw [readinessMove]
    cases view.manager.ensureActiveLifecycle with
    | error error => exact ⟨hViolated, hAgrees, trivial⟩
    | ok _ => exact ⟨hAgrees, trivial⟩
  | loading =>
    rw [readinessMove]
    split
    · exact ⟨hViolated, hAgrees, trivial⟩
    · rename_i stored hLoad
      exact ⟨hAgrees, eq_of_loadRuntimeState hLoad⟩
  | loaded stored =>
    subst hPoint
    rw [readinessMove, readinessLoaded]
    split
    · rename_i hCoherent
      -- the generation that was loaded is the local one
      have hSame : (registerObject view.register).bind (·.generation) = view.manager.generation := by
        rw [(hAgrees hCoherent).generation, registerObject]
        cases view.register.current <;> rfl
      rw [if_pos hSame]
      exact ⟨hAgrees, trivial⟩
    · split
      · exact ⟨hViolated, hAgrees, trivial⟩
      · rename_i state generation hRead
        exact ⟨hAgrees, matches_of_readRuntimeStateObject hRead⟩
    · exact ⟨hViolated, hAgrees, trivial⟩
  | installing state generation =>
    rw [readinessMove]
    split
    · exact ⟨hViolated, hAgrees, trivial⟩
    · rename_i manager hInstall
      cases Manager.eq_of_installRuntimeState hInstall
      exact ⟨by rintro ⟨⟩, fun _ => hPoint, trivial⟩
  | final =>
    rw [readinessMove]
    cases view.manager.ensureActive with
    | error error => exact ⟨hViolated, hAgrees, trivial⟩
    | ok _ => exact ⟨hViolated, hAgrees, trivial⟩
  | _ => cases hHolds

theorem attemptMove_alone [DecidableEq S] (h : Unwritten codec view.manager view.register request found)
    (hCoherent : view.manager.coherence = .coherent) (attempt : Nat) (choice : Choice) :
    MutateAlone codec view request found (attemptMove codec view request attempt choice) := by
  have hViolated : view.manager.coherence ≠ .violated := by
    rw [hCoherent]
    nofun
  have hAgrees := h.agrees hCoherent
  rw [attemptMove]
  split
  · exact h.finish hViolated _
  · rename_i next output hUpdate
    split
    · exact h.finish hViolated _
    · split
      · rename_i hSame
        subst hSame
        refine ⟨hViolated, h.agrees, attempt, view.manager.state, view.manager.generation, ?_, hUpdate, hAgrees, hCoherent⟩
        rw [← h.durable]
        exact hAgrees
      · intro w hAttempt hPending
        refine ⟨⟨h.durable ▸ hAgrees, hUpdate, ⟨choice.layout, rfl⟩, rfl, hCoherent, h.kept, Or.inl h.durable⟩, w,
          List.getElem?_concat_length, hAttempt, Or.inl ⟨hPending, h.durable⟩⟩

variable [DecidableEq B]

theorem writtenMove_alone {result : Except ErrorChain (RuntimeStateWriteResult B)}
    (h : (MutatePoint.written a result).Alone codec view.manager view.register view.writes request found) :
    MutateAlone codec view request found (writtenMove view a result) := by
  rcases result with error | ⟨generation⟩ | ⟨observed⟩
  · exact h
  · exact h
  · exact h.elim

theorem readBackMove_alone (h : OpenWrite codec view.manager view.register request found a) (error : ErrorChain) :
    MutateAlone codec view request found (readBackMove view a error (registerObject view.register)) := by
  rw [readBackMove]
  split
  · rename_i object hFilter
    obtain ⟨hObject, hBytes⟩ := Option.filter_eq_some_iff.mp hFilter
    obtain ⟨value, hValue, rfl⟩ := Option.map_eq_some_iff.mp hObject
    refine ⟨h, value.2, rfl, ?_⟩
    rw [hValue]
    exact congrArg some (Prod.ext (by simpa using hBytes) rfl)
  · rename_i hFilter
    have hSame : view.register.current = found.durable := by
      rcases h.progress with hSame | ⟨generation, hLanded⟩
      · exact hSame
      · simp [registerObject, hLanded] at hFilter
    have hUnchanged : runtimeGenerationIsUnchanged (registerObject view.register) a.expected = true := by
      rw [h.expected, h.base.generation, ← hSame, registerObject]
      cases view.register.current <;> simp [runtimeGenerationIsUnchanged]
    rw [if_pos hUnchanged]
    split
    · refine ⟨h.unwritten hSame, fun _ => ?_⟩
      simp [h.coherent]
    · exact h.finish _

variable [DecidableEq S]

theorem mutateMove_alone (view : View S B T) {point : MutatePoint S B T} (hHolds : point.holds = true)
    (hViolated : view.manager.coherence ≠ .violated)
    (h : point.Alone codec view.manager view.register view.writes request found) (choice : Choice) :
    MutateAlone codec view request found (mutateMove codec view request choice point) := by
  cases point with
  | locked =>
    have hFound : Untouched codec view.manager view.register request found := h
    rw [mutateMove]
    split
    · rename_i hReload
      exact ⟨hFound, hReload⟩
    · rename_i hReload
      exact ⟨hFound.toUnwritten, fun hPermit hMarked => hReload ⟨hPermit, hMarked⟩⟩
  | reloading =>
    rw [mutateMove]
    split
    · exact h.1.finish hViolated _
    · rename_i state generation hRead
      exact ⟨h.1, h.2.1, h.2.2, matches_of_readRuntimeStateObject (read_of_reload hRead)⟩
  | reloaded state generation =>
    obtain ⟨hFound, hPermit, hMarked, hMatches⟩ := h
    rw [mutateMove]
    split
    · exact hFound.finish hViolated _
    · rename_i manager hInstall
      cases Manager.eq_of_installRuntimeState hInstall
      refine ⟨by rintro ⟨⟩, ⟨hFound.durable, Or.inr ⟨hPermit, ?_, ?_⟩, fun _ => hMatches⟩, by rintro _ ⟨⟩⟩
      · rw [← hFound.coherence]
        exact hMarked
      · rw [← hFound.durable]
        exact hMatches
  | attempting attempt =>
    exact h.1.orElseFinish hViolated fun hAllowed => ⟨h.1, coherent_of_ensureAuthoritativeWriteAllowed hAllowed h.2⟩
  | reading attempt => exact attemptMove_alone h.1 h.2 attempt choice
  | writing a =>
    obtain ⟨hOpen, w, hw, hAttempt, hOutcome⟩ := h
    rw [mutateMove]
    split
    · trivial
    · rename_i result hResult
      rcases storeRuntimeState_cases hw hResult with ⟨generation, hStored, rfl⟩ | ⟨hRefused, rfl⟩ | ⟨error, rfl⟩
      · rcases hOutcome with ⟨hPending, _⟩ | ⟨g, hCommitted, hLanded⟩
        · cases hPending.symm.trans hStored
        · cases hCommitted.symm.trans hStored
          exact ⟨hOpen, generation, rfl, hLanded⟩
      · rcases hOutcome with ⟨hPending, _⟩ | ⟨g, hCommitted, _⟩
        · cases hPending.symm.trans hRefused
        · cases hCommitted.symm.trans hRefused
      · exact hOpen
  | written a result =>
    have hOpen : OpenWrite codec view.manager view.register request found a := by
      rcases result with error | ⟨generation⟩ | ⟨observed⟩
      · exact h
      · exact h.1
      · exact h.elim
    exact hOpen.orElseRecover (writtenMove_alone h)
  | readingBack a error =>
    rw [mutateMove]
    split
    · exact OpenWrite.finish h _
    · rename_i observed hLoad
      exact ⟨h, eq_of_loadRuntimeState hLoad⟩
  | readBack a error observed =>
    obtain ⟨hOpen, rfl⟩ := h
    exact hOpen.orElseRecover (readBackMove_alone hOpen error)
  | installing a generation =>
    obtain ⟨hOpen, g, rfl, hLanded⟩ := h
    have hMatches := hOpen.attempt.matches g
    rw [← hLanded] at hMatches
    rw [mutateMove, Manager.installCheckpointedRuntimeState]
    cases view.manager.ensureAuthoritativeWriteAllowed request.permit with
    | error error => exact hOpen.finish _
    | ok _ =>
      exact ⟨by rintro ⟨⟩, fun _ => hMatches, a.attempt, view.manager.state, view.manager.generation, hOpen.base,
        hOpen.update, hMatches, rfl⟩
  | _ => cases hHolds

theorem mutateMove_unlocked (codec : StateCodec S B) (view : View S B T) (request : Mutation S T)
    {point : MutatePoint S B T} (hHolds : point.holds = false) (choice : Choice) :
    MoveUnlocked view .locked (fun result => ∃ error, result = .error error)
      (mutateMove codec view request choice point) := by
  cases point with
  | entry =>
    rw [mutateMove]
    cases view.manager.ensureAuthoritativeWriteAllowed request.permit with
    | error error => exact ⟨rfl, error, rfl⟩
    | ok _ => trivial
  | fence =>
    rw [mutateMove]
    split
    · trivial
    · exact ⟨rfl, _, rfl⟩
  | fenced =>
    rw [mutateMove]
    cases view.manager.ensureAuthoritativeWriteAllowed request.permit with
    | error error => exact ⟨rfl, error, rfl⟩
    | ok _ => trivial
  | waiting =>
    rw [mutateMove, acquireOr]
    split
    · exact rfl
    · trivial
  | _ => cases hHolds

end Moves

end Raiko2.Runtime
