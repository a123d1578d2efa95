import Raiko2.Runtime.StateSystem

/-!
# Moves of the calls on the runtime state

What a call knows at each of its points, whoever else writes: the values that it carries are values that the register
held, and the bytes that it wrote encode the state that its update made. `MoveOk` says what one move can do.
-/

namespace Raiko2.Runtime

open Lib

variable {S B T : Type} {codec : StateCodec S B}

section Values

def contents (codec : StateCodec S B) : Option (B × Int64) → Except String S
  | some value => codec.decode value.1
  | none => .ok codec.default

/-- A copy and its generation agree with a value of the register, up to the marks that are not written. -/
structure Matches (codec : StateCodec S B) (value : Option (B × Int64)) (state : S) (generation : Option Int64) :
    Prop where
  generation : generation = value.map Prod.snd
  state : ∃ read, contents codec value = .ok read ∧ codec.forget read = codec.forget state

def Held (codec : StateCodec S B) (register : Versioned B Int64) (state : S) (generation : Option Int64) : Prop :=
  ∃ value ∈ register.values, Matches codec value state generation

def objectOf (value : Option (B × Int64)) : Option (RuntimeStateObject B) := value.map fun v => ⟨v.1, some v.2⟩

def ObjectHeld (register : Versioned B Int64) (object : Option (RuntimeStateObject B)) : Prop :=
  ∃ value ∈ register.values, object = objectOf value

theorem registerObject_held (register : Versioned B Int64) : ObjectHeld register (registerObject register) :=
  ⟨register.current, Versioned.current_mem, rfl⟩

variable {generation : Option Int64}

theorem matches_of_readRuntimeStateObject {value : Option (B × Int64)} {state : S}
    (h : readRuntimeStateObject codec (objectOf value) = .ok (state, generation)) :
    Matches codec value state generation := by
  cases value with
  | none =>
    cases h
    exact ⟨rfl, codec.default, rfl, rfl⟩
  | some v =>
    simp only [objectOf, Option.map_some, readRuntimeStateObject] at h
    split at h
    · cases h
    · rename_i read hRead
      split at h
      · cases h
      · cases h
        exact ⟨rfl, state, hRead, rfl⟩

variable {object : Option (RuntimeStateObject B)}

theorem ObjectHeld.read {register : Versioned B Int64} {state : S} (h : ObjectHeld register object)
    (hRead : readRuntimeStateObject codec object = .ok (state, generation)) : Held codec register state generation := by
  obtain ⟨value, hValue, rfl⟩ := h
  exact ⟨value, hValue, matches_of_readRuntimeStateObject hRead⟩

def AttemptOk (codec : StateCodec S B) (a : Attempt S B T) : Prop := ∃ layout, a.bytes = codec.encode layout a.next

theorem AttemptOk.matches {a : Attempt S B T} (h : AttemptOk codec a) (generation : Int64) :
    Matches codec (some (a.bytes, generation)) a.next (some generation) := by
  obtain ⟨layout, hBytes⟩ := h
  refine ⟨rfl, codec.forget a.next, ?_, codec.forget_forget a.next⟩
  rw [contents, hBytes]
  exact codec.decode_encode layout a.next

theorem AttemptOk.held_of_object {register : Versioned B Int64} {a : Attempt S B T}
    {object : RuntimeStateObject B} (h : AttemptOk codec a) (hObject : ObjectHeld register (some object))
    (hBytes : object.bytes = a.bytes) : Held codec register a.next object.generation := by
  obtain ⟨value, hValue, hEq⟩ := hObject
  cases value with
  | none => cases hEq
  | some v =>
    cases hEq
    refine ⟨some v, hValue, ?_⟩
    have hv : v = (a.bytes, v.2) := Prod.ext hBytes rfl
    rw [hv]
    exact h.matches v.2

def Mutation.Updates (request : Mutation S T) (base : S) (a : Attempt S B T) : Prop :=
  request.update a.attempt base = .ok (a.next, a.output)

/-- A write puts down one application of its request to a state that the register held. -/
structure WriteOk (codec : StateCodec S B) (register : Versioned B Int64) (w : Write S B T) : Prop where
  attempt : AttemptOk codec w.attempt
  base : Held codec register w.base w.attempt.expected
  update : w.request.Updates w.base w.attempt
  committed : ∀ generation, w.outcome = .committed generation →
    some (w.attempt.bytes, generation) ∈ register.values

variable {register register' : Versioned B Int64}

theorem Held.mono {state : S} (h : Held codec register state generation) (hSub : register.values ⊆ register'.values) :
    Held codec register' state generation := by
  obtain ⟨value, hValue, hMatches⟩ := h
  exact ⟨value, hSub hValue, hMatches⟩

theorem ObjectHeld.mono (h : ObjectHeld register object) (hSub : register.values ⊆ register'.values) :
    ObjectHeld register' object := by
  obtain ⟨value, hValue, hEq⟩ := h
  exact ⟨value, hSub hValue, hEq⟩

theorem WriteOk.mono {w : Write S B T} (h : WriteOk codec register w) (hSub : register.values ⊆ register'.values) :
    WriteOk codec register' w :=
  ⟨h.attempt, h.base.mono hSub, h.update, fun generation hOutcome => hSub (h.committed generation hOutcome)⟩

end Values

section Points

def MutatePoint.holds : MutatePoint S B T → Bool
  | .entry | .fence | .fenced | .waiting => false
  | _ => true

def MutatePoint.working : MutatePoint S B T → Bool
  | .entry | .fence | .fenced | .waiting | .locked | .attempting _ => false
  | _ => true

def ReadinessPoint.holds : ReadinessPoint S B → Bool
  | .entry | .waiting => false
  | _ => true

def ReadinessPoint.working : ReadinessPoint S B → Bool
  | .installing _ _ => true
  | _ => false

def Call.holds : Call S B T → Bool
  | .mutate _ _ point => point.holds
  | .checkReadiness point => point.holds

def Call.working : Call S B T → Bool
  | .mutate _ _ point => point.working
  | .checkReadiness point => point.working

def ResultOk (register : Versioned B Int64) (a : Attempt S B T) :
    Except ErrorChain (RuntimeStateWriteResult B) → Prop
  | .ok (.stored generation) => ∃ g, generation = some g ∧ some (a.bytes, g) ∈ register.values
  | .ok (.conflict observed) => ObjectHeld register observed
  | .error _ => True

/-- What a call has seen at a point is something that the register held. -/
def MutatePoint.Sound (codec : StateCodec S B) (register : Versioned B Int64) (writes : List (Write S B T)) :
    MutatePoint S B T → Prop
  | .reloaded state generation => Held codec register state generation
  | .writing a => AttemptOk codec a ∧ ∃ w, writes[a.write]? = some w ∧ w.attempt = a
  | .written a result => AttemptOk codec a ∧ ResultOk register a result
  | .readingBack a _ => AttemptOk codec a
  | .readBack a _ observed => AttemptOk codec a ∧ ObjectHeld register observed
  | .installing a generation => Held codec register a.next generation
  | _ => True

def ReadinessPoint.Sound (codec : StateCodec S B) (register : Versioned B Int64) (_ : List (Write S B T)) :
    ReadinessPoint S B → Prop
  | .loaded stored => ObjectHeld register stored
  | .installing state generation => Held codec register state generation
  | _ => True

def Call.Sound (codec : StateCodec S B) (register : Versioned B Int64) (writes : List (Write S B T)) :
    Call S B T → Prop
  | .mutate _ _ point => point.Sound codec register writes
  | .checkReadiness point => point.Sound codec register writes

def Extends (writes writes' : List (Write S B T)) : Prop :=
  ∀ (i : Nat) (w : Write S B T), writes[i]? = some w → ∃ w', writes'[i]? = some w' ∧ w'.attempt = w.attempt

theorem Extends.refl (writes : List (Write S B T)) : Extends writes writes := fun _ w h => ⟨w, h, rfl⟩

theorem extends_append (writes : List (Write S B T)) (w : Write S B T) : Extends writes (writes ++ [w]) := by
  intro i w' h
  obtain ⟨hLt, _⟩ := List.getElem?_eq_some_iff.mp h
  exact ⟨w', by rwa [List.getElem?_append_left hLt], rfl⟩

theorem extends_set {writes : List (Write S B T)} {i : Nat} {w w' : Write S B T} (h : writes[i]? = some w)
    (hSame : w'.attempt = w.attempt) : Extends writes (writes.set i w') := by
  obtain ⟨hi, _⟩ := List.getElem?_eq_some_iff.mp h
  intro j v hv
  by_cases hj : i = j
  · subst hj
    cases h.symm.trans hv
    exact ⟨w', List.getElem?_set_self hi, hSame⟩
  · exact ⟨v, by rwa [List.getElem?_set_ne hj], rfl⟩

variable {register register' : Versioned B Int64} {writes writes' : List (Write S B T)}

theorem Call.Sound.mono {call : Call S B T} (h : call.Sound codec register writes)
    (hSub : register.values ⊆ register'.values) (hExt : Extends writes writes') :
    call.Sound codec register' writes' := by
  cases call with
  | mutate request acquired point =>
    cases point with
    | reloaded state generation => exact Held.mono h hSub
    | writing a =>
      obtain ⟨hAttempt, w, hw, hEq⟩ := h
      obtain ⟨w', hw', hSame⟩ := hExt a.write w hw
      exact ⟨hAttempt, w', hw', hSame.trans hEq⟩
    | written a result =>
      refine ⟨h.1, ?_⟩
      rcases result with _ | ⟨generation⟩ | ⟨observed⟩
      · trivial
      · obtain ⟨g, hg, hMem⟩ := h.2
        exact ⟨g, hg, hSub hMem⟩
      · exact ObjectHeld.mono h.2 hSub
    | readBack a error observed => exact ⟨h.1, h.2.mono hSub⟩
    | installing a generation => exact Held.mono h hSub
    | readingBack a error => exact h
    | _ => trivial
  | checkReadiness point =>
    cases point with
    | loaded stored => exact ObjectHeld.mono h hSub
    | installing state generation => exact Held.mono h hSub
    | _ => trivial

end Points

section Moves

variable {P R : Type}

def Call.request : Call S B T → Option (Mutation S T)
  | .mutate request _ _ => some request
  | .checkReadiness _ => none

/-- `stay` is the call at a point, and `take` the call that has just got the lock. -/
def MoveOk (codec : StateCodec S B) (view : View S B T) (stay take : P → Call S B T) (point : P) :
    Move S B T P R → Prop
  | .wait => True
  | .goto next => (stay next).Sound codec view.register view.writes ∧ (stay next).holds = (stay point).holds ∧
      ((stay next).working = true → view.manager.coherence ≠ .violated)
  | .acquire next => (take next).Sound codec view.register view.writes ∧ (take next).holds = true ∧
      (stay point).holds = false ∧ (take next).working = false ∧ view.lock = none
  | .update manager next => (stay next).Sound codec view.register view.writes ∧ (stay next).holds = true ∧
      (stay point).holds = true ∧ (stay point).working = true ∧ manager.coherence = .coherent ∧
      Held codec view.register manager.state manager.generation
  | .write base a next => (∀ w, w.attempt = a → (stay next).Sound codec view.register (view.writes ++ [w])) ∧
      (stay next).holds = true ∧ (stay point).holds = true ∧ (stay point).working = true ∧ AttemptOk codec a ∧
      base = view.manager.state ∧ a.expected = view.manager.generation ∧
      ∃ request, (stay next).request = some request ∧ request.Updates base a
  | .finish manager _ => manager = view.manager ∨
      ((stay point).holds = true ∧ view.manager.coherence ≠ .violated ∧
        Held codec view.register manager.state manager.generation)

variable {view : View S B T} {choice : Choice} {stay take : P → Call S B T} {point : P}

theorem moveOk_orElseFinish {check : Except ErrorChain Unit} {next : Move S B T P R}
    (h : check = .ok () → MoveOk codec view stay take point next) :
    MoveOk codec view stay take point (orElseFinish view check next) := by
  cases check with
  | error error => exact Or.inl rfl
  | ok _ => exact h rfl

theorem moveOk_acquireOr {next : P} (hSound : (take next).Sound codec view.register view.writes)
    (hHolds : (take next).holds = true) (hPoint : (stay point).holds = false) (hWorking : (take next).working = false) :
    MoveOk codec view stay take point (acquireOr view next : Move S B T P R) := by
  rw [acquireOr]
  split
  · rename_i hLock
    exact ⟨hSound, hHolds, hPoint, hWorking, hLock⟩
  · trivial

theorem coherence_of_ensureAuthoritativeWriteAllowed {m : Manager S} {permit : Option CheckpointPermit}
    (h : m.ensureAuthoritativeWriteAllowed permit = .ok ()) : m.coherence ≠ .violated := by
  intro hViolated
  cases permit with
  | some permit =>
    simp only [Manager.ensureAuthoritativeWriteAllowed, Manager.ensureCheckpointWriteAllowed, hViolated] at h
    split at h <;> cases h
  | none =>
    simp only [Manager.ensureAuthoritativeWriteAllowed, Manager.ensureActive, hViolated, bind, Except.bind] at h
    split at h <;> cases h

theorem Manager.eq_of_installRuntimeState {m manager : Manager S} {state : S} {generation : Option Int64}
    (h : m.installRuntimeState state generation = .ok manager) : manager = m.install state generation := by
  rw [installRuntimeState] at h
  split at h
  · cases h
    rfl
  · cases h

theorem eq_of_loadRuntimeState {object : Option (RuntimeStateObject B)}
    (h : loadRuntimeState view choice = .ok object) : object = registerObject view.register := by
  rw [loadRuntimeState] at h
  split at h
  · cases h
    rfl
  · cases h

theorem read_of_reload {value : S × Option Int64}
    (h : loadRuntimeState view choice >>= readRuntimeStateObject codec = .ok value) :
    readRuntimeStateObject codec (registerObject view.register) = .ok value := by
  cases hLoad : loadRuntimeState view choice with
  | error error =>
    rw [hLoad] at h
    cases h
  | ok object =>
    rw [hLoad, eq_of_loadRuntimeState hLoad] at h
    exact h

theorem storeRuntimeState_cases {a : Attempt S B T} {w : Write S B T}
    {result : Except ErrorChain (RuntimeStateWriteResult B)} (hw : view.writes[a.write]? = some w)
    (h : storeRuntimeState view a choice = some result) :
    (∃ generation, w.outcome = .committed generation ∧ result = .ok (.stored (some generation))) ∨
    (w.outcome = .refused ∧ result = .ok (.conflict (registerObject view.register))) ∨
    ∃ error, result = .error error := by
  rw [storeRuntimeState, hw, Option.map_some] at h
  split at h
  · cases hOutcome : w.outcome with
    | pending =>
      rw [hOutcome] at h
      cases h
    | committed generation =>
      rw [hOutcome] at h
      cases h
      exact Or.inl ⟨generation, rfl, rfl⟩
    | refused =>
      rw [hOutcome] at h
      cases h
      exact Or.inr (Or.inl ⟨rfl, rfl⟩)
  · cases h
    exact Or.inr (Or.inr ⟨_, rfl⟩)

section Mutate

variable {request : Mutation S T} {acquired taken : Option (Acquired S B)} {a : Attempt S B T}

/-- What a move of a mutation may do. -/
abbrev MutateOk (codec : StateCodec S B) (view : View S B T) (request : Mutation S T)
    (acquired taken : Option (Acquired S B)) (point : MutatePoint S B T) (move : Move S B T (MutatePoint S B T) T) :
    Prop :=
  MoveOk codec view (.mutate request acquired) (.mutate request taken) point move

theorem mutateOk_orElseRecover {point : MutatePoint S B T} {context : String}
    {next : Move S B T (MutatePoint S B T) T}
    (hHeld : Held codec view.register view.manager.state view.manager.generation)
    (hHolds : point.holds = true) (hOpen : view.manager.coherence ≠ .violated)
    (h : MutateOk codec view request acquired taken point next) :
    MutateOk codec view request acquired taken point
      (orElseRecover (view.manager.ensureInFlightWriteAllowed request.permit context) next) := by
  rw [Manager.ensureInFlightWriteAllowed]
  cases view.manager.ensureAuthoritativeWriteAllowed request.permit with
  | error error => exact Or.inr ⟨hHolds, hOpen, hHeld⟩
  | ok _ => exact h

theorem WriteOk.result {w : Write S B T} {result : Except ErrorChain (RuntimeStateWriteResult B)}
    (h : WriteOk codec view.register w) (hw : view.writes[w.attempt.write]? = some w)
    (hResult : storeRuntimeState view w.attempt choice = some result) : ResultOk view.register w.attempt result := by
  rcases storeRuntimeState_cases hw hResult with ⟨generation, hOutcome, rfl⟩ | ⟨_, rfl⟩ | ⟨error, rfl⟩
  · exact ⟨generation, rfl, h.committed generation hOutcome⟩
  · exact registerObject_held view.register
  · trivial

theorem attemptMove_ok [DecidableEq S] (attempt : Nat) :
    MutateOk codec view request acquired taken (.reading attempt) (attemptMove codec view request attempt choice) := by
  rw [attemptMove]
  split
  · exact Or.inl rfl
  · rename_i next output hUpdate
    split
    · exact Or.inl rfl
    · split
      · exact Or.inl rfl
      · refine ⟨fun w hw => ?_, rfl, rfl, rfl, ⟨_, rfl⟩, rfl, rfl, request, rfl, hUpdate⟩
        exact ⟨⟨_, rfl⟩, w, List.getElem?_concat_length, hw⟩

variable [DecidableEq B]

theorem writtenMove_ok {result : Except ErrorChain (RuntimeStateWriteResult B)}
    (hHeld : Held codec view.register view.manager.state view.manager.generation)
    (hOpen : view.manager.coherence ≠ .violated) (hAttempt : AttemptOk codec a)
    (hResult : ResultOk view.register a result) :
    MutateOk codec view request acquired taken (.written a result) (writtenMove view a result) := by
  rcases result with error | ⟨generation⟩ | ⟨_ | observed⟩
  · exact ⟨hAttempt, rfl, fun _ => hOpen⟩
  · obtain ⟨g, rfl, hMem⟩ := hResult
    exact ⟨⟨_, hMem, hAttempt.matches g⟩, rfl, fun _ => hOpen⟩
  · exact Or.inr ⟨rfl, hOpen, hHeld⟩
  · rw [writtenMove]
    split
    · rename_i hBytes
      exact ⟨hAttempt.held_of_object hResult hBytes, rfl, fun _ => hOpen⟩
    · exact Or.inr ⟨rfl, hOpen, hHeld⟩

theorem readBackMove_ok {observed : Option (RuntimeStateObject B)} (error : ErrorChain)
    (hHeld : Held codec view.register view.manager.state view.manager.generation)
    (hOpen : view.manager.coherence ≠ .violated) (hAttempt : AttemptOk codec a)
    (hObserved : ObjectHeld view.register observed) :
    MutateOk codec view request acquired taken (.readBack a error observed) (readBackMove view a error observed) := by
  rw [readBackMove]
  split
  · rename_i object hFilter
    obtain ⟨rfl, hBytes⟩ := Option.filter_eq_some_iff.mp hFilter
    exact ⟨hAttempt.held_of_object hObserved (by simpa using hBytes), rfl, fun _ => hOpen⟩
  · split
    · split
      · exact ⟨trivial, rfl, nofun⟩
      · exact Or.inr ⟨rfl, hOpen, hHeld⟩
    · exact Or.inr ⟨rfl, hOpen, hHeld⟩

variable [DecidableEq S]

theorem mutateMove_ok (view : View S B T) (request : Mutation S T) (acquired taken : Option (Acquired S B))
    (hHeld : Held codec view.register view.manager.state view.manager.generation)
    (hWrites : ∀ w ∈ view.writes, WriteOk codec view.register w) {point : MutatePoint S B T}
    (hSound : point.Sound codec view.register view.writes)
    (hOpen : point.working = true → view.manager.coherence ≠ .violated) (choice : Choice) :
    MutateOk codec view request acquired taken point (mutateMove codec view request choice point) := by
  cases point with
  | entry => exact moveOk_orElseFinish fun _ => ⟨trivial, rfl, nofun⟩
  | fence =>
    rw [mutateMove]
    split
    · exact ⟨trivial, rfl, nofun⟩
    · exact Or.inl rfl
  | fenced => exact moveOk_orElseFinish fun _ => ⟨trivial, rfl, nofun⟩
  | waiting => exact moveOk_acquireOr trivial rfl rfl rfl
  | locked =>
    rw [mutateMove]
    split
    · rename_i hReload
      exact ⟨trivial, rfl, fun _ => by rw [hReload.2]; nofun⟩
    · exact ⟨trivial, rfl, nofun⟩
  | reloading =>
    rw [mutateMove]
    split
    · exact Or.inl rfl
    · rename_i state generation hRead
      exact ⟨(registerObject_held view.register).read (read_of_reload hRead), rfl, fun _ => hOpen rfl⟩
  | reloaded state generation =>
    rw [mutateMove]
    split
    · exact Or.inl rfl
    · rename_i manager hInstall
      cases Manager.eq_of_installRuntimeState hInstall
      exact ⟨trivial, rfl, rfl, rfl, rfl, hSound⟩
  | attempting attempt =>
    exact moveOk_orElseFinish fun hAllowed =>
      ⟨trivial, rfl, fun _ => coherence_of_ensureAuthoritativeWriteAllowed hAllowed⟩
  | reading attempt => exact attemptMove_ok attempt
  | writing a =>
    obtain ⟨hAttempt, w, hw, rfl⟩ := hSound
    rw [mutateMove]
    split
    · trivial
    · rename_i result hResult
      exact ⟨⟨hAttempt, (hWrites w (List.mem_of_getElem? hw)).result hw hResult⟩, rfl, fun _ => hOpen rfl⟩
  | written a result =>
    exact mutateOk_orElseRecover hHeld rfl (hOpen rfl) (writtenMove_ok hHeld (hOpen rfl) hSound.1 hSound.2)
  | readingBack a error =>
    rw [mutateMove]
    split
    · exact Or.inr ⟨rfl, hOpen rfl, hHeld⟩
    · rename_i observed hLoad
      cases eq_of_loadRuntimeState hLoad
      exact ⟨⟨hSound, registerObject_held view.register⟩, rfl, fun _ => hOpen rfl⟩
  | readBack a error observed =>
    exact mutateOk_orElseRecover hHeld rfl (hOpen rfl) (readBackMove_ok error hHeld (hOpen rfl) hSound.1 hSound.2)
  | installing a generation =>
    rw [mutateMove, Manager.installCheckpointedRuntimeState]
    cases view.manager.ensureAuthoritativeWriteAllowed request.permit with
    | error error => exact Or.inr ⟨rfl, hOpen rfl, hHeld⟩
    | ok _ => exact Or.inr ⟨rfl, hOpen rfl, hSound⟩

end Mutate

theorem readinessMove_ok (view : View S B T)
    (hHeld : Held codec view.register view.manager.state view.manager.generation)
    {point : ReadinessPoint S B} (hSound : point.Sound codec view.register view.writes)
    (hOpen : point.working = true → view.manager.coherence ≠ .violated) (choice : Choice) :
    MoveOk codec view .checkReadiness .checkReadiness point (readinessMove codec view choice point) := by
  cases point with
  | entry => exact moveOk_orElseFinish fun _ => ⟨trivial, rfl, nofun⟩
  | waiting => exact moveOk_acquireOr trivial rfl rfl rfl
  | locked => exact moveOk_orElseFinish fun _ => ⟨trivial, rfl, nofun⟩
  | loading =>
    rw [readinessMove]
    split
    · exact Or.inl rfl
    · rename_i stored hLoad
      cases eq_of_loadRuntimeState hLoad
      exact ⟨registerObject_held view.register, rfl, nofun⟩
  | loaded stored =>
    rw [readinessMove, readinessLoaded]
    split
    · rename_i hCoherent
      split
      · exact ⟨trivial, rfl, nofun⟩
      · exact Or.inr ⟨rfl, by rw [hCoherent]; nofun, hHeld⟩
    · rename_i hRecoverable
      split
      · exact Or.inl rfl
      · rename_i state generation hRead
        exact ⟨ObjectHeld.read hSound hRead, rfl, fun _ => by rw [hRecoverable]; nofun⟩
    · exact Or.inl rfl
  | installing state generation =>
    rw [readinessMove]
    split
    · exact Or.inl rfl
    · rename_i manager hInstall
      cases Manager.eq_of_installRuntimeState hInstall
      exact ⟨trivial, rfl, rfl, rfl, rfl, hSound⟩
  | final => exact moveOk_orElseFinish fun _ => Or.inl rfl

end Moves

end Raiko2.Runtime
