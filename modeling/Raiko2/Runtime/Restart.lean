import Raiko2.Runtime.StateRefines

/-!
# The state after a restart

A process that stops at any point leaves the register behind, and perhaps writes that take effect later. The next one
starts from what the register then holds: the initial state with every committed update applied once, in the order of
the commits.
-/

namespace Raiko2.Runtime

open Lib

variable {S B T : Type} {codec : StateCodec S B} {s : StateSystem S B T} {initial : S}

/-- The state that commits, the newest first, make of an initial one, up to the marks that are not written. -/
def Replays (codec : StateCodec S B) (initial : S) : List (Commit S B T) → S → Prop
  | [], state => state = initial
  | c :: earlier, state => state = codec.forget c.write.attempt.next ∧
      c.write.request.Updates c.write.base c.write.attempt ∧
      ∃ before, Replays codec initial earlier before ∧ codec.forget c.write.base = codec.forget before

structure DurableInv (codec : StateCodec S B) (initial : S) (s : StateSystem S B T) : Prop
    extends HistoryInv codec s where
  valid : ∀ w ∈ s.writes, codec.validateRuntimeState w.attempt.next = .ok ()
  durable : ∃ state, readRuntimeStateObject codec (registerObject s.register) = .ok (state, s.register.version) ∧
    Replays codec initial s.commits state

theorem read_registerObject_put {w : Write S B T} (hAttempt : AttemptOk codec w.attempt)
    (hValid : codec.validateRuntimeState w.attempt.next = .ok ()) (register : Versioned B Int64) (generation : Int64) :
    readRuntimeStateObject codec (registerObject (register.put (some (w.attempt.bytes, generation)))) =
      .ok (codec.forget w.attempt.next, some generation) := by
  obtain ⟨layout, hBytes⟩ := hAttempt
  simp only [registerObject, Versioned.put, Option.map_some, readRuntimeStateObject, hBytes, codec.decode_encode,
    codec.validate_forget _ hValid]

theorem DurableInv.commitWrite (h : DurableInv codec initial s) (write : Nat) {generation : Int64}
    (hFresh : s.register.Fresh generation) : DurableInv codec initial (s.commitWrite write generation) := by
  have hInv := h.toHistoryInv.commitWrite write hFresh
  rw [StateSystem.commitWrite]
  split
  · rename_i w hw
    split
    · rename_i hCond
      simp only [StateSystem.commitWrite, hw, if_pos hCond] at hInv
      have hWrite := h.writes w (List.mem_of_getElem? hw)
      have hValid := h.valid w (List.mem_of_getElem? hw)
      obtain ⟨state, hRead, hReplays⟩ := h.durable
      refine ⟨hInv, fun v hv => ?_, _, read_registerObject_put hWrite.attempt hValid s.register generation, rfl,
        hWrite.update, state, hReplays, ?_⟩
      · rcases List.mem_or_eq_of_mem_set hv with hv | rfl
        · exact h.valid v hv
        · exact hValid
      -- the write takes effect on the version that its base was read under
      · obtain ⟨value, hValue, hMatches⟩ := hWrite.base
        have hCurrent := h.unambiguous.eq_current hValue (hMatches.generation.symm.trans hCond.2.symm)
        obtain ⟨read, hContents, hBase⟩ := hMatches.state
        obtain ⟨read', hContents', hState⟩ := (matches_of_readRuntimeStateObject hRead).state
        rw [hCurrent, hContents'] at hContents
        cases hContents
        exact hBase.symm.trans hState
    · exact h
  · exact h

theorem DurableInv.refuseWrite (h : DurableInv codec initial s) (write : Nat) :
    DurableInv codec initial (s.refuseWrite write) := by
  have hInv := h.toHistoryInv.refuseWrite write
  rw [StateSystem.refuseWrite]
  split
  · rename_i w hw
    split
    · rename_i hCond
      simp only [StateSystem.refuseWrite, hw, if_pos hCond] at hInv
      refine ⟨hInv, fun v hv => ?_, h.durable⟩
      rcases List.mem_or_eq_of_mem_set hv with hv | rfl
      · exact h.valid v hv
      · exact h.valid w (List.mem_of_getElem? hw)
    · exact h
  · exact h

theorem Manager.initializeRuntime_eq_ok_iff {m manager : Manager S} {stored : Option (RuntimeStateObject B)} :
    m.initializeRuntime codec stored = .ok manager ↔ m.initialized = false ∧ m.active = true ∧
      ∃ state generation, readRuntimeStateObject codec stored = .ok (state, generation) ∧
        manager = { m.install state generation with initialized := true } := by
  rw [Manager.initializeRuntime, Manager.installRuntimeStateObject]
  rcases readRuntimeStateObject codec stored with error | ⟨state, generation⟩
  · cases m.initialized <;> simp [bind, Except.bind]
  · cases m.initialized <;> cases hActive : m.active <;>
      simp [bind, Except.bind, pure, Except.pure, Manager.installRuntimeState, hActive, eq_comm]

variable [DecidableEq S] [DecidableEq B]

theorem valid_of_mutateMove_write {view : View S B T} {request : Mutation S T} {choice : Choice}
    {point next : MutatePoint S B T} {base : S} {a : Attempt S B T}
    (h : mutateMove codec view request choice point = .write base a next) :
    codec.validateRuntimeState a.next = .ok () := by
  cases point with
  | reading attempt =>
    simp only [mutateMove, attemptMove] at h
    split at h
    · cases h
    split at h
    · cases h
    rename_i hValid
    split at h
    · cases h
    cases h
    exact hValid
  | written a result =>
    simp only [mutateMove, orElseRecover, writtenMove, rejectForeignRuntimeState] at h
    repeat' split at h
    all_goals cases h
  | readBack a error observed =>
    simp only [mutateMove, orElseRecover, readBackMove] at h
    repeat' split at h
    all_goals cases h
  | _ =>
    simp only [mutateMove, orElseFinish, acquireOr] at h
    repeat' split at h
    all_goals cases h

theorem DurableInv.moveCall (h : DurableInv codec initial s) (call : Nat) (choice : Choice) :
    DurableInv codec initial (s.moveCall codec call choice) := by
  have hInv := h.toHistoryInv.moveCall call choice
  rw [StateSystem.moveCall] at hInv ⊢
  split
  · rename_i request acquired point hCall
    rw [hCall] at hInv
    dsimp only at hInv
    generalize hMove : mutateMove codec s.view request choice point = move at hInv
    cases move with
    | write base a next =>
      refine ⟨hInv, fun w hw => ?_, h.durable⟩
      rcases List.mem_append.mp hw with hw | hw
      · exact h.valid w hw
      · rw [List.mem_singleton.mp hw]
        exact valid_of_mutateMove_write hMove
    | _ => exact ⟨hInv, h.valid, h.durable⟩
  · rename_i point hCall
    rw [hCall] at hInv
    dsimp only at hInv
    generalize readinessMove codec s.view choice point = move at hInv
    cases move with
    | _ => exact ⟨hInv, h.valid, h.durable⟩
  · exact h

theorem DurableInv.step (h : DurableInv codec initial s) {event : StateEvent S B T} (hAllowed : s.Allowed event)
    (hOwn : ∀ value, event ≠ .foreign value) : DurableInv codec initial (s.step codec event) := by
  have hInv := h.toHistoryInv.step hAllowed
  cases event with
  | move call choice => exact h.moveCall call choice
  | commit write generation => exact h.commitWrite write hAllowed
  | refuse write => exact h.refuseWrite write
  | foreign value => exact absurd rfl (hOwn value)
  | _ => exact ⟨hInv, h.valid, h.durable⟩

structure Restarts (codec : StateCodec S B) (initial : S) (s : StateSystem S B T) (fresh restarted : Manager S) :
    Prop where
  loaded : fresh.initializeRuntime codec (registerObject s.register) = .ok restarted
  coherent : restarted.coherence = .coherent
  generation : restarted.generation = s.register.version
  replays : Replays codec initial s.commits restarted.state

/-- A restart finds the initial state with the committed updates applied in their order, each once. -/
theorem restart_replays_the_commits (codec : StateCodec S B) (m manager : Manager S) (register : Versioned B Int64)
    (hFresh : register.Unambiguous) (hInit : m.initializeRuntime codec (registerObject register) = .ok manager)
    (events : List (StateEvent S B T))
    (hRun : Run StateSystem.Allowed (StateSystem.step codec) { manager, register } events)
    (hOwn : ∀ value, StateEvent.foreign value ∉ events) (fresh : Manager S)
    (hNew : fresh.initialized = false ∧ fresh.active = true) :
    ∃ restarted, Restarts codec manager.state (events.foldl (StateSystem.step codec) { manager, register }) fresh
      restarted := by
  have hStart : DurableInv codec manager.state ({ manager, register } : StateSystem S B T) := by
    obtain ⟨_, _, state, generation, hRead, rfl⟩ := Manager.initializeRuntime_eq_ok_iff.mp hInit
    obtain rfl : generation = register.version := (matches_of_readRuntimeStateObject hRead).generation
    exact ⟨.init hFresh (registerObject_held register) hInit, by simp, state, hRead, rfl⟩
  have hInv := hRun.foldl_invariant hStart fun s event hMem hAllowed h =>
    h.step hAllowed fun value hEq => hOwn value (hEq ▸ hMem)
  obtain ⟨state, hRead, hReplays⟩ := hInv.durable
  exact ⟨_, Manager.initializeRuntime_eq_ok_iff.mpr ⟨hNew.1, hNew.2, state, _, hRead, rfl⟩, rfl, rfl, hReplays⟩

theorem droppedRun_restarts : ∃ restarted,
    Restarts counterCodec 0 (droppedRun.foldl (StateSystem.step counterCodec) counterStart) { state := 0 } restarted :=
  restart_replays_the_commits counterCodec { state := 0 } _ _ counterStart_unambiguous rfl droppedRun (by decide +kernel)
    (by simp [droppedRun, movesToWrite]) { state := 0 } ⟨rfl, rfl⟩

end Raiko2.Runtime
