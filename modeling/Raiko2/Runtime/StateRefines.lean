import Raiko2.Runtime.StateAlone

/-!
# The runtime state refines its register

When only this process writes: a mutation that returns a result has applied its update once to the durable state that
it found, one that returns an error has applied it at most once and then leaves the copy marked, and an unmarked copy
agrees with the register unless a call is between its write and its return.
-/

namespace Raiko2.Runtime

open Lib Table

variable {S B T : Type} {codec : StateCodec S B} {s s' : StateSystem S B T} {call : Nat} {c c' : Call S B T}

section Invariant

/-- A mutation that took the lock has the outcome that goes with its result; one that did not returns an error. -/
def ReturnOk (codec : StateCodec S B) (r : Return S B T) : Prop :=
  match r.acquired with
  | some found => Outcome codec r.request found r.durable r.manager r.result
  | none => ∃ error, r.result = .error error

def Call.acquired : Call S B T → Option (Acquired S B)
  | .mutate _ acquired _ => acquired
  | .checkReadiness _ => none

structure AloneInv (codec : StateCodec S B) (s : StateSystem S B T) : Prop extends HistoryInv codec s where
  notViolated : s.manager.coherence ≠ .violated
  idle : (∀ call c, s.calls.lookup call = some c → c.holds = false) → s.manager.coherence = .coherent →
    Matches codec s.register.current s.manager.state s.manager.generation
  holder : ∀ call c, s.calls.lookup call = some c → c.holds = true → c.Alone codec s.manager s.register s.writes
  unlocked : ∀ call c, s.calls.lookup call = some c → c.holds = false → c.acquired = none
  returns : ∀ r ∈ s.returns, ReturnOk codec r

variable {manager : Manager S} {writes : List (Write S B T)} {lock : Option Nat} {returns : List (Return S B T)}

theorem AloneInv.continue (h : AloneInv codec s)
    (hInv : HistoryInv codec { s with manager, writes, lock, calls := s.calls.insert call c' })
    (hHolds : c'.holds = true) (hLock : s.lock = some call ∨ s.lock = none) (hViolated : manager.coherence ≠ .violated)
    (hAlone : c'.Alone codec manager s.register writes) :
    AloneInv codec { s with manager, writes, lock, calls := s.calls.insert call c' } := by
  refine ⟨hInv, hViolated, ?_, ?_, ?_, h.returns⟩
  · intro hNone _
    have hFree := hNone call c' (lookup_insert_eq_some.mpr (Or.inl ⟨rfl, rfl⟩))
    cases hFree.symm.trans hHolds
  · intro other d hOther hd
    rcases lookup_insert_eq_some.mp hOther with ⟨_, rfl⟩ | ⟨hNe, hOther⟩
    · exact hAlone
    · rcases hLock with hMine | hFree
      · exact absurd (h.holder_unique hMine hOther hd) hNe
      · cases hFree.symm.trans (h.lock other d hOther hd)
  · intro other d hOther hd
    rcases lookup_insert_eq_some.mp hOther with ⟨_, rfl⟩ | ⟨_, hOther⟩
    · cases hd.symm.trans hHolds
    · exact h.unlocked other d hOther hd

theorem AloneInv.pass (h : AloneInv codec s) {nextCall : Nat}
    (hInv : HistoryInv codec { s with nextCall, calls := s.calls.insert call c' })
    (hBefore : ∀ d, s.calls.lookup call = some d → d.holds = false) (hHolds : c'.holds = false)
    (hUnlocked : c'.acquired = none) : AloneInv codec { s with nextCall, calls := s.calls.insert call c' } := by
  refine ⟨hInv, h.notViolated, ?_, ?_, ?_, h.returns⟩
  · intro hNone
    refine h.idle fun other d hOther => ?_
    by_cases hEq : other = call
    · exact hBefore d (hEq ▸ hOther)
    · exact hNone other d (lookup_insert_eq_some.mpr (Or.inr ⟨hEq, hOther⟩))
  · intro other d hOther hd
    rcases lookup_insert_eq_some.mp hOther with ⟨_, rfl⟩ | ⟨_, hOld⟩
    · cases hHolds.symm.trans hd
    · exact h.holder other d hOld hd
  · intro other d hOther hd
    rcases lookup_insert_eq_some.mp hOther with ⟨_, rfl⟩ | ⟨_, hOld⟩
    · exact hUnlocked
    · exact h.unlocked other d hOld hd

theorem AloneInv.end (h : AloneInv codec s) (hInv : HistoryInv codec ({ s with manager, returns }.endCall call))
    (hReturns : ∀ r ∈ returns, ReturnOk codec r) (hCall : s.calls.lookup call = some c)
    (hManager : (c.holds = false ∧ manager = s.manager) ∨ (c.holds = true ∧ manager.coherence ≠ .violated ∧
      (manager.coherence = .coherent → Matches codec s.register.current manager.state manager.generation))) :
    AloneInv codec ({ s with manager, returns }.endCall call) := by
  have hUnlocked : ∀ other d, (s.calls.erase call).lookup other = some d → d.holds = false → d.acquired = none :=
    fun other d hOther => h.unlocked other d (lookup_erase_eq_some.mp hOther).2
  rcases hManager with ⟨hFree, rfl⟩ | ⟨hHolds, hViolated, hAgrees⟩
  · refine ⟨hInv, h.notViolated, ?_, ?_, hUnlocked, hReturns⟩
    · intro hNone
      refine h.idle fun other d hOther => ?_
      by_cases hEq : other = call
      · cases hCall.symm.trans (hEq ▸ hOther)
        exact hFree
      · exact hNone other d (lookup_erase_eq_some.mpr ⟨hEq, hOther⟩)
    · exact fun other d hOther => h.holder other d (lookup_erase_eq_some.mp hOther).2
  · refine ⟨hInv, hViolated, fun _ => hAgrees, ?_, hUnlocked, hReturns⟩
    intro other d hOther hd
    obtain ⟨hNe, hOther⟩ := lookup_erase_eq_some.mp hOther
    exact absurd (h.holder_unique (h.lock call c hCall hHolds) hOther hd) hNe

theorem HistoryInv.none_holds (h : HistoryInv codec s) (hFree : s.lock = none) (call : Nat) (c : Call S B T)
    (hCall : s.calls.lookup call = some c) : c.holds = false := by
  by_contra hHolds
  cases hFree.symm.trans (h.lock call c hCall (by simpa using hHolds))

theorem AloneInv.matches_of_free (h : AloneInv codec s) (hFree : s.lock = none)
    (hCoherent : s.manager.coherence = .coherent) :
    Matches codec s.register.current s.manager.state s.manager.generation :=
  h.idle (h.none_holds hFree) hCoherent

end Invariant

section Applying

variable {P R : Type} {stay take : P → Call S B T} {point locked : P} {move : Move S B T P R}
  {returned : Manager S → Except ErrorChain R → List (Return S B T)} {outcome : Manager S → Except ErrorChain R → Prop}
  {refused : Except ErrorChain R → Prop}

theorem AloneInv.append_returns (h : AloneInv codec s) {news : List (Return S B T)}
    (hNews : ∀ r ∈ news, ReturnOk codec r) : ∀ r ∈ news ++ s.returns, ReturnOk codec r := by
  intro r hr
  rcases List.mem_append.mp hr with hr | hr
  · exact hNews r hr
  · exact h.returns r hr

theorem AloneInv.applyHeld (h : AloneInv codec s) (hInv : HistoryInv codec s')
    (hCall : s.calls.lookup call = some (stay point)) (hMove : MoveOk codec s.view stay take point move)
    (hApplies : Applies s call stay take returned s' move) (hHolds : (stay point).holds = true)
    (hAlone : MoveAlone codec s.view stay outcome move)
    (hOutcome : ∀ manager result, outcome manager result → ∀ r ∈ returned manager result, ReturnOk codec r) :
    AloneInv codec s' := by
  have hLock : s.lock = some call ∨ s.lock = none := Or.inl (h.lock call _ hCall hHolds)
  cases move with
  | wait => exact hApplies ▸ h
  | goto next =>
    cases hApplies
    exact h.continue hInv (hMove.2.1.trans hHolds) hLock h.notViolated hAlone
  | acquire next => exact hAlone.elim
  | update manager next =>
    cases hApplies
    exact h.continue hInv hMove.2.1 hLock hAlone.1 hAlone.2
  | write base a next =>
    obtain ⟨request, _, rfl⟩ := hApplies
    exact h.continue hInv hMove.2.1 hLock h.notViolated (hAlone _ rfl rfl)
  | finish manager result =>
    cases hApplies
    exact h.end hInv (h.append_returns (hOutcome manager result hAlone.2.2)) hCall
      (Or.inr ⟨hHolds, hAlone.1, hAlone.2.1⟩)

theorem AloneInv.applyUnlocked (h : AloneInv codec s) (hInv : HistoryInv codec s')
    (hCall : s.calls.lookup call = some (stay point)) (hMove : MoveOk codec s.view stay take point move)
    (hApplies : Applies s call stay take returned s' move) (hFree : (stay point).holds = false)
    (hUnlocked : MoveUnlocked s.view locked refused move) (hStay : ∀ next, (stay next).acquired = none)
    (hTake : s.lock = none → (take locked).Alone codec s.manager s.register s.writes)
    (hRefused : ∀ result, refused result → ∀ r ∈ returned s.manager result, ReturnOk codec r) : AloneInv codec s' := by
  cases move with
  | wait => exact hApplies ▸ h
  | goto next =>
    cases hApplies
    refine h.pass hInv (fun d hd => ?_) (hMove.2.1.trans hFree) (hStay next)
    cases hCall.symm.trans hd
    exact hFree
  | acquire next =>
    cases hApplies
    cases hUnlocked
    have hNone : s.lock = none := hMove.2.2.2.2
    exact h.continue hInv hMove.2.1 (Or.inr hNone) h.notViolated (hTake hNone)
  | update manager next => exact hUnlocked.elim
  | write base a next => exact hUnlocked.elim
  | finish manager result =>
    cases hApplies
    obtain ⟨rfl, hResult⟩ := hUnlocked
    exact h.end hInv (h.append_returns (hRefused result hResult)) hCall (Or.inl ⟨hFree, rfl⟩)

theorem Applies.quiet (hApplies : Applies s call stay take returned s' move)
    (hUnlocked : MoveUnlocked s.view locked refused move) :
    s'.manager = s.manager ∧ s'.register = s.register := by
  cases move with
  | update manager next => exact hUnlocked.elim
  | write base a next => exact hUnlocked.elim
  | finish manager result =>
    cases hApplies
    exact ⟨hUnlocked.1, rfl⟩
  | _ =>
    cases hApplies
    exact ⟨rfl, rfl⟩

variable [DecidableEq S] [DecidableEq B]

theorem AloneInv.moveMutate (h : AloneInv codec s) {request : Mutation S T} {acquired : Option (Acquired S B)}
    {point : MutatePoint S B T} (hCall : s.calls.lookup call = some (.mutate request acquired point))
    (choice : Choice) (hInv : HistoryInv codec (s.applyMutate call request acquired
      (mutateMove codec s.view request choice point))) :
    AloneInv codec (s.applyMutate call request acquired (mutateMove codec s.view request choice point)) := by
  have hMove := h.mutateMove hCall choice
  have hApplies := applies_applyMutate s call request acquired (mutateMove codec s.view request choice point)
  by_cases hHolds : point.holds = true
  · obtain ⟨found, rfl, hPoint⟩ := (h.holder call _ hCall hHolds).exists_found
    refine h.applyHeld hInv hCall hMove hApplies hHolds
      (mutateMove_alone s.view hHolds h.notViolated hPoint choice) fun manager result hOutcome r hr => ?_
    cases List.mem_singleton.mp hr
    exact hOutcome
  · have hFree : point.holds = false := by simpa using hHolds
    obtain rfl : acquired = none := h.unlocked call _ hCall hFree
    refine h.applyUnlocked hInv hCall hMove hApplies hFree (mutateMove_unlocked codec s.view request hFree choice)
      (fun _ => rfl) (fun hNone => ?_) fun result hError r hr => ?_
    · exact ⟨⟨rfl, Or.inl ⟨rfl, rfl⟩, h.matches_of_free hNone⟩, rfl, rfl, rfl⟩
    · cases List.mem_singleton.mp hr
      exact hError

omit [DecidableEq S] [DecidableEq B] in
theorem AloneInv.moveReadiness (h : AloneInv codec s) {point : ReadinessPoint S B}
    (hCall : s.calls.lookup call = some (.checkReadiness point)) (choice : Choice)
    (hInv : HistoryInv codec (s.applyReadiness call (readinessMove codec s.view choice point))) :
    AloneInv codec (s.applyReadiness call (readinessMove codec s.view choice point)) := by
  have hMove := h.readinessMove hCall choice
  have hApplies := applies_applyReadiness call hMove
  by_cases hHolds : point.holds = true
  · have hAlone := h.holder call _ hCall hHolds
    exact h.applyHeld hInv hCall hMove hApplies hHolds (readinessMove_alone s.view hHolds h.notViolated hAlone choice)
      (by simp)
  · have hFree : point.holds = false := by simpa using hHolds
    exact h.applyUnlocked hInv hCall hMove hApplies hFree (readinessMove_unlocked codec s.view hFree choice)
      (fun _ => rfl) (fun hNone => ⟨h.matches_of_free hNone, trivial⟩) (by simp)

end Applying

section Runs

theorem AloneInv.flags (h : AloneInv codec s) (active draining : Bool) :
    AloneInv codec { s with manager := { s.manager with active, draining } } where
  toHistoryInv := ⟨h.unambiguous, h.held, h.writes, h.commits, h.sound, h.lock, h.working, h.fresh⟩
  notViolated := h.notViolated
  idle := h.idle
  holder := fun call c hCall hHolds => (h.holder call c hCall hHolds).flags active draining
  unlocked := h.unlocked
  returns := h.returns

theorem exists_of_writing {write : Nat} (h : s.Writing write) : ∃ call request acquired a,
    s.calls.lookup call = some (.mutate request acquired (.writing a)) ∧ a.write = write := by
  obtain ⟨call, _, hWriting⟩ := h
  obtain ⟨c, hCall, hc⟩ := Option.bind_eq_some_iff.mp hWriting
  cases c with
  | checkReadiness point => cases hc
  | mutate request acquired point =>
    cases point with
    | writing a => exact ⟨call, request, acquired, a, hCall, Option.some.inj hc⟩
    | _ => cases hc

theorem AloneInv.commitWrite (h : AloneInv codec s) {write : Nat} {generation : Int64}
    (hFresh : s.register.Fresh generation) (hWriting : s.Writing write) :
    AloneInv codec (s.commitWrite write generation) := by
  have hInv := h.toHistoryInv.commitWrite write hFresh
  obtain ⟨call, request, acquired, a, hCall, rfl⟩ := exists_of_writing hWriting
  have hLock := h.lock call _ hCall rfl
  obtain ⟨found, rfl, hOpen, w, hw, hAttempt, hOutcome⟩ := (h.holder call _ hCall rfl).exists_found
  rw [StateSystem.commitWrite, hw] at hInv ⊢
  dsimp only at hInv ⊢
  split at hInv
  · rename_i hCond
    rw [if_pos hCond]
    refine ⟨hInv, h.notViolated, ?_, ?_, h.unlocked, h.returns⟩
    · intro hNone _
      cases hNone call _ hCall
    · intro other c hOther hHolds
      obtain rfl := h.holder_unique hLock hOther hHolds
      cases hCall.symm.trans hOther
      obtain ⟨hLt, _⟩ := List.getElem?_eq_some_iff.mp hw
      refine ⟨?_, _, List.getElem?_set_self hLt, hAttempt, Or.inr ⟨generation, rfl, ?_⟩⟩
      · exact ⟨hOpen.base, hOpen.update, hOpen.attempt, hOpen.expected, hOpen.coherent, hOpen.kept,
          Or.inr ⟨generation, by rw [hAttempt]; rfl⟩⟩
      · rw [hAttempt]
        rfl
  · rename_i hCond
    rw [if_neg hCond]
    exact h

theorem AloneInv.refuseWrite (h : AloneInv codec s) (write : Nat) : AloneInv codec (s.refuseWrite write) := by
  have hInv := h.toHistoryInv.refuseWrite write
  rw [StateSystem.refuseWrite] at hInv ⊢
  split
  · rename_i w hw
    rw [hw] at hInv
    dsimp only at hInv
    split
    · rename_i hCond
      rw [if_pos hCond] at hInv
      refine ⟨hInv, h.notViolated, h.idle, ?_, h.unlocked, h.returns⟩
      intro call c hCall hHolds
      have hAlone := h.holder call c hCall hHolds
      cases c with
      | checkReadiness point => exact hAlone
      | mutate request acquired point =>
        obtain ⟨found, rfl, hPoint⟩ := hAlone.exists_found
        cases point with
        | writing a =>
          obtain ⟨hOpen, v, hv, hAttempt, hOutcome⟩ := hPoint
          refine ⟨hOpen, v, ?_, hAttempt, hOutcome⟩
          have hNe : write ≠ a.write := by
            rintro rfl
            cases hw.symm.trans hv
            rcases hOutcome with ⟨_, hSame⟩ | ⟨generation, hCommitted, _⟩
            · -- the register still has the generation that the write expects
              apply hCond.2
              rw [hAttempt, hOpen.expected, hOpen.base.generation, ← hSame, Versioned.version]
            · rw [hCommitted] at hCond
              cases hCond.1
          rwa [List.getElem?_set_ne hNe]
        | written a result => rcases result with error | ⟨generation⟩ | ⟨observed⟩ <;> exact hPoint
        | _ => exact hPoint
    · exact h
  · exact h

theorem AloneInv.drop (h : AloneInv codec s) (hOpen : (s.calls.lookup call).bind Call.openWrite = none)
    (hInv : HistoryInv codec (s.endCall call)) : AloneInv codec (s.endCall call) := by
  cases hCall : s.calls.lookup call with
  | none =>
    refine ⟨hInv, h.notViolated, ?_, ?_, ?_, h.returns⟩
    · intro hNone
      refine h.idle fun other c hOther => hNone other c (lookup_erase_eq_some.mpr ⟨?_, hOther⟩)
      rintro rfl
      cases hCall.symm.trans hOther
    · exact fun other c hOther => h.holder other c (lookup_erase_eq_some.mp hOther).2
    · exact fun other c hOther => h.unlocked other c (lookup_erase_eq_some.mp hOther).2
  | some c =>
    refine h.end hInv h.returns hCall ?_
    by_cases hHolds : c.holds = true
    · refine Or.inr ⟨hHolds, h.notViolated, fun hCoherent => ?_⟩
      rcases (h.holder call c hCall hHolds).agrees hHolds hCoherent with hAgrees | ⟨a, _, hWrite, _⟩
      · exact hAgrees
      · rw [hCall] at hOpen
        cases hWrite.symm.trans hOpen
    · exact Or.inl ⟨by simpa using hHolds, rfl⟩

variable {event : StateEvent S B T}

theorem allowed_of_allowedAlone (h : s.AllowedAlone event) : s.Allowed event := by
  cases event with
  | commit write generation => exact h.1
  | foreign value => exact h.elim
  | _ => trivial

theorem AloneInv.step [DecidableEq S] [DecidableEq B] (h : AloneInv codec s) (hAllowed : s.AllowedAlone event) :
    AloneInv codec (s.step codec event) := by
  have hInv := h.toHistoryInv.step (allowed_of_allowedAlone hAllowed)
  have hNew : ∀ d : Call S B T, s.calls.lookup s.nextCall = some d → d.holds = false :=
    fun d hd => absurd (h.fresh s.nextCall d hd) (Nat.lt_irrefl _)
  cases event with
  | mutate request => exact h.pass hInv hNew rfl rfl
  | checkReadiness => exact h.pass hInv hNew rfl rfl
  | move call choice =>
    rw [StateSystem.step, StateSystem.moveCall] at hInv ⊢
    split
    · rename_i request acquired point hCall
      rw [hCall] at hInv
      exact h.moveMutate hCall choice hInv
    · rename_i point hCall
      rw [hCall] at hInv
      exact h.moveReadiness hCall choice hInv
    · exact h
  | drop call => exact h.drop (Option.isNone_iff_eq_none.mp hAllowed) hInv
  | commit write generation => exact h.commitWrite hAllowed.1 hAllowed.2
  | refuse write => exact h.refuseWrite write
  | foreign value => exact hAllowed.elim
  | startDraining => exact h.flags s.manager.active true
  | deactivate => exact h.flags false s.manager.draining

theorem aloneInv_init {m manager : Manager S} {register : Versioned B Int64} (hFresh : register.Unambiguous)
    (hInit : m.initializeRuntime codec (registerObject register) = .ok manager) :
    AloneInv codec ({ manager, register } : StateSystem S B T) := by
  have hObject : registerObject register = objectOf register.current := rfl
  rw [hObject] at hInit
  obtain ⟨hMatches, hCoherent⟩ := Manager.matches_of_initializeRuntime hInit
  refine ⟨.init hFresh (registerObject_held register) hInit, ?_, fun _ _ => hMatches, ?_, ?_, ?_⟩
  · rw [hCoherent]
    nofun
  · rintro call c ⟨⟩
  · rintro call c ⟨⟩
  · rintro r ⟨⟩

theorem aloneInv_of_run [DecidableEq S] [DecidableEq B] {events : List (StateEvent S B T)} (h : AloneInv codec s)
    (hRun : Run StateSystem.AllowedAlone (StateSystem.step codec) s events) :
    AloneInv codec (events.foldl (StateSystem.step codec) s) :=
  hRun.foldl_invariant h fun _ _ _ hAllowed h => h.step hAllowed

/-- An unmarked copy agrees with the register, or the call with the lock has yet to install what it wrote. -/
theorem AloneInv.agrees (h : AloneInv codec s) (hCoherent : s.manager.coherence = .coherent) :
    Matches codec s.register.current s.manager.state s.manager.generation ∨
    ∃ call c a generation, s.lock = some call ∧ s.calls.lookup call = some c ∧ c.openWrite = some a ∧
      s.register.current = some (a.bytes, generation) := by
  by_cases hNone : ∀ call c, s.calls.lookup call = some c → c.holds = false
  · exact Or.inl (h.idle hNone hCoherent)
  · simp only [not_forall, Bool.not_eq_false] at hNone
    obtain ⟨call, c, hCall, hHolds⟩ := hNone
    rcases (h.holder call c hCall hHolds).agrees hHolds hCoherent with hAgrees | ⟨a, generation, hOpen, hLanded⟩
    · exact Or.inl hAgrees
    · exact Or.inr ⟨call, c, a, generation, h.lock call c hCall hHolds, hCall, hOpen, hLanded⟩

variable [DecidableEq S] [DecidableEq B]

theorem AloneInv.quiet (h : AloneInv codec s) (hAllowed : s.AllowedAlone event) :
    ((s.step codec event).manager.state = s.manager.state ∧
      (s.step codec event).manager.generation = s.manager.generation ∧
      (s.step codec event).register.current = s.register.current) ∨
    ∃ call, s.lock = some call ∧
      ((∃ choice, event = .move call choice) ∨ ∃ write generation, event = .commit write generation) := by
  have hSame : ∀ s' : StateSystem S B T, s'.manager = s.manager ∧ s'.register = s.register →
      s'.manager.state = s.manager.state ∧ s'.manager.generation = s.manager.generation ∧
      s'.register.current = s.register.current := by
    rintro s' ⟨hManager, hRegister⟩
    rw [hManager, hRegister]
    exact ⟨rfl, rfl, rfl⟩
  cases event with
  | move call choice =>
    rw [StateSystem.step, StateSystem.moveCall]
    split
    · rename_i request acquired point hCall
      by_cases hHolds : point.holds = true
      · exact Or.inr ⟨call, h.lock call _ hCall hHolds, Or.inl ⟨choice, rfl⟩⟩
      · exact Or.inl (hSame _ ((applies_applyMutate ..).quiet
          (mutateMove_unlocked codec s.view request (by simpa using hHolds) choice)))
    · rename_i point hCall
      by_cases hHolds : point.holds = true
      · exact Or.inr ⟨call, h.lock call _ hCall hHolds, Or.inl ⟨choice, rfl⟩⟩
      · exact Or.inl (hSame _ ((applies_applyReadiness call (h.readinessMove hCall choice)).quiet
          (readinessMove_unlocked codec s.view (by simpa using hHolds) choice)))
    · exact Or.inl ⟨rfl, rfl, rfl⟩
  | commit write generation =>
    obtain ⟨call, request, acquired, a, hCall, _⟩ := exists_of_writing hAllowed.2
    exact Or.inr ⟨call, h.lock call _ hCall rfl, Or.inr ⟨write, generation, rfl⟩⟩
  | refuse write =>
    left
    rw [StateSystem.step, StateSystem.refuseWrite]
    split
    · split <;> exact ⟨rfl, rfl, rfl⟩
    · exact ⟨rfl, rfl, rfl⟩
  | foreign value => exact hAllowed.elim
  | _ => exact Or.inl ⟨rfl, rfl, rfl⟩

structure RefinesRegister (codec : StateCodec S B) (s : StateSystem S B T) : Prop where
  returns : ∀ r ∈ s.returns, ReturnOk codec r
  coherent : s.manager.coherence = .coherent →
    Matches codec s.register.current s.manager.state s.manager.generation ∨
    ∃ call c a generation, s.lock = some call ∧ s.calls.lookup call = some c ∧ c.openWrite = some a ∧
      s.register.current = some (a.bytes, generation)
  quiet : ∀ event, s.AllowedAlone event →
    ((s.step codec event).manager.state = s.manager.state ∧
      (s.step codec event).manager.generation = s.manager.generation ∧
      (s.step codec event).register.current = s.register.current) ∨
    ∃ call, s.lock = some call ∧
      ((∃ choice, event = .move call choice) ∨ ∃ write generation, event = .commit write generation)

theorem runtime_state_refines_register (codec : StateCodec S B) (m manager : Manager S)
    (register : Versioned B Int64) (hFresh : register.Unambiguous)
    (hInit : m.initializeRuntime codec (registerObject register) = .ok manager) (events : List (StateEvent S B T))
    (hRun : Run StateSystem.AllowedAlone (StateSystem.step codec) { manager, register } events) :
    RefinesRegister codec (events.foldl (StateSystem.step codec) { manager, register }) := by
  have hInv := aloneInv_of_run (aloneInv_init hFresh hInit) hRun
  exact ⟨hInv.returns, hInv.agrees, fun event hAllowed => hInv.quiet hAllowed⟩

def ambiguousRun : List (StateEvent Nat Nat Unit) :=
  [.mutate increment] ++ movesToWrite 0 ++
    [.commit 0 5, .move 0 { ok := false }, .move 0 {}, .move 0 { ok := false }]

def failingCheckpoint : Mutation Nat Unit := ⟨fun _ _ => .error ["rejected"], some ⟨true⟩⟩

def checkpointRun : List (StateEvent Nat Nat Unit) :=
  ambiguousRun ++ [.mutate failingCheckpoint] ++ List.replicate 9 (.move 1 {})

theorem checkpointRun_refines_register :
    RefinesRegister counterCodec (checkpointRun.foldl (StateSystem.step counterCodec) counterStart) :=
  runtime_state_refines_register counterCodec { state := 0 } _ _ counterStart_unambiguous rfl checkpointRun
    (by decide +kernel)

/-- A call that returns an error can have changed the copy, and an unmarked copy can differ from the register. -/
theorem checkpointRun_changes_copy :
    (Run StateSystem.AllowedAlone (StateSystem.step counterCodec) counterStart checkpointRun ∧
      ∃ r ∈ (checkpointRun.foldl (StateSystem.step counterCodec) counterStart).returns, ∃ found,
        r.acquired = some found ∧ r.result = .error ["rejected"] ∧ found.state = 0 ∧ r.manager.state = 1) ∧
    ((checkpointRun.take 9).foldl (StateSystem.step counterCodec) counterStart).manager.coherence = .coherent ∧
    ((checkpointRun.take 9).foldl (StateSystem.step counterCodec) counterStart).manager.generation = none ∧
    ((checkpointRun.take 9).foldl (StateSystem.step counterCodec) counterStart).register.version = some 5 := by
  refine ⟨⟨by decide +kernel, _, List.mem_cons_self, _, rfl, rfl, rfl, rfl⟩, rfl, rfl, rfl⟩

/-- When calls are dropped only before they start a write, an unmarked copy has the generation of the register
whenever no call is between its write and its return, and no call ever finds a conflict. -/
theorem generation_agrees_without_open_drops (codec : StateCodec S B) (m manager : Manager S)
    (register : Versioned B Int64) (hFresh : register.Unambiguous)
    (hInit : m.initializeRuntime codec (registerObject register) = .ok manager) (events : List (StateEvent S B T))
    (hRun : Run StateSystem.AllowedAlone (StateSystem.step codec) { manager, register } events) :
    (events.foldl (StateSystem.step codec) { manager, register }).manager.coherence ≠ .violated ∧
    ((events.foldl (StateSystem.step codec) { manager, register }).manager.coherence = .coherent →
      (∀ call c, (events.foldl (StateSystem.step codec) { manager, register }).calls.lookup call = some c →
        c.openWrite = none) →
      (events.foldl (StateSystem.step codec) { manager, register }).manager.generation =
        (events.foldl (StateSystem.step codec) { manager, register }).register.version) := by
  have hInv := aloneInv_of_run (aloneInv_init hFresh hInit) hRun
  refine ⟨hInv.notViolated, fun hCoherent hNone => ?_⟩
  rcases hInv.agrees hCoherent with hAgrees | ⟨call, c, a, _, _, hCall, hOpen, _⟩
  · exact hAgrees.generation
  · cases (hNone call c hCall).symm.trans hOpen

def waitingDropRun : List (StateEvent Nat Nat Unit) :=
  [.mutate increment] ++ movesToWrite 0 ++
    [.commit 0 5, .move 0 {}, .move 0 {}, .move 0 {}, .mutate increment, .move 1 {}, .drop 1]

theorem waitingDropRun_generation_agrees :
    (waitingDropRun.foldl (StateSystem.step counterCodec) counterStart).manager.coherence ≠ .violated ∧
    ((waitingDropRun.foldl (StateSystem.step counterCodec) counterStart).manager.coherence = .coherent →
      (∀ call c, (waitingDropRun.foldl (StateSystem.step counterCodec) counterStart).calls.lookup call = some c →
        c.openWrite = none) →
      (waitingDropRun.foldl (StateSystem.step counterCodec) counterStart).manager.generation =
        (waitingDropRun.foldl (StateSystem.step counterCodec) counterStart).register.version) :=
  generation_agrees_without_open_drops counterCodec { state := 0 } _ _ counterStart_unambiguous rfl waitingDropRun
    (by decide +kernel)

def droppedRun : List (StateEvent Nat Nat Unit) := [.mutate increment] ++ movesToWrite 0 ++ [.commit 0 5, .drop 0]

def afterDropRun : List (StateEvent Nat Nat Unit) :=
  [.mutate ⟨fun _ state => .ok (state + 2, ()), none⟩] ++ movesToWrite 1 ++ [.refuse 1, .move 1 {}, .move 1 {}]

theorem droppedRun_diverges :
    Run StateSystem.AllowedDropping (StateSystem.step counterCodec) counterStart (droppedRun ++ afterDropRun) ∧
    (∀ w ∈ (droppedRun.foldl (StateSystem.step counterCodec) counterStart).writes, w.outcome ≠ .pending) ∧
    (droppedRun.foldl (StateSystem.step counterCodec) counterStart).calls.keys = [] ∧
    (droppedRun.foldl (StateSystem.step counterCodec) counterStart).manager.coherence = .coherent ∧
    (droppedRun.foldl (StateSystem.step counterCodec) counterStart).manager.generation = none ∧
    (droppedRun.foldl (StateSystem.step counterCodec) counterStart).register.version = some 5 ∧
    ((droppedRun ++ afterDropRun).foldl (StateSystem.step counterCodec) counterStart).manager.coherence =
      .violated := by
  refine ⟨by decide +kernel, by decide +kernel, by decide +kernel, rfl, rfl, rfl, by decide +kernel⟩

end Runs

end Raiko2.Runtime
