import Raiko2.Runtime.StateMoves

/-!
# The state and the history of its register

With other writers, dropped calls, late writes and failing reads: the local copy is a value that the register held, a
write of this process is one application of an update to the value that it replaces, and a violation is final.
-/

namespace Raiko2.Runtime

open Lib Table

variable {S B T : Type} {codec : StateCodec S B} {s s' : StateSystem S B T} {call : Nat} {c c' : Call S B T}

section Invariant

variable {register : Versioned B Int64}

/-- A write of this process replaced exactly the state that its update was applied to. -/
structure CommitOk (codec : StateCodec S B) (register : Versioned B Int64) (c : Commit S B T) : Prop where
  adjacent : [some (c.write.attempt.bytes, c.generation), c.replaced] <:+: register.values
  base : Matches codec c.replaced c.write.base c.write.attempt.expected
  update : c.write.request.Updates c.write.base c.write.attempt
  written : Matches codec (some (c.write.attempt.bytes, c.generation)) c.write.attempt.next (some c.generation)

theorem CommitOk.put {c : Commit S B T} (h : CommitOk codec register c) (value : Option (B × Int64)) :
    CommitOk codec (register.put value) c :=
  ⟨h.adjacent.trans (List.suffix_cons value register.values).isInfix, h.base, h.update, h.written⟩

/-- What holds whoever else writes. A violation does not come while a call works on what it read. -/
structure HistoryInv (codec : StateCodec S B) (s : StateSystem S B T) : Prop where
  unambiguous : s.register.Unambiguous
  held : Held codec s.register s.manager.state s.manager.generation
  writes : ∀ w ∈ s.writes, WriteOk codec s.register w
  commits : ∀ c ∈ s.commits, CommitOk codec s.register c
  sound : ∀ call c, s.calls.lookup call = some c → c.Sound codec s.register s.writes
  lock : ∀ call c, s.calls.lookup call = some c → c.holds = true → s.lock = some call
  working : ∀ call c, s.calls.lookup call = some c → c.working = true → s.manager.coherence ≠ .violated
  fresh : ∀ call c, s.calls.lookup call = some c → call < s.nextCall

theorem Call.holds_of_working (h : c.working = true) : c.holds = true := by
  cases c with
  | mutate request acquired point => cases point <;> first | rfl | cases h
  | checkReadiness point => cases point <;> first | rfl | cases h

theorem HistoryInv.holder_unique (h : HistoryInv codec s) {other : Nat} (hLock : s.lock = some call)
    (hOther : s.calls.lookup other = some c) (hHolds : c.holds = true) : other = call :=
  Option.some.inj ((h.lock other c hOther hHolds).symm.trans hLock)

variable {manager : Manager S} {writes : List (Write S B T)} {lock : Option Nat} {returns : List (Return S B T)}

theorem HistoryInv.continue (h : HistoryInv codec s) (hCall : s.calls.lookup call = some c)
    (hHeld : Held codec s.register manager.state manager.generation)
    (hWrites : ∀ w ∈ writes, WriteOk codec s.register w) (hExtends : Extends s.writes writes)
    (hSound : c'.Sound codec s.register writes)
    (hLock : (lock = s.lock ∧ (c'.holds = true → c.holds = true)) ∨ (s.lock = none ∧ lock = some call))
    (hOpen : c'.working = true → manager.coherence ≠ .violated)
    (hOthers : manager.coherence = s.manager.coherence ∨ s.lock = some call) :
    HistoryInv codec { s with manager, writes, lock, calls := s.calls.insert call c' } := by
  refine ⟨h.unambiguous, hHeld, hWrites, h.commits, ?_, ?_, ?_, ?_⟩
  · intro other d hOther
    rcases lookup_insert_eq_some.mp hOther with ⟨_, rfl⟩ | ⟨_, hOther⟩
    · exact hSound
    · exact (h.sound other d hOther).mono (List.Subset.refl _) hExtends
  · intro other d hOther hHolds
    rcases lookup_insert_eq_some.mp hOther with ⟨rfl, rfl⟩ | ⟨_, hOther⟩
    · rcases hLock with ⟨rfl, hBefore⟩ | ⟨_, hTaken⟩
      · exact h.lock other c hCall (hBefore hHolds)
      · exact hTaken
    · have hOld := h.lock other d hOther hHolds
      rcases hLock with ⟨rfl, _⟩ | ⟨hFree, _⟩
      · exact hOld
      · cases hFree.symm.trans hOld
  · intro other d hOther hWorking
    rcases lookup_insert_eq_some.mp hOther with ⟨_, rfl⟩ | ⟨hNe, hOther⟩
    · exact hOpen hWorking
    · rcases hOthers with hSame | hMine
      · exact hSame ▸ h.working other d hOther hWorking
      · exact absurd (h.holder_unique hMine hOther (Call.holds_of_working hWorking)) hNe
  · intro other d hOther
    rcases lookup_insert_eq_some.mp hOther with ⟨rfl, _⟩ | ⟨_, hOther⟩
    · exact h.fresh other c hCall
    · exact h.fresh other d hOther

theorem HistoryInv.end (h : HistoryInv codec s) (hHeld : Held codec s.register manager.state manager.generation)
    (hOthers : manager.coherence = s.manager.coherence ∨ s.lock = some call) :
    HistoryInv codec ({ s with manager, returns }.endCall call) := by
  refine ⟨h.unambiguous, hHeld, h.writes, h.commits, ?_, ?_, ?_, ?_⟩
  · intro other d hOther
    exact h.sound other d (lookup_erase_eq_some.mp hOther).2
  · intro other d hOther hHolds
    obtain ⟨hNe, hOther⟩ := lookup_erase_eq_some.mp hOther
    have hOld := h.lock other d hOther hHolds
    rw [StateSystem.endCall, if_neg, hOld]
    rw [hOld]
    exact fun hEq => hNe (Option.some.inj hEq)
  · intro other d hOther hWorking
    obtain ⟨hNe, hOther⟩ := lookup_erase_eq_some.mp hOther
    rcases hOthers with hSame | hMine
    · exact hSame ▸ h.working other d hOther hWorking
    · exact absurd (h.holder_unique hMine hOther (Call.holds_of_working hWorking)) hNe
  · intro other d hOther
    exact h.fresh other d (lookup_erase_eq_some.mp hOther).2

theorem HistoryInv.start (h : HistoryInv codec s) (hSound : c.Sound codec s.register s.writes)
    (hHolds : c.holds = false) : HistoryInv codec (s.start c) := by
  refine ⟨h.unambiguous, h.held, h.writes, h.commits, ?_, ?_, ?_, ?_⟩
  · intro call d hCall
    rcases lookup_insert_eq_some.mp hCall with ⟨_, rfl⟩ | ⟨_, hOld⟩
    · exact hSound
    · exact h.sound call d hOld
  · intro call d hCall hd
    rcases lookup_insert_eq_some.mp hCall with ⟨_, rfl⟩ | ⟨_, hOld⟩
    · cases hHolds.symm.trans hd
    · exact h.lock call d hOld hd
  · intro call d hCall hd
    rcases lookup_insert_eq_some.mp hCall with ⟨_, rfl⟩ | ⟨_, hOld⟩
    · cases hHolds.symm.trans (Call.holds_of_working hd)
    · exact h.working call d hOld hd
  · intro call d hCall
    rcases lookup_insert_eq_some.mp hCall with ⟨rfl, _⟩ | ⟨_, hOld⟩
    · exact Nat.lt_succ_self s.nextCall
    · exact Nat.lt_succ_of_lt (h.fresh call d hOld)

end Invariant

section Applying

variable {P R : Type}

/-- What `applyMutate` and `applyReadiness` do alike with a move; `returned` is the log entry of a call that ends. -/
def Applies (s : StateSystem S B T) (call : Nat) (stay take : P → Call S B T)
    (returned : Manager S → Except ErrorChain R → List (Return S B T)) (s' : StateSystem S B T) :
    Move S B T P R → Prop
  | .wait => s' = s
  | .goto next => s' = { s with calls := s.calls.insert call (stay next) }
  | .acquire next => s' = { s with lock := some call, calls := s.calls.insert call (take next) }
  | .update manager next => s' = { s with manager, calls := s.calls.insert call (stay next) }
  | .write base a next => ∃ request, (stay next).request = some request ∧ s' = { s with
      writes := s.writes ++ [{ call, request, base, attempt := a }]
      calls := s.calls.insert call (stay next) }
  | .finish manager result =>
    s' = { s with manager, returns := returned manager result ++ s.returns }.endCall call

theorem applies_applyMutate (s : StateSystem S B T) (call : Nat) (request : Mutation S T)
    (acquired : Option (Acquired S B)) (move : Move S B T (MutatePoint S B T) T) :
    Applies s call (.mutate request acquired) (.mutate request (some s.acquired))
      (fun manager result => [⟨call, request, acquired, result, s.register.current, manager⟩])
      (s.applyMutate call request acquired move) move := by
  cases move with
  | write base a next => exact ⟨request, rfl, rfl⟩
  | _ => exact rfl

theorem applies_applyReadiness (call : Nat) {point : ReadinessPoint S B}
    {move : Move S B T (ReadinessPoint S B) Unit}
    (hMove : MoveOk codec s.view .checkReadiness .checkReadiness point move) :
    Applies s call .checkReadiness .checkReadiness (fun _ _ => []) (s.applyReadiness call move) move := by
  cases move with
  | write base a next =>
    obtain ⟨-, -, -, -, -, -, -, request, hNone, -⟩ := hMove
    cases hNone
  | _ => exact rfl

variable {stay take : P → Call S B T} {point : P} {move : Move S B T P R}
  {returned : Manager S → Except ErrorChain R → List (Return S B T)}

section Moving

variable (h : HistoryInv codec s)

include h

theorem HistoryInv.apply (hCall : s.calls.lookup call = some (stay point))
    (hMove : MoveOk codec s.view stay take point move) (hApplies : Applies s call stay take returned s' move) :
    HistoryInv codec s' := by
  have hLock := h.lock call _ hCall
  cases move with
  | wait => exact hApplies ▸ h
  | goto next =>
    cases hApplies
    obtain ⟨hSound, hHolds, hOpen⟩ := hMove
    exact h.continue hCall h.held h.writes (.refl _) hSound (Or.inl ⟨rfl, fun hNext => hHolds.symm.trans hNext⟩)
      hOpen (Or.inl rfl)
  | acquire next =>
    cases hApplies
    obtain ⟨hSound, _, _, hWorking, hFree⟩ := hMove
    exact h.continue hCall h.held h.writes (.refl _) hSound (Or.inr ⟨hFree, rfl⟩)
      (fun hNext => Bool.noConfusion (hWorking.symm.trans hNext)) (Or.inl rfl)
  | update manager next =>
    cases hApplies
    obtain ⟨hSound, _, hHolds, _, hCoherent, hHeld⟩ := hMove
    have hOpen : manager.coherence ≠ .violated := by
      rw [hCoherent]
      nofun
    exact h.continue hCall hHeld h.writes (.refl _) hSound (Or.inl ⟨rfl, fun _ => hHolds⟩) (fun _ => hOpen)
      (Or.inr (hLock hHolds))
  | write base a next =>
    obtain ⟨request, hRequest, rfl⟩ := hApplies
    obtain ⟨hSound, _, hHolds, hWorking, hAttempt, rfl, hExpected, request', hRequest', hUpdates⟩ := hMove
    cases hRequest.symm.trans hRequest'
    have hWrites : ∀ w ∈ s.writes ++ [{ call, request, base := s.manager.state, attempt := a }],
        WriteOk codec s.register w := by
      intro w hw
      rcases List.mem_append.mp hw with hw | hw
      · exact h.writes w hw
      · cases List.mem_singleton.mp hw
        refine ⟨hAttempt, ?_, hUpdates, nofun⟩
        change Held codec s.register s.manager.state a.expected
        rw [hExpected]
        exact h.held
    exact h.continue hCall h.held hWrites (extends_append _ _) (hSound _ rfl) (Or.inl ⟨rfl, fun _ => hHolds⟩)
      (fun _ => h.working call _ hCall hWorking) (Or.inl rfl)
  | finish manager result =>
    cases hApplies
    rcases hMove with rfl | ⟨hHolds, _, hHeld⟩
    · exact h.end h.held (Or.inl rfl)
    · exact h.end hHeld (Or.inr (hLock hHolds))

variable [DecidableEq S] [DecidableEq B]

theorem HistoryInv.mutateMove {request : Mutation S T} {acquired : Option (Acquired S B)}
    {point : MutatePoint S B T} (hCall : s.calls.lookup call = some (.mutate request acquired point))
    (choice : Choice) :
    MutateOk codec s.view request acquired (some s.acquired) point (mutateMove codec s.view request choice point) :=
  mutateMove_ok s.view request acquired _ h.held h.writes (h.sound call _ hCall) (h.working call _ hCall) choice

omit [DecidableEq S] [DecidableEq B] in
theorem HistoryInv.readinessMove {point : ReadinessPoint S B}
    (hCall : s.calls.lookup call = some (.checkReadiness point)) (choice : Choice) :
    MoveOk codec s.view .checkReadiness .checkReadiness point (readinessMove codec s.view choice point) :=
  readinessMove_ok s.view h.held (h.sound call _ hCall) (h.working call _ hCall) choice

/-- A move of a call leaves everything as it is, or is one that `MoveOk` allows, applied. -/
theorem HistoryInv.moveCall_cases (call : Nat) (choice : Choice) :
    s.moveCall codec call choice = s ∨ ∃ (P R : Type) (stay take : P → Call S B T) (point : P) (move : Move S B T P R)
      (returned : Manager S → Except ErrorChain R → List (Return S B T)),
      s.calls.lookup call = some (stay point) ∧ MoveOk codec s.view stay take point move ∧
      Applies s call stay take returned (s.moveCall codec call choice) move := by
  rw [StateSystem.moveCall]
  split
  · rename_i request acquired point hCall
    exact Or.inr ⟨_, _, _, _, point, _, _, hCall, h.mutateMove hCall choice, applies_applyMutate ..⟩
  · rename_i point hCall
    have hMove := h.readinessMove hCall choice
    exact Or.inr ⟨_, _, _, _, point, _, _, hCall, hMove, applies_applyReadiness call hMove⟩
  · exact Or.inl rfl

theorem HistoryInv.moveCall (call : Nat) (choice : Choice) : HistoryInv codec (s.moveCall codec call choice) := by
  rcases h.moveCall_cases call choice with hSame | ⟨P, R, stay, take, point, move, returned, hCall, hMove, hApplies⟩
  · rwa [hSame]
  · exact h.apply hCall hMove hApplies

end Moving

end Applying

section Runs

variable {register : Versioned B Int64}

section Stepping

variable (h : HistoryInv codec s)

include h

theorem HistoryInv.extend {writes : List (Write S B T)} {commits : List (Commit S B T)}
    (hUnambiguous : register.Unambiguous) (hSub : s.register.values ⊆ register.values)
    (hExtends : Extends s.writes writes) (hWrites : ∀ w ∈ writes, WriteOk codec register w)
    (hCommits : ∀ c ∈ commits, CommitOk codec register c) :
    HistoryInv codec { s with register, writes, commits } where
  unambiguous := hUnambiguous
  held := h.held.mono hSub
  writes := hWrites
  commits := hCommits
  sound := fun call c hCall => (h.sound call c hCall).mono hSub hExtends
  lock := h.lock
  working := h.working
  fresh := h.fresh

theorem HistoryInv.commitWrite (write : Nat) {generation : Int64}
    (hFresh : s.register.Fresh generation) : HistoryInv codec (s.commitWrite write generation) := by
  rw [StateSystem.commitWrite]
  split
  · rename_i w hw
    split
    · rename_i hCond
      have hWrite := h.writes w (List.mem_of_getElem? hw)
      have hSub : s.register.values ⊆ (s.register.put (some (w.attempt.bytes, generation))).values :=
        fun _ => Versioned.mem_put_of_mem
      refine h.extend (h.unambiguous.put_fresh hFresh) hSub (extends_set hw rfl) ?_ ?_
      · intro v hv
        rcases List.mem_or_eq_of_mem_set hv with hv | rfl
        · exact (h.writes v hv).mono hSub
        · refine ⟨hWrite.attempt, hWrite.base.mono hSub, hWrite.update, ?_⟩
          rintro _ ⟨⟩
          exact Versioned.current_mem
      · intro c hc
        rcases List.mem_cons.mp hc with rfl | hc
        · -- the value with the expected generation is the one that is replaced
          obtain ⟨value, hValue, hMatches⟩ := hWrite.base
          have hEq : value = s.register.current :=
            h.unambiguous.eq_current hValue (hMatches.generation.symm.trans hCond.2.symm)
          refine ⟨⟨[], s.register.past, rfl⟩, hEq ▸ hMatches, hWrite.update, hWrite.attempt.matches generation⟩
        · exact (h.commits c hc).put _
    · exact h
  · exact h

theorem HistoryInv.refuseWrite (write : Nat) : HistoryInv codec (s.refuseWrite write) := by
  rw [StateSystem.refuseWrite]
  split
  · rename_i w hw
    split
    · have hWrite := h.writes w (List.mem_of_getElem? hw)
      refine h.extend h.unambiguous (List.Subset.refl _) (extends_set hw rfl) ?_ h.commits
      intro v hv
      rcases List.mem_or_eq_of_mem_set hv with hv | rfl
      · exact h.writes v hv
      · exact ⟨hWrite.attempt, hWrite.base, hWrite.update, nofun⟩
    · exact h
  · exact h

theorem HistoryInv.foreign {value : Option (B × Int64)} (hUnambiguous : (s.register.put value).Unambiguous) :
    HistoryInv codec { s with register := s.register.put value } :=
  h.extend hUnambiguous (fun _ => Versioned.mem_put_of_mem) (.refl _)
    (fun w hw => (h.writes w hw).mono fun _ => Versioned.mem_put_of_mem) fun c hc => (h.commits c hc).put value

theorem HistoryInv.step [DecidableEq S] [DecidableEq B] {event : StateEvent S B T}
    (hAllowed : s.Allowed event) : HistoryInv codec (s.step codec event) := by
  cases event with
  | mutate request => exact h.start trivial rfl
  | checkReadiness => exact h.start trivial rfl
  | move call choice => exact h.moveCall call choice
  | drop call => exact h.end h.held (Or.inl rfl)
  | commit write generation => exact h.commitWrite write hAllowed
  | refuse write => exact h.refuseWrite write
  | foreign value =>
    cases value with
    | none => exact h.foreign h.unambiguous.put_none
    | some value => exact h.foreign (h.unambiguous.put_fresh hAllowed)
  | startDraining => exact ⟨h.unambiguous, h.held, h.writes, h.commits, h.sound, h.lock, h.working, h.fresh⟩
  | deactivate => exact ⟨h.unambiguous, h.held, h.writes, h.commits, h.sound, h.lock, h.working, h.fresh⟩

end Stepping

theorem Manager.matches_of_initializeRuntime {m manager : Manager S} {value : Option (B × Int64)}
    (hInit : m.initializeRuntime codec (objectOf value) = .ok manager) :
    Matches codec value manager.state manager.generation ∧ manager.coherence = .coherent := by
  simp only [Manager.initializeRuntime, Manager.installRuntimeStateObject, Manager.installRuntimeState] at hInit
  split at hInit
  · cases hInit
  · cases hRead : readRuntimeStateObject codec (objectOf value) with
    | error error =>
      rw [hRead] at hInit
      cases hInit
    | ok read =>
      obtain ⟨state, generation⟩ := read
      rw [hRead] at hInit
      by_cases hActive : m.active = true
      · simp only [hActive] at hInit
        cases hInit
        exact ⟨matches_of_readRuntimeStateObject hRead, rfl⟩
      · simp only [hActive] at hInit
        cases hInit

theorem HistoryInv.init {m manager : Manager S} {stored : Option (RuntimeStateObject B)} (hFresh : register.Unambiguous)
    (hStored : ObjectHeld register stored) (hInit : m.initializeRuntime codec stored = .ok manager) :
    HistoryInv codec ({ manager, register } : StateSystem S B T) := by
  obtain ⟨value, hValue, rfl⟩ := hStored
  refine ⟨hFresh, ⟨value, hValue, (Manager.matches_of_initializeRuntime hInit).1⟩, nofun, nofun, ?_, ?_, ?_, ?_⟩ <;>
    · rintro call c ⟨⟩

variable [DecidableEq S] [DecidableEq B]

/-- The manager as it was left by a violation, with as many writes as were started by then. -/
structure Frozen (codec : StateCodec S B) (before s : StateSystem S B T) : Prop extends HistoryInv codec s where
  coherence : s.manager.coherence = .violated
  state : s.manager.state = before.manager.state
  generation : s.manager.generation = before.manager.generation
  started : s.writes.length = before.writes.length

variable {before : StateSystem S B T}

theorem Frozen.moveCall (h : Frozen codec before s) (call : Nat) (choice : Choice) :
    Frozen codec before (s.moveCall codec call choice) := by
  have hInv := h.toHistoryInv.moveCall call choice
  rcases h.moveCall_cases call choice with hSame | ⟨P, R, stay, take, point, move, returned, hCall, hMove, hApplies⟩
  · rwa [hSame]
  have hIdle : (stay point).working ≠ true := fun hWorking => h.working call _ hCall hWorking h.coherence
  generalize s.moveCall codec call choice = s' at hInv hApplies ⊢
  cases move with
  | update manager next => exact absurd hMove.2.2.2.1 hIdle
  | write base a next => exact absurd hMove.2.2.2.1 hIdle
  | finish manager result =>
    cases hApplies
    rcases hMove with rfl | ⟨_, hNot, _⟩
    · exact ⟨hInv, h.coherence, h.state, h.generation, h.started⟩
    · exact absurd h.coherence hNot
  | _ =>
    cases hApplies
    exact ⟨hInv, h.coherence, h.state, h.generation, h.started⟩

theorem Frozen.step (h : Frozen codec before s) {event : StateEvent S B T}
    (hAllowed : s.Allowed event) : Frozen codec before (s.step codec event) := by
  have hInv := h.toHistoryInv.step hAllowed
  cases event with
  | move call choice => exact h.moveCall call choice
  | commit write generation =>
    rw [StateSystem.step, StateSystem.commitWrite] at hInv ⊢
    split
    · split
      · exact ⟨by simp_all, h.coherence, h.state, h.generation, by simpa using h.started⟩
      · exact h
    · exact h
  | refuse write =>
    rw [StateSystem.step, StateSystem.refuseWrite] at hInv ⊢
    split
    · split
      · exact ⟨by simp_all, h.coherence, h.state, h.generation, by simpa using h.started⟩
      · exact h
    · exact h
  | _ => exact ⟨hInv, h.coherence, h.state, h.generation, h.started⟩

theorem historyInv_of_run {events : List (StateEvent S B T)} (h : HistoryInv codec s)
    (hRun : Run StateSystem.Allowed (StateSystem.step codec) s events) :
    HistoryInv codec (events.foldl (StateSystem.step codec) s) :=
  hRun.foldl_invariant h fun _ _ _ hAllowed h => h.step hAllowed

theorem frozen_of_run {events : List (StateEvent S B T)} (h : HistoryInv codec s)
    (hViolated : s.manager.coherence = .violated)
    (hRun : Run StateSystem.Allowed (StateSystem.step codec) s events) :
    Frozen codec s (events.foldl (StateSystem.step codec) s) :=
  hRun.foldl_invariant ⟨h, hViolated, rfl, rfl, rfl⟩ fun _ _ _ hAllowed h => h.step hAllowed

structure NoLostUpdate (codec : StateCodec S B) (s : StateSystem S B T) : Prop where
  held : Held codec s.register s.manager.state s.manager.generation
  commits : ∀ c ∈ s.commits, CommitOk codec s.register c
  final : s.manager.coherence = .violated → ∀ later : List (StateEvent S B T),
    Run StateSystem.Allowed (StateSystem.step codec) s later →
    (later.foldl (StateSystem.step codec) s).manager.coherence = .violated ∧
    (later.foldl (StateSystem.step codec) s).manager.state = s.manager.state ∧
    (later.foldl (StateSystem.step codec) s).manager.generation = s.manager.generation ∧
    (later.foldl (StateSystem.step codec) s).writes.length = s.writes.length

theorem no_lost_update (codec : StateCodec S B) (m manager : Manager S) (register : Versioned B Int64)
    (stored : Option (RuntimeStateObject B)) (hFresh : register.Unambiguous) (hStored : ObjectHeld register stored)
    (hInit : m.initializeRuntime codec stored = .ok manager) (events : List (StateEvent S B T))
    (hRun : Run StateSystem.Allowed (StateSystem.step codec) { manager, register } events) :
    NoLostUpdate codec (events.foldl (StateSystem.step codec) { manager, register }) := by
  have hInv := historyInv_of_run (HistoryInv.init hFresh hStored hInit) hRun
  refine ⟨hInv.held, hInv.commits, fun hViolated later hLater => ?_⟩
  have hFrozen := frozen_of_run hInv hViolated hLater
  exact ⟨hFrozen.coherence, hFrozen.state, hFrozen.generation, hFrozen.started⟩

def counterCodec : StateCodec Nat Nat where
  default := 0
  encode := fun _ state => state
  decode := .ok
  validateRuntimeState := fun _ => .ok ()
  forget := id
  decode_encode := fun _ _ => rfl
  forget_forget := fun _ => rfl
  validate_forget := fun _ _ => rfl

def increment : Mutation Nat Unit := ⟨fun _ state => .ok (state + 1, ()), none⟩

def movesToWrite (call : Nat) : List (StateEvent Nat Nat Unit) := List.replicate 7 (.move call {})

def foreignRun : List (StateEvent Nat Nat Unit) :=
  [.mutate increment] ++ movesToWrite 0 ++ [.commit 0 5, .move 0 {}, .move 0 {}, .move 0 {},
    .foreign (some (40, 6)), .mutate increment] ++ movesToWrite 1 ++ [.refuse 1, .move 1 {}, .move 1 {}]

def counterStart : StateSystem Nat Nat Unit :=
  { manager := { state := 0, initialized := true }, register := ⟨none, []⟩ }

theorem counterStart_unambiguous : counterStart.register.Unambiguous := by
  intro v hv w hw _
  rw [List.mem_singleton.mp hv, List.mem_singleton.mp hw]

theorem foreignRun_no_lost_update :
    (foreignRun.foldl (StateSystem.step counterCodec) counterStart).manager.coherence = .violated ∧
    NoLostUpdate counterCodec (foreignRun.foldl (StateSystem.step counterCodec) counterStart) := by
  refine ⟨by decide +kernel, no_lost_update counterCodec { state := 0 } _ _ none counterStart_unambiguous ?_ rfl
    foreignRun ?_⟩
  · exact ⟨none, Versioned.current_mem, rfl⟩
  · decide +kernel

end Runs

end Raiko2.Runtime
