import Raiko2.Engine.System

/-!
# Failures are durable before they are visible

With an observer, a worker fails its task in the queue after the observer has taken the failure down. If the observer
refuses, the task is put back, unless its attempts are used up. A worker without a running lease fails no task.
-/

namespace Raiko2.Engine

open Lib Queue

variable {I Proof : Type}

def lastAttempt : UInt32 := 4294967295

section Policy

theorem shiftFactor_pos (exponent : UInt32) : 0 < shiftFactor exponent := by
  rw [shiftFactor]
  split
  · exact Nat.two_pow_pos _
  · decide

theorem durabilityRetryPolicy_retryDelay (attempt : UInt32) :
    (attempt = lastAttempt ∧ durabilityRetryPolicy.retryDelay attempt = none) ∨
      attempt ≠ lastAttempt ∧ ∃ delay, durabilityRetryPolicy.retryDelay attempt = some delay ∧ delay ≠ 0 := by
  have hBound : attempt ≥ lastAttempt ↔ attempt = lastAttempt := by
    constructor
    · intro hLe
      apply UInt32.toNat_inj.mp
      have hLast : lastAttempt.toNat = 4294967295 := rfl
      have hLe' := UInt32.le_iff_toNat_le.mp hLe
      have hLt := attempt.toNat_lt
      omega
    · rintro rfl
      exact UInt32.le_refl _
  by_cases hLast : attempt = lastAttempt
  · exact .inl ⟨hLast, if_pos (hBound.mpr hLast)⟩
  · refine .inr ⟨hLast, _, if_neg fun hGe => hLast (hBound.mp hGe), ?_⟩
    have hMillis : (durationMillis 1000000000).toNat = 1000 := by decide
    have hLimit : (durationMillis 300000000000).toNat = 300000 := by decide
    have hFactor := shiftFactor_pos (if attempt = 0 then 0 else attempt - 1)
    rw [hMillis, hLimit]
    omega

theorem attempt_of_terminal_durability {policy : TaskExecutionPolicy} {attempt : UInt32}
    (hRetry : policy.retry = durabilityRetryPolicy) (h : policy.failureIsTerminal attempt = true) :
    attempt = lastAttempt := by
  rw [TaskExecutionPolicy.failureIsTerminal, hRetry] at h
  rcases durabilityRetryPolicy_retryDelay attempt with ⟨hLast, _⟩ | ⟨_, delay, hDelay, _⟩
  · exact hLast
  · rw [hDelay] at h
    cases h

end Policy

section Requests

variable [DecidableEq Proof] {storeLease : Nat} {queue : EngineQueue I Proof} {nowMs : UInt64} {worker : Worker I Proof}
  {observer : Bool} {r : Request I Proof} {after : TaskRecord (EngineTask Proof) (EngineOutput I Proof) EngineTaskKey}

theorem complete_of_failed {x : EngineTaskKey} {error : String}
    (hNew : ∀ before, queue.store.tasks.lookup x = some before → before.state ≠ .failed error none)
    (hAfter : (EngineState.queueAfter storeLease queue nowMs r).store.tasks.lookup x = some after)
    (hState : after.state = .failed error none) :
    ∃ lease before, r = .complete lease (.error error) ∧ lease.id = x ∧
      queue.store.tasks.lookup x = some before ∧ before.state = .running lease.leaseToken lease.attempt ∧
      lease.executionPolicy.failureIsTerminal lease.attempt = true := by
  have hNotMoved : ∀ before, queue.store.tasks.lookup x = some before → ¬Evolved before after := by
    intro before hBefore hEvolved
    rcases hEvolved.state with hSame | hMoved
    · exact hNew before hBefore (hSame.symm.trans hState)
    · rw [hState] at hMoved
      cases hMoved
  rcases queueAfter_cases storeLease queue nowMs r with
    ⟨hEvolves, _⟩ | ⟨lease, result, rfl, hMatch⟩ | ⟨lease, payload, policy, rfl, hMatch⟩
  · obtain ⟨before, hBefore, hEvolved⟩ := hEvolves x after hAfter
    exact absurd hEvolved (hNotMoved before hBefore)
  · rw [store_complete] at hAfter
    obtain ⟨before, hBefore, hOther, hOwn⟩ := completeWithDisposition_lookup hMatch hAfter
    by_cases hId : x = lease.id
    · subst hId
      obtain ⟨rfl, hFinal⟩ := (hOwn rfl).failed error hState
      obtain ⟨record, hRecord, hRunning⟩ := runningLeaseMatches_iff.mp hMatch
      exact ⟨lease, record, rfl, rfl, hRecord, hRunning, hFinal⟩
    · exact absurd (hOther hId) (hNotMoved before hBefore)
  · change (checkpointPayload queue.store lease payload policy).1.tasks.lookup x = some after at hAfter
    rw [checkpointPayload_lookup payload policy hMatch] at hAfter
    split at hAfter
    · obtain ⟨before, hBefore, rfl⟩ := Option.map_eq_some_iff.mp hAfter
      exact absurd hState (hNew before hBefore)
    · exact absurd hState (hNew after hAfter)

theorem lookup_of_stale (hMeets : Meets observer worker.lease worker.log r)
    (hStale : runningLeaseMatches queue.store worker.lease.id worker.lease.leaseToken worker.lease.attempt = false)
    {x : EngineTaskKey} (hAfter : (EngineState.queueAfter storeLease queue nowMs r).store.tasks.lookup x = some after) :
    queue.store.tasks.lookup x = some after := by
  have hOver : ∀ lease : EngineLease Proof, lease.SameGrant worker.lease →
      runningLeaseMatches queue.store lease.id lease.leaseToken lease.attempt = false := by
    rintro lease ⟨hId, hToken, hAttempt, _⟩
    rw [hId, hToken, hAttempt]
    exact hStale
  cases r with
  | complete lease result =>
    rw [store_complete] at hAfter
    rcases completeWithDisposition_cases queue.store lease result nowMs with ⟨_, hEq⟩ | ⟨hMatch, _⟩
    · rw [hEq] at hAfter
      exact hAfter
    · exact absurd ((hOver lease hMeets.1).symm.trans hMatch) Bool.false_ne_true
  | checkpointPayload lease payload policy =>
    obtain ⟨hAnswer, hRejected, _⟩ := leaseCall_checkpointPayload queue.store lease payload policy
    change (checkpointPayload queue.store lease payload policy).1.tasks.lookup x = some after at hAfter
    rw [hRejected (hAnswer.trans (hOver lease hMeets.1))] at hAfter
    exact hAfter
  | renewLease lease =>
    obtain ⟨hAnswer, hRejected, _⟩ := leaseCall_renewTaskLease queue.store storeLease lease nowMs
    change (renewTaskLease queue.store storeLease lease nowMs).1.tasks.lookup x = some after at hAfter
    rw [hRejected (hAnswer.trans (hOver lease hMeets))] at hAfter
    exact hAfter
  | detach owner mode =>
    obtain rfl : mode = .remove := hMeets
    change (System.step storeLease queue (.detach owner .remove)).store.tasks.lookup x = some after at hAfter
    rw [System.step] at hAfter
    split at hAfter
    · rename_i hEq
      exact lookup_of_detachOwner_remove hEq hAfter
    · exact hAfter
  | _ => exact hAfter

end Requests

section Runs

variable [DecidableEq Proof]

structure FailsDurably (s s' : EngineState I Proof) (worker : Worker I Proof) (r : Request I Proof) : Prop where
  persisted : ∀ x after error,
    (∀ before, s.queue.store.tasks.lookup x = some before → before.state ≠ .failed error none) →
    s'.queue.store.tasks.lookup x = some after → after.state = .failed error none →
    ∃ lease before, r = .complete lease (.error error) ∧ lease.SameGrant worker.lease ∧ lease.id = x ∧
      s.queue.store.tasks.lookup x = some before ∧ before.state = .running lease.leaseToken lease.attempt ∧
      (Persisted lease worker.log ∨ failedToPersist worker.log = true ∧ lease.attempt = lastAttempt)
  fenced : runningLeaseMatches s.queue.store worker.lease.id worker.lease.leaseToken worker.lease.attempt = false →
    ∀ x after error dependency, s'.queue.store.tasks.lookup x = some after →
      after.state = .failed error dependency → s.queue.store.tasks.lookup x = some after

/-- The next request of the worker is the completion that puts its task back, in a step of which the task is tried
again if the lease is still running and attempts are left. -/
def PutsBack (storeLease : Nat) (s : EngineState I Proof) (leaseToken : String) (worker : Worker I Proof) : Prop :=
  ∃ lease error next, worker.rest = .ask (.complete lease (.error error)) next ∧ lease.SameGrant worker.lease ∧
    (runningLeaseMatches s.queue.store lease.id lease.leaseToken lease.attempt = true → lease.attempt ≠ lastAttempt →
      ∀ nowMs answer, ∃ after time,
        (EngineState.step true storeLease s (.work leaseToken nowMs answer)).queue.store.tasks.lookup lease.id =
          some after ∧ after.state = .retrying error lease.attempt time)

variable {s : EngineState I Proof} {worker : Worker I Proof} {event : EngineEvent I Proof} {r : Request I Proof}

theorem EngineInv.failsDurably (h : EngineInv true s) (storeLease : Nat)
    (hAsked : Engine.asked s event = some (worker, r)) :
    FailsDurably s (EngineState.step true storeLease s event) worker r := by
  obtain ⟨nowMs, hQueue, -, hMeets, -⟩ := h.asked storeLease hAsked
  constructor
  · intro x after error hNew hAfter hState
    rw [hQueue] at hAfter
    obtain ⟨lease, before, rfl, hId, hBefore, hRunning, hFinal⟩ := complete_of_failed hNew hAfter hState
    refine ⟨lease, before, rfl, hMeets.1, hId, hBefore, hRunning, ?_⟩
    refine ((hMeets.2 error rfl).final rfl hFinal).imp_right fun hFailed => ⟨hFailed.1, ?_⟩
    exact attempt_of_terminal_durability hFailed.2 hFinal
  · intro hStale x after error dependency hAfter _
    rw [hQueue] at hAfter
    exact lookup_of_stale hMeets hStale hAfter

theorem EngineInv.putsBack (h : EngineInv true s) (storeLease : Nat) {leaseToken : String}
    (hWorker : s.workers.lookup leaseToken = some worker) (hFailed : failedToPersist worker.log = true) :
    PutsBack storeLease s leaseToken worker := by
  have hObeys := (h.ok leaseToken worker hWorker).obeys
  cases hRest : worker.rest with
  | done u =>
    -- A turn does not end on a refusal.
    rw [hRest] at hObeys
    have hCalm : failedToPersist worker.log = false := hObeys
    exact absurd (hCalm.symm.trans hFailed) Bool.false_ne_true
  | ask r next =>
    rw [hRest] at hObeys
    obtain ⟨⟨hMeets, hRefused⟩, -⟩ := hObeys
    obtain ⟨lease, error, rfl, hRetry⟩ := hRefused hFailed
    refine ⟨lease, error, next, hRest, hMeets.1, fun hMatch hAttempt nowMs answer => ?_⟩
    simp only [EngineState.step, hWorker, EngineState.workStep, hRest]
    rw [store_complete]
    rcases durabilityRetryPolicy_retryDelay lease.attempt with ⟨hLast, _⟩ | ⟨_, delay, hDelay, hPositive⟩
    · exact absurd hLast hAttempt
    · rw [← hRetry] at hDelay
      exact completeWithDisposition_retrying hMatch hDelay hPositive

/-- In every run with an observer. Every request of every worker: a task fails only after its failure was taken down,
under a permit and after a renewal of the lease, and a stale lease fails none. Every worker whose permit or whose
failure was refused: it goes on by putting the task back, to be tried again. -/
theorem failures_are_durable_first (storeLease : Nat) (events : List (EngineEvent I Proof))
    (hRun : Run EngineState.Allowed (EngineState.step true storeLease) {} events) :
    (∀ event worker r, asked (events.foldl (EngineState.step true storeLease) {}) event = some (worker, r) →
      FailsDurably (events.foldl (EngineState.step true storeLease) {})
        (EngineState.step true storeLease (events.foldl (EngineState.step true storeLease) {}) event) worker r) ∧
    ∀ leaseToken worker, (events.foldl (EngineState.step true storeLease) {}).workers.lookup leaseToken = some worker →
      failedToPersist worker.log = true →
      PutsBack storeLease (events.foldl (EngineState.step true storeLease) {}) leaseToken worker :=
  ⟨fun _ _ _ => (engineInv_of_run hRun).failsDurably storeLease,
    fun _ _ => (engineInv_of_run hRun).putsBack storeLease⟩

def sampleTask : EngineTaskKey := .proposal .shastaNative { proposalId := 1 }

def sampleAttach (retry : RetryPolicy) : EngineEvent UInt64 UInt64 :=
  .queue (.attach ⟨"root", 1⟩ [⟨sampleTask, ⟨.high, .proposal { proposalId := 1 }⟩, [], ⟨1000000000, retry⟩⟩])

def sampleLease (call : Nat) (worker uuid : String) (nowMs : UInt64) : List (EngineEvent UInt64 UInt64) :=
  [.queue (.startNextReady call worker uuid), .queue (.popReady call (uuid ++ "+")), .queue (.takeReady call nowMs)]

def sampleAnswer (preflight : Except String (PipelineStageResult UInt64)) (completed : Except String (Option UInt64)) :
    (r : Request UInt64 UInt64) → r.Ans
  | .acquireTaskExecutionPermit _ _ => .ok ()
  | .onTaskStarted _ _ _ => ()
  | .loadCompletedProof _ _ => completed
  | .loadProofArtifact _ => .ok none
  | .checkpointCompletedProof _ _ _ => .ok ()
  | .onTaskSucceeded _ _ _ => .ok ()
  | .acquireTerminalFailurePermit _ _ => .ok ()
  | .onTaskFailed _ _ _ => .ok []
  | .preflight _ => preflight
  | .validate _ input => .ok ⟨.validation, input⟩
  | .encode _ _ => .ok []
  | .prove _ _ => .ok 7
  | .aggregate _ _ => .ok 9
  | .getView _ => none
  | .leaseInterruption _ => none
  | .renewLease _ => false
  | .checkpointPayload _ _ _ => false
  | .complete _ _ => .stale
  | .detach _ _ => ()

def sampleWork (leaseToken : String) (completed : Except String (Option UInt64)) : EngineEvent UInt64 UInt64 :=
  .work leaseToken 6 (sampleAnswer (.ok ⟨.preflight, 3⟩) completed)

def failingWork : EngineEvent UInt64 UInt64 := .work "a/u" 6 (sampleAnswer (.error "no input") (.ok none))

def failingRun : List (EngineEvent UInt64 UInt64) :=
  sampleAttach .none :: sampleLease 0 "a" "u" 5 ++ List.replicate 11 failingWork

def refusingAnswer : (r : Request UInt64 UInt64) → r.Ans
  | .onTaskFailed _ _ _ => .error (.runtimeSync "not persisted")
  | r => sampleAnswer (.error "no input") (.ok none) r

def refusedRun : List (EngineEvent UInt64 UInt64) :=
  sampleAttach .none :: sampleLease 0 "a" "u" 5 ++ List.replicate 11 (.work "a/u" 6 refusingAnswer)

/-- One worker whose observer takes the failure down, and one whose observer does not. -/
theorem failingRun_durable :
    (∃ worker r, asked (failingRun.foldl (EngineState.step true 60) {}) failingWork = some (worker, r) ∧
      ((EngineState.step true 60 (failingRun.foldl (EngineState.step true 60) {}) failingWork).queue.store.stateOf
        sampleTask) = some (.failed "no input" none) ∧
      FailsDurably (failingRun.foldl (EngineState.step true 60) {})
        (EngineState.step true 60 (failingRun.foldl (EngineState.step true 60) {}) failingWork) worker r) ∧
    ∃ worker, (refusedRun.foldl (EngineState.step true 60) {}).workers.lookup "a/u" = some worker ∧
      runningLeaseMatches (refusedRun.foldl (EngineState.step true 60) {}).queue.store worker.lease.id
        worker.lease.leaseToken worker.lease.attempt = true ∧ worker.lease.attempt ≠ lastAttempt ∧
      PutsBack 60 (refusedRun.foldl (EngineState.step true 60) {}) "a/u" worker := by
  constructor
  · have hSome : (asked (failingRun.foldl (EngineState.step true 60) {}) failingWork).isSome = true := by decide +kernel
    obtain ⟨⟨worker, r⟩, hAsked⟩ := Option.isSome_iff_exists.mp hSome
    refine ⟨worker, r, hAsked, by decide +kernel, ?_⟩
    exact (failures_are_durable_first 60 failingRun (by decide +kernel)).1 failingWork worker r hAsked
  · have hWorker : ((refusedRun.foldl (EngineState.step true 60) {}).workers.lookup "a/u").map (fun worker =>
        (runningLeaseMatches (refusedRun.foldl (EngineState.step true 60) {}).queue.store worker.lease.id
          worker.lease.leaseToken worker.lease.attempt, worker.lease.attempt, failedToPersist worker.log)) =
        some (true, 1, true) := by decide +kernel
    obtain ⟨worker, hWorker, hEq⟩ := Option.map_eq_some_iff.mp hWorker
    obtain ⟨hMatch, hAttempt, hFailed⟩ : _ ∧ _ ∧ _ := by simpa using hEq
    refine ⟨worker, hWorker, hMatch, by rw [hAttempt]; decide, ?_⟩
    exact (failures_are_durable_first 60 refusedRun (by decide +kernel)).2 "a/u" worker hWorker hFailed

/-- A worker whose lease is over changes no task of the queue, whatever it asks for. -/
theorem stale_workers_change_no_task (observer : Bool) (storeLease : Nat) (events : List (EngineEvent I Proof))
    (event : EngineEvent I Proof) (worker : Worker I Proof) (r : Request I Proof)
    (hRun : Run EngineState.Allowed (EngineState.step observer storeLease) {} events)
    (hAsked : asked (events.foldl (EngineState.step observer storeLease) {}) event = some (worker, r))
    (hStale : runningLeaseMatches (events.foldl (EngineState.step observer storeLease) {}).queue.store worker.lease.id
      worker.lease.leaseToken worker.lease.attempt = false) :
    ∀ x after, (EngineState.step observer storeLease (events.foldl (EngineState.step observer storeLease) {})
        event).queue.store.tasks.lookup x = some after →
      (events.foldl (EngineState.step observer storeLease) {}).queue.store.tasks.lookup x = some after := by
  obtain ⟨nowMs, hQueue, _, hMeets, _⟩ := (engineInv_of_run hRun).asked storeLease hAsked
  intro x after hAfter
  rw [hQueue] at hAfter
  exact lookup_of_stale hMeets hStale hAfter

def expiredRun : List (EngineEvent UInt64 UInt64) := failingRun ++ [.queue (.requeue 5000 [sampleTask])]

theorem expiredRun_unchanged :
    ∃ worker r, asked (expiredRun.foldl (EngineState.step true 60) {}) failingWork = some (worker, r) ∧
      ∀ x after, (EngineState.step true 60 (expiredRun.foldl (EngineState.step true 60) {})
          failingWork).queue.store.tasks.lookup x = some after →
        (expiredRun.foldl (EngineState.step true 60) {}).queue.store.tasks.lookup x = some after := by
  have hStale : (asked (expiredRun.foldl (EngineState.step true 60) {}) failingWork).map (fun p =>
      runningLeaseMatches (expiredRun.foldl (EngineState.step true 60) {}).queue.store p.1.lease.id p.1.lease.leaseToken
        p.1.lease.attempt) = some false := by decide +kernel
  obtain ⟨⟨worker, r⟩, hAsked, hOver⟩ := Option.map_eq_some_iff.mp hStale
  exact ⟨worker, r, hAsked,
    stale_workers_change_no_task true 60 expiredRun failingWork worker r (by decide +kernel) hAsked hOver⟩

end Runs

end Raiko2.Engine
