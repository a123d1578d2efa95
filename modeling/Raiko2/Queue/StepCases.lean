import Raiko2.Queue.Scheduler
import Raiko2.Queue.Views

/-!
# What a step does to the store

The outcomes of a completion and of a step of a client, each with the facts on which the code takes that way. What is
proved of every step is proved outcome by outcome.
-/

namespace Raiko2.Queue

open Lib

variable {P O Id : Type} [DecidableEq Id]

section Taking

omit [DecidableEq Id] in
theorem popReady_cases (s : Inner P O Id) (p : Priority) :
    (s.queue p = [] ∧ popReady s p = (none, s)) ∨
      ∃ id rest, s.queue p = id :: rest ∧ popReady s p = (some id, s.setQueue p rest) := by
  rw [popReady]
  cases s.queue p with
  | nil => exact Or.inl ⟨rfl, rfl⟩
  | cons id rest => exact Or.inr ⟨id, rest, rfl, rfl⟩

/-- The record of a task when it is leased. -/
def TaskRecord.leased (record : TaskRecord P O Id) (storeLease : Nat) (leaseToken : String) (attempt : UInt32)
    (leaseSequence nowMs : UInt64) : TaskRecord P O Id :=
  { record with
    attempt
    state := .running leaseToken attempt
    leaseSequence
    leaseUntilMs := some (leaseEnd storeLease record.executionPolicy nowMs) }

theorem takeReadyLocked_cases (s : Inner P O Id) (id : Id) (storeLease : Nat) (leaseToken : String) (nowMs : UInt64) :
    (takeReadyLocked s storeLease id leaseToken nowMs = (none, s) ∧
      ∀ record, s.tasks.lookup id = some record → record.state = .ready → record.payload = none) ∨
    ∃ record payload attempt sequence, s.tasks.lookup id = some record ∧ record.state = .ready ∧
      record.payload = some payload ∧
      takeReadyLocked s storeLease id leaseToken nowMs =
        (some (payload, record.priority, attempt, record.executionPolicy),
          { s with
            nextSequence := U64.saturatingAdd s.nextSequence 1
            tasks := s.tasks.insert id (record.leased storeLease leaseToken attempt sequence nowMs) }) := by
  rw [takeReadyLocked]
  cases hLookup : s.tasks.lookup id with
  | none =>
    left
    refine ⟨rfl, ?_⟩
    rintro _ ⟨⟩
  | some record =>
    cases hState : record.state
    case ready =>
      cases hPayload : record.payload with
      | none =>
        left
        refine ⟨by simp only [hState, hPayload], ?_⟩
        rintro _ ⟨⟩ _
        exact hPayload
      | some payload =>
        right
        refine ⟨record, payload, if record.attempt.toNat + 1 < 2 ^ 32 then record.attempt + 1 else record.attempt,
          s.nextSequence, rfl, hState, hPayload, ?_⟩
        simp only [hState, hPayload, nextSequence, TaskRecord.leased]
    all_goals
      left
      refine ⟨by simp only [hState], ?_⟩
      rintro _ ⟨⟩ hReady
      rw [hState] at hReady
      cases hReady

end Taking

variable [ReadyQueueSort Id]

section Completing

/-- How a completion ends. Without the lease it does nothing. With it a success releases the tasks that wait, and a
failure is final or puts the task back, at once or for later. -/
inductive Completes (s : Inner P O Id) (lease : TaskLease P Id) (nowMs : UInt64) :
    Except String O → Inner P O Id → TaskCompletionDisposition → Prop
  | stale (result : Except String O)
      (hNot : runningLeaseMatches s lease.id lease.leaseToken lease.attempt = false) :
      Completes s lease nowMs result s .stale
  | succeeded {record : TaskRecord P O Id} (output : O) (hRecord : s.tasks.lookup lease.id = some record)
      (hState : record.state = .running lease.leaseToken lease.attempt) :
      Completes s lease nowMs (.ok output)
        (releaseDependentsLocked (finishTask s lease.id (.succeeded output)) lease.id) .succeeded
  | failed {record : TaskRecord P O Id} (error : String) (hRecord : s.tasks.lookup lease.id = some record)
      (hState : record.state = .running lease.leaseToken lease.attempt)
      (hDelay : lease.executionPolicy.retry.retryDelay lease.attempt = none) :
      Completes s lease nowMs (.error error)
        (failDependentsLocked (finishTask s lease.id (.failed error none)) lease.id "dependency failed") .failed
  | retryNow {record : TaskRecord P O Id} (error : String) (hRecord : s.tasks.lookup lease.id = some record)
      (hState : record.state = .running lease.leaseToken lease.attempt)
      (hDelay : lease.executionPolicy.retry.retryDelay lease.attempt = some 0) :
      Completes s lease nowMs (.error error)
        (pushReadyLocked ((setPayload s lease.id lease.payload).setState lease.id .ready) lease.priority lease.id)
        .retrying
  | retryLater {record : TaskRecord P O Id} (error : String) {delay : Nat} (time : UInt64)
      (hRecord : s.tasks.lookup lease.id = some record)
      (hState : record.state = .running lease.leaseToken lease.attempt)
      (hDelay : lease.executionPolicy.retry.retryDelay lease.attempt = some delay) (hPositive : delay ≠ 0)
      (hTime : retrySchedule delay nowMs = .at time) :
      Completes s lease nowMs (.error error)
        { (setPayload s lease.id lease.payload).setState lease.id (.retrying error lease.attempt time) with
          scheduled := pushScheduled time lease.id s.scheduled } .retrying

theorem completes_stale {s : Inner P O Id} {lease : TaskLease P Id}
    (hNot : runningLeaseMatches s lease.id lease.leaseToken lease.attempt = false) (result : Except String O)
    (nowMs : UInt64) : completeWithDisposition s lease result nowMs = (s, .stale) := by
  cases result with
  | ok output =>
    simp [completeWithDisposition, completeSuccess, completeSuccessAndReleaseDependentsIfRunning, hNot, dispositionOf]
  | error error =>
    simp only [completeWithDisposition, completeFailure]
    split
    · simp [failCompletedLease, completeFailureAndFailDependentsIfRunning, hNot, dispositionOf]
    · split <;> simp [retryNow, retryNowIfRunning, retryLater, retryLaterIfRunning, hNot, dispositionOf]

theorem completeWithDisposition_completes (s : Inner P O Id) (lease : TaskLease P Id) (result : Except String O)
    (nowMs : UInt64) : ∃ store disposition, completeWithDisposition s lease result nowMs = (store, disposition) ∧
      Completes s lease nowMs result store disposition := by
  cases hMatch : runningLeaseMatches s lease.id lease.leaseToken lease.attempt with
  | false => exact ⟨s, .stale, completes_stale hMatch result nowMs, .stale result hMatch⟩
  | true =>
    obtain ⟨record, hRecord, hState⟩ := runningLeaseMatches_iff.mp hMatch
    cases result with
    | ok output =>
      refine ⟨_, _, ?_, .succeeded output hRecord hState⟩
      simp only [completeWithDisposition, completeSuccess, completeSuccessAndReleaseDependentsIfRunning, hMatch, if_true,
        dispositionOf]
    | error error =>
      cases hDelay : lease.executionPolicy.retry.retryDelay lease.attempt with
      | none =>
        refine ⟨_, _, ?_, .failed error hRecord hState hDelay⟩
        simp only [completeWithDisposition, completeFailure, hDelay, failCompletedLease,
          completeFailureAndFailDependentsIfRunning, hMatch, if_true, dispositionOf]
      | some delay =>
        by_cases hZero : delay = 0
        · subst hZero
          refine ⟨_, _, ?_, .retryNow error hRecord hState hDelay⟩
          simp only [completeWithDisposition, completeFailure, hDelay, retrySchedule, if_true, retryNow,
            retryNowIfRunning, hMatch, dispositionOf]
        · refine ⟨_, _, ?_, .retryLater error _ hRecord hState hDelay hZero (if_neg hZero)⟩
          simp only [completeWithDisposition, completeFailure, hDelay, retrySchedule, if_neg hZero, retryLater,
            retryLaterIfRunning, hMatch, if_true, dispositionOf]
          rfl

theorem System.completeStep_store (s : System P O Id) (lease : TaskLease P Id) (result : Except String O)
    (nowMs : UInt64) :
    (s.completeStep lease result nowMs).store = (completeWithDisposition s.store lease result nowMs).1 := by
  unfold System.completeStep
  split <;> rename_i hEq <;> rw [hEq]

end Completing

section Step

variable [BEq P]

/-- What a step does to the store and to the leases handed out. -/
inductive StoreMove (storeLease : Nat) (s : System P O Id) :
    Event P O Id → Inner P O Id → List (TaskLease P Id) → Prop
  | same (event : Event P O Id) : StoreMove storeLease s event s.store s.granted
  | attach {owner : RootOwner} {nodes : List (ExecutionNode P Id)} {store : Inner P O Id} {outcome : AttachOutcome}
      (hOk : attachGraph s.store owner nodes = .ok (store, outcome)) :
      StoreMove storeLease s (.attach owner nodes) store s.granted
  | detach {owner : RootOwner} {mode : DetachMode} {store : Inner P O Id} {outcome : DetachOutcome Id}
      (hOk : detachOwner s.store owner mode = .ok (store, outcome)) :
      StoreMove storeLease s (.detach owner mode) store s.granted
  | pop {call : Nat} {uuid : String} {p : Priority} {id : Id} {rest : List Id} (hQueue : s.store.queue p = id :: rest) :
      StoreMove storeLease s (.popReady call uuid) (s.store.setQueue p rest) s.granted
  | take {call : Nat} {nowMs : UInt64} {c : NextReadyCall Id} {id : Id} {record : TaskRecord P O Id} {payload : P}
      (attempt : UInt32) (sequence : UInt64) (hCall : s.calls.lookup call = some c)
      (hRecord : s.store.tasks.lookup id = some record) (hState : record.state = .ready)
      (hPayload : record.payload = some payload) :
      StoreMove storeLease s (.takeReady call nowMs)
        { s.store with
          nextSequence := U64.saturatingAdd s.store.nextSequence 1
          tasks := s.store.tasks.insert id (record.leased storeLease c.leaseToken attempt sequence nowMs) }
        (⟨id, payload, record.priority, attempt, c.leaseToken, c.worker, record.executionPolicy⟩ :: s.granted)
  | complete {lease : TaskLease P Id} {result : Except String O} {nowMs : UInt64} {store : Inner P O Id}
      {disposition : TaskCompletionDisposition}
      (hEq : completeWithDisposition s.store lease result nowMs = (store, disposition))
      (hDone : Completes s.store lease nowMs result store disposition) :
      StoreMove storeLease s (.complete lease result nowMs) store s.granted
  | checkpoint {lease : TaskLease P Id} {payload : P} {executionPolicy : TaskExecutionPolicy}
      (hMatch : runningLeaseMatches s.store lease.id lease.leaseToken lease.attempt = true) :
      StoreMove storeLease s (.checkpoint lease payload executionPolicy)
        { s.store with
          tasks := s.store.tasks.modify lease.id fun record => { record with payload := some payload, executionPolicy } }
        s.granted
  | renew {lease : TaskLease P Id} {nowMs : UInt64}
      (hMatch : runningLeaseMatches s.store lease.id lease.leaseToken lease.attempt = true) :
      StoreMove storeLease s (.renew lease nowMs)
        { s.store with
          tasks := s.store.tasks.modify lease.id fun record =>
            { record with leaseUntilMs := some (leaseEnd storeLease record.executionPolicy nowMs) } }
        s.granted
  | promote (nowMs : UInt64) :
      StoreMove storeLease s (.promote nowMs) (promoteScheduled s.store nowMs maintenanceTickLimit).2 s.granted
  | requeue (nowMs : UInt64) (order : List Id) :
      StoreMove storeLease s (.requeue nowMs order) (requeueExpiredLeases s.store order nowMs maintenanceTickLimit).2
        s.granted

theorem System.storeMove (storeLease : Nat) (s : System P O Id) (event : Event P O Id) :
    StoreMove storeLease s event (System.step storeLease s event).store (System.step storeLease s event).granted := by
  cases event with
  | attach owner nodes =>
    cases hOk : attachGraph s.store owner nodes with
    | ok result =>
      simp only [System.step, hOk]
      exact .attach hOk
    | _ =>
      simp only [System.step, hOk]
      exact .same _
  | detach owner mode =>
    cases hOk : detachOwner s.store owner mode with
    | ok result =>
      simp only [System.step, hOk]
      exact .detach hOk
    | _ =>
      simp only [System.step, hOk]
      exact .same _
  | startNextReady call worker uuid => exact .same _
  | popReady call uuid =>
    cases hCall : s.calls.lookup call with
    | none =>
      simp only [System.step, hCall]
      exact .same _
    | some c =>
      simp only [System.step, hCall, System.popStep]
      rcases popReady_cases s.store c.priority with ⟨_, hPop⟩ | ⟨id, rest, hQueue, hPop⟩
      · rw [hPop]
        cases c.priority.next <;> exact .same _
      · rw [hPop]
        exact .pop hQueue
  | takeReady call nowMs =>
    cases hCall : s.calls.lookup call with
    | none =>
      simp only [System.step, hCall]
      exact .same _
    | some c =>
      cases hPopped : c.popped with
      | none =>
        simp only [System.step, hCall, hPopped]
        exact .same _
      | some id =>
        simp only [System.step, hCall, hPopped, System.takeStep]
        rcases takeReadyLocked_cases s.store id storeLease c.leaseToken nowMs with
          ⟨hTake, _⟩ | ⟨record, payload, attempt, sequence, hRecord, hState, hPayload, hTake⟩
        · rw [hTake]
          exact .same _
        · rw [hTake]
          exact .take attempt sequence hCall hRecord hState hPayload
  | complete lease result nowMs =>
    obtain ⟨store, disposition, hEq, hDone⟩ := completeWithDisposition_completes s.store lease result nowMs
    simp only [System.step, System.completeStep, hEq]
    cases disposition <;> exact .complete hEq hDone
  | checkpoint lease payload executionPolicy =>
    rw [System.step, checkpointPayload, checkpointPayloadIfRunning]
    split
    · rename_i hMatch
      exact .checkpoint hMatch
    · exact .same _
  | renew lease nowMs =>
    rw [System.step, renewTaskLease, renewLease]
    split
    · rename_i hMatch
      exact .renew hMatch
    · exact .same _
  | promote nowMs => exact .promote nowMs
  | requeue nowMs order => exact .requeue nowMs order

end Step

end Raiko2.Queue
