import Raiko2.Engine.Failures

/-!
# Checkpointed proofs are not proved again

From the first checkpoint of a proof that the queue accepts until the task has ended, is removed or is reset, the
proof of the last accepted checkpoint is kept beside the run. Every later lease of the task carries it.
-/

namespace Raiko2.Engine

open Lib Queue

variable {I Proof : Type}

section Watching

def EngineTask.pendingProof : EngineTask Proof → Option Proof
  | publishProof _ proof => some proof
  | _ => none

def invokesProver : Request I Proof → Bool
  | .prove _ _ => true
  | .aggregate _ _ => true
  | _ => false

/-- The last checkpointed proof of a task, and the leases that were over when its first one was accepted. -/
structure Kept (Proof : Type) where
  proof : Proof
  outdated : List String

/-- The engine with the checkpointed proofs. No step of the engine reads them. -/
structure Watched (I Proof : Type) where
  state : EngineState I Proof := {}
  kept : EngineTaskKey → Option (Kept Proof) := fun _ => none

def stays (before after : EngineStore I Proof) (x : EngineTaskKey) : Bool :=
  match after.stateOf x with
  | none => false
  | some (.succeeded _) => false
  | some (.failed _ _) => false
  | some .cancelled => true
  | some _ =>
    match before.stateOf x with
    | some .cancelled => false
    | _ => true

def acceptedFor (s : EngineState I Proof) (event : EngineEvent I Proof) (x : EngineTaskKey) :
    Option (EngineLease Proof × Proof) :=
  match asked s event with
  | some (_, .checkpointPayload lease payload policy) =>
    if lease.id = x ∧ (checkpointPayload s.queue.store lease payload policy).2 = true then
      payload.pendingProof.map (lease, ·)
    else none
  | _ => none

namespace Watched

variable [DecidableEq Proof]

def keep (w : Watched I Proof) (lease : EngineLease Proof) (proof : Proof) : Kept Proof :=
  ⟨proof, match w.kept lease.id with
    | some kept => kept.outdated
    | none => (w.state.queue.granted.map (·.leaseToken)).filter (· ≠ lease.leaseToken)⟩

def step (observer : Bool) (storeLease : Nat) (w : Watched I Proof) (event : EngineEvent I Proof) : Watched I Proof :=
  let state := EngineState.step observer storeLease w.state event
  { state
    kept := fun x =>
      match acceptedFor w.state event x with
      | some (lease, proof) => some (w.keep lease proof)
      | none => if stays w.state.queue.store state.queue.store x then w.kept x else none }

def Allowed (w : Watched I Proof) (event : EngineEvent I Proof) : Prop := w.state.Allowed event

instance (w : Watched I Proof) (event : EngineEvent I Proof) : Decidable (w.Allowed event) :=
  inferInstanceAs (Decidable (w.state.Allowed event))

end Watched

end Watching

section Records

variable {store store' : EngineStore I Proof} {x : EngineTaskKey} {kept : Kept Proof}

structure HasProof (record : TaskRecord (EngineTask Proof) (EngineOutput I Proof) EngineTaskKey) (proof : Proof) :
    Prop where
  live : record.state.isTerminal = false
  payload : ∃ task, record.payload = some (.publishProof task proof)
  retry : record.executionPolicy.retry = durabilityRetryPolicy

def KeepsFor (store : EngineStore I Proof) (x : EngineTaskKey) (kept : Kept Proof) : Prop :=
  ∃ record, store.tasks.lookup x = some record ∧ (record.state = .cancelled ∨ HasProof record kept.proof)

theorem record_of_stays (h : stays store store' x = true) :
    ∃ after, store'.tasks.lookup x = some after ∧ (after.state = .cancelled ∨ after.state.isTerminal = false ∧
      ∀ before, store.tasks.lookup x = some before → before.state ≠ .cancelled) := by
  rw [stays, Inner.stateOf] at h
  cases hAfter : store'.tasks.lookup x with
  | none =>
    rw [hAfter] at h
    cases h
  | some after =>
    rw [hAfter] at h
    refine ⟨after, rfl, ?_⟩
    cases hState : after.state with
    | cancelled => exact .inl rfl
    | succeeded output => simp [hState] at h
    | failed error dependency => simp [hState] at h
    | _ =>
      refine .inr ⟨rfl, fun before hBefore hCancelled => ?_⟩
      simp [hState, Inner.stateOf, hBefore, hCancelled] at h

theorem KeepsFor.of_keepsTasks (h : KeepsFor store x kept) (k : KeepsTasks store store')
    (hStays : stays store store' x = true) : KeepsFor store' x kept := by
  obtain ⟨after, hAfter, hCancelled | ⟨hLive, hReset⟩⟩ := record_of_stays hStays
  · exact ⟨after, hAfter, .inl hCancelled⟩
  obtain ⟨before, hBefore, hCancelled | hProof⟩ := h
  · exact absurd hCancelled (hReset before hBefore)
  obtain ⟨before', hBefore', hEvolved⟩ := k x after hAfter (.inl (Inner.isLive_iff.mpr ⟨before, hBefore, hProof.live⟩))
  cases hBefore.symm.trans hBefore'
  refine ⟨after, hAfter, .inr ⟨hLive, ?_, ?_⟩⟩
  · rw [hEvolved.payload]
    exact hProof.payload
  · rw [hEvolved.executionPolicy]
    exact hProof.retry

variable {lease : EngineLease Proof}

theorem KeepsFor.of_grant {queue queue' : EngineQueue I Proof} (h : KeepsFor queue.store x kept)
    (hGrant : Grant queue queue' lease) : KeepsFor queue'.store x kept := by
  obtain ⟨record, hRecord, hKept⟩ := h
  by_cases hId : x = lease.id
  · obtain ⟨before, after, hBefore, hReady, _, _, hAfter, hPayload, hPolicy, hRunning⟩ := hGrant.own
    rw [hId] at hRecord
    cases hBefore.symm.trans hRecord
    rw [hReady] at hKept
    obtain ⟨⟨⟩⟩ | hProof := hKept
    refine ⟨after, hId ▸ hAfter, .inr ⟨?_, ?_, ?_⟩⟩
    · rw [hRunning]
      rfl
    · rw [hPayload]
      exact hProof.payload
    · rw [hPolicy]
      exact hProof.retry
  · exact ⟨record, (hGrant.others x hId).trans hRecord, hKept⟩

theorem KeepsFor.payload_of_grant {queue queue' : EngineQueue I Proof} (h : KeepsFor queue.store lease.id kept)
    (hGrant : Grant queue queue' lease) :
    ∃ task, lease.payload = .publishProof task kept.proof := by
  obtain ⟨record, hRecord, hKept⟩ := h
  obtain ⟨before, _, hBefore, hReady, hPayload, _⟩ := hGrant.own
  cases hBefore.symm.trans hRecord
  rw [hReady] at hKept
  obtain ⟨⟨⟩⟩ | ⟨_, ⟨task, hTask⟩, _⟩ := hKept
  exact ⟨task, Option.some.inj (hPayload.symm.trans hTask)⟩

section Matching

variable (hMatch : runningLeaseMatches store lease.id lease.leaseToken lease.attempt = true)

include hMatch

theorem KeepsFor.hasProof (h : KeepsFor store lease.id kept) :
    ∃ record, store.tasks.lookup lease.id = some record ∧ record.state = .running lease.leaseToken lease.attempt ∧
      HasProof record kept.proof := by
  obtain ⟨record, hRecord, hRunning⟩ := runningLeaseMatches_iff.mp hMatch
  obtain ⟨record', hRecord', hKept⟩ := h
  cases hRecord.symm.trans hRecord'
  rw [hRunning] at hKept
  obtain ⟨⟨⟩⟩ | hProof := hKept
  exact ⟨record, hRecord, hRunning, hProof⟩

theorem KeepsFor.of_complete {result : Except String (EngineOutput I Proof)} {nowMs : UInt64}
    (h : KeepsFor store x kept)
    (hStays : stays store (completeWithDisposition store lease result nowMs).1 x = true)
    (hPayload : x = lease.id → ∀ error, result = .error error → ∃ task, lease.payload = .publishProof task kept.proof) :
    KeepsFor (completeWithDisposition store lease result nowMs).1 x kept := by
  obtain ⟨after, hAfter, hCancelled | ⟨hLive, hReset⟩⟩ := record_of_stays hStays
  · exact ⟨after, hAfter, .inl hCancelled⟩
  obtain ⟨before, hBefore, hCancelled | hProof⟩ := h
  · exact absurd hCancelled (hReset before hBefore)
  obtain ⟨before', hBefore', hOther, hOwn⟩ := completeWithDisposition_lookup hMatch hAfter
  cases hBefore.symm.trans hBefore'
  refine ⟨after, hAfter, .inr ⟨hLive, ?_, ?_⟩⟩
  · by_cases hId : x = lease.id
    · obtain ⟨hReturned, error, hError⟩ := (hOwn hId).retried hLive
      obtain ⟨task, hTask⟩ := hPayload hId error hError
      exact ⟨task, hReturned.trans (congrArg some hTask)⟩
    · rw [(hOther hId).payload]
      exact hProof.payload
  · by_cases hId : x = lease.id
    · rw [(hOwn hId).executionPolicy]
      exact hProof.retry
    · rw [(hOther hId).executionPolicy]
      exact hProof.retry

theorem KeepsFor.of_checkpoint {payload : EngineTask Proof} {policy : TaskExecutionPolicy} (h : KeepsFor store x kept) (hOther : x ≠ lease.id) :
    KeepsFor (checkpointPayload store lease payload policy).1 x kept := by
  obtain ⟨record, hRecord, hKept⟩ := h
  refine ⟨record, ?_, hKept⟩
  rw [checkpointPayload_lookup payload policy hMatch, if_neg hOther]
  exact hRecord

theorem keepsFor_checkpoint {payload task : EngineTask Proof} {policy : TaskExecutionPolicy}
    (hPayload : payload = .publishProof task kept.proof) (hRetry : policy.retry = durabilityRetryPolicy) :
    KeepsFor (checkpointPayload store lease payload policy).1 lease.id kept := by
  obtain ⟨record, hRecord, hRunning⟩ := runningLeaseMatches_iff.mp hMatch
  refine ⟨{ record with payload := some payload, executionPolicy := policy }, ?_, .inr ⟨?_, ⟨task, ?_⟩, hRetry⟩⟩
  · rw [checkpointPayload_lookup payload policy hMatch, if_pos rfl, hRecord]
    rfl
  · change record.state.isTerminal = false
    rw [hRunning]
    rfl
  · exact congrArg some hPayload

end Matching

end Records

section Runs

variable {observer : Bool} {w : Watched I Proof} {x : EngineTaskKey} {kept : Kept Proof}

structure WatchedInv (observer : Bool) (w : Watched I Proof) : Prop where
  engine : EngineInv observer w.state
  record : ∀ x kept, w.kept x = some kept → KeepsFor w.state.queue.store x kept
  workers : ∀ kept leaseToken worker, w.state.workers.lookup leaseToken = some worker →
    w.kept worker.lease.id = some kept → leaseToken ∈ kept.outdated ∨ ¬MayProve worker.lease worker.log

theorem MayProve.of_cons {own : EngineLease Proof} {exchange : Exchange I Proof} {log : List (Exchange I Proof)}
    (h : MayProve own (exchange :: log)) : MayProve own log :=
  ⟨h.1, fun earlier hEarlier => h.2 earlier (List.mem_cons_of_mem exchange hEarlier)⟩

theorem kept_of_not_accepted [DecidableEq Proof] {storeLease : Nat} {event : EngineEvent I Proof}
    (hNot : acceptedFor w.state event x = none) (h : (w.step observer storeLease event).kept x = some kept) :
    w.kept x = some kept ∧
      stays w.state.queue.store (EngineState.step observer storeLease w.state event).queue.store x = true := by
  simp only [Watched.step, hNot] at h
  split at h
  · rename_i hStays
    exact ⟨h, hStays⟩
  · cases h

section Accepted

variable {s : EngineState I Proof} {event : EngineEvent I Proof} {worker : Worker I Proof}

theorem acceptedFor_of_not_asked (h : asked s event = none) : acceptedFor s event x = none := by
  rw [acceptedFor, h]

theorem acceptedFor_eq_none {r : Request I Proof} (hAsked : asked s event = some (worker, r))
    (h : ∀ lease payload policy, r = .checkpointPayload lease payload policy → lease.id = x →
      runningLeaseMatches s.queue.store lease.id lease.leaseToken lease.attempt = false) :
    acceptedFor s event x = none := by
  rw [acceptedFor, hAsked]
  cases r with
  | checkpointPayload lease payload policy =>
    refine if_neg fun hAccepted => ?_
    have hAnswer := (leaseCall_checkpointPayload s.queue.store lease payload policy).accepted
    rw [h lease payload policy rfl hAccepted.1] at hAnswer
    exact absurd (hAnswer.symm.trans hAccepted.2) Bool.false_ne_true
  | _ => rfl

theorem acceptedFor_eq_some {lease : EngineLease Proof} {task : EngineTask Proof} {proof : Proof}
    {policy : TaskExecutionPolicy}
    (hAsked : asked s event = some (worker, .checkpointPayload lease (.publishProof task proof) policy))
    (hMatch : runningLeaseMatches s.queue.store lease.id lease.leaseToken lease.attempt = true) :
    acceptedFor s event lease.id = some (lease, proof) := by
  rw [acceptedFor, hAsked]
  exact if_pos ⟨rfl, (leaseCall_checkpointPayload s.queue.store lease _ policy).accepted.trans hMatch⟩

theorem asked_of_acceptedFor {lease : EngineLease Proof} {proof : Proof}
    (h : acceptedFor s event x = some (lease, proof)) :
    ∃ worker payload policy, asked s event = some (worker, .checkpointPayload lease payload policy) ∧ lease.id = x ∧
      runningLeaseMatches s.queue.store lease.id lease.leaseToken lease.attempt = true := by
  rw [acceptedFor] at h
  split at h
  · rename_i worker lease' payload policy hAsked
    split at h
    · rename_i hAccepted
      obtain ⟨proof', _, hEq⟩ := Option.map_eq_some_iff.mp h
      cases hEq
      have hAnswer := (leaseCall_checkpointPayload s.queue.store lease payload policy).accepted
      exact ⟨worker, payload, policy, hAsked, hAccepted.1, hAnswer.symm.trans hAccepted.2⟩
    · cases h
  · cases h

end Accepted

variable [DecidableEq Proof] {storeLease : Nat} {event : EngineEvent I Proof} {worker : Worker I Proof}
  {r : Request I Proof}

omit [DecidableEq Proof] in
theorem WatchedInv.payload_of_complete (h : WatchedInv observer w) (hKept : w.kept x = some kept)
    {lease : EngineLease Proof} (hOk : WorkerOk observer w.state.queue worker) (hGrant : lease.SameGrant worker.lease)
    (hMatch : runningLeaseMatches w.state.queue.store lease.id lease.leaseToken lease.attempt = true)
    (hId : x = lease.id) {error : String} (hReturnable : Returnable worker.lease worker.log lease error) :
    (∃ task, lease.payload = .publishProof task kept.proof) ∧
      (held worker.lease worker.log).2.retry = durabilityRetryPolicy := by
  subst hId
  obtain ⟨record, hRecord, hRunning, hProof⟩ := (h.record _ _ hKept).hasProof hMatch
  obtain ⟨hSameId, hToken, hAttempt, _⟩ := hGrant
  rw [hToken, hAttempt] at hRunning
  obtain ⟨hPayload, hPolicy⟩ := hOk.current record (hSameId ▸ hRecord) hRunning
  obtain ⟨task, hTask⟩ := hProof.payload
  refine ⟨hReturnable.payload task kept.proof (Option.some.inj (hPayload.symm.trans hTask)), ?_⟩
  rw [← hPolicy]
  exact hProof.retry

theorem WatchedInv.record_work (h : WatchedInv observer w) (hAsked : asked w.state event = some (worker, r))
    (hKept : (w.step observer storeLease event).kept x = some kept) :
    KeepsFor (EngineState.step observer storeLease w.state event).queue.store x kept := by
  obtain ⟨nowMs, hQueue, hOk, hMeets, _⟩ := h.engine.asked storeLease hAsked
  rcases queueAfter_cases storeLease w.state.queue nowMs r with
    ⟨hEvolves, hNone⟩ | ⟨lease, result, rfl, hMatch⟩ | ⟨lease, payload, policy, rfl, hMatch⟩
  · have hNot : acceptedFor w.state event x = none := by
      apply acceptedFor_eq_none hAsked
      rintro lease payload policy rfl _
      cases hMatch : runningLeaseMatches w.state.queue.store lease.id lease.leaseToken lease.attempt with
      | false => rfl
      | true => cases (hNone true).symm.trans (accepted_of_matches hMatch true)
    obtain ⟨hBefore, hStays⟩ := kept_of_not_accepted hNot hKept
    rw [hQueue] at hStays ⊢
    exact (h.record x kept hBefore).of_keepsTasks hEvolves.keepsTasks hStays
  · obtain ⟨hBefore, hStays⟩ := kept_of_not_accepted (acceptedFor_eq_none hAsked (by rintro _ _ _ ⟨⟩)) hKept
    rw [hQueue, store_complete] at hStays ⊢
    apply (h.record x kept hBefore).of_complete hMatch hStays
    intro hId error hError
    exact (h.payload_of_complete hBefore hOk hMeets.1 hMatch hId (hMeets.2 error hError).toReturnable).1
  · obtain ⟨_, hRetry, task, proof, rfl⟩ := hMeets
    rw [hQueue]
    by_cases hId : x = lease.id
    · subst hId
      simp only [Watched.step, acceptedFor_eq_some hAsked hMatch] at hKept
      cases hKept
      exact keepsFor_checkpoint hMatch rfl hRetry
    · have hNot : acceptedFor w.state event x = none := by
        apply acceptedFor_eq_none hAsked
        rintro _ _ _ ⟨⟩ hSame
        exact absurd hSame.symm hId
      obtain ⟨hBefore, _⟩ := kept_of_not_accepted hNot hKept
      exact (h.record x kept hBefore).of_checkpoint hMatch hId

theorem WatchedInv.queueStep (h : WatchedInv observer w)
    {event : Event (EngineTask Proof) (EngineOutput I Proof) EngineTaskKey} (hAllowed : w.Allowed (.queue event)) :
    WatchedInv observer (w.step observer storeLease (.queue event)) := by
  have hKept : ∀ x kept, (w.step observer storeLease (.queue event)).kept x = some kept → w.kept x = some kept ∧
      stays w.state.queue.store (System.step storeLease w.state.queue event).store x = true :=
    fun x kept => kept_of_not_accepted (acceptedFor_of_not_asked rfl)
  refine ⟨h.engine.step storeLease (.queue event) hAllowed, ?_, ?_⟩
  · intro x kept hx
    obtain ⟨hBefore, hStays⟩ := hKept x kept hx
    rcases h.engine.queue.keepsTasks_or_grant storeLease hAllowed.2 with ⟨hKeeps, _⟩ | ⟨lease, hGrant⟩
    · exact (h.record x kept hBefore).of_keepsTasks hKeeps hStays
    · exact (h.record x kept hBefore).of_grant hGrant
  · intro kept leaseToken worker hWorker hx
    obtain ⟨hBefore, _⟩ := hKept _ kept hx
    change (EngineState.startWorker observer w.state.workers
      (EngineState.newLease w.state.queue (System.step storeLease w.state.queue event))).lookup leaseToken =
      some worker at hWorker
    rcases h.engine.queue.keepsTasks_or_grant storeLease hAllowed.2 with ⟨_, hGranted⟩ | ⟨lease, hGrant⟩
    · rw [newLease_of_same hGranted] at hWorker
      exact h.workers kept leaseToken worker hWorker hBefore
    · rw [newLease_of_grant hGrant, EngineState.startWorker, Table.lookup_insert_ite] at hWorker
      split at hWorker
      · cases hWorker
        obtain ⟨task, hTask⟩ := (h.record _ kept hBefore).payload_of_grant hGrant
        refine .inr fun hMay => ?_
        have hNot := hMay.1
        change lease.payload.isPublishProof = false at hNot
        rw [hTask] at hNot
        cases hNot
      · exact h.workers kept leaseToken worker hWorker hBefore

theorem WatchedInv.workers_work (h : WatchedInv observer w) {leaseToken other : String} {nowMs : UInt64}
    {answer : (r : Request I Proof) → r.Ans} {worker other' : Worker I Proof} {next : r.Ans → Turn I Proof Unit}
    (hWorker : w.state.workers.lookup leaseToken = some worker) (hRest : worker.rest = .ask r next)
    (hOther : (EngineState.workStep storeLease w.state worker nowMs answer).workers.lookup other = some other')
    (hKept : (w.step observer storeLease (.work leaseToken nowMs answer)).kept other'.lease.id = some kept) :
    other ∈ kept.outdated ∨ ¬MayProve other'.lease other'.log := by
  have hAsked : asked w.state (.work leaseToken nowMs answer) = some (worker, r) := by
    simp only [asked, hWorker, hRest]
  obtain ⟨_, _, hOk, hMeets, _⟩ := h.engine.asked storeLease hAsked
  have hToken := h.engine.token leaseToken worker hWorker
  simp only [EngineState.workStep, hRest, Table.lookup_insert_ite, hToken] at hOther
  cases hAccepted : acceptedFor w.state (.work leaseToken nowMs answer) other'.lease.id with
  | none =>
    obtain ⟨hBefore, _⟩ := kept_of_not_accepted hAccepted hKept
    split at hOther
    · rename_i hOwn
      cases hOther
      refine (h.workers kept leaseToken worker hWorker hBefore).imp (fun hMem => hOwn ▸ hMem) ?_
      exact fun hNot hMay => hNot hMay.of_cons
    · exact h.workers kept other other' hOther hBefore
  | some accepted =>
    obtain ⟨lease, proof⟩ := accepted
    obtain ⟨_, payload, policy, hAsked', hId, hMatch⟩ := asked_of_acceptedFor hAccepted
    cases hAsked.symm.trans hAsked'
    simp only [Watched.step, hAccepted] at hKept
    cases hKept
    split at hOther
    · cases hOther
      refine .inr fun hMay => ?_
      cases (hMay.2 _ List.mem_cons_self).symm.trans (accepted_of_matches hMatch _)
    · rename_i hDistinct
      -- The other worker is known from an earlier checkpoint, or its lease is over with this one.
      rw [Watched.keep, hId]
      cases hEarlier : w.kept other'.lease.id with
      | some earlier => exact h.workers earlier other other' hOther hEarlier
      | none =>
        left
        have hGranted := List.mem_map_of_mem (f := (·.leaseToken)) (h.engine.ok other other' hOther).granted
        rw [h.engine.token other other' hOther] at hGranted
        refine List.mem_filter.mpr ⟨hGranted, decide_eq_true ?_⟩
        rw [hMeets.1.2.1, hToken]
        exact hDistinct

theorem WatchedInv.step (h : WatchedInv observer w) (hAllowed : w.Allowed event) :
    WatchedInv observer (w.step observer storeLease event) := by
  have hIdle : asked w.state event = none → EngineState.step observer storeLease w.state event = w.state →
      WatchedInv observer (w.step observer storeLease event) := by
    intro hAsked hSame
    have hKept : ∀ x kept, (w.step observer storeLease event).kept x = some kept → w.kept x = some kept :=
      fun x kept hx => (kept_of_not_accepted (acceptedFor_of_not_asked hAsked) hx).1
    refine ⟨h.engine.step storeLease event hAllowed, ?_, ?_⟩
    · intro x kept hx
      change KeepsFor (EngineState.step observer storeLease w.state event).queue.store x kept
      rw [hSame]
      exact h.record x kept (hKept x kept hx)
    · intro kept leaseToken worker hWorker hx
      change (EngineState.step observer storeLease w.state event).workers.lookup leaseToken = some worker at hWorker
      rw [hSame] at hWorker
      exact h.workers kept leaseToken worker hWorker (hKept _ kept hx)
  cases event with
  | queue event => exact h.queueStep hAllowed
  | stop leaseToken =>
    have hKept : ∀ x kept, (w.step observer storeLease (.stop leaseToken)).kept x = some kept → w.kept x = some kept :=
      fun x kept hx => (kept_of_not_accepted (acceptedFor_of_not_asked rfl) hx).1
    refine ⟨h.engine.step storeLease (.stop leaseToken) hAllowed, fun x kept hx => h.record x kept (hKept x kept hx), ?_⟩
    intro kept other worker hWorker hx
    change (w.state.workers.erase leaseToken).lookup other = some worker at hWorker
    rw [Table.lookup_erase_ite] at hWorker
    split at hWorker
    · cases hWorker
    · exact h.workers kept other worker hWorker (hKept _ kept hx)
  | work leaseToken nowMs answer =>
    cases hWorker : w.state.workers.lookup leaseToken with
    | none => exact hIdle (by simp only [asked, hWorker]) (by simp only [EngineState.step, hWorker])
    | some worker =>
      cases hRest : worker.rest with
      | done value =>
        exact hIdle (by simp only [asked, hWorker, hRest])
          (by simp only [EngineState.step, hWorker, EngineState.workStep, hRest])
      | ask r next =>
        have hAsked : asked w.state (.work leaseToken nowMs answer) = some (worker, r) := by
          simp only [asked, hWorker, hRest]
        refine ⟨h.engine.step storeLease _ hAllowed, fun x kept hx => h.record_work hAsked hx, ?_⟩
        intro kept other other' hOther hx
        have hLookup : (EngineState.workStep storeLease w.state worker nowMs answer).workers.lookup other = some other' := by
          simpa only [Watched.step, EngineState.step, hWorker] using hOther
        exact h.workers_work hWorker hRest hLookup hx

omit [DecidableEq Proof] in
theorem watchedInv_init : WatchedInv observer ({} : Watched I Proof) where
  engine := engineInv_init
  record := by rintro x kept ⟨⟩
  workers := by rintro kept leaseToken worker ⟨⟩

theorem watchedInv_of_run {events : List (EngineEvent I Proof)}
    (hRun : Run Watched.Allowed (Watched.step observer storeLease) {} events) :
    WatchedInv observer (events.foldl (Watched.step observer storeLease) {}) :=
  hRun.foldl_invariant watchedInv_init fun _ _ _ hAllowed h => h.step hAllowed

structure KeepsProof (s s' : EngineState I Proof) (event : EngineEvent I Proof) (x : EngineTaskKey)
    (kept : Kept Proof) : Prop where
  leased : ∀ lease, EngineState.newLease s.queue s'.queue = some lease → lease.id = x →
    ∃ task, lease.payload = .publishProof task kept.proof
  unproved : ∀ worker r, asked s event = some (worker, r) → worker.lease.id = x → invokesProver r = true →
    worker.lease.leaseToken ∈ kept.outdated
  failed : ∀ worker r after error, asked s event = some (worker, r) →
    s'.queue.store.tasks.lookup x = some after → after.state = .failed error none →
    ∃ lease, r = .complete lease (.error error) ∧ lease.SameGrant worker.lease ∧
      (worker.log.any invalidates = true ∨ error = taskLeaseLostError ∨ lease.attempt = lastAttempt)

theorem WatchedInv.newLease_payload (h : WatchedInv observer w) (hAllowed : w.Allowed event)
    (hKept : w.kept x = some kept) {lease : EngineLease Proof}
    (hLease : EngineState.newLease w.state.queue (EngineState.step observer storeLease w.state event).queue = some lease)
    (hId : lease.id = x) : ∃ task, lease.payload = .publishProof task kept.proof := by
  subst hId
  have hSame : ∀ queue : EngineQueue I Proof, queue.granted = w.state.queue.granted →
      EngineState.newLease w.state.queue queue ≠ some lease := by
    intro queue hGranted hEq
    cases (newLease_of_same hGranted).symm.trans hEq
  cases event with
  | queue event =>
    rcases h.engine.queue.keepsTasks_or_grant storeLease hAllowed.2 with ⟨_, hGranted⟩ | ⟨lease', hGrant⟩
    · exact absurd hLease (hSame _ hGranted)
    · cases (newLease_of_grant hGrant).symm.trans hLease
      exact (h.record _ kept hKept).payload_of_grant hGrant
  | stop leaseToken => exact absurd hLease (hSame _ rfl)
  | work leaseToken nowMs answer =>
    refine absurd hLease (hSame _ ?_)
    rw [EngineState.step]
    split
    · rw [EngineState.workStep]
      split
      · rfl
      · exact granted_queueAfter _
    · rfl

/-- In every run and for every answer of the observer and the prover: while a proof is kept for a task, its next lease
carries the proof, no worker invokes the prover for it but one whose lease was over before, and a worker fails it only
for an invalid proof, for an error that says that the lease was lost, or at the last attempt. -/
theorem checkpointed_proof_is_kept (observer : Bool) (storeLease : Nat) (events : List (EngineEvent I Proof))
    (event : EngineEvent I Proof) (x : EngineTaskKey) (kept : Kept Proof)
    (hRun : Run Watched.Allowed (Watched.step observer storeLease) {} (events ++ [event]))
    (hKept : (events.foldl (Watched.step observer storeLease) {}).kept x = some kept) :
    KeepsProof (events.foldl (Watched.step observer storeLease) {}).state
      (EngineState.step observer storeLease (events.foldl (Watched.step observer storeLease) {}).state event) event x
      kept := by
  obtain ⟨hBefore, hAllowed, _⟩ := Run.append.mp hRun
  have h := watchedInv_of_run hBefore
  generalize events.foldl (Watched.step observer storeLease) {} = w at hKept hAllowed h ⊢
  constructor
  · exact fun lease hLease hId => h.newLease_payload hAllowed hKept hLease hId
  · intro worker r hAsked hId hProver
    obtain ⟨_, _, hOk, hMeets, _⟩ := h.engine.asked storeLease hAsked
    have hMay : MayProve worker.lease worker.log := by
      cases r with
      | prove => exact hMeets
      | aggregate => exact hMeets
      | _ => cases hProver
    obtain ⟨leaseToken, hWorker⟩ := worker_of_asked hAsked
    rw [h.engine.token leaseToken worker hWorker]
    subst hId
    exact (h.workers kept leaseToken worker hWorker hKept).resolve_right (not_not_intro hMay)
  · intro worker r after error hAsked hAfter hState
    obtain ⟨nowMs, hQueue, hOk, hMeets, _⟩ := h.engine.asked storeLease hAsked
    have hNew : ∀ before, w.state.queue.store.tasks.lookup x = some before → before.state ≠ .failed error none := by
      intro before hRecord hFailed
      obtain ⟨record, hRecord', hCancelled | hProof⟩ := h.record x kept hKept
      · cases hRecord.symm.trans hRecord'
        cases hFailed.symm.trans hCancelled
      · cases hRecord.symm.trans hRecord'
        have hLive := hProof.live
        rw [hFailed] at hLive
        cases hLive
    rw [hQueue] at hAfter
    obtain ⟨lease, before, rfl, hId, hRecord, hRunning, hFinal⟩ := complete_of_failed hNew hAfter hState
    refine ⟨lease, rfl, hMeets.1, ?_⟩
    have hReturnable := (hMeets.2 error rfl).toReturnable
    have hMatch := runningLeaseMatches_iff.mpr ⟨before, hId ▸ hRecord, hRunning⟩
    rcases hReturnable.retry with hRetry | hRetry | ⟨_, hReason⟩
    · exact .inr (.inr (attempt_of_terminal_durability hRetry hFinal))
    · have hHeld := (h.payload_of_complete hKept hOk hMeets.1 hMatch hId.symm hReturnable).2
      exact .inr (.inr (attempt_of_terminal_durability (hRetry.trans hHeld) hFinal))
    · exact hReason.elim (fun hLost => .inr (.inl hLost)) .inl

def sampleExpiry : EngineEvent UInt64 UInt64 := .queue (.requeue 5000 [sampleTask])

def checkpointedRun : List (EngineEvent UInt64 UInt64) :=
  sampleAttach .none :: sampleLease 0 "a" "u" 5 ++ List.replicate 27 (sampleWork "a/u" (.ok none))

def handedOnRun : List (EngineEvent UInt64 UInt64) :=
  checkpointedRun ++ [sampleExpiry, .queue (.startNextReady 1 "b" "v"), .queue (.popReady 1 "v+")]

theorem handedOnRun_keeps_proof :
    ∃ kept, (handedOnRun.foldl (Watched.step true 60) {}).kept sampleTask = some kept ∧ kept.proof = 7 ∧
      KeepsProof (handedOnRun.foldl (Watched.step true 60) {}).state
        (EngineState.step true 60 (handedOnRun.foldl (Watched.step true 60) {}).state (.queue (.takeReady 1 5000)))
        (.queue (.takeReady 1 5000)) sampleTask kept := by
  have hProof : ((handedOnRun.foldl (Watched.step true 60) {}).kept sampleTask).map (·.proof) = some 7 := by
    decide +kernel
  obtain ⟨kept, hKept, hSeven⟩ := Option.map_eq_some_iff.mp hProof
  exact ⟨kept, hKept, hSeven, checkpointed_proof_is_kept true 60 handedOnRun (.queue (.takeReady 1 5000)) sampleTask kept
    (by decide +kernel) hKept⟩

def replacedRun : List (EngineEvent UInt64 UInt64) :=
  checkpointedRun ++ sampleExpiry :: sampleLease 1 "b" "v" 5000 ++
    List.replicate 4 (sampleWork "b/v" (.ok (some 8))) ++ sampleExpiry :: sampleLease 2 "c" "w" 5000

def lostTextRun : List (EngineEvent UInt64 UInt64) :=
  checkpointedRun ++ sampleExpiry :: sampleLease 1 "b" "v" 5000 ++
    List.replicate 6 (sampleWork "b/v" (.error taskLeaseLostError))

def staleProverRun : List (EngineEvent UInt64 UInt64) :=
  sampleAttach .none :: sampleLease 0 "a" "u" 5 ++ List.replicate 24 (sampleWork "a/u" (.ok none)) ++
    sampleExpiry :: sampleLease 1 "b" "v" 5000 ++ List.replicate 27 (sampleWork "b/v" (.ok none))

/-- A later lease carries another proof than the first one, a worker with a running lease fails the task for the text
of an error, and a worker with an old lease invokes the prover. -/
theorem checkpointed_proof_replaced_failed_or_proved :
    (Run Watched.Allowed (Watched.step true 60) {} replacedRun ∧
      ((checkpointedRun.foldl (Watched.step true 60) {}).kept sampleTask).map (·.proof) = some 7 ∧
      (∀ k ≤ replacedRun.length, checkpointedRun.length ≤ k →
        (((replacedRun.take k).foldl (Watched.step true 60) {}).kept sampleTask).isSome = true) ∧
      (replacedRun.foldl (EngineState.step true 60) {}).queue.granted.head?.map (fun lease =>
        (lease.id, lease.leaseToken, lease.payload.pendingProof)) = some (sampleTask, "c/w", some 8)) ∧
    (Run EngineState.Allowed (EngineState.step true 60) {} lostTextRun ∧
      runningLeaseMatches (lostTextRun.foldl (EngineState.step true 60) {}).queue.store sampleTask "b/v" 2 = true ∧
      (asked (lostTextRun.foldl (EngineState.step true 60) {}) (sampleWork "b/v" (.ok none))).map (fun asking =>
        (asking.1.lease.leaseToken, asking.1.lease.attempt, asking.1.log.any invalidates)) = some ("b/v", 2, false) ∧
      (EngineState.step true 60 (lostTextRun.foldl (EngineState.step true 60) {})
        (sampleWork "b/v" (.ok none))).queue.store.stateOf sampleTask = some (.failed taskLeaseLostError none)) ∧
    (Run Watched.Allowed (Watched.step true 60) {} staleProverRun ∧
      ((staleProverRun.foldl (Watched.step true 60) {}).kept sampleTask).map (·.proof) = some 7 ∧
      (asked (staleProverRun.foldl (Watched.step true 60) {}).state (sampleWork "a/u" (.ok none))).map (fun asking =>
        (asking.1.lease.id, invokesProver asking.2)) = some (sampleTask, true)) := by
  refine ⟨⟨?_, ?_, ?_, ?_⟩, ⟨?_, ?_, ?_, ?_⟩, ?_, ?_, ?_⟩ <;> decide +kernel

end Runs

end Raiko2.Engine
