import Raiko2.Engine.TurnRules
import Raiko2.Queue.Payloads

/-!
# The engine

Any number of workers, each with the lease it got from `next_ready`, next to the other clients of the queue and its
maintenance. What a worker asks of the queue is done on the queue; all other answers, those of the observer, the
pipeline and the prover, are arbitrary. A worker can be stopped between any two of its requests.
-/

namespace Raiko2.Engine

open Lib Queue

variable {I Proof : Type}

/-- A worker at its lease: what it has asked and what it will do. -/
structure Worker (I Proof : Type) where
  lease : EngineLease Proof
  log : List (Exchange I Proof)
  rest : Turn I Proof Unit

abbrev EngineStore (I Proof : Type) := Inner (EngineTask Proof) (EngineOutput I Proof) EngineTaskKey

abbrev EngineQueue (I Proof : Type) := Queue.System (EngineTask Proof) (EngineOutput I Proof) EngineTaskKey

structure EngineState (I Proof : Type) where
  queue : EngineQueue I Proof := {}
  workers : Table String (Worker I Proof) := ∅

/-- A step of a client of the queue, a request of a worker, or the end of a worker. -/
inductive EngineEvent (I Proof : Type) where
  | queue (event : Event (EngineTask Proof) (EngineOutput I Proof) EngineTaskKey)
  | work (leaseToken : String) (nowMs : UInt64) (answer : (r : Request I Proof) → r.Ans)
  | stop (leaseToken : String)

section Requests

def interruptionOf (store : EngineStore I Proof) (lease : EngineLease Proof) : Option LeaseInterruption :=
  match store.stateOf lease.id with
  | some (.running leaseToken attempt) =>
    if leaseToken = lease.leaseToken ∧ attempt = lease.attempt then none else some .lost
  | some .cancelled => some .cancelled
  | _ => some .lost

def storeEvent (nowMs : UInt64) :
    Request I Proof → Option (Event (EngineTask Proof) (EngineOutput I Proof) EngineTaskKey)
  | .renewLease lease => some (.renew lease nowMs)
  | .checkpointPayload lease payload policy => some (.checkpoint lease payload policy)
  | .complete lease result => some (.complete lease result nowMs)
  | .detach owner mode => some (.detach owner mode)
  | _ => none

/-- The answer to a request. The queue gives its own; a wait for an interruption may go on although there is one. -/
def answerOf (storeLease : Nat) (store : EngineStore I Proof) (nowMs : UInt64) :
    (r : Request I Proof) → r.Ans → r.Ans
  | .renewLease lease, _ => (renewTaskLease store storeLease lease nowMs).2
  | .checkpointPayload lease payload policy, _ => (checkpointPayload store lease payload policy).2
  | .complete lease result, _ => (completeWithDisposition store lease result nowMs).2
  | .getView id, _ => store.stateOf id
  | .leaseInterruption lease, noticed => noticed.bind fun _ => interruptionOf store lease
  | _, answer => answer

end Requests

namespace EngineState

variable [DecidableEq Proof] (observer : Bool) (storeLease : Nat)

def newLease (before after : EngineQueue I Proof) : Option (EngineLease Proof) :=
  if before.granted.length < after.granted.length then after.granted.head? else none

def startWorker (workers : Table String (Worker I Proof)) : Option (EngineLease Proof) → Table String (Worker I Proof)
  | some lease => workers.insert lease.leaseToken ⟨lease, [], runLeased observer lease⟩
  | none => workers

def queueAfter (queue : EngineQueue I Proof) (nowMs : UInt64) (r : Request I Proof) : EngineQueue I Proof :=
  match storeEvent nowMs r with
  | some event => System.step storeLease queue event
  | none => queue

def workStep (s : EngineState I Proof) (worker : Worker I Proof) (nowMs : UInt64) (answer : (r : Request I Proof) → r.Ans) :
    EngineState I Proof :=
  match worker.rest with
  | .done _ => s
  | .ask r next =>
    let answer := answerOf storeLease s.queue.store nowMs r (answer r)
    { queue := queueAfter storeLease s.queue nowMs r
      workers := s.workers.insert worker.lease.leaseToken ⟨worker.lease, ⟨r, answer⟩ :: worker.log, next answer⟩ }

def step (s : EngineState I Proof) : EngineEvent I Proof → EngineState I Proof
  | .queue event =>
    let queue := System.step storeLease s.queue event
    ⟨queue, startWorker observer s.workers (newLease s.queue queue)⟩
  | .work leaseToken nowMs answer =>
    match s.workers.lookup leaseToken with
    | some worker => workStep storeLease s worker nowMs answer
    | none => s
  | .stop leaseToken => { s with workers := s.workers.erase leaseToken }

def Allowed (s : EngineState I Proof) : EngineEvent I Proof → Prop
  | .queue event => s.queue.Allowed event ∧ event.isWorkers = false
  | _ => True

instance (s : EngineState I Proof) (event : EngineEvent I Proof) : Decidable (s.Allowed event) := by
  cases event <;> unfold Allowed <;> infer_instance

end EngineState

section Invariant

variable {observer : Bool} {s : EngineState I Proof} {worker : Worker I Proof}

/-- While the lease of a worker runs, the queue has for its task what the worker thinks it has. -/
def Current (store : EngineStore I Proof) (worker : Worker I Proof) : Prop :=
  ∀ record, store.tasks.lookup worker.lease.id = some record →
    record.state = .running worker.lease.leaseToken worker.lease.attempt →
    record.payload = some (held worker.lease worker.log).1 ∧
      record.executionPolicy = (held worker.lease worker.log).2

structure WorkerOk (observer : Bool) (queue : EngineQueue I Proof) (worker : Worker I Proof) : Prop where
  granted : worker.lease ∈ queue.granted
  obeys : (turnMonitor observer worker.lease).Obeys worker.rest Calm worker.log
  current : Current queue.store worker

structure EngineInv (observer : Bool) (s : EngineState I Proof) : Prop where
  queue : SystemInv s.queue
  token : ∀ leaseToken worker, s.workers.lookup leaseToken = some worker → worker.lease.leaseToken = leaseToken
  ok : ∀ leaseToken worker, s.workers.lookup leaseToken = some worker → WorkerOk observer s.queue worker

theorem Current.of_keepsTasks {store store' : EngineStore I Proof} (h : Current store worker)
    (k : KeepsTasks store store') : Current store' worker := by
  intro after hAfter hState
  obtain ⟨before, hBefore, hEvolved⟩ := k _ after hAfter (Or.inr ⟨_, _, hState⟩)
  rw [hEvolved.payload, hEvolved.executionPolicy]
  exact h before hBefore (hEvolved.running hState)

variable {lease : EngineLease Proof}

theorem Current.of_grant {queue queue' : EngineQueue I Proof} (h : Current queue.store worker)
    (hGranted : worker.lease ∈ queue.granted) (hGrant : Grant queue queue' lease) :
    Current queue'.store worker := by
  intro after hAfter hState
  by_cases hId : worker.lease.id = lease.id
  · obtain ⟨_, after', _, _, _, _, hAfter', _, _, hRunning⟩ := hGrant.own
    rw [hId, hAfter'] at hAfter
    cases hAfter
    injection hRunning.symm.trans hState with hToken
    exact absurd hToken.symm (hGrant.fresh worker.lease hGranted)
  · rw [hGrant.others _ hId] at hAfter
    exact h after hAfter hState

theorem current_of_start {queue queue' : EngineQueue I Proof} (hGrant : Grant queue queue' lease)
    (rest : Turn I Proof Unit) : Current queue'.store ⟨lease, [], rest⟩ := by
  intro after hAfter _
  obtain ⟨before, after', _, _, hPayload, hPolicy, hAfter', hSame, hSame', _⟩ := hGrant.own
  cases hAfter'.symm.trans hAfter
  rw [hSame, hSame']
  exact ⟨hPayload, hPolicy⟩

variable {store : EngineStore I Proof}

theorem Current.of_complete {result : Except String (EngineOutput I Proof)} {nowMs : UInt64} (h : Current store worker)
    (hMatch : runningLeaseMatches store lease.id lease.leaseToken lease.attempt = true) :
    Current (completeWithDisposition store lease result nowMs).1 worker := by
  intro after hAfter hState
  obtain ⟨before, hBefore, hOther, hOwn⟩ := completeWithDisposition_lookup hMatch hAfter
  by_cases hId : worker.lease.id = lease.id
  · exact absurd hState ((hOwn hId).ended _ _)
  · have hEvolved := hOther hId
    rw [hEvolved.payload, hEvolved.executionPolicy]
    exact h before hBefore (hEvolved.running hState)

theorem Current.of_checkpoint {payload : EngineTask Proof} {policy : TaskExecutionPolicy} (h : Current store worker)
    (hMatch : runningLeaseMatches store lease.id lease.leaseToken lease.attempt = true)
    (hOther : worker.lease.leaseToken ≠ lease.leaseToken) :
    Current (checkpointPayload store lease payload policy).1 worker := by
  intro after hAfter hState
  rw [checkpointPayload_lookup payload policy hMatch] at hAfter
  split at hAfter
  · rename_i hId
    obtain ⟨before, hBefore, rfl⟩ := Option.map_eq_some_iff.mp hAfter
    obtain ⟨record, hRecord, hRunning⟩ := runningLeaseMatches_iff.mp hMatch
    rw [hId, hRecord] at hBefore
    cases hBefore
    injection hRunning.symm.trans hState with hToken
    exact absurd hToken.symm hOther
  · exact h after hAfter hState

variable {storeLease : Nat} {queue : EngineQueue I Proof} {nowMs : UInt64} {r : Request I Proof}

theorem accepted_of_matches {payload : EngineTask Proof} {policy : TaskExecutionPolicy}
    (hMatch : runningLeaseMatches queue.store lease.id lease.leaseToken lease.attempt = true) (noticed : Bool) :
    acceptedCheckpoint (⟨.checkpointPayload lease payload policy,
      answerOf storeLease queue.store nowMs (.checkpointPayload lease payload policy) noticed⟩ : Exchange I Proof) =
      some (payload, policy) :=
  if_pos ((leaseCall_checkpointPayload queue.store lease payload policy).accepted.trans hMatch)

theorem Current.congr {worker' : Worker I Proof} (h : Current store worker) (hLease : worker'.lease = worker.lease)
    (hHeld : held worker'.lease worker'.log = held worker.lease worker.log) : Current store worker' := by
  intro record hRecord hState
  rw [hHeld]
  rw [hLease] at hRecord hState
  exact h record hRecord hState

theorem newLease_of_grant {queue' : EngineQueue I Proof} (h : Grant queue queue' lease) :
    EngineState.newLease queue queue' = some lease := by
  rw [EngineState.newLease, h.granted, List.length_cons, if_pos (Nat.lt_succ_self _)]
  rfl

theorem newLease_of_same {queue' : EngineQueue I Proof} (h : queue'.granted = queue.granted) :
    EngineState.newLease queue queue' = none := by
  rw [EngineState.newLease, h, if_neg (Nat.lt_irrefl _)]

theorem engineInv_init : EngineInv observer ({} : EngineState I Proof) where
  queue := systemInv_init
  token := by rintro leaseToken worker ⟨⟩
  ok := by rintro leaseToken worker ⟨⟩

def asked (s : EngineState I Proof) : EngineEvent I Proof → Option (Worker I Proof × Request I Proof)
  | .work leaseToken _ _ =>
    match s.workers.lookup leaseToken with
    | some worker =>
      match worker.rest with
      | .ask r _ => some (worker, r)
      | .done _ => none
    | none => none
  | _ => none

theorem worker_of_asked {event : EngineEvent I Proof} (h : asked s event = some (worker, r)) :
    ∃ leaseToken, s.workers.lookup leaseToken = some worker := by
  cases event with
  | queue event => cases h
  | stop leaseToken => cases h
  | work leaseToken nowMs answer =>
    unfold asked at h
    dsimp only at h
    split at h
    · rename_i worker' hWorker
      split at h
      · cases h
        exact ⟨leaseToken, hWorker⟩
      · cases h
    · cases h

variable [DecidableEq Proof]

theorem store_complete (lease : EngineLease Proof) (result : Except String (EngineOutput I Proof)) :
    (EngineState.queueAfter storeLease queue nowMs (.complete lease result)).store =
      (completeWithDisposition queue.store lease result nowMs).1 :=
  queue.completeStep_store lease result nowMs

theorem queueAfter_cases (storeLease : Nat) (queue : EngineQueue I Proof) (nowMs : UInt64) (r : Request I Proof) :
    Evolves queue.store (EngineState.queueAfter storeLease queue nowMs r).store ∧
        (∀ noticed, acceptedCheckpoint ⟨r, answerOf storeLease queue.store nowMs r noticed⟩ = none) ∨
      (∃ lease result, r = .complete lease result ∧
        runningLeaseMatches queue.store lease.id lease.leaseToken lease.attempt = true) ∨
      ∃ lease payload policy, r = .checkpointPayload lease payload policy ∧
        runningLeaseMatches queue.store lease.id lease.leaseToken lease.attempt = true := by
  cases r with
  | complete lease result =>
    rcases completeWithDisposition_cases queue.store lease result nowMs with ⟨_, hStale⟩ | ⟨hMatch, _⟩
    · refine .inl ⟨?_, fun _ => rfl⟩
      rw [store_complete, hStale]
      exact Evolves.refl
    · exact .inr (.inl ⟨lease, result, rfl, hMatch⟩)
  | checkpointPayload lease payload policy =>
    obtain ⟨hAnswer, hRejected, _⟩ := leaseCall_checkpointPayload queue.store lease payload policy
    cases hMatch : runningLeaseMatches queue.store lease.id lease.leaseToken lease.attempt with
    | true => exact .inr (.inr ⟨lease, payload, policy, rfl, hMatch⟩)
    | false =>
      rw [hMatch] at hAnswer
      refine .inl ⟨?_, ?_⟩
      · change Evolves queue.store (checkpointPayload queue.store lease payload policy).1
        rw [hRejected hAnswer]
        exact Evolves.refl
      · intro _
        change (if (checkpointPayload queue.store lease payload policy).2 = true then _ else _) = _
        rw [hAnswer]
        rfl
  | renewLease lease => exact .inl ⟨evolves_renewTaskLease storeLease lease nowMs, fun _ => rfl⟩
  | detach owner mode =>
    refine .inl ⟨?_, fun _ => rfl⟩
    change Evolves queue.store (System.step storeLease queue (.detach owner mode)).store
    rw [System.step]
    split
    · rename_i hEq
      exact (evolves_detachOwner hEq)
    · exact Evolves.refl
  | _ => exact .inl ⟨Evolves.refl, fun _ => rfl⟩

theorem granted_queueAfter (r : Request I Proof) :
    (EngineState.queueAfter storeLease queue nowMs r).granted = queue.granted := by
  cases r with
  | complete lease result =>
    change (queue.completeStep lease result nowMs).granted = _
    rw [System.completeStep]
    split <;> rfl
  | detach owner mode =>
    change (System.step storeLease queue (.detach owner mode)).granted = _
    rw [System.step]
    split <;> rfl
  | _ => rfl

theorem systemInv_queueAfter (h : SystemInv queue) {own : EngineLease Proof} (hOwn : own ∈ queue.granted)
    {log : List (Exchange I Proof)} (hMeets : Meets observer own log r) :
    SystemInv (EngineState.queueAfter storeLease queue nowMs r) := by
  cases r with
  | renewLease lease => exact h.step storeLease (.renew lease nowMs) ⟨own, hOwn, hMeets⟩
  | checkpointPayload lease payload policy =>
    exact h.step storeLease (.checkpoint lease payload policy) ⟨own, hOwn, hMeets.1⟩
  | complete lease result => exact h.step storeLease (.complete lease result nowMs) ⟨own, hOwn, hMeets.1⟩
  | detach owner mode => exact h.step storeLease (.detach owner mode) trivial
  | _ => exact h

theorem Current.work (h : Current queue.store worker) (hMeets : Meets observer worker.lease worker.log r)
    (noticed : r.Ans) (rest : Turn I Proof Unit) :
    Current (EngineState.queueAfter storeLease queue nowMs r).store
      ⟨worker.lease, ⟨r, answerOf storeLease queue.store nowMs r noticed⟩ :: worker.log, rest⟩ := by
  rcases queueAfter_cases storeLease queue nowMs r with
    ⟨hEvolves, hNone⟩ | ⟨lease, result, rfl, hMatch⟩ | ⟨lease, payload, policy, rfl, hMatch⟩
  · exact (h.of_keepsTasks hEvolves.keepsTasks).congr rfl (held_cons (hNone noticed))
  · rw [store_complete]
    exact (h.of_complete hMatch).congr rfl (held_cons rfl)
  · intro after hAfter _
    change (checkpointPayload queue.store lease payload policy).1.tasks.lookup worker.lease.id = some after at hAfter
    rw [checkpointPayload_lookup payload policy hMatch, if_pos hMeets.1.1.symm] at hAfter
    obtain ⟨before, _, rfl⟩ := Option.map_eq_some_iff.mp hAfter
    rw [held_of_accepted (accepted_of_matches hMatch noticed)]
    exact ⟨rfl, rfl⟩

theorem Current.of_work {other : Worker I Proof} (h : Current queue.store other)
    (hMeets : Meets observer worker.lease worker.log r) (hOther : other.lease.leaseToken ≠ worker.lease.leaseToken) :
    Current (EngineState.queueAfter storeLease queue nowMs r).store other := by
  rcases queueAfter_cases storeLease queue nowMs r with
    ⟨hEvolves, _⟩ | ⟨lease, result, rfl, hMatch⟩ | ⟨lease, payload, policy, rfl, hMatch⟩
  · exact h.of_keepsTasks hEvolves.keepsTasks
  · rw [store_complete]
    exact h.of_complete hMatch
  · exact h.of_checkpoint hMatch (hMeets.1.2.1 ▸ hOther)

theorem EngineInv.work (h : EngineInv observer s) {leaseToken : String}
    (hWorker : s.workers.lookup leaseToken = some worker) (nowMs : UInt64) (answer : (r : Request I Proof) → r.Ans) :
    EngineInv observer (EngineState.workStep storeLease s worker nowMs answer) := by
  have hOk := h.ok leaseToken worker hWorker
  rw [EngineState.workStep]
  split
  · exact h
  · rename_i r next hRest
    have hObeys := hOk.obeys
    rw [hRest] at hObeys
    obtain ⟨⟨hMeets, _⟩, hNext⟩ := hObeys
    refine ⟨systemInv_queueAfter h.queue hOk.granted hMeets, ?_, ?_⟩
    · intro other worker' hOther
      rw [Table.lookup_insert_ite] at hOther
      split at hOther
      · rename_i hSame
        cases hOther
        exact hSame.symm
      · exact h.token other worker' hOther
    · intro other worker' hOther
      rw [Table.lookup_insert_ite] at hOther
      split at hOther
      · cases hOther
        refine ⟨?_, hNext _, hOk.current.work hMeets _ _⟩
        rw [granted_queueAfter]
        exact hOk.granted
      · rename_i hDistinct
        have hOk' := h.ok other worker' hOther
        refine ⟨?_, hOk'.obeys, hOk'.current.of_work hMeets ?_⟩
        · rw [granted_queueAfter]
          exact hOk'.granted
        · rw [h.token other worker' hOther]
          exact hDistinct

theorem EngineInv.queueStep (h : EngineInv observer s)
    {event : Event (EngineTask Proof) (EngineOutput I Proof) EngineTaskKey} (hAllowed : s.queue.Allowed event)
    (hWorkers : event.isWorkers = false) : EngineInv observer (EngineState.step observer storeLease s (.queue event)) := by
  have hQueue := h.queue.step storeLease event hAllowed
  rw [EngineState.step]
  rcases h.queue.keepsTasks_or_grant storeLease hWorkers with ⟨hKeeps, hGranted⟩ | ⟨lease, hGrant⟩
  · rw [newLease_of_same hGranted]
    refine ⟨hQueue, h.token, ?_⟩
    intro leaseToken worker hWorker
    have hOk := h.ok leaseToken worker hWorker
    refine ⟨?_, hOk.obeys, hOk.current.of_keepsTasks hKeeps⟩
    rw [hGranted]
    exact hOk.granted
  · rw [newLease_of_grant hGrant]
    refine ⟨hQueue, ?_, ?_⟩
    · intro leaseToken worker hWorker
      change (s.workers.insert _ _).lookup leaseToken = some worker at hWorker
      rw [Table.lookup_insert_ite] at hWorker
      split at hWorker
      · rename_i hSame
        cases hWorker
        exact hSame.symm
      · exact h.token leaseToken worker hWorker
    · intro leaseToken worker hWorker
      change (s.workers.insert _ _).lookup leaseToken = some worker at hWorker
      rw [Table.lookup_insert_ite] at hWorker
      split at hWorker
      · cases hWorker
        refine ⟨?_, turn_runLeased observer lease, current_of_start hGrant _⟩
        rw [hGrant.granted]
        exact List.mem_cons_self
      · have hOk := h.ok leaseToken worker hWorker
        refine ⟨?_, hOk.obeys, hOk.current.of_grant hOk.granted hGrant⟩
        rw [hGrant.granted]
        exact List.mem_cons_of_mem lease hOk.granted

theorem EngineInv.step (h : EngineInv observer s) (storeLease : Nat) (event : EngineEvent I Proof)
    (hAllowed : s.Allowed event) : EngineInv observer (EngineState.step observer storeLease s event) := by
  cases event with
  | queue event => exact h.queueStep hAllowed.1 hAllowed.2
  | work leaseToken nowMs answer =>
    rw [EngineState.step]
    split
    · rename_i worker hWorker
      exact h.work hWorker nowMs answer
    · exact h
  | stop leaseToken =>
    have hSub : ∀ other worker, (s.workers.erase leaseToken).lookup other = some worker →
        s.workers.lookup other = some worker := by
      intro other worker hWorker
      rw [Table.lookup_erase_ite] at hWorker
      split at hWorker
      · cases hWorker
      · exact hWorker
    exact ⟨h.queue, fun other worker hWorker => h.token other worker (hSub other worker hWorker),
      fun other worker hWorker => h.ok other worker (hSub other worker hWorker)⟩

theorem engineInv_of_run {events : List (EngineEvent I Proof)}
    (hRun : Run EngineState.Allowed (EngineState.step observer storeLease) {} events) :
    EngineInv observer (events.foldl (EngineState.step observer storeLease) {}) :=
  hRun.foldl_invariant engineInv_init fun _ event _ hAllowed h => h.step storeLease event hAllowed

theorem EngineInv.asked (h : EngineInv observer s) (storeLease : Nat) {event : EngineEvent I Proof}
    (hAsked : asked s event = some (worker, r)) :
    ∃ nowMs, (EngineState.step observer storeLease s event).queue = EngineState.queueAfter storeLease s.queue nowMs r ∧
      WorkerOk observer s.queue worker ∧ Requestable observer worker.lease worker.log r := by
  cases event with
  | queue event => cases hAsked
  | stop leaseToken => cases hAsked
  | work leaseToken nowMs answer =>
    unfold Engine.asked at hAsked
    dsimp only at hAsked
    split at hAsked
    · rename_i worker' hWorker
      split at hAsked
      · rename_i next hRest
        cases hAsked
        have hOk := h.ok leaseToken worker hWorker
        have hObeys := hOk.obeys
        rw [hRest] at hObeys
        refine ⟨nowMs, ?_, hOk, hObeys.1⟩
        simp only [EngineState.step, hWorker, EngineState.workStep, hRest]
      · cases hAsked
    · cases hAsked

end Invariant

end Raiko2.Engine
