import Raiko2.Queue.Safety
import Raiko2.Queue.Wakeups

/-!
# No wake-up is lost

A queue that is not empty is covered: an operation is about to tell the workers, there is a permit, or some worker
is still going to look at that queue. A watcher that waits has a lease that runs, or an operation is about to tell
the watchers.
-/

namespace Raiko2.Queue

open Lib Function

variable {P O Id : Type} {n : Nat}

def Priority.rank : Priority → Nat
  | .high => 0
  | .medium => 1
  | .low => 2

theorem Priority.rank_next {p q : Priority} (h : p.next = some q) : q.rank = p.rank + 1 := by
  cases p <;> cases h <;> rfl

theorem Priority.rank_le_of_next {p : Priority} (h : p.next = none) (q : Priority) : q.rank ≤ p.rank := by
  cases p <;> cases h
  cases q <;> decide

theorem Priority.rank_injective {p q : Priority} (h : p.rank = q.rank) : p = q := by
  cases p <;> cases q <;> first | rfl | cases h

namespace Wakeups

def OwesReady (s : Wakeups n P O Id) : Prop :=
  ∃ operation owed, s.operations.lookup operation = some owed ∧ owed.owesReady = true

def OwesLease (s : Wakeups n P O Id) : Prop :=
  ∃ operation owed, s.operations.lookup operation = some owed ∧ owed.owesLease = true

def Covers (s : Wakeups n P O Id) (worker : Fin n) (p : Priority) : Prop :=
  match s.workers worker with
  | .running => True
  | .scanning => ∃ call, s.system.calls.lookup worker.val = some call ∧ call.priority.rank ≤ p.rank
  | .empty => False
  | .created seen => seen < s.ready.broadcasts
  | .waiting => worker ∉ s.ready.waiting

structure ReadyInv (s : Wakeups n P O Id) : Prop where
  nodup : s.ready.waiting.Nodup
  waiting : ∀ worker ∈ s.ready.waiting, s.workers worker = .waiting
  scanning : ∀ worker, s.workers worker = .scanning → ∃ call, s.system.calls.lookup worker.val = some call
  covered : ∀ p, s.system.store.queue p ≠ [] → s.OwesReady ∨ s.ready.permit = true ∨ ∃ worker, s.Covers worker p

def LeaseInv [DecidableEq Id] (s : Wakeups n P O Id) : Prop :=
  ∀ key watcher, s.watchers.lookup key = some watcher → watcher.phase = .waiting → key ∈ s.lease.waiting →
    s.OwesLease ∨ runningLeaseMatches s.system.store watcher.id watcher.leaseToken watcher.attempt = true

theorem owes_insert {owes : Operation → Bool} {operations : Table Nat Operation} {operation : Nat} {owed : Operation}
    (h : ∃ other old, operations.lookup other = some old ∧ owes old = true)
    (hOld : ∀ old, operations.lookup operation = some old → owes old = true → owes owed = true) :
    ∃ other old, (operations.insert operation owed).lookup other = some old ∧ owes old = true := by
  obtain ⟨other, old, hLookup, hOwes⟩ := h
  by_cases hEq : other = operation
  · subst hEq
    exact ⟨other, owed, AList.lookup_insert _, hOld old hLookup hOwes⟩
  · refine ⟨other, old, ?_, hOwes⟩
    rw [Table.lookup_insert_ite, if_neg hEq]
    exact hLookup

theorem owes_send {owes : Operation → Bool} {s : Wakeups n P O Id} {operation : Nat} {signal : Signal}
    {rest : List Signal} (hLookup : s.operations.lookup operation = some (.notifying (signal :: rest)))
    (hRest : owes (.notifying (signal :: rest)) = true → owes (.notifying rest) = true)
    (h : ∃ other old, s.operations.lookup other = some old ∧ owes old = true) :
    ∃ other old, ((s.send signal).setSignals operation rest).operations.lookup other = some old ∧ owes old = true := by
  have hOperations : (s.send signal).operations = s.operations := by cases signal <;> rfl
  rw [setSignals, hOperations]
  refine owes_insert h fun old hOld hOwed => hRest ?_
  rw [hLookup] at hOld
  cases hOld
  exact hOwed

section Ready

variable {s s' : Wakeups n P O Id}

theorem ReadyInv.ofOperation (h : s.ReadyInv) (hReady : s'.ready = s.ready) (hWorkers : s'.workers = s.workers)
    (hCalls : s'.system.calls = s.system.calls) (hOwes : s.OwesReady → s'.OwesReady)
    (hQueue : s'.OwesReady ∨ KeepsEmpty s.system.store s'.system.store) : s'.ReadyInv where
  nodup := hReady ▸ h.nodup
  waiting := by
    rw [hReady, hWorkers]
    exact h.waiting
  scanning := by
    rw [hWorkers, hCalls]
    exact h.scanning
  covered p hp := by
    rcases hQueue with hOwed | hEmpty
    · exact .inl hOwed
    · rcases h.covered p (mt (hEmpty p) hp) with hOwed | hPermit | ⟨worker, hCovers⟩
      · exact .inl (hOwes hOwed)
      · exact .inr (.inl (hReady ▸ hPermit))
      · refine .inr (.inr ⟨worker, ?_⟩)
        unfold Covers at hCovers ⊢
        rw [hWorkers, hCalls, hReady]
        exact hCovers

theorem ReadyInv.ofWorker (h : s.ReadyInv) {worker : Fin n} {phase : WorkerPhase}
    (hWorkers : s'.workers = update s.workers worker phase) (hOperations : s'.operations = s.operations)
    (hCalls : ∀ other, other ≠ worker → s'.system.calls.lookup other.val = s.system.calls.lookup other.val)
    (hBroadcasts : s'.ready.broadcasts = s.ready.broadcasts) (hNodup : s'.ready.waiting.Nodup)
    (hOthers : ∀ other, other ≠ worker → (other ∈ s'.ready.waiting ↔ other ∈ s.ready.waiting))
    (hSelf : worker ∈ s'.ready.waiting → phase = .waiting)
    (hCall : phase = .scanning → ∃ call, s'.system.calls.lookup worker.val = some call)
    (hCovers : ∀ p, s'.system.store.queue p ≠ [] → s'.Covers worker p ∨
      (s.system.store.queue p ≠ [] ∧ ¬s.Covers worker p ∧ (s.ready.permit = true → s'.ready.permit = true))) :
    s'.ReadyInv where
  nodup := hNodup
  waiting other hOther := by
    rw [hWorkers]
    by_cases hEq : other = worker
    · subst hEq
      rw [update_self]
      exact hSelf hOther
    · rw [update_of_ne hEq]
      exact h.waiting other ((hOthers other hEq).mp hOther)
  scanning other hOther := by
    rw [hWorkers] at hOther
    by_cases hEq : other = worker
    · subst hEq
      rw [update_self] at hOther
      exact hCall hOther
    · rw [update_of_ne hEq] at hOther
      rw [hCalls other hEq]
      exact h.scanning other hOther
  covered p hp := by
    rcases hCovers p hp with hNew | ⟨hOld, hNot, hPermit⟩
    · exact .inr (.inr ⟨worker, hNew⟩)
    · rcases h.covered p hOld with ⟨operation, owed, hOwed⟩ | hKept | ⟨other, hOther⟩
      · exact .inl ⟨operation, owed, hOperations ▸ hOwed⟩
      · exact .inr (.inl (hPermit hKept))
      · -- the queue is covered by somebody else
        have hNe : other ≠ worker := by
          rintro rfl
          exact hNot hOther
        refine .inr (.inr ⟨other, ?_⟩)
        unfold Covers at hOther ⊢
        rw [hWorkers, update_of_ne hNe, hCalls other hNe, hBroadcasts, hOthers other hNe]
        exact hOther

theorem covers_of_running {worker : Fin n} (h : s.workers worker = .running) (p : Priority) : s.Covers worker p := by
  unfold Covers
  rw [h]
  trivial

theorem covers_of_scanning {worker : Fin n} (h : s.workers worker = .scanning) {call : NextReadyCall Id} {p : Priority}
    (hCall : s.system.calls.lookup worker.val = some call) (hRank : call.priority.rank ≤ p.rank) :
    s.Covers worker p := by
  unfold Covers
  rw [h]
  exact ⟨call, hCall, hRank⟩

theorem ReadyInv.ofSignal (h : s.ReadyInv) (hSystem : s'.system = s.system) (hWorkers : s'.workers = s.workers)
    (hNodup : s'.ready.waiting.Nodup) (hWaiting : ∀ worker ∈ s'.ready.waiting, worker ∈ s.ready.waiting)
    (hBroadcasts : s.ready.broadcasts ≤ s'.ready.broadcasts) (hPermit : s.ready.permit = true → s'.ready.permit = true)
    (hOwes : s.OwesReady → s'.OwesReady ∨ s'.ready.permit = true ∨
      ∃ worker, s'.workers worker = .waiting ∧ worker ∉ s'.ready.waiting) : s'.ReadyInv where
  nodup := hNodup
  waiting worker hWorker := by
    rw [hWorkers]
    exact h.waiting worker (hWaiting worker hWorker)
  scanning := by
    rw [hWorkers, hSystem]
    exact h.scanning
  covered p hp := by
    rw [hSystem] at hp
    rcases h.covered p hp with hOwed | hKept | ⟨worker, hCovers⟩
    · rcases hOwes hOwed with hOwed | hSent | ⟨worker, hPhase, hWoken⟩
      · exact .inl hOwed
      · exact .inr (.inl hSent)
      · refine .inr (.inr ⟨worker, ?_⟩)
        unfold Covers
        rw [hPhase]
        exact hWoken
    · exact .inr (.inl (hPermit hKept))
    · refine .inr (.inr ⟨worker, ?_⟩)
      unfold Covers at hCovers ⊢
      rw [hWorkers, hSystem]
      split at hCovers
      · trivial
      · exact hCovers
      · exact hCovers
      · exact hCovers.trans_le hBroadcasts
      · exact mt (hWaiting worker) hCovers

end Ready

section Steps

variable {storeLease : Nat} {s : Wakeups n P O Id} {operation : Nat} {worker : Fin n}

theorem popStep_cases (system : System P O Id) (worker : Nat) (call : NextReadyCall Id) (uuid : String) :
    (∃ id rest call', system.store.queue call.priority = id :: rest ∧ call'.priority = call.priority ∧
      (system.popStep worker call uuid).calls = system.calls.insert worker call' ∧
      (system.popStep worker call uuid).store = system.store.setQueue call.priority rest) ∨
    (system.store.queue call.priority = [] ∧ (system.popStep worker call uuid).store = system.store ∧
      ((call.priority.next = none ∧ (system.popStep worker call uuid).calls = system.calls.erase worker) ∨
        ∃ p call', call.priority.next = some p ∧ call'.priority = p ∧
          (system.popStep worker call uuid).calls = system.calls.insert worker call')) := by
  unfold System.popStep popReady
  cases hQueue : system.store.queue call.priority with
  | cons id rest => exact .inl ⟨id, rest, { call with popped := some id }, rfl, rfl, rfl, rfl⟩
  | nil =>
    right
    cases hNext : call.priority.next with
    | none => exact ⟨rfl, rfl, .inl ⟨rfl, rfl⟩⟩
    | some p => exact ⟨rfl, rfl, .inr ⟨p, ⟨call.worker, p, formatLeaseToken call.worker uuid, none⟩, rfl, rfl, rfl⟩⟩

theorem lookup_insert_of_ne {ν : Type} {calls : Table Nat ν} {value : ν} {worker other : Fin n} (h : other ≠ worker) :
    (calls.insert worker.val value).lookup other.val = calls.lookup other.val := by
  rw [Table.lookup_insert_ite, if_neg (fun hEq => h (Fin.ext hEq))]

theorem lookup_erase_of_ne {ν : Type} {calls : Table Nat ν} {worker other : Fin n} (h : other ≠ worker) :
    (calls.erase worker.val).lookup other.val = calls.lookup other.val := by
  rw [Table.lookup_erase_ite, if_neg (fun hEq => h (Fin.ext hEq))]

/-- The step of a worker that looks at the queues: those that it has yet to look at are covered. -/
theorem ReadyInv.scan (h : s.ReadyInv) (hPhase : s.workers worker = .scanning) {call : NextReadyCall Id}
    (hCall : s.system.calls.lookup worker.val = some call) {system : System P O Id} {ended : WorkerPhase}
    (hEnded : ended ≠ .scanning)
    (hCalls : ∀ other, other ≠ worker → system.calls.lookup other.val = s.system.calls.lookup other.val)
    (hQueue : ∀ p, system.store.queue p ≠ [] → (s.system.store.queue p ≠ [] ∧ p.rank < call.priority.rank) ∨
      (system.calls.lookup worker.val = none ∧ ended = .running) ∨
      ∃ call', system.calls.lookup worker.val = some call' ∧ call'.priority.rank ≤ p.rank) :
    ({ s with system }.setWorker worker
      (if (system.calls.lookup worker.val).isSome then .scanning else ended)).ReadyInv := by
  refine h.ofWorker rfl rfl hCalls rfl h.nodup (fun _ _ => .rfl) (fun hMem => ?_) (fun hScanning => ?_) fun p hp => ?_
  · rw [h.waiting worker hMem] at hPhase
    cases hPhase
  · split at hScanning
    · exact Option.isSome_iff_exists.mp ‹_›
    · exact absurd hScanning hEnded
  · rcases hQueue p hp with ⟨hOld, hRank⟩ | ⟨hNone, rfl⟩ | ⟨call', hCall', hLe⟩
    · refine .inr ⟨hOld, ?_, fun hPermit => hPermit⟩
      unfold Covers
      rw [hPhase]
      rintro ⟨call', hCall', hLe⟩
      rw [hCall] at hCall'
      cases hCall'
      omega
    · exact .inl (covers_of_running (by simp [setWorker, hNone]) p)
    · exact .inl (covers_of_scanning (by simp [setWorker, hCall']) hCall' hLe)

theorem ReadyInv.storeStep (h : s.ReadyInv) {owed : Operation} {system : System P O Id}
    (hCalls : system.calls = s.system.calls)
    (hOld : ∀ old, s.operations.lookup operation = some old → old.owesReady = true → owed.owesReady = true)
    (hEmpty : owed.owesReady = false → KeepsEmpty s.system.store system.store) :
    ({ s with system, operations := s.operations.insert operation owed } : Wakeups n P O Id).ReadyInv := by
  refine h.ofOperation rfl rfl hCalls (fun hOwes => owes_insert hOwes hOld) ?_
  cases hOwed : owed.owesReady with
  | true => exact .inl ⟨operation, owed, AList.lookup_insert _, hOwed⟩
  | false => exact .inr (hEmpty hOwed)

theorem ReadyInv.signal (h : s.ReadyInv) {signal : Signal} {rest : List Signal}
    (hLookup : s.operations.lookup operation = some (.notifying (signal :: rest))) :
    ((s.send signal).setSignals operation rest).ReadyInv := by
  cases signal with
  | readyWaiters =>
    exact h.ofSignal rfl rfl List.nodup_nil (fun _ hMem => (List.not_mem_nil hMem).elim) (Nat.le_succ _)
      (fun hPermit => hPermit) fun hOwes => .inl (owes_send hLookup (by simp [Operation.owesReady]) hOwes)
  | readyOne =>
    refine h.ofSignal rfl rfl (Notify.nodup_notifyOne h.nodup) (fun _ => Notify.mem_waiting_of_notifyOne)
      (le_of_eq Notify.broadcasts_notifyOne.symm) Notify.permit_notifyOne fun _ => .inr ?_
    rcases Notify.notifyOne_wakes h.nodup with hPermit | ⟨worker, hMem, hWoken⟩
    · exact .inl hPermit
    · exact .inr ⟨worker, h.waiting worker hMem, hWoken⟩
  | leaseWaiters => exact h.ofOperation rfl rfl rfl (owes_send hLookup (by simp [Operation.owesReady])) (.inr .refl)

theorem ReadyInv.pollWaiter (h : s.ReadyInv) {seen : Nat} (hPhase : s.workers worker = .created seen) :
    ({ s with ready := (s.ready.poll worker seen).2 }.setWorker worker
      (if (s.ready.poll worker seen).1 then .running else .waiting)).ReadyInv := by
  have hAbsent : worker ∉ s.ready.waiting := by
    intro hMem
    rw [h.waiting worker hMem] at hPhase
    cases hPhase
  rcases s.ready.poll_cases worker seen with ⟨hPermit, hPoll⟩ | ⟨hPermit, hSeen, hPoll⟩ | ⟨hPermit, hSeen, hPoll⟩
  · rw [hPoll]
    exact h.ofWorker rfl rfl (fun _ _ => rfl) rfl h.nodup (fun _ _ => .rfl) (absurd · hAbsent) (by simp)
      fun p _ => .inl (covers_of_running (update_self _ _ _) p)
  · rw [hPoll]
    exact h.ofWorker rfl rfl (fun _ _ => rfl) rfl h.nodup (fun _ _ => .rfl) (absurd · hAbsent) (by simp)
      fun p _ => .inl (covers_of_running (update_self _ _ _) p)
  · rw [hPoll]
    refine h.ofWorker rfl rfl (fun _ _ => rfl) rfl ?_ (fun other hOther => ?_) (fun _ => rfl) (by simp) fun p hp => ?_
    · exact List.nodup_append.mpr ⟨h.nodup, List.nodup_singleton _, fun a ha b hb hEq =>
        hAbsent (List.mem_singleton.mp hb ▸ hEq ▸ ha)⟩
    · change other ∈ s.ready.waiting ++ [worker] ↔ other ∈ s.ready.waiting
      simp [hOther]
    · -- the worker has not covered anything since it saw the queues empty
      refine .inr ⟨hp, ?_, fun hPermit => hPermit⟩
      unfold Covers
      rw [hPhase, hSeen]
      exact lt_irrefl seen

variable [DecidableEq Id] [ReadyQueueSort Id] [BEq P]

theorem ReadyInv.pop (h : s.ReadyInv) {uuid : String} (hAllowed : s.Allowed (.pop worker uuid)) :
    (s.step storeLease (.pop worker uuid)).ReadyInv := by
  obtain ⟨hPhase, -⟩ := hAllowed
  obtain ⟨call, hCall⟩ := h.scanning worker hPhase
  simp only [step, scanStep, System.step, hCall]
  rcases popStep_cases s.system worker call uuid with
    ⟨id, rest, call', hQueue, hPriority, hCalls, hStore⟩ |
    ⟨hQueue, hStore, ⟨hNext, hCalls⟩ | ⟨q, call', hNext, hPriority, hCalls⟩⟩
  · refine h.scan hPhase hCall (by simp) (fun other hOther => hCalls ▸ lookup_insert_of_ne hOther) fun p hp => ?_
    rcases Nat.lt_or_ge p.rank call.priority.rank with hRank | hRank
    · refine .inl ⟨?_, hRank⟩
      rw [hStore, Inner.queue_setQueue, if_neg] at hp
      · exact hp
      · rintro rfl
        exact lt_irrefl _ hRank
    · exact .inr (.inr ⟨call', hCalls ▸ AList.lookup_insert _, hPriority ▸ hRank⟩)
  · refine h.scan hPhase hCall (by simp) (fun other hOther => hCalls ▸ lookup_erase_of_ne hOther) fun p hp => .inl ?_
    rw [hStore] at hp
    -- the last queue was empty, and all others are before it
    refine ⟨hp, lt_of_le_of_ne (Priority.rank_le_of_next hNext p) fun hEq => ?_⟩
    rw [Priority.rank_injective hEq] at hp
    exact hp hQueue
  · refine h.scan hPhase hCall (by simp) (fun other hOther => hCalls ▸ lookup_insert_of_ne hOther) fun p hp => ?_
    rw [hStore] at hp
    have hNe : p.rank ≠ call.priority.rank := fun hEq => by
      rw [Priority.rank_injective hEq] at hp
      exact hp hQueue
    have hRank := Priority.rank_next hNext
    rw [← hPriority] at hRank
    rcases Nat.lt_or_ge p.rank call.priority.rank with hBefore | hAfter
    · exact .inl ⟨hp, hBefore⟩
    · exact .inr (.inr ⟨call', hCalls ▸ AList.lookup_insert _, by omega⟩)

theorem ReadyInv.take (h : s.ReadyInv) {nowMs : UInt64} (hAllowed : s.Allowed (.take worker nowMs)) :
    (s.step storeLease (.take worker nowMs)).ReadyInv := by
  obtain ⟨hPhase, hPopped⟩ := hAllowed
  obtain ⟨call, hCall⟩ := h.scanning worker hPhase
  simp only [System.Allowed, hCall, Option.any_some] at hPopped
  obtain ⟨id, hId⟩ := Option.isSome_iff_exists.mp hPopped
  simp only [step, scanStep, System.step, hCall, hId]
  unfold System.takeStep
  rcases takeReadyLocked_cases s.system.store id storeLease call.leaseToken nowMs with
    ⟨hEq, -⟩ | ⟨record, payload, attempt, sequence, -, -, -, hEq⟩
  · rw [hEq]
    refine h.scan hPhase hCall (by simp) (fun other hOther => lookup_insert_of_ne hOther) fun p hp => ?_
    rcases Nat.lt_or_ge p.rank call.priority.rank with hRank | hRank
    · exact .inl ⟨hp, hRank⟩
    · exact .inr (.inr ⟨_, AList.lookup_insert _, hRank⟩)
  · rw [hEq]
    exact h.scan hPhase hCall (by simp) (fun other hOther => lookup_erase_of_ne hOther)
      fun p _ => .inr (.inl ⟨AList.lookup_erase _ _, rfl⟩)

theorem owesReady_maintenanceSignals {movedScheduled movedLeases : Nat} :
    (Operation.notifying (maintenanceSignals movedScheduled movedLeases)).owesReady =
      decide (movedScheduled + movedLeases > 0) := by
  unfold Operation.owesReady maintenanceSignals notifyReadyWorkers
  by_cases hMoved : movedScheduled + movedLeases > 0 <;> by_cases hLeases : movedLeases > 0 <;> simp [hMoved, hLeases]

theorem ReadyInv.step (h : s.ReadyInv) {event : WakeupEvent n P O Id} (hAllowed : s.Allowed event) :
    (s.step storeLease event).ReadyInv := by
  cases event with
  | store operation event =>
    obtain ⟨hNew, hOperation, -⟩ := hAllowed
    refine h.storeStep (calls_step hOperation) (by simp [hNew]) fun hOwed => keepsEmpty_step hOperation ?_
    simpa [Operation.owesReady] using hOwed
  | promote operation nowMs =>
    have hNew : s.operations.lookup operation = none := hAllowed
    refine h.storeStep rfl (by simp [hNew]) fun hOwed => keepsEmpty_promoteScheduled ?_
    simpa [Operation.owesReady] using hOwed
  | requeue operation order =>
    obtain ⟨nowMs, movedScheduled, hLookup⟩ := exists_requeueing hAllowed
    simp only [Wakeups.step, hLookup]
    refine h.storeStep rfl (fun old hOld hOwed => ?_) fun hOwed => ?_
    · rw [hLookup] at hOld
      cases hOld
      rw [owesReady_maintenanceSignals, decide_eq_true_eq]
      have hMoved : movedScheduled > 0 := by simpa [Operation.owesReady] using hOwed
      omega
    · rw [owesReady_maintenanceSignals, decide_eq_false_iff_not] at hOwed
      have hNone : (requeueExpiredLeases s.system.store order nowMs maintenanceTickLimit).1 = 0 := by omega
      exact .of_queue fun p => congrArg (·.queue p) (requeueExpiredLeases_unmoved hNone)
  | signal operation =>
    obtain ⟨signal, rest, hLookup⟩ := exists_signal hAllowed
    simp only [Wakeups.step, hLookup]
    exact h.signal hLookup
  | startScan worker name uuid =>
    obtain ⟨hPhase, -⟩ := hAllowed
    refine h.ofWorker rfl rfl (fun other hOther => lookup_insert_of_ne hOther) rfl h.nodup (fun _ _ => .rfl)
      (fun hMem => ?_) (fun _ => ⟨_, AList.lookup_insert _⟩) fun p _ => .inl ?_
    · rw [h.waiting worker hMem] at hPhase
      cases hPhase
    · exact covers_of_scanning (update_self _ _ _) (AList.lookup_insert _) (Nat.zero_le _)
  | pop worker uuid => exact h.pop hAllowed
  | take worker nowMs => exact h.take hAllowed
  | createWaiter worker =>
    have hPhase : s.workers worker = .empty := hAllowed
    refine h.ofWorker rfl rfl (fun _ _ => rfl) rfl h.nodup (fun _ _ => .rfl) (fun hMem => ?_) (by simp)
      fun p hp => .inr ⟨hp, ?_, fun hPermit => hPermit⟩
    · rw [h.waiting worker hMem] at hPhase
      cases hPhase
    · unfold Covers
      rw [hPhase]
      exact not_false
  | pollWaiter worker =>
    obtain ⟨seen, hPhase⟩ := exists_created hAllowed
    simp only [Wakeups.step, hPhase]
    exact h.pollWaiter hPhase
  | wake worker =>
    exact h.ofWorker rfl rfl (fun _ _ => rfl) rfl h.nodup (fun _ _ => .rfl) (absurd · hAllowed.2) (by simp)
      fun p _ => .inl (covers_of_running (update_self _ _ _) p)
  | watch | wakeWatcher | dropWatcher => exact h.ofOperation rfl rfl rfl (fun hOwes => hOwes) (.inr .refl)
  | enable watcher =>
    obtain ⟨seen, hPhase⟩ := exists_watcher_created hAllowed
    simp only [Wakeups.step, hPhase]
    exact h.ofOperation rfl rfl rfl (fun hOwes => hOwes) (.inr .refl)
  | readLease key =>
    unfold Wakeups.step
    dsimp only
    split
    · unfold Wakeups.readLease
      split <;> exact h.ofOperation rfl rfl rfl (fun hOwes => hOwes) (.inr .refl)
    · exact h

end Steps

section Lease

variable [DecidableEq Id] {s s' : Wakeups n P O Id}

section LeaseSteps

variable (h : s.LeaseInv)

include h

theorem LeaseInv.ofStore (hWatchers : s'.watchers = s.watchers) (hLease : s'.lease = s.lease)
    (hOwes : s.OwesLease → s'.OwesLease) (hStore : s'.OwesLease ∨ KeepsLeases s.system.store s'.system.store) :
    s'.LeaseInv := by
  intro key watcher hWatcher hPhase hMem
  rw [hWatchers] at hWatcher
  rw [hLease] at hMem
  rcases hStore with hOwed | hKeeps
  · exact .inl hOwed
  · exact (h key watcher hWatcher hPhase hMem).imp hOwes (hKeeps _ _ _)

theorem LeaseInv.ofWatcher (key : Nat) (hSystem : s'.system = s.system) (hOperations : s'.operations = s.operations)
    (hOthers : ∀ other, other ≠ key → s'.watchers.lookup other = s.watchers.lookup other)
    (hWaiting : ∀ other, other ≠ key → other ∈ s'.lease.waiting → other ∈ s.lease.waiting)
    (hSelf : ∀ watcher, s'.watchers.lookup key = some watcher → watcher.phase = .waiting →
      runningLeaseMatches s.system.store watcher.id watcher.leaseToken watcher.attempt = true) : s'.LeaseInv := by
  intro other watcher hWatcher hPhase hMem
  rw [hSystem]
  by_cases hEq : other = key
  · subst hEq
    exact .inr (hSelf watcher hWatcher hPhase)
  · rw [hOthers other hEq] at hWatcher
    rw [OwesLease, hOperations]
    exact h other watcher hWatcher hPhase (hWaiting other hEq hMem)

theorem LeaseInv.storeStep {operation : Nat} {owed : Operation} {system : System P O Id}
    (hOld : ∀ old, s.operations.lookup operation = some old → old.owesLease = true → owed.owesLease = true)
    (hKeeps : owed.owesLease = false → KeepsLeases s.system.store system.store) :
    ({ s with system, operations := s.operations.insert operation owed } : Wakeups n P O Id).LeaseInv := by
  refine h.ofStore rfl rfl (fun hOwes => owes_insert hOwes hOld) ?_
  cases hOwed : owed.owesLease with
  | true => exact .inl ⟨operation, owed, AList.lookup_insert _, hOwed⟩
  | false => exact .inr (hKeeps hOwed)

theorem LeaseInv.setWatcher (key : Nat) (lease : Notify Nat) {phase : WatcherPhase}
    (hWaiting : ∀ other, other ≠ key → other ∈ lease.waiting → other ∈ s.lease.waiting)
    (hSelf : phase = .waiting → ∀ watcher, s.watchers.lookup key = some watcher →
      runningLeaseMatches s.system.store watcher.id watcher.leaseToken watcher.attempt = true) :
    ({ s with lease }.setWatcher key phase).LeaseInv := by
  refine h.ofWatcher key rfl rfl (fun other hOther => ?_) hWaiting fun watcher hWatcher hPhase => ?_
  · exact Table.lookup_modify.trans (if_neg hOther)
  · rw [Wakeups.setWatcher, Table.lookup_modify, if_pos rfl] at hWatcher
    obtain ⟨before, hBefore, rfl⟩ := Option.map_eq_some_iff.mp hWatcher
    exact hSelf hPhase before hBefore

theorem LeaseInv.forget (key : Nat) :
    ({ s with watchers := s.watchers.erase key, lease := s.lease.forget key } : Wakeups n P O Id).LeaseInv := by
  refine h.ofWatcher key rfl rfl (fun other hOther => ?_) (fun _ _ hMem => ?_) fun watcher hWatcher => ?_
  · exact (Table.lookup_erase_ite ..).trans (if_neg hOther)
  · exact (List.mem_filter.mp hMem).1
  · cases (AList.lookup_erase _ _).symm.trans hWatcher

theorem LeaseInv.enable (key seen : Nat) :
    ({ s with lease := (s.lease.poll key seen).2 }.setWatcher key .enabled).LeaseInv := by
  refine h.setWatcher key _ (fun other hOther hMem => ?_) nofun
  rcases s.lease.poll_cases key seen with ⟨-, hPoll⟩ | ⟨-, -, hPoll⟩ | ⟨-, -, hPoll⟩ <;> rw [hPoll] at hMem
  · exact hMem
  · exact hMem
  · simpa [hOther] using hMem

theorem LeaseInv.readLease {key : Nat} {watcher : Watcher Id}
    (hWatcher : s.watchers.lookup key = some watcher) : (s.readLease key watcher).LeaseInv := by
  unfold Wakeups.readLease
  split
  · rename_i hMatch
    refine h.setWatcher key s.lease (fun _ _ hMem => hMem) fun _ before hBefore => ?_
    cases hWatcher.symm.trans hBefore
    exact hMatch
  · exact h.forget key

theorem LeaseInv.signal {operation : Nat} {signal : Signal} {rest : List Signal}
    (hLookup : s.operations.lookup operation = some (.notifying (signal :: rest))) :
    ((s.send signal).setSignals operation rest).LeaseInv := by
  cases signal with
  | leaseWaiters => exact fun _ _ _ _ hMem => (List.not_mem_nil hMem).elim
  | readyWaiters | readyOne =>
    exact h.ofStore rfl rfl (owes_send hLookup (by simp [Operation.owesLease])) (.inr .refl)

variable [ReadyQueueSort Id] [BEq P] {storeLease : Nat}

theorem LeaseInv.requeue {operation movedScheduled : Nat} {nowMs : UInt64} (order : List Id)
    (hLookup : s.operations.lookup operation = some (.requeueing nowMs movedScheduled)) :
    (s.step storeLease (.requeue operation order)).LeaseInv := by
  simp only [Wakeups.step, hLookup]
  refine h.storeStep (fun old hOld hOwed => ?_) fun hOwed => ?_
  · cases hLookup.symm.trans hOld
    cases hOwed
  · have hNone : (requeueExpiredLeases s.system.store order nowMs maintenanceTickLimit).1 = 0 := by
      by_contra hMoved
      simp [Operation.owesLease, maintenanceSignals, Nat.pos_of_ne_zero hMoved] at hOwed
    exact .of_tasks (congrArg Inner.tasks (requeueExpiredLeases_unmoved hNone))

theorem LeaseInv.scan {worker : Fin n} {event : Event P O Id} {ended : WorkerPhase}
    (hSignals : signalsOf s.system.store event = []) (hRequeue : ∀ nowMs order, event ≠ .requeue nowMs order) :
    (s.scanStep storeLease worker event ended).LeaseInv :=
  h.ofStore rfl rfl (fun hOwes => hOwes) (.inr (keepsLeases_step (by simp [hSignals]) hRequeue))

theorem LeaseInv.step {event : WakeupEvent n P O Id} (hAllowed : s.Allowed event) : (s.step storeLease event).LeaseInv := by
  cases event with
  | store operation event =>
    obtain ⟨hNew, hOperation, -⟩ := hAllowed
    refine h.storeStep (by simp [hNew]) fun hOwed => keepsLeases_step (by simpa [Operation.owesLease] using hOwed) ?_
    rintro _ _ rfl
    cases hOperation
  | promote operation nowMs =>
    have hNew : s.operations.lookup operation = none := hAllowed
    exact h.storeStep (by simp [hNew]) fun _ => keepsLeases_promoteScheduled
  | requeue operation order =>
    obtain ⟨nowMs, movedScheduled, hLookup⟩ := exists_requeueing hAllowed
    exact h.requeue order hLookup
  | signal operation =>
    obtain ⟨signal, rest, hLookup⟩ := exists_signal hAllowed
    simp only [Wakeups.step, hLookup]
    exact h.signal hLookup
  | startScan => exact h.ofStore rfl rfl (fun hOwes => hOwes) (.inr (.of_tasks rfl))
  | pop worker uuid => exact h.scan rfl (by rintro _ _ ⟨⟩)
  | take worker nowMs => exact h.scan rfl (by rintro _ _ ⟨⟩)
  | createWaiter | wake => exact h.ofStore rfl rfl (fun hOwes => hOwes) (.inr .refl)
  | pollWaiter worker =>
    obtain ⟨seen, hPhase⟩ := exists_created hAllowed
    simp only [Wakeups.step, hPhase]
    exact h.ofStore rfl rfl (fun hOwes => hOwes) (.inr .refl)
  | watch key id leaseToken attempt =>
    refine h.ofWatcher key rfl rfl (fun other hOther => ?_) (fun _ _ hMem => hMem) fun watcher hWatcher hPhase => ?_
    · exact (Table.lookup_insert_ite ..).trans (if_neg hOther)
    · cases (AList.lookup_insert _).symm.trans hWatcher
      cases hPhase
  | enable key =>
    obtain ⟨seen, hPhase⟩ := exists_watcher_created hAllowed
    simp only [Wakeups.step, hPhase]
    exact h.enable key seen
  | readLease key =>
    cases hWatcher : s.watchers.lookup key with
    | none =>
      simp only [Wakeups.step, hWatcher]
      exact h
    | some watcher =>
      simp only [Wakeups.step, hWatcher]
      exact h.readLease hWatcher
  | wakeWatcher key => exact h.setWatcher key s.lease (fun _ _ hMem => hMem) (by rintro ⟨⟩)
  | dropWatcher key => exact h.forget key

end LeaseSteps

end Lease

end Wakeups

section Main

variable [DecidableEq Id] [ReadyQueueSort Id] [BEq P]

structure Wakeups.Inv (s : Wakeups n P O Id) : Prop where
  ready : s.ReadyInv
  lease : s.LeaseInv

omit [ReadyQueueSort Id] [BEq P] in
theorem Wakeups.Inv.initial : ({} : Wakeups n P O Id).Inv := by
  refine ⟨⟨List.nodup_nil, nofun, nofun, fun p hp => ?_⟩, nofun⟩
  cases p <;> exact absurd rfl hp

/-- In no state of any run do all workers sleep without a permit while a task is in a queue and the workers have been
told of everything; and in none does a watcher sleep whose lease has ended while the watchers have been told. -/
theorem no_wakeup_is_lost (n storeLease : Nat) (events : List (WakeupEvent n P O Id))
    (hRun : Run Wakeups.Allowed (Wakeups.step storeLease) {} events) :
    (∀ p, (events.foldl (Wakeups.step storeLease) {}).system.store.queue p ≠ [] →
      (∀ operation owed, (events.foldl (Wakeups.step storeLease) {}).operations.lookup operation = some owed →
        owed.owesReady = false) →
      (∀ worker, (events.foldl (Wakeups.step storeLease) {}).Parked worker) →
      (events.foldl (Wakeups.step storeLease) {}).ready.permit = true) ∧
    ∀ key watcher, (events.foldl (Wakeups.step storeLease) {}).watchers.lookup key = some watcher →
      (events.foldl (Wakeups.step storeLease) {}).WatcherParked key →
      (∀ operation owed, (events.foldl (Wakeups.step storeLease) {}).operations.lookup operation = some owed →
        owed.owesLease = false) →
      runningLeaseMatches (events.foldl (Wakeups.step storeLease) {}).system.store watcher.id watcher.leaseToken
        watcher.attempt = true := by
  have hInv : (events.foldl (Wakeups.step storeLease) {}).Inv :=
    hRun.foldl_invariant .initial fun s event _ hAllowed hInv => ⟨hInv.ready.step hAllowed, hInv.lease.step hAllowed⟩
  generalize events.foldl (Wakeups.step storeLease) {} = s at hInv ⊢
  obtain ⟨hReady, hLease⟩ := hInv
  refine ⟨fun p hp hTold hParked => ?_, fun key watcher hWatcher hParked hTold => ?_⟩
  · rcases hReady.covered p hp with ⟨operation, owed, hLookup, hOwes⟩ | hPermit | ⟨worker, hCovers⟩
    · rw [hTold operation owed hLookup] at hOwes
      cases hOwes
    · exact hPermit
    · unfold Wakeups.Covers at hCovers
      rw [(hParked worker).1] at hCovers
      exact absurd (hParked worker).2 hCovers
  · have hPhase : watcher.phase = .waiting := by
      have hPhase := hParked.1
      rw [Wakeups.phaseOf, hWatcher] at hPhase
      exact Option.some.inj hPhase
    rcases hLease key watcher hWatcher hPhase hParked.2 with ⟨operation, owed, hLookup, hOwes⟩ | hMatch
    · rw [hTold operation owed hLookup] at hOwes
      cases hOwes
    · exact hMatch

end Main

section Sample

def lateArrivalRun : List (WakeupEvent 1 UInt64 UInt64 UInt64) :=
  [.startScan 0 "w" "u0", .pop 0 "u1", .store 0 (.attach ⟨"root", 1⟩ [plainNode 1 10 []]), .pop 0 "u2", .pop 0 "u3",
    .signal 0, .signal 0, .createWaiter 0, .pollWaiter 0]

theorem lateArrivalRun_wakes :
    Run Wakeups.Allowed (Wakeups.step 60) {} lateArrivalRun ∧
    (lateArrivalRun.foldl (Wakeups.step 60) {}).system.store.queue .high = [1] ∧
    ¬(lateArrivalRun.foldl (Wakeups.step 60) {}).Parked 0 := by
  have hRun : Run Wakeups.Allowed (Wakeups.step 60) {} lateArrivalRun := by decide +kernel
  have hQueue : (lateArrivalRun.foldl (Wakeups.step 60) {}).system.store.queue .high = [1] := by decide +kernel
  refine ⟨hRun, hQueue, fun hParked => ?_⟩
  have hPermit := (no_wakeup_is_lost 1 60 lateArrivalRun hRun).1 .high (by rw [hQueue]; exact nofun)
    (fun operation owed hLookup => ?_) (fun worker => Subsingleton.elim 0 worker ▸ hParked)
  · exact absurd hPermit (by decide +kernel)
  · have hEntries : (lateArrivalRun.foldl (Wakeups.step 60) {}).operations.entries = [⟨0, .notifying []⟩] := by
      decide +kernel
    have hMem := Table.mem_entries_iff.mpr hLookup
    rw [hEntries] at hMem
    cases List.mem_singleton.mp hMem
    rfl

end Sample

end Raiko2.Queue
