import Raiko2.Queue.Execution

/-!
# The changes that steps of the store are made of

Apart from attaching a graph, every step of every client is a sequence of small changes: ids leave a ready queue or one is
put in, a record is replaced by one with the same dependencies that does not come back from an end, a record is dropped,
and the other maps change in any way. What these changes keep is kept by every step.
-/

namespace Raiko2.Queue

open Lib

variable {P O Id : Type} [DecidableEq Id] [ReadyQueueSort Id] {I : Inner P O Id → Prop} {s s' : Inner P O Id} {id : Id}

/-- A property of stores that every small change keeps. -/
structure Kept (I : Inner P O Id → Prop) : Prop where
  maps : ∀ (s : Inner P O Id) dependents remaining scheduled ownerGraphs taskOwners nextSequence, I s →
    I { s with dependents, remaining, scheduled, ownerGraphs, taskOwners, nextSequence }
  queue : ∀ s p ids, ids.Sublist (s.queue p) → I s → I (s.setQueue p ids)
  push : ∀ s p id, I s → I (pushReadyLocked s p id)
  record : ∀ (s : Inner P O Id) id before after, s.tasks.lookup id = some before →
    after.dependencies = before.dependencies → (before.state.isTerminal = true → after.state.isTerminal = true) →
    I s → I { s with tasks := s.tasks.insert id after }
  erase : ∀ (s : Inner P O Id) id, I s → I { s with tasks := s.tasks.erase id }

namespace Kept

variable (k : Kept I)

include k

theorem modify {f : TaskRecord P O Id → TaskRecord P O Id} (hDeps : ∀ record, (f record).dependencies = record.dependencies)
    (hEnd : ∀ record, s.tasks.lookup id = some record → record.state.isTerminal = true →
      (f record).state.isTerminal = true) (h : I s) : I { s with tasks := s.tasks.modify id f } := by
  rw [Table.modify]
  cases hRecord : s.tasks.lookup id with
  | none => exact h
  | some record => exact k.record s id record _ hRecord (hDeps record) (hEnd record hRecord) h

theorem members (id : Id) (h : I s) : I (removeQueueMemberships s id) := by
  have hFilter : ∀ s p, I s → I (s.setQueue p ((s.queue p).filter (· ≠ id))) :=
    fun s p h => k.queue s p _ List.filter_sublist h
  exact k.maps _ _ _ _ _ _ _ (hFilter _ .low (hFilter _ .medium (hFilter s .high h)))

theorem finish {state : TaskState O Id} (hEnd : state.isTerminal = true) (h : I s) : I (finishTask s id state) :=
  k.modify (fun _ => rfl) (fun _ _ _ => hEnd) (k.members id h)

theorem ready (p : Priority) (hLive : isTerminalTask s id = false) (h : I s) :
    I (pushReadyLocked (s.setState id .ready) p id) := by
  refine k.push _ _ _ (k.modify (fun _ => rfl) (fun other hOther hEnd => ?_) h)
  rw [isTerminalTask_of_lookup hOther, hEnd] at hLive
  cases hLive

theorem fail (root : Id) (error : String) (h : I s) : I (failDependentsLocked s root error) :=
  failDependentsLocked_keeps (fun _ _ _ h => k.finish rfl h) h

theorem detach {owner : RootOwner} {mode : DetachMode} {outcome : DetachOutcome Id}
    (hDetach : detachOwner s owner mode = .ok (s', outcome)) (h : I s) : I s' := by
  refine detachOwner_keeps (fun s _ _ h => k.maps s _ _ _ _ _ _ h) ?_ ?_ hDetach h
  · exact fun s id error h => cancelTaskLocked_keeps (fun _ _ _ h => k.finish rfl h) (fun _ id h => k.fail id error h) h
  · exact fun s id h => k.members id (k.maps { s with tasks := s.tasks.erase id } _ _ _ _ _ _ (k.erase s id h))

theorem release (root : Id) (h : I s) : I (releaseDependentsLocked s root) := by
  refine List.foldlRecOn _ _ h fun s h id _ => releaseDependent_keeps ?_ (fun s p h => k.push s p id h) h
  intro s record remaining state _ hRecord hPending _ h
  have hLive : record.state.isTerminal = true → state.isTerminal = true := by
    rw [hPending]
    rintro ⟨⟩
  exact k.maps _ _ remaining _ _ _ _ (k.record s id record { record with state } hRecord rfl hLive h)

theorem retry {payload : P} {state : TaskState O Id} {record : TaskRecord P O Id} (hRecord : s.tasks.lookup id = some record)
    (hLive : record.state.isTerminal = false) (h : I s) : I ((setPayload s id payload).setState id state) := by
  refine k.modify (fun _ => rfl) (fun other hOther hEnd => ?_) (k.modify (fun _ => rfl) (fun _ _ hEnd => hEnd) h)
  change (s.tasks.modify id fun record => { record with payload := some payload }).lookup id = some other at hOther
  rw [Table.lookup_modify, if_pos rfl, hRecord] at hOther
  cases hOther
  cases hLive.symm.trans hEnd

theorem complete {lease : TaskLease P Id} {result : Except String O} {nowMs : UInt64}
    {disposition : TaskCompletionDisposition} (hDone : Completes s lease nowMs result s' disposition) (h : I s) :
    I s' := by
  cases hDone with
  | stale => exact h
  | succeeded => exact k.release _ (k.finish rfl h)
  | failed => exact k.fail _ _ (k.finish rfl h)
  | retryNow _ hRecord hState => exact k.push _ _ _ (k.retry hRecord (by rw [hState]; rfl) h)
  | retryLater _ _ hRecord hState => exact k.maps _ _ _ _ _ _ _ (k.retry hRecord (by rw [hState]; rfl) h)

theorem step [BEq P] {s : System P O Id} (storeLease : Nat) (event : Event P O Id)
    (hAttach : ∀ owner nodes store outcome, attachGraph s.store owner nodes = .ok (store, outcome) → I store)
    (h : I s.store) : I (System.step storeLease s event).store := by
  have hMove := System.storeMove storeLease s event
  generalize System.step storeLease s event = s' at hMove ⊢
  obtain ⟨store, calls, usedTokens, granted, completed⟩ := s'
  cases hMove with
  | same => exact h
  | attach hOk => exact hAttach _ _ _ _ hOk
  | detach hOk => exact k.detach hOk h
  | pop hQueue => exact k.queue _ _ _ (hQueue ▸ List.sublist_cons_self _ _) h
  | take attempt sequence hCall hRecord hState hPayload =>
    refine k.maps { s.store with tasks := _ } _ _ _ _ _ _ (k.record s.store _ _ _ hRecord rfl ?_ h)
    rw [hState]
    rintro ⟨⟩
  | complete hEq hDone => exact k.complete hDone h
  | checkpoint | renew => exact k.modify (fun _ => rfl) (fun _ _ hEnd => hEnd) h
  | promote nowMs =>
    refine promoteScheduled_keeps (fun s _ h => k.maps s _ _ _ _ _ _ h) ?_ h
    intro s id record _ _ _ hRecord hRetrying h
    refine k.ready _ ?_ h
    rw [isTerminalTask_of_lookup hRecord, hRetrying]
    rfl
  | requeue nowMs order => exact requeueExpiredLeases_keeps (fun _ _ _ _ hLive h => k.ready _ hLive h) h

end Kept

end Raiko2.Queue
