import Raiko2.Queue.Invariant
import Raiko2.Queue.StepCases

/-!
# Leasing and maintenance keep the invariant

The steps on a task that has been entered: it is taken from its queue and leased, its lease is renewed, and the
maintenance tick brings it back when its time has come or its lease has run out.
-/

namespace Raiko2.Queue

open Lib

variable {P O Id : Type} [DecidableEq Id] {s s' : Inner P O Id} {popped popped' exempt : Id → Prop} {x id : Id}
  {record : TaskRecord P O Id}

section Reframe

/-- A change of queues and buckets only, in which no task loses the place that its state needs. -/
theorem StoreInv.reframe (h : StoreInv s popped exempt) (hTasks : s'.tasks = s.tasks)
    (hRemaining : s'.remaining = s.remaining) (hDependents : s'.dependents = s.dependents)
    (hOwners : s'.taskOwners = s.taskOwners) (hGraphs : s'.ownerGraphs = s.ownerGraphs)
    (hQueue : ∀ y record, s.tasks.lookup y = some record → record.state = .ready →
      y ∈ s.queue record.priority ∨ popped y → y ∈ s'.queue record.priority ∨ popped' y)
    (hBucket : ∀ y record error attempt time, s.tasks.lookup y = some record →
      record.state = .retrying error attempt time → InBucket s.scheduled time y → InBucket s'.scheduled time y) :
    StoreInv s' popped' exempt := by
  have hDependentsOf : ∀ d, s'.dependentsOf d = s.dependentsOf d := fun d => by
    rw [Inner.dependentsOf, hDependents, Inner.dependentsOf]
  have hOwnersOf : ∀ y, s'.ownersOf y = s.ownersOf y := fun y => by
    rw [Inner.ownersOf, hOwners, Inner.ownersOf]
  have hLookup : ∀ y, s'.tasks.lookup y = s.tasks.lookup y := fun y => by rw [hTasks]
  refine ⟨h.toGraphInv.of_sameGraph ?_, fun y record hRecord hy => ?_⟩
  · constructor
    · intro y after hAfter
      exact ⟨after, hLookup y ▸ hAfter, rfl⟩
    · intro y before hBefore
      exact ⟨before, (hLookup y).trans hBefore, rfl⟩
    · intro y after hAfter
      exact h.payload y after (hLookup y ▸ hAfter)
    · exact hDependentsOf
    · exact hOwnersOf
    · exact hGraphs
  · rw [hLookup y] at hRecord
    have hOk := h.task y record hRecord hy
    have hDone : ∀ d, s'.isDone d = s.isDone d := fun d => Inner.isDone_congr (hLookup d)
    constructor
    · rw [hOwnersOf y]
      exact hOk.owned
    · intro k hk
      obtain ⟨hPositive, hWaits⟩ := hOk.pending k hk
      refine ⟨hPositive, ?_, ?_, ?_, ?_⟩
      · rw [hRemaining]
        exact hWaits.counter
      · simp only [hDone]
        exact hWaits.count
      · intro d hd hNotDone
        rw [Inner.isLive_congr (hLookup d)]
        exact hWaits.live d hd (hDone d ▸ hNotDone)
      · intro d hd hNotDone
        rw [hDependentsOf d]
        exact hWaits.edge d hd (hDone d ▸ hNotDone)
    · intro hReleased d hd
      rw [hDone d]
      exact hOk.released hReleased d hd
    · intro hReady
      exact hQueue y record hRecord hReady (hOk.ready hReady)
    · exact hOk.running
    · intro error attempt time hState
      exact hBucket y record error attempt time hRecord hState (hOk.retrying error attempt time hState)

theorem taskUpdate_insert (record' : TaskRecord P O Id) (hRecord : s.tasks.lookup id = some record)
    (hLive : record.state.isTerminal = false) (hLive' : record'.state.isTerminal = false)
    (hDeps : record'.dependencies = record.dependencies) (hPayload : record'.payload.isSome = true)
    (nextSequence : UInt64) :
    TaskUpdate s { s with nextSequence, tasks := s.tasks.insert id record' } id record record' where
  before := hRecord
  after := by rw [Table.lookup_insert_ite, if_pos rfl]
  live := hLive
  live' := hLive'
  dependencies := hDeps
  payload := hPayload
  others := fun y hy => by rw [Table.lookup_insert_ite, if_neg hy]
  remaining := fun _ _ => rfl
  dependents := rfl
  owners := rfl
  graphs := rfl
  queue := fun _ _ p hIn => by cases p <;> exact hIn
  bucket := fun _ _ _ hIn => hIn

theorem taskUpdate_modify (f : TaskRecord P O Id → TaskRecord P O Id) (hRecord : s.tasks.lookup id = some record)
    (hLive : record.state.isTerminal = false) (hLive' : (f record).state.isTerminal = false)
    (hDeps : (f record).dependencies = record.dependencies) (hPayload : (f record).payload.isSome = true) :
    TaskUpdate s { s with tasks := s.tasks.modify id f } id record (f record) := by
  rw [Table.modify_of_lookup hRecord]
  exact taskUpdate_insert (f record) hRecord hLive hLive' hDeps hPayload s.nextSequence

variable {s'' : Inner P O Id} {record' record'' : TaskRecord P O Id}

section Update

variable (u : TaskUpdate s s' x record record')

include u

theorem TaskUpdate.trans (u' : TaskUpdate s' s'' x record' record'') : TaskUpdate s s'' x record record'' where
  before := u.before
  after := u'.after
  live := u.live
  live' := u'.live'
  dependencies := u'.dependencies.trans u.dependencies
  payload := u'.payload
  others := fun y hy => (u'.others y hy).trans (u.others y hy)
  remaining := fun y hy => (u'.remaining y hy).trans (u.remaining y hy)
  dependents := u'.dependents.trans u.dependents
  owners := u'.owners.trans u.owners
  graphs := u'.graphs.trans u.graphs
  queue := fun y hy p h => u'.queue y hy p (u.queue y hy p h)
  bucket := fun y hy time h => u'.bucket y hy time (u.bucket y hy time h)

theorem TaskUpdate.push [ReadyQueueSort Id] (p : Priority) : TaskUpdate s (pushReadyLocked s' p x) x record record' where
  before := u.before
  after := by rw [tasks_pushReadyLocked, u.after]
  live := u.live
  live' := u.live'
  dependencies := u.dependencies
  payload := u.payload
  others := fun y hy => by rw [tasks_pushReadyLocked, u.others y hy]
  remaining := fun y hy => by rw [remaining_pushReadyLocked, u.remaining y hy]
  dependents := by rw [dependents_pushReadyLocked, u.dependents]
  owners := by rw [taskOwners_pushReadyLocked, u.owners]
  graphs := by rw [ownerGraphs_pushReadyLocked, u.graphs]
  queue := fun y hy q h => mem_queue_pushReadyLocked.mpr (Or.inr (u.queue y hy q h))
  bucket := fun y hy time h => by
    rw [scheduled_pushReadyLocked]
    exact u.bucket y hy time h

theorem TaskUpdate.schedule (time : UInt64) :
    TaskUpdate s { s' with scheduled := pushScheduled time x s'.scheduled } x record record' :=
  { u with
    queue := fun y hy p h => by cases p <;> exact u.queue y hy _ h
    bucket := fun y hy t h => inBucket_pushScheduled.mpr (Or.inr (u.bucket y hy t h)) }

theorem TaskUpdate.dropBucket (time : UInt64) (ids : List Id) :
    TaskUpdate { s with scheduled := (time, x :: ids) :: s.scheduled }
      { s' with scheduled := (time, ids) :: s'.scheduled } x record record' :=
  { u with
    queue := fun y hy p h => by
      rw [Inner.queue_withScheduled] at h ⊢
      exact u.queue y hy p h
    bucket := fun y hy t h => by
      rw [inBucket_cons] at h ⊢
      refine h.imp (fun ⟨hTime, hMem⟩ => ⟨hTime, ?_⟩) (u.bucket y hy t)
      exact (List.mem_cons.mp hMem).resolve_left hy }

/-- A task whose dependencies are done moves to another state of which that is true. -/
theorem StoreInv.updateReleased (h : StoreInv s popped exempt)
    (hReleased : record.state.isReleased = true) (hReleased' : record'.state.isReleased = true)
    (hReady : record'.state = .ready → x ∈ s'.queue record'.priority)
    (hRunning : ∀ leaseToken attempt, record'.state = .running leaseToken attempt →
      record'.leaseUntilMs.isSome = true)
    (hRetrying : ∀ error attempt time, record'.state = .retrying error attempt time →
      InBucket s'.scheduled time x) : StoreInv s' popped exempt := by
  refine h.update u fun hx => ?_
  have hOk := h.task x record u.before hx
  constructor
  · intro _
    rw [u.ownersOf_eq x]
    exact hOk.owned u.live
  · intro k hk
    rw [hk] at hReleased'
    cases hReleased'
  · intro _ d hd
    rw [u.isDone_eq d]
    exact hOk.released hReleased d (u.dependencies ▸ hd)
  · exact fun h => Or.inl (hReady h)
  · exact hRunning
  · exact hRetrying

end Update

end Reframe

section Taking

theorem StoreInv.popReady (h : StoreInv s popped exempt) {p : Priority} {rest : List Id} (hQueue : s.queue p = id :: rest) :
    StoreInv (s.setQueue p rest) (fun y => popped y ∨ y = id) exempt := by
  refine h.reframe (by simp) (by simp) (by simp) (by simp) (by simp) ?_ (by simp)
  intro y record _ _ hIn
  rw [Inner.queue_setQueue]
  rcases hIn with hIn | hPopped
  · split
    · rename_i hp
      rw [hp, hQueue] at hIn
      exact (List.mem_cons.mp hIn).symm.imp_right Or.inr
    · exact Or.inl hIn
  · exact Or.inr (Or.inl hPopped)

theorem StoreInv.taskUpdate_leased (h : StoreInv s popped exempt) (hRecord : s.tasks.lookup id = some record)
    (hReady : record.state = .ready) (storeLease : Nat) (leaseToken : String) (attempt : UInt32)
    (sequence nextSequence nowMs : UInt64) :
    TaskUpdate s
      { s with nextSequence, tasks := s.tasks.insert id (record.leased storeLease leaseToken attempt sequence nowMs) }
      id record (record.leased storeLease leaseToken attempt sequence nowMs) :=
  taskUpdate_insert (record.leased storeLease leaseToken attempt sequence nowMs) hRecord (by rw [hReady]; rfl) rfl rfl
    (h.payload id record hRecord) nextSequence

/-- The call that holds a popped task leases it, or finds it not ready. -/
theorem StoreInv.takeReady (h : StoreInv s popped exempt) (storeLease : Nat) (leaseToken : String) (nowMs : UInt64)
    (hPopped : ∀ y, popped y → popped' y ∨ y = id) :
    StoreInv (takeReadyLocked s storeLease id leaseToken nowMs).2 popped' exempt := by
  rcases takeReadyLocked_cases s id storeLease leaseToken nowMs with
    ⟨hEq, hNone⟩ | ⟨record, payload, attempt, sequence, hRecord, hReady, _, hEq⟩
  · rw [hEq]
    refine h.reframe rfl rfl rfl rfl rfl ?_ fun _ _ _ _ _ _ _ h => h
    rintro y record hRecord hReady (hIn | hIn)
    · exact Or.inl hIn
    · rcases hPopped y hIn with hIn | rfl
      · exact Or.inr hIn
      · have hSome := h.payload y record hRecord
        rw [hNone record hRecord hReady] at hSome
        cases hSome
  · rw [hEq]
    have hUpdate := h.taskUpdate_leased hRecord hReady storeLease leaseToken attempt sequence
      (U64.saturatingAdd s.nextSequence 1) nowMs
    have hLeased : StoreInv _ popped exempt :=
      h.updateReleased hUpdate (by rw [hReady]; rfl) rfl nofun (fun _ _ _ => rfl) nofun
    -- the task is not ready any more, so that the call can drop it
    refine hLeased.reframe rfl rfl rfl rfl rfl ?_ fun _ _ _ _ _ _ _ h => h
    rintro y after hAfter hReady (hIn | hIn)
    · exact Or.inl hIn
    · rcases hPopped y hIn with hIn | rfl
      · exact Or.inr hIn
      · rw [Table.lookup_insert_ite, if_pos rfl] at hAfter
        cases hAfter
        cases hReady

end Taking

section Holding

variable {leaseToken : String} {attempt : UInt32}

theorem StoreInv.updateRunning (h : StoreInv s popped fun _ => False) (f : TaskRecord P O Id → TaskRecord P O Id)
    (hRecord : s.tasks.lookup id = some record) (hState : record.state = .running leaseToken attempt)
    (hSame : (f record).state = record.state) (hDeps : (f record).dependencies = record.dependencies)
    (hPayload : (f record).payload.isSome = true) (hLease : (f record).leaseUntilMs.isSome = true) :
    StoreInv { s with tasks := s.tasks.modify id f } popped fun _ => False := by
  have hRunning : (f record).state = .running leaseToken attempt := hSame.trans hState
  refine h.updateReleased (taskUpdate_modify f hRecord (by rw [hState]; rfl) (by rw [hRunning]; rfl) hDeps hPayload)
    (by rw [hState]; rfl) (by rw [hRunning]; rfl) ?_ (fun _ _ _ => hLease) ?_
  · intro hReady
    rw [hRunning] at hReady
    cases hReady
  · intro _ _ _ hRetrying
    rw [hRunning] at hRetrying
    cases hRetrying

theorem StoreInv.checkpoint (h : StoreInv s popped fun _ => False) (payload : P)
    (executionPolicy : TaskExecutionPolicy) :
    StoreInv (checkpointPayloadIfRunning s id leaseToken attempt payload executionPolicy).1 popped
      fun _ => False := by
  rw [checkpointPayloadIfRunning]
  split
  · rename_i hMatch
    obtain ⟨record, hRecord, hState⟩ := runningLeaseMatches_iff.mp hMatch
    exact h.updateRunning _ hRecord hState rfl rfl rfl ((h.task id record hRecord not_false).running _ _ hState)
  · exact h

theorem StoreInv.renew (h : StoreInv s popped fun _ => False) (storeLease : Nat) (nowMs : UInt64) :
    StoreInv (renewLease s storeLease id leaseToken attempt nowMs).1 popped fun _ => False := by
  rw [renewLease]
  split
  · rename_i hMatch
    obtain ⟨record, hRecord, hState⟩ := runningLeaseMatches_iff.mp hMatch
    exact h.updateRunning _ hRecord hState rfl rfl (h.payload id record hRecord) rfl
  · exact h

end Holding

section Maintaining

variable [ReadyQueueSort Id]

theorem StoreInv.requeueLoop {ids : List Id} (h : StoreInv s popped exempt)
    (hReleased : ∀ id ∈ ids, ∀ record, s.tasks.lookup id = some record → record.state.isReleased = true) :
    StoreInv (ids.foldl requeueLease s) popped exempt := by
  induction ids generalizing s with
  | nil => exact h
  | cons id ids ih =>
    rw [List.foldl_cons, requeueLease]
    split
    · exact ih h fun y hy => hReleased y (List.mem_cons_of_mem _ hy)
    · rename_i record hRecord
      have hFirst := hReleased id List.mem_cons_self record hRecord
      have hUpdate := (taskUpdate_modify (fun record => { record with state := .ready, leaseUntilMs := none })
        hRecord (isTerminal_of_isReleased hFirst) rfl rfl (h.payload id record hRecord)).push record.priority
      refine ih (h.updateReleased hUpdate hFirst rfl ?_ nofun nofun) ?_
      · exact fun _ => mem_queue_pushReadyLocked.mpr (Or.inl ⟨rfl, rfl⟩)
      · intro y hy after hAfter
        by_cases hEq : y = id
        · subst hEq
          cases hUpdate.after.symm.trans hAfter
          rfl
        · exact hReleased y (List.mem_cons_of_mem _ hy) after ((hUpdate.others y hEq).symm.trans hAfter)

omit [ReadyQueueSort Id] in
theorem expiredLease_eq_some {nowMs : UInt64} {lease : UInt64 × UInt64 × Id}
    (h : expiredLease s nowMs id = some lease) : lease.2.2 = id ∧
      ∃ record leaseToken attempt, s.tasks.lookup id = some record ∧ record.state = .running leaseToken attempt := by
  rw [expiredLease] at h
  split at h
  · cases h
  · rename_i record hRecord
    split at h
    · rename_i leaseToken attempt leaseUntilMs hState _
      split at h
      · cases h
      · cases h
        exact ⟨rfl, record, leaseToken, attempt, hRecord, hState⟩
    · cases h

theorem StoreInv.requeueExpiredLeases (h : StoreInv s popped exempt) (order : List Id) (nowMs : UInt64)
    (limit : Nat) : StoreInv (requeueExpiredLeases s order nowMs limit).2 popped exempt := by
  refine h.requeueLoop fun id hId after hAfter => ?_
  obtain ⟨lease, hLease, rfl⟩ := List.mem_map.mp hId
  have hExpired := mem_sortByKey.mp (List.mem_of_mem_take hLease)
  obtain ⟨id, _, hSome⟩ := List.mem_filterMap.mp hExpired
  obtain ⟨hEq, record, leaseToken, attempt, hRecord, hState⟩ := expiredLease_eq_some hSome
  rw [hEq] at hAfter
  cases hRecord.symm.trans hAfter
  rw [hState]
  rfl

/-- The pass over one bucket; what it leaves is still in front of the other buckets. -/
theorem StoreInv.promoteBucket {time : UInt64} {ids : List Id} (nowMs : UInt64) (limit moved : Nat)
    (h : StoreInv { s with scheduled := (time, ids) :: s.scheduled } popped exempt) :
    StoreInv { (promoteBucket nowMs limit ids moved s).2.2 with
      scheduled := (time, (promoteBucket nowMs limit ids moved s).2.1) ::
        (promoteBucket nowMs limit ids moved s).2.2.scheduled } popped exempt := by
  induction ids generalizing moved s with
  | nil => exact h
  | cons id ids ih =>
    -- an id that is not waiting for a retry can be dropped from the bucket
    have hDrop : (∀ record error attempt t, s.tasks.lookup id = some record →
        record.state ≠ .retrying error attempt t) →
        StoreInv { s with scheduled := (time, ids) :: s.scheduled } popped exempt := by
      intro hNot
      refine h.reframe rfl rfl rfl rfl rfl (fun _ _ _ _ hIn => by simpa using hIn) ?_
      intro y record error attempt t hRecord hState hIn
      rw [inBucket_cons] at hIn ⊢
      refine hIn.imp_left fun ⟨hTime, hMem⟩ => ⟨hTime, ?_⟩
      rcases List.mem_cons.mp hMem with rfl | hMem
      · exact absurd hState (hNot record error attempt t hRecord)
      · exact hMem
    rw [Queue.promoteBucket]
    split
    · split
      · rename_i hNone
        exact ih _ (hDrop fun record _ _ _ hRecord => by rw [hNone] at hRecord; cases hRecord)
      · rename_i record hRecord
        split
        · rename_i error attempt nextReadyAtMs hState
          split
          · -- the time has moved: the task goes to its own bucket
            apply ih
            refine h.reframe rfl rfl rfl rfl rfl (fun _ _ _ _ hIn => by simpa using hIn) ?_
            intro y record' error' attempt' t hRecord' hState' hIn
            rw [inBucket_cons] at hIn ⊢
            rw [inBucket_pushScheduled]
            by_cases hEq : y = id
            · subst hEq
              cases hRecord.symm.trans hRecord'
              cases hState.symm.trans hState'
              exact Or.inr (Or.inl ⟨rfl, rfl⟩)
            · rcases hIn with ⟨hTime, hMem⟩ | hIn
              · exact Or.inl ⟨hTime, (List.mem_cons.mp hMem).resolve_left hEq⟩
              · exact Or.inr (Or.inr hIn)
          · apply ih
            have hLive : record.state.isTerminal = false := by rw [hState]; rfl
            have hUpdate := (taskUpdate_modify (fun record => { record with state := .ready, leaseUntilMs := none })
              hRecord hLive rfl rfl (h.payload id record hRecord)).push record.priority
            refine h.updateReleased (hUpdate.dropBucket time ids) (by rw [hState]; rfl) rfl ?_ nofun nofun
            intro _
            rw [Inner.queue_withScheduled]
            exact mem_queue_pushReadyLocked.mpr (Or.inl ⟨rfl, rfl⟩)
        · rename_i hNot
          exact ih _ (hDrop fun record' error attempt t hRecord' hState => by
            cases hRecord.symm.trans hRecord'
            exact hNot error attempt t hState)
    · exact h

theorem StoreInv.promoteLoop {nowMs : UInt64} {limit turns moved : Nat} (h : StoreInv s popped exempt) :
    StoreInv (promoteLoop nowMs limit turns moved s).2 popped exempt := by
  induction turns generalizing moved s with
  | zero => exact h
  | succ turns ih =>
    rw [Queue.promoteLoop]
    split
    · split
      · exact h
      · rename_i time ids scheduled hScheduled
        split
        · exact h
        · have hBucket : StoreInv { ({ s with scheduled } : Inner P O Id) with scheduled := (time, ids) :: scheduled }
              popped exempt := by
            rw [← hScheduled]
            exact h
          have hPassed := StoreInv.promoteBucket nowMs limit moved hBucket
          generalize Queue.promoteBucket nowMs limit ids moved { s with scheduled } = result at hPassed ⊢
          obtain ⟨moved', left, passed⟩ := result
          apply ih
          split
          · rename_i hEmpty
            refine hPassed.reframe rfl rfl rfl rfl rfl (fun _ _ _ _ hIn => by simpa using hIn) ?_
            intro y record error attempt t _ _ hIn
            rw [inBucket_cons, List.isEmpty_iff.mp hEmpty] at hIn
            exact hIn.resolve_left fun hMem => List.not_mem_nil hMem.2
          · exact hPassed
    · exact h

theorem StoreInv.promoteScheduled (h : StoreInv s popped exempt) (nowMs : UInt64) (limit : Nat) :
    StoreInv (promoteScheduled s nowMs limit).2 popped exempt :=
  StoreInv.promoteLoop h

end Maintaining

end Raiko2.Queue
