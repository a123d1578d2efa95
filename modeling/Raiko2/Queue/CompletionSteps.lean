import Raiko2.Queue.LeaseSteps

/-!
# Completion keeps the invariant

A task that ends in success releases the tasks that wait for it, one that is lost takes them with it, and one that is
retried goes back to its queue or to the bucket of its time.
-/

namespace Raiko2.Queue

open Lib Queue.Inner List

variable {P O Id : Type} [DecidableEq Id] {s s' : Inner P O Id} {popped popped' exempt : Id → Prop} {x id : Id}
  {record : TaskRecord P O Id}

section Losing

theorem isTerminalTask_of_lookup (h : s.tasks.lookup id = some record) :
    isTerminalTask s id = record.state.isTerminal := by
  simp [isTerminalTask, stateOf, h]

variable {state : TaskState O Id}

theorem lostUpdate_finishTask (hNot : isTerminalTask s id = false) (hLost : state.isLost = true) :
    LostUpdate s (finishTask s id state) (· = id) where
  outside := fun y hy => by rw [lookup_finishTask, if_neg hy]
  inside := by
    rintro y rfl after hAfter
    rw [lookup_finishTask, if_pos rfl] at hAfter
    obtain ⟨before, hBefore, rfl⟩ := Option.map_eq_some_iff.mp hAfter
    have hNotEnded := isTerminalTask_of_lookup hBefore
    exact ⟨hLost, before, hBefore, hNotEnded.symm.trans hNot, rfl, rfl⟩
  present := by
    intro y hy
    rw [lookup_finishTask]
    split
    · rw [Option.isSome_map]
      exact hy
    · exact hy
  remaining := rfl
  dependents := rfl
  owners := rfl
  graphs := rfl
  queue := fun y hy p hIn => (mem_queue_finishTask _ _ _ _).mpr ⟨hIn, hy⟩
  bucket := fun y hy time hIn => (inBucket_finishTask _ _ _).mpr ⟨hIn, hy⟩

theorem lostUpdate_failDependent (s : Inner P O Id) (root id : Id) (error : String) :
    LostUpdate s (failDependent root error s id) fun y => y = id ∧ isTerminalTask s y = false := by
  rw [failDependent]
  split
  · rename_i hTerminal
    refine LostUpdate.refl.congr fun y => ⟨False.elim, ?_⟩
    rintro ⟨rfl, hy⟩
    rw [hTerminal] at hy
    cases hy
  · rename_i hTerminal
    have hNot : isTerminalTask s id = false := by simpa using hTerminal
    refine (lostUpdate_finishTask hNot rfl).congr fun y => ⟨?_, And.left⟩
    rintro rfl
    exact ⟨rfl, hNot⟩

theorem lostUpdate_foldl (root : Id) (error : String) {order : List Id} (hNodup : order.Nodup) :
    LostUpdate s (order.foldl (failDependent root error) s) fun y => y ∈ order ∧ isTerminalTask s y = false := by
  induction order generalizing s with
  | nil => exact LostUpdate.refl.congr fun y => by simp
  | cons id order ih =>
    obtain ⟨hFresh, hNodup⟩ := nodup_cons.mp hNodup
    have hFirst := lostUpdate_failDependent s root id error
    refine (hFirst.trans (ih hNodup)).congr fun y => ?_
    have hSame : y ∈ order → isTerminalTask (failDependent root error s id) y = isTerminalTask s y := by
      intro hy
      rw [isTerminalTask, isTerminalTask, stateOf, stateOf, hFirst.outside]
      rintro ⟨rfl, _⟩
      exact hFresh hy
    rw [mem_cons]
    constructor
    · rintro (⟨hy, hNot⟩ | ⟨hy, hNot⟩)
      · exact ⟨Or.inl hy, hNot⟩
      · exact ⟨Or.inr hy, hSame hy ▸ hNot⟩
    · rintro ⟨hy | hy, hNot⟩
      · exact Or.inl ⟨hy, hNot⟩
      · exact Or.inr ⟨hy, (hSame hy).trans hNot⟩

/-- The tasks that a failure reaches: those that wait for the root, directly or through others. -/
def Downstream (s : Inner P O Id) (root x : Id) : Prop := Relation.TransGen (fun d y => y ∈ s.dependentsOf d) root x

theorem failDependentsLocked_eq_foldl (s : Inner P O Id) (root : Id) (error : String) :
    ∃ order : List Id, failDependentsLocked s root error = order.foldl (failDependent root error) s ∧ order.Nodup ∧
      ∀ y, y ∈ order ↔ Downstream s root y := by
  have hKeys : ∀ d, s.dependentsOf d ≠ [] → d ∈ s.dependents.keys := by
    intro d hd
    rw [← AList.mem_keys]
    by_contra hAbsent
    rw [dependentsOf, AList.lookup_eq_none.mpr hAbsent] at hd
    exact hd rfl
  obtain ⟨order, hEq, hNodup, hOrder⟩ := worklist_spec (failDependent root error) s.dependents.keys_nodup hKeys s
    (le_refl ((s.dependentsOf root).length + (s.dependents.keys.map fun id => (s.dependentsOf id).length).sum))
  refine ⟨order, hEq, hNodup, fun y => ?_⟩
  rw [hOrder y, Downstream, Relation.TransGen.head'_iff]

theorem lostUpdate_failDependentsLocked (s : Inner P O Id) (root : Id) (error : String) :
    LostUpdate s (failDependentsLocked s root error) fun y => Downstream s root y ∧ isTerminalTask s y = false := by
  obtain ⟨order, hEq, hNodup, hOrder⟩ := failDependentsLocked_eq_foldl s root error
  rw [hEq]
  exact (lostUpdate_foldl root error hNodup).congr fun y => and_congr_left fun _ => hOrder y

theorem lostUpdate_lose (hNot : isTerminalTask s id = false) (hLost : state.isLost = true) (error : String) :
    LostUpdate s (failDependentsLocked (finishTask s id state) id error)
      fun y => y = id ∨ Downstream s id y ∧ isTerminalTask s y = false := by
  have hFirst := lostUpdate_finishTask hNot hLost
  refine (hFirst.trans (lostUpdate_failDependentsLocked _ id error)).congr fun y => ?_
  by_cases hy : y = id
  · simp [hy]
  · have hSame : isTerminalTask (finishTask s id state) y = isTerminalTask s y := by
      rw [isTerminalTask, isTerminalTask, stateOf, stateOf, hFirst.outside y hy]
    rw [hSame]
    rfl

/-- Losing a task that has not ended and whoever waits for it keeps the invariant. -/
theorem StoreInv.loseDownstream (h : StoreInv s popped exempt) (hLive : s.isLive id = true)
    (u : LostUpdate s s' fun y => y = id ∨ Downstream s id y ∧ isTerminalTask s y = false) :
    StoreInv s' popped exempt := by
  have hNot : ∀ y, s.isLive y = true → isTerminalTask s y = false := by
    intro y hy
    obtain ⟨record, hRecord, hNotEnded⟩ := isLive_iff.mp hy
    rw [isTerminalTask_of_lookup hRecord, hNotEnded]
  have hDone : ∀ y, isTerminalTask s y = false → s.isDone y = false := by
    intro y hy
    rw [isTerminalTask] at hy
    rw [isDone]
    cases hState : s.stateOf y with
    | none => rfl
    | some state =>
      rw [hState] at hy
      exact isSucceeded_of_live hy
  refine h.lose u ?_ ?_
  · rintro d (rfl | ⟨_, hd⟩)
    · exact hDone d (hNot d hLive)
    · exact hDone d hd
  · intro d hd y hy hLive
    right
    refine ⟨?_, hNot y hLive⟩
    rcases hd with rfl | ⟨hd, _⟩
    · exact Relation.TransGen.single hy
    · exact hd.tail hy

theorem StoreInv.loseTask (h : StoreInv s popped exempt) (hLive : s.isLive id = true) (hLost : state.isLost = true)
    (error : String) :
    StoreInv (failDependentsLocked (finishTask s id state) id error) popped exempt := by
  refine h.loseDownstream hLive (lostUpdate_lose ?_ hLost error)
  obtain ⟨record, hRecord, hNotEnded⟩ := isLive_iff.mp hLive
  rw [isTerminalTask_of_lookup hRecord, hNotEnded]

end Losing

section Releasing

/-- What holds of a dependent of a task that has just succeeded, before it is told. -/
structure Owed (s : Inner P O Id) (popped : Id → Prop) (x : Id) (record : TaskRecord P O Id) : Prop where
  pending : ∀ k, record.state = .pending k → (s.ownersOf x).Nonempty ∧ Waits s x record.dependencies k 1
  other : (∀ k, record.state ≠ .pending k) → TaskOk s popped x record

theorem taskOk_of_owed {record' : TaskRecord P O Id} {k : Nat} (hOwners : (s.ownersOf x).Nonempty)
    (hWaits : Waits s x record.dependencies k 1) (u : TaskUpdate s s' x record record')
    (hState : record'.state = if k - 1 = 0 then .ready else .pending (k - 1))
    (hCounter : s'.remaining.lookup x = some (k - 1))
    (hReady : record'.state = .ready → x ∈ s'.queue record'.priority) : TaskOk s' popped x record' := by
  have hCount : k - 1 = record'.dependencies.countP fun d => !s'.isDone d := by
    simp only [hWaits.count, u.dependencies, u.isDone_eq, Nat.add_sub_cancel]
  constructor
  · intro _
    rw [u.ownersOf_eq x]
    exact hOwners
  · intro n hn
    rw [hState] at hn
    split at hn
    · cases hn
    · rename_i hPositive
      cases hn
      refine ⟨Nat.one_le_iff_ne_zero.mpr hPositive, hCounter, hCount, ?_, ?_⟩
      · intro d hd hDone
        rw [u.isDone_eq d] at hDone
        rw [u.isLive_eq d]
        exact hWaits.live d (u.dependencies ▸ hd) hDone
      · intro d hd hDone
        rw [u.isDone_eq d] at hDone
        rw [u.dependentsOf_eq d]
        exact hWaits.edge d (u.dependencies ▸ hd) hDone
  · intro hReleased d hd
    rw [hState] at hReleased
    split at hReleased
    · rename_i hZero
      rw [hCount, countP_eq_zero] at hZero
      simpa using hZero d hd
    · cases hReleased
  · exact fun h => Or.inl (hReady h)
  all_goals
    intros
    rename_i hOther
    rw [hState] at hOther
    split at hOther <;> cases hOther

variable [ReadyQueueSort Id]

theorem releaseDependent_pending {k : Nat} (hRecord : s.tasks.lookup x = some record)
    (hState : record.state = .pending k) (hCounter : s.remaining.lookup x = some k)
    (hPayload : record.payload.isSome = true) :
    ∃ record', TaskUpdate s (releaseDependent s x) x record record' ∧
      record'.state = (if k - 1 = 0 then .ready else .pending (k - 1)) ∧
      (releaseDependent s x).remaining.lookup x = some (k - 1) ∧
      (record'.state = .ready → x ∈ (releaseDependent s x).queue record'.priority) := by
  have hLive : record.state.isTerminal = false := by rw [hState]; rfl
  -- the counter moves first, then the record
  have hCount : TaskUpdate s { s with remaining := s.remaining.insert x (k - 1) } x record record :=
    { before := hRecord, after := hRecord, live := hLive, live' := hLive, dependencies := rfl, payload := hPayload
      others := fun _ _ => rfl
      remaining := fun y hy => by rw [Table.lookup_insert_ite, if_neg hy]
      dependents := rfl, owners := rfl, graphs := rfl
      queue := fun _ _ p hIn => by cases p <;> exact hIn
      bucket := fun _ _ _ hIn => hIn }
  simp only [releaseDependent, hRecord, hState, hCounter, Option.getD_some]
  by_cases hZero : k - 1 = 0
  · simp only [hZero, if_true] at hCount ⊢
    refine ⟨{ record with state := .ready }, ?_, rfl, ?_, ?_⟩
    · have hNew := taskUpdate_insert (s := { s with remaining := s.remaining.insert x 0 })
        { record with state := .ready } hRecord hLive rfl rfl hPayload s.nextSequence
      exact (hCount.trans hNew).push record.priority
    · rw [remaining_pushReadyLocked, Table.lookup_insert_ite, if_pos rfl]
    · exact fun _ => mem_queue_pushReadyLocked.mpr (Or.inl ⟨rfl, rfl⟩)
  · simp only [hZero, if_false]
    refine ⟨{ record with state := .pending (k - 1) }, ?_, rfl, ?_, nofun⟩
    · have hNew := taskUpdate_insert (s := { s with remaining := s.remaining.insert x (k - 1) })
        { record with state := .pending (k - 1) } hRecord hLive rfl rfl hPayload s.nextSequence
      exact hCount.trans hNew
    · rw [Table.lookup_insert_ite, if_pos rfl]

theorem releaseDependent_other (h : ∀ record k, s.tasks.lookup x = some record → record.state ≠ .pending k) :
    releaseDependent s x = s := by
  rw [releaseDependent]
  split
  · rename_i record hRecord
    split
    · rename_i k hState
      exact absurd hState (h record k hRecord)
    · rfl
  · rfl

/-- Each dependent is told once; those that are still to be told are exempt. -/
theorem StoreInv.releaseLoop {todo : List Id} (hNodup : todo.Nodup) (h : StoreInv s popped (· ∈ todo))
    (hOwed : ∀ y ∈ todo, ∀ record, s.tasks.lookup y = some record → Owed s popped y record) :
    StoreInv (todo.foldl releaseDependent s) popped fun _ => False := by
  induction todo generalizing s with
  | nil => exact h.weaken (by simp)
  | cons x todo ih =>
    obtain ⟨hFresh, hNodup⟩ := nodup_cons.mp hNodup
    rw [foldl_cons]
    by_cases hPending : ∃ record k, s.tasks.lookup x = some record ∧ record.state = .pending k
    · obtain ⟨record, k, hRecord, hState⟩ := hPending
      obtain ⟨hOwners, hWaits⟩ := (hOwed x mem_cons_self record hRecord).pending k hState
      obtain ⟨record', u, hState', hCounter, hReady⟩ :=
        releaseDependent_pending hRecord hState hWaits.counter (h.payload x record hRecord)
      have hTask : TaskOk (releaseDependent s x) popped x record' :=
        taskOk_of_owed hOwners hWaits u hState' hCounter hReady
      refine ih hNodup ?_ ?_
      · refine (h.update u fun _ => hTask).weaken fun y after hAfter hy hNot => ?_
        rcases mem_cons.mp hy with rfl | hy
        · cases u.after.symm.trans hAfter
          exact hTask
        · exact absurd hy hNot
      · intro y hy after hAfter
        have hNe : y ≠ x := fun hEq => hFresh (hEq ▸ hy)
        rw [u.others y hNe] at hAfter
        have hOwedY := hOwed y (mem_cons_of_mem _ hy) after hAfter
        have hKeeps : Keeps s (releaseDependent s x) popped popped y after.dependencies := u.keeps hNe _
        constructor
        · intro n hn
          obtain ⟨hOwners, hWaits⟩ := hOwedY.pending n hn
          rw [u.ownersOf_eq y]
          exact ⟨hOwners, hWaits.frame hKeeps⟩
        · exact fun hOther => (hOwedY.other hOther).frame fun _ => hKeeps
    · simp only [not_exists, not_and] at hPending
      rw [releaseDependent_other hPending]
      refine ih hNodup (h.weaken fun y record hRecord hy hNot => ?_) fun y hy => hOwed y (mem_cons_of_mem _ hy)
      rcases mem_cons.mp hy with rfl | hy
      · exact (hOwed y mem_cons_self record hRecord).other fun k => hPending record k hRecord
      · exact absurd hy hNot

end Releasing

section Succeeding

variable {leaseToken : String} {attempt : UInt32}

omit [DecidableEq Id] in
theorem countP_eq_succ {p q : Id → Bool} {xs : List Id} (hNodup : xs.Nodup) {a : Id} (ha : a ∈ xs) (hp : p a = true)
    (hq : q a = false) (hOther : ∀ b, b ≠ a → q b = p b) : xs.countP p = xs.countP q + 1 := by
  induction xs with
  | nil => cases ha
  | cons b xs ih =>
    obtain ⟨hFresh, hNodup⟩ := nodup_cons.mp hNodup
    rcases mem_cons.mp ha with rfl | ha
    · have hRest : xs.countP p = xs.countP q := by
        apply countP_congr
        intro c hc
        rw [hOther c fun hEq => hFresh (hEq ▸ hc)]
      rw [countP_cons_of_pos hp, countP_cons_of_neg (by simp [hq]), hRest]
    · have hNe : b ≠ a := fun hEq => hFresh (hEq ▸ ha)
      rw [countP_cons, countP_cons, hOther b hNe, ih hNodup ha]
      omega

theorem lookup_finishTask_self {state : TaskState O Id} (hRecord : s.tasks.lookup id = some record) :
    (finishTask s id state).tasks.lookup id = some { record with state, leaseUntilMs := none } := by
  rw [lookup_finishTask, if_pos rfl, hRecord, Option.map_some]

theorem isDone_finishTask_succeeded (output : O) (hRecord : s.tasks.lookup id = some record) (d : Id) :
    (finishTask s id (.succeeded output)).isDone d = if d = id then true else s.isDone d := by
  split
  · rename_i hd
    subst hd
    rw [isDone_of_lookup (lookup_finishTask_self hRecord)]
    rfl
  · rename_i hd
    apply isDone_congr
    rw [lookup_finishTask, if_neg hd]

theorem sameGraph_finishTask (h : GraphInv s) (id : Id) (state : TaskState O Id) :
    SameGraph s (finishTask s id state) := by
  have hBefore : ∀ y after, (finishTask s id state).tasks.lookup y = some after →
      ∃ before, s.tasks.lookup y = some before ∧ after.dependencies = before.dependencies ∧
        after.payload = before.payload := by
    intro y after hAfter
    rw [lookup_finishTask] at hAfter
    split at hAfter
    · obtain ⟨before, hBefore, rfl⟩ := Option.map_eq_some_iff.mp hAfter
      exact ⟨before, hBefore, rfl, rfl⟩
    · exact ⟨after, hAfter, rfl, rfl⟩
  constructor
  · intro y after hAfter
    obtain ⟨before, hBefore, hDeps, _⟩ := hBefore y after hAfter
    exact ⟨before, hBefore, hDeps⟩
  · intro y before hRecord
    rw [lookup_finishTask, hRecord]
    split
    · exact ⟨_, rfl, rfl⟩
    · exact ⟨before, rfl, rfl⟩
  · intro y after hAfter
    obtain ⟨before, hBefore, _, hPayload⟩ := hBefore y after hAfter
    rw [hPayload]
    exact h.payload y before hBefore
  · exact fun _ => rfl
  · exact fun _ => rfl
  · rfl

theorem keeps_finishTask (state : TaskState O Id) {dependencies : List Id} (hx : x ≠ id) (hFree : id ∉ dependencies) :
    Keeps s (finishTask s id state) popped popped x dependencies := by
  have hSame : ∀ d ∈ dependencies, (finishTask s id state).tasks.lookup d = s.tasks.lookup d := by
    intro d hd
    have hNe : d ≠ id := fun hEq => hFree (hEq ▸ hd)
    rw [lookup_finishTask, if_neg hNe]
  constructor
  · exact fun hOwners => hOwners
  · rfl
  · exact fun d hd => isDone_congr (hSame d hd)
  · intro d hd hLive
    rw [isLive_congr (hSame d hd), hLive]
  · exact fun d _ hEdge => hEdge
  · exact fun p => Or.imp_left fun hIn => (mem_queue_finishTask _ _ _ _).mpr ⟨hIn, hx⟩
  · exact fun time hIn => (inBucket_finishTask _ _ _).mpr ⟨hIn, hx⟩

theorem owed_of_dependent (output : O) (h : StoreInv s popped fun _ => False) (hRecord : s.tasks.lookup id = some record)
    (hState : record.state = .running leaseToken attempt) {after : TaskRecord P O Id}
    (hAfter : s.tasks.lookup x = some after) (hMem : id ∈ after.dependencies) :
    Owed (finishTask s id (.succeeded output)) popped x after := by
  have hOk := h.task x after hAfter not_false
  have hDone := isDone_finishTask_succeeded output hRecord
  have hNotDone : s.isDone id = false := by
    rw [isDone_of_lookup hRecord, hState]
    rfl
  have hBefore : ∀ d, (finishTask s id (.succeeded output)).isDone d = false → d ≠ id ∧ s.isDone d = false := by
    intro d hd
    rw [hDone d] at hd
    split at hd
    · cases hd
    · exact ⟨by assumption, hd⟩
  constructor
  · intro k hk
    obtain ⟨_, hWaits⟩ := hOk.pending k hk
    refine ⟨hOk.owned (by rw [hk]; rfl), hWaits.counter, ?_, ?_, ?_⟩
    · rw [hWaits.count, add_zero]
      refine countP_eq_succ (h.nodup x after hAfter) hMem (by simp [hNotDone]) (by simp [hDone]) fun d hd => ?_
      rw [hDone d, if_neg hd]
    · intro d hd hNot
      obtain ⟨hNe, hNot⟩ := hBefore d hNot
      have hSame : (finishTask s id (.succeeded output)).tasks.lookup d = s.tasks.lookup d := by
        rw [lookup_finishTask, if_neg hNe]
      rw [isLive_congr hSame]
      exact hWaits.live d hd hNot
    · intro d hd hNot
      exact hWaits.edge d hd (hBefore d hNot).2
  · intro hOther
    refine taskOk_of_isTerminal ?_
    by_contra hLive
    rcases pending_or_isReleased (by simpa using hLive) with ⟨k, hk⟩ | hReleased
    · exact hOther k hk
    · exact absurd (hOk.released hReleased id hMem) (by simp [hNotDone])

/-- Completing a running task and telling its dependents keeps the invariant. -/
theorem StoreInv.succeed [ReadyQueueSort Id] (h : StoreInv s popped fun _ => False)
    (hRecord : s.tasks.lookup id = some record) (hState : record.state = .running leaseToken attempt) (output : O) :
    StoreInv (releaseDependentsLocked (finishTask s id (.succeeded output)) id) popped fun _ => False := by
  have hNotDone : s.isDone id = false := by
    rw [isDone_of_lookup hRecord, hState]
    rfl
  refine StoreInv.releaseLoop (h.edges id) ⟨h.toGraphInv.of_sameGraph (sameGraph_finishTask h.toGraphInv id _), ?_⟩ ?_
  · intro y after hAfter hy
    by_cases hEq : y = id
    · subst hEq
      cases (lookup_finishTask_self hRecord).symm.trans hAfter
      exact taskOk_of_isTerminal rfl
    · rw [lookup_finishTask, if_neg hEq] at hAfter
      have hOk := h.task y after hAfter not_false
      exact hOk.frame fun hLive =>
        keeps_finishTask _ hEq fun hMem => hy (hOk.edge_of_not_done hLive hMem hNotDone)
  · intro y hy after hAfter
    by_cases hEq : y = id
    · subst hEq
      cases (lookup_finishTask_self hRecord).symm.trans hAfter
      exact ⟨nofun, fun _ => taskOk_of_isTerminal rfl⟩
    · rw [lookup_finishTask, if_neg hEq] at hAfter
      obtain ⟨before, hBefore, hMem⟩ := h.edge y id hy
      cases hAfter.symm.trans hBefore
      exact owed_of_dependent output h hRecord hState hAfter hMem

end Succeeding

section Completing

theorem taskUpdate_setPayload_setState (payload : P) (state : TaskState O Id)
    (hRecord : s.tasks.lookup id = some record) (hLive : record.state.isTerminal = false)
    (hLive' : state.isTerminal = false) :
    TaskUpdate s ((setPayload s id payload).setState id state) id record
      { record with payload := some payload, state, leaseUntilMs := none } := by
  have hPayload := taskUpdate_modify (fun record => { record with payload := some payload }) hRecord hLive hLive rfl rfl
  exact hPayload.trans
    (taskUpdate_modify (fun record => { record with state, leaseUntilMs := none }) hPayload.after hLive hLive' rfl rfl)

/-- Whatever a completion does, it keeps the invariant. -/
theorem StoreInv.complete [ReadyQueueSort Id] (h : StoreInv s popped fun _ => False) {lease : TaskLease P Id}
    {result : Except String O} {nowMs : UInt64} {disposition : TaskCompletionDisposition}
    (hPriority : ∀ record, s.tasks.lookup lease.id = some record →
      record.state = .running lease.leaseToken lease.attempt → record.priority = lease.priority)
    (hDone : Completes s lease nowMs result s' disposition) : StoreInv s' popped fun _ => False := by
  cases hDone with
  | stale => exact h
  | succeeded output hRecord hState => exact h.succeed hRecord hState output
  | failed error hRecord hState =>
    exact h.loseTask (isLive_iff.mpr ⟨_, hRecord, by rw [hState]; rfl⟩) rfl _
  | retryNow error hRecord hState =>
    have hSame := hPriority _ hRecord hState
    have hUpdate := taskUpdate_setPayload_setState lease.payload .ready hRecord (by rw [hState]; rfl) rfl
    refine h.updateReleased (hUpdate.push lease.priority) (by rw [hState]; rfl) rfl ?_ nofun nofun
    exact fun _ => mem_queue_pushReadyLocked.mpr (Or.inl ⟨hSame, rfl⟩)
  | retryLater error time hRecord hState =>
    have hUpdate := taskUpdate_setPayload_setState lease.payload (.retrying error lease.attempt time) hRecord
      (by rw [hState]; rfl) rfl
    refine h.updateReleased (hUpdate.schedule time) (by rw [hState]; rfl) rfl nofun nofun ?_
    rintro _ _ _ ⟨⟩
    exact inBucket_pushScheduled.mpr (Or.inl ⟨rfl, rfl⟩)

end Completing

end Raiko2.Queue
