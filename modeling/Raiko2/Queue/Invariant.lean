import Raiko2.Queue.Views

/-!
# The invariant of the task store

What holds of every task by its state, and of the maps that tie the tasks together. A store operation is one of three
kinds of change: a task that has not ended changes its state, a set of tasks that is closed under waiting dependents
is lost, or a task that was missing or lost is entered.
-/

namespace Raiko2.Queue

open Lib Queue.Inner

variable {P O Id : Type}

section States

variable {state : TaskState O Id}

theorem isSucceeded_of_live (h : state.isTerminal = false) : state.isSucceeded = false := by
  cases state <;> simp_all [TaskState.isTerminal, TaskState.isSucceeded]

theorem isTerminal_of_isLost (h : state.isLost = true) : state.isTerminal = true := by
  cases state <;> simp_all [TaskState.isTerminal, TaskState.isLost]

theorem isSucceeded_of_isLost (h : state.isLost = true) : state.isSucceeded = false := by
  cases state <;> simp_all [TaskState.isSucceeded, TaskState.isLost]

theorem pending_or_isReleased (h : state.isTerminal = false) :
    (∃ k, state = .pending k) ∨ state.isReleased = true := by
  cases state <;> simp_all [TaskState.isTerminal, TaskState.isReleased]

theorem isTerminal_of_isReleased (h : state.isReleased = true) : state.isTerminal = false := by
  cases state <;> simp_all [TaskState.isTerminal, TaskState.isReleased]

end States

variable [DecidableEq Id]

namespace Inner

def isDone (s : Inner P O Id) (id : Id) : Bool := (s.stateOf id).any (·.isSucceeded)

def isLive (s : Inner P O Id) (id : Id) : Bool := (s.stateOf id).any (!·.isTerminal)

variable {id : Id}

theorem isDone_of_lookup {s : Inner P O Id} {record : TaskRecord P O Id} (h : s.tasks.lookup id = some record) :
    s.isDone id = record.state.isSucceeded := by
  simp [isDone, stateOf, h]

theorem isLive_of_lookup {s : Inner P O Id} {record : TaskRecord P O Id} (h : s.tasks.lookup id = some record) :
    s.isLive id = !record.state.isTerminal := by
  simp [isLive, stateOf, h]

theorem isDone_congr {s s' : Inner P O Id} (h : s'.tasks.lookup id = s.tasks.lookup id) :
    s'.isDone id = s.isDone id := by
  rw [isDone, isDone, stateOf, stateOf, h]

theorem isLive_congr {s s' : Inner P O Id} (h : s'.tasks.lookup id = s.tasks.lookup id) :
    s'.isLive id = s.isLive id := by
  rw [isLive, isLive, stateOf, stateOf, h]

theorem isDone_iff {s : Inner P O Id} :
    s.isDone id = true ↔ ∃ record output, s.tasks.lookup id = some record ∧ record.state = .succeeded output := by
  rw [isDone, stateOf]
  cases s.tasks.lookup id with
  | none => simp
  | some record => cases hState : record.state <;> simp [hState, TaskState.isSucceeded]

theorem isLive_iff {s : Inner P O Id} :
    s.isLive id = true ↔ ∃ record, s.tasks.lookup id = some record ∧ record.state.isTerminal = false := by
  rw [isLive, stateOf]
  cases s.tasks.lookup id <;> simp

end Inner

/-- The counter and the edges of a task that waits; `owed` is the number of dependencies that have succeeded without
the task having been told. -/
structure Waits (s : Inner P O Id) (x : Id) (dependencies : List Id) (k owed : Nat) : Prop where
  counter : s.remaining.lookup x = some k
  count : k = dependencies.countP (fun d => !s.isDone d) + owed
  live : ∀ d ∈ dependencies, s.isDone d = false → s.isLive d = true
  edge : ∀ d ∈ dependencies, s.isDone d = false → x ∈ s.dependentsOf d

/-- What holds of a task by its state; `popped` are the tasks in the hands of a `next_ready` call. -/
structure TaskOk (s : Inner P O Id) (popped : Id → Prop) (x : Id) (record : TaskRecord P O Id) : Prop where
  owned : record.state.isTerminal = false → (s.ownersOf x).Nonempty
  pending : ∀ k, record.state = .pending k → 1 ≤ k ∧ Waits s x record.dependencies k 0
  released : record.state.isReleased = true → ∀ d ∈ record.dependencies, s.isDone d = true
  ready : record.state = .ready → x ∈ s.queue record.priority ∨ popped x
  running : ∀ leaseToken attempt, record.state = .running leaseToken attempt → record.leaseUntilMs.isSome = true
  retrying : ∀ error attempt time, record.state = .retrying error attempt time → InBucket s.scheduled time x

/-- The maps between tasks, edges, owners and graphs agree, and ownership is closed under dependencies. -/
structure GraphInv (s : Inner P O Id) : Prop where
  nodup : ∀ x record, s.tasks.lookup x = some record → record.dependencies.Nodup
  payload : ∀ x record, s.tasks.lookup x = some record → record.payload.isSome = true
  edge : ∀ x d, x ∈ s.dependentsOf d → ∃ record, s.tasks.lookup x = some record ∧ d ∈ record.dependencies
  edges : ∀ d, (s.dependentsOf d).Nodup
  closed : ∀ owner x, owner ∈ s.ownersOf x →
    ∃ record, s.tasks.lookup x = some record ∧ ∀ d ∈ record.dependencies, owner ∈ s.ownersOf d
  graphs : ∀ owner x, owner ∈ s.ownersOf x ↔
    ∃ graph, s.ownerGraphs.lookup owner = some graph ∧ graph.attached = true ∧ x ∈ graph.taskIds

/-- The invariant of the store; `exempt` are the tasks that an operation under way has still to settle. -/
structure StoreInv (s : Inner P O Id) (popped exempt : Id → Prop) : Prop extends GraphInv s where
  task : ∀ x record, s.tasks.lookup x = some record → ¬exempt x → TaskOk s popped x record

variable {s s' : Inner P O Id} {popped popped' exempt exempt' : Id → Prop} {x : Id} {record : TaskRecord P O Id}

theorem taskOk_of_isTerminal (h : record.state.isTerminal = true) : TaskOk s popped x record where
  owned := fun hLive => absurd h (by simp [hLive])
  pending := fun k hk => by
    rw [hk] at h
    cases h
  released := fun hReleased => absurd h (by simp [isTerminal_of_isReleased hReleased])
  ready := fun hReady => by
    rw [hReady] at h
    cases h
  running := fun leaseToken attempt hRunning => by
    rw [hRunning] at h
    cases h
  retrying := fun error attempt time hRetrying => by
    rw [hRetrying] at h
    cases h

theorem TaskOk.dependency (h : TaskOk s popped x record) (hLive : record.state.isTerminal = false) {d : Id}
    (hd : d ∈ record.dependencies) : s.isDone d = true ∨ s.isLive d = true := by
  rcases pending_or_isReleased hLive with ⟨k, hk⟩ | hReleased
  · by_cases hDone : s.isDone d = true
    · exact Or.inl hDone
    · exact Or.inr ((h.pending k hk).2.live d hd (by simpa using hDone))
  · exact Or.inl (h.released hReleased d hd)

theorem TaskOk.edge_of_not_done (h : TaskOk s popped x record) (hLive : record.state.isTerminal = false) {d : Id}
    (hd : d ∈ record.dependencies) (hDone : s.isDone d = false) : x ∈ s.dependentsOf d := by
  rcases pending_or_isReleased hLive with ⟨k, hk⟩ | hReleased
  · exact (h.pending k hk).2.edge d hd hDone
  · exact absurd (h.released hReleased d hd) (by simp [hDone])

theorem GraphInv.owner_dependency (h : GraphInv s) {owner : RootOwner} (hOwner : owner ∈ s.ownersOf x)
    (hRecord : s.tasks.lookup x = some record) {d : Id} (hd : d ∈ record.dependencies) : owner ∈ s.ownersOf d := by
  obtain ⟨record', hRecord', hDeps⟩ := h.closed owner x hOwner
  rw [hRecord] at hRecord'
  cases hRecord'
  exact hDeps d hd

section Frame

/-- What the facts about one task depend on is the same after a change of the store. -/
structure Keeps (s s' : Inner P O Id) (popped popped' : Id → Prop) (x : Id) (dependencies : List Id) : Prop where
  owners : (s.ownersOf x).Nonempty → (s'.ownersOf x).Nonempty
  remaining : s'.remaining.lookup x = s.remaining.lookup x
  done : ∀ d ∈ dependencies, s'.isDone d = s.isDone d
  live : ∀ d ∈ dependencies, s.isLive d = true → s'.isLive d = true
  edge : ∀ d ∈ dependencies, x ∈ s.dependentsOf d → x ∈ s'.dependentsOf d
  queue : ∀ p, x ∈ s.queue p ∨ popped x → x ∈ s'.queue p ∨ popped' x
  bucket : ∀ time, InBucket s.scheduled time x → InBucket s'.scheduled time x

theorem Waits.frame {dependencies : List Id} {k owed : Nat} (h : Waits s x dependencies k owed)
    (hKeeps : Keeps s s' popped popped' x dependencies) : Waits s' x dependencies k owed := by
  constructor
  · rw [hKeeps.remaining]
    exact h.counter
  · rw [h.count]
    congr 1
    apply List.countP_congr
    intro d hd
    rw [hKeeps.done d hd]
  · intro d hd hDone
    rw [hKeeps.done d hd] at hDone
    exact hKeeps.live d hd (h.live d hd hDone)
  · intro d hd hDone
    rw [hKeeps.done d hd] at hDone
    exact hKeeps.edge d hd (h.edge d hd hDone)

theorem TaskOk.frame (h : TaskOk s popped x record)
    (hKeeps : record.state.isTerminal = false → Keeps s s' popped popped' x record.dependencies) :
    TaskOk s' popped' x record := by
  by_cases hTerminal : record.state.isTerminal = true
  · exact taskOk_of_isTerminal hTerminal
  · have hKeeps := hKeeps (by simpa using hTerminal)
    constructor
    · exact fun hLive => hKeeps.owners (h.owned hLive)
    · intro k hk
      obtain ⟨hPositive, hWaits⟩ := h.pending k hk
      exact ⟨hPositive, hWaits.frame hKeeps⟩
    · intro hReleased d hd
      rw [hKeeps.done d hd]
      exact h.released hReleased d hd
    · intro hReady
      exact hKeeps.queue _ (h.ready hReady)
    · exact h.running
    · intro error attempt time hState
      exact hKeeps.bucket time (h.retrying error attempt time hState)

theorem StoreInv.weaken (h : StoreInv s popped exempt) (hExempt : ∀ x record, s.tasks.lookup x = some record →
    exempt x → ¬exempt' x → TaskOk s popped x record) : StoreInv s popped exempt' := by
  refine ⟨h.toGraphInv, fun x record hRecord hx => ?_⟩
  by_cases hOld : exempt x
  · exact hExempt x record hRecord hOld hx
  · exact h.task x record hRecord hOld

/-- Records come and go nowhere, and keep their dependencies; edges, owners and graphs are the same. -/
structure SameGraph (s s' : Inner P O Id) : Prop where
  before : ∀ y after, s'.tasks.lookup y = some after →
    ∃ before, s.tasks.lookup y = some before ∧ after.dependencies = before.dependencies
  after : ∀ y before, s.tasks.lookup y = some before →
    ∃ after, s'.tasks.lookup y = some after ∧ after.dependencies = before.dependencies
  payload : ∀ y after, s'.tasks.lookup y = some after → after.payload.isSome = true
  dependents : ∀ d, s'.dependentsOf d = s.dependentsOf d
  owners : ∀ y, s'.ownersOf y = s.ownersOf y
  graphs : s'.ownerGraphs = s.ownerGraphs

theorem GraphInv.of_sameGraph (h : GraphInv s) (g : SameGraph s s') : GraphInv s' where
  nodup := by
    intro y after hAfter
    obtain ⟨before, hBefore, hDeps⟩ := g.before y after hAfter
    rw [hDeps]
    exact h.nodup y before hBefore
  payload := g.payload
  edge := by
    intro y d hEdge
    rw [g.dependents d] at hEdge
    obtain ⟨before, hBefore, hMem⟩ := h.edge y d hEdge
    obtain ⟨after, hAfter, hDeps⟩ := g.after y before hBefore
    exact ⟨after, hAfter, hDeps ▸ hMem⟩
  edges := by
    intro d
    rw [g.dependents d]
    exact h.edges d
  closed := by
    intro owner y hOwner
    rw [g.owners y] at hOwner
    obtain ⟨before, hBefore, hClosed⟩ := h.closed owner y hOwner
    obtain ⟨after, hAfter, hDeps⟩ := g.after y before hBefore
    refine ⟨after, hAfter, fun d hd => ?_⟩
    rw [g.owners d]
    exact hClosed d (hDeps ▸ hd)
  graphs := by
    intro owner y
    rw [g.owners y, g.graphs]
    exact h.graphs owner y

end Frame

section Update

/-- One task that has not ended gets a new record and has still not ended. -/
structure TaskUpdate (s s' : Inner P O Id) (x : Id) (record record' : TaskRecord P O Id) : Prop where
  before : s.tasks.lookup x = some record
  after : s'.tasks.lookup x = some record'
  live : record.state.isTerminal = false
  live' : record'.state.isTerminal = false
  dependencies : record'.dependencies = record.dependencies
  payload : record'.payload.isSome = true
  others : ∀ y, y ≠ x → s'.tasks.lookup y = s.tasks.lookup y
  remaining : ∀ y, y ≠ x → s'.remaining.lookup y = s.remaining.lookup y
  dependents : s'.dependents = s.dependents
  owners : s'.taskOwners = s.taskOwners
  graphs : s'.ownerGraphs = s.ownerGraphs
  queue : ∀ y, y ≠ x → ∀ p, y ∈ s.queue p → y ∈ s'.queue p
  bucket : ∀ y, y ≠ x → ∀ time, InBucket s.scheduled time y → InBucket s'.scheduled time y

variable {record' : TaskRecord P O Id}

section Update

variable (u : TaskUpdate s s' x record record')

include u

theorem TaskUpdate.isDone_eq (d : Id) : s'.isDone d = s.isDone d := by
  by_cases hd : d = x
  · subst hd
    rw [isDone_of_lookup u.after, isDone_of_lookup u.before, isSucceeded_of_live u.live,
      isSucceeded_of_live u.live']
  · exact isDone_congr (u.others d hd)

theorem TaskUpdate.isLive_eq (d : Id) : s'.isLive d = s.isLive d := by
  by_cases hd : d = x
  · subst hd
    rw [isLive_of_lookup u.after, isLive_of_lookup u.before, u.live, u.live']
  · exact isLive_congr (u.others d hd)

theorem TaskUpdate.dependentsOf_eq (d : Id) : s'.dependentsOf d = s.dependentsOf d := by
  rw [dependentsOf, u.dependents, dependentsOf]

theorem TaskUpdate.ownersOf_eq (y : Id) : s'.ownersOf y = s.ownersOf y := by
  rw [ownersOf, u.owners, ownersOf]

theorem TaskUpdate.keeps {y : Id} (hy : y ≠ x) (dependencies : List Id) : Keeps s s' popped popped y dependencies where
  owners := fun h => by rwa [u.ownersOf_eq y]
  remaining := u.remaining y hy
  done := fun d _ => u.isDone_eq d
  live := fun d _ h => by rw [u.isLive_eq d, h]
  edge := fun d _ h => by rwa [u.dependentsOf_eq d]
  queue := fun p h => h.imp_left (u.queue y hy p)
  bucket := fun time => u.bucket y hy time

theorem TaskUpdate.sameGraph (h : GraphInv s) : SameGraph s s' where
  before := by
    intro y after hAfter
    by_cases hy : y = x
    · subst hy
      rw [u.after] at hAfter
      cases hAfter
      exact ⟨record, u.before, u.dependencies⟩
    · rw [u.others y hy] at hAfter
      exact ⟨after, hAfter, rfl⟩
  after := by
    intro y before hBefore
    by_cases hy : y = x
    · subst hy
      rw [u.before] at hBefore
      cases hBefore
      exact ⟨record', u.after, u.dependencies⟩
    · rw [← u.others y hy] at hBefore
      exact ⟨before, hBefore, rfl⟩
  payload := by
    intro y after hAfter
    by_cases hy : y = x
    · subst hy
      rw [u.after] at hAfter
      cases hAfter
      exact u.payload
    · rw [u.others y hy] at hAfter
      exact h.payload y after hAfter
  dependents := u.dependentsOf_eq
  owners := u.ownersOf_eq
  graphs := u.graphs

theorem StoreInv.update (h : StoreInv s popped exempt)
    (hTask : ¬exempt x → TaskOk s' popped x record') : StoreInv s' popped exempt := by
  refine ⟨h.toGraphInv.of_sameGraph (u.sameGraph h.toGraphInv), fun y after hAfter hy => ?_⟩
  by_cases hEq : y = x
  · subst hEq
    rw [u.after] at hAfter
    cases hAfter
    exact hTask hy
  · rw [u.others y hEq] at hAfter
    exact (h.task y after hAfter hy).frame fun _ => u.keeps hEq _

end Update

end Update

section Lose

structure LostUpdate (s s' : Inner P O Id) (lost : Id → Prop) : Prop where
  outside : ∀ y, ¬lost y → s'.tasks.lookup y = s.tasks.lookup y
  inside : ∀ y, lost y → ∀ after, s'.tasks.lookup y = some after → after.state.isLost = true ∧
    ∃ before, s.tasks.lookup y = some before ∧ before.state.isTerminal = false ∧
      after.dependencies = before.dependencies ∧ after.payload = before.payload
  present : ∀ y, (s.tasks.lookup y).isSome = true → (s'.tasks.lookup y).isSome = true
  remaining : s'.remaining = s.remaining
  dependents : s'.dependents = s.dependents
  owners : s'.taskOwners = s.taskOwners
  graphs : s'.ownerGraphs = s.ownerGraphs
  queue : ∀ y, ¬lost y → ∀ p, y ∈ s.queue p → y ∈ s'.queue p
  bucket : ∀ y, ¬lost y → ∀ time, InBucket s.scheduled time y → InBucket s'.scheduled time y

variable {lost : Id → Prop}

theorem LostUpdate.refl : LostUpdate s s fun _ => False where
  outside := fun _ _ => rfl
  inside := fun _ h => h.elim
  present := fun _ h => h
  remaining := rfl
  dependents := rfl
  owners := rfl
  graphs := rfl
  queue := fun _ _ _ h => h
  bucket := fun _ _ _ h => h

section Losing

variable (u : LostUpdate s s' lost)

include u

theorem LostUpdate.congr {lost' : Id → Prop} (h : ∀ y, lost y ↔ lost' y) : LostUpdate s s' lost' := by
  obtain rfl : lost = lost' := funext fun y => propext (h y)
  exact u

theorem LostUpdate.trans {s'' : Inner P O Id} {lost' : Id → Prop}
    (u' : LostUpdate s' s'' lost') : LostUpdate s s'' fun y => lost y ∨ lost' y where
  outside := by
    intro y hy
    rw [u'.outside y fun h => hy (Or.inr h), u.outside y fun h => hy (Or.inl h)]
  inside := by
    intro y hy after hAfter
    by_cases hNew : lost' y
    · obtain ⟨hLost, middle, hMiddle, hLive, hDeps, hPayload⟩ := u'.inside y hNew after hAfter
      -- a task that is lost in the second step had not ended before it, so the first left it alone
      have hOld : ¬lost y := by
        intro h
        have := isTerminal_of_isLost (u.inside y h middle hMiddle).1
        rw [hLive] at this
        cases this
      rw [u.outside y hOld] at hMiddle
      exact ⟨hLost, middle, hMiddle, hLive, hDeps, hPayload⟩
    · rw [u'.outside y hNew] at hAfter
      exact u.inside y (hy.resolve_right hNew) after hAfter
  present := fun y h => u'.present y (u.present y h)
  remaining := u'.remaining.trans u.remaining
  dependents := u'.dependents.trans u.dependents
  owners := u'.owners.trans u.owners
  graphs := u'.graphs.trans u.graphs
  queue := fun y hy p h => u'.queue y (fun h => hy (Or.inr h)) p (u.queue y (fun h => hy (Or.inl h)) p h)
  bucket := fun y hy time h =>
    u'.bucket y (fun h => hy (Or.inr h)) time (u.bucket y (fun h => hy (Or.inl h)) time h)

theorem LostUpdate.dependentsOf_eq (d : Id) : s'.dependentsOf d = s.dependentsOf d := by
  rw [dependentsOf, u.dependents, dependentsOf]

theorem LostUpdate.ownersOf_eq (y : Id) : s'.ownersOf y = s.ownersOf y := by
  rw [ownersOf, u.owners, ownersOf]

theorem LostUpdate.record_before {y : Id} {after : TaskRecord P O Id}
    (h : s'.tasks.lookup y = some after) : ∃ before, s.tasks.lookup y = some before ∧
      after.dependencies = before.dependencies ∧ after.payload = before.payload := by
  by_cases hy : lost y
  · obtain ⟨_, before, hBefore, _, hDeps, hPayload⟩ := u.inside y hy after h
    exact ⟨before, hBefore, hDeps, hPayload⟩
  · rw [u.outside y hy] at h
    exact ⟨after, h, rfl, rfl⟩

theorem LostUpdate.sameGraph (h : GraphInv s) : SameGraph s s' where
  before := by
    intro y after hAfter
    obtain ⟨before, hBefore, hDeps, _⟩ := u.record_before hAfter
    exact ⟨before, hBefore, hDeps⟩
  after := by
    intro y before hBefore
    obtain ⟨after, hAfter⟩ := Option.isSome_iff_exists.mp (u.present y (by rw [hBefore]; rfl))
    obtain ⟨before', hBefore', hDeps, _⟩ := u.record_before hAfter
    rw [hBefore] at hBefore'
    cases hBefore'
    exact ⟨after, hAfter, hDeps⟩
  payload := by
    intro y after hAfter
    obtain ⟨before, hBefore, _, hPayload⟩ := u.record_before hAfter
    rw [hPayload]
    exact h.payload y before hBefore
  dependents := u.dependentsOf_eq
  owners := u.ownersOf_eq
  graphs := u.graphs

/-- Losing a set of tasks together with every task that waits for one of them keeps the invariant. -/
theorem StoreInv.lose (h : StoreInv s popped exempt) (hLive : ∀ d, lost d → s.isDone d = false)
    (hClosed : ∀ d, lost d → ∀ y ∈ s.dependentsOf d, s.isLive y = true → lost y) :
    StoreInv s' popped exempt := by
  refine ⟨h.toGraphInv.of_sameGraph (u.sameGraph h.toGraphInv), fun y after hAfter hy => ?_⟩
  by_cases hLost : lost y
  · exact taskOk_of_isTerminal (isTerminal_of_isLost (u.inside y hLost after hAfter).1)
  · rw [u.outside y hLost] at hAfter
    refine (h.task y after hAfter hy).frame fun hNotEnded => ?_
    -- a lost dependency would have taken the task with it
    have hKept : ∀ d ∈ after.dependencies, s'.tasks.lookup d = s.tasks.lookup d := by
      intro d hd
      apply u.outside
      intro hd'
      have hEdge := (h.task y after hAfter hy).edge_of_not_done hNotEnded hd (hLive d hd')
      exact hLost (hClosed d hd' y hEdge (isLive_iff.mpr ⟨after, hAfter, hNotEnded⟩))
    constructor
    · intro hOwners
      rwa [u.ownersOf_eq y]
    · rw [u.remaining]
    · exact fun d hd => isDone_congr (hKept d hd)
    · intro d hd hLive
      rw [isLive_congr (hKept d hd), hLive]
    · intro d _ hEdge
      rwa [u.dependentsOf_eq d]
    · exact fun p => Or.imp_left (u.queue y hLost p)
    · exact u.bucket y hLost

end Losing

end Lose

section Enter

/-- A task that was missing or lost is entered with a new record. Its old edges are gone, and it gets one edge from
each dependency that has not succeeded, unless it is lost again. -/
structure Entered (s s' : Inner P O Id) (x : Id) (record : TaskRecord P O Id) (newOwners : Finset RootOwner) :
    Prop where
  after : s'.tasks.lookup x = some record
  others : ∀ y, y ≠ x → s'.tasks.lookup y = s.tasks.lookup y
  nodup : record.dependencies.Nodup
  payload : record.payload.isSome = true
  state : record.state.isLost = true ∨ record.state = .ready ∨
    record.state = .pending (record.dependencies.countP fun d => !s.isDone d)
  ready : record.state = .ready → x ∈ s'.queue record.priority ∧ ∀ d ∈ record.dependencies, s.isDone d = true
  pending : ∀ k, record.state = .pending k → 1 ≤ k ∧ s'.remaining.lookup x = some k ∧
    ∀ d ∈ record.dependencies, s.isDone d = false → s.isLive d = true ∧ x ∈ s'.dependentsOf d
  remaining : ∀ y, y ≠ x → s'.remaining.lookup y = s.remaining.lookup y
  edge_self : ∀ d, x ∈ s'.dependentsOf d → d ∈ record.dependencies
  edge_others : ∀ d y, y ≠ x → (y ∈ s'.dependentsOf d ↔ y ∈ s.dependentsOf d)
  edges : ∀ d, (s'.dependentsOf d).Nodup
  owners : ∀ y, s'.ownersOf y = if y = x then s.ownersOf x ∪ newOwners else s.ownersOf y
  owned : (s.ownersOf x ∪ newOwners).Nonempty
  queue : ∀ y, y ≠ x → ∀ p, y ∈ s.queue p → y ∈ s'.queue p
  bucket : ∀ y, y ≠ x → ∀ time, InBucket s.scheduled time y → InBucket s'.scheduled time y

variable {newOwners : Finset RootOwner}

theorem StoreInv.notMem_dependencies (h : StoreInv s popped exempt) (hDone : s.isDone x = false)
    (hLive : s.isLive x = false) {y : Id} (hRecord : s.tasks.lookup y = some record)
    (hNotEnded : record.state.isTerminal = false) (hy : ¬exempt y) : x ∉ record.dependencies := by
  intro hMem
  have := (h.task y record hRecord hy).dependency hNotEnded hMem
  simp [hDone, hLive] at this

section Entering

variable (e : Entered s s' x record newOwners)

include e

theorem Entered.keeps {y : Id} (hy : y ≠ x) {dependencies : List Id}
    (hx : x ∉ dependencies) : Keeps s s' popped popped y dependencies where
  owners := fun h => by rwa [e.owners y, if_neg hy]
  remaining := e.remaining y hy
  done := fun d hd => isDone_congr (e.others d fun h => hx (h ▸ hd))
  live := fun d hd h => by rw [isLive_congr (e.others d fun h => hx (h ▸ hd)), h]
  edge := fun d _ h => (e.edge_others d y hy).mpr h
  queue := fun p h => h.imp_left (e.queue y hy p)
  bucket := fun time => e.bucket y hy time

theorem Entered.mem_ownersOf {owner : RootOwner} {y : Id} :
    owner ∈ s'.ownersOf y ↔ owner ∈ s.ownersOf y ∨ y = x ∧ owner ∈ newOwners := by
  rw [e.owners y]
  split
  · rename_i hy
    subst hy
    simp
  · simp_all

theorem Entered.taskOk (hDone : s.isDone x = false) (hLive : s.isLive x = false)
    (hDeps : record.state.isLost = false → ∀ d ∈ record.dependencies, s.isDone d = true ∨ s.isLive d = true) :
    TaskOk s' popped x record := by
  by_cases hLost : record.state.isLost = true
  · exact taskOk_of_isTerminal (isTerminal_of_isLost hLost)
  have hDeps := hDeps (by simpa using hLost)
  have hSame : ∀ d ∈ record.dependencies, s'.tasks.lookup d = s.tasks.lookup d := by
    intro d hd
    apply e.others
    rintro rfl
    have := hDeps _ hd
    simp [hDone, hLive] at this
  have hState := e.state.resolve_left hLost
  constructor
  · intro _
    rw [e.owners x, if_pos rfl]
    exact e.owned
  · intro k hk
    obtain ⟨hPositive, hCounter, hEdges⟩ := e.pending k hk
    refine ⟨hPositive, hCounter, ?_, ?_, ?_⟩
    · rcases hState with hReady | hPending
      · rw [hReady] at hk
        cases hk
      · rw [hPending] at hk
        cases hk
        rw [add_zero]
        apply List.countP_congr
        intro d hd
        rw [isDone_congr (hSame d hd)]
    · intro d hd hNotDone
      rw [isDone_congr (hSame d hd)] at hNotDone
      rw [isLive_congr (hSame d hd)]
      exact (hEdges d hd hNotDone).1
    · intro d hd hNotDone
      rw [isDone_congr (hSame d hd)] at hNotDone
      exact (hEdges d hd hNotDone).2
  · intro hReleased d hd
    rcases hState with hReady | hPending
    · rw [isDone_congr (hSame d hd)]
      exact (e.ready hReady).2 d hd
    · rw [hPending] at hReleased
      cases hReleased
  · intro hReady
    exact Or.inl (e.ready hReady).1
  all_goals
    intros
    rename_i hOther
    rcases hState with h | h <;> rw [h] at hOther <;> cases hOther

theorem StoreInv.enter (h : StoreInv s popped exempt) (hDone : s.isDone x = false) (hLive : s.isLive x = false)
    (hDeps : record.state.isLost = false → ∀ d ∈ record.dependencies, s.isDone d = true ∨ s.isLive d = true)
    (hClosed : ∀ owner ∈ s.ownersOf x ∪ newOwners, ∀ d ∈ record.dependencies, owner ∈ s.ownersOf d)
    (hGraphs : ∀ owner y, owner ∈ s'.ownersOf y ↔
      ∃ graph, s'.ownerGraphs.lookup owner = some graph ∧ graph.attached = true ∧ y ∈ graph.taskIds) :
    StoreInv s' popped exempt where
  nodup := by
    intro y after hAfter
    by_cases hy : y = x
    · subst hy
      rw [e.after] at hAfter
      cases hAfter
      exact e.nodup
    · rw [e.others y hy] at hAfter
      exact h.nodup y after hAfter
  payload := by
    intro y after hAfter
    by_cases hy : y = x
    · subst hy
      rw [e.after] at hAfter
      cases hAfter
      exact e.payload
    · rw [e.others y hy] at hAfter
      exact h.payload y after hAfter
  edge := by
    intro y d hEdge
    by_cases hy : y = x
    · subst hy
      exact ⟨record, e.after, e.edge_self d hEdge⟩
    · rw [e.others y hy]
      exact h.edge y d ((e.edge_others d y hy).mp hEdge)
  edges := e.edges
  closed := by
    intro owner y hOwner
    by_cases hy : y = x
    · subst hy
      rw [e.owners y, if_pos rfl] at hOwner
      exact ⟨record, e.after, fun d hd => e.mem_ownersOf.mpr (Or.inl (hClosed owner hOwner d hd))⟩
    · rw [e.owners y, if_neg hy] at hOwner
      obtain ⟨before, hBefore, hOwned⟩ := h.closed owner y hOwner
      rw [e.others y hy]
      exact ⟨before, hBefore, fun d hd => e.mem_ownersOf.mpr (Or.inl (hOwned d hd))⟩
  graphs := hGraphs
  task := by
    intro y after hAfter hy
    by_cases hEq : y = x
    · subst hEq
      rw [e.after] at hAfter
      cases hAfter
      exact e.taskOk hDone hLive hDeps
    · rw [e.others y hEq] at hAfter
      exact (h.task y after hAfter hy).frame fun hNotEnded =>
        e.keeps hEq (h.notMem_dependencies hDone hLive hAfter hNotEnded hy)

end Entering

end Enter

end Raiko2.Queue
