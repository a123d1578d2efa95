import Mathlib.Data.Finset.Order
import Raiko2.Queue.Changes
import Raiko2.Queue.Propagation

/-!
# What unfinished tasks wait for

Graphs of different owners share tasks, and a lost task can come back with other dependencies. The dependencies of the
tasks that have not ended have numbers that grow along them all the same: a task is entered only when no unfinished task
depends on it, and the tasks of one graph are entered in the order of their dependencies. Every unfinished task is wanted
by an attached root, and no task waits for a retry longer than its policy says.
-/

namespace Raiko2.Queue

open Lib

variable {P O Id : Type} [DecidableEq Id] {s s' : Inner P O Id}

section Ranks

def Ranked (s : Inner P O Id) : Prop := ∃ rank : Id → Nat, ∀ d y, WaitsFor s d y → rank d < rank y

theorem Ranked.mono (h : Ranked s) (hSub : ∀ d y, WaitsFor s' d y → WaitsFor s d y) : Ranked s' := by
  obtain ⟨rank, hRank⟩ := h
  exact ⟨rank, fun d y hWaits => hRank d y (hSub d y hWaits)⟩

theorem kept_ranked [ReadyQueueSort Id] : Kept (Ranked : Inner P O Id → Prop) where
  maps := fun _ _ _ _ _ _ _ h => h
  queue := by
    intro s p ids _ h
    refine h.mono fun d y hWaits => ?_
    rwa [WaitsFor, Inner.tasks_setQueue] at hWaits
  push := by
    intro s p id h
    refine h.mono fun d y hWaits => ?_
    rwa [WaitsFor, tasks_pushReadyLocked] at hWaits
  record := by
    intro s id before after hBefore hDeps hEnd h
    refine h.mono ?_
    rintro d y ⟨record, hRecord, hDep, hLive⟩
    rw [Table.lookup_insert_ite] at hRecord
    split at hRecord
    · rename_i hy
      cases hRecord
      refine ⟨before, hy ▸ hBefore, hDeps ▸ hDep, ?_⟩
      by_contra hEnded
      rw [hEnd (by simpa using hEnded)] at hLive
      cases hLive
    · exact ⟨record, hRecord, hDep, hLive⟩
  erase := by
    intro s id h
    refine h.mono ?_
    rintro d y ⟨record, hRecord, hDep, hLive⟩
    rw [Table.lookup_erase_ite] at hRecord
    split at hRecord
    · cases hRecord
    · exact ⟨record, hRecord, hDep, hLive⟩

omit [DecidableEq Id] in
theorem EntryOrder.idxOf_lt [DecidableEq Id] {entered : List Id} {nodes : List (ExecutionNode P Id)}
    (h : EntryOrder entered nodes) : ∀ node ∈ nodes, ∀ d ∈ node.dependencies,
      (entered ++ nodes.map (·.id)).idxOf d < (entered ++ nodes.map (·.id)).idxOf node.id := by
  induction h with
  | nil => simp
  | @cons entered node rest hFresh _ hEarlier _ ih =>
    intro other hOther d hd
    rcases List.mem_cons.mp hOther with rfl | hOther
    · have hEntered := hEarlier d hd
      rw [List.idxOf_append_of_mem hEntered, List.idxOf_append_of_notMem hFresh]
      exact Nat.lt_add_right _ (List.idxOf_lt_length_iff.mpr hEntered)
    · simpa using ih other hOther d hd

end Ranks

section Entering

variable {nodes : List (ExecutionNode P Id)}

def Enters (nodes : List (ExecutionNode P Id)) (s s' : Inner P O Id) : Prop :=
  ∀ y, s'.tasks.lookup y = s.tasks.lookup y ∨ Startable s y ∧ ∃ node ∈ nodes, node.id = y ∧
    ∃ record, s'.tasks.lookup y = some record ∧ record.dependencies = node.dependencies

theorem attaching_enters [ReadyQueueSort Id] : Attaching s nodes (Enters nodes s) where
  indexes := fun _ _ _ h => h
  edges := fun _ _ h => h
  queues := fun _ _ h => h
  place := by
    intro s' node record remaining waited hMem hStart hDeps _ h y
    rw [(placed_placeTask _ _ _ _ _).tasks]
    by_cases hy : y = node.id
    · rw [if_pos hy]
      exact .inr ⟨hy ▸ hStart, node, hMem, hy.symm, record, rfl, hDeps⟩
    · rw [if_neg hy]
      exact h y

open Classical in
theorem Ranked.enter (h : Ranked s) (hOrder : EntryOrder [] nodes) (hEnters : Enters nodes s s')
    (hWaits : ∀ d y, WaitsFor s d y → ¬Startable s d) : Ranked s' := by
  obtain ⟨rank, hRank⟩ := h
  have hIdx := hOrder.idxOf_lt
  rw [List.nil_append] at hIdx
  obtain ⟨bound, hBound⟩ := ((nodes.flatMap (·.dependencies)).map rank).toFinset.exists_le
  -- the tasks that are entered come behind all they depend on
  refine ⟨fun x => if s'.tasks.lookup x = s.tasks.lookup x then rank x
    else bound + 1 + (nodes.map (·.id)).idxOf x, ?_⟩
  rintro d y ⟨record, hRecord, hDep, hLive⟩
  dsimp only
  by_cases hy : s'.tasks.lookup y = s.tasks.lookup y
  · have hOld : WaitsFor s d y := ⟨record, hy ▸ hRecord, hDep, hLive⟩
    have hd := (hEnters d).resolve_right fun hStart => hWaits d y hOld hStart.1
    rw [if_pos hy, if_pos hd]
    exact hRank d y hOld
  · obtain ⟨_, node, hNode, rfl, record', hRecord', hDeps⟩ := (hEnters y).resolve_left hy
    cases hRecord.symm.trans hRecord'
    rw [hDeps] at hDep
    have hLe := hBound (rank d)
      (List.mem_toFinset.mpr (List.mem_map_of_mem (List.mem_flatMap.mpr ⟨node, hNode, hDep⟩)))
    have hLt := hIdx node hNode d hDep
    rw [if_neg hy]
    split <;> omega

end Entering

theorem TaskOk.pending_iff {popped : Id → Prop} {x : Id} {record : TaskRecord P O Id} (h : TaskOk s popped x record)
    (hLive : record.state.isTerminal = false) :
    (∃ k, record.state = .pending k) ↔ ∃ d ∈ record.dependencies, s.isDone d = false := by
  constructor
  · rintro ⟨k, hk⟩
    obtain ⟨hPositive, hWaits⟩ := h.pending k hk
    have hCount := hWaits.count
    have hPos : 0 < record.dependencies.countP fun d => !s.isDone d := by omega
    simpa using List.countP_pos_iff.mp hPos
  · rintro ⟨d, hd, hNotDone⟩
    refine (pending_or_isReleased hLive).resolve_right fun hReleased => ?_
    rw [h.released hReleased d hd] at hNotDone
    cases hNotDone

section Runs

variable [ReadyQueueSort Id] [BEq P]

structure RankedInv (s : System P O Id) : Prop extends SystemInv s where
  ranked : Ranked s.store

theorem ranked_of_run {storeLease : Nat} {events : List (Event P O Id)}
    (hRun : Run System.Allowed (System.step storeLease) {} events) :
    RankedInv (events.foldl (System.step storeLease) {}) := by
  refine hRun.foldl_invariant ⟨systemInv_init, fun _ => 0, ?_⟩ ?_
  · rintro d y ⟨_, ⟨⟩, _⟩
  · rintro s event _ hAllowed ⟨hInv, h⟩
    refine ⟨hInv.step storeLease event hAllowed, kept_ranked.step storeLease event ?_ h⟩
    intro owner nodes store outcome hAttach
    obtain ⟨ordered, hOrder, hRule⟩ := attachGraph_attaching hAttach
    refine h.enter hOrder (hRule _ attaching_enters fun _ => .inl rfl) ?_
    rintro d y ⟨record, hRecord, hDep, hLive⟩ hStart
    rcases (hInv.store.task y record hRecord not_false).dependency hLive hDep with hDone | hLive
    · obtain ⟨before, output, hBefore, hState⟩ := Inner.isDone_iff.mp hDone
      have hLost := hStart before hBefore
      rw [hState] at hLost
      cases hLost
    · obtain ⟨before, hBefore, hNotEnded⟩ := Inner.isLive_iff.mp hLive
      have hLost := hStart before hBefore
      cases hState : before.state <;> simp_all [TaskState.isLost, TaskState.isTerminal]

/-- Where the scheduler, a worker or the clock takes a task up. -/
def Movable (s : System P O Id) (x : Id) : Prop :=
  ∃ record, s.store.tasks.lookup x = some record ∧
    (record.state = .ready ∧ (x ∈ s.store.queue record.priority ∨ s.Popped x) ∨
      (∃ leaseToken attempt, record.state = .running leaseToken attempt ∧ record.leaseUntilMs.isSome = true) ∨
      ∃ error attempt time, record.state = .retrying error attempt time ∧ InBucket s.store.scheduled time x)

/-- No tasks wait for each other in a circle, and a task that has not ended can be moved on or waits for one that can. -/
theorem unfinished_tasks_wait_for_movable_ones (storeLease : Nat) (events : List (Event P O Id))
    (hRun : Run System.Allowed (System.step storeLease) {} events) :
    (∀ x, ¬Relation.TransGen (WaitsFor (events.foldl (System.step storeLease) {}).store) x x) ∧
    ∀ x, (events.foldl (System.step storeLease) {}).store.isLive x = true →
      ∃ y, Movable (events.foldl (System.step storeLease) {}) y ∧
        Relation.ReflTransGen (WaitsFor (events.foldl (System.step storeLease) {}).store) y x := by
  obtain ⟨hInv, rank, hRank⟩ := ranked_of_run hRun
  generalize events.foldl (System.step storeLease) {} = s at hRank hInv
  constructor
  · intro x hCircle
    have hLt : ∀ y, Relation.TransGen (WaitsFor s.store) x y → rank x < rank y := by
      intro y hPath
      induction hPath with
      | single h => exact hRank _ _ h
      | tail _ h ih => exact ih.trans (hRank _ _ h)
    exact lt_irrefl _ (hLt x hCircle)
  · intro x hLive
    -- down the dependencies that have not ended, which the ranks bound
    induction hr : rank x using Nat.strong_induction_on generalizing x with
    | _ r ih =>
      obtain ⟨record, hRecord, hNotEnded⟩ := Inner.isLive_iff.mp hLive
      have hTask := hInv.store.task x record hRecord not_false
      cases hState : record.state with
      | pending k =>
        obtain ⟨d, hd, hNotDone⟩ := (hTask.pending_iff hNotEnded).mp ⟨k, hState⟩
        have hEdge : WaitsFor s.store d x := ⟨record, hRecord, hd, hNotEnded⟩
        have hWaited := (hTask.pending k hState).2.live d hd hNotDone
        obtain ⟨y, hy, hPath⟩ := ih (rank d) (hr ▸ hRank d x hEdge) d hWaited rfl
        exact ⟨y, hy, hPath.tail hEdge⟩
      | ready => exact ⟨x, ⟨record, hRecord, .inl ⟨hState, hTask.ready hState⟩⟩, .refl⟩
      | running leaseToken attempt =>
        exact ⟨x, ⟨record, hRecord, .inr (.inl ⟨_, _, hState, hTask.running _ _ hState⟩)⟩, .refl⟩
      | retrying error attempt time =>
        exact ⟨x, ⟨record, hRecord, .inr (.inr ⟨_, _, _, hState, hTask.retrying _ _ _ hState⟩)⟩, .refl⟩
      | _ => rw [hState] at hNotEnded; cases hNotEnded

theorem handoverRun_waits_for_movable :
    ∃ y, Movable ((handoverRun.take 4).foldl (System.step 60) {}) y ∧
      Relation.ReflTransGen (WaitsFor ((handoverRun.take 4).foldl (System.step 60) {}).store) y 2 := by
  have hRun : Run System.Allowed (System.step 60) {} (handoverRun.take 4) := by decide +kernel
  exact (unfinished_tasks_wait_for_movable_ones 60 (handoverRun.take 4) hRun).2 2 (by decide +kernel)

structure Accounted (s : Inner P O Id) : Prop where
  pending : ∀ x record, s.tasks.lookup x = some record → record.state.isTerminal = false →
    ((∃ k, record.state = .pending k) ↔ ∃ d ∈ record.dependencies, s.isDone d = false)
  wanted : ∀ x record, s.tasks.lookup x = some record → record.state.isTerminal = false →
    ∃ owner graph, s.ownerGraphs.lookup owner = some graph ∧ graph.attached = true ∧ x ∈ graph.taskIds
  present : ∀ owner graph, s.ownerGraphs.lookup owner = some graph → graph.attached = true → ∀ x ∈ graph.taskIds,
    ∃ record, s.tasks.lookup x = some record ∧ record.payload.isSome = true ∧ ∀ d ∈ record.dependencies, d ∈ graph.taskIds

/-- Unfinished tasks wait just for what has not succeeded, and belong to attached roots, which have all of their tasks. -/
theorem attached_roots_hold_their_tasks (storeLease : Nat) (events : List (Event P O Id))
    (hRun : Run System.Allowed (System.step storeLease) {} events) :
    Accounted (events.foldl (System.step storeLease) {}).store := by
  have hInv := (systemInv_of_run hRun).store
  constructor
  · intro x record hRecord
    exact (hInv.task x record hRecord not_false).pending_iff
  · intro x record hRecord hLive
    obtain ⟨owner, hOwner⟩ := (hInv.task x record hRecord not_false).owned hLive
    exact ⟨owner, (hInv.graphs owner x).mp hOwner⟩
  · intro owner graph hGraph hAttached x hx
    obtain ⟨record, hRecord, hClosed⟩ := hInv.closed owner x ((hInv.graphs owner x).mpr ⟨graph, hGraph, hAttached, hx⟩)
    refine ⟨record, hRecord, hInv.payload x record hRecord, fun d hd => ?_⟩
    obtain ⟨graph', hGraph', _, hMem⟩ := (hInv.graphs owner d).mp (hClosed d hd)
    cases hGraph.symm.trans hGraph'
    exact hMem

theorem handoverRun_accounted : Accounted (handoverRun.foldl (System.step 60) {}).store :=
  attached_roots_hold_their_tasks 60 handoverRun (by decide +kernel)

end Runs

section Delays

theorem shiftFactor_mono {i j : UInt32} (h : i ≤ j) : shiftFactor i ≤ shiftFactor j := by
  have hLe := UInt32.le_iff_toNat_le.mp h
  have hPow : ∀ {m n : Nat}, m ≤ n → 2 ^ m ≤ 2 ^ n := fun h => Nat.pow_le_pow_right (by decide) h
  rw [shiftFactor, shiftFactor]
  split <;> split
  · exact hPow hLe
  · rename_i hi _
    have := hPow (show i.toNat ≤ 63 by omega)
    omega
  · omega
  · exact le_rfl

theorem millis_le (duration : Nat) : (durationMillis duration).toNat * 1000000 ≤ duration := by
  rw [durationMillis, UInt64.toNat_ofNat']
  have := Nat.mod_le (min (duration / 1000000) (2 ^ 64 - 1)) (2 ^ 64)
  omega

/-- Retries stop once and for all, their delays do not shrink, and the growing ones keep to their limit. -/
theorem retry_delays_grow_to_their_limit (policy : RetryPolicy) (attempt next : UInt32) (hLe : attempt ≤ next)
    (delay : Nat) (hDelay : policy.retryDelay next = some delay) :
    (∃ earlier, policy.retryDelay attempt = some earlier ∧ earlier ≤ delay) ∧
      ∀ maxAttempts baseDelay maxDelay, policy = .exponential maxAttempts baseDelay maxDelay → delay ≤ maxDelay := by
  have hGe : ∀ {maxAttempts : UInt32}, ¬next ≥ maxAttempts → ¬attempt ≥ maxAttempts :=
    fun hNext hAttempt => hNext (UInt32.le_trans hAttempt hLe)
  cases policy with
  | none => cases hDelay
  | fixed maxAttempts fixedDelay =>
    rw [RetryPolicy.retryDelay, Option.ite_none_left_eq_some] at hDelay
    cases hDelay.2
    exact ⟨⟨_, if_neg (hGe hDelay.1), le_rfl⟩, by simp⟩
  | exponential maxAttempts baseDelay maxDelay =>
    rw [RetryPolicy.retryDelay, Option.ite_none_left_eq_some] at hDelay
    obtain ⟨hNext, hEq⟩ := hDelay
    obtain rfl := Option.some.inj hEq
    refine ⟨⟨_, if_neg (hGe hNext), ?_⟩, ?_⟩
    · have hExponent : (if attempt = 0 then 0 else attempt - 1) ≤ if next = 0 then 0 else next - 1 := by
        grind
      gcongr
      exact shiftFactor_mono hExponent
    · rintro _ _ _ ⟨⟩
      exact (Nat.mul_le_mul_right _ (min_le_right _ _)).trans (millis_le maxDelay)

theorem durability_delays_grow :
    (∃ earlier, (RetryPolicy.exponential 9 1000000000 300000000000).retryDelay 3 = some earlier ∧
      earlier ≤ 8000000000) ∧ ∀ maxAttempts baseDelay maxDelay,
      RetryPolicy.exponential 9 1000000000 300000000000 = .exponential maxAttempts baseDelay maxDelay →
        8000000000 ≤ maxDelay :=
  retry_delays_grow_to_their_limit _ 3 4 (by decide) 8000000000 (by decide)

end Delays

end Raiko2.Queue
