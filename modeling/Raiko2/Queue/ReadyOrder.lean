import Mathlib.Data.List.TakeWhile
import Raiko2.Queue.Changes
import Raiko2.Queue.Safety

/-!
# Ready queues are sorted

`insert_ready_sorted` finds the place of an id by `partition_point`, which asks for a queue that the comparison with the
id cuts in two. Every queue of every reachable store is sorted, so that there is one such place for every id.
-/

namespace Raiko2.Queue

open Lib ReadyQueueSort

variable {P O Id : Type} [ReadyQueueSort Id] {id : Id} {deque : List Id}

def notGreater (id existing : Id) : Bool := (cmpForReadyQueue existing id).isLE

def Sorted (deque : List Id) : Prop := deque.Pairwise fun a b => (cmpForReadyQueue a b).isLE = true

/-- What `partition_point` returns, for the predicate of `insert_ready_sorted`. -/
structure IsPartitionPoint (deque : List Id) (id : Id) (pos : Nat) : Prop where
  bound : pos ≤ deque.length
  before : ∀ existing ∈ deque.take pos, notGreater id existing = true
  after : ∀ existing ∈ deque.drop pos, notGreater id existing = false

structure Searchable (deque : List Id) : Prop where
  sorted : Sorted deque
  place : ∀ id, ∃ pos, IsPartitionPoint deque id pos
  insert : ∀ id pos, IsPartitionPoint deque id pos →
    deque.take pos ++ id :: deque.drop pos = insertReadySorted deque id

section Keys

variable (hKeys : ∀ a b : Id, cmpForReadyQueue a b =
  List.compareLex compare (readyQueueSortPrefix a) (readyQueueSortPrefix b))

include hKeys

theorem isLE_trans {a b c : Id} (hab : (cmpForReadyQueue a b).isLE = true) (hbc : (cmpForReadyQueue b c).isLE = true) :
    (cmpForReadyQueue a c).isLE = true := by
  rw [hKeys] at hab hbc ⊢
  exact Std.TransCmp.isLE_trans hab hbc

theorem isLE_of_not_isLE {a b : Id} (h : (cmpForReadyQueue a b).isLE = false) :
    (cmpForReadyQueue b a).isLE = true := by
  rw [hKeys] at h ⊢
  rw [show List.compareLex compare _ _ = _ from Std.OrientedCmp.eq_swap]
  revert h
  cases List.compareLex compare (readyQueueSortPrefix a) (readyQueueSortPrefix b) <;> decide

theorem Sorted.greater_of_mem_dropWhile (h : Sorted deque) {existing : Id}
    (hMem : existing ∈ deque.dropWhile (notGreater id)) : notGreater id existing = false := by
  induction deque with
  | nil => cases hMem
  | cons first deque ih =>
    obtain ⟨hFirst, hRest⟩ := List.pairwise_cons.mp h
    rw [List.dropWhile_cons] at hMem
    split at hMem
    · exact ih hRest hMem
    · rename_i hGreater
      rcases List.mem_cons.mp hMem with rfl | hMem
      · simpa using hGreater
      · by_contra hLe
        exact hGreater (isLE_trans hKeys (hFirst existing hMem) (Bool.eq_true_of_not_eq_false hLe))

theorem Sorted.insert (h : Sorted deque) (id : Id) : Sorted (insertReadySorted deque id) := by
  have hCut : (deque.takeWhile (notGreater id) ++ deque.dropWhile (notGreater id)).Pairwise
      fun a b => (cmpForReadyQueue a b).isLE = true := by
    rw [List.takeWhile_append_dropWhile]
    exact h
  obtain ⟨hTake, hDrop, hAcross⟩ := List.pairwise_append.mp hCut
  refine List.pairwise_append.mpr ⟨hTake, List.pairwise_cons.mpr ⟨fun existing hMem => ?_, hDrop⟩, ?_⟩
  · exact isLE_of_not_isLE hKeys (h.greater_of_mem_dropWhile hKeys hMem)
  · intro a ha b hb
    rcases List.mem_cons.mp hb with rfl | hb
    · exact List.mem_takeWhile_imp (p := notGreater b) ha
    · exact hAcross a ha b hb

theorem Sorted.exists_isPartitionPoint (h : Sorted deque) (id : Id) : ∃ pos, IsPartitionPoint deque id pos := by
  refine ⟨deque.findIdx fun existing => !notGreater id existing, List.findIdx_le_length, fun existing hMem => ?_,
    fun existing hMem => ?_⟩
  · rw [← List.takeWhile_eq_take_findIdx_not] at hMem
    exact List.mem_takeWhile_imp hMem
  · rw [← List.dropWhile_eq_drop_findIdx_not] at hMem
    exact h.greater_of_mem_dropWhile hKeys hMem

end Keys

theorem IsPartitionPoint.insert {pos : Nat} (h : IsPartitionPoint deque id pos) :
    deque.take pos ++ id :: deque.drop pos = insertReadySorted deque id := by
  have hStop : ∀ rest : List Id, (∀ existing ∈ rest, notGreater id existing = false) →
      rest.takeWhile (notGreater id) = [] ∧ rest.dropWhile (notGreater id) = rest := by
    rintro (_ | ⟨first, rest⟩) hAfter
    · exact ⟨rfl, rfl⟩
    · have hFirst := hAfter first List.mem_cons_self
      exact ⟨List.takeWhile_cons_of_neg (by simp [hFirst]), List.dropWhile_cons_of_neg (by simp [hFirst])⟩
  obtain ⟨hTake, hDrop⟩ := hStop _ h.after
  have hEq : insertReadySorted (deque.take pos ++ deque.drop pos) id = deque.take pos ++ id :: deque.drop pos := by
    change List.takeWhile (notGreater id) _ ++ id :: List.dropWhile (notGreater id) _ = _
    rw [List.takeWhile_append_of_pos h.before, List.dropWhile_append_of_pos h.before, hTake, hDrop, List.append_nil]
  rw [← hEq, List.take_append_drop]

section Stores

variable {s : Inner P O Id}

def SortedQueues (s : Inner P O Id) : Prop := Sorted s.readyHigh ∧ Sorted s.readyMed ∧ Sorted s.readyLow

theorem SortedQueues.queue (h : SortedQueues s) (p : Priority) : Sorted (s.queue p) := by
  cases p with
  | high => exact h.1
  | medium => exact h.2.1
  | low => exact h.2.2

theorem SortedQueues.setQueue {p : Priority} (h : SortedQueues s) (hDeque : Sorted deque) :
    SortedQueues (s.setQueue p deque) := by
  cases p with
  | high => exact ⟨hDeque, h.2⟩
  | medium => exact ⟨h.1, hDeque, h.2.2⟩
  | low => exact ⟨h.1, h.2.1, hDeque⟩

variable [DecidableEq Id]

variable (hKeys : ∀ a b : Id, cmpForReadyQueue a b =
  List.compareLex compare (readyQueueSortPrefix a) (readyQueueSortPrefix b))

include hKeys

theorem kept_sortedQueues : Kept (SortedQueues : Inner P O Id → Prop) where
  maps := fun _ _ _ _ _ _ _ h => h
  queue := fun _ p _ hSub h => h.setQueue ((h.queue p).sublist hSub)
  push := fun _ p id h => h.setQueue ((h.queue p).insert hKeys id)
  record := fun _ _ _ _ _ _ _ h => h
  erase := fun _ _ h => h

theorem attaching_sortedQueues {ordered : List (ExecutionNode P Id)} : Attaching s ordered SortedQueues where
  indexes := fun _ _ _ h => h
  edges := fun _ _ h => h
  queues := fun _ id h => (kept_sortedQueues hKeys).members id h
  place := by
    intro s node record remaining waited _ _ _ _ h
    rw [placeTask]
    split
    · exact (kept_sortedQueues hKeys).push _ _ _ h
    · exact h

/-- Every ready queue is sorted and has a place for every id, where the id is put. -/
theorem ready_queues_are_sorted [BEq P] (storeLease : Nat) (events : List (Event P O Id)) (p : Priority) :
    Searchable ((events.foldl (System.step storeLease) {}).store.queue p) := by
  have hKept := kept_sortedQueues (P := P) (O := O) hKeys
  have hQueues : SortedQueues (events.foldl (System.step storeLease) {}).store := by
    refine List.foldlRecOn (motive := fun s : System P O Id => SortedQueues s.store) events _ ⟨.nil, .nil, .nil⟩ ?_
    intro s h event _
    refine hKept.step storeLease event (fun _ _ _ _ hAttach => ?_) h
    obtain ⟨ordered, _, hRule⟩ := attachGraph_attaching hAttach
    exact hRule _ (attaching_sortedQueues hKeys) h
  exact ⟨hQueues.queue p, (hQueues.queue p).exists_isPartitionPoint hKeys, fun _ _ h => h.insert⟩

end Stores

theorem attached_queue_sorted :
    (([.attach ⟨"root", 1⟩ [plainNode 2 20 [], plainNode 1 10 []]] : List (Event UInt64 UInt64 UInt64)).foldl
        (System.step 60) {}).store.queue .high = [1, 2] ∧ Searchable [(1 : UInt64), 2] := by
  have hQueue : (([.attach ⟨"root", 1⟩ [plainNode 2 20 [], plainNode 1 10 []]] : List (Event UInt64 UInt64 UInt64)).foldl
      (System.step 60) {}).store.queue .high = [1, 2] := by decide +kernel
  have hSearchable := ready_queues_are_sorted (fun _ _ => rfl) 60
    ([.attach ⟨"root", 1⟩ [plainNode 2 20 [], plainNode 1 10 []]] : List (Event UInt64 UInt64 UInt64)) .high
  rw [hQueue] at hSearchable
  exact ⟨hQueue, hSearchable⟩

end Raiko2.Queue
