import Mathlib.Logic.Relation
import Mathlib.Algebra.BigOperators.Group.List.Basic
import Mathlib.Algebra.Order.Ring.Nat

/-!
# Breadth-first passes

A loop that takes elements from a queue, visits each of them once and appends its successors. With fuel for one
turn for each queued element it visits exactly the elements that can be reached, each of them once.
-/

namespace Raiko2.Lib

open List

variable {α σ : Type} [DecidableEq α] (next : α → List α)

def worklist (visit : σ → α → σ) : Nat → List α → List α → σ → σ
  | 0, _, _, s => s
  | _ + 1, [], _, s => s
  | fuel + 1, a :: queue, visited, s =>
    if a ∈ visited then worklist visit fuel queue visited s
    else worklist visit fuel (queue ++ next a) (a :: visited) (visit s a)

def pendingEdges (keys visited : List α) : Nat := (keys.map fun k => if k ∈ visited then 0 else (next k).length).sum

variable {keys : List α} {a : α}

theorem pendingEdges_cons_of_notMem (visited : List α) (h : a ∉ keys) :
    pendingEdges next keys (a :: visited) = pendingEdges next keys visited := by
  have hMap : ∀ k ∈ keys, (if k ∈ a :: visited then 0 else (next k).length) =
      if k ∈ visited then 0 else (next k).length := by
    intro k hk
    have hNe : k ≠ a := fun hEq => h (hEq ▸ hk)
    simp [hNe]
  rw [pendingEdges, pendingEdges, map_congr_left hMap]

theorem pendingEdges_cons_of_mem {visited : List α} (hNodup : keys.Nodup) (hMem : a ∈ keys) (hFresh : a ∉ visited) :
    pendingEdges next keys visited = (next a).length + pendingEdges next keys (a :: visited) := by
  induction keys with
  | nil => cases hMem
  | cons k keys ih =>
    obtain ⟨hk, hKeys⟩ := nodup_cons.mp hNodup
    simp only [pendingEdges, map_cons, sum_cons] at ih ⊢
    rcases mem_cons.mp hMem with rfl | hMem
    · have hRest := pendingEdges_cons_of_notMem next visited hk
      simp only [pendingEdges] at hRest
      rw [hRest]
      simp [hFresh]
    · have hNe : k ≠ a := fun hEq => hk (hEq ▸ hMem)
      rw [ih hKeys hMem]
      simp only [mem_cons, hNe, false_or]
      omega

variable {next}

/-- The pass visits, in some order and each of them once, a set of elements that holds the queue, is closed under
successors up to what was visited before, and can be reached from the queue. -/
theorem worklist_eq_foldl (visit : σ → α → σ) (hNodup : keys.Nodup) (hKeys : ∀ a, next a ≠ [] → a ∈ keys)
    {fuel : Nat} {queue visited : List α} (s : σ) (hFuel : queue.length + pendingEdges next keys visited ≤ fuel) :
    ∃ order : List α, worklist next visit fuel queue visited s = order.foldl visit s ∧ order.Nodup ∧
      (∀ a ∈ order, a ∉ visited ∧ ∃ q ∈ queue, Relation.ReflTransGen (fun a b => b ∈ next a) q a) ∧
      (∀ q ∈ queue, q ∈ visited ∨ q ∈ order) ∧ ∀ a ∈ order, ∀ b ∈ next a, b ∈ visited ∨ b ∈ order := by
  induction fuel generalizing queue visited s with
  | zero =>
    obtain rfl : queue = [] := length_eq_zero_iff.mp (by omega)
    exact ⟨[], rfl, by simp⟩
  | succ fuel ih =>
    cases queue with
    | nil => exact ⟨[], rfl, by simp⟩
    | cons a queue =>
      rw [worklist]
      rw [length_cons] at hFuel
      by_cases hVisited : a ∈ visited
      · have hBound : queue.length + pendingEdges next keys visited ≤ fuel := by omega
        obtain ⟨order, hEq, hOrder, hSound, hQueue, hClosed⟩ := ih s hBound
        refine ⟨order, by rw [if_pos hVisited, hEq], hOrder, ?_, ?_, hClosed⟩
        · intro b hb
          obtain ⟨hFresh, q, hq, hReach⟩ := hSound b hb
          exact ⟨hFresh, q, mem_cons_of_mem _ hq, hReach⟩
        · intro q hq
          rcases mem_cons.mp hq with rfl | hq
          · exact Or.inl hVisited
          · exact hQueue q hq
      · have hBound : (queue ++ next a).length + pendingEdges next keys (a :: visited) ≤ fuel := by
          rw [length_append]
          by_cases hKey : a ∈ keys
          · have := pendingEdges_cons_of_mem next hNodup hKey hVisited
            omega
          · have hNil : next a = [] := by
              by_contra hNe
              exact hKey (hKeys a hNe)
            rw [pendingEdges_cons_of_notMem next visited hKey, hNil, length_nil]
            omega
        obtain ⟨order, hEq, hOrder, hSound, hQueue, hClosed⟩ := ih (visit s a) hBound
        refine ⟨a :: order, by rw [if_neg hVisited, hEq, foldl_cons], ?_, ?_, ?_, ?_⟩
        · exact nodup_cons.mpr ⟨fun h => (hSound a h).1 mem_cons_self, hOrder⟩
        · intro b hb
          rcases mem_cons.mp hb with rfl | hb
          · exact ⟨hVisited, b, mem_cons_self, .refl⟩
          · obtain ⟨hFresh, q, hq, hReach⟩ := hSound b hb
            refine ⟨fun h => hFresh (mem_cons_of_mem _ h), ?_⟩
            rcases mem_append.mp hq with hq | hq
            · exact ⟨q, mem_cons_of_mem _ hq, hReach⟩
            · exact ⟨a, mem_cons_self, .head hq hReach⟩
        · intro q hq
          rcases mem_cons.mp hq with rfl | hq
          · exact Or.inr mem_cons_self
          · rcases hQueue q (mem_append_left _ hq) with h | h
            · rcases mem_cons.mp h with rfl | h
              · exact Or.inr mem_cons_self
              · exact Or.inl h
            · exact Or.inr (mem_cons_of_mem _ h)
        · intro b hb c hc
          have hOut : c ∈ a :: visited ∨ c ∈ order := by
            rcases mem_cons.mp hb with rfl | hb
            · exact hQueue c (mem_append_right _ hc)
            · exact hClosed b hb c hc
          rcases hOut with h | h
          · rcases mem_cons.mp h with rfl | h
            · exact Or.inr mem_cons_self
            · exact Or.inl h
          · exact Or.inr (mem_cons_of_mem _ h)

/-- From the start, the pass visits exactly what can be reached from the queue. -/
theorem worklist_spec (visit : σ → α → σ) (hNodup : keys.Nodup) (hKeys : ∀ a, next a ≠ [] → a ∈ keys) {fuel : Nat}
    {queue : List α} (s : σ) (hFuel : queue.length + (keys.map fun k => (next k).length).sum ≤ fuel) :
    ∃ order : List α, worklist next visit fuel queue [] s = order.foldl visit s ∧ order.Nodup ∧
      ∀ a, a ∈ order ↔ ∃ q ∈ queue, Relation.ReflTransGen (fun a b => b ∈ next a) q a := by
  have hStart : queue.length + pendingEdges next keys [] ≤ fuel := by simpa [pendingEdges] using hFuel
  obtain ⟨order, hEq, hOrder, hSound, hQueue, hClosed⟩ := worklist_eq_foldl visit hNodup hKeys s hStart
  refine ⟨order, hEq, hOrder, fun a => ⟨fun h => (hSound a h).2, ?_⟩⟩
  rintro ⟨q, hq, hReach⟩
  induction hReach with
  | refl => simpa using hQueue q hq
  | tail _ hStep ih => simpa using hClosed _ ih _ hStep

end Raiko2.Lib
