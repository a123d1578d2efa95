import Mathlib.Data.List.Nodup

/-!
# Notifications

A notifier with waiters in the order in which they came. A broadcast wakes those who wait and is not kept. A single
notification wakes the first of them, or is kept as one permit when nobody waits. A waiter that was made before a
broadcast does not wait any more when it is polled after it.
-/

namespace Raiko2.Lib

structure Notify (W : Type) where
  permit : Bool := false
  waiting : List W := []
  broadcasts : Nat := 0

namespace Notify

variable {W : Type} {n : Notify W} {w : W}

def notifyWaiters (n : Notify W) : Notify W := { n with waiting := [], broadcasts := n.broadcasts + 1 }

def notifyOne (n : Notify W) : Notify W :=
  match n.waiting with
  | [] => { n with permit := true }
  | _ :: rest => { n with waiting := rest }

/-- The first poll of a waiter that was made after the given number of broadcasts: whether it is done at once. -/
def poll (n : Notify W) (w : W) (seen : Nat) : Bool × Notify W :=
  if n.permit then (true, { n with permit := false })
  else if n.broadcasts ≠ seen then (true, n)
  else (false, { n with waiting := n.waiting ++ [w] })

def forget [DecidableEq W] (n : Notify W) (w : W) : Notify W := { n with waiting := n.waiting.filter (· ≠ w) }

theorem mem_waiting_of_notifyOne (h : w ∈ n.notifyOne.waiting) : w ∈ n.waiting := by
  unfold notifyOne at h
  split at h
  · exact h
  · rename_i hWaiting
    rw [hWaiting]
    exact List.mem_cons_of_mem _ h

theorem nodup_notifyOne (h : n.waiting.Nodup) : n.notifyOne.waiting.Nodup := by
  unfold notifyOne
  split
  · exact h
  · rename_i hWaiting
    rw [hWaiting] at h
    exact h.of_cons

theorem notifyOne_wakes (h : n.waiting.Nodup) :
    n.notifyOne.permit = true ∨ ∃ w ∈ n.waiting, w ∉ n.notifyOne.waiting := by
  unfold notifyOne
  split
  · exact .inl rfl
  · rename_i w rest hWaiting
    rw [hWaiting] at h ⊢
    exact .inr ⟨w, List.mem_cons_self, (List.nodup_cons.mp h).1⟩

theorem permit_notifyOne (h : n.permit = true) : n.notifyOne.permit = true := by
  unfold notifyOne
  split
  · rfl
  · exact h

@[simp] theorem broadcasts_notifyOne : n.notifyOne.broadcasts = n.broadcasts := by
  unfold notifyOne
  split <;> rfl

theorem poll_cases (n : Notify W) (w : W) (seen : Nat) :
    (n.permit = true ∧ n.poll w seen = (true, { n with permit := false })) ∨
    (n.permit = false ∧ n.broadcasts ≠ seen ∧ n.poll w seen = (true, n)) ∨
    (n.permit = false ∧ n.broadcasts = seen ∧ n.poll w seen = (false, { n with waiting := n.waiting ++ [w] })) := by
  unfold poll
  cases hPermit : n.permit with
  | true => exact .inl ⟨rfl, rfl⟩
  | false =>
    by_cases hSeen : n.broadcasts = seen
    · exact .inr (.inr ⟨rfl, hSeen, by simp [hSeen]⟩)
    · exact .inr (.inl ⟨rfl, hSeen, by simp [hSeen]⟩)

end Notify

end Raiko2.Lib
