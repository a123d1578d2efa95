import Mathlib.Data.List.Chain

/-!
# Runs

A list of inputs run from a state: every input is allowed in the state it meets and moves the state on.
Properties of whole runs follow from what one step preserves.
-/

namespace Raiko2.Lib

variable {σ α β : Type}

def Run (allowed : σ → α → Prop) (step : σ → α → σ) : σ → List α → Prop
  | _, [] => True
  | s, a :: rest => allowed s a ∧ Run allowed step (step s a) rest

variable {allowed : σ → α → Prop} {step : σ → α → σ} {s : σ}

instance Run.decidable [∀ s a, Decidable (allowed s a)] : ∀ s xs, Decidable (Run allowed step s xs)
  | _, [] => isTrue trivial
  | s, a :: rest =>
    have := Run.decidable (step s a) rest
    inferInstanceAs (Decidable (allowed s a ∧ Run allowed step (step s a) rest))

theorem Run.append {xs ys : List α} :
    Run allowed step s (xs ++ ys) ↔ Run allowed step s xs ∧ Run allowed step (xs.foldl step s) ys := by
  induction xs generalizing s with
  | nil => simp [Run]
  | cons x xs ih => simp [Run, ih, and_assoc]

/-- A run of inputs that are allowed in every state satisfying an invariant that each of them keeps. -/
theorem Run.of_invariant (Inv : σ → List α → Prop) {xs : List α} (hInit : Inv s xs)
    (hStep : ∀ s a rest, Inv s (a :: rest) → allowed s a ∧ Inv (step s a) rest) : Run allowed step s xs := by
  induction xs generalizing s with
  | nil => trivial
  | cons x xs ih =>
    obtain ⟨hAllowed, hNext⟩ := hStep s x xs hInit
    exact ⟨hAllowed, ih hNext⟩

theorem Run.foldl_invariant {Inv : σ → Prop} {xs : List α} (hRun : Run allowed step s xs) (hInit : Inv s)
    (hStep : ∀ s, ∀ a ∈ xs, allowed s a → Inv s → Inv (step s a)) : Inv (xs.foldl step s) := by
  induction xs generalizing s with
  | nil => exact hInit
  | cons x xs ih =>
    obtain ⟨hAllowed, hRest⟩ := hRun
    exact ih hRest (hStep s x (by simp) hAllowed hInit) fun s a ha => hStep s a (by simp [ha])

theorem Run.isChain_append {R : β → β → Prop} (view : σ → β) {label : α → β} {xs ys : List α}
    (hRun : Run (fun s a => view (step s a) = label a) step s xs)
    (hFirst : (view s :: xs.map label).IsChain R) (hSecond : (view (xs.foldl step s) :: ys.map label).IsChain R) :
    (view s :: (xs ++ ys).map label).IsChain R := by
  induction xs generalizing s with
  | nil => exact hSecond
  | cons x xs ih =>
    obtain ⟨hView, hRun⟩ := hRun
    rw [List.map_cons, List.isChain_cons_cons, ← hView] at hFirst
    rw [List.cons_append, List.map_cons, List.isChain_cons_cons, ← hView]
    exact ⟨hFirst.1, ih hRun hFirst.2 hSecond⟩

section Log

variable {J : List α → α → Prop} {log : List α}

def JustifiedLog (J : List α → α → Prop) (log : List α) : Prop :=
  ∀ (i : Nat) (a : α), log[i]? = some a → J (log.take i) a

theorem JustifiedLog.nil : JustifiedLog J [] := by
  intro i a h
  cases h

theorem JustifiedLog.concat (h : JustifiedLog J log) {a : α} (ha : J log a) : JustifiedLog J (log ++ [a]) := by
  intro i b hb
  rcases lt_or_ge i log.length with hi | hi
  · rw [List.getElem?_append_left hi] at hb
    rw [List.take_append_of_le_length hi.le]
    exact h i b hb
  · obtain rfl : i = log.length := by
      have hLt := (List.getElem?_eq_some_iff.mp hb).1
      rw [List.length_append, List.length_singleton] at hLt
      omega
    obtain rfl : a = b := by simpa using hb
    rw [List.take_left']
    · exact ha
    · rfl

end Log

end Raiko2.Lib
