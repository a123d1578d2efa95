import Mathlib.Data.Finset.Card
import Mathlib.Data.List.Forall2
import Raiko2.Lib.Canonical

/-!
# Pools

A pool is a list whose elements are named by their positions. It grows at the end by elements of unknown key,
so that positions keep their meaning. Lists of elements are compared by membership.
-/

namespace Raiko2.Lib

open List

variable {α κ : Type}

section Grow

variable [DecidableEq κ] (key : α → κ)

def extendPool (pool xs : List α) : List α :=
  xs.foldl (fun pool x => if key x ∈ pool.map key then pool else pool ++ [x]) pool

def keys (xs : List α) : Finset κ := (xs.map key).toFinset

variable {key} {pool xs ys : List α} {a : α}

@[simp] theorem mem_keys {k : κ} : k ∈ keys key xs ↔ ∃ a ∈ xs, key a = k := by
  simp [keys]

end Grow

section Canonical

variable {key : α → Nat} {xs : List α}

end Canonical

section Same

def Same (xs ys : List α) : Prop := ∀ a, a ∈ xs ↔ a ∈ ys

variable {xs ys zs : List α}

theorem Same.refl (xs : List α) : Same xs xs := fun _ => Iff.rfl

theorem Same.symm (h : Same xs ys) : Same ys xs := fun a => (h a).symm

theorem Same.trans (h₁ : Same xs ys) (h₂ : Same ys zs) : Same xs zs := fun a => (h₁ a).trans (h₂ a)

theorem Same.map {β : Type} (h : Same xs ys) (f : α → β) : Same (xs.map f) (ys.map f) := by
  intro b
  simp only [mem_map, h _]

end Same

section Resolve

variable {pool : List α} {indices : List Nat} {xs : List α}

/-- The elements at the given positions. -/
def Resolves (pool : List α) (indices : List Nat) (xs : List α) : Prop :=
  List.Forall₂ (fun i a => pool[i]? = some a) indices xs

theorem Resolves.mem_iff (h : Resolves pool indices xs) {a : α} : a ∈ xs ↔ ∃ i ∈ indices, pool[i]? = some a := by
  induction h with
  | nil => simp
  | @cons i b indices xs hb _ ih =>
    rw [mem_cons, ih]
    constructor
    · rintro (rfl | ⟨j, hj, ha⟩)
      · exact ⟨i, by simp, hb⟩
      · exact ⟨j, by simp [hj], ha⟩
    · rintro ⟨j, hj, ha⟩
      rcases mem_cons.mp hj with rfl | hj
      · exact Or.inl (Option.some.inj (ha.symm.trans hb))
      · exact Or.inr ⟨j, hj, ha⟩

theorem Resolves.lt_length (h : Resolves pool indices xs) : ∀ i ∈ indices, i < pool.length := by
  induction h with
  | nil => simp
  | @cons i b indices xs hb _ ih =>
    intro j hj
    rcases mem_cons.mp hj with rfl | hj
    · exact (List.getElem?_eq_some_iff.mp hb).1
    · exact ih j hj

theorem exists_resolves (h : ∀ i ∈ indices, i < pool.length) : ∃ xs, Resolves pool indices xs := by
  induction indices with
  | nil => exact ⟨[], .nil⟩
  | cons i indices ih =>
    obtain ⟨xs, hxs⟩ := ih fun j hj => h j (by simp [hj])
    exact ⟨_, .cons (getElem?_eq_getElem (h i (by simp))) hxs⟩

theorem Resolves.of_same {others : List Nat} (hSame : Same others indices) (h : Resolves pool indices xs) :
    ∃ ys, Resolves pool others ys ∧ Same ys xs := by
  obtain ⟨ys, hys⟩ := exists_resolves fun i hi => h.lt_length i ((hSame i).mp hi)
  refine ⟨ys, hys, fun a => ?_⟩
  rw [hys.mem_iff, h.mem_iff]
  constructor
  · rintro ⟨i, hi, ha⟩
    exact ⟨i, (hSame i).mp hi, ha⟩
  · rintro ⟨i, hi, ha⟩
    exact ⟨i, (hSame i).mpr hi, ha⟩

end Resolve

end Raiko2.Lib
