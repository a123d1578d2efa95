import Mathlib.Data.List.Sort

/-!
# Sorting and deduplication by a key

A stable sort, the removal of neighbours with equal keys, and their composition, which keeps one element for
each key and leaves its own results alone.
-/

namespace Raiko2.Lib

variable {α : Type} (key : α → Nat)

def sortByKey (xs : List α) : List α := xs.insertionSort (fun a b => key a ≤ key b)

/-- Removes the elements that have the key of the element kept before them. -/
def dedupAfter (previous : Nat) : List α → List α
  | [] => []
  | a :: rest => if key a = previous then dedupAfter previous rest else a :: dedupAfter (key a) rest

def dedupByKey : List α → List α
  | [] => []
  | a :: rest => a :: dedupAfter key (key a) rest

def canonicalByKey (xs : List α) : List α := dedupByKey key (sortByKey key xs)

instance keyLeTotal : Std.Total (fun a b : α => key a ≤ key b) := ⟨fun a b => Nat.le_total (key a) (key b)⟩

instance keyLeTrans : IsTrans α (fun a b => key a ≤ key b) := ⟨fun _ _ _ => Nat.le_trans⟩

variable {key} {xs : List α} {a : α}

@[simp] theorem mem_sortByKey : a ∈ sortByKey key xs ↔ a ∈ xs := List.mem_insertionSort _

@[simp] theorem length_sortByKey : (sortByKey key xs).length = xs.length := List.length_insertionSort _ _

theorem sortByKey_of_pairwise (h : xs.Pairwise fun a b => key a ≤ key b) : sortByKey key xs = xs :=
  List.Pairwise.insertionSort_eq h

end Raiko2.Lib
