import Mathlib.Data.List.Chain
import Mathlib.Data.List.DropRight
import Mathlib.Logic.Relation

/-!
# Neighbours in a list

A check over all windows of length two, and what such a check says about the whole list: a list whose neighbours are
related leads from each of its members to the last one, and where the relation counts one up, the position of a member
is its number.
-/

namespace Raiko2.Lib

open List

variable {α β : Type}

/-- The pairs of neighbours of a list, in order. -/
def windows2 (xs : List α) : List (α × α) := xs.zip xs.tail

variable {xs : List α}

theorem all_windows2_iff {p : α → α → Bool} :
    (windows2 xs).all (fun w => p w.1 w.2) = true ↔ xs.IsChain (fun a b => p a b = true) := by
  unfold windows2
  induction xs with
  | nil => simp
  | cons a xs ih =>
    cases xs with
    | nil => simp
    | cons b xs => simpa using fun _ => ih

theorem isChain_iff_getElem? {R : α → α → Prop} :
    xs.IsChain R ↔ ∀ i a b, xs[i]? = some a → xs[i + 1]? = some b → R a b := by
  rw [isChain_iff_getElem]
  constructor
  · intro h i a b ha hb
    obtain ⟨hi, rfl⟩ := List.getElem?_eq_some_iff.mp ha
    obtain ⟨hj, rfl⟩ := List.getElem?_eq_some_iff.mp hb
    exact h i hj
  · intro h i hi
    exact h i _ _ (getElem?_eq_getElem (by omega)) (getElem?_eq_getElem hi)

theorem IsChain.eq_of_mem {f : α → β} (h : xs.IsChain (fun a b => f a = f b)) {a b : α} (ha : a ∈ xs) (hb : b ∈ xs) :
    f a = f b := by
  have hTrans : IsTrans α (fun a b => f a = f b) := ⟨fun _ _ _ hab hbc => hab.trans hbc⟩
  have hSymm : Std.Symm (fun a b => f a = f b) := ⟨fun _ _ hab => hab.symm⟩
  have hPairwise := isChain_iff_pairwise.mp h
  have hRefl : ∀ x ∈ xs, f x = f x := fun _ _ => rfl
  exact List.Pairwise.forall_of_forall (R := fun a b => f a = f b) hRefl hPairwise ha hb

theorem IsChain.reflTransGen_getLast {R : α → α → Prop} (h : xs.IsChain R) {a last : α} (ha : a ∈ xs)
    (hLast : xs.getLast? = some last) : Relation.ReflTransGen R a last := by
  induction xs generalizing a with
  | nil => cases ha
  | cons x xs ih =>
    cases xs with
    | nil =>
      obtain rfl := mem_singleton.mp ha
      obtain rfl : a = last := by simpa using hLast
      exact .refl
    | cons y ys =>
      obtain ⟨hStep, hRest⟩ := isChain_cons_cons.mp h
      rw [getLast?_cons_cons] at hLast
      rcases mem_cons.mp ha with rfl | ha
      · exact .head hStep (ih hRest mem_cons_self hLast)
      · exact ih hRest ha hLast

section Graded

variable {R : α → α → Prop} {grade : α → Nat}

theorem IsChain.grade_getElem? (hGrade : ∀ a b, R a b → grade b = grade a + 1) {xs : List α} (h : xs.IsChain R)
    {first a : α} {i : Nat} (hFirst : xs.head? = some first) (ha : xs[i]? = some a) : grade a = grade first + i := by
  induction xs generalizing first i with
  | nil => cases hFirst
  | cons x xs ih =>
    obtain rfl : x = first := by simpa using hFirst
    cases i with
    | zero =>
      obtain rfl : x = a := by simpa using ha
      rfl
    | succ i =>
      rw [getElem?_cons_succ] at ha
      cases xs with
      | nil => cases ha
      | cons y ys =>
        obtain ⟨hStep, hRest⟩ := isChain_cons_cons.mp h
        rw [ih hRest rfl ha, hGrade x y hStep]
        omega

theorem grade_le_of_reflTransGen (hGrade : ∀ a b, R a b → grade b = grade a + 1) {a last : α}
    (h : Relation.ReflTransGen R a last) : grade a ≤ grade last := by
  induction h using Relation.ReflTransGen.head_induction_on with
  | refl => exact le_rfl
  | head hStep _ ih =>
    have := hGrade _ _ hStep
    omega

theorem eq_of_grade_eq (hGrade : ∀ a b, R a b → grade b = grade a + 1) {last : α}
    (hUnique : ∀ a b c, R a c → R b c → Relation.ReflTransGen R c last → a = b) {a b : α}
    (ha : Relation.ReflTransGen R a last) (hb : Relation.ReflTransGen R b last) (h : grade a = grade b) : a = b := by
  induction ha using Relation.ReflTransGen.head_induction_on generalizing b with
  | refl =>
    rcases hb.cases_head with rfl | ⟨c, hStep, hRest⟩
    · rfl
    · have := hGrade b c hStep
      have := grade_le_of_reflTransGen hGrade hRest
      omega
  | @head a c hStep hRest ih =>
    have ha := hGrade a c hStep
    rcases hb.cases_head with rfl | ⟨d, hStep', hRest'⟩
    · have := grade_le_of_reflTransGen hGrade hRest
      omega
    · have hd := hGrade b d hStep'
      obtain rfl := ih hRest' (by omega)
      exact hUnique a b c hStep hStep' hRest

end Graded

theorem rtake_rtake_append_singleton (xs : List α) (n : Nat) (x : α) :
    (xs.rtake (n + 1)).rtake n ++ [x] = (xs ++ [x]).rtake (n + 1) := by
  rw [rtake_concat_succ]
  congr 1
  simp only [rtake_eq_reverse_take_reverse, reverse_reverse, take_take]
  rw [min_eq_left (Nat.le_succ n)]

theorem length_rtake_le (xs : List α) (n : Nat) : (xs.rtake n).length ≤ n := by
  rw [rtake, length_drop]
  omega

end Raiko2.Lib
