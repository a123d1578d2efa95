import Mathlib.Data.List.Perm.Subperm
import Mathlib.Logic.Relation
import Raiko2.Lib.Run

/-!
# Depth-first passes

Two depth-first passes over a graph given by successor lists: one that fails on a cycle, and one that only collects
the elements in the order in which they are finished. Where the first succeeds, the second collects the same list, in
which every element comes after its successors.
-/

namespace Raiko2.Lib

open List

section Folds

variable {σ τ β γ : Type} {step : σ → β → Option σ} {xs : List β}

theorem foldlM_simulates (R : σ → τ → Prop) (step' : τ → γ → Option τ) {Q : β → γ → Prop} {ys : List γ}
    (hItems : List.Forall₂ Q xs ys)
    (hStep : ∀ s t b c s', Q b c → R s t → step s b = some s' → ∃ t', step' t c = some t' ∧ R s' t')
    {s s' : σ} (t : τ) (hR : R s t) (h : xs.foldlM step s = some s') :
    ∃ t', ys.foldlM step' t = some t' ∧ R s' t' := by
  induction hItems generalizing s t with
  | nil =>
    cases h
    exact ⟨t, rfl, hR⟩
  | cons hItem _ ih =>
    rw [foldlM_cons] at h
    obtain ⟨first, hFirst, hRest⟩ := Option.bind_eq_some_iff.mp h
    obtain ⟨t', hFirst', hR'⟩ := hStep s t _ _ first hItem hR hFirst
    rw [foldlM_cons, hFirst']
    exact ih t' hR' hRest

theorem foldl_simulates (R : σ → τ → Prop) (step' : τ → β → τ)
    (hStep : ∀ s t b s', R s t → step s b = some s' → R s' (step' t b))
    {s s' : σ} (t : τ) (hR : R s t) (h : xs.foldlM step s = some s') : R s' (xs.foldl step' t) := by
  have hSame : List.Forall₂ Eq xs xs := forall₂_same.mpr fun _ _ => rfl
  obtain ⟨t', hFold, hR'⟩ := foldlM_simulates R (fun t b => some (step' t b)) hSame (by
    rintro s t b _ s' rfl hR hs
    exact ⟨_, rfl, hStep s t b s' hR hs⟩) t hR h
  rw [show xs.foldlM (fun t b => some (step' t b)) t = some (xs.foldl step' t) from foldlM_pure ..] at hFold
  cases hFold
  exact hR'

theorem exists_foldlM (hStep : ∀ b ∈ xs, ∀ s, ∃ s', step s b = some s') (s : σ) :
    ∃ s', xs.foldlM step s = some s' := by
  induction xs generalizing s with
  | nil => exact ⟨s, rfl⟩
  | cons b xs ih =>
    obtain ⟨first, hFirst⟩ := hStep b mem_cons_self s
    rw [foldlM_cons, hFirst]
    exact ih (fun b hb => hStep b (mem_cons_of_mem _ hb)) first

end Folds

variable {α : Type} (successors : α → Option (List α))

structure DependencyOrder (order : List α) : Prop where
  nodup : order.Nodup
  earlier : JustifiedLog (fun before a => ∃ next, successors a = some next ∧ ∀ b ∈ next, b ∈ before) order

variable {successors} {active done result : List α}

theorem DependencyOrder.nil : DependencyOrder successors [] := ⟨nodup_nil, .nil⟩

structure Finished (successors : α → Option (List α)) (active done result : List α) : Prop where
  grows : done <+: result
  untouched : ∀ b ∈ active, b ∈ result → b ∈ done
  ordered : DependencyOrder successors done → DependencyOrder successors result

theorem Finished.refl : Finished successors active done done := ⟨prefix_refl _, fun _ _ h => h, id⟩

theorem Finished.trans {middle : List α} (h : Finished successors active done middle)
    (h' : Finished successors active middle result) : Finished successors active done result :=
  ⟨h.grows.trans h'.grows, fun b hb hr => h.untouched b hb (h'.untouched b hb hr),
    fun hOrder => h'.ordered (h.ordered hOrder)⟩

theorem finished_foldlM (active : List α) {step : List α → α → Option (List α)} {next : List α}
    (hStep : ∀ done b result, b ∈ next → step done b = some result →
      Finished successors active done result ∧ b ∈ result)
    (h : next.foldlM step done = some result) :
    Finished successors active done result ∧ ∀ b ∈ next, b ∈ result := by
  induction next generalizing done with
  | nil =>
    cases h
    exact ⟨.refl, by simp⟩
  | cons b next ih =>
    rw [foldlM_cons] at h
    obtain ⟨middle, hFirst, hRest⟩ := Option.bind_eq_some_iff.mp h
    obtain ⟨hDone, hMem⟩ := hStep done b middle mem_cons_self hFirst
    obtain ⟨hLater, hNext⟩ := ih (fun done c result hc => hStep done c result (mem_cons_of_mem _ hc)) hRest
    refine ⟨hDone.trans hLater, ?_⟩
    intro c hc
    rcases mem_cons.mp hc with rfl | hc
    · exact hLater.grows.subset hMem
    · exact hNext c hc

variable (successors) [DecidableEq α]

/-- The pass that fails on a cycle and at an element without an entry; `active` are the elements on the way to
this one, `done` the finished ones, oldest first. -/
def depthFirst : Nat → List α → α → List α → Option (List α)
  | 0, _, _, _ => none
  | fuel + 1, active, a, done =>
    if a ∈ done then some done
    else if a ∈ active then none
    else do
      let next ← successors a
      let done ← next.foldlM (fun done b => depthFirst fuel (a :: active) b done) done
      some (done ++ [a])

def postOrder : Nat → α → List α × List α → List α × List α
  | 0, _, state => state
  | fuel + 1, a, (seen, order) =>
    if a ∈ seen then (seen, order)
    else
      let (seen, order) := ((successors a).getD []).foldl (fun state b => postOrder fuel b state) (a :: seen, order)
      (seen, order ++ [a])

variable {successors} {fuel : Nat} {a : α}

theorem finished_of_depthFirst (h : depthFirst successors fuel active a done = some result) :
    Finished successors active done result ∧ a ∈ result := by
  induction fuel generalizing active a done result with
  | zero => cases h
  | succ fuel ih =>
    rw [depthFirst] at h
    split at h
    · rename_i hDone
      cases h
      exact ⟨.refl, hDone⟩
    rename_i hFresh
    split at h
    · cases h
    rename_i hInactive
    obtain ⟨next, hNext, h⟩ := Option.bind_eq_some_iff.mp h
    obtain ⟨middle, hFold, h⟩ := Option.bind_eq_some_iff.mp h
    cases h
    obtain ⟨hMiddle, hBelow⟩ := finished_foldlM (a :: active) (fun done b result _ => ih) hFold
    have hNotYet : a ∉ middle := fun hMem => hFresh (hMiddle.untouched a mem_cons_self hMem)
    refine ⟨⟨hMiddle.grows.trans (prefix_append _ _), ?_, ?_⟩, by simp⟩
    · intro b hb hMem
      rcases mem_append.mp hMem with hMem | hMem
      · exact hMiddle.untouched b (mem_cons_of_mem _ hb) hMem
      · obtain rfl := mem_singleton.mp hMem
        exact absurd hb hInactive
    · intro hOrder
      have hOrdered := hMiddle.ordered hOrder
      refine ⟨?_, hOrdered.earlier.concat ⟨next, hNext, hBelow⟩⟩
      refine nodup_append.mpr ⟨hOrdered.nodup, by simp, ?_⟩
      intro b hb c hc hEq
      obtain rfl := mem_singleton.mp hc
      exact hNotYet (hEq ▸ hb)

theorem postOrder_of_depthFirst (h : depthFirst successors fuel active a done = some result) {seen : List α}
    (hSeen : ∀ b, b ∈ seen ↔ b ∈ active ∨ b ∈ done) :
    ∃ seen', postOrder successors fuel a (seen, done) = (seen', result) ∧ ∀ b, b ∈ seen' ↔ b ∈ active ∨ b ∈ result := by
  induction fuel generalizing active a done result seen with
  | zero => cases h
  | succ fuel ih =>
    rw [depthFirst] at h
    rw [postOrder]
    split at h
    · rename_i hDone
      cases h
      exact ⟨seen, if_pos ((hSeen a).mpr (Or.inr hDone)), hSeen⟩
    rename_i hFresh
    split at h
    · cases h
    rename_i hInactive
    have hUnseen : a ∉ seen := fun hMem => ((hSeen a).mp hMem).elim hInactive hFresh
    obtain ⟨next, hNext, h⟩ := Option.bind_eq_some_iff.mp h
    obtain ⟨middle, hFold, h⟩ := Option.bind_eq_some_iff.mp h
    cases h
    obtain ⟨hPost, hSeen'⟩ := foldl_simulates
      (fun done state => state.2 = done ∧ ∀ b, b ∈ state.1 ↔ b ∈ a :: active ∨ b ∈ done)
      (fun state b => postOrder successors fuel b state) (by
        rintro done ⟨seen, _⟩ b done' ⟨rfl, hSeen⟩ hVisit
        obtain ⟨seen', hPost, hSeen'⟩ := ih hVisit hSeen
        exact ⟨by rw [hPost], by rw [hPost]; exact hSeen'⟩)
      (a :: seen, done) ⟨rfl, fun b => by rw [mem_cons, mem_cons, hSeen b, or_assoc]⟩ hFold
    refine ⟨_, by rw [if_neg hUnseen, hNext, Option.getD_some, ← hPost], ?_⟩
    intro b
    rw [hSeen' b, mem_append, mem_cons, mem_singleton]
    tauto

variable (successors) in
def postOrderAll (fuel : Nat) (roots : List α) : List α :=
  (roots.foldl (fun state a => postOrder successors fuel a state) ([], [])).2

theorem postOrderAll_of_depthFirst {roots : List α}
    (h : roots.foldlM (fun done a => depthFirst successors fuel [] a done) [] = some result) :
    postOrderAll successors fuel roots = result ∧ DependencyOrder successors result ∧ ∀ a ∈ roots, a ∈ result := by
  have hFinished := finished_foldlM [] (fun done b result _ => finished_of_depthFirst) h
  refine ⟨?_, hFinished.1.ordered .nil, hFinished.2⟩
  have hFold := foldl_simulates (fun done state => state.2 = done ∧ ∀ b, b ∈ state.1 ↔ b ∈ ([] : List α) ∨ b ∈ done)
    (fun state a => postOrder successors fuel a state) (by
      rintro done ⟨seen, _⟩ a done' ⟨rfl, hSeen⟩ hVisit
      obtain ⟨seen', hPost, hSeen'⟩ := postOrder_of_depthFirst hVisit hSeen
      exact ⟨by rw [hPost], by rw [hPost]; exact hSeen'⟩)
    ([], []) ⟨rfl, by simp⟩ h
  exact hFold.1

theorem depthFirst_mono {fuel' : Nat} (hFuel : fuel ≤ fuel')
    (h : depthFirst successors fuel active a done = some result) :
    depthFirst successors fuel' active a done = some result := by
  induction fuel generalizing active a done result fuel' with
  | zero => cases h
  | succ fuel ih =>
    obtain ⟨more, rfl⟩ : ∃ more, fuel' = more + 1 := ⟨fuel' - 1, by omega⟩
    rw [depthFirst] at h ⊢
    split at h
    · rename_i hDone
      rw [if_pos hDone, h]
    rename_i hFresh
    split at h
    · cases h
    rename_i hInactive
    obtain ⟨next, hNext, h⟩ := Option.bind_eq_some_iff.mp h
    obtain ⟨middle, hFold, h⟩ := Option.bind_eq_some_iff.mp h
    obtain ⟨_, hFold', rfl⟩ := foldlM_simulates Eq
      (fun done b => depthFirst successors more (a :: active) b done) (forall₂_same.mpr fun _ _ => rfl) (by
        rintro done _ b _ done' rfl rfl hVisit
        exact ⟨done', ih (by omega) hVisit, rfl⟩) done rfl hFold
    rw [if_neg hFresh, if_neg hInactive, hNext]
    exact Option.bind_eq_some_iff.mpr ⟨next, rfl, Option.bind_eq_some_iff.mpr ⟨middle, hFold', h⟩⟩

section Cycles

variable (successors) in
def Follows (a b : α) : Prop := ∃ next, successors a = some next ∧ b ∈ next

theorem DependencyOrder.idxOf_lt {order : List α} (h : DependencyOrder successors order) {a b : α} (ha : a ∈ order)
    (hab : Follows successors a b) : b ∈ order ∧ order.idxOf b < order.idxOf a := by
  obtain ⟨next, hNext, hb⟩ := hab
  obtain ⟨next', hNext', hEarlier⟩ := h.earlier (order.idxOf a) a (by
    rw [getElem?_eq_getElem (idxOf_lt_length_iff.mpr ha), getElem_idxOf])
  rw [hNext] at hNext'
  cases hNext'
  have hBefore := hEarlier b hb
  refine ⟨mem_of_mem_take hBefore, ?_⟩
  have hSplit : (order.take (order.idxOf a) ++ order.drop (order.idxOf a)).idxOf b =
      (order.take (order.idxOf a)).idxOf b := idxOf_append_of_mem hBefore
  rw [take_append_drop] at hSplit
  have hShort := idxOf_lt_length_iff.mpr hBefore
  have hTake := length_take_le (order.idxOf a) order
  omega

theorem DependencyOrder.not_cycle {order : List α} (h : DependencyOrder successors order) {a : α} (ha : a ∈ order) :
    ¬Relation.TransGen (Follows successors) a a := by
  have hRank : ∀ b, Relation.TransGen (Follows successors) a b → b ∈ order ∧ order.idxOf b < order.idxOf a := by
    intro b hb
    induction hb with
    | single hab => exact h.idxOf_lt ha hab
    | tail _ hbc ih =>
      obtain ⟨hc, hLt⟩ := h.idxOf_lt ih.1 hbc
      exact ⟨hc, hLt.trans ih.2⟩
  intro hCycle
  exact lt_irrefl _ (hRank a hCycle).2

/-- The failing pass comes back from every element of a closed set without cycles: the elements on the way to it
are distinct members of the set, so that the fuel lasts. -/
theorem exists_depthFirst {univ : List α} (hClosed : ∀ a ∈ univ, ∃ next, successors a = some next ∧ ∀ b ∈ next, b ∈ univ)
    (hAcyclic : ∀ a, ¬Relation.TransGen (Follows successors) a a) (ha : a ∈ univ) (hActive : active.Nodup)
    (hMem : ∀ b ∈ active, b ∈ univ) (hReach : ∀ b ∈ active, Relation.TransGen (Follows successors) b a)
    (hFuel : univ.length + 1 ≤ fuel + active.length) (done : List α) :
    ∃ result, depthFirst successors fuel active a done = some result := by
  induction fuel generalizing active a done with
  | zero =>
    have hShort := (subperm_of_subset hActive hMem).length_le
    omega
  | succ fuel ih =>
    rw [depthFirst]
    split
    · exact ⟨done, rfl⟩
    have hInactive : a ∉ active := fun h => hAcyclic a (hReach a h)
    obtain ⟨next, hNext, hInside⟩ := hClosed a ha
    have hStep : ∀ b ∈ next, ∀ done, ∃ result, depthFirst successors fuel (a :: active) b done = some result := by
      intro b hb done
      have hab : Follows successors a b := ⟨next, hNext, hb⟩
      apply ih (hInside b hb) (nodup_cons.mpr ⟨hInactive, hActive⟩)
      · intro c hc
        rcases mem_cons.mp hc with rfl | hc
        · exact ha
        · exact hMem c hc
      · intro c hc
        rcases mem_cons.mp hc with rfl | hc
        · exact .single hab
        · exact (hReach c hc).tail hab
      · rw [length_cons]
        omega
    obtain ⟨middle, hFold⟩ := exists_foldlM hStep done
    rw [if_neg hInactive, hNext]
    exact ⟨middle ++ [a], by simp [hFold]⟩

theorem exists_depthFirstAll {univ roots : List α}
    (hClosed : ∀ a ∈ univ, ∃ next, successors a = some next ∧ ∀ b ∈ next, b ∈ univ)
    (hAcyclic : ∀ a, ¬Relation.TransGen (Follows successors) a a) (hRoots : ∀ a ∈ roots, a ∈ univ) :
    ∃ result, ∀ fuel, univ.length + 1 ≤ fuel →
      roots.foldlM (fun done a => depthFirst successors fuel [] a done) [] = some result := by
  obtain ⟨result, hResult⟩ := exists_foldlM (fun a ha done => exists_depthFirst hClosed hAcyclic (hRoots a ha)
    nodup_nil (by simp) (by simp) (Nat.le_refl (univ.length + 1)) done) []
  refine ⟨result, fun fuel hFuel => ?_⟩
  obtain ⟨_, hFold, rfl⟩ := foldlM_simulates Eq (fun done a => depthFirst successors fuel [] a done)
    (forall₂_same.mpr fun _ _ => rfl) (by
      rintro done _ a _ done' rfl rfl hVisit
      exact ⟨done', depthFirst_mono hFuel hVisit, rfl⟩) [] rfl hResult
  exact hFold

end Cycles

end Raiko2.Lib
