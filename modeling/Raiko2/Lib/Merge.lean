import Mathlib.Data.List.Pairwise

/-!
# Matching sorted items against ascending entries

One forward pass with one cursor: each entry takes the items at the cursor that have its key, and all of
them must agree with it. For items sorted by key and entries of strictly ascending keys the pass uses up all
items exactly when every item agrees with an entry of its key.
-/

namespace Raiko2.Lib

variable {α β : Type} (itemKey : α → Nat) (entryKey : β → Nat) (agrees : α → β → Prop)
  [∀ a b, Decidable (agrees a b)]

/-- The items left after an entry has taken those with its key; none if one of them disagrees. -/
def takeMatching (entry : β) : List α → Option (List α)
  | [] => some []
  | item :: rest =>
    if itemKey item ≠ entryKey entry then some (item :: rest)
    else if agrees item entry then takeMatching entry rest
    else none

def mergeEntries : List β → List α → Option (List α)
  | [], items => some items
  | entry :: entries, items => (takeMatching itemKey entryKey agrees entry items).bind (mergeEntries entries)

variable {itemKey entryKey agrees} {items : List α} {entries : List β}

theorem takeMatching_eq_some {entry : β} {items rest : List α}
    (h : takeMatching itemKey entryKey agrees entry items = some rest) :
    ∃ taken, items = taken ++ rest ∧ ∀ item ∈ taken, itemKey item = entryKey entry ∧ agrees item entry := by
  induction items with
  | nil =>
    cases h
    exact ⟨[], rfl, by simp⟩
  | cons item items ih =>
    rw [takeMatching] at h
    split at h
    · cases h
      exact ⟨[], rfl, by simp⟩
    rename_i hKey
    split at h
    · rename_i hAgrees
      obtain ⟨taken, rfl, hTaken⟩ := ih h
      refine ⟨item :: taken, rfl, ?_⟩
      simpa using ⟨⟨not_not.mp hKey, hAgrees⟩, hTaken⟩
    · cases h

theorem agrees_of_mergeEntries (h : mergeEntries itemKey entryKey agrees entries items = some []) :
    ∀ item ∈ items, ∃ entry ∈ entries, itemKey item = entryKey entry ∧ agrees item entry := by
  induction entries generalizing items with
  | nil =>
    cases h
    simp
  | cons entry entries ih =>
    obtain ⟨rest, hTake, hRest⟩ := Option.bind_eq_some_iff.mp h
    obtain ⟨taken, rfl, hTaken⟩ := takeMatching_eq_some hTake
    intro item hItem
    rcases List.mem_append.mp hItem with hItem | hItem
    · exact ⟨entry, by simp, hTaken item hItem⟩
    · obtain ⟨other, hOther, hAgrees⟩ := ih hRest item hItem
      exact ⟨other, by simp [hOther], hAgrees⟩

theorem takeMatching_of_sorted {entry : β} (hSorted : items.Pairwise fun a b => itemKey a ≤ itemKey b)
    (hAbove : ∀ item ∈ items, entryKey entry ≤ itemKey item)
    (hAgrees : ∀ item ∈ items, itemKey item = entryKey entry → agrees item entry) :
    ∃ rest, takeMatching itemKey entryKey agrees entry items = some rest ∧ rest.Sublist items ∧
      ∀ item ∈ rest, entryKey entry < itemKey item := by
  induction items with
  | nil => exact ⟨[], rfl, List.Sublist.refl _, by simp⟩
  | cons item items ih =>
    obtain ⟨hHead, hTail⟩ := List.pairwise_cons.mp hSorted
    have hItem := hAbove item (by simp)
    by_cases hKey : itemKey item = entryKey entry
    · obtain ⟨rest, hTake, hSub, hRest⟩ := ih hTail (fun a ha => hAbove a (by simp [ha]))
        (fun a ha => hAgrees a (by simp [ha]))
      refine ⟨rest, ?_, hSub.cons _, hRest⟩
      rw [takeMatching, if_neg (not_not.mpr hKey), if_pos (hAgrees item (by simp) hKey), hTake]
    · refine ⟨item :: items, by rw [takeMatching, if_pos hKey], List.Sublist.refl _, ?_⟩
      intro a ha
      rcases List.mem_cons.mp ha with rfl | ha
      · omega
      · have := hHead a ha
        omega

theorem mergeEntries_of_agrees (hSorted : items.Pairwise fun a b => itemKey a ≤ itemKey b)
    (hAscending : entries.Pairwise fun a b => entryKey a < entryKey b)
    (h : ∀ item ∈ items, ∃ entry ∈ entries, itemKey item = entryKey entry ∧ agrees item entry) :
    mergeEntries itemKey entryKey agrees entries items = some [] := by
  induction entries generalizing items with
  | nil =>
    cases items with
    | nil => rfl
    | cons item items =>
      obtain ⟨_, hEntry, _⟩ := h item (by simp)
      cases hEntry
  | cons entry entries ih =>
    obtain ⟨hFirst, hRest⟩ := List.pairwise_cons.mp hAscending
    -- An item with the key of the first entry can only agree with that entry, the keys being distinct.
    have hCases : ∀ item ∈ items, (itemKey item = entryKey entry ∧ agrees item entry) ∨
        (entryKey entry < itemKey item ∧ ∃ other ∈ entries, itemKey item = entryKey other ∧ agrees item other) := by
      intro item hItem
      obtain ⟨other, hOther, hKey, hAgrees⟩ := h item hItem
      rcases List.mem_cons.mp hOther with rfl | hOther
      · exact Or.inl ⟨hKey, hAgrees⟩
      · exact Or.inr ⟨hKey ▸ hFirst other hOther, other, hOther, hKey, hAgrees⟩
    have hLow : ∀ item ∈ items, entryKey entry ≤ itemKey item := by
      intro item hItem
      rcases hCases item hItem with ⟨hKey, _⟩ | ⟨hKey, _⟩ <;> omega
    have hHere : ∀ item ∈ items, itemKey item = entryKey entry → agrees item entry := by
      intro item hItem hKey
      rcases hCases item hItem with ⟨_, hAgrees⟩ | ⟨hLater, _⟩
      · exact hAgrees
      · omega
    obtain ⟨rest, hTake, hSub, hAbove⟩ := takeMatching_of_sorted hSorted hLow hHere
    rw [mergeEntries, hTake]
    refine ih (hSorted.sublist hSub) hRest fun item hItem => ?_
    have hKey := hAbove item hItem
    rcases hCases item (hSub.subset hItem) with ⟨hEq, _⟩ | ⟨_, hLater⟩
    · omega
    · exact hLater

theorem mergeEntries_eq_nil_iff (hSorted : items.Pairwise fun a b => itemKey a ≤ itemKey b)
    (hAscending : entries.Pairwise fun a b => entryKey a < entryKey b) :
    mergeEntries itemKey entryKey agrees entries items = some [] ↔
      ∀ item ∈ items, ∃ entry ∈ entries, itemKey item = entryKey entry ∧ agrees item entry :=
  ⟨agrees_of_mergeEntries, mergeEntries_of_agrees hSorted hAscending⟩

end Raiko2.Lib
