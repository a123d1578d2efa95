import Mathlib.Data.List.AList

/-!
# Finite maps

Association lists with unique keys, with the operations of a hash map that `AList` lacks: a change of one
value in place and a pass that may change or drop every entry.
-/

namespace Raiko2.Lib

abbrev Table (κ ν : Type) := AList fun _ : κ => ν

namespace Table

variable {κ ν : Type} [DecidableEq κ] {t : Table κ ν} {k x : κ}

theorem lookup_insert_ite {v : ν} : (t.insert k v).lookup x = if x = k then some v else t.lookup x := by
  split
  · rename_i h
    rw [h]
    exact AList.lookup_insert t
  · rename_i h
    exact AList.lookup_insert_ne h

theorem lookup_erase_ite : (t.erase k).lookup x = if x = k then none else t.lookup x := by
  split
  · rename_i h
    rw [h]
    exact AList.lookup_erase k t
  · rename_i h
    exact AList.lookup_erase_ne h

theorem lookup_insert_eq_some {v w : ν} :
    (t.insert k v).lookup x = some w ↔ (x = k ∧ v = w) ∨ (x ≠ k ∧ t.lookup x = some w) := by
  rw [lookup_insert_ite]
  split <;> simp [*]

theorem lookup_erase_eq_some {v : ν} : (t.erase k).lookup x = some v ↔ x ≠ k ∧ t.lookup x = some v := by
  rw [lookup_erase_ite]
  split <;> simp [*]

def modify (k : κ) (f : ν → ν) (t : Table κ ν) : Table κ ν :=
  match t.lookup k with
  | some v => t.insert k (f v)
  | none => t

theorem lookup_modify {f : ν → ν} : (t.modify k f).lookup x = if x = k then (t.lookup x).map f else t.lookup x := by
  by_cases hx : x = k
  · subst hx
    rw [modify, if_pos rfl]
    cases h : t.lookup x with
    | none => exact h
    | some v => exact AList.lookup_insert t
  · rw [modify, if_neg hx]
    cases t.lookup k with
    | none => rfl
    | some v => exact AList.lookup_insert_ne hx

theorem modify_of_lookup {v : ν} (h : t.lookup k = some v) (f : ν → ν) : t.modify k f = t.insert k (f v) := by
  rw [modify, h]

def retainEntries (f : κ → ν → Option ν) (entries : List (Sigma fun _ : κ => ν)) : List (Sigma fun _ : κ => ν) :=
  entries.filterMap fun entry => (f entry.1 entry.2).map (Sigma.mk entry.1)

omit [DecidableEq κ] in
theorem keys_retainEntries_sublist (f : κ → ν → Option ν) (entries : List (Sigma fun _ : κ => ν)) :
    (retainEntries f entries).keys.Sublist entries.keys := by
  induction entries with
  | nil => exact List.Sublist.refl _
  | cons entry entries ih =>
    rw [retainEntries, List.filterMap_cons]
    cases f entry.1 entry.2 with
    | none => exact ih.cons _
    | some v => exact ih.cons_cons _

theorem dlookup_retainEntries {f : κ → ν → Option ν} {entries : List (Sigma fun _ : κ => ν)}
    (hNodup : entries.NodupKeys) : (retainEntries f entries).dlookup x = (entries.dlookup x).bind (f x) := by
  induction entries with
  | nil => rfl
  | cons entry entries ih =>
    obtain ⟨key, v⟩ := entry
    obtain ⟨hFresh, hRest⟩ := List.nodupKeys_cons.mp hNodup
    have hStep : retainEntries f (⟨key, v⟩ :: entries) =
        ((f key v).map (Sigma.mk key)).toList ++ retainEntries f entries := by
      rw [retainEntries, List.filterMap_cons]
      cases f key v <;> rfl
    rw [hStep]
    by_cases hKey : x = key
    · subst hKey
      have hNone : (retainEntries f entries).dlookup x = none := by
        rw [List.dlookup_eq_none]
        exact fun h => hFresh ((keys_retainEntries_sublist f entries).subset h)
      rw [List.dlookup_cons_eq]
      cases hf : f x v with
      | none => simp [hf, hNone]
      | some w => simp [hf]
    · rw [List.dlookup_cons_ne _ _ hKey, ← ih hRest]
      cases f key v with
      | none => rfl
      | some w => exact List.dlookup_cons_ne _ _ hKey

/-- `HashMap::retain`: every entry is changed or dropped. -/
def retain (f : κ → ν → Option ν) (t : Table κ ν) : Table κ ν :=
  ⟨retainEntries f t.entries, List.Nodup.sublist (keys_retainEntries_sublist f t.entries) t.nodupKeys⟩

theorem lookup_retain {f : κ → ν → Option ν} : (t.retain f).lookup x = (t.lookup x).bind (f x) :=
  dlookup_retainEntries t.nodupKeys

def values (t : Table κ ν) : List ν := t.entries.map Sigma.snd

theorem mem_entries_iff {v : ν} : (⟨k, v⟩ : Sigma fun _ : κ => ν) ∈ t.entries ↔ t.lookup k = some v :=
  AList.mem_lookup_iff.symm

theorem mem_values_iff {v : ν} : v ∈ t.values ↔ ∃ k, t.lookup k = some v := by
  constructor
  · intro h
    obtain ⟨⟨k, w⟩, hMem, rfl⟩ := List.mem_map.mp h
    exact ⟨k, mem_entries_iff.mp hMem⟩
  · rintro ⟨k, hk⟩
    exact List.mem_map.mpr ⟨⟨k, v⟩, mem_entries_iff.mpr hk, rfl⟩

variable {β : Type} {f : ν → β}

/-- No two keys have values with one image. -/
abbrev Distinct (f : ν → β) (t : Table κ ν) : Prop :=
  ∀ {k k' : κ} {v v' : ν}, t.lookup k = some v → t.lookup k' = some v' → f v = f v' → k = k'

theorem Distinct.insert {v : ν} (h : t.Distinct f) (hNew : ∀ x w, t.lookup x = some w → f w ≠ f v) :
    Distinct f (t.insert k v) := by
  intro x x' w w' hx hx' hEq
  rcases lookup_insert_eq_some.mp hx with ⟨rfl, rfl⟩ | ⟨_, hOld⟩ <;>
    rcases lookup_insert_eq_some.mp hx' with ⟨rfl, rfl⟩ | ⟨_, hOld'⟩
  · rfl
  · exact absurd hEq.symm (hNew x' w' hOld')
  · exact absurd hEq (hNew x w hOld)
  · exact h hOld hOld' hEq

theorem nodup_map_entries_iff : (t.entries.map fun entry => f entry.2).Nodup ↔ t.Distinct f := by
  rw [List.nodup_map_iff_inj_on (List.NodupKeys.nodup t.nodupKeys)]
  constructor
  · intro h k k' v v' hk hk' hEq
    have hEntries := h _ (mem_entries_iff.mpr hk) _ (mem_entries_iff.mpr hk') hEq
    exact congrArg Sigma.fst hEntries
  · rintro h ⟨k, v⟩ hMem ⟨k', v'⟩ hMem' hEq
    have hk := mem_entries_iff.mp hMem
    have hk' := mem_entries_iff.mp hMem'
    obtain rfl := h hk hk' hEq
    rw [Option.some.inj (hk.symm.trans hk')]

end Table

end Raiko2.Lib
