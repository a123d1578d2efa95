import Mathlib.Data.Finmap

/-!
# Updates at distinct points

A pass over entries with distinct keys, in which the entry at a key changes only what is read at that key. What the
pass leaves at a key depends on the entry there and on nothing else, so the order of the entries does not matter.
-/

namespace Raiko2.Lib

variable {κ ν ρ σ : Type} [DecidableEq κ]

def updatedAt (g : ν → ρ → ρ) (entry : Option ν) (old : ρ) : ρ :=
  match entry with
  | some v => g v old
  | none => old

omit [DecidableEq κ] in
@[simp] theorem updatedAt_some (g : ν → ρ → ρ) (v : ν) (old : ρ) : updatedAt g (some v) old = g v old := rfl

omit [DecidableEq κ] in
@[simp] theorem updatedAt_none (g : ν → ρ → ρ) (old : ρ) : updatedAt g none old = old := rfl

theorem read_foldl_of_local (read : σ → κ → ρ) (step : σ → (Sigma fun _ : κ => ν) → σ) (g : κ → ν → ρ → ρ)
    (hLocal : ∀ s entry x, read (step s entry) x = if x = entry.1 then g x entry.2 (read s x) else read s x)
    {entries : List (Sigma fun _ : κ => ν)} (hNodup : entries.NodupKeys) (s : σ) (x : κ) :
    read (entries.foldl step s) x = updatedAt (g x) (entries.dlookup x) (read s x) := by
  induction entries generalizing s with
  | nil => rfl
  | cons entry entries ih =>
    obtain ⟨k, v⟩ := entry
    obtain ⟨hFresh, hRest⟩ := List.nodupKeys_cons.mp hNodup
    rw [List.foldl_cons, ih hRest, hLocal]
    by_cases hx : x = k
    · subst hx
      -- the key does not come again
      rw [if_pos rfl, List.dlookup_eq_none.mpr hFresh, List.dlookup_cons_eq, updatedAt_none, updatedAt_some]
    · rw [if_neg hx, List.dlookup_cons_ne _ _ hx]

section Maps

variable {μ : Type} (f : ν → Option μ)

def editAll (m : Finmap fun _ : κ => μ) (entries : List (Sigma fun _ : κ => ν)) : Finmap fun _ : κ => μ :=
  entries.foldl (fun m entry => match f entry.2 with
    | some v => m.insert entry.1 v
    | none => m.erase entry.1) m

def writeAll (m : Finmap fun _ : κ => μ) (entries : List (Sigma fun _ : κ => ν)) : Finmap fun _ : κ => μ :=
  entries.foldl (fun m entry => match f entry.2 with
    | some v => m.insert entry.1 v
    | none => m) m

def eraseAll (m : Finmap fun _ : κ => μ) (entries : List (Sigma fun _ : κ => ν)) : Finmap fun _ : κ => μ :=
  entries.foldl (fun m entry => match f entry.2 with
    | some _ => m
    | none => m.erase entry.1) m

theorem lookup_insert_eq_ite (m : Finmap fun _ : κ => μ) (k x : κ) (v : μ) :
    (m.insert k v).lookup x = if x = k then some v else m.lookup x := by
  split
  · rename_i h
    rw [h]
    exact Finmap.lookup_insert m
  · rename_i h
    exact Finmap.lookup_insert_of_ne m h

theorem lookup_erase_eq_ite (m : Finmap fun _ : κ => μ) (k x : κ) :
    (m.erase k).lookup x = if x = k then none else m.lookup x := by
  split
  · rename_i h
    rw [h]
    exact Finmap.lookup_erase k m
  · rename_i h
    exact Finmap.lookup_erase_ne h

variable {entries entries' : List (Sigma fun _ : κ => ν)} {m : Finmap fun _ : κ => μ}

theorem lookup_editAll (hNodup : entries.NodupKeys) (x : κ) :
    (editAll f m entries).lookup x = updatedAt (fun v _ => f v) (entries.dlookup x) (m.lookup x) := by
  refine read_foldl_of_local (fun m x => Finmap.lookup x m) _ (fun _ => _) ?_ hNodup m x
  rintro m ⟨k, v⟩ x
  dsimp only
  cases f v with
  | none => exact lookup_erase_eq_ite m k x
  | some w => exact lookup_insert_eq_ite m k x w

theorem lookup_writeAll (hNodup : entries.NodupKeys) (x : κ) :
    (writeAll f m entries).lookup x =
      updatedAt (fun v old => (f v).elim old some) (entries.dlookup x) (m.lookup x) := by
  refine read_foldl_of_local (fun m x => Finmap.lookup x m) _ (fun _ => _) ?_ hNodup m x
  rintro m ⟨k, v⟩ x
  dsimp only
  cases f v with
  | none => exact (ite_self _).symm
  | some w => exact lookup_insert_eq_ite m k x w

theorem lookup_eraseAll (hNodup : entries.NodupKeys) (x : κ) :
    (eraseAll f m entries).lookup x =
      updatedAt (fun v old => (f v).elim none fun _ => old) (entries.dlookup x) (m.lookup x) := by
  refine read_foldl_of_local (fun m x => Finmap.lookup x m) _ (fun _ => _) ?_ hNodup m x
  rintro m ⟨k, v⟩ x
  dsimp only
  cases f v with
  | none => exact lookup_erase_eq_ite m k x
  | some w => exact (ite_self _).symm

/-- Writing in one pass and erasing in a second one is the same as doing both at once, in any order. -/
theorem eraseAll_writeAll (hNodup : entries.NodupKeys) (hNodup' : entries'.NodupKeys)
    (hSame : ∀ x, entries.dlookup x = entries'.dlookup x) :
    eraseAll f (writeAll f m entries) entries = editAll f m entries' := by
  refine Finmap.ext_lookup fun x => ?_
  rw [lookup_eraseAll f hNodup, lookup_writeAll f hNodup, lookup_editAll f hNodup', ← hSame]
  cases entries.dlookup x with
  | none => rfl
  | some v =>
    simp only [updatedAt_some]
    cases f v <;> rfl

theorem editAll_congr (hNodup : entries.NodupKeys) (hNodup' : entries'.NodupKeys)
    (hSame : ∀ x, entries.dlookup x = entries'.dlookup x) : editAll f m entries = editAll f m entries' := by
  refine Finmap.ext_lookup fun x => ?_
  rw [lookup_editAll f hNodup, lookup_editAll f hNodup', hSame]

end Maps

end Raiko2.Lib
