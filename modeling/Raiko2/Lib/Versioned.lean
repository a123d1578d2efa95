import Mathlib.Data.List.Basic

/-!
# Versioned registers

One cell that is empty or holds contents with a version, and the values that it held before. Versions are not used
twice, so that a version determines the contents.
-/

namespace Raiko2.Lib

structure Versioned (β γ : Type) where
  current : Option (β × γ)
  past : List (Option (β × γ)) := []

namespace Versioned

variable {β γ : Type} {r : Versioned β γ} {v : Option (β × γ)} {g : γ}

def values (r : Versioned β γ) : List (Option (β × γ)) := r.current :: r.past

def version (r : Versioned β γ) : Option γ := r.current.map Prod.snd

def put (r : Versioned β γ) (v : Option (β × γ)) : Versioned β γ := ⟨v, r.values⟩

def Fresh (r : Versioned β γ) (g : γ) : Prop := ∀ v ∈ r.values, v.map Prod.snd ≠ some g

instance [DecidableEq γ] (r : Versioned β γ) (g : γ) : Decidable (r.Fresh g) := by
  unfold Fresh
  infer_instance

/-- A version has one value. -/
def Unambiguous (r : Versioned β γ) : Prop :=
  ∀ v ∈ r.values, ∀ w ∈ r.values, v.map Prod.snd = w.map Prod.snd → v = w

theorem current_mem : r.current ∈ r.values := List.mem_cons_self

theorem mem_put {w : Option (β × γ)} : w ∈ (r.put v).values ↔ w = v ∨ w ∈ r.values := List.mem_cons

theorem mem_put_of_mem {w : Option (β × γ)} (h : w ∈ r.values) : w ∈ (r.put v).values := List.mem_cons_of_mem _ h

theorem Unambiguous.eq_current (h : r.Unambiguous) (hv : v ∈ r.values) (hVersion : v.map Prod.snd = r.version) :
    v = r.current :=
  h v hv r.current current_mem hVersion

theorem Unambiguous.put_none (h : r.Unambiguous) : (r.put none).Unambiguous := by
  have hNone : ∀ w ∈ r.values, w.map Prod.snd = none → w = none := fun w _ hw => Option.map_eq_none_iff.mp hw
  intro v hv w hw hEq
  rcases mem_put.mp hv with rfl | hv <;> rcases mem_put.mp hw with rfl | hw
  · rfl
  · exact (hNone w hw hEq.symm).symm
  · exact hNone v hv hEq
  · exact h v hv w hw hEq

theorem Unambiguous.put_fresh (h : r.Unambiguous) {b : β} (hFresh : r.Fresh g) :
    (r.put (some (b, g))).Unambiguous := by
  intro v hv w hw hEq
  rcases mem_put.mp hv with rfl | hv <;> rcases mem_put.mp hw with rfl | hw
  · rfl
  · exact absurd hEq.symm (hFresh w hw)
  · exact absurd hEq (hFresh v hv)
  · exact h v hv w hw hEq

end Versioned

end Raiko2.Lib
