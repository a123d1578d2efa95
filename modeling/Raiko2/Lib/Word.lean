import Mathlib.Algebra.Group.Nat.Defs
import Mathlib.Order.Basic

/-!
# Unsigned 64-bit arithmetic that saturates or is checked

Plain addition on `UInt64` wraps. The operations below are the ones that do not, with their values read
as natural numbers, so that an order goal is moved to `Nat` by `simp` and closed there.
-/

namespace Raiko2.Lib.U64

def maxValue : UInt64 := 18446744073709551615

@[simp] theorem toNat_maxValue : maxValue.toNat = 2 ^ 64 - 1 := rfl

def saturatingAdd (a b : UInt64) : UInt64 :=
  if a.toNat + b.toNat < 2 ^ 64 then a + b else maxValue

def saturatingSub (a b : UInt64) : UInt64 :=
  if b ≤ a then a - b else 0

def checkedAdd (a b : UInt64) : Option UInt64 :=
  if a.toNat + b.toNat < 2 ^ 64 then some (a + b) else none

def checkedSub (a b : UInt64) : Option UInt64 :=
  if b ≤ a then some (a - b) else none

def maxOf (a b : UInt64) : UInt64 :=
  if a ≤ b then b else a

@[simp] theorem toNat_saturatingAdd (a b : UInt64) :
    (saturatingAdd a b).toNat = min (a.toNat + b.toNat) (2 ^ 64 - 1) := by
  unfold saturatingAdd
  split
  · rw [UInt64.toNat_add, Nat.mod_eq_of_lt (by assumption)]
    omega
  · rw [toNat_maxValue]
    omega

@[simp] theorem toNat_saturatingSub (a b : UInt64) : (saturatingSub a b).toNat = a.toNat - b.toNat := by
  unfold saturatingSub
  split
  · rw [UInt64.toNat_sub_of_le _ _ (by assumption)]
  · rename_i h
    rw [UInt64.le_iff_toNat_le] at h
    simp only [UInt64.toNat_zero]
    omega

theorem checkedAdd_eq_some_iff {a b c : UInt64} : checkedAdd a b = some c ↔ a.toNat + b.toNat = c.toNat := by
  unfold checkedAdd
  split
  · rename_i h
    rw [Option.some.injEq, ← UInt64.toNat_inj, UInt64.toNat_add, Nat.mod_eq_of_lt h]
  · have hc := c.toNat_lt
    constructor
    · intro h
      cases h
    · intro h
      omega

theorem checkedSub_eq_some_iff {a b c : UInt64} : checkedSub a b = some c ↔ a.toNat = b.toNat + c.toNat := by
  unfold checkedSub
  split
  · rename_i h
    rw [Option.some.injEq, ← UInt64.toNat_inj, UInt64.toNat_sub_of_le _ _ h]
    rw [UInt64.le_iff_toNat_le] at h
    omega
  · rename_i h
    rw [UInt64.le_iff_toNat_le] at h
    constructor
    · intro h
      cases h
    · intro h
      omega

@[simp] theorem toNat_maxOf (a b : UInt64) : (maxOf a b).toNat = max a.toNat b.toNat := by
  unfold maxOf
  split <;> rename_i h <;> rw [UInt64.le_iff_toNat_le] at h <;> omega

theorem toNat_add_of_lt {a b : UInt64} (h : a.toNat + b.toNat < 2 ^ 64) : (a + b).toNat = a.toNat + b.toNat := by
  rw [UInt64.toNat_add, Nat.mod_eq_of_lt h]

end Raiko2.Lib.U64
