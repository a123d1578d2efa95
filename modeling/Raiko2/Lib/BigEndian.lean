import Mathlib.Data.List.Basic
import Mathlib.Tactic.Ring

/-!
# Big-endian words

Fixed-width big-endian byte strings of natural numbers, and concatenations of encodings that all have the
same length. Equality of two concatenations gives equality of the encoded lists; no separator or length
field is needed.
-/

namespace Raiko2.Lib

/-- The last `width` big-endian bytes of a number. -/
def beBytes : Nat → Nat → List UInt8
  | 0, _ => []
  | width + 1, n => beBytes width (n / 256) ++ [UInt8.ofNat (n % 256)]

def ofBeBytes (bytes : List UInt8) : Nat :=
  bytes.foldl (fun acc byte => acc * 256 + byte.toNat) 0

@[simp] theorem length_beBytes (width n : Nat) : (beBytes width n).length = width := by
  induction width generalizing n with
  | zero => rfl
  | succ width ih => simp [beBytes, ih]

theorem ofBeBytes_beBytes (width n : Nat) : ofBeBytes (beBytes width n) = n % 256 ^ width := by
  induction width generalizing n with
  | zero => simp [beBytes, ofBeBytes, Nat.mod_one]
  | succ width ih =>
    have hByte : (UInt8.ofNat (n % 256)).toNat = n % 256 := by simp
    have hPrev : ofBeBytes (beBytes width (n / 256)) = n / 256 % 256 ^ width := ih _
    unfold ofBeBytes at hPrev ⊢
    rw [beBytes, List.foldl_append, hPrev]
    simp only [List.foldl_cons, List.foldl_nil, hByte]
    rw [pow_succ, Nat.mul_comm (256 ^ width) 256, Nat.mod_mul]
    ring

theorem beBytes_inj {width n m : Nat} (hn : n < 256 ^ width) (hm : m < 256 ^ width)
    (h : beBytes width n = beBytes width m) : n = m := by
  have hValue := congrArg ofBeBytes h
  rwa [ofBeBytes_beBytes, ofBeBytes_beBytes, Nat.mod_eq_of_lt hn, Nat.mod_eq_of_lt hm] at hValue

section FixedLength

variable {α β : Type} {encode : α → List β} {size : Nat}

theorem length_flatMap_fixed (hSize : ∀ a, (encode a).length = size) (xs : List α) :
    (xs.flatMap encode).length = xs.length * size := by
  induction xs with
  | nil => simp
  | cons x xs ih => simp [hSize, ih, Nat.succ_mul, Nat.add_comm]

theorem flatMap_fixed_inj (hSize : ∀ a, (encode a).length = size) (hPos : 0 < size)
    (hInj : ∀ a b, encode a = encode b → a = b) {xs ys : List α}
    (h : xs.flatMap encode = ys.flatMap encode) : xs = ys := by
  have hLength : xs.length = ys.length := by
    have hTotal := congrArg List.length h
    rw [length_flatMap_fixed hSize, length_flatMap_fixed hSize] at hTotal
    exact Nat.eq_of_mul_eq_mul_right hPos hTotal
  induction xs generalizing ys with
  | nil =>
    cases ys with
    | nil => rfl
    | cons y ys => simp at hLength
  | cons x xs ih =>
    cases ys with
    | nil => simp at hLength
    | cons y ys =>
      simp only [List.flatMap_cons] at h
      obtain ⟨hHead, hTail⟩ := List.append_inj h (by rw [hSize, hSize])
      rw [hInj x y hHead, ih hTail (by simpa using hLength)]

end FixedLength

end Raiko2.Lib
