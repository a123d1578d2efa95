import Mathlib.Data.List.Basic

/-!
# Texts one after the other

A list of texts written as one: each behind its length in bytes and a colon, or each behind a character that occurs in
none of them. Both ways the texts can be told apart again.
-/

namespace Raiko2.Lib

open List

def frame (text : String) : String := toString text.utf8ByteSize ++ ":" ++ text

def frameAll : List String → String
  | [] => ""
  | text :: texts => frame text ++ frameAll texts

theorem colon_not_mem_digits (n : Nat) : ':' ∉ (toString n).toList := by
  rw [Nat.toString_eq_ofList_toDigits, String.toList_ofList]
  intro h
  have hDigit := Nat.isDigit_of_mem_toDigits (by decide) (by decide) h
  exact absurd hDigit (by decide)

theorem digits_inj {m n : Nat} (h : (toString m).toList = (toString n).toList) : m = n := by
  rw [Nat.toString_eq_ofList_toDigits, Nat.toString_eq_ofList_toDigits, String.toList_ofList, String.toList_ofList] at h
  calc
    m = Nat.ofDigitChars 10 (Nat.toDigits 10 m) 0 := Nat.ofDigitChars_ten_toDigits.symm
    _ = Nat.ofDigitChars 10 (Nat.toDigits 10 n) 0 := by rw [h]
    _ = n := Nat.ofDigitChars_ten_toDigits

theorem eq_of_append_separator {c : Char} {as bs xs ys : List Char} (ha : c ∉ as) (hb : c ∉ bs)
    (h : as ++ c :: xs = bs ++ c :: ys) : as = bs ∧ xs = ys := by
  induction as generalizing bs with
  | nil =>
    cases bs with
    | nil => exact ⟨rfl, tail_eq_of_cons_eq h⟩
    | cons b bs => exact absurd (head_eq_of_cons_eq h ▸ mem_cons_self) hb
  | cons a as ih =>
    cases bs with
    | nil => exact absurd (head_eq_of_cons_eq h ▸ mem_cons_self) ha
    | cons b bs =>
      obtain ⟨rfl, hRest⟩ := cons_eq_cons.mp h
      obtain ⟨rfl, rfl⟩ := ih (fun hIn => ha (mem_cons_of_mem _ hIn)) (fun hIn => hb (mem_cons_of_mem _ hIn)) hRest
      exact ⟨rfl, rfl⟩

theorem eq_of_toList_append {a b : String} {rest : List Char} (hSize : a.utf8ByteSize = b.utf8ByteSize)
    (h : b.toList = a.toList ++ rest) : a = b := by
  have hAppend : b = a ++ String.ofList rest := by
    rw [← String.toList_inj, h, String.toList_append, String.toList_ofList]
  have hEmpty : (String.ofList rest).utf8ByteSize = 0 := by
    rw [hAppend, String.utf8ByteSize_append] at hSize
    omega
  rw [hAppend, String.utf8ByteSize_eq_zero_iff.mp hEmpty, String.append_empty]

theorem eq_of_append_utf8ByteSize {a b x y : String} (hSize : a.utf8ByteSize = b.utf8ByteSize) (h : a ++ x = b ++ y) :
    a = b ∧ x = y := by
  have hList : a.toList ++ x.toList = b.toList ++ y.toList := by
    rw [← String.toList_append, ← String.toList_append, h]
  obtain rfl : a = b := by
    rcases append_eq_append_iff.mp hList with ⟨rest, hb, -⟩ | ⟨rest, ha, -⟩
    · exact eq_of_toList_append hSize hb
    · exact (eq_of_toList_append hSize.symm ha).symm
  exact ⟨rfl, (String.append_right_inj a).mp h⟩

theorem frame_append_inj {a b x y : String} (h : frame a ++ x = frame b ++ y) : a = b ∧ x = y := by
  have hList : (toString a.utf8ByteSize).toList ++ ':' :: (a ++ x).toList =
      (toString b.utf8ByteSize).toList ++ ':' :: (b ++ y).toList := by
    simpa [frame, String.toList_append] using congrArg String.toList h
  obtain ⟨hDigits, hRest⟩ := eq_of_append_separator (colon_not_mem_digits _) (colon_not_mem_digits _) hList
  exact eq_of_append_utf8ByteSize (digits_inj hDigits) (String.toList_inj.mp hRest)

theorem frameAll_injective {as bs : List String} (h : as.length = bs.length) (hEq : frameAll as = frameAll bs) :
    as = bs := by
  induction as generalizing bs with
  | nil => exact (eq_nil_of_length_eq_zero h.symm).symm
  | cons a as ih =>
    cases bs with
    | nil => cases h
    | cons b bs =>
      obtain ⟨rfl, hRest⟩ := frame_append_inj hEq
      rw [ih (Nat.succ.inj h) hRest]

theorem flatMap_injective_of_append_inj {α β : Type} {f : α → List β} (hNonempty : ∀ a, f a ≠ [])
    (hCut : ∀ a b x y, f a ++ x = f b ++ y → a = b ∧ x = y) {as bs : List α} (h : as.flatMap f = bs.flatMap f) :
    as = bs := by
  induction as generalizing bs with
  | nil =>
    cases bs with
    | nil => rfl
    | cons b bs => exact absurd (append_eq_nil_iff.mp h.symm).1 (hNonempty b)
  | cons a as ih =>
    cases bs with
    | nil => exact absurd (append_eq_nil_iff.mp h).1 (hNonempty a)
    | cons b bs =>
      obtain ⟨rfl, hRest⟩ := hCut a b _ _ h
      rw [ih hRest]

section Separated

variable {c : Char}

/-- Each text behind the character. -/
def separated (c : Char) : List String → String
  | [] => ""
  | text :: texts => c.toString ++ text ++ separated c texts

theorem toList_separated (text : String) (texts : List String) :
    (separated c (text :: texts)).toList = c :: (text.toList ++ (separated c texts).toList) := by
  simp [separated, String.toList_append]

theorem eq_of_append_separated {as bs : List Char} {texts texts' : List String} (ha : c ∉ as) (hb : c ∉ bs)
    (h : as ++ (separated c texts).toList = bs ++ (separated c texts').toList) :
    as = bs ∧ separated c texts = separated c texts' := by
  cases texts with
  | nil =>
    cases texts' with
    | nil => exact ⟨by simpa [separated] using h, rfl⟩
    | cons text rest =>
      rw [toList_separated, separated, String.toList_empty, append_nil] at h
      exact absurd (by rw [h]; exact mem_append_right _ mem_cons_self) ha
  | cons text rest =>
    cases texts' with
    | nil =>
      rw [toList_separated, separated, String.toList_empty, append_nil] at h
      exact absurd (by rw [← h]; exact mem_append_right _ mem_cons_self) hb
    | cons text' rest' =>
      rw [toList_separated, toList_separated] at h
      obtain ⟨hFirst, hRest⟩ := eq_of_append_separator ha hb h
      exact ⟨hFirst, by rw [← String.toList_inj, toList_separated, toList_separated, hRest]⟩

theorem separated_injective {as bs : List String} (ha : ∀ text ∈ as, c ∉ text.toList)
    (hb : ∀ text ∈ bs, c ∉ text.toList) (h : separated c as = separated c bs) : as = bs := by
  induction as generalizing bs with
  | nil =>
    cases bs with
    | nil => rfl
    | cons b bs =>
      have hList := congrArg String.toList h
      rw [toList_separated] at hList
      cases hList
  | cons a as ih =>
    cases bs with
    | nil =>
      have hList := congrArg String.toList h
      rw [toList_separated] at hList
      cases hList
    | cons b bs =>
      have hList := congrArg String.toList h
      rw [toList_separated, toList_separated] at hList
      obtain ⟨hText, hRest⟩ := eq_of_append_separated (ha a mem_cons_self) (hb b mem_cons_self)
        (tail_eq_of_cons_eq hList)
      rw [String.toList_inj.mp hText, ih (fun text hMem => ha text (mem_cons_of_mem _ hMem))
        (fun text hMem => hb text (mem_cons_of_mem _ hMem)) hRest]

end Separated

end Raiko2.Lib
