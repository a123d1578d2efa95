import Mathlib.Data.List.Forall2

/-!
# Results that may abort

A call ends with a value, with an error the caller can inspect, or with an abort of the whole process.
The third case is kept apart so that a statement that some function never aborts has content.
-/

namespace Raiko2.Lib

open List

section Paired

variable {α β : Type} {R : α → β → Prop} {xs : List α} {ys : List β}

theorem forall₂_mem_right (h : List.Forall₂ R xs ys) {y : β} (hy : y ∈ ys) : ∃ x ∈ xs, R x y := by
  induction h with
  | nil => cases hy
  | @cons a b xs ys hab _ ih =>
    rcases mem_cons.mp hy with rfl | hy
    · exact ⟨a, by simp, hab⟩
    · obtain ⟨x, hx, hxy⟩ := ih hy
      exact ⟨x, by simp [hx], hxy⟩

end Paired

inductive Outcome (ε α : Type) where
  | ok (value : α)
  | error (reason : ε)
  | abort (message : String)
  deriving DecidableEq, Repr

namespace Outcome

variable {ε ε' α β : Type}

protected def bind (x : Outcome ε α) (f : α → Outcome ε β) : Outcome ε β :=
  match x with
  | ok a => f a
  | error e => error e
  | abort m => abort m

instance : Monad (Outcome ε) where
  pure := ok
  bind := Outcome.bind

@[simp] theorem pure_eq_ok (a : α) : (pure a : Outcome ε α) = ok a := rfl

@[simp] theorem ok_bind (a : α) (f : α → Outcome ε β) : (ok a >>= f) = f a := rfl

@[simp] theorem error_bind (e : ε) (f : α → Outcome ε β) : ((error e : Outcome ε α) >>= f) = error e := rfl

@[simp] theorem abort_bind (m : String) (f : α → Outcome ε β) : ((abort m : Outcome ε α) >>= f) = abort m := rfl

variable {f : α → Outcome ε β} {x : Outcome ε α}

theorem bind_eq_ok_iff {b : β} :
    (x >>= f) = ok b ↔ ∃ a, x = ok a ∧ f a = ok b := by
  cases x <;> simp

theorem unit_bind_eq_ok_iff {x : Outcome ε Unit} {f : Unit → Outcome ε β} {b : β} :
    (x >>= f) = ok b ↔ x = ok () ∧ f () = ok b := by
  cases x <;> simp

@[simp] theorem exists_eq_ok_unit_iff {x : Outcome ε Unit} : (∃ u, x = ok u) ↔ x = ok () := by
  cases x <;> simp

variable {m : String}

theorem bind_eq_abort_iff :
    (x >>= f) = abort m ↔ x = abort m ∨ ∃ a, x = ok a ∧ f a = abort m := by
  cases x <;> simp

instance : LawfulMonad (Outcome ε) :=
  LawfulMonad.mk' _ (by intro _ x; cases x <;> rfl) (by intros; rfl) (by intro _ _ _ x _ _; cases x <;> rfl)

/-- A guard that fails with a given error, as `ensure!` does. -/
def ensure (c : Prop) [Decidable c] (e : ε) : Outcome ε Unit :=
  if c then ok () else error e

variable {e : ε} {c : Prop}

@[simp] theorem ensure_eq_ok_iff [Decidable c] {u : Unit} : ensure c e = ok u ↔ c := by
  unfold ensure
  split <;> simp_all

theorem ensure_bind_eq_ok_iff [Decidable c] {f : Unit → Outcome ε β} {b : β} :
    (ensure c e >>= f) = ok b ↔ c ∧ f () = ok b := by
  rw [unit_bind_eq_ok_iff, ensure_eq_ok_iff]

@[simp] theorem ensure_ne_abort [Decidable c] : ensure c e ≠ abort m := by
  unfold ensure
  split <;> simp

theorem ensure_of_pos [Decidable c] (h : c) : ensure c e = ok () := by
  simp [ensure, h]

theorem ensure_of_neg [Decidable c] (h : ¬c) : ensure c e = error e := by
  simp [ensure, h]

def ofOption (e : ε) : Option α → Outcome ε α
  | some a => ok a
  | none => error e

@[simp] theorem ofOption_some (e : ε) (a : α) : ofOption e (some a) = ok a := rfl

@[simp] theorem ofOption_eq_ok_iff {o : Option α} {a : α} : ofOption e o = ok a ↔ o = some a := by
  cases o <;> simp [ofOption]

@[simp] theorem ofOption_ne_abort {o : Option α} : ofOption e o ≠ abort m := by
  cases o <;> simp [ofOption]

/-- `Option::expect`. -/
def expect (message : String) : Option α → Outcome ε α
  | some a => ok a
  | none => abort message

@[simp] theorem expect_eq_ok_iff {message : String} {o : Option α} {a : α} :
    (expect message o : Outcome ε α) = ok a ↔ o = some a := by
  cases o <;> simp [expect]

def ofExcept (f : ε' → ε) : Except ε' α → Outcome ε α
  | .ok a => ok a
  | .error e => error (f e)

@[simp] theorem ofExcept_eq_ok_iff {f : ε' → ε} {x : Except ε' α} {a : α} : ofExcept f x = ok a ↔ x = .ok a := by
  cases x <;> simp [ofExcept]

@[simp] theorem ofExcept_ne_abort {f : ε' → ε} {x : Except ε' α} : ofExcept f x ≠ abort m := by
  cases x <;> simp [ofExcept]

def mapError (f : ε → ε') : Outcome ε α → Outcome ε' α
  | ok a => ok a
  | error e => error (f e)
  | abort m => abort m

@[simp] theorem mapError_eq_ok_iff {f : ε → ε'} {a : α} : x.mapError f = ok a ↔ x = ok a := by
  cases x <;> simp [mapError]

@[simp] theorem mapError_eq_abort_iff {f : ε → ε'} :
    x.mapError f = abort m ↔ x = abort m := by
  cases x <;> simp [mapError]

@[simp] theorem mapError_ok (f : ε → ε') (a : α) : (ok a : Outcome ε α).mapError f = ok a := rfl

def isOk : Outcome ε α → Bool
  | ok _ => true
  | _ => false

variable {xs : List α}

theorem mapM_eq_ok_iff {ys : List β} :
    xs.mapM f = ok ys ↔ List.Forall₂ (fun x y => f x = ok y) xs ys := by
  induction xs generalizing ys with
  | nil => simp [eq_comm]
  | cons x xs ih =>
    simp only [mapM_cons, bind_eq_ok_iff, pure_eq_ok, Outcome.ok.injEq, forall₂_cons_left_iff, ih]
    constructor
    · rintro ⟨y, hy, rest, hRest, rfl⟩
      exact ⟨y, rest, hy, hRest, rfl⟩
    · rintro ⟨y, rest, hy, hRest, rfl⟩
      exact ⟨y, hy, rest, hRest, rfl⟩

theorem mapM_eq_ok {g : α → β} (h : ∀ a ∈ xs, f a = ok (g a)) :
    xs.mapM f = ok (xs.map g) := by
  rw [mapM_eq_ok_iff, forall₂_map_right_iff, forall₂_same]
  exact h

theorem mapM_ne_abort (h : ∀ a, f a ≠ abort m) :
    xs.mapM f ≠ abort m := by
  induction xs with
  | nil => exact nofun
  | cons x xs ih => simp [mapM_cons, bind_eq_abort_iff, h, ih]

theorem mem_mapM_ok {ys : List β} (h : xs.mapM f = ok ys) :
    ∀ y ∈ ys, ∃ x ∈ xs, f x = ok y := by
  intro y hy
  exact forall₂_mem_right (mapM_eq_ok_iff.mp h) hy

end Outcome

section Except

variable {ε α β : Type}

theorem except_bind_eq_ok_iff {x : Except ε α} {f : α → Except ε β} {b : β} :
    (x >>= f) = .ok b ↔ ∃ a, x = .ok a ∧ f a = .ok b := by
  cases x with
  | error e => exact ⟨nofun, nofun⟩
  | ok a => exact ⟨fun h => ⟨a, rfl, h⟩, by rintro ⟨_, ⟨⟩, h⟩; exact h⟩

theorem except_unit_bind_eq_ok_iff {x : Except ε Unit} {f : Unit → Except ε β} {b : β} :
    (x >>= f) = .ok b ↔ x = .ok () ∧ f () = .ok b := by
  rw [except_bind_eq_ok_iff]
  exact ⟨fun ⟨(), hx, hf⟩ => ⟨hx, hf⟩, fun ⟨hx, hf⟩ => ⟨(), hx, hf⟩⟩

theorem except_forM_eq_ok_iff {f : α → Except ε Unit} {xs : List α} :
    xs.forM f = .ok () ↔ ∀ x ∈ xs, f x = .ok () := by
  induction xs with
  | nil => exact ⟨nofun, fun _ => rfl⟩
  | cons x xs ih =>
    change (f x >>= fun _ => xs.forM f) = .ok () ↔ _
    rw [except_unit_bind_eq_ok_iff, ih, forall_mem_cons]

theorem except_mapM_mem {f : α → Except ε β} {xs : List α} {ys : List β} (h : xs.mapM f = .ok ys) :
    ∀ y ∈ ys, ∃ x ∈ xs, f x = .ok y := by
  induction xs generalizing ys with
  | nil =>
    cases h
    exact nofun
  | cons x xs ih =>
    rw [mapM_cons, except_bind_eq_ok_iff] at h
    obtain ⟨first, hFirst, h⟩ := h
    obtain ⟨rest, hRest, h⟩ := except_bind_eq_ok_iff.mp h
    cases h
    intro y hy
    rcases mem_cons.mp hy with rfl | hy
    · exact ⟨x, mem_cons_self, hFirst⟩
    · obtain ⟨x', hx', hEq⟩ := ih hRest y hy
      exact ⟨x', mem_cons_of_mem _ hx', hEq⟩

/-- A fold either keeps what each step keeps, or stops at a step whose failure shows in the elements met so far. -/
theorem except_foldlM_cases {f : β → α → Except ε β} {I : List α → β → Prop} {Bad : List α → Prop} {seen : List α} {b : β}
    (hOk : ∀ seen b x b', I seen b → f b x = .ok b' → I (seen ++ [x]) b')
    (hError : ∀ seen b x e, I seen b → f b x = .error e → Bad (seen ++ [x]))
    (hMore : ∀ seen more, Bad seen → Bad (seen ++ more)) (h : I seen b) (xs : List α) :
    (∃ b', xs.foldlM f b = .ok b' ∧ I (seen ++ xs) b') ∨ ∃ e, xs.foldlM f b = .error e ∧ Bad (seen ++ xs) := by
  induction xs generalizing seen b with
  | nil => exact .inl ⟨b, rfl, by rwa [append_nil]⟩
  | cons x xs ih =>
    rw [foldlM_cons, ← singleton_append, ← append_assoc]
    cases hStep : f b x with
    | ok next => exact ih (hOk seen b x next h hStep)
    | error e => exact .inr ⟨e, rfl, hMore _ _ (hError seen b x e h hStep)⟩

end Except

end Raiko2.Lib
