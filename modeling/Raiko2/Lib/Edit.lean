import Raiko2.Lib.Outcome

/-!
# Changes in place

Computations that read and write a state in place and can fail half way: unlike in a computation that returns the
new state, what was written before a failure stays.
-/

namespace Raiko2.Lib

structure Edit (σ ε α : Type) where
  run : σ → Outcome ε α × σ

namespace Edit

variable {σ ε α β : Type}

instance : Monad (Edit σ ε) where
  pure a := ⟨fun s => (.ok a, s)⟩
  bind x f := ⟨fun s =>
    match x.run s with
    | (.ok a, s) => (f a).run s
    | (.error e, s) => (.error e, s)
    | (.abort m, s) => (.abort m, s)⟩

def read : Edit σ ε σ := ⟨fun s => (.ok s, s)⟩

def change (f : σ → σ) : Edit σ ε Unit := ⟨fun s => (.ok (), f s)⟩

def check (x : Outcome ε α) : Edit σ ε α := ⟨fun s => (x, s)⟩

/-- A new state that is written when there is one. -/
def update (f : σ → Outcome ε σ) : Edit σ ε Unit :=
  ⟨fun s =>
    match f s with
    | .ok s' => (.ok (), s')
    | .error e => (.error e, s)
    | .abort m => (.abort m, s)⟩

variable {s s' : σ} {x : Edit σ ε α} {f : α → Edit σ ε β}

@[simp] theorem read_bind_run {g : σ → Edit σ ε β} : (read >>= g).run s = (g s).run s := rfl

@[simp] theorem change_run {g : σ → σ} : (change g : Edit σ ε Unit).run s = (.ok (), g s) := rfl

@[simp] theorem check_ok_bind_run {a : α} : (check (.ok a) >>= f).run s = (f a).run s := rfl

theorem bind_run_of_ok {a : α} (h : x.run s = (.ok a, s')) : (x >>= f).run s = (f a).run s' := by
  simp only [bind, h]

theorem forM_change_run {xs : List β} (g : σ → β → σ) :
    (forM xs fun b => (change fun s => g s b : Edit σ ε Unit)).run s = (.ok (), xs.foldl g s) := by
  induction xs generalizing s with
  | nil => rfl
  | cons b xs ih =>
    rw [List.forM_cons, bind_run_of_ok change_run, List.foldl_cons]
    exact ih

theorem forM_update_run {xs : List β} {step : σ → β → Outcome ε σ} (h : xs.foldlM step s = .ok s') :
    (forM xs fun b => update fun s => step s b).run s = (.ok (), s') := by
  induction xs generalizing s with
  | nil =>
    cases h
    rfl
  | cons b xs ih =>
    rw [List.foldlM_cons] at h
    obtain ⟨middle, hFirst, hRest⟩ := Outcome.bind_eq_ok_iff.mp h
    have hRun : (update fun s => step s b).run s = (.ok (), middle) := by
      rw [update]
      simp only [hFirst]
    rw [List.forM_cons, bind_run_of_ok hRun]
    exact ih hRest

end Edit

end Raiko2.Lib
