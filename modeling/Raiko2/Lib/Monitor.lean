import Raiko2.Lib.Process

/-!
# What a program asks for

A monitor watches the requests of one program and the answers to them, and says after each of them which request may
come next. A program obeys a monitor if it does for all answers, so that nothing about the other programs is needed.
-/

namespace Raiko2.Lib

universe u v w

structure Monitor (σ : Type w) (Req : Type u) (Ans : Req → Type v) where
  next : σ → (r : Req) → Ans r → σ
  Allowed : σ → Req → Prop

namespace Monitor

variable {σ τ : Type w} {Req : Type u} {Ans : Req → Type v} {α β : Type v} {m : Monitor σ Req Ans}

/-- Every request is allowed when it comes, and the program ends with the postcondition. -/
def Obeys (m : Monitor σ Req Ans) : Program Req Ans α → (α → σ → Prop) → σ → Prop
  | .done a, Q, s => Q a s
  | .ask r next, Q, s => m.Allowed s r ∧ ∀ answer, m.Obeys (next answer) Q (m.next s r answer)

variable {p : Program Req Ans α} {f : α → Program Req Ans β} {Q Q' : α → σ → Prop} {R : β → σ → Prop} {s : σ}

theorem Obeys.mono (h : m.Obeys p Q s) (hPost : ∀ a s, Q a s → Q' a s) : m.Obeys p Q' s := by
  induction p generalizing s with
  | done a => exact hPost a s h
  | ask r next ih => exact ⟨h.1, fun answer => ih answer (h.2 answer)⟩

theorem Obeys.bind (h : m.Obeys p (fun a s => m.Obeys (f a) R s) s) : m.Obeys (p >>= f) R s := by
  induction p generalizing s with
  | done a => exact h
  | ask r next ih => exact ⟨h.1, fun answer => ih answer (h.2 answer)⟩

theorem Obeys.request {r : Req} {Q : Ans r → σ → Prop} (hAllowed : m.Allowed s r)
    (h : ∀ answer, Q answer (m.next s r answer)) : m.Obeys (Program.request r) Q s :=
  ⟨hAllowed, h⟩

theorem Obeys.andThen (h : m.Obeys p Q s) (hNext : ∀ a s, Q a s → m.Obeys (f a) R s) : m.Obeys (p >>= f) R s :=
  Obeys.bind (h.mono hNext)

theorem Obeys.requestThen {r : Req} {f : Ans r → Program Req Ans β} (hAllowed : m.Allowed s r)
    (h : ∀ answer, m.Obeys (f answer) R (m.next s r answer)) : m.Obeys (Program.request r >>= f) R s :=
  Obeys.bind (Obeys.request hAllowed h)

/-- A program that obeys one monitor obeys another that allows as much in the states it is related to. -/
theorem Obeys.simulate {m' : Monitor τ Req Ans} (Rel : σ → τ → Prop)
    (hAllowed : ∀ s t r, Rel s t → m.Allowed s r → m'.Allowed t r)
    (hNext : ∀ s t r answer, Rel s t → m.Allowed s r → Rel (m.next s r answer) (m'.next t r answer)) {Q' : α → τ → Prop}
    (hPost : ∀ a s t, Rel s t → Q a s → Q' a t) {t : τ} (hRel : Rel s t) (h : m.Obeys p Q s) : m'.Obeys p Q' t := by
  induction p generalizing s t with
  | done a => exact hPost a s t hRel h
  | ask r next ih =>
    exact ⟨hAllowed s t r hRel h.1, fun answer => ih answer (hNext s t r answer hRel h.1) (h.2 answer)⟩

section Failing

variable {ε : Type v} {p : ExceptT ε (Program Req Ans) α} {f : α → ExceptT ε (Program Req Ans) β}
  {R : Except ε β → σ → Prop}

theorem Obeys.bindExcept (h : m.Obeys p.run (fun result s => (∀ a, result = .ok a → m.Obeys (f a).run R s) ∧
    ∀ e, result = .error e → R (.error e) s) s) : m.Obeys (p >>= f).run R s := by
  refine Obeys.bind (p := p.run) (Obeys.mono h ?_)
  intro result s hResult
  cases result with
  | ok a => exact hResult.1 a rfl
  | error e => exact hResult.2 e rfl

theorem Obeys.liftBind {p : Program Req Ans α} (h : m.Obeys p (fun a s => m.Obeys (f a).run R s) s) :
    m.Obeys (ExceptT.lift p >>= f).run R s := by
  apply Obeys.bindExcept
  refine Obeys.bind (Obeys.mono h fun a s ha => ?_)
  constructor
  · rintro _ ⟨⟩
    exact ha
  · rintro _ ⟨⟩

end Failing

def logging (Allowed : List (Sigma Ans) → Req → Prop) : Monitor (List (Sigma Ans)) Req Ans :=
  ⟨fun log r answer => ⟨r, answer⟩ :: log, Allowed⟩

end Monitor

end Raiko2.Lib
