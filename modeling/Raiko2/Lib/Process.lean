import Mathlib.Logic.Basic

/-!
# Programs that run side by side

A program is finished, or it makes a request and goes on with the answer. Any number of programs share a state and take
turns, one request at a time. A contract says what a program may rely on while others take their turns and what it
guarantees when it takes its own; a program that keeps the contract on its own keeps it among others.
-/

namespace Raiko2.Lib

universe u v w

inductive Program (Req : Type u) (Ans : Req → Type v) (α : Type w) where
  | done (value : α)
  | ask (request : Req) (next : Ans request → Program Req Ans α)

namespace Program

variable {Req : Type u} {Ans : Req → Type v} {α β : Type w}

protected def bind : Program Req Ans α → (α → Program Req Ans β) → Program Req Ans β
  | done a, f => f a
  | ask r next, f => ask r fun answer => (next answer).bind f

instance : Monad (Program Req Ans) where
  pure := done
  bind := Program.bind

def request {Ans : Req → Type w} (r : Req) : Program Req Ans (Ans r) := ask r done

end Program

/-- What the programs on a state of type `σ` may do and may count on. `Step` is a turn; `Inv` holds between turns. -/
structure Contract (σ ι : Type) (Req : Type u) (Ans : Req → Type v) where
  Step : ι → σ → (r : Req) → Ans r → σ → Prop
  Inv : σ → Prop
  Rely : ι → σ → σ → Prop
  Guar : ι → σ → σ → Prop
  rely_refl : ∀ i s, Rely i s s
  rely_trans : ∀ {i s s' s''}, Rely i s s' → Rely i s' s'' → Rely i s s''
  guar_rely : ∀ {i j s s'}, i ≠ j → Guar i s s' → Rely j s s'

namespace Contract

variable {σ ι : Type} {Req : Type u} {Ans : Req → Type v} {α β : Type w} (c : Contract σ ι Req Ans) {i : ι} {s s' : σ}

/-- The program keeps the contract from a state on, whatever the others do, and ends with the postcondition. -/
def Safe (i : ι) : Program Req Ans α → (α → σ → Prop) → σ → Prop
  | .done a, Q, s => ∀ s', c.Rely i s s' → c.Inv s' → Q a s'
  | .ask r next, Q, s => ∀ s', c.Rely i s s' → c.Inv s' → ∀ answer s'', c.Step i s' r answer s'' →
      c.Inv s'' ∧ c.Guar i s' s'' ∧ Safe i (next answer) Q s''

variable {c} {p : Program Req Ans α} {f : α → Program Req Ans β} {Q : α → σ → Prop} {R : β → σ → Prop}

theorem Safe.rely (h : c.Safe i p Q s) (hRely : c.Rely i s s') : c.Safe i p Q s' := by
  cases p with
  | done a => exact fun t hTurns => h t (c.rely_trans hRely hTurns)
  | ask r next => exact fun t hTurns => h t (c.rely_trans hRely hTurns)

theorem Safe.of_rely (h : ∀ s', c.Rely i s s' → c.Inv s' → c.Safe i p Q s') : c.Safe i p Q s := by
  cases p with
  | done a =>
    intro t hTurns hInv
    exact h t hTurns hInv t (c.rely_refl i t) hInv
  | ask r next =>
    intro t hTurns hInv
    exact h t hTurns hInv t (c.rely_refl i t) hInv

theorem Safe.bind (h : c.Safe i p (fun a s => c.Safe i (f a) R s) s) : c.Safe i (p.bind f) R s := by
  induction p generalizing s with
  | done a => exact Safe.of_rely h
  | ask r next ih =>
    intro t hTurns hInv answer t' hStep
    obtain ⟨hInv', hGuar, hNext⟩ := h t hTurns hInv answer t' hStep
    exact ⟨hInv', hGuar, ih answer hNext⟩

theorem Safe.mono {Q' : α → σ → Prop} (h : c.Safe i p Q s) (hPost : ∀ a s, c.Inv s → Q a s → Q' a s) :
    c.Safe i p Q' s := by
  induction p generalizing s with
  | done a => exact fun t hTurns hInv => hPost a t hInv (h t hTurns hInv)
  | ask r next ih =>
    intro t hTurns hInv answer t' hStep
    obtain ⟨hInv', hGuar, hNext⟩ := h t hTurns hInv answer t' hStep
    exact ⟨hInv', hGuar, ih answer hNext⟩

theorem Safe.frame {R : σ → Prop} (hRely : ∀ s s', c.Rely i s s' → R s → R s')
    (hGuar : ∀ s s', c.Guar i s s' → R s → R s') (h : c.Safe i p Q s) (hR : R s) :
    c.Safe i p (fun a s => Q a s ∧ R s) s := by
  induction p generalizing s with
  | done a => exact fun t hTurns hInv => ⟨h t hTurns hInv, hRely s t hTurns hR⟩
  | ask r next ih =>
    intro t hTurns hInv answer t' hStep
    obtain ⟨hInv', hGuar', hNext⟩ := h t hTurns hInv answer t' hStep
    exact ⟨hInv', hGuar', ih answer hNext (hGuar t t' hGuar' (hRely s t hTurns hR))⟩

theorem Safe.bind_done {g : α → β} (h : c.Safe i p (fun a => R (g a)) s) :
    c.Safe i (p.bind fun a => .done (g a)) R s := by
  induction p generalizing s with
  | done a => exact h
  | ask r next ih =>
    intro t hTurns hInv answer t' hStep
    obtain ⟨hInv', hGuar, hNext⟩ := h t hTurns hInv answer t' hStep
    exact ⟨hInv', hGuar, ih answer hNext⟩

theorem Safe.request {Ans : Req → Type w} {c : Contract σ ι Req Ans} {r : Req} {Q : Ans r → σ → Prop}
    (h : ∀ s', c.Rely i s s' → c.Inv s' → ∀ answer s'', c.Step i s' r answer s'' →
      c.Inv s'' ∧ c.Guar i s' s'' ∧ ∀ t, c.Rely i s'' t → c.Inv t → Q answer t) :
    c.Safe i (Program.request r) Q s :=
  h

theorem Safe.request_of_stable {Ans : Req → Type w} {c : Contract σ ι Req Ans} {r : Req} {P : σ → Prop}
    {Q : Ans r → σ → Prop} (hBefore : ∀ s s', c.Rely i s s' → P s → P s')
    (hAfter : ∀ a s s', c.Rely i s s' → Q a s → Q a s')
    (hTurn : ∀ s, c.Inv s → P s → ∀ answer s', c.Step i s r answer s' → c.Inv s' ∧ c.Guar i s s' ∧ Q answer s')
    (hStart : P s) : c.Safe i (Program.request r) Q s := by
  apply Safe.request
  intro t hTurns hInv answer t' hStep
  obtain ⟨hInv', hGuar, hQ⟩ := hTurn t hInv (hBefore s t hTurns hStart) answer t' hStep
  exact ⟨hInv', hGuar, fun u hTurns' _ => hAfter answer t' u hTurns' hQ⟩

section Failing

variable {ε : Type w}

/-- A program that may end with an error, of which nothing is asked but the contract. -/
def SafeOk (c : Contract σ ι Req Ans) (i : ι) (p : ExceptT ε (Program Req Ans) α) (Q : α → σ → Prop) (s : σ) : Prop :=
  c.Safe i p.run (fun result s => ∀ a, result = .ok a → Q a s) s

variable {p : ExceptT ε (Program Req Ans) α} {f : α → ExceptT ε (Program Req Ans) β}

theorem SafeOk.mono {Q' : α → σ → Prop} (h : c.SafeOk i p Q s) (hPost : ∀ a s, c.Inv s → Q a s → Q' a s) :
    c.SafeOk i p Q' s :=
  Safe.mono h fun _ s hInv hQ a hResult => hPost a s hInv (hQ a hResult)

theorem SafeOk.frame {R : σ → Prop} (hRely : ∀ s s', c.Rely i s s' → R s → R s')
    (hGuar : ∀ s s', c.Guar i s s' → R s → R s') (h : c.SafeOk i p Q s) (hR : R s) :
    c.SafeOk i p (fun a s => Q a s ∧ R s) s :=
  Safe.mono (Safe.frame hRely hGuar h hR) fun _ _ _ hPost a hResult => ⟨hPost.1 a hResult, hPost.2⟩

theorem SafeOk.pure {a : α} (h : ∀ s', c.Rely i s s' → c.Inv s' → Q a s') :
    c.SafeOk i (pure a : ExceptT ε (Program Req Ans) α) Q s := by
  intro t hTurns hInv b hb
  cases hb
  exact h t hTurns hInv

theorem SafeOk.throw {error : ε} : c.SafeOk i (throw error : ExceptT ε (Program Req Ans) α) Q s := by
  rintro t - - b ⟨⟩

theorem SafeOk.bind (h : c.SafeOk i p (fun a s => c.SafeOk i (f a) R s) s) : c.SafeOk i (p >>= f) R s := by
  apply Safe.bind
  apply Safe.mono h
  intro result t _ hResult
  cases result with
  | error error => exact SafeOk.throw
  | ok a => exact hResult a rfl

theorem SafeOk.andThen (h : c.SafeOk i p Q s) (hNext : ∀ a s, c.Inv s → Q a s → c.SafeOk i (f a) R s) :
    c.SafeOk i (p >>= f) R s :=
  SafeOk.bind (h.mono hNext)

theorem SafeOk.pureThen {a : α} (h : ∀ s', c.Rely i s s' → c.Inv s' → c.SafeOk i (f a) R s') :
    c.SafeOk i (Pure.pure a >>= f) R s :=
  SafeOk.bind (SafeOk.pure h)

end Failing

section Running

variable {calls calls' : ι → Option (Program Req Ans α)} {Q : ι → α → σ → Prop}

def Running (c : Contract σ ι Req Ans) (Q : ι → α → σ → Prop) (calls : ι → Option (Program Req Ans α)) (s : σ) : Prop :=
  c.Inv s ∧ ∀ i p, calls i = some p → c.Safe i p (Q i) s

theorem Running.turn (h : c.Running Q calls s) {r : Req} {next : Ans r → Program Req Ans α} {answer : Ans r}
    (hCall : calls i = some (.ask r next)) (hStep : c.Step i s r answer s') (hSelf : calls' i = some (next answer))
    (hOthers : ∀ j, j ≠ i → calls' j = calls j) : c.Running Q calls' s' ∧ c.Guar i s s' := by
  obtain ⟨hInv', hGuar, hNext⟩ := h.2 i _ hCall s (c.rely_refl i s) h.1 answer s' hStep
  refine ⟨⟨hInv', ?_⟩, hGuar⟩
  intro j p hp
  by_cases hij : j = i
  · subst hij
    obtain rfl : next answer = p := by simpa [hSelf] using hp
    exact hNext
  · rw [hOthers j hij] at hp
    exact (h.2 j p hp).rely (c.guar_rely (Ne.symm hij) hGuar)

theorem Running.value (h : c.Running Q calls s) {a : α} (hCall : calls i = some (.done a)) : Q i a s :=
  h.2 i _ hCall s (c.rely_refl i s) h.1

theorem Running.change (h : c.Running Q calls s) (hInv : c.Inv s')
    (hCalls : ∀ j p, calls' j = some p → (calls j = some p ∧ c.Rely j s s') ∨ c.Safe j p (Q j) s') :
    c.Running Q calls' s' := by
  refine ⟨hInv, ?_⟩
  intro j p hp
  rcases hCalls j p hp with ⟨hOld, hRely⟩ | hNew
  · exact (h.2 j p hOld).rely hRely
  · exact hNew

end Running

end Contract

end Raiko2.Lib
