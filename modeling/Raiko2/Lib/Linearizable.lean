import Mathlib.Algebra.BigOperators.Group.Finset.Piecewise

/-!
# Linearizable histories

A history is what clients see of their calls: when each was made and when and how it was answered. It is linearizable
if acts on an object can be put between a call and its answer such that all acts one after the other are legal for the
object and the acts of a call explain its answer.
-/

namespace Raiko2.Lib

open List

inductive Moment (ι Op Res Act : Type) where
  | invoke (i : ι) (op : Op)
  | act (i : ι) (a : Act)
  | response (i : ι) (res : Res)
  deriving DecidableEq

namespace Moment

variable {ι Op Res Act : Type}

def call : Moment ι Op Res Act → ι
  | invoke i _ | act i _ | response i _ => i

def isVisible : Moment ι Op Res Act → Bool
  | act _ _ => false
  | _ => true

def anyAct : Moment ι Op Res Act → Option Act
  | act _ a => some a
  | _ => none

def actOf [DecidableEq ι] (i : ι) : Moment ι Op Res Act → Option Act
  | act j a => if j = i then some a else none
  | _ => none

end Moment

/-- An object, and what its calls may do. -/
structure Specification (Op Res Act σ : Type) where
  init : σ
  apply : σ → Act → Option σ
  isEffect : Act → Bool
  /-- The acts that an answer stands for. -/
  Core : Op → Res → List Act → Prop
  /-- The effects of a call without an answer. -/
  Unfinished : Op → List Act → Prop

section Histories

variable {ι Op Res Act σ : Type} [DecidableEq ι] (spec : Specification Op Res Act σ)

def acts (log : List (Moment ι Op Res Act)) : List Act := log.filterMap Moment.anyAct

def actsOf (i : ι) (log : List (Moment ι Op Res Act)) : List Act := log.filterMap (Moment.actOf i)

def Specification.after : σ → List Act → Option σ
  | s, [] => some s
  | s, a :: rest => (spec.apply s a).bind fun s => Specification.after s rest

def Specification.Explains (op : Op) (res : Res) (done : List Act) : Prop :=
  ∃ core, spec.Core op res core ∧ core.Sublist done ∧ core.filter spec.isEffect = done.filter spec.isEffect

structure Explained (log : List (Moment ι Op Res Act)) : Prop where
  legal : (spec.after spec.init (acts log)).isSome = true
  invoked : ∀ before later i op, log = before ++ .invoke i op :: later →
    (∀ op', .invoke i op' ∉ before) ∧ (∀ res, .response i res ∉ before) ∧ actsOf i before = []
  inside : ∀ before later i a, log = before ++ .act i a :: later →
    (∃ op, .invoke i op ∈ before) ∧ ∀ res, .response i res ∉ before
  answered : ∀ before later i res, log = before ++ .response i res :: later →
    (∀ res', .response i res' ∉ before) ∧ ∃ op, .invoke i op ∈ before ∧ spec.Explains op res (actsOf i before)
  unanswered : ∀ i op, .invoke i op ∈ log → (∀ res, .response i res ∉ log) →
    spec.Unfinished op ((actsOf i log).filter spec.isEffect)

def Linearizable (history : List (Moment ι Op Res Act)) : Prop :=
  ∃ log, log.filter Moment.isVisible = history ∧ Explained spec log

end Histories

section Growing

variable {ι Op Res Act σ : Type} {spec : Specification Op Res Act σ} {log : List (Moment ι Op Res Act)} {i : ι} {op : Op}

theorem acts_concat (m : Moment ι Op Res Act) : acts (log ++ [m]) = acts log ++ m.anyAct.toList := by
  rw [acts, filterMap_append]
  cases m <;> rfl

theorem Specification.after_append (s : σ) (done more : List Act) :
    spec.after s (done ++ more) = (spec.after s done).bind fun s => spec.after s more := by
  induction done generalizing s with
  | nil => rfl
  | cons a done ih => simp only [cons_append, Specification.after, ih, Option.bind_assoc]

theorem append_singleton_eq_append_cons {α : Type} {xs before later : List α} {m x : α}
    (h : xs ++ [m] = before ++ x :: later) :
    (later = [] ∧ x = m ∧ before = xs) ∨ ∃ later', later = later' ++ [m] ∧ xs = before ++ x :: later' := by
  rcases eq_nil_or_concat later with rfl | ⟨later', last, rfl⟩
  · left
    obtain ⟨rfl, hLast⟩ := append_inj' h rfl
    exact ⟨rfl, (singleton_inj.mp hLast).symm, rfl⟩
  · right
    rw [concat_eq_append, ← cons_append, ← append_assoc] at h
    obtain ⟨rfl, hLast⟩ := append_inj' h rfl
    rw [concat_eq_append, singleton_inj.mp hLast]
    exact ⟨later', rfl, rfl⟩

structure Open (log : List (Moment ι Op Res Act)) (i : ι) (op : Op) : Prop where
  invoked : .invoke i op ∈ log
  only : ∀ op', .invoke i op' ∈ log → op' = op
  unanswered : ∀ res, .response i res ∉ log

theorem Open.append {more : List (Moment ι Op Res Act)} (h : Open log i op) (hMore : ∀ m ∈ more, m.call ≠ i) :
    Open (log ++ more) i op where
  invoked := mem_append_left more h.invoked
  only := by
    intro op' hInvoked
    rcases mem_append.mp hInvoked with hEarlier | hLater
    · exact h.only op' hEarlier
    · exact absurd rfl (hMore _ hLater)
  unanswered := by
    intro res hAnswered
    rcases mem_append.mp hAnswered with hEarlier | hLater
    · exact h.unanswered res hEarlier
    · exact hMore _ hLater rfl

theorem Open.acts (h : Open log i op) (j : ι) (done : List Act) : Open (log ++ done.map (.act j)) i op where
  invoked := mem_append_left _ h.invoked
  only := by
    intro op' hInvoked
    exact h.only op' (by simpa using hInvoked)
  unanswered := by
    intro res hAnswered
    exact h.unanswered res (by simpa using hAnswered)

variable [DecidableEq ι]

theorem actsOf_concat (m : Moment ι Op Res Act) : actsOf i (log ++ [m]) = actsOf i log ++ (m.actOf i).toList := by
  rw [actsOf, filterMap_append, filterMap_cons]
  cases m.actOf i <;> rfl

theorem actsOf_append_of_call_ne {more : List (Moment ι Op Res Act)} (hMore : ∀ m ∈ more, m.call ≠ i) :
    actsOf i (log ++ more) = actsOf i log := by
  have hNone : more.filterMap (Moment.actOf i) = [] := by
    rw [filterMap_eq_nil_iff]
    intro m hm
    cases m with
    | invoke j op => rfl
    | response j res => rfl
    | act j a => exact if_neg (hMore _ hm)
  rw [actsOf, filterMap_append, hNone, append_nil]
  rfl

theorem explained_nil (spec : Specification Op Res Act σ) : Explained spec ([] : List (Moment ι Op Res Act)) where
  legal := rfl
  invoked := by
    intro before later i op h
    simp at h
  inside := by
    intro before later i a h
    simp at h
  answered := by
    intro before later i res h
    simp at h
  unanswered := by rintro i op ⟨⟩

theorem Explained.concat (h : Explained spec log) {m : Moment ι Op Res Act}
    (hLegal : (spec.after spec.init (acts (log ++ [m]))).isSome = true)
    (hInvoked : ∀ j op, m = .invoke j op →
      (∀ op', .invoke j op' ∉ log) ∧ (∀ res, .response j res ∉ log) ∧ actsOf j log = [])
    (hInside : ∀ j a, m = .act j a → (∃ op, .invoke j op ∈ log) ∧ ∀ res, .response j res ∉ log)
    (hAnswered : ∀ j res, m = .response j res →
      (∀ res', .response j res' ∉ log) ∧ ∃ op, .invoke j op ∈ log ∧ spec.Explains op res (actsOf j log))
    (hUnanswered : ∀ j op, .invoke j op ∈ log ++ [m] → (∀ res, .response j res ∉ log ++ [m]) →
      spec.Unfinished op ((actsOf j (log ++ [m])).filter spec.isEffect)) : Explained spec (log ++ [m]) where
  legal := hLegal
  invoked := by
    intro before later j op hLog
    rcases append_singleton_eq_append_cons hLog with ⟨_, hEq, rfl⟩ | ⟨later', _, hLog'⟩
    · exact hInvoked j op hEq.symm
    · exact h.invoked before later' j op hLog'
  inside := by
    intro before later j a hLog
    rcases append_singleton_eq_append_cons hLog with ⟨_, hEq, rfl⟩ | ⟨later', _, hLog'⟩
    · exact hInside j a hEq.symm
    · exact h.inside before later' j a hLog'
  answered := by
    intro before later j res hLog
    rcases append_singleton_eq_append_cons hLog with ⟨_, hEq, rfl⟩ | ⟨later', _, hLog'⟩
    · exact hAnswered j res hEq.symm
    · exact h.answered before later' j res hLog'
  unanswered := hUnanswered

theorem Explained.invoke (h : Explained spec log) (hInvoke : ∀ op', .invoke i op' ∉ log)
    (hResponse : ∀ res, .response i res ∉ log) (hActs : actsOf i log = []) (hStart : spec.Unfinished op []) :
    Explained spec (log ++ [.invoke i op]) := by
  refine h.concat ?_ ?_ (by rintro _ _ ⟨⟩) (by rintro _ _ ⟨⟩) ?_
  · rw [acts_concat]
    exact (append_nil (acts log)).symm ▸ h.legal
  · rintro _ _ ⟨⟩
    exact ⟨hInvoke, hResponse, hActs⟩
  · intro j op' hInvoked hUnanswered
    have hSame : actsOf j (log ++ [.invoke i op]) = actsOf j log := (actsOf_concat _).trans (append_nil _)
    rw [hSame]
    rcases mem_append.mp hInvoked with hEarlier | hNow
    · exact h.unanswered j op' hEarlier fun res hRes => hUnanswered res (mem_append_left _ hRes)
    · cases mem_singleton.mp hNow
      rw [hActs]
      exact hStart

theorem Explained.act (h : Explained spec log) {a : Act} (hOpen : Open log i op)
    (hLegal : (spec.after spec.init (acts log ++ [a])).isSome = true)
    (hUnfinished : spec.Unfinished op ((actsOf i log ++ [a]).filter spec.isEffect)) :
    Explained spec (log ++ [.act i a]) := by
  refine h.concat ?_ (by rintro _ _ ⟨⟩) ?_ (by rintro _ _ ⟨⟩) ?_
  · rw [acts_concat]
    exact hLegal
  · rintro _ _ ⟨⟩
    exact ⟨⟨op, hOpen.invoked⟩, hOpen.unanswered⟩
  · intro j op' hInvoked hUnanswered
    have hInvoked' : .invoke j op' ∈ log := by simpa using hInvoked
    rw [actsOf_concat]
    by_cases hSame : i = j
    · subst hSame
      cases hOpen.only op' hInvoked'
      simpa only [Moment.actOf, if_true, Option.toList_some] using hUnfinished
    · simp only [Moment.actOf, if_neg hSame, Option.toList_none, append_nil]
      exact h.unanswered j op' hInvoked' fun res hRes => hUnanswered res (mem_append_left _ hRes)

theorem Explained.respond (h : Explained spec log) {res : Res} (hOpen : Open log i op)
    (hExplains : spec.Explains op res (actsOf i log)) : Explained spec (log ++ [.response i res]) := by
  refine h.concat ?_ (by rintro _ _ ⟨⟩) (by rintro _ _ ⟨⟩) ?_ ?_
  · rw [acts_concat]
    exact (append_nil (acts log)).symm ▸ h.legal
  · rintro _ _ ⟨⟩
    exact ⟨hOpen.unanswered, op, hOpen.invoked, hExplains⟩
  · intro j op' hInvoked hUnanswered
    have hInvoked' : .invoke j op' ∈ log := by simpa using hInvoked
    have hSame : actsOf j (log ++ [.response i res]) = actsOf j log := (actsOf_concat _).trans (append_nil _)
    rw [hSame]
    exact h.unanswered j op' hInvoked' fun res' hRes => hUnanswered res' (mem_append_left _ hRes)

end Growing

section Looking

variable {ι Op Res Act σ : Type} [DecidableEq ι] {spec : Specification Op Res Act σ}
  {log : List (Moment ι Op Res Act)} {i : ι}

theorem Explained.of_response (h : Explained spec log) {res : Res} (hResponse : .response i res ∈ log) :
    ∃ op, .invoke i op ∈ log ∧ spec.Explains op res (actsOf i log) := by
  obtain ⟨before, later, rfl⟩ := append_of_mem hResponse
  obtain ⟨-, op, hInvoked, hExplains⟩ := h.answered before later i res rfl
  have hLater : later.filterMap (Moment.actOf i) = [] := by
    rw [filterMap_eq_nil_iff]
    intro m hm
    cases m with
    | invoke j op => rfl
    | response j res => rfl
    | act j a =>
      rw [Moment.actOf, if_neg]
      rintro rfl
      obtain ⟨first, second, rfl⟩ := append_of_mem hm
      refine (h.inside (before ++ .response j res :: first) second j a (by simp)).2 res ?_
      exact mem_append_right before mem_cons_self
  refine ⟨op, mem_append_left _ hInvoked, ?_⟩
  have hActs : actsOf i (before ++ .response i res :: later) = actsOf i before := by
    rw [actsOf, filterMap_append]
    exact (congrArg (actsOf i before ++ ·) hLater).trans (append_nil _)
  rw [hActs]
  exact hExplains

theorem Explained.invoked_of_act (h : Explained spec log) {a : Act} (hAct : .act i a ∈ log) :
    ∃ op, .invoke i op ∈ log := by
  obtain ⟨before, later, rfl⟩ := append_of_mem hAct
  obtain ⟨op, hInvoked⟩ := (h.inside before later i a rfl).1
  exact ⟨op, mem_append_left _ hInvoked⟩

theorem countP_acts (p : Act → Bool) {ids : Finset ι} (hIds : ∀ i a, .act i a ∈ log → i ∈ ids) :
    (acts log).countP p = ∑ i ∈ ids, (actsOf i log).countP p := by
  induction log with
  | nil => simp [acts, actsOf]
  | cons m log ih =>
    have hRest := ih fun i a hAct => hIds i a (mem_cons_of_mem m hAct)
    cases m with
    | invoke j op => exact hRest
    | response j res => exact hRest
    | act j a =>
      have hOne : ∀ i, (actsOf i (.act j a :: log)).countP p =
          (actsOf i log).countP p + if i = j then countP p [a] else 0 := by
        intro i
        by_cases hi : i = j
        · simp [actsOf, Moment.actOf, hi, countP_cons]
        · simp [actsOf, Moment.actOf, hi, Ne.symm hi]
      have hAll : (acts (.act j a :: log)).countP p = (acts log).countP p + countP p [a] := by
        simp [acts, Moment.anyAct, countP_cons]
      rw [hAll, hRest, Finset.sum_congr rfl fun i _ => hOne i, Finset.sum_add_distrib, Finset.sum_ite_eq',
        if_pos (hIds j a mem_cons_self)]

end Looking

end Raiko2.Lib
