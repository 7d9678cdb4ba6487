import Mathlib.Data.List.Basic
import Mathlib.Logic.Function.Basic

namespace Tproxy

/-- What happens to resources: they are made, used and given back. -/
inductive UseEvent (ρ : Type*)
  | made (r : ρ)
  | used (r : ρ)
  | gone (r : ρ)
deriving DecidableEq

variable {ρ : Type*} [DecidableEq ρ]

/-- Whether a resource is there after a log, which has the newest first. -/
def UseEvent.alive (r : ρ) : List (UseEvent ρ) → Bool
  | [] => false
  | .made r' :: log => r' = r || UseEvent.alive r log
  | .used _ :: log => UseEvent.alive r log
  | .gone r' :: log => r' ≠ r && UseEvent.alive r log

/-- Only what is not there is made, and only what is there is used or given back. -/
inductive UseLog : List (UseEvent ρ) → Prop
  | nil : UseLog []
  | made {log r} : UseLog log → UseEvent.alive r log = false → UseLog (.made r :: log)
  | used {log r} : UseLog log → UseEvent.alive r log = true → UseLog (.used r :: log)
  | gone {log r} : UseLog log → UseEvent.alive r log = true → UseLog (.gone r :: log)

/-- A log in order in which a resource is there as long as another one needs it. -/
inductive NeedLog (needs : ρ → ρ → Prop) : List (UseEvent ρ) → Prop
  | nil : NeedLog needs []
  | made {log r} : NeedLog needs log → UseEvent.alive r log = false →
      (∀ r', needs r r' → UseEvent.alive r' log = true) → NeedLog needs (.made r :: log)
  | used {log r} : NeedLog needs log → UseEvent.alive r log = true → NeedLog needs (.used r :: log)
  | gone {log r} : NeedLog needs log → UseEvent.alive r log = true →
      (∀ r', needs r' r → UseEvent.alive r' log = false) → NeedLog needs (.gone r :: log)

/-- The log is in order, and the resources that are there are those that are `held`. -/
structure Holding (needs : ρ → ρ → Prop) (log : List (UseEvent ρ)) (held : ρ → Bool) : Prop where
  order : NeedLog needs log
  alive : ∀ r, UseEvent.alive r log = held r

variable {log : List (UseEvent ρ)} {r r' : ρ}

@[simp] theorem UseEvent.alive_made :
    UseEvent.alive r (.made r' :: log) = (r' = r || UseEvent.alive r log) := rfl

@[simp] theorem UseEvent.alive_used :
    UseEvent.alive r (.used r' :: log) = UseEvent.alive r log := rfl

@[simp] theorem UseEvent.alive_gone :
    UseEvent.alive r (.gone r' :: log) = (r' ≠ r && UseEvent.alive r log) := rfl

/-- A resource is given back as often as it was made, unless it is still there. -/
theorem UseLog.balance (used : UseLog log) (r : ρ) :
    log.count (.made r) = log.count (.gone r) + if UseEvent.alive r log then 1 else 0 := by
  induction used with
  | nil => rfl
  | @made log r' _ absent ih =>
    by_cases same : r' = r
    · subst same
      simp only [absent, Bool.false_eq_true, if_false] at ih
      simp [ih]
    · simp [same, ih]
  | used _ _ ih =>
    rw [UseEvent.alive_used, List.count_cons_of_ne (by simp), List.count_cons_of_ne (by simp)]
    exact ih
  | @gone log r' _ alive ih =>
    by_cases same : r' = r
    · subst same
      simp only [alive, if_true] at ih
      simp [ih]
    · simp [same, ih]

section Needs

variable {needs : ρ → ρ → Prop} {held : ρ → Bool}

theorem NeedLog.useLog (order : NeedLog needs log) : UseLog log := by
  induction order with
  | nil => exact .nil
  | made _ absent _ ih => exact ih.made absent
  | used _ alive ih => exact ih.used alive
  | gone _ alive _ ih => exact ih.gone alive

theorem Holding.made (holding : Holding needs log held) (absent : held r = false)
    (ready : ∀ r', needs r r' → held r' = true) :
    Holding needs (.made r :: log) (Function.update held r true) where
  order := .made holding.order ((holding.alive r).trans absent) fun r' need =>
    (holding.alive r').trans (ready r' need)
  alive r' := by
    rw [UseEvent.alive_made, holding.alive]
    by_cases same : r = r'
    · subst same
      simp only [decide_true, Bool.true_or, Function.update_self]
    · simp only [same, decide_false, Bool.false_or, Function.update_of_ne (Ne.symm same)]

theorem Holding.used (holding : Holding needs log held) (present : held r = true) :
    Holding needs (.used r :: log) held where
  order := .used holding.order ((holding.alive r).trans present)
  alive := holding.alive

theorem Holding.gone (holding : Holding needs log held) (present : held r = true)
    (free : ∀ r', needs r' r → held r' = false) :
    Holding needs (.gone r :: log) (Function.update held r false) where
  order := .gone holding.order ((holding.alive r).trans present) fun r' need =>
    (holding.alive r').trans (free r' need)
  alive r' := by
    rw [UseEvent.alive_gone, holding.alive]
    by_cases same : r = r'
    · subst same
      simp only [ne_eq, not_true_eq_false, decide_false, Bool.false_and, Function.update_self]
    · simp only [ne_eq, same, not_false_eq_true, decide_true, Bool.true_and,
        Function.update_of_ne (Ne.symm same)]

/-- What a held resource needs is held, too. -/
theorem Holding.closed (holding : Holding needs log held)
    (need : needs r r') (present : held r = true) : held r' = true := by
  rw [← holding.alive] at present ⊢
  have order := holding.order
  clear holding
  induction order with
  | nil => cases present
  | @made log q _ _ ready ih =>
    simp only [UseEvent.alive_made, Bool.or_eq_true, decide_eq_true_eq] at present ⊢
    rcases present with rfl | present
    · exact Or.inr (ready r' need)
    · exact Or.inr (ih present)
  | used _ _ ih => exact ih present
  | @gone log q _ _ free ih =>
    simp only [UseEvent.alive_gone, Bool.and_eq_true, decide_eq_true_eq] at present ⊢
    refine ⟨?_, ih present.2⟩
    rintro rfl
    cases (free r need).symm.trans present.2

end Needs

end Tproxy
