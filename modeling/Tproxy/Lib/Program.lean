import Mathlib.Logic.Function.Basic

namespace Tproxy

/-- Why a program stops before its end: it used what it does not hold, or it
waits for an answer that is not there yet. -/
inductive Stop
  | fault
  | unanswered
deriving DecidableEq

/-- Programs over a state that may stop. -/
abbrev Program (σ : Type) : Type → Type := StateT σ (Except Stop)

namespace Program
variable {σ α β : Type} {m : Program σ α} {s t : σ} {Q R : α → σ → Prop}

def fault : Program σ α := fun _ => .error .fault

def unanswered : Program σ α := fun _ => .error .unanswered

/-- From `s` the program does not fault, and if it ends then as `Q` says. -/
def Meets (m : Program σ α) (s : σ) (Q : α → σ → Prop) : Prop :=
  match m s with
  | .ok (a, t) => Q a t
  | .error .unanswered => True
  | .error .fault => False

theorem Meets.mono (meets : m.Meets s Q) (weaker : ∀ a t, Q a t → R a t) : m.Meets s R := by
  unfold Meets at meets ⊢
  split at meets
  · exact weaker _ _ meets
  · trivial
  · exact meets

theorem Meets.not_fault (meets : m.Meets s Q) : m s ≠ .error .fault := by
  intro stopped
  rw [Meets, stopped] at meets
  exact meets

theorem Meets.result {a : α} (meets : m.Meets s Q) (ends : m s = .ok (a, t)) : Q a t := by
  rw [Meets, ends] at meets
  exact meets

theorem meets_of_run {a : α} (ends : m s = .ok (a, t)) (holds : Q a t) : m.Meets s Q := by
  rw [Meets, ends]
  exact holds

theorem meets_unanswered : (unanswered : Program σ α).Meets s Q := trivial

theorem bind_run {a : α} {f : α → Program σ β} (ends : m s = .ok (a, t)) : (m >>= f) s = f a t := by
  change (m s >>= fun p => f p.1 p.2) = _
  rw [ends]
  rfl

/-- One program after the other. -/
theorem meets_bind {f : α → Program σ β} {Q : β → σ → Prop} :
    (m >>= f).Meets s Q ↔ m.Meets s fun a t => (f a).Meets t Q := by
  have run : (m >>= f) s = match m s with
      | .ok (a, t) => f a t
      | .error stop => .error stop := by
    change (m s >>= fun p => f p.1 p.2) = _
    cases m s <;> rfl
  rw [Meets, Meets, run]
  cases m s with
  | error stop => cases stop <;> exact Iff.rfl
  | ok result => exact Iff.rfl

theorem Meets.bind {f : α → Program σ β} {Q' : β → σ → Prop} (first : m.Meets s Q)
    (then_ : ∀ a t, Q a t → (f a).Meets t Q') : (m >>= f).Meets s Q' :=
  meets_bind.mpr (first.mono then_)

section Yields

/-- From `s` the program ends, and then as `Q` says. -/
def Yields (m : Program σ α) (s : σ) (Q : α → σ → Prop) : Prop := ∃ a t, m s = .ok (a, t) ∧ Q a t

theorem Yields.mono (yields : m.Yields s Q) (weaker : ∀ a t, Q a t → R a t) : m.Yields s R := by
  obtain ⟨a, t, ends, holds⟩ := yields
  exact ⟨a, t, ends, weaker a t holds⟩

theorem yields_pure {a : α} (holds : Q a s) : (pure a : Program σ α).Yields s Q := ⟨a, s, rfl, holds⟩

theorem Yields.bind {f : α → Program σ β} {Q' : β → σ → Prop} (first : m.Yields s Q)
    (then_ : ∀ a t, Q a t → (f a).Yields t Q') : (m >>= f).Yields s Q' := by
  obtain ⟨a, t, ends, holds⟩ := first
  obtain ⟨b, u, ends', holds'⟩ := then_ a t holds
  refine ⟨b, u, ?_, holds'⟩
  change (m s >>= fun p => f p.1 p.2) = _
  rw [ends]
  exact ends'

theorem yields_get_bind {f : σ → Program σ β} {Q : β → σ → Prop} (rest : (f s).Yields s Q) :
    (get >>= f).Yields s Q := rest

theorem yields_set_bind {f : PUnit → Program σ β} {Q : β → σ → Prop} (rest : (f ⟨⟩).Yields t Q) :
    (set t >>= f).Yields s Q := rest

end Yields

section Keeps
variable {κ : Type} {part : σ → κ}

/-- If the program ends from `s`, a part of the state is as before. -/
def Keeps (m : Program σ α) (part : σ → κ) (s : σ) : Prop := ∀ a t, m s = .ok (a, t) → part t = part s

theorem keeps_pure {a : α} : (pure a : Program σ α).Keeps part s := by
  intro b t ends
  cases ends
  rfl

theorem keeps_fault : (fault : Program σ α).Keeps part s := nofun

theorem keeps_ite {c : Prop} [Decidable c] {m' : Program σ α} (yes : m.Keeps part s)
    (no : m'.Keeps part s) : (if c then m else m').Keeps part s := by
  split
  · exact yes
  · exact no

theorem Keeps.bind {f : α → Program σ β} (first : m.Keeps part s)
    (then_ : ∀ a t, (f a).Keeps part t) : (m >>= f).Keeps part s := by
  intro b u ends
  cases run : m s with
  | error stop =>
    change (m s >>= fun p => f p.1 p.2) = _ at ends
    rw [run] at ends
    cases ends
  | ok result =>
    obtain ⟨a, t⟩ := result
    rw [bind_run run] at ends
    exact (then_ a t b u ends).trans (first a t run)

theorem keeps_get_bind {f : σ → Program σ β} (rest : (f s).Keeps part s) :
    (get >>= f).Keeps part s := rest

theorem keeps_set_bind {f : PUnit → Program σ β} (same : part t = part s) (rest : (f ⟨⟩).Keeps part t) :
    (set t >>= f).Keeps part s := fun b u ends => (rest b u ends).trans same

end Keeps

end Program

end Tproxy
