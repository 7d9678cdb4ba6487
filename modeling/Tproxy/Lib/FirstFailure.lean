import Mathlib.Data.List.Basic

namespace Tproxy

variable {ε σ α β ι : Type} {P E : σ → Prop} {Q : α → σ → Prop} {R : β → σ → Prop}
  {m : EStateM ε σ α} {calls calls' : List (Option ε)}

/-- From every state with `P` the program stops at the first of its `calls` that fails,
with the error of that call and in a state with `E`, or it ends as `Q` says. -/
def FirstFailure (P : σ → Prop) (m : EStateM ε σ α) (calls : List (Option ε)) (Q : α → σ → Prop)
    (E : σ → Prop) : Prop :=
  ∀ s, P s → match calls.findSome? id with
    | none => ∃ a t, m s = .ok a t ∧ Q a t
    | some e => ∃ t, m s = .error e t ∧ E t

theorem firstFailure_pure {a : α} (holds : ∀ s, P s → Q a s) :
    FirstFailure P (pure a : EStateM ε σ α) [] Q E := fun s pre => ⟨a, s, rfl, holds s pre⟩

theorem firstFailure_modify {f : σ → σ} {Q : PUnit → σ → Prop} (holds : ∀ s, P s → Q ⟨⟩ (f s)) :
    FirstFailure P (modify f : EStateM ε σ PUnit) [] Q E := fun s pre => ⟨⟨⟩, f s, rfl, holds s pre⟩

theorem firstFailure_throw {e : ε} (stops : ∀ s, P s → E s) :
    FirstFailure P (throw e : EStateM ε σ α) [some e] Q E := fun s pre => ⟨s, rfl, stops s pre⟩

/-- One program after the other: the calls of the first come first. -/
theorem FirstFailure.bind {f : α → EStateM ε σ β} (first : FirstFailure P m calls Q E)
    (rest : ∀ a, FirstFailure (Q a) (f a) calls' R E) : FirstFailure P (m >>= f) (calls ++ calls') R E := by
  intro s holds
  have ends := first s holds
  rw [List.findSome?_append]
  cases failed : calls.findSome? id with
  | none =>
    rw [failed] at ends
    obtain ⟨a, t, run, after⟩ := ends
    have later := rest a t after
    have sequenced : (m >>= f) s = f a t := by
      change EStateM.bind m f s = _
      simp only [EStateM.bind, run]
    rw [sequenced]
    exact later
  | some e =>
    rw [failed] at ends
    obtain ⟨t, run, stopped⟩ := ends
    refine ⟨t, ?_, stopped⟩
    change EStateM.bind m f s = _
    simp only [EStateM.bind, run]

/-- A single call, or none, before the rest. -/
theorem FirstFailure.step {call : Option ε} {f : α → EStateM ε σ β} (first : FirstFailure P m [call] Q E)
    (rest : ∀ a, FirstFailure (Q a) (f a) calls R E) : FirstFailure P (m >>= f) (call :: calls) R E :=
  first.bind rest

theorem FirstFailure.silent {f : α → EStateM ε σ β} (first : FirstFailure P m [] Q E)
    (rest : ∀ a, FirstFailure (Q a) (f a) calls R E) : FirstFailure P (m >>= f) calls R E :=
  first.bind rest

theorem FirstFailure.ite {c : Prop} [Decidable c] {m' : EStateM ε σ α} (yes : c → FirstFailure P m calls Q E)
    (no : ¬ c → FirstFailure P m' calls' Q E) :
    FirstFailure P (if c then m else m') (if c then calls else calls') Q E := by
  split
  · exact yes ‹_›
  · exact no ‹_›

/-- A program that may be left out. -/
theorem FirstFailure.when {c : Prop} [Decidable c] {m : EStateM ε σ PUnit} {Q : PUnit → σ → Prop}
    (yes : c → FirstFailure P m calls Q E) (no : ¬ c → ∀ s, P s → Q ⟨⟩ s) :
    FirstFailure P (if c then m else pure ⟨⟩) (if c then calls else []) Q E :=
  FirstFailure.ite yes fun other => firstFailure_pure (no other)

/-- What is known before the program may be used to choose its rule. -/
theorem FirstFailure.given {c : Prop} (known : c → FirstFailure P m calls Q E) :
    FirstFailure (fun s => c ∧ P s) m calls Q E := fun s both => known both.1 s both.2

end Tproxy
