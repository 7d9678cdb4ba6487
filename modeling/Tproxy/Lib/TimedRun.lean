import Mathlib.Logic.Relation

namespace Tproxy

variable {State : Type*} {step : State → State → Prop} {now : State → Nat}
  {a b : State} {margin : Int}

/-- Something that holds for at least `margin` seconds, and whose margin every
step uses up by no more than the time it takes, holds in any run within the
margin. -/
theorem TimedRun.countdown (holds : Int → State → Prop)
    (run : Relation.ReflTransGen step a b) (start : holds margin a)
    (forward : ∀ {a b}, step a b → now a ≤ now b)
    (keeps : ∀ {a b margin}, step a b → holds margin a → (now b - now a : Nat) ≤ margin →
      holds (margin - (now b - now a : Nat)) b)
    (within : (now b - now a : Nat) ≤ margin) :
    now a ≤ now b ∧ holds (margin - (now b - now a : Nat)) b := by
  induction run with
  | refl =>
    rw [Nat.sub_self]
    exact ⟨Nat.le_refl _, (Int.sub_zero margin).symm ▸ start⟩
  | @tail b c _ last ih =>
    have later := forward last
    obtain ⟨before, held⟩ := ih (by omega)
    refine ⟨Nat.le_trans before later, ?_⟩
    have passed : margin - (now c - now a : Nat) =
        margin - (now b - now a : Nat) - (now c - now b : Nat) := by
      omega
    rw [passed]
    exact keeps last held (by omega)

end Tproxy
