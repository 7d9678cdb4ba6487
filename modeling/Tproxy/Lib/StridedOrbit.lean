import Mathlib.Data.Finset.Card
import Mathlib.Data.Nat.ModEq
import Mathlib.Logic.Function.Iterate

/-!
An orbit that goes on by a fixed step modulo `n`.

When the step and `n` have no common divisor, the first `n` elements of the
orbit have each of the values below `n` once, from whatever value it starts.
-/

namespace Tproxy

variable {α : Type*} {next : α → α} {value : α → Nat} {step n : Nat} {start : α}

/-- The value goes on by `step` modulo `n`. -/
def StridesBy (next : α → α) (value : α → Nat) (step n : Nat) : Prop :=
  ∀ a, value (next a) = (value a + step) % n

theorem StridesBy.iterate (strides : StridesBy next value step n) (below : value start < n) (k : Nat) :
    value (next^[k] start) = (value start + k * step) % n := by
  induction k with
  | zero =>
    rw [Nat.zero_mul, Nat.add_zero, Nat.mod_eq_of_lt below]
    rfl
  | succ k ih =>
    rw [Function.iterate_succ_apply', strides, ih, Nat.mod_add_mod, Nat.succ_mul, Nat.add_assoc]

theorem StridesBy.lt (strides : StridesBy next value step n) (below : value start < n) (k : Nat) :
    value (next^[k] start) < n := by
  rw [strides.iterate below]
  exact Nat.mod_lt _ (Nat.zero_lt_of_lt below)

/-- A value does not come back within `n` steps. -/
theorem StridesBy.injective (strides : StridesBy next value step n) (coprime : n.Coprime step)
    (below : value start < n) {j k : Nat} (first : j < n) (second : k < n)
    (same : value (next^[j] start) = value (next^[k] start)) : j = k := by
  rw [strides.iterate below, strides.iterate below] at same
  have products : j * step ≡ k * step [MOD n] := Nat.ModEq.add_left_cancel' (value start) same
  have positions : j ≡ k [MOD n] := Nat.ModEq.cancel_right_of_coprime coprime products
  exact positions.eq_of_lt_of_lt first second

/-- Within `n` steps every value comes up: there are no more than `n` of them. -/
theorem StridesBy.surjective (strides : StridesBy next value step n) (coprime : n.Coprime step)
    (below : value start < n) {r : Nat} (bound : r < n) : ∃ k < n, value (next^[k] start) = r := by
  have inside : Set.MapsTo (fun k => value (next^[k] start)) (Finset.range n) (Finset.range n) :=
    fun k _ => Finset.mem_coe.mpr (Finset.mem_range.mpr (strides.lt below k))
  have apart : Set.InjOn (fun k => value (next^[k] start)) (Finset.range n) := by
    intro j first k second same
    simp only [Finset.coe_range, Set.mem_Iio] at first second
    exact strides.injective coprime below first second same
  have member : r ∈ (Finset.range n : Set Nat) := Finset.mem_coe.mpr (Finset.mem_range.mpr bound)
  obtain ⟨k, within, reaches⟩ := Finset.surjOn_of_injOn_of_card_le _ inside apart le_rfl member
  exact ⟨k, Finset.mem_range.mp (Finset.mem_coe.mp within), reaches⟩

theorem StridesBy.existsUnique (strides : StridesBy next value step n) (coprime : n.Coprime step)
    (below : value start < n) {r : Nat} (bound : r < n) :
    ∃! k, k < n ∧ value (next^[k] start) = r := by
  obtain ⟨k, inside, reaches⟩ := strides.surjective coprime below bound
  refine ⟨k, ⟨inside, reaches⟩, ?_⟩
  rintro j ⟨within, reached⟩
  exact strides.injective coprime below within inside (reached.trans reaches.symm)

end Tproxy
