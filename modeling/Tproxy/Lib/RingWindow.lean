import Mathlib.Logic.Function.Basic

/-!
A ring of the newest values.

A value is written at the head, which then moves on by one slot; a counter
says how many slots hold a value. Reading from `count` slots behind the head
gives the newest values, the oldest of them first.
-/

namespace Tproxy

variable {α : Type*} {size head count : Nat} {slots : Nat → α} {history : List α}

/-- The slot of the `i`-th of the `count` newest values, oldest first, in a
ring of `size` slots whose next value goes to `head`. -/
def ringSlot (size head count i : Nat) : Nat := (head + size - count + i) % size

/-- The `count` newest values of a ring, oldest first. -/
def ringVisit (size : Nat) (slots : Nat → α) (head count : Nat) : List α :=
  (List.range count).map fun i => slots (ringSlot size head count i)

/-- The ring holds the last values of `history`, as many as fit. -/
structure RingHolds (size : Nat) (slots : Nat → α) (head count : Nat) (history : List α) : Prop where
  head : head = history.length % size
  count : count = min history.length size
  slots : ∀ k (old : k < history.length), history.length ≤ k + size → slots (k % size) = history[k]

/-- Numbers less than `size` apart have different slots. -/
theorem eq_of_mod_eq {k n : Nat} (same : k % size = n % size) (le : k ≤ n) (near : n < k + size) :
    k = n := by
  have apart := Nat.sub_mod_eq_zero_of_mod_eq same.symm
  rw [Nat.mod_eq_of_lt (by omega)] at apart
  omega

theorem ringSlot_lt (pos : 0 < size) (head count i : Nat) : ringSlot size head count i < size :=
  Nat.mod_lt _ pos

theorem ringSlot_injective {i j : Nat} (fits : count ≤ size) (first : i < count) (second : j < count)
    (same : ringSlot size head count i = ringSlot size head count j) : i = j := by
  unfold ringSlot at same
  rcases Nat.le_total i j with le | le
  · have equal := eq_of_mod_eq same (by omega) (by omega)
    omega
  · have equal := eq_of_mod_eq same.symm (by omega) (by omega)
    omega

@[simp] theorem ringVisit_length : (ringVisit size slots head count).length = count := by
  rw [ringVisit, List.length_map, List.length_range]

/-- A new value in a visited slot shows at its place and nowhere else. -/
theorem ringVisit_update {i : Nat} (fits : count ≤ size) (visited : i < count) (x : α) :
    ringVisit size (Function.update slots (ringSlot size head count i) x) head count =
      (ringVisit size slots head count).set i x := by
  refine List.ext_getElem (by simp) fun j first second => ?_
  rw [ringVisit_length] at first
  rw [List.getElem_set]
  simp only [ringVisit, List.getElem_map, List.getElem_range]
  split
  · rename_i here
    rw [here, Function.update_self]
  · rename_i apart
    exact Function.update_of_ne (fun same => apart (ringSlot_injective fits visited first same.symm)) ..

theorem RingHolds.nil (slots : Nat → α) : RingHolds size slots 0 0 [] where
  head := (Nat.zero_mod size).symm
  count := (Nat.zero_min size).symm
  slots k old := absurd old (Nat.not_lt_zero k)

/-- A value written at `head` is the newest one. It replaces the oldest one of
a full ring. -/
theorem RingHolds.push (holds : RingHolds size slots head count history) (x : α) :
    RingHolds size (Function.update slots head x) ((head + 1) % size)
      (if count < size then count + 1 else count) (history ++ [x]) := by
  obtain ⟨rfl, rfl, kept⟩ := holds
  constructor
  · rw [Nat.mod_add_mod, List.length_append, List.length_singleton]
  · rw [List.length_append, List.length_singleton]
    split <;> omega
  · intro k old recent
    rw [List.length_append, List.length_singleton] at old recent
    rcases Nat.lt_succ_iff_lt_or_eq.mp old with before | rfl
    · have apart : k % size ≠ history.length % size := fun same => by
        have equal := eq_of_mod_eq same (Nat.le_of_lt before) (by omega)
        omega
      rw [Function.update_of_ne apart, kept k before (by omega), List.getElem_append_left before]
    · rw [Function.update_self, List.getElem_concat_length rfl]

theorem RingHolds.ringSlot_eq (holds : RingHolds size slots head count history) {i : Nat} :
    ringSlot size head count i = (history.length - count + i) % size := by
  have fits : count ≤ size := holds.count ▸ Nat.min_le_right ..
  have enough : count ≤ history.length := holds.count ▸ Nat.min_le_left ..
  calc ringSlot size head count i
    _ = (history.length % size + (size - count + i)) % size := by
      rw [ringSlot, holds.head]
      congr 1
      omega
    _ = (history.length - count + i + size) % size := by
      rw [Nat.mod_add_mod]
      congr 1
      omega
    _ = (history.length - count + i) % size := Nat.add_mod_right ..

/-- The values visited are the last ones of the history, in their order. -/
theorem RingHolds.visit (holds : RingHolds size slots head count history) :
    ringVisit size slots head count = history.drop (history.length - size) := by
  have counted := holds.count
  refine List.ext_getElem ?_ fun i first second => ?_
  · rw [ringVisit_length, List.length_drop]
    omega
  · rw [ringVisit_length] at first
    have start : history.length - count = history.length - size := by omega
    simp only [ringVisit, List.getElem_map, List.getElem_range, holds.ringSlot_eq, List.getElem_drop]
    simp only [start]
    exact holds.slots _ (by omega) (by omega)

end Tproxy
