import Mathlib.Data.List.Basic

namespace Tproxy

variable {α : Type*} {m : Nat → α} {off a n k : Nat} {xs : List α}

/-- The `n` cells of a buffer from `off` on. -/
def readAt (m : Nat → α) (off n : Nat) : List α := (List.range' off n).map m

/-- The buffer after `xs` was stored from `off` on. -/
def writeAt (m : Nat → α) (off : Nat) (xs : List α) : Nat → α := fun i =>
  if inside : off ≤ i ∧ i - off < xs.length then xs.get ⟨i - off, inside.2⟩ else m i

@[simp] theorem readAt_length : (readAt m off n).length = n := by
  rw [readAt, List.length_map, List.length_range']

@[simp] theorem readAt_zero : readAt m off 0 = [] := rfl

theorem readAt_getElem {i : Nat} (bound : i < (readAt m off n).length) :
    (readAt m off n)[i] = m (off + i) := by
  simp [readAt]

theorem readAt_add : readAt m off (n + k) = readAt m off n ++ readAt m (off + n) k := by
  rw [readAt, readAt, readAt, ← List.map_append, List.range'_append_1]

theorem readAt_take (bound : k ≤ n) : (readAt m off n).take k = readAt m off k := by
  obtain ⟨d, rfl⟩ := Nat.exists_eq_add_of_le bound
  rw [readAt_add, List.take_left' readAt_length]

theorem readAt_drop (bound : k ≤ n) : (readAt m off n).drop k = readAt m (off + k) (n - k) := by
  obtain ⟨d, rfl⟩ := Nat.exists_eq_add_of_le bound
  rw [readAt_add, List.drop_left' readAt_length, Nat.add_sub_cancel_left]

/-- A front part of a range that is followed by something. -/
theorem readAt_append_take (bound : k ≤ n) : (readAt m off n ++ xs).take k = readAt m off k := by
  rw [List.take_append_of_le_length (by rwa [readAt_length]), readAt_take bound]

theorem readAt_append_drop (bound : k ≤ n) :
    (readAt m off n ++ xs).drop k = readAt m (off + k) (n - k) ++ xs := by
  rw [List.drop_append_of_le_length (by rwa [readAt_length]), readAt_drop bound]

theorem le_length_readAt_append (bound : k ≤ n) : k ≤ (readAt m off n ++ xs).length := by
  rw [List.length_append, readAt_length]
  omega

theorem readAt_shift : readAt (fun i => m (a + i)) off n = readAt m (a + off) n := by
  refine List.ext_getElem (by rw [readAt_length, readAt_length]) fun i _ _ => ?_
  rw [readAt_getElem, readAt_getElem, Nat.add_assoc]

theorem readAt_writeAt_self : readAt (writeAt m off xs) off xs.length = xs := by
  refine List.ext_getElem readAt_length fun i _ bound => ?_
  rw [readAt_getElem, writeAt, dif_pos ⟨Nat.le_add_right off i, by omega⟩]
  simp only [Nat.add_sub_cancel_left, List.get_eq_getElem]

theorem readAt_writeAt_apart (apart : a + n ≤ off ∨ off + xs.length ≤ a) :
    readAt (writeAt m off xs) a n = readAt m a n := by
  refine List.ext_getElem (by rw [readAt_length, readAt_length]) fun i bound _ => ?_
  rw [readAt_length] at bound
  rw [readAt_getElem, readAt_getElem, writeAt, dif_neg (by omega)]

@[simp] theorem writeAt_nil : writeAt m off [] = m :=
  funext fun _ => dif_neg fun inside => Nat.not_lt_zero _ inside.2

/-- Storing behind a range extends it. -/
theorem readAt_writeAt_append :
    readAt (writeAt m (off + n) xs) off (n + xs.length) = readAt m off n ++ xs := by
  rw [readAt_add, readAt_writeAt_apart (Or.inl (Nat.le_refl _)), readAt_writeAt_self]

end Tproxy
