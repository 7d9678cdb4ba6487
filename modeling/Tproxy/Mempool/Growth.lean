import Mathlib.Data.List.Nodup
import Tproxy.Lib.LinkedChain
import Tproxy.Mempool.Pool

namespace Tproxy

variable {totalSize freeList curr n x : Nat} {mem : Nat → BlockHeader}

/-- The header addresses of `n` consecutive blocks from `curr`. -/
def blockAddrs (totalSize : Nat) : Nat → Nat → List Nat
  | 0, _ => []
  | n + 1, curr => curr :: blockAddrs totalSize n (curr + totalSize)

@[simp] theorem blockAddrs_length : (blockAddrs totalSize n curr).length = n := by
  induction n generalizing curr with
  | zero => rfl
  | succ n ih => simp only [blockAddrs, List.length_cons, ih]

theorem mem_blockAddrs : x ∈ blockAddrs totalSize n curr ↔ ∃ i < n, x = curr + i * totalSize := by
  induction n generalizing curr with
  | zero => simp [blockAddrs]
  | succ n ih =>
    simp only [blockAddrs, List.mem_cons, ih]
    constructor
    · rintro (rfl | ⟨i, bound, rfl⟩)
      · exact ⟨0, by omega, by omega⟩
      · exact ⟨i + 1, by omega, by rw [Nat.succ_mul]; omega⟩
    · rintro ⟨i, bound, rfl⟩
      cases i with
      | zero => exact Or.inl (by omega)
      | succ i => exact Or.inr ⟨i, by omega, by rw [Nat.succ_mul]; omega⟩

theorem blockAddrs_ge (member : x ∈ blockAddrs totalSize n curr) : curr ≤ x := by
  obtain ⟨i, _, rfl⟩ := mem_blockAddrs.mp member
  omega

theorem blockAddrs_end (member : x ∈ blockAddrs totalSize n curr) :
    x + totalSize ≤ curr + n * totalSize := by
  obtain ⟨i, bound, rfl⟩ := mem_blockAddrs.mp member
  have step : (i + 1) * totalSize ≤ n * totalSize := Nat.mul_le_mul_right _ bound
  rw [Nat.succ_mul] at step
  omega

/-- Two blocks of one slab are the same or a whole stride apart. -/
theorem blockAddrs_apart {y : Nat} (atX : x ∈ blockAddrs totalSize n curr)
    (atY : y ∈ blockAddrs totalSize n curr) (differ : x ≠ y) :
    x + totalSize ≤ y ∨ y + totalSize ≤ x := by
  obtain ⟨i, _, rfl⟩ := mem_blockAddrs.mp atX
  obtain ⟨j, _, rfl⟩ := mem_blockAddrs.mp atY
  rcases Nat.lt_trichotomy i j with less | same | less
  · have step : (i + 1) * totalSize ≤ j * totalSize := Nat.mul_le_mul_right _ less
    rw [Nat.succ_mul] at step
    omega
  · exact absurd (by rw [same]) differ
  · have step : (j + 1) * totalSize ≤ i * totalSize := Nat.mul_le_mul_right _ less
    rw [Nat.succ_mul] at step
    omega

theorem blockAddrs_nodup (positive : 0 < totalSize) : (blockAddrs totalSize n curr).Nodup := by
  induction n generalizing curr with
  | zero => exact List.nodup_nil
  | succ n ih =>
    refine List.nodup_cons.mpr ⟨fun member => ?_, ih⟩
    have later := blockAddrs_ge member
    omega

/-- An address is a block of a slab exactly when it lies in the slab's block
area at a multiple of the stride, which is what the code computes. -/
theorem mem_blockAddrs_iff_dvd (positive : 0 < totalSize) :
    x ∈ blockAddrs totalSize n curr ↔
      (curr ≤ x ∧ x < curr + n * totalSize) ∧ (x - curr) % totalSize = 0 := by
  rw [mem_blockAddrs]
  constructor
  · rintro ⟨i, bound, rfl⟩
    have step : (i + 1) * totalSize ≤ n * totalSize := Nat.mul_le_mul_right _ bound
    rw [Nat.succ_mul] at step
    refine ⟨⟨by omega, by omega⟩, ?_⟩
    rw [Nat.add_sub_cancel_left, Nat.mul_mod_left]
  · rintro ⟨⟨lower, upper⟩, aligned⟩
    obtain ⟨i, quotient⟩ := Nat.dvd_of_mod_eq_zero aligned
    refine ⟨i, ?_, by rw [Nat.mul_comm i, ← quotient]; omega⟩
    by_contra beyond
    have step : n * totalSize ≤ i * totalSize := Nat.mul_le_mul_right _ (by omega)
    rw [Nat.mul_comm i, ← quotient] at step
    omega

theorem linkBlocks_other (outside : x ∉ blockAddrs totalSize n curr) :
    linkBlocks totalSize freeList n curr mem x = mem x := by
  induction n generalizing curr mem with
  | zero => rfl
  | succ n ih =>
    simp only [blockAddrs, List.mem_cons, not_or] at outside
    simp only [linkBlocks]
    rw [ih outside.2, Function.update_of_ne outside.1]

theorem linkBlocks_head (positive : 0 < totalSize) :
    linkBlocks totalSize freeList (n + 1) curr mem curr =
      ⟨mempoolMagicFree, if n ≠ 0 then curr + totalSize else freeList⟩ := by
  simp only [linkBlocks]
  rw [linkBlocks_other, Function.update_self]
  intro member
  have later := blockAddrs_ge member
  omega

theorem linkBlocks_magic (positive : 0 < totalSize) (member : x ∈ blockAddrs totalSize n curr) :
    (linkBlocks totalSize freeList n curr mem x).magic = mempoolMagicFree := by
  induction n generalizing curr mem with
  | zero => simp [blockAddrs] at member
  | succ n ih =>
    rcases List.mem_cons.mp member with rfl | later
    · rw [linkBlocks_head positive]
    · simp only [linkBlocks]
      exact ih later

/-- The new blocks are linked in address order in front of the old list. -/
theorem linkBlocks_chain (positive : 0 < totalSize) (nonnull : 0 < curr) {old : List Nat}
    (chain : LinkedChain (fun h => (mem h).nextFree) 0 freeList old)
    (fresh : ∀ x ∈ old, x ∉ blockAddrs totalSize (n + 1) curr) :
    LinkedChain (fun h => (linkBlocks totalSize freeList (n + 1) curr mem h).nextFree) 0 curr
      (blockAddrs totalSize (n + 1) curr ++ old) := by
  induction n generalizing curr mem with
  | zero =>
    refine ⟨rfl, by omega, ?_⟩
    simp only [linkBlocks_head positive, ne_eq, not_true, if_false, blockAddrs]
    exact chain.congr fun x member => by rw [linkBlocks_other (fresh x member)]
  | succ n ih =>
    refine ⟨rfl, by omega, ?_⟩
    have ahead : ∀ x ∈ old, x ≠ curr ∧ x ∉ blockAddrs totalSize (n + 1) (curr + totalSize) := by
      intro x member
      have outside := fresh x member
      rw [blockAddrs] at outside
      simpa only [List.mem_cons, not_or] using outside
    simp only [linkBlocks_head positive, ne_eq, Nat.succ_ne_zero, not_false_eq_true, if_true]
    rw [linkBlocks]
    refine ih (by omega) (chain.congr fun x member => ?_) fun x member => (ahead x member).2
    rw [Function.update_of_ne (ahead x member).1]

end Tproxy
