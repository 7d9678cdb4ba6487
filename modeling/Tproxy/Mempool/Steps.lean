import Tproxy.Mempool.Invariant

namespace Tproxy

variable {p q : MemoryPool} {held : List Nat} {slabRaw : Option Nat} {n : Nat}

theorem expandPoolBatch_cases (p : MemoryPool) (slabRaw : Option Nat) (n : Nat) :
    expandPoolBatch slabRaw p n = (p, 0) ∨
      ∃ a ∈ slabRaw, 0 < n ∧ expandPoolBatch slabRaw p n = (attachSlab p a n, n) := by
  unfold expandPoolBatch
  split
  · exact Or.inl rfl
  · split
    · exact Or.inl rfl
    · cases slabRaw with
      | none => exact Or.inl rfl
      | some a => exact Or.inr ⟨a, rfl, by omega, rfl⟩

/-- A slab that the system placed is never refused by the overflow check. -/
theorem expandPoolBatch_succeeds {a : Nat} (positive : 0 < n)
    (places : SystemPlaces p n (some a)) :
    expandPoolBatch (some a) p n = (attachSlab p a n, n) := by
  have limit := (places a rfl).2.1
  simp only [MempoolSlab.limit, cachelineSize] at limit
  have fits : n ≤ (sizeMax - cachelineSize) / p.totalSize := by
    rw [Nat.le_div_iff_mul_le p.totalSize_pos]
    simp only [sizeMax, cachelineSize]
    omega
  simp only [expandPoolBatch, show ¬n = 0 by omega, if_false, Nat.not_lt.mpr fits]

theorem attachSlab_blocks (p : MemoryPool) (a n : Nat) :
    (attachSlab p a n).blocks = blockAddrs p.totalSize n (a + cachelineSize) ++ p.blocks := rfl

/-- New blocks are disjoint from every block the pool already has. -/
theorem SystemPlaces.fresh_blocks {a : Nat} (places : SystemPlaces p n (some a)) {h : Nat}
    (member : h ∈ p.blocks) : h ∉ blockAddrs p.totalSize n (a + cachelineSize) := by
  intro inNew
  obtain ⟨s, atS, inS⟩ := MemoryPool.mem_blocks.mp member
  exact blockAddrs_disjoint p.totalSize_pos ((places a rfl).2.2 s atS) inNew inS

theorem MempoolInv.attach {a : Nat} (inv : MempoolInv p held) (positive : 0 < n)
    (room : p.poolBlocks + n ≤ p.maxBlocks) (places : SystemPlaces p n (some a)) :
    MempoolInv (attachSlab p a n) held := by
  obtain ⟨free, blocks⟩ := inv.free
  obtain ⟨nonnull, limit, apart⟩ := places a rfl
  have others : ∀ h ∈ p.blocks, (attachSlab p a n).mem h = p.mem h := fun h member =>
    linkBlocks_other (places.fresh_blocks member)
  have inBlocks : ∀ h ∈ free, h ∈ p.blocks := fun h member =>
    blocks.covers.mem_iff.mp (List.mem_append_left held member)
  refine
    { stride := inv.stride
      placed := List.forall_mem_cons.mpr ⟨⟨nonnull, limit⟩, inv.placed⟩
      apart := List.pairwise_cons.mpr ⟨apart, inv.apart⟩
      cached := fun s listed => List.mem_cons_of_mem _ (inv.cached s listed)
      free := ⟨blockAddrs p.totalSize n (a + cachelineSize) ++ free, ?_⟩
      magic := fun h member =>
        (congrArg BlockHeader.magic (others h (inv.held_blocks member))).trans (inv.magic h member)
      counted := ?_
      bounded := room }
  · refine { chain := ?_, covers := ?_, magic := ?_, count := ?_ }
    · obtain ⟨m, rfl⟩ := Nat.exists_eq_succ_of_ne_zero (by omega : n ≠ 0)
      exact linkBlocks_chain p.totalSize_pos (by simp only [cachelineSize]; omega) blocks.chain
        fun h member => places.fresh_blocks (inBlocks h member)
    · rw [attachSlab_blocks, List.append_assoc]
      exact List.Perm.append_left _ blocks.covers
    · intro h member
      rcases List.mem_append.mp member with new | old
      · exact linkBlocks_magic p.totalSize_pos new
      · exact (congrArg BlockHeader.magic (others h (inBlocks h old))).trans (blocks.magic h old)
    · simp only [attachSlab, List.length_append, blockAddrs_length, blocks.count]
      omega
  · rw [attachSlab_blocks, List.length_append, blockAddrs_length, ← inv.counted]
    exact Nat.add_comm _ _

/-- The batch that `mempool_alloc_sized` asks for when it grows the pool. -/
def MemoryPool.batch (p : MemoryPool) : Nat :=
  min expandBatchSize (p.maxBlocks - p.poolBlocks)

/-- Reserving keeps the invariant and the pool's parameters. It leaves the
free list empty only when the pool is at its maximum or the system refuses. -/
theorem MempoolInv.reserve (inv : MempoolInv p held) (places : SystemPlaces p p.batch slabRaw) :
    MempoolInv (mempoolReserve slabRaw p) held ∧
      (mempoolReserve slabRaw p).blockSize = p.blockSize ∧
      (mempoolReserve slabRaw p).maxBlocks = p.maxBlocks ∧
      ((mempoolReserve slabRaw p).freeList = 0 → p.poolBlocks < p.maxBlocks → slabRaw = none) := by
  unfold mempoolReserve
  split
  · rename_i empty
    have positive : 0 < p.batch := by
      simp only [MemoryPool.batch, expandBatchSize]
      omega
    have room : p.poolBlocks + p.batch ≤ p.maxBlocks := by
      simp only [MemoryPool.batch]
      omega
    change MempoolInv (expandPoolBatch slabRaw p p.batch).1 held ∧ _
    cases slabRaw with
    | none =>
      rcases expandPoolBatch_cases p none p.batch with same | ⟨a, listed, _⟩
      · rw [MemoryPool.batch] at same
        rw [MemoryPool.batch, same]
        exact ⟨inv, rfl, rfl, fun _ _ => rfl⟩
      · cases listed
    | some a =>
      have grown := expandPoolBatch_succeeds positive places
      rw [MemoryPool.batch] at grown
      rw [MemoryPool.batch, grown]
      refine ⟨inv.attach positive room places, rfl, rfl, fun null _ => ?_⟩
      simp only [attachSlab, cachelineSize] at null
      omega
  · rename_i nonempty
    exact ⟨inv, rfl, rfl, fun null below => absurd ⟨null, below⟩ nonempty⟩

end Tproxy
