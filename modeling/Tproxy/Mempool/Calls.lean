import Tproxy.Mempool.Steps

namespace Tproxy

variable {p q : MemoryPool} {held : List Nat} {slabRaw : Option Nat}

/-- Taking the first free block hands it over to the caller. -/
theorem MempoolInv.take_free (inv : MempoolInv p held) (nonempty : p.freeList ≠ 0) :
    p.freeList ∈ p.blocks ∧ p.freeList ∉ held ∧
      MempoolInv
        { p with
          freeList := (p.mem p.freeList).nextFree
          mem := Function.update p.mem p.freeList ⟨mempoolMagicPool, 0⟩
          freeCount := p.freeCount - 1
          poolAllocs := (p.poolAllocs + 1) % 2 ^ 64 } (p.freeList :: held) := by
  obtain ⟨free, blocks⟩ := inv.free
  have chain := blocks.chain
  cases free with
  | nil => exact absurd chain nonempty
  | cons h free =>
    obtain ⟨head, _, rest⟩ := chain
    obtain ⟨inBlocks, notHeld⟩ := (blocks.mem_iff inv.blocks_nodup).mp List.mem_cons_self
    have later : h ∉ free := (List.nodup_cons.mp blocks.chain.nodup).1
    rw [head]
    refine ⟨inBlocks, notHeld, { inv with free := ⟨free, ?_⟩, magic := ?_ }⟩
    · have other : ∀ k ∈ free, k ≠ h := fun k member same => later (same ▸ member)
      refine { chain := ?_, covers := ?_, magic := ?_, count := ?_ }
      · refine rest.congr fun k member => ?_
        simp only [Function.update_of_ne (other k member)]
      · exact List.perm_middle.trans blocks.covers
      · intro k member
        simp only [Function.update_of_ne (other k member)]
        exact blocks.magic k (List.mem_cons_of_mem h member)
      · simp only [blocks.count, List.length_cons, Nat.add_sub_cancel]
    · intro k member
      rcases List.mem_cons.mp member with rfl | old
      · simp only [Function.update_self]
      · have differ : k ≠ h := fun same => notHeld (same ▸ old)
        simp only [Function.update_of_ne differ]
        exact inv.magic k old

/-- A successful allocation returns the payload of a block that was not held. -/
theorem MempoolInv.alloc_some (inv : MempoolInv p held) (places : SystemPlaces p p.batch slabRaw)
    {size ptr : Nat} (run : mempoolAllocSized slabRaw p size = (q, some ptr)) :
    q.blockSize = p.blockSize ∧ q.maxBlocks = p.maxBlocks ∧ size ≤ p.blockSize ∧
      ∃ h, ptr = blockToData h ∧ h ∉ held ∧ MempoolInv q (h :: held) := by
  obtain ⟨reserved, sameSize, sameMax, _⟩ := inv.reserve places
  unfold mempoolAllocSized at run
  split at run
  · cases run
  · rename_i fits
    simp only at run
    split at run
    · rename_i nonempty
      cases run
      obtain ⟨_, notHeld, taken⟩ := reserved.take_free nonempty
      exact ⟨sameSize, sameMax, by omega, _, rfl, notHeld, taken⟩
    · cases run

/-- A failed allocation only counts the warning. A request that fits fails
only when every one of `maxBlocks` blocks is held, or when the pool turned to
the system and the system refused. -/
theorem MempoolInv.alloc_none (inv : MempoolInv p held) (places : SystemPlaces p p.batch slabRaw)
    {size : Nat} (run : mempoolAllocSized slabRaw p size = (q, none)) :
    q.blockSize = p.blockSize ∧ q.maxBlocks = p.maxBlocks ∧ MempoolInv q held ∧
      (size ≤ p.blockSize → p.freeList = 0 ∧ p.poolBlocks < p.maxBlocks ∧ slabRaw = none ∨
        held.length = p.maxBlocks) := by
  obtain ⟨reserved, sameSize, sameMax, grows⟩ := inv.reserve places
  unfold mempoolAllocSized at run
  split at run
  · rename_i big
    cases run
    exact ⟨rfl, rfl, inv, fun fits => absurd big (by omega)⟩
  · simp only at run
    split at run
    · cases run
    · rename_i empty
      cases run
      simp only [ne_eq, not_not] at empty
      refine ⟨sameSize, sameMax, ?_, fun _ => ?_⟩
      · obtain ⟨free, blocks⟩ := reserved.free
        exact { reserved with free := ⟨free, { blocks with }⟩ }
      · by_cases asked : p.freeList = 0 ∧ p.poolBlocks < p.maxBlocks
        · exact Or.inl ⟨asked.1, asked.2, grows empty asked.2⟩
        · right
          have kept : mempoolReserve slabRaw p = p := by
            unfold mempoolReserve
            rw [if_neg asked]
          rw [kept] at empty
          obtain ⟨free, blocks⟩ := inv.free
          have none := blocks.chain.head_nil_iff.mp empty
          subst none
          have all := blocks.covers.length_eq
          rw [List.nil_append, ← inv.counted] at all
          have bounded := inv.bounded
          have full : ¬ p.poolBlocks < p.maxBlocks := fun below => asked ⟨empty, below⟩
          omega

theorem verifyBoundary_iff (p : MemoryPool) (s : MempoolSlab) (h : Nat) :
    verifyBoundary p s h = true ↔
      h ∈ blockAddrs p.totalSize s.blockCount (s.addr + cachelineSize) := by
  rw [mem_blockAddrs_iff_dvd p.totalSize_pos]
  unfold verifyBoundary
  simp only
  split
  · rename_i inside
    simp only [decide_eq_true_eq, inside, true_and, and_self]
  · rename_i outside
    simp only [Bool.false_eq_true, false_iff]
    exact fun both => outside both.1

/-- Both paths of the boundary verification decide the same thing, whatever
the locality cache holds, and touch nothing but that cache. -/
theorem MempoolInv.locate (inv : MempoolInv p held) (h : Nat) :
    ∃ cache, (locateHeader p h).1 = { p with lastFreedSlab := cache } ∧
      (∀ s ∈ cache, s ∈ p.slabList) ∧ ((locateHeader p h).2 = true ↔ h ∈ p.blocks) := by
  have verified : ∀ s, verifyBoundary p s h = true ↔
      h ∈ blockAddrs p.totalSize s.blockCount (s.addr + cachelineSize) := fun s =>
    verifyBoundary_iff p s h
  unfold locateHeader
  split
  · rename_i hit
    refine ⟨p.lastFreedSlab, rfl, inv.cached, iff_of_true rfl ?_⟩
    cases cache : p.lastFreedSlab with
    | none => simp only [cache, Option.any_none, Bool.false_eq_true] at hit
    | some s =>
      simp only [cache, Option.any_some] at hit
      exact MemoryPool.mem_blocks.mpr ⟨s, inv.cached s cache, (verified s).mp hit⟩
  · cases found : p.slabList.find? (verifyBoundary p · h) with
    | some s =>
      have inside : verifyBoundary p s h = true := by
        simpa only using List.find?_some found
      have listed := List.mem_of_find?_eq_some found
      refine ⟨some s, rfl, ?_, iff_of_true rfl ?_⟩
      · intro t same
        cases same
        exact listed
      · exact MemoryPool.mem_blocks.mpr ⟨s, listed, (verified s).mp inside⟩
    | none =>
      refine ⟨p.lastFreedSlab, rfl, inv.cached, iff_of_false Bool.false_ne_true fun member => ?_⟩
      obtain ⟨s, listed, inside⟩ := MemoryPool.mem_blocks.mp member
      exact List.find?_eq_none.mp found s listed ((verified s).mpr inside)

/-- A payload address comes from its own header only. -/
theorem MempoolInv.dataToHeader_block (inv : MempoolInv p held) {ptr : Nat} (bound : ptr < 2 ^ 64)
    (member : dataToHeader ptr ∈ p.blocks) :
    ptr = blockToData (dataToHeader ptr) := by
  obtain ⟨_, limit⟩ := inv.block_bounds member
  have stride := inv.stride
  simp only [dataToHeader, blockToData, cachelineSize] at *
  omega

theorem MempoolInv.blockToData_block (inv : MempoolInv p held) {h : Nat} (member : h ∈ p.blocks) :
    blockToData h ≠ 0 ∧ blockToData h < 2 ^ 64 ∧ dataToHeader (blockToData h) = h := by
  obtain ⟨_, limit⟩ := inv.block_bounds member
  have stride := inv.stride
  simp only [dataToHeader, blockToData, cachelineSize] at *
  omega

/-- Freeing a held block puts it in front of the free list. -/
theorem MempoolInv.free_held (inv : MempoolInv p held) {h : Nat} (member : h ∈ held) :
    ∃ cache, internalFree p (blockToData h) =
        { p with
          lastFreedSlab := cache
          mem := Function.update p.mem h ⟨mempoolMagicFree, p.freeList⟩
          freeList := h
          freeCount := p.freeCount + 1
          poolFrees := (p.poolFrees + 1) % 2 ^ 64 } ∧
      MempoolInv (internalFree p (blockToData h)) (held.erase h) := by
  have inBlocks := inv.held_blocks member
  obtain ⟨nonnull, _, back⟩ := inv.blockToData_block inBlocks
  obtain ⟨cache, located, listed, verified⟩ := inv.locate h
  have live := inv.magic h member
  have distinct : mempoolMagicPool ≠ mempoolMagicFree := by decide
  have run : internalFree p (blockToData h) =
      { p with
        lastFreedSlab := cache
        mem := Function.update p.mem h ⟨mempoolMagicFree, p.freeList⟩
        freeList := h
        freeCount := p.freeCount + 1
        poolFrees := (p.poolFrees + 1) % 2 ^ 64 } := by
    simp only [internalFree, nonnull, if_false, back, located, verified.mpr inBlocks, live,
      distinct, ne_eq, not_true, Bool.true_eq_false]
  refine ⟨cache, run, ?_⟩
  rw [run]
  obtain ⟨free, blocks⟩ := inv.free
  have apart := (blocks.mem_iff inv.blocks_nodup (h := h)).not.mpr fun both => both.2 member
  have other : ∀ k ∈ free, k ≠ h := fun k inFree same => apart (same ▸ inFree)
  refine { inv with cached := listed, free := ⟨h :: free, ?_⟩, magic := ?_ }
  · refine { chain := ⟨rfl, ?_, ?_⟩, covers := ?_, magic := ?_, count := ?_ }
    · exact Nat.ne_of_gt (inv.block_bounds inBlocks).1
    · simp only [Function.update_self]
      refine blocks.chain.congr fun k inFree => ?_
      simp only [Function.update_of_ne (other k inFree)]
    · refine List.Perm.trans ?_ blocks.covers
      refine List.perm_middle.symm.trans (List.Perm.append_left free ?_)
      exact (List.perm_cons_erase member).symm
    · intro k inFree
      rcases List.mem_cons.mp inFree with rfl | old
      · simp only [Function.update_self]
      · simp only [Function.update_of_ne (other k old)]
        exact blocks.magic k old
    · simp only [blocks.count, List.length_cons]
  · intro k inHeld
    obtain ⟨differ, old⟩ := (inv.held_nodup.mem_erase_iff).mp inHeld
    simp only [Function.update_of_ne differ]
    exact inv.magic k old

/-- Freeing anything else changes at most the locality cache. -/
theorem MempoolInv.free_other (inv : MempoolInv p held) {ptr : Nat} (bound : ptr < 2 ^ 64)
    (other : ∀ h ∈ held, ptr ≠ blockToData h) :
    ∃ cache, internalFree p ptr = { p with lastFreedSlab := cache } ∧
      ∀ s ∈ cache, s ∈ p.slabList := by
  unfold internalFree
  split
  · exact ⟨p.lastFreedSlab, rfl, inv.cached⟩
  · obtain ⟨cache, located, listed, verified⟩ := inv.locate (dataToHeader ptr)
    refine ⟨cache, ?_, listed⟩
    simp only [located]
    split
    · rfl
    · rename_i passed
      have inBlocks := verified.mp (by simpa only [Bool.not_eq_false] using passed)
      have header := inv.dataToHeader_block bound inBlocks
      have free : (p.mem (dataToHeader ptr)).magic = mempoolMagicFree := by
        obtain ⟨free, blocks⟩ := inv.free
        refine blocks.magic _ ((blocks.mem_iff inv.blocks_nodup).mpr ⟨inBlocks, fun inHeld => ?_⟩)
        exact other _ inHeld header
      simp only [free, if_true]

end Tproxy
