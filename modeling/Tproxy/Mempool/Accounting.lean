import Mathlib.Algebra.GroupWithZero.Nat
import Tproxy.Mempool.Safety

namespace Tproxy

/-- The two call counters are `size_t` values that differ by `n`, up to their
wrap-around. -/
def MemoryPool.Balanced (p : MemoryPool) (n : Nat) : Prop :=
  p.poolAllocs < 2 ^ 64 ∧ p.poolFrees < 2 ^ 64 ∧ p.poolAllocs = (p.poolFrees + n) % 2 ^ 64

/-- What the counters of a pool say while the payloads `live` are handed out
and the pool may grow to `limit` blocks. -/
structure PoolAccounted (p : MemoryPool) (live : List Nat) (limit : Nat) : Prop where
  freeCount : ∃ free, LinkedChain (fun h => (p.mem h).nextFree) 0 p.freeList free ∧
    p.freeCount = free.length
  slabs : p.poolBlocks = (p.slabList.map MempoolSlab.blockCount).sum
  bounded : p.poolBlocks ≤ limit
  calls : (p.poolAllocs + (2 ^ 64 - p.poolFrees)) % 2 ^ 64 = live.length
  blocks : p.freeCount ≤ p.poolBlocks ∧ p.poolBlocks - p.freeCount = live.length
  alloc : ∀ slab size, SystemPlaces p p.batch (some slab) → size ≤ p.blockSize →
    ((mempoolAllocSized (some slab) p size).2 = none ↔ live.length = limit)
  destroy : mempoolDestroy p = live.length

variable {p q : MemoryPool} {held live : List Nat} {slabRaw : Option Nat} {n : Nat}

theorem MemoryPool.Balanced.difference (balanced : p.Balanced n) (small : n < 2 ^ 64) :
    (p.poolAllocs + (2 ^ 64 - p.poolFrees)) % 2 ^ 64 = n := by
  obtain ⟨_, _, same⟩ := balanced
  omega

theorem mempoolReserve_calls (slabRaw : Option Nat) (p : MemoryPool) :
    (mempoolReserve slabRaw p).poolAllocs = p.poolAllocs ∧
      (mempoolReserve slabRaw p).poolFrees = p.poolFrees := by
  unfold mempoolReserve
  split
  · rcases expandPoolBatch_cases p slabRaw (min expandBatchSize (p.maxBlocks - p.poolBlocks)) with
      same | ⟨a, _, _, grown⟩
    · rw [same]
      exact ⟨rfl, rfl⟩
    · rw [grown]
      exact ⟨rfl, rfl⟩
  · exact ⟨rfl, rfl⟩

/-- Only an allocation that returns a block is counted. -/
theorem mempoolAllocSized_calls {size : Nat} {ptr : Option Nat}
    (run : mempoolAllocSized slabRaw p size = (q, ptr)) :
    q.poolAllocs = (if ptr = none then p.poolAllocs else (p.poolAllocs + 1) % 2 ^ 64) ∧
      q.poolFrees = p.poolFrees := by
  obtain ⟨allocs, frees⟩ := mempoolReserve_calls slabRaw p
  unfold mempoolAllocSized at run
  split at run
  · cases run
    exact ⟨rfl, rfl⟩
  · simp only at run
    split at run
    · cases run
      exact ⟨by simp only [allocs, reduceCtorEq, if_false], frees⟩
    · cases run
      exact ⟨allocs, frees⟩

/-- One step keeps the counters of calls balanced with the live payloads. -/
theorem MempoolInv.step_balanced (inv : MempoolInv p held)
    (step : MempoolStep (p, held.map blockToData) (q, live)) (balanced : p.Balanced held.length) :
    q.maxBlocks = p.maxBlocks ∧ q.Balanced live.length := by
  obtain ⟨allocs, frees, same⟩ := balanced
  cases step with
  | alloc places run =>
    obtain ⟨_, sameMax, _⟩ := inv.alloc_some places run
    obtain ⟨counted, kept⟩ := mempoolAllocSized_calls run
    refine ⟨sameMax, ?_⟩
    simp only [reduceCtorEq, if_false] at counted
    simp only [MemoryPool.Balanced, counted, kept, List.length_cons, List.length_map]
    omega
  | refuse places run =>
    obtain ⟨_, sameMax, _⟩ := inv.alloc_none places run
    obtain ⟨counted, kept⟩ := mempoolAllocSized_calls run
    refine ⟨sameMax, ?_⟩
    simp only [if_true] at counted
    simp only [MemoryPool.Balanced, counted, kept, List.length_map]
    exact ⟨allocs, frees, same⟩
  | @free _ _ ptr _ bound =>
    by_cases member : ptr ∈ held.map blockToData
    · have shorter := List.length_erase_of_mem member
      have nonempty := List.length_pos_of_mem member
      obtain ⟨h, inHeld, rfl⟩ := List.mem_map.mp member
      obtain ⟨cache, run, _⟩ := inv.free_held inHeld
      rw [List.length_map] at shorter nonempty
      rw [mempoolFreeSized, run]
      simp only [MemoryPool.Balanced, shorter]
      refine ⟨trivial, allocs, ?_⟩
      omega
    · obtain ⟨cache, run, _⟩ := inv.free_other bound fun h inHeld same =>
        member (List.mem_map.mpr ⟨h, inHeld, same.symm⟩)
      rw [mempoolFreeSized, run, List.erase_of_not_mem member, List.length_map]
      exact ⟨rfl, allocs, frees, same⟩
  | write junk member =>
    rw [List.length_map]
    exact ⟨rfl, allocs, frees, same⟩

theorem MempoolInv.run_balanced (inv : MempoolInv p held)
    (run : MempoolRun (p, held.map blockToData) (q, live)) (balanced : p.Balanced held.length) :
    q.maxBlocks = p.maxBlocks ∧ q.Balanced live.length := by
  generalize start : (p, held.map blockToData) = s at run
  generalize stop : (q, live) = t at run
  induction run generalizing q live with
  | refl =>
    cases start.trans stop.symm
    exact ⟨rfl, by rwa [List.length_map]⟩
  | @tail s' t before step ih =>
    obtain ⟨p', live'⟩ := s'
    obtain ⟨sameMax, between⟩ := ih rfl
    subst start stop
    obtain ⟨_, held', rfl, kept⟩ := inv.run before
    rw [List.length_map] at between
    obtain ⟨keepMax, after⟩ := kept.step_balanced step between
    exact ⟨keepMax.trans sameMax, after⟩

theorem MemoryPool.blocks_length (p : MemoryPool) :
    p.blocks.length = (p.slabList.map MempoolSlab.blockCount).sum := by
  simp only [MemoryPool.blocks, List.length_flatMap, blockAddrs_length]

theorem MempoolInv.held_length (inv : MempoolInv p held) :
    p.freeCount ≤ p.poolBlocks ∧ p.poolBlocks - p.freeCount = held.length := by
  obtain ⟨free, blocks⟩ := inv.free
  have all := blocks.covers.length_eq
  rw [List.length_append, ← blocks.count, ← inv.counted] at all
  omega

/-- There are fewer blocks than addresses. -/
theorem MempoolInv.held_small (inv : MempoolInv p held) : held.length < 2 ^ 64 := by
  have inside : held ⊆ List.range' 1 (2 ^ 64 - 1) := fun h member => by
    obtain ⟨positive, limit⟩ := inv.block_bounds (inv.held_blocks member)
    exact List.mem_range'_1.mpr (by omega)
  have fewer := (List.subperm_of_subset inv.held_nodup inside).length_le
  rw [List.length_range'] at fewer
  omega

/-- While the system gives memory, only a pool whose `maxBlocks` blocks are
all held refuses a request that fits. -/
theorem MempoolInv.alloc_none_iff (inv : MempoolInv p held) {slab size : Nat}
    (places : SystemPlaces p p.batch (some slab)) (fits : size ≤ p.blockSize) :
    (mempoolAllocSized (some slab) p size).2 = none ↔ held.length = p.maxBlocks := by
  have counts := inv.held_length
  have bounded := inv.bounded
  constructor
  · intro null
    have run : mempoolAllocSized (some slab) p size = ((mempoolAllocSized (some slab) p size).1, none) :=
      Prod.ext rfl null
    obtain ⟨_, _, _, reason⟩ := inv.alloc_none places run
    exact (reason fits).resolve_left fun refused => by cases refused.2.2
  · intro full
    obtain ⟨free, blocks⟩ := inv.free
    have none : free = [] := by
      have count := blocks.count
      exact List.length_eq_zero_iff.mp (by omega)
    have empty : p.freeList = 0 := blocks.chain.head_nil_iff.mpr none
    have kept : mempoolReserve (some slab) p = p := by
      rw [mempoolReserve, if_neg (by omega)]
    rw [mempoolAllocSized, if_neg (by omega)]
    simp only [kept, empty, ne_eq, not_true, if_false]

theorem MempoolInv.accounted (inv : MempoolInv p held) (balanced : p.Balanced held.length) :
    PoolAccounted p (held.map blockToData) p.maxBlocks := by
  have counts := inv.held_length
  obtain ⟨free, blocks⟩ := inv.free
  refine
    { freeCount := ⟨free, blocks.chain, blocks.count⟩
      slabs := inv.counted.trans p.blocks_length
      bounded := inv.bounded
      calls := ?_
      blocks := ?_
      alloc := ?_
      destroy := ?_ }
  · rw [List.length_map]
    exact balanced.difference inv.held_small
  · rw [List.length_map]
    exact counts
  · intro slab size places fits
    rw [List.length_map]
    exact inv.alloc_none_iff places fits
  · rw [mempoolDestroy, if_pos counts.1, List.length_map]
    exact counts.2

theorem mempoolCreate_balanced {calloc : Bool} {mem : Nat → BlockHeader}
    {blockSize initialBlocks maxBlocks : Nat} {stride : 0 < mempoolTotalSize blockSize}
    (created : mempoolCreate calloc mem slabRaw blockSize initialBlocks maxBlocks stride = some p) :
    p.Balanced 0 := by
  rcases mempoolCreate_some created with rfl | ⟨_, _, _, rfl⟩
  · exact ⟨Nat.two_pow_pos 64, Nat.two_pow_pos 64, rfl⟩
  · exact ⟨Nat.two_pow_pos 64, Nat.two_pow_pos 64, rfl⟩

/-- The counters of a pool agree with each other and with the blocks that are
live, after every run on every pool whose stride does not wrap around. -/
theorem mempool_accounted {calloc : Bool} {mem : Nat → BlockHeader} {slabRaw : Option Nat}
    {blockSize initialBlocks maxBlocks : Nat} {created p : MemoryPool} {live : List Nat}
    (fits : blockSize + 2 * cachelineSize ≤ 2 ^ 64)
    (places : SystemPlaces (mempoolEmpty mem blockSize maxBlocks (mempoolTotalSize_pos fits))
      (mempoolInitial initialBlocks maxBlocks) slabRaw)
    (create : mempoolCreate calloc mem slabRaw blockSize initialBlocks maxBlocks
      (mempoolTotalSize_pos fits) = some created)
    (run : MempoolRun (created, []) (p, live)) :
    p.blockSize = blockSize ∧
      PoolAccounted p live (if maxBlocks = 0 then sizeMax else maxBlocks) := by
  obtain ⟨sameSize, fresh⟩ := mempoolCreate_inv fits places create
  obtain ⟨sameMax, balanced⟩ := fresh.run_balanced run (mempoolCreate_balanced create)
  obtain ⟨keepSize, held, rfl, inv⟩ := fresh.run run
  rw [List.length_map] at balanced
  refine ⟨keepSize.trans sameSize, ?_⟩
  rw [← mempoolCreate_maxBlocks create, ← sameMax]
  exact inv.accounted balanced

theorem mempool_accounted_grown : ∃ p, p.slabList.length = 2 ∧ p.poolFrees = 1 ∧
    MempoolRun (mempoolTiny, []) (p, [8320]) ∧ p.blockSize = 64 ∧ PoolAccounted p [8320] 2 := by
  obtain ⟨p, slabs, frees, run⟩ := mempoolTiny_run
  exact ⟨p, slabs, frees, run,
    @mempool_accounted true _ _ 64 1 2 _ _ _ (by decide) mempoolTiny_places rfl run⟩

end Tproxy
