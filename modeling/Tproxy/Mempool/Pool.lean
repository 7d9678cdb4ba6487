import Mathlib.Algebra.Group.Nat.Defs
import Mathlib.Logic.Function.Basic

namespace Tproxy

/-- `SIZE_MAX` of the 64-bit targets. -/
def sizeMax : Nat := 2 ^ 64 - 1

/-- `CACHELINE_SIZE`, also the size of a slab header and of a block header. -/
def cachelineSize : Nat := 64

def expandBatchSize : Nat := 32

def mempoolMagicPool : Nat := 0xDEADBEEF

def mempoolMagicFree : Nat := 0x00000000

/-- A slab: its address and the block count of its inline header. -/
structure MempoolSlab where
  addr : Nat
  blockCount : Nat
deriving DecidableEq

/-- `block_header_t`; `nextFree = 0` is the null pointer. -/
structure BlockHeader where
  magic : Nat
  nextFree : Nat
deriving DecidableEq

/-- `struct memory_pool`, with the memory its block headers live in: `mem h`
is the header at address `h`. The slab list is in `next` order, and
`lastFreedSlab` is the slab that the locality cache points to. The code divides
by `totalSize`, which is not 0. -/
structure MemoryPool where
  slabList : List MempoolSlab
  lastFreedSlab : Option MempoolSlab
  freeList : Nat
  blockSize : Nat
  totalSize : Nat
  totalSize_pos : 0 < totalSize
  poolBlocks : Nat
  maxBlocks : Nat
  freeCount : Nat
  poolAllocs : Nat
  poolFrees : Nat
  warnCounter : Nat
  mem : Nat → BlockHeader

def blockToData (header : Nat) : Nat := header + cachelineSize

/-- `(char *)ptr - CACHELINE_SIZE` on 64-bit addresses. -/
def dataToHeader (ptr : Nat) : Nat := (ptr + (2 ^ 64 - cachelineSize)) % 2 ^ 64

/-- The initialisation loop of `expand_pool_batch`, with `remaining` blocks
still to link, `curr` the next one and `freeList` the old head of the list. -/
def linkBlocks (totalSize freeList : Nat) : Nat → Nat → (Nat → BlockHeader) → Nat → BlockHeader
  | 0, _, mem => mem
  | remaining + 1, curr, mem =>
    let nextBlock := curr + totalSize
    let nextFree := if remaining ≠ 0 then nextBlock else freeList
    linkBlocks totalSize freeList remaining nextBlock
      (Function.update mem curr ⟨mempoolMagicFree, nextFree⟩)

/-- The part of `expand_pool_batch` after the allocation of `slab`: put the
slab in front of the slab list and its blocks in front of the free list. -/
def attachSlab (pool : MemoryPool) (slab batchCount : Nat) : MemoryPool :=
  let firstBlock := slab + cachelineSize
  { pool with
    slabList := ⟨slab, batchCount⟩ :: pool.slabList
    mem := linkBlocks pool.totalSize pool.freeList batchCount firstBlock pool.mem
    freeList := firstBlock
    poolBlocks := pool.poolBlocks + batchCount
    freeCount := pool.freeCount + batchCount }

/-- `expand_pool_batch`; `slabRaw` is what `posix_memalign` returns, `none` on
failure. The result is the number of blocks added. -/
def expandPoolBatch (slabRaw : Option Nat) (pool : MemoryPool) (batchCount : Nat) :
    MemoryPool × Nat :=
  if batchCount = 0 then (pool, 0)
  else if batchCount > (sizeMax - cachelineSize) / pool.totalSize then (pool, 0)
  else
    match slabRaw with
    | none => (pool, 0)
    | some slab => (attachSlab pool slab batchCount, batchCount)

/-- The stride that `mempool_create` computes, with the wrap-around of
`size_t`: header and payload, rounded up to whole cache lines. -/
def mempoolTotalSize (blockSize : Nat) : Nat :=
  let baseTotal := (cachelineSize + blockSize) % 2 ^ 64
  (baseTotal + (cachelineSize - 1)) % 2 ^ 64 / cachelineSize * cachelineSize

theorem mempoolTotalSize_pos {blockSize : Nat} (fits : blockSize + 2 * cachelineSize ≤ 2 ^ 64) :
    0 < mempoolTotalSize blockSize := by
  simp only [mempoolTotalSize, cachelineSize] at *
  omega

/-- `mempool_create` before the initial reservation, in memory `mem`. For block sizes
from `SIZE_MAX - 126` to `SIZE_MAX - 63` the stride wraps around to 0, and C divides by
zero when the pool grows; no pool of such blocks is built here. -/
def mempoolEmpty (mem : Nat → BlockHeader) (blockSize maxBlocks : Nat)
    (stride : 0 < mempoolTotalSize blockSize) : MemoryPool where
  slabList := []
  lastFreedSlab := none
  freeList := 0
  blockSize := blockSize
  totalSize := mempoolTotalSize blockSize
  totalSize_pos := stride
  poolBlocks := 0
  maxBlocks := if maxBlocks = 0 then sizeMax else maxBlocks
  freeCount := 0
  poolAllocs := 0
  poolFrees := 0
  warnCounter := 0
  mem := mem

/-- `mempool_create`; `calloc` tells whether the pool record was allocated. -/
def mempoolCreate (calloc : Bool) (mem : Nat → BlockHeader) (slabRaw : Option Nat)
    (blockSize initialBlocks maxBlocks : Nat) (stride : 0 < mempoolTotalSize blockSize) :
    Option MemoryPool :=
  if calloc then
    let pool := mempoolEmpty mem blockSize maxBlocks stride
    if initialBlocks > 0 then
      let want := min initialBlocks pool.maxBlocks
      let grown := expandPoolBatch slabRaw pool want
      if grown.2 < want then none else some grown.1
    else some pool
  else none

/-- The growth step of `mempool_alloc_sized`: an empty free list below the
maximum asks the system for one more batch. -/
def mempoolReserve (slabRaw : Option Nat) (pool : MemoryPool) : MemoryPool :=
  if pool.freeList = 0 ∧ pool.poolBlocks < pool.maxBlocks then
    (expandPoolBatch slabRaw pool (min expandBatchSize (pool.maxBlocks - pool.poolBlocks))).1
  else pool

/-- `mempool_alloc_sized` on a pool that exists; `none` is the null pointer. -/
def mempoolAllocSized (slabRaw : Option Nat) (pool : MemoryPool) (size : Nat) :
    MemoryPool × Option Nat :=
  if size > pool.blockSize then (pool, none)
  else
    let pool := mempoolReserve slabRaw pool
    if pool.freeList ≠ 0 then
      let header := pool.freeList
      ({ pool with
          freeList := (pool.mem header).nextFree
          mem := Function.update pool.mem header ⟨mempoolMagicPool, 0⟩
          freeCount := pool.freeCount - 1
          poolAllocs := (pool.poolAllocs + 1) % 2 ^ 64 }, some (blockToData header))
    else ({ pool with warnCounter := (pool.warnCounter + 1) % 2 ^ 64 }, none)

/-- `verify_boundary` for a slab that is not null. -/
def verifyBoundary (pool : MemoryPool) (slab : MempoolSlab) (addr : Nat) : Bool :=
  let slabStart := slab.addr + cachelineSize
  let slabEnd := slabStart + slab.blockCount * pool.totalSize
  if addr ≥ slabStart ∧ addr < slabEnd then (addr - slabStart) % pool.totalSize = 0
  else false

/-- The two verification paths of `internal_free`: the locality cache, then
the scan of all slabs, which refreshes the cache. The flag tells whether the
header address passed. -/
def locateHeader (pool : MemoryPool) (header : Nat) : MemoryPool × Bool :=
  if pool.lastFreedSlab.any (verifyBoundary pool · header) then (pool, true)
  else
    match pool.slabList.find? (verifyBoundary pool · header) with
    | some slab => ({ pool with lastFreedSlab := some slab }, true)
    | none => (pool, false)

/-- `internal_free`, and so `mempool_free_sized`. -/
def internalFree (pool : MemoryPool) (ptr : Nat) : MemoryPool :=
  if ptr = 0 then pool
  else
    let header := dataToHeader ptr
    let located := locateHeader pool header
    let pool := located.1
    if located.2 = false then pool
    else if (pool.mem header).magic = mempoolMagicFree then pool
    else if (pool.mem header).magic ≠ mempoolMagicPool then pool
    else
      { pool with
          mem := Function.update pool.mem header ⟨mempoolMagicFree, pool.freeList⟩
          freeList := header
          freeCount := pool.freeCount + 1
          poolFrees := (pool.poolFrees + 1) % 2 ^ 64 }

def mempoolFreeSized (pool : MemoryPool) (ptr : Nat) (_size : Nat) : MemoryPool :=
  internalFree pool ptr

/-- `mempool_destroy`: the number of leaked blocks it reports. -/
def mempoolDestroy (pool : MemoryPool) : Nat :=
  if pool.freeCount ≤ pool.poolBlocks then pool.poolBlocks - pool.freeCount else 0

end Tproxy
