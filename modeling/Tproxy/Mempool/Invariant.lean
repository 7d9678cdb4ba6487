import Mathlib.Data.List.Pairwise
import Mathlib.Data.List.Perm.Basic
import Tproxy.Mempool.Growth

namespace Tproxy

/-- The first address after a slab. -/
def MempoolSlab.limit (totalSize : Nat) (s : MempoolSlab) : Nat :=
  s.addr + cachelineSize + s.blockCount * totalSize

/-- The memory areas of two slabs do not overlap. -/
def SlabsApart (totalSize : Nat) (s t : MempoolSlab) : Prop :=
  s.limit totalSize ≤ t.addr ∨ t.limit totalSize ≤ s.addr

/-- The header addresses of all blocks of the pool. -/
def MemoryPool.blocks (p : MemoryPool) : List Nat :=
  p.slabList.flatMap fun s => blockAddrs p.totalSize s.blockCount (s.addr + cachelineSize)

/-- What the system promises about the slab of `n` blocks it returns: it is
not null, it overlaps no slab of the pool, and the address after its end is
still an address. -/
def SystemPlaces (p : MemoryPool) (n : Nat) (slabRaw : Option Nat) : Prop :=
  ∀ a ∈ slabRaw, 0 < a ∧ MempoolSlab.limit p.totalSize ⟨a, n⟩ < 2 ^ 64 ∧
    ∀ s ∈ p.slabList, SlabsApart p.totalSize ⟨a, n⟩ s

/-- The free list visits exactly `free`: all its blocks carry the free magic,
and with the `held` blocks it makes up the whole pool. -/
structure FreeBlocks (p : MemoryPool) (free held : List Nat) : Prop where
  chain : LinkedChain (fun h => (p.mem h).nextFree) 0 p.freeList free
  covers : (free ++ held).Perm p.blocks
  magic : ∀ h ∈ free, (p.mem h).magic = mempoolMagicFree
  count : p.freeCount = free.length

/-- The pool invariant, for the header addresses `held` of the blocks that
were handed out and not yet freed. -/
structure MempoolInv (p : MemoryPool) (held : List Nat) : Prop where
  stride : p.blockSize + cachelineSize ≤ p.totalSize
  placed : ∀ s ∈ p.slabList, 0 < s.addr ∧ s.limit p.totalSize < 2 ^ 64
  apart : p.slabList.Pairwise (SlabsApart p.totalSize)
  cached : ∀ s ∈ p.lastFreedSlab, s ∈ p.slabList
  free : ∃ free, FreeBlocks p free held
  magic : ∀ h ∈ held, (p.mem h).magic = mempoolMagicPool
  counted : p.poolBlocks = p.blocks.length
  bounded : p.poolBlocks ≤ p.maxBlocks

variable {p q : MemoryPool} {held : List Nat} {slabRaw : Option Nat} {n : Nat}

theorem MemoryPool.mem_blocks {h : Nat} : h ∈ p.blocks ↔
    ∃ s ∈ p.slabList, h ∈ blockAddrs p.totalSize s.blockCount (s.addr + cachelineSize) := by
  simp only [MemoryPool.blocks, List.mem_flatMap]

/-- A block lies with its whole stride between its slab's header and end. -/
theorem MemoryPool.block_in_slab {h : Nat} (member : h ∈ p.blocks) :
    ∃ s ∈ p.slabList, s.addr + cachelineSize ≤ h ∧ h + p.totalSize ≤ s.limit p.totalSize := by
  obtain ⟨s, atS, inS⟩ := MemoryPool.mem_blocks.mp member
  exact ⟨s, atS, blockAddrs_ge inS, blockAddrs_end inS⟩

/-- Blocks of slabs that lie apart are at least a stride apart. -/
theorem SlabsApart.blocks_apart {totalSize h k : Nat} {s t : MempoolSlab}
    (apart : SlabsApart totalSize s t)
    (inS : h ∈ blockAddrs totalSize s.blockCount (s.addr + cachelineSize))
    (inT : k ∈ blockAddrs totalSize t.blockCount (t.addr + cachelineSize)) :
    h + totalSize ≤ k ∨ k + totalSize ≤ h := by
  have lowS := blockAddrs_ge inS
  have highS := blockAddrs_end inS
  have lowT := blockAddrs_ge inT
  have highT := blockAddrs_end inT
  simp only [SlabsApart, MempoolSlab.limit] at apart
  omega

theorem blockAddrs_disjoint {totalSize : Nat} {s t : MempoolSlab} (positive : 0 < totalSize)
    (apart : SlabsApart totalSize s t) :
    List.Disjoint (blockAddrs totalSize s.blockCount (s.addr + cachelineSize))
      (blockAddrs totalSize t.blockCount (t.addr + cachelineSize)) := by
  intro h inS inT
  have differ := apart.blocks_apart inS inT
  omega

theorem MempoolInv.blocks_nodup (inv : MempoolInv p held) : p.blocks.Nodup := by
  refine List.nodup_flatMap.mpr ⟨fun s _ => blockAddrs_nodup p.totalSize_pos, ?_⟩
  exact inv.apart.imp fun apart => blockAddrs_disjoint p.totalSize_pos apart

instance (totalSize : Nat) : Std.Symm (SlabsApart totalSize) where
  symm _ _ := Or.symm

/-- Two different blocks of the pool are at least a stride apart. -/
theorem MempoolInv.blocks_apart (inv : MempoolInv p held) {h k : Nat} (atH : h ∈ p.blocks)
    (atK : k ∈ p.blocks) (differ : h ≠ k) : h + p.totalSize ≤ k ∨ k + p.totalSize ≤ h := by
  obtain ⟨s, atS, inS⟩ := MemoryPool.mem_blocks.mp atH
  obtain ⟨t, atT, inT⟩ := MemoryPool.mem_blocks.mp atK
  by_cases same : s = t
  · subst same
    exact blockAddrs_apart inS inT differ
  · exact (inv.apart.forall atS atT same).blocks_apart inS inT

theorem MempoolInv.block_bounds (inv : MempoolInv p held) {h : Nat} (member : h ∈ p.blocks) :
    0 < h ∧ h + p.totalSize < 2 ^ 64 := by
  obtain ⟨s, atS, low, high⟩ := MemoryPool.block_in_slab member
  obtain ⟨positive, limit⟩ := inv.placed s atS
  omega

theorem MempoolInv.held_blocks (inv : MempoolInv p held) {h : Nat} (member : h ∈ held) :
    h ∈ p.blocks := by
  obtain ⟨free, blocks⟩ := inv.free
  exact blocks.covers.mem_iff.mp (List.mem_append_right free member)

theorem MempoolInv.held_nodup (inv : MempoolInv p held) : held.Nodup := by
  obtain ⟨free, blocks⟩ := inv.free
  exact (List.nodup_append.mp (blocks.covers.nodup_iff.mpr inv.blocks_nodup)).2.1

/-- The free list holds exactly the blocks that are not held. -/
theorem FreeBlocks.mem_iff {free : List Nat} (blocks : FreeBlocks p free held)
    (nodup : p.blocks.Nodup) {h : Nat} : h ∈ free ↔ h ∈ p.blocks ∧ h ∉ held := by
  have apart := List.nodup_append.mp (blocks.covers.nodup_iff.mpr nodup)
  constructor
  · intro member
    refine ⟨blocks.covers.mem_iff.mp (List.mem_append_left held member), fun inHeld => ?_⟩
    exact apart.2.2 h member h inHeld rfl
  · rintro ⟨member, notHeld⟩
    exact (List.mem_append.mp (blocks.covers.mem_iff.mpr member)).resolve_right notHeld

/-- Only the slabs, the stride and the headers of the pool's own blocks carry
the invariant: memory outside them may change at will. -/
theorem MempoolInv.congr_mem (inv : MempoolInv p held) {mem : Nat → BlockHeader}
    (agree : ∀ h ∈ p.blocks, mem h = p.mem h) : MempoolInv { p with mem := mem } held := by
  obtain ⟨free, blocks⟩ := inv.free
  have inFree : ∀ h ∈ free, mem h = p.mem h := fun h member =>
    agree h (blocks.covers.mem_iff.mp (List.mem_append_left held member))
  refine { inv with free := ⟨free, ?_⟩, magic := ?_ }
  · refine { blocks with chain := ?_, magic := ?_ }
    · exact blocks.chain.congr fun h member => congrArg BlockHeader.nextFree (inFree h member)
    · exact fun h member => (congrArg BlockHeader.magic (inFree h member)).trans (blocks.magic h member)
  · exact fun h member =>
      (congrArg BlockHeader.magic (agree h (inv.held_blocks member))).trans (inv.magic h member)

/-- The locality cache may point to any slab of the pool, or nowhere. -/
theorem MempoolInv.set_cache (inv : MempoolInv p held) {cache : Option MempoolSlab}
    (listed : ∀ s ∈ cache, s ∈ p.slabList) :
    MempoolInv { p with lastFreedSlab := cache } held := by
  obtain ⟨free, blocks⟩ := inv.free
  exact { inv with cached := listed, free := ⟨free, { blocks with }⟩ }

end Tproxy
