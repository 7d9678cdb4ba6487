import Mathlib.Logic.Relation
import Tproxy.Mempool.Calls

namespace Tproxy

/-- A write by the owner of the payload at `a`. It may put anything into the
`blockSize` bytes there, so every header that overlaps them becomes `junk`. -/
def MemoryPool.payloadWrite (p : MemoryPool) (a : Nat) (junk : Nat → BlockHeader) : MemoryPool :=
  { p with
    mem := fun h => if h + cachelineSize ≤ a ∨ a + p.blockSize ≤ h then p.mem h else junk h }

/-- One step of a program that uses the pool, with the payload addresses that
it got from the pool and has not freed since. A free may name any address. -/
inductive MempoolStep : MemoryPool × List Nat → MemoryPool × List Nat → Prop
  | alloc {p q live slabRaw size ptr} : SystemPlaces p p.batch slabRaw →
      mempoolAllocSized slabRaw p size = (q, some ptr) → MempoolStep (p, live) (q, ptr :: live)
  | refuse {p q live slabRaw size} : SystemPlaces p p.batch slabRaw →
      mempoolAllocSized slabRaw p size = (q, none) → MempoolStep (p, live) (q, live)
  | free {p live ptr} (size : Nat) : ptr < 2 ^ 64 →
      MempoolStep (p, live) (mempoolFreeSized p ptr size, live.erase ptr)
  | write {p live a} (junk : Nat → BlockHeader) : a ∈ live →
      MempoolStep (p, live) (p.payloadWrite a junk, live)

abbrev MempoolRun := Relation.ReflTransGen MempoolStep

/-- The free list, the headers and the counters of two pools agree. -/
def MemoryPool.SameBlocks (p q : MemoryPool) : Prop :=
  p.freeList = q.freeList ∧ p.mem = q.mem ∧ p.freeCount = q.freeCount ∧
    p.poolBlocks = q.poolBlocks ∧ p.poolAllocs = q.poolAllocs ∧ p.poolFrees = q.poolFrees

/-- What the users of a pool rely on while they hold the payloads `live`. -/
structure PoolSafe (p : MemoryPool) (live : List Nat) : Prop where
  distinct : live.Nodup
  inside : ∀ a ∈ live, ∃ s ∈ p.slabList,
    s.addr + cachelineSize ≤ a ∧ a + p.blockSize ≤ s.limit p.totalSize
  disjoint : live.Pairwise fun a b => a + p.blockSize ≤ b ∨ b + p.blockSize ≤ a
  freeList : ∃ free, LinkedChain (fun h => (p.mem h).nextFree) 0 p.freeList free ∧ free.Nodup ∧
    ∀ h, h ∈ free ↔ h ∈ p.blocks ∧ blockToData h ∉ live
  alloc : ∀ slabRaw size q ptr, SystemPlaces p p.batch slabRaw →
    mempoolAllocSized slabRaw p size = (q, some ptr) → ptr ∉ live
  free : ∀ cache, (∀ s ∈ cache, s ∈ p.slabList) → ∀ ptr < 2 ^ 64, ∀ size,
    ¬ (mempoolFreeSized { p with lastFreedSlab := cache } ptr size).SameBlocks p ↔ ptr ∈ live

variable {p q : MemoryPool} {held live : List Nat}

theorem blockToData_injective : Function.Injective blockToData :=
  fun _ _ same => Nat.add_right_cancel same

/-- Payload writes stay clear of every header of the pool. -/
theorem MempoolInv.write (inv : MempoolInv p held) {h : Nat} (member : h ∈ held)
    (junk : Nat → BlockHeader) : MempoolInv (p.payloadWrite (blockToData h) junk) held := by
  refine inv.congr_mem fun k inBlocks => if_pos ?_
  have stride := inv.stride
  by_cases same : k = h
  · subst same
    exact Or.inl (Nat.le_refl _)
  · have apart := inv.blocks_apart inBlocks (inv.held_blocks member) same
    simp only [blockToData, cachelineSize] at *
    omega

theorem MempoolInv.step (inv : MempoolInv p held)
    (step : MempoolStep (p, held.map blockToData) (q, live)) :
    q.blockSize = p.blockSize ∧ ∃ held', live = held'.map blockToData ∧ MempoolInv q held' := by
  cases step with
  | alloc places run =>
    obtain ⟨sameSize, _, _, h, rfl, _, after⟩ := inv.alloc_some places run
    exact ⟨sameSize, h :: held, rfl, after⟩
  | refuse places run =>
    obtain ⟨sameSize, _, after, _⟩ := inv.alloc_none places run
    exact ⟨sameSize, held, rfl, after⟩
  | @free _ _ ptr _ bound =>
    by_cases member : ptr ∈ held.map blockToData
    · obtain ⟨h, inHeld, rfl⟩ := List.mem_map.mp member
      obtain ⟨cache, run, after⟩ := inv.free_held inHeld
      refine ⟨by rw [mempoolFreeSized, run], held.erase h, ?_, after⟩
      exact (List.map_erase blockToData_injective held).symm
    · obtain ⟨cache, run, listed⟩ := inv.free_other bound fun h inHeld same =>
        member (List.mem_map.mpr ⟨h, inHeld, same.symm⟩)
      rw [mempoolFreeSized, run, List.erase_of_not_mem member]
      exact ⟨rfl, held, rfl, inv.set_cache listed⟩
  | write junk member =>
    obtain ⟨h, inHeld, rfl⟩ := List.mem_map.mp member
    exact ⟨rfl, held, rfl, inv.write inHeld junk⟩

theorem MempoolInv.run (inv : MempoolInv p held)
    (run : MempoolRun (p, held.map blockToData) (q, live)) :
    q.blockSize = p.blockSize ∧ ∃ held', live = held'.map blockToData ∧ MempoolInv q held' := by
  generalize start : (p, held.map blockToData) = s at run
  generalize stop : (q, live) = t at run
  induction run generalizing q live with
  | refl =>
    cases start.trans stop.symm
    exact ⟨rfl, held, rfl, inv⟩
  | @tail s' t _ step ih =>
    obtain ⟨p', live'⟩ := s'
    obtain ⟨sameSize, held', rfl, between⟩ := ih rfl
    subst stop
    obtain ⟨keepSize, after⟩ := between.step step
    exact ⟨keepSize.trans sameSize, after⟩

/-- The invariant gives everything that the users rely on. -/
theorem MempoolInv.safe (inv : MempoolInv p held) : PoolSafe p (held.map blockToData) := by
  have stride := inv.stride
  have inLive : ∀ {h}, blockToData h ∈ held.map blockToData ↔ h ∈ held :=
    List.mem_map_of_injective blockToData_injective
  refine
    { distinct := inv.held_nodup.map blockToData_injective
      inside := ?_
      disjoint := ?_
      freeList := ?_
      alloc := ?_
      free := ?_ }
  · intro a member
    obtain ⟨h, inHeld, rfl⟩ := List.mem_map.mp member
    obtain ⟨s, listed, low, high⟩ := MemoryPool.block_in_slab (inv.held_blocks inHeld)
    refine ⟨s, listed, ?_, ?_⟩ <;> simp only [blockToData] <;> omega
  · refine List.pairwise_map.mpr (inv.held_nodup.imp_of_mem fun atH atK differ => ?_)
    have apart := inv.blocks_apart (inv.held_blocks atH) (inv.held_blocks atK) differ
    simp only [blockToData]
    omega
  · obtain ⟨free, blocks⟩ := inv.free
    refine ⟨free, blocks.chain, blocks.chain.nodup, fun h => ?_⟩
    rw [blocks.mem_iff inv.blocks_nodup, inLive]
  · intro slabRaw size q ptr places run
    obtain ⟨_, _, _, h, rfl, notHeld, _⟩ := inv.alloc_some places run
    rw [inLive]
    exact notHeld
  · intro cache listed ptr bound size
    have cached := inv.set_cache listed
    by_cases member : ptr ∈ held.map blockToData
    · refine iff_of_true (fun same => ?_) member
      obtain ⟨h, inHeld, rfl⟩ := List.mem_map.mp member
      obtain ⟨_, run, _⟩ := cached.free_held inHeld
      rw [mempoolFreeSized, run] at same
      have count : p.freeCount + 1 = p.freeCount := same.2.2.1
      omega
    · refine iff_of_false (fun changed => ?_) member
      obtain ⟨_, run, _⟩ := cached.free_other bound fun h inHeld same =>
        member (List.mem_map.mpr ⟨h, inHeld, same.symm⟩)
      rw [mempoolFreeSized, run] at changed
      exact changed ⟨rfl, rfl, rfl, rfl, rfl, rfl⟩

/-- A stride that does not wrap around has room for header and payload. -/
theorem mempoolTotalSize_stride {blockSize : Nat}
    (fits : blockSize + 2 * cachelineSize ≤ 2 ^ 64) :
    blockSize + cachelineSize ≤ mempoolTotalSize blockSize := by
  simp only [mempoolTotalSize, cachelineSize] at *
  omega

theorem mempoolEmpty_inv {mem : Nat → BlockHeader} {blockSize maxBlocks : Nat}
    (fits : blockSize + 2 * cachelineSize ≤ 2 ^ 64) :
    MempoolInv (mempoolEmpty mem blockSize maxBlocks (mempoolTotalSize_pos fits)) [] where
  stride := mempoolTotalSize_stride fits
  placed := by simp [mempoolEmpty]
  apart := List.Pairwise.nil
  cached := by simp [mempoolEmpty]
  free := ⟨[], ⟨rfl, List.Perm.refl _, by simp, rfl⟩⟩
  magic := by simp
  counted := rfl
  bounded := Nat.zero_le _

/-- The blocks that `mempool_create` reserves at once. -/
def mempoolInitial (initialBlocks maxBlocks : Nat) : Nat :=
  min initialBlocks (if maxBlocks = 0 then sizeMax else maxBlocks)

/-- A created pool is empty, or has one batch of blocks. -/
theorem mempoolCreate_some {calloc : Bool} {mem : Nat → BlockHeader} {slabRaw : Option Nat}
    {blockSize initialBlocks maxBlocks : Nat} {stride : 0 < mempoolTotalSize blockSize}
    (created : mempoolCreate calloc mem slabRaw blockSize initialBlocks maxBlocks stride = some p) :
    p = mempoolEmpty mem blockSize maxBlocks stride ∨
      ∃ a ∈ slabRaw, 0 < mempoolInitial initialBlocks maxBlocks ∧
        p = attachSlab (mempoolEmpty mem blockSize maxBlocks stride) a
          (mempoolInitial initialBlocks maxBlocks) := by
  unfold mempoolCreate at created
  split at created
  · simp only at created
    split at created
    · split at created
      · cases created
      · cases created
        rcases expandPoolBatch_cases (mempoolEmpty mem blockSize maxBlocks stride) slabRaw
          (mempoolInitial initialBlocks maxBlocks) with same | ⟨a, listed, positive, grown⟩
        · exact Or.inl (congrArg Prod.fst same)
        · exact Or.inr ⟨a, listed, positive, congrArg Prod.fst grown⟩
    · cases created
      exact Or.inl rfl
  · cases created

theorem mempoolCreate_inv {calloc : Bool} {mem : Nat → BlockHeader} {slabRaw : Option Nat}
    {blockSize initialBlocks maxBlocks : Nat} (fits : blockSize + 2 * cachelineSize ≤ 2 ^ 64)
    (places : SystemPlaces (mempoolEmpty mem blockSize maxBlocks (mempoolTotalSize_pos fits))
      (mempoolInitial initialBlocks maxBlocks) slabRaw)
    (created : mempoolCreate calloc mem slabRaw blockSize initialBlocks maxBlocks
      (mempoolTotalSize_pos fits) = some p) :
    p.blockSize = blockSize ∧ MempoolInv p [] := by
  have empty : MempoolInv (mempoolEmpty mem blockSize maxBlocks (mempoolTotalSize_pos fits)) [] :=
    mempoolEmpty_inv fits
  rcases mempoolCreate_some created with rfl | ⟨a, listed, positive, rfl⟩
  · exact ⟨rfl, empty⟩
  · cases listed
    have room : 0 + mempoolInitial initialBlocks maxBlocks ≤
        (mempoolEmpty mem blockSize maxBlocks (mempoolTotalSize_pos fits)).maxBlocks := by
      simp only [mempoolInitial, mempoolEmpty]
      omega
    exact ⟨rfl, empty.attach positive room places⟩

/-- `mempool_create` keeps its limit; zero means no limit. -/
theorem mempoolCreate_maxBlocks {calloc : Bool} {mem : Nat → BlockHeader} {slabRaw : Option Nat}
    {blockSize initialBlocks maxBlocks : Nat} {stride : 0 < mempoolTotalSize blockSize} {p : MemoryPool}
    (created : mempoolCreate calloc mem slabRaw blockSize initialBlocks maxBlocks stride = some p) :
    p.maxBlocks = if maxBlocks = 0 then sizeMax else maxBlocks := by
  rcases mempoolCreate_some created with rfl | ⟨_, _, _, rfl⟩
  · rfl
  · rfl

/-- The allocator is safe for every run on every pool whose stride does not
wrap around, whatever addresses are freed and whatever payloads contain. -/
theorem mempool_safe {calloc : Bool} {mem : Nat → BlockHeader} {slabRaw : Option Nat}
    {blockSize initialBlocks maxBlocks : Nat} {created p : MemoryPool} {live : List Nat}
    (fits : blockSize + 2 * cachelineSize ≤ 2 ^ 64)
    (places : SystemPlaces (mempoolEmpty mem blockSize maxBlocks (mempoolTotalSize_pos fits))
      (mempoolInitial initialBlocks maxBlocks) slabRaw)
    (create : mempoolCreate calloc mem slabRaw blockSize initialBlocks maxBlocks
      (mempoolTotalSize_pos fits) = some created)
    (run : MempoolRun (created, []) (p, live)) : p.blockSize = blockSize ∧ PoolSafe p live := by
  obtain ⟨sameSize, fresh⟩ := mempoolCreate_inv fits places create
  obtain ⟨keepSize, held, rfl, inv⟩ := fresh.run run
  exact ⟨keepSize.trans sameSize, inv.safe⟩

/-- A pool of 64-byte payloads, with one of its two blocks reserved. -/
def mempoolTiny : MemoryPool := attachSlab (mempoolEmpty (fun _ => ⟨0, 0⟩) 64 2 (by decide)) 4096 1

theorem mempoolTiny_places : SystemPlaces (mempoolEmpty (fun _ => ⟨0, 0⟩) 64 2 (by decide))
    (mempoolInitial 1 2) (some 4096) := by
  rintro a ⟨⟩
  exact ⟨by decide, by decide, by simp [mempoolEmpty]⟩

/-- The reserved block is handed out, the pool grows for the second one, and the first
one is freed twice. -/
theorem mempoolTiny_run : ∃ p, p.slabList.length = 2 ∧ p.poolFrees = 1 ∧
    MempoolRun (mempoolTiny, []) (p, [8320]) := by
  let reserved := (mempoolAllocSized none mempoolTiny 64).1
  let grown := (mempoolAllocSized (some 8192) reserved 64).1
  let freed := mempoolFreeSized grown 4224 64
  have first : MempoolStep (mempoolTiny, []) (reserved, [4224]) :=
    @MempoolStep.alloc _ _ _ none 64 4224 (fun _ refused => by cases refused) rfl
  have second : MempoolStep (reserved, [4224]) (grown, [8320, 4224]) := by
    refine @MempoolStep.alloc _ _ _ (some 8192) 64 8320 ?_ (Prod.ext rfl (by decide))
    rintro a ⟨⟩
    refine ⟨by decide, by decide, ?_⟩
    intro s listed
    cases List.mem_singleton.mp listed
    exact Or.inr (by decide)
  have third : MempoolStep (grown, [8320, 4224]) (freed, [8320]) := .free 64 (by decide)
  have fourth : MempoolStep (freed, [8320]) (mempoolFreeSized freed 4224 64, [8320]) :=
    .free 64 (by decide)
  exact ⟨_, by decide, by decide, .tail (.tail (.tail (.single first) second) third) fourth⟩

theorem mempool_safe_grown : ∃ p, p.slabList.length = 2 ∧ p.poolFrees = 1 ∧
    MempoolRun (mempoolTiny, []) (p, [8320]) ∧ p.blockSize = 64 ∧ PoolSafe p [8320] := by
  obtain ⟨p, slabs, frees, run⟩ := mempoolTiny_run
  exact ⟨p, slabs, frees, run, @mempool_safe true _ _ 64 1 2 _ _ _ (by decide) mempoolTiny_places rfl run⟩

/-- With a block size whose stride wraps around to 64 bytes, the first payload
that is handed out starts at the end of its slab. -/
theorem mempool_unsafe_wrapped_stride : ∃ created p,
    SystemPlaces (mempoolEmpty (fun _ => ⟨0, 0⟩) (2 ^ 64 - 60) 1 (by decide)) (mempoolInitial 1 1) (some 4096) ∧
      mempoolCreate true (fun _ => ⟨0, 0⟩) (some 4096) (2 ^ 64 - 60) 1 1 (by decide) = some created ∧
      MempoolRun (created, []) (p, [4224]) ∧ ¬ PoolSafe p [4224] := by
  let created := attachSlab (mempoolEmpty (fun _ => ⟨0, 0⟩) (2 ^ 64 - 60) 1 (by decide)) 4096 1
  refine ⟨created, (mempoolAllocSized none created 8).1, ?places, rfl, ?run, fun safe => ?_⟩
  case places =>
    rintro a ⟨⟩
    exact ⟨by decide, by decide, by simp [mempoolEmpty]⟩
  case run =>
    exact .single (@MempoolStep.alloc _ _ _ none 8 4224 (fun _ refused => by cases refused) rfl)
  obtain ⟨s, listed, _, high⟩ := safe.inside 4224 List.mem_cons_self
  have slab : s = ⟨4096, 1⟩ := List.mem_singleton.mp listed
  subst slab
  exact absurd high (by decide)

end Tproxy
