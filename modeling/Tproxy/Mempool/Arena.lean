import Tproxy.Mempool.Safety

namespace Tproxy

/-- What the system may answer when `p` asks for its next slab. -/
abbrev PlacedSlab (p : MemoryPool) : Type :=
  { slabRaw : Option Nat // SystemPlaces p p.batch slabRaw }

/-- A system without memory to spare refuses. -/
theorem systemPlaces_none (p : MemoryPool) : SystemPlaces p p.batch none := by
  rintro a ⟨⟩

/-- One call of `mempool_alloc_sized`; `pool = none` is the null pool. -/
structure PoolCall where
  pool : Option MemoryPool
  slabRaw : Option Nat
  result : Option Nat

/-- The system serves the call if the pool turns to it. -/
def PoolCall.MemoryAvailable (call : PoolCall) : Prop :=
  ∀ p ∈ call.pool, p.freeList = 0 → p.poolBlocks < p.maxBlocks → call.slabRaw ≠ none

/-- A pool with the records that its users keep in the blocks they hold. -/
structure PoolArena (ρ : Type) where
  pool : Option MemoryPool
  record : Nat → Option ρ

variable {ρ : Type} {arena : PoolArena ρ} {size limit count a : Nat} {r : ρ}

/-- `mempool_alloc_sized` and, on success, the first writes to the block. -/
def PoolArena.alloc (arena : PoolArena ρ) (memalign : (p : MemoryPool) → PlacedSlab p)
    (size : Nat) (r : ρ) : PoolArena ρ × PoolCall :=
  match arena.pool with
  | none => (arena, ⟨none, none, none⟩)
  | some p =>
    match mempoolAllocSized (memalign p).1 p size with
    | (q, none) => ({ arena with pool := some q }, ⟨some p, (memalign p).1, none⟩)
    | (q, some a) =>
      ({ pool := some q, record := Function.update arena.record a (some r) },
        ⟨some p, (memalign p).1, some a⟩)

/-- `mempool_free_sized`: the record is gone with its block. -/
def PoolArena.free (arena : PoolArena ρ) (a size : Nat) : PoolArena ρ where
  pool := arena.pool.map fun p => mempoolFreeSized p a size
  record := Function.update arena.record a none

def PoolArena.write (arena : PoolArena ρ) (a : Nat) (r : ρ) : PoolArena ρ :=
  { arena with record := Function.update arena.record a (some r) }

/-- The pool hands out blocks of `size` bytes, at most `limit` of them, and
holds the blocks with headers `held`. The null pool has none. -/
def PoolHolds (size limit : Nat) (held : List Nat) : Option MemoryPool → Prop
  | none => limit = 0 ∧ held = []
  | some p => p.blockSize = size ∧ p.maxBlocks = limit ∧ MempoolInv p held

/-- The live records are those in the `count` held blocks of the pool. -/
def PoolArena.Holds (arena : PoolArena ρ) (size limit count : Nat) : Prop :=
  ∃ held, held.length = count ∧ PoolHolds size limit held arena.pool ∧
    ∀ a, (arena.record a).isSome ↔ a ∈ held.map blockToData

/-- A failed allocation leaves the records as they are. With memory in the
system it fails only when every block is held. -/
theorem PoolArena.Holds.alloc_none {memalign : (p : MemoryPool) → PlacedSlab p} {call : PoolCall}
    {after : PoolArena ρ} (holds : arena.Holds size limit count)
    (run : arena.alloc memalign size r = (after, call)) (failed : call.result = none) :
    after.Holds size limit count ∧ after.record = arena.record ∧
      (call.MemoryAvailable → count = limit) := by
  obtain ⟨held, rfl, pooled, records⟩ := holds
  unfold PoolArena.alloc at run
  split at run
  · rename_i null
    cases run
    rw [null] at pooled
    obtain ⟨zero, empty⟩ := pooled
    exact ⟨⟨held, rfl, by rw [null]; exact ⟨zero, empty⟩, records⟩, rfl,
      fun _ => by rw [zero, empty]; rfl⟩
  · rename_i p present
    rw [present] at pooled
    obtain ⟨sameSize, sameMax, inv⟩ := pooled
    split at run
    · rename_i q refused
      cases run
      obtain ⟨keepSize, keepMax, after, full⟩ := inv.alloc_none (memalign p).2 refused
      refine ⟨⟨held, rfl, ⟨keepSize.trans sameSize, keepMax.trans sameMax, after⟩, records⟩, rfl,
        fun available => ?_⟩
      rcases full (Nat.le_of_eq sameSize.symm) with ⟨empty, below, denied⟩ | all
      · exact absurd denied (available p rfl empty below)
      · rw [all, sameMax]
    · cases run
      cases failed

/-- A successful allocation makes one more record live, at a new address. -/
theorem PoolArena.Holds.alloc_some {memalign : (p : MemoryPool) → PlacedSlab p} {call : PoolCall}
    {after : PoolArena ρ} (holds : arena.Holds size limit count)
    (run : arena.alloc memalign size r = (after, call)) (got : call.result = some a) :
    after.Holds size limit (count + 1) ∧ arena.record a = none ∧
      after.record = Function.update arena.record a (some r) := by
  obtain ⟨held, rfl, pooled, records⟩ := holds
  unfold PoolArena.alloc at run
  split at run
  · cases run
    cases got
  · rename_i p present
    rw [present] at pooled
    obtain ⟨sameSize, sameMax, inv⟩ := pooled
    split at run
    · cases run
      cases got
    · rename_i q ptr granted
      cases run
      cases got
      obtain ⟨keepSize, keepMax, _, h, rfl, notHeld, after⟩ := inv.alloc_some (memalign p).2 granted
      have absent : blockToData h ∉ held.map blockToData := fun member =>
        notHeld ((List.mem_map_of_injective blockToData_injective).mp member)
      refine ⟨⟨h :: held, rfl, ⟨keepSize.trans sameSize, keepMax.trans sameMax, after⟩, fun b => ?_⟩,
        ?_, rfl⟩
      · simp only [List.map_cons, List.mem_cons]
        by_cases same : b = blockToData h
        · subst same
          simp only [Function.update_self, Option.isSome_some, true_or]
        · simp only [Function.update_of_ne same, same, false_or]
          exact records b
      · exact Option.not_isSome_iff_eq_none.mp fun live => absent ((records _).mp live)

/-- Freeing a live record's block takes exactly that record away. -/
theorem PoolArena.Holds.free (holds : arena.Holds size limit (count + 1))
    (live : arena.record a = some r) : (arena.free a size).Holds size limit count := by
  obtain ⟨held, length, pooled, records⟩ := holds
  have member := (records a).mp (by rw [live]; rfl)
  obtain ⟨h, inHeld, rfl⟩ := List.mem_map.mp member
  have nodup : held.Nodup := by
    cases present : arena.pool with
    | none =>
      rw [present] at pooled
      rw [pooled.2] at inHeld
      cases inHeld
    | some p =>
      rw [present] at pooled
      exact pooled.2.2.held_nodup
  refine ⟨held.erase h, by rw [List.length_erase_of_mem inHeld]; omega, ?_, fun b => ?_⟩
  · cases present : arena.pool with
    | none =>
      rw [present] at pooled
      rw [pooled.2] at inHeld
      cases inHeld
    | some p =>
      rw [present] at pooled
      obtain ⟨sameSize, sameMax, inv⟩ := pooled
      obtain ⟨cache, freed, after⟩ := inv.free_held inHeld
      simp only [PoolArena.free, present, Option.map_some, PoolHolds, mempoolFreeSized]
      refine ⟨?_, ?_, after⟩ <;> rw [freed] <;> assumption
  · simp only [PoolArena.free]
    by_cases same : b = blockToData h
    · subst same
      simp only [Function.update_self, Option.isSome_none, Bool.false_eq_true, false_iff]
      intro inside
      have gone := (List.mem_map_of_injective blockToData_injective).mp inside
      exact (nodup.mem_erase_iff.mp gone).1 rfl
    · simp only [Function.update_of_ne same, records b, List.mem_map]
      refine exists_congr fun k => and_congr_left fun back => ?_
      have differ : k ≠ h := fun equal => same (equal ▸ back.symm)
      rw [nodup.mem_erase_iff]
      exact ⟨fun inside => ⟨differ, inside⟩, fun both => both.2⟩

/-- Writing to a live record changes neither the pool nor what is live. -/
theorem PoolArena.Holds.write (holds : arena.Holds size limit count) (r' : ρ)
    (live : arena.record a = some r) : (arena.write a r').Holds size limit count := by
  obtain ⟨held, length, pooled, records⟩ := holds
  refine ⟨held, length, pooled, fun b => ?_⟩
  simp only [PoolArena.write]
  by_cases same : b = a
  · subst same
    simp only [Function.update_self, Option.isSome_some, true_iff]
    exact (records b).mp (by rw [live]; rfl)
  · simp only [Function.update_of_ne same]
    exact records b

/-- A pool that `mempool_create` made has no record yet. -/
theorem PoolArena.Holds.of_create {p : MemoryPool} (sameSize : p.blockSize = size)
    (sameMax : p.maxBlocks = limit) (inv : MempoolInv p []) :
    (PoolArena.mk (some p) fun _ => (none : Option ρ)).Holds size limit 0 :=
  ⟨[], rfl, ⟨sameSize, sameMax, inv⟩, by simp⟩

theorem MempoolInv.held_le {p : MemoryPool} {held : List Nat} (inv : MempoolInv p held) :
    held.length ≤ p.maxBlocks := by
  obtain ⟨free, blocks⟩ := inv.free
  have all := blocks.covers.length_eq
  have counted := inv.counted
  have bounded := inv.bounded
  rw [List.length_append] at all
  omega

/-- A pool holds no more records than its limit allows. -/
theorem PoolArena.Holds.count_le (holds : arena.Holds size limit count) :
    count ≤ arena.pool.elim 0 (·.maxBlocks) := by
  obtain ⟨held, rfl, pooled, _⟩ := holds
  cases present : arena.pool with
  | none =>
    rw [present] at pooled
    rw [pooled.2]
    exact Nat.le_refl 0
  | some p =>
    rw [present] at pooled
    exact pooled.2.2.held_le

theorem PoolArena.Holds.none_live (holds : arena.Holds size limit 0) (a : Nat) : arena.record a = none := by
  obtain ⟨held, empty, _, records⟩ := holds
  rw [List.length_eq_zero_iff.mp empty] at records
  exact Option.not_isSome_iff_eq_none.mp fun live => List.not_mem_nil ((records a).mp live)

/-- `mempool_destroy` reports the blocks that are still held. -/
theorem MempoolInv.destroy {p : MemoryPool} {held : List Nat} (inv : MempoolInv p held) :
    mempoolDestroy p = held.length := by
  obtain ⟨free, blocks⟩ := inv.free
  have all := blocks.covers.length_eq
  have counted := inv.counted
  have count := blocks.count
  rw [List.length_append] at all
  unfold mempoolDestroy
  rw [if_pos (by omega)]
  omega

theorem PoolArena.Holds.destroy {p : MemoryPool} (holds : arena.Holds size limit count)
    (present : arena.pool = some p) : mempoolDestroy p = count := by
  obtain ⟨held, rfl, pooled, _⟩ := holds
  rw [present] at pooled
  exact pooled.2.2.destroy

end Tproxy
