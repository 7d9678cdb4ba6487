import Mathlib.Data.List.Iterate
import Mathlib.Data.Nat.Prime.Basic
import Tproxy.Fakedns.Refusal
import Tproxy.Lib.StridedOrbit

namespace Tproxy

variable {hash : List UInt8 → BitVec 64} {s s₀ : Fakedns} {domain : List UInt8} {now : BitVec 32}

section Visited
variable {pool other : BitVec 32 → Option FakednsEntry} {step poolMask offset : BitVec 32}
  {firstExpired : Option (BitVec 32)} {probes : Nat}

/-- The slots that the loop of phase 1 reads, in its order. -/
def fakednsVisited (pool : BitVec 32 → Option FakednsEntry) (domain : List UInt8)
    (step poolMask : BitVec 32) : Nat → BitVec 32 → List (BitVec 32)
  | 0, _ => []
  | probes + 1, offset =>
    offset ::
      match pool offset with
      | none => []
      | some entry =>
        if cStr entry.domain = cStr domain then []
        else fakednsVisited pool domain step poolMask probes (fakednsNextOffset step poolMask offset)

/-- The loop reads no other slot: pools that agree on these give one outcome. -/
theorem fakednsProbe_congr
    (agree : ∀ off ∈ fakednsVisited pool domain step poolMask probes offset, pool off = other off) :
    fakednsProbe pool domain now step poolMask probes offset firstExpired =
      fakednsProbe other domain now step poolMask probes offset firstExpired := by
  induction probes generalizing offset firstExpired with
  | zero => rfl
  | succ probes ih =>
    rw [fakednsVisited] at agree
    have there := agree offset List.mem_cons_self
    rw [fakednsProbe, fakednsProbe, ← there]
    cases held : pool offset with
    | none => rfl
    | some entry =>
      by_cases same : cStr entry.domain = cStr domain
      · simp only [if_pos same]
      · simp only [held, if_neg same] at agree ⊢
        exact ih fun off member => agree off (List.mem_cons_of_mem offset member)

theorem fakednsVisited_iterate : ∃ n ≤ probes,
    fakednsVisited pool domain step poolMask probes offset =
      List.iterate (fakednsNextOffset step poolMask) offset n := by
  induction probes generalizing offset with
  | zero => exact ⟨0, le_rfl, rfl⟩
  | succ probes ih =>
    rw [fakednsVisited]
    have one : 1 ≤ probes + 1 := Nat.succ_le_succ (Nat.zero_le probes)
    split
    · exact ⟨1, one, rfl⟩
    split
    · exact ⟨1, one, rfl⟩
    · obtain ⟨n, le, same⟩ := @ih (fakednsNextOffset step poolMask offset)
      exact ⟨n + 1, Nat.succ_le_succ le, congrArg (offset :: ·) same⟩

end Visited

/-- The slots that a lookup of the name reads. -/
def Fakedns.visited (hash : List UInt8 → BitVec 64) (s : Fakedns) (domain : List UInt8) :
    List (BitVec 32) :=
  fakednsVisited s.pool domain (fakednsStep hash domain) s.poolMask s.maxProbes (s.offset hash domain)

/-- The loop of phase 1 as a lookup of the name runs it, on the slots of `pool`. -/
def Fakedns.probeIn (hash : List UInt8 → BitVec 64) (s : Fakedns) (domain : List UInt8) (now : BitVec 32)
    (pool : BitVec 32 → Option FakednsEntry) : FakednsProbe :=
  fakednsProbe pool domain now (fakednsStep hash domain) s.poolMask s.maxProbes (s.offset hash domain) none

theorem Fakedns.visited_probes (hash : List UInt8 → BitVec 64) (s : Fakedns) (domain : List UInt8) :
    ∃ n ≤ s.maxProbes, s.visited hash domain = (List.range n).map (s.probe hash domain) := by
  obtain ⟨n, le, visited⟩ := @fakednsVisited_iterate domain s.pool (fakednsStep hash domain) s.poolMask
    (s.offset hash domain) s.maxProbes
  exact ⟨n, le, visited.trans (List.range_map_iterate ..).symm⟩

section Cycle

theorem fakednsStep_odd (hash : List UInt8 → BitVec 64) (domain : List UInt8) :
    (fakednsStep hash domain).toNat % 2 = 1 := by
  rw [fakednsStep, BitVec.toNat_or, Nat.or_mod_two_eq_one]
  exact Or.inr rfl

theorem Fakedns.poolSize_ne_zero {m : Nat} (size : s.poolSize.toNat = 2 ^ m) : s.poolSize ≠ 0 := by
  intro zero
  rw [zero] at size
  exact absurd size (Nat.ne_of_lt (Nat.two_pow_pos m))

/-- An odd step has no divisor in common with a power of two. -/
theorem Fakedns.coprime_step {m : Nat} (size : s.poolSize.toNat = 2 ^ m)
    (hash : List UInt8 → BitVec 64) (domain : List UInt8) :
    s.poolSize.toNat.Coprime (fakednsStep hash domain).toNat := by
  have odd : Odd (fakednsStep hash domain).toNat := Nat.odd_iff.mpr (fakednsStep_odd hash domain)
  rw [size]
  exact (Nat.coprime_two_left.mpr odd).pow_left m

/-- The 32-bit addition wraps at a multiple of the pool's size, so the mask
leaves the remainder modulo that size. -/
theorem Fakedns.strides {m : Nat} (small : m ≤ 32) (size : s.poolSize.toNat = 2 ^ m)
    (step : BitVec 32) :
    StridesBy (fakednsNextOffset step s.poolMask) BitVec.toNat step.toNat s.poolSize.toNat := by
  intro offset
  have mask : s.poolMask.toNat = 2 ^ m - 1 := by
    rw [s.poolMask_toNat (s.poolSize_ne_zero size), size]
  rw [fakednsNextOffset, BitVec.toNat_and, BitVec.toNat_add, mask, Nat.and_two_pow_sub_one_eq_mod,
    Nat.mod_mod_of_dvd _ (Nat.pow_dvd_pow 2 small), size]

theorem fakednsInit_poolSize {cidrStr : List UInt8} {memory : Bool}
    (start : fakednsInit cidrStr memory = some s) :
    (∃ m, 8 ≤ m ∧ m ≤ 24 ∧ s.poolSize.toNat = 2 ^ m) ∧
      s.maxProbes = min s.poolSize.toNat fakednsProbeLimit := by
  obtain ⟨_, m, ⟨ge, le⟩, rfl⟩ := fakednsInit_some start
  refine ⟨⟨m, ge, le, one_shiftLeft_toNat (Nat.lt_of_le_of_lt le (by decide))⟩, ?_⟩
  dsimp only
  split
  · rename_i fewer
    exact (Nat.min_eq_left (Nat.le_of_lt fewer)).symm
  · rename_i more
    exact (Nat.min_eq_right (Nat.not_lt.mp more)).symm

variable {m : Nat}

/-- The probe sequence of a name has each slot once in its first `poolSize` places. -/
theorem Fakedns.probe_existsUnique (small : m ≤ 32) (size : s.poolSize.toNat = 2 ^ m)
    (hash : List UInt8 → BitVec 64) (domain : List UInt8) {off : BitVec 32} (bound : off < s.poolSize) :
    ∃! k, k < s.poolSize.toNat ∧ s.probe hash domain k = off := by
  have strides := s.strides small size (fakednsStep hash domain)
  have below := s.offset_lt (s.poolSize_ne_zero size) hash domain
  obtain ⟨k, ⟨within, reaches⟩, only⟩ :=
    strides.existsUnique (s.coprime_step size hash domain) below bound
  refine ⟨k, ⟨within, BitVec.eq_of_toNat_eq reaches⟩, ?_⟩
  rintro j ⟨inside, reached⟩
  exact only j ⟨inside, congrArg BitVec.toNat reached⟩

theorem Fakedns.probe_injective (small : m ≤ 32) (size : s.poolSize.toNat = 2 ^ m)
    (hash : List UInt8 → BitVec 64) (domain : List UInt8) {j k : Nat} (first : j < s.poolSize.toNat)
    (second : k < s.poolSize.toNat) (same : s.probe hash domain j = s.probe hash domain k) : j = k := by
  have strides := s.strides small size (fakednsStep hash domain)
  have below := s.offset_lt (s.poolSize_ne_zero size) hash domain
  exact strides.injective (s.coprime_step size hash domain) below first second
    (congrArg BitVec.toNat same)

theorem Fakedns.probe_lt (small : m ≤ 32) (size : s.poolSize.toNat = 2 ^ m)
    (hash : List UInt8 → BitVec 64) (domain : List UInt8) (k : Nat) :
    s.probe hash domain k < s.poolSize := by
  have below := s.offset_lt (s.poolSize_ne_zero size) hash domain
  exact (s.strides small size (fakednsStep hash domain)).lt below k

end Cycle

theorem FakednsReached.poolSize {cidrStr : List UInt8} {memory : Bool}
    (reached : FakednsReached hash s₀ s) (start : fakednsInit cidrStr memory = some s₀) :
    (∃ m, 8 ≤ m ∧ m ≤ 24 ∧ s.poolSize.toNat = 2 ^ m) ∧
      s.maxProbes = min s.poolSize.toNat fakednsProbeLimit := by
  have range := reached.range (.init start)
  simp only [Fakedns.range, Prod.mk.injEq] at range
  obtain ⟨_, _, size, probes, _⟩ := range
  rw [size, probes]
  exact fakednsInit_poolSize start

/-- The probe sequence of a name has no slot twice: neither in the part that a
lookup visits nor in the first `g_max_probes` places, and its first `g_pool_size`
places have every slot once. The loop reads no slot but those that it visits. -/
theorem fakedns_probes_distinct {cidrStr : List UInt8} {memory : Bool}
    (start : fakednsInit cidrStr memory = some s₀) (reached : FakednsReached hash s₀ s)
    (domain : List UInt8) :
    (∃ m, 8 ≤ m ∧ m ≤ 24 ∧ s.poolSize.toNat = 2 ^ m) ∧
    s.maxProbes ≤ s.poolSize.toNat ∧
    (∃ n ≤ s.maxProbes, s.visited hash domain = (List.range n).map (s.probe hash domain)) ∧
    (∀ other now, (∀ off ∈ s.visited hash domain, s.pool off = other off) →
      s.probeIn hash domain now s.pool = s.probeIn hash domain now other) ∧
    (s.visited hash domain).Nodup ∧
    (∀ k, s.probe hash domain k < s.poolSize) ∧
    (∀ j < s.maxProbes, ∀ k < s.maxProbes, s.probe hash domain j = s.probe hash domain k → j = k) ∧
    ∀ off < s.poolSize, ∃! k, k < s.poolSize.toNat ∧ s.probe hash domain k = off := by
  obtain ⟨⟨m, ge, le, size⟩, probes⟩ := reached.poolSize start
  have small : m ≤ 32 := Nat.le_trans le (by decide)
  have fits : s.maxProbes ≤ s.poolSize.toNat := probes ▸ Nat.min_le_left _ _
  have apart {j k : Nat} (first : j < s.maxProbes) (second : k < s.maxProbes) :=
    s.probe_injective small size hash domain (Nat.lt_of_lt_of_le first fits)
      (Nat.lt_of_lt_of_le second fits)
  obtain ⟨n, within, visited⟩ := s.visited_probes hash domain
  refine ⟨⟨m, ge, le, size⟩, fits, ⟨n, within, visited⟩, fun _ _ => fakednsProbe_congr, ?_, s.probe_lt small size hash domain,
    fun j first k second same => apart first second same,
    fun off bound => s.probe_existsUnique small size hash domain bound⟩
  rw [visited]
  refine List.Nodup.map_on (fun j first k second same => ?_) List.nodup_range
  exact apart (Nat.lt_of_lt_of_le (List.mem_range.mp first) within)
    (Nat.lt_of_lt_of_le (List.mem_range.mp second) within) same

/-- `b`, whose chain starts at the slot of `a`, goes on to the next one. -/
theorem fakedns_probes_distinct_two : singleA.visited sameHash [98] = [0, 1] ∧
    (singleA.visited sameHash [98]).Nodup ∧
    ∃! k, k < singleA.poolSize.toNat ∧ singleA.probe sameHash [98] k = 255 := by
  have start : fakednsInit slash24.cidrStr true = some slash24 := rfl
  obtain ⟨_, _, _, _, distinct, _, _, cycle⟩ := fakedns_probes_distinct start singleA_reached [98]
  exact ⟨by decide, distinct, cycle 255 (by decide)⟩

end Tproxy
