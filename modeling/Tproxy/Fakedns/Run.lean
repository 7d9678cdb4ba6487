import Tproxy.Fakedns.Cache

namespace Tproxy

variable {hash : List UInt8 → BitVec 64} {s : Fakedns} {w w' : FakednsWorld}

theorem one_shiftLeft_toNat {k : Nat} (small : k < 32) : ((1 : BitVec 32) <<< k).toNat = 2 ^ k := by
  have one : BitVec.toNat (1 : BitVec 32) = 1 := rfl
  rw [BitVec.toNat_shiftLeft, Nat.shiftLeft_eq, one, Nat.one_mul,
    Nat.mod_eq_of_lt (Nat.pow_lt_pow_right (by decide) small)]

/-- An address inside a network of `2^k` addresses keeps the network's high bits. -/
theorem and_mask_of_lt {k : Nat} (small : k < 32) (ip off : BitVec 32)
    (inside : off < (1 : BitVec 32) <<< k) :
    ((ip &&& BitVec.allOnes 32 <<< k) + off) &&& BitVec.allOnes 32 <<< k =
      ip &&& BitVec.allOnes 32 <<< k := by
  have masked (x : BitVec 32) : (x &&& BitVec.allOnes 32 <<< k).toNat = x.toNat / 2 ^ k * 2 ^ k := by
    rw [← BitVec.shiftLeft_ushiftRight, BitVec.toNat_shiftLeft, BitVec.toNat_ushiftRight,
      Nat.shiftLeft_eq, Nat.shiftRight_eq_div_pow,
      Nat.mod_eq_of_lt (Nat.lt_of_le_of_lt (Nat.div_mul_le_self ..) x.isLt)]
  have split : 2 ^ (32 - k) * 2 ^ k = 2 ^ 32 := by
    rw [← Nat.pow_add, Nat.sub_add_cancel (Nat.le_of_lt small)]
  have bound : off.toNat < 2 ^ k := by
    rw [← one_shiftLeft_toNat small]
    exact inside
  have high : ip.toNat / 2 ^ k < 2 ^ (32 - k) := by
    refine Nat.div_lt_of_lt_mul ?_
    rw [Nat.mul_comm, split]
    exact ip.isLt
  have room : (ip.toNat / 2 ^ k + 1) * 2 ^ k ≤ 2 ^ 32 := by
    rw [← split]
    exact Nat.mul_le_mul_right _ high
  rw [Nat.succ_mul] at room
  refine BitVec.eq_of_toNat_eq ?_
  rw [masked, BitVec.toNat_add, masked, Nat.mod_eq_of_lt (by omega), Nat.add_comm,
    Nat.add_mul_div_right _ _ (Nat.two_pow_pos k), Nat.div_eq_of_lt bound, Nat.zero_add]

/-- The pool of a CIDR that `fakedns_init` accepts is empty and has 2^k slots. -/
theorem fakednsInit_some {cidrStr : List UInt8} {memory : Bool}
    (start : fakednsInit cidrStr memory = some s) : ∃ (ip : BitVec 32) (k : Nat), (8 ≤ k ∧ k ≤ 24) ∧ s = {
      fakeipNetHost := ip &&& BitVec.allOnes 32 <<< k
      fakeipMaskHost := BitVec.allOnes 32 <<< k
      poolSize := 1 <<< k
      poolUsed := 0
      maxProbes := if ((1 : BitVec 32) <<< k).toNat < fakednsProbeLimit then
        ((1 : BitVec 32) <<< k).toNat else fakednsProbeLimit
      cidrStr := cidrStr.take cidrStrLen
      pool := fun _ => none
      stored := fun _ => [] } := by
  simp only [fakednsInit] at start
  split at start
  · cases start
  split at start
  · cases start
  rename_i ip _
  split at start
  · cases start
  rename_i valid
  split at start
  · cases start
  cases start
  simp only [not_or, Int.not_lt, not_not] at valid
  exact ⟨ip, _, by omega, rfl⟩

theorem fakednsInit_inv {cidrStr : List UInt8} {memory : Bool}
    (start : fakednsInit cidrStr memory = some s) :
    PoolInv s ∧ (∀ off, s.pool off = none) ∧ ∀ off, s.stored off = [] := by
  obtain ⟨ip, k, ⟨_, le⟩, rfl⟩ := fakednsInit_some start
  have small : k < 32 := Nat.lt_of_le_of_lt le (by decide)
  refine ⟨⟨?_, fun off inside => and_mask_of_lt small _ off inside, fun _ => rfl⟩, fun _ => rfl,
    fun _ => rfl⟩
  intro zero
  have size := one_shiftLeft_toNat small
  have zero : (1 : BitVec 32) <<< k = 0 := zero
  rw [zero] at size
  exact absurd size (Nat.ne_of_lt (Nat.two_pow_pos k))

/-- Loading stores one name in a slot, and the version of a slot stays 1. -/
theorem PoolInv.load (inv : PoolInv s) (once : ∀ off, (s.stored off).length ≤ 1)
    (ip off now : BitVec 32) {domain : List UInt8} (short : domain.length < fakednsMaxDomainLen)
    (memory : Bool) :
    PoolInv (fakednsLoadEntry s ip off domain now memory) ∧
      ∀ p, ((fakednsLoadEntry s ip off domain now memory).stored p).length ≤ 1 := by
  have single (p : BitVec 32) :
      (Function.update s.stored off [cStr domain] p).length ≤ 1 := by
    by_cases own : p = off
    · rw [own, Function.update_self]
      exact Nat.le_refl 1
    · rw [Function.update_of_ne own]
      exact once p
  have ok := inv.slots off
  unfold fakednsLoadEntry
  simp only
  split
  · split
    · exact ⟨inv, once⟩
    · have stored : SlotOk (some ⟨ip, now + BitVec.ofNat 32 fakednsEntryLifetime, 1, domain⟩)
          [cStr domain] := ⟨short, [], rfl, rfl⟩
      exact ⟨{ inv with slots := inv.update stored off }, single⟩
  · rename_i entry holds
    rw [holds] at ok
    obtain ⟨_, older, names, version⟩ := ok
    have only := once off
    rw [names, List.length_cons] at only
    have first : older.length = 0 := by omega
    rw [first] at version
    have stored : SlotOk (some { entry with
        domain := domain
        expire := now + BitVec.ofNat 32 fakednsEntryLifetime }) [cStr domain] :=
      ⟨short, [], rfl, version⟩
    exact ⟨{ inv with slots := inv.update stored off }, single⟩

theorem PoolInv.loadEntries (inv : PoolInv s) (once : ∀ off, (s.stored off).length ≤ 1)
    (now : BitVec 32) (seek memory : Nat → Bool) (left i : Nat) (file : List UInt8) :
    PoolInv (fakednsLoadEntries now seek memory left i file s) := by
  induction left generalizing i file s with
  | zero => exact inv
  | succ left ih =>
    simp only [fakednsLoadEntries]
    split
    · exact inv
    split
    · exact inv
    split
    · split
      · exact inv
      · exact ih inv once _ _
    split
    · split
      · exact inv
      · exact ih inv once _ _
    rename_i short
    split
    · exact inv
    have length (domain : List UInt8) := Nat.lt_of_le_of_lt (List.length_take_le _ domain)
      (Nat.not_le.mp short)
    obtain ⟨inv, once⟩ := inv.load once _ _ now (length _) (memory i)
    exact ih inv once _ _

theorem FakednsStart.inv (start : FakednsStart w) : WorldInv w := by
  have zero (s : Fakedns) (thread : Nat) (i : Fin fakednsMruSize) :
      Cached s (((fun _ => fakednsMruZero : Nat → FakednsMru) thread).data i) :=
    fun valid => by cases valid
  cases start with
  | init cidrStr now start => exact ⟨(fakednsInit_inv start).1, zero _⟩
  | load cidrStr now file seek memory start =>
    obtain ⟨inv, _, empty⟩ := fakednsInit_inv start
    refine ⟨?_, zero _⟩
    unfold fakednsLoad
    split
    · exact inv
    · exact inv.loadEntries (fun off => (congrArg List.length (empty off)).trans_le (Nat.zero_le 1))
        _ seek memory _ _ _

theorem WorldInv.reverse (inv : WorldInv w) (thread : Nat) (ip : BitVec 32) (bufLen : Nat) :
    WorldInv { w with
      mru := Function.update w.mru thread (fakednsReverseLookup w.dns (w.mru thread) ip bufLen).2 } := by
  refine ⟨inv.pool, fun other => ?_⟩
  by_cases own : other = thread
  · subst own
    simp only [Function.update_self]
    exact fakednsReverseLookup_cached inv.pool (inv.cached other)
  · simp only [Function.update_of_ne own]
    exact inv.cached other

/-- One step keeps the invariant. -/
theorem WorldInv.step (inv : WorldInv w) (step : FakednsStep hash w w') :
    WorldInv w' ∧ PoolGrows w.dns w'.dns ∧ w.now ≤ w'.now := by
  cases step with
  | tick later forward => exact ⟨⟨inv.pool, inv.cached⟩, .refl _, forward⟩
  | lookup domain memory =>
    obtain ⟨pool, grows⟩ := (fakednsLookupDomain_outcome hash w.dns domain w.time memory).keeps inv.pool
    exact ⟨⟨pool, fun thread i => (inv.cached thread i).grow grows⟩, grows, Nat.le_refl _⟩
  | reverse thread ip bufLen => exact ⟨inv.reverse thread ip bufLen, .refl _, Nat.le_refl _⟩

theorem PoolGrows.trans {s s' s'' : Fakedns} (first : PoolGrows s s') (second : PoolGrows s' s'') :
    PoolGrows s s'' :=
  ⟨second.range.trans first.range, fun off => (first.stored off).trans (second.stored off)⟩

theorem WorldInv.run (inv : WorldInv w) (run : FakednsRun hash w w') :
    WorldInv w' ∧ PoolGrows w.dns w'.dns ∧ w.now ≤ w'.now := by
  induction run with
  | refl => exact ⟨inv, .refl _, Nat.le_refl _⟩
  | tail _ step ih =>
    obtain ⟨inv, grows, forward⟩ := ih
    obtain ⟨inv', grows', forward'⟩ := inv.step step
    exact ⟨inv', grows.trans grows', Nat.le_trans forward forward'⟩

end Tproxy
