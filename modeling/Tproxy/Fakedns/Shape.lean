import Mathlib.Data.List.Count
import Tproxy.Fakedns.Restart

namespace Tproxy

variable {hash : List UInt8 → BitVec 64} {s s₀ t : Fakedns} {now off : BitVec 32}
  {entry : FakednsEntry}

/-- The address range, which stays as `fakedns_init` set it. -/
def Fakedns.range (s : Fakedns) : BitVec 32 × BitVec 32 × BitVec 32 × Nat × List UInt8 :=
  (s.fakeipNetHost, s.fakeipMaskHost, s.poolSize, s.maxProbes, s.cidrStr)

/-- The number of slots in use. -/
def Fakedns.occupied (s : Fakedns) : Nat :=
  (List.range s.poolSize.toNat).countP fun i => (s.pool (BitVec.ofNat 32 i)).isSome

/-- The invariant of a pool, whatever was loaded into it. -/
structure FakednsShape (s : Fakedns) : Prop where
  size : s.poolSize ≠ 0
  inside : ∀ off < s.poolSize, (s.fakeipNetHost + off) &&& s.fakeipMaskHost = s.fakeipNetHost
  addressed : s.Addressed
  short : ∀ off entry, s.pool off = some entry → entry.domain.length < fakednsMaxDomainLen
  used : s.poolUsed.toNat = s.occupied

/-- One slot is written, and counted if it was empty. -/
structure FakednsPut (s : Fakedns) (off : BitVec 32) (entry : FakednsEntry) (t : Fakedns) : Prop where
  range : t.range = s.range
  pool : t.pool = Function.update s.pool off (some entry)
  used : t.poolUsed = if (s.pool off).isSome then s.poolUsed else s.poolUsed + 1

/-- The pools that lookups and loads at any times lead to. -/
inductive FakednsReached (hash : List UInt8 → BitVec 64) (s₀ : Fakedns) : Fakedns → Prop
  | init : FakednsReached hash s₀ s₀
  | lookup {s : Fakedns} (domain : List UInt8) (now : BitVec 32) (memory : Bool) :
      FakednsReached hash s₀ s → FakednsName domain →
      FakednsReached hash s₀ (fakednsLookupDomain hash s domain now memory).2
  | load {s : Fakedns} (file : List UInt8) (now : BitVec 32) (seek memory : Nat → Bool) :
      FakednsReached hash s₀ s → FakednsReached hash s₀ (fakednsLoad s file now seek memory)

section Count
variable {n i : Nat} {f g : Nat → Bool}

/-- Counting goes up by one where one more index counts. -/
theorem countP_range_insert (bound : i < n) (vacant : f i = false) (taken : g i = true)
    (others : ∀ j < n, j ≠ i → g j = f j) : (List.range n).countP g = (List.range n).countP f + 1 := by
  induction n with
  | zero => cases bound
  | succ n ih =>
    simp only [List.range_succ, List.countP_append, List.countP_singleton]
    by_cases last : i = n
    · subst last
      have before : (List.range i).countP g = (List.range i).countP f :=
        List.countP_congr fun j member => by
          have earlier := List.mem_range.mp member
          rw [others j (Nat.lt_succ_of_lt earlier) (Nat.ne_of_lt earlier)]
      rw [before, if_pos taken, vacant]
      rfl
    · rw [ih (by omega) fun j earlier => others j (Nat.lt_succ_of_lt earlier),
        others n (Nat.lt_succ_self n) (Ne.symm last)]
      omega

theorem Fakedns.occupied_lt {off : BitVec 32} (bound : off < s.poolSize) (vacant : s.pool off = none) :
    s.occupied < s.poolSize.toNat := by
  have fewer : s.occupied < (List.range s.poolSize.toNat).length := by
    refine List.countP_lt_length_iff.mpr ⟨off.toNat, List.mem_range.mpr bound, ?_⟩
    rw [BitVec.ofNat_toNat, BitVec.setWidth_eq, vacant]
    rfl
  rwa [List.length_range] at fewer

end Count

/-- A pool with an empty slot is not full. -/
theorem FakednsShape.not_full (shape : FakednsShape s) (bound : off < s.poolSize)
    (vacant : s.pool off = none) : ¬s.poolUsed ≥ s.poolSize := by
  have fewer := Fakedns.occupied_lt bound vacant
  rw [ge_iff_le, BitVec.le_def, shape.used]
  exact Nat.not_le.mpr fewer

theorem FakednsShape.used_ne_zero (shape : FakednsShape s) (held : s.pool off = some entry) :
    s.poolUsed ≠ 0 := by
  intro zero
  have used := shape.used
  rw [zero] at used
  have some_ : 0 < s.occupied := by
    refine List.countP_pos_iff.mpr ⟨off.toNat, List.mem_range.mpr (shape.addressed off entry held).1, ?_⟩
    rw [BitVec.ofNat_toNat, BitVec.setWidth_eq, held]
    rfl
  exact absurd used (Nat.ne_of_lt some_)

theorem ofNat_toNat_of_lt {i : Nat} {n : BitVec 32} (bound : i < n.toNat) :
    (BitVec.ofNat 32 i).toNat = i := by
  rw [BitVec.toNat_ofNat, Nat.mod_eq_of_lt (Nat.lt_trans bound n.isLt)]

theorem FakednsPut.occupied (put : FakednsPut s off entry t) (bound : off < s.poolSize) :
    t.occupied = if (s.pool off).isSome then s.occupied else s.occupied + 1 := by
  obtain ⟨range, pool, _⟩ := put
  simp only [Fakedns.range, Prod.mk.injEq] at range
  have own : BitVec.ofNat 32 off.toNat = off := by rw [BitVec.ofNat_toNat, BitVec.setWidth_eq]
  have others (i : Nat) (inside : i < s.poolSize.toNat) (apart : i ≠ off.toNat) :
      (t.pool (BitVec.ofNat 32 i)).isSome = (s.pool (BitVec.ofNat 32 i)).isSome := by
    have differs : BitVec.ofNat 32 i ≠ off := fun same =>
      apart (by rw [← same, ofNat_toNat_of_lt inside])
    rw [pool, Function.update_of_ne differs]
  unfold Fakedns.occupied
  rw [range.2.2.1]
  split
  · rename_i held
    refine List.countP_congr fun i member => ?_
    by_cases here : i = off.toNat
    · rw [here, own, pool, Function.update_self, held]
      rfl
    · rw [others i (List.mem_range.mp member) here]
  · rename_i vacant
    refine countP_range_insert bound ?_ ?_ others
    · rw [own]
      exact Bool.not_eq_true _ ▸ vacant
    · rw [own, pool, Function.update_self]
      rfl

theorem FakednsShape.put (shape : FakednsShape s) (put : FakednsPut s off entry t)
    (bound : off < s.poolSize) (ip : entry.ip = s.address off)
    (short : entry.domain.length < fakednsMaxDomainLen) : FakednsShape t := by
  have counted := put.occupied bound
  obtain ⟨range, pool, used⟩ := put
  simp only [Fakedns.range, Prod.mk.injEq] at range
  obtain ⟨net, maskHost, size, _⟩ := range
  refine ⟨size ▸ shape.size, fun p inside => ?_, fun p found held => ?_, fun p found held => ?_, ?_⟩
  · rw [net, maskHost]
    exact shape.inside p (size ▸ inside)
  · rw [size, Fakedns.address, net]
    by_cases own : p = off
    · rw [own, pool, Function.update_self] at held
      cases held
      exact own ▸ ⟨bound, ip⟩
    · rw [pool, Function.update_of_ne own] at held
      exact shape.addressed p found held
  · by_cases own : p = off
    · rw [own, pool, Function.update_self] at held
      cases held
      exact short
    · rw [pool, Function.update_of_ne own] at held
      exact shape.short p found held
  · rw [counted, used]
    split
    · exact shape.used
    · rename_i vacant
      have fewer := Fakedns.occupied_lt bound (Option.not_isSome_iff_eq_none.mp vacant)
      have small := s.poolSize.isLt
      have one : BitVec.toNat (1 : BitVec 32) = 1 := rfl
      rw [BitVec.toNat_add, shape.used, one, Nat.mod_eq_of_lt (by omega)]

section Keep

theorem FakednsShape.init {cidrStr : List UInt8} {memory : Bool}
    (start : fakednsInit cidrStr memory = some s) : FakednsShape s := by
  obtain ⟨inv, empty, _⟩ := fakednsInit_inv start
  obtain ⟨unused, _⟩ := fakednsInit_fresh start
  refine ⟨inv.size, inv.inside, fun off entry held => ?_, fun off entry held => ?_, ?_⟩
  · rw [empty] at held
    cases held
  · rw [empty] at held
    cases held
  · rw [unused, Fakedns.occupied]
    simp only [empty, Option.isSome_none, List.countP_false]
    rfl

/-- What a lookup writes, if it writes. -/
theorem fakednsLookupDomain_put (shape : FakednsShape s) (hash : List UInt8 → BitVec 64)
    (domain : List UInt8) (now : BitVec 32) (memory : Bool) :
    (fakednsLookupDomain hash s domain now memory).2 = s ∨ ∃ off entry,
      FakednsPut s off entry (fakednsLookupDomain hash s domain now memory).2 ∧
      off < s.poolSize ∧ entry.ip = s.address off ∧ entry.domain.length < fakednsMaxDomainLen := by
  have outcome := fakednsLookupDomain_outcome hash s domain now memory
  generalize fakednsLookupDomain hash s domain now memory = result at outcome
  cases outcome with
  | @found off entry leads held _ =>
    unfold fakednsRefresh
    split
    · exact Or.inl rfl
    · exact Or.inr ⟨off, _, ⟨rfl, rfl, by rw [held]; rfl⟩, leads.lt shape.size,
        (shape.addressed off entry held).2, shape.short off entry held⟩
  | @overwritten off entry leads held _ _ =>
    exact Or.inr ⟨off, _, ⟨rfl, fakednsOverwrite_pool held domain now, by rw [held]; rfl⟩,
      leads.lt shape.size, (shape.addressed off entry held).2, entrySetDomain_length domain⟩
  | @inserted off leads vacant =>
    exact Or.inr ⟨off, _, ⟨rfl, rfl, by rw [vacant]; rfl⟩, leads.lt shape.size, rfl,
      entrySetDomain_length domain⟩
  | rejected => exact Or.inl rfl

theorem FakednsShape.lookup (shape : FakednsShape s) (hash : List UInt8 → BitVec 64)
    (domain : List UInt8) (now : BitVec 32) (memory : Bool) :
    FakednsShape (fakednsLookupDomain hash s domain now memory).2 := by
  rcases fakednsLookupDomain_put shape hash domain now memory with same | ⟨off, entry, put, bound, ip, short⟩
  · rw [same]
    exact shape
  · exact shape.put put bound ip short

theorem FakednsShape.loadEntry (shape : FakednsShape s) {ip : BitVec 32} (inside : s.InRange ip)
    {domain : List UInt8} (short : domain.length < fakednsMaxDomainLen) (now : BitVec 32)
    (memory : Bool) :
    FakednsShape (fakednsLoadEntry s ip (htonl ip - s.fakeipNetHost) domain now memory) := by
  have own : ip = s.address (htonl ip - s.fakeipNetHost) := by
    have whole : s.fakeipNetHost + (htonl ip - s.fakeipNetHost) = htonl ip := by bv_omega
    rw [Fakedns.address, whole, htonl_htonl]
  unfold fakednsLoadEntry
  simp only
  split
  · rename_i vacant
    split
    · exact shape
    · exact shape.put ⟨rfl, rfl, by rw [vacant]; rfl⟩ inside.2 own short
  · rename_i entry held
    exact shape.put ⟨rfl, rfl, by rw [held]; rfl⟩ inside.2 (shape.addressed _ entry held).2 short

theorem FakednsShape.loadEntries (shape : FakednsShape s) (now : BitVec 32) (seek memory : Nat → Bool)
    (left i : Nat) (file : List UInt8) :
    FakednsShape (fakednsLoadEntries now seek memory left i file s) := by
  induction left generalizing i file s with
  | zero => exact shape
  | succ left ih =>
    simp only [fakednsLoadEntries]
    split
    · exact shape
    split
    · exact shape
    split
    · split
      · exact shape
      · exact ih shape _ _
    rename_i inside
    split
    · split
      · exact shape
      · exact ih shape _ _
    rename_i short
    split
    · exact shape
    rw [not_or, not_not, ge_iff_le, BitVec.not_le] at inside
    have length (file : List UInt8) := Nat.lt_of_le_of_lt (List.length_take_le _ file)
      (Nat.not_le.mp short)
    exact ih (shape.loadEntry inside (length _) now _) _ _

theorem FakednsShape.load (shape : FakednsShape s) (file : List UInt8) (now : BitVec 32)
    (seek memory : Nat → Bool) : FakednsShape (fakednsLoad s file now seek memory) := by
  unfold fakednsLoad
  split
  · exact shape
  · exact shape.loadEntries now seek memory _ _ _

theorem fakednsLoadEntry_range (s : Fakedns) (ip off : BitVec 32) (domain : List UInt8)
    (now : BitVec 32) (memory : Bool) :
    (fakednsLoadEntry s ip off domain now memory).range = s.range := by
  unfold fakednsLoadEntry
  simp only
  split
  · split <;> rfl
  · rfl

theorem fakednsLoadEntries_range (s : Fakedns) (now : BitVec 32) (seek memory : Nat → Bool)
    (left i : Nat) (file : List UInt8) :
    (fakednsLoadEntries now seek memory left i file s).range = s.range := by
  induction left generalizing i file s with
  | zero => rfl
  | succ left ih =>
    simp only [fakednsLoadEntries]
    split
    · rfl
    split
    · rfl
    split
    · split
      · rfl
      · exact ih s _ _
    split
    · split
      · rfl
      · exact ih s _ _
    split
    · rfl
    · exact (ih _ _ _).trans (fakednsLoadEntry_range ..)

theorem FakednsReached.shape (reached : FakednsReached hash s₀ s) (shape₀ : FakednsShape s₀) :
    FakednsShape s := by
  induction reached with
  | init => exact shape₀
  | lookup domain now memory _ _ ih => exact ih.lookup hash domain now memory
  | load file now seek memory _ ih => exact ih.load file now seek memory

theorem FakednsReached.range (reached : FakednsReached hash s₀ s) (shape₀ : FakednsShape s₀) :
    s.range = s₀.range := by
  induction reached with
  | init => rfl
  | lookup domain now memory before _ ih =>
    rcases fakednsLookupDomain_put (before.shape shape₀) hash domain now memory with
      same | ⟨_, _, put, _⟩
    · rw [same]
      exact ih
    · exact put.range.trans ih
  | load file now seek memory _ ih =>
    refine Eq.trans ?_ ih
    unfold fakednsLoad
    split
    · rfl
    · exact fakednsLoadEntries_range ..

end Keep

end Tproxy
