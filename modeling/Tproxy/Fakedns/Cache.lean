import Tproxy.Fakedns.Chain
import Tproxy.Fakedns.World

namespace Tproxy

variable {hash : List UInt8 → BitVec 64} {s s' : Fakedns} {m : FakednsMru} {domain : List UInt8}
  {now off ip : BitVec 32} {entry : FakednsEntry} {item : FakednsMruEntry} {bufLen : Nat}

/-- What a slot holds, and what was stored in it: the version counts the latter. -/
def SlotOk : Option FakednsEntry → List (List UInt8) → Prop
  | none, names => names = []
  | some entry, names => entry.domain.length < fakednsMaxDomainLen ∧
      ∃ older, names = cStr entry.domain :: older ∧
        entry.version = BitVec.ofNat 32 (older.length + 1)

/-- The invariant of the pool. -/
structure PoolInv (s : Fakedns) : Prop where
  size : s.poolSize ≠ 0
  inside : ∀ off < s.poolSize, (s.fakeipNetHost + off) &&& s.fakeipMaskHost = s.fakeipNetHost
  slots : ∀ off, SlotOk (s.pool off) (s.stored off)

/-- A valid item of a cache was stored in the slot of its address, when the
version was the item's. -/
def Cached (s : Fakedns) (item : FakednsMruEntry) : Prop :=
  item.valid = true → ∃ later earlier,
    s.stored (htonl item.ip - s.fakeipNetHost) = later ++ item.domain :: earlier ∧
      item.version = BitVec.ofNat 32 (earlier.length + 1)

/-- The invariant of a run. -/
structure WorldInv (w : FakednsWorld) : Prop where
  pool : PoolInv w.dns
  cached : ∀ thread i, Cached w.dns ((w.mru thread).data i)

/-- How the pool develops: its range stays, and names are only added. -/
structure PoolGrows (s s' : Fakedns) : Prop where
  range : (s'.fakeipNetHost, s'.fakeipMaskHost, s'.poolSize, s'.maxProbes) =
    (s.fakeipNetHost, s.fakeipMaskHost, s.poolSize, s.maxProbes)
  stored : ∀ off, s.stored off <:+ s'.stored off

theorem htonl_htonl (x : BitVec 32) : htonl (htonl x) = x := by
  refine BitVec.eq_of_getLsbD_eq fun i bound => ?_
  simp only [htonl, BitVec.getLsbD_append, BitVec.getLsbD_extractLsb']
  grind

theorem PoolInv.update (inv : PoolInv s) {slot : Option FakednsEntry} {names : List (List UInt8)}
    (ok : SlotOk slot names) (off p : BitVec 32) :
    SlotOk (Function.update s.pool off slot p) (Function.update s.stored off names p) := by
  by_cases own : p = off
  · subst own
    rw [Function.update_self, Function.update_self]
    exact ok
  · rw [Function.update_of_ne own, Function.update_of_ne own]
    exact inv.slots p

theorem entrySetDomain_length (domain : List UInt8) :
    (entrySetDomain domain).length < fakednsMaxDomainLen := by
  unfold entrySetDomain
  split
  · exact Nat.lt_of_le_of_lt (List.length_take_le _ _) (by decide)
  · rename_i short
    exact Nat.lt_of_le_of_lt (List.length_take_le _ _) (Nat.not_le.mp short)

theorem PoolInv.refresh (inv : PoolInv s) (holds : s.pool off = some entry) :
    PoolInv (fakednsRefresh s off entry now) := by
  unfold fakednsRefresh
  split
  · exact inv
  · have ok := inv.slots off
    rw [holds] at ok
    have refreshed : SlotOk (some { entry with
        expire := now + BitVec.ofNat 32 fakednsEntryLifetime }) (s.stored off) := ⟨ok.1, ok.2⟩
    refine { inv with slots := fun p => ?_ }
    have updated := inv.update refreshed off p
    rwa [Function.update_eq_self] at updated

theorem PoolInv.overwrite (inv : PoolInv s) (holds : s.pool off = some entry) :
    PoolInv (fakednsOverwrite s off domain now) := by
  refine { inv with slots := inv.update ?_ off }
  have ok := inv.slots off
  rw [holds] at ok ⊢
  obtain ⟨_, older, names, version⟩ := ok
  refine ⟨entrySetDomain_length domain, s.stored off, rfl, ?_⟩
  simp only [version, names, List.length_cons]
  exact (BitVec.ofNat_add ..).symm

theorem PoolInv.insert (inv : PoolInv s) (off : BitVec 32) :
    PoolInv (fakednsInsert s off domain now) := by
  have stored : SlotOk (some ⟨s.address off, now + BitVec.ofNat 32 fakednsEntryLifetime, 1,
      entrySetDomain domain⟩) [cStr (entrySetDomain domain)] :=
    ⟨entrySetDomain_length domain, [], rfl, rfl⟩
  exact { inv with slots := inv.update stored off }

theorem PoolGrows.refl (s : Fakedns) : PoolGrows s s := ⟨rfl, fun _ => List.suffix_rfl⟩

theorem PoolGrows.stored_update (s : Fakedns) (off : BitVec 32) {names : List (List UInt8)}
    (grows : s.stored off <:+ names) (p : BitVec 32) :
    s.stored p <:+ Function.update s.stored off names p := by
  by_cases own : p = off
  · subst own
    exact (Function.update_self p names s.stored).symm ▸ grows
  · exact (Function.update_of_ne own names s.stored).symm ▸ List.suffix_rfl

/-- Each outcome of a lookup keeps the pool. -/
theorem FakednsOutcome.keeps {result : BitVec 32 × Fakedns}
    (outcome : FakednsOutcome hash s domain now result) (inv : PoolInv s) :
    PoolInv result.2 ∧ PoolGrows s result.2 := by
  cases outcome with
  | found _ holds _ =>
    refine ⟨inv.refresh holds, ?_⟩
    unfold fakednsRefresh
    split
    · exact .refl s
    · exact ⟨rfl, fun _ => List.suffix_rfl⟩
  | overwritten _ holds =>
    exact ⟨inv.overwrite holds, rfl, PoolGrows.stored_update s _ (List.suffix_cons ..)⟩
  | @inserted off _ vacant =>
    have unused := inv.slots off
    rw [vacant] at unused
    have unused : s.stored off = [] := unused
    exact ⟨inv.insert off, rfl, PoolGrows.stored_update s off (unused ▸ List.nil_suffix)⟩
  | rejected => exact ⟨inv, .refl s⟩

theorem Cached.grow (cached : Cached s item) (grows : PoolGrows s s') : Cached s' item := by
  intro valid
  obtain ⟨later, earlier, stored, version⟩ := cached valid
  obtain ⟨newer, more⟩ := grows.stored (htonl item.ip - s.fakeipNetHost)
  refine ⟨newer ++ later, earlier, ?_, version⟩
  rw [(Prod.mk.inj grows.range).1, ← more, stored, List.append_assoc]

section Reverse

/-- An item of a cache that is replaced. -/
theorem Cached.update {data : Fin fakednsMruSize → FakednsMruEntry} (cached : ∀ i, Cached s (data i))
    (new : Cached s item) (j i : Fin fakednsMruSize) : Cached s (Function.update data j item i) := by
  by_cases own : i = j
  · subst own
    rwa [Function.update_self]
  · rw [Function.update_of_ne own]
    exact cached i

theorem fakednsMruLookup_cached (cached : ∀ i, Cached s (m.data i)) (ip off : BitVec 32)
    (bufLen : Nat) :
    ∀ i, Cached s ((fakednsMruLookup s m ip off bufLen).2.data i) := by
  unfold fakednsMruLookup
  split
  · exact cached
  · simp only
    split
    · exact Cached.update cached (fun valid => by cases valid) _
    · exact cached

theorem strncopy_entry (ok : SlotOk (some entry) (s.stored off)) :
    strncopy entry.domain (fakednsMaxDomainLen - 1) = cStr entry.domain := by
  refine strncopy_of_length_le ?_
  have short := ok.1
  have prefixLength := (List.takeWhile_prefix (l := entry.domain) (· ≠ 0)).length_le
  simp only [fakednsMaxDomainLen] at short ⊢
  exact Nat.le_trans prefixLength (by omega)

theorem fakednsPoolLookup_cached (inv : PoolInv s) (slot : off = htonl ip - s.fakeipNetHost)
    (cached : ∀ i, Cached s (m.data i)) :
    ∀ i, Cached s ((fakednsPoolLookup s m ip off bufLen).2.data i) := by
  have ok := inv.slots off
  unfold fakednsPoolLookup
  split
  · exact cached
  · rename_i entry holds
    rw [holds] at ok
    refine Cached.update cached (fun _ => ?_) _
    obtain ⟨older, names, version⟩ := ok.2
    refine ⟨[], older, ?_, version⟩
    simp only [strncopy_entry ok, ← slot, names, List.nil_append]

theorem fakednsReverseLookup_cached (inv : PoolInv s) (cached : ∀ i, Cached s (m.data i)) :
    ∀ i, Cached s ((fakednsReverseLookup s m ip bufLen).2.data i) := by
  have ready : ∀ i, Cached s ((fakednsMruInit m).data i) := by
    unfold fakednsMruInit
    split <;> exact cached
  unfold fakednsReverseLookup
  simp only
  split
  · exact cached
  split
  · exact cached
  split
  · exact cached
  have fast := fakednsMruLookup_cached ready ip (htonl ip - s.fakeipNetHost) bufLen
  split
  · rename_i run
    rwa [run] at fast
  · rename_i run
    rw [run] at fast
    exact fakednsPoolLookup_cached inv rfl fast

/-- As long as the version has not wrapped around, an item with the version
of the slot has its name. -/
theorem Cached.newest (cached : Cached s item) (valid : item.valid = true)
    (ok : SlotOk (some entry) (s.stored (htonl item.ip - s.fakeipNetHost)))
    (same : entry.version = item.version)
    (unwrapped : (s.stored (htonl item.ip - s.fakeipNetHost)).length ≤ 2 ^ 32) :
    item.domain = cStr entry.domain := by
  obtain ⟨later, earlier, stored, itemVersion⟩ := cached valid
  obtain ⟨_, older, names, version⟩ := ok
  rw [stored] at names unwrapped
  have lengths := congrArg List.length names
  rw [version, itemVersion] at same
  have same := congrArg BitVec.toNat same
  simp only [BitVec.toNat_ofNat, List.length_append, List.length_cons] at same lengths unwrapped
  have none : later.length = 0 := by omega
  rw [List.length_eq_zero_iff.mp none, List.nil_append] at names
  exact (List.cons.inj names).1

/-- What the fast path answers for a slot is the name in it. -/
theorem fakednsMruLookup_answer (ok : SlotOk (some entry) (s.stored (htonl ip - s.fakeipNetHost)))
    (holds : s.pool (htonl ip - s.fakeipNetHost) = some entry) (cached : ∀ i, Cached s (m.data i))
    (unwrapped : (s.stored (htonl ip - s.fakeipNetHost)).length ≤ 2 ^ 32) {answer : List UInt8}
    (hit : (fakednsMruLookup s m ip (htonl ip - s.fakeipNetHost) bufLen).1 = some answer) :
    answer = strncopy (cStr entry.domain) (bufLen - 1) := by
  unfold fakednsMruLookup at hit
  split at hit
  · cases hit
  rename_i i found
  simp only [holds, Option.all_some, ne_eq, decide_not, Bool.not_eq_true', decide_eq_false_iff_not] at hit
  split at hit
  · cases hit
  rename_i same
  have item := List.find?_some found
  simp only [Bool.and_eq_true, decide_eq_true_eq] at item
  obtain ⟨valid, rfl⟩ := item
  rw [← Option.some.inj hit, (cached _).newest valid ok (not_not.mp same) unwrapped]

theorem PoolInv.address_slot (s : Fakedns) (off : BitVec 32) :
    htonl (s.address off) - s.fakeipNetHost = off := by
  rw [Fakedns.address, htonl_htonl]
  bv_omega

/-- Distinct slots have distinct addresses. -/
theorem Fakedns.address_injective (s : Fakedns) : Function.Injective s.address := by
  intro off off' same
  have slot := PoolInv.address_slot s off
  rw [same, PoolInv.address_slot] at slot
  exact slot.symm

/-- The address of a slot is resolved to the name in it, as long as that was
stored at most 2^32 times. -/
theorem fakednsReverseLookup_answer (inv : PoolInv s) (cached : ∀ i, Cached s (m.data i))
    (bound : off < s.poolSize) (holds : s.pool off = some entry)
    (unwrapped : (s.stored off).length ≤ 2 ^ 32) (fits : (cStr entry.domain).length < bufLen) :
    (fakednsReverseLookup s m (s.address off) bufLen).1 = some (cStr entry.domain) := by
  have ready : ∀ i, Cached s ((fakednsMruInit m).data i) := by
    unfold fakednsMruInit
    split <;> exact cached
  have ok := inv.slots off
  rw [holds] at ok
  have inside : htonl (s.address off) &&& s.fakeipMaskHost = s.fakeipNetHost := by
    rw [Fakedns.address, htonl_htonl]
    exact inv.inside off bound
  have slot := PoolInv.address_slot s off
  simp only [fakednsReverseLookup]
  rw [if_neg (by omega), if_neg (not_not.mpr inside), if_neg (by rw [slot]; exact BitVec.not_le.mpr bound)]
  rw [← slot] at ok holds unwrapped
  split
  · rename_i answer _ run
    have hit := congrArg Prod.fst run
    rw [fakednsMruLookup_answer ok holds ready unwrapped hit, strncopy, cStr_cStr,
      List.take_of_length_le (by omega)]
  · simp only [fakednsPoolLookup, holds, strncopy_entry ok]
    rw [if_neg (by omega), List.take_length]

end Reverse

end Tproxy
