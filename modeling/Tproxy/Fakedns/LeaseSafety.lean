import Tproxy.Fakedns.Lease

namespace Tproxy

variable {hash : List UInt8 → BitVec 64} {s : Fakedns} {w w₀ w' : FakednsWorld} {domain : List UInt8}

/-- While an answer may be cached, its address is resolved to the name, as
long as fewer than 2^32 overwrites were made in its slot, and the name is
given the same address again. -/
theorem fakedns_lease (start : FakednsStart w₀) (before : FakednsRun hash w₀ w)
    (name : FakednsName domain) {memory : Bool} {x : BitVec 32}
    (answer : fakednsLookupDomain hash w.dns domain w.time memory = (x, s)) (answered : x ≠ 0)
    (after : FakednsRun hash { w with dns := s } w') (within : w'.now ≤ w.now + fakednsDnsTtl) :
    ((w'.dns.stored (htonl x - w'.dns.fakeipNetHost)).length ≤ 2 ^ 32 →
      ∀ thread bufLen, domain.length < bufLen →
        (fakednsReverseLookup w'.dns (w'.mru thread) x bufLen).1 = some domain) ∧
    ∀ memory, (fakednsLookupDomain hash w'.dns domain w'.time memory).1 = x := by
  have outcome := fakednsLookupDomain_outcome hash w.dns domain w.time memory
  rw [answer] at outcome
  have asked : FakednsStep hash w { w with dns := s } := by
    have step : FakednsStep hash w _ := .lookup domain memory name
    rwa [answer] at step
  obtain ⟨inv, _⟩ := (start.inv.run before).1.step asked
  obtain ⟨off, address, leased⟩ := outcome.leased name.2 answered fakednsDnsTtl (by decide)
  obtain ⟨inv', grows, _⟩ := inv.run after
  obtain ⟨leads, entry, holds, same, _⟩ := Leased.run inv name leased after within
  have there : x = w'.dns.address off := by
    rw [Fakedns.address, (Prod.mk.inj grows.range).1]
    exact address
  have bound := leads.lt inv'.pool.size
  rw [cStr_of_free name.1] at same
  refine ⟨fun unwrapped thread bufLen fits => ?_, fun memory => ?_⟩
  · rw [there, PoolInv.address_slot] at unwrapped
    rw [there, fakednsReverseLookup_answer inv'.pool (inv'.cached thread) bound holds unwrapped
      (same ▸ fits), same]
  · rw [there, fakednsLookupDomain_found inv'.pool.size leads holds
      (same.trans (cStr_of_free name.1).symm)]

/-- The empty pool of `10.0.0.0/24`. -/
def slash24 : Fakedns where
  fakeipNetHost := 0x0A000000
  fakeipMaskHost := 0xFFFFFF00
  poolSize := 256
  poolUsed := 0
  maxProbes := 128
  cidrStr := [49, 48, 46, 48, 46, 48, 46, 48, 47, 50, 52]
  pool _ := none
  stored _ := []

theorem slash24_start : FakednsStart ⟨slash24, fun _ => fakednsMruZero, 0⟩ :=
  .init slash24.cidrStr 0 rfl

/-- The hash that maps every name to the first slot. -/
def sameHash (_ : List UInt8) : BitVec 64 := 0#64

/-- The answer for `a` at time 0 still holds an hour later. -/
theorem fakedns_lease_hour : ∃ w : FakednsWorld, w.now = 3600 ∧
    (fakednsReverseLookup w.dns (w.mru 0) (htonl 0x0A000000) 244).1 = some [97] := by
  have answer : fakednsLookupDomain sameHash slash24 [97] 0 true = (htonl 0x0A000000, _) := rfl
  have later : FakednsRun sameHash
      ⟨(fakednsLookupDomain sameHash slash24 [97] 0 true).2, fun _ => fakednsMruZero, 0⟩ _ :=
    .single (.tick 3600 (Nat.zero_le _))
  have name : FakednsName [97] := by decide
  have hour : 3600 ≤ 0 + fakednsDnsTtl := by decide
  obtain ⟨resolved, _⟩ := fakedns_lease slash24_start .refl name answer (by decide) later hour
  exact ⟨_, rfl, resolved (by decide) 0 244 (by decide)⟩

section Wrap

/-- The names stored one after the other: `a`, and then `c` and `b` by turns. -/
def turn (k : Nat) : List UInt8 := if k = 0 then [97] else if k % 2 = 0 then [98] else [99]

theorem turn_name (k : Nat) : FakednsName (turn k) := by
  unfold turn
  split
  · decide
  · split <;> decide

theorem turn_succ (k : Nat) : turn (k + 1) ≠ turn k := by
  unfold turn
  grind

/-- The cache after `a` was resolved. -/
def cachedTurn : FakednsMru where
  data := Function.update fakednsMruZero.data (Fin.last 7) ⟨htonl 0x0A000000, 1, true, [97]⟩
  ptrs := fakednsMoveToFront id (Fin.last 7)
  init := true

/-- All names meet in the first slot of the pool, which was overwritten `k` times. -/
structure Turned (w : FakednsWorld) (k : Nat) : Prop where
  range : (w.dns.fakeipNetHost, w.dns.fakeipMaskHost, w.dns.poolSize, w.dns.maxProbes) =
    (slash24.fakeipNetHost, slash24.fakeipMaskHost, slash24.poolSize, slash24.maxProbes)
  pool : ∃ ip, w.dns.pool = Function.update slash24.pool 0 (some
    ⟨ip, w.time + BitVec.ofNat 32 fakednsEntryLifetime, BitVec.ofNat 32 (k + 1), turn k⟩)
  mru : w.mru 0 = cachedTurn

theorem Turned.start : ∃ w, FakednsRun sameHash ⟨slash24, fun _ => fakednsMruZero, 0⟩ w ∧ Turned w 0 := by
  have asked : FakednsStep sameHash ⟨slash24, fun _ => fakednsMruZero, 0⟩ _ :=
    .lookup (turn 0) true (turn_name 0)
  have resolved := Relation.ReflTransGen.tail (.single asked) (.reverse 0 (htonl 0x0A000000) 244)
  refine ⟨_, resolved, rfl, ⟨htonl 0x0A000000, ?_⟩, ?_⟩
  · rfl
  · rfl

/-- A day later the name in the slot has expired, and the next one replaces it. -/
theorem Turned.lookup {w : FakednsWorld} {k : Nat} (turned : Turned w k) (memory : Bool) :
    fakednsLookupDomain sameHash w.dns (turn (k + 1)) (BitVec.ofNat 32 (w.now + 86401)) memory =
      (htonl 0x0A000000, fakednsOverwrite w.dns 0 (turn (k + 1)) (BitVec.ofNat 32 (w.now + 86401))) := by
  obtain ⟨range, ⟨ip, pool⟩, _⟩ := turned
  obtain ⟨net, rest⟩ := Prod.mk.inj range
  obtain ⟨size, probes⟩ := Prod.mk.inj (Prod.mk.inj rest).2
  have expired : FakednsEntry.remaining ⟨ip, w.time + BitVec.ofNat 32 fakednsEntryLifetime,
      BitVec.ofNat 32 (k + 1), turn k⟩ (BitVec.ofNat 32 (w.now + 86401)) < 0 := by
    have minus : w.time + BitVec.ofNat 32 fakednsEntryLifetime - BitVec.ofNat 32 (w.now + 86401) = -1 := by
      rw [FakednsWorld.time, BitVec.ofNat_add, fakednsEntryLifetime]
      bv_omega
    rw [FakednsEntry.remaining, minus]
    decide
  have differs : ¬ cStr (turn k) = cStr (turn (k + 1)) := by
    rw [cStr_of_free (turn_name k).1, cStr_of_free (turn_name (k + 1)).1]
    exact (turn_succ k).symm
  have first : w.dns.pool 0 = some
      ⟨ip, w.time + BitVec.ofNat 32 fakednsEntryLifetime, BitVec.ofNat 32 (k + 1), turn k⟩ := by
    rw [pool, Function.update_self]
  have second : w.dns.pool 1 = none := by
    rw [pool, Function.update_of_ne (by decide)]
    rfl
  have probe : fakednsProbe w.dns.pool (turn (k + 1)) (BitVec.ofNat 32 (w.now + 86401)) 1 255 128 0 none =
      .missed (some 1) (some 0) := by
    rw [fakednsProbe, first]
    simp only [if_neg differs, if_pos expired]
    have next : fakednsNextOffset 1 255 0 = 1 := by decide
    rw [next, fakednsProbe, second]
  have offset : w.dns.offset sameHash (turn (k + 1)) = 0 := by
    simp only [Fakedns.offset, sameHash, BitVec.zero_and, BitVec.setWidth_zero]
    rfl
  have mask : w.dns.poolMask = 255 := by
    rw [Fakedns.poolMask, size]
    rfl
  have probes : w.dns.maxProbes = 128 := probes
  have step : fakednsStep sameHash (turn (k + 1)) = 1 := by
    rw [fakednsStep, sameHash]
    decide
  rw [fakednsLookupDomain, if_neg (by rw [size]; decide), offset, mask, probes, step, probe]
  simp only [Fakedns.address, net]
  rfl

/-- A day later, with the next name in the slot. -/
def nextTurn (w : FakednsWorld) (k : Nat) : FakednsWorld := { w with
  dns := fakednsOverwrite w.dns 0 (turn (k + 1)) (BitVec.ofNat 32 (w.now + 86401))
  now := w.now + 86401 }

theorem Turned.later {w : FakednsWorld} {k : Nat} (turned : Turned w k) :
    Turned (nextTurn w k) (k + 1) := by
  obtain ⟨range, ⟨ip, pool⟩, mru⟩ := turned
  refine ⟨range, ⟨ip, ?_⟩, mru⟩
  simp only [nextTurn, fakednsOverwrite, pool, Function.update_self, Option.map_some,
    Function.update_idem, FakednsWorld.time, entrySetDomain_of_lt (turn_name _).2, BitVec.ofNat_add]
  rfl

theorem Turned.next {w : FakednsWorld} {k : Nat} (turned : Turned w k) :
    FakednsRun sameHash w (nextTurn w k) := by
  have day : FakednsStep sameHash w { w with now := w.now + 86401 } := .tick _ (Nat.le_add_right ..)
  have asked := Relation.ReflTransGen.tail (.single day) (.lookup (turn (k + 1)) true (turn_name _))
  have looked := turned.lookup true
  simp only [FakednsWorld.time] at asked
  rw [looked] at asked
  exact asked

theorem Turned.reach (k : Nat) :
    ∃ w, FakednsRun sameHash ⟨slash24, fun _ => fakednsMruZero, 0⟩ w ∧ Turned w k := by
  induction k with
  | zero => exact Turned.start
  | succ k ih =>
    obtain ⟨w, run, turned⟩ := ih
    exact ⟨_, run.trans turned.next, turned.later⟩

/-- After 2^32 overwrites of a slot its version is the cached one again. -/
theorem Turned.stale {w : FakednsWorld} (turned : Turned w (2 ^ 32 - 1)) :
    (fakednsReverseLookup (nextTurn w (2 ^ 32 - 1)).dns (w.mru 0) (htonl 0x0A000000)
      fakednsMaxDomainLen).1 = some [97] := by
  obtain ⟨range, ⟨ip, pool⟩, mru⟩ := turned
  obtain ⟨net, rest⟩ := Prod.mk.inj range
  obtain ⟨maskHost, rest⟩ := Prod.mk.inj rest
  have size := (Prod.mk.inj rest).1
  have slot : htonl (htonl 0x0A000000) - w.dns.fakeipNetHost = 0 := by
    rw [net]
    decide
  have found : (List.finRange fakednsMruSize).find? (fun i =>
      (cachedTurn.data (cachedTurn.ptrs i)).valid &&
        (cachedTurn.data (cachedTurn.ptrs i)).ip = htonl 0x0A000000) = some 0 := by
    decide
  have stale : (fakednsMruLookup (nextTurn w (2 ^ 32 - 1)).dns cachedTurn (htonl 0x0A000000) 0
      fakednsMaxDomainLen).1 = some [97] := by
    simp only [fakednsMruLookup, found, nextTurn, fakednsOverwrite, Function.update_self, pool,
      Option.map_some, Option.all_some]
    rfl
  have init : fakednsMruInit cachedTurn = cachedTurn := rfl
  have inside : htonl (htonl 0x0A000000) &&& w.dns.fakeipMaskHost = w.dns.fakeipNetHost := by
    rw [net, maskHost]
    decide
  have bound : ¬ (0 : BitVec 32) ≥ w.dns.poolSize := by
    rw [size]
    decide
  have range : ((nextTurn w (2 ^ 32 - 1)).dns.fakeipNetHost, (nextTurn w (2 ^ 32 - 1)).dns.fakeipMaskHost,
      (nextTurn w (2 ^ 32 - 1)).dns.poolSize) =
      (w.dns.fakeipNetHost, w.dns.fakeipMaskHost, w.dns.poolSize) := rfl
  generalize (nextTurn w (2 ^ 32 - 1)).dns = s at stale range ⊢
  obtain ⟨net', rest⟩ := Prod.mk.inj range
  obtain ⟨maskHost', size'⟩ := Prod.mk.inj rest
  simp only [fakednsReverseLookup, mru, init, net', maskHost', size', slot]
  rw [if_neg (by decide), if_neg (not_not.mpr inside), if_neg bound]
  split
  · rename_i run
    rw [run] at stale
    exact stale
  · rename_i run
    rw [run] at stale
    cases stale

/-- The address that was just given to `b` is resolved to `a`. -/
theorem fakedns_lease_wraps : ∃ hash w₀ w domain x s, FakednsStart w₀ ∧ FakednsRun hash w₀ w ∧
    FakednsName domain ∧ fakednsLookupDomain hash w.dns domain w.time true = (x, s) ∧ x ≠ 0 ∧
      (fakednsReverseLookup s (w.mru 0) x fakednsMaxDomainLen).1 ≠ some domain := by
  obtain ⟨w, run, turned⟩ := Turned.reach (2 ^ 32 - 1)
  have day : FakednsStep sameHash w { w with now := w.now + 86401 } := .tick _ (Nat.le_add_right ..)
  have answer := turned.stale
  rw [nextTurn] at answer
  refine ⟨sameHash, _, _, turn (2 ^ 32), _, _, slash24_start, run.tail day, turn_name _,
    turned.lookup true, by decide, ?_⟩
  rw [answer]
  decide

end Wrap
end Tproxy
