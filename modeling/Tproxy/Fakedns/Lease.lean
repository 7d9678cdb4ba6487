import Tproxy.Fakedns.Run
import Tproxy.Lib.TimedRun

namespace Tproxy

variable {hash : List UInt8 → BitVec 64} {s s' : Fakedns} {w w₀ w' : FakednsWorld}
  {domain other content : List UInt8} {now off p : BitVec 32} {entry : FakednsEntry} {margin : Int}

/-- The slot holds a string for at least `margin` seconds. -/
def SlotHolds (content : List UInt8) (off : BitVec 32) (margin : Int) (s : Fakedns)
    (now : BitVec 32) : Prop :=
  ∃ entry, s.pool off = some entry ∧ cStr entry.domain = content ∧ margin ≤ entry.remaining now

/-- The chain of a name leads to a slot that holds it for at least `margin` seconds. -/
structure Leased (hash : List UInt8 → BitVec 64) (domain : List UInt8) (off : BitVec 32)
    (margin : Int) (s : Fakedns) (now : BitVec 32) : Prop where
  leads : s.Leads hash domain off
  holds : ∃ entry, s.pool off = some entry ∧ cStr entry.domain = cStr domain ∧
    margin ≤ entry.remaining now

theorem entrySetDomain_of_lt (fits : domain.length < fakednsMaxDomainLen) :
    entrySetDomain domain = domain := by
  rw [entrySetDomain, if_neg (Nat.not_le.mpr fits), List.take_length]

/-- A lifetime that starts now. -/
theorem remaining_lifetime (entry : FakednsEntry) (now : BitVec 32) :
    FakednsEntry.remaining { entry with expire := now + BitVec.ofNat 32 fakednsEntryLifetime } now =
      86400 := by
  have same : now + BitVec.ofNat 32 fakednsEntryLifetime - now =
      BitVec.ofNat 32 fakednsEntryLifetime := by
    rw [fakednsEntryLifetime]
    bv_omega
  rw [FakednsEntry.remaining, same]
  decide

/-- What remains of a lifetime shrinks with the time, also where this wraps around. -/
theorem remaining_later (entry : FakednsEntry) (time d : Nat)
    (lives : (d : Int) ≤ entry.remaining (BitVec.ofNat 32 time)) :
    entry.remaining (BitVec.ofNat 32 (time + d)) = entry.remaining (BitVec.ofNat 32 time) - d := by
  have bound := (entry.expire - BitVec.ofNat 32 time).toInt_lt
  have later : entry.expire - BitVec.ofNat 32 (time + d) =
      entry.expire - BitVec.ofNat 32 time - BitVec.ofNat 32 d := by
    rw [BitVec.ofNat_add]
    bv_omega
  have bmod (x : Int) (low : -2 ^ 31 ≤ x) (high : x < 2 ^ 31) : x.bmod (2 ^ 32) = x :=
    Int.bmod_eq_of_le (by omega) (by omega)
  have least := BitVec.le_toInt (entry.expire - BitVec.ofNat 32 time)
  simp only [FakednsEntry.remaining] at lives ⊢
  rw [later, BitVec.toInt_sub, BitVec.toInt_ofNat', bmod d (by omega) (by omega),
    bmod _ (by omega) (by omega)]

section Chains

theorem Fakedns.Leads.keep (leads : s.Leads hash domain off)
    (range : (s'.poolSize, s'.maxProbes) = (s.poolSize, s.maxProbes))
    (others : ∀ p, p ≠ off → HoldsOther s.pool domain p → HoldsOther s'.pool domain p) :
    s'.Leads hash domain off := by
  obtain ⟨size, probes⟩ := Prod.mk.inj range
  rw [Fakedns.Leads, Fakedns.offset, Fakedns.poolMask, size, probes]
  exact LeadsTo.mono leads others

theorem fakednsRefresh_range (s : Fakedns) (off : BitVec 32) (entry : FakednsEntry) (now : BitVec 32) :
    ((fakednsRefresh s off entry now).poolSize, (fakednsRefresh s off entry now).maxProbes) =
      (s.poolSize, s.maxProbes) := by
  unfold fakednsRefresh
  split <;> rfl

theorem HoldsOther.elsewhere {pool : BitVec 32 → Option FakednsEntry} (apart : p ≠ off)
    (slot : Option FakednsEntry) (other : HoldsOther pool domain p) :
    HoldsOther (Function.update pool off slot) domain p := by
  obtain ⟨found, occupied, differs⟩ := other
  exact ⟨found, (Function.update_of_ne apart ..).trans occupied, differs⟩

/-- A slot that is given to another name. -/
theorem HoldsOther.update {pool : BitVec 32 → Option FakednsEntry} {new : FakednsEntry}
    (differs : cStr new.domain ≠ cStr domain) (other : HoldsOther pool domain p) :
    HoldsOther (Function.update pool off (some new)) domain p := by
  by_cases own : p = off
  · rw [own]
    exact ⟨new, Function.update_self .., differs⟩
  · exact other.elsewhere own _

/-- A refresh changes no name. -/
theorem HoldsOther.refresh (holds : s.pool off = some entry) (other : HoldsOther s.pool domain p) :
    HoldsOther (fakednsRefresh s off entry now).pool domain p := by
  unfold fakednsRefresh
  split
  · exact other
  · by_cases own : p = off
    · obtain ⟨found, occupied, differs⟩ := other
      rw [own, holds] at occupied
      cases occupied
      rw [own]
      exact ⟨_, Function.update_self .., differs⟩
    · exact other.elsewhere own _

/-- The entry that holds a name after an overwrite. -/
theorem fakednsOverwrite_pool (holds : s.pool off = some entry) (domain : List UInt8)
    (now : BitVec 32) :
    (fakednsOverwrite s off domain now).pool = Function.update s.pool off (some { entry with
      domain := entrySetDomain domain
      expire := now + BitVec.ofNat 32 fakednsEntryLifetime
      version := entry.version + 1 }) := by
  simp only [fakednsOverwrite, holds, Option.map_some]

end Chains

section Slots

/-- A refreshed match holds its name for the time to live of an answer. -/
theorem SlotHolds.refresh (holds : s.pool off = some entry) (same : cStr entry.domain = content)
    (short : margin ≤ fakednsTtlRefreshThreshold) :
    SlotHolds content off margin (fakednsRefresh s off entry now) now := by
  unfold fakednsRefresh
  split
  · rename_i long
    exact ⟨entry, holds, same, by omega⟩
  · refine ⟨_, Function.update_self .., same, ?_⟩
    rw [remaining_lifetime]
    simp only [fakednsTtlRefreshThreshold] at short
    omega

/-- A lookup of any bytes keeps what a slot holds for a time. -/
theorem FakednsOutcome.keeps_slot {result : BitVec 32 × Fakedns}
    (outcome : FakednsOutcome hash s other now result) (held : SlotHolds content off margin s now)
    (live : 0 ≤ margin) (short : margin ≤ fakednsTtlRefreshThreshold) :
    SlotHolds content off margin result.2 now := by
  obtain ⟨entry, holds, same, remains⟩ := held
  have elsewhere {p : BitVec 32} {slot : Option FakednsEntry} (apart : p ≠ off) :
      Function.update s.pool p slot off = some entry := by
    rw [Function.update_of_ne apart.symm, holds]
  cases outcome with
  | @found p found _ occupied _ =>
    by_cases own : p = off
    · rw [own] at occupied ⊢
      cases holds.symm.trans occupied
      exact .refresh holds same short
    · refine ⟨entry, ?_, same, remains⟩
      unfold fakednsRefresh
      split
      · exact holds
      · exact elsewhere own
  | @overwritten p found _ occupied _ expired =>
    have apart : p ≠ off := by
      intro own
      rw [own, holds] at occupied
      cases occupied
      omega
    rw [SlotHolds, fakednsOverwrite_pool occupied]
    exact ⟨entry, elsewhere apart, same, remains⟩
  | @inserted p _ vacant =>
    have apart : p ≠ off := by
      intro own
      rw [own, holds] at vacant
      cases vacant
    exact ⟨entry, elsewhere apart, same, remains⟩
  | rejected => exact ⟨entry, holds, same, remains⟩

/-- Time passes while a slot holds a string. -/
theorem SlotHolds.tick {time later : Nat}
    (held : SlotHolds content off margin s (BitVec.ofNat 32 time)) (forward : time ≤ later)
    (within : (later - time : Nat) ≤ margin) :
    SlotHolds content off (margin - (later - time : Nat)) s (BitVec.ofNat 32 later) := by
  obtain ⟨entry, holds, same, remains⟩ := held
  refine ⟨entry, holds, same, ?_⟩
  have passed := remaining_later entry time (later - time) (by omega)
  rw [Nat.add_sub_cancel' forward] at passed
  omega

end Slots

/-- A refreshed match is leased for the time to live of an answer. -/
theorem Leased.refresh (leads : s.Leads hash domain off) (holds : s.pool off = some entry)
    (same : cStr entry.domain = cStr domain) (short : margin ≤ fakednsTtlRefreshThreshold) :
    Leased hash domain off margin (fakednsRefresh s off entry now) now :=
  ⟨leads.keep (fakednsRefresh_range ..) fun _ _ => HoldsOther.refresh holds,
    SlotHolds.refresh holds same short⟩

/-- An answer is leased from the start. -/
theorem FakednsOutcome.leased {result : BitVec 32 × Fakedns}
    (outcome : FakednsOutcome hash s domain now result) (fits : domain.length < fakednsMaxDomainLen)
    (answered : result.1 ≠ 0) (margin : Int) (short : margin ≤ fakednsTtlRefreshThreshold) :
    ∃ off, result.1 = result.2.address off ∧ Leased hash domain off margin result.2 now := by
  have lifetime : margin ≤ 86400 := by
    simp only [fakednsTtlRefreshThreshold] at short
    omega
  cases outcome with
  | @found off entry leads holds same =>
    refine ⟨off, ?_, .refresh leads holds same short⟩
    unfold fakednsRefresh
    split <;> rfl
  | @overwritten off entry leads holds differs _ =>
    refine ⟨off, rfl, leads.keep rfl fun p apart => ?_, ?_⟩
    · rw [fakednsOverwrite_pool holds]
      exact HoldsOther.elsewhere apart _
    · rw [fakednsOverwrite_pool holds]
      refine ⟨_, Function.update_self .., congrArg cStr (entrySetDomain_of_lt fits), ?_⟩
      exact lifetime.trans_eq (remaining_lifetime ⟨entry.ip, 0, entry.version + 1, _⟩ now).symm
  | @inserted off leads vacant =>
    refine ⟨off, rfl, leads.keep rfl fun p apart => HoldsOther.elsewhere apart _, ?_⟩
    refine ⟨_, Function.update_self .., congrArg cStr (entrySetDomain_of_lt fits), ?_⟩
    exact lifetime.trans_eq (remaining_lifetime ⟨s.address off, 0, 1, _⟩ now).symm
  | rejected => exact absurd rfl answered

/-- Looking up another name keeps a lease. -/
theorem FakednsOutcome.keeps_lease {result : BitVec 32 × Fakedns}
    (outcome : FakednsOutcome hash s other now result)
    (leased : Leased hash domain off margin s now) (live : 0 ≤ margin)
    (short : margin ≤ fakednsTtlRefreshThreshold) (name : FakednsName other)
    (differs : cStr other ≠ cStr domain) : Leased hash domain off margin result.2 now := by
  have stored : cStr (entrySetDomain other) ≠ cStr domain := by rwa [entrySetDomain_of_lt name.2]
  refine ⟨?_, outcome.keeps_slot leased.holds live short⟩
  have leads := leased.leads
  cases outcome with
  | found _ occupied _ =>
    exact leads.keep (fakednsRefresh_range ..) fun p _ => HoldsOther.refresh occupied
  | overwritten _ occupied _ _ =>
    refine leads.keep rfl fun p _ => ?_
    rw [fakednsOverwrite_pool occupied]
    exact HoldsOther.update stored
  | inserted _ _ => exact leads.keep rfl fun p _ => HoldsOther.update stored
  | rejected => exact leads

/-- Looking up any name keeps a lease. -/
theorem Leased.lookup (leased : Leased hash domain off margin s now) (size : s.poolSize ≠ 0)
    (name : FakednsName domain) (otherName : FakednsName other) (live : 0 ≤ margin)
    (short : margin ≤ fakednsTtlRefreshThreshold) (memory : Bool) :
    Leased hash domain off margin (fakednsLookupDomain hash s other now memory).2 now := by
  by_cases same : cStr other = cStr domain
  · rw [cStr_of_free otherName.1, cStr_of_free name.1] at same
    subst same
    obtain ⟨leads, entry, holds, matching, _⟩ := leased
    rw [fakednsLookupDomain_found size leads holds matching]
    exact .refresh leads holds matching short
  · exact (fakednsLookupDomain_outcome ..).keeps_lease leased live short otherName same

/-- Time passes within a lease. -/
theorem Leased.tick {time later : Nat}
    (leased : Leased hash domain off margin s (BitVec.ofNat 32 time)) (forward : time ≤ later)
    (within : (later - time : Nat) ≤ margin) :
    Leased hash domain off (margin - (later - time : Nat)) s (BitVec.ofNat 32 later) :=
  ⟨leased.leads, SlotHolds.tick leased.holds forward within⟩

/-- A lease lasts through any run within its time. -/
theorem Leased.run (inv : WorldInv w) (name : FakednsName domain)
    (leased : Leased hash domain off fakednsDnsTtl w.dns w.time) (after : FakednsRun hash w w')
    (within : w'.now ≤ w.now + fakednsDnsTtl) :
    Leased hash domain off (fakednsDnsTtl - (w'.now - w.now : Nat)) w'.dns w'.time := by
  let holds (margin : Int) (w : FakednsWorld) : Prop :=
    WorldInv w ∧ margin ≤ fakednsDnsTtl ∧ Leased hash domain off margin w.dns w.time
  have ttl : (fakednsDnsTtl : Int) ≤ fakednsTtlRefreshThreshold := by decide
  have keeps {v v' : FakednsWorld} {margin : Int} (step : FakednsStep hash v v')
      (held : holds margin v) (within : (v'.now - v.now : Nat) ≤ margin) :
      holds (margin - (v'.now - v.now : Nat)) v' := by
    obtain ⟨inv, short, leased⟩ := held
    obtain ⟨inv', _, forward⟩ := inv.step step
    refine ⟨inv', by omega, ?_⟩
    cases step with
    | tick later => exact leased.tick forward within
    | lookup other memory otherName =>
      rw [Nat.sub_self] at within ⊢
      rw [Int.ofNat_zero, Int.sub_zero]
      exact leased.lookup inv.pool.size name otherName within (by omega) memory
    | reverse =>
      rw [Nat.sub_self, Int.ofNat_zero, Int.sub_zero]
      exact leased
  have forward {v v' : FakednsWorld} (step : FakednsStep hash v v') : v.now ≤ v'.now := by
    cases step with
    | tick _ forward => exact forward
    | lookup => exact Nat.le_refl _
    | reverse => exact Nat.le_refl _
  exact (TimedRun.countdown holds after ⟨inv, Int.le_refl _, leased⟩ forward keeps (by omega)).2.2.2

end Tproxy
