import Tproxy.Fakedns.Lookup
import Tproxy.Lib.ProbeChain

namespace Tproxy

section Probe
variable {pool : BitVec 32 → Option FakednsEntry} {domain : List UInt8}
  {now step poolMask offset off : BitVec 32} {entry : FakednsEntry} {probes : Nat}
  {firstExpired first empty : Option (BitVec 32)}

/-- The slot holds a name other than the given one. -/
def HoldsOther (pool : BitVec 32 → Option FakednsEntry) (domain : List UInt8) (off : BitVec 32) : Prop :=
  ∃ entry, pool off = some entry ∧ cStr entry.domain ≠ cStr domain

/-- The chain of probes for a name reaches a slot over slots with other names. -/
abbrev ProbesTo (pool : BitVec 32 → Option FakednsEntry) (domain : List UInt8)
    (step poolMask : BitVec 32) :=
  LeadsTo (fakednsNextOffset step poolMask) (HoldsOther pool domain)

theorem fakednsProbe_found
    (found : fakednsProbe pool domain now step poolMask probes offset firstExpired =
      .found off entry) :
    ProbesTo pool domain step poolMask probes offset off ∧ pool off = some entry ∧
      cStr entry.domain = cStr domain := by
  induction probes generalizing offset firstExpired with
  | zero => cases found
  | succ probes ih =>
    rw [fakednsProbe] at found
    split at found
    · cases found
    · rename_i other occupied
      split at found
      · rename_i same
        cases found
        exact ⟨.here _, occupied, same⟩
      · rename_i differs
        obtain ⟨leads, holds⟩ := ih found
        exact ⟨leads.step ⟨other, occupied, differs⟩, holds⟩

/-- A probe that misses ends at an empty slot, if any, and its expired
collision is on the chain. -/
theorem fakednsProbe_missed
    (missed : fakednsProbe pool domain now step poolMask probes offset firstExpired =
      .missed empty first) :
    (∀ off, empty = some off →
      ProbesTo pool domain step poolMask probes offset off ∧ pool off = none) ∧
    ∀ off, first = some off → firstExpired = some off ∨
      ProbesTo pool domain step poolMask probes offset off ∧
        ∃ entry, pool off = some entry ∧ cStr entry.domain ≠ cStr domain ∧ entry.remaining now < 0 := by
  induction probes generalizing offset firstExpired with
  | zero =>
    cases missed
    exact ⟨fun off none => (by cases none), fun off same => Or.inl same⟩
  | succ probes ih =>
    rw [fakednsProbe] at missed
    split at missed
    · rename_i vacant
      cases missed
      refine ⟨fun off same => ?_, fun off same => Or.inl same⟩
      cases same
      exact ⟨.here _, vacant⟩
    · rename_i other occupied
      split at missed
      · cases missed
      · rename_i differs
        obtain ⟨ends, expired⟩ := ih missed
        have holds : HoldsOther pool domain offset := ⟨other, occupied, differs⟩
        refine ⟨fun off same => ?_, fun off same => ?_⟩
        · obtain ⟨leads, vacant⟩ := ends off same
          exact ⟨leads.step holds, vacant⟩
        · rcases expired off same with now | ⟨leads, expired⟩
          · split at now
            · exact Or.inl now
            · split at now
              · rename_i negative
                cases now
                exact Or.inr ⟨.here _, other, occupied, differs, negative⟩
              · cases now
          · exact Or.inr ⟨leads.step holds, expired⟩

/-- A name that its chain leads to is found. -/
theorem fakednsProbe_of_probesTo (leads : ProbesTo pool domain step poolMask probes offset off)
    (holds : pool off = some entry) (same : cStr entry.domain = cStr domain) :
    fakednsProbe pool domain now step poolMask probes offset firstExpired = .found off entry := by
  induction probes generalizing offset firstExpired with
  | zero =>
    obtain ⟨k, bound, _⟩ := leads
    cases bound
  | succ probes ih =>
    rw [fakednsProbe]
    rcases leads.cases with here | ⟨⟨other, occupied, differs⟩, rest⟩
    · subst here
      simp only [holds, same, if_true]
    · simp only [occupied, if_neg differs]
      exact ih rest

/-- A chain over other names that ends at an empty slot misses. -/
theorem fakednsProbe_of_vacant (leads : ProbesTo pool domain step poolMask probes offset off)
    (vacant : pool off = none) : ∃ first,
    fakednsProbe pool domain now step poolMask probes offset firstExpired =
      .missed (some off) first := by
  induction probes generalizing offset firstExpired with
  | zero =>
    obtain ⟨k, bound, _⟩ := leads
    cases bound
  | succ probes ih =>
    rw [fakednsProbe]
    rcases leads.cases with here | ⟨⟨other, occupied, differs⟩, rest⟩
    · subst here
      rw [vacant]
      exact ⟨firstExpired, rfl⟩
    · simp only [occupied, if_neg differs]
      exact ih rest

end Probe

section Lookup
variable {hash : List UInt8 → BitVec 64} {s : Fakedns} {domain : List UInt8} {now off : BitVec 32}
  {entry : FakednsEntry} {memory : Bool}

/-- The chain of a name reaches a slot over slots with other names. -/
def Fakedns.Leads (hash : List UInt8 → BitVec 64) (s : Fakedns) (domain : List UInt8)
    (off : BitVec 32) : Prop :=
  ProbesTo s.pool domain (fakednsStep hash domain) s.poolMask s.maxProbes (s.offset hash domain) off

/-- The outcomes of a lookup: the address and the pool after it. -/
inductive FakednsOutcome (hash : List UInt8 → BitVec 64) (s : Fakedns) (domain : List UInt8)
    (now : BitVec 32) : BitVec 32 × Fakedns → Prop
  | found {off : BitVec 32} {entry : FakednsEntry} : s.Leads hash domain off → s.pool off = some entry →
      cStr entry.domain = cStr domain →
      FakednsOutcome hash s domain now (s.address off, fakednsRefresh s off entry now)
  | overwritten {off : BitVec 32} {entry : FakednsEntry} : s.Leads hash domain off →
      s.pool off = some entry →
      cStr entry.domain ≠ cStr domain → entry.remaining now < 0 →
      FakednsOutcome hash s domain now (s.address off, fakednsOverwrite s off domain now)
  | inserted {off : BitVec 32} : s.Leads hash domain off → s.pool off = none →
      FakednsOutcome hash s domain now (s.address off, fakednsInsert s off domain now)
  | rejected : FakednsOutcome hash s domain now (0, s)

theorem fakednsLookupDomain_outcome (hash : List UInt8 → BitVec 64) (s : Fakedns)
    (domain : List UInt8) (now : BitVec 32) (memory : Bool) :
    FakednsOutcome hash s domain now (fakednsLookupDomain hash s domain now memory) := by
  unfold fakednsLookupDomain
  split
  · exact .rejected
  split
  · rename_i found
    obtain ⟨leads, holds, same⟩ := fakednsProbe_found found
    exact .found leads holds same
  · rename_i missed
    obtain ⟨_, expired⟩ := fakednsProbe_missed missed
    rcases expired _ rfl with none | ⟨leads, entry, holds, differs, negative⟩
    · cases none
    · exact .overwritten leads holds differs negative
  · rename_i missed
    obtain ⟨leads, vacant⟩ := (fakednsProbe_missed missed).1 _ rfl
    split
    · exact .rejected
    split
    · exact .rejected
    · exact .inserted leads vacant
  · exact .rejected

theorem fakednsLookupDomain_found (size : s.poolSize ≠ 0) (leads : s.Leads hash domain off)
    (holds : s.pool off = some entry) (same : cStr entry.domain = cStr domain) :
    fakednsLookupDomain hash s domain now memory =
      (s.address off, fakednsRefresh s off entry now) := by
  rw [fakednsLookupDomain, if_neg size, fakednsProbe_of_probesTo leads holds same]

theorem Fakedns.poolMask_toNat (size : s.poolSize ≠ 0) : s.poolMask.toNat = s.poolSize.toNat - 1 := by
  have positive : s.poolSize.toNat ≠ 0 := fun zero => size (BitVec.eq_of_toNat_eq zero)
  rw [Fakedns.poolMask]
  bv_omega

theorem Fakedns.and_poolMask_lt (size : s.poolSize ≠ 0) (x : BitVec 32) :
    x &&& s.poolMask < s.poolSize := by
  have positive : s.poolSize.toNat ≠ 0 := fun zero => size (BitVec.eq_of_toNat_eq zero)
  have mask := s.poolMask_toNat size
  have small : x.toNat &&& s.poolMask.toNat ≤ s.poolMask.toNat := Nat.and_le_right
  rw [BitVec.lt_def, BitVec.toNat_and]
  omega

theorem Fakedns.offset_lt (size : s.poolSize ≠ 0) (hash : List UInt8 → BitVec 64)
    (domain : List UInt8) : s.offset hash domain < s.poolSize := by
  have narrow : s.offset hash domain = (hash domain).setWidth 32 &&& s.poolMask := by
    rw [Fakedns.offset, BitVec.setWidth_and, BitVec.setWidth_setWidth_of_le _ (by decide),
      BitVec.setWidth_eq]
  rw [narrow]
  exact s.and_poolMask_lt size _

theorem Fakedns.Leads.lt (size : s.poolSize ≠ 0) (leads : s.Leads hash domain off) :
    off < s.poolSize :=
  LeadsTo.range (Q := (· < s.poolSize)) leads (s.offset_lt size hash domain) fun _ =>
    s.and_poolMask_lt size _

end Lookup

end Tproxy
