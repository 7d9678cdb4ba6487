import Tproxy.Fakedns.LeaseSafety
import Tproxy.Fakedns.Save

namespace Tproxy

variable {hash : List UInt8 → BitVec 64} {s s₀ t : Fakedns} {domain : List UInt8}
  {now later off p : BitVec 32} {entry : FakednsEntry}

/-- The pools that lookups of names at any times lead to. -/
inductive FakednsLookups (hash : List UInt8 → BitVec 64) (s₀ : Fakedns) : Fakedns → Prop
  | init : FakednsLookups hash s₀ s₀
  | lookup {s : Fakedns} (domain : List UInt8) (now : BitVec 32) (memory : Bool) :
      FakednsLookups hash s₀ s → FakednsName domain →
      FakednsLookups hash s₀ (fakednsLookupDomain hash s domain now memory).2

/-- Each name occupies at most one slot. -/
def Fakedns.Unique (s : Fakedns) : Prop :=
  ∀ off entry off' entry', s.pool off = some entry → s.pool off' = some entry' →
    cStr entry.domain = cStr entry'.domain → off = off'

/-- The lookup of a name passes over a slot with another name. -/
def Fakedns.Passes (hash : List UInt8 → BitVec 64) (s : Fakedns) (domain : List UInt8)
    (p : BitVec 32) : Prop :=
  PassesOver (fakednsNextOffset (fakednsStep hash domain) s.poolMask) (HoldsOther s.pool domain)
    s.maxProbes (s.offset hash domain) p

/-- `fakedns_save` writes the entry of the slot. -/
def Fakedns.Saves (s : Fakedns) (now p : BitVec 32) : Prop :=
  ∃ entry, s.pool p = some entry ∧ ¬entry.expire ≤ now

/-- The invariant of a pool without restarts: every name is found on its chain. -/
structure FakednsHeld (hash : List UInt8 → BitVec 64) (s₀ s : Fakedns) : Prop where
  range : (s₀.fakeipNetHost, s₀.fakeipMaskHost, s₀.poolSize, s₀.maxProbes) =
    (s.fakeipNetHost, s.fakeipMaskHost, s.poolSize, s.maxProbes)
  cidr : s₀.cidrStr = s.cidrStr
  ip : ∀ off entry, s.pool off = some entry → entry.ip = s.address off
  name : ∀ off entry, s.pool off = some entry → FakednsName entry.domain
  leads : ∀ off entry, s.pool off = some entry → s.Leads hash entry.domain off

/-- A refresh keeps the address and the name of every slot. -/
theorem fakednsRefresh_slot {found : FakednsEntry} (holds : s.pool off = some entry)
    (occupied : (fakednsRefresh s off entry now).pool p = some found) :
    ∃ old, s.pool p = some old ∧ found.ip = old.ip ∧ found.domain = old.domain := by
  unfold fakednsRefresh at occupied
  split at occupied
  · exact ⟨found, occupied, rfl, rfl⟩
  · simp only at occupied
    by_cases own : p = off
    · rw [own, Function.update_self] at occupied
      cases occupied
      exact ⟨entry, own ▸ holds, rfl, rfl⟩
    · rw [Function.update_of_ne own] at occupied
      exact ⟨found, occupied, rfl, rfl⟩

theorem FakednsHeld.refresh (held : FakednsHeld hash s₀ s) (holds : s.pool off = some entry)
    (now : BitVec 32) : FakednsHeld hash s₀ (fakednsRefresh s off entry now) := by
  have range : ((fakednsRefresh s off entry now).fakeipNetHost,
      (fakednsRefresh s off entry now).fakeipMaskHost, (fakednsRefresh s off entry now).poolSize,
      (fakednsRefresh s off entry now).maxProbes, (fakednsRefresh s off entry now).cidrStr) =
      (s.fakeipNetHost, s.fakeipMaskHost, s.poolSize, s.maxProbes, s.cidrStr) := by
    unfold fakednsRefresh
    split <;> rfl
  simp only [Prod.mk.injEq] at range
  obtain ⟨net, maskHost, size, probes, cidr⟩ := range
  refine ⟨?_, held.cidr.trans cidr.symm, fun p found occupied => ?_, fun p found occupied => ?_,
    fun p found occupied => ?_⟩
  · rw [net, maskHost, size, probes]
    exact held.range
  · obtain ⟨old, before, ip, _⟩ := fakednsRefresh_slot holds occupied
    rw [ip, held.ip p old before, Fakedns.address, Fakedns.address, net]
  · obtain ⟨old, before, _, name⟩ := fakednsRefresh_slot holds occupied
    exact name ▸ held.name p old before
  · obtain ⟨old, before, _, name⟩ := fakednsRefresh_slot holds occupied
    rw [name]
    exact (held.leads p old before).keep (fakednsRefresh_range ..) fun p _ => HoldsOther.refresh holds

theorem fakednsInsert_pool (s : Fakedns) (off : BitVec 32) (domain : List UInt8) (now : BitVec 32) :
    (fakednsInsert s off domain now).pool = Function.update s.pool off (some
      ⟨s.address off, now + BitVec.ofNat 32 fakednsEntryLifetime, 1, entrySetDomain domain⟩) := rfl

/-- A name that is in no slot is stored in one, at the end of its chain. -/
theorem FakednsHeld.store (held : FakednsHeld hash s₀ s) (name : FakednsName domain)
    (fresh : ∀ p found, s.pool p = some found → cStr found.domain ≠ cStr domain)
    (leads : s.Leads hash domain off)
    (range : (t.fakeipNetHost, t.fakeipMaskHost, t.poolSize, t.maxProbes, t.cidrStr) =
      (s.fakeipNetHost, s.fakeipMaskHost, s.poolSize, s.maxProbes, s.cidrStr))
    (pool : t.pool = Function.update s.pool off (some entry)) (ip : entry.ip = s.address off)
    (stored : entry.domain = domain) : FakednsHeld hash s₀ t := by
  simp only [Prod.mk.injEq] at range
  obtain ⟨net, maskHost, size, probes, cidr⟩ := range
  have sizes : (t.poolSize, t.maxProbes) = (s.poolSize, s.maxProbes) := by rw [size, probes]
  refine ⟨?_, held.cidr.trans cidr.symm, fun p found occupied => ?_, fun p found occupied => ?_,
    fun p found occupied => ?_⟩
  · rw [net, maskHost, size, probes]
    exact held.range
  all_goals rw [pool] at occupied
  · rw [Fakedns.address, net]
    by_cases own : p = off
    · rw [own, Function.update_self] at occupied
      cases occupied
      rw [own, ip, Fakedns.address]
    · rw [Function.update_of_ne own] at occupied
      rw [held.ip p found occupied, Fakedns.address]
  · by_cases own : p = off
    · rw [own, Function.update_self] at occupied
      cases occupied
      exact stored ▸ name
    · rw [Function.update_of_ne own] at occupied
      exact held.name p found occupied
  · by_cases own : p = off
    · rw [own, Function.update_self] at occupied
      cases occupied
      rw [own, stored]
      refine leads.keep sizes fun q apart other => ?_
      rw [pool]
      exact other.elsewhere apart _
    · rw [Function.update_of_ne own] at occupied
      refine (held.leads p found occupied).keep sizes fun q _ other => ?_
      rw [pool]
      refine HoldsOther.update ?_ other
      rw [stored]
      exact (fresh p found occupied).symm

theorem FakednsHeld.lookup (held : FakednsHeld hash s₀ s) (size : s.poolSize ≠ 0)
    (name : FakednsName domain) (now : BitVec 32) (memory : Bool) :
    FakednsHeld hash s₀ (fakednsLookupDomain hash s domain now memory).2 := by
  by_cases known : ∃ p found, s.pool p = some found ∧ cStr found.domain = cStr domain
  · obtain ⟨p, found, occupied, same⟩ := known
    have leads := held.leads p found occupied
    rw [← cStr_of_free (held.name p found occupied).1, same, cStr_of_free name.1] at leads
    rw [fakednsLookupDomain_found size leads occupied same]
    exact held.refresh occupied now
  · have fresh (p : BitVec 32) (found : FakednsEntry) (occupied : s.pool p = some found) :
        cStr found.domain ≠ cStr domain := fun same => known ⟨p, found, occupied, same⟩
    have outcome := fakednsLookupDomain_outcome hash s domain now memory
    generalize fakednsLookupDomain hash s domain now memory = result at outcome
    cases outcome with
    | found _ occupied same => exact absurd same (fresh _ _ occupied)
    | overwritten leads occupied _ _ =>
      have ip := held.ip _ _ occupied
      exact held.store name fresh leads rfl (fakednsOverwrite_pool occupied domain now) ip
        (entrySetDomain_of_lt name.2)
    | inserted leads _ =>
      exact held.store name fresh leads rfl (fakednsInsert_pool s _ domain now) rfl
        (entrySetDomain_of_lt name.2)
    | rejected => exact held

theorem FakednsLookups.held (lookups : FakednsLookups hash s₀ s) (inv₀ : PoolInv s₀)
    (empty : ∀ off, s₀.pool off = none) : FakednsHeld hash s₀ s ∧ PoolInv s := by
  induction lookups with
  | init =>
    have vacant {P : BitVec 32 → FakednsEntry → Prop} (off : BitVec 32) (entry : FakednsEntry)
        (holds : s₀.pool off = some entry) : P off entry := by
      rw [empty] at holds
      cases holds
    exact ⟨⟨rfl, rfl, vacant, vacant, vacant⟩, inv₀⟩
  | lookup domain now memory _ name ih =>
    obtain ⟨held, inv⟩ := ih
    exact ⟨held.lookup inv.size name now memory,
      ((fakednsLookupDomain_outcome hash _ domain now memory).keeps inv).1⟩

theorem FakednsHeld.addressed (held : FakednsHeld hash s₀ s) (size : s.poolSize ≠ 0) :
    s.Addressed := fun off entry holds =>
  ⟨(held.leads off entry holds).lt size, held.ip off entry holds⟩

/-- The chain of a name ends at the only slot that holds it. -/
theorem FakednsHeld.unique (held : FakednsHeld hash s₀ s) : s.Unique := by
  intro off entry off' entry' holds holds' same
  have leads := held.leads off entry holds
  have leads' := held.leads off' entry' holds'
  rw [cStr_of_free (held.name off entry holds).1, cStr_of_free (held.name off' entry' holds').1] at same
  rw [← same] at leads'
  refine LeadsTo.unique leads leads' ?_ ?_
  · rintro ⟨found, occupied, differs⟩
    rw [holds] at occupied
    cases occupied
    exact differs rfl
  · rintro ⟨found, occupied, differs⟩
    rw [holds'] at occupied
    cases occupied
    exact differs (congrArg cStr same.symm)

theorem fakednsInit_fresh {cidrStr : List UInt8} {memory : Bool}
    (start : fakednsInit cidrStr memory = some s) :
    s.poolUsed = 0 ∧ s.cidrStr.length ≤ cidrStrLen := by
  obtain ⟨_, _, _, rfl⟩ := fakednsInit_some start
  exact ⟨rfl, List.length_take_le ..⟩

/-- The pool after a restart: the slots that were saved, by their names. -/
structure Restarted (s : Fakedns) (now : BitVec 32) (t : Fakedns) : Prop where
  range : (t.fakeipNetHost, t.fakeipMaskHost, t.poolSize, t.maxProbes) =
    (s.fakeipNetHost, s.fakeipMaskHost, s.poolSize, s.maxProbes)
  saves : ∀ p entry, s.pool p = some entry → ¬entry.expire ≤ now →
    ∃ new, t.pool p = some new ∧ cStr new.domain = cStr entry.domain
  skips : ∀ p, ¬s.Saves now p → t.pool p = none
  used : ∀ p < s.poolSize, t.pool p = none → t.poolUsed < t.poolSize

theorem FakednsRestored.restarted
    (restored : FakednsRestored s now later s.poolSize.toNat
      (fakednsSaved s now s.poolSize.toNat).length t) (addressed : s.Addressed) :
    Restarted s now t := by
  obtain ⟨range, pool, used⟩ := restored
  refine ⟨range, fun p entry holds live => ?_, fun p unsaved => ?_, fun p bound vacant => ?_⟩
  · have bound := BitVec.lt_def.mp (addressed p entry holds).1
    rw [pool, if_pos bound, holds, fakednsKept, if_neg live]
    exact ⟨_, rfl, cStr_cStr _⟩
  · rw [pool]
    split
    · cases holds : s.pool p with
      | none => rfl
      | some entry => exact if_pos (not_not.mp fun live => unsaved ⟨entry, holds, live⟩)
    · rfl
  · rw [pool, if_pos (BitVec.lt_def.mp bound)] at vacant
    have fewer : (fakednsSaved s now s.poolSize.toNat).length < (List.range s.poolSize.toNat).length := by
      rw [fakednsSaved, List.length_filterMap_lt_length_iff_exists]
      refine ⟨p.toNat, List.mem_range.mpr bound, ?_⟩
      rw [BitVec.ofNat_toNat, BitVec.setWidth_eq]
      cases holds : s.pool p with
      | none => rfl
      | some entry =>
        rw [holds, fakednsKept] at vacant
        split at vacant
        · rename_i expired
          exact if_pos expired
        · cases vacant
    rw [List.length_range] at fewer
    have small := s.poolSize.isLt
    rw [BitVec.lt_def, used, (Prod.mk.inj (Prod.mk.inj (Prod.mk.inj range).2).2).1, BitVec.toNat_ofNat,
      Nat.mod_eq_of_lt (by omega)]
    exact fewer

end Tproxy
