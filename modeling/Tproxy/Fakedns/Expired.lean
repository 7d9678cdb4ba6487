import Mathlib.Data.List.Basic
import Tproxy.Fakedns.OneSlot
import Tproxy.Fakedns.Probing

namespace Tproxy

variable {hash : List UInt8 → BitVec 64} {s : Fakedns} {domain : List UInt8} {now off : BitVec 32}
  {entry : FakednsEntry}

/-- `fakedns_save` writes the same file as if the slot were empty. -/
def Fakedns.SaveOmits (s : Fakedns) (now off : BitVec 32) : Prop :=
  fakednsSave s now = fakednsSave { s with pool := Function.update s.pool off none } now

/-- The lookup of a name leaves the name in the slot. -/
def Fakedns.Reuses (hash : List UInt8 → BitVec 64) (s : Fakedns) (domain : List UInt8)
    (now off : BitVec 32) : Prop :=
  ∃ entry, (fakednsLookupDomain hash s domain now true).2.pool off = some entry ∧
    cStr entry.domain = cStr domain

/-- The lookup of a name that is in no slot comes to this one before any other
that has expired. -/
structure Fakedns.Offers (hash : List UInt8 → BitVec 64) (s : Fakedns) (domain : List UInt8)
    (now off : BitVec 32) : Prop where
  absent : ∀ p found, s.pool p = some found → cStr found.domain ≠ cStr domain
  before : ∃ k < s.maxProbes, s.probe hash domain k = off ∧ ∀ j < k, ∃ found,
    s.pool (s.probe hash domain j) = some found ∧ ¬found.remaining now < 0

section Save

/-- The entry that `fakedns_save` writes for a slot. -/
def fakednsSavedSlot (s : Fakedns) (now : BitVec 32) (i : Nat) : Option FakednsEntry :=
  match s.pool (BitVec.ofNat 32 i) with
  | none => none
  | some entry => if entry.expire ≤ now then none else some entry

theorem fakednsSaved_length (s : Fakedns) (now : BitVec 32) (slots : Nat) :
    (fakednsSaved s now slots).length =
      (List.range slots).countP fun i => (fakednsSavedSlot s now i).isSome :=
  List.length_filterMap_eq_countP ..

/-- The file tells how many entries were written. -/
theorem fakednsSave_count {file : List UInt8} (saved : fakednsSave s now = some file) :
    (file.drop 8).take 4 = fwriteLe 4 (fakednsSaved s now s.poolSize.toNat).length := by
  unfold fakednsSave at saved
  split at saved
  · cases saved
  cases saved
  simp only [List.append_assoc]
  rw [← List.append_assoc, List.drop_left' (by rw [List.length_append, fwriteLe_length, fwriteLe_length]),
    List.take_left' (fwriteLe_length ..)]

/-- The file of a pool with this slot emptied has one entry less, if the slot
was written. -/
theorem fakednsSaved_empty (bound : off < s.poolSize) (holds : s.pool off = some entry)
    (live : ¬entry.expire ≤ now) :
    (fakednsSaved s now s.poolSize.toNat).length =
      (fakednsSaved { s with pool := Function.update s.pool off none } now s.poolSize.toNat).length + 1 := by
  have own : BitVec.ofNat 32 off.toNat = off := by rw [BitVec.ofNat_toNat, BitVec.setWidth_eq]
  rw [fakednsSaved_length, fakednsSaved_length]
  refine countP_range_insert bound ?_ ?_ fun i inside apart => ?_
  · simp only [fakednsSavedSlot, own, Function.update_self, Option.isSome_none]
  · simp only [fakednsSavedSlot, own, holds, if_neg live, Option.isSome_some]
  · have differs : BitVec.ofNat 32 i ≠ off := fun same =>
      apart (by rw [← same, ofNat_toNat_of_lt inside])
    simp only [fakednsSavedSlot, Function.update_of_ne differs]

theorem fwriteLe_eq_iff {n x y : Nat} (small : x < 256 ^ n) (small' : y < 256 ^ n) :
    fwriteLe n x = fwriteLe n y ↔ x = y := by
  refine ⟨fun same => ?_, fun same => by rw [same]⟩
  have value := fwriteLe_value n x
  rw [same, fwriteLe_value, Nat.mod_eq_of_lt small, Nat.mod_eq_of_lt small'] at value
  exact value.symm

theorem FakednsShape.saveOmits_iff (shape : FakednsShape s) (holds : s.pool off = some entry) :
    s.SaveOmits now off ↔ entry.expire ≤ now := by
  have bound := (shape.addressed off entry holds).1
  constructor
  · intro same
    by_contra live
    obtain ⟨file, saved⟩ : ∃ file, fakednsSave s now = some file :=
      ⟨_, if_neg (shape.used_ne_zero holds)⟩
    have count := fakednsSave_count saved
    have count' := fakednsSave_count (same ▸ saved)
    have size : (256 : Nat) ^ 4 = 2 ^ 32 := by decide
    have equal := (fwriteLe_eq_iff (size ▸ fakednsSaved_lt s now) (size ▸ fakednsSaved_lt _ now)).mp
      (count.symm.trans count')
    have less := fakednsSaved_empty bound holds live
    exact absurd (equal.symm.trans less) (Nat.ne_of_lt (Nat.lt_succ_self _))
  · intro expired
    have same : fakednsSaved s now s.poolSize.toNat =
        fakednsSaved { s with pool := Function.update s.pool off none } now s.poolSize.toNat := by
      refine List.filterMap_congr fun i _ => ?_
      by_cases here : BitVec.ofNat 32 i = off
      · simp only [here, holds, if_pos expired, Function.update_self]
      · simp only [Function.update_of_ne here]
    unfold Fakedns.SaveOmits fakednsSave
    simp only [same]

end Save

section Lookup

theorem Fakedns.Offers.reuses_iff (offers : s.Offers hash domain now off) (size : s.poolSize ≠ 0)
    (name : FakednsName domain) (holds : s.pool off = some entry) :
    s.Reuses hash domain now off ↔ entry.remaining now < 0 := by
  constructor
  · rintro ⟨new, held, same⟩
    by_contra live
    have outcome := fakednsLookupDomain_outcome hash s domain now true
    have kept {t : Fakedns} {p : BitVec 32} {stored : FakednsEntry}
        (pool : t.pool = Function.update s.pool p (some stored)) (apart : off ≠ p) :
        t.pool off ≠ some new := by
      rw [pool, Function.update_of_ne apart]
      intro old
      exact offers.absent off new old same
    generalize fakednsLookupDomain hash s domain now true = result at outcome held
    cases outcome with
    | @found p old _ occupied known => exact offers.absent p old occupied known
    | @overwritten p old _ occupied _ expired =>
      refine kept (fakednsOverwrite_pool occupied domain now) ?_ held
      rintro rfl
      rw [holds] at occupied
      cases occupied
      exact live expired
    | @inserted p _ vacant =>
      refine kept (fakednsInsert_pool s p domain now) ?_ held
      rintro rfl
      rw [holds] at vacant
      cases vacant
    | rejected => exact offers.absent off new held same
  · intro expired
    obtain ⟨k, bound, reaches, before⟩ := offers.before
    have leads : LeadsTo (fakednsNextOffset (fakednsStep hash domain) s.poolMask)
        (HoldsLive s.pool domain now) s.maxProbes (s.offset hash domain) off := by
      refine ⟨k, bound, reaches, fun j earlier => ?_⟩
      obtain ⟨found, there, live⟩ := before j earlier
      exact ⟨found, there, offers.absent _ found there, live⟩
    obtain ⟨empty, missed⟩ := fakednsProbe_expired (fun p found _ => offers.absent p found) leads holds
      expired
    unfold Fakedns.Reuses fakednsLookupDomain
    rw [if_neg size, missed]
    simp only [fakednsOverwrite_pool holds, Function.update_self]
    exact ⟨_, rfl, by rw [entrySetDomain_of_lt name.2]⟩

end Lookup

section Single

/-- `a` at time 0 alone in its pool. -/
def singleA : Fakedns := (fakednsLookupDomain sameHash slash24 [97] 0 true).2

theorem singleA_reached : FakednsReached sameHash slash24 singleA := .lookup [97] 0 true .init (by decide)

theorem singleA_shape : FakednsShape singleA :=
  singleA_reached.shape (.init (rfl : fakednsInit slash24.cidrStr true = some slash24))

theorem singleA_holds : singleA.pool 0 = some ⟨10, 86400, 1, [97]⟩ := rfl

/-- The chain of `b` starts at the slot of `a`. -/
theorem singleA_offers (now : BitVec 32) : singleA.Offers sameHash [98] now 0 := by
  refine ⟨fun p found held => ?_, 0, by decide, rfl, fun j none => by cases none⟩
  by_cases own : p = 0
  · subst own
    rw [singleA_holds] at held
    cases held
    decide
  · have vacant : singleA.pool p = none := Function.update_of_ne own ..
    rw [vacant] at held
    cases held

end Single

/-- Saving and looking up agree on whether an entry has expired exactly when
its expiry lies less than 2^31 seconds ahead, or some but at most 2^31 seconds
behind, and the clock has not wrapped around in between. -/
theorem fakedns_expired_agrees (shape : FakednsShape s) (holds : s.pool off = some entry)
    (name : FakednsName domain) (offers : s.Offers hash domain now off) :
    (s.SaveOmits now off ↔ s.Reuses hash domain now off) ↔
      entry.expire.toNat < now.toNat ∧ now.toNat ≤ entry.expire.toNat + 2 ^ 31 ∨
        now.toNat < entry.expire.toNat ∧ entry.expire.toNat < now.toNat + 2 ^ 31 := by
  rw [shape.saveOmits_iff holds, offers.reuses_iff shape.size name holds, FakednsEntry.remaining,
    BitVec.toInt_neg_iff, BitVec.le_def, BitVec.toNat_sub]
  have small := entry.expire.isLt
  have small' := now.isLt
  omega

/-- An entry that has expired some seconds ago is neither saved nor kept. -/
theorem fakedns_expired_agrees_later :
    singleA.SaveOmits 86500 0 ↔ singleA.Reuses sameHash [98] 86500 0 :=
  (fakedns_expired_agrees singleA_shape singleA_holds (by decide) (singleA_offers 86500)).mpr (by decide)

/-- An entry whose expiry is the time of the save is dropped by it, while a
lookup at that time leaves the slot to the name in it. -/
theorem fakedns_expired_now : fakednsInit slash24.cidrStr true = some slash24 ∧
    FakednsReached sameHash slash24 singleA ∧ singleA.pool 0 = some ⟨10, 86400, 1, [97]⟩ ∧
    FakednsName [98] ∧ singleA.Offers sameHash [98] 86400 0 ∧
    singleA.SaveOmits 86400 0 ∧ ¬singleA.Reuses sameHash [98] 86400 0 := by
  have offers := singleA_offers 86400
  refine ⟨rfl, singleA_reached, rfl, by decide, offers,
    (singleA_shape.saveOmits_iff singleA_holds).mpr (by decide), fun reuses => ?_⟩
  have expired := (offers.reuses_iff singleA_shape.size (by decide) singleA_holds).mp reuses
  exact absurd expired (by decide)

end Tproxy
