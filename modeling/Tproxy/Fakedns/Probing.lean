import Tproxy.Fakedns.Chain

namespace Tproxy

section Probe
variable {pool : BitVec 32 → Option FakednsEntry} {domain : List UInt8}
  {now step poolMask offset off : BitVec 32} {entry : FakednsEntry} {probes : Nat}

/-- The slot holds an unexpired entry of another name. -/
def HoldsLive (pool : BitVec 32 → Option FakednsEntry) (domain : List UInt8) (now off : BitVec 32) :
    Prop :=
  ∃ entry, pool off = some entry ∧ cStr entry.domain ≠ cStr domain ∧ ¬entry.remaining now < 0

/-- The chain of probes for a name does not find it. -/
def ProbesPast (pool : BitVec 32 → Option FakednsEntry) (domain : List UInt8)
    (step poolMask : BitVec 32) (probes : Nat) (offset : BitVec 32) : Prop :=
  ∀ off entry, ProbesTo pool domain step poolMask probes offset off → pool off = some entry →
    cStr entry.domain ≠ cStr domain

theorem ProbesPast.next (past : ProbesPast pool domain step poolMask (probes + 1) offset)
    (holds : HoldsOther pool domain offset) :
    ProbesPast pool domain step poolMask probes (fakednsNextOffset step poolMask offset) :=
  fun off entry leads => past off entry (leads.step holds)

/-- The first expired slot is remembered for the rest of the chain. -/
theorem fakednsProbe_remembers (past : ProbesPast pool domain step poolMask probes offset)
    (first : BitVec 32) : ∃ empty,
    fakednsProbe pool domain now step poolMask probes offset (some first) = .missed empty (some first) := by
  induction probes generalizing offset with
  | zero => exact ⟨none, rfl⟩
  | succ probes ih =>
    rw [fakednsProbe]
    cases there : pool offset with
    | none => exact ⟨some offset, rfl⟩
    | some found =>
      have differs := past offset found (.here _) there
      simp only [if_neg differs]
      exact ih (past.next ⟨found, there, differs⟩)

/-- A chain over unexpired entries that ends at an expired one settles on it,
if it does not find the name behind it. -/
theorem fakednsProbe_expired (past : ProbesPast pool domain step poolMask probes offset)
    (leads : LeadsTo (fakednsNextOffset step poolMask) (HoldsLive pool domain now) probes offset off)
    (holds : pool off = some entry) (expired : entry.remaining now < 0) : ∃ empty,
    fakednsProbe pool domain now step poolMask probes offset none = .missed empty (some off) := by
  induction probes generalizing offset with
  | zero =>
    obtain ⟨k, bound, _⟩ := leads
    cases bound
  | succ probes ih =>
    rw [fakednsProbe]
    rcases leads.cases with here | ⟨⟨found, there, differs, live⟩, rest⟩
    · subst here
      have differs := past offset entry (.here _) holds
      simp only [holds, if_neg differs, if_pos expired]
      exact fakednsProbe_remembers (past.next ⟨entry, holds, differs⟩) offset
    · simp only [there, if_neg differs, if_neg live]
      exact ih (past.next ⟨found, there, differs⟩) rest

/-- A chain over unexpired entries that ends at an empty slot settles on that. -/
theorem fakednsProbe_empty
    (leads : LeadsTo (fakednsNextOffset step poolMask) (HoldsLive pool domain now) probes offset off)
    (vacant : pool off = none) :
    fakednsProbe pool domain now step poolMask probes offset none = .missed (some off) none := by
  induction probes generalizing offset with
  | zero =>
    obtain ⟨k, bound, _⟩ := leads
    cases bound
  | succ probes ih =>
    rw [fakednsProbe]
    rcases leads.cases with here | ⟨⟨found, there, differs, live⟩, rest⟩
    · subst here
      simp only [vacant]
    · simp only [there, if_neg differs, if_neg live]
      exact ih rest

/-- A chain over unexpired entries only settles on no slot. -/
theorem fakednsProbe_exhausted
    (all : ∀ k < probes, HoldsLive pool domain now ((fakednsNextOffset step poolMask)^[k] offset)) :
    fakednsProbe pool domain now step poolMask probes offset none = .missed none none := by
  induction probes generalizing offset with
  | zero => rfl
  | succ probes ih =>
    obtain ⟨found, there, differs, live⟩ := all 0 (Nat.succ_pos probes)
    have there : pool offset = some found := there
    simp only [fakednsProbe, there, if_neg differs, if_neg live]
    exact ih fun k bound => all (k + 1) (Nat.succ_lt_succ bound)

end Probe

end Tproxy
