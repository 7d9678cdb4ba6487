import Tproxy.Fakedns.Restart

namespace Tproxy

variable {hash : List UInt8 → BitVec 64} {s s₀ t : Fakedns} {domain : List UInt8}
  {now off p : BitVec 32} {entry : FakednsEntry}

/-- A slot of the restarted pool was saved and has its old name. -/
theorem Restarted.old (restarted : Restarted s now t) {new : FakednsEntry}
    (holds : t.pool p = some new) :
    ∃ entry, s.pool p = some entry ∧ cStr new.domain = cStr entry.domain := by
  by_cases saved : s.Saves now p
  · obtain ⟨entry, before, live⟩ := saved
    obtain ⟨found, occupied, same⟩ := restarted.saves p entry before live
    rw [holds] at occupied
    cases occupied
    exact ⟨entry, before, same⟩
  · rw [restarted.skips p saved] at holds
    cases holds

theorem Restarted.unique (restarted : Restarted s now t) (unique : s.Unique) : t.Unique := by
  intro off new off' new' holds holds' same
  obtain ⟨entry, before, name⟩ := restarted.old holds
  obtain ⟨entry', before', name'⟩ := restarted.old holds'
  exact unique off entry off' entry' before before' (name.symm.trans (same.trans name'))

theorem Restarted.other (restarted : Restarted s now t) (saved : s.Saves now p)
    (other : HoldsOther s.pool domain p) : HoldsOther t.pool domain p := by
  obtain ⟨entry, holds, live⟩ := saved
  obtain ⟨found, occupied, differs⟩ := other
  rw [holds] at occupied
  cases occupied
  obtain ⟨new, held, same⟩ := restarted.saves p entry holds live
  exact ⟨new, held, same ▸ differs⟩

/-- The chain of a name whose slots were all saved still leads to its slot. -/
theorem Restarted.leads (restarted : Restarted s now t) (leads : s.Leads hash domain off)
    (saved : ∀ p, s.Passes hash domain p → s.Saves now p) : t.Leads hash domain off := by
  obtain ⟨_, rest⟩ := Prod.mk.inj restarted.range
  obtain ⟨size, probes⟩ := Prod.mk.inj (Prod.mk.inj rest).2
  rw [Fakedns.Leads, Fakedns.offset, Fakedns.poolMask, size, probes]
  refine LeadsTo.restrict leads fun p passes => ?_
  obtain ⟨j, _, reaches, before⟩ := id passes
  exact restarted.other (saved p passes) (reaches ▸ before j (Nat.le_refl j))

theorem fakednsRefresh_unique (unique : s.Unique) (holds : s.pool off = some entry) :
    (fakednsRefresh s off entry now).Unique := by
  intro p found p' found' occupied occupied' same
  obtain ⟨old, before, _, name⟩ := fakednsRefresh_slot holds occupied
  obtain ⟨old', before', _, name'⟩ := fakednsRefresh_slot holds occupied'
  rw [name, name'] at same
  exact unique p old p' old' before before' same

/-- A slot of the chain that was not saved ends the chain: the name is stored a
second time, in another slot. -/
theorem Restarted.moves (restarted : Restarted s now t) (size : s.poolSize ≠ 0)
    (holds : s.pool off = some entry) (name : FakednsName entry.domain)
    (live : ¬entry.expire ≤ now) (passes : s.Passes hash entry.domain p)
    (unsaved : ¬s.Saves now p) (time : BitVec 32) :
    (fakednsLookupDomain hash t entry.domain time true).1 ≠ t.address off ∧
      ¬(fakednsLookupDomain hash t entry.domain time true).2.Unique := by
  obtain ⟨_, rest⟩ := Prod.mk.inj restarted.range
  obtain ⟨sameSize, probes⟩ := Prod.mk.inj (Prod.mk.inj rest).2
  obtain ⟨hole, leads, ⟨found, occupied, differs⟩, skipped⟩ := PassesOver.first passes unsaved
  have vacant := restarted.skips hole skipped
  obtain ⟨new, held, same⟩ := restarted.saves off entry holds live
  have ends : t.Leads hash entry.domain hole := by
    rw [Fakedns.Leads, Fakedns.offset, Fakedns.poolMask, sameSize, probes]
    exact LeadsTo.mono leads fun p _ both => restarted.other both.2 both.1
  have bound := ends.lt (sameSize ▸ size)
  have misses : ∃ first, fakednsProbe t.pool entry.domain time (fakednsStep hash entry.domain)
      t.poolMask t.maxProbes (t.offset hash entry.domain) none = .missed (some hole) first :=
    fakednsProbe_of_vacant ends vacant
  obtain ⟨first, missed⟩ := misses
  have expired := (fakednsProbe_missed missed).2
  -- the name would be in its old slot and in the new one
  have twice {u : Fakedns} {q : BitVec 32} {stored : FakednsEntry} (apart : q ≠ off)
      (pool : u.pool = Function.update t.pool q (some stored))
      (named : stored.domain = entrySetDomain entry.domain) :
      t.address q ≠ t.address off ∧ ¬u.Unique := by
    refine ⟨fun equal => apart (t.address_injective equal), fun unique => apart ?_⟩
    refine unique q stored off new ?_ ?_ ?_
    · rw [pool, Function.update_self]
    · rw [pool, Function.update_of_ne apart.symm, held]
    · rw [named, entrySetDomain_of_lt name.2, same]
  rw [fakednsLookupDomain, if_neg (sameSize ▸ size), missed]
  cases first with
  | some q =>
    obtain ⟨_, old, there, other, _⟩ := (expired q rfl).resolve_left fun none => by cases none
    have apart : q ≠ off := by
      intro equal
      rw [equal, held] at there
      cases there
      exact other same
    exact twice apart (fakednsOverwrite_pool there entry.domain time) rfl
  | none =>
    have apart : hole ≠ off := by
      intro equal
      rw [equal, held] at vacant
      cases vacant
    have unfull : ¬t.poolUsed ≥ t.poolSize :=
      BitVec.not_le.mpr (restarted.used hole (sameSize ▸ bound) vacant)
    simp only [if_neg unfull, not_true, if_false]
    exact twice apart (fakednsInsert_pool t hole entry.domain time) rfl

/-- A name that was saved keeps its address over a restart, and is in no second
slot, exactly when all slots that its lookup passed over before were saved too. -/
theorem fakedns_restart {cidrStr file : List UInt8} (start : fakednsInit cidrStr true = some s₀)
    (run : FakednsLookups hash s₀ s) (saved : fakednsSave s now = some file)
    (holds : s.pool off = some entry) (written : ¬entry.expire ≤ now) (later time : BitVec 32)
    (restored : fakednsLoad s₀ file later (fun _ => true) (fun _ => true) = t) :
    (∀ memory, (fakednsLookupDomain hash t entry.domain time memory).1 = s.address off ∧
        (fakednsLookupDomain hash t entry.domain time memory).2.Unique) ↔
      ∀ p, s.Passes hash entry.domain p → s.Saves now p := by
  obtain ⟨inv₀, empty, _⟩ := fakednsInit_inv start
  obtain ⟨unused, short⟩ := fakednsInit_fresh start
  obtain ⟨held, inv⟩ := run.held inv₀ empty
  have addressed := held.addressed inv.size
  rw [held.cidr] at short
  have restarted : Restarted s now t := by
    rw [← restored]
    exact (fakednsLoad_save addressed (fun off entry holds => (held.name off entry holds).2)
      inv.inside held.range held.cidr short empty unused saved).restarted addressed
  have sameAddress : t.address off = s.address off := by
    rw [Fakedns.address, Fakedns.address, (Prod.mk.inj restarted.range).1]
  rw [← sameAddress]
  refine ⟨fun kept p passes => ?_, fun all memory => ?_⟩
  · by_contra unsaved
    obtain ⟨moves, _⟩ := restarted.moves inv.size holds (held.name off entry holds) written passes
      unsaved time
    exact moves (kept true).1
  · obtain ⟨_, rest⟩ := Prod.mk.inj restarted.range
    have size := (Prod.mk.inj (Prod.mk.inj rest).2).1
    obtain ⟨new, there, same⟩ := restarted.saves off entry holds written
    have leads := restarted.leads (held.leads off entry holds) all
    rw [fakednsLookupDomain_found (size ▸ inv.size) leads there same]
    exact ⟨rfl, fakednsRefresh_unique (restarted.unique held.unique) there⟩

/-- The only name of a pool keeps its address. -/
theorem fakedns_restart_single : ∃ file,
    fakednsSave (fakednsLookupDomain sameHash slash24 [97] 0 true).2 1 = some file ∧
      (fakednsLookupDomain sameHash
        (fakednsLoad slash24 file 2 (fun _ => true) fun _ => true) [97] 3 true).1 =
          htonl 0x0A000000 := by
  have start : fakednsInit slash24.cidrStr true = some slash24 := rfl
  have run : FakednsLookups sameHash slash24 _ := .lookup [97] 0 true .init (by decide)
  have holds : (fakednsLookupDomain sameHash slash24 [97] 0 true).2.pool 0 = some _ := rfl
  have saved : fakednsSave (fakednsLookupDomain sameHash slash24 [97] 0 true).2 1 = some _ :=
    if_neg (by decide)
  have kept := (fakedns_restart start run saved holds (by decide) 2 3 rfl).mpr ?_ true
  · exact ⟨_, saved, kept.1⟩
  · rintro p ⟨j, _, _, before⟩
    obtain ⟨found, occupied, differs⟩ := before 0 (Nat.zero_le j)
    have first : (fakednsLookupDomain sameHash slash24 [97] 0 true).2.pool 0 = some found := occupied
    rw [holds] at first
    cases first
    exact absurd rfl differs

section Moved

/-- `a` and `b` meet in the first slot; `b` is looked up again when `a` is about to expire. -/
def crowded : Fakedns :=
  (fakednsLookupDomain sameHash (fakednsLookupDomain sameHash
    (fakednsLookupDomain sameHash slash24 [97] 0 true).2 [98] 0 true).2 [98] 80000 true).2

theorem crowded_lookups : FakednsLookups sameHash slash24 crowded :=
  .lookup [98] 80000 true (.lookup [98] 0 true (.lookup [97] 0 true .init (by decide)) (by decide))
    (by decide)

/-- Not every saved name keeps its address: when `a` has expired, `b` is given
the slot of `a` and keeps its own too. -/
theorem fakedns_restart_moves : ∃ file entry, fakednsInit slash24.cidrStr true = some slash24 ∧
    FakednsLookups sameHash slash24 crowded ∧ fakednsSave crowded 90000 = some file ∧
    crowded.pool 1 = some entry ∧ ¬entry.expire ≤ 90000 ∧
      (fakednsLookupDomain sameHash (fakednsLoad slash24 file 90000 (fun _ => true) fun _ => true)
        entry.domain 90000 true).1 ≠ crowded.address 1 ∧
      ¬(fakednsLookupDomain sameHash (fakednsLoad slash24 file 90000 (fun _ => true) fun _ => true)
        entry.domain 90000 true).2.Unique := by
  have start : fakednsInit slash24.cidrStr true = some slash24 := rfl
  have saved : fakednsSave crowded 90000 = some _ := if_neg (by decide)
  have holds : crowded.pool 1 = some _ := rfl
  obtain ⟨inv₀, empty, _⟩ := fakednsInit_inv start
  obtain ⟨unused, short⟩ := fakednsInit_fresh start
  obtain ⟨held, inv⟩ := crowded_lookups.held inv₀ empty
  have addressed := held.addressed inv.size
  have restored : FakednsRestored crowded 90000 90000 _ _ _ := fakednsLoad_save addressed
    (fun off entry holds => (held.name off entry holds).2) inv.inside held.range held.cidr short empty
    unused saved
  have restarted := restored.restarted addressed
  have passes : crowded.Passes sameHash [98] 0 :=
    ⟨0, by decide, rfl, fun i le => by
      rw [Nat.le_zero.mp le]
      exact ⟨_, rfl, by decide⟩⟩
  have unsaved : ¬crowded.Saves 90000 0 := by
    rintro ⟨entry, there, live⟩
    cases there
    exact live (by decide)
  obtain ⟨moves, twice⟩ := restarted.moves inv.size holds (held.name _ _ holds) (by decide) passes
    unsaved 90000
  exact ⟨_, _, start, crowded_lookups, saved, holds, by decide, moves, twice⟩

end Moved

end Tproxy
