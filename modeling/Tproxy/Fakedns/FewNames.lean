import Mathlib.Data.List.Dedup
import Tproxy.Fakedns.OneSlot
import Tproxy.Fakedns.ProbeCycle

namespace Tproxy

/-- The pool after lookups at given times, with memory in the system. -/
def fakednsLookupAll (hash : List UInt8 → BitVec 64) (s : Fakedns) (queries : List (List UInt8 × BitVec 32)) :
    Fakedns :=
  queries.foldl (fun s query => (fakednsLookupDomain hash s query.1 query.2 true).2) s

/-- The names that are asked for. -/
def queriedNames (queries : List (List UInt8 × BitVec 32)) : List (List UInt8) := (queries.map Prod.fst).dedup

variable {hash : List UInt8 → BitVec 64} {s s₀ : Fakedns} {domain : List UInt8} {now : BitVec 32}
  {queries before after : List (List UInt8 × BitVec 32)}

theorem fakednsLookupAll_lookups (names : ∀ query ∈ queries, FakednsName query.1) :
    FakednsLookups hash s₀ (fakednsLookupAll hash s₀ queries) := by
  induction queries using List.reverseRecOn with
  | nil => exact .init
  | append_singleton queries query ih =>
    have earlier := ih fun q member => names q (List.mem_append_left _ member)
    have last := names query (List.mem_append_right _ List.mem_cons_self)
    rw [fakednsLookupAll, List.foldl_append]
    exact .lookup query.1 query.2 true earlier last

/-- A lookup stores no other name than its own. -/
theorem fakednsLookupDomain_names (shape : FakednsShape s) (name : FakednsName domain) (now : BitVec 32)
    {off : BitVec 32} {entry : FakednsEntry}
    (holds : (fakednsLookupDomain hash s domain now true).2.pool off = some entry) :
    cStr entry.domain = cStr domain ∨ s.pool off = some entry := by
  by_cases blocked : s.Blocked hash domain now
  · rw [blocked.fails] at holds
    exact Or.inr holds
  · obtain ⟨slot, serves⟩ := Fakedns.serves_of_not_blocked blocked
    obtain ⟨off', _, others, entry', stored, same, _⟩ := (serves.granted shape name).2.slot
    by_cases here : off = off'
    · subst here
      cases stored.symm.trans holds
      exact Or.inl same
    · exact Or.inr ((others off here).symm.trans holds)

/-- The names in the pool were asked for. -/
theorem fakednsLookupAll_names {cidrStr : List UInt8} (start : fakednsInit cidrStr true = some s₀)
    (names : ∀ query ∈ queries, FakednsName query.1) {off : BitVec 32} {entry : FakednsEntry}
    (holds : (fakednsLookupAll hash s₀ queries).pool off = some entry) :
    cStr entry.domain ∈ queriedNames queries := by
  induction queries using List.reverseRecOn with
  | nil =>
    obtain ⟨_, empty, _⟩ := fakednsInit_inv start
    cases (empty off).symm.trans holds
  | append_singleton queries query ih =>
    have earlier : ∀ q ∈ queries, FakednsName q.1 := fun q member => names q (List.mem_append_left _ member)
    have last := names query (List.mem_append_right _ List.mem_cons_self)
    have run : FakednsLookups hash s₀ (fakednsLookupAll hash s₀ queries) := fakednsLookupAll_lookups earlier
    have shape := run.reached.shape (.init start)
    rw [fakednsLookupAll, List.foldl_append] at holds
    simp only [queriedNames, List.mem_dedup, List.map_append, List.mem_append] at ih ⊢
    rcases fakednsLookupDomain_names shape last query.2 holds with own | old
    · refine Or.inr ?_
      rw [own, cStr_of_free last.1]
      exact List.mem_cons_self
    · exact Or.inl (ih earlier old)

/-- A lookup that fails has met as many other names as it may probe slots. -/
theorem Fakedns.Blocked.le_names {m : Nat} {names : List (List UInt8)} (blocked : s.Blocked hash domain now)
    (small : m ≤ 32) (size : s.poolSize.toNat = 2 ^ m) (fits : s.maxProbes ≤ s.poolSize.toNat)
    (unique : s.Unique) (stored : ∀ off entry, s.pool off = some entry → cStr entry.domain ∈ names) :
    s.maxProbes ≤ (names.erase (cStr domain)).length := by
  choose entry holds other _ using blocked
  have nodup : (List.range s.maxProbes).attach.map (fun k =>
      cStr (entry k.1 (List.mem_range.mp k.2)).domain) |>.Nodup := by
    refine List.Nodup.map_on (fun j _ k _ same => ?_) (List.nodup_attach.mpr List.nodup_range)
    have first := List.mem_range.mp j.2
    have second := List.mem_range.mp k.2
    refine Subtype.ext (s.probe_injective small size hash domain (first.trans_le fits) (second.trans_le fits) ?_)
    exact unique _ _ _ _ (holds j.1 first) (holds k.1 second) same
  have inside : (List.range s.maxProbes).attach.map (fun k =>
      cStr (entry k.1 (List.mem_range.mp k.2)).domain) ⊆ names.erase (cStr domain) := by
    intro name member
    obtain ⟨k, _, rfl⟩ := List.mem_map.mp member
    have bound := List.mem_range.mp k.2
    exact (List.mem_erase_of_ne (other k.1 bound)).mpr (stored _ _ (holds k.1 bound))
  have le := (nodup.subperm inside).length_le
  rwa [List.length_map, List.length_attach, List.length_range] at le

/-- From a new pool on, a run of lookups with at most `g_max_probes` different names is never
refused, whatever the names hash to and whenever they are asked for. The network is not 0.0.0.0,
whose first address is the value of an error. -/
theorem fakedns_serves_few {cidrStr : List UInt8} (start : fakednsInit cidrStr true = some s₀)
    (network : s₀.fakeipNetHost ≠ 0) (names : ∀ query ∈ queries, FakednsName query.1)
    (few : (queriedNames queries).length ≤ s₀.maxProbes)
    (split : queries = before ++ (domain, now) :: after) :
    (fakednsLookupDomain hash (fakednsLookupAll hash s₀ before) domain now true).1 ≠ 0 ∧
      FakednsGranted (fakednsLookupAll hash s₀ before) domain now
        (fakednsLookupDomain hash (fakednsLookupAll hash s₀ before) domain now true) := by
  subst split
  have earlier : ∀ query ∈ before, FakednsName query.1 := fun q member => names q (List.mem_append_left _ member)
  have name : FakednsName domain := names (domain, now) (List.mem_append_right _ List.mem_cons_self)
  have run : FakednsLookups hash s₀ (fakednsLookupAll hash s₀ before) := fakednsLookupAll_lookups earlier
  have shape := run.reached.shape (.init start)
  obtain ⟨inv₀, empty, _⟩ := fakednsInit_inv start
  have unique := (run.held inv₀ empty).1.unique
  obtain ⟨⟨m, _, le, size⟩, probes⟩ := run.reached.poolSize start
  have asked : domain ∈ queriedNames (before ++ (domain, now) :: after) := by
    simp [queriedNames]
  have stored : ∀ off entry, (fakednsLookupAll hash s₀ before).pool off = some entry →
      cStr entry.domain ∈ queriedNames (before ++ (domain, now) :: after) := fun off entry holds => by
    have listed := fakednsLookupAll_names start earlier holds
    simp only [queriedNames, List.mem_dedup, List.map_append, List.mem_append] at listed ⊢
    exact Or.inl listed
  have range := run.reached.range (.init start)
  simp only [Fakedns.range, Prod.mk.injEq] at range
  obtain ⟨sameNet, _, _, sameProbes, _⟩ := range
  have unblocked : ¬(fakednsLookupAll hash s₀ before).Blocked hash domain now := by
    intro blocked
    have full := blocked.le_names (le.trans (by decide)) size (probes ▸ Nat.min_le_left _ _) unique stored
    rw [cStr_of_free name.1, List.length_erase_of_mem asked, sameProbes] at full
    have some := List.length_pos_of_mem asked
    omega
  obtain ⟨off, serves⟩ := Fakedns.serves_of_not_blocked unblocked
  obtain ⟨given, granted⟩ := serves.granted shape name
  refine ⟨fun zero => network ?_, granted⟩
  rw [← sameNet]
  exact ((shape.address_eq_zero_iff (serves.lt shape.size)).mp (given.symm.trans zero)).1

/-- `a` and `b`, which hash alike, are asked for in turn. -/
theorem fakedns_serves_few_alike :
    (fakednsLookupDomain sameHash (fakednsLookupAll sameHash slash24 [([97], 0), ([98], 5)]) [97] 9 true).1 ≠ 0 ∧
      FakednsGranted (fakednsLookupAll sameHash slash24 [([97], 0), ([98], 5)]) [97] 9
        (fakednsLookupDomain sameHash (fakednsLookupAll sameHash slash24 [([97], 0), ([98], 5)]) [97] 9 true) := by
  have start : fakednsInit slash24.cidrStr true = some slash24 := rfl
  have names : ∀ query ∈ [([97], 0), ([98], 5), (([97] : List UInt8), (9 : BitVec 32))], FakednsName query.1 := by
    decide
  have split : [([97], 0), ([98], 5), (([97] : List UInt8), (9 : BitVec 32))] =
      [([97], 0), ([98], 5)] ++ ([97], 9) :: [] := rfl
  exact fakedns_serves_few start (by decide) names (by decide) split

end Tproxy
