import Tproxy.Fakedns.Expired

namespace Tproxy

variable {hash : List UInt8 → BitVec 64} {s s₀ : Fakedns} {domain : List UInt8} {now off : BitVec 32}
  {entry : FakednsEntry}

/-- Every slot that a lookup may probe holds an unexpired entry of another name. -/
def Fakedns.Blocked (hash : List UInt8 → BitVec 64) (s : Fakedns) (domain : List UInt8)
    (now : BitVec 32) : Prop :=
  ∀ k < s.maxProbes, HoldsLive s.pool domain now (s.probe hash domain k)

/-- The slot for a name: the one its chain finds it in, or else the first of
the chain that is empty or expired. -/
inductive Fakedns.Serves (hash : List UInt8 → BitVec 64) (s : Fakedns) (domain : List UInt8)
    (now : BitVec 32) : BitVec 32 → Prop
  | known {off : BitVec 32} {entry : FakednsEntry} : s.Leads hash domain off → s.pool off = some entry →
      cStr entry.domain = cStr domain → s.Serves hash domain now off
  | free {off : BitVec 32} :
      ProbesPast s.pool domain (fakednsStep hash domain) s.poolMask s.maxProbes (s.offset hash domain) →
      (∃ k < s.maxProbes, s.probe hash domain k = off ∧
        ∀ j < k, HoldsLive s.pool domain now (s.probe hash domain j)) →
      ¬HoldsLive s.pool domain now off → s.Serves hash domain now off

/-- What a lookup that does not fail leaves: an address in the range, whose slot
alone may have changed and holds the name. -/
structure FakednsGranted (s : Fakedns) (domain : List UInt8) (now : BitVec 32)
    (result : BitVec 32 × Fakedns) : Prop where
  fakeip : fakednsIsFakeip result.2 result.1 = true
  slot : ∃ off, result.1 = result.2.address off ∧ (∀ p, p ≠ off → result.2.pool p = s.pool p) ∧
    ∃ entry, result.2.pool off = some entry ∧ cStr entry.domain = cStr domain ∧
      ¬entry.remaining now < 0

/-- A lookup fails only when it must, and then changes nothing. -/
structure FakednsFailsRightly (hash : List UInt8 → BitVec 64) (s : Fakedns) (domain : List UInt8)
    (now : BitVec 32) : Prop where
  fails : (fakednsLookupDomain hash s domain now true).1 = 0 ↔ s.Blocked hash domain now
  unchanged : s.Blocked hash domain now → (fakednsLookupDomain hash s domain now true).2 = s
  granted : ¬s.Blocked hash domain now →
    FakednsGranted s domain now (fakednsLookupDomain hash s domain now true)

section Serves

theorem Fakedns.leads_of_live (leads : ∃ k < s.maxProbes, s.probe hash domain k = off ∧
    ∀ j < k, HoldsLive s.pool domain now (s.probe hash domain j)) : s.Leads hash domain off :=
  LeadsTo.mono leads fun _ _ live => by
    obtain ⟨found, there, differs, _⟩ := live
    exact ⟨found, there, differs⟩

theorem Fakedns.Serves.not_blocked (serves : s.Serves hash domain now off) :
    ¬s.Blocked hash domain now := by
  intro blocked
  cases serves with
  | known leads holds same =>
    obtain ⟨k, bound, reaches, _⟩ := leads
    obtain ⟨found, there, differs, _⟩ := blocked k bound
    rw [Fakedns.probe, reaches, holds] at there
    cases there
    exact differs same
  | free past leads free =>
    obtain ⟨k, bound, reaches, _⟩ := leads
    exact free (reaches ▸ blocked k bound)

theorem Fakedns.serves_of_not_blocked (unblocked : ¬s.Blocked hash domain now) :
    ∃ off, s.Serves hash domain now off := by
  by_cases known : ∃ off entry, s.Leads hash domain off ∧ s.pool off = some entry ∧
    cStr entry.domain = cStr domain
  · obtain ⟨off, entry, leads, holds, same⟩ := known
    exact ⟨off, .known leads holds same⟩
  · unfold Fakedns.Blocked at unblocked
    simp only [not_forall] at unblocked
    obtain ⟨k, bound, free⟩ := unblocked
    obtain ⟨off, leads, stops⟩ := LeadsTo.first ⟨k, bound, free⟩
    exact ⟨off, .free (fun p entry leads holds same => known ⟨p, entry, leads, holds, same⟩) leads stops⟩

theorem Fakedns.Serves.lt (serves : s.Serves hash domain now off) (size : s.poolSize ≠ 0) :
    off < s.poolSize := by
  cases serves with
  | known leads _ _ => exact leads.lt size
  | free _ leads _ =>
    exact (Fakedns.leads_of_live leads).lt size

end Serves

section Outcome

/-- The result of a lookup that has stored the name in a slot. -/
theorem FakednsGranted.of_put {t : Fakedns} (shape : FakednsShape s) (bound : off < s.poolSize)
    (range : t.range = s.range) (pool : t.pool = Function.update s.pool off (some entry))
    (same : cStr entry.domain = cStr domain) (live : ¬entry.remaining now < 0) :
    FakednsGranted s domain now (s.address off, t) := by
  simp only [Fakedns.range, Prod.mk.injEq] at range
  obtain ⟨net, maskHost, size, _⟩ := range
  refine ⟨?_, off, ?_, fun p apart => ?_, entry, ?_, same, live⟩
  · rw [fakednsIsFakeip, Fakedns.address, htonl_htonl, net, maskHost, size,
      shape.inside off bound]
    simp only [ne_eq, shape.size, not_false_eq_true, decide_true, Bool.and_self]
  · rw [Fakedns.address, Fakedns.address, net]
  · rw [pool, Function.update_of_ne apart]
  · rw [pool, Function.update_self]

theorem Fakedns.Serves.granted (serves : s.Serves hash domain now off) (shape : FakednsShape s)
    (name : FakednsName domain) :
    (fakednsLookupDomain hash s domain now true).1 = s.address off ∧
      FakednsGranted s domain now (fakednsLookupDomain hash s domain now true) := by
  have bound := serves.lt shape.size
  have stored : cStr (entrySetDomain domain) = cStr domain := by rw [entrySetDomain_of_lt name.2]
  have fresh (ip version : BitVec 32) (name : List UInt8) :
      ¬FakednsEntry.remaining ⟨ip, now + BitVec.ofNat 32 fakednsEntryLifetime, version, name⟩ now < 0 := by
    rw [remaining_lifetime ⟨ip, 0, version, name⟩]
    decide
  cases serves with
  | @known entry leads holds same =>
    rw [fakednsLookupDomain_found shape.size leads holds same]
    refine ⟨rfl, ?_⟩
    unfold fakednsRefresh
    split
    · rename_i long
      refine .of_put shape bound rfl ?_ same ?_
      · rw [← holds, Function.update_eq_self]
      · rw [fakednsTtlRefreshThreshold] at long
        omega
    · exact .of_put shape bound rfl rfl same (fresh _ _ _)
  | free past leads free =>
    cases holds : s.pool off with
    | none =>
      have missed := fakednsProbe_empty leads holds
      have outcome : fakednsLookupDomain hash s domain now true =
          (s.address off, fakednsInsert s off domain now) := by
        rw [fakednsLookupDomain, if_neg shape.size, missed]
        simp only [if_neg (shape.not_full bound holds), not_true, if_false]
      rw [outcome]
      exact ⟨rfl, .of_put shape bound rfl (fakednsInsert_pool s off domain now) stored
        (fresh _ _ _)⟩
    | some entry =>
      have expired : entry.remaining now < 0 := by
        by_contra live
        exact free ⟨entry, holds, past off entry (Fakedns.leads_of_live leads) holds, live⟩
      obtain ⟨empty, missed⟩ := fakednsProbe_expired past leads holds expired
      rw [fakednsLookupDomain, if_neg shape.size, missed]
      exact ⟨rfl, .of_put shape bound rfl (fakednsOverwrite_pool holds domain now) stored
        (fresh _ _ _)⟩

end Outcome

theorem Fakedns.Blocked.fails (blocked : s.Blocked hash domain now) :
    fakednsLookupDomain hash s domain now true = (0, s) := by
  unfold fakednsLookupDomain
  split
  · rfl
  · have missed := fakednsProbe_exhausted blocked
    rw [missed]

/-- Only the first address of the network 0.0.0.0 is the value of an error. -/
theorem FakednsShape.address_eq_zero_iff (shape : FakednsShape s) (bound : off < s.poolSize) :
    s.address off = 0 ↔ s.fakeipNetHost = 0 ∧ off = 0 := by
  constructor
  · intro zero
    have sum : s.fakeipNetHost + off = 0 := by
      rw [← htonl_htonl (s.fakeipNetHost + off)]
      exact congrArg htonl zero
    have net := shape.inside off bound
    have masked (mask : BitVec 32) : 0 &&& mask = 0 := BitVec.zero_and
    rw [sum, masked] at net
    rw [← net] at sum
    exact ⟨net.symm, by bv_omega⟩
  · rintro ⟨net, rfl⟩
    rw [Fakedns.address, net]
    rfl

/-- Lookups fail only when they must exactly where they do not give out the
address 0.0.0.0, which reads as an error. -/
theorem fakedns_fails_rightly {cidrStr : List UInt8} (start : fakednsInit cidrStr true = some s₀)
    (reached : FakednsReached hash s₀ s) (name : FakednsName domain) (now : BitVec 32) :
    FakednsFailsRightly hash s domain now ↔
      ¬(s.fakeipNetHost = 0 ∧ s.Serves hash domain now 0) := by
  have shape := reached.shape (.init start)
  constructor
  · rintro rightly ⟨net, serves⟩
    have given := (serves.granted shape name).1
    refine serves.not_blocked (rightly.fails.mp (given.trans ?_))
    exact (shape.address_eq_zero_iff (serves.lt shape.size)).mpr ⟨net, rfl⟩
  · intro apart
    refine ⟨⟨fun zero => ?_, fun blocked => by rw [blocked.fails]⟩, fun blocked => by rw [blocked.fails],
      fun unblocked => ?_⟩
    · by_contra unblocked
      obtain ⟨off, serves⟩ := Fakedns.serves_of_not_blocked unblocked
      have given := (serves.granted shape name).1
      obtain ⟨net, rfl⟩ := (shape.address_eq_zero_iff (serves.lt shape.size)).mp (given.symm.trans zero)
      exact apart ⟨net, serves⟩
    · obtain ⟨off, serves⟩ := Fakedns.serves_of_not_blocked unblocked
      exact (serves.granted shape name).2

/-- In any other network than 0.0.0.0 lookups fail only when they must. -/
theorem fakedns_fails_rightly_ten : FakednsFailsRightly sameHash singleA [98] 100 :=
  have start : fakednsInit slash24.cidrStr true = some slash24 := rfl
  (fakedns_fails_rightly start singleA_reached (by decide) 100).mpr fun zero =>
    absurd zero.1 (by decide)

/-- `0.0.0.0/24` -/
def zeroCidr : List UInt8 := [48, 46, 48, 46, 48, 46, 48, 47, 50, 52]

/-- The first lookup in the network 0.0.0.0 stores the name and answers 0. -/
theorem fakedns_fails_zero : ∃ s₀, fakednsInit zeroCidr true = some s₀ ∧ FakednsReached sameHash s₀ s₀ ∧
    FakednsName [97] ∧ (fakednsLookupDomain sameHash s₀ [97] 0 true).1 = 0 ∧
    ¬s₀.Blocked sameHash [97] 0 ∧ (fakednsLookupDomain sameHash s₀ [97] 0 true).2 ≠ s₀ ∧
    ¬FakednsFailsRightly sameHash s₀ [97] 0 := by
  obtain ⟨s₀, start⟩ : ∃ s₀, fakednsInit zeroCidr true = some s₀ := ⟨_, rfl⟩
  have zero : (fakednsLookupDomain sameHash s₀ [97] 0 true).1 = 0 := by
    cases start
    decide
  have unblocked : ¬s₀.Blocked sameHash [97] 0 := by
    cases start
    intro blocked
    obtain ⟨found, there, _⟩ := blocked 0 (by decide)
    cases there
  refine ⟨s₀, start, .init, by decide, zero, unblocked, fun same => ?_, fun rightly =>
    unblocked (rightly.fails.mp zero)⟩
  have used : (fakednsLookupDomain sameHash s₀ [97] 0 true).2.poolUsed = 1 := by
    cases start
    decide
  rw [same] at used
  cases start
  cases used

end Tproxy
