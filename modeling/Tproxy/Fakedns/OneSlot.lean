import Tproxy.Fakedns.RestartSafety
import Tproxy.Fakedns.Shape

namespace Tproxy

variable {hash : List UInt8 → BitVec 64} {s s₀ : Fakedns} {domain : List UInt8} {now off : BitVec 32}
  {entry : FakednsEntry}

/-- The slot that a lookup of the name probes at position `k`. -/
def Fakedns.probe (hash : List UInt8 → BitVec 64) (s : Fakedns) (domain : List UInt8) (k : Nat) :
    BitVec 32 :=
  (fakednsNextOffset (fakednsStep hash domain) s.poolMask)^[k] (s.offset hash domain)

theorem FakednsLookups.reached (run : FakednsLookups hash s₀ s) : FakednsReached hash s₀ s := by
  induction run with
  | init => exact .init
  | lookup domain now memory _ name ih => exact .lookup domain now memory ih name

theorem Fakedns.Leads.probe (leads : s.Leads hash domain off) : ∃ k < s.maxProbes,
    s.probe hash domain k = off ∧ ∀ j < k, (s.pool (s.probe hash domain j)).isSome = true := by
  obtain ⟨k, bound, reaches, before⟩ := leads
  refine ⟨k, bound, reaches, fun j earlier => ?_⟩
  obtain ⟨found, held, _⟩ := before j earlier
  rw [Fakedns.probe, held]
  rfl

/-- In every pool that lookups lead to, each name is in one slot, on its probe
sequence behind slots in use, and the slots in use are counted: there is room
whenever a lookup ends at an empty slot. -/
theorem fakedns_one_slot {cidrStr : List UInt8} (start : fakednsInit cidrStr true = some s₀)
    (run : FakednsLookups hash s₀ s) :
    (∀ off entry, s.pool off = some entry → off < s.poolSize ∧ entry.ip = s.address off ∧
      ∃ k < s.maxProbes, s.probe hash entry.domain k = off ∧
        ∀ j < k, (s.pool (s.probe hash entry.domain j)).isSome = true) ∧
    s.Unique ∧ s.poolUsed.toNat = s.occupied ∧
    ∀ domain now off first,
      fakednsProbe s.pool domain now (fakednsStep hash domain) s.poolMask s.maxProbes
        (s.offset hash domain) none = .missed (some off) first → ¬s.poolUsed ≥ s.poolSize := by
  obtain ⟨inv₀, empty, _⟩ := fakednsInit_inv start
  obtain ⟨held, inv⟩ := run.held inv₀ empty
  have shape := run.reached.shape (.init start)
  refine ⟨fun off entry holds => ?_, held.unique, shape.used, fun domain now off first missed => ?_⟩
  · obtain ⟨bound, ip⟩ := shape.addressed off entry holds
    exact ⟨bound, ip, (held.leads off entry holds).probe⟩
  · obtain ⟨leads, vacant⟩ := (fakednsProbe_missed missed).1 off rfl
    have leads : s.Leads hash domain off := leads
    exact shape.not_full (leads.lt shape.size) vacant

/-- `a` and then `b`, which meet in the first slot. -/
theorem fakedns_one_slot_two : ∃ s, FakednsLookups sameHash slash24 s ∧ s.occupied = 2 ∧ s.Unique := by
  have start : fakednsInit slash24.cidrStr true = some slash24 := rfl
  have run : FakednsLookups sameHash slash24 _ :=
    .lookup [98] 1 true (.lookup [97] 0 true .init (by decide)) (by decide)
  obtain ⟨_, unique, used, _⟩ := fakedns_one_slot start run
  exact ⟨_, run, used.symm.trans (by decide), unique⟩

end Tproxy
