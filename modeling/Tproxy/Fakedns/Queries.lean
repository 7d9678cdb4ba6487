import Tproxy.Fakedns.Lease
import Tproxy.Fakedns.Names

namespace Tproxy

/-- A query with one question, in class IN, for a name and a type. -/
def FakednsQuestion (labels : List (List UInt8)) (qtype : UInt8) (query : List UInt8) : Prop :=
  QnameLabels labels ∧ ∃ header rest : List UInt8,
    header.length = 12 ∧ query = header ++ (qnameWire labels ++ ([0, qtype, 0, 1] ++ rest))

/-- ANCOUNT of a message. -/
def dnsAncount (message : List UInt8) : List UInt8 := (message.drop 6).take 2

/-- The address at the end of an answer with one A record. -/
def dnsAddress (message : List UInt8) : List UInt8 := message.drop (message.length - 4)

variable (hash : List UInt8 → BitVec 64)

/-- `fakedns_process_query` by the DNS thread, which is thread 0. -/
def FakednsWorld.ask (w : FakednsWorld) (memory : Bool) (query : List UInt8) (buflen : Nat) :
    Option (List UInt8) × FakednsWorld :=
  let (response, s, m) := fakednsProcessQuery hash w.dns (w.mru 0) w.time memory query buflen
  (response, { w with dns := s, mru := Function.update w.mru 0 m })

/-- What the program may do next, as it is asked by others: time passes, a
query arrives, or any thread looks up an address. -/
inductive FakednsQueryStep : FakednsWorld → FakednsWorld → Prop
  | tick {w} (later : Nat) : w.now ≤ later → FakednsQueryStep w { w with now := later }
  | query {w} (memory : Bool) (query : List UInt8) (buflen : Nat) :
      FakednsQueryStep w (w.ask hash memory query buflen).2
  | reverse {w} (thread : Nat) (ip : BitVec 32) (bufLen : Nat) :
      FakednsQueryStep w { w with
        mru := Function.update w.mru thread
          (fakednsReverseLookup w.dns (w.mru thread) ip bufLen).2 }

abbrev FakednsQueries : FakednsWorld → FakednsWorld → Prop :=
  Relation.ReflTransGen (FakednsQueryStep hash)

/-- What a query does to the pool and to the cache of its thread. -/
inductive FakednsProcessed (s : Fakedns) (m : FakednsMru) (now : BitVec 32) :
    Fakedns × FakednsMru → Prop
  | unchanged : FakednsProcessed s m now (s, m)
  | looked (domain : List UInt8) (memory : Bool) :
      FakednsProcessed s m now ((fakednsLookupDomain hash s domain now memory).2, m)
  | resolved (ip : BitVec 32) (bufLen : Nat) :
      FakednsProcessed s m now (s, (fakednsReverseLookup s m ip bufLen).2)

variable {hash} {s : Fakedns} {m : FakednsMru} {now : BitVec 32} {w w' : FakednsWorld}
  {labels : List (List UInt8)} {query : List UInt8}

theorem fakednsProcessQuestion_processed (memory : Bool) (question domain : List UInt8)
    (respFlags qtype qclass : UInt16) (buflen : Nat) :
    FakednsProcessed hash s m now
      (fakednsProcessQuestion hash s m now memory question respFlags domain qtype qclass buflen).2 := by
  unfold fakednsProcessQuestion
  split
  · exact .unchanged
  split
  · exact .unchanged
  split
  · -- an A record
    simp only
    split
    · split
      · exact .looked domain memory
      · exact .looked domain memory
    · exact .looked domain memory
  split
  · -- a PTR record
    split
    · exact .unchanged
    · rename_i ptrIp _
      have resolved : FakednsProcessed hash s m now (s, (fakednsReverseLookup s m ptrIp _).2) :=
        .resolved ptrIp fakednsMaxDomainLen
      split
      · rename_i found
        rwa [found] at resolved
      · rename_i found
        rw [found] at resolved
        split
        · exact resolved
        · split
          · exact resolved
          · exact resolved
  · exact .unchanged

theorem fakednsProcessQuery_processed (hash : List UInt8 → BitVec 64) (s : Fakedns) (m : FakednsMru)
    (now : BitVec 32) (memory : Bool) (query : List UInt8) (buflen : Nat) :
    FakednsProcessed hash s m now (fakednsProcessQuery hash s m now memory query buflen).2 := by
  unfold fakednsProcessQuery
  split
  · simp only
    split
    · exact .unchanged
    split
    · exact .unchanged
    split
    · exact .unchanged
    · exact .unchanged
    · exact fakednsProcessQuestion_processed ..
    · exact .unchanged
  · exact .unchanged

/-- A query keeps the invariant. -/
theorem FakednsProcessed.keeps {result : Fakedns × FakednsMru} (inv : WorldInv w)
    (processed : FakednsProcessed hash w.dns (w.mru 0) w.time result) :
    WorldInv { w with dns := result.1, mru := Function.update w.mru 0 result.2 } ∧
      PoolGrows w.dns result.1 := by
  cases processed with
  | unchanged =>
    rw [Function.update_eq_self]
    exact ⟨⟨inv.pool, inv.cached⟩, .refl _⟩
  | looked domain memory =>
    obtain ⟨pool, grows⟩ := (fakednsLookupDomain_outcome hash w.dns domain w.time memory).keeps inv.pool
    rw [Function.update_eq_self]
    exact ⟨⟨pool, fun thread i => (inv.cached thread i).grow grows⟩, grows⟩
  | resolved ip bufLen => exact ⟨inv.reverse 0 ip bufLen, .refl _⟩

theorem FakednsWorld.ask_processed (hash : List UInt8 → BitVec 64) (w : FakednsWorld) (memory : Bool)
    (query : List UInt8) (buflen : Nat) : ∃ result,
      FakednsProcessed hash w.dns (w.mru 0) w.time result ∧ (w.ask hash memory query buflen).2 =
        { w with dns := result.1, mru := Function.update w.mru 0 result.2 } :=
  ⟨_, fakednsProcessQuery_processed hash w.dns (w.mru 0) w.time memory query buflen, rfl⟩

theorem FakednsQueryStep.forward (step : FakednsQueryStep hash w w') : w.now ≤ w'.now := by
  cases step with
  | tick _ forward => exact forward
  | query => exact Nat.le_refl _
  | reverse => exact Nat.le_refl _

theorem WorldInv.queryStep (inv : WorldInv w) (step : FakednsQueryStep hash w w') :
    WorldInv w' ∧ PoolGrows w.dns w'.dns := by
  cases step with
  | tick => exact ⟨⟨inv.pool, inv.cached⟩, .refl _⟩
  | query memory query buflen =>
    obtain ⟨result, processed, after⟩ := w.ask_processed hash memory query buflen
    rw [after]
    exact processed.keeps inv
  | reverse thread ip bufLen => exact ⟨inv.reverse thread ip bufLen, .refl _⟩

theorem WorldInv.queries (inv : WorldInv w) (run : FakednsQueries hash w w') :
    WorldInv w' ∧ PoolGrows w.dns w'.dns := by
  induction run with
  | refl => exact ⟨inv, .refl _⟩
  | tail _ step ih =>
    obtain ⟨inv, grows⟩ := ih
    obtain ⟨inv', grows'⟩ := inv.queryStep step
    exact ⟨inv', grows.trans grows'⟩

/-- A slot keeps what it holds for a time in any run of queries. -/
theorem SlotHolds.queries {content : List UInt8} {off : BitVec 32}
    (held : SlotHolds content off fakednsDnsTtl w.dns w.time) (after : FakednsQueries hash w w')
    (within : w'.now ≤ w.now + fakednsDnsTtl) :
    w.now ≤ w'.now ∧
      SlotHolds content off (fakednsDnsTtl - (w'.now - w.now : Nat)) w'.dns w'.time := by
  let holds (margin : Int) (w : FakednsWorld) : Prop :=
    margin ≤ fakednsTtlRefreshThreshold ∧ SlotHolds content off margin w.dns w.time
  have keeps {v v' : FakednsWorld} {margin : Int} (step : FakednsQueryStep hash v v')
      (held : holds margin v) (within : (v'.now - v.now : Nat) ≤ margin) :
      holds (margin - (v'.now - v.now : Nat)) v' := by
    obtain ⟨short, held⟩ := held
    refine ⟨by omega, ?_⟩
    cases step with
    | tick later forward => exact held.tick forward within
    | query memory query buflen =>
      obtain ⟨result, processed, after⟩ := v.ask_processed hash memory query buflen
      rw [after]
      simp only [Nat.sub_self, Int.ofNat_zero, Int.sub_zero]
      cases processed with
      | unchanged => exact held
      | looked domain memory =>
        exact (fakednsLookupDomain_outcome ..).keeps_slot held (by omega) short
      | resolved => exact held
    | reverse =>
      rw [Nat.sub_self, Int.ofNat_zero, Int.sub_zero]
      exact held
  obtain ⟨forward, _, held⟩ :=
    TimedRun.countdown holds after ⟨by decide, held⟩ FakednsQueryStep.forward keeps (by omega)
  exact ⟨forward, held⟩

end Tproxy
