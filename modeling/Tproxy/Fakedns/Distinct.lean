import Tproxy.Fakedns.Answers
import Tproxy.Fakedns.LeaseSafety

namespace Tproxy

variable {hash : List UInt8 → BitVec 64} {w₀ w w' : FakednsWorld}
  {labels labels' : List (List UInt8)} {query query' response response' : List UInt8}
  {memory memory' : Bool} {buflen buflen' : Nat}

/-- Within the time to live of an answer, another answer with its address is
for the same dotted name, so for the same labels when no byte in them ends a
string or a label. -/
theorem fakedns_distinct (start : FakednsStart w₀) (before : FakednsQueries hash w₀ w)
    (asks : FakednsQuestion labels 1 query)
    (answer : (w.ask hash memory query buflen).1 = some response)
    (one : dnsAncount response = [0, 1])
    (between : FakednsQueries hash (w.ask hash memory query buflen).2 w')
    (within : w'.now ≤ w.now + fakednsDnsTtl) (asks' : FakednsQuestion labels' 1 query')
    (answer' : (w'.ask hash memory' query' buflen').1 = some response')
    (one' : dnsAncount response' = [0, 1]) (same : dnsAddress response = dnsAddress response') :
    cStr (qnameDotted labels) = cStr (qnameDotted labels') ∧
      (QnameClean labels → QnameClean labels' → qnameLower labels = qnameLower labels') := by
  obtain ⟨inv, _⟩ := start.inv.queries before
  obtain ⟨⟨nonempty, _⟩, _⟩ := w.ask_address asks answer one
  obtain ⟨⟨nonempty', _⟩, x, s', lookup, _, _, after'⟩ := w'.ask_address asks' answer' one'
  obtain ⟨off, _, address, held⟩ := w.ask_holds asks answer one inv
  have asked : FakednsQueries hash w (w.ask hash memory query buflen).2 :=
    .single (.query memory query buflen)
  obtain ⟨inv', grows⟩ := inv.queries (asked.trans between)
  obtain ⟨off', _, address', held'⟩ := w'.ask_holds asks' answer' one' inv'
  -- the two answers name the same slot
  have slot : off' = off := by
    refine w'.dns.address_injective (fwriteLe_inj ?_)
    rw [← address', ← same, address, Fakedns.address, Fakedns.address, (Prod.mk.inj grows.range).1]
  obtain ⟨forward, held⟩ := held.queries between within
  have forward : w.now ≤ w'.now := forward
  have ttl : (fakednsDnsTtl : Int) ≤ fakednsTtlRefreshThreshold := by decide
  have outcome := fakednsLookupDomain_outcome hash w'.dns (qnameDotted labels') w'.time memory'
  have held := outcome.keeps_slot held (by simp only [FakednsWorld.ask]; omega) (by omega)
  rw [lookup] at held
  rw [after', slot] at held'
  have dotted : cStr (qnameDotted labels) = cStr (qnameDotted labels') := by
    obtain ⟨entry, holds, same, _⟩ := held
    obtain ⟨entry', holds', same', _⟩ := held'
    cases holds.symm.trans holds'
    exact same.symm.trans same'
  refine ⟨dotted, fun clean clean' => ?_⟩
  rw [cStr_of_free clean.dotted_free, cStr_of_free clean'.dotted_free] at dotted
  exact clean.dotted_inj clean' nonempty nonempty' dotted

/-- A query with the name and the type, and recursion desired. -/
def dnsQuery (labels : List (List UInt8)) (qtype : UInt8) : List UInt8 :=
  [0, 0, 1, 0, 0, 1, 0, 0, 0, 0, 0, 0] ++ (qnameWire labels ++ ([0, qtype, 0, 1] ++ []))

theorem dnsQuery_question (sized : QnameLabels labels) (qtype : UInt8) :
    FakednsQuestion labels qtype (dnsQuery labels qtype) :=
  ⟨sized, _, _, rfl, rfl⟩

/-- The start in `10.0.0.0/24`. -/
def slash24World : FakednsWorld := ⟨slash24, fun _ => fakednsMruZero, 0⟩

/-- An hour after the answer for `a`, `A` is answered with the same address. -/
theorem fakedns_distinct_case : ∃ w response response',
    FakednsQueries sameHash (slash24World.ask sameHash true (dnsQuery [[97]] 1) 512).2 w ∧
      w.now = 3600 ∧
      (slash24World.ask sameHash true (dnsQuery [[97]] 1) 512).1 = some response ∧
      (w.ask sameHash true (dnsQuery [[65]] 1) 512).1 = some response' ∧
      dnsAddress response = dnsAddress response' ∧ qnameLower [[97]] = qnameLower [[65]] := by
  have later : FakednsQueries sameHash (slash24World.ask sameHash true (dnsQuery [[97]] 1) 512).2
      { (slash24World.ask sameHash true (dnsQuery [[97]] 1) 512).2 with now := 3600 } :=
    .single (.tick 3600 (Nat.zero_le _))
  have asks : FakednsQuestion [[97]] 1 (dnsQuery [[97]] 1) := dnsQuery_question (by decide) 1
  have asks' : FakednsQuestion [[65]] 1 (dnsQuery [[65]] 1) := dnsQuery_question (by decide) 1
  have answer : (slash24World.ask sameHash true (dnsQuery [[97]] 1) 512).1 = some _ := rfl
  have answer' : (FakednsWorld.ask sameHash
      { (slash24World.ask sameHash true (dnsQuery [[97]] 1) 512).2 with now := 3600 } true
      (dnsQuery [[65]] 1) 512).1 = some _ := rfl
  have distinct := fakedns_distinct slash24_start .refl asks answer (by decide) later (by decide) asks'
    answer' (by decide) (by decide)
  exact ⟨_, _, _, later, rfl, answer, answer', by decide, distinct.2 (by decide) (by decide)⟩

/-- The label `a.b` and the labels `a`, `b` share an address. -/
theorem fakedns_distinct_dots : ∃ response response',
    FakednsStart slash24World ∧
      FakednsQuestion [[97, 46, 98]] 1 (dnsQuery [[97, 46, 98]] 1) ∧
      FakednsQuestion [[97], [98]] 1 (dnsQuery [[97], [98]] 1) ∧
      (slash24World.ask sameHash true (dnsQuery [[97, 46, 98]] 1) 512).1 = some response ∧
      ((slash24World.ask sameHash true (dnsQuery [[97, 46, 98]] 1) 512).2.ask sameHash true
        (dnsQuery [[97], [98]] 1) 512).1 = some response' ∧
      dnsAncount response = [0, 1] ∧ dnsAncount response' = [0, 1] ∧
      dnsAddress response = dnsAddress response' ∧
      qnameLower [[97, 46, 98]] ≠ qnameLower [[97], [98]] :=
  ⟨_, _, slash24_start, dnsQuery_question (by decide) 1, dnsQuery_question (by decide) 1, rfl, rfl,
    by decide, by decide, by decide, by decide⟩

end Tproxy
