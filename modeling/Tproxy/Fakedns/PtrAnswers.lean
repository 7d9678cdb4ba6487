import Tproxy.Fakedns.Distinct
import Tproxy.Fakedns.Pointer

namespace Tproxy

variable {hash : List UInt8 → BitVec 64} {s : Fakedns} {m : FakednsMru}
  {w₀ w w' : FakednsWorld} {labels labels' : List (List UInt8)}
  {query query' response : List UInt8} {memory memory' : Bool} {buflen : Nat} {x : BitVec 32}

theorem qnameWire_lower_length (labels : List (List UInt8)) :
    (qnameWire (qnameLower labels)).length = (qnameWire labels).length := by
  induction labels with
  | nil => rfl
  | cons label labels ih =>
    have cons : qnameLower (label :: labels) = label.map asciiLower :: qnameLower labels := rfl
    rw [cons, qnameWire_cons, qnameWire_cons, List.length_append, List.length_append, ih]
    simp only [List.length_cons, List.length_map]

/-- The name of an address has a short wire form. -/
theorem ptrLabels_wire (x : BitVec 32) : (qnameWire (ptrLabels x)).length ≤ 30 := by
  obtain ⟨_, octets⟩ := ptrOctets_length x
  have nonempty : ptrLabels x ≠ [] := List.cons_ne_nil _ _
  have arpa : inAddrArpa.length = 13 := rfl
  rw [qnameWire_length nonempty, ptrLabels_dotted, List.length_append, arpa]
  omega

theorem ptrLabels_fits (ptr : qnameLower labels = ptrLabels x) : QnameFits labels := by
  have count := congrArg List.length ptr
  have six : (ptrLabels x).length = 6 := rfl
  rw [qnameLower, List.length_map, six] at count
  refine ⟨List.length_pos_iff.mp (by omega), by omega, ?_⟩
  obtain ⟨_, octets⟩ := ptrOctets_length x
  have arpa : inAddrArpa.length = 13 := rfl
  rw [qnameDotted, ptr, ptrLabels_dotted, List.length_append, arpa, fakednsMaxDomainLen]
  omega

/-- The wire form of a name whose dotted form fits an entry. -/
theorem QnameFits.wire (fits : QnameFits labels) : (qnameWire (qnameLower labels)).length ≤ 245 := by
  obtain ⟨nonempty, _, short⟩ := fits
  have lower : qnameLower labels ≠ [] := by
    rwa [qnameLower, ne_eq, List.map_eq_nil_iff]
  rw [qnameWire_length lower]
  exact Nat.add_le_add_right (Nat.le_of_lt_succ short) 2

/-- A clean name is encoded with its letters in lower case. -/
theorem fakednsEncodeDnsName_dotted (sized : QnameLabels labels) (clean : QnameClean labels)
    (fits : QnameFits labels) :
    fakednsEncodeDnsName (qnameDotted labels) (fakednsMaxDomainLen + 2) =
      some (qnameWire (qnameLower labels)) := by
  rw [fakednsEncodeDnsName, cStr_of_free clean.dotted_free, qnameDotted,
    fakednsEncodeLabels_dotted sized.lower clean.lower]
  · rfl
  · exact Nat.le_trans fits.wire (by decide)

/-- A query for the name of an address that is resolved to a clean name is
answered with that name. -/
theorem fakednsProcessQuery_ptr (hash : List UInt8 → BitVec 64) (now : BitVec 32) (memory : Bool)
    (asks : FakednsQuestion labels' 12 query)
    (ptr : qnameLower labels' = ptrLabels x) (standard : FakednsStandard query)
    (room : query.length ≤ 512) (sized : QnameLabels labels) (clean : QnameClean labels)
    (fits : QnameFits labels)
    (resolved : (fakednsReverseLookup s m x fakednsMaxDomainLen).1 = some (qnameDotted labels)) :
    ∃ response, (fakednsProcessQuery hash s m now memory query 512).1 = some response ∧
      dnsAncount response = [0, 1] ∧
      response.drop ((qnameWire labels').length + 16) =
        fakednsAnswer 12 (qnameWire (qnameLower labels)) := by
  have short := ptrLabels_wire x
  rw [← ptr, qnameWire_lower_length] at short
  have rdata := fits.wire
  have encoded := fakednsEncodeDnsName_dotted sized clean fits
  rcases fakednsProcessQuery_question hash s m now memory 512 asks with
    ⟨_, dropped⟩ | ⟨_, question, respFlags, length, processed⟩
  · exact absurd ⟨room, standard, ptrLabels_fits ptr⟩ dropped
  have type : UInt8.toUInt16 12 = 12 := rfl
  have parsed : fakednsParsePtrName (qnameDotted labels') = some x := by
    rw [qnameDotted, ptr, fakednsParsePtrName_labels]
  obtain ⟨m', found⟩ : ∃ m', fakednsReverseLookup s m x fakednsMaxDomainLen =
    (some (qnameDotted labels), m') := ⟨_, Prod.ext resolved rfl⟩
  refine ⟨fakednsResponse question respFlags 1 (fakednsAnswer 12 (qnameWire (qnameLower labels))), ?_,
    fakednsResponse_ancount (by omega) .., length ▸ fakednsResponse_drop ..⟩
  rw [processed, fakednsProcessQuestion, type, if_neg (by omega), if_neg (not_not.mpr rfl),
    if_neg (by decide), if_pos rfl, parsed]
  simp only [found, encoded]
  rw [if_neg (by omega)]

/-- Within the time to live of an answer, and while fewer than 2^32 overwrites
were made in its slot, the name of its address is answered with the name. -/
theorem fakedns_ptr_agrees (start : FakednsStart w₀) (before : FakednsQueries hash w₀ w)
    (asks : FakednsQuestion labels 1 query) (clean : QnameClean labels)
    (answer : (w.ask hash memory query buflen).1 = some response)
    (one : dnsAncount response = [0, 1]) (address : dnsAddress response = fwriteLe 4 x.toNat)
    (between : FakednsQueries hash (w.ask hash memory query buflen).2 w')
    (within : w'.now ≤ w.now + fakednsDnsTtl)
    (unwrapped : (w'.dns.stored (htonl x - w'.dns.fakeipNetHost)).length ≤ 2 ^ 32)
    (asks' : FakednsQuestion labels' 12 query') (ptr : qnameLower labels' = ptrLabels x)
    (standard : FakednsStandard query') (room : query'.length ≤ 512) :
    ∃ response', (w'.ask hash memory' query' 512).1 = some response' ∧
      dnsAncount response' = [0, 1] ∧
      response'.drop ((qnameWire labels').length + 16) =
        fakednsAnswer 12 (qnameWire (qnameLower labels)) := by
  obtain ⟨inv, _⟩ := start.inv.queries before
  obtain ⟨fits, _⟩ := w.ask_address asks answer one
  obtain ⟨off, bound, there, held⟩ := w.ask_holds asks answer one inv
  have asked : FakednsQueries hash w (w.ask hash memory query buflen).2 :=
    .single (.query memory query buflen)
  obtain ⟨inv', grows⟩ := inv.queries (asked.trans between)
  obtain ⟨_, entry, holds, same, _⟩ := held.queries between within
  obtain ⟨net, rest⟩ := Prod.mk.inj grows.range
  obtain ⟨size, _⟩ := Prod.mk.inj (Prod.mk.inj rest).2
  have slot : x = w'.dns.address off := by
    rw [fwriteLe_inj (address.symm.trans there), Fakedns.address, Fakedns.address, net]
  rw [cStr_of_free clean.dotted_free] at same
  rw [slot, PoolInv.address_slot] at unwrapped
  refine fakednsProcessQuery_ptr hash w'.time memory' asks' ptr standard room asks.1 clean fits ?_
  rw [slot, fakednsReverseLookup_answer inv'.pool (inv'.cached 0) (size ▸ bound) holds unwrapped
    (same ▸ fits.2.2), same]

/-- The name of the address of `a`, asked for an hour later. -/
theorem fakedns_ptr_agrees_hour : ∃ w response,
    FakednsQueries sameHash (slash24World.ask sameHash true (dnsQuery [[65]] 1) 512).2 w ∧
      w.now = 3600 ∧
      (w.ask sameHash true (dnsQuery (ptrLabels (htonl 0x0A000000)) 12) 512).1 = some response ∧
      dnsAncount response = [0, 1] ∧
      response.drop ((qnameWire (ptrLabels (htonl 0x0A000000))).length + 16) =
        fakednsAnswer 12 (qnameWire (qnameLower [[65]])) := by
  have later : FakednsQueries sameHash (slash24World.ask sameHash true (dnsQuery [[65]] 1) 512).2
      { (slash24World.ask sameHash true (dnsQuery [[65]] 1) 512).2 with now := 3600 } :=
    .single (.tick 3600 (Nat.zero_le _))
  have asks : FakednsQuestion [[65]] 1 (dnsQuery [[65]] 1) := dnsQuery_question (by decide) 1
  have asks' : FakednsQuestion (ptrLabels (htonl 0x0A000000)) 12
      (dnsQuery (ptrLabels (htonl 0x0A000000)) 12) := dnsQuery_question (by decide +kernel) 12
  have answer : (slash24World.ask sameHash true (dnsQuery [[65]] 1) 512).1 = some _ := rfl
  obtain ⟨response, agrees⟩ := fakedns_ptr_agrees (x := htonl 0x0A000000) slash24_start .refl asks
    (by decide) answer (by decide) (by decide) later (by decide) (by decide) asks' (by decide +kernel)
    ⟨rfl, rfl⟩ (by decide +kernel)
  exact ⟨_, response, later, rfl, agrees⟩

section Wrap
variable {k : Nat}

theorem turn_labels (k : Nat) : QnameLabels [turn k] ∧ QnameClean [turn k] ∧ QnameFits [turn k] ∧
    qnameDotted [turn k] = turn k ∧ (qnameWire [turn k]).length = 3 := by
  unfold turn
  split
  · decide
  · split <;> decide

theorem dnsQuery_standard (labels : List (List UInt8)) (qtype : UInt8) :
    FakednsStandard (dnsQuery labels qtype) := ⟨rfl, rfl⟩

/-- A day later the next name is given the slot. -/
theorem Turned.ask (turned : Turned w k) : ∃ response,
    FakednsWorld.ask sameHash { w with now := w.now + 86401 } true (dnsQuery [turn (k + 1)] 1) 512 =
      (some response, nextTurn w k) ∧
      dnsAncount response = [0, 1] ∧ dnsAddress response = fwriteLe 4 (htonl 0x0A000000).toNat := by
  obtain ⟨sized, _, fits, dotted, wire⟩ := turn_labels (k + 1)
  have looked := turned.lookup true
  have length : (dnsQuery [turn (k + 1)] 1).length ≤ 512 := by
    simp only [dnsQuery, List.length_append, wire, List.length_cons, List.length_nil]
    decide
  rcases fakednsProcessQuery_question sameHash w.dns (w.mru 0) (BitVec.ofNat 32 (w.now + 86401)) true 512
    (dnsQuery_question sized 1) with ⟨_, dropped⟩ | ⟨_, question, respFlags, size, processed⟩
  · exact absurd ⟨length, dnsQuery_standard _ _, fits⟩ dropped
  have type : UInt8.toUInt16 1 = 1 := rfl
  have given : htonl 0x0A000000 ≠ 0 := by decide
  rw [dotted, fakednsProcessQuestion, type, if_neg (by omega), if_neg (not_not.mpr rfl), if_pos rfl,
    looked] at processed
  simp only [if_pos given] at processed
  rw [if_neg (by omega)] at processed
  have long : 12 ≤ question.length := by omega
  refine ⟨fakednsResponse question respFlags 1 (fakednsAnswer 1 (fwriteLe 4 (htonl 0x0A000000).toNat)),
    ?_, fakednsResponse_ancount long .., dnsAddress_answer ..⟩
  simp only [FakednsWorld.ask, FakednsWorld.time, processed, Function.update_eq_self]
  rfl

theorem Turned.queries (turned : Turned w k) : FakednsQueries sameHash w (nextTurn w k) := by
  obtain ⟨response, asked, _⟩ := turned.ask
  have day : FakednsQueryStep sameHash w { w with now := w.now + 86401 } := .tick _ (Nat.le_add_right ..)
  have query : FakednsQueryStep sameHash { w with now := w.now + 86401 } _ :=
    .query true (dnsQuery [turn (k + 1)] 1) 512
  rw [asked] at query
  exact .tail (.single day) query

theorem Turned.asked (k : Nat) : ∃ w, FakednsQueries sameHash slash24World w ∧ Turned w k := by
  induction k with
  | zero =>
    have asked : FakednsQueryStep sameHash slash24World _ := .query true (dnsQuery [[97]] 1) 512
    have resolved := Relation.ReflTransGen.tail (.single asked) (.reverse 0 (htonl 0x0A000000) 244)
    refine ⟨_, resolved, rfl, ⟨htonl 0x0A000000, ?_⟩, ?_⟩
    · rfl
    · rfl
  | succ k ih =>
    obtain ⟨w, run, turned⟩ := ih
    exact ⟨_, run.trans turned.queries, turned.later⟩

/-- After 2^32 overwrites of a slot, the name of the address that was just
given to `b` is answered with `a`. -/
theorem fakedns_ptr_wraps : ∃ w labels query x response query', FakednsQueries sameHash slash24World w ∧
    FakednsQuestion labels 1 query ∧ QnameClean labels ∧
    (w.ask sameHash true query 512).1 = some response ∧ dnsAncount response = [0, 1] ∧
    dnsAddress response = fwriteLe 4 x.toNat ∧ FakednsQuestion (ptrLabels x) 12 query' ∧
    FakednsStandard query' ∧ query'.length ≤ 512 ∧
    ¬ ∃ response', ((w.ask sameHash true query 512).2.ask sameHash true query' 512).1 = some response' ∧
      dnsAncount response' = [0, 1] ∧
      response'.drop ((qnameWire (ptrLabels x)).length + 16) =
        fakednsAnswer 12 (qnameWire (qnameLower labels)) := by
  obtain ⟨w, run, turned⟩ := Turned.asked (2 ^ 32 - 1)
  have day : FakednsQueryStep sameHash w { w with now := w.now + 86401 } := .tick _ (Nat.le_add_right ..)
  obtain ⟨response, asked, one, address⟩ := turned.ask
  obtain ⟨sized, clean, _⟩ := turn_labels (2 ^ 32 - 1 + 1)
  have asks : FakednsQuestion (ptrLabels (htonl 0x0A000000)) 12
      (dnsQuery (ptrLabels (htonl 0x0A000000)) 12) := dnsQuery_question (by decide +kernel) 12
  refine ⟨_, [turn (2 ^ 32 - 1 + 1)], _, htonl 0x0A000000, response, _, run.tail day,
    dnsQuery_question sized 1, clean, by rw [asked], one, address, asks, dnsQuery_standard _ _,
    by decide +kernel, ?_⟩
  rw [asked]
  rintro ⟨response', answer, _, named⟩
  have old : QnameLabels [[97]] ∧ QnameClean [[97]] ∧ QnameFits [[97]] := by decide +kernel
  obtain ⟨stale, answered, _, wrong⟩ := fakednsProcessQuery_ptr sameHash
    (nextTurn w (2 ^ 32 - 1)).time true asks (by decide +kernel) (dnsQuery_standard _ _)
    (by decide +kernel) old.1 old.2.1 old.2.2 turned.stale
  cases Option.some.inj (answer.symm.trans answered)
  have newest : turn (2 ^ 32 - 1 + 1) = [98] := by decide
  rw [wrong, newest] at named
  revert named
  decide +kernel

end Wrap

end Tproxy
