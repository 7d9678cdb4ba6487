import Tproxy.Fakedns.Distinct
import Tproxy.Fakedns.Resolve

namespace Tproxy

variable {hash : List UInt8 → BitVec 64} {s : Fakedns} {m : FakednsMru} {w₀ w w' : FakednsWorld}
  {ip : BitVec 32} {entry : FakednsEntry} {labels : List (List UInt8)} {query response : List UInt8}
  {memory isIpv4 : Bool} {buflen nameSize : Nat} {dst : Skaddr}

theorem sinAddr_fwriteLe (x : BitVec 32) {addr : List UInt8} (same : addr.take 4 = fwriteLe 4 x.toNat) :
    sinAddr addr = x := by
  have whole : x.toNat % 256 ^ 4 = x.toNat := Nat.mod_eq_of_lt x.isLt
  rw [sinAddr, same, fwriteLe_value, whole, BitVec.ofNat_toNat, BitVec.setWidth_eq]

section Lookup

/-- Nothing is cached for a slot that was never used. -/
theorem fakednsMruLookup_unused (cached : ∀ i, Cached s (m.data i))
    (unused : s.stored (htonl ip - s.fakeipNetHost) = []) (bufLen : Nat) :
    fakednsMruLookup s m ip (htonl ip - s.fakeipNetHost) bufLen = (none, m) := by
  unfold fakednsMruLookup
  split
  · rfl
  · rename_i i found
    have item := List.find?_some found
    simp only [Bool.and_eq_true, decide_eq_true_eq] at item
    obtain ⟨valid, same⟩ := item
    obtain ⟨later, earlier, stored, _⟩ := cached _ valid
    rw [same, unused] at stored
    cases later <;> cases stored

/-- A lookup through the cache gives what a read of the slot gives. -/
theorem fakednsReverseLookup_read (inv : PoolInv s) (cached : ∀ i, Cached s (m.data i))
    (unwrapped : (s.stored (htonl ip - s.fakeipNetHost)).length ≤ 2 ^ 32) :
    (fakednsReverseLookup s m ip fakednsMaxDomainLen).1 = s.read ip fakednsMaxDomainLen := by
  have room : ¬ fakednsMaxDomainLen = 0 := by decide
  by_cases outside : htonl ip &&& s.fakeipMaskHost ≠ s.fakeipNetHost
  · simp only [fakednsReverseLookup, Fakedns.read, if_neg room, if_pos outside]
  by_cases beyond : htonl ip - s.fakeipNetHost ≥ s.poolSize
  · simp only [fakednsReverseLookup, Fakedns.read, if_neg room, if_neg outside, if_pos beyond]
  have ok := inv.slots (htonl ip - s.fakeipNetHost)
  cases holds : s.pool (htonl ip - s.fakeipNetHost) with
  | none =>
    rw [holds] at ok
    have ready : ∀ i, Cached s ((fakednsMruInit m).data i) := by
      unfold fakednsMruInit
      split <;> exact cached
    simp only [fakednsReverseLookup, Fakedns.read, if_neg room, if_neg outside, if_neg beyond,
      fakednsMruLookup_unused ready ok, fakednsPoolLookup, holds, Option.map_none]
  | some entry =>
    rw [holds] at ok
    have address : s.address (htonl ip - s.fakeipNetHost) = ip := by
      have sum : s.fakeipNetHost + (htonl ip - s.fakeipNetHost) = htonl ip := by bv_omega
      rw [Fakedns.address, sum, htonl_htonl]
    have prefixLength := (List.takeWhile_prefix (l := entry.domain) (· ≠ 0)).length_le
    have answer := fakednsReverseLookup_answer inv cached (BitVec.not_le.mp beyond) holds unwrapped
      (Nat.lt_of_le_of_lt prefixLength ok.1)
    rw [address] at answer
    rw [answer, Fakedns.read, if_neg outside, if_neg beyond, holds, Option.map_some, strncopy_entry ok]

/-- What resolving an address says: a real one is no miss, and a fake one is read
from its slot. -/
theorem fakednsTryResolve_read (ip : BitVec 32) (inv : PoolInv s) (cached : ∀ i, Cached s (m.data i))
    (unwrapped : (s.stored (htonl ip - s.fakeipNetHost)).length ≤ 2 ^ 32) :
    (fakednsTryResolve s m ip).1 =
      if fakednsIsFakeip s ip = false then (none, false)
      else (s.read ip fakednsMaxDomainLen, (s.read ip fakednsMaxDomainLen).isNone) := by
  have looked := fakednsReverseLookup_read inv cached unwrapped
  unfold fakednsTryResolve
  split
  · rfl
  · rw [← looked]
    cases fakednsReverseLookup s m ip fakednsMaxDomainLen with
    | mk domain m => cases domain <;> rfl

theorem Fakedns.read_length {name : List UInt8} (read : s.read ip fakednsMaxDomainLen = some name) :
    name.length < fakednsMaxDomainLen := by
  unfold Fakedns.read at read
  split at read
  · cases read
  split at read
  · cases read
  obtain ⟨entry, _, rfl⟩ := Option.map_eq_some_iff.mp read
  have short : (strncopy entry.domain (fakednsMaxDomainLen - 1)).length ≤ fakednsMaxDomainLen - 1 :=
    List.length_take_le ..
  exact Nat.lt_of_le_of_lt short (by decide)

end Lookup

section Proxies

/-- The family of a listener's addresses. -/
def listenerFamily (isIpv4 : Bool) : Nat := if isIpv4 then afInet else afInet6

/-- The TCP proxy connects to what the destination means. -/
theorem tcpProxyResolveTarget_eq (inv : PoolInv s) (cached : ∀ i, Cached s (m.data i))
    (roomy : fakednsMaxDomainLen ≤ nameSize + 1)
    (unwrapped : isIpv4 = true →
      (s.stored (htonl (sinAddr dst.addr) - s.fakeipNetHost)).length ≤ 2 ^ 32) :
    (tcpProxyResolveTarget true nameSize isIpv4 s m (some ⟨dst, listenerFamily isIpv4⟩)).1 =
      s.target isIpv4 dst := by
  cases isIpv4 with
  | false => rfl
  | true =>
    have resolved := fakednsTryResolve_read (sinAddr dst.addr) inv cached (unwrapped rfl)
    simp only [tcpProxyResolveTarget, tcpProxyFakeDomain, Bool.and_self, if_true, Fakedns.target,
      Bool.true_eq_false, if_false]
    cases tried : fakednsTryResolve s m (sinAddr dst.addr) with
    | mk answer m =>
      rw [tried] at resolved
      simp only at resolved
      subst resolved
      by_cases real : fakednsIsFakeip s (sinAddr dst.addr) = false
      · simp only [if_pos real, Bool.false_eq_true, if_false]
        rfl
      · simp only [if_neg real]
        cases read : s.read (sinAddr dst.addr) fakednsMaxDomainLen with
        | none => rfl
        | some name =>
          have size := s.read_length read
          have short : ¬ name.length > nameSize := by omega
          have whole := ss2022DomainName_of_lt (size.trans (by decide))
          simp only [Option.isNone_some, Bool.false_eq_true, if_false, List.length_eq_zero_iff,
            or_iff_left short, whole]
          split <;> rfl

/-- The UDP proxy forwards to what the destination means. -/
theorem udpIngressParse_eq (inv : PoolInv s) (cached : ∀ i, Cached s (m.data i))
    (roomy : fakednsMaxDomainLen ≤ nameSize + 1)
    (unwrapped : isIpv4 = true →
      (s.stored (htonl (sinAddr dst.addr) - s.fakeipNetHost)).length ≤ 2 ^ 32)
    (client : Skaddr) {payload : List UInt8}
    (small : payload.length ≤ udpDatagramMaxsiz - udpSs2022SealOverhead) :
    udpIngressParse true nameSize
        ⟨isIpv4, some client, some dst, (fakednsTryResolve s m (sinAddr dst.addr)).1, payload⟩ =
      (s.target isIpv4 dst).map fun target =>
        ⟨udpEndpointFromSkaddr client isIpv4, udpEndpointFromSkaddr dst isIpv4,
          isIpv4 && fakednsIsFakeip s (sinAddr dst.addr), target⟩ := by
  have fits : ¬ payload.length > udpDatagramMaxsiz - udpSs2022SealOverhead := Nat.not_lt.mpr small
  cases isIpv4 with
  | false =>
    simp only [udpIngressParse, udpIngressResolveFakedns, or_true, if_true, if_neg fits, Fakedns.target,
      Option.bind_eq_bind, Option.bind_some, udpIngressTarget, Bool.false_eq_true, if_false, Option.map_some,
      Option.isSome_none, Bool.false_and]
  | true =>
    have resolved := fakednsTryResolve_read (sinAddr dst.addr) inv cached (unwrapped rfl)
    have enabled : ¬ (true = false ∨ true = false) := by decide
    have four : ¬ true = false := by decide
    simp only [udpIngressParse, udpIngressResolveFakedns, if_neg enabled, if_neg fits, resolved,
      Fakedns.target, Option.bind_eq_bind, Option.bind_some, if_neg four, Bool.true_and]
    by_cases real : fakednsIsFakeip s (sinAddr dst.addr) = false
    · simp only [Bool.false_eq_true, if_false, Option.bind_some, udpIngressTarget, if_true,
        Option.map_some, Option.isSome_none, real]
    · simp only [if_neg real]
      cases read : s.read (sinAddr dst.addr) fakednsMaxDomainLen with
      | none => rfl
      | some name =>
        have size := s.read_length read
        have short : ¬ name.length > nameSize := by omega
        have whole := ss2022DomainName_of_lt (size.trans (by decide))
        simp only [Option.isNone_some, Bool.false_eq_true, if_false, Option.bind_some, udpIngressTarget,
          List.length_eq_zero_iff, or_iff_left short, Option.isSome_some, whole]
        split
        · rfl
        · simp only [Option.bind_some, Option.map_some, Bool.not_eq_false _ ▸ real]

/-- Both proxies send what is meant for a destination to its target. -/
structure ProxiesTo (w : FakednsWorld) (nameSize : Nat) (isIpv4 : Bool) (dst : Skaddr)
    (target : Option Ss2022Addr) : Prop where
  tcp : ∀ thread, (tcpProxyResolveTarget true nameSize isIpv4 w.dns (w.mru thread)
    (some ⟨dst, listenerFamily isIpv4⟩)).1 = target
  udp : ∀ thread client payload, payload.length ≤ udpDatagramMaxsiz - udpSs2022SealOverhead →
    udpIngressParse true nameSize ⟨isIpv4, some client, some dst,
        (fakednsTryResolve w.dns (w.mru thread) (sinAddr dst.addr)).1, payload⟩ =
      target.map fun target => ⟨udpEndpointFromSkaddr client isIpv4, udpEndpointFromSkaddr dst isIpv4,
        isIpv4 && fakednsIsFakeip w.dns (sinAddr dst.addr), target⟩

theorem WorldInv.proxies (inv : WorldInv w) (roomy : fakednsMaxDomainLen ≤ nameSize + 1)
    (unwrapped : isIpv4 = true →
      (w.dns.stored (htonl (sinAddr dst.addr) - w.dns.fakeipNetHost)).length ≤ 2 ^ 32) :
    ProxiesTo w nameSize isIpv4 dst (w.dns.target isIpv4 dst) where
  tcp thread := tcpProxyResolveTarget_eq inv.pool (inv.cached thread) roomy unwrapped
  udp thread client _ small := udpIngressParse_eq inv.pool (inv.cached thread) roomy unwrapped client small

/-- In every run both proxies send what is meant for an address to the address, if it
is not a fake one, and else to the name that its slot holds at that time, while fewer
than 2^32 overwrites were made in the slot. A fake address is no target itself: without
a name they drop what is sent to it. -/
theorem fakedns_targets_exact (start : FakednsStart w₀) (run : FakednsQueries hash w₀ w)
    (roomy : fakednsMaxDomainLen ≤ nameSize + 1) (isIpv4 : Bool) (dst : Skaddr)
    (unwrapped : isIpv4 = true →
      (w.dns.stored (htonl (sinAddr dst.addr) - w.dns.fakeipNetHost)).length ≤ 2 ^ 32) :
    ProxiesTo w nameSize isIpv4 dst (w.dns.target isIpv4 dst) :=
  (start.inv.queries run).1.proxies roomy unwrapped

/-- An hour after a name was given the first fake address, the second one is dropped. -/
theorem fakedns_targets_exact_unused : ∃ w, w.now = 3600 ∧
    FakednsQueries sameHash (slash24World.ask sameHash true (dnsQuery [[97]] 1) 512).2 w ∧
      ProxiesTo w 255 true ⟨80, [10, 0, 0, 1]⟩ none := by
  have later : FakednsQueries sameHash (slash24World.ask sameHash true (dnsQuery [[97]] 1) 512).2
      { (slash24World.ask sameHash true (dnsQuery [[97]] 1) 512).2 with now := 3600 } :=
    .single (.tick 3600 (Nat.zero_le _))
  have asked : FakednsQueries sameHash slash24World
      (slash24World.ask sameHash true (dnsQuery [[97]] 1) 512).2 := .single (.query true _ 512)
  exact ⟨_, rfl, later,
    fakedns_targets_exact slash24_start (asked.trans later) (by decide) true ⟨80, [10, 0, 0, 1]⟩
      fun _ => by decide⟩

end Proxies

section Names

/-- Within the time to live of an answer, what is sent to its address goes to the
name that was asked for, as the name and not as an address, through any thread
of either proxy, while fewer than 2^32 overwrites were made in its slot. -/
theorem fakedns_names_connections (start : FakednsStart w₀) (before : FakednsQueries hash w₀ w)
    (asks : FakednsQuestion labels 1 query) (free : ∀ label ∈ labels, 0 ∉ label)
    (answer : (w.ask hash memory query buflen).1 = some response)
    (one : dnsAncount response = [0, 1]) (sent : dst.addr.take 4 = dnsAddress response)
    (between : FakednsQueries hash (w.ask hash memory query buflen).2 w')
    (within : w'.now ≤ w.now + fakednsDnsTtl) (roomy : fakednsMaxDomainLen ≤ nameSize + 1)
    (unwrapped : (w'.dns.stored (htonl (sinAddr dst.addr) - w'.dns.fakeipNetHost)).length ≤ 2 ^ 32) :
    ProxiesTo w' nameSize true dst (some (.domain (swapPort dst.port) (qnameDotted labels))) := by
  obtain ⟨inv, _⟩ := start.inv.queries before
  obtain ⟨fits, _⟩ := w.ask_address asks answer one
  obtain ⟨off, bound, there, held⟩ := w.ask_holds asks answer one inv
  have asked : FakednsQueries hash w (w.ask hash memory query buflen).2 :=
    .single (.query memory query buflen)
  obtain ⟨inv', grows⟩ := inv.queries (asked.trans between)
  obtain ⟨_, entry, holds, same, _⟩ := held.queries between within
  obtain ⟨net, rest⟩ := Prod.mk.inj grows.range
  obtain ⟨size, _⟩ := Prod.mk.inj (Prod.mk.inj rest).2
  rw [cStr_of_free (qnameDotted_free free)] at same
  have address : sinAddr dst.addr = w'.dns.address off := by
    rw [sinAddr_fwriteLe (w.dns.address off) (sent.trans there), Fakedns.address, Fakedns.address, net]
  have inside : htonl (w'.dns.address off) &&& w'.dns.fakeipMaskHost = w'.dns.fakeipNetHost := by
    rw [Fakedns.address, htonl_htonl]
    exact inv'.pool.inside off (size ▸ bound)
  have fake : fakednsIsFakeip w'.dns (w'.dns.address off) = true := by
    simp only [fakednsIsFakeip, inside, decide_true, Bool.and_true, decide_eq_true_eq]
    exact inv'.pool.size
  have ok := inv'.pool.slots off
  rw [holds] at ok
  have nonempty : qnameDotted labels ≠ [] := asks.1.dotted_ne_nil fits.1
  have target : w'.dns.target true dst = some (.domain (swapPort dst.port) (qnameDotted labels)) := by
    rw [Fakedns.target, if_neg (by decide : ¬true = false), address, fake,
      if_neg (by decide : ¬true = false), Fakedns.read,
      if_neg (not_not.mpr inside), PoolInv.address_slot, if_neg (BitVec.not_le.mpr (size ▸ bound)), holds,
      Option.map_some, strncopy_entry ok, same]
    exact if_neg nonempty
  exact target ▸ inv'.proxies roomy fun _ => unwrapped

/-- An hour after the answer for `A` its address leads to `a`. -/
theorem fakedns_names_connections_hour : ∃ w, w.now = 3600 ∧
    FakednsQueries sameHash (slash24World.ask sameHash true (dnsQuery [[65]] 1) 512).2 w ∧
      ProxiesTo w 255 true ⟨0x5000, [10, 0, 0, 0]⟩ (some (.domain 80 [97])) := by
  have later : FakednsQueries sameHash (slash24World.ask sameHash true (dnsQuery [[65]] 1) 512).2
      { (slash24World.ask sameHash true (dnsQuery [[65]] 1) 512).2 with now := 3600 } :=
    .single (.tick 3600 (Nat.zero_le _))
  have asks : FakednsQuestion [[65]] 1 (dnsQuery [[65]] 1) := dnsQuery_question (by decide) 1
  have answer : (slash24World.ask sameHash true (dnsQuery [[65]] 1) 512).1 = some _ := rfl
  exact ⟨_, rfl, later, fakedns_names_connections slash24_start .refl asks (by decide) answer (by decide)
    (by decide) later (by decide) (by decide) (by decide)⟩

end Names

end Tproxy
