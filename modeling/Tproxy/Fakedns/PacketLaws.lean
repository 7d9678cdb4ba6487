import Tproxy.Fakedns.PacketRuns

namespace Tproxy

open Program

variable {hash : List UInt8 → BitVec 64} {s : Fakedns} {m : FakednsMru} {now : BitVec 32}
  {labels : List (List UInt8)} {query question response rest domain : List UInt8}
  {qtype qclass respFlags : UInt16} {memory : Bool} {buflen : Nat}

section Room

theorem fakednsEncodeDnsName_length {wire : List UInt8} {outlen : Nat}
    (encoded : fakednsEncodeDnsName domain outlen = some wire) : wire.length ≤ outlen := by
  obtain ⟨_, _, _, fits⟩ := fakednsEncodeLabels_eq_some_iff.mp encoded
  exact fits

/-- A buffer with room for every answer is never too small. -/
theorem fakednsProcessQuestion_answers (room : question.length + 16 ≤ buflen)
    (ptrRoom : ∀ ip, fakednsParsePtrName domain = some ip →
      question.length + 12 + (fakednsMaxDomainLen + 2) ≤ buflen) : ∃ response,
    (fakednsProcessQuestion hash s m now memory question respFlags domain qtype qclass buflen).1 =
      some response := by
  have fits : ¬question.length > buflen := by omega
  unfold fakednsProcessQuestion
  rw [if_neg fits]
  split
  · exact ⟨_, rfl⟩
  split
  · have space : ¬question.length + 16 > buflen := by omega
    simp only
    split <;> exact ⟨_, rfl⟩
  split
  · split
    · exact ⟨_, rfl⟩
    rename_i ip parsed
    have ptrRoom := ptrRoom ip parsed
    split
    · exact ⟨_, rfl⟩
    split
    · exact ⟨_, rfl⟩
    rename_i rdata encoded
    have short := fakednsEncodeDnsName_length encoded
    rw [if_neg (by omega)]
    exact ⟨_, rfl⟩
  · exact ⟨_, rfl⟩

theorem fakednsParsePtrName_length {ip : BitVec 32} (parsed : fakednsParsePtrName domain = some ip) :
    domain.length ≤ 28 := by
  unfold fakednsParsePtrName at parsed
  split at parsed
  · cases parsed
  · omega

/-- With the buffer of the server no query in the grammar is dropped. -/
theorem FakednsAsks.answered (asks : FakednsAsks query labels qtype qclass rest)
    (short : query.length ≤ 512) : ∃ response,
    (fakednsProcessQuery hash s m now memory query 512).1 = some response := by
  have wire := asks.wire
  have limit := asks.short
  have length : (query.take (query.length - rest.length)).length = (qnameDotted labels).length + 18 := by
    obtain ⟨header, t₁, t₀, c₁, c₀, twelve, _, _, rfl⟩ := asks.bytes
    simp only [List.length_take, List.length_append, List.length_cons]
    omega
  rw [asks.processed short]
  refine fakednsProcessQuestion_answers (by omega) fun ip parsed => ?_
  have name := fakednsParsePtrName_length parsed
  rw [length, fakednsMaxDomainLen]
  omega

theorem fakednsProcessQuery_nonempty
    (answered : (fakednsProcessQuery hash s m now memory query buflen).1 = some response) :
    response ≠ [] := by
  obtain ⟨labels, _, _, rest, _, _, asks, _, message, _⟩ := fakednsProcessQuery_reply answered
  obtain ⟨_, _, _, _, _, _, _, _, _, _, form⟩ := asks.form
  rw [message, fakednsReplyMessage_eq, form]
  exact List.cons_ne_nil _ _

end Room

/-- A program that yields has met no fault: no load lies outside the query, and
no store outside the buffer. It returns 0 exactly for what is not in the
grammar, and then leaves the pool as it was. -/
theorem fakedns_query_grammar (hash : List UInt8 → BitVec 64) (now : BitVec 32) (memory : Bool)
    (mem : FakednsMemory) (query buffer : Nat) {qlen : Nat} (short : qlen ≤ 512) :
    (fakednsProcessPacket query qlen buffer 512 hash now memory).Yields mem fun n mem' =>
      (n = 0 ↔ ¬∃ labels qtype qclass rest, FakednsAsks (mem.bytes query qlen) labels qtype qclass rest) ∧
      (n = 0 → mem'.dns = mem.dns) := by
  refine (fakednsProcessPacket_yields hash now memory mem query qlen buffer 512).mono fun n mem' agrees => ?_
  have returned := congrArg List.length agrees.bytes
  rw [mem'.bytes_length] at returned
  by_cases asked : ∃ labels qtype qclass rest, FakednsAsks (mem.bytes query qlen) labels qtype qclass rest
  · obtain ⟨_, _, _, _, asks⟩ := id asked
    have fits : (mem.bytes query qlen).length ≤ 512 := by rwa [mem.bytes_length]
    obtain ⟨response, answered⟩ : ∃ response,
        (fakednsProcessQuery hash mem.dns mem.mru now memory (mem.bytes query qlen) 512).1 = some response :=
      asks.answered fits
    have some_ : n ≠ 0 := by
      rw [returned, answered]
      exact fun zero => fakednsProcessQuery_nonempty answered (List.length_eq_zero_iff.mp zero)
    exact ⟨⟨fun zero => absurd zero some_, fun other => absurd asked other⟩, fun zero => absurd zero some_⟩
  · have dropped : fakednsProcessQuery hash mem.dns mem.mru now memory (mem.bytes query qlen) 512 = _ :=
      fakednsProcessQuery_dropped fun labels qtype qclass rest asks =>
        asked ⟨labels, qtype, qclass, rest, asks⟩
    have dns := agrees.dns
    rw [dropped] at returned dns
    exact ⟨⟨fun _ => asked, fun _ => returned⟩, fun _ => dns⟩

/-- A query that is processed in its own buffer is answered as with another
buffer, whatever is in the buffers behind it: with the same length, the same
bytes and the same pool. -/
theorem fakedns_in_place (hash : List UInt8 → BitVec 64) (now : BitVec 32) (memory : Bool)
    {mem mem' : FakednsMemory} {packet query qlen : Nat}
    (same : mem.bytes packet qlen = mem'.bytes query qlen) (dns : mem.dns = mem'.dns)
    (mru : mem.mru = mem'.mru) (buffer buflen : Nat) : ∃ n after after',
    fakednsProcessPacket packet qlen packet buflen hash now memory mem = .ok (n, after) ∧
      fakednsProcessPacket query qlen buffer buflen hash now memory mem' = .ok (n, after') ∧
      after.bytes packet n = after'.bytes buffer n ∧ after.dns = after'.dns ∧ after.mru = after'.mru := by
  obtain ⟨n, after, ends, agrees⟩ :=
    fakednsProcessPacket_yields hash now memory mem packet qlen packet buflen
  obtain ⟨n', after', ends', agrees'⟩ :=
    fakednsProcessPacket_yields hash now memory mem' query qlen buffer buflen
  rw [same, dns, mru] at agrees
  have length := congrArg List.length (agrees.bytes.trans agrees'.bytes.symm)
  rw [after.bytes_length, after'.bytes_length] at length
  subst length
  exact ⟨n, after, after', ends, ends', agrees.bytes.trans agrees'.bytes.symm,
    agrees.dns.trans agrees'.dns.symm, agrees.mru.trans agrees'.mru.symm⟩

section Cases

/-- The query for the address of `a` in every buffer, with some bytes behind it. -/
def packetOfA (left : UInt8) : FakednsMemory where
  packet _ i := (dnsQuery [[97]] 1).getD i left
  dns := slash24
  mru := fakednsMruZero

theorem fakedns_query_grammar_a :
    (fakednsProcessPacket 0 19 0 512 sameHash 0 true).Yields (packetOfA 255) fun n _ => n ≠ 0 := by
  refine (fakedns_query_grammar sameHash 0 true (packetOfA 255) 0 0 (by decide : 19 ≤ 512)).mono
    fun n _ ⟨dropped, _⟩ zero => dropped.mp zero ⟨[[97]], 1, 1, [], ?_⟩
  exact ⟨⟨by decide, by decide⟩, by decide, by decide, by decide, [0, 0, 1, 0, 0, 1, 0, 0, 0, 0, 0, 0],
    0, 1, 0, 1, rfl, by decide, by decide, by decide⟩

theorem fakedns_in_place_a : ∃ n after after',
    fakednsProcessPacket 0 19 0 512 sameHash 0 true (packetOfA 255) = .ok (n, after) ∧
      fakednsProcessPacket 0 19 1 512 sameHash 0 true (packetOfA 0) = .ok (n, after') ∧
      after.bytes 0 n = after'.bytes 1 n := by
  have same : (packetOfA 255).bytes 0 19 = (packetOfA 0).bytes 0 19 := by decide
  obtain ⟨n, after, after', ends, ends', bytes, _⟩ :=
    fakedns_in_place sameHash 0 true same rfl rfl 1 512
  exact ⟨n, after, after', ends, ends', bytes⟩

end Cases

end Tproxy
