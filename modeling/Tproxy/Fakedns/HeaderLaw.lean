import Tproxy.Fakedns.Responses

namespace Tproxy

variable {hash : List UInt8 → BitVec 64} {s : Fakedns} {m : FakednsMru} {now : BitVec 32}
  {labels : List (List UInt8)} {query response rest : List UInt8} {qtype qclass rcode : UInt16}
  {answer : Option (UInt8 × List UInt8)} {memory : Bool} {buflen : Nat}

/-- What the header of a response says. -/
structure FakednsHeaderLaw (hash : List UInt8 → BitVec 64) (s : Fakedns) (now : BitVec 32)
    (memory : Bool) (query response : List UInt8) : Prop where
  id : response.take 2 = query.take 2
  qr : dnsQr (dnsFlags response).toNat = true
  opcode : dnsOpcode (dnsFlags response).toNat = 0
  aa : dnsAa (dnsFlags response).toNat = false
  tc : dnsTc (dnsFlags response).toNat = false
  ra : dnsRa (dnsFlags response).toNat = true
  rd : dnsRd (dnsFlags response).toNat = dnsRd (dnsFlags query).toNat
  rcode : ∃ labels qtype qclass rest, FakednsAsks query labels qtype qclass rest ∧
    dnsRcode (dnsFlags response).toNat = if qclass ≠ 1 then 5
      else if qtype = 1 ∧ (fakednsLookupDomain hash s (qnameDotted labels) now memory).1 = 0 then 2
      else 0

/-- RD is set already in the constant that the query's RD is added to. -/
theorem fakednsRespFlags (flags : UInt16) : 0x8180 ||| flags &&& 0x0100 = (0x8180 : UInt16) := by
  have constant : (0x8180 : UInt16) = 0x8080 ||| 0x0100 := by decide
  have absorbed : (0x0100 : UInt16) ||| flags &&& 0x0100 = 0x0100 := by
    refine UInt16.toBitVec_inj.mp (BitVec.eq_of_getLsbD_eq fun i _ => ?_)
    simp only [UInt16.toBitVec_or, UInt16.toBitVec_and, BitVec.getLsbD_or, BitVec.getLsbD_and]
    cases BitVec.getLsbD (UInt16.toBitVec 0x0100) i <;> simp
  rw [constant, UInt16.or_assoc, absorbed]

theorem FakednsReply.rcode_eq {domain : List UInt8}
    (reply : FakednsReply hash s m now memory domain qtype qclass rcode answer) :
    (rcode = 0 ∨ rcode = 2 ∨ rcode = 5) ∧ rcode.toNat = if qclass ≠ 1 then 5
      else if qtype = 1 ∧ (fakednsLookupDomain hash s domain now memory).1 = 0 then 2 else 0 := by
  cases reply with
  | refused other => exact ⟨Or.inr (Or.inr rfl), (if_pos other).symm⟩
  | address fakeip internet isA looked nonzero =>
    rw [if_neg (not_not.mpr internet), if_neg fun both => nonzero (looked ▸ both.2)]
    exact ⟨Or.inl rfl, rfl⟩
  | failed internet isA zero =>
    rw [if_neg (not_not.mpr internet), if_pos ⟨isA, zero⟩]
    exact ⟨Or.inr (Or.inl rfl), rfl⟩
  | name names internet isPtr name resolves =>
    have otherType : qtype ≠ 1 := by
      rw [isPtr]
      decide
    rw [if_neg (not_not.mpr internet), if_neg fun both => otherType both.1]
    exact ⟨Or.inl rfl, rfl⟩
  | nodata internet otherType _ =>
    rw [if_neg (not_not.mpr internet), if_neg fun both => otherType both.1]
    exact ⟨Or.inl rfl, rfl⟩

/-- The header of a response says what it should exactly when the query has RD
set: the response always has. -/
theorem fakedns_header_law
    (answered : (fakednsProcessQuery hash s m now memory query buflen).1 = some response) :
    FakednsHeaderLaw hash s now memory query response ↔ dnsRd (dnsFlags query).toNat = true := by
  obtain ⟨labels, qtype, qclass, rest, rcode, answer, asks, reply, message, _⟩ :=
    fakednsProcessQuery_reply answered
  obtain ⟨i₁, i₀, _, _, _, _, ids, _, _, _, form⟩ := asks.form
  obtain ⟨codes, value⟩ := reply.rcode_eq
  rw [fakednsReplyMessage_eq, form, fakednsRespFlags] at message
  have flags : dnsFlags response = 0x8180 ||| rcode := by
    rw [message]
    exact be16_bytes _
  have id : response.take 2 = query.take 2 := by
    rw [message, ids]
    rfl
  have bits : dnsQr (dnsFlags response).toNat = true ∧ dnsOpcode (dnsFlags response).toNat = 0 ∧
      dnsAa (dnsFlags response).toNat = false ∧ dnsTc (dnsFlags response).toNat = false ∧
      dnsRa (dnsFlags response).toNat = true ∧ dnsRd (dnsFlags response).toNat = true ∧
      dnsRcode (dnsFlags response).toNat = rcode.toNat := by
    rw [flags]
    rcases codes with rfl | rfl | rfl <;> decide
  obtain ⟨qr, opcode, aa, tc, ra, rd, code⟩ := bits
  constructor
  · intro law
    exact law.rd ▸ rd
  · intro desired
    exact ⟨id, qr, opcode, aa, tc, ra, rd.trans desired.symm,
      labels, qtype, qclass, rest, asks, code.trans value⟩

/-- A query with RD, as clients send it. -/
theorem fakedns_header_law_rd : ∃ response,
    (fakednsProcessQuery sameHash slash24 fakednsMruZero 0 true (dnsQuery [[97]] 1) 512).1 =
      some response ∧ FakednsHeaderLaw sameHash slash24 0 true (dnsQuery [[97]] 1) response := by
  have answered : (fakednsProcessQuery sameHash slash24 fakednsMruZero 0 true (dnsQuery [[97]] 1) 512).1 =
    some _ := rfl
  exact ⟨_, answered, (fakedns_header_law answered).mpr (by decide)⟩

/-- `dnsQuery` without RD. -/
def plainQuery : List UInt8 := (dnsQuery [[97]] 1).set 2 0

/-- A query without RD is answered with RD. -/
theorem fakedns_header_no_rd : ∃ response,
    (fakednsProcessQuery sameHash slash24 fakednsMruZero 0 true plainQuery 512).1 = some response ∧
    dnsRd (dnsFlags plainQuery).toNat = false ∧ dnsRd (dnsFlags response).toNat = true ∧
    ¬FakednsHeaderLaw sameHash slash24 0 true plainQuery response := by
  have answered : (fakednsProcessQuery sameHash slash24 fakednsMruZero 0 true plainQuery 512).1 =
    some _ := rfl
  refine ⟨_, answered, by decide, by decide, fun law => ?_⟩
  exact absurd law.rd (by decide)

end Tproxy
