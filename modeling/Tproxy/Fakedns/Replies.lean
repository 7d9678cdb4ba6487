import Tproxy.Fakedns.Encoding

namespace Tproxy

variable {hash : List UInt8 → BitVec 64} {s : Fakedns} {m : FakednsMru} {now ip : BitVec 32}
  {labels : List (List UInt8)} {query question response rest domain : List UInt8}
  {qtype qclass respFlags : UInt16} {memory : Bool} {buflen : Nat}

/-- The domain is the name of an address that resolves to a domain which spells
the labels. -/
def FakednsResolves (s : Fakedns) (m : FakednsMru) (domain : List UInt8)
    (names : List (List UInt8)) : Prop :=
  ∃ ip ptrDomain, fakednsParsePtrName domain = some ip ∧
    (fakednsReverseLookup s m ip fakednsMaxDomainLen).1 = some ptrDomain ∧
    EncodesAs (cStr ptrDomain) names

/-- The replies to a question: the response code, and the type and the data of
the answer, if there is one. -/
inductive FakednsReply (hash : List UInt8 → BitVec 64) (s : Fakedns) (m : FakednsMru) (now : BitVec 32)
    (memory : Bool) (domain : List UInt8) (qtype qclass : UInt16) :
    UInt16 → Option (UInt8 × List UInt8) → Prop
  | refused : qclass ≠ 1 → FakednsReply hash s m now memory domain qtype qclass 5 none
  | address (fakeip : BitVec 32) : qclass = 1 → qtype = 1 →
      (fakednsLookupDomain hash s domain now memory).1 = fakeip → fakeip ≠ 0 →
      FakednsReply hash s m now memory domain qtype qclass 0 (some (1, fwriteLe 4 fakeip.toNat))
  | failed : qclass = 1 → qtype = 1 → (fakednsLookupDomain hash s domain now memory).1 = 0 →
      FakednsReply hash s m now memory domain qtype qclass 2 none
  | name (names : List (List UInt8)) : qclass = 1 → qtype = 12 → DnsName names →
      FakednsResolves s m domain names →
      FakednsReply hash s m now memory domain qtype qclass 0 (some (12, qnameWire names))
  | nodata : qclass = 1 → qtype ≠ 1 → (qtype = 12 → ∀ names, ¬FakednsResolves s m domain names) →
      FakednsReply hash s m now memory domain qtype qclass 0 none

/-- The message of a reply. -/
def fakednsReplyMessage (question : List UInt8) (respFlags : UInt16)
    (answer : Option (UInt8 × List UInt8)) : List UInt8 :=
  match answer with
  | none => fakednsResponse question respFlags 0 []
  | some (qtype, rdata) => fakednsResponse question respFlags 1 (fakednsAnswer qtype rdata)

section Reverse

theorem strncopy_length (buf : List UInt8) (n : Nat) : (strncopy buf n).length ≤ n := List.length_take_le ..

/-- A domain that is resolved fits the buffer for it. -/
theorem fakednsReverseLookup_short (resolved : (fakednsReverseLookup s m ip fakednsMaxDomainLen).1 =
    some domain) : domain.length < fakednsMaxDomainLen := by
  rw [fakednsMaxDomainLen, Nat.lt_succ_iff]
  unfold fakednsReverseLookup at resolved
  simp only at resolved
  split at resolved
  · cases resolved
  split at resolved
  · cases resolved
  split at resolved
  · cases resolved
  split at resolved
  · rename_i cached
    cases resolved
    unfold fakednsMruLookup at cached
    split at cached
    · cases cached
    · simp only at cached
      split at cached
      · cases cached
      · cases cached
        exact strncopy_length ..
  · unfold fakednsPoolLookup at resolved
    split at resolved
    · cases resolved
    · cases resolved
      exact Nat.le_trans (List.length_take_le' ..) (strncopy_length _ _)

/-- The data of the answer to a PTR question. -/
def fakednsPtrData (s : Fakedns) (m : FakednsMru) (domain : List UInt8) : Option (List UInt8) :=
  (fakednsParsePtrName domain).bind fun ip =>
    (fakednsReverseLookup s m ip fakednsMaxDomainLen).1.bind fun ptrDomain =>
      fakednsEncodeDnsName ptrDomain (fakednsMaxDomainLen + 2)

theorem fakednsPtrData_eq_some_iff {rdata : List UInt8} : fakednsPtrData s m domain = some rdata ↔
    ∃ names, FakednsResolves s m domain names ∧ DnsName names ∧ rdata = qnameWire names := by
  simp only [fakednsPtrData, Option.bind_eq_some_iff]
  constructor
  · rintro ⟨ip, parsed, ptrDomain, resolved, encoded⟩
    have short := fakednsReverseLookup_short resolved
    obtain ⟨names, encodes, rfl⟩ := (fakednsEncodeDnsName_eq_some_iff short).mp encoded
    exact ⟨names, ⟨ip, ptrDomain, parsed, resolved, encodes⟩, encodes.name short, rfl⟩
  · rintro ⟨names, ⟨ip, ptrDomain, parsed, resolved, encodes⟩, _, rfl⟩
    have encoded := (fakednsEncodeDnsName_eq_some_iff (fakednsReverseLookup_short resolved)).mpr
      ⟨names, encodes, rfl⟩
    exact ⟨ip, parsed, ptrDomain, resolved, encoded⟩

/-- Without data nothing resolves. -/
theorem fakednsPtrData_none (none_ : fakednsPtrData s m domain = none) (names : List (List UInt8)) :
    ¬FakednsResolves s m domain names := by
  intro resolves
  obtain ⟨ip, ptrDomain, parsed, resolved, encodes⟩ := id resolves
  have name := encodes.name (fakednsReverseLookup_short resolved)
  rw [fakednsPtrData_eq_some_iff.mpr ⟨names, resolves, name, rfl⟩] at none_
  cases none_

end Reverse

section Question

theorem fakednsReplyMessage_length (flags : UInt16) (answer : Option (UInt8 × List UInt8)) :
    (fakednsReplyMessage question flags answer).length =
      question.length + answer.elim 0 fun reply => 12 + reply.2.length := by
  cases answer with
  | none => simp only [fakednsReplyMessage, fakednsResponse, List.append_nil, List.length_set,
      Option.elim_none, Nat.add_zero]
  | some reply =>
    simp only [fakednsReplyMessage, fakednsResponse, fakednsAnswer, List.length_append,
      List.length_set, fwriteLe_length, List.length_cons, List.length_nil, Option.elim_some]

/-- A PTR question is answered with its data, if there is some and it fits. -/
theorem fakednsProcessQuestion_ptr (fits : ¬question.length > buflen) :
    (fakednsProcessQuestion hash s m now memory question respFlags domain 12 1 buflen).1 =
      match fakednsPtrData s m domain with
      | none => some (fakednsResponse question respFlags 0 [])
      | some rdata =>
        if question.length + 12 + rdata.length > buflen then none
        else some (fakednsResponse question respFlags 1 (fakednsAnswer 12 rdata)) := by
  have internet : ¬(1 : UInt16) ≠ 1 := not_not.mpr rfl
  have notA : ¬(12 : UInt16) = 1 := by decide
  rw [fakednsProcessQuestion, fakednsPtrData, if_neg fits, if_neg internet, if_neg notA, if_pos rfl]
  cases fakednsParsePtrName domain with
  | none => rfl
  | some ip =>
    simp only [Option.bind_some]
    cases fakednsReverseLookup s m ip fakednsMaxDomainLen with
    | mk resolved m' =>
      cases resolved with
      | none => rfl
      | some ptrDomain =>
        simp only [Option.bind_some]
        cases fakednsEncodeDnsName ptrDomain (fakednsMaxDomainLen + 2) with
        | none => rfl
        | some rdata =>
          simp only
          split <;> rfl

/-- The response to a question is the message of a reply, and fits the buffer. -/
theorem fakednsProcessQuestion_reply
    (answered : (fakednsProcessQuestion hash s m now memory question respFlags domain qtype qclass
      buflen).1 = some response) : ∃ rcode answer,
    FakednsReply hash s m now memory domain qtype qclass rcode answer ∧
      response = fakednsReplyMessage question (respFlags ||| rcode) answer ∧
      response.length ≤ buflen := by
  suffices ∃ rcode answer, FakednsReply hash s m now memory domain qtype qclass rcode answer ∧
      response = fakednsReplyMessage question (respFlags ||| rcode) answer ∧
      question.length + (answer.elim 0 fun reply => 12 + reply.2.length) ≤ buflen by
    obtain ⟨rcode, answer, reply, message, size⟩ := this
    refine ⟨rcode, answer, reply, message, ?_⟩
    rw [message, fakednsReplyMessage_length]
    exact size
  have same : respFlags ||| 0 = respFlags := UInt16.or_zero
  by_cases fits : question.length > buflen
  · rw [fakednsProcessQuestion, if_pos fits] at answered
    cases answered
  have small : question.length ≤ buflen := Nat.not_lt.mp fits
  by_cases other : qclass ≠ 1
  · rw [fakednsProcessQuestion, if_neg fits, if_pos other] at answered
    exact ⟨5, none, .refused other, (Option.some.inj answered).symm, small⟩
  obtain rfl := not_not.mp other
  by_cases isPtr : qtype = 12
  · subst isPtr
    rw [fakednsProcessQuestion_ptr fits] at answered
    cases data : fakednsPtrData s m domain with
    | none =>
      rw [data] at answered
      refine ⟨0, none, .nodata rfl (by decide) fun _ => fakednsPtrData_none data, ?_, small⟩
      rw [same]
      exact (Option.some.inj answered).symm
    | some rdata =>
      simp only [data, Option.ite_none_left_eq_some] at answered
      obtain ⟨space, message⟩ := answered
      obtain ⟨names, resolves, name, rfl⟩ := fakednsPtrData_eq_some_iff.mp data
      refine ⟨0, some (12, _), .name names rfl rfl name resolves, ?_, ?_⟩
      · rw [same]
        exact (Option.some.inj message).symm
      · simp only [Option.elim_some]
        omega
  by_cases isA : qtype = 1
  · subst isA
    simp only [fakednsProcessQuestion, if_neg fits, if_neg other, if_true] at answered
    by_cases zero : (fakednsLookupDomain hash s domain now memory).1 = 0
    · simp only [zero, ne_eq, not_true, if_false] at answered
      exact ⟨2, none, .failed rfl rfl zero, (Option.some.inj answered).symm, small⟩
    · simp only [zero, ne_eq, not_false_eq_true, if_true] at answered
      split at answered
      · cases answered
      · rename_i space
        refine ⟨0, some (1, _), .address _ rfl rfl rfl zero, ?_, ?_⟩
        · rw [same]
          exact (Option.some.inj answered).symm
        · simp only [Option.elim_some, fwriteLe_length]
          omega
  · rw [fakednsProcessQuestion, if_neg fits, if_neg other, if_neg isA, if_neg isPtr] at answered
    refine ⟨0, none, .nodata rfl isA fun ptr => absurd ptr isPtr, ?_, small⟩
    rw [same]
    exact (Option.some.inj answered).symm

end Question

end Tproxy
