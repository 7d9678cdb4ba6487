import Tproxy.Fakedns.Replies

namespace Tproxy

variable {hash : List UInt8 → BitVec 64} {s : Fakedns} {m : FakednsMru} {now : BitVec 32}
  {labels : List (List UInt8)} {query response rest answer : List UInt8}
  {qtype qclass flags : UInt16} {memory : Bool} {buflen : Nat} {n : UInt8}

/-- The answers of a response, of which there is at most one: the address that
was looked up, or the domain that an address resolved to. -/
structure FakednsAnswers (hash : List UInt8 → BitVec 64) (s : Fakedns) (m : FakednsMru)
    (now : BitVec 32) (memory : Bool) (labels : List (List UInt8)) (qtype qclass : UInt16)
    (answers : List DnsRecord) : Prop where
  one : answers.length ≤ 1
  given : answers ≠ [] ↔
    qclass = 1 ∧ qtype = 1 ∧ (fakednsLookupDomain hash s (qnameDotted labels) now memory).1 ≠ 0 ∨
      qclass = 1 ∧ qtype = 12 ∧ ∃ names, FakednsResolves s m (qnameDotted labels) names
  record : ∀ record ∈ answers, record.name = labels ∧ record.rtype = qtype.toNat ∧
    record.rclass = 1 ∧ record.ttl = fakednsDnsTtl ∧
    (qtype = 1 ∧ record.rdata =
        fwriteLe 4 (fakednsLookupDomain hash s (qnameDotted labels) now memory).1.toNat ∨
      qtype = 12 ∧ ∃ names, FakednsResolves s m (qnameDotted labels) names ∧ DnsName names ∧
        record.rdata = dnsNameBytes names)

section Fields

theorem be16_toNat (high low : UInt8) : (be16 high low).toNat = 256 * high.toNat + low.toNat := by
  have small := low.toNat_lt
  have small' := high.toNat_lt
  rw [be16, UInt16.toNat_or, UInt16.toNat_shiftLeft, UInt8.toNat_toUInt16, UInt8.toNat_toUInt16]
  have shift : high.toNat <<< (UInt16.toNat 8 % 16) % 2 ^ 16 = high.toNat <<< 8 := by
    have eight : UInt16.toNat 8 % 16 = 8 := rfl
    rw [eight, Nat.shiftLeft_eq, Nat.mod_eq_of_lt (by omega)]
  rw [shift, ← Nat.shiftLeft_add_eq_or_of_lt small, Nat.shiftLeft_eq, Nat.mul_comm]

theorem be16_one {high low : UInt8} (one : be16 high low = 1) : high = 0 ∧ low = 1 := by
  have value := be16_toNat high low
  have one_ : UInt16.toNat 1 = 1 := rfl
  rw [one, one_] at value
  exact ⟨UInt8.toNat_inj.mp (by rw [UInt8.toNat_zero]; omega), UInt8.toNat_inj.mp (by
    have one_ : UInt8.toNat 1 = 1 := rfl
    omega)⟩

/-- A field that is written as two bytes. -/
theorem be16_bytes (flags : UInt16) : be16 (flags >>> 8).toUInt8 flags.toUInt8 = flags := by
  refine UInt16.toNat_inj.mp ?_
  have small := flags.toNat_lt
  have eight : UInt16.toNat 8 % 16 = 8 := rfl
  rw [be16_toNat, UInt16.toNat_toUInt8, UInt16.toNat_toUInt8, UInt16.toNat_shiftRight, eight,
    Nat.shiftRight_eq_div_pow]
  omega

end Fields

section Response

/-- What a query in the grammar and a response to it have in common. -/
theorem FakednsAsks.form (asks : FakednsAsks query labels qtype qclass rest) :
    ∃ i₁ i₀ t₁ t₀ c₁ c₀, query.take 2 = [i₁, i₀] ∧ be16 t₁ t₀ = qtype ∧ be16 c₁ c₀ = qclass ∧
      query.drop 12 = qnameWire labels ++ (t₁ :: t₀ :: c₁ :: c₀ :: rest) ∧
      ∀ flags n answer, fakednsResponse (query.take (query.length - rest.length)) flags n answer =
        i₁ :: i₀ :: (flags >>> 8).toUInt8 :: flags.toUInt8 :: 0 :: 1 :: 0 :: n :: 0 :: 0 :: 0 :: 0 ::
          (qnameWire labels ++ (t₁ :: t₀ :: c₁ :: c₀ :: answer)) := by
  have standard := asks.standard
  obtain ⟨header, t₁, t₀, c₁, c₀, twelve, type, class_, rfl⟩ := asks.bytes
  match header, twelve with
  | [i₁, i₀, f₁, f₀, q₁, q₀, a₁, a₀, n₁, n₀, r₁, r₀], _ =>
    obtain ⟨rfl, rfl⟩ := be16_one standard.2
    refine ⟨i₁, i₀, t₁, t₀, c₁, c₀, rfl, type, class_, rfl, fun flags n answer => ?_⟩
    have question : [i₁, i₀, f₁, f₀, 0, 1, a₁, a₀, n₁, n₀, r₁, r₀] ++
        (qnameWire labels ++ (t₁ :: t₀ :: c₁ :: c₀ :: rest)) =
        (i₁ :: i₀ :: f₁ :: f₀ :: 0 :: 1 :: a₁ :: a₀ :: n₁ :: n₀ :: r₁ :: r₀ ::
          (qnameWire labels ++ [t₁, t₀, c₁, c₀])) ++ rest := by
      simp only [List.cons_append, List.nil_append, List.append_assoc]
    rw [question, List.take_left' (by rw [List.length_append, Nat.add_sub_cancel])]
    simp only [fakednsResponse, List.set_cons_zero, List.set_cons_succ, List.cons_append,
      List.append_assoc, List.nil_append]

/-- An answer is read as a record for the name of the question. -/
theorem dnsReadRecord_answer {message : List UInt8} {type : UInt8} {rdata body : List UInt8}
    (name : DnsName labels) (refers : message.drop 12 = dnsNameBytes labels ++ body)
    (longer : 12 < message.length - (fakednsAnswer type rdata).length) (short : rdata.length < 2 ^ 16) :
    dnsReadRecord message (fakednsAnswer type rdata) =
      some (⟨labels, type.toNat, 1, fakednsDnsTtl, rdata⟩, []) := by
  have ttl : fwriteLe 4 (htonl (BitVec.ofNat 32 fakednsDnsTtl)).toNat = [0, 0, 14, 16] := by decide
  have bytes : fakednsAnswer type rdata = 0xC0 :: 0x0C :: 0 :: type :: 0 :: 1 :: ([0, 0, 14, 16] ++
      (UInt8.ofNat (rdata.length / 256) :: UInt8.ofNat rdata.length :: (rdata ++ []))) := by
    rw [fakednsAnswer, ttl, List.append_nil]
    rfl
  rw [bytes] at longer ⊢
  rw [List.length_cons, List.length_cons] at longer
  have named : dnsReadName message (0xC0 :: 0x0C :: _) = some (labels, _) :=
    dnsReadName_pointer name (by decide) (Nat.add_lt_of_lt_sub longer) refers
  have zero : UInt8.toNat 0 = 0 := rfl
  refine (dnsReadRecord_data named rfl ?_).trans ?_
  · rw [UInt8.toNat_ofNat', UInt8.toNat_ofNat']
    omega
  · rw [zero, Nat.mul_zero, Nat.zero_add]
    rfl

theorem FakednsAsks.name (asks : FakednsAsks query labels qtype qclass rest) : DnsName labels := by
  have wire : dnsNameBytes labels = qnameWire labels := rfl
  have short := asks.short
  exact ⟨asks.sized, by rw [wire, asks.wire]; omega⟩

/-- A query that is answered is in the grammar, and is answered with a reply. -/
theorem fakednsProcessQuery_reply
    (answered : (fakednsProcessQuery hash s m now memory query buflen).1 = some response) :
    ∃ labels qtype qclass rest rcode answer, FakednsAsks query labels qtype qclass rest ∧
      FakednsReply hash s m now memory (qnameDotted labels) qtype qclass rcode answer ∧
      response = fakednsReplyMessage (query.take (query.length - rest.length))
        (0x8180 ||| dnsFlags query &&& 0x0100 ||| rcode) answer ∧ response.length ≤ buflen := by
  by_cases asked : ∃ labels qtype qclass rest, FakednsAsks query labels qtype qclass rest
  · obtain ⟨labels, qtype, qclass, rest, asks⟩ := asked
    have room : query.length ≤ buflen := by
      by_contra full
      unfold fakednsProcessQuery at answered
      split at answered
      · simp only [if_pos (Nat.not_le.mp full)] at answered
        cases answered
      · cases answered
    rw [asks.processed room] at answered
    obtain ⟨rcode, answer, reply, message, fits⟩ := fakednsProcessQuestion_reply answered
    exact ⟨labels, qtype, qclass, rest, rcode, answer, asks, reply, message, fits⟩
  · rw [fakednsProcessQuery_dropped fun labels qtype qclass rest asks =>
      asked ⟨labels, qtype, qclass, rest, asks⟩] at answered
    cases answered

/-- The data of an answer is short. -/
theorem FakednsReply.short {domain : List UInt8} {rcode : UInt16} {type : UInt8} {rdata : List UInt8}
    (reply : FakednsReply hash s m now memory domain qtype qclass rcode (some (type, rdata))) :
    rdata.length < 2 ^ 16 := by
  cases reply with
  | address fakeip _ _ _ _ =>
    rw [fwriteLe_length]
    decide
  | name names _ _ name _ =>
    have short : (qnameWire names).length ≤ 255 := name.short
    omega

end Response

section Message
variable {i₁ i₀ f₁ f₀ t₁ t₀ c₁ c₀ : UInt8}

/-- The records of a reply. -/
def fakednsReplyRecords (labels : List (List UInt8)) : Option (UInt8 × List UInt8) → List DnsRecord
  | none => []
  | some (type, rdata) => [⟨labels, type.toNat, 1, fakednsDnsTtl, rdata⟩]

/-- The count of the answers and the answer behind the question. -/
def fakednsReplyAnswer : Option (UInt8 × List UInt8) → UInt8 × List UInt8
  | none => (0, [])
  | some (type, rdata) => (1, fakednsAnswer type rdata)

theorem fakednsReplyMessage_eq (question : List UInt8) (flags : UInt16)
    (answer : Option (UInt8 × List UInt8)) :
    fakednsReplyMessage question flags answer =
      fakednsResponse question flags (fakednsReplyAnswer answer).1 (fakednsReplyAnswer answer).2 := by
  cases answer <;> rfl

/-- A header, a question and the answer of a reply are read as such. -/
theorem dnsRead_reply (name : DnsName labels) (answer : Option (UInt8 × List UInt8))
    (short : ∀ type rdata, answer = some (type, rdata) → rdata.length < 2 ^ 16) :
    dnsRead (i₁ :: i₀ :: f₁ :: f₀ :: 0 :: 1 :: 0 :: (fakednsReplyAnswer answer).1 :: 0 :: 0 :: 0 :: 0 ::
      (qnameWire labels ++ (t₁ :: t₀ :: c₁ :: c₀ :: (fakednsReplyAnswer answer).2))) =
      some ⟨256 * i₁.toNat + i₀.toNat, 256 * f₁.toNat + f₀.toNat,
        [⟨labels, (be16 t₁ t₀).toNat, (be16 c₁ c₀).toNat⟩], fakednsReplyRecords labels answer, [], []⟩ := by
  rw [be16_toNat, be16_toNat]
  refine dnsRead_answers (dnsReadQuestion_bytes name _ _) ?_
  cases answer with
  | none => rfl
  | some answer =>
    obtain ⟨type, rdata⟩ := answer
    have one : UInt8.toNat 1 = 0 + 1 := rfl
    have longer : 12 < (i₁ :: i₀ :: f₁ :: f₀ :: 0 :: 1 :: 0 :: 1 :: 0 :: 0 :: 0 :: 0 :: (qnameWire labels ++
        (t₁ :: t₀ :: c₁ :: c₀ :: fakednsAnswer type rdata))).length - (fakednsAnswer type rdata).length := by
      simp only [List.length_cons, List.length_append]
      omega
    have read := dnsReadRecord_answer name rfl longer (short type rdata rfl)
    simp only [fakednsReplyAnswer, one, dnsReadMany, read, Option.bind_eq_bind, Option.bind_some,
      fakednsReplyRecords]

theorem FakednsReply.answers {rcode : UInt16} {answer : Option (UInt8 × List UInt8)}
    (reply : FakednsReply hash s m now memory (qnameDotted labels) qtype qclass rcode answer) :
    FakednsAnswers hash s m now memory labels qtype qclass (fakednsReplyRecords labels answer) := by
  have empty (nothing : ¬(qclass = 1 ∧ qtype = 1 ∧
        (fakednsLookupDomain hash s (qnameDotted labels) now memory).1 ≠ 0 ∨
      qclass = 1 ∧ qtype = 12 ∧ ∃ names, FakednsResolves s m (qnameDotted labels) names)) :
      FakednsAnswers hash s m now memory labels qtype qclass [] :=
    ⟨Nat.zero_le 1, ⟨fun none => absurd rfl none, fun given => absurd given nothing⟩,
      fun record none => absurd none List.not_mem_nil⟩
  cases reply with
  | refused other =>
    refine empty ?_
    rintro (⟨internet, _⟩ | ⟨internet, _⟩)
    · exact other internet
    · exact other internet
  | address fakeip internet isA looked nonzero =>
    refine ⟨Nat.le_refl 1, ⟨fun _ => Or.inl ⟨internet, isA, looked ▸ nonzero⟩,
      fun _ => List.cons_ne_nil _ _⟩, fun record member => ?_⟩
    cases List.mem_singleton.mp member
    exact ⟨rfl, isA ▸ rfl, rfl, rfl, Or.inl ⟨isA, looked ▸ rfl⟩⟩
  | failed internet isA zero =>
    refine empty ?_
    rintro (⟨_, _, nonzero⟩ | ⟨_, isPtr, _⟩)
    · exact nonzero zero
    · rw [isA] at isPtr
      cases isPtr
  | name names internet isPtr name resolves =>
    refine ⟨Nat.le_refl 1, ⟨fun _ => Or.inr ⟨internet, isPtr, names, resolves⟩,
      fun _ => List.cons_ne_nil _ _⟩, fun record member => ?_⟩
    cases List.mem_singleton.mp member
    exact ⟨rfl, isPtr ▸ rfl, rfl, rfl, Or.inr ⟨isPtr, names, resolves, name, rfl⟩⟩
  | nodata internet otherType unresolved =>
    refine empty ?_
    rintro (⟨_, isA, _⟩ | ⟨_, isPtr, names, resolves⟩)
    · exact otherType isA
    · exact unresolved isPtr names resolves

end Message

/-- Every response is a message with the question of the query and the answers
to it, and nothing else. -/
theorem fakedns_response_message
    (answered : (fakednsProcessQuery hash s m now memory query buflen).1 = some response) :
    response.length ≤ buflen ∧ ∃ labels qtype qclass rest id flags answers,
      FakednsAsks query labels qtype qclass rest ∧
      dnsRead response = some ⟨id, flags, [⟨labels, qtype.toNat, qclass.toNat⟩], answers, [], []⟩ ∧
      (response.drop 12).take ((qnameWire labels).length + 4) =
        (query.drop 12).take ((qnameWire labels).length + 4) ∧
      (answers ≠ [] → (response.drop ((qnameWire labels).length + 16)).take 2 = [0xC0, 0x0C]) ∧
      FakednsAnswers hash s m now memory labels qtype qclass answers := by
  obtain ⟨labels, qtype, qclass, rest, rcode, answer, asks, reply, message, fits⟩ :=
    fakednsProcessQuery_reply answered
  obtain ⟨i₁, i₀, t₁, t₀, c₁, c₀, _, rfl, rfl, body, form⟩ := asks.form
  rw [fakednsReplyMessage_eq, form] at message
  have split (tail : List UInt8) : qnameWire labels ++ (t₁ :: t₀ :: c₁ :: c₀ :: tail) =
      (qnameWire labels ++ [t₁, t₀, c₁, c₀]) ++ tail := by
    rw [List.append_assoc]
    rfl
  have length : (qnameWire labels ++ [t₁, t₀, c₁, c₀]).length = (qnameWire labels).length + 4 :=
    List.length_append
  have behind : response.drop 12 = (qnameWire labels ++ [t₁, t₀, c₁, c₀]) ++ (fakednsReplyAnswer answer).2 := by
    rw [message]
    exact split _
  have read := (congrArg dnsRead message).trans
    (dnsRead_reply asks.name answer fun type rdata same => (same ▸ reply).short)
  refine ⟨fits, labels, _, _, rest, _, _, _, asks, read, ?_, ?_, reply.answers⟩
  · rw [behind, body, split rest, List.take_left' length, List.take_left' length]
  · intro some_
    have start : (qnameWire labels).length + 16 = 12 + ((qnameWire labels).length + 4) := by omega
    rw [start, ← List.drop_drop, behind, List.drop_left' length]
    cases answer with
    | none => exact absurd rfl some_
    | some answer => rfl

/-- The response to a query for the address of `a`. -/
theorem fakedns_response_message_a : ∃ response,
    (fakednsProcessQuery sameHash slash24 fakednsMruZero 0 true (dnsQuery [[97]] 1) 512).1 = some response ∧
      response.length ≤ 512 ∧ ∃ message, dnsRead response = some message := by
  have answered : (fakednsProcessQuery sameHash slash24 fakednsMruZero 0 true (dnsQuery [[97]] 1) 512).1 =
    some _ := rfl
  obtain ⟨fits, _, _, _, _, _, _, _, _, read, _⟩ := fakedns_response_message answered
  exact ⟨_, answered, fits, _, read⟩

end Tproxy
