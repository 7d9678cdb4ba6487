import Tproxy.Fakedns.Queries

namespace Tproxy

/-- A header without QR and OPCODE, for one question. -/
def FakednsStandard : List UInt8 → Prop
  | _ :: _ :: f₁ :: f₀ :: q₁ :: q₀ :: _ =>
    (f₁.toUInt16 <<< 8 ||| f₀.toUInt16) &&& 0xF800 = 0 ∧ q₁.toUInt16 <<< 8 ||| q₀.toUInt16 = 1
  | _ => False

/-- The walk over the name of a question gives a domain. -/
def QnameFits (labels : List (List UInt8)) : Prop :=
  labels ≠ [] ∧ labels.length < 128 ∧ (qnameDotted labels).length < fakednsMaxDomainLen

instance (labels : List (List UInt8)) : Decidable (QnameFits labels) :=
  inferInstanceAs (Decidable (_ ∧ _ ∧ _))

variable {hash : List UInt8 → BitVec 64} {s : Fakedns} {m : FakednsMru} {now : BitVec 32}
  {w w' : FakednsWorld} {labels labels' : List (List UInt8)}
  {query question answer response response' : List UInt8} {memory : Bool} {buflen : Nat}

section Response

theorem fakednsResponse_ancount (long : 12 ≤ question.length) (respFlags : UInt16) (ancount : UInt8)
    (answer : List UInt8) :
    dnsAncount (fakednsResponse question respFlags ancount answer) = [0, ancount] := by
  match question, long with
  | _ :: _ :: _ :: _ :: _ :: _ :: _ :: _ :: _ :: _ :: _ :: _ :: _, _ => rfl

theorem fakednsResponse_drop (question : List UInt8) (respFlags : UInt16) (ancount : UInt8)
    (answer : List UInt8) :
    (fakednsResponse question respFlags ancount answer).drop question.length = answer := by
  refine List.drop_left' ?_
  simp only [List.length_set]

/-- An answer ends with its data. -/
theorem dnsAddress_answer (question : List UInt8) (respFlags : UInt16) (ancount : UInt8)
    (x : BitVec 32) :
    dnsAddress (fakednsResponse question respFlags ancount (fakednsAnswer 1 (fwriteLe 4 x.toNat))) =
      fwriteLe 4 x.toNat := by
  rw [fakednsAnswer, fakednsResponse, ← List.append_assoc, dnsAddress]
  refine List.drop_left' ?_
  simp only [List.length_append, fwriteLe_length, Nat.add_sub_cancel]

end Response

/-- The question of a query that is one is processed, or the query is dropped. -/
theorem fakednsProcessQuery_question (hash : List UInt8 → BitVec 64) (s : Fakedns) (m : FakednsMru)
    (now : BitVec 32) (memory : Bool) (buflen : Nat) {qtype : UInt8}
    (asks : FakednsQuestion labels qtype query) :
    fakednsProcessQuery hash s m now memory query buflen = (none, s, m) ∧
        ¬ (query.length ≤ buflen ∧ FakednsStandard query ∧ QnameFits labels) ∨
      QnameFits labels ∧ ∃ question respFlags, question.length = (qnameWire labels).length + 16 ∧
        fakednsProcessQuery hash s m now memory query buflen =
          fakednsProcessQuestion hash s m now memory question respFlags (qnameDotted labels)
            qtype.toUInt16 1 buflen := by
  obtain ⟨sized, header, rest, twelve, rfl⟩ := asks
  match header, twelve with
  | [_, _, f₁, f₀, q₁, q₀, _, _, _, _, _, _], _ =>
    simp only [List.cons_append, List.nil_append, fakednsProcessQuery]
    split
    · rename_i short
      exact .inl ⟨rfl, fun ⟨room, _⟩ => absurd room (Nat.not_le.mpr short)⟩
    split
    · rename_i other
      exact .inl ⟨rfl, fun ⟨_, ⟨flags, qdcount⟩, _⟩ => other.elim (· flags) (· qdcount)⟩
    rw [fakednsWalkQname_wire sized]
    by_cases fits : labels.length < 128 ∧ (qnameDotted labels).length < fakednsMaxDomainLen
    · rw [if_pos fits]
      cases dotted : qnameDotted labels with
      | nil =>
        exact .inl ⟨rfl, fun ⟨_, _, nonempty, _⟩ => sized.dotted_ne_nil nonempty dotted⟩
      | cons c domain =>
        have nonempty : labels ≠ [] := by
          rintro rfl
          cases dotted
        have type : UInt8.toUInt16 0 <<< 8 ||| qtype.toUInt16 = qtype.toUInt16 := UInt16.zero_or
        simp only [type]
        refine .inr ⟨⟨nonempty, dotted ▸ fits⟩, _, _, ?_, rfl⟩
        simp only [List.length_take, List.length_cons, List.length_append]
        omega
    · rw [if_neg fits]
      exact .inl ⟨rfl, fun ⟨_, _, _, limits⟩ => fits limits⟩

/-- A query for an A record that is answered with one: the address is that of
its name. -/
theorem fakednsProcessQuery_address (asks : FakednsQuestion labels 1 query)
    (answer : (fakednsProcessQuery hash s m now memory query buflen).1 = some response)
    (one : dnsAncount response = [0, 1]) :
    QnameFits labels ∧ ∃ x s', fakednsLookupDomain hash s (qnameDotted labels) now memory = (x, s') ∧
      x ≠ 0 ∧ dnsAddress response = fwriteLe 4 x.toNat ∧
      (fakednsProcessQuery hash s m now memory query buflen).2 = (s', m) := by
  rcases fakednsProcessQuery_question hash s m now memory buflen asks with
    ⟨dropped, _⟩ | ⟨fits, question, respFlags, length, processed⟩
  · rw [dropped] at answer
    cases answer
  have long : 12 ≤ question.length := by omega
  have empty (respFlags : UInt16) : response ≠ fakednsResponse question respFlags 0 [] := by
    rintro rfl
    rw [fakednsResponse_ancount long] at one
    cases one
  refine ⟨fits, _, _, rfl, ?_⟩
  rw [processed] at answer ⊢
  have type : UInt8.toUInt16 1 = 1 := rfl
  rw [fakednsProcessQuestion, type] at answer ⊢
  split at answer
  · cases answer
  rename_i room
  rw [if_neg (not_not.mpr rfl), if_pos rfl] at answer
  rw [if_neg room, if_neg (not_not.mpr rfl), if_pos rfl]
  simp only at answer ⊢
  split at answer
  · rename_i nonzero
    split at answer
    · cases answer
    · rename_i space
      rw [if_pos nonzero, if_neg space]
      exact ⟨nonzero, Option.some.inj answer ▸ dnsAddress_answer .., rfl⟩
  · exact absurd (Option.some.inj answer).symm (empty _)

theorem FakednsWorld.ask_address (asks : FakednsQuestion labels 1 query)
    (answer : (w.ask hash memory query buflen).1 = some response)
    (one : dnsAncount response = [0, 1]) :
    QnameFits labels ∧ ∃ x s',
      fakednsLookupDomain hash w.dns (qnameDotted labels) w.time memory = (x, s') ∧ x ≠ 0 ∧
      dnsAddress response = fwriteLe 4 x.toNat ∧
      (w.ask hash memory query buflen).2 = { w with dns := s' } := by
  obtain ⟨fits, x, s', lookup, nonzero, address, after⟩ := fakednsProcessQuery_address asks answer one
  refine ⟨fits, x, s', lookup, nonzero, address, ?_⟩
  have world : (w.ask hash memory query buflen).2 = { w with
      dns := (fakednsProcessQuery hash w.dns (w.mru 0) w.time memory query buflen).2.1
      mru := Function.update w.mru 0
        (fakednsProcessQuery hash w.dns (w.mru 0) w.time memory query buflen).2.2 } := rfl
  rw [world, after, Function.update_eq_self]

/-- An answer names a slot that holds the name for the time to live. -/
theorem FakednsWorld.ask_holds (asks : FakednsQuestion labels 1 query)
    (answer : (w.ask hash memory query buflen).1 = some response)
    (one : dnsAncount response = [0, 1]) (inv : WorldInv w) : ∃ off,
      off < w.dns.poolSize ∧ dnsAddress response = fwriteLe 4 (w.dns.address off).toNat ∧
      SlotHolds (cStr (qnameDotted labels)) off fakednsDnsTtl
        (w.ask hash memory query buflen).2.dns (w.ask hash memory query buflen).2.time := by
  obtain ⟨⟨_, _, fits⟩, x, s', lookup, nonzero, address, after⟩ := w.ask_address asks answer one
  have outcome := fakednsLookupDomain_outcome hash w.dns (qnameDotted labels) w.time memory
  have grows := (outcome.keeps inv.pool).2
  rw [lookup] at outcome grows
  obtain ⟨off, there, leased⟩ := outcome.leased fits nonzero fakednsDnsTtl (by decide)
  obtain ⟨net, rest⟩ := Prod.mk.inj grows.range
  obtain ⟨size, _⟩ := Prod.mk.inj (Prod.mk.inj rest).2
  have nonempty : s'.poolSize ≠ 0 := size ▸ inv.pool.size
  refine ⟨off, size ▸ leased.leads.lt nonempty, ?_, ?_⟩
  · have there : x = s'.address off := there
    rw [address, there, Fakedns.address, Fakedns.address, net]
  · rw [after]
    exact leased.holds

end Tproxy
