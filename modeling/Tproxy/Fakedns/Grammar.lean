import Tproxy.Fakedns.PtrAnswers

namespace Tproxy

variable {hash : List UInt8 → BitVec 64} {s : Fakedns} {m : FakednsMru} {now : BitVec 32}
  {labels : List (List UInt8)} {query rest domain tail : List UInt8} {qtype qclass : UInt16}
  {memory : Bool} {buflen n : Nat}

/-- A 16-bit field of a message. -/
def be16 (high low : UInt8) : UInt16 := high.toUInt16 <<< 8 ||| low.toUInt16

/-- The flags of a message. -/
def dnsFlags : List UInt8 → UInt16
  | _ :: _ :: f₁ :: f₀ :: _ => be16 f₁ f₀
  | _ => 0

/-- A query that is answered: a standard header, a name that ends and whose
dotted form fits an entry, its type and class, and whatever follows. -/
structure FakednsAsks (query : List UInt8) (labels : List (List UInt8)) (qtype qclass : UInt16)
    (rest : List UInt8) : Prop where
  standard : FakednsStandard query
  nonempty : labels ≠ []
  sized : QnameLabels labels
  short : (qnameDotted labels).length ≤ 243
  bytes : ∃ header t₁ t₀ c₁ c₀, header.length = 12 ∧ be16 t₁ t₀ = qtype ∧ be16 c₁ c₀ = qclass ∧
    query = header ++ (qnameWire labels ++ (t₁ :: t₀ :: c₁ :: c₀ :: rest))

section Walk

/-- A walk that does not come to the end of the query has come to the end of a name. -/
theorem fakednsWalkQname_some {body : List UInt8} (walked : fakednsWalkQname n domain body = some (query, tail))
    (more : tail ≠ []) : ∃ labels, QnameLabels labels ∧ body = qnameWire labels ++ tail := by
  induction n generalizing domain body with
  | zero =>
    cases body with
    | nil =>
      cases walked
      exact absurd rfl more
    | cons => cases walked
  | succ n ih =>
    cases body with
    | nil =>
      cases walked
      exact absurd rfl more
    | cons len body =>
      rcases fakednsWalkQname_cons_some walked with ⟨rfl, same⟩ | ⟨positive, small, length, _, walked⟩
      · cases same
        exact ⟨[], fun label member => absurd member List.not_mem_nil, rfl⟩
      obtain ⟨labels, sized, wire⟩ := ih walked
      refine ⟨body.take len.toNat :: labels, ?_, ?_⟩
      · intro label member
        rcases List.mem_cons.mp member with rfl | later
        · rw [length]
          exact ⟨positive, small⟩
        · exact sized label later
      · rw [qnameWire_cons, length, UInt8.ofNat_toNat, List.cons_append, List.cons_append,
          List.append_assoc, ← wire, List.take_append_drop]

/-- So long a name has few labels. -/
theorem QnameLabels.length_le (sized : QnameLabels labels) : 2 * labels.length ≤ (qnameWire labels).length := by
  induction labels with
  | nil => exact Nat.zero_le _
  | cons label labels ih =>
    have first := (sized label List.mem_cons_self).1
    have ih := ih fun label member => sized label (List.mem_cons_of_mem _ member)
    rw [qnameWire_cons, List.length_append, List.length_cons, List.length_cons]
    omega

theorem FakednsAsks.wire (asks : FakednsAsks query labels qtype qclass rest) :
    (qnameWire labels).length = (qnameDotted labels).length + 2 := by
  have lower : qnameLower labels ≠ [] := by
    rw [qnameLower, ne_eq, List.map_eq_nil_iff]
    exact asks.nonempty
  rw [← qnameWire_lower_length, qnameWire_length lower]
  rfl

theorem FakednsAsks.fits (asks : FakednsAsks query labels qtype qclass rest) : QnameFits labels := by
  have many := asks.sized.length_le
  have short := asks.short
  rw [asks.wire] at many
  exact ⟨asks.nonempty, by omega, Nat.lt_succ_of_le short⟩

end Walk

section Query

/-- A query in the grammar is processed from its question on. -/
theorem FakednsAsks.processed (asks : FakednsAsks query labels qtype qclass rest)
    (room : query.length ≤ buflen) :
    fakednsProcessQuery hash s m now memory query buflen =
      fakednsProcessQuestion hash s m now memory (query.take (query.length - rest.length))
        (0x8180 ||| dnsFlags query &&& 0x0100) (qnameDotted labels) qtype qclass buflen := by
  obtain ⟨_, limits⟩ := asks.fits
  have walked (tail : List UInt8) := (fakednsWalkQname_wire asks.sized tail).trans (if_pos limits)
  obtain ⟨c, domain, dotted⟩ := List.exists_cons_of_ne_nil (asks.sized.dotted_ne_nil asks.nonempty)
  have standard := asks.standard
  obtain ⟨header, t₁, t₀, c₁, c₀, twelve, rfl, rfl, rfl⟩ := asks.bytes
  match header, twelve with
  | [_, _, f₁, f₀, q₁, q₀, _, _, _, _, _, _], _ =>
    obtain ⟨flags, qdcount⟩ := standard
    rw [dotted] at walked ⊢
    simp only [List.cons_append, List.nil_append, fakednsProcessQuery, walked] at room ⊢
    rw [if_neg (Nat.not_lt.mpr room), if_neg (by rw [not_or, not_not, not_not]; exact ⟨flags, qdcount⟩)]
    rfl

/-- Any other query is dropped. -/
theorem fakednsProcessQuery_dropped
    (other : ∀ labels qtype qclass rest, ¬FakednsAsks query labels qtype qclass rest) :
    fakednsProcessQuery hash s m now memory query buflen = (none, s, m) := by
  unfold fakednsProcessQuery
  split
  · rename_i i₁ i₀ f₁ f₀ q₁ q₀ a₁ a₀ n₁ n₀ r₁ r₀ body
    simp only
    split
    · rfl
    split
    · rfl
    rename_i standard
    rw [not_or, not_not, not_not] at standard
    split
    · rfl
    · rfl
    · rename_i domain t₁ t₀ c₁ c₀ rest named walked
      obtain ⟨labels, sized, rfl⟩ := fakednsWalkQname_some walked (List.cons_ne_nil _ _)
      rw [fakednsWalkQname_wire sized, Option.ite_none_right_eq_some] at walked
      obtain ⟨limits, same⟩ := walked
      cases same
      refine absurd ?_ (other labels (be16 t₁ t₀) (be16 c₁ c₀) rest)
      refine ⟨standard, ?_, sized, Nat.le_of_lt_succ limits.2,
        [i₁, i₀, f₁, f₀, q₁, q₀, a₁, a₀, n₁, n₀, r₁, r₀], t₁, t₀, c₁, c₀, rfl, rfl, rfl, rfl⟩
      rintro rfl
      exact named rfl
    · rfl
  · rfl

end Query

end Tproxy
