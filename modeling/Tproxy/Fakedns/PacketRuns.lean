import Tproxy.Fakedns.PacketSteps

namespace Tproxy

open Program

variable {mem : FakednsMemory} {query buffer qlen buflen respLen n : Nat}
  {question domain rdata : List UInt8} {flags : UInt16} {qtype : UInt8}

/-- The memory and the returned length are as the response and the pool say. -/
structure FakednsAgrees (result : Option (List UInt8) × Fakedns × FakednsMru) (buffer n : Nat)
    (mem : FakednsMemory) : Prop where
  bytes : mem.bytes buffer n = result.1.getD []
  dns : mem.dns = result.2.1
  mru : mem.mru = result.2.2

section Response

theorem fakednsResponse_answer (long : 12 ≤ question.length) (answer : List UInt8) :
    (fakednsResponse question flags 0 [] ++ answer).set 7 1 = fakednsResponse question flags 1 answer := by
  match question, long with
  | _ :: _ :: _ :: _ :: _ :: _ :: _ :: _ :: _ :: _ :: _ :: _ :: body, _ =>
    simp only [fakednsResponse, List.set_cons_zero, List.set_cons_succ, List.cons_append,
      List.append_nil]

theorem fakednsResponse_flags (long : 12 ≤ question.length) (other : UInt16) :
    ((fakednsResponse question flags 0 []).set 2 (other >>> 8).toUInt8).set 3 other.toUInt8 =
      fakednsResponse question other 0 [] := by
  match question, long with
  | _ :: _ :: _ :: _ :: _ :: _ :: _ :: _ :: _ :: _ :: _ :: _ :: body, _ => rfl

end Response

section Stores

theorem fakednsStoreFlags_yields (room : 4 ≤ buflen) (flags : UInt16) :
    (fakednsStoreFlags buffer buflen flags).Yields mem fun _ mem' => FakednsStored buffer mem mem' ∧
      ∀ n, mem'.bytes buffer n =
        ((mem.bytes buffer n).set 2 (flags >>> 8).toUInt8).set 3 flags.toUInt8 := by
  rw [fakednsStoreFlags]
  refine (storeByte_yields (by omega)).bind fun _ mem₁ ⟨stored₁, set₁⟩ => ?_
  refine (storeByte_yields (by omega)).mono fun _ mem₂ ⟨stored₂, set₂⟩ => ⟨stored₁.trans stored₂, fun n => ?_⟩
  rw [set₂, set₁]

theorem fakednsCopyQuestion_yields (read : respLen ≤ qlen) (room : respLen ≤ buflen) :
    (fakednsCopyQuestion query qlen buffer buflen respLen).Yields mem fun _ mem' =>
      FakednsStored buffer mem mem' ∧ mem'.bytes buffer respLen = mem.bytes query respLen := by
  unfold fakednsCopyQuestion
  split
  · rename_i apart
    have copied : (copyBytes query qlen buffer buflen 0 respLen).Yields mem _ :=
      copyBytes_yields apart (by omega) (by omega) rfl
    rwa [Nat.zero_add] at copied
  · rename_i same
    rw [not_not] at same
    exact yields_pure ⟨.refl buffer mem, same ▸ rfl⟩

/-- The question is echoed in a response without answers. -/
theorem fakednsEcho_yields (read : respLen ≤ qlen) (room : respLen ≤ buflen) (long : 12 ≤ respLen)
    (flags : UInt16) :
    (fakednsEcho query qlen buffer buflen respLen flags).Yields mem fun _ mem' =>
      FakednsStored buffer mem mem' ∧
        mem'.bytes buffer respLen = fakednsResponse (mem.bytes query respLen) flags 0 [] := by
  rw [fakednsEcho]
  refine (fakednsCopyQuestion_yields read room).bind fun _ mem₁ ⟨stored₁, copied⟩ => ?_
  refine (fakednsStoreFlags_yields (by omega) flags).bind fun _ mem₂ ⟨stored₂, set₂⟩ => ?_
  refine (storeBytes_sets (by simp only [List.length_cons, List.length_nil]; omega)).mono
    fun _ mem₃ ⟨stored₃, set₃⟩ => ⟨(stored₁.trans stored₂).trans stored₃, ?_⟩
  rw [set₃, set₂, copied, fakednsResponse, List.append_nil]
  rfl

theorem fakednsStoreAnswer_yields (room : respLen + (fakednsAnswer qtype rdata).length ≤ buflen)
    (long : 12 ≤ respLen) :
    (fakednsStoreAnswer buffer buflen respLen qtype rdata).Yields mem fun n mem' =>
      FakednsStored buffer mem mem' ∧ n = respLen + (fakednsAnswer qtype rdata).length ∧
        mem'.bytes buffer n = (mem.bytes buffer respLen ++ fakednsAnswer qtype rdata).set 7 1 := by
  rw [fakednsStoreAnswer]
  refine (storeBytes_yields room).bind fun _ mem₁ ⟨stored₁, appended⟩ => ?_
  refine (storeByte_yields (by omega)).bind fun _ mem₂ ⟨stored₂, set₂⟩ => ?_
  refine yields_pure ⟨stored₁.trans stored₂, rfl, ?_⟩
  rw [set₂, appended]

end Stores

section Answer
variable {hash : List UInt8 → BitVec 64} {now : BitVec 32} {memory : Bool}

theorem FakednsAgrees.plain {mem mem' : FakednsMemory} {s : Fakedns} {m : FakednsMru}
    (stored : FakednsStored buffer mem mem') (dns : mem.dns = s) (mru : mem.mru = m)
    {response : List UInt8} (bytes : mem'.bytes buffer n = response) :
    FakednsAgrees (some response, s, m) buffer n mem' :=
  ⟨bytes, stored.dns.trans dns, stored.mru.trans mru⟩

theorem fakednsStoreAnswer_agrees (echoed : mem.bytes buffer respLen = fakednsResponse question flags 0 [])
    (size : question.length = respLen) (long : 12 ≤ respLen)
    (room : respLen + (fakednsAnswer qtype rdata).length ≤ buflen) :
    (fakednsStoreAnswer buffer buflen respLen qtype rdata).Yields mem fun n mem' =>
      FakednsAgrees (some (fakednsResponse question flags 1 (fakednsAnswer qtype rdata)), mem.dns, mem.mru)
        buffer n mem' := by
  refine (fakednsStoreAnswer_yields room long).mono fun n mem' ⟨stored, _, bytes⟩ => ?_
  refine .plain stored rfl rfl ?_
  rw [bytes, echoed, fakednsResponse_answer (by omega)]

theorem fakednsAnswer_length (qtype : UInt8) (rdata : List UInt8) :
    (fakednsAnswer qtype rdata).length = 12 + rdata.length := by
  simp only [fakednsAnswer, List.length_append, fwriteLe_length, List.length_cons, List.length_nil]

/-- Behind the echo of a question of class IN the answer is as over the bytes. -/
theorem fakednsAnswerPacket_yields (echoed : mem.bytes buffer respLen = fakednsResponse question flags 0 [])
    (size : question.length = respLen) (long : 12 ≤ respLen) (room : respLen ≤ buflen) (qtype : UInt16) :
    (fakednsAnswerPacket buffer buflen hash now memory respLen flags domain qtype).Yields mem
      fun n mem' => FakednsAgrees (fakednsProcessQuestion hash mem.dns mem.mru now memory question flags
        domain qtype 1 buflen) buffer n mem' := by
  have fits : ¬question.length > buflen := by omega
  have internet : ¬(1 : UInt16) ≠ 1 := not_not.mpr rfl
  rw [fakednsAnswerPacket, fakednsProcessQuestion, if_neg fits, if_neg internet, size]
  have plain (mem : FakednsMemory) (same : mem.bytes buffer respLen = fakednsResponse question flags 0 []) :
      FakednsAgrees (some (fakednsResponse question flags 0 []), mem.dns, mem.mru) buffer respLen mem :=
    ⟨same, rfl, rfl⟩
  by_cases isA : qtype = 1
  · simp only [if_pos isA]
    refine yields_get_bind ?_
    cases looked : fakednsLookupDomain hash mem.dns domain now memory with
    | mk fakeip dns =>
      refine yields_set_bind ?_
      have echoed : ({ mem with dns := dns } : FakednsMemory).bytes buffer respLen =
        fakednsResponse question flags 0 [] := echoed
      by_cases zero : fakeip ≠ 0
      · simp only [if_pos zero]
        by_cases full : respLen + 16 > buflen
        · simp only [if_pos full]
          exact yields_pure ⟨rfl, rfl, rfl⟩
        · simp only [if_neg full]
          exact fakednsStoreAnswer_agrees echoed size long
            (by rw [fakednsAnswer_length, fwriteLe_length]; omega)
      · simp only [if_neg zero]
        refine (fakednsStoreFlags_yields (by omega) _).bind fun _ mem₂ written => ?_
        obtain ⟨stored, bytes⟩ := written
        refine yields_pure (.plain stored rfl rfl ?_)
        rw [bytes, echoed, fakednsResponse_flags (by omega)]
  · simp only [if_neg isA]
    split
    · cases parsed : fakednsParsePtrName domain with
      | none => exact yields_pure (plain mem echoed)
      | some ptrIp =>
        simp only
        refine yields_get_bind (yields_set_bind ?_)
        cases found : fakednsReverseLookup mem.dns mem.mru ptrIp fakednsMaxDomainLen with
        | mk ptrDomain mru =>
          have echoed : ({ mem with mru := mru } : FakednsMemory).bytes buffer respLen =
            fakednsResponse question flags 0 [] := echoed
          cases ptrDomain with
          | none => exact yields_pure (plain { mem with mru := mru } echoed)
          | some ptrDomain =>
            simp only [Option.bind_some]
            cases fakednsEncodeDnsName ptrDomain (fakednsMaxDomainLen + 2) with
            | none => exact yields_pure (plain { mem with mru := mru } echoed)
            | some rdata =>
              by_cases full : respLen + 12 + rdata.length > buflen
              · simp only [if_pos full]
                exact yields_pure ⟨rfl, rfl, rfl⟩
              · simp only [if_neg full]
                exact fakednsStoreAnswer_agrees echoed size long (by rw [fakednsAnswer_length]; omega)
    · exact yields_pure (plain mem echoed)

end Answer

section Query
variable {hash : List UInt8 → BitVec 64} {now : BitVec 32} {memory : Bool} {s : Fakedns} {m : FakednsMru}
  {tail : List UInt8} {labels : Nat}

/-- The walk ends within the query, with a domain that fits an entry. -/
theorem fakednsWalkQname_inside {body start : List UInt8} (short : start.length < fakednsMaxDomainLen)
    (walked : fakednsWalkQname labels start body = some (domain, tail)) :
    domain.length < fakednsMaxDomainLen ∧ tail <:+ body := by
  induction labels generalizing start body with
  | zero =>
    cases body with
    | nil =>
      cases walked
      exact ⟨short, List.suffix_refl _⟩
    | cons => cases walked
  | succ labels ih =>
    cases body with
    | nil =>
      cases walked
      exact ⟨short, List.suffix_refl _⟩
    | cons len body =>
      rcases fakednsWalkQname_cons_some walked with ⟨_, same⟩ | ⟨_, _, _, fits, walked⟩
      · cases same
        exact ⟨short, List.suffix_cons ..⟩
      obtain ⟨domainShort, suffix⟩ := ih fits walked
      exact ⟨domainShort, suffix.trans ((List.drop_suffix _ _).trans (List.suffix_cons ..))⟩

theorem FakednsMemory.bytes_header (mem : FakednsMemory) (query : Nat) (long : 12 ≤ qlen) :
    mem.bytes query qlen = mem.packet query 0 :: mem.packet query 1 :: mem.packet query 2 ::
      mem.packet query 3 :: mem.packet query 4 :: mem.packet query 5 :: mem.packet query 6 ::
      mem.packet query 7 :: mem.packet query 8 :: mem.packet query 9 :: mem.packet query 10 ::
      mem.packet query 11 :: (mem.bytes query qlen).drop 12 := by
  have next (i : Nat) (inside : i < qlen) := mem.bytes_drop query inside
  rw [← next 11 (by omega), ← next 10 (by omega), ← next 9 (by omega), ← next 8 (by omega),
    ← next 7 (by omega), ← next 6 (by omega), ← next 5 (by omega), ← next 4 (by omega),
    ← next 3 (by omega), ← next 2 (by omega), ← next 1 (by omega), ← next 0 (by omega), List.drop_zero]

/-- A query with a header is dropped, or walked over from behind it. -/
theorem fakednsProcessQuery_walk {list body : List UInt8} {i₁ i₀ f₁ f₀ q₁ q₀ a₁ a₀ n₁ n₀ r₁ r₀ : UInt8}
    (form : list = i₁ :: i₀ :: f₁ :: f₀ :: q₁ :: q₀ :: a₁ :: a₀ :: n₁ :: n₀ :: r₁ :: r₀ :: body) :
    fakednsProcessQuery hash s m now memory list buflen =
      if buflen < list.length then (none, s, m)
      else if be16 f₁ f₀ &&& 0xF800 ≠ 0 ∨ be16 q₁ q₀ ≠ 1 then (none, s, m)
      else
        match fakednsWalkQname 128 [] body with
        | none => (none, s, m)
        | some ([], _) => (none, s, m)
        | some (domain, t₁ :: t₀ :: c₁ :: c₀ :: rest) =>
          fakednsProcessQuestion hash s m now memory (list.take (list.length - rest.length))
            (0x8180 ||| be16 f₁ f₀ &&& 0x0100) domain (be16 t₁ t₀) (be16 c₁ c₀) buflen
        | some (_, _) => (none, s, m) := by
  subst form
  rfl

theorem fakednsProcessQuery_short {list : List UInt8} (short : list.length < 12) :
    fakednsProcessQuery hash s m now memory list buflen = (none, s, m) := by
  unfold fakednsProcessQuery
  split
  · simp only [List.length_cons] at short
    omega
  · rfl

/-- The type and the class of a question, behind its name. -/
theorem FakednsMemory.bytes_fields (mem : FakednsMemory) (query : Nat) {start : Nat}
    (bound : start + 4 ≤ qlen) : (mem.bytes query qlen).drop start =
      mem.packet query start :: mem.packet query (start + 1) :: mem.packet query (start + 2) ::
        mem.packet query (start + 3) :: (mem.bytes query qlen).drop (start + 4) := by
  rw [mem.bytes_drop query (by omega), mem.bytes_drop query (by omega),
    mem.bytes_drop query (by omega), mem.bytes_drop query (by omega)]

/-- The question up to what follows its fields. -/
theorem FakednsMemory.bytes_question (mem : FakednsMemory) (query : Nat) {start : Nat}
    (bound : start + 4 ≤ qlen) :
    (mem.bytes query qlen).take (qlen - ((mem.bytes query qlen).drop (start + 4)).length) =
      mem.bytes query (start + 4) := by
  have size := mem.bytes_length query qlen
  rw [List.length_drop, size, mem.bytes_take query (by omega)]
  congr 1
  omega

/-- What the walk leaves is the end of the query behind the header. -/
theorem FakednsMemory.bytes_tail (mem : FakednsMemory) (query : Nat) (long : 12 ≤ qlen)
    (suffix : tail <:+ (mem.bytes query qlen).drop 12) :
    tail.length ≤ qlen - 12 ∧ tail = (mem.bytes query qlen).drop (qlen - tail.length) := by
  have size := mem.bytes_length query qlen
  have inside := suffix.length_le
  have rest := List.suffix_iff_eq_drop.mp suffix
  rw [List.length_drop, size] at inside
  have behind : 12 + (qlen - 12 - tail.length) = qlen - tail.length := by omega
  rw [List.length_drop, size, List.drop_drop, behind] at rest
  exact ⟨inside, rest⟩

/-- The echo of the question that ends at `start + 4`, and what is answered to it. -/
theorem fakednsReply_yields {start : Nat} (long : 12 ≤ start) (bound : start + 4 ≤ qlen)
    (room : qlen ≤ buflen) (hash : List UInt8 → BitVec 64) (now : BitVec 32) (memory : Bool)
    (respFlags qtype qclass : UInt16) :
    (if qclass ≠ 1 then do
        fakednsEcho query qlen buffer buflen (start + 4) (respFlags ||| 0x0005)
        pure (start + 4)
      else do
        fakednsEcho query qlen buffer buflen (start + 4) respFlags
        fakednsAnswerPacket buffer buflen hash now memory (start + 4) respFlags domain qtype :
      FakednsProgram Nat).Yields mem fun n mem' =>
        FakednsAgrees (fakednsProcessQuestion hash mem.dns mem.mru now memory
          (mem.bytes query (start + 4)) respFlags domain qtype qclass buflen) buffer n mem' := by
  have length := mem.bytes_length query (start + 4)
  by_cases other : qclass ≠ 1
  · rw [if_pos other, fakednsProcessQuestion, if_neg (by omega), if_pos other]
    refine (fakednsEcho_yields bound (by omega) (by omega) _).bind fun _ mem₂ echoed => ?_
    obtain ⟨stored, bytes⟩ := echoed
    exact yields_pure (.plain stored rfl rfl bytes)
  · rw [if_neg other, not_not.mp other]
    refine (fakednsEcho_yields bound (by omega) (by omega) _).bind fun _ mem₂ echoed => ?_
    obtain ⟨stored, bytes⟩ := echoed
    rw [← stored.dns, ← stored.mru]
    exact fakednsAnswerPacket_yields bytes length (by omega) (by omega) _

/-- The program over the memory answers as the function over the bytes. -/
theorem fakednsProcessPacket_yields (hash : List UInt8 → BitVec 64) (now : BitVec 32) (memory : Bool)
    (mem : FakednsMemory) (query qlen buffer buflen : Nat) :
    (fakednsProcessPacket query qlen buffer buflen hash now memory).Yields mem fun n mem' =>
      FakednsAgrees (fakednsProcessQuery hash mem.dns mem.mru now memory (mem.bytes query qlen) buflen)
        buffer n mem' := by
  have nothing : FakednsAgrees (none, mem.dns, mem.mru) buffer 0 mem := ⟨rfl, rfl, rfl⟩
  have size := mem.bytes_length query qlen
  unfold fakednsProcessPacket
  by_cases long : qlen < 12
  · rw [if_pos (Or.inl long), fakednsProcessQuery_short (size.symm ▸ long)]
    exact yields_pure nothing
  rw [fakednsProcessQuery_walk (mem.bytes_header query (Nat.not_lt.mp long)), size]
  by_cases room : buflen < qlen
  · rw [if_pos (Or.inr room), if_pos room]
    exact yields_pure nothing
  have enough : ¬(qlen < 12 ∨ buflen < qlen) := not_or.mpr ⟨long, room⟩
  rw [if_neg enough, if_neg room]
  refine loadByte_bind (by omega) (loadByte_bind (by omega) (loadByte_bind (by omega)
    (loadByte_bind (by omega) ?_)))
  have word (high low : UInt8) : high.toUInt16 <<< 8 ||| low.toUInt16 = be16 high low := rfl
  simp only [word]
  by_cases other : be16 (mem.packet query 2) (mem.packet query 3) &&& 0xF800 ≠ 0 ∨
    be16 (mem.packet query 4) (mem.packet query 5) ≠ 1
  · simp only [if_pos other]
    exact yields_pure nothing
  simp only [if_neg other]
  refine (fakednsWalkPacket_yields (Nat.not_lt.mp long) (by decide)).bind
    fun walked mem₁ finds => ?_
  obtain ⟨rfl, same⟩ := finds
  rw [FakednsWalked] at same
  cases found : fakednsWalkQname 128 [] ((mem₁.bytes query qlen).drop 12) with
  | none =>
    rw [found] at same
    subst same
    exact yields_pure nothing
  | some result =>
    obtain ⟨domain, tail⟩ := result
    rw [found] at same
    subst same
    obtain ⟨short, suffix⟩ := fakednsWalkQname_inside (by decide) found
    obtain ⟨inside, rest⟩ := mem₁.bytes_tail query (Nat.not_lt.mp long) suffix
    simp only [Option.map_some]
    by_cases empty : domain = []
    · subst empty
      exact yields_pure nothing
    rw [if_neg fun zero => empty (List.length_eq_zero_iff.mp zero)]
    refine pushDomain_bind short ?_
    obtain ⟨c, domain, rfl⟩ := List.exists_cons_of_ne_nil empty
    by_cases cut : tail.length < 4
    · rw [if_pos (by omega)]
      rcases tail with _ | ⟨_, _ | ⟨_, _ | ⟨_, _ | ⟨_, tail⟩⟩⟩⟩
      · exact yields_pure nothing
      · exact yields_pure nothing
      · exact yields_pure nothing
      · exact yields_pure nothing
      · simp only [List.length_cons] at cut
        omega
    rw [if_neg (by omega)]
    refine loadByte_bind (by omega) (loadByte_bind (by omega) (loadByte_bind (by omega)
      (loadByte_bind (by omega) ?_)))
    generalize place : qlen - tail.length = start at *
    have bound : start + 4 ≤ qlen := by omega
    rw [mem₁.bytes_fields query bound] at rest
    rw [rest]
    simp only [mem₁.bytes_question query bound]
    rw [if_neg (by omega)]
    exact fakednsReply_yields (by omega) bound (Nat.not_lt.mp room) hash now memory _ _ _

end Query

end Tproxy
