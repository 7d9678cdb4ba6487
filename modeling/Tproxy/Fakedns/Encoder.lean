import Tproxy.Fakedns.Encoding

namespace Tproxy

/-- The loop of `fakedns_encode_dns_name` with the bytes that it stores, each
with its place in `out`, and the value that it returns. -/
def fakednsEncodeStores (outlen : Nat) (p : List UInt8) (pos : Nat) : List (Nat × UInt8) × Nat :=
  if p = [] then if pos + 1 > outlen then ([], 0) else ([(pos, 0)], pos + 1)
  else
    let label := p.takeWhile (· ≠ 46)
    if label.length = 0 ∨ label.length > 63 then ([], 0)
    else if pos + 1 + label.length + 1 > outlen then ([], 0)
    else
      let behind := fakednsEncodeStores outlen (p.drop (label.length + 1)) (pos + 1 + label.length)
      (((UInt8.ofNat label.length :: label).zipIdx pos).map Prod.swap ++ behind.1, behind.2)
termination_by p.length
decreasing_by
  have some := List.length_pos_iff.mpr ‹¬p = []›
  simp only [List.length_drop]
  omega

/-- `fakedns_encode_dns_name` for the string in a buffer, as the stores it makes. -/
def fakednsEncodeDnsNameStores (domain : List UInt8) (outlen : Nat) : List (Nat × UInt8) × Nat :=
  fakednsEncodeStores outlen (cStr domain) 0

/-- A domain without the dot that may end it. -/
def dnsStem (domain : List UInt8) : List UInt8 :=
  if domain.getLast? = some 46 then domain.dropLast else domain

/-- The domain, up to one dot behind it, is a list of labels with single dots
between them. -/
def DnsLabelled (domain : List UInt8) : Prop := QnameLabels ((dnsStem domain).splitOn 46)

instance (domain : List UInt8) : Decidable (DnsLabelled domain) :=
  inferInstanceAs (Decidable (QnameLabels _))

variable {label p out wire domain : List UInt8} {labels : List (List UInt8)} {outlen pos : Nat}

/-- Whether the name fits or not, nothing is stored behind the buffer. -/
theorem fakednsEncodeStores_inside :
    ∀ store ∈ (fakednsEncodeStores outlen p pos).1, store.1 < outlen := by
  fun_induction fakednsEncodeStores outlen p pos with
  | case1 => simp
  | case2 pos room =>
    intro store stored
    rw [List.mem_singleton.mp stored]
    exact Nat.not_lt.mp room
  | case3 => simp
  | case4 => simp
  | case5 p pos more label sized room behind ih =>
    intro store stored
    rcases List.mem_append.mp stored with here | later
    · obtain ⟨⟨byte, place⟩, written, rfl⟩ := List.mem_map.mp here
      have last := List.snd_lt_add_of_mem_zipIdx written
      rw [List.length_cons] at last
      simp only [Prod.fst_swap]
      omega
    · exact ih store later

/-- The stores of an encoding that succeeds are its bytes from `pos` on. -/
theorem fakednsEncodeStores_eq (outlen : Nat) (p : List UInt8) (pos : Nat) :
    ∀ out : List UInt8, out.length = pos →
      match fakednsEncodeLabels outlen p out with
      | none => (fakednsEncodeStores outlen p pos).2 = 0
      | some wire => (fakednsEncodeStores outlen p pos).2 = wire.length ∧
          ∃ bytes, wire = out ++ bytes ∧
            (fakednsEncodeStores outlen p pos).1 = (bytes.zipIdx pos).map Prod.swap := by
  fun_induction fakednsEncodeStores outlen p pos with
  | case1 pos full =>
    intro out start
    rw [fakednsEncodeLabels, if_pos rfl, if_pos (by omega)]
  | case2 pos room =>
    intro out start
    rw [fakednsEncodeLabels, if_pos rfl, if_neg (by omega)]
    exact ⟨by rw [List.length_append, List.length_singleton, start], [0], rfl, rfl⟩
  | case3 p pos more label bad =>
    intro out start
    have refused : fakednsEncodeLabels outlen p out = none := by
      rw [fakednsEncodeLabels, if_neg more]
      exact if_pos bad
    rw [refused]
  | case4 p pos more label sized full =>
    intro out start
    have refused : fakednsEncodeLabels outlen p out = none := by
      rw [fakednsEncodeLabels, if_neg more]
      rw [← start] at full
      exact (if_neg sized).trans (if_pos full)
    rw [refused]
  | case5 p pos more label sized room behind ih =>
    intro out start
    have step : fakednsEncodeLabels outlen p out = fakednsEncodeLabels outlen
        (p.drop (label.length + 1)) (out ++ UInt8.ofNat label.length :: label) := by
      rw [fakednsEncodeLabels, if_neg more]
      rw [← start] at room
      exact (if_neg sized).trans (if_neg room)
    have next : (out ++ UInt8.ofNat label.length :: label).length = pos + 1 + label.length := by
      rw [List.length_append, List.length_cons, start]
      omega
    have after := ih _ next
    rw [step]
    cases encoded : fakednsEncodeLabels outlen (p.drop (label.length + 1))
        (out ++ UInt8.ofNat label.length :: label) with
    | none =>
      rw [encoded] at after
      exact after
    | some wire =>
      rw [encoded] at after
      obtain ⟨returned, bytes, whole, stores⟩ := after
      refine ⟨returned, UInt8.ofNat label.length :: label ++ bytes, by rw [whole, List.append_assoc], ?_⟩
      have place : pos + (UInt8.ofNat label.length :: label).length = pos + 1 + label.length := by
        rw [List.length_cons]
        omega
      rw [List.zipIdx_append, List.map_append, place]
      exact congrArg (((UInt8.ofNat label.length :: label).zipIdx pos).map Prod.swap ++ ·) stores

/-- No dot ends the dotted form of labels. -/
theorem dotted_last (sized : QnameLabels labels) (dotless : ∀ label ∈ labels, 46 ∉ label) :
    ([46].intercalate labels).getLast? ≠ some 46 := by
  induction labels with
  | nil => simp
  | cons label labels ih =>
    obtain ⟨_, rest⟩ := List.forall_mem_cons.mp sized
    obtain ⟨clean, others⟩ := List.forall_mem_cons.mp dotless
    by_cases last : labels = []
    · rw [last, List.intercalate_singleton]
      exact fun dot => clean (List.mem_of_getLast? dot)
    · have more : [46].intercalate labels ≠ [] := fun empty =>
        last (EncodesAs.nil_iff.mp (empty ▸ ⟨rest, others, Or.inl rfl⟩))
      rw [List.intercalate_cons_of_ne_nil last, List.getLast?_append_of_ne_nil _ more]
      exact ih rest others

theorem splitOn_dotless (domain : List UInt8) : ∀ label ∈ domain.splitOn 46, 46 ∉ label := by
  induction domain with
  | nil => simp
  | cons c rest ih =>
    rw [List.splitOn_cons_eq_if_modifyHead]
    split
    · exact List.forall_mem_cons.mpr ⟨List.not_mem_nil, ih⟩
    · rename_i other
      cases split : rest.splitOn 46 with
      | nil => exact absurd split (List.splitOn_ne_nil _ _)
      | cons first others =>
        rw [split] at ih
        obtain ⟨clean, later⟩ := List.forall_mem_cons.mp ih
        refine List.forall_mem_cons.mpr ⟨fun dot => ?_, later⟩
        rcases List.mem_cons.mp dot with here | there
        · exact other (beq_iff_eq.mpr here.symm)
        · exact clean there

/-- What the encoder takes apart is what splitting the domain at its dots gives. -/
theorem encodesAs_iff (nonempty : domain ≠ []) :
    EncodesAs domain labels ↔ DnsLabelled domain ∧ labels = (dnsStem domain).splitOn 46 := by
  constructor
  · intro encodes
    have more : labels ≠ [] := by
      rintro rfl
      rcases encodes.spells with empty | ⟨more, _⟩
      · exact nonempty empty
      · exact more rfl
    have last := dotted_last encodes.sized encodes.dotless
    have stem : dnsStem domain = [46].intercalate labels := by
      rcases encodes.spells with plain | ⟨_, dotted⟩
      · rw [dnsStem, plain, if_neg last]
      · rw [dnsStem, dotted, if_pos List.getLast?_concat, List.dropLast_concat]
    have split : (dnsStem domain).splitOn 46 = labels := by
      rw [stem, List.splitOn_intercalate 46 encodes.dotless more]
    exact ⟨by rw [DnsLabelled, split]; exact encodes.sized, split.symm⟩
  · rintro ⟨labelled, rfl⟩
    refine ⟨labelled, splitOn_dotless _, ?_⟩
    rw [List.intercalate_splitOn]
    by_cases dot : domain.getLast? = some 46
    · rw [dnsStem, if_pos dot]
      exact Or.inr ⟨List.splitOn_ne_nil _ _, (List.dropLast_append_getLast? 46 dot).symm⟩
    · rw [dnsStem, if_neg dot]
      exact Or.inl rfl

theorem qnameDotted_eq (labels : List (List UInt8)) :
    qnameDotted labels = ([46].intercalate labels).map asciiLower := by
  induction labels with
  | nil => rfl
  | cons label labels ih =>
    by_cases last : labels = []
    · rw [last, List.intercalate_singleton, qnameDotted, qnameLower, List.map_singleton,
        List.intercalate_singleton]
    · have more : qnameLower labels ≠ [] := fun none => last (List.map_eq_nil_iff.mp none)
      have dot : [46] = [46].map asciiLower := by decide +kernel
      rw [qnameDotted] at ih
      rw [qnameDotted, qnameLower, List.map_cons, ← qnameLower, List.intercalate_cons_of_ne_nil more,
        List.intercalate_cons_of_ne_nil last, List.map_append, List.map_append, ih, ← dot]

/-- The walk over the encoding of a domain ends behind it, with the domain in
lower case, unless that is too long for it. -/
theorem fakednsWalkQname_encoded (labelled : DnsLabelled domain) (tail : List UInt8) :
    fakednsWalkQname 128 [] (qnameWire ((dnsStem domain).splitOn 46) ++ tail) =
      if (dnsStem domain).length < fakednsMaxDomainLen then
        some ((dnsStem domain).map asciiLower, tail)
      else none := by
  have many := labelled.length_le
  have dotted : qnameDotted ((dnsStem domain).splitOn 46) = (dnsStem domain).map asciiLower := by
    rw [qnameDotted_eq, List.intercalate_splitOn]
  rw [qnameWire_length (List.splitOn_ne_nil _ _), List.intercalate_splitOn] at many
  rw [fakednsWalkQname_wire labelled, dotted, List.length_map]
  by_cases short : (dnsStem domain).length < fakednsMaxDomainLen
  · rw [if_pos short, if_pos ⟨by rw [fakednsMaxDomainLen] at short; omega, short⟩]
  · rw [if_neg short, if_neg fun both => short both.2]

/-- The encoder accepts exactly the domains of labels whose encoding fits, and
stores exactly the encoding, which the label walk of a query takes back. -/
theorem fakednsEncode_exact (domain : List UInt8) (outlen : Nat) (nonempty : domain ≠ [])
    (free : 0 ∉ domain) :
    ((fakednsEncodeDnsNameStores domain outlen).2 = 0 ↔
      ¬ DnsLabelled domain ∨ outlen < (dnsStem domain).length + 2) ∧
    (∀ store ∈ (fakednsEncodeDnsNameStores domain outlen).1, store.1 < outlen) ∧
    ((fakednsEncodeDnsNameStores domain outlen).2 ≠ 0 → ∃ wire : List UInt8,
      wire.length = (fakednsEncodeDnsNameStores domain outlen).2 ∧
      (fakednsEncodeDnsNameStores domain outlen).1 = wire.zipIdx.map Prod.swap ∧
      ∀ tail, fakednsWalkQname 128 [] (wire ++ tail) =
        if (dnsStem domain).length < fakednsMaxDomainLen then
          some ((dnsStem domain).map asciiLower, tail)
        else none) := by
  have stores := fakednsEncodeStores_eq outlen domain 0 [] rfl
  have accepts (wire : List UInt8) : fakednsEncodeLabels outlen domain [] = some wire ↔
      DnsLabelled domain ∧ wire = qnameWire ((dnsStem domain).splitOn 46) ∧ wire.length ≤ outlen := by
    rw [fakednsEncodeLabels_eq_some_iff]
    constructor
    · rintro ⟨labels, encodes, same, fits⟩
      obtain ⟨labelled, rfl⟩ := (encodesAs_iff nonempty).mp encodes
      exact ⟨labelled, same, fits⟩
    · rintro ⟨labelled, same, fits⟩
      exact ⟨_, (encodesAs_iff nonempty).mpr ⟨labelled, rfl⟩, same, fits⟩
  have length : (qnameWire ((dnsStem domain).splitOn 46)).length = (dnsStem domain).length + 2 := by
    rw [qnameWire_length (List.splitOn_ne_nil _ _), List.intercalate_splitOn]
  rw [fakednsEncodeDnsNameStores, cStr_of_free free]
  refine ⟨?_, fakednsEncodeStores_inside, ?_⟩
  · cases encoded : fakednsEncodeLabels outlen domain [] with
    | none =>
      rw [encoded] at stores
      refine iff_of_true stores ?_
      by_contra both
      obtain ⟨labelled, fits⟩ := not_or.mp both
      have accepted := (accepts _).mpr ⟨not_not.mp labelled, rfl, by omega⟩
      rw [encoded] at accepted
      cases accepted
    | some wire =>
      rw [encoded] at stores
      obtain ⟨labelled, rfl, fits⟩ := (accepts wire).mp encoded
      refine iff_of_false ?_ ?_
      · rw [stores.1, length]
        exact Nat.succ_ne_zero _
      · rintro (unlabelled | small)
        · exact unlabelled labelled
        · omega
  · intro returned
    cases encoded : fakednsEncodeLabels outlen domain [] with
    | none =>
      rw [encoded] at stores
      exact absurd stores returned
    | some wire =>
      rw [encoded] at stores
      obtain ⟨count, bytes, rfl, written⟩ := stores
      obtain ⟨labelled, same, _⟩ := (accepts _).mp encoded
      refine ⟨wire, count.symm, written, fun tail => ?_⟩
      rw [same]
      exact fakednsWalkQname_encoded labelled tail

/-- `A.bc.` in a buffer of six bytes. -/
theorem fakednsEncode_exact_dotted :
    (fakednsEncodeDnsNameStores [65, 46, 98, 99, 46] 6).2 = 6 ∧
      ∃ wire : List UInt8, wire.length = 6 ∧
        fakednsWalkQname 128 [] (wire ++ []) = some ([97, 46, 98, 99], []) := by
  have exact := fakednsEncode_exact [65, 46, 98, 99, 46] 6 (by decide) (by decide)
  have returned : (fakednsEncodeDnsNameStores [65, 46, 98, 99, 46] 6).2 = 6 := by decide +kernel
  obtain ⟨wire, count, _, walk⟩ := exact.2.2 (by rw [returned]; decide)
  exact ⟨returned, wire, count.trans returned, walk []⟩

end Tproxy
