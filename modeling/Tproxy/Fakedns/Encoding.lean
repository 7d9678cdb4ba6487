import Tproxy.Fakedns.Grammar
import Tproxy.Lib.DnsMessage

namespace Tproxy

variable {label p rest out wire domain : List UInt8} {labels : List (List UInt8)} {outlen : Nat}

/-- The dotted form of the labels, or that with a dot behind it. -/
structure EncodesAs (domain : List UInt8) (labels : List (List UInt8)) : Prop where
  sized : QnameLabels labels
  dotless : ∀ label ∈ labels, 46 ∉ label
  spells : domain = [46].intercalate labels ∨ labels ≠ [] ∧ domain = [46].intercalate labels ++ [46]

section Labels

theorem EncodesAs.nil_iff : EncodesAs [] labels ↔ labels = [] := by
  constructor
  · rintro ⟨sized, _, spells⟩
    cases labels with
    | nil => rfl
    | cons label labels =>
      have first := List.length_pos_iff.mp (sized label List.mem_cons_self).1
      rcases spells with plain | ⟨_, dotted⟩
      · cases labels with
        | nil =>
          rw [List.intercalate_singleton] at plain
          exact absurd plain.symm first
        | cons next labels =>
          rw [List.intercalate_cons_cons, List.append_assoc] at plain
          exact absurd (List.append_eq_nil_iff.mp plain.symm).1 first
      · exact absurd (List.append_eq_nil_iff.mp dotted.symm).2 (List.cons_ne_nil _ _)
  · rintro rfl
    exact ⟨fun label member => absurd member List.not_mem_nil,
      fun label member => absurd member List.not_mem_nil, Or.inl rfl⟩

/-- What the first label of a spelled name is, and what is behind its dot. -/
theorem EncodesAs.first (encodes : EncodesAs p (label :: labels)) :
    p.takeWhile (· ≠ 46) = label ∧ EncodesAs (p.drop (label.length + 1)) labels := by
  obtain ⟨sized, dotless, spells⟩ := encodes
  have sized' : QnameLabels labels := fun label member => sized label (List.mem_cons_of_mem _ member)
  have dotless' : ∀ label ∈ labels, 46 ∉ label :=
    fun label member => dotless label (List.mem_cons_of_mem _ member)
  have all : ∀ c ∈ label, decide (c ≠ 46) = true := fun c member =>
    decide_eq_true fun dot => dotless label List.mem_cons_self (dot ▸ member)
  -- up to the first dot, if there is one
  have cut (behind : List UInt8) : (label ++ 46 :: behind).takeWhile (· ≠ 46) = label ∧
      (label ++ 46 :: behind).drop (label.length + 1) = behind := by
    rw [List.takeWhile_append_of_pos all, List.takeWhile_cons_of_neg (by decide), List.append_nil,
      ← List.drop_drop, List.drop_left]
    exact ⟨rfl, rfl⟩
  have dot (labels : List (List UInt8)) (more : labels ≠ []) :
      [46].intercalate (label :: labels) = label ++ 46 :: [46].intercalate labels := by
    rw [List.intercalate_cons_of_ne_nil more, List.append_assoc, List.singleton_append]
  by_cases last : labels = []
  · subst last
    rw [List.intercalate_singleton] at spells
    rcases spells with rfl | ⟨_, rfl⟩
    · rw [List.takeWhile_eq_self_iff.mpr all, List.drop_of_length_le (Nat.le_succ _)]
      exact ⟨rfl, nil_iff.mpr rfl⟩
    · rw [(cut []).1, (cut []).2]
      exact ⟨rfl, nil_iff.mpr rfl⟩
  · rw [dot labels last] at spells
    rcases spells with rfl | ⟨_, rfl⟩
    · rw [(cut _).1, (cut _).2]
      exact ⟨rfl, sized', dotless', Or.inl rfl⟩
    · rw [List.append_assoc, List.cons_append, (cut _).1, (cut _).2]
      exact ⟨rfl, sized', dotless', Or.inr ⟨last, rfl⟩⟩

theorem EncodesAs.cons (positive : 0 < (p.takeWhile (· ≠ 46)).length)
    (fits : (p.takeWhile (· ≠ 46)).length ≤ 63)
    (behind : EncodesAs (p.drop ((p.takeWhile (· ≠ 46)).length + 1)) labels) :
    EncodesAs p (p.takeWhile (· ≠ 46) :: labels) := by
  have dotless : 46 ∉ p.takeWhile (· ≠ 46) := fun member => by
    have other := List.mem_takeWhile_imp member
    simp only [ne_eq, not_true_eq_false, decide_false, Bool.false_eq_true] at other
  have whole : p.takeWhile (· ≠ 46) ++ p.dropWhile (· ≠ 46) = p := List.takeWhile_append_dropWhile
  generalize p.takeWhile (· ≠ 46) = label at *
  refine ⟨fun other member => ?_, fun other member => ?_, ?_⟩
  · rcases List.mem_cons.mp member with rfl | later
    · exact ⟨positive, fits⟩
    · exact behind.sized other later
  · rcases List.mem_cons.mp member with rfl | later
    · exact dotless
    · exact behind.dotless other later
  cases left : p.dropWhile (· ≠ 46) with
  | nil =>
    rw [left, List.append_nil] at whole
    subst whole
    rw [List.drop_of_length_le (Nat.le_succ _), EncodesAs.nil_iff] at behind
    rw [behind, List.intercalate_singleton]
    exact Or.inl rfl
  | cons c tail =>
    have dot : c = 46 := by
      have stops := List.head?_dropWhile_not (fun c : UInt8 => decide (c ≠ 46)) p
      rw [left] at stops
      simp only [List.head?_cons, ne_eq, decide_eq_false_iff_not, not_not] at stops
      exact stops
    rw [left, dot] at whole
    subst whole
    rw [← List.drop_drop, List.drop_left] at behind
    have behind : EncodesAs tail labels := behind
    rcases behind.spells with rfl | ⟨more, rfl⟩
    · by_cases last : labels = []
      · subst last
        rw [List.intercalate_singleton]
        exact Or.inr ⟨List.cons_ne_nil _ _, rfl⟩
      · rw [List.intercalate_cons_of_ne_nil last, List.append_assoc]
        exact Or.inl rfl
    · rw [List.intercalate_cons_of_ne_nil more, List.append_assoc, List.append_assoc]
      exact Or.inr ⟨List.cons_ne_nil _ _, rfl⟩

theorem EncodesAs.split (encodes : EncodesAs p labels) (more : p ≠ []) : ∃ others,
    labels = p.takeWhile (· ≠ 46) :: others ∧
      EncodesAs (p.drop ((p.takeWhile (· ≠ 46)).length + 1)) others := by
  cases labels with
  | nil =>
    rcases encodes.spells with empty | ⟨more, _⟩
    · exact absurd empty more
    · exact absurd rfl more
  | cons label labels =>
    obtain ⟨same, behind⟩ := encodes.first
    subst same
    exact ⟨labels, rfl, behind⟩

/-- A domain is encoded exactly as the labels that it spells, if these fit. -/
theorem fakednsEncodeLabels_eq_some_iff : fakednsEncodeLabels outlen p out = some wire ↔
    ∃ labels, EncodesAs p labels ∧ wire = out ++ qnameWire labels ∧ wire.length ≤ outlen := by
  fun_induction fakednsEncodeLabels outlen p out with
  | case1 out full =>
    refine ⟨fun none => (by cases none), ?_⟩
    rintro ⟨labels, encodes, rfl, short⟩
    rw [EncodesAs.nil_iff.mp encodes, List.length_append] at short
    exact absurd short (Nat.not_le.mpr full)
  | case2 out room =>
    constructor
    · intro same
      cases same
      refine ⟨[], EncodesAs.nil_iff.mpr rfl, rfl, ?_⟩
      rw [List.length_append]
      exact Nat.not_lt.mp room
    · rintro ⟨labels, encodes, rfl, _⟩
      rw [EncodesAs.nil_iff.mp encodes]
      rfl
  | case3 p out more label bad =>
    refine ⟨fun none => (by cases none), ?_⟩
    rintro ⟨labels, encodes, _⟩
    obtain ⟨others, rfl, _⟩ := encodes.split more
    have sized : 0 < label.length ∧ label.length ≤ 63 := encodes.sized _ List.mem_cons_self
    omega
  | case4 p out more label fits full =>
    refine ⟨fun none => (by cases none), ?_⟩
    rintro ⟨labels, encodes, rfl, short⟩
    obtain ⟨others, rfl, _⟩ := encodes.split more
    have root : 0 < (qnameWire others).length := by
      rw [qnameWire, List.length_append]
      exact Nat.succ_pos _
    have short : (out ++ qnameWire (label :: others)).length ≤ outlen := short
    rw [qnameWire_cons, List.length_append, List.length_append, List.length_cons] at short
    omega
  | case5 p out more label fits room ih =>
    have room : ∀ others, out ++ UInt8.ofNat label.length :: label ++ qnameWire others =
        out ++ qnameWire (label :: others) := fun others => by
      rw [qnameWire_cons, List.append_assoc]
    rw [ih]
    constructor
    · rintro ⟨others, behind, rfl, short⟩
      have positive : 0 < label.length := by omega
      have small : label.length ≤ 63 := by omega
      exact ⟨label :: others, behind.cons positive small, room others, short⟩
    · rintro ⟨labels, encodes, rfl, short⟩
      obtain ⟨others, rfl, behind⟩ := encodes.split more
      exact ⟨others, behind, (room others).symm, short⟩

end Labels

section Names

theorem EncodesAs.length (encodes : EncodesAs domain labels) :
    (qnameWire labels).length ≤ domain.length + 2 := by
  by_cases root : labels = []
  · subst root
    exact Nat.le_trans (Nat.le_succ 1) (Nat.le_add_left ..)
  · rw [qnameWire_length root]
    rcases encodes.spells with rfl | ⟨_, rfl⟩
    · exact Nat.le_refl _
    · rw [List.length_append]
      omega

/-- A domain of a size for an entry is encoded exactly as the labels that it spells. -/
theorem fakednsEncodeDnsName_eq_some_iff (short : domain.length < fakednsMaxDomainLen) :
    fakednsEncodeDnsName domain (fakednsMaxDomainLen + 2) = some wire ↔
      ∃ labels, EncodesAs (cStr domain) labels ∧ wire = qnameWire labels := by
  rw [fakednsEncodeDnsName, fakednsEncodeLabels_eq_some_iff]
  constructor
  · rintro ⟨labels, encodes, same, _⟩
    exact ⟨labels, encodes, same⟩
  · rintro ⟨labels, encodes, rfl⟩
    have fits := encodes.length
    have shorter := cStr_length_le domain
    exact ⟨labels, encodes, rfl, by omega⟩

theorem EncodesAs.name (encodes : EncodesAs (cStr domain) labels)
    (short : domain.length < fakednsMaxDomainLen) : DnsName labels := by
  have fits := encodes.length
  have shorter := cStr_length_le domain
  rw [fakednsMaxDomainLen] at short
  have wire : dnsNameBytes labels = qnameWire labels := rfl
  exact ⟨encodes.sized, by rw [wire]; omega⟩

end Names

end Tproxy
