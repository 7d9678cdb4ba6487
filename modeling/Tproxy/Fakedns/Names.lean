import Tproxy.Fakedns.Query
import Tproxy.Lib.DnsMessage

namespace Tproxy

/-- A name in wire form. -/
def qnameWire (labels : List (List UInt8)) : List UInt8 :=
  labels.flatMap (fun label => UInt8.ofNat label.length :: label) ++ [0]

def QnameLabels (labels : List (List UInt8)) : Prop :=
  ∀ label ∈ labels, 0 < label.length ∧ label.length ≤ 63

/-- Labels without the bytes that end a string or a label of a dotted name. -/
def QnameClean (labels : List (List UInt8)) : Prop := ∀ label ∈ labels, 0 ∉ label ∧ 46 ∉ label

/-- ASCII letters of the labels in lower case. -/
def qnameLower (labels : List (List UInt8)) : List (List UInt8) := labels.map (List.map asciiLower)

def qnameDotted (labels : List (List UInt8)) : List UInt8 := [46].intercalate (qnameLower labels)

instance (labels : List (List UInt8)) : Decidable (QnameLabels labels) :=
  inferInstanceAs (Decidable (∀ label ∈ labels, _))

instance (labels : List (List UInt8)) : Decidable (QnameClean labels) :=
  inferInstanceAs (Decidable (∀ label ∈ labels, _))

variable {labels : List (List UInt8)} {domain label tail : List UInt8} {c : UInt8}

theorem qnameWire_cons (label : List UInt8) (labels : List (List UInt8)) :
    qnameWire (label :: labels) = UInt8.ofNat label.length :: label ++ qnameWire labels := by
  simp only [qnameWire, List.flatMap_cons, List.append_assoc]

theorem intercalate_free {c : UInt8} (apart : c ≠ 46) (free : ∀ label ∈ labels, c ∉ label) :
    c ∉ [46].intercalate labels := by
  induction labels with
  | nil => exact List.not_mem_nil
  | cons label rest ih =>
    have ih := ih fun label member => free label (List.mem_cons_of_mem _ member)
    by_cases last : rest = []
    · rw [last, List.intercalate_singleton]
      exact free label List.mem_cons_self
    · rw [List.intercalate_cons_of_ne_nil last, List.mem_append, List.mem_append, not_or, not_or]
      exact ⟨⟨free label List.mem_cons_self, fun dot => apart (List.mem_singleton.mp dot)⟩, ih⟩

section Lower

theorem asciiLower_eq_of_small {d : UInt8} (small : d < 65) : asciiLower c = d ↔ c = d := by
  have upper : ∀ n < 256, 65 ≤ n → n ≤ 90 → n ||| 32 ≥ 65 := by decide +kernel
  unfold asciiLower
  split
  · rename_i letter
    obtain ⟨low, high⟩ := letter
    have raised := upper c.toNat c.toNat_lt (UInt8.le_iff_toNat_le.mp low) (UInt8.le_iff_toNat_le.mp high)
    rw [UInt8.lt_iff_toNat_lt] at small
    rw [UInt8.le_iff_toNat_le] at low
    simp only [UInt8.reduceToNat] at small low
    constructor
    · intro same
      rw [← same, UInt8.toNat_or] at small
      simp only [UInt8.reduceToNat] at small
      omega
    · intro same
      rw [same] at low
      omega
  · exact Iff.rfl

theorem not_mem_lower {d : UInt8} (small : d < 65) : d ∉ label.map asciiLower ↔ d ∉ label := by
  simp only [List.mem_map, asciiLower_eq_of_small small, exists_eq_right]

theorem QnameLabels.lower (sized : QnameLabels labels) : QnameLabels (qnameLower labels) := by
  intro lowered member
  obtain ⟨label, origin, rfl⟩ := List.mem_map.mp member
  rw [List.length_map]
  exact sized label origin

theorem QnameClean.lower (clean : QnameClean labels) : QnameClean (qnameLower labels) := by
  intro lowered member
  obtain ⟨label, origin, rfl⟩ := List.mem_map.mp member
  exact ⟨(not_mem_lower (by decide)).mpr (clean label origin).1,
    (not_mem_lower (by decide)).mpr (clean label origin).2⟩

/-- Clean names are told apart by their dotted forms. -/
theorem QnameClean.dotted_inj {other : List (List UInt8)} (clean : QnameClean labels)
    (otherClean : QnameClean other) (nonempty : labels ≠ []) (otherNonempty : other ≠ [])
    (same : qnameDotted labels = qnameDotted other) : qnameLower labels = qnameLower other := by
  have split {labels : List (List UInt8)} (clean : QnameClean labels) (nonempty : labels ≠ []) :
      (qnameDotted labels).splitOn 46 = qnameLower labels :=
    List.splitOn_intercalate 46 (fun label member => (clean.lower label member).2)
      (by simpa only [qnameLower, ne_eq, List.map_eq_nil_iff] using nonempty)
  rw [← split clean nonempty, same, split otherClean otherNonempty]

/-- The dotted form of a name without NUL bytes is a string. -/
theorem qnameDotted_free (free : ∀ label ∈ labels, 0 ∉ label) : 0 ∉ qnameDotted labels := by
  refine intercalate_free (by decide) fun lowered member => ?_
  obtain ⟨label, origin, rfl⟩ := List.mem_map.mp member
  exact (not_mem_lower (by decide)).mpr (free label origin)

theorem QnameClean.dotted_free (clean : QnameClean labels) : 0 ∉ qnameDotted labels :=
  qnameDotted_free fun label member => (clean label member).1

end Lower

theorem QnameLabels.dotted_ne_nil (sized : QnameLabels labels) (nonempty : labels ≠ []) :
    qnameDotted labels ≠ [] := by
  cases labels with
  | nil => exact absurd rfl nonempty
  | cons label labels =>
    have first := List.length_pos_iff.mp (sized label List.mem_cons_self).1
    cases labels with
    | nil => simpa only [qnameDotted, qnameLower, List.map_cons, List.map_nil,
        List.intercalate_singleton, ne_eq, List.map_eq_nil_iff] using first
    | cons next labels =>
      simp only [qnameDotted, qnameLower, List.map_cons, List.intercalate_cons_cons, ne_eq,
        List.append_eq_nil_iff, List.cons_ne_nil, and_false, false_and, not_false_eq_true]

section Walk

theorem intercalate_append (first label : List UInt8) (labels : List (List UInt8)) :
    [46].intercalate ((first ++ label) :: labels) = first ++ [46].intercalate (label :: labels) := by
  cases labels with
  | nil => simp only [List.intercalate_singleton]
  | cons next labels => simp only [List.intercalate_cons_cons, List.append_assoc]

theorem foldl_appendLabel (nonempty : domain ≠ []) (labels : List (List UInt8)) :
    labels.foldl fakednsAppendLabel domain = [46].intercalate (domain :: qnameLower labels) := by
  induction labels generalizing domain with
  | nil => exact List.intercalate_singleton.symm
  | cons label labels ih =>
    have append : fakednsAppendLabel domain label = (domain ++ [46]) ++ label.map asciiLower := by
      rw [fakednsAppendLabel, if_pos (List.length_pos_iff.mpr nonempty)]
    have more : (domain ++ [46]) ++ label.map asciiLower ≠ [] := by
      simp only [ne_eq, List.append_eq_nil_iff, nonempty, false_and, not_false_eq_true]
    rw [List.foldl_cons, append, ih more, intercalate_append]
    simp only [qnameLower, List.map_cons, List.intercalate_cons_cons]

/-- The labels of a name are walked over into its dotted form. -/
theorem foldl_appendLabel_nil (sized : QnameLabels labels) :
    labels.foldl fakednsAppendLabel [] = qnameDotted labels := by
  cases labels with
  | nil => rfl
  | cons label labels =>
    have nonempty : label.map asciiLower ≠ [] := by
      rw [ne_eq, List.map_eq_nil_iff]
      exact List.length_pos_iff.mp (sized label List.mem_cons_self).1
    exact foldl_appendLabel nonempty labels

theorem fakednsAppendLabel_length (domain label : List UInt8) :
    (fakednsAppendLabel domain label).length =
      domain.length + (if domain.length > 0 then 1 else 0) + label.length := by
  unfold fakednsAppendLabel
  split <;> simp only [List.length_append, List.length_map, List.length_cons, List.length_nil, Nat.add_zero]

theorem le_foldl_appendLabel (domain : List UInt8) (labels : List (List UInt8)) :
    domain.length ≤ (labels.foldl fakednsAppendLabel domain).length := by
  induction labels generalizing domain with
  | nil => exact Nat.le_refl _
  | cons label labels ih =>
    refine Nat.le_trans ?_ (ih _)
    rw [fakednsAppendLabel_length]
    omega

/-- A walk with a byte before it that succeeds takes a whole label, or ends at a zero. -/
theorem fakednsWalkQname_cons_some {n : Nat} {domain body : List UInt8} {len : UInt8}
    {walk : List UInt8 × List UInt8} (walked : fakednsWalkQname (n + 1) domain (len :: body) = some walk) :
    len = 0 ∧ walk = (domain, body) ∨ 0 < len.toNat ∧ len.toNat ≤ 63 ∧
      (body.take len.toNat).length = len.toNat ∧
      (fakednsAppendLabel domain (body.take len.toNat)).length < fakednsMaxDomainLen ∧
      fakednsWalkQname n (fakednsAppendLabel domain (body.take len.toNat)) (body.drop len.toNat) =
        some walk := by
  rw [fakednsWalkQname] at walked
  by_cases zero : len = 0
  · rw [if_pos zero] at walked
    exact Or.inl ⟨zero, (Option.some.inj walked).symm⟩
  simp only [if_neg zero, Option.ite_none_left_eq_some] at walked
  obtain ⟨small, inside, fits, walked⟩ := walked
  have length : (body.take len.toNat).length = len.toNat := List.length_take_of_le (Nat.not_lt.mp inside)
  refine Or.inr ⟨Nat.pos_of_ne_zero fun none => zero (UInt8.toNat_inj.mp none),
    UInt8.le_iff_toNat_le.mp (UInt8.not_lt.mp small), length, ?_, walked⟩
  rw [fakednsAppendLabel_length, length]
  omega

theorem fakednsWalkQname_foldl (sized : QnameLabels labels) (tail : List UInt8) (n : Nat)
    (domain : List UInt8) (short : domain.length < fakednsMaxDomainLen) :
    fakednsWalkQname n domain (qnameWire labels ++ tail) =
      if labels.length < n ∧ (labels.foldl fakednsAppendLabel domain).length < fakednsMaxDomainLen then
        some (labels.foldl fakednsAppendLabel domain, tail)
      else none := by
  induction labels generalizing n domain with
  | nil =>
    cases n with
    | zero => rfl
    | succ n => exact (if_pos ⟨Nat.succ_pos n, short⟩).symm
  | cons label labels ih =>
    obtain ⟨positive, fits⟩ := sized label List.mem_cons_self
    have sized : QnameLabels labels := fun label member => sized label (List.mem_cons_of_mem _ member)
    rw [qnameWire_cons]
    cases n with
    | zero => rfl
    | succ n =>
      obtain ⟨count, nonzero, atMost⟩ := labelByte positive fits
      have small : ¬ UInt8.ofNat label.length > 63 := UInt8.not_lt.mpr atMost
      have inside : ¬ label.length > (label ++ qnameWire labels ++ tail).length := by
        simp only [List.length_append]
        omega
      simp only [List.cons_append, fakednsWalkQname, count, if_neg nonzero, if_neg small, if_neg inside]
      rw [← fakednsAppendLabel_length, List.append_assoc, List.take_left, List.drop_left,
        List.foldl_cons, List.length_cons]
      split
      · rename_i long
        have more := le_foldl_appendLabel (fakednsAppendLabel domain label) labels
        rw [if_neg (by omega)]
      · rename_i fits
        rw [ih sized n _ (Nat.not_le.mp fits)]
        simp only [Nat.add_lt_add_iff_right]

/-- What the walk over a name in wire form finds. -/
theorem fakednsWalkQname_wire (sized : QnameLabels labels) (tail : List UInt8) :
    fakednsWalkQname 128 [] (qnameWire labels ++ tail) =
      if labels.length < 128 ∧ (qnameDotted labels).length < fakednsMaxDomainLen then
        some (qnameDotted labels, tail)
      else none := by
  rw [fakednsWalkQname_foldl sized tail 128 [] (by decide), foldl_appendLabel_nil sized]

end Walk

end Tproxy
