import Mathlib.Data.List.Basic
import Mathlib.Data.List.Induction
import Tproxy.Lib.CString

namespace Tproxy

/-- A numeral as `strtoul` reads it to its end: white space, a sign, digits. -/
structure Numeral (s blanks sign digits : List UInt8) : Prop where
  text : s = blanks ++ (sign ++ digits)
  blank : ∀ c ∈ blanks, isSpace c = true
  signed : sign = [] ∨ sign = [43] ∨ sign = [45]
  digit : ∀ c ∈ digits, isDigit c = true
  nonempty : digits ≠ []

/-- The decimal spelling of a number. -/
def decimalText (n : Nat) : List UInt8 := (Nat.toDigits 10 n).map fun digit => UInt8.ofNat digit.toNat

variable {s blanks sign digits : List UInt8}

section Digits

theorem isDigit_iff {c : UInt8} : isDigit c = true ↔ 48 ≤ c.toNat ∧ c.toNat ≤ 57 := by
  simp only [isDigit, Bool.and_eq_true, decide_eq_true_eq, UInt8.le_iff_toNat_le, UInt8.toNat_ofNat]

theorem not_isSpace_of_isDigit {c : UInt8} (digit : isDigit c = true) : isSpace c = false := by
  obtain ⟨low, _⟩ := isDigit_iff.mp digit
  simp only [isSpace, Bool.or_eq_false_iff, Bool.and_eq_false_iff, decide_eq_false_iff_not,
    UInt8.le_iff_toNat_le, UInt8.toNat_ofNat]
  refine ⟨?_, Or.inr (by omega)⟩
  rintro rfl
  exact absurd low (by decide)

theorem digitsValue_concat (digits : List UInt8) (c : UInt8) :
    digitsValue (digits ++ [c]) = 10 * digitsValue digits + (c.toNat - 48) := by
  rw [digitsValue, List.foldl_append]
  rfl

theorem digitsValue_lt (digit : ∀ c ∈ digits, isDigit c = true) : digitsValue digits < 10 ^ digits.length := by
  induction digits using List.reverseRecOn with
  | nil => exact Nat.one_pos
  | append_singleton digits c ih =>
    have before := ih fun d member => digit d (List.mem_append_left _ member)
    obtain ⟨_, high⟩ := isDigit_iff.mp (digit c (List.mem_append_right _ (List.mem_singleton_self c)))
    rw [digitsValue_concat, List.length_append, List.length_singleton, Nat.pow_succ]
    omega

theorem decimalText_digits (n : Nat) : ∀ c ∈ decimalText n, isDigit c = true := by
  intro c member
  obtain ⟨digit, inside, rfl⟩ := List.mem_map.mp member
  have decimal := Nat.isDigit_of_mem_toDigits (by decide) (by decide) inside
  simp only [Char.isDigit, Bool.and_eq_true, decide_eq_true_eq, UInt32.le_iff_toNat_le] at decimal
  obtain ⟨low, high⟩ := decimal
  have low : 48 ≤ digit.toNat := low
  have high : digit.toNat ≤ 57 := high
  rw [isDigit_iff, UInt8.toNat_ofNat_of_lt' (by omega : digit.toNat < 256)]
  exact ⟨low, high⟩

/-- A number has one spelling without a leading zero. -/
theorem decimalText_digitsValue (digit : ∀ c ∈ digits, isDigit c = true) (nonempty : digits ≠ [])
    (plain : digits.length = 1 ∨ digits.head? ≠ some 48) :
    decimalText (digitsValue digits) = digits := by
  induction digits using List.reverseRecOn with
  | nil => exact absurd rfl nonempty
  | append_singleton digits c ih =>
    obtain ⟨low, high⟩ := isDigit_iff.mp (digit c (List.mem_append_right _ (List.mem_singleton_self c)))
    have last : (Nat.toDigits 10 (c.toNat - 48)).map (fun digit => UInt8.ofNat digit.toNat) = [c] := by
      have all : ∀ n < 58, 48 ≤ n → (Nat.toDigits 10 (n - 48)).map (fun digit => UInt8.ofNat digit.toNat) =
          [UInt8.ofNat n] := by decide
      have this := all c.toNat (by omega) low
      rwa [UInt8.ofNat_toNat] at this
    rw [digitsValue_concat]
    by_cases first : digits = []
    · have zero : digitsValue [] = 0 := rfl
      rw [first, zero, Nat.mul_zero, Nat.zero_add]
      exact last
    · have head : digits.head? ≠ some 48 := by
        have long := List.length_pos_iff.mpr first
        rcases plain with one | head
        · rw [List.length_append, List.length_singleton] at one
          omega
        · rwa [List.head?_append_of_ne_nil _ first] at head
      have before := ih (fun d member => digit d (List.mem_append_left _ member)) first (Or.inr head)
      have positive : 0 < digitsValue digits := by
        refine Nat.pos_of_ne_zero fun zero => head ?_
        rw [← before, zero]
        rfl
      rw [decimalText, ← Nat.toDigits_append_toDigits (by decide) positive (by omega), List.map_append, last]
      exact congrArg (· ++ [c]) before

end Digits

section Strtoul

theorem Numeral.digits_span (numeral : Numeral s blanks sign digits) :
    digits.takeWhile isDigit = digits ∧ digits.dropWhile isDigit = [] := by
  refine ⟨List.takeWhile_eq_self_iff.mpr numeral.digit, List.dropWhile_eq_nil_iff.mpr numeral.digit⟩

/-- The white space of a numeral is all that is skipped. -/
theorem Numeral.skip (numeral : Numeral s blanks sign digits) : s.dropWhile isSpace = sign ++ digits := by
  have stop : (sign ++ digits).dropWhile isSpace = sign ++ digits := by
    obtain ⟨c, rest, rfl⟩ := List.exists_cons_of_ne_nil numeral.nonempty
    have first := not_isSpace_of_isDigit (numeral.digit c List.mem_cons_self)
    rcases numeral.signed with rfl | rfl | rfl
    · exact List.dropWhile_cons_of_neg (Bool.eq_false_iff.mp first)
    · rfl
    · rfl
  rw [numeral.text, List.dropWhile_append, List.dropWhile_eq_nil_iff.mpr numeral.blank]
  exact stop

/-- Where the text starts with a digit there is nothing to skip. -/
theorem strtoul_of_digit {c : UInt8} {rest : List UInt8} (digit : isDigit c = true) :
    strtoul (c :: rest) = (if digitsValue ((c :: rest).takeWhile isDigit) ≥ 2 ^ 64 then 2 ^ 64 - 1
      else digitsValue ((c :: rest).takeWhile isDigit), (c :: rest).dropWhile isDigit) := by
  obtain ⟨low, _⟩ := isDigit_iff.mp digit
  have plus : c ≠ 43 := by
    rintro rfl
    exact absurd low (by decide)
  have minus : c ≠ 45 := by
    rintro rfl
    exact absurd low (by decide)
  have some : (c :: rest).takeWhile isDigit ≠ [] := by
    rw [List.takeWhile_cons_of_pos digit]
    simp
  rw [Tproxy.strtoul, List.dropWhile_cons_of_neg (by rw [not_isSpace_of_isDigit digit]; decide)]
  split
  rename_i negative digits signed
  split at signed
  · exact absurd (List.cons.inj ‹_›).1 minus
  · exact absurd (List.cons.inj ‹_›).1 plus
  · obtain ⟨rfl, rfl⟩ := Prod.mk.inj signed
    rw [if_neg some]
    rfl

/-- The value of a numeral, which is read to its end. -/
theorem Numeral.strtoul (numeral : Numeral s blanks sign digits) :
    strtoul s = (if digitsValue digits ≥ 2 ^ 64 then 2 ^ 64 - 1
      else if sign = [45] then (2 ^ 64 - digitsValue digits) % 2 ^ 64 else digitsValue digits, []) := by
  obtain ⟨taken, dropped⟩ := numeral.digits_span
  have nonempty := numeral.nonempty
  rw [Tproxy.strtoul, numeral.skip]
  rcases numeral.signed with rfl | rfl | rfl
  · obtain ⟨c, rest, rfl⟩ := List.exists_cons_of_ne_nil numeral.nonempty
    obtain ⟨low, _⟩ := isDigit_iff.mp (numeral.digit c List.mem_cons_self)
    have plus : c ≠ 43 := by
      rintro rfl
      exact absurd low (by decide)
    have minus : c ≠ 45 := by
      rintro rfl
      exact absurd low (by decide)
    simp only [List.nil_append]
    split
    · exact absurd (List.cons.inj ‹_›).1 minus
    · exact absurd (List.cons.inj ‹_›).1 plus
    · simp only [taken, dropped, nonempty]
      rfl
  · simp only [List.cons_append, List.nil_append, taken, dropped, nonempty]
    rfl
  · simp only [List.cons_append, List.nil_append, taken, dropped, nonempty]
    rfl

theorem numeral_of_strtoul (whole : (strtoul s).2 = []) (nonempty : s ≠ []) :
    ∃ blanks sign digits, Numeral s blanks sign digits := by
  have blank : ∀ c ∈ s.takeWhile isSpace, isSpace c = true := fun c member => List.mem_takeWhile_imp member
  have parts : s.takeWhile isSpace ++ s.dropWhile isSpace = s := List.takeWhile_append_dropWhile
  -- the digits are what the sign leaves, since nothing is left behind them
  have found {sign digits : List UInt8} (signed : sign = [] ∨ sign = [43] ∨ sign = [45])
      (rest : s.dropWhile isSpace = sign ++ digits)
      (read : (if digits.takeWhile isDigit = [] then s else digits.dropWhile isDigit) = []) :
      ∃ blanks sign digits, Numeral s blanks sign digits := by
    split at read
    · exact absurd read nonempty
    · rename_i some
      have digit := List.dropWhile_eq_nil_iff.mp read
      refine ⟨s.takeWhile isSpace, sign, digits, by rw [← rest, parts], blank, signed, digit, ?_⟩
      rintro rfl
      exact some rfl
  rw [Tproxy.strtoul] at whole
  simp only [apply_ite Prod.snd] at whole
  split at whole
  · exact found (Or.inr (Or.inr rfl)) ‹_› whole
  · exact found (Or.inr (Or.inl rfl)) ‹_› whole
  · exact found (Or.inl rfl) rfl whole

end Strtoul

end Tproxy
