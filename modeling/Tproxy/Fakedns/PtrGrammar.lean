import Mathlib.Data.List.Forall2
import Tproxy.Fakedns.Pointer
import Tproxy.Lib.Numeral

namespace Tproxy

section Grammar

/-- The name of the address d3.d2.d1.d0, in network byte order. -/
def PtrCanonical (name : List UInt8) (x : BitVec 32) : Prop :=
  ∃ (d₀ d₁ d₂ d₃ : UInt8) (suffix : List UInt8), suffix.map asciiLower = inAddrArpa ∧
    name = [46].intercalate ([d₀, d₁, d₂, d₃].map decimalOctet) ++ suffix ∧
    x = htonl (d₃.toBitVec ++ d₂.toBitVec ++ d₁.toBitVec ++ d₀.toBitVec)

/-- An octet as it may also be spelt: white space and a sign before it, and
zeros behind these. -/
def PtrNumeral (piece : List UInt8) (octet : UInt8) : Prop :=
  ∃ blanks sign digits, Numeral piece blanks sign digits ∧ digitsValue digits = octet.toNat ∧
    (sign = [45] → octet = 0) ∧ (piece = digits → digits.length = 1 ∨ digits.head? ≠ some 48)

/-- What stands between the dots before the first NUL, if anything does. -/
def ptrPieces (ip : List UInt8) : List (List UInt8) := ((cStr ip).splitOn 46).filter (· ≠ [])

/-- A name whose four pieces before the suffix are numerals of the octets. -/
structure PtrLoose (name ip suffix octets : List UInt8) : Prop where
  text : name = ip ++ suffix
  arpa : suffix.map asciiLower = inAddrArpa
  sized : 7 ≤ ip.length ∧ ip.length ≤ 15
  four : octets.length = 4
  numerals : List.Forall₂ PtrNumeral (ptrPieces ip) octets

/-- A name that is not canonical for a NUL, a dot too many or a byte that is
no digit, and has four numerals for all that. -/
def PtrTolerated (name : List UInt8) : Prop :=
  ∃ ip suffix octets, PtrLoose name ip suffix octets ∧
    (0 ∈ ip ∨ [] ∈ ip.splitOn 46 ∨ ∃ piece ∈ ptrPieces ip, ∃ c ∈ piece, isDigit c = false)

end Grammar

variable {name ip suffix octets piece : List UInt8} {octet : UInt8}

section Octets

theorem Numeral.digitsValue_lt {blanks sign digits : List UInt8} (numeral : Numeral piece blanks sign digits)
    (short : piece.length ≤ 15) : digitsValue digits < 10 ^ 15 := by
  have length := congrArg List.length numeral.text
  simp only [List.length_append] at length
  exact (Tproxy.digitsValue_lt numeral.digit).trans_le (Nat.pow_le_pow_right (by decide) (by omega))

/-- Only a numeral without white space and sign starts with a digit. -/
theorem Numeral.bare {blanks sign digits : List UInt8} {c : UInt8} (numeral : Numeral piece blanks sign digits)
    (first : piece.head? = some c) (digit : isDigit c = true) : piece = digits := by
  obtain ⟨text, blank, signed, -, -⟩ := numeral
  cases blanks with
  | cons space blanks =>
    rw [text] at first
    have space := blank space List.mem_cons_self
    rw [Option.some.inj first, not_isSpace_of_isDigit digit] at space
    cases space
  | nil =>
    rcases signed with rfl | rfl | rfl
    · exact text
    · rw [text] at first
      rw [← Option.some.inj first] at digit
      cases digit
    · rw [text] at first
      rw [← Option.some.inj first] at digit
      cases digit

/-- The pieces that `fakedns_parse_ptr_name` takes for an octet. -/
theorem fakednsPtrOctet_eq_some_iff (short : piece.length ≤ 15) :
    fakednsPtrOctet piece = some octet ↔ PtrNumeral piece octet := by
  constructor
  · intro parsed
    rw [fakednsPtrOctet] at parsed
    split at parsed
    · cases parsed
    · rename_i zeros
      simp only [Option.ite_none_left_eq_some, not_or, not_not, Option.some.injEq] at parsed
      obtain ⟨⟨whole, small, nonempty⟩, rfl⟩ := parsed
      rw [whole] at nonempty
      obtain ⟨blanks, sign, digits, numeral⟩ := numeral_of_strtoul whole (Ne.symm nonempty)
      have bound := numeral.digitsValue_lt short
      rw [numeral.strtoul, if_neg (by omega)] at small ⊢
      have plain : piece = digits → digits.length = 1 ∨ digits.head? ≠ some 48 := by
        rintro rfl
        have some := List.length_pos_iff.mpr numeral.nonempty
        by_cases head : piece.head? = Option.some 48
        · exact Or.inl (by have := not_and.mp zeros head; omega)
        · exact Or.inr head
      by_cases minus : sign = [45]
      · -- a positive number would be negated to a huge one
        rw [if_pos minus] at small ⊢
        have zero : digitsValue digits = 0 := by omega
        rw [zero]
        exact ⟨blanks, sign, digits, numeral, zero, fun _ => rfl, plain⟩
      · rw [if_neg minus] at small ⊢
        have value : (UInt8.ofNat (digitsValue digits)).toNat = digitsValue digits :=
          UInt8.toNat_ofNat_of_lt' (Nat.lt_succ_of_le (Nat.le_of_not_lt small))
        exact ⟨blanks, sign, digits, numeral, value.symm, fun negative => absurd negative minus, plain⟩
  · rintro ⟨blanks, sign, digits, numeral, value, minus, plain⟩
    have bound := octet.toNat_lt
    have zeros : ¬ (piece.head? = some 48 ∧ piece.length > 1) := by
      rintro ⟨first, long⟩
      have bare := numeral.bare first rfl
      rcases plain bare with one | head
      · rw [← bare] at one
        omega
      · exact head (bare ▸ first)
    have nonempty : piece ≠ [] := by
      rintro rfl
      exact numeral.nonempty (List.append_eq_nil_iff.mp (List.append_eq_nil_iff.mp numeral.text.symm).2).2
    have read : strtoul piece = (octet.toNat, []) := by
      rw [numeral.strtoul, if_neg (by omega)]
      split
      · rw [value, minus ‹_›]
        rfl
      · rw [value]
    rw [fakednsPtrOctet, if_neg zeros, read]
    have taken : ¬ (([] : List UInt8) ≠ [] ∨ octet.toNat > 255 ∨ [] = piece) := by
      rintro (none | large | empty)
      · exact none rfl
      · omega
      · exact nonempty empty.symm
    simp only [if_neg taken, UInt8.ofNat_toNat]

end Octets

section Parse

theorem mapM_eq_some_iff {α β : Type} {f : α → Option β} {P : α → β → Prop} {l : List α} {r : List β}
    (each : ∀ a ∈ l, ∀ b, f a = some b ↔ P a b) : l.mapM f = some r ↔ List.Forall₂ P l r := by
  induction l generalizing r with
  | nil => simp only [List.mapM_nil, Option.pure_def, Option.some.injEq, List.forall₂_nil_left_iff, eq_comm]
  | cons a l ih =>
    have ih {r : List β} := ih (r := r) fun b member => each b (List.mem_cons_of_mem a member)
    simp only [List.mapM_cons, Option.bind_eq_bind, Option.pure_def, Option.bind_eq_some_iff,
      Option.some.injEq, List.forall₂_cons_left_iff, ih, each a List.mem_cons_self]
    constructor
    · rintro ⟨b, first, r, rest, rfl⟩
      exact ⟨b, r, first, rest, rfl⟩
    · rintro ⟨b, r, first, rest, rfl⟩
      exact ⟨b, first, r, rest, rfl⟩

theorem length_le_intercalate {labels : List (List UInt8)} {label : List UInt8} (member : label ∈ labels) :
    label.length ≤ ([46].intercalate labels).length := by
  induction labels with
  | nil => cases member
  | cons first labels ih =>
    by_cases last : labels = []
    · subst last
      rw [List.mem_singleton.mp member, List.intercalate_singleton]
    · rw [List.intercalate_cons_of_ne_nil last, List.length_append, List.length_append]
      rcases List.mem_cons.mp member with rfl | member
      · omega
      · have rest := ih member
        omega

theorem ptrPieces_length (short : ip.length ≤ 15) (member : piece ∈ ptrPieces ip) : piece.length ≤ 15 := by
  have inside := length_le_intercalate (List.mem_filter.mp member).1
  have cut : (cStr ip).length ≤ ip.length := (List.takeWhile_prefix _).length_le
  rw [List.intercalate_splitOn] at inside
  omega

theorem htonl_append (o₀ o₁ o₂ o₃ : UInt8) :
    BitVec.ofNat 32 o₃.toNat <<< 24 ||| BitVec.ofNat 32 o₂.toNat <<< 16 |||
      BitVec.ofNat 32 o₁.toNat <<< 8 ||| BitVec.ofNat 32 o₀.toNat =
      o₃.toBitVec ++ o₂.toBitVec ++ o₁.toBitVec ++ o₀.toBitVec := by
  have byte (o : UInt8) : BitVec.ofNat 32 o.toNat = o.toBitVec.setWidth 32 := by
    refine BitVec.eq_of_toNat_eq ?_
    rw [BitVec.toNat_ofNat, BitVec.toNat_setWidth, UInt8.toNat_toBitVec]
  refine BitVec.eq_of_getLsbD_eq fun i bound => ?_
  simp only [byte, BitVec.getLsbD_append, BitVec.getLsbD_or, BitVec.getLsbD_shiftLeft,
    BitVec.getLsbD_setWidth]
  grind

theorem ptrPieces_octets (short : ip.length ≤ 15) :
    (strtok 46 (cStr ip)).mapM fakednsPtrOctet = some octets ↔ List.Forall₂ PtrNumeral (ptrPieces ip) octets :=
  mapM_eq_some_iff fun _ member _ => fakednsPtrOctet_eq_some_iff (ptrPieces_length short member)

/-- The names that are parsed, and the address. -/
theorem fakednsParsePtrName_eq_some_iff {x : BitVec 32} :
    fakednsParsePtrName name = some x ↔ ∃ ip suffix o₀ o₁ o₂ o₃, PtrLoose name ip suffix [o₀, o₁, o₂, o₃] ∧
      x = htonl (o₃.toBitVec ++ o₂.toBitVec ++ o₁.toBitVec ++ o₀.toBitVec) := by
  constructor
  · intro parsed
    rw [fakednsParsePtrName] at parsed
    simp only [Option.ite_none_left_eq_some, not_or, Nat.not_lt, not_not] at parsed
    obtain ⟨⟨low, high⟩, arpa, parsed⟩ := parsed
    split at parsed
    · rename_i o₀ o₁ o₂ o₃ octets
      have sized : (name.take (name.length - 13)).length = name.length - 13 :=
        List.length_take_of_le (Nat.sub_le _ _)
      refine ⟨_, _, o₀, o₁, o₂, o₃, ⟨(List.take_append_drop (name.length - 13) name).symm, arpa,
        by rw [sized]; omega, rfl, ?_⟩, ?_⟩
      · exact (ptrPieces_octets (by rw [sized]; omega)).mp octets
      · rw [← htonl_append]
        exact (Option.some.inj parsed).symm
    · cases parsed
  · rintro ⟨ip, suffix, o₀, o₁, o₂, o₃, ⟨rfl, arpa, sized, -, numerals⟩, rfl⟩
    have thirteen : suffix.length = 13 := by
      have length := congrArg List.length arpa
      rwa [List.length_map] at length
    have cut : (ip ++ suffix).length - 13 = ip.length := by
      rw [List.length_append, thirteen, Nat.add_sub_cancel]
    have parsed := (ptrPieces_octets sized.2).mpr numerals
    rw [fakednsParsePtrName, cut, List.length_append, thirteen, if_neg (by omega), List.drop_left,
      List.take_left, if_neg (not_not.mpr arpa)]
    simp only [parsed, htonl_append]

end Parse

section Exact

variable {x : BitVec 32}

/-- The part before the suffix is strict: no NUL, no empty piece, digits only. -/
def PtrPlain (ip : List UInt8) : Prop :=
  0 ∉ ip ∧ [] ∉ ip.splitOn 46 ∧ ∀ piece ∈ ptrPieces ip, ∀ c ∈ piece, isDigit c = true

theorem decimalOctet_numeral (octet : UInt8) : PtrNumeral (decimalOctet octet) octet := by
  obtain ⟨parsed, ⟨_, short⟩, -, -⟩ := decimalOctet_parse octet
  exact (fakednsPtrOctet_eq_some_iff (by omega)).mp parsed

/-- Digits alone spell an octet in one way. -/
theorem PtrNumeral.eq_decimalOctet (numeral : PtrNumeral piece octet)
    (digit : ∀ c ∈ piece, isDigit c = true) : piece = decimalOctet octet := by
  obtain ⟨blanks, sign, digits, numeral, value, -, plain⟩ := numeral
  have bare : piece = digits := by
    cases first : piece.head? with
    | none =>
      have text := numeral.text
      rw [List.head?_eq_none_iff.mp first] at text
      exact absurd (List.append_eq_nil_iff.mp (List.append_eq_nil_iff.mp text.symm).2).2 numeral.nonempty
    | some c => exact numeral.bare first (digit c (List.mem_of_mem_head? first))
  have spelling := decimalText_digitsValue numeral.digit numeral.nonempty (plain bare)
  rw [bare, ← spelling, value]
  rfl

theorem PtrLoose.unique {ip' suffix' octets' : List UInt8} (loose : PtrLoose name ip suffix octets)
    (other : PtrLoose name ip' suffix' octets') : ip = ip' := by
  have length := (congrArg List.length loose.arpa).trans (congrArg List.length other.arpa).symm
  rw [List.length_map, List.length_map] at length
  exact (List.append_inj' (loose.text.symm.trans other.text) length).1

/-- What is plain is written with the pieces of the name. -/
theorem PtrPlain.pieces (plain : PtrPlain ip) : ptrPieces ip = ip.splitOn 46 := by
  rw [ptrPieces, cStr_of_free plain.1, List.filter_eq_self]
  intro piece member
  exact decide_eq_true fun empty => plain.2.1 (empty ▸ member)

theorem numerals_eq {pieces : List (List UInt8)} (numerals : List.Forall₂ PtrNumeral pieces octets)
    (digits : ∀ piece ∈ pieces, ∀ c ∈ piece, isDigit c = true) : pieces = octets.map decimalOctet := by
  induction numerals with
  | nil => rfl
  | cons first _ ih =>
    rw [List.map_cons, first.eq_decimalOctet (digits _ List.mem_cons_self),
      ih fun piece member => digits piece (List.mem_cons_of_mem _ member)]

theorem PtrLoose.octets_eq (loose : PtrLoose name ip suffix octets) (plain : PtrPlain ip) :
    ip = [46].intercalate (octets.map decimalOctet) := by
  rw [← numerals_eq loose.numerals plain.2.2, plain.pieces, List.intercalate_splitOn]

/-- The canonical names are the strict ones among those that are parsed. -/
theorem ptrCanonical_iff : PtrCanonical name x ↔ ∃ ip suffix o₀ o₁ o₂ o₃,
    PtrLoose name ip suffix [o₀, o₁, o₂, o₃] ∧ PtrPlain ip ∧
      x = htonl (o₃.toBitVec ++ o₂.toBitVec ++ o₁.toBitVec ++ o₀.toBitVec) := by
  constructor
  · rintro ⟨o₀, o₁, o₂, o₃, suffix, arpa, rfl, rfl⟩
    have spelt : ∀ label ∈ [o₀, o₁, o₂, o₃].map decimalOctet, ∃ octet, label = decimalOctet octet := by
      intro label member
      obtain ⟨octet, _, rfl⟩ := List.mem_map.mp member
      exact ⟨octet, rfl⟩
    have clean : ∀ label ∈ [o₀, o₁, o₂, o₃].map decimalOctet, label ≠ [] ∧ 46 ∉ label := by
      intro label member
      obtain ⟨octet, rfl⟩ := spelt label member
      obtain ⟨_, ⟨positive, _⟩, _, dot⟩ := decimalOctet_parse octet
      exact ⟨List.length_pos_iff.mp positive, dot⟩
    have free : 0 ∉ [46].intercalate ([o₀, o₁, o₂, o₃].map decimalOctet) := by
      refine intercalate_free (by decide) fun label member => ?_
      obtain ⟨octet, rfl⟩ := spelt label member
      exact (decimalOctet_parse octet).2.2.1
    have nonempty : [o₀, o₁, o₂, o₃].map decimalOctet ≠ [] := List.cons_ne_nil _ _
    have split := List.splitOn_intercalate 46 (fun label member => (clean label member).2) nonempty
    have pieces : ptrPieces ([46].intercalate ([o₀, o₁, o₂, o₃].map decimalOctet)) =
        [o₀, o₁, o₂, o₃].map decimalOctet := by
      rw [ptrPieces, cStr_of_free free]
      exact strtok_intercalate nonempty clean
    refine ⟨_, suffix, o₀, o₁, o₂, o₃,
      ⟨rfl, arpa, decimalOctets_length o₀ o₁ o₂ o₃, rfl, ?_⟩, ⟨free, ?_, ?_⟩, rfl⟩
    · rw [pieces, List.forall₂_map_left_iff, List.forall₂_same]
      exact fun octet _ => decimalOctet_numeral octet
    · rw [split]
      exact fun member => (clean [] member).1 rfl
    · rw [pieces]
      intro piece member
      obtain ⟨octet, rfl⟩ := spelt piece member
      exact decimalText_digits octet.toNat
  · rintro ⟨ip, suffix, o₀, o₁, o₂, o₃, loose, plain, rfl⟩
    refine ⟨o₀, o₁, o₂, o₃, suffix, loose.arpa, ?_, rfl⟩
    rw [loose.text, loose.octets_eq plain]

/-- A tolerated name is parsed, but it is not canonical. -/
theorem PtrTolerated.parsed (tolerated : PtrTolerated name) :
    ∃ x, fakednsParsePtrName name = some x ∧ ¬ PtrCanonical name x := by
  obtain ⟨ip, suffix, octets, loose, odd⟩ := tolerated
  match octets, loose with
  | [o₀, o₁, o₂, o₃], loose =>
    have parsed := fakednsParsePtrName_eq_some_iff.mpr ⟨ip, suffix, o₀, o₁, o₂, o₃, loose, rfl⟩
    refine ⟨_, parsed, fun canonical => ?_⟩
    obtain ⟨ip', suffix', _, _, _, _, other, ⟨free, full, digits⟩, -⟩ := ptrCanonical_iff.mp canonical
    obtain rfl := loose.unique other
    rcases odd with nul | empty | ⟨piece, member, c, inside, odd⟩
    · exact free nul
    · exact full empty
    · rw [digits piece member c inside] at odd
      cases odd

/-- The parser is exact on all names but the tolerated ones. -/
theorem fakedns_ptr_exact (name : List UInt8) :
    (∀ x, fakednsParsePtrName name = some x ↔ PtrCanonical name x) ↔ ¬ PtrTolerated name := by
  constructor
  · intro exact tolerated
    obtain ⟨x, parsed, odd⟩ := tolerated.parsed
    exact odd ((exact x).mp parsed)
  · intro strict x
    rw [fakednsParsePtrName_eq_some_iff, ptrCanonical_iff]
    constructor
    · rintro ⟨ip, suffix, o₀, o₁, o₂, o₃, loose, same⟩
      refine ⟨ip, suffix, o₀, o₁, o₂, o₃, loose, ⟨fun nul => ?_, fun empty => ?_, ?_⟩, same⟩
      · exact strict ⟨ip, suffix, _, loose, Or.inl nul⟩
      · exact strict ⟨ip, suffix, _, loose, Or.inr (Or.inl empty)⟩
      · intro piece member c inside
        refine eq_true_of_ne_false fun odd => ?_
        exact strict ⟨ip, suffix, _, loose, Or.inr (Or.inr ⟨piece, member, c, inside, odd⟩)⟩
    · rintro ⟨ip, suffix, o₀, o₁, o₂, o₃, loose, -, same⟩
      exact ⟨ip, suffix, o₀, o₁, o₂, o₃, loose, same⟩

/-- The second dot of `1..2.3.4.in-addr.arpa` is passed over. -/
theorem fakedns_ptr_dots : ¬ ∀ name x, fakednsParsePtrName name = some x ↔ PtrCanonical name x := by
  intro exact
  have pieces : ptrPieces [49, 46, 46, 50, 46, 51, 46, 52] = [1, 2, 3, 4].map decimalOctet := by
    decide +kernel
  have loose : PtrLoose ([49, 46, 46, 50, 46, 51, 46, 52] ++ inAddrArpa)
      [49, 46, 46, 50, 46, 51, 46, 52] inAddrArpa [1, 2, 3, 4] := by
    refine ⟨rfl, by decide, by decide, rfl, ?_⟩
    rw [pieces, List.forall₂_map_left_iff, List.forall₂_same]
    exact fun octet _ => decimalOctet_numeral octet
  have tolerated := PtrTolerated.parsed ⟨_, _, _, loose, Or.inr (Or.inl (by decide))⟩
  obtain ⟨x, parsed, odd⟩ := tolerated
  exact odd ((exact _ x).mp parsed)

-- a blank and signs, and a leading zero behind one of them
example : fakednsParsePtrName ([32, 49, 46, 43, 50, 46, 45, 48, 46, 43, 48, 51] ++ inAddrArpa) =
    some (htonl 0x03000201) := by decide +kernel

end Exact

end Tproxy
