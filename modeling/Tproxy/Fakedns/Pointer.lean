import Tproxy.Fakedns.Names
import Tproxy.Fakedns.Run

namespace Tproxy

/-- An octet as it is written in a name. -/
def decimalOctet (octet : UInt8) : List UInt8 :=
  (Nat.toDigits 10 octet.toNat).map fun digit => UInt8.ofNat digit.toNat

/-- The labels of the name in `in-addr.arpa` of a network-order address: its
octets from the last to the first. -/
def ptrLabels (x : BitVec 32) : List (List UInt8) :=
  (fwriteLe 4 x.toNat).reverse.map decimalOctet ++
    [[105, 110, 45, 97, 100, 100, 114], [97, 114, 112, 97]]

variable {labels : List (List UInt8)} {out : List UInt8}

section Encode

/-- The dotted form of clean labels is encoded as their wire form. -/
theorem fakednsEncodeLabels_dotted {outlen : Nat} (sized : QnameLabels labels)
    (clean : QnameClean labels) (room : (out ++ qnameWire labels).length ≤ outlen) :
    fakednsEncodeLabels outlen ([46].intercalate labels) out = some (out ++ qnameWire labels) := by
  induction labels generalizing out with
  | nil =>
    have room : ¬ out.length + 1 > outlen := by
      rw [List.length_append] at room
      exact Nat.not_lt.mpr room
    rw [List.intercalate_nil, fakednsEncodeLabels, if_pos rfl, if_neg room]
    rfl
  | cons label labels ih =>
    obtain ⟨positive, fits⟩ := sized label List.mem_cons_self
    have free := (clean label List.mem_cons_self).2
    -- what is read up to the dot, and what follows it
    have split : ([46].intercalate (label :: labels)).takeWhile (· ≠ 46) = label ∧
        ([46].intercalate (label :: labels)).drop (label.length + 1) = [46].intercalate labels := by
      have all : ∀ c ∈ label, decide (c ≠ 46) = true :=
        fun c member => decide_eq_true fun dot => free (dot ▸ member)
      cases labels with
      | nil =>
        rw [List.intercalate_singleton, List.drop_of_length_le (Nat.le_succ _)]
        exact ⟨List.takeWhile_eq_self_iff.mpr all, rfl⟩
      | cons next labels =>
        have dot : [46].intercalate (label :: next :: labels) =
            label ++ 46 :: [46].intercalate (next :: labels) := by
          rw [List.intercalate_cons_cons, List.append_assoc, List.singleton_append]
        rw [dot, List.takeWhile_append_of_pos all, List.takeWhile_cons_of_neg (by decide),
          List.append_nil, ← List.drop_drop, List.drop_left]
        exact ⟨rfl, rfl⟩
    have nonempty : [46].intercalate (label :: labels) ≠ [] := by
      intro nothing
      rw [nothing] at split
      exact absurd (congrArg List.length split.1) (by simp only [List.takeWhile_nil, List.length_nil]; omega)
    rw [qnameWire_cons, List.cons_append, List.append_cons, ← List.append_assoc] at room ⊢
    have here := room
    simp only [List.length_append, List.length_cons, List.length_nil] at here
    have root : 0 < (qnameWire labels).length := by
      rw [qnameWire, List.length_append]
      exact Nat.succ_pos _
    rw [fakednsEncodeLabels, if_neg nonempty]
    simp only [split]
    rw [if_neg (by omega), if_neg (by omega), List.append_cons]
    exact ih (fun label member => sized label (List.mem_cons_of_mem _ member))
      (fun label member => clean label (List.mem_cons_of_mem _ member)) room

theorem qnameWire_length (nonempty : labels ≠ []) :
    (qnameWire labels).length = ([46].intercalate labels).length + 2 := by
  induction labels with
  | nil => exact absurd rfl nonempty
  | cons label labels ih =>
    rw [qnameWire_cons]
    by_cases last : labels = []
    · subst last
      rw [List.intercalate_singleton]
      simp only [qnameWire, List.flatMap_nil, List.nil_append, List.length_append, List.length_cons,
        List.length_nil]
    · rw [List.intercalate_cons_of_ne_nil last]
      simp only [List.length_append, List.length_cons, List.length_nil, ih last]
      omega

end Encode

section Parse

theorem decimalOctet_parse (octet : UInt8) :
    fakednsPtrOctet (decimalOctet octet) = some octet ∧
      (0 < (decimalOctet octet).length ∧ (decimalOctet octet).length ≤ 3) ∧
      0 ∉ decimalOctet octet ∧ 46 ∉ decimalOctet octet := by
  have all : ∀ n < 256, fakednsPtrOctet (decimalOctet (UInt8.ofNat n)) = some (UInt8.ofNat n) ∧
      (0 < (decimalOctet (UInt8.ofNat n)).length ∧ (decimalOctet (UInt8.ofNat n)).length ≤ 3) ∧
      0 ∉ decimalOctet (UInt8.ofNat n) ∧ 46 ∉ decimalOctet (UInt8.ofNat n) := by
    decide +kernel
  have value := all octet.toNat octet.toNat_lt
  rwa [UInt8.ofNat_toNat] at value

theorem ofNat_byte (x : BitVec 32) (i : Nat) :
    BitVec.ofNat 32 (UInt8.ofNat (x.toNat / 2 ^ i)).toNat = (x.extractLsb' i 8).setWidth 32 := by
  refine BitVec.eq_of_toNat_eq ?_
  simp only [BitVec.toNat_ofNat, UInt8.toNat_ofNat', BitVec.toNat_setWidth, BitVec.extractLsb'_toNat,
    Nat.shiftRight_eq_div_pow]

/-- The octets of an address, from the first on. -/
theorem htonl_octets (x : BitVec 32) :
    (x.extractLsb' 0 8).setWidth 32 <<< 24 ||| (x.extractLsb' 8 8).setWidth 32 <<< 16 |||
      (x.extractLsb' 16 8).setWidth 32 <<< 8 ||| (x.extractLsb' 24 8).setWidth 32 = htonl x := by
  refine BitVec.eq_of_getLsbD_eq fun i bound => ?_
  simp only [htonl, BitVec.getLsbD_append, BitVec.getLsbD_extractLsb', BitVec.getLsbD_or,
    BitVec.getLsbD_shiftLeft, BitVec.getLsbD_setWidth]
  grind

/-- Tokens without the separator are found again. -/
theorem strtok_intercalate (nonempty : labels ≠ []) (free : ∀ label ∈ labels, label ≠ [] ∧ 46 ∉ label) :
    strtok 46 ([46].intercalate labels) = labels := by
  rw [strtok, List.splitOn_intercalate 46 (fun label member => (free label member).2) nonempty,
    List.filter_eq_self]
  exact fun label member => decide_eq_true (free label member).1

/-- The dotted octets of an address, from the last to the first. -/
def ptrOctets (x : BitVec 32) : List (List UInt8) := (fwriteLe 4 x.toNat).reverse.map decimalOctet

theorem ptrOctets_eq (x : BitVec 32) : ptrOctets x =
    [decimalOctet (UInt8.ofNat (x.toNat / 2 ^ 24)), decimalOctet (UInt8.ofNat (x.toNat / 2 ^ 16)),
      decimalOctet (UInt8.ofNat (x.toNat / 2 ^ 8)), decimalOctet (UInt8.ofNat (x.toNat / 2 ^ 0))] := by
  have second : x.toNat / 2 ^ 8 = x.toNat / 256 := rfl
  have third : x.toNat / 2 ^ 16 = x.toNat / 256 / 256 := by omega
  have fourth : x.toNat / 2 ^ 24 = x.toNat / 256 / 256 / 256 := by omega
  rw [second, third, fourth, Nat.pow_zero, Nat.div_one]
  rfl

theorem ptrLabels_dotted (x : BitVec 32) :
    [46].intercalate (ptrLabels x) = [46].intercalate (ptrOctets x) ++ inAddrArpa := by
  have split : ptrLabels x = ptrOctets x ++ [[105, 110, 45, 97, 100, 100, 114], [97, 114, 112, 97]] := rfl
  rw [split, ptrOctets_eq]
  simp only [List.cons_append, List.nil_append, List.intercalate_cons_cons, List.intercalate_singleton,
    List.append_assoc]
  rfl

theorem ptrOctets_mem {x : BitVec 32} {label : List UInt8} (member : label ∈ ptrOctets x) :
    ∃ octet, label = decimalOctet octet := by
  obtain ⟨octet, _, rfl⟩ := List.mem_map.mp member
  exact ⟨octet, rfl⟩

theorem decimalOctets_length (o₀ o₁ o₂ o₃ : UInt8) :
    7 ≤ ([46].intercalate ([o₀, o₁, o₂, o₃].map decimalOctet)).length ∧
      ([46].intercalate ([o₀, o₁, o₂, o₃].map decimalOctet)).length ≤ 15 := by
  have digits (octet : UInt8) := (decimalOctet_parse octet).2.1
  have first := digits o₀
  have second := digits o₁
  have third := digits o₂
  have fourth := digits o₃
  simp only [List.map_cons, List.map_nil, List.intercalate_cons_cons, List.intercalate_singleton,
    List.length_append, List.length_cons, List.length_nil]
  omega

theorem ptrOctets_length (x : BitVec 32) : 7 ≤ ([46].intercalate (ptrOctets x)).length ∧
    ([46].intercalate (ptrOctets x)).length ≤ 15 := by
  rw [ptrOctets_eq]
  exact decimalOctets_length _ _ _ _

/-- The name of an address is parsed as the address. -/
theorem fakednsParsePtrName_labels (x : BitVec 32) :
    fakednsParsePtrName ([46].intercalate (ptrLabels x)) = some x := by
  obtain ⟨low, high⟩ := ptrOctets_length x
  have free : 0 ∉ [46].intercalate (ptrOctets x) := by
    refine intercalate_free (by decide) fun label member => ?_
    obtain ⟨octet, rfl⟩ := ptrOctets_mem member
    exact (decimalOctet_parse octet).2.2.1
  have tokens : strtok 46 ([46].intercalate (ptrOctets x)) = ptrOctets x := by
    have nonempty : ptrOctets x ≠ [] := List.cons_ne_nil _ _
    refine strtok_intercalate nonempty fun label member => ?_
    obtain ⟨octet, rfl⟩ := ptrOctets_mem member
    obtain ⟨_, ⟨positive, _⟩, _, dot⟩ := decimalOctet_parse octet
    exact ⟨List.length_pos_iff.mp positive, dot⟩
  have suffix : inAddrArpa.map asciiLower = inAddrArpa := by decide
  have thirteen : inAddrArpa.length = 13 := rfl
  have length : ([46].intercalate (ptrOctets x) ++ inAddrArpa).length - 13 =
      ([46].intercalate (ptrOctets x)).length := by
    rw [List.length_append, thirteen, Nat.add_sub_cancel]
  rw [ptrLabels_dotted, fakednsParsePtrName, length, List.length_append, thirteen, if_neg (by omega),
    List.drop_left, List.take_left, suffix, if_neg (not_not.mpr rfl), cStr_of_free free, tokens]
  have parsed : (ptrOctets x).mapM fakednsPtrOctet =
      some [UInt8.ofNat (x.toNat / 2 ^ 24), UInt8.ofNat (x.toNat / 2 ^ 16),
        UInt8.ofNat (x.toNat / 2 ^ 8), UInt8.ofNat (x.toNat / 2 ^ 0)] := by
    simp only [ptrOctets_eq, List.mapM_cons, List.mapM_nil, (decimalOctet_parse _).1, Option.bind_eq_bind,
      Option.bind_some, Option.pure_def]
  simp only [parsed, ofNat_byte, htonl_octets, htonl_htonl]

end Parse

end Tproxy
