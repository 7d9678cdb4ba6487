import Tproxy.Lib.Numeral
import Tproxy.Main.ServerGroup

namespace Tproxy

variable {ctxInit : Ss2022Method → List UInt8 → Bool} {p rest ipstr digits psk : List UInt8}
  {family : AddrFamily} {method : Ss2022Method} {port : Nat} {g : SsServers} {str : List UInt8}

section Cut

/-- What `strchr` finds: the text up to the mark, and the mark. -/
theorem cut_at {mark : UInt8} {before : List UInt8} (free : mark ∉ before) (rest : List UInt8) :
    (before ++ mark :: rest).takeWhile (· ≠ mark) = before ∧
      (before ++ mark :: rest).dropWhile (· ≠ mark) = mark :: rest := by
  have passes : ∀ c ∈ before, decide (c ≠ mark) = true := fun c member =>
    decide_eq_true fun same => free (same ▸ member)
  constructor
  · rw [List.takeWhile_append_of_pos passes, List.takeWhile_cons_of_neg (by simp), List.append_nil]
  · rw [List.dropWhile_append_of_pos passes, List.dropWhile_cons_of_neg (by simp)]

theorem cut_found {mark : UInt8} (found : p.dropWhile (· ≠ mark) ≠ []) :
    ∃ rest, p.dropWhile (· ≠ mark) = mark :: rest ∧
      p = p.takeWhile (· ≠ mark) ++ mark :: rest ∧ mark ∉ p.takeWhile (· ≠ mark) := by
  obtain ⟨c, rest, split⟩ := List.exists_cons_of_ne_nil found
  have stops := List.head_dropWhile_not (· ≠ mark) found
  simp only [split, List.head_cons, decide_eq_false_iff_not, not_not] at stops
  subst stops
  refine ⟨rest, split, ?_, fun member => ?_⟩
  · rw [← split, List.takeWhile_append_dropWhile]
  · simpa using List.mem_takeWhile_imp member

end Cut

section Addresses

theorem AddrFamily.Literal.chars (literal : family.Literal ipstr) : ∀ c ∈ ipstr, InetChar c := by
  cases family with
  | inet =>
    obtain ⟨addr, read⟩ := Option.isSome_iff_exists.mp literal
    intro c member
    rcases inetPton4_chars read c member with digit | dot
    · exact Or.inl (isHexDigit_of_isDigit digit)
    · exact Or.inr (Or.inl dot)
  | inet6 =>
    obtain ⟨bytes, read⟩ := Option.isSome_iff_exists.mp literal
    exact (inetPton6_chars read).1

theorem inetPton4_colon (literal : (inetPton4 ipstr).isSome) : 58 ∉ ipstr := by
  obtain ⟨addr, read⟩ := Option.isSome_iff_exists.mp literal
  intro member
  rcases inetPton4_chars read 58 member with digit | dot
  · exact absurd digit (by decide)
  · exact absurd dot (by decide)

theorem inetPton6_colon (literal : (inetPton6 ipstr).isSome) : 58 ∈ ipstr := by
  obtain ⟨bytes, read⟩ := Option.isSome_iff_exists.mp literal
  exact (inetPton6_chars read).2

theorem getIpstrFamily_eq : getIpstrFamily ipstr = some family ↔ family.Literal ipstr := by
  unfold getIpstrFamily
  cases family with
  | inet =>
    simp only [AddrFamily.Literal]
    split
    · simp_all
    · rename_i other
      split <;> simp [other]
  | inet6 =>
    simp only [AddrFamily.Literal]
    split
    · rename_i four
      have apart : ¬ (inetPton6 ipstr).isSome := fun six => inetPton4_colon four (inetPton6_colon six)
      simp [apart]
    · split <;> simp_all

theorem AddrFamily.Literal.nonempty (literal : family.Literal ipstr) : ipstr.length ≠ 0 := by
  intro empty
  rw [List.length_eq_zero_iff] at empty
  subst empty
  cases family with
  | inet =>
    have none : inetPton4 [] = none := by decide
    simp [AddrFamily.Literal, none] at literal
  | inet6 => exact absurd (inetPton6_colon literal) List.not_mem_nil

/-- No character of an address is a bracket. -/
theorem AddrFamily.Literal.unbracketed (literal : family.Literal ipstr) {c : UInt8}
    (bracket : c = 91 ∨ c = 93) : c ∉ ipstr := by
  intro member
  have valid := literal.chars c member
  rcases bracket with rfl | rfl
  · exact absurd valid (by unfold InetChar; decide)
  · exact absurd valid (by unfold InetChar; decide)

/-- Both branches take the text before a mark, and the mark is not in it. -/
theorem parseServerGroupAddr_sound (parsed : parseServerGroupAddr p = .ok (ipstr, rest)) :
    ∃ family : AddrFamily, family.Literal ipstr ∧ ipstr.length < ip6StrLen ∧
      p = addrText family ipstr ++ 58 :: rest := by
  unfold parseServerGroupAddr at parsed
  simp only at parsed
  split at parsed
  · rename_i bracket
    split at parsed
    · cases parsed
    rename_i closed
    rw [not_or, not_not] at closed
    obtain ⟨closing, colon⟩ := closed
    obtain ⟨after, rb, whole, -⟩ := cut_found closing
    split at parsed
    · cases parsed
    rename_i length
    split at parsed
    · cases parsed
    rename_i valid
    rw [not_not, getIpstrFamily_eq] at valid
    obtain ⟨same, dropped⟩ := Prod.mk.inj (Except.ok.inj parsed)
    rw [rb, List.tail_cons, List.head?_eq_some_iff] at colon
    obtain ⟨behind, rfl⟩ := colon
    rw [rb] at dropped
    subst same dropped
    refine ⟨.inet6, valid, by omega, ?_⟩
    obtain ⟨tail, rfl⟩ := List.head?_eq_some_iff.mp bracket
    rw [List.tail_cons] at whole
    simp only [addrText, List.tail_cons, List.cons_append, List.append_assoc, List.drop_succ_cons,
      List.drop_zero, List.nil_append]
    rw [← whole]
  · split at parsed
    · cases parsed
    rename_i found
    obtain ⟨after, colon, whole, free⟩ := cut_found found
    split at parsed
    · cases parsed
    rename_i length
    split at parsed
    · split at parsed <;> cases parsed
    rename_i valid
    obtain ⟨same, dropped⟩ := Prod.mk.inj (Except.ok.inj parsed)
    rw [colon] at dropped
    subst same dropped
    obtain ⟨family, known⟩ := Option.ne_none_iff_exists'.mp valid
    rw [getIpstrFamily_eq] at known
    cases family with
    | inet => exact ⟨.inet, known, by omega, whole⟩
    | inet6 => exact absurd (inetPton6_colon known) free

theorem parseServerGroupAddr_text (literal : family.Literal ipstr) (short : ipstr.length < ip6StrLen)
    (rest : List UInt8) :
    parseServerGroupAddr (addrText family ipstr ++ 58 :: rest) = .ok (ipstr, rest) := by
  unfold parseServerGroupAddr
  simp only
  have nonempty := literal.nonempty
  have known := getIpstrFamily_eq.mpr literal
  cases family with
  | inet =>
    have unbracketed : ¬ (addrText .inet ipstr ++ 58 :: rest).head? = some 91 := by
      intro bracket
      obtain ⟨c, others, rfl⟩ := List.exists_cons_of_ne_nil (List.length_eq_zero_iff.not.mp nonempty)
      exact literal.unbracketed (Or.inl rfl) (Option.some.inj bracket ▸ List.mem_cons_self)
    obtain ⟨taken, dropped⟩ := cut_at (inetPton4_colon literal) rest
    rw [if_neg unbracketed]
    simp only [addrText, taken, dropped, known]
    rw [if_neg (by simp), if_neg (by omega), if_neg (by simp)]
    rfl
  | inet6 =>
    obtain ⟨taken, dropped⟩ := cut_at (literal.unbracketed (Or.inr rfl)) (58 :: rest)
    have text : addrText .inet6 ipstr ++ 58 :: rest = 91 :: (ipstr ++ 93 :: 58 :: rest) := by
      simp [addrText]
    have bracket : (91 :: (ipstr ++ 93 :: 58 :: rest)).head? = some 91 := rfl
    rw [text, if_pos bracket]
    simp only [List.tail_cons, taken, dropped, known]
    rw [if_neg (by simp), if_neg (by omega), if_neg (by simp)]
    rfl

end Addresses

section Numbers

theorem parseServerGroupPort_sound (parsed : parseServerGroupPort p = .ok (port, rest)) :
    ∃ digits, (digits ≠ [] ∧ ∀ c ∈ digits, isDigit c = true) ∧ port = digitsValue digits ∧
      (1 ≤ digitsValue digits ∧ digitsValue digits ≤ 65535) ∧ p = digits ++ 58 :: rest := by
  unfold parseServerGroupPort at parsed
  split at parsed
  · cases parsed
  rename_i head
  rw [not_not, Option.map_eq_some_iff] at head
  obtain ⟨c, first, digit⟩ := head
  obtain ⟨tail, rfl⟩ := List.head?_eq_some_iff.mp first
  rcases value : strtoul (c :: tail) with ⟨number, next⟩
  rw [value] at parsed
  rw [strtoul_of_digit digit] at value
  obtain ⟨clamped, remains⟩ := Prod.mk.inj value
  simp only at parsed
  split at parsed
  · cases parsed
  rename_i valid
  simp only [not_or, not_not] at valid
  obtain ⟨colon, positive, small⟩ := valid
  obtain ⟨rfl, dropped⟩ := Prod.mk.inj (Except.ok.inj parsed)
  obtain ⟨behind, rfl⟩ := List.head?_eq_some_iff.mp colon
  rw [List.drop_succ_cons, List.drop_zero] at dropped
  -- a value that overflows is not a port
  have exact : number = digitsValue ((c :: tail).takeWhile isDigit) := by
    split at clamped
    · omega
    · exact clamped.symm
  have range : 1 ≤ number ∧ number ≤ 65535 := by omega
  refine ⟨(c :: tail).takeWhile isDigit, ⟨?_, fun _ => List.mem_takeWhile_imp⟩, exact, exact ▸ range, ?_⟩
  · rw [List.takeWhile_cons_of_pos digit]
    simp
  · rw [← dropped, ← remains, List.takeWhile_append_dropWhile]

theorem parseServerGroupPort_text (nonempty : digits ≠ []) (digit : ∀ c ∈ digits, isDigit c = true)
    (range : 1 ≤ digitsValue digits ∧ digitsValue digits ≤ 65535) (rest : List UInt8) :
    parseServerGroupPort (digits ++ 58 :: rest) = .ok (digitsValue digits, rest) := by
  have taken : (digits ++ 58 :: rest).takeWhile isDigit = digits := by
    rw [List.takeWhile_append_of_pos digit, List.takeWhile_cons_of_neg (by decide), List.append_nil]
  have dropped : (digits ++ 58 :: rest).dropWhile isDigit = 58 :: rest := by
    rw [List.dropWhile_append_of_pos digit, List.dropWhile_cons_of_neg (by decide)]
  have exact : ¬ digitsValue digits ≥ 2 ^ 64 := by omega
  obtain ⟨c, tail, rfl⟩ := List.exists_cons_of_ne_nil nonempty
  have first : ((c :: tail ++ 58 :: rest).head?.map isDigit) = some true := by
    rw [List.cons_append, List.head?_cons, Option.map_some, digit c List.mem_cons_self]
  rw [List.cons_append] at taken dropped first ⊢
  rw [parseServerGroupPort, if_neg (not_not.mpr first), strtoul_of_digit (digit c List.mem_cons_self),
    taken, dropped, if_neg exact]
  simp only [List.head?_cons, ne_eq, not_true_eq_false, false_or]
  rw [if_neg (by omega)]
  rfl

theorem parseServerGroupMethod_eq :
    parseServerGroupMethod p = .ok (method, rest) ↔ p = methodPrefix method ++ rest := by
  unfold parseServerGroupMethod
  constructor
  · intro parsed
    split at parsed
    · rename_i found
      obtain ⟨tail, rfl⟩ := List.isPrefixOf_iff_prefix.mp found
      rw [List.drop_left] at parsed
      cases parsed
      rfl
    · split at parsed
      · rename_i found
        obtain ⟨tail, rfl⟩ := List.isPrefixOf_iff_prefix.mp found
        rw [List.drop_left] at parsed
        cases parsed
        rfl
      · cases parsed
  · rintro rfl
    have found := List.isPrefixOf_iff_prefix.mpr (List.prefix_append (methodPrefix method) rest)
    cases method with
    | aes128Gcm => rw [if_pos found, List.drop_left]
    | aes256Gcm =>
      have other : ¬ (methodPrefix .aes128Gcm).isPrefixOf (methodPrefix .aes256Gcm ++ rest) = true := by
        intro both
        have same := List.prefix_iff_eq_take.mp (List.isPrefixOf_iff_prefix.mp both)
        have lengths : (methodPrefix .aes256Gcm).length = (methodPrefix .aes128Gcm).length := by decide
        rw [List.take_left' lengths] at same
        exact absurd same (by decide)
      rw [if_neg other, if_pos found, List.drop_left]

theorem parseServerGroupPsk_eq : parseServerGroupPsk ctxInit method psk = .ok () ↔
    (1 ≤ psk.length ∧ psk.length ≤ 127) ∧ ctxInit method psk = true := by
  unfold parseServerGroupPsk
  rw [pskSize]
  split
  · rename_i bad
    exact ⟨fun parsed => (by cases parsed), fun ⟨key, _⟩ => by omega⟩
  · rename_i length
    split
    · rename_i refused
      exact ⟨fun parsed => (by cases parsed), fun ⟨_, accepted⟩ => absurd accepted (by simp [refused])⟩
    · rename_i accepted
      exact ⟨fun _ => ⟨by omega, by simpa using accepted⟩, fun _ => rfl⟩

end Numbers

section Whole

theorem except_bind_eq_ok {ε α β : Type} {x : Except ε α} {f : α → Except ε β} {b : β} :
    (x >>= f) = .ok b ↔ ∃ a, x = .ok a ∧ f a = .ok b := by
  cases x with
  | error e =>
    constructor
    · intro failed
      cases failed
    · rintro ⟨a, failed, _⟩
      cases failed
  | ok a =>
    constructor
    · exact fun run => ⟨a, rfl, run⟩
    · rintro ⟨_, same, run⟩
      cases same
      exact run

/-- The parse accepts the texts of well-formed groups, and stores their parts. -/
theorem parseServerGroup_eq {out : SsServer} : parseServerGroup ctxInit str = .ok out ↔
    ∃ parts : ServerGroup, parts.WellFormed ctxInit ∧ cStr str = parts.text ∧ out = parts.record := by
  have record (parts : ServerGroup) (formed : parts.WellFormed ctxInit) :
      parts.record = {
        ipstr := parts.addr
        portno := digitsValue parts.port % 2 ^ 16
        skaddr := buildSocketAddr ((getIpstrFamily parts.addr).getD .inet6) parts.addr
          (digitsValue parts.port % 2 ^ 16)
        method := parts.method
        psk := parts.psk
        saltLen := if parts.method = .aes256Gcm then 32 else 16 } := by
    have port : digitsValue parts.port % 2 ^ 16 = digitsValue parts.port :=
      Nat.mod_eq_of_lt (by have small := formed.range.2; omega)
    have family : (getIpstrFamily parts.addr).getD .inet6 = parts.family := by
      rw [getIpstrFamily_eq.mpr formed.literal, Option.getD_some]
    rw [port, family, ServerGroup.record]
    cases parts.method <;> rfl
  unfold parseServerGroup
  constructor
  · intro parsed
    simp only [except_bind_eq_ok, Prod.exists] at parsed
    obtain ⟨addr, p₁, readAddr, port, p₂, readPort, method, psk, readMethod, ⟨⟩, readPsk, stored⟩ := parsed
    obtain ⟨family, literal, short, text⟩ := parseServerGroupAddr_sound readAddr
    obtain ⟨digits, digit, rfl, range, rfl⟩ := parseServerGroupPort_sound readPort
    obtain ⟨key, accepted⟩ := parseServerGroupPsk_eq.mp readPsk
    rw [parseServerGroupMethod_eq] at readMethod
    subst readMethod
    have formed : (ServerGroup.mk family addr digits method psk).WellFormed ctxInit :=
      ⟨literal, short, digit, range, key, accepted⟩
    exact ⟨_, formed, text, by rw [record _ formed]; exact (Except.ok.inj stored).symm⟩
  · rintro ⟨parts, formed, text, rfl⟩
    rw [text, record _ formed, ServerGroup.text,
      parseServerGroupAddr_text formed.literal formed.short]
    simp only [except_bind_eq_ok, Prod.exists]
    refine ⟨_, _, rfl, _, _, parseServerGroupPort_text formed.digits.1 formed.digits.2 formed.range _,
      _, _, parseServerGroupMethod_eq.mpr rfl, (), parseServerGroupPsk_eq.mpr ⟨formed.key, formed.accepted⟩,
      rfl⟩

/-- The parser accepts exactly its format while there is room, appends the one
record that the text stands for, and otherwise changes nothing. -/
theorem parseServerGroupArg_exact (ctxInit : Ss2022Method → List UInt8 → Bool) (g : SsServers)
    (str : List UInt8) :
    ((parseServerGroupArg ctxInit g str).1 = .ok () ↔ g.serverCount < ssMaxServers ∧
        ∃ parts : ServerGroup, parts.WellFormed ctxInit ∧ cStr str = parts.text) ∧
      (∀ parts : ServerGroup, g.serverCount < ssMaxServers → parts.WellFormed ctxInit →
        cStr str = parts.text → (parseServerGroupArg ctxInit g str).2 =
          { servers := Function.update g.servers g.serverCount parts.record
            serverCount := g.serverCount + 1 }) ∧
      ((parseServerGroupArg ctxInit g str).1 ≠ .ok () → (parseServerGroupArg ctxInit g str).2 = g) := by
  unfold parseServerGroupArg
  by_cases full : g.serverCount ≥ ssMaxServers
  · rw [if_pos full]
    refine ⟨⟨fun ok => (by cases ok), fun ⟨room, _⟩ => absurd room (by omega)⟩, ?_, fun _ => rfl⟩
    intro parts room
    omega
  · rw [if_neg full]
    cases run : parseServerGroup ctxInit str with
    | error printed =>
      have refused (parts : ServerGroup) (formed : parts.WellFormed ctxInit) :
          cStr str ≠ parts.text := fun text => by
        have parsed := parseServerGroup_eq.mpr ⟨parts, formed, text, rfl⟩
        rw [run] at parsed
        cases parsed
      refine ⟨⟨fun ok => (by cases ok), fun ⟨_, parts, formed, text⟩ => ?_⟩, ?_, fun _ => rfl⟩
      · exact absurd text (refused parts formed)
      · exact fun parts _ formed text => absurd text (refused parts formed)
    | ok out =>
      refine ⟨⟨fun _ => ⟨by omega, ?_⟩, fun _ => rfl⟩, ?_, fun failed => absurd rfl failed⟩
      · obtain ⟨parts, formed, text, _⟩ := parseServerGroup_eq.mp run
        exact ⟨parts, formed, text⟩
      · intro parts _ formed text
        have parsed := parseServerGroup_eq.mpr ⟨parts, formed, text, rfl⟩
        rw [run] at parsed
        rw [Except.ok.inj parsed]

end Whole

end Tproxy
