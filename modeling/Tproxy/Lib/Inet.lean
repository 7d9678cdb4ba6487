import Tproxy.Lib.CString

/-!
`inet_pton` for IPv6 addresses: eight groups of up to four hexadecimal digits
between colons, the last two of which may be a dotted quad; one double colon
stands for one or more groups of zeros.
-/

namespace Tproxy

def isHexDigit (c : UInt8) : Bool := isDigit c || 97 ≤ c && c ≤ 102 || 65 ≤ c && c ≤ 70

def hexDigitValue (c : UInt8) : Nat :=
  if isDigit c then c.toNat - 48 else if 97 ≤ c then c.toNat - 87 else c.toNat - 55

/-- One group, as two bytes. -/
def inetHextet (part : List UInt8) : Option (List UInt8) :=
  if part ≠ [] ∧ part.length ≤ 4 ∧ part.all isHexDigit then
    let value := part.foldl (fun n c => 16 * n + hexDigitValue c) 0
    some [UInt8.ofNat (value / 256), UInt8.ofNat (value % 256)]
  else none

/-- An IPv4 address in network byte order. -/
def inetBytes4 (addr : BitVec 32) : List UInt8 :=
  [24, 16, 8, 0].map fun shift => UInt8.ofNat (addr.toNat / 2 ^ shift % 256)

/-- The last groups of an address, which may end in a dotted quad. -/
def inetGroups : List (List UInt8) → Option (List UInt8)
  | [] => none
  | [last] => (inetHextet last).or ((inetPton4 last).map inetBytes4)
  | part :: next :: parts => do
    let front ← inetHextet part
    let back ← inetGroups (next :: parts)
    some (front ++ back)

/-- The groups before a double colon. -/
def inetFront (s : List UInt8) : Option (List UInt8) :=
  if s = [] then some [] else ((s.splitOn 58).mapM inetHextet).map List.flatten

/-- The groups behind a double colon. -/
def inetBack (s : List UInt8) : Option (List UInt8) :=
  if s = [] then some [] else inetGroups (s.splitOn 58)

/-- The two sides of the first double colon. -/
def doubleColon : List UInt8 → Option (List UInt8 × List UInt8)
  | 58 :: 58 :: rest => some ([], rest)
  | c :: rest => (doubleColon rest).map (Prod.map (c :: ·) id)
  | [] => none

/-- `inet_pton(AF_INET6, ..)`: the 16 bytes of the address. -/
def inetPton6 (s : List UInt8) : Option (List UInt8) :=
  match doubleColon s with
  | none => (inetGroups (s.splitOn 58)).filter (·.length = 16)
  | some (left, right) => do
    let front ← inetFront left
    let back ← inetBack right
    if front.length + back.length ≤ 14 then
      some (front ++ List.replicate (16 - front.length - back.length) 0 ++ back)
    else none

variable {s left right part : List UInt8} {parts : List (List UInt8)} {bytes : List UInt8}

theorem forall_mem_of_splitOn {P : UInt8 → Prop} {sep : UInt8}
    (each : ∀ part ∈ s.splitOn sep, ∀ c ∈ part, P c) : ∀ c ∈ s, P c ∨ c = sep := by
  induction s with
  | nil => exact fun c member => absurd member List.not_mem_nil
  | cons x rest ih =>
    rw [List.splitOn_cons_eq_if_modifyHead] at each
    split at each
    · rename_i here
      obtain ⟨_, later⟩ := List.forall_mem_cons.mp each
      exact List.forall_mem_cons.mpr ⟨Or.inr (beq_iff_eq.mp here), ih later⟩
    · cases split : rest.splitOn sep with
      | nil => exact absurd split (List.splitOn_ne_nil _ _)
      | cons first others =>
        rw [split] at each ih
        obtain ⟨head, later⟩ := List.forall_mem_cons.mp each
        obtain ⟨here, rest⟩ := List.forall_mem_cons.mp head
        exact List.forall_mem_cons.mpr ⟨Or.inl here, ih (List.forall_mem_cons.mpr ⟨rest, later⟩)⟩

theorem isSome_of_mapM {α β : Type} {f : α → Option β} {l : List α} {r : List β}
    (all : l.mapM f = some r) : ∀ a ∈ l, ∃ b, f a = some b := by
  induction l generalizing r with
  | nil => exact fun a member => absurd member List.not_mem_nil
  | cons a l ih =>
    simp only [List.mapM_cons, Option.bind_eq_bind, Option.bind_eq_some_iff] at all
    obtain ⟨b, first, r, rest, _⟩ := all
    exact List.forall_mem_cons.mpr ⟨⟨b, first⟩, ih rest⟩

theorem inetHextet_chars (read : inetHextet part = some bytes) :
    (∀ c ∈ part, isHexDigit c = true) ∧ bytes.length = 2 := by
  unfold inetHextet at read
  split at read
  · rename_i valid
    cases read
    exact ⟨List.all_eq_true.mp valid.2.2, rfl⟩
  · cases read

theorem inetPton4_chars {addr : BitVec 32} (read : inetPton4 s = some addr) :
    ∀ c ∈ s, isDigit c = true ∨ c = 46 := by
  unfold inetPton4 at read
  split at read
  · rename_i octets
    refine forall_mem_of_splitOn fun part member => ?_
    obtain ⟨octet, valid⟩ := isSome_of_mapM octets part member
    unfold inetOctet at valid
    split at valid
    · rename_i digits
      exact List.all_eq_true.mp digits.2.1
    · cases valid
  · cases read

/-- A character of an IPv6 address. -/
def InetChar (c : UInt8) : Prop := isHexDigit c = true ∨ c = 46 ∨ c = 58

theorem isHexDigit_of_isDigit {c : UInt8} (digit : isDigit c = true) : isHexDigit c = true := by
  rw [isHexDigit, digit]
  rfl

theorem inetGroups_chars (read : inetGroups parts = some bytes) :
    (∀ part ∈ parts, ∀ c ∈ part, InetChar c) ∧ (parts.length = 1 → bytes.length ≤ 4) := by
  induction parts generalizing bytes with
  | nil => cases read
  | cons part rest ih =>
    cases rest with
    | nil =>
      rw [inetGroups, Option.or_eq_some_iff] at read
      rw [List.forall_mem_singleton]
      rcases read with hextet | ⟨_, dotted⟩
      · obtain ⟨chars, length⟩ := inetHextet_chars hextet
        exact ⟨fun c member => Or.inl (chars c member), fun _ => by omega⟩
      · obtain ⟨addr, quad, rfl⟩ := Option.map_eq_some_iff.mp dotted
        refine ⟨fun c member => ?_, fun _ => Nat.le_refl 4⟩
        rcases inetPton4_chars quad c member with digit | dot
        · exact Or.inl (isHexDigit_of_isDigit digit)
        · exact Or.inr (Or.inl dot)
    | cons next parts =>
      simp only [inetGroups, Option.bind_eq_bind, Option.bind_eq_some_iff] at read
      obtain ⟨front, hextet, back, groups, _⟩ := read
      obtain ⟨chars, _⟩ := inetHextet_chars hextet
      refine ⟨List.forall_mem_cons.mpr ⟨fun c member => Or.inl (chars c member), (ih groups).1⟩, ?_⟩
      intro single
      simp at single

theorem inetFront_chars (read : inetFront s = some bytes) : ∀ c ∈ s, InetChar c := by
  unfold inetFront at read
  split at read
  · rename_i empty
    simp [empty]
  · obtain ⟨hextets, each, _⟩ := Option.map_eq_some_iff.mp read
    intro c member
    rcases forall_mem_of_splitOn (fun part listed => by
      obtain ⟨b, hextet⟩ := isSome_of_mapM each part listed
      exact (inetHextet_chars hextet).1) c member with digit | colon
    · exact Or.inl digit
    · exact Or.inr (Or.inr colon)

theorem inetParts_chars (read : inetGroups (s.splitOn 58) = some bytes) : ∀ c ∈ s, InetChar c := by
  intro c member
  rcases forall_mem_of_splitOn (inetGroups_chars read).1 c member with valid | colon
  · exact valid
  · exact Or.inr (Or.inr colon)

theorem inetBack_chars (read : inetBack s = some bytes) : ∀ c ∈ s, InetChar c := by
  unfold inetBack at read
  split at read
  · rename_i empty
    simp [empty]
  · exact inetParts_chars read

theorem doubleColon_eq (found : doubleColon s = some (left, right)) : s = left ++ 58 :: 58 :: right := by
  induction s using doubleColon.induct generalizing left with
  | case1 rest =>
    rw [doubleColon] at found
    cases found
    rfl
  | case2 c rest other ih =>
    rw [doubleColon] at found
    · obtain ⟨⟨front, back⟩, later, same⟩ := Option.map_eq_some_iff.mp found
      cases same
      rw [ih later]
      rfl
    · exact other
  | case3 => cases found

/-- An IPv6 address has a colon and no character but hexadecimal digits, dots
and colons. -/
theorem inetPton6_chars (read : inetPton6 s = some bytes) : (∀ c ∈ s, InetChar c) ∧ 58 ∈ s := by
  unfold inetPton6 at read
  split at read
  · obtain ⟨groups, length⟩ := Option.filter_eq_some_iff.mp read
    refine ⟨inetParts_chars groups, ?_⟩
    by_contra none
    rw [List.splitOn_eq_singleton none] at groups
    have few := (inetGroups_chars groups).2 rfl
    have full : bytes.length = 16 := of_decide_eq_true length
    omega
  · rename_i left right found
    simp only [Option.bind_eq_bind, Option.bind_eq_some_iff] at read
    obtain ⟨front, atLeft, back, atRight, _⟩ := read
    rw [doubleColon_eq found]
    have colon : InetChar 58 := Or.inr (Or.inr rfl)
    refine ⟨?_, List.mem_append_right _ List.mem_cons_self⟩
    rw [List.forall_mem_append, List.forall_mem_cons, List.forall_mem_cons]
    exact ⟨inetFront_chars atLeft, colon, colon, inetBack_chars atRight⟩

end Tproxy
