import Mathlib.Algebra.Group.Nat.Defs
import Mathlib.Data.List.Basic

namespace Tproxy

structure DnsQuestion where
  name : List (List UInt8)
  qtype : Nat
  qclass : Nat
deriving DecidableEq

structure DnsRecord where
  name : List (List UInt8)
  rtype : Nat
  rclass : Nat
  ttl : Nat
  rdata : List UInt8
deriving DecidableEq

structure DnsMessage where
  id : Nat
  flags : Nat
  questions : List DnsQuestion
  answers : List DnsRecord
  authorities : List DnsRecord
  additionals : List DnsRecord
deriving DecidableEq

section Flags

/-- The bits of the flags: 15 is QR, 14 to 11 the opcode, then AA, TC, RD and
RA, and 3 to 0 the response code. -/
def dnsQr (flags : Nat) : Bool := flags.testBit 15

def dnsOpcode (flags : Nat) : Nat := flags / 2 ^ 11 % 2 ^ 4

def dnsAa (flags : Nat) : Bool := flags.testBit 10

def dnsTc (flags : Nat) : Bool := flags.testBit 9

def dnsRd (flags : Nat) : Bool := flags.testBit 8

def dnsRa (flags : Nat) : Bool := flags.testBit 7

def dnsRcode (flags : Nat) : Nat := flags % 2 ^ 4

end Flags

/-- A reader of the part of a message at the front of the bytes: what it says
and what is behind it. -/
abbrev DnsReader (α : Type) := List UInt8 → Option (α × List UInt8)

section Read

def dnsReadBytes (n : Nat) : DnsReader (List UInt8) := fun bytes =>
  if bytes.length < n then none else some (bytes.take n, bytes.drop n)

/-- A big-endian number of `n` bytes. -/
def dnsReadNumber (n : Nat) : DnsReader Nat := fun bytes => do
  let (digits, rest) ← dnsReadBytes n bytes
  some (digits.foldl (fun value byte => 256 * value + byte.toNat) 0, rest)

/-- The labels up to a zero byte, or up to a pointer and on from the earlier
place in the message that it refers to. -/
def dnsReadLabels (message : List UInt8) : Nat → DnsReader (List (List UInt8))
  | 0, _ => none
  | _ + 1, [] => none
  | steps + 1, len :: rest =>
    if len = 0 then some ([], rest)
    else if len ≤ 63 then do
      let (label, rest) ← dnsReadBytes len.toNat rest
      let (labels, rest) ← dnsReadLabels message steps rest
      some (label :: labels, rest)
    else if len < 192 then none
    else do
      let (low, rest') ← dnsReadNumber 1 rest
      let target := 256 * (len.toNat - 192) + low
      if message.length ≤ target + (len :: rest).length then none
      else
        let (labels, _) ← dnsReadLabels message steps (message.drop target)
        some (labels, rest')

/-- The wire form of a name. -/
def dnsNameBytes (labels : List (List UInt8)) : List UInt8 :=
  labels.flatMap (fun label => UInt8.ofNat label.length :: label) ++ [0]

/-- A name, which has no more than 255 bytes. -/
def dnsReadName (message : List UInt8) : DnsReader (List (List UInt8)) := fun bytes => do
  let (labels, rest) ← dnsReadLabels message 255 bytes
  if (dnsNameBytes labels).length > 255 then none else some (labels, rest)

def dnsReadQuestion (message : List UInt8) : DnsReader DnsQuestion := fun bytes => do
  let (name, bytes) ← dnsReadName message bytes
  let (qtype, bytes) ← dnsReadNumber 2 bytes
  let (qclass, bytes) ← dnsReadNumber 2 bytes
  some (⟨name, qtype, qclass⟩, bytes)

def dnsReadRecord (message : List UInt8) : DnsReader DnsRecord := fun bytes => do
  let (name, bytes) ← dnsReadName message bytes
  let (rtype, bytes) ← dnsReadNumber 2 bytes
  let (rclass, bytes) ← dnsReadNumber 2 bytes
  let (ttl, bytes) ← dnsReadNumber 4 bytes
  let (rdlength, bytes) ← dnsReadNumber 2 bytes
  let (rdata, bytes) ← dnsReadBytes rdlength bytes
  some (⟨name, rtype, rclass, ttl, rdata⟩, bytes)

def dnsReadMany {α : Type} (read : DnsReader α) : Nat → DnsReader (List α)
  | 0, bytes => some ([], bytes)
  | n + 1, bytes => do
    let (first, bytes) ← read bytes
    let (others, bytes) ← dnsReadMany read n bytes
    some (first :: others, bytes)

/-- A whole message: as many questions and records as its header counts, and
nothing behind them. -/
def dnsRead (message : List UInt8) : Option DnsMessage := do
  let (id, bytes) ← dnsReadNumber 2 message
  let (flags, bytes) ← dnsReadNumber 2 bytes
  let (qdcount, bytes) ← dnsReadNumber 2 bytes
  let (ancount, bytes) ← dnsReadNumber 2 bytes
  let (nscount, bytes) ← dnsReadNumber 2 bytes
  let (arcount, bytes) ← dnsReadNumber 2 bytes
  let (questions, bytes) ← dnsReadMany (dnsReadQuestion message) qdcount bytes
  let (answers, bytes) ← dnsReadMany (dnsReadRecord message) ancount bytes
  let (authorities, bytes) ← dnsReadMany (dnsReadRecord message) nscount bytes
  let (additionals, bytes) ← dnsReadMany (dnsReadRecord message) arcount bytes
  if bytes = [] then some ⟨id, flags, questions, answers, authorities, additionals⟩ else none

end Read

section Lemmas
variable {labels : List (List UInt8)} {message bytes tail rdata : List UInt8} {steps : Nat}
  {t₁ t₀ c₁ c₀ l₁ l₀ : UInt8}

/-- What a name consists of. -/
structure DnsName (labels : List (List UInt8)) : Prop where
  sized : ∀ label ∈ labels, 0 < label.length ∧ label.length ≤ 63
  short : (dnsNameBytes labels).length ≤ 255

theorem dnsReadBytes_append (bytes tail : List UInt8) :
    dnsReadBytes bytes.length (bytes ++ tail) = some (bytes, tail) := by
  have room : ¬(bytes ++ tail).length < bytes.length := by
    rw [List.length_append]
    omega
  rw [dnsReadBytes, if_neg room, List.take_left, List.drop_left]

theorem dnsReadNumber_append (digits tail : List UInt8) :
    dnsReadNumber digits.length (digits ++ tail) =
      some (digits.foldl (fun value byte => 256 * value + byte.toNat) 0, tail) := by
  rw [dnsReadNumber, dnsReadBytes_append]
  rfl

@[simp] theorem dnsReadNumber_two (high low : UInt8) (tail : List UInt8) :
    dnsReadNumber 2 (high :: low :: tail) = some (256 * high.toNat + low.toNat, tail) := by
  refine (dnsReadNumber_append [high, low] tail).trans ?_
  simp only [List.foldl_cons, List.foldl_nil, Nat.mul_zero, Nat.zero_add]

theorem dnsNameBytes_cons (label : List UInt8) (labels : List (List UInt8)) :
    dnsNameBytes (label :: labels) = UInt8.ofNat label.length :: label ++ dnsNameBytes labels := by
  simp only [dnsNameBytes, List.flatMap_cons, List.append_assoc]

/-- The length byte of a label. -/
theorem labelByte {length : Nat} (positive : 0 < length) (fits : length ≤ 63) :
    (UInt8.ofNat length).toNat = length ∧ UInt8.ofNat length ≠ 0 ∧ UInt8.ofNat length ≤ 63 := by
  have count : (UInt8.ofNat length).toNat = length := by
    rw [UInt8.toNat_ofNat', Nat.mod_eq_of_lt (by omega)]
  refine ⟨count, fun zero => ?_, ?_⟩
  · rw [zero] at count
    exact absurd count.symm (Nat.ne_of_gt positive)
  · rw [UInt8.le_iff_toNat_le, count]
    exact fits

/-- A name that is written out is read. -/
theorem dnsReadLabels_bytes (sized : ∀ label ∈ labels, 0 < label.length ∧ label.length ≤ 63)
    (enough : labels.length < steps) :
    dnsReadLabels message steps (dnsNameBytes labels ++ tail) = some (labels, tail) := by
  induction labels generalizing steps with
  | nil =>
    obtain ⟨steps, rfl⟩ := Nat.exists_eq_succ_of_ne_zero (Nat.ne_of_gt enough)
    rfl
  | cons label labels ih =>
    obtain ⟨steps, rfl⟩ := Nat.exists_eq_succ_of_ne_zero (Nat.ne_of_gt (Nat.zero_lt_of_lt enough))
    obtain ⟨positive, fits⟩ := sized label List.mem_cons_self
    obtain ⟨count, nonzero, small⟩ := labelByte positive fits
    have ih := ih (fun label member => sized label (List.mem_cons_of_mem _ member))
      (Nat.lt_of_succ_lt_succ enough)
    rw [dnsNameBytes_cons, List.cons_append, List.cons_append, List.append_assoc, dnsReadLabels,
      if_neg nonzero, if_pos small, count, dnsReadBytes_append]
    simp only [Option.bind_eq_bind, Option.bind_some, ih]

/-- So short a name has few labels. -/
theorem DnsName.length_lt (name : DnsName labels) : labels.length < 128 := by
  have double : ∀ labels : List (List UInt8), (∀ label ∈ labels, 0 < label.length ∧ label.length ≤ 63) →
      2 * labels.length + 1 ≤ (dnsNameBytes labels).length := by
    intro labels sized
    induction labels with
    | nil => exact Nat.le_refl 1
    | cons label labels ih =>
      have first := (sized label List.mem_cons_self).1
      have ih := ih fun label member => sized label (List.mem_cons_of_mem _ member)
      rw [dnsNameBytes_cons, List.length_append, List.length_cons, List.length_cons]
      omega
  have longer := double labels name.sized
  have short := name.short
  omega

theorem dnsReadName_bytes (name : DnsName labels) (message tail : List UInt8) :
    dnsReadName message (dnsNameBytes labels ++ tail) = some (labels, tail) := by
  have few := name.length_lt
  rw [dnsReadName, dnsReadLabels_bytes name.sized (by omega)]
  simp only [Option.bind_eq_bind, Option.bind_some, if_neg (Nat.not_lt.mpr name.short)]

/-- A pointer to an earlier name that is written out is read as that name. -/
theorem dnsReadName_pointer (name : DnsName labels) {high low : UInt8} (pointer : 192 ≤ high)
    (earlier : 256 * (high.toNat - 192) + low.toNat + (tail.length + 2) < message.length)
    (refers : message.drop (256 * (high.toNat - 192) + low.toNat) = dnsNameBytes labels ++ bytes) :
    dnsReadName message (high :: low :: tail) = some (labels, tail) := by
  have few := name.length_lt
  have large := UInt8.le_iff_toNat_le.mp pointer
  have nonzero : high ≠ 0 := by
    rintro rfl
    exact absurd large (by decide)
  have notLabel : ¬high ≤ 63 := by
    rw [UInt8.le_iff_toNat_le]
    exact fun small => absurd (Nat.le_trans large small) (by decide)
  have low_ : dnsReadNumber 1 (low :: tail) = some (low.toNat, tail) := by
    refine (dnsReadNumber_append [low] tail).trans ?_
    simp only [List.foldl_cons, List.foldl_nil, Nat.mul_zero, Nat.zero_add]
  have inside : ¬message.length ≤
      256 * (high.toNat - 192) + low.toNat + (high :: low :: tail).length := by
    simp only [List.length_cons]
    omega
  rw [dnsReadName, dnsReadLabels, if_neg nonzero, if_neg notLabel, if_neg (UInt8.not_lt.mpr pointer)]
  have enough : labels.length < 254 := Nat.lt_trans few (by decide)
  simp only [low_, Option.bind_eq_bind, Option.bind_some, if_neg inside, refers,
    dnsReadLabels_bytes name.sized enough, if_neg (Nat.not_lt.mpr name.short)]

theorem dnsReadQuestion_bytes (name : DnsName labels) (message tail : List UInt8) :
    dnsReadQuestion message (dnsNameBytes labels ++ (t₁ :: t₀ :: c₁ :: c₀ :: tail)) =
      some (⟨labels, 256 * t₁.toNat + t₀.toNat, 256 * c₁.toNat + c₀.toNat⟩, tail) := by
  rw [dnsReadQuestion, dnsReadName_bytes name]
  simp only [Option.bind_eq_bind, Option.bind_some, dnsReadNumber_two]

/-- A record whose name is read, with its data. -/
theorem dnsReadRecord_data {ttl : List UInt8} (named : dnsReadName message bytes =
      some (labels, t₁ :: t₀ :: c₁ :: c₀ :: (ttl ++ (l₁ :: l₀ :: (rdata ++ tail)))))
    (four : ttl.length = 4) (counted : 256 * l₁.toNat + l₀.toNat = rdata.length) :
    dnsReadRecord message bytes = some (⟨labels, 256 * t₁.toNat + t₀.toNat, 256 * c₁.toNat + c₀.toNat,
      ttl.foldl (fun value byte => 256 * value + byte.toNat) 0, rdata⟩, tail) := by
  have lifetime := dnsReadNumber_append ttl (l₁ :: l₀ :: (rdata ++ tail))
  rw [four] at lifetime
  rw [dnsReadRecord, named]
  simp only [Option.bind_eq_bind, Option.bind_some, dnsReadNumber_two, lifetime, counted,
    dnsReadBytes_append]

/-- A message with one question and no other records than answers. -/
theorem dnsRead_answers {i₁ i₀ f₁ f₀ n : UInt8} {body : List UInt8} {question : DnsQuestion}
    {answers : List DnsRecord}
    (asks : dnsReadQuestion (i₁ :: i₀ :: f₁ :: f₀ :: 0 :: 1 :: 0 :: n :: 0 :: 0 :: 0 :: 0 :: body) body =
      some (question, tail))
    (gives : dnsReadMany
      (dnsReadRecord (i₁ :: i₀ :: f₁ :: f₀ :: 0 :: 1 :: 0 :: n :: 0 :: 0 :: 0 :: 0 :: body)) n.toNat tail =
        some (answers, [])) :
    dnsRead (i₁ :: i₀ :: f₁ :: f₀ :: 0 :: 1 :: 0 :: n :: 0 :: 0 :: 0 :: 0 :: body) =
      some ⟨256 * i₁.toNat + i₀.toNat, 256 * f₁.toNat + f₀.toNat, [question], answers, [], []⟩ := by
  have zero : UInt8.toNat 0 = 0 := rfl
  have one : UInt8.toNat 1 = 1 := rfl
  simp only [dnsRead, dnsReadNumber_two, Option.bind_eq_bind, Option.bind_some, zero, one, Nat.mul_zero,
    Nat.zero_add, dnsReadMany, asks, gives, if_true]

end Lemmas

end Tproxy
