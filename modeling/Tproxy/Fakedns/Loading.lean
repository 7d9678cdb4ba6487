import Tproxy.Fakedns.RoundTrip

namespace Tproxy

variable {hash : List UInt8 → BitVec 64} {s s₀ : Fakedns} {now : BitVec 32} {file : List UInt8}

/-- One record of a file: the address, and a name of the length that is told before it. -/
structure FakednsRecord where
  ip : BitVec 32
  domain : List UInt8
  fits : domain.length < 2 ^ 16

def FakednsRecord.bytes (record : FakednsRecord) : List UInt8 :=
  fwriteLe 4 record.ip.toNat ++ fwriteLe 2 record.domain.length ++ record.domain

/-- The whole records of a file, as many as there are and at most as many as
the count allows. -/
inductive FakednsRecords : Nat → List UInt8 → List FakednsRecord → Prop
  | counted (file : List UInt8) : FakednsRecords 0 file []
  | short {left : Nat} {file : List UInt8} :
      (∀ (record : FakednsRecord) (rest : List UInt8), file ≠ record.bytes ++ rest) →
      FakednsRecords (left + 1) file []
  | record {left : Nat} {rest : List UInt8} {records : List FakednsRecord} (record : FakednsRecord) :
      FakednsRecords left rest records → FakednsRecords (left + 1) (record.bytes ++ rest) (record :: records)

/-- A header of the right magic and version, with a text that reads as the CIDR. -/
structure FakednsHeader (cidrStr file : List UInt8) (count : BitVec 32) (text body : List UInt8) :
    Prop where
  bytes : file = fwriteLe 4 fakednsMagic ++ (fwriteLe 4 fakednsVersion ++ (fwriteLe 4 count.toNat ++
    (fwriteLe 2 text.length ++ (text ++ body))))
  fits : text.length < 64
  cidr : cStr text = cStr cidrStr

instance (s : Fakedns) (ip : BitVec 32) : Decidable (s.InRange ip) :=
  inferInstanceAs (Decidable (_ ∧ _))

/-- What a record does to the pool: nothing, if its address is out of range or
its name too long. -/
def fakednsLoadRecord (now : BitVec 32) (memory : Nat → Bool) (s : Fakedns)
    (record : FakednsRecord × Nat) : Fakedns :=
  if s.InRange record.1.ip ∧ record.1.domain.length < fakednsMaxDomainLen then
    fakednsLoadEntry s record.1.ip (htonl record.1.ip - s.fakeipNetHost) record.1.domain now
      (memory record.2)
  else s

section Read
variable {n value : Nat} {rest : List UInt8}

theorem fwriteLe_foldr (bytes : List UInt8) :
    fwriteLe bytes.length (bytes.foldr (fun byte value => byte.toNat + 256 * value) 0) = bytes := by
  induction bytes with
  | nil => rfl
  | cons byte bytes ih =>
    have small : byte.toNat < 256 := byte.toNat_lt
    have low (value : Nat) : UInt8.ofNat (byte.toNat + 256 * value) = byte := by
      refine UInt8.toNat_inj.mp ?_
      rw [UInt8.toNat_ofNat']
      omega
    have high (value : Nat) : (byte.toNat + 256 * value) / 256 = value := by omega
    rw [List.length_cons, List.foldr_cons, fwriteLe, low, high, ih]

/-- What is read is what was written. -/
theorem freadLe_some (read : freadLe n file = some (value, rest)) :
    file = fwriteLe n value ++ rest ∧ value < 256 ^ n := by
  unfold freadLe at read
  split at read
  · cases read
  · rename_i long
    cases read
    have length : (file.take n).length = n := List.length_take_of_le (Nat.not_lt.mp long)
    have bytes := fwriteLe_foldr (file.take n)
    rw [length] at bytes
    refine ⟨by rw [bytes, List.take_append_drop], ?_⟩
    have value := fwriteLe_value n ((file.take n).foldr (fun byte value => byte.toNat + 256 * value) 0)
    rw [bytes] at value
    rw [value]
    exact Nat.mod_lt _ (Nat.pow_pos (by decide))

theorem freadLe_none (read : freadLe n file = none) : file.length < n := by
  unfold freadLe at read
  split at read
  · assumption
  · cases read

end Read

section Header

theorem fakednsLoadHeader_some {cidrStr body : List UInt8} {count : Nat}
    (read : fakednsLoadHeader cidrStr file = some (count, body)) : ∃ (count' : BitVec 32) (text : List UInt8),
    count = count'.toNat ∧ FakednsHeader cidrStr file count' text body := by
  simp only [fakednsLoadHeader, Option.bind_eq_bind, Option.bind_eq_some_iff, Prod.exists,
    Option.ite_none_left_eq_some, ne_eq, not_not, ge_iff_le, Nat.not_le, Nat.not_lt,
    Option.some.injEq, Prod.mk.injEq] at read
  obtain ⟨magic, file₁, first, version, file₂, second, number, file₃, third, rfl, rfl, cidrLen, file₄,
    fourth, fits, long, same, rfl, rfl⟩ := read
  obtain ⟨bytes₁, _⟩ := freadLe_some first
  obtain ⟨bytes₂, _⟩ := freadLe_some second
  obtain ⟨bytes₃, small⟩ := freadLe_some third
  obtain ⟨bytes₄, _⟩ := freadLe_some fourth
  have value : (BitVec.ofNat 32 number).toNat = number := by
    rw [BitVec.toNat_ofNat]
    exact Nat.mod_eq_of_lt small
  have length : (file₄.take cidrLen).length = cidrLen := List.length_take_of_le long
  refine ⟨BitVec.ofNat 32 number, file₄.take cidrLen, value.symm, ?_, length.symm ▸ fits, same⟩
  rw [value, length, List.take_append_drop, bytes₁, bytes₂, bytes₃, bytes₄]

theorem FakednsHeader.accepted {cidrStr text body : List UInt8} {count : BitVec 32}
    (header : FakednsHeader cidrStr file count text body) :
    fakednsLoadHeader cidrStr file = some (count.toNat, body) := by
  obtain ⟨bytes, fits, cidr⟩ := header
  have magic : fakednsMagic < 256 ^ 4 := by decide
  have version : fakednsVersion < 256 ^ 4 := by decide
  have number : count.toNat < 256 ^ 4 := count.isLt
  have small : text.length < 256 ^ 2 := by omega
  subst bytes
  simp only [fakednsLoadHeader, freadLe_fwriteLe magic, freadLe_fwriteLe version,
    freadLe_fwriteLe number, freadLe_fwriteLe small, Option.bind_eq_bind, Option.bind_some, ne_eq,
    not_true, if_false]
  rw [if_neg (by omega), if_neg (by rw [List.length_append]; omega), List.take_left, List.drop_left,
    if_neg (not_not.mpr cidr)]

end Header

section Records

theorem FakednsRecord.length_le (record : FakednsRecord) (rest : List UInt8) :
    6 + record.domain.length ≤ (record.bytes ++ rest).length := by
  rw [FakednsRecord.bytes, List.length_append, List.length_append, List.length_append, fwriteLe_length,
    fwriteLe_length]
  omega

/-- A record starts with its length: no other length is at the front of a file
that has a record there. -/
theorem FakednsRecord.read (record : FakednsRecord) (rest : List UInt8) :
    freadLe 4 (record.bytes ++ rest) =
        some (record.ip.toNat, fwriteLe 2 record.domain.length ++ (record.domain ++ rest)) ∧
      freadLe 2 (fwriteLe 2 record.domain.length ++ (record.domain ++ rest)) =
        some (record.domain.length, record.domain ++ rest) := by
  have ip : record.ip.toNat < 256 ^ 4 := record.ip.isLt
  have length : record.domain.length < 256 ^ 2 := record.fits
  rw [FakednsRecord.bytes, List.append_assoc, List.append_assoc]
  exact ⟨freadLe_fwriteLe ip, freadLe_fwriteLe length⟩

theorem fakednsRecords_short {left : Nat} (short : file.length < 6 ∨ ∃ ip dlen rest rest',
    freadLe 4 file = some (ip, rest) ∧ freadLe 2 rest = some (dlen, rest') ∧ rest'.length < dlen) :
    FakednsRecords (left + 1) file [] := by
  refine .short fun record rest same => ?_
  subst same
  rcases short with few | ⟨ip, dlen, rest₁, rest₂, first, second, few⟩
  · have long := record.length_le rest
    omega
  · obtain ⟨first', second'⟩ := record.read rest
    rw [first'] at first
    cases first
    rw [second'] at second
    cases second
    rw [List.length_append] at few
    omega

/-- Two numbers and as many bytes as the second tells are a record. -/
theorem FakednsRecord.of_read {ip dlen : Nat} {file₁ file₂ : List UInt8}
    (first : freadLe 4 file = some (ip, file₁)) (second : freadLe 2 file₁ = some (dlen, file₂))
    (enough : dlen ≤ file₂.length) : ∃ record : FakednsRecord, file = record.bytes ++ file₂.drop dlen := by
  obtain ⟨bytes₁, ipFits⟩ := freadLe_some first
  obtain ⟨bytes₂, dlenFits⟩ := freadLe_some second
  have value : (BitVec.ofNat 32 ip).toNat = ip := by
    rw [BitVec.toNat_ofNat]
    exact Nat.mod_eq_of_lt ipFits
  have length : (file₂.take dlen).length = dlen := List.length_take_of_le enough
  refine ⟨⟨BitVec.ofNat 32 ip, file₂.take dlen, length.symm ▸ dlenFits⟩, ?_⟩
  simp only [FakednsRecord.bytes, value, length]
  rw [List.append_assoc, List.take_append_drop, List.append_assoc, ← bytes₂, bytes₁]

variable {memory : Nat → Bool} {left i : Nat}

/-- A turn of the loop takes one record. -/
theorem fakednsLoadEntries_record (record : FakednsRecord) (rest : List UInt8) :
    fakednsLoadEntries now (fun _ => true) memory (left + 1) i (record.bytes ++ rest) s =
      fakednsLoadEntries now (fun _ => true) memory left (i + 1) rest
        (fakednsLoadRecord now memory s (record, i)) := by
  obtain ⟨first, second⟩ := record.read rest
  have enough : ¬(record.domain ++ rest).length < record.domain.length := by
    rw [List.length_append]
    omega
  simp only [fakednsLoadEntries, first, second, BitVec.ofNat_toNat, BitVec.setWidth_eq, List.drop_left,
    List.take_left, if_neg enough, not_true, if_false, fakednsLoadRecord]
  split
  · rename_i outside
    have outside : ¬s.InRange record.ip := by
      rw [Fakedns.InRange, not_and_or, BitVec.not_lt]
      exact outside
    rw [if_neg fun both => outside both.1]
  · rename_i inside
    have inside : s.InRange record.ip := by
      rw [not_or, not_not, ge_iff_le, BitVec.not_le] at inside
      exact inside
    split
    · rename_i long
      rw [if_neg fun both => absurd both.2 (Nat.not_lt.mpr long)]
    · rename_i short
      rw [if_pos ⟨inside, Nat.lt_of_not_le short⟩]

/-- A record that the end of the file cuts off is the last thing in it. -/
theorem fakednsLoadEntries_cut {ip dlen : Nat} {file₁ file₂ : List UInt8}
    (first : freadLe 4 file = some (ip, file₁)) (second : freadLe 2 file₁ = some (dlen, file₂))
    (cut : file₂.length < dlen) :
    fakednsLoadEntries now (fun _ => true) memory (left + 1) i file s = s := by
  have gone : file₂.drop dlen = [] := List.drop_of_length_le (Nat.le_of_lt cut)
  have ended : fakednsLoadEntries now (fun _ => true) memory left (i + 1) [] s = s := by
    cases left <;> rfl
  simp only [fakednsLoadEntries, first, second, gone, ended, not_true, if_false, if_pos cut]
  split
  · rfl
  · split <;> rfl

/-- The loop over the entries takes the whole records one after the other. -/
theorem fakednsLoadEntries_records (now : BitVec 32) (memory : Nat → Bool) (left i : Nat)
    (file : List UInt8) (s : Fakedns) : ∃ records, FakednsRecords left file records ∧
    fakednsLoadEntries now (fun _ => true) memory left i file s =
      (records.zipIdx i).foldl (fakednsLoadRecord now memory) s := by
  induction left generalizing i file s with
  | zero => exact ⟨[], .counted file, rfl⟩
  | succ left ih =>
    cases first : freadLe 4 file with
    | none =>
      have few := freadLe_none first
      exact ⟨[], fakednsRecords_short (Or.inl (by omega)), by simp only [fakednsLoadEntries, first]; rfl⟩
    | some read =>
      obtain ⟨ip, file₁⟩ := read
      obtain ⟨bytes₁, _⟩ := freadLe_some first
      cases second : freadLe 2 file₁ with
      | none =>
        have few := freadLe_none second
        refine ⟨[], fakednsRecords_short (Or.inl ?_), by simp only [fakednsLoadEntries, first, second]; rfl⟩
        rw [bytes₁, List.length_append, fwriteLe_length]
        omega
      | some read =>
        obtain ⟨dlen, file₂⟩ := read
        by_cases cut : file₂.length < dlen
        · exact ⟨[], fakednsRecords_short (Or.inr ⟨ip, dlen, file₁, file₂, first, second, cut⟩),
            fakednsLoadEntries_cut first second cut⟩
        · obtain ⟨record, bytes⟩ := FakednsRecord.of_read first second (Nat.not_lt.mp cut)
          obtain ⟨records, whole, loaded⟩ :=
            ih (i + 1) (file₂.drop dlen) (fakednsLoadRecord now memory s (record, i))
          rw [bytes]
          refine ⟨record :: records, .record record whole, ?_⟩
          rw [fakednsLoadEntries_record, loaded, List.zipIdx_cons, List.foldl_cons]

end Records

/-- A file without a header for the pool changes nothing. Of any other the
whole records are stored in order, but for those out of range or too long. -/
theorem fakedns_load_any {cidrStr : List UInt8} (start : fakednsInit cidrStr true = some s₀)
    (reached : FakednsReached hash s₀ s) (file : List UInt8) (now : BitVec 32) (memory : Nat → Bool) :
    (∀ seek, (∀ off entry, (fakednsLoad s file now seek memory).pool off = some entry →
        off < s.poolSize ∧ entry.ip = s.address off ∧ entry.domain.length < fakednsMaxDomainLen) ∧
      (fakednsLoad s file now seek memory).poolUsed.toNat =
        (fakednsLoad s file now seek memory).occupied) ∧
    (∀ seek, (∀ count text body, ¬FakednsHeader s.cidrStr file count text body) →
      fakednsLoad s file now seek memory = s) ∧
    ∀ count text body, FakednsHeader s.cidrStr file count text body →
      ∃ records, FakednsRecords count.toNat body records ∧
        fakednsLoad s file now (fun _ => true) memory =
          records.zipIdx.foldl (fakednsLoadRecord now memory) s := by
  have shape := reached.shape (.init start)
  refine ⟨fun seek => ?_, fun seek other => ?_, fun count text body header => ?_⟩
  · have after := shape.load file now seek memory
    have range : (fakednsLoad s file now seek memory).range = s.range := by
      unfold fakednsLoad
      split
      · rfl
      · exact fakednsLoadEntries_range ..
    simp only [Fakedns.range, Prod.mk.injEq] at range
    refine ⟨fun off entry holds => ?_, after.used⟩
    obtain ⟨bound, ip⟩ := after.addressed off entry holds
    rw [Fakedns.address, range.1] at ip
    exact ⟨range.2.2.1 ▸ bound, ip, after.short off entry holds⟩
  · cases read : fakednsLoadHeader s.cidrStr file with
    | none => rw [fakednsLoad, read]
    | some accepted =>
      obtain ⟨count, text, _, header⟩ := fakednsLoadHeader_some read
      exact absurd header (other count text _)
  · rw [fakednsLoad, header.accepted]
    exact fakednsLoadEntries_records now memory _ 0 body s

section Padded

/-- The CIDR of `slash24` with the NUL behind it counted too, and a record for `a`. -/
def paddedText : List UInt8 := slash24.cidrStr ++ [0]

def paddedRecord : FakednsRecord := ⟨10, [97], by decide⟩

def paddedFile : List UInt8 :=
  fwriteLe 4 fakednsMagic ++ (fwriteLe 4 fakednsVersion ++ (fwriteLe 4 1 ++
    (fwriteLe 2 paddedText.length ++ (paddedText ++ paddedRecord.bytes))))

theorem paddedFile_header : FakednsHeader slash24.cidrStr paddedFile 1 paddedText paddedRecord.bytes :=
  ⟨rfl, by decide, by decide⟩

/-- The record of the file is stored. -/
theorem fakedns_load_any_padded : ∃ records, FakednsRecords 1 paddedRecord.bytes records ∧
    fakednsLoad slash24 paddedFile 0 (fun _ => true) (fun _ => true) =
      records.zipIdx.foldl (fakednsLoadRecord 0 fun _ => true) slash24 :=
  have start : fakednsInit slash24.cidrStr true = some slash24 := rfl
  (fakedns_load_any start (FakednsReached.init : FakednsReached sameHash _ _) paddedFile 0
    fun _ => true).2.2 1 _ _ paddedFile_header

/-- A CIDR length other than that of the pool's CIDR does not make a file be
ignored: only the text up to its first NUL is compared. -/
theorem fakedns_load_padded : fakednsInit slash24.cidrStr true = some slash24 ∧
    FakednsHeader slash24.cidrStr paddedFile 1 paddedText paddedRecord.bytes ∧
    paddedText.length ≠ slash24.cidrStr.length ∧
    fakednsLoad slash24 paddedFile 0 (fun _ => true) (fun _ => true) ≠ slash24 := by
  refine ⟨rfl, paddedFile_header, by decide, fun same => ?_⟩
  have stored : ((fakednsLoad slash24 paddedFile 0 (fun _ => true) fun _ => true).pool 0).isSome = true := by
    decide
  rw [same] at stored
  cases stored

end Padded

end Tproxy
