import Tproxy.Fakedns.Lookup

namespace Tproxy

/-- The bytes of `cidr_str` that the copies in the globals have room for. -/
def cidrStrLen : Nat := 63

/-- `fakedns_init` for the string `cidrStr`; `memory`: the pool can be
allocated. `none`: the process exits. -/
def fakednsInit (cidrStr : List UInt8) (memory : Bool) : Option Fakedns :=
  let str := cidrStr.take cidrStrLen
  let ipStr := str.takeWhile (· ≠ 47)
  if 47 ∉ str then none
  else
    let (prefixLen, rest) := strtol (str.drop (ipStr.length + 1))
    match inetPton4 ipStr with
    | none => none
    | some ipHost =>
      if rest ≠ [] ∨ prefixLen < 8 ∨ prefixLen > 24 then none
      else if ¬memory then none
      else
        let maskHost := BitVec.allOnes 32 <<< (32 - prefixLen).toNat
        let poolSize := (1 : BitVec 32) <<< (32 - prefixLen).toNat
        some {
          fakeipNetHost := ipHost &&& maskHost
          fakeipMaskHost := maskHost
          poolSize := poolSize
          poolUsed := 0
          maxProbes := if poolSize.toNat < fakednsProbeLimit then poolSize.toNat else fakednsProbeLimit
          cidrStr := str
          pool := fun _ => none
          stored := fun _ => [] }

section Load

def fakednsMagic : Nat := 0x464E5344

def fakednsVersion : Nat := 3

/-- `fread` of one little-endian integer of `n` bytes. -/
def freadLe (n : Nat) (file : List UInt8) : Option (Nat × List UInt8) :=
  if file.length < n then none
  else some ((file.take n).foldr (fun byte value => byte.toNat + 256 * value) 0, file.drop n)

/-- The count in a header that is accepted, and what follows the header. -/
def fakednsLoadHeader (cidrStr file : List UInt8) : Option (Nat × List UInt8) := do
  let (magic, file) ← freadLe 4 file
  let (version, file) ← freadLe 4 file
  let (count, file) ← freadLe 4 file
  if magic ≠ fakednsMagic then none
  else if version ≠ fakednsVersion then none
  else
    let (cidrLen, file) ← freadLe 2 file
    if cidrLen ≥ 64 then none
    else if file.length < cidrLen then none
    else if cStr (file.take cidrLen) ≠ cStr cidrStr then none
    else some (count, file.drop cidrLen)

/-- An entry of the file is stored in its slot. -/
def fakednsLoadEntry (s : Fakedns) (ip offset : BitVec 32) (domain : List UInt8) (now : BitVec 32)
    (memory : Bool) : Fakedns :=
  let expire := now + BitVec.ofNat 32 fakednsEntryLifetime
  match s.pool offset with
  | none =>
    if ¬memory then s
    else { s with
      pool := Function.update s.pool offset (some ⟨ip, expire, 1, domain⟩)
      poolUsed := s.poolUsed + 1
      stored := Function.update s.stored offset [cStr domain] }
  | some entry => { s with
      pool := Function.update s.pool offset (some { entry with domain := domain, expire := expire })
      stored := Function.update s.stored offset [cStr domain] }

/-- The loop over the entries, with how many are left and the index of the
next. `seek`, `memory`: whether `fseek` and the allocation for an entry work. -/
def fakednsLoadEntries (now : BitVec 32) (seek memory : Nat → Bool) :
    Nat → Nat → List UInt8 → Fakedns → Fakedns
  | 0, _, _, s => s
  | left + 1, i, file, s =>
    match freadLe 4 file with
    | none => s
    | some (ip, file) =>
      match freadLe 2 file with
      | none => s
      | some (dlen, file) =>
        let ip := BitVec.ofNat 32 ip
        let offset := htonl ip - s.fakeipNetHost
        if htonl ip &&& s.fakeipMaskHost ≠ s.fakeipNetHost ∨ offset ≥ s.poolSize then
          if ¬seek i then s else fakednsLoadEntries now seek memory left (i + 1) (file.drop dlen) s
        else if dlen ≥ fakednsMaxDomainLen then
          if ¬seek i then s else fakednsLoadEntries now seek memory left (i + 1) (file.drop dlen) s
        else if file.length < dlen then s
        else
          fakednsLoadEntries now seek memory left (i + 1) (file.drop dlen)
            (fakednsLoadEntry s ip offset (file.take dlen) now (memory i))

/-- `fakedns_load` of a file with the given bytes. -/
def fakednsLoad (s : Fakedns) (file : List UInt8) (now : BitVec 32) (seek memory : Nat → Bool) :
    Fakedns :=
  match fakednsLoadHeader s.cidrStr file with
  | none => s
  | some (count, file) => fakednsLoadEntries now seek memory count 0 file s

end Load

example : (fakednsInit [49, 48, 46, 48, 46, 48, 46, 49, 47, 50, 52] true).map
    (fun s => (s.fakeipNetHost, s.poolSize)) = some (0x0A000000, 256) := by decide

end Tproxy
