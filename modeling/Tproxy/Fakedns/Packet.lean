import Tproxy.Fakedns.Query
import Tproxy.Lib.Program

namespace Tproxy

/-- The memory of `fakedns_process_query`: the bytes behind each pointer, the
pool, and the cache of the thread. -/
structure FakednsMemory where
  packet : Nat → Nat → UInt8
  dns : Fakedns
  mru : FakednsMru

abbrev FakednsProgram := Program FakednsMemory

/-- The first `n` bytes behind a pointer. -/
def FakednsMemory.bytes (mem : FakednsMemory) (p n : Nat) : List UInt8 := (List.range n).map (mem.packet p)

section Access

/-- `p[i]` of the `len` bytes behind `p`. -/
def loadByte (p len i : Nat) : FakednsProgram UInt8 := do
  let mem ← get
  if i < len then pure (mem.packet p i) else Program.fault

/-- `p[i] = byte` -/
def storeByte (p len i : Nat) (byte : UInt8) : FakednsProgram Unit := do
  let mem ← get
  if i < len then
    set { mem with packet := Function.update mem.packet p (Function.update (mem.packet p) i byte) }
  else Program.fault

/-- Some bytes are stored one after the other from `i` on. -/
def storeBytes (p len : Nat) : Nat → List UInt8 → FakednsProgram Unit
  | _, [] => pure ()
  | i, byte :: bytes => do
    storeByte p len i byte
    storeBytes p len (i + 1) bytes

/-- `memcpy` from the start of a query to the start of the buffer, from byte
`i` on, with the bytes left. -/
def copyBytes (query qlen buffer buflen : Nat) : Nat → Nat → FakednsProgram Unit
  | _, 0 => pure ()
  | i, left + 1 => do
    let byte ← loadByte query qlen i
    storeByte buffer buflen i byte
    copyBytes query qlen buffer buflen (i + 1) left

/-- `domain[dom_len++] = c` -/
def pushDomain (domain : List UInt8) (c : UInt8) : FakednsProgram (List UInt8) :=
  if domain.length < fakednsMaxDomainLen then pure (domain ++ [c]) else Program.fault

/-- The dot before a label, unless it is the first. -/
def pushDot (domain : List UInt8) : FakednsProgram (List UInt8) :=
  if domain.length > 0 then pushDomain domain 46 else pure domain

end Access

section Walk
variable (query qlen : Nat)

/-- The bytes of a label, from position `i` on, are lowered into the domain. -/
def fakednsCopyLabel : Nat → Nat → List UInt8 → FakednsProgram (List UInt8)
  | 0, _, domain => pure domain
  | left + 1, i, domain => do
    let c ← loadByte query qlen i
    let domain ← pushDomain domain (asciiLower c)
    fakednsCopyLabel left (i + 1) domain

/-- The walk over QNAME from `offset` on, with the labels that may follow: the
offset behind it and the dotted name. -/
def fakednsWalkPacket : Nat → Nat → List UInt8 → FakednsProgram (Option (Nat × List UInt8))
  | 0, offset, domain => if offset < qlen then pure none else pure (some (offset, domain))
  | labels + 1, offset, domain =>
    if offset < qlen then do
      let len ← loadByte query qlen offset
      if len = 0 then pure (some (offset + 1, domain))
      else if len > 63 then pure none
      else if offset + 1 + len.toNat > qlen then pure none
      else if domain.length + (if domain.length > 0 then 1 else 0) + len.toNat ≥ fakednsMaxDomainLen then
        pure none
      else do
        let domain ← pushDot domain
        let domain ← fakednsCopyLabel query qlen len.toNat (offset + 1) domain
        fakednsWalkPacket labels (offset + 1 + len.toNat) domain
    else pure (some (offset, domain))

end Walk

section Reply
variable (query qlen buffer buflen : Nat)

def fakednsStoreFlags (respFlags : UInt16) : FakednsProgram Unit := do
  storeByte buffer buflen 2 (respFlags >>> 8).toUInt8
  storeByte buffer buflen 3 respFlags.toUInt8

/-- The header and the question are copied, unless they are there. -/
def fakednsCopyQuestion (respLen : Nat) : FakednsProgram Unit :=
  if query ≠ buffer then copyBytes query qlen buffer buflen 0 respLen else pure ()

/-- The echo of the question, with the flags and the counts of the header. -/
def fakednsEcho (respLen : Nat) (respFlags : UInt16) : FakednsProgram Unit := do
  fakednsCopyQuestion query qlen buffer buflen respLen
  fakednsStoreFlags buffer buflen respFlags
  storeBytes buffer buflen 6 [0, 0, 0, 0, 0, 0]

/-- An answer is stored behind the question, and ANCOUNT is set. -/
def fakednsStoreAnswer (respLen : Nat) (qtype : UInt8) (rdata : List UInt8) : FakednsProgram Nat := do
  storeBytes buffer buflen respLen (fakednsAnswer qtype rdata)
  storeByte buffer buflen 7 1
  pure (respLen + (fakednsAnswer qtype rdata).length)

variable (hash : List UInt8 → BitVec 64) (now : BitVec 32) (memory : Bool)

/-- A question of class IN is answered behind its echo. -/
def fakednsAnswerPacket (respLen : Nat) (respFlags : UInt16) (domain : List UInt8) (qtype : UInt16) :
    FakednsProgram Nat :=
  if qtype = 1 then do
    let mem ← get
    let (fakeip, dns) := fakednsLookupDomain hash mem.dns domain now memory
    set { mem with dns := dns }
    if fakeip ≠ 0 then
      if respLen + 16 > buflen then pure 0
      else fakednsStoreAnswer buffer buflen respLen 1 (fwriteLe 4 fakeip.toNat)
    else
      fakednsStoreFlags buffer buflen (respFlags ||| 0x0002)
      pure respLen
  else if qtype = 12 then
    match fakednsParsePtrName domain with
    | none => pure respLen
    | some ptrIp => do
      let mem ← get
      let (ptrDomain, mru) := fakednsReverseLookup mem.dns mem.mru ptrIp fakednsMaxDomainLen
      set { mem with mru := mru }
      match ptrDomain.bind fun ptrDomain => fakednsEncodeDnsName ptrDomain (fakednsMaxDomainLen + 2) with
      | none => pure respLen
      | some rdata =>
        if respLen + 12 + rdata.length > buflen then pure 0
        else fakednsStoreAnswer buffer buflen respLen 12 rdata
  else pure respLen

/-- `fakedns_process_query` for `qlen` bytes behind `query` and `buflen` bytes
behind `buffer`, which may be the same. -/
def fakednsProcessPacket : FakednsProgram Nat :=
  if qlen < 12 ∨ buflen < qlen then pure 0
  else do
    let f₁ ← loadByte query qlen 2
    let f₀ ← loadByte query qlen 3
    let q₁ ← loadByte query qlen 4
    let q₀ ← loadByte query qlen 5
    let flags := f₁.toUInt16 <<< 8 ||| f₀.toUInt16
    if flags &&& 0xF800 ≠ 0 ∨ q₁.toUInt16 <<< 8 ||| q₀.toUInt16 ≠ 1 then pure 0
    else
      let respFlags := 0x8180 ||| flags &&& 0x0100
      match ← fakednsWalkPacket query qlen 128 12 [] with
      | none => pure 0
      | some (offset, domain) =>
        if domain.length = 0 then pure 0
        else
          let _ ← pushDomain domain 0
          if offset + 4 > qlen then pure 0
          else
            let t₁ ← loadByte query qlen offset
            let t₀ ← loadByte query qlen (offset + 1)
            let c₁ ← loadByte query qlen (offset + 2)
            let c₀ ← loadByte query qlen (offset + 3)
            if offset + 4 > buflen then pure 0
            else if c₁.toUInt16 <<< 8 ||| c₀.toUInt16 ≠ 1 then
              fakednsEcho query qlen buffer buflen (offset + 4) (respFlags ||| 0x0005)
              pure (offset + 4)
            else
              fakednsEcho query qlen buffer buflen (offset + 4) respFlags
              fakednsAnswerPacket buffer buflen hash now memory (offset + 4) respFlags domain
                (t₁.toUInt16 <<< 8 ||| t₀.toUInt16)

end Reply

end Tproxy
