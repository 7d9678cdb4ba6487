import Tproxy.Fakedns.Lookup

namespace Tproxy

abbrev fakednsMruSize : Nat := 8

/-- `fakedns_mru_entry_t`; `domain` as in `FakednsEntry`. -/
structure FakednsMruEntry where
  ip : BitVec 32
  version : BitVec 32
  valid : Bool
  domain : List UInt8

/-- The cache of one thread. The pointers are indices of the data; before
`init` they are NULL and not read. -/
structure FakednsMru where
  data : Fin fakednsMruSize → FakednsMruEntry
  ptrs : Fin fakednsMruSize → Fin fakednsMruSize
  init : Bool

/-- The thread-local memory at the start of a thread. -/
def fakednsMruZero : FakednsMru where
  data _ := ⟨0, 0, false, []⟩
  ptrs _ := 0
  init := false

/-- The pointers after the one at `i` was moved to the front. -/
def fakednsMoveToFront (ptrs : Fin fakednsMruSize → Fin fakednsMruSize) (i : Fin fakednsMruSize) :
    Fin fakednsMruSize → Fin fakednsMruSize := fun j =>
  if j.val = 0 then ptrs i
  else if j ≤ i then ptrs ⟨j.val - 1, Nat.lt_of_le_of_lt (Nat.sub_le ..) j.isLt⟩
  else ptrs j

/-- Where the pointer at `j` was before the one at `i` was moved to the front. -/
def fakednsFrontSource (i j : Fin fakednsMruSize) : Fin fakednsMruSize :=
  if j.val = 0 then i
  else if j ≤ i then ⟨j.val - 1, Nat.lt_of_le_of_lt (Nat.sub_le ..) j.isLt⟩
  else j

def fakednsIsFakeip (s : Fakedns) (ip : BitVec 32) : Bool :=
  s.poolSize ≠ 0 && htonl ip &&& s.fakeipMaskHost = s.fakeipNetHost

/-- The address has a slot. -/
def Fakedns.InRange (s : Fakedns) (ip : BitVec 32) : Prop :=
  htonl ip &&& s.fakeipMaskHost = s.fakeipNetHost ∧ htonl ip - s.fakeipNetHost < s.poolSize

/-- The pointer array is set up on the first use of a thread. -/
def fakednsMruInit (m : FakednsMru) : FakednsMru :=
  if m.init then m else { m with ptrs := id, init := true }

/-- The fast path: what the cache answers, and the cache after it. -/
def fakednsMruLookup (s : Fakedns) (m : FakednsMru) (ip offset : BitVec 32) (bufLen : Nat) :
    Option (List UInt8) × FakednsMru :=
  match (List.finRange fakednsMruSize).find? fun i =>
    (m.data (m.ptrs i)).valid && (m.data (m.ptrs i)).ip = ip with
  | none => (none, m)
  | some i =>
    let item := m.data (m.ptrs i)
    if (s.pool offset).all fun entry => entry.version ≠ item.version then
      (none, { m with data := Function.update m.data (m.ptrs i) { item with valid := false } })
    else
      (some (strncopy item.domain (bufLen - 1)), { m with ptrs := fakednsMoveToFront m.ptrs i })

/-- The slow path, with the insertion at the front of the cache. -/
def fakednsPoolLookup (s : Fakedns) (m : FakednsMru) (ip offset : BitVec 32) (bufLen : Nat) :
    Option (List UInt8) × FakednsMru :=
  match s.pool offset with
  | none => (none, m)
  | some entry =>
    let tmpDomain := strncopy entry.domain (fakednsMaxDomainLen - 1)
    let evicted := m.ptrs (Fin.last 7)
    (some (tmpDomain.take (if tmpDomain.length ≥ bufLen then bufLen - 1 else tmpDomain.length)),
      { m with
        ptrs := fakednsMoveToFront m.ptrs (Fin.last 7)
        data := Function.update m.data evicted ⟨ip, entry.version, true, tmpDomain⟩ })

/-- `fakedns_reverse_lookup` into a buffer of `bufLen` bytes, which is not
NULL: the string in the buffer, or false. -/
def fakednsReverseLookup (s : Fakedns) (m : FakednsMru) (ip : BitVec 32) (bufLen : Nat) :
    Option (List UInt8) × FakednsMru :=
  let ipHost := htonl ip
  let offset := ipHost - s.fakeipNetHost
  if bufLen = 0 then (none, m)
  else if ipHost &&& s.fakeipMaskHost ≠ s.fakeipNetHost then (none, m)
  else if offset ≥ s.poolSize then (none, m)
  else
    match fakednsMruLookup s (fakednsMruInit m) ip offset bufLen with
    | (some domain, m) => (some domain, m)
    | (none, m) => fakednsPoolLookup s m ip offset bufLen

end Tproxy
