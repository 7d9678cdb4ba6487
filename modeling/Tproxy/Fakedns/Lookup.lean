import Mathlib.Algebra.Group.Nat.Defs
import Mathlib.Logic.Function.Basic
import Tproxy.Lib.CString

namespace Tproxy

def fakednsMaxDomainLen : Nat := 244

/-- `FAKEDNS_DNS_TTL`: the seconds for which an answer may be cached. -/
def fakednsDnsTtl : Nat := 3600

def fakednsEntryLifetime : Nat := 86400

def fakednsTtlRefreshThreshold : Int := 86400 * 3 / 10

/-- Most probes of a chain, whatever the size of the pool. -/
def fakednsProbeLimit : Nat := 128

/-- `fakedns_entry_t`; `domain` holds the bytes before the NUL that was
stored behind them. -/
structure FakednsEntry where
  ip : BitVec 32
  expire : BitVec 32
  version : BitVec 32
  domain : List UInt8

/-- The globals of the pool, and what was stored in each slot since it is in
use, newest first: the version counter counts these modulo 2^32. -/
structure Fakedns where
  fakeipNetHost : BitVec 32
  fakeipMaskHost : BitVec 32
  poolSize : BitVec 32
  poolUsed : BitVec 32
  maxProbes : Nat
  cidrStr : List UInt8
  pool : BitVec 32 → Option FakednsEntry
  stored : BitVec 32 → List (List UInt8)

/-- `htonl` and `ntohl` of a little-endian machine. -/
def htonl (x : BitVec 32) : BitVec 32 :=
  x.extractLsb' 0 8 ++ x.extractLsb' 8 8 ++ x.extractLsb' 16 8 ++ x.extractLsb' 24 8

/-- The bytes that `entry_set_domain` stores. -/
def entrySetDomain (domain : List UInt8) : List UInt8 :=
  domain.take (if domain.length ≥ fakednsMaxDomainLen then fakednsMaxDomainLen - 1 else domain.length)

/-- `(int32_t)(exp - now)` -/
def FakednsEntry.remaining (entry : FakednsEntry) (now : BitVec 32) : Int := (entry.expire - now).toInt

/-- What phase 1 finds: a match, or the empty slot that ended the chain, if
any, and the first expired collision. -/
inductive FakednsProbe
  | found (offset : BitVec 32) (entry : FakednsEntry)
  | missed (empty firstExpired : Option (BitVec 32))

def fakednsNextOffset (step poolMask offset : BitVec 32) : BitVec 32 := (offset + step) &&& poolMask

/-- The loop of phase 1, with the probes left. -/
def fakednsProbe (pool : BitVec 32 → Option FakednsEntry) (domain : List UInt8)
    (now step poolMask : BitVec 32) : Nat → BitVec 32 → Option (BitVec 32) → FakednsProbe
  | 0, _, firstExpired => .missed none firstExpired
  | probes + 1, offset, firstExpired =>
    match pool offset with
    | none => .missed (some offset) firstExpired
    | some entry =>
      if cStr entry.domain = cStr domain then .found offset entry
      else
        fakednsProbe pool domain now step poolMask probes (fakednsNextOffset step poolMask offset)
          (match firstExpired with
          | some first => some first
          | none => if entry.remaining now < 0 then some offset else none)

section Lookup
variable (hash : List UInt8 → BitVec 64) (s : Fakedns)

def Fakedns.poolMask : BitVec 32 := s.poolSize - 1

/-- The first slot of a name's chain, and the step between its slots. -/
def Fakedns.offset (domain : List UInt8) : BitVec 32 :=
  (hash domain &&& s.poolMask.setWidth 64).setWidth 32

def fakednsStep (domain : List UInt8) : BitVec 32 := (hash domain >>> 32).setWidth 32 ||| 1

/-- The network-order address of a slot. -/
def Fakedns.address (offset : BitVec 32) : BitVec 32 := htonl (s.fakeipNetHost + offset)

/-- Lazy update of the lifetime on a match. -/
def fakednsRefresh (offset : BitVec 32) (entry : FakednsEntry) (now : BitVec 32) : Fakedns :=
  if entry.remaining now > fakednsTtlRefreshThreshold then s
  else { s with
    pool := Function.update s.pool offset
      (some { entry with expire := now + BitVec.ofNat 32 fakednsEntryLifetime }) }

def fakednsOverwrite (offset : BitVec 32) (domain : List UInt8) (now : BitVec 32) : Fakedns :=
  { s with
    pool := Function.update s.pool offset ((s.pool offset).map fun entry => { entry with
      domain := entrySetDomain domain
      expire := now + BitVec.ofNat 32 fakednsEntryLifetime
      version := entry.version + 1 })
    stored := Function.update s.stored offset (cStr (entrySetDomain domain) :: s.stored offset) }

def fakednsInsert (offset : BitVec 32) (domain : List UInt8) (now : BitVec 32) : Fakedns :=
  { s with
    pool := Function.update s.pool offset (some {
      ip := s.address offset
      expire := now + BitVec.ofNat 32 fakednsEntryLifetime
      version := 1
      domain := entrySetDomain domain })
    poolUsed := s.poolUsed + 1
    stored := Function.update s.stored offset [cStr (entrySetDomain domain)] }

/-- `fakedns_lookup_domain` for the bytes of a name, of which `len` are
counted. `memory`: an entry can be allocated. -/
def fakednsLookupDomain (domain : List UInt8) (now : BitVec 32) (memory : Bool) :
    BitVec 32 × Fakedns :=
  if s.poolSize = 0 then (0, s)
  else
    match fakednsProbe s.pool domain now (fakednsStep hash domain) s.poolMask s.maxProbes
      (s.offset hash domain) none with
    | .found offset entry => (s.address offset, fakednsRefresh s offset entry now)
    | .missed _ (some firstExpired) =>
      (s.address firstExpired, fakednsOverwrite s firstExpired domain now)
    | .missed (some offset) none =>
      if s.poolUsed ≥ s.poolSize then (0, s)
      else if ¬memory then (0, s)
      else (s.address offset, fakednsInsert s offset domain now)
    | .missed none none => (0, s)

end Lookup

end Tproxy
