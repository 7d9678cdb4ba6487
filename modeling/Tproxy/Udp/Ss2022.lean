import Mathlib.Logic.Basic

namespace Tproxy

/-- `ss2022_addr`, with the port in host byte order. -/
inductive Ss2022Addr
  | ipv4 (port : Nat) (addr : List UInt8)
  | ipv6 (port : Nat) (addr : List UInt8)
  | domain (port : Nat) (name : List UInt8)
deriving DecidableEq

/-- The bytes of `u.domain.name` that `u.domain.len` counts, which is a single byte. -/
def ss2022DomainName (name : List UInt8) : List UInt8 := name.take (name.length % 256)

theorem ss2022DomainName_of_lt {name : List UInt8} (short : name.length < 256) :
    ss2022DomainName name = name := by
  rw [ss2022DomainName, Nat.mod_eq_of_lt short, List.take_length]

/-- The datagram half of the shadowsocks 2022 client library, as deterministic
stateful functions. -/
structure Ss2022Udp where
  Addr : Type
  Session : Type
  address : Ss2022Addr → Addr
  sealDatagram : Session → Addr → List UInt8 → Session × Option (List UInt8)
  openDatagram : Session → List UInt8 → Session × Option (List UInt8)

end Tproxy
