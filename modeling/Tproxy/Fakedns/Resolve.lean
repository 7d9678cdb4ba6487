import Tproxy.Fakedns.Threads
import Tproxy.Udp.Ingress

namespace Tproxy

/-- `sin_addr.s_addr`, as it is read from the first four bytes of an address. -/
def sinAddr (addr : List UInt8) : BitVec 32 :=
  BitVec.ofNat 32 ((addr.take 4).foldr (fun byte value => byte.toNat + 256 * value) 0)

/-- `fakedns_try_resolve`: the domain and `is_miss`, with the cache of the thread. -/
def fakednsTryResolve (s : Fakedns) (m : FakednsMru) (ipNet : BitVec 32) :
    (Option (List UInt8) × Bool) × FakednsMru :=
  if fakednsIsFakeip s ipNet = false then ((none, false), m)
  else
    match fakednsReverseLookup s m ipNet fakednsMaxDomainLen with
    | (some domain, m) => ((some domain, false), m)
    | (none, m) => ((none, true), m)

/-- What `get_tcp_orig_dstaddr` stores: the family is the system's. -/
structure TcpOrigDst extends Skaddr where
  family : Nat

/-- The domain of `tcp_proxy_resolve_target`, or `none` to drop the connection. -/
def tcpProxyFakeDomain (fakednsEnabled isIpv4 : Bool) (s : Fakedns) (m : FakednsMru) (skaddr : TcpOrigDst) :
    Option (Option (List UInt8)) × FakednsMru :=
  if fakednsEnabled && isIpv4 then
    match fakednsTryResolve s m (sinAddr skaddr.addr) with
    | ((fakeDomain, isMiss), m) => (if isMiss then none else some fakeDomain, m)
  else (some none, m)

/-- `tcp_proxy_resolve_target`, with `nameSize` bytes for `u.domain.name`; `none` drops the
connection. -/
def tcpProxyResolveTarget (fakednsEnabled : Bool) (nameSize : Nat) (isIpv4 : Bool) (s : Fakedns) (m : FakednsMru)
    (skaddr : Option TcpOrigDst) : Option Ss2022Addr × FakednsMru :=
  match skaddr with
  | none => (none, m)
  | some skaddr =>
    match tcpProxyFakeDomain fakednsEnabled isIpv4 s m skaddr with
    | (none, m) => (none, m)
    | (some (some fakeDomain), m) =>
      if fakeDomain.length = 0 ∨ fakeDomain.length > nameSize then (none, m)
      else (some (.domain (swapPort skaddr.port) (ss2022DomainName fakeDomain)), m)
    | (some none, m) =>
      if skaddr.family = afInet then (some (.ipv4 (swapPort skaddr.port) (skaddr.addr.take 4)), m)
      else (some (.ipv6 (swapPort skaddr.port) (skaddr.addr.take 16)), m)

/-- The target that is meant by a destination: a fake address stands for the name
in its slot, and one without a name for nothing. An IPv6 address is no fake one. -/
def Fakedns.target (s : Fakedns) (isIpv4 : Bool) (dst : Skaddr) : Option Ss2022Addr :=
  if isIpv4 = false then some (.ipv6 (swapPort dst.port) (dst.addr.take 16))
  else if fakednsIsFakeip s (sinAddr dst.addr) = false then
    some (.ipv4 (swapPort dst.port) (dst.addr.take 4))
  else
    match s.read (sinAddr dst.addr) fakednsMaxDomainLen with
    | none => none
    | some name => if name = [] then none else some (.domain (swapPort dst.port) name)

end Tproxy
