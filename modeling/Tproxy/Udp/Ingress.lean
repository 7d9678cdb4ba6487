import Tproxy.Udp.Session

namespace Tproxy

/-- The port and the address bytes of a socket address. -/
structure Skaddr where
  port : Nat
  addr : List UInt8

/-- `htons` and `ntohs`. -/
def swapPort (port : Nat) : Nat := port % 256 * 256 + port / 256 % 256

/-- `udp_ingress_t`. -/
structure UdpIngress where
  clientEndpoint : UdpEndpointKey
  originalTargetEndpoint : UdpEndpointKey
  usesFakedns : Bool
  ssTarget : Ss2022Addr

/-- A received datagram: the address family of the listener, the sender (`none`
if its length fits no family), the original destination from the control
message, what `fakedns_try_resolve` says of the latter (the domain and
`is_miss`), and the payload. -/
structure UdpIngressMsg where
  isIpv4 : Bool
  sender : Option Skaddr
  origDst : Option Skaddr
  resolved : Option (List UInt8) × Bool
  payload : List UInt8

def udpEndpointFromSkaddr (skaddr : Skaddr) (isIpv4 : Bool) : UdpEndpointKey :=
  if isIpv4 then ⟨afInet, skaddr.port, skaddr.addr.take 4 ++ List.replicate 12 0⟩
  else ⟨afInet6, skaddr.port, skaddr.addr.take 16⟩

/-- `udp_endpoint_from_addr`; a domain leaves the endpoint all zero. -/
def udpEndpointFromAddr : Ss2022Addr → UdpEndpointKey
  | .ipv4 port addr => ⟨afInet, swapPort port, addr.take 4 ++ List.replicate 12 0⟩
  | .ipv6 port addr => ⟨afInet6, swapPort port, addr.take 16⟩
  | .domain _ _ => ⟨0, 0, List.replicate 16 0⟩

/-- `udp_ingress_resolve_fakedns`: `none` drops the packet. -/
def udpIngressResolveFakedns (fakednsEnabled : Bool) (msg : UdpIngressMsg) :
    Option (Option (List UInt8)) :=
  if fakednsEnabled = false ∨ msg.isIpv4 = false then some none
  else if msg.resolved.2 then none
  else some msg.resolved.1

/-- The target in the shadowsocks request; `none` for a domain that does not fit into
the `nameSize` bytes of `u.domain.name`. -/
def udpIngressTarget (nameSize : Nat) (isIpv4 : Bool) (target : Skaddr) :
    Option (List UInt8) → Option Ss2022Addr
  | some name =>
    if name.length = 0 ∨ name.length > nameSize then none
    else some (.domain (swapPort target.port) (ss2022DomainName name))
  | none =>
    if isIpv4 then some (.ipv4 (swapPort target.port) (target.addr.take 4))
    else some (.ipv6 (swapPort target.port) (target.addr.take 16))

/-- `udp_ingress_parse`; `none` drops the packet. -/
def udpIngressParse (fakednsEnabled : Bool) (nameSize : Nat) (msg : UdpIngressMsg) : Option UdpIngress := do
  let client ← msg.sender
  let originalTarget ← msg.origDst
  let fakeDomain ← udpIngressResolveFakedns fakednsEnabled msg
  let ssTarget ← udpIngressTarget nameSize msg.isIpv4 originalTarget fakeDomain
  if msg.payload.length > udpDatagramMaxsiz - udpSs2022SealOverhead then none
  else
    some
      { clientEndpoint := udpEndpointFromSkaddr client msg.isIpv4
        originalTargetEndpoint := udpEndpointFromSkaddr originalTarget msg.isIpv4
        usesFakedns := fakeDomain.isSome
        ssTarget := ssTarget }

/-- The key that `udp_proxy_handle_ingress` makes for a symmetric session. -/
def UdpIngress.symmetricKey (pkt : UdpIngress) : Option UdpSymmetricKey :=
  if pkt.usesFakedns then some ⟨pkt.clientEndpoint, pkt.originalTargetEndpoint⟩ else none

/-- Only with fakedns enabled does a packet get a symmetric session. -/
theorem udpIngressParse_fakedns {fakednsEnabled : Bool} {nameSize : Nat} {msg : UdpIngressMsg}
    {pkt : UdpIngress} (parsed : udpIngressParse fakednsEnabled nameSize msg = some pkt)
    (uses : pkt.usesFakedns = true) :
    fakednsEnabled = true := by
  simp only [udpIngressParse, Option.bind_eq_bind, Option.bind_eq_some_iff] at parsed
  obtain ⟨client, _, target, _, domain, resolved, ssTarget, _, rest⟩ := parsed
  split at rest
  · cases rest
  · cases rest
    simp only at uses
    unfold udpIngressResolveFakedns at resolved
    split at resolved
    · cases resolved
      cases uses
    · rename_i on
      simp only [not_or, Bool.not_eq_false] at on
      exact on.1

end Tproxy
