import Mathlib.Logic.Function.Basic
import Tproxy.Lib.Inet
import Tproxy.Selector.State

namespace Tproxy

inductive AddrFamily
  | inet
  | inet6
deriving DecidableEq

/-- `ss2022_method_t`. -/
inductive Ss2022Method
  | aes128Gcm
  | aes256Gcm
deriving DecidableEq

/-- `IP6STRLEN`. -/
def ip6StrLen : Nat := 46

/-- `sizeof(out->psk)`. -/
def pskSize : Nat := 128

/-- The bytes of a string constant. -/
def strBytes (s : String) : List UInt8 := s.toList.map fun c => UInt8.ofNat c.toNat

/-- What `build_socket_addr` stores: the family, and address and port in network
byte order. -/
structure SockAddr where
  family : AddrFamily
  addr : List UInt8
  port : List UInt8
deriving DecidableEq

/-- The configuration of one server in `ss_server_t`. -/
structure SsServer where
  ipstr : List UInt8
  portno : Nat
  skaddr : SockAddr
  method : Ss2022Method
  psk : List UInt8
  saltLen : Nat
deriving DecidableEq

/-- `g_ss_servers` and `g_ss_server_count`. -/
structure SsServers where
  servers : Nat → SsServer
  serverCount : Nat

/-- What `printf` is given: a text and the address that it ends with, if any. -/
structure Printed where
  text : String
  addr : List UInt8
deriving DecidableEq

/-- `none` is the family -1. -/
def getIpstrFamily (ipstr : List UInt8) : Option AddrFamily :=
  if (inetPton4 ipstr).isSome then some .inet
  else if (inetPton6 ipstr).isSome then some .inet6
  else none

def buildSocketAddr (family : AddrFamily) (ipstr : List UInt8) (portno : Nat) : SockAddr where
  family := family
  addr := match family with
    | .inet => ((inetPton4 ipstr).map inetBytes4).getD []
    | .inet6 => (inetPton6 ipstr).getD []
  port := [UInt8.ofNat (portno / 256), UInt8.ofNat (portno % 256)]

/-- The address of `parse_server_group_arg`: `ipstr`, and `p` behind its colon. -/
def parseServerGroupAddr (p : List UInt8) : Except Printed (List UInt8 × List UInt8) :=
  if p.head? = some 91 then
    let rb := p.tail.dropWhile (· ≠ 93)
    if rb = [] ∨ rb.tail.head? ≠ some 58 then
      .error ⟨"[parse_command_args] invalid -g format (expected [ipv6]:port:method:psk)", []⟩
    else
      let ipstr := p.tail.takeWhile (· ≠ 93)
      if ipstr.length = 0 ∨ ipstr.length ≥ ip6StrLen then
        .error ⟨"[parse_command_args] invalid -g IPv6 address length", []⟩
      else if getIpstrFamily ipstr ≠ some .inet6 then
        .error ⟨"[parse_command_args] invalid -g IPv6 address: ", ipstr⟩
      else .ok (ipstr, rb.drop 2)
  else
    let colonCount := p.count 58
    let colon := p.dropWhile (· ≠ 58)
    if colon = [] then
      .error ⟨"[parse_command_args] invalid -g format (expected addr:port:method:psk)", []⟩
    else
      let ipstr := p.takeWhile (· ≠ 58)
      if ipstr.length = 0 ∨ ipstr.length ≥ ip6StrLen then
        .error ⟨"[parse_command_args] invalid -g address length", []⟩
      else if getIpstrFamily ipstr = none then
        if colonCount > 3 then
          .error ⟨"[parse_command_args] invalid -g IPv6 format (expected [ipv6]:port:method:psk)", []⟩
        else .error ⟨"[parse_command_args] invalid -g IP address: ", ipstr⟩
      else .ok (ipstr, colon.drop 1)

/-- The port, and `p` behind its colon. -/
def parseServerGroupPort (p : List UInt8) : Except Printed (Nat × List UInt8) :=
  if (p.head?.map isDigit) ≠ some true then
    .error ⟨"[parse_command_args] invalid -g port number", []⟩
  else
    let (port, next) := strtoul p
    if next.head? ≠ some 58 ∨ port = 0 ∨ port > 65535 then
      .error ⟨"[parse_command_args] invalid -g port number", []⟩
    else .ok (port, next.drop 1)

/-- `m128` and `m256`. -/
def methodPrefix : Ss2022Method → List UInt8
  | .aes128Gcm => strBytes "2022-blake3-aes-128-gcm:"
  | .aes256Gcm => strBytes "2022-blake3-aes-256-gcm:"

/-- The method, and `p` behind its colon. -/
def parseServerGroupMethod (p : List UInt8) : Except Printed (Ss2022Method × List UInt8) :=
  if (methodPrefix .aes128Gcm).isPrefixOf p then
    .ok (.aes128Gcm, p.drop (methodPrefix .aes128Gcm).length)
  else if (methodPrefix .aes256Gcm).isPrefixOf p then
    .ok (.aes256Gcm, p.drop (methodPrefix .aes256Gcm).length)
  else .error ⟨"[parse_command_args] invalid -g method", []⟩

section Key
variable (ctxInit : Ss2022Method → List UInt8 → Bool)

/-- The checks of the key. `ctxInit` says when `ss2022_client_ctx_init` succeeds. -/
def parseServerGroupPsk (method : Ss2022Method) (p : List UInt8) : Except Printed Unit :=
  if p.length = 0 ∨ p.length ≥ pskSize then
    .error ⟨"[parse_command_args] invalid -g PSK length", []⟩
  else if ctxInit method p = false then
    .error ⟨"[parse_command_args] invalid -g PSK for method", []⟩
  else .ok ()

/-- `parse_server_group_arg` between the check of the count and the writes: what
it then stores in `out`. -/
def parseServerGroup (str : List UInt8) : Except Printed SsServer := do
  let (ipstr, p) ← parseServerGroupAddr (cStr str)
  let (port, p) ← parseServerGroupPort p
  let (method, p) ← parseServerGroupMethod p
  parseServerGroupPsk ctxInit method p
  let portno := port % 2 ^ 16
  .ok {
    ipstr := ipstr
    portno := portno
    skaddr := buildSocketAddr ((getIpstrFamily ipstr).getD .inet6) ipstr portno
    method := method
    psk := p
    saltLen := if method = .aes256Gcm then 32 else 16 }

/-- `parse_server_group_arg` on the globals; an error is what it prints before
it returns false. -/
def parseServerGroupArg (g : SsServers) (str : List UInt8) : Except Printed Unit × SsServers :=
  if g.serverCount ≥ ssMaxServers then
    (.error ⟨"[parse_command_args] too many -g servers (max 8)", []⟩, g)
  else
    match parseServerGroup ctxInit str with
    | .error printed => (.error printed, g)
    | .ok out =>
      (.ok (), { servers := Function.update g.servers g.serverCount out
                 serverCount := g.serverCount + 1 })

end Key

/-- The parts of an argument `addr:port:method:psk`. -/
structure ServerGroup where
  family : AddrFamily
  addr : List UInt8
  port : List UInt8
  method : Ss2022Method
  psk : List UInt8

/-- The address as it is written: IPv6 stands in brackets. -/
def addrText : AddrFamily → List UInt8 → List UInt8
  | .inet, addr => addr
  | .inet6, addr => 91 :: addr ++ [93]

def AddrFamily.Literal : AddrFamily → List UInt8 → Prop
  | .inet, addr => (inetPton4 addr).isSome
  | .inet6, addr => (inetPton6 addr).isSome

def ServerGroup.text (g : ServerGroup) : List UInt8 :=
  addrText g.family g.addr ++ 58 :: (g.port ++ 58 :: (methodPrefix g.method ++ g.psk))

/-- The arguments that the help text describes. -/
structure ServerGroup.WellFormed (ctxInit : Ss2022Method → List UInt8 → Bool) (g : ServerGroup) :
    Prop where
  literal : g.family.Literal g.addr
  short : g.addr.length < ip6StrLen
  digits : g.port ≠ [] ∧ ∀ c ∈ g.port, isDigit c = true
  range : 1 ≤ digitsValue g.port ∧ digitsValue g.port ≤ 65535
  key : 1 ≤ g.psk.length ∧ g.psk.length ≤ 127
  accepted : ctxInit g.method g.psk = true

/-- The record of a server with these parts. -/
def ServerGroup.record (g : ServerGroup) : SsServer where
  ipstr := g.addr
  portno := digitsValue g.port
  skaddr := buildSocketAddr g.family g.addr (digitsValue g.port)
  method := g.method
  psk := g.psk
  saltLen := match g.method with
    | .aes128Gcm => 16
    | .aes256Gcm => 32

end Tproxy
