import Tproxy.Udp.Ingress

namespace Tproxy

inductive UdpEntryState
  | indexed
  | detached
deriving DecidableEq

/-- What the system, the selector and the shadowsocks library answer while one
packet is handled. `bestUdp` is the index of `server_selector_best_udp`, and `ssSession`
the cipher state of the session that the packet is sent in. -/
structure UdpIngressAnswer (cfg : UdpConfig) where
  selector : SsSelector
  bestUdp : Nat
  socket : (fds : List Nat) → FreshFd fds
  connected : Bool
  sessionMemalign : (p : MemoryPool) → PlacedSlab p
  nodeMemalign : (p : MemoryPool) → PlacedSlab p
  ctxReady : Bool
  sessionInit : Bool
  ssSession : cfg.ss2022.Session

/-- The table that a session belongs to. -/
def UdpSession.nat (s : UdpSession) : UdpNat := if s.usesFakedns then .symmetric else .fullcone

/-- The key of a session in either table. -/
def UdpSession.key (s : UdpSession) : (nat : UdpNat) → nat.Key
  | .fullcone => s.clientEndpoint
  | .symmetric => (⟨s.clientEndpoint, s.originalTargetEndpoint⟩ : UdpSymmetricKey)

/-- The session that `udp_session_create` fills in for a packet. -/
def UdpIngress.session (pkt : UdpIngress) (serverIdx fd : Nat) : UdpSession where
  serverFd := fd
  clientEndpoint := pkt.clientEndpoint
  originalTargetEndpoint := pkt.originalTargetEndpoint
  usesFakedns := pkt.usesFakedns
  serverIdx := serverIdx % 256
  node := fun _ => none

/-- The two branches of `udp_session_lookup`. -/
def udpNodeLookup (w : UdpWorld) (nat : UdpNat) (key : nat.Key) : Option Nat :=
  ((w.nodes nat).find key).bind fun n => ((w.nodes nat).record n).map UdpNode.session

def udpSessionLookup (w : UdpWorld) (pkt : UdpIngress) (symmetricKey : Option UdpSymmetricKey) :
    Option Nat :=
  match symmetricKey with
  | some key => udpNodeLookup w .symmetric key
  | none => udpNodeLookup w .fullcone pkt.clientEndpoint

/-- The assignment `node->last_active = now`. -/
def udpNodeTouch (w : UdpWorld) (nat : UdpNat) (n : Nat) (now : EvTstamp) : UdpWorld :=
  match (w.nodes nat).record n with
  | none => w
  | some node =>
    let cache := w.nodes nat
    let touched := { cache with toPoolArena := cache.write n { node with lastActive := now } }
    { w with nodes := Function.update w.nodes nat touched }

/-- `udp_session_touch`; the last case has no node to touch. -/
def udpSessionTouch (w : UdpWorld) (a : Nat) (now : EvTstamp) : UdpWorld :=
  match w.sessions.record a with
  | none => w
  | some s =>
    match s.node .fullcone, s.node .symmetric with
    | some n, _ => udpNodeTouch w .fullcone n now
    | none, some n => udpNodeTouch w .symmetric n now
    | none, none => w

/-- `udp_session_free`. -/
def udpSessionFree (cfg : UdpConfig) (w : UdpWorld) (a : Nat) : UdpWorld :=
  match w.sessions.record a with
  | none => w
  | some s =>
    { w with
      sessions := w.sessions.free a cfg.sessionSize
      trace := w.trace ++ [.closed s.serverFd, .free .session a] }

/-- An entry goes back to its pool, out of its table if it is still there. -/
def UdpCache.release {ρ : Type} (cache : UdpCache ρ) (n size : Nat) (state : UdpEntryState) :
    UdpCache ρ :=
  let cache := match state with
    | .indexed => cache.del n
    | .detached => cache
  { cache with toPoolArena := cache.free n size }

/-- The node's part of `udp_session_close`. -/
def udpNodeRelease (cfg : UdpConfig) (w : UdpWorld) (nat : UdpNat) (n : Nat)
    (state : UdpEntryState) : UdpWorld :=
  { w with
    nodes := Function.update w.nodes nat ((w.nodes nat).release n (cfg.nodeSize nat) state)
    trace := w.trace ++ [.free (.node nat) n] }

/-- `udp_session_close`; the assertion excludes the last case. -/
def udpSessionClose (cfg : UdpConfig) (w : UdpWorld) (a : Nat) (state : UdpEntryState) : UdpWorld :=
  match w.sessions.record a with
  | none => w
  | some s =>
    match s.node .fullcone, s.node .symmetric with
    | some n, _ => udpSessionFree cfg (udpNodeRelease cfg w .fullcone n state) a
    | none, some n => udpSessionFree cfg (udpNodeRelease cfg w .symmetric n state) a
    | none, none => w

def udpSessionCloseIndexed (cfg : UdpConfig) (w : UdpWorld) (a : Nat) : UdpWorld :=
  udpSessionClose cfg w a .indexed

def udpSessionCloseDetached (cfg : UdpConfig) (w : UdpWorld) (a : Nat) : UdpWorld :=
  udpSessionClose cfg w a .detached

/-- The two registration functions. A node is made for the session at `a`, and
the session of the victim, which is no longer in the table, is closed. The
flag is the return value. -/
def udpNodeRegister (cfg : UdpConfig) (memalign : (p : MemoryPool) → PlacedSlab p) (w : UdpWorld)
    (nat : UdpNat) (a : Nat) (s : UdpSession) (key : nat.Key) (now : EvTstamp) : UdpWorld × Bool :=
  let cache := w.nodes nat
  let alloced := cache.alloc memalign (cfg.nodeSize nat) ⟨key, a, now⟩
  let trace := w.trace ++ [.alloc (.node nat) alloced.2]
  match alloced.2.result with
  | none =>
    let failed := { cache with toPoolArena := alloced.1 }
    ({ w with nodes := Function.update w.nodes nat failed, trace := trace }, false)
  | some n =>
    let added := UdpCache.add { cache with toPoolArena := alloced.1 } (cfg.maxsize nat) n
    let linked := { s with node := Function.update s.node nat (some n) }
    let w := { w with
      sessions := w.sessions.write a linked
      nodes := Function.update w.nodes nat added.1
      trace := trace }
    match added.2.bind added.1.record with
    | some victim => (udpSessionCloseDetached cfg w victim.session, true)
    | none => (w, true)

def udpSessionRegisterFullcone (cfg : UdpConfig) (memalign : (p : MemoryPool) → PlacedSlab p)
    (w : UdpWorld) (a : Nat) (s : UdpSession) (now : EvTstamp) : UdpWorld × Bool :=
  udpNodeRegister cfg memalign w .fullcone a s s.clientEndpoint now

/-- `udp_session_register_symmetric`; its assertion excludes a missing key. -/
def udpSessionRegisterSymmetric (cfg : UdpConfig) (memalign : (p : MemoryPool) → PlacedSlab p)
    (w : UdpWorld) (a : Nat) (s : UdpSession) (symmetricKey : Option UdpSymmetricKey)
    (now : EvTstamp) : UdpWorld × Bool :=
  match symmetricKey with
  | some key => udpNodeRegister cfg memalign w .symmetric a s key now
  | none => (w, false)

/-- `udp_relay_connect_server`. -/
def udpRelayConnectServer {cfg : UdpConfig} (answer : UdpIngressAnswer cfg) (w : UdpWorld) : UdpWorld × Option Nat :=
  match answer.socket (openFds w.trace) with
  | none => (w, none)
  | some fd =>
    if answer.connected then (w.emit [.opened fd], some fd)
    else (w.emit [.opened fd, .closed fd], none)

/-- `udp_session_create`, once the socket `fd` is connected. -/
def udpSessionCreateOn (cfg : UdpConfig) (answer : UdpIngressAnswer cfg) (w : UdpWorld)
    (pkt : UdpIngress) (symmetricKey : Option UdpSymmetricKey) (serverIdx fd : Nat)
    (now : EvTstamp) : UdpWorld × Option Nat :=
  let s := pkt.session serverIdx fd
  let alloced := w.sessions.alloc answer.sessionMemalign cfg.sessionSize s
  let w := { w with
    sessions := alloced.1
    trace := w.trace ++ [.alloc .session alloced.2] }
  match alloced.2.result with
  | none => (w.emit [.closed fd], none)
  | some a =>
    -- both failures close the socket and give the block back
    if answer.ctxReady = false ∨ answer.sessionInit = false then (udpSessionFree cfg w a, none)
    else
      let registered := if s.usesFakedns then
          udpSessionRegisterSymmetric cfg answer.nodeMemalign w a s symmetricKey now
        else udpSessionRegisterFullcone cfg answer.nodeMemalign w a s now
      if registered.2 then (registered.1, some a) else (udpSessionFree cfg registered.1 a, none)

/-- `udp_session_create`. -/
def udpSessionCreate (cfg : UdpConfig) (answer : UdpIngressAnswer cfg) (w : UdpWorld)
    (pkt : UdpIngress) (symmetricKey : Option UdpSymmetricKey) (serverIdx : Nat)
    (now : EvTstamp) : UdpWorld × Option Nat :=
  match udpRelayConnectServer answer w with
  | (w, none) => (w, none)
  | (w, some fd) => udpSessionCreateOn cfg answer w pkt symmetricKey serverIdx fd now

/-- `udp_session_get_or_create`. -/
def udpSessionGetOrCreate (cfg : UdpConfig) (answer : UdpIngressAnswer cfg) (w : UdpWorld)
    (pkt : UdpIngress) (symmetricKey : Option UdpSymmetricKey) (now : EvTstamp) :
    UdpWorld × Option Nat :=
  match udpSessionLookup w pkt symmetricKey with
  | none => udpSessionCreate cfg answer w pkt symmetricKey answer.bestUdp now
  | some a =>
    match (w.sessions.record a).bind fun s =>
      serverSelectorUdpReplacement answer.selector s.serverIdx with
    | some serverIdx =>
      udpSessionCreate cfg answer (udpSessionCloseIndexed cfg w a) pkt symmetricKey serverIdx now
    | none => (udpSessionTouch w a now, some a)

/-- What `ss2022_udp_client_seal` makes of a payload, unless it fails. -/
def UdpIngressAnswer.sealed {cfg : UdpConfig} (answer : UdpIngressAnswer cfg) (target : Ss2022Addr)
    (payload : List UInt8) : Option (List UInt8) :=
  (cfg.ss2022.sealDatagram answer.ssSession (cfg.ss2022.address target) payload).2

/-- `udp_relay_send_to_server`, up to the outcome of `send`, which it ignores. -/
def udpRelaySendToServer {cfg : UdpConfig} (answer : UdpIngressAnswer cfg) (w : UdpWorld) (a : Nat)
    (target : Ss2022Addr) (payload : List UInt8) : UdpWorld :=
  match w.sessions.record a, answer.sealed target payload with
  | some s, some data => w.emit [.send s.serverFd data]
  | _, _ => w

/-- `udp_proxy_handle_ingress`. -/
def udpProxyHandleIngress (cfg : UdpConfig) (answer : UdpIngressAnswer cfg) (w : UdpWorld)
    (msg : UdpIngressMsg) (now : EvTstamp) : UdpWorld :=
  match udpIngressParse cfg.fakednsEnabled cfg.domainNameSize msg with
  | none => w
  | some pkt =>
    match udpSessionGetOrCreate cfg answer w pkt pkt.symmetricKey now with
    | (w, none) => w
    | (w, some a) => udpRelaySendToServer answer w a pkt.ssTarget msg.payload

end Tproxy
