import Tproxy.Lib.FdLog
import Tproxy.Lib.LruTable
import Tproxy.Mempool.Arena
import Tproxy.Selector.State
import Tproxy.Udp.Ss2022

namespace Tproxy

abbrev udpBatchSize : Nat := 16

def udpDatagramMaxsiz : Nat := 65507

def udpSs2022SealOverhead : Nat := 302

def mempoolInitialSize : Nat := 128

/-- `ev_tstamp`, as a whole number of microseconds. -/
abbrev EvTstamp := Int

def afInet : Nat := 2

def afInet6 : Nat := 10

/-- `udp_endpoint_key_t`: the port in network byte order, and 16 address bytes
of which IPv4 uses the first four. -/
structure UdpEndpointKey where
  family : Nat
  port : Nat
  addr : List UInt8
deriving DecidableEq

structure UdpSymmetricKey where
  client : UdpEndpointKey
  target : UdpEndpointKey
deriving DecidableEq

/-- The two session tables. -/
inductive UdpNat
  | fullcone
  | symmetric
deriving DecidableEq

/-- The key type of a session table. -/
def UdpNat.Key : UdpNat → Type
  | .fullcone => UdpEndpointKey
  | .symmetric => UdpSymmetricKey

instance : (nat : UdpNat) → DecidableEq nat.Key
  | .fullcone => inferInstanceAs (DecidableEq UdpEndpointKey)
  | .symmetric => inferInstanceAs (DecidableEq UdpSymmetricKey)

/-- `udp_session_t`. `node .fullcone` and `node .symmetric` are the fields
`fullcone_node` and `symmetric_node`. -/
structure UdpSession where
  serverFd : Nat
  clientEndpoint : UdpEndpointKey
  originalTargetEndpoint : UdpEndpointKey
  usesFakedns : Bool
  serverIdx : Nat
  node : UdpNat → Option Nat

/-- `udp_fullcone_node` and `udp_symmetric_node`. -/
structure UdpNode (κ : Type) where
  key : κ
  session : Nat
  lastActive : EvTstamp

structure UdpTproxyEntry where
  key : UdpEndpointKey
  udpSockfd : Nat
  lastActive : EvTstamp

/-- The fields that the `LRU_DEFINE` templates are given. -/
class LruEntry (ρ : Type) (κ : outParam Type) where
  key : ρ → κ
  lastActive : ρ → EvTstamp

instance (κ : Type) : LruEntry (UdpNode κ) κ := ⟨UdpNode.key, UdpNode.lastActive⟩

instance : LruEntry UdpTproxyEntry UdpEndpointKey := ⟨UdpTproxyEntry.key, UdpTproxyEntry.lastActive⟩

/-- A pool of table entries and the hash table of some of them, in the order
of insertion. -/
structure UdpCache (ρ : Type) extends PoolArena ρ where
  table : List Nat

section Cache

variable {ρ κ : Type} [LruEntry ρ κ] [DecidableEq κ]

/-- `LRU_DEFINE_ADD`. -/
def UdpCache.add (cache : UdpCache ρ) (maxsize : Nat) (entry : Nat) : UdpCache ρ × Option Nat :=
  let added := lruAdd (fun n => ((cache.record n).map LruEntry.lastActive).getD 0) maxsize
    cache.table entry
  ({ cache with table := added.1 }, added.2)

/-- `LRU_DEFINE_FIND`. -/
def UdpCache.find (cache : UdpCache ρ) (key : κ) : Option Nat :=
  cache.table.find? fun n => (cache.record n).any fun r => LruEntry.key r = key

end Cache

/-- `LRU_DEFINE_DEL`. -/
def UdpCache.del {ρ : Type} (cache : UdpCache ρ) (entry : Nat) : UdpCache ρ :=
  { cache with table := cache.table.erase entry }

/-- What `udp_lrucache_set_maxsize` leaves in the globals, with the options
that the event loop reads, the `sizeof` of the pooled types and of `u.domain.name`, and
the library that seals. -/
structure UdpConfig where
  cacheSize : Nat
  cacheSize_pos : 0 < cacheSize
  cacheSize_le : cacheSize ≤ 65535
  fakednsEnabled : Bool
  idletimeoutSec : Nat
  ss2022 : Ss2022Udp
  domainNameSize : Nat
  sessionSize : Nat
  nodeSize : UdpNat → Nat
  tproxySize : Nat
  sessionSize_fits : sessionSize + 2 * cachelineSize ≤ 2 ^ 64
  nodeSize_fits : ∀ nat, nodeSize nat + 2 * cachelineSize ≤ 2 ^ 64
  tproxySize_fits : tproxySize + 2 * cachelineSize ≤ 2 ^ 64

/-- `g_fullcone_cache_maxsize` and `g_symmetric_cache_maxsize`. -/
def UdpConfig.maxsize (cfg : UdpConfig) : UdpNat → Nat
  | .fullcone => cfg.cacheSize
  | .symmetric => if cfg.cacheSize * 2 > 65535 then 65535 else cfg.cacheSize * 2

/-- `g_tproxy_cache_maxsize`. -/
def UdpConfig.tproxyMaxsize (cfg : UdpConfig) : Nat :=
  if cfg.cacheSize * 4 > 65535 then 65535 else cfg.cacheSize * 4

inductive UdpPool
  | session
  | node (nat : UdpNat)
  | tproxy
deriving DecidableEq

/-- A datagram for a client: its payload and its destination. -/
structure UdpClientMsg where
  payload : List UInt8
  clientAddr : UdpEndpointKey
deriving DecidableEq

/-- What the UDP code does to the pools and the sockets. -/
inductive UdpEffect
  | alloc (pool : UdpPool) (call : PoolCall)
  | free (pool : UdpPool) (block : Nat)
  | opened (fd : Nat)
  | closed (fd : Nat)
  | send (fd : Nat) (data : List UInt8)
  | sendmmsg (fd : Nat) (msgs : List UdpClientMsg)

/-- The descriptors that are open after an effect. -/
def UdpEffect.fds (fds : List Nat) : UdpEffect → List Nat
  | .opened fd => fd :: fds
  | .closed fd => fds.erase fd
  | _ => fds

/-- The open descriptors after a list of effects. -/
def openFds (trace : List UdpEffect) : List Nat := trace.foldl UdpEffect.fds []

/-- The thread-local state of one UDP worker, and its effects so far. -/
structure UdpWorld where
  sessions : PoolArena UdpSession
  nodes : (nat : UdpNat) → UdpCache (UdpNode nat.Key)
  tproxy : UdpCache UdpTproxyEntry
  trace : List UdpEffect

def UdpWorld.emit (w : UdpWorld) (effects : List UdpEffect) : UdpWorld :=
  { w with trace := w.trace ++ effects }

end Tproxy
