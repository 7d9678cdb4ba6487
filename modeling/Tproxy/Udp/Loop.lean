import Tproxy.Udp.Reply

namespace Tproxy

/-- A second of `ev_tstamp`. -/
def tstampSecond : EvTstamp := 1000000

def udpGcIsIdle (now lastActive timeout : EvTstamp) : Bool := now - lastActive ≥ timeout

def udpGcTproxyTimeout (cfg : UdpConfig) : EvTstamp := cfg.idletimeoutSec * tstampSecond / 2

/-- The body of the two session sweeps. -/
def udpGcVisitSession (cfg : UdpConfig) (nat : UdpNat) (now timeout : EvTstamp) (w : UdpWorld)
    (cur : Nat) : UdpWorld :=
  match (w.nodes nat).record cur with
  | none => w
  | some node =>
    if udpGcIsIdle now node.lastActive timeout then udpSessionCloseIndexed cfg w node.session else w

/-- `udp_gc_sweep_fullcone_sessions` and `udp_gc_sweep_symmetric_sessions`. The
iteration reads the next entry before it closes the current one. -/
def udpGcSweepSessions (cfg : UdpConfig) (nat : UdpNat) (now timeout : EvTstamp) (w : UdpWorld) :
    UdpWorld :=
  (w.nodes nat).table.foldl (udpGcVisitSession cfg nat now timeout) w

def udpGcVisitTproxy (cfg : UdpConfig) (now timeout : EvTstamp) (w : UdpWorld) (cur : Nat) : UdpWorld :=
  match w.tproxy.record cur with
  | none => w
  | some entry => if udpGcIsIdle now entry.lastActive timeout then udpTproxyEntryClose cfg w cur else w

def udpGcSweepTproxyEntries (cfg : UdpConfig) (now timeout : EvTstamp) (w : UdpWorld) : UdpWorld :=
  w.tproxy.table.foldl (udpGcVisitTproxy cfg now timeout) w

def udpGcOnTick (cfg : UdpConfig) (w : UdpWorld) (now : EvTstamp) : UdpWorld :=
  let sessionTimeout := cfg.idletimeoutSec * tstampSecond
  let w := udpGcSweepSessions cfg .fullcone now sessionTimeout w
  let w := udpGcSweepSessions cfg .symmetric now sessionTimeout w
  udpGcSweepTproxyEntries cfg now (udpGcTproxyTimeout cfg) w

/-- `udp_fullcone_session_clear_cb` and `udp_symmetric_session_clear_cb`. -/
def udpSessionClearCb (cfg : UdpConfig) (nat : UdpNat) (w : UdpWorld) (cur : Nat) : UdpWorld :=
  match (w.nodes nat).record cur with
  | none => w
  | some node => udpSessionCloseIndexed cfg w node.session

/-- `udp_fullcone_node_clear` and `udp_symmetric_node_clear`, with their
callbacks. -/
def udpNodeClear (cfg : UdpConfig) (nat : UdpNat) (w : UdpWorld) : UdpWorld :=
  (w.nodes nat).table.foldl (udpSessionClearCb cfg nat) w

def udpTproxyEntryClear (cfg : UdpConfig) (w : UdpWorld) : UdpWorld :=
  w.tproxy.table.foldl (udpTproxyEntryClose cfg) w

def udpProxyCloseAllSessions (cfg : UdpConfig) (w : UdpWorld) : UdpWorld :=
  udpTproxyEntryClear cfg (udpNodeClear cfg .symmetric (udpNodeClear cfg .fullcone w))

/-- `udp_proxy_on_recvmsg`; no packets stand for a failed `recvmmsg`. -/
def udpProxyOnRecvmsg (cfg : UdpConfig) (w : UdpWorld)
    (packets : List (UdpIngressMsg × UdpIngressAnswer cfg)) (now : EvTstamp) : UdpWorld :=
  (packets.take udpBatchSize).foldl
    (fun w packet => udpProxyHandleIngress cfg packet.2 w packet.1 now) w

/-- A callback of the event loop, with the loop time. -/
inductive UdpEvent (cfg : UdpConfig)
  | recvmsg (packets : List (UdpIngressMsg × UdpIngressAnswer cfg)) (now : EvTstamp)
  | serverReply (session : Nat) (packets : List UdpReplyPacket) (now : EvTstamp)
  | gcTick (now : EvTstamp)
  | closeAll

def udpStep (cfg : UdpConfig) (w : UdpWorld) : UdpEvent cfg → UdpWorld
  | .recvmsg packets now => udpProxyOnRecvmsg cfg w packets now
  | .serverReply session packets now => udpRelayOnServerReply cfg w session packets now
  | .gcTick now => udpGcOnTick cfg w now
  | .closeAll => udpProxyCloseAllSessions cfg w

def udpRun (cfg : UdpConfig) (w : UdpWorld) (events : List (UdpEvent cfg)) : UdpWorld :=
  events.foldl (udpStep cfg) w

/-- The number of blocks that `run_event_loop` lets a pool grow to. -/
def UdpConfig.maxBlocks (cfg : UdpConfig) : UdpPool → Nat
  | .session => cfg.maxsize .fullcone + (if cfg.fakednsEnabled then cfg.maxsize .symmetric else 0) + 1
  | .node .fullcone => cfg.maxsize .fullcone + 1
  | .node .symmetric => if cfg.fakednsEnabled then cfg.maxsize .symmetric + 1 else 0
  | .tproxy => cfg.tproxyMaxsize + udpBatchSize

def UdpConfig.blockSize (cfg : UdpConfig) : UdpPool → Nat
  | .session => cfg.sessionSize
  | .node nat => cfg.nodeSize nat
  | .tproxy => cfg.tproxySize

theorem UdpConfig.blockSize_fits (cfg : UdpConfig) (pool : UdpPool) :
    cfg.blockSize pool + 2 * cachelineSize ≤ 2 ^ 64 := by
  cases pool with
  | session => exact cfg.sessionSize_fits
  | node nat => exact cfg.nodeSize_fits nat
  | tproxy => exact cfg.tproxySize_fits

/-- The number of blocks that `run_event_loop` reserves at once. -/
def UdpConfig.initialBlocks (cfg : UdpConfig) (pool : UdpPool) : Nat :=
  min (if pool = .node .symmetric ∧ cfg.fakednsEnabled = false then 0 else mempoolInitialSize)
    (cfg.maxBlocks pool)

/-- What the system answers to `mempool_create`. -/
structure UdpPoolAnswer (cfg : UdpConfig) (pool : UdpPool) where
  calloc : Bool
  mem : Nat → BlockHeader
  slabRaw : Option Nat
  places : SystemPlaces (mempoolEmpty mem (cfg.blockSize pool) (cfg.maxBlocks pool)
      (mempoolTotalSize_pos (cfg.blockSize_fits pool)))
    (mempoolInitial (cfg.initialBlocks pool) (cfg.maxBlocks pool)) slabRaw

def udpPoolCreate (cfg : UdpConfig) (pool : UdpPool) (answer : UdpPoolAnswer cfg pool) :
    Option MemoryPool :=
  mempoolCreate answer.calloc answer.mem answer.slabRaw (cfg.blockSize pool)
    (cfg.initialBlocks pool) (cfg.maxBlocks pool) (mempoolTotalSize_pos (cfg.blockSize_fits pool))

/-- Without fakedns the pool of the symmetric nodes stays null. -/
def udpSymmetricPoolCreate (cfg : UdpConfig) (answer : UdpPoolAnswer cfg (.node .symmetric)) :
    Option (Option MemoryPool) :=
  if cfg.fakednsEnabled then (udpPoolCreate cfg (.node .symmetric) answer).map some else some none

/-- The UDP part of `run_event_loop` before the loop; `none` when it gives up. -/
def udpWorldCreate (cfg : UdpConfig) (answer : (pool : UdpPool) → UdpPoolAnswer cfg pool) :
    Option UdpWorld := do
  let sessionPool ← udpPoolCreate cfg .session (answer .session)
  let fullconePool ← udpPoolCreate cfg (.node .fullcone) (answer (.node .fullcone))
  let symmetricPool ← udpSymmetricPoolCreate cfg (answer (.node .symmetric))
  let tproxyPool ← udpPoolCreate cfg .tproxy (answer .tproxy)
  some
    { sessions := ⟨some sessionPool, fun _ => none⟩
      nodes := fun
        | .fullcone => ⟨⟨some fullconePool, fun _ => none⟩, []⟩
        | .symmetric => ⟨⟨symmetricPool, fun _ => none⟩, []⟩
      tproxy := ⟨⟨some tproxyPool, fun _ => none⟩, []⟩
      trace := [] }

end Tproxy
