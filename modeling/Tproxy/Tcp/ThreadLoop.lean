import Tproxy.Tcp.ThreadHandshake

namespace Tproxy

variable {S : Ss2022}

/-- The answers to `tcp_session_create`: the slab for the session, a zeroed
client, and what follows for each server. -/
structure TcpCreateAnswer (S : Ss2022) where
  memalign : (p : MemoryPool) → PlacedSlab p
  ssClient : S.Enc × S.Dec
  servers : List (CreateAnswer S)

/-- The answers to one pass of the loop of `tcp_proxy_on_accept`. The target
is `none` if `tcp_proxy_resolve_target` fails. -/
structure TcpAcceptAnswer (S : Ss2022) where
  socket : (fds : List Nat) → FreshFd fds
  errno : Errno
  target : Option S.Addr
  create : TcpCreateAnswer S
  recvs : List (Except Errno (List UInt8))
  start : TcpStartAnswer S

/-- An event of the loop, with the answers that its callback may ask for. -/
inductive TcpEvent (S : Ss2022)
  | accept (answers : List (TcpAcceptAnswer S))
  | io (p : Nat) (e : RelayEvent) (soError : Option Errno) (send : Except Errno Nat)
    (relayIn : (p : MemoryPool) → PlacedSlab p) (start : TcpStartAnswer S)
  | timer (p : Nat) (recvs : List (Except Errno (List UInt8))) (start : TcpStartAnswer S)

def tcpAcceptBatch : Nat := 16

namespace TcpThread

variable (cfg : TcpConfig)

/-- The part of `tcp_session_create` that fills the block and links it. -/
def tcpSessionLink (p clientFd : Nat) (s : TcpSession S (TcpHandshake S)) :
    Program (TcpThread S) Unit := do
  let b ← block p
  let head := (← get).sessionHead
  setBlock p { b with
    half := .handshake s
    clientFd := some clientFd
    prev := none
    next := head }
  match head with
  | some next => setPrev next (some p)
  | none => pure ()
  setHead (some p)

def tcpSessionCreate (a : TcpCreateAnswer S) (clientFd : Nat) (target : S.Addr) :
    Program (TcpThread S) (Option Nat) := do
  let zero := tcpSessionZero target a.ssClient
  match ← allocSession cfg a.memalign ⟨.handshake zero, none, none, false, 0, none, none⟩ with
  | none => return none
  | some p =>
    match tcpSessionTakeServer a.servers true zero with
    | none => Program.unanswered
    | some (.error _) =>
      freeSession cfg p
      return none
    | some (.ok s) =>
      tcpSessionLink p clientFd s
      return some p

/-- The loop of `tcp_proxy_on_accept` with what is left of the batch. -/
def tcpProxyAcceptLoop : List (TcpAcceptAnswer S) → Nat → Program (TcpThread S) Unit
  | _, 0 => return
  | [], _ + 1 => Program.unanswered
  | a :: answers, left + 1 => do
    match ← openFd a.socket with
    | none => if a.errno = .eintr then tcpProxyAcceptLoop answers (left + 1) else return
    | some fd =>
      match a.target with
      | none =>
        closeFd fd true
        tcpProxyAcceptLoop answers left
      | some target =>
        match ← tcpSessionCreate cfg a.create fd target with
        | none =>
          closeFd fd true
          tcpProxyAcceptLoop answers left
        | some p =>
          tcpHandshakeWaitInitialPayload cfg a.recvs a.start p
          tcpProxyAcceptLoop answers left

def tcpProxyOnAccept (answers : List (TcpAcceptAnswer S)) : Program (TcpThread S) Unit :=
  tcpProxyAcceptLoop cfg answers tcpAcceptBatch

/-- The loop of `tcp_proxy_close_all_sessions`, for at most `bound` sessions. -/
def tcpProxyCloseLoop : Nat → Option Nat → Program (TcpThread S) Unit
  | _, none => return
  | 0, some _ => Program.unanswered
  | bound + 1, some curr => do
    let next := (← block curr).next
    tcpSessionClose cfg curr false
    tcpProxyCloseLoop bound next

/-- The pool has no more than `max_blocks` sessions. -/
def tcpProxyCloseAllSessions : Program (TcpThread S) Unit := do
  let w ← get
  tcpProxyCloseLoop cfg (w.sessionPool.pool.elim 0 (·.maxBlocks)) w.sessionHead

/-- The event loop calls back for watchers that are started, and for no other. -/
def whenStarted (p : Nat) (watcher : TcpWatcher) (callback : Program (TcpThread S) Unit) :
    Program (TcpThread S) Unit := do
  if (← get).started (p, watcher) then callback else Program.unanswered

def onIo (p : Nat) (e : RelayEvent) (soError : Option Errno) (send : Except Errno Nat)
    (relayIn : (p : MemoryPool) → PlacedSlab p) (start : TcpStartAnswer S) :
    Program (TcpThread S) Unit := do
  let watcher := (← block p).half.ioWatcher e.side
  let retry := tcpHandshakeRetry cfg start.retries
  match watcher.cb with
  | .onInitialPayloadRead => tcpHandshakeOnInitialPayloadRead cfg e.recvs start p
  | .onServerConnected => tcpHandshakeOnServerConnected cfg retry soError send relayIn p
  | .onServerWritable => tcpHandshakeOnServerWritable cfg retry send relayIn p
  | .relayOnEvent =>
    if (e.read → watcher.read) ∧ (e.write → watcher.write) then tcpRelayOnEvent cfg e p
    else Program.unanswered

def onTimer (p : Nat) (recvs : List (Except Errno (List UInt8))) (start : TcpStartAnswer S) :
    Program (TcpThread S) Unit := do
  match (← block p).half.phaseTimer with
  | none => Program.fault
  | some .onInitialPayloadTimeout => tcpHandshakeOnInitialPayloadTimeout cfg recvs start p
  | some .onTimeout => tcpHandshakeOnTimeout cfg start.retries p

def handle : TcpEvent S → Program (TcpThread S) Unit
  | .accept answers => tcpProxyOnAccept cfg answers
  | .io p e soError send relayIn start =>
    whenStarted p e.side.watcher (onIo cfg p e soError send relayIn start)
  | .timer p recvs start => whenStarted p .timer (onTimer cfg p recvs start)

end TcpThread

theorem tcpSsRespInBufsiz_fits : tcpSsRespInBufsiz + 2 * cachelineSize ≤ 2 ^ 64 := by decide

/-- What the system answers to `mempool_create`, for blocks of a size that fits. -/
structure TcpPoolAnswer {blockSize : Nat} (fits : blockSize + 2 * cachelineSize ≤ 2 ^ 64)
    (initialBlocks maxBlocks : Nat) where
  calloc : Bool
  mem : Nat → BlockHeader
  slabRaw : Option Nat
  places : SystemPlaces (mempoolEmpty mem blockSize maxBlocks (mempoolTotalSize_pos fits))
    (mempoolInitial initialBlocks maxBlocks) slabRaw

def TcpPoolAnswer.create {blockSize initialBlocks maxBlocks : Nat}
    {fits : blockSize + 2 * cachelineSize ≤ 2 ^ 64} (answer : TcpPoolAnswer fits initialBlocks maxBlocks) :
    Option MemoryPool :=
  mempoolCreate answer.calloc answer.mem answer.slabRaw blockSize initialBlocks maxBlocks
    (mempoolTotalSize_pos fits)

/-- The TCP pools of `run_event_loop`; `none` when it gives up. -/
def tcpThreadCreate (cfg : TcpConfig) (session : TcpPoolAnswer cfg.sessionSize_fits 64 65535)
    (relayIn : TcpPoolAnswer tcpSsRespInBufsiz_fits 0 65535) : Option (TcpThread S) := do
  let sessionPool ← session.create
  let relayInPool ← relayIn.create
  some
    { sessionPool := ⟨some sessionPool, fun _ => none⟩
      relayInPool := ⟨some relayInPool, fun _ => none⟩
      sessionHead := none
      started := fun _ => false
      fds := [] }

/-- The states of a worker between two events. -/
inductive TcpThreadRun (cfg : TcpConfig) : TcpThread S → Prop
  | start {w} (session : TcpPoolAnswer cfg.sessionSize_fits 64 65535)
      (relayIn : TcpPoolAnswer tcpSsRespInBufsiz_fits 0 65535) :
      tcpThreadCreate cfg session relayIn = some w → TcpThreadRun cfg w
  | event {w w'} (e : TcpEvent S) : TcpThreadRun cfg w →
      TcpThread.handle cfg e w = .ok ((), w') → TcpThreadRun cfg w'

end Tproxy
