import Tproxy.Lib.UseLog
import Tproxy.Main.Options

namespace Tproxy

/-- What a call of the system answers: the `errno` that it sets, or `none` if it succeeds. -/
abbrev SysAnswer := Option { errno : Nat // 0 < errno }

def enomem : Nat := 12

/-- The pools that `run_event_loop` makes. -/
inductive LoopPool
  | udpSession
  | udpFullconeNode
  | udpSymmetricNode
  | udpTproxy
  | tcpSession
  | tcpRelayIn
deriving DecidableEq

/-- The sockets that a thread listens on: those of `endpoints`, and the one of fakedns. -/
inductive LoopSocket
  | tcp4
  | tcp6
  | udp4
  | udp6
  | fakedns
deriving DecidableEq

/-- What a thread holds: `watcher s` is the memory of a watcher, and `started s` stands
for its place in the loop. -/
inductive LoopRes
  | loop
  | exitWatcher
  | pool (p : LoopPool)
  | signalfd
  | signalWatcher
  | sockfd (s : LoopSocket)
  | watcher (s : LoopSocket)
  | started (s : LoopSocket)
  | gcTimer
  | selector
deriving DecidableEq

/-- The socket options that `netutils.c` asks for. -/
inductive SockOpt
  | nonBlock
  | ipv6Only
  | reuseAddr
  | transparent
  | recvOrigdst
  | reusePort
  | tfoAccept
deriving DecidableEq

/-- What the system answers while a socket is set up. A failure of the other
`setsockopt` calls is only logged. -/
structure SocketAnswers where
  socket : SysAnswer
  transparent : SysAnswer
  recvOrigdst : SysAnswer
  bind : SysAnswer
  listen : SysAnswer
  malloc : Bool

structure LoopAnswers where
  evLoopNew : Bool
  pool : LoopPool → Bool
  signalfd : SysAnswer
  socket : LoopSocket → SocketAnswers

/-- The locals of `run_event_loop` and the globals that it sets, as far as the clean-up
reads them: what is not null, not negative, or true. A socket comes with the options that
were asked for. `log` has the newest event first. -/
structure EventLoop where
  evloop : Bool
  exitWatcher : Bool
  pools : LoopPool → Bool
  signalfdFd : Bool
  signalWatcherStarted : Bool
  sockfds : LoopSocket → Option (List SockOpt)
  watchers : LoopSocket → Bool
  gcTimer : Bool
  selectorStarted : Bool
  log : List (UseEvent LoopRes)

/-- `goto cleanup` with an exit code is an error. -/
abbrev LoopM := EStateM Nat EventLoop

def LoopSocket.isTcp : LoopSocket → Bool
  | .tcp4 | .tcp6 => true
  | .udp4 | .udp6 | .fakedns => false

def LoopSocket.inet6 : LoopSocket → Bool
  | .tcp6 | .udp6 => true
  | .tcp4 | .udp4 | .fakedns => false

namespace EventLoop

/-- Calls, the last one first. -/
def emit (st : EventLoop) (calls : List (UseEvent LoopRes)) : EventLoop :=
  { st with log := calls ++ st.log }

/-- What the locals say is held. -/
def holds (st : EventLoop) : LoopRes → Bool
  | .loop => st.evloop
  | .exitWatcher => st.exitWatcher
  | .pool p => st.pools p
  | .signalfd => st.signalfdFd
  | .signalWatcher => st.signalWatcherStarted
  | .sockfd s => (st.sockfds s).isSome
  | .watcher s | .started s => st.watchers s
  | .gcTimer => st.gcTimer
  | .selector => st.selectorStarted

/-- Thread 0 is main. The others have a loop with a started `exit_watcher` from main. -/
def start (thread : Nat) : EventLoop where
  evloop := thread ≠ 0
  exitWatcher := thread ≠ 0
  pools _ := false
  signalfdFd := false
  signalWatcherStarted := false
  sockfds _ := none
  watchers _ := false
  gcTimer := false
  selectorStarted := false
  log := if thread = 0 then [] else [.made .exitWatcher, .made .loop]

end EventLoop

section Setup

variable (g : MainOptions) (thread : Nat) (answers : LoopAnswers)

/-- A failing call stops the set-up after `undo`, which keeps `errno`. -/
def checkCall (answer : SysAnswer) (undo : LoopM Unit) : LoopM Unit :=
  match answer with
  | none => pure ()
  | some errno => do
    undo
    throw errno.1

/-- A call that fails with a fixed exit code. -/
def checkMade (made : Bool) (code : Nat) (undo : LoopM Unit) : LoopM Unit :=
  if made then pure ()
  else do
    undo
    throw code

def emitCalls (calls : List (UseEvent LoopRes)) : LoopM Unit := modify fun st => st.emit calls

def shouldHandleUdp : Bool := thread < g.udpNthreads && g.enableUdp

def createPool (pool : LoopPool) : LoopM Unit := do
  checkMade (answers.pool pool) 1 (pure ())
  modify fun st => { st.emit [.made (.pool pool)] with pools := Function.update st.pools pool true }

def createSymmetricPool : LoopM Unit :=
  if g.enableFakedns then createPool answers .udpSymmetricNode else pure ()

/-- The part of `run_event_loop` under "UDP Context Pools". -/
def createUdpPools : LoopM Unit :=
  if shouldHandleUdp g thread then do
    createPool answers .udpSession
    createPool answers .udpFullconeNode
    createSymmetricPool g answers
    createPool answers .udpTproxy
  else pure ()

def createTcpPools : LoopM Unit :=
  if g.enableTcp then do
    createPool answers .tcpSession
    createPool answers .tcpRelayIn
  else pure ()

def openSignalfd : LoopM Unit :=
  if thread = 0 then do
    checkCall answers.signalfd (pure ())
    modify fun st => { st.emit [.made .signalWatcher, .used .signalfd, .used .loop, .made .signalfd] with
      signalfdFd := true, signalWatcherStarted := true }
  else pure ()

def isTcpReusePort : Bool := g.nthreads > 1

def isUdpReusePort : Bool := g.udpNthreads > 1

/-- The options of `new_nonblock_sockfd`. -/
def nonblockSockOpts (s : LoopSocket) : List SockOpt :=
  [.nonBlock] ++ (if s.inet6 then [.ipv6Only] else []) ++ [.reuseAddr]

def newNonblockSockfd (s : LoopSocket) : LoopM (List SockOpt) := do
  checkCall (answers.socket s).socket (pure ())
  emitCalls [.made (.sockfd s)]
  pure (nonblockSockOpts s)

/-- `close(sockfd)`, also in `close_and_fail`. -/
def closeSockfd (s : LoopSocket) : LoopM Unit := emitCalls [.gone (.sockfd s)]

def newTcpListenSockfd (s : LoopSocket) (isReusePort isTfoAccept : Bool) : LoopM (List SockOpt) := do
  let opts ← newNonblockSockfd answers s
  checkCall (answers.socket s).transparent (closeSockfd s)
  pure (opts ++ [.transparent] ++ (if isReusePort then [.reusePort] else []) ++
    (if isTfoAccept then [.tfoAccept] else []))

def newUdpTprecvSockfd (s : LoopSocket) (isReusePort : Bool) : LoopM (List SockOpt) := do
  let opts ← newNonblockSockfd answers s
  checkCall (answers.socket s).transparent (closeSockfd s)
  checkCall (answers.socket s).recvOrigdst (closeSockfd s)
  pure (opts ++ [.transparent, .recvOrigdst] ++ if isReusePort then [.reusePort] else [])

/-- The socket that `setup_listen_endpoint` makes. -/
def newListenSockfd (s : LoopSocket) (isReusePort isTfoAccept : Bool) : LoopM (List SockOpt) :=
  if s.isTcp then newTcpListenSockfd answers s isReusePort isTfoAccept
  else newUdpTprecvSockfd answers s isReusePort

def listenSockfd (s : LoopSocket) : LoopM Unit :=
  if s.isTcp then checkCall (answers.socket s).listen (closeSockfd s) else pure ()

def setupListenEndpoint (s : LoopSocket) (isReusePort isTfoAccept : Bool) : LoopM Unit := do
  let opts ← newListenSockfd answers s isReusePort isTfoAccept
  checkCall (answers.socket s).bind (closeSockfd s)
  listenSockfd answers s
  checkMade (answers.socket s).malloc enomem (closeSockfd s)
  modify fun st => { st.emit [.made (.started s), .used .loop, .used (.sockfd s), .made (.watcher s)] with
    sockfds := Function.update st.sockfds s (some opts), watchers := Function.update st.watchers s true }

/-- `ep_enabled`, and for fakedns the condition of its own. -/
def epEnabled : LoopSocket → Bool
  | .tcp4 => g.enableTcp && g.enableIpv4
  | .tcp6 => g.enableTcp && g.enableIpv6
  | .udp4 => shouldHandleUdp g thread && g.enableIpv4
  | .udp6 => shouldHandleUdp g thread && g.enableIpv6
  | .fakedns => g.enableFakedns && thread = 0

/-- One round of the loop over `endpoints`. -/
def setupEndpoint (s : LoopSocket) : LoopM Unit :=
  if epEnabled g thread s then
    setupListenEndpoint answers s (if s.isTcp then isTcpReusePort g else isUdpReusePort g) g.enableTfoAccept
  else pure ()

/-- The fakedns server of `run_event_loop`; its failures leave the socket to the clean-up. -/
def setupFakedns : LoopM Unit :=
  if epEnabled g thread .fakedns then do
    let opts ← newNonblockSockfd answers .fakedns
    modify fun st => { st with sockfds := Function.update st.sockfds .fakedns (some opts) }
    checkCall (answers.socket .fakedns).bind (pure ())
    checkMade (answers.socket .fakedns).malloc enomem (pure ())
    modify fun st =>
      { st.emit [.made (.started .fakedns), .used .loop, .used (.sockfd .fakedns), .made (.watcher .fakedns)] with
        watchers := Function.update st.watchers .fakedns true }
  else pure ()

def newEvLoop : LoopM Unit :=
  if thread = 0 then do
    checkMade answers.evLoopNew 1 (pure ())
    modify fun st => { st.emit [.made .loop] with evloop := true }
  else pure ()

/-- `udp_proxy_gc_start`. -/
def startGc : LoopM Unit :=
  if shouldHandleUdp g thread then
    modify fun st => { st.emit [.made .gcTimer, .used .loop] with gcTimer := true }
  else pure ()

/-- `server_selector_start`. -/
def startSelector : LoopM Unit :=
  if thread = 0 ∧ g.ssServers.serverCount > 1 then
    modify fun st => { st.emit [.made .selector, .used .loop] with selectorStarted := true }
  else pure ()

/-- `run_event_loop` up to `ev_run`. -/
def setupEventLoop : LoopM Unit := do
  newEvLoop thread answers
  createUdpPools g thread answers
  createTcpPools g answers
  openSignalfd thread answers
  setupEndpoint g thread answers .tcp4
  setupEndpoint g thread answers .tcp6
  setupEndpoint g thread answers .udp4
  setupEndpoint g thread answers .udp6
  setupFakedns g thread answers
  startGc g thread
  startSelector g thread

end Setup

section Cleanup

variable (g : MainOptions) (thread : Nat)

namespace EventLoop

/-- `server_selector_stop`, if it was started. -/
def stopSelector (st : EventLoop) : EventLoop :=
  if st.selectorStarted then { st.emit [.gone .selector, .used .loop] with selectorStarted := false }
  else st

def cleanupWatcher (st : EventLoop) (s : LoopSocket) : EventLoop :=
  if st.watchers s then
    { st.emit [.gone (.watcher s), .gone (.started s), .used .loop] with
      watchers := Function.update st.watchers s false }
  else st

def cleanupSockfd (st : EventLoop) (s : LoopSocket) : EventLoop :=
  if (st.sockfds s).isSome then
    { st.emit [.gone (.sockfd s)] with sockfds := Function.update st.sockfds s none }
  else st

def cleanupEndpoint (st : EventLoop) (s : LoopSocket) : EventLoop :=
  (st.cleanupWatcher s).cleanupSockfd s

def stopSignalWatcher (st : EventLoop) : EventLoop :=
  if st.signalWatcherStarted then
    { st.emit [.gone .signalWatcher, .used .loop] with signalWatcherStarted := false }
  else st

def closeSignalfd (st : EventLoop) : EventLoop :=
  if st.signalfdFd then { st.emit [.gone .signalfd] with signalfdFd := false } else st

/-- `ev_async_stop` of a worker. -/
def stopExitWatcher (thread : Nat) (st : EventLoop) : EventLoop :=
  if thread ≠ 0 then { st.emit [.gone .exitWatcher, .used .loop] with exitWatcher := false } else st

/-- `udp_proxy_gc_stop` in `udp_proxy_close_all_sessions`; a timer that was not started
stays as it is. -/
def stopGc (g : MainOptions) (thread : Nat) (st : EventLoop) : EventLoop :=
  if st.evloop && shouldHandleUdp g thread then
    if st.gcTimer then { st.emit [.gone .gcTimer, .used .loop] with gcTimer := false }
    else st.emit [.used .loop]
  else st

def destroyPool (st : EventLoop) (p : LoopPool) : EventLoop :=
  if st.pools p then { st.emit [.gone (.pool p)] with pools := Function.update st.pools p false } else st

def destroyLoop (thread : Nat) (st : EventLoop) : EventLoop :=
  if st.evloop ∧ thread = 0 then { st.emit [.gone .loop] with evloop := false } else st

/-- `cleanup` in `run_event_loop`. -/
def cleanup (g : MainOptions) (thread : Nat) (st : EventLoop) : EventLoop :=
  let st := st.stopSelector
  let st := [LoopSocket.tcp4, .tcp6, .udp4, .udp6].foldl cleanupEndpoint st
  let st := (st.cleanupEndpoint .fakedns).stopSignalWatcher.closeSignalfd
  let st := (st.stopExitWatcher thread).stopGc g thread
  let st := [LoopPool.udpSession, .udpFullconeNode, .udpSymmetricNode, .udpTproxy, .tcpSession,
    .tcpRelayIn].foldl destroyPool st
  st.destroyLoop thread

end EventLoop

/-- `run_event_loop`: the exit code, and the state in the end. The callbacks of `ev_run`
give nothing back that the set-up made. -/
def runEventLoop (answers : LoopAnswers) : Nat × EventLoop :=
  match setupEventLoop g thread answers (.start thread) with
  | .ok _ st => (0, (st.emit [.used .loop]).cleanup g thread)
  | .error code st => (code, st.cleanup g thread)

end Cleanup

end Tproxy
