import Tproxy.Lib.FdLog
import Tproxy.Lib.Program
import Tproxy.Mempool.Arena
import Tproxy.Tcp.Accept

namespace Tproxy

variable {S : Ss2022}

/-- The watchers that a session gives to the event loop. -/
inductive TcpWatcher
  | client
  | server
  | timer
deriving DecidableEq

def RelaySide.watcher : RelaySide → TcpWatcher
  | .client => .client
  | .server => .server

/-- A live session, by the half of the union in use. -/
inductive TcpHalf (S : Ss2022)
  | handshake (s : TcpSession S (TcpHandshake S))
  | relay (s : TcpSession S TcpRelay)

def TcpHalf.ioWatcher : TcpHalf S → RelaySide → IoWatcher
  | .handshake s, .client => s.clientWatcher
  | .handshake s, .server => s.serverWatcher
  | .relay s, .client => s.clientWatcher
  | .relay s, .server => s.serverWatcher

def TcpHalf.phaseTimer : TcpHalf S → Option TcpTimer
  | .handshake s => s.phaseTimer
  | .relay s => s.phaseTimer

/-- `tcp_session_t` in its block. The descriptors are those of the watchers,
`none` for -1; `serverToClientIn` is the block of the relay buffer. -/
structure TcpBlock (S : Ss2022) where
  half : TcpHalf S
  clientFd : Option Nat
  serverFd : Option Nat
  relayInAllocated : Bool
  serverToClientIn : Nat
  prev : Option Nat
  next : Option Nat

/-- `sizeof(tcp_session_t)` and `OPT_ENABLE_TFO_CONNECT`. -/
structure TcpConfig where
  sessionSize : Nat
  sessionSize_fits : sessionSize + 2 * cachelineSize ≤ 2 ^ 64
  tfo : Bool

/-- The thread-local state of one TCP worker, the watchers that its event loop
has started, and the log of the descriptors opened for sessions. -/
structure TcpThread (S : Ss2022) where
  sessionPool : PoolArena (TcpBlock S)
  relayInPool : PoolArena Unit
  sessionHead : Option Nat
  started : Nat × TcpWatcher → Bool
  fds : List FdEvent

namespace TcpThread

section Memory

/-- A read through a session pointer. -/
def block (p : Nat) : Program (TcpThread S) (TcpBlock S) := fun w =>
  match w.sessionPool.record p with
  | some b => .ok (b, w)
  | none => .error .fault

/-- A write through a session pointer. -/
def setBlock (p : Nat) (b : TcpBlock S) : Program (TcpThread S) Unit := fun w =>
  match w.sessionPool.record p with
  | some _ => .ok ((), { w with sessionPool := w.sessionPool.write p b })
  | none => .error .fault

def setHead (head : Option Nat) : Program (TcpThread S) Unit := fun w =>
  .ok ((), { w with sessionHead := head })

/-- The handshake half of a session; it is a fault to use the other one. -/
def handshake (p : Nat) : Program (TcpThread S) (TcpSession S (TcpHandshake S)) := do
  match (← block p).half with
  | .handshake s => return s
  | .relay _ => Program.fault

def relay (p : Nat) : Program (TcpThread S) (TcpSession S TcpRelay) := do
  match (← block p).half with
  | .handshake _ => Program.fault
  | .relay s => return s

def setHalf (p : Nat) (half : TcpHalf S) : Program (TcpThread S) Unit := do
  let b ← block p
  setBlock p { b with half := half }

def setHandshake (p : Nat) (s : TcpSession S (TcpHandshake S)) : Program (TcpThread S) Unit :=
  setHalf p (.handshake s)

def setRelay (p : Nat) (s : TcpSession S TcpRelay) : Program (TcpThread S) Unit :=
  setHalf p (.relay s)

/-- `ev_io_start`, `ev_timer_start`, `ev_io_stop` and `ev_timer_stop` of a
watcher in the session at `p`, as seen by the event loop. -/
def evSet (p : Nat) (watcher : TcpWatcher) (start : Bool) : Program (TcpThread S) Unit := do
  let _ ← block p
  fun w => .ok ((), { w with started := Function.update w.started (p, watcher) start })

def evStart (p : Nat) (watcher : TcpWatcher) : Program (TcpThread S) Unit := evSet p watcher true

def evStop (p : Nat) (watcher : TcpWatcher) : Program (TcpThread S) Unit := evSet p watcher false

end Memory

section System

/-- A call that returns a new descriptor, or -1. -/
def openFd (answer : (fds : List Nat) → FreshFd fds) : Program (TcpThread S) (Option Nat) := fun w =>
  match answer (fdsInUse w.fds) with
  | none => .ok (none, w)
  | some fd => .ok (some fd.1, { w with fds := .opened fd.1 :: w.fds })

/-- `close`, or with `reset` `tcp_close_by_rst`. -/
def closeFd (fd : Nat) (reset : Bool) : Program (TcpThread S) Unit := fun w =>
  if fd ∈ fdsInUse w.fds then .ok ((), { w with fds := .closed fd reset :: w.fds })
  else .error .fault

def closeWatcherFd (fd : Option Nat) (reset : Bool) : Program (TcpThread S) Unit :=
  match fd with
  | some fd => closeFd fd reset
  | none => return

/-- `mempool_alloc_sized` of the session pool, with the writes that fill the block. -/
def allocSession (cfg : TcpConfig) (memalign : (p : MemoryPool) → PlacedSlab p) (b : TcpBlock S) :
    Program (TcpThread S) (Option Nat) := fun w =>
  let alloced := w.sessionPool.alloc memalign cfg.sessionSize b
  .ok (alloced.2.result, { w with sessionPool := alloced.1 })

def freeSession (cfg : TcpConfig) (p : Nat) : Program (TcpThread S) Unit := fun w =>
  match w.sessionPool.record p with
  | some _ => .ok ((), { w with sessionPool := w.sessionPool.free p cfg.sessionSize })
  | none => .error .fault

def allocRelayIn (memalign : (p : MemoryPool) → PlacedSlab p) :
    Program (TcpThread S) (Option Nat) := fun w =>
  let alloced := w.relayInPool.alloc memalign tcpSsRespInBufsiz ()
  .ok (alloced.2.result, { w with relayInPool := alloced.1 })

def freeRelayIn (a : Nat) : Program (TcpThread S) Unit := fun w =>
  match w.relayInPool.record a with
  | some _ => .ok ((), { w with relayInPool := w.relayInPool.free a tcpSsRespInBufsiz })
  | none => .error .fault

end System

section Close

def setPrev (p : Nat) (prev : Option Nat) : Program (TcpThread S) Unit := do
  let b ← block p
  setBlock p { b with prev := prev }

def setNext (p : Nat) (next : Option Nat) : Program (TcpThread S) Unit := do
  let b ← block p
  setBlock p { b with next := next }

/-- The first part of `tcp_session_close`: the watchers. -/
def tcpSessionStop (p : Nat) : Program (TcpThread S) Unit := do
  let b ← block p
  if b.clientFd.isSome then evStop p .client
  if b.serverFd.isSome then evStop p .server
  evStop p .timer

/-- The second part: the descriptors and the relay buffer. -/
def tcpSessionRelease (p : Nat) (isTcpReset : Bool) : Program (TcpThread S) Unit := do
  let b ← block p
  closeWatcherFd b.clientFd isTcpReset
  closeWatcherFd b.serverFd isTcpReset
  if b.relayInAllocated then
    freeRelayIn b.serverToClientIn
    setBlock p { b with relayInAllocated := false }

/-- The third part: the list. -/
def tcpSessionUnlink (p : Nat) : Program (TcpThread S) Unit := do
  let b ← block p
  match b.next with
  | some next => setPrev next b.prev
  | none => pure ()
  match b.prev with
  | some prev => setNext prev b.next
  | none => setHead b.next

def tcpSessionClose (cfg : TcpConfig) (p : Nat) (isTcpReset : Bool) : Program (TcpThread S) Unit := do
  tcpSessionStop p
  tcpSessionRelease p isTcpReset
  tcpSessionUnlink p
  freeSession cfg p

end Close

end TcpThread

end Tproxy
