import Tproxy.Tcp.ThreadRelay

namespace Tproxy

variable {S : Ss2022}

/-- What the system and the selector answer to one attempt to connect, with
the descriptor of the socket and the slab for the relay buffer. -/
structure TcpConnectAnswer where
  selector : SsSelector
  socket : (fds : List Nat) → FreshFd fds
  sendto : List (Except Errno Nat)
  connect : Except Errno Unit
  soError : Option Errno
  send : Except Errno Nat
  relayIn : (p : MemoryPool) → PlacedSlab p

/-- The answers to one pass of the loop of `tcp_handshake_retry`. -/
structure TcpRetryAnswer (S : Ss2022) where
  clientError : Bool
  selector : SsSelector
  init : Option (S.Enc × S.Dec)
  connect : TcpConnectAnswer

structure TcpStartAnswer (S : Ss2022) where
  connect : TcpConnectAnswer
  retries : List (TcpRetryAnswer S)

namespace TcpThread

variable (cfg : TcpConfig)

/-- The part of `tcp_session_enter_relay` that allocates the relay buffer. -/
def tcpSessionAllocRelayIn (relayIn : (p : MemoryPool) → PlacedSlab p) (p : Nat) :
    Program (TcpThread S) Bool := do
  match ← allocRelayIn relayIn with
  | none => return false
  | some a =>
    let b ← block p
    setBlock p { b with serverToClientIn := a, relayInAllocated := true }
    return true

def tcpSessionEnterRelay (relayIn : (p : MemoryPool) → PlacedSlab p) (p : Nat) :
    Program (TcpThread S) Unit := do
  evStop p .timer
  let s ← handshake p
  let s : TcpSession S TcpRelay := { s with
    phaseTimer := none
    union := { tcpRelayZero with clientEof := s.union.clientEof } }
  setRelay p s
  if ¬(← tcpSessionAllocRelayIn relayIn p) then tcpSessionClose cfg p true
  else
    let s := { s with
      union := { s.union with responseHeaderLen := S.responseHeaderSize s.ssClient.2 } }
    setRelay p s
    if s.union.responseHeaderLen = 0 ∨ s.union.responseHeaderLen > tcpSsRespInBufsiz then
      tcpSessionClose cfg p true
    else
      evStop p .client
      evStop p .server
      setRelay p { s with
        clientWatcher := ⟨.relayOnEvent, true, false, false⟩
        serverWatcher := ⟨.relayOnEvent, true, false, false⟩ }
      tcpRelayUpdateWatchers cfg p

section Callbacks
-- `tcp_handshake_retry`, which calls these callbacks and is called by them
variable (retry : Bool → Nat → Program (TcpThread S) Bool)

/-- `tcp_handshake_send_request_header` returns 1, 0 or -1. -/
def tcpHandshakeSendRequestHeader (send : Except Errno Nat) (p : Nat) :
    Program (TcpThread S) Int := do
  let s ← handshake p
  let h := s.union
  if h.requestHeaderSent > h.requestHeaderLen then
    tcpSessionClose cfg p true
    return -1
  else if h.requestHeaderSent = h.requestHeaderLen then return 1
  else
    match send with
    | .error .eintr => return 0
    | .error .eagain => return 0
    | .error err =>
      let nodeFailure := !socketErrorIsLocal err
      setHandshake p { s with net := s.net.breakOff s.peer nodeFailure }
      let _ ← retry nodeFailure p
      return -1
    | .ok n =>
      let rest := (h.requestHeader.take h.requestHeaderLen).drop h.requestHeaderSent
      let nsend := min n rest.length
      if nsend = 0 then
        setHandshake p { s with net := s.net.breakOff s.peer true }
        let _ ← retry true p
        return -1
      else
        let s := { s with net := s.net.accept s.serverFd (rest.take nsend) }
        setHandshake p s
        let newOffset := h.requestHeaderSent + nsend
        if newOffset > h.requestHeaderLen then
          tcpSessionClose cfg p true
          return -1
        else
          let s := { s with union := { h with requestHeaderSent := newOffset % (uint16Max + 1) } }
          setHandshake p s
          return if s.union.requestHeaderSent = h.requestHeaderLen then 1 else 0

def tcpHandshakeOnServerWritable (send : Except Errno Nat)
    (relayIn : (p : MemoryPool) → PlacedSlab p) (p : Nat) : Program (TcpThread S) Unit := do
  if (← tcpHandshakeSendRequestHeader cfg retry send p) = 1 then tcpSessionEnterRelay cfg relayIn p

def tcpHandshakeOnServerConnected (soError : Option Errno) (send : Except Errno Nat)
    (relayIn : (p : MemoryPool) → PlacedSlab p) (p : Nat) : Program (TcpThread S) Unit := do
  let s ← handshake p
  match soError with
  | some err =>
    let nodeFailure := !socketErrorIsLocal err
    setHandshake p { s with net := s.net.breakOff s.peer nodeFailure }
    let _ ← retry nodeFailure p
  | none =>
    if s.union.requestHeaderSent ≥ s.union.requestHeaderLen then tcpSessionEnterRelay cfg relayIn p
    else
      setHandshake p { s with serverWatcher := { s.serverWatcher with cb := .onServerWritable } }
      tcpHandshakeOnServerWritable cfg retry send relayIn p

def tcpHandshakeBuildRequestHeader (p : Nat) : Program (TcpThread S) Bool := do
  let (s, built) := Tproxy.tcpHandshakeBuildRequestHeader (← handshake p)
  setHandshake p s
  return built

/-- `tcp_handshake_connect_server`: the socket, the connection and
`tfo_nsend`, or whether the node failed. -/
def tcpHandshakeConnectServer (requestHeader : List UInt8) (a : TcpConnectAnswer) :
    Program (TcpThread S) (Except Bool (Nat × TcpConnectResult × Option Nat)) := do
  match ← openFd a.socket with
  | none => return .error false
  | some fd =>
    match tcpConnect (if cfg.tfo then requestHeader else []) a.sendto a.connect with
    | (.failed err, _) =>
      closeFd fd false
      return .error (!socketErrorIsLocal err)
    | conn => return .ok (fd, conn)

def tcpSessionAttachServer (p fd : Nat) (tfoNsend : Option Nat) : Program (TcpThread S) Unit := do
  let s ← handshake p
  let b ← block p
  setBlock p { b with
    half := .handshake (Tproxy.tcpSessionAttachServer s tfoNsend)
    serverFd := some fd }

/-- `tcp_handshake_try_connect`: `error` with `node_failure` when it returns
false. -/
def tcpHandshakeTryConnect (a : TcpConnectAnswer) (p : Nat) :
    Program (TcpThread S) (Except Bool Unit) := do
  let s ← handshake p
  let epoch := ssAttemptEpoch a.selector s.serverIdx
  setHandshake p { s with
    selectorAttemptEpoch := epoch
    net := { s.net with calls := .attempt s.serverIdx epoch :: s.net.calls } }
  if ← tcpHandshakeBuildRequestHeader p then
    let s ← handshake p
    match ← tcpHandshakeConnectServer cfg s.union.requestHeader a with
    | .error nodeFailure =>
      setHandshake p { s with net := s.net.breakOff s.serverIdx nodeFailure }
      return .error nodeFailure
    | .ok (fd, conn, tfoNsend) =>
      tcpSessionAttachServer p fd tfoNsend
      evStart p .server
      evStart p .timer
      match conn with
      | .connected => tcpHandshakeOnServerConnected cfg retry a.soError a.send a.relayIn p
      | _ => pure ()
      return .ok ()
  else return .error false

end Callbacks

/-- The part of `tcp_handshake_retry` that gives the server socket up. -/
def tcpHandshakeDropServer (p : Nat) : Program (TcpThread S) Unit := do
  let b ← block p
  match b.serverFd with
  | none => return
  | some fd =>
    evStop p .server
    closeFd fd false
    setBlock p { b with serverFd := none }

def tcpHandshakeRetry : List (TcpRetryAnswer S) → Bool → Nat → Program (TcpThread S) Bool
  | [], _, _ => Program.unanswered
  | a :: answers, nodeFailure, p => do
    let s ← handshake p
    let s := if nodeFailure then s.reportFailure else s
    setHandshake p s
    if s.union.fullyQueued then
      tcpSessionClose cfg p true
      return false
    else
      evStop p .timer
      tcpHandshakeDropServer p
      let s := { s with
        phaseTimer := none
        serverWatcher := { s.serverWatcher with active := false }
        serverFd := none }
      setHandshake p s
      if a.clientError then
        tcpSessionClose cfg p false
        return false
      else
        match serverSelectorNextBestTcp a.selector s.triedServersMask with
        | none =>
          setHandshake p { s with net := { s.net with exhausted := true } }
          tcpSessionClose cfg p true
          return false
        | some next =>
          let s := s.take next
          setHandshake p s
          match a.init with
          | none => tcpHandshakeRetry answers false p
          | some ssClient =>
            setHandshake p { s with ssClient := ssClient }
            match ← tcpHandshakeTryConnect cfg (tcpHandshakeRetry answers) a.connect p with
            | .ok () => return true
            | .error nodeFailure => tcpHandshakeRetry answers nodeFailure p

def tcpHandshakeStart (a : TcpStartAnswer S) (p : Nat) : Program (TcpThread S) Bool := do
  evStop p .timer
  evStop p .client
  let s ← handshake p
  setHandshake p { s with
    phaseTimer := none
    clientWatcher := { s.clientWatcher with active := false } }
  match ← tcpHandshakeTryConnect cfg (tcpHandshakeRetry cfg a.retries) a.connect p with
  | .ok () => return true
  | .error nodeFailure => tcpHandshakeRetry cfg a.retries nodeFailure p

/-- `tcp_handshake_read_initial_payload`: `need_wait`, or `none` when it
returns false. -/
def tcpHandshakeReadInitialPayload (recvs : List (Except Errno (List UInt8))) (p : Nat) :
    Program (TcpThread S) (Option Bool) := do
  match Tproxy.tcpHandshakeReadInitialPayload recvs (← handshake p) with
  | .closed _ =>
    tcpSessionClose cfg p true
    return none
  | .ready s needWait =>
    setHandshake p s
    return some needWait

def tcpHandshakeStartAfterInitialPayload (a : TcpStartAnswer S) (p : Nat) :
    Program (TcpThread S) Unit := do
  evStop p .timer
  evStop p .client
  let s ← handshake p
  setHandshake p { s with
    phaseTimer := none
    clientWatcher := { s.clientWatcher with active := false } }
  if s.union.initialPayload.length = 0 ∧ s.union.clientEof then tcpSessionClose cfg p false
  else
    let _ ← tcpHandshakeStart cfg a p

def tcpHandshakeOnInitialPayloadRead (recvs : List (Except Errno (List UInt8)))
    (a : TcpStartAnswer S) (p : Nat) : Program (TcpThread S) Unit := do
  match ← tcpHandshakeReadInitialPayload cfg recvs p with
  | none => return
  | some true => return
  | some false => tcpHandshakeStartAfterInitialPayload cfg a p

def tcpHandshakeOnInitialPayloadTimeout (recvs : List (Except Errno (List UInt8)))
    (a : TcpStartAnswer S) (p : Nat) : Program (TcpThread S) Unit := do
  match ← tcpHandshakeReadInitialPayload cfg recvs p with
  | none => return
  | some _ => tcpHandshakeStartAfterInitialPayload cfg a p

def tcpHandshakeWaitInitialPayload (recvs : List (Except Errno (List UInt8)))
    (a : TcpStartAnswer S) (p : Nat) : Program (TcpThread S) Unit := do
  match ← tcpHandshakeReadInitialPayload cfg recvs p with
  | none => return
  | some false => tcpHandshakeStartAfterInitialPayload cfg a p
  | some true =>
    evStop p .client
    let s ← handshake p
    setHandshake p { s with
      clientWatcher := ⟨.onInitialPayloadRead, true, false, true⟩
      phaseTimer := some .onInitialPayloadTimeout }
    evStart p .client
    evStart p .timer

def tcpHandshakeOnTimeout (answers : List (TcpRetryAnswer S)) (p : Nat) :
    Program (TcpThread S) Unit := do
  let s ← handshake p
  setHandshake p { s with net := s.net.breakOff s.peer true }
  let _ ← tcpHandshakeRetry cfg answers true p

end TcpThread

end Tproxy
