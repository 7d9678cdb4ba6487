import Tproxy.Selector.State
import Tproxy.Tcp.Relay

namespace Tproxy

variable {S : Ss2022}

/-- What the system and the selector answer to one attempt to connect: at
`server_selector_tcp_attempt`, for the socket, `sendto` and `connect`, and, if
the connection is there at once, for `SO_ERROR`, `send` and the relay buffer. -/
structure ConnectAnswer where
  selector : SsSelector
  socket : Bool
  sendto : List (Except Errno Nat)
  connect : Except Errno Unit
  soError : Option Errno
  send : Except Errno Nat
  relayIn : Bool

/-- The answers to one pass of the loop of `tcp_handshake_retry`. The client
of the server taken is `init`, if it can be initialised. -/
structure RetryAnswer (S : Ss2022) where
  clientError : Bool
  selector : SsSelector
  init : Option (S.Enc × S.Dec)
  connect : ConnectAnswer

/-- The memory of the relay half after `memset`. -/
def tcpRelayZero : TcpRelay where
  clientEof := false
  serverEof := false
  clientShutdownSent := false
  serverShutdownSent := false
  responseHeaderDone := false
  responsePayloadLen := 0
  responseHeaderLen := 0
  clientToServerBuf _ := 0
  clientToServerOff := 0
  clientToServerLen := 0
  serverToClientIn _ := 0
  serverToClientInHead := 0
  serverToClientInLen := 0
  serverToClientNeedLen := false
  serverToClientOutOff := 0
  serverToClientOutLen := 0
  serverToClientInConsume := 0

/-- `relayIn`: the relay buffer can be allocated. Its bytes are arbitrary, so
none is read before it is written; here they are zero. -/
def tcpSessionEnterRelay (s : TcpSession S (TcpHandshake S)) (relayIn : Bool) : TcpState S :=
  let s : TcpSession S TcpRelay := { s with
    phaseTimer := none
    union := { tcpRelayZero with clientEof := s.union.clientEof } }
  if ¬relayIn then tcpSessionClose s true
  else
    let s := { s with
      union := { s.union with responseHeaderLen := S.responseHeaderSize s.ssClient.2 } }
    if s.union.responseHeaderLen = 0 ∨ s.union.responseHeaderLen > tcpSsRespInBufsiz then
      tcpSessionClose s true
    else
      tcpRelayUpdateWatchers { s with
        clientWatcher := ⟨.relayOnEvent, true, false, false⟩
        serverWatcher := ⟨.relayOnEvent, true, false, false⟩ }

/-- The attempt on the connected server fails; unless the reason is local,
that server is to blame. -/
def TcpNet.breakOff (net : TcpNet S) (server : Nat) (nodeFailure : Bool) : TcpNet S :=
  if nodeFailure then { net with broken := server :: net.broken } else net

/-- The server that the socket was connected to. -/
def TcpSession.peer {U : Type} (s : TcpSession S U) : Nat :=
  match s.serverFd with
  | none => s.serverIdx
  | some k => (s.net.socket k).server

section Callbacks
-- `tcp_handshake_retry`, which calls these callbacks and is called by them
variable (retry : Bool → TcpSession S (TcpHandshake S) → Option (TcpState S))

/-- `tcp_handshake_on_server_writable`, with the send of the request header.
`none` means that `retry` got no answer. -/
def tcpHandshakeOnServerWritable (send : Except Errno Nat) (relayIn : Bool)
    (s : TcpSession S (TcpHandshake S)) : Option (TcpState S) :=
  let h := s.union
  if h.requestHeaderSent > h.requestHeaderLen then some (tcpSessionClose s true)
  else if h.requestHeaderSent = h.requestHeaderLen then some (tcpSessionEnterRelay s relayIn)
  else
    match send with
    | .error .eintr => some (.handshake s)
    | .error .eagain => some (.handshake s)
    | .error err =>
      let nodeFailure := !socketErrorIsLocal err
      retry nodeFailure { s with net := s.net.breakOff s.peer nodeFailure }
    | .ok n =>
      let rest := (h.requestHeader.take h.requestHeaderLen).drop h.requestHeaderSent
      let nsend := min n rest.length
      if nsend = 0 then retry true { s with net := s.net.breakOff s.peer true }
      else
        let s := { s with net := s.net.accept s.serverFd (rest.take nsend) }
        let newOffset := h.requestHeaderSent + nsend
        if newOffset > h.requestHeaderLen then some (tcpSessionClose s true)
        else
          let s := { s with union := { h with requestHeaderSent := newOffset % (uint16Max + 1) } }
          if s.union.requestHeaderSent = h.requestHeaderLen then
            some (tcpSessionEnterRelay s relayIn)
          else some (.handshake s)

/-- `soError` is the error of `tcp_has_error` on the server socket. -/
def tcpHandshakeOnServerConnected (soError : Option Errno) (send : Except Errno Nat)
    (relayIn : Bool) (s : TcpSession S (TcpHandshake S)) : Option (TcpState S) :=
  match soError with
  | some err =>
    let nodeFailure := !socketErrorIsLocal err
    retry nodeFailure { s with net := s.net.breakOff s.peer nodeFailure }
  | none =>
    if s.union.requestHeaderSent ≥ s.union.requestHeaderLen then
      some (tcpSessionEnterRelay s relayIn)
    else
      tcpHandshakeOnServerWritable retry send relayIn
        { s with serverWatcher := { s.serverWatcher with cb := .onServerWritable } }

end Callbacks

/-- `tcp_handshake_build_request_header`: the session after it, and whether
there is a header. A failure leaves the old lengths. -/
def tcpHandshakeBuildRequestHeader (s : TcpSession S (TcpHandshake S)) :
    TcpSession S (TcpHandshake S) × Bool :=
  let h := s.union
  let (ssClient, ret) := S.buildRequestHeader s.ssClient h.target h.initialPayload
  match ret with
  | .error written =>
    ({ s with ssClient := ssClient, union := { h with requestHeader := written } }, false)
  | .ok header =>
    let s := { s with ssClient := ssClient, union := { h with requestHeader := header } }
    if header.length > uint16Max then (s, false)
    else
      ({ s with union := { s.union with
          requestHeaderLen := header.length
          requestHeaderSent := 0 } }, true)

/-- `tcp_handshake_connect_server`: the connection and `tfo_nsend`, or whether
the node failed. -/
def tcpHandshakeConnectServer (tfo : Bool) (requestHeader : List UInt8) (a : ConnectAnswer) :
    Except Bool (TcpConnectResult × Option Nat) :=
  if ¬a.socket then .error false
  else
    match tcpConnect (if tfo then requestHeader else []) a.sendto a.connect with
    | (.failed err, _) => .error (!socketErrorIsLocal err)
    | conn => .ok conn

/-- `tcp_session_attach_server`, with the start of the watcher and of the
timer that follows. -/
def tcpSessionAttachServer (s : TcpSession S (TcpHandshake S)) (tfoNsend : Option Nat) :
    TcpSession S (TcpHandshake S) :=
  let h := s.union
  let sent := match tfoNsend with
    | none => h.requestHeaderSent
    | some n => if n > 0 then min n h.requestHeaderLen % (uint16Max + 1) else h.requestHeaderSent
  { s with
    serverFd := some s.net.opened
    net := s.net.connect s.serverIdx h.requestHeader s.ssClient (tfoNsend.getD 0)
    serverWatcher := ⟨.onServerConnected, false, true, true⟩
    phaseTimer := some .onTimeout
    union := { h with requestHeaderSent := sent } }

/-- How `tcp_handshake_try_connect` returns: true, with the session where the
connected callback left it, or false. -/
inductive TryConnect (S : Ss2022)
  | connecting (st : Option (TcpState S))
  | failed (s : TcpSession S (TcpHandshake S)) (nodeFailure : Bool)

def tcpHandshakeTryConnect (tfo : Bool)
    (retry : Bool → TcpSession S (TcpHandshake S) → Option (TcpState S)) (a : ConnectAnswer)
    (s : TcpSession S (TcpHandshake S)) : TryConnect S :=
  let epoch := ssAttemptEpoch a.selector s.serverIdx
  let s := { s with
    selectorAttemptEpoch := epoch
    net := { s.net with calls := .attempt s.serverIdx epoch :: s.net.calls } }
  match tcpHandshakeBuildRequestHeader s with
  | (s, false) => .failed s false
  | (s, true) =>
    match tcpHandshakeConnectServer tfo s.union.requestHeader a with
    | .error nodeFailure =>
      .failed { s with net := s.net.breakOff s.serverIdx nodeFailure } nodeFailure
    | .ok (conn, tfoNsend) =>
      let s := tcpSessionAttachServer s tfoNsend
      match conn with
      | .connected => .connecting (tcpHandshakeOnServerConnected retry a.soError a.send a.relayIn s)
      | _ => .connecting (some (.handshake s))

/-- The request with the initial payload is fully queued: the server may have
forwarded the payload already. -/
def TcpHandshake.fullyQueued (h : TcpHandshake S) : Bool :=
  h.initialPayload.length > 0 && h.requestHeaderLen > 0 && h.requestHeaderSent ≥ h.requestHeaderLen

/-- The session takes a server: `server_idx` and `tried_servers_mask`. -/
def TcpSession.take {U : Type} (s : TcpSession S U) (serverIdx : Nat) : TcpSession S U :=
  { s with
    serverIdx := serverIdx
    triedServersMask := s.triedServersMask ||| ((1 <<< serverIdx) % 2 ^ 8)
    net := { s.net with taken := serverIdx :: s.net.taken } }

/-- `server_selector_report_tcp_failure` for the session's server. -/
def TcpSession.reportFailure {U : Type} (s : TcpSession S U) : TcpSession S U :=
  { s with net := { s.net with calls := .failure s.serverIdx :: s.net.calls } }

/-- `tcp_handshake_retry`. Each pass of its loop, also in a call of itself
through the connected callback, takes the next answer; `none` means that the
answers ran out. The freed client is not used before the next one is there. -/
def tcpHandshakeRetry (tfo : Bool) : List (RetryAnswer S) → Bool →
    TcpSession S (TcpHandshake S) → Option (TcpState S)
  | [], _, _ => none
  | a :: answers, nodeFailure, s =>
    let s := if nodeFailure then s.reportFailure else s
    if s.union.fullyQueued then some (tcpSessionClose s true)
    else
      let s := { s with
        phaseTimer := none
        serverWatcher := { s.serverWatcher with active := false }
        serverFd := none }
      if a.clientError then some (tcpSessionClose s false)
      else
        match serverSelectorNextBestTcp a.selector s.triedServersMask with
        | none => some (tcpSessionClose { s with net := { s.net with exhausted := true } } true)
        | some next =>
          let s := s.take next
          match a.init with
          | none => tcpHandshakeRetry tfo answers false s
          | some ssClient =>
            match tcpHandshakeTryConnect tfo (tcpHandshakeRetry tfo answers) a.connect
                { s with ssClient := ssClient } with
            | .connecting st => st
            | .failed s nodeFailure => tcpHandshakeRetry tfo answers nodeFailure s

end Tproxy
