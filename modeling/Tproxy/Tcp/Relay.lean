import Tproxy.Tcp.Chunks

namespace Tproxy

variable {S : Ss2022}

/-- The outcome of `tcp_relay_drain`: offset and length after it, the bytes
that the socket accepted, and whether an error closes the session. -/
structure Drained where
  off : Nat
  len : Nat
  sent : List UInt8
  failed : Bool

/-- `tcp_relay_drain` with the answers of `send`; when these run out the
socket would block. -/
def tcpRelayDrain (buf : Nat → UInt8) : List (Except Errno Nat) → Nat → Nat → Drained
  | _, _, 0 => ⟨0, 0, [], false⟩
  | [], off, len => ⟨off, len, [], false⟩
  | .error .eintr :: rest, off, len => tcpRelayDrain buf rest off len
  | .error .eagain :: _, off, len => ⟨off, len, [], false⟩
  | .error _ :: _, off, len => ⟨off, len, [], true⟩
  | .ok n :: rest, off, len =>
    let nsend := min n len
    if nsend = 0 then ⟨off, len, [], true⟩
    else
      let r := tcpRelayDrain buf rest (off + nsend) (len - nsend)
      { r with sent := readAt buf off nsend ++ r.sent }

/-- The first part of `tcp_relay_update_watchers`: the write side towards the
server is shut down after the end of the client data. -/
def tcpRelayShutdownServer (s : TcpSession S TcpRelay) : TcpSession S TcpRelay :=
  if s.union.clientEof ∧ s.union.clientToServerLen = 0 ∧ ¬s.union.serverShutdownSent then
    { s with
      net := s.net.shutdownServer s.serverFd
      union := { s.union with serverShutdownSent := true } }
  else s

/-- The second part, towards the client. -/
def tcpRelayShutdownClient (s : TcpSession S TcpRelay) : TcpSession S TcpRelay :=
  if s.union.serverEof ∧ s.union.serverToClientOutLen = 0 ∧ s.union.serverToClientInLen = 0 ∧
      ¬s.union.clientShutdownSent then
    { s with
      net := { s.net with clientShutdown := true }
      union := { s.union with clientShutdownSent := true } }
  else s

def tcpRelayUpdateWatchers (s : TcpSession S TcpRelay) : TcpState S :=
  let s := tcpRelayShutdownClient (tcpRelayShutdownServer s)
  if s.union.clientEof ∧ s.union.serverEof ∧ s.union.clientToServerLen = 0 ∧
      s.union.serverToClientOutLen = 0 ∧ s.union.serverToClientInLen = 0 then
    tcpSessionClose s false
  else
    let clientRead := !s.union.clientEof && s.union.clientToServerLen = 0
    let clientWrite := decide (s.union.serverToClientOutLen > 0)
    let serverRead := !s.union.serverEof && s.union.serverToClientOutLen = 0 &&
      s.union.serverToClientInLen < tcpSsRespInBufsiz
    let serverWrite := decide (s.union.clientToServerLen > 0)
    .relay { s with
      clientWatcher := ⟨s.clientWatcher.cb, clientRead, clientWrite, clientRead || clientWrite⟩
      serverWatcher := ⟨s.serverWatcher.cb, serverRead, serverWrite, serverRead || serverWrite⟩ }

def tcpRelayServerEofIsClean (r : TcpRelay) : Bool :=
  if r.serverToClientInLen ≠ 0 then false
  else if ¬r.responseHeaderDone then false
  else r.serverToClientNeedLen

def tcpRelayWriteToClient (s : TcpSession S TcpRelay) (sends : List (Except Errno Nat)) :
    Except (TcpState S) (TcpSession S TcpRelay) :=
  let r := s.union
  -- the output was opened in place, at the head of the input
  let d := tcpRelayDrain (fun i => r.serverToClientIn (r.serverToClientInHead + i)) sends
    r.serverToClientOutOff r.serverToClientOutLen
  let s := { s with
    net := { s.net with delivered := s.net.delivered ++ d.sent }
    union := { r with serverToClientOutOff := d.off, serverToClientOutLen := d.len } }
  if d.failed then .error (tcpSessionClose s true)
  else if d.len = 0 ∧ r.serverToClientInConsume > 0 then
    let (head, inLen) :=
      tcpBufConsume r.serverToClientInHead r.serverToClientInLen r.serverToClientInConsume
    .ok { s with union := { s.union with
      serverToClientInHead := head
      serverToClientInLen := inLen
      serverToClientInConsume := 0 } }
  else .ok s

def tcpRelayWriteToServer (s : TcpSession S TcpRelay) (sends : List (Except Errno Nat)) :
    Except (TcpState S) (TcpSession S TcpRelay) :=
  let r := s.union
  let d := tcpRelayDrain r.clientToServerBuf sends r.clientToServerOff r.clientToServerLen
  let s := { s with
    net := s.net.accept s.serverFd d.sent
    union := { r with clientToServerOff := d.off, clientToServerLen := d.len } }
  if d.failed then .error (tcpSessionClose s true) else .ok s

def tcpRelayProcessPendingServerData (s : TcpSession S TcpRelay) :
    Except (TcpState S) (TcpSession S TcpRelay) :=
  if s.union.serverToClientOutLen ≠ 0 ∨ s.union.serverToClientInLen = 0 then .ok s
  else tcpRelayProcessServerData s

/-- `recv` with room for `cap` bytes, repeated on `EINTR`. No bytes mean end
of file, as from a call without room. -/
def recvUpTo (cap : Nat) (recvs : List (Except Errno (List UInt8))) : Except Errno (List UInt8) :=
  (uninterrupted .eagain recvs).map (·.take cap)

def tcpRelayReadFromClient (s : TcpSession S TcpRelay) (recvs : List (Except Errno (List UInt8))) :
    Except (TcpState S) (TcpSession S TcpRelay) :=
  match recvUpTo tcpSsPlainBufsiz recvs with
  | .error .eagain => .ok s
  | .error _ => .error (tcpSessionClose s true)
  | .ok [] => .ok { s with
      net := { s.net with clientEofRead := true }
      union := { s.union with clientEof := true } }
  | .ok plain =>
    let buf := writeAt s.union.clientToServerBuf S.payloadChunkPrefixLen plain
    let net := { s.net with laterReads := s.net.laterReads ++ [plain] }
    match S.sealPayload s.ssClient.1 (readAt buf S.payloadChunkPrefixLen plain.length) with
    | none => .error (tcpSessionClose { s with net := net } true)
    | some (enc, cipher) => .ok { s with
        ssClient := (enc, s.ssClient.2)
        net := net
        union := { s.union with
          clientToServerBuf := writeAt buf 0 cipher
          clientToServerOff := 0
          clientToServerLen := cipher.length } }

def tcpRelayCompactServerInput (r : TcpRelay) : TcpRelay :=
  if r.serverToClientInHead = 0 then r
  else if tcpSsRespInBufsiz - r.serverToClientInHead - r.serverToClientInLen ≠ 0 then r
  else { r with
    serverToClientIn := writeAt r.serverToClientIn 0
      (readAt r.serverToClientIn r.serverToClientInHead r.serverToClientInLen)
    serverToClientInHead := 0 }

def tcpRelayHandleServerEof (s : TcpSession S TcpRelay) :
    Except (TcpState S) (TcpSession S TcpRelay) :=
  if ¬tcpRelayServerEofIsClean s.union then .error (tcpSessionClose s true)
  else .ok { s with union := { s.union with serverEof := true } }

def tcpRelayReadFromServer (s : TcpSession S TcpRelay) (recvs : List (Except Errno (List UInt8))) :
    Except (TcpState S) (TcpSession S TcpRelay) :=
  let r := tcpRelayCompactServerInput s.union
  let s := { s with union := r }
  let cap := tcpSsRespInBufsiz - r.serverToClientInHead - r.serverToClientInLen
  match recvUpTo cap recvs with
  | .error .eagain => .ok s
  | .error _ => .error (tcpSessionClose s true)
  | .ok [] => tcpRelayHandleServerEof s
  | .ok bytes => tcpRelayProcessServerData { s with
      net := { s.net with arrived := s.net.arrived ++ bytes }
      union := { r with
        serverToClientIn :=
          writeAt r.serverToClientIn (r.serverToClientInHead + r.serverToClientInLen) bytes
        serverToClientInLen := r.serverToClientInLen + bytes.length } }

/-- The two sides of a relay, by the watcher that the event is for. -/
inductive RelaySide
  | client
  | server
deriving DecidableEq

/-- What one event delivers: `revents` and the answers of the system. -/
structure RelayEvent where
  side : RelaySide
  read : Bool
  write : Bool
  sends : List (Except Errno Nat)
  recvs : List (Except Errno (List UInt8))

def tcpRelayHandleWrite (s : TcpSession S TcpRelay) (e : RelayEvent) :
    Except (TcpState S) (TcpSession S TcpRelay) :=
  if ¬e.write then .ok s
  else match e.side with
    | .client => tcpRelayWriteToClient s e.sends
    | .server => tcpRelayWriteToServer s e.sends

def tcpRelayHandleRead (s : TcpSession S TcpRelay) (e : RelayEvent) :
    Except (TcpState S) (TcpSession S TcpRelay) :=
  if ¬e.read then .ok s
  else match e.side with
    | .client =>
      if s.union.clientToServerLen ≠ 0 then .ok s else tcpRelayReadFromClient s e.recvs
    | .server =>
      if s.union.serverToClientOutLen ≠ 0 then .ok s else tcpRelayReadFromServer s e.recvs

def tcpRelayOnEvent (s : TcpSession S TcpRelay) (e : RelayEvent) : TcpState S :=
  match tcpRelayHandleWrite s e with
  | .error st => st
  | .ok s =>
    match tcpRelayProcessPendingServerData s with
    | .error st => st
    | .ok s =>
      match tcpRelayHandleRead s e with
      | .error st => st
      | .ok s => tcpRelayUpdateWatchers s

end Tproxy
