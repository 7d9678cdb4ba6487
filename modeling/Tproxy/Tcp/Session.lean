import Tproxy.Tcp.Socket

namespace Tproxy

/-- `TCP_SS_RESP_IN_BUFSIZ`: the largest payload, a length field, a tag and
64 bytes of slack. -/
def tcpSsRespInBufsiz : Nat := 65535 + 2 + 16 + 64

def tcpSs2022TagLen : Nat := 16

def ss2022LengthChunkLen : Nat := 2 + 16

def uint16Max : Nat := 65535

inductive TcpCallback
  | onInitialPayloadRead
  | onServerConnected
  | onServerWritable
  | relayOnEvent
deriving DecidableEq

/-- A libev watcher without its descriptor; `read`, `write` are the events. -/
structure IoWatcher where
  cb : TcpCallback
  read : Bool
  write : Bool
  active : Bool

inductive TcpTimer
  | onInitialPayloadTimeout
  | onTimeout
deriving DecidableEq

/-- The handshake half of the session's union. The lists hold the first
`initial_payload_len` bytes, and what was last built into `request_header`. -/
structure TcpHandshake (S : Ss2022) where
  requestHeader : List UInt8
  initialPayload : List UInt8
  target : S.Addr
  requestHeaderLen : Nat
  requestHeaderSent : Nat
  clientEof : Bool

/-- The relay half of the session's union. -/
structure TcpRelay where
  clientEof : Bool
  serverEof : Bool
  clientShutdownSent : Bool
  serverShutdownSent : Bool
  responseHeaderDone : Bool
  responsePayloadLen : UInt16
  responseHeaderLen : Nat
  clientToServerBuf : Nat → UInt8
  clientToServerOff : Nat
  clientToServerLen : Nat
  serverToClientIn : Nat → UInt8
  serverToClientInHead : Nat
  serverToClientInLen : Nat
  serverToClientNeedLen : Bool
  serverToClientOutOff : Nat
  serverToClientOutLen : Nat
  serverToClientInConsume : Nat

/-- A live session whose union holds a `U`, with what the outside has seen of
it. `serverFd = none` is the descriptor -1; the client socket stays open. -/
structure TcpSession (S : Ss2022) (U : Type) where
  clientWatcher : IoWatcher
  serverWatcher : IoWatcher
  serverFd : Option Nat
  phaseTimer : Option TcpTimer
  serverIdx : Nat
  triedServersMask : Nat
  selectorAttemptEpoch : Nat
  union : U
  ssClient : S.Enc × S.Dec
  net : TcpNet S

/-- A session that was created, by the half of the union in use, or freed. -/
inductive TcpState (S : Ss2022)
  | handshake (s : TcpSession S (TcpHandshake S))
  | relay (s : TcpSession S TcpRelay)
  | closed (isTcpReset : Bool) (net : TcpNet S)

def TcpState.net {S : Ss2022} : TcpState S → TcpNet S
  | .handshake s => s.net
  | .relay s => s.net
  | .closed _ net => net

section Network
variable {S : Ss2022} {U : Type}

def tcpSessionClose (s : TcpSession S U) (isTcpReset : Bool) : TcpState S :=
  .closed isTcpReset s.net

/-- The server socket accepts bytes. -/
def TcpNet.accept (net : TcpNet S) (fd : Option Nat) (bytes : List UInt8) : TcpNet S :=
  match fd with
  | none => net
  | some k => { net with
      socket := Function.update net.socket k
        { net.socket k with accepted := (net.socket k).accepted ++ bytes } }

/-- `shutdown(fd, SHUT_WR)` on the server socket. -/
def TcpNet.shutdownServer (net : TcpNet S) (fd : Option Nat) : TcpNet S :=
  match fd with
  | none => net
  | some k => { net with
      socket := Function.update net.socket k { net.socket k with shutdown := true } }

/-- A new socket is connected to a server, to carry a header. -/
def TcpNet.connect (net : TcpNet S) (server : Nat) (header : List UInt8)
    (ssClient : S.Enc × S.Dec) (queued : Nat) : TcpNet S :=
  { net with
    opened := net.opened + 1
    socket := Function.update net.socket net.opened
      ⟨server, header, ssClient, header.take queued, false⟩ }

end Network

end Tproxy
