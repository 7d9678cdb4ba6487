import Tproxy.Tcp.Thread

namespace Tproxy.TcpThread

variable {S : Ss2022} (cfg : TcpConfig)

/-- A function of the relay that works on one session and, where it fails,
resets that and returns false. -/
def tcpRelayPart (part : TcpSession S TcpRelay → Except (TcpState S) (TcpSession S TcpRelay))
    (p : Nat) : Program (TcpThread S) Bool := do
  match part (← relay p) with
  | .ok s =>
    setRelay p s
    return true
  | .error _ =>
    tcpSessionClose cfg p true
    return false

/-- `tcp_relay_drain` of the output for the client. -/
def tcpRelayDrainClient (sends : List (Except Errno Nat)) (p : Nat) : Program (TcpThread S) Bool :=
  tcpRelayPart cfg (p := p) fun s =>
    let r := s.union
    let d := tcpRelayDrain (fun i => r.serverToClientIn (r.serverToClientInHead + i)) sends
      r.serverToClientOutOff r.serverToClientOutLen
    let s := { s with
      net := { s.net with delivered := s.net.delivered ++ d.sent }
      union := { r with serverToClientOutOff := d.off, serverToClientOutLen := d.len } }
    if d.failed then .error (Tproxy.tcpSessionClose s true) else .ok s

/-- `tcp_relay_drain` of the output for the server. -/
def tcpRelayDrainServer (sends : List (Except Errno Nat)) (p : Nat) : Program (TcpThread S) Bool :=
  tcpRelayPart cfg (fun s => Tproxy.tcpRelayWriteToServer s sends) p

def tcpRelayProcessServerData (p : Nat) : Program (TcpThread S) Bool :=
  tcpRelayPart cfg Tproxy.tcpRelayProcessServerData p

def tcpRelayReadFromClient (recvs : List (Except Errno (List UInt8))) (p : Nat) :
    Program (TcpThread S) Bool :=
  tcpRelayPart cfg (fun s => Tproxy.tcpRelayReadFromClient s recvs) p

def tcpRelayHandleServerEof (p : Nat) : Program (TcpThread S) Bool :=
  tcpRelayPart cfg Tproxy.tcpRelayHandleServerEof p

def tcpRelayWriteToClient (sends : List (Except Errno Nat)) (p : Nat) :
    Program (TcpThread S) Bool := do
  if ← tcpRelayDrainClient cfg sends p then
    let s ← relay p
    let r := s.union
    if r.serverToClientOutLen = 0 ∧ r.serverToClientInConsume > 0 then
      let (head, inLen) :=
        tcpBufConsume r.serverToClientInHead r.serverToClientInLen r.serverToClientInConsume
      setRelay p { s with union := { r with
        serverToClientInHead := head
        serverToClientInLen := inLen
        serverToClientInConsume := 0 } }
    return true
  else return false

def tcpRelayWriteToServer (sends : List (Except Errno Nat)) (p : Nat) :
    Program (TcpThread S) Bool :=
  tcpRelayDrainServer cfg sends p

def tcpRelayProcessPendingServerData (p : Nat) : Program (TcpThread S) Bool := do
  let r := (← relay p).union
  if r.serverToClientOutLen ≠ 0 ∨ r.serverToClientInLen = 0 then return true
  else tcpRelayProcessServerData cfg p

def tcpRelayReadFromServer (recvs : List (Except Errno (List UInt8))) (p : Nat) :
    Program (TcpThread S) Bool := do
  let s ← relay p
  let r := tcpRelayCompactServerInput s.union
  let s := { s with union := r }
  setRelay p s
  match recvUpTo (tcpSsRespInBufsiz - r.serverToClientInHead - r.serverToClientInLen) recvs with
  | .error .eagain => return true
  | .error _ =>
    tcpSessionClose cfg p true
    return false
  | .ok [] => tcpRelayHandleServerEof cfg p
  | .ok bytes =>
    setRelay p { s with
      net := { s.net with arrived := s.net.arrived ++ bytes }
      union := { r with
        serverToClientIn :=
          writeAt r.serverToClientIn (r.serverToClientInHead + r.serverToClientInLen) bytes
        serverToClientInLen := r.serverToClientInLen + bytes.length } }
    tcpRelayProcessServerData cfg p

def tcpRelayHandleWrite (e : RelayEvent) (p : Nat) : Program (TcpThread S) Bool :=
  if ¬e.write then return true
  else match e.side with
    | .client => tcpRelayWriteToClient cfg e.sends p
    | .server => tcpRelayWriteToServer cfg e.sends p

def tcpRelayHandleRead (e : RelayEvent) (p : Nat) : Program (TcpThread S) Bool := do
  if ¬e.read then return true
  else match e.side with
    | .client =>
      if (← relay p).union.clientToServerLen ≠ 0 then return true
      else tcpRelayReadFromClient cfg e.recvs p
    | .server =>
      if (← relay p).union.serverToClientOutLen ≠ 0 then return true
      else tcpRelayReadFromServer cfg e.recvs p

def tcpRelayUpdateWatchers (p : Nat) : Program (TcpThread S) Unit := do
  let s := tcpRelayShutdownClient (tcpRelayShutdownServer (← relay p))
  setRelay p s
  if s.union.clientEof ∧ s.union.serverEof ∧ s.union.clientToServerLen = 0 ∧
      s.union.serverToClientOutLen = 0 ∧ s.union.serverToClientInLen = 0 then
    tcpSessionClose cfg p false
  else
    let clientRead := !s.union.clientEof && s.union.clientToServerLen = 0
    let clientWrite := decide (s.union.serverToClientOutLen > 0)
    let serverRead := !s.union.serverEof && s.union.serverToClientOutLen = 0 &&
      s.union.serverToClientInLen < tcpSsRespInBufsiz
    let serverWrite := decide (s.union.clientToServerLen > 0)
    -- both watchers are stopped, set, and started if there are events
    setRelay p { s with
      clientWatcher := ⟨s.clientWatcher.cb, clientRead, clientWrite, clientRead || clientWrite⟩
      serverWatcher := ⟨s.serverWatcher.cb, serverRead, serverWrite, serverRead || serverWrite⟩ }
    evSet p .client (clientRead || clientWrite)
    evSet p .server (serverRead || serverWrite)

def tcpRelayOnEvent (e : RelayEvent) (p : Nat) : Program (TcpThread S) Unit := do
  if ← tcpRelayHandleWrite cfg e p then
    if ← tcpRelayProcessPendingServerData cfg p then
      if ← tcpRelayHandleRead cfg e p then
        tcpRelayUpdateWatchers cfg p

end Tproxy.TcpThread
