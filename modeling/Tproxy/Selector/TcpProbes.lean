import Tproxy.Selector.ProbeCounts
import Tproxy.Selector.TcpProbe

namespace Tproxy

def tcpProbeSendBufSize : Nat := 1024

/-- `TCP_PROBE_REQUEST`, without its NUL. -/
def tcpProbeRequest : List UInt8 :=
  "GET /generate_204 HTTP/1.1\r\nHost: google.com\r\nConnection: close\r\n\r\n".toList.map Char.toUInt8

variable {S : Ss2022}

instance : SsProbe (TcpProbe S) where
  serverIdx := TcpProbe.serverIdx
  attemptEpoch := TcpProbe.attemptEpoch
  ioActive := TcpProbe.ioActive
  timerActive := TcpProbe.timerActive
  stop p := { p with ioActive := false, timerActive := false, sockfd := none }
  stop_ioActive _ := rfl
  stop_timerActive _ := rfl

/-- What the system answers to a callback: the loop time, the error of
`tcp_has_error`, the results of each `send` and of `recv`. -/
structure TcpProbeAnswer where
  now : ℚ
  soError : Option Errno
  sends : List (Except Errno Nat)
  recv : Except Errno (List UInt8)

/-- What it answers to a start: whether the context of the server can be made,
the client, the descriptor of the socket, how it connects, and what follows
when it is connected at once. -/
structure TcpProbeSetup (S : Ss2022) where
  ctxInit : Bool
  clientInit : Option (S.Enc × S.Dec)
  socket : Option Nat
  sendto : List (Except Errno Nat)
  connect : Except Errno Unit
  answer : TcpProbeAnswer

def tcpProbeFinish (w : ProbeWorld (TcpProbe S)) (i latencyMs : Nat) (errored : Bool) (now : ℚ) :
    ProbeWorld (TcpProbe S) := w.finish i latencyMs errored now

def tcpProbeSocketError (w : ProbeWorld (TcpProbe S)) (i : Nat) (err : Errno) (now : ℚ) :
    ProbeWorld (TcpProbe S) :=
  if ¬socketErrorIsLocal err then
    tcpProbeFinish w i (probeElapsedMs (w.probe i).startTs now) true now
  else (w.set i (SsProbe.stop (w.probe i))).done i

def tcpProbeOnRecv (a : TcpProbeAnswer) (w : ProbeWorld (TcpProbe S)) (i : Nat) :
    ProbeWorld (TcpProbe S) :=
  match tcpProbeRecv (w.probe i) a.recv with
  | .pending p => w.set i p
  | .finished p call =>
    tcpProbeFinish (w.set i p) i (probeElapsedMs p.startTs a.now) call.errored a.now
  | .socketError p err => tcpProbeSocketError (w.set i p) i err a.now

/-- How the loop of `tcp_probe_on_send` ends. -/
inductive TcpProbeSendEnd
  | sent
  | wouldBlock
  | nothing
  | failed (err : Errno)

/-- The loop of `tcp_probe_on_send`. A `send` without an answer would block. -/
def tcpProbeSend (p : TcpProbe S) (sends : List (Except Errno Nat)) : TcpProbe S × TcpProbeSendEnd :=
  if p.sendOff < p.sendBuf.length then
    match sends with
    | [] => (p, .wouldBlock)
    | .error .eintr :: rest => tcpProbeSend p rest
    | .error .eagain :: _ => (p, .wouldBlock)
    | .error err :: _ => (p, .failed err)
    | .ok n :: rest =>
      let ns := min n (p.sendBuf.length - p.sendOff)
      if ns = 0 then (p, .nothing) else tcpProbeSend { p with sendOff := p.sendOff + ns } rest
  else (p, .sent)

def tcpProbeOnSend (a : TcpProbeAnswer) (w : ProbeWorld (TcpProbe S)) (i : Nat) :
    ProbeWorld (TcpProbe S) :=
  match tcpProbeSend (w.probe i) a.sends with
  | (p, .wouldBlock) => w.set i { p with ioActive := true }
  | (p, .failed err) => tcpProbeSocketError (w.set i p) i err a.now
  | (p, .nothing) => tcpProbeFinish (w.set i p) i (probeElapsedMs p.startTs a.now) true a.now
  | (p, .sent) =>
    match tcpProbeAwaitResponse p with
    | some p => w.set i p
    | none =>
      let p := { p with
        ioActive := false
        state := .recvRespHdr
        bufLen := 0
        statusLen := 0
        bufNeed := S.responseHeaderSize p.tcpClient.2 }
      tcpProbeFinish (w.set i p) i (probeElapsedMs p.startTs a.now) true a.now

def tcpProbeOnConnected (a : TcpProbeAnswer) (w : ProbeWorld (TcpProbe S)) (i : Nat) :
    ProbeWorld (TcpProbe S) :=
  match a.soError with
  | some err => tcpProbeSocketError w i err a.now
  | none => tcpProbeOnSend a (w.set i { w.probe i with state := .sending, ioCallback := .onSend }) i

/-- The callback of the watcher of the socket. -/
def tcpProbeOnIo (a : TcpProbeAnswer) (w : ProbeWorld (TcpProbe S)) (i : Nat) :
    ProbeWorld (TcpProbe S) :=
  match (w.probe i).ioCallback with
  | .onConnected => tcpProbeOnConnected a w i
  | .onSend => tcpProbeOnSend a w i
  | .onRecv => tcpProbeOnRecv a w i

def tcpProbeOnTimeout (now : ℚ) (w : ProbeWorld (TcpProbe S)) (i : Nat) : ProbeWorld (TcpProbe S) :=
  tcpProbeFinish w i ssMaxRttMs true now

/-- `tcp_probe_start` once there is a socket `fd` for the request in `p`. -/
def tcpProbeConnect (tfo : Bool) (a : TcpProbeSetup S) (w : ProbeWorld (TcpProbe S)) (i fd : Nat)
    (p : TcpProbe S) : ProbeWorld (TcpProbe S) :=
  let p := { p with
    serverIdx := i
    sockfd := some fd
    startTs := a.answer.now
    state := .connecting
    ioActive := false
    ioCallback := .onConnected
    timerActive := true }
  let (conn, nsend) := tcpConnect (if tfo then p.sendBuf else []) a.sendto a.connect
  let sendOff := if nsend.getD 0 > 0 then nsend.getD 0 else p.sendOff
  match conn with
  | .failed err => tcpProbeSocketError (w.set i p) i err a.answer.now
  | .connected => tcpProbeOnConnected a.answer (w.set i { p with sendOff := sendOff }) i
  | .inProgress => w.set i { p with sendOff := sendOff, ioActive := true }

/-- `tcp_probe_start`; `target` is port 80 of google.com. -/
def tcpProbeStart (tfo : Bool) (target : S.Addr) (a : TcpProbeSetup S) (w : ProbeWorld (TcpProbe S))
    (i : Nat) : ProbeWorld (TcpProbe S) :=
  let p := { w.probe i with attemptEpoch := ssAttemptEpoch w.selector i }
  let (w, ctx) := ssCtxGet (w.set i p) i a.ctxInit
  match (if ctx then a.clientInit else none) with
  | none => w.done i
  | some client =>
    let (client, ret) := S.buildRequestHeader client target tcpProbeRequest
    let p := { p with tcpClient := client }
    match ret with
    | .error _ => (w.set i p).done i
    | .ok header =>
      -- the library refuses a header that does not fit
      if header.length > tcpProbeSendBufSize then (w.set i p).done i
      else
        let p := { p with sendBuf := header, sendOff := 0 }
        match a.socket with
        | none => (w.set i p).done i
        | some fd => tcpProbeConnect tfo a w i fd p

/-- A report of a worker about a business connection. -/
inductive TcpReport
  | failure (serverIdx : Nat)
  | success (serverIdx attemptEpoch : Nat)

def TcpReport.apply (s : SsSelector) : TcpReport → SsSelector
  | .failure serverIdx => serverSelectorReportTcpFailure s serverIdx
  | .success serverIdx attemptEpoch => serverSelectorReportTcpSuccess s serverIdx attemptEpoch

end Tproxy
