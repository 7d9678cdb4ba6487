import Mathlib.Algebra.Order.Field.Rat
import Tproxy.Lib.ByteBuffer
import Tproxy.Tcp.Session

namespace Tproxy

/-- `TCP_PROBE_RECV_BUF_SIZE`, the size of `buf`. -/
def tcpProbeRecvBufSize : Nat := 65535 + 2 + 16

def tcpProbeStatusLen : Nat := 12

def tcpProbeLengthLen : Nat := 2 + 16

/-- `tcp_probe_state_t`. -/
inductive TcpProbeState
  | connecting
  | sending
  | recvRespHdr
  | recvPayload
  | recvLength
deriving DecidableEq

/-- The callback of the watcher of a probe's socket. -/
inductive TcpProbeCallback
  | onConnected
  | onSend
  | onRecv
deriving DecidableEq

/-- `ss_tcp_probe_t`; `sendBuf` is `send_buf[0..send_len]` and no `sockfd` is -1. -/
structure TcpProbe (S : Ss2022) where
  tcpClient : S.Enc × S.Dec
  startTs : ℚ
  attemptEpoch : Nat
  sendBuf : List UInt8
  sendOff : Nat
  bufLen : Nat
  bufNeed : Nat
  statusLen : Nat
  ioActive : Bool
  ioCallback : TcpProbeCallback
  timerActive : Bool
  serverIdx : Nat
  sockfd : Option Nat
  state : TcpProbeState
  responsePayloadLen : UInt16
  status : Nat → UInt8
  buf : Nat → UInt8

/-- The calls of `tcp_probe_finish` in `tcp_probe_on_recv`. -/
inductive TcpProbeEnd
  | bufferFull
  | eof
  | responseHeader
  | length
  | payload
  | oversize
  | status (ok : Bool)
deriving DecidableEq

/-- The `errored` argument of the call. -/
def TcpProbeEnd.errored : TcpProbeEnd → Bool
  | .status ok => !ok
  | _ => true

/-- How `tcp_probe_on_recv` leaves a probe: it waits for more input, or it calls
`tcp_probe_finish` or `tcp_probe_socket_error`. -/
inductive TcpProbeVerdict (S : Ss2022)
  | pending (p : TcpProbe S)
  | finished (p : TcpProbe S) (call : TcpProbeEnd)
  | socketError (p : TcpProbe S) (err : Errno)

variable {S : Ss2022}

def tcpProbeConsume (p : TcpProbe S) (n : Nat) : TcpProbe S :=
  { p with
    bufLen := p.bufLen - n
    buf := if p.bufLen - n > 0 then writeAt p.buf 0 (readAt p.buf n (p.bufLen - n)) else p.buf }

/-- The next chunk is the payload that `response_payload_len` announces. -/
def tcpProbeAwaitPayload (p : TcpProbe S) : Except (TcpProbeVerdict S) (TcpProbe S) :=
  let p := { p with state := .recvPayload, bufNeed := p.responsePayloadLen.toNat + 16 }
  if p.bufNeed > tcpProbeRecvBufSize then .error (.finished p .oversize) else .ok p

/-- `"HTTP/1.1 204"` and `"HTTP/1.0 204"`. -/
def tcpProbeStatusLines : List (List UInt8) :=
  [[72, 84, 84, 80, 47, 49, 46, 49, 32, 50, 48, 52], [72, 84, 84, 80, 47, 49, 46, 48, 32, 50, 48, 52]]

/-- The test of the status line, `ok`. -/
def tcpProbeStatusOk (status : List UInt8) : Bool := status ∈ tcpProbeStatusLines

/-- The body of the loop of `tcp_probe_on_recv`; `error` where it returns. -/
def tcpProbeOpenChunk (p : TcpProbe S) : Except (TcpProbeVerdict S) (TcpProbe S) :=
  match p.state with
  | .recvRespHdr =>
    match S.openResponseHeader p.tcpClient.2 (readAt p.buf 0 p.bufNeed) with
    | none => .error (.finished p .responseHeader)
    | some (dec, len) =>
      tcpProbeAwaitPayload (tcpProbeConsume
        { p with tcpClient := (p.tcpClient.1, dec), responsePayloadLen := len } p.bufNeed)
  | .recvLength =>
    match S.openLength p.tcpClient.2 (readAt p.buf 0 tcpProbeLengthLen) with
    | none => .error (.finished p .length)
    | some (dec, len) =>
      tcpProbeAwaitPayload (tcpProbeConsume
        { p with tcpClient := (p.tcpClient.1, dec), responsePayloadLen := len } tcpProbeLengthLen)
  | .recvPayload =>
    match S.openPayload p.tcpClient.2 (readAt p.buf 0 p.bufNeed) (p.bufNeed - 16) with
    | none => .error (.finished p .payload)
    | some (dec, ⟨plain, _⟩) =>
      let copyLen := min (tcpProbeStatusLen - p.statusLen) plain.length
      let p := tcpProbeConsume
        { p with
          tcpClient := (p.tcpClient.1, dec)
          status := writeAt p.status p.statusLen (plain.take copyLen)
          statusLen := p.statusLen + copyLen } p.bufNeed
      if p.statusLen ≥ tcpProbeStatusLen then
        .error (.finished p (.status (tcpProbeStatusOk (readAt p.status 0 tcpProbeStatusLen))))
      else .ok { p with state := .recvLength, bufNeed := tcpProbeLengthLen }
  | _ => .error (.pending p)

/-- What bounds the loop: input, and a turn that needs none. -/
def TcpProbe.fuel (p : TcpProbe S) : Nat := 2 * p.bufLen + (if p.bufNeed = 0 then 1 else 0)

@[simp] theorem tcpProbeConsume_bufLen (p : TcpProbe S) (n : Nat) :
    (tcpProbeConsume p n).bufLen = p.bufLen - n := rfl

theorem tcpProbeAwaitPayload_ok {p q : TcpProbe S} (next : tcpProbeAwaitPayload p = .ok q) :
    q = { p with state := .recvPayload, bufNeed := p.responsePayloadLen.toNat + 16 } := by
  simp only [tcpProbeAwaitPayload] at next
  split at next
  · cases next
  · exact (Except.ok.inj next).symm

/-- Each turn of the loop takes input away, or asks for some. -/
theorem tcpProbeOpenChunk_fuel {p q : TcpProbe S} (loops : p.bufLen ≥ p.bufNeed)
    (next : tcpProbeOpenChunk p = .ok q) : q.fuel < p.fuel := by
  unfold tcpProbeOpenChunk at next
  split at next
  · split at next
    · cases next
    · rw [tcpProbeAwaitPayload_ok next]
      simp only [TcpProbe.fuel, tcpProbeConsume_bufLen, Nat.add_eq_zero_iff]
      split <;> split <;> omega
  · split at next
    · cases next
    · rw [tcpProbeAwaitPayload_ok next]
      simp only [TcpProbe.fuel, tcpProbeConsume_bufLen, Nat.add_eq_zero_iff, tcpProbeLengthLen]
      split <;> split <;> omega
  · split at next
    · cases next
    · simp only at next
      split at next
      · cases next
      · cases next
        simp only [TcpProbe.fuel, tcpProbeConsume_bufLen, tcpProbeLengthLen, Nat.reduceAdd,
          OfNat.ofNat_ne_zero, if_false]
        split <;> omega
  · cases next

/-- The loop of `tcp_probe_on_recv`. -/
def tcpProbeOpenChunks (p : TcpProbe S) : TcpProbeVerdict S :=
  if _ : p.bufLen ≥ p.bufNeed then
    match _ : tcpProbeOpenChunk p with
    | .error verdict => verdict
    | .ok q => tcpProbeOpenChunks q
  else .pending p
termination_by p.fuel
decreasing_by exact tcpProbeOpenChunk_fuel ‹_› ‹_›

/-- `tcp_probe_on_recv` up to the call that it ends with. No bytes received
mean end of file. -/
def tcpProbeRecv (p : TcpProbe S) (recv : Except Errno (List UInt8)) : TcpProbeVerdict S :=
  if p.bufLen = tcpProbeRecvBufSize then .finished p .bufferFull
  else
    match recv with
    | .error .eintr => .pending p
    | .error .eagain => .pending p
    | .error err => .socketError p err
    | .ok bytes =>
      let bytes := bytes.take (tcpProbeRecvBufSize - p.bufLen)
      if bytes.length = 0 then .finished p .eof
      else tcpProbeOpenChunks { p with
        buf := writeAt p.buf p.bufLen bytes
        bufLen := p.bufLen + bytes.length }

/-- The end of `tcp_probe_on_send`: the probe turns to the response; `none`
when the header has no size that fits, which finishes the probe. -/
def tcpProbeAwaitResponse (p : TcpProbe S) : Option (TcpProbe S) :=
  let need := S.responseHeaderSize p.tcpClient.2
  if need = 0 ∨ need > tcpProbeRecvBufSize then none
  else some { p with
    ioActive := true
    ioCallback := .onRecv
    state := .recvRespHdr
    bufLen := 0
    statusLen := 0
    bufNeed := need }

end Tproxy
