import Tproxy.Selector.ProbeCounts
import Tproxy.Tcp.Socket
import Tproxy.Udp.Ss2022

namespace Tproxy

/-- `ss_udp_probe_t`; no `sockfd` is -1. -/
structure UdpProbe (U : Ss2022Udp) where
  ioActive : Bool
  timerActive : Bool
  serverIdx : Nat
  startTs : ℚ
  attemptEpoch : Nat
  sockfd : Option Nat
  udpSession : U.Session
  dnsTxid : UInt16

variable {U : Ss2022Udp}

instance : SsProbe (UdpProbe U) where
  serverIdx := UdpProbe.serverIdx
  attemptEpoch := UdpProbe.attemptEpoch
  ioActive := UdpProbe.ioActive
  timerActive := UdpProbe.timerActive
  stop p := { p with ioActive := false, timerActive := false, sockfd := none }
  stop_ioActive _ := rfl
  stop_timerActive _ := rfl

/-- The type A question for google.com. -/
def buildDnsQuery (cap : Nat) (txid : UInt16) : List UInt8 :=
  let qnameAndType : List UInt8 :=
    [6, 103, 111, 111, 103, 108, 101, 3, 99, 111, 109, 0, 0, 1, 0, 1]
  if cap < 12 + qnameAndType.length then []
  else [(txid >>> 8).toUInt8, txid.toUInt8, 1, 0, 0, 1, 0, 0, 0, 0, 0, 0] ++ qnameAndType

/-- The test of `udp_probe_on_recv` on a payload. -/
def udpProbeResponseOk (dnsTxid : UInt16) (payload : List UInt8) : Bool :=
  payload.length ≥ 4 &&
    (payload.getD 0 0).toUInt16 <<< 8 ||| (payload.getD 1 0).toUInt16 = dnsTxid &&
    payload.getD 2 0 &&& 128 ≠ 0 && payload.getD 3 0 &&& 15 = 0

/-- The loop time and the result of `recv`. -/
structure UdpProbeAnswer where
  now : ℚ
  recv : Except Errno (List UInt8)

/-- What the system answers to a start: whether the context of the server can
be made, the session, the descriptor of the socket, and how the query is sent. -/
structure UdpProbeSetup (U : Ss2022Udp) where
  ctxInit : Bool
  sessionInit : Option U.Session
  socket : Option Nat
  sendto : Except Errno Unit
  now : ℚ

def udpProbeFinish (w : ProbeWorld (UdpProbe U)) (i latencyMs : Nat) (errored : Bool) (now : ℚ) :
    ProbeWorld (UdpProbe U) := w.finish i latencyMs errored now

def udpProbeOnRecv (a : UdpProbeAnswer) (w : ProbeWorld (UdpProbe U)) (i : Nat) :
    ProbeWorld (UdpProbe U) :=
  let p := w.probe i
  let elapsed := probeElapsedMs p.startTs a.now
  match a.recv with
  | .error .eintr => w
  | .error .eagain => w
  | .error _ => udpProbeFinish w i elapsed true a.now
  | .ok pkt =>
    match U.openDatagram p.udpSession (pkt.take 4096) with
    | (session, none) => w.set i { p with udpSession := session }
    | (session, some payload) =>
      let ok := udpProbeResponseOk p.dnsTxid payload
      udpProbeFinish (w.set i { p with udpSession := session }) i elapsed (!ok) a.now

def udpProbeOnTimeout (now : ℚ) (w : ProbeWorld (UdpProbe U)) (i : Nat) : ProbeWorld (UdpProbe U) :=
  udpProbeFinish w i ssMaxRttMs true now

/-- The next `g_dns_txid_seq`, which skips 0. -/
def nextDnsTxid (seq : UInt16) : UInt16 :=
  if seq + 1 ≠ 0 then seq + 1 else seq + 1 + 1

/-- `udp_probe_start` once there is a socket `fd` for the session in `p`. -/
def udpProbeQuery (target : U.Addr) (a : UdpProbeSetup U) (w : ProbeWorld (UdpProbe U)) (i fd : Nat)
    (p : UdpProbe U) : ProbeWorld (UdpProbe U) :=
  let txid := nextDnsTxid w.dnsTxidSeq
  let (session, packet) := U.sealDatagram p.udpSession target (buildDnsQuery 64 txid)
  let p := { p with dnsTxid := txid, udpSession := session }
  let w := { w with dnsTxidSeq := txid }.set i p
  match packet with
  | none => w.done i
  | some _ =>
    match a.sendto with
    | .error err =>
      if socketErrorIsLocal err then w.done i
      else (w.record i i 0 true p.attemptEpoch a.now).done i
    | .ok () =>
      w.set i { p with
        serverIdx := i
        sockfd := some fd
        startTs := a.now
        ioActive := true
        timerActive := true }

/-- `udp_probe_start`; `target` is port 53 of 8.8.4.4. -/
def udpProbeStart (target : U.Addr) (a : UdpProbeSetup U) (w : ProbeWorld (UdpProbe U)) (i : Nat) :
    ProbeWorld (UdpProbe U) :=
  let p := { w.probe i with attemptEpoch := ssAttemptEpoch w.selector i }
  let (w, ctx) := ssCtxGet (w.set i p) i a.ctxInit
  match (if ctx then a.sessionInit else none) with
  | none => w.done i
  | some session =>
    let p := { p with udpSession := session }
    match a.socket with
    | none => (w.set i p).done i
    | some fd => udpProbeQuery target a w i fd p

section Moves
variable {p : UdpProbe U} {w : ProbeWorld (UdpProbe U)} {i : Nat}

theorem udpProbeFinish_move (own : (w.probe i).serverIdx = i) (latencyMs : Nat) (errored : Bool)
    (now : ℚ) : ProbeMove i w (udpProbeFinish w i latencyMs errored now) :=
  .finish own latencyMs errored now

theorem udpProbeOnRecv_move (armed : (w.probe i).timerActive = true)
    (own : (w.probe i).serverIdx = i) (a : UdpProbeAnswer) :
    ProbeMove i w (udpProbeOnRecv a w i) := by
  unfold udpProbeOnRecv
  simp only
  split
  · exact .going (.refl ..) armed own
  · exact .going (.refl ..) armed own
  · exact udpProbeFinish_move own ..
  · split
    · exact .going_set (by exact armed) (by exact own) w
    · refine .of_same (.set ..) (udpProbeFinish_move ?_ ..)
      rw [ProbeWorld.set_probe]
      exact own

theorem udpProbeQuery_move (target : U.Addr) (a : UdpProbeSetup U) (disarmed : p.timerActive = false)
    (silent : p.ioActive = false) (w : ProbeWorld (UdpProbe U)) (i fd : Nat) :
    ProbeMove i w (udpProbeQuery target a w i fd p) := by
  unfold udpProbeQuery
  simp only
  have numbered : w.SameBut i { w with dnsTxidSeq := nextDnsTxid w.dnsTxidSeq } :=
    ⟨rfl, rfl, rfl, fun _ _ => rfl⟩
  refine .of_same numbered ?_
  split
  · exact .skip (by exact disarmed) (by exact silent) ..
  · split
    · split
      · exact .skip (by exact disarmed) (by exact silent) ..
      · refine .recorded 0 true _ a.now (.set ..) ?_ ?_
        · rw [ProbeWorld.set_probe]
          exact disarmed
        · rw [ProbeWorld.set_probe]
          exact silent
    · exact .of_same (.set ..) (.going_set (by rfl) (by rfl) _)

theorem udpProbeStart_move (target : U.Addr) (a : UdpProbeSetup U)
    (disarmed : (w.probe i).timerActive = false) (silent : (w.probe i).ioActive = false) :
    ProbeMove i w (udpProbeStart target a w i) := by
  unfold udpProbeStart
  simp only
  obtain ⟨ctxSame, _⟩ := ssCtxGet_same
    (w.set i { w.probe i with attemptEpoch := ssAttemptEpoch w.selector i }) i a.ctxInit
  refine .of_same ((ProbeWorld.SameBut.set w i _).trans ctxSame) ?_
  split
  · exact .ctx_skip (by exact disarmed) (by exact silent) ..
  · split
    · exact .skip (by exact disarmed) (by exact silent) ..
    · exact udpProbeQuery_move target a (by exact disarmed) (by exact silent) ..

end Moves

/-- The probes of `g_udp_selector`; the workers report nothing to it. -/
def udpProbes (U : Ss2022Udp) (target : U.Addr) : ProbeProtocol (UdpProbe U) where
  Setup := UdpProbeSetup U
  Answer := UdpProbeAnswer
  Report := Empty
  start := udpProbeStart target
  onIo := udpProbeOnRecv
  onTimeout := udpProbeOnTimeout
  report r _ := r.elim
  start_move a _ _ disarmed silent := udpProbeStart_move target a disarmed silent
  onIo_move a _ _ armed own := udpProbeOnRecv_move armed own a
  onTimeout_eq _ _ _ := rfl
  report_frame r := r.elim

end Tproxy
