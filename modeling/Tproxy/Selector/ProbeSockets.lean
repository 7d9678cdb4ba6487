import Tproxy.Selector.TcpProbeMoves
import Tproxy.Selector.UdpProbes

namespace Tproxy

/-- The socket of a probe; `stop` closes it, and none is -1. -/
class SsProbeSocket (π : Type) [SsProbe π] where
  sockfd : π → Option Nat
  stop_sockfd : ∀ p, sockfd (SsProbe.stop p) = none

section Fits
variable {π : Type} [SsProbe π] [SsProbeSocket π] {w : ProbeWorld π} {i : Nat}

/-- A probe has a socket as long as its timer is armed. -/
def SocketFits (p : π) : Prop := (SsProbeSocket.sockfd p).isSome = SsProbe.timerActive p

theorem SocketFits.stop (p : π) : SocketFits (SsProbe.stop p) := by
  rw [SocketFits, SsProbeSocket.stop_sockfd, SsProbe.stop_timerActive]
  rfl

theorem SocketFits.set {p : π} (fits : SocketFits p) (w : ProbeWorld π) : SocketFits ((w.set i p).probe i) := by
  rw [ProbeWorld.set_probe]
  exact fits

theorem SocketFits.finish (w : ProbeWorld π) (i latencyMs : Nat) (errored : Bool) (now : ℚ) :
    SocketFits ((w.finish i latencyMs errored now).probe i) := by
  rw [ProbeWorld.finish_probe]
  exact .stop _

/-- The start of a probe and its callbacks keep its socket fitting. -/
structure ProbeProtocol.KeepsSockets (P : ProbeProtocol π) : Prop where
  start : ∀ a w i, SsProbe.timerActive (w.probe i) = false → SocketFits (w.probe i) →
    SocketFits ((P.start a w i).probe i)
  onIo : ∀ a w i, SsProbe.timerActive (w.probe i) = true → SocketFits (w.probe i) →
    SocketFits ((P.onIo a w i).probe i)

end Fits

section Tcp
variable {S : Ss2022} {p q : TcpProbe S} {w : ProbeWorld (TcpProbe S)} {i : Nat}

instance : SsProbeSocket (TcpProbe S) where
  sockfd := TcpProbe.sockfd
  stop_sockfd _ := rfl

/-- The probe has its timer and its socket. -/
def TcpProbe.HasSocket (p : TcpProbe S) : Prop := p.timerActive = true ∧ p.sockfd.isSome = true

theorem TcpProbe.HasSocket.fits (has : p.HasSocket) : SocketFits p := has.2.trans has.1.symm

theorem SocketFits.hasSocket (fits : SocketFits p) (armed : p.timerActive = true) : p.HasSocket :=
  ⟨armed, Eq.trans fits armed⟩

theorem TcpProbe.HasSocket.set (has : p.HasSocket) (w : ProbeWorld (TcpProbe S)) :
    ((w.set i p).probe i).HasSocket := by
  rw [ProbeWorld.set_probe]
  exact has

/-- A turn of the loop of `tcp_probe_on_recv` keeps the socket. -/
def TurnHasSocket : Except (TcpProbeVerdict S) (TcpProbe S) → Prop
  | .ok q => q.HasSocket
  | .error verdict => verdict.probe.HasSocket

theorem tcpProbeAwaitPayload_hasSocket (has : p.HasSocket) : TurnHasSocket (tcpProbeAwaitPayload p) := by
  unfold tcpProbeAwaitPayload
  simp only
  split <;> exact has

theorem tcpProbeOpenChunk_hasSocket (has : p.HasSocket) : TurnHasSocket (tcpProbeOpenChunk p) := by
  unfold tcpProbeOpenChunk
  split
  · split
    · exact has
    · exact tcpProbeAwaitPayload_hasSocket has
  · split
    · exact has
    · exact tcpProbeAwaitPayload_hasSocket has
  · split
    · exact has
    · simp only
      split <;> exact has
  · exact has

theorem tcpProbeOpenChunks_hasSocket (has : p.HasSocket) : (tcpProbeOpenChunks p).probe.HasSocket := by
  fun_induction tcpProbeOpenChunks p with
  | case1 p _ verdict ends =>
    have turn := tcpProbeOpenChunk_hasSocket has
    rw [ends] at turn
    exact turn
  | case2 p _ q next ih =>
    have turn := tcpProbeOpenChunk_hasSocket has
    rw [next] at turn
    exact ih turn
  | case3 p => exact has

theorem tcpProbeRecv_hasSocket (has : p.HasSocket) (recv : Except Errno (List UInt8)) :
    (tcpProbeRecv p recv).probe.HasSocket := by
  unfold tcpProbeRecv
  split
  · exact has
  · split
    · exact has
    · exact has
    · exact has
    · simp only
      split
      · exact has
      · exact tcpProbeOpenChunks_hasSocket has

theorem tcpProbeSend_hasSocket (has : p.HasSocket) (sends : List (Except Errno Nat)) :
    (tcpProbeSend p sends).1.HasSocket := by
  fun_induction tcpProbeSend p sends with
  | case1 => exact has
  | case2 p _ rest ih => exact ih has
  | case3 => exact has
  | case4 => exact has
  | case5 => exact has
  | case6 p _ n rest ns _ ih => exact ih has
  | case7 => exact has

theorem tcpProbeSocketError_fits (w : ProbeWorld (TcpProbe S)) (i : Nat) (err : Errno) (now : ℚ) :
    SocketFits ((tcpProbeSocketError w i err now).probe i) := by
  unfold tcpProbeSocketError
  split
  · exact .finish ..
  · exact (SocketFits.stop _).set w

theorem tcpProbeOnRecv_fits (has : (w.probe i).HasSocket) (a : TcpProbeAnswer) :
    SocketFits ((tcpProbeOnRecv a w i).probe i) := by
  have received := tcpProbeRecv_hasSocket has a.recv
  unfold tcpProbeOnRecv
  split
  · rename_i p verdict
    rw [verdict] at received
    exact received.fits.set w
  · exact .finish ..
  · exact tcpProbeSocketError_fits ..

theorem tcpProbeOnSend_fits (has : (w.probe i).HasSocket) (a : TcpProbeAnswer) :
    SocketFits ((tcpProbeOnSend a w i).probe i) := by
  have sent := tcpProbeSend_hasSocket has a.sends
  unfold tcpProbeOnSend
  split
  · rename_i p ends
    rw [ends] at sent
    have waiting : TcpProbe.HasSocket { p with ioActive := true } := sent
    exact waiting.fits.set w
  · exact tcpProbeSocketError_fits ..
  · exact .finish ..
  · rename_i p ends
    rw [ends] at sent
    split
    · rename_i q waits
      have waiting : q.HasSocket := by
        unfold tcpProbeAwaitResponse at waits
        simp only at waits
        split at waits
        · cases waits
        · cases waits
          exact sent
      exact waiting.fits.set w
    · exact .finish ..

theorem tcpProbeOnConnected_fits (has : (w.probe i).HasSocket) (a : TcpProbeAnswer) :
    SocketFits ((tcpProbeOnConnected a w i).probe i) := by
  unfold tcpProbeOnConnected
  split
  · exact tcpProbeSocketError_fits ..
  · exact tcpProbeOnSend_fits (TcpProbe.HasSocket.set (by exact has) w) a

theorem tcpProbeOnIo_fits (has : (w.probe i).HasSocket) (a : TcpProbeAnswer) :
    SocketFits ((tcpProbeOnIo a w i).probe i) := by
  unfold tcpProbeOnIo
  split
  · exact tcpProbeOnConnected_fits has a
  · exact tcpProbeOnSend_fits has a
  · exact tcpProbeOnRecv_fits has a

theorem tcpProbeConnect_fits (tfo : Bool) (a : TcpProbeSetup S) (w : ProbeWorld (TcpProbe S)) (i fd : Nat)
    (p : TcpProbe S) : SocketFits ((tcpProbeConnect tfo a w i fd p).probe i) := by
  unfold tcpProbeConnect
  simp only
  split
  · exact tcpProbeSocketError_fits ..
  · exact tcpProbeOnConnected_fits (TcpProbe.HasSocket.set ⟨rfl, rfl⟩ w) a.answer
  · exact SocketFits.set (by rfl) w

theorem tcpProbes_sockets (S : Ss2022) (tfo : Bool) (target : S.Addr) : (tcpProbes S tfo target).KeepsSockets where
  start a w i disarmed fits := by
    change SocketFits ((tcpProbeStart tfo target a w i).probe i)
    unfold tcpProbeStart
    simp only
    split
    · change SocketFits ((ssCtxGet _ _ _).1.probe i)
      rw [(ssCtxGet_same ..).2]
      exact SocketFits.set (by exact fits) w
    · split
      · exact SocketFits.set (by exact fits) _
      · split
        · exact SocketFits.set (by exact fits) _
        · split
          · exact SocketFits.set (by exact fits) _
          · exact tcpProbeConnect_fits ..
  onIo a _ _ armed fits := tcpProbeOnIo_fits (SocketFits.hasSocket fits armed) a

end Tcp

section Udp
variable {U : Ss2022Udp} {p : UdpProbe U} {w : ProbeWorld (UdpProbe U)} {i : Nat}

instance : SsProbeSocket (UdpProbe U) where
  sockfd := UdpProbe.sockfd
  stop_sockfd _ := rfl

theorem udpProbeQuery_fits (target : U.Addr) (a : UdpProbeSetup U) (fits : SocketFits p)
    (w : ProbeWorld (UdpProbe U)) (i fd : Nat) : SocketFits ((udpProbeQuery target a w i fd p).probe i) := by
  unfold udpProbeQuery
  simp only
  split
  · exact SocketFits.set (by exact fits) _
  · split
    · split <;> exact SocketFits.set (by exact fits) _
    · exact SocketFits.set (by rfl) _

theorem udpProbes_sockets (U : Ss2022Udp) (target : U.Addr) : (udpProbes U target).KeepsSockets where
  start a w i disarmed fits := by
    change SocketFits ((udpProbeStart target a w i).probe i)
    unfold udpProbeStart
    simp only
    split
    · change SocketFits ((ssCtxGet _ _ _).1.probe i)
      rw [(ssCtxGet_same ..).2]
      exact SocketFits.set (by exact fits) w
    · split
      · exact SocketFits.set (by exact fits) _
      · exact udpProbeQuery_fits target a (by exact fits) ..
  onIo a w i armed fits := by
    change SocketFits ((udpProbeOnRecv a w i).probe i)
    unfold udpProbeOnRecv
    simp only
    split
    · exact fits
    · exact fits
    · exact .finish ..
    · split
      · exact SocketFits.set (by exact fits) w
      · exact .finish ..

end Udp

end Tproxy
